import TypedMarkup.Program.Directive

namespace TypedMarkup

open Storage

abbrev Filter := List Directive

namespace Filter

def upTo (l : Level) : Filter :=
  [{ Directive.all with ceiling := l.rank }]

-- A text without directives shows errors; one with a directive that cannot be read is none.
def parse (s : String) : Option Filter :=
  match (s.splitOn ",").filter (· ≠ "") with
  | [] => some (upTo .error)
  | ps => ps.mapM fun p => Directive.parse p.toList

def shows (f : Filter) (r : Report) : Bool :=
  (Directive.strongest (f.filter (·.concerns r))).any fun d => r.level.rank ≤ d.ceiling

end Filter

def filterOf (given : Option String) (verbose : Bool) : Filter :=
  (given.bind Filter.parse).getD (.upTo (if verbose then .debug else .info))

end TypedMarkup
