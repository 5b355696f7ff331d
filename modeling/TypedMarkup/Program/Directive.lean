import TypedMarkup.Program.Pattern
import TypedMarkup.Storage.Report
import TypedMarkup.Text.Order

namespace TypedMarkup

open Storage

abbrev Ceiling := Nat

def Storage.Level.rank : Level → Nat
  | error => 1
  | warn => 2
  | info => 3
  | debug => 4

namespace Ceiling

def everything : Ceiling := 5

def named? : String → Option Ceiling
  | "off" => some 0
  | "error" => some 1
  | "warn" => some 2
  | "info" => some 3
  | "debug" => some 4
  | "trace" => some 5
  | _ => none

def number? (s : List Char) : Option Nat :=
  let digits := if s.head? == some '+' then s.drop 1 else s
  if digits.isEmpty || !digits.all Char.isDigit then none
  else some (digits.foldl (fun n c => 10 * n + (c.toNat - '0'.toNat)) 0)

def ofText? (s : List Char) : Option Ceiling :=
  match number? s with
  | some n => if n ≤ everything then some n else none
  | none => named? (String.ofList (s.map Char.toLower))

end Ceiling

structure Asked where
  name : String
  valued : Bool
  deriving DecidableEq, Repr

structure Directive where
  target : Option String
  span : Option String
  fields : List Asked
  ceiling : Ceiling
  deriving DecidableEq, Repr

namespace Directive

def all : Directive :=
  ⟨none, none, [], .everything⟩

inductive Reading where
  | start
  | word
  | span (start : Nat)
  | field (start : Nat)
  | fields
  | target
  | level (start : Nat)
  deriving DecidableEq, Repr

def isStart (c : Char) : Bool :=
  c == '-' || c == ':' || c == '_' || Text.isAlphanumeric c

def cut (s : List Char) (start stop : Nat) : List Char :=
  (s.take stop).drop start

def isDecimal (s : List Char) : Bool :=
  let whole := s.takeWhile Char.isDigit
  let afterWhole := s.drop whole.length
  let pointed := afterWhole.head? == some '.'
  let part := if pointed then (afterWhole.drop 1).takeWhile Char.isDigit else []
  let afterPart := if pointed then afterWhole.drop (part.length + 1) else afterWhole
  let exponent (s : List Char) : Bool :=
    match s with
    | [] => true
    | e :: s =>
      let digits := if s.head?.any ['+', '-'].contains then s.drop 1 else s
      e.toLower == 'e' && !digits.isEmpty && digits.all Char.isDigit
  ["inf", "infinity", "nan"].contains (String.ofList (s.map Char.toLower)) ||
    !(whole ++ part).isEmpty && exponent afterPart

def isComparable (s : List Char) : Bool :=
  Pattern.isPattern s || s.head? == some '+' && isDecimal (s.drop 1)

def asked? (s : List Char) : Option Asked :=
  let name := s.takeWhile (· != '=')
  match s, s.drop name.length with
  | [], _ => none
  | _, '=' :: rest =>
    if isComparable (rest.takeWhile (· != '=')) then some ⟨String.ofList name, true⟩ else none
  | _, _ => some ⟨String.ofList name, false⟩

def step (s : List Char) (r : Reading) (d : Directive) (i : Nat) (c : Char) :
    Option (Reading × Directive) :=
  let text (start : Nat) : String := String.ofList (cut s start i)
  match r, c with
  | .start, '[' => some (.span (i + 1), d)
  | .start, _ => if isStart c then some (.word, d) else none
  | .word, '=' => some (.level (i + 1), { d with target := some (text 0) })
  | .word, '[' => some (.span (i + 1), { d with target := some (text 0) })
  | .word, _ => some (.word, d)
  | .span start, ']' => some (.target, { d with span := some (text start) })
  | .span start, '\x7b' =>
    some (.field (i + 1), { d with span := if start < i then some (text start) else none })
  | .span start, _ => some (.span start, d)
  | .field start, '\x7d' =>
    (asked? (cut s start i)).map fun f => (.fields, { d with fields := d.fields ++ [f] })
  | .field start, _ => some (.field start, d)
  | .fields, ']' => some (.target, d)
  | .target, '=' => some (.level (i + 1), d)
  | .level start, _ => some (.level start, d)
  | _, _ => none

def steps (s : List Char) : Reading → Directive → Nat → List Char → Option (Reading × Directive)
  | r, d, _, [] => some (r, d)
  | r, d, i, c :: rest => (step s r d i c).bind fun (r, d) => steps s r d (i + 1) rest

def finish (s : List Char) (d : Directive) : Reading → Option Directive
  | .word =>
    match Ceiling.ofText? s with
    | some c => some { d with ceiling := c }
    | none => some { d with target := some (String.ofList s) }
  | .level start =>
    if s.drop start = [] then some d
    else (Ceiling.ofText? (s.drop start)).map fun c => { d with ceiling := c }
  | .target => some d
  | _ => none

-- Blanks around a directive are not looked at, but what is cut out of it is counted from the start
-- of the whole text.
def parse (s : List Char) : Option Directive :=
  (steps s .start .all 0 (Text.trim s)).bind fun (r, d) => finish s d r

def isPlain (d : Directive) : Bool :=
  d.span.isNone && d.fields.all (!·.valued)

def concerns (d : Directive) (r : Report) : Bool :=
  d.isPlain && (d.target.all fun t => r.origin.name.startsWith t) &&
    d.fields.all fun f => r.fieldNames.contains f.name

def notBefore : List Asked → List Asked → Bool
  | f :: fs, g :: gs => if f.name = g.name then notBefore fs gs else Text.le g.name f.name
  | _, _ => true

def isAsSpecific (d e : Directive) : Bool :=
  let length (d : Directive) : Nat := d.target.elim 0 (·.utf8ByteSize + 1)
  length e < length d ||
    (length e == length d &&
      (e.fields.length < d.fields.length ||
        (e.fields.length == d.fields.length && notBefore d.fields e.fields)))

def strongest (ds : List Directive) : Option Directive :=
  ds.foldl (fun best d => if best.all d.isAsSpecific then some d else best) none

end Directive

end TypedMarkup
