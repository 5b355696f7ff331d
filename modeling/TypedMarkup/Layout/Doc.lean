namespace TypedMarkup.Layout

inductive Fill where
  | consistent
  | filled
  deriving DecidableEq, Repr

inductive Doc where
  | word (s : String)
  | gap (blanks : Nat) (offset : Int) (comma : Bool)
  | cat (a b : Doc)
  | box (fill : Fill) (offset : Int) (body : Doc)
  deriving DecidableEq, Repr

namespace Doc

instance : Append Doc := ⟨cat⟩

instance : Coe String Doc := ⟨word⟩

def width : Doc → Nat
  | word s => s.utf8ByteSize
  | gap n _ _ => n
  | cat a b => a.width + b.width
  | box _ _ d => d.width

def lead : Doc → Nat → Nat
  | word s, after => s.utf8ByteSize + after
  | gap .., _ => 0
  | cat a b, after => a.lead (b.lead after)
  | box _ _ d, after => d.width + after

end Doc

def spaces (n : Nat) : String :=
  String.ofList (List.replicate n ' ')

structure Line where
  indent : Nat
  text : String
  deriving DecidableEq, Repr

def margin : Int := 89

def minimalRoom : Int := 60

def roomAt (indent : Int) : Int :=
  max (margin - indent) minimalRoom

structure Pen where
  done : List Line
  line : Line
  room : Int
  deriving Repr

namespace Pen

def start (indent : Nat) : Pen :=
  ⟨[], ⟨indent, ""⟩, roomAt indent⟩

def write (p : Pen) (s : String) : Pen :=
  { p with line := { p.line with text := p.line.text ++ s }, room := p.room - s.utf8ByteSize }

def blank (p : Pen) (n : Nat) : Pen :=
  if n = 0 then p else p.write (spaces n)

def turn (p : Pen) (indent : Int) (comma : Bool) : Pen :=
  let last := if comma then { p.line with text := p.line.text ++ "," } else p.line
  ⟨last :: p.done, ⟨indent.toNat, ""⟩, roomAt indent⟩

def lines (p : Pen) : List Line :=
  (p.line :: p.done).reverse

end Pen

structure Frame where
  indent : Int
  broken : Option Fill
  deriving Repr

def Doc.layout : Doc → Frame → Nat → Pen → Pen
  | word s, _, _, p => p.write s
  | gap n offset comma, f, after, p =>
    match f.broken with
    | none => p.blank n
    | some .consistent => p.turn (f.indent + offset) comma
    | some .filled =>
      if n + after ≤ p.room then p.blank n else p.turn (f.indent + offset) comma
  | cat a b, f, after, p => b.layout f after (a.layout f (b.lead after) p)
  | box fill offset d, f, after, p =>
    let g := if d.width + after ≤ p.room then ⟨f.indent, none⟩ else ⟨f.indent + offset, some fill⟩
    d.layout g after p

def Doc.lines (d : Doc) (start indent : Nat) : List Line :=
  (d.layout ⟨indent, some .consistent⟩ 0 (.start start)).lines

def Line.show (l : Line) : String :=
  spaces l.indent ++ l.text ++ "\n"

def textOf (ls : List Line) : String :=
  ls.foldl (fun acc l => acc ++ l.show) ""

end TypedMarkup.Layout
