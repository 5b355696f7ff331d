import TypedMarkup.Text.Alphanumeric
import TypedMarkup.Text.Blank

namespace TypedMarkup.Pattern

abbrev Rest := Option (List Char)

structure Mode where
  folded : Bool
  wide : Bool
  spaced : Bool
  deriving DecidableEq, Repr

def plainMode : Mode :=
  ⟨false, true, false⟩

def isHexDigit (c : Char) : Bool :=
  c.isDigit || 'a' ≤ c && c ≤ 'f' || 'A' ≤ c && c ≤ 'F'

def hexNumber (s : List Char) : Nat :=
  s.foldl (fun n c =>
    16 * n + if c.isDigit then c.toNat - '0'.toNat else c.toLower.toNat - 'a'.toNat + 10) 0

def numbered (width : Nat) (s : List Char) : Option (Char × List Char) :=
  let digits := s.take width
  let n := hexNumber digits
  if digits.length = width && digits.all isHexDigit && n.isValidChar then
    some (Char.ofNat n, s.drop width)
  else none

def controls : List (Char × Char) :=
  [('a', '\x07'), ('f', '\x0c'), ('t', '\t'), ('n', '\n'), ('r', '\r'), ('v', '\x0b')]

def isEscapable (c : Char) : Bool :=
  c.toNat < 0x80 && !c.isAlphanum && c != '<' && c != '>'

inductive Item where
  | char (c : Char)
  | set
  | place
  deriving DecidableEq, Repr

def escaped (m : Mode) : List Char → Option (Item × List Char)
  | [] => none
  | 'x' :: s => (numbered 2 s).map fun (c, r) => (.char c, r)
  | 'u' :: s => (numbered 4 s).map fun (c, r) => (.char c, r)
  | 'U' :: s => (numbered 8 s).map fun (c, r) => (.char c, r)
  | c :: s =>
    if ['d', 's', 'w'].contains c then if m.wide then none else some (.set, s)
    else if ['b', 'B', '<', '>'].contains c then if m.wide then none else some (.place, s)
    else if ['A', 'z'].contains c then some (.place, s)
    else match controls.lookup c with
      | some d => some (.char d, s)
      | none => if isEscapable c then some (.char c, s) else none

def Mode.allows (m : Mode) : Item → Bool
  | .char c => !(m.folded && m.wide) && (m.wide || c.toNat < 0x80)
  | _ => true

def namedClasses : List String :=
  ["alnum", "alpha", "ascii", "blank", "cntrl", "digit", "graph", "lower", "print", "punct",
   "space", "upper", "word", "xdigit"]

def namedClass (s : List Char) : Rest :=
  match s with
  | ':' :: s =>
    let s := if s.head? == some '^' then s.drop 1 else s
    let name := s.takeWhile (· != ':')
    match s.drop name.length with
    | ':' :: ']' :: r => if namedClasses.contains (String.ofList name) then some r else none
    | _ => none
  | _ => none

def classItem (m : Mode) : List Char → Option (Item × List Char)
  | [] => none
  | '\\' :: s =>
    match escaped m s with
    | some (.place, _) => none
    | x => x
  | c :: s => some (.char c, s)

def classRange (m : Mode) (s : List Char) : Rest :=
  match classItem m s with
  | none => none
  | some (x, r) =>
    if !m.allows x then none
    else match r with
      | '-' :: d :: t =>
        if d == ']' || d == '-' then some r
        else match x, classItem m (d :: t) with
          | .char a, some (.char b, r') => if a ≤ b then some r' else none
          | _, _ => none
      | _ => some r

def classStart (m : Mode) (s : List Char) : Rest :=
  let negated := s.head? == some '^'
  let s := if negated then s.drop 1 else s
  if negated && !m.wide then none
  else
    let r := s.dropWhile (· == '-')
    if r.length = s.length && r.head? == some ']' then some (r.drop 1) else some r

def classes (m : Mode) : Nat → Nat → List Char → Rest
  | 0, _, _ => none
  | _, 0, s => some s
  | _, _, [] => none
  | n + 1, depth + 1, '[' :: s =>
    match namedClass s with
    | some r => if m.folded && m.wide then none else classes m n (depth + 1) r
    | none => (classStart m s).bind (classes m n (depth + 2))
  | n + 1, depth + 1, ']' :: s => classes m n depth s
  | n + 1, depth + 1, '&' :: '&' :: s => classes m n (depth + 1) s
  | n + 1, depth + 1, '-' :: '-' :: s => classes m n (depth + 1) s
  | n + 1, depth + 1, '~' :: '~' :: s => classes m n (depth + 1) s
  | n + 1, depth + 1, s => (classRange m s).bind (classes m n (depth + 1))

def isNameStart (c : Char) : Bool :=
  c == '_' || Text.isAlphanumeric c && !c.isDigit

def isNamePart (c : Char) : Bool :=
  c == '_' || c == '.' || c == '[' || c == ']' || Text.isAlphanumeric c

def groupName (s : List Char) : Rest :=
  let name := s.takeWhile (· != '>')
  match name, s.drop name.length with
  | c :: cs, '>' :: r => if isNameStart c && cs.all isNamePart then some r else none
  | _, _ => none

def flagNames : List Char :=
  ['i', 'm', 's', 'U', 'u', 'R', 'x']

def Mode.set (m : Mode) (on : Bool) : Char → Mode
  | 'i' => { m with folded := on }
  | 'u' => { m with wide := on }
  | 'x' => { m with spaced := on }
  | _ => m

def flags (m : Mode) (s : List Char) : Option (Mode × Bool × List Char) :=
  let text := s.takeWhile fun c => c != ':' && c != ')'
  let off := (text.dropWhile (· != '-')).drop 1
  let on := text.takeWhile (· != '-')
  let all := on ++ off
  let known := all.all flagNames.contains && all.eraseDups.length = all.length
  let dangling := text.contains '-' && off.isEmpty
  if !known || dangling then none
  else
    let m := off.foldl (fun m c => m.set false c) (on.foldl (fun m c => m.set true c) m)
    match s.drop text.length with
    | ':' :: r => some (m, true, r)
    | ')' :: r => if text.isEmpty then none else some (m, false, r)
    | _ => none

def opening (m : Mode) : List Char → Option (Mode × Bool × List Char)
  | '?' :: 'P' :: '<' :: s => (groupName s).map (m, true, ·)
  | '?' :: '<' :: '=' :: _ => none
  | '?' :: '<' :: '!' :: _ => none
  | '?' :: '<' :: s => (groupName s).map (m, true, ·)
  | '?' :: s => flags m s
  | s => some (m, true, s)

def unspaced (m : Mode) (s : List Char) : List Char :=
  match s with
  | '#' :: r => if m.spaced then (r.dropWhile (· != '\n')).drop 1 else s
  | c :: r => if m.spaced && Text.isBlank c then r else s
  | [] => []

-- Reads a pattern, where `above` holds the modes around the open groups and `some` tells whether
-- there is something to repeat. A count of repetitions is never complete, since braces end it.
def scan : Nat → List Mode → Mode → Bool → List Char → Bool
  | 0, _, _, _, _ => false
  | _, above, _, _, [] => above.isEmpty
  | n + 1, above, m, repeatable, c :: s =>
    let s' := unspaced m (c :: s)
    if s' ≠ c :: s then scan n above m repeatable s'
    else match c with
      | '(' =>
        match opening m s with
        | some (m', true, r) => scan n (m :: above) m' false r
        | some (m', false, r) => scan n above m' false r
        | none => false
      | ')' =>
        match above with
        | m' :: above => scan n above m' true s
        | [] => false
      | '|' => scan n above m false s
      | '[' =>
        match (classStart m s).bind (classes m (s.length + 1) 1) with
        | some r => scan n above m true r
        | none => false
      | '\x7b' => false
      | '\\' =>
        match escaped m s with
        | some (x, r) => m.allows x && scan n above m true r
        | none => false
      | '.' => m.wide && scan n above m true s
      | '^' => scan n above m true s
      | '$' => scan n above m true s
      | _ =>
        if ['*', '+', '?'].contains c then
          repeatable && scan n above m true (if s.head? == some '?' then s.drop 1 else s)
        else m.allows (.char c) && scan n above m true s

def isPattern (s : List Char) : Bool :=
  scan (s.length + 1) [] plainMode false s

end TypedMarkup.Pattern
