import TypedMarkup.Text.Lowercase.Table

namespace TypedMarkup.Text.Lowercase

def small (c : Char) : Char :=
  if c.toNat < 0x80 then c.toLower
  else match runs.find? fun (first, last, stride, _) =>
    first ≤ c.toNat && c.toNat ≤ last && (c.toNat - first) % stride == 0 with
    | some r => Char.ofNat (c.toNat + r.2.2.2).toNat
    | none => c

-- Whether a letter with a case is reached, looking through the characters that may be ignored.
def reachesCased (s : List Char) : Bool :=
  match s.dropWhile ignorable.has with
  | [] => false
  | c :: _ => cased.has c

def letter (before : List Char) (c : Char) (after : List Char) : List Char :=
  if c = 'Σ' then
    if reachesCased before && !reachesCased after then ['ς'] else ['σ']
  else if c = 'İ' then ['i', '\u0307']
  else [small c]

def lowerAfter (before : List Char) : List Char → List Char
  | [] => []
  | c :: s => letter before c s ++ lowerAfter (c :: before) s

end TypedMarkup.Text.Lowercase

namespace TypedMarkup.Text

def lower (s : List Char) : List Char :=
  Lowercase.lowerAfter [] s

def lowercase (s : String) : String :=
  String.ofList (lower s.toList)

end TypedMarkup.Text
