import TypedMarkup.Text.Printable.Table

namespace TypedMarkup.Text

def hex (n : Nat) : List Char :=
  Nat.toDigits 16 n

def isHidden (c : Char) : Bool :=
  if 0x20 ≤ c.toNat && c.toNat < 0x7f then false
  else Printable.extending.has c || Printable.hidden.has c

def byNumber (c : Char) : List Char :=
  '\\' :: 'u' :: '\x7b' :: hex c.toNat ++ ['\x7d']

def spell (c : Char) : List Char :=
  if c = '\t' then ['\\', 't']
  else if c = '\n' then ['\\', 'n']
  else if c = '\r' then ['\\', 'r']
  else if c = '"' then ['\\', '"']
  else if c = '\\' then ['\\', '\\']
  else if isHidden c then byNumber c
  else [c]

def isOctal (c : Char) : Bool :=
  '0' ≤ c && c ≤ '7'

def encode : List Char → List Char
  | [] => []
  | c :: s => (if c = '\x00' then ['\\', '0'] else spell c) ++ encode s

def encodeLiteral : List Char → List Char
  | [] => []
  | c :: s =>
    (if c = '\x00' then
      if (s.head?.any isOctal) then ['\\', 'x', '0', '0'] else ['\\', '0']
    else spell c) ++ encodeLiteral s

def quoted (s : String) : String :=
  String.ofList ('"' :: encode s.toList ++ ['"'])

def literal (s : String) : String :=
  String.ofList ('"' :: encodeLiteral s.toList ++ ['"'])

end TypedMarkup.Text
