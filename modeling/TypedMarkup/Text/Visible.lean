namespace TypedMarkup.Text

def steering : List Char :=
  ['\x07', '\x08', '\x0c', '\x1b', '\x7f']

def isLateControl (c : Char) : Bool :=
  0x80 ≤ c.toNat && c.toNat ≤ 0x9f

def visibleChar (c : Char) : List Char :=
  let digits := Nat.toDigits 16 c.toNat
  if steering.contains c then
    ['\\', 'x'] ++ (if digits.length < 2 then '0' :: digits else digits)
  else if isLateControl c then ['\\', 'u', '\x7b'] ++ digits ++ ['\x7d']
  else [c]

def visible (s : String) : String :=
  String.ofList (s.toList.flatMap visibleChar)

end TypedMarkup.Text
