import TypedMarkup.Text.Word

namespace TypedMarkup.Code.Literal

open Text

abbrev Scan := List Char → Option (List Char)

def isHex (c : Char) : Bool :=
  c.isDigit || ('a' ≤ c && c ≤ 'f') || ('A' ≤ c && c ≤ 'F')

def hexValue (c : Char) : Nat :=
  if c.isDigit then c.toNat - '0'.toNat
  else if 'a' ≤ c then c.toNat - 'a'.toNat + 10
  else c.toNat - 'A'.toNat + 10

def skip (p : Char → Bool) (s : List Char) : List Char :=
  s.dropWhile p

def suffix (s : List Char) : List Char :=
  match s with
  | c :: r => if isWordStart c then skip isWordPart r else s
  | [] => []

structure Kind where
  ascii : Bool
  bytes : Bool
  zero : Bool

def plainKind : Kind := ⟨false, false, true⟩

def byteKind : Kind := ⟨true, true, true⟩

def foreignKind : Kind := ⟨false, true, false⟩

def Kind.allows (k : Kind) (c : Char) : Bool :=
  (!k.ascii || c.toNat < 0x80) && (k.zero || c != '\x00')

def twoDigits (k : Kind) : Scan
  | a :: b :: s =>
    if isHex a && isHex b && (k.bytes || hexValue a < 8) &&
        (k.zero || hexValue a != 0 || hexValue b != 0) then some s
    else none
  | _ => none

def codePoint (k : Kind) : Nat → Nat → Scan
  | _, _, [] => none
  | count, value, c :: s =>
    if c = '_' && count > 0 then codePoint k count value s
    else if c = '\x7d' && count > 0 then
      if value.isValidChar && (k.zero || value != 0) then some s else none
    else if isHex c && count < 6 then codePoint k (count + 1) (16 * value + hexValue c) s
    else none

def simpleEscapes : List Char :=
  ['n', 'r', 't', '\\', '\'', '"']

def escape (k : Kind) : Scan
  | 'x' :: s => twoDigits k s
  | 'u' :: '\x7b' :: s => if k.ascii then none else codePoint k 0 0 s
  | '0' :: s => if k.zero then some s else none
  | c :: s => if simpleEscapes.contains c then some s else none
  | [] => none

def continued : Scan
  | [] => none
  | '\r' :: '\n' :: s => continued s
  | '\r' :: _ => none
  | c :: s => if c = ' ' || c = '\t' || c = '\n' then continued s else some (c :: s)

def stringRest (k : Kind) : Nat → Scan
  | 0, _ => none
  | _, [] => none
  | _, '"' :: s => some (suffix s)
  | n + 1, '\r' :: '\n' :: s => stringRest k n s
  | _, '\r' :: _ => none
  | n + 1, '\\' :: '\n' :: s => (continued s).bind (stringRest k n)
  | n + 1, '\\' :: '\r' :: '\n' :: s => (continued s).bind (stringRest k n)
  | _, '\\' :: '\r' :: _ => none
  | n + 1, '\\' :: s => (escape k s).bind (stringRest k n)
  | n + 1, c :: s => if k.allows c then stringRest k n s else none

def stringAfterQuote (k : Kind) (s : List Char) : Option (List Char) :=
  stringRest k (s.length + 1) s

def rawRest (k : Kind) (hashes : Nat) : Scan
  | [] => none
  | '\r' :: '\n' :: s => rawRest k hashes s
  | '\r' :: _ => none
  | c :: s =>
    if c = '"' && (s.take hashes == List.replicate hashes '#') then some (suffix (s.drop hashes))
    else if k.allows c then rawRest k hashes s
    else none

def rawString (k : Kind) (s : List Char) : Option (List Char) :=
  let hashes := (s.takeWhile (· == '#')).length
  match s.drop hashes with
  | '"' :: r => if hashes ≤ 255 then rawRest k hashes r else none
  | _ => none

def charRest (k : Kind) (s : List Char) : Option (List Char) :=
  let inner : Option (List Char) :=
    match s with
    | '\\' :: r => escape k r
    | c :: r => if k.allows c then some r else none
    | [] => none
  match inner with
  | some ('\'' :: r) => some (suffix r)
  | _ => none

def base (s : List Char) : Nat × List Char :=
  match s with
  | '0' :: 'x' :: r => (16, r)
  | '0' :: 'o' :: r => (8, r)
  | '0' :: 'b' :: r => (2, r)
  | _ => (10, s)

def digits (b : Nat) : Bool → Scan
  | empty, [] => if empty then none else some []
  | empty, c :: s =>
    if c = '_' then if empty && b == 10 then none else digits b empty s
    else if c.isDigit then if hexValue c < b then digits b false s else none
    else if isHex c && hexValue c < b then digits b false s
    else if empty then none
    else some (c :: s)

def wordBreak (s : List Char) : Option (List Char) :=
  match s with
  | c :: _ => if isWordPart c then none else some s
  | [] => some []

def integer (s : List Char) : Option (List Char) :=
  let (b, r) := base s
  (digits b true r).bind fun r => wordBreak (suffix r)

def isDecimal (c : Char) : Bool :=
  c.isDigit || c == '_'

def exponent (s : List Char) : Option (List Char) :=
  let digits (r : List Char) : Option (List Char) :=
    if (r.takeWhile isDecimal).any Char.isDigit then some (skip isDecimal r) else none
  match s.dropWhile (· == '_') with
  | c :: r => if c == '+' || c == '-' then digits r else digits s
  | [] => none

def floatDigits (s : List Char) : Option (List Char) :=
  match s with
  | [] => none
  | c :: _ =>
    if !c.isDigit then none
    else
      match skip isDecimal s with
      | '.' :: r =>
        if r.head?.any fun c => c == '.' || isWordStart c then none
        else
          let r' := skip isDecimal r
          match r' with
          | e :: t => if e == 'e' || e == 'E' then some ((exponent t).getD r') else some r'
          | [] => some []
      | e :: t => if e == 'e' || e == 'E' then exponent t else none
      | [] => none

def float (s : List Char) : Option (List Char) :=
  (floatDigits s).bind fun r => wordBreak (suffix r)

inductive Class where
  | text
  | byteText
  | foreignText
  | byte
  | character
  | integer
  | float
  | failed
  deriving DecidableEq, Repr

def failure : List Char :=
  "(/*ERROR*/)".toList

def take (s : List Char) : Option (Class × List Char) :=
  let as (k : Class) (r : Option (List Char)) : Option (Class × List Char) := r.map (k, ·)
  match s with
  | '"' :: r => as .text (stringAfterQuote plainKind r)
  | 'b' :: '"' :: r => as .byteText (stringAfterQuote byteKind r)
  | 'c' :: '"' :: r => as .foreignText (stringAfterQuote foreignKind r)
  | 'b' :: 'r' :: r => as .byteText (rawString byteKind r)
  | 'c' :: 'r' :: r => as .foreignText (rawString foreignKind r)
  | 'r' :: r => as .text (rawString plainKind r)
  | 'b' :: '\'' :: r => as .byte (charRest byteKind r)
  | '\'' :: r => as .character (charRest plainKind r)
  | _ => (as .float (float s)).or (as .integer (integer s))

end TypedMarkup.Code.Literal
