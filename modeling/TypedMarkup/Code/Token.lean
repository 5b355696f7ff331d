import TypedMarkup.Code.Literal
import TypedMarkup.Text.Blank
import TypedMarkup.Text.Quoted

namespace TypedMarkup.Code

open Text

inductive Bracket where
  | round
  | square
  | curly
  deriving DecidableEq, Repr

inductive Token where
  | word (s : String)
  | raw (s : String)
  | mark (c : Char) (joint : Bool)
  | lifetime (name : String)
  | literal (k : Literal.Class) (text : String)
  | group (b : Bracket) (inner : List Token)
  deriving Repr

namespace Token

def marks : List Char :=
  "~!@#$%^&*-=+|;:,<.>/?'".toList

def isCommentStart : List Char → Bool
  | '/' :: '/' :: _ => true
  | '/' :: '*' :: _ => true
  | _ => false

def isMark (s : List Char) : Bool :=
  !isCommentStart s && s.head?.any marks.contains

def isSpace (c : Char) : Bool :=
  Text.isBlank c || c == '\u200e' || c == '\u200f'

def lineOf : List Char → List Char × List Char
  | [] => ([], [])
  | '\n' :: s => ([], '\n' :: s)
  | '\r' :: '\n' :: s => ([], '\n' :: s)
  | c :: s => let (l, r) := lineOf s; (c :: l, r)

def blockOf : Nat → List Char → Option (List Char × List Char)
  | depth, '/' :: '*' :: s => (blockOf (depth + 1) s).map fun (i, r) => ('/' :: '*' :: i, r)
  | depth, '*' :: '/' :: s =>
    if depth ≤ 1 then some ([], s)
    else (blockOf (depth - 1) s).map fun (i, r) => ('*' :: '/' :: i, r)
  | depth, c :: s => (blockOf depth s).map fun (i, r) => (c :: i, r)
  | _, [] => none

inductive Comment where
  | plain
  | outer
  | inner
  deriving DecidableEq, Repr

def comment : List Char → Option (Comment × List Char × List Char)
  | '/' :: '/' :: s =>
    let (l, r) := lineOf s
    match s with
    | '!' :: _ => some (.inner, l, r)
    | '/' :: '/' :: _ => some (.plain, l, r)
    | '/' :: _ => some (.outer, l, r)
    | _ => some (.plain, l, r)
  | '/' :: '*' :: s =>
    (blockOf 1 s).map fun (i, r) =>
      match s with
      | '!' :: _ => (.inner, i, r)
      | '*' :: '*' :: _ => (.plain, i, r)
      | '*' :: '/' :: _ => (.plain, i, r)
      | '*' :: _ => (.outer, i, r)
      | _ => (.plain, i, r)
  | _ => none

def returnsEndLines : List Char → Bool
  | [] => true
  | '\r' :: '\n' :: s => returnsEndLines s
  | '\r' :: _ => false
  | _ :: s => returnsEndLines s

def note (text : String) : Token :=
  .group .square [.word "doc", .mark '=' false, .literal .text (Text.literal text)]

def commentTokens (c : Comment) (text : List Char) : Option (List Token) :=
  let note := note (String.ofList text)
  match c with
  | .plain => some []
  | .outer => if returnsEndLines text then some [.mark '#' false, note] else none
  | .inner => if returnsEndLines text then some [.mark '#' false, .mark '!' false, note] else none

def literalStarts : List String :=
  ["r\"", "r#\"", "r##", "b\"", "b'", "br\"", "br#", "c\"", "cr\"", "cr#"]

def plainWord (s : List Char) : Option (String × List Char) :=
  match s with
  | [] => none
  | c :: r =>
    if isWordStart c then some (String.ofList (c :: r.takeWhile isWordPart), r.dropWhile isWordPart)
    else none

def wordOf (s : List Char) : Option (Token × List Char) :=
  match s with
  | 'r' :: '#' :: r =>
    match plainWord r with
    | some (w, rest) =>
      if ["_", "super", "self", "Self", "crate"].contains w then none else some (.raw w, rest)
    | none => none
  | _ => (plainWord s).map fun (w, r) => (.word w, r)

def quoteOf (s : List Char) : Option (Token × List Char) :=
  match wordOf s with
  | some (t, after) =>
    if after.head? == some '\'' || (after.head? == some '#' && s.take 2 != ['r', '#']) then none
    else if (Literal.take s).isSome then some (.mark '\'' true, s)
    else match t with
      | .word w => some (.lifetime w, after)
      | .raw w => some (.lifetime ("r#" ++ w), after)
      | _ => none
  | none => none

def markOf (s : List Char) : Option (Token × List Char) :=
  match s with
  | [] => none
  | c :: r =>
    if !isMark s then none
    else if c = '\'' then quoteOf r
    else some (.mark c (isMark r), r)

def leaf (s : List Char) : Option (Token × List Char) :=
  match Literal.take s with
  | some (k, r) => some (.literal k (String.ofList (s.take (s.length - r.length))), r)
  | none =>
    match markOf s with
    | some x => some x
    | none => if literalStarts.any fun w => w.toList.isPrefixOf s then none else wordOf s

def openingOf : Char → Option Bracket
  | '(' => some .round
  | '[' => some .square
  | '\x7b' => some .curly
  | _ => none

def closingOf : Char → Option Bracket
  | ')' => some .round
  | ']' => some .square
  | '\x7d' => some .curly
  | _ => none

def scan : Nat → List (Bracket × List Token) → List Token → List Char → Option (List Token)
  | 0, _, _, _ => none
  | _ + 1, [], before, [] => some before.reverse
  | _ + 1, _ :: _, _, [] => none
  | n + 1, above, before, c :: s =>
    if isSpace c then scan n above before s
    else
      match comment (c :: s) with
      | some (k, text, r) =>
        (commentTokens k text).bind fun ts => scan n above (ts.reverse ++ before) r
      | none =>
        if Literal.failure.isPrefixOf (c :: s) then
          scan n above (.literal .failed (String.ofList Literal.failure) :: before)
            (s.drop (Literal.failure.length - 1))
        else
          match openingOf c, closingOf c, above with
          | some b, _, _ => scan n ((b, before) :: above) [] s
          | none, some b, (b', outside) :: rest =>
            if b = b' then scan n rest (.group b before.reverse :: outside) s else none
          | none, some _, [] => none
          | none, none, _ => (leaf (c :: s)).bind fun (t, r) => scan n above (t :: before) r

def ofChars (s : List Char) : Option (List Token) :=
  let s := if s.head? == some '\ufeff' then s.drop 1 else s
  scan (s.length + 1) [] [] s

def ofText (s : String) : List Token :=
  (ofChars s.toList).getD []

mutual

def size : Token → Nat
  | .group _ ts => count ts + 1
  | _ => 1

def count : List Token → Nat
  | [] => 0
  | t :: ts => t.size + count ts

end

end Token

end TypedMarkup.Code
