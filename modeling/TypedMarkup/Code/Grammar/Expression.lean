import TypedMarkup.Code.Grammar.Type

namespace TypedMarkup.Code.Grammar

open Reader

def binaryOperators : List (String × Precedence) :=
  [("+=", .assign), ("-=", .assign), ("*=", .assign), ("/=", .assign), ("%=", .assign),
   ("^=", .assign), ("&=", .assign), ("|=", .assign), ("<<=", .assign), (">>=", .assign),
   ("&&", .and), ("||", .or), ("<<", .shift), (">>", .shift), ("==", .compare), ("<=", .compare),
   ("!=", .compare), (">=", .compare), ("+", .sum), ("-", .sum), ("*", .product), ("/", .product),
   ("%", .product), ("^", .bitXor), ("&", .bitAnd), ("|", .bitOr), ("<", .compare),
   (">", .compare)]

def binaryAhead (ts : List Token) : Option (String × Precedence) :=
  binaryOperators.find? fun o => has ts o.1

def assigns (ts : List Token) : Bool :=
  has ts "=" && !has ts "=>"

def precedenceAhead (ts : List Token) : Precedence :=
  match binaryAhead ts with
  | some o => o.2
  | none =>
    if assigns ts then .assign
    else if has ts ".." then .range
    else if has ts "as" then .cast
    else .jump

def hasDot (ts : List Token) : Bool :=
  has ts "." && !has ts ".."

def startsExpression (ts : List Token) : Bool :=
  startsAnyWord ts && !has ts "as" ||
    hasAny ts [.group .round, .group .square, .group .curly, .literal, .lifetime] ||
    hasAny ts ["..", "::", "#"] ||
    has ts "!" && !has ts "!=" || has ts "-" && !hasAny ts ["-=", "->"] ||
    has ts "*" && !has ts "*=" || has ts "|" && !has ts "|=" || has ts "&" && !has ts "&=" ||
    has ts "<" && !hasAny ts ["<=", "<<="]

def endsRange (braces : Bool) (ts : List Token) : Bool :=
  ts.isEmpty || hasDot ts || !braces && has ts (.group .curly) ||
    hasAny ts [",", ";", "?", "=>", "=", "+", "/", "%", "^", ">", "<=", "!=", "-=", "*=", "&=",
      "|=", "<<=", "as"]

def rangeLimits : Reader Bool := do
  let ts ← ahead
  if has ts "..=" then
    take "..="
    return true
  else if has ts ".." && !has ts "..." then
    take ".."
    return false
  else if has ts ".." then fail ["..="]
  else fail [".."]

def castFollower (ts : List Token) : Option String :=
  if hasDot ts then
    if hasSecond ts "await" then some (ticked ".await")
    else if hasSecond ts .identifier && (hasThird ts (.group .round) || hasThird ts "::") then
      some "a method call"
    else some "a field access"
  else if has ts "?" then some (ticked "?")
  else if has ts (.group .square) then some "indexing"
  else if has ts (.group .round) then some "a function call"
  else none

def indexFault (text : String) : Option Refusal :=
  let s := text.toList
  let (b, digits) := Literal.base s
  let isDigit (c : Char) : Bool := c == '_' || Literal.isHex c && Literal.hexValue c < b
  let add (n : Nat) (c : Char) : Nat := if c == '_' then n else b * n + Literal.hexValue c
  if !(s.head?.any Char.isDigit) || Literal.float s == some [] then some .indexForm
  else if (digits.dropWhile isDigit) ≠ [] then some .indexSuffix
  else if UInt32.size ≤ digits.foldl add 0 then some .indexSize
  else none

def checkIndex (text : String) : Reader Unit :=
  match indexFault text with
  | some r => refuse r
  | none => return ()

def pointedIndexes (text : String) : Reader Bool := do
  let parts := text.splitOn "."
  let isOpen := parts.getLast? == some ""
  let _ ← (if isOpen then parts.dropLast else parts).mapM checkIndex
  return isOpen

section

variable (read : Parts)

def expression : Reader Unit := do
  let _ ← read (.expression true)

def member : Reader Bool := do
  match ← ahead with
  | .literal .integer text :: _ =>
    checkIndex text
    advance 1
    return false
  | .mark '-' _ :: .literal .integer _ :: _ => refuse .indexSign
  | ts =>
    if has ts .identifier then
      let _ ← takeIdentifier
      return true
    else fail [.phrase "identifier or integer"]

def callArguments : Reader Unit :=
  inside .round (commas (expression read))

def memberAccess : Reader Unit := do
  if !(← takeIf "await") then
    let named ← member
    let generic := named && has (← ahead) "::"
    if generic then
      take "::"
      arguments read
    if named && (generic || has (← ahead) (.group .round)) then callArguments read

def suffixStep (form : Form) : Reader (Form × Bool) := do
  let ts ← ahead
  if has ts (.group .round) then
    callArguments read
    return (.plain, true)
  else if hasDot ts && form ≠ .range then
    take "."
    match ← ahead with
    | .literal .float text :: _ =>
      advance 1
      if ← pointedIndexes text then memberAccess read
    | _ => memberAccess read
    return (.plain, true)
  else if has ts (.group .square) then
    inside .square (expression read)
    return (.plain, true)
  else if has ts "?" && form ≠ .range then
    take "?"
    return (.plain, true)
  else return (form, false)

def suffixes (form : Form) : Reader Form :=
  loop (suffixStep read) form

def headExpression : Reader Unit := do
  let _ ← read (.expression false)

def ifExpression : Reader Unit :=
  loop (fun _ => do
    take "if"
    headExpression read
    block read
    if ← takeIf "else" then
      let ts ← ahead
      if has ts "if" then return ((), true)
      else if has ts (.group .curly) then
        block read
        return ((), false)
      else fail ["if", .group .curly]
    else return ((), false)) ()

def whileExpression : Reader Unit := do
  take "while"
  headExpression read
  attributedBlock read

def forExpression : Reader Unit := do
  take "for"
  let _ ← read .pattern
  take "in"
  headExpression read
  attributedBlock read

def loopExpression : Reader Unit := do
  take "loop"
  attributedBlock read

def tryBlock : Reader Unit := do
  take "try"
  block read

def unsafeBlock : Reader Unit := do
  take "unsafe"
  attributedBlock read

def constBlock : Reader Unit := do
  take "const"
  attributedBlock read

def labeled : Reader Unit := do
  takeLifetime
  take ":"
  let ts ← ahead
  if has ts "while" then whileExpression read
  else if has ts "for" then forExpression read
  else if has ts "loop" then loopExpression read
  else if has ts (.group .curly) then attributedBlock read
  else fail [.phrase "loop or block expression"]

def startsBinder (ts : List Token) : Bool :=
  has ts "for" && hasSecond ts "<" && (hasThird ts .lifetime || hasThird ts ">")

def arm : Reader Unit := do
  let _ ← outerAttributes read
  let _ ← read .pattern
  if ← takeIf "if" then expression read
  take "=>"
  let form ← read .standalone
  if form ≠ .block && !(← isDone) then take ","
  else
    let _ ← takeIf ","

def matchExpression : Reader Unit := do
  take "match"
  headExpression read
  inside .curly do
    innerAttributes read
    all (arm read)

end

end TypedMarkup.Code.Grammar
