import TypedMarkup.Code.Grammar.Part

namespace TypedMarkup.Code.Grammar

open Reader

def plainSegments : List Due :=
  [.identifier, "super", "self", "Self", "crate"]

def plainStep (trailing : Option Bool) : Reader (Option Bool × Bool) := do
  if hasAny (← ahead) plainSegments then
    let _ ← takeWord
    let more ← takeIf "::"
    return (some more, more)
  else return (trailing, false)

def plainPath : Reader Unit := do
  let _ ← takeIf "::"
  match ← loop plainStep none with
  | none =>
    let _ ← takeIdentifier
  | some true => fail [.phrase ("path segment after " ++ ticked "::")]
  | some false => return ()

section

variable (read : Parts)

def attributeValue : Reader Unit := do
  let lone ← foresee do
    takeLiteral
    isDone
  if lone = some true then takeLiteral
  else
    let ts ← ahead
    if has ts "#" && hasSecond ts (.group .square) then refuse .nestedAttribute
    let _ ← read (.expression true)

def attributeBody : Reader Unit := do
  if !(← takeIf "unsafe") then plainPath
  let ts ← ahead
  if hasAny ts [.group .round, .group .square, .group .curly] then
    let _ ← skipAny
  else if has ts "=" && !has ts "==" && !has ts "=>" then
    take "="
    attributeValue read

def attributeStep (any : Bool) : Reader (Bool × Bool) := do
  if has (← ahead) "#" then
    take "#"
    inside .square (attributeBody read)
    return (true, true)
  else return (any, false)

def outerAttributes : Reader Bool :=
  loop (attributeStep read) false

def innerStep : Reader (Unit × Bool) := do
  let ts ← ahead
  if has ts "#" && hasSecond ts "!" then
    take "#"
    take "!"
    inside .square (attributeBody read)
    return ((), true)
  else return ((), false)

def innerAttributes : Reader Unit :=
  loop (fun _ => innerStep read) ()

def attributedBlock : Reader Unit :=
  inside .curly do
    innerAttributes read
    let _ ← read .statements

def block : Reader Unit :=
  inside .curly do
    let _ ← read .statements

end

end TypedMarkup.Code.Grammar
