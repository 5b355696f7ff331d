import TypedMarkup.Code.Grammar.Attribute
import TypedMarkup.Code.ModulePath

namespace TypedMarkup.Code.Grammar

open Reader

def pathKeywords : List Due :=
  ["super", "self", "crate", "try"]

def argumentsAhead (inExpression : Bool) (ts : List Token) : Arguments :=
  if !inExpression && has ts "<" && !has ts "<=" && !has ts "<<=" then .direct
  else if has ts "::" && hasThird ts "<" then .afterColons
  else .none

def goesOn (ts : List Token) : Bool :=
  has ts "::" && !hasThird ts (.group .round)

section

variable (read : Parts)

def isConstant (ts : List Token) : Bool :=
  hasAny ts [.literal, .group .curly]

def constant : Reader Unit := do
  if has (← ahead) .literal then takeLiteral else attributedBlock read

def argument : Reader Unit := do
  let ts ← ahead
  if has ts .lifetime && !hasSecond ts "+" then takeLifetime
  else if isConstant ts then constant read
  else if (← read (.type true)) = .name then
    if ← takeIf "=" then
      if isConstant (← ahead) then constant read
      else
        let _ ← read (.type true)
    else if ← takeIf ":" then
      chain "+" (fun ts => hasAny ts [",", ">"]) do
        let _ ← read (.bound false true)

def arguments : Reader Unit := do
  let stop (ts : List Token) : Bool := has ts ">"
  take "<"
  list "," stop (argument read)
  take ">"

def argumentsAs : Arguments → Reader Unit
  | .none => return ()
  | .direct => arguments read
  | .afterColons => do
    take "::"
    arguments read

def segment (inExpression : Bool) : Reader Segment := do
  let ts ← ahead
  if hasAny ts pathKeywords then return ⟨← takeWord, .none⟩
  let w ← if has ts "Self" then takeWord else takeIdentifier
  let form := argumentsAhead inExpression (← ahead)
  argumentsAs read form
  return ⟨w, form⟩

def laterStep (inExpression : Bool) (ss : List Segment) : Reader (List Segment × Bool) := do
  if goesOn (← ahead) then
    take "::"
    return (ss ++ [← segment read inExpression], true)
  else return (ss, false)

def laterSegments (inExpression : Bool) : Reader (List Segment) :=
  loop (laterStep read inExpression) []

def path (inExpression : Bool) : Reader ModulePath := do
  let rooted ← takeIf "::"
  let s ← segment read inExpression
  return ⟨rooted, s, ← laterSegments read inExpression⟩

def functionArguments : Reader Unit := do
  inside .round <| commas do
    let _ ← read (.type true)
  if ← takeIf "->" then
    let _ ← read (.type false)

def startingType : Reader Unit := do
  take "<"
  let _ ← read (.type true)
  if ← takeIf "as" then
    let _ ← path read false
  take ">"
  take "::"

def qualifiedPath (inExpression : Bool) : Reader (Option ModulePath) := do
  if has (← ahead) "<" then
    startingType read
    loop (fun _ => do
      let _ ← segment read inExpression
      return ((), ← takeIf "::")) ()
    return none
  else return some (← path read inExpression)

end

end TypedMarkup.Code.Grammar
