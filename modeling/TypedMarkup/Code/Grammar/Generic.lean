import TypedMarkup.Code.Grammar.Path

namespace TypedMarkup.Code.Grammar

open Reader

section

variable (read : Parts)

def lifetimeParameter : Reader Unit := do
  takeLifetime
  if ← takeIf ":" then
    chain "+" (fun ts => ts.isEmpty || hasAny ts [",", ">"]) takeLifetime

def bounds (stop : List Token → Bool) : Reader Unit :=
  chain "+" stop do
    let _ ← read (.bound false true)

def typeParameter : Reader Unit := do
  let _ ← takeIdentifier
  if ← takeIf ":" then
    bounds read fun ts => ts.isEmpty || hasAny ts [",", ">", "="]
  if ← takeIf "=" then
    let _ ← read (.type true)

def constantDefault : Reader Unit := do
  let ts ← ahead
  if isConstant ts then constant read
  else if has ts .identifier then
    let _ ← takeIdentifier
  else fail []

def constParameter : Reader Unit := do
  take "const"
  let _ ← takeIdentifier
  take ":"
  let _ ← read (.type true)
  if ← takeIf "=" then constantDefault read

def boundParameter : Reader Unit := do
  let _ ← outerAttributes read
  let ts ← ahead
  if has ts .identifier then typeParameter read
  else if has ts .lifetime then lifetimeParameter
  else if has ts "const" then constParameter read
  else fail [.identifier, .lifetime, "const"]

def itemParameter : Reader Unit := do
  let _ ← outerAttributes read
  let ts ← ahead
  if has ts .lifetime then lifetimeParameter
  else if has ts .identifier then typeParameter read
  else if has ts "const" then constParameter read
  else if has ts "_" then take "_"
  else fail [.lifetime, .identifier, "const"]

def angleList (item : Reader Unit) : Reader Unit := do
  let stop (ts : List Token) : Bool := has ts ">"
  take "<"
  list "," stop item
  take ">"

def binder : Reader Unit := do
  take "for"
  angleList (boundParameter read)

def binderIf : Reader Bool := do
  if has (← ahead) "for" then
    binder read
    return true
  else return false

def parameters : Reader Unit := do
  if has (← ahead) "<" then angleList (itemParameter read)

def opensParameters (ts : List Token) : Bool :=
  has ts "<" &&
    (hasSecond ts ">" || hasSecond ts "#" || hasSecond ts "const" ||
      (hasSecond ts .lifetime || hasSecond ts .identifier) &&
        (hasThird ts ">" || hasThird ts "," || hasThird ts "=" ||
          hasThird ts ":" && !hasThird ts "::"))

def endsConditions (ts : List Token) : Bool :=
  ts.isEmpty || hasAny ts [.group .curly, ",", ";", "="] || has ts ":" && !has ts "::"

def condition : Reader Unit := do
  let ts ← ahead
  if has ts .lifetime && hasSecond ts ":" then
    takeLifetime
    take ":"
    chain "+" (fun ts => ts.isEmpty || hasAny ts [.group .curly, ",", ";", ":", "="]) takeLifetime
  else
    let _ ← binderIf read
    let _ ← read (.type true)
    take ":"
    bounds read endsConditions

def conditions : Reader Unit := do
  if ← takeIf "where" then
    if opensParameters (← ahead) then refuse .binderAfterWhere
    chain "," endsConditions (condition read)

end

end TypedMarkup.Code.Grammar
