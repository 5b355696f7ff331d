import TypedMarkup.Code.Grammar.Generic

namespace TypedMarkup.Code.Grammar

open Reader

section

variable (read : Parts)

inductive BoundKind where
  | lifetime
  | capture
  | trait
  deriving DecidableEq, Repr

def captures : Reader Unit := do
  take "use"
  take "<"
  loop (fun _ => do
    let ts ← ahead
    if has ts .lifetime then takeLifetime
    else if has ts .identifier || has ts "Self" then
      let _ ← takeWord
    else if has ts ">" then return ((), false)
    else fail [.lifetime, .identifier, ">"]
    let ts ← ahead
    if has ts "," then
      take ","
      return ((), true)
    else if has ts ">" then return ((), false)
    else fail [",", ">"]) ()
  take ">"

def constness (allowed : Bool) : Reader Unit := do
  let ts ← ahead
  if has ts (.group .square) then
    inside .square (take "const")
    if !allowed then refuse .maybeConstBound
  else if has ts "const" then
    take "const"
    if !allowed then refuse .constBound

def traitArguments (p : ModulePath) : Reader Unit := do
  let ts ← ahead
  if p.last.arguments = .none &&
      (has ts (.group .round) || has ts "::" && hasThird ts (.group .round)) then
    let _ ← takeIf "::"
    functionArguments read

def traitBound (constAllowed : Bool) : Reader Unit := do
  let before ← binderIf read
  constness constAllowed
  let maybe ← takeIf "?"
  let after ← if maybe && !before then binderIf read else pure false
  let p ← path read false
  traitArguments read p
  if maybe && (before || after) then refuse .optionalBinder

def isCapture (ts : List Token) : Bool :=
  has ts "use"

def kindAhead (ts : List Token) : BoundKind :=
  if has ts .lifetime then .lifetime else if isCapture ts then .capture else .trait

def bound (capture constAllowed : Bool) : Reader Unit := do
  let ts ← ahead
  match kindAhead ts with
  | .lifetime => takeLifetime
  | .capture =>
    captures
    if !capture then refuse .capture
  | .trait =>
    if has ts (.group .round) then inside .round (traitBound read constAllowed)
    else traitBound read constAllowed

def startsBound (constAllowed : Bool) (ts : List Token) : Bool :=
  startsAnyWord ts || hasAny ts ["::", "?", .lifetime, .group .round] ||
    constAllowed && hasAny ts [.group .square, "const"]

def boundList (plus capture constAllowed : Bool) : Reader (List BoundKind) :=
  loop (fun kinds => do
    let kinds := kinds ++ [kindAhead (← ahead)]
    let _ ← read (.bound capture constAllowed)
    if plus && has (← ahead) "+" then
      take "+"
      return (kinds, startsBound constAllowed (← ahead))
    else return (kinds, false)) []

def objectBounds (plus : Bool) : Reader Unit := do
  let kinds ← boundList read plus false false
  if !kinds.contains .trait then refuse .lifetimesOnly

def moreBounds : Reader Unit :=
  loop (fun _ => do
    if ← takeIf "+" then
      let _ ← read (.bound false false)
      return ((), true)
    else return ((), false)) ()

def looseBounds : Reader Unit :=
  loop (fun _ => do
    if ← takeIf "+" then
      if startsBound false (← ahead) then
        let _ ← read (.bound false false)
        return ((), true)
      else return ((), false)
    else return ((), false)) ()

def roundInside : Reader Form := do
  let ts ← ahead
  if ts.isEmpty then return .plain
  else if has ts .lifetime then
    objectBounds read true
    return .plain
  else
    let form ← read (.type true)
    if has (← ahead) "," then
      take ","
      commas do
        let _ ← read (.type true)
      return .plain
    else return form

def roundType (plus : Bool) : Reader Form := do
  let optional ← foresee (inside .round do return has (← ahead) "?")
  if optional = some true then
    inside .round (traitBound read false)
    let single := !has (← ahead) "+"
    moreBounds read
    return if single then .bound else .plain
  else
    let form ← inside .round (roundInside read)
    if plus && [Form.name, .path, .bound].contains form && has (← ahead) "+" then moreBounds read
    return .plain

def interface : Reader Unit := do
  if ← takeIf "extern" then
    if startsText (← ahead) then takeLiteral

def isVariadic (ts : List Token) : Bool :=
  has ts "..." ||
    (has ts .identifier || has ts "_") && hasSecond ts ":" && hasThird ts "..."

def variadic : Reader Unit := do
  let ts ← ahead
  if has ts .identifier || has ts "_" then
    let _ ← takeWord
    take ":"
  take "..."
  let _ ← takeIf ","

def functionParameter (first : Bool) : Reader Unit := do
  let isMutableReceiver (ts : List Token) : Bool := first && has ts "mut" && hasSecond ts "self"
  let mutable := isMutableReceiver (← ahead)
  if mutable then take "mut"
  let ts ← ahead
  let receiver := first && has ts "self"
  let named :=
    (hasAny ts [.identifier, "_"] || receiver) && hasSecond ts ":" && !hasSecond ts "::"
  if named then
    let _ ← takeWord
    take ":"
  if !(named && receiver) && isMutableReceiver (← ahead) then
    take "mut"
    take "self"
  else if mutable && !named then take "self"
  else
    let _ ← read (.type true)

def functionParameters : Reader Unit := do
  let _ ← loop (fun first => do
    if ← isDone then return (first, false)
    let _ ← outerAttributes read
    if isVariadic (← ahead) then
      variadic
      return (first, false)
    functionParameter read first
    if ← isDone then return (first, false)
    take ","
    return (false, true)) true

def functionType : Reader Unit := do
  let _ ← takeIf "unsafe"
  interface
  take "fn"
  inside .round (functionParameters read)
  if ← takeIf "->" then
    let _ ← read (.type false)

def builtinConstruct : Reader Unit := do
  take "builtin"
  take "#"
  let _ ← takeIdentifier
  skip .round

def isInvocation (p : ModulePath) (ts : List Token) : Bool :=
  has ts "!" && !has ts "!=" && p.isPlain

def pathType (plus bindered : Bool) : Reader Form := do
  match ← qualifiedPath read false with
  | none => return .plain
  | some p =>
    let ts ← ahead
    if isInvocation p ts then
      take "!"
      let _ ← skipAny
      return .plain
    else if plus && has ts "+" then
      looseBounds read
      return .plain
    else if bindered then return .bound
    else if !p.rooted && p.rest.isEmpty then return .name
    else return .path

def afterBinder : List Due :=
  [.identifier, "fn", "unsafe", "extern", "super", "self", "Self", "crate"]

def functionStarts : List Due :=
  ["fn", "unsafe", "extern"]

def pathStarts : List Due :=
  [.identifier, "super", "self", "Self", "crate", "::", "<"]

def typeStarts : List Due :=
  ["for", .group .round, "fn", "unsafe", "extern", .identifier, "::", "<", "dyn", .group .square,
   "*", "&", "!", "impl", "_", .lifetime]

def arrayType : Reader Unit := do
  let _ ← read (.type true)
  if ← takeIf ";" then
    let _ ← read (.expression true)

def pointerType : Reader Unit := do
  take "*"
  if hasAny (← ahead) ["const", "mut"] then
    let _ ← takeWord
  else fail ["const", "mut"]
  let _ ← read (.type false)

def referenceType : Reader Unit := do
  take "&"
  takeLifetimeIf
  let _ ← takeIf "mut"
  let _ ← read (.type false)

def type (plus : Bool) : Reader Form := do
  let bindered ← binderIf read
  let ts ← ahead
  if bindered && !hasAny ts afterBinder then fail afterBinder
  if has ts (.group .round) then roundType read plus
  else if hasAny ts functionStarts then
    functionType read
    return .plain
  else if has ts "builtin" && hasSecond ts "#" then
    builtinConstruct
    return .plain
  else if hasAny ts pathStarts then pathType read plus bindered
  else if has ts "dyn" then
    take "dyn"
    let _ ← takeIf "*"
    objectBounds read plus
    return .plain
  else if has ts (.group .square) then
    inside .square (arrayType read)
    return .plain
  else if has ts "*" then
    pointerType read
    return .plain
  else if has ts "&" then
    referenceType read
    return .plain
  else if has ts "!" && !has ts "=" then
    take "!"
    return .plain
  else if has ts "impl" then
    take "impl"
    let kinds ← boundList read plus true true
    if !kinds.contains .trait then refuse .noTrait
    return .plain
  else if has ts "_" then
    take "_"
    return .plain
  else if has ts .lifetime then
    objectBounds read true
    return .plain
  else fail typeStarts

end

end TypedMarkup.Code.Grammar
