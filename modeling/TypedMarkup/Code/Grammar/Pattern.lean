import TypedMarkup.Code.Grammar.Operand

namespace TypedMarkup.Code.Grammar

open Reader

def alternates (ts : List Token) : Bool :=
  has ts "|" && !hasAny ts ["||", "|="]

def endsBound (ts : List Token) : Bool :=
  ts.isEmpty || hasAny ts ["|", "=", ",", ";", "if"] || has ts ":" && !has ts "::"

def boundLimits : Reader Bool := do
  if has (← ahead) "..." then
    take "..."
    return true
  else rangeLimits

def boundStarts : List Due :=
  [.literal, .identifier, "::", "<", "self", "Self", "super", "crate", "const"]

def startsPathPattern (ts : List Token) : Bool :=
  has ts .identifier && hasAny (ts.drop 1) ["::", "!", .group .curly, .group .round, ".."] ||
    has ts "self" && hasSecond ts "::" || hasAny ts ["::", "<", "Self", "super", "crate"]

def patternStarts : List Due :=
  [.identifier, "::", "<", "_", .literal, "const", "ref", "mut", "&", .group .round,
   .group .square, "..", "const"]

section

variable (read : Parts)

def pattern : Reader Unit := do
  let _ ← read .pattern

def singlePattern : Reader Unit := do
  let _ ← read .singlePattern

def rangeBound : Reader Bool := do
  let ts ← ahead
  if endsBound ts then return false
  else if has ts .literal then
    takeLiteral
    return true
  else if has ts "const" then
    constBlock read
    return true
  else if hasAny ts boundStarts then
    let _ ← qualifiedPath read true
    return true
  else fail boundStarts

def boundRest : Reader Form := do
  let closed ← boundLimits
  if ← rangeBound read then return .plain
  else if closed then fail [.phrase "range upper bound"]
  else return .openRange

def halfOpenPattern : Reader Form := do
  let closed ← rangeLimits
  if ← rangeBound read then return .openRange
  else if closed then fail [.phrase "range upper bound"]
  else return .rest

def fieldPattern : Reader Unit := do
  let boxed ← takeIf "box"
  let byReference ← takeIf "ref"
  let mutable ← takeIf "mut"
  if boxed || byReference || mutable then
    let _ ← takeIdentifier
  else
    let named ← member
    if !named || has (← ahead) ":" then
      take ":"
      pattern read

def fieldPatterns : Reader Unit :=
  inside .curly <| loop (fun _ => do
    if ← isDone then return ((), false)
    let _ ← outerAttributes read
    if ← takeIf ".." then return ((), false)
    fieldPattern read
    if ← isDone then return ((), false)
    take ","
    return ((), true)) ()

def pathPattern : Reader Form := do
  let p ← qualifiedPath read true
  let ts ← ahead
  if p.any fun p => isInvocation p ts then
    take "!"
    let _ ← skipAny
    return .plain
  else if has ts (.group .curly) then
    fieldPatterns read
    return .plain
  else if has ts (.group .round) then
    inside .round (commas (pattern read))
    return .plain
  else if has ts ".." then boundRest read
  else return .plain

def bindingPattern : Reader Unit := do
  let _ ← takeIf "ref"
  let _ ← takeIf "mut"
  if !(← takeIf "self") then
    let _ ← takeIdentifier
  if ← takeIf "@" then singlePattern read

def constantPattern : Reader Form := do
  let _ ← rangeBound read
  if has (← ahead) ".." then boundRest read else return .plain

def referencePattern : Reader Unit := do
  take "&"
  let _ ← takeIf "mut"
  singlePattern read

def slicePattern : Reader Unit :=
  inside .square <| commas do
    if (← read .pattern) = .openRange then refuse .openRangeInSlice

def oneOfPatterns : Reader Form := do
  let ts ← ahead
  let plain (r : Reader Unit) : Reader Form := do
    r
    return .plain
  if startsPathPattern ts then pathPattern read
  else if has ts "_" then plain (take "_")
  else if has ts "box" then
    plain do
      take "box"
      singlePattern read
  else if hasAny ts ["-", .literal, "const"] then constantPattern read
  else if hasAny ts ["ref", "mut", "self", .identifier] then plain (bindingPattern read)
  else if has ts "&" then plain (referencePattern read)
  else if has ts (.group .round) then plain (inside .round (commas (pattern read)))
  else if has ts (.group .square) then plain (slicePattern read)
  else if has ts ".." && !has ts "..." then halfOpenPattern read
  else fail patternStarts

def alternatives : Reader Form := do
  let led ← takeIf "|"
  let form ← read .singlePattern
  if led || alternates (← ahead) then
    loop (fun _ => do
      if alternates (← ahead) then
        take "|"
        singlePattern read
        return ((), true)
      else return ((), false)) ()
    return .plain
  else return form

end

end TypedMarkup.Code.Grammar
