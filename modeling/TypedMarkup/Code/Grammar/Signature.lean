import TypedMarkup.Code.Grammar.Pattern

namespace TypedMarkup.Code.Grammar

open Reader

def qualifiers (safe : Bool) : Reader Unit := do
  let _ ← takeIf "const"
  let _ ← takeIf "async"
  if safe && has (← ahead) "safe" then take "safe"
  else
    let _ ← takeIf "unsafe"
  interface

def signatureAhead (safe : Bool) : Reader Bool := do
  let isFunction ← foresee do
    qualifiers safe
    return has (← ahead) "fn"
  return isFunction = some true

def visibility : Reader Bool := do
  if ← takeIf "pub" then
    match ← ahead with
    | .group .round inner :: _ =>
      if hasAny inner ["crate", "self", "super"] && inner.length = 1 then skip .round
      else if has inner "in" then
        inside .round do
          take "in"
          plainPath
    | _ => pure ()
    return true
  else return false

section

variable (read : Parts)

def receiver : Reader Unit := do
  let reference ← takeIf "&"
  if reference then takeLifetimeIf
  let _ ← takeIf "mut"
  take "self"
  if !reference then
    if ← takeIf ":" then
      let _ ← read (.type true)

def typedParameter : Reader Bool := do
  let ts ← ahead
  if has ts .identifier && hasSecond ts "<" then
    let _ ← read (.type true)
    return false
  else
    singlePattern read
    take ":"
    if ← takeIf "..." then return true
    let _ ← read (.type true)
    return false

structure ParametersSoFar where
  any : Bool
  received : Bool

def commaUnlessDone : Reader Unit := do
  if !(← isDone) then take ","

def parameter (sofar : ParametersSoFar) : Reader (ParametersSoFar × Bool) := do
  let _ ← outerAttributes read
  if ← takeIf "..." then
    commaUnlessDone
    return (sofar, false)
  match ← attempt (receiver read) with
  | some () =>
    if sofar.received then refuse .secondReceiver
    if sofar.any then refuse .lateReceiver
    let more := !(← isDone)
    commaUnlessDone
    return (⟨true, true⟩, more)
  | none =>
    if ← typedParameter read then
      commaUnlessDone
      return (sofar, false)
    let more := !(← isDone)
    commaUnlessDone
    return ({ sofar with any := true }, more)

def parametersStep (sofar : ParametersSoFar) : Reader (ParametersSoFar × Bool) := do
  if ← isDone then return (sofar, false)
  parameter read sofar

def functionParameterList : Reader Unit := do
  let _ ← loop (parametersStep read) ⟨false, false⟩

def signature (safe : Bool) : Reader Unit := do
  qualifiers safe
  take "fn"
  let _ ← takeIdentifier
  parameters read
  inside .round (functionParameterList read)
  if ← takeIf "->" then
    let _ ← read (.type true)
  conditions read

end

end TypedMarkup.Code.Grammar
