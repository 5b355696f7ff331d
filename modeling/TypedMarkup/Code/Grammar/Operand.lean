import TypedMarkup.Code.Grammar.Expression

namespace TypedMarkup.Code.Grammar

open Reader

section

variable (read : Parts)

def structureFields : Reader Unit :=
  inside .curly <| loop (fun _ => do
    if ← isDone then return ((), false)
    if ← takeIf ".." then
      if !(← isDone) then expression read
      return ((), false)
    let _ ← outerAttributes read
    let named ← member
    if !named || has (← ahead) ":" then
      take ":"
      expression read
    if ← isDone then return ((), false)
    take ","
    return ((), true)) ()

def pathExpression (braces : Bool) : Reader Form := do
  let p ← qualifiedPath read true
  let ts ← ahead
  if p.any fun p => isInvocation p ts then
    take "!"
    return if (← skipAny) = .curly then .braced else .plain
  else
    if braces && has ts (.group .curly) then structureFields read
    return .plain

def roundExpression : Reader Unit :=
  inside .round (commas (expression read))

def squareExpression : Reader Unit :=
  inside .square do
    if !(← isDone) then
      expression read
      let ts ← ahead
      if ts.isEmpty then return ()
      else if has ts "," then
        take ","
        commas (expression read)
      else if has ts ";" then
        take ";"
        expression read
      else fail [.phrase (ticked "," ++ " or " ++ ticked ";")]

def closureParameter : Reader Unit := do
  let _ ← outerAttributes read
  let _ ← read .singlePattern
  if ← takeIf ":" then
    let _ ← read (.type true)

def closure (braces : Bool) : Reader Unit := do
  let stop (ts : List Token) : Bool := has ts "|"
  let _ ← binderIf read
  for w in ["const", "static", "async", "move"] do
    let _ ← takeIf w
  take "|"
  list "," stop (closureParameter read)
  take "|"
  if ← takeIf "->" then
    let _ ← read (.type true)
    block read
  else
    let _ ← read (.expression braces)

def asyncBlock : Reader Unit := do
  take "async"
  let _ ← takeIf "move"
  block read

def optionalExpression (braces : Bool) : Reader Unit := do
  let ts ← ahead
  if startsExpression ts && (braces || !has ts (.group .curly)) then
    let _ ← read (.expression braces)

def breakExpression (braces : Bool) : Reader Unit := do
  take "break"
  let ts ← ahead
  if has ts .lifetime && hasSecond ts ":" then
    expression read
    refuse .labelAfterBreak
  else
    takeLifetimeIf
    optionalExpression read braces

def rightOperand (braces : Bool) (p : Precedence) : Reader Unit := do
  let first ← read (.operand braces)
  let _ ← loop (fun form => do
    let ts ← ahead
    let next := precedenceAhead ts
    if p.rank < next.rank || next = p && p = .assign then
      let form ← read (.operators form braces next)
      return (form, (← ahead).length < ts.length)
    else return (form, false)) first

def rangeEnd (braces : Bool) : Reader Unit := do
  let closed ← rangeLimits
  if closed || !endsRange braces (← ahead) then rightOperand read braces .range

def letExpression (braces : Bool) : Reader Unit := do
  take "let"
  let _ ← read .pattern
  take "="
  let form ← read (.operand braces)
  let _ ← read (.operators form braces .compare)

def startsClosure (ts : List Token) : Bool :=
  hasAny ts ["|", "move", "static"] || startsBinder ts ||
    has ts "const" && !hasSecond ts (.group .curly) ||
    has ts "async" && (hasSecond ts "|" || hasSecond ts "move")

def startsPathExpression (ts : List Token) : Bool :=
  hasAny ts [.identifier, "::", "<", "self", "Self", "super", "crate"] ||
    has ts "try" && (hasSecond ts "!" || hasSecond ts "::")

def blockReader (ts : List Token) : Option (Reader Unit) :=
  if has ts "if" then some (ifExpression read)
  else if has ts "while" then some (whileExpression read)
  else if has ts "for" && !startsBinder ts then some (forExpression read)
  else if has ts "loop" then some (loopExpression read)
  else if has ts "match" then some (matchExpression read)
  else if has ts "try" && hasSecond ts (.group .curly) then some (tryBlock read)
  else if has ts "unsafe" then some (unsafeBlock read)
  else if has ts "const" && hasSecond ts (.group .curly) then some (constBlock read)
  else if has ts (.group .curly) then some (attributedBlock read)
  else if has ts .lifetime then some (labeled read)
  else none

def atom (braces : Bool) : Reader Form := do
  let ts ← ahead
  let plain (r : Reader Unit) : Reader Form := do
    r
    return .plain
  let startsAsync : Bool :=
    has ts "async" && (hasSecond ts (.group .curly) ||
      hasSecond ts "move" && hasThird ts (.group .curly))
  if has ts .literal then plain takeLiteral
  else if startsAsync then plain (asyncBlock read)
  else if startsClosure ts then plain (closure read braces)
  else if has ts "builtin" && hasSecond ts "#" then plain builtinConstruct
  else if startsPathExpression ts then pathExpression read braces
  else if has ts (.group .round) then plain (roundExpression read)
  else if has ts "break" then plain (breakExpression read braces)
  else if has ts "continue" then
    plain do
      take "continue"
      takeLifetimeIf
  else if hasAny ts ["return", "yield"] then
    plain do
      advance 1
      optionalExpression read true
  else if has ts "become" then
    plain do
      take "become"
      expression read
  else if has ts (.group .square) then plain (squareExpression read)
  else if has ts "let" then plain (letExpression read braces)
  else if has ts ".." then
    rangeEnd read braces
    return .range
  else if has ts "_" then plain (take "_")
  else match blockReader read ts with
    | some r =>
      r
      return .block
    | none => fail [.phrase "an expression"]

def operand (braces : Bool) : Reader Form := do
  let attributed ← outerAttributes read
  let ts ← ahead
  if has ts "&" then
    take "&"
    let ts ← ahead
    let isAddress := has ts "raw" && (hasSecond ts "mut" || hasSecond ts "const")
    if isAddress then take "raw"
    if !(← takeIf "mut") && isAddress then take "const"
    let _ ← read (.operand braces)
    return .plain
  else if hasAny ts ["*", "!", "-"] then
    advance 1
    let _ ← read (.operand braces)
    return .plain
  else
    let form ← suffixes read (← atom read braces)
    if attributed && form = .range then refuse .attributesOnRange
    return form

def castTo : Reader Unit := do
  take "as"
  let _ ← read (.type false)
  match castFollower (← ahead) with
  | some what => refuse (.afterCast what)
  | none => return ()

def operatorStep (braces : Bool) (base : Precedence) (form : Form) : Reader (Form × Bool) := do
  let ts ← ahead
  let reaches (p : Precedence) : Bool := base.rank ≤ p.rank
  if form = .range then return (form, false)
  match binaryAhead ts with
  | some (s, p) =>
    if !reaches p then return (form, false)
    if p = .compare && form = .comparison then refuse .chainedComparison
    take s
    rightOperand read braces p
    return (if p = .compare then .comparison else .plain, true)
  | none =>
    if reaches .assign && assigns ts then
      take "="
      rightOperand read braces .assign
      return (.plain, true)
    else if reaches .range && has ts ".." then
      rangeEnd read braces
      return (.range, true)
    else if reaches .cast && has ts "as" then
      castTo read
      return (.plain, true)
    else return (form, false)

def operators (left : Form) (braces : Bool) (base : Precedence) : Reader Form :=
  loop (operatorStep read braces base) left

def standalone : Reader Form := do
  let _ ← outerAttributes read
  match blockReader read (← ahead) with
  | some r =>
    r
    let ts ← ahead
    if hasDot ts || has ts "?" then
      let form ← suffixes read .block
      read (.operators form true .jump)
    else return .block
  | none =>
    let form ← read (.operand true)
    read (.operators form true .jump)

end

end TypedMarkup.Code.Grammar
