import TypedMarkup.Code.Grammar.Item

namespace TypedMarkup.Code.Grammar

open Reader

inductive Invocation where
  | none
  | item
  | statement
  deriving DecidableEq, Repr

def invocationAhead : Reader Invocation := do
  let rest ← foresee do
    plainPath
    ahead
  let goesOn (ts : List Token) : Bool := hasDot ts || has ts "?"
  match rest with
  | some ts =>
    if !has ts "!" then return .none
    else if hasSecond ts .identifier || hasSecond ts "try" then return .item
    else if hasSecond ts (.group .curly) && !goesOn (ts.drop 2) then return .statement
    else return .none
  | none => return .none

def itemWords : List Due :=
  ["pub", "extern", "use", "fn", "mod", "type", "struct", "enum", "trait", "impl", "macro"]

def startsItem (ts : List Token) : Bool :=
  let second (ds : List Due) : Bool := hasAny (ts.drop 1) ds
  let third (ds : List Due) : Bool := hasAny (ts.drop 2) ds
  let functionWords : List Due := ["unsafe", "extern", "fn"]
  hasAny ts itemWords ||
    has ts "crate" && !second ["::"] ||
    has ts "static" &&
      (second ["mut"] || second [.identifier] && !(second ["async"] && third ["move", "|"])) ||
    has ts "const" &&
      !(second [.group .curly, "static", "move", "|"] ||
        second ["async"] && !third functionWords) ||
    has ts "unsafe" && !second [.group .curly] ||
    has ts "async" && second functionWords ||
    has ts "union" && second [.identifier] ||
    has ts "auto" && second ["trait"] ||
    has ts "default" && second ["unsafe", "impl"]

def endsInBraces (before after : List Token) : Bool :=
  match (before.take (before.length - after.length)).getLast? with
  | some (.group .curly _) => true
  | _ => false

section

variable (read : Parts)

def bindingValue : Reader Unit := do
  let before ← ahead
  expression read
  let after ← ahead
  if has after "else" && !endsInBraces before after then
    take "else"
    block read

def bindingStatement : Reader Unit := do
  take "let"
  singlePattern read
  if ← takeIf ":" then anyType read
  if ← takeIf "=" then bindingValue read
  take ";"

def statement : Reader Bool := do
  let _ ← outerAttributes read
  let invocation ← invocationAhead
  let ts ← ahead
  if invocation = .statement then
    plainPath
    take "!"
    let _ ← skipAny
    let _ ← takeIf ";"
    return false
  else if has ts "let" then
    bindingStatement read
    return false
  else if startsItem ts || invocation = .item then
    itemRest read
    return false
  else
    let form ← read .standalone
    let ended ← takeIf ";"
    return !ended && form ≠ .block && form ≠ .braced

def statementsStep (due : Bool) : Reader (Bool × Bool) := do
  if ← isDone then return (due, false)
  else if ← takeIf ";" then return (false, true)
  else if due then refuse .noSemicolon
  else return (← statement read, true)

def statements : Reader Unit := do
  let _ ← loop (statementsStep read) false

end

end TypedMarkup.Code.Grammar
