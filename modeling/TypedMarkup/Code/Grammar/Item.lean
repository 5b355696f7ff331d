import TypedMarkup.Code.Grammar.Signature

namespace TypedMarkup.Code.Grammar

open Reader

def invocationStarts : List Due :=
  [.identifier, "self", "super", "crate", "::"]

def semicolonAfter (b : Bracket) : Reader Unit := do
  if b ≠ .curly then take ";"

def invocationItem : Reader Unit := do
  plainPath
  take "!"
  semicolonAfter (← skipAny)

def namedInvocation : Reader Unit := do
  plainPath
  take "!"
  let ts ← ahead
  if has ts "try" || has ts .identifier then
    let _ ← takeWord
  semicolonAfter (← skipAny)

def invocationDefinition : Reader Unit := do
  take "macro"
  let _ ← takeIdentifier
  let ts ← ahead
  if has ts (.group .round) then skip .round
  if has (← ahead) (.group .curly) then skip .curly
  else if has ts (.group .round) then fail [.group .curly]
  else fail [.group .round, .group .curly]

def nameOrNone : Reader Unit := do
  if hasAny (← ahead) [.identifier, "_"] then
    let _ ← takeWord
  else fail [.identifier, "_"]

section

variable (read : Parts)

def anyType : Reader Unit := do
  let _ ← read (.type true)

def useTree (rooted : Bool) : Reader Unit := do
  let ts ← ahead
  if hasAny ts [.identifier, "self", "super", "crate", "try"] then
    let _ ← takeWord
    if ← takeIf "::" then
      let _ ← read (.useTree false)
    else if ← takeIf "as" then
      if hasAny (← ahead) [.identifier, "_"] then
        let _ ← takeWord
      else fail [.phrase "identifier or underscore"]
  else if has ts "*" then take "*"
  else if has ts (.group .curly) then
    inside .curly <| commas do
      let anew ← if rooted then takeIf "::" else pure false
      let _ ← read (.useTree (rooted && !anew))
  else fail [.identifier, "self", "super", "crate", "try", "*", .group .curly]

def useItem : Reader Unit := do
  let _ ← visibility
  take "use"
  let anew ← takeIf "::"
  let _ ← read (.useTree !anew)
  take ";"

def externCrate : Reader Unit := do
  let _ ← visibility
  take "extern"
  take "crate"
  if !(← takeIf "self") then
    let _ ← takeIdentifier
  if ← takeIf "as" then
    if !(← takeIf "_") then
      let _ ← takeIdentifier
  take ";"

def bodyOrSemicolon : Reader Unit := do
  if !(← takeIf ";") then attributedBlock read

def function : Reader Unit := do
  let _ ← visibility
  signature read false
  bodyOrSemicolon read

def value : Reader Unit := do
  if ← takeIf "=" then expression read

def staticItem : Reader Unit := do
  let _ ← visibility
  take "static"
  let _ ← takeIf "mut"
  let _ ← takeIdentifier
  if ← takeIf "=" then
    expression read
    take ";"
  else
    take ":"
    anyType read
    if !(← takeIf ";") then
      take "="
      expression read
      take ";"

def constRest : Reader Unit := do
  nameOrNone
  parameters read
  take ":"
  anyType read
  value read
  conditions read
  take ";"

inductive ConditionPlace where
  | beforeValue
  | afterValue
  | either
  deriving DecidableEq, Repr

def nameBounds : Reader Unit := do
  let stop (ts : List Token) : Bool := hasAny ts ["where", "=", ";"]
  if ← takeIf ":" then
    list "+" stop do
      let _ ← read (.bound false true)

def typeItem (place : ConditionPlace) (defaulted : Bool) : Reader Unit := do
  let _ ← visibility
  if defaulted then
    let _ ← takeIf "default"
  take "type"
  let _ ← takeIdentifier
  parameters read
  nameBounds read
  let early := place ≠ .afterValue && has (← ahead) "where"
  if early then conditions read
  if ← takeIf "=" then anyType read
  if place ≠ .beforeValue && !early then conditions read
  take ";"

def namedField : Reader Unit := do
  let _ ← outerAttributes read
  let _ ← visibility
  let nameless ← takeIf "_"
  if !nameless then
    let _ ← takeIdentifier
  take ":"
  let ts ← ahead
  if nameless && (has ts "struct" || has ts "union" && hasSecond ts (.group .curly)) then
    advance 1
    let _ ← read .fields
  else anyType read

def namedFields : Reader Unit :=
  inside .curly (commas (namedField read))

def fieldsByPosition : Reader Unit :=
  inside .round <| commas do
    let _ ← outerAttributes read
    let _ ← visibility
    anyType read

def structRest : Reader Unit := do
  let early := has (← ahead) "where"
  let before : List Due := if early then [] else ["where", .group .round]
  conditions read
  let ts ← ahead
  if !early && has ts (.group .round) then
    fieldsByPosition read
    let late := has (← ahead) "where"
    conditions read
    if !(← takeIf ";") then fail (if late then [";"] else ["where", ";"])
  else if has ts (.group .curly) then namedFields read
  else if has ts ";" then take ";"
  else fail (before ++ [Due.group .curly, Due.spelled ";"])

def variant : Reader Unit := do
  let _ ← outerAttributes read
  let _ ← visibility
  let _ ← takeIdentifier
  let ts ← ahead
  if has ts (.group .curly) then namedFields read
  else if has ts (.group .round) then fieldsByPosition read
  value read

def dataItem : Reader Unit := do
  let _ ← visibility
  let kind ← takeWord
  let _ ← takeIdentifier
  parameters read
  if kind = "struct" then structRest read
  else
    conditions read
    if kind = "enum" then inside .curly (commas (variant read)) else namedFields read

def members (member : Reader Unit) : Reader Unit :=
  inside .curly do
    innerAttributes read
    all member

def afterVisibility (safe : Bool) : Reader (Bool × List Token × Bool) := do
  let s ← get
  let seen ← visibility
  let ts ← ahead
  let isFunction ← signatureAhead safe
  set s
  return (seen, ts, isFunction || has ts "fn")

def memberStarts (starts : List Due) (invocations : Bool) : List Due :=
  starts ++ if invocations then invocationStarts else []

def foreignStatic : Reader Unit := do
  let _ ← visibility
  if !(← takeIf "unsafe") then
    let _ ← takeIf "safe"
  take "static"
  let _ ← takeIf "mut"
  let _ ← takeIdentifier
  take ":"
  anyType read
  value read
  take ";"

def foreignItem : Reader Unit := do
  let _ ← outerAttributes read
  let (seen, ts, isFunction) ← afterVisibility true
  if isFunction then
    let _ ← visibility
    signature read true
    if has (← ahead) (.group .curly) then attributedBlock read else take ";"
  else if has ts "static" || hasAny ts ["unsafe", "safe"] && hasSecond ts "static" then
    foreignStatic read
  else if has ts "type" then typeItem read .either false
  else if !seen && hasAny ts invocationStarts then invocationItem
  else
    let _ ← visibility
    fail (memberStarts ["fn", "static", "type"] (!seen))

def foreignItems : Reader Unit := do
  let _ ← takeIf "unsafe"
  take "extern"
  if startsText (← ahead) then takeLiteral
  members read (foreignItem read)

def traitFunction : Reader Unit := do
  signature read false
  let ts ← ahead
  if has ts (.group .curly) then attributedBlock read
  else if has ts ";" then take ";"
  else fail [.group .curly, ";"]

def traitConst : Reader Unit := do
  let ts ← ahead
  if hasSecond ts .identifier || hasSecond ts "_" then
    take "const"
    constRest read
  else if hasAny (ts.drop 1) ["async", "unsafe", "extern", "fn"] then traitFunction read
  else
    take "const"
    fail [.identifier, "_", "async", "unsafe", "extern", "fn"]

def traitMember : Reader Unit := do
  let _ ← outerAttributes read
  let seen ← visibility
  let defaulted ← takeIf "default"
  let ts ← ahead
  if has ts "fn" || (← signatureAhead false) then traitFunction read
  else if has ts "const" then traitConst read
  else if has ts "type" then typeItem read .afterValue false
  else if !seen && !defaulted && hasAny ts invocationStarts then invocationItem
  else fail (memberStarts ["fn", "const", "type"] (!seen && !defaulted))

def traitRest : Reader Unit := do
  let stop (ts : List Token) : Bool := hasAny ts ["where", .group .curly]
  if ← takeIf ":" then
    list "+" stop do
      let _ ← read (.bound false true)
  conditions read
  members read (traitMember read)

def traitAliasRest : Reader Unit := do
  let stop (ts : List Token) : Bool := hasAny ts ["where", ";"]
  take "="
  list "+" stop do
    let _ ← read (.bound false false)
  conditions read
  take ";"

def traitItem : Reader Unit := do
  let _ ← visibility
  let _ ← takeIf "unsafe"
  let _ ← takeIf "auto"
  take "trait"
  let _ ← takeIdentifier
  parameters read
  traitRest read

def traitOrAlias : Reader Unit := do
  let _ ← visibility
  take "trait"
  let _ ← takeIdentifier
  parameters read
  let ts ← ahead
  if hasAny ts [.group .curly, ":", "where"] then traitRest read
  else if has ts "=" then traitAliasRest read
  else fail [.group .curly, ":", "where", "="]

def implMember : Reader Unit := do
  let _ ← outerAttributes read
  let s ← get
  let seen ← visibility
  let ts ← ahead
  let defaulted := has ts "default" && !hasSecond ts "!"
  if defaulted then take "default"
  let ts ← ahead
  let isFunction := has ts "fn" || (← signatureAhead false)
  if isFunction then
    signature read false
    bodyOrSemicolon read
  else if has ts "const" then
    take "const"
    constRest read
  else if has ts "type" then
    set s
    typeItem read .afterValue true
  else if !seen && !defaulted && hasAny ts invocationStarts then invocationItem
  else if defaulted then fail ["fn", "const", "type"]
  else fail (memberStarts ["default", "fn", "const", "type"] (!seen))

def implItem : Reader Unit := do
  let _ ← visibility
  let _ ← takeIf "default"
  let _ ← takeIf "unsafe"
  take "impl"
  if opensParameters (← ahead) then parameters read
  let ts ← ahead
  if has ts "const" || has ts "?" && hasSecond ts "const" then
    let _ ← takeIf "?"
    take "const"
  let ts ← ahead
  let negative := has ts "!" && !hasSecond ts (.group .curly)
  if negative then take "!"
  anyType read
  if ← takeIf "for" then anyType read
  else if negative then refuse .negativeInherent
  conditions read
  members read (implMember read)

def anyItem : Reader Unit := do
  let _ ← read .item

def moduleItem : Reader Unit := do
  let _ ← visibility
  let _ ← takeIf "unsafe"
  take "mod"
  if !(← takeIf "try") then
    let _ ← takeIdentifier
  let ts ← ahead
  if has ts ";" then take ";"
  else if has ts (.group .curly) then
    members read (anyItem read)
  else fail [";", .group .curly]

def failAfter (n : Nat) (ds : List Due) : Reader Unit := do
  let _ ← visibility
  advance n
  fail ds

def externItem (ts : List Token) : Reader Unit :=
  if hasSecond ts "crate" then externCrate
  else if hasSecond ts (.group .curly) then foreignItems read
  else if startsText (ts.drop 1) then
    if hasThird ts (.group .curly) then foreignItems read else failAfter 2 [.group .curly]
  else failAfter 1 ["crate", .group .curly, .phrase "string literal"]

def unsafeItem (ts : List Token) : Reader Unit :=
  if hasSecond ts "trait" || hasSecond ts "auto" && hasThird ts "trait" then traitItem read
  else if hasSecond ts "impl" then implItem read
  else if hasSecond ts "extern" then foreignItems read
  else if hasSecond ts "mod" then moduleItem read
  else failAfter 1 ["trait", "auto", "impl", "extern", "mod"]

def itemStarts : List Due :=
  ["fn", "extern", "use", "static", "const", "unsafe", "mod", "type", "struct", "enum", "union",
   "trait", "auto", "impl", "default", "macro"]

def itemRest : Reader Unit := do
  let (seen, ts, isFunction) ← afterVisibility false
  if isFunction then function read
  else if has ts "extern" then externItem read ts
  else if has ts "use" then useItem read
  else if has ts "static" then staticItem read
  else if has ts "const" then
    let _ ← visibility
    take "const"
    constRest read
  else if has ts "unsafe" then unsafeItem read ts
  else if has ts "mod" then moduleItem read
  else if has ts "type" then typeItem read .beforeValue false
  else if hasAny ts ["struct", "enum"] || has ts "union" && hasSecond ts .identifier then
    dataItem read
  else if has ts "trait" then traitOrAlias read
  else if has ts "auto" && hasSecond ts "trait" then traitItem read
  else if has ts "impl" || has ts "default" && !hasSecond ts "!" then implItem read
  else if has ts "macro" then
    let _ ← visibility
    invocationDefinition
  else if !seen && hasAny ts invocationStarts then namedInvocation
  else failAfter 0 (memberStarts itemStarts (!seen))

def item : Reader Unit := do
  let _ ← outerAttributes read
  itemRest read

end

end TypedMarkup.Code.Grammar
