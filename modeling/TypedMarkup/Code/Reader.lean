import TypedMarkup.Code.Identifier
import TypedMarkup.Code.Token

namespace TypedMarkup.Code

inductive Due where
  | identifier
  | lifetime
  | literal
  | spelled (s : String)
  | group (b : Bracket)
  | phrase (s : String)
  deriving DecidableEq, Repr

instance : Coe String Due :=
  ⟨.spelled⟩

def ticked (s : String) : String :=
  "\x60" ++ s ++ "\x60"

namespace Bracket

def name : Bracket → String
  | round => "parentheses"
  | square => "square brackets"
  | curly => "curly braces"

def closing : Bracket → String
  | round => ")"
  | square => "]"
  | curly => "\x7d"

end Bracket

namespace Due

def name : Due → String
  | identifier => "identifier"
  | lifetime => "lifetime"
  | literal => "literal"
  | spelled s => ticked s
  | group b => b.name
  | phrase s => s

def choice : List Due → String
  | [] => ""
  | [d] => d.name
  | [d, e] => d.name ++ " or " ++ e.name
  | ds => "one of: " ++ ", ".intercalate (ds.map name)

end Due

inductive Refusal where
  | lifetimesOnly
  | noTrait
  | capture
  | constBound
  | maybeConstBound
  | optionalBinder
  | chainedComparison
  | afterCast (what : String)
  | labelAfterBreak
  | attributesOnRange
  | openRangeInSlice
  | noSemicolon
  | indexSuffix
  | indexSize
  | indexForm
  | indexSign
  | nestedAttribute
  | secondReceiver
  | lateReceiver
  | negativeInherent
  | binderAfterWhere
  deriving DecidableEq, Repr

def Refusal.message : Refusal → String
  | lifetimesOnly => "at least one trait is required for an object type"
  | noTrait => "at least one trait must be specified"
  | capture => ticked "use<...>" ++ " precise capturing syntax is not allowed here"
  | constBound => ticked "const" ++ " is not allowed here"
  | maybeConstBound => ticked "[const]" ++ " is not allowed here"
  | optionalBinder =>
    ticked "for<...>" ++ " binder not allowed with " ++ ticked "?" ++ " trait polarity modifier"
  | chainedComparison => "comparison operators cannot be chained"
  | afterCast what => "casts cannot be followed by " ++ what
  | labelAfterBreak => "parentheses required"
  | attributesOnRange =>
    "attributes are not allowed on range expressions starting with " ++ ticked ".."
  | openRangeInSlice => "range pattern is not allowed unparenthesized inside slice pattern"
  | noSemicolon => "unexpected token, expected " ++ ticked ";"
  | indexSuffix => "expected unsuffixed integer"
  | indexSize => "number too large to fit in target type"
  | indexForm => "expected integer literal"
  | indexSign => "invalid digit found in string"
  | nestedAttribute => "unexpected attribute inside of attribute"
  | secondReceiver => "unexpected second method receiver"
  | lateReceiver => "unexpected method receiver"
  | negativeInherent => "inherent impls cannot be negative"
  | binderAfterWhere =>
    "generic parameters on " ++ ticked "where" ++ " clauses are reserved for future use"

inductive ReadError where
  | noTokens
  | expected (ds : List Due) (ended : Bool)
  | missing (mark : String)
  | keyword (word : String)
  | leftover (group : Option Bracket)
  | refused (r : Refusal)
  deriving DecidableEq, Repr

namespace ReadError

def expectation (ds : List Due) (ended : Bool) : String :=
  match ds, ended with
  | [], false => "unexpected token"
  | [], true => "unexpected end of input"
  | _, false => "expected " ++ Due.choice ds
  | _, true => "unexpected end of input, expected " ++ Due.choice ds

def message : ReadError → String
  | noTokens => "cannot parse string into token stream"
  | expected ds ended => expectation ds ended
  | missing m => "expected " ++ ticked m
  | keyword w => "expected identifier, found keyword " ++ ticked w
  | leftover none => "unexpected token"
  | leftover (some b) => "unexpected token, expected " ++ ticked b.closing
  | refused r => r.message

end ReadError

def isWordSpelling (s : String) : Bool :=
  s.toList.head?.any fun c => c == '_' || c.isAlpha

def startsMarks : List Char → List Token → Bool
  | [], _ => true
  | [c], .mark d _ :: _ => c == d
  | c :: cs, .mark d true :: ts => c == d && startsMarks cs ts
  | _, _ => false

def startsSpelled (s : String) (ts : List Token) : Bool :=
  if isWordSpelling s then
    match ts with
    | .word w :: _ => w == s
    | _ => false
  else startsMarks s.toList ts

def startsLiteral : List Token → Bool
  | .literal _ _ :: _ => true
  | .word w :: _ => w == "true" || w == "false"
  | .mark '-' _ :: .literal k _ :: _ => k == .integer || k == .float
  | _ => false

def startsAnyWord : List Token → Bool
  | .word _ :: _ => true
  | .raw _ :: _ => true
  | _ => false

def startsText : List Token → Bool
  | .literal .text _ :: _ => true
  | _ => false

def has (ts : List Token) : Due → Bool
  | .identifier =>
    match ts with
    | .word w :: _ => !keywords.contains w
    | .raw _ :: _ => true
    | _ => false
  | .lifetime =>
    match ts with
    | .lifetime _ :: _ => true
    | _ => false
  | .literal => startsLiteral ts
  | .spelled s => startsSpelled s ts
  | .group b =>
    match ts with
    | .group b' _ :: _ => b == b'
    | _ => false
  | .phrase _ => false

def hasSecond (ts : List Token) (d : Due) : Bool :=
  has (ts.drop 1) d

def hasThird (ts : List Token) (d : Due) : Bool :=
  has (ts.drop 2) d

def hasAny (ts : List Token) (ds : List Due) : Bool :=
  ds.any (has ts)

structure Stream where
  tokens : List Token
  unread : Option Bracket

abbrev Reader := StateT Stream (Except ReadError)

namespace Reader

variable {α : Type}

def ahead : Reader (List Token) := do
  return (← get).tokens

def advance (n : Nat) : Reader Unit :=
  modify fun s => { s with tokens := s.tokens.drop n }

def fail (ds : List Due) : Reader α := do
  let ts ← ahead
  throw (.expected (ds.filter fun d => !has ts d) ts.isEmpty)

def refuse (r : Refusal) : Reader α :=
  throw (.refused r)

def isDone : Reader Bool := do
  return (← ahead).isEmpty

def take (s : String) : Reader Unit := do
  if has (← ahead) s then advance (if isWordSpelling s then 1 else s.length)
  else if isWordSpelling s then fail [s]
  else throw (.missing s)

def takeIf (s : String) : Reader Bool := do
  if has (← ahead) s then
    take s
    return true
  else return false

def takeIdentifier : Reader String := do
  match ← ahead with
  | .word w :: _ =>
    if keywords.contains w then throw (.keyword w)
    else
      advance 1
      return w
  | .raw w :: _ =>
    advance 1
    return "r#" ++ w
  | _ => fail [.identifier]

def takeWord : Reader String := do
  match ← ahead with
  | .word w :: _ =>
    advance 1
    return w
  | _ => takeIdentifier

def takeLifetime : Reader Unit := do
  if has (← ahead) .lifetime then advance 1 else fail [.lifetime]

def takeLifetimeIf : Reader Unit := do
  if has (← ahead) .lifetime then advance 1

def takeLiteral : Reader Unit := do
  let ts ← ahead
  if !startsLiteral ts then fail [.literal]
  else if has ts "-" then advance 2
  else advance 1

def inside (b : Bracket) (r : Reader α) : Reader α := do
  let s ← get
  match s.tokens with
  | .group b' inner :: rest =>
    if b = b' then
      set { s with tokens := inner }
      let x ← r
      let s' ← get
      let unread := s'.unread.or (if s'.tokens.isEmpty then none else some b)
      set { s' with tokens := rest, unread := unread }
      return x
    else fail [.group b]
  | _ => fail [.group b]

def skip (b : Bracket) : Reader Unit :=
  inside b (modify fun s => { s with tokens := [] })

def skipAny : Reader Bracket := do
  match ← ahead with
  | .group b _ :: _ =>
    advance 1
    return b
  | _ => fail [.phrase "delimiter"]

def attempt (r : Reader α) : Reader (Option α) := fun s =>
  match r s with
  | .ok (x, s') => .ok (some x, s')
  | .error _ => .ok (none, s)

def foresee (r : Reader α) : Reader (Option α) := fun s =>
  match r s with
  | .ok (x, _) => .ok (some x, s)
  | .error _ => .ok (none, s)

def rounds (step : α → Reader (α × Bool)) : Nat → α → Reader α
  | 0, x => return x
  | n + 1, x => do
    let (y, more) ← step x
    if more then rounds step n y else return y

def loop (step : α → Reader (α × Bool)) (x : α) : Reader α := do
  rounds step ((← ahead).length + 1) x

def list (mark : String) (stop : List Token → Bool) (item : Reader Unit) : Reader Unit :=
  loop (fun _ => do
    if stop (← ahead) then return ((), false)
    item
    if stop (← ahead) then return ((), false)
    take mark
    return ((), true)) ()

def chain (mark : String) (stop : List Token → Bool) (item : Reader Unit) : Reader Unit :=
  loop (fun _ => do
    if stop (← ahead) then return ((), false)
    item
    return ((), ← takeIf mark)) ()

def commas (item : Reader Unit) : Reader Unit :=
  list "," List.isEmpty item

def all (item : Reader Unit) : Reader Unit :=
  loop (fun _ => do
    if ← isDone then return ((), false)
    item
    return ((), true)) ()

end Reader

end TypedMarkup.Code
