import TypedMarkup.Code.Grammar.Statement

namespace TypedMarkup.Code

namespace Grammar

open Reader

def readPart (read : Parts) : Part → Reader Form
  | .type plus => type read plus
  | .bound capture constness => plain (bound read capture constness)
  | .expression braces => do
    let form ← read (.operand braces)
    read (.operators form braces .jump)
  | .operand braces => operand read braces
  | .standalone => standalone read
  | .operators left braces base => operators read left braces base
  | .pattern => alternatives read
  | .singlePattern => oneOfPatterns read
  | .statements => plain (statements read)
  | .item => plain (item read)
  | .useTree rooted => plain (useTree read rooted)
  | .fields => plain (namedFields read)
where
  plain (r : Reader Unit) : Reader Form := do
    r
    return .plain

def parts : Nat → Parts
  | 0, _ => fail []
  | n + 1, p => readPart (parts n) p

-- How many parts may be open at once before a token is taken.
def depth : Nat := 16

def file (read : Parts) : Reader Unit := do
  innerAttributes read
  all (anyItem read)

end Grammar

namespace Reader

def run {α : Type} (r : Reader α) (ts : List Token) : Except ReadError α := do
  let (x, s) ← r ⟨ts, none⟩
  match s.unread, s.tokens with
  | some b, _ => throw (.leftover b)
  | none, _ :: _ => throw (.leftover none)
  | none, [] => return x

end Reader

def Grammar.readAll {α : Type} (rule : Parts → Reader α) (ts : List Token) : Except ReadError α :=
  (rule (parts (depth * (Token.count ts + 1)))).run ts

namespace ModulePath

def ofTokens : List Token → Except ReadError ModulePath :=
  Grammar.readAll fun read => Grammar.path read false

def parse (text : String) : Except ReadError ModulePath :=
  match Token.ofChars text.toList with
  | none => .error .noTokens
  | some ts => ofTokens ts

end ModulePath

end TypedMarkup.Code
