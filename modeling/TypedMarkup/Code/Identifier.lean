import TypedMarkup.Text.Blank
import TypedMarkup.Text.Lowercase
import TypedMarkup.Vocabulary.Element

namespace TypedMarkup.Code

def keywords : List String :=
  ["_", "abstract", "as", "async", "await", "become", "box", "break", "const", "continue", "crate",
   "do", "dyn", "else", "enum", "extern", "false", "final", "fn", "for", "if", "impl", "in", "let",
   "loop", "macro", "match", "mod", "move", "mut", "override", "priv", "pub", "ref", "return",
   "Self", "self", "static", "struct", "super", "trait", "true", "try", "type", "typeof", "unsafe",
   "unsized", "use", "virtual", "where", "while", "yield"]

def neverRaw : List String :=
  ["self", "Self", "super", "crate", "_"]

def isPlain (c : Char) : Bool :=
  c.isAlphanum

def wordChar (c : Char) : Char :=
  if isPlain c then c else '_'

def sanitizeChars (name : List Char) : List Char :=
  match (Text.trim name).map wordChar with
  | [] => ['_']
  | c :: s => if c.isDigit then '_' :: c :: s else c :: s

def sanitize (name : String) : String :=
  String.ofList (sanitizeChars name.toList)

def identifier (word : String) : String :=
  if neverRaw.contains word then word ++ "_"
  else if keywords.contains word then "r#" ++ word
  else word

end TypedMarkup.Code

namespace TypedMarkup

namespace Element

def typeName (e : Element) : String :=
  Code.identifier (Code.sanitize e.name)

def traitName (e : Element) : String :=
  Code.identifier ("Html" ++ Code.sanitize e.name)

def constructorName (e : Element) : String :=
  Code.identifier (Code.sanitize (Text.lowercase e.name))

end Element

def Attribute.methodName (a : Attribute) : String :=
  Code.identifier (Code.sanitize a.storedName)

def Event.methodName (e : Event) : String :=
  Code.identifier (Code.sanitize (Text.lowercase e.name))

end TypedMarkup
