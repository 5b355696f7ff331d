import TypedMarkup.Text.Lowercase
import TypedMarkup.Vocabulary.Keyed

namespace TypedMarkup

inductive ValueKind where
  | string
  | url
  | int
  | float
  | any
  | bool
  | boolForce
  | onOff
  | stringClass
  | style
  | styleMap
  | attrValue
  | dataValue
  | ariaValue
  | xmlns
  | other (tag : String)
  deriving DecidableEq, Repr

namespace ValueKind

def ofTag : String → ValueKind
  | "string" => .string
  | "url" => .url
  | "int" => .int
  | "float64" => .float
  | "any" => .any
  | "bool" => .bool
  | "bool|force" => .boolForce
  | "on/off" => .onOff
  | "string|class" => .stringClass
  | "style" => .style
  | "style|map" => .styleMap
  | "attr|value" => .attrValue
  | "data|value" => .dataValue
  | "aria|value" => .ariaValue
  | "xmlns" => .xmlns
  | t => .other t

def tag : ValueKind → String
  | .string => "string"
  | .url => "url"
  | .int => "int"
  | .float => "float64"
  | .any => "any"
  | .bool => "bool"
  | .boolForce => "bool|force"
  | .onOff => "on/off"
  | .stringClass => "string|class"
  | .style => "style"
  | .styleMap => "style|map"
  | .attrValue => "attr|value"
  | .dataValue => "data|value"
  | .ariaValue => "aria|value"
  | .xmlns => "xmlns"
  | .other t => t

end ValueKind

structure Attribute where
  key : String
  name : String
  markup : Option String
  kind : ValueKind
  doc : String
  deriving DecidableEq, Repr

instance : Keyed Attribute := ⟨Attribute.key, Attribute.name⟩

def Attribute.storedName (a : Attribute) : String :=
  Text.lowercase (a.markup.getD a.name)

end TypedMarkup
