import TypedMarkup.Artifact.Prose
import TypedMarkup.Code.Identifier
import TypedMarkup.Code.Item

namespace TypedMarkup

open Code

structure Accessor where
  docs : List String
  name : String
  receiver : Receiver
  params : List Param
  body : List Stmt
  deriving Repr

namespace Accessor

def declaration (a : Accessor) : Declaration :=
  ⟨a.docs, ⟨"", a.name, .owned, a.params, "Self"⟩⟩

def definition (a : Accessor) : Function :=
  ⟨[], [], ⟨"", a.name, a.receiver, a.params, "Self"⟩, a.body⟩

def changing (docs : List String) (name : String) (params : List Param) (body : List Stmt) :
    Accessor :=
  ⟨docs, name, .mutable, params, body ++ [.value (.atom "self")]⟩

end Accessor

def into (t : String) : Ty :=
  .some (.applied "Into" (.named t))

def displayed : Ty :=
  .some (.named "std::fmt::Display")

def asRefStr : Ty :=
  .some (.applied "AsRef" (.named "str"))

def itemsOf (t : Ty) : Ty :=
  .some (.bound "IntoIterator" "Item" t)

def refStr : Ty :=
  .reference (.named "str")

def nodes : Ty :=
  itemsOf (.named "Node")

def wrapped : Expr :=
  .field (.atom "self") "0"

def invoked (receiver : String) (method : String) : Expr :=
  .method (.atom receiver) method []

def stringValue (e : Expr) : Expr :=
  .call "AttrValue::String" [e]

def store (name value : Expr) : Stmt :=
  .run (.method wrapped "set_attr" [name, value])

def listen (name : Expr) : Stmt :=
  .run (.method wrapped "set_event_handler" [name, invoked "h" "into"])

def adopt : Stmt :=
  .run (.method wrapped "set_children" [.method (invoked "elems" "into_iter") "collect" []])

def bodyAccessor : Accessor :=
  .changing ["Body sets the content of the element."] "body" [⟨"elems", nodes⟩] [adopt]

def textAccessor (slot : TextSlot) : Accessor :=
  let docs := ["Text sets the content of the element with a text node containing the",
    "stringified given value."]
  let params := [⟨"v", displayed⟩]
  match slot with
  | .children =>
    ⟨docs, "text", .owned, params,
      [.value (.method (.atom "self") "body" [.array [.call "text" [.atom "v"]]])]⟩
  | .value =>
    .changing docs "text" params [store (.text "value") (stringValue (invoked "v" "to_string"))]

def ValueKind.params : ValueKind → List Param
  | .string | .url | .xmlns => [⟨"v", into "String"⟩]
  | .int => [⟨"v", .named "i64"⟩]
  | .float => [⟨"v", .named "f64"⟩]
  | .bool | .boolForce | .onOff => [⟨"v", .named "bool"⟩]
  | .stringClass => [⟨"v", itemsOf asRefStr⟩]
  | .style => [⟨"k", refStr⟩, ⟨"v", refStr⟩]
  | .styleMap => [⟨"s", itemsOf (.pair asRefStr asRefStr)⟩]
  | .attrValue => [⟨"n", into "String"⟩, ⟨"v", into "AttrValue"⟩]
  | .dataValue | .ariaValue => [⟨"k", refStr⟩, ⟨"v", displayed⟩]
  | .any | .other _ => [⟨"v", into "AttrValue"⟩]

def storeWord (name yes no : String) : List Stmt :=
  [.choose "s" "v" yes no, store (.text name) (stringValue (invoked "s" "to_string"))]

def storeKeyed (template : String) : List Stmt :=
  [store (.call "format!" [.text template]) (stringValue (invoked "v" "to_string"))]

def ValueKind.store (name : String) : ValueKind → List Stmt
  | .string | .url => [TypedMarkup.store (.text name) (stringValue (invoked "v" "into"))]
  | .int => [TypedMarkup.store (.text name) (.call "AttrValue::Int" [.atom "v"])]
  | .float => [TypedMarkup.store (.text name) (.call "AttrValue::Float" [.atom "v"])]
  | .bool => [TypedMarkup.store (.text name) (.call "AttrValue::Bool" [.atom "v"])]
  | .boolForce => storeWord name "true" "false"
  | .onOff => storeWord name "on" "off"
  | .stringClass =>
    [.bind "v: Vec<String>" (.method (.method (invoked "v" "into_iter") "map"
      [.lambda "s" (.method (invoked "s" "as_ref") "to_string" [])]) "collect" []),
     TypedMarkup.store (.text name) (stringValue (.method (.atom "v") "join" [.text " "]))]
  | .style =>
    [TypedMarkup.store (.text "style")
      (stringValue (.call "format!" [.text "\x7bk\x7d:\x7bv\x7d"]))]
  | .styleMap =>
    [.update "(k, v)" "s" "self"
      (.method (.atom "self") "style" [invoked "k" "as_ref", invoked "v" "as_ref"])]
  | .attrValue => [TypedMarkup.store (.atom "n") (invoked "v" "into")]
  | .dataValue => storeKeyed "data-\x7bk\x7d"
  | .ariaValue => storeKeyed "aria-\x7bk\x7d"
  | .xmlns => [.run (.method wrapped "set_xmlns" [.atom "v"])]
  | .any | .other _ => [TypedMarkup.store (.text name) (invoked "v" "into")]

def Attribute.accessor (a : Attribute) : Accessor :=
  .changing (prose (describe a.name a.doc)) a.methodName a.kind.params (a.kind.store a.storedName)

def onAccessor : Accessor :=
  .changing ["On registers the given event handler to the specified event."] "on"
    [⟨"event", refStr⟩, ⟨"h", into "EventHandler"⟩] [listen (.atom "event")]

def Event.accessor (e : Event) : Accessor :=
  .changing (prose (describe e.name e.doc)) e.methodName [⟨"h", into "EventHandler"⟩]
    [listen (.text e.boundName)]

namespace Element

def contentAccessors (e : Element) : List Accessor :=
  match e.content with
  | .container => [bodyAccessor, textAccessor e.text]
  | .restricted | .childless => []

def accessors (e : Element) : List Accessor :=
  e.contentAccessors ++ e.attributes.map Attribute.accessor ++
    onAccessor :: e.events.map Event.accessor

end Element

end TypedMarkup
