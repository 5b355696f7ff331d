import TypedMarkup.Vocabulary.Composition

namespace TypedMarkup

inductive Content where
  | container
  | restricted
  | childless
  deriving DecidableEq, Repr

inductive Tag where
  | fixed (tag : String)
  | caller
  deriving DecidableEq, Repr

inductive TextSlot where
  | children
  | value
  deriving DecidableEq, Repr

structure Element where
  name : String
  content : Content
  doc : String
  tag : Tag
  text : TextSlot
  attributes : List Attribute
  events : List Event
  deriving DecidableEq, Repr

namespace Element

def named (name : String) (content : Content) (doc : String) : Element :=
  ⟨name, content, doc, .fixed (Text.lowercase name), .children, [], []⟩

def selfClosing (e : Element) : Bool :=
  e.content == .childless

end Element

structure Definition where
  name : String
  content : Content
  doc : String
  tag : Tag
  text : TextSlot
  attributes : AttributeList
  events : EventList
  deriving DecidableEq, Repr

namespace Definition

def entry (content : Content) (name doc : String) (attributes : AttributeList)
    (events : EventList) : Definition :=
  ⟨name, content, doc, .fixed (Text.lowercase name), .children, attributes, events⟩

def withCallerTag (d : Definition) : Definition :=
  { d with tag := .caller }

def withTextInValue (d : Definition) : Definition :=
  { d with text := .value }

def resolve (v : Vocabulary) (d : Definition) : Except MissingKey Element :=
  match d.attributes.resolve v with
  | .error e => .error e
  | .ok attributes =>
    match d.events.resolve v with
    | .error e => .error e
    | .ok events => .ok ⟨d.name, d.content, d.doc, d.tag, d.text, attributes, events⟩

def resolveAll (v : Vocabulary) : List Definition → Except MissingKey (List Element)
  | [] => .ok []
  | d :: ds =>
    match d.resolve v with
    | .error e => .error e
    | .ok x =>
      match resolveAll v ds with
      | .error e => .error e
      | .ok xs => .ok (x :: xs)

end Definition

structure Table where
  elements : List Element
  deriving DecidableEq, Repr

namespace Table

def size (t : Table) : Nat :=
  t.elements.length

end Table

end TypedMarkup
