import TypedMarkup.Vocabulary.Catalog

namespace TypedMarkup

inductive Dialect where
  | html
  | svg
  deriving DecidableEq, Repr

structure Vocabulary where
  htmlAttributes : Catalog Attribute
  svgAttributes : Catalog Attribute
  htmlEvents : Catalog Event
  svgEvents : Catalog Event

namespace Vocabulary

def attributes (v : Vocabulary) : Dialect → Catalog Attribute
  | .html => v.htmlAttributes
  | .svg => v.svgAttributes

def events (v : Vocabulary) : Dialect → Catalog Event
  | .html => v.htmlEvents
  | .svg => v.svgEvents

end Vocabulary

def globalAttributeKeys : List String :=
  ["accesskey", "aria-*", "class", "contenteditable", "data-*", "dir", "draggable", "hidden", "id",
   "lang", "role", "spellcheck", "style", "styles", "tabindex", "title", "attribute"]

inductive Baseline where
  | global
  | media
  | svgDocument
  | svgDocumentElement
  | svgGraphical
  | svgGlobal
  deriving DecidableEq, Repr

namespace Baseline

def dialect : Baseline → Dialect
  | .global | .media => .html
  | .svgDocument | .svgDocumentElement | .svgGraphical | .svgGlobal => .svg

-- The keys of the document events start with the space that the catalog has in them.
def keys : Baseline → List String
  | .global =>
    ["onblur", "onchange", "oncontextmenu", "onfocus", "oninput", "oninvalid", "onreset",
     "onsearch", "onselect", "onsubmit", "onkeydown", "onkeypress", "onkeyup", "onclick",
     "ondblclick", "onmousedown", "onmouseenter", "onmouseleave", "onmousemove", "onmouseout",
     "onmouseover", "onmouseup", "onwheel", "ondrag", "ondragend", "ondragenter", "ondragleave",
     "ondragover", "ondragstart", "ondrop", "onscroll", "oncopy", "oncut", "onpaste"]
  | .media =>
    ["onabort", "oncanplay", "oncanplaythrough", "oncuechange", "ondurationchange", "onemptied",
     "onended", "onerror", "onloadeddata", "onloadedmetadata", "onloadstart", "onpause", "onplay",
     "onplaying", "onprogress", "onratechange", "onseeked", "onseeking", "onstalled", "onsuspend",
     "ontimeupdate", "onvolumechange", "onwaiting"]
  | .svgDocument => ["onabort", " onerror", " onresize", " onscroll", " onunload"]
  | .svgDocumentElement => ["oncopy", "oncut", "onpaste"]
  | .svgGraphical => ["onactivate", "onfocusin", "onfocusout"]
  | .svgGlobal =>
    ["oncancel", "oncanplay", "oncanplaythrough", "onchange", "onclick", "onclose", "oncuechange",
     "ondblclick", "ondrag", "ondragend", "ondragenter", "ondragleave", "ondragover",
     "ondragstart", "ondrop", "ondurationchange", "onemptied", "onended", "onerror", "onfocus",
     "oninput", "oninvalid", "onkeydown", "onkeypress", "onkeyup", "onload", "onloadeddata",
     "onloadedmetadata", "onloadstart", "onmousedown", "onmouseenter", "onmouseleave",
     "onmousemove", "onmouseout", "onmouseover", "onmouseup", "onmousewheel", "onpause", "onplay",
     "onplaying", "onprogress", "onratechange", "onreset", "onresize", "onscroll", "onseeked",
     "onseeking", "onselect", "onshow", "onstalled", "onsubmit", "onsuspend", "ontimeupdate",
     "ontoggle", "onvolumechange", "onwaiting"]

end Baseline

def animationEvents : List (String × String) :=
  [("onbegin", "OnBegin"), ("onend", "OnEnd"), ("onrepeat", "OnRepeat")]

namespace Vocabulary

def addGlobalAttributes (v : Vocabulary) (xs : List Attribute) :
    Except MissingKey (List Attribute) :=
  (v.htmlAttributes.resolve globalAttributeKeys).map fun ys => sortByName (xs ++ ys)

def addBaseline (v : Vocabulary) (b : Baseline) (xs : List Event) :
    Except MissingKey (List Event) :=
  ((v.events b.dialect).resolve b.keys).map fun ys => sortByName (xs ++ ys)

def addAbsent (c : Catalog Event) : List (String × String) → List Event →
    Except MissingKey (List Event)
  | [], xs => .ok xs
  | (k, name) :: rest, xs =>
    if xs.any (·.name == name) then addAbsent c rest xs
    else match c.get k with
      | .error e => .error e
      | .ok x => addAbsent c rest (xs ++ [x])

def addAnimation (v : Vocabulary) (xs : List Event) : Except MissingKey (List Event) :=
  (addAbsent v.svgEvents animationEvents xs).map sortByName

end Vocabulary

inductive AttributeList where
  | none
  | found (d : Dialect) (keys : List String)
  | global (xs : AttributeList)
  deriving DecidableEq, Repr

inductive EventList where
  | none
  | found (d : Dialect) (keys : List String)
  | baseline (b : Baseline) (xs : EventList)
  | animated (xs : EventList)
  deriving DecidableEq, Repr

def AttributeList.resolve (v : Vocabulary) : AttributeList → Except MissingKey (List Attribute)
  | .none => .ok []
  | .found d ks => (v.attributes d).resolve ks
  | .global xs => xs.resolve v >>= v.addGlobalAttributes

def EventList.resolve (v : Vocabulary) : EventList → Except MissingKey (List Event)
  | .none => .ok []
  | .found d ks => (v.events d).resolve ks
  | .baseline b xs => xs.resolve v >>= v.addBaseline b
  | .animated xs => xs.resolve v >>= v.addAnimation

end TypedMarkup
