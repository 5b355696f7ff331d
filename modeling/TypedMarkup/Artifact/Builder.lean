import TypedMarkup.Artifact.Accessor
import TypedMarkup.Code.Emission

namespace TypedMarkup

open Code Layout

def Element.constructor (e : Element) : Function :=
  let (params, tag) : List Param × Expr :=
    match e.tag with
    | .fixed t => ([], .text t)
    | .caller => ([⟨"tag", into "String"⟩], .atom "tag")
  ⟨[], prose ("Returns an HTML element that " ++ trimmed e.doc),
    ⟨"pub ", e.constructorName, .none, params, e.typeName⟩,
    [.value (.call e.typeName
      [.call "HtmlElement::new" [tag, .atom (if e.selfClosing then "true" else "false")]])]⟩

def Element.conversion (e : Element) : Function :=
  ⟨[], [], ⟨"", "from", .none, [⟨"el", .named e.typeName⟩], "Node"⟩,
    [.value (.call "Node::from" [.field (.atom "el") "0"])]⟩

def privateBody : Function :=
  ⟨[], [], ⟨"pub(crate) ", "private_body", .mutable, [⟨"elems", nodes⟩], "Self"⟩,
    [adopt, .value (.atom "self")]⟩

def Element.items (e : Element) : List Item :=
  [.trait (prose ("The interface that describes a \x60" ++ e.name ++ "\x60 element.")) e.traitName
      (.applied "Into" (.named "Node")) (e.accessors.map Accessor.declaration),
   .function e.constructor,
   .wrapper e.typeName "HtmlElement",
   .implementation (.applied "From" (.named e.typeName)) "Node" [e.conversion],
   .implementation (.named e.traitName) e.typeName (e.accessors.map Accessor.definition)] ++
  match e.content with
  | .restricted => [.inherent e.typeName [privateBody]]
  | .container | .childless => []

def header : List Line :=
  [⟨0, "// Code generated by html-codegen. DO NOT EDIT."⟩, ⟨0, ""⟩]

def runtimeNames : List String :=
  ["text", "AttrValue", "Context", "Event", "EventHandler", "HtmlElement", "Node"]

-- Takes names from the module at a path, as many on a line as fit where one line is too short.
def importLines (path : String) (names : List String) : List Line :=
  let body : Doc :=
    match names with
    | [] => .gap 0 0 false
    | n :: ns =>
      .gap 0 0 false ++ .box .filled 0
        (ns.foldl (fun acc x => acc ++ .word "," ++ .gap 1 0 false ++ .word x) (.word n)) ++
      .gap 0 (-4) true
  (.word ("use " ++ path ++ "::") ++
    .box .consistent 4 (.word "\x7b" ++ body ++ .word "\x7d") ++ .word ";" : Doc).lines 0 0

def allowance : String :=
  "#![allow(non_camel_case_types, unused_imports, clippy::all)]"

def builderLines (path : String) (t : Table) : List Line :=
  header ++ [⟨0, allowance⟩] ++
    importLines path runtimeNames ++
    t.elements.flatMap fun e => e.items.flatMap Item.lines

def importTokens (path : String) (names : List String) : List Token :=
  .word "use" :: (Token.ofText path ++ Token.ofText "::" ++
    [.group .curly (separated (names.map Token.ofText)), .mark ';' false])

def builderTokens (path : String) (t : Table) : List Token :=
  Token.ofText allowance ++ importTokens path runtimeNames ++
    t.elements.flatMap fun e => e.items.flatMap Item.emitted

end TypedMarkup
