import TypedMarkup.Artifact.Builder

namespace TypedMarkup

open Code Layout

def ValueKind.samples : ValueKind → List (List Expr)
  | .dataValue | .ariaValue | .attrValue => [[.text "foo", .text "bar"]]
  | .style => [[.text "color", .text "deepskyblue"]]
  | .styleMap =>
    [[.call "std::collections::HashMap::from"
      [.array [.tuple [.text "color", .text "pink"]]]]]
  | .bool | .boolForce | .onOff => [[.atom "true"], [.atom "false"]]
  | .string => [[.text "foo"]]
  | .url => [[.text "http://foo.com"]]
  | .stringClass => [[.array [.text "foo", .text "bar"]]]
  | .xmlns => [[.text "http://www.w3.org/2000/svg"]]
  | .float => [[.atom "42.0"]]
  | .int | .any | .other _ => [[.atom "42_i64"]]

def step (method : String) (args : List Expr) : Stmt :=
  .bind "elem" (.method (.atom "elem") method args)

def Attribute.steps (a : Attribute) : List Stmt :=
  a.kind.samples.map (step a.methodName)

namespace Element

def eventSteps (e : Element) : List Stmt :=
  if e.events.isEmpty then []
  else .bind "h" (.lambda "_: Context, _: Event" (.atom "\x7b\x7d")) ::
    step "on" [.text "click", .atom "h"] ::
    e.events.map fun x => step x.methodName [.atom "h"]

def lastStep (e : Element) : Stmt :=
  .bind "_" <|
    match e.content with
    | .container => .method (.atom "elem") "text" [.text "hello"]
    | .restricted => .method (.atom "elem") "private_body" [.array [.call "text" [.text "hello"]]]
    | .childless => .atom "elem"

def smokeTest (e : Element) : Function :=
  let args : List Expr :=
    match e.tag with
    | .fixed _ => []
    | .caller => [.text "div"]
  ⟨["#[test]"], [], ⟨"", e.constructorName, .none, [], ""⟩,
    .bind "elem" (.call ("super::" ++ e.constructorName) args) ::
      (e.attributes.flatMap Attribute.steps ++ e.eventSteps ++ [e.lastStep])⟩

end Element

def subject : String :=
  "use super::*;"

def smokeLines (t : Table) : List Line :=
  header ++ [⟨0, subject⟩] ++ t.elements.flatMap fun e => e.smokeTest.lines 0

def smokeTokens (t : Table) : List Token :=
  Token.ofText subject ++ t.elements.flatMap fun e => e.smokeTest.emitted

end TypedMarkup
