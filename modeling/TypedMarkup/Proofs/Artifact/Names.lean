import TypedMarkup.Proofs.Artifact.Bodies
import TypedMarkup.Proofs.Code.Decoding

namespace TypedMarkup

open Code Token

namespace Code

def pathBefore : List Token → List String
  | t :: .mark ':' _ :: .mark ':' _ :: ts => t.name?.elim [] (· :: pathBefore ts)
  | t :: _ => t.name?.toList
  | [] => []

namespace Method

def handedTo (m : Method) (method : String) : List (List Token) :=
  ((methodCalls [] m.body).filter (·.method == method)).map fun c => firstArgument c.inside

def handedToPath (m : Method) (path : List String) : List (List Token) :=
  ((appliedAll [] m.body).filter fun a => (pathBefore a.before).reverse == path).map
    fun a => firstArgument a.inside

end Method

def textToken (s : String) : List Token :=
  [.literal .text (Text.literal s)]

theorem firstArgument_text (s : String) (es : List Expr) :
    firstArgument (separated (Expr.tokensEach (.text s :: es))) = textToken s := by
  cases es <;> simp [Expr.tokensEach, Expr.tokens, separated, firstArgument, isComma, textToken]

end Code

def ValueKind.hasOwnName : ValueKind → Bool
  | .string | .url | .int | .float | .any | .bool | .boolForce | .onOff | .stringClass
  | .other _ => true
  | .style | .styleMap | .attrValue | .dataValue | .ariaValue | .xmlns => false

structure Attribute.Stores (a : Attribute) (m : Method) : Prop where
  name : m.head.name = a.methodName
  stored : a.kind.hasOwnName → m.handedTo "set_attr" = [textToken a.storedName]

structure Event.Registers (x : Event) (m : Method) : Prop where
  name : m.head.name = x.methodName
  bound : m.handedTo "set_event_handler" = [textToken x.boundName]

namespace Element

structure Constructs (e : Element) (m : Method) : Prop where
  name : m.head.name = e.constructorName
  tag : ∀ tag, e.tag = .fixed tag → m.handedToPath ["HtmlElement", "new"] = [textToken tag]

structure Implements (e : Element) (i : Implementation) : Prop where
  trait : i.trait = e.traitName
  type : i.type = e.typeName
  methods : ∃ content attrs on events, i.methods = content ++ attrs ++ on :: events ∧
    content.map (·.head.name) = (if e.content = .container then ["body", "text"] else []) ∧
    List.Forall₂ Attribute.Stores e.attributes attrs ∧
    on.head.name = "on" ∧
    List.Forall₂ Event.Registers e.events events

end Element

theorem ValueKind.calls_store {k : ValueKind} (h : k.hasOwnName) (name : String) :
    ∃ value, ((k.store name).flatMap Stmt.calls).filter (·.method == "set_attr") =
      [⟨wrapped, "set_attr", [.text name, value]⟩] := by
  cases k with
  | style | styleMap | attrValue | dataValue | ariaValue | xmlns =>
    exact absurd h Bool.false_ne_true
  | _ => exact ⟨_, rfl⟩

theorem handedTo_definition {e : Element} {a : Accessor} (ha : a ∈ e.accessors) (method : String) :
    a.definition.method.handedTo method =
      (a.definition.calls.filter (·.method == method)).map
        fun c => firstArgument (separated (Expr.tokensEach c.args)) := by
  rw [Method.handedTo, e.methodCalls_definition a ha, List.filter_map, List.map_map]
  rfl

namespace Element

variable {e : Element}

theorem stores_accessor {a : Attribute} (ha : a ∈ e.attributes) :
    a.Stores a.accessor.definition.method where
  name := by
    simp only [Function.method, Signature.head, Accessor.definition, Attribute.accessor,
      Accessor.changing]
  stored h := by
    have hmem : a.accessor ∈ e.accessors := by
      simp [accessors, List.mem_map_of_mem ha]
    obtain ⟨value, hcalls⟩ := ValueKind.calls_store h a.storedName
    rw [handedTo_definition hmem, Attribute.accessor, calls_changing, hcalls, List.map_singleton,
      firstArgument_text]

theorem registers_accessor {x : Event} (hx : x ∈ e.events) :
    x.Registers x.accessor.definition.method where
  name := by
    simp only [Function.method, Signature.head, Accessor.definition, Event.accessor,
      Accessor.changing]
  bound := by
    have hcalls : ([listen (.text x.boundName)].flatMap Stmt.calls).filter
        (·.method == "set_event_handler") =
          [⟨wrapped, "set_event_handler", [.text x.boundName, invoked "h" "into"]⟩] := rfl
    have hmem : x.accessor ∈ e.accessors := by
      simp [accessors, List.mem_map_of_mem hx]
    rw [handedTo_definition hmem, Event.accessor, calls_changing, hcalls, List.map_singleton,
      firstArgument_text]

theorem implements (e : Element) : e.Implements e.implementation where
  trait := e.trait_implementation
  type := e.type_implementation
  methods := by
    refine ⟨e.contentAccessors.map fun a => a.definition.method,
      e.attributes.map fun a => a.accessor.definition.method, onAccessor.definition.method,
      e.events.map fun x => x.accessor.definition.method, ?_, ?_, ?_, rfl, ?_⟩
    · simp [implementation, accessors, Function.comp_def]
    · cases hc : e.content with
      | container => cases ht : e.text <;> simp only [contentAccessors, hc, ht] <;> rfl
      | restricted => simp [contentAccessors, hc]
      | childless => simp [contentAccessors, hc]
    · rw [List.forall₂_map_right_iff, List.forall₂_same]
      exact fun a ha => stores_accessor ha
    · rw [List.forall₂_map_right_iff, List.forall₂_same]
      exact fun x hx => registers_accessor hx

theorem handedToPath_constructor {tag : String} (h : e.tag = .fixed tag) :
    e.constructor.method.handedToPath ["HtmlElement", "new"] = [textToken tag] := by
  obtain ⟨n, hn, hname⟩ := code_of_isIdentifier e.isIdentifier_typeName
  have hleaf : ∀ before, n.applied before = [] := by
    cases n with
    | group => exact absurd hname (by simp [Token.name?])
    | _ => exact fun _ => rfl
  have hnew : code "HtmlElement::new" =
      [.word "HtmlElement", .mark ':' false, .mark ':' false, .word "new"] := by
    have hread : Legible "HtmlElement::new".toList
        [.word "HtmlElement", .mark ':' false, .mark ':' false, .word "new"] :=
      legible_of_lex rfl rfl
    exact hread.code
  have hclosing : ∃ w, code (if e.selfClosing then "true" else "false") = [.word w] := by
    split
    · exact ⟨"true", code_of_isName (by decide)⟩
    · exact ⟨"false", code_of_isName (by decide)⟩
  obtain ⟨w, hw⟩ := hclosing
  have hword (w : String) : (Token.word w).name? = some w := rfl
  simp [Method.handedToPath, Function.method, constructor, h, Stmt.tokens, Expr.tokens,
    Expr.tokensEach, separated, hn, hnew, hw, appliedAll, applied, hleaf, pathBefore, hname, hword,
    firstArgument, isComma, textToken]

theorem constructs (e : Element) : e.Constructs e.constructor.method where
  name := by
    cases h : e.tag <;> simp only [Function.method, Signature.head, constructor, h]
  tag _ := handedToPath_constructor

end Element

theorem names_spelled {t : Table} {c : Config} {a : Artifacts} (h : t.render c = .ok a) :
    (∃ (constructor : Element → Method) (implementation : Element → Implementation),
      functions (withoutNotes (afterImport a.builder.contents)) =
        some (t.elements.map constructor) ∧
      implementations (withoutNotes (afterImport a.builder.contents)) =
        some (t.elements.map implementation) ∧
      ∀ e ∈ t.elements, e.Constructs (constructor e) ∧ e.Implements (implementation e)) ∧
    (∀ s, Spells (Text.literal s) s) ∧ Function.Injective Text.literal := by
  have hfunctions := functions_builder h
  have himplementations := implementations_builder h
  refine ⟨⟨fun e => e.constructor.method, Element.implementation, hfunctions, himplementations,
    fun e _ => ?_⟩, ?_, ?_⟩
  · exact ⟨e.constructs, e.implements⟩
  · exact spells_literal
  · exact literal_injective

def oddElement : Element :=
  ⟨"1", .childless, "", .fixed "\x007\"", .children,
    [⟨"k", "A\r\n\"B\\", none, .bool, ""⟩, ⟨"s", "S", none, .styleMap, ""⟩],
    [⟨"e", "onON\u2028", ""⟩]⟩

-- The digit behind the zero is no part of its escape.
theorem names_spelled_of_odd :
    ∃ a constructor implementation, Table.render ⟨[oddElement]⟩ .standard = .ok a ∧
      functions (withoutNotes (afterImport a.builder.contents)) = some [constructor] ∧
      implementations (withoutNotes (afterImport a.builder.contents)) = some [implementation] ∧
      constructor.handedToPath ["HtmlElement", "new"] =
        [[.literal .text "\"\\x007\\\"\""]] ∧
      oddElement.Implements implementation ∧
      Spells "\"\\x007\\\"\"" "\x007\"" := by
  have hpath : Config.standard.importPath = .ok "super" := by decide
  have ha := render_of_importPath ⟨[oddElement]⟩ hpath
  have hliteral : Text.literal "\x007\"" = "\"\\x007\\\"\"" := by decide
  obtain ⟨⟨constructor, implementation, hconstructors, himplementations, helements⟩, hspells, -⟩ :=
    names_spelled ha
  obtain ⟨hconstructs, himplements⟩ := helements oddElement (by simp)
  have htag := hconstructs.tag _ rfl
  rw [textToken, hliteral] at htag
  exact ⟨_, constructor oddElement, implementation oddElement, ha, hconstructors, himplementations,
    htag, himplements, hliteral ▸ hspells _⟩

end TypedMarkup
