import TypedMarkup.Proofs.Artifact.Readable

namespace TypedMarkup

open Code Layout

namespace Code

def Head.method (name : String) (params : List (List Token)) : Head :=
  ⟨[], name, separated (code "self" :: params), code "Self"⟩

def Head.SameUpToMut (d m : Head) : Prop :=
  m = d ∨ m = { d with params := .word "mut" :: d.params }

end Code

namespace Element

variable (e : Element)

def methods : List Head :=
  (if e.content = .container then
    [.method "body" [code "elems: impl IntoIterator<Item = Node>"],
      .method "text" [code "v: impl std::fmt::Display"]]
  else []) ++
  e.attributes.map (fun a => .method a.methodName (a.kind.params.map Param.tokens)) ++
  .method "on" [code "event: &str", code "h: impl Into<EventHandler>"] ::
    e.events.map fun x => .method x.methodName [code "h: impl Into<EventHandler>"]

def constructorHead : Head :=
  ⟨code "pub", e.constructorName,
    if e.tag = .caller then code "tag: impl Into<String>" else [], code e.typeName⟩

def tagText : String :=
  match e.tag with
  | .fixed t => Text.literal t
  | .caller => "tag"

def constructorBody : List Token :=
  code (e.typeName ++ "(HtmlElement::new(" ++ e.tagText ++ ", " ++
    (if e.content = .childless then "true" else "false") ++ "))")

def conversionHead : Head :=
  ⟨[], "from", code ("el: " ++ e.typeName), code "Node"⟩

def privateBodyHead : Head :=
  ⟨code "pub(crate)", "private_body",
    separated [code "mut self", code "elems: impl IntoIterator<Item = Node>"], code "Self"⟩

def inventory (definitions : List Head) : List Outline :=
  [.trait e.traitName (code "Into<Node>") e.methods,
    .function e.constructorHead e.constructorBody,
    .wrapper e.typeName (code "HtmlElement"),
    .implementation (code ("From<" ++ e.typeName ++ ">")) "Node" [e.conversionHead],
    .implementation (code e.traitName) e.typeName definitions] ++
  if e.content = .restricted then [.inherent e.typeName [privateBodyHead]] else []

end Element

theorem code_self : code "self" = [.word "self"] := by
  have hread : Legible "self".toList [.word "self"] := legible_of_lex rfl rfl
  exact hread.code

theorem code_type {t : Ty} (h : t.isLegible) {w : String} (hw : w.toList = t.doc.flat) :
    code w = t.tokens :=
  (Ty.reads h).code_eq hw

theorem code_param {p : Param} (hn : isWord p.name) (ht : p.type.isLegible) {w : String}
    (hw : w.toList = p.doc.flat) : code w = p.tokens :=
  (Signature.reads_param hn ht).code_eq hw

theorem Accessor.head_declaration (a : Accessor) :
    a.declaration.signature.head = .method a.name (a.params.map Param.tokens) := by
  simp only [declaration, Signature.head, Signature.paramTokens, Signature.code_empty, Head.method,
    Receiver.tokens, code_self]
  rfl

theorem Accessor.sameUpToMut {a : Accessor} (h : a.receiver ≠ .none) :
    Head.SameUpToMut a.declaration.signature.head a.definition.signature.head := by
  cases hr : a.receiver with
  | none => exact absurd hr h
  | owned =>
    refine .inl ?_
    simp only [declaration, definition, hr]
  | mutable =>
    refine .inr ?_
    simp only [declaration, definition, hr, Signature.head, Signature.paramTokens]
    rfl

namespace Element

variable (e : Element)

theorem receiver_accessors : ∀ a ∈ e.accessors, a.receiver ≠ .none := by
  refine e.forall_accessors (by decide) (fun slot => ?_) (fun a => ?_) (by decide) fun x => ?_
  · cases slot <;> decide
  · simp [Attribute.accessor, Accessor.changing]
  · simp [Event.accessor, Accessor.changing]

theorem heads_contentAccessors :
    e.contentAccessors.map (fun a => a.declaration.signature.head) =
      if e.content = .container then
        [.method "body" [code "elems: impl IntoIterator<Item = Node>"],
          .method "text" [code "v: impl std::fmt::Display"]]
      else [] := by
  have hbody : code "elems: impl IntoIterator<Item = Node>" = Param.tokens ⟨"elems", nodes⟩ :=
    code_param (by decide) (by decide) (by decide)
  have htext : code "v: impl std::fmt::Display" = Param.tokens ⟨"v", displayed⟩ :=
    code_param (by decide) (by decide) (by decide)
  cases hc : e.content with
  | container =>
    simp only [contentAccessors, hc, List.map_cons, List.map_nil, Accessor.head_declaration, hbody,
      htext]
    cases e.text <;> rfl
  | restricted => simp [contentAccessors, hc]
  | childless => simp [contentAccessors, hc]

theorem head_attribute (a : Attribute) :
    a.accessor.declaration.signature.head =
      .method a.methodName (a.kind.params.map Param.tokens) := by
  rw [Accessor.head_declaration]
  simp only [Attribute.accessor, Accessor.changing]

theorem head_event (x : Event) :
    x.accessor.declaration.signature.head =
      .method x.methodName [code "h: impl Into<EventHandler>"] := by
  have hparam : code "h: impl Into<EventHandler>" = Param.tokens ⟨"h", into "EventHandler"⟩ :=
    code_param (by decide) (by decide) (by decide)
  rw [Accessor.head_declaration, hparam]
  simp only [Event.accessor, Accessor.changing, List.map_cons, List.map_nil]

theorem head_on : onAccessor.declaration.signature.head =
    .method "on" [code "event: &str", code "h: impl Into<EventHandler>"] := by
  have hevent : code "event: &str" = Param.tokens ⟨"event", refStr⟩ :=
    code_param (by decide) (by decide) (by decide)
  have hhandler : code "h: impl Into<EventHandler>" = Param.tokens ⟨"h", into "EventHandler"⟩ :=
    code_param (by decide) (by decide) (by decide)
  rw [Accessor.head_declaration, hevent, hhandler]
  rfl

theorem heads_declarations :
    e.accessors.map (fun a => a.declaration.signature.head) = e.methods := by
  simp only [accessors, methods, List.map_append, List.map_cons, List.map_map, Function.comp_def,
    heads_contentAccessors, head_attribute, head_event, head_on]

def definitions : List Head :=
  e.accessors.map fun a => a.definition.signature.head

theorem sameUpToMut_definitions : List.Forall₂ Head.SameUpToMut e.methods e.definitions := by
  rw [← heads_declarations, definitions, List.forall₂_map_left_iff, List.forall₂_map_right_iff,
    List.forall₂_same]
  exact fun a ha => Accessor.sameUpToMut (e.receiver_accessors a ha)

theorem code_wrapping {tag : Expr} (h : tag.isLegible) {w : String}
    (hw : w.toList = (tag.doc false false).flat) :
    code (e.typeName ++ "(HtmlElement::new(" ++ w ++ ", " ++
        (if e.content = .childless then "true" else "false") ++ "))") =
      (Expr.call e.typeName [.call "HtmlElement::new"
        [tag, .atom (if e.selfClosing then "true" else "false")]]).tokens := by
  have hclosing : e.selfClosing = decide (e.content = .childless) := rfl
  refine (Expr.reads _ false true (e.isLegible_wrapping h)).code_eq ?_
  simp [Expr.doc, Expr.docs, Expr.enclosedArgs, Expr.isBlock, Expr.leaf, enclosed, enclosedAt,
    series, hw, hclosing]

theorem outline_constructor : e.constructor.signature.head = e.constructorHead ∧
    e.constructor.body.flatMap Stmt.tokens = e.constructorBody := by
  have haccess : code "pub" = code "pub " := by
    have hpub : Legible "pub".toList [.word "pub"] := legible_of_lex rfl rfl
    rw [hpub.code, Signature.opens_pub.code]
  have hparam : code "tag: impl Into<String>" = Param.tokens ⟨"tag", into "String"⟩ :=
    code_param (by decide) (by decide) (by decide)
  cases h : e.tag with
  | fixed t =>
    have hbody := e.code_wrapping (rfl : (Expr.text t).isLegible) (w := Text.literal t) rfl
    simp only [constructor, constructorHead, constructorBody, tagText, h, Signature.head, haccess,
      hbody]
    simp [Stmt.tokens, Signature.paramTokens, Receiver.tokens, separated]
  | caller =>
    have hbody := e.code_wrapping (by decide : (Expr.atom "tag").isLegible) (w := "tag") (by decide)
    simp only [constructor, constructorHead, constructorBody, tagText, h, Signature.head, haccess,
      hbody, hparam]
    simp [Stmt.tokens, Signature.paramTokens, Receiver.tokens, separated]

theorem head_conversion : e.conversion.signature.head = e.conversionHead := by
  have hparam (n : String) (hn : isWord n) :
      code ("el: " ++ n) = Param.tokens ⟨"el", .named n⟩ := by
    have htype : (Ty.named n).isLegible := by rwa [Ty.isLegible]
    have hel : isWord "el" := by decide
    exact code_param hel htype (by simp [Param.doc, Ty.doc])
  have hparam := hparam e.typeName (isWord_of_isHeadName e.isHeadName_typeName)
  rw [conversionHead, hparam]
  simp [conversion, Signature.head, Signature.paramTokens, Signature.code_empty, Receiver.tokens,
    separated]

theorem head_privateBody : privateBody.signature.head = privateBodyHead := by
  have haccess : code "pub(crate)" = code "pub(crate) " := by
    rw [Signature.legible_crate.code, Signature.code_crate]
  have hself : Legible "mut self".toList [.word "mut", .word "self"] := legible_of_lex rfl rfl
  have hparam : code "elems: impl IntoIterator<Item = Node>" = Param.tokens ⟨"elems", nodes⟩ :=
    code_param (by decide) (by decide) (by decide)
  rw [privateBodyHead, haccess, hself.code, hparam]
  rfl

theorem outline_items : e.items.map Item.outline = e.inventory e.definitions := by
  have hword := isWord_of_isHeadName e.isHeadName_typeName
  have hnode : code "Into<Node>" = (Ty.applied "Into" (.named "Node")).tokens :=
    code_type (by decide) (by decide)
  have hfrom : code ("From<" ++ e.typeName ++ ">") =
      (Ty.applied "From" (.named e.typeName)).tokens :=
    code_type (by rw [Ty.isLegible, Ty.isLegible, hword]; decide)
      (by simp [Ty.doc, enclosed, enclosedAt, series])
  have hmethods := e.heads_declarations
  obtain ⟨hhead, hbody⟩ := e.outline_constructor
  cases hc : e.content <;>
    simp [items, inventory, hc, Item.outline, hnode, hfrom, hhead, hbody, head_conversion,
      head_privateBody, Function.comp_def, hmethods, definitions, Ty.tokens]

end Element

theorem builder_inventory {t : Table} {c : Config} {a : Artifacts} (h : t.render c = .ok a) :
    ∃ definitions : Element → List Head,
      (∀ e, List.Forall₂ Head.SameUpToMut e.methods (definitions e)) ∧
      outline (withoutNotes (afterImport a.builder.contents)) =
        some (t.elements.flatMap fun e => e.inventory (definitions e)) ∧
      ∀ l ∈ codeLines (afterImport a.builder.contents).toList, isComment l = false := by
  obtain ⟨path, hpath, rfl⟩ := render_ok h
  refine ⟨Element.definitions, Element.sameUpToMut_definitions, ?_, ?_⟩
  · simp only [afterImport_builderText (semicolon_not_mem_importPath hpath), outline_itemsText,
      Element.outline_items]
  · simp only [afterImport_builderText (semicolon_not_mem_importPath hpath), codeLines_items]
    have hline : ∀ l ∈ (bareLines t).map Line.chars, isComment l = false := by
      intro l hl
      obtain ⟨k, hk, rfl⟩ := List.mem_map.mp hl
      exact isComment_chars ((readLines_bareLines t).words k hk)
    have hempty : isComment [] = false := rfl
    simpa [List.forall_mem_append, or_imp, forall_and, hempty] using hline

def describedTable : Table :=
  ⟨[⟨"Type", .restricted, "one\n/// two\r\n\n", .caller, .children,
      [⟨"checked", "Checked", none, .bool, "*/"⟩, ⟨"style", "Style", none, .style, ""⟩],
      [⟨"onclick", "OnClick", "\u2028"⟩, ⟨"onclick", "OnClick", ""⟩]⟩,
    ⟨"9", .container, "", .fixed "\"\\", .value, [], []⟩]⟩

-- Events of one name keep a method each.
example : describedTable.elements.map (fun e => e.methods.map Head.name) =
    [["checked", "style", "on", "onclick", "onclick"], ["body", "text", "on"]] := by
  decide

theorem builder_inventory_of_described :
    ∃ (a : Artifacts) (definitions : Element → List Head),
      describedTable.render .standard = .ok a ∧
      (∀ e, List.Forall₂ Head.SameUpToMut e.methods (definitions e)) ∧
      outline (withoutNotes (afterImport a.builder.contents)) =
        some (describedTable.elements.flatMap fun e => e.inventory (definitions e)) ∧
      ∀ l ∈ codeLines (afterImport a.builder.contents).toList, isComment l = false := by
  have hpath : Config.standard.importPath = .ok "super" := by decide
  have ha := render_of_importPath describedTable hpath
  obtain ⟨definitions, hmethods, houtline, hlines⟩ := builder_inventory ha
  exact ⟨_, definitions, ha, hmethods, houtline, hlines⟩

end TypedMarkup
