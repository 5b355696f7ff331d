import TypedMarkup.Proofs.Artifact.Bodies

namespace TypedMarkup

open Code Token

namespace Code

def MethodCall.onSelf (c : MethodCall) : Bool :=
  c.receiver.any (spells "self")

def Interface.Answers (i : Interface) (c : MethodCall) : Prop :=
  ∃ d ∈ i.methods, d.name = c.method ∧ d.arity = some (argumentCount c.inside)

def Implementation.IsClosed (m : Implementation) (i : Interface) : Prop :=
  ∀ f ∈ m.methods, ∀ c ∈ methodCalls [] f.body, c.onSelf → i.Answers c

namespace Call

def onSelf (c : Call) : Bool :=
  match c.receiver with
  | .atom s => s == "self"
  | _ => false

def isPlain (c : Call) : Bool :=
  match c.receiver with
  | .atom s => isName s.toList
  | .field _ n => n == "0"
  | .method .. => true
  | _ => false

theorem onSelf_shown {c : Call} (h : c.isPlain) : c.shown.onSelf = c.onSelf := by
  obtain ⟨receiver, method, args⟩ := c
  cases receiver with
  | atom s =>
    simp [shown, MethodCall.onSelf, onSelf, Expr.tokens, code_of_isName h, spells]
  | field r n =>
    obtain rfl : n = "0" := by simpa [isPlain] using h
    simp [shown, MethodCall.onSelf, onSelf, Expr.tokens, Expr.legible_zero.code, spells]
  | method r n inner =>
    have htokens : (Expr.method r n inner).tokens = r.tokens ++ .mark '.' false :: code n ++
        [.group .round (separated (Expr.tokensEach inner))] := by
      simp [Expr.tokens]
    simp only [shown, MethodCall.onSelf, onSelf, htokens, List.getLast?_concat]
    rfl
  | _ => exact absurd h Bool.false_ne_true

end Call

end Code

def bodyCall : Call :=
  ⟨.atom "self", "body", [.array [.call "text" [.atom "v"]]]⟩

def styleCall : Call :=
  ⟨.atom "self", "style", [invoked "k" "as_ref", invoked "v" "as_ref"]⟩

theorem ValueKind.isPlain_store (k : ValueKind) (name : String) :
    ((k.store name).flatMap Stmt.calls).all Call.isPlain := by
  cases k <;> rfl

theorem ValueKind.onSelf_store (k : ValueKind) (name : String) :
    ((k.store name).flatMap Stmt.calls).filter Call.onSelf =
      if k = .styleMap then [styleCall] else [] := by
  cases k <;> rfl

namespace Element

variable (e : Element)

theorem isPlain_accessors : ∀ a ∈ e.accessors, a.definition.calls.all Call.isPlain := by
  refine e.forall_accessors rfl (fun slot => ?_) (fun a => ?_) rfl fun x => ?_
  · cases slot <;> rfl
  · rw [Attribute.accessor, calls_changing]
    exact a.kind.isPlain_store a.storedName
  · rw [Event.accessor, calls_changing]
    rfl

theorem onSelf_definition : ∀ a ∈ e.accessors,
    (methodCalls [] a.definition.method.body).filter MethodCall.onSelf =
      (a.definition.calls.filter Call.onSelf).map Call.shown := by
  intro a ha
  have hplain := List.all_eq_true.mp (e.isPlain_accessors a ha)
  rw [e.methodCalls_definition a ha, List.filter_map]
  refine congrArg _ (List.filter_congr fun c hc => ?_)
  exact Call.onSelf_shown (hplain c hc)

theorem arity_declaration : ∀ a ∈ e.accessors,
    a.declaration.signature.head.arity = some a.params.length := fun a ha =>
  Signature.arity_head (Accessor.isLegible_declaration (e.isLegible_accessors a ha)) rfl

theorem answers_shown {c : Call} (h : Expr.eachLegible c.args) :
    e.interface.Answers c.shown ↔
      ∃ a ∈ e.accessors, a.name = c.method ∧ a.params.length = c.args.length := by
  have hcount : argumentCount c.shown.inside = c.args.length := Expr.argumentCount_tokensEach h
  unfold Interface.Answers
  rw [interface, ← heads_declarations, hcount]
  constructor
  · rintro ⟨d, hd, hname, hparams⟩
    obtain ⟨a, ha, rfl⟩ := List.mem_map.mp hd
    rw [e.arity_declaration a ha] at hparams
    exact ⟨a, ha, hname, Option.some.inj hparams⟩
  · rintro ⟨a, ha, hname, hparams⟩
    exact ⟨_, List.mem_map_of_mem ha, hname, by rw [e.arity_declaration a ha, hparams]⟩

theorem isClosed_iff_answers : e.implementation.IsClosed e.interface ↔
    ∀ c, (∃ a ∈ e.accessors, c ∈ a.definition.calls.filter Call.onSelf) →
      e.interface.Answers c.shown := by
  unfold Implementation.IsClosed implementation
  rw [List.forall_mem_map]
  constructor
  · rintro h c ⟨a, ha, hc⟩
    have hmem := List.mem_map_of_mem (f := Call.shown) hc
    rw [← e.onSelf_definition a ha, List.mem_filter] at hmem
    exact h a ha _ hmem.1 hmem.2
  · intro h a ha c hc hself
    have hmem := List.mem_filter.mpr ⟨hc, hself⟩
    rw [e.onSelf_definition a ha] at hmem
    obtain ⟨d, hd, rfl⟩ := List.mem_map.mp hmem
    exact h d ⟨a, ha, hd⟩

theorem onSelf_calls {c : Call} : (∃ a ∈ e.accessors, c ∈ a.definition.calls.filter Call.onSelf) ↔
    (e.content = .container ∧ e.text = .children ∧ c = bodyCall) ∨
      ((∃ a ∈ e.attributes, a.kind = .styleMap) ∧ c = styleCall) := by
  have hbody : bodyAccessor.definition.calls.filter Call.onSelf = [] := rfl
  have htext (slot : TextSlot) : (textAccessor slot).definition.calls.filter Call.onSelf =
      if slot = .children then [bodyCall] else [] := by
    cases slot <;> rfl
  have hattribute (a : Attribute) : a.accessor.definition.calls.filter Call.onSelf =
      if a.kind = .styleMap then [styleCall] else [] := by
    rw [Attribute.accessor, calls_changing, ValueKind.onSelf_store]
  have hon : onAccessor.definition.calls.filter Call.onSelf = [] := rfl
  have hevent (x : Event) : x.accessor.definition.calls.filter Call.onSelf = [] := by
    rw [Event.accessor, calls_changing]
    rfl
  rw [exists_mem_accessors]
  simp only [hbody, htext, hattribute, hon, hevent, List.mem_ite_nil_right, List.mem_singleton,
    List.not_mem_nil, and_false, exists_false, or_false, false_or, ← and_assoc, exists_and_right]

def HasStyle : Prop :=
  ∃ a ∈ e.attributes, a.methodName = "style" ∧ a.kind.params.length = 2

-- The other accessors have names of their own, or one parameter only.
theorem hasStyle_iff :
    e.HasStyle ↔ ∃ a ∈ e.accessors, a.name = "style" ∧ a.params.length = 2 := by
  have hbody : bodyAccessor.name ≠ "style" := by decide
  have htext : (textAccessor e.text).name ≠ "style" := by
    cases e.text <;> decide
  have hattribute (a : Attribute) :
      a.accessor.name = a.methodName ∧ a.accessor.params = a.kind.params := by
    simp only [Attribute.accessor, Accessor.changing, and_self]
  have hon : onAccessor.name ≠ "style" := by decide
  have hevent (x : Event) : x.accessor.params.length ≠ 2 := by
    simp [Event.accessor, Accessor.changing]
  rw [exists_mem_accessors]
  simp [HasStyle, hbody, htext, hattribute, hon, hevent]

theorem isClosed_implementation : e.implementation.IsClosed e.interface ↔
    ((∃ a ∈ e.attributes, a.kind = .styleMap) → e.HasStyle) := by
  have hstyle : e.interface.Answers styleCall.shown ↔ e.HasStyle := by
    rw [e.answers_shown (by decide), hasStyle_iff]
    rfl
  rw [isClosed_iff_answers]
  constructor
  · exact fun h hmap => hstyle.mp (h _ (e.onSelf_calls.mpr (.inr ⟨hmap, rfl⟩)))
  · intro h c hc
    rcases e.onSelf_calls.mp hc with ⟨hcontent, -, rfl⟩ | ⟨hmap, rfl⟩
    · rw [e.answers_shown (by decide), exists_mem_accessors]
      exact .inl ⟨hcontent, .inl ⟨rfl, rfl⟩⟩
    · exact hstyle.mpr (h hmap)

end Element

theorem self_calls_answered_iff {t : Table} {c : Config} {a : Artifacts}
    (h : t.render c = .ok a) :
    ∃ (interface : Element → Interface) (implementation : Element → Implementation),
      interfaces (withoutNotes (afterImport a.builder.contents)) =
        some (t.elements.map interface) ∧
      implementations (withoutNotes (afterImport a.builder.contents)) =
        some (t.elements.map implementation) ∧
      ∀ e ∈ t.elements, (interface e).name = e.traitName ∧
        (implementation e).trait = e.traitName ∧ (implementation e).type = e.typeName ∧
        ((implementation e).IsClosed (interface e) ↔
          ((∃ a ∈ e.attributes, a.kind = .styleMap) → e.HasStyle)) := by
  have hinterfaces := interfaces_builder h
  have himplementations := implementations_builder h
  refine ⟨Element.interface, Element.implementation, hinterfaces, himplementations, fun e _ => ?_⟩
  exact ⟨e.name_interface, e.trait_implementation, e.type_implementation, e.isClosed_implementation⟩

def styledElement (attributes : List Attribute) : Element :=
  ⟨"Box", .container, "", .fixed "box", .children, attributes, []⟩

def styleAttribute : Attribute :=
  ⟨"style", "Style", none, .style, ""⟩

def stylesAttribute : Attribute :=
  ⟨"styles", "Styles", none, .styleMap, ""⟩

theorem self_calls_answered_of_style :
    ∃ a interface implementation,
      Table.render ⟨[styledElement [stylesAttribute, styleAttribute]]⟩ .standard = .ok a ∧
      interfaces (withoutNotes (afterImport a.builder.contents)) = some [interface] ∧
      implementations (withoutNotes (afterImport a.builder.contents)) = some [implementation] ∧
      implementation.IsClosed interface := by
  have hpath : Config.standard.importPath = .ok "super" := by decide
  have ha := render_of_importPath ⟨[styledElement [stylesAttribute, styleAttribute]]⟩ hpath
  have hstyle : (styledElement [stylesAttribute, styleAttribute]).HasStyle :=
    ⟨styleAttribute, by simp [styledElement], by decide, rfl⟩
  obtain ⟨interface, implementation, hinterfaces, himplementations, helements⟩ :=
    self_calls_answered_iff ha
  obtain ⟨-, -, -, hclosed⟩ :=
    helements (styledElement [stylesAttribute, styleAttribute]) (by simp)
  exact ⟨_, _, _, ha, hinterfaces, himplementations, hclosed.mpr fun _ => hstyle⟩

theorem style_called_undeclared :
    ∃ a interface implementation f call,
      Table.render ⟨[styledElement [stylesAttribute]]⟩ .standard = .ok a ∧
      interfaces (withoutNotes (afterImport a.builder.contents)) = some [interface] ∧
      implementations (withoutNotes (afterImport a.builder.contents)) = some [implementation] ∧
      f ∈ implementation.methods ∧ call ∈ methodCalls [] f.body ∧ call.onSelf ∧
      call.method = "style" ∧ argumentCount call.inside = 2 ∧
      ∀ d ∈ interface.methods, d.name ≠ "style" := by
  have hpath : Config.standard.importPath = .ok "super" := by decide
  have ha := render_of_importPath ⟨[styledElement [stylesAttribute]]⟩ hpath
  have hmem : stylesAttribute.accessor ∈ (styledElement [stylesAttribute]).accessors := by
    simp [styledElement, Element.accessors]
  have hcall : styleCall ∈ stylesAttribute.accessor.definition.calls.filter Call.onSelf := by
    rw [Attribute.accessor, calls_changing, ValueKind.onSelf_store]
    exact List.mem_singleton_self styleCall
  have hread := List.mem_map_of_mem (f := Call.shown) hcall
  rw [← Element.onSelf_definition _ _ hmem, List.mem_filter] at hread
  have hnames : (styledElement [stylesAttribute]).methods.map Head.name =
      ["body", "text", "styles", "on"] := by
    decide
  refine ⟨_, _, _, _, styleCall.shown, ha, interfaces_builder ha, implementations_builder ha,
    List.mem_map_of_mem hmem, hread.1, hread.2, rfl, ?_, fun d hd hname => ?_⟩
  · have hargs : Expr.eachLegible styleCall.args := by decide
    exact Expr.argumentCount_tokensEach hargs
  · have hstyle : "style" ∈ (styledElement [stylesAttribute]).methods.map Head.name :=
      hname ▸ List.mem_map_of_mem hd
    rw [hnames] at hstyle
    exact absurd hstyle (by decide)

end TypedMarkup
