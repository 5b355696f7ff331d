import TypedMarkup.Artifact.Generation
import TypedMarkup.Proofs.Code.Identifier
import TypedMarkup.Proofs.Code.PlainPath
import TypedMarkup.Proofs.Grammar.File
import TypedMarkup.Proofs.Results

namespace TypedMarkup

open Code Layout Token Reader

namespace Code

theorem scans_identifier {w : String} (hw : isName w.toList) :
    ∃ t : Token, t.isIdentifier ∧ ∀ rest, Apart rest →
      Scans ((identifier w).toList ++ rest) [t] rest := by
  rcases identifier_cases w with ⟨hnever, h⟩ | ⟨-, hraw, h⟩ | ⟨hword, h⟩
  · refine ⟨.word (w ++ "_"), ?_, fun rest hr => ?_⟩
    · simpa [Token.isIdentifier] using lengthened_not_keyword w hnever
    · have hname : isName (w ++ "_").toList := by
        rw [String.toList_append]
        exact isName_append hw (by decide)
      rw [h]
      exact PlainPath.scans_word hname hr
  · refine ⟨.raw (String.ofList w.toList), rfl, fun rest hr => ?_⟩
    have hallowed : String.ofList w.toList ∉ ["_", "super", "self", "Self", "crate"] := by
      simp only [neverRaw, List.mem_cons, List.not_mem_nil, or_false] at hraw
      simp only [String.ofList_toList, List.mem_cons, List.not_mem_nil, or_false]
      tauto
    rw [h, String.toList_append]
    exact Scans.raw hw hallowed hr
  · refine ⟨.word w, by simpa [Token.isIdentifier] using hword, fun rest hr => ?_⟩
    rw [h]
    exact PlainPath.scans_word hw hr

theorem ofText_of_scans {s : String} {ts : List Token} (h : Scans s.toList ts [])
    (hs : s.toList.head? ≠ some '\ufeff') : ofText s = ts := by
  rw [ofText, Scans.ofChars h hs, Option.getD_some]

theorem head_identifier {w : String} (hw : isName w.toList) :
    ∃ c s, (identifier w).toList = c :: s ∧ c ∉ ['/', '\ufeff'] := by
  obtain ⟨_, hlegible, -⟩ := legible_of_isIdentifier (isIdentifier_identifier hw)
  exact hlegible.head

theorem not_isMark_identifier {w : String} (hw : isName w.toList) :
    isMark (identifier w).toList = false := by
  have hid := isIdentifier_identifier hw
  unfold isIdentifier at hid
  split at hid
  · rename_i heq
    rw [heq]
    rfl
  · have hmark := PlainPath.not_isMark_of_isName hid []
    rwa [List.append_nil] at hmark

theorem areName_identifier {w : String} (hw : isName w.toList) :
    areName (ofText (identifier w)) := by
  obtain ⟨t, ht, hscan⟩ := scans_identifier hw
  obtain ⟨c, s, hs, hc⟩ := head_identifier hw
  have hread := hscan [] clear_nil.apart
  rw [List.append_nil] at hread
  rw [ofText_of_scans hread (by simpa [hs] using fun h => hc (by simp [h]))]
  exact ht

theorem arePath_of_areName {ts : List Token} (h : areName ts) : arePath ts := by
  obtain ⟨t, rfl, ht⟩ := Grammar.eq_of_areName h
  exact isSegment_iff.mpr (.inl ht)

theorem arePath_super {w : String} (hw : isName w.toList) :
    arePath (ofText ("super::" ++ identifier w)) := by
  obtain ⟨t, ht, hscan⟩ := scans_identifier hw
  have hsuper := PlainPath.scans_word (w := "super") rfl
    (apart_cons (by decide : sticks ':' = false) (':' :: (identifier w).toList))
  have hcolons := PlainPath.scans_colons (not_isMark_identifier hw)
  have hread := hscan [] clear_nil.apart
  rw [List.append_nil] at hread
  have hpath : Scans ("super::" ++ identifier w).toList
      [.word "super", .mark ':' true, .mark ':' false, t] [] := by
    rw [String.toList_append]
    exact hsuper.trans (hcolons.trans hread)
  rw [ofText_of_scans hpath (by simp)]
  exact Bool.and_eq_true_iff.mpr ⟨by decide, isSegment_iff.mpr (.inl ht)⟩

theorem Expr.isLed_call {s : String} (h : areName (ofText s)) (args : List Expr) :
    (Expr.call s args).isLed := by
  obtain ⟨t, hs, ht⟩ := Grammar.eq_of_areName h
  have hcrate := has_identifier ht (by decide : Due.isReserved "crate") []
  simp only [isLed, lead, Option.any_some, arePath_of_areName h, Bool.true_and]
  rw [hs, hcrate, Bool.not_false]

namespace Stmt

theorem areGrammatical_of_all {ss : List Stmt} (h : ∀ s ∈ ss, s.isGrammatical ∧ !s.isValue) :
    areGrammatical ss := by
  induction ss with
  | nil => rfl
  | cons s ss ih =>
    rw [List.forall_mem_cons] at h
    cases ss with
    | nil => exact h.1.1
    | cons t ss => simp [areGrammatical, h.1, ih h.2]

end Stmt

end Code

namespace Accessor

def isGrammatical (a : Accessor) : Bool :=
  areName (ofText a.name) && a.params.all Param.isGrammatical && Stmt.areGrammatical a.body

theorem isGrammatical_declaration {a : Accessor} (h : a.isGrammatical) :
    a.declaration.isGrammatical := by
  simp only [isGrammatical, Bool.and_eq_true] at h
  simp only [declaration, Declaration.isGrammatical, Signature.isGrammatical, h.1.1, h.1.2]
  decide

theorem isGrammatical_definition {a : Accessor} (h : a.isGrammatical) :
    a.definition.isGrammatical := by
  simp only [isGrammatical, Bool.and_eq_true] at h
  simp only [definition, Function.isGrammatical, Signature.isGrammatical, h.1.1, h.1.2, h.2]
  decide

theorem isGrammatical_changing {name : String} (hname : areName (ofText name))
    {params : List Param} (hparams : params.all Param.isGrammatical) {body : List Stmt}
    (hbody : Stmt.areGrammatical (body ++ [.value (.atom "self")])) (docs : List String) :
    (changing docs name params body).isGrammatical := by
  simp only [changing, isGrammatical, hname, hparams, hbody, Bool.and_self]

end Accessor

theorem ValueKind.isGrammatical_params (k : ValueKind) : k.params.all Param.isGrammatical := by
  cases k <;> rfl

theorem ValueKind.isGrammatical_store (k : ValueKind) (name : String) :
    Stmt.areGrammatical (k.store name ++ [.value (.atom "self")]) := by
  cases k <;> rfl

theorem ValueKind.isGrammatical_samples (k : ValueKind) :
    k.samples.all Expr.eachGrammatical := by
  cases k <;> rfl

theorem Attribute.isGrammatical_accessor (a : Attribute) : a.accessor.isGrammatical :=
  Accessor.isGrammatical_changing (areName_identifier (isName_sanitize _))
    a.kind.isGrammatical_params (a.kind.isGrammatical_store _) _

theorem Event.isGrammatical_accessor (x : Event) : x.accessor.isGrammatical :=
  Accessor.isGrammatical_changing (areName_identifier (isName_sanitize _)) (by decide)
    (by rfl) _

namespace Element

variable (e : Element)

theorem exists_mem_accessors {P : Accessor → Prop} : (∃ a ∈ e.accessors, P a) ↔
    (e.content = .container ∧ (P bodyAccessor ∨ P (textAccessor e.text))) ∨
      (∃ a ∈ e.attributes, P a.accessor) ∨ P onAccessor ∨ ∃ x ∈ e.events, P x.accessor := by
  cases hc : e.content <;> simp [accessors, contentAccessors, hc, or_and_right, exists_or, or_assoc]

theorem forall_mem_accessors {P : Accessor → Prop} : (∀ a ∈ e.accessors, P a) ↔
    (e.content = .container → P bodyAccessor ∧ P (textAccessor e.text)) ∧
      (∀ a ∈ e.attributes, P a.accessor) ∧ P onAccessor ∧ ∀ x ∈ e.events, P x.accessor := by
  cases hc : e.content <;> simp [accessors, contentAccessors, hc, or_imp, forall_and, and_assoc]

theorem forall_accessors {P : Accessor → Prop} (hbody : P bodyAccessor)
    (htext : ∀ slot, P (textAccessor slot)) (hattribute : ∀ a : Attribute, P a.accessor)
    (hon : P onAccessor) (hevent : ∀ x : Event, P x.accessor) : ∀ a ∈ e.accessors, P a :=
  e.forall_mem_accessors.mpr
    ⟨fun _ => ⟨hbody, htext e.text⟩, fun a _ => hattribute a, hon, fun x _ => hevent x⟩

theorem areName_typeName : areName (ofText e.typeName) :=
  areName_identifier (isName_sanitize _)

theorem areName_constructorName : areName (ofText e.constructorName) :=
  areName_identifier (isName_sanitize _)

theorem areName_traitName : areName (ofText e.traitName) :=
  areName_identifier (isName_trait _)

theorem isGrammatical_accessors : ∀ a ∈ e.accessors, a.isGrammatical := by
  refine e.forall_accessors (by decide) (fun slot => ?_) Attribute.isGrammatical_accessor
    (by decide)
    Event.isGrammatical_accessor
  cases slot <;> decide

theorem isGrammatical_wrapping {tag : Expr} (h : tag.isGrammatical) :
    Stmt.areGrammatical [.value (.call e.typeName
      [.call "HtmlElement::new" [tag, .atom (if e.selfClosing then "true" else "false")]])] := by
  have htype := e.areName_typeName
  have hclosing : (Expr.atom (if e.selfClosing then "true" else "false")).isGrammatical := by
    split <;> decide
  rw [Expr.isGrammatical] at hclosing
  have hnew : arePath (ofText "HtmlElement::new") := by decide
  simp only [Stmt.areGrammatical, Stmt.isGrammatical, Expr.isLed_call htype, Expr.isGrammatical,
    Expr.eachGrammatical, arePath_of_areName htype, hnew, h, hclosing]
  rfl

theorem isGrammatical_constructor : e.constructor.isGrammatical := by
  have htype := arePath_of_areName e.areName_typeName
  cases h : e.tag with
  | fixed t =>
    have hbody := e.isGrammatical_wrapping (rfl : (Expr.text t).isGrammatical)
    simp only [constructor, h, Function.isGrammatical, Signature.isGrammatical,
      e.areName_constructorName, htype, hbody]
    simp [Signature.accesses]
  | caller =>
    have hbody := e.isGrammatical_wrapping (by decide : (Expr.atom "tag").isGrammatical)
    have hparam : [(⟨"tag", into "String"⟩ : Param)].all Param.isGrammatical := by decide
    simp only [constructor, h, Function.isGrammatical, Signature.isGrammatical,
      e.areName_constructorName, htype, hbody, hparam]
    simp [Signature.accesses]

theorem isGrammatical_conversion : e.conversion.isGrammatical := by
  have htype := arePath_of_areName e.areName_typeName
  simp only [conversion, Function.isGrammatical, Signature.isGrammatical, List.all_cons,
    List.all_nil, Param.isGrammatical, Ty.isGrammatical, htype]
  decide

theorem isGrammatical_items : ∀ i ∈ e.items, i.isGrammatical := by
  have hdeclarations : (e.accessors.map Accessor.declaration).all Declaration.isGrammatical := by
    rw [List.all_map, List.all_eq_true]
    exact fun a ha => Accessor.isGrammatical_declaration (e.isGrammatical_accessors a ha)
  have hdefinitions : (e.accessors.map Accessor.definition).all Function.isGrammatical := by
    rw [List.all_map, List.all_eq_true]
    exact fun a ha => Accessor.isGrammatical_definition (e.isGrammatical_accessors a ha)
  have htype := e.areName_typeName
  have htrait := e.areName_traitName
  intro i hi
  simp only [items, List.mem_append, List.mem_cons, List.not_mem_nil, or_false] at hi
  rcases hi with (rfl | rfl | rfl | rfl | rfl) | hi
  · simp only [Item.isGrammatical, htrait, hdeclarations]
    decide
  · exact e.isGrammatical_constructor
  · simp only [Item.isGrammatical, htype]
    decide
  · simp only [Item.isGrammatical, Ty.isGrammatical, arePath_of_areName htype, List.all_cons,
      e.isGrammatical_conversion]
    decide
  · simp only [Item.isGrammatical, Ty.isGrammatical, arePath_of_areName htype,
      arePath_of_areName htrait, hdefinitions, Bool.and_self]
  · cases hc : e.content <;> simp only [hc, List.mem_singleton, List.not_mem_nil] at hi
    subst hi
    simp only [Item.isGrammatical, arePath_of_areName htype]
    decide

theorem forall_smokeTest {P : Stmt → Prop}
    (hsubject : ∀ args ∈ [[], [Expr.text "div"]],
      P (.bind "elem" (.call ("super::" ++ e.constructorName) args)))
    (hattribute : ∀ a : Attribute, ∀ args ∈ a.kind.samples, P (step a.methodName args))
    (hhandler : P (.bind "h" (.lambda "_: Context, _: Event" (.atom "\x7b\x7d"))))
    (hon : P (step "on" [.text "click", .atom "h"]))
    (hevent : ∀ x : Event, P (step x.methodName [.atom "h"])) (hlast : P e.lastStep) :
    ∀ s ∈ e.smokeTest.body, P s := by
  have hattributes : ∀ s ∈ e.attributes.flatMap Attribute.steps, P s :=
    List.forall_mem_flatMap.mpr fun a _ => List.forall_mem_map.mpr (hattribute a)
  have hevents : ∀ s ∈ e.eventSteps, P s := by
    unfold eventSteps
    split
    · simp
    · rw [List.forall_mem_cons, List.forall_mem_cons, List.forall_mem_map]
      exact ⟨hhandler, hon, fun x _ => hevent x⟩
  simp only [smokeTest, List.forall_mem_cons, List.forall_mem_append]
  refine ⟨hsubject _ ?_, ⟨hattributes, hevents⟩, hlast, by simp⟩
  cases e.tag <;> simp

theorem isGrammatical_step {method : String} (h : areName (ofText method)) {args : List Expr}
    (hargs : Expr.eachGrammatical args) : (step method args).isGrammatical := by
  have helem : (Expr.atom "elem").isOperand && (Expr.atom "elem").isGrammatical := by decide
  have hname : areName (ofText "elem") := by decide
  simp only [step, Stmt.isGrammatical, Expr.isGrammatical, hname, h, hargs, Bool.true_or,
    Bool.true_and, Bool.and_true]
  exact helem

theorem isGrammatical_subject {args : List Expr} (h : Expr.eachGrammatical args) :
    (Stmt.bind "elem" (.call ("super::" ++ e.constructorName) args)).isGrammatical := by
  have hpath := arePath_super (isName_sanitize (Text.lowercase e.name))
  have hname : areName (ofText "elem") := by decide
  simp only [Stmt.isGrammatical, Expr.isGrammatical, hname, h, Bool.true_or, Bool.true_and,
    Bool.and_true, Bool.or_eq_true]
  exact .inl hpath

theorem not_value_smokeTest : ∀ s ∈ e.smokeTest.body, s.isValue = false :=
  e.forall_smokeTest (fun _ _ => rfl) (fun _ _ _ => rfl) rfl rfl (fun _ => rfl) rfl

theorem isGrammatical_body : ∀ s ∈ e.smokeTest.body, s.isGrammatical := by
  have hnone : ∀ args ∈ [[], [Expr.text "div"]], Expr.eachGrammatical args := by decide
  refine e.forall_smokeTest (fun args hargs => e.isGrammatical_subject (hnone args hargs))
    (fun a args hargs => ?_) (by decide) (isGrammatical_step (by decide) (by decide))
    (fun x => ?_) ?_
  · exact isGrammatical_step (areName_identifier (isName_sanitize _))
      (List.all_eq_true.mp a.kind.isGrammatical_samples args hargs)
  · exact isGrammatical_step (areName_identifier (isName_sanitize _)) (by decide)
  · unfold lastStep
    cases e.content <;> decide

theorem isGrammatical_smokeTest : e.smokeTest.isGrammatical := by
  have hbody := Stmt.areGrammatical_of_all fun s hs =>
    ⟨e.isGrammatical_body s hs, by rw [e.not_value_smokeTest s hs]; rfl⟩
  rw [Function.isGrammatical, Bool.and_eq_true]
  refine ⟨?_, hbody⟩
  simp only [smokeTest, Signature.isGrammatical, e.areName_constructorName]
  decide

end Element

theorem areName_runtimeNames : ∀ s ∈ runtimeNames, areName (ofText s) := by
  decide

theorem readAll_builder {path : String} {p : ModulePath} (h : ModulePath.parse path = .ok p)
    (t : Table) :
    Grammar.readAll Grammar.file (builderTokens path t) = Grammar.outcome p.importFault? := by
  have hitems : ∀ i ∈ t.elements.flatMap Element.items, i.isGrammatical :=
    List.forall_mem_flatMap.mpr fun e _ => e.isGrammatical_items
  have htokens : builderTokens path t = ofText allowance ++ importTokens path runtimeNames ++
      (t.elements.flatMap Element.items).flatMap Item.emitted := by
    rw [builderTokens, List.flatMap_assoc]
  have hlength := Grammar.length_le_count (ofText path)
  have hpath : count (ofText path) + count ((t.elements.flatMap Element.items).flatMap
      Item.emitted) ≤ count (builderTokens path t) := by
    rw [htokens, importTokens]
    simp only [count_append, count_cons]
    omega
  have hfuel : Grammar.depth * (count (builderTokens path t) + 1) =
      16 * count (builderTokens path t) + 14 + 2 := by
    rw [Grammar.depth]
    omega
  refine Grammar.readAll_of_ends ?_
  rw [hfuel, htokens]
  exact Grammar.ends_builder h areName_runtimeNames hitems (by rw [← htokens]; omega)
    (by rw [← htokens]; omega)

theorem readAll_tests (t : Table) : Grammar.readAll Grammar.file (smokeTokens t) = .ok () := by
  have htests : ∀ f ∈ t.elements.map Element.smokeTest, f.isGrammatical :=
    List.forall_mem_map.mpr fun e _ => e.isGrammatical_smokeTest
  have htokens : smokeTokens t = ofText subject ++
      (t.elements.map Element.smokeTest).flatMap Function.emitted := by
    rw [smokeTokens, List.flatMap_map]
  have hcount : count ((t.elements.map Element.smokeTest).flatMap Function.emitted) ≤
      count (smokeTokens t) := by
    rw [htokens, count_append]
    omega
  have hfuel : Grammar.depth * (count (smokeTokens t) + 1) =
      16 * count (smokeTokens t) + 11 + 5 := by
    rw [Grammar.depth]
    omega
  have hread : Ends (Grammar.file (Grammar.parts (Grammar.depth * (count (smokeTokens t) + 1))))
      (smokeTokens t) none [] := by
    rw [hfuel, htokens]
    exact Grammar.takes_tests htests (by rw [← htokens]; omega)
  exact Grammar.readAll_of_ends hread

def Config.importPath (c : Config) : Except GenerationError String := do
  let path ← c.modulePath
  match path.importFault? with
  | none => return path.text
  | some e => throw (.code e)

theorem Table.render_eq (t : Table) (c : Config) :
    t.render c = c.importPath.map fun path =>
      ⟨⟨c.builderFile, builderText path t⟩, ⟨c.testFile, smokeText t⟩⟩ := by
  unfold Table.render Config.importPath Config.modulePath
  cases h : ModulePath.parse c.runtimePath with
  | error e => rfl
  | ok p =>
    dsimp only [bind, Except.bind]
    unfold checked
    rw [readAll_builder h t, readAll_tests t]
    cases p.importFault? <;> rfl

theorem render_ok {t : Table} {c : Config} {a : Artifacts} (h : t.render c = .ok a) :
    ∃ path, c.importPath = .ok path ∧
      a = ⟨⟨c.builderFile, builderText path t⟩, ⟨c.testFile, smokeText t⟩⟩ := by
  rw [Table.render_eq] at h
  obtain ⟨path, hpath, rfl⟩ := ok_of_map h
  exact ⟨path, hpath, rfl⟩

theorem render_of_importPath (t : Table) {c : Config} {path : String}
    (h : c.importPath = .ok path) :
    t.render c = .ok ⟨⟨c.builderFile, builderText path t⟩, ⟨c.testFile, smokeText t⟩⟩ := by
  rw [Table.render_eq, h]
  rfl

end TypedMarkup
