import Mathlib.Data.List.Forall2
import TypedMarkup.Proofs.Artifact.Calls

namespace TypedMarkup

open Code Token

section

variable {α β : Type} {R : α → β → Prop} {xs : List α} {ys : List β}

theorem exists_left_of_mem (h : List.Forall₂ R xs ys) {y : β} (hy : y ∈ ys) :
    ∃ x ∈ xs, R x y := by
  induction h with
  | nil => simp at hy
  | cons hxy _ ih =>
    rcases List.mem_cons.mp hy with rfl | hy
    · exact ⟨_, List.mem_cons_self, hxy⟩
    · obtain ⟨x, hx, hR⟩ := ih hy
      exact ⟨x, List.mem_cons_of_mem _ hx, hR⟩

theorem exists_right_of_mem (h : List.Forall₂ R xs ys) {x : α} (hx : x ∈ xs) :
    ∃ y ∈ ys, R x y :=
  exists_left_of_mem h.flip hx

end

structure Offer where
  ctor : Method
  content : List Head
  attributes : List Head
  on : Head
  events : List Head
  own : List Interface

namespace Offer

def declared (o : Offer) : List Head :=
  o.content ++ o.attributes ++ o.on :: o.events

def methods (o : Offer) : List Head :=
  o.declared ++ o.own.flatMap Interface.methods

end Offer

def Attribute.CalledAs (a : Attribute) (d : Head) (cs : List MethodCall) : Prop :=
  (∀ c ∈ cs, d.IsCalledBy c) ∧
    (a.kind.isTruth → cs.map MethodCall.inside = [[.word "true"], [.word "false"]]) ∧
    (¬ a.kind.isTruth → cs.length = 1)

def Content.closing : Content → List String
  | .container => ["text"]
  | .restricted => ["private_body"]
  | .childless => []

namespace Element

structure IsOffered (e : Element) (o : Offer) : Prop where
  takes : argumentCount o.ctor.head.params = if e.tag = .caller then 1 else 0
  content : o.content.map Head.name = if e.content = .container then ["body", "text"] else []
  attributes : o.attributes.map Head.name = e.attributes.map Attribute.methodName
  on : o.on.name = "on"
  events : o.events.map Head.name = e.events.map Event.methodName
  own : o.own.map (fun i => (i.name, i.methods.map Head.name)) =
    if e.content = .restricted then [(e.typeName, ["private_body"])] else []

structure IsTestedBy (e : Element) (o : Offer) (test : Method) : Prop where
  named : test.head = ⟨[], o.ctor.head.name, [], []⟩
  opens : ∃ args rest, argumentCount args = argumentCount o.ctor.head.params ∧
    test.body = [.word "let", .word "elem", .mark '=' false, .word "super", .mark ':' false,
      .mark ':' false] ++ code o.ctor.head.name ++ .group .round args :: .mark ';' false :: rest
  receivers : ∀ c ∈ methodCalls [] test.body, c.receiver = some (.word "elem")
  calls : ∃ samples events last,
    methodCalls [] test.body = samples.flatten ++ events ++ last ∧
    List.Forall₂ (fun p => p.1.CalledAs p.2) (e.attributes.zip o.attributes) samples ∧
    List.Forall₂ Head.IsCalledBy (if e.events = [] then [] else o.on :: o.events) events ∧
    ∃ closing ⊆ o.content ++ o.own.flatMap Interface.methods,
      closing.map Head.name = e.content.closing ∧ List.Forall₂ Head.IsCalledBy closing last

section

variable {e : Element} {o : Offer} {test : Method}

theorem IsTestedBy.emitted (h : e.IsTestedBy o test) {c : MethodCall}
    (hc : c ∈ methodCalls [] test.body) : ∃ d ∈ o.methods, d.IsCalledBy c := by
  obtain ⟨samples, events, last, hcalls, hsamples, hevents, closing, hsubset, -, hlast⟩ := h.calls
  rw [hcalls, List.mem_append, List.mem_append] at hc
  rcases hc with (hc | hc) | hc
  · obtain ⟨cs, hcs, hc⟩ := List.mem_flatten.mp hc
    obtain ⟨p, hp, hcalled⟩ := exists_left_of_mem hsamples hcs
    exact ⟨p.2, by simp [Offer.methods, Offer.declared, (List.of_mem_zip hp).2], hcalled.1 c hc⟩
  · obtain ⟨d, hd, hcalled⟩ := exists_left_of_mem hevents hc
    split at hd
    · simp at hd
    · refine ⟨d, ?_, hcalled⟩
      rw [Offer.methods, Offer.declared]
      exact List.mem_append_left _ (List.mem_append_right _ hd)
  · obtain ⟨d, hd, hcalled⟩ := exists_left_of_mem hlast hc
    refine ⟨d, ?_, hcalled⟩
    have hd := hsubset hd
    simp only [Offer.methods, Offer.declared, List.mem_append] at hd ⊢
    tauto

theorem IsTestedBy.covered (h : e.IsTestedBy o test) (ho : e.IsOffered o) {d : Head}
    (hd : d ∈ o.attributes ++ o.events) : ∃ c ∈ methodCalls [] test.body, d.IsCalledBy c := by
  obtain ⟨samples, events, last, hcalls, hsamples, hevents, -⟩ := h.calls
  simp only [hcalls, List.mem_append]
  rcases List.mem_append.mp hd with hd | hd
  · have hlength := congrArg List.length ho.attributes
    rw [List.length_map, List.length_map] at hlength
    have hzip : (e.attributes.zip o.attributes).map Prod.snd = o.attributes :=
      List.map_snd_zip hlength.le
    rw [← hzip] at hd
    obtain ⟨p, hp, rfl⟩ := List.mem_map.mp hd
    obtain ⟨cs, hcs, hcalled, htruth, hother⟩ := exists_right_of_mem hsamples hp
    have hne : cs ≠ [] := by
      rintro rfl
      by_cases hk : p.1.kind.isTruth
      · simpa using htruth hk
      · simpa using hother hk
    obtain ⟨c, hc⟩ := List.exists_mem_of_ne_nil cs hne
    exact ⟨c, .inl (.inl (List.mem_flatten.mpr ⟨cs, hcs, hc⟩)), hcalled c hc⟩
  · obtain ⟨x, hx, -⟩ := List.mem_map.mp (ho.events ▸ List.mem_map_of_mem hd)
    rw [if_neg (List.ne_nil_of_mem hx)] at hevents
    obtain ⟨c, hc, hcalled⟩ := exists_right_of_mem hevents (List.mem_cons_of_mem _ hd)
    exact ⟨c, .inl (.inr hc), hcalled⟩

end

end Element

def Accessor.head (a : Accessor) : Head :=
  a.declaration.signature.head

theorem Accessor.name_head (a : Accessor) : a.head.name = a.name := rfl

theorem Accessor.isCalledBy_shown {a : Accessor} (h : a.isLegible) {args : List Expr}
    (hargs : Expr.eachLegible args) (hlength : args.length = a.params.length) :
    a.head.IsCalledBy (elemCall a.name args).shown := by
  have htakes : a.head.takes = some a.params.length :=
    Signature.takes_head (isLegible_declaration h) Receiver.noConfusion
  have hcount : argumentCount (elemCall a.name args).shown.inside = args.length :=
    Expr.argumentCount_tokensEach hargs
  exact ⟨rfl, by rw [htakes, hcount, hlength]⟩

theorem code_elem : code "elem" = [.word "elem"] :=
  code_of_isName (by decide)

theorem receiver_shown (method : String) (args : List Expr) :
    (elemCall method args).shown.receiver = some (.word "elem") := by
  rw [elemCall, Call.shown, Expr.tokens, code_elem]
  rfl

theorem Attribute.name_accessor (a : Attribute) : a.accessor.name = a.methodName := by
  simp only [accessor, Accessor.changing]

theorem Event.name_accessor (x : Event) : x.accessor.name = x.methodName := by
  simp only [accessor, Accessor.changing]

theorem Attribute.calledAs (a : Attribute) : a.CalledAs a.accessor.head
    ((a.kind.samples.map (elemCall a.methodName)).map Call.shown) := by
  have hparams : a.accessor.params = a.kind.params := by
    simp only [accessor, Accessor.changing]
  refine ⟨?_, fun h => ?_, fun h => ?_⟩
  · rw [List.forall_mem_map, List.forall_mem_map, ← name_accessor]
    intro args hargs
    exact Accessor.isCalledBy_shown a.isLegible_accessor (a.kind.isLegible_samples args hargs)
      (by rw [hparams, a.kind.length_of_mem_samples args hargs])
  · have htrue : code "true" = [.word "true"] := code_of_isName (by decide)
    have hfalse : code "false" = [.word "false"] := code_of_isName (by decide)
    rw [ValueKind.samples_of_isTruth h]
    simp [elemCall, Call.shown, Expr.tokensEach, Expr.tokens, separated, htrue, hfalse]
  · rw [List.length_map, List.length_map, ValueKind.length_samples h]

theorem Event.isCalledBy (x : Event) :
    x.accessor.head.IsCalledBy (elemCall x.methodName [.atom "h"]).shown := by
  rw [← name_accessor]
  exact Accessor.isCalledBy_shown x.isLegible_accessor (by decide) rfl

namespace Element

variable (e : Element)

def offer : Offer where
  ctor := e.constructor.method
  content := e.contentAccessors.map Accessor.head
  attributes := e.attributes.map fun a => a.accessor.head
  on := onAccessor.head
  events := e.events.map fun x => x.accessor.head
  own := e.inherents

theorem declared_offer : e.offer.declared = e.methods := by
  rw [← heads_declarations, accessors, List.map_append, List.map_append, List.map_cons,
    List.map_map, List.map_map]
  rfl

theorem name_constructor : e.constructor.signature.name = e.constructorName := by
  cases h : e.tag <;> simp only [constructor, h]

theorem length_constructor :
    e.constructor.signature.params.length = if e.tag = .caller then 1 else 0 := by
  cases h : e.tag <;> simp [constructor, h]

theorem receiver_constructor : e.constructor.signature.receiver = .none := by
  cases h : e.tag <;> simp only [constructor, h]

theorem argumentCount_constructor :
    argumentCount e.offer.ctor.head.params = if e.tag = .caller then 1 else 0 := by
  have hlegible := Function.isLegible_signature e.isLegible_constructor
  rw [← length_constructor, ← Signature.argumentCount_params hlegible e.receiver_constructor]
  rfl

theorem isOffered_offer : e.IsOffered e.offer where
  takes := e.argumentCount_constructor
  content := by
    cases hc : e.content with
    | container =>
      have htext : (textAccessor e.text).name = "text" := by
        cases e.text <;> rfl
      simp [offer, contentAccessors, hc, Accessor.name_head, htext]
      rfl
    | restricted => simp [offer, contentAccessors, hc]
    | childless => simp [offer, contentAccessors, hc]
  attributes := by
    simp only [offer, List.map_map, Function.comp_def, Accessor.name_head, Attribute.name_accessor]
  on := rfl
  events := by
    simp only [offer, List.map_map, Function.comp_def, Accessor.name_head, Event.name_accessor]
  own := by
    cases hc : e.content <;> simp [offer, inherents, hc, privateBodyHead]

theorem name_offer : e.offer.ctor.head.name = e.constructorName := by
  simp only [offer, Function.method, Signature.head, name_constructor]

theorem head_smokeTest : e.smokeTest.method.head = ⟨[], e.constructorName, [], []⟩ := by
  simp [smokeTest, Function.method, Signature.head, Signature.paramTokens, Signature.code_empty,
    Receiver.tokens, separated]

theorem tokens_subject (args : List Expr) :
    (Stmt.bind "elem" (.call ("super::" ++ e.constructorName) args)).tokens =
      [.word "let", .word "elem", .mark '=' false, .word "super", .mark ':' false,
        .mark ':' false] ++ code e.constructorName ++
        [.group .round (separated (Expr.tokensEach args)), .mark ';' false] := by
  rw [Stmt.tokens, Expr.tokens, code_elem, (legible_outer e.isIdentifier_constructorName).code]
  simp

theorem body_smokeTest : ∃ args rest, Expr.eachLegible args ∧
    args.length = (if e.tag = .caller then 1 else 0) ∧
    e.smokeTest.body = .bind "elem" (.call ("super::" ++ e.constructorName) args) :: rest := by
  cases h : e.tag with
  | fixed t => exact ⟨[], _, rfl, rfl, by simp only [smokeTest, h]; rfl⟩
  | caller => exact ⟨[.text "div"], _, by decide, rfl, by simp only [smokeTest, h]; rfl⟩

theorem opens_smokeTest : ∃ args rest,
    argumentCount args = argumentCount e.offer.ctor.head.params ∧
    e.smokeTest.method.body = [.word "let", .word "elem", .mark '=' false, .word "super",
      .mark ':' false, .mark ':' false] ++ code e.constructorName ++
        .group .round args :: .mark ';' false :: rest := by
  obtain ⟨args, rest, hargs, hlength, hbody⟩ := e.body_smokeTest
  refine ⟨separated (Expr.tokensEach args), rest.flatMap Stmt.tokens, ?_, ?_⟩
  · rw [argumentCount_constructor, Expr.argumentCount_tokensEach hargs, hlength]
  · rw [Function.method, hbody, List.flatMap_cons, tokens_subject]
    simp

theorem forall_calls_smokeTest {P : Call → Prop} (h : ∀ method args, P (elemCall method args)) :
    ∀ c ∈ e.smokeTest.calls, P c := by
  have hevents : ∀ c ∈ e.eventCalls, P c := by
    unfold eventCalls
    split
    · simp
    · rw [List.forall_mem_cons, List.forall_mem_map]
      exact ⟨h _ _, fun x _ => h _ _⟩
  have hlast : ∀ c ∈ e.lastCalls, P c := by
    unfold lastCalls
    cases e.content <;> simp [h]
  rw [calls_smokeTest, List.forall_mem_append, List.forall_mem_append, List.forall_mem_flatMap]
  exact ⟨⟨fun a _ => List.forall_mem_map.mpr fun args _ => h _ _, hevents⟩, hlast⟩

theorem calledAs_attributes : List.Forall₂ (fun p => p.1.CalledAs p.2)
    (e.attributes.zip e.offer.attributes)
    (e.attributes.map fun a => (a.kind.samples.map (elemCall a.methodName)).map Call.shown) := by
  have hzip : e.attributes.zip e.offer.attributes =
      e.attributes.map fun a => (a, a.accessor.head) := by
    rw [offer, ← List.zip_map', List.map_id']
  rw [hzip, List.forall₂_map_left_iff, List.forall₂_map_right_iff, List.forall₂_same]
  exact fun a _ => a.calledAs

theorem isCalledBy_events : List.Forall₂ Head.IsCalledBy
    (if e.events = [] then [] else e.offer.on :: e.offer.events)
    (e.eventCalls.map Call.shown) := by
  have hon : onAccessor.head.IsCalledBy (elemCall "on" [.text "click", .atom "h"]).shown :=
    Accessor.isCalledBy_shown (by decide) (by decide) rfl
  unfold eventCalls
  split
  · exact .nil
  · refine .cons hon ?_
    rw [offer, List.map_map, List.forall₂_map_left_iff, List.forall₂_map_right_iff,
      List.forall₂_same]
    exact fun x _ => x.isCalledBy

theorem isCalledBy_closing : ∃ closing ⊆ e.offer.content ++ e.offer.own.flatMap Interface.methods,
    closing.map Head.name = e.content.closing ∧
      List.Forall₂ Head.IsCalledBy closing (e.lastCalls.map Call.shown) := by
  cases hc : e.content with
  | container =>
    have htext : (textAccessor e.text).head.IsCalledBy (elemCall "text" [.text "hello"]).shown ∧
        (textAccessor e.text).head.name = "text" := by
      cases e.text <;> exact ⟨Accessor.isCalledBy_shown (by decide) (by decide) rfl, rfl⟩
    refine ⟨[(textAccessor e.text).head], by simp [offer, contentAccessors, hc],
      by simp [htext.2, Content.closing], ?_⟩
    simpa [lastCalls, hc] using htext.1
  | restricted =>
    have hbody : privateBodyHead.IsCalledBy
        (elemCall "private_body" [.array [.call "text" [.text "hello"]]]).shown := by
      have htakes := Signature.takes_head (s := privateBody.signature) (by decide) (by decide)
      rw [head_privateBody] at htakes
      have hargs : Expr.eachLegible [.array [.call "text" [.text "hello"]]] := by decide
      exact ⟨rfl, htakes.trans (congrArg some (Expr.argumentCount_tokensEach hargs).symm)⟩
    refine ⟨[privateBodyHead], by simp [offer, inherents, hc], rfl, ?_⟩
    simpa [lastCalls, hc] using hbody
  | childless =>
    refine ⟨[], by simp, rfl, ?_⟩
    simp [lastCalls, hc]

theorem isTestedBy_smokeTest : e.IsTestedBy e.offer e.smokeTest.method where
  named := by rw [head_smokeTest, name_offer]
  opens := by
    rw [name_offer]
    exact e.opens_smokeTest
  receivers := by
    rw [methodCalls_smokeTest, List.forall_mem_map]
    exact e.forall_calls_smokeTest receiver_shown
  calls := by
    refine ⟨_, _, _, ?_, e.calledAs_attributes, e.isCalledBy_events, e.isCalledBy_closing⟩
    rw [methodCalls_smokeTest, calls_smokeTest, List.map_append, List.map_append, List.map_flatMap,
      List.flatMap_def]

end Element

theorem smoke_tests_agree {t : Table} {c : Config} {a : Artifacts} (h : t.render c = .ok a) :
    ∃ (offer : Element → Offer) (test : Element → Method) (defined : Element → Implementation),
      functions (withoutNotes (afterImport a.builder.contents)) =
        some (t.elements.map fun e => (offer e).ctor) ∧
      interfaces (withoutNotes (afterImport a.builder.contents)) =
        some (t.elements.map fun e => ⟨e.traitName, (offer e).declared⟩) ∧
      implementations (withoutNotes (afterImport a.builder.contents)) =
        some (t.elements.map defined) ∧
      inherents (withoutNotes (afterImport a.builder.contents)) =
        some (t.elements.flatMap fun e => (offer e).own) ∧
      tests a.tests.contents = some (t.elements.map test) ∧
      ∀ e ∈ t.elements, e.IsOffered (offer e) ∧ e.IsTestedBy (offer e) (test e) ∧
        List.Forall₂ Head.SameUpToMut (offer e).declared ((defined e).methods.map Method.head) ∧
        (∀ call ∈ methodCalls [] (test e).body, ∃ d ∈ (offer e).methods, d.IsCalledBy call) ∧
        ∀ d ∈ (offer e).attributes ++ (offer e).events,
          ∃ call ∈ methodCalls [] (test e).body, d.IsCalledBy call := by
  refine ⟨Element.offer, fun e => e.smokeTest.method, Element.implementation,
    functions_builder h, ?_, implementations_builder h, inherents_builder h, tests_contents h,
    fun e _ => ?_⟩
  · rw [interfaces_builder h]
    simp only [Element.declared_offer]
    rfl
  · refine ⟨e.isOffered_offer, e.isTestedBy_smokeTest, ?_, fun _ => e.isTestedBy_smokeTest.emitted,
      fun _ => e.isTestedBy_smokeTest.covered e.isOffered_offer⟩
    rw [Element.declared_offer, Element.implementation, List.map_map]
    exact e.sameUpToMut_definitions

def inputElement : Element :=
  ⟨"Input", .childless, "is an input.", .fixed "input", .children,
    [⟨"checked", "Checked", none, .bool, ""⟩], [⟨"onclick", "OnClick", ""⟩]⟩

theorem smoke_tests_agree_on_input :
    ∃ a test, Table.render ⟨[inputElement]⟩ .standard = .ok a ∧
      tests a.tests.contents = some [test] ∧
      ∀ n ∈ ["checked", "onclick"], ∃ call ∈ methodCalls [] test.body, call.method = n := by
  have hpath : Config.standard.importPath = .ok "super" := by decide
  have ha := render_of_importPath ⟨[inputElement]⟩ hpath
  obtain ⟨offer, test, defined, -, -, -, -, htests, helements⟩ := smoke_tests_agree ha
  obtain ⟨hoffered, -, -, -, hcovered⟩ := helements inputElement (List.mem_singleton_self _)
  have hnames : ((offer inputElement).attributes ++ (offer inputElement).events).map Head.name =
      ["checked", "onclick"] := by
    rw [List.map_append, hoffered.attributes, hoffered.events]
    decide
  refine ⟨_, _, ha, htests, fun n hn => ?_⟩
  rw [← hnames] at hn
  obtain ⟨d, hd, rfl⟩ := List.mem_map.mp hn
  obtain ⟨call, hcall, hcalled⟩ := hcovered d hd
  exact ⟨call, hcall, hcalled.1⟩

end TypedMarkup
