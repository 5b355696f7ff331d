import Mathlib.Data.List.Forall2
import TypedMarkup.Proofs.Artifact.Documentation

namespace TypedMarkup

open Code Layout

namespace ValueKind

def knownTags : List String :=
  ["string", "url", "int", "float64", "any", "bool", "bool|force", "on/off", "string|class",
    "style", "style|map", "attr|value", "data|value", "aria|value", "xmlns"]

theorem tag_ofTag (t : String) : (ofTag t).tag = t := by
  unfold ofTag
  split <;> rfl

theorem eq_other_of_unknown {k : ValueKind} (h : k.tag ∉ knownTags) : k = .other k.tag := by
  cases k with
  | other t => rfl
  | _ => exact absurd h (by decide)

theorem ofTag_of_unknown {t : String} (h : t ∉ knownTags) : ofTag t = .other t := by
  have hkind : (ofTag t).tag ∉ knownTags := by rwa [tag_ofTag]
  rw [eq_other_of_unknown hkind, tag_ofTag]

def FallsBack (k : ValueKind) : Prop :=
  k = .any ∨ k.tag ∉ knownTags

structure SameShape (k l : ValueKind) : Prop where
  params : k.params = l.params
  store : ∀ name, k.store name = l.store name
  samples : k.samples = l.samples

theorem FallsBack.sameShape {k l : ValueKind} (hk : k.FallsBack) (hl : l.FallsBack) :
    k.SameShape l := by
  have hany {m : ValueKind} (hm : m.FallsBack) : m.SameShape .any := by
    rcases hm with rfl | hm
    · exact ⟨rfl, fun _ => rfl, rfl⟩
    · rw [eq_other_of_unknown hm]
      exact ⟨rfl, fun _ => rfl, rfl⟩
  obtain ⟨hkparams, hkstore, hksamples⟩ := hany hk
  obtain ⟨hlparams, hlstore, hlsamples⟩ := hany hl
  exact ⟨hkparams.trans hlparams.symm, fun name => (hkstore name).trans (hlstore name).symm,
    hksamples.trans hlsamples.symm⟩

end ValueKind

def Attribute.Rekinded (a b : Attribute) : Prop :=
  b = a ∨ a.kind.tag ∉ ValueKind.knownTags ∧ ∃ k : ValueKind, k.FallsBack ∧ b = { a with kind := k }

def Element.Rekinded (d e : Element) : Prop :=
  ∃ as, List.Forall₂ Attribute.Rekinded d.attributes as ∧ e = { d with attributes := as }

def Table.Rekinded (t u : Table) : Prop :=
  List.Forall₂ Element.Rekinded t.elements u.elements

theorem map_eq_of_forall₂ {α β : Type} {R : α → α → Prop} {f : α → β} {as bs : List α}
    (h : List.Forall₂ R as bs) (hf : ∀ {a b}, R a b → f b = f a) : bs.map f = as.map f := by
  induction h with
  | nil => rfl
  | cons hab _ ih => rw [List.map_cons, List.map_cons, hf hab, ih]

theorem flatMap_eq_of_forall₂ {α β : Type} {R : α → α → Prop} {f : α → List β} {as bs : List α}
    (h : List.Forall₂ R as bs) (hf : ∀ {a b}, R a b → f b = f a) :
    bs.flatMap f = as.flatMap f := by
  rw [List.flatMap_def, List.flatMap_def, map_eq_of_forall₂ h hf]

theorem Attribute.Rekinded.accessor_eq {a b : Attribute} (h : a.Rekinded b) :
    b.accessor = a.accessor := by
  obtain rfl | ⟨hunknown, k, hk, rfl⟩ := h
  · rfl
  · have hshape := hk.sameShape (.inr hunknown)
    simp only [accessor, methodName, storedName, hshape.params, hshape.store]

theorem Attribute.Rekinded.steps_eq {a b : Attribute} (h : a.Rekinded b) : b.steps = a.steps := by
  obtain rfl | ⟨hunknown, k, hk, rfl⟩ := h
  · rfl
  · have hshape := hk.sameShape (.inr hunknown)
    simp only [steps, methodName, storedName, hshape.samples]

theorem Element.Rekinded.items_eq {d e : Element} (h : d.Rekinded e) : e.items = d.items := by
  obtain ⟨as, has, rfl⟩ := h
  have hmap := map_eq_of_forall₂ has Attribute.Rekinded.accessor_eq
  have haccessors : ({ d with attributes := as } : Element).accessors = d.accessors := by
    simp only [accessors, contentAccessors, hmap]
  simp only [items, haccessors]
  rfl

theorem Element.Rekinded.smokeTest_eq {d e : Element} (h : d.Rekinded e) :
    e.smokeTest = d.smokeTest := by
  obtain ⟨as, has, rfl⟩ := h
  have hsteps := flatMap_eq_of_forall₂ has Attribute.Rekinded.steps_eq
  simp only [smokeTest, hsteps]
  rfl

theorem Table.Rekinded.builderText_eq {t u : Table} (h : t.Rekinded u) (path : String) :
    builderText path u = builderText path t := by
  have hlines := flatMap_eq_of_forall₂ (f := fun e => e.items.flatMap Item.lines) h
    fun he => by rw [he.items_eq]
  rw [builderText, builderText, builderLines, builderLines, hlines]

theorem Table.Rekinded.smokeText_eq {t u : Table} (h : t.Rekinded u) :
    smokeText u = smokeText t := by
  have hlines := flatMap_eq_of_forall₂ (f := fun e => e.smokeTest.lines 0) h
    fun he => by rw [he.smokeTest_eq]
  rw [smokeText, smokeText, smokeLines, smokeLines, hlines]

theorem unknown_tags_fall_back :
    (∀ t, (ValueKind.ofTag t).tag = t) ∧
    (∀ t, t ∉ ValueKind.knownTags → ValueKind.ofTag t = .other t) ∧
    ∀ t u : Table, t.Rekinded u → ∀ c : Config, u.render c = t.render c := by
  refine ⟨ValueKind.tag_ofTag, fun t => ValueKind.ofTag_of_unknown, fun t u h c => ?_⟩
  simp only [Table.render_eq, h.builderText_eq, h.smokeText_eq]

def numberedTable (kind : ValueKind) : Table :=
  ⟨[⟨"Meter", .childless, "shows a measure.", .fixed "meter", .children,
    [⟨"low", "Low", none, kind, "is the lower bound."⟩, ⟨"id", "Id", none, .string, ""⟩], []⟩]⟩

theorem unknown_tags_fall_back_of_complex :
    "complex128" ∉ ValueKind.knownTags ∧ ValueKind.ofTag "complex128" = .other "complex128" ∧
    (numberedTable .any).render .standard =
      (numberedTable (ValueKind.ofTag "complex128")).render .standard ∧
    (numberedTable (.other "")).render .standard =
      (numberedTable (ValueKind.ofTag "complex128")).render .standard := by
  obtain ⟨-, hother, hrender⟩ := unknown_tags_fall_back
  have hunknown : "complex128" ∉ ValueKind.knownTags := by decide
  have hkind := hother "complex128" hunknown
  have hrekinded {k : ValueKind} (hk : k.FallsBack) :
      (numberedTable (.other "complex128")).Rekinded (numberedTable k) := by
    have hlow : Attribute.Rekinded ⟨"low", "Low", none, .other "complex128", "is the lower bound."⟩
        ⟨"low", "Low", none, k, "is the lower bound."⟩ :=
      .inr ⟨hunknown, k, hk, rfl⟩
    exact .cons ⟨_, .cons hlow (.cons (.inl rfl) .nil), rfl⟩ .nil
  rw [hkind]
  exact ⟨hunknown, rfl, hrender _ _ (hrekinded (.inl rfl)) _,
    hrender _ _ (hrekinded (.inr (by decide))) _⟩

end TypedMarkup
