import TypedMarkup.Proofs.Vocabulary.References

namespace TypedMarkup

open Vocabulary

theorem get?_isSome {α : Type} [Keyed α] {name k : String} {xs : List α} :
    ((Catalog.ofList name xs).get? k).isSome ↔ k ∈ xs.map key := by
  rw [Catalog.get?_ofList, List.find?_isSome]
  simp

def Reference.isEntry : Reference → Bool
  | .toAttribute .html k => (htmlAttributeEntries.map key).contains k
  | .toAttribute .svg k => (svgAttributeEntries.map key).contains k
  | .toEvent .html k => (htmlEventEntries.map key).contains k
  | .toEvent .svg k => (svgEventEntries.map key).contains k

theorem isIn_builtin {r : Reference} : r.isIn .builtin ↔ r.isEntry := by
  have hkeys {α : Type} [Keyed α] (name : String) (xs : List α) (k : String) :
      ((Catalog.ofList name xs).get? k).isSome ↔ (xs.map key).contains k := by
    rw [get?_isSome, List.contains_iff_mem]
  rcases r with ⟨_ | _, k⟩ | ⟨_ | _, k⟩ <;> exact hkeys _ _ k

theorem references_builtin : ∀ r ∈ builtinReferences, r.isIn .builtin := by
  have h : (builtinDefinitions.all fun d => d.references.all Reference.isEntry) = true := by
    decide +kernel
  simp only [List.all_eq_true] at h
  intro r hr
  obtain ⟨d, hd, hr⟩ := List.mem_flatMap.mp hr
  exact isIn_builtin.mpr (h d hd r hr)

theorem Table.builtin_ok : ∃ t, Table.builtin .builtin = .ok t :=
  settles_builtin.ok_iff.mpr references_builtin

def Vocabulary.Extends (v w : Vocabulary) : Prop :=
  ∀ r : Reference, r.isIn w → r.isIn v

theorem isSome_get?_ofList_append {α : Type} [Keyed α] (c : Catalog α) (name : String)
    (xs : List α) {k : String} (h : (c.get? k).isSome) :
    ((Catalog.ofList name (xs ++ c.entries)).get? k).isSome := by
  have hk : k ∈ c.entries.map key := by
    rw [Catalog.get?, List.find?_isSome] at h
    simpa using h
  rw [get?_isSome, List.map_append, List.mem_append]
  exact .inr hk

def Vocabulary.overridden (v : Vocabulary) (ha sa : List Attribute) (he se : List Event) :
    Vocabulary where
  htmlAttributes := .ofList v.htmlAttributes.name (ha ++ v.htmlAttributes.entries)
  svgAttributes := .ofList v.svgAttributes.name (sa ++ v.svgAttributes.entries)
  htmlEvents := .ofList v.htmlEvents.name (he ++ v.htmlEvents.entries)
  svgEvents := .ofList v.svgEvents.name (se ++ v.svgEvents.entries)

theorem extends_overridden (v : Vocabulary) (ha sa : List Attribute) (he se : List Event) :
    (v.overridden ha sa he se).Extends v := by
  intro r hr
  rcases r with ⟨_ | _, k⟩ | ⟨_ | _, k⟩ <;> exact isSome_get?_ofList_append _ _ _ hr

theorem Table.builtin_ok_of_extends {v : Vocabulary} (h : v.Extends .builtin) :
    ∃ t, Table.builtin v = .ok t :=
  settles_builtin.ok_iff.mpr fun r hr => h r (references_builtin r hr)

theorem Vocabulary.Settles.error {α : Type} {v : Vocabulary} {before after : List Reference}
    {q : Reference} {r : Except MissingKey α} (h : v.Settles (before ++ q :: after) r)
    (hb : ∀ p ∈ before, p.isIn v) (hq : ¬ q.isIn v) : r = .error (q.missing v) := by
  rwa [Settles, missing?_of_first hb hq] at h

theorem table_decided_by_references :
    (∀ v, (∃ t, Table.builtin v = .ok t) ↔ ∀ r ∈ builtinReferences, r.isIn v) ∧
    (∀ v before r after, builtinReferences = before ++ r :: after → (∀ q ∈ before, q.isIn v) →
      ¬ r.isIn v → Table.builtin v = .error (r.missing v)) ∧
    (∀ v t, Table.builtin v = .ok t →
      t.size = 181 ∧ t.elements.map Element.frame = builtinDefinitions.map Definition.frame) ∧
    (∀ v, v.Extends .builtin → ∃ t, Table.builtin v = .ok t) ∧
    ∀ ha sa he se, ∃ t, Table.builtin (Vocabulary.builtin.overridden ha sa he se) = .ok t := by
  refine ⟨fun v => settles_builtin.ok_iff, ?_, ?_, fun v => Table.builtin_ok_of_extends, ?_⟩
  · intro v before r after hlist hbefore hr
    have h : v.Settles (before ++ r :: after) (Table.builtin v) := hlist ▸ settles_builtin
    exact h.error hbefore hr
  · intro v t ht
    unfold Table.builtin at ht
    cases hes : Definition.resolveAll v builtinDefinitions with
    | error e => simp [hes, Except.map] at ht
    | ok es =>
      rw [hes] at ht
      obtain rfl := Except.ok.inj ht
      have hframes := Definition.frames_resolveAll hes
      refine ⟨?_, hframes⟩
      have hlength := congrArg List.length hframes
      rw [List.length_map, List.length_map] at hlength
      exact hlength.trans (by decide +kernel)
  · intro ha sa he se
    exact Table.builtin_ok_of_extends (extends_overridden .builtin ha sa he se)

def Vocabulary.empty : Vocabulary where
  htmlAttributes := .ofList "html attribute" []
  svgAttributes := .ofList "svg attribute" []
  htmlEvents := .ofList "html event" []
  svgEvents := .ofList "svg event" []

theorem table_without_entries :
    Table.builtin .empty = .error ⟨"html attribute", "download"⟩ := by
  have hlist : builtinReferences =
      [] ++ .toAttribute .html "download" :: builtinReferences.tail := rfl
  have hmissing : ¬ (Reference.toAttribute .html "download").isIn .empty := by decide
  exact table_decided_by_references.2.1 .empty [] _ _ hlist (by simp) hmissing

end TypedMarkup
