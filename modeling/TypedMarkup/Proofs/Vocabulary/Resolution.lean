import Mathlib.Data.Finset.Card
import Mathlib.Data.List.Forall2
import TypedMarkup.Proofs.Vocabulary.Merging

namespace TypedMarkup

variable {α : Type} [Keyed α] {entries : List α} {name k : String} {keys : List String}

def FirstUnder (entries : List α) (k : String) (x : α) : Prop :=
  ∃ before after, entries = before ++ x :: after ∧ key x = k ∧ ∀ y ∈ before, key y ≠ k

def Occurs (entries : List α) (k : String) : Prop :=
  ∃ x ∈ entries, key x = k

inductive Resolves (name : String) (entries : List α) (keys : List String) :
    Except MissingKey (List α) → Prop where
  | found {xs ys : List α} (hfirst : List.Forall₂ (FirstUnder entries) keys xs)
      (hsort : IsStableSort xs ys) : Resolves name entries keys (.ok ys)
  | missing {before after : List String} {k : String} (hkeys : keys = before ++ k :: after)
      (hbefore : ∀ j ∈ before, Occurs entries j) (hk : ¬ Occurs entries k) :
      Resolves name entries keys (.error ⟨name, k⟩)

namespace Catalog

theorem get?_eq_some_iff (name : String) {x : α} :
    (ofList name entries).get? k = some x ↔ FirstUnder entries k x := by
  rw [get?_ofList, List.find?_eq_some_iff_append]
  constructor
  · rintro ⟨hx, before, after, hentries, hbefore⟩
    exact ⟨before, after, hentries, by simpa using hx, fun y hy => by simpa using hbefore y hy⟩
  · rintro ⟨before, after, hentries, hx, hbefore⟩
    exact ⟨by simpa using hx, before, after, hentries, fun y hy => by simpa using hbefore y hy⟩

theorem get?_eq_none_iff (name : String) :
    (ofList name entries).get? k = none ↔ ¬ Occurs entries k := by
  simp [get?_ofList, Occurs]

theorem isSome_get?_iff (name : String) :
    ((ofList name entries).get? k).isSome ↔ Occurs entries k := by
  rw [Option.isSome_iff_ne_none, ne_eq, get?_eq_none_iff, not_not]

theorem forall₂_firstUnder_iff (name : String) {xs : List α} :
    List.Forall₂ (FirstUnder entries) keys xs ↔
      (ofList name entries).missing? keys = none ∧ (ofList name entries).listed keys = xs := by
  rw [← forall₂_iff]
  simp only [get?_eq_some_iff]

theorem resolve_of_resolves {r : Except MissingKey (List α)} (h : Resolves name entries keys r) :
    (ofList name entries).resolve keys = r := by
  rw [resolve_eq]
  cases h with
  | found hfirst hsort =>
    obtain ⟨hnone, hlisted⟩ := (forall₂_firstUnder_iff name).mp hfirst
    rw [hnone, hlisted, isStableSort_iff.mp hsort]
  | @missing before after k hkeys hbefore hk =>
    have hsome : (ofList name entries).missing? keys = some ⟨name, k⟩ := by
      refine missing?_eq_some_iff.mpr ⟨_, _, _, hkeys, fun j hj => ?_, ?_, rfl⟩
      · exact (isSome_get?_iff name).mpr (hbefore j hj)
      · exact (get?_eq_none_iff name).mpr hk
    rw [hsome]

theorem resolves_resolve (name : String) (entries : List α) (keys : List String) :
    Resolves name entries keys ((ofList name entries).resolve keys) := by
  rw [resolve_eq]
  cases hm : (ofList name entries).missing? keys with
  | none => exact .found ((forall₂_firstUnder_iff name).mpr ⟨hm, rfl⟩) (isStableSort_iff.mpr rfl)
  | some e =>
    obtain ⟨before, k, after, hkeys, hbefore, hk, rfl⟩ := missing?_eq_some_iff.mp hm
    refine .missing hkeys (fun j hj => ?_) ((get?_eq_none_iff name).mp hk)
    exact (isSome_get?_iff name).mp (hbefore j hj)

theorem mem_map_key_firsts : k ∈ (firsts entries).map key ↔ k ∈ entries.map key := by
  have hfind (xs : List α) : k ∈ xs.map key ↔ (xs.find? (key · == k)).isSome := by
    simp
  rw [hfind, hfind, find?_firsts]

theorem size_ofList (name : String) (entries : List α) :
    (ofList name entries).size = (entries.map key).toFinset.card := by
  have hkeys : (entries.map key).toFinset = ((firsts entries).map key).toFinset := by
    ext k
    rw [List.mem_toFinset, List.mem_toFinset, mem_map_key_firsts]
  rw [hkeys, List.toFinset_card_of_nodup (firsts_nodup entries), List.length_map]
  rfl

end Catalog

theorem catalog_of_first_entries (name : String) (entries : List α) :
    (∀ keys r, (Catalog.ofList name entries).resolve keys = r ↔ Resolves name entries keys r) ∧
      (Catalog.ofList name entries).size = (entries.map key).toFinset.card := by
  refine ⟨fun keys r => ⟨?_, Catalog.resolve_of_resolves⟩, Catalog.size_ofList name entries⟩
  rintro rfl
  exact Catalog.resolves_resolve name entries keys

end TypedMarkup
