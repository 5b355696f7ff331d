import Mathlib.Data.List.Forall2
import TypedMarkup.Proofs.Vocabulary.Sorting
import TypedMarkup.Vocabulary.Composition

namespace TypedMarkup

section

variable {α : Type}

def composed (cs : List (List α → Except MissingKey (List α))) (xs : List α) :
    Except MissingKey (List α) :=
  cs.foldlM (fun ys c => c ys) xs

theorem composed_cons (c : List α → Except MissingKey (List α))
    (cs : List (List α → Except MissingKey (List α))) (xs : List α) :
    composed (c :: cs) xs = c xs >>= composed cs :=
  List.foldlM_cons

variable [Keyed α]

namespace Catalog

def missing? (c : Catalog α) (ks : List String) : Option MissingKey :=
  (ks.find? fun k => (c.get? k).isNone).map (MissingKey.mk c.name)

def listed (c : Catalog α) (ks : List String) : List α :=
  ks.filterMap c.get?

theorem missing?_cons (c : Catalog α) (k : String) (ks : List String) :
    c.missing? (k :: ks) = if (c.get? k).isNone then some ⟨c.name, k⟩ else c.missing? ks := by
  rw [missing?, List.find?_cons]
  cases c.get? k <;> rfl

theorem missing?_eq_none_iff {c : Catalog α} {ks : List String} :
    c.missing? ks = none ↔ ∀ k ∈ ks, (c.get? k).isSome := by
  simp [missing?, Option.isSome_iff_ne_none]

theorem missing?_eq_some_iff {c : Catalog α} {ks : List String} {e : MissingKey} :
    c.missing? ks = some e ↔ ∃ before k after, ks = before ++ k :: after ∧
      (∀ j ∈ before, (c.get? j).isSome) ∧ c.get? k = none ∧ ⟨c.name, k⟩ = e := by
  simp only [missing?, Option.map_eq_some_iff, List.find?_eq_some_iff_append]
  constructor
  · rintro ⟨k, ⟨hk, before, after, hks, hbefore⟩, he⟩
    exact ⟨before, k, after, hks, by simpa using hbefore, by simpa using hk, he⟩
  · rintro ⟨before, k, after, hks, hbefore, hk, he⟩
    exact ⟨k, ⟨by simp [hk], before, after, hks, by simpa using hbefore⟩, he⟩

theorem forall₂_iff {c : Catalog α} {ks : List String} {xs : List α} :
    List.Forall₂ (fun k x => c.get? k = some x) ks xs ↔
      c.missing? ks = none ∧ c.listed ks = xs := by
  induction ks generalizing xs with
  | nil => simp [missing?, listed, eq_comm]
  | cons k ks ih =>
    rw [List.forall₂_cons_left_iff, missing?_cons, listed, List.filterMap_cons]
    cases hk : c.get? k with
    | none => simp
    | some x => simp [ih, listed, @eq_comm _ xs]

theorem getAll_eq (c : Catalog α) (ks : List String) :
    c.getAll ks =
      match c.missing? ks with
      | some e => .error e
      | none => .ok (c.listed ks) := by
  induction ks with
  | nil => rfl
  | cons k ks ih =>
    simp only [getAll, ih, missing?_cons, get, listed, List.filterMap_cons]
    cases c.get? k with
    | none => rfl
    | some x => cases c.missing? ks <;> rfl

theorem resolve_eq (c : Catalog α) (ks : List String) :
    c.resolve ks =
      match c.missing? ks with
      | some e => .error e
      | none => .ok (sortByName (c.listed ks)) := by
  rw [resolve, getAll_eq]
  cases c.missing? ks <;> rfl

end Catalog

structure Source (α : Type) [Keyed α] where
  catalog : Catalog α
  keys : List String

namespace Source

def entries (s : Source α) : List α :=
  s.catalog.listed s.keys

def missing? (s : Source α) : Option MissingKey :=
  s.catalog.missing? s.keys

def add (s : Source α) (xs : List α) : Except MissingKey (List α) :=
  (s.catalog.resolve s.keys).map fun ys => sortByName (xs ++ ys)

theorem add_eq (s : Source α) (xs : List α) :
    s.add xs =
      match s.missing? with
      | some e => .error e
      | none => .ok (sortByName (xs ++ s.entries)) := by
  rw [add, Catalog.resolve_eq, ← missing?]
  cases s.missing? with
  | some e => rfl
  | none => exact congrArg Except.ok (sortByName_append_right xs s.entries)

end Source

def fused (ss : List (Source α)) (xs : List α) : Except MissingKey (List α) :=
  match ss.findSome? Source.missing? with
  | some e => .error e
  | none => .ok (sortByName (xs ++ ss.flatMap Source.entries))

theorem fused_cons (s : Source α) (ss : List (Source α)) (xs : List α) :
    fused (s :: ss) xs =
      match s.missing? with
      | some e => .error e
      | none => fused ss (xs ++ s.entries) := by
  rw [fused, List.findSome?_cons, List.flatMap_cons, ← List.append_assoc]
  cases s.missing? <;> rfl

theorem composed_sortByName (ss : List (Source α)) (xs : List α) :
    composed (ss.map Source.add) (sortByName xs) = fused ss xs := by
  induction ss generalizing xs with
  | nil => simp [composed, fused, pure, Except.pure]
  | cons s ss ih =>
    rw [List.map_cons, composed_cons, Source.add_eq, fused_cons]
    cases s.missing? with
    | some e => rfl
    | none =>
      have hsorts : sortByName (sortByName xs ++ s.entries) = sortByName (xs ++ s.entries) :=
        sortByName_append_left xs s.entries
      rw [hsorts]
      exact ih (xs ++ s.entries)

theorem composed_eq_fused (s : Source α) (ss : List (Source α)) (xs : List α) :
    composed ((s :: ss).map Source.add) xs = fused (s :: ss) xs := by
  rw [List.map_cons, composed_cons, Source.add_eq, fused_cons]
  cases s.missing? with
  | some e => rfl
  | none => exact composed_sortByName ss (xs ++ s.entries)

def Fuses (ss : List (Source α)) (xs : List α) (r : Except MissingKey (List α)) : Prop :=
  match ss.findSome? Source.missing? with
  | some e => r = .error e
  | none => ∃ ys, r = .ok ys ∧ IsStableSort (xs ++ ss.flatMap Source.entries) ys

theorem fuses_fused (ss : List (Source α)) (xs : List α) : Fuses ss xs (fused ss xs) := by
  unfold Fuses fused
  split
  · rfl
  · exact ⟨_, rfl, isStableSort_iff.mpr rfl⟩

end

namespace Vocabulary

def source (v : Vocabulary) (b : Baseline) : Source Event :=
  ⟨v.events b.dialect, b.keys⟩

def globalSource (v : Vocabulary) : Source Attribute :=
  ⟨v.htmlAttributes, globalAttributeKeys⟩

theorem addBaseline_eq (v : Vocabulary) (b : Baseline) : v.addBaseline b = (v.source b).add := rfl

theorem addGlobalAttributes_eq (v : Vocabulary) : v.addGlobalAttributes = v.globalSource.add := rfl

end Vocabulary

theorem baselines_fuse (v : Vocabulary) :
    (∀ (b : Baseline) (bs : List Baseline) (xs : List Event),
      Fuses ((b :: bs).map v.source) xs (composed ((b :: bs).map v.addBaseline) xs)) ∧
    ∀ (n : Nat) (xs : List Attribute),
      Fuses (List.replicate (n + 1) v.globalSource) xs
        (composed (List.replicate (n + 1) v.addGlobalAttributes) xs) := by
  constructor
  · intro b bs xs
    have h : composed ((b :: bs).map v.addBaseline) xs = fused ((b :: bs).map v.source) xs := by
      have hadd : (b :: bs).map v.addBaseline = ((b :: bs).map v.source).map Source.add := by
        rw [List.map_map]
        rfl
      rw [hadd]
      exact composed_eq_fused (v.source b) (bs.map v.source) xs
    rw [h]
    exact fuses_fused _ xs
  · intro n xs
    have h : composed (List.replicate (n + 1) v.addGlobalAttributes) xs =
        fused (List.replicate (n + 1) v.globalSource) xs := by
      rw [v.addGlobalAttributes_eq, ← List.map_replicate]
      exact composed_eq_fused v.globalSource (List.replicate n v.globalSource) xs
    rw [h]
    exact fuses_fused _ xs

end TypedMarkup
