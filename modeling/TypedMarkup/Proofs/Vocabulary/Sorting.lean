import TypedMarkup.Vocabulary.Keyed

namespace TypedMarkup

variable {α : Type} [Keyed α] {xs ys zs : List α} {name : String}

def Sorted (xs : List α) : Prop :=
  xs.Pairwise fun a b => nameLe a b = true

instance : Decidable (Sorted xs) :=
  inferInstanceAs (Decidable (xs.Pairwise fun a b => nameLe a b = true))

def entriesNamed (name : String) (xs : List α) : List α :=
  xs.filter fun x => Keyed.name x == name

theorem sorted_sortByName (xs : List α) : Sorted (sortByName xs) :=
  sortByName_pairwise xs

theorem sortByName_of_sorted (h : Sorted xs) : sortByName xs = xs :=
  List.mergeSort_of_pairwise h

theorem mem_sortByName {x : α} : x ∈ sortByName xs ↔ x ∈ xs :=
  (sortByName_perm xs).mem_iff

theorem entriesNamed_append (name : String) (xs ys : List α) :
    entriesNamed name (xs ++ ys) = entriesNamed name xs ++ entriesNamed name ys :=
  List.filter_append ..

theorem mem_entriesNamed {x : α} : x ∈ entriesNamed name xs ↔ x ∈ xs ∧ Keyed.name x = name := by
  simp [entriesNamed]

theorem sorted_entriesNamed (name : String) (xs : List α) : Sorted (entriesNamed name xs) := by
  apply List.pairwise_iff_forall_sublist.mpr
  intro a b hab
  have ha : a ∈ entriesNamed name xs := hab.subset (by simp)
  have hb : b ∈ entriesNamed name xs := hab.subset (by simp)
  have hn : Keyed.name a = Keyed.name b := by
    rw [(mem_entriesNamed.mp ha).2, (mem_entriesNamed.mp hb).2]
  have ht := nameLe_total a b
  simpa [nameLe, hn] using ht

theorem entriesNamed_sortByName (name : String) (xs : List α) :
    entriesNamed name (sortByName xs) = entriesNamed name xs := by
  -- What is in order already stays together, and no entry of the name comes in between.
  have hin : (entriesNamed name xs).Sublist (sortByName xs) :=
    List.sublist_mergeSort nameLe_trans nameLe_total (sorted_entriesNamed name xs)
      List.filter_sublist
  have hsub : (entriesNamed name xs).Sublist (entriesNamed name (sortByName xs)) := by
    have h := hin.filter fun x => Keyed.name x == name
    simpa [entriesNamed] using h
  have hlength : (entriesNamed name xs).length = (entriesNamed name (sortByName xs)).length :=
    ((sortByName_perm xs).symm.filter _).length_eq
  exact (hsub.eq_of_length hlength).symm

theorem name_le_of_head {x y : α} (hx : Sorted (x :: xs)) (h : y ∈ x :: xs) :
    Text.le (Keyed.name x) (Keyed.name y) = true := by
  rcases List.mem_cons.mp h with rfl | h
  · simpa using Text.le_total (Keyed.name y) (Keyed.name y)
  · exact List.rel_of_pairwise_cons hx h

theorem eq_of_sorted (hx : Sorted xs) (hy : Sorted ys)
    (h : ∀ name, entriesNamed name xs = entriesNamed name ys) : xs = ys := by
  have hmem {as bs : List α} (h : ∀ name, entriesNamed name as = entriesNamed name bs) {a : α}
      (ha : a ∈ as) : a ∈ bs := by
    have ha : a ∈ entriesNamed (Keyed.name a) as := mem_entriesNamed.mpr ⟨ha, rfl⟩
    rw [h] at ha
    exact (mem_entriesNamed.mp ha).1
  induction xs generalizing ys with
  | nil =>
    cases ys with
    | nil => rfl
    | cons y ys => exact absurd (hmem (fun n => (h n).symm) List.mem_cons_self) List.not_mem_nil
  | cons x xs ih =>
    cases ys with
    | nil => exact absurd (hmem h List.mem_cons_self) List.not_mem_nil
    | cons y ys =>
      -- Each head is in the other list, so none of the two names comes before the other.
      have hn : Keyed.name x = Keyed.name y :=
        Text.le_antisymm (name_le_of_head hx (hmem (fun n => (h n).symm) List.mem_cons_self))
          (name_le_of_head hy (hmem h List.mem_cons_self))
      have hhead : x = y := by
        have hnamed := h (Keyed.name x)
        simp only [entriesNamed, List.filter_cons, ← hn, beq_self_eq_true, if_true] at hnamed
        exact (List.cons.inj hnamed).1
      subst hhead
      have htail : ∀ n, entriesNamed n xs = entriesNamed n ys := by
        intro n
        have hnamed := h n
        simp only [entriesNamed, List.filter_cons] at hnamed
        split at hnamed
        · exact (List.cons.inj hnamed).2
        · exact hnamed
      rw [ih (List.pairwise_cons.mp hx).2 (List.pairwise_cons.mp hy).2 htail]

theorem sortByName_congr (h : ∀ name, entriesNamed name xs = entriesNamed name ys) :
    sortByName xs = sortByName ys := by
  refine eq_of_sorted (sorted_sortByName xs) (sorted_sortByName ys) ?_
  intro name
  rw [entriesNamed_sortByName, entriesNamed_sortByName, h]

theorem sortByName_append_left (xs ys : List α) :
    sortByName (sortByName xs ++ ys) = sortByName (xs ++ ys) := by
  apply sortByName_congr
  intro name
  rw [entriesNamed_append, entriesNamed_append, entriesNamed_sortByName]

theorem sortByName_append_right (xs ys : List α) :
    sortByName (xs ++ sortByName ys) = sortByName (xs ++ ys) := by
  apply sortByName_congr
  intro name
  rw [entriesNamed_append, entriesNamed_append, entriesNamed_sortByName]

structure IsStableSort (xs ys : List α) : Prop where
  perm : ys.Perm xs
  sorted : Sorted ys
  stable : ∀ name, entriesNamed name ys = entriesNamed name xs

theorem isStableSort_iff : IsStableSort xs ys ↔ ys = sortByName xs := by
  constructor
  · intro h
    refine eq_of_sorted h.sorted (sorted_sortByName xs) ?_
    intro name
    rw [h.stable, entriesNamed_sortByName]
  · rintro rfl
    exact ⟨sortByName_perm xs, sorted_sortByName xs, fun name => entriesNamed_sortByName name xs⟩

end TypedMarkup
