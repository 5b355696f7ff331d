import Mathlib.Data.List.Nodup
import TypedMarkup.Proofs.Vocabulary.Sorting

namespace TypedMarkup

variable {α : Type} [Keyed α] {xs ys : List α}

structure SameUpToTies (xs ys : List α) : Prop where
  perm : xs.Perm ys
  names : xs.map Keyed.name = ys.map Keyed.name

theorem sorted_iff_names :
    Sorted xs ↔ (xs.map Keyed.name).Pairwise fun s t => Text.le s t = true := by
  rw [List.pairwise_map]
  rfl

theorem names_of_sorted (hx : Sorted xs) (hy : Sorted ys) (h : xs.Perm ys) :
    xs.map Keyed.name = ys.map Keyed.name :=
  (h.map Keyed.name).eq_of_pairwise (fun _ _ _ _ => Text.le_antisymm) (sorted_iff_names.mp hx)
    (sorted_iff_names.mp hy)

theorem SameUpToTies.sortByName (h : xs.Perm ys) :
    SameUpToTies (sortByName xs) (sortByName ys) := by
  have hperm : (TypedMarkup.sortByName xs).Perm (TypedMarkup.sortByName ys) :=
    ((sortByName_perm xs).trans h).trans (sortByName_perm ys).symm
  exact ⟨hperm, names_of_sorted (sorted_sortByName xs) (sorted_sortByName ys) hperm⟩

theorem SameUpToTies.eq_of_nodup (h : SameUpToTies xs ys) (hn : (xs.map Keyed.name).Nodup) :
    xs = ys := by
  apply List.ext_getElem h.perm.length_eq
  intro i hi hj
  have hname : Keyed.name xs[i] = Keyed.name ys[i] := by
    have hat : (xs.map Keyed.name)[i]? = (ys.map Keyed.name)[i]? := by rw [h.names]
    simpa [hi, hj] using hat
  exact List.inj_on_of_nodup_map hn (List.getElem_mem hi)
    (h.perm.mem_iff.mpr (List.getElem_mem hj)) hname

end TypedMarkup
