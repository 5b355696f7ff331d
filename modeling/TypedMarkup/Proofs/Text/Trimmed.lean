import Mathlib.Data.List.Induction
import TypedMarkup.Artifact.Prose
import TypedMarkup.Proofs.Layout.Lines

namespace TypedMarkup.Text

variable {s : List Char}

theorem trimStart_cons_of_blank {c : Char} (hc : isBlank c) (s : List Char) :
    trimStart (c :: s) = trimStart s :=
  List.dropWhile_cons_of_pos hc

theorem trimEnd_concat_of_blank {c : Char} (hc : isBlank c) (s : List Char) :
    trimEnd (s ++ [c]) = trimEnd s := by
  rw [trimEnd, List.reverse_append, List.reverse_singleton, List.singleton_append,
    List.dropWhile_cons_of_pos hc]
  rfl

theorem trimEnd_concat {c : Char} (hc : ¬ isBlank c) (s : List Char) :
    trimEnd (s ++ [c]) = s ++ [c] := by
  rw [trimEnd, List.reverse_append, List.reverse_singleton, List.singleton_append,
    List.dropWhile_cons_of_neg hc, List.reverse_cons, List.reverse_reverse]

theorem trim_cons_of_blank {c : Char} (hc : isBlank c) (s : List Char) :
    trim (c :: s) = trim s := by
  rw [trim, trimStart_cons_of_blank hc, trim]

theorem trim_concat_of_blank {c : Char} (hc : isBlank c) (s : List Char) :
    trim (s ++ [c]) = trim s := by
  rw [trim, trim, trimStart, List.dropWhile_append]
  split
  · rename_i hall
    rw [List.isEmpty_iff] at hall
    rw [trimStart, hall, List.dropWhile_cons_of_pos hc]
    rfl
  · exact trimEnd_concat_of_blank hc _

theorem apply_trim {β : Type} {f : List Char → β}
    (hstart : ∀ {c}, isBlank c → ∀ s, f (c :: s) = f s)
    (hend : ∀ {c}, isBlank c → ∀ s, f (s ++ [c]) = f s) (s : List Char) : f (trim s) = f s := by
  have htrimStart (s : List Char) : f (trimStart s) = f s := by
    induction s with
    | nil => rfl
    | cons c s ih =>
      by_cases hc : isBlank c
      · rw [trimStart_cons_of_blank hc, ih, hstart hc]
      · rw [trimStart, List.dropWhile_cons_of_neg hc]
  have htrimEnd (s : List Char) : f (trimEnd s) = f s := by
    induction s using List.reverseRecOn with
    | nil => rfl
    | append_singleton s c ih =>
      by_cases hc : isBlank c
      · rw [trimEnd_concat_of_blank hc, ih, hend hc]
      · rw [trimEnd_concat hc]
  rw [trim, htrimEnd, htrimStart]

theorem trim_trim (s : List Char) : trim (trim s) = trim s :=
  apply_trim trim_cons_of_blank trim_concat_of_blank s

theorem trim_chomp (s : List Char) : trim (chomp s) = trim s := by
  unfold chomp
  split
  · rename_i r hr
    have hs : s = r.reverse ++ ['\r'] := by
      rw [← List.reverse_reverse s, hr, List.reverse_cons]
    rw [hs, trim_concat_of_blank (by decide)]
  · rfl

theorem not_blank_of_getLast?_trim {c : Char} (h : (trim s).getLast? = some c) : ¬ isBlank c := by
  rw [trim, trimEnd, List.getLast?_reverse] at h
  have hhead := List.head?_dropWhile_not isBlank (trimStart s).reverse
  rw [h] at hhead
  simpa using hhead

def trimmedPieces (s : List Char) : List (List Char) :=
  ((pieces s).map trim).filter (· ≠ [])

theorem trimmedPieces_append (s t : List Char) :
    trimmedPieces (s ++ '\n' :: t) = trimmedPieces s ++ trimmedPieces t := by
  rw [trimmedPieces, Layout.pieces_append, List.map_append, List.filter_append]
  rfl

theorem trimmedPieces_cons_of_blank {c : Char} (hc : isBlank c) (s : List Char) :
    trimmedPieces (c :: s) = trimmedPieces s := by
  by_cases hline : c = '\n'
  · subst hline
    exact trimmedPieces_append [] s
  · unfold trimmedPieces
    rw [pieces, if_neg hline]
    cases hp : pieces s with
    | nil => exact absurd hp (pieces_ne_nil s)
    | cons p ps => simp only [List.map_cons, trim_cons_of_blank hc]

-- By induction on the length: a line feed takes off what stands in front of it.
theorem trimmedPieces_concat_of_blank {c : Char} (hc : isBlank c) (s : List Char) :
    trimmedPieces (s ++ [c]) = trimmedPieces s := by
  by_cases hline : c = '\n'
  · subst hline
    exact (trimmedPieces_append s []).trans (List.append_nil _)
  · induction hn : s.length using Nat.strongRecOn generalizing s with
    | _ n ih =>
      by_cases hmem : '\n' ∈ s
      · obtain ⟨u, v, rfl⟩ := List.append_of_mem hmem
        have hlength : v.length < n := by
          simp only [List.length_append, List.length_cons] at hn
          omega
        rw [List.append_assoc, List.cons_append, trimmedPieces_append, trimmedPieces_append,
          ih _ hlength v rfl]
      · have hnot : '\n' ∉ s ++ [c] := by simp [hmem, Ne.symm hline]
        rw [trimmedPieces, trimmedPieces, Layout.pieces_of_not_mem hnot,
          Layout.pieces_of_not_mem hmem, List.map_singleton, List.map_singleton,
          trim_concat_of_blank hc]

theorem trimmedPieces_trim (s : List Char) : trimmedPieces (trim s) = trimmedPieces s :=
  apply_trim trimmedPieces_cons_of_blank trimmedPieces_concat_of_blank s

-- A carriage return at the end of a line is blank, and so is what follows the last line feed if it
-- is no line.
theorem trimmedPieces_eq_lines (s : List Char) :
    ((lines s).map trim).filter (· ≠ []) = trimmedPieces s := by
  have hgo (ps : List (List Char)) :
      ((lines.go ps).map trim).filter (· ≠ []) = (ps.map trim).filter (· ≠ []) := by
    induction ps with
    | nil => rfl
    | cons p ps ih =>
      cases ps with
      | nil =>
        rw [lines.go]
        split
        · rename_i hp
          rw [hp]
          rfl
        · rfl
      | cons q ps =>
        have hlines : lines.go (p :: q :: ps) = chomp p :: lines.go (q :: ps) := by
          rw [lines.go]
          simp
        rw [hlines, List.map_cons, List.filter_cons, ih, trim_chomp,
          List.map_cons (l := q :: ps), List.filter_cons]
  exact hgo (pieces s)

end TypedMarkup.Text

namespace TypedMarkup

open Text

theorem proseChars_eq (s : List Char) : proseChars s = trimmedPieces s := by
  rw [proseChars, trimmedPieces_eq_lines, trimmedPieces_trim]

end TypedMarkup
