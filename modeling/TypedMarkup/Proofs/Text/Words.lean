import TypedMarkup.Proofs.Text.Trimmed

namespace TypedMarkup.Text

def words (s : List Char) : List (List Char) :=
  (s.splitOnP isBlank).filter (· ≠ [])

theorem words_append {c : Char} (hc : isBlank c) (s t : List Char) :
    words (s ++ c :: t) = words s ++ words t := by
  rw [words, List.splitOnP_append_cons s t hc, List.filter_append]
  rfl

theorem words_nil : words [] = [] := by
  rw [words, List.splitOnP_nil]
  rfl

theorem words_cons_of_blank {c : Char} (hc : isBlank c) (s : List Char) :
    words (c :: s) = words s := by
  have h := words_append hc [] s
  rwa [words_nil] at h

theorem words_concat_of_blank {c : Char} (hc : isBlank c) (s : List Char) :
    words (s ++ [c]) = words s := by
  rw [words_append hc, words_nil, List.append_nil]

theorem words_trim (s : List Char) : words (trim s) = words s :=
  apply_trim words_cons_of_blank words_concat_of_blank s

theorem trim_of_words {s : List Char} (h : words s = []) : trim s = [] := by
  induction s with
  | nil => rfl
  | cons c s ih =>
    by_cases hc : isBlank c
    · rw [words_cons_of_blank hc] at h
      rw [trim_cons_of_blank hc, ih h]
    · -- A first character that is not blank is in the first word.
      obtain ⟨p, ps, hp⟩ := List.exists_cons_of_ne_nil (List.splitOnP_ne_nil isBlank s)
      rw [words, List.splitOnP_cons_eq_if_modifyHead, if_neg hc, hp] at h
      simp at h

-- By induction on the length: a line feed stands between words.
theorem words_trimmedPieces (s : List Char) : (trimmedPieces s).flatMap words = words s := by
  induction hn : s.length using Nat.strongRecOn generalizing s with
  | _ n ih =>
    by_cases hmem : '\n' ∈ s
    · obtain ⟨u, v, rfl⟩ := List.append_of_mem hmem
      simp only [List.length_append, List.length_cons] at hn
      rw [trimmedPieces_append, List.flatMap_append, words_append (by decide),
        ih _ (by omega) u rfl, ih _ (by omega) v rfl]
    · rw [trimmedPieces, Layout.pieces_of_not_mem hmem, List.map_singleton, ← words_trim s]
      by_cases htrim : trim s = []
      · rw [htrim, words_nil]
        rfl
      · simp [htrim]

end TypedMarkup.Text

namespace TypedMarkup

open Text

theorem words_proseChars (s : List Char) : (proseChars s).flatMap words = words s := by
  rw [proseChars_eq, words_trimmedPieces]

theorem trim_of_mem_proseChars {s l : List Char} (h : l ∈ proseChars s) : l ≠ [] ∧ trim l = l := by
  rw [proseChars_eq, trimmedPieces, List.mem_filter, decide_eq_true_iff, List.mem_map] at h
  obtain ⟨⟨p, -, rfl⟩, hne⟩ := h
  exact ⟨hne, trim_trim p⟩

theorem words_trimmed (doc : String) : words (trimmed doc).toList = words doc.toList := by
  rw [trimmed, String.toList_ofList, words_trim]

theorem words_describe (name doc : String) :
    words (describe name doc).toList = words name.toList ++ words doc.toList := by
  have hdoc := words_trimmed doc
  simp only [describe]
  split
  · rename_i h
    rw [h] at hdoc
    rw [← hdoc]
    exact (List.append_nil _).symm
  · have hchars : (name ++ " " ++ trimmed doc).toList =
        name.toList ++ ' ' :: (trimmed doc).toList := by
      simp
    rw [hchars, words_append (by decide), hdoc]

end TypedMarkup
