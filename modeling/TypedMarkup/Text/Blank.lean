import TypedMarkup.Text.Ranges

namespace TypedMarkup.Text

def blanks : Ranges :=
  [(0x9, 0xd), (0x20, 0x20), (0x85, 0x85), (0xa0, 0xa0), (0x1680, 0x1680), (0x2000, 0x200a),
   (0x2028, 0x2029), (0x202f, 0x202f), (0x205f, 0x205f), (0x3000, 0x3000)]

def isBlank (c : Char) : Bool :=
  blanks.has c

def trimStart (s : List Char) : List Char :=
  s.dropWhile isBlank

def trimEnd (s : List Char) : List Char :=
  (s.reverse.dropWhile isBlank).reverse

def trim (s : List Char) : List Char :=
  trimEnd (trimStart s)

def pieces : List Char → List (List Char)
  | [] => [[]]
  | c :: s =>
    if c = '\n' then [] :: pieces s
    else match pieces s with
      | [] => [[c]]
      | p :: ps => (c :: p) :: ps

def chomp (s : List Char) : List Char :=
  match s.reverse with
  | '\r' :: r => r.reverse
  | _ => s

-- The lines of a text: each line feed ends one, and what follows the last of them is a line only
-- where it is not empty. A carriage return before a line feed belongs to the line end.
def lines (s : List Char) : List (List Char) :=
  go (pieces s)
where
  go : List (List Char) → List (List Char)
    | [] => []
    | [p] => if p = [] then [] else [p]
    | p :: ps => chomp p :: go ps

theorem pieces_ne_nil (s : List Char) : pieces s ≠ [] := by
  cases s with
  | nil => simp [pieces]
  | cons c s =>
    by_cases h : c = '\n'
    · simp [pieces, h]
    · simp only [pieces, h, if_false]
      cases pieces s <;> simp

theorem not_mem_of_mem_pieces {s p : List Char} (h : p ∈ pieces s) : '\n' ∉ p := by
  induction s generalizing p with
  | nil => simp_all [pieces]
  | cons c s ih =>
    by_cases hc : c = '\n'
    · simp only [pieces, hc, if_true, List.mem_cons] at h
      rcases h with rfl | h
      · simp
      · exact ih h
    · simp only [pieces, hc, if_false] at h
      cases hs : pieces s with
      | nil => exact absurd hs (pieces_ne_nil s)
      | cons q qs =>
        rw [hs] at h
        simp only [List.mem_cons] at h
        rcases h with rfl | h
        · have := ih (p := q) (by simp [hs])
          simp [this, Ne.symm hc]
        · exact ih (by simp [hs, h])

end TypedMarkup.Text
