import TypedMarkup.Code.Type
import TypedMarkup.Text.Blank

namespace TypedMarkup

namespace Layout

def Doc.all (p : String → Bool) : Doc → Bool
  | .word s => p s
  | .gap .. => true
  | .cat a b => a.all p && b.all p
  | .box _ _ d => d.all p

namespace Doc

variable {p : String → Bool}

@[simp] theorem all_word (s : String) : (word s).all p = p s := rfl

@[simp] theorem all_gap (n : Nat) (k : Int) (c : Bool) : (gap n k c).all p = true := rfl

@[simp] theorem all_append (a b : Doc) : (a ++ b).all p = (a.all p && b.all p) := rfl

@[simp] theorem all_box (f : Fill) (k : Int) (d : Doc) : (box f k d).all p = d.all p := rfl

end Doc

structure Kept (p : String → Bool) (Q : String → Prop) : Prop where
  empty : Q ""
  word {s w : String} : Q s → p w → Q (s ++ w)
  blank {s : String} (n : Nat) : Q s → Q (s ++ spaces n)
  comma {s : String} : Q s → Q (s ++ ",")

def Pen.all (Q : String → Prop) (p : Pen) : Prop :=
  ∀ l ∈ p.line :: p.done, Q l.text

section

variable {p : String → Bool} {Q : String → Prop} {q : Pen}

theorem Pen.all_blank (hQ : Kept p Q) (h : q.all Q) (n : Nat) : (q.blank n).all Q := by
  unfold blank
  split
  · exact h
  · simp only [Pen.all, Pen.write, List.forall_mem_cons] at h ⊢
    exact ⟨hQ.blank n h.1, h.2⟩

theorem Pen.all_turn (hQ : Kept p Q) (h : q.all Q) (k : Int) (comma : Bool) :
    (q.turn k comma).all Q := by
  simp only [Pen.all, Pen.turn, List.forall_mem_cons] at h ⊢
  refine ⟨hQ.empty, ?_, h.2⟩
  cases comma with
  | false => exact h.1
  | true => exact hQ.comma h.1

theorem Doc.all_layout (hQ : Kept p Q) {d : Doc} (hd : d.all p) (f : Frame) (after : Nat)
    (h : q.all Q) : (d.layout f after q).all Q := by
  induction d generalizing f after q with
  | word s =>
    simp only [Pen.all, Doc.layout, Pen.write, List.forall_mem_cons] at h ⊢
    exact ⟨hQ.word h.1 hd, h.2⟩
  | gap n k comma =>
    unfold Doc.layout
    split
    · exact Pen.all_blank hQ h n
    · exact Pen.all_turn hQ h _ comma
    · split
      · exact Pen.all_blank hQ h n
      · exact Pen.all_turn hQ h _ comma
  | cat a b iha ihb =>
    simp only [Doc.all, Bool.and_eq_true] at hd
    exact ihb hd.2 f after (iha hd.1 f _ h)
  | box fill k d ih => exact ih hd _ after h

theorem Doc.all_lines (hQ : Kept p Q) {d : Doc} (hd : d.all p) (start indent : Nat) :
    ∀ l ∈ d.lines start indent, Q l.text := by
  have hstart : (Pen.start start).all Q := by
    simp [Pen.all, Pen.start, hQ.empty]
  intro l hl
  rw [Doc.lines, Pen.lines, List.mem_reverse] at hl
  exact Doc.all_layout hQ hd _ _ hstart l hl

end

def unbroken (s : String) : Bool :=
  !s.toList.contains '\n' && !s.toList.contains '\r'

theorem unbroken_iff {s : String} : unbroken s ↔ '\n' ∉ s.toList ∧ '\r' ∉ s.toList := by
  simp [unbroken]

@[simp] theorem unbroken_append (s t : String) :
    unbroken (s ++ t) = (unbroken s && unbroken t) := by
  rw [Bool.eq_iff_iff, Bool.and_eq_true, unbroken_iff, unbroken_iff, unbroken_iff]
  simp only [String.toList_append, List.mem_append, not_or]
  exact and_and_and_comm

theorem unbroken_of_forall {s : String} (h : ∀ c ∈ s.toList, c ≠ '\n' ∧ c ≠ '\r') :
    unbroken s :=
  unbroken_iff.mpr ⟨fun hc => (h _ hc).1 rfl, fun hc => (h _ hc).2 rfl⟩

theorem unbroken_spaces (n : Nat) : unbroken (spaces n) := by
  refine unbroken_of_forall fun c hc => ?_
  rw [spaces, String.toList_ofList, List.mem_replicate] at hc
  rw [hc.2]
  decide

theorem pieces_of_not_mem {s : List Char} (h : '\n' ∉ s) : Text.pieces s = [s] := by
  induction s with
  | nil => rfl
  | cons c s ih =>
    simp only [List.mem_cons, not_or] at h
    simp [Text.pieces, Ne.symm h.1, ih h.2]

theorem pieces_append (s t : List Char) :
    Text.pieces (s ++ '\n' :: t) = Text.pieces s ++ Text.pieces t := by
  induction s with
  | nil => simp [Text.pieces]
  | cons c s ih =>
    by_cases hc : c = '\n'
    · simp [Text.pieces, hc, ih]
    · have hs := Text.pieces_ne_nil s
      simp only [List.cons_append, Text.pieces, hc, if_false, ih]
      cases hp : Text.pieces s with
      | nil => exact absurd hp hs
      | cons p ps => rfl

theorem textOf_cons (l : Line) (ls : List Line) : textOf (l :: ls) = l.show ++ textOf ls := by
  -- The fold starts with a text of its own, which goes in front of all.
  have hfold : ∀ (ls : List Line) (s : String),
      ls.foldl (fun acc l => acc ++ l.show) s = s ++ textOf ls := by
    intro ls
    induction ls with
    | nil => simp [textOf]
    | cons l ls ih =>
      intro s
      rw [textOf, List.foldl_cons, List.foldl_cons, ih, ih, String.append_assoc]
      simp
  rw [textOf, List.foldl_cons, hfold]
  simp

theorem kept_unbroken : Kept unbroken (unbroken ·) where
  empty := by decide
  word hs hw := by rw [unbroken_append, hs, hw, Bool.and_self]
  blank n hs := by rw [unbroken_append, hs, unbroken_spaces, Bool.and_self]
  comma hs := by
    rw [unbroken_append, hs]
    decide

def Line.chars (l : Line) : List Char :=
  List.replicate l.indent ' ' ++ l.text.toList

theorem pieces_textOf {ls : List Line} (h : ∀ l ∈ ls, '\n' ∉ l.text.toList) :
    Text.pieces (textOf ls).toList = ls.map Line.chars ++ [[]] := by
  induction ls with
  | nil => rfl
  | cons l ls ih =>
    rw [List.forall_mem_cons] at h
    have hl : '\n' ∉ l.chars := by
      simp [Line.chars, h.1]
    have hs : l.show.toList = l.chars ++ ['\n'] := by
      simp [Line.show, Line.chars, spaces]
    rw [textOf_cons, String.toList_append, hs, List.append_assoc, List.singleton_append,
      pieces_append, pieces_of_not_mem hl, ih h.2]
    rfl

end Layout

end TypedMarkup
