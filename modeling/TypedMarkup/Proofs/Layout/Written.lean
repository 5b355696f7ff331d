import TypedMarkup.Proofs.Layout.Lines

namespace TypedMarkup.Layout

def GapText (n : Nat) (comma : Bool) (s : List Char) : Prop :=
  s = List.replicate n ' ' ∨
    ∃ k, s = (if comma then [','] else []) ++ '\n' :: List.replicate k ' '

def Doc.Written : Doc → List Char → Prop
  | .word w, s => s = w.toList
  | .gap n _ comma, s => GapText n comma s
  | .cat a b, s => ∃ u v, a.Written u ∧ b.Written v ∧ s = u ++ v
  | .box _ _ d, s => d.Written s

namespace Doc

variable {a b : Doc} {s : List Char}

theorem written_word {w : String} : (word w).Written s ↔ s = w.toList :=
  Iff.rfl

theorem written_append :
    (a ++ b).Written s ↔ ∃ u v, a.Written u ∧ b.Written v ∧ s = u ++ v :=
  Iff.rfl

theorem written_box {f : Fill} {k : Int} : (box f k a).Written s ↔ a.Written s :=
  Iff.rfl

def flat : Doc → List Char
  | word w => w.toList
  | gap n _ _ => List.replicate n ' '
  | cat a b => a.flat ++ b.flat
  | box _ _ d => d.flat

@[simp] theorem flat_word (w : String) : (word w).flat = w.toList := rfl

@[simp] theorem flat_gap (n : Nat) (k : Int) (c : Bool) :
    (gap n k c).flat = List.replicate n ' ' := rfl

@[simp] theorem flat_append (a b : Doc) : (a ++ b).flat = a.flat ++ b.flat := rfl

@[simp] theorem flat_box (f : Fill) (k : Int) (d : Doc) : (box f k d).flat = d.flat := rfl

theorem written_flat (d : Doc) : d.Written d.flat := by
  induction d with
  | word w => rfl
  | gap n k comma => exact .inl rfl
  | cat a b iha ihb => exact ⟨a.flat, b.flat, iha, ihb, rfl⟩
  | box f k d ih => exact ih

end Doc

def Line.ended (l : Line) : List Char :=
  l.chars ++ ['\n']

theorem toList_textOf (ls : List Line) : (textOf ls).toList = ls.flatMap Line.ended := by
  induction ls with
  | nil => rfl
  | cons l ls ih =>
    rw [textOf_cons, String.toList_append, ih, List.flatMap_cons]
    simp [Line.show, Line.ended, Line.chars, spaces]

theorem textOf_append (ls ms : List Line) : textOf (ls ++ ms) = textOf ls ++ textOf ms := by
  rw [← String.toList_inj, String.toList_append]
  simp only [toList_textOf, List.flatMap_append]

namespace Pen

def chars (p : Pen) : List Char :=
  p.done.reverse.flatMap Line.ended ++ p.line.chars

theorem chars_write (p : Pen) (s : String) : (p.write s).chars = p.chars ++ s.toList := by
  simp [chars, write, Line.chars]

theorem chars_blank (p : Pen) (n : Nat) : (p.blank n).chars = p.chars ++ List.replicate n ' ' := by
  unfold blank
  split
  · rename_i h
    simp [h]
  · rw [chars_write, spaces, String.toList_ofList]

theorem chars_turn (p : Pen) (k : Int) (comma : Bool) :
    (p.turn k comma).chars =
      p.chars ++ ((if comma then [','] else []) ++ '\n' :: List.replicate k.toNat ' ') := by
  cases comma <;> simp [chars, turn, Line.ended, Line.chars]

theorem gapText_blank (p : Pen) (n : Nat) (comma : Bool) :
    ∃ s, GapText n comma s ∧ (p.blank n).chars = p.chars ++ s :=
  ⟨_, .inl rfl, p.chars_blank n⟩

theorem gapText_turn (p : Pen) (n : Nat) (k : Int) (comma : Bool) :
    ∃ s, GapText n comma s ∧ (p.turn k comma).chars = p.chars ++ s :=
  ⟨_, .inr ⟨_, rfl⟩, p.chars_turn k comma⟩

end Pen

theorem Doc.written_layout (d : Doc) (f : Frame) (after : Nat) (p : Pen) :
    ∃ s, d.Written s ∧ (d.layout f after p).chars = p.chars ++ s := by
  induction d generalizing f after p with
  | word w => exact ⟨w.toList, rfl, p.chars_write w⟩
  | gap n k comma =>
    unfold layout
    split
    · exact p.gapText_blank n comma
    · exact p.gapText_turn n _ comma
    · split
      · exact p.gapText_blank n comma
      · exact p.gapText_turn n _ comma
  | cat a b iha ihb =>
    obtain ⟨u, hu, hp⟩ := iha f (b.lead after) p
    obtain ⟨v, hv, hq⟩ := ihb f after (a.layout f (b.lead after) p)
    refine ⟨u ++ v, ⟨u, v, hu, hv, rfl⟩, ?_⟩
    rw [layout, hq, hp, List.append_assoc]
  | box fill k d ih =>
    rw [layout]
    exact ih _ after p

theorem Doc.written_lines (d : Doc) (start indent : Nat) :
    ∃ s, d.Written s ∧
      (textOf (d.lines start indent)).toList = List.replicate start ' ' ++ s ++ ['\n'] := by
  obtain ⟨s, hs, hp⟩ := d.written_layout ⟨indent, some .consistent⟩ 0 (.start start)
  have hstart : (Pen.start start).chars = List.replicate start ' ' := by
    simp [Pen.chars, Pen.start, Line.chars]
  have hlines (p : Pen) : p.lines.flatMap Line.ended = p.chars ++ ['\n'] := by
    simp [Pen.lines, Pen.chars, Line.ended]
  refine ⟨s, hs, ?_⟩
  rw [toList_textOf, Doc.lines, hlines, hp, hstart]

end TypedMarkup.Layout
