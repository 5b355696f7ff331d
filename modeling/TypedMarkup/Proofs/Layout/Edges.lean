import TypedMarkup.Proofs.Layout.Written

namespace TypedMarkup.Layout

def lacks (c : Char) (s : String) : Bool :=
  !s.toList.contains c

theorem lacks_iff {c : Char} {s : String} : lacks c s ↔ c ∉ s.toList := by
  simp [lacks]

@[simp] theorem lacks_append (c : Char) (s t : String) :
    lacks c (s ++ t) = (lacks c s && lacks c t) := by
  simp [lacks]

theorem lacks_around {c : Char} {left name right : String} (hmarks : lacks c (left ++ right))
    (hname : lacks c name) : lacks c (left ++ name ++ right) := by
  rw [lacks_append, Bool.and_eq_true] at hmarks
  rw [lacks_append, lacks_append, hmarks.1, hname, hmarks.2]
  rfl

theorem kept_lacks {c : Char} (hspace : c ≠ ' ') (hcomma : c ≠ ',') :
    Kept (lacks c) (fun s => c ∉ s.toList) where
  empty := by simp
  word hs hw := by simpa [hs] using lacks_iff.mp hw
  blank n hs := by simp [hs, spaces, hspace]
  comma hs := by simp [hs, hcomma]

theorem kept_head {c : Char} (hspace : c ≠ ' ') (hcomma : c ≠ ',') :
    Kept (fun s => s.toList.head? != some c) (fun s => s.toList.head? ≠ some c) where
  empty := by simp
  word {s w} hs hw := by
    rw [bne_iff_ne] at hw
    cases ht : s.toList with
    | nil => simpa [ht] using hw
    | cons d t => simpa [ht] using hs
  blank {s} n hs := by
    cases ht : s.toList with
    | nil => cases n <;> simp [ht, spaces, List.replicate_succ, Ne.symm hspace]
    | cons d t => simpa [ht] using hs
  comma {s} hs := by
    cases ht : s.toList with
    | nil => simp [ht, Ne.symm hcomma]
    | cons d t => simpa [ht] using hs

theorem prefix_of_prefix_append {u s t : List Char} (h : u <+: s ++ '\n' :: t) (hu : '\n' ∉ u) :
    u <+: s := by
  rcases List.prefix_or_prefix_of_prefix h (List.prefix_append s _) with hus | ⟨v, rfl⟩
  · exact hus
  · cases v with
    | nil => simp
    | cons c v =>
      obtain ⟨w, hw⟩ := h
      have hc : c = '\n' := by
        simp only [List.append_assoc, List.cons_append, List.append_cancel_left_eq,
          List.cons.injEq] at hw
        exact hw.1
      simp [hc] at hu

def Starts (w : List Char) (ls : List Line) : Prop :=
  ∃ l ls', ls = l :: ls' ∧ w <+: l.chars

theorem Starts.append {w : List Char} {ls : List Line} (h : Starts w ls) (ms : List Line) :
    Starts w (ls ++ ms) := by
  obtain ⟨l, ls', rfl, hl⟩ := h
  exact ⟨l, ls' ++ ms, rfl, hl⟩

namespace Doc

theorem starts_lines {d : Doc} {w : List Char} (h : ∀ s, d.Written s → w <+: s) (hw : '\n' ∉ w)
    (start indent : Nat) :
    Starts (List.replicate start ' ' ++ w) (d.lines start indent) := by
  obtain ⟨s, hs, htext⟩ := d.written_lines start indent
  obtain ⟨t, rfl⟩ := h s hs
  rw [toList_textOf] at htext
  cases hlines : d.lines start indent with
  | nil => simp [hlines] at htext
  | cons l ls =>
    refine ⟨l, ls, rfl, prefix_of_prefix_append (t := ls.flatMap Line.ended) ?_ ?_⟩
    · have hchars : l.chars ++ '\n' :: ls.flatMap Line.ended =
          List.replicate start ' ' ++ w ++ (t ++ ['\n']) := by
        rw [hlines, List.flatMap_cons] at htext
        simpa [Line.ended] using htext
      rw [hchars]
      exact List.prefix_append _ _
    · simp [hw]

theorem prefix_of_written_append {a b : Doc} {w : List Char} (h : ∀ s, a.Written s → w <+: s) :
    ∀ s, (a ++ b).Written s → w <+: s := by
  intro s hs
  obtain ⟨u, v, hu, -, rfl⟩ := written_append.mp hs
  exact (h u hu).trans (List.prefix_append u v)

theorem prefix_of_written_word {w s : List Char} {v : String} (h : w <+: v.toList)
    (hs : (Doc.word v).Written s) : w <+: s := by
  rwa [written_word.mp hs]

theorem last_line_layout {p : String → Bool} {Q : String → Prop} (hQ : Kept p Q) {d : Doc}
    (hd : d.all p) (z : String) (f : Frame) (after start : Nat) :
    ∃ ls i s, ((d ++ word z).layout f after (.start start)).lines = ls ++ [⟨i, s ++ z⟩] ∧
      ∀ l ∈ ls, Q l.text := by
  have hstart : (Pen.start start).all Q := by
    simp [Pen.all, Pen.start, hQ.empty]
  have hall := all_layout hQ hd f ((word z).lead after) hstart
  rw [Pen.all, List.forall_mem_cons] at hall
  let q := d.layout f ((word z).lead after) (.start start)
  refine ⟨q.done.reverse, q.line.indent, q.line.text, ?_, fun l hl => ?_⟩
  · have hlayout : (d ++ word z).layout f after (.start start) = q.write z := rfl
    rw [hlayout, Pen.lines, List.reverse_cons]
    rfl
  · exact hall.2 l (List.mem_reverse.mp hl)

end Doc

end TypedMarkup.Layout
