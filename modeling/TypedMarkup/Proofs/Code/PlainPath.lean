import TypedMarkup.Proofs.Grammar.Path

namespace TypedMarkup.Code

open Text Token Reader

def isSegmentName (w : String) : Bool :=
  isName w.toList && (!keywords.contains w || ["self", "super", "crate"].contains w)

def plainPath (rooted : Bool) (names : List String) : String :=
  (if rooted then "::" else "") ++ "::".intercalate names

namespace PlainPath

def later (names : List String) : List Char :=
  names.flatMap fun w => ':' :: ':' :: w.toList

def laterTokens (names : List String) : List Token :=
  Grammar.laterTokens (names.map .word)

theorem intercalate_eq (w : String) (names : List String) :
    ("::".intercalate (w :: names)).toList = w.toList ++ later names := by
  induction names generalizing w with
  | nil => simp [later]
  | cons v names ih =>
    rw [String.intercalate_cons_cons, String.toList_append, String.toList_append, ih]
    simp [later]

theorem apart_later (names : List String) : Apart (later names) := by
  cases names with
  | nil => intro c hc; simp [later] at hc
  | cons w names =>
    exact apart_cons (by decide) _

theorem not_isMark_of_isName {w : List Char} (hw : isName w) (rest : List Char) :
    isMark (w ++ rest) = false := by
  cases w with
  | nil => simp [isName] at hw
  | cons c s =>
    have hc : !marks.contains c :=
      of_isNamePart (p := fun c => !marks.contains c) (by decide)
        (isNamePart_of_isName hw List.mem_cons_self)
    rw [isMark, List.cons_append, List.head?_cons, Option.any_some]
    simp only [Bool.not_eq_true'] at hc
    rw [hc, Bool.and_false]

theorem scans_colons {s : List Char} (h : isMark s = false) :
    Scans (':' :: ':' :: s) [.mark ':' true, .mark ':' false] s := by
  have hfirst := Scans.mark (by decide : ':' ∈ plainMarks) (':' :: s)
  have hsecond := Scans.mark (by decide : ':' ∈ plainMarks) s
  rw [h] at hsecond
  exact hfirst.trans hsecond

theorem scans_word {w : String} (hw : isName w.toList) {rest : List Char} (hr : Apart rest) :
    Scans (w.toList ++ rest) [.word w] rest := by
  have h := Scans.name hw hr
  rwa [String.ofList_toList] at h

theorem scans_later {names : List String} (h : ∀ w ∈ names, isName w.toList) :
    Scans (later names) (laterTokens names) [] := by
  induction names with
  | nil => exact .refl []
  | cons w names ih =>
    rw [List.forall_mem_cons] at h
    have hword := (scans_colons (not_isMark_of_isName h.1 (later names))).trans
      ((scans_word h.1 (apart_later names)).trans (ih h.2))
    simpa [later, laterTokens, Grammar.laterTokens] using hword

def plainSegment (w : String) : Segment :=
  ⟨w, .none⟩

theorem isSegment_of_isSegmentName {w : String} (h : isSegmentName w) :
    Token.isSegment (.word w) := by
  rw [isSegmentName, Bool.and_eq_true, Bool.or_eq_true] at h
  refine Bool.or_eq_true_iff.mpr (h.2.imp_right fun hw => ?_)
  simp only [List.contains_iff_mem] at hw ⊢
  exact List.mem_cons.mpr ((List.mem_cons.mp hw).imp_right (List.mem_cons_of_mem "Self"))

theorem path_later {w : String} {names : List String} (hw : isSegmentName w)
    (h : ∀ v ∈ names, isSegmentName v) (read : Grammar.Parts) (rooted : Bool) :
    Takes (Grammar.path read false) (Grammar.rootTokens rooted ++ .word w :: laterTokens names)
      ⟨rooted, plainSegment w, names.map plainSegment⟩ [] := by
  have hsegments : ∀ t ∈ names.map Token.word, t.isSegment := by
    rw [List.forall_mem_map]
    exact fun v hv => isSegment_of_isSegmentName (h v hv)
  have hend : Grammar.EndsPath [] := ⟨rfl, rfl⟩
  have hpath : Takes (Grammar.path read false) _ _ [] :=
    Grammar.takes_path (isSegment_of_isSegmentName hw) hsegments hend rooted
  rwa [List.append_nil, List.map_map] at hpath

theorem isName_of_isSegmentName {w : String} (h : isSegmentName w) : isName w.toList := by
  rw [isSegmentName, Bool.and_eq_true] at h
  exact h.1

theorem ofChars_plainPath {w : String} {names : List String} (hw : isSegmentName w)
    (h : ∀ v ∈ names, isSegmentName v) (rooted : Bool) :
    Token.ofChars (plainPath rooted (w :: names)).toList =
      some (Grammar.rootTokens rooted ++ .word w :: laterTokens names) := by
  have hname := isName_of_isSegmentName hw
  have hwords := (scans_word hname (apart_later names)).trans
    (scans_later fun v hv => isName_of_isSegmentName (h v hv))
  rw [plainPath, String.toList_append, intercalate_eq]
  cases rooted with
  | false =>
    refine Scans.ofChars hwords ?_
    cases hs : w.toList with
    | nil => simp [hs, isName] at hname
    | cons c s =>
      rw [hs, isName, Bool.and_eq_true] at hname
      have hc := lt_of_isNamePart (isNamePart_of_isNameStart hname.1)
      simp only [Bool.false_eq_true, if_false, String.toList_empty, List.nil_append,
        List.cons_append, List.head?_cons, ne_eq, Option.some.injEq]
      rintro rfl
      exact absurd hc (by decide)
  | true =>
    have hcolons := scans_colons (not_isMark_of_isName hname (later names))
    exact Scans.ofChars (hcolons.trans hwords) (by simp)

theorem parse_plainPath {w : String} {names : List String} (hw : isSegmentName w)
    (h : ∀ v ∈ names, isSegmentName v) (rooted : Bool) :
    ModulePath.parse (plainPath rooted (w :: names)) =
      .ok ⟨rooted, plainSegment w, names.map plainSegment⟩ := by
  rw [ModulePath.parse, ofChars_plainPath hw h rooted]
  exact ModulePath.run_eq_ok.mpr (path_later hw h _ rooted none)

theorem importFault?_names {w : String} {names : List String} (hw : isSegmentName w)
    (h : ∀ v ∈ names, isSegmentName v) (rooted : Bool) :
    ModulePath.importFault? ⟨rooted, plainSegment w, names.map plainSegment⟩ = none := by
  rw [ModulePath.importFault?, List.findSome?_eq_none_iff]
  intro s hs
  obtain ⟨v, hv, rfl⟩ : ∃ v ∈ w :: names, plainSegment v = s := List.mem_map.mp hs
  have hnames : ∀ x ∈ w :: names, isSegmentName x := List.forall_mem_cons.mpr ⟨hw, h⟩
  have hnotSelf : v ≠ "Self" := by
    rintro rfl
    exact absurd (hnames "Self" hv) (by decide)
  rw [plainSegment, Segment.importFault?, if_neg hnotSelf]

theorem text_names (rooted : Bool) (w : String) (names : List String) :
    ModulePath.text ⟨rooted, plainSegment w, names.map plainSegment⟩ =
      plainPath rooted (w :: names) := by
  have hwords : (names.map plainSegment).map Segment.word = names := by
    rw [List.map_map]
    exact List.map_id names
  simp [ModulePath.text, ModulePath.segments, plainPath, hwords, plainSegment]

end PlainPath

end TypedMarkup.Code
