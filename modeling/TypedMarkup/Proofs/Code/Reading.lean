import TypedMarkup.Code.Type
import TypedMarkup.Proofs.Code.Spelling
import TypedMarkup.Proofs.Layout.Written

namespace TypedMarkup.Code

open Text Token Layout

def Scans (s : List Char) (ts : List Token) (rest : List Char) : Prop :=
  ∃ k, k + rest.length ≤ s.length ∧
    ∀ n above before, scan (n + k) above before s = scan n above (ts.reverse ++ before) rest

namespace Scans

theorem refl (s : List Char) : Scans s [] s :=
  ⟨0, by simp, fun _ _ _ => rfl⟩

theorem trans {s t u : List Char} {ts us : List Token} (h : Scans s ts t) (h' : Scans t us u) :
    Scans s (ts ++ us) u := by
  obtain ⟨k, hk, hs⟩ := h
  obtain ⟨l, hl, ht⟩ := h'
  refine ⟨l + k, by omega, fun n above before => ?_⟩
  rw [← Nat.add_assoc, hs, ht, List.reverse_append, List.append_assoc]

theorem of_leaf {c : Char} {s rest : List Char} {t : Token} (hc : startsLeaf c)
    (hleaf : leaf (c :: s) = some (t, rest)) (hlength : rest.length ≤ s.length) :
    Scans (c :: s) [t] rest := by
  refine ⟨1, by simpa [Nat.add_comm] using hlength, fun n above before => ?_⟩
  rw [scan_leaf n above before hc, hleaf]
  rfl

theorem space {c : Char} (hc : isSpace c) (s : List Char) : Scans (c :: s) [] s := by
  refine ⟨1, by simp [Nat.add_comm], fun n above before => ?_⟩
  rw [scan_space n above before hc]
  rfl

theorem blanks (n : Nat) (s : List Char) : Scans (List.replicate n ' ' ++ s) [] s := by
  induction n with
  | zero => exact refl s
  | succ n ih => exact (space (by decide) _).trans ih

theorem line (n : Nat) (s : List Char) : Scans ('\n' :: List.replicate n ' ' ++ s) [] s :=
  (space (by decide) _).trans (blanks n s)

theorem lineOf_append {w : List Char} (hline : '\n' ∉ w) (hreturn : '\r' ∉ w)
    (rest : List Char) : lineOf (w ++ '\n' :: rest) = (w, '\n' :: rest) := by
  induction w with
  | nil => rfl
  | cons c w ih =>
    rw [List.mem_cons, not_or] at hline hreturn
    rw [List.cons_append, lineOf, ih hline.2 hreturn.2]
    · exact fun h => hline.1 h.symm
    · exact fun s h _ => hreturn.1 h.symm

theorem comment {w : String} (h : unbroken w) (rest : List Char) :
    Scans ('/' :: '/' :: ' ' :: (w.toList ++ '\n' :: rest)) [] ('\n' :: rest) := by
  obtain ⟨hline, hreturn⟩ := unbroken_iff.mp h
  have hcomment : Token.comment ('/' :: '/' :: ' ' :: (w.toList ++ '\n' :: rest)) =
      some (.plain, ' ' :: w.toList, '\n' :: rest) := by
    rw [Token.comment, ← List.cons_append, lineOf_append (by simp [hline]) (by simp [hreturn])]
    rfl
  have hslash : isSpace '/' = false := by decide
  refine ⟨1, by simp; omega, fun n above before => ?_⟩
  cases above <;> simp [scan, hslash, hcomment, commentTokens]

theorem mark {c : Char} (hc : c ∈ plainMarks) (s : List Char) :
    Scans (c :: s) [.mark c (isMark s)] s :=
  of_leaf (startsLeaf_of_mem_plainMarks hc) (leaf_mark hc s) (by simp)

theorem name {w : List Char} (hw : isName w) {rest : List Char} (hr : Apart rest) :
    Scans (w ++ rest) [.word (String.ofList w)] rest := by
  have hleaf := leaf_name hw hr
  cases w with
  | nil => simp [isName] at hw
  | cons c s =>
    rw [isName, Bool.and_eq_true] at hw
    exact of_leaf (startsLeaf_of_isNamePart (isNamePart_of_isNameStart hw.1)) hleaf (by simp)

theorem raw {w : List Char} (hw : isName w)
    (hn : String.ofList w ∉ ["_", "super", "self", "Self", "crate"]) {rest : List Char}
    (hr : Apart rest) : Scans ('r' :: '#' :: (w ++ rest)) [.raw (String.ofList w)] rest :=
  of_leaf (by decide) (leaf_raw hw hn hr) (by simp; omega)

theorem zero {s : List Char} (h : Clear s) : Scans ('0' :: s) [.literal .integer "0"] s :=
  of_leaf (by decide) (leaf_zero h) (by simp)

theorem float {rest : List Char} (h : Apart rest) :
    Scans ("42.0".toList ++ rest) [.literal .float "42.0"] rest :=
  of_leaf (by decide) (leaf_of_take (take_float h)) (by simp; omega)

theorem integer {rest : List Char} (h : Apart rest) :
    Scans ("42_i64".toList ++ rest) [.literal .integer "42_i64"] rest :=
  of_leaf (by decide) (leaf_of_take (take_integer h)) (by simp; omega)

theorem literal (w : String) {rest : List Char} (hr : Apart rest) :
    Scans ((Text.literal w).toList ++ rest) [.literal .text (Text.literal w)] rest := by
  have hleaf := leaf_literal w hr
  have hchars : (Text.literal w).toList = '"' :: (Text.literal w).toList.tail := by
    simp [Text.literal]
  rw [hchars] at hleaf ⊢
  exact of_leaf (by decide) hleaf (by simp)

theorem group {o c : Char} {b : Bracket} (ho : openingOf o = some b) (hc : closingOf c = some b)
    {s rest : List Char} {ts : List Token} (hs : s.head? ≠ some '/')
    (h : Scans s ts (c :: rest)) : Scans (o :: s) [.group b ts] rest := by
  obtain ⟨k, hk, hscan⟩ := h
  refine ⟨k + 2, by simp only [List.length_cons] at hk ⊢; omega, fun n above before => ?_⟩
  have hinner := hscan (n + 1) ((b, before) :: above) []
  have hfuel : n + (k + 2) = n + 1 + k + 1 := by omega
  rw [hfuel, scan_opening _ _ _ ho hs, hinner, scan_closing _ _ _ hc]
  simp

theorem gap {n : Nat} {comma : Bool} {g : List Char} (h : GapText n comma g) (s : List Char) :
    Scans (g ++ s) [] s ∨ ∃ j, Scans (g ++ s) [.mark ',' j] s := by
  rcases h with rfl | ⟨k, rfl⟩
  · exact .inl (blanks n s)
  · cases comma with
    | false => exact .inl (line k s)
    | true => exact .inr ⟨_, (mark (by decide) _).trans (line k s)⟩

theorem ofChars {s : List Char} {ts : List Token} (h : Scans s ts [])
    (hs : s.head? ≠ some '\ufeff') : Token.ofChars s = some ts := by
  obtain ⟨k, hk, hscan⟩ := h
  have hfuel : s.length + 1 = (s.length - k) + 1 + k := by
    simp only [List.length_nil] at hk
    omega
  rw [Token.ofChars, beq_false_of_ne hs, if_neg Bool.false_ne_true, hfuel, hscan]
  simp [scan]

end Scans

def isComma : Token → Bool
  | .mark c _ => c == ','
  | _ => false

def closes : List Token → Bool
  | [] => true
  | .mark c _ :: _ => c == '>'
  | _ => false

theorem closes_append {es : List Token} (h : closes es = false) (fs : List Token) :
    closes (es ++ fs) = false := by
  cases es with
  | nil => simp [closes] at h
  | cons e es =>
    rw [← h]
    cases e <;> rfl

def settle (t : Token) (ts : List Token) : List Token :=
  if isComma t && closes ts then ts else t :: ts

mutual

def settled : Token → Token
  | .mark c _ => .mark c false
  | .group b ts => .group b (settledAll ts)
  | t => t

def settledAll : List Token → List Token
  | [] => []
  | t :: ts => settle (settled t) (settledAll ts)

end

def Settles (ts es : List Token) : Prop :=
  ∀ r, settledAll (ts ++ r) = es ++ settledAll r

theorem settles_nil : Settles [] [] :=
  fun _ => rfl

theorem Settles.append {ts es us fs : List Token} (h : Settles ts es) (h' : Settles us fs) :
    Settles (ts ++ us) (es ++ fs) := by
  intro r
  rw [List.append_assoc, h, h', List.append_assoc]

theorem Settles.eq {ts es : List Token} (h : Settles ts es) : settledAll ts = es := by
  have hr := h []
  simpa [settledAll] using hr

theorem settles_singleton {t : Token} (h : isComma (settled t) = false) :
    Settles [t] [settled t] := by
  intro r
  simp [settledAll, settle, h]

theorem Settles.comma {ts es : List Token} (h : Settles ts es) (hes : closes es = false)
    (j : Bool) : Settles (.mark ',' j :: ts) (.mark ',' false :: es) := by
  intro r
  rw [List.cons_append, settledAll, h r, settle, closes_append hes, Bool.and_false]
  rfl

def ReadsTo (s : List Char) (es : List Token) (rest : List Char) : Prop :=
  ∃ ts, Settles ts es ∧ Scans s ts rest

theorem Scans.readsTo {s rest : List Char} {ts es : List Token} (h : Scans s ts rest)
    (hts : Settles ts es) : ReadsTo s es rest :=
  ⟨ts, hts, h⟩

namespace ReadsTo

theorem refl (s : List Char) : ReadsTo s [] s :=
  (Scans.refl s).readsTo settles_nil

theorem trans {s t u : List Char} {es fs : List Token} (h : ReadsTo s es t) (h' : ReadsTo t fs u) :
    ReadsTo s (es ++ fs) u := by
  obtain ⟨ts, hts, hs⟩ := h
  obtain ⟨us, hus, ht⟩ := h'
  exact (hs.trans ht).readsTo (hts.append hus)

theorem mark {c : Char} (hc : c ∈ plainMarks) (hcomma : c ≠ ',') (s : List Char) :
    ReadsTo (c :: s) [.mark c false] s :=
  (Scans.mark hc s).readsTo (settles_singleton (beq_false_of_ne hcomma))

theorem comma {s rest : List Char} {es : List Token} (h : ReadsTo s es rest)
    (hes : closes es = false) : ReadsTo (',' :: s) (.mark ',' false :: es) rest := by
  obtain ⟨ts, hts, hs⟩ := h
  exact ((Scans.mark (by decide) s).trans hs).readsTo (hts.comma hes _)

theorem gap {n : Nat} {g : List Char} (h : GapText n false g) (s : List Char) :
    ReadsTo (g ++ s) [] s := by
  rcases h with rfl | ⟨k, rfl⟩
  · exact (Scans.blanks n s).readsTo settles_nil
  · exact (Scans.line k s).readsTo settles_nil

theorem group {o c : Char} {b : Bracket} (ho : openingOf o = some b) (hc : closingOf c = some b)
    {n : Nat} {comma : Bool} {s g rest : List Char} {es : List Token}
    (hs : s.head? ≠ some '/') (h : ReadsTo s es (g ++ c :: rest)) (hg : GapText n comma g) :
    ReadsTo (o :: s) [.group b es] rest := by
  obtain ⟨ts, hts, hscan⟩ := h
  obtain hgap | ⟨j, hgap⟩ := Scans.gap hg (c :: rest)
  · refine (Scans.group ho hc hs (hscan.trans hgap)).readsTo ?_
    have hinner : settledAll (ts ++ []) = es := by
      rw [List.append_nil, hts.eq]
    rw [← hinner]
    exact settles_singleton rfl
  · refine (Scans.group ho hc hs (hscan.trans hgap)).readsTo ?_
    have hinner : settledAll (ts ++ [.mark ',' j]) = es := by
      rw [hts]
      exact List.append_nil es
    rw [← hinner]
    exact settles_singleton rfl

theorem angle {n : Nat} {comma : Bool} {g : List Char} (hg : GapText n comma g) (s : List Char) :
    ReadsTo (g ++ '>' :: s) [.mark '>' false] s := by
  have hmark := Scans.mark (by decide : '>' ∈ plainMarks) s
  obtain hgap | ⟨j, hgap⟩ := Scans.gap hg ('>' :: s)
  · exact (hgap.trans hmark).readsTo (settles_singleton rfl)
  · exact (hgap.trans hmark).readsTo fun _ => rfl

end ReadsTo

def tokensOf (s : String) : Option (List Token) :=
  (Token.ofChars s.toList).map settledAll

theorem ReadsTo.tokensOf {s : String} {es : List Token} (h : ReadsTo s.toList es [])
    (hs : s.toList.head? ≠ some '\ufeff') : tokensOf s = some es := by
  obtain ⟨ts, hts, hscan⟩ := h
  rw [Code.tokensOf, hscan.ofChars hs, Option.map_some, hts.eq]

theorem Clear.of_head {c : Char} (hc : sticks c = false) (hpoint : c ≠ '.') (s : List Char) :
    Clear (c :: s) where
  apart := apart_cons hc s
  point _ ht := absurd (List.cons.inj ht).1 hpoint

theorem clear_nil : Clear [] where
  apart _ h := by simp at h
  point _ h := by simp at h

section

variable {n : Nat} {comma : Bool} {g : List Char}

theorem GapText.apart (h : GapText n comma g) {s : List Char} (hs : Apart s) : Apart (g ++ s) := by
  rcases h with rfl | ⟨k, rfl⟩
  · cases n with
    | zero => exact hs
    | succ n => exact apart_cons (by decide) _
  · cases comma
    · exact apart_cons (by decide) _
    · exact apart_cons (by decide) _

theorem GapText.clear (h : GapText n comma g) {s : List Char} (hs : Clear s) : Clear (g ++ s) := by
  rcases h with rfl | ⟨k, rfl⟩
  · cases n with
    | zero => exact hs
    | succ n => exact .of_head (by decide) (by decide) _
  · cases comma
    · exact .of_head (by decide) (by decide) _
    · exact .of_head (by decide) (by decide) _

theorem GapText.head_ne (h : GapText n comma g) {s : List Char} (hs : s.head? ≠ some '/') :
    (g ++ s).head? ≠ some '/' := by
  rcases h with rfl | ⟨k, rfl⟩
  · cases n with
    | zero => exact hs
    | succ n => simp [List.replicate_succ]
  · cases comma <;> simp

end

end TypedMarkup.Code
