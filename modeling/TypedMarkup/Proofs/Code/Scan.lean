import TypedMarkup.Code.Token
import Mathlib.Data.Bool.AllAny

namespace TypedMarkup.Code

open Text Token

def isNameStart (c : Char) : Bool :=
  c.isAlpha || c == '_'

def isNamePart (c : Char) : Bool :=
  c.isAlphanum || c == '_'

def isName : List Char → Bool
  | [] => false
  | c :: s => isNameStart c && s.all isNamePart

def sticks (c : Char) : Bool :=
  isWordStart c || isWordPart c || c == '"' || c == '\'' || c == '#'

def Apart (s : List Char) : Prop :=
  ∀ c ∈ s.head?, sticks c = false

theorem apart_cons {c : Char} (h : sticks c = false) (s : List Char) : Apart (c :: s) := by
  intro d hd
  obtain rfl : c = d := by simpa using hd
  exact h

theorem isAlphanum_iff {c : Char} : c.isAlphanum ↔ 48 ≤ c.toNat ∧ c.toNat ≤ 57 ∨
    65 ≤ c.toNat ∧ c.toNat ≤ 90 ∨ 97 ≤ c.toNat ∧ c.toNat ≤ 122 := by
  delta Char.isAlphanum Char.isAlpha Char.isUpper Char.isLower Char.isDigit
  simp only [Bool.or_eq_true, Bool.and_eq_true, decide_eq_true_eq, UInt32.le_iff_toNat_le,
    ge_iff_le, Char.reduceVal, UInt32.reduceToNat, Char.toNat_val]
  omega

theorem lt_of_isNamePart {c : Char} (h : isNamePart c) : c.toNat < 128 := by
  rw [isNamePart, Bool.or_eq_true, beq_iff_eq, isAlphanum_iff] at h
  rcases h with h | rfl
  · omega
  · decide

theorem isNamePart_of_isNameStart {c : Char} (h : isNameStart c) : isNamePart c := by
  simp only [isNameStart, isNamePart, Char.isAlphanum, Bool.or_eq_true] at *
  rcases h with h | h
  · exact .inl (.inl h)
  · exact .inr h

theorem isNamePart_of_isName {w : List Char} (hw : isName w) {c : Char} (hc : c ∈ w) :
    isNamePart c := by
  cases w with
  | nil => simp at hc
  | cons d w =>
    simp only [isName, Bool.and_eq_true, List.all_eq_true] at hw
    rcases List.mem_cons.mp hc with rfl | hc
    · exact isNamePart_of_isNameStart hw.1
    · exact hw.2 c hc

theorem of_isNamePart {p : Char → Bool}
    (hp : ∀ n < 128, isNamePart (Char.ofNat n) → p (Char.ofNat n)) {c : Char}
    (hc : isNamePart c) : p c := by
  have h := hp c.toNat (lt_of_isNamePart hc)
  rw [Char.ofNat_toNat] at h
  exact h hc

theorem isWordPart_of_isNamePart {c : Char} (h : isNamePart c) : isWordPart c :=
  of_isNamePart (by decide) h

theorem isWordStart_of_isNameStart {c : Char} (h : isNameStart c) : isWordStart c := by
  let p (c : Char) : Bool := !isNameStart c || isWordStart c
  have hp : p c := of_isNamePart (by decide) (isNamePart_of_isNameStart h)
  simpa [p, h] using hp

def startsLeaf (c : Char) : Bool :=
  !isSpace c && c != '/' && (openingOf c).isNone && (closingOf c).isNone

theorem startsLeaf_of_isNamePart {c : Char} (h : isNamePart c) : startsLeaf c :=
  of_isNamePart (by decide) h

section

variable (n : Nat) (above : List (Bracket × List Token)) (before : List Token)

theorem scan_space {c : Char} (hc : isSpace c) (s : List Char) :
    scan (n + 1) above before (c :: s) = scan n above before s := by
  cases above <;> simp [scan, hc]

theorem comment_eq_none {c : Char} (hc : c ≠ '/') (s : List Char) : comment (c :: s) = none := by
  unfold comment
  split
  · rename_i h
    exact absurd (List.cons.inj h).1 hc
  · rename_i h
    exact absurd (List.cons.inj h).1 hc
  · rfl

theorem not_failure {c : Char} {s : List Char} (h : c ≠ '(' ∨ s.head? ≠ some '/') :
    Literal.failure.isPrefixOf (c :: s) = false := by
  have hf : Literal.failure = '(' :: '/' :: Literal.failure.tail.tail := by decide
  rw [hf, List.isPrefixOf_cons_cons]
  rcases h with hc | hs
  · rw [beq_false_of_ne hc.symm, Bool.false_and]
  · cases s with
    | nil => simp
    | cons d s =>
      have hd : d ≠ '/' := by simpa using hs
      rw [List.isPrefixOf_cons_cons, beq_false_of_ne hd.symm, Bool.false_and, Bool.and_false]

theorem scan_leaf {c : Char} (hc : startsLeaf c) (s : List Char) :
    scan (n + 1) above before (c :: s) =
      (leaf (c :: s)).bind fun (t, r) => scan n above (t :: before) r := by
  simp only [startsLeaf, Bool.and_eq_true, Bool.not_eq_true', bne_iff_ne, Option.isNone_iff_eq_none]
    at hc
  obtain ⟨⟨⟨hspace, hslash⟩, hopening⟩, hclosing⟩ := hc
  have hround : c ≠ '(' := by
    rintro rfl
    exact absurd hopening (by decide)
  cases above <;>
    simp [scan, hspace, comment_eq_none hslash, not_failure (.inl hround), hopening, hclosing]

theorem eq_of_openingOf {c : Char} {b : Bracket} (h : openingOf c = some b) :
    c = '(' ∨ c = '[' ∨ c = '\x7b' := by
  unfold openingOf at h
  split at h <;> simp at h ⊢

theorem eq_of_closingOf {c : Char} {b : Bracket} (h : closingOf c = some b) :
    c = ')' ∨ c = ']' ∨ c = '\x7d' := by
  unfold closingOf at h
  split at h <;> simp at h ⊢

theorem scan_opening {c : Char} {b : Bracket} (hc : openingOf c = some b) {s : List Char}
    (hs : s.head? ≠ some '/') :
    scan (n + 1) above before (c :: s) = scan n ((b, before) :: above) [] s := by
  have hchar : isSpace c = false ∧ c ≠ '/' := by
    rcases eq_of_openingOf hc with rfl | rfl | rfl <;> decide
  obtain ⟨hspace, hslash⟩ := hchar
  cases above <;>
    simp [scan, hspace, comment_eq_none hslash, not_failure (.inr hs), hc]

theorem scan_closing {c : Char} {b : Bracket} (hc : closingOf c = some b) (outside : List Token)
    (s : List Char) :
    scan (n + 1) ((b, outside) :: above) before (c :: s) =
      scan n above (.group b before.reverse :: outside) s := by
  have hchar : isSpace c = false ∧ c ≠ '/' ∧ openingOf c = none ∧ c ≠ '(' := by
    rcases eq_of_closingOf hc with rfl | rfl | rfl <;> decide
  obtain ⟨hspace, hslash, hopening, hround⟩ := hchar
  simp [scan, hspace, comment_eq_none hslash, not_failure (.inl hround), hopening, hc]

end

def plainMarks : List Char :=
  "~!@#$%^&*-=+|;:,<.>?".toList

theorem number_eq_none {c : Char} (hd : c.isDigit = false)
    (hh : (Literal.isHex c && Literal.hexValue c < 10) = false) (s : List Char) :
    Literal.float (c :: s) = none ∧ Literal.integer (c :: s) = none := by
  have hzero : c ≠ '0' := by
    rintro rfl
    exact absurd hd (by decide)
  have hbase : Literal.base (c :: s) = (10, c :: s) := by
    unfold Literal.base
    split <;> simp_all
  have hdigits : Literal.digits 10 true (c :: s) = none := by
    simp only [Literal.digits, hd, hh]
    split <;> simp
  constructor
  · simp [Literal.float, Literal.floatDigits, hd]
  · simp [Literal.integer, hbase, hdigits]

theorem leaf_mark {c : Char} (hc : c ∈ plainMarks) (s : List Char) :
    leaf (c :: s) = some (.mark c (isMark s), s) := by
  have hfacts : ∀ c ∈ plainMarks, c ∉ ['"', 'b', 'c', 'r', '\''] ∧ c.isDigit = false ∧
      (Literal.isHex c && Literal.hexValue c < 10) = false ∧ Token.marks.contains c ∧ c ≠ '/' :=
    List.all_iff_forall_prop.mp (by decide)
  obtain ⟨h1, h2, h3, h4, h5⟩ := hfacts c hc
  have hquote : c ≠ '\'' := by
    rintro rfl
    simp at h1
  have hcomment : isCommentStart (c :: s) = false := by
    unfold isCommentStart
    split <;> simp_all
  have hmark : isMark (c :: s) = true := by
    simpa [isMark, hcomment] using h4
  have htake : Literal.take (c :: s) = none := by
    have hnumber := number_eq_none h2 h3 s
    unfold Literal.take
    split <;> simp_all
  simp [leaf, htake, markOf, hmark, hquote]

theorem startsLeaf_of_mem_plainMarks {c : Char} (hc : c ∈ plainMarks) : startsLeaf c := by
  have hmarks : ∀ c ∈ plainMarks, startsLeaf c := List.all_iff_forall_prop.mp (by decide)
  exact hmarks c hc

theorem not_word_of_apart {c : Char} {s : List Char} (h : Apart (c :: s)) :
    isWordStart c = false ∧ isWordPart c = false := by
  have hc : sticks c = false := h c rfl
  simp only [sticks, Bool.or_eq_false_iff] at hc
  exact hc.1.1.1

theorem takeWhile_name {w rest : List Char} (hw : ∀ c ∈ w, isWordPart c) (hr : Apart rest) :
    (w ++ rest).takeWhile isWordPart = w ∧ (w ++ rest).dropWhile isWordPart = rest := by
  have hrest : rest.takeWhile isWordPart = [] ∧ rest.dropWhile isWordPart = rest := by
    cases rest with
    | nil => simp
    | cons d s =>
      simp [(not_word_of_apart hr).2]
  rw [List.takeWhile_append_of_pos hw, List.dropWhile_append_of_pos hw, hrest.1, hrest.2,
    List.append_nil]
  exact ⟨rfl, rfl⟩

theorem plainWord_name {w : List Char} (hw : isName w) {rest : List Char} (hr : Apart rest) :
    plainWord (w ++ rest) = some (String.ofList w, rest) := by
  cases w with
  | nil => simp [isName] at hw
  | cons c s =>
    rw [isName, Bool.and_eq_true, List.all_eq_true] at hw
    have hs : ∀ d ∈ s, isWordPart d := fun d hd => isWordPart_of_isNamePart (hw.2 d hd)
    obtain ⟨ht, hd⟩ := takeWhile_name hs hr
    simp [plainWord, isWordStart_of_isNameStart hw.1, ht, hd]

theorem head_ne_of_name {w rest : List Char} (hw : w.all isNamePart) (hr : Apart rest) {c : Char}
    (hc : c ∈ ['"', '\'', '#']) : (w ++ rest).head? ≠ some c := by
  intro h
  cases w with
  | nil =>
    have hs : sticks c = false := hr c h
    revert hs
    simp only [List.mem_cons, List.not_mem_nil, or_false] at hc
    rcases hc with rfl | rfl | rfl <;> decide
  | cons d s =>
    simp only [List.cons_append, List.head?_cons, Option.some.injEq] at h
    subst h
    have hd : isNamePart d := by
      simp only [List.all_cons, Bool.and_eq_true] at hw
      exact hw.1
    revert hd
    simp only [List.mem_cons, List.not_mem_nil, or_false] at hc
    rcases hc with rfl | rfl | rfl <;> decide

theorem rawString_eq_none (k : Literal.Kind) {s : List Char} (h1 : s.head? ≠ some '#')
    (h2 : s.head? ≠ some '"') : Literal.rawString k s = none := by
  cases s with
  | nil => rfl
  | cons c s =>
    have hc : c ≠ '#' := by simpa using h1
    have hq : c ≠ '"' := by simpa using h2
    simp only [Literal.rawString, List.takeWhile_cons, beq_false_of_ne hc]
    simp [hq]

structure Unquoted (s : List Char) : Prop where
  head : ∀ c ∈ ['"', '\'', '#'], s.head? ≠ some c
  second : ∀ t, s = 'r' :: t → ∀ c ∈ ['"', '\'', '#'], t.head? ≠ some c

theorem unquoted_of_name {w rest : List Char} (hw : w.all isNamePart) (hr : Apart rest) :
    Unquoted (w ++ rest) where
  head _ hc := head_ne_of_name hw hr hc
  second t ht c hc := by
    cases w with
    | nil =>
      have hs : sticks 'r' = false := hr 'r' (by simp_all)
      exact absurd hs (by decide)
    | cons d w =>
      rw [List.cons_append, List.cons.injEq] at ht
      rw [← ht.2]
      simp only [List.all_cons, Bool.and_eq_true] at hw
      exact head_ne_of_name hw.2 hr hc

theorem take_word {c : Char} (hc : isNameStart c) {s : List Char} (hs : Unquoted s) :
    Literal.take (c :: s) = none := by
  let p (c : Char) : Bool :=
    !isNameStart c || !(Literal.isHex c && Literal.hexValue c < 10) && !c.isDigit &&
      c != '"' && c != '\''
  have hp : p c := of_isNamePart (by decide) (isNamePart_of_isNameStart hc)
  simp only [p, hc, Bool.not_true, Bool.false_or, Bool.and_eq_true, Bool.not_eq_true', bne_iff_ne]
    at hp
  obtain ⟨⟨⟨hhex, hdigit⟩, hquote⟩, htick⟩ := hp
  obtain ⟨hfloat, hinteger⟩ := number_eq_none hdigit hhex s
  have hhead (d : Char) (hd : d ∈ ['"', '\'', '#']) (t : List Char) : s ≠ d :: t := by
    rintro rfl
    exact hs.head d hd rfl
  have hraw (k : Literal.Kind) {t : List Char} (ht : s = 'r' :: t) :
      Literal.rawString k t = none :=
    rawString_eq_none k (hs.second t ht '#' (by simp)) (hs.second t ht '"' (by simp))
  unfold Literal.take
  split
  · rename_i h
    exact absurd (List.cons.inj h).1 hquote
  · rename_i h
    exact absurd (List.cons.inj h).2 (hhead '"' (by simp) _)
  · rename_i h
    exact absurd (List.cons.inj h).2 (hhead '"' (by simp) _)
  · rename_i h
    rw [hraw _ (List.cons.inj h).2]
    rfl
  · rename_i h
    rw [hraw _ (List.cons.inj h).2]
    rfl
  · rename_i h
    obtain ⟨-, rfl⟩ := List.cons.inj h
    rw [rawString_eq_none _ (hs.head '#' (by simp)) (hs.head '"' (by simp))]
    rfl
  · rename_i h
    exact absurd (List.cons.inj h).2 (hhead '\'' (by simp) _)
  · rename_i h
    exact absurd (List.cons.inj h).1 htick
  · rw [hfloat, hinteger]
    rfl

theorem getElem?_of_isPrefixOf {w s : List Char} (h : w.isPrefixOf s) {i : Nat} {c : Char}
    (hc : w[i]? = some c) : s[i]? = some c := by
  obtain ⟨t, rfl⟩ := List.isPrefixOf_iff_prefix.mp h
  obtain ⟨hlt, -⟩ := List.getElem?_eq_some_iff.mp hc
  rw [List.getElem?_append_left hlt, hc]

theorem not_literalStart (c : Char) {s : List Char} (hs : Unquoted s) :
    (literalStarts.any fun w => w.toList.isPrefixOf (c :: s)) = false := by
  have hquoted : ∀ w ∈ literalStarts, w.toList[1]? ∈ ['"', '\'', '#'].map some ∨
      w.toList[1]? = some 'r' ∧ w.toList[2]? ∈ ['"', '\'', '#'].map some := by
    decide
  rw [List.any_eq_false]
  intro w hw hprefix
  rcases hquoted w hw with hsecond | ⟨hr, hthird⟩
  · obtain ⟨d, hd, hwd⟩ := List.mem_map.mp hsecond
    have h := getElem?_of_isPrefixOf hprefix hwd.symm
    exact hs.head d hd (by simpa [List.head?_eq_getElem?] using h)
  · obtain ⟨d, hd, hwd⟩ := List.mem_map.mp hthird
    have h1 := getElem?_of_isPrefixOf hprefix hr
    have h2 := getElem?_of_isPrefixOf hprefix hwd.symm
    cases s with
    | nil => simp at h1
    | cons e s =>
      have he : e = 'r' := by simpa using h1
      subst he
      exact hs.second s rfl d hd (by simpa [List.head?_eq_getElem?] using h2)

theorem markOf_eq_none {c : Char} (hc : isNameStart c) (s : List Char) :
    markOf (c :: s) = none := by
  let p (c : Char) : Bool := !isNameStart c || !marks.contains c
  have hp : p c := of_isNamePart (by decide) (isNamePart_of_isNameStart hc)
  have hm : marks.contains c = false := by simpa [p, hc] using hp
  have hmark : isMark (c :: s) = false := by
    rw [isMark, List.head?_cons, Option.any_some, hm, Bool.and_false]
  simp [markOf, hmark]

theorem wordOf_name {w : List Char} (hw : isName w) {rest : List Char} (hr : Apart rest) :
    wordOf (w ++ rest) = some (.word (String.ofList w), rest) := by
  have hplain := plainWord_name hw hr
  cases w with
  | nil => simp [isName] at hw
  | cons c s =>
    rw [isName, Bool.and_eq_true] at hw
    rw [List.cons_append] at hplain ⊢
    unfold wordOf
    split
    · rename_i h
      have hhash := head_ne_of_name hw.2 hr (by simp : '#' ∈ ['"', '\'', '#'])
      exact absurd (congrArg List.head? (List.cons.inj h).2) hhash
    · rw [hplain]
      rfl

theorem wordOf_raw {w : List Char} (hw : isName w)
    (hn : String.ofList w ∉ ["_", "super", "self", "Self", "crate"]) {rest : List Char}
    (hr : Apart rest) :
    wordOf ('r' :: '#' :: (w ++ rest)) = some (.raw (String.ofList w), rest) := by
  simp only [wordOf, plainWord_name hw hr, List.contains_iff_mem, hn, if_false]

theorem leaf_name {w : List Char} (hw : isName w) {rest : List Char} (hr : Apart rest) :
    leaf (w ++ rest) = some (.word (String.ofList w), rest) := by
  have hword := wordOf_name hw hr
  cases w with
  | nil => simp [isName] at hw
  | cons c s =>
    rw [isName, Bool.and_eq_true] at hw
    have hs := unquoted_of_name hw.2 hr
    rw [List.cons_append] at hword
    simp [leaf, take_word hw.1 hs, markOf_eq_none hw.1, not_literalStart c hs, hword]

theorem leaf_raw {w : List Char} (hw : isName w)
    (hn : String.ofList w ∉ ["_", "super", "self", "Self", "crate"]) {rest : List Char}
    (hr : Apart rest) :
    leaf ('r' :: '#' :: (w ++ rest)) = some (.raw (String.ofList w), rest) := by
  have hparts : w.all isNamePart := by
    cases w with
    | nil => rfl
    | cons c s =>
      rw [isName, Bool.and_eq_true] at hw
      rw [List.all_cons, isNamePart_of_isNameStart hw.1, hw.2, Bool.and_self]
  have hquote : (w ++ rest).head? ≠ some '"' := head_ne_of_name hparts hr (by simp)
  have hhash : (w ++ rest).head? ≠ some '#' := head_ne_of_name hparts hr (by simp)
  have htake : Literal.take ('r' :: '#' :: (w ++ rest)) = none := by
    have hraw : Literal.rawString Literal.plainKind ('#' :: (w ++ rest)) = none := by
      cases hs : w ++ rest with
      | nil => rfl
      | cons d s =>
        rw [hs] at hquote hhash
        have hd : d ≠ '#' := by simpa using hhash
        have hq : d ≠ '"' := by simpa using hquote
        simp only [Literal.rawString, List.takeWhile_cons, beq_false_of_ne hd]
        simp [hq]
    simp [Literal.take, hraw]
  have hstart : (literalStarts.any fun v => v.toList.isPrefixOf ('r' :: '#' :: (w ++ rest))) =
      false := by
    have hquoted : ∀ v ∈ literalStarts, v.toList[0]? ∈ ['b', 'c'].map some ∨
        v.toList[1]? = some '"' ∨ v.toList[2]? ∈ ['"', '#'].map some := by
      decide
    rw [List.any_eq_false]
    intro v hv hprefix
    rcases hquoted v hv with hfirst | hsecond | hthird
    · obtain ⟨d, hd, hvd⟩ := List.mem_map.mp hfirst
      have h : d = 'r' := by simpa using (getElem?_of_isPrefixOf hprefix hvd.symm).symm
      subst h
      simp at hd
    · simpa using getElem?_of_isPrefixOf hprefix hsecond
    · obtain ⟨d, hd, hvd⟩ := List.mem_map.mp hthird
      have h : (w ++ rest).head? = some d := by
        simpa [List.head?_eq_getElem?] using getElem?_of_isPrefixOf hprefix hvd.symm
      simp only [List.mem_cons, List.not_mem_nil, or_false] at hd
      rcases hd with rfl | rfl
      · exact hquote h
      · exact hhash h
  simp [leaf, htake, markOf_eq_none (by decide : isNameStart 'r'), hstart, wordOf_raw hw hn hr]

structure Clear (s : List Char) : Prop where
  apart : Apart s
  point : ∀ t, s = '.' :: t → t.head?.any isWordStart

theorem not_namePart_of_apart {c : Char} {s : List Char} (h : Apart (c :: s)) :
    isNamePart c = false := by
  have hc := (not_word_of_apart h).2
  cases hn : isNamePart c with
  | false => rfl
  | true => rwa [isWordPart_of_isNamePart hn] at hc

theorem wordBreak_suffix {s : List Char} (h : Apart s) :
    Literal.wordBreak (Literal.suffix s) = some s := by
  cases s with
  | nil => rfl
  | cons c s => simp [Literal.suffix, Literal.wordBreak, not_word_of_apart h]

theorem isNamePart_of_isHex {c : Char} (h : Literal.isHex c) : isNamePart c := by
  simp only [Literal.isHex, Bool.or_eq_true, Bool.and_eq_true, decide_eq_true_eq, Char.le_def,
    UInt32.le_iff_toNat_le] at h
  rw [isNamePart, Bool.or_eq_true]
  rcases h with (h | ⟨h, h'⟩) | ⟨h, h'⟩
  · exact .inl (by rw [Char.isAlphanum, h, Bool.or_true])
  · have ha : 97 ≤ c.toNat := h
    have hf : c.toNat ≤ 102 := h'
    exact .inl (isAlphanum_iff.mpr (.inr (.inr ⟨ha, by omega⟩)))
  · have ha : 65 ≤ c.toNat := h
    have hf : c.toNat ≤ 70 := h'
    exact .inl (isAlphanum_iff.mpr (.inr (.inl ⟨ha, by omega⟩)))

theorem not_number_of_apart {c : Char} {s : List Char} (h : Apart (c :: s)) :
    Literal.isDecimal c = false ∧ c.isDigit = false ∧ Literal.isHex c = false ∧
      ∀ d ∈ ['x', 'o', 'b', 'e', 'E', '_'], c ≠ d := by
  have hn := not_namePart_of_apart h
  have hdigit : c.isDigit = false := by
    simp only [isNamePart, Char.isAlphanum, Bool.or_eq_false_iff] at hn
    exact hn.1.2
  have hne (d : Char) (hd : isNamePart d) : c ≠ d := by
    rintro rfl
    rw [hd] at hn
    exact absurd hn (by decide)
  refine ⟨?_, hdigit, ?_, ?_⟩
  · rw [Literal.isDecimal, hdigit, beq_false_of_ne (hne '_' (by decide)), Bool.or_self]
  · cases hhex : Literal.isHex c with
    | false => rfl
    | true => rwa [isNamePart_of_isHex hhex] at hn
  · have hnames : ∀ d ∈ ['x', 'o', 'b', 'e', 'E', '_'], isNamePart d :=
      List.all_iff_forall_prop.mp (by decide)
    intro d hd
    exact hne d (hnames d hd)

theorem float_zero {s : List Char} (h : Clear s) : Literal.float ('0' :: s) = none := by
  have hdigits : Literal.floatDigits ('0' :: s) = none := by
    cases s with
    | nil => rfl
    | cons c s =>
      obtain ⟨hdecimal, -, -, hne⟩ := not_number_of_apart h.apart
      have hskip : Literal.skip Literal.isDecimal ('0' :: c :: s) = c :: s := by
        have hzero : Literal.isDecimal '0' = true := by decide
        simp [Literal.skip, hzero, hdecimal]
      by_cases hc : c = '.'
      · subst hc
        have hpoint := h.point s rfl
        have hstop : (s.head?.any fun c => c == '.' || isWordStart c) = true := by
          cases s with
          | nil => simp at hpoint
          | cons d s => simp_all
        simp [Literal.floatDigits, hskip, hstop]
      · have he := hne 'e' (by simp)
        have hE := hne 'E' (by simp)
        simp [Literal.floatDigits, hskip, he, hE]
  simp [Literal.float, hdigits]

theorem integer_zero {s : List Char} (h : Apart s) : Literal.integer ('0' :: s) = some s := by
  have hbase : Literal.base ('0' :: s) = (10, '0' :: s) := by
    cases s with
    | nil => rfl
    | cons c s =>
      obtain ⟨-, -, -, hne⟩ := not_number_of_apart h
      have hx := hne 'x' (by simp)
      have ho := hne 'o' (by simp)
      have hb := hne 'b' (by simp)
      unfold Literal.base
      split <;> simp_all
  have hzero : Literal.digits 10 true ('0' :: s) = Literal.digits 10 false s := by
    rfl
  have hdigits : Literal.digits 10 false s = some s := by
    cases s with
    | nil => rfl
    | cons c s =>
      obtain ⟨-, hdigit, hhex, hne⟩ := not_number_of_apart h
      simp [Literal.digits, hne '_' (by simp), hdigit, hhex]
  simp [Literal.integer, hbase, hzero, hdigits, wordBreak_suffix h]

theorem leaf_zero {s : List Char} (h : Clear s) :
    leaf ('0' :: s) = some (.literal .integer "0", s) := by
  have htake : Literal.take ('0' :: s) = some (.integer, s) := by
    simp [Literal.take, float_zero h, integer_zero h.apart]
  simp [leaf, htake]

theorem skip_eq {p : Char → Bool} {s : List Char} (h : ∀ c ∈ s.head?, p c = false) :
    Literal.skip p s = s := by
  cases s with
  | nil => rfl
  | cons c s => simp [Literal.skip, h c rfl]

theorem take_float {rest : List Char} (h : Apart rest) :
    Literal.take ("42.0".toList ++ rest) = some (.float, rest) := by
  have hdigits : Literal.floatDigits ('4' :: '2' :: '.' :: '0' :: rest) = some rest := by
    cases rest with
    | nil => rfl
    | cons c rest =>
      obtain ⟨hdecimal, -, -, hne⟩ := not_number_of_apart h
      have hwhole : Literal.skip Literal.isDecimal ('4' :: '2' :: '.' :: '0' :: c :: rest) =
          '.' :: '0' :: c :: rest := rfl
      have hpart : Literal.skip Literal.isDecimal ('0' :: c :: rest) = c :: rest :=
        skip_eq (s := c :: rest) (by simpa using hdecimal)
      have hzero : isWordStart '0' = false := by decide
      simp [Literal.floatDigits, hwhole, hpart, hzero, hne 'e' (by simp), hne 'E' (by simp)]
  have hfloat : Literal.float ('4' :: '2' :: '.' :: '0' :: rest) = some rest := by
    rw [Literal.float, hdigits, Option.bind_some, wordBreak_suffix h]
  change ((Literal.float ('4' :: '2' :: '.' :: '0' :: rest)).map (Literal.Class.float, ·)).or _ = _
  rw [hfloat]
  rfl

theorem take_integer {rest : List Char} (h : Apart rest) :
    Literal.take ("42_i64".toList ++ rest) = some (.integer, rest) := by
  have hpart : ∀ c ∈ rest.head?, isWordPart c = false := fun c hc => by
    obtain ⟨s, rfl⟩ := List.head?_eq_some_iff.mp hc
    exact (not_word_of_apart h).2
  have hfloat : Literal.float ("42_i64".toList ++ rest) = none := rfl
  have hsuffix : Literal.integer ("42_i64".toList ++ rest) =
      Literal.wordBreak (Literal.skip isWordPart rest) := rfl
  have hbreak : Literal.wordBreak rest = some rest := by
    cases rest with
    | nil => rfl
    | cons c rest => simp [Literal.wordBreak, hpart c rfl]
  change ((Literal.float ("42_i64".toList ++ rest)).map (Literal.Class.float, ·)).or
    ((Literal.integer ("42_i64".toList ++ rest)).map (Literal.Class.integer, ·)) = _
  rw [hfloat, hsuffix, skip_eq hpart, hbreak]
  rfl

theorem leaf_of_take {w rest : List Char} {k : Literal.Class}
    (h : Literal.take (w ++ rest) = some (k, rest)) :
    leaf (w ++ rest) = some (.literal k (String.ofList w), rest) := by
  have hlength : (w ++ rest).take ((w ++ rest).length - rest.length) = w := by
    simp
  simp only [leaf, h, hlength]

end TypedMarkup.Code
