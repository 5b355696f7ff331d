import TypedMarkup.Code.Identifier
import TypedMarkup.Proofs.Code.Reading

namespace TypedMarkup.Code

open Text Token Layout

structure Legible (s : List Char) (es : List Token) : Prop where
  reads : ∀ rest, Clear rest → ReadsTo (s ++ rest) es rest
  head : ∃ c t, s = c :: t ∧ c ∉ ['/', '\ufeff']
  first : closes es = false

structure Opens (s : List Char) (es : List Token) : Prop where
  reads : ∀ rest, ReadsTo (s ++ rest) es rest
  head : ∃ c t, s = c :: t ∧ c ∉ ['/', '\ufeff']
  first : closes es = false

def code (s : String) : List Token :=
  (tokensOf s).getD []

theorem code_of_ofChars {s : String} {ts : List Token} (h : Token.ofChars s.toList = some ts) :
    code s = settledAll ts := by
  rw [code, tokensOf, h]
  rfl

theorem code_of_readsTo {w : String} {es : List Token} (h : ReadsTo w.toList es [])
    (hw : ∃ c t, w.toList = c :: t ∧ c ∉ ['/', '\ufeff']) : code w = es := by
  obtain ⟨c, u, hw, hc⟩ := hw
  simp only [List.mem_cons, not_or] at hc
  rw [code, h.tokensOf (by simpa [hw] using hc.2.1), Option.getD_some]

theorem head_append {s : List Char} {cs : List Char} (h : ∃ c t, s = c :: t ∧ c ∉ cs)
    (u : List Char) : ∃ c t, s ++ u = c :: t ∧ c ∉ cs := by
  obtain ⟨c, t, rfl, hc⟩ := h
  exact ⟨c, t ++ u, rfl, hc⟩

namespace Legible

variable {s t : List Char} {es fs : List Token}

theorem head_ne (h : Legible s es) (rest : List Char) : (s ++ rest).head? ≠ some '/' := by
  obtain ⟨c, u, rfl, hc⟩ := h.head
  simp only [List.mem_cons, not_or] at hc
  simpa using hc.1

theorem code {w : String} (h : Legible w.toList es) : code w = es := by
  have hreads := h.reads [] clear_nil
  rw [List.append_nil] at hreads
  exact code_of_readsTo hreads h.head

theorem opens (h : Legible s es) (h' : Opens t fs) (ht : ∀ rest, Clear (t ++ rest)) :
    Opens (s ++ t) (es ++ fs) where
  reads rest := by
    rw [List.append_assoc]
    exact (h.reads _ (ht rest)).trans (h'.reads rest)
  head := head_append h.head t
  first := closes_append h.first fs

theorem append (h : Legible s es) (h' : Legible t fs)
    (ht : ∀ rest, Clear rest → Clear (t ++ rest)) : Legible (s ++ t) (es ++ fs) where
  reads rest hrest := by
    rw [List.append_assoc]
    exact (h.reads _ (ht rest hrest)).trans (h'.reads rest hrest)
  head := head_append h.head t
  first := closes_append h.first fs

end Legible

theorem Opens.append {s t : List Char} {es fs : List Token} (h : Opens s es)
    (h' : Legible t fs) : Legible (s ++ t) (es ++ fs) where
  reads rest hrest := by
    rw [List.append_assoc]
    exact (h.reads _).trans (h'.reads rest hrest)
  head := head_append h.head t
  first := closes_append h.first fs

theorem Opens.code {w : String} {es : List Token} (h : Opens w.toList es) : code w = es := by
  have hreads := h.reads []
  rw [List.append_nil] at hreads
  exact code_of_readsTo hreads h.head

def pending (w : List Char) : List Token :=
  if w = [] then [] else [.word (String.ofList w)]

def lex (w : List Char) : List Char → Option (List Token)
  | [] => some (pending w)
  | c :: s =>
    if isNamePart c && (w != [] || isNameStart c) then lex (w ++ [c]) s
    else if c == ' ' then (lex [] s).map (pending w ++ ·)
    else if plainMarks.contains c && c != ',' && !sticks c then
      (lex [] s).map fun ts => pending w ++ .mark c false :: ts
    else none

theorem isName_concat {w : List Char} {c : Char} (hw : w = [] ∨ isName w) (hc : isNamePart c)
    (hstart : w ≠ [] ∨ isNameStart c) : isName (w ++ [c]) := by
  cases w with
  | nil => simpa [isName] using hstart
  | cons d w =>
    have hname : isName (d :: w) := by simpa using hw
    simp only [isName, Bool.and_eq_true] at hname
    simp [isName, hname, hc]

theorem readsTo_pending {w : List Char} (hw : w = [] ∨ isName w) {rest : List Char}
    (hr : w = [] ∨ Apart rest) : ReadsTo (w ++ rest) (pending w) rest := by
  rcases hw with rfl | hw
  · exact .refl rest
  · have hne : w ≠ [] := by
      rintro rfl
      simp [isName] at hw
    rw [pending, if_neg hne]
    exact (Scans.name hw (hr.resolve_left hne)).readsTo (settles_singleton rfl)

def endsApart (s : List Char) : Bool :=
  s.getLast?.all fun c => !isNamePart c

theorem endsApart_of_append {s t : List Char} (h : endsApart (s ++ t)) : endsApart t := by
  rw [endsApart, List.getLast?_append] at h
  unfold endsApart
  cases ht : t.getLast? with
  | none => rfl
  | some c => simpa [ht] using h

theorem eq_nil_of_endsApart {w : List Char} (hw : isName w) (h : endsApart w) : w = [] := by
  cases hlast : w.getLast? with
  | none => simpa using hlast
  | some c =>
    have hc := isNamePart_of_isName hw (List.mem_of_getLast? hlast)
    simp [endsApart, hlast, hc] at h

theorem lex_reads {w s : List Char} {es : List Token} (h : lex w s = some es)
    (hw : w = [] ∨ isName w) {rest : List Char} (hr : endsApart (w ++ s) ∨ Apart rest) :
    ReadsTo (w ++ s ++ rest) es rest := by
  induction s generalizing w es with
  | nil =>
    simp only [lex, Option.some.injEq] at h
    subst h
    rw [List.append_nil] at hr ⊢
    refine readsTo_pending hw (hr.imp_left fun hend => ?_)
    exact hw.elim id fun hw => eq_nil_of_endsApart hw hend
  | cons c s ih =>
    have hchars : w ++ c :: s = w ++ [c] ++ s := by simp
    have hend : endsApart ([] ++ s) ∨ Apart rest := by
      rw [hchars] at hr
      exact hr.imp_left endsApart_of_append
    rw [List.append_assoc, List.cons_append]
    simp only [lex, Bool.and_eq_true, Bool.or_eq_true, bne_iff_ne] at h
    split_ifs at h with hname hblank hmark
    · rw [hchars] at hr
      have hread := ih h (.inr (isName_concat hw hname.1 hname.2)) hr
      simpa using hread
    · obtain ⟨fs, hfs, rfl⟩ := Option.map_eq_some_iff.mp h
      obtain rfl : c = ' ' := by simpa using hblank
      have hrest := (Scans.space (by decide : isSpace ' ') (s ++ rest)).readsTo settles_nil
      exact (readsTo_pending hw (.inr (apart_cons (by decide) _))).trans
        (hrest.trans (ih hfs (.inl rfl) hend))
    · obtain ⟨fs, hfs, rfl⟩ := Option.map_eq_some_iff.mp h
      simp only [List.contains_iff_mem, Bool.not_eq_true'] at hmark
      have hrest := ReadsTo.mark hmark.1.1 hmark.1.2 (s ++ rest)
      exact (readsTo_pending hw (.inr (apart_cons hmark.2 _))).trans
        (hrest.trans (ih hfs (.inl rfl) hend))

theorem lex_head {s : List Char} {es : List Token} (h : lex [] s = some es)
    (hes : closes es = false) : ∃ c t, s = c :: t ∧ c ∉ ['/', '\ufeff'] := by
  cases s with
  | nil =>
    obtain rfl : es = [] := by simpa [lex, pending] using h.symm
    exact absurd hes (by decide)
  | cons c s =>
    refine ⟨c, s, rfl, fun hc => ?_⟩
    have hnot : isNamePart c = false ∧ (c == ' ') = false ∧ plainMarks.contains c = false := by
      simp only [List.mem_cons, List.not_mem_nil, or_false] at hc
      rcases hc with rfl | rfl <;> decide
    simp only [lex, hnot] at h
    simp at h

theorem legible_of_lex {s : List Char} {es : List Token} (h : lex [] s = some es)
    (hes : closes es = false) : Legible s es where
  reads _ hrest := lex_reads h (.inl rfl) (.inr hrest.apart)
  head := lex_head h hes
  first := hes

theorem opens_of_lex {s : List Char} {es : List Token} (h : lex [] s = some es)
    (hes : closes es = false) (hend : endsApart s) : Opens s es where
  reads _ := lex_reads h (.inl rfl) (.inl hend)
  head := lex_head h hes
  first := hes

def Token.name? : Token → Option String
  | .word s => some s
  | .raw s => some ("r#" ++ s)
  | _ => none

def isIdentifier : List Char → Bool
  | 'r' :: '#' :: w => isName w && !neverRaw.contains (String.ofList w)
  | w => isName w

theorem not_slash_of_isNamePart {c : Char} (h : isNamePart c) : c ∉ ['/', '\ufeff'] := by
  intro hc
  simp only [List.mem_cons, List.not_mem_nil, or_false] at hc
  rcases hc with rfl | rfl <;> exact absurd h (by decide)

theorem legible_name {w : List Char} (hw : isName w) : Legible w [.word (String.ofList w)] where
  reads _ hrest := (Scans.name hw hrest.apart).readsTo (settles_singleton rfl)
  head := by
    cases w with
    | nil => simp [isName] at hw
    | cons c w =>
      exact ⟨c, w, rfl, not_slash_of_isNamePart (isNamePart_of_isName hw List.mem_cons_self)⟩
  first := rfl

theorem code_of_isName {s : String} (h : isName s.toList) : code s = [.word s] := by
  have hread := (legible_name h).code
  rwa [String.ofList_toList] at hread

theorem legible_raw {w : List Char} (hw : isName w) (hn : String.ofList w ∉ neverRaw) :
    Legible ('r' :: '#' :: w) [.raw (String.ofList w)] where
  reads rest hrest := by
    have hraw : String.ofList w ∉ ["_", "super", "self", "Self", "crate"] := by
      simp only [neverRaw, List.mem_cons, List.not_mem_nil, or_false] at hn ⊢
      tauto
    exact (Scans.raw hw hraw hrest.apart).readsTo (settles_singleton rfl)
  head := ⟨'r', _, rfl, by decide⟩
  first := rfl

theorem legible_of_isIdentifier {s : String} (h : isIdentifier s.toList) :
    ∃ t, Legible s.toList [t] ∧ t.name? = some s := by
  unfold isIdentifier at h
  split at h
  · rename_i w hs
    simp only [Bool.and_eq_true, Bool.not_eq_true', List.contains_eq_mem,
      decide_eq_false_iff_not] at h
    refine ⟨_, hs ▸ legible_raw h.1 h.2, ?_⟩
    rw [Token.name?, Option.some.injEq, ← String.toList_inj, hs]
    simp
  · refine ⟨_, legible_name h, ?_⟩
    rw [Token.name?, String.ofList_toList]

theorem isName_sanitize (s : String) : isName (sanitize s).toList := by
  have hpart (c : Char) : isNamePart (wordChar c) := by
    unfold wordChar isPlain
    split
    · rename_i h
      simp [isNamePart, h]
    · decide
  rw [sanitize, String.toList_ofList, sanitizeChars]
  cases hw : (Text.trim s.toList).map wordChar with
  | nil => decide
  | cons c t =>
    have hall : ∀ d ∈ c :: t, isNamePart d := by
      intro d hd
      obtain ⟨e, -, rfl⟩ := List.mem_map.mp (hw ▸ hd)
      exact hpart e
    have hc := hall c List.mem_cons_self
    have ht : t.all isNamePart :=
      List.all_eq_true.mpr fun d hd => hall d (List.mem_cons_of_mem c hd)
    dsimp only
    split
    · have hstart : isNameStart '_' := by decide
      rw [isName, hstart, List.all_cons, hc, ht]
      rfl
    · rename_i hdigit
      rw [isName, ht, Bool.and_true]
      simp only [isNamePart, Char.isAlphanum, Bool.or_eq_true] at hc
      simpa [isNameStart, hdigit] using hc

theorem isName_append {v w : List Char} (hv : isName v) (hw : isName w) : isName (v ++ w) := by
  have hall : w.all isNamePart := List.all_eq_true.mpr fun _ hc => isNamePart_of_isName hw hc
  cases v with
  | nil => simp [isName] at hv
  | cons c v =>
    simp only [isName, Bool.and_eq_true] at hv
    simp [isName, hv, hall]

theorem isIdentifier_of_isName {w : List Char} (hw : isName w) : isIdentifier w := by
  unfold isIdentifier
  split
  · rename_i w
    exact absurd (isNamePart_of_isName hw (by simp : '#' ∈ 'r' :: '#' :: w)) (by decide)
  · exact hw

theorem isIdentifier_identifier {w : String} (hw : isName w.toList) :
    isIdentifier (identifier w).toList := by
  unfold identifier
  split_ifs with hnever hkeyword
  · rw [String.toList_append]
    exact isIdentifier_of_isName (isName_append hw (by decide))
  · rw [String.toList_append]
    simpa [isIdentifier, hw] using hnever
  · exact isIdentifier_of_isName hw

def isOuter : List Char → Bool
  | 's' :: 'u' :: 'p' :: 'e' :: 'r' :: ':' :: ':' :: w => isIdentifier w
  | _ => false

theorem eq_of_isOuter {s : String} (h : isOuter s.toList) :
    ∃ w : String, isIdentifier w.toList ∧ s = "super::" ++ w := by
  unfold isOuter at h
  split at h
  · rename_i w hs
    refine ⟨String.ofList w, by rwa [String.toList_ofList], ?_⟩
    rw [← String.toList_inj, hs]
    simp
  · exact absurd h Bool.false_ne_true

theorem isOuter_append {w : String} (h : isIdentifier w.toList) :
    isOuter ("super::" ++ w).toList := by
  rw [String.toList_append]
  exact h

theorem legible_outer {w : String} (h : isIdentifier w.toList) :
    Legible ("super::" ++ w).toList
      (.word "super" :: .mark ':' false :: .mark ':' false :: code w) := by
  obtain ⟨t, ht, -⟩ := legible_of_isIdentifier h
  have hsuper : Opens "super::".toList [.word "super", .mark ':' false, .mark ':' false] :=
    opens_of_lex rfl rfl (by decide)
  rw [ht.code, String.toList_append]
  exact hsuper.append ht

def numbers : List (String × Token) :=
  [("42.0", .literal .float "42.0"), ("42_i64", .literal .integer "42_i64")]

theorem legible_number {p : String × Token} (h : p ∈ numbers) : Legible p.1.toList [p.2] := by
  simp only [numbers, List.mem_cons, List.not_mem_nil, or_false] at h
  rcases h with rfl | rfl
  · exact ⟨fun _ hrest => (Scans.float hrest.apart).readsTo (settles_singleton rfl),
      ⟨'4', _, rfl, by decide⟩, rfl⟩
  · exact ⟨fun _ hrest => (Scans.integer hrest.apart).readsTo (settles_singleton rfl),
      ⟨'4', _, rfl, by decide⟩, rfl⟩

def isWord (s : String) : Bool :=
  isIdentifier s.toList || isOuter s.toList || numbers.any (·.1 == s) ||
    (lex [] s.toList).any fun es => !closes es

theorem isWord_cases {s : String} (h : isWord s) :
    isIdentifier s.toList ∨ (∃ w : String, isIdentifier w.toList ∧ s = "super::" ++ w) ∨
      (∃ p ∈ numbers, p.1 = s) ∨ ∃ es, lex [] s.toList = some es ∧ closes es = false := by
  simp only [isWord, Bool.or_eq_true] at h
  rcases h with ((h | h) | h) | h
  · exact .inl h
  · exact .inr (.inl (eq_of_isOuter h))
  · obtain ⟨p, hp, hs⟩ := List.any_eq_true.mp h
    exact .inr (.inr (.inl ⟨p, hp, beq_iff_eq.mp hs⟩))
  · obtain ⟨es, hes, hcloses⟩ := (Option.any_eq_true _ _).mp h
    exact .inr (.inr (.inr ⟨es, hes, by simpa using hcloses⟩))

theorem isWord_of_isIdentifier {s : String} (h : isIdentifier s.toList) : isWord s := by
  simp only [isWord, h, Bool.true_or]

theorem isWord_of_isName {s : String} (h : isName s.toList) : isWord s :=
  isWord_of_isIdentifier (isIdentifier_of_isName h)

theorem legible_of_isWord {s : String} (h : isWord s) : Legible s.toList (code s) := by
  have hlegible : ∃ es, Legible s.toList es := by
    rcases isWord_cases h with h | ⟨w, hw, rfl⟩ | ⟨p, hp, rfl⟩ | ⟨es, hes, hcloses⟩
    · obtain ⟨t, ht, -⟩ := legible_of_isIdentifier h
      exact ⟨_, ht⟩
    · exact ⟨_, legible_outer hw⟩
    · exact ⟨_, legible_number hp⟩
    · exact ⟨es, legible_of_lex hes hcloses⟩
  obtain ⟨es, hes⟩ := hlegible
  rw [hes.code]
  exact hes

theorem legible_literal (s : String) :
    Legible (Text.literal s).toList [.literal .text (Text.literal s)] where
  reads _ hrest := (Scans.literal s hrest.apart).readsTo (settles_singleton rfl)
  head := ⟨'"', encodeLiteral s.toList ++ ['"'], by simp [Text.literal], by decide⟩
  first := rfl

end TypedMarkup.Code
