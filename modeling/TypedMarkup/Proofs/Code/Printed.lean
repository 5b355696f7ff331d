import TypedMarkup.Code.Emission
import TypedMarkup.Proofs.Code.Legible
import TypedMarkup.Proofs.Code.Note

namespace TypedMarkup

open Code Layout

namespace Code

def isCodeWord (s : String) : Bool :=
  unbroken s && (s.toList.dropWhile (· = ' ')).head? != some '/'

theorem unbroken_of_isCodeWord {s : String} (h : isCodeWord s) : unbroken s := by
  rw [isCodeWord, Bool.and_eq_true] at h
  exact h.1

theorem isCodeWord_append {s t : String} (hs : isCodeWord s) (ht : isCodeWord t) :
    isCodeWord (s ++ t) := by
  simp only [isCodeWord, Bool.and_eq_true, bne_iff_ne] at hs ht ⊢
  refine ⟨by simp [hs.1, ht.1], ?_⟩
  rw [String.toList_append, List.dropWhile_append]
  split
  · exact ht.2
  · rename_i hne
    obtain ⟨c, u, hu⟩ := List.exists_cons_of_ne_nil (mt List.isEmpty_iff.mpr hne)
    rw [hu] at hs ⊢
    simpa using hs.2

theorem isCodeWord_of_forall {s : String} (h : ∀ c ∈ s.toList, c ∉ ['\n', '\r', '/']) :
    isCodeWord s := by
  simp only [List.mem_cons, List.not_mem_nil, or_false, not_or] at h
  rw [isCodeWord, Bool.and_eq_true, bne_iff_ne]
  refine ⟨unbroken_of_forall fun c hc => ⟨(h c hc).1, (h c hc).2.1⟩, fun hc => ?_⟩
  have hmem := (List.dropWhile_sublist _).subset (List.mem_of_head? hc)
  exact (h _ hmem).2.2 rfl

theorem isCodeWord_literal (s : String) : isCodeWord (Text.literal s) := by
  rw [isCodeWord, Bool.and_eq_true, bne_iff_ne]
  refine ⟨unbroken_iff.mpr ⟨not_mem_literal (by decide) s, not_mem_literal (by decide) s⟩, ?_⟩
  simp [Text.literal]

theorem not_mem_of_lex {w s : List Char} {es : List Token} (h : lex w s = some es) :
    ∀ c ∈ s, c ∉ ['\n', '\r', '/'] := by
  induction s generalizing w es with
  | nil => simp
  | cons c s ih =>
    have hrefused : ∀ d ∈ ['\n', '\r', '/'],
        isNamePart d = false ∧ (d == ' ') = false ∧ plainMarks.contains d = false :=
      List.all_iff_forall_prop.mp (by decide)
    have hc : c ∉ ['\n', '\r', '/'] := by
      intro hc
      obtain ⟨h1, h2, h3⟩ := hrefused c hc
      simp only [lex, h1, h2, h3] at h
      simp at h
    have hrest : ∃ w es, lex w s = some es := by
      simp only [lex] at h
      split_ifs at h
      · exact ⟨_, _, h⟩
      · obtain ⟨fs, hfs, -⟩ := Option.map_eq_some_iff.mp h
        exact ⟨_, _, hfs⟩
      · obtain ⟨fs, hfs, -⟩ := Option.map_eq_some_iff.mp h
        exact ⟨_, _, hfs⟩
    obtain ⟨w', es', hs⟩ := hrest
    exact List.forall_mem_cons.mpr ⟨hc, ih hs⟩

theorem not_mem_of_isNamePart {c : Char} (h : isNamePart c) : c ∉ ['\n', '\r', '/'] := by
  have hrefused : ∀ d ∈ ['\n', '\r', '/'], isNamePart d = false :=
    List.all_iff_forall_prop.mp (by decide)
  intro hc
  rw [hrefused c hc] at h
  exact Bool.false_ne_true h

theorem not_mem_of_isIdentifier {w : List Char} (h : isIdentifier w) :
    ∀ c ∈ w, c ∉ ['\n', '\r', '/'] := by
  unfold isIdentifier at h
  split at h
  · rw [Bool.and_eq_true] at h
    simp only [List.forall_mem_cons]
    exact ⟨by decide, by decide,
      fun c hc => not_mem_of_isNamePart (isNamePart_of_isName h.1 hc)⟩
  · exact fun c hc => not_mem_of_isNamePart (isNamePart_of_isName h hc)

theorem isCodeWord_of_isWord {s : String} (h : isWord s) : isCodeWord s := by
  refine isCodeWord_of_forall ?_
  rcases isWord_cases h with h | ⟨w, hw, rfl⟩ | ⟨p, hp, rfl⟩ | ⟨es, hes, -⟩
  · exact not_mem_of_isIdentifier h
  · rw [String.toList_append, List.forall_mem_append]
    exact ⟨List.all_iff_forall_prop.mp (by decide), not_mem_of_isIdentifier hw⟩
  · have hnumbers : ∀ p ∈ numbers, ∀ c ∈ p.1.toList, c ∉ ['\n', '\r', '/'] := by
      simp only [numbers, List.forall_mem_cons]
      exact ⟨List.all_iff_forall_prop.mp (by decide), List.all_iff_forall_prop.mp (by decide),
        by simp⟩
    exact hnumbers p hp
  · exact not_mem_of_lex hes

theorem kept_isCodeWord : Kept isCodeWord (isCodeWord ·) where
  empty := by decide
  word := isCodeWord_append
  blank n hs := by
    refine isCodeWord_append hs (isCodeWord_of_forall fun c hc => ?_)
    rw [spaces, String.toList_ofList, List.mem_replicate] at hc
    rw [hc.2]
    decide
  comma hs := isCodeWord_append hs (by decide)

def isComment (l : List Char) : Bool :=
  (l.dropWhile (· = ' ')).head? == some '/'

theorem isComment_chars {l : Line} (h : isCodeWord l.text) : isComment l.chars = false := by
  simp only [isCodeWord, Bool.and_eq_true, bne_iff_ne] at h
  have hspaces : ∀ c ∈ List.replicate l.indent ' ', decide (c = ' ') := by
    intro c hc
    simpa using (List.mem_replicate.mp hc).2
  rw [isComment, Line.chars, List.dropWhile_append_of_pos hspaces]
  simpa using h.2

theorem isNote_eq_false {l : List Char} (h : isComment l = false) : isNote l = false := by
  unfold isNote isComment at *
  cases hs : l.dropWhile (· = ' ') with
  | nil => rfl
  | cons c s =>
    have hc : c ≠ '/' := by simpa [hs] using h
    rw [List.isPrefixOf_cons_cons, beq_false_of_ne hc.symm, Bool.false_and]

theorem lineCode_eq {l : Line} (h : isCodeWord l.text) : lineCode l = [l.chars] := by
  have hnote := isNote_eq_false (isComment_chars h)
  have hline : '\n' ∉ l.chars := by
    simp [Line.chars, (unbroken_iff.mp (unbroken_of_isCodeWord h)).1]
  rw [lineCode, codeLines, pieces_of_not_mem hline]
  simp [hnote]

end Code

namespace Layout

structure Doc.Reads (d : Doc) (es : List Token) : Prop where
  words : d.all isCodeWord
  legible : ∀ s, d.Written s → Legible s es

def Doc.isApart : Doc → Bool
  | .word w => w.toList.head?.any fun c => !sticks c && c != '.'
  | .gap .. => false
  | .cat a _ => a.isApart
  | .box _ _ d => d.isApart

theorem Doc.clear_of_isApart {d : Doc} (h : d.isApart) {s : List Char} (hs : d.Written s)
    (rest : List Char) : Clear (s ++ rest) := by
  induction d generalizing s rest with
  | word w =>
    obtain rfl : s = w.toList := hs
    obtain ⟨c, hc, hclear⟩ := (Option.any_eq_true _ _).mp h
    obtain ⟨t, ht⟩ := List.head?_eq_some_iff.mp hc
    simp only [Bool.and_eq_true, Bool.not_eq_true', bne_iff_ne] at hclear
    rw [ht]
    exact .of_head hclear.1 hclear.2 _
  | gap n k comma => exact absurd h Bool.false_ne_true
  | cat a b iha _ =>
    obtain ⟨u, v, hu, -, rfl⟩ := hs
    rw [List.append_assoc]
    exact iha h hu _
  | box f k d ih => exact ih h hs rest

theorem Doc.isApart_append {v : String} (h : (Doc.word v).isApart) (w : String) :
    (Doc.word (v ++ w)).isApart := by
  obtain ⟨c, hc, hclear⟩ := (Option.any_eq_true _ _).mp h
  obtain ⟨t, ht⟩ := List.head?_eq_some_iff.mp hc
  simpa [isApart, ht] using hclear

namespace Doc.Reads

variable {d e : Doc} {es fs : List Token}

theorem word {w : String} (hw : isCodeWord w) (h : Legible w.toList es) :
    (Doc.word w).Reads es where
  words := hw
  legible s hs := by
    rw [written_word.mp hs]
    exact h

theorem code_eq {w : String} (h : d.Reads es) (hw : w.toList = d.flat) : code w = es := by
  refine Legible.code ?_
  rw [hw]
  exact h.legible _ d.written_flat

theorem of_isWord {w : String} (h : isWord w) : (Doc.word w).Reads (code w) :=
  word (isCodeWord_of_isWord h) (legible_of_isWord h)

theorem literal (s : String) :
    (Doc.word (Text.literal s)).Reads [.literal .text (Text.literal s)] :=
  word (isCodeWord_literal s) (legible_literal s)

theorem box {f : Fill} {k : Int} (h : d.Reads es) : (Doc.box f k d).Reads es where
  words := h.words
  legible s hs := h.legible s (written_box.mp hs)

theorem append (h : d.Reads es) (h' : e.Reads fs) (he : e.isApart) :
    (d ++ e).Reads (es ++ fs) where
  words := by rw [all_append, h.words, h'.words, Bool.and_self]
  legible s hs := by
    obtain ⟨u, v, hu, hv, rfl⟩ := written_append.mp hs
    exact (h.legible u hu).append (h'.legible v hv) fun rest _ => clear_of_isApart he hv rest

theorem opens_append (hd : d.all isCodeWord) (hread : ∀ s, d.Written s → Opens s es)
    (h : e.Reads fs) : (d ++ e).Reads (es ++ fs) where
  words := by rw [all_append, hd, h.words, Bool.and_self]
  legible s hs := by
    obtain ⟨u, v, hu, hv, rfl⟩ := written_append.mp hs
    exact (hread u hu).append (h.legible v hv)

theorem of_opens {w : String} (hw : isCodeWord w) (hread : Opens w.toList fs) (h : d.Reads es) :
    (Doc.word w ++ d).Reads (fs ++ es) :=
  opens_append hw (fun s hs => by rwa [written_word.mp hs]) h

theorem after_gap (h : d.Reads es) (h' : e.Reads fs) (n : Nat) (k : Int) :
    (d ++ Doc.gap (n + 1) k false ++ e).Reads (es ++ fs) where
  words := by simp [h.words, h'.words]
  legible s hs := by
    obtain ⟨_, v, hgap, hv, rfl⟩ := written_append.mp hs
    obtain ⟨u, g, hu, hg, rfl⟩ := written_append.mp hgap
    have hu := h.legible u hu
    have hv := h'.legible v hv
    have hclear (s : List Char) : Clear (g ++ s) := by
      rcases hg with rfl | ⟨l, rfl⟩
      · exact .of_head (by decide) (by decide) _
      · exact .of_head (by decide) (by decide) _
    refine ⟨fun rest hrest => ?_, head_append (head_append hu.head g) v, closes_append hu.first fs⟩
    have hread := (hu.reads _ (hclear (v ++ rest))).trans
      ((ReadsTo.gap hg _).trans (hv.reads rest hrest))
    simpa using hread

end Doc.Reads

def Following : List Doc → List Char → Prop
  | [], s => s = []
  | d :: ds, s =>
    ∃ g u v, GapText 1 false g ∧ d.Written u ∧ Following ds v ∧ s = ',' :: (g ++ u ++ v)

theorem written_items {ds : List Doc} {acc : Doc} {s : List Char} :
    (ds.foldl (fun acc x => acc ++ .word "," ++ .gap 1 0 false ++ x) acc).Written s ↔
      ∃ u v, acc.Written u ∧ Following ds v ∧ s = u ++ v := by
  induction ds generalizing acc s with
  | nil => simp [Following]
  | cons d ds ih =>
    rw [List.foldl_cons, ih]
    constructor
    · rintro ⟨_, v, hitems, hv, rfl⟩
      obtain ⟨_, x, hgap, hx, rfl⟩ := Doc.written_append.mp hitems
      obtain ⟨_, g, hcomma, hg, rfl⟩ := Doc.written_append.mp hgap
      obtain ⟨u, c, hu, hc, rfl⟩ := Doc.written_append.mp hcomma
      obtain rfl : c = [','] := hc
      exact ⟨u, _, hu, ⟨g, x, v, hg, hx, hv, rfl⟩, by simp⟩
    · rintro ⟨u, _, hu, ⟨g, x, v, hg, hx, hv, rfl⟩, rfl⟩
      refine ⟨u ++ [','] ++ g ++ x, v, ?_, hv, by simp⟩
      exact ⟨_, x, ⟨_, g, ⟨u, [','], hu, rfl, rfl⟩, hg, rfl⟩, hx, rfl⟩

theorem written_series {d : Doc} {ds : List Doc} {s : List Char} :
    (series d ds).Written s ↔ ∃ g u v g', GapText 0 false g ∧ d.Written u ∧ Following ds v ∧
      GapText 0 true g' ∧ s = g ++ u ++ v ++ g' := by
  rw [series, Doc.written_append]
  constructor
  · rintro ⟨_, g', h, hg', rfl⟩
    obtain ⟨_, v, hfirst, hv, rfl⟩ := written_items.mp h
    obtain ⟨g, u, hg, hu, rfl⟩ := Doc.written_append.mp hfirst
    exact ⟨g, u, v, g', hg, hu, hv, hg', rfl⟩
  · rintro ⟨g, u, v, g', hg, hu, hv, hg', rfl⟩
    exact ⟨_, g', written_items.mpr ⟨_, v, ⟨g, u, hg, hu, rfl⟩, hv, rfl⟩, hg', rfl⟩

theorem all_series {p : String → Bool} (hp : p ",") (d : Doc) (ds : List Doc) :
    (series d ds).all p = (d.all p && ds.all (Doc.all p)) := by
  have hitems : ∀ acc : Doc,
      (ds.foldl (fun acc x => acc ++ .word "," ++ .gap 1 0 false ++ x) acc).all p =
        (acc.all p && ds.all (Doc.all p)) := by
    induction ds with
    | nil => simp
    | cons d ds ih =>
      intro acc
      rw [List.foldl_cons, ih]
      simp [hp, Bool.and_assoc]
  simp [series, hitems]

end Layout

namespace Code

open Layout Token

theorem GapText.reads_comma {g : List Char} (hg : GapText 1 false g) {s rest : List Char}
    {es : List Token} (h : ReadsTo s es rest) (hes : closes es = false) :
    ReadsTo (',' :: (g ++ s)) (.mark ',' false :: es) rest :=
  ((ReadsTo.gap hg s).trans h).comma hes

theorem reads_following {ds : List Doc} {ess : List (List Token)}
    (h : List.Forall₂ Doc.Reads ds ess) {v : List Char} (hv : Following ds v) {rest : List Char}
    (hr : Clear rest) :
    ReadsTo (v ++ rest) (ess.flatMap fun f => .mark ',' false :: f) rest ∧ Clear (v ++ rest) := by
  induction h generalizing v with
  | nil =>
    obtain rfl : v = [] := hv
    exact ⟨.refl rest, hr⟩
  | cons hd hds ih =>
    obtain ⟨g, u, v, hg, hu, hv, rfl⟩ := hv
    obtain ⟨hread, hclear⟩ := ih hv
    have hu := hd.legible u hu
    refine ⟨?_, .of_head (by decide) (by decide) _⟩
    have hitem := GapText.reads_comma hg (hu.reads _ hclear) hu.first
    have hrest := hitem.trans hread
    simpa using hrest

theorem reads_series {d : Doc} {ds : List Doc} {e : List Token} {ess : List (List Token)}
    (h : List.Forall₂ Doc.Reads (d :: ds) (e :: ess)) {s : List Char}
    (hs : (series d ds).Written s) :
    ∃ t g, GapText 0 true g ∧ s = t ++ g ∧ ∀ rest, Clear rest → (t ++ rest).head? ≠ some '/' ∧
      ReadsTo (t ++ rest) (separated (e :: ess)) rest := by
  obtain ⟨g, u, v, g', hg, hu, hv, hg', rfl⟩ := written_series.mp hs
  cases h with
  | cons hd hds =>
    have hu := hd.legible u hu
    refine ⟨g ++ u ++ v, g', hg', rfl, fun rest hr => ?_⟩
    obtain ⟨hread, hclear⟩ := reads_following hds hv hr
    rw [List.append_assoc, List.append_assoc]
    have hfirst := (ReadsTo.gap hg _).trans (hu.reads _ hclear)
    refine ⟨GapText.head_ne hg (hu.head_ne _), ?_⟩
    simpa [separated] using hfirst.trans hread

inductive Prefixed (o : Char) : List Char → List Token → Prop where
  | bare : Prefixed o [o] []
  | behind {s : List Char} {es : List Token} (h : Legible s es) : Prefixed o (s ++ [o]) es

namespace Prefixed

variable {o : Char} {s : List Char} {es : List Token}

theorem head (h : Prefixed o s es) (ho : o ∉ ['/', '\ufeff']) :
    ∃ c t, s = c :: t ∧ c ∉ ['/', '\ufeff'] := by
  cases h with
  | bare => exact ⟨o, [], rfl, ho⟩
  | behind h => exact head_append h.head [o]

theorem first (h : Prefixed o s es) {fs : List Token} (hfs : closes fs = false) :
    closes (es ++ fs) = false := by
  cases h with
  | bare => exact hfs
  | behind h => exact closes_append h.first fs

theorem reads (h : Prefixed o s es) {t rest : List Char} {fs : List Token}
    (ho : ∀ t, Clear (o :: t)) (ht : ReadsTo (o :: t) fs rest) :
    ReadsTo (s ++ t) (es ++ fs) rest := by
  cases h with
  | bare => exact ht
  | behind h =>
    have hs := h.reads _ (ho t)
    rw [List.append_assoc]
    exact hs.trans ht

end Prefixed

section

variable {opening closing : String} {es : List Token} {ds : List Doc} {ess : List (List Token)}

theorem written_enclosed {d : Doc} {k : Int} {s : List Char}
    (h : (enclosedAt k opening closing (d :: ds)).Written s) :
    ∃ u, (series d ds).Written u ∧ s = opening.toList ++ (u ++ closing.toList) := by
  obtain ⟨_, w, hinside, hw, rfl⟩ := Doc.written_append.mp h
  obtain ⟨v, u, hv, hu, rfl⟩ := Doc.written_append.mp hinside
  obtain rfl : v = opening.toList := hv
  obtain rfl : w = closing.toList := hw
  exact ⟨u, Doc.written_box.mp hu, List.append_assoc _ _ _⟩

theorem all_enclosed (hopening : isCodeWord opening) (hclosing : isCodeWord closing)
    (h : List.Forall₂ Doc.Reads ds ess) (k : Int) :
    (enclosedAt k opening closing ds).all isCodeWord := by
  have hwords : ds.all (Doc.all isCodeWord) := by
    induction h with
    | nil => rfl
    | cons hd _ ih => rw [List.all_cons, hd.words, ih, Bool.and_self]
  cases ds with
  | nil => exact isCodeWord_append hopening hclosing
  | cons d ds =>
    rw [enclosedAt, Doc.all_append, Doc.all_append, Doc.all_box, all_series (by decide)]
    simpa [hopening, hclosing] using hwords

theorem reads_enclosed {o c : Char} {b : Bracket} (ho : openingOf o = some b)
    (hc : closingOf c = some b) (hopening : Prefixed o opening.toList es)
    (hclosing : closing.toList = [c]) (hword : isCodeWord opening)
    (h : List.Forall₂ Doc.Reads ds ess) (k : Int) :
    (enclosedAt k opening closing ds).Reads (es ++ [.group b (separated ess)]) := by
  have hochar : sticks o = false ∧ o ≠ '.' ∧ o ∉ ['/', '\ufeff'] := by
    rcases eq_of_openingOf ho with rfl | rfl | rfl <;> decide
  have hcchar : sticks c = false ∧ c ≠ '.' ∧ c ∉ ['\n', '\r', '/'] := by
    rcases eq_of_closingOf hc with rfl | rfl | rfl <;> decide
  have hslash : c ≠ '/' := by
    rcases eq_of_closingOf hc with rfl | rfl | rfl <;> decide
  have hclear (t : List Char) : Clear (o :: t) := .of_head hochar.1 hochar.2.1 t
  have hclosingWord : isCodeWord closing := by
    refine isCodeWord_of_forall fun d hd => ?_
    obtain rfl : d = c := by simpa [hclosing] using hd
    exact hcchar.2.2
  refine ⟨all_enclosed hword hclosingWord h k, fun s hs => ?_⟩
  cases h with
  | nil =>
    obtain rfl : s = (opening ++ closing).toList := hs
    rw [String.toList_append, hclosing]
    refine ⟨fun rest _ => ?_, head_append (hopening.head hochar.2.2) [c], hopening.first rfl⟩
    have hgroup : ReadsTo (o :: c :: rest) [.group b (separated [])] rest :=
      .group ho hc (by simpa using hslash) (.refl _) (.inl rfl : GapText 0 false [])
    simpa using hopening.reads hclear hgroup
  | cons hd hds =>
    obtain ⟨u, hu, rfl⟩ := written_enclosed hs
    obtain ⟨t, g, hg, rfl, hread⟩ := reads_series (.cons hd hds) hu
    rw [hclosing]
    refine ⟨fun rest _ => ?_, head_append (hopening.head hochar.2.2) _, hopening.first rfl⟩
    have hrest : Clear (g ++ c :: rest) := GapText.clear hg (.of_head hcchar.1 hcchar.2.1 rest)
    obtain ⟨hhead, hinner⟩ := hread _ hrest
    simpa using hopening.reads hclear (.group ho hc hhead hinner hg)

theorem reads_angled {e : List Token} (hopening : Prefixed '<' opening.toList es)
    (hclosing : closing.toList = ['>']) (hword : isCodeWord opening)
    (h : List.Forall₂ Doc.Reads ds (e :: ess)) (k : Int) :
    (enclosedAt k opening closing ds).Reads
      (es ++ .mark '<' false :: (separated (e :: ess) ++ [.mark '>' false])) := by
  have hclear (t : List Char) : Clear ('<' :: t) := .of_head (by decide) (by decide) t
  have hclosingWord : isCodeWord closing := by
    refine isCodeWord_of_forall fun d hd => ?_
    obtain rfl : d = '>' := by simpa [hclosing] using hd
    decide
  refine ⟨all_enclosed hword hclosingWord h k, fun s hs => ?_⟩
  cases h with
  | cons hd hds =>
    obtain ⟨u, hu, rfl⟩ := written_enclosed hs
    obtain ⟨t, g, hg, rfl, hread⟩ := reads_series (.cons hd hds) hu
    rw [hclosing]
    refine ⟨fun rest _ => ?_, head_append (hopening.head (by decide)) _, hopening.first rfl⟩
    have hrest : Clear (g ++ '>' :: rest) :=
      GapText.clear hg (.of_head (by decide) (by decide) rest)
    have hinner := (hread _ hrest).2.trans (ReadsTo.angle hg rest)
    have hmark :=
      ReadsTo.mark (by decide : '<' ∈ plainMarks) (by decide) (t ++ (g ++ '>' :: rest))
    simpa using hopening.reads hclear (hmark.trans hinner)

theorem reads_bracketed {d : Doc} (h : d.Reads es) :
    (.word "(" ++ d ++ .word ")" : Doc).Reads [.group .round es] where
  words := by
    rw [Doc.all_append, Doc.all_append, h.words]
    decide
  legible s hs := by
    obtain ⟨_, w, hinside, hw, rfl⟩ := Doc.written_append.mp hs
    obtain ⟨v, u, hv, hu, rfl⟩ := Doc.written_append.mp hinside
    obtain rfl : v = ['('] := hv
    obtain rfl : w = [')'] := hw
    have hu := h.legible u hu
    refine ⟨fun rest _ => ?_, ⟨'(', _, rfl, by decide⟩, rfl⟩
    have hinner := hu.reads (')' :: rest) (.of_head (by decide) (by decide) rest)
    have hgap : GapText 0 false [] := .inl rfl
    have hopening : openingOf '(' = some .round := rfl
    have hgroup := ReadsTo.group hopening rfl (hu.head_ne _) hinner hgap
    simpa using hgroup

end

end Code

end TypedMarkup
