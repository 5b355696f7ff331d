import TypedMarkup.Proofs.Code.Printed

namespace TypedMarkup.Code

open Text Token Layout

theorem reads_round {ds : List Doc} {ess : List (List Token)}
    (h : List.Forall₂ Doc.Reads ds ess) :
    (enclosed "(" ")" ds).Reads [.group .round (separated ess)] := by
  have hopening : Prefixed '(' "(".toList [] := .bare
  exact reads_enclosed (rfl : openingOf '(' = some .round) rfl hopening rfl (by decide) h 4

theorem reads_square {ds : List Doc} {ess : List (List Token)}
    (h : List.Forall₂ Doc.Reads ds ess) :
    (enclosed "[" "]" ds).Reads [.group .square (separated ess)] := by
  have hopening : Prefixed '[' "[".toList [] := .bare
  exact reads_enclosed (rfl : openingOf '[' = some .square) rfl hopening rfl (by decide) h 4

namespace Ty

def tokens : Ty → List Token
  | named p => code p
  | reference t => .mark '&' false :: t.tokens
  | some t => .word "impl" :: t.tokens
  | applied h t => code h ++ .mark '<' false :: (separated [t.tokens] ++ [.mark '>' false])
  | bound h n t =>
    code h ++ .mark '<' false ::
      (separated [code n ++ .mark '=' false :: t.tokens] ++ [.mark '>' false])
  | pair a b => [.group .round (separated [a.tokens, b.tokens])]

def isLegible : Ty → Bool
  | named p => isWord p
  | reference t | some t => t.isLegible
  | applied h t => isWord h && t.isLegible
  | bound h n t => isWord h && isWord n && t.isLegible
  | pair a b => a.isLegible && b.isLegible

end Ty

theorem opens_mark {c : Char} (hc : c ∈ plainMarks) (hcomma : c ≠ ',') (hangle : c ≠ '>')
    (hslash : c ∉ ['/', '\ufeff']) : Opens [c] [.mark c false] where
  reads rest := .mark hc hcomma rest
  head := ⟨c, [], rfl, hslash⟩
  first := beq_false_of_ne hangle

theorem opens_name {w v : String} {es fs : List Token} (hw : Legible w.toList es)
    (hv : Opens v.toList fs) (hclear : (Doc.word v).isApart) :
    Opens (w ++ v).toList (es ++ fs) := by
  rw [String.toList_append]
  exact hw.opens hv fun rest => Doc.clear_of_isApart hclear rfl rest

theorem prefixed_word {w : String} {o : Char} (hw : isWord w) :
    Prefixed o (w ++ String.singleton o).toList (code w) := by
  rw [String.toList_append, String.toList_singleton]
  exact .behind (legible_of_isWord hw)

theorem Ty.reads {t : Ty} (h : t.isLegible) : t.doc.Reads t.tokens := by
  induction t with
  | named p => exact .of_isWord h
  | reference t ih =>
    have hmark : Opens "&".toList [.mark '&' false] :=
      opens_mark (by decide) (by decide) (by decide) (by decide)
    exact .of_opens (by decide) hmark (ih h)
  | some t ih =>
    have hword : Opens "impl ".toList [.word "impl"] := opens_of_lex rfl rfl (by decide)
    exact .of_opens (by decide) hword (ih h)
  | applied f t ih =>
    simp only [isLegible, Bool.and_eq_true] at h
    have hword := isCodeWord_append (isCodeWord_of_isWord h.1) (by decide : isCodeWord "<")
    exact reads_angled (prefixed_word h.1) rfl hword (.cons (ih h.2) .nil) 4
  | bound f n t ih =>
    simp only [isLegible, Bool.and_eq_true] at h
    obtain ⟨⟨hf, hn⟩, ht⟩ := h
    have hword := isCodeWord_append (isCodeWord_of_isWord hf) (by decide : isCodeWord "<")
    have hequal : Opens " = ".toList [.mark '=' false] := opens_of_lex rfl rfl (by decide)
    have hname := opens_name (legible_of_isWord hn) hequal (by decide)
    have hitem := Doc.Reads.of_opens
      (isCodeWord_append (isCodeWord_of_isWord hn) (by decide)) hname (ih ht)
    have hitem' : (.word (n ++ " = ") ++ t.doc : Doc).Reads
        (code n ++ .mark '=' false :: t.tokens) := by
      simpa using hitem
    exact reads_angled (prefixed_word hf) rfl hword (.cons hitem' .nil) 4
  | pair a b iha ihb =>
    simp only [isLegible, Bool.and_eq_true] at h
    exact reads_round (.cons (iha h.1) (.cons (ihb h.2) .nil))

def isPath (s : String) : Bool :=
  isWord s && !s.toList.contains '.'

theorem isWord_of_isPath {s : String} (h : isPath s) : isWord s := by
  rw [isPath, Bool.and_eq_true] at h
  exact h.1

theorem point_not_mem_of_isIdentifier {w : List Char} (h : isIdentifier w) : '.' ∉ w := by
  have hpoint {w : List Char} (hw : isName w) : '.' ∉ w := fun hc =>
    absurd (isNamePart_of_isName hw hc) (by decide)
  unfold isIdentifier at h
  split at h
  · rw [Bool.and_eq_true] at h
    simp [hpoint h.1]
  · exact hpoint h

theorem isPath_of_isIdentifier {s : String} (h : isIdentifier s.toList) : isPath s := by
  rw [isPath, isWord_of_isIdentifier h, Bool.true_and]
  simpa using point_not_mem_of_isIdentifier h

theorem isPath_outer {w : String} (h : isIdentifier w.toList) : isPath ("super::" ++ w) := by
  have hword : isWord ("super::" ++ w) := by
    simp only [isWord, isOuter_append h, Bool.or_true, Bool.true_or]
  rw [isPath, hword, Bool.true_and]
  simpa using point_not_mem_of_isIdentifier h

namespace Expr

mutual

def tokens : Expr → List Token
  | atom s => code s
  | text s => [.literal .text (Text.literal s)]
  | call f args => code f ++ [.group .round (separated (tokensEach args))]
  | method r n args =>
    r.tokens ++ .mark '.' false :: (code n ++ [.group .round (separated (tokensEach args))])
  | field r n => r.tokens ++ .mark '.' false :: code n
  | array es => [.group .square (separated (tokensEach es))]
  | tuple es => [.group .round (separated (tokensEach es))]
  | lambda p e => .mark '|' false :: (code p ++ .mark '|' false :: e.tokens)

def tokensEach : List Expr → List (List Token)
  | [] => []
  | e :: es => e.tokens :: tokensEach es

end

def isPlace : Expr → String → Bool
  | atom w, n => isName w.toList && n == "0"
  | _, _ => false

mutual

def isLegible : Expr → Bool
  | atom s => isWord s
  | text _ => true
  | call f args => isPath f && eachLegible args
  | method r n args => r.isLegible && isIdentifier n.toList && eachLegible args
  | field r n => r.isPlace n
  | array es | tuple es => eachLegible es
  | lambda p e => isWord p && e.isLegible

def eachLegible : List Expr → Bool
  | [] => true
  | e :: es => e.isLegible && eachLegible es

end

theorem reads_leaf {d : Doc} {es : List Token} (h : d.Reads es) (linked : Bool) :
    (leaf linked d).Reads es := by
  cases linked with
  | false => exact h
  | true => exact h.box

theorem isApart_enclosedArgs (args : List Expr) (ds : List Doc) :
    (enclosedArgs args ds).isApart := by
  unfold enclosedArgs
  split
  · split <;> rfl
  · cases ds <;> rfl

theorem reads_enclosedArgs (args : List Expr) {ds : List Doc} {ess : List (List Token)}
    (h : List.Forall₂ Doc.Reads ds ess) :
    (enclosedArgs args ds).Reads [.group .round (separated ess)] := by
  have henclosed := reads_round h
  unfold enclosedArgs
  split
  · split
    · obtain ⟨e, he⟩ : ∃ e, ess = [e] := by
        cases h with
        | cons _ h => cases h with
          | nil => exact ⟨_, rfl⟩
      subst he
      cases h with
      | cons hd _ => simpa [separated] using reads_bracketed hd
    · exact henclosed
  · exact henclosed

theorem starts_of_isIdentifier {n : String} (h : isIdentifier n.toList) :
    ∃ c s, n.toList = c :: s ∧ isNameStart c := by
  unfold isIdentifier at h
  split at h
  · rename_i w hs
    exact ⟨'r', '#' :: w, hs, by decide⟩
  · cases hs : n.toList with
    | nil => simp [hs, isName] at h
    | cons c s =>
      rw [hs, isName, Bool.and_eq_true] at h
      exact ⟨c, s, rfl, h.1⟩

theorem reads_member {d : Doc} {es : List Token} (h : d.Reads es) {n : String}
    (hn : isIdentifier n.toList) :
    (d ++ .word ("." ++ n) : Doc).Reads (es ++ .mark '.' false :: code n) := by
  have hpoint : Opens ".".toList [.mark '.' false] :=
    opens_mark (by decide) (by decide) (by decide) (by decide)
  have hword : isWord n := isWord_of_isIdentifier hn
  have hmember := hpoint.append (legible_of_isWord hword)
  obtain ⟨c, s, hc, hstart⟩ := starts_of_isIdentifier hn
  have hclear (rest : List Char) : Clear ('.' :: n.toList ++ rest) := by
    constructor
    · exact apart_cons (by decide) _
    · intro t ht
      obtain ⟨-, rfl⟩ := List.cons.inj ht
      simp [hc, isWordStart_of_isNameStart hstart]
  refine ⟨?_, fun s hs => ?_⟩
  · rw [Doc.all_append, h.words, Doc.all_word]
    exact isCodeWord_append (by decide) (isCodeWord_of_isWord hword)
  · obtain ⟨u, v, hu, hv, rfl⟩ := Doc.written_append.mp hs
    obtain rfl : v = '.' :: n.toList := by
      rw [Doc.written_word.mp hv, String.toList_append]
      rfl
    exact (h.legible u hu).append hmember fun rest _ => hclear rest

theorem written_link {d : Doc} {first : Bool} {r : Expr} {s : List Char}
    (h : (link first r d).Written s) : ∃ u g, d.Written u ∧ GapText 0 false g ∧ s = u ++ g := by
  unfold link at h
  split at h
  · exact ⟨s, [], h, .inl rfl, (List.append_nil s).symm⟩
  · exact Doc.written_append.mp h

theorem all_link {p : String → Bool} (d : Doc) (first : Bool) (r : Expr) :
    (link first r d).all p = d.all p := by
  unfold link
  split
  · rfl
  · exact Bool.and_true _

theorem reads_link {d : Doc} {es : List Token} (h : d.Reads es) (first : Bool) (r : Expr) :
    (link first r d).Reads es where
  words := by rw [all_link, h.words]
  legible s hs := by
    obtain ⟨u, g, hu, hg, rfl⟩ := written_link hs
    have hu := h.legible u hu
    refine ⟨fun rest hrest => ?_, head_append hu.head g, hu.first⟩
    rw [List.append_assoc]
    simpa using (hu.reads _ (GapText.clear hg hrest)).trans (ReadsTo.gap hg rest)

theorem legible_zero : Legible "0".toList [.literal .integer "0"] where
  reads _ hrest := (Scans.zero hrest).readsTo (settles_singleton rfl)
  head := ⟨'0', [], rfl, by decide⟩
  first := rfl

theorem reads_place {w : String} (hw : isName w.toList) (first : Bool) :
    (link first (atom w) ((atom w).doc true first) ++ .word ("." ++ "0")).Reads
      (code w ++ .mark '.' false :: code "0") where
  words := by
    have hword : isWord w := isWord_of_isName hw
    have hfirst : ((atom w).doc true first).all isCodeWord := isCodeWord_of_isWord hword
    rw [Doc.all_append, all_link, hfirst]
    decide
  legible s hs := by
    obtain ⟨t, v, ht, hv, rfl⟩ := Doc.written_append.mp hs
    obtain rfl : v = ['.', '0'] := hv
    obtain ⟨u, g, hu, hg, rfl⟩ := written_link ht
    obtain rfl : u = w.toList := hu
    have hname := legible_name hw
    rw [hname.code, legible_zero.code]
    refine ⟨fun rest hrest => ?_, head_append (head_append hname.head g) _, rfl⟩
    have hapart : Apart ('.' :: '0' :: rest) := apart_cons (by decide) _
    have hword := (Scans.name hw (GapText.apart hg hapart)).readsTo (settles_singleton rfl)
    have hpoint := ReadsTo.mark (by decide : '.' ∈ plainMarks) (by decide) ('0' :: rest)
    have hzero := legible_zero.reads rest hrest
    simpa [settled] using hword.trans ((ReadsTo.gap hg _).trans (hpoint.trans hzero))

theorem reads_field {r : Expr} {n : String} (h : r.isPlace n) (linked first : Bool) :
    ((field r n).doc linked first).Reads (field r n).tokens := by
  cases r with
  | atom w =>
    simp only [isPlace, Bool.and_eq_true, beq_iff_eq] at h
    obtain ⟨hw, rfl⟩ := h
    cases linked with
    | false => exact (reads_place hw first).box
    | true => exact reads_place hw first
  | _ => exact absurd h Bool.false_ne_true

mutual

theorem reads (e : Expr) (linked first : Bool) (h : e.isLegible) :
    (e.doc linked first).Reads e.tokens := by
  cases e with
  | atom s => exact reads_leaf (.of_isWord h) linked
  | text s => exact reads_leaf (.literal s) linked
  | call f args =>
    simp only [isLegible, Bool.and_eq_true] at h
    have hargs := reads_enclosedArgs args (reads_docs args h.2)
    exact (reads_leaf (.of_isWord (isWord_of_isPath h.1)) linked).append hargs
      (isApart_enclosedArgs _ _)
  | method r n args =>
    simp only [isLegible, Bool.and_eq_true] at h
    obtain ⟨⟨hr, hn⟩, hargs⟩ := h
    have hchain := reads_member (reads_link (reads r true first hr) first r) hn
    have hargs := reads_enclosedArgs args (reads_docs args hargs)
    have happart := isApart_enclosedArgs args (docs args)
    simp only [doc, tokens]
    rw [← List.cons_append, ← List.append_assoc]
    split
    · exact hchain.append hargs.box happart
    · exact (hchain.append hargs.box happart).box
  | field r n => exact reads_field h linked first
  | array es => exact reads_leaf (reads_square (reads_docs es h)) linked
  | tuple es => exact reads_leaf (reads_round (reads_docs es h)) linked
  | lambda p e =>
    simp only [isLegible, Bool.and_eq_true] at h
    have hbar : Opens "|".toList [.mark '|' false] :=
      opens_mark (by decide) (by decide) (by decide) (by decide)
    have hend : Opens "| ".toList [.mark '|' false] := opens_of_lex rfl rfl (by decide)
    have hname := hbar.append (legible_of_isWord h.1)
    rw [← String.toList_append] at hname
    have hparam := opens_name hname hend (by decide)
    have hword := isCodeWord_append
      (isCodeWord_append (by decide : isCodeWord "|") (isCodeWord_of_isWord h.1))
      (by decide : isCodeWord "| ")
    have hbody := Doc.Reads.of_opens hword hparam (reads e false false h.2)
    rw [List.append_assoc, List.append_assoc] at hbody
    cases linked with
    | false => exact hbody
    | true => exact ⟨hbody.words, hbody.legible⟩

theorem reads_docs (es : List Expr) (h : eachLegible es) :
    List.Forall₂ Doc.Reads (docs es) (tokensEach es) := by
  cases es with
  | nil => exact .nil
  | cons e es =>
    simp only [eachLegible, Bool.and_eq_true] at h
    exact .cons (reads e false false h.1) (reads_docs es h.2)

end

end Expr

end TypedMarkup.Code
