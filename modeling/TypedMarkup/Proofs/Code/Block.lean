import Mathlib.Data.List.Forall2
import TypedMarkup.Proofs.Code.Syntax
import TypedMarkup.Proofs.Grammar.Signature

namespace TypedMarkup.Code

open Text Token Layout

structure ReadLines (ls : List Line) (es : List Token) : Prop where
  words : ∀ l ∈ ls, isCodeWord l.text
  reads : ∀ rest, ReadsTo (ls.flatMap Line.ended ++ rest) es rest

namespace ReadLines

variable {ls ms : List Line} {es fs : List Token}

theorem lineCode_eq (h : ReadLines ls es) : ls.flatMap lineCode = ls.map Line.chars := by
  rw [List.map_eq_flatMap]
  exact List.flatMap_congr fun l hl => Code.lineCode_eq (h.words l hl)

theorem nil : ReadLines [] [] where
  words := by simp
  reads := .refl

theorem append (h : ReadLines ls es) (h' : ReadLines ms fs) : ReadLines (ls ++ ms) (es ++ fs) where
  words l hl := (List.mem_append.mp hl).elim (h.words l) (h'.words l)
  reads rest := by
    rw [List.flatMap_append, List.append_assoc]
    exact (h.reads _).trans (h'.reads rest)

theorem flatMap {α : Type} {xs : List α} {f : α → List Line} {g : α → List Token}
    (h : ∀ x ∈ xs, ReadLines (f x) (g x)) : ReadLines (xs.flatMap f) (xs.flatMap g) := by
  induction xs with
  | nil => exact nil
  | cons x xs ih =>
    rw [List.forall_mem_cons] at h
    exact h.1.append (ih h.2)

theorem ended_lines (d : Doc) (start indent : Nat) :
    ∃ s, d.Written s ∧
      (d.lines start indent).flatMap Line.ended = List.replicate start ' ' ++ s ++ ['\n'] := by
  obtain ⟨s, hs, hlines⟩ := d.written_lines start indent
  rw [toList_textOf] at hlines
  exact ⟨s, hs, hlines⟩

theorem of_doc {d : Doc} (h : d.Reads es) (start indent : Nat) :
    ReadLines (d.lines start indent) es where
  words := Doc.all_lines kept_isCodeWord h.words start indent
  reads rest := by
    obtain ⟨s, hs, hlines⟩ := ended_lines d start indent
    have hread := (h.legible s hs).reads ('\n' :: rest) (.of_head (by decide) (by decide) rest)
    have hend := (Scans.line 0 rest).readsTo settles_nil
    have hblank := (Scans.blanks start (s ++ '\n' :: rest)).readsTo settles_nil
    rw [hlines]
    simpa using hblank.trans (hread.trans hend)

theorem block {d : Doc} (h : d.Reads es) (start indent : Nat) (hls : ReadLines ls fs) (k : Nat) :
    ReadLines ((d ++ Doc.word " \x7b").lines start indent ++ ls ++ [⟨k, "\x7d"⟩])
      (es ++ [.group .curly fs]) where
  words := by
    have hopening : (d ++ Doc.word " \x7b").all isCodeWord := by
      rw [Doc.all_append, h.words]
      decide
    intro l hl
    simp only [List.mem_append, List.mem_singleton] at hl
    rcases hl with (hl | hl) | rfl
    · exact Doc.all_lines kept_isCodeWord hopening start indent l hl
    · exact hls.words l hl
    · exact (by decide : isCodeWord "\x7d")
  reads rest := by
    obtain ⟨s, hs, hlines⟩ := ended_lines (d ++ Doc.word " \x7b") start indent
    obtain ⟨u, v, hu, hv, rfl⟩ := Doc.written_append.mp hs
    obtain rfl : v = [' ', '\x7b'] := hv
    have hgap : GapText k false (List.replicate k ' ') := .inl rfl
    let inner := ls.flatMap Line.ended ++ (List.replicate k ' ' ++ '\x7d' :: '\n' :: rest)
    have hinner : ReadsTo ('\n' :: inner) fs (List.replicate k ' ' ++ '\x7d' :: '\n' :: rest) :=
      ((Scans.line 0 inner).readsTo settles_nil).trans (hls.reads _)
    have hopening : openingOf '\x7b' = some .curly := rfl
    have hgroup := ReadsTo.group hopening rfl (by simp) hinner hgap
    have hspace :=
      (Scans.space (by decide : isSpace ' ') ('\x7b' :: '\n' :: inner)).readsTo settles_nil
    have hread := (h.legible u hu).reads (' ' :: '\x7b' :: '\n' :: inner)
      (.of_head (by decide) (by decide) _)
    have hblank := (Scans.blanks start (u ++ ' ' :: '\x7b' :: '\n' :: inner)).readsTo settles_nil
    have hend := (Scans.line 0 rest).readsTo settles_nil
    have hall := hblank.trans (hread.trans (hspace.trans (hgroup.trans hend)))
    rw [List.flatMap_append, List.flatMap_append, hlines]
    simpa [inner, Line.ended, Line.chars] using hall

end ReadLines

theorem legible_of_line {d : Doc} {es : List Token} {w : String} (h : d.Reads es)
    (hline : d.lines 0 0 = [⟨0, w⟩]) : Legible w.toList es := by
  obtain ⟨s, hs, hlines⟩ := ReadLines.ended_lines d 0 0
  have htext : w.toList ++ ['\n'] = s ++ ['\n'] := by
    rw [hline] at hlines
    simpa [Line.ended, Line.chars] using hlines
  rw [List.append_cancel_right htext]
  exact h.legible s hs

theorem lines_opening (w : String) (i j : Nat) :
    (.word w ++ .word " \x7b" : Doc).lines i j = [⟨i, w ++ " \x7b"⟩] := by
  have hempty (s : String) : "" ++ s = s := by simp
  exact congrArg (fun s => [(⟨i, s ++ " \x7b"⟩ : Line)]) (hempty w)

theorem lines_word (w : String) (i j : Nat) : (Doc.word w).lines i j = [⟨i, w⟩] := by
  have hempty (s : String) : "" ++ s = s := by simp
  exact congrArg (fun s => [(⟨i, s⟩ : Line)]) (hempty w)

namespace Stmt

def tokens : Stmt → List Token
  | run e => e.tokens ++ [.mark ';' false]
  | value e => e.tokens
  | bind n e => .word "let" :: (code n ++ .mark '=' false :: (e.tokens ++ [.mark ';' false]))
  | choose n c yes no =>
    .word "let" :: (code n ++ .mark '=' false :: .word "if" :: (code c ++
      [.group .curly [.literal .text (Text.literal yes)], .word "else",
        .group .curly [.literal .text (Text.literal no)], .mark ';' false]))
  | update i s n e =>
    .word "for" :: (code i ++ .word "in" :: (code s ++
      [.group .curly (code n ++ .mark '=' false :: (e.tokens ++ [.mark ';' false]))]))

def isLegible : Stmt → Bool
  | run e | value e => e.isLegible
  | bind n e => isWord n && e.isLegible
  | choose n c _ _ => isWord n && isWord c
  | update i s n e => i == "(k, v)" && isWord s && isWord n && e.isLegible

theorem reads_end {d : Doc} {es : List Token} (h : d.Reads es) :
    (d ++ .word ";" : Doc).Reads (es ++ [.mark ';' false]) := by
  have hmark : Legible ";".toList [.mark ';' false] := legible_of_lex rfl rfl
  exact h.append (.word (by decide) hmark) rfl

theorem reads_assignment {w : String} {es : List Token} {e : Expr} (hword : isCodeWord w)
    (hw : Legible w.toList es) (he : e.isLegible) :
    (.word (w ++ " = ") ++ e.doc false false ++ .word ";" : Doc).Reads
      (es ++ .mark '=' false :: (e.tokens ++ [.mark ';' false])) := by
  have hequal : Opens " = ".toList [.mark '=' false] := opens_of_lex rfl rfl (by decide)
  have hword := isCodeWord_append hword (by decide : isCodeWord " = ")
  have hread := Doc.Reads.of_opens hword (opens_name hw hequal (by decide)) (e.reads false false he)
  simpa using reads_end hread

theorem legible_braces {s : List Char} {es : List Token} (h : Legible s es) :
    Legible (' ' :: '\x7b' :: ' ' :: (s ++ [' ', '\x7d'])) [.group .curly es] where
  reads rest hrest := by
    have hgap : GapText 1 false [' '] := .inl rfl
    have hinner := h.reads (' ' :: '\x7d' :: rest) (.of_head (by decide) (by decide) _)
    have hspace (t : List Char) : ReadsTo (' ' :: t) [] t :=
      (Scans.space (by decide) t).readsTo settles_nil
    have hopening : openingOf '\x7b' = some .curly := rfl
    have hgroup := ReadsTo.group hopening rfl (by simp) ((hspace _).trans hinner) hgap
    simpa using (hspace _).trans hgroup
  head := ⟨' ', _, rfl, by decide⟩
  first := rfl

theorem reads_choose {n c : String} (hn : isWord n) (hc : isWord c) (yes no : String) :
    (Doc.word ("let " ++ n ++ " = if " ++ c ++ " \x7b " ++ Text.literal yes ++
      " \x7d else \x7b " ++ Text.literal no ++ " \x7d;")).Reads (choose n c yes no).tokens := by
  have hlet : Opens "let ".toList [.word "let"] := opens_of_lex rfl rfl (by decide)
  have hif : Opens " = if ".toList [.mark '=' false, .word "if"] :=
    opens_of_lex rfl rfl (by decide)
  have helse : Legible " else".toList [.word "else"] := legible_of_lex rfl rfl
  have hmark : Legible ";".toList [.mark ';' false] := legible_of_lex rfl rfl
  have hblank (s rest : List Char) : Clear (' ' :: s ++ rest) := .of_head (by decide) (by decide) _
  have hname := (hlet.append (legible_of_isWord hn)).opens hif fun rest => hblank _ rest
  have hcondition := hname.append (legible_of_isWord hc)
  have hyes := hcondition.append (legible_braces (legible_literal yes)) fun rest _ => hblank _ rest
  have hother := hyes.append helse fun rest _ => hblank _ rest
  have hno := hother.append (legible_braces (legible_literal no)) fun rest _ => hblank _ rest
  have hall := hno.append hmark fun rest _ => .of_head (by decide) (by decide) _
  refine .word ?_ ?_
  · have hword := isCodeWord_append (by decide : isCodeWord "let ") (isCodeWord_of_isWord hn)
    have hword := isCodeWord_append hword (by decide : isCodeWord " = if ")
    have hword := isCodeWord_append hword (isCodeWord_of_isWord hc)
    have hword := isCodeWord_append hword (by decide : isCodeWord " \x7b ")
    have hword := isCodeWord_append hword (isCodeWord_literal yes)
    have hword := isCodeWord_append hword (by decide : isCodeWord " \x7d else \x7b ")
    have hword := isCodeWord_append hword (isCodeWord_literal no)
    exact isCodeWord_append hword (by decide : isCodeWord " \x7d;")
  · simpa [tokens] using hall

theorem legible_pair :
    Legible "(k, v)".toList [.group .round (separated [code "k", code "v"])] := by
  have hk : isWord "k" := by decide
  have hv : isWord "v" := by decide
  have hpair := reads_round (.cons (.of_isWord hk) (.cons (.of_isWord hv) .nil))
  have hline : (enclosed "(" ")" [.word "k", .word "v"]).lines 0 0 = [⟨0, "(k, v)"⟩] := by decide
  exact legible_of_line hpair hline

theorem reads {s : Stmt} (h : s.isLegible) (indent : Nat) :
    ReadLines (s.lines indent) s.tokens := by
  cases s with
  | run e => exact .of_doc (reads_end (e.reads false true h)).box indent indent
  | value e => exact .of_doc (e.reads false true h).box indent indent
  | bind n e =>
    simp only [isLegible, Bool.and_eq_true] at h
    have hlet : Opens "let ".toList [.word "let"] := opens_of_lex rfl rfl (by decide)
    have hname := hlet.append (legible_of_isWord h.1)
    rw [← String.toList_append] at hname
    have hword := isCodeWord_append (by decide : isCodeWord "let ") (isCodeWord_of_isWord h.1)
    have hread := reads_assignment hword hname h.2
    exact .of_doc (by simpa [tokens] using hread.box) indent indent
  | choose n c yes no =>
    simp only [isLegible, Bool.and_eq_true] at h
    have hread := ReadLines.of_doc (reads_choose h.1 h.2 yes no) indent indent
    rwa [lines_word] at hread
  | update i s n e =>
    simp only [isLegible, Bool.and_eq_true, beq_iff_eq] at h
    obtain ⟨⟨⟨rfl, hs⟩, hn⟩, he⟩ := h
    have hfor : Opens "for ".toList [.word "for"] := opens_of_lex rfl rfl (by decide)
    have hin : Opens " in ".toList [.word "in"] := opens_of_lex rfl rfl (by decide)
    have hpair := hfor.append legible_pair
    rw [← String.toList_append] at hpair
    have hsource := (opens_name hpair hin (by decide)).append (legible_of_isWord hs)
    rw [← String.toList_append] at hsource
    have hword := isCodeWord_append (by decide : isCodeWord ("for " ++ "(k, v)" ++ " in "))
      (isCodeWord_of_isWord hs)
    have hbody := reads_assignment (isCodeWord_of_isWord hn) (legible_of_isWord hn) he
    have hlines := ReadLines.of_doc (hbody.box (f := .filled) (k := 0)) (indent + 4) (indent + 4)
    have hblock := ReadLines.block (.word hword hsource) indent indent hlines indent
    rw [lines_opening] at hblock
    simpa [tokens, lines, legible_pair.code] using hblock

end Stmt

def Param.tokens (p : Param) : List Token :=
  code p.name ++ .mark ':' false :: p.type.tokens

def Receiver.tokens : Receiver → List (List Token)
  | none => []
  | owned => [[.word "self"]]
  | mutable => [[.word "mut", .word "self"]]

namespace Signature

def paramTokens (s : Signature) : List Token :=
  separated (s.receiver.tokens ++ s.params.map Param.tokens)

def resultTokens (s : Signature) : List Token :=
  if s.result.isEmpty then [] else .mark '-' false :: .mark '>' false :: code s.result

def tokens (s : Signature) : List Token :=
  code s.access ++ .word "fn" :: (code s.name ++ .group .round s.paramTokens :: s.resultTokens)

def isLegible (s : Signature) : Bool :=
  accesses.contains s.access && isIdentifier s.name.toList &&
    s.params.all (fun p => isWord p.name && p.type.isLegible) &&
    (s.result.isEmpty || isIdentifier s.result.toList)

theorem code_empty : code "" = [] := by
  simp [code, tokensOf, Token.ofChars, scan, settledAll]

theorem opens_pub : Opens "pub ".toList [.word "pub"] :=
  opens_of_lex rfl rfl (by decide)

theorem legible_crate :
    Legible "pub(crate)".toList [.word "pub", .group .round [.word "crate"]] := by
  have hpub : Legible "pub".toList [.word "pub"] := legible_of_lex rfl rfl
  have hcrate : Legible "crate".toList [.word "crate"] := legible_of_lex rfl rfl
  have hopening : Prefixed '(' "pub(".toList [.word "pub"] := .behind hpub
  have hgroup := reads_enclosed (rfl : openingOf '(' = some .round) rfl hopening
    (rfl : ")".toList = [')']) (by decide) (.cons (.word (by decide) hcrate) .nil) 4
  have hline : (enclosedAt 4 "pub(" ")" [.word "crate"]).lines 0 0 = [⟨0, "pub(crate)"⟩] := by
    decide
  exact legible_of_line hgroup hline

theorem code_crate : code "pub(crate) " = [.word "pub", .group .round [.word "crate"]] := by
  have hread := legible_crate.reads [' '] (.of_head (by decide) (by decide) [])
  have hspace := (Scans.space (by decide : isSpace ' ') []).readsTo settles_nil
  exact code_of_readsTo (hread.trans hspace) ⟨'p', _, rfl, by decide⟩

theorem opens_access {access : String} (h : accesses.contains access) :
    Opens (access ++ "fn ").toList (code access ++ [.word "fn"]) := by
  rcases cases_access h with rfl | rfl | rfl
  · rw [code_empty]
    exact opens_of_lex rfl rfl (by decide)
  · rw [opens_pub.code]
    exact opens_of_lex rfl rfl (by decide)
  · have hfn : Opens " fn ".toList [.word "fn"] := opens_of_lex rfl rfl (by decide)
    rw [code_crate]
    exact legible_crate.opens hfn fun rest => .of_head (by decide) (by decide) _

theorem reads_param {p : Param} (hn : isWord p.name) (ht : p.type.isLegible) :
    p.doc.Reads p.tokens := by
  have hcolon : Opens ": ".toList [.mark ':' false] := opens_of_lex rfl rfl (by decide)
  have hword := isCodeWord_append (isCodeWord_of_isWord hn) (by decide : isCodeWord ": ")
  have hname := opens_name (legible_of_isWord hn) hcolon (by decide)
  have hread := Doc.Reads.of_opens hword hname (Ty.reads ht)
  rwa [List.append_assoc] at hread

theorem reads_args {s : Signature} (h : s.params.all fun p => isWord p.name && p.type.isLegible) :
    List.Forall₂ Doc.Reads s.args (s.receiver.tokens ++ s.params.map Param.tokens) := by
  have hparams : List.Forall₂ Doc.Reads (s.params.map Param.doc) (s.params.map Param.tokens) := by
    rw [List.forall₂_map_left_iff, List.forall₂_map_right_iff, List.forall₂_same]
    intro p hp
    have hparam := List.all_eq_true.mp h p hp
    rw [Bool.and_eq_true] at hparam
    exact reads_param hparam.1 hparam.2
  have howned : Legible "self".toList [.word "self"] := legible_of_lex rfl rfl
  have hmutable : Legible "mut self".toList [.word "mut", .word "self"] := legible_of_lex rfl rfl
  unfold args
  cases s.receiver with
  | none => exact hparams
  | owned => exact .cons (.word (by decide) howned) hparams
  | mutable => exact .cons (.word (by decide) hmutable) hparams

theorem reads {s : Signature} (h : s.isLegible) : s.doc.Reads s.tokens := by
  simp only [isLegible, Bool.and_eq_true, Bool.or_eq_true] at h
  obtain ⟨⟨⟨haccess, hname⟩, hparams⟩, hresult⟩ := h
  have hnameWord := isWord_of_isIdentifier hname
  have haccessWord : isCodeWord s.access := by
    rcases cases_access haccess with h | h | h <;> rw [h] <;> decide
  have hopens := (opens_access haccess).append (legible_of_isWord hnameWord)
  rw [← String.toList_append] at hopens
  have hopening : Prefixed '(' (s.access ++ "fn " ++ s.name ++ "(").toList
      (code s.access ++ [.word "fn"] ++ code s.name) := by
    rw [String.toList_append]
    exact .behind hopens
  have hword := isCodeWord_append
    (isCodeWord_append (isCodeWord_append haccessWord (by decide : isCodeWord "fn "))
      (isCodeWord_of_isWord hnameWord)) (by decide : isCodeWord "(")
  have hargs := reads_enclosed (rfl : openingOf '(' = some .round) rfl hopening
    (rfl : ")".toList = [')']) hword (reads_args hparams) 0
  unfold doc tokens resultTokens
  split
  · simpa [paramTokens] using hargs
  · rename_i hne
    have harrow : Opens " -> ".toList [.mark '-' false, .mark '>' false] :=
      opens_of_lex rfl rfl (by decide)
    have hresultWord := isWord_of_isIdentifier (hresult.resolve_left hne)
    have hread := harrow.append (legible_of_isWord hresultWord)
    rw [← String.toList_append] at hread
    have hback : (Doc.word (" -> " ++ s.result)).Reads
        ([.mark '-' false, .mark '>' false] ++ code s.result) :=
      .word (isCodeWord_append (by decide) (isCodeWord_of_isWord hresultWord)) hread
    have happart : (Doc.word (" -> " ++ s.result)).isApart := Doc.isApart_append (by decide) _
    simpa [paramTokens] using hargs.append (hback.box (f := .consistent) (k := -4)) happart

end Signature

end TypedMarkup.Code
