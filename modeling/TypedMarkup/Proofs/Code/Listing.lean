import TypedMarkup.Proofs.Code.Block

namespace TypedMarkup.Code

open Text Token Layout

def Declaration.tokens (d : Declaration) : List Token :=
  d.signature.tokens ++ [.mark ';' false]

def Function.tokens (f : Function) : List Token :=
  f.signature.tokens ++ [.group .curly (f.body.flatMap Stmt.tokens)]

def Function.isLegible (f : Function) : Bool :=
  f.attributes.isEmpty && f.signature.isLegible && f.body.all Stmt.isLegible

def isHeadName (s : String) : Bool :=
  isIdentifier s.toList && s != "for"

def Ty.isHead : Ty → Bool
  | named p => isHeadName p
  | applied f t => isHeadName f && t.isHead
  | _ => false

namespace Item

def tokens : Item → List Token
  | trait _ name above methods =>
    .word "pub" :: .word "trait" :: (code name ++ .mark ':' false :: (above.tokens ++
      [.group .curly (methods.flatMap Declaration.tokens)]))
  | function f => f.tokens
  | wrapper name inner =>
    .word "pub" :: .word "struct" :: (code name ++ [.group .round (code inner), .mark ';' false])
  | implementation provided type methods =>
    .word "impl" :: (provided.tokens ++ .word "for" :: (code type ++
      [.group .curly (methods.flatMap Function.tokens)]))
  | inherent type methods =>
    .word "impl" :: (code type ++ [.group .curly (methods.flatMap Function.tokens)])

def isLegible : Item → Bool
  | trait _ name above methods =>
    isHeadName name && above.isHead && methods.all fun d => d.signature.isLegible
  | function f => f.isLegible
  | wrapper name inner => isHeadName name && isWord inner
  | implementation provided type methods =>
    provided.isHead && isHeadName type && methods.all Function.isLegible
  | inherent type methods => isHeadName type && methods.all Function.isLegible

end Item

theorem legible_blank {s : List Char} {es : List Token} (h : Legible s es) :
    Legible (' ' :: s) es where
  reads rest hrest :=
    ((Scans.space (by decide) (s ++ rest)).readsTo settles_nil).trans (h.reads rest hrest)
  head := ⟨' ', s, rfl, by decide⟩
  first := h.first

theorem isWord_of_isHeadName {s : String} (h : isHeadName s) : isWord s := by
  rw [isHeadName, Bool.and_eq_true] at h
  exact isWord_of_isIdentifier h.1

theorem Ty.isLegible_of_isHead {t : Ty} (h : t.isHead) : t.isLegible := by
  induction t with
  | named p => exact isWord_of_isHeadName h
  | applied f t ih =>
    rw [isHead, Bool.and_eq_true] at h
    rw [isLegible, isWord_of_isHeadName h.1, ih h.2, Bool.and_self]
  | _ => exact absurd h Bool.false_ne_true

theorem Declaration.reads {d : Declaration} (h : d.signature.isLegible) (indent : Nat) :
    ReadLines (d.bare.lines indent) d.tokens :=
  .of_doc ((Stmt.reads_end (Signature.reads h)).box (f := .consistent) (k := 4)) indent indent

theorem Function.reads {f : Function} (h : f.isLegible) (indent : Nat) :
    ReadLines (f.bare.lines indent) f.tokens := by
  simp only [isLegible, Bool.and_eq_true, List.isEmpty_iff] at h
  obtain ⟨⟨hattributes, hsignature⟩, hbody⟩ := h
  have hlines : ReadLines (f.body.flatMap (Stmt.lines (indent + 4))) (f.body.flatMap Stmt.tokens) :=
    .flatMap fun s hs => Stmt.reads (List.all_eq_true.mp hbody s hs) (indent + 4)
  have hblock := ReadLines.block (Signature.reads hsignature) indent (indent + 4) hlines indent
  simpa [lines, bare, docLines, tokens, hattributes] using hblock

theorem reads_functions {fs : List Function} (h : fs.all Function.isLegible) :
    ReadLines ((fs.map Function.bare).flatMap (Function.lines 4)) (fs.flatMap Function.tokens) := by
  rw [List.flatMap_map]
  exact .flatMap fun f hf => Function.reads (List.all_eq_true.mp h f hf) 4

namespace Item

theorem reads_wrapper {name inner : String} (hname : isHeadName name)
    (hinner : isWord inner) : ReadLines (wrapper name inner).lines (wrapper name inner).tokens := by
  have hword := isWord_of_isHeadName hname
  have hstruct : Opens "pub struct ".toList [.word "pub", .word "struct"] :=
    opens_of_lex rfl rfl (by decide)
  have hopening := hstruct.append (legible_of_isWord hword)
  refine .of_doc (Doc.Reads.box ⟨?_, fun s hs => ?_⟩) 0 0
  · have hopening : isCodeWord ("pub struct " ++ name ++ "(") :=
      isCodeWord_append
        (isCodeWord_append (by decide : isCodeWord "pub struct ") (isCodeWord_of_isWord hword))
        (by decide)
    simp only [Doc.all_append, Doc.all_word, Doc.all_gap, hopening, isCodeWord_of_isWord hinner]
    decide
  · -- The brackets open and close in words that have more in them.
    obtain ⟨_, z, hclosing, hz, rfl⟩ := Doc.written_append.mp hs
    obtain ⟨_, g', hback, hg', rfl⟩ := Doc.written_append.mp hclosing
    obtain ⟨_, v, hinside, hv, rfl⟩ := Doc.written_append.mp hback
    obtain ⟨u, g, hu, hg, rfl⟩ := Doc.written_append.mp hinside
    obtain rfl : u = "pub struct ".toList ++ name.toList ++ ['('] := by
      rw [Doc.written_word.mp hu, String.toList_append, String.toList_append]
      rfl
    obtain rfl : v = inner.toList := hv
    obtain rfl : z = [')', ';'] := hz
    have hinner := legible_of_isWord hinner
    refine ⟨fun rest _ => ?_, ⟨'p', _, rfl, by decide⟩, rfl⟩
    have hclear : Clear (g' ++ ')' :: ';' :: rest) :=
      GapText.clear hg' (.of_head (by decide) (by decide) _)
    have hread := (ReadsTo.gap hg _).trans (hinner.reads _ hclear)
    have hparen : openingOf '(' = some .round := rfl
    have hgroup := ReadsTo.group hparen rfl (GapText.head_ne hg (hinner.head_ne _)) hread hg'
    have hmark := ReadsTo.mark (by decide : ';' ∈ plainMarks) (by decide) rest
    have hname := hopening.reads ('(' :: (g ++ (inner.toList ++ (g' ++ ')' :: ';' :: rest))))
      (.of_head (by decide) (by decide) _)
    simpa [tokens] using hname.trans (hgroup.trans hmark)

theorem reads {i : Item} (h : i.isLegible) : ReadLines i.bare.lines i.tokens := by
  cases i with
  | trait docs name above methods =>
    simp only [isLegible, Bool.and_eq_true] at h
    obtain ⟨⟨hname, habove⟩, hmethods⟩ := h
    have hword := isWord_of_isHeadName hname
    have htrait : Opens "pub trait ".toList [.word "pub", .word "trait"] :=
      opens_of_lex rfl rfl (by decide)
    have hcolon : Opens ": ".toList [.mark ':' false] := opens_of_lex rfl rfl (by decide)
    have hopening := htrait.append (legible_of_isWord hword)
    rw [← String.toList_append] at hopening
    have hcode := isCodeWord_append
      (isCodeWord_append (by decide : isCodeWord "pub trait ") (isCodeWord_of_isWord hword))
      (by decide : isCodeWord ": ")
    have hhead := Doc.Reads.of_opens hcode (opens_name hopening hcolon (by decide))
      (Ty.reads (Ty.isLegible_of_isHead habove))
    have hlines : ReadLines ((methods.map Declaration.bare).flatMap (Declaration.lines 4))
        (methods.flatMap Declaration.tokens) := by
      rw [List.flatMap_map]
      exact .flatMap fun d hd => Declaration.reads (List.all_eq_true.mp hmethods d hd) 4
    have hblock := ReadLines.block hhead 0 4 hlines 0
    simpa [lines, bare, docLines, tokens] using hblock
  | function f => exact Function.reads h 0
  | wrapper name inner =>
    simp only [isLegible, Bool.and_eq_true] at h
    exact reads_wrapper h.1 h.2
  | implementation provided type methods =>
    simp only [isLegible, Bool.and_eq_true] at h
    obtain ⟨⟨hprovided, htype⟩, hmethods⟩ := h
    have hword := isWord_of_isHeadName htype
    have hfor : Opens "for ".toList [.word "for"] := opens_of_lex rfl rfl (by decide)
    have hopening := hfor.append (legible_of_isWord hword)
    rw [← String.toList_append] at hopening
    have htarget := Doc.Reads.word
      (isCodeWord_append (by decide : isCodeWord "for ") (isCodeWord_of_isWord hword)) hopening
    have himpl (u : List Char)
        (hu : (.box .consistent 4 (.word "impl") ++ .word " " : Doc).Written u) :
        Opens u [.word "impl"] := by
      obtain ⟨v, w, hv, hw, rfl⟩ := Doc.written_append.mp hu
      obtain rfl : v = "impl".toList := hv
      obtain rfl : w = " ".toList := hw
      exact opens_of_lex rfl rfl (by decide)
    have hhead := Doc.Reads.opens_append (by decide) himpl
      (Ty.reads (Ty.isLegible_of_isHead hprovided))
    have hblock := ReadLines.block ((hhead.after_gap htarget 0 0).box (f := .filled) (k := -4)) 0 4
      (reads_functions hmethods) 0
    simpa [lines, bare, tokens] using hblock
  | inherent type methods =>
    simp only [isLegible, Bool.and_eq_true] at h
    have himpl : Legible "impl".toList [.word "impl"] := legible_of_lex rfl rfl
    have hword := isWord_of_isHeadName h.1
    have htype : Legible (" " ++ type).toList (code type) := by
      rw [String.toList_append]
      exact legible_blank (legible_of_isWord hword)
    have hhead := ((Doc.Reads.word (by decide) himpl).box (f := .consistent) (k := 4)).append
      (.word (isCodeWord_append (by decide) (isCodeWord_of_isWord hword)) htype)
      (Doc.isApart_append (by decide) type)
    have hblock := ReadLines.block (hhead.box (f := .filled) (k := -4)) 0 4
      (reads_functions h.2) 0
    simpa [lines, bare, tokens] using hblock

end Item

end TypedMarkup.Code
