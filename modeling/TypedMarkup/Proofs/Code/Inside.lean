import TypedMarkup.Proofs.Code.Listing
import TypedMarkup.Proofs.Layout.Edges

namespace TypedMarkup.Code

open Text Token Layout

def isInside (s : String) : Bool :=
  s.toList.head? != some '\x7d'

theorem isInside_append {s t : String} (hs : isInside s) (ht : isInside t) :
    isInside (s ++ t) := by
  simp only [isInside, bne_iff_ne, String.toList_append] at hs ht ⊢
  cases h : s.toList with
  | nil => simpa [h] using ht
  | cons c u => simpa [h] using hs

theorem isInside_of_isName {w : List Char} (h : isName w) : w.head? ≠ some '\x7d' := by
  intro hc
  exact absurd (isNamePart_of_isName h (List.mem_of_head? hc)) (by decide)

theorem isInside_of_isWord {s : String} (h : isWord s) : isInside s := by
  rw [isInside, bne_iff_ne]
  rcases isWord_cases h with h | ⟨w, -, rfl⟩ | ⟨p, hp, rfl⟩ | ⟨es, hes, -⟩
  · unfold isIdentifier at h
    split at h
    · rename_i w hs
      simp [hs]
    · exact isInside_of_isName h
  · simp
  · simp only [numbers, List.mem_cons, List.not_mem_nil, or_false] at hp
    rcases hp with rfl | rfl <;> decide
  · intro hc
    obtain ⟨t, ht⟩ := List.head?_eq_some_iff.mp hc
    have hbrace : isNamePart '\x7d' = false ∧ '\x7d' ∉ plainMarks := by decide
    simp [ht, lex, hbrace] at hes

theorem isInside_literal (s : String) : isInside (Text.literal s) := by
  simp [isInside, Text.literal]

theorem all_enclosedAt {p : String → Bool} (hcomma : p ",") {opening closing : String}
    (hopening : p opening) (hclosing : p closing) (hempty : p (opening ++ closing)) {ds : List Doc}
    (h : ∀ d ∈ ds, d.all p) (k : Int) : (enclosedAt k opening closing ds).all p := by
  cases ds with
  | nil => exact hempty
  | cons d ds =>
    rw [List.forall_mem_cons] at h
    have hds : ds.all (Doc.all p) := List.all_eq_true.mpr h.2
    rw [enclosedAt, Doc.all_append, Doc.all_append, Doc.all_box, all_series hcomma]
    simp [hopening, hclosing, h.1, hds]

theorem all_isInside_enclosedAt {opening closing : String} (hopening : isInside opening)
    (hclosing : isInside closing) {ds : List Doc} (h : ∀ d ∈ ds, d.all isInside) (k : Int) :
    (enclosedAt k opening closing ds).all isInside :=
  all_enclosedAt (by decide) hopening hclosing (isInside_append hopening hclosing) h k

theorem Ty.all_isInside {t : Ty} (h : t.isLegible) : t.doc.all isInside := by
  induction t with
  | named p => exact isInside_of_isWord h
  | reference t ih => exact ih h
  | some t ih => exact ih h
  | applied f t ih =>
    simp only [isLegible, Bool.and_eq_true] at h
    have hf := isInside_append (isInside_of_isWord h.1) (by decide : isInside "<")
    rw [doc, enclosed]
    refine all_isInside_enclosedAt hf (by decide : isInside ">") ?_ 4
    simpa using ih h.2
  | bound f n t ih =>
    simp only [isLegible, Bool.and_eq_true] at h
    have hf := isInside_append (isInside_of_isWord h.1.1) (by decide : isInside "<")
    have hn := isInside_append (isInside_of_isWord h.1.2) (by decide : isInside " = ")
    rw [doc, enclosed]
    refine all_isInside_enclosedAt hf (by decide : isInside ">") ?_ 4
    simpa [hn] using ih h.2
  | pair a b iha ihb =>
    simp only [isLegible, Bool.and_eq_true] at h
    rw [doc, enclosed]
    refine all_isInside_enclosedAt (by decide : isInside "(") (by decide : isInside ")") ?_ 4
    simpa using ⟨iha h.1, ihb h.2⟩

namespace Expr

theorem all_leaf {p : String → Bool} (linked : Bool) (d : Doc) :
    (leaf linked d).all p = d.all p := by
  cases linked <;> rfl

theorem all_enclosedArgs (args : List Expr) {ds : List Doc} (h : ∀ d ∈ ds, d.all isInside) :
    (enclosedArgs args ds).all isInside := by
  have henclosed : (enclosed "(" ")" ds).all isInside :=
    all_isInside_enclosedAt (by decide) (by decide) h 4
  unfold enclosedArgs
  split
  · split
    · rw [List.forall_mem_singleton] at h
      rw [Doc.all_append, Doc.all_append, h]
      rfl
    · exact henclosed
  · exact henclosed

theorem isInside_member (n : String) : isInside ("." ++ n) := by
  simp [isInside]

mutual

theorem all_isInside (e : Expr) (linked first : Bool) (h : e.isLegible) :
    (e.doc linked first).all isInside := by
  cases e with
  | atom s =>
    rw [doc, all_leaf]
    exact isInside_of_isWord h
  | text s =>
    rw [doc, all_leaf]
    exact isInside_literal s
  | call f args =>
    simp only [isLegible, Bool.and_eq_true] at h
    rw [doc, Doc.all_append, all_leaf, Doc.all_word, isInside_of_isWord (isWord_of_isPath h.1),
      all_enclosedArgs args (all_isInside_docs args h.2)]
    rfl
  | method r n args =>
    simp only [isLegible, Bool.and_eq_true] at h
    have hr := all_isInside r true first h.1.1
    have hargs := all_enclosedArgs args (all_isInside_docs args h.2)
    rw [doc]
    split <;> simp [all_link, hr, hargs, isInside_member]
  | field r n =>
    cases r with
    | atom w =>
      simp only [isLegible, isPlace, Bool.and_eq_true] at h
      have hr : ((atom w).doc true first).all isInside := by
        rw [doc, all_leaf]
        exact isInside_of_isWord (isWord_of_isName h.1)
      rw [doc]
      split <;> simp [all_link, hr, isInside_member]
    | _ => exact absurd h Bool.false_ne_true
  | array es =>
    rw [doc, all_leaf]
    exact all_isInside_enclosedAt (by decide) (by decide) (all_isInside_docs es h) 4
  | tuple es =>
    rw [doc, all_leaf]
    exact all_isInside_enclosedAt (by decide) (by decide) (all_isInside_docs es h) 4
  | lambda p e =>
    simp only [isLegible, Bool.and_eq_true] at h
    have hbody := all_isInside e false false h.2
    have hbar : isInside ("|" ++ p ++ "| ") := by simp [isInside]
    rw [doc, all_leaf, Doc.all_append, Doc.all_word, hbar, hbody]
    rfl

theorem all_isInside_docs (es : List Expr) (h : eachLegible es) :
    ∀ d ∈ docs es, d.all isInside := by
  cases es with
  | nil => simp [docs]
  | cons e es =>
    simp only [eachLegible, Bool.and_eq_true] at h
    rw [docs, List.forall_mem_cons]
    exact ⟨all_isInside e false false h.1, all_isInside_docs es h.2⟩

end

end Expr

theorem Param.all_isInside {p : Param} (hn : isWord p.name) (ht : p.type.isLegible) :
    p.doc.all isInside := by
  have hname := isInside_append (isInside_of_isWord hn) (by decide : isInside ": ")
  rw [doc, Doc.all_append, Doc.all_word, hname, Ty.all_isInside ht]
  rfl

namespace Signature

section

variable {p : String → Bool} {s : Signature}

theorem all_args (hself : p "self") (hmut : p "mut self") (h : ∀ q ∈ s.params, q.doc.all p) :
    ∀ d ∈ s.args, d.all p := by
  have hparams : ∀ d ∈ s.params.map Param.doc, d.all p := List.forall_mem_map.mpr h
  unfold args
  cases s.receiver with
  | none => exact hparams
  | owned => exact List.forall_mem_cons.mpr ⟨hself, hparams⟩
  | mutable => exact List.forall_mem_cons.mpr ⟨hmut, hparams⟩

theorem all_doc (hcomma : p ",") (hclosing : p ")")
    (hopening : p (s.access ++ "fn " ++ s.name ++ "("))
    (hempty : p (s.access ++ "fn " ++ s.name ++ "(" ++ ")")) (hargs : ∀ d ∈ s.args, d.all p)
    (hresult : p (" -> " ++ s.result)) : s.doc.all p := by
  have henclosed := all_enclosedAt hcomma hopening hclosing hempty hargs 0
  rw [doc]
  split
  · exact henclosed
  · rw [Doc.all_append, henclosed, Doc.all_box, Doc.all_word, hresult]
    rfl

end

theorem all_isInside {s : Signature} (h : s.isLegible) : s.doc.all isInside := by
  simp only [isLegible, Bool.and_eq_true] at h
  obtain ⟨⟨⟨haccess, hname⟩, hparams⟩, -⟩ := h
  have haccess : isInside (s.access ++ "fn ") := by
    rcases cases_access haccess with h | h | h <;> rw [h] <;> decide
  have hopening := isInside_append
    (isInside_append haccess (isInside_of_isWord (isWord_of_isIdentifier hname)))
    (by decide : isInside "(")
  have hargs : ∀ d ∈ s.args, d.all isInside := by
    refine all_args (by decide) (by decide) fun p hp => ?_
    have hparam := List.all_eq_true.mp hparams p hp
    rw [Bool.and_eq_true] at hparam
    exact Param.all_isInside hparam.1 hparam.2
  exact all_doc (by decide) (by decide) hopening (isInside_append hopening (by decide)) hargs
    (by simp [isInside])

end Signature

theorem chars_ne_brace {l : Line} (h : l.text.toList.head? ≠ some '\x7d') :
    l.chars ≠ ['\x7d'] := by
  intro hl
  have hhead := congrArg List.head? hl
  unfold Line.chars at hhead
  cases hi : l.indent with
  | zero => exact h (by simpa [hi] using hhead)
  | succ n => simp [hi, List.replicate_succ] at hhead

theorem chars_ne_brace_of_indent {l : Line} (h : l.indent ≠ 0) : l.chars ≠ ['\x7d'] := by
  obtain ⟨n, hn⟩ := Nat.exists_eq_succ_of_ne_zero h
  simp [Line.chars, hn, List.replicate_succ]

def Inside (ls : List Line) : Prop :=
  ∀ l ∈ ls, l.chars ≠ ['\x7d']

theorem Inside.append {ls ms : List Line} (h : Inside ls) (h' : Inside ms) : Inside (ls ++ ms) :=
  List.forall_mem_append.mpr ⟨h, h'⟩

theorem inside_lines {d : Doc} (h : d.all isInside) (start indent : Nat) :
    Inside (d.lines start indent) := fun l hl =>
  chars_ne_brace (Doc.all_lines (kept_head (by decide) (by decide)) h start indent l hl)

theorem inside_opening {d : Doc} (h : d.all isInside) (start indent : Nat) :
    Inside ((d ++ .word " \x7b").lines start indent) := by
  refine inside_lines ?_ start indent
  rw [Doc.all_append, h]
  rfl

theorem Stmt.inside {s : Stmt} (h : s.isLegible) {indent : Nat} (hi : indent ≠ 0) :
    Inside (s.lines indent) := by
  have hassign {w : String} (hw : isInside w) {e : Expr} (he : e.isLegible) :
      (Doc.box .filled 0 (.word (w ++ " = ") ++ e.doc false false ++ .word ";")).all isInside := by
    have hname := isInside_append hw (by decide : isInside " = ")
    rw [Doc.all_box, Doc.all_append, Doc.all_append, Doc.all_word, hname,
      e.all_isInside false false he]
    rfl
  cases s with
  | run e =>
    refine inside_lines ?_ indent indent
    rw [Doc.all_box, Doc.all_append, e.all_isInside false true h]
    rfl
  | value e =>
    refine inside_lines ?_ indent indent
    rw [Doc.all_box]
    exact e.all_isInside false true h
  | bind n e =>
    simp only [isLegible, Bool.and_eq_true] at h
    have hlet := isInside_append (by decide : isInside "let ") (isInside_of_isWord h.1)
    exact inside_lines (hassign hlet h.2) indent indent
  | choose n c yes no =>
    rw [lines, Inside, List.forall_mem_singleton]
    exact chars_ne_brace_of_indent hi
  | update i s n e =>
    simp only [isLegible, Bool.and_eq_true] at h
    have hbody := inside_lines (hassign (isInside_of_isWord h.1.2) h.2) (indent + 4) (indent + 4)
    rw [lines, Inside, List.forall_mem_cons, List.forall_mem_append, List.forall_mem_singleton]
    exact ⟨chars_ne_brace_of_indent hi, hbody, chars_ne_brace_of_indent hi⟩

theorem Function.inside_body {f : Function} (h : f.isLegible) {indent : Nat} (hi : indent ≠ 0) :
    Inside (f.body.flatMap (Stmt.lines indent)) := by
  simp only [isLegible, Bool.and_eq_true] at h
  rw [Inside, List.forall_mem_flatMap]
  intro s hs
  exact Stmt.inside (List.all_eq_true.mp h.2 s hs) hi

end TypedMarkup.Code
