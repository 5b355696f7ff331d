import Mathlib.Data.List.Basic
import TypedMarkup.Code.Item
import TypedMarkup.Proofs.Layout.Lines

namespace TypedMarkup.Code

open Layout

def isNote (l : List Char) : Bool :=
  ['/', '/', '/'].isPrefixOf (l.dropWhile (· = ' '))

def codeLines (s : List Char) : List (List Char) :=
  (Text.pieces s).filter fun l => !isNote l

def withoutNotes (s : String) : String :=
  String.ofList (['\n'].intercalate (codeLines s.toList))

def lineCode (l : Line) : List (List Char) :=
  codeLines l.chars

theorem codeLines_append (s t : List Char) :
    codeLines (s ++ '\n' :: t) = codeLines s ++ codeLines t := by
  rw [codeLines, pieces_append, List.filter_append]
  rfl

theorem codeLines_textOf (ls : List Line) :
    codeLines (textOf ls).toList = ls.flatMap lineCode ++ [[]] := by
  induction ls with
  | nil => rfl
  | cons l ls ih =>
    have hl : (l.show ++ textOf ls).toList = l.chars ++ '\n' :: (textOf ls).toList := by
      simp [Line.show, Line.chars, spaces]
    rw [textOf_cons, hl, codeLines_append, ih, List.flatMap_cons, List.append_assoc]
    rfl

theorem dropWhile_indented {c : Char} (hc : c ≠ ' ') (indent : Nat) (s : List Char) :
    (List.replicate indent ' ' ++ c :: s).dropWhile (· = ' ') = c :: s := by
  induction indent with
  | zero => simp [hc]
  | succ n ih => simp [List.replicate_succ, ih]

theorem isNote_indented (indent : Nat) (d : List Char) :
    isNote (List.replicate indent ' ' ++ '/' :: '/' :: '/' :: d) = true := by
  rw [isNote, dropWhile_indented (by decide)]
  rfl

theorem code_docLines {docs : List String} (h : ∀ d ∈ docs, '\n' ∉ d.toList) (indent : Nat) :
    (docLines indent docs).flatMap lineCode = [] := by
  rw [List.flatMap_eq_nil_iff]
  intro l hl
  obtain ⟨d, hd, rfl⟩ := List.mem_map.mp hl
  have hchars : Line.chars ⟨indent, "/// " ++ d⟩ =
      List.replicate indent ' ' ++ '/' :: '/' :: '/' :: ' ' :: d.toList := by
    simp [Line.chars]
  have hline : '\n' ∉ Line.chars ⟨indent, "/// " ++ d⟩ := by
    simp [hchars, h d hd]
  rw [lineCode, codeLines, pieces_of_not_mem hline, hchars]
  simp [isNote_indented]

def Declaration.bare (d : Declaration) : Declaration :=
  { d with docs := [] }

def Function.bare (f : Function) : Function :=
  { f with docs := [] }

namespace Item

def docs : Item → List String
  | trait docs _ _ methods => docs ++ methods.flatMap Declaration.docs
  | function f => f.docs
  | wrapper .. => []
  | implementation _ _ methods | inherent _ methods => methods.flatMap Function.docs

def bare : Item → Item
  | trait _ name above methods => trait [] name above (methods.map Declaration.bare)
  | function f => function f.bare
  | wrapper name inner => wrapper name inner
  | implementation provided type methods =>
    implementation provided type (methods.map Function.bare)
  | inherent type methods => inherent type (methods.map Function.bare)

end Item

theorem Declaration.code_bare {d : Declaration} (h : ∀ s ∈ d.docs, '\n' ∉ s.toList)
    (indent : Nat) :
    (d.bare.lines indent).flatMap lineCode = (d.lines indent).flatMap lineCode := by
  rw [lines, lines, List.flatMap_append, List.flatMap_append, code_docLines h]
  rfl

theorem Function.code_bare {f : Function} (h : ∀ s ∈ f.docs, '\n' ∉ s.toList) (indent : Nat) :
    (f.bare.lines indent).flatMap lineCode = (f.lines indent).flatMap lineCode := by
  simp only [lines, List.flatMap_append, code_docLines h]
  rfl

theorem code_map {α : Type} {bare : α → α} {lines : α → List Line} {xs : List α}
    (h : ∀ x ∈ xs, (lines (bare x)).flatMap lineCode = (lines x).flatMap lineCode) :
    ((xs.map bare).flatMap lines).flatMap lineCode = (xs.flatMap lines).flatMap lineCode := by
  rw [List.flatMap_map, List.flatMap_assoc, List.flatMap_assoc]
  exact List.flatMap_congr h

theorem Item.code_bare {i : Item} (h : ∀ s ∈ i.docs, '\n' ∉ s.toList) :
    i.bare.lines.flatMap lineCode = i.lines.flatMap lineCode := by
  have hfunctions : ∀ fs : List Function, (∀ s ∈ fs.flatMap Function.docs, '\n' ∉ s.toList) →
      ((fs.map Function.bare).flatMap (Function.lines 4)).flatMap lineCode =
        (fs.flatMap (Function.lines 4)).flatMap lineCode := by
    intro fs hfs
    refine code_map fun f hf => Function.code_bare (fun s hs => ?_) 4
    exact hfs s (List.mem_flatMap_of_mem hf hs)
  cases i with
  | trait docs name above methods =>
    simp only [Item.docs, List.mem_append, or_imp, forall_and] at h
    have hmethods := code_map fun d hd =>
      Declaration.code_bare (fun s hs => h.2 s (List.mem_flatMap_of_mem hd hs)) 4
    simp only [bare, lines, List.flatMap_append, code_docLines h.1, hmethods]
    rfl
  | function f => exact Function.code_bare h 0
  | wrapper name inner => rfl
  | implementation provided type methods =>
    simp only [bare, lines, List.flatMap_append, hfunctions methods h]
  | inherent type methods =>
    simp only [bare, lines, List.flatMap_append, hfunctions methods h]

section

variable {P : String → Prop}

theorem forall_docLines {indent : Nat} {docs : List String} :
    (∀ l ∈ docLines indent docs, P l.text) ↔ ∀ d ∈ docs, P ("/// " ++ d) :=
  List.forall_mem_map

theorem Declaration.forall_lines (d : Declaration) (indent : Nat) :
    (∀ l ∈ d.lines indent, P l.text) ↔
      (∀ s ∈ d.docs, P ("/// " ++ s)) ∧ ∀ l ∈ d.bare.lines indent, P l.text := by
  rw [lines, List.forall_mem_append, forall_docLines]
  rfl

theorem Function.forall_lines (f : Function) (indent : Nat) :
    (∀ l ∈ f.lines indent, P l.text) ↔
      (∀ s ∈ f.docs, P ("/// " ++ s)) ∧ ∀ l ∈ f.bare.lines indent, P l.text := by
  have hlines : f.lines indent = docLines indent f.docs ++ f.bare.lines indent := by
    simp [lines, bare, docLines]
  rw [hlines, List.forall_mem_append, forall_docLines]

theorem forall_flatMap_lines {α : Type} {bare : α → α} {docs : α → List String}
    {lines : α → List Line} (xs : List α)
    (h : ∀ x, (∀ l ∈ lines x, P l.text) ↔
      (∀ s ∈ docs x, P ("/// " ++ s)) ∧ ∀ l ∈ lines (bare x), P l.text) :
    (∀ l ∈ xs.flatMap lines, P l.text) ↔
      (∀ s ∈ xs.flatMap docs, P ("/// " ++ s)) ∧
        ∀ l ∈ (xs.map bare).flatMap lines, P l.text := by
  simp only [List.flatMap_map, List.forall_mem_flatMap, ← forall_and]
  exact forall₂_congr fun x _ => h x

theorem Item.forall_lines (i : Item) :
    (∀ l ∈ i.lines, P l.text) ↔
      (∀ s ∈ i.docs, P ("/// " ++ s)) ∧ ∀ l ∈ i.bare.lines, P l.text := by
  cases i with
  | trait docs name above methods =>
    have hmethods := forall_flatMap_lines (P := P) methods fun d => d.forall_lines 4
    simp only [lines, bare, Item.docs, List.forall_mem_append]
    rw [forall_docLines, hmethods]
    simp only [docLines, List.map_nil, List.not_mem_nil, false_imp_iff, implies_true, true_and]
    tauto
  | function f => exact f.forall_lines 0
  | wrapper name inner => simp [lines, bare, Item.docs]
  | implementation provided type methods =>
    have hmethods := forall_flatMap_lines (P := P) methods fun f => f.forall_lines 4
    simp only [lines, bare, Item.docs, List.forall_mem_append]
    rw [hmethods]
    tauto
  | inherent type methods =>
    have hmethods := forall_flatMap_lines (P := P) methods fun f => f.forall_lines 4
    simp only [lines, bare, Item.docs, List.forall_mem_append]
    rw [hmethods]
    tauto

end

end TypedMarkup.Code
