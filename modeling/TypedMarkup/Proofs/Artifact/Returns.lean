import TypedMarkup.Proofs.Artifact.Readable
import TypedMarkup.Proofs.Artifact.Smoke
import TypedMarkup.Proofs.Text.Trimmed

namespace TypedMarkup

open Code Layout Token

theorem returnsEndLines_cons {c : Char} (hc : c ≠ '\r') (s : List Char) :
    returnsEndLines (c :: s) = returnsEndLines s := by
  rw [returnsEndLines]
  · exact fun _ h _ => hc h
  · exact hc

theorem returnsEndLines_append {s : List Char} (hline : '\n' ∉ s)
    (hlast : s.getLast? ≠ some '\r') (t : List Char) :
    returnsEndLines (s ++ t) = (!s.contains '\r' && returnsEndLines t) := by
  induction s with
  | nil => rfl
  | cons c s ih =>
    by_cases hc : c = '\r'
    · subst hc
      cases s with
      | nil => exact absurd rfl hlast
      | cons d s =>
        have hd : d ≠ '\n' := by
          rintro rfl
          simp at hline
        rw [List.cons_append, List.cons_append, returnsEndLines]
        · simp
        · intro u hu
          exact hd (List.cons.inj hu).1
    · simp only [List.mem_cons, not_or] at hline
      have hlast' : s.getLast? ≠ some '\r' := by
        intro h
        rw [List.getLast?_cons, h] at hlast
        exact hlast rfl
      rw [List.cons_append, returnsEndLines_cons hc, ih hline.2 hlast']
      simp [Ne.symm hc]

def endsPlain (s : String) : Prop :=
  '\n' ∉ s.toList ∧ s.toList.getLast? ≠ some '\r'

theorem endsPlain_of_unbroken {s : String} (h : unbroken s) : endsPlain s := by
  rw [unbroken_iff] at h
  exact ⟨h.1, fun hlast => h.2 (List.mem_of_getLast? hlast)⟩

theorem returnsEndLines_textOf {ls : List Line} (h : ∀ l ∈ ls, endsPlain l.text) :
    returnsEndLines (textOf ls).toList ↔ ∀ l ∈ ls, '\r' ∉ l.text.toList := by
  rw [toList_textOf]
  induction ls with
  | nil => simp [returnsEndLines]
  | cons l ls ih =>
    rw [List.forall_mem_cons] at h
    obtain ⟨hl, hls⟩ := h
    have hline : '\n' ∉ l.chars := by
      simp [Line.chars, hl.1]
    have hlast : l.chars.getLast? ≠ some '\r' := by
      rw [Line.chars, List.getLast?_append]
      cases htext : l.text.toList.getLast? with
      | none =>
        intro hspace
        have hmem := List.mem_of_getLast? hspace
        exact absurd (List.mem_replicate.mp hmem).2 (by decide)
      | some c => simpa [htext] using hl.2
    have hend (rest : List Char) :
        returnsEndLines (l.ended ++ rest) = (!l.chars.contains '\r' && returnsEndLines rest) := by
      rw [Line.ended, List.append_assoc, returnsEndLines_append hline hlast, List.singleton_append,
        returnsEndLines_cons (by decide)]
    have hchars : '\r' ∈ l.chars ↔ '\r' ∈ l.text.toList := by
      simp [Line.chars]
    rw [List.flatMap_cons, hend, Bool.and_eq_true, ih hls, List.forall_mem_cons]
    simp [hchars]

section

variable {path : String} {t : Table}

theorem forall_builderLines {P : String → Prop} : (∀ l ∈ builderLines path t, P l.text) ↔
    (∀ l ∈ header ++ [⟨0, "#![allow(non_camel_case_types, unused_imports, clippy::all)]"⟩] ++
      importLines path runtimeNames, P l.text) ∧
    (∀ l ∈ bareLines t, P l.text) ∧
    ∀ e ∈ t.elements, ∀ i ∈ e.items, ∀ d ∈ i.docs, P ("/// " ++ d) := by
  have hitems (e : Element) : (∀ l ∈ e.items.flatMap Item.lines, P l.text) ↔
      (∀ d ∈ e.items.flatMap Item.docs, P ("/// " ++ d)) ∧
        ∀ l ∈ (e.items.map Item.bare).flatMap Item.lines, P l.text :=
    forall_flatMap_lines e.items Item.forall_lines
  rw [builderLines, List.forall_mem_append]
  refine and_congr_right fun _ => ?_
  rw [bareLines, List.forall_mem_flatMap, List.forall_mem_flatMap, ← forall₂_and]
  refine forall₂_congr fun e _ => ?_
  rw [hitems, List.forall_mem_flatMap, and_comm]

theorem unbroken_front (h : unbroken path) :
    ∀ l ∈ header ++ [⟨0, "#![allow(non_camel_case_types, unused_imports, clippy::all)]"⟩] ++
      importLines path runtimeNames, unbroken l.text := by
  have hheader : ∀ l ∈ header ++
      [(⟨0, "#![allow(non_camel_case_types, unused_imports, clippy::all)]"⟩ : Line)],
      unbroken l.text := by
    decide
  rw [List.forall_mem_append]
  refine ⟨hheader, Doc.all_lines kept_unbroken ?_ 0 0⟩
  have huse : unbroken ("use " ++ path ++ "::") := by
    rw [unbroken_append, unbroken_append, h]
    decide
  rw [Doc.all_append, Doc.all_append, Doc.all_word, huse]
  decide

end

theorem unbroken_importPath {c : Config} {path : String} (h : c.importPath = .ok path) :
    unbroken path := by
  obtain ⟨p, hparse, hnone, rfl⟩ := importPath_eq_ok h
  rw [unbroken_iff]
  constructor
  · intro hmem
    exact absurd (ModulePath.text_of_parse hparse hnone '\n' hmem) (by decide)
  · intro hmem
    exact absurd (ModulePath.text_of_parse hparse hnone '\r' hmem) (by decide)

def HasInnerReturn (s : String) : Prop :=
  ∃ p ∈ Text.pieces s.toList, '\r' ∈ Text.trim p

theorem endsPlain_prose {s d : String} (h : d ∈ prose s) : endsPlain d := by
  refine ⟨newline_not_mem_prose h, fun hlast => ?_⟩
  obtain ⟨l, hl, rfl⟩ := List.mem_map.mp h
  rw [proseChars_eq] at hl
  obtain ⟨p, -, rfl⟩ := List.mem_map.mp (List.mem_filter.mp hl).1
  rw [String.toList_ofList] at hlast
  exact Text.not_blank_of_getLast?_trim hlast (by decide)

theorem hasInnerReturn_iff {s : String} :
    HasInnerReturn s ↔ ∃ d ∈ prose s, '\r' ∈ d.toList := by
  have hmem (l : List Char) :
      l ∈ proseChars s.toList ↔ (∃ p ∈ Text.pieces s.toList, Text.trim p = l) ∧ l ≠ [] := by
    rw [proseChars_eq, Text.trimmedPieces, List.mem_filter, List.mem_map, decide_eq_true_iff]
  constructor
  · rintro ⟨p, hp, hreturn⟩
    have hne : Text.trim p ≠ [] := List.ne_nil_of_mem hreturn
    refine ⟨String.ofList (Text.trim p), List.mem_map_of_mem ((hmem _).mpr ⟨⟨p, hp, rfl⟩, hne⟩), ?_⟩
    rwa [String.toList_ofList]
  · rintro ⟨d, hd, hreturn⟩
    obtain ⟨l, hl, rfl⟩ := List.mem_map.mp hd
    obtain ⟨⟨p, hp, rfl⟩, -⟩ := (hmem l).mp hl
    rw [String.toList_ofList] at hreturn
    exact ⟨p, hp, hreturn⟩

theorem forall_not_hasInnerReturn {ss : List String} :
    (∀ s ∈ ss, ¬ HasInnerReturn s) ↔ ∀ s ∈ ss, ∀ d ∈ prose s, '\r' ∉ d.toList := by
  refine forall₂_congr fun s _ => ?_
  rw [hasInnerReturn_iff, not_exists]
  exact forall_congr' fun d => not_and

theorem unbroken_commonDocs : ∀ d ∈ Element.commonDocs, unbroken d := by
  decide

section

variable {c : Config} {path : String} (h : c.importPath = .ok path) (t : Table)
include h

theorem endsPlain_builderLines : ∀ l ∈ builderLines path t, endsPlain l.text := by
  rw [forall_builderLines]
  refine ⟨fun l hl => ?_, fun l hl => ?_, fun e _ => ?_⟩
  · exact endsPlain_of_unbroken (unbroken_front (unbroken_importPath h) l hl)
  · exact endsPlain_of_unbroken (unbroken_of_isCodeWord ((readLines_bareLines t).words l hl))
  · have hdocs : ∀ i ∈ e.items, ∀ d ∈ i.docs, endsPlain d := by
      refine (e.forall_docs fun d hd => ?_).mpr fun s _ d hd => endsPlain_prose hd
      exact endsPlain_of_unbroken (unbroken_commonDocs d hd)
    intro i hi d hd
    obtain ⟨hline, hlast⟩ := hdocs i hi d hd
    refine ⟨by simp [hline], ?_⟩
    rw [String.toList_append, List.getLast?_append]
    cases hd : d.toList.getLast? with
    | none => decide
    | some c => simpa [hd] using hlast

theorem returnsEndLines_builderText : returnsEndLines (builderText path t).toList ↔
    ∀ e ∈ t.elements, ∀ s ∈ e.notes, ¬ HasInnerReturn s := by
  have hcommon : ∀ d ∈ Element.commonDocs, '\r' ∉ d.toList := fun d hd =>
    (unbroken_iff.mp (unbroken_commonDocs d hd)).2
  have hfront := unbroken_front (unbroken_importPath h)
  rw [builderText, returnsEndLines_textOf (endsPlain_builderLines h t),
    forall_builderLines (P := fun s => '\r' ∉ s.toList)]
  have hnote (d : String) : '\r' ∉ ("/// " ++ d).toList ↔ '\r' ∉ d.toList := by
    simp
  have hnotes (e : Element) : (∀ i ∈ e.items, ∀ d ∈ i.docs, '\r' ∉ ("/// " ++ d).toList) ↔
      ∀ s ∈ e.notes, ¬ HasInnerReturn s := by
    simp only [hnote]
    rw [e.forall_docs hcommon, forall_not_hasInnerReturn]
  simp only [hnotes]
  constructor
  · exact fun h => h.2.2
  · refine fun hall => ⟨fun l hl => (unbroken_iff.mp (hfront l hl)).2, fun l hl => ?_, hall⟩
    exact (unbroken_iff.mp (unbroken_of_isCodeWord ((readLines_bareLines t).words l hl))).2

end

theorem returnsEndLines_smokeText (t : Table) : returnsEndLines (smokeText t).toList := by
  have hlines := unbroken_smokeLines t
  rw [smokeText, returnsEndLines_textOf fun l hl => endsPlain_of_unbroken (hlines l hl)]
  exact fun l hl => (unbroken_iff.mp (hlines l hl)).2

theorem returns_end_lines_iff {t : Table} {c : Config} {a : Artifacts} (h : t.render c = .ok a) :
    returnsEndLines a.tests.contents.toList ∧
    (returnsEndLines a.builder.contents.toList ↔
      ∀ e ∈ t.elements, ∀ s ∈ e.notes, ¬ HasInnerReturn s) := by
  obtain ⟨path, hpath, rfl⟩ := render_ok h
  exact ⟨returnsEndLines_smokeText t, returnsEndLines_builderText hpath t⟩

theorem returns_end_lines_of_trailing :
    ∃ a, (documentedTable "\ra\r\r\nb\r").render .standard = .ok a ∧
      returnsEndLines a.tests.contents.toList ∧ returnsEndLines a.builder.contents.toList := by
  have hpath : Config.standard.importPath = .ok "super" := by decide
  have ha := render_of_importPath (documentedTable "\ra\r\r\nb\r") hpath
  obtain ⟨htests, hbuilder⟩ := returns_end_lines_iff ha
  refine ⟨_, ha, htests, hbuilder.mpr ?_⟩
  have hnotes : ∀ e ∈ (documentedTable "\ra\r\r\nb\r").elements, ∀ s ∈ e.notes,
      ∀ p ∈ Text.pieces s.toList, '\r' ∉ Text.trim p := by
    decide
  exact fun e he s hs ⟨p, hp, hreturn⟩ => hnotes e he s hs p hp hreturn

theorem return_kept_in_note :
    ∃ a, (documentedTable "a\rb").render .standard = .ok a ∧
      returnsEndLines a.builder.contents.toList = false := by
  have hpath : Config.standard.importPath = .ok "super" := by decide
  have ha := render_of_importPath (documentedTable "a\rb") hpath
  refine ⟨_, ha, Bool.eq_false_iff.mpr fun h => ?_⟩
  have hnotes := (returnsEndLines_builderText hpath _).mp h
  have hreturn : ∃ e ∈ (documentedTable "a\rb").elements, ∃ s ∈ e.notes,
      ∃ p ∈ Text.pieces s.toList, '\r' ∈ Text.trim p := by
    decide
  obtain ⟨e, he, s, hs, hreturn⟩ := hreturn
  exact hnotes e he s hs hreturn

end TypedMarkup
