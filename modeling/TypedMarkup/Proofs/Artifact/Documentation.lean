import TypedMarkup.Proofs.Artifact.Grammatical
import TypedMarkup.Proofs.Code.Note

namespace TypedMarkup

open Code Layout

def Attribute.undocumented (a : Attribute) : Attribute :=
  { a with doc := "" }

def Event.undocumented (e : Event) : Event :=
  { e with doc := "" }

def Element.undocumented (e : Element) : Element :=
  { e with
    doc := ""
    attributes := e.attributes.map Attribute.undocumented
    events := e.events.map Event.undocumented }

def Table.undocumented (t : Table) : Table :=
  ⟨t.elements.map Element.undocumented⟩

theorem newline_not_mem_chomp {s : List Char} (h : '\n' ∉ s) : '\n' ∉ Text.chomp s := by
  unfold Text.chomp
  split
  · rename_i r hr
    have hs : s = r.reverse ++ ['\r'] := by
      rw [← List.reverse_reverse s, hr, List.reverse_cons]
    intro hmem
    exact h (hs ▸ List.mem_append_left _ hmem)
  · exact h

theorem newline_not_mem_lines {s l : List Char} (h : l ∈ Text.lines s) : '\n' ∉ l := by
  have hgo : ∀ ps : List (List Char), (∀ p ∈ ps, '\n' ∉ p) → ∀ q ∈ Text.lines.go ps, '\n' ∉ q := by
    intro ps
    induction ps with
    | nil => simp [Text.lines.go]
    | cons p ps ih =>
      intro hps q hq
      cases ps with
      | nil =>
        rw [Text.lines.go] at hq
        split at hq
        · simp at hq
        · rw [List.mem_singleton.mp hq]
          exact hps p (by simp)
      | cons p' ps =>
        rw [Text.lines.go, List.mem_cons] at hq
        · rcases hq with rfl | hq
          · exact newline_not_mem_chomp (hps p (by simp))
          · exact ih (fun r hr => hps r (by simp [hr])) q hq
        · simp
  exact hgo _ (fun p hp => Text.not_mem_of_mem_pieces hp) l h

theorem newline_not_mem_trim {s : List Char} (h : '\n' ∉ s) : '\n' ∉ Text.trim s := by
  intro hmem
  rw [Text.trim, Text.trimEnd, List.mem_reverse] at hmem
  have hstart := List.mem_reverse.mp ((List.dropWhile_suffix _).subset hmem)
  exact h ((List.dropWhile_suffix _).subset hstart)

theorem newline_not_mem_prose {doc d : String} (h : d ∈ prose doc) : '\n' ∉ d.toList := by
  obtain ⟨l, hl, rfl⟩ := List.mem_map.mp h
  obtain ⟨m, hm, rfl⟩ := List.mem_map.mp (List.mem_filter.mp hl).1
  rw [String.toList_ofList]
  exact newline_not_mem_trim (newline_not_mem_lines hm)

namespace Element

variable (e : Element)

theorem docs_attribute (a : Attribute) : a.accessor.docs = prose (describe a.name a.doc) := by
  simp only [Attribute.accessor, Accessor.changing]

theorem docs_event (x : Event) : x.accessor.docs = prose (describe x.name x.doc) := by
  simp only [Event.accessor, Accessor.changing]

theorem docs_constructor :
    e.constructor.docs = prose ("Returns an HTML element that " ++ trimmed e.doc) := by
  cases h : e.tag <;> simp only [constructor, h]

def notes : List String :=
  ("The interface that describes a \x60" ++ e.name ++ "\x60 element.") ::
    ("Returns an HTML element that " ++ trimmed e.doc) ::
    (e.attributes.map (fun a => describe a.name a.doc) ++
      e.events.map fun x => describe x.name x.doc)

def commonDocs : List String :=
  bodyAccessor.docs ++ (textAccessor .children).docs ++ onAccessor.docs

theorem docs_items : e.items.flatMap Item.docs =
    prose ("The interface that describes a \x60" ++ e.name ++ "\x60 element.") ++
      e.accessors.flatMap Accessor.docs ++
      prose ("Returns an HTML element that " ++ trimmed e.doc) := by
  cases hc : e.content <;>
    simp [items, hc, Item.docs, docs_constructor, conversion, privateBody, Accessor.definition,
      Accessor.declaration, List.flatMap_map]

section

variable {Q : String → Prop} (hcommon : ∀ d ∈ commonDocs, Q d)
include hcommon

theorem forall_docs_accessors : (∀ a ∈ e.accessors, ∀ d ∈ a.docs, Q d) ↔
    (∀ a ∈ e.attributes, ∀ d ∈ prose (describe a.name a.doc), Q d) ∧
      ∀ x ∈ e.events, ∀ d ∈ prose (describe x.name x.doc), Q d := by
  simp only [commonDocs, List.forall_mem_append] at hcommon
  obtain ⟨⟨hbody, hchildren⟩, hon⟩ := hcommon
  have htext : ∀ d ∈ (textAccessor e.text).docs, Q d := by
    cases e.text <;> exact hchildren
  rw [forall_mem_accessors]
  simp only [docs_attribute, docs_event]
  constructor
  · exact fun h => ⟨h.2.1, h.2.2.2⟩
  · exact fun h => ⟨fun _ => ⟨hbody, htext⟩, h.1, hon, h.2⟩

theorem forall_docs :
    (∀ i ∈ e.items, ∀ d ∈ i.docs, Q d) ↔ ∀ s ∈ e.notes, ∀ d ∈ prose s, Q d := by
  have haccessors := e.forall_docs_accessors hcommon
  rw [← List.forall_mem_flatMap, docs_items, List.forall_mem_append, List.forall_mem_append,
    List.forall_mem_flatMap, haccessors]
  simp only [notes, List.forall_mem_cons, List.forall_mem_append, List.forall_mem_map]
  constructor
  · rintro ⟨⟨hname, hattributes, hevents⟩, hdoc⟩
    exact ⟨hname, hdoc, hattributes, hevents⟩
  · rintro ⟨hname, hdoc, hattributes, hevents⟩
    exact ⟨⟨hname, hattributes, hevents⟩, hdoc⟩

end

theorem newline_not_mem_docs {i : Item} (hi : i ∈ e.items) : ∀ d ∈ i.docs, '\n' ∉ d.toList :=
  (e.forall_docs (by decide)).mpr (fun _ _ _ hd => newline_not_mem_prose hd) i hi

theorem code_items : (e.items.flatMap Item.lines).flatMap lineCode =
    ((e.items.map Item.bare).flatMap Item.lines).flatMap lineCode :=
  (code_map fun _ hi => Item.code_bare (e.newline_not_mem_docs hi)).symm

theorem bare_declaration_attribute (a : Attribute) :
    a.undocumented.accessor.declaration.bare = a.accessor.declaration.bare := by
  simp only [Attribute.accessor, Accessor.changing, Accessor.declaration, Declaration.bare,
    Attribute.undocumented, Attribute.methodName, Attribute.storedName]

theorem bare_declaration_event (x : Event) :
    x.undocumented.accessor.declaration.bare = x.accessor.declaration.bare := by
  simp only [Event.accessor, Accessor.changing, Accessor.declaration, Declaration.bare,
    Event.undocumented, Event.methodName]

theorem definition_attribute (a : Attribute) :
    a.undocumented.accessor.definition = a.accessor.definition := by
  simp only [Attribute.accessor, Accessor.changing, Accessor.definition, Attribute.undocumented,
    Attribute.methodName, Attribute.storedName]

theorem definition_event (x : Event) :
    x.undocumented.accessor.definition = x.accessor.definition := by
  simp only [Event.accessor, Accessor.changing, Accessor.definition, Event.undocumented,
    Event.methodName, Event.boundName]

theorem accessors_undocumented :
    e.undocumented.accessors =
      e.contentAccessors ++ e.attributes.map (fun a => a.undocumented.accessor) ++
        onAccessor :: e.events.map fun x => x.undocumented.accessor := by
  simp only [accessors, contentAccessors, undocumented, List.map_map, Function.comp_def]

theorem bare_declarations_undocumented :
    e.undocumented.accessors.map (fun a => a.declaration.bare) =
      e.accessors.map fun a => a.declaration.bare := by
  rw [accessors_undocumented]
  simp only [accessors, List.map_append, List.map_cons, List.map_map, Function.comp_def,
    bare_declaration_attribute, bare_declaration_event]

theorem definitions_undocumented :
    e.undocumented.accessors.map Accessor.definition = e.accessors.map Accessor.definition := by
  rw [accessors_undocumented]
  simp only [accessors, List.map_append, List.map_cons, List.map_map, Function.comp_def,
    definition_attribute, definition_event]

theorem bare_constructor_undocumented : e.undocumented.constructor.bare = e.constructor.bare := by
  have htag : e.undocumented.tag = e.tag := by
    simp only [undocumented]
  have hname : e.undocumented.constructorName = e.constructorName := by
    simp only [constructorName, undocumented]
  have htype : e.undocumented.typeName = e.typeName := by
    simp only [typeName, undocumented]
  have hclosing : e.undocumented.selfClosing = e.selfClosing := by
    simp only [selfClosing, undocumented]
  simp only [constructor, Function.bare, htag, hname, htype, hclosing]

theorem bare_items_undocumented :
    e.undocumented.items.map Item.bare = e.items.map Item.bare := by
  have htype : e.undocumented.typeName = e.typeName := by
    simp only [typeName, undocumented]
  have htrait : e.undocumented.traitName = e.traitName := by
    simp only [traitName, undocumented]
  have hconversion : e.undocumented.conversion = e.conversion := by
    simp only [conversion, htype]
  have hcontent : e.undocumented.content = e.content := by
    simp only [undocumented]
  have hdeclarations := e.bare_declarations_undocumented
  have hdefinitions := congrArg (List.map Function.bare) e.definitions_undocumented
  simp only [List.map_map, Function.comp_def] at hdefinitions
  simp only [items, List.map_append, List.map_cons, List.map_nil, Item.bare, List.map_map,
    Function.comp_def, hdeclarations, hdefinitions, bare_constructor_undocumented, htype, htrait,
    hconversion, hcontent]

theorem steps_undocumented (a : Attribute) : a.undocumented.steps = a.steps := by
  simp only [Attribute.steps, Attribute.undocumented, Attribute.methodName, Attribute.storedName]

theorem smokeTest_undocumented : e.undocumented.smokeTest = e.smokeTest := by
  have hsteps : e.undocumented.attributes.flatMap Attribute.steps =
      e.attributes.flatMap Attribute.steps := by
    simp only [undocumented, List.flatMap_map, steps_undocumented]
  have hevents : e.undocumented.eventSteps = e.eventSteps := by
    simp only [eventSteps, undocumented, List.isEmpty_map, List.map_map, Function.comp_def,
      Event.undocumented, Event.methodName]
  have hlast : e.undocumented.lastStep = e.lastStep := by
    simp only [lastStep, undocumented]
  have hname : e.undocumented.constructorName = e.constructorName := by
    simp only [constructorName, undocumented]
  simp only [smokeTest, hsteps, hevents, hlast, hname]
  simp only [undocumented]

end Element

theorem codeLines_builderText (path : String) (t : Table) :
    codeLines (builderText path t).toList =
      (header ++ [(⟨0, allowance⟩ : Line)] ++
        importLines path runtimeNames).flatMap lineCode ++
      (t.elements.flatMap fun e =>
        ((e.items.map Item.bare).flatMap Item.lines).flatMap lineCode) ++ [[]] := by
  rw [builderText, codeLines_textOf, builderLines, List.flatMap_append, List.flatMap_assoc]
  simp only [Element.code_items]

theorem codeLines_builderText_undocumented (path : String) (t : Table) :
    codeLines (builderText path t.undocumented).toList = codeLines (builderText path t).toList := by
  rw [codeLines_builderText, codeLines_builderText, Table.undocumented, List.flatMap_map]
  simp only [Element.bare_items_undocumented]

theorem smokeText_undocumented (t : Table) : smokeText t.undocumented = smokeText t := by
  simp only [smokeText, smokeLines, Table.undocumented, List.flatMap_map,
    Element.smokeTest_undocumented]

theorem code_of_undocumented {t u : Table} (h : t.undocumented = u.undocumented) {c : Config}
    {a : Artifacts} (ha : t.render c = .ok a) :
    ∃ b, u.render c = .ok b ∧ b.tests = a.tests ∧
      withoutNotes b.builder.contents = withoutNotes a.builder.contents := by
  obtain ⟨path, hpath, rfl⟩ := render_ok ha
  refine ⟨_, render_of_importPath u hpath, ?_, ?_⟩
  · have htests : smokeText u = smokeText t := by
      rw [← smokeText_undocumented, ← h, smokeText_undocumented]
    simp only [htests]
  · have hlines :
        codeLines (builderText path u).toList = codeLines (builderText path t).toList := by
      rw [← codeLines_builderText_undocumented, ← h, codeLines_builderText_undocumented]
    simp only [withoutNotes, hlines]

def documentedTable (doc : String) : Table :=
  ⟨[⟨"Input", .childless, doc, .fixed "input", .children,
    [⟨"checked", "Checked", none, .bool, doc⟩], [⟨"onclick", "OnClick", doc⟩]⟩]⟩

theorem code_of_undocumented_slashes :
    ∃ a b, (documentedTable "").render .standard = .ok a ∧
      (documentedTable "/// */ \"\n\r#[test]\r\n\n  fn f() \x7b").render .standard = .ok b ∧
      b.tests = a.tests ∧ withoutNotes b.builder.contents = withoutNotes a.builder.contents := by
  have hpath : Config.standard.importPath = .ok "super" := by decide
  have ha := render_of_importPath (documentedTable "") hpath
  have hdocs : (documentedTable "").undocumented =
      (documentedTable "/// */ \"\n\r#[test]\r\n\n  fn f() \x7b").undocumented := rfl
  obtain ⟨b, hb, htests, hbuilder⟩ := code_of_undocumented hdocs ha
  exact ⟨_, b, ha, hb, htests, hbuilder⟩

end TypedMarkup
