import TypedMarkup.Proofs.Artifact.Returns
import TypedMarkup.Proofs.Code.Announcements

namespace TypedMarkup

open Code Layout

def Code.Announcement.method (name : String) (words : List (List Char)) : Announcement :=
  ⟨"    fn " ++ name ++ "(", words⟩

namespace Element

variable (e : Element)

def methodAnnouncements : List Announcement :=
  (if e.content = .container then
    [.method "body" (Text.words "Body sets the content of the element.".toList),
      .method "text"
        (Text.words "Text sets the content of the element with a text node containing the".toList ++
          Text.words "stringified given value.".toList)]
  else []) ++
  e.attributes.map (fun a =>
    .method a.methodName (Text.words a.name.toList ++ Text.words a.doc.toList)) ++
  .method "on" (Text.words
    "On registers the given event handler to the specified event.".toList) ::
    e.events.map fun x =>
      .method x.methodName (Text.words x.name.toList ++ Text.words x.doc.toList)

def announcements : List Announcement :=
  ⟨"pub trait " ++ e.traitName ++ ": ",
    Text.words ("The interface that describes a \x60" ++ e.name ++ "\x60 element.").toList⟩ ::
  e.methodAnnouncements ++
  [⟨"pub fn " ++ e.constructorName ++ "(",
      Text.words "Returns an HTML element that".toList ++ Text.words e.doc.toList⟩,
    ⟨"pub struct " ++ e.typeName ++ "(", []⟩, ⟨"impl ", []⟩, ⟨"impl ", []⟩] ++
  if e.content = .restricted then [⟨"impl ", []⟩] else []

end Element

theorem neat_prose (s : String) : Neat (prose s) := by
  rw [Neat, prose, List.forall_mem_map]
  intro l hl
  rw [String.toList_ofList]
  exact trim_of_mem_proseChars hl

theorem docWords_prose (s : String) : docWords (prose s) = Text.words s.toList := by
  rw [docWords, prose, List.flatMap_map]
  simp only [String.toList_ofList]
  exact words_proseChars s.toList

theorem isSingle_changing (docs : List String) (name : String) {params : List Param}
    (body : List Stmt) (h : params.all fun p => p.doc.all (lacks ';')) :
    (Accessor.changing docs name params body).declaration.isSingle := by
  simp only [Accessor.changing, Accessor.declaration, Declaration.isSingle, h]
  decide

theorem ValueKind.lacks_params (k : ValueKind) :
    k.params.all fun p => p.doc.all (lacks ';') := by
  cases k <;> rfl

theorem announcement_attribute (a : Attribute) :
    a.accessor.declaration.announcement =
      .method a.methodName (Text.words a.name.toList ++ Text.words a.doc.toList) := by
  simp only [Declaration.announcement, Accessor.declaration, Element.docs_attribute,
    docWords_prose, words_describe]
  simp only [Attribute.accessor, Accessor.changing, Announcement.method]

theorem announcement_body : bodyAccessor.declaration.announcement =
    .method "body" (Text.words "Body sets the content of the element.".toList) := by
  simp only [bodyAccessor, Accessor.changing, Accessor.declaration, Declaration.announcement,
    Announcement.method, docWords_cons, docWords_nil, List.append_nil]

theorem announcement_text (slot : TextSlot) : (textAccessor slot).declaration.announcement =
    .method "text"
      (Text.words "Text sets the content of the element with a text node containing the".toList ++
        Text.words "stringified given value.".toList) := by
  cases slot <;>
    simp only [textAccessor, Accessor.changing, Accessor.declaration, Declaration.announcement,
      Announcement.method, docWords_cons, docWords_nil, List.append_nil]

theorem announcement_on : onAccessor.declaration.announcement = .method "on"
    (Text.words "On registers the given event handler to the specified event.".toList) := by
  simp only [onAccessor, Accessor.changing, Accessor.declaration, Declaration.announcement,
    Announcement.method, docWords_cons, docWords_nil, List.append_nil]

theorem announcement_event (x : Event) :
    x.accessor.declaration.announcement =
      .method x.methodName (Text.words x.name.toList ++ Text.words x.doc.toList) := by
  simp only [Declaration.announcement, Accessor.declaration, Element.docs_event,
    docWords_prose, words_describe]
  simp only [Event.accessor, Accessor.changing, Announcement.method]

namespace Element

variable (e : Element)

theorem isSingle_accessors : ∀ a ∈ e.accessors, a.declaration.isSingle := by
  refine e.forall_accessors (by decide) (fun slot => ?_)
    (fun a => isSingle_changing _ _ _ a.kind.lacks_params) (by decide)
    fun x => isSingle_changing _ _ _ (by decide)
  cases slot <;> decide

theorem announcements_contentAccessors :
    e.contentAccessors.map (fun a => a.declaration.announcement) =
      if e.content = .container then
        [.method "body" (Text.words "Body sets the content of the element.".toList),
          .method "text"
            (Text.words
                "Text sets the content of the element with a text node containing the".toList ++
              Text.words "stringified given value.".toList)]
      else [] := by
  cases hc : e.content <;>
    simp [contentAccessors, hc, announcement_body, announcement_text]

theorem announcements_accessors :
    e.accessors.map (fun a => a.declaration.announcement) = e.methodAnnouncements := by
  simp only [accessors, methodAnnouncements, List.map_append, List.map_cons, List.map_map,
    Function.comp_def, announcements_contentAccessors, announcement_attribute, announcement_event,
    announcement_on]

theorem neat_items : ∀ i ∈ e.items, Neat i.docs :=
  (e.forall_docs (by decide)).mpr fun s _ => neat_prose s

theorem isSingle_items {i : Item} (hi : i ∈ e.items) : i.isSingle := by
  have hdeclarations : (e.accessors.map Accessor.declaration).all Declaration.isSingle := by
    rw [List.all_map, List.all_eq_true]
    exact e.isSingle_accessors
  simp only [items, List.mem_append, List.mem_cons, List.not_mem_nil, or_false] at hi
  rcases hi with (rfl | rfl | rfl | rfl | rfl) | hi
  · exact hdeclarations
  · rfl
  · rfl
  · rfl
  · rfl
  · cases hc : e.content <;> simp only [hc, List.mem_singleton, List.not_mem_nil] at hi
    subst hi
    rfl

theorem words_constructor : Text.words ("Returns an HTML element that " ++ trimmed e.doc).toList =
    Text.words "Returns an HTML element that".toList ++ Text.words e.doc.toList := by
  have hchars : ("Returns an HTML element that " ++ trimmed e.doc).toList =
      "Returns an HTML element that".toList ++ ' ' :: (trimmed e.doc).toList := by
    simp
  rw [hchars, Text.words_append (by decide), words_trimmed]

theorem announcements_constructor : (Item.function e.constructor).announcements =
    [⟨"pub fn " ++ e.constructorName ++ "(",
      Text.words "Returns an HTML element that".toList ++ Text.words e.doc.toList⟩] := by
  have hsignature : e.constructor.signature.access = "pub " ∧
      e.constructor.signature.name = e.constructorName := by
    cases h : e.tag <;> simp [constructor, h]
  rw [Item.announcements, docs_constructor, docWords_prose, words_constructor, hsignature.1,
    hsignature.2]
  rfl

theorem announcements_items : e.items.flatMap Item.announcements = e.announcements := by
  have hmethods := e.announcements_accessors
  cases hc : e.content <;>
    simp only [items, hc, List.cons_append, List.nil_append, List.flatMap_cons, List.flatMap_nil,
      announcements_constructor] <;>
    simp [announcements, hc, Item.announcements, docWords_prose, hmethods, Function.comp_def]

theorem passes_items : Passes false (e.items.flatMap Item.lines) false e.announcements := by
  rw [← announcements_items]
  exact .flatMap fun i hi =>
    Item.passes (e.isLegible_items hi) (e.isSingle_items hi) (e.neat_items i hi)

end Element

theorem builder_announces {t : Table} {c : Config} {a : Artifacts} (h : t.render c = .ok a) :
    List.Forall₂ Opening.Announces
      (openings (.between false []) (Text.pieces (afterImport a.builder.contents).toList))
      (t.elements.flatMap Element.announcements) := by
  obtain ⟨path, hpath, rfl⟩ := render_ok h
  obtain ⟨os, hos, hread⟩ := Passes.flatMap fun e (_ : e ∈ t.elements) => e.passes_items
  have hlines : ∀ l ∈ t.elements.flatMap fun e => e.items.flatMap Item.lines,
      '\n' ∉ l.text.toList := fun l hl =>
    (endsPlain_builderLines hpath t l (List.mem_append_right _ hl)).1
  have hpieces : Text.pieces ("\n" ++ itemsText t).toList =
      [] :: ((t.elements.flatMap fun e => e.items.flatMap Item.lines).map Line.chars ++ [[]]) := by
    have hchars : ("\n" ++ itemsText t).toList = [] ++ '\n' :: (itemsText t).toList := by
      simp
    rw [hchars, pieces_append, itemsText, pieces_textOf hlines]
    rfl
  have hempty (ls : List (List Char)) :
      openings (.between false []) ([] :: ls) = openings (.between false []) ls := by
    simp [openings, isNote]
  simp only [afterImport_builderText (semicolon_not_mem_importPath hpath), hpieces, hempty, hread]
  simpa [openings] using hos

def scatteredTable : Table :=
  ⟨[⟨"fe Blend", .restricted, "\n  blends \u2003 two\r\n\t\r\nlayers. \u2028", .caller, .children,
    [⟨"data", " ", none, .int, " \n"⟩, ⟨"checked", "Checked", none, .bool, " is\n\n set. "⟩],
    [⟨"onclick", "OnClick", ""⟩]⟩]⟩

example : (scatteredTable.elements.flatMap Element.announcements).map (fun a =>
    (a.start, a.words.map String.ofList)) =
    [("pub trait Htmlfe_Blend: ",
        ["The", "interface", "that", "describes", "a", "\x60fe", "Blend\x60", "element."]),
      ("    fn __(", []), ("    fn checked(", ["Checked", "is", "set."]),
      ("    fn on(", ["On", "registers", "the", "given", "event", "handler", "to", "the",
        "specified", "event."]),
      ("    fn onclick(", ["OnClick"]),
      ("pub fn fe_blend(",
        ["Returns", "an", "HTML", "element", "that", "blends", "two", "layers."]),
      ("pub struct fe_Blend(", []), ("impl ", []), ("impl ", []), ("impl ", [])] := by
  decide +kernel

theorem builder_announces_scattered :
    ∃ a, scatteredTable.render .standard = .ok a ∧
      List.Forall₂ Opening.Announces
        (openings (.between false []) (Text.pieces (afterImport a.builder.contents).toList))
        (scatteredTable.elements.flatMap Element.announcements) := by
  have hpath : Config.standard.importPath = .ok "super" := by decide
  have ha := render_of_importPath scatteredTable hpath
  exact ⟨_, ha, builder_announces ha⟩

end TypedMarkup
