import TypedMarkup.Proofs.Artifact.Import
import TypedMarkup.Proofs.Code.Outline

namespace TypedMarkup

open Code Layout

theorem identifier_ne_for {w : String} (hw : isName w.toList) : identifier w ≠ "for" := by
  unfold identifier
  split_ifs with hnever hkeyword
  · simp only [neverRaw, List.contains_cons, List.contains_nil, Bool.or_false, Bool.or_eq_true,
      beq_iff_eq] at hnever
    rcases hnever with rfl | rfl | rfl | rfl | rfl <;> decide
  · intro h
    have hchars := congrArg String.toList h
    simp at hchars
  · rintro rfl
    exact hkeyword (by decide)

theorem isHeadName_identifier {w : String} (hw : isName w.toList) : isHeadName (identifier w) := by
  rw [isHeadName, isIdentifier_identifier hw, Bool.true_and, bne_iff_ne]
  exact identifier_ne_for hw

def Accessor.isLegible (a : Accessor) : Bool :=
  isIdentifier a.name.toList && a.params.all (fun p => isWord p.name && p.type.isLegible) &&
    a.body.all Stmt.isLegible

theorem Accessor.isLegible_declaration {a : Accessor} (h : a.isLegible) :
    a.declaration.signature.isLegible := by
  simp only [isLegible, Bool.and_eq_true] at h
  simp only [declaration, Signature.isLegible, h.1.1, h.1.2]
  decide

theorem Accessor.isLegible_definition {a : Accessor} (h : a.isLegible) :
    a.definition.isLegible := by
  simp only [isLegible, Bool.and_eq_true] at h
  simp only [definition, Function.isLegible, Signature.isLegible, h.1.1, h.1.2, h.2]
  decide

theorem isLegible_changing (docs : List String) {name : String} {params : List Param}
    {body : List Stmt} (hname : isIdentifier name.toList)
    (hparams : params.all fun p => isWord p.name && p.type.isLegible)
    (hbody : body.all Stmt.isLegible) : (Accessor.changing docs name params body).isLegible := by
  have hself : Stmt.isLegible (.value (.atom "self")) := by decide
  simp only [Accessor.changing, Accessor.isLegible, hname, hparams, List.all_append, hbody,
    List.all_cons, hself, List.all_nil, Bool.and_self]

theorem ValueKind.isLegible_params (k : ValueKind) :
    k.params.all fun p => isWord p.name && p.type.isLegible := by
  cases k <;> rfl

theorem ValueKind.isLegible_store (k : ValueKind) (name : String) :
    (k.store name).all Stmt.isLegible := by
  cases k <;> rfl

theorem Attribute.isLegible_accessor (a : Attribute) : a.accessor.isLegible :=
  isLegible_changing _ (isIdentifier_identifier (isName_sanitize _)) a.kind.isLegible_params
    (a.kind.isLegible_store _)

theorem Event.isLegible_accessor (x : Event) : x.accessor.isLegible :=
  isLegible_changing _ (isIdentifier_identifier (isName_sanitize _)) rfl rfl

namespace Element

variable (e : Element)

theorem isLegible_accessors : ∀ a ∈ e.accessors, a.isLegible := by
  refine e.forall_accessors (by decide) (fun slot => ?_) Attribute.isLegible_accessor (by decide)
    Event.isLegible_accessor
  cases slot <;> decide

theorem isHeadName_typeName : isHeadName e.typeName :=
  isHeadName_identifier (isName_sanitize _)

theorem isHeadName_traitName : isHeadName e.traitName := by
  refine isHeadName_identifier ?_
  rw [String.toList_append]
  exact isName_append (by decide) (isName_sanitize _)

theorem isIdentifier_typeName : isIdentifier e.typeName.toList :=
  isIdentifier_identifier (isName_sanitize _)

theorem isIdentifier_constructorName : isIdentifier e.constructorName.toList :=
  isIdentifier_identifier (isName_sanitize _)

theorem isLegible_wrapping {tag : Expr} (h : tag.isLegible) :
    (Expr.call e.typeName [.call "HtmlElement::new"
      [tag, .atom (if e.selfClosing then "true" else "false")]]).isLegible := by
  have hpath : isPath e.typeName := isPath_of_isIdentifier e.isIdentifier_typeName
  have hclosing : isWord (if e.selfClosing then "true" else "false") := by
    split <;> decide
  simp only [Expr.isLegible, Expr.eachLegible, hpath, h, hclosing]
  decide

theorem isLegible_constructor : e.constructor.isLegible := by
  cases h : e.tag with
  | fixed t =>
    have hbody := e.isLegible_wrapping (rfl : (Expr.text t).isLegible)
    simp only [constructor, h, Function.isLegible, Signature.isLegible, e.isIdentifier_typeName,
      e.isIdentifier_constructorName, List.all_cons, Stmt.isLegible, hbody]
    simp [Signature.accesses]
  | caller =>
    have hbody := e.isLegible_wrapping (by decide : (Expr.atom "tag").isLegible)
    have hparam : isWord "tag" && (into "String").isLegible := by decide
    simp only [constructor, h, Function.isLegible, Signature.isLegible, e.isIdentifier_typeName,
      e.isIdentifier_constructorName, List.all_cons, Stmt.isLegible, hbody, hparam]
    simp [Signature.accesses]

theorem isLegible_conversion : e.conversion.isLegible := by
  have hword : isWord e.typeName := isWord_of_isHeadName e.isHeadName_typeName
  simp only [conversion, Function.isLegible, Signature.isLegible, List.all_cons, List.all_nil,
    Ty.isLegible, hword]
  decide

theorem isLegible_items {i : Item} (hi : i ∈ e.items) : i.isLegible := by
  have hdeclarations :
      (e.accessors.map Accessor.declaration).all fun d => d.signature.isLegible := by
    rw [List.all_map, List.all_eq_true]
    exact fun a ha => Accessor.isLegible_declaration (e.isLegible_accessors a ha)
  have hdefinitions : (e.accessors.map Accessor.definition).all Function.isLegible := by
    rw [List.all_map, List.all_eq_true]
    exact fun a ha => Accessor.isLegible_definition (e.isLegible_accessors a ha)
  have htype := e.isHeadName_typeName
  have htrait := e.isHeadName_traitName
  simp only [items, List.mem_append, List.mem_cons, List.not_mem_nil, or_false] at hi
  rcases hi with (rfl | rfl | rfl | rfl | rfl) | hi
  · simp only [Item.isLegible, htrait, hdeclarations]
    decide
  · exact e.isLegible_constructor
  · simp only [Item.isLegible, htype]
    decide
  · simp only [Item.isLegible, Ty.isHead, htype, List.all_cons, e.isLegible_conversion]
    decide
  · simp only [Item.isLegible, Ty.isHead, htype, htrait, hdefinitions]
    decide
  · cases hc : e.content <;> simp only [hc, List.mem_singleton, List.not_mem_nil] at hi
    subst hi
    simp only [Item.isLegible, htype]
    decide

end Element

def bareLines (t : Table) : List Line :=
  t.elements.flatMap fun e => (e.items.map Item.bare).flatMap Item.lines

theorem readLines_bareLines (t : Table) :
    ReadLines (bareLines t) (t.elements.flatMap fun e => e.items.flatMap Item.tokens) := by
  refine .flatMap fun e _ => ?_
  rw [List.flatMap_map]
  exact .flatMap fun i hi => Item.reads (e.isLegible_items hi)

theorem codeLines_items (t : Table) :
    codeLines ("\n" ++ itemsText t).toList = [] :: ((bareLines t).map Line.chars ++ [[]]) := by
  have hitems : (t.elements.flatMap fun e => e.items.flatMap Item.lines).flatMap lineCode =
      (bareLines t).map Line.chars := by
    rw [← (readLines_bareLines t).lineCode_eq, bareLines, List.flatMap_assoc, List.flatMap_assoc]
    exact List.flatMap_congr fun e _ => e.code_items
  have hchars : ("\n" ++ itemsText t).toList = [] ++ '\n' :: (itemsText t).toList := by
    simp
  rw [hchars, codeLines_append, itemsText, codeLines_textOf, hitems]
  rfl

theorem intercalate_lines (ls : List Line) :
    ['\n'].intercalate (ls.map Line.chars ++ [[]]) = ls.flatMap Line.ended := by
  induction ls with
  | nil => simp
  | cons l ls ih =>
    rw [List.map_cons, List.cons_append, List.intercalate_cons_of_ne_nil (by simp), ih,
      List.flatMap_cons, Line.ended]

theorem withoutNotes_items (t : Table) :
    (withoutNotes ("\n" ++ itemsText t)).toList = '\n' :: (bareLines t).flatMap Line.ended := by
  rw [withoutNotes, String.toList_ofList, codeLines_items,
    List.intercalate_cons_of_ne_nil (by simp), intercalate_lines]
  rfl

theorem tokensOf_itemsText (t : Table) :
    tokensOf (withoutNotes ("\n" ++ itemsText t)) =
      some ((t.elements.flatMap Element.items).flatMap Item.tokens) := by
  have hread := (readLines_bareLines t).reads []
  rw [List.append_nil] at hread
  have hline := (Scans.line 0 ((bareLines t).flatMap Line.ended)).readsTo settles_nil
  rw [List.flatMap_assoc]
  refine ReadsTo.tokensOf ?_ ?_
  · rw [withoutNotes_items]
    exact hline.trans hread
  · rw [withoutNotes_items]
    simp

theorem isLegible_of_mem_items (t : Table) :
    ∀ i ∈ t.elements.flatMap Element.items, i.isLegible := by
  intro i hi
  obtain ⟨e, -, hi⟩ := List.mem_flatMap.mp hi
  exact e.isLegible_items hi

theorem outline_itemsText (t : Table) :
    outline (withoutNotes ("\n" ++ itemsText t)) =
      some (t.elements.flatMap fun e => e.items.map Item.outline) := by
  have hitems := readAll_items (isLegible_of_mem_items t)
  rw [List.map_flatMap] at hitems
  rw [outline, tokensOf_itemsText]
  exact hitems

end TypedMarkup
