import TypedMarkup.Proofs.Artifact.Inventory
import TypedMarkup.Proofs.Code.Calls

namespace TypedMarkup

open Code

namespace Element

variable (e : Element)

def interface : Interface :=
  ⟨e.traitName, e.methods⟩

def implementation : Implementation :=
  ⟨e.traitName, e.typeName, e.accessors.map fun a => a.definition.method⟩

-- By rewriting, since unification would go on to what the names are made of.
@[simp] theorem name_interface : e.interface.name = e.traitName := by
  rw [interface]

@[simp] theorem trait_implementation : e.implementation.trait = e.traitName := by
  rw [implementation]

@[simp] theorem type_implementation : e.implementation.type = e.typeName := by
  rw [implementation]

theorem method?_items :
    e.items.filterMap (fun i => i.outline.method?) = [e.constructor.method] := by
  cases hc : e.content <;> simp [items, hc, Item.outline, Outline.method?, Function.method]

theorem interface?_items : e.items.filterMap (fun i => i.outline.interface?) = [e.interface] := by
  have hmethods := e.heads_declarations
  cases hc : e.content <;>
    simp [items, hc, Item.outline, Outline.interface?, interface, Function.comp_def, hmethods]

def inherents : List Interface :=
  if e.content = .restricted then [⟨e.typeName, [privateBodyHead]⟩] else []

theorem inherent?_items : e.items.filterMap (fun i => i.outline.inherent?) = e.inherents := by
  cases hc : e.content <;>
    simp [items, inherents, hc, Item.outline, Outline.inherent?, head_privateBody]

theorem implementation?_items :
    e.items.filterMap Item.implementation? = [e.implementation] := by
  cases hc : e.content <;>
    simp [items, hc, List.filterMap_cons, Item.implementation?, implementation, Function.comp_def]

end Element

section

variable {α : Type} {f : Item → Option α} {g : Element → α}

theorem filterMap_items (h : ∀ e : Element, e.items.filterMap f = [g e]) (t : Table) :
    (t.elements.flatMap Element.items).filterMap f = t.elements.map g := by
  rw [List.filterMap_flatMap, List.map_eq_flatMap]
  exact List.flatMap_congr fun e _ => h e

theorem filterMap_outlines {r : Outline → Option α}
    (h : ∀ e : Element, e.items.filterMap (fun i => r i.outline) = [g e]) (t : Table) :
    (t.elements.flatMap fun e => e.items.map Item.outline).filterMap r = t.elements.map g := by
  rw [← filterMap_items h t, ← List.map_flatMap, List.filterMap_map]
  rfl

end

section

variable {t : Table} {c : Config} {a : Artifacts} (h : t.render c = .ok a)
include h

theorem outline_builder : outline (withoutNotes (afterImport a.builder.contents)) =
    some (t.elements.flatMap fun e => e.items.map Item.outline) := by
  obtain ⟨path, hpath, rfl⟩ := render_ok h
  rw [afterImport_builderText (semicolon_not_mem_importPath hpath), outline_itemsText]

theorem functions_builder : functions (withoutNotes (afterImport a.builder.contents)) =
    some (t.elements.map fun e => e.constructor.method) := by
  rw [functions, outline_builder h, Option.map_some, filterMap_outlines Element.method?_items]

theorem interfaces_builder : interfaces (withoutNotes (afterImport a.builder.contents)) =
    some (t.elements.map Element.interface) := by
  rw [interfaces, outline_builder h, Option.map_some, filterMap_outlines Element.interface?_items]

theorem inherents_builder : inherents (withoutNotes (afterImport a.builder.contents)) =
    some (t.elements.flatMap Element.inherents) := by
  rw [inherents, outline_builder h, Option.map_some, List.filterMap_flatMap]
  refine congrArg some (List.flatMap_congr fun e _ => ?_)
  rw [List.filterMap_map]
  exact e.inherent?_items

theorem implementations_builder :
    implementations (withoutNotes (afterImport a.builder.contents)) =
      some (t.elements.map Element.implementation) := by
  obtain ⟨path, hpath, rfl⟩ := render_ok h
  rw [afterImport_builderText (semicolon_not_mem_importPath hpath),
    implementations_of_tokens (isLegible_of_mem_items t) (tokensOf_itemsText t),
    filterMap_items Element.implementation?_items]

end

theorem ValueKind.not_value_store (k : ValueKind) (name : String) :
    ∀ s ∈ k.store name, s.isValue = false := by
  have hall : (k.store name).all fun s => !s.isValue := by
    cases k <;> rfl
  simpa using hall

theorem not_value_changing {docs : List String} {name : String} {params : List Param}
    {body : List Stmt} (h : ∀ s ∈ body, s.isValue = false) :
    ∀ s ∈ (Accessor.changing docs name params body).body.dropLast, s.isValue = false := by
  simpa [Accessor.changing] using h

theorem calls_changing (docs : List String) (name : String) (params : List Param)
    (body : List Stmt) :
    (Accessor.changing docs name params body).definition.calls = body.flatMap Stmt.calls := by
  simp [Accessor.changing, Accessor.definition, Function.calls, Stmt.calls, Expr.calls]

namespace Element

variable (e : Element)

theorem not_value_accessors : ∀ a ∈ e.accessors, ∀ s ∈ a.body.dropLast, s.isValue = false := by
  refine e.forall_accessors (by decide) (fun slot => ?_) (fun a => ?_) (by decide) fun x => ?_
  · cases slot <;> decide
  · exact not_value_changing (a.kind.not_value_store a.storedName)
  · exact not_value_changing (by simp [listen, Stmt.isValue])

theorem methodCalls_definition : ∀ a ∈ e.accessors,
    methodCalls [] a.definition.method.body = a.definition.calls.map Call.shown := by
  intro a ha
  exact Function.methodCalls_method (a.isLegible_definition (e.isLegible_accessors a ha))
    (e.not_value_accessors a ha)

end Element

end TypedMarkup
