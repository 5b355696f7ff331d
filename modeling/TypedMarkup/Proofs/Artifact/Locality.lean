import TypedMarkup.Proofs.Artifact.Import
import TypedMarkup.Proofs.Vocabulary.Locality

namespace TypedMarkup

open Code Layout

theorem textOf_flatMap {α : Type} (f : α → List Line) (xs : List α) :
    textOf (xs.flatMap f) = String.join (xs.map fun x => textOf (f x)) := by
  induction xs with
  | nil => rfl
  | cons x xs ih => rw [List.flatMap_cons, textOf_append, ih, List.map_cons, String.join_cons]

namespace Element

def builderPart (e : Element) : String :=
  textOf (e.items.flatMap Item.lines)

def testPart (e : Element) : String :=
  textOf (e.smokeTest.lines 0)

end Element

def builderParts (path : String) (t : Table) : List String :=
  (preamble ++ textOf (importLines path runtimeNames)) :: t.elements.map Element.builderPart

def testParts (t : Table) : List String :=
  textOf (header ++ [⟨0, "use super::*;"⟩]) :: t.elements.map Element.testPart

theorem join_builderParts (path : String) (t : Table) :
    String.join (builderParts path t) = builderText path t := by
  rw [builderParts, String.join_cons, builderText_eq, itemsText, textOf_flatMap]
  rfl

theorem join_testParts (t : Table) : String.join (testParts t) = smokeText t := by
  rw [testParts, String.join_cons, smokeText, smokeLines, textOf_append _ (t.elements.flatMap _),
    textOf_flatMap]
  rfl

structure Placed (t : Table) (c : Config) (i : Nat) (e : Element) : Prop where
  element : t.elements[i]? = some e
  builder : ∀ a, t.render c = .ok a → ∃ path, c.importPath = .ok path ∧
    a.builder.contents = String.join (builderParts path t) ∧
    (builderParts path t)[i + 1]? = some e.builderPart
  tests : ∀ a, t.render c = .ok a →
    a.tests.contents = String.join (testParts t) ∧ (testParts t)[i + 1]? = some e.testPart

theorem placed {t : Table} {i : Nat} {e : Element} (h : t.elements[i]? = some e) (c : Config) :
    Placed t c i e := by
  refine ⟨h, ?_, ?_⟩
  · intro a ha
    obtain ⟨path, hpath, rfl⟩ := render_ok ha
    refine ⟨path, hpath, (join_builderParts path t).symm, ?_⟩
    rw [builderParts, List.getElem?_cons_succ, List.getElem?_map, h]
    rfl
  · intro a ha
    obtain ⟨path, -, rfl⟩ := render_ok ha
    refine ⟨(join_testParts t).symm, ?_⟩
    rw [testParts, List.getElem?_cons_succ, List.getElem?_map, h]
    rfl

theorem elements_local :
    (∀ v t, Table.builtin v = .ok t → t.size = builtinDefinitions.length) ∧
    ∀ i d, builtinDefinitions[i]? = some d → ∀ v w t u,
      Table.builtin v = .ok t → Table.builtin w = .ok u →
      (∀ r ∈ d.references, r.Agrees v w) ∨ v.Revised d.references w →
      ∃ e, ∀ c, Placed t c i e ∧ Placed u c i e := by
  refine ⟨fun v t => size_builtin, ?_⟩
  intro i d hd v w t u ht hu h
  have hagrees : ∀ r ∈ d.references, r.Agrees v w := by
    rcases h with h | h
    · exact h
    · exact h.agrees
  obtain ⟨e, hte, hue⟩ := element_congr ht hu hd hagrees
  exact ⟨e, fun c => ⟨placed hte c, placed hue c⟩⟩

def hyperlink : Definition :=
  .entry .container "A" "defines a hyperlink."
    (.global (.found .html ["download", "href", "hreflang", "media", "ping", "rel", "target",
      "type"]))
    (.baseline .global .none)

def otherCite : Attribute :=
  ⟨"cite", "Cite", some "q-cite", .bool, "tells whether there is a source."⟩

theorem elements_local_of_hyperlink :
    ∃ t u e, Table.builtin .builtin = .ok t ∧
      Table.builtin (Vocabulary.builtin.overridden [otherCite] [] [] []) = .ok u ∧
      ∀ c, Placed t c 0 e ∧ Placed u c 0 e := by
  obtain ⟨t, ht⟩ := Table.builtin_ok
  obtain ⟨u, hu⟩ := Table.builtin_ok_of_extends (extends_overridden .builtin [otherCite] [] [] [])
  have hcite : Reference.toAttribute .html "cite" ∉ hyperlink.references := by decide
  have hrevised : Vocabulary.builtin.Revised hyperlink.references
      (Vocabulary.builtin.overridden [otherCite] [] [] []) := by
    refine Vocabulary.revised_overridden ?_ (by simp) (by simp) (by simp)
    intro a ha
    rw [List.mem_singleton.mp ha]
    exact hcite
  obtain ⟨e, he⟩ := elements_local.2 0 hyperlink rfl .builtin _ t u ht hu (.inr hrevised)
  exact ⟨t, u, e, ht, hu, he⟩

end TypedMarkup
