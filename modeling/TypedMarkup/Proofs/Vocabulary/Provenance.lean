import TypedMarkup.Proofs.Vocabulary.Builtin
import TypedMarkup.Proofs.Vocabulary.Merging

namespace TypedMarkup

section

variable {α : Type} [Keyed α] {c : Catalog α} {holds : α → Prop} {xs ys : List α}

structure Drawn (holds : α → Prop) (xs : List α) : Prop where
  sorted : Sorted xs
  held : ∀ x ∈ xs, holds x

theorem Drawn.nil : Drawn holds ([] : List α) :=
  ⟨List.Pairwise.nil, by simp⟩

theorem Drawn.sortByName (h : ∀ x ∈ xs, holds x) : Drawn holds (sortByName xs) :=
  ⟨sorted_sortByName xs, fun x hx => h x (mem_sortByName.mp hx)⟩

theorem Catalog.key_of_get? {k : String} {x : α} (h : c.get? k = some x) : key x = k := by
  simpa using List.find?_some h

def Catalog.Holds (c : Catalog α) (x : α) : Prop :=
  c.get? (key x) = some x

theorem Catalog.holds_of_get? {k : String} {x : α} (h : c.get? k = some x) : c.Holds x := by
  rw [Holds, key_of_get? h, h]

theorem Catalog.holds_of_mem_listed {ks : List String} {x : α} (h : x ∈ c.listed ks) :
    c.Holds x := by
  obtain ⟨k, -, hk⟩ := List.mem_filterMap.mp h
  exact holds_of_get? hk

theorem drawn_resolve {ks : List String} (h : c.resolve ks = .ok xs)
    (hc : ∀ x, c.Holds x → holds x) : Drawn holds xs := by
  rw [Catalog.resolve_eq] at h
  split at h
  · cases h
  · obtain rfl := Except.ok.inj h
    exact .sortByName fun x hx => hc x (Catalog.holds_of_mem_listed hx)

theorem drawn_add {s : Source α} (h : s.add xs = .ok ys) (hx : Drawn holds xs)
    (hs : ∀ x, s.catalog.Holds x → holds x) : Drawn holds ys := by
  rw [Source.add_eq] at h
  split at h
  · cases h
  · obtain rfl := Except.ok.inj h
    refine .sortByName fun x hm => ?_
    rcases List.mem_append.mp hm with hm | hm
    · exact hx.held x hm
    · exact hs x (Catalog.holds_of_mem_listed hm)

end

namespace Vocabulary

variable {v : Vocabulary}

def HoldsAttribute (v : Vocabulary) (a : Attribute) : Prop :=
  ∃ d, (v.attributes d).get? a.key = some a

def HoldsEvent (v : Vocabulary) (e : Event) : Prop :=
  ∃ d, (v.events d).get? e.key = some e

theorem held_addAbsent {ps : List (String × String)} {xs ys : List Event}
    (hx : ∀ x ∈ xs, v.HoldsEvent x) (h : addAbsent v.svgEvents ps xs = .ok ys) :
    ∀ y ∈ ys, v.HoldsEvent y := by
  induction ps generalizing xs with
  | nil =>
    obtain rfl := Except.ok.inj h
    exact hx
  | cons p ps ih =>
    obtain ⟨k, name⟩ := p
    rw [addAbsent] at h
    split at h
    · exact ih hx h
    · cases hk : v.svgEvents.get? k with
      | none => simp [Catalog.get, hk] at h
      | some x =>
        simp only [Catalog.get, hk] at h
        refine ih (fun y hy => ?_) h
        rcases List.mem_append.mp hy with hy | hy
        · exact hx y hy
        · rw [List.mem_singleton.mp hy]
          exact ⟨.svg, Catalog.holds_of_get? hk⟩

theorem drawn_addAnimation {xs ys : List Event} (hx : Drawn v.HoldsEvent xs)
    (h : v.addAnimation xs = .ok ys) : Drawn v.HoldsEvent ys := by
  obtain ⟨zs, hadd, rfl⟩ := ok_of_map h
  exact .sortByName (held_addAbsent hx.held hadd)

end Vocabulary

open Vocabulary

variable {v : Vocabulary}

theorem AttributeList.drawn {xs : AttributeList} {ys : List Attribute}
    (h : xs.resolve v = .ok ys) : Drawn v.HoldsAttribute ys := by
  induction xs generalizing ys with
  | none =>
    obtain rfl := Except.ok.inj h
    exact .nil
  | found d ks => exact drawn_resolve h fun a ha => ⟨d, ha⟩
  | global xs ih =>
    obtain ⟨zs, hzs, h⟩ := ok_of_bind h
    have hadd : v.globalSource.add zs = .ok ys := h
    exact drawn_add hadd (ih hzs) fun a ha => ⟨.html, ha⟩

theorem EventList.drawn {xs : EventList} {ys : List Event} (h : xs.resolve v = .ok ys) :
    Drawn v.HoldsEvent ys := by
  induction xs generalizing ys with
  | none =>
    obtain rfl := Except.ok.inj h
    exact .nil
  | found d ks => exact drawn_resolve h fun e he => ⟨d, he⟩
  | baseline b xs ih =>
    obtain ⟨zs, hzs, h⟩ := ok_of_bind h
    have hadd : (v.source b).add zs = .ok ys := h
    exact drawn_add hadd (ih hzs) fun e he => ⟨b.dialect, he⟩
  | animated xs ih =>
    obtain ⟨zs, hzs, h⟩ := ok_of_bind h
    exact drawn_addAnimation (ih hzs) h

theorem Definition.resolve_ok {d : Definition} {e : Element} (h : d.resolve v = .ok e) :
    d.attributes.resolve v = .ok e.attributes ∧ d.events.resolve v = .ok e.events := by
  rw [resolve] at h
  split at h
  · cases h
  · rename_i as has
    split at h
    · cases h
    · rename_i es hes
      obtain rfl := Except.ok.inj h
      exact ⟨has, hes⟩

theorem composed_drawn (v : Vocabulary) :
    (∀ (xs : AttributeList) ys, xs.resolve v = .ok ys → Drawn v.HoldsAttribute ys) ∧
    (∀ (xs : EventList) ys, xs.resolve v = .ok ys → Drawn v.HoldsEvent ys) ∧
    ∀ t, Table.builtin v = .ok t → ∀ e ∈ t.elements,
      Drawn v.HoldsAttribute e.attributes ∧ Drawn v.HoldsEvent e.events := by
  refine ⟨fun xs ys => AttributeList.drawn, fun xs ys => EventList.drawn, ?_⟩
  intro t ht e he
  have hmem : Except.ok e ∈ builtinDefinitions.map (Definition.resolve v) := by
    rw [map_resolve_builtin ht]
    exact List.mem_map_of_mem he
  obtain ⟨d, -, hd⟩ := List.mem_map.mp hmem
  obtain ⟨has, hes⟩ := Definition.resolve_ok hd
  exact ⟨AttributeList.drawn has, EventList.drawn hes⟩

def Vocabulary.ofAnimations : Vocabulary where
  htmlAttributes := .ofList "html attribute" []
  svgAttributes := .ofList "svg attribute" []
  htmlEvents := .ofList "html event" []
  svgEvents := .ofList "svg event"
    [⟨"onend", "OnEnd", "ends"⟩, ⟨"onrepeat", "OnRepeat", "repeats"⟩,
     ⟨"onbegin", "OnBegin", "begins"⟩, ⟨"onend", "AtEnd", "ends twice"⟩]

theorem composed_drawn_of_animated :
    Drawn Vocabulary.ofAnimations.HoldsEvent
      [⟨"onbegin", "OnBegin", "begins"⟩, ⟨"onend", "OnEnd", "ends"⟩,
       ⟨"onrepeat", "OnRepeat", "repeats"⟩] ∧
    ∃ t, Table.builtin .builtin = .ok t ∧ ∀ e ∈ t.elements,
      Drawn Vocabulary.builtin.HoldsAttribute e.attributes ∧
      Drawn Vocabulary.builtin.HoldsEvent e.events := by
  have hanimated : (EventList.animated .none).resolve .ofAnimations =
      .ok (sortByName [⟨"onbegin", "OnBegin", "begins"⟩, ⟨"onend", "OnEnd", "ends"⟩,
        ⟨"onrepeat", "OnRepeat", "repeats"⟩]) := rfl
  rw [sortByName, List.mergeSort_of_pairwise (by decide)] at hanimated
  obtain ⟨t, ht⟩ := Table.builtin_ok
  exact ⟨(composed_drawn .ofAnimations).2.1 _ _ hanimated, t, ht,
    (composed_drawn .builtin).2.2 t ht⟩

end TypedMarkup
