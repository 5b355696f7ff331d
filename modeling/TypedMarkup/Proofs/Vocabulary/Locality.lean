import Mathlib.Logic.Relation
import TypedMarkup.Proofs.Vocabulary.Builtin

namespace TypedMarkup

inductive Change {α : Type} [Keyed α] (kept : String → Prop) : List α → List α → Prop
  | added (xs ys : List α) {x : α} (h : ¬ kept (key x)) : Change kept (xs ++ ys) (xs ++ x :: ys)
  | removed (xs ys : List α) {x : α} (h : ¬ kept (key x)) :
    Change kept (xs ++ x :: ys) (xs ++ ys)
  | changed (xs ys : List α) {x y : α} (hx : ¬ kept (key x)) (hy : ¬ kept (key y)) :
    Change kept (xs ++ x :: ys) (xs ++ y :: ys)
  | reordered {xs ys : List α} (h : (xs.map key).Nodup) (hp : xs.Perm ys) : Change kept xs ys

section

variable {α : Type} [Keyed α] {kept : String → Prop} {xs ys : List α} {k : String} {x : α}

theorem find?_eq_some_of_nodup (h : (xs.map key).Nodup) :
    xs.find? (key · == k) = some x ↔ x ∈ xs ∧ key x = k := by
  induction xs with
  | nil => simp
  | cons y xs ih =>
    rw [List.map_cons, List.nodup_cons] at h
    rw [List.find?_cons]
    by_cases hy : key y = k
    · simp only [hy, beq_self_eq_true, Option.some.injEq, List.mem_cons]
      constructor
      · rintro rfl
        exact ⟨.inl rfl, hy⟩
      · rintro ⟨rfl | hx, hk⟩
        · rfl
        · exact absurd (List.mem_map.mpr ⟨x, hx, hk.trans hy.symm⟩) h.1
    · rw [beq_eq_false_iff_ne.mpr hy]
      dsimp only
      rw [ih h.2, List.mem_cons]
      constructor
      · rintro ⟨hx, hk⟩
        exact ⟨.inr hx, hk⟩
      · rintro ⟨rfl | hx, hk⟩
        · exact absurd hk hy
        · exact ⟨hx, hk⟩

theorem find?_reordered (h : (xs.map key).Nodup) (hp : xs.Perm ys) :
    ys.find? (key · == k) = xs.find? (key · == k) := by
  have hys : (ys.map key).Nodup := (hp.map key).nodup h
  ext x
  rw [find?_eq_some_of_nodup hys, find?_eq_some_of_nodup h, hp.mem_iff]

theorem find?_beside (xs ys : List α) (hk : kept k) (hx : ¬ kept (key x)) :
    (xs ++ x :: ys).find? (key · == k) = (xs ++ ys).find? (key · == k) := by
  have hne : key x ≠ k := fun h => hx (h ▸ hk)
  rw [List.find?_append, List.find?_append, List.find?_cons, beq_eq_false_iff_ne.mpr hne]

theorem Change.find?_eq (h : Change kept xs ys) (hk : kept k) :
    ys.find? (key · == k) = xs.find? (key · == k) := by
  cases h with
  | added xs ys hx => exact find?_beside xs ys hk hx
  | removed xs ys hx => exact (find?_beside xs ys hk hx).symm
  | changed xs ys hx hy => rw [find?_beside xs ys hk hx, find?_beside xs ys hk hy]
  | reordered hn hp => exact find?_reordered hn hp

namespace Catalog

variable {c c' : Catalog α}

def Revised (kept : String → Prop) (c c' : Catalog α) : Prop :=
  ∃ name name' xs ys, c = .ofList name xs ∧ c' = .ofList name' ys ∧
    Relation.ReflTransGen (Change kept) xs ys

theorem Revised.get?_eq (h : c.Revised kept c') (hk : kept k) : c'.get? k = c.get? k := by
  obtain ⟨name, name', xs, ys, rfl, rfl, hchanges⟩ := h
  rw [get?_ofList, get?_ofList]
  induction hchanges with
  | refl => rfl
  | tail _ hstep ih => rw [hstep.find?_eq hk, ih]

theorem ofList_entries (c : Catalog α) : .ofList c.name c.entries = c := by
  have hfirsts : ∀ xs : List α, (xs.map key).Nodup → firsts xs = xs := by
    intro xs
    induction xs with
    | nil => intro _; rfl
    | cons x xs ih =>
      intro h
      rw [List.map_cons, List.nodup_cons] at h
      rw [firsts, ih h.2, List.filter_eq_self.mpr]
      intro y hy
      rw [bne_iff_ne]
      exact fun hyx => h.1 (hyx ▸ List.mem_map_of_mem hy)
  obtain ⟨name, xs, h⟩ := c
  simp only [ofList, hfirsts xs h]

theorem revised_append (xs : List α) (h : ∀ x ∈ xs, ¬ kept (key x)) :
    c.Revised kept (.ofList c.name (xs ++ c.entries)) := by
  refine ⟨c.name, c.name, c.entries, xs ++ c.entries, c.ofList_entries.symm, rfl, ?_⟩
  induction xs with
  | nil => exact .refl
  | cons x xs ih =>
    rw [List.forall_mem_cons] at h
    exact (ih h.2).tail (.added [] (xs ++ c.entries) h.1)

end Catalog

end

section

variable {α β : Type} {x y : Except MissingKey α}

theorem toOption_bind_congr {f g : α → Except MissingKey β} (h : x.toOption = y.toOption)
    (hf : ∀ a, (f a).toOption = (g a).toOption) :
    (x >>= f).toOption = (y >>= g).toOption := by
  cases x with
  | error e =>
    cases y with
    | error e' => rfl
    | ok b => cases h
  | ok a =>
    cases y with
    | error e' => cases h
    | ok b =>
      obtain rfl : a = b := Option.some.inj h
      exact hf a

theorem toOption_map_congr (f : α → β) (h : x.toOption = y.toOption) :
    (x.map f).toOption = (y.map f).toOption := by
  have hbind : ∀ z : Except MissingKey α, z.map f = z >>= fun a => .ok (f a) := by
    intro z
    cases z <;> rfl
  rw [hbind, hbind]
  exact toOption_bind_congr h fun a => rfl

theorem toOption_get [Keyed α] (c : Catalog α) (k : String) : (c.get k).toOption = c.get? k := by
  rw [Catalog.get]
  cases c.get? k <;> rfl

theorem toOption_resolve_congr [Keyed α] {c c' : Catalog α} {ks : List String}
    (h : ∀ k ∈ ks, c.get? k = c'.get? k) :
    (c.resolve ks).toOption = (c'.resolve ks).toOption := by
  apply toOption_map_congr
  induction ks with
  | nil => rfl
  | cons k ks ih =>
    rw [List.forall_mem_cons] at h
    rw [Catalog.getAll_cons, Catalog.getAll_cons]
    apply toOption_bind_congr
    · rw [toOption_get, toOption_get, h.1]
    · intro x
      exact toOption_map_congr (x :: ·) (ih h.2)

end

def Reference.Agrees (v w : Vocabulary) : Reference → Prop
  | toAttribute d k => (v.attributes d).get? k = (w.attributes d).get? k
  | toEvent d k => (v.events d).get? k = (w.events d).get? k

structure Vocabulary.Revised (rs : List Reference) (v w : Vocabulary) : Prop where
  attributes (d : Dialect) :
    (v.attributes d).Revised (fun k => .toAttribute d k ∈ rs) (w.attributes d)
  events (d : Dialect) : (v.events d).Revised (fun k => .toEvent d k ∈ rs) (w.events d)

section

variable {v w : Vocabulary}

theorem Vocabulary.Revised.agrees {rs : List Reference} (h : v.Revised rs w) :
    ∀ r ∈ rs, r.Agrees v w := by
  intro r hr
  cases r with
  | toAttribute d k => exact ((h.attributes d).get?_eq hr).symm
  | toEvent d k => exact ((h.events d).get?_eq hr).symm

theorem Vocabulary.revised_overridden {rs : List Reference} {ha sa : List Attribute}
    {he se : List Event} (hha : ∀ a ∈ ha, .toAttribute .html a.key ∉ rs)
    (hsa : ∀ a ∈ sa, .toAttribute .svg a.key ∉ rs) (hhe : ∀ e ∈ he, .toEvent .html e.key ∉ rs)
    (hse : ∀ e ∈ se, .toEvent .svg e.key ∉ rs) : v.Revised rs (v.overridden ha sa he se) := by
  constructor
  · rintro (_ | _)
    · exact Catalog.revised_append ha hha
    · exact Catalog.revised_append sa hsa
  · rintro (_ | _)
    · exact Catalog.revised_append he hhe
    · exact Catalog.revised_append se hse

theorem agrees_attributes {d : Dialect} {ks : List String}
    (h : ∀ r ∈ ks.map (Reference.toAttribute d), r.Agrees v w) :
    ((v.attributes d).resolve ks).toOption = ((w.attributes d).resolve ks).toOption :=
  toOption_resolve_congr fun _ hk => h _ (List.mem_map_of_mem hk)

theorem agrees_events {d : Dialect} {ks : List String}
    (h : ∀ r ∈ ks.map (Reference.toEvent d), r.Agrees v w) :
    ((v.events d).resolve ks).toOption = ((w.events d).resolve ks).toOption :=
  toOption_resolve_congr fun _ hk => h _ (List.mem_map_of_mem hk)

theorem AttributeList.resolve_congr (xs : AttributeList)
    (h : ∀ r ∈ xs.references, r.Agrees v w) :
    (xs.resolve v).toOption = (xs.resolve w).toOption := by
  induction xs with
  | none => rfl
  | found d ks => exact agrees_attributes h
  | global xs ih =>
    rw [references, List.forall_mem_append] at h
    refine toOption_bind_congr (ih h.1) fun ys => ?_
    exact toOption_map_congr _ (agrees_attributes h.2)

theorem addAbsent_congr {c c' : Catalog Event} {ps : List (String × String)}
    (h : ∀ p ∈ ps, c.get? p.1 = c'.get? p.1) (xs : List Event) :
    (Vocabulary.addAbsent c ps xs).toOption = (Vocabulary.addAbsent c' ps xs).toOption := by
  induction ps generalizing xs with
  | nil => rfl
  | cons p ps ih =>
    rw [List.forall_mem_cons] at h
    simp only [Vocabulary.addAbsent, Catalog.get, h.1]
    split
    · exact ih h.2 xs
    · cases c'.get? p.1 with
      | none => rfl
      | some x => exact ih h.2 (xs ++ [x])

theorem EventList.resolve_congr (xs : EventList) (h : ∀ r ∈ xs.references, r.Agrees v w) :
    (xs.resolve v).toOption = (xs.resolve w).toOption := by
  induction xs with
  | none => rfl
  | found d ks => exact agrees_events h
  | baseline b xs ih =>
    rw [references, List.forall_mem_append] at h
    refine toOption_bind_congr (ih h.1) fun ys => ?_
    exact toOption_map_congr _ (agrees_events h.2)
  | animated xs ih =>
    rw [references, List.forall_mem_append] at h
    refine toOption_bind_congr (ih h.1) fun ys => ?_
    have hsvg : ∀ p ∈ animationEvents, v.svgEvents.get? p.1 = w.svgEvents.get? p.1 :=
      fun p hp => h.2 _ (List.mem_map_of_mem hp)
    exact toOption_map_congr sortByName (addAbsent_congr hsvg ys)

theorem Definition.resolve_congr (d : Definition) (h : ∀ r ∈ d.references, r.Agrees v w) :
    (d.resolve v).toOption = (d.resolve w).toOption := by
  rw [references, List.forall_mem_append] at h
  rw [resolve_eq, resolve_eq]
  refine toOption_bind_congr (d.attributes.resolve_congr h.1) fun as => ?_
  exact toOption_map_congr _ (d.events.resolve_congr h.2)

theorem size_builtin {t : Table} (ht : Table.builtin v = .ok t) :
    t.size = builtinDefinitions.length := by
  have h := congrArg List.length (map_resolve_builtin ht)
  rw [List.length_map, List.length_map] at h
  exact h.symm

theorem element_of_definition {t : Table} (ht : Table.builtin v = .ok t) {i : Nat}
    {d : Definition} (hd : builtinDefinitions[i]? = some d) :
    ∃ e, t.elements[i]? = some e ∧ d.resolve v = .ok e := by
  have h := congrArg (fun rs => rs[i]?) (map_resolve_builtin ht)
  simp only [List.getElem?_map, hd, Option.map_some] at h
  cases he : t.elements[i]? with
  | none => simp [he] at h
  | some e =>
    rw [he] at h
    exact ⟨e, rfl, Option.some.inj h⟩

theorem element_congr {t u : Table} (ht : Table.builtin v = .ok t) (hu : Table.builtin w = .ok u)
    {i : Nat} {d : Definition} (hd : builtinDefinitions[i]? = some d)
    (h : ∀ r ∈ d.references, r.Agrees v w) :
    ∃ e, t.elements[i]? = some e ∧ u.elements[i]? = some e := by
  obtain ⟨e, he, hv⟩ := element_of_definition ht hd
  obtain ⟨f, hf, hw⟩ := element_of_definition hu hd
  have hsame := d.resolve_congr h
  rw [hv, hw] at hsame
  obtain rfl : e = f := Option.some.inj hsame
  exact ⟨e, he, hf⟩

end

end TypedMarkup
