import Mathlib.Data.List.Forall2
import TypedMarkup.Proofs.Results
import TypedMarkup.Vocabulary.Builtin

namespace TypedMarkup

inductive Reference where
  | toAttribute (d : Dialect) (key : String)
  | toEvent (d : Dialect) (key : String)
  deriving DecidableEq, Repr

namespace Reference

def isIn (v : Vocabulary) : Reference → Bool
  | toAttribute d k => ((v.attributes d).get? k).isSome
  | toEvent d k => ((v.events d).get? k).isSome

def missing (v : Vocabulary) : Reference → MissingKey
  | toAttribute d k => ⟨(v.attributes d).name, k⟩
  | toEvent d k => ⟨(v.events d).name, k⟩

end Reference

open Reference

def AttributeList.references : AttributeList → List Reference
  | .none => []
  | .found d ks => ks.map (toAttribute d)
  | .global xs => xs.references ++ globalAttributeKeys.map (toAttribute .html)

def animationReferences : List Reference :=
  animationEvents.map fun p => toEvent .svg p.1

def EventList.references : EventList → List Reference
  | .none => []
  | .found d ks => ks.map (toEvent d)
  | .baseline b xs => xs.references ++ b.keys.map (toEvent b.dialect)
  | .animated xs => xs.references ++ animationReferences

def Definition.references (d : Definition) : List Reference :=
  d.attributes.references ++ d.events.references

def builtinReferences : List Reference :=
  builtinDefinitions.flatMap Definition.references

namespace Vocabulary

variable {v : Vocabulary} {α β : Type}

def missing? (v : Vocabulary) (rs : List Reference) : Option MissingKey :=
  (rs.find? fun r => !r.isIn v).map (Reference.missing v)

def Settles (v : Vocabulary) (rs : List Reference) (r : Except MissingKey α) : Prop :=
  match v.missing? rs with
  | none => ∃ x, r = .ok x
  | some e => r = .error e

theorem missing?_append (rs qs : List Reference) :
    v.missing? (rs ++ qs) = (v.missing? rs).or (v.missing? qs) := by
  simp only [missing?, List.find?_append]
  cases rs.find? fun r => !r.isIn v <;> rfl

theorem missing?_eq_none {rs : List Reference} :
    v.missing? rs = none ↔ ∀ r ∈ rs, r.isIn v := by
  simp [missing?]

theorem missing?_of_first {before after : List Reference} {r : Reference}
    (hb : ∀ q ∈ before, q.isIn v) (hr : ¬ r.isIn v) :
    v.missing? (before ++ r :: after) = some (r.missing v) := by
  rw [missing?_append, missing?_eq_none.mpr hb]
  simp [missing?, hr]

theorem settles_nil (x : α) : v.Settles [] (.ok x) :=
  ⟨x, rfl⟩

theorem Settles.map {rs : List Reference} {r : Except MissingKey α} (f : α → β)
    (h : v.Settles rs r) : v.Settles rs (r.map f) := by
  unfold Settles at *
  split at h
  · obtain ⟨x, rfl⟩ := h
    exact ⟨f x, rfl⟩
  · subst h
    rfl

theorem Settles.bind {rs qs : List Reference} {r : Except MissingKey α}
    {f : α → Except MissingKey β} (h : v.Settles rs r)
    (hf : ∀ x, r = .ok x → v.Settles qs (f x)) : v.Settles (rs ++ qs) (r >>= f) := by
  unfold Settles at h
  split at h
  · rename_i hrs
    obtain ⟨x, rfl⟩ := h
    have hx : v.Settles qs (f x) := hf x rfl
    rw [Settles, missing?_append, hrs]
    exact hx
  · rename_i e hrs
    subst h
    rw [Settles, missing?_append, hrs]
    rfl

theorem Settles.ok_iff {rs : List Reference} {r : Except MissingKey α} (h : v.Settles rs r) :
    (∃ x, r = .ok x) ↔ ∀ q ∈ rs, q.isIn v := by
  unfold Settles at h
  rw [← missing?_eq_none]
  split at h
  · rename_i hrs
    exact ⟨fun _ => hrs, fun _ => h⟩
  · rename_i e hrs
    subst h
    simp [hrs]

end Vocabulary

open Vocabulary

section

variable {v : Vocabulary}

theorem Catalog.getAll_cons {α : Type} [Keyed α] (c : Catalog α) (k : String) (ks : List String) :
    c.getAll (k :: ks) = c.get k >>= fun x => (c.getAll ks).map (x :: ·) := by
  rw [getAll]
  cases c.get k <;> cases c.getAll ks <;> rfl

theorem settles_getAll {α : Type} [Keyed α] {c : Catalog α} {ref : String → Reference}
    (hin : ∀ k, (ref k).isIn v = (c.get? k).isSome)
    (hmissing : ∀ k, (ref k).missing v = ⟨c.name, k⟩) (ks : List String) :
    v.Settles (ks.map ref) (c.getAll ks) := by
  induction ks with
  | nil => exact settles_nil []
  | cons k ks ih =>
    have hk : v.Settles [ref k] (c.get k) := by
      cases hg : c.get? k with
      | none => simp [Settles, missing?, hin, hmissing, hg, Catalog.get]
      | some x => simp [Settles, missing?, hin, hg, Catalog.get]
    rw [Catalog.getAll_cons]
    exact hk.bind fun x _ => ih.map (x :: ·)

theorem settles_attributes (d : Dialect) (ks : List String) :
    v.Settles (ks.map (toAttribute d)) ((v.attributes d).resolve ks) :=
  (settles_getAll (fun _ => rfl) (fun _ => rfl) ks).map sortByName

theorem settles_events (d : Dialect) (ks : List String) :
    v.Settles (ks.map (toEvent d)) ((v.events d).resolve ks) :=
  (settles_getAll (fun _ => rfl) (fun _ => rfl) ks).map sortByName

theorem AttributeList.settles (xs : AttributeList) : v.Settles xs.references (xs.resolve v) := by
  induction xs with
  | none => exact settles_nil []
  | found d ks => exact settles_attributes d ks
  | global xs ih =>
    have hglobal : ∀ ys, v.Settles (globalAttributeKeys.map (toAttribute .html))
        (v.addGlobalAttributes ys) :=
      fun ys => (settles_attributes .html globalAttributeKeys).map fun zs => sortByName (ys ++ zs)
    exact ih.bind fun ys _ => hglobal ys

def EventList.Grounded : EventList → Prop
  | .none | .found .. => True
  | .baseline _ xs => xs.Grounded
  | .animated xs => xs.Grounded ∧ ∀ r ∈ animationReferences, r ∈ xs.references

instance EventList.decidableGrounded : (xs : EventList) → Decidable xs.Grounded
  | .none => .isTrue trivial
  | .found .. => .isTrue trivial
  | .baseline _ xs => xs.decidableGrounded
  | .animated xs =>
    have := xs.decidableGrounded
    inferInstanceAs (Decidable (_ ∧ _))

theorem addAbsent_ok {c : Catalog Event} {ps : List (String × String)} (xs : List Event)
    (h : ∀ p ∈ ps, (c.get? p.1).isSome) : ∃ ys, addAbsent c ps xs = .ok ys := by
  induction ps generalizing xs with
  | nil => exact ⟨xs, rfl⟩
  | cons p ps ih =>
    have hps : ∀ q ∈ ps, (c.get? q.1).isSome := fun q hq => h q (by simp [hq])
    obtain ⟨x, hx⟩ := Option.isSome_iff_exists.mp (h p (by simp))
    simp only [addAbsent, Catalog.get, hx]
    split
    · exact ih xs hps
    · exact ih _ hps

theorem settles_animation {rs : List Reference} {ys : List Event} (hrs : ∀ r ∈ rs, r.isIn v)
    (ha : ∀ r ∈ animationReferences, r ∈ rs) :
    v.Settles animationReferences (v.addAnimation ys) := by
  have hin : ∀ r ∈ animationReferences, r.isIn v := fun r hr => hrs r (ha r hr)
  have hkeys : ∀ p ∈ animationEvents, (v.svgEvents.get? p.1).isSome :=
    fun p hp => hin _ (List.mem_map_of_mem hp)
  obtain ⟨zs, hzs⟩ := addAbsent_ok ys hkeys
  rw [Settles, missing?_eq_none.mpr hin]
  exact ⟨sortByName zs, by rw [addAnimation, hzs]; rfl⟩

theorem EventList.settles {xs : EventList} (hg : xs.Grounded) :
    v.Settles xs.references (xs.resolve v) := by
  induction xs with
  | none => exact settles_nil []
  | found d ks => exact settles_events d ks
  | baseline b xs ih =>
    have hbase : ∀ ys, v.Settles (b.keys.map (toEvent b.dialect)) (v.addBaseline b ys) :=
      fun ys => (settles_events b.dialect b.keys).map fun zs => sortByName (ys ++ zs)
    exact (ih hg).bind fun ys _ => hbase ys
  | animated xs ih =>
    have hxs : v.Settles xs.references (xs.resolve v) := ih hg.1
    exact hxs.bind fun ys hys => settles_animation (hxs.ok_iff.mp ⟨ys, hys⟩) hg.2

theorem Definition.resolve_eq (d : Definition) :
    d.resolve v = d.attributes.resolve v >>= fun as =>
      (d.events.resolve v).map fun es => ⟨d.name, d.content, d.doc, d.tag, d.text, as, es⟩ := by
  rw [resolve]
  cases d.attributes.resolve v <;> cases d.events.resolve v <;> rfl

theorem Definition.settles {d : Definition} (hg : d.events.Grounded) :
    v.Settles d.references (d.resolve v) := by
  rw [resolve_eq]
  exact d.attributes.settles.bind fun as _ => (EventList.settles hg).map _

theorem Definition.settles_resolveAll {ds : List Definition} (hg : ∀ d ∈ ds, d.events.Grounded) :
    v.Settles (ds.flatMap references) (resolveAll v ds) := by
  induction ds with
  | nil => exact settles_nil []
  | cons d ds ih =>
    have hds : v.Settles (ds.flatMap references) (resolveAll v ds) :=
      ih fun e he => hg e (by simp [he])
    have hall : resolveAll v (d :: ds) =
        d.resolve v >>= fun x => (resolveAll v ds).map fun xs => x :: xs := by
      rw [resolveAll]
      cases d.resolve v <;> cases resolveAll v ds <;> rfl
    rw [hall]
    exact (Definition.settles (hg d (by simp))).bind fun x _ => hds.map (x :: ·)

def Element.frame (e : Element) : String × Content × String × Tag × TextSlot :=
  (e.name, e.content, e.doc, e.tag, e.text)

def Definition.frame (d : Definition) : String × Content × String × Tag × TextSlot :=
  (d.name, d.content, d.doc, d.tag, d.text)

theorem Definition.frame_resolve {d : Definition} {e : Element} (h : d.resolve v = .ok e) :
    e.frame = d.frame := by
  rw [resolve] at h
  split at h
  · simp at h
  · split at h
    · simp at h
    · obtain rfl := Except.ok.inj h
      rfl

theorem Definition.forall₂_resolve {ds : List Definition} {es : List Element}
    (h : resolveAll v ds = .ok es) : List.Forall₂ (fun d e => resolve v d = .ok e) ds es := by
  induction ds generalizing es with
  | nil =>
    obtain rfl := Except.ok.inj h
    exact .nil
  | cons d ds ih =>
    rw [resolveAll] at h
    split at h
    · simp at h
    · rename_i x hx
      split at h
      · simp at h
      · rename_i xs hxs
        obtain rfl := Except.ok.inj h
        exact .cons hx (ih hxs)

theorem Definition.frames_resolveAll {ds : List Definition} {es : List Element}
    (h : resolveAll v ds = .ok es) : es.map Element.frame = ds.map frame := by
  refine List.forall₂_eq_eq_eq ▸ List.forall₂_map_left_iff.mpr (List.forall₂_map_right_iff.mpr ?_)
  exact (forall₂_resolve h).flip.imp fun _ _ => frame_resolve

theorem Definition.map_resolve {ds : List Definition} {es : List Element}
    (h : resolveAll v ds = .ok es) : ds.map (resolve v) = es.map .ok := by
  refine List.forall₂_eq_eq_eq ▸ List.forall₂_map_left_iff.mpr (List.forall₂_map_right_iff.mpr ?_)
  exact forall₂_resolve h

theorem map_resolve_builtin {t : Table} (h : Table.builtin v = .ok t) :
    builtinDefinitions.map (Definition.resolve v) = t.elements.map .ok := by
  obtain ⟨es, hes, rfl⟩ := ok_of_map h
  exact Definition.map_resolve hes

theorem grounded_builtin : ∀ d ∈ builtinDefinitions, d.events.Grounded := by
  decide +kernel

theorem settles_builtin : v.Settles builtinReferences (Table.builtin v) :=
  (Definition.settles_resolveAll grounded_builtin).map Table.mk

end

end TypedMarkup
