import Mathlib.Data.List.Nodup
import Mathlib.Data.List.Perm.Subperm
import TypedMarkup.Proofs.Vocabulary.Merging

namespace TypedMarkup

section

variable {α : Type} [Keyed α] {s : Source α} {xs ys : List α} {r : Except MissingKey (List α)}

inductive Source.Adds (s : Source α) (xs : List α) : Except MissingKey (List α) → Prop where
  | added {es ys : List α}
      (hfound : List.Forall₂ (fun k x => s.catalog.get? k = some x) s.keys es)
      (hsort : IsStableSort (xs ++ es) ys) : Adds s xs (.ok ys)
  | missing {before after : List String} {k : String} (hkeys : s.keys = before ++ k :: after)
      (hbefore : ∀ j ∈ before, (s.catalog.get? j).isSome) (hk : s.catalog.get? k = none) :
      Adds s xs (.error ⟨s.catalog.name, k⟩)

theorem Source.add_eq_iff : s.add xs = r ↔ s.Adds xs r := by
  rw [add_eq]
  constructor
  · rintro rfl
    cases hm : s.missing? with
    | none =>
      exact .added (Catalog.forall₂_iff.mpr ⟨hm, rfl⟩) (isStableSort_iff.mpr rfl)
    | some e =>
      obtain ⟨before, k, after, hkeys, hbefore, hk, rfl⟩ := Catalog.missing?_eq_some_iff.mp hm
      exact .missing hkeys hbefore hk
  · intro h
    cases h with
    | added hfound hsort =>
      obtain ⟨hm, rfl⟩ := Catalog.forall₂_iff.mp hfound
      rw [missing?, hm, isStableSort_iff.mp hsort]
      rfl
    | missing hkeys hbefore hk =>
      have hm : s.missing? = some _ :=
        Catalog.missing?_eq_some_iff.mpr ⟨_, _, _, hkeys, hbefore, hk, rfl⟩
      rw [hm]

theorem Source.add_ok_iff :
    (∃ ys, s.add xs = .ok ys) ↔ ∀ k ∈ s.keys, (s.catalog.get? k).isSome := by
  rw [add_eq, ← Catalog.missing?_eq_none_iff, ← missing?]
  cases s.missing? <;> simp

end

variable {c : Catalog Event} {ps : List (String × String)} {xs ys es : List Event}

def absentKeys (ps : List (String × String)) (xs : List Event) : List String :=
  (ps.filter fun p => p.2 ∉ xs.map Event.name).map Prod.fst

def Catalog.Names (c : Catalog Event) (ps : List (String × String)) : Prop :=
  ∀ p ∈ ps, ∀ e ∈ c.get? p.1, e.name = p.2

instance : Decidable (c.Names ps) :=
  inferInstanceAs (Decidable (∀ p ∈ ps, ∀ e ∈ c.get? p.1, e.name = p.2))

theorem any_name (n : String) : xs.any (·.name == n) = decide (n ∈ xs.map Event.name) := by
  rw [Bool.eq_iff_iff]
  simp

theorem absentKeys_cons (k n : String) :
    absentKeys ((k, n) :: ps) xs =
      if n ∈ xs.map Event.name then absentKeys ps xs else k :: absentKeys ps xs := by
  simp only [absentKeys, List.filter_cons]
  split <;> simp_all

theorem forall_absentKeys {q : String → Prop} :
    (∀ k ∈ absentKeys ps xs, q k) ↔ ∀ p ∈ ps, p.2 ∉ xs.map Event.name → q p.1 := by
  simp only [absentKeys, List.forall_mem_map, List.mem_filter, decide_eq_true_eq, and_imp]

theorem absentKeys_congr (h : ∀ p ∈ ps, p.2 ∈ xs.map Event.name ↔ p.2 ∈ ys.map Event.name) :
    absentKeys ps xs = absentKeys ps ys := by
  have hfilter : (ps.filter fun p => p.2 ∉ xs.map Event.name) =
      ps.filter fun p => p.2 ∉ ys.map Event.name :=
    List.filter_congr fun p hp => by simp only [h p hp]
  rw [absentKeys, absentKeys, hfilter]

theorem addAbsent_eq (hc : c.Names ps) (hps : (ps.map Prod.snd).Nodup) (xs : List Event) :
    Vocabulary.addAbsent c ps xs = (c.getAll (absentKeys ps xs)).map (xs ++ ·) := by
  induction ps generalizing xs with
  | nil => simp [Vocabulary.addAbsent, absentKeys, Catalog.getAll, Except.map]
  | cons p ps ih =>
    obtain ⟨k, n⟩ := p
    rw [Catalog.Names, List.forall_mem_cons] at hc
    rw [List.map_cons, List.nodup_cons] at hps
    rw [Vocabulary.addAbsent, any_name, absentKeys_cons]
    by_cases hn : n ∈ xs.map Event.name
    · rw [if_pos hn, if_pos (by simpa using hn)]
      exact ih hc.2 hps.2 xs
    · rw [if_neg hn, if_neg (by simpa using hn), Catalog.getAll]
      cases hk : c.get? k with
      | none => simp [Catalog.get, hk, Except.map]
      | some x =>
        -- The name of the event just added is none of those still to come.
        have hkeys : absentKeys ps (xs ++ [x]) = absentKeys ps xs := by
          apply absentKeys_congr
          intro p hp
          have hne : p.2 ≠ x.name := by
            rw [hc.1 x hk]
            exact fun h => hps.1 (h ▸ List.mem_map_of_mem hp)
          simp [hne]
        simp only [Catalog.get, hk, ih hc.2 hps.2, hkeys]
        cases c.getAll (absentKeys ps xs) <;> simp [Except.map]

theorem addAbsent_of_present (h : ∀ p ∈ ps, p.2 ∈ xs.map Event.name) :
    Vocabulary.addAbsent c ps xs = .ok xs := by
  induction ps with
  | nil => rfl
  | cons p ps ih =>
    rw [List.forall_mem_cons] at h
    rw [Vocabulary.addAbsent, any_name, if_pos (by simpa using h.1)]
    exact ih h.2

theorem names_of_found (hc : c.Names ps)
    (h : List.Forall₂ (fun k e => c.get? k = some e) (ps.map Prod.fst) es) :
    es.map Event.name = ps.map Prod.snd := by
  induction ps generalizing es with
  | nil =>
    rw [List.forall₂_nil_left_iff.mp h]
    rfl
  | cons p ps ih =>
    rw [Catalog.Names, List.forall_mem_cons] at hc
    obtain ⟨e, es, he, hes, rfl⟩ := List.forall₂_cons_left_iff.mp h
    rw [List.map_cons, List.map_cons, hc.1 e he, ih hc.2 hes]

theorem names_of_absent (hc : c.Names ps)
    (h : List.Forall₂ (fun k e => c.get? k = some e) (absentKeys ps xs) es) :
    es.map Event.name = (ps.map Prod.snd).filter fun n => n ∉ xs.map Event.name := by
  rw [names_of_found (fun p hp => hc p (List.mem_of_mem_filter hp)) h, List.filter_map]
  rfl

theorem name_of_mem_listed (hc : c.Names ps) {e : Event} (he : e ∈ c.listed (absentKeys ps xs)) :
    e.name ∈ ps.map Prod.snd := by
  obtain ⟨k, hk, he⟩ := List.mem_filterMap.mp he
  obtain ⟨p, hp, rfl⟩ := List.mem_map.mp hk
  have hp := List.mem_of_mem_filter hp
  rw [hc p hp e he]
  exact List.mem_map_of_mem hp

namespace Vocabulary

variable {v : Vocabulary}

def animations (v : Vocabulary) (xs : List Event) : Source Event :=
  ⟨v.svgEvents, absentKeys animationEvents xs⟩

theorem nodup_animationEvents : (animationEvents.map Prod.snd).Nodup := by
  decide

theorem addAnimation_eq (hv : v.svgEvents.Names animationEvents) (xs : List Event) :
    v.addAnimation xs = (v.animations xs).add xs := by
  rw [addAnimation, addAbsent_eq hv nodup_animationEvents, Catalog.getAll_eq, Source.add_eq,
    Source.missing?, animations]
  cases v.svgEvents.missing? (absentKeys animationEvents xs) <;> rfl

theorem addAnimation_of_present (hs : Sorted xs)
    (h : ∀ p ∈ animationEvents, p.2 ∈ xs.map Event.name) : v.addAnimation xs = .ok xs := by
  rw [addAnimation, addAbsent_of_present h]
  exact congrArg Except.ok (sortByName_of_sorted hs)

theorem addAnimation_ok (hv : v.svgEvents.Names animationEvents) (h : v.addAnimation xs = .ok ys) :
    ∃ es, IsStableSort (xs ++ es) ys ∧
      es.map Event.name = (animationEvents.map Prod.snd).filter fun n => n ∉ xs.map Event.name := by
  rw [addAnimation_eq hv, Source.add_eq_iff] at h
  cases h with
  | added hfound hsort => exact ⟨_, hsort, names_of_absent hv hfound⟩

theorem count_addAnimation (hv : v.svgEvents.Names animationEvents)
    (h : v.addAnimation xs = .ok ys) {n : String} (hn : n ∈ animationEvents.map Prod.snd) :
    (ys.map Event.name).count n = max 1 ((xs.map Event.name).count n) := by
  obtain ⟨es, hsort, hes⟩ := addAnimation_ok hv h
  have hperm : (ys.map Event.name).Perm (xs.map Event.name ++ es.map Event.name) := by
    rw [← List.map_append]
    exact hsort.perm.map Event.name
  rw [hperm.count_eq, List.count_append]
  by_cases hx : n ∈ xs.map Event.name
  · have hpos : 0 < (xs.map Event.name).count n := List.count_pos_iff.mpr hx
    have hzero : (es.map Event.name).count n = 0 := by
      rw [hes, List.count_eq_zero, List.mem_filter]
      simp [hx]
    omega
  · have hzero : (xs.map Event.name).count n = 0 := List.count_eq_zero.mpr hx
    have hone : (es.map Event.name).count n = 1 := by
      rw [hes, List.count_filter (by simpa using hx)]
      exact List.count_eq_one_of_mem nodup_animationEvents hn
    omega

theorem subperm_addAnimation (hv : v.svgEvents.Names animationEvents)
    (h : v.addAnimation xs = .ok ys) : xs.Subperm ys := by
  obtain ⟨es, hsort, -⟩ := addAnimation_ok hv h
  exact (List.sublist_append_left xs es).subperm.trans hsort.perm.symm.subperm

theorem addAnimation_again (hv : v.svgEvents.Names animationEvents)
    (h : v.addAnimation xs = .ok ys) (w : Vocabulary) : w.addAnimation ys = .ok ys := by
  obtain ⟨es, hsort, -⟩ := addAnimation_ok hv h
  apply addAnimation_of_present hsort.sorted
  intro p hp
  rw [← List.count_pos_iff, count_addAnimation hv h (List.mem_map_of_mem hp)]
  omega

end Vocabulary

open Vocabulary

theorem animation_adds_absent (v : Vocabulary) (hv : v.svgEvents.Names animationEvents)
    (xs : List Event) :
    (∀ r, v.addAnimation xs = r ↔ (v.animations xs).Adds xs r) ∧
    ((∃ ys, v.addAnimation xs = .ok ys) ↔
      ∀ p ∈ animationEvents, p.2 ∉ xs.map Event.name → (v.svgEvents.get? p.1).isSome) ∧
    ∀ ys, v.addAnimation xs = .ok ys →
      (∀ n ∈ animationEvents.map Prod.snd,
        (ys.map Event.name).count n = max 1 ((xs.map Event.name).count n)) ∧
      xs.Subperm ys ∧ ∀ w : Vocabulary, w.addAnimation ys = .ok ys := by
  refine ⟨fun r => ?_, ?_, fun ys hys => ⟨?_, ?_, ?_⟩⟩
  · rw [addAnimation_eq hv, Source.add_eq_iff]
  · rw [addAnimation_eq hv, Source.add_ok_iff]
    exact forall_absentKeys
  · exact fun n hn => count_addAnimation hv hys hn
  · exact subperm_addAnimation hv hys
  · exact addAnimation_again hv hys

def Vocabulary.ofSvgEvents (es : List Event) : Vocabulary where
  htmlAttributes := .ofList "html attribute" []
  svgAttributes := .ofList "svg attribute" []
  htmlEvents := .ofList "html event" []
  svgEvents := .ofList "svg event" es

theorem animation_adds_absent_beside_begin :
    let v := Vocabulary.ofSvgEvents
      [⟨"onrepeat", "OnRepeat", "repeats"⟩, ⟨"onend", "OnEnd", "ends"⟩]
    let xs : List Event := [⟨"late", "OnBegin", ""⟩, ⟨"early", "OnBegin", ""⟩]
    let ys : List Event := [⟨"late", "OnBegin", ""⟩, ⟨"early", "OnBegin", ""⟩,
      ⟨"onend", "OnEnd", "ends"⟩, ⟨"onrepeat", "OnRepeat", "repeats"⟩]
    v.svgEvents.Names animationEvents ∧ v.addAnimation xs = .ok ys ∧
      (ys.map Event.name).count "OnBegin" = 2 ∧ (ofSvgEvents []).addAnimation ys = .ok ys ∧
      v.addAnimation [] = .error ⟨"svg event", "onbegin"⟩ := by
  intro v xs ys
  have hv : v.svgEvents.Names animationEvents := by decide
  obtain ⟨hxs, -, hadded⟩ := animation_adds_absent v hv xs
  have hys : v.addAnimation xs = .ok ys := by
    have hsort : IsStableSort ys ys :=
      isStableSort_iff.mpr (sortByName_of_sorted (by decide)).symm
    exact (hxs _).mpr (.added (.cons (by decide) (.cons (by decide) .nil)) hsort)
  obtain ⟨hcount, -, hagain⟩ := hadded ys hys
  refine ⟨hv, hys, (hcount "OnBegin" (by decide)).trans (by decide), hagain _, ?_⟩
  have hkeys : (v.animations []).keys = [] ++ "onbegin" :: ["onend", "onrepeat"] := by decide
  exact ((animation_adds_absent v hv []).1 _).mpr (.missing hkeys (by decide) (by decide))

end TypedMarkup
