import TypedMarkup.Proofs.Results
import TypedMarkup.Proofs.Vocabulary.Animation
import TypedMarkup.Proofs.Vocabulary.Ties

namespace TypedMarkup

section

variable {α : Type} [Keyed α] {s t : Source α} {xs ys : List α}

theorem entriesNamed_eq_nil {name : String} :
    entriesNamed name xs = [] ↔ name ∉ xs.map Keyed.name := by
  simp [entriesNamed]

theorem entriesNamed_append_comm (h : (xs.map Keyed.name).Disjoint (ys.map Keyed.name))
    (name : String) : entriesNamed name (xs ++ ys) = entriesNamed name (ys ++ xs) := by
  rw [entriesNamed_append, entriesNamed_append]
  by_cases hx : name ∈ xs.map Keyed.name
  · rw [entriesNamed_eq_nil.mpr (h hx), List.append_nil, List.nil_append]
  · rw [entriesNamed_eq_nil.mpr hx, List.append_nil, List.nil_append]

theorem fused_pair (s t : Source α) (xs : List α) :
    fused [s, t] xs =
      match s.missing?, t.missing? with
      | none, none => .ok (sortByName (xs ++ (s.entries ++ t.entries)))
      | some e, _ => .error e
      | none, some e => .error e := by
  simp only [fused, List.findSome?_cons, List.findSome?_nil, List.flatMap_cons, List.flatMap_nil,
    List.append_nil]
  cases s.missing? <;> cases t.missing? <;> rfl

theorem agree_fused_swap (s t : Source α) (xs : List α) :
    Agree SameUpToTies (fused [s, t] xs) (fused [t, s] xs) := by
  rw [fused_pair, fused_pair]
  cases s.missing? with
  | some e => cases t.missing? <;> exact .error _ _
  | none =>
    cases t.missing? with
    | some e => exact .error _ _
    | none => exact .ok (.sortByName (List.perm_append_comm.append_left xs))

theorem fused_swap (hs : s.missing? = none)
    (h : (s.entries.map Keyed.name).Disjoint (t.entries.map Keyed.name)) (xs : List α) :
    fused [s, t] xs = fused [t, s] xs := by
  rw [fused_pair, fused_pair, hs]
  cases t.missing? with
  | some e => rfl
  | none =>
    refine congrArg Except.ok (sortByName_congr fun name => ?_)
    rw [entriesNamed_append, entriesNamed_append_comm h, ← entriesNamed_append]

theorem fused_pair_ok (hs : s.missing? = none) (ht : t.missing? = none) (xs : List α) :
    ∃ ys, fused [s, t] xs = .ok ys := by
  rw [fused_pair, hs, ht]
  exact ⟨_, rfl⟩

theorem Source.resolve_eq_ok_iff :
    s.catalog.resolve s.keys = .ok ys ↔ s.missing? = none ∧ sortByName s.entries = ys := by
  rw [Catalog.resolve_eq, ← missing?, ← entries]
  cases s.missing? <;> simp

theorem mem_names_sortByName {name : String} :
    name ∈ (sortByName xs).map Keyed.name ↔ name ∈ xs.map Keyed.name :=
  ((sortByName_perm xs).map Keyed.name).mem_iff

end

namespace Vocabulary

variable {v : Vocabulary} {b c : Baseline} {bs cs : List Event}

def baseline (v : Vocabulary) (b : Baseline) : Except MissingKey (List Event) :=
  (v.events b.dialect).resolve b.keys

theorem baseline_eq_ok_iff :
    v.baseline b = .ok bs ↔
      (v.source b).missing? = none ∧ sortByName (v.source b).entries = bs :=
  (v.source b).resolve_eq_ok_iff

theorem composed_baselines (v : Vocabulary) (b c : Baseline) (xs : List Event) :
    composed [v.addBaseline b, v.addBaseline c] xs = fused [v.source b, v.source c] xs :=
  composed_eq_fused (v.source b) [v.source c] xs

theorem composed_animation_baseline (hv : v.svgEvents.Names animationEvents) (b : Baseline)
    (xs : List Event) :
    composed [v.addAnimation, v.addBaseline b] xs = fused [v.animations xs, v.source b] xs := by
  have h := composed_eq_fused (v.animations xs) [v.source b] xs
  rwa [List.map_cons, composed_cons, ← addAnimation_eq hv] at h

theorem composed_baseline_animation (hv : v.svgEvents.Names animationEvents)
    (hb : v.baseline b = .ok bs)
    (hn : ∀ n ∈ animationEvents.map Prod.snd, n ∉ bs.map Event.name) (xs : List Event) :
    composed [v.addBaseline b, v.addAnimation] xs = fused [v.source b, v.animations xs] xs := by
  obtain ⟨hm, rfl⟩ := baseline_eq_ok_iff.mp hb
  have hkeys : v.animations (sortByName (xs ++ (v.source b).entries)) = v.animations xs := by
    refine congrArg (Source.mk _) (absentKeys_congr fun p hp => ?_)
    have hp : p.2 ∉ (v.source b).entries.map Event.name :=
      fun h => hn p.2 (List.mem_map_of_mem hp) (mem_names_sortByName.mpr h)
    rw [show Event.name = Keyed.name from rfl, mem_names_sortByName, List.map_append,
      List.mem_append]
    exact or_iff_left hp
  rw [← composed_eq_fused, composed_cons, List.map_cons, composed_cons, addBaseline_eq,
    Source.add_eq, hm]
  change composed [v.addAnimation] (sortByName (xs ++ (v.source b).entries)) =
    composed [(v.animations xs).add] (sortByName (xs ++ (v.source b).entries))
  rw [composed_cons, composed_cons, addAnimation_eq hv, hkeys]

theorem disjoint_animations (hv : v.svgEvents.Names animationEvents) (hb : v.baseline b = .ok bs)
    (hn : ∀ n ∈ animationEvents.map Prod.snd, n ∉ bs.map Event.name) (xs : List Event) :
    ((v.source b).entries.map Event.name).Disjoint ((v.animations xs).entries.map Event.name) := by
  obtain ⟨-, rfl⟩ := baseline_eq_ok_iff.mp hb
  intro n hb ha
  obtain ⟨e, he, rfl⟩ := List.mem_map.mp ha
  exact hn e.name (name_of_mem_listed hv he) (mem_names_sortByName.mpr hb)

theorem missing?_animations (h : ∀ p ∈ animationEvents, (v.svgEvents.get? p.1).isSome)
    (xs : List Event) : (v.animations xs).missing? = none := by
  apply Catalog.missing?_eq_none_iff.mpr
  exact forall_absentKeys.mpr fun p hp _ => h p hp

end Vocabulary

open Vocabulary

theorem composers_commute (v : Vocabulary) :
    (∀ b c xs, Agree SameUpToTies (composed [v.addBaseline b, v.addBaseline c] xs)
      (composed [v.addBaseline c, v.addBaseline b] xs)) ∧
    (∀ b c bs cs, v.baseline b = .ok bs → v.baseline c = .ok cs → ∀ xs,
      (∃ ys, composed [v.addBaseline b, v.addBaseline c] xs = .ok ys) ∧
      ((bs.map Event.name).Disjoint (cs.map Event.name) →
        composed [v.addBaseline b, v.addBaseline c] xs =
          composed [v.addBaseline c, v.addBaseline b] xs)) ∧
    (v.svgEvents.Names animationEvents → ∀ b bs, v.baseline b = .ok bs →
      (∀ n ∈ animationEvents.map Prod.snd, n ∉ bs.map Event.name) → ∀ xs,
      composed [v.addBaseline b, v.addAnimation] xs =
        composed [v.addAnimation, v.addBaseline b] xs ∧
      ((∀ p ∈ animationEvents, (v.svgEvents.get? p.1).isSome) →
        ∃ ys, composed [v.addBaseline b, v.addAnimation] xs = .ok ys)) := by
  refine ⟨fun b c xs => ?_, fun b c bs cs hb hc xs => ⟨?_, fun hd => ?_⟩,
    fun hv b bs hb hn xs => ⟨?_, fun hall => ?_⟩⟩
  · rw [composed_baselines, composed_baselines]
    exact agree_fused_swap _ _ xs
  · obtain ⟨hb, -⟩ := baseline_eq_ok_iff.mp hb
    obtain ⟨hc, -⟩ := baseline_eq_ok_iff.mp hc
    rw [composed_baselines]
    exact fused_pair_ok hb hc xs
  · obtain ⟨hm, rfl⟩ := baseline_eq_ok_iff.mp hb
    obtain ⟨-, rfl⟩ := baseline_eq_ok_iff.mp hc
    rw [composed_baselines, composed_baselines]
    refine fused_swap hm (fun n hnb hnc => ?_) xs
    exact hd (mem_names_sortByName.mpr hnb) (mem_names_sortByName.mpr hnc)
  · have hm := (baseline_eq_ok_iff.mp hb).1
    rw [composed_baseline_animation hv hb hn, composed_animation_baseline hv]
    exact fused_swap hm (disjoint_animations hv hb hn xs) xs
  · have hm := (baseline_eq_ok_iff.mp hb).1
    rw [composed_baseline_animation hv hb hn]
    exact fused_pair_ok hm (missing?_animations hall xs) xs

theorem composers_commute_beside_own_cut :
    let v := Vocabulary.ofSvgEvents
      [⟨"oncut", "OnCut", "cuts"⟩, ⟨"onpaste", "OnPaste", "pastes"⟩, ⟨"oncopy", "OnCopy", "copies"⟩,
       ⟨"onactivate", "OnActivate", ""⟩, ⟨"onfocusin", "OnFocusIn", ""⟩,
       ⟨"onfocusout", "OnFocusOut", ""⟩, ⟨"onend", "OnEnd", ""⟩]
    let bs : List Event := [⟨"oncopy", "OnCopy", "copies"⟩, ⟨"oncut", "OnCut", "cuts"⟩,
      ⟨"onpaste", "OnPaste", "pastes"⟩]
    let cs : List Event := [⟨"onactivate", "OnActivate", ""⟩, ⟨"onfocusin", "OnFocusIn", ""⟩,
      ⟨"onfocusout", "OnFocusOut", ""⟩]
    let xs : List Event := [⟨"own", "OnRepeat", ""⟩, ⟨"own", "OnCut", ""⟩, ⟨"own", "OnBegin", ""⟩]
    v.baseline .svgDocumentElement = .ok bs ∧ v.baseline .svgGraphical = .ok cs ∧
      composed [v.addBaseline .svgDocumentElement, v.addBaseline .svgGraphical] xs =
        composed [v.addBaseline .svgGraphical, v.addBaseline .svgDocumentElement] xs ∧
      v.svgEvents.Names animationEvents ∧
      composed [v.addBaseline .svgDocumentElement, v.addAnimation] xs =
        composed [v.addAnimation, v.addBaseline .svgDocumentElement] xs := by
  intro v bs cs xs
  have hb : v.baseline .svgDocumentElement = .ok bs :=
    baseline_eq_ok_iff.mpr ⟨by decide, sortByName_of_sorted (by decide)⟩
  have hc : v.baseline .svgGraphical = .ok cs :=
    baseline_eq_ok_iff.mpr ⟨by decide, sortByName_of_sorted (by decide)⟩
  have hv : v.svgEvents.Names animationEvents := by decide
  obtain ⟨-, hbaselines, hanimation⟩ := composers_commute v
  refine ⟨hb, hc, (hbaselines _ _ bs cs hb hc xs).2 ?_, hv, ?_⟩
  · exact List.disjoint_left.mpr (by decide)
  · exact (hanimation hv _ bs hb (by decide) xs).1

end TypedMarkup
