import TypedMarkup.Proofs.Results
import TypedMarkup.Proofs.Vocabulary.Animation
import TypedMarkup.Proofs.Vocabulary.Locality
import TypedMarkup.Proofs.Vocabulary.Resolution
import TypedMarkup.Proofs.Vocabulary.Ties

namespace TypedMarkup

section

variable {α : Type} [Keyed α] {c c' : Catalog α} {ks js : List String} {xs ys : List α}

theorem Catalog.resolve_congr (hname : c.name = c'.name) (h : ∀ k, c.get? k = c'.get? k)
    (ks : List String) : c.resolve ks = c'.resolve ks := by
  have hget : c.get? = c'.get? := funext h
  rw [resolve_eq, resolve_eq, missing?, missing?, listed, listed, hname, hget]

theorem get?_reordered (name : String) (h : (xs.map key).Nodup) (hp : xs.Perm ys) (k : String) :
    (Catalog.ofList name ys).get? k = (Catalog.ofList name xs).get? k := by
  rw [Catalog.get?_ofList, Catalog.get?_ofList, find?_reordered h hp]

theorem size_reordered (name : String) (hp : xs.Perm ys) :
    (Catalog.ofList name ys).size = (Catalog.ofList name xs).size := by
  rw [Catalog.size_ofList, Catalog.size_ofList, List.toFinset_eq_of_perm _ _ (hp.map key)]

theorem resolve_reordered (name : String) (h : (xs.map key).Nodup) (hp : xs.Perm ys)
    (ks : List String) :
    (Catalog.ofList name ys).resolve ks = (Catalog.ofList name xs).resolve ks := by
  apply Catalog.resolve_congr
  · rfl
  · exact get?_reordered name h hp

theorem agree_resolve (c : Catalog α) (h : ks.Perm js) :
    Agree SameUpToTies (c.resolve ks) (c.resolve js) := by
  have hnone : c.missing? ks = none ↔ c.missing? js = none := by
    simp only [Catalog.missing?_eq_none_iff, h.mem_iff]
  rw [Catalog.resolve_eq, Catalog.resolve_eq]
  cases hk : c.missing? ks with
  | none =>
    rw [hnone.mp hk]
    exact .ok (.sortByName (h.filterMap c.get?))
  | some e =>
    cases hj : c.missing? js with
    | none => simp [hnone.mpr hj] at hk
    | some e' => exact .error e e'

theorem resolve_of_perm (h : ks.Perm js) (hx : c.resolve ks = .ok xs)
    (hn : (xs.map Keyed.name).Nodup) : c.resolve js = .ok xs := by
  have hagree := agree_resolve c h
  rw [hx] at hagree
  obtain ⟨ys, hys, hties⟩ := hagree.of_ok
  rw [hys, hties.eq_of_nodup hn]

def KeepsTies (f : List α → Except MissingKey (List α)) : Prop :=
  ∀ xs ys, SameUpToTies xs ys → Agree SameUpToTies (f xs) (f ys)

theorem keepsTies_add (s : Source α) : KeepsTies s.add := by
  intro xs ys h
  rw [Source.add_eq, Source.add_eq]
  cases s.missing? with
  | none => exact .ok (.sortByName (h.perm.append_right s.entries))
  | some e => exact .error e e

theorem keepsTies_composed {fs : List (List α → Except MissingKey (List α))}
    (hf : ∀ f ∈ fs, KeepsTies f) : KeepsTies (composed fs) := by
  induction fs with
  | nil => exact fun xs ys h => .ok h
  | cons f fs ih =>
    rw [List.forall_mem_cons] at hf
    intro xs ys h
    rw [composed_cons, composed_cons]
    exact (hf.1 xs ys h).bind (ih hf.2)

end

theorem agree_addAbsent (c : Catalog Event) (ps : List (String × String)) {xs ys : List Event}
    (h : xs.Perm ys) :
    Agree List.Perm (Vocabulary.addAbsent c ps xs) (Vocabulary.addAbsent c ps ys) := by
  induction ps generalizing xs ys with
  | nil => exact .ok h
  | cons p ps ih =>
    rw [Vocabulary.addAbsent, Vocabulary.addAbsent, h.any_eq]
    split
    · exact ih h
    · cases c.get p.1 with
      | error e => exact .error e e
      | ok x => exact ih (h.append_right [x])

theorem keepsTies_addAnimation (v : Vocabulary) : KeepsTies v.addAnimation := by
  intro xs ys h
  exact (agree_addAbsent v.svgEvents animationEvents h.perm).map fun _ _ => .sortByName

inductive AttributeComposer : (List Attribute → Except MissingKey (List Attribute)) → Prop where
  | global (v : Vocabulary) : AttributeComposer v.addGlobalAttributes

inductive EventComposer : (List Event → Except MissingKey (List Event)) → Prop where
  | baseline (v : Vocabulary) (b : Baseline) : EventComposer (v.addBaseline b)
  | animation (v : Vocabulary) : EventComposer v.addAnimation

theorem AttributeComposer.keepsTies {f : List Attribute → Except MissingKey (List Attribute)}
    (h : AttributeComposer f) : KeepsTies f := by
  cases h with
  | global v => exact keepsTies_add v.globalSource

theorem EventComposer.keepsTies {f : List Event → Except MissingKey (List Event)}
    (h : EventComposer f) : KeepsTies f := by
  cases h with
  | baseline v b => exact keepsTies_add (v.source b)
  | animation v => exact keepsTies_addAnimation v

def KeyOrderHidden {α : Type} [Keyed α]
    (isComposer : (List α → Except MissingKey (List α)) → Prop) : Prop :=
  ∀ (c : Catalog α) (ks js : List String), ks.Perm js →
    Agree SameUpToTies (c.resolve ks) (c.resolve js) ∧
    ∀ fs, (∀ f ∈ fs, isComposer f) →
      Agree SameUpToTies (c.resolve ks >>= composed fs) (c.resolve js >>= composed fs) ∧
      ∀ xs, c.resolve ks = .ok xs → (xs.map Keyed.name).Nodup →
        c.resolve js = .ok xs ∧ (c.resolve js >>= composed fs) = (c.resolve ks >>= composed fs)

theorem keyOrderHidden {α : Type} [Keyed α]
    {isComposer : (List α → Except MissingKey (List α)) → Prop}
    (h : ∀ f, isComposer f → KeepsTies f) : KeyOrderHidden isComposer := by
  intro c ks js hp
  refine ⟨agree_resolve c hp, fun fs hfs => ⟨?_, fun xs hx hn => ?_⟩⟩
  · exact (agree_resolve c hp).bind (keepsTies_composed fun f hf => h f (hfs f hf))
  · have hj := resolve_of_perm hp hx hn
    exact ⟨hj, by rw [hj, hx]⟩

theorem given_order_hidden :
    (∀ {α : Type} [Keyed α] (name : String) (xs ys : List α), (xs.map key).Nodup → xs.Perm ys →
      (Catalog.ofList name ys).size = (Catalog.ofList name xs).size ∧
      (∀ k, (Catalog.ofList name ys).get? k = (Catalog.ofList name xs).get? k) ∧
      ∀ ks, (Catalog.ofList name ys).resolve ks = (Catalog.ofList name xs).resolve ks) ∧
    KeyOrderHidden AttributeComposer ∧ KeyOrderHidden EventComposer := by
  refine ⟨fun name xs ys h hp => ⟨?_, ?_, ?_⟩, ?_, ?_⟩
  · exact size_reordered name hp
  · exact get?_reordered name h hp
  · exact resolve_reordered name h hp
  · exact keyOrderHidden fun f hf => hf.keepsTies
  · exact keyOrderHidden fun f hf => hf.keepsTies

theorem given_order_hidden_of_two_cuts :
    let v := Vocabulary.ofSvgEvents [⟨"onend", "OnEnd", ""⟩, ⟨"onbegin", "OnBegin", ""⟩]
    let xs : List Event := [⟨"oncut", "OnCut", "cuts"⟩, ⟨"own", "OnCut", "cuts own"⟩,
      ⟨"oncopy", "OnCopy", "copies"⟩, ⟨"onrepeat", "OnRepeat", "repeats"⟩]
    let c : Catalog Event := .ofList "svg event" xs
    let zs : List Event := [⟨"oncopy", "OnCopy", "copies"⟩, ⟨"oncut", "OnCut", "cuts"⟩,
      ⟨"onrepeat", "OnRepeat", "repeats"⟩]
    (xs.map key).Nodup ∧ (Catalog.ofList "svg event" xs.reverse).resolve ["own"] = c.resolve ["own"] ∧
      c.resolve ["oncopy", "oncut", "onrepeat"] = .ok zs ∧
      c.resolve ["onrepeat", "oncut", "oncopy"] = .ok zs ∧
      Agree SameUpToTies (c.resolve ["own", "oncut", "onrepeat"] >>= composed [v.addAnimation])
        (c.resolve ["oncut", "onrepeat", "own"] >>= composed [v.addAnimation]) := by
  intro v xs c zs
  have hn : (xs.map key).Nodup := by decide
  have hsorted : sortByName zs = zs := sortByName_of_sorted (by decide)
  have hz : c.resolve ["oncopy", "oncut", "onrepeat"] = .ok zs := congrArg Except.ok hsorted
  have hf : ∀ f ∈ [v.addAnimation], EventComposer f :=
    fun f hf => List.mem_singleton.mp hf ▸ .animation v
  obtain ⟨hentries, -, hkeys⟩ := given_order_hidden
  refine ⟨hn, ?_, hz, ?_, ?_⟩
  · exact (hentries "svg event" xs xs.reverse hn (List.reverse_perm xs).symm).2.2 _
  · exact (((hkeys c _ _ (by decide)).2 _ hf).2 zs hz (by decide)).1
  · exact ((hkeys c _ _ (by decide)).2 _ hf).1

end TypedMarkup
