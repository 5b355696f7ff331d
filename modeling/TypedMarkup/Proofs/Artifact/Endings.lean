import TypedMarkup.Proofs.Artifact.Write

namespace TypedMarkup

open Storage Storage.FileSystem

variable {fs fs' : FileSystem} {dir : String} {as : List Artifact} {ss ready : List Staged}
variable {W : String → Prop} {e : StorageError}

theorem within_discard (h : ∀ s ∈ ss, W s.temporary) : (discard ss).Within W := by
  induction ss with
  | nil => trivial
  | cons s ss ih =>
    have hss : (discard ss).Within W := ih fun t ht => h t (by simp [ht])
    refine ⟨h s (by simp), fun r => ?_⟩
    cases r with
    | ok u => exact hss
    | error f => exact hss

theorem within_stage (has : ∀ a ∈ as, W (a.temporary dir)) (hss : ∀ s ∈ ss, W s.temporary) :
    (stage dir as ss).Within W := by
  induction as generalizing ss with
  | nil => trivial
  | cons a as ih =>
    have ha : W (a.temporary dir) := has a (by simp)
    refine ⟨ha, fun r => ?_⟩
    cases r with
    | ok u =>
      refine ih (fun b hb => has b (by simp [hb])) fun s hs => ?_
      rcases List.mem_append.mp hs with hs | hs
      · exact hss s hs
      · rw [List.mem_singleton.mp hs]
        exact ha
    | error f => exact ⟨ha, fun _ => (within_discard hss).bind fun _ => trivial⟩

theorem ends_discard {α : Type} {x y : α}
    (h : ((discard ss).bind fun _ => .done x).Ends fs y fs') :
    y = x ∧ ∃ u, (discard ss).Ends fs u fs' := by
  obtain ⟨u, fs₁, hd, hx⟩ := Script.ends_bind h
  cases hx
  exact ⟨rfl, u, hd⟩

theorem ends_stage_refused {a : Artifact} {f : Fault} {r : Except StorageError (List Staged)}
    (h : (Script.remove (a.temporary dir) fun _ =>
      (discard ss).bind fun _ => .done (.error ⟨a.temporary dir, f⟩)).Ends fs r fs') :
    r = .error ⟨a.temporary dir, f⟩ := by
  cases h with
  | remove _ hk => exact (ends_discard hk).1

theorem stage_error (h : (stage dir as ss).Ends fs (.error e) fs') :
    ∃ a ∈ as, e.path = a.temporary dir := by
  induction as generalizing fs ss with
  | nil => cases h
  | cons a as ih =>
    cases h with
    | write hw hk =>
      cases hw with
      | done hd =>
        obtain ⟨b, hb, he⟩ := ih hk
        exact ⟨b, by simp [hb], he⟩
      | failed f =>
        refine ⟨a, by simp, ?_⟩
        rw [Except.error.inj (ends_stage_refused hk)]
    | torn f hw hk =>
      refine ⟨a, by simp, ?_⟩
      rw [Except.error.inj (ends_stage_refused hk)]

theorem stage_cons_ok {a : Artifact} (h : (stage dir (a :: as) ss).Ends fs (.ok ready) fs') :
    ∃ fs₁, fs.write (a.temporary dir) a.contents.toUTF8 = .ok fs₁ ∧
      (stage dir as (ss ++ [a.staged dir])).Ends fs₁ (.ok ready) fs' := by
  cases h with
  | @write _ _ _ _ _ fs₁ _ _ hw hk =>
    cases hw with
    | done hd => exact ⟨fs₁, hd, hk⟩
    | failed f => cases ends_stage_refused hk
  | torn f hw hk => cases ends_stage_refused hk

theorem stage_ok (h : (stage dir as ss).Ends fs (.ok ready) fs') :
    ready = ss ++ as.map (Artifact.staged dir) ∧
      ∀ q, (∀ a ∈ as, ¬ fs.Leads (a.temporary dir) q) → fs'.node? q = fs.node? q := by
  induction as generalizing fs ss with
  | nil =>
    cases h
    simp
  | cons a as ih =>
    obtain ⟨fs₁, hd, hk⟩ := stage_cons_ok h
    obtain ⟨hr, hq⟩ := ih hk
    refine ⟨by simpa using hr, fun q hn => ?_⟩
    have hs := SameDirectories.of_write hd
    rw [hq q fun b hb => mt hs.leads_iff.mp (hn b (by simp [hb]))]
    exact node?_of_write hd (hn a (by simp))

theorem stage_ok_holds (h : (stage dir as ss).Ends fs (.ok ready) fs')
    (hne : as.Pairwise fun a b =>
      ∀ q, fs.Leads (a.temporary dir) q → ¬ fs.Leads (b.temporary dir) q) :
    ∀ a ∈ as, ∃ q, fs.Leads (a.temporary dir) q ∧
      fs'.node? q = some (.file a.contents.toUTF8) := by
  induction as generalizing fs ss with
  | nil => simp
  | cons a as ih =>
    obtain ⟨ha, has⟩ := List.pairwise_cons.mp hne
    obtain ⟨fs₁, hd, hk⟩ := stage_cons_ok h
    have hs := SameDirectories.of_write hd
    rw [List.forall_mem_cons]
    constructor
    · -- The writes that follow lead to other places.
      obtain ⟨q, hq, -, rfl⟩ := write_ok hd
      refine ⟨q, hq, ?_⟩
      rw [(stage_ok hk).2 q fun b hb => mt hs.leads_iff.mp (ha b hb q hq),
        node?_put fs hq.ne_nil, if_pos rfl]
    · have hold := ih hk (has.imp fun hab q hq =>
        mt hs.leads_iff.mp (hab q (hs.leads_iff.mp hq)))
      intro b hb
      obtain ⟨q, hq, hn⟩ := hold b hb
      exact ⟨q, hs.leads_iff.mp hq, hn⟩

namespace Artifacts

variable {a : Artifacts} {q : Place}

def Temporary (a : Artifacts) (fs : FileSystem) (dir : String) (q : Place) : Prop :=
  fs.Leads (a.builder.temporary dir) q ∨ fs.Leads (a.tests.temporary dir) q

inductive Left (a : Artifacts) (fs : FileSystem) (dir : String) (fs' : FileSystem) :
    Except StorageError (List String) → Prop
  | nothing {e : StorageError} : e.path ≠ a.tests.destination dir →
      (∀ q, ¬ a.Temporary fs dir q → fs'.node? q = fs.node? q) → Left a fs dir fs' (.error e)
  | builder {f : Fault} {r : Place} : fs.Leads (a.builder.destination dir) r →
      (∀ q, ¬ a.Temporary fs dir q → fs'.node? q =
        if q = r then some (.file a.builder.contents.toUTF8) else fs.node? q) →
      Left a fs dir fs' (.error ⟨a.tests.destination dir, f⟩)
  | both {r s : Place} : fs.Leads (a.builder.destination dir) r →
      fs.Leads (a.tests.destination dir) s →
      (∀ q, ¬ a.Temporary fs dir q → fs'.node? q =
        if q = s then some (.file a.tests.contents.toUTF8)
        else if q = r then some (.file a.builder.contents.toUTF8)
        else fs.node? q) →
      Left a fs dir fs' (.ok [a.builder.destination dir, a.tests.destination dir])

theorem temporary_iff (hs : SameDirectories fs fs') :
    a.Temporary fs' dir q ↔ a.Temporary fs dir q :=
  or_congr hs.leads_iff hs.leads_iff

theorem ends_publish_tests {x : Except StorageError (List String)} {p : Place}
    (hx : (publish [a.tests.staged dir]).Ends fs x fs')
    (hl : fs.Leads (a.tests.temporary dir) p)
    (hb : fs.node? p = some (.file a.tests.contents.toUTF8)) :
    (∃ f, x = .error ⟨a.tests.destination dir, f⟩ ∧
        ∀ q, ¬ a.Temporary fs dir q → fs'.node? q = fs.node? q) ∨
      x = .ok [a.tests.destination dir] ∧
        ∃ s, fs.Leads (a.tests.destination dir) s ∧
          ∀ q, ¬ a.Temporary fs dir q → fs'.node? q =
            if q = s then some (.file a.tests.contents.toUTF8) else fs.node? q := by
  cases hx with
  | rename ha hk =>
    cases ha with
    | failed f =>
      obtain ⟨rfl, u, hd⟩ := ends_discard hk
      refine .inl ⟨f, rfl, fun q hq => ?_⟩
      have hw : ∀ s ∈ [a.tests.staged dir], ¬ fs.Leads s.temporary q := by
        have ht : ¬ fs.Leads (a.tests.temporary dir) q := fun ht => hq (.inr ht)
        simpa [Artifact.staged] using ht
      exact hd.node?_eq (within_discard hw) fun _ hn => hn
    | done hd =>
      obtain ⟨p', s, c, hl', hs, hc, -, rfl⟩ := rename_ok hd
      obtain rfl := hl.unique hl'
      obtain rfl := Node.file.inj (Option.some.inj (hb.symm.trans hc))
      cases hk with
      | report hk =>
        cases hk
        refine .inr ⟨rfl, s, hs, fun q hq => ?_⟩
        rw [node?_put _ hs.ne_nil, node?_drop _ hl.ne_nil]
        split
        · rfl
        · rw [if_neg]
          rintro rfl
          exact hq (.inr hl)

section

variable (h : a.Apart)
include h

theorem ne_of_leads {n m : String} (hn : n ∈ a.names) (hm : m ∈ a.names)
    (hq : fs.Leads (Path.join dir n) q) (hq' : fs.Leads (Path.join dir m) q) : n = m :=
  hq.name_eq (h.plain n hn).toComponent (h.plain m hm).toComponent hq'

theorem join_ne {n m : String} (hn : n ∈ a.names) (hm : m ∈ a.names) (hne : n ≠ m) :
    Path.join dir n ≠ Path.join dir m :=
  fun he => hne (Path.join_injective (h.plain n hn).toComponent (h.plain m hm).toComponent he)

theorem not_temporary {x : Artifact} (hx : x ∈ a.toList) (hq : fs.Leads (x.destination dir) q) :
    ¬ a.Temporary fs dir q := by
  have hne := h.names_ne
  simp only [toList, List.mem_cons, List.not_mem_nil, or_false] at hx
  rintro (ht | ht)
  · rcases hx with rfl | rfl
    · exact hne.1.2.1 (ne_of_leads h (by simp [names]) (by simp [names]) ht hq)
    · exact hne.1.2.2 (ne_of_leads h (by simp [names]) (by simp [names]) ht hq)
  · rcases hx with rfl | rfl
    · exact hne.2.1.1 (ne_of_leads h (by simp [names]) (by simp [names]) ht hq)
    · exact hne.2.1.2 (ne_of_leads h (by simp [names]) (by simp [names]) ht hq)

theorem failed_stage (hs : (stage dir a.toList []).Ends fs (.error e) fs') :
    e.path ≠ a.tests.destination dir := by
  obtain ⟨b, hb, he⟩ := stage_error hs
  rw [he, Artifact.temporary_eq, Artifact.destination_eq]
  simp only [toList, List.mem_cons, List.not_mem_nil, or_false] at hb
  rcases hb with rfl | rfl
  · exact join_ne h (by simp [names]) (by simp [names]) h.names_ne.1.2.2
  · exact join_ne h (by simp [names]) (by simp [names]) h.names_ne.2.1.2

theorem ends_publish {x : Except StorageError (List String)} {p p' : Place}
    (hx : (publish [a.builder.staged dir, a.tests.staged dir]).Ends fs x fs')
    (hl : fs.Leads (a.builder.temporary dir) p)
    (hb : fs.node? p = some (.file a.builder.contents.toUTF8))
    (hl' : fs.Leads (a.tests.temporary dir) p')
    (hb' : fs.node? p' = some (.file a.tests.contents.toUTF8)) :
    a.Left fs dir fs' x := by
  cases hx with
  | rename ha hk =>
    cases ha with
    | failed f =>
      obtain ⟨rfl, u, hd⟩ := ends_discard hk
      refine .nothing (join_ne h (by simp [names]) (by simp [names]) h.names_ne.2.2) fun q hq => ?_
      have hw : ∀ s ∈ [a.builder.staged dir, a.tests.staged dir], ¬ fs.Leads s.temporary q := by
        simpa [Artifact.staged, Temporary, not_or] using hq
      exact hd.node?_eq (within_discard hw) fun _ hn => hn
    | @done fs₁ hd =>
      -- The builder is in its place, and the second renaming does not touch it any more.
      have hs := SameDirectories.of_rename hd
      obtain ⟨p₁, r, c, hl₁, hr, hc, -, rfl⟩ := rename_ok hd
      obtain rfl := hl.unique hl₁
      obtain rfl := Node.file.inj (Option.some.inj (hb.symm.trans hc))
      have hput : ∀ q, q ≠ p → ((fs.drop p).put r (.file a.builder.contents.toUTF8)).node? q =
          if q = r then some (.file a.builder.contents.toUTF8) else fs.node? q := fun q hq => by
        rw [node?_put _ hr.ne_nil, node?_drop _ hl.ne_nil, if_neg hq]
      cases hk with
      | report hk =>
        obtain ⟨x, fs₂, hx, hd'⟩ := Script.ends_bind hk
        cases hd'
        have hr' : ¬ a.Temporary fs dir r := not_temporary h (by simp [toList]) hr
        have hpp : p' ≠ p := by
          rintro rfl
          exact h.names_ne.1.1 (ne_of_leads h (by simp [names]) (by simp [names]) hl hl')
        have hpr : p' ≠ r := by
          rintro rfl
          exact hr' (.inr hl')
        rcases ends_publish_tests hx (hs.leads hl') (by rw [hput p' hpp, if_neg hpr, hb']) with
          ⟨f, rfl, hq⟩ | ⟨rfl, s, hs', hq⟩
        · refine .builder hr fun q hn => ?_
          rw [hq q (mt (temporary_iff hs).mp hn), hput q fun he => hn (.inl (he ▸ hl))]
        · refine .both hr (hs.leads_iff.mp hs') fun q hn => ?_
          rw [hq q (mt (temporary_iff hs).mp hn), hput q fun he => hn (.inl (he ▸ hl))]

theorem ends_write {x : Except StorageError (List String)} (hw : (a.write dir).Ends fs x fs') :
    a.Left fs dir fs' x := by
  obtain ⟨y, fs₁, hst, hp⟩ := Script.ends_bind hw
  have hs : SameDirectories fs fs₁ := hst.same_directories
  have hkeep : ∀ q, ¬ a.Temporary fs dir q → fs₁.node? q = fs.node? q := fun q hq => by
    have hw : ∀ b ∈ a.toList, ¬ fs.Leads (b.temporary dir) q := by
      simpa [toList, Temporary, not_or] using hq
    exact hst.node?_eq (within_stage hw (by simp)) fun _ hn => hn
  cases y with
  | error e =>
    cases hp
    exact .nothing (failed_stage h hst) hkeep
  | ok ready =>
    have hne : a.toList.Pairwise fun a b => ∀ q, fs.Leads (a.temporary dir) q →
        ¬ fs.Leads (b.temporary dir) q := by
      simp only [toList, List.pairwise_pair]
      exact fun q hq hq' =>
        h.names_ne.1.1 (ne_of_leads h (by simp [names]) (by simp [names]) hq hq')
    have hhold := stage_ok_holds hst hne
    obtain ⟨p, hl, hb⟩ := hhold a.builder (by simp [toList])
    obtain ⟨p', hl', hb'⟩ := hhold a.tests (by simp [toList])
    obtain rfl : ready = [a.builder.staged dir, a.tests.staged dir] := (stage_ok hst).1
    cases ends_publish h hp (hs.leads hl) hb (hs.leads hl') hb' with
    | nothing he hq =>
      refine .nothing he fun q hn => ?_
      rw [hq q (mt (temporary_iff hs).mp hn), hkeep q hn]
    | builder hr hq =>
      refine .builder (hs.leads_iff.mp hr) fun q hn => ?_
      rw [hq q (mt (temporary_iff hs).mp hn), hkeep q hn]
    | both hr ht hq =>
      refine .both (hs.leads_iff.mp hr) (hs.leads_iff.mp ht) fun q hn => ?_
      rw [hq q (mt (temporary_iff hs).mp hn), hkeep q hn]

end

end Artifacts

end TypedMarkup
