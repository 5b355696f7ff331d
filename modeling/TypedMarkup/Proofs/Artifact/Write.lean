import TypedMarkup.Proofs.Storage.Execution
import TypedMarkup.Proofs.Storage.Refusal
import TypedMarkup.Artifact.Output
import Mathlib.Data.List.Nodup

namespace TypedMarkup

open Storage Storage.FileSystem

def Artifact.temporaryName (a : Artifact) : String :=
  "." ++ a.fileName ++ ".tmp"

theorem Artifact.temporary_eq (dir : String) (a : Artifact) :
    a.temporary dir = Path.join dir a.temporaryName := rfl

theorem Artifact.destination_eq (dir : String) (a : Artifact) :
    a.destination dir = Path.join dir a.fileName := rfl

section

variable {fs fs' : FileSystem} {dir : String} {a : Artifact} {as : List Artifact}
variable {s : Staged} {ss : List Staged} {e e' : Fault}

theorem exec_stage_cons (hw : fs.write (a.temporary dir) a.contents.toUTF8 = .ok fs') :
    (stage dir (a :: as) ss).exec fs = (stage dir as (ss ++ [a.staged dir])).exec fs' := by
  simp only [stage, Script.exec_write, hw, Script.outcome]

theorem exec_stage_refused (hw : fs.write (a.temporary dir) a.contents.toUTF8 = .error e)
    (hr : fs.remove (a.temporary dir) = .error e') :
    (stage dir (a :: as) ss).exec fs =
      (.error ⟨a.temporary dir, e⟩, ((discard ss).exec fs).2) := by
  simp only [stage, Script.exec_write, Script.exec_remove, Script.exec_bind, Script.exec_done, hw,
    hr, Script.outcome]

theorem exec_publish_cons (hr : fs.rename s.temporary s.destination = .ok fs') :
    (publish (s :: ss)).exec fs =
      (((publish ss).exec fs').1.map (s.destination :: ·), ((publish ss).exec fs').2) := by
  simp only [publish, Script.exec_rename, Script.exec_report, Script.exec_bind, Script.exec_done,
    hr, Script.outcome]

theorem exec_publish_refused (hr : fs.rename s.temporary s.destination = .error e) :
    (publish (s :: ss)).exec fs =
      (.error ⟨s.destination, e⟩, ((discard (s :: ss)).exec fs).2) := by
  simp only [publish, Script.exec_rename, Script.exec_bind, Script.exec_done, hr, Script.outcome]

theorem exec_discard_cons :
    ((discard (s :: ss)).exec fs).2 =
      ((discard ss).exec (Script.outcome fs (fs.remove s.temporary)).2).2 := by
  rw [discard, Script.exec_remove]
  cases fs.remove s.temporary <;> rfl

end

theorem node?_discard {ss : List Staged} {ps : List Place} {fs : FileSystem}
    (h : List.Forall₂ (fun s p => fs.Leads s.temporary p ∧ fs.node? p ≠ some .directory) ss ps)
    (q : Place) :
    ((discard ss).exec fs).2.node? q = if q ∈ ps then none else fs.node? q := by
  induction ss generalizing fs ps with
  | nil =>
    cases h
    simp [discard]
  | cons s ss ih =>
    cases h with
    | @cons _ p _ ps hs hss =>
      obtain ⟨hp, hn⟩ := hs
      have hd : SameDirectories fs (Script.outcome fs (fs.remove s.temporary)).2 ∧
          ∀ q, (Script.outcome fs (fs.remove s.temporary)).2.node? q =
            if q = p then none else fs.node? q := by
        rw [remove_of_leads hp]
        cases hf : fs.node? p with
        | none =>
          refine ⟨.refl fs, fun q => ?_⟩
          simp only [Script.outcome]
          split
          · rename_i he
            rw [he, hf]
          · rfl
        | some n =>
          cases n with
          | directory => exact absurd hf hn
          | file b => exact ⟨.drop hp.ne_nil hn, node?_drop fs hp.ne_nil⟩
      rw [exec_discard_cons, ih (hss.imp fun _ _ ⟨hl, hm⟩ =>
        ⟨hd.1.leads hl, mt (hd.1.node? _).mp hm⟩), hd.2]
      by_cases hq : q = p <;> simp [hq]

namespace Artifacts

def names (a : Artifacts) : List String :=
  [a.builder.temporaryName, a.tests.temporaryName, a.builder.fileName, a.tests.fileName]

structure Apart (a : Artifacts) : Prop where
  plain : ∀ n ∈ a.names, Path.Plain n
  nodup : a.names.Nodup

theorem Apart.names_ne {a : Artifacts} (h : a.Apart) :
    (a.builder.temporaryName ≠ a.tests.temporaryName ∧
      a.builder.temporaryName ≠ a.builder.fileName ∧ a.builder.temporaryName ≠ a.tests.fileName) ∧
      (a.tests.temporaryName ≠ a.builder.fileName ∧ a.tests.temporaryName ≠ a.tests.fileName) ∧
      a.builder.fileName ≠ a.tests.fileName := by
  simpa [names] using h.nodup

section

variable (a : Artifacts) (fs : FileSystem) (d : Place)

def oneStaged : FileSystem :=
  fs.put (d ++ [a.builder.temporaryName]) (.file a.builder.contents.toUTF8)

def bothStaged : FileSystem :=
  (a.oneStaged fs d).put (d ++ [a.tests.temporaryName]) (.file a.tests.contents.toUTF8)

def onePublished : FileSystem :=
  ((a.bothStaged fs d).drop (d ++ [a.builder.temporaryName])).put (d ++ [a.builder.fileName])
    (.file a.builder.contents.toUTF8)

def bothPublished : FileSystem :=
  ((a.onePublished fs d).drop (d ++ [a.tests.temporaryName])).put (d ++ [a.tests.fileName])
    (.file a.tests.contents.toUTF8)

def after (k : Nat) (q : Place) : Option Node :=
  if 1 ≤ k ∧ q = d ++ [a.builder.temporaryName] then none
  else if 2 ≤ k ∧ q = d ++ [a.tests.temporaryName] then none
  else if 3 ≤ k ∧ q = d ++ [a.builder.fileName] then some (.file a.builder.contents.toUTF8)
  else if 4 ≤ k ∧ q = d ++ [a.tests.fileName] then some (.file a.tests.contents.toUTF8)
  else fs.node? q

theorem node?_oneStaged (q : Place) :
    (a.oneStaged fs d).node? q =
      if q = d ++ [a.builder.temporaryName] then some (.file a.builder.contents.toUTF8)
      else fs.node? q :=
  node?_put fs (by simp) q _

theorem node?_bothStaged (q : Place) :
    (a.bothStaged fs d).node? q =
      if q = d ++ [a.tests.temporaryName] then some (.file a.tests.contents.toUTF8)
      else (a.oneStaged fs d).node? q :=
  node?_put _ (by simp) q _

theorem node?_onePublished (q : Place) :
    (a.onePublished fs d).node? q =
      if q = d ++ [a.builder.fileName] then some (.file a.builder.contents.toUTF8)
      else if q = d ++ [a.builder.temporaryName] then none
      else (a.bothStaged fs d).node? q := by
  rw [onePublished, node?_put _ (by simp), node?_drop _ (by simp)]

theorem node?_bothPublished (q : Place) :
    (a.bothPublished fs d).node? q =
      if q = d ++ [a.tests.fileName] then some (.file a.tests.contents.toUTF8)
      else if q = d ++ [a.tests.temporaryName] then none
      else (a.onePublished fs d).node? q := by
  rw [bothPublished, node?_put _ (by simp), node?_drop _ (by simp)]

end

variable {a : Artifacts} {fs fs' : FileSystem} {dir : String} {d : Place} {e : Fault}

theorem Apart.node?_builder_staged (h : a.Apart) :
    (a.bothStaged fs d).node? (d ++ [a.builder.temporaryName]) =
      some (.file a.builder.contents.toUTF8) := by
  simp [node?_bothStaged, node?_oneStaged, h.names_ne.1.1]

theorem Apart.node?_tests_staged (h : a.Apart) :
    (a.onePublished fs d).node? (d ++ [a.tests.temporaryName]) =
      some (.file a.tests.contents.toUTF8) := by
  simp [node?_onePublished, node?_bothStaged, h.names_ne.2.1.1, h.names_ne.1.1.symm]

theorem exec_write_refused₁ (h : a.Apart) (hz : '\x00' ∉ dir.toList)
    (h₁ : fs.refusal? dir a.builder.temporaryName = some e) :
    (a.write dir).exec fs = (.error ⟨a.builder.temporary dir, e⟩, fs) := by
  have hp := h.plain a.builder.temporaryName (by simp [names])
  rw [write, toList, Script.exec_bind,
    exec_stage_refused (write_of_refusal? hp hz h₁ _) (remove_of_refusal? hp hz h₁)]
  rfl

section

variable (h : a.Apart) (hz : '\x00' ∉ dir.toList) (hd : fs.enter dir = .ok d)
include h hz hd

theorem stage_one (h₁ : fs.refusal? dir a.builder.temporaryName = none) :
    fs.write (a.builder.temporary dir) a.builder.contents.toUTF8 = .ok (a.oneStaged fs d) ∧
      SameDirectories fs (a.oneStaged fs d) := by
  obtain ⟨hl, hn⟩ := leads_of_refusal? (h.plain _ (by simp [names])) hz h₁ hd
  exact ⟨(write_of_leads hl _).trans (if_neg hn), .put hl.ne_nil hn _⟩

theorem stage_both (h₁ : fs.refusal? dir a.builder.temporaryName = none)
    (h₂ : fs.refusal? dir a.tests.temporaryName = none) :
    (a.oneStaged fs d).write (a.tests.temporary dir) a.tests.contents.toUTF8 =
        .ok (a.bothStaged fs d) ∧ SameDirectories fs (a.bothStaged fs d) := by
  have hs := (stage_one h hz hd h₁).2
  rw [← refusal?_congr (h.plain _ (by simp [names])) hz hs hd] at h₂
  obtain ⟨hl, hn⟩ := leads_of_refusal? (h.plain _ (by simp [names])) hz h₂ (hs.enter hd)
  exact ⟨(write_of_leads hl _).trans (if_neg hn), hs.trans (.put hl.ne_nil hn _)⟩

theorem publish_one (h₁ : fs.refusal? dir a.builder.temporaryName = none)
    (h₂ : fs.refusal? dir a.tests.temporaryName = none)
    (h₃ : fs.refusal? dir a.builder.fileName = none) :
    (a.bothStaged fs d).rename (a.builder.staged dir).temporary (a.builder.staged dir).destination =
        .ok (a.onePublished fs d) ∧ SameDirectories fs (a.onePublished fs d) := by
  have hs := (stage_both h hz hd h₁ h₂).2
  have hl := (leads_of_refusal? (h.plain _ (by simp [names])) hz h₁ hd).1
  obtain ⟨hm, hn⟩ := leads_of_refusal? (h.plain _ (by simp [names])) hz h₃ hd
  have hr := rename_of_leads (hs.leads hl) (hs.leads hm) h.node?_builder_staged
  rw [if_neg (mt (hs.node? _).mp hn)] at hr
  exact ⟨hr, hs.trans (.of_rename hr)⟩

theorem publish_both (h₁ : fs.refusal? dir a.builder.temporaryName = none)
    (h₂ : fs.refusal? dir a.tests.temporaryName = none)
    (h₃ : fs.refusal? dir a.builder.fileName = none)
    (h₄ : fs.refusal? dir a.tests.fileName = none) :
    (a.onePublished fs d).rename (a.tests.staged dir).temporary (a.tests.staged dir).destination =
        .ok (a.bothPublished fs d) ∧ SameDirectories fs (a.bothPublished fs d) := by
  have hs := (publish_one h hz hd h₁ h₂ h₃).2
  have hl := (leads_of_refusal? (h.plain _ (by simp [names])) hz h₂ hd).1
  obtain ⟨hm, hn⟩ := leads_of_refusal? (h.plain _ (by simp [names])) hz h₄ hd
  have hr := rename_of_leads (hs.leads hl) (hs.leads hm) h.node?_tests_staged
  rw [if_neg (mt (hs.node? _).mp hn)] at hr
  exact ⟨hr, hs.trans (.of_rename hr)⟩

theorem exec_write_refused₂ (h₁ : fs.refusal? dir a.builder.temporaryName = none)
    (h₂ : fs.refusal? dir a.tests.temporaryName = some e) :
    ((a.write dir).exec fs).1 = .error ⟨a.tests.temporary dir, e⟩ ∧
      ∀ q, ((a.write dir).exec fs).2.node? q = a.after fs d 1 q := by
  obtain ⟨hw, hs⟩ := stage_one h hz hd h₁
  have hp := h.plain a.tests.temporaryName (by simp [names])
  obtain ⟨hl, hn⟩ := leads_of_refusal? (h.plain _ (by simp [names])) hz h₁ hd
  have hl' : (a.oneStaged fs d).Leads (a.builder.staged dir).temporary
      (d ++ [a.builder.temporaryName]) := hs.leads hl
  -- The name is asked for before the first write, which leaves what refuses it as it is.
  rw [← refusal?_congr hp hz hs hd] at h₂
  have hx : (a.write dir).exec fs = (.error ⟨a.tests.temporary dir, e⟩,
      ((discard [a.builder.staged dir]).exec (a.oneStaged fs d)).2) := by
    rw [write, toList, Script.exec_bind, exec_stage_cons hw,
      exec_stage_refused (write_of_refusal? hp hz h₂ _) (remove_of_refusal? hp hz h₂)]
    rfl
  rw [hx]
  refine ⟨rfl, fun q => ?_⟩
  rw [node?_discard (.cons ⟨hl', mt (hs.node? _).mp hn⟩ .nil), node?_oneStaged, after]
  by_cases hq : q = d ++ [a.builder.temporaryName] <;> simp [hq]

theorem exec_write_staged (h₁ : fs.refusal? dir a.builder.temporaryName = none)
    (h₂ : fs.refusal? dir a.tests.temporaryName = none) :
    (a.write dir).exec fs =
      (publish [a.builder.staged dir, a.tests.staged dir]).exec (a.bothStaged fs d) := by
  rw [write, toList, Script.exec_bind, exec_stage_cons (stage_one h hz hd h₁).1,
    exec_stage_cons (stage_both h hz hd h₁ h₂).1]
  rfl

theorem exec_write_refused₃ (h₁ : fs.refusal? dir a.builder.temporaryName = none)
    (h₂ : fs.refusal? dir a.tests.temporaryName = none)
    (h₃ : fs.refusal? dir a.builder.fileName = some e) :
    ((a.write dir).exec fs).1 = .error ⟨a.builder.destination dir, e⟩ ∧
      ∀ q, ((a.write dir).exec fs).2.node? q = a.after fs d 2 q := by
  have hs := (stage_both h hz hd h₁ h₂).2
  have hp := h.plain a.builder.fileName (by simp [names])
  obtain ⟨hl₁, hn₁⟩ := leads_of_refusal? (h.plain _ (by simp [names])) hz h₁ hd
  obtain ⟨hl₂, hn₂⟩ := leads_of_refusal? (h.plain _ (by simp [names])) hz h₂ hd
  have hl₁' : (a.bothStaged fs d).Leads (a.builder.staged dir).temporary
      (d ++ [a.builder.temporaryName]) := hs.leads hl₁
  have hl₂' : (a.bothStaged fs d).Leads (a.tests.staged dir).temporary
      (d ++ [a.tests.temporaryName]) := hs.leads hl₂
  rw [← refusal?_congr hp hz hs hd] at h₃
  have hr : (a.bothStaged fs d).rename (a.builder.staged dir).temporary
      (a.builder.staged dir).destination = .error e :=
    rename_of_refusal? hp hz h₃ hl₁' h.node?_builder_staged
  rw [exec_write_staged h hz hd h₁ h₂, exec_publish_refused hr]
  refine ⟨rfl, fun q => ?_⟩
  rw [node?_discard (.cons ⟨hl₁', mt (hs.node? _).mp hn₁⟩
    (.cons ⟨hl₂', mt (hs.node? _).mp hn₂⟩ .nil)), node?_bothStaged, node?_oneStaged, after]
  by_cases hq : q = d ++ [a.builder.temporaryName] <;>
    by_cases hq' : q = d ++ [a.tests.temporaryName] <;> simp [hq, hq']

theorem exec_write_refused₄ (h₁ : fs.refusal? dir a.builder.temporaryName = none)
    (h₂ : fs.refusal? dir a.tests.temporaryName = none)
    (h₃ : fs.refusal? dir a.builder.fileName = none)
    (h₄ : fs.refusal? dir a.tests.fileName = some e) :
    ((a.write dir).exec fs).1 = .error ⟨a.tests.destination dir, e⟩ ∧
      ∀ q, ((a.write dir).exec fs).2.node? q = a.after fs d 3 q := by
  obtain ⟨hr, hs⟩ := publish_one h hz hd h₁ h₂ h₃
  have hp := h.plain a.tests.fileName (by simp [names])
  obtain ⟨hl, hn⟩ := leads_of_refusal? (h.plain _ (by simp [names])) hz h₂ hd
  have hl' : (a.onePublished fs d).Leads (a.tests.staged dir).temporary
      (d ++ [a.tests.temporaryName]) := hs.leads hl
  rw [← refusal?_congr hp hz hs hd] at h₄
  have hr' : (a.onePublished fs d).rename (a.tests.staged dir).temporary
      (a.tests.staged dir).destination = .error e :=
    rename_of_refusal? hp hz h₄ hl' h.node?_tests_staged
  rw [exec_write_staged h hz hd h₁ h₂, exec_publish_cons hr, exec_publish_refused hr']
  refine ⟨rfl, fun q => ?_⟩
  rw [node?_discard (.cons ⟨hl', mt (hs.node? _).mp hn⟩ .nil), node?_onePublished, node?_bothStaged,
    node?_oneStaged, after]
  have hne := h.names_ne
  by_cases hq₁ : q = d ++ [a.builder.temporaryName]
  · simp [hq₁, hne]
  by_cases hq₂ : q = d ++ [a.tests.temporaryName]
  · simp [hq₂]
  · simp [hq₁, hq₂]

theorem exec_write_ok (h₁ : fs.refusal? dir a.builder.temporaryName = none)
    (h₂ : fs.refusal? dir a.tests.temporaryName = none)
    (h₃ : fs.refusal? dir a.builder.fileName = none)
    (h₄ : fs.refusal? dir a.tests.fileName = none) :
    ((a.write dir).exec fs).1 = .ok [a.builder.destination dir, a.tests.destination dir] ∧
      ∀ q, ((a.write dir).exec fs).2.node? q = a.after fs d 4 q := by
  rw [exec_write_staged h hz hd h₁ h₂, exec_publish_cons (publish_one h hz hd h₁ h₂ h₃).1,
    exec_publish_cons (publish_both h hz hd h₁ h₂ h₃ h₄).1]
  refine ⟨rfl, fun q => ?_⟩
  rw [publish, Script.exec_done, node?_bothPublished, node?_onePublished, node?_bothStaged,
    node?_oneStaged, after]
  have hne := h.names_ne
  by_cases hq₁ : q = d ++ [a.builder.temporaryName]
  · simp [hq₁, hne]
  by_cases hq₂ : q = d ++ [a.tests.temporaryName]
  · simp [hq₂, hne]
  by_cases hq₃ : q = d ++ [a.builder.fileName]
  · simp [hq₃, hne.1.2.1.symm, hne.2.1.1.symm, hne.2.2]
  · simp [hq₁, hq₂, hq₃]

end

def refused? (a : Artifacts) (fs : FileSystem) (dir : String) : Option StorageError :=
  a.names.findSome? fun n => (fs.refusal? dir n).map fun e => ⟨Path.join dir n, e⟩

def passed (a : Artifacts) (fs : FileSystem) (dir : String) : Nat :=
  (a.names.takeWhile fun n => (fs.refusal? dir n).isNone).length

theorem exec_write (h : a.Apart) (hz : '\x00' ∉ dir.toList) (hd : fs.enter dir = .ok d) :
    ((a.write dir).exec fs).1 =
        (a.refused? fs dir).elim (.ok [a.builder.destination dir, a.tests.destination dir]) .error ∧
      ∀ q, ((a.write dir).exec fs).2.node? q = a.after fs d (a.passed fs dir) q := by
  cases h₁ : fs.refusal? dir a.builder.temporaryName with
  | some e =>
    rw [exec_write_refused₁ h hz h₁]
    simp [refused?, passed, names, h₁, after, Artifact.temporary_eq]
  | none =>
    cases h₂ : fs.refusal? dir a.tests.temporaryName with
    | some e =>
      simpa [refused?, passed, names, h₁, h₂, Artifact.temporary_eq] using
        exec_write_refused₂ h hz hd h₁ h₂
    | none =>
      cases h₃ : fs.refusal? dir a.builder.fileName with
      | some e =>
        simpa [refused?, passed, names, h₁, h₂, h₃, Artifact.destination_eq] using
          exec_write_refused₃ h hz hd h₁ h₂ h₃
      | none =>
        cases h₄ : fs.refusal? dir a.tests.fileName with
        | some e =>
          simpa [refused?, passed, names, h₁, h₂, h₃, h₄, Artifact.destination_eq] using
            exec_write_refused₄ h hz hd h₁ h₂ h₃ h₄
        | none =>
          simpa [refused?, passed, names, h₁, h₂, h₃, h₄] using exec_write_ok h hz hd h₁ h₂ h₃ h₄

theorem exec_write_nowhere (h : a.Apart) (hz : '\x00' ∉ dir.toList)
    (hd : fs.enter dir = .error e) :
    ∃ e', a.refused? fs dir = some e' ∧ (a.write dir).exec fs = (.error e', fs) := by
  cases h₁ : fs.refusal? dir a.builder.temporaryName with
  | some f =>
    refine ⟨⟨a.builder.temporary dir, f⟩, ?_, exec_write_refused₁ h hz h₁⟩
    simp [refused?, names, h₁, Artifact.temporary_eq]
  | none =>
    obtain ⟨d, hd'⟩ := enter_of_refusal? (h.plain _ (by simp [names])) hz h₁
    simp [hd] at hd'

theorem exec_write_result (h : a.Apart) (hz : '\x00' ∉ dir.toList) :
    ((a.write dir).exec fs).1 =
      (a.refused? fs dir).elim
        (.ok [a.builder.destination dir, a.tests.destination dir]) .error := by
  cases hd : fs.enter dir with
  | ok d => exact (exec_write h hz hd).1
  | error e =>
    obtain ⟨e', hr, hx⟩ := exec_write_nowhere h hz hd
    rw [hx, hr]
    rfl

theorem exec_write_zero (h : a.Apart) (hz : '\x00' ∈ dir.toList) :
    (a.write dir).exec fs = (.error ⟨a.builder.temporary dir, .zeroInName⟩, fs) := by
  have hl : fs.locate (a.builder.temporary dir) = .error .zeroInName := by
    rw [Artifact.temporary_eq, locate_join (h.plain _ (by simp [names])).toComponent, if_pos hz]
  have hw : fs.write (a.builder.temporary dir) a.builder.contents.toUTF8 = .error .zeroInName := by
    simp [FileSystem.write, hl]
  have hr : fs.remove (a.builder.temporary dir) = .error .zeroInName := by
    simp [remove, hl]
  rw [write, toList, Script.exec_bind, exec_stage_refused hw hr]
  rfl

theorem refused?_eq_none :
    a.refused? fs dir = none ↔ ∀ n ∈ a.names, fs.refusal? dir n = none := by
  simp [refused?]

theorem of_exec_write_ok {ps : List String} (h : a.Apart)
    (hw : (a.write dir).exec fs = (.ok ps, fs')) :
    '\x00' ∉ dir.toList ∧ ps = [a.builder.destination dir, a.tests.destination dir] ∧
      (∀ n ∈ a.names, fs.refusal? dir n = none) ∧
      ∃ d, fs.enter dir = .ok d ∧ ∀ q, fs'.node? q = a.after fs d 4 q := by
  have hz : '\x00' ∉ dir.toList := fun hz => by simp [exec_write_zero h hz] at hw
  have hr : ((a.write dir).exec fs).1 = _ := exec_write_result h hz
  rw [hw] at hr
  cases hf : a.refused? fs dir with
  | some e => simp [hf] at hr
  | none =>
    have hn := refused?_eq_none.mp hf
    obtain ⟨d, hd⟩ := enter_of_refusal? (h.plain _ (by simp [names])) hz
      (hn a.builder.temporaryName (by simp [names]))
    obtain ⟨hr, hq⟩ := exec_write_ok h hz hd (hn _ (by simp [names])) (hn _ (by simp [names]))
      (hn _ (by simp [names])) (hn _ (by simp [names]))
    rw [hw] at hr hq
    exact ⟨hz, Except.ok.inj hr, hn, d, hd, hq⟩

theorem find_of_exec_write_ok {ps : List String} (h : a.Apart)
    (hw : (a.write dir).exec fs = (.ok ps, fs')) :
    ∀ x ∈ a.toList, fs'.find (x.destination dir) = .ok (.file x.contents.toUTF8) := by
  obtain ⟨hz, -, hn, d, hd, hq⟩ := of_exec_write_ok h hw
  have hs : SameDirectories fs fs' := by
    have := ((a.write dir).ends_exec fs).same_directories
    rwa [hw] at this
  have hl (n : String) (hm : n ∈ a.names) : fs'.Leads (Path.join dir n) (d ++ [n]) :=
    hs.leads (leads_of_refusal? (h.plain n hm) hz (hn n hm) hd).1
  have hne := h.names_ne
  intro x hx
  simp only [toList, List.mem_cons, List.not_mem_nil, or_false] at hx
  rcases hx with rfl | rfl
  · rw [Artifact.destination_eq, find_eq_ok (hl _ (by simp [names])), hq, after]
    simp [hne.1.2.1.symm, hne.2.1.1.symm]
  · rw [Artifact.destination_eq, find_eq_ok (hl _ (by simp [names])), hq, after]
    simp [hne.1.2.2.symm, hne.2.1.2.symm, hne.2.2.symm]

theorem exec_write_again {ps : List String} (h : a.Apart)
    (hw : (a.write dir).exec fs = (.ok ps, fs')) :
    ((a.write dir).exec fs').1 = .ok ps ∧
      ∀ q, ((a.write dir).exec fs').2.node? q = fs'.node? q := by
  obtain ⟨hz, hp, hn, d, hd, hq⟩ := of_exec_write_ok h hw
  have hs : SameDirectories fs fs' := by
    have := ((a.write dir).ends_exec fs).same_directories
    rwa [hw] at this
  have hn' : ∀ n ∈ a.names, fs'.refusal? dir n = none := fun n hm =>
    (refusal?_congr (h.plain n hm) hz hs hd).trans (hn n hm)
  obtain ⟨hr', hq'⟩ := exec_write_ok h hz (hs.enter hd) (hn' _ (by simp [names]))
    (hn' _ (by simp [names])) (hn' _ (by simp [names])) (hn' _ (by simp [names]))
  refine ⟨hp ▸ hr', fun q => ?_⟩
  rw [hq', after, hq q, after]
  split_ifs <;> rfl

def ofTexts (builder tests : String) : Artifacts :=
  ⟨⟨Config.standard.builderFile, builder⟩, ⟨Config.standard.testFile, tests⟩⟩

theorem names_ofTexts (builder tests : String) :
    (ofTexts builder tests).names =
      [".html_gen.rs.tmp", ".html_gen_test.rs.tmp", "html_gen.rs", "html_gen_test.rs"] := rfl

theorem apart_ofTexts (builder tests : String) : (ofTexts builder tests).Apart := by
  refine ⟨?_, ?_⟩ <;> rw [names_ofTexts] <;> decide

end Artifacts

end TypedMarkup
