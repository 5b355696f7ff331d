import TypedMarkup.Proofs.Storage.Access
import TypedMarkup.Storage.Script

namespace TypedMarkup.Storage

open FileSystem (SameDirectories)

variable {α β : Type}

namespace Script

def exec (s : Script α) (fs : FileSystem) : α × FileSystem :=
  ((s.run fs).1, (s.run fs).2.1)

variable (fs : FileSystem) (path old new : String)

@[simp] theorem exec_done (x : α) : (done x).exec fs = (x, fs) := rfl

@[simp] theorem exec_report (r : Report) (k : Script α) : (report r k).exec fs = k.exec fs := rfl

@[simp] theorem exec_read (k : Except Fault ByteArray → Script α) :
    (read path k).exec fs = (k (fs.read path)).exec fs := rfl

@[simp] theorem exec_write (b : ByteArray) (k : Except Fault Unit → Script α) :
    (write path b k).exec fs =
      (k (outcome fs (fs.write path b)).1).exec (outcome fs (fs.write path b)).2 := rfl

@[simp] theorem exec_rename (k : Except Fault Unit → Script α) :
    (rename old new k).exec fs =
      (k (outcome fs (fs.rename old new)).1).exec (outcome fs (fs.rename old new)).2 := rfl

@[simp] theorem exec_remove (k : Except Fault Unit → Script α) :
    (remove path k).exec fs =
      (k (outcome fs (fs.remove path)).1).exec (outcome fs (fs.remove path)).2 := rfl

@[simp] theorem exec_bind (s : Script α) (f : α → Script β) :
    (s.bind f).exec fs = (f (s.exec fs).1).exec (s.exec fs).2 := by
  simp [exec, run_bind]

theorem exec_showing (shown : Report → Bool) (s : Script α) :
    (s.showing shown).exec fs = s.exec fs := by
  induction s generalizing fs with
  | done x => rfl
  | read p k ih => exact ih _ fs
  | write p b k ih => exact ih _ _
  | rename p q k ih => exact ih _ _
  | remove p k ih => exact ih _ _
  | report r k ih =>
    rw [showing]
    split
    · exact ih fs
    · exact ih fs

end Script

inductive Attempt (fs : FileSystem) (change : Except Fault FileSystem) :
    Except Fault Unit → FileSystem → Prop
  | done {fs' : FileSystem} : change = .ok fs' → Attempt fs change (.ok ()) fs'
  | failed (e : Fault) : Attempt fs change (.error e) fs

theorem Attempt.outcome (fs : FileSystem) (change : Except Fault FileSystem) :
    Attempt fs change (Script.outcome fs change).1 (Script.outcome fs change).2 := by
  cases change with
  | error e => exact .failed e
  | ok fs' => exact .done rfl

theorem Attempt.eq_or_done {fs fs' : FileSystem} {change : Except Fault FileSystem}
    {r : Except Fault Unit} (h : Attempt fs change r fs') : fs' = fs ∨ change = .ok fs' := by
  cases h with
  | done hd => exact .inr hd
  | failed e => exact .inl rfl

namespace Script

inductive Ends : Script α → FileSystem → α → FileSystem → Prop
  | done (x : α) (fs : FileSystem) : Ends (.done x) fs x fs
  | report {r k fs x fs'} : Ends k fs x fs' → Ends (.report r k) fs x fs'
  | read {path k fs r x fs'} : r = fs.read path ∨ (∃ e, r = .error e) → Ends (k r) fs x fs' →
      Ends (.read path k) fs x fs'
  | write {path b k fs r fs₁ x fs'} : Attempt fs (fs.write path b) r fs₁ → Ends (k r) fs₁ x fs' →
      Ends (.write path b k) fs x fs'
  | torn {path b k fs part fs₁ x fs'} (e : Fault) : fs.write path part = .ok fs₁ →
      Ends (k (.error e)) fs₁ x fs' → Ends (.write path b k) fs x fs'
  | rename {old new k fs r fs₁ x fs'} : Attempt fs (fs.rename old new) r fs₁ →
      Ends (k r) fs₁ x fs' → Ends (.rename old new k) fs x fs'
  | remove {path k fs r fs₁ x fs'} : Attempt fs (fs.remove path) r fs₁ → Ends (k r) fs₁ x fs' →
      Ends (.remove path k) fs x fs'

theorem ends_exec (s : Script α) (fs : FileSystem) : s.Ends fs (s.exec fs).1 (s.exec fs).2 := by
  induction s generalizing fs with
  | done x => exact .done x fs
  | read p k ih => exact .read (.inl rfl) (ih _ fs)
  | write p b k ih => exact .write (.outcome fs _) (ih _ _)
  | rename p q k ih => exact .rename (.outcome fs _) (ih _ _)
  | remove p k ih => exact .remove (.outcome fs _) (ih _ _)
  | report r k ih => exact .report (ih fs)

theorem ends_bind {s : Script α} {f : α → Script β} {fs fs'' : FileSystem} {y : β}
    (h : (s.bind f).Ends fs y fs'') : ∃ x fs', s.Ends fs x fs' ∧ (f x).Ends fs' y fs'' := by
  induction s generalizing fs with
  | done x => exact ⟨x, fs, .done x fs, h⟩
  | read p k ih =>
    cases h with
    | read hr hk =>
      obtain ⟨x, fs', hs, hf⟩ := ih _ hk
      exact ⟨x, fs', .read hr hs, hf⟩
  | write p b k ih =>
    cases h with
    | write hr hk =>
      obtain ⟨x, fs', hs, hf⟩ := ih _ hk
      exact ⟨x, fs', .write hr hs, hf⟩
    | torn e hw hk =>
      obtain ⟨x, fs', hs, hf⟩ := ih _ hk
      exact ⟨x, fs', .torn e hw hs, hf⟩
  | rename p q k ih =>
    cases h with
    | rename hr hk =>
      obtain ⟨x, fs', hs, hf⟩ := ih _ hk
      exact ⟨x, fs', .rename hr hs, hf⟩
  | remove p k ih =>
    cases h with
    | remove hr hk =>
      obtain ⟨x, fs', hs, hf⟩ := ih _ hk
      exact ⟨x, fs', .remove hr hs, hf⟩
  | report r k ih =>
    cases h with
    | report hk =>
      obtain ⟨x, fs', hs, hf⟩ := ih hk
      exact ⟨x, fs', .report hs, hf⟩

theorem Ends.bind {s : Script α} {f : α → Script β} {fs fs' fs'' : FileSystem} {x : α} {y : β}
    (hs : s.Ends fs x fs') (hf : (f x).Ends fs' y fs'') : (s.bind f).Ends fs y fs'' := by
  induction hs with
  | done x fs => exact hf
  | report _ ih => exact .report (ih hf)
  | read hr _ ih => exact .read hr (ih hf)
  | write ha _ ih => exact .write ha (ih hf)
  | torn e hd _ ih => exact .torn e hd (ih hf)
  | rename ha _ ih => exact .rename ha (ih hf)
  | remove ha _ ih => exact .remove ha (ih hf)

theorem Ends.same_directories {s : Script α} {fs fs' : FileSystem} {x : α}
    (h : s.Ends fs x fs') : SameDirectories fs fs' := by
  induction h with
  | done x fs => exact .refl fs
  | report _ ih => exact ih
  | read _ _ ih => exact ih
  | write ha _ ih =>
    rcases ha.eq_or_done with rfl | hd
    · exact ih
    · exact (SameDirectories.of_write hd).trans ih
  | torn e hd _ ih => exact (SameDirectories.of_write hd).trans ih
  | rename ha _ ih =>
    rcases ha.eq_or_done with rfl | hd
    · exact ih
    · exact (SameDirectories.of_rename hd).trans ih
  | remove ha _ ih =>
    rcases ha.eq_or_done with rfl | hd
    · exact ih
    · exact (SameDirectories.of_remove hd).trans ih

def Within (W : String → Prop) : Script α → Prop
  | done _ => True
  | read _ k => ∀ r, (k r).Within W
  | write p _ k => W p ∧ ∀ r, (k r).Within W
  | rename p q k => (W p ∧ W q) ∧ ∀ r, (k r).Within W
  | remove p k => W p ∧ ∀ r, (k r).Within W
  | report _ k => k.Within W

theorem Within.bind {W : String → Prop} {s : Script α} {f : α → Script β} (hs : s.Within W)
    (hf : ∀ x, (f x).Within W) : (s.bind f).Within W := by
  induction s with
  | done x => exact hf x
  | read p k ih => exact fun r => ih r (hs r)
  | write p b k ih => exact ⟨hs.1, fun r => ih r (hs.2 r)⟩
  | rename p q k ih => exact ⟨hs.1, fun r => ih r (hs.2 r)⟩
  | remove p k ih => exact ⟨hs.1, fun r => ih r (hs.2 r)⟩
  | report r k ih => exact ih hs

theorem Ends.node?_eq {W : String → Prop} {s : Script α} {fs fs' : FileSystem} {x : α} {q : Place}
    (h : s.Ends fs x fs') (hw : s.Within W) (hq : ∀ path, W path → ¬ fs.Leads path q) :
    fs'.node? q = fs.node? q := by
  -- Directories stay as they are, so a path that leads elsewhere goes on to do so.
  have hold {fs fs₁ : FileSystem} (hd : SameDirectories fs fs₁)
      (hq : ∀ path, W path → ¬ fs.Leads path q) : ∀ path, W path → ¬ fs₁.Leads path q :=
    fun path hp => mt hd.leads_iff.mp (hq path hp)
  induction h with
  | done x fs => rfl
  | report _ ih => exact ih hw hq
  | read _ _ ih => exact ih (hw _) hq
  | write ha _ ih =>
    rcases ha.eq_or_done with rfl | hd
    · exact ih (hw.2 _) hq
    · rw [ih (hw.2 _) (hold (.of_write hd) hq)]
      exact FileSystem.node?_of_write hd (hq _ hw.1)
  | torn e hd _ ih =>
    rw [ih (hw.2 _) (hold (.of_write hd) hq)]
    exact FileSystem.node?_of_write hd (hq _ hw.1)
  | rename ha _ ih =>
    rcases ha.eq_or_done with rfl | hd
    · exact ih (hw.2 _) hq
    · rw [ih (hw.2 _) (hold (.of_rename hd) hq)]
      exact FileSystem.node?_of_rename hd (hq _ hw.1.1) (hq _ hw.1.2)
  | remove ha _ ih =>
    rcases ha.eq_or_done with rfl | hd
    · exact ih (hw.2 _) hq
    · rw [ih (hw.2 _) (hold (.of_remove hd) hq)]
      exact FileSystem.node?_of_remove hd (hq _ hw.1)

theorem Ends.eq_of_reading {s : Script α} {fs fs' : FileSystem} {x : α} (h : s.Ends fs x fs')
    (hw : s.Within fun _ => False) : fs' = fs := by
  induction h with
  | done x fs => rfl
  | report _ ih => exact ih hw
  | read _ _ ih => exact ih (hw _)
  | write _ _ _ => exact hw.1.elim
  | torn _ _ _ _ => exact hw.1.elim
  | rename _ _ _ => exact hw.1.1.elim
  | remove _ _ _ => exact hw.1.elim

theorem ends_showing {shown : Report → Bool} {s : Script α} {fs fs' : FileSystem} {x : α}
    (h : (s.showing shown).Ends fs x fs') : s.Ends fs x fs' := by
  induction s generalizing fs with
  | done x => exact h
  | read p k ih =>
    cases h with
    | read hr hk => exact .read hr (ih _ hk)
  | write p b k ih =>
    cases h with
    | write hr hk => exact .write hr (ih _ hk)
    | torn e hw hk => exact .torn e hw (ih _ hk)
  | rename p q k ih =>
    cases h with
    | rename hr hk => exact .rename hr (ih _ hk)
  | remove p k ih =>
    cases h with
    | remove hr hk => exact .remove hr (ih _ hk)
  | report r k ih =>
    rw [showing] at h
    split at h
    · cases h with
      | report hk => exact .report (ih hk)
    · exact .report (ih h)

inductive Reports : Script α → Prop
  | done (x : α) : Reports (.done x)
  | report {r : Report} {k : Script α} : Reports k → Reports (.report r k)

theorem Reports.bind {s : Script α} {f : α → Script β} (hs : s.Reports) (hf : ∀ x, (f x).Reports) :
    (s.bind f).Reports := by
  induction hs with
  | done x => exact hf x
  | report _ ih => exact .report ih

theorem Reports.ends {s : Script α} {fs fs' : FileSystem} {x : α} (hs : s.Reports)
    (h : s.Ends fs x fs') : (x, fs') = s.exec fs := by
  induction hs with
  | done y =>
    cases h
    rfl
  | report _ ih =>
    cases h with
    | report hk => exact ih hk

end Script

end TypedMarkup.Storage
