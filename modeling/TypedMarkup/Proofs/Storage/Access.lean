import TypedMarkup.Proofs.Storage.Directory

namespace TypedMarkup.Storage.FileSystem

variable {fs fs' : FileSystem} {d p q r : Place} {ns : List String}
variable {dir name path old new : String} {b : ByteArray}

theorem find_of_leads (h : fs.Leads path q) :
    fs.find path = (fs.node? q).elim (.error .notFound) .ok := by
  obtain ⟨d, name, hl, hd, hs, rfl⟩ := h
  simp only [find, hl, child_eq hd hs]
  cases fs.node? (d ++ [name]) with
  | none => rfl
  | some n => cases n <;> rfl

theorem find_eq_ok {n : Node} (h : fs.Leads path q) :
    fs.find path = .ok n ↔ fs.node? q = some n := by
  rw [find_of_leads h]
  cases fs.node? q <;> simp

theorem read_eq_ok : fs.read path = .ok b ↔ fs.find path = .ok (.file b) := by
  unfold read
  cases fs.find path with
  | error e => simp
  | ok n => cases n <;> simp

theorem read_of_file (h : fs.Leads path q) (hb : fs.node? q = some (.file b)) :
    fs.read path = .ok b :=
  read_eq_ok.mpr ((find_eq_ok h).mpr hb)

theorem read_of_none (h : fs.Leads path q) (hn : fs.node? q = none) :
    fs.read path = .error .notFound := by
  rw [read, find_of_leads h, hn]
  rfl

theorem write_of_leads (h : fs.Leads path q) (b : ByteArray) :
    fs.write path b =
      if fs.node? q = some .directory then .error .isDirectory else .ok (fs.put q (.file b)) := by
  obtain ⟨d, name, hl, hd, hs, rfl⟩ := h
  simp only [write, hl, child_eq hd hs]
  cases fs.node? (d ++ [name]) with
  | none => rfl
  | some n => cases n <;> rfl

theorem remove_of_leads (h : fs.Leads path q) :
    fs.remove path =
      match fs.node? q with
      | none => .error .notFound
      | some .directory => .error .isDirectory
      | some (.file _) => .ok (fs.drop q) := by
  obtain ⟨d, name, hl, hd, hs, rfl⟩ := h
  simp only [remove, hl, child_eq hd hs]
  cases fs.node? (d ++ [name]) with
  | none => rfl
  | some n => cases n <;> rfl

theorem rename_of_leads (hq : fs.Leads old q) (hr : fs.Leads new r)
    (hb : fs.node? q = some (.file b)) :
    fs.rename old new =
      if fs.node? r = some .directory then .error .isDirectory
      else .ok ((fs.drop q).put r (.file b)) := by
  obtain ⟨d, name, hl, hd, hs, rfl⟩ := hq
  obtain ⟨d', name', hl', hd', hs', rfl⟩ := hr
  simp [rename, hl, hl', child_eq hd hs, child_eq hd' hs', hb]

theorem leads_of_child {found : Option Node} (hl : fs.locate path = .ok (d, .name name false))
    (hc : fs.child d name = .ok found) : fs.Leads path (d ++ [name]) :=
  ⟨d, name, hl, (node?_of_child hc).1, (node?_of_child hc).2.1, rfl⟩

theorem leads_of_write (h : fs.write path b = .ok fs') : ∃ q, fs.Leads path q := by
  unfold write at h
  split at h
  · cases h
  · cases h
  · rename_i d name slash hl
    cases slash with
    | true => cases h
    | false =>
      cases hc : fs.child d name with
      | error e => simp [hc] at h
      | ok found => exact ⟨_, leads_of_child hl hc⟩

theorem leads_of_remove (h : fs.remove path = .ok fs') : ∃ q, fs.Leads path q := by
  unfold remove at h
  split at h
  · cases h
  · cases h
  · rename_i d name slash hl
    split at h
    · cases h
    · cases h
    · cases h
    · rename_i hc
      cases slash with
      | true => cases h
      | false => exact ⟨_, leads_of_child hl hc⟩

theorem leads_of_rename (h : fs.rename old new = .ok fs') :
    ∃ q r b, fs.Leads old q ∧ fs.Leads new r ∧ fs.node? q = some (.file b) := by
  unfold rename at h
  split at h
  · cases h
  · cases h
  · cases h
  · cases h
  · rename_i d name slash d' name' slash' hl hl'
    split at h
    · cases h
    · cases h
    · cases h
    · cases h
    · rename_i b found hc hc'
      cases slash with
      | true => cases h
      | false =>
        cases slash' with
        | true => cases h
        | false =>
          exact ⟨_, _, b, leads_of_child hl hc, leads_of_child hl' hc',
            (node?_of_child hc).2.2.symm⟩

theorem leads_of_find (h : fs.find path = .ok (.file b)) :
    ∃ q, fs.Leads path q ∧ fs.node? q = some (.file b) := by
  unfold find at h
  split at h
  · cases h
  · cases h
  · rename_i d name slash hl
    split at h
    · cases h
    · cases h
    · cases h
    · rename_i c hc
      cases slash with
      | true => cases h
      | false =>
        obtain rfl := Node.file.inj (Except.ok.inj h)
        exact ⟨_, leads_of_child hl hc, (node?_of_child hc).2.2.symm⟩

theorem write_ok (h : fs.write path b = .ok fs') :
    ∃ q, fs.Leads path q ∧ fs.node? q ≠ some .directory ∧ fs' = fs.put q (.file b) := by
  obtain ⟨q, hq⟩ := leads_of_write h
  rw [write_of_leads hq] at h
  split at h
  · cases h
  · rename_i hn
    exact ⟨q, hq, hn, (Except.ok.inj h).symm⟩

theorem remove_ok (h : fs.remove path = .ok fs') :
    ∃ q b, fs.Leads path q ∧ fs.node? q = some (.file b) ∧ fs' = fs.drop q := by
  obtain ⟨q, hq⟩ := leads_of_remove h
  rw [remove_of_leads hq] at h
  split at h
  · cases h
  · cases h
  · rename_i b hn
    exact ⟨q, b, hq, hn, (Except.ok.inj h).symm⟩

theorem rename_ok (h : fs.rename old new = .ok fs') :
    ∃ q r b, fs.Leads old q ∧ fs.Leads new r ∧ fs.node? q = some (.file b) ∧
      fs.node? r ≠ some .directory ∧ fs' = (fs.drop q).put r (.file b) := by
  obtain ⟨q, r, b, hq, hr, hb⟩ := leads_of_rename h
  rw [rename_of_leads hq hr hb] at h
  split at h
  · cases h
  · rename_i hn
    exact ⟨q, r, b, hq, hr, hb, hn, (Except.ok.inj h).symm⟩

theorem write_join_ok (h : Path.Component name) (hw : fs.write (Path.join dir name) b = .ok fs') :
    ∃ d, fs.enter dir = .ok d ∧ fs' = fs.put (d ++ [name]) (.file b) := by
  obtain ⟨q, hq, -, rfl⟩ := write_ok hw
  obtain ⟨d, hd, rfl⟩ := hq.of_join h
  exact ⟨d, hd, rfl⟩

theorem rename_join_ok {name' : String} (h : Path.Component name) (h' : Path.Component name')
    (hr : fs.rename (Path.join dir name) (Path.join dir name') = .ok fs') :
    ∃ d b, fs.enter dir = .ok d ∧ fs.Leads (Path.join dir name') (d ++ [name']) ∧
      fs.node? (d ++ [name]) = some (.file b) ∧
      fs' = (fs.drop (d ++ [name])).put (d ++ [name']) (.file b) := by
  obtain ⟨q, r, b, hq, hl, hb, -, rfl⟩ := rename_ok hr
  obtain ⟨d, hd, rfl⟩ := hq.of_join h
  obtain ⟨d', hd', rfl⟩ := hl.of_join h'
  obtain rfl : d = d' := Except.ok.inj (hd.symm.trans hd')
  exact ⟨d, b, hd, hl, hb, rfl⟩

theorem node?_of_write (h : fs.write path b = .ok fs') (hq : ¬ fs.Leads path q) :
    fs'.node? q = fs.node? q := by
  obtain ⟨p, hp, -, rfl⟩ := write_ok h
  rw [node?_put fs hp.ne_nil, if_neg]
  rintro rfl
  exact hq hp

theorem node?_of_remove (h : fs.remove path = .ok fs') (hq : ¬ fs.Leads path q) :
    fs'.node? q = fs.node? q := by
  obtain ⟨p, c, hp, -, rfl⟩ := remove_ok h
  rw [node?_drop fs hp.ne_nil, if_neg]
  rintro rfl
  exact hq hp

theorem node?_of_rename (h : fs.rename old new = .ok fs') (ho : ¬ fs.Leads old q)
    (hn : ¬ fs.Leads new q) : fs'.node? q = fs.node? q := by
  obtain ⟨p, r, c, hp, hr, -, -, rfl⟩ := rename_ok h
  rw [node?_put _ hr.ne_nil, node?_drop _ hp.ne_nil, if_neg, if_neg]
  · rintro rfl
    exact ho hp
  · rintro rfl
    exact hn hr

structure SameDirectories (fs fs' : FileSystem) : Prop where
  home : fs'.home = fs.home
  node? : ∀ q, fs'.node? q = some .directory ↔ fs.node? q = some .directory

namespace SameDirectories

theorem refl (fs : FileSystem) : SameDirectories fs fs :=
  ⟨rfl, fun _ => Iff.rfl⟩

theorem symm (h : SameDirectories fs fs') : SameDirectories fs' fs :=
  ⟨h.home.symm, fun q => (h.node? q).symm⟩

theorem trans {fs'' : FileSystem} (h : SameDirectories fs fs') (h' : SameDirectories fs' fs'') :
    SameDirectories fs fs'' :=
  ⟨h'.home.trans h.home, fun q => (h'.node? q).trans (h.node? q)⟩

theorem put (hq : q ≠ []) (hn : fs.node? q ≠ some .directory) (b : ByteArray) :
    SameDirectories fs (fs.put q (.file b)) := by
  refine ⟨rfl, fun r => ?_⟩
  rw [node?_put fs hq]
  split
  · rename_i h
    simp [h, hn]
  · rfl

theorem drop (hq : q ≠ []) (hn : fs.node? q ≠ some .directory) :
    SameDirectories fs (fs.drop q) := by
  refine ⟨rfl, fun r => ?_⟩
  rw [node?_drop fs hq]
  split
  · rename_i h
    simp [h, hn]
  · rfl

theorem walk (h : SameDirectories fs fs') (hw : fs.walk p ns = .ok d) : fs'.walk p ns = .ok d := by
  induction ns generalizing p with
  | nil =>
    obtain ⟨rfl, hp⟩ := walk_nil_ok hw
    simp [FileSystem.walk, (h.node? d).mpr hp]
  | cons n ns ih =>
    simp only [FileSystem.walk, step] at hw ⊢
    cases hc : fs.child p n with
    | error e => simp [hc] at hw
    | ok found =>
      obtain ⟨hp, hs, rfl⟩ := node?_of_child hc
      -- What the name stands for may have changed, but not whether it is a directory.
      rw [child_eq ((h.node? p).mpr hp) hs]
      rw [hc] at hw
      by_cases hn : n = ".."
      · simp only [hn, if_true] at hw ⊢
        exact ih hw
      · simp only [hn, if_false] at hw ⊢
        by_cases hf : fs.node? (p ++ [n]) = none
        · simp [hf] at hw
        · simp only [hf, if_false] at hw
          have hd := (h.node? (p ++ [n])).mpr (walk_ok hw).1
          simpa [hd] using ih hw

theorem enter (h : SameDirectories fs fs') (he : fs.enter dir = .ok d) : fs'.enter dir = .ok d := by
  unfold FileSystem.enter
  rw [h.home]
  exact h.walk he

theorem route (h : SameDirectories fs fs') (path : String) : fs'.route path = fs.route path := by
  unfold FileSystem.route
  rw [h.home]

theorem leads (h : SameDirectories fs fs') (hq : fs.Leads path q) : fs'.Leads path q := by
  obtain ⟨d, name, hl, hd, hs, rfl⟩ := hq
  refine ⟨d, name, ?_, (h.node? d).mpr hd, hs, rfl⟩
  unfold locate at hl ⊢
  rw [h.route]
  cases hr : fs.route path with
  | error e => simp [hr] at hl
  | ok r =>
    rw [hr] at hl
    obtain ⟨d', hw, hl⟩ := ok_of_map hl
    simp only [h.walk hw]
    exact congrArg Except.ok hl

theorem leads_iff (h : SameDirectories fs fs') : fs'.Leads path q ↔ fs.Leads path q :=
  ⟨h.symm.leads, h.leads⟩

theorem of_write (h : fs.write path b = .ok fs') : SameDirectories fs fs' := by
  obtain ⟨q, hq, hn, rfl⟩ := write_ok h
  exact put hq.ne_nil hn b

theorem of_remove (h : fs.remove path = .ok fs') : SameDirectories fs fs' := by
  obtain ⟨q, b, hq, hb, rfl⟩ := remove_ok h
  exact drop hq.ne_nil (by simp [hb])

theorem of_rename (h : fs.rename old new = .ok fs') : SameDirectories fs fs' := by
  obtain ⟨q, r, b, hq, hr, hb, hn, rfl⟩ := rename_ok h
  have hd : SameDirectories fs (fs.drop q) := drop hq.ne_nil (by simp [hb])
  exact hd.trans (put hr.ne_nil (mt (hd.node? r).mp hn) b)

end SameDirectories

end TypedMarkup.Storage.FileSystem
