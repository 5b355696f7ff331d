import TypedMarkup.Proofs.Storage.Access

namespace TypedMarkup

namespace Path

theorem named_append (ps qs : List (List Char)) : named (ps ++ qs) = named ps ++ named qs := by
  simp [named]

theorem names_append_slash (s t : String) : names (s ++ "/" ++ t) = names s ++ names t := by
  rw [names, parts_append_slash, named_append, names, names]

theorem names_of_no_slash {s : String} (h : '/' ∉ s.toList) (hne : s ≠ "") (hdot : s ≠ ".") :
    names s = [s] := by
  have hdot' : s.toList ≠ ['.'] := fun he => hdot (String.toList_inj.mp he)
  simp [names, parts_of_no_slash h hne, named, hdot']

theorem Component.names_eq {name : String} (h : Component name) : names name = [name] :=
  names_of_no_slash h.no_slash h.ne_empty h.ne_dot

structure Descends (n : String) : Prop where
  not_rooted : isRooted n = false
  ne_nil : names n ≠ []
  not_up : ".." ∉ names n

end Path

namespace Storage.FileSystem

variable {fs fs' : FileSystem} {d p q : Place} {ns : List String}
variable {dir path n s : String} {slash : Bool} {b : ByteArray}

theorem walk_cons_ok (hn : n ≠ "..") (hw : fs.walk p (n :: ns) = .ok q) :
    fs.walk (p ++ [n]) ns = .ok q := by
  simp only [walk, step, if_neg hn] at hw
  cases hc : fs.child p n with
  | error e => simp [hc] at hw
  | ok found => by_cases hf : found = none <;> simp_all

theorem walk_down (h : ".." ∉ ns) (hw : fs.walk p ns = .ok q) : q = p ++ ns := by
  induction ns generalizing p with
  | nil =>
    simpa using (walk_nil_ok hw).1
  | cons n ns ih =>
    simp only [List.mem_cons, not_or] at h
    have hq : q = p ++ [n] ++ ns := ih h.2 (walk_cons_ok (Ne.symm h.1) hw)
    simpa using hq

theorem locate_name (h : fs.locate path = .ok (p, .name s slash)) :
    ∃ ps l, Path.parts path = ps ++ [l] ∧ l ≠ ['.'] ∧ s = String.ofList l ∧
      fs.walk (if Path.isRooted path then [] else fs.home) (Path.named ps) = .ok p := by
  unfold locate at h
  cases hr : fs.route path with
  | error e => simp [hr] at h
  | ok r =>
    rw [hr] at h
    obtain ⟨q, hw, hq⟩ := ok_of_map h
    simp only [Prod.mk.injEq] at hq
    obtain ⟨rfl, he⟩ := hq
    unfold route at hr
    split at hr
    · cases hr
    split at hr
    · cases hr
    split at hr
    · cases hr
    rcases List.eq_nil_or_concat (Path.parts path) with hp | ⟨ps, l, hp⟩
    · simp only [hp, List.getLast?_nil] at hr
      rw [← Except.ok.inj hr] at he
      cases he
    · rw [List.concat_eq_append] at hp
      simp only [hp, List.getLast?_concat, List.dropLast_concat] at hr
      split at hr
      · rw [← Except.ok.inj hr] at he
        cases he
      · rename_i hl
        rw [not_or] at hl
        rw [← Except.ok.inj hr] at he hw
        cases he
        exact ⟨ps, l, hp, hl.1, rfl, hw⟩

theorem Leads.of_descends (h : Path.Descends n) (hd : fs.enter dir = .ok d)
    (hq : fs.Leads (Path.join dir n) q) :
    q = d ++ Path.names n ∧
      fs.walk d (Path.names n).dropLast = .ok (d ++ (Path.names n).dropLast) := by
  obtain ⟨p, s, hl, -, -, rfl⟩ := hq
  obtain ⟨ps, l, hps, hdot, rfl, hw⟩ := locate_name hl
  rw [Path.parts_join h.not_rooted] at hps
  rw [Path.isRooted_join h.not_rooted] at hw
  -- The last part is one of the name, so what comes before it starts with the directory.
  rcases List.eq_nil_or_concat (Path.parts n) with hn | ⟨qs, l', hn⟩
  · exact absurd (by simp [Path.names, hn, Path.named]) h.ne_nil
  rw [List.concat_eq_append] at hn
  rw [hn, ← List.append_assoc, List.append_singleton_inj] at hps
  obtain ⟨rfl, rfl⟩ := hps
  have hnames : Path.names n = Path.named qs ++ [String.ofList l'] := by
    rw [Path.names, hn, Path.named_concat hdot]
  rw [enter, Path.names] at hd
  rw [Path.named_append, walk_append, hd] at hw
  obtain rfl : p = d ++ Path.named qs := by
    refine walk_down (fun hm => h.not_up ?_) hw
    simp [hnames, hm]
  rw [hnames, List.dropLast_concat]
  exact ⟨List.append_assoc _ _ _, hw⟩

theorem node?_of_leads (h : Path.Descends n) (hd : fs.enter dir = .ok d)
    (hq : fs.Leads (Path.join dir n) q) {first : String} {rest : List String}
    (hn : Path.names n = first :: rest) (hr : rest ≠ []) :
    fs.node? (d ++ [first]) = some .directory := by
  have hw := (hq.of_descends h hd).2
  rw [hn, List.dropLast_cons_of_ne_nil hr] at hw
  have hf : first ≠ ".." := by
    rintro rfl
    exact h.not_up (by simp [hn])
  exact (walk_ok (walk_cons_ok hf hw)).1

theorem Leads.short (h : fs.Leads path q) : path.utf8ByteSize ≤ longestPath := by
  obtain ⟨d, name, hl, -⟩ := h
  refine Nat.le_of_not_lt fun hn => ?_
  have hr : ∃ e, fs.route path = .error e := by
    unfold route
    rw [if_pos hn]
    split
    · exact ⟨_, rfl⟩
    · split <;> exact ⟨_, rfl⟩
  obtain ⟨e, hr⟩ := hr
  simp [locate, hr] at hl

def Beside (fs : FileSystem) (path path' : String) : Prop :=
  ∃ d s t, fs.Leads path (d ++ [s]) ∧ fs.Leads path' (d ++ [t])

def Usable (fs : FileSystem) (path : String) : Prop :=
  ∃ q, fs.Leads path q ∧ fs.node? q ≠ some .directory

theorem exists_write (hq : fs.Leads path q) (hn : fs.node? q ≠ some .directory) (b : ByteArray) :
    ∃ fs', fs.write path b = .ok fs' ∧
      ∀ r, fs'.node? r = if r = q then some (.file b) else fs.node? r :=
  ⟨_, (write_of_leads hq b).trans (if_neg hn), fun r => node?_put fs hq.ne_nil r _⟩

theorem exists_rename {old new : String} (hp : fs.Leads old p) (hq : fs.Leads new q)
    (hb : fs.node? p = some (.file b)) (hn : fs.node? q ≠ some .directory) :
    ∃ fs', fs.rename old new = .ok fs' ∧
      ∀ r, fs'.node? r = if r = q then some (.file b) else if r = p then none else fs.node? r := by
  refine ⟨_, (rename_of_leads hp hq hb).trans (if_neg hn), fun r => ?_⟩
  rw [node?_put _ hq.ne_nil, node?_drop _ hp.ne_nil]

theorem usable_of_rename {old new : String} (h : fs.rename old new = .ok fs') :
    fs.Usable old ∧ fs.Usable new := by
  obtain ⟨q, r, c, hq, hr, hc, hn, -⟩ := rename_ok h
  exact ⟨⟨q, hq, by simp [hc]⟩, ⟨r, hr, hn⟩⟩

theorem SameDirectories.usable_iff (h : SameDirectories fs fs') :
    fs'.Usable path ↔ fs.Usable path :=
  exists_congr fun q => and_congr h.leads_iff (not_congr (h.node? q))

end Storage.FileSystem

end TypedMarkup
