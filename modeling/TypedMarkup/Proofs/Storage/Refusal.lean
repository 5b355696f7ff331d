import TypedMarkup.Proofs.Storage.Access

namespace TypedMarkup

def Path.orHere (dir : String) : String :=
  if dir = "" then "." else dir

namespace Storage.FileSystem

variable {fs fs' : FileSystem} {d q : Place} {ns : List String}
variable {dir name old : String} {e : Fault}

def barrier? (fs : FileSystem) (path : String) : Option Fault :=
  match fs.find path with
  | .ok .directory => none
  | .ok (.file _) => some .notDirectory
  | .error e => some e

theorem barrier?_eq (hne : dir ≠ "") (hz : '\x00' ∉ dir.toList)
    (hl : dir.utf8ByteSize ≤ longestPath) :
    fs.barrier? dir =
      match fs.enter dir with
      | .ok _ => none
      | .error e => some e := by
  simp only [barrier?, find, locate, route, enter, Path.names]
  rw [if_neg (by simpa using hz), if_neg (by simpa using hne), if_neg (Nat.not_lt.mpr hl)]
  generalize (if Path.isRooted dir then [] else fs.home) = start
  rcases List.eq_nil_or_concat (Path.parts dir) with hp | ⟨ps, s, hp⟩
  · simp only [hp, List.getLast?_nil, Path.named, List.filter_nil, List.map_nil]
    cases fs.walk start [] <;> rfl
  · rw [hp, List.concat_eq_append, List.getLast?_concat]
    by_cases hs : s = ['.'] ∨ s = ['.', '.']
    · simp only [hs, if_true]
      cases fs.walk start (Path.named (ps ++ [s])) <;> rfl
    · have hdots : String.ofList s ≠ ".." := fun he => hs (.inr (by
        simpa using congrArg String.toList he))
      rw [not_or] at hs
      simp only [hs, or_self, if_false, List.dropLast_concat, Path.named_concat hs.1, walk_append]
      cases hw : fs.walk start (Path.named ps) with
      | error e => rfl
      | ok d =>
        have hd := (walk_ok hw).2
        simp only [Except.map, walk, step, hdots, if_false]
        cases hc : fs.child d (String.ofList s) with
        | error e => rfl
        | ok found =>
          obtain ⟨-, -, rfl⟩ := node?_of_child hc
          cases hf : fs.node? (d ++ [String.ofList s]) with
          | none => simp
          | some n =>
            cases n with
            | directory => simp [hf]
            | file b => cases Path.endsInSlash dir <;> simp [hf]

def refusal? (fs : FileSystem) (dir name : String) : Option Fault :=
  if longestPath < (Path.join dir name).utf8ByteSize then some .nameTooLong
  else
    match fs.barrier? (Path.orHere dir) with
    | some e => some e
    | none => if fs.isDirectory (Path.join dir name) then some .isDirectory else none

theorem enter_orHere (fs : FileSystem) (dir : String) :
    fs.enter (Path.orHere dir) = fs.enter dir := by
  unfold Path.orHere
  split
  · rename_i h
    subst h
    rfl
  · rfl

theorem barrier?_orHere (hz : '\x00' ∉ dir.toList) (hl : dir.utf8ByteSize ≤ longestPath) :
    fs.barrier? (Path.orHere dir) =
      match fs.enter dir with
      | .ok _ => none
      | .error e => some e := by
  rw [← enter_orHere, Path.orHere]
  split
  · exact barrier?_eq (by decide) (by decide) (by decide)
  · rename_i h
    exact barrier?_eq h hz hl

theorem refusal?_eq (h : Path.Plain name) (hz : '\x00' ∉ dir.toList) :
    fs.refusal? dir name =
      if longestPath < (Path.join dir name).utf8ByteSize then some .nameTooLong
      else
        match fs.enter dir with
        | .error e => some e
        | .ok d =>
          if fs.node? (d ++ [name]) = some .directory then some .isDirectory else none := by
  rw [refusal?]
  split
  · rfl
  · rename_i hl
    have hs := Path.utf8ByteSize_join h.toComponent dir
    rw [String.utf8ByteSize_append] at hs
    rw [barrier?_orHere hz (by omega)]
    cases hd : fs.enter dir with
    | error e => rfl
    | ok d =>
      have hj := find_of_leads (leads_join h hz (Nat.le_of_not_lt hl) hd)
      cases hn : fs.node? (d ++ [name]) with
      | none => simp [isDirectory, hj, hn]
      | some n => cases n <;> simp [isDirectory, hj, hn]

theorem refusal?_congr (h : Path.Plain name) (hz : '\x00' ∉ dir.toList)
    (hs : SameDirectories fs fs') (hd : fs.enter dir = .ok d) :
    fs'.refusal? dir name = fs.refusal? dir name := by
  simp only [refusal?_eq h hz, hd, hs.enter hd, hs.node?]

theorem leads_of_refusal? (h : Path.Plain name) (hz : '\x00' ∉ dir.toList)
    (hr : fs.refusal? dir name = none) (hd : fs.enter dir = .ok d) :
    fs.Leads (Path.join dir name) (d ++ [name]) ∧ fs.node? (d ++ [name]) ≠ some .directory := by
  rw [refusal?_eq h hz, hd] at hr
  split at hr
  · cases hr
  · rename_i hl
    refine ⟨leads_join h hz (Nat.le_of_not_lt hl) hd, fun hn => ?_⟩
    simp [hn] at hr

theorem enter_of_refusal? (h : Path.Plain name) (hz : '\x00' ∉ dir.toList)
    (hr : fs.refusal? dir name = none) : ∃ d, fs.enter dir = .ok d := by
  rw [refusal?_eq h hz] at hr
  split at hr
  · cases hr
  · cases hd : fs.enter dir with
    | error e => simp [hd] at hr
    | ok d => exact ⟨d, rfl⟩

theorem of_refusal?_some (h : Path.Plain name) (hz : '\x00' ∉ dir.toList)
    (hr : fs.refusal? dir name = some e) :
    fs.locate (Path.join dir name) = .error e ∨
      e = .isDirectory ∧ ∃ q, fs.Leads (Path.join dir name) q ∧ fs.node? q = some .directory := by
  rw [refusal?_eq h hz] at hr
  split at hr
  · rename_i hl
    left
    rw [locate_join h.toComponent, if_neg hz, if_pos hl, Option.some.inj hr]
  · rename_i hl
    cases hd : fs.enter dir with
    | error f =>
      rw [hd] at hr
      left
      rw [locate_join h.toComponent, if_neg hz, if_neg hl, hd, Option.some.inj hr]
      rfl
    | ok d =>
      by_cases hn : fs.node? (d ++ [name]) = some .directory
      · right
        simp only [hd, hn, if_true, Option.some.injEq] at hr
        exact ⟨hr.symm, _, leads_join h hz (Nat.le_of_not_lt hl) hd, hn⟩
      · simp [hd, hn] at hr

theorem write_of_refusal? (h : Path.Plain name) (hz : '\x00' ∉ dir.toList)
    (hr : fs.refusal? dir name = some e) (b : ByteArray) :
    fs.write (Path.join dir name) b = .error e := by
  rcases of_refusal?_some h hz hr with hl | ⟨rfl, q, hq, hn⟩
  · simp [write, hl]
  · rw [write_of_leads hq, if_pos hn]

theorem remove_of_refusal? (h : Path.Plain name) (hz : '\x00' ∉ dir.toList)
    (hr : fs.refusal? dir name = some e) : fs.remove (Path.join dir name) = .error e := by
  rcases of_refusal?_some h hz hr with hl | ⟨rfl, q, hq, hn⟩
  · simp [remove, hl]
  · rw [remove_of_leads hq, hn]

theorem rename_of_refusal? (h : Path.Plain name) (hz : '\x00' ∉ dir.toList)
    (hr : fs.refusal? dir name = some e) (hq : fs.Leads old q) (hb : fs.node? q = some (.file b)) :
    fs.rename old (Path.join dir name) = .error e := by
  rcases of_refusal?_some h hz hr with hl | ⟨rfl, r, hr, hn⟩
  · obtain ⟨d, s, ho, -⟩ := hq
    simp [rename, ho, hl]
  · rw [rename_of_leads hq hr hb, if_pos hn]

def Blocks (fs : FileSystem) (q : Place) (e : Fault) : Prop :=
  fs.node? q = none ∧ e = .notFound ∨ (∃ b, fs.node? q = some (.file b)) ∧ e = .notDirectory

theorem not_blocks (hp : fs.node? q = some .directory) : ¬ fs.Blocks q e := by
  simp [Blocks, hp]

theorem walk_of_not_directory (hq : fs.node? q ≠ some .directory) :
    fs.walk q ns = .error e ↔ fs.Blocks q e := by
  cases hn : fs.node? q with
  | none => cases ns <;> simp [walk, step, child, Blocks, hn, eq_comm]
  | some n =>
    cases n with
    | directory => exact absurd hn hq
    | file b => cases ns <;> simp [walk, step, child, Blocks, hn, eq_comm]

theorem walk_cons {p : Place} (hp : fs.node? p = some .directory)
    (hs : name.utf8ByteSize ≤ longestName) :
    fs.walk p (name :: ns) = fs.walk (if name = ".." then p.dropLast else p ++ [name]) ns := by
  simp only [walk, step, child_eq hp hs]
  by_cases hn : name = ".."
  · simp only [hn, if_true]
  · simp only [hn, if_false]
    by_cases hf : fs.node? (p ++ [name]) = none
    · simp only [hf, if_true]
      exact ((walk_of_not_directory (by simp [hf])).mpr (.inl ⟨hf, rfl⟩)).symm
    · simp only [hf, if_false]

def Through (fs : FileSystem) : Place → List String → Place → Prop
  | p, [], q => q = p
  | p, n :: ns, q =>
    q = p ∨ fs.node? p = some .directory ∧
      fs.Through (if n = ".." then p.dropLast else p ++ [n]) ns q

theorem through_of_not_directory {p : Place} (hp : fs.node? p ≠ some .directory) :
    fs.Through p ns q ↔ q = p := by
  cases ns with
  | nil => rfl
  | cons n ns => simp [Through, hp]

theorem walk_eq_error {p : Place} (hs : ∀ n ∈ ns, n.utf8ByteSize ≤ longestName) :
    fs.walk p ns = .error e ↔ ∃ q, fs.Through p ns q ∧ fs.Blocks q e := by
  induction ns generalizing p with
  | nil =>
    by_cases hp : fs.node? p = some .directory
    · simp [walk, hp, Through, not_blocks hp]
    · rw [walk_of_not_directory hp]
      simp [Through]
  | cons n ns ih =>
    -- The names below matter only where they are looked up in a directory.
    by_cases hp : fs.node? p = some .directory
    · rw [walk_cons hp (hs n (by simp)), ih fun m hm => hs m (by simp [hm])]
      simp [Through, hp, or_and_right, exists_or, not_blocks hp]
    · rw [walk_of_not_directory hp]
      simp [through_of_not_directory hp]

def Passes (fs : FileSystem) (dir : String) (q : Place) : Prop :=
  fs.Through (if Path.isRooted dir then [] else fs.home) (Path.names dir) q

theorem isDirectory_iff (fs : FileSystem) (path : String) :
    fs.isDirectory path ↔ fs.barrier? path = none := by
  unfold isDirectory barrier?
  cases fs.find path with
  | error e => simp
  | ok n => cases n <;> simp

theorem isDirectory_join (h : Path.Plain name) (hz : '\x00' ∉ dir.toList)
    (hl : (Path.join dir name).utf8ByteSize ≤ longestPath) :
    fs.isDirectory (Path.join dir name) ↔
      ∃ d, fs.enter dir = .ok d ∧ fs.node? (d ++ [name]) = some .directory := by
  cases hd : fs.enter dir with
  | error e =>
    have : fs.locate (Path.join dir name) = .error e := by
      rw [locate_join h.toComponent, if_neg hz, if_neg (Nat.not_lt.mpr hl), hd]
      rfl
    simp [isDirectory, find, this]
  | ok d =>
    have hf := find_of_leads (leads_join h hz hl hd)
    cases hn : fs.node? (d ++ [name]) with
    | none => simp [isDirectory, hf, hn]
    | some n => cases n <;> simp [isDirectory, hf, hn]

theorem refusal?_eq_none :
    fs.refusal? dir name = none ↔
      (Path.join dir name).utf8ByteSize ≤ longestPath ∧ fs.isDirectory (Path.orHere dir) ∧
        ¬ fs.isDirectory (Path.join dir name) := by
  simp only [refusal?, isDirectory_iff fs (Path.orHere dir)]
  by_cases hl : longestPath < (Path.join dir name).utf8ByteSize
  · simp [hl, Nat.not_le.mpr hl]
  · simp only [hl, if_false, Nat.le_of_not_lt hl, true_and]
    cases fs.barrier? (Path.orHere dir) with
    | some e => simp
    | none => simp

theorem refusal?_eq_some (h : Path.Plain name) (hz : '\x00' ∉ dir.toList)
    (hs : ∀ n ∈ Path.names dir, n.utf8ByteSize ≤ longestName) :
    fs.refusal? dir name = some e ↔
      longestPath < (Path.join dir name).utf8ByteSize ∧ e = .nameTooLong ∨
      (Path.join dir name).utf8ByteSize ≤ longestPath ∧
        ((∃ q, fs.Passes dir q ∧ fs.Blocks q e) ∨
          fs.isDirectory (Path.join dir name) ∧ e = .isDirectory) := by
  rw [refusal?_eq h hz]
  by_cases hl : longestPath < (Path.join dir name).utf8ByteSize
  · simp only [hl, Nat.not_le.mpr hl, if_true, true_and, false_and, or_false, Option.some.injEq]
    exact eq_comm
  · have hl' := Nat.le_of_not_lt hl
    have hw : fs.enter dir = .error e ↔ ∃ q, fs.Passes dir q ∧ fs.Blocks q e := walk_eq_error hs
    rw [isDirectory_join h hz hl', ← hw]
    cases fs.enter dir with
    | error f => simp [hl, hl']
    | ok d =>
      by_cases hn : fs.node? (d ++ [name]) = some .directory
      · simp [hl, hl', hn, eq_comm (a := e)]
      · simp [hl, hl', hn]

end Storage.FileSystem

end TypedMarkup
