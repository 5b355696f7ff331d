import TypedMarkup.Proofs.Results
import TypedMarkup.Storage.FileSystem

namespace TypedMarkup

namespace Path

structure Component (name : String) : Prop where
  ne_empty : name ≠ ""
  ne_dot : name ≠ "."
  ne_dots : name ≠ ".."
  no_slash : '/' ∉ name.toList
  no_zero : '\x00' ∉ name.toList

instance (name : String) : Decidable (Component name) :=
  decidable_of_iff (name ≠ "" ∧ name ≠ "." ∧ name ≠ ".." ∧ '/' ∉ name.toList ∧
      '\x00' ∉ name.toList)
    ⟨fun ⟨a, b, c, d, e⟩ => ⟨a, b, c, d, e⟩, fun ⟨a, b, c, d, e⟩ => ⟨a, b, c, d, e⟩⟩

structure Plain (name : String) : Prop extends Component name where
  short : name.utf8ByteSize ≤ Storage.FileSystem.longestName

instance (name : String) : Decidable (Plain name) :=
  decidable_of_iff (Component name ∧ name.utf8ByteSize ≤ Storage.FileSystem.longestName)
    ⟨fun ⟨h, hs⟩ => ⟨h, hs⟩, fun h => ⟨h.toComponent, h.short⟩⟩

def joint (dir : String) : String :=
  if dir = "" ∨ endsInSlash dir then "" else "/"

theorem Component.not_rooted {name : String} (h : Component name) : isRooted name = false := by
  rw [isRooted, beq_eq_false_iff_ne]
  exact fun hr => h.no_slash (List.mem_of_head? hr)

theorem join_eq {name : String} (h : isRooted name = false) (dir : String) :
    join dir name = dir ++ joint dir ++ name := by
  unfold join joint
  rw [h]
  split
  · simp_all
  · split <;> simp

theorem join_injective {a b : String} (ha : Component a) (hb : Component b) {dir : String}
    (h : join dir a = join dir b) : a = b := by
  rw [join_eq ha.not_rooted, join_eq hb.not_rooted] at h
  exact String.append_right_inj (dir ++ joint dir) |>.mp h

theorem utf8ByteSize_join {name : String} (h : Component name) (dir : String) :
    (join dir name).utf8ByteSize = (dir ++ joint dir).utf8ByteSize + name.utf8ByteSize := by
  rw [join_eq h.not_rooted, String.utf8ByteSize_append]

theorem join_ne_empty {name : String} (h : Component name) (dir : String) : join dir name ≠ "" := by
  intro he
  have hs := utf8ByteSize_join h dir
  rw [he] at hs
  have hz : name.utf8ByteSize = 0 := by simp at hs; omega
  exact h.ne_empty (String.utf8ByteSize_eq_zero_iff.mp hz)

theorem zero_mem_join {name : String} (h : Component name) (dir : String) :
    '\x00' ∈ (join dir name).toList ↔ '\x00' ∈ dir.toList := by
  have hj : '\x00' ∉ (joint dir).toList := by
    unfold joint
    split <;> decide
  simp [join_eq h.not_rooted, hj, h.no_zero]

theorem isRooted_join {name : String} (h : isRooted name = false) (dir : String) :
    isRooted (join dir name) = isRooted dir := by
  by_cases hd : dir = ""
  · subst hd
    rw [join_eq h, joint, if_pos (.inl rfl), String.append_empty, String.empty_append, h]
    rfl
  · obtain ⟨c, s, hc⟩ := List.exists_cons_of_ne_nil (mt String.toList_eq_nil_iff.mp hd)
    simp [isRooted, join_eq h, hc]

theorem not_endsInSlash_join {name : String} (h : Component name) (dir : String) :
    endsInSlash (join dir name) = false := by
  rw [endsInSlash, beq_eq_false_iff_ne, join_eq h.not_rooted, String.toList_append,
    List.getLast?_append]
  cases hl : name.toList.getLast? with
  | none => exact absurd (String.toList_eq_nil_iff.mp (List.getLast?_eq_none_iff.mp hl)) h.ne_empty
  | some c =>
    intro he
    obtain rfl : c = '/' := by simpa using he
    exact h.no_slash (List.mem_of_getLast? hl)

theorem split_of_no_slash {s : List Char} (h : '/' ∉ s) : split s = [s] := by
  induction s with
  | nil => rfl
  | cons c s ih =>
    simp only [List.mem_cons, not_or] at h
    simp [split, ih h.2, Ne.symm h.1]

theorem parts_of_no_slash {s : String} (h : '/' ∉ s.toList) (hne : s ≠ "") :
    parts s = [s.toList] := by
  simp [parts, split_of_no_slash h, hne]

theorem parts_append_slash (s t : String) : parts (s ++ "/" ++ t) = parts s ++ parts t := by
  simp [parts, split_append]

theorem parts_join {name : String} (h : isRooted name = false) (dir : String) :
    parts (join dir name) = parts dir ++ parts name := by
  by_cases hd : dir = ""
  · subst hd
    simp [parts, join_eq h, joint, split]
  · by_cases hs : endsInSlash dir
    · obtain ⟨s, hs'⟩ : ∃ s, dir.toList = s ++ ['/'] := by
        rw [endsInSlash, beq_iff_eq] at hs
        exact List.getLast?_eq_some_iff.mp hs
      simp [parts, join_eq h, joint, hs, hs', split_append, split]
    · rw [join_eq h, joint, if_neg (by simp [hd, hs]), parts_append_slash]

theorem named_concat {ps : List (List Char)} {s : List Char} (h : s ≠ ['.']) :
    named (ps ++ [s]) = named ps ++ [String.ofList s] := by
  simp [named, h]

end Path

namespace Storage.FileSystem

variable {fs fs' : FileSystem} {p d : Place} {ns : List String} {dir name : String}

theorem node?_of_child {found : Option Node} (h : fs.child p name = .ok found) :
    fs.node? p = some .directory ∧ name.utf8ByteSize ≤ longestName ∧
      found = fs.node? (p ++ [name]) := by
  unfold child at h
  split at h
  · cases h
  · cases h
  · rename_i hp
    split at h
    · cases h
    · rename_i hs
      exact ⟨hp, Nat.le_of_not_lt hs, (Except.ok.inj h).symm⟩

theorem child_eq (hd : fs.node? d = some .directory) (hs : name.utf8ByteSize ≤ longestName) :
    fs.child d name = .ok (fs.node? (d ++ [name])) := by
  simp [child, hd, Nat.not_lt.mpr hs]

theorem walk_nil_ok (h : fs.walk p [] = .ok d) : d = p ∧ fs.node? p = some .directory := by
  unfold walk at h
  split at h
  · cases h
  · cases h
  · rename_i hp
    exact ⟨(Except.ok.inj h).symm, hp⟩

theorem walk_ok (h : fs.walk p ns = .ok d) :
    fs.node? p = some .directory ∧ fs.node? d = some .directory := by
  induction ns generalizing p with
  | nil =>
    obtain ⟨rfl, hp⟩ := walk_nil_ok h
    exact ⟨hp, hp⟩
  | cons n ns ih =>
    simp only [walk, step] at h
    cases hc : fs.child p n with
    | error e => simp [hc] at h
    | ok found =>
      refine ⟨(node?_of_child hc).1, ?_⟩
      rw [hc] at h
      split at h
      · cases h
      · exact (ih h).2

theorem walk_append (p : Place) (ns ms : List String) :
    fs.walk p (ns ++ ms) =
      match fs.walk p ns with
      | .error e => .error e
      | .ok q => fs.walk q ms := by
  induction ns generalizing p with
  | nil =>
    cases hp : fs.node? p with
    | none => cases ms <;> simp [walk, step, child, hp]
    | some n => cases n <;> cases ms <;> simp [walk, step, child, hp]
  | cons n ns ih =>
    simp only [List.cons_append, walk]
    cases fs.step p n with
    | error e => rfl
    | ok q => exact ih q

def enter (fs : FileSystem) (dir : String) : Except Fault Place :=
  fs.walk (if Path.isRooted dir then [] else fs.home) (Path.names dir)

theorem node?_of_enter (h : fs.enter dir = .ok d) : fs.node? d = some .directory :=
  (walk_ok h).2

theorem locate_join (h : Path.Component name) (fs : FileSystem) (dir : String) :
    fs.locate (Path.join dir name) =
      if '\x00' ∈ dir.toList then .error .zeroInName
      else if (Path.join dir name).utf8ByteSize > longestPath then .error .nameTooLong
      else (fs.enter dir).map (·, .name name false) := by
  have hdot : name.toList ≠ ['.'] := fun he => h.ne_dot (String.toList_inj.mp he)
  have hdots : name.toList ≠ ['.', '.'] := fun he => h.ne_dots (String.toList_inj.mp he)
  -- The last part of the path is the name, so it is neither a dot nor a way up.
  have hempty : (Path.join dir name).isEmpty = false := by
    simpa using Path.join_ne_empty h dir
  unfold locate route
  rw [hempty, Path.isRooted_join h.not_rooted, Path.parts_join h.not_rooted,
    Path.parts_of_no_slash h.no_slash h.ne_empty, Path.not_endsInSlash_join h]
  by_cases hz : '\x00' ∈ dir.toList
  · simp [hz, Path.zero_mem_join h]
  · by_cases hl : (Path.join dir name).utf8ByteSize > longestPath
    · simp [hz, hl, Path.zero_mem_join h]
    · simp [hz, hl, hdot, hdots, Path.zero_mem_join h, enter, Path.names]

def Leads (fs : FileSystem) (path : String) (q : Place) : Prop :=
  ∃ d name, fs.locate path = .ok (d, .name name false) ∧ fs.node? d = some .directory ∧
    name.utf8ByteSize ≤ longestName ∧ q = d ++ [name]

theorem leads_join (h : Path.Plain name) (hz : '\x00' ∉ dir.toList)
    (hl : (Path.join dir name).utf8ByteSize ≤ longestPath) (hd : fs.enter dir = .ok d) :
    fs.Leads (Path.join dir name) (d ++ [name]) := by
  refine ⟨d, name, ?_, node?_of_enter hd, h.short, rfl⟩
  rw [locate_join h.toComponent, if_neg hz, if_neg (Nat.not_lt.mpr hl), hd]
  rfl

variable {path old new : String} {q r : Place} {b : ByteArray}

theorem Leads.unique (hq : fs.Leads path q) (hr : fs.Leads path r) : q = r := by
  obtain ⟨d, name, hd, -, -, rfl⟩ := hq
  obtain ⟨d', name', hd', -, -, rfl⟩ := hr
  rw [hd] at hd'
  simp only [Except.ok.injEq, Prod.mk.injEq, Ending.name.injEq] at hd'
  rw [hd'.1, hd'.2.1]

theorem Leads.of_join (h : Path.Component name) (hq : fs.Leads (Path.join dir name) q) :
    ∃ d, fs.enter dir = .ok d ∧ q = d ++ [name] := by
  obtain ⟨d, n, hl, -, -, rfl⟩ := hq
  rw [locate_join h] at hl
  split at hl
  · cases hl
  · split at hl
    · cases hl
    · obtain ⟨d', hd, hl⟩ := ok_of_map hl
      simp only [Prod.mk.injEq, Ending.name.injEq] at hl
      exact ⟨d', hd, by rw [hl.1, hl.2.1]⟩

theorem Leads.name_eq {name' : String} (h : Path.Component name) (h' : Path.Component name')
    (hq : fs.Leads (Path.join dir name) q) (hq' : fs.Leads (Path.join dir name') q) :
    name = name' := by
  obtain ⟨d, -, rfl⟩ := hq.of_join h
  obtain ⟨d', -, he⟩ := hq'.of_join h'
  exact (List.append_singleton_inj.mp he).2

theorem Leads.ne_nil (h : fs.Leads path q) : q ≠ [] := by
  obtain ⟨d, name, -, -, -, rfl⟩ := h
  simp

end Storage.FileSystem

end TypedMarkup
