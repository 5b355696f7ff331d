import TypedMarkup.Proofs.Artifact.Aliasing
import TypedMarkup.Proofs.Storage.Descent

namespace TypedMarkup

open Storage Storage.FileSystem

namespace Path

structure Relative (n : String) : Prop where
  ne_empty : n ≠ ""
  not_rooted : isRooted n = false
  not_dot : startsWithDot n = false
  not_up : ".." ∉ names n
  no_zero : '\x00' ∉ n.toList
  short : ∀ c ∈ names n, c.utf8ByteSize ≤ 250

instance (n : String) : Decidable (Relative n) :=
  decidable_of_iff (n ≠ "" ∧ isRooted n = false ∧ startsWithDot n = false ∧ ".." ∉ names n ∧
      '\x00' ∉ n.toList ∧ ∀ c ∈ names n, c.utf8ByteSize ≤ 250)
    ⟨fun ⟨a, b, c, d, e, f⟩ => ⟨a, b, c, d, e, f⟩, fun ⟨a, b, c, d, e, f⟩ => ⟨a, b, c, d, e, f⟩⟩

def IsTemporary (name : String) : Prop :=
  ".".toList <+: name.toList ∧ ".tmp".toList <:+ name.toList

instance : DecidablePred IsTemporary := fun _ => inferInstanceAs (Decidable (_ ∧ _))

theorem eq_of_toList_slash {n : String} {s t : List Char} (h : n.toList = s ++ '/' :: t) :
    n = String.ofList s ++ "/" ++ String.ofList t := by
  rw [← String.toList_inj, h]
  simp

theorem exists_last (m : String) :
    ∃ ps last, names m = ps ++ names last ∧ names (m ++ ".tmp") = ps ++ [last ++ ".tmp"] := by
  have hflat (s : String) (hs : '/' ∉ s.toList) : names (s ++ ".tmp") = [s ++ ".tmp"] := by
    have hsize : 4 ≤ (s ++ ".tmp").utf8ByteSize := by
      rw [String.utf8ByteSize_append]
      exact Nat.le_add_left _ _
    refine names_of_no_slash (by simpa using hs) ?_ ?_ <;>
      · intro he
        rw [he] at hsize
        exact absurd hsize (by decide)
  by_cases hm : '/' ∈ m.toList
  · obtain ⟨s, t, hst, hs⟩ := List.eq_append_cons_of_mem (List.mem_reverse.mpr hm)
    have he : m = String.ofList t.reverse ++ "/" ++ String.ofList s.reverse := by
      apply eq_of_toList_slash
      rw [← List.reverse_reverse m.toList, hst]
      simp
    refine ⟨names (String.ofList t.reverse), String.ofList s.reverse, ?_, ?_⟩
    · rw [he, names_append_slash]
    · rw [he, String.append_assoc, names_append_slash, hflat _ (by simpa using hs)]
  · exact ⟨[], m, rfl, hflat m hm⟩

variable {n : String}

theorem Relative.component (h : Relative n) (hs : '/' ∉ n.toList) : Component n where
  ne_empty := h.ne_empty
  ne_dot := by
    rintro rfl
    exact absurd h.not_dot (by decide)
  ne_dots := by
    rintro rfl
    exact h.not_up (by decide)
  no_slash := hs
  no_zero := h.no_zero

theorem Relative.exists_first (h : Relative n) (hs : '/' ∈ n.toList) :
    ∃ first rest, n = first ++ "/" ++ rest ∧ '/' ∉ first.toList ∧ first ≠ "" ∧ first ≠ "." := by
  obtain ⟨s, t, hst, hslash⟩ := List.eq_append_cons_of_mem hs
  refine ⟨String.ofList s, String.ofList t, eq_of_toList_slash hst, by simpa using hslash, ?_, ?_⟩
  · intro he
    obtain rfl : s = [] := by simpa using he
    have hr := h.not_rooted
    simp [isRooted, hst] at hr
  · intro he
    obtain rfl : s = ['.'] := by simpa using congrArg String.toList he
    have hd := h.not_dot
    simp [startsWithDot, hst, split] at hd

end Path

section

variable {a b x : Artifact}

theorem names_temporaryName (h : Path.Relative a.fileName) (hs : '/' ∈ a.fileName.toList) :
    ∃ first ps last, first ≠ "." ∧
      Path.names a.fileName = first :: (ps ++ Path.names last) ∧
      Path.names a.temporaryName = ("." ++ first) :: (ps ++ [last ++ ".tmp"]) := by
  obtain ⟨first, rest, hn, hfirst, hne, hdot⟩ := h.exists_first hs
  obtain ⟨ps, last, hm, htmp⟩ := Path.exists_last rest
  refine ⟨first, ps, last, hdot, ?_, ?_⟩
  · rw [hn, Path.names_append_slash, Path.names_of_no_slash hfirst hne hdot, hm]
    rfl
  · have ht : a.temporaryName = "." ++ first ++ "/" ++ (rest ++ ".tmp") := by
      rw [Artifact.temporaryName, hn]
      simp only [String.append_assoc]
    rw [ht, Path.names_append_slash, htmp, Path.names_of_no_slash (by simpa using hfirst)]
    · rfl
    · intro he
      simpa using congrArg String.toList he
    · intro he
      exact hne (by simpa using congrArg String.toList he)

theorem names_temporaryName_inj (ha : Path.Relative a.fileName) (hb : Path.Relative b.fileName)
    (h : Path.names a.temporaryName = Path.names b.temporaryName) :
    Path.names a.fileName = Path.names b.fileName := by
  by_cases hsa : '/' ∈ a.fileName.toList <;> by_cases hsb : '/' ∈ b.fileName.toList
  · obtain ⟨first, ps, last, -, hn, ht⟩ := names_temporaryName ha hsa
    obtain ⟨first', ps', last', -, hn', ht'⟩ := names_temporaryName hb hsb
    rw [ht, ht', List.cons.injEq, List.append_singleton_inj, String.append_right_inj,
      String.append_left_inj] at h
    rw [hn, hn', h.1, h.2.1, h.2.2]
  · obtain ⟨first, ps, last, -, -, ht⟩ := names_temporaryName ha hsa
    rw [ht, (component_temporaryName (hb.component hsb)).names_eq] at h
    simp at h
  · obtain ⟨first, ps, last, -, -, ht⟩ := names_temporaryName hb hsb
    rw [ht, (component_temporaryName (ha.component hsa)).names_eq] at h
    simp at h
  · rw [(component_temporaryName (ha.component hsa)).names_eq,
      (component_temporaryName (hb.component hsb)).names_eq, List.singleton_inj,
      temporaryName_inj] at h
    rw [h]

theorem descends_fileName (h : Path.Relative a.fileName) : Path.Descends a.fileName := by
  refine ⟨h.not_rooted, ?_, h.not_up⟩
  by_cases hs : '/' ∈ a.fileName.toList
  · obtain ⟨first, ps, last, -, hn, -⟩ := names_temporaryName h hs
    simp [hn]
  · simp [(h.component hs).names_eq]

theorem descends_temporaryName (h : Path.Relative a.fileName) : Path.Descends a.temporaryName := by
  have hr : Path.isRooted a.temporaryName = false := by
    simp [Path.isRooted, Artifact.temporaryName]
  by_cases hs : '/' ∈ a.fileName.toList
  · obtain ⟨first, ps, last, hdot, hn, ht⟩ := names_temporaryName h hs
    refine ⟨hr, by simp [ht], fun hm => ?_⟩
    have hup := h.not_up
    rw [hn] at hup
    rw [ht] at hm
    simp only [List.mem_cons, List.mem_append, not_or, List.not_mem_nil, or_false] at hup hm
    rcases hm with hm | hm | hm
    · exact hdot (String.toList_inj.mp (by simpa using (congrArg String.toList hm).symm))
    · exact hup.2.1 hm
    · have hsize := congrArg String.utf8ByteSize hm
      have hdots : "..".utf8ByteSize = 2 := by decide
      have htmp : ".tmp".utf8ByteSize = 4 := by decide
      rw [String.utf8ByteSize_append, hdots, htmp] at hsize
      omega
  · have hc := component_temporaryName (h.component hs)
    exact ⟨hr, by simp [hc.names_eq], by simpa [hc.names_eq] using hc.ne_dots.symm⟩

end

section

variable {fs : FileSystem} {dir : String} {d : Place} {x : Artifact}

theorem not_beside_of_slash (hd : fs.enter dir = .ok d) (h : Path.Relative x.fileName)
    (hs : '/' ∈ x.fileName.toList) : ¬ fs.Beside (x.temporary dir) (x.destination dir) := by
  rintro ⟨p, s, t, htemporary, hdestination⟩
  obtain ⟨first, ps, last, -, hn, ht⟩ := names_temporaryName h hs
  have hp := (htemporary.of_descends (descends_temporaryName h) hd).1
  have hq := (hdestination.of_descends (descends_fileName h) hd).1
  rw [ht, ← List.cons_append, ← List.append_assoc, List.append_singleton_inj] at hp
  rw [hn, hp.1, List.append_assoc, List.append_right_inj, List.cons_append, List.cons.injEq] at hq
  have hsize := congrArg String.utf8ByteSize hq.1
  have hdot : ".".utf8ByteSize = 1 := by decide
  rw [String.utf8ByteSize_append, hdot] at hsize
  omega

theorem node?_of_usable_temporary (hd : fs.enter dir = .ok d) (h : Path.Relative x.fileName)
    (hs : '/' ∈ x.fileName.toList) (hu : fs.Usable (x.temporary dir)) :
    ∀ first ∈ (Path.names x.fileName).head?, fs.node? (d ++ ["." ++ first]) = some .directory := by
  obtain ⟨first, ps, last, -, hn, ht⟩ := names_temporaryName h hs
  obtain ⟨p, hp, -⟩ := hu
  intro f hf
  obtain rfl : first = f := by simpa [hn] using hf
  exact node?_of_leads (descends_temporaryName h) hd hp ht (by simp)

theorem plain_fileName (h : Path.Relative x.fileName) (hs : '/' ∉ x.fileName.toList) :
    Path.Plain x.fileName := by
  have hshort := h.short x.fileName (by simp [(h.component hs).names_eq])
  exact ⟨h.component hs, by rw [longestName]; omega⟩

theorem plain_temporaryName (h : Path.Relative x.fileName) (hs : '/' ∉ x.fileName.toList) :
    Path.Plain x.temporaryName := by
  have hshort := h.short x.fileName (by simp [(h.component hs).names_eq])
  have hsize := utf8ByteSize_temporaryName x
  exact ⟨component_temporaryName (h.component hs), by rw [longestName]; omega⟩

theorem leads_of_no_slash (hz : '\x00' ∉ dir.toList) (hd : fs.enter dir = .ok d)
    (h : Path.Relative x.fileName) (hs : '/' ∉ x.fileName.toList)
    (hl : (x.temporary dir).utf8ByteSize ≤ longestPath) :
    fs.Leads (x.temporary dir) (d ++ [x.temporaryName]) ∧
      fs.Leads (x.destination dir) (d ++ [x.fileName]) := by
  refine ⟨leads_join (plain_temporaryName h hs) hz hl hd, leads_join (plain_fileName h hs) hz ?_ hd⟩
  have hsize := utf8ByteSize_temporaryName x
  rw [Artifact.temporary_eq, Path.utf8ByteSize_join (plain_temporaryName h hs).toComponent] at hl
  rw [Path.utf8ByteSize_join (plain_fileName h hs).toComponent]
  omega

theorem beside_iff (hz : '\x00' ∉ dir.toList) (hd : fs.enter dir = .ok d)
    (h : Path.Relative x.fileName) :
    fs.Beside (x.temporary dir) (x.destination dir) ↔
      '/' ∉ x.fileName.toList ∧ (x.temporary dir).utf8ByteSize ≤ longestPath := by
  constructor
  · intro hb
    refine ⟨fun hs => not_beside_of_slash hd h hs hb, ?_⟩
    obtain ⟨p, s, t, htemporary, -⟩ := hb
    exact htemporary.short
  · rintro ⟨hs, hl⟩
    obtain ⟨htemporary, hdestination⟩ := leads_of_no_slash hz hd h hs hl
    exact ⟨d, _, _, htemporary, hdestination⟩

theorem isTemporary_temporaryName (x : Artifact) : Path.IsTemporary x.temporaryName :=
  ⟨⟨(x.fileName ++ ".tmp").toList, by simp [Artifact.temporaryName]⟩,
    ⟨("." ++ x.fileName).toList, by simp [Artifact.temporaryName]⟩⟩

theorem node?_eq_none_of_isTemporary {p : Place} {n : String}
    (ht : ∀ e ∈ fs.entries, ∀ m ∈ e.1.getLast?, ¬ Path.IsTemporary m)
    (hn : Path.IsTemporary n) : fs.node? (p ++ [n]) = none := by
  rw [node?, if_neg (by simp), List.lookup_eq_none_iff]
  intro e he
  rw [bne_iff_ne]
  intro hp
  exact ht e he n (by simp [← hp]) hn

theorem usable_of_no_slash (hz : '\x00' ∉ dir.toList) (hd : fs.enter dir = .ok d)
    (h : Path.Relative x.fileName) (hf : fs.node? (d ++ Path.names x.fileName) ≠ some .directory)
    (ht : ∀ e ∈ fs.entries, ∀ n ∈ e.1.getLast?, ¬ Path.IsTemporary n)
    (hs : '/' ∉ x.fileName.toList) (hl : (x.temporary dir).utf8ByteSize ≤ longestPath) :
    fs.Usable (x.temporary dir) ∧ fs.Usable (x.destination dir) := by
  obtain ⟨htemporary, hdestination⟩ := leads_of_no_slash hz hd h hs hl
  constructor
  · refine ⟨_, htemporary, ?_⟩
    simp [node?_eq_none_of_isTemporary ht (isTemporary_temporaryName x)]
  · rw [(h.component hs).names_eq] at hf
    exact ⟨_, hdestination, hf⟩

end

namespace Artifacts

variable {a : Artifacts} {fs : FileSystem} {dir : String} {d : Place}

theorem usable_of_write_ok {ps : List String} {fs' : FileSystem}
    (hw : (a.write dir).Ends fs (.ok ps) fs') :
    ∀ x ∈ a.toList, fs.Usable (x.temporary dir) ∧ fs.Usable (x.destination dir) := by
  obtain ⟨-, fs₁, fs₂, fs₃, h₁, h₂, h₃, h₄⟩ := steps_of_write hw
  have hs₁ : SameDirectories fs fs₁ := .of_write h₁
  have hs₂ : SameDirectories fs fs₂ := hs₁.trans (.of_write h₂)
  have hs₃ : SameDirectories fs fs₃ := hs₂.trans (.of_rename h₃)
  have hb := usable_of_rename h₃
  have ht := usable_of_rename h₄
  rw [hs₂.usable_iff, hs₂.usable_iff] at hb
  rw [hs₃.usable_iff, hs₃.usable_iff] at ht
  simpa [toList] using ⟨hb, ht⟩

theorem exec_write_of_usable
    (hne : ∀ q, fs.Leads (a.builder.temporary dir) q → ¬ fs.Leads (a.tests.temporary dir) q)
    (hu : ∀ x ∈ a.toList, fs.Usable (x.temporary dir) ∧ fs.Usable (x.destination dir)) :
    ((a.write dir).exec fs).1 = .ok [a.builder.destination dir, a.tests.destination dir] := by
  obtain ⟨⟨p, hp, hpn⟩, q, hq, hqn⟩ := hu a.builder (by simp [toList])
  obtain ⟨⟨p', hp', hpn'⟩, q', hq', hqn'⟩ := hu a.tests (by simp [toList])
  have hpp : p' ≠ p := by
    rintro rfl
    exact hne p' hp hp'
  obtain ⟨fs₁, h₁, hn₁⟩ := exists_write hp hpn a.builder.contents.toUTF8
  have hs₁ : SameDirectories fs fs₁ := .of_write h₁
  obtain ⟨fs₂, h₂, hn₂⟩ :=
    exists_write (hs₁.leads hp') (mt (hs₁.node? _).mp hpn') a.tests.contents.toUTF8
  have hs₂ : SameDirectories fs fs₂ := hs₁.trans (.of_write h₂)
  have hbuilder : fs₂.node? p = some (.file a.builder.contents.toUTF8) := by
    rw [hn₂, if_neg hpp.symm, hn₁, if_pos rfl]
  obtain ⟨fs₃, h₃, hn₃⟩ :=
    exists_rename (hs₂.leads hp) (hs₂.leads hq) hbuilder (mt (hs₂.node? _).mp hqn)
  have hs₃ : SameDirectories fs fs₃ := hs₂.trans (.of_rename h₃)
  -- What waits for its place is a file, even where the first renaming has replaced it.
  obtain ⟨c, htests⟩ : ∃ c, fs₃.node? p' = some (.file c) := by
    rw [hn₃, if_neg hpp, hn₂, if_pos rfl]
    split <;> exact ⟨_, rfl⟩
  obtain ⟨fs₄, h₄, -⟩ :=
    exists_rename (hs₃.leads hp') (hs₃.leads hq') htests (mt (hs₃.node? _).mp hqn')
  have hx : (a.write dir).exec fs =
      (publish [a.builder.staged dir, a.tests.staged dir]).exec fs₂ := by
    rw [write, toList, Script.exec_bind, exec_stage_cons h₁, exec_stage_cons h₂]
    rfl
  rw [hx, exec_publish_cons (s := a.builder.staged dir) h₃,
    exec_publish_cons (s := a.tests.staged dir) h₄]
  rfl

theorem exec_write_eq_ok
    (hne : ∀ q, fs.Leads (a.builder.temporary dir) q → ¬ fs.Leads (a.tests.temporary dir) q) :
    ((a.write dir).exec fs).1 = .ok [a.builder.destination dir, a.tests.destination dir] ↔
      ∀ x ∈ a.toList, fs.Usable (x.temporary dir) ∧ fs.Usable (x.destination dir) :=
  ⟨fun h => usable_of_write_ok (h ▸ (a.write dir).ends_exec fs), exec_write_of_usable hne⟩

theorem temporaries_apart (hd : fs.enter dir = .ok d)
    (hn : ∀ x ∈ a.toList, Path.Relative x.fileName)
    (hne : Path.names a.builder.fileName ≠ Path.names a.tests.fileName) :
    ∀ q, fs.Leads (a.builder.temporary dir) q → ¬ fs.Leads (a.tests.temporary dir) q := by
  intro q hb ht
  have hbuilder := hn a.builder (by simp [toList])
  have htests := hn a.tests (by simp [toList])
  have hqb := (hb.of_descends (descends_temporaryName hbuilder) hd).1
  have hqt := (ht.of_descends (descends_temporaryName htests) hd).1
  rw [hqb, List.append_right_inj] at hqt
  exact hne (names_temporaryName_inj hbuilder htests hqt)

theorem staged_beside_iff (hz : '\x00' ∉ dir.toList) (hd : fs.enter dir = .ok d)
    (hn : ∀ x ∈ a.toList, Path.Relative x.fileName)
    (hne : Path.names a.builder.fileName ≠ Path.names a.tests.fileName)
    (hf : ∀ x ∈ a.toList, fs.node? (d ++ Path.names x.fileName) ≠ some .directory)
    (ht : ∀ e ∈ fs.entries, ∀ n ∈ e.1.getLast?, ¬ Path.IsTemporary n) :
    let written := ((a.write dir).exec fs).1 =
      .ok [a.builder.destination dir, a.tests.destination dir]
    (written ∧ (∀ x ∈ a.toList, fs.Beside (x.temporary dir) (x.destination dir)) ↔
      ∀ x ∈ a.toList, '/' ∉ x.fileName.toList ∧ (x.temporary dir).utf8ByteSize ≤ longestPath) ∧
    (written ↔ ∀ x ∈ a.toList, fs.Usable (x.temporary dir) ∧ fs.Usable (x.destination dir)) ∧
    ∀ x ∈ a.toList, '/' ∈ x.fileName.toList →
      ¬ fs.Beside (x.temporary dir) (x.destination dir) ∧
      ∀ ps fs', (a.write dir).Ends fs (.ok ps) fs' →
        ∀ first ∈ (Path.names x.fileName).head?,
          fs.node? (d ++ ["." ++ first]) = some .directory := by
  intro written
  have hw : written ↔ ∀ x ∈ a.toList, fs.Usable (x.temporary dir) ∧ fs.Usable (x.destination dir) :=
    exec_write_eq_ok (temporaries_apart hd hn hne)
  refine ⟨⟨fun h x hx => (beside_iff hz hd (hn x hx)).mp (h.2 x hx), fun h => ⟨?_, ?_⟩⟩, hw,
    fun x hx hs => ⟨not_beside_of_slash hd (hn x hx) hs, fun ps fs' he => ?_⟩⟩
  · exact hw.mpr fun x hx =>
      usable_of_no_slash hz hd (hn x hx) (hf x hx) ht (h x hx).1 (h x hx).2
  · exact fun x hx => (beside_iff hz hd (hn x hx)).mpr (h x hx)
  · exact node?_of_usable_temporary hd (hn x hx) hs (usable_of_write_ok he x hx).1

theorem staged_beside_of_standard :
    let fs : FileSystem :=
      ⟨[(["out"], .directory), (["out", "html_gen.rs"], .file "old".toUTF8)], []⟩
    let a := ofTexts "b" "t"
    ('\x00' ∉ "out".toList ∧ fs.enter "out" = .ok ["out"] ∧
        (∀ x ∈ a.toList, Path.Relative x.fileName) ∧
        Path.names a.builder.fileName ≠ Path.names a.tests.fileName ∧
        (∀ x ∈ a.toList, fs.node? (["out"] ++ Path.names x.fileName) ≠ some .directory) ∧
        ∀ e ∈ fs.entries, ∀ n ∈ e.1.getLast?, ¬ Path.IsTemporary n) ∧
      ((a.write "out").exec fs).1 = .ok ["out/html_gen.rs", "out/html_gen_test.rs"] ∧
      ∀ x ∈ a.toList, fs.Beside (x.temporary "out") (x.destination "out") := by
  intro fs a
  have hz : '\x00' ∉ "out".toList := by decide
  have hd : fs.enter "out" = .ok ["out"] := by decide
  have hn : ∀ x ∈ a.toList, Path.Relative x.fileName := by decide
  have hne : Path.names a.builder.fileName ≠ Path.names a.tests.fileName := by decide
  have hf : ∀ x ∈ a.toList, fs.node? (["out"] ++ Path.names x.fileName) ≠ some .directory := by
    decide
  have ht : ∀ e ∈ fs.entries, ∀ n ∈ e.1.getLast?, ¬ Path.IsTemporary n := by decide
  obtain ⟨hw, hb⟩ := (staged_beside_iff hz hd hn hne hf ht).1.mpr (by decide)
  exact ⟨⟨hz, hd, hn, hne, hf, ht⟩, hw.trans (by decide), hb⟩

theorem staging_refused_below_subdirectory :
    let fs : FileSystem := ⟨[(["sub"], .directory)], []⟩
    let a : Artifacts := ⟨⟨"sub/b.rs", "// builder\n"⟩, ⟨"t.rs", "// tests\n"⟩⟩
    (fs.isDirectory "." ∧ (∀ x ∈ a.toList, Path.Relative x.fileName) ∧
        (∀ x ∈ a.toList, ∀ n ∈ (Path.names x.fileName).getLast?, ¬ Path.IsTemporary n) ∧
        Path.names a.builder.fileName ≠ Path.names a.tests.fileName ∧ fs.isDirectory "./sub" ∧
        (∀ x ∈ a.toList, ¬ fs.isDirectory (x.destination ".")) ∧
        ∀ e ∈ fs.entries, ∀ n ∈ e.1.getLast?, ¬ Path.IsTemporary n) ∧
      ((a.write ".").exec fs).1 = .error ⟨"./.sub/b.rs.tmp", .notFound⟩ := by
  decide

end Artifacts

end TypedMarkup
