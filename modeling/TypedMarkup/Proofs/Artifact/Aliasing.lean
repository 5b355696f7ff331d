import TypedMarkup.Proofs.Artifact.Endings
import TypedMarkup.Proofs.Artifact.Stale

namespace TypedMarkup

open Storage Storage.FileSystem

section

variable {a b : Artifact}

theorem utf8ByteSize_temporaryName (a : Artifact) :
    a.temporaryName.utf8ByteSize = a.fileName.utf8ByteSize + 5 := by
  have hdot : ".".utf8ByteSize = 1 := by decide
  have htmp : ".tmp".utf8ByteSize = 4 := by decide
  rw [Artifact.temporaryName, String.utf8ByteSize_append, String.utf8ByteSize_append, hdot, htmp]
  omega

theorem temporaryName_ne (a : Artifact) : a.temporaryName ≠ a.fileName := by
  intro h
  have hs := utf8ByteSize_temporaryName a
  rw [h] at hs
  omega

theorem temporaryName_inj : a.temporaryName = b.temporaryName ↔ a.fileName = b.fileName := by
  simp only [Artifact.temporaryName, String.append_left_inj, String.append_right_inj]

theorem component_temporaryName (h : Path.Component a.fileName) :
    Path.Component a.temporaryName := by
  have hs := utf8ByteSize_temporaryName a
  have hlong : ∀ s : String, s.utf8ByteSize ≤ 2 → a.temporaryName ≠ s := by
    rintro s hle rfl
    omega
  refine ⟨hlong "" (by decide), hlong "." (by decide), hlong ".." (by decide), ?_, ?_⟩
  · simpa [Artifact.temporaryName] using h.no_slash
  · simpa [Artifact.temporaryName] using h.no_zero

end

section

variable {fs fs' : FileSystem} {dir : String} {ps : List String}

theorem publish_cons_ok {s : Staged} {ss : List Staged}
    (h : (publish (s :: ss)).Ends fs (.ok ps) fs') :
    ∃ fs₁ qs, fs.rename s.temporary s.destination = .ok fs₁ ∧
      (publish ss).Ends fs₁ (.ok qs) fs' ∧ ps = s.destination :: qs := by
  cases h with
  | @rename _ _ _ _ _ fs₁ _ _ hr hk =>
    cases hr with
    | failed f => cases (ends_discard hk).1
    | done hd =>
      cases hk with
      | report hk =>
        obtain ⟨x, fs₂, hx, hm⟩ := Script.ends_bind hk
        cases x with
        | error e => cases hm
        | ok qs =>
          cases hm
          exact ⟨fs₁, qs, hd, hx, rfl⟩

namespace Artifacts

variable {a : Artifacts}

theorem steps_of_write (hw : (a.write dir).Ends fs (.ok ps) fs') :
    ps = [a.builder.destination dir, a.tests.destination dir] ∧
    ∃ fs₁ fs₂ fs₃, fs.write (a.builder.temporary dir) a.builder.contents.toUTF8 = .ok fs₁ ∧
      fs₁.write (a.tests.temporary dir) a.tests.contents.toUTF8 = .ok fs₂ ∧
      fs₂.rename (a.builder.temporary dir) (a.builder.destination dir) = .ok fs₃ ∧
      fs₃.rename (a.tests.temporary dir) (a.tests.destination dir) = .ok fs' := by
  obtain ⟨r, fs₂, hstage, hpublish⟩ := Script.ends_bind hw
  cases r with
  | error e => cases hpublish
  | ok ready =>
    obtain ⟨fs₁, hb, hstage₁⟩ := stage_cons_ok hstage
    obtain ⟨fs₂, ht, hstage₂⟩ := stage_cons_ok hstage₁
    cases hstage₂
    obtain ⟨fs₃, qs, hb', hpublish₁, rfl⟩ := publish_cons_ok hpublish
    obtain ⟨fs₄, rs, ht', hpublish₂, rfl⟩ := publish_cons_ok hpublish₁
    cases hpublish₂
    exact ⟨rfl, fs₁, _, fs₃, hb, ht, hb', ht'⟩

structure Completed (a : Artifacts) (fs : FileSystem) (dir : String) (fs' : FileSystem) (d : Place)
    (moved : ByteArray) : Prop where
  distinct : a.builder.fileName ≠ a.tests.fileName
  builder : fs'.Leads (a.builder.destination dir) (d ++ [a.builder.fileName])
  tests : fs'.Leads (a.tests.destination dir) (d ++ [a.tests.fileName])
  found : (a.onePublished fs d).node? (d ++ [a.tests.temporaryName]) = some (.file moved)
  eq : fs' = ((a.onePublished fs d).drop (d ++ [a.tests.temporaryName])).put
    (d ++ [a.tests.fileName]) (.file moved)

theorem completed (hb : Path.Component a.builder.fileName) (ht : Path.Component a.tests.fileName)
    (hw : (a.write dir).Ends fs (.ok ps) fs') : ∃ d moved, a.Completed fs dir fs' d moved := by
  obtain ⟨-, fs₁, fs₂, fs₃, h₁, h₂, h₃, h₄⟩ := steps_of_write hw
  have hs₂ : SameDirectories fs fs₂ := (SameDirectories.of_write h₁).trans (.of_write h₂)
  have hs₃ : SameDirectories fs fs₃ := hs₂.trans (.of_rename h₃)
  have hs₂' : SameDirectories fs₂ fs' := (SameDirectories.of_rename h₃).trans (.of_rename h₄)
  -- All four accesses take place in one directory.
  obtain ⟨d, hd, rfl⟩ := write_join_ok (component_temporaryName hb) h₁
  obtain ⟨d₂, hd₂, rfl⟩ := write_join_ok (component_temporaryName ht) h₂
  obtain rfl : d = d₂ := Except.ok.inj (((SameDirectories.of_write h₁).enter hd).symm.trans hd₂)
  obtain ⟨d₃, c, hd₃, hbuilder, hc, rfl⟩ := rename_join_ok (component_temporaryName hb) hb h₃
  obtain rfl : d = d₃ := Except.ok.inj ((hs₂.enter hd).symm.trans hd₃)
  obtain ⟨d₄, moved, hd₄, htests, hmoved, rfl⟩ := rename_join_ok (component_temporaryName ht) ht h₄
  obtain rfl : d = d₄ := Except.ok.inj ((hs₃.enter hd).symm.trans hd₄)
  have hdistinct : a.builder.fileName ≠ a.tests.fileName := by
    -- The first renaming would have taken away what the second one asks for.
    intro he
    have hsame : a.tests.temporaryName = a.builder.temporaryName := temporaryName_inj.mpr he.symm
    rw [node?_put _ (by simp), node?_drop _ (by simp), hsame] at hmoved
    simp [temporaryName_ne] at hmoved
  have hfirst : c = a.builder.contents.toUTF8 := by
    have hne : a.builder.temporaryName ≠ a.tests.temporaryName := mt temporaryName_inj.mp hdistinct
    rw [node?_put _ (by simp), node?_put _ (by simp)] at hc
    simpa [hne, eq_comm] using hc
  subst hfirst
  exact ⟨d, moved, hdistinct, hs₂'.leads hbuilder, (SameDirectories.of_rename h₄).leads htests,
    hmoved, rfl⟩

namespace Completed

variable {d : Place} {moved : ByteArray}

theorem moved_eq (h : a.Completed fs dir fs' d moved) :
    moved = if a.builder.fileName = a.tests.temporaryName then a.builder.contents.toUTF8
      else a.tests.contents.toUTF8 := by
  have hne : a.tests.temporaryName ≠ a.builder.temporaryName :=
    mt temporaryName_inj.mp h.distinct.symm
  have hfound := h.found
  rw [node?_onePublished, node?_bothStaged] at hfound
  simp only [List.append_singleton_inj, true_and, hne, if_false, if_true] at hfound
  by_cases hb : a.builder.fileName = a.tests.temporaryName
  · rw [if_pos hb.symm] at hfound
    rw [if_pos hb]
    exact (Node.file.inj (Option.some.inj hfound)).symm
  · rw [if_neg (Ne.symm hb)] at hfound
    rw [if_neg hb]
    exact (Node.file.inj (Option.some.inj hfound)).symm

theorem node?_builder (h : a.Completed fs dir fs' d moved) :
    fs'.node? (d ++ [a.builder.fileName]) =
      if a.builder.fileName = a.tests.temporaryName then none
      else some (.file a.builder.contents.toUTF8) := by
  have hne := h.distinct
  rw [h.eq, node?_put _ (by simp), node?_drop _ (by simp), node?_onePublished]
  simp only [List.append_singleton_inj, true_and, hne, if_false, if_true]

theorem node?_tests (h : a.Completed fs dir fs' d moved) :
    fs'.node? (d ++ [a.tests.fileName]) = some (.file moved) := by
  rw [h.eq, node?_put _ (by simp), if_pos rfl]

theorem read_apart (h : a.Completed fs dir fs' d moved)
    (hne : a.builder.fileName ≠ a.tests.temporaryName) :
    fs'.read (a.builder.destination dir) = .ok a.builder.contents.toUTF8 ∧
      fs'.read (a.tests.destination dir) = .ok a.tests.contents.toUTF8 := by
  have hmoved := h.moved_eq
  rw [if_neg hne] at hmoved
  constructor
  · exact read_of_file h.builder (h.node?_builder.trans (if_neg hne))
  · exact read_of_file h.tests (hmoved ▸ h.node?_tests)

theorem read_aliased (h : a.Completed fs dir fs' d moved)
    (he : a.builder.fileName = a.tests.temporaryName) :
    fs'.read (a.builder.destination dir) = .error .notFound ∧
      fs'.read (a.tests.destination dir) = .ok a.builder.contents.toUTF8 := by
  have hmoved := h.moved_eq
  rw [if_pos he] at hmoved
  constructor
  · exact read_of_none h.builder (h.node?_builder.trans (if_pos he))
  · exact read_of_file h.tests (hmoved ▸ h.node?_tests)

theorem read_iff (h : a.Completed fs dir fs' d moved) :
    (∀ x ∈ a.toList, fs'.read (x.destination dir) = .ok x.contents.toUTF8) ↔
      a.builder.fileName ≠ a.tests.temporaryName := by
  constructor
  · intro hread he
    have hb := hread a.builder (by simp [toList])
    rw [(h.read_aliased he).1] at hb
    cases hb
  · intro hne x hx
    simp only [toList, List.mem_cons, List.not_mem_nil, or_false] at hx
    rcases hx with rfl | rfl
    · exact (h.read_apart hne).1
    · exact (h.read_apart hne).2

end Completed

theorem written_iff (fs : FileSystem) (dir : String) {a : Artifacts}
    (hb : Path.Component a.builder.fileName) (ht : Path.Component a.tests.fileName)
    {ps : List String} {fs' : FileSystem} (hw : (a.write dir).Ends fs (.ok ps) fs') :
    ps = [a.builder.destination dir, a.tests.destination dir] ∧
    a.builder.fileName ≠ a.tests.fileName ∧
    ((∀ x ∈ a.toList, fs'.read (x.destination dir) = .ok x.contents.toUTF8) ↔
      a.builder.fileName ≠ a.tests.temporaryName) ∧
    (((a.stale dir).exec fs').1 = .ok [] ↔ a.builder.fileName ≠ a.tests.temporaryName) ∧
    (a.builder.fileName = a.tests.temporaryName →
      fs'.read (a.builder.destination dir) = .error .notFound ∧
      fs'.read (a.tests.destination dir) = .ok a.builder.contents.toUTF8) := by
  obtain ⟨d, moved, h⟩ := completed hb ht hw
  refine ⟨(steps_of_write hw).1, h.distinct, h.read_iff, ?_, ?_⟩
  · rw [stale, exec_staleAmong_eq_nil, h.read_iff]
  · exact h.read_aliased

theorem written_iff_of_standard :
    let fs : FileSystem := ⟨[], []⟩
    let a := ofTexts "b" "t"
    Path.Component a.builder.fileName ∧ Path.Component a.tests.fileName ∧
      ((a.write ".").exec fs).1 = .ok ["./html_gen.rs", "./html_gen_test.rs"] ∧
      ((a.stale ".").exec ((a.write ".").exec fs).2).1 = .ok [] := by
  intro fs a
  have hb : Path.Component a.builder.fileName := by decide
  have ht : Path.Component a.tests.fileName := by decide
  have hr : ((a.write ".").exec fs).1 = .ok ["./html_gen.rs", "./html_gen_test.rs"] := by decide
  have hw : (a.write ".").Ends fs (.ok ["./html_gen.rs", "./html_gen_test.rs"])
      ((a.write ".").exec fs).2 := hr ▸ (a.write ".").ends_exec fs
  exact ⟨hb, ht, hr, (written_iff fs "." hb ht hw).2.2.2.1.mpr (by decide)⟩

theorem builder_lost_under_temporary :
    let fs : FileSystem := ⟨[], []⟩
    let a : Artifacts :=
      ⟨⟨".html_gen_test.rs.tmp", "// builder\n"⟩, ⟨"html_gen_test.rs", "// tests\n"⟩⟩
    let fs' := ((a.write ".").exec fs).2
    Path.Component a.builder.fileName ∧ Path.Component a.tests.fileName ∧
      ((a.write ".").exec fs).1 = .ok ["./.html_gen_test.rs.tmp", "./html_gen_test.rs"] ∧
      fs'.read "./.html_gen_test.rs.tmp" = .error .notFound ∧
      fs'.read "./html_gen_test.rs" = .ok "// builder\n".toUTF8 ∧
      ((a.stale ".").exec fs').1 = .ok ["./.html_gen_test.rs.tmp", "./html_gen_test.rs"] := by
  decide

end Artifacts

end

end TypedMarkup
