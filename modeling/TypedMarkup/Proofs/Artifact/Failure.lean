import TypedMarkup.Proofs.Artifact.Endings

namespace TypedMarkup

open Storage Storage.FileSystem

variable {fs fs' : FileSystem} {dir : String} {e : StorageError}

namespace Artifacts

variable {a : Artifacts}

theorem failed_write_keeps (h : a.Apart) (hw : (a.write dir).Ends fs (.error e) fs') :
    (∀ q, ¬ a.Temporary fs dir q → fs'.node? q = fs.node? q) ↔
      (e.path = a.tests.destination dir →
        fs.find (a.builder.destination dir) = .ok (.file a.builder.contents.toUTF8)) := by
  cases ends_write h hw with
  | nothing he hq => exact ⟨fun _ hd => absurd hd he, fun _ => hq⟩
  | @builder _ r hr hq =>
    have hn := hq r (not_temporary h (by simp [toList]) hr)
    rw [if_pos rfl] at hn
    rw [find_eq_ok hr]
    constructor
    · intro hk _
      rw [← hk r (not_temporary h (by simp [toList]) hr), hn]
    · intro hf q hqt
      rw [hq q hqt]
      split
      · rename_i he'
        rw [he', hf rfl]
      · rfl

theorem not_isDirectory_zero (hz : '\x00' ∈ dir.toList) : ¬ fs.isDirectory (Path.orHere dir) := by
  have hne : dir ≠ "" := by
    rintro rfl
    simp at hz
  have hr : fs.route dir = .error .zeroInName := by
    simp [route, hz]
  simp [Path.orHere, hne, isDirectory, find, locate, hr]

theorem refused_last (builder tests : String) :
    (∃ e, (ofTexts builder tests).refused? fs dir = some e ∧
        e.path = Path.join dir "html_gen_test.rs") ↔
      (∀ name ∈ [".html_gen.rs.tmp", ".html_gen_test.rs.tmp", "html_gen.rs"],
          fs.refusal? dir name = none) ∧ fs.isDirectory (Path.join dir "html_gen_test.rs") := by
  have hp : ∀ n ∈ (ofTexts builder tests).names, Path.Component n :=
    fun n hn => ((apart_ofTexts builder tests).plain n hn).toComponent
  rw [names_ofTexts] at hp
  have hne : ∀ n ∈ [".html_gen.rs.tmp", ".html_gen_test.rs.tmp", "html_gen.rs"],
      Path.join dir n ≠ Path.join dir "html_gen_test.rs" := by
    intro n hn he
    obtain rfl := Path.join_injective (hp n (by simp at hn ⊢; tauto)) (hp _ (by simp)) he
    simp at hn
  simp only [List.forall_mem_cons, List.not_mem_nil, false_imp_iff, implies_true, and_true] at hne ⊢
  simp only [refused?, names_ofTexts, List.findSome?_cons, List.findSome?_nil]
  cases h₁ : fs.refusal? dir ".html_gen.rs.tmp" with
  | some e => simp [hne.1]
  | none =>
    cases h₂ : fs.refusal? dir ".html_gen_test.rs.tmp" with
    | some e => simp [hne.2.1]
    | none =>
      cases h₃ : fs.refusal? dir "html_gen.rs" with
      | some e => simp [hne.2.2]
      | none =>
        -- The last name is shorter than its temporary's, so only a directory can refuse it.
        obtain ⟨hl, hd, -⟩ := refusal?_eq_none.mp h₂
        have hl' : (Path.join dir "html_gen_test.rs").utf8ByteSize ≤ longestPath := by
          have hs : "html_gen_test.rs".utf8ByteSize ≤ ".html_gen_test.rs.tmp".utf8ByteSize := by
            decide
          rw [Path.utf8ByteSize_join (hp _ (by simp))] at hl ⊢
          omega
        have h₄ : fs.refusal? dir "html_gen_test.rs" = none ↔
            ¬ fs.isDirectory (Path.join dir "html_gen_test.rs") := by
          rw [refusal?_eq_none]
          exact ⟨fun h => h.2.2, fun h => ⟨hl', hd, h⟩⟩
        cases h₅ : fs.refusal? dir "html_gen_test.rs" with
        | none => simpa using h₄.mp h₅
        | some e => simpa [h₅] using h₄

theorem failed_write_keeps_iff (fs : FileSystem) (dir builder tests : String) :
    let a := ofTexts builder tests
    (∀ e fs', (a.write dir).Ends fs (.error e) fs' →
      ((∀ q, ¬ a.Temporary fs dir q → fs'.node? q = fs.node? q) ↔
        (e.path = Path.join dir "html_gen_test.rs" →
          fs.find (Path.join dir "html_gen.rs") = .ok (.file builder.toUTF8)))) ∧
    ((∃ e, ((a.write dir).exec fs).1 = .error e ∧
        ∃ q, ¬ a.Temporary fs dir q ∧ ((a.write dir).exec fs).2.node? q ≠ fs.node? q) ↔
      (∀ name ∈ [".html_gen.rs.tmp", ".html_gen_test.rs.tmp", "html_gen.rs"],
          fs.refusal? dir name = none) ∧
        fs.isDirectory (Path.join dir "html_gen_test.rs") ∧
        fs.find (Path.join dir "html_gen.rs") ≠ .ok (.file builder.toUTF8)) := by
  intro a
  have h : a.Apart := apart_ofTexts builder tests
  refine ⟨fun e fs' hw => failed_write_keeps h hw, ?_⟩
  by_cases hz : '\x00' ∈ dir.toList
  · -- No directory has such a path, so the write has changed nothing.
    rw [exec_write_zero h hz]
    constructor
    · rintro ⟨e, -, q, -, hq⟩
      exact absurd rfl hq
    · rintro ⟨hn, -⟩
      have hd := (refusal?_eq_none.mp (hn ".html_gen.rs.tmp" (by simp))).2.1
      exact absurd hd (not_isDirectory_zero hz)
  · have hx : ∀ e, ((a.write dir).exec fs).1 = .error e ↔ a.refused? fs dir = some e := fun e => by
      rw [exec_write_result h hz]
      cases a.refused? fs dir <;> simp
    have hk : ∀ e, ((a.write dir).exec fs).1 = .error e →
        ((∃ q, ¬ a.Temporary fs dir q ∧ ((a.write dir).exec fs).2.node? q ≠ fs.node? q) ↔
          e.path = Path.join dir "html_gen_test.rs" ∧
            fs.find (Path.join dir "html_gen.rs") ≠ .ok (.file builder.toUTF8)) := fun e he => by
      have hw : (a.write dir).Ends fs (.error e) ((a.write dir).exec fs).2 :=
        he ▸ (a.write dir).ends_exec fs
      have hk := not_congr (failed_write_keeps h hw)
      simp only [not_forall, exists_prop] at hk
      exact hk
    rw [← and_assoc, ← refused_last builder tests]
    constructor
    · rintro ⟨e, he, hq⟩
      obtain ⟨hp, hf⟩ := (hk e he).mp hq
      exact ⟨⟨e, (hx e).mp he, hp⟩, hf⟩
    · rintro ⟨⟨e, he, hp⟩, hf⟩
      exact ⟨e, (hx e).mpr he, (hk e ((hx e).mpr he)).mpr ⟨hp, hf⟩⟩

theorem failed_write_keeps_beside_directory :
    let fs : FileSystem := ⟨[(["html_gen.rs"], .directory)], []⟩
    let a := ofTexts "new" "tests"
    (a.write ".").Ends fs (.error ⟨"./html_gen.rs", .isDirectory⟩) ((a.write ".").exec fs).2 ∧
      ∀ q, ¬ a.Temporary fs "." q → ((a.write ".").exec fs).2.node? q = fs.node? q := by
  intro fs a
  have hr : ((a.write ".").exec fs).1 = .error ⟨"./html_gen.rs", .isDirectory⟩ := by
    decide
  have hw : (a.write ".").Ends fs (.error ⟨"./html_gen.rs", .isDirectory⟩)
      ((a.write ".").exec fs).2 := hr ▸ (a.write ".").ends_exec fs
  refine ⟨hw, ((failed_write_keeps_iff fs "." "new" "tests").1 _ _ hw).mpr fun he => ?_⟩
  exact absurd he (by decide)

theorem failed_write_replaces_builder :
    let fs : FileSystem :=
      ⟨[(["html_gen.rs"], .file "old".toUTF8), (["html_gen_test.rs"], .directory)], []⟩
    let a := ofTexts "new" "tests"
    ((a.write ".").exec fs).1 = .error ⟨"./html_gen_test.rs", .isDirectory⟩ ∧
      ¬ a.Temporary fs "." ["html_gen.rs"] ∧
      fs.node? ["html_gen.rs"] = some (.file "old".toUTF8) ∧
      ((a.write ".").exec fs).2.node? ["html_gen.rs"] = some (.file "new".toUTF8) := by
  intro fs a
  have hl : fs.Leads (a.builder.destination ".") ["html_gen.rs"] :=
    ⟨[], "html_gen.rs", by decide, by decide, by decide, rfl⟩
  exact ⟨by decide, not_temporary (apart_ofTexts "new" "tests") (by simp [toList, a]) hl,
    by decide, by decide⟩

end Artifacts

end TypedMarkup
