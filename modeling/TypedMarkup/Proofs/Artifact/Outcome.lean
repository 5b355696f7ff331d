import TypedMarkup.Proofs.Artifact.Write

namespace TypedMarkup.Artifacts

open Storage Storage.FileSystem

variable (fs : FileSystem) (dir builder tests : String)

theorem write_outcome (hz : '\x00' ∉ dir.toList)
    (hs : ∀ n ∈ Path.names dir, n.utf8ByteSize ≤ longestName) :
    let a := ofTexts builder tests
    let fs' := ((a.write dir).exec fs).2
    ((a.write dir).exec fs).1 =
        (a.refused? fs dir).elim
          (.ok [Path.join dir "html_gen.rs", Path.join dir "html_gen_test.rs"]) .error ∧
      (∀ name ∈ a.names,
        (fs.refusal? dir name = none ↔
          (Path.join dir name).utf8ByteSize ≤ longestPath ∧ fs.isDirectory (Path.orHere dir) ∧
            ¬ fs.isDirectory (Path.join dir name)) ∧
        ∀ e, fs.refusal? dir name = some e ↔
          longestPath < (Path.join dir name).utf8ByteSize ∧ e = .nameTooLong ∨
          (Path.join dir name).utf8ByteSize ≤ longestPath ∧
            ((∃ q, fs.Passes dir q ∧ fs.Blocks q e) ∨
              fs.isDirectory (Path.join dir name) ∧ e = .isDirectory)) ∧
      fs'.home = fs.home ∧
      ((∀ d, fs.enter dir ≠ .ok d) → fs' = fs) ∧
      ∀ d, fs.enter dir = .ok d → ∀ q, fs'.node? q = a.after fs d (a.passed fs dir) q := by
  intro a fs'
  have h : a.Apart := apart_ofTexts builder tests
  refine ⟨exec_write_result h hz,
    fun name hn => ⟨refusal?_eq_none, fun e => refusal?_eq_some (h.plain name hn) hz hs⟩,
    (Script.ends_exec _ fs).same_directories.home, fun hd => ?_, fun d hd => (exec_write h hz hd).2⟩
  cases he : fs.enter dir with
  | ok d => exact absurd he (hd d)
  | error e =>
    obtain ⟨e', -, hx⟩ := exec_write_nowhere h hz he
    exact congrArg Prod.snd hx

theorem write_outcome_beside_directory :
    let fs : FileSystem := ⟨[(["html_gen_test.rs"], .directory)], []⟩
    ('\x00' ∉ ".".toList ∧ ∀ n ∈ Path.names ".", n.utf8ByteSize ≤ longestName) ∧
      (((ofTexts "b" "t").write ".").exec fs).1 =
        .error ⟨"./html_gen_test.rs", .isDirectory⟩ ∧
      (((ofTexts "b" "t").write ".").exec fs).2.node? ["html_gen.rs"] =
        some (.file "b".toUTF8) := by
  intro fs
  have hz : '\x00' ∉ ".".toList := by decide
  have hs : ∀ n ∈ Path.names ".", n.utf8ByteSize ≤ longestName := by decide
  obtain ⟨hr, -, -, -, hn⟩ := write_outcome fs "." "b" "t" hz hs
  refine ⟨⟨hz, hs⟩, hr.trans ?_, (hn [] ?_ ["html_gen.rs"]).trans ?_⟩
  · decide
  · decide
  · decide

def dots : Nat → String
  | 0 => ""
  | n + 1 => "./" ++ dots n

theorem utf8ByteSize_dots (n : Nat) : (dots n).utf8ByteSize = 2 * n := by
  induction n with
  | zero => rfl
  | succ n ih =>
    have : "./".utf8ByteSize = 2 := by decide
    rw [dots, String.utf8ByteSize_append, ih, this]
    omega

theorem zero_not_mem_dots (n : Nat) : '\x00' ∉ (dots n).toList := by
  induction n with
  | zero => decide
  | succ n ih => simpa [dots] using ih

theorem names_dots (n : Nat) : Path.names (dots n) = [] := by
  induction n with
  | zero => decide
  | succ n ih =>
    rw [Path.names, Path.parts, dots, String.toList_append]
    exact ih

theorem write_into_long_path :
    let fs : FileSystem := ⟨[], []⟩
    let dir := dots 2500
    ('\x00' ∉ dir.toList ∧ ∀ n ∈ Path.names dir, n.utf8ByteSize ≤ longestName) ∧
      fs.enter dir = .ok [] ∧ (∀ q, q ≠ [] → fs.node? q = none) ∧
      ((ofTexts "b" "t").write dir).exec fs =
        (.error ⟨Path.join dir ".html_gen.rs.tmp", .nameTooLong⟩, fs) := by
  intro fs dir
  have hl : longestPath < (Path.join dir ".html_gen.rs.tmp").utf8ByteSize := by
    rw [Path.utf8ByteSize_join (by decide), String.utf8ByteSize_append, utf8ByteSize_dots,
      longestPath]
    omega
  refine ⟨⟨zero_not_mem_dots 2500, by simp [dir, names_dots]⟩, ?_, ?_, ?_⟩
  · rw [enter, names_dots]
    exact ite_self _ ▸ rfl
  · intro q hq
    simp [node?, fs, hq]
  · exact exec_write_refused₁ (apart_ofTexts "b" "t") (zero_not_mem_dots 2500) (if_pos hl)

end TypedMarkup.Artifacts
