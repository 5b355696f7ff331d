import Mathlib.Data.List.Forall2
import TypedMarkup.Artifact.Output
import TypedMarkup.Proofs.Storage.Execution

namespace TypedMarkup

open Storage

theorem fromUTF8?_eq_some {b : ByteArray} {s : String} :
    String.fromUTF8? b = some s ↔ b = s.toUTF8 := by
  unfold String.fromUTF8?
  constructor
  · intro h
    split at h
    · rw [← Option.some.inj h]
      rfl
    · cases h
  · rintro rfl
    exact dif_pos s.isValidUTF8

theorem fromUTF8?_eq_none {b : ByteArray} : String.fromUTF8? b = none ↔ ¬ b.IsValidUTF8 := by
  unfold String.fromUTF8?
  split <;> simp_all

structure Inspected where
  path : String
  contents : String
  answer : Except Fault ByteArray

namespace Inspected

def failure? (i : Inspected) : Option StorageError :=
  match i.answer with
  | .error e => if e = .notFound then none else some ⟨i.path, e⟩
  | .ok b => if b.IsValidUTF8 then none else some ⟨i.path, .notText⟩

def IsStale (i : Inspected) : Prop :=
  match i.answer with
  | .error e => e = .notFound
  | .ok b => b ≠ i.contents.toUTF8

instance : DecidablePred IsStale
  | ⟨_, _, .error e⟩ => inferInstanceAs (Decidable (e = .notFound))
  | ⟨_, contents, .ok b⟩ =>
    decidable_of_iff (b.data ≠ contents.toUTF8.data) (not_congr ByteArray.ext_iff.symm)

theorem current_iff {i : Inspected} :
    i.failure? = none ∧ ¬ i.IsStale ↔ i.answer = .ok i.contents.toUTF8 := by
  obtain ⟨path, contents, answer⟩ := i
  cases answer with
  | error e => simp [failure?, IsStale]
  | ok b =>
    have hvalid : b = contents.toUTF8 → b.IsValidUTF8 := fun h => h ▸ contents.isValidUTF8
    simpa [failure?, IsStale] using hvalid

theorem failure?_ne_none_iff {i : Inspected} :
    i.failure? ≠ none ↔
      (∃ e, i.answer = .error e ∧ e ≠ .notFound) ∨ ∃ b, i.answer = .ok b ∧ ¬ b.IsValidUTF8 := by
  obtain ⟨path, contents, answer⟩ := i
  cases answer <;> simp [failure?]

end Inspected

def comparison (is : List Inspected) : Except StorageError (List String) :=
  match is.findSome? Inspected.failure? with
  | some e => .error e
  | none => .ok ((is.filter (·.IsStale)).map Inspected.path)

theorem comparison_cons (i : Inspected) (is : List Inspected) :
    comparison (i :: is) =
      match i.failure? with
      | some e => .error e
      | none => if i.IsStale then (comparison is).map (i.path :: ·) else comparison is := by
  rw [comparison, comparison, List.findSome?_cons, List.filter_cons]
  cases i.failure? with
  | some e => rfl
  | none =>
    by_cases hs : i.IsStale <;>
      cases is.findSome? Inspected.failure? <;> simp [hs, Except.map]

namespace Artifact

def inspected (dir : String) (a : Artifact) (answer : Except Fault ByteArray) : Inspected :=
  ⟨a.destination dir, a.contents, answer⟩

def Inspects (fs : FileSystem) (dir : String) (a : Artifact) (i : Inspected) : Prop :=
  ∃ answer, (answer = fs.read (a.destination dir) ∨ ∃ e, answer = .error e) ∧
    a.inspected dir answer = i

end Artifact

section

variable {fs fs' : FileSystem} {dir : String} {a : Artifact} {as : List Artifact}
  {r : Except StorageError (List String)}

theorem staleAmong_cons (dir : String) (a : Artifact) (as : List Artifact) :
    staleAmong dir (a :: as) = .read (a.destination dir) fun answer =>
      match (a.inspected dir answer).failure? with
      | some e => .done (.error e)
      | none =>
        if (a.inspected dir answer).IsStale then
          .report
            ⟨.output, .warn, "generated file is out of date", [("path", a.destination dir)]⟩
            ((staleAmong dir as).bind fun r => .done (r.map (a.destination dir :: ·)))
        else staleAmong dir as := by
  rw [staleAmong]
  refine congrArg (Script.read _) (funext fun answer => ?_)
  cases answer with
  | error e => cases e <;> simp [Artifact.inspected, Inspected.failure?, Inspected.IsStale]
  | ok b =>
    cases hb : String.fromUTF8? b with
    | none =>
      have hfailure : (a.inspected dir (.ok b)).failure? = some ⟨a.destination dir, .notText⟩ :=
        if_neg (fromUTF8?_eq_none.mp hb)
      simp only [hb, hfailure]
    | some s =>
      obtain rfl := fromUTF8?_eq_some.mp hb
      have hfailure : (a.inspected dir (.ok s.toUTF8)).failure? = none := if_pos s.isValidUTF8
      have hstale : (a.inspected dir (.ok s.toUTF8)).IsStale ↔ s ≠ a.contents :=
        not_congr String.toByteArray_inj
      simp only [hb, hfailure, hstale, Option.some.injEq]
      by_cases hs : s = a.contents <;> simp [hs]

theorem within_staleAmong : (staleAmong dir as).Within fun _ => False := by
  induction as with
  | nil => trivial
  | cons a as ih =>
    rw [staleAmong_cons]
    intro answer
    dsimp only
    split
    · trivial
    · split
      · exact Script.Within.bind ih fun _ => trivial
      · exact ih

theorem exec_staleAmong (fs : FileSystem) (dir : String) (as : List Artifact) :
    (staleAmong dir as).exec fs =
      (comparison (as.map fun a => a.inspected dir (fs.read (a.destination dir))), fs) := by
  induction as with
  | nil => rfl
  | cons a as ih =>
    rw [staleAmong_cons, Script.exec_read, List.map_cons, comparison_cons]
    split
    · rfl
    · split
      · rw [Script.exec_report, Script.exec_bind, ih]
        rfl
      · exact ih

theorem forall₂_inspects (fs : FileSystem) (dir : String) (as : List Artifact) :
    List.Forall₂ (Artifact.Inspects fs dir) as
      (as.map fun a => a.inspected dir (fs.read (a.destination dir))) :=
  List.forall₂_map_right_iff.mpr (List.forall₂_same.mpr fun _ _ => ⟨_, .inl rfl, rfl⟩)

theorem ends_staleAmong_iff :
    (staleAmong dir as).Ends fs r fs' ↔
      fs' = fs ∧ ∃ is, List.Forall₂ (Artifact.Inspects fs dir) as is ∧ comparison is = r := by
  constructor
  · intro h
    refine ⟨h.eq_of_reading within_staleAmong, ?_⟩
    induction as generalizing r fs' with
    | nil =>
      cases h
      exact ⟨[], .nil, rfl⟩
    | cons a as ih =>
      rw [staleAmong_cons] at h
      cases h with
      | @read _ _ _ answer _ _ ha hk =>
        have hi : a.Inspects fs dir (a.inspected dir answer) := ⟨answer, ha, rfl⟩
        cases hf : (a.inspected dir answer).failure? with
        | some e =>
          -- Nothing more is read, so anything may be found at the other files.
          simp only [hf] at hk
          cases hk
          exact ⟨_, .cons hi (forall₂_inspects fs dir as), by rw [comparison_cons, hf]⟩
        | none =>
          by_cases hs : (a.inspected dir answer).IsStale
          · simp only [hf, if_pos hs] at hk
            cases hk with
            | report hk =>
              obtain ⟨r', fs₁, hr, hd⟩ := Script.ends_bind hk
              cases hd
              obtain ⟨is, his, rfl⟩ := ih hr
              exact ⟨_, .cons hi his, by simp only [comparison_cons, hf, if_pos hs]; rfl⟩
          · simp only [hf, if_neg hs] at hk
            obtain ⟨is, his, rfl⟩ := ih hk
            exact ⟨_, .cons hi his, by simp only [comparison_cons, hf, if_neg hs]⟩
  · rintro ⟨rfl, is, his, rfl⟩
    induction his with
    | nil => exact .done _ _
    | @cons a i as is hi his ih =>
      obtain ⟨answer, ha, rfl⟩ := hi
      rw [staleAmong_cons, comparison_cons]
      refine .read ha ?_
      split
      · exact .done _ _
      · split
        · exact .report (ih.bind (.done _ _))
        · exact ih

theorem comparison_eq_nil {is : List Inspected} :
    comparison is = .ok [] ↔ ∀ i ∈ is, i.answer = .ok i.contents.toUTF8 := by
  simp only [← Inspected.current_iff]
  rw [comparison]
  cases hfind : is.findSome? Inspected.failure? with
  | some e =>
    refine iff_of_false nofun fun h => ?_
    rw [List.findSome?_eq_none_iff.mpr fun i hi => (h i hi).1] at hfind
    cases hfind
  | none =>
    have hnone := List.findSome?_eq_none_iff.mp hfind
    simp +contextual [hnone]

theorem comparison_eq_error {is : List Inspected} :
    (∃ e, comparison is = .error e) ↔ ∃ i ∈ is, i.failure? ≠ none := by
  rw [comparison]
  cases hfind : is.findSome? Inspected.failure? with
  | some e =>
    obtain ⟨i, hi, he⟩ := List.exists_of_findSome?_eq_some hfind
    exact iff_of_true ⟨e, rfl⟩ ⟨i, hi, by simp [he]⟩
  | none =>
    have hnone := List.findSome?_eq_none_iff.mp hfind
    simp +contextual [hnone]

theorem exec_staleAmong_eq_nil :
    ((staleAmong dir as).exec fs).1 = .ok [] ↔
      ∀ a ∈ as, fs.read (a.destination dir) = .ok a.contents.toUTF8 := by
  rw [exec_staleAmong, comparison_eq_nil, List.forall_mem_map]
  rfl

theorem exec_staleAmong_eq_error :
    (∃ e, ((staleAmong dir as).exec fs).1 = .error e) ↔
      ∃ a ∈ as, (∃ e, fs.read (a.destination dir) = .error e ∧ e ≠ .notFound) ∨
        ∃ b, fs.read (a.destination dir) = .ok b ∧ ¬ b.IsValidUTF8 := by
  rw [exec_staleAmong, comparison_eq_error]
  simp only [Inspected.failure?_ne_none_iff, List.mem_map, exists_exists_and_eq_and,
    Artifact.inspected]

end

theorem stale_compares (fs : FileSystem) (dir : String) (a : Artifacts) :
    (a.stale dir).exec fs =
      (comparison [a.builder.inspected dir (fs.read (a.builder.destination dir)),
        a.tests.inspected dir (fs.read (a.tests.destination dir))], fs) ∧
    ((∃ e, ((a.stale dir).exec fs).1 = .error e) ↔
      ∃ x ∈ a.toList, (∃ e, fs.read (x.destination dir) = .error e ∧ e ≠ .notFound) ∨
        ∃ b, fs.read (x.destination dir) = .ok b ∧ ¬ b.IsValidUTF8) ∧
    (((a.stale dir).exec fs).1 = .ok [] ↔
      ∀ x ∈ a.toList, fs.read (x.destination dir) = .ok x.contents.toUTF8) ∧
    ∀ r fs', (a.stale dir).Ends fs r fs' ↔ fs' = fs ∧
      ∃ b t, a.builder.Inspects fs dir b ∧ a.tests.Inspects fs dir t ∧ comparison [b, t] = r := by
  refine ⟨exec_staleAmong fs dir a.toList, exec_staleAmong_eq_error, exec_staleAmong_eq_nil,
    fun r fs' => ?_⟩
  rw [Artifacts.stale, ends_staleAmong_iff]
  refine and_congr_right fun _ => ⟨?_, ?_⟩
  · rintro ⟨is, his, hr⟩
    obtain ⟨b, rest, hb, hrest, rfl⟩ := List.forall₂_cons_left_iff.mp his
    obtain ⟨t, none, ht, hnone, rfl⟩ := List.forall₂_cons_left_iff.mp hrest
    obtain rfl := List.forall₂_nil_left_iff.mp hnone
    exact ⟨b, t, hb, ht, hr⟩
  · rintro ⟨b, t, hb, ht, hr⟩
    exact ⟨[b, t], .cons hb (.cons ht .nil), hr⟩

end TypedMarkup
