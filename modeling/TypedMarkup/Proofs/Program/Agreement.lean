import TypedMarkup.Program.Command
import TypedMarkup.Proofs.Artifact.Endings
import TypedMarkup.Proofs.Artifact.Grammatical
import TypedMarkup.Proofs.Artifact.Stale
import TypedMarkup.Proofs.Program.Arguments
import TypedMarkup.Proofs.Vocabulary.Builtin

namespace TypedMarkup

open Storage Storage.FileSystem

variable {fs fs' : FileSystem} {c : Config} {a : Artifacts} {dir : String}

namespace Config

theorem reports_rendering (c : Config) (b : Except MissingKey Table) : (c.rendering b).Reports := by
  cases b with
  | error e => exact .done _
  | ok t =>
    refine .report ?_
    cases t.render c with
    | error e => exact .done _
    | ok a => exact .report (.done _)

theorem exec_rendering (c : Config) (b : Except MissingKey Table) (fs : FileSystem) :
    (c.rendering b).exec fs = (c.generateFrom b, fs) := by
  cases b with
  | error e => rfl
  | ok t =>
    simp only [rendering, Script.exec_report, generateFrom]
    cases t.render c with
    | error e => rfl
    | ok a => rfl

theorem reports_generating (c : Config) : c.generating.Reports :=
  .bind (.report (.done ())) fun _ => c.reports_rendering _

theorem exec_generating (c : Config) (fs : FileSystem) :
    c.generating.exec fs = (c.generate, fs) := by
  have hb : builtinReport.exec fs = ((), fs) := by
    unfold builtinReport Script.tell
    simp only [Script.exec_report, Script.exec_done]
  rw [generating, Script.exec_bind, hb]
  exact exec_rendering c _ fs

theorem exec_run_refused {e : GenerationError} (h : c.generate = .error e) :
    c.run.exec fs = (.error (.generation e), fs) := by
  rw [run, Script.exec_bind, exec_generating, h]
  rfl

theorem exec_run (h : c.generate = .ok a) :
    c.run.exec fs =
      (((a.write c.outDir).exec fs).1.mapError .storage, ((a.write c.outDir).exec fs).2) := by
  rw [run, Script.exec_bind, exec_generating, h]
  simp only [Script.exec_bind, Script.exec_done]

theorem exec_run_ok {ps : List String} :
    c.run.exec fs = (.ok ps, fs') ↔
      ∃ a, c.generate = .ok a ∧ (a.write c.outDir).exec fs = (.ok ps, fs') := by
  cases hg : c.generate with
  | error e =>
    rw [exec_run_refused hg]
    simp
  | ok a =>
    rw [exec_run hg]
    cases hx : (a.write c.outDir).exec fs with
    | mk r fs₁ => cases r <;> simp [hx, Except.mapError]

theorem generate_ok {path : String} (h : c.importPath = .ok path) : ∃ a, c.generate = .ok a := by
  obtain ⟨t, ht⟩ := Table.builtin_ok
  rw [generate, ht]
  exact ⟨_, render_of_importPath t h⟩

theorem fileNames_of_generateFrom {b : Except MissingKey Table} (h : c.generateFrom b = .ok a) :
    a.builder.fileName = c.builderFile ∧ a.tests.fileName = c.testFile := by
  cases b with
  | error e => cases h
  | ok t =>
    obtain ⟨path, -, rfl⟩ := render_ok h
    exact ⟨rfl, rfl⟩

theorem fileNames_of_generate (h : c.generate = .ok a) :
    a.builder.fileName = c.builderFile ∧ a.tests.fileName = c.testFile :=
  fileNames_of_generateFrom h

end Config

theorem destination_of_generate (h : c.generate = .ok a) :
    a.builder.destination c.outDir = c.builderPath ∧ a.tests.destination c.outDir = c.testPath := by
  obtain ⟨hb, ht⟩ := Config.fileNames_of_generate h
  rw [Artifact.destination_eq, Artifact.destination_eq, hb, ht]
  exact ⟨rfl, rfl⟩

theorem ofTexts_of_generate (h : c.generate = .ok a)
    (hb : c.builderFile = Config.standard.builderFile)
    (ht : c.testFile = Config.standard.testFile) : ∃ b t, a = Artifacts.ofTexts b t := by
  obtain ⟨hb', ht'⟩ := Config.fileNames_of_generate h
  obtain ⟨⟨b, bs⟩, ⟨t, ts⟩⟩ := a
  obtain rfl : b = _ := hb'.trans hb
  obtain rfl : t = _ := ht'.trans ht
  exact ⟨bs, ts, rfl⟩

namespace Artifacts

theorem find_of_ends_write {r : Except StorageError (List String)} (h : a.Apart)
    (hw : (a.write dir).Ends fs r fs')
    (hf : ∀ x ∈ a.toList, fs.find (x.destination dir) = .ok (.file x.contents.toUTF8)) :
    ∀ x ∈ a.toList, fs'.find (x.destination dir) = .ok (.file x.contents.toUTF8) := by
  have hs : SameDirectories fs fs' := hw.same_directories
  obtain ⟨p, hp, hb⟩ := leads_of_find (hf a.builder (by simp [toList]))
  obtain ⟨q, hq, ht⟩ := leads_of_find (hf a.tests (by simp [toList]))
  have hpq : p ≠ q := by
    rintro rfl
    exact h.names_ne.2.2 (ne_of_leads h (by simp [names]) (by simp [names]) hp hq)
  have hp' : ¬ a.Temporary fs dir p := not_temporary h (by simp [toList]) hp
  have hq' : ¬ a.Temporary fs dir q := not_temporary h (by simp [toList]) hq
  -- A file is replaced by what it holds already, if at all.
  have hkeep : fs'.node? p = fs.node? p ∧ fs'.node? q = fs.node? q := by
    cases ends_write h hw with
    | nothing _ hn => exact ⟨hn p hp', hn q hq'⟩
    | builder hr hn =>
      obtain rfl := hp.unique hr
      rw [hn _ hp', hn _ hq', if_pos rfl, if_neg hpq.symm]
      exact ⟨hb.symm, rfl⟩
    | both hr ht' hn =>
      obtain rfl := hp.unique hr
      obtain rfl := hq.unique ht'
      rw [hn _ hp', hn _ hq', if_neg hpq, if_pos rfl, if_pos rfl]
      exact ⟨hb.symm, ht.symm⟩
  intro x hx
  simp only [toList, List.mem_cons, List.not_mem_nil, or_false] at hx
  rcases hx with rfl | rfl
  · rw [find_eq_ok (hs.leads hp), hkeep.1, hb]
  · rw [find_eq_ok (hs.leads hq), hkeep.2, ht]

end Artifacts

namespace Options

theorem ends_carryOut {o : Options} {n : Nat} (h : o.carryOut.Ends fs n fs') :
    (∃ e, o.config.generate = .error e ∧ fs' = fs) ∨
      ∃ a, o.config.generate = .ok a ∧
        (if o.check then check? o.config.outDir a else write o.config.outDir a).Ends fs n fs' := by
  rw [carryOut] at h
  obtain ⟨x, fs₁, hg, hk⟩ := Script.ends_bind h
  have hx := (Config.reports_generating o.config).ends hg
  rw [Config.exec_generating, Prod.mk.injEq] at hx
  rw [hx.1, hx.2] at hk
  cases hc : o.config.generate with
  | error e =>
    rw [hc] at hk
    have hf : (failing ("failed to generate the element builders" :: e.causes)).Reports :=
      .report (.done 1)
    exact .inl ⟨e, rfl, congrArg Prod.snd (hf.ends hk)⟩
  | ok a =>
    rw [hc] at hk
    exact .inr ⟨a, rfl, hk⟩

theorem within_check (dir : String) (a : Artifacts) : (check? dir a).Within fun _ => False := by
  refine Script.Within.bind within_staleAmong fun r => ?_
  cases r with
  | error e => trivial
  | ok ps => cases ps <;> trivial

theorem exec_check_eq_zero :
    ((check? dir a).exec fs).1 = 0 ↔ ((a.stale dir).exec fs).1 = .ok [] := by
  rw [check?, Script.exec_bind]
  cases ((a.stale dir).exec fs).1 with
  | error e => simp [failing]
  | ok ps => cases ps <;> simp [failing, succeeding]

theorem exec_check (h : ((a.stale dir).exec fs).1 = .ok []) : (check? dir a).exec fs = (0, fs) := by
  have hw := ((check? dir a).ends_exec fs).eq_of_reading (within_check dir a)
  exact Prod.ext (exec_check_eq_zero.mpr h) hw

theorem exec_carryOut {o : Options} (h : o.config.generate = .ok a) (fs : FileSystem) :
    o.carryOut.exec fs =
      (if o.check then check? o.config.outDir a else write o.config.outDir a).exec fs := by
  rw [carryOut, Script.exec_bind, Config.exec_generating, h]

theorem exec_carryOut_refused {o : Options} {e : GenerationError} (h : o.config.generate = .error e)
    (fs : FileSystem) : (o.carryOut.exec fs).1 = 1 := by
  rw [carryOut, Script.exec_bind, Config.exec_generating, h]
  rfl

theorem ends_write_script {n : Nat} (h : (write dir a).Ends fs n fs') :
    ∃ r, (a.write dir).Ends fs r fs' := by
  obtain ⟨r, fs₁, hw, hk⟩ := Script.ends_bind h
  cases r with
  | error e =>
    have hf : (failing (("failed to write into " ++ dir) :: e.causes)).Reports := .report (.done 1)
    have hx : fs' = fs₁ := congrArg Prod.snd (hf.ends hk)
    exact ⟨_, hx ▸ hw⟩
  | ok ps =>
    have hf : (succeeding "done" [("files", toString ps.length)]).Reports := .report (.done 0)
    have hx : fs' = fs₁ := congrArg Prod.snd (hf.ends hk)
    exact ⟨_, hx ▸ hw⟩

end Options

def optionsFor (dir runtime : String) (check : Bool) : Options :=
  ⟨some dir, some runtime, check, false⟩

def configFor (dir runtime : String) : Config :=
  { Config.standard with outDir := dir, runtimePath := runtime }

def commandFor (dir runtime : String) (check : Bool) (filter : Option String) : Script Outcome :=
  command
    (["--out-dir=" ++ dir, "--runtime-path=" ++ runtime] ++ if check then ["--check"] else [])
    filter

section

variable {runtime : String} {check : Bool} {filter : Option String} {r : Outcome}

theorem config_optionsFor : (optionsFor dir runtime check).config = configFor dir runtime := rfl

theorem commandFor_eq (hd : dir ≠ "") :
    commandFor dir runtime check filter =
      ((optionsFor dir runtime check).carryOut.showing (filterOf filter false).shows).bind
        fun code => .done ⟨code, ""⟩ := by
  rw [commandFor, command, Options.ofArguments_values hd]
  rfl

theorem exec_commandFor (hd : dir ≠ "") :
    (commandFor dir runtime check filter).exec fs =
      (⟨((optionsFor dir runtime check).carryOut.exec fs).1, ""⟩,
        ((optionsFor dir runtime check).carryOut.exec fs).2) := by
  rw [commandFor_eq hd, Script.exec_bind, Script.exec_showing, Script.exec_done]

theorem ends_commandFor (hd : dir ≠ "") (h : (commandFor dir runtime check filter).Ends fs r fs') :
    ∃ n, (optionsFor dir runtime check).carryOut.Ends fs n fs' := by
  rw [commandFor_eq hd] at h
  obtain ⟨n, fs₁, hs, hk⟩ := Script.ends_bind h
  cases hk
  exact ⟨n, Script.ends_showing hs⟩

theorem exec_commandFor_current (hd : dir ≠ "") (hg : (configFor dir runtime).generate = .ok a)
    (hs : ((a.stale dir).exec fs).1 = .ok []) :
    (commandFor dir runtime true filter).exec fs = (⟨0, ""⟩, fs) := by
  have hc : (optionsFor dir runtime true).carryOut.exec fs = (0, fs) := by
    rw [Options.exec_carryOut (config_optionsFor ▸ hg)]
    exact Options.exec_check hs
  rw [exec_commandFor hd, hc]

theorem of_exec_commandFor_check (hd : dir ≠ "")
    (h : ((commandFor dir runtime true filter).exec fs).1.code = 0) :
    ∃ a, (configFor dir runtime).generate = .ok a ∧ ((a.stale dir).exec fs).1 = .ok [] := by
  rw [exec_commandFor hd] at h
  cases hg : (configFor dir runtime).generate with
  | error e =>
    rw [Options.exec_carryOut_refused (config_optionsFor ▸ hg)] at h
    cases h
  | ok a =>
    rw [Options.exec_carryOut (config_optionsFor ▸ hg)] at h
    exact ⟨a, rfl, Options.exec_check_eq_zero.mp h⟩

theorem ends_commandFor_check (hd : dir ≠ "")
    (h : (commandFor dir runtime true filter).Ends fs r fs') : fs' = fs := by
  obtain ⟨n, hn⟩ := ends_commandFor hd h
  rcases Options.ends_carryOut hn with ⟨e, -, rfl⟩ | ⟨a, -, hw⟩
  · rfl
  · exact hw.eq_of_reading (Options.within_check _ a)

theorem ends_commandFor_write (hd : dir ≠ "") (hg : (configFor dir runtime).generate = .ok a)
    (h : (commandFor dir runtime false filter).Ends fs r fs') :
    ∃ w, (a.write dir).Ends fs w fs' := by
  obtain ⟨n, hn⟩ := ends_commandFor hd h
  rcases Options.ends_carryOut hn with ⟨e, he, -⟩ | ⟨a', hg', hw⟩
  · rw [config_optionsFor, hg] at he
    cases he
  · rw [config_optionsFor, hg] at hg'
    obtain rfl : a' = a := (Except.ok.inj hg').symm
    exact Options.ends_write_script hw

theorem exec_run_configFor {ps : List String} (hg : (configFor dir runtime).generate = .ok a)
    (hw : ((a.write dir).exec fs).1 = .ok ps) :
    (configFor dir runtime).run.exec fs = (.ok ps, ((a.write dir).exec fs).2) := by
  have hx : (a.write dir).exec fs = (.ok ps, ((a.write dir).exec fs).2) := by
    rw [← hw]
  exact Config.exec_run_ok.mpr ⟨a, hg, hx⟩

theorem apart_of_generate (hg : (configFor dir runtime).generate = .ok a) : a.Apart := by
  obtain ⟨b, t, rfl⟩ := ofTexts_of_generate hg rfl rfl
  exact Artifacts.apart_ofTexts b t

end

theorem write_and_check_agree (fs : FileSystem) {dir : String} (hd : dir ≠ "") (runtime : String) :
    let c := configFor dir runtime
    (∀ e, c.generate = .error e → c.run.exec fs = (.error (.generation e), fs)) ∧
    (∀ paths fs', c.run.exec fs = (.ok paths, fs') →
      paths = [c.builderPath, c.testPath] ∧
      ∃ a, c.generate = .ok a ∧
        fs'.read c.builderPath = .ok a.builder.contents.toUTF8 ∧
        fs'.read c.testPath = .ok a.tests.contents.toUTF8 ∧
        (a.stale dir).exec fs' = (.ok [], fs') ∧
        (∀ filter, (commandFor dir runtime true filter).exec fs' = (⟨0, ""⟩, fs')) ∧
        ∃ fs'', c.run.exec fs' = (.ok paths, fs'') ∧
          fs''.home = fs'.home ∧ ∀ q, fs''.node? q = fs'.node? q) ∧
    (∀ filter, ((commandFor dir runtime true filter).exec fs).1.code = 0 →
      ∀ filter' r fs', (commandFor dir runtime false filter').Ends fs r fs' →
        fs'.find c.builderPath = fs.find c.builderPath ∧
        fs'.find c.testPath = fs.find c.testPath) ∧
    ∀ filter r fs', (commandFor dir runtime true filter).Ends fs r fs' → fs' = fs := by
  intro c
  refine ⟨fun e he => Config.exec_run_refused he, fun paths fs' hr => ?_, fun filter hc => ?_,
    fun filter r fs' h => ?_⟩
  · obtain ⟨a, hg, hw⟩ := Config.exec_run_ok.mp hr
    have ha : a.Apart := apart_of_generate hg
    have hf := Artifacts.find_of_exec_write_ok ha hw
    -- What has been written is read back, so nothing is stale.
    have hs : ((a.stale dir).exec fs').1 = .ok [] :=
      exec_staleAmong_eq_nil.mpr fun x hx => read_eq_ok.mpr (hf x hx)
    obtain ⟨hagain, hsame⟩ := Artifacts.exec_write_again ha hw
    have hrun : c.run.exec fs' = (.ok paths, ((a.write dir).exec fs').2) :=
      exec_run_configFor hg hagain
    obtain ⟨hb, ht⟩ := destination_of_generate hg
    refine ⟨?_, a, hg, ?_, ?_, ?_, fun filter => ?_, _, hrun, ?_, hsame⟩
    · rw [← hb, ← ht]
      exact (Artifacts.of_exec_write_ok ha hw).2.1
    · rw [← hb]
      exact read_eq_ok.mpr (hf a.builder (by simp [Artifacts.toList]))
    · rw [← ht]
      exact read_eq_ok.mpr (hf a.tests (by simp [Artifacts.toList]))
    · exact Prod.ext hs (((a.stale dir).ends_exec fs').eq_of_reading within_staleAmong)
    · exact exec_commandFor_current hd hg hs
    · exact ((a.write dir).ends_exec fs').same_directories.home
  · obtain ⟨a, hg, hs⟩ := of_exec_commandFor_check hd hc
    have hf : ∀ x ∈ a.toList, fs.find (x.destination dir) = .ok (.file x.contents.toUTF8) :=
      fun x hx => read_eq_ok.mp (exec_staleAmong_eq_nil.mp hs x hx)
    obtain ⟨hb, ht⟩ := destination_of_generate hg
    intro filter' r fs' h
    obtain ⟨w, hw⟩ := ends_commandFor_write hd hg h
    have hf' := Artifacts.find_of_ends_write (apart_of_generate hg) hw hf
    rw [← hb, ← ht]
    exact ⟨(hf' _ (by simp [Artifacts.toList])).trans (hf _ (by simp [Artifacts.toList])).symm,
      (hf' _ (by simp [Artifacts.toList])).trans (hf _ (by simp [Artifacts.toList])).symm⟩
  · exact ends_commandFor_check hd h

theorem generate_standard : ∃ a, (configFor "." "super").generate = .ok a := by
  have hp : (configFor "." "super").importPath = .ok "super" := by decide
  exact Config.generate_ok hp

theorem write_and_check_agree_on_nothing :
    let fs : FileSystem := ⟨[], []⟩
    "." ≠ "" ∧ ∃ fs',
      (configFor "." "super").run.exec fs = (.ok ["./html_gen.rs", "./html_gen_test.rs"], fs') ∧
        (commandFor "." "super" true none).exec fs' = (⟨0, ""⟩, fs') := by
  intro fs
  obtain ⟨a, hg⟩ := generate_standard
  obtain ⟨b, t, rfl⟩ := ofTexts_of_generate hg rfl rfl
  have hn : ∀ n ∈ (Artifacts.ofTexts b t).names, fs.refusal? "." n = none := by
    rw [Artifacts.names_ofTexts]
    decide
  have hr : (((Artifacts.ofTexts b t).write ".").exec fs).1 =
      .ok ["./html_gen.rs", "./html_gen_test.rs"] := by
    rw [Artifacts.exec_write_result (Artifacts.apart_ofTexts b t) (by decide),
      Artifacts.refused?_eq_none.mpr hn]
    have hj : [Path.join "." "html_gen.rs", Path.join "." "html_gen_test.rs"] =
        ["./html_gen.rs", "./html_gen_test.rs"] := by decide
    exact congrArg Except.ok hj
  have hw : (configFor "." "super").run.exec fs = (.ok ["./html_gen.rs", "./html_gen_test.rs"],
      (((Artifacts.ofTexts b t).write ".").exec fs).2) := exec_run_configFor hg hr
  have hd : "." ≠ "" := by decide
  obtain ⟨-, -, -, -, -, -, hcheck, -⟩ := (write_and_check_agree fs hd "super").2.1 _ _ hw
  exact ⟨hd, _, hw, hcheck none⟩

end TypedMarkup
