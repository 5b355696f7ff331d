import TypedMarkup.Proofs.Artifact.Calls

namespace TypedMarkup

open Code Layout

def ImportsFrom (contents path : String) : Prop :=
  ∃ inside rest : String,
    contents = preamble ++ "use " ++ path ++ "::\x7b" ++ inside ++ "\x7d;" ++ rest ∧
      rest = afterImport contents ∧
      (solid inside.toList = importedNames.toList ∨
        solid inside.toList = importedNames.toList ++ [','])

theorem importsFrom_builderText {path : String} (h : ';' ∉ path.toList) (t : Table) :
    ImportsFrom (builderText path t) path := by
  obtain ⟨inside, himport, hinside⟩ := toList_importLines path
  refine ⟨String.ofList inside, "\n" ++ itemsText t, ?_, (afterImport_builderText h t).symm, ?_⟩
  · rw [← String.toList_inj, builderText_eq, String.toList_append, String.toList_append, himport]
    simp
  · rwa [String.toList_ofList]

theorem render_alike (c : Config) (t u : Table) :
    (∃ e, t.render c = .error e ∧ u.render c = .error e) ∨
      ∃ a b, t.render c = .ok a ∧ u.render c = .ok b := by
  cases hpath : c.importPath with
  | error e =>
    refine .inl ⟨e, ?_, ?_⟩
    · rw [Table.render_eq, hpath, Except.map]
    · rw [Table.render_eq, hpath, Except.map]
  | ok path => exact .inr ⟨_, _, render_of_importPath t hpath, render_of_importPath u hpath⟩

theorem render_plainPath {c : Config} {rooted : Bool} {names : List String} (hne : names ≠ [])
    (h : ∀ w ∈ names, isSegmentName w) (hpath : c.runtimePath = plainPath rooted names)
    (t : Table) : ∃ a, t.render c = .ok a ∧ ImportsFrom a.builder.contents c.runtimePath := by
  obtain ⟨w, ws, rfl⟩ := List.exists_cons_of_ne_nil hne
  rw [List.forall_mem_cons] at h
  have haccepted := importPath_of_plainPath h.1 h.2 hpath
  refine ⟨_, render_of_importPath t haccepted, ?_⟩
  exact importsFrom_builderText (semicolon_not_mem_importPath haccepted) t

theorem render_otherPath {c d : Config} {t : Table} {a b : Artifacts} (ha : t.render c = .ok a)
    (hb : t.render d = .ok b) :
    a.tests.contents = b.tests.contents ∧
      afterImport a.builder.contents = afterImport b.builder.contents := by
  obtain ⟨path, hpath, rfl⟩ := render_ok ha
  obtain ⟨path', hpath', rfl⟩ := render_ok hb
  refine ⟨rfl, ?_⟩
  simp only [afterImport_builderText (semicolon_not_mem_importPath hpath),
    afterImport_builderText (semicolon_not_mem_importPath hpath')]

theorem accepted_of_render {c : Config} {t : Table} {a : Artifacts} (h : t.render c = .ok a)
    (u : Table) :
    Grammar.readAll Grammar.file (builderTokens c.runtimePath u) = .ok () ∧
      Grammar.readAll Grammar.file (smokeTokens u) = .ok () := by
  obtain ⟨path, hpath, -⟩ := render_ok h
  obtain ⟨p, hparse, hnone, -⟩ := importPath_eq_ok hpath
  refine ⟨?_, readAll_tests u⟩
  rw [readAll_builder hparse, hnone]
  rfl

theorem readable_of_render {c : Config} {t : Table} {a : Artifacts} (h : t.render c = .ok a) :
    (outline (withoutNotes (afterImport a.builder.contents))).isSome ∧
      (tests a.tests.contents).isSome := by
  rw [outline_builder h, tests_contents h]
  exact ⟨rfl, rfl⟩

theorem render_decided_by_path :
    (∀ (c : Config) (t u : Table),
      (∃ e, t.render c = .error e ∧ u.render c = .error e) ∨
        ∃ a b, t.render c = .ok a ∧ u.render c = .ok b) ∧
    (∀ (c : Config) (t : Table) (a : Artifacts), t.render c = .ok a → ∀ u : Table,
      Grammar.readAll Grammar.file (builderTokens c.runtimePath u) = .ok () ∧
        Grammar.readAll Grammar.file (smokeTokens u) = .ok ()) ∧
    (∀ (c : Config) (t : Table) (a : Artifacts), t.render c = .ok a →
      (outline (withoutNotes (afterImport a.builder.contents))).isSome ∧
        (tests a.tests.contents).isSome) ∧
    (∀ (rooted : Bool) (names : List String), names ≠ [] → (∀ w ∈ names, isSegmentName w) →
      ∀ c : Config, c.runtimePath = plainPath rooted names → ∀ t : Table,
        ∃ a, t.render c = .ok a ∧ ImportsFrom a.builder.contents c.runtimePath) ∧
    ∀ (c d : Config) (t : Table) (a b : Artifacts), t.render c = .ok a → t.render d = .ok b →
      a.tests.contents = b.tests.contents ∧
        afterImport a.builder.contents = afterImport b.builder.contents :=
  ⟨render_alike, fun _ _ _ => accepted_of_render, fun _ _ _ => readable_of_render,
    fun _ _ hne h _ hpath t => render_plainPath hne h hpath t, fun _ _ _ _ _ => render_otherPath⟩

def importingConfig (path : String) : Config :=
  { Config.standard with runtimePath := path }

theorem render_decided_by_path_of_module :
    ∃ a b, (documentedTable "").render (importingConfig "::web_ui::runtime") = .ok a ∧
      ImportsFrom a.builder.contents "::web_ui::runtime" ∧
      (documentedTable "").render .standard = .ok b ∧
      a.tests.contents = b.tests.contents ∧
      afterImport a.builder.contents = afterImport b.builder.contents ∧
      Grammar.readAll Grammar.file (builderTokens "super" (documentedTable "9")) = .ok () ∧
      (outline (withoutNotes (afterImport a.builder.contents))).isSome ∧
      (tests a.tests.contents).isSome := by
  obtain ⟨-, haccepted, hread, hplain, hother⟩ := render_decided_by_path
  obtain ⟨a, ha, himport⟩ := hplain true ["web_ui", "runtime"] (by decide) (by decide)
    (importingConfig "::web_ui::runtime") (by decide) (documentedTable "")
  obtain ⟨b, hb, -⟩ := hplain false ["super"] (by decide) (by decide) .standard (by decide)
    (documentedTable "")
  obtain ⟨htests, hbuilder⟩ := hother _ _ _ a b ha hb
  have hbuilt := (haccepted _ _ b hb (documentedTable "9")).1
  exact ⟨a, b, ha, himport, hb, htests, hbuilder, hbuilt, hread _ _ a ha⟩

end TypedMarkup
