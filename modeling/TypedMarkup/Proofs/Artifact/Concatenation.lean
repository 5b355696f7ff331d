import TypedMarkup.Proofs.Artifact.Locality

namespace TypedMarkup

open Code Layout

structure Concatenates (text : List Element → String) (part : Element → String) : Prop where
  append : ∀ t u, ∃ rest, text u = text [] ++ rest ∧ text (t ++ u) = text t ++ rest
  inserted : ∀ before after, ∃ rest, text (before ++ after) = text before ++ rest ∧
    ∀ e, text (before ++ e :: after) = text before ++ part e ++ rest

theorem concatenates_of_join {text : List Element → String} {part : Element → String} {s : String}
    (h : ∀ t, text t = s ++ String.join (t.map part)) : Concatenates text part where
  append t u := by
    refine ⟨String.join (u.map part), ?_, ?_⟩
    · rw [h, h []]
      simp
    · rw [h, h t, List.map_append, String.join_append, String.append_assoc]
  inserted before after := by
    refine ⟨String.join (after.map part), ?_, fun e => ?_⟩
    · rw [h, h before, List.map_append, String.join_append, String.append_assoc]
    · rw [h, h before, List.map_append, String.join_append, List.map_cons, String.join_cons]
      simp only [String.append_assoc]

theorem builderText_eq_join (path : String) (t : List Element) :
    builderText path ⟨t⟩ =
      preamble ++ textOf (importLines path runtimeNames) ++
        String.join (t.map Element.builderPart) := by
  rw [← join_builderParts, builderParts, String.join_cons]

theorem smokeText_eq_join (t : List Element) :
    smokeText ⟨t⟩ =
      textOf (header ++ [⟨0, "use super::*;"⟩]) ++ String.join (t.map Element.testPart) := by
  rw [← join_testParts, testParts, String.join_cons]

theorem emission_appends {c : Config} {n : Artifacts} (h : Table.render ⟨[]⟩ c = .ok n) :
    ∃ a : List Element → Artifacts, (∀ t, Table.render ⟨t⟩ c = .ok (a t)) ∧
      Concatenates (fun t => (a t).builder.contents) Element.builderPart ∧
      Concatenates (fun t => (a t).tests.contents) Element.testPart := by
  obtain ⟨path, hpath, -⟩ := render_ok h
  refine ⟨_, fun t => render_of_importPath ⟨t⟩ hpath, ?_, ?_⟩
  · exact concatenates_of_join (builderText_eq_join path)
  · exact concatenates_of_join smokeText_eq_join

def narrowElement : Element :=
  .named "A" .container "is narrow."

def wideElement : Element :=
  .named "AnElementWhoseNameLeavesNoRoomOnALineOfTheGeneratedCodeForAnythingThatComesBehindIt"
    .restricted "is wide."

theorem emission_appends_around_wide :
    ∃ a b s rest, Table.render ⟨[narrowElement]⟩ .standard = .ok a ∧
      Table.render ⟨[narrowElement, narrowElement]⟩ .standard = .ok b ∧
      Table.render ⟨[narrowElement, wideElement, narrowElement]⟩ .standard = .ok s ∧
      b.builder.contents = a.builder.contents ++ rest ∧
      s.builder.contents = a.builder.contents ++ wideElement.builderPart ++ rest := by
  have hpath : Config.standard.importPath = .ok "super" := by decide
  obtain ⟨a, ha, hbuilder, -⟩ := emission_appends (render_of_importPath ⟨[]⟩ hpath)
  obtain ⟨rest, hrest, hinserted⟩ := hbuilder.inserted [narrowElement] [narrowElement]
  exact ⟨_, _, _, rest, ha _, ha _, ha _, hrest, hinserted wideElement⟩

end TypedMarkup
