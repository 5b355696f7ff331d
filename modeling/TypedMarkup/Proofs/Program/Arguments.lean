import TypedMarkup.Program.Options

namespace TypedMarkup.Options

theorem argument_assigned {name value : String} (hne : name ≠ "") (he : '=' ∉ name.toList) :
    Argument.of ("--" ++ name ++ "=" ++ value) = .assigned name value := by
  have hall : ∀ c ∈ name.toList, (c != '=') = true := by
    intro c hc
    rw [bne_iff_ne]
    rintro rfl
    exact he hc
  obtain ⟨c, s, hs⟩ := List.exists_cons_of_ne_nil (mt String.toList_eq_nil_iff.mp hne)
  have ht : ("--" ++ name ++ "=" ++ value).toList =
      '-' :: '-' :: (name.toList ++ '=' :: value.toList) := by
    simp
  -- The first sign of equality is the one behind the name.
  have hd : (name.toList ++ '=' :: value.toList).dropWhile (· != '=') = '=' :: value.toList := by
    rw [List.dropWhile_append_of_pos hall]
    rfl
  have hk : (name.toList ++ '=' :: value.toList).takeWhile (· != '=') = name.toList := by
    rw [List.takeWhile_append_of_pos hall]
    simp
  unfold Argument.of
  rw [ht]
  rw [hs, List.cons_append] at hd hk ⊢
  simp only [hd, hk]
  rw [← hs, String.ofList_toList, String.ofList_toList]

theorem read_assigned {o : Options} {name value : String} {rest : List String} (hne : name ≠ "")
    (he : '=' ∉ name.toList) :
    o.read (("--" ++ name ++ "=" ++ value) :: rest) =
      match (valued? name).bind (o.set value) with
      | some o => o.read rest
      | .none => .misuse := by
  rw [read]
  cases hv : (valued? name).bind (o.set value) <;> simp only [argument_assigned hne he, hv]

theorem ofArguments_values {dir : String} (hd : dir ≠ "") (runtime : String) (check : Bool) :
    Request.ofArguments
        (["--out-dir=" ++ dir, "--runtime-path=" ++ runtime] ++ if check then ["--check"] else []) =
      .generate ⟨some dir, some runtime, check, false⟩ := by
  have hout : "--out-dir=" ++ dir = "--" ++ "out-dir" ++ "=" ++ dir := rfl
  have hrun : "--runtime-path=" ++ runtime = "--" ++ "runtime-path" ++ "=" ++ runtime := rfl
  have hset : (valued? "out-dir").bind (none.set dir) = some ⟨some dir, .none, false, false⟩ := by
    simp [valued?, set, none, hd]
  have hset' : (valued? "runtime-path").bind (Options.set ⟨some dir, .none, false, false⟩ runtime) =
      some ⟨some dir, some runtime, false, false⟩ := by
    simp [valued?, set]
  rw [Request.ofArguments, hout, hrun, List.cons_append, read_assigned (by decide) (by decide),
    hset]
  simp only [List.cons_append, List.nil_append]
  rw [read_assigned (by decide) (by decide), hset']
  cases check with
  | false => rfl
  | true => rfl

end TypedMarkup.Options
