import TypedMarkup.Proofs.Code.Legible

namespace TypedMarkup.Code

open Token

structure IsLegal (s : String) : Prop where
  spelling : isName s.toList ∧ s ≠ "_" ∧ s ∉ keywords ∨ ∃ k ∈ keywords, k ∉ neverRaw ∧ s = "r#" ++ k
  making : ∃ t, wordOf s.toList = some (t, []) ∧ t.name? = some s

theorem mem_keywords_of_neverRaw : ∀ k ∈ neverRaw, k ∈ keywords := by
  decide

theorem identifier_of_neverRaw {w : String} (h : w ∈ neverRaw) : identifier w = w ++ "_" := by
  simp [identifier, h]

theorem identifier_of_keyword {w : String} (h : w ∈ keywords) (hn : w ∉ neverRaw) :
    identifier w = "r#" ++ w := by
  simp [identifier, h, hn]

theorem identifier_of_not_keyword {w : String} (h : w ∉ keywords) : identifier w = w := by
  have hn : w ∉ neverRaw := fun hw => h (mem_keywords_of_neverRaw w hw)
  simp [identifier, h, hn]

theorem identifier_cases (w : String) :
    w ∈ neverRaw ∧ identifier w = w ++ "_" ∨
      w ∈ keywords ∧ w ∉ neverRaw ∧ identifier w = "r#" ++ w ∨
      w ∉ keywords ∧ identifier w = w := by
  by_cases hn : w ∈ neverRaw
  · exact .inl ⟨hn, identifier_of_neverRaw hn⟩
  · by_cases h : w ∈ keywords
    · exact .inr (.inl ⟨h, hn, identifier_of_keyword h hn⟩)
    · exact .inr (.inr ⟨h, identifier_of_not_keyword h⟩)

theorem lengthened_not_keyword : ∀ k ∈ neverRaw, k ++ "_" ∉ keywords := by
  decide

theorem isLegal_of_isName {s : String} (h : isName s.toList) (hk : s ∉ keywords) : IsLegal s where
  spelling := .inl ⟨h, fun hs => hk (hs ▸ by decide), hk⟩
  making := by
    have hword := wordOf_name h clear_nil.apart
    rw [List.append_nil, String.ofList_toList] at hword
    exact ⟨_, hword, rfl⟩

theorem isLegal_of_keyword {k : String} (h : isName k.toList) (hk : k ∈ keywords)
    (hn : k ∉ neverRaw) : IsLegal ("r#" ++ k) where
  spelling := .inr ⟨k, hk, hn, rfl⟩
  making := by
    have hraw : String.ofList k.toList ∉ ["_", "super", "self", "Self", "crate"] := by
      simp only [neverRaw, List.mem_cons, List.not_mem_nil, or_false] at hn
      simp only [String.ofList_toList, List.mem_cons, List.not_mem_nil, or_false]
      tauto
    have hword := wordOf_raw h hraw clear_nil.apart
    rw [List.append_nil, String.ofList_toList] at hword
    exact ⟨_, by simpa using hword, rfl⟩

theorem isLegal_identifier {w : String} (h : isName w.toList) : IsLegal (identifier w) := by
  rcases identifier_cases w with ⟨hn, hw⟩ | ⟨hk, hn, hw⟩ | ⟨hk, hw⟩
  · rw [hw]
    refine isLegal_of_isName ?_ (lengthened_not_keyword w hn)
    rw [String.toList_append]
    exact isName_append h (by decide)
  · rw [hw]
    exact isLegal_of_keyword h hk hn
  · rw [hw]
    exact isLegal_of_isName h hk

theorem raw_ne {v w : String} (h : '#' ∉ w.toList) : "r#" ++ v ≠ w := by
  rintro rfl
  simp at h

def Meet (v w : String) : Prop :=
  ∃ k ∈ neverRaw, v = k ∧ w = k ++ "_" ∨ v = k ++ "_" ∧ w = k

theorem identifier_of_lengthened {k : String} (h : k ∈ neverRaw) :
    identifier (k ++ "_") = identifier k := by
  rw [identifier_of_neverRaw h, identifier_of_not_keyword (lengthened_not_keyword k h)]

theorem identifier_eq_iff {v w : String} (hv : '#' ∉ v.toList) (hw : '#' ∉ w.toList) :
    identifier v = identifier w ↔ v = w ∨ Meet v w := by
  constructor
  · intro h
    have hlong {u : String} (hu : '#' ∉ u.toList) : '#' ∉ (u ++ "_").toList := by
      simp [hu]
    rcases identifier_cases v with ⟨hvn, hvi⟩ | ⟨-, -, hvi⟩ | ⟨-, hvi⟩ <;>
      rcases identifier_cases w with ⟨hwn, hwi⟩ | ⟨-, -, hwi⟩ | ⟨-, hwi⟩ <;>
      rw [hvi, hwi] at h
    · exact .inl (String.append_left_inj _ |>.mp h)
    · exact absurd h.symm (raw_ne (hlong hv))
    · exact .inr ⟨v, hvn, .inl ⟨rfl, h.symm⟩⟩
    · exact absurd h (raw_ne (hlong hw))
    · exact .inl (String.append_right_inj _ |>.mp h)
    · exact absurd h (raw_ne hw)
    · exact .inr ⟨w, hwn, .inr ⟨h, rfl⟩⟩
    · exact absurd h.symm (raw_ne hv)
    · exact .inl h
  · rintro (rfl | ⟨k, hk, ⟨rfl, rfl⟩ | ⟨rfl, rfl⟩⟩)
    · rfl
    · exact (identifier_of_lengthened hk).symm
    · exact identifier_of_lengthened hk

theorem hash_not_mem_sanitize (s : String) : '#' ∉ (sanitize s).toList := fun h =>
  absurd (isNamePart_of_isName (isName_sanitize s) h) (by decide)

theorem isName_trait (s : String) : isName ("Html" ++ sanitize s).toList := by
  rw [String.toList_append]
  exact isName_append (by decide) (isName_sanitize s)

theorem identifiers_legal :
    (∀ e : Element, IsLegal e.typeName ∧ IsLegal e.traitName ∧ IsLegal e.constructorName) ∧
    (∀ a : Attribute, IsLegal a.methodName) ∧ (∀ x : Event, IsLegal x.methodName) ∧
    ∀ v w : String, identifier (sanitize v) = identifier (sanitize w) ↔
      sanitize v = sanitize w ∨ Meet (sanitize v) (sanitize w) := by
  have hsanitized (s : String) : IsLegal (identifier (sanitize s)) :=
    isLegal_identifier (isName_sanitize s)
  refine ⟨fun e => ⟨hsanitized _, isLegal_identifier (isName_trait _), hsanitized _⟩,
    fun a => hsanitized _, fun x => hsanitized _, fun v w => ?_⟩
  exact identifier_eq_iff (hash_not_mem_sanitize v) (hash_not_mem_sanitize w)

example : identifier (sanitize "self") = identifier (sanitize " self-") := by decide

end TypedMarkup.Code
