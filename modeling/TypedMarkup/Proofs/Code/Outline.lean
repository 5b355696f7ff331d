import TypedMarkup.Proofs.Code.Listing

namespace TypedMarkup.Code

open Text Token Layout

structure Head where
  access : List Token
  name : String
  params : List Token
  result : List Token

inductive Outline where
  | trait (name : String) (above : List Token) (methods : List Head)
  | function (head : Head) (body : List Token)
  | wrapper (name : String) (inner : List Token)
  | implementation (provided : List Token) (type : String) (methods : List Head)
  | inherent (type : String) (methods : List Head)

def endsDeclaration : Token → Bool
  | .mark c _ => c == ';'
  | .group b _ => b == .curly
  | _ => false

def declarations (before : List Token) : List Token → Option (List (List Token × Token))
  | [] => if before.isEmpty then some [] else none
  | t :: ts =>
    if endsDeclaration t then (declarations [] ts).map ((before, t) :: ·)
    else declarations (before ++ [t]) ts

def spells (w : String) : Token → Bool
  | .word s => s == w
  | _ => false

def cut (w : String) : List Token → Option (List Token × List Token)
  | [] => none
  | t :: ts => if spells w t then some ([], ts) else (cut w ts).map fun (a, b) => (t :: a, b)

def readResult : List Token → Option (List Token)
  | [] => some []
  | .mark '-' _ :: .mark '>' _ :: ts => some ts
  | _ => none

namespace Head

def read (ts : List Token) : Option Head :=
  match cut "fn" ts with
  | some (access, t :: .group .round params :: rest) =>
    match t.name?, readResult rest with
    | some name, some result => some ⟨access, name, params, result⟩
    | _, _ => none
  | _ => none

def readAll (ts : List Token) : Option (List Head) :=
  match declarations [] ts with
  | some ds => ds.mapM fun d => read d.1
  | none => none

end Head

namespace Outline

def readTrait : List Token → List Token → Option Outline
  | t :: .mark ':' _ :: above, inner =>
    match t.name?, Head.readAll inner with
    | some name, some methods => some (.trait name above methods)
    | _, _ => none
  | _, _ => none

def readWrapper : List Token → Option Outline
  | [t, .group .round inner] => t.name?.map fun name => .wrapper name inner
  | _ => none

def readImplementation (ts inner : List Token) : Option Outline :=
  match cut "for" ts, Head.readAll inner with
  | some (provided, [t]), some methods =>
    t.name?.map fun type => .implementation provided type methods
  | none, some methods =>
    match ts with
    | [t] => t.name?.map fun type => .inherent type methods
    | _ => none
  | _, _ => none

def read : List Token × Token → Option Outline
  | (.word "pub" :: .word "trait" :: ts, .group .curly inner) => readTrait ts inner
  | (.word "pub" :: .word "struct" :: ts, .mark ';' _) => readWrapper ts
  | (.word "impl" :: ts, .group .curly inner) => readImplementation ts inner
  | (ts, .group .curly inner) => (Head.read ts).map fun head => .function head inner
  | _ => none

def readAll (ts : List Token) : Option (List Outline) :=
  match declarations [] ts with
  | some ds => ds.mapM read
  | none => none

end Outline

def outline (s : String) : Option (List Outline) :=
  match tokensOf s with
  | some ts => Outline.readAll ts
  | none => none

def Signature.head (s : Signature) : Head :=
  ⟨code s.access, s.name, s.paramTokens, code s.result⟩

def Item.outline : Item → Outline
  | .trait _ name above methods => .trait name above.tokens (methods.map (·.signature.head))
  | .function f => .function f.signature.head (f.body.flatMap Stmt.tokens)
  | .wrapper name inner => .wrapper name (code inner)
  | .implementation provided type methods =>
    .implementation provided.tokens type (methods.map (·.signature.head))
  | .inherent type methods => .inherent type (methods.map (·.signature.head))

theorem declarations_append {xs : List Token} (h : ∀ t ∈ xs, endsDeclaration t = false) {t : Token}
    (ht : endsDeclaration t) (before ts : List Token) :
    declarations before (xs ++ t :: ts) =
      (declarations [] ts).map ((before ++ xs, t) :: ·) := by
  induction xs generalizing before with
  | nil => simp [declarations, ht]
  | cons x xs ih =>
    rw [List.forall_mem_cons] at h
    simp [declarations, h.1, ih h.2]

theorem cut_append {w : String} {xs : List Token} (h : ∀ t ∈ xs, spells w t = false)
    (ts : List Token) : cut w (xs ++ .word w :: ts) = some (xs, ts) := by
  induction xs with
  | nil => simp [cut, spells]
  | cons x xs ih =>
    rw [List.forall_mem_cons] at h
    simp [cut, h.1, ih h.2]

theorem cut_eq_none {w : String} {xs : List Token} (h : ∀ t ∈ xs, spells w t = false) :
    cut w xs = none := by
  induction xs with
  | nil => rfl
  | cons x xs ih =>
    rw [List.forall_mem_cons] at h
    simp [cut, h.1, ih h.2]

theorem mapM_declarations {α β : Type} {as : List α} {f : α → List Token} {g : α → β}
    {r : List Token × Token → Option β}
    (h : ∀ a ∈ as, ∃ xs t, f a = xs ++ [t] ∧ (∀ u ∈ xs, endsDeclaration u = false) ∧
      endsDeclaration t ∧ r (xs, t) = some (g a)) :
    ∃ ds, declarations [] (as.flatMap f) = some ds ∧ ds.mapM r = some (as.map g) := by
  induction as with
  | nil => exact ⟨[], rfl, rfl⟩
  | cons a as ih =>
    rw [List.forall_mem_cons] at h
    obtain ⟨⟨xs, t, hf, hxs, ht, hread⟩, has⟩ := h
    obtain ⟨ds, hds, hmap⟩ := ih has
    refine ⟨(xs, t) :: ds, ?_, ?_⟩
    · rw [List.flatMap_cons, hf, List.append_assoc, List.singleton_append,
        declarations_append hxs ht, hds]
      rfl
    · simp [List.mapM_cons, hread, hmap]

theorem code_of_isIdentifier {s : String} (h : isIdentifier s.toList) :
    ∃ t, code s = [t] ∧ t.name? = some s := by
  obtain ⟨t, hread, hname⟩ := legible_of_isIdentifier h
  exact ⟨t, hread.code, hname⟩

theorem not_endsDeclaration_of_name {t : Token} {s : String} (h : t.name? = some s) :
    endsDeclaration t = false := by
  cases t <;> simp [Token.name?] at h <;> rfl

theorem not_spells_of_name {t : Token} {s w : String} (h : t.name? = some s) (hs : s ≠ w) :
    spells w t = false := by
  cases t with
  | word v =>
    obtain rfl : v = s := by simpa [Token.name?] using h
    exact beq_false_of_ne hs
  | _ => rfl

namespace Signature

variable {s : Signature}

theorem not_ends_access (h : accesses.contains s.access) :
    ∀ t ∈ code s.access, endsDeclaration t = false ∧ spells "fn" t = false := by
  rcases cases_access h with h | h | h
  · simp [h, code_empty]
  · simp [h, opens_pub.code, endsDeclaration, spells]
  · simp [h, code_crate, endsDeclaration, spells]

theorem not_ends_result (h : s.result.isEmpty || isIdentifier s.result.toList) :
    ∀ t ∈ s.resultTokens, endsDeclaration t = false := by
  rw [Bool.or_eq_true] at h
  unfold resultTokens
  split
  · simp
  · rename_i hne
    obtain ⟨t, ht, hname⟩ := code_of_isIdentifier (h.resolve_left hne)
    intro u hu
    simp only [ht, List.mem_cons, List.not_mem_nil, or_false] at hu
    rcases hu with rfl | rfl | rfl
    · rfl
    · rfl
    · exact not_endsDeclaration_of_name hname

theorem readResult_resultTokens : readResult s.resultTokens = some (code s.result) := by
  unfold resultTokens
  split
  · rename_i h
    have hempty : s.result = "" := by simpa using h
    rw [hempty, code_empty]
    rfl
  · rfl

theorem not_ends (h : s.isLegible) : ∀ t ∈ s.tokens, endsDeclaration t = false := by
  simp only [isLegible, Bool.and_eq_true] at h
  obtain ⟨⟨⟨haccess, hname⟩, -⟩, hresult⟩ := h
  obtain ⟨n, hn, hname⟩ := code_of_isIdentifier hname
  intro t ht
  simp only [tokens, hn, List.mem_append, List.mem_cons, List.not_mem_nil, or_false] at ht
  rcases ht with ht | rfl | rfl | rfl | ht
  · exact (not_ends_access haccess t ht).1
  · rfl
  · exact not_endsDeclaration_of_name hname
  · rfl
  · exact not_ends_result hresult t ht

theorem read_tokens (h : s.isLegible) : Head.read s.tokens = some s.head := by
  simp only [isLegible, Bool.and_eq_true] at h
  obtain ⟨⟨⟨haccess, hname⟩, -⟩, -⟩ := h
  obtain ⟨n, hn, hname⟩ := code_of_isIdentifier hname
  have hcut := cut_append (fun t ht => (not_ends_access haccess t ht).2)
    (code s.name ++ .group .round s.paramTokens :: s.resultTokens)
  rw [Head.read, tokens, hcut, hn]
  simp only [List.singleton_append, hname, readResult_resultTokens, head]

end Signature

theorem readAll_heads {α : Type} {as : List α} {f : α → List Token} {signature : α → Signature}
    (h : ∀ a ∈ as, (signature a).isLegible ∧
      ∃ t, f a = (signature a).tokens ++ [t] ∧ endsDeclaration t) :
    Head.readAll (as.flatMap f) = some (as.map fun a => (signature a).head) := by
  obtain ⟨ds, hds, hread⟩ := mapM_declarations (f := f) (g := fun a => (signature a).head)
    (r := fun d => Head.read d.1) fun a ha => by
      obtain ⟨hlegible, t, hf, ht⟩ := h a ha
      exact ⟨_, t, hf, Signature.not_ends hlegible, ht, Signature.read_tokens hlegible⟩
  rw [Head.readAll, hds]
  exact hread

theorem readAll_declarations {ds : List Declaration} (h : ds.all fun d => d.signature.isLegible) :
    Head.readAll (ds.flatMap Declaration.tokens) = some (ds.map (·.signature.head)) :=
  readAll_heads fun d hd => ⟨List.all_eq_true.mp h d hd, _, rfl, rfl⟩

theorem Function.isLegible_signature {f : Function} (h : f.isLegible) : f.signature.isLegible := by
  simp only [isLegible, Bool.and_eq_true] at h
  exact h.1.2

theorem readAll_functions {fs : List Function} (h : fs.all Function.isLegible) :
    Head.readAll (fs.flatMap Function.tokens) = some (fs.map (·.signature.head)) :=
  readAll_heads fun f hf => ⟨f.isLegible_signature (List.all_eq_true.mp h f hf), _, rfl, rfl⟩

theorem code_of_isHeadName {s : String} (h : isHeadName s) :
    ∃ t, code s = [t] ∧ t.name? = some s ∧ endsDeclaration t = false ∧ spells "for" t = false := by
  simp only [isHeadName, Bool.and_eq_true, bne_iff_ne] at h
  obtain ⟨t, ht, hname⟩ := code_of_isIdentifier h.1
  exact ⟨t, ht, hname, not_endsDeclaration_of_name hname, not_spells_of_name hname h.2⟩

theorem Ty.not_ends_of_isHead {t : Ty} (h : t.isHead) :
    ∀ u ∈ t.tokens, endsDeclaration u = false ∧ spells "for" u = false := by
  induction t with
  | named p =>
    obtain ⟨t, ht, -, hends, hfor⟩ := code_of_isHeadName h
    simp [tokens, ht, hends, hfor]
  | applied f t ih =>
    rw [isHead, Bool.and_eq_true] at h
    obtain ⟨n, hn, -, hends, hfor⟩ := code_of_isHeadName h.1
    intro u hu
    simp only [tokens, hn, separated, List.flatMap_nil, List.append_nil, List.mem_append,
      List.mem_cons, List.not_mem_nil, or_false] at hu
    rcases hu with rfl | rfl | hu | rfl
    · exact ⟨hends, hfor⟩
    · exact ⟨rfl, rfl⟩
    · exact ih h.2 u hu
    · exact ⟨rfl, rfl⟩
  | _ => exact absurd h Bool.false_ne_true

namespace Item

theorem read_signature {s : Signature} (h : s.isLegible) (inner : List Token) :
    Outline.read (s.tokens, .group .curly inner) = some (.function s.head inner) := by
  have hread : Outline.read (s.tokens, .group .curly inner) =
      (Head.read s.tokens).map fun head => .function head inner := by
    simp only [Signature.isLegible, Bool.and_eq_true] at h
    rcases Signature.cases_access h.1.1.1 with haccess | haccess | haccess
    · rw [Signature.tokens, haccess, Signature.code_empty]
      rfl
    · rw [Signature.tokens, haccess, Signature.opens_pub.code]
      rfl
    · rw [Signature.tokens, haccess, Signature.code_crate]
      rfl
  rw [hread, Signature.read_tokens h]
  rfl

theorem outline_tokens {i : Item} (h : i.isLegible) :
    ∃ xs t, i.tokens = xs ++ [t] ∧ (∀ u ∈ xs, endsDeclaration u = false) ∧ endsDeclaration t ∧
      Outline.read (xs, t) = some i.outline := by
  cases i with
  | trait docs name above methods =>
    simp only [isLegible, Bool.and_eq_true] at h
    obtain ⟨⟨hname, habove⟩, hmethods⟩ := h
    obtain ⟨n, hn, hname, hends, -⟩ := code_of_isHeadName hname
    refine ⟨.word "pub" :: .word "trait" :: n :: .mark ':' false :: above.tokens,
      .group .curly (methods.flatMap Declaration.tokens), ?_, ?_, rfl, ?_⟩
    · rw [tokens, hn]
      rfl
    · simp only [List.forall_mem_cons]
      exact ⟨rfl, rfl, hends, rfl, fun u hu => (Ty.not_ends_of_isHead habove u hu).1⟩
    · simp [Outline.read, Outline.readTrait, hname, readAll_declarations hmethods, outline]
  | function f =>
    have hsignature := f.isLegible_signature h
    exact ⟨f.signature.tokens, _, rfl, Signature.not_ends hsignature, rfl,
      read_signature hsignature _⟩
  | wrapper name inner =>
    simp only [isLegible, Bool.and_eq_true] at h
    obtain ⟨n, hn, hname, hends, -⟩ := code_of_isHeadName h.1
    refine ⟨[.word "pub", .word "struct", n, .group .round (code inner)], .mark ';' false, ?_, ?_,
      rfl, ?_⟩
    · rw [tokens, hn]
      rfl
    · simp only [List.forall_mem_cons]
      exact ⟨rfl, rfl, hends, rfl, by simp⟩
    · simp [Outline.read, Outline.readWrapper, hname, outline]
  | implementation provided type methods =>
    simp only [isLegible, Bool.and_eq_true] at h
    obtain ⟨⟨hprovided, htype⟩, hmethods⟩ := h
    obtain ⟨n, hn, hname, hends, -⟩ := code_of_isHeadName htype
    refine ⟨.word "impl" :: (provided.tokens ++ [.word "for", n]),
      .group .curly (methods.flatMap Function.tokens), ?_, ?_, rfl, ?_⟩
    · rw [tokens, hn]
      simp
    · simp only [List.forall_mem_cons, List.forall_mem_append]
      exact ⟨rfl, fun u hu => (Ty.not_ends_of_isHead hprovided u hu).1, rfl, hends, by simp⟩
    · have hcut := cut_append (fun u hu => (Ty.not_ends_of_isHead hprovided u hu).2) [n]
      simp [Outline.read, Outline.readImplementation, hcut, hname, readAll_functions hmethods,
        outline]
  | inherent type methods =>
    simp only [isLegible, Bool.and_eq_true] at h
    obtain ⟨n, hn, hname, hends, hfor⟩ := code_of_isHeadName h.1
    refine ⟨[.word "impl", n], .group .curly (methods.flatMap Function.tokens), ?_, ?_, rfl, ?_⟩
    · rw [tokens, hn]
      simp
    · simp only [List.forall_mem_cons]
      exact ⟨rfl, hends, by simp⟩
    · have hcut : cut "for" [n] = none := cut_eq_none (by simpa using hfor)
      simp [Outline.read, Outline.readImplementation, hcut, hname, readAll_functions h.2, outline]

end Item

theorem readAll_items {is : List Item} (h : ∀ i ∈ is, i.isLegible) :
    Outline.readAll (is.flatMap Item.tokens) = some (is.map Item.outline) := by
  obtain ⟨ds, hds, hread⟩ := mapM_declarations (f := Item.tokens) (g := Item.outline)
    (r := Outline.read) fun i hi => Item.outline_tokens (h i hi)
  rw [Outline.readAll, hds]
  exact hread

end TypedMarkup.Code
