import TypedMarkup.Proofs.Grammar.Statement

namespace TypedMarkup.Code

open Token Reader

namespace Grammar

variable {read : Parts} {t : Token} {ts us rest : List Token}

def attributeTokens (as : List (List Token)) : List Token :=
  as.flatMap fun a => [.mark '#' false, .group .square a]

theorem length_attributeTokens (as : List (List Token)) :
    (attributeTokens as).length = 2 * as.length := by
  simp [attributeTokens, List.length_flatMap, List.map_const', Nat.mul_comm]

def AreAttributes (read : Parts) (ts : List Token) : Prop :=
  ∃ as, ts = attributeTokens as ∧ ∀ a ∈ as, Takes (attributeBody read) a () []

theorem areAttributes_nil (read : Parts) : AreAttributes read [] :=
  ⟨[], rfl, by simp⟩

theorem AreAttributes.append (h : AreAttributes read ts) (h' : AreAttributes read us) :
    AreAttributes read (ts ++ us) := by
  obtain ⟨as, rfl, has⟩ := h
  obtain ⟨bs, rfl, hbs⟩ := h'
  refine ⟨as ++ bs, List.flatMap_append.symm, fun a ha => ?_⟩
  exact (List.mem_append.mp ha).elim (has a) (hbs a)

theorem areAttributes_flatMap {α : Type} {f : α → List Token} {xs : List α}
    (h : ∀ x ∈ xs, AreAttributes read (f x)) : AreAttributes read (xs.flatMap f) := by
  induction xs with
  | nil => exact areAttributes_nil read
  | cons x xs ih =>
    rw [List.forall_mem_cons] at h
    rw [List.flatMap_cons]
    exact h.1.append (ih h.2)

theorem areAttributes_notes (read : Parts) (docs : List String) :
    AreAttributes read (notes docs) := by
  refine areAttributes_flatMap fun d _ => ⟨[[.word "doc", .mark '=' false,
    .literal .text (Text.literal (" " ++ d))]], rfl, ?_⟩
  simp only [List.mem_singleton, forall_eq]
  exact fun _ => rfl

theorem takes_attributeRounds {as : List (List Token)}
    (h : ∀ a ∈ as, Takes (attributeBody read) a () []) (hrest : has rest "#" = false) {n : Nat}
    (hn : as.length < n) (any : Bool) :
    ∃ some, Takes (rounds (attributeStep read) n any) (attributeTokens as ++ rest) some rest := by
  induction as generalizing n any with
  | nil =>
    obtain ⟨n, rfl⟩ := Nat.exists_eq_succ_of_ne_zero (Nat.ne_zero_of_lt hn)
    refine ⟨any, takes_rounds_end ((takes_ahead _).bind ?_)⟩
    rw [attributeTokens, List.flatMap_nil, List.nil_append, hrest]
    exact takes_pure _ rest
  | cons a as ih =>
    obtain ⟨n, rfl⟩ := Nat.exists_eq_succ_of_ne_zero (Nat.ne_zero_of_lt hn)
    rw [List.forall_mem_cons] at h
    obtain ⟨some, hmore⟩ := ih h.2 (Nat.lt_of_succ_lt_succ hn) true
    refine ⟨some, takes_rounds_more ?_ hmore⟩
    exact (takes_ahead _).bind (Takes.bind (fun _ => rfl) (h.1.inside.bind (takes_pure _ _)))

theorem AreAttributes.takes_outerAttributes (h : AreAttributes read ts)
    (hrest : has rest "#" = false) :
    ∃ any, Takes (outerAttributes read) (ts ++ rest) any rest := by
  obtain ⟨as, rfl, has⟩ := h
  have hlength : as.length < (attributeTokens as ++ rest).length + 1 := by
    rw [List.length_append, length_attributeTokens]
    omega
  obtain ⟨any, hrounds⟩ := takes_attributeRounds has hrest hlength false
  exact ⟨any, takes_loop hrounds⟩

theorem AreAttributes.takes_innerAttributes (h : AreAttributes read ts)
    (hrest : has rest "#" = false) :
    Takes (innerAttributes read) (ts ++ rest) () (ts ++ rest) := by
  obtain ⟨as, rfl, -⟩ := h
  refine takes_loop (takes_rounds_end ((takes_ahead _).bind ?_))
  cases as with
  | nil =>
    rw [attributeTokens, List.flatMap_nil, List.nil_append, hrest]
    exact takes_pure _ rest
  | cons => exact takes_pure _ _

structure IsParameter (read : Parts) (sofar after : ParametersSoFar) (ts : List Token) : Prop where
  last : Takes (parameter read sofar) ts (after, false) []
  more : ∀ us, Takes (parameter read sofar) (ts ++ .mark ',' false :: us) (after, true) us

theorem takes_receiver (h : has rest ":" = false) :
    Takes (receiver read) (.word "self" :: rest) () rest := by
  have hself : Takes (do
      if ← takeIf ":" then
        let _ ← read (.type true)) rest () rest := (takes_takeIf h).bind (takes_pure () rest)
  exact Takes.bind (fun _ => rfl) hself

theorem takes_receiver_mutable (h : has rest ":" = false) :
    Takes (receiver read) (.word "mut" :: .word "self" :: rest) () rest := by
  have hself : Takes (do
      if ← takeIf ":" then
        let _ ← read (.type true)) rest () rest := (takes_takeIf h).bind (takes_pure () rest)
  exact Takes.bind (fun _ => rfl) hself

theorem isParameter_receiver (hfront : ∀ rest, hasAny (ts ++ rest) ["#", "..."] = false)
    (h : ∀ rest, has rest ":" = false → Takes (receiver read) (ts ++ rest) () rest) :
    IsParameter read ⟨false, false⟩ ⟨true, true⟩ ts where
  last := by
    have hnone := hasAny_eq_false_iff.mp (hfront [])
    have hreceiver := (h [] rfl).attempt
    rw [List.append_nil] at hnone hreceiver
    refine (takes_outerAttributes_none (hnone "#" (by decide))).bind ?_
    exact (takes_takeIf (hnone "..." (by decide))).bind (hreceiver.bind fun _ => rfl)
  more us := by
    have hnone := hasAny_eq_false_iff.mp (hfront (.mark ',' false :: us))
    refine (takes_outerAttributes_none (hnone "#" (by decide))).bind ?_
    refine (takes_takeIf (hnone "..." (by decide))).bind ?_
    exact (h (.mark ',' false :: us) rfl).attempt.bind fun _ => rfl

theorem isParameter_self :
    IsParameter read ⟨false, false⟩ ⟨true, true⟩ [.word "self"] :=
  isParameter_receiver (fun _ => rfl) fun _ hrest => takes_receiver hrest

theorem isParameter_mut_self :
    IsParameter read ⟨false, false⟩ ⟨true, true⟩ [.word "mut", .word "self"] :=
  isParameter_receiver (fun _ => rfl) fun _ hrest => takes_receiver_mutable hrest

theorem fails_receiver (ht : t.isIdentifier) (ts : List Token) :
    ∃ e, Fails (receiver read) (t :: ts) e := by
  have hreference := takes_takeIf (has_identifier ht (by decide : Due.isReserved "&") ts)
  have hmut := takes_takeIf (has_identifier ht (by decide : Due.isReserved "mut") ts)
  obtain ⟨e, hself⟩ := fails_take (has_identifier ht (by decide : Due.isReserved "self") ts)
  exact ⟨e, hreference.fails (hmut.fails hself.bind)⟩

theorem takes_typedParameter {pattern type : Form}
    (hpattern : Takes (read .singlePattern) (t :: .mark ':' false :: us) pattern
      (.mark ':' false :: us))
    (hdots : has us "..." = false) (htype : Takes (read (.type true)) us type rest) :
    Takes (typedParameter read) (t :: .mark ':' false :: us) false rest := by
  have hangle : (has (t :: .mark ':' false :: us) .identifier &&
      hasSecond (t :: .mark ':' false :: us) "<") = false := Bool.and_false _
  refine (takes_ahead _).bind ?_
  rw [hangle]
  refine (hpattern.bind (takes_pure () _)).bind (Takes.bind (fun _ => rfl) ?_)
  exact (takes_takeIf hdots).bind (htype.bind (takes_pure false rest))

theorem isParameter_typed (ht : t.isIdentifier) {n : Nat}
    (hdots : ∀ rest, has (us ++ rest) "..." = false)
    (htype : ∀ rest, endsItem rest →
      ∃ type, Takes (parts (n + 1) (.type true)) (us ++ rest) type rest)
    (sofar : ParametersSoFar) :
    IsParameter (parts (n + 1)) sofar { sofar with any := true } (t :: .mark ':' false :: us) := by
  have hparameter {rest vs : List Token} {x : ParametersSoFar × Bool} (hrest : endsItem rest)
      (hend : Takes (do
        let more := !(← isDone)
        commaUnlessDone
        return ({ sofar with any := true }, more)) rest x vs) :
      Takes (parameter (parts (n + 1)) sofar) (t :: .mark ':' false :: (us ++ rest)) x vs := by
    obtain ⟨type, htype⟩ := htype rest hrest
    have hpattern : Takes (parts (n + 1) .singlePattern) (t :: .mark ':' false :: (us ++ rest))
        .plain (.mark ':' false :: (us ++ rest)) := takes_namePattern ht rfl
    have htyped := takes_typedParameter hpattern (hdots rest) htype
    obtain ⟨e, hreceiver⟩ : ∃ e, Fails (receiver (parts (n + 1)))
      (t :: .mark ':' false :: (us ++ rest)) e := fails_receiver ht _
    refine (takes_outerAttributes_none (has_identifier ht (by decide) _)).bind ?_
    refine (takes_takeIf (has_identifier ht (by decide) _)).bind (hreceiver.attempt.bind ?_)
    exact htyped.bind hend
  constructor
  · have hlast : Takes (parameter (parts (n + 1)) sofar) (t :: .mark ':' false :: (us ++ []))
        ({ sofar with any := true }, false) [] := hparameter rfl fun _ => rfl
    rw [List.append_nil] at hlast
    exact hlast
  · exact fun us => hparameter rfl fun _ => rfl

theorem takes_parametersStep {x : ParametersSoFar × Bool} {sofar : ParametersSoFar}
    (hne : ts ≠ []) (h : Takes (parameter read sofar) ts x rest) :
    Takes (parametersStep read sofar) ts x rest := by
  refine (takes_isDone ts).bind ?_
  rw [List.isEmpty_eq_false_iff.mpr hne]
  exact h

theorem takes_parametersRounds {es : List (List Token)}
    (h : ∀ e ∈ es, e ≠ [] ∧ ∀ sofar, IsParameter read sofar { sofar with any := true } e) {n : Nat}
    (hn : es.length < n) (sofar : ParametersSoFar) :
    ∃ after, Takes (rounds (parametersStep read) n sofar) (separated es) after [] := by
  obtain ⟨n, rfl⟩ := Nat.exists_eq_succ_of_ne_zero (Nat.ne_zero_of_lt hn)
  induction es generalizing n sofar with
  | nil => exact ⟨sofar, takes_rounds_end fun _ => rfl⟩
  | cons e es ih =>
    obtain ⟨⟨he, hparameter⟩, hes⟩ := List.forall_mem_cons.mp h
    cases es with
    | nil =>
      rw [separated, List.flatMap_nil, List.append_nil]
      exact ⟨_, takes_rounds_end (takes_parametersStep he (hparameter sofar).last)⟩
    | cons f es =>
      rw [separated_cons_cons]
      have hn' : (f :: es).length < n := by simpa using hn
      obtain ⟨n, rfl⟩ := Nat.exists_eq_succ_of_ne_zero (Nat.ne_zero_of_lt hn')
      obtain ⟨after, hmore⟩ := ih hes { sofar with any := true } n hn'
      have hne : e ++ .mark ',' false :: separated (f :: es) ≠ [] := by simp
      exact ⟨after, takes_rounds_more (takes_parametersStep hne ((hparameter sofar).more _)) hmore⟩

theorem takes_functionParameterList {es : List (List Token)}
    (h : ∀ e ∈ es, e ≠ [] ∧ ∀ sofar, IsParameter read sofar { sofar with any := true } e) :
    Takes (functionParameterList read) (separated es) () [] := by
  have hlength := length_le_length_separated fun e he => (h e he).1
  obtain ⟨after, hrounds⟩ := takes_parametersRounds h (Nat.lt_succ_of_le hlength) ⟨false, false⟩
  have hloop : Takes (loop (parametersStep read) ⟨false, false⟩) (separated es) after [] :=
    takes_loop hrounds
  exact hloop.bind (takes_pure () [])

theorem takes_functionParameterList_method {e : List Token} {es : List (List Token)} (he : e ≠ [])
    (hreceiver : IsParameter read ⟨false, false⟩ ⟨true, true⟩ e)
    (h : ∀ e ∈ es, e ≠ [] ∧ ∀ sofar, IsParameter read sofar { sofar with any := true } e) :
    Takes (functionParameterList read) (separated (e :: es)) () [] := by
  suffices ∃ after, Takes (loop (parametersStep read) ⟨false, false⟩) (separated (e :: es)) after []
      by
    obtain ⟨after, hloop⟩ := this
    exact hloop.bind (takes_pure () [])
  cases es with
  | nil =>
    rw [separated, List.flatMap_nil, List.append_nil]
    exact ⟨_, takes_loop (takes_rounds_end (takes_parametersStep he hreceiver.last))⟩
  | cons f es =>
    have hlength := length_le_length_separated fun e he => (h e he).1
    have hne : e ++ .mark ',' false :: separated (f :: es) ≠ [] := by simp
    have hn : (f :: es).length < (separated (e :: f :: es)).length := by
      rw [separated_cons_cons]
      simp only [List.length_append, List.length_cons] at hlength ⊢
      omega
    obtain ⟨after, hrounds⟩ := takes_parametersRounds h hn ⟨true, true⟩
    refine ⟨after, takes_loop (takes_rounds_more ?_ hrounds)⟩
    rw [separated_cons_cons]
    exact takes_parametersStep hne (hreceiver.more _)

structure EndsSignature (ts : List Token) : Prop extends EndsType ts where
  arrow : has ts "->" = false
  conditions : has ts "where" = false

theorem takes_conditions_none (h : has rest "where" = false) :
    Takes (conditions read) rest () rest :=
  (takes_takeIf h).bind (takes_pure () rest)

theorem takes_signature (ht : t.isIdentifier) {ps rs : List Token}
    (hparams : Takes (functionParameterList read) ps () [])
    (hresult : Takes (do
      if ← takeIf "->" then
        let _ ← read (.type true)
      conditions read : Reader Unit) rs () rest) :
    Takes (signature read false) (.word "fn" :: t :: .group .round ps :: rs) () rest := by
  have hqualifiers : Takes (qualifiers false) (.word "fn" :: t :: .group .round ps :: rs) ()
      (.word "fn" :: t :: .group .round ps :: rs) := fun _ => rfl
  refine hqualifiers.bind (Takes.bind (fun _ => rfl) ?_)
  refine (takes_takeIdentifier ht _).bind (Takes.bind (fun _ => rfl) ?_)
  exact hparams.inside.bind hresult

end Grammar

namespace Param

def isGrammatical (p : Param) : Bool :=
  areName (ofText p.name) && p.type.isGrammatical

theorem isParameter {p : Param} (h : p.isGrammatical) {n : Nat} (hn : 4 * count p.emitted ≤ n) :
    p.emitted ≠ [] ∧ ∀ sofar, Grammar.IsParameter (Grammar.parts n) sofar { sofar with any := true }
      p.emitted := by
  obtain ⟨hname, htype⟩ := Bool.and_eq_true_iff.mp h
  obtain ⟨t, hname, ht⟩ := Grammar.eq_of_areName hname
  rw [emitted, hname] at hn ⊢
  simp only [List.singleton_append, count_cons, size_mark] at hn
  obtain ⟨n, rfl⟩ := Nat.exists_eq_succ_of_ne_zero (by omega : n ≠ 0)
  refine ⟨List.cons_ne_nil _ _, Grammar.isParameter_typed ht (fun rest => ?_) fun rest hrest => ?_⟩
  · exact (Ty.front_emitted htype rest).2 "..." (by decide)
  · have hends := Grammar.endsType_of_endsItem hrest
    exact (Ty.reads_grammatical p.type htype).type (n + 1) (by omega) true rest hends

end Param

namespace Signature

def accesses : List String :=
  ["", "pub ", "pub(crate) "]

theorem cases_access {access : String} (h : accesses.contains access) :
    access = "" ∨ access = "pub " ∨ access = "pub(crate) " := by
  simpa [accesses] using h

def isGrammatical (s : Signature) : Bool :=
  accesses.contains s.access && areName (ofText s.name) && s.params.all Param.isGrammatical &&
    (s.result.isEmpty || arePath (ofText s.result))

theorem takes_parameters {s : Signature} (h : s.isGrammatical) {n : Nat}
    (hn : 4 * count (separated (s.receiver.emitted ++ s.params.map Param.emitted)) ≤ n) :
    Takes (Grammar.functionParameterList (Grammar.parts n))
      (separated (s.receiver.emitted ++ s.params.map Param.emitted)) () [] := by
  simp only [isGrammatical, Bool.and_eq_true, List.all_eq_true] at h
  have hparams : ∀ e ∈ s.params.map Param.emitted, e ≠ [] ∧ ∀ sofar,
      Grammar.IsParameter (Grammar.parts n) sofar { sofar with any := true } e := by
    intro e he
    have hcount : count e ≤ count (separated (s.receiver.emitted ++ s.params.map Param.emitted)) :=
      count_le_count_separated (List.mem_append_right _ he)
    obtain ⟨p, hp, rfl⟩ := List.mem_map.mp he
    exact Param.isParameter (h.1.2 p hp) (by omega)
  cases s.receiver with
  | none => exact Grammar.takes_functionParameterList hparams
  | owned =>
    exact Grammar.takes_functionParameterList_method (List.cons_ne_nil _ _)
      Grammar.isParameter_self hparams
  | mutable =>
    exact Grammar.takes_functionParameterList_method (List.cons_ne_nil _ _)
      Grammar.isParameter_mut_self hparams

theorem takes_signature {s : Signature} (h : s.isGrammatical) {n : Nat}
    (hn : 4 * count s.tokensAfterAccess ≤ n) {rest : List Token}
    (hrest : Grammar.EndsSignature rest) :
    Takes (Grammar.signature (Grammar.parts n) false) (s.tokensAfterAccess ++ rest) () rest := by
  have hgrammatical := h
  simp only [isGrammatical, Bool.and_eq_true, Bool.or_eq_true] at h
  obtain ⟨⟨⟨-, hname⟩, -⟩, hresult⟩ := h
  obtain ⟨t, hname, ht⟩ := Grammar.eq_of_areName hname
  rw [tokensAfterAccess, hname] at hn ⊢
  simp only [List.singleton_append, count_cons, size_group, size_word] at hn
  have hparams := takes_parameters hgrammatical (n := n) (by omega)
  have hconditions : Takes (Grammar.conditions (Grammar.parts n)) rest () rest :=
    Grammar.takes_conditions_none hrest.conditions
  refine Grammar.takes_signature ht hparams ?_
  cases hempty : s.result.isEmpty with
  | true =>
    rw [if_pos rfl]
    exact (takes_takeIf hrest.arrow).bind hconditions
  | false =>
    rw [hempty, if_neg Bool.false_ne_true] at hn
    rw [if_neg Bool.false_ne_true]
    have hpath : (Ty.named s.result).isGrammatical :=
      hresult.resolve_left (by rw [hempty]; exact Bool.false_ne_true)
    simp only [count_cons, size_mark] at hn
    obtain ⟨form, htype⟩ :=
      (Ty.reads_grammatical _ hpath).type n (by rw [Ty.emitted]; omega) true rest
      hrest.toEndsType
    exact Takes.bind (fun _ => rfl) (htype.bind hconditions)

end Signature

end TypedMarkup.Code
