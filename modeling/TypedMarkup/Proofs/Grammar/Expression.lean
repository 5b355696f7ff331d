import TypedMarkup.Proofs.Grammar.Type

namespace TypedMarkup.Code

open Token Reader

namespace Grammar

variable {read : Parts} {t : Token} {ts us rest : List Token} {braces : Bool}

structure EndsAtom (braces : Bool) (ts : List Token) : Prop extends EndsPath ts where
  bang : has ts "!" = false
  hash : has ts "#" = false
  curly : (braces && has ts (.group .curly)) = false

structure EndsOperand (ts : List Token) : Prop where
  round : has ts (.group .round) = false
  square : has ts (.group .square) = false
  dot : hasDot ts = false
  question : has ts "?" = false

structure EndsExpression (braces : Bool) (ts : List Token) : Prop
    extends EndsAtom braces ts, EndsOperand ts where
  binary : binaryAhead ts = none
  equals : assigns ts = false
  range : has ts ".." = false
  cast : has ts "as" = false

theorem endsExpression_of_endsItem (h : endsItem ts) (braces : Bool) :
    EndsExpression braces ts := by
  unfold endsItem at h
  split at h
  · exact ⟨⟨⟨rfl, rfl⟩, rfl, rfl, Bool.and_false _⟩, ⟨rfl, rfl, rfl, rfl⟩, rfl, rfl, rfl, rfl⟩
  · exact ⟨⟨⟨rfl, rfl⟩, rfl, rfl, Bool.and_false _⟩, ⟨rfl, rfl, rfl, rfl⟩, rfl, rfl, rfl, rfl⟩
  · exact absurd h Bool.false_ne_true

theorem endsExpression_semicolon (braces : Bool) (ts : List Token) :
    EndsExpression braces (.mark ';' false :: ts) :=
  ⟨⟨⟨rfl, rfl⟩, rfl, rfl, Bool.and_false _⟩, ⟨rfl, rfl, rfl, rfl⟩, rfl, rfl, rfl, rfl⟩

theorem endsExpression_curly (inner ts : List Token) :
    EndsExpression false (.group .curly inner :: ts) :=
  ⟨⟨⟨rfl, rfl⟩, rfl, rfl, rfl⟩, ⟨rfl, rfl, rfl, rfl⟩, rfl, rfl, rfl, rfl⟩

theorem takes_suffixStep_end (h : EndsOperand rest) (form : Form) :
    Takes (suffixStep read form) rest (form, false) rest := by
  refine (takes_ahead rest).bind ?_
  simp only [h.round, h.square, h.dot, h.question, Bool.false_and, Bool.false_eq_true, if_false]
  exact takes_pure _ rest

theorem takes_suffixStep_call (h : Takes (commas (expression read)) ts () []) (form : Form) :
    Takes (suffixStep read form) (.group .round ts :: rest) (.plain, true) rest :=
  (takes_ahead _).bind (h.inside.bind (takes_pure _ rest))

theorem takes_member (ht : t.isIdentifier) (ts : List Token) :
    Takes member (t :: ts) true ts := by
  cases t with
  | word w =>
    refine (takes_ahead _).bind ?_
    have hname : has (.word w :: ts) .identifier = true := ht
    simp only [hname, if_true]
    exact (takes_takeIdentifier (t := .word w) ht ts).bind (takes_pure true ts)
  | raw => exact fun _ => rfl
  | _ => exact absurd ht Bool.false_ne_true

theorem takes_memberAccess (ht : t.isIdentifier) (h : Takes (commas (expression read)) ts () []) :
    Takes (memberAccess read) (t :: .group .round ts :: rest) () rest := by
  refine (takes_takeIf (has_identifier ht (by decide) _)).bind ?_
  refine (takes_member ht _).bind ((takes_ahead _).bind ?_)
  exact (takes_ahead _).bind h.inside

theorem takes_suffixStep_member (h : Takes (memberAccess read) ts () rest)
    (hfloat : ∀ text us, ts ≠ .literal .float text :: us) {form : Form} (hform : form ≠ .range) :
    Takes (suffixStep read form) (.mark '.' false :: ts) (.plain, true) rest := by
  have hround : has (.mark '.' false :: ts) (.group .round) = false := rfl
  have hdot : hasDot (.mark '.' false :: ts) = true := rfl
  refine (takes_ahead _).bind ?_
  simp only [hround, hdot, decide_eq_true hform, Bool.and_self, Bool.false_eq_true, if_false,
    if_true]
  refine Takes.bind (fun _ => rfl) ((takes_ahead ts).bind ?_)
  split
  · exact absurd rfl (hfloat _ _)
  · exact h.bind (takes_pure _ rest)

theorem takes_suffixStep_method (ht : t.isIdentifier)
    (h : Takes (commas (expression read)) ts () []) {form : Form} (hform : form ≠ .range) :
    Takes (suffixStep read form) (.mark '.' false :: t :: .group .round ts :: rest) (.plain, true)
      rest := by
  refine takes_suffixStep_member (takes_memberAccess ht h) ?_ hform
  rintro text us ⟨⟩
  exact Bool.false_ne_true ht

theorem takes_suffixStep_first {form : Form} (hform : form ≠ .range) :
    Takes (suffixStep read form) (.mark '.' false :: .literal .integer "0" :: rest) (.plain, true)
      rest :=
  takes_suffixStep_member (fun _ => rfl) (by simp) hform

theorem takes_outerAttributes_none (h : has ts "#" = false) :
    Takes (outerAttributes read) ts false ts := by
  refine takes_loop (takes_rounds_end ((takes_ahead ts).bind ?_))
  rw [h]
  exact takes_pure _ ts

def Continues (read : Parts) (braces : Bool) (ts : List Token) : Prop :=
  ∀ rest, EndsAtom braces rest → ∃ form n, form ≠ .range ∧ rest.length < n ∧ ∀ x us,
    Takes (rounds (suffixStep read) n form) rest x us →
      Takes (do suffixes read (← atom read braces)) (ts ++ rest) x us

theorem continues_atom (form : Form) (hform : form ≠ .range)
    (h : ∀ rest, EndsAtom braces rest → Takes (atom read braces) (ts ++ rest) form rest) :
    Continues read braces ts :=
  fun rest hrest => ⟨form, rest.length + 1, hform, Nat.lt_succ_self _,
    fun _ _ hsuffixes => (h rest hrest).bind (takes_loop hsuffixes)⟩

theorem Continues.step (h : Continues read braces ts)
    (hends : ∀ rest, EndsAtom braces (us ++ rest)) (hus : us ≠ [])
    (hstep : ∀ form rest, form ≠ .range →
      Takes (suffixStep read form) (us ++ rest) (.plain, true) rest) :
    Continues read braces (ts ++ us) := by
  intro rest hrest
  obtain ⟨form, n, hform, hn, h⟩ := h (us ++ rest) (hends rest)
  have hlength : 0 < us.length := List.length_pos_iff.mpr hus
  rw [List.length_append] at hn
  obtain ⟨n, rfl⟩ := Nat.exists_eq_succ_of_ne_zero (Nat.ne_zero_of_lt hn)
  refine ⟨.plain, n, by decide, by omega, fun x vs hsuffixes => ?_⟩
  rw [List.append_assoc]
  exact h x vs (takes_rounds_more (hstep form rest hform) hsuffixes)

def signs : List Due :=
  ["#", "&", "*", "!", "-"]

theorem takes_operand {form : Form} (hfront : ∀ d ∈ signs, has ts d = false)
    (h : Takes (do suffixes read (← atom read braces)) ts form rest) :
    Takes (operand read braces) ts form rest := by
  have hunary : hasAny ts ["*", "!", "-"] = false :=
    hasAny_eq_false_iff.mpr fun d hd => hfront d (by simp_all [signs])
  have hform := h.bind (takes_pure form rest)
  rw [bind_assoc] at hform
  refine (takes_outerAttributes_none (hfront "#" (by decide))).bind ((takes_ahead ts).bind ?_)
  rw [hfront "&" (by decide), hunary]
  exact hform

theorem takes_operand_of_atom {form : Form}
    (hfront : ∀ d ∈ signs, has ts d = false)
    (h : Takes (atom read braces) ts form rest) (hrest : EndsOperand rest) :
    Takes (operand read braces) ts form rest :=
  takes_operand hfront
    (h.bind (takes_loop (takes_rounds_end (takes_suffixStep_end hrest form))))

theorem Continues.takes_atom (h : Continues read braces ts) (hatom : EndsAtom braces rest)
    (hrest : EndsOperand rest) :
    ∃ form, form ≠ .range ∧
      Takes (do suffixes read (← atom read braces)) (ts ++ rest) form rest := by
  obtain ⟨form, n, hform, hn, h⟩ := h rest hatom
  obtain ⟨n, rfl⟩ := Nat.exists_eq_succ_of_ne_zero (Nat.ne_zero_of_lt hn)
  exact ⟨form, hform, h _ _ (takes_rounds_end (takes_suffixStep_end hrest form))⟩

theorem takes_operatorStep_end (h : EndsExpression braces rest) (form : Form) (base : Precedence) :
    Takes (operatorStep read braces base form) rest (form, false) rest := by
  refine (takes_ahead rest).bind ?_
  simp only [h.binary, h.equals, h.range, h.cast, Bool.and_false, Bool.false_eq_true, if_false]
  split
  · exact takes_pure _ rest
  · exact takes_pure _ rest

theorem takes_operators_end (h : EndsExpression braces rest) (form : Form) (base : Precedence) :
    Takes (operators read form braces base) rest form rest :=
  takes_loop (takes_rounds_end (takes_operatorStep_end h form base))

theorem takes_pathExpression (ht : t.isSegment) (hus : ∀ u ∈ us, u.isSegment)
    (hrest : EndsAtom braces rest) :
    Takes (pathExpression read braces) (t :: (laterTokens us ++ rest)) .plain rest := by
  have hpath : Takes (path read true) (t :: (laterTokens us ++ rest)) _ rest :=
    takes_path ht hus hrest.toEndsPath false
  refine (takes_qualifiedPath ht hpath).bind ((takes_ahead rest).bind ?_)
  simp only [isInvocation, hrest.bang, hrest.curly, Option.any_some, Bool.false_and,
    Bool.false_eq_true, if_false]
  exact takes_pure _ rest

theorem takes_pathExpression_invocation (ht : t.isIdentifier) (ts : List Token) :
    Takes (pathExpression read braces) (t :: .mark '!' false :: .group .round ts :: rest) .plain
      rest := by
  have hsegment := isSegment_iff.mpr (.inl ht)
  refine (takes_qualifiedPath hsegment (takes_path_name hsegment ⟨rfl, rfl⟩)).bind ?_
  exact fun _ => rfl

theorem takes_atom_of_path {form : Form} (ht : t.isSegment) (hhash : has ts "#" = false)
    (h : Takes (pathExpression read braces) (t :: ts) form rest) :
    Takes (atom read braces) (t :: ts) form rest := by
  have hliteral := has_segment ht (by decide : Due.isForeign .literal) ts
  have hfor := has_segment ht (by decide : Due.isForeign "for") ts
  have hconst := has_segment ht (by decide : Due.isForeign "const") ts
  have hasync := has_segment ht (by decide : Due.isForeign "async") ts
  have hwords : hasAny (t :: ts) ["|", "move", "static"] = false := hasAny_segment ht (by decide) ts
  have hclosure : startsClosure (t :: ts) = false := by
    simp only [startsClosure, startsBinder, hwords, hfor, hconst, hasync, Bool.false_and,
      Bool.or_false]
  have hbuiltin : (has (t :: ts) "builtin" && hasSecond (t :: ts) "#") = false :=
    Bool.and_eq_false_iff.mpr (.inr hhash)
  have hpath : startsPathExpression (t :: ts) = true :=
    Bool.or_eq_true_iff.mpr (.inl (hasAny_of_isSegment ht ts (by decide)))
  refine (takes_ahead _).bind ?_
  simp only [hliteral, hasync, hclosure, hbuiltin, hpath, Bool.false_and, Bool.false_eq_true,
    if_false, if_true]
  exact h

def ReadsEach (read : Parts) (es : List (List Token)) : Prop :=
  ∀ e ∈ es, e ≠ [] ∧ ∀ rest, endsItem rest → Takes (expression read) (e ++ rest) () rest

theorem takes_atom_round {es : List (List Token)} (h : ReadsEach read es) :
    Takes (atom read braces) (.group .round (separated es) :: rest) .plain rest :=
  (takes_ahead _).bind ((takes_commas h).inside.bind (takes_pure _ rest))

theorem takes_atom_square {es : List (List Token)} (h : ReadsEach read es) :
    Takes (atom read braces) (.group .square (separated es) :: rest) .plain rest := by
  have hsquare : Takes (squareExpression read) (.group .square (separated es) :: rest) () rest := by
    cases es with
    | nil => exact Takes.inside fun _ => rfl
    | cons e es =>
      obtain ⟨⟨he, hexpression⟩, hes⟩ := List.forall_mem_cons.mp h
      have hempty : (separated (e :: es)).isEmpty = false := by
        simpa [separated] using fun h => absurd h he
      refine Takes.inside ((takes_isDone _).bind ?_)
      rw [hempty]
      cases es with
      | nil =>
        rw [separated, List.flatMap_nil]
        exact (hexpression [] rfl).bind fun _ => rfl
      | cons f es =>
        rw [separated_cons_cons]
        refine (hexpression _ rfl).bind ((takes_ahead _).bind ?_)
        exact Takes.bind (fun _ => rfl) (takes_commas hes)
  exact (takes_ahead _).bind (hsquare.bind (takes_pure _ rest))

def patternMarks : List Due :=
  ["::", "!", .group .curly, .group .round, "..", "@"]

theorem takes_namePattern (ht : t.isIdentifier) (hrest : hasAny rest patternMarks = false) :
    Takes (oneOfPatterns read) (t :: rest) .plain rest := by
  have hforeign {d : Due} (hd : d.isReserved) : has (t :: rest) d = false :=
    has_identifier ht hd rest
  have hpath : startsPathPattern (t :: rest) = false := by
    have hsecond : hasAny rest ["::", "!", .group .curly, .group .round, ".."] = false :=
      hasAny_eq_false_iff.mpr fun d hd =>
        hasAny_eq_false_iff.mp hrest d (by simp [patternMarks] at hd ⊢; tauto)
    have hothers : hasAny (t :: rest) ["::", "<", "Self", "super", "crate"] = false :=
      hasAny_identifier ht (by decide) rest
    simp only [startsPathPattern, List.drop_one, List.tail_cons, hsecond, hothers,
      hforeign (by decide : Due.isReserved "self"), Bool.false_and, Bool.and_false, Bool.or_false]
  have hconstant : hasAny (t :: rest) ["-", .literal, "const"] = false :=
    hasAny_identifier ht (by decide) rest
  have hname : hasAny (t :: rest) ["ref", "mut", "self", .identifier] = true := by
    simp only [hasAny, List.any_cons, has_of_isIdentifier ht, Bool.or_true, Bool.true_or]
  have hself := takes_takeIf (hforeign (by decide : Due.isReserved "self"))
  have hat := takes_takeIf (hasAny_eq_false_iff.mp hrest "@" (by decide))
  have hbinding : Takes (bindingPattern read) (t :: rest) () rest := by
    refine (takes_takeIf (hforeign (by decide : Due.isReserved "ref"))).bind ?_
    refine (takes_takeIf (hforeign (by decide : Due.isReserved "mut"))).bind (hself.bind ?_)
    exact (takes_takeIdentifier ht rest).bind (hat.bind (takes_pure _ rest))
  refine (takes_ahead _).bind ?_
  simp only [hpath, hforeign (by decide : Due.isReserved "_"),
    hforeign (by decide : Due.isReserved "box"), hconstant, hname, Bool.false_eq_true, if_false,
    if_true]
  exact hbinding.bind (takes_pure _ rest)

theorem takes_wildcard (rest : List Token) :
    Takes (oneOfPatterns read) (.word "_" :: rest) .plain rest :=
  fun _ => rfl

theorem takes_closureParameter {form : Form} (hhash : has ts "#" = false)
    (h : Takes (read .singlePattern) ts form rest) (hcolon : has rest ":" = false) :
    Takes (closureParameter read) ts () rest :=
  (takes_outerAttributes_none hhash).bind
    (h.bind ((takes_takeIf hcolon).bind (takes_pure _ rest)))

theorem takes_closure {form : Form}
    (hparams : Takes (list "," (fun ts => has ts "|") (closureParameter read)) ts ()
      (.mark '|' false :: us))
    (harrow : has us "->" = false)
    (hbody : Takes (read (.expression braces)) us form rest) :
    Takes (atom read braces) (.mark '|' false :: ts) .plain rest := by
  have hclosure : Takes (closure read braces) (.mark '|' false :: ts) () rest := by
    have hwords : Takes (forIn ["const", "static", "async", "move"] () fun w _ => do
        let _ ← takeIf w
        return .yield ()) (.mark '|' false :: ts) () (.mark '|' false :: ts) := fun _ => rfl
    refine (takes_binderIf rfl).bind (hwords.bind (Takes.bind (fun _ => rfl) ?_))
    refine hparams.bind (Takes.bind (fun _ => rfl) ?_)
    exact (takes_takeIf harrow).bind (hbody.bind (takes_pure _ rest))
  exact (takes_ahead _).bind (hclosure.bind (takes_pure _ rest))

end Grammar

namespace Expr

def constants : List String :=
  ["true", "false", "42.0", "42_i64", "\x7b\x7d"]

def handlerParams : String :=
  "_: Context, _: Event"

def isOperand : Expr → Bool
  | lambda .. => false
  | _ => true

mutual

def isGrammatical : Expr → Bool
  | atom s => arePath (ofText s) || constants.contains s
  | text _ => true
  | call f args => (arePath (ofText f) || f == "format!") && eachGrammatical args
  | method r n args => r.isOperand && r.isGrammatical && areName (ofText n) && eachGrammatical args
  | field r n => r.isOperand && r.isGrammatical && n == "0"
  | array es | tuple es => eachGrammatical es
  | lambda p e => (areName (ofText p) || p == handlerParams) && e.isGrammatical

def eachGrammatical : List Expr → Bool
  | [] => true
  | e :: es => e.isGrammatical && eachGrammatical es

end

def foreign : List Due :=
  Grammar.signs ++ ([",", ";", ".", "?", "->"] : List Due)

structure Reads (e : Expr) : Prop where
  continues : e.isOperand → ∀ n, 4 * count e.emitted ≤ n + 3 → ∀ braces,
    Grammar.Continues (Grammar.parts n) braces e.emitted
  operand : ∀ n, 4 * count e.emitted ≤ n + 2 → ∀ braces rest,
    Grammar.EndsExpression braces rest →
    ∃ form, Takes (Grammar.parts n (.operand braces)) (e.emitted ++ rest) form rest

theorem Reads.operation {e : Expr} (h : e.Reads) {n : Nat} (hn : 4 * count e.emitted ≤ n + 2)
    (hpos : n ≠ 0) {braces : Bool} {rest : List Token}
    (hrest : Grammar.EndsExpression braces rest) : ∃ form, Takes (do
      let form ← Grammar.parts n (.operand braces)
      Grammar.parts n (.operators form braces .jump)) (e.emitted ++ rest) form rest := by
  obtain ⟨form, hoperand⟩ := h.operand n hn braces rest hrest
  obtain ⟨n, rfl⟩ := Nat.exists_eq_succ_of_ne_zero hpos
  exact ⟨form, hoperand.bind (Grammar.takes_operators_end hrest form .jump)⟩

theorem Reads.expression {e : Expr} (h : e.Reads) {n : Nat} (hn : 4 * count e.emitted ≤ n)
    (hpos : 2 ≤ n) {braces : Bool} {rest : List Token}
    (hrest : Grammar.EndsExpression braces rest) :
    ∃ form, Takes (Grammar.parts n (.expression braces)) (e.emitted ++ rest) form rest := by
  obtain ⟨n, rfl⟩ := Nat.exists_eq_succ_of_ne_zero (by omega : n ≠ 0)
  exact h.operation (by omega) (by omega) hrest

theorem front_of_segment {t : Token} (h : t.isSegment) (ts : List Token) :
    t :: ts ≠ [] ∧ ∀ d ∈ foreign, has (t :: ts) d = false :=
  ⟨List.cons_ne_nil t ts, hasAny_eq_false_iff.mp (hasAny_segment h (by decide) ts)⟩

theorem front_of_path {s : String} (h : arePath (ofText s)) (rest : List Token) :
    ofText s ++ rest ≠ [] ∧ ∀ d ∈ foreign, has (ofText s ++ rest) d = false := by
  obtain ⟨t, ts, hs, ht, -⟩ := Grammar.eq_of_arePath h
  rw [hs]
  exact front_of_segment ht _

theorem front_of_constant {s : String} (h : constants.contains s) (rest : List Token) :
    ofText s ++ rest ≠ [] ∧ ∀ d ∈ foreign, has (ofText s ++ rest) d = false := by
  simp only [constants, List.contains_cons, List.contains_nil, Bool.or_false, Bool.or_eq_true,
    beq_iff_eq] at h
  rcases h with rfl | rfl | rfl | rfl | rfl <;>
    exact ⟨List.cons_ne_nil _ _, hasAny_eq_false_iff.mp rfl⟩

theorem front_emitted (e : Expr) (h : e.isGrammatical) (rest : List Token) :
    e.emitted ++ rest ≠ [] ∧ ∀ d ∈ foreign, has (e.emitted ++ rest) d = false := by
  cases e with
  | atom s =>
    rcases Bool.or_eq_true_iff.mp h with h | h
    · exact front_of_path h rest
    · exact front_of_constant h rest
  | call f args =>
    rw [emitted, List.append_assoc]
    rcases Bool.or_eq_true_iff.mp (Bool.and_eq_true_iff.mp h).1 with h | h
    · exact front_of_path h _
    · rw [beq_iff_eq.mp h]
      exact ⟨List.cons_ne_nil _ _, hasAny_eq_false_iff.mp rfl⟩
  | method r n args =>
    simp only [isGrammatical, Bool.and_eq_true] at h
    rw [emitted, List.append_assoc]
    exact front_emitted r h.1.1.2 _
  | field r n =>
    simp only [isGrammatical, Bool.and_eq_true] at h
    rw [emitted, List.append_assoc]
    exact front_emitted r h.1.2 _
  | text | array | tuple | lambda => exact ⟨List.cons_ne_nil _ _, hasAny_eq_false_iff.mp rfl⟩

theorem count_pos {e : Expr} (h : e.isGrammatical) : 0 < count e.emitted := by
  obtain ⟨hne, -⟩ := front_emitted e h []
  rw [List.append_nil] at hne
  exact count_pos_of_ne_nil hne

theorem Reads.of_continues {e : Expr} (h : e.isGrammatical)
    (hread : ∀ n, 4 * count e.emitted ≤ n + 3 → ∀ braces,
      Grammar.Continues (Grammar.parts n) braces e.emitted) : e.Reads where
  continues _ := hread
  operand n hn braces rest hrest := by
    have hpos := count_pos h
    obtain ⟨n, rfl⟩ := Nat.exists_eq_succ_of_ne_zero (by omega : n ≠ 0)
    obtain ⟨-, hfront⟩ := front_emitted e h rest
    have hsigns : ∀ d ∈ Grammar.signs, has (e.emitted ++ rest) d = false :=
      fun d hd => hfront d (List.mem_append_left _ hd)
    obtain ⟨form, -, hatom⟩ := (hread n (by omega) braces).takes_atom hrest.toEndsAtom
      hrest.toEndsOperand
    exact ⟨form, Grammar.takes_operand hsigns hatom⟩

theorem continues_constant {s : String} (h : constants.contains s) {read : Grammar.Parts}
    {form : Grammar.Form} (hempty : Takes (read .statements) [] form []) (braces : Bool) :
    Grammar.Continues read braces (ofText s) := by
  simp only [constants, List.contains_cons, List.contains_nil, Bool.or_false, Bool.or_eq_true,
    beq_iff_eq] at h
  rcases h with rfl | rfl | rfl | rfl | rfl
  · exact Grammar.continues_atom .plain (by decide) fun _ _ _ => rfl
  · exact Grammar.continues_atom .plain (by decide) fun _ _ _ => rfl
  · exact Grammar.continues_atom .plain (by decide) fun _ _ _ => rfl
  · exact Grammar.continues_atom .plain (by decide) fun _ _ _ => rfl
  · refine Grammar.continues_atom .block (by decide) fun rest _ => ?_
    have hinside : Takes (do
        Grammar.innerAttributes read
        let _ ← read .statements : Reader Unit) [] () [] :=
      Takes.bind (fun _ => rfl) (hempty.bind (takes_pure _ []))
    have hblock : Takes (Grammar.attributedBlock read) (.group .curly [] :: rest) () rest :=
      hinside.inside
    exact (takes_ahead _).bind (hblock.bind (takes_pure Grammar.Form.block rest))

theorem emittedEach_eq_map (es : List Expr) : emittedEach es = es.map emitted := by
  induction es with
  | nil => rfl
  | cons e es ih => rw [emittedEach, ih, List.map_cons]

theorem readsEach {es : List Expr} (h : ∀ e ∈ es, e.isGrammatical ∧ e.Reads) {n : Nat}
    (hn : 4 * count (separated (emittedEach es)) ≤ n) :
    Grammar.ReadsEach (Grammar.parts n) (emittedEach es) := by
  intro ts hts
  have hcount := count_le_count_separated hts
  rw [emittedEach_eq_map] at hts
  obtain ⟨e, he, rfl⟩ := List.mem_map.mp hts
  obtain ⟨hgrammatical, hreads⟩ := h e he
  have hpos := count_pos hgrammatical
  obtain ⟨hne, -⟩ := front_emitted e hgrammatical []
  refine ⟨by simpa using hne, fun rest hrest => ?_⟩
  obtain ⟨form, hread⟩ := hreads.expression (n := n) (by omega) (by omega)
    (Grammar.endsExpression_of_endsItem hrest true)
  exact hread.bind (takes_pure () rest)

theorem continues_path {s : String} (h : arePath (ofText s)) (read : Grammar.Parts)
    (braces : Bool) : Grammar.Continues read braces (ofText s) := by
  obtain ⟨t, ts, hs, ht, hts⟩ := Grammar.eq_of_arePath h
  rw [hs]
  exact Grammar.continues_atom .plain (by decide) fun rest hrest =>
    Grammar.takes_atom_of_path ht (Grammar.has_hash_later ts hrest.hash)
      (Grammar.takes_pathExpression ht hts hrest)

theorem reads_atom {s : String} (h : (atom s).isGrammatical) : (atom s).Reads := by
  refine .of_continues h fun n hn braces => ?_
  have hpos := count_pos h
  rcases Bool.or_eq_true_iff.mp h with h | h
  · exact continues_path h _ braces
  · obtain ⟨n, rfl⟩ := Nat.exists_eq_succ_of_ne_zero (by omega : n ≠ 0)
    have hempty : Takes (Grammar.parts (n + 1) .statements) [] .plain [] := fun _ => rfl
    exact continues_constant h hempty braces

theorem reads_text (s : String) : (text s).Reads :=
  .of_continues rfl fun _ _ _ =>
    Grammar.continues_atom .plain (by decide) fun _ _ _ => rfl

theorem reads_call {f : String} {args : List Expr} (h : (call f args).isGrammatical)
    (hargs : ∀ e ∈ args, e.isGrammatical ∧ e.Reads) : (call f args).Reads := by
  refine .of_continues h fun n hn braces => ?_
  rw [emitted] at hn ⊢
  simp only [count_append, count_cons, size_group, count_nil] at hn
  have heach := readsEach hargs (n := n) (by omega)
  rcases Bool.or_eq_true_iff.mp (Bool.and_eq_true_iff.mp h).1 with hf | hf
  · exact (continues_path hf _ braces).step
      (fun _ => ⟨⟨rfl, rfl⟩, rfl, rfl, Bool.and_false _⟩) (List.cons_ne_nil _ _)
      fun form _ _ => Grammar.takes_suffixStep_call (takes_commas heach) form
  · rw [beq_iff_eq.mp hf]
    refine Grammar.continues_atom .plain (by decide) fun rest _ => ?_
    exact Grammar.takes_atom_of_path (t := .word "format") (by decide) rfl
      (Grammar.takes_pathExpression_invocation (by decide) _)

theorem reads_method {r : Expr} {n : String} {args : List Expr}
    (h : (method r n args).isGrammatical) (hr : r.Reads)
    (hargs : ∀ e ∈ args, e.isGrammatical ∧ e.Reads) : (method r n args).Reads := by
  refine .of_continues h fun m hm braces => ?_
  simp only [isGrammatical, Bool.and_eq_true] at h
  obtain ⟨⟨⟨hoperand, -⟩, hn⟩, -⟩ := h
  obtain ⟨t, hn, ht⟩ := Grammar.eq_of_areName hn
  rw [emitted, hn] at hm ⊢
  simp only [List.singleton_append, count_append, count_cons, size_group, size_mark, count_nil]
    at hm
  have heach := readsEach hargs (n := m) (by omega)
  exact (hr.continues hoperand m (by omega) braces).step
    (fun _ => ⟨⟨rfl, rfl⟩, rfl, rfl, Bool.and_false _⟩) (List.cons_ne_nil _ _)
    fun form rest hform => Grammar.takes_suffixStep_method ht (takes_commas heach) hform

theorem reads_wrapped {r : Expr} {n : String} (h : (field r n).isGrammatical) (hr : r.Reads) :
    (field r n).Reads := by
  refine .of_continues h fun m hm braces => ?_
  simp only [isGrammatical, Bool.and_eq_true, beq_iff_eq] at h
  obtain ⟨⟨hoperand, -⟩, rfl⟩ := h
  rw [emitted, count_append] at hm
  exact (hr.continues hoperand m (by omega) braces).step
    (fun _ => ⟨⟨rfl, rfl⟩, rfl, rfl, Bool.and_false _⟩) (List.cons_ne_nil _ _)
    fun form rest hform => Grammar.takes_suffixStep_first hform

theorem reads_array {es : List Expr} (h : (array es).isGrammatical)
    (hes : ∀ e ∈ es, e.isGrammatical ∧ e.Reads) : (array es).Reads := by
  refine .of_continues h fun n hn braces => ?_
  simp only [emitted, count_cons, size_group, count_nil] at hn
  have heach := readsEach hes (n := n) (by omega)
  exact Grammar.continues_atom .plain (by decide) fun rest _ =>
    Grammar.takes_atom_square heach

theorem reads_tuple {es : List Expr} (h : (tuple es).isGrammatical)
    (hes : ∀ e ∈ es, e.isGrammatical ∧ e.Reads) : (tuple es).Reads := by
  refine .of_continues h fun n hn braces => ?_
  simp only [emitted, count_cons, size_group, count_nil] at hn
  have heach := readsEach hes (n := n) (by omega)
  exact Grammar.continues_atom .plain (by decide) fun rest _ =>
    Grammar.takes_atom_round heach

theorem takes_params {p : String} (h : areName (ofText p) || p == handlerParams) {n : Nat}
    (hn : n ≠ 0) (ts : List Token) :
    Takes (list "," (fun ts => has ts "|") (Grammar.closureParameter (Grammar.parts n)))
      (ofText p ++ .mark '|' false :: ts) () (.mark '|' false :: ts) := by
  obtain ⟨n, rfl⟩ := Nat.exists_eq_succ_of_ne_zero hn
  rcases Bool.or_eq_true_iff.mp h with h | h
  · obtain ⟨t, hp, ht⟩ := Grammar.eq_of_areName h
    rw [hp]
    have hpattern : Takes (Grammar.parts (n + 1) .singlePattern) (t :: .mark '|' false :: ts) .plain
        (.mark '|' false :: ts) := Grammar.takes_namePattern ht rfl
    have hparam := Grammar.takes_closureParameter (has_identifier ht (by decide) _) hpattern rfl
    exact takes_list_one (has_identifier ht (by decide : Due.isReserved "|") _) hparam rfl
  · rw [beq_iff_eq.mp h]
    exact fun _ => rfl

theorem reads_lambda {p : String} {e : Expr} (h : (lambda p e).isGrammatical) (he : e.Reads) :
    (lambda p e).Reads := by
  refine ⟨fun h => absurd h Bool.false_ne_true, fun n hn braces rest hrest => ?_⟩
  obtain ⟨hp, hgrammatical⟩ := Bool.and_eq_true_iff.mp h
  rw [emitted] at hn ⊢
  simp only [count_append, count_cons, size_mark] at hn
  obtain ⟨n, rfl⟩ := Nat.exists_eq_succ_of_ne_zero (by omega : n ≠ 0)
  obtain ⟨form, hbody⟩ := he.expression (n := n) (by omega) (by omega) hrest
  obtain ⟨-, hfront⟩ := front_emitted e hgrammatical rest
  have hparams := takes_params hp (by omega : n ≠ 0) (e.emitted ++ rest)
  have hclosure := Grammar.takes_closure hparams (hfront "->" (by decide)) hbody
  refine ⟨.plain, ?_⟩
  rw [List.cons_append, List.append_assoc]
  exact Grammar.takes_operand_of_atom (hasAny_eq_false_iff.mp rfl) hclosure hrest.toEndsOperand

mutual

theorem reads_grammatical (e : Expr) (h : e.isGrammatical) : e.Reads := by
  cases e with
  | atom s => exact reads_atom h
  | text s => exact reads_text s
  | call f args => exact reads_call h (reads_of_each args (Bool.and_eq_true_iff.mp h).2)
  | method r n args =>
    obtain ⟨hmember, hargs⟩ := Bool.and_eq_true_iff.mp h
    simp only [Bool.and_eq_true] at hmember
    exact reads_method h (reads_grammatical r hmember.1.2) (reads_of_each args hargs)
  | field r n =>
    obtain ⟨hr, -⟩ := Bool.and_eq_true_iff.mp h
    exact reads_wrapped h (reads_grammatical r (Bool.and_eq_true_iff.mp hr).2)
  | array es => exact reads_array h (reads_of_each es h)
  | tuple es => exact reads_tuple h (reads_of_each es h)
  | lambda p e => exact reads_lambda h (reads_grammatical e (Bool.and_eq_true_iff.mp h).2)

theorem reads_of_each (es : List Expr) (h : eachGrammatical es) :
    ∀ e ∈ es, e.isGrammatical ∧ e.Reads := by
  cases es with
  | nil => simp
  | cons e es =>
    obtain ⟨he, hes⟩ := Bool.and_eq_true_iff.mp h
    exact List.forall_mem_cons.mpr ⟨⟨he, reads_grammatical e he⟩, reads_of_each es hes⟩

end

end Expr

end TypedMarkup.Code
