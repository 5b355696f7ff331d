import TypedMarkup.Proofs.Grammar.Expression

namespace TypedMarkup.Code

open Token Reader

namespace Grammar

variable {read : Parts} {t : Token} {ts us rest : List Token}

theorem takes_plainRounds (ht : t.isSegment) (hus : ∀ u ∈ us, u.isSegment)
    (hrest : has rest "::" = false) {n : Nat} (hn : us.length < n) (st : Option Bool) :
    Takes (rounds plainStep n st) (t :: (laterTokens us ++ rest)) (some false) rest := by
  induction us generalizing n t st with
  | nil =>
    obtain ⟨n, rfl⟩ := Nat.exists_eq_succ_of_ne_zero (Nat.ne_zero_of_lt hn)
    refine takes_rounds_end ((takes_ahead _).bind ?_)
    rw [if_pos (hasAny_of_isSegment ht _ (List.Subset.refl plainSegments))]
    exact (takes_takeWord ht rest).bind ((takes_takeIf hrest).bind (takes_pure _ rest))
  | cons u us ih =>
    rw [List.forall_mem_cons] at hus
    obtain ⟨n, rfl⟩ := Nat.exists_eq_succ_of_ne_zero (Nat.ne_zero_of_lt hn)
    have hnext := ih hus.1 hus.2 (Nat.lt_of_succ_lt_succ hn) (some true)
    refine takes_rounds_more ?_ hnext
    refine (takes_ahead _).bind ?_
    rw [if_pos (hasAny_of_isSegment ht _ (List.Subset.refl plainSegments))]
    exact (takes_takeWord ht _).bind (Takes.bind (fun _ => rfl) (takes_pure _ _))

theorem takes_plainPath (ht : t.isSegment) (hus : ∀ u ∈ us, u.isSegment)
    (hrest : has rest "::" = false) :
    Takes plainPath (t :: (laterTokens us ++ rest)) () rest := by
  have hlength : us.length < (t :: (laterTokens us ++ rest)).length + 1 := by
    simp only [List.length_cons, List.length_append, length_laterTokens]
    omega
  have hloop : Takes (loop plainStep none) (t :: (laterTokens us ++ rest)) (some false) rest :=
    takes_loop (takes_plainRounds ht hus hrest hlength none)
  exact (takes_takeIf (has_segment ht (by decide) _)).bind (hloop.bind (takes_pure () rest))

theorem takes_invocationAhead (h : Takes plainPath ts () rest) (hbang : has rest "!" = false) :
    Takes invocationAhead ts .none ts := by
  refine (h.bind (takes_ahead rest)).foresee.bind ?_
  dsimp only
  rw [hbang]
  exact takes_pure _ ts

def itemFollowers : List Due :=
  [.identifier, "trait", "unsafe", "impl"]

theorem startsItem_eq_false (ht : t.isSegment) (hcrate : has (t :: ts) "crate" = false)
    (hts : ∀ d ∈ itemFollowers, has ts d = false) : startsItem (t :: ts) = false := by
  have hwords : hasAny (t :: ts) itemWords = false := hasAny_segment ht (by decide) ts
  have hstatic := has_segment ht (by decide : Due.isForeign "static") ts
  have hconst := has_segment ht (by decide : Due.isForeign "const") ts
  have hunsafe := has_segment ht (by decide : Due.isForeign "unsafe") ts
  have hasync := has_segment ht (by decide : Due.isForeign "async") ts
  have hname : hasAny ts [.identifier] = false := by
    simpa [hasAny] using hts .identifier (by decide)
  have htrait : hasAny ts ["trait"] = false := by simpa [hasAny] using hts "trait" (by decide)
  have himpl : hasAny ts ["unsafe", "impl"] = false := by
    simpa [hasAny] using ⟨hts "unsafe" (by decide), hts "impl" (by decide)⟩
  simp only [startsItem, hwords, hcrate, hstatic, hconst, hunsafe, hasync, List.drop_one,
    List.tail_cons, hname, htrait, himpl, Bool.false_and, Bool.and_false, Bool.or_false]

theorem blockReader_eq_none (ht : t.isSegment) : blockReader read (t :: ts) = none := by
  have hforeign : hasAny (t :: ts) ["if", "while", "for", "loop", "match", "try", "unsafe", "const",
      .group .curly, .lifetime] = false := hasAny_segment ht (by decide) ts
  simp only [hasAny, List.any_cons, List.any_nil, Bool.or_false, Bool.or_eq_false_iff] at hforeign
  obtain ⟨hif, hwhile, hfor, hloop, hmatch, htry, hunsafe, hconst, hcurly, hlifetime⟩ := hforeign
  simp only [blockReader, hif, hwhile, hfor, hloop, hmatch, htry, hunsafe, hconst, hcurly,
    hlifetime, Bool.false_and, Bool.false_eq_true, if_false]

def leadFollowers : List Due :=
  ["::", "!", .identifier, "trait", "unsafe", "impl"]

structure Leads (ts : List Token) : Prop where
  front : ∃ t us vs, ts = t :: (laterTokens us ++ vs) ∧ t.isSegment ∧ (∀ u ∈ us, u.isSegment) ∧
    ∀ d ∈ leadFollowers, has vs d = false
  crate : has ts "crate" = false

theorem Leads.segment (h : Leads ts) : ∃ t us, ts = t :: us ∧ t.isSegment := by
  obtain ⟨t, us, vs, hts, ht, -⟩ := h.front
  exact ⟨t, _, hts, ht⟩

theorem Leads.takes_invocationAhead (h : Leads ts) : Takes invocationAhead ts .none ts := by
  obtain ⟨t, us, vs, rfl, ht, hus, hvs⟩ := h.front
  exact Grammar.takes_invocationAhead (takes_plainPath ht hus (hvs "::" (by decide)))
    (hvs "!" (by decide))

theorem Leads.startsItem (h : Leads ts) : startsItem ts = false := by
  obtain ⟨t, us, vs, rfl, ht, -, hvs⟩ := h.front
  refine startsItem_eq_false ht h.crate fun d hd => ?_
  cases us with
  | nil => exact hvs d (by simp [leadFollowers, itemFollowers] at hd ⊢; tauto)
  | cons u us => exact hasAny_eq_false_iff.mp rfl d hd

theorem Leads.takes_standalone (h : Leads ts) {form : Form} (hread : Takes (do
      let form ← read (.operand true)
      read (.operators form true .jump)) ts form rest) :
    Takes (standalone read) ts form rest := by
  obtain ⟨t, us, rfl, ht⟩ := h.segment
  refine (takes_outerAttributes_none (has_segment ht (by decide) _)).bind ?_
  refine (takes_ahead _).bind ?_
  rw [blockReader_eq_none ht]
  exact hread

theorem Leads.takes_statement (h : Leads ts) {form : Form}
    (hread : Takes (read .standalone) ts form us) {ended : Bool}
    (hend : Takes (takeIf ";") us ended rest) :
    ∃ due, (ended → due = false) ∧ Takes (statement read) ts due rest := by
  obtain ⟨t, vs, rfl, ht⟩ := h.segment
  have hlet := has_segment ht (by decide : Due.isForeign "let") vs
  refine ⟨!ended && form ≠ .block && form ≠ .braced, ?_, ?_⟩
  · rintro rfl
    rfl
  · refine (takes_outerAttributes_none (has_segment ht (by decide) _)).bind ?_
    refine h.takes_invocationAhead.bind ((takes_ahead _).bind ?_)
    simp only [hlet, h.startsItem, reduceCtorEq, Bool.false_or, decide_false, Bool.false_eq_true,
      if_false]
    exact hread.bind (hend.bind (takes_pure _ rest))

theorem takes_rightOperand {braces : Bool} {form : Form}
    (h : Takes (read (.operand braces)) ts form rest) (hrest : EndsExpression braces rest)
    (p : Precedence) : Takes (rightOperand read braces p) ts () rest := by
  have hahead : precedenceAhead rest = .jump := by
    simp only [precedenceAhead, hrest.binary, hrest.equals, hrest.range, hrest.cast,
      Bool.false_eq_true, if_false]
  refine h.bind ((takes_loop (z := form) (takes_rounds_end ?_)).bind (takes_pure () rest))
  refine (takes_ahead rest).bind ?_
  rw [hahead]
  cases p <;> exact takes_pure _ rest

theorem takes_operators_assign {braces : Bool} {form right : Form} (hform : form ≠ .range)
    (h : Takes (read (.operand braces)) ts right rest) (hrest : EndsExpression braces rest) :
    Takes (operators read form braces .jump) (.mark '=' false :: ts) .plain rest := by
  have hbinary : binaryAhead (.mark '=' false :: ts) = none := rfl
  have hassigns : assigns (.mark '=' false :: ts) = true := rfl
  have hend : Takes (rounds (operatorStep read braces .jump) (ts.length + 1) .plain) rest .plain
      rest := takes_rounds_end (takes_operatorStep_end hrest .plain .jump)
  refine takes_loop (takes_rounds_more ?_ hend)
  refine (takes_ahead _).bind ?_
  rw [if_neg hform]
  simp only [hbinary, hassigns]
  exact Takes.bind (fun _ => rfl) ((takes_rightOperand h hrest .assign).bind (takes_pure _ rest))

theorem takes_alternatives {form : Form} (hbar : has ts "|" = false)
    (h : Takes (read .singlePattern) ts form rest) (hrest : has rest "|" = false) :
    Takes (alternatives read) ts form rest := by
  refine (takes_takeIf hbar).bind (h.bind ((takes_ahead rest).bind ?_))
  rw [alternates, hrest]
  exact takes_pure _ rest

theorem takes_tuplePattern (h : ∀ t ∈ ts, t.isIdentifier) (n : Nat) (hrest : has rest "|" = false) :
    Takes (parts (n + 4) .pattern) (.group .round (separated (ts.map ([·]))) :: rest) .plain
      rest := by
  have hnames : Takes (commas (pattern (parts (n + 2)))) (separated (ts.map ([·]))) () [] := by
    refine takes_commas fun e he => ?_
    obtain ⟨t, ht, rfl⟩ := List.mem_map.mp he
    refine ⟨List.cons_ne_nil _ _, fun us hus => ?_⟩
    obtain ⟨hbar, hmarks⟩ : has us "|" = false ∧ hasAny us patternMarks = false := by
      unfold endsItem at hus
      split at hus
      · exact ⟨rfl, rfl⟩
      · exact ⟨rfl, rfl⟩
      · exact absurd hus Bool.false_ne_true
    have hname : Takes (parts (n + 1) .singlePattern) (t :: us) .plain us :=
      takes_namePattern (h t ht) hmarks
    have hpattern := takes_alternatives (has_identifier (h t ht) (by decide) us) hname hbar
    exact hpattern.bind (takes_pure () us)
  have htuple : Takes (parts (n + 3) .singlePattern)
      (.group .round (separated (ts.map ([·]))) :: rest) .plain rest :=
    (takes_ahead _).bind (hnames.inside.bind (takes_pure _ rest))
  exact takes_alternatives rfl htuple hrest

theorem takes_bindingValue {form : Form} (h : Takes (read (.expression true)) ts form us)
    (hus : has us "else" = false) : Takes (bindingValue read) ts () us := by
  refine (takes_ahead ts).bind ((h.bind (takes_pure () us)).bind ((takes_ahead us).bind ?_))
  rw [hus]
  exact takes_pure () us

theorem takes_let_value {form : Form}
    (h : Takes (read (.expression true)) ts form (.mark ';' false :: rest)) :
    Takes (do
      if ← takeIf "=" then bindingValue read
      take ";" : Reader Unit) (.mark '=' false :: ts) () rest :=
  Takes.bind (fun _ => rfl) ((takes_bindingValue h rfl).bind fun _ => rfl)

theorem takes_statement_let (h : Takes (bindingStatement read) (.word "let" :: ts) () rest) :
    Takes (statement read) (.word "let" :: ts) false rest := by
  have hinvocation : Takes invocationAhead (.word "let" :: ts) .none (.word "let" :: ts) :=
    fun _ => rfl
  refine (takes_outerAttributes_none rfl).bind (hinvocation.bind ((takes_ahead _).bind ?_))
  exact h.bind (takes_pure false rest)

theorem takes_let {pattern form : Form}
    (hpattern : Takes (read .singlePattern) ts pattern (.mark '=' false :: us))
    (h : Takes (read (.expression true)) us form (.mark ';' false :: rest)) :
    Takes (statement read) (.word "let" :: ts) false rest := by
  refine takes_statement_let (Takes.bind (fun _ => rfl) ?_)
  refine (hpattern.bind (takes_pure () _)).bind ((takes_takeIf rfl).bind ?_)
  exact takes_let_value h

theorem takes_let_typed {pattern type form : Form} {vs : List Token}
    (hpattern : Takes (read .singlePattern) ts pattern (.mark ':' false :: us))
    (htype : Takes (read (.type true)) us type (.mark '=' false :: vs))
    (h : Takes (read (.expression true)) vs form (.mark ';' false :: rest)) :
    Takes (statement read) (.word "let" :: ts) false rest := by
  refine takes_statement_let (Takes.bind (fun _ => rfl) ?_)
  refine (hpattern.bind (takes_pure () _)).bind (Takes.bind (fun _ => rfl) ?_)
  exact (htype.bind (takes_pure () _)).bind (takes_let_value h)

theorem takes_ifExpression {head yes no : Form} {us vs : List Token}
    (hhead : Takes (read (.expression false)) ts head
      (.group .curly us :: .word "else" :: .group .curly vs :: rest))
    (hyes : Takes (read .statements) us yes []) (hno : Takes (read .statements) vs no []) :
    Takes (ifExpression read) (.word "if" :: ts) () rest := by
  have hblock {ts rest : List Token} {form : Form} (h : Takes (read .statements) ts form []) :
      Takes (block read) (.group .curly ts :: rest) () rest :=
    (h.bind (takes_pure () [])).inside
  refine takes_loop (takes_rounds_end (Takes.bind (fun _ => rfl) ?_))
  refine (hhead.bind (takes_pure () _)).bind ((hblock hyes).bind (Takes.bind (fun _ => rfl) ?_))
  exact (takes_ahead _).bind ((hblock hno).bind (takes_pure _ rest))

theorem takes_if {n : Nat} (h : Takes (ifExpression (parts (n + 1))) (.word "if" :: ts) () rest)
    {braces : Bool} (hrest : EndsExpression braces rest) :
    Takes (parts (n + 3) (.expression braces)) (.word "if" :: ts) .block rest := by
  have hatom : Takes (atom (parts (n + 1)) braces) (.word "if" :: ts) .block rest :=
    (takes_ahead _).bind (h.bind (takes_pure _ rest))
  have hoperand : Takes (parts (n + 2) (.operand braces)) (.word "if" :: ts) .block rest :=
    takes_operand_of_atom (hasAny_eq_false_iff.mp rfl) hatom hrest.toEndsOperand
  exact hoperand.bind (takes_operators_end hrest .block .jump)

theorem takes_forExpression {pattern head body : Form} {us vs : List Token}
    (hpattern : Takes (read .pattern) ts pattern (.word "in" :: us))
    (hhead : Takes (read (.expression false)) us head (.group .curly vs :: rest))
    (hattribute : has vs "#" = false) (hbody : Takes (read .statements) vs body []) :
    Takes (forExpression read) (.word "for" :: ts) () rest := by
  have hinner : Takes (innerAttributes read) vs () vs := by
    refine takes_loop (takes_rounds_end ((takes_ahead vs).bind ?_))
    rw [hattribute]
    exact takes_pure _ vs
  have hblock : Takes (attributedBlock read) (.group .curly vs :: rest) () rest :=
    (hinner.bind (hbody.bind (takes_pure () []))).inside
  refine Takes.bind (fun _ => rfl) (hpattern.bind (Takes.bind (fun _ => rfl) ?_))
  exact (hhead.bind (takes_pure () _)).bind hblock

theorem takes_statement_for (h : Takes (read .standalone) (.word "for" :: ts) .block rest)
    (hrest : has rest ";" = false) : Takes (statement read) (.word "for" :: ts) false rest := by
  have hinvocation : Takes invocationAhead (.word "for" :: ts) .none (.word "for" :: ts) :=
    fun _ => rfl
  refine (takes_outerAttributes_none rfl).bind (hinvocation.bind ((takes_ahead _).bind ?_))
  exact h.bind ((takes_takeIf hrest).bind (takes_pure _ rest))

theorem takes_standalone_for (hbinder : has ts "<" = false)
    (h : Takes (forExpression read) (.word "for" :: ts) () rest)
    (hdot : hasDot rest = false) (hquestion : has rest "?" = false) :
    Takes (standalone read) (.word "for" :: ts) .block rest := by
  have hreader : blockReader read (.word "for" :: ts) = some (forExpression read) := by
    have hsecond : hasSecond (.word "for" :: ts) "<" = false := hbinder
    have hclosure : startsBinder (.word "for" :: ts) = false := by
      simp only [startsBinder, hsecond, Bool.and_false, Bool.false_and]
    simp only [blockReader, hclosure]
    rfl
  refine (takes_outerAttributes_none rfl).bind ((takes_ahead _).bind ?_)
  rw [hreader]
  refine h.bind ((takes_ahead rest).bind ?_)
  rw [hdot, hquestion]
  exact takes_pure _ rest

theorem takes_statementsStep_end (due : Bool) :
    Takes (statementsStep read due) [] (due, false) [] :=
  fun _ => rfl

theorem takes_statementsStep {due : Bool} (hne : ts ≠ []) (hmark : has ts ";" = false)
    (h : Takes (statement read) ts due us) :
    Takes (statementsStep read false) ts (due, true) us := by
  refine (takes_isDone ts).bind ?_
  rw [List.isEmpty_eq_false_iff.mpr hne]
  exact (takes_takeIf hmark).bind (h.bind (takes_pure _ us))

theorem takes_statements_one {due : Bool} (hne : ts ≠ []) (hmark : has ts ";" = false)
    (h : Takes (statement read) ts due []) : Takes (statements read) ts () [] := by
  obtain ⟨t, us, rfl⟩ := List.exists_cons_of_ne_nil hne
  have hend : Takes (rounds (statementsStep read) (us.length + 1) due) [] due [] :=
    takes_rounds_end (takes_statementsStep_end due)
  have hloop : Takes (loop (statementsStep read) false) (t :: us) due [] :=
    takes_loop (takes_rounds_more (takes_statementsStep hne hmark h) hend)
  exact hloop.bind (takes_pure () [])

end Grammar

namespace Expr

def lead : Expr → Option String
  | atom s | call s _ => some s
  | method r _ _ | field r _ => r.lead
  | text _ | array _ | tuple _ | lambda .. => none

def isLed (e : Expr) : Bool :=
  e.lead.any fun s => arePath (ofText s) && !has (ofText s) "crate"

theorem has_crate_cons (t : Token) (ts us : List Token) :
    has (t :: ts) "crate" = has (t :: us) "crate" := by
  cases t <;> rfl

theorem leads_path {s : String} (h : arePath (ofText s) && !has (ofText s) "crate")
    {rest : List Token} (hrest : ∀ d ∈ Grammar.leadFollowers, has rest d = false) :
    Grammar.Leads (ofText s ++ rest) := by
  rw [Bool.and_eq_true, Bool.not_eq_true'] at h
  obtain ⟨hpath, hcrate⟩ := h
  obtain ⟨t, us, hs, ht, hus⟩ := Grammar.eq_of_arePath hpath
  rw [hs] at hcrate ⊢
  exact ⟨⟨t, us, rest, rfl, ht, hus, hrest⟩, by rw [← hcrate]; exact has_crate_cons t _ _⟩

theorem leads_emitted (e : Expr) (h : e.isLed) {rest : List Token}
    (hrest : ∀ d ∈ Grammar.leadFollowers, has rest d = false) :
    Grammar.Leads (e.emitted ++ rest) := by
  cases e with
  | atom s => exact leads_path h hrest
  | call f args =>
    rw [emitted, List.append_assoc]
    exact leads_path h (hasAny_eq_false_iff.mp rfl)
  | method r n args =>
    rw [emitted, List.append_assoc]
    exact leads_emitted r h (hasAny_eq_false_iff.mp rfl)
  | field r n =>
    rw [emitted, List.append_assoc]
    exact leads_emitted r h (hasAny_eq_false_iff.mp rfl)
  | text | array | tuple | lambda => exact absurd h Bool.false_ne_true

end Expr

namespace Stmt

def wordsOf : String :=
  "v: Vec<String>"

def entry : String :=
  "(k, v)"

def isGrammatical : Stmt → Bool
  | run e | value e => e.isLed && e.isGrammatical
  | bind n e => (areName (ofText n) || n == "_" || n == wordsOf) && e.isGrammatical
  | choose n c _ _ => areName (ofText n) && arePath (ofText c)
  | update i s n e =>
    i == entry && arePath (ofText s) && (Expr.atom n).isLed && e.isGrammatical

def isValue : Stmt → Bool
  | value _ => true
  | _ => false

theorem takes_standalone {e : Expr} (h : e.isGrammatical) {n : Nat}
    (hn : 4 * count e.emitted ≤ n + 1) {rest : List Token}
    (hrest : Grammar.EndsExpression true rest)
    (hleads : Grammar.Leads (e.emitted ++ rest)) :
    ∃ form, Takes (Grammar.parts n .standalone) (e.emitted ++ rest) form rest := by
  have hpos := Expr.count_pos h
  obtain ⟨n, rfl⟩ := Nat.exists_eq_succ_of_ne_zero (by omega : n ≠ 0)
  obtain ⟨form, hread⟩ := (e.reads_grammatical h).operation (n := n) (by omega) (by omega) hrest
  exact ⟨form, hleads.takes_standalone hread⟩

theorem takes_run {e : Expr} (hled : e.isLed) (h : e.isGrammatical) {n : Nat}
    (hn : 4 * count e.emitted ≤ n + 1) (rest : List Token) :
    Takes (Grammar.statement (Grammar.parts n)) (e.emitted ++ .mark ';' false :: rest) false
      rest := by
  have hleads : Grammar.Leads (e.emitted ++ .mark ';' false :: rest) :=
    e.leads_emitted hled (hasAny_eq_false_iff.mp rfl)
  obtain ⟨form, hread⟩ := takes_standalone h hn (Grammar.endsExpression_semicolon true rest) hleads
  have hend : Takes (takeIf ";") (.mark ';' false :: rest) true rest := fun _ => rfl
  obtain ⟨due, hdue, hstatement⟩ := hleads.takes_statement hread hend
  rw [hdue rfl] at hstatement
  exact hstatement

theorem takes_value {e : Expr} (hled : e.isLed) (h : e.isGrammatical) {n : Nat}
    (hn : 4 * count e.emitted ≤ n + 1) :
    ∃ due, Takes (Grammar.statement (Grammar.parts n)) e.emitted due [] := by
  have hleads : Grammar.Leads (e.emitted ++ []) := e.leads_emitted hled (hasAny_eq_false_iff.mp rfl)
  obtain ⟨form, hread⟩ := takes_standalone h hn (Grammar.endsExpression_of_endsItem rfl true) hleads
  rw [List.append_nil] at hleads hread
  have hend : Takes (takeIf ";") [] false [] := fun _ => rfl
  obtain ⟨due, -, hstatement⟩ := hleads.takes_statement hread hend
  exact ⟨due, hstatement⟩

theorem takes_bind {n : String} {e : Expr}
    (h : areName (ofText n) || n == "_" || n == wordsOf) (he : e.isGrammatical) {m : Nat}
    (hm : 4 * count (bind n e).emitted ≤ m + 1) (rest : List Token) :
    Takes (Grammar.statement (Grammar.parts m)) ((bind n e).emitted ++ rest) false rest := by
  rw [emitted] at hm ⊢
  simp only [count_cons, count_append, size_word, size_mark, count_nil] at hm
  obtain ⟨m, rfl⟩ := Nat.exists_eq_succ_of_ne_zero (by omega : m ≠ 0)
  obtain ⟨form, hread⟩ := (e.reads_grammatical he).expression (n := m + 1) (by omega) (by omega)
    (Grammar.endsExpression_semicolon true rest)
  have hequals : hasAny (.mark '=' false :: (e.emitted ++ .mark ';' false :: rest))
      Grammar.patternMarks = false := rfl
  simp only [List.cons_append, List.append_assoc, List.nil_append]
  rw [Bool.or_eq_true, Bool.or_eq_true, beq_iff_eq, beq_iff_eq] at h
  rcases h with (h | rfl) | rfl
  · obtain ⟨t, hn, ht⟩ := Grammar.eq_of_areName h
    rw [hn]
    have hpattern : Takes (Grammar.parts (m + 1) .singlePattern) _ _ _ :=
      Grammar.takes_namePattern ht hequals
    exact Grammar.takes_let hpattern hread
  · have hpattern : Takes (Grammar.parts (m + 1) .singlePattern) _ _ _ :=
      Grammar.takes_wildcard (.mark '=' false :: (e.emitted ++ .mark ';' false :: rest))
    exact Grammar.takes_let hpattern hread
  · have hwords : ofText wordsOf =
        .word "v" :: .mark ':' false :: (Ty.applied "Vec" (.named "String")).emitted := rfl
    rw [hwords] at hm ⊢
    simp only [count_cons, size_word, size_mark] at hm
    have hvector := Ty.reads_grammatical (.applied "Vec" (.named "String")) (by decide)
    obtain ⟨type, htype⟩ := hvector.type (m + 1) (by omega) true
      (.mark '=' false :: (e.emitted ++ .mark ';' false :: rest)) ⟨⟨rfl, rfl⟩, rfl, rfl, rfl, rfl⟩
    have hpattern (us : List Token) : Takes (Grammar.parts (m + 1) .singlePattern)
        (.word "v" :: .mark ':' false :: us) .plain (.mark ':' false :: us) :=
      Grammar.takes_namePattern (by decide) rfl
    exact Grammar.takes_let_typed (hpattern _) htype hread

theorem takes_choice (s : String) {n : Nat} (hn : 5 ≤ n) :
    Takes (Grammar.parts n .statements) [.literal .text s] .plain [] := by
  obtain ⟨n, rfl⟩ := Nat.exists_eq_add_of_le' hn
  exact fun _ => rfl

theorem takes_choose {n c yes no : String} (hn : areName (ofText n)) (hc : arePath (ofText c))
    {m : Nat} (hm : 4 * count (choose n c yes no).emitted ≤ m + 1) (rest : List Token) :
    Takes (Grammar.statement (Grammar.parts m)) ((choose n c yes no).emitted ++ rest) false
      rest := by
  obtain ⟨t, hn, ht⟩ := Grammar.eq_of_areName hn
  rw [emitted, hn] at hm ⊢
  simp only [count_cons, count_append, size_word, size_mark, size_group, count_nil,
    List.singleton_append] at hm
  obtain ⟨m, rfl⟩ := Nat.exists_eq_add_of_le' (by omega : 3 ≤ m)
  have hchosen := Expr.reads_grammatical (.atom c) (Bool.or_eq_true_iff.mpr (.inl hc))
  obtain ⟨head, hhead⟩ := hchosen.expression (n := m + 1) (by simp only [Expr.emitted]; omega)
    (by omega) (Grammar.endsExpression_curly
      [.literal .text (Text.literal yes)] (.word "else" ::
        .group .curly [.literal .text (Text.literal no)] :: .mark ';' false :: rest))
  rw [Expr.emitted] at hhead
  have hif := Grammar.takes_ifExpression hhead (takes_choice _ (by omega))
    (takes_choice _ (by omega))
  have hread := Grammar.takes_if hif (Grammar.endsExpression_semicolon true rest)
  have hpattern (us : List Token) : Takes (Grammar.parts (m + 3) .singlePattern)
      (t :: .mark '=' false :: us) .plain (.mark '=' false :: us) :=
    Grammar.takes_namePattern ht rfl
  simpa using Grammar.takes_let (hpattern _) hread

theorem takes_assignment {n : String} {e : Expr} (hled : (Expr.atom n).isLed)
    (h : e.isGrammatical) {m : Nat} (hm : 4 * count e.emitted ≤ m) (rest : List Token) :
    Takes (Grammar.statement (Grammar.parts m))
      (ofText n ++ .mark '=' false :: (e.emitted ++ .mark ';' false :: rest)) false rest := by
  have hpos := Expr.count_pos h
  obtain ⟨m, rfl⟩ := Nat.exists_eq_add_of_le' (by omega : 3 ≤ m)
  have hpath : arePath (ofText n) := (Bool.and_eq_true_iff.mp hled).1
  have hleads : Grammar.Leads
      (ofText n ++ .mark '=' false :: (e.emitted ++ .mark ';' false :: rest)) :=
    Expr.leads_emitted (.atom n) hled (hasAny_eq_false_iff.mp rfl)
  have hends : Grammar.EndsAtom true (.mark '=' false :: (e.emitted ++ .mark ';' false :: rest)) :=
    ⟨⟨rfl, rfl⟩, rfl, rfl, rfl⟩
  obtain ⟨form, hform, hatom⟩ := (Expr.continues_path hpath (Grammar.parts (m + 1)) true).takes_atom
    hends ⟨rfl, rfl, rfl, rfl⟩
  obtain ⟨-, hfront⟩ := Expr.front_of_path hpath
    (.mark '=' false :: (e.emitted ++ .mark ';' false :: rest))
  have hoperand : Takes (Grammar.parts (m + 2) (.operand true)) _ _ _ :=
    Grammar.takes_operand (fun d hd => hfront d (List.mem_append_left _ hd)) hatom
  have hrest := Grammar.endsExpression_semicolon true rest
  obtain ⟨right, hright⟩ := (e.reads_grammatical h).operand (m + 1) (by omega) true _ hrest
  have hoperators : Takes (Grammar.parts (m + 2) (.operators form true .jump)) _ _ _ :=
    Grammar.takes_operators_assign hform hright hrest
  have hread : Takes (Grammar.parts (m + 3) .standalone) _ _ _ :=
    hleads.takes_standalone (hoperand.bind hoperators)
  have hend : Takes (takeIf ";") (.mark ';' false :: rest) true rest := fun _ => rfl
  obtain ⟨due, hdue, hstatement⟩ := hleads.takes_statement hread hend
  rw [hdue rfl] at hstatement
  exact hstatement

theorem takes_update {i s n : String} {e : Expr} (h : (update i s n e).isGrammatical) {m : Nat}
    (hm : 4 * count (update i s n e).emitted ≤ m + 1) {rest : List Token}
    (hrest : ∀ d ∈ ([";", ".", "?"] : List Due), has rest d = false) :
    Takes (Grammar.statement (Grammar.parts m)) ((update i s n e).emitted ++ rest) false rest := by
  simp only [isGrammatical, Bool.and_eq_true, beq_iff_eq] at h
  obtain ⟨⟨⟨rfl, hs⟩, hled⟩, he⟩ := h
  rw [emitted] at hm ⊢
  simp only [count_cons, count_append, size_word, size_mark, size_group, count_nil] at hm
  obtain ⟨m, rfl⟩ := Nat.exists_eq_add_of_le' (by omega : 5 ≤ m)
  obtain ⟨hne, hfront⟩ := Expr.front_of_path (Bool.and_eq_true_iff.mp hled).1
    (.mark '=' false :: (e.emitted ++ [.mark ';' false]))
  have hassign := takes_assignment hled he (m := m + 3) (by omega) []
  have hbody : Takes (Grammar.parts (m + 4) .statements) _ .plain [] :=
    (Grammar.takes_statements_one hne (hfront ";" (by decide)) hassign).bind (takes_pure _ [])
  have hsource := Expr.reads_grammatical (.atom s) (Bool.or_eq_true_iff.mpr (.inl hs))
  obtain ⟨head, hhead⟩ := hsource.expression (n := m + 4) (by simp only [Expr.emitted]; omega)
    (by omega) (Grammar.endsExpression_curly
      (ofText n ++ .mark '=' false :: (e.emitted ++ [.mark ';' false])) rest)
  have hnames : ∀ t ∈ [Token.word "k", .word "v"], t.isIdentifier := by decide
  have hpattern (us : List Token) : Takes (Grammar.parts (m + 4) .pattern)
      (ofText entry ++ .word "in" :: us) .plain (.word "in" :: us) :=
    Grammar.takes_tuplePattern hnames m rfl
  have hfor := Grammar.takes_forExpression (hpattern _) hhead (hfront "#" (by decide)) hbody
  have hstandalone : Takes (Grammar.parts (m + 5) .standalone) _ _ _ :=
    Grammar.takes_standalone_for rfl hfor (by rw [Grammar.hasDot, hrest "." (by decide)]; rfl)
      (hrest "?" (by decide))
  have hstatement := Grammar.takes_statement_for hstandalone (hrest ";" (by decide))
  simpa [Expr.emitted] using hstatement

theorem takes_statement {s : Stmt} (h : s.isGrammatical) (hvalue : s.isValue = false) {n : Nat}
    (hn : 4 * count s.emitted ≤ n + 1) {rest : List Token}
    (hrest : ∀ d ∈ ([";", ".", "?"] : List Due), has rest d = false) :
    Takes (Grammar.statement (Grammar.parts n)) (s.emitted ++ rest) false rest := by
  cases s with
  | run e =>
    obtain ⟨hled, he⟩ := Bool.and_eq_true_iff.mp h
    rw [emitted, count_append] at hn
    rw [emitted, List.append_assoc]
    exact takes_run hled he (by omega) rest
  | value e => exact absurd hvalue.symm Bool.false_ne_true
  | bind n e =>
    obtain ⟨hname, he⟩ := Bool.and_eq_true_iff.mp h
    exact takes_bind hname he hn rest
  | choose n c yes no =>
    obtain ⟨hname, hc⟩ := Bool.and_eq_true_iff.mp h
    exact takes_choose hname hc hn rest
  | update i s n e => exact takes_update h hn hrest

def areGrammatical : List Stmt → Bool
  | [] => true
  | [s] => s.isGrammatical
  | s :: ss => s.isGrammatical && !s.isValue && areGrammatical ss

def foreign : List Due :=
  ["#", ";", ".", "?"]

theorem front_emitted {s : Stmt} (h : s.isGrammatical) (rest : List Token) :
    s.emitted ++ rest ≠ [] ∧ ∀ d ∈ foreign, has (s.emitted ++ rest) d = false := by
  have hforeign : foreign ⊆ Expr.foreign := by decide
  cases s with
  | run e =>
    rw [emitted, List.append_assoc]
    obtain ⟨hne, hfront⟩ := e.front_emitted (Bool.and_eq_true_iff.mp h).2 (.mark ';' false :: rest)
    exact ⟨hne, fun d hd => hfront d (hforeign hd)⟩
  | value e =>
    obtain ⟨hne, hfront⟩ := e.front_emitted (Bool.and_eq_true_iff.mp h).2 rest
    exact ⟨hne, fun d hd => hfront d (hforeign hd)⟩
  | bind | choose | update => exact ⟨List.cons_ne_nil _ _, hasAny_eq_false_iff.mp rfl⟩

theorem isGrammatical_of_mem {ss : List Stmt} (h : areGrammatical ss) :
    ∀ s ∈ ss, s.isGrammatical := by
  induction ss with
  | nil => simp
  | cons s ss ih =>
    cases ss with
    | nil => exact List.forall_mem_singleton.mpr h
    | cons t ss =>
      obtain ⟨hs, hss⟩ := Bool.and_eq_true_iff.mp h
      exact List.forall_mem_cons.mpr ⟨(Bool.and_eq_true_iff.mp hs).1, ih hss⟩

theorem front_body {ss : List Stmt} (h : areGrammatical ss) :
    ∀ d ∈ foreign, has (ss.flatMap emitted) d = false := by
  cases ss with
  | nil => exact hasAny_eq_false_iff.mp rfl
  | cons s ss => exact (front_emitted (isGrammatical_of_mem h s List.mem_cons_self) _).2

theorem takes_last {s : Stmt} (h : s.isGrammatical) {n : Nat} (hn : 4 * count s.emitted ≤ n + 1) :
    ∃ due, Takes (Grammar.statement (Grammar.parts n)) s.emitted due [] := by
  cases hvalue : s.isValue with
  | false =>
    have hnil : ∀ d ∈ ([";", ".", "?"] : List Due), has [] d = false := hasAny_eq_false_iff.mp rfl
    have hread := takes_statement h hvalue hn hnil
    rw [List.append_nil] at hread
    exact ⟨_, hread⟩
  | true =>
    cases s with
    | value e => exact takes_value (Bool.and_eq_true_iff.mp h).1 (Bool.and_eq_true_iff.mp h).2 hn
    | _ => exact absurd hvalue Bool.false_ne_true

theorem takes_rounds_body {ss : List Stmt} (h : areGrammatical ss) {n : Nat}
    (hn : 4 * count (ss.flatMap emitted) ≤ n + 1) {k : Nat} (hk : ss.length < k) :
    ∃ due, Takes (rounds (Grammar.statementsStep (Grammar.parts n)) k false) (ss.flatMap emitted)
      due [] := by
  induction ss generalizing k with
  | nil =>
    obtain ⟨k, rfl⟩ := Nat.exists_eq_succ_of_ne_zero (Nat.ne_zero_of_lt hk)
    exact ⟨false, takes_rounds_end (Grammar.takes_statementsStep_end false)⟩
  | cons s ss ih =>
    obtain ⟨k, rfl⟩ := Nat.exists_eq_succ_of_ne_zero (Nat.ne_zero_of_lt hk)
    have hk : ss.length < k := Nat.lt_of_succ_lt_succ hk
    rw [List.flatMap_cons, count_append] at hn
    cases ss with
    | nil =>
      obtain ⟨k, rfl⟩ := Nat.exists_eq_succ_of_ne_zero (Nat.ne_zero_of_lt hk)
      obtain ⟨due, hlast⟩ := takes_last h (n := n) (by omega)
      obtain ⟨hne, hfront⟩ := front_emitted h []
      rw [List.append_nil] at hne hfront
      have hstep := Grammar.takes_statementsStep hne (hfront ";" (by decide)) hlast
      rw [List.flatMap_singleton]
      exact ⟨due, takes_rounds_more hstep
        (takes_rounds_end (Grammar.takes_statementsStep_end due))⟩
    | cons t ss =>
      obtain ⟨hs, hss⟩ := Bool.and_eq_true_iff.mp h
      rw [Bool.and_eq_true, Bool.not_eq_true'] at hs
      have hnext := front_body hss
      have hrest : ∀ d ∈ ([";", ".", "?"] : List Due), has ((t :: ss).flatMap emitted) d = false :=
        fun d hd => hnext d (List.mem_cons_of_mem _ hd)
      have hread := takes_statement hs.1 hs.2 (n := n) (by omega) hrest
      obtain ⟨hne, hfront⟩ := front_emitted hs.1 ((t :: ss).flatMap emitted)
      have hstep := Grammar.takes_statementsStep hne (hfront ";" (by decide)) hread
      obtain ⟨due, hmore⟩ := ih hss (by omega) hk
      exact ⟨due, takes_rounds_more hstep hmore⟩

theorem takes_body {ss : List Stmt} (h : areGrammatical ss) {n : Nat}
    (hn : 4 * count (ss.flatMap emitted) ≤ n + 1) :
    Takes (Grammar.statements (Grammar.parts n)) (ss.flatMap emitted) () [] := by
  have hne : ∀ e ∈ ss.map emitted, e ≠ [] := by
    intro e he
    obtain ⟨s, hs, rfl⟩ := List.mem_map.mp he
    simpa using (front_emitted (isGrammatical_of_mem h s hs) []).1
  have hlength := length_le_length_flatten hne
  rw [List.length_map, ← List.flatMap_def] at hlength
  obtain ⟨due, hrounds⟩ := takes_rounds_body h hn (Nat.lt_succ_of_le hlength)
  have hloop : Takes (loop (Grammar.statementsStep (Grammar.parts n)) false) _ due [] :=
    takes_loop hrounds
  exact hloop.bind (takes_pure () [])

end Stmt

end TypedMarkup.Code
