import TypedMarkup.Proofs.Grammar.Path

namespace TypedMarkup.Code

open Token Reader

namespace Token

@[simp] theorem count_nil : count [] = 0 := rfl

@[simp] theorem count_cons (t : Token) (ts : List Token) : count (t :: ts) = t.size + count ts :=
  rfl

@[simp] theorem size_group (b : Bracket) (ts : List Token) : (group b ts).size = count ts + 1 :=
  rfl

@[simp] theorem size_mark (c : Char) (joint : Bool) : (mark c joint).size = 1 := rfl

@[simp] theorem size_word (s : String) : (word s).size = 1 := rfl

@[simp] theorem count_append (ts us : List Token) : count (ts ++ us) = count ts + count us := by
  induction ts with
  | nil => simp
  | cons t ts ih => simp [ih, Nat.add_assoc]

theorem size_pos (t : Token) : 0 < t.size := by
  cases t <;> simp [size]

theorem count_pos_of_ne_nil {ts : List Token} (h : ts ≠ []) : 0 < count ts := by
  obtain ⟨t, us, rfl⟩ := List.exists_cons_of_ne_nil h
  exact Nat.add_pos_left t.size_pos _

theorem count_le_count_flatMap {α : Type} {f : α → List Token} {xs : List α} {x : α}
    (h : x ∈ xs) : count (f x) ≤ count (xs.flatMap f) := by
  induction xs with
  | nil => simp at h
  | cons y xs ih =>
    rw [List.flatMap_cons, count_append]
    rcases List.mem_cons.mp h with rfl | h
    · exact Nat.le_add_right _ _
    · exact (ih h).trans (Nat.le_add_left _ _)

theorem count_le_count_separated {es : List (List Token)} {e : List Token} (h : e ∈ es) :
    count e ≤ count (separated es) := by
  cases es with
  | nil => simp at h
  | cons f es =>
    rw [separated, count_append]
    rcases List.mem_cons.mp h with rfl | h
    · exact Nat.le_add_right _ _
    · have htail := count_le_count_flatMap (f := fun e => .mark ',' false :: e) h
      rw [count_cons] at htail
      omega

end Token

namespace Grammar

variable {read : Parts} {t : Token} {ts rest : List Token}

theorem takes_binderIf (h : has ts "for" = false) : Takes (binderIf read) ts false ts := by
  refine (takes_ahead ts).bind ?_
  rw [h]
  exact takes_pure false ts

structure EndsType (ts : List Token) : Prop extends EndsPath ts where
  bang : has ts "!" = false
  plus : has ts "+" = false
  round : has ts (.group .round) = false
  hash : has ts "#" = false

theorem endsType_of_endsItem (h : endsItem rest) : EndsType rest := by
  unfold endsItem at h
  split at h
  · exact ⟨⟨rfl, rfl⟩, rfl, rfl, rfl, rfl⟩
  · exact ⟨⟨rfl, rfl⟩, rfl, rfl, rfl, rfl⟩
  · exact absurd h Bool.false_ne_true

theorem hasAny_of_isSegment (h : t.isSegment) (ts : List Token) {ds : List Due}
    (hds : plainSegments ⊆ ds) : hasAny (t :: ts) ds = true := by
  suffices ∃ d ∈ plainSegments, has (t :: ts) d by
    obtain ⟨d, hd, hhas⟩ := this
    exact List.any_eq_true.mpr ⟨d, hds hd, hhas⟩
  rcases isSegment_iff.mp h with h | ⟨w, hw, rfl⟩
  · exact ⟨.identifier, by decide, has_of_isIdentifier h ts⟩
  · simp only [pathWords, List.mem_cons, List.not_mem_nil, or_false] at hw
    rcases hw with rfl | rfl | rfl | rfl
    · exact ⟨"self", by decide, rfl⟩
    · exact ⟨"Self", by decide, rfl⟩
    · exact ⟨"super", by decide, rfl⟩
    · exact ⟨"crate", by decide, rfl⟩

theorem takes_qualifiedPath (ht : t.isSegment) {inExpression : Bool} {p : ModulePath}
    (h : Takes (path read inExpression) (t :: ts) p rest) :
    Takes (qualifiedPath read inExpression) (t :: ts) (some p) rest := by
  refine (takes_ahead _).bind ?_
  rw [has_segment ht (by decide)]
  exact h.bind (takes_pure _ rest)

def pathForm (p : ModulePath) : Form :=
  if p.rest.isEmpty then .name else .path

theorem takes_pathType (ht : t.isSegment) {p : ModulePath} (hp : p.rooted = false)
    (h : Takes (path read false) (t :: ts) p rest) (hrest : EndsType rest) (plus : Bool) :
    Takes (pathType read plus false) (t :: ts) (pathForm p) rest := by
  refine (takes_qualifiedPath ht h).bind ((takes_ahead rest).bind ?_)
  simp only [isInvocation, hrest.bang, hrest.plus, hp, Bool.false_and, Bool.and_false,
    Bool.false_eq_true, if_false, Bool.not_false, Bool.true_and]
  unfold pathForm
  split <;> exact takes_pure _ rest

theorem takes_type_of_path (ht : t.isSegment) (hhash : has ts "#" = false) {p : ModulePath}
    (hp : p.rooted = false) (h : Takes (path read false) (t :: ts) p rest)
    (hrest : EndsType rest) (plus : Bool) :
    Takes (type read plus) (t :: ts) (pathForm p) rest := by
  have hfor := has_segment ht (by decide : Due.isForeign "for") ts
  have hround := has_segment ht (by decide : Due.isForeign (.group .round)) ts
  have hfunction : hasAny (t :: ts) functionStarts = false := hasAny_segment ht (by decide) ts
  have hsecond : hasSecond (t :: ts) "#" = false := hhash
  have hstarts := hasAny_of_isSegment ht ts (by decide : plainSegments ⊆ pathStarts)
  refine (takes_binderIf hfor).bind ((takes_ahead _).bind ?_)
  simp only [hround, hfunction, hsecond, hstarts, Bool.false_and, Bool.and_false,
    Bool.false_eq_true, if_false, if_true]
  exact takes_pathType ht hp h hrest plus

theorem takes_type_name (ht : t.isIdentifier) (hrest : EndsType rest) (plus : Bool) :
    Takes (type read plus) (t :: rest) .name rest := by
  have hsegment := isSegment_iff.mpr (.inl ht)
  exact takes_type_of_path hsegment hrest.hash rfl (takes_path_name hsegment hrest.toEndsPath)
    hrest plus

theorem takes_traitBound (ht : t.isSegment) {p : ModulePath}
    (h : Takes (path read false) (t :: ts) p rest) (hrest : EndsType rest) (constAllowed : Bool) :
    Takes (traitBound read constAllowed) (t :: ts) () rest := by
  have hfor := has_segment ht (by decide : Due.isForeign "for") ts
  have hsquare := has_segment ht (by decide : Due.isForeign (.group .square)) ts
  have hconst := has_segment ht (by decide : Due.isForeign "const") ts
  have hmaybe := has_segment ht (by decide : Due.isForeign "?") ts
  have hconstness : Takes (constness constAllowed) (t :: ts) () (t :: ts) := by
    refine (takes_ahead _).bind ?_
    simp only [hsquare, hconst, Bool.false_eq_true, if_false]
    exact takes_pure _ _
  have harguments : Takes (traitArguments read p) rest () rest := by
    refine (takes_ahead rest).bind ?_
    simp only [hrest.round, hrest.colons, Bool.false_and, Bool.or_false, Bool.and_false,
      Bool.false_eq_true, if_false]
    exact takes_pure _ rest
  refine (takes_binderIf hfor).bind (hconstness.bind ((takes_takeIf hmaybe).bind ?_))
  exact (takes_pure false _).bind (h.bind (harguments.bind (takes_pure _ rest)))

theorem takes_bound_of_path (ht : t.isSegment) {p : ModulePath}
    (h : Takes (path read false) (t :: ts) p rest) (hrest : EndsType rest)
    (capture constAllowed : Bool) : Takes (bound read capture constAllowed) (t :: ts) () rest := by
  have hlifetime := has_segment ht (by decide : Due.isForeign .lifetime) ts
  have huse := has_segment ht (by decide : Due.isForeign "use") ts
  have hround := has_segment ht (by decide : Due.isForeign (.group .round)) ts
  refine (takes_ahead _).bind ?_
  simp only [kindAhead, isCapture, hlifetime, huse, hround, Bool.false_eq_true, if_false]
  exact takes_traitBound ht h hrest constAllowed

theorem takes_type_some (hlifetime : has ts .lifetime = false) (huse : has ts "use" = false)
    {form : Form} (h : Takes (read (.bound true true)) ts form rest) {plus : Bool}
    (hplus : has rest "+" = false) : Takes (type read plus) (.word "impl" :: ts) .plain rest := by
  have hbounds : Takes (boundList read plus true true) ts [.trait] rest := by
    refine takes_loop (takes_rounds_end ((takes_ahead ts).bind ?_))
    simp only [kindAhead, isCapture, hlifetime, huse, Bool.false_eq_true, if_false]
    refine h.bind ((takes_ahead rest).bind ?_)
    rw [hplus, Bool.and_false]
    exact takes_pure _ rest
  refine (takes_binderIf rfl).bind ((takes_ahead _).bind (Takes.bind (fun _ => rfl) ?_))
  exact hbounds.bind (takes_pure _ rest)

theorem takes_argument {form : Form} (hlifetime : has ts .lifetime = false)
    (hconstant : isConstant ts = false) (h : Takes (read (.type true)) ts form rest)
    (hequals : has rest "=" = false) (hcolon : has rest ":" = false) :
    Takes (argument read) ts () rest := by
  refine (takes_ahead ts).bind ?_
  simp only [hlifetime, hconstant, Bool.false_and, Bool.false_eq_true, if_false]
  refine h.bind ?_
  split
  · exact (takes_takeIf hequals).bind ((takes_takeIf hcolon).bind (takes_pure _ rest))
  · exact takes_pure _ rest

theorem takes_argument_bound {us : List Token} {form : Form} (ht : t.isIdentifier)
    (hname : Takes (read (.type true)) (t :: .mark '=' false :: us) .name (.mark '=' false :: us))
    (hconstant : isConstant us = false) (h : Takes (read (.type true)) us form rest) :
    Takes (argument read) (t :: .mark '=' false :: us) () rest := by
  have hlifetime := has_identifier ht (by decide : Due.isReserved .lifetime) (.mark '=' false :: us)
  have hstart : isConstant (t :: .mark '=' false :: us) = false :=
    hasAny_identifier ht (by decide) _
  refine (takes_ahead _).bind ?_
  simp only [hlifetime, hstart, Bool.false_and, Bool.false_eq_true, if_false]
  refine hname.bind ?_
  rw [if_pos rfl]
  refine Takes.bind (fun _ => rfl) ?_
  refine (takes_ahead us).bind ?_
  rw [hconstant]
  exact h.bind (takes_pure _ rest)

theorem takes_arguments {us : List Token} (hstop : has us ">" = false)
    (h : Takes (argument read) us () (.mark '>' false :: rest)) :
    Takes (arguments read) (.mark '<' false :: us) () rest := by
  have hlist : Takes (list "," (fun ts => has ts ">") (argument read)) us ()
      (.mark '>' false :: rest) := takes_list_one hstop h rfl
  exact Takes.bind (fun _ => rfl) (hlist.bind fun _ => rfl)

theorem takes_path_applied (ht : t.isIdentifier) {us : List Token}
    (h : Takes (arguments read) (.mark '<' false :: us) () rest) (hrest : EndsPath rest) :
    Takes (path read false) (t :: .mark '<' false :: us) ⟨false, ⟨t.spelling, .direct⟩, []⟩
      rest := by
  have hword : Takes (do
      let form := argumentsAhead false (← ahead)
      argumentsAs read form
      return ⟨t.spelling, form⟩ : Reader Segment) (.mark '<' false :: us)
      ⟨t.spelling, .direct⟩ rest :=
    (takes_ahead _).bind (h.bind (takes_pure _ rest))
  have hsegment : Takes (segment read false) (t :: .mark '<' false :: us)
      ⟨t.spelling, .direct⟩ rest := by
    have hkeyword : hasAny (t :: .mark '<' false :: us) pathKeywords = false :=
      hasAny_identifier ht (by decide) _
    have hself := has_identifier ht (by decide : Due.isReserved "Self") (.mark '<' false :: us)
    refine (takes_ahead _).bind ?_
    simp only [hkeyword, hself, Bool.false_eq_true, if_false]
    exact (takes_takeIdentifier ht _).bind hword
  have hroot := has_identifier ht (by decide : Due.isReserved "::") (.mark '<' false :: us)
  exact (takes_takeIf hroot).bind (hsegment.bind
    ((takes_laterSegments_nil hrest).bind (takes_pure _ rest)))

theorem takes_question (b : Bracket) (ts rest : List Token) :
    Takes (foresee (inside b (do return has (← ahead) "?"))) (.group b ts :: rest)
      (some (has ts "?")) (.group b ts :: rest) := by
  intro u
  have hinside : (inside b (do return has (← ahead) "?")) ⟨.group b ts :: rest, u⟩ =
      .ok (has ts "?", ⟨rest, u.or (if ts.isEmpty then none else some b)⟩) := by
    cases b <;> rfl
  simp only [foresee, hinside]

theorem takes_pair {us vs : List Token} {left right : Form} (hus : us ≠ [])
    (hmaybe : has us "?" = false) (hlifetime : has us .lifetime = false)
    (hleft : Takes (read (.type true)) us left (.mark ',' false :: vs)) (hvs : vs ≠ [])
    (hright : Takes (read (.type true)) vs right []) (plus : Bool) :
    Takes (type read plus) (.group .round us :: rest) .plain rest := by
  have hinside : Takes (roundInside read) us .plain [] := by
    refine (takes_ahead us).bind ?_
    rw [List.isEmpty_eq_false_iff.mpr hus, hlifetime]
    refine hleft.bind (Takes.bind (fun _ => rfl) ?_)
    have hitem : Takes (do let _ ← read (.type true)) vs () [] := hright.bind (takes_pure () [])
    have hlast : Takes (commas (do let _ ← read (.type true))) vs () [] :=
      takes_list_one (List.isEmpty_eq_false_iff.mpr hvs) hitem rfl
    exact Takes.bind (fun _ => rfl) (hlast.bind (takes_pure _ []))
  refine (takes_binderIf rfl).bind ((takes_ahead _).bind ?_)
  refine (takes_question .round us rest).bind ?_
  rw [hmaybe]
  refine hinside.inside.bind ((takes_ahead rest).bind ?_)
  rw [show [Form.name, .path, .bound].contains .plain = false by decide, Bool.and_false,
    Bool.false_and]
  exact takes_pure _ rest

end Grammar

namespace Ty

def isTrait : Ty → Bool
  | named _ | applied .. | bound .. => true
  | reference _ | some _ | pair .. => false

def isGrammatical : Ty → Bool
  | named p => arePath (ofText p)
  | reference t => t.isGrammatical
  | some t => t.isTrait && t.isGrammatical
  | applied h t => areName (ofText h) && t.isGrammatical
  | bound h n t => areName (ofText h) && areName (ofText n) && t.isGrammatical
  | pair a b => a.isGrammatical && b.isGrammatical

def foreign : List Due :=
  [.lifetime, .literal, .group .curly, "<", ">", "?", "!", "...", "mut", "const", "use", "where",
   "#", "pub"]

theorem front_emitted {t : Ty} (h : t.isGrammatical) (rest : List Token) :
    t.emitted ++ rest ≠ [] ∧ ∀ d ∈ foreign, has (t.emitted ++ rest) d = false := by
  have hname {u : Token} (hu : u.isSegment) (us : List Token) :
      u :: us ≠ [] ∧ ∀ d ∈ foreign, has (u :: us) d = false :=
    ⟨List.cons_ne_nil u us, hasAny_eq_false_iff.mp (hasAny_segment hu (by decide) us)⟩
  cases t with
  | named p =>
    obtain ⟨u, us, hp, hu, -⟩ := Grammar.eq_of_arePath h
    rw [emitted, hp]
    exact hname hu _
  | applied g t =>
    obtain ⟨u, hg, hu⟩ := Grammar.eq_of_areName (Bool.and_eq_true_iff.mp h).1
    rw [emitted, hg]
    exact hname (isSegment_iff.mpr (.inl hu)) _
  | bound g n t =>
    obtain ⟨hnames, -⟩ := Bool.and_eq_true_iff.mp h
    obtain ⟨u, hg, hu⟩ := Grammar.eq_of_areName (Bool.and_eq_true_iff.mp hnames).1
    rw [emitted, hg]
    exact hname (isSegment_iff.mpr (.inl hu)) _
  | reference t => exact ⟨List.cons_ne_nil _ _, hasAny_eq_false_iff.mp rfl⟩
  | some t => exact ⟨List.cons_ne_nil _ _, hasAny_eq_false_iff.mp rfl⟩
  | pair a b => exact ⟨List.cons_ne_nil _ _, hasAny_eq_false_iff.mp rfl⟩

structure Reads (t : Ty) : Prop where
  type : ∀ n, 4 * count t.emitted ≤ n → ∀ plus rest, Grammar.EndsType rest →
    ∃ form, Takes (Grammar.parts n (.type plus)) (t.emitted ++ rest) form rest
  path : t.isTrait → ∀ n, 4 * count t.emitted ≤ n + 2 → ∀ rest, Grammar.EndsType rest →
    ∃ u us p, t.emitted = u :: us ∧ u.isSegment ∧ has (us ++ rest) "#" = false ∧
      p.rooted = false ∧ Takes (Grammar.path (Grammar.parts n) false) (t.emitted ++ rest) p rest

theorem reads_of_path {t : Ty}
    (h : ∀ n, 4 * count t.emitted ≤ n + 2 → ∀ rest, Grammar.EndsType rest →
      ∃ u us p, t.emitted = u :: us ∧ u.isSegment ∧ has (us ++ rest) "#" = false ∧
        p.rooted = false ∧
          Takes (Grammar.path (Grammar.parts n) false) (t.emitted ++ rest) p rest) :
    t.Reads := by
  refine ⟨fun n hn plus rest hrest => ?_, fun _ => h⟩
  have hpos : 0 < count t.emitted := by
    obtain ⟨u, us, p, hu, -⟩ :=
      h (4 * count t.emitted) (by omega) [] ⟨⟨rfl, rfl⟩, rfl, rfl, rfl, rfl⟩
    rw [hu, count_cons]
    exact Nat.add_pos_left u.size_pos _
  obtain ⟨n, rfl⟩ := Nat.exists_eq_succ_of_ne_zero (by omega : n ≠ 0)
  obtain ⟨u, us, p, hu, hsegment, hhash, hroot, hpath⟩ := h n (by omega) rest hrest
  rw [hu] at hpath ⊢
  exact ⟨_, Grammar.takes_type_of_path hsegment hhash hroot hpath hrest plus⟩

theorem reads_named {s : String} (h : arePath (ofText s)) : (named s).Reads := by
  refine reads_of_path fun n _ rest hrest => ?_
  obtain ⟨u, us, hs, hu, hus⟩ := Grammar.eq_of_arePath h
  refine ⟨u, Grammar.laterTokens us,
    ⟨false, Grammar.plainSegment u, us.map Grammar.plainSegment⟩, hs, hu,
    Grammar.has_hash_later us hrest.hash, rfl, ?_⟩
  rw [emitted, hs]
  exact Grammar.takes_path hu hus hrest.toEndsPath false

theorem isConstant_emitted {t : Ty} (h : t.isGrammatical) (rest : List Token) :
    Grammar.isConstant (t.emitted ++ rest) = false := by
  obtain ⟨-, hfront⟩ := front_emitted h rest
  exact hasAny_eq_false_iff.mpr (List.forall_mem_cons.mpr
    ⟨hfront .literal (by decide), by simpa using hfront (.group .curly) (by decide)⟩)

theorem reads_applied {g : String} {t : Ty} (hg : areName (ofText g)) (h : t.isGrammatical)
    (ht : t.Reads) : (applied g t).Reads := by
  obtain ⟨u, hu, hname⟩ := Grammar.eq_of_areName hg
  refine reads_of_path fun n hn rest hrest => ?_
  rw [emitted, hu] at hn ⊢
  simp only [List.singleton_append, count_cons, count_append, size_mark, count_nil] at hn
  obtain ⟨form, hread⟩ := ht.type n (by have := u.size_pos; omega) true (.mark '>' false :: rest)
    ⟨⟨rfl, rfl⟩, rfl, rfl, rfl, rfl⟩
  obtain ⟨hne, hfront⟩ := front_emitted h (.mark '>' false :: rest)
  have hargument := Grammar.takes_argument (hfront .lifetime (by decide)) (isConstant_emitted h _)
    hread rfl rfl
  have harguments := Grammar.takes_arguments (hfront ">" (by decide)) hargument
  have hpath := Grammar.takes_path_applied hname harguments hrest.toEndsPath
  exact ⟨u, _, _, rfl, isSegment_iff.mpr (.inl hname), rfl, rfl, by simpa using hpath⟩

theorem reads_bound {g n : String} {t : Ty} (hg : areName (ofText g)) (hn : areName (ofText n))
    (h : t.isGrammatical) (ht : t.Reads) : (bound g n t).Reads := by
  obtain ⟨u, hu, hname⟩ := Grammar.eq_of_areName hg
  obtain ⟨v, hv, hitem⟩ := Grammar.eq_of_areName hn
  refine reads_of_path fun m hm rest hrest => ?_
  rw [emitted, hu, hv] at hm ⊢
  simp only [List.singleton_append, count_cons, count_append, size_mark, count_nil] at hm
  have hpos := u.size_pos
  obtain ⟨form, hread⟩ := ht.type m (by omega) true (.mark '>' false :: rest)
    ⟨⟨rfl, rfl⟩, rfl, rfl, rfl, rfl⟩
  have hword : Takes (Grammar.parts m (.type true))
      (v :: .mark '=' false :: (t.emitted ++ .mark '>' false :: rest)) .name
      (.mark '=' false :: (t.emitted ++ .mark '>' false :: rest)) := by
    obtain ⟨m, rfl⟩ := Nat.exists_eq_succ_of_ne_zero (by omega : m ≠ 0)
    exact Grammar.takes_type_name hitem ⟨⟨rfl, rfl⟩, rfl, rfl, rfl, rfl⟩ true
  have hargument := Grammar.takes_argument_bound hitem hword (isConstant_emitted h _) hread
  have harguments := Grammar.takes_arguments (has_identifier hitem (by decide) _) hargument
  have hpath := Grammar.takes_path_applied hname harguments hrest.toEndsPath
  exact ⟨u, _, _, rfl, isSegment_iff.mpr (.inl hname), rfl, rfl, by simpa using hpath⟩

theorem reads_reference {t : Ty} (h : t.isGrammatical) (ht : t.Reads) : (reference t).Reads := by
  refine ⟨fun n hn plus rest hrest => ?_, fun h => absurd h Bool.false_ne_true⟩
  rw [emitted, count_cons, size_mark] at hn
  obtain ⟨n, rfl⟩ := Nat.exists_eq_succ_of_ne_zero (by omega : n ≠ 0)
  obtain ⟨form, hread⟩ := ht.type n (by omega) false rest hrest
  obtain ⟨-, hfront⟩ := front_emitted h rest
  have hlifetime : Takes takeLifetimeIf (t.emitted ++ rest) () (t.emitted ++ rest) := by
    refine (takes_ahead _).bind ?_
    rw [hfront .lifetime (by decide)]
    exact takes_pure _ _
  have hmut := takes_takeIf (hfront "mut" (by decide))
  have hreference : Takes (Grammar.referenceType (Grammar.parts n))
      (.mark '&' false :: (t.emitted ++ rest)) () rest :=
    Takes.bind (fun _ => rfl) (hlifetime.bind (hmut.bind (hread.bind (takes_pure _ rest))))
  exact ⟨.plain, (Grammar.takes_binderIf rfl).bind ((takes_ahead _).bind
    (hreference.bind (takes_pure _ rest)))⟩

theorem reads_pair {a b : Ty} (ha : a.isGrammatical) (hb : b.isGrammatical) (hra : a.Reads)
    (hrb : b.Reads) : (pair a b).Reads := by
  refine ⟨fun n hn plus rest hrest => ?_, fun h => absurd h Bool.false_ne_true⟩
  have hinner : separated [a.emitted, b.emitted] = a.emitted ++ .mark ',' false :: b.emitted := by
    simp [separated]
  rw [emitted, hinner] at hn ⊢
  simp only [count_cons, count_append, size_group, size_mark, count_nil] at hn
  obtain ⟨n, rfl⟩ := Nat.exists_eq_succ_of_ne_zero (by omega : n ≠ 0)
  obtain ⟨left, hleft⟩ := hra.type n (by omega) true (.mark ',' false :: b.emitted)
    ⟨⟨rfl, rfl⟩, rfl, rfl, rfl, rfl⟩
  obtain ⟨right, hright⟩ := hrb.type n (by omega) true [] ⟨⟨rfl, rfl⟩, rfl, rfl, rfl, rfl⟩
  obtain ⟨hne, hfront⟩ := front_emitted ha (.mark ',' false :: b.emitted)
  obtain ⟨hnone, -⟩ := front_emitted hb []
  rw [List.append_nil] at hright hnone
  exact ⟨_, Grammar.takes_pair hne (hfront "?" (by decide)) (hfront .lifetime (by decide)) hleft
    hnone hright plus⟩

theorem Reads.bound {t : Ty} (h : t.Reads) (ht : t.isTrait) {n : Nat}
    (hn : 4 * count t.emitted ≤ n) (hpos : n ≠ 0) {rest : List Token}
    (hrest : Grammar.EndsType rest) (capture constAllowed : Bool) :
    Takes (Grammar.parts n (.bound capture constAllowed)) (t.emitted ++ rest) .plain rest := by
  obtain ⟨n, rfl⟩ := Nat.exists_eq_succ_of_ne_zero hpos
  obtain ⟨u, us, p, hu, hsegment, -, -, hpath⟩ := h.path ht n (by omega) rest hrest
  rw [hu] at hpath ⊢
  exact (Grammar.takes_bound_of_path hsegment hpath hrest capture constAllowed).bind
    (takes_pure _ rest)

theorem reads_some {t : Ty} (htrait : t.isTrait) (h : t.isGrammatical) (ht : t.Reads) :
    (some t).Reads := by
  refine ⟨fun n hn plus rest hrest => ?_, fun h => absurd h Bool.false_ne_true⟩
  rw [emitted, count_cons, size_word] at hn
  obtain ⟨n, rfl⟩ := Nat.exists_eq_succ_of_ne_zero (by omega : n ≠ 0)
  obtain ⟨-, hfront⟩ := front_emitted h rest
  have hbound := ht.bound htrait (n := n) (by omega) (by omega) hrest true true
  exact ⟨_, Grammar.takes_type_some (hfront .lifetime (by decide)) (hfront "use" (by decide))
    hbound hrest.plus⟩

theorem reads_grammatical (t : Ty) (h : t.isGrammatical) : t.Reads := by
  induction t with
  | named p => exact reads_named h
  | reference t ih => exact reads_reference h (ih h)
  | some t ih =>
    obtain ⟨htrait, h⟩ := Bool.and_eq_true_iff.mp h
    exact reads_some htrait h (ih h)
  | applied g t ih =>
    obtain ⟨hg, h⟩ := Bool.and_eq_true_iff.mp h
    exact reads_applied hg h (ih h)
  | bound g n t ih =>
    obtain ⟨hnames, h⟩ := Bool.and_eq_true_iff.mp h
    obtain ⟨hg, hn⟩ := Bool.and_eq_true_iff.mp hnames
    exact reads_bound hg hn h (ih h)
  | pair a b iha ihb =>
    obtain ⟨ha, hb⟩ := Bool.and_eq_true_iff.mp h
    exact reads_pair ha hb (iha ha) (ihb hb)

end Ty

end TypedMarkup.Code
