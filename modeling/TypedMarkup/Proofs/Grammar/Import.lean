import TypedMarkup.Artifact.Builder
import TypedMarkup.Proofs.Grammar.Item

namespace TypedMarkup.Code

open Token Reader

def Reader.Ends (r : Reader Unit) (ts : List Token) (fault : Option ReadError) (us : List Token) :
    Prop :=
  match fault with
  | none => Takes r ts () us
  | some e => Fails r ts e

theorem Reader.Ends.of_eq {r r' : Reader Unit} {ts ts' us : List Token} {fault : Option ReadError}
    (h : Ends r' ts' fault us) (heq : ∀ u, r ⟨ts, u⟩ = r' ⟨ts', u⟩) : Ends r ts fault us := by
  cases fault with
  | none => exact fun u => (heq u).trans (h u)
  | some e => exact fun u => (heq u).trans (h u)

theorem Reader.Takes.ends {α : Type} {r : Reader α} {f : α → Reader Unit} {x : α}
    {ts us vs : List Token} {fault : Option ReadError} (h : Takes r ts x us)
    (h' : Ends (f x) us fault vs) : Ends (r >>= f) ts fault vs := by
  cases fault with
  | none => exact h.bind h'
  | some e => exact h.fails h'

namespace Grammar

variable {read : Parts} {t : Token} {ts us rest : List Token}

def importWords : List Due :=
  [.identifier, "self", "super", "crate", "try"]

def Follows (form : Arguments) (rest us : List Token) : Prop :=
  match form with
  | .none => us = rest
  | .direct => has rest "<"
  | .afterColons => has rest "::" ∧ hasThird rest "<"

theorem follows_argumentsAhead (rest : List Token) :
    Follows (argumentsAhead false rest) rest rest := by
  unfold argumentsAhead
  split
  · rename_i h
    simp only [Bool.not_false, Bool.true_and, Bool.and_eq_true] at h
    exact h.1.1
  · split
    · rename_i h
      exact Bool.and_eq_true_iff.mp h
    · rfl

theorem arguments_eq_ok {w : String} {s : Segment} {u v : Option Bracket}
    (h : (do
      let form := argumentsAhead false (← ahead)
      argumentsAs read form
      return ⟨w, form⟩ : Reader Segment) ⟨rest, u⟩ = .ok (s, ⟨us, v⟩)) :
    s.word = w ∧ Follows s.arguments rest us := by
  obtain ⟨_, _, hahead, h⟩ := bind_eq_ok.1 h
  obtain ⟨rfl, rfl⟩ := ahead_eq_ok.mp hahead
  obtain ⟨_, t, harguments, h⟩ := bind_eq_ok.1 h
  obtain ⟨rfl, rfl⟩ := pure_eq_ok.mp h
  have hfollows := follows_argumentsAhead rest
  refine ⟨rfl, ?_⟩
  dsimp only
  cases hform : argumentsAhead false rest with
  | none =>
    rw [hform] at harguments
    obtain ⟨-, heq⟩ := pure_eq_ok.mp harguments
    exact (congrArg Stream.tokens heq).symm
  | direct | afterColons => rwa [hform] at hfollows

theorem segment_word_eq_ok {w : String} {s : Segment} {u v : Option Bracket}
    (h : segment read false ⟨.word w :: rest, u⟩ = .ok (s, ⟨us, v⟩)) :
    s.word = w ∧ (hasAny (.word w :: rest) importWords ∨ w = "Self") ∧
      Follows s.arguments rest us := by
  obtain ⟨_, _, hahead, h⟩ := bind_eq_ok.1 h
  obtain ⟨rfl, rfl⟩ := ahead_eq_ok.mp hahead
  split at h
  · rename_i hpath
    obtain ⟨x, t, hword, h⟩ := bind_eq_ok.1 h
    have hx : (Except.ok (w, ⟨rest, u⟩) : Except ReadError (String × Stream)) = .ok (x, t) := hword
    cases hx
    obtain ⟨rfl, ht⟩ := pure_eq_ok.mp h
    obtain ⟨rfl, rfl⟩ := Stream.mk.inj ht
    obtain ⟨d, hd, hhas⟩ := List.any_eq_true.mp hpath
    have hsubset : pathKeywords ⊆ importWords := by decide
    exact ⟨rfl, .inl (List.any_eq_true.mpr ⟨d, hsubset hd, hhas⟩), rfl⟩
  · dsimp only at h
    split at h
    · rename_i hself
      obtain ⟨x, t, hword, h⟩ := bind_eq_ok.1 h
      have hx : (Except.ok (w, ⟨rest, u⟩) : Except ReadError (String × Stream)) = .ok (x, t) :=
        hword
      cases hx
      obtain ⟨hs, hfollows⟩ := arguments_eq_ok h
      exact ⟨hs, .inr (beq_iff_eq.mp hself), hfollows⟩
    · obtain ⟨x, t, hword, h⟩ := bind_eq_ok.1 h
      unfold takeIdentifier at hword
      obtain ⟨_, _, hahead, hword⟩ := bind_eq_ok.1 hword
      obtain ⟨rfl, rfl⟩ := ahead_eq_ok.mp hahead
      dsimp only at hword
      split at hword
      · exact absurd hword throw_ne_ok
      · rename_i hkeyword
        have hx : (Except.ok (w, ⟨rest, u⟩) : Except ReadError (String × Stream)) = .ok (x, t) :=
          hword
        cases hx
        obtain ⟨hs, hfollows⟩ := arguments_eq_ok h
        refine ⟨hs, .inl (List.any_eq_true.mpr ⟨.identifier, by decide, ?_⟩), hfollows⟩
        simpa [has] using hkeyword

theorem segment_eq_ok {s : Segment} {u v : Option Bracket}
    (h : segment read false ⟨ts, u⟩ = .ok (s, ⟨us, v⟩)) :
    ∃ t rest, ts = t :: rest ∧
      (s.word ≠ "Self" ∧ hasAny (t :: rest) importWords ∨ s.word = "Self" ∧ t = .word "Self") ∧
      Follows s.arguments rest us := by
  cases ts with
  | nil => cases h
  | cons t rest =>
    refine ⟨t, rest, rfl, ?_⟩
    cases t with
    | word w =>
      obtain ⟨hword, hstart, hfollows⟩ := segment_word_eq_ok h
      refine ⟨?_, hfollows⟩
      rcases hstart with hstart | rfl
      · refine .inl ⟨?_, hstart⟩
        rw [hword]
        rintro rfl
        exact absurd hstart Bool.false_ne_true
      · exact .inr ⟨hword, rfl⟩
    | raw w =>
      have htail : (do
          let form := argumentsAhead false (← ahead)
          argumentsAs read form
          return ⟨"r#" ++ w, form⟩ : Reader Segment) ⟨rest, u⟩ = .ok (s, ⟨us, v⟩) := h
      obtain ⟨hword, hfollows⟩ := arguments_eq_ok htail
      refine ⟨.inl ⟨?_, List.any_eq_true.mpr ⟨.identifier, by decide, rfl⟩⟩, hfollows⟩
      intro hself
      rw [hword] at hself
      have hhead := congrArg (fun s => s.toList.head?) hself
      simp at hhead
    | _ => cases h

def importEnd (names : List String) (rest : List Token) : List Token :=
  .mark ':' true :: .mark ':' false :: .group .curly (separated (names.map ofText)) ::
    .mark ';' false :: rest

def importTree (n : Nat) (rooted : Bool) : Reader Unit := do
  let _ ← parts n (.useTree rooted)
  take ";"

theorem takes_importWord (h : hasAny (t :: ts) importWords) (ts : List Token) :
    Takes takeWord (t :: ts) t.spelling ts := by
  cases t with
  | word | raw => exact fun _ => rfl
  | _ => exact absurd h Bool.false_ne_true

theorem fails_importTree_self (n : Nat) (rooted : Bool) (ts : List Token) :
    Fails (importTree (n + 1) rooted) (.word "Self" :: ts) Segment.importFault?.noName :=
  fun _ => rfl

theorem fails_importTree_angle (n : Nat) (rooted joint : Bool) (ts : List Token) :
    Fails (importTree (n + 1) rooted) (.mark '<' joint :: ts) Segment.importFault?.noName :=
  fun _ => rfl

theorem hasAny_importWords (t : Token) (ts us : List Token) :
    hasAny (t :: ts) importWords = hasAny (t :: us) importWords := by
  cases t <;> rfl

theorem eq_of_has_angle (h : has ts "<") : ∃ joint us, ts = .mark '<' joint :: us := by
  cases ts with
  | nil => exact absurd h Bool.false_ne_true
  | cons t us =>
    cases t with
    | mark c joint =>
      obtain rfl : '<' = c := beq_iff_eq.mp h
      exact ⟨joint, us, rfl⟩
    | _ => exact absurd h Bool.false_ne_true

theorem eq_of_has_colons (h : has ts "::") :
    ∃ joint us, ts = .mark ':' true :: .mark ':' joint :: us := by
  cases ts with
  | nil => exact absurd h Bool.false_ne_true
  | cons t us =>
    cases t with
    | mark c joint =>
      cases joint with
      | false => exact absurd h Bool.false_ne_true
      | true =>
        obtain ⟨hc, h⟩ := Bool.and_eq_true_iff.mp h
        obtain rfl : ':' = c := beq_iff_eq.mp hc
        cases us with
        | nil => exact absurd h Bool.false_ne_true
        | cons t us =>
          cases t with
          | mark c joint =>
            obtain rfl : ':' = c := beq_iff_eq.mp h
            exact ⟨joint, us, rfl⟩
          | _ => exact absurd h Bool.false_ne_true
    | _ => exact absurd h Bool.false_ne_true

theorem takes_useTree_word (h : hasAny (t :: ts) importWords) (hcolons : has ts "::" = false)
    (hrenamed : has ts "as" = false) (rooted : Bool) :
    Takes (useTree read rooted) (t :: ts) () ts := by
  refine (takes_ahead _).bind ?_
  rw [if_pos (by exact h)]
  refine (takes_importWord h ts).bind ((takes_takeIf hcolons).bind ?_)
  exact (takes_takeIf hrenamed).bind (takes_pure () ts)

theorem fails_importTree_end (h : hasAny (t :: ts) importWords) (hts : has ts "<") (n : Nat)
    (rooted : Bool) : Fails (importTree (n + 1) rooted) (t :: ts) Segment.importFault?.noEnd := by
  obtain ⟨joint, us, rfl⟩ := eq_of_has_angle hts
  have hcolons : has (.mark '<' joint :: us) "::" = false := by
    cases joint <;> rfl
  have hno : Fails (take ";") (.mark '<' joint :: us) Segment.importFault?.noEnd := fun _ => rfl
  have htree : Takes (parts (n + 1) (.useTree rooted)) (t :: .mark '<' joint :: us) .plain
      (.mark '<' joint :: us) :=
    (takes_useTree_word h hcolons rfl rooted).bind (takes_pure _ _)
  exact htree.fails hno

theorem importTree_colons (h : hasAny (t :: ts) importWords) (n : Nat) (rooted joint : Bool)
    (us : List Token) (u : Option Bracket) :
    importTree (n + 1) rooted ⟨t :: .mark ':' true :: .mark ':' joint :: us, u⟩ =
      importTree n false ⟨us, u⟩ := by
  rw [hasAny_importWords t ts (.mark ':' true :: .mark ':' joint :: us)] at h
  have htree : useTree (parts n) rooted ⟨t :: .mark ':' true :: .mark ':' joint :: us, u⟩ =
      (do let _ ← parts n (.useTree false) : Reader Unit) ⟨us, u⟩ := by
    refine (bind_apply (takes_ahead _ u)).trans ?_
    dsimp only
    rw [if_pos (by exact h)]
    refine (bind_apply (takes_importWord h _ u)).trans ?_
    exact bind_apply (show takeIf "::" ⟨.mark ':' true :: .mark ':' joint :: us, u⟩ =
      .ok (true, ⟨us, u⟩) from rfl)
  change ((useTree (parts n) rooted >>= fun _ => pure Form.plain) >>= fun _ => take ";") _ = _
  rw [bind_assoc]
  simp only [pure_bind]
  change (useTree (parts n) rooted _ >>= fun p => take ";" p.2) =
    (parts n (.useTree false) ⟨us, u⟩ >>= fun p => take ";" p.2)
  rw [htree]
  change
    ((parts n (.useTree false) ⟨us, u⟩ >>= fun p => pure ((), p.2)) >>= fun p => take ";" p.2) =
    _
  rw [bind_assoc]
  simp only [pure_bind]

theorem takes_importTree_names {names : List String} (h : ∀ s ∈ names, areName (ofText s))
    (n : Nat) (rooted : Bool) (rest : List Token) :
    Takes (importTree (n + 2) rooted)
      (.group .curly (separated (names.map ofText)) :: .mark ';' false :: rest) () rest := by
  have hitem : Takes (commas (do
      let anew ← if rooted then takeIf "::" else pure false
      let _ ← parts (n + 1) (.useTree (rooted && !anew))))
      (separated (names.map ofText)) () [] := by
    refine takes_commas fun e he => ?_
    obtain ⟨s, hs, rfl⟩ := List.mem_map.mp he
    obtain ⟨t, hs, ht⟩ := eq_of_areName (h s hs)
    rw [hs]
    refine ⟨List.cons_ne_nil _ _, fun us hus => ?_⟩
    have hword : hasAny (t :: us) importWords :=
      List.any_eq_true.mpr ⟨.identifier, by decide, has_of_isIdentifier ht us⟩
    obtain ⟨hcolons, hrenamed⟩ : has us "::" = false ∧ has us "as" = false := by
      unfold endsItem at hus
      split at hus
      · exact ⟨rfl, rfl⟩
      · exact ⟨rfl, rfl⟩
      · exact absurd hus Bool.false_ne_true
    have hname (rooted : Bool) : Takes (parts (n + 1) (.useTree rooted)) (t :: us) .plain us :=
      (takes_useTree_word hword hcolons hrenamed rooted).bind (takes_pure _ us)
    cases rooted with
    | false => exact (takes_pure false _).bind ((hname false).bind (takes_pure () us))
    | true =>
      have hanew := takes_takeIf (has_identifier ht (by decide : Due.isReserved "::") us)
      exact hanew.bind ((hname true).bind (takes_pure () us))
  have htree : Takes (useTree (parts (n + 1)) rooted)
      (.group .curly (separated (names.map ofText)) :: .mark ';' false :: rest) ()
      (.mark ';' false :: rest) := (takes_ahead _).bind hitem.inside
  exact (htree.bind (takes_pure Form.plain _)).bind fun _ => rfl

theorem fails_importTree {s : Segment} {u v : Option Bracket}
    (hsegment : segment read false ⟨ts, u⟩ = .ok (s, ⟨us, v⟩)) {e : ReadError}
    (he : s.importFault? = some e) (n : Nat) (rooted : Bool) (rest : List Token) :
    Fails (importTree (n + 2) rooted) (ts ++ rest) e := by
  obtain ⟨t, ts, rfl, hword, hfollows⟩ := segment_eq_ok hsegment
  unfold Segment.importFault? at he
  rcases hword with ⟨hself, hword⟩ | ⟨hself, rfl⟩
  · rw [if_neg hself] at he
    unfold Follows at hfollows
    rw [hasAny_importWords t ts (ts ++ rest)] at hword
    cases harguments : s.arguments with
    | none => simp [harguments] at he
    | direct =>
      simp only [harguments, Option.some.injEq] at he hfollows
      obtain ⟨joint, vs, rfl⟩ := eq_of_has_angle hfollows
      rw [← he]
      exact fails_importTree_end hword (beq_self_eq_true '<') (n + 1) rooted
    | afterColons =>
      simp only [harguments, Option.some.injEq] at he hfollows
      obtain ⟨joint, vs, rfl⟩ := eq_of_has_colons hfollows.1
      obtain ⟨joint', ws, rfl⟩ := eq_of_has_angle hfollows.2
      rw [← he]
      exact fun u => (importTree_colons hword (n + 1) rooted joint _ u).trans
        (fails_importTree_angle n false joint' _ u)
  · rw [if_pos hself, Option.some.injEq] at he
    rw [← he]
    exact fails_importTree_self (n + 1) rooted _

theorem eq_of_importFault? {s : Segment} {u v : Option Bracket}
    (hsegment : segment read false ⟨ts, u⟩ = .ok (s, ⟨us, v⟩)) (hs : s.importFault? = none) :
    ∃ t, ts = t :: us ∧ hasAny ts importWords := by
  obtain ⟨t, ts, rfl, hword, hfollows⟩ := segment_eq_ok hsegment
  unfold Segment.importFault? at hs
  split at hs
  · cases hs
  · rename_i hself
    have harguments : s.arguments = .none := by
      cases h : s.arguments <;> simp [h] at hs ⊢
    rw [harguments] at hfollows
    obtain rfl : us = ts := hfollows
    exact ⟨t, rfl, (hword.resolve_right fun h => hself h.1).2⟩

theorem eq_of_take_colons {s : Stream} {u : Option Bracket}
    (h : take "::" ⟨ts, u⟩ = .ok ((), s)) :
    ∃ joint us, ts = .mark ':' true :: .mark ':' joint :: us ∧ s = ⟨us, u⟩ := by
  obtain ⟨_, _, hahead, h⟩ := bind_eq_ok.1 h
  obtain ⟨rfl, rfl⟩ := ahead_eq_ok.mp hahead
  split at h
  · rename_i hcolons
    obtain ⟨joint, us, rfl⟩ := eq_of_has_colons hcolons
    exact ⟨joint, us, rfl, advance_eq_ok.mp h⟩
  · exact absurd h throw_ne_ok

theorem laterSegments_cases {k : Nat} {ss later : List Segment} {v : Option Bracket}
    (h : rounds (laterStep read false) k ss ⟨us, v⟩ = .ok (ss ++ later, ⟨[], none⟩)) :
    (later = [] ∧ us = []) ∨ ∃ joint vs x later' ws w k',
      us = .mark ':' true :: .mark ':' joint :: vs ∧ later = x :: later' ∧
        segment read false ⟨vs, v⟩ = .ok (x, ⟨ws, w⟩) ∧
        rounds (laterStep read false) k' (ss ++ [x]) ⟨ws, w⟩ =
          .ok ((ss ++ [x]) ++ later', ⟨[], none⟩) := by
  have hend {t : Stream} (hlater : ss = ss ++ later) (ht : t = ⟨[], none⟩) (hus : t = ⟨us, v⟩) :
      later = [] ∧ us = [] := by
    rw [hus] at ht
    exact ⟨by simpa using hlater, congrArg Stream.tokens ht⟩
  cases k with
  | zero =>
    obtain ⟨hlater, ht⟩ := pure_eq_ok.mp h
    exact .inl (hend hlater ht rfl)
  | succ k =>
    obtain ⟨⟨ss', more⟩, t, hstep, hrest⟩ := bind_eq_ok.1 h
    obtain ⟨rfl, rfl, rfl⟩ | ⟨x, s, rfl, rfl, htake, hsegment⟩ := laterStep_eq_ok hstep
    · obtain ⟨hlater, ht⟩ := pure_eq_ok.mp hrest
      exact .inl (hend hlater ht rfl)
    · obtain ⟨joint, vs, rfl, rfl⟩ := eq_of_take_colons htake
      obtain ⟨later', hlater⟩ := prefix_rounds hrest
      refine .inr ⟨joint, vs, x, later', t.tokens, t.unread, k, rfl, ?_, hsegment, ?_⟩
      · simpa [eq_comm] using hlater
      · rw [hlater]
        exact hrest

theorem ends_importTree {names : List String} (hnames : ∀ s ∈ names, areName (ofText s)) {k : Nat}
    {s : Segment} {ss later : List Segment} {u v : Option Bracket}
    (hsegment : segment read false ⟨ts, u⟩ = .ok (s, ⟨us, v⟩))
    (hlater : rounds (laterStep read false) k ss ⟨us, v⟩ = .ok (ss ++ later, ⟨[], none⟩)) {n : Nat}
    (hn : ts.length < n) (rooted : Bool) (rest : List Token) :
    Ends (importTree (n + 1) rooted) (ts ++ importEnd names rest)
      ((s :: later).findSome? Segment.importFault?) rest := by
  induction n generalizing s ss later ts us u v k rooted with
  | zero => exact absurd hn (Nat.not_lt_zero _)
  | succ n ih =>
    cases hs : s.importFault? with
    | some e =>
      rw [List.findSome?_cons, hs]
      exact fails_importTree hsegment hs n rooted _
    | none =>
      rw [List.findSome?_cons, hs]
      obtain ⟨t, rfl, hword⟩ := eq_of_importFault? hsegment hs
      rw [List.length_cons] at hn
      obtain ⟨rfl, rfl⟩ | ⟨joint, vs, x, later', ws, w, k', rfl, rfl, hx, hrest⟩ :=
        laterSegments_cases hlater
      · obtain ⟨n, rfl⟩ := Nat.exists_eq_succ_of_ne_zero (by omega : n ≠ 0)
        exact fun u => (importTree_colons hword (n + 2) rooted false _ u).trans
          (takes_importTree_names hnames n false rest u)
      · simp only [List.length_cons] at hn
        refine (ih hx hrest (by omega) false).of_eq fun u => ?_
        exact importTree_colons hword (n + 1) rooted joint _ u

theorem has_colons_segment {s : Segment} {u v : Option Bracket}
    (h : segment read false ⟨ts, u⟩ = .ok (s, ⟨us, v⟩)) (rest : List Token) :
    has (ts ++ rest) "::" = false := by
  obtain ⟨t, ts, rfl, hword, -⟩ := segment_eq_ok h
  cases t with
  | word | raw => rfl
  | _ =>
    rcases hword with ⟨-, h⟩ | ⟨-, h⟩
    · exact absurd h Bool.false_ne_true
    · cases h

theorem eq_of_takeIf_colons {u v : Option Bracket} {rooted : Bool}
    (h : takeIf "::" ⟨ts, u⟩ = .ok (rooted, ⟨us, v⟩)) :
    (rooted = true ∧ ∃ joint, ts = .mark ':' true :: .mark ':' joint :: us) ∨
      (rooted = false ∧ us = ts) := by
  obtain ⟨_, _, hahead, h⟩ := bind_eq_ok.1 h
  obtain ⟨rfl, rfl⟩ := ahead_eq_ok.mp hahead
  split at h
  · obtain ⟨_, t, htake, h⟩ := bind_eq_ok.1 h
    obtain ⟨rfl, rfl⟩ := pure_eq_ok.mp h
    obtain ⟨joint, vs, rfl, ht⟩ := eq_of_take_colons htake
    obtain ⟨rfl, -⟩ := Stream.mk.inj ht
    exact .inl ⟨rfl, joint, rfl⟩
  · obtain ⟨rfl, ht⟩ := pure_eq_ok.mp h
    obtain ⟨rfl, -⟩ := Stream.mk.inj ht
    exact .inr ⟨rfl, rfl⟩

theorem ends_useItem {path : String} {p : ModulePath} (h : ModulePath.parse path = .ok p)
    {names : List String} (hnames : ∀ s ∈ names, areName (ofText s)) {n : Nat}
    (hn : (ofText path).length < n) (rest : List Token) :
    Ends (useItem (parts (n + 1))) (.word "use" :: (ofText path ++ importEnd names rest))
      p.importFault? rest := by
  unfold ModulePath.parse at h
  split at h
  · cases h
  rename_i ts hts
  rw [ofText, hts, Option.getD_some] at hn ⊢
  obtain ⟨rooted, ⟨us, u⟩, hrooted, h⟩ := bind_eq_ok.1 (ModulePath.run_eq_ok.mp h)
  obtain ⟨x, ⟨vs, v⟩, hsegment, h⟩ := bind_eq_ok.1 h
  obtain ⟨xs, t, hlater, h⟩ := bind_eq_ok.1 h
  obtain ⟨rfl, rfl⟩ := pure_eq_ok.mp h
  obtain ⟨_, _, hahead, hrounds⟩ := bind_eq_ok.1 hlater
  obtain ⟨-, rfl⟩ := ahead_eq_ok.mp hahead
  have hrounds : rounds (laterStep (parts _) false) _ [] ⟨vs, v⟩ = .ok ([] ++ xs, ⟨[], none⟩) :=
    hrounds
  obtain ⟨hlength, hstart⟩ : us.length < n ∧
      Takes (takeIf "::") (ts ++ importEnd names rest) rooted (us ++ importEnd names rest) := by
    obtain ⟨rfl, joint, rfl⟩ | ⟨rfl, rfl⟩ := eq_of_takeIf_colons hrooted
    · simp only [List.length_cons] at hn
      exact ⟨by omega, fun _ => rfl⟩
    · exact ⟨hn, takes_takeIf (has_colons_segment hsegment _)⟩
  have htree := ends_importTree hnames hsegment hrounds hlength (!rooted) rest
  have hvisibility : Takes visibility (.word "use" :: (ts ++ importEnd names rest)) false
      (.word "use" :: (ts ++ importEnd names rest)) := fun _ => rfl
  have huse : Takes (take "use") (.word "use" :: (ts ++ importEnd names rest)) ()
      (ts ++ importEnd names rest) := fun _ => rfl
  exact hvisibility.ends (huse.ends (hstart.ends htree))

theorem ends_import {path : String} {p : ModulePath} (h : ModulePath.parse path = .ok p)
    {names : List String} (hnames : ∀ s ∈ names, areName (ofText s)) {n : Nat}
    (hn : (ofText path).length < n) (rest : List Token) :
    Ends (item (parts (n + 1))) (importTokens path names ++ rest) p.importFault? rest := by
  have heq : importTokens path names ++ rest =
      .word "use" :: (ofText path ++ importEnd names rest) := by
    have hcolons : ofText "::" = [.mark ':' true, .mark ':' false] := rfl
    simp [importTokens, importEnd, hcolons]
  have hvisibility : Takes visibility (.word "use" :: (ofText path ++ importEnd names rest)) false
      (.word "use" :: (ofText path ++ importEnd names rest)) := fun _ => rfl
  have hahead : Takes (signatureAhead false) (.word "use" :: (ofText path ++ importEnd names rest))
      false (.word "use" :: (ofText path ++ importEnd names rest)) := fun _ => rfl
  rw [heq]
  refine (takes_outerAttributes_none rfl).ends ?_
  exact (takes_afterVisibility hvisibility hahead).ends (ends_useItem h hnames hn rest)

end Grammar

end TypedMarkup.Code
