import TypedMarkup.Proofs.Code.PathText
import TypedMarkup.Proofs.Grammar.Taking

namespace TypedMarkup.Code

open Token Reader

def pathWords : List String :=
  ["self", "Self", "super", "crate"]

namespace Token

def spelling : Token → String
  | word s => s
  | raw s => "r#" ++ s
  | _ => ""

def isIdentifier : Token → Bool
  | word s => !keywords.contains s
  | raw _ => true
  | _ => false

def isSegment : Token → Bool
  | word s => !keywords.contains s || pathWords.contains s
  | raw _ => true
  | _ => false

def arePath : List Token → Bool
  | [t] => t.isSegment
  | t :: .mark ':' true :: .mark ':' false :: ts => t.isSegment && arePath ts
  | _ => false

def areName : List Token → Bool
  | [t] => t.isIdentifier
  | _ => false

theorem isSegment_iff {t : Token} :
    t.isSegment ↔ t.isIdentifier ∨ ∃ w ∈ pathWords, t = .word w := by
  cases t with
  | word w => simp [isSegment, isIdentifier]
  | _ => simp [isSegment, isIdentifier]

end Token

namespace Due

def words : Due → List String
  | .spelled s => [s]
  | .literal => ["true", "false"]
  | _ => []

def isReserved (d : Due) : Bool :=
  d != .identifier && d != .spelled "" &&
    d.words.all fun s => !isWordSpelling s || keywords.contains s

def isForeign (d : Due) : Bool :=
  d.isReserved && d.words.all fun s => !pathWords.contains s

end Due

theorem hasAny_eq_false_iff {ts : List Token} {ds : List Due} :
    hasAny ts ds = false ↔ ∀ d ∈ ds, has ts d = false := by
  simp [hasAny]

theorem startsMarks_word {t : Token} (ht : startsAnyWord [t]) {s : String} (hs : s ≠ "")
    (ts : List Token) : startsMarks s.toList (t :: ts) = false := by
  have hne : s.toList ≠ [] := by simpa using hs
  obtain ⟨c, cs, hcs⟩ := List.exists_cons_of_ne_nil hne
  rw [hcs]
  cases t with
  | word | raw => cases cs <;> rfl
  | _ => exact absurd ht Bool.false_ne_true

theorem has_word {t : Token} (ht : startsAnyWord [t]) {d : Due} (hd : d.isReserved)
    (hne : ∀ s ∈ d.words, isWordSpelling s → t ≠ .word s) (ts : List Token) :
    has (t :: ts) d = false := by
  cases d with
  | identifier => exact absurd hd Bool.false_ne_true
  | spelled s =>
    have hs : s ≠ "" := by
      rintro rfl
      exact absurd hd (by decide)
    unfold has startsSpelled
    dsimp only
    split
    · rename_i hword
      cases t with
      | word w => exact beq_false_of_ne fun h => hne s List.mem_cons_self hword (congrArg _ h)
      | raw => rfl
      | _ => exact absurd ht Bool.false_ne_true
    · exact startsMarks_word ht hs ts
  | literal =>
    cases t with
    | word w =>
      have htrue : w ≠ "true" := fun h => hne "true" (by decide) (by decide) (congrArg _ h)
      have hfalse : w ≠ "false" := fun h => hne "false" (by decide) (by decide) (congrArg _ h)
      exact Bool.or_eq_false_iff.mpr ⟨beq_false_of_ne htrue, beq_false_of_ne hfalse⟩
    | raw => rfl
    | _ => exact absurd ht Bool.false_ne_true
  | _ =>
    cases t with
    | word | raw => rfl
    | _ => exact absurd ht Bool.false_ne_true

theorem has_identifier {t : Token} (h : t.isIdentifier) {d : Due} (hd : d.isReserved)
    (ts : List Token) : has (t :: ts) d = false := by
  have hword : startsAnyWord [t] := by
    cases t with
    | word | raw => rfl
    | _ => exact h
  refine has_word hword hd ?_ ts
  rintro s hs hspelling rfl
  have hkeyword := List.all_eq_true.mp (Bool.and_eq_true_iff.mp hd).2 s hs
  rw [hspelling, Bool.not_true, Bool.false_or] at hkeyword
  rw [Token.isIdentifier, hkeyword] at h
  exact Bool.false_ne_true h

theorem has_of_isIdentifier {t : Token} (h : t.isIdentifier) (ts : List Token) :
    has (t :: ts) .identifier = true := by
  cases t with
  | word | raw => exact h
  | _ => exact absurd h Bool.false_ne_true

theorem has_segment {t : Token} (h : t.isSegment) {d : Due} (hd : d.isForeign) (ts : List Token) :
    has (t :: ts) d = false := by
  obtain ⟨hreserved, hother⟩ := Bool.and_eq_true_iff.mp hd
  rcases isSegment_iff.mp h with h | ⟨w, hw, rfl⟩
  · exact has_identifier h hreserved ts
  · refine has_word rfl hreserved ?_ ts
    rintro s hs - ⟨⟩
    have hother := List.all_eq_true.mp hother w hs
    rw [List.contains_iff_mem.mpr hw] at hother
    exact Bool.false_ne_true hother

theorem hasAny_identifier {t : Token} (h : t.isIdentifier) {ds : List Due}
    (hds : ds.all Due.isReserved) (ts : List Token) : hasAny (t :: ts) ds = false :=
  hasAny_eq_false_iff.mpr fun d hd => has_identifier h (List.all_eq_true.mp hds d hd) ts

theorem hasAny_segment {t : Token} (h : t.isSegment) {ds : List Due} (hds : ds.all Due.isForeign)
    (ts : List Token) : hasAny (t :: ts) ds = false :=
  hasAny_eq_false_iff.mpr fun d hd => has_segment h (List.all_eq_true.mp hds d hd) ts

namespace Grammar

variable {read : Parts} {inExpression : Bool}

def plainSegment (t : Token) : Segment :=
  ⟨t.spelling, .none⟩

theorem takes_takeIdentifier {t : Token} (h : t.isIdentifier) (ts : List Token) :
    Takes takeIdentifier (t :: ts) t.spelling ts := by
  cases t with
  | word w =>
    have hkeyword : keywords.contains w = false := by simpa [Token.isIdentifier] using h
    intro u
    refine (bind_apply rfl).trans ?_
    dsimp only
    rw [hkeyword]
    rfl
  | raw => exact fun _ => rfl
  | _ => exact absurd h Bool.false_ne_true

theorem takes_takeWord {t : Token} (h : t.isSegment) (ts : List Token) :
    Takes takeWord (t :: ts) t.spelling ts := by
  cases t with
  | word | raw => exact fun _ => rfl
  | _ => exact absurd h Bool.false_ne_true

theorem takes_segment {t : Token} (h : t.isSegment) {rest : List Token}
    (hrest : argumentsAhead inExpression rest = .none) :
    Takes (segment read inExpression) (t :: rest) (plainSegment t) rest := by
  have hstop {w : String} : Takes (do
      let form := argumentsAhead inExpression (← ahead)
      argumentsAs read form
      return ⟨w, form⟩ : Reader Segment) rest ⟨w, .none⟩ rest := by
    refine (takes_ahead rest).bind ?_
    dsimp only
    rw [hrest]
    exact takes_pure _ rest
  rcases isSegment_iff.mp h with h | ⟨w, hw, rfl⟩
  · have hkeyword : hasAny (t :: rest) pathKeywords = false := hasAny_identifier h (by decide) rest
    have hself := has_identifier h (by decide : Due.isReserved "Self") rest
    refine (takes_ahead _).bind ?_
    simp only [hkeyword, hself, Bool.false_eq_true, if_false]
    exact (takes_takeIdentifier h rest).bind hstop
  · simp only [pathWords, List.mem_cons, List.not_mem_nil, or_false] at hw
    rcases hw with rfl | rfl | rfl | rfl
    · exact fun _ => rfl
    · exact Takes.bind (takes_ahead _) (Takes.bind (fun _ => rfl) hstop)
    · exact fun _ => rfl
    · exact fun _ => rfl

def laterTokens (ts : List Token) : List Token :=
  ts.flatMap fun t => [.mark ':' true, .mark ':' false, t]

theorem has_hash_later (ts : List Token) {rest : List Token} (h : has rest "#" = false) :
    has (laterTokens ts ++ rest) "#" = false := by
  cases ts with
  | nil => exact h
  | cons => rfl

structure EndsPath (ts : List Token) : Prop where
  angle : has ts "<" = false
  colons : has ts "::" = false

theorem EndsPath.argumentsAhead {rest : List Token} (h : EndsPath rest) (inExpression : Bool) :
    argumentsAhead inExpression rest = .none := by
  simp [Grammar.argumentsAhead, h.angle, h.colons]

theorem argumentsAhead_later {ts rest : List Token} (hts : ∀ t ∈ ts, t.isSegment)
    (h : EndsPath rest) (inExpression : Bool) :
    argumentsAhead inExpression (laterTokens ts ++ rest) = .none := by
  cases ts with
  | nil => exact h.argumentsAhead inExpression
  | cons t ts =>
    have hangle := has_segment (hts t List.mem_cons_self) (by decide : Due.isForeign "<")
      (laterTokens ts ++ rest)
    have hthird : hasThird (laterTokens (t :: ts) ++ rest) "<" = false := hangle
    have hfirst : has (laterTokens (t :: ts) ++ rest) "<" = false := rfl
    simp [Grammar.argumentsAhead, hthird, hfirst]

theorem takes_later {ts rest : List Token} (hts : ∀ t ∈ ts, t.isSegment) (h : EndsPath rest)
    {n : Nat} (hn : ts.length < n) (ss : List Segment) :
    Takes (rounds (laterStep read inExpression) n ss) (laterTokens ts ++ rest)
      (ss ++ ts.map plainSegment) rest := by
  obtain ⟨n, rfl⟩ := Nat.exists_eq_succ_of_ne_zero (Nat.ne_zero_of_lt hn)
  induction ts generalizing n ss with
  | nil =>
    have hstop : goesOn rest = false := by
      rw [goesOn, h.colons, Bool.false_and]
    rw [List.map_nil, List.append_nil]
    refine takes_rounds_end ((takes_ahead _).bind ?_)
    rw [if_neg (by simpa [laterTokens] using hstop)]
    exact takes_pure _ rest
  | cons t ts ih =>
    rw [List.forall_mem_cons] at hts
    have hgroup := has_segment hts.1 (by decide : Due.isForeign (.group .round))
      (laterTokens ts ++ rest)
    have hmore : goesOn (laterTokens (t :: ts) ++ rest) = true :=
      Bool.and_eq_true_iff.mpr ⟨rfl, congrArg not hgroup⟩
    have hsegment : Takes (segment read inExpression) (t :: (laterTokens ts ++ rest))
        (plainSegment t) (laterTokens ts ++ rest) :=
      takes_segment hts.1 (argumentsAhead_later hts.2 h inExpression)
    have hstep : Takes (laterStep read inExpression ss) (laterTokens (t :: ts) ++ rest)
        (ss ++ [plainSegment t], true) (laterTokens ts ++ rest) := by
      refine (takes_ahead _).bind ?_
      rw [if_pos hmore]
      exact Takes.bind (fun _ => rfl) (hsegment.bind (takes_pure _ _))
    have hn' : ts.length < n := by simpa using hn
    obtain ⟨n, rfl⟩ := Nat.exists_eq_succ_of_ne_zero (Nat.ne_zero_of_lt hn')
    have hrest := ih hts.2 (ss ++ [plainSegment t]) n hn'
    rw [List.append_assoc] at hrest
    exact takes_rounds_more hstep hrest

theorem length_laterTokens (ts : List Token) : (laterTokens ts).length = 3 * ts.length := by
  simp [laterTokens, List.length_flatMap, List.map_const', Nat.mul_comm]

theorem eq_of_arePath {ts : List Token} (h : arePath ts) :
    ∃ t us, ts = t :: laterTokens us ∧ t.isSegment ∧ ∀ u ∈ us, u.isSegment := by
  fun_induction arePath ts with
  | case1 t => exact ⟨t, [], rfl, h, by simp⟩
  | case2 t ts ih =>
    rw [Bool.and_eq_true] at h
    obtain ⟨u, us, rfl, hu, hus⟩ := ih h.2
    exact ⟨t, u :: us, rfl, h.1, List.forall_mem_cons.mpr ⟨hu, hus⟩⟩
  | case3 => exact absurd h Bool.false_ne_true

theorem eq_of_areName {ts : List Token} (h : areName ts) : ∃ t, ts = [t] ∧ t.isIdentifier := by
  unfold areName at h
  split at h
  · exact ⟨_, rfl, h⟩
  · exact absurd h Bool.false_ne_true

def rootTokens (rooted : Bool) : List Token :=
  if rooted then [.mark ':' true, .mark ':' false] else []

theorem takes_path {t : Token} {ts rest : List Token} (ht : t.isSegment)
    (hts : ∀ t ∈ ts, t.isSegment) (h : EndsPath rest) (rooted : Bool) :
    Takes (path read inExpression) (rootTokens rooted ++ t :: (laterTokens ts ++ rest))
      ⟨rooted, plainSegment t, ts.map plainSegment⟩ rest := by
  have hroot : Takes (takeIf "::") (rootTokens rooted ++ t :: (laterTokens ts ++ rest)) rooted
      (t :: (laterTokens ts ++ rest)) := by
    cases rooted with
    | true => exact fun _ => rfl
    | false => exact takes_takeIf (has_segment ht (by decide) _)
  have hlater : Takes (laterSegments read inExpression) (laterTokens ts ++ rest)
      (ts.map plainSegment) rest := by
    refine takes_loop (takes_later hts h ?_ [])
    rw [List.length_append, length_laterTokens]
    omega
  refine hroot.bind ((takes_segment ht (argumentsAhead_later hts h inExpression)).bind ?_)
  exact hlater.bind (takes_pure _ rest)

theorem takes_path_name {t : Token} {rest : List Token} (ht : t.isSegment) (h : EndsPath rest) :
    Takes (path read inExpression) (t :: rest) ⟨false, plainSegment t, []⟩ rest := by
  have hnone : ∀ u ∈ ([] : List Token), u.isSegment := by simp
  exact takes_path ht hnone h false

theorem takes_laterSegments_nil {rest : List Token} (h : EndsPath rest) :
    Takes (laterSegments read inExpression) rest [] rest := by
  have hnone : ∀ u ∈ ([] : List Token), u.isSegment := by simp
  exact takes_loop (takes_later hnone h (Nat.succ_pos _) [])

end Grammar

end TypedMarkup.Code
