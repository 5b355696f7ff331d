import TypedMarkup.Code.Grammar
import TypedMarkup.Proofs.Code.Reading

namespace TypedMarkup.Code

open Text Token

def isWordText (s : String) : Bool :=
  s.toList.all fun c => isWordStart c || isWordPart c

def Token.isWordly : Token → Bool
  | .word s | .raw s => isWordText s
  | _ => true

theorem isWordText_plainWord {s r : List Char} {w : String} (h : plainWord s = some (w, r)) :
    isWordText w := by
  unfold plainWord at h
  split at h
  · simp at h
  · rename_i c s
    split at h
    · rename_i hc
      simp only [Option.some.injEq, Prod.mk.injEq] at h
      rw [← h.1, isWordText, String.toList_ofList, List.all_cons, hc, Bool.true_or, Bool.true_and,
        List.all_eq_true]
      intro d hd
      rw [List.all_eq_true.mp List.all_takeWhile d hd, Bool.or_true]
    · simp at h

theorem isWordly_wordOf {s r : List Char} {t : Token} (h : wordOf s = some (t, r)) :
    t.isWordly := by
  unfold wordOf at h
  split at h
  · split at h
    · rename_i hplain
      split at h
      · simp at h
      · simp only [Option.some.injEq, Prod.mk.injEq] at h
        rw [← h.1]
        exact isWordText_plainWord hplain
    · simp at h
  · obtain ⟨⟨w, rest⟩, hplain, hw⟩ := Option.map_eq_some_iff.mp h
    simp only [Prod.mk.injEq] at hw
    rw [← hw.1]
    exact isWordText_plainWord hplain

theorem isWordly_quoteOf {s r : List Char} {t : Token} (h : quoteOf s = some (t, r)) :
    t.isWordly := by
  unfold quoteOf at h
  split at h
  · split_ifs at h
    · cases h
      rfl
    · split at h <;> cases h <;> rfl
  · cases h

theorem isWordly_leaf {s r : List Char} {t : Token} (h : leaf s = some (t, r)) : t.isWordly := by
  unfold leaf at h
  split at h
  · simp only [Option.some.injEq, Prod.mk.injEq] at h
    rw [← h.1]
    rfl
  · split at h
    · rename_i x hmark
      obtain rfl : x = (t, r) := by simpa using h
      unfold markOf at hmark
      repeat' split at hmark
      · simp at hmark
      · simp at hmark
      · exact isWordly_quoteOf hmark
      · simp only [Option.some.injEq, Prod.mk.injEq] at hmark
        rw [← hmark.1]
        rfl
    · split at h
      · simp at h
      · exact isWordly_wordOf h

theorem isWordly_commentTokens {c : Comment} {text : List Char} {ts : List Token}
    (h : commentTokens c text = some ts) : ts.all isWordly := by
  unfold commentTokens at h
  cases c <;> simp at h
  · subst h
    rfl
  · rw [← h.2]
    rfl
  · rw [← h.2]
    rfl

theorem isWordly_scan {n : Nat} {above : List (Bracket × List Token)} {before ts : List Token}
    {s : List Char} (h : scan n above before s = some ts) (hbefore : before.all isWordly)
    (habove : ∀ x ∈ above, x.2.all isWordly) : ts.all isWordly := by
  fun_induction scan n above before s with
  | case1 => cases h
  | case2 _ before =>
    cases h
    rw [List.all_reverse]
    exact hbefore
  | case3 => cases h
  | case4 _ _ _ _ _ _ ih => exact ih h hbefore habove
  | case5 _ above before _ _ _ k text _ _ ih =>
    obtain ⟨us, hus, h⟩ := Option.bind_eq_some_iff.mp h
    refine ih us h ?_ habove
    rw [List.all_append, List.all_reverse, isWordly_commentTokens hus, hbefore, Bool.and_self]
  | case6 _ _ _ _ _ _ _ _ ih => exact ih h hbefore habove
  | case7 _ _ _ _ _ _ _ _ _ _ ih =>
    exact ih h rfl (List.forall_mem_cons.mpr ⟨hbefore, habove⟩)
  | case8 _ _ _ _ _ _ _ _ _ _ _ _ ih =>
    rw [List.forall_mem_cons] at habove
    exact ih h habove.1 habove.2
  | case9 => cases h
  | case10 => cases h
  | case11 _ _ _ _ _ _ _ _ _ _ ih =>
    obtain ⟨⟨t, r⟩, hleaf, h⟩ := Option.bind_eq_some_iff.mp h
    refine ih t r h ?_ habove
    rw [List.all_cons, isWordly_leaf hleaf, hbefore, Bool.and_self]

def Stream.isWordly (s : Stream) : Bool :=
  s.tokens.all Token.isWordly

def isSegmentText (s : String) : Bool :=
  s.toList.all fun c => isWordStart c || isWordPart c || c == '#'

theorem isSegmentText_of_isWordText {s : String} (h : isWordText s) : isSegmentText s := by
  simp only [isWordText, isSegmentText, List.all_eq_true] at h ⊢
  exact fun c hc => by rw [h c hc, Bool.true_or]

theorem isSegmentText_raw {s : String} (h : isWordText s) : isSegmentText ("r#" ++ s) := by
  have hs := isSegmentText_of_isWordText h
  have hmark : isWordStart 'r' := by decide
  simp only [isSegmentText, String.toList_append, List.all_append] at hs ⊢
  rw [hs, Bool.and_true]
  simp [hmark]

namespace Reader

variable {α β : Type}

theorem bind_eq_ok {r : Reader α} {f : α → Reader β} {s t : Stream} {y : β} :
    (r >>= f) s = .ok (y, t) ↔ ∃ x u, r s = .ok (x, u) ∧ f x u = .ok (y, t) := by
  change (r s >>= fun p => f p.1 p.2) = _ ↔ _
  cases hr : r s with
  | error e => simp [bind, Except.bind]
  | ok p =>
    constructor
    · exact fun h => ⟨p.1, p.2, rfl, h⟩
    · rintro ⟨x, u, hp, h⟩
      cases hp
      exact h

theorem pure_eq_ok {x y : α} {s t : Stream} :
    (pure x : Reader α) s = .ok (y, t) ↔ x = y ∧ s = t := by
  change (Except.ok (x, s) : Except ReadError (α × Stream)) = _ ↔ _
  simp

theorem ahead_eq_ok {s t : Stream} {ts : List Token} :
    ahead s = .ok (ts, t) ↔ s.tokens = ts ∧ s = t := by
  change (Except.ok (s.tokens, s) : Except ReadError (List Token × Stream)) = _ ↔ _
  simp

theorem advance_eq_ok {n : Nat} {s t : Stream} {u : Unit} :
    advance n s = .ok (u, t) ↔ t = { s with tokens := s.tokens.drop n } := by
  change (.ok ((), { s with tokens := s.tokens.drop n }) : Except ReadError (Unit × Stream)) = _ ↔ _
  simp [eq_comm]

theorem throw_ne_ok {e : ReadError} {s t : Stream} {x : α} :
    (throw e : Reader α) s ≠ .ok (x, t) := by
  intro h
  cases h

theorem fail_ne_ok {ds : List Due} {s t : Stream} {x : α} :
    (fail ds : Reader α) s ≠ .ok (x, t) := by
  intro h
  cases h

theorem isWordly_advance {s : Stream} (h : s.isWordly) (n : Nat) :
    Stream.isWordly { s with tokens := s.tokens.drop n } := by
  rw [Stream.isWordly, List.all_eq_true] at h ⊢
  exact fun t ht => h t (List.mem_of_mem_drop ht)

theorem isWordly_take {w : String} {s t : Stream} {u : Unit} (hs : s.isWordly)
    (h : take w s = .ok (u, t)) : t.isWordly := by
  unfold take at h
  obtain ⟨ts, _, hahead, h⟩ := bind_eq_ok.1 h
  obtain ⟨-, rfl⟩ := ahead_eq_ok.mp hahead
  split at h
  · rw [advance_eq_ok.mp h]
    exact isWordly_advance hs _
  · split at h
    · exact absurd h fail_ne_ok
    · exact absurd h throw_ne_ok

theorem isWordly_takeIf {w : String} {s t : Stream} {b : Bool} (hs : s.isWordly)
    (h : takeIf w s = .ok (b, t)) : t.isWordly := by
  unfold takeIf at h
  obtain ⟨ts, _, hahead, h⟩ := bind_eq_ok.1 h
  obtain ⟨-, rfl⟩ := ahead_eq_ok.mp hahead
  split at h
  · obtain ⟨_, u, htake, h⟩ := bind_eq_ok.1 h
    obtain ⟨-, rfl⟩ := pure_eq_ok.mp h
    exact isWordly_take hs htake
  · obtain ⟨-, rfl⟩ := pure_eq_ok.mp h
    exact hs

theorem isSegmentText_takeIdentifier {s t : Stream} {w : String} (hs : s.isWordly)
    (h : takeIdentifier s = .ok (w, t)) : isSegmentText w ∧ t.isWordly := by
  unfold takeIdentifier at h
  obtain ⟨ts, _, hahead, h⟩ := bind_eq_ok.1 h
  obtain ⟨hts, rfl⟩ := ahead_eq_ok.mp hahead
  have hword := hs
  rw [Stream.isWordly, hts] at hword
  split at h
  · split at h
    · exact absurd h throw_ne_ok
    · obtain ⟨_, _, hadvance, h⟩ := bind_eq_ok.1 h
      obtain ⟨rfl, rfl⟩ := pure_eq_ok.mp h
      rw [List.all_cons, Bool.and_eq_true] at hword
      rw [advance_eq_ok.mp hadvance]
      exact ⟨isSegmentText_of_isWordText hword.1, isWordly_advance hs 1⟩
  · obtain ⟨_, _, hadvance, h⟩ := bind_eq_ok.1 h
    obtain ⟨rfl, rfl⟩ := pure_eq_ok.mp h
    rw [List.all_cons, Bool.and_eq_true] at hword
    rw [advance_eq_ok.mp hadvance]
    exact ⟨isSegmentText_raw hword.1, isWordly_advance hs 1⟩
  · exact absurd h fail_ne_ok

theorem isSegmentText_takeWord {s t : Stream} {w : String} (hs : s.isWordly)
    (h : takeWord s = .ok (w, t)) : isSegmentText w ∧ t.isWordly := by
  unfold takeWord at h
  obtain ⟨ts, _, hahead, h⟩ := bind_eq_ok.1 h
  obtain ⟨hts, rfl⟩ := ahead_eq_ok.mp hahead
  split at h
  · have hword := hs
    rw [Stream.isWordly, hts, List.all_cons, Bool.and_eq_true] at hword
    obtain ⟨_, _, hadvance, h⟩ := bind_eq_ok.1 h
    obtain ⟨rfl, rfl⟩ := pure_eq_ok.mp h
    rw [advance_eq_ok.mp hadvance]
    exact ⟨isSegmentText_of_isWordText hword.1, isWordly_advance hs 1⟩
  · exact isSegmentText_takeIdentifier hs h

end Reader

namespace Grammar

open Reader

variable {read : Parts} {inExpression : Bool}

theorem isSegmentText_segment {s t : Stream} {x : Segment} (hs : s.isWordly)
    (h : segment read inExpression s = .ok (x, t)) (hx : x.arguments = .none) :
    isSegmentText x.word ∧ t.isWordly := by
  unfold segment at h
  obtain ⟨ts, _, hahead, h⟩ := bind_eq_ok.1 h
  obtain ⟨-, rfl⟩ := ahead_eq_ok.mp hahead
  split at h
  · obtain ⟨w, u, hword, h⟩ := bind_eq_ok.1 h
    obtain ⟨rfl, rfl⟩ := pure_eq_ok.mp h
    exact isSegmentText_takeWord hs hword
  · -- What stands behind the word is the same for both ways to take it.
    have hrest {w : String} {u : Stream} (hw : isSegmentText w ∧ u.isWordly)
        (h : (do
          let form := argumentsAhead inExpression (← ahead)
          argumentsAs read form
          return ⟨w, form⟩ : Reader Segment) u = .ok (x, t)) :
        isSegmentText x.word ∧ t.isWordly := by
      obtain ⟨us, _, hahead, h⟩ := bind_eq_ok.1 h
      obtain ⟨-, rfl⟩ := ahead_eq_ok.mp hahead
      obtain ⟨_, v, harguments, h⟩ := bind_eq_ok.1 h
      obtain ⟨rfl, rfl⟩ := pure_eq_ok.mp h
      have hnone : argumentsAhead inExpression us = .none := hx
      rw [hnone] at harguments
      obtain ⟨-, rfl⟩ := pure_eq_ok.mp harguments
      exact hw
    dsimp only at h
    split at h
    · obtain ⟨w, u, hword, h⟩ := bind_eq_ok.1 h
      exact hrest (isSegmentText_takeWord hs hword) h
    · obtain ⟨w, u, hword, h⟩ := bind_eq_ok.1 h
      exact hrest (isSegmentText_takeIdentifier hs hword) h

def ArePlain (ss : List Segment) : Prop :=
  ∀ s ∈ ss, s.arguments = .none

theorem laterStep_eq_ok {ss us : List Segment} {more : Bool} {s t : Stream}
    (h : laterStep read inExpression ss s = .ok ((us, more), t)) :
    (us = ss ∧ more = false ∧ t = s) ∨ ∃ x u, us = ss ++ [x] ∧ more = true ∧
      take "::" s = .ok ((), u) ∧ segment read inExpression u = .ok (x, t) := by
  obtain ⟨ts, _, hahead, h⟩ := bind_eq_ok.1 h
  obtain ⟨-, rfl⟩ := ahead_eq_ok.mp hahead
  split at h
  · obtain ⟨_, u, htake, h⟩ := bind_eq_ok.1 h
    obtain ⟨x, v, hsegment, h⟩ := bind_eq_ok.1 h
    obtain ⟨hus, rfl⟩ := pure_eq_ok.mp h
    obtain ⟨rfl, rfl⟩ := Prod.mk.inj hus
    exact .inr ⟨x, u, rfl, rfl, htake, hsegment⟩
  · obtain ⟨hus, rfl⟩ := pure_eq_ok.mp h
    obtain ⟨rfl, rfl⟩ := Prod.mk.inj hus
    exact .inl ⟨rfl, rfl, rfl⟩

theorem prefix_rounds {n : Nat} {ss ts : List Segment} {s t : Stream}
    (h : rounds (laterStep read inExpression) n ss s = .ok (ts, t)) : ss <+: ts := by
  induction n generalizing ss s with
  | zero =>
    obtain ⟨rfl, rfl⟩ := pure_eq_ok.mp h
    exact List.prefix_rfl
  | succ n ih =>
    obtain ⟨⟨us, more⟩, u, hstep, hrest⟩ := bind_eq_ok.1 h
    obtain ⟨rfl, rfl, rfl⟩ | ⟨x, v, rfl, rfl, -, -⟩ := laterStep_eq_ok hstep
    · obtain ⟨rfl, rfl⟩ := pure_eq_ok.mp hrest
      exact List.prefix_rfl
    · exact (List.prefix_append ss [x]).trans (ih hrest)

theorem isSegmentText_rounds {n : Nat} {ss ts : List Segment} {s t : Stream}
    (h : rounds (laterStep read inExpression) n ss s = .ok (ts, t)) (hts : ArePlain ts)
    (hs : s.isWordly) (hss : ∀ x ∈ ss, isSegmentText x.word) : ∀ x ∈ ts, isSegmentText x.word := by
  induction n generalizing ss s with
  | zero =>
    obtain ⟨rfl, rfl⟩ := pure_eq_ok.mp h
    exact hss
  | succ n ih =>
    obtain ⟨⟨us, more⟩, u, hstep, hrest⟩ := bind_eq_ok.1 h
    obtain ⟨rfl, rfl, rfl⟩ | ⟨x, v, rfl, rfl, htake, hsegment⟩ := laterStep_eq_ok hstep
    · obtain ⟨rfl, rfl⟩ := pure_eq_ok.mp hrest
      exact hss
    · have hx := hts x ((prefix_rounds hrest).subset (by simp))
      obtain ⟨hword, hu⟩ := isSegmentText_segment (isWordly_take hs htake) hsegment hx
      refine ih hrest hu ?_
      simpa [or_imp, forall_and] using ⟨hss, hword⟩

theorem isSegmentText_path {s t : Stream} {p : ModulePath} (hs : s.isWordly)
    (h : path read inExpression s = .ok (p, t)) (hp : ArePlain p.segments) :
    ∀ x ∈ p.segments, isSegmentText x.word := by
  obtain ⟨rooted, u, hrooted, h⟩ := bind_eq_ok.1 h
  obtain ⟨x, v, hsegment, h⟩ := bind_eq_ok.1 h
  obtain ⟨xs, w, hlater, h⟩ := bind_eq_ok.1 h
  obtain ⟨rfl, rfl⟩ := pure_eq_ok.mp h
  have hplain : x.arguments = .none ∧ ArePlain xs := List.forall_mem_cons.mp hp
  obtain ⟨hx, hv⟩ := isSegmentText_segment (isWordly_takeIf hs hrooted) hsegment hplain.1
  obtain ⟨ts, _, hahead, hrounds⟩ := bind_eq_ok.1 hlater
  obtain ⟨-, rfl⟩ := ahead_eq_ok.mp hahead
  have hxs := isSegmentText_rounds hrounds hplain.2 hv (by simp)
  exact List.forall_mem_cons.mpr ⟨hx, hxs⟩

end Grammar

def Segment.importFault? (s : Segment) : Option ReadError :=
  if s.word = "Self" then some noName
  else match s.arguments with
    | .none => none
    | .direct => some noEnd
    | .afterColons => some noName
where
  noName : ReadError :=
    .expected [.identifier, "self", "super", "crate", "try", "*", .group .curly] false
  noEnd : ReadError := .missing ";"

namespace ModulePath

def importFault? (p : ModulePath) : Option ReadError :=
  p.segments.findSome? Segment.importFault?

theorem arePlain_of_importFault? {p : ModulePath} (h : p.importFault? = none) :
    Grammar.ArePlain p.segments := by
  intro s hs
  have hs := List.findSome?_eq_none_iff.mp h s hs
  unfold Segment.importFault? at hs
  split at hs
  · cases hs
  · cases ha : s.arguments <;> simp [ha] at hs ⊢

theorem mem_of_mem_intercalate {α : Type} {sep : List α} {xs : List (List α)} {c : α}
    (h : c ∈ sep.intercalate xs) : c ∈ sep ∨ ∃ x ∈ xs, c ∈ x := by
  induction xs with
  | nil => simp at h
  | cons x xs ih =>
    cases xs with
    | nil => exact .inr ⟨x, by simp, by simpa using h⟩
    | cons y ys =>
      rw [List.intercalate_cons_cons, List.mem_append, List.mem_append] at h
      rcases h with (h | h) | h
      · exact .inr ⟨x, by simp, h⟩
      · exact .inl h
      · exact (ih h).imp_right fun ⟨z, hz, hc⟩ => ⟨z, List.mem_cons_of_mem x hz, hc⟩

theorem run_eq_ok {α : Type} {r : Reader α} {ts : List Token} {x : α} :
    r.run ts = .ok x ↔ r ⟨ts, none⟩ = .ok (x, ⟨[], none⟩) := by
  unfold Reader.run
  cases hr : r ⟨ts, none⟩ with
  | error e => simp [bind, Except.bind]
  | ok p =>
    obtain ⟨y, ⟨us, unread⟩⟩ := p
    cases unread <;> cases us <;> simp [bind, Except.bind, pure, Except.pure, throw, throwThe,
      MonadExceptOf.throw]

theorem text_of_parse {s : String} {p : ModulePath} (h : parse s = .ok p)
    (hp : p.importFault? = none) :
    ∀ c ∈ p.text.toList, isWordStart c || isWordPart c || c == '#' || c == ':' := by
  have hwords : ∀ x ∈ p.segments, isSegmentText x.word := by
    unfold parse at h
    split at h
    · cases h
    · rename_i ts hts
      have hscan : (⟨ts, none⟩ : Stream).isWordly := isWordly_scan hts rfl (by simp)
      exact Grammar.isSegmentText_path hscan (run_eq_ok.mp h) (arePlain_of_importFault? hp)
  have hcolons : ∀ c ∈ "::".toList, isWordStart c || isWordPart c || c == '#' || c == ':' :=
    List.all_iff_forall_prop.mp (by decide)
  intro c hc
  rw [text, String.toList_append, String.toList_intercalate, List.mem_append] at hc
  rcases hc with hc | hc
  · refine hcolons c ?_
    split at hc
    · exact hc
    · simp at hc
  · obtain hc | ⟨x, hx, hc⟩ := mem_of_mem_intercalate hc
    · exact hcolons c hc
    · obtain ⟨_, hword, rfl⟩ := List.mem_map.mp hx
      obtain ⟨y, hy, rfl⟩ := List.mem_map.mp hword
      rw [List.all_eq_true.mp (hwords y hy) c hc, Bool.true_or]

end ModulePath

end TypedMarkup.Code
