import TypedMarkup.Code.Grammar
import TypedMarkup.Code.Emission
import Mathlib.Algebra.BigOperators.Group.List.Basic

namespace TypedMarkup.Code

open Token

namespace Reader

variable {α β : Type} {r : Reader α} {f : α → Reader β} {x : α} {y : β}
  {ts us vs : List Token}

def Takes (r : Reader α) (ts : List Token) (x : α) (us : List Token) : Prop :=
  ∀ u, r ⟨ts, u⟩ = .ok (x, ⟨us, u⟩)

theorem bind_apply {s t : Stream} (h : r s = .ok (x, t)) : (r >>= f) s = f x t := by
  change (r s >>= fun p => f p.1 p.2) = _
  rw [h]
  rfl

theorem takes_pure (x : α) (ts : List Token) : Takes (pure x) ts x ts :=
  fun _ => rfl

theorem takes_ahead (ts : List Token) : Takes ahead ts ts ts :=
  fun _ => rfl

theorem takes_isDone (ts : List Token) : Takes isDone ts ts.isEmpty ts :=
  fun _ => rfl

namespace Takes

theorem bind (h : Takes r ts x us) (h' : Takes (f x) us y vs) : Takes (r >>= f) ts y vs := by
  intro u
  rw [bind_apply (h u)]
  exact h' u

theorem inside {b : Bracket} {rest : List Token} (h : Takes r ts x []) :
    Takes (inside b r) (.group b ts :: rest) x rest := by
  intro u
  have hunread : u.or none = u := by
    cases u <;> rfl
  refine (bind_apply rfl).trans ?_
  dsimp only
  rw [if_pos rfl]
  refine (bind_apply rfl).trans ((bind_apply (h u)).trans ((bind_apply rfl).trans ?_))
  refine (bind_apply rfl).trans ?_
  rw [List.isEmpty_nil, if_pos rfl, hunread]
  rfl

theorem foresee (h : Takes r ts x us) : Takes (foresee r) ts (some x) ts := by
  intro u
  simp only [Reader.foresee, h u]

end Takes

theorem Takes.attempt (h : Takes r ts x us) : Takes (attempt r) ts (some x) us := by
  intro u
  simp only [Reader.attempt, h u]

def Fails (r : Reader α) (ts : List Token) (e : ReadError) : Prop :=
  ∀ u, r ⟨ts, u⟩ = .error e

namespace Fails

variable {e : ReadError}

theorem bind (h : Fails r ts e) : Fails (r >>= f) ts e := by
  intro u
  change (r ⟨ts, u⟩ >>= fun p => f p.1 p.2) = _
  rw [h u]
  rfl

theorem attempt (h : Fails r ts e) : Takes (attempt r) ts none ts := by
  intro u
  simp only [Reader.attempt, h u]

end Fails

theorem Takes.fails {e : ReadError} (h : Takes r ts x us) (h' : Fails (f x) us e) :
    Fails (r >>= f) ts e := by
  intro u
  rw [bind_apply (h u)]
  exact h' u

theorem fails_take_mark {s : String} (hs : isWordSpelling s = false) (h : has ts s = false) :
    Fails (take s) ts (.missing s) := by
  intro u
  unfold take
  rw [bind_apply (takes_ahead ts u), h, hs]
  rfl

theorem fails_take {s : String} (h : has ts s = false) : ∃ e, Fails (take s) ts e := by
  cases hs : isWordSpelling s with
  | true =>
    refine ⟨.expected (List.filter (fun d => !has ts d) [s]) ts.isEmpty, fun u => ?_⟩
    unfold take
    rw [bind_apply (takes_ahead ts u), h, hs]
    rfl
  | false => exact ⟨.missing s, fails_take_mark hs h⟩

theorem takes_takeIf {s : String} (h : has ts s = false) : Takes (takeIf s) ts false ts := by
  intro u
  unfold takeIf
  rw [bind_apply (takes_ahead ts u), h]
  rfl

variable {step : α → Reader (α × Bool)} {n : Nat} {z : α}

theorem takes_rounds_more (h : Takes (step x) ts (z, true) us) {w : α}
    (h' : Takes (rounds step n z) us w vs) : Takes (rounds step (n + 1) x) ts w vs :=
  h.bind h'

theorem takes_rounds_end (h : Takes (step x) ts (z, false) us) :
    Takes (rounds step (n + 1) x) ts z us :=
  h.bind (takes_pure z us)

theorem takes_loop {x : α} (h : Takes (rounds step (ts.length + 1) x) ts z us) :
    Takes (loop step x) ts z us :=
  (takes_ahead ts).bind h

variable {stop : List Token → Bool} {item : Reader Unit} {mark : String}

theorem takes_list_one (hts : stop ts = false) (h : Takes item ts () us) (hus : stop us = true) :
    Takes (list mark stop item) ts () us := by
  refine takes_loop (takes_rounds_end ((takes_ahead ts).bind ?_))
  rw [hts]
  refine h.bind ((takes_ahead us).bind ?_)
  rw [hus]
  exact takes_pure _ us

theorem separated_cons_cons (e f : List Token) (es : List (List Token)) :
    separated (e :: f :: es) = e ++ .mark ',' false :: separated (f :: es) := by
  simp [separated]

theorem length_le_length_separated {es : List (List Token)} (h : ∀ e ∈ es, e ≠ []) :
    es.length ≤ (separated es).length := by
  induction es with
  | nil => simp
  | cons e es ih =>
    rw [List.forall_mem_cons] at h
    have he : 1 ≤ e.length := List.length_pos_iff.mpr h.1
    cases es with
    | nil => simpa [separated] using he
    | cons f es =>
      have htail := ih h.2
      rw [separated_cons_cons, List.length_append, List.length_cons]
      simp only [List.length_cons] at htail ⊢
      omega

def endsItem : List Token → Bool
  | [] => true
  | .mark ',' false :: _ => true
  | _ => false

theorem takes_commas {es : List (List Token)}
    (h : ∀ e ∈ es, e ≠ [] ∧ ∀ rest, endsItem rest → Takes item (e ++ rest) () rest) :
    Takes (commas item) (separated es) () [] := by
  suffices ∀ n, es.length < n → Takes (rounds (fun _ => do
      if (← ahead).isEmpty then return ((), false)
      item
      if (← ahead).isEmpty then return ((), false)
      take ","
      return ((), true)) n ()) (separated es) () [] from
    takes_loop (this _ (Nat.lt_succ_of_le (length_le_length_separated fun e he => (h e he).1)))
  intro n hn
  obtain ⟨n, rfl⟩ := Nat.exists_eq_succ_of_ne_zero (Nat.ne_zero_of_lt hn)
  induction es generalizing n with
  | nil => exact takes_rounds_end fun _ => rfl
  | cons e es ih =>
    obtain ⟨⟨he, hitem⟩, hes⟩ := List.forall_mem_cons.mp h
    cases es with
    | nil =>
      have hempty : (e ++ []).isEmpty = false := by simpa using he
      refine takes_rounds_end ?_
      rw [separated, List.flatMap_nil]
      refine (takes_ahead _).bind ?_
      rw [hempty]
      exact (hitem [] rfl).bind fun _ => rfl
    | cons f es =>
      have hempty : (e ++ .mark ',' false :: separated (f :: es)).isEmpty = false := by simp
      rw [separated_cons_cons]
      have hn' : (f :: es).length < n := by simpa using hn
      obtain ⟨n, rfl⟩ := Nat.exists_eq_succ_of_ne_zero (Nat.ne_zero_of_lt hn')
      refine takes_rounds_more ?_ (ih hes n hn')
      refine (takes_ahead _).bind ?_
      rw [hempty]
      exact (hitem _ rfl).bind fun _ => rfl

theorem length_le_length_flatten {es : List (List Token)} (h : ∀ e ∈ es, e ≠ []) :
    es.length ≤ es.flatten.length := by
  have hone : ∀ n ∈ es.map List.length, 1 ≤ n := by
    simpa [Nat.one_le_iff_ne_zero] using h
  simpa [List.length_flatten] using List.length_le_sum_of_one_le _ hone

theorem takes_all {es : List (List Token)}
    (h : ∀ e ∈ es, e ≠ [] ∧ ∀ rest, Takes item (e ++ rest) () rest) :
    Takes (all item) es.flatten () [] := by
  suffices ∀ n, es.length < n → Takes (rounds (fun _ => do
      if ← isDone then return ((), false)
      item
      return ((), true)) n ()) es.flatten () [] by
    exact takes_loop (this _ (Nat.lt_succ_of_le (length_le_length_flatten fun e he => (h e he).1)))
  intro n hn
  obtain ⟨n, rfl⟩ := Nat.exists_eq_succ_of_ne_zero (Nat.ne_zero_of_lt hn)
  induction es generalizing n with
  | nil => exact takes_rounds_end fun _ => rfl
  | cons e es ih =>
    obtain ⟨⟨he, hitem⟩, hes⟩ := List.forall_mem_cons.mp h
    have hempty : (e ++ es.flatten).isEmpty = false := by simp [he]
    have hn' : es.length < n := by simpa using hn
    obtain ⟨n, rfl⟩ := Nat.exists_eq_succ_of_ne_zero (Nat.ne_zero_of_lt hn')
    refine takes_rounds_more ?_ (ih hes n hn')
    refine (takes_isDone _).bind ?_
    rw [List.flatten_cons, hempty]
    exact (hitem _).bind (takes_pure _ _)

end Reader

end TypedMarkup.Code
