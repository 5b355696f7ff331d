import TypedMarkup.Proofs.Code.Bodies

namespace TypedMarkup.Code

open Token Layout

structure Call where
  receiver : Expr
  method : String
  args : List Expr

mutual

def Expr.calls : Expr → List Call
  | .atom _ | .text _ => []
  | .call _ args => callsAmong args
  | .method r n args => r.calls ++ callsAmong args ++ [⟨r, n, args⟩]
  | .field r _ => r.calls
  | .array es | .tuple es => callsAmong es
  | .lambda _ e => e.calls

def Expr.callsAmong : List Expr → List Call
  | [] => []
  | e :: es => e.calls ++ callsAmong es

end

def Stmt.calls : Stmt → List Call
  | .run e | .value e | .bind _ e | .update _ _ _ e => e.calls
  | .choose .. => []

def Function.calls (f : Function) : List Call :=
  f.body.flatMap Stmt.calls

structure Applied where
  before : List Token
  inside : List Token

namespace Token

mutual

def applied (before : List Token) : Token → List Applied
  | .group b ts => appliedAll [] ts ++ if b = .round then [⟨before, ts⟩] else []
  | _ => []

def appliedAll (before : List Token) : List Token → List Applied
  | [] => []
  | t :: ts => t.applied before ++ appliedAll (t :: before) ts

end

def isPoint : Token → Bool
  | .mark c _ => c == '.'
  | _ => false

end Token

structure MethodCall where
  receiver : Option Token
  method : String
  inside : List Token

def Applied.methodCall? (a : Applied) : Option MethodCall :=
  match a.before with
  | t :: u :: before => if isPoint u then t.name?.map (⟨before.head?, ·, a.inside⟩) else none
  | _ => none

def methodCalls (before ts : List Token) : List MethodCall :=
  (appliedAll before ts).filterMap Applied.methodCall?

def Call.shown (c : Call) : MethodCall :=
  ⟨c.receiver.tokens.getLast?, c.method, separated (Expr.tokensEach c.args)⟩

theorem appliedAll_append (before xs ys : List Token) :
    appliedAll before (xs ++ ys) =
      appliedAll before xs ++ appliedAll (xs.reverse ++ before) ys := by
  induction xs generalizing before with
  | nil => rfl
  | cons t xs ih =>
    rw [List.cons_append, appliedAll, appliedAll, ih, List.append_assoc, List.reverse_cons,
      List.append_assoc]
    rfl

theorem methodCalls_append (before xs ys : List Token) :
    methodCalls before (xs ++ ys) =
      methodCalls before xs ++ methodCalls (xs.reverse ++ before) ys := by
  rw [methodCalls, appliedAll_append, List.filterMap_append]
  rfl

@[simp] theorem methodCalls_nil (before : List Token) : methodCalls before [] = [] := rfl

theorem methodCalls_word (before : List Token) (w : String) (ts : List Token) :
    methodCalls before (.word w :: ts) = methodCalls (.word w :: before) ts := rfl

theorem methodCalls_name {t : Token} (h : t.name?.isSome) (before ts : List Token) :
    methodCalls before (t :: ts) = methodCalls (t :: before) ts := by
  cases t with
  | group => exact absurd h Bool.noConfusion
  | _ => rfl

theorem methodCalls_mark (before : List Token) (c : Char) (ts : List Token) :
    methodCalls before (.mark c false :: ts) = methodCalls (.mark c false :: before) ts := rfl

theorem methodCalls_round (before ts : List Token) :
    methodCalls before [.group .round ts] =
      methodCalls [] ts ++ (Applied.methodCall? ⟨before, ts⟩).toList := by
  simp only [methodCalls, appliedAll, applied, if_true, List.append_nil, List.filterMap_append]
  cases h : Applied.methodCall? ⟨before, ts⟩ <;> simp [h]

theorem methodCalls_group {b : Bracket} (hb : b ≠ .round) (before ts : List Token) :
    methodCalls before [.group b ts] = methodCalls [] ts := by
  simp [methodCalls, appliedAll, applied, hb]

def Token.isGroup : Token → Bool
  | .group .. => true
  | _ => false

theorem methodCalls_of_words {xs : List Token} (h : ∀ t ∈ xs, isGroup t = false)
    (before : List Token) : methodCalls before xs = [] := by
  induction xs generalizing before with
  | nil => rfl
  | cons t xs ih =>
    rw [List.forall_mem_cons] at h
    cases t with
    | group => exact absurd h.1 Bool.noConfusion
    | _ => exact ih h.2 _

theorem mem_of_lex {w s : List Char} {es : List Token} (h : lex w s = some es) :
    ∀ t ∈ es, (∃ v, t = .word v) ∨ ∃ c ∈ s, c ≠ ',' ∧ t = .mark c false := by
  have hpending (w : List Char) : ∀ t ∈ pending w, ∃ v, t = .word v := by
    intro t ht
    unfold pending at ht
    split at ht
    · simp at ht
    · exact ⟨_, List.mem_singleton.mp ht⟩
  induction s generalizing w es with
  | nil =>
    obtain rfl : pending w = es := by simpa [lex] using h
    exact fun t ht => .inl (hpending w t ht)
  | cons c s ih =>
    have hrest {w : List Char} {fs : List Token} (h : lex w s = some fs) :
        ∀ t ∈ fs, (∃ v, t = .word v) ∨ ∃ d ∈ c :: s, d ≠ ',' ∧ t = .mark d false := by
      intro t ht
      refine (ih h t ht).imp_right ?_
      rintro ⟨d, hd, hmark⟩
      exact ⟨d, List.mem_cons_of_mem c hd, hmark⟩
    simp only [lex] at h
    split_ifs at h with hname hblank hmark
    · exact hrest h
    · obtain ⟨fs, hfs, rfl⟩ := Option.map_eq_some_iff.mp h
      rw [List.forall_mem_append]
      exact ⟨fun t ht => .inl (hpending w t ht), hrest hfs⟩
    · obtain ⟨fs, hfs, rfl⟩ := Option.map_eq_some_iff.mp h
      simp only [Bool.and_eq_true, bne_iff_ne] at hmark
      rw [List.forall_mem_append, List.forall_mem_cons]
      exact ⟨fun t ht => .inl (hpending w t ht), .inr ⟨c, by simp, hmark.1.2, rfl⟩, hrest hfs⟩

def IsWordy (s : String) (t : Token) : Prop :=
  t.name?.isSome ∨ (∃ k text, t = .literal k text) ∨ ∃ c ∈ s.toList, c ≠ ',' ∧ t = .mark c false

theorem isWordy_of_mem_code {s : String} (h : isWord s) : ∀ t ∈ code s, IsWordy s t := by
  have hname {w : String} (hw : isIdentifier w.toList) : ∀ t ∈ code w, t.name?.isSome := by
    obtain ⟨u, hu, hname⟩ := code_of_isIdentifier hw
    rw [hu, List.forall_mem_singleton]
    exact Option.isSome_of_eq_some hname
  rcases isWord_cases h with h | ⟨w, hw, rfl⟩ | ⟨p, hp, rfl⟩ | ⟨es, hes, hcloses⟩
  · exact fun t ht => .inl (hname h t ht)
  · rw [(legible_outer hw).code, List.forall_mem_cons, List.forall_mem_cons, List.forall_mem_cons]
    have hcolon : IsWordy ("super::" ++ w) (.mark ':' false) :=
      .inr (.inr ⟨':', by simp, by decide, rfl⟩)
    exact ⟨.inl rfl, hcolon, hcolon, fun t ht => .inl (hname hw t ht)⟩
  · rw [(legible_number hp).code, List.forall_mem_singleton]
    simp only [numbers, List.mem_cons, List.not_mem_nil, or_false] at hp
    rcases hp with rfl | rfl
    · exact .inr (.inl ⟨_, _, rfl⟩)
    · exact .inr (.inl ⟨_, _, rfl⟩)
  · rw [(legible_of_lex hes hcloses).code]
    intro t ht
    rcases mem_of_lex hes t ht with ⟨v, rfl⟩ | hmark
    · exact .inl rfl
    · exact .inr (.inr hmark)

theorem not_group_of_mem_code {s : String} (h : isWord s) :
    ∀ t ∈ code s, isGroup t = false := by
  intro t ht
  rcases isWordy_of_mem_code h t ht with hname | ⟨k, text, rfl⟩ | ⟨c, -, -, rfl⟩
  · cases t with
    | group => exact absurd hname Bool.noConfusion
    | _ => rfl
  · rfl
  · rfl

theorem methodCalls_code {s : String} (h : isWord s) (before : List Token) :
    methodCalls before (code s) = [] :=
  methodCalls_of_words (not_group_of_mem_code h) before

theorem not_point_of_mem_code {s : String} (h : isPath s) : ∀ t ∈ code s, isPoint t = false := by
  rw [isPath, Bool.and_eq_true] at h
  intro t ht
  rcases isWordy_of_mem_code h.1 t ht with hname | ⟨k, text, rfl⟩ | ⟨c, hc, -, rfl⟩
  · cases t with
    | mark => exact absurd hname Bool.noConfusion
    | _ => rfl
  · rfl
  · have hpoint : '.' ∉ s.toList := by simpa using h.2
    exact beq_false_of_ne fun hc' => hpoint (hc' ▸ hc)

def isFresh (before : List Token) : Bool :=
  before.head?.all fun t => t.name?.isNone && !isPoint t

theorem methodCall?_of_isFresh {before : List Token} (h : isFresh before) (inside : List Token) :
    Applied.methodCall? ⟨before, inside⟩ = none := by
  unfold Applied.methodCall?
  split
  · rename_i t u before hbefore
    simp only at hbefore
    subst hbefore
    simp only [isFresh, List.head?_cons, Option.all_some, Bool.and_eq_true,
      Option.isNone_iff_eq_none] at h
    simp [h.1]
  · rfl

theorem methodCall?_path {f : String} (hf : isPath f) {before : List Token} (h : isFresh before)
    (inside : List Token) :
    Applied.methodCall? ⟨(code f).reverse ++ before, inside⟩ = none := by
  have hpoint : ∀ t ∈ (code f).reverse, isPoint t = false := fun t ht =>
    not_point_of_mem_code hf t (List.mem_reverse.mp ht)
  cases hw : (code f).reverse with
  | nil => exact methodCall?_of_isFresh h inside
  | cons t ts =>
    rw [hw] at hpoint
    cases ts with
    | nil =>
      cases before with
      | nil => rfl
      | cons u before =>
        simp only [isFresh, List.head?_cons, Option.all_some, Bool.and_eq_true,
          Bool.not_eq_true'] at h
        simp [Applied.methodCall?, h.2]
    | cons u ts => simp [Applied.methodCall?, hpoint u (by simp)]

namespace Expr

theorem tokens_ne_nil {e : Expr} (h : e.isLegible) : e.tokens ≠ [] := by
  intro hnil
  have hfirst := ((e.reads false false h).legible _ (Doc.written_flat _)).first
  rw [hnil] at hfirst
  exact absurd hfirst (by decide)

theorem methodCalls_member {r : Expr} (h : r.isLegible) {n : String}
    (hn : isIdentifier n.toList) (before inside : List Token) :
    methodCalls before (r.tokens ++ .mark '.' false :: (code n ++ [.group .round inside])) =
      methodCalls before r.tokens ++ methodCalls [] inside ++
        [⟨r.tokens.getLast?, n, inside⟩] := by
  obtain ⟨t, ht, hname⟩ := code_of_isIdentifier hn
  have hlast : (r.tokens.reverse ++ before).head? = r.tokens.getLast? := by
    rw [List.head?_append_of_ne_nil _ (by simpa using tokens_ne_nil h), List.head?_reverse]
  have hcall : Applied.methodCall?
      ⟨t :: .mark '.' false :: (r.tokens.reverse ++ before), inside⟩ =
        some ⟨r.tokens.getLast?, n, inside⟩ := by
    simp only [Applied.methodCall?, isPoint, beq_self_eq_true, if_true, hname, Option.map_some,
      hlast]
  rw [methodCalls_append, ht, methodCalls_mark, List.singleton_append,
    methodCalls_name (Option.isSome_of_eq_some hname), methodCalls_round, hcall, List.append_assoc]
  rfl

mutual

theorem methodCalls_tokens (e : Expr) {before : List Token} (hbefore : isFresh before)
    (h : e.isLegible) : methodCalls before e.tokens = e.calls.map Call.shown := by
  cases e with
  | atom s => exact methodCalls_code h before
  | text s => rfl
  | call f args =>
    simp only [isLegible, Bool.and_eq_true] at h
    rw [tokens, methodCalls_append, methodCalls_code (isWord_of_isPath h.1), methodCalls_round,
      methodCall?_path h.1 hbefore, methodCalls_separated args h.2]
    simp [calls]
  | method r n args =>
    simp only [isLegible, Bool.and_eq_true] at h
    obtain ⟨⟨hr, hn⟩, hargs⟩ := h
    rw [tokens, methodCalls_member hr hn, methodCalls_tokens r hbefore hr,
      methodCalls_separated args hargs]
    simp [calls, Call.shown]
  | field r n =>
    cases r with
    | atom w =>
      simp only [isLegible, isPlace, Bool.and_eq_true, beq_iff_eq] at h
      obtain ⟨hw, rfl⟩ := h
      have hword := isWord_of_isName hw
      rw [tokens, tokens, methodCalls_append, methodCalls_code hword, legible_zero.code]
      rfl
    | _ => exact absurd h Bool.false_ne_true
  | array es =>
    rw [tokens, methodCalls_group (by decide), methodCalls_separated es h]
    rfl
  | tuple es =>
    rw [tokens, methodCalls_round, methodCall?_of_isFresh hbefore, methodCalls_separated es h]
    simp [calls]
  | lambda p e =>
    simp only [isLegible, Bool.and_eq_true] at h
    have hbar : isFresh (.mark '|' false :: ((code p).reverse ++ .mark '|' false :: before)) := rfl
    rw [tokens, methodCalls_mark, methodCalls_append, methodCalls_code h.1, methodCalls_mark,
      methodCalls_tokens e hbar h.2]
    rfl

theorem methodCalls_separated (es : List Expr) (h : eachLegible es) :
    methodCalls [] (separated (tokensEach es)) = (callsAmong es).map Call.shown := by
  cases es with
  | nil => rfl
  | cons e es =>
    simp only [eachLegible, Bool.and_eq_true] at h
    rw [tokensEach, separated, methodCalls_append, methodCalls_tokens e rfl h.1,
      methodCalls_following es _ h.2, callsAmong, List.map_append]

theorem methodCalls_following (es : List Expr) (before : List Token) (h : eachLegible es) :
    methodCalls before ((tokensEach es).flatMap fun f => .mark ',' false :: f) =
      (callsAmong es).map Call.shown := by
  cases es with
  | nil => rfl
  | cons e es =>
    simp only [eachLegible, Bool.and_eq_true] at h
    rw [tokensEach, List.flatMap_cons, List.cons_append, methodCalls_mark, methodCalls_append,
      methodCalls_tokens e rfl h.1, methodCalls_following es _ h.2, callsAmong, List.map_append]

end

end Expr

namespace Stmt

theorem methodCalls_assignment {n : String} (hn : isWord n) {e : Expr} (h : e.isLegible)
    (before : List Token) :
    methodCalls before (code n ++ .mark '=' false :: (e.tokens ++ [.mark ';' false])) =
      e.calls.map Call.shown := by
  have hequal : isFresh (.mark '=' false :: ((code n).reverse ++ before)) := rfl
  rw [methodCalls_append, methodCalls_code hn, methodCalls_mark, methodCalls_append,
    e.methodCalls_tokens hequal h, methodCalls_mark, methodCalls_nil, List.append_nil]
  rfl

theorem methodCalls_tokens {s : Stmt} (h : s.isLegible) {before : List Token}
    (hbefore : isFresh before) : methodCalls before s.tokens = s.calls.map Call.shown := by
  cases s with
  | run e =>
    rw [tokens, methodCalls_append, e.methodCalls_tokens hbefore h, methodCalls_mark,
      methodCalls_nil, List.append_nil]
    rfl
  | value e => exact e.methodCalls_tokens hbefore h
  | bind n e =>
    simp only [isLegible, Bool.and_eq_true] at h
    rw [tokens, methodCalls_word, methodCalls_assignment h.1 h.2]
    rfl
  | choose n c yes no =>
    simp only [isLegible, Bool.and_eq_true] at h
    rw [tokens, methodCalls_word, methodCalls_append, methodCalls_code h.1, methodCalls_mark,
      methodCalls_word, methodCalls_append, methodCalls_code h.2]
    rfl
  | update i s n e =>
    simp only [isLegible, Bool.and_eq_true, beq_iff_eq] at h
    obtain ⟨⟨⟨rfl, hs⟩, hn⟩, he⟩ := h
    have hpair : methodCalls (.word "for" :: before) (code "(k, v)") = [] := by
      have hk : isWord "k" := by decide
      have hv : isWord "v" := by decide
      have hcall : Applied.methodCall?
          ⟨.word "for" :: before, separated [code "k", code "v"]⟩ = none := by
        cases before with
        | nil => rfl
        | cons u before =>
          simp only [isFresh, List.head?_cons, Option.all_some, Bool.and_eq_true,
            Bool.not_eq_true'] at hbefore
          simp [Applied.methodCall?, hbefore.2]
      rw [Stmt.legible_pair.code, methodCalls_round, hcall]
      simp only [separated, List.flatMap_cons, List.flatMap_nil, List.append_nil]
      rw [methodCalls_append, methodCalls_code hk, methodCalls_mark, methodCalls_code hv]
      rfl
    rw [tokens, methodCalls_word, methodCalls_append, hpair, methodCalls_word, methodCalls_append,
      methodCalls_code hs, methodCalls_group (by decide), methodCalls_assignment hn he]
    rfl

theorem isFresh_of_not_value {s : Stmt} (h : s.isValue = false) (before : List Token) :
    isFresh (s.tokens.reverse ++ before) := by
  cases s with
  | value e => exact absurd h Bool.noConfusion
  | _ => simp [tokens, isFresh, Token.name?, isPoint]

def ShowsCalls (s : Stmt) : Prop :=
  ∀ before, isFresh before → methodCalls before s.tokens = s.calls.map Call.shown

theorem methodCalls_body {ss : List Stmt} (h : ∀ s ∈ ss, s.ShowsCalls)
    (hvalue : ∀ s ∈ ss.dropLast, s.isValue = false) {before : List Token}
    (hbefore : isFresh before) :
    methodCalls before (ss.flatMap tokens) = (ss.flatMap calls).map Call.shown := by
  induction ss generalizing before with
  | nil => rfl
  | cons s ss ih =>
    rw [List.forall_mem_cons] at h
    rw [List.flatMap_cons, methodCalls_append, h.1 before hbefore, List.flatMap_cons,
      List.map_append]
    cases ss with
    | nil => rfl
    | cons s' ss =>
      rw [List.dropLast_cons_cons, List.forall_mem_cons] at hvalue
      rw [ih h.2 hvalue.2 (isFresh_of_not_value hvalue.1 before)]

end Stmt

theorem Function.methodCalls_method {f : Function} (h : f.isLegible)
    (hvalue : ∀ s ∈ f.body.dropLast, s.isValue = false) :
    methodCalls [] f.method.body = f.calls.map Call.shown := by
  simp only [isLegible, Bool.and_eq_true, List.all_eq_true] at h
  exact Stmt.methodCalls_body (fun s hs _ => Stmt.methodCalls_tokens (h.2 s hs)) hvalue rfl

def argumentCount (ts : List Token) : Nat :=
  if ts.isEmpty then 0 else ts.countP isComma + 1

def firstArgument (ts : List Token) : List Token :=
  ts.takeWhile (!isComma ·)

theorem countP_eq_zero_of_not_comma {es : List Token} (h : ∀ t ∈ es, isComma t = false) :
    es.countP isComma = 0 :=
  List.countP_eq_zero.mpr fun t ht => by simp [h t ht]

theorem countP_following {ess : List (List Token)}
    (h : ∀ es ∈ ess, ∀ t ∈ es, isComma t = false) :
    (ess.flatMap fun es => .mark ',' false :: es).countP isComma = ess.length := by
  induction ess with
  | nil => rfl
  | cons es ess ih =>
    rw [List.forall_mem_cons] at h
    have hcomma : isComma (.mark ',' false) := rfl
    rw [List.flatMap_cons, List.countP_append, List.countP_cons_of_pos hcomma,
      countP_eq_zero_of_not_comma h.1, ih h.2, List.length_cons]
    omega

theorem argumentCount_separated {ess : List (List Token)}
    (h : ∀ es ∈ ess, es ≠ [] ∧ ∀ t ∈ es, isComma t = false) :
    argumentCount (separated ess) = ess.length := by
  cases ess with
  | nil => rfl
  | cons es ess =>
    rw [List.forall_mem_cons] at h
    have hne : (separated (es :: ess)).isEmpty = false := by
      simp [separated, h.1.1]
    rw [argumentCount, hne, separated, List.countP_append, countP_eq_zero_of_not_comma h.1.2,
      countP_following fun fs hfs => (h.2 fs hfs).2]
    simp

theorem not_comma_of_mem_code {s : String} (h : isWord s) : ∀ t ∈ code s, isComma t = false := by
  intro t ht
  rcases isWordy_of_mem_code h t ht with hname | ⟨k, text, rfl⟩ | ⟨c, -, hc, rfl⟩
  · cases t with
    | mark => exact absurd hname Bool.noConfusion
    | _ => rfl
  · rfl
  · exact beq_false_of_ne hc

namespace Expr

theorem not_comma_of_mem_tokens (e : Expr) (h : e.isLegible) :
    ∀ t ∈ e.tokens, isComma t = false := by
  cases e with
  | atom s => exact not_comma_of_mem_code h
  | text s => simp [tokens, isComma]
  | call f args =>
    simp only [isLegible, Bool.and_eq_true] at h
    rw [tokens, List.forall_mem_append]
    exact ⟨not_comma_of_mem_code (isWord_of_isPath h.1), by simp [isComma]⟩
  | method r n args =>
    simp only [isLegible, Bool.and_eq_true] at h
    have hn := isWord_of_isIdentifier h.1.2
    rw [tokens, List.forall_mem_append, List.forall_mem_cons, List.forall_mem_append]
    exact ⟨not_comma_of_mem_tokens r h.1.1, rfl, not_comma_of_mem_code hn, by simp [isComma]⟩
  | field r n =>
    cases r with
    | atom w =>
      simp only [isLegible, isPlace, Bool.and_eq_true, beq_iff_eq] at h
      obtain ⟨hw, rfl⟩ := h
      have hw := isWord_of_isName hw
      rw [tokens, tokens, List.forall_mem_append, List.forall_mem_cons, legible_zero.code]
      exact ⟨not_comma_of_mem_code hw, rfl, by simp [isComma]⟩
    | _ => exact absurd h Bool.false_ne_true
  | array es => simp [tokens, isComma]
  | tuple es => simp [tokens, isComma]
  | lambda p e =>
    simp only [isLegible, Bool.and_eq_true] at h
    rw [tokens, List.forall_mem_cons, List.forall_mem_append, List.forall_mem_cons]
    exact ⟨rfl, not_comma_of_mem_code h.1, rfl, not_comma_of_mem_tokens e h.2⟩

theorem argumentCount_tokensEach {es : List Expr} (h : eachLegible es) :
    argumentCount (separated (tokensEach es)) = es.length := by
  have heach : ∀ es : List Expr, eachLegible es → (tokensEach es).length = es.length ∧
      ∀ ts ∈ tokensEach es, ts ≠ [] ∧ ∀ t ∈ ts, isComma t = false := by
    intro es
    induction es with
    | nil => simp [tokensEach]
    | cons e es ih =>
      intro h
      simp only [eachLegible, Bool.and_eq_true] at h
      obtain ⟨hlength, hitems⟩ := ih h.2
      refine ⟨by simp [tokensEach, hlength], List.forall_mem_cons.mpr ⟨?_, hitems⟩⟩
      exact ⟨tokens_ne_nil h.1, e.not_comma_of_mem_tokens h.1⟩
  obtain ⟨hlength, hitems⟩ := heach es h
  rw [argumentCount_separated hitems, hlength]

end Expr

theorem Ty.not_comma_of_mem_tokens {t : Ty} (h : t.isLegible) :
    ∀ u ∈ t.tokens, isComma u = false := by
  induction t with
  | named p => exact not_comma_of_mem_code h
  | reference t ih =>
    rw [tokens, List.forall_mem_cons]
    exact ⟨rfl, ih h⟩
  | some t ih =>
    rw [tokens, List.forall_mem_cons]
    exact ⟨rfl, ih h⟩
  | applied f t ih =>
    simp only [isLegible, Bool.and_eq_true] at h
    simp only [tokens, separated, List.flatMap_nil, List.append_nil, List.forall_mem_append,
      List.forall_mem_cons]
    exact ⟨not_comma_of_mem_code h.1, rfl, ih h.2, rfl, by simp⟩
  | bound f n t ih =>
    simp only [isLegible, Bool.and_eq_true] at h
    simp only [tokens, separated, List.flatMap_nil, List.append_nil, List.forall_mem_append,
      List.forall_mem_cons]
    exact ⟨not_comma_of_mem_code h.1.1, rfl, ⟨not_comma_of_mem_code h.1.2, rfl, ih h.2⟩, rfl,
      by simp⟩
  | pair a b => simp [tokens, isComma]

def Head.arity (h : Head) : Option Nat :=
  match h.params with
  | .word s :: ts => if s == "self" then some (ts.countP isComma) else none
  | _ => none

def Head.takes (h : Head) : Option Nat :=
  match h.params with
  | .word "mut" :: ts => arity { h with params := ts }
  | _ => h.arity

def Head.IsCalledBy (h : Head) (c : MethodCall) : Prop :=
  c.method = h.name ∧ h.takes = some (argumentCount c.inside)

namespace Signature

variable {s : Signature}

theorem not_comma_of_mem_params (h : s.isLegible) :
    ∀ ts ∈ s.params.map Param.tokens, ∀ t ∈ ts, isComma t = false := by
  simp only [isLegible, Bool.and_eq_true, List.all_eq_true] at h
  rw [List.forall_mem_map]
  intro p hp
  obtain ⟨hname, htype⟩ := h.1.2 p hp
  rw [Param.tokens, List.forall_mem_append, List.forall_mem_cons]
  exact ⟨not_comma_of_mem_code hname, rfl, Ty.not_comma_of_mem_tokens htype⟩

theorem argumentCount_params (h : s.isLegible) (hreceiver : s.receiver = .none) :
    argumentCount s.head.params = s.params.length := by
  have hparams : s.head.params = separated (s.params.map Param.tokens) := by
    rw [head, paramTokens, hreceiver]
    rfl
  have hne : ∀ ts ∈ s.params.map Param.tokens, ts ≠ [] :=
    List.forall_mem_map.mpr fun p _ => by simp [Param.tokens]
  rw [hparams, argumentCount_separated fun ts hts => ⟨hne ts hts, not_comma_of_mem_params h ts hts⟩,
    List.length_map]

theorem params_of_owned (h : s.receiver = .owned) : s.head.params =
    .word "self" :: (s.params.map Param.tokens).flatMap fun ts => .mark ',' false :: ts := by
  rw [head, paramTokens, h]
  rfl

theorem arity_head (h : s.isLegible) (hreceiver : s.receiver = .owned) :
    s.head.arity = some s.params.length := by
  rw [Head.arity, params_of_owned hreceiver]
  simp only [beq_self_eq_true, if_true, countP_following (not_comma_of_mem_params h),
    List.length_map]

theorem takes_head (h : s.isLegible) (hreceiver : s.receiver ≠ .none) :
    s.head.takes = some s.params.length := by
  cases hr : s.receiver with
  | none => exact absurd hr hreceiver
  | owned =>
    rw [← arity_head h hr, Head.takes, params_of_owned hr]
    simp
  | mutable =>
    have howned := arity_head (s := { s with receiver := .owned }) h rfl
    rw [← howned, Head.takes, head, paramTokens, hr]
    rfl

end Signature

end TypedMarkup.Code
