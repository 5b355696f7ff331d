import Mathlib.Data.Nat.Digits.Defs
import Mathlib.Tactic.Ring
import TypedMarkup.Proofs.Code.Scan

namespace TypedMarkup.Code

open Text Token

theorem digit_facts {d : Nat} (h : d < 16) :
    Literal.isHex (Nat.digitChar d) ∧ Literal.hexValue (Nat.digitChar d) = d ∧
      Nat.digitChar d ≠ '_' ∧ Nat.digitChar d ≠ '\x7d' := by
  revert d
  decide

theorem read_toDigits {β : Type} {f : Nat → Nat → List Char → β}
    (hone : ∀ d < 16, ∀ count value s, count < 6 →
      f count value (Nat.digitChar d :: s) = f (count + 1) (16 * value + d) s)
    (n : Nat) (s : List Char) (count value : Nat) (h : count + (Nat.toDigits 16 n).length ≤ 6) :
    f count value (Nat.toDigits 16 n ++ s) =
      f (count + (Nat.toDigits 16 n).length)
        (value * 16 ^ (Nat.toDigits 16 n).length + n) s := by
  induction n using Nat.strongRecOn generalizing s count value with
  | _ n ih =>
    rw [Nat.toDigits_eq_if (by decide)] at h ⊢
    split at h
    · rename_i hn
      rw [if_pos hn]
      simp only [List.length_singleton] at h
      simp only [List.cons_append, List.nil_append, List.length_singleton, pow_one]
      rw [hone n hn count value s (by omega), Nat.mul_comm]
    · rename_i hn
      rw [if_neg hn]
      simp only [List.length_append, List.length_singleton] at h ⊢
      have hdiv : n / 16 < n := by omega
      rw [List.append_assoc, ih (n / 16) hdiv _ _ _ (by omega), List.singleton_append,
        hone (n % 16) (by omega) _ _ _ (by omega)]
      have hvalue : 16 * (value * 16 ^ (Nat.toDigits 16 (n / 16)).length + n / 16) + n % 16 =
          value * 16 ^ ((Nat.toDigits 16 (n / 16)).length + 1) + n := by
        rw [pow_succ]
        have := Nat.div_add_mod n 16
        ring_nf
        omega
      rw [hvalue, Nat.add_assoc]

theorem length_hex_le (c : Char) : (hex c.toNat).length ≤ 6 := by
  have hvalid : c.toNat.isValidChar := c.valid
  rw [hex, Nat.length_toDigits_le_iff (by decide) (by decide)]
  rcases hvalid with h | ⟨-, h⟩ <;> omega

theorem codePoint_digits (k : Literal.Kind) (n : Nat) (s : List Char) (count value : Nat)
    (h : count + (Nat.toDigits 16 n).length ≤ 6) :
    Literal.codePoint k count value (Nat.toDigits 16 n ++ s) =
      Literal.codePoint k (count + (Nat.toDigits 16 n).length)
        (value * 16 ^ (Nat.toDigits 16 n).length + n) s := by
  refine read_toDigits (fun d hd count value s hc => ?_) n s count value h
  obtain ⟨hhex, hvalue, hlow, hbrace⟩ := digit_facts hd
  simp [Literal.codePoint, hhex, hvalue, hlow, hbrace, hc]

theorem escape_byNumber (c : Char) (s : List Char) :
    Literal.escape Literal.plainKind ('u' :: '\x7b' :: (hex c.toNat ++ '\x7d' :: s)) = some s := by
  have hvalid : c.toNat.isValidChar := c.valid
  have hlength : (Nat.toDigits 16 c.toNat).length ≤ 6 := length_hex_le c
  have hpos : 0 < (Nat.toDigits 16 c.toNat).length := Nat.length_toDigits_pos
  have hrest : Literal.codePoint Literal.plainKind (Nat.toDigits 16 c.toNat).length c.toNat
      ('\x7d' :: s) = some s := by
    simp [Literal.codePoint, Literal.plainKind, hpos, hvalid]
  rw [Literal.escape, hex, codePoint_digits _ _ _ _ _ (by omega)]
  simpa [Literal.plainKind] using hrest

theorem stringRest_escaped {n : Nat} {c : Char} {s t : List Char} (hline : c ≠ '\n')
    (hreturn : c ≠ '\r') (h : Literal.escape Literal.plainKind (c :: s) = some t) :
    Literal.stringRest Literal.plainKind (n + 1) ('\\' :: c :: s) =
      Literal.stringRest Literal.plainKind n t := by
  rw [Literal.stringRest]
  · rw [h, Option.bind_some]
  all_goals simp_all

theorem stringRest_plain {n : Nat} {c : Char} (hquote : c ≠ '"') (hreturn : c ≠ '\r')
    (hescape : c ≠ '\\') (s : List Char) :
    Literal.stringRest Literal.plainKind (n + 1) (c :: s) =
      Literal.stringRest Literal.plainKind n s := by
  rw [Literal.stringRest]
  · simp [Literal.Kind.allows, Literal.plainKind]
  all_goals simp_all

theorem stringRest_spell (n : Nat) (c : Char) (t : List Char) :
    Literal.stringRest Literal.plainKind (n + 1) (spell c ++ t) =
      Literal.stringRest Literal.plainKind n t := by
  have hsimple (d : Char) (hd : d ∈ ['t', 'n', 'r', '"', '\\']) :
      Literal.stringRest Literal.plainKind (n + 1) (['\\', d] ++ t) =
        Literal.stringRest Literal.plainKind n t := by
    simp only [List.mem_cons, List.not_mem_nil, or_false] at hd
    rcases hd with rfl | rfl | rfl | rfl | rfl
    all_goals exact stringRest_escaped (by decide) (by decide) rfl
  unfold spell
  split_ifs with htab hline hreturn hquote hescape hhidden
  · exact hsimple 't' (by simp)
  · exact hsimple 'n' (by simp)
  · exact hsimple 'r' (by simp)
  · exact hsimple '"' (by simp)
  · exact hsimple '\\' (by simp)
  · have hescaped := escape_byNumber c t
    have hchars : byNumber c ++ t = '\\' :: 'u' :: '\x7b' :: (hex c.toNat ++ '\x7d' :: t) := by
      simp [byNumber]
    rw [hchars]
    exact stringRest_escaped (by decide) (by decide) hescaped
  · exact stringRest_plain hquote hreturn hescape t

theorem stringRest_zero (n : Nat) (octal : Bool) (t : List Char) :
    Literal.stringRest Literal.plainKind (n + 1)
        ((if octal then ['\\', 'x', '0', '0'] else ['\\', '0']) ++ t) =
      Literal.stringRest Literal.plainKind n t := by
  cases octal with
  | true => exact stringRest_escaped (by decide) (by decide) rfl
  | false => exact stringRest_escaped (by decide) (by decide) rfl

theorem stringRest_encodeLiteral {s rest : List Char} (hr : Apart rest) {n : Nat}
    (hn : (encodeLiteral s ++ '"' :: rest).length < n) :
    Literal.stringRest Literal.plainKind n (encodeLiteral s ++ '"' :: rest) = some rest := by
  induction s generalizing n with
  | nil =>
    have hsuffix : Literal.suffix rest = rest := by
      cases rest with
      | nil => rfl
      | cons c s => simp [Literal.suffix, not_word_of_apart hr]
    cases n with
    | zero => simp at hn
    | succ n => simp [encodeLiteral, Literal.stringRest, hsuffix]
  | cons c s ih =>
    rw [encodeLiteral, List.append_assoc] at hn ⊢
    split at hn
    · rename_i hc
      rw [if_pos hc]
      cases n with
      | zero => omega
      | succ n =>
        rw [stringRest_zero]
        refine ih ?_
        split at hn <;>
          simp only [List.length_append, List.length_cons, List.length_nil] at hn ⊢ <;> omega
    · rename_i hc
      rw [if_neg hc]
      have hpos : 0 < (spell c).length := by
        unfold spell byNumber
        split_ifs <;> simp
      cases n with
      | zero => omega
      | succ n =>
        rw [stringRest_spell n c]
        refine ih ?_
        simp only [List.length_append] at hn ⊢
        omega

theorem leaf_literal (s : String) {rest : List Char} (hr : Apart rest) :
    leaf ((literal s).toList ++ rest) = some (.literal .text (literal s), rest) := by
  have hchars : (literal s).toList ++ rest = '"' :: (encodeLiteral s.toList ++ '"' :: rest) := by
    simp [Text.literal]
  have htake : Literal.take ((literal s).toList ++ rest) = some (.text, rest) := by
    rw [hchars, Literal.take, Literal.stringAfterQuote,
      stringRest_encodeLiteral hr (Nat.lt_succ_self _)]
    rfl
  rw [leaf_of_take htake, String.ofList_toList]

def lineBreaks : List Char :=
  ['\n', '\x0b', '\x0c', '\r', '\x85', '\u2028', '\u2029']

theorem mem_hex {n : Nat} {c : Char} (h : c ∈ hex n) : ∃ d < 16, c = Nat.digitChar d := by
  induction n using Nat.strongRecOn with
  | _ n ih =>
    rw [hex, Nat.toDigits_eq_if (by decide)] at h
    split at h
    · rename_i hn
      exact ⟨n, hn, List.mem_singleton.mp h⟩
    · rcases List.mem_append.mp h with h | h
      · exact ih (n / 16) (by omega) h
      · exact ⟨n % 16, by omega, List.mem_singleton.mp h⟩

theorem isHidden_of_mem_lineBreaks : ∀ b ∈ lineBreaks, isHidden b := by
  have hall : lineBreaks.all isHidden := by decide +kernel
  exact List.all_eq_true.mp hall

section

variable {b : Char} (hb : b ∈ lineBreaks)
include hb

theorem not_mem_of_all {cs : List Char} (h : cs.all (!lineBreaks.contains ·)) : b ∉ cs := by
  intro hmem
  have hnot := List.all_eq_true.mp h b hmem
  simp [hb] at hnot

theorem not_mem_hex (n : Nat) : b ∉ hex n := by
  have hdigit : ∀ d < 16, (!lineBreaks.contains (Nat.digitChar d)) := by decide
  refine not_mem_of_all hb (List.all_eq_true.mpr fun c hc => ?_)
  obtain ⟨d, hd, rfl⟩ := mem_hex hc
  exact hdigit d hd

theorem not_mem_byNumber (c : Char) : b ∉ byNumber c := by
  have hmarks : b ∉ ['\\', 'u', '\x7b', '\x7d'] := not_mem_of_all hb (by decide)
  simp only [List.mem_cons, List.not_mem_nil, or_false, not_or] at hmarks
  simp [byNumber, hmarks, not_mem_hex hb]

theorem not_mem_spell (c : Char) : b ∉ spell c := by
  unfold spell
  split_ifs with htab hline hreturn hquote hescape hhidden
  · exact not_mem_of_all hb (by decide)
  · exact not_mem_of_all hb (by decide)
  · exact not_mem_of_all hb (by decide)
  · exact not_mem_of_all hb (by decide)
  · exact not_mem_of_all hb (by decide)
  · exact not_mem_byNumber hb c
  · -- Whatever ends a line is hidden, and so has not got here.
    rw [List.mem_singleton]
    rintro rfl
    exact hhidden (isHidden_of_mem_lineBreaks b hb)

theorem not_mem_encodeLiteral (s : List Char) : b ∉ encodeLiteral s := by
  induction s with
  | nil => simp [encodeLiteral]
  | cons c s ih =>
    rw [encodeLiteral, List.mem_append, not_or]
    refine ⟨?_, ih⟩
    split_ifs
    · exact not_mem_of_all hb (by decide)
    · exact not_mem_of_all hb (by decide)
    · exact not_mem_spell hb c

theorem not_mem_literal (s : String) : b ∉ (Text.literal s).toList := by
  have hquote : b ∉ ['"'] := not_mem_of_all hb (by decide)
  rw [List.mem_singleton] at hquote
  simp [Text.literal, hquote, not_mem_encodeLiteral hb]

end

end TypedMarkup.Code
