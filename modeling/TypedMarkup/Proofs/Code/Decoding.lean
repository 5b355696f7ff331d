import TypedMarkup.Proofs.Code.Spelling

namespace TypedMarkup.Code

open Text

inductive Place where
  | front
  | inside
  | escape
  | high
  | low (value : Nat)
  | brace
  | digits (count value : Nat)
  | blank
  | carriage (skipped : Bool)
  | closed
  deriving DecidableEq, Repr

def escaped : Char → Option Char
  | 'n' => some '\n'
  | 'r' => some '\r'
  | 't' => some '\t'
  | '0' => some '\x00'
  | '\\' => some '\\'
  | '\'' => some '\''
  | '"' => some '"'
  | _ => none

namespace Place

def stepInside (c : Char) : Place × List Char :=
  if c = '"' then (closed, [])
  else if c = '\\' then (escape, [])
  else if c = '\r' then (carriage false, [])
  else (inside, [c])

def stepEscape (c : Char) : Option (Place × List Char) :=
  if c = 'x' then some (high, [])
  else if c = 'u' then some (brace, [])
  else if c = '\n' then some (blank, [])
  else if c = '\r' then some (carriage true, [])
  else (escaped c).map fun d => (inside, [d])

def stepDigits (count value : Nat) (c : Char) : Option (Place × List Char) :=
  if c = '_' && count > 0 then some (digits count value, [])
  else if c = '\x7d' && count > 0 then
    if value.isValidChar then some (inside, [Char.ofNat value]) else none
  else if Literal.isHex c && count < 6 then
    some (digits (count + 1) (16 * value + Literal.hexValue c), [])
  else none

def step : Place → Char → Option (Place × List Char)
  | front, c => if c = '"' then some (inside, []) else none
  | inside, c => some (stepInside c)
  | escape, c => stepEscape c
  | high, c =>
    if Literal.isHex c && Literal.hexValue c < 8 then some (low (Literal.hexValue c), []) else none
  | low value, c =>
    if Literal.isHex c then some (inside, [Char.ofNat (16 * value + Literal.hexValue c)]) else none
  | brace, c => if c = '\x7b' then some (digits 0 0, []) else none
  | digits count value, c => stepDigits count value c
  | blank, c =>
    if c = ' ' || c = '\t' || c = '\n' then some (blank, [])
    else if c = '\r' then some (carriage true, [])
    else some (stepInside c)
  | carriage skipped, c =>
    if c = '\n' then some (if skipped then (blank, []) else (inside, ['\n'])) else none
  | closed, _ => none

def read (p : Place) : List Char → Option (List Char)
  | [] => if p = closed then some [] else none
  | c :: s =>
    match p.step c with
    | some (q, ds) => (read q s).map (ds ++ ·)
    | none => none

theorem read_cons {p q : Place} {c : Char} {ds : List Char} (h : p.step c = some (q, ds))
    (s : List Char) : p.read (c :: s) = (q.read s).map (ds ++ ·) := by
  rw [read, h]

theorem read_silent {p q : Place} {c : Char} (h : p.step c = some (q, [])) (s : List Char) :
    p.read (c :: s) = q.read s := by
  rw [read_cons h]
  simp

end Place

def decodeLiteral (s : String) : Option String :=
  (Place.front.read s.toList).map String.ofList

namespace Place

theorem read_escaped {c d : Char} (h : escaped c = some d) (s : List Char) :
    inside.read ('\\' :: c :: s) = (inside.read s).map (d :: ·) := by
  have hstep : escape.step c = some (inside, [d]) := by
    have hother : ∀ e ∈ ['x', 'u', '\n', '\r'], c ≠ e := by
      rintro e he rfl
      simp only [List.mem_cons, List.not_mem_nil, or_false] at he
      rcases he with rfl | rfl | rfl | rfl <;> exact Option.some_ne_none d h.symm
    simp only [List.forall_mem_cons] at hother
    simp [step, stepEscape, hother, h]
  rw [read_silent rfl, read_cons hstep]
  rfl

theorem read_digit {d : Nat} (hd : d < 16) (count value : Nat) (s : List Char) (hc : count < 6) :
    (digits count value).read (Nat.digitChar d :: s) =
      (digits (count + 1) (16 * value + d)).read s := by
  obtain ⟨hhex, hvalue, hlow, hbrace⟩ := digit_facts hd
  refine read_silent ?_ s
  simp [step, stepDigits, hhex, hvalue, hlow, hbrace, hc]

theorem read_byNumber (c : Char) (s : List Char) :
    inside.read (byNumber c ++ s) = (inside.read s).map (c :: ·) := by
  have hpos : 0 < (hex c.toNat).length := Nat.length_toDigits_pos
  have hvalid : c.toNat.isValidChar := c.valid
  have hbrace : (digits (hex c.toNat).length c.toNat).step '\x7d' = some (inside, [c]) := by
    simp [step, stepDigits, hpos, hvalid]
  have hchars : byNumber c ++ s = '\\' :: 'u' :: '\x7b' :: (hex c.toNat ++ '\x7d' :: s) := by
    simp [byNumber]
  have hopening : inside.read (byNumber c ++ s) =
      (digits 0 0).read (hex c.toNat ++ '\x7d' :: s) := by
    rw [hchars, read_silent rfl, read_silent rfl, read_silent rfl]
  have hnumber := read_toDigits (f := fun count value => (digits count value).read)
    (fun d hd count value s hc => read_digit hd count value s hc) c.toNat ('\x7d' :: s) 0 0
    (by simpa [hex] using length_hex_le c)
  rw [hopening, hex, hnumber, Nat.zero_mul, Nat.zero_add, Nat.zero_add, ← hex, read_cons hbrace]
  rfl

theorem read_spell (c : Char) (s : List Char) :
    inside.read (spell c ++ s) = (inside.read s).map (c :: ·) := by
  unfold spell
  split_ifs with htab hline hreturn hquote hescape hhidden
  · subst htab
    exact read_escaped rfl s
  · subst hline
    exact read_escaped rfl s
  · subst hreturn
    exact read_escaped rfl s
  · subst hquote
    exact read_escaped rfl s
  · subst hescape
    exact read_escaped rfl s
  · exact read_byNumber c s
  · have hstep : inside.step c = some (inside, [c]) := by
      simp [step, stepInside, hreturn, hquote, hescape]
    exact read_cons hstep s

-- A zero is spelled in short or, in front of a digit, in full.
theorem read_zero (octal : Bool) (s : List Char) :
    inside.read ((if octal then ['\\', 'x', '0', '0'] else ['\\', '0']) ++ s) =
      (inside.read s).map ('\x00' :: ·) := by
  cases octal with
  | false => exact read_escaped rfl s
  | true =>
    have hvalue : (low (Literal.hexValue '0')).step '0' = some (inside, ['\x00']) := by decide
    change inside.read ('\\' :: 'x' :: '0' :: '0' :: s) = _
    rw [read_silent rfl, read_silent rfl, read_silent rfl, read_cons hvalue]
    rfl

theorem read_encodeLiteral (s : List Char) : inside.read (encodeLiteral s ++ ['"']) = some s := by
  induction s with
  | nil => decide
  | cons c s ih =>
    rw [encodeLiteral, List.append_assoc]
    split
    · rename_i hc
      rw [read_zero, ih, hc]
      rfl
    · rw [read_spell, ih]
      rfl

end Place

theorem decodeLiteral_literal (s : String) : decodeLiteral (Text.literal s) = some s := by
  have hchars : (Text.literal s).toList = '"' :: (encodeLiteral s.toList ++ ['"']) := by
    simp [Text.literal]
  rw [decodeLiteral, hchars, Place.read_silent rfl, Place.read_encodeLiteral, Option.map_some,
    String.ofList_toList]

theorem literal_injective : Function.Injective Text.literal := by
  intro s t h
  have hs := decodeLiteral_literal s
  rw [h, decodeLiteral_literal t] at hs
  exact (Option.some.inj hs).symm

example : decodeLiteral "\"a\\x41\\u\x7b1_F600\x7d\\\n  b\"" = some "aA😀b" := by
  decide +kernel

def hasBareQuote : List Char → Bool
  | '\\' :: _ :: s => hasBareQuote s
  | c :: s => c == '"' || hasBareQuote s
  | [] => false

theorem hasBareQuote_cons {c : Char} (hquote : c ≠ '"') (hescape : c ≠ '\\') (s : List Char) :
    hasBareQuote (c :: s) = hasBareQuote s := by
  rw [hasBareQuote]
  · simp [hquote]
  · simp [hescape]

theorem hasBareQuote_append {s : List Char} (h : ∀ c ∈ s, c ≠ '"' ∧ c ≠ '\\') (t : List Char) :
    hasBareQuote (s ++ t) = hasBareQuote t := by
  induction s with
  | nil => rfl
  | cons c s ih =>
    rw [List.forall_mem_cons] at h
    rw [List.cons_append, hasBareQuote_cons h.1.1 h.1.2, ih h.2]

theorem hasBareQuote_byNumber (c : Char) (t : List Char) :
    hasBareQuote (byNumber c ++ t) = hasBareQuote t := by
  have hdigit : ∀ d < 16, Nat.digitChar d ≠ '"' ∧ Nat.digitChar d ≠ '\\' := by decide
  have hdigits : ∀ d ∈ hex c.toNat, d ≠ '"' ∧ d ≠ '\\' := by
    intro d hd
    obtain ⟨n, hn, rfl⟩ := mem_hex hd
    exact hdigit n hn
  have hchars : byNumber c ++ t = '\\' :: 'u' :: '\x7b' :: (hex c.toNat ++ '\x7d' :: t) := by
    simp [byNumber]
  rw [hchars, hasBareQuote, hasBareQuote_cons (by decide) (by decide),
    hasBareQuote_append hdigits, hasBareQuote_cons (by decide) (by decide)]

theorem hasBareQuote_spell (c : Char) (t : List Char) :
    hasBareQuote (spell c ++ t) = hasBareQuote t := by
  unfold spell
  split_ifs with htab hline hreturn hquote hescape hhidden
  · rfl
  · rfl
  · rfl
  · rfl
  · rfl
  · exact hasBareQuote_byNumber c t
  · exact hasBareQuote_cons hquote hescape t

theorem hasBareQuote_encodeLiteral (s : List Char) : hasBareQuote (encodeLiteral s) = false := by
  induction s with
  | nil => rfl
  | cons c s ih =>
    rw [encodeLiteral]
    split_ifs with hzero hdigit
    · exact ih
    · exact ih
    · rw [hasBareQuote_spell, ih]

structure Spells (literal text : String) : Prop where
  decodes : decodeLiteral literal = some text
  inside : ∃ s : List Char, literal.toList = '"' :: (s ++ ['"']) ∧ hasBareQuote s = false
  unbroken : ∀ b ∈ lineBreaks, b ∉ literal.toList

theorem spells_literal (s : String) : Spells (Text.literal s) s where
  decodes := decodeLiteral_literal s
  inside := ⟨encodeLiteral s.toList, by simp [Text.literal], hasBareQuote_encodeLiteral _⟩
  unbroken _ hb := not_mem_literal hb s

end TypedMarkup.Code
