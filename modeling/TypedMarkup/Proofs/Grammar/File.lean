import TypedMarkup.Artifact.Smoke
import TypedMarkup.Proofs.Grammar.Import

namespace TypedMarkup.Code

open Token Reader

namespace Grammar

variable {n : Nat} {ts us : List Token} {fault : Option ReadError}

theorem takes_anyItem (h : Takes (item (parts n)) ts () us) :
    Takes (anyItem (parts (n + 1))) ts () us :=
  (h.bind (takes_pure Form.plain us)).bind (takes_pure () us)

theorem ends_anyItem (h : Ends (item (parts n)) ts fault us) :
    Ends (anyItem (parts (n + 1))) ts fault us := by
  cases fault with
  | none => exact takes_anyItem h
  | some e => exact h.bind.bind

theorem fails_all {item : Reader Unit} {e : ReadError} (hts : ts ≠ [])
    (h : Fails item ts e) : Fails (all item) ts e := by
  have hempty : ts.isEmpty = false := List.isEmpty_eq_false_iff.mpr hts
  refine (takes_ahead ts).fails (Fails.bind ((takes_isDone ts).fails ?_))
  rw [hempty]
  exact h.bind

theorem takes_items {is : List Item} (h : ∀ i ∈ is, i.isGrammatical)
    (hn : 4 * count (is.flatMap Item.emitted) ≤ n) :
    ∀ e ∈ is.map Item.emitted,
      e ≠ [] ∧ ∀ rest, Takes (anyItem (parts (n + 1))) (e ++ rest) () rest := by
  rw [List.forall_mem_map]
  intro i hi
  have hcount : count i.emitted ≤ count (is.flatMap Item.emitted) := count_le_count_flatMap hi
  refine ⟨?_, fun rest => ?_⟩
  · cases i <;> simp [Item.emitted, Function.emitted, Signature.emitted]
  · exact takes_anyItem (Item.takes_item (h i hi) (by omega) rest)

def allowanceTokens : List Token :=
  [.word "allow", .group .round
    [.word "non_camel_case_types", .mark ',' false, .word "unused_imports", .mark ',' false,
      .word "clippy", .mark ':' true, .mark ':' false, .word "all"]]

theorem ofText_allowance :
    ofText allowance = [.mark '#' true, .mark '!' false, .group .square allowanceTokens] := rfl

def subjectTokens : List Token :=
  [.word "use", .word "super", .mark ':' true, .mark ':' true, .mark '*' true, .mark ';' false]

theorem ofText_subject : ofText subject = subjectTokens := rfl

theorem takes_innerAttributes_allowance (read : Parts) (ts : List Token) :
    Takes (innerAttributes read) (ofText allowance ++ .word "use" :: ts) ()
      (.word "use" :: ts) := by
  rw [ofText_allowance]
  have hbody : Takes (attributeBody read) allowanceTokens () [] := fun _ => rfl
  have hstep : Takes (innerStep read)
      ([.mark '#' true, .mark '!' false, .group .square allowanceTokens] ++ .word "use" :: ts)
      ((), true) (.word "use" :: ts) :=
    Takes.bind (fun _ => rfl) (Takes.bind (fun _ => rfl)
      (Takes.bind (fun _ => rfl) (hbody.inside.bind (takes_pure _ _))))
  have hend : Takes (innerStep read) (.word "use" :: ts) ((), false) (.word "use" :: ts) :=
    fun _ => rfl
  exact takes_loop (takes_rounds_more hstep (takes_rounds_end hend))

theorem takes_innerAttributes_subject (read : Parts) (ts : List Token) :
    Takes (innerAttributes read) (subjectTokens ++ ts) () (subjectTokens ++ ts) :=
  takes_loop (takes_rounds_end fun _ => rfl)

theorem takes_item_subject (n : Nat) (ts : List Token) :
    Takes (item (parts (n + 4))) (subjectTokens ++ ts) () ts :=
  fun _ => rfl

theorem ends_builder {path : String} {p : ModulePath} (h : ModulePath.parse path = .ok p)
    {names : List String} (hnames : ∀ s ∈ names, areName (ofText s)) {is : List Item}
    (his : ∀ i ∈ is, i.isGrammatical) {n : Nat} (hpath : (ofText path).length < n)
    (hn : 4 * count (is.flatMap Item.emitted) ≤ n + 1) :
    Ends (file (parts (n + 2)))
      (ofText allowance ++ importTokens path names ++ is.flatMap Item.emitted) p.importFault?
      [] := by
  have himport (rest : List Token) := ends_anyItem (ends_import h hnames hpath rest)
  have hitems := takes_items his hn
  rw [List.append_assoc]
  refine (takes_innerAttributes_allowance _ _).ends ?_
  cases hfault : p.importFault? with
  | some e =>
    rw [hfault] at himport
    exact fails_all (List.cons_ne_nil _ _) (himport _)
  | none =>
    rw [hfault] at himport
    have hall : Takes (all (anyItem (parts (n + 2))))
        (importTokens path names :: is.map Item.emitted).flatten () [] :=
      takes_all (List.forall_mem_cons.mpr ⟨⟨List.cons_ne_nil _ _, himport⟩, hitems⟩)
    rwa [List.flatten_cons, ← List.flatMap_def] at hall

theorem takes_tests {fs : List Function} (h : ∀ f ∈ fs, f.isGrammatical) {n : Nat}
    (hn : 4 * count (fs.flatMap Function.emitted) ≤ n + 4) :
    Takes (file (parts (n + 5))) (ofText subject ++ fs.flatMap Function.emitted) () [] := by
  have his : ∀ i ∈ fs.map Item.function, i.isGrammatical := List.forall_mem_map.mpr h
  have hflat : (fs.map Item.function).flatMap Item.emitted = fs.flatMap Function.emitted :=
    List.flatMap_map Item.function Item.emitted fs
  have hitems := takes_items his (hflat ▸ hn)
  rw [ofText_subject]
  refine (takes_innerAttributes_subject _ _).bind ?_
  have hsubject (rest : List Token) :=
    takes_anyItem (takes_item_subject n rest)
  have hall : Takes (all (anyItem (parts (n + 5))))
      (subjectTokens :: (fs.map Item.function).map Item.emitted).flatten () [] :=
    takes_all (List.forall_mem_cons.mpr ⟨⟨List.cons_ne_nil _ _, hsubject⟩, hitems⟩)
  rwa [List.flatten_cons, ← List.flatMap_def, hflat] at hall

theorem length_le_count (ts : List Token) : ts.length ≤ count ts := by
  induction ts with
  | nil => exact Nat.le_refl 0
  | cons t ts ih =>
    have hpos := size_pos t
    rw [List.length_cons, count_cons]
    omega

def outcome : Option ReadError → Except ReadError Unit
  | none => .ok ()
  | some e => .error e

theorem readAll_of_ends {rule : Parts → Reader Unit}
    (h : Ends (rule (parts (depth * (count ts + 1)))) ts fault []) :
    readAll rule ts = outcome fault := by
  cases fault with
  | none => exact ModulePath.run_eq_ok.mpr (h none)
  | some e =>
    change (rule _ ⟨ts, none⟩ >>= _) = _
    rw [h none]
    rfl

end Grammar

end TypedMarkup.Code
