import TypedMarkup.Proofs.Grammar.Signature

namespace TypedMarkup.Code

open Token Reader

theorem Reader.takes_get {α : Type} {f : Stream → Reader α} {x : α} {ts us : List Token}
    (h : ∀ s, Takes (f s) ts x us) : Takes (get >>= f) ts x us :=
  fun u => h ⟨ts, u⟩ u

namespace Grammar

variable {read : Parts} {t : Token} {ts us rest : List Token}

theorem takes_visibility {access : String} (h : Signature.accesses.contains access)
    (ts : List Token) : ∃ seen,
      Takes visibility (ofText access ++ .word "fn" :: ts) seen (.word "fn" :: ts) := by
  rcases Signature.cases_access h with rfl | rfl | rfl
  · exact ⟨false, fun _ => rfl⟩
  · exact ⟨true, fun _ => rfl⟩
  · refine ⟨true, ?_⟩
    rintro (_ | b) <;> rfl

theorem has_hash_access {access : String} (h : Signature.accesses.contains access)
    (ts : List Token) : has (ofText access ++ .word "fn" :: ts) "#" = false := by
  rcases Signature.cases_access h with rfl | rfl | rfl <;> rfl

theorem takes_afterVisibility {seen isFunction : Bool} (h : Takes visibility ts seen us)
    (hahead : Takes (signatureAhead false) us isFunction us) :
    Takes (afterVisibility false) ts (seen, us, isFunction || has us "fn") ts := by
  intro u
  refine (bind_apply rfl).trans ((bind_apply (h u)).trans ((bind_apply rfl).trans ?_))
  exact (bind_apply (hahead u)).trans rfl

theorem takes_signatureAhead_fn (ts : List Token) :
    Takes (signatureAhead false) (.word "fn" :: ts) true (.word "fn" :: ts) :=
  fun _ => rfl

theorem takes_attributedBlock {ss : List Stmt} (h : Stmt.areGrammatical ss) {n : Nat}
    (hn : 4 * count (ss.flatMap Stmt.emitted) < n) (rest : List Token) :
    Takes (attributedBlock (parts n)) (.group .curly (ss.flatMap Stmt.emitted) :: rest) ()
      rest := by
  obtain ⟨n, rfl⟩ := Nat.exists_eq_succ_of_ne_zero (Nat.ne_zero_of_lt hn)
  have hinner := (areAttributes_nil (parts (n + 1))).takes_innerAttributes
    (Stmt.front_body h "#" (by decide))
  have hbody : Takes (parts (n + 1) .statements) (ss.flatMap Stmt.emitted) .plain [] :=
    (Stmt.takes_body h (by omega)).bind (takes_pure _ [])
  exact (hinner.bind (hbody.bind (takes_pure () []))).inside

theorem endsType_curly (ts rest : List Token) : EndsType (.group .curly ts :: rest) :=
  ⟨⟨rfl, rfl⟩, rfl, rfl, rfl, rfl⟩

theorem endsSignature_curly (ts rest : List Token) : EndsSignature (.group .curly ts :: rest) :=
  ⟨endsType_curly ts rest, rfl, rfl⟩

theorem endsSignature_semicolon (rest : List Token) : EndsSignature (.mark ';' false :: rest) :=
  ⟨⟨⟨rfl, rfl⟩, rfl, rfl, rfl, rfl⟩, rfl, rfl⟩

theorem takes_members {member : Reader Unit} {es : List (List Token)}
    (hinner : Takes (innerAttributes read) es.flatten () es.flatten)
    (h : ∀ e ∈ es, e ≠ [] ∧ ∀ rest, Takes member (e ++ rest) () rest) :
    Takes (members read member) (.group .curly es.flatten :: rest) () rest :=
  (hinner.bind (takes_all h)).inside

theorem takes_traitOrAlias (ht : t.isIdentifier) {form : Form} {ms : List Token}
    (hstop : hasAny us ["where", .group .curly] = false)
    (hbound : Takes (read (.bound false true)) us form (.group .curly ms :: rest))
    (hmembers : Takes (members read (traitMember read)) (.group .curly ms :: rest) () rest) :
    Takes (itemRest read) (.word "pub" :: .word "trait" :: t :: .mark ':' false :: us) () rest := by
  have hlist : Takes (list "+" (fun ts => hasAny ts ["where", .group .curly]) (do
      let _ ← read (.bound false true))) us () (.group .curly ms :: rest) :=
    takes_list_one hstop (hbound.bind (takes_pure () _)) rfl
  have hrest : Takes (traitRest read) (.mark ':' false :: us) () rest :=
    Takes.bind (fun _ => rfl) (hlist.bind ((takes_conditions_none rfl).bind hmembers))
  have hvisibility : Takes visibility
      (.word "pub" :: .word "trait" :: t :: .mark ':' false :: us) true
      (.word "trait" :: t :: .mark ':' false :: us) := fun _ => rfl
  have htrait : Takes (traitOrAlias read)
      (.word "pub" :: .word "trait" :: t :: .mark ':' false :: us) () rest := by
    refine hvisibility.bind (Takes.bind (fun _ => rfl) ((takes_takeIdentifier ht _).bind ?_))
    exact Takes.bind (fun _ => rfl) ((takes_ahead _).bind hrest)
  have hahead : Takes (signatureAhead false) (.word "trait" :: t :: .mark ':' false :: us) false
      (.word "trait" :: t :: .mark ':' false :: us) := fun _ => rfl
  exact (takes_afterVisibility hvisibility hahead).bind htrait

theorem takes_wrapper (ht : t.isIdentifier) {form : Form} (hus : us ≠ [])
    (hattribute : has us "#" = false) (hpub : has us "pub" = false)
    (htype : Takes (read (.type true)) us form []) (rest : List Token) :
    Takes (itemRest read)
      (.word "pub" :: .word "struct" :: t :: .group .round us :: .mark ';' false :: rest) ()
      rest := by
  have hvisibility (ts : List Token) : Takes visibility (.word "pub" :: .word "struct" :: ts) true
      (.word "struct" :: ts) := fun _ => rfl
  have hahead (ts : List Token) : Takes (signatureAhead false) (.word "struct" :: ts) false
      (.word "struct" :: ts) := fun _ => rfl
  have hprivate : Takes visibility us false us := (takes_takeIf hpub).bind (takes_pure false us)
  have hfield : Takes (do
      let _ ← outerAttributes read
      let _ ← visibility
      anyType read) us () [] :=
    (takes_outerAttributes_none hattribute).bind (hprivate.bind (htype.bind (takes_pure () [])))
  have hfields : Takes (fieldsByPosition read) (.group .round us :: .mark ';' false :: rest) ()
      (.mark ';' false :: rest) :=
    Takes.inside (takes_list_one (List.isEmpty_eq_false_iff.mpr hus) hfield rfl)
  have hrest : Takes (structRest read) (.group .round us :: .mark ';' false :: rest) () rest := by
    refine (takes_ahead _).bind ((takes_conditions_none rfl).bind ((takes_ahead _).bind ?_))
    refine hfields.bind ((takes_ahead _).bind ((takes_conditions_none rfl).bind ?_))
    exact fun _ => rfl
  refine (takes_afterVisibility (hvisibility _) (hahead _)).bind ?_
  refine (hvisibility _).bind (Takes.bind (fun _ => rfl) ((takes_takeIdentifier ht _).bind ?_))
  exact Takes.bind (fun _ => rfl) hrest

theorem takes_impl {form : Form} (hfront : ∀ d ∈ Ty.foreign, has ts d = false)
    (htype : Takes (read (.type true)) ts form us)
    (hrest : Takes (do
      if ← takeIf "for" then anyType read
      conditions read
      members read (implMember read)) us () rest) :
    Takes (itemRest read) (.word "impl" :: ts) () rest := by
  have hvisibility : Takes visibility (.word "impl" :: ts) false (.word "impl" :: ts) :=
    fun _ => rfl
  have hahead : Takes (signatureAhead false) (.word "impl" :: ts) false (.word "impl" :: ts) :=
    fun _ => rfl
  have himpl : Takes (implItem read) (.word "impl" :: ts) () rest := by
    refine hvisibility.bind (Takes.bind (fun _ => rfl) (Takes.bind (fun _ => rfl) ?_))
    refine Takes.bind (fun _ => rfl) ((takes_ahead ts).bind ?_)
    rw [opensParameters, hfront "<" (by decide)]
    refine (takes_ahead ts).bind ?_
    rw [hfront "const" (by decide), hfront "?" (by decide)]
    refine (takes_ahead ts).bind ?_
    rw [hfront "!" (by decide)]
    exact (htype.bind (takes_pure () us)).bind hrest
  exact (takes_afterVisibility hvisibility hahead).bind himpl

theorem takes_impl_for {form type : Form} {vs ms : List Token}
    (hfront : ∀ d ∈ Ty.foreign, has ts d = false)
    (htype : Takes (read (.type true)) ts form (.word "for" :: vs))
    (hof : Takes (read (.type true)) vs type (.group .curly ms :: rest))
    (hmembers : Takes (members read (implMember read)) (.group .curly ms :: rest) () rest) :
    Takes (itemRest read) (.word "impl" :: ts) () rest := by
  refine takes_impl hfront htype (Takes.bind (fun _ => rfl) ?_)
  exact (hof.bind (takes_pure () _)).bind ((takes_conditions_none rfl).bind hmembers)

theorem takes_impl_inherent {form : Form} {ms : List Token}
    (hfront : ∀ d ∈ Ty.foreign, has ts d = false)
    (htype : Takes (read (.type true)) ts form (.group .curly ms :: rest))
    (hmembers : Takes (members read (implMember read)) (.group .curly ms :: rest) () rest) :
    Takes (itemRest read) (.word "impl" :: ts) () rest :=
  takes_impl hfront htype
    (Takes.bind (fun _ => rfl) ((takes_conditions_none rfl).bind hmembers))

end Grammar

namespace Function

def isGrammatical (f : Function) : Bool :=
  f.attributes.all (· == "#[test]") && f.signature.isGrammatical && Stmt.areGrammatical f.body

theorem access_mem {f : Function} (h : f.isGrammatical) :
    Signature.accesses.contains f.signature.access := by
  simp only [isGrammatical, Signature.isGrammatical, Bool.and_eq_true] at h
  exact h.1.2.1.1.1

def tokensAfterAttributes (f : Function) : List Token :=
  f.signature.tokensAfterAccess ++ [.group .curly (f.body.flatMap Stmt.emitted)]

theorem emitted_append (f : Function) (rest : List Token) : f.emitted ++ rest =
    (notes f.docs ++ f.attributes.flatMap ofText) ++
      (ofText f.signature.access ++ (f.tokensAfterAttributes ++ rest)) := by
  simp only [emitted, tokensAfterAttributes, Signature.emitted, List.append_assoc]

theorem count_tokensAfterAttributes_le (f : Function) :
    count f.tokensAfterAttributes ≤ count f.emitted := by
  have heq := f.emitted_append []
  rw [List.append_nil, List.append_nil] at heq
  rw [heq]
  simp only [count_append]
  omega

theorem areAttributes {f : Function} (h : f.isGrammatical) (read : Grammar.Parts) :
    Grammar.AreAttributes read (notes f.docs ++ f.attributes.flatMap ofText) := by
  simp only [isGrammatical, Bool.and_eq_true, List.all_eq_true, beq_iff_eq] at h
  refine (Grammar.areAttributes_notes read f.docs).append
    (Grammar.areAttributes_flatMap fun a ha => ?_)
  rw [h.1.1 a ha]
  refine ⟨[[.word "test"]], rfl, ?_⟩
  simp only [List.mem_singleton, forall_eq]
  exact fun _ => rfl

theorem takes_definition {f : Function} (h : f.isGrammatical) {n : Nat}
    (hn : 4 * count f.tokensAfterAttributes ≤ n) (rest : List Token) :
    Takes (do
      Grammar.signature (Grammar.parts n) false
      Grammar.bodyOrSemicolon (Grammar.parts n)) (f.tokensAfterAttributes ++ rest) () rest := by
  simp only [isGrammatical, Bool.and_eq_true] at h
  rw [tokensAfterAttributes] at hn ⊢
  simp only [count_append, count_cons, size_group, count_nil] at hn
  have hsignature := Signature.takes_signature h.1.2 (n := n) (by omega)
    (Grammar.endsSignature_curly (f.body.flatMap Stmt.emitted) rest)
  have hbody := Grammar.takes_attributedBlock h.2 (n := n) (by omega) rest
  rw [List.append_assoc]
  exact hsignature.bind ((takes_takeIf rfl).bind hbody)

theorem takes_item {f : Function} (h : f.isGrammatical) {n : Nat} (hn : 4 * count f.emitted ≤ n)
    (rest : List Token) : Takes (Grammar.item (Grammar.parts n)) (f.emitted ++ rest) () rest := by
  have hcount := f.count_tokensAfterAttributes_le
  have hdefinition := takes_definition h (n := n) (by omega) rest
  obtain ⟨ts, hts⟩ : ∃ ts, f.tokensAfterAttributes ++ rest = .word "fn" :: ts := ⟨_, rfl⟩
  rw [emitted_append, hts]
  rw [hts] at hdefinition
  obtain ⟨any, hattributes⟩ := (areAttributes h (Grammar.parts n)).takes_outerAttributes
    (Grammar.has_hash_access (access_mem h) ts)
  obtain ⟨seen, hvisibility⟩ := Grammar.takes_visibility (access_mem h) ts
  refine hattributes.bind ?_
  refine (Grammar.takes_afterVisibility hvisibility (Grammar.takes_signatureAhead_fn ts)).bind ?_
  exact hvisibility.bind hdefinition

theorem takes_implMember {f : Function} (h : f.isGrammatical) {n : Nat}
    (hn : 4 * count f.emitted ≤ n) (rest : List Token) :
    Takes (Grammar.implMember (Grammar.parts n)) (f.emitted ++ rest) () rest := by
  have hcount := f.count_tokensAfterAttributes_le
  have hdefinition := takes_definition h (n := n) (by omega) rest
  obtain ⟨ts, hts⟩ : ∃ ts, f.tokensAfterAttributes ++ rest = .word "fn" :: ts := ⟨_, rfl⟩
  rw [emitted_append, hts]
  rw [hts] at hdefinition
  obtain ⟨any, hattributes⟩ := (areAttributes h (Grammar.parts n)).takes_outerAttributes
    (Grammar.has_hash_access (access_mem h) ts)
  obtain ⟨seen, hvisibility⟩ := Grammar.takes_visibility (access_mem h) ts
  refine hattributes.bind (takes_get fun s => hvisibility.bind ((takes_ahead _).bind ?_))
  exact (takes_ahead _).bind ((Grammar.takes_signatureAhead_fn ts).bind hdefinition)

end Function

namespace Declaration

def isGrammatical (d : Declaration) : Bool :=
  d.signature.access == "" && d.signature.isGrammatical

theorem emitted_append {d : Declaration} (h : d.isGrammatical) (rest : List Token) :
    d.emitted ++ rest =
      notes d.docs ++ (d.signature.tokensAfterAccess ++ .mark ';' false :: rest) := by
  have haccess : d.signature.access = "" := beq_iff_eq.mp (Bool.and_eq_true_iff.mp h).1
  have hnone : ofText "" = [] := rfl
  simp [emitted, Signature.emitted, haccess, hnone]

theorem takes_traitMember {d : Declaration} (h : d.isGrammatical) {n : Nat}
    (hn : 4 * count d.emitted ≤ n) (rest : List Token) :
    Takes (Grammar.traitMember (Grammar.parts n)) (d.emitted ++ rest) () rest := by
  have heq := emitted_append h []
  rw [List.append_nil] at heq
  rw [heq] at hn
  simp only [count_append] at hn
  have hsignature := Signature.takes_signature (Bool.and_eq_true_iff.mp h).2 (n := n) (by omega)
    (Grammar.endsSignature_semicolon rest)
  rw [emitted_append h]
  obtain ⟨ts, hts⟩ : ∃ ts, d.signature.tokensAfterAccess ++ .mark ';' false :: rest =
    .word "fn" :: ts := ⟨_, rfl⟩
  rw [hts] at hsignature ⊢
  have hfn : has (.word "fn" :: ts) "#" = false := rfl
  obtain ⟨any, hattributes⟩ :=
    (Grammar.areAttributes_notes (Grammar.parts n) d.docs).takes_outerAttributes hfn
  have hfunction : Takes (Grammar.traitFunction (Grammar.parts n)) (.word "fn" :: ts) () rest :=
    hsignature.bind fun _ => rfl
  refine hattributes.bind (Takes.bind (fun _ => rfl) (Takes.bind (fun _ => rfl) ?_))
  refine (takes_ahead _).bind ((Grammar.takes_signatureAhead_fn ts).bind hfunction)

end Declaration

namespace Item

def isGrammatical : Item → Bool
  | trait _ name above methods =>
    areName (ofText name) && above.isTrait && above.isGrammatical &&
      methods.all Declaration.isGrammatical
  | function f => f.isGrammatical
  | wrapper name inner => areName (ofText name) && arePath (ofText inner)
  | implementation provided type methods =>
    provided.isGrammatical && arePath (ofText type) && methods.all Function.isGrammatical
  | inherent type methods => arePath (ofText type) && methods.all Function.isGrammatical

theorem takes_declarations {ds : List Declaration} (h : ds.all Declaration.isGrammatical) {n : Nat}
    (hn : 4 * count (ds.flatMap Declaration.emitted) ≤ n) (rest : List Token) :
    Takes (Grammar.members (Grammar.parts n) (Grammar.traitMember (Grammar.parts n)))
      (.group .curly (ds.flatMap Declaration.emitted) :: rest) () rest := by
  rw [List.all_eq_true] at h
  have hinner :
      Takes (Grammar.innerAttributes (Grammar.parts n)) (ds.flatMap Declaration.emitted) ()
      (ds.flatMap Declaration.emitted) := by
    cases ds with
    | nil => exact fun _ => rfl
    | cons d ds =>
      rw [List.flatMap_cons, Declaration.emitted_append (h d List.mem_cons_self)]
      exact (Grammar.areAttributes_notes _ d.docs).takes_innerAttributes rfl
  rw [List.flatMap_def] at hinner ⊢
  refine Grammar.takes_members hinner fun e he => ?_
  obtain ⟨d, hd, rfl⟩ := List.mem_map.mp he
  have hcount : count d.emitted ≤ count (ds.flatMap Declaration.emitted) :=
    count_le_count_flatMap hd
  have heq := Declaration.emitted_append (h d hd) []
  rw [List.append_nil] at heq
  refine ⟨by rw [heq]; simp, Declaration.takes_traitMember (h d hd) (by omega)⟩

theorem takes_definitions {fs : List Function} (h : fs.all Function.isGrammatical) {n : Nat}
    (hn : 4 * count (fs.flatMap Function.emitted) ≤ n) (rest : List Token) :
    Takes (Grammar.members (Grammar.parts n) (Grammar.implMember (Grammar.parts n)))
      (.group .curly (fs.flatMap Function.emitted) :: rest) () rest := by
  rw [List.all_eq_true] at h
  have hinner : Takes (Grammar.innerAttributes (Grammar.parts n)) (fs.flatMap Function.emitted) ()
      (fs.flatMap Function.emitted) := by
    cases fs with
    | nil => exact fun _ => rfl
    | cons f fs =>
      have hf := h f List.mem_cons_self
      rw [List.flatMap_cons, Function.emitted_append]
      exact (Function.areAttributes hf _).takes_innerAttributes
        (Grammar.has_hash_access (Function.access_mem hf) _)
  rw [List.flatMap_def] at hinner ⊢
  refine Grammar.takes_members hinner fun e he => ?_
  obtain ⟨f, hf, rfl⟩ := List.mem_map.mp he
  have hcount : count f.emitted ≤ count (fs.flatMap Function.emitted) := count_le_count_flatMap hf
  have heq := f.emitted_append []
  rw [List.append_nil] at heq
  exact ⟨by rw [heq]; simp [Function.tokensAfterAttributes],
    Function.takes_implMember (h f hf) (by omega)⟩

theorem takes_type {s : String} (h : arePath (ofText s)) {n : Nat}
    (hn : 4 * count (ofText s) ≤ n) {rest : List Token} (hrest : Grammar.EndsType rest) :
    ∃ form, Takes (Grammar.parts n (.type true)) (ofText s ++ rest) form rest :=
  (Ty.reads_grammatical (.named s) h).type n hn true rest hrest

theorem takes_trait {docs : List String} {name : String} {above : Ty} {methods : List Declaration}
    (h : (trait docs name above methods).isGrammatical) {n : Nat}
    (hn : 4 * count (trait docs name above methods).emitted ≤ n) (rest : List Token) :
    Takes (Grammar.item (Grammar.parts n)) ((trait docs name above methods).emitted ++ rest) ()
      rest := by
  simp only [isGrammatical, Bool.and_eq_true] at h
  obtain ⟨⟨⟨hname, htrait⟩, habove⟩, hmethods⟩ := h
  obtain ⟨t, hname, ht⟩ := Grammar.eq_of_areName hname
  rw [emitted, hname] at hn ⊢
  simp only [List.singleton_append, count_append, count_cons, size_word, size_mark, size_group,
    count_nil] at hn
  have hmembers := takes_declarations hmethods (n := n) (by omega) rest
  have hends := Grammar.endsType_curly (methods.flatMap Declaration.emitted) rest
  have hreads := above.reads_grammatical habove
  have hbound := hreads.bound htrait (n := n) (by omega) (by omega) hends false true
  obtain ⟨-, hfront⟩ := Ty.front_emitted habove
    (.group .curly (methods.flatMap Declaration.emitted) :: rest)
  have hstop := hasAny_eq_false_iff.mpr (List.forall_mem_cons.mpr
    ⟨hfront "where" (by decide),
      List.forall_mem_singleton.mpr (hfront (.group .curly) (by decide))⟩)
  have hitem := Grammar.takes_traitOrAlias ht hstop hbound hmembers
  have hhash : has (.word "pub" :: .word "trait" :: t :: .mark ':' false :: (above.emitted ++
      .group .curly (methods.flatMap Declaration.emitted) :: rest)) "#" = false := rfl
  obtain ⟨any, hattributes⟩ :=
    (Grammar.areAttributes_notes (Grammar.parts n) docs).takes_outerAttributes hhash
  have hread : Takes (Grammar.item (Grammar.parts n)) _ () rest := hattributes.bind hitem
  simpa using hread

theorem takes_item_of_itemRest {read : Grammar.Parts} {ts rest : List Token}
    (hattribute : has ts "#" = false) (h : Takes (Grammar.itemRest read) ts () rest) :
    Takes (Grammar.item read) ts () rest :=
  (Grammar.takes_outerAttributes_none hattribute).bind h

theorem takes_wrapper {name inner : String} (h : (wrapper name inner).isGrammatical) {n : Nat}
    (hn : 4 * count (wrapper name inner).emitted ≤ n) (rest : List Token) :
    Takes (Grammar.item (Grammar.parts n)) ((wrapper name inner).emitted ++ rest) () rest := by
  obtain ⟨hname, hinner⟩ := Bool.and_eq_true_iff.mp h
  obtain ⟨t, hname, ht⟩ := Grammar.eq_of_areName hname
  rw [emitted, hname] at hn ⊢
  simp only [List.singleton_append, count_cons, size_word, size_mark, size_group, count_nil] at hn
  have hends : Grammar.EndsType [] := Grammar.endsType_of_endsItem rfl
  obtain ⟨form, htype⟩ := takes_type hinner (n := n) (by omega) hends
  obtain ⟨hne, hfront⟩ := Ty.front_emitted (t := .named inner) hinner []
  rw [Ty.emitted, List.append_nil] at hne hfront
  rw [List.append_nil] at htype
  exact takes_item_of_itemRest rfl (Grammar.takes_wrapper ht hne (hfront "#" (by decide))
    (hfront "pub" (by decide)) htype rest)

theorem takes_implementation {provided : Ty} {type : String} {methods : List Function}
    (h : (implementation provided type methods).isGrammatical) {n : Nat}
    (hn : 4 * count (implementation provided type methods).emitted ≤ n) (rest : List Token) :
    Takes (Grammar.item (Grammar.parts n)) ((implementation provided type methods).emitted ++ rest)
      () rest := by
  simp only [isGrammatical, Bool.and_eq_true] at h
  obtain ⟨⟨hprovided, htype⟩, hmethods⟩ := h
  rw [emitted] at hn ⊢
  simp only [count_append, count_cons, size_word, size_group, count_nil] at hn
  have hmembers := takes_definitions hmethods (n := n) (by omega) rest
  obtain ⟨form, hof⟩ := takes_type htype (n := n) (by omega)
    (Grammar.endsType_curly (methods.flatMap Function.emitted) rest)
  obtain ⟨head, hhead⟩ := (provided.reads_grammatical hprovided).type n (by omega) true
    (.word "for" :: (ofText type ++ .group .curly (methods.flatMap Function.emitted) :: rest))
    ⟨⟨rfl, rfl⟩, rfl, rfl, rfl, rfl⟩
  obtain ⟨-, hfront⟩ := Ty.front_emitted hprovided
    (.word "for" :: (ofText type ++ .group .curly (methods.flatMap Function.emitted) :: rest))
  have hitem := takes_item_of_itemRest rfl (Grammar.takes_impl_for hfront hhead hof hmembers)
  simpa using hitem

theorem takes_inherent {type : String} {methods : List Function}
    (h : (inherent type methods).isGrammatical) {n : Nat}
    (hn : 4 * count (inherent type methods).emitted ≤ n) (rest : List Token) :
    Takes (Grammar.item (Grammar.parts n)) ((inherent type methods).emitted ++ rest) () rest := by
  obtain ⟨htype, hmethods⟩ := Bool.and_eq_true_iff.mp h
  rw [emitted] at hn ⊢
  simp only [count_append, count_cons, size_word, size_group, count_nil] at hn
  have hmembers := takes_definitions hmethods (n := n) (by omega) rest
  obtain ⟨form, hof⟩ := takes_type htype (n := n) (by omega)
    (Grammar.endsType_curly (methods.flatMap Function.emitted) rest)
  obtain ⟨-, hfront⟩ := Ty.front_emitted (t := .named type) htype
    (.group .curly (methods.flatMap Function.emitted) :: rest)
  have hitem := takes_item_of_itemRest rfl (Grammar.takes_impl_inherent hfront hof hmembers)
  simpa [Ty.emitted] using hitem

theorem takes_item {i : Item} (h : i.isGrammatical) {n : Nat} (hn : 4 * count i.emitted ≤ n)
    (rest : List Token) : Takes (Grammar.item (Grammar.parts n)) (i.emitted ++ rest) () rest := by
  cases i with
  | trait docs name above methods => exact takes_trait h hn rest
  | function f => exact Function.takes_item h hn rest
  | wrapper name inner => exact takes_wrapper h hn rest
  | implementation provided type methods => exact takes_implementation h hn rest
  | inherent type methods => exact takes_inherent h hn rest

end Item

end TypedMarkup.Code
