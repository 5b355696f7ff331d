import TypedMarkup.Proofs.Code.Outline

namespace TypedMarkup.Code

open Token

structure Method where
  head : Head
  body : List Token

structure Interface where
  name : String
  methods : List Head

structure Implementation where
  trait : String
  type : String
  methods : List Method

namespace Method

def read : List Token × Token → Option Method
  | (ts, .group .curly body) => (Head.read ts).map fun head => ⟨head, body⟩
  | _ => none

def readAll (ts : List Token) : Option (List Method) :=
  match declarations [] ts with
  | some ds => ds.mapM read
  | none => none

end Method

namespace Outline

def method? : Outline → Option Method
  | .function head body => some ⟨head, body⟩
  | _ => none

def interface? : Outline → Option Interface
  | .trait name _ methods => some ⟨name, methods⟩
  | _ => none

def inherent? : Outline → Option Interface
  | .inherent type methods => some ⟨type, methods⟩
  | _ => none

end Outline

def Implementation.read (d : List Token × Token) : Option Implementation :=
  match Outline.read d, d.2 with
  | some (.implementation [t] type _), .group .curly inner =>
    match t.name?, Method.readAll inner with
    | some trait, some methods => some ⟨trait, type, methods⟩
    | _, _ => none
  | _, _ => none

def functions (s : String) : Option (List Method) :=
  (outline s).map (·.filterMap Outline.method?)

def interfaces (s : String) : Option (List Interface) :=
  (outline s).map (·.filterMap Outline.interface?)

def inherents (s : String) : Option (List Interface) :=
  (outline s).map (·.filterMap Outline.inherent?)

def implementations (s : String) : Option (List Implementation) :=
  ((tokensOf s).bind (declarations [])).map (·.filterMap Implementation.read)

def Function.method (f : Function) : Method :=
  ⟨f.signature.head, f.body.flatMap Stmt.tokens⟩

def Item.implementation? : Item → Option Implementation
  | .implementation (.named name) type methods =>
    some ⟨name, type, methods.map Function.method⟩
  | _ => none

theorem Function.read_tokens {f : Function} (h : f.isLegible) :
    Method.read (f.signature.tokens, .group .curly (f.body.flatMap Stmt.tokens)) =
      some f.method := by
  rw [Method.read, Signature.read_tokens (f.isLegible_signature h)]
  rfl

theorem Method.readAll_functions {fs : List Function} (h : fs.all Function.isLegible) :
    readAll (fs.flatMap Function.tokens) = some (fs.map Function.method) := by
  obtain ⟨ds, hds, hread⟩ := mapM_declarations (f := Function.tokens) (g := Function.method)
    (r := read) fun f hf => by
      have hf := List.all_eq_true.mp h f hf
      exact ⟨_, _, rfl, Signature.not_ends (f.isLegible_signature hf), rfl, Function.read_tokens hf⟩
  rw [readAll, hds]
  exact hread

theorem Item.read_implementation {i : Item} (h : i.isLegible) {xs : List Token} {t : Token}
    (htokens : i.tokens = xs ++ [t]) (hread : Outline.read (xs, t) = some i.outline) :
    Implementation.read (xs, t) = i.implementation? := by
  unfold Implementation.read
  rw [hread]
  cases i with
  | implementation provided type methods =>
    simp only [isLegible, Bool.and_eq_true] at h
    obtain ⟨⟨hprovided, -⟩, hmethods⟩ := h
    have hlast : t = .group .curly (methods.flatMap Function.tokens) := by
      have hlast := congrArg List.getLast? htokens
      simpa [tokens, List.getLast?_cons, List.getLast?_append] using hlast.symm
    subst hlast
    cases provided with
    | named name =>
      obtain ⟨n, hn, hname, -⟩ := code_of_isHeadName hprovided
      simp [outline, Ty.tokens, hn, hname, Method.readAll_functions hmethods, implementation?]
    | applied f u =>
      -- A trait with a parameter is more than one token.
      obtain ⟨n, hn, -⟩ := code_of_isHeadName (Bool.and_eq_true _ _ ▸ hprovided).1
      simp [outline, Ty.tokens, hn, implementation?]
    | _ => exact absurd hprovided Bool.false_ne_true
  | trait => rfl
  | function => rfl
  | wrapper => rfl
  | inherent => rfl

theorem implementations_of_tokens {s : String} {is : List Item} (h : ∀ i ∈ is, i.isLegible)
    (htokens : tokensOf s = some (is.flatMap Item.tokens)) :
    implementations s = some (is.filterMap Item.implementation?) := by
  obtain ⟨ds, hds, hread⟩ := mapM_declarations (f := Item.tokens) (g := Item.implementation?)
    (r := fun d => some (Implementation.read d)) fun i hi => by
      obtain ⟨xs, t, hi', hxs, ht, hread⟩ := Item.outline_tokens (h i hi)
      exact ⟨xs, t, hi', hxs, ht, congrArg some (Item.read_implementation (h i hi) hi' hread)⟩
  have hall : ds.map Implementation.read = is.map Item.implementation? :=
    Option.some.inj (List.mapM_pure.symm.trans hread)
  have hfilter := congrArg (List.filterMap id) hall
  rw [List.filterMap_map, List.filterMap_map] at hfilter
  rw [implementations, htokens, Option.bind_some, hds, Option.map_some]
  exact congrArg some hfilter

end TypedMarkup.Code
