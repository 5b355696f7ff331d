import TypedMarkup.Text.Quoted
import TypedMarkup.Vocabulary.Attribute
import TypedMarkup.Vocabulary.Event

namespace TypedMarkup

structure MissingKey where
  catalog : String
  key : String
  deriving DecidableEq, Repr

def MissingKey.message (e : MissingKey) : String :=
  "unknown " ++ e.catalog ++ " key: " ++ Text.quoted e.key

section

variable {α : Type} [Keyed α]

def firsts : List α → List α
  | [] => []
  | x :: xs => x :: (firsts xs).filter fun y => key y != key x

theorem firsts_nodup (xs : List α) : ((firsts xs).map key).Nodup := by
  induction xs with
  | nil => simp [firsts]
  | cons x xs ih =>
    simp only [firsts, List.map_cons, List.nodup_cons, List.mem_map, List.mem_filter, bne_iff_ne]
    refine ⟨?_, ih.sublist ((List.filter_sublist).map key)⟩
    rintro ⟨y, ⟨_, hy⟩, h⟩
    exact hy h

theorem find?_firsts (xs : List α) (k : String) :
    (firsts xs).find? (key · == k) = xs.find? (key · == k) := by
  induction xs with
  | nil => rfl
  | cons x xs ih =>
    simp only [firsts, List.find?_cons]
    cases hx : key x == k with
    | true => rfl
    | false =>
      have h₂ : key x ≠ k := by simpa using hx
      have h : (fun y => decide ((key y != key x) = true ∧ (key y == k) = true)) =
          fun y : α => key y == k := by
        funext y
        by_cases hy : key y = k
        · simp [hy, Ne.symm h₂]
        · simp [hy]
      rw [← ih, List.find?_filter, h]

end

structure Catalog (α : Type) [Keyed α] where
  name : String
  entries : List α
  nodup : (entries.map key).Nodup

namespace Catalog

variable {α : Type} [Keyed α]

def ofList (name : String) (xs : List α) : Catalog α :=
  ⟨name, firsts xs, firsts_nodup xs⟩

def size (c : Catalog α) : Nat :=
  c.entries.length

def get? (c : Catalog α) (k : String) : Option α :=
  c.entries.find? (key · == k)

def get (c : Catalog α) (k : String) : Except MissingKey α :=
  match c.get? k with
  | some x => .ok x
  | none => .error ⟨c.name, k⟩

def getAll (c : Catalog α) : List String → Except MissingKey (List α)
  | [] => .ok []
  | k :: ks =>
    match c.get k, c.getAll ks with
    | .error e, _ => .error e
    | .ok _, .error e => .error e
    | .ok x, .ok xs => .ok (x :: xs)

def resolve (c : Catalog α) (ks : List String) : Except MissingKey (List α) :=
  (c.getAll ks).map sortByName

theorem get?_ofList (name : String) (xs : List α) (k : String) :
    (ofList name xs).get? k = xs.find? (key · == k) :=
  find?_firsts xs k

end Catalog

end TypedMarkup
