import TypedMarkup.Text.Order

namespace TypedMarkup

class Keyed (α : Type) where
  key : α → String
  name : α → String

export Keyed (key)

section

variable {α : Type} [Keyed α]

def nameLe (a b : α) : Bool :=
  Text.le (Keyed.name a) (Keyed.name b)

-- Entries of equal name keep their order.
def sortByName (xs : List α) : List α :=
  xs.mergeSort nameLe

theorem nameLe_total (a b : α) : (nameLe a b || nameLe b a) = true :=
  Text.le_total _ _

theorem nameLe_trans (a b c : α) : nameLe a b = true → nameLe b c = true → nameLe a c = true :=
  Text.le_trans

theorem sortByName_perm (xs : List α) : (sortByName xs).Perm xs :=
  List.mergeSort_perm xs _

theorem sortByName_pairwise (xs : List α) :
    (sortByName xs).Pairwise fun a b => nameLe a b = true :=
  List.pairwise_mergeSort nameLe_trans nameLe_total xs

end

end TypedMarkup
