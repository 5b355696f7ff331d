namespace TypedMarkup.Path

def isRooted (p : String) : Bool :=
  p.toList.head? == some '/'

def endsInSlash (p : String) : Bool :=
  p.toList.getLast? == some '/'

def join (dir name : String) : String :=
  if isRooted name then name
  else if dir = "" ∨ endsInSlash dir then dir ++ name
  else dir ++ "/" ++ name

def split : List Char → List (List Char)
  | [] => [[]]
  | c :: s =>
    if c = '/' then [] :: split s
    else match split s with
      | [] => [[c]]
      | p :: ps => (c :: p) :: ps

theorem split_ne_nil (s : List Char) : split s ≠ [] := by
  cases s with
  | nil => simp [split]
  | cons c s =>
    by_cases h : c = '/'
    · simp [split, h]
    · simp only [split, h, if_false]
      cases split s <;> simp

theorem split_append (s t : List Char) : split (s ++ '/' :: t) = split s ++ split t := by
  induction s with
  | nil => simp [split]
  | cons c s ih =>
    by_cases h : c = '/'
    · simp [split, h, ih]
    · simp only [List.cons_append, split, h, if_false, ih]
      cases hs : split s with
      | nil => exact absurd hs (split_ne_nil s)
      | cons p ps => simp

def parts (p : String) : List (List Char) :=
  (split p.toList).filter (· ≠ [])

def named (ps : List (List Char)) : List String :=
  (ps.filter (· ≠ ['.'])).map String.ofList

def names (p : String) : List String :=
  named (parts p)

-- A dot counts only where a path starts with it.
def startsWithDot (p : String) : Bool :=
  (split p.toList).head? == some ['.']

end TypedMarkup.Path
