import TypedMarkup.Text.Blank

namespace TypedMarkup

def proseChars (doc : List Char) : List (List Char) :=
  ((Text.lines (Text.trim doc)).map Text.trim).filter (· ≠ [])

def prose (doc : String) : List String :=
  (proseChars doc.toList).map String.ofList

def trimmed (doc : String) : String :=
  String.ofList (Text.trim doc.toList)

def describe (name doc : String) : String :=
  let said := trimmed doc
  if said = "" then name else name ++ " " ++ said

end TypedMarkup
