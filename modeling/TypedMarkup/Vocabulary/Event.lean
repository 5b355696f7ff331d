import TypedMarkup.Text.Lowercase
import TypedMarkup.Vocabulary.Keyed

namespace TypedMarkup

structure Event where
  key : String
  name : String
  doc : String
  deriving DecidableEq, Repr

instance : Keyed Event := ⟨Event.key, Event.name⟩

namespace Event

def dropOn : List Char → List Char
  | 'o' :: 'n' :: s => s
  | s => s

def boundName (e : Event) : String :=
  String.ofList (dropOn (Text.lower e.name.toList))

end Event

end TypedMarkup
