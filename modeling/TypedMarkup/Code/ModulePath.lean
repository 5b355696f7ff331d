namespace TypedMarkup.Code

inductive Arguments where
  | none
  | direct
  | afterColons
  deriving DecidableEq, Repr

structure Segment where
  word : String
  arguments : Arguments
  deriving DecidableEq, Repr

structure ModulePath where
  rooted : Bool
  first : Segment
  rest : List Segment
  deriving DecidableEq, Repr

namespace ModulePath

def segments (p : ModulePath) : List Segment :=
  p.first :: p.rest

def last (p : ModulePath) : Segment :=
  p.rest.getLast?.getD p.first

def isPlain (p : ModulePath) : Bool :=
  p.segments.all fun s => s.arguments = .none

def text (p : ModulePath) : String :=
  (if p.rooted then "::" else "") ++ "::".intercalate (p.segments.map (·.word))

end ModulePath

end TypedMarkup.Code
