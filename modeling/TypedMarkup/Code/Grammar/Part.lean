import TypedMarkup.Code.Reader

namespace TypedMarkup.Code.Grammar

inductive Precedence where
  | jump
  | assign
  | range
  | or
  | and
  | binding
  | compare
  | bitOr
  | bitXor
  | bitAnd
  | shift
  | sum
  | product
  | cast
  deriving DecidableEq, Repr

def Precedence.rank : Precedence → Nat
  | jump => 0
  | assign => 1
  | range => 2
  | or => 3
  | and => 4
  | binding => 5
  | compare => 6
  | bitOr => 7
  | bitXor => 8
  | bitAnd => 9
  | shift => 10
  | sum => 11
  | product => 12
  | cast => 13

inductive Form where
  | name
  | path
  | bound
  | range
  | openRange
  | rest
  | comparison
  | block
  | braced
  | plain
  deriving DecidableEq, Repr

inductive Part where
  | type (plus : Bool)
  | bound (capture constness : Bool)
  | expression (braces : Bool)
  | operand (braces : Bool)
  | standalone
  | operators (left : Form) (braces : Bool) (base : Precedence)
  | pattern
  | singlePattern
  | statements
  | item
  | useTree (rooted : Bool)
  | fields
  deriving DecidableEq, Repr

abbrev Parts := Part → Reader Form

end TypedMarkup.Code.Grammar
