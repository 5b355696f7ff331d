import TypedMarkup.Text.Alphanumeric.Table

namespace TypedMarkup.Text

def isAlphanumeric (c : Char) : Bool :=
  if c.toNat < 0x80 then c.isAlphanum else Alphanumeric.ranges.has c

end TypedMarkup.Text
