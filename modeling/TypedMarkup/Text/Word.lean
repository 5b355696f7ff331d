import TypedMarkup.Text.Word.Table

namespace TypedMarkup.Text

def isWordStart (c : Char) : Bool :=
  if c.toNat < 0x80 then c.isAlpha || c == '_' else Word.starting.has c

def isWordPart (c : Char) : Bool :=
  if c.toNat < 0x80 then c.isAlphanum || c == '_' else Word.continuing.has c

end TypedMarkup.Text
