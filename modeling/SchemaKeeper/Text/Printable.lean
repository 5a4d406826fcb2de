import SchemaKeeper.Text.Assigned
import SchemaKeeper.Text.Format
import SchemaKeeper.Text.Mark

/-!
Which characters a quoted text shows as they are; all others are written as
code point escapes.  A character that goes with the one before it would be
drawn on the quote or on the end of an escape.
-/

namespace SchemaKeeper.Text

/-- The sound marks of halfwidth script, which are drawn like letters. -/
def isHalfwidthSoundMark (c : Char) : Bool :=
  c == '\uFF9E' || c == '\uFF9F'

def isPrintable (c : Char) : Bool :=
  if c.toNat < 0x7F then 0x20 ≤ c.toNat
  else
    !(isControl c || isSeparator c || isFormat c || isIgnorable c) &&
      (!attaches c || isHalfwidthSoundMark c) && isAssigned c

end SchemaKeeper.Text
