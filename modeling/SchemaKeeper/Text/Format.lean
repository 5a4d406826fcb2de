import SchemaKeeper.Text.Ranges

/-!
Characters that direct how text is laid out and are not drawn themselves.
-/

namespace SchemaKeeper.Text

/-- Joiners, direction signs, tags and their like. -/
def formatRanges : Ranges := [
  (0xad, 0xad), (0x600, 0x605), (0x61c, 0x61c), (0x6dd, 0x6dd), (0x70f, 0x70f), (0x890, 0x891),
  (0x8e2, 0x8e2), (0x180e, 0x180e), (0x200b, 0x200f), (0x202a, 0x202e), (0x2060, 0x2064),
  (0x2066, 0x206f), (0xfeff, 0xfeff), (0xfff9, 0xfffb), (0x110bd, 0x110bd), (0x110cd, 0x110cd),
  (0x13430, 0x1343f), (0x1bca0, 0x1bca3), (0x1d173, 0x1d17a), (0xe0001, 0xe0001),
  (0xe0020, 0xe007f)]

/-- Characters that nothing is drawn for where they are not supported. -/
def ignorableRanges : Ranges := [
  (0xad, 0xad), (0x34f, 0x34f), (0x61c, 0x61c), (0x115f, 0x1160), (0x17b4, 0x17b5),
  (0x180b, 0x180f), (0x200b, 0x200f), (0x202a, 0x202e), (0x2060, 0x206f), (0x3164, 0x3164),
  (0xfe00, 0xfe0f), (0xfeff, 0xfeff), (0xffa0, 0xffa0), (0xfff0, 0xfff8), (0x1bca0, 0x1bca3),
  (0x1d173, 0x1d17a), (0xe0000, 0xe0fff)]

/-- Spaces other than the common one, and separators of lines and paragraphs. -/
def separatorRanges : Ranges := [
  (0xa0, 0xa0), (0x1680, 0x1680), (0x2000, 0x200a), (0x2028, 0x2029), (0x202f, 0x202f),
  (0x205f, 0x205f), (0x3000, 0x3000)]

def isFormat (c : Char) : Bool :=
  formatRanges.has c

def isIgnorable (c : Char) : Bool :=
  ignorableRanges.has c

def isSeparator (c : Char) : Bool :=
  separatorRanges.has c

def isControl (c : Char) : Bool :=
  c.toNat < 0x20 || 0x7F ≤ c.toNat && c.toNat < 0xA0

end SchemaKeeper.Text
