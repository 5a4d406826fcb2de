import SchemaKeeper.Text.Joining
import SchemaKeeper.Text.Pictograph
import SchemaKeeper.Text.Printable

/-!
How many columns a text takes on a terminal.

Most characters take one column.  Ideographs, pictures and their like take two,
and marks that attach to the character before them take none.  A selector turns
a symbol into a picture or back, pictures tied by joiners are drawn as one, and
in some scripts so are certain letters.  As a character may be drawn as one
with what follows it, a text is measured from its end.
-/

namespace SchemaKeeper.Text

def wideRanges : Ranges := [
  (0x1100, 0x115f), (0x231a, 0x231b), (0x2329, 0x232a), (0x23e9, 0x23ec), (0x23f0, 0x23f0),
  (0x23f3, 0x23f3), (0x25fd, 0x25fe), (0x2614, 0x2615), (0x2630, 0x2637), (0x2648, 0x2653),
  (0x267f, 0x267f), (0x268a, 0x268f), (0x2693, 0x2693), (0x26a1, 0x26a1), (0x26aa, 0x26ab),
  (0x26bd, 0x26be), (0x26c4, 0x26c5), (0x26ce, 0x26ce), (0x26d4, 0x26d4), (0x26ea, 0x26ea),
  (0x26f2, 0x26f3), (0x26f5, 0x26f5), (0x26fa, 0x26fa), (0x26fd, 0x26fd), (0x2705, 0x2705),
  (0x270a, 0x270b), (0x2728, 0x2728), (0x274c, 0x274c), (0x274e, 0x274e), (0x2753, 0x2755),
  (0x2757, 0x2757), (0x2795, 0x2797), (0x27b0, 0x27b0), (0x27bf, 0x27bf), (0x2b1b, 0x2b1c),
  (0x2b50, 0x2b50), (0x2b55, 0x2b55), (0x2e80, 0x2e99), (0x2e9b, 0x2ef3), (0x2f00, 0x2fd5),
  (0x2ff0, 0x303e), (0x3041, 0x3096), (0x309b, 0x30ff), (0x3105, 0x312f), (0x3131, 0x318e),
  (0x3190, 0x31e5), (0x31ef, 0x321e), (0x3220, 0x3247), (0x3250, 0xa48c), (0xa490, 0xa4c6),
  (0xa960, 0xa97c), (0xac00, 0xd7a3), (0xf900, 0xfaff), (0xfe10, 0xfe19), (0xfe30, 0xfe52),
  (0xfe54, 0xfe66), (0xfe68, 0xfe6b), (0xff01, 0xff60), (0xffe0, 0xffe6), (0x16fe0, 0x16fe3),
  (0x16ff2, 0x16ff6), (0x17000, 0x18cd5), (0x18cff, 0x18d1e), (0x18d80, 0x18df2),
  (0x1aff0, 0x1aff3), (0x1aff5, 0x1affb), (0x1affd, 0x1affe), (0x1b000, 0x1b122),
  (0x1b132, 0x1b132), (0x1b150, 0x1b152), (0x1b155, 0x1b155), (0x1b164, 0x1b167),
  (0x1b170, 0x1b2fb), (0x1d300, 0x1d356), (0x1d360, 0x1d376), (0x1f004, 0x1f004),
  (0x1f0cf, 0x1f0cf), (0x1f18e, 0x1f18e), (0x1f191, 0x1f19a), (0x1f200, 0x1f202),
  (0x1f210, 0x1f23b), (0x1f240, 0x1f248), (0x1f250, 0x1f251), (0x1f260, 0x1f265),
  (0x1f300, 0x1f320), (0x1f32d, 0x1f335), (0x1f337, 0x1f37c), (0x1f37e, 0x1f393),
  (0x1f3a0, 0x1f3ca), (0x1f3cf, 0x1f3d3), (0x1f3e0, 0x1f3f0), (0x1f3f4, 0x1f3f4),
  (0x1f3f8, 0x1f43e), (0x1f440, 0x1f440), (0x1f442, 0x1f4fc), (0x1f4ff, 0x1f53d),
  (0x1f54b, 0x1f54e), (0x1f550, 0x1f567), (0x1f57a, 0x1f57a), (0x1f595, 0x1f596),
  (0x1f5a4, 0x1f5a4), (0x1f5fb, 0x1f64f), (0x1f680, 0x1f6c5), (0x1f6cc, 0x1f6cc),
  (0x1f6d0, 0x1f6d2), (0x1f6d5, 0x1f6d8), (0x1f6dc, 0x1f6df), (0x1f6eb, 0x1f6ec),
  (0x1f6f4, 0x1f6fc), (0x1f7e0, 0x1f7eb), (0x1f7f0, 0x1f7f0), (0x1f90c, 0x1f93a),
  (0x1f93c, 0x1f945), (0x1f947, 0x1f9ff), (0x1fa70, 0x1fa7c), (0x1fa80, 0x1fa8a),
  (0x1fa8e, 0x1fac6), (0x1fac8, 0x1fac8), (0x1facd, 0x1fadc), (0x1fadf, 0x1faea),
  (0x1faef, 0x1faf8), (0x20000, 0x2fffd), (0x30000, 0x3fffd)]

/-- Characters besides marks and ignorable ones that take no column. -/
def columnlessRanges : Ranges := [
  (0x605, 0x605), (0x70f, 0x70f), (0x890, 0x891), (0x8e2, 0x8e2), (0x1161, 0x11ff),
  (0xa8fa, 0xa8fa), (0xd7b0, 0xd7c6), (0xd7cb, 0xd7fb)]

/-! ## Letters that share a column -/

/-- Letters that are drawn as one with certain characters in front of them. -/
inductive SharingLetter where
  /-- Arabic, behind a lam. -/
  | alef
  /-- Hebrew, behind an alef and a joiner. -/
  | lamed
  /-- Buginese, behind a vowel sign and a joiner. -/
  | ya
  | yaWithVowel
  /-- Tifinagh, behind another consonant. -/
  | consonant
  | consonantWithSign
  /-- Lisu tones of the second half, behind one of the first. -/
  | tone
  /-- Old Turkic, behind a consonant and a joiner. -/
  | orkhon
  /-- Khmer, under another letter. -/
  | subscript
  deriving DecidableEq, Repr

def isBetween (first last : Nat) (c : Char) : Bool :=
  first ≤ c.toNat && c.toNat ≤ last

def isAlef (c : Char) : Bool :=
  Ranges.has [(0x622, 0x623), (0x625, 0x625), (0x627, 0x627), (0x671, 0x673), (0x675, 0x675),
    (0x773, 0x774), (0x870, 0x882)] c

def isLam (c : Char) : Bool :=
  Ranges.has [(0x644, 0x644), (0x6B5, 0x6B8), (0x76A, 0x76A), (0x8A6, 0x8A6), (0x8C7, 0x8C7)] c

def isTifinagh (c : Char) : Bool :=
  isBetween 0x2D31 0x2D65 c || c == '\u2D6F'

/-- Khmer letters that have a form below other letters. -/
def hasSubscript (c : Char) : Bool :=
  Ranges.has [(0x1780, 0x1782), (0x1784, 0x1787), (0x1789, 0x178C), (0x178E, 0x1793),
    (0x1795, 0x1798), (0x179B, 0x179D), (0x17A0, 0x17A0), (0x17A2, 0x17A2), (0x17A7, 0x17A7),
    (0x17AB, 0x17AC), (0x17AF, 0x17AF)] c

def sharingLetter? (c : Char) : Option SharingLetter :=
  if isAlef c then some .alef
  else if c = '\u05DC' then some .lamed
  else if c = '\u1A10' then some .ya
  else if isTifinagh c then some .consonant
  else if isBetween 0xA4FC 0xA4FD c then some .tone
  else if c.toNat = 0x10C03 then some .orkhon
  else if hasSubscript c then some .subscript
  else none

/-! ## What follows a character -/

/-- What stands behind a character, as far as the character's columns depend on it. -/
inductive Follower where
  | other
  /-- `joined` tells whether a joiner stands in front of the letter. -/
  | letter (letter : SharingLetter) (joined : Bool)
  | picture
  | skinTone
  | region (several : Bool)
  | joinedPicture
  | joinedKeycap
  | joinedRegion
  | joinedRegions (even : Bool)
  /-- The end of the name of a flag, whose letters come in front of its digits. -/
  | tags (letters digits : Nat)
  /-- Vowel signs of Kirat Rai, which grow out of each other. -/
  | vowelE
  | vowelAi
  deriving DecidableEq, Repr

namespace Follower

def isJoinedPicture : Follower → Bool
  | joinedPicture | joinedKeycap => true
  | _ => false

/-- What is left when a selector had no effect. -/
def withoutSelector : Follower → Follower
  | letter shared joined => letter shared joined
  | _ => other

end Follower

/-- How the character in front is to be drawn. -/
inductive Selector where
  | picture
  | text
  | wideQuote
  deriving DecidableEq, Repr

def selector? (c : Char) : Option Selector :=
  if c = '\uFE0F' then some .picture
  else if c = '\uFE0E' then some .text
  else if c = '\uFE01' then some .wideQuote
  else none

structure Context where
  follower : Follower
  selector : Option Selector
  deriving DecidableEq, Repr

def Follower.select (selector : Selector) (follower : Follower) : Context :=
  if selector = .picture ∧ follower.isJoinedPicture then ⟨follower, some selector⟩
  else ⟨follower.withoutSelector, some selector⟩

/-! ## Columns -/

/-- The columns of a character where nothing else has a say. -/
def columnsAlone (c : Char) : Nat :=
  if c.toNat ≤ 0xA0 then 1
  else if c = '\u2D7F' ∨ isHalfwidthSoundMark c then 1
  else if c = '\u115F' ∨ c = '\u17A4' then 2
  else if c = '\u17D8' then 3
  else if isIgnorable c || attaches c || columnlessRanges.has c then 0
  else if wideRanges.has c then 2
  else 1

/-- What a character is to those in front of it. -/
def followerOf (c : Char) : Follower :=
  if isTone c then .skinTone
  else if isRegionLetter c then .region false
  else if isPictograph c then .picture
  else if c.toNat = 0x16D67 then .vowelE
  else if c.toNat = 0x16D68 then .vowelAi
  else
    match sharingLetter? c with
    | some shared => .letter shared false
    | none => .other

def joiner : Char := '\u200D'

/-- Characters that do not come between a letter and one it shares its column with. -/
def isSharedAcross (c : Char) : Bool :=
  Ranges.has [(0x34F, 0x34F), (0x17B4, 0x17B5), (0x180B, 0x180D), (0x180F, 0x180F),
    (0xFE00, 0xFE0F), (0xE0100, 0xE01EF)] c

/-- The columns that a character adds in front of a letter that it is drawn as one with. -/
def shareLetter (c : Char) (shared : SharingLetter) (joined : Bool) : Option (Int × Follower) :=
  if shared = .alef then
    if isLam c then some (0, .other)
    else if columnsAlone c = 0 ∧ isTransparent c then some (0, .letter .alef false)
    else none
  else if c = joiner then some (0, .letter shared true)
  else if isSharedAcross c then some (0, .letter shared joined)
  else
    match shared with
    | .alef => none
    | .lamed => if joined ∧ c = '\u05D0' then some (0, .other) else none
    | .ya => if joined ∧ c = '\u1A17' then some (0, .letter .yaWithVowel true) else none
    | .yaWithVowel => if c = '\u1A15' then some (0, .other) else none
    | .consonant =>
        if c = '\u2D7F' then some (1, .letter .consonantWithSign true)
        else if joined ∧ isTifinagh c then some (0, .other)
        else none
    | .consonantWithSign => if isTifinagh c then some (-1, .other) else none
    | .tone => if isBetween 0xA4F8 0xA4FB c then some (0, .other) else none
    | .orkhon => if joined ∧ c.toNat = 0x10C32 then some (0, .other) else none
    | .subscript => if c = '\u17D2' then some (-1, .other) else none

/-- The columns that a character adds in front of a picture that a joiner ties it to. -/
def shareJoined (c : Char) : Option (Int × Follower) :=
  if c = '\u20E3' then some (0, .joinedKeycap)
  else if isRegionLetter c then some (1, .joinedRegion)
  else if isTone c then some (0, .skinTone)
  else if c.toNat = 0xE007F then some (0, .tags 0 0)
  else if isPictograph c then some (0, .picture)
  else none

/-- The name of a flag has up to six letters, or up to four and then three digits. -/
def shareTags (c : Char) (letters digits : Nat) : Option (Int × Follower) :=
  if isBetween 0xE0061 0xE007A c ∧ digits = 0 ∧ letters < 6 then some (0, .tags (letters + 1) 0)
  else if isBetween 0xE0030 0xE0039 c ∧ (if digits = 0 then letters ≤ 4 else digits < 3) then
    some (0, .tags letters (digits + 1))
  else if c.toNat = 0x1F3F4 ∧ (if digits = 0 then 3 ≤ letters else digits = 3) then
    some (0, .picture)
  else none

/-- The columns that a character adds where it is drawn as one with its follower. -/
def share (c : Char) : Follower → Option (Int × Follower)
  | .other | .joinedKeycap => none
  | .letter shared joined => shareLetter c shared joined
  | .picture => if c = joiner then some (0, .joinedPicture) else none
  | .skinTone =>
      if takesTone c then some (0, .picture)
      else if c = joiner then some (0, .joinedPicture)
      else none
  | .region several =>
      if isRegionLetter c then some (1, .region true)
      else if several ∧ c = joiner then some (0, .joinedPicture)
      else none
  | .joinedPicture => shareJoined c
  | .joinedRegion => if isRegionLetter c then some (-1, .joinedRegions true) else none
  | .joinedRegions even =>
      if isRegionLetter c then some (if even then 3 else -1, .joinedRegions !even)
      else if c = joiner then some (0, .joinedPicture)
      else none
  | .tags letters digits => shareTags c letters digits
  | .vowelE =>
      if c.toNat = 0x16D63 ∨ c.toNat = 0x16D69 then some (0, .other)
      else if c.toNat = 0x16D67 then some (0, .vowelAi)
      else if c.toNat = 0x16D68 then some (1, .vowelE)
      else none
  | .vowelAi => if c.toNat = 0x16D63 then some (0, .other) else none

/-- The columns that a character adds where no selector takes effect on it. -/
def advanceUnselected (c : Char) (follower : Follower) : Int × Context :=
  if c.toNat ≤ 0xA0 then (1, ⟨.other, none⟩)
  else
    match selector? c with
    | some selector => (0, follower.select selector)
    | none =>
        let (columns, next) := (share c follower).getD (columnsAlone c, followerOf c)
        (columns, ⟨next, none⟩)

/-- The columns that a character adds to what stands behind it, and what then stands there. -/
def advance (c : Char) (context : Context) : Int × Context :=
  match context.selector with
  | none => advanceUnselected c context.follower
  | some .picture =>
      if isSelectable c then
        (if context.follower.isJoinedPicture then 0 else 2, ⟨.picture, none⟩)
      else advanceUnselected c context.follower.withoutSelector
  | some .text =>
      if narrowsAsText c then (1, ⟨.other, none⟩)
      else advanceUnselected c context.follower.withoutSelector
  | some .wideQuote =>
      if Ranges.has [(0x2018, 0x2019), (0x201C, 0x201D)] c then (2, ⟨.other, none⟩)
      else advanceUnselected c context.follower.withoutSelector

def width (text : String) : Nat :=
  let (total, _) := text.toList.foldr (fun c (total, context) =>
    let (columns, context) := advance c context
    (total + columns, context)) ((0 : Int), (⟨.other, none⟩ : Context))
  total.toNat

end SchemaKeeper.Text
