import PathTemplate.Unicode.Binary
import PathTemplate.Unicode.Category

/-! # Classes of characters

The tests that names, quoting and matching make on single characters. ASCII is decided first and
without a table. -/

namespace PathTemplate

/-- Whether the character belongs to a table. -/
def Unicode.Listing.has (l : Unicode.Listing) (c : Char) : Bool :=
  l.members.contains c.toNat

namespace Character
open Unicode

def isAscii (c : Char) : Bool := c.toNat < 0x80

/-- A letter, or a mark that works as one. -/
def isAlphabetic (c : Char) : Bool :=
  c.isAlpha || (!isAscii c && alphabetic.has c)

/-- A decimal digit or any other number character. -/
def isNumeric (c : Char) : Bool :=
  c.isDigit || (!isAscii c &&
    (decimalNumber.has c || letterNumber.has c || otherNumber.has c))

def isAlphanumeric (c : Char) : Bool :=
  isAlphabetic c || isNumeric c

/-- A blank or an end of line. -/
def isBlank (c : Char) : Bool :=
  if isAscii c then c = ' ' || ('\t' ≤ c && c ≤ '\r') else whiteSpace.has c

/-- A character that words are made of. -/
def isWord (c : Char) : Bool :=
  if isAscii c then c.isAlphanum || c = '_'
  else alphabetic.has c || nonspacingMark.has c || spacingMark.has c || enclosingMark.has c ||
    decimalNumber.has c || connectorPunctuation.has c || joinControl.has c

/-- A character that words of ASCII text are made of. -/
def isAsciiWord (c : Char) : Bool :=
  c.isAlphanum || c = '_'

/-- A character that combines with the one before it and would be lost next to a quote. -/
def extendsGrapheme (c : Char) : Bool :=
  !isAscii c && graphemeExtend.has c

/-- The categories of characters that do not show themselves, outside of ASCII. -/
def hiddenCategories : List Listing :=
  [control, format, privateUse, unassigned, lineSeparator, paragraphSeparator, spaceSeparator]

/-- A character that shows itself: no control, no format character, no separator but the
space, and nothing unassigned or of private use. -/
def isPrintable (c : Char) : Bool :=
  if isAscii c then ' ' ≤ c && c ≤ '~' else hiddenCategories.all (!·.has c)

end Character

end PathTemplate
