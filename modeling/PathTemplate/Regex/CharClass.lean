import PathTemplate.Unicode.CaseOrbit
import PathTemplate.Unicode.Character

/-! # Classes of characters in regular expressions

A class is described by how it is put together, and membership follows the description. Members
are counted by code point. -/

namespace PathTemplate.Regex

/-- A class of characters. -/
inductive CharClass
  /-- Nothing. -/
  | empty
  /-- The code points from the first to the last. -/
  | range (first last : Nat)
  /-- The code points of a table. -/
  | listed (members : Unicode.Ranges)
  /-- What belongs to either. -/
  | union (a b : CharClass)
  /-- What belongs to both. -/
  | inter (a b : CharClass)
  /-- What belongs to the first and not to the second. -/
  | diff (a b : CharClass)
  /-- What belongs to exactly one. -/
  | symmDiff (a b : CharClass)
  /-- What does not belong. -/
  | compl (a : CharClass)
  /-- What belongs in some letter case. -/
  | anyCase (a : CharClass)
  /-- What belongs in some letter case, where only the letters of ASCII have two. -/
  | anyAsciiCase (a : CharClass)

namespace CharClass

/-- The other case of an ASCII letter, and any other code point itself. -/
def swapAsciiCase (n : Nat) : Nat :=
  if 0x41 ≤ n ∧ n ≤ 0x5A then n + 0x20
  else if 0x61 ≤ n ∧ n ≤ 0x7A then n - 0x20
  else n

/-- Whether a code point belongs to a class. -/
def contains : CharClass → Nat → Bool
  | empty, _ => false
  | range first last, n => first ≤ n && n ≤ last
  | listed members, n => members.contains n
  | union a b, n => a.contains n || b.contains n
  | inter a b, n => a.contains n && b.contains n
  | diff a b, n => a.contains n && !b.contains n
  | symmDiff a b, n => a.contains n != b.contains n
  | compl a, n => !a.contains n
  | anyCase a, n => a.contains n || (Unicode.caseVariants n).any a.contains
  | anyAsciiCase a, n => a.contains n || a.contains (swapAsciiCase n)

/-- Whether a character belongs to a class. -/
def has (k : CharClass) (c : Char) : Bool := k.contains c.toNat

/-- The class of one character. -/
def single (c : Char) : CharClass := range c.toNat c.toNat

/-- The class of the characters from one to another. -/
def between (first last : Char) : CharClass := range first.toNat last.toNat

/-- What belongs to some class of a list. -/
def unionAll (classes : List CharClass) : CharClass := classes.foldr union empty

theorem has_single (c d : Char) : (single c).has d = true ↔ d = c := by
  simp only [has, single, contains, Bool.and_eq_true, decide_eq_true_eq]
  constructor
  · intro h
    exact Char.toNat_inj.1 (Nat.le_antisymm h.2 h.1)
  · rintro rfl
    simp

/-- Every character. -/
def any : CharClass := compl empty

/-- A decimal digit. -/
def digit : CharClass := listed Unicode.decimalNumber.members

/-- A blank or an end of line. -/
def blank : CharClass := listed Unicode.whiteSpace.members

/-- A character that words are made of. -/
def word : CharClass :=
  unionAll ([Unicode.alphabetic, Unicode.nonspacingMark, Unicode.spacingMark,
    Unicode.enclosingMark, Unicode.decimalNumber, Unicode.connectorPunctuation,
    Unicode.joinControl].map fun l => listed l.members)

/-- A decimal digit of ASCII. -/
def asciiDigit : CharClass := between '0' '9'

/-- A blank or an end of line of ASCII. -/
def asciiBlank : CharClass := union (single ' ') (between '\t' '\r')

/-- A character that words of ASCII text are made of. -/
def asciiWord : CharClass :=
  unionAll [between '0' '9', between 'A' 'Z', single '_', between 'a' 'z']

end CharClass

end PathTemplate.Regex
