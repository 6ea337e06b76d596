import PathTemplate.Regex.CharClass

/-! # The kernel of regular expressions

What an expression matches, with flags worked in and repetitions reduced to a few forms. -/

namespace PathTemplate.Regex

/-- What an assertion asks of the place between two characters. -/
inductive Assertion
  | textStart
  | textEnd
  /-- The start of the text or of a line, which ends with a line feed. -/
  | lineStart
  | lineEnd
  /-- The start of the text or of a line, which ends with a carriage return, a line feed, or
  both. -/
  | anyLineStart
  | anyLineEnd
  | wordBoundary (ascii : Bool)
  | noWordBoundary (ascii : Bool)
  | wordStart (ascii : Bool)
  | wordEnd (ascii : Bool)
  | wordStartHalf (ascii : Bool)
  | wordEndHalf (ascii : Bool)
  deriving DecidableEq

namespace Assertion

/-- Whether a character, if there is one, belongs to a word. -/
def inWord (ascii : Bool) (c : Option Char) : Bool :=
  c.any fun c => if ascii then Character.isAsciiWord c else Character.isWord c

/-- Whether an assertion holds between two characters. There is none before the start and behind
the end of the text. -/
def holds (a : Assertion) (before after : Option Char) : Bool :=
  match a with
  | textStart => before.isNone
  | textEnd => after.isNone
  | lineStart => before.isNone || before == some '\n'
  | lineEnd => after.isNone || after == some '\n'
  | anyLineStart =>
    before.isNone || before == some '\n' || (before == some '\r' && after != some '\n')
  | anyLineEnd =>
    after.isNone || after == some '\r' || (after == some '\n' && before != some '\r')
  | wordBoundary ascii => inWord ascii before != inWord ascii after
  | noWordBoundary ascii => inWord ascii before == inWord ascii after
  | wordStart ascii => !inWord ascii before && inWord ascii after
  | wordEnd ascii => inWord ascii before && !inWord ascii after
  | wordStartHalf ascii => !inWord ascii before
  | wordEndHalf ascii => !inWord ascii after

end Assertion

/-- A regular expression of the kernel. -/
inductive Core
  /-- The empty text. -/
  | empty
  /-- One character of a class. -/
  | one (k : CharClass)
  /-- The empty text at a place where an assertion holds. -/
  | assert (a : Assertion)
  /-- The first, then the second. -/
  | cat (first second : Core)
  /-- The first if it leads to a match, else the second. -/
  | alt (first second : Core)
  /-- Exactly `n` times. -/
  | times (n : Nat) (body : Core)
  /-- At most `n` times: as often as possible if greedy, else as rarely as possible. -/
  | upTo (n : Nat) (greedy : Bool) (body : Core)
  /-- Once or more often. -/
  | plus (greedy : Bool) (body : Core)
  /-- The text of a capturing group. -/
  | capture (index : Nat) (body : Core)

namespace Core

/-- Expressions one after the other. -/
def catAll : List Core → Core
  | [] => empty
  | [e] => e
  | e :: rest => cat e (catAll rest)

/-- Expressions of which the first that leads to a match counts. -/
def altAll : List Core → Core
  | [] => empty
  | [e] => e
  | e :: rest => alt e (altAll rest)

/-- Whether nothing but the empty text can match. -/
def isBlank : Core → Bool
  | empty => true
  | one _ => false
  | assert _ => true
  | cat first second => first.isBlank && second.isBlank
  | alt first second => first.isBlank && second.isBlank
  | times _ body => body.isBlank
  | upTo _ _ body => body.isBlank
  | plus _ body => body.isBlank
  | capture _ body => body.isBlank

/-- A repetition between bounds. Where nothing bounds it from above, the last repetition that
has to be there is the one that goes on. The empty text is not repeated. -/
def repetition (min : Nat) (max : Option Nat) (greedy : Bool) (body : Core) : Core :=
  let min := if body.isBlank then Min.min min 1 else min
  let max := if body.isBlank then some (Min.min (max.getD 1) 1) else max
  match min, max with
  | 0, none => upTo 1 greedy (plus greedy body)
  | 1, none => plus greedy body
  | n + 2, none => cat (times (n + 1) body) (plus greedy body)
  | 0, some max => upTo max greedy body
  | n + 1, some max =>
    if max ≤ n + 1 then times (n + 1) body
    else cat (times (n + 1) body) (upTo (max - (n + 1)) greedy body)

end Core

end PathTemplate.Regex
