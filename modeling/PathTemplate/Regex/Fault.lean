/-! # Faults of regular expressions -/

namespace PathTemplate.Regex

/-- Why a text is no regular expression. -/
inductive Fault
  | groupUnclosed
  | groupUnopened
  | groupName (name : String)
  | groupNameRepeated (name : String)
  | lookAround
  | flagUnknown (flag : Char)
  | flagRepeated
  | flagsUnfinished
  | repetitionOfNothing
  | repetitionCount
  | escapeUnfinished
  | escapeUnknown (c : Char)
  | backReference
  | codePoint
  | wordBoundaryUnknown
  | classUnclosed
  | classRange
  | classMember
  | propertyUnknown
  | propertyWithoutUnicode
  | bytesOutsideText
  | nestedTooDeep (limit : Nat)
  | tooLarge (limit : Nat)
  deriving DecidableEq

/-- What a fault tells the author of the expression. -/
def Fault.message : Fault → String
  | groupUnclosed => "a group is not closed"
  | groupUnopened => "a group is closed that was not opened"
  | groupName name => "a group cannot have the name " ++ name
  | groupNameRepeated name => "two groups have the name " ++ name
  | lookAround => "looking around is not supported"
  | flagUnknown flag => "there is no flag " ++ flag.toString
  | flagRepeated => "a flag or a negation is given twice"
  | flagsUnfinished => "a list of flags breaks off"
  | repetitionOfNothing => "nothing stands before a repetition"
  | repetitionCount => "the count of a repetition is not valid"
  | escapeUnfinished => "an escape breaks off"
  | escapeUnknown c => "nothing is known about the escaped character " ++ c.toString
  | backReference => "references to groups are not supported"
  | codePoint => "an escape gives no code point of a character"
  | wordBoundaryUnknown => "a word boundary of an unknown kind"
  | classUnclosed => "a class of characters is not closed"
  | classRange => "a range ends before it starts or has no characters as its ends"
  | classMember => "this cannot be a member of a class of characters"
  | propertyUnknown => "no property of characters has this name"
  | propertyWithoutUnicode => "properties of characters need Unicode"
  | bytesOutsideText => "this would match bytes that are no character"
  | nestedTooDeep limit => "groups and classes nest deeper than " ++ toString limit
  | tooLarge limit => "the expression takes more than " ++ toString limit ++ " bytes"

end PathTemplate.Regex
