import PathTemplate.Json.Value

/-! # Writing JSON

The compact form has no blanks. The laid out form puts every item and member on a line of its
own, two blanks deeper than what it belongs to, and leaves empty arrays and objects closed. -/

namespace PathTemplate.Json

/-- The last hexadecimal digit of a number, in lower case. -/
def hexDigit (n : Nat) : Char := Nat.digitChar (n % 16)

/-- How one character stands in a string: a quote, a backslash and the control characters are
escaped, the latter by a letter where they have one. -/
def escape (c : Char) : List Char :=
  if c = '"' then ['\\', '"']
  else if c = '\\' then ['\\', '\\']
  else if c = '\x08' then ['\\', 'b']
  else if c = '\t' then ['\\', 't']
  else if c = '\n' then ['\\', 'n']
  else if c = '\x0c' then ['\\', 'f']
  else if c = '\r' then ['\\', 'r']
  else if c < ' ' then ['\\', 'u', '0', '0', hexDigit (c.toNat / 16), hexDigit c.toNat]
  else [c]

/-- A text as a JSON string. -/
def quote (s : String) : List Char :=
  '"' :: s.toList.flatMap escape ++ ['"']

mutual

/-- A value without blanks. -/
def compactChars : Json → List Char
  | null => ['n', 'u', 'l', 'l']
  | bool true => ['t', 'r', 'u', 'e']
  | bool false => ['f', 'a', 'l', 's', 'e']
  | number literal => literal.toList
  | string value => quote value
  | array items => '[' :: compactItems items ++ [']']
  | object members => '{' :: compactMembers members ++ ['}']

/-- Items with commas between them. -/
def compactItems : List Json → List Char
  | [] => []
  | [item] => compactChars item
  | item :: rest => compactChars item ++ ',' :: compactItems rest

/-- Members with commas between them. -/
def compactMembers : List (String × Json) → List Char
  | [] => []
  | [(name, value)] => quote name ++ ':' :: compactChars value
  | (name, value) :: rest =>
    quote name ++ ':' :: compactChars value ++ ',' :: compactMembers rest

end

/-- A value without blanks. -/
def compact (j : Json) : String := String.ofList j.compactChars

/-- A line end and the blanks of a depth. -/
def newline (depth : Nat) : List Char := '\n' :: List.replicate (2 * depth) ' '

mutual

/-- A value laid out on lines. -/
def prettyChars (depth : Nat) : Json → List Char
  | array (item :: rest) =>
    '[' :: newline (depth + 1) ++ prettyChars (depth + 1) item ++ prettyItems depth rest
  | object ((name, value) :: rest) =>
    '{' :: newline (depth + 1) ++ quote name ++ [':', ' '] ++ prettyChars (depth + 1) value ++
      prettyMembers depth rest
  | array [] => ['[', ']']
  | object [] => ['{', '}']
  | null => ['n', 'u', 'l', 'l']
  | bool true => ['t', 'r', 'u', 'e']
  | bool false => ['f', 'a', 'l', 's', 'e']
  | number literal => literal.toList
  | string value => quote value

/-- The items after the first one and the end of the array. -/
def prettyItems (depth : Nat) : List Json → List Char
  | [] => newline depth ++ [']']
  | item :: rest =>
    ',' :: newline (depth + 1) ++ prettyChars (depth + 1) item ++ prettyItems depth rest

/-- The members after the first one and the end of the object. -/
def prettyMembers (depth : Nat) : List (String × Json) → List Char
  | [] => newline depth ++ ['}']
  | (name, value) :: rest =>
    ',' :: newline (depth + 1) ++ quote name ++ [':', ' '] ++ prettyChars (depth + 1) value ++
      prettyMembers depth rest

end

/-- A value laid out on lines. -/
def pretty (j : Json) : String := String.ofList (j.prettyChars 0)

end PathTemplate.Json
