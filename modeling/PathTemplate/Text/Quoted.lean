import PathTemplate.Fields
import PathTemplate.Unicode.Character

/-! # Quoted text

Messages quote text between double quotes. A quote and a backslash have a backslash before them,
line ends, tabs and NUL are written by a letter, and every other character that does not show
itself, or would combine with the quote, by its code point in braces. -/

namespace PathTemplate.Quoted

/-- The hexadecimal digits of a number, without leading zeros. -/
def hex (n : Nat) : List Char := Nat.toDigits 16 n

/-- How one character stands between quotes. -/
def escape (c : Char) : List Char :=
  if c = '\x00' then ['\\', '0']
  else if c = '\t' then ['\\', 't']
  else if c = '\r' then ['\\', 'r']
  else if c = '\n' then ['\\', 'n']
  else if c = '\\' then ['\\', '\\']
  else if c = '"' then ['\\', '"']
  else if Character.extendsGrapheme c || !Character.isPrintable c then
    ['\\', 'u', '\x7b'] ++ hex c.toNat ++ ['\x7d']
  else [c]

/-- A text between quotes. -/
def text (s : String) : String :=
  String.ofList ('"' :: s.toList.flatMap escape ++ ['"'])

/-- Items between brackets, with commas. -/
def list (items : List String) : String :=
  "[" ++ String.intercalate ", " items ++ "]"

/-- Items between braces, with commas. -/
def braced (items : List String) : String :=
  "\x7b" ++ String.intercalate ", " items ++ "\x7d"

/-- A set of names, each quoted. -/
def names (s : Names) : String :=
  braced (s.toList.map text)

/-- Pairs of quoted texts, as a map from the first to the second. -/
def pairs (entries : List (String × String)) : String :=
  braced (entries.map fun e => text e.1 ++ ": " ++ text e.2)

end PathTemplate.Quoted
