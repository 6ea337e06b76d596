import PathTemplate.Catalog
import PathTemplate.Json.Value

/-! # Reading JSON

The readers take text from the front and return what they read with the text that is left. They
stop at the first fault from the left. A value that nobody looks at is skipped, which is more
lenient: it may nest to any depth, its numbers may be of any size, and its escapes need not make
up characters. -/

namespace PathTemplate.Json

/-- Why a text is not what was to be read. -/
inductive Fault
  /-- The text is no JSON. -/
  | malformed
  /-- The text is JSON up to here, and not of the shape that is asked for. -/
  | mismatched
  /-- The text ends too early. -/
  | truncated
  deriving DecidableEq

/-- A reader consumes the front of a text. -/
abbrev Reader (α : Type) := List Char → Except Fault (α × List Char)

/-- Whether a value is read or skipped. -/
inductive Mode
  | read
  | skip
  deriving DecidableEq

/-- The text from the first character that is no blank. -/
def skipBlanks : List Char → List Char
  | [] => []
  | c :: rest =>
    if c = ' ' ∨ c = '\n' ∨ c = '\t' ∨ c = '\r' then skipBlanks rest else c :: rest

/-- The text behind a word that has to stand here. -/
def expect : List Char → List Char → Except Fault (List Char)
  | [], text => .ok text
  | _ :: _, [] => .error .truncated
  | w :: word, c :: rest => if c = w then expect word rest else .error .malformed

/-- The text behind a colon. -/
def colon (text : List Char) : Except Fault (List Char) :=
  match skipBlanks text with
  | [] => .error .truncated
  | ':' :: rest => .ok rest
  | _ => .error .malformed

/-! ## Strings -/

/-- The value of a hexadecimal digit of either case. -/
def hexValue? (c : Char) : Option Nat :=
  if '0' ≤ c ∧ c ≤ '9' then some (c.toNat - 48)
  else if 'a' ≤ c ∧ c ≤ 'f' then some (c.toNat - 87)
  else if 'A' ≤ c ∧ c ≤ 'F' then some (c.toNat - 55)
  else none

/-- The number that four hexadecimal digits stand for. -/
def codeUnit? (a b c d : Char) : Option Nat := do
  return (((← hexValue? a) * 16 + (← hexValue? b)) * 16 + (← hexValue? c)) * 16 + (← hexValue? d)

/-- Why a text of less than four characters does not start with four hexadecimal digits: it has
not four bytes either, or something else stands there. -/
def codeUnitFault (text : List Char) : Fault :=
  if (String.ofList text).utf8ByteSize < 4 then .truncated else .malformed

/-- The character of an escape of one letter. -/
def escaped? (c : Char) : Option Char :=
  match c with
  | '"' => some '"'
  | '\\' => some '\\'
  | '/' => some '/'
  | 'b' => some '\x08'
  | 'f' => some '\x0c'
  | 'n' => some '\n'
  | 'r' => some '\r'
  | 't' => some '\t'
  | _ => none

def isLeading (unit : Nat) : Bool := 0xD800 ≤ unit && unit < 0xDC00

def isTrailing (unit : Nat) : Bool := 0xDC00 ≤ unit && unit < 0xE000

/-- The character that a pair of code units stands for. -/
def pairedChar (leading trailing : Nat) : Char :=
  Char.ofNat ((leading - 0xD800) * 0x400 + (trailing - 0xDC00) + 0x10000)

/-- Put a character in front of what a string reader has read. -/
def consChar (c : Char) :
    Except Fault (List Char × List Char) → Except Fault (List Char × List Char)
  | .ok (s, rest) => .ok (c :: s, rest)
  | .error fault => .error fault

/-- Read a string behind its opening quote. Code units that make up no character stand for
nothing when the string is skipped. -/
def stringBody (mode : Mode) : Reader (List Char)
  | [] => .error .truncated
  | '"' :: rest => .ok ([], rest)
  | '\\' :: 'u' :: a :: b :: c :: d :: rest =>
    match codeUnit? a b c d with
    | none => .error .malformed
    | some unit =>
      if mode = .skip then stringBody mode rest
      else if isTrailing unit then .error .malformed
      else if isLeading unit then
        match rest with
        | '\\' :: 'u' :: e :: f :: g :: h :: rest' =>
          match codeUnit? e f g h with
          | none => .error .malformed
          | some next =>
            if isTrailing next then consChar (pairedChar unit next) (stringBody mode rest')
            else .error .malformed
        | '\\' :: 'u' :: short => .error (codeUnitFault short)
        | ['\\'] => .error .truncated
        | [] => .error .truncated
        | _ => .error .malformed
      else consChar (Char.ofNat unit) (stringBody mode rest)
  | '\\' :: 'u' :: short => .error (codeUnitFault short)
  | ['\\'] => .error .truncated
  | '\\' :: c :: rest =>
    match escaped? c with
    | some e => consChar e (stringBody mode rest)
    | none => .error .malformed
  | c :: rest =>
    if c < ' ' then .error .malformed else consChar c (stringBody mode rest)

/-! ## Numbers -/

/-- The digits at the front of a text, and the rest. -/
def digits (text : List Char) : List Char × List Char :=
  text.span Char.isDigit

/-- The fault of a number that breaks off before the text `rest`. -/
def numberFault (mode : Mode) (rest : List Char) : Fault :=
  if mode = .read ∧ rest = [] then .truncated else .malformed

/-- The digits before the point: one zero, or digits of which the first is none. -/
def wholeDigits (mode : Mode) : Reader (List Char)
  | '0' :: rest => if (digits rest).1 = [] then .ok (['0'], rest) else .error .malformed
  | text => if (digits text).1 = [] then .error (numberFault mode text) else .ok (digits text)

/-- A point with digits behind it, if there is a point. -/
def fractionDigits (mode : Mode) : Reader (List Char)
  | '.' :: rest =>
    if (digits rest).1 = [] then .error (numberFault mode (digits rest).2) else .ok (digits rest)
  | text => .ok ([], text)

/-- The sign and the digits of an exponent, if there is one. -/
def exponentDigits (mode : Mode) : Reader (Bool × List Char)
  | c :: rest =>
    if c = 'e' ∨ c = 'E' then
      let (negative, rest) := match rest with
        | '+' :: r => (false, r)
        | '-' :: r => (true, r)
        | r => (false, r)
      if (digits rest).1 = [] then .error (numberFault mode rest)
      else .ok ((negative, (digits rest).1), (digits rest).2)
    else .ok ((false, []), c :: rest)
  | [] => .ok ((false, []), [])

/-- The number that decimal digits stand for. -/
def decimal (digits : List Char) : Nat :=
  digits.foldl (fun n c => n * 10 + (c.toNat - 48)) 0

/-- Whether `mantissa · 10 ^ exponent` lies beyond the numbers of 64 bits with a binary point,
that is, at or above the middle between the largest of them and the next power of two. -/
def tooLarge (mantissa : Nat) (exponent : Int) : Bool :=
  if mantissa = 0 then false
  else
    let size : Int := (Nat.toDigits 10 mantissa).length + exponent
    if size > 310 then true
    else if size < 308 then false
    else
      let limit := Nat.pow 2 1024 - Nat.pow 2 970
      limit * Nat.pow 10 (-exponent).toNat ≤ mantissa * Nat.pow 10 exponent.toNat

/-- Read a number. One that is not skipped must not be too large. -/
def numeral (mode : Mode) (text : List Char) : Except Fault (String × List Char) := do
  let unsigned := match text with
    | '-' :: rest => rest
    | _ => text
  let (whole, rest) ← wholeDigits mode unsigned
  let (fraction, rest) ← fractionDigits mode rest
  let ((negative, power), rest) ← exponentDigits mode rest
  let size : Int := decimal power
  let exponent := (if negative then -size else size) - fraction.length
  if mode = .read ∧ tooLarge (decimal (whole ++ fraction)) exponent then
    throw .malformed
  return (String.ofList (text.take (text.length - rest.length)), rest)

/-! ## Values -/

/-- How many values a value may be nested in. -/
def depthLimit : Nat := 127

mutual

/-- Read a value. `depth` is how many more values may be nested, and `fuel` bounds the values
and members that are left to be read. -/
def readValue (mode : Mode) : (fuel depth : Nat) → Reader Json
  | 0, _, _ => .error .malformed
  | fuel + 1, depth, text =>
    match skipBlanks text with
    | [] => .error .truncated
    | '"' :: rest => do
      let (s, rest) ← stringBody mode rest
      return (.string (String.ofList s), rest)
    | '[' :: rest =>
      if mode = .read ∧ depth = 0 then .error .malformed
      else do
        let (l, rest) ← readItems mode fuel (depth - 1) true rest
        return (.array l, rest)
    | '{' :: rest =>
      if mode = .read ∧ depth = 0 then .error .malformed
      else do
        let (l, rest) ← readMembers mode fuel (depth - 1) true rest
        return (.object (Catalog.ofList l).entries, rest)
    | 'n' :: rest => do return (.null, ← expect ['u', 'l', 'l'] rest)
    | 't' :: rest => do return (.bool true, ← expect ['r', 'u', 'e'] rest)
    | 'f' :: rest => do return (.bool false, ← expect ['a', 'l', 's', 'e'] rest)
    | c :: rest =>
      if c = '-' ∨ c.isDigit then do
        let (literal, rest) ← numeral mode (c :: rest)
        return (.number literal, rest)
      else .error .malformed

/-- Read the items of an array up to and with its end. -/
def readItems (mode : Mode) : (fuel depth : Nat) → (first : Bool) → Reader (List Json)
  | 0, _, _, _ => .error .malformed
  | fuel + 1, depth, first, text =>
    match skipBlanks text with
    | [] => .error .truncated
    | ']' :: rest => .ok ([], rest)
    | c :: rest =>
      let next := if first then some (c :: rest)
        else if c = ',' then some rest else none
      match next with
      | none => .error .malformed
      | some text => do
        let (item, rest) ← readValue mode fuel depth text
        let (l, rest) ← readItems mode fuel depth false rest
        return (item :: l, rest)

/-- Read the members of an object up to and with its end. -/
def readMembers (mode : Mode) : (fuel depth : Nat) → (first : Bool) → Reader (List (String × Json))
  | 0, _, _, _ => .error .malformed
  | fuel + 1, depth, first, text =>
    match skipBlanks text with
    | [] => .error .truncated
    | '}' :: rest => .ok ([], rest)
    | c :: rest =>
      let next := if first then some (c :: rest)
        else if c = ',' then some (skipBlanks rest) else none
      match next with
      | some ('"' :: rest) => do
        let (name, rest) ← stringBody mode rest
        let rest ← colon rest
        let (item, rest) ← readValue mode fuel depth rest
        let (l, rest) ← readMembers mode fuel depth false rest
        return ((String.ofList name, item) :: l, rest)
      | some [] => .error .truncated
      | _ => .error .malformed

end

/-- Values, items and members of a text are no more than its characters and ends. -/
def fuelFor (text : List Char) : Nat := 2 * text.length + 2

end PathTemplate.Json
