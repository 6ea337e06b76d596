import PathTemplate.Regex.Expr
import PathTemplate.Unicode.Character

/-! # Escapes

What a backslash makes of the characters behind it. Where an expression is verbose, blanks and
comments may stand between the characters of a longer escape. -/

namespace PathTemplate.Regex

/-- The text behind blanks and comments. A comment goes from `#` to the end of its line. -/
def skipComments : (inComment : Bool) → List Char → List Char
  | _, [] => []
  | true, c :: rest => skipComments (c ≠ '\n') rest
  | false, c :: rest =>
    if Character.isBlank c then skipComments false rest
    else if c = '#' then skipComments true rest
    else c :: rest

/-- The text from the first character that counts. -/
def skip (verbose : Bool) (text : List Char) : List Char :=
  if verbose then skipComments false text else text

/-- The text from the first character that counts behind the character in front. -/
def advance (verbose : Bool) (text : List Char) : List Char :=
  skip verbose text.tail

/-- What an escape stands for. -/
inductive Escape
  | char (c : WrittenChar)
  | shorthand (set : Shorthand) (negated : Bool)
  | property (query : PropertyQuery) (negated : Bool)
  | place (p : Place)

/-- A character with a meaning of its own in some part of an expression. -/
def isMeta (c : Char) : Bool :=
  ['\\', '.', '+', '*', '?', '(', ')', '|', '[', ']', '{', '}', '^', '$', '#', '&', '-',
    '~'].contains c

/-- A character that stands for itself behind a backslash: one with a meaning, and the other
marks of ASCII but for angle brackets. -/
def isEscapable (c : Char) : Bool :=
  isMeta c || (Character.isAscii c && !c.isAlphanum && c ≠ '<' && c ≠ '>')

/-! ## Code points -/

def hexDigit? (c : Char) : Option Nat :=
  if '0' ≤ c ∧ c ≤ '9' then some (c.toNat - 48)
  else if 'a' ≤ c ∧ c ≤ 'f' then some (c.toNat - 87)
  else if 'A' ≤ c ∧ c ≤ 'F' then some (c.toNat - 55)
  else none

/-- The character with a code point. -/
def charOf? (n : Nat) : Option Char :=
  if h : n.isValidChar then some (Char.ofNatAux n h) else none

/-- Read hexadecimal digits up to and with a closing brace. -/
def hexBraced (verbose : Bool) : (fuel number : Nat) → (started : Bool) → List Char →
    Except Fault (Nat × List Char)
  | 0, _, _, _ => .error .escapeUnfinished
  | fuel + 1, number, started, text =>
    match text with
    | [] => .error .escapeUnfinished
    | '}' :: _ => if started then .ok (number, advance verbose text) else .error .codePoint
    | c :: _ =>
      match hexDigit? c with
      | none => .error .codePoint
      | some d => hexBraced verbose fuel (number * 16 + d) true (advance verbose text)

/-- Read as many hexadecimal digits as are asked for. -/
def hexCounted (verbose : Bool) : (count number : Nat) → List Char →
    Except Fault (Nat × List Char)
  | 0, number, text => .ok (number, text)
  | _ + 1, _, [] => .error .escapeUnfinished
  | count + 1, number, c :: rest =>
    match hexDigit? c with
    | none => .error .codePoint
    | some d => hexCounted verbose count (number * 16 + d) (advance verbose (c :: rest))

/-- Read the character that a code point in hexadecimal stands for. Two digits without braces
stand for a byte where Unicode is off. -/
def hexChar (verbose : Bool) (count : Nat) (text : List Char) :
    Except Fault (WrittenChar × List Char) := do
  let braced := text.head? = some '{'
  let (n, rest) ← match text with
    | [] => .error .escapeUnfinished
    | '{' :: _ => hexBraced verbose (text.length + 1) 0 false (advance verbose text)
    | _ => hexCounted verbose count 0 text
  match charOf? n with
  | none => .error .codePoint
  | some c => return (⟨c, !braced && count = 2⟩, rest)

/-! ## Properties -/

/-- Read the name of a property up to and with a closing brace. -/
def propertyName (verbose : Bool) : (fuel : Nat) → List Char →
    Except Fault (List Char × List Char)
  | 0, _ => .error .escapeUnfinished
  | fuel + 1, text =>
    match text with
    | [] => .error .escapeUnfinished
    | '}' :: rest => .ok ([], rest)
    | c :: _ => do
      let (name, rest) ← propertyName verbose fuel (advance verbose text)
      return (c :: name, rest)

/-- A name cut in two at a mark, unless the mark does not occur. -/
def cutAt? (mark : List Char) : List Char → Option (List Char × List Char)
  | [] => none
  | c :: rest =>
    if mark.isPrefixOf (c :: rest) then some ([], (c :: rest).drop mark.length)
    else (cutAt? mark rest).map fun p => (c :: p.1, p.2)

/-- The question that stands between the braces of a property. -/
def queryOf (name : List Char) : PropertyQuery :=
  match (cutAt? ['!', '='] name).or ((cutAt? [':'] name).or (cutAt? ['='] name)) with
  | some (property, value) => .value (String.ofList property) (String.ofList value)
  | none => .name (String.ofList name)

/-- Read a property behind its letter: one character, or a question in braces. -/
def property (verbose : Bool) (text : List Char) : Except Fault (PropertyQuery × List Char) :=
  match text with
  | [] => .error .escapeUnfinished
  | '{' :: _ => do
    let (name, rest) ← propertyName verbose (text.length + 1) (advance verbose text)
    return (queryOf name, rest)
  | '\\' :: _ => .error .propertyUnknown
  | c :: _ => .ok (.name c.toString, advance verbose text)

/-! ## Word boundaries -/

/-- A letter of the name of a special word boundary. -/
def isBoundaryLetter (c : Char) : Bool := c.isAlpha || c = '-'

def boundaryName (verbose : Bool) : (fuel : Nat) → List Char → List Char × List Char
  | 0, text => ([], text)
  | fuel + 1, text =>
    match text with
    | [] => ([], [])
    | c :: rest =>
      if isBoundaryLetter c then
        let (name, rest) := boundaryName verbose fuel (advance verbose (c :: rest))
        (c :: name, rest)
      else ([], c :: rest)

/-- Read what follows `\b`. Braces with a letter name a kind of boundary; other braces are left
for a repetition. -/
def wordBoundary (verbose : Bool) (text : List Char) : Except Fault (Place × List Char) :=
  match text with
  | '{' :: _ =>
    match advance verbose text with
    | [] => .error .escapeUnfinished
    | c :: rest =>
      if isBoundaryLetter c then
        match boundaryName verbose (text.length + 1) (c :: rest) with
        | (name, '}' :: rest) =>
          match String.ofList name with
          | "start" => .ok (.wordStart, rest)
          | "end" => .ok (.wordEnd, rest)
          | "start-half" => .ok (.wordStartHalf, rest)
          | "end-half" => .ok (.wordEndHalf, rest)
          | _ => .error .wordBoundaryUnknown
        | _ => .error .wordBoundaryUnknown
      else .ok (.wordBoundary, text)
  | _ => .ok (.wordBoundary, text)

/-! ## All escapes -/

/-- The character that an escape of one letter stands for. -/
def letterEscape? (c : Char) : Option Char :=
  match c with
  | 'a' => some '\x07'
  | 'f' => some '\x0c'
  | 't' => some '\t'
  | 'n' => some '\n'
  | 'r' => some '\r'
  | 'v' => some '\x0b'
  | _ => none

/-- The place that an escape of one letter stands for. -/
def letterPlace? (c : Char) : Option Place :=
  match c with
  | 'A' => some .textStart
  | 'z' => some .textEnd
  | 'B' => some .noWordBoundary
  | '<' => some .wordStart
  | '>' => some .wordEnd
  | _ => none

/-- The set that an escape of one letter stands for, and whether the set is meant to be left
out. -/
def letterShorthand? (c : Char) : Option (Shorthand × Bool) :=
  match c with
  | 'd' => some (.digit, false)
  | 'D' => some (.digit, true)
  | 's' => some (.blank, false)
  | 'S' => some (.blank, true)
  | 'w' => some (.word, false)
  | 'W' => some (.word, true)
  | _ => none

/-- How many digits a code point without braces has behind a letter. -/
def hexCount? (c : Char) : Option Nat :=
  match c with
  | 'x' => some 2
  | 'u' => some 4
  | 'U' => some 8
  | _ => none

/-- Read what stands behind a backslash. -/
def escape (verbose : Bool) : List Char → Except Fault (Escape × List Char)
  | [] => .error .escapeUnfinished
  | c :: rest => do
    if c.isDigit then .error .backReference
    else if let some count := hexCount? c then
      let (w, rest) ← hexChar verbose count (skip verbose rest)
      return (.char w, rest)
    else if c = 'p' ∨ c = 'P' then
      let (query, rest) ← property verbose (skip verbose rest)
      return (.property query (c = 'P'), rest)
    else if let some (set, negated) := letterShorthand? c then
      return (.shorthand set negated, rest)
    else if isEscapable c then return (.char ⟨c, false⟩, rest)
    else if let some e := letterEscape? c then return (.char ⟨e, false⟩, rest)
    else if c = 'b' then
      let (p, rest) ← wordBoundary verbose rest
      return (.place p, rest)
    else if let some p := letterPlace? c then return (.place p, rest)
    else .error (.escapeUnknown c)

end PathTemplate.Regex
