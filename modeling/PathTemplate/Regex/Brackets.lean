import PathTemplate.Regex.Escape

/-! # Classes in brackets

A class is read member by member. Brackets inside it open a class of their own, and an operation
takes everything before it in its brackets as its left side. -/

namespace PathTemplate.Regex

/-- The set that a name between `[:` and `:]` stands for. -/
def posixNamed? (name : String) : Option Posix :=
  match name with
  | "alnum" => some .alnum
  | "alpha" => some .alpha
  | "ascii" => some .ascii
  | "blank" => some .blank
  | "cntrl" => some .cntrl
  | "digit" => some .digit
  | "graph" => some .graph
  | "lower" => some .lower
  | "print" => some .print
  | "punct" => some .punct
  | "space" => some .space
  | "upper" => some .upper
  | "word" => some .word
  | "xdigit" => some .xdigit
  | _ => none

/-- A named set behind an opening bracket, or nothing if the bracket opens a class. -/
def posix? (text : List Char) : Option (ClassExpr × List Char) :=
  match text with
  | ':' :: rest =>
    let (negated, rest) := match rest with
      | '^' :: r => (true, r)
      | r => (false, r)
    match rest.span (· ≠ ':') with
    | (name, ':' :: ']' :: rest) =>
      (posixNamed? (String.ofList name)).map fun set => (.posix set negated, rest)
    | _ => none
  | _ => none

/-- One pair of brackets while it is being read: whether it is negated, the left side of an
operation that waits for its right side, and the members so far, the last one first. -/
structure OpenClass where
  negated : Bool
  waiting : Option (ClassOp × ClassExpr) := none
  members : List ClassExpr := []

namespace OpenClass

def push (k : OpenClass) (member : ClassExpr) : OpenClass :=
  { k with members := member :: k.members }

/-- Everything that has been read. -/
def body (k : OpenClass) : ClassExpr :=
  let right := ClassExpr.ofMembers k.members.reverse
  match k.waiting with
  | none => right
  | some (op, left) => .op op left right

/-- Let an operation take everything that has been read as its left side. -/
def operate (k : OpenClass) (op : ClassOp) : OpenClass :=
  { k with waiting := some (op, k.body), members := [] }

def close (k : OpenClass) : ClassExpr := .brackets k.negated k.body

end OpenClass

/-- Dashes at the beginning of a class stand for themselves. -/
def leadingDashes (verbose : Bool) :
    (fuel : Nat) → OpenClass → List Char → OpenClass × List Char
  | 0, k, text => (k, text)
  | fuel + 1, k, text =>
    match text with
    | '-' :: _ =>
      leadingDashes verbose fuel (k.push (.char ⟨'-', false⟩)) (advance verbose text)
    | _ => (k, text)

/-- Read the beginning of a class, from its opening bracket on. A closing bracket that comes
first stands for itself. -/
def openClass (verbose : Bool) (text : List Char) : Except Fault (OpenClass × List Char) :=
  let text := advance verbose text
  let (negated, text) := match text with
    | '^' :: _ => (true, advance verbose text)
    | _ => (false, text)
  match leadingDashes verbose text.length ⟨negated, none, []⟩ text with
  | (_, []) => .error .classUnclosed
  | (k, ']' :: rest) =>
    if k.members.isEmpty then
      match advance verbose (']' :: rest) with
      | [] => .error .classUnclosed
      | rest => .ok (k.push (.char ⟨']', false⟩), rest)
    else .ok (k, ']' :: rest)
  | (k, rest) => .ok (k, rest)

/-- The character behind the one in front, which a verbose expression seeks behind blanks. Of a
comment only its first character that is no blank is seen. -/
def peek (verbose : Bool) (text : List Char) : Option Char :=
  if verbose then
    let behind := text.tail.dropWhile Character.isBlank
    match behind with
    | '#' :: rest => ((rest.dropWhile fun c => Character.isBlank c).head?).or text.tail.head?
    | c :: _ => some c
    | [] => text.tail.head?
  else text.tail.head?

/-- Read a single character or an escape. -/
def classMember (verbose : Bool) (text : List Char) : Except Fault (Escape × List Char) :=
  match text with
  | [] => .error .classUnclosed
  | '\\' :: rest => escape verbose rest
  | c :: rest => .ok (.char ⟨c, false⟩, rest)

/-- A place is no member of a class. -/
def memberOf : Escape → Except Fault ClassExpr
  | .char c => .ok (.char c)
  | .shorthand set negated => .ok (.shorthand set negated)
  | .property query negated => .ok (.property query negated)
  | .place _ => .error .classMember

/-- Only a character can end a range. -/
def endOf : Escape → Except Fault WrittenChar
  | .char c => .ok c
  | _ => .error .classRange

/-- Read a member or a range. A dash before another dash or before the end of the class is no
range. -/
def classRange (verbose : Bool) (text : List Char) : Except Fault (ClassExpr × List Char) := do
  let (first, rest) ← classMember verbose text
  let rest := skip verbose rest
  match rest with
  | [] => .error .classUnclosed
  | c :: _ =>
    if c ≠ '-' ∨ peek verbose rest = some ']' ∨ peek verbose rest = some '-' then
      return (← memberOf first, rest)
    else
      match advance verbose rest with
      | [] => .error .classUnclosed
      | rest =>
        let (last, rest) ← classMember verbose rest
        let low ← endOf first
        let high ← endOf last
        if low.char ≤ high.char then return (.range low high, rest) else .error .classRange

/-- Read the members of a class and of the classes around it, `outer`, up to and with the
bracket that closes the outermost one. -/
def classBody (verbose : Bool) :
    (fuel : Nat) → (outer : List OpenClass) → OpenClass → List Char →
      Except Fault (ClassExpr × List Char)
  | 0, _, _, _ => .error .classUnclosed
  | fuel + 1, outer, k, text =>
    let text := skip verbose text
    match text with
    | [] => .error .classUnclosed
    | '[' :: rest =>
      match posix? rest with
      | some (set, rest) => classBody verbose fuel outer (k.push set) rest
      | none => do
        let (inner, rest) ← openClass verbose text
        classBody verbose fuel (k :: outer) inner rest
    | ']' :: rest =>
      match outer with
      | [] => .ok (k.close, rest)
      | around :: outer => classBody verbose fuel outer (around.push k.close) rest
    | '&' :: '&' :: rest => classBody verbose fuel outer (k.operate .intersection) rest
    | '-' :: '-' :: rest => classBody verbose fuel outer (k.operate .difference) rest
    | '~' :: '~' :: rest => classBody verbose fuel outer (k.operate .symmetricDifference) rest
    | _ => do
      let (member, rest) ← classRange verbose text
      classBody verbose fuel outer (k.push member) rest

/-- Read a class from its opening bracket on. -/
def readClass (verbose : Bool) (text : List Char) : Except Fault (ClassExpr × List Char) := do
  let (k, rest) ← openClass verbose text
  classBody verbose text.length [] k rest

end PathTemplate.Regex
