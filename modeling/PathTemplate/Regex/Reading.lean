import PathTemplate.Regex.Brackets
import PathTemplate.Regex.Parentheses

/-! # Reading regular expressions

An expression is read from left to right. Open groups wait on a stack, each with the
alternatives and parts that were read before the group inside it began. -/

namespace PathTemplate.Regex

/-- The parts of one group, or of the whole expression, that have been read, the last of each
first. -/
structure Level where
  branches : List Expr := []
  parts : List Expr := []

namespace Level

def push (l : Level) (e : Expr) : Level := { l with parts := e :: l.parts }

/-- End an alternative. -/
def branch (l : Level) : Level := ⟨Expr.ofParts l.parts.reverse :: l.branches, []⟩

/-- Everything that has been read. -/
def close (l : Level) : Expr :=
  match l.branches with
  | [] => Expr.ofParts l.parts.reverse
  | _ => .alternation l.branch.branches.reverse

end Level

/-- A group that is open: what it is, what was read around it, and whether blanks counted
there. -/
structure OpenGroup where
  kind : GroupKind
  around : Level
  verbose : Bool

/-- An expression while it is being read. -/
structure Reading where
  rest : List Char
  opened : List OpenGroup := []
  level : Level := {}
  verbose : Bool := false
  /-- How many groups capture so far. -/
  captures : Nat := 0
  names : List String := []

namespace Reading

def push (r : Reading) (e : Expr) (rest : List Char) : Reading :=
  { r with level := r.level.push e, rest := rest }

/-- Begin a group, or change flags. -/
def begin (r : Reading) (text : List Char) : Except Fault Reading := do
  match ← opening r.verbose (r.captures + 1) text with
  | (.flags change, rest) =>
    return { r.push (.flags change) rest with verbose := change.verbose.getD r.verbose }
  | (.group (.capture index name), rest) =>
    if let some n := name then
      if r.names.contains n then throw (.groupNameRepeated n)
    return { rest, verbose := r.verbose, level := {}, captures := index,
             opened := ⟨.capture index name, r.level, r.verbose⟩ :: r.opened,
             names := name.toList ++ r.names }
  | (.group (.plain change), rest) =>
    return { r with rest, level := {}, verbose := change.verbose.getD r.verbose,
                    opened := ⟨.plain change, r.level, r.verbose⟩ :: r.opened }

/-- End the innermost group. -/
def finish (r : Reading) (rest : List Char) : Except Fault Reading :=
  match r.opened with
  | [] => .error .groupUnopened
  | g :: outer =>
    .ok { r with rest, opened := outer, verbose := g.verbose,
                 level := g.around.push (.group g.kind r.level.close) }

/-- Repeat the part that was read last. -/
def repetition (r : Reading) (min : Nat) (max : Option Nat) (greedy : Bool) (rest : List Char) :
    Except Fault Reading :=
  match r.level.parts with
  | [] | .empty :: _ | .flags _ :: _ => .error .repetitionOfNothing
  | e :: parts =>
    .ok { r with rest, level.parts := .repetition min max greedy e :: parts }

/-- Whether a repetition takes as much as it can, and the text behind the mark that says so. -/
def greed (text : List Char) : Bool × List Char :=
  match text with
  | '?' :: rest => (false, rest)
  | _ => (true, text)

end Reading

/-! ## Counts -/

/-- The digits at the front of a text, between which a verbose expression may have blanks. -/
def countDigits (verbose : Bool) : (fuel : Nat) → List Char → List Char × List Char
  | 0, text => ([], text)
  | fuel + 1, text =>
    match text with
    | c :: rest =>
      if c.isDigit then
        let (ds, rest) := countDigits verbose fuel (advance verbose (c :: rest))
        (c :: ds, rest)
      else ([], c :: rest)
    | [] => ([], [])

/-- The first number that has more than 32 bits. -/
def countLimit : Nat := 0x100000000

/-- Read a number of at most 32 bits, with blanks around it. -/
def count (verbose : Bool) (text : List Char) : Except Fault (Nat × List Char) :=
  let (ds, rest) := countDigits verbose text.length (text.dropWhile Character.isBlank)
  let n := ds.foldl (fun n c => n * 10 + (c.toNat - 48)) 0
  if ds.isEmpty ∨ n ≥ countLimit then .error .repetitionCount
  else .ok (n, skip verbose (rest.dropWhile Character.isBlank))

/-- Read the bounds of a repetition behind its brace, up to and with the closing brace. -/
def bounds (verbose : Bool) (text : List Char) :
    Except Fault ((Nat × Option Nat) × List Char) := do
  let (min, rest) ← count verbose text
  match rest with
  | ',' :: _ =>
    match advance verbose rest with
    | '}' :: rest => return ((min, none), rest)
    | rest =>
      let (max, rest) ← count verbose rest
      match rest with
      | '}' :: rest =>
        if min ≤ max then return ((min, some max), rest) else throw .repetitionCount
      | _ => throw .repetitionCount
  | '}' :: rest => return ((min, some min), rest)
  | _ => throw .repetitionCount

/-! ## The whole -/

/-- The expression that an escape stands for outside brackets. -/
def Escape.expr : Escape → Expr
  | .char c => .char c
  | .shorthand set negated => .charClass (.shorthand set negated)
  | .property query negated => .charClass (.property query negated)
  | .place p => .place p

/-- Read one part, or begin or end a group. -/
def step (r : Reading) (c : Char) (rest : List Char) : Except Fault Reading :=
  match c with
  | '(' => r.begin rest
  | ')' => r.finish rest
  | '|' => .ok { r with level := r.level.branch, rest }
  | '[' => do
    let (k, rest) ← readClass r.verbose (c :: rest)
    return r.push (.charClass k) rest
  | '?' => let (greedy, rest) := Reading.greed rest; r.repetition 0 (some 1) greedy rest
  | '*' => let (greedy, rest) := Reading.greed rest; r.repetition 0 none greedy rest
  | '+' => let (greedy, rest) := Reading.greed rest; r.repetition 1 none greedy rest
  | '{' => do
    let ((min, max), rest) ← bounds r.verbose (skip r.verbose rest)
    let (greedy, rest) := Reading.greed (skip r.verbose rest)
    r.repetition min max greedy rest
  | '\\' => do
    let (e, rest) ← escape r.verbose rest
    return r.push e.expr rest
  | '.' => .ok (r.push .dot rest)
  | '^' => .ok (r.push (.place .lineStart) rest)
  | '$' => .ok (r.push (.place .lineEnd) rest)
  | c => .ok (r.push (.char ⟨c, false⟩) rest)

/-- Read everything that is left. -/
def Reading.run : (fuel : Nat) → Reading → Except Fault Expr
  | 0, _ => .error .groupUnclosed
  | fuel + 1, r =>
    match skip r.verbose r.rest with
    | [] => if r.opened.isEmpty then .ok r.level.close else .error .groupUnclosed
    | c :: rest =>
      match step r c rest with
      | .error fault => .error fault
      | .ok r => Reading.run fuel r

/-- How deep an expression may nest. -/
def depthLimit : Nat := 250

/-- The expression that a text writes down. -/
def readExpr (text : List Char) : Except Fault Expr := do
  let e ← Reading.run (text.length + 1) { rest := text }
  if e.depth ≤ depthLimit then return e else throw (.nestedTooDeep depthLimit)

end PathTemplate.Regex
