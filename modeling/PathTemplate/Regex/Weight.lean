import PathTemplate.Regex.ByteRanges
import PathTemplate.Regex.Core

/-! # The weight of an expression

The weight of an expression is the number of bytes that its automaton takes, with every
repetition written out. An expression beyond a limit is refused. The weight is computed from the
counts, so that refusing takes no longer than reading. -/

namespace PathTemplate.Regex

/-- What a state takes. -/
def stateWeight : Nat := 32

/-- What each range takes in a state that has several. -/
def rangeWeight : Nat := 8

/-- What each way out takes of a state that has several. -/
def choiceWeight : Nat := 4

/-- What a class takes. A single character has one state for each byte. The ranges of a class of
ASCII share one state, and those of any other class have a state each. -/
def CharClass.weight (k : CharClass) : Nat :=
  let runs := k.runs
  match runs with
  | [(first, last)] =>
    if first = last then stateWeight * (Char.ofNat first).utf8Size else weightOf runs
  | _ => weightOf runs
where
  weightOf (runs : List (Nat × Nat)) : Nat :=
    if runs.all (·.2 < 0x80) then 2 * stateWeight + rangeWeight * runs.length
    else
      byteLengths.foldl (fun weight (first, last, behind) =>
        let s := sequencesWithin runs first last behind
        weight + stateWeight * rangeCount [] s + choiceWeight * s.length) (2 * stateWeight)

namespace Core

/-- Whether the empty text can match. -/
def nullable : Core → Bool
  | empty => true
  | one _ => false
  | assert _ => true
  | cat first second => first.nullable && second.nullable
  | alt first second => first.nullable || second.nullable
  | times n body => n == 0 || body.nullable
  | upTo _ _ _ => true
  | plus _ body => body.nullable
  | capture _ body => body.nullable

/-- Whether an expression is a choice itself, whose branches are those of a choice around it. -/
def isAlt : Core → Bool
  | alt _ _ => true
  | _ => false

/-- What an expression takes. `inner` says that a choice around it has counted the states that
begin and end a choice. -/
def weight (inner : Bool) : Core → Nat
  | empty => 0
  | one k => k.weight
  | assert _ => stateWeight
  | cat first second => first.weight false + second.weight false
  | alt first second =>
    (if inner then 0 else 2 * stateWeight) +
      (choiceWeight + max stateWeight (first.weight false)) +
      (if second.isAlt then second.weight true
        else choiceWeight + max stateWeight (second.weight false))
  | times n body => n * body.weight false
  | upTo n _ (plus greedy body) =>
    let once := stateWeight + 2 * choiceWeight
    if n = 1 ∧ !body.nullable then once + body.weight false
    else stateWeight + n * (once + (plus greedy body).weight false)
  | upTo n _ body => stateWeight + n * (stateWeight + 2 * choiceWeight + body.weight false)
  | plus _ body => stateWeight + 2 * choiceWeight + body.weight false
  | capture _ body => 2 * stateWeight + max stateWeight (body.weight false)

end Core

/-- How much an expression may take. -/
def weightLimit : Nat := 10485760

end PathTemplate.Regex
