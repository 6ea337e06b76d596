import PathTemplate.Regex.Meaning
import PathTemplate.Regex.Reading
import PathTemplate.Regex.Search
import PathTemplate.Regex.Weight

/-! # Regular expressions

A regular expression is read once and can then be searched for in any number of texts. Of all
matches the leftmost counts, and of those that start there the one that first choices lead to. -/

namespace PathTemplate

/-- A regular expression with its source, the names of its groups, and its program. -/
structure Regex where
  source : String
  core : Regex.Core
  names : List (String × Nat)
  program : Array Regex.Instr := core.program
  program_eq : program = core.program := by rfl

namespace Regex

/-- Read a regular expression. -/
def compile (source : String) : Except Fault Regex := do
  let e ← readExpr source.toList
  let (core, _) ← meaning {} e
  if (Core.capture 0 core).weight false > weightLimit then throw (.tooLarge weightLimit)
  return { source, core, names := e.groupNames }

/-- A match in a text. -/
structure Match where
  text : Array Char
  trail : Trail

namespace Match

/-- The places between which a group matched last, if it took part. -/
def span? (m : Match) (index : Nat) : Option (Nat × Nat) := do
  return (← m.trail.lookup (startSlot index), ← m.trail.lookup (endSlot index))

/-- The text that a group matched last. -/
def group? (m : Match) (index : Nat) : Option String :=
  (m.span? index).map fun (first, last) => String.ofList (m.text.extract first last).toList

end Match

/-- The leftmost match in a text. -/
def find? (r : Regex) (text : String) : Option Match :=
  let chars := text.toList.toArray
  (search r.program chars).map fun trail => ⟨chars, trail⟩

/-- The number of the group with a name. -/
def groupNumber? (r : Regex) (name : String) : Option Nat :=
  r.names.lookup name

/-- The text that a named group matched last. -/
def named? (r : Regex) (m : Match) (name : String) : Option String :=
  (r.groupNumber? name).bind m.group?

end Regex

end PathTemplate
