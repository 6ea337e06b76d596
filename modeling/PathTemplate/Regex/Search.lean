import Std.Data.HashSet
import PathTemplate.Regex.Program

/-! # Searching

A search follows threads through a program, first choices first. A thread that comes to an
instruction and a place of the text where another one has been is given up: what can be matched
from there has been tried. So a search takes time in proportion to the product of the lengths of
program and text. -/

namespace PathTemplate.Regex

/-- The places that have been remembered, the last one first. -/
abbrev Trail := List (Nat × Nat)

/-- A position in the program, a place in the text and what led there. -/
structure Thread where
  instr : Nat
  place : Nat
  trail : Trail

/-- The character before a place. -/
def before? (text : Array Char) (place : Nat) : Option Char :=
  if place = 0 then none else text[place - 1]?

/-- The threads that go on after an instruction, first choices first. -/
def next (text : Array Char) (t : Thread) : Instr → List Thread
  | .one k =>
    match text[t.place]? with
    | some c => if k.has c then [⟨t.instr + 1, t.place + 1, t.trail⟩] else []
    | none => []
  | .assert a =>
    if a.holds (before? text t.place) text[t.place]? then [⟨t.instr + 1, t.place, t.trail⟩]
    else []
  | .mark slot => [⟨t.instr + 1, t.place, (slot, t.place) :: t.trail⟩]
  | .jump target => [⟨target, t.place, t.trail⟩]
  | .split first second => [⟨first, t.place, t.trail⟩, ⟨second, t.place, t.trail⟩]
  | .accept => []

/-- Follow threads until one is accepted. -/
def follow (program : Array Instr) (text : Array Char) :
    (fuel : Nat) → List Thread → (seen : Std.HashSet (Nat × Nat)) → Option Trail
  | 0, _, _ => none
  | _, [], _ => none
  | fuel + 1, t :: rest, seen =>
    if seen.contains (t.instr, t.place) then follow program text fuel rest seen
    else
      match program[t.instr]? with
      | none => follow program text fuel rest seen
      | some .accept => some t.trail
      | some i =>
        follow program text fuel (next text t i ++ rest) (seen.insert (t.instr, t.place))

/-- A thread for every place at which a match may start, the leftmost first. -/
def starts (text : Array Char) : List Thread :=
  (List.range (text.size + 1)).map fun place => ⟨0, place, []⟩

/-- Every pair of an instruction and a place leads to at most two threads. -/
def fuelFor (program : Array Instr) (text : Array Char) : Nat :=
  (2 * program.size + 1) * (text.size + 1) + 1

/-- The leftmost match, as the places that were remembered on the way. -/
def search (program : Array Instr) (text : Array Char) : Option Trail :=
  follow program text (fuelFor program text) (starts text) ∅

end PathTemplate.Regex
