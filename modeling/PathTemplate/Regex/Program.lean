import PathTemplate.Regex.Core

/-! # Programs for matching

An expression is laid out as a row of instructions. Control falls through to the instruction
behind, except where an instruction names others by their position. -/

namespace PathTemplate.Regex

/-- A step of matching. -/
inductive Instr
  /-- Go over one character of a class. -/
  | one (k : CharClass)
  /-- Go on where an assertion holds. -/
  | assert (a : Assertion)
  /-- Remember the place under a number. -/
  | mark (slot : Nat)
  /-- Go on elsewhere. -/
  | jump (target : Nat)
  /-- Go on at the first target, and if that leads to nothing, at the second. -/
  | split (first second : Nat)
  /-- Everything has been matched. -/
  | accept

/-- A split that goes on at `more` first if it is greedy, and else at `done` first. -/
def Instr.choose (greedy : Bool) (more done : Nat) : Instr :=
  if greedy then .split more done else .split done more

/-- The number of the place where a group starts. -/
def startSlot (index : Nat) : Nat := 2 * index

/-- The number of the place where a group ends. -/
def endSlot (index : Nat) : Nat := 2 * index + 1

namespace Core

/-- How many instructions an expression has. -/
def size : Core → Nat
  | empty => 0
  | one _ => 1
  | assert _ => 1
  | cat first second => first.size + second.size
  | alt first second => first.size + second.size + 2
  | times n body => n * body.size
  | upTo n _ body => n * (body.size + 1)
  | plus _ body => body.size + 1
  | capture _ body => body.size + 2

/-- `n` copies of code of a given size, from a position on. -/
def copies (code : Nat → List Instr) (size : Nat) : (n : Nat) → (at_ : Nat) → List Instr
  | 0, _ => []
  | n + 1, at_ => code at_ ++ copies code size n (at_ + size)

/-- `n` copies of code of a given size, before each of which control may leave for `stop`. -/
def optionals (code : Nat → List Instr) (size : Nat) (greedy : Bool) (stop : Nat) :
    (n : Nat) → (at_ : Nat) → List Instr
  | 0, _ => []
  | n + 1, at_ =>
    .choose greedy (at_ + 1) stop :: code (at_ + 1) ++
      optionals code size greedy stop n (at_ + 1 + size)

/-- The instructions of an expression from a position on. -/
def code : Core → (at_ : Nat) → List Instr
  | empty, _ => []
  | one k, _ => [.one k]
  | assert a, _ => [.assert a]
  | cat first second, at_ => first.code at_ ++ second.code (at_ + first.size)
  | alt first second, at_ =>
    let other := at_ + 2 + first.size
    .split (at_ + 1) other :: first.code (at_ + 1) ++
      .jump (other + second.size) :: second.code other
  | times n body, at_ => copies body.code body.size n at_
  | upTo n greedy body, at_ =>
    optionals body.code body.size greedy (at_ + n * (body.size + 1)) n at_
  | plus greedy body, at_ =>
    body.code at_ ++ [.choose greedy at_ (at_ + body.size + 1)]
  | capture index body, at_ =>
    .mark (startSlot index) :: body.code (at_ + 1) ++ [.mark (endSlot index)]

theorem length_copies {code : Nat → List Instr} {size : Nat} (h : ∀ a, (code a).length = size)
    (n at_ : Nat) : (copies code size n at_).length = n * size := by
  induction n generalizing at_ with
  | zero => simp [copies]
  | succ n ih => simp [copies, h, ih, Nat.add_mul, Nat.add_comm]

theorem length_optionals {code : Nat → List Instr} {size : Nat}
    (h : ∀ a, (code a).length = size) (greedy : Bool) (stop n at_ : Nat) :
    (optionals code size greedy stop n at_).length = n * (size + 1) := by
  induction n generalizing at_ with
  | zero => simp [optionals]
  | succ n ih =>
    simp only [optionals, List.length_append, List.length_cons, h, ih, Nat.add_mul]
    omega

/-- The code of an expression is as long as its size says. -/
theorem length_code (e : Core) (at_ : Nat) : (e.code at_).length = e.size := by
  induction e generalizing at_ with
  | empty | one | assert => simp [code, size]
  | cat first second ih₁ ih₂ => simp [code, size, ih₁, ih₂]
  | alt first second ih₁ ih₂ => simp [code, size, ih₁, ih₂]; omega
  | times n body ih => simp [code, size, length_copies ih]
  | upTo n greedy body ih => simp [code, size, length_optionals ih]
  | plus greedy body ih => simp [code, size, ih]
  | capture index body ih => simp [code, size, ih]

/-- The whole program of an expression. The group of number 0 is the whole match. -/
def program (e : Core) : Array Instr :=
  ((capture 0 e).code 0 ++ [Instr.accept]).toArray

end Core

end PathTemplate.Regex
