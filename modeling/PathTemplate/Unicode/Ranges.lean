/-! # Sets of code points

A set of code points is written as ascending runs, each by its first and last member in
hexadecimal, and a lone member by itself: `30-39 41-46 5F`. A table of a property is one such
text. Membership is decided by halving the runs. -/

namespace PathTemplate.Unicode

/-- The entries of a table, which blanks and line ends keep apart. -/
def tableEntries (text : String) : List String :=
  (text.splitToList fun c => c = ' ' ∨ c = '\n').filter (· ≠ "")

/-- The number that hexadecimal digits stand for. -/
def hexNumber (digits : String) : Nat :=
  digits.foldl (fun n c => n * 16 + if c ≤ '9' then c.toNat - 48 else c.toNat - 55) 0

/-- The disjoint runs of a set in ascending order, each with its first and last member. -/
structure Ranges where
  runs : Array (Nat × Nat)

namespace Ranges

/-- The run that one entry of a table stands for. -/
def run (entry : String) : Nat × Nat :=
  match entry.splitOn "-" with
  | [first, last] => (hexNumber first, hexNumber last)
  | _ => (hexNumber entry, hexNumber entry)

/-- The set that a table writes down. -/
def read (text : String) : Ranges :=
  ⟨((tableEntries text).map run).toArray⟩

/-- Search the runs from `low` up to but not including `high`. Each step halves the distance,
so `steps` need not exceed the number of binary digits of `high - low`. -/
def search (runs : Array (Nat × Nat)) (n : Nat) : (steps low high : Nat) → Bool
  | 0, _, _ => false
  | steps + 1, low, high =>
    if low < high then
      let middle := (low + high) / 2
      match runs[middle]? with
      | none => false
      | some (first, last) =>
        if n < first then search runs n steps low middle
        else if last < n then search runs n steps (middle + 1) high
        else true
    else false

/-- Whether the code point `n` is a member. -/
def contains (r : Ranges) (n : Nat) : Bool :=
  search r.runs n (r.runs.size.log2 + 1) 0 r.runs.size

end Ranges

/-- The members of a property value under the names it goes by, without case, blanks, dashes
and underscores. -/
structure Listing where
  names : List String
  members : Ranges

end PathTemplate.Unicode
