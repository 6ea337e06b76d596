import PathTemplate.Regex.CharClass

/-! # Classes as ranges of bytes

A class is matched byte by byte. Its members, written in UTF-8, are split into sequences of ranges
of bytes: a sequence has for each of its places the range of the bytes that may stand there. The
last six bits of a byte count behind the first place, so a range is given by these bits. -/

namespace PathTemplate.Regex

namespace CharClass

/-- Code points at which membership may change from that of the code point before. -/
def cuts : CharClass → List Nat
  | empty => []
  | range first last => [first, last + 1]
  | listed members => members.runs.toList.flatMap fun r => [r.1, r.2 + 1]
  | union a b | inter a b | diff a b | symmDiff a b => a.cuts ++ b.cuts
  | compl a => a.cuts
  | anyCase a =>
    a.cuts ++ Unicode.caseOrbits.toList.flatMap fun orbit =>
      if orbit.2.any a.contains then [orbit.1, orbit.1 + 1] else []
  | anyAsciiCase a => a.cuts ++ a.cuts.map swapAsciiCase ++ [0x41, 0x5B, 0x61, 0x7B]

/-- The runs of members between ascending cuts. `start` is where the run began that has not ended
yet, and runs that touch are one. -/
def runsBetween (k : CharClass) : (start : Option Nat) → List Nat → List (Nat × Nat)
  | none, [] => []
  | some first, [] => [(first, 0x10FFFF)]
  | none, cut :: rest =>
    if k.contains cut then runsBetween k (some cut) rest else runsBetween k none rest
  | some first, cut :: rest =>
    if k.contains cut then runsBetween k (some first) rest
    else (first, cut - 1) :: runsBetween k none rest

/-- The members of a class as ascending runs. -/
def runs (k : CharClass) : List (Nat × Nat) :=
  k.runsBetween none (0 :: (k.cuts.filter (· ≤ 0x10FFFF)).mergeSort)

end CharClass

/-- A range of bytes for every place. -/
abbrev ByteSequence := List (Nat × Nat)

/-- The sequences of the code points from `first` to `last`, whose bytes are as many as
`behind` and one. Code points that share all bytes but the last few are in one sequence if they
fill the range of those. -/
def sequences : (behind first last : Nat) → List ByteSequence
  | 0, first, last => [[(first, last)]]
  | behind + 1, first, last =>
    let block := 1 <<< (6 * (behind + 1))
    let low := first / block
    let high := last / block
    if low = high then
      (sequences behind (first % block) (last % block)).map ((low, low) :: ·)
    else
      let cutBelow := first % block ≠ 0
      let cutAbove := last % block ≠ block - 1
      let below := if cutBelow then sequences behind (first % block) (block - 1) else []
      let above := if cutAbove then sequences behind 0 (last % block) else []
      let least := if cutBelow then low + 1 else low
      let bound := if cutAbove then high else high + 1
      let whole :=
        if least < bound then [(least, bound - 1) :: List.replicate (behind + 1) (0, 63)] else []
      below.map ((low, low) :: ·) ++ whole ++ above.map ((high, high) :: ·)

/-- The code points that are written in the same number of bytes, with the number of bytes behind
the first. The code points of surrogates are no characters. -/
def byteLengths : List (Nat × Nat × Nat) :=
  [(0, 0x7F, 0), (0x80, 0x7FF, 1), (0x800, 0xD7FF, 2), (0xE000, 0xFFFF, 2),
    (0x10000, 0x10FFFF, 3)]

/-- The sequences of all runs that lie between two code points. -/
def sequencesWithin (runs : List (Nat × Nat)) (first last behind : Nat) : List ByteSequence :=
  runs.flatMap fun r =>
    if max first r.1 ≤ min last r.2 then sequences behind (max first r.1) (min last r.2) else []

/-- How many ranges two sequences share before they part. -/
def sharedLength : ByteSequence → ByteSequence → Nat
  | a :: s, b :: t => if a = b then sharedLength s t + 1 else 0
  | _, _ => 0

/-- How many ranges ascending sequences have, where those that begin alike share their
beginning. -/
def rangeCount : (before : ByteSequence) → List ByteSequence → Nat
  | _, [] => 0
  | before, s :: rest => s.length - sharedLength before s + rangeCount s rest

end PathTemplate.Regex
