/-!
# Sets of code points

## The model

Properties of characters come as long lists of code points with much regularity. A set is a list
of runs in increasing order; a run has a first and a last code point and the distance between
neighbours, so that an alphabet whose capitals and small letters alternate is one run of distance
two. A case mapping is such a list with the distance from each code point to its image. Runs do
not interleave, so the first run that reaches a code point decides, and the search stops at the
first run that starts beyond it.
-/

namespace SocAssembly.Text

/-- Runs `(first, last, step)` in increasing order. -/
abbrev CodePointSet := List (Nat × Nat × Nat)

/-- The code point lies on a run of the set. -/
def CodePointSet.contains : CodePointSet → Nat → Bool
  | [], _ => false
  | (first, last, step) :: rest, n =>
    if n < first then false
    else if n ≤ last then (n - first) % step == 0
    else contains rest n

/-- Runs `(first, last, step, shift)` in increasing order. -/
abbrev CaseShifts := List (Nat × Nat × Nat × Int)

/-- The image of a code point: moved by the shift of the run it lies on, else unchanged. -/
def CaseShifts.apply : CaseShifts → Nat → Nat
  | [], n => n
  | (first, last, step, shift) :: rest, n =>
    if n < first then n
    else if n ≤ last then
      if (n - first) % step == 0 then (Int.ofNat n + shift).toNat else n
    else apply rest n

end SocAssembly.Text
