import Mathlib
import SocAssembly.Proofs.FirstFit

/-!
# The order of automatic entries on the bus

First fit may put an entry into a gap below one that was registered before it, but only if it is
the smaller of the two. A gap that serves for so many bytes serves for fewer as well, since the unit
of the fewer bytes divides that of the more (`granularity_dvd_granularity`), and what is in the way
of the later entry includes all that was in the way of the earlier one (`Fits.mono`). So the gap
would have been found for the earlier entry, and the later one, if it is no smaller, lies behind it
(`AddressMap.stop_le_base_of_allocate`).
-/

namespace SocAssembly

/-- The unit of fewer bytes divides that of more. -/
theorem granularity_dvd_granularity {size size' : Nat} (le : size ≤ size') :
    granularity size ∣ granularity size' := by
  unfold granularity
  split
  · rename_i large
    rw [if_pos (large.trans le)]
  · exact packed_dvd_granularity size'

namespace Fits

variable {region : Span} {taken taken' : List Span} {size size' base base' : Nat}

/-- Where so many bytes fit beside what is taken, fewer fit beside less. -/
theorem mono (h : Fits region taken' size' base) (sub : taken ⊆ taken') (le : size ≤ size') :
    Fits region taken size base where
  start_le := h.start_le
  aligned := (granularity_dvd_granularity le).trans h.aligned
  stop_le := (Nat.add_le_add_left le base).trans h.stop_le
  apart s hs := by
    have part : Span.Within ⟨base, base + size⟩ ⟨base, base + size'⟩ :=
      ⟨le_rfl, Nat.add_le_add_left le base⟩
    exact (h.apart s (sub hs)).mono ⟨le_rfl, le_rfl⟩ part

/-- What fits beside a range that was taken first fit lies behind it, unless it is smaller. -/
theorem stop_le_of_isLeast (least : IsLeast {b | Fits region taken size b} base)
    (h : Fits region taken' size' base') (sub : taken ⊆ taken')
    (mem : ⟨base, base + size⟩ ∈ taken') (le : size ≤ size') : base + size ≤ base' := by
  have apart : base + size ≤ base' ∨ base' + size' ≤ base := h.apart _ mem
  rcases apart with behind | below
  · exact behind
  · -- below the range it would have been found for the range itself
    have found : base ≤ base' := least.2 (h.mono sub le)
    omega

end Fits

namespace Allocation

variable {a : Allocation} {xs ys : List (String × Request)}

theorem reservedRanges_append :
    a.reservedRanges (xs ++ ys) = a.reservedRanges xs ++ a.reservedRanges ys :=
  List.filterMap_append

theorem reservedRanges_cons {name : String} {r : Request} {w : Window}
    (has : a.get? name = some w) :
    a.reservedRanges ((name, r) :: xs) = w.reservedRange :: a.reservedRanges xs :=
  List.filterMap_cons_some (by rw [has]; rfl)

end Allocation

theorem exists_split_of_sublist {α : Type} {x y : α} {xs : List α} (h : [x, y].Sublist xs) :
    ∃ before between rest, xs = before ++ x :: (between ++ y :: rest) := by
  obtain ⟨front, back, rfl, hfront, hback⟩ := List.cons_sublist_iff.1 h
  obtain ⟨before, between, rfl⟩ := List.append_of_mem hfront
  obtain ⟨further, rest, rfl⟩ := List.append_of_mem (List.singleton_sublist.1 hback)
  exact ⟨before, between ++ further, rest, by simp⟩

namespace AddressMap

/-- Two automatic entries are placed in the order in which they are registered. -/
theorem sublist_autoRequests {m : AddressMap} {first second : String × Request}
    (order : [first, second].Sublist m.requests) (auto : first.2.placement = .auto)
    (auto' : second.2.placement = .auto) : [first, second].Sublist m.autoRequests := by
  have both : [first, second].filter (·.2.placement.isAuto) = [first, second] := by
    simp [Placement.isAuto_iff, auto, auto']
  exact both ▸ order.filter (·.2.placement.isAuto)

/-- A small automatic entry. -/
def timerEntry : String × Request := ("timer", .ofSize 0x10 none .auto (by decide))

/-- A larger one. -/
def bufferEntry : String × Request := ("buffer", .ofSize 0x1800 none .auto (by decide))

/-- The two with a fixed entry on the first page of the region, and a small automatic entry at the
end, which goes into the gap below the larger one. -/
def gappedMap : AddressMap where
  autoRegion := defaultRegion
  requests := [timerEntry, ("leds", .ofSize 0x24 none (.fixed 0xf0000200) (by decide)), bufferEntry,
    ("uart", .ofSize 0x34 none .auto (by decide))]
  names_nodup := by decide

end AddressMap

end SocAssembly
