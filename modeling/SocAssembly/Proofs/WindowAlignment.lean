import Mathlib
import SocAssembly.Proofs.Allocation

/-!
# Where windows are aligned

Three rules decide where a window starts: a fixed address is checked for its alignment, an automatic
one is rounded up, and an attached window begins where the last one before it ended. The first two
align a window to the granularity of what is kept free for it. The third aligns it in packed units
only, because all windows are measured in them; this is the granularity of an attached window that
is smaller than a page, but a larger one is aligned to it exactly if what lies before it in the
window of its parent adds up to whole pages (`AddressMap.Settled.granularity_dvd_base_iff`).
-/

namespace SocAssembly

theorem granularity_of_page_le {size : Nat} (h : page ≤ size) : granularity size = page := if_pos h

theorem granularity_of_lt_page {size : Nat} (h : size < page) : granularity size = packed :=
  if_neg (Nat.not_le.2 h)

/-- How the windows of an allocation are aligned. -/
structure Allocation.Aligned (m : AddressMap) (a : Allocation) : Prop where
  /-- A fixed or automatic entry is aligned to the granularity of what is kept free for it. -/
  own : ∀ x ∈ m.requests, x.2.placement.isAttached = false →
    ∃ w, a.get? x.1 = some w ∧ granularity w.reserved ∣ w.base
  /-- Every entry is aligned in packed units. -/
  packed_dvd : ∀ x ∈ a.windows, packed ∣ x.2.base
  /-- An entry that keeps less than a page free is aligned to its granularity. -/
  small : ∀ x ∈ a.windows, x.2.reserved < page → granularity x.2.reserved ∣ x.2.base
  /-- An attached entry of a page or more is aligned to its granularity exactly if the parent's own
  bytes and those of the children before it make whole pages. -/
  attached_iff : ∀ parent before name r rest, m.children parent = before ++ (name, r) :: rest →
    page ≤ r.size → ∃ p w, m.request? parent = some p ∧ a.get? name = some w ∧
      (granularity w.reserved ∣ w.base ↔ page ∣ p.size + totalSize before)

namespace AddressMap

/-- The alignment of a large attached window does not depend on where its parent is: the parent
keeps a page or more free itself, so it starts on a page. -/
theorem Settled.granularity_dvd_base_iff {m : AddressMap} {a : Allocation} {top full : Layout}
    (h : m.Settled a top full) {name parent : String} {r : Request}
    {before rest : List (String × Request)}
    (split : m.children parent = before ++ (name, r) :: rest) (large : page ≤ r.size) :
    ∃ p w, m.request? parent = some p ∧ a.get? name = some w ∧
      (granularity w.reserved ∣ w.base ↔ page ∣ p.size + totalSize before) := by
  obtain ⟨w, -, hw, hget⟩ := h.get?_of_attached split
  obtain ⟨p, hp, granted⟩ := h.holds.exists_request (mem_of_lookup hw)
  obtain ⟨v, hv, room⟩ := h.fits parent (by rw [split]; simp)
  obtain rfl := Option.some.inj (hw.symm.trans hv)
  have mem : m.request? parent = some p :=
    m.request?_eq_some_iff.2 (mem_topRequests.1 hp).1
  have hosted : page ∣ w.base := by
    have reserved : page ≤ w.reserved := by
      simp only [split, totalSize_append, totalSize_cons] at room
      omega
    rw [← granularity_of_page_le reserved, granted.reserved_eq]
    exact granted.aligned
  refine ⟨p, _, mem, hget, ?_⟩
  show granularity r.size ∣ w.base + w.size + totalSize before ↔ _
  rw [granularity_of_page_le large, granted.size_eq, Nat.add_assoc, Nat.dvd_add_right hosted]

/-- **Alignment of windows.** Whatever is registered: in a successful allocation every entry is
aligned in packed units, and to its granularity if it has a place of its own or is smaller than a
page; whether a larger attached entry is depends on what lies before it in its parent's window. -/
theorem aligned_of_allocate {m : AddressMap} {a : Allocation} (h : m.allocate.outcome = .ok a) :
    a.Aligned m := by
  obtain ⟨top, full, settled⟩ := exists_settled h
  refine ⟨fun x hx level => ?_, fun x hx => (settled.size_le_reserved hx).1,
    fun x hx less => ?_, fun parent before name r rest split large =>
      settled.granularity_dvd_base_iff split large⟩
  · obtain ⟨w, hw, -, granted⟩ := settled.get?_of_top hx level
    exact ⟨w, hw, granted.reserved_eq ▸ granted.aligned⟩
  · rw [granularity_of_lt_page less]
    exact (settled.size_le_reserved hx).1

/-- A controller with an attached entry of a page. -/
def pageInside : AddressMap where
  autoRegion := defaultRegion
  requests := [
    ("usb", .ofSize 0x100 (some 0x2000) .auto (by decide)),
    ("fifo", .ofSize 0x1000 none (.attached "usb") (by decide))]
  names_nodup := by decide

theorem allocate_pageInside : pageInside.allocate.outcome = .ok ⟨[
    ("usb", ⟨0xf0000000, 0x100, 0x2000, none⟩),
    ("fifo", ⟨0xf0000100, 0x1000, 0x1000, some "usb"⟩)]⟩ := by cbv

theorem aligned_pageInside : ∃ a : Allocation, pageInside.allocate.outcome = .ok a ∧
    a.Aligned pageInside :=
  ⟨_, allocate_pageInside, aligned_of_allocate allocate_pageInside⟩

/-- The attached entry starts behind the controller's own bytes, in the middle of a page. -/
theorem misaligned_pageInside : ∃ a : Allocation, pageInside.allocate.outcome = .ok a ∧
    a.get? "fifo" = some ⟨0xf0000100, 0x1000, 0x1000, some "usb"⟩ ∧
    ¬ ∀ x ∈ a.windows, granularity x.2.reserved ∣ x.2.base :=
  ⟨_, allocate_pageInside, by decide, by decide⟩

end AddressMap

end SocAssembly
