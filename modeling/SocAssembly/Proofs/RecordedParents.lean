import Mathlib
import SocAssembly.Proofs.Appending

/-!
# What a design says of attachments

A finished design has an entry for each part, at the window that the part was given. The windows tell
everything about attachments: an attached part lies in what is kept free for its parent, above the
parent's own bytes, and parts that are not attached share nothing of what is kept free for them
(`Soc.Finalized.placesAttachments`). The entry of a peripheral takes the parent over from its window,
but the entry of a memory does not. So what a reader can tell from the design alone is right exactly
if no memory is attached (`Soc.recordsAttachments_iff`).
-/

namespace SocAssembly

/-- The entry that a placement shares the window of. -/
def Placement.parent? : Placement → Option String
  | attached parent => some parent
  | _ => none

theorem Placement.parent?_eq_some_iff {p : Placement} {parent : String} :
    p.parent? = some parent ↔ p = .attached parent := by
  cases p <;> simp [parent?]

/-- A window has the parent that its request names. -/
theorem Request.AnsweredBy.parent_eq {r : Request} {w : Window} (h : r.AnsweredBy w) :
    w.parent = r.placement.parent? := by
  obtain ⟨-, answered⟩ := h
  cases hr : r.placement with
  | auto =>
    rw [hr] at answered
    exact answered.2
  | fixed base =>
    rw [hr] at answered
    exact answered.2.2
  | attached parent =>
    rw [hr] at answered
    exact answered.2

/-- The addresses kept free for an entry. -/
def Entry.reservedRange (e : Entry) : Span := ⟨e.base, e.base + e.reserved⟩

/-- The addresses kept free for an entry above its own bytes. -/
def Entry.annex (e : Entry) : Span := ⟨e.base + e.size, e.base + e.reserved⟩

namespace Design

/-- The entries are where the placements of their parts want them. -/
structure PlacesAttachments (s : Soc) (d : Design) : Prop where
  /-- No entry occupies more than what is kept free for it. -/
  covered : ∀ e ∈ d.entries, e.range.Within e.reservedRange
  /-- Peripherals have the parents that they are attached to, and memories have none. -/
  parent_eq : ∀ part ∈ s.parts, ∀ e ∈ d.entries, e.name = part.name →
    e.parent = if e.isMemory then none else part.placement.parent?
  /-- An attached part lies in what is kept free for its parent, above the parent's own bytes. -/
  within : ∀ part ∈ s.parts, ∀ e ∈ d.entries, e.name = part.name →
    ∀ parent, part.placement = .attached parent →
    ∃ host ∈ d.entries, host.name = parent ∧ e.reservedRange.Within host.annex
  /-- Parts that are not attached share nothing of what is kept free for them. -/
  apart : ∀ part ∈ s.parts, ∀ part' ∈ s.parts, ∀ e ∈ d.entries, ∀ e' ∈ d.entries,
    e.name = part.name → e'.name = part'.name → e.name ≠ e'.name →
    part.placement.parent? = none → part'.placement.parent? = none →
    e.reservedRange.Apart e'.reservedRange

/-- The design alone tells how its entries are attached. -/
structure RecordsAttachments (s : Soc) (d : Design) : Prop where
  /-- No entry occupies more than what is kept free for it. -/
  covered : ∀ e ∈ d.entries, e.range.Within e.reservedRange
  /-- An entry has the parent that its part is attached to, if it is. -/
  parent_eq : ∀ part ∈ s.parts, ∀ e ∈ d.entries, e.name = part.name →
    e.parent = part.placement.parent?
  /-- An entry with a parent lies in what is kept free for the parent, above the parent's own
  bytes. -/
  within : ∀ e ∈ d.entries, ∀ parent, e.parent = some parent →
    ∃ host ∈ d.entries, host.name = parent ∧ e.reservedRange.Within host.annex
  /-- Entries without a parent share nothing of what is kept free for them. -/
  apart : ∀ e ∈ d.entries, ∀ e' ∈ d.entries, e.name ≠ e'.name → e.parent = none →
    e'.parent = none → e.reservedRange.Apart e'.reservedRange

end Design

namespace Component

variable (c : Component) (irq : Option Nat) (w : Window)

@[simp] theorem name_entryAt : (c.entryAt irq w).name = c.name := by cases c <;> rfl

@[simp] theorem base_entryAt : (c.entryAt irq w).base = w.base := by cases c <;> rfl

@[simp] theorem size_entryAt : (c.entryAt irq w).size = c.size := by cases c <;> rfl

@[simp] theorem reserved_entryAt : (c.entryAt irq w).reserved = w.reserved := by cases c <;> rfl

@[simp] theorem reservedRange_entryAt : (c.entryAt irq w).reservedRange = w.reservedRange := by
  cases c <;> rfl

/-- The entry of a peripheral takes the parent over, that of a memory does not. -/
theorem parent_entryAt :
    (c.entryAt irq w).parent = if (c.entryAt irq w).isMemory then none else w.parent := by
  cases c <;> rfl

end Component

namespace Soc

/-! ### Parts and their windows -/

section Parts

variable {s : Soc} {a : Allocation}

theorem mem_requests_of_mem_parts {part : Part} (hpart : part ∈ s.parts) :
    (part.name, part.request) ∈ s.addressMap.requests :=
  List.mem_map_of_mem hpart

/-- Names tell parts from one another. -/
theorem eq_of_name_eq {part part' : Part} (hpart : part ∈ s.parts) (hpart' : part' ∈ s.parts)
    (same : part.name = part'.name) : part = part' :=
  List.inj_on_of_nodup_map s.names_nodup hpart hpart' same

/-- A window has the parent that the placement of its part names. -/
theorem parent_of_sound (sound : a.Sound s.addressMap) {part : Part} (hpart : part ∈ s.parts)
    {w : Window} (hw : a.get? part.name = some w) : w.parent = part.placement.parent? := by
  obtain ⟨v, hv, answered⟩ := sound.answered _ (mem_requests_of_mem_parts hpart)
  rw [hw, Option.some.injEq] at hv
  exact hv ▸ answered.parent_eq

/-- The bytes of a part fit into its window, and the window into what is kept free for it. -/
theorem size_le_of_allocate (allocated : s.addressMap.allocate.outcome = .ok a) {part : Part}
    (hpart : part ∈ s.parts) {w : Window} (hw : a.get? part.name = some w) :
    part.component.size ≤ w.size ∧ w.size ≤ w.reserved := by
  obtain ⟨top, full, settled⟩ := AddressMap.exists_settled allocated
  refine ⟨?_, (settled.size_le_reserved (mem_of_lookup hw)).2⟩
  rw [size_eq_windowSize settled hpart hw]
  exact le_windowSize part.component.size

end Parts

namespace Finalized

variable {s : Soc} {p : Platform} {a : Allocation} {d : Design}

/-- Every entry is that of a part, at the window that the part was given. -/
theorem exists_entryAt (h : s.Finalized p a d) {e : Entry} (he : e ∈ d.entries) :
    ∃ part ∈ s.parts, ∃ irq w, a.get? part.name = some w ∧ part.component.entryAt irq w = e := by
  rcases List.mem_append.1 he with he | he
  · obtain ⟨m, hm, w, hw, rfl⟩ := h.exists_memory he
    obtain ⟨part, hpart, hcomponent⟩ := mem_memories.1 hm
    refine ⟨part, hpart, none, w, ?_⟩
    rw [Part.name, hcomponent]
    exact ⟨hw, rfl⟩
  · obtain ⟨q, hq, irq, w, hw, rfl⟩ := h.exists_peripheral he
    obtain ⟨part, hpart, hcomponent⟩ := mem_peripherals.1 hq
    refine ⟨part, hpart, irq, w, ?_⟩
    rw [Part.name, hcomponent]
    exact ⟨hw, rfl⟩

/-- The entry under the name of a part is that of the part. -/
theorem entryAt_of_name_eq (h : s.Finalized p a d) {part : Part} (hpart : part ∈ s.parts)
    {e : Entry} (he : e ∈ d.entries) (name : e.name = part.name) :
    ∃ irq w, a.get? part.name = some w ∧ part.component.entryAt irq w = e := by
  obtain ⟨part', hpart', irq, w, hw, rfl⟩ := h.exists_entryAt he
  rw [Component.name_entryAt] at name
  obtain rfl : part' = part := eq_of_name_eq hpart' hpart name
  exact ⟨irq, w, hw, rfl⟩

/-- Every name of the address map is that of an entry. -/
theorem exists_entry (h : s.Finalized p a d) {name : String} {w : Window}
    (hw : a.get? name = some w) : ∃ e ∈ d.entries, e.name = name := by
  have mem : name ∈ a.windows.map Prod.fst := List.mem_map_of_mem (mem_of_lookup hw)
  rw [(AddressMap.sound_of_allocate h.allocated).names_eq, names_addressMap,
    ← s.names_perm.mem_iff, ← h.names_eq] at mem
  exact List.mem_map.1 mem

/-- What is above a window in what is kept free for it is so for an entry: the entry occupies no
more than its window. -/
theorem exists_annex (h : s.Finalized p a d) {name : String} {w : Window}
    (hw : a.get? name = some w) : ∃ e ∈ d.entries, e.name = name ∧
      Span.Within ⟨w.base + w.size, w.base + w.reserved⟩ e.annex := by
  obtain ⟨e, he, rfl⟩ := h.exists_entry hw
  refine ⟨e, he, rfl, ?_⟩
  obtain ⟨part, hpart, irq, v, hv, rfl⟩ := h.exists_entryAt he
  rw [Component.name_entryAt] at hw
  obtain rfl : v = w := Option.some.inj (hv.symm.trans hw)
  obtain ⟨bytes, -⟩ := size_le_of_allocate h.allocated hpart hv
  refine ⟨?_, ?_⟩
  · rw [Entry.annex, Component.base_entryAt, Component.size_entryAt]
    exact Nat.add_le_add_left bytes v.base
  · rw [Entry.annex, Component.base_entryAt, Component.reserved_entryAt]

/-- The windows of an allocation put the entries where their placements want them. -/
theorem placesAttachments (h : s.Finalized p a d) : d.PlacesAttachments s := by
  have sound := AddressMap.sound_of_allocate h.allocated
  refine
    { covered := fun e he => ?_
      parent_eq := fun part hpart e he name => ?_
      within := fun part hpart e he name parent attached => ?_
      apart := fun part hpart part' hpart' e he e' he' name name' ne top top' => ?_ }
  · obtain ⟨part, hpart, irq, w, hw, rfl⟩ := h.exists_entryAt he
    obtain ⟨bytes, whole⟩ := size_le_of_allocate h.allocated hpart hw
    refine ⟨le_rfl, ?_⟩
    rw [Entry.range, Entry.reservedRange, Component.size_entryAt, Component.reserved_entryAt]
    exact Nat.add_le_add_left (bytes.trans whole) _
  · obtain ⟨irq, w, hw, rfl⟩ := h.entryAt_of_name_eq hpart he name
    rw [Component.parent_entryAt, parent_of_sound sound hpart hw]
  · obtain ⟨irq, w, hw, rfl⟩ := h.entryAt_of_name_eq hpart he name
    have hparent : w.parent = some parent := by
      rw [parent_of_sound sound hpart hw, attached]
      rfl
    obtain ⟨-, v, hv, above⟩ := sound.attached_within _ (mem_of_lookup hw) parent hparent
    obtain ⟨host, hhost, same, annex⟩ := h.exists_annex hv
    rw [Component.reservedRange_entryAt]
    exact ⟨host, hhost, same, above.trans annex⟩
  · obtain ⟨irq, w, hw, rfl⟩ := h.entryAt_of_name_eq hpart he name
    obtain ⟨irq', w', hw', rfl⟩ := h.entryAt_of_name_eq hpart' he' name'
    rw [Component.reservedRange_entryAt, Component.reservedRange_entryAt]
    rw [name, name'] at ne
    refine sound.reserved_apart _ (mem_of_lookup hw) _ (mem_of_lookup hw') ne ?_ ?_
    · exact (parent_of_sound sound hpart hw).trans top
    · exact (parent_of_sound sound hpart' hw').trans top'

end Finalized

/-- **Memories lose their parents.** Whatever parts a system is put together from and wherever they
want to be: the entries of the finished design are where they are wanted, and the design alone tells
how they are attached exactly if no memory is attached. -/
theorem recordsAttachments_iff {s : Soc} {p : Platform} {d : Design}
    (h : (s.finalize p).outcome = .ok d) : d.PlacesAttachments s ∧
      (d.RecordsAttachments s ↔
        ∀ part ∈ s.parts, part.component.memory?.isSome → part.placement.parent? = none) := by
  obtain ⟨a, finalized⟩ := finalize_eq_ok_iff.1 h
  have places := finalized.placesAttachments
  have isMemory : ∀ part ∈ s.parts, ∀ e ∈ d.entries, e.name = part.name →
      e.isMemory = part.component.memory?.isSome := by
    intro part hpart e he name
    obtain ⟨irq, w, -, rfl⟩ := finalized.entryAt_of_name_eq hpart he name
    cases part.component <;> rfl
  refine ⟨places, fun records part hpart memory => ?_, fun free => ?_⟩
  · obtain ⟨w, hw⟩ := exists_window finalized.allocated hpart
    obtain ⟨e, he, name⟩ := finalized.exists_entry hw
    rw [← records.parent_eq part hpart e he name, places.parent_eq part hpart e he name,
      isMemory part hpart e he name, memory, if_pos rfl]
  · have parent_eq : ∀ part ∈ s.parts, ∀ e ∈ d.entries, e.name = part.name →
        e.parent = part.placement.parent? := by
      intro part hpart e he name
      rw [places.parent_eq part hpart e he name, isMemory part hpart e he name]
      split
      · rename_i memory
        exact (free part hpart memory).symm
      · rfl
    refine ⟨places.covered, parent_eq, fun e he parent hparent => ?_,
      fun e he e' he' ne top top' => ?_⟩
    · obtain ⟨part, hpart, irq, w, hw, rfl⟩ := finalized.exists_entryAt he
      have name := Component.name_entryAt part.component irq w
      rw [parent_eq part hpart _ he name] at hparent
      exact places.within part hpart _ he name parent (Placement.parent?_eq_some_iff.1 hparent)
    · obtain ⟨part, hpart, irq, w, hw, rfl⟩ := finalized.exists_entryAt he
      obtain ⟨part', hpart', irq', w', hw', rfl⟩ := finalized.exists_entryAt he'
      have name := Component.name_entryAt part.component irq w
      have name' := Component.name_entryAt part'.component irq' w'
      rw [parent_eq part hpart _ he name] at top
      rw [parent_eq part' hpart' _ he' name'] at top'
      exact places.apart part hpart part' hpart' _ he _ he' name name' ne top top'

theorem recordsAttachments_tickSoc : ∃ d : Design,
    (tickSoc.finalize benchPlatform).outcome = .ok d ∧
    d.peripherals.map (fun e => (e.name, e.parent)) =
      [("ep_in", some "usb"), ("usb", none), ("ticks", none)] ∧
    d.RecordsAttachments tickSoc := by
  have finished : ∃ d : Design, (tickSoc.finalize benchPlatform).outcome = .ok d ∧
      d.peripherals.map (fun e => (e.name, e.parent)) =
        [("ep_in", some "usb"), ("usb", none), ("ticks", none)] := by
    unfold finalize
    rw [Report.outcome_bind, allocate_tickSoc]
    exact ⟨_, rfl, by decide⟩
  obtain ⟨d, hd, parents⟩ := finished
  exact ⟨d, hd, parents, (recordsAttachments_iff hd).2.2 (by decide)⟩

/-- The memory lies in what is kept free for the controller, and its entry has no parent. -/
theorem unrecorded_bufferSoc : ∃ d : Design, (bufferSoc.finalize benchPlatform).outcome = .ok d ∧
    d.entries.map (fun e => (e.name, e.base, e.reserved, e.parent)) =
      [("ram", 0xf0000100, 0x100, none), ("usb", 0xf0000000, 0x1000, none)] ∧
    ¬ d.RecordsAttachments bufferSoc := by
  have allocated : bufferSoc.addressMap.allocate.outcome = .ok ⟨[
      ("usb", ⟨0xf0000000, 0x100, 0x1000, none⟩),
      ("ram", ⟨0xf0000100, 0x100, 0x100, some "usb"⟩)]⟩ := by cbv
  have finished : ∃ d : Design, (bufferSoc.finalize benchPlatform).outcome = .ok d ∧
      d.entries.map (fun e => (e.name, e.base, e.reserved, e.parent)) =
        [("ram", 0xf0000100, 0x100, none), ("usb", 0xf0000000, 0x1000, none)] := by
    unfold finalize
    rw [Report.outcome_bind, allocated]
    exact ⟨_, rfl, by decide⟩
  obtain ⟨d, hd, shown⟩ := finished
  refine ⟨d, hd, shown, fun records => ?_⟩
  have mem : ("ram", 0xf0000100, 0x100, none) ∈
      d.entries.map fun e => (e.name, e.base, e.reserved, e.parent) := by
    rw [shown]
    exact List.mem_cons_self ..
  obtain ⟨e, he, same⟩ := List.mem_map.1 mem
  simp only [Prod.mk.injEq] at same
  have attached := records.parent_eq _ (List.mem_cons_of_mem _ (List.mem_cons_self ..)) e he same.1
  rw [same.2.2.2] at attached
  cases attached

end Soc

end SocAssembly
