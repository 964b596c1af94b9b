import Mathlib
import SocAssembly.Proofs.Acceptance
import SocAssembly.Proofs.BusWords
import SocAssembly.Proofs.RecordedParents
import SocAssembly.Proofs.WordPlacing

/-!
# Designs in words of 64 bits

A descriptor whose sizes and addresses are written as signed numbers of 64 bits is assembled in
words of 64 bits as with exact numbers: the machine describes the same system, finishes it to the
same design or refuses it for the same reason, and nothing is cut off on the way, not even where a
size just below 2^63 is rounded up and refused in the end. What the design says about addresses can
be read in words too, as every window ends within the address space.
-/

namespace SocAssembly

/-! ### Small parts -/

/-- A certain address is wanted only where one is written. -/
theorem Placement.Denoted.address_eq {address : Option Nat} {parent : Option String} {base : Nat}
    (h : Denoted address parent (.fixed base)) : address = some base := by
  cases h
  rfl

theorem MemoryPlan.Makes.isSmall_request {m : MemoryPlan} {part : Part} (h : m.Makes part)
    (size : m.memory.size < 2 ^ 63) (address : ∀ base, m.address = some base → base < 2 ^ 63) :
    part.request.IsSmall := by
  refine ⟨?_, fun base fixed => ?_⟩
  · rw [h.reserve_eq]
    show windowSize part.component.size ≤ _
    rw [h.component_eq]
    exact windowSize_le_half size.le
  · have wanted := Placement.denoted_of_memory h.placement_eq
    change part.placement = .fixed base at fixed
    rw [fixed] at wanted
    exact address base wanted.address_eq

theorem PeripheralPlan.Makes.isSmall_request {plan : PeripheralPlan} {part : Part}
    (h : plan.Makes part) (address : ∀ base, plan.address = some base → base < 2 ^ 63) :
    part.request.IsSmall := by
  refine ⟨?_, fun base fixed => ?_⟩
  · rw [h.reserve_eq]
    split <;> decide
  · have wanted := Placement.denoted_of_peripheral h.placement_eq
    change part.placement = .fixed base at fixed
    rw [fixed] at wanted
    exact address base wanted.address_eq

/-- A system that is made from small numbers has small parts. -/
theorem Soc.isSmall_of_ofDescriptor {d : Descriptor} (small : d.IsSmall) {s : Soc}
    (h : ofDescriptor d = .ok s) : s.IsSmall := by
  obtain ⟨memories, peripherals, parts, mmatch, pmatch⟩ := exists_parts_of_ofDescriptor h
  refine ⟨fun part hpart => ?_, fun q hq => ?_⟩
  · rw [parts] at hpart
    rcases List.mem_append.1 hpart with hpart | hpart
    · obtain ⟨m, hm, made⟩ := exists_of_forall₂ mmatch hpart
      exact made.isSmall_request (small.memory_size m hm) (small.memory_address m hm)
    · obtain ⟨plan, hplan, made⟩ := exists_of_forall₂ pmatch hpart
      exact made.isSmall_request (small.peripheral_address plan hplan)
  · have described := (Descriptor.describes_of_ofDescriptor h).peripherals
    obtain ⟨plan, -, describes⟩ := exists_of_forall₂ described hq
    exact (Words.isSmall_of_peripheral describes.made).size_le

/-! ### Designs -/

namespace Words

open Session

theorem assemble_gives {d : Descriptor} (small : d.IsSmall) (p : Platform) :
    (assemble d p).Gives (d.assemble p) :=
  (ofDescriptor_gives small).bind_map fun _ made =>
    finalize_gives (Soc.isSmall_of_ofDescriptor small made) p

theorem rangeFrom_gives {base size : Nat} (h : base + size ≤ addressSpaceEnd) :
    (rangeFrom base size).Gives (pure ⟨base, base + size⟩) :=
  (add_gives (h.trans_lt (by decide))).bind_pure (.pure _)

end Words

/-- In words of 64 bits the descriptor leads to what it leads to with exact numbers. -/
structure Descriptor.FitsWords (d : Descriptor) (p : Platform) : Prop where
  /-- The system is described in words. -/
  described : (Words.ofDescriptor d).Gives (Soc.words <$> .ofExcept (Soc.ofDescriptor d))
  /-- The design is assembled in words. -/
  assembled : (Words.assemble d p).Gives (d.assemble p)
  /-- A number that is cut off on the way is noticed in the end. -/
  sticky : (Words.assemble d p).Sticky
  /-- The addresses of a window, and those that are kept free for it, are found in words. -/
  windows : ∀ s a, Soc.ofDescriptor d = .ok s → s.addressMap.allocate.outcome = .ok a →
    ∀ x ∈ a.windows, (Words.rangeFrom x.2.base x.2.size).Gives (pure x.2.range) ∧
      (Words.rangeFrom x.2.base x.2.reserved).Gives (pure x.2.reservedRange)
  /-- So are the addresses of each entry of the design. -/
  entries : ∀ design, (d.assemble p).outcome = .ok design → ∀ e ∈ design.entries,
    (Words.rangeFrom e.base e.size).Gives (pure e.range)

/-- **Words of 64 bits suffice.** A descriptor whose sizes and addresses are below 2^63 leads to the
same design, or to the same error, in words of 64 bits as with exact numbers, and on the way nothing
is ever cut off. -/
theorem Descriptor.fitsWords {d : Descriptor} (small : d.IsSmall) (p : Platform) :
    d.FitsWords p where
  described := Words.ofDescriptor_gives small
  assembled := Words.assemble_gives small p
  sticky := Words.sticky_assemble d p
  windows := fun s a _ allocated x hx => by
    obtain ⟨top, full, settled⟩ := AddressMap.exists_settled allocated
    have kept : x.2.base + x.2.reserved ≤ max addressSpaceEnd addressSpaceEnd := settled.stop_le hx
    rw [max_self] at kept
    have inside := (settled.size_le_reserved hx).2
    exact ⟨Words.rangeFrom_gives ((Nat.add_le_add_left inside _).trans kept),
      Words.rangeFrom_gives kept⟩
  entries := fun design assembled e he => by
    obtain ⟨s, -, finished⟩ := Report.bind_eq_ok_iff.1 assembled
    obtain ⟨a, finalized⟩ := Soc.finalize_eq_ok_iff.1 finished
    exact Words.rangeFrom_gives (finalized.stop_le he)

/-! ### On a bench -/

/-- A memory, and a controller with a queue that is described before it. -/
def Descriptor.queue : Descriptor where
  name := "queue"
  cpu := { name := "vexriscv", variant := "imac" }
  memories := [⟨⟨"ram", .ram, 0x8000, "Firmware memory"⟩, some 0⟩]
  peripherals := [
    { name := "host_ep_in", kind := .inFifo, parent := some "host" },
    { name := "host", kind := .usbDeviceController }]

/-- The system that it describes. -/
def Soc.queueSoc : Soc where
  name := "queue"
  cpu := { name := "vexriscv", variant := "imac" }
  parts := [
    ⟨.memory ⟨"ram", .ram, 0x8000, "Firmware memory"⟩, .fixed 0, by decide⟩,
    ⟨.peripheral (.inFifo "host_ep_in"), .attached "host", by decide⟩,
    ⟨.peripheral (.usbDeviceController "host"), .auto, by decide⟩]
  names_nodup := by decide

/-- A memory of almost half of what a word can say, almost as far up as an address can be. -/
def Descriptor.farMemory : Descriptor where
  name := "far"
  cpu := { name := "vexriscv", variant := "imac" }
  memories := [⟨⟨"ram", .ram, 2 ^ 63 - 1, "Out of reach"⟩, some (2 ^ 63 - 0x1000)⟩]
  peripherals := []

/-- The controller and its queue are placed, and a window that would end a page before 2^64 is
refused as such. -/
theorem Descriptor.fitsWords_queue_farMemory :
    (queue.IsSmall ∧ farMemory.IsSmall) ∧
    (queue.assemble Soc.benchPlatform).outcome.map (·.entries.map Entry.range) =
      .ok [⟨0, 0x8000⟩, ⟨0xf0000100, 0xf000012c⟩, ⟨0xf0000000, 0xf000001c⟩] ∧
    (farMemory.assemble Soc.benchPlatform).outcome =
      .error (.outOfAddressSpace "ram" (2 ^ 63 - 0x1000) (2 ^ 63)) ∧
    queue.FitsWords Soc.benchPlatform ∧ farMemory.FitsWords Soc.benchPlatform := by
  have small : queue.IsSmall := ⟨by decide, by decide, by decide⟩
  have far : farMemory.IsSmall := ⟨by decide, by decide, by decide⟩
  have described : Soc.ofDescriptor queue = .ok Soc.queueSoc := rfl
  have allocated : Soc.queueSoc.addressMap.allocate.outcome = .ok ⟨[
      ("ram", ⟨0, 0x8000, 0x8000, none⟩),
      ("host_ep_in", ⟨0xf0000100, 0x100, 0x100, some "host"⟩),
      ("host", ⟨0xf0000000, 0x100, 0x1000, none⟩)]⟩ := by cbv
  have placed : (queue.assemble Soc.benchPlatform).outcome.map (·.entries.map Entry.range) =
      .ok [⟨0, 0x8000⟩, ⟨0xf0000100, 0xf000012c⟩, ⟨0xf0000000, 0xf000001c⟩] := by
    unfold assemble
    rw [described, Report.outcome_bind]
    show ((Soc.queueSoc.finalize Soc.benchPlatform).outcome).map _ = _
    unfold Soc.finalize
    rw [Report.outcome_bind, allocated]
    rfl
  exact ⟨⟨small, far⟩, placed, rfl, fitsWords small _, fitsWords far _⟩

end SocAssembly
