import SocAssembly.AddressMap.Allocation
import SocAssembly.Design.Basic

/-!
# Systems under construction

## The model

A system on a chip is put together by adding memories and peripherals, each with the place it wants
on the bus. The parts are kept in the order in which they were added; names are distinct and no
part is empty, so the parts make an address map (`Soc.addressMap`), and a part is accepted exactly
if that map accepts it. A part that is refused leaves the system as it was.

Finishing the system (`Soc.finalize`) places the parts, looks up the clock, numbers the interrupts
of the peripherals with events from zero on, and finds a memory for each section of the firmware:
the one that was chosen, or else the first RAM.
-/

namespace SocAssembly

/-- What a system is put together from. -/
inductive Component where
  /-- A memory. -/
  | memory (m : Memory)
  /-- A peripheral. -/
  | peripheral (p : Peripheral)
  deriving DecidableEq, Repr

namespace Component

/-- The name of a component. -/
def name : Component → String
  | memory m => m.name
  | peripheral p => p.name

/-- The bytes that a component occupies. -/
def size : Component → Nat
  | memory m => m.size
  | peripheral p => p.blockSize

/-- The bytes that a component wants to keep free on the bus, if it says so. -/
def reserve : Component → Option Nat
  | memory _ => none
  | peripheral p => p.window

/-- The memory that the component is. -/
def memory? : Component → Option Memory
  | memory m => some m
  | peripheral _ => none

/-- The peripheral that the component is. -/
def peripheral? : Component → Option Peripheral
  | memory _ => none
  | peripheral p => some p

end Component

/-- A component with the place that it wants. -/
structure Part where
  /-- The component. -/
  component : Component
  /-- Where it wants to be. -/
  placement : Placement
  size_ne_zero : component.size ≠ 0

namespace Part

/-- The name of a part. -/
def name (p : Part) : String := p.component.name

/-- What a part asks of the bus. -/
def request (p : Part) : Request :=
  .ofSize p.component.size p.component.reserve p.placement p.size_ne_zero

end Part

/-- A system that is being put together. -/
structure Soc where
  /-- Its name. -/
  name : String
  /-- Its processor. -/
  cpu : Cpu
  /-- The clock domain that it runs from. -/
  clockDomain : String := "usb"
  /-- The memories of the firmware sections, where they are chosen. -/
  firmware : Sections (Option String) := .replicate none
  /-- Its parts, in the order of addition. -/
  parts : List Part := []
  names_nodup : (parts.map Part.name).Nodup := by exact List.nodup_nil

namespace Soc

/-- The memories, in the order of addition. -/
def memories (s : Soc) : List Memory := s.parts.filterMap (·.component.memory?)

/-- The peripherals, in the order of addition. -/
def peripherals (s : Soc) : List Peripheral := s.parts.filterMap (·.component.peripheral?)

/-- There is a peripheral with this name. -/
def hasPeripheral (s : Soc) (name : String) : Bool := s.peripherals.any (·.name = name)

/-- The requests of the parts. -/
def addressMap (s : Soc) : AddressMap where
  autoRegion := AddressMap.defaultRegion
  requests := s.parts.map fun p => (p.name, p.request)
  names_nodup := by
    have h : s.parts.map (Prod.fst ∘ fun p => (p.name, p.request)) = s.parts.map Part.name := rfl
    rw [List.map_map, h]
    exact s.names_nodup

theorem names_addressMap (s : Soc) : s.addressMap.names = s.parts.map Part.name := by
  unfold AddressMap.names addressMap
  rw [List.map_map]
  rfl

/-- The system with one more part, if the address map accepts it. -/
def add (s : Soc) (c : Component) (placement : Placement) : Except Error Soc :=
  match accepted : s.addressMap.add c.name c.size c.reserve placement with
  | .error e => .error e
  | .ok _ =>
    have free := (AddressMap.add_isOk_iff s.addressMap c.name c.size c.reserve placement).1
      (by rw [accepted]; rfl)
    .ok
      { s with
        parts := s.parts ++ [⟨c, placement, free.1⟩]
        names_nodup := by
          rw [List.map_append]
          rw [names_addressMap] at free
          exact nodup_append_new s.names_nodup free.2 }

/-- Adds a memory of a descriptor. -/
def addMemoryPlan (s : Soc) (m : MemoryPlan) : Except Error Soc :=
  s.add (.memory m.memory) m.placement

/-- Adds a peripheral of a descriptor. -/
def addPeripheralPlan (s : Soc) (p : PeripheralPlan) : Except Error Soc := do
  let peripheral ← p.peripheral
  let placement ← p.placement
  s.add (.peripheral peripheral) placement

/-- The system that a descriptor describes; memories are added before peripherals. -/
def ofDescriptor (d : Descriptor) : Except Error Soc := do
  let bare : Soc :=
    { name := d.name, cpu := d.cpu, clockDomain := d.clockDomain, firmware := d.firmware }
  let withMemories ← d.memories.foldlM addMemoryPlan bare
  d.peripherals.foldlM addPeripheralPlan withMemories

/-! ### Finishing -/

/-- The window of an entry. -/
def window (a : Allocation) (name : String) : Except Error Window :=
  match a.get? name with
  | some w => .ok w
  | none => .error (.unallocated name)

/-- A memory in its place. -/
def memoryEntry (a : Allocation) (m : Memory) : Except Error Entry := do
  let w ← window a m.name
  pure
    { name := m.name
      kind := .memory m.kind
      description := m.description
      base := w.base
      size := m.size
      reserved := w.reserved
      capabilities := m.capabilities }

/-- A peripheral in its place. -/
def peripheralEntry (a : Allocation) (p : Peripheral) (irq : Option Nat) : Except Error Entry := do
  let w ← window a p.name
  pure
    { name := p.name
      kind := .peripheral p.kind
      description := p.description
      base := w.base
      size := p.blockSize
      reserved := w.reserved
      capabilities := p.capabilities
      parent := w.parent
      irq := irq
      registers := p.layout
      events := p.events }

/-- Peripherals in their places. Those with events get interrupt numbers from `next` on. -/
def peripheralEntries (a : Allocation) (next : Nat) : List Peripheral → Report (List Entry)
  | [] => pure []
  | p :: rest => do
    if p.events.isEmpty then
      let e ← .ofExcept (peripheralEntry a p none)
      let es ← peripheralEntries a next rest
      pure (e :: es)
    else
      .note (.interruptNumbered p.name next)
      let e ← .ofExcept (peripheralEntry a p (some next))
      let es ← peripheralEntries a (next + 1) rest
      pure (e :: es)

/-- The name of the first RAM. -/
def firstRam? (s : Soc) : Option String := (s.memories.find? (·.kind = .ram)).map (·.name)

/-- The memory of a section of the firmware: the one chosen, or else the first RAM. -/
def sectionMemory (s : Soc) (chosen : Option String) : Except Error String :=
  match chosen.or s.firstRam? with
  | none => .error .noFirmwareMemory
  | some name => if s.memories.any (·.name = name) then .ok name else .error (.unknownMemory name)

/-- The finished design on a platform. -/
def finalize (s : Soc) (p : Platform) : Report Design := do
  let allocation ← s.addressMap.allocate
  let clockFrequency ← .ofExcept (p.clockFrequency s.clockDomain)
  let memories ← .ofExcept (s.memories.mapM (memoryEntry allocation))
  let peripherals ← peripheralEntries allocation 0 s.peripherals
  let regions ← .ofExcept (s.firmware.mapOrFail s.sectionMemory)
  pure
    { name := s.name
      platform := p.name
      cpu := s.cpu
      clockFrequency := clockFrequency
      memories := memories
      peripherals := peripherals
      regions := regions }

end Soc

end SocAssembly
