import SocAssembly.AddressMap.Basic
import SocAssembly.Descriptor.Basic

/-!
# Finished designs

## The model

A finished design has every memory and peripheral at its address, a number for every interrupt and
a memory for every section of the firmware. It is all that the listings and the artifacts look at.
-/

namespace SocAssembly

/-- What an entry is. -/
inductive EntryKind where
  /-- A memory. -/
  | memory (kind : MemoryKind)
  /-- A peripheral. -/
  | peripheral (kind : PeripheralKind)
  deriving DecidableEq, Repr

/-- A memory or peripheral at its address. -/
structure Entry where
  /-- Its name. -/
  name : String
  /-- What it is. -/
  kind : EntryKind
  /-- What it is for. -/
  description : String
  /-- Its first address. -/
  base : Nat
  /-- The bytes of its storage or its registers. -/
  size : Nat
  /-- The bytes kept free on the bus for it and what is attached to it. -/
  reserved : Nat
  /-- What software can do with it. -/
  capabilities : Capabilities
  /-- The entry whose window it shares. -/
  parent : Option String := none
  /-- The number of its interrupt. -/
  irq : Option Nat := none
  /-- Its registers. -/
  registers : List PlacedRegister := []
  /-- Its events. -/
  events : List Event := []
  deriving DecidableEq, Repr

namespace Entry

/-- The addresses that the entry occupies. -/
def range (e : Entry) : Span := ⟨e.base, e.base + e.size⟩

/-- The entry is a memory. -/
def isMemory (e : Entry) : Bool :=
  match e.kind with
  | .memory _ => true
  | .peripheral _ => false

/-- The address of the first register with a name. -/
def registerAddress? (e : Entry) (name : String) : Option Nat :=
  (e.registers.find? (·.register.name = name)).map (e.base + ·.offset)

end Entry

/-- A design with everything in its place. -/
structure Design where
  /-- Its name. -/
  name : String
  /-- The platform that it is built for. -/
  platform : String
  /-- Its processor. -/
  cpu : Cpu
  /-- The frequency of its clock in Hz. -/
  clockFrequency : Nat
  /-- Its memories, in the order of registration. -/
  memories : List Entry
  /-- Its peripherals, in the order of registration. -/
  peripherals : List Entry
  /-- The memories of the firmware sections. -/
  regions : Sections String
  deriving DecidableEq, Repr

namespace Design

/-- All entries, memories first. -/
def entries (d : Design) : List Entry := d.memories ++ d.peripherals

/-- The first memory with a name. -/
def memory? (d : Design) (name : String) : Option Entry := d.memories.find? (·.name = name)

/-- The first peripheral with a name. -/
def peripheral? (d : Design) (name : String) : Option Entry := d.peripherals.find? (·.name = name)

/-- The peripherals that have an interrupt, by its number. -/
def interrupts (d : Design) : List (String × Nat) :=
  (d.peripherals.filterMap fun p => p.irq.map (p.name, ·)).mergeSort (·.2 ≤ ·.2)

/-- The names that a linker knows the regions of the firmware sections by. -/
def regionNames : List String :=
  ["REGION_TEXT", "REGION_RODATA", "REGION_DATA", "REGION_BSS", "REGION_HEAP", "REGION_STACK"]

/-- The regions with the names of their memories. -/
def regionAliases (d : Design) : List (String × String) := regionNames.zip d.regions.toList

end Design

end SocAssembly
