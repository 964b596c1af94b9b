import SocAssembly.AddressMap.Basic
import SocAssembly.Peripheral
import SocAssembly.Platform.Binding

/-!
# Descriptors

## The model

A descriptor says what a design is made of and how it is wired, without reference to a board: the
processor, the memories and peripherals with the places they want, the resources that the design
adds to the board, the wires from its signals to resources, and the memories that hold the sections
of the firmware. A peripheral has an address of its own, or a parent, or neither; to ask for both
is a mistake (`PeripheralPlan.placement`).
-/

namespace SocAssembly

/-- A processor. -/
structure Cpu where
  /-- Its name. -/
  name : String
  /-- Which variant of it. -/
  variant : String
  /-- Where it starts. -/
  resetAddress : Nat := 0
  /-- Its instruction set. -/
  arch : String := "riscv32"
  deriving DecidableEq, Repr

/-- A memory that a design asks for. -/
structure MemoryPlan where
  /-- The memory. -/
  memory : Memory
  /-- Its address, if it has to have a certain one. -/
  address : Option Nat := none
  deriving DecidableEq, Repr

/-- Where a memory wants to be. -/
def MemoryPlan.placement (m : MemoryPlan) : Placement := m.address.elim .auto .fixed

/-- A peripheral that a design asks for. -/
structure PeripheralPlan where
  /-- Its name. -/
  name : String
  /-- Its kind. -/
  kind : PeripheralKind
  /-- Its address, if it has to have a certain one. -/
  address : Option Nat := none
  /-- The peripheral whose window it shares. -/
  parent : Option String := none
  /-- Its width, if the kind comes in several. -/
  width : Option Nat := none
  /-- What it is for, if not what is usual for its kind. -/
  description : Option String := none
  deriving DecidableEq, Repr

namespace PeripheralPlan

/-- Where a peripheral wants to be. -/
def placement (p : PeripheralPlan) : Except Error Placement :=
  match p.address, p.parent with
  | some _, some _ => .error (.conflictingPlacement p.name)
  | some base, none => .ok (.fixed base)
  | none, some parent => .ok (.attached parent)
  | none, none => .ok .auto

/-- The peripheral with its registers. -/
def peripheral (p : PeripheralPlan) : Except Error Peripheral := do
  let usual ← Peripheral.ofKind p.kind p.name p.width
  pure { usual with description := p.description.getD usual.description }

end PeripheralPlan

/-- Something for each section of the firmware. -/
structure Sections (α : Type) where
  /-- For the code. -/
  text : α
  /-- For the constants. -/
  rodata : α
  /-- For the variables with a starting value. -/
  data : α
  /-- For the variables that start at zero. -/
  bss : α
  /-- For what is allocated while running. -/
  heap : α
  /-- For the stack. -/
  stack : α
  deriving DecidableEq, Repr

namespace Sections

variable {α β : Type}

/-- The same for each section. -/
def replicate (a : α) : Sections α := ⟨a, a, a, a, a, a⟩

/-- What stands for the sections, in their order. -/
def toList (s : Sections α) : List α := [s.text, s.rodata, s.data, s.bss, s.heap, s.stack]

/-- Does something for each section, in their order, up to the first failure. -/
def mapOrFail (s : Sections α) (f : α → Except Error β) : Except Error (Sections β) := do
  pure
    { text := ← f s.text
      rodata := ← f s.rodata
      data := ← f s.data
      bss := ← f s.bss
      heap := ← f s.heap
      stack := ← f s.stack }

end Sections

/-- A design as it is described. -/
structure Descriptor where
  /-- Its name. -/
  name : String
  /-- Its processor. -/
  cpu : Cpu
  /-- The clock domain of the platform that it runs from. -/
  clockDomain : String := "usb"
  /-- Its memories. -/
  memories : List MemoryPlan := []
  /-- Its peripherals. -/
  peripherals : List PeripheralPlan := []
  /-- The resources that it adds to the platform. -/
  resources : List Resource := []
  /-- Its wires. -/
  wires : List Wire := []
  /-- The memories of the firmware sections, where they are chosen. -/
  firmware : Sections (Option String) := .replicate none
  deriving Repr

end SocAssembly
