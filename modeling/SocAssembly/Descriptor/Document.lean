import SocAssembly.Board.Document
import SocAssembly.Descriptor.Basic

/-!
# Descriptors as documents

## The model

A descriptor is written as one document. Only the name and the processor have to be there.
-/

namespace SocAssembly

open Toml

/-- A processor. -/
def Cpu.read : Reader Cpu :=
  Record.strict ["name", "variant", "reset_address", "arch"] fun r => do
    pure
      { name := ← r.required "name" .text
        variant := ← r.required "variant" .text
        resetAddress := ← r.optional "reset_address" .doubleWord 0
        arch := ← r.optional "arch" .text "riscv32" }

/-- A memory. -/
def MemoryPlan.read : Reader MemoryPlan :=
  Record.strict ["name", "kind", "size", "address", "description"] fun r => do
    let memory : Memory :=
      { name := ← r.required "name" .text
        kind := ← r.required "kind" (.oneOf MemoryKind.all MemoryKind.name)
        size := ← r.required "size" .doubleWord
        description := ← r.optional "description" .text "" }
    pure { memory := memory, address := ← r.option "address" .doubleWord }

/-- A peripheral. -/
def PeripheralPlan.read : Reader PeripheralPlan :=
  Record.strict ["name", "kind", "address", "attach_to", "width", "description"] fun r => do
    pure
      { name := ← r.required "name" .text
        kind := ← r.required "kind" (.oneOf PeripheralKind.all PeripheralKind.name)
        address := ← r.option "address" .doubleWord
        parent := ← r.option "attach_to" .text
        width := ← r.option "width" .word
        description := ← r.option "description" .text }

/-- A candidate of a wire. -/
def ResourceKey.read : Reader ResourceKey :=
  Record.strict ["name", "number"] fun r => do
    pure
      { name := ← r.required "name" .text
        number := ← r.optional "number" .word 0 }

/-- A wire. -/
def Wire.read : Reader Wire :=
  Record.strict ["signal", "candidates", "policy"] fun r => do
    pure
      { signal := ← r.required "signal" .text
        candidates := ← r.required "candidates" (.list ResourceKey.read)
        policy := ← r.optional "policy" (.oneOf Policy.all Policy.name) .mandatory }

/-- The names of the sections of the firmware. -/
def Sections.names : List String := ["text", "rodata", "data", "bss", "heap", "stack"]

/-- The memories of the sections of the firmware. A table may leave sections out, an array has to
list all of them. -/
def Sections.read : Reader (Sections (Option String)) := fun v =>
  let section? (r : Record) (name : String) : Option (Option String) :=
    match v with
    | .array .. => (r.required name .text).map some
    | _ => r.option name .text
  Record.strict Sections.names
    (fun r => do
      pure
        { text := ← section? r "text"
          rodata := ← section? r "rodata"
          data := ← section? r "data"
          bss := ← section? r "bss"
          heap := ← section? r "heap"
          stack := ← section? r "stack" }) v

/-- A descriptor. -/
def Descriptor.read : Reader Descriptor :=
  Record.strict
    ["name", "cpu", "clock_domain", "memories", "peripherals", "resources", "bindings",
      "firmware"] fun r => do
    pure
      { name := ← r.required "name" .text
        cpu := ← r.required "cpu" Cpu.read
        clockDomain := ← r.optional "clock_domain" .text "usb"
        memories := ← r.optional "memories" (.list MemoryPlan.read) []
        peripherals := ← r.optional "peripherals" (.list PeripheralPlan.read) []
        resources := ← r.optional "resources" (.list Resource.read) []
        wires := ← r.optional "bindings" (.list Wire.read) []
        firmware := ← r.optional "firmware" Sections.read (.replicate none) }

/-- The descriptor in a document that goes by the name `what`. -/
def Descriptor.ofDocument (document what : String) : Except Error Descriptor :=
  readDocument Descriptor.read document what

end SocAssembly
