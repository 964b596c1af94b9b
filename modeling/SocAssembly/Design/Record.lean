import SocAssembly.Design.Basic
import SocAssembly.Json

/-!
# Designs as JSON

## The model

The record of a design lists every part of it under a fixed name, in a fixed order. What an entry
lacks is there as null. A register stands with its offset in front.
-/

namespace SocAssembly

open Json

/-- The record of a field. -/
def Field.toJson (f : Field) : Json :=
  .object [("name", .string f.name), ("description", .string f.description),
    ("bit_offset", .number f.bitOffset), ("bit_width", .number f.bitWidth)]

/-- The record of a register at its place. -/
def PlacedRegister.toJson (p : PlacedRegister) : Json :=
  .object [("offset", .number p.offset), ("name", .string p.register.name),
    ("description", .string p.register.description), ("access", .string p.register.access.name),
    ("width", .number p.register.width), ("fields", .array (p.register.fields.map Field.toJson))]

/-- The record of an event. -/
def Event.toJson (e : Event) : Json :=
  .object [("name", .string e.name), ("description", .string e.description)]

/-- The record of what an entry is. -/
def EntryKind.toJson : EntryKind → Json
  | memory k => .object [("type", .string "memory"), ("kind", .string k.name)]
  | peripheral k => .object [("type", .string "peripheral"), ("kind", .string k.name)]

/-- The record of an entry. -/
def Entry.toJson (e : Entry) : Json :=
  .object [("name", .string e.name), ("kind", e.kind.toJson),
    ("description", .string e.description), ("base_address", .number e.base),
    ("size", .number e.size), ("reserved", .number e.reserved),
    ("register_width", .number busWidth), ("capabilities", .string e.capabilities.text),
    ("parent", .ofOption .string e.parent), ("irq", .ofOption .number e.irq),
    ("registers", .array (e.registers.map PlacedRegister.toJson)),
    ("events", .array (e.events.map Event.toJson))]

/-- The record of a processor. -/
def Cpu.toJson (c : Cpu) : Json :=
  .object [("name", .string c.name), ("variant", .string c.variant),
    ("reset_address", .number c.resetAddress), ("arch", .string c.arch)]

/-- The record of something for each section. -/
def Sections.toJson {α : Type} (s : Sections α) (f : α → Json) : Json :=
  .object [("text", f s.text), ("rodata", f s.rodata), ("data", f s.data), ("bss", f s.bss),
    ("heap", f s.heap), ("stack", f s.stack)]

/-- The record of a design. -/
def Design.toJson (d : Design) : Json :=
  .object [("name", .string d.name), ("platform", .string d.platform), ("cpu", d.cpu.toJson),
    ("clock_frequency", .number d.clockFrequency),
    ("memories", .array (d.memories.map Entry.toJson)),
    ("peripherals", .array (d.peripherals.map Entry.toJson)),
    ("regions", d.regions.toJson .string)]

end SocAssembly
