import SocAssembly.Design.Basic
import SocAssembly.Text.Column
import SocAssembly.Text.Hex
import SocAssembly.Text.Identifier

/-!
# C headers

## The model

The header tells a program in C where everything is: the address and size of each memory, the
number of each interrupt, the address of each peripheral and, for each register, a pointer to it.
Each of these is a macro (`Macro`) whose name is made from the names of the entries; what stands
between the macros are comments and a few directives (`HeaderItem`).
-/

namespace SocAssembly

/-- What a macro stands for. -/
inductive MacroValue where
  /-- A text. -/
  | text (s : String)
  /-- A long number. -/
  | long (n : Nat)
  /-- An address or a size. -/
  | address (n : Nat)
  /-- The number of an interrupt. -/
  | interrupt (n : Nat)
  /-- A pointer to the register at an offset from the address in another macro. -/
  | register (base : String) (offset : Nat)
  deriving DecidableEq, Repr

/-- The spelling of what a macro stands for. -/
def MacroValue.render : MacroValue → String
  | text s => "\"" ++ s ++ "\""
  | long n => s!"{n}UL"
  | address n => Text.hexCapitals 8 n ++ "UL"
  | interrupt n => toString n
  | register base offset => s!"((volatile uint32_t*)({base} + {Text.hexCapitals 2 offset}))"

/-- A macro. -/
structure Macro where
  /-- Its name. -/
  name : String
  /-- What it stands for. -/
  value : MacroValue
  deriving DecidableEq, Repr

/-- The line that defines a macro. -/
def Macro.line (m : Macro) : String := s!"#define {m.name}           {m.value.render}"

/-- What a header is made of. -/
inductive HeaderItem where
  /-- An empty line. -/
  | blank
  /-- A line that is there in every header. -/
  | directive (text : String)
  /-- A comment on a line. -/
  | remark (text : String)
  /-- A comment over several lines, with its first line. -/
  | block (opening : String) (lines : List String)
  /-- The definition of a macro. -/
  | define (m : Macro)
  deriving DecidableEq, Repr

namespace HeaderItem

/-- A line of a comment over several lines. -/
def blockLine (line : String) : String := if line.isEmpty then " *" else " * " ++ line

/-- The lines of a part of a header. -/
def lines : HeaderItem → List String
  | blank => [""]
  | directive text => [text]
  | remark text => ["/* " ++ text ++ " */"]
  | block opening ls => opening :: ls.map blockLine ++ [" */"]
  | define m => [m.line]

/-- The macro that a part of a header defines. -/
def macro? : HeaderItem → Option Macro
  | define m => some m
  | _ => none

end HeaderItem

/-- The name of an entry or register in the names of macros. -/
def macroName (name : String) : String := Text.identifier .macroName name

namespace Entry

/-- The macro for the address of an entry. -/
def baseMacro (e : Entry) : Macro := ⟨macroName e.name ++ "_BASE", .address e.base⟩

/-- The macro for the size of a memory. -/
def sizeMacro (e : Entry) : Macro := ⟨macroName e.name ++ "_SIZE", .address e.size⟩

/-- The macro for a register of a peripheral. -/
def registerMacro (e : Entry) (p : PlacedRegister) : Macro where
  name := s!"{macroName e.name}_{macroName p.register.name}"
  value := .register (macroName e.name ++ "_BASE") p.offset

/-- The comment in front of a peripheral. -/
def headerRemark (e : Entry) : String :=
  s!"{e.name}: {e.description}" ++ (e.parent.map fun p => s!" (attached to {p})").getD ""

end Entry

/-- The comment in front of a register. -/
def PlacedRegister.headerLines (p : PlacedRegister) : List String :=
  let r := p.register
  [s!"Name: {r.name}"] ++
  (if r.description.isEmpty then [] else [s!"Description: {r.description}"]) ++
  [s!"Access: {r.access.label}",
    s!"Width: {r.width} bit" ++ (if r.width = 1 then "" else "s"),
    s!"Size: {r.byteSize} bytes"]

/-- What a header says about a memory. -/
def Entry.memoryItems (e : Entry) : List HeaderItem := [.define e.baseMacro, .define e.sizeMacro]

/-- What a header says about a register of a peripheral. -/
def Entry.registerItems (e : Entry) (p : PlacedRegister) : List HeaderItem :=
  [.block "/**" p.headerLines, .define (e.registerMacro p), .blank]

/-- What a header says about a peripheral. -/
def Entry.peripheralItems (e : Entry) : List HeaderItem :=
  [.remark e.headerRemark, .define e.baseMacro, .blank] ++ e.registers.flatMap e.registerItems

namespace Design

/-- The macro for the number of an interrupt. -/
def interruptMacro (interrupt : String × Nat) : Macro :=
  ⟨macroName interrupt.1 ++ "_IRQ", .interrupt interrupt.2⟩

/-- What stands in front of the entries. -/
def headerOpening (d : Design) : List HeaderItem :=
  [ .block "/*" ["Generated by moondancer-soc, do not edit.", "", "SoC: " ++ d.name,
      "Platform: " ++ d.platform],
    .blank, .directive "#ifndef RESOURCES_H", .directive "#define RESOURCES_H",
    .blank, .directive "#include \"stdint.h\"", .blank,
    .define ⟨"PLATFORM_NAME", .text d.platform⟩,
    .define ⟨"CLOCK_FREQUENCY", .long d.clockFrequency⟩, .blank ]

/-- The parts of the header of a design. -/
def headerItems (d : Design) : List HeaderItem :=
  d.headerOpening ++
  [.remark "Memories", .blank] ++ d.memories.flatMap Entry.memoryItems ++ [.blank] ++
  [.remark "Interrupts", .blank] ++ d.interrupts.map (.define ∘ interruptMacro) ++ [.blank] ++
  d.peripherals.flatMap Entry.peripheralItems ++
  [.directive "#endif /* RESOURCES_H */"]

/-- The header of a design. -/
def header (d : Design) : String := Text.unlines (d.headerItems.flatMap HeaderItem.lines)

end Design

end SocAssembly
