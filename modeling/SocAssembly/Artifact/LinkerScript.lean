import SocAssembly.Design.Basic
import SocAssembly.Text.Column
import SocAssembly.Text.Hex
import SocAssembly.Text.Identifier

/-!
# Linker scripts

## The model

A linker learns from the memory layout which memories there are (`MemoryRegion`) and which of them
holds each section of the firmware. The layout serves linkers that bring the rest of their script
along; the full script adds where the stack begins.
-/

namespace SocAssembly

/-- A memory as a linker sees it. -/
structure MemoryRegion where
  /-- Its name. -/
  name : String
  /-- What may be done with it, as letters. -/
  attributes : String
  /-- Its first address. -/
  origin : Nat
  /-- Its size in bytes. -/
  length : Nat
  deriving DecidableEq, Repr

/-- The line that declares a memory. -/
def MemoryRegion.line (r : MemoryRegion) : String :=
  s!"    {r.name} ({r.attributes}) : ORIGIN = {Text.address r.origin}, " ++
    s!"LENGTH = {Text.address r.length}"

/-- The name of a memory in a linker script. -/
def regionName (memory : String) : String := Text.identifier .regionName memory

/-- The letters for reading, writing and running code. -/
def Capabilities.letters (c : Capabilities) : String :=
  String.ofList ((if c.read then ['r'] else []) ++ (if c.write then ['w'] else []) ++
    (if c.execute then ['x'] else []))

/-- A memory as a linker sees it. -/
def Entry.memoryRegion (e : Entry) : MemoryRegion where
  name := regionName e.name
  attributes := e.capabilities.letters
  origin := e.base
  length := e.size

namespace Design

/-- The line that says which memory holds a section. -/
def aliasLine (a : String × String) : String := s!"REGION_ALIAS(\"{a.1}\", {regionName a.2});"

/-- The lines about the memories and what they hold. -/
def memoryLines (d : Design) : List String :=
  "MEMORY \x7b" :: d.memories.map (·.memoryRegion.line) ++ ["\x7d", ""] ++
    d.regionAliases.map aliasLine

/-- The first line, which warns of changes. -/
def generatedLine : String := "/* Generated by moondancer-soc, do not edit. */"

/-- The memory layout of a design. -/
def memoryLayout (d : Design) : String := Text.unlines ([generatedLine, ""] ++ d.memoryLines)

/-- The line that says where the stack begins. -/
def stackLine (d : Design) : String :=
  let stack := regionName d.regions.stack
  s!"PROVIDE(__stack_top = ORIGIN({stack}) + LENGTH({stack}));"

/-- The linker script of a design. -/
def linkerScript (d : Design) : String :=
  Text.unlines ([generatedLine, ""] ++ d.memoryLines ++ ["", d.stackLine])

end Design

end SocAssembly
