import SocAssembly.Design.Basic
import SocAssembly.Notice
import SocAssembly.Text.Blank
import SocAssembly.Text.Column
import SocAssembly.Text.Hex

/-!
# Listings of a design

## The model

The map of a design has a line for each entry: its address, its size, its name, whether it is
storage or registers, its parent and its interrupt, in columns. What is missing at the end of a line
leaves no blanks behind. The summary tells the same to someone who watches the program at work.
-/

namespace SocAssembly

/-- The name of the column of storage or registers. -/
def Entry.category (e : Entry) : String := if e.isMemory then "memory" else "csr"

/-- The line of an entry in the map. -/
def Entry.mapLine (e : Entry) : String :=
  let irq := (e.irq.map fun n => s!"irq {n}").getD ""
  Text.trimEnd <| String.intercalate " "
    [Text.address e.base, Text.address e.size, Text.padRight 20 e.name,
      Text.padRight 8 e.category, Text.padRight 8 (e.parent.getD ""), irq]

/-- The map of a design. -/
def Design.mapText (d : Design) : String :=
  String.intercalate "\n" (d.entries.map Entry.mapLine) ++ "\n"

/-- The name and the addresses of an entry in the summary. -/
def Entry.summaryRange (e : Entry) : String :=
  s!"  {Text.padRight 24 e.name} {Text.address e.range.start}..{Text.address e.range.stop}"

/-- The line of a memory in the summary. -/
def Entry.memorySummary (e : Entry) : String := e.summaryRange ++ s!" ({e.size} bytes)"

/-- The line of a peripheral in the summary. -/
def Entry.peripheralSummary (e : Entry) : String :=
  e.summaryRange ++ (e.parent.map (" in " ++ ·)).getD ""

/-- The lines of the summary. -/
def Design.summaryLines (d : Design) : List String :=
  "memories:" :: d.memories.map Entry.memorySummary ++
  "peripherals:" :: d.peripherals.map Entry.peripheralSummary ++
  "interrupts:" :: d.interrupts.map fun (name, irq) => s!"  {Text.padLeft 2 (toString irq)} {name}"

/-- The summary as notices. -/
def Design.summary (d : Design) : List Notice := d.summaryLines.map .summary

end SocAssembly
