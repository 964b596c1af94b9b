import SocAssembly.Platform.Basic
import SocAssembly.Toml.Record

/-!
# Board descriptions as documents

## The model

A catalogue is written as a document with an array of tables, one for each board. What a board can
do without may be left out: its aliases, connectors and resources, its speed grade, the numbers and
directions of its resources.
-/

namespace SocAssembly

open Toml

/-- A direction, by its name. -/
def Direction.read : Reader Direction := .oneOf Direction.all Direction.name

/-- A reference to a connector. -/
def ConnectorRef.read : Reader ConnectorRef :=
  Record.lenient ["name", "number"] fun r => do
    pure
      { name := ← r.required "name" .text
        number := ← r.required "number" .word }

/-- A signal of a resource. -/
def Subsignal.read : Reader Subsignal :=
  Record.strict ["name", "pins", "dir", "conn", "attrs"] fun r => do
    pure
      { name := ← r.required "name" .text
        pins := ← r.required "pins" .text
        dir := ← r.optional "dir" Direction.read .bidirectional
        conn := ← r.option "conn" ConnectorRef.read
        attrs := ← r.optional "attrs" (.dict .text) ∅ }

/-- A resource. -/
def Resource.read : Reader Resource :=
  Record.strict ["name", "number", "pins", "dir", "conn", "subsignals", "attrs", "clock"] fun r => do
    pure
      { name := ← r.required "name" .text
        number := ← r.optional "number" .word 0
        pins := ← r.option "pins" .text
        dir := ← r.optional "dir" Direction.read .bidirectional
        conn := ← r.option "conn" ConnectorRef.read
        subsignals := ← r.optional "subsignals" (.list Subsignal.read) []
        attrs := ← r.optional "attrs" (.dict .text) ∅
        clock := ← r.option "clock" .number }

/-- A connector. -/
def Connector.read : Reader Connector :=
  Record.strict ["name", "number", "pins"] fun r => do
    pure
      { name := ← r.required "name" .text
        number := ← r.optional "number" .word 0
        pins := ← r.required "pins" .text }

/-- A board. -/
def Board.read : Reader Board :=
  Record.strict
    ["name", "aliases", "device", "package", "speed", "default_clk", "clock_frequencies_mhz",
      "connectors", "resources"] fun r => do
    pure
      { name := ← r.required "name" .text
        aliases := ← r.optional "aliases" (.list .text) []
        device := ← r.required "device" .text
        package := ← r.required "package" .text
        speed := ← r.optional "speed" .word 6
        defaultClock := ← r.required "default_clk" .text
        clockFrequencies := ← r.required "clock_frequencies_mhz" (.dict .number)
        connectors := ← r.optional "connectors" (.list Connector.read) []
        resources := ← r.optional "resources" (.list Resource.read) [] }

/-- A list of boards. -/
def Catalogue.read : Reader Catalogue :=
  Record.strict ["platform"] fun r => do
    pure ⟨← r.optional "platform" (.list Board.read) []⟩

/-- The catalogue in a document that goes by the name `what`. -/
def Catalogue.ofDocument (document what : String) : Except Error Catalogue :=
  readDocument Catalogue.read document what

end SocAssembly
