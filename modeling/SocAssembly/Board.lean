import SocAssembly.Dict
import SocAssembly.Text.Blank
import SocAssembly.Text.Decimal
import SocAssembly.Text.LetterCase

/-!
# Boards

## The model

A board description names the FPGA, the clocks, the connectors and the resources: groups of pins
that belong together, such as a serial port or a row of lamps. Resources and connectors of one name
are told apart by numbers.

A resource is either one signal, whose pins stand in the resource itself, or a list of named
signals. Pins are written as words. They are pins of the FPGA, or positions on a connector if one
is named; positions count from one, and a hyphen in a connector marks a position that is not wired.
-/

namespace SocAssembly

/-- Which way a signal goes, seen from the FPGA. -/
inductive Direction where
  /-- Into the FPGA. -/
  | input
  /-- Out of the FPGA. -/
  | output
  /-- Both ways. -/
  | bidirectional
  /-- Out of the FPGA, when it is enabled. -/
  | tristate
  deriving DecidableEq, Repr

namespace Direction

/-- All directions. -/
def all : List Direction := [input, output, bidirectional, tristate]

/-- The name of a direction. -/
def name : Direction → String
  | input => "i"
  | output => "o"
  | bidirectional => "io"
  | tristate => "oe"

end Direction

/-- The connector that positions refer to. -/
structure ConnectorRef where
  /-- The name of the connector. -/
  name : String
  /-- Its number. -/
  number : Nat
  deriving DecidableEq, Repr

/-- A signal of a resource. -/
structure Subsignal where
  /-- Its name; empty if it is the whole resource. -/
  name : String
  /-- Its pins, as words. -/
  pins : String
  /-- Which way it goes. -/
  dir : Direction := .bidirectional
  /-- The connector that its pins are positions of. -/
  conn : Option ConnectorRef := none
  /-- Attributes of its pins. -/
  attrs : Dict String := ∅
  deriving Repr

/-- What tells a resource from the others of its board. -/
structure ResourceKey where
  /-- The name. -/
  name : String
  /-- The number among the resources of this name. -/
  number : Nat := 0
  deriving DecidableEq, Repr

/-- The key as text. -/
def ResourceKey.text (k : ResourceKey) : String := s!"{k.name}#{k.number}"

/-- A group of pins that belong together. -/
structure Resource where
  /-- Its name. -/
  name : String
  /-- Its number among the resources of this name. -/
  number : Nat := 0
  /-- The pins of a resource that is a single signal. -/
  pins : Option String := none
  /-- Which way a single signal goes. -/
  dir : Direction := .bidirectional
  /-- The connector that the pins of a single signal are positions of. -/
  conn : Option ConnectorRef := none
  /-- The signals of a resource that has several. -/
  subsignals : List Subsignal := []
  /-- Attributes of all its pins. -/
  attrs : Dict String := ∅
  /-- The frequency in Hz, if it is a clock. -/
  clock : Option Float := none
  deriving Repr

namespace Resource

/-- The key of the resource. -/
def key (r : Resource) : ResourceKey := ⟨r.name, r.number⟩

/-- The signals of the resource; a single signal has no name. -/
def signals (r : Resource) : List Subsignal :=
  match r.pins with
  | some pins => [{ name := "", pins := pins, dir := r.dir, conn := r.conn }]
  | none => r.subsignals

end Resource

/-- A connector of the board. -/
structure Connector where
  /-- Its name. -/
  name : String
  /-- Its number among the connectors of this name. -/
  number : Nat := 0
  /-- The pins behind positions 1, 2 and so on, as words; a hyphen for none. -/
  pins : String
  deriving DecidableEq, Repr

/-- The pin behind a position, given as text. -/
def Connector.pin? (c : Connector) (position : String) : Option String := do
  let index ← Text.readUnsigned position
  let pin ← if index = 0 then none else (Text.words c.pins)[index - 1]?
  if pin = "-" then none else some pin

/-- The description of a board. -/
structure Board where
  /-- Its name. -/
  name : String
  /-- Other names for it. -/
  aliases : List String := []
  /-- The part number of its FPGA. -/
  device : String
  /-- The package of its FPGA. -/
  package : String
  /-- The speed grade of its FPGA. -/
  speed : Nat := 6
  /-- The resource that is its default clock. -/
  defaultClock : String
  /-- The frequencies of the clock domains, in MHz. -/
  clockFrequencies : Dict Float
  /-- Its connectors. -/
  connectors : List Connector := []
  /-- Its resources. -/
  resources : List Resource := []
  deriving Repr

namespace Board

/-- The first resource with a key. -/
def resource? (b : Board) (k : ResourceKey) : Option Resource :=
  b.resources.find? (·.key = k)

/-- The first connector with a name and number. -/
def connector? (b : Board) (r : ConnectorRef) : Option Connector :=
  b.connectors.find? fun c => c.name = r.name && c.number = r.number

/-- The board goes by a name. -/
def goesBy (b : Board) (name : String) : Bool :=
  Text.sameButForCase b.name name || b.aliases.any (Text.sameButForCase · name)

end Board

/-- The nearest whole number of Hz; half a Hz goes up. What is no number counts as zero, and what
exceeds a machine word as the greatest one. -/
def wholeHertz (frequency : Float) : Nat := frequency.round.toUInt64.toNat

end SocAssembly
