import SocAssembly.Elaboration
import SocAssembly.Text.Column

/-!
# Pin constraints

## The model

Place and route has to put every bit of every port on the pin that it was bound to, with the
electrical attributes of that pin, and has to meet the frequency of every clock. A port that has one
pin is named as a whole, one that has several is named bit by bit (`SignalBinding.bitName`). The
clock constraint of a resource stands on its first input, or else on its first signal.
-/

namespace SocAssembly

/-- A line for place and route. -/
inductive Constraint where
  /-- Paths of some sort are not timed. -/
  | untimed (paths : String)
  /-- A bit of a port is at a pin. -/
  | locate (bit pin : String)
  /-- The pin of a bit of a port has attributes. -/
  | attributes (bit : String) (attrs : Dict String)
  /-- A port is a clock of so many Hz. -/
  | frequency (port : String) (hertz : Nat)
  deriving Repr

/-- The attributes of a pin as they are written. -/
def attributesText (attrs : Dict String) : String :=
  String.join (attrs.entries.map fun (k, v) => s!" {k}={v}")

/-- The line of a constraint. -/
def Constraint.line : Constraint → String
  | untimed paths => s!"BLOCK {paths};"
  | locate bit pin => s!"LOCATE COMP \"{bit}\" SITE \"{pin}\";"
  | attributes bit attrs => s!"IOBUF PORT \"{bit}\"" ++ attributesText attrs ++ ";"
  | frequency port hertz => s!"FREQUENCY PORT \"{port}\" {hertz} HZ;"

/-- The direction of a port as part of its name. -/
def Direction.portSuffix : Direction → String
  | input => "i"
  | output => "o"
  | bidirectional | tristate => "io"

namespace SignalBinding

/-- The name of the port of a signal. -/
def portName (b : ResourceBinding) (s : SignalBinding) : String :=
  if s.name.isEmpty then s!"{b.port}__{s.dir.portSuffix}"
  else s!"{b.port}__{s.name}__{s.dir.portSuffix}"

/-- The name of a bit of the port of a signal. -/
def bitName (b : ResourceBinding) (s : SignalBinding) (bit : Nat) : String :=
  if s.pins.length = 1 then s.portName b else s!"{s.portName b}[{bit}]"

/-- The constraints of a bit of a signal. -/
def bitConstraints (b : ResourceBinding) (s : SignalBinding) (pin : String) (bit : Nat) :
    List Constraint :=
  .locate (s.bitName b bit) pin ::
    if s.attrs.entries.isEmpty then [] else [.attributes (s.bitName b bit) s.attrs]

/-- The constraints of a signal. -/
def constraints (b : ResourceBinding) (s : SignalBinding) : List Constraint :=
  s.pins.zipIdx.flatMap fun (pin, bit) => s.bitConstraints b pin bit

end SignalBinding

namespace ResourceBinding

/-- The signal that the clock constraint stands on. -/
def clockSignal? (b : ResourceBinding) : Option SignalBinding :=
  (b.signals.find? (·.dir = .input)).or b.signals.head?

/-- The clock constraint of a resource, if it is a clock. -/
def clockConstraint? (b : ResourceBinding) : Option Constraint := do
  let frequency ← b.clock
  let s ← b.clockSignal?
  some (.frequency (s.portName b) (wholeHertz frequency))

/-- The constraints of a resource. -/
def constraints (b : ResourceBinding) : List Constraint :=
  b.signals.flatMap (·.constraints b) ++ b.clockConstraint?.toList

end ResourceBinding

namespace Elaboration

/-- The constraints of an elaborated design. -/
def constraints (e : Elaboration) : List Constraint :=
  [.untimed "ASYNCPATHS", .untimed "RESETPATHS"] ++ e.bindings.flatMap (·.constraints)

/-- The constraint file of an elaborated design. -/
def constraintFile (e : Elaboration) : String :=
  Text.unlines ("# Generated by moondancer-soc, do not edit." :: e.constraints.map Constraint.line)

end Elaboration

end SocAssembly
