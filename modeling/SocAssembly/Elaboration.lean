import SocAssembly.Soc

/-!
# Elaboration

## The model

To elaborate a descriptor on a platform is to put the system together, to add the resources of the
design to the platform, to hand out the default clock and to bind the wires, and then to finish the
system. Each wire has to start at the processor or at a peripheral. What was handed out stays handed
out if a later step fails, so a platform serves for one elaboration.
-/

namespace SocAssembly

/-- A finished design with the pins that it is wired to. -/
structure Elaboration where
  /-- The design. -/
  design : Design
  /-- The default clock. -/
  clock : ResourceBinding
  /-- The wired signals, in the order of the wires. -/
  signals : List BoundSignal
  deriving Repr

namespace Elaboration

/-- The signals that another resource carries than the one asked for. -/
def fallbacks (e : Elaboration) : List BoundSignal := e.signals.filter (·.binding.fallback)

/-- All bindings, the clock first. -/
def bindings (e : Elaboration) : List ResourceBinding := e.clock :: e.signals.map (·.binding)

end Elaboration

/-- The part of the design that a signal belongs to: what stands before the first dot. -/
def Wire.owner (w : Wire) : String := String.ofList (w.signal.toList.takeWhile (· ≠ '.'))

/-- The wire starts at the processor or at a peripheral. -/
def Soc.owns (s : Soc) (w : Wire) : Bool := w.owner = "cpu" || s.hasPeripheral w.owner

/-- Nothing, if every wire starts at a part of the system. -/
def Soc.checkWires (s : Soc) (wires : List Wire) : Except Error Unit :=
  match wires.find? (!s.owns ·) with
  | some w => .error (.unknownSignal w.signal)
  | none => .ok ()

/-- A notice for each signal that another resource carries. -/
def noteFallbacks (signals : List BoundSignal) : Report Unit :=
  ⟨signals.filterMap fun s =>
    s.binding.fallbackUsed.map fun r => .fallbackUsed s.signal r s.binding.requested, .ok ()⟩

/-- Puts a described design on a platform. -/
def elaborate (d : Descriptor) : Session Platform Elaboration := do
  let soc ← .ofExcept (Soc.ofDescriptor d)
  .ofExcept (soc.checkWires d.wires)
  Platform.addResources d.resources
  let p ← .state
  let clock ← Platform.request ⟨p.board.defaultClock, 0⟩
  let signals ← Platform.bindAll d.wires
  .ofReport (noteFallbacks signals)
  let p ← .state
  let design ← .ofReport (soc.finalize p)
  .note (.elaborated design.name design.platform design.clockFrequency)
  pure { design := design, clock := clock, signals := signals }

end SocAssembly
