import SocAssembly.Platform.Basic

/-!
# Binding signals to pins

## The model

A wire of a design names a signal and the resources that may carry it, best first. The first
candidate that exists on the platform is bound, even if it was handed out before or is broken: a
board that lacks a resource is a reason to look further, a mistake in a description is not.

A resource can be bound if it was not handed out, it has a signal, every signal has a pin, and
every position on a connector leads to a pin (`Platform.binding?`). Binding it marks its key, and
that is the only change: a request that fails leaves the platform as it was. An optional wire is
passed over, with a warning, if it has candidates and none of them exists.
-/

namespace SocAssembly

/-- A signal with the pins that carry it. -/
structure SignalBinding where
  /-- The name of the signal; empty if it is the whole resource. -/
  name : String
  /-- Its pins, lowest bit first. -/
  pins : List String
  /-- Which way it goes. -/
  dir : Direction
  /-- The attributes of its pins. -/
  attrs : Dict String
  deriving Repr

/-- A resource that was handed out. -/
structure ResourceBinding where
  /-- The resource that was asked for first. -/
  requested : String
  /-- The resource that was bound. -/
  resource : String
  /-- The number of the resource that was bound. -/
  number : Nat
  /-- The resource goes by another name than the one that was asked for. -/
  fallback : Bool
  /-- The frequency in Hz, if it is a clock. -/
  clock : Option Float
  /-- Its signals. -/
  signals : List SignalBinding
  deriving Repr

namespace ResourceBinding

/-- The name of the port of the design that the resource is wired to. -/
def port (b : ResourceBinding) : String := s!"{b.resource}_{b.number}"

/-- The resource that was bound in place of the one asked for. -/
def fallbackUsed (b : ResourceBinding) : Option String :=
  if b.fallback then some b.resource else none

end ResourceBinding

/-- Whether the design can do without a wire. -/
inductive Policy where
  /-- The design needs it. -/
  | mandatory
  /-- The design does without it. -/
  | optional
  deriving DecidableEq, Repr

namespace Policy

/-- All policies. -/
def all : List Policy := [mandatory, optional]

/-- The name of a policy. -/
def name : Policy → String
  | mandatory => "mandatory"
  | optional => "optional"

end Policy

/-- A signal of the design and what may carry it. -/
structure Wire where
  /-- The signal. -/
  signal : String
  /-- The resources that may carry it, best first. -/
  candidates : List ResourceKey
  /-- Whether the design can do without it. -/
  policy : Policy := .mandatory
  deriving DecidableEq, Repr

/-- A signal of the design with the resource that carries it. -/
structure BoundSignal where
  /-- The signal. -/
  signal : String
  /-- The resource. -/
  binding : ResourceBinding
  deriving Repr

namespace Board

/-- The pins of a signal of a resource. -/
def resolvePins (b : Board) (r : Resource) (s : Subsignal) : Except Error (List String) :=
  match Text.words s.pins, s.conn with
  | [], _ => .error (.emptyResource r.name r.number)
  | pins, none => .ok pins
  | positions, some ref =>
    match b.connector? ref with
    | none => .error (.unknownConnector ref.name ref.number)
    | some c =>
      positions.mapM fun position =>
        match c.pin? position with
        | some pin => .ok pin
        | none => .error (.unknownConnectorPin ref.name ref.number position)

/-- A signal of a resource with its pins. Its own attributes override those of the resource. -/
def resolveSignal (b : Board) (r : Resource) (s : Subsignal) : Except Error SignalBinding := do
  let pins ← b.resolvePins r s
  pure { name := s.name, pins := pins, dir := s.dir, attrs := r.attrs.override s.attrs }

/-- The signals of a resource with their pins. -/
def resolve (b : Board) (r : Resource) : Except Error (List SignalBinding) := do
  let signals ← r.signals.mapM (b.resolveSignal r)
  if signals.isEmpty then .error (.emptyResource r.name r.number) else pure signals

/-- The first of the candidates that exists. -/
def firstResource? (b : Board) (candidates : List ResourceKey) : Option Resource :=
  candidates.findSome? b.resource?

end Board

namespace Platform

/-- The binding of a resource, if it can be bound. -/
def binding? (p : Platform) (requested : String) (r : Resource) :
    Except Error ResourceBinding := do
  if r.key ∈ p.requested then .error (.resourceAlreadyRequested r.name r.number)
  let signals ← p.board.resolve r
  pure
    { requested := requested
      resource := r.name
      number := r.number
      fallback := requested ≠ r.name
      clock := r.clock
      signals := signals }

/-- The platform with one more resource handed out. -/
def mark (p : Platform) (k : ResourceKey) : Platform := { p with requested := k :: p.requested }

/-- Hands out a resource under the name that was asked for. -/
def bind (requested : String) (r : Resource) : Session Platform ResourceBinding := do
  let p ← Session.state
  let b ← Session.ofExcept (p.binding? requested r)
  Session.modify (·.mark r.key)
  Session.note (.resourceBound b.resource b.number requested b.fallback)
  pure b

/-- Hands out the resource with a key. -/
def request (k : ResourceKey) : Session Platform ResourceBinding := do
  let p ← Session.state
  match p.board.resource? k with
  | some r => bind k.name r
  | none => Session.fail (.resourceNotFound k.name k.number p.name)

/-- Reports the candidates that do not exist, up to the first that does. -/
def noteMissing (p : Platform) (candidates : List ResourceKey) : Report Unit :=
  ⟨(candidates.takeWhile fun k => (p.board.resource? k).isNone).map fun k =>
    .candidateMissing p.name k.name k.number, .ok ()⟩

/-- Hands out the first of the candidates that exists. -/
def requestAny (candidates : List ResourceKey) : Session Platform ResourceBinding :=
  match candidates with
  | [] => Session.fail .emptyCandidates
  | best :: _ => do
    let p ← Session.state
    Session.ofReport (p.noteMissing candidates)
    match p.board.firstResource? candidates with
    | some r => bind best.name r
    | none =>
      let listed := String.intercalate ", " (candidates.map (·.text))
      Session.fail (.noCandidateResource listed p.name)

/-- Hands out the first of the candidates that exists, or nothing, with a warning, if none does. -/
def requestOptional (candidates : List ResourceKey) :
    Session Platform (Option ResourceBinding) := fun p =>
  let (after, report) := (requestAny candidates).run p
  match report.outcome with
  | .ok b => (after, ⟨report.notices, .ok (some b)⟩)
  | .error e =>
    if e.isMissingResource then (after, ⟨report.notices ++ [.bindingSkipped e], .ok none⟩)
    else (after, ⟨report.notices, .error e⟩)

/-- Binds a wire by its policy; nothing if an optional wire is left out. -/
def bindWire (w : Wire) : Session Platform (Option BoundSignal) := do
  let binding ← match w.policy with
    | .mandatory => some <$> requestAny w.candidates
    | .optional => requestOptional w.candidates
  pure (binding.map fun b => ⟨w.signal, b⟩)

/-- Binds wires in order. -/
def bindAll : List Wire → Session Platform (List BoundSignal)
  | [] => pure []
  | w :: rest => do
    let bound ← bindWire w
    let others ← bindAll rest
    pure (bound.toList ++ others)

end Platform

end SocAssembly
