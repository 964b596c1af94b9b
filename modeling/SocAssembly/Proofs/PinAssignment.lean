import Mathlib
import SocAssembly.Proofs.Dictionaries
import SocAssembly.Proofs.Numerals
import SocAssembly.Proofs.Wiring

/-!
# The pins that signals are bound to

The pins of a signal are written as words. A word is a pin of the FPGA itself, or it is a number,
counted from one, of a place on a connector (`Board.LeadsTo`). So a resource that is free can be
bound exactly if it has a signal, each of its signals has a word, and every word leads to a pin. If
it is bound, its signals stand in the binding one for one and in order, and so do the pins of each
of them (`Board.Assigns`): none is lost, added or moved to another place.
-/

namespace SocAssembly

/-! ### Words and pins -/

theorem Connector.pin?_eq_some_iff {c : Connector} {position pin : String} :
    c.pin? position = some pin ↔ ∃ k, Text.Denotes position k ∧ 1 ≤ k ∧
      (Text.words c.pins)[k - 1]? = some pin ∧ pin ≠ "-" := by
  unfold pin?
  simp only [Option.bind_eq_bind, Option.bind_eq_some_iff, Text.readUnsigned_eq_some_iff]
  refine exists_congr fun k => and_congr_right fun _ => ?_
  by_cases zero : k = 0
  · simp [zero]
  rw [if_neg zero, Option.bind_eq_some_iff, and_iff_right (Nat.one_le_iff_ne_zero.2 zero)]
  constructor
  · rintro ⟨pin', place, wired⟩
    split at wired
    · cases wired
    · rename_i notHyphen
      cases wired
      exact ⟨place, notHyphen⟩
  · rintro ⟨place, wired⟩
    exact ⟨pin, place, if_neg wired⟩

namespace Board

/-- The word leads to the pin, on the connector if one is named. -/
inductive LeadsTo (b : Board) : Option ConnectorRef → String → String → Prop where
  /-- Without a connector the word is the pin. -/
  | direct (word : String) : LeadsTo b none word word
  /-- The word is the number of a place on the connector, counted from one, and the pin stands
  there. A hyphen is no pin. -/
  | behind {ref : ConnectorRef} {c : Connector} {word pin : String} {k : Nat}
      (found : b.connector? ref = some c) (number : Text.Denotes word k) (positive : 1 ≤ k)
      (place : (Text.words c.pins)[k - 1]? = some pin) (wired : pin ≠ "-") :
      LeadsTo b (some ref) word pin

/-- The signal `s` of the resource `r` is bound as `t`. -/
structure Assigns (b : Board) (r : Resource) (s : Subsignal) (t : SignalBinding) : Prop where
  /-- It keeps its name. -/
  name_eq : t.name = s.name
  /-- It keeps its direction. -/
  dir_eq : t.dir = s.dir
  /-- Its words lead to its pins, one for one and in order. -/
  pins : (Text.words s.pins).Forall₂ (b.LeadsTo s.conn) t.pins
  /-- Under a key where it has an attribute of its own this counts, and elsewhere that of the
  resource. -/
  attrs : ∀ key, t.attrs.get? key = (s.attrs.get? key).or (r.attrs.get? key)

variable {b : Board} {r : Resource} {s : Subsignal}

theorem leadsTo_iff {conn : Option ConnectorRef} {word pin : String} :
    b.LeadsTo conn word pin ↔ b.pinOf? conn word = some pin := by
  cases conn with
  | none =>
    refine ⟨fun leads => ?_, fun same => ?_⟩
    · cases leads
      rfl
    · cases same
      exact .direct word
  | some ref =>
    simp only [pinOf?, Option.bind_eq_some_iff, Connector.pin?_eq_some_iff]
    constructor
    · rintro (_ | ⟨found, number, positive, place, wired⟩)
      exact ⟨_, found, _, number, positive, place, wired⟩
    · rintro ⟨c, found, k, number, positive, place, wired⟩
      exact .behind found number positive place wired

theorem assigns_of_resolveSignal {t : SignalBinding} (h : b.resolveSignal r s = .ok t) :
    b.Assigns r s t := by
  obtain ⟨pins, hpins, ht⟩ := except_bind_eq_ok_iff.1 h
  cases ht
  exact
    { name_eq := rfl
      dir_eq := rfl
      pins := (resolvePins_eq_ok_iff.1 hpins).2.imp fun word pin => leadsTo_iff.2
      attrs := Dict.get?_override r.attrs s.attrs }

end Board

/-! ### Bindings -/

namespace Platform

/-- What it takes to bind the resource `r`, asked for under a name, and what the binding holds. -/
structure AssignsPins (p : Platform) (asked : String) (r : Resource) : Prop where
  /-- A resource with pins of its own is a single signal without a name. -/
  single : ∀ pins, r.pins = some pins →
    r.signals = [{ name := "", pins := pins, dir := r.dir, conn := r.conn }]
  /-- Any other has the signals that are listed. -/
  several : r.pins = none → r.signals = r.subsignals
  /-- It is bound exactly if it has a signal and each signal has a word and each word leads to a
  pin. -/
  succeeds_iff : (∃ b, ((bind asked r).run p).2.outcome = .ok b) ↔
    r.signals ≠ [] ∧ ∀ s ∈ r.signals, Text.words s.pins ≠ [] ∧
      ∀ word ∈ Text.words s.pins, ∃ pin, p.board.LeadsTo s.conn word pin
  /-- Its signals are bound one for one and in order. -/
  assigned : ∀ b, ((bind asked r).run p).2.outcome = .ok b →
    r.signals.Forall₂ (p.board.Assigns r) b.signals

/-- **A free resource is bound to the pins that its words lead to**, under whatever name it is asked
for, unless it has no signal, one of its signals has no word, or a word leads nowhere. -/
theorem assignsPins {p : Platform} {r : Resource} (free : r.key ∉ p.requested) (asked : String) :
    p.AssignsPins asked r := by
  have outcome : ((bind asked r).run p).2.outcome = (p.board.resolve r).map fun signals =>
      ⟨asked, r.name, r.number, asked ≠ r.name, r.clock, signals⟩ := by
    rw [bind_run, binding?_of_free asked free]
    cases p.board.resolve r <;> rfl
  refine
    { single := fun pins hpins => by rw [Resource.signals, hpins]
      several := fun hpins => by rw [Resource.signals, hpins]
      succeeds_iff := ?_
      assigned := ?_ }
  · have resolves : (∃ b, ((bind asked r).run p).2.outcome = .ok b) ↔ p.board.Resolves r := by
      rw [outcome, ← Board.exists_resolve_iff]
      cases p.board.resolve r <;> simp [Except.map]
    simp only [resolves, Board.leadsTo_iff, ← Board.carries_iff]
    exact ⟨fun h => ⟨h.signals_ne_nil, h.carries⟩, fun ⟨signaled, carries⟩ => ⟨signaled, carries⟩⟩
  · intro b bound
    rw [outcome] at bound
    cases resolved : p.board.resolve r with
    | error e =>
      rw [resolved] at bound
      cases bound
    | ok signals =>
      rw [resolved] at bound
      cases bound
      exact (Board.resolve_eq_ok_iff.1 resolved).2.imp fun s t => Board.assigns_of_resolveSignal

/-- A port on an extension connector, with one pin that is wired past it. -/
def debugPort : Resource where
  name := "jtag"
  subsignals := [
    { name := "tck", pins := "2 +4", dir := .input, conn := some ⟨"pmod", 1⟩,
      attrs := .ofList [("PULLMODE", "UP"), ("SLEWRATE", "FAST")] },
    { name := "tdo", pins := "B7", dir := .output }]
  attrs := .ofList [("IO_TYPE", "LVCMOS33"), ("PULLMODE", "NONE")]

/-- A platform with the connector. -/
def debugBench : Platform where
  board := {
    name := "bench"
    device := "LFE5U-12F"
    package := "BG256"
    defaultClock := "clk"
    clockFrequencies := ∅
    connectors := [{ name := "pmod", number := 1, pins := "K14 K15 - L15" }]
    resources := [debugPort] }

theorem assignsPins_debugPort : debugPort.key ∉ debugBench.requested ∧
    ∃ b, ((bind "jtag" debugPort).run debugBench).2.outcome = .ok b ∧
      b.signals.map (·.pins) = [["K15", "L15"], ["B7"]] ∧
      b.signals.map (·.attrs.entries) =
        [[("IO_TYPE", "LVCMOS33"), ("PULLMODE", "UP"), ("SLEWRATE", "FAST")],
          [("IO_TYPE", "LVCMOS33"), ("PULLMODE", "NONE")]] ∧
      debugPort.signals.Forall₂ (debugBench.board.Assigns debugPort) b.signals := by
  have free : debugPort.key ∉ debugBench.requested := List.not_mem_nil
  have held : ((bind "jtag" debugPort).run debugBench).2.outcome.map (fun b =>
        (b.signals.map (·.pins), b.signals.map (·.attrs.entries))) =
      .ok ([["K15", "L15"], ["B7"]],
        [[("IO_TYPE", "LVCMOS33"), ("PULLMODE", "UP"), ("SLEWRATE", "FAST")],
          [("IO_TYPE", "LVCMOS33"), ("PULLMODE", "NONE")]]) := by cbv
  cases bound : ((bind "jtag" debugPort).run debugBench).2.outcome with
  | error e =>
    rw [bound] at held
    cases held
  | ok b =>
    rw [bound, Except.map, Except.ok.injEq, Prod.mk.injEq] at held
    exact ⟨free, b, rfl, held.1, held.2, (assignsPins free "jtag").assigned b bound⟩

end Platform

end SocAssembly
