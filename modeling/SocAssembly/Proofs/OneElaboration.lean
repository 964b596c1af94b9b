import Mathlib
import SocAssembly.Proofs.Failures
import SocAssembly.Proofs.PlatformRuns

/-!
# A platform serves for one elaboration

An elaboration ends in one of three ways (`Descriptor.Course`). The descriptor is wrong in itself,
which is found out before anything is done to the platform; or the resources cannot be added or the
clock cannot be had, and then nothing is handed out; or it comes to the clock, and can only fail in
a later stage.

When it comes to the clock, the key of the clock is marked for good: no operation takes the mark
away, gives the platform another default clock, or lets the key stand for another resource. So every
later elaboration ends in one of the first two ways, whatever the descriptor
(`Descriptor.elaboratesOnce`).
-/

namespace SocAssembly

/-! ### The mark of the clock -/

namespace Platform

/-- Adding resources hands out nothing, also when it fails. -/
theorem requested_addResources (rs : List Resource) (p : Platform) :
    ((addResources rs).run p).1.requested = p.requested := by
  induction rs generalizing p with
  | nil => rfl
  | cons r rest ih =>
    unfold addResources
    rw [Session.run_state_bind]
    split
    · rfl
    · rw [Session.run_bind_ok rfl]
      exact ih (p.withResource r)

variable {p q q' : Platform}

/-- The key under which the default clock of a platform is handed out. -/
def clockKey (p : Platform) : ResourceKey := ⟨p.board.defaultClock, 0⟩

/-- Handing out keys does not give a platform another clock. -/
theorem clockKey_eq {ks : List ResourceKey} (h : Handout p q ks) : q.clockKey = p.clockKey := by
  obtain ⟨added, board⟩ := h.board_eq
  rw [clockKey, board]
  rfl

/-- A resource that is asked for by its key was free, and its key is marked. -/
theorem request_ok {k : ResourceKey} {b : ResourceBinding}
    (h : (request k).Ends q q' (.ok b)) :
    k ∉ q.requested ∧ q'.requested = k :: q.requested := by
  obtain ⟨rfl, outcome⟩ := h
  cases found : q.board.resource? k with
  | none =>
    unfold request at outcome
    rw [Session.run_state_bind] at outcome
    simp only [found] at outcome
    cases outcome
  | some r =>
    have key := Board.key_of_resource? found
    rw [request_run found, bind_run] at outcome ⊢
    cases bound : q.binding? k.name r with
    | error e =>
      rw [bound] at outcome
      cases outcome
    | ok b' =>
      rw [← key]
      exact ⟨(key_of_binding? bound).1, rfl⟩

end Platform

/-! ### What comes before the clock and behind it -/

namespace Descriptor

/-- Elaboration on the platform comes as far as handing out the default clock. -/
def BindsClock (d : Descriptor) (p : Platform) : Prop :=
  ∃ q q' clock, d.Prepares p q ∧
    (Platform.request ⟨q.board.defaultClock, 0⟩).Ends q q' (.ok clock)

/-- What is left to do when the clock is handed out. -/
def wireUp (d : Descriptor) (soc : Soc) (clock : ResourceBinding) :
    Session Platform Elaboration := do
  let signals ← Platform.bindAll d.wires
  .ofReport (noteFallbacks signals)
  let p ← .state
  let design ← .ofReport (soc.finalize p)
  .note (.elaborated design.name design.platform design.clockFrequency)
  pure { design := design, clock := clock, signals := signals }

/-- Elaboration asks for the clock and goes on from there. -/
theorem elaborate_eq (d : Descriptor) : elaborate d = (do
    let soc ← .ofExcept (Soc.ofDescriptor d)
    .ofExcept (soc.checkWires d.wires)
    Platform.addResources d.resources
    let p ← .state
    let clock ← Platform.request ⟨p.board.defaultClock, 0⟩
    d.wireUp soc clock) := rfl

theorem wireUp_suffix (d : Descriptor) (soc : Soc) (clock : ResourceBinding) (p : Platform) :
    p.requested <:+ ((d.wireUp soc clock).run p).1.requested := by
  have hands : (d.wireUp soc clock).HandsOut p fun _ _ => True := by
    unfold wireUp
    refine (Platform.bindAll_handsOut d.wires p).bind fun signals q ks hks => ?_
    refine .ofReport_bind (noteFallbacks_quiet signals) fun _ => ?_
    refine .state_bind ?_
    refine .ofReport_bind (soc.finalize_quiet q) fun design => ?_
    exact .of_quiet rfl rfl fun _ _ => trivial
  exact hands.handout.suffix

variable {d : Descriptor} {p q q' : Platform}

/-- Wiring and finishing fail in a later stage than the description. -/
theorem wireUp_stage {soc : Soc} {clock : ResourceBinding} {e : Error}
    (h : ((d.wireUp soc clock).run p).2.outcome = .error e) : e.stage ≠ some .describing := by
  unfold wireUp at h
  rcases Session.outcome_bind_eq_error h with failed | ⟨signals, -, h⟩
  · rw [Platform.bindAll_failsIn d.wires p e failed]
    decide
  rcases Session.outcome_bind_eq_error h with failed | ⟨_, -, h⟩
  · cases failed
  rw [Session.run_state_bind] at h
  rcases Session.outcome_bind_eq_error h with failed | ⟨design, -, h⟩
  · rw [soc.finalize_failsIn _ e failed]
    decide
  rcases Session.outcome_bind_eq_error h with failed | ⟨_, -, h⟩
  · cases failed
  · cases h

/-- When the clock is handed out, wiring and finishing decide how the elaboration ends. -/
theorem exists_rest {clock : ResourceBinding} (prepared : d.Prepares p q)
    (clocked : (Platform.request ⟨q.board.defaultClock, 0⟩).Ends q q' (.ok clock)) :
    ∃ soc, (elaborate d).Ends p ((d.wireUp soc clock).run q').1
      ((d.wireUp soc clock).run q').2.outcome := by
  obtain ⟨soc, described, checked, added⟩ := prepared
  refine ⟨soc, ?_⟩
  rw [elaborate_eq]
  refine .ofExcept_bind described (.ofExcept_bind checked (added.bind (.state_bind ?_)))
  exact clocked.bind ⟨rfl, rfl⟩

/-! ### How an elaboration ends -/

/-- The ways in which an elaboration on the platform can end. -/
inductive Course (d : Descriptor) (p : Platform) : Prop where
  /-- The descriptor is wrong in itself, and the platform is as it was. -/
  | described (e : Error) (stage : e.stage = some .describing)
      (ends : (elaborate d).Ends p p (.error e))
  /-- The resources are not added or the clock is not handed out, and neither is anything else. -/
  | clockless (q : Platform) (e : Error) (stage : e.stage = some .binding)
      (ends : (elaborate d).Ends p q (.error e)) (same : q.requested = p.requested)
  /-- The clock is handed out, and what follows decides. -/
  | clocked (q q' : Platform) (soc : Soc) (clock : ResourceBinding) (prepared : d.Prepares p q)
      (ends : (Platform.request ⟨q.board.defaultClock, 0⟩).Ends q q' (.ok clock))
      (rest : (elaborate d).Ends p ((d.wireUp soc clock).run q').1
        ((d.wireUp soc clock).run q').2.outcome)

theorem course (d : Descriptor) (p : Platform) : d.Course p := by
  cases described : Soc.ofDescriptor d with
  | error e =>
    have stage := Soc.ofDescriptor_failsIn d e described
    exact .described e stage (.ofExcept_bind_error described)
  | ok soc =>
    cases checked : soc.checkWires d.wires with
    | error e =>
      have stage := soc.checkWires_failsIn d.wires e checked
      exact .described e stage (.ofExcept_bind described (.ofExcept_bind_error checked))
    | ok =>
      have same := Platform.requested_addResources d.resources p
      cases outcome : ((Platform.addResources d.resources).run p).2.outcome with
      | error e =>
        have ends : (Platform.addResources d.resources).Ends p _ (.error e) := ⟨rfl, outcome⟩
        have stage := Platform.addResources_failsIn d.resources p e outcome
        refine .clockless _ e stage ?_ same
        exact .ofExcept_bind described (.ofExcept_bind checked ends.bind_error)
      | ok =>
        have prepared : d.Prepares p _ := ⟨soc, described, checked, rfl, outcome⟩
        -- from here on only the marks of the platform that was prepared count
        generalize ((Platform.addResources d.resources).run p).1 = q at prepared same
        cases asked : ((Platform.request ⟨q.board.defaultClock, 0⟩).run q).2.outcome with
        | error e =>
          have unchanged := (Platform.request_settles _ q).unchanged asked
          have stage := Platform.request_failsIn _ q e asked
          exact .clockless q e stage (elaborate_ends prepared (Or.inl ⟨unchanged, asked⟩)) same
        | ok clock =>
          obtain ⟨soc', rest⟩ := exists_rest prepared ⟨rfl, asked⟩
          exact .clocked q _ soc' clock prepared ⟨rfl, asked⟩ rest

/-- An elaboration that does not come to the clock fails, and hands out nothing. -/
theorem exists_ends_of_clockless (h : ¬ d.BindsClock p) :
    ∃ q e, (elaborate d).Ends p q (.error e) ∧ q.requested = p.requested := by
  cases d.course p with
  | described e stage ends => exact ⟨p, e, ends, rfl⟩
  | clockless q e stage ends same => exact ⟨q, e, ends, same⟩
  | clocked q q' soc clock prepared ends rest => exact absurd ⟨q, q', clock, prepared, ends⟩ h

/-- A descriptor that is wrong in itself leaves the platform as it was. -/
theorem unchanged_of_describing {e : Error} (h : ((elaborate d).run p).2.outcome = .error e)
    (stage : e.stage = some .describing) : ((elaborate d).run p).1 = p := by
  cases d.course p with
  | described e' stage' ends => exact ends.1
  | clockless q e' binding ends same =>
    rw [ends.2] at h
    cases h
    rw [binding] at stage
    cases stage
  | clocked q q' soc clock prepared ends rest =>
    rw [rest.2] at h
    exact absurd stage (wireUp_stage h)

/-! ### From the clock on -/

/-- Before the clock is asked for, neither the marks nor the clock have changed. -/
theorem Prepares.same (h : d.Prepares p q) :
    q.requested = p.requested ∧ q.clockKey = p.clockKey := by
  obtain ⟨soc, -, -, rfl, -⟩ := h
  exact ⟨Platform.requested_addResources d.resources p,
    Platform.clockKey_eq (Platform.addResources_handsOut d.resources p).handout⟩

/-- If the clock was handed out, elaboration does not come to it. -/
theorem not_bindsClock_of_taken (taken : p.clockKey ∈ p.requested) : ¬ d.BindsClock p := by
  rintro ⟨q, q', clock, prepared, clocked⟩
  obtain ⟨requested, key⟩ := prepared.same
  refine (Platform.request_ok clocked).1 ?_
  show q.clockKey ∈ q.requested
  rw [requested, key]
  exact taken

/-- When elaboration has come to the clock, the clock is marked, however the rest ends. -/
theorem BindsClock.taken (h : d.BindsClock p) :
    p.clockKey ∈ ((elaborate d).run p).1.requested := by
  obtain ⟨q, q', clock, prepared, clocked⟩ := h
  obtain ⟨soc, rest⟩ := exists_rest prepared clocked
  rw [rest.1]
  refine (d.wireUp_suffix soc clock q').subset ?_
  rw [(Platform.request_ok clocked).2, ← prepared.same.2]
  exact List.mem_cons_self ..

/-- Elaboration comes to the clock exactly if it hands out anything. -/
theorem bindsClock_iff : d.BindsClock p ↔ ((elaborate d).run p).1.requested ≠ p.requested := by
  constructor
  · intro h same
    have taken := h.taken
    rw [same] at taken
    exact not_bindsClock_of_taken taken h
  · intro changed
    by_contra clockless
    obtain ⟨q, e, ⟨rfl, -⟩, same⟩ := exists_ends_of_clockless clockless
    exact changed same

/-! ### Once -/

/-- The platform serves the descriptor, and then no other. -/
structure ElaboratesOnce (d : Descriptor) (p : Platform) : Prop where
  /-- An elaboration that succeeds has come to the clock. -/
  succeeded : ∀ e, ((elaborate d).run p).2.outcome = .ok e → d.BindsClock p
  /-- When an elaboration has come to the clock, however it ended, and whatever was done with the
  platform since, any other fails, and hands out nothing. -/
  once : d.BindsClock p → ∀ ops d', let later := (Platform.run ops ((elaborate d).run p).1).1
    ∃ q e, (elaborate d').Ends later q (.error e) ∧ q.requested = later.requested
  /-- A description that is wrong fails its elaboration, and leaves the platform as it was. -/
  described : ∀ e, Soc.ofDescriptor d = .error e → (elaborate d).Ends p p (.error e)
  /-- So does a wire that does not start at a part of the system. -/
  wired : ∀ soc w, Soc.ofDescriptor d = .ok soc → d.wires.find? (!soc.owns ·) = some w →
    (elaborate d).Ends p p (.error (.unknownSignal w.signal))
  /-- Whenever a signal is said to be unknown, the platform is as it was. -/
  unknownSignal : ∀ signal, ((elaborate d).run p).2.outcome = .error (.unknownSignal signal) →
    ((elaborate d).run p).1 = p

/-- **A platform serves for one elaboration.** Whatever the platform and the descriptors, and
whatever is done in between. -/
theorem elaboratesOnce (d : Descriptor) (p : Platform) : d.ElaboratesOnce p where
  succeeded := by
    intro e ok
    by_contra clockless
    obtain ⟨q, e', ends, -⟩ := exists_ends_of_clockless clockless
    rw [ends.2] at ok
    cases ok
  once := by
    intro h ops d' later
    -- the mark and the clock survive the rest of the elaboration and the run behind it
    have handout := Platform.run_handout ops ((elaborate d).run p).1
    have key : later.clockKey = p.clockKey := by
      rw [Platform.clockKey_eq handout, Platform.clockKey_eq (elaborate_handsOut d p).handout]
    have taken : later.clockKey ∈ later.requested := by
      rw [key]
      exact handout.suffix.subset h.taken
    exact exists_ends_of_clockless (not_bindsClock_of_taken taken)
  described := by
    intro e described
    exact .ofExcept_bind_error described
  wired := by
    intro soc w described found
    have unknown : soc.checkWires d.wires = .error (.unknownSignal w.signal) := by
      unfold Soc.checkWires
      rw [found]
    exact .ofExcept_bind described (.ofExcept_bind_error unknown)
  unknownSignal := by
    intro signal failed
    exact unchanged_of_describing failed rfl

/-- A platform with a clock. -/
def clockedBench : Platform where
  board := {
    name := "bench"
    device := "LFE5U-12F"
    package := "BG256"
    defaultClock := "clk"
    clockFrequencies := ∅
    resources := [{ name := "clk", pins := some "A7", dir := .input }] }

/-- A design without memories. -/
def bare : Descriptor where
  name := "bare"
  cpu := { name := "vexriscv", variant := "imac" }

theorem bindsClock_bare : bare.BindsClock clockedBench := by
  rw [bindsClock_iff]
  have requested : ((elaborate bare).run clockedBench).1.requested = [⟨"clk", 0⟩] := by cbv
  rw [requested]
  decide

/-- The design cannot be finished, and still uses the platform up. -/
theorem elaboratesOnce_bare : ((elaborate bare).run clockedBench).2.outcome.isOk = false ∧
    ∃ q e, (elaborate bare).Ends ((elaborate bare).run clockedBench).1 q (.error e) ∧
      q.requested = ((elaborate bare).run clockedBench).1.requested := by
  have failed : ((elaborate bare).run clockedBench).2.outcome.isOk = false := by cbv
  exact ⟨failed, (elaboratesOnce bare clockedBench).once bindsClock_bare [] bare⟩

end Descriptor

end SocAssembly
