import Mathlib
import SocAssembly.Proofs.Attempts
import SocAssembly.Proofs.Finishing

/-!
# Where designs fail

Each cause of failure belongs to one stage of the work (`Error.stage`): a description is wrong, a
resource cannot be handed out, or a system cannot be finished. That a stage fails for its own causes
only is told by the steps it is made of (`FailsIn.bind`), where a step may count on what the steps
before it have done.

One cause belongs to no stage. That an entry has no window when it is looked for would be a mistake
of the placing, and not of the system that is placed; it does not occur
(`Soc.finalize_failsIn`), because the fixed and automatic passes place all that others can be
attached to, and the three passes together place every part.
-/

namespace SocAssembly

/-- The stages at which a design fails. -/
inductive Stage where
  /-- The description is wrong in itself. -/
  | describing
  /-- A resource of the platform cannot be handed out. -/
  | binding
  /-- The system cannot be finished. -/
  | finishing
  deriving DecidableEq, Repr

/-- The stage that a cause belongs to, if it is the cause of a design that fails. -/
def Error.stage : Error → Option Stage
  | duplicateEntry _ | zeroSize _ | conflictingPlacement _ | unsupportedWidth .. | unknownSignal _ =>
    some .describing
  | resourceNotFound .. | noCandidateResource .. | emptyCandidates | resourceAlreadyRequested ..
  | duplicateResource .. | emptyResource .. | unknownConnector .. | unknownConnectorPin .. =>
    some .binding
  | misaligned .. | overlap .. | outOfAddressSpace .. | regionExhausted .. | unknownParent ..
  | nestedAttachment .. | parentWindowExhausted .. | unknownMemory _ | noFirmwareMemory
  | unknownClockDomain .. =>
    some .finishing
  | _ => none

/-- If the step fails, it does so for a cause of this stage. -/
def FailsIn {α : Type} (stage : Stage) (x : Except Error α) : Prop :=
  ∀ e, x = .error e → e.stage = some stage

namespace FailsIn

variable {α β σ : Type} {stage : Stage}

theorem ok (a : α) : FailsIn stage (.ok a) := fun _ h => by cases h

theorem error {e : Error} (h : e.stage = some stage) :
    FailsIn stage (.error e : Except Error α) := by
  rintro _ ⟨⟩
  exact h

/-- Of two steps, the second one may count on what the first one did. -/
theorem bind {x : Except Error α} {next : α → Except Error β} (h : FailsIn stage x)
    (hnext : ∀ a, x = .ok a → FailsIn stage (next a)) : FailsIn stage (x.bind next) := by
  cases x with
  | error e => exact error (h e rfl)
  | ok a => exact hnext a rfl

theorem andThen {r : Report α} {next : α → Report β} (h : FailsIn stage r.outcome)
    (hnext : ∀ a, r.outcome = .ok a → FailsIn stage (next a).outcome) :
    FailsIn stage (r >>= next).outcome := by
  rw [Report.outcome_bind]
  exact h.bind hnext

theorem session {x : Session σ α} {next : α → Session σ β} {s : σ}
    (h : FailsIn stage (x.run s).2.outcome)
    (hnext : ∀ a, (x.run s).2.outcome = .ok a →
      FailsIn stage ((next a).run (x.run s).1).2.outcome) :
    FailsIn stage ((x >>= next).run s).2.outcome := by
  cases hx : (x.run s).2.outcome with
  | error e =>
    rw [Session.run_bind_error hx]
    exact error (h e hx)
  | ok a =>
    rw [Session.run_bind_ok hx]
    exact hnext a hx

theorem map {x : Except Error α} (h : FailsIn stage x) (f : α → β) : FailsIn stage (x.map f) := by
  cases x with
  | error e => exact error (h e rfl)
  | ok a => exact ok (f a)

theorem mapM {f : α → Except Error β} {xs : List α} (h : ∀ x ∈ xs, FailsIn stage (f x)) :
    FailsIn stage (xs.mapM f) := by
  intro e he
  obtain ⟨before, x, after, rfl, -, failed⟩ := mapM_eq_error_iff.1 he
  exact h x (List.mem_append_right before (List.mem_cons_self ..)) e failed

theorem exceptFoldlM {f : σ → α → Except Error σ} (h : ∀ s x, FailsIn stage (f s x))
    (xs : List α) (s : σ) : FailsIn stage (xs.foldlM f s) := by
  induction xs generalizing s with
  | nil => exact ok s
  | cons x rest ih =>
    rw [List.foldlM_cons]
    exact (h s x).bind fun t _ => ih t

/-- Steps along a list may count on what they keep. -/
theorem foldlM {f : σ → α → Report σ} (Keeps : List α → σ → Prop)
    (step : ∀ done x s t, Keeps done s → (f s x).outcome = .ok t → Keeps (done ++ [x]) t)
    (fails : ∀ done x s, Keeps done s → FailsIn stage (f s x).outcome) :
    ∀ (todo done : List α) (s : σ), Keeps done s → FailsIn stage (todo.foldlM f s).outcome := by
  intro todo
  induction todo with
  | nil => exact fun _ s _ => ok s
  | cons x rest ih =>
    intro done s hs
    rw [List.foldlM_cons]
    exact (fails done x s hs).andThen fun t ht => ih (done ++ [x]) t (step done x s t hs ht)

/-- Steps along a list that need not count on anything. -/
theorem foldlM_of_forall {f : σ → α → Report σ} (fails : ∀ s x, FailsIn stage (f s x).outcome)
    (xs : List α) (s : σ) : FailsIn stage (xs.foldlM f s).outcome :=
  foldlM (fun _ _ => True) (fun _ _ _ _ _ _ => trivial) (fun _ x s _ => fails s x) xs [] s trivial

end FailsIn

/-! ### Describing -/

namespace Soc

theorem add_failsIn (s : Soc) (c : Component) (placement : Placement) :
    FailsIn .describing (s.add c placement) := by
  have requested : FailsIn .describing
      (s.addressMap.add c.name c.size c.reserve placement) := by
    unfold AddressMap.add
    split
    · exact .error rfl
    · split
      · exact .error rfl
      · exact .ok _
  unfold add
  split
  · rename_i refused
    exact .error (requested _ refused)
  · exact .ok _

theorem addPeripheralPlan_failsIn (s : Soc) (p : PeripheralPlan) :
    FailsIn .describing (s.addPeripheralPlan p) := by
  have width : ∀ usual, FailsIn .describing (Peripheral.checkedWidth p.name p.width usual) := by
    intro usual
    unfold Peripheral.checkedWidth
    dsimp only
    split
    · exact .error rfl
    · exact .ok _
  have ofKind : FailsIn .describing (Peripheral.ofKind p.kind p.name p.width) := by
    unfold Peripheral.ofKind
    cases p.kind with
    | timer => exact (width 32).map _
    | leds => exact (width 6).map _
    | gpio => exact (width 8).map _
    | _ => exact .ok _
  have placement : FailsIn .describing p.placement := by
    unfold PeripheralPlan.placement
    split
    · exact .error rfl
    all_goals exact .ok _
  unfold addPeripheralPlan
  refine FailsIn.bind (ofKind.bind fun usual _ => .ok _) fun q _ => ?_
  exact placement.bind fun place _ => s.add_failsIn (.peripheral q) place

/-- A description fails for its own causes. -/
theorem ofDescriptor_failsIn (d : Descriptor) : FailsIn .describing (ofDescriptor d) := by
  unfold ofDescriptor
  refine FailsIn.bind (.exceptFoldlM (fun s m => s.add_failsIn _ _) _ _) fun s _ => ?_
  exact .exceptFoldlM addPeripheralPlan_failsIn d.peripherals s

end Soc

theorem Soc.checkWires_failsIn (s : Soc) (wires : List Wire) :
    FailsIn .describing (s.checkWires wires) := by
  unfold checkWires
  split
  · exact .error rfl
  · exact .ok _

/-! ### Binding -/

theorem Board.resolvePins_failsIn (b : Board) (r : Resource) (s : Subsignal) :
    FailsIn .binding (b.resolvePins r s) := by
  unfold resolvePins
  split
  · exact .error rfl
  · exact .ok _
  · split
    · exact .error rfl
    · refine .mapM fun position _ => ?_
      split
      · exact .ok _
      · exact .error rfl

namespace Platform

theorem binding?_failsIn (p : Platform) (requested : String) (r : Resource) :
    FailsIn .binding (p.binding? requested r) := by
  have resolved : FailsIn .binding (p.board.resolve r) := by
    unfold Board.resolve
    refine FailsIn.bind (.mapM fun s _ => ?_) fun signals _ => ?_
    · exact (p.board.resolvePins_failsIn r s).bind fun pins _ => .ok _
    · split
      · exact .error rfl
      · exact .ok _
  by_cases taken : r.key ∈ p.requested
  · rw [binding?_of_taken requested taken]
    exact .error rfl
  · unfold binding?
    rw [if_neg taken]
    exact resolved.bind fun signals _ => .ok _

theorem bind_failsIn (requested : String) (r : Resource) (p : Platform) :
    FailsIn .binding ((bind requested r).run p).2.outcome := by
  rw [bind_run]
  cases bound : p.binding? requested r with
  | error e => exact .error (p.binding?_failsIn requested r e bound)
  | ok b => exact .ok b

theorem request_failsIn (k : ResourceKey) (p : Platform) :
    FailsIn .binding ((request k).run p).2.outcome := by
  unfold request
  rw [Session.run_state_bind]
  split
  · exact bind_failsIn _ _ p
  · exact .error rfl

theorem requestAny_failsIn (candidates : List ResourceKey) (p : Platform) :
    FailsIn .binding ((requestAny candidates).run p).2.outcome := by
  cases candidates with
  | nil => exact .error rfl
  | cons best rest =>
    cases found : p.board.firstResource? (best :: rest) with
    | some r =>
      rw [requestAny_run found]
      exact bind_failsIn _ _ p
    | none =>
      rw [requestAny_run_missing found]
      exact .error rfl

theorem requestOptional_failsIn (candidates : List ResourceKey) (p : Platform) :
    FailsIn .binding ((requestOptional candidates).run p).2.outcome := by
  have any := requestAny_failsIn candidates p
  rw [requestOptional_run]
  cases outcome : ((requestAny candidates).run p).2.outcome with
  | ok b => exact .ok _
  | error e =>
    dsimp only
    split
    · exact .ok _
    · exact .error (any e outcome)

theorem bindWire_failsIn (w : Wire) (p : Platform) :
    FailsIn .binding ((bindWire w).run p).2.outcome := by
  unfold bindWire
  cases w.policy with
  | mandatory =>
    simp only [bind_pure_comp, Session.run_map]
    exact ((requestAny_failsIn w.candidates p).map some).map _
  | optional =>
    simp only [bind_pure_comp, Session.run_map]
    exact (requestOptional_failsIn w.candidates p).map _

theorem bindAll_failsIn (ws : List Wire) (p : Platform) :
    FailsIn .binding ((bindAll ws).run p).2.outcome := by
  induction ws generalizing p with
  | nil => exact .ok _
  | cons w rest ih =>
    unfold bindAll
    exact (bindWire_failsIn w p).session fun bound _ => (ih _).session fun others _ => .ok _

theorem addResources_failsIn (rs : List Resource) (p : Platform) :
    FailsIn .binding ((addResources rs).run p).2.outcome := by
  induction rs generalizing p with
  | nil => exact .ok _
  | cons r rest ih =>
    unfold addResources
    rw [Session.run_state_bind]
    split
    · exact .error rfl
    · exact FailsIn.session (.ok _) fun _ _ => ih _

end Platform

/-! ### Placing -/

namespace Layout

theorem placeFixed_failsIn (l : Layout) (x : String × Request) :
    FailsIn .finishing (l.placeFixed x).outcome := by
  unfold placeFixed
  dsimp only
  split
  · split
    · exact .error rfl
    · split
      · exact .error rfl
      · split
        · exact .error rfl
        · exact .ok _
  · exact .ok _

theorem placeAuto_failsIn (region : Span) (l : Layout) (x : String × Request) :
    FailsIn .finishing (placeAuto region l x).outcome := by
  unfold placeAuto
  dsimp only
  split
  · split
    · exact .error rfl
    · exact .ok _
  · exact .ok _

/-- The window of a parent that is registered and not attached itself is there. -/
theorem placeAttached_failsIn {m : AddressMap} {top l : Layout} (hosts : Hosts m top)
    {done : List (String × Request)} (carved : Carved top done l) (x : String × Request) :
    FailsIn .finishing (placeAttached m l x).outcome := by
  obtain ⟨name, r⟩ := x
  cases hattached : r.placement.isAttached with
  | false =>
    rw [placeAttached_of_not_attached m l hattached]
    exact .ok _
  | true =>
    obtain ⟨parent, hr⟩ := Placement.isAttached_iff.1 hattached
    rw [outcome_placeAttached m l hr]
    cases hp : m.request? parent with
    | none => exact .error rfl
    | some p =>
      dsimp only
      split
      · exact .error rfl
      · rename_i top'
        obtain ⟨w, hw⟩ := (hosts.known parent).2 ⟨p, hp, by simpa using top'⟩
        rw [carved.lookup hw]
        dsimp only
        split
        · exact .error rfl
        · exact .ok _

end Layout

theorem AddressMap.allocate_failsIn (m : AddressMap) : FailsIn .finishing m.allocate.outcome := by
  have fixedPass := FailsIn.foldlM_of_forall Layout.placeFixed_failsIn m.requests {}
  have autoPass := FailsIn.foldlM_of_forall (Layout.placeAuto_failsIn m.autoRegion) m.requests
  unfold allocate
  refine fixedPass.andThen fun fixed hfixed => (autoPass fixed).andThen fun top htop => ?_
  -- the third pass counts on the first two: what can be attached to is placed
  have hosts := (holds_of_passes hfixed htop).hosts
  refine FailsIn.andThen ?_ fun full _ => .ok _
  exact .foldlM top.Carved (fun _ _ _ _ h => h.step hosts)
    (fun _ x _ carved => Layout.placeAttached_failsIn hosts carved x) _ [] top (.nil hosts)

/-! ### Finishing -/

namespace Soc

theorem sectionMemory_failsIn (s : Soc) (chosen : Option String) :
    FailsIn .finishing (s.sectionMemory chosen) := by
  unfold sectionMemory
  split
  · exact .error rfl
  · split
    · exact .ok _
    · exact .error rfl

theorem memoryEntry_failsIn {s : Soc} {a : Allocation}
    (allocated : s.addressMap.allocate.outcome = .ok a) {m : Memory} (hm : m ∈ s.memories) :
    FailsIn .finishing (memoryEntry a m) := by
  obtain ⟨part, hpart, hcomponent⟩ := mem_memories.1 hm
  obtain ⟨w, hw⟩ := exists_window allocated hpart
  rw [Part.name, hcomponent] at hw
  rw [memoryEntry_eq_ok_iff.2 ⟨w, hw, rfl⟩]
  exact .ok _

theorem peripheralEntry_failsIn {s : Soc} {a : Allocation}
    (allocated : s.addressMap.allocate.outcome = .ok a) {q : Peripheral} (hq : q ∈ s.peripherals)
    (irq : Option Nat) : FailsIn .finishing (peripheralEntry a q irq) := by
  obtain ⟨part, hpart, hcomponent⟩ := mem_peripherals.1 hq
  obtain ⟨w, hw⟩ := exists_window allocated hpart
  rw [Part.name, hcomponent] at hw
  rw [peripheralEntry_eq_ok_iff.2 ⟨w, hw, rfl⟩]
  exact .ok _

theorem regions_failsIn (s : Soc) : FailsIn .finishing (s.firmware.mapOrFail s.sectionMemory) := by
  have section_failsIn := s.sectionMemory_failsIn
  unfold Sections.mapOrFail
  exact (section_failsIn _).bind fun _ _ => (section_failsIn _).bind fun _ _ =>
    (section_failsIn _).bind fun _ _ => (section_failsIn _).bind fun _ _ =>
    (section_failsIn _).bind fun _ _ => (section_failsIn _).bind fun _ _ => .ok _

/-- A system fails in the finishing for causes of its own, and never for want of a window. -/
theorem finalize_failsIn (s : Soc) (p : Platform) : FailsIn .finishing (s.finalize p).outcome := by
  have clock : FailsIn .finishing (p.clockFrequency s.clockDomain) := by
    unfold Platform.clockFrequency
    split
    · exact .ok _
    · exact .error rfl
  unfold finalize
  refine s.addressMap.allocate_failsIn.andThen fun a allocated => ?_
  refine FailsIn.andThen clock fun frequency _ => ?_
  refine FailsIn.andThen (.mapM fun m hm => memoryEntry_failsIn allocated hm) fun memories _ => ?_
  refine FailsIn.andThen ?_ fun peripherals _ => .andThen s.regions_failsIn fun regions _ => .ok _
  rw [outcome_peripheralEntries]
  refine .mapM fun x hx => peripheralEntry_failsIn allocated ?_ x.2
  rw [← map_fst_numbered 0 s.peripherals]
  exact List.mem_map_of_mem hx

/-- No entry of the address map is looked for in vain. -/
theorem finalize_ne_unallocated (s : Soc) (p : Platform) (name : String) :
    (s.finalize p).outcome ≠ .error (.unallocated name) := by
  intro failed
  cases s.finalize_failsIn p _ failed

end Soc

end SocAssembly
