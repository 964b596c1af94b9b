import Mathlib
import SocAssembly.Proofs.BusWords

/-!
# Events and interrupt numbers

A peripheral with events shows them in four ways: it has an interrupt number, it is marked as
raising events, its block ends with three registers that have a bit for each event, and so it can
be read and written. A finished design has all four or none of them (`Soc.ShowsEvents`).

The numbers count the peripherals with events from zero on, in the order in which they were added,
so the list of interrupts, which is sorted by number, is the list of their names
(`Soc.filterMap_numbered`).
-/

namespace SocAssembly

/-! ### The registers for events -/

/-- These are the registers for so many events: their level, those that wait, those that interrupt,
each with one field that has a bit for every event. -/
structure IsEventBlock (count : Nat) (rs : List Register) : Prop where
  /-- They have their names. -/
  names : rs.map (·.name) = ["ev_status", "ev_pending", "ev_enable"]
  /-- They have a bit for every event. -/
  widths : ∀ r ∈ rs, r.width = count
  /-- All bits of each are one field. -/
  fields : ∀ r ∈ rs, ∃ f, r.fields = [f] ∧ f.bitOffset = 0 ∧ f.bitWidth = count

namespace Peripheral

theorem eventRegisters_zero : eventRegisters 0 = [] := rfl

theorem isEventBlock_eventRegisters {count : Nat} (some : count ≠ 0) :
    IsEventBlock count (eventRegisters count) := by
  unfold eventRegisters
  rw [if_neg some]
  refine ⟨rfl, ?_, ?_⟩
  · simp [Register.withField]
  · simp [Register.withField]

/-- One register for events can be read and written, the others do not take this away. -/
theorem exists_mem_eventRegisters {count : Nat} (some : count ≠ 0) :
    ∃ r ∈ eventRegisters count, r.access.isReadable = true ∧ r.access.isWritable = true := by
  unfold eventRegisters
  rw [if_neg some]
  exact ⟨_, List.mem_cons_of_mem _ (List.mem_cons_self ..), rfl, rfl⟩

variable (q : Peripheral)

theorem allRegisters_of_quiet (quiet : q.events = []) : q.allRegisters = q.registers := by
  unfold allRegisters
  rw [quiet, List.length_nil, eventRegisters_zero, List.append_nil]

/-- The block ends with registers for events exactly if there are events. -/
theorem exists_isEventBlock_iff :
    (∃ extra, q.allRegisters = q.registers ++ extra ∧ IsEventBlock q.events.length extra) ↔
      q.events ≠ [] := by
  constructor
  · rintro ⟨extra, block, isBlock⟩ quiet
    rw [q.allRegisters_of_quiet quiet, List.self_eq_append_right] at block
    have names := isBlock.names
    rw [block] at names
    cases names
  · intro eventful
    exact ⟨_, rfl, isEventBlock_eventRegisters (by simpa using eventful)⟩

/-- What the list of registers says about an access holds of the whole block with its events. -/
theorem any_or_eventful {P : Register → Bool}
    (hP : ∀ r : Register, r.access.isReadable = true → r.access.isWritable = true → P r = true) :
    (q.registers.any P || !q.events.isEmpty) = true ↔ ∃ r ∈ q.allRegisters, P r = true := by
  by_cases quiet : q.events = []
  · rw [q.allRegisters_of_quiet quiet, quiet, List.isEmpty_nil, Bool.not_true, Bool.or_false,
      List.any_eq_true]
  · have eventful : (!q.events.isEmpty) = true := by simpa using quiet
    have some : q.events.length ≠ 0 := by simpa using quiet
    obtain ⟨r, hr, readable, writable⟩ := exists_mem_eventRegisters some
    rw [eventful, Bool.or_true]
    exact iff_of_true rfl ⟨r, List.mem_append_right _ hr, hP r readable writable⟩

end Peripheral

/-! ### Numbers -/

/-- The peripherals with events, in the order of addition. -/
def Soc.eventful (s : Soc) : List Peripheral := s.peripherals.filter (!·.events.isEmpty)

namespace Soc

/-- The numbers count the peripherals with events. -/
theorem filterMap_numbered (next : Nat) (ps : List Peripheral) :
    (numbered next ps).filterMap (fun x => x.2.map (x.1.name, ·)) =
      ((ps.filter (!·.events.isEmpty)).map (·.name)).zipIdx next := by
  induction ps generalizing next with
  | nil => rfl
  | cons p rest ih =>
    unfold numbered
    cases quiet : p.events.isEmpty with
    | true =>
      rw [if_pos rfl, List.filterMap_cons_none rfl, List.filter_cons_of_neg (by simp [quiet]), ih]
    | false =>
      rw [if_neg Bool.false_ne_true, List.filter_cons_of_pos (by simp [quiet]), List.map_cons,
        List.zipIdx_cons, ← ih]
      rfl

variable {s : Soc} {p : Platform} {a : Allocation} {d : Design}

/-- The numbers of a finished design, as they stand with its peripherals. -/
theorem Finalized.filterMap_irq (h : s.Finalized p a d) :
    d.peripherals.filterMap (fun e => e.irq.map (e.name, ·)) =
      (s.eventful.map (·.name)).zipIdx := by
  have shown : (numbered 0 s.peripherals).map (fun x => x.2.map (x.1.name, ·)) =
      d.peripherals.map (fun e => e.irq.map (e.name, ·)) := by
    refine map_eq_of_forall₂ ?_ h.peripherals
    rintro q e ⟨w, -, rfl⟩
    rfl
  have numbers := congrArg (List.filterMap id) shown
  rw [List.filterMap_map, List.filterMap_map] at numbers
  exact numbers.symm.trans (filterMap_numbered 0 s.peripherals)

/-- They are in order, so sorting by number leaves them as they are. -/
theorem Finalized.interrupts_eq (h : s.Finalized p a d) :
    d.interrupts = (s.eventful.map (·.name)).zipIdx := by
  have increasing : ((s.eventful.map (·.name)).zipIdx.map Prod.snd).Pairwise (· ≤ ·) := by
    rw [List.zipIdx_map_snd]
    exact List.pairwise_le_range'
  unfold Design.interrupts
  rw [h.filterMap_irq]
  refine List.mergeSort_of_pairwise ((List.pairwise_map.1 increasing).imp fun le => ?_)
  simpa using le

/-! ### What a finished design tells of events -/

/-- The peripheral `q` has become the entry `e`, and all that the entry tells of its events
agrees. -/
structure ShowsEvents (q : Peripheral) (e : Entry) : Prop where
  /-- It is the entry of the peripheral, with its events. -/
  entry : e.name = q.name ∧ e.events = q.events
  /-- It has an interrupt number if it has events. -/
  irq_iff : e.irq.isSome = true ↔ q.events ≠ []
  /-- It is marked if it has events. -/
  marked_iff : e.capabilities.events = true ↔ q.events ≠ []
  /-- Its registers are followed by those for events if it has events. -/
  block_iff : (∃ extra, e.registers.map (·.register) = q.registers ++ extra ∧
    IsEventBlock q.events.length extra) ↔ q.events ≠ []
  /-- Otherwise its registers are all. -/
  registers_eq : q.events = [] → e.registers.map (·.register) = q.registers
  /-- It can be read if some register can, one for events included. -/
  read_iff : e.capabilities.read = true ↔ ∃ r ∈ e.registers, r.register.access.isReadable = true
  /-- It can be written if some register can, one for events included. -/
  write_iff : e.capabilities.write = true ↔ ∃ r ∈ e.registers, r.register.access.isWritable = true

/-- What a finished design tells of the events of the system. -/
structure NumbersEvents (s : Soc) (d : Design) : Prop where
  /-- The numbers are those from zero on, as many as peripherals have events, in order. -/
  numbers : d.peripherals.filterMap Entry.irq = List.range s.eventful.length
  /-- There are as many interrupts. -/
  length_interrupts : d.interrupts.length = s.eventful.length
  /-- Each interrupt has the name of the peripheral that comes at its number. -/
  interrupt : ∀ i (h : i < s.eventful.length), d.interrupts[i]? = some (s.eventful[i].name, i)
  /-- Each entry tells of the events of its peripheral. -/
  shown : s.peripherals.Forall₂ ShowsEvents d.peripherals

theorem showsEvents_entryAt {q : Peripheral} {irq : Option Nat}
    (number : irq.isSome = !q.events.isEmpty) (w : Window) :
    ShowsEvents q (q.entryAt irq w) := by
  have registers : (q.entryAt irq w).registers.map (·.register) = q.allRegisters :=
    q.map_register_layout
  have eventful : (!q.events.isEmpty) = true ↔ q.events ≠ [] := by simp
  have access : ∀ P : Register → Bool, (∃ r ∈ (q.entryAt irq w).registers, P r.register = true) ↔
      ∃ r ∈ q.allRegisters, P r = true := fun P => by
    rw [← registers]
    simp only [List.mem_map, exists_exists_and_eq_and]
  refine
    { entry := ⟨rfl, rfl⟩
      irq_iff := by rw [← eventful, ← number]; rfl
      marked_iff := eventful
      block_iff := by rw [registers]; exact q.exists_isEventBlock_iff
      registers_eq := fun quiet => by rw [registers, q.allRegisters_of_quiet quiet]
      read_iff := ?_
      write_iff := ?_ }
  · rw [access (·.access.isReadable)]
    exact q.any_or_eventful fun r readable _ => readable
  · rw [access (·.access.isWritable)]
    exact q.any_or_eventful fun r _ writable => writable

/-- **Interrupt numbers follow the events.** The peripherals with events have the numbers from zero
on, in the order in which they were added, and everything that a finished design tells of the events
of a peripheral agrees. -/
theorem numbersEvents_of_finalize (h : (s.finalize p).outcome = .ok d) : s.NumbersEvents d := by
  obtain ⟨a, finalized⟩ := finalize_eq_ok_iff.1 h
  have interrupts := finalized.interrupts_eq
  refine
    { numbers := ?numbers
      length_interrupts := by rw [interrupts, List.length_zipIdx, List.length_map]
      interrupt := fun i hi => ?interrupt
      shown := ?shown }
  case numbers =>
    have second := congrArg (List.map Prod.snd) finalized.filterMap_irq
    rw [List.map_filterMap, List.zipIdx_map_snd, List.length_map, ← List.range_eq_range'] at second
    rw [← second]
    refine List.filterMap_congr fun e _ => ?_
    cases e.irq <;> rfl
  case interrupt =>
    rw [interrupts, List.getElem?_zipIdx, List.getElem?_map, List.getElem?_eq_getElem hi,
      Nat.zero_add]
    rfl
  case shown =>
    rw [← map_fst_numbered 0 s.peripherals, List.forall₂_map_left_iff]
    have numbered := (List.forall₂_and_left _ _).2
      ⟨fun x hx => isSome_of_mem_numbered hx, finalized.peripherals⟩
    refine numbered.imp ?_
    rintro ⟨q, irq⟩ e ⟨number, w, -, rfl⟩
    exact showsEvents_entryAt number w

theorem numbersEvents_tickSoc : ∃ d : Design, (tickSoc.finalize benchPlatform).outcome = .ok d ∧
    tickSoc.eventful.map (·.name) = ["ep_in", "usb"] ∧ tickSoc.NumbersEvents d := by
  have finished : ∃ d : Design, (tickSoc.finalize benchPlatform).outcome = .ok d := by
    unfold finalize
    rw [Report.outcome_bind, allocate_tickSoc]
    exact ⟨_, rfl⟩
  obtain ⟨d, hd⟩ := finished
  exact ⟨d, hd, by decide, numbersEvents_of_finalize hd⟩

end Soc

end SocAssembly
