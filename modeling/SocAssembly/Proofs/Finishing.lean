import Mathlib
import SocAssembly.Soc
import SocAssembly.Proofs.Allocation

/-!
# What a finished design consists of

A system is finished from an allocation of its address map: each memory and each peripheral becomes
an entry at the window that the allocation has under its name (`Soc.finalize_eq_ok_iff`). An entry
shows the bytes that its part really has, which may be fewer than the window; so the entries of a
finished design never meet because the windows do not (`Soc.Finalized.entries_apart`).
-/

namespace SocAssembly

/-! ### Entries at their windows -/

/-- The entry of a memory at a window. -/
def Memory.entryAt (m : Memory) (w : Window) : Entry where
  name := m.name
  kind := .memory m.kind
  description := m.description
  base := w.base
  size := m.size
  reserved := w.reserved
  capabilities := m.capabilities

/-- The entry of a peripheral at a window, with its interrupt number. -/
def Peripheral.entryAt (p : Peripheral) (irq : Option Nat) (w : Window) : Entry where
  name := p.name
  kind := .peripheral p.kind
  description := p.description
  base := w.base
  size := p.blockSize
  reserved := w.reserved
  capabilities := p.capabilities
  parent := w.parent
  irq := irq
  registers := p.layout
  events := p.events

namespace Soc

theorem window_eq_ok_iff {a : Allocation} {name : String} {w : Window} :
    window a name = .ok w ↔ a.get? name = some w := by
  unfold window
  cases a.get? name with
  | none => simp
  | some v => simp

theorem memoryEntry_eq_ok_iff {a : Allocation} {m : Memory} {e : Entry} :
    memoryEntry a m = .ok e ↔ ∃ w, a.get? m.name = some w ∧ m.entryAt w = e := by
  show (window a m.name).bind _ = _ ↔ _
  rw [except_bind_eq_ok_iff]
  refine exists_congr fun w => and_congr window_eq_ok_iff ?_
  exact ⟨Except.ok.inj, congrArg Except.ok⟩

theorem peripheralEntry_eq_ok_iff {a : Allocation} {p : Peripheral} {irq : Option Nat} {e : Entry} :
    peripheralEntry a p irq = .ok e ↔ ∃ w, a.get? p.name = some w ∧ p.entryAt irq w = e := by
  show (window a p.name).bind _ = _ ↔ _
  rw [except_bind_eq_ok_iff]
  refine exists_congr fun w => and_congr window_eq_ok_iff ?_
  exact ⟨Except.ok.inj, congrArg Except.ok⟩

/-- Peripherals with their interrupt numbers, which count those with events from `next` on. -/
def numbered (next : Nat) : List Peripheral → List (Peripheral × Option Nat)
  | [] => []
  | p :: rest =>
    if p.events.isEmpty then (p, none) :: numbered next rest
    else (p, some next) :: numbered (next + 1) rest

@[simp] theorem map_fst_numbered (next : Nat) (ps : List Peripheral) :
    (numbered next ps).map Prod.fst = ps := by
  induction ps generalizing next with
  | nil => rfl
  | cons p rest ih => unfold numbered; split <;> simp [ih]

/-- A peripheral has a number exactly if it has events. -/
theorem isSome_of_mem_numbered {next : Nat} {ps : List Peripheral} {x : Peripheral × Option Nat}
    (h : x ∈ numbered next ps) : x.2.isSome = !x.1.events.isEmpty := by
  induction ps generalizing next with
  | nil => cases h
  | cons p rest ih =>
    unfold numbered at h
    split at h
    · rename_i quiet
      rcases List.mem_cons.1 h with rfl | h
      · simp [quiet]
      · exact ih h
    · rename_i eventful
      rcases List.mem_cons.1 h with rfl | h
      · simp [eventful]
      · exact ih h

/-- Numbering and placing can be done one after the other. -/
theorem outcome_peripheralEntries (a : Allocation) (next : Nat) (ps : List Peripheral) :
    (peripheralEntries a next ps).outcome =
      (numbered next ps).mapM fun x => peripheralEntry a x.1 x.2 := by
  induction ps generalizing next with
  | nil => rfl
  | cons p rest ih =>
    unfold peripheralEntries numbered
    split
    · rw [List.mapM_cons]
      simp only [Report.outcome_bind, Report.outcome_ofExcept, ih]
      rfl
    · rw [List.mapM_cons]
      simp only [Report.outcome_bind, Report.outcome_ofExcept, ih]
      rfl

/-! ### Finishing -/

/-- The design is what the system becomes on the platform, from an allocation of its parts. -/
structure Finalized (s : Soc) (p : Platform) (a : Allocation) (d : Design) : Prop where
  /-- The parts have their windows. -/
  allocated : s.addressMap.allocate.outcome = .ok a
  /-- The clock has a frequency. -/
  clockFrequency : p.clockFrequency s.clockDomain = .ok d.clockFrequency
  /-- Each memory is in its place. -/
  memories : s.memories.Forall₂ (fun m e => ∃ w, a.get? m.name = some w ∧ m.entryAt w = e)
    d.memories
  /-- Each peripheral is in its place, with its number. -/
  peripherals : (numbered 0 s.peripherals).Forall₂
    (fun q e => ∃ w, a.get? q.1.name = some w ∧ q.1.entryAt q.2 w = e) d.peripherals
  /-- Each section of the firmware has a memory. -/
  regions : s.firmware.mapOrFail s.sectionMemory = .ok d.regions
  /-- The rest is taken over. -/
  named : d.name = s.name ∧ d.platform = p.name ∧ d.cpu = s.cpu

theorem finalize_eq_ok_iff {s : Soc} {p : Platform} {d : Design} :
    (s.finalize p).outcome = .ok d ↔ ∃ a, s.Finalized p a d := by
  unfold finalize
  simp only [Report.bind_eq_ok_iff, Report.pure_eq_ok_iff, Report.outcome_ofExcept,
    outcome_peripheralEntries, mapM_eq_ok_iff, memoryEntry_eq_ok_iff, peripheralEntry_eq_ok_iff]
  constructor
  · rintro ⟨a, ha, frequency, hfrequency, ms, hms, ps, hps, regions, hregions, rfl⟩
    exact ⟨a, ha, hfrequency, hms, hps, hregions, rfl, rfl, rfl⟩
  · rintro ⟨a, ha, hfrequency, hms, hps, hregions, hname, hplatform, hcpu⟩
    refine ⟨a, ha, _, hfrequency, _, hms, _, hps, _, hregions, ?_⟩
    rw [← hname, ← hplatform, ← hcpu]

/-! ### The parts behind the entries -/

/-- Memories and peripherals together are the parts. -/
theorem names_perm (s : Soc) :
    (s.memories.map (·.name) ++ s.peripherals.map (·.name)).Perm (s.parts.map Part.name) := by
  unfold memories peripherals
  induction s.parts with
  | nil => exact List.Perm.refl _
  | cons part rest ih =>
    cases hpart : part.component with
    | memory m =>
      have hname : part.name = m.name := by rw [Part.name, hpart]; rfl
      simp only [List.filterMap_cons, hpart, Component.memory?, Component.peripheral?]
      rw [List.map_cons, List.map_cons, hname]
      exact ih.cons m.name
    | peripheral q =>
      have hname : part.name = q.name := by rw [Part.name, hpart]; rfl
      simp only [List.filterMap_cons, hpart, Component.memory?, Component.peripheral?]
      rw [List.map_cons, List.map_cons, hname]
      exact List.perm_middle.trans (ih.cons q.name)

theorem mem_memories {s : Soc} {m : Memory} :
    m ∈ s.memories ↔ ∃ part ∈ s.parts, part.component = .memory m := by
  unfold memories
  rw [List.mem_filterMap]
  refine exists_congr fun part => and_congr_right fun _ => ?_
  cases part.component <;> simp [Component.memory?]

theorem mem_peripherals {s : Soc} {q : Peripheral} :
    q ∈ s.peripherals ↔ ∃ part ∈ s.parts, part.component = .peripheral q := by
  unfold peripherals
  rw [List.mem_filterMap]
  refine exists_congr fun part => and_congr_right fun _ => ?_
  cases part.component <;> simp [Component.peripheral?]

/-- Every part has a window. -/
theorem exists_window {s : Soc} {a : Allocation} (allocated : s.addressMap.allocate.outcome = .ok a)
    {part : Part} (hpart : part ∈ s.parts) : ∃ w, a.get? part.name = some w := by
  obtain ⟨top, full, settled⟩ := AddressMap.exists_settled allocated
  have mem : (part.name, part.request) ∈ s.addressMap.requests := List.mem_map_of_mem hpart
  obtain ⟨w, hw, -⟩ := settled.answered mem
  exact ⟨w, hw⟩

/-- A part is given the window of its size. -/
theorem size_eq_windowSize {s : Soc} {a : Allocation} {top full : Layout}
    (h : s.addressMap.Settled a top full) {part : Part} (hpart : part ∈ s.parts) {w : Window}
    (hw : a.get? part.name = some w) : w.size = windowSize part.component.size := by
  have mem : (part.name, part.request) ∈ s.addressMap.requests := List.mem_map_of_mem hpart
  obtain ⟨v, hv, hsize, -⟩ := h.answered mem
  rw [hw, Option.some.injEq] at hv
  rw [hv, hsize]
  rfl

namespace Finalized

variable {s : Soc} {p : Platform} {a : Allocation} {d : Design}

/-- A memory of the design is one of the system at its window. -/
theorem exists_memory (h : s.Finalized p a d) {e : Entry} (he : e ∈ d.memories) :
    ∃ m ∈ s.memories, ∃ w, a.get? m.name = some w ∧ m.entryAt w = e :=
  exists_of_forall₂ h.memories he

/-- A peripheral of the design is one of the system at its window. -/
theorem exists_peripheral (h : s.Finalized p a d) {e : Entry} (he : e ∈ d.peripherals) :
    ∃ q ∈ s.peripherals, ∃ irq w, a.get? q.name = some w ∧ q.entryAt irq w = e := by
  obtain ⟨⟨q, irq⟩, hq, w, hw, hentry⟩ := exists_of_forall₂ h.peripherals he
  refine ⟨q, ?_, irq, w, hw, hentry⟩
  rw [← map_fst_numbered 0 s.peripherals]
  exact List.mem_map_of_mem hq

theorem names_eq (h : s.Finalized p a d) : d.entries.map Entry.name =
    s.memories.map (·.name) ++ s.peripherals.map (·.name) := by
  have hmemories : s.memories.map (·.name) = d.memories.map Entry.name := by
    refine map_eq_of_forall₂ ?_ h.memories
    rintro m e ⟨w, -, rfl⟩
    rfl
  have hperipherals : (numbered 0 s.peripherals).map (·.1.name) = d.peripherals.map Entry.name := by
    refine map_eq_of_forall₂ ?_ h.peripherals
    rintro q e ⟨w, -, rfl⟩
    rfl
  have hnumbered := congrArg (List.map (·.name)) (map_fst_numbered 0 s.peripherals)
  rw [List.map_map] at hnumbered
  rw [Design.entries, List.map_append, ← hmemories, ← hperipherals, ← hnumbered]
  rfl

/-- No two entries have one name. -/
theorem names_nodup (h : s.Finalized p a d) : (d.entries.map Entry.name).Nodup := by
  rw [h.names_eq]
  exact s.names_perm.nodup_iff.2 s.names_nodup

/-- Every entry shows a part, at the window that the part was given. -/
theorem exists_part (h : s.Finalized p a d) {e : Entry} (he : e ∈ d.entries) :
    ∃ part ∈ s.parts, ∃ w, a.get? part.name = some w ∧ e.name = part.name ∧ e.base = w.base ∧
      e.size = part.component.size := by
  rcases List.mem_append.1 he with he | he
  · obtain ⟨m, hm, w, hw, rfl⟩ := h.exists_memory he
    obtain ⟨part, hpart, hcomponent⟩ := mem_memories.1 hm
    refine ⟨part, hpart, w, ?_⟩
    rw [Part.name, hcomponent]
    exact ⟨hw, rfl, rfl, rfl⟩
  · obtain ⟨q, hq, irq, w, hw, rfl⟩ := h.exists_peripheral he
    obtain ⟨part, hpart, hcomponent⟩ := mem_peripherals.1 hq
    refine ⟨part, hpart, w, ?_⟩
    rw [Part.name, hcomponent]
    exact ⟨hw, rfl, rfl, rfl⟩

/-- Every entry starts where its window does and takes no more room. -/
theorem exists_window (h : s.Finalized p a d) {e : Entry} (he : e ∈ d.entries) :
    ∃ w, (e.name, w) ∈ a.windows ∧ e.base = w.base ∧ e.size ≤ w.size := by
  obtain ⟨top, full, settled⟩ := AddressMap.exists_settled h.allocated
  obtain ⟨part, hpart, w, hw, hname, hbase, hsize⟩ := h.exists_part he
  refine ⟨w, ?_, hbase, ?_⟩
  · rw [hname]
    exact mem_of_lookup hw
  · rw [hsize, size_eq_windowSize settled hpart hw]
    exact le_windowSize _

/-- Every entry starts on a packed unit. -/
theorem packed_dvd_base (h : s.Finalized p a d) {e : Entry} (he : e ∈ d.entries) :
    packed ∣ e.base := by
  obtain ⟨top, full, settled⟩ := AddressMap.exists_settled h.allocated
  obtain ⟨w, hw, hbase, -⟩ := h.exists_window he
  rw [hbase]
  exact (settled.size_le_reserved hw).1

/-- Every entry ends within the address space. -/
theorem stop_le (h : s.Finalized p a d) {e : Entry} (he : e ∈ d.entries) :
    e.range.stop ≤ addressSpaceEnd := by
  obtain ⟨top, full, settled⟩ := AddressMap.exists_settled h.allocated
  obtain ⟨w, hw, hbase, hsize⟩ := h.exists_window he
  have hstop : w.base + w.reserved ≤ max addressSpaceEnd addressSpaceEnd := settled.stop_le hw
  have hreserved := (settled.size_le_reserved hw).2
  rw [max_self] at hstop
  show e.base + e.size ≤ addressSpaceEnd
  simp only at hreserved
  omega

/-- Entries of different names never meet. -/
theorem range_apart (h : s.Finalized p a d) {e e' : Entry} (he : e ∈ d.entries)
    (he' : e' ∈ d.entries) (ne : e.name ≠ e'.name) : e.range.Apart e'.range := by
  obtain ⟨top, full, settled⟩ := AddressMap.exists_settled h.allocated
  obtain ⟨w, hw, hbase, hsize⟩ := h.exists_window he
  obtain ⟨w', hw', hbase', hsize'⟩ := h.exists_window he'
  refine (settled.range_apart hw hw' ne).mono ?_ ?_
  · rw [Entry.range, hbase]
    exact ⟨le_rfl, Nat.add_le_add_left hsize _⟩
  · rw [Entry.range, hbase']
    exact ⟨le_rfl, Nat.add_le_add_left hsize' _⟩

/-- The entries of a finished design never meet. -/
theorem entries_apart (h : s.Finalized p a d) :
    d.entries.Pairwise fun e e' => e.range.Apart e'.range := by
  have distinct : d.entries.Pairwise fun e e' => e.name ≠ e'.name :=
    List.pairwise_map.1 h.names_nodup
  exact distinct.imp_of_mem fun he he' ne => h.range_apart he he' ne

/-- What an entry is attached to is an entry. -/
theorem parent_mem_names (h : s.Finalized p a d) {e : Entry} (he : e ∈ d.peripherals)
    {parent : String} (hparent : e.parent = some parent) : parent ∈ d.entries.map Entry.name := by
  obtain ⟨top, full, settled⟩ := AddressMap.exists_settled h.allocated
  obtain ⟨q, -, irq, w, hw, rfl⟩ := h.exists_peripheral he
  have hw := mem_of_lookup hw
  rcases settled.mem_top_or_row hw with htop | ⟨host, v, hhost, hv, -⟩
  · have none := settled.holds.hosts.parent_eq _ htop
    exact absurd (hparent.symm.trans none) (by simp)
  · obtain rfl : host = parent := Option.some.inj (hhost.symm.trans hparent)
    have mem : host ∈ s.addressMap.names := by
      rw [← settled.names_eq]
      exact List.mem_map_of_mem (settled.mem_of_top (mem_of_lookup hv))
    rw [h.names_eq, s.names_perm.mem_iff, ← s.names_addressMap]
    exact mem

end Finalized

end Soc

end SocAssembly
