import Mathlib
import SocAssembly.Proofs.Appending
import SocAssembly.Proofs.Failures

/-!
# Adding parts, whether they are accepted or not

A system takes calls that add a memory or a peripheral, and refuses some of them: components that
are empty, and those whose name a memory or a peripheral has already (`Soc.add_eq_error_iff`). A
refused call counts for nothing, so the accepted calls alone, made one after the other, are accepted
again and lead to the same system (`Soc.foldlM_accepted`).

## The model

A system may keep its parts in three lists side by side: the requests of all parts with their names,
the memories, and the peripherals (`Ledger`). A call then goes to the requests first, and what is
accepted there is put at the end of the memories or of the peripherals; the next call works on the
lists as this one has left them, whether it has failed or not. Whatever the calls, the three lists
stay in step (`Ledger.registerAll_ledger`).
-/

namespace SocAssembly

/-- An entry is refused if it is empty, or else if its name is taken. -/
theorem AddressMap.add_eq_error_iff {m : AddressMap} {name : String} {size : Nat}
    {reserve : Option Nat} {placement : Placement} {e : Error} :
    m.add name size reserve placement = .error e ↔
      (size = 0 ∧ e = .zeroSize name) ∨
      (size ≠ 0 ∧ name ∈ m.names ∧ e = .duplicateEntry name) := by
  unfold add
  by_cases empty : size = 0
  · simp [empty, eq_comm]
  · by_cases taken : name ∈ m.names
    · simp [empty, taken, eq_comm]
    · simp [empty, taken]

/-- What an address map accepts stands behind its other entries. -/
theorem AddressMap.add_of_extends {m m' : AddressMap} {name : String} {size : Nat}
    {reserve : Option Nat} {placement : Placement} (h : size ≠ 0)
    (ext : m.Extends name (.ofSize size reserve placement h) m') :
    m.add name size reserve placement = .ok m' := by
  have free : name ∉ m.names := by
    have nodup := m'.names_nodup
    rw [ext.requests_eq, List.map_append] at nodup
    intro taken
    exact List.disjoint_of_nodup_append nodup taken (List.mem_singleton_self name)
  obtain ⟨region, requests, nodup⟩ := m'
  obtain ⟨rfl, rfl⟩ := ext
  unfold add
  rw [dif_neg h, dif_neg free]

/-- A call that adds a component to a system. -/
structure Registration where
  /-- The component. -/
  component : Component
  /-- Where it wants to be. -/
  placement : Placement
  deriving DecidableEq, Repr

namespace Soc

/-- The system after a call; one that is refused leaves it as it was. -/
def register (s : Soc) (r : Registration) : Soc :=
  match s.add r.component r.placement with
  | .ok t => t
  | .error _ => s

/-- The system after calls, one after the other. -/
def registerAll (s : Soc) (calls : List Registration) : Soc := calls.foldl register s

/-- The calls that are accepted, in order. -/
def accepted (s : Soc) : List Registration → List Registration
  | [] => []
  | r :: rest =>
    match s.add r.component r.placement with
    | .ok t => r :: t.accepted rest
    | .error _ => s.accepted rest

/-! ### One call -/

section Call

variable {s t : Soc} {r : Registration} {e : Error}

theorem register_of_ok (h : s.add r.component r.placement = .ok t) : s.register r = t := by
  unfold register
  rw [h]

theorem register_of_error (h : s.add r.component r.placement = .error e) : s.register r = s := by
  unfold register
  rw [h]

theorem accepted_of_ok (h : s.add r.component r.placement = .ok t) (rest : List Registration) :
    s.accepted (r :: rest) = r :: t.accepted rest := by
  rw [accepted, h]

theorem accepted_of_error (h : s.add r.component r.placement = .error e)
    (rest : List Registration) : s.accepted (r :: rest) = s.accepted rest := by
  rw [accepted, h]

end Call

/-- The address map of a system takes what the system takes, and refuses what the system refuses,
for the same cause. -/
theorem addressMap_add (s : Soc) (c : Component) (placement : Placement) :
    s.addressMap.add c.name c.size c.reserve placement =
      (s.add c placement).map Soc.addressMap := by
  cases added : s.add c placement with
  | ok t =>
    obtain ⟨part, rfl, rfl, ext⟩ := exists_extends_of_add added
    exact AddressMap.add_of_extends part.size_ne_zero ext.addressMap
  | error e =>
    unfold add at added
    split at added
    · rename_i refused
      rw [refused, Except.error.inj added]
      rfl
    · cases added

/-- A component is refused if it is empty, or else if a memory or a peripheral has its name. -/
theorem add_eq_error_iff {s : Soc} {c : Component} {placement : Placement} {e : Error} :
    s.add c placement = .error e ↔
      (c.size = 0 ∧ e = .zeroSize c.name) ∨
      (c.size ≠ 0 ∧ c.name ∈ s.memories.map (·.name) ++ s.peripherals.map (·.name) ∧
        e = .duplicateEntry c.name) := by
  have same : s.add c placement = .error e ↔
      s.addressMap.add c.name c.size c.reserve placement = .error e := by
    rw [s.addressMap_add c placement]
    cases s.add c placement <;> simp [Except.map]
  rw [s.names_perm.mem_iff, ← s.names_addressMap, same, AddressMap.add_eq_error_iff]

/-! ### Many calls -/

/-- The accepted calls alone are accepted again, and lead to the same system. -/
theorem foldlM_accepted (s : Soc) (calls : List Registration) :
    (s.accepted calls).foldlM (fun u r => u.add r.component r.placement) s =
      .ok (s.registerAll calls) := by
  induction calls generalizing s with
  | nil => rfl
  | cons r rest ih =>
    cases added : s.add r.component r.placement with
    | error e =>
      rw [accepted_of_error added, registerAll, List.foldl_cons, register_of_error added]
      exact ih s
    | ok t =>
      rw [accepted_of_ok added, List.foldlM_cons, added, registerAll, List.foldl_cons,
        register_of_ok added]
      exact ih t

/-- The components of the parts, in the order of addition. -/
def components (s : Soc) : List Component := s.parts.map (·.component)

theorem memories_eq_components (s : Soc) :
    s.memories = s.components.filterMap Component.memory? := by
  rw [components, List.filterMap_map]
  rfl

theorem peripherals_eq_components (s : Soc) :
    s.peripherals = s.components.filterMap Component.peripheral? := by
  rw [components, List.filterMap_map]
  rfl

/-- What is accepted is put behind what is there. -/
theorem components_registerAll (s : Soc) (calls : List Registration) :
    (s.registerAll calls).components = s.components ++ (s.accepted calls).map (·.component) := by
  induction calls generalizing s with
  | nil => exact (List.append_nil _).symm
  | cons r rest ih =>
    unfold registerAll at ih ⊢
    rw [List.foldl_cons, ih]
    cases added : s.add r.component r.placement with
    | error e => rw [accepted_of_error added, register_of_error added]
    | ok t =>
      obtain ⟨part, component, -, ext⟩ := exists_extends_of_add added
      rw [accepted_of_ok added, register_of_ok added, components, components, ext.parts_eq,
        List.map_append, List.map_singleton, component, List.map_cons, List.append_assoc]
      rfl

end Soc

/-! ### Three lists side by side -/

/-- A system that keeps its parts in three lists. -/
structure Ledger where
  /-- Its name. -/
  name : String
  /-- Its processor. -/
  cpu : Cpu
  /-- The clock domain that it runs from. -/
  clockDomain : String
  /-- The memories of the firmware sections, where they are chosen. -/
  firmware : Sections (Option String)
  /-- The requests of all parts. -/
  addressMap : AddressMap
  /-- The memories. -/
  memories : List Memory
  /-- The peripherals. -/
  peripherals : List Peripheral

namespace Ledger

/-- A call goes to the requests first; what they accept is put at the end of its list. -/
def register (r : Registration) : Session Ledger Unit := do
  let l ← .state
  let c := r.component
  let requests ← .ofExcept (l.addressMap.add c.name c.size c.reserve r.placement)
  .modify fun l => { l with addressMap := requests }
  match c with
  | .memory m => .modify fun l => { l with memories := l.memories ++ [m] }
  | .peripheral q => .modify fun l => { l with peripherals := l.peripherals ++ [q] }

/-- The lists after calls, one after the other; the next is made whether a call fails or not. -/
def registerAll (l : Ledger) (calls : List Registration) : Ledger :=
  calls.foldl (fun l r => ((register r).run l).1) l

/-- There is a peripheral with this name. -/
def hasPeripheral (l : Ledger) (name : String) : Bool := l.peripherals.any (·.name = name)

/-- The memory of a section of the firmware: the one chosen, or else the first RAM. -/
def sectionMemory (l : Ledger) (chosen : Option String) : Except Error String :=
  match chosen.or ((l.memories.find? (·.kind = .ram)).map (·.name)) with
  | none => .error .noFirmwareMemory
  | some name => if l.memories.any (·.name = name) then .ok name else .error (.unknownMemory name)

/-- The finished design on a platform. -/
def finalize (l : Ledger) (p : Platform) : Report Design := do
  let allocation ← l.addressMap.allocate
  let clockFrequency ← .ofExcept (p.clockFrequency l.clockDomain)
  let memories ← .ofExcept (l.memories.mapM (Soc.memoryEntry allocation))
  let peripherals ← Soc.peripheralEntries allocation 0 l.peripherals
  let regions ← .ofExcept (l.firmware.mapOrFail l.sectionMemory)
  pure
    { name := l.name
      platform := p.name
      cpu := l.cpu
      clockFrequency := clockFrequency
      memories := memories
      peripherals := peripherals
      regions := regions }

section Call

variable {l : Ledger} {r : Registration} {e : Error} {m : AddressMap}

theorem run_register_of_error (h : l.addressMap.add r.component.name r.component.size
    r.component.reserve r.placement = .error e) : (register r).run l = (l, .fail e) := by
  unfold register
  rw [Session.run_state_bind]
  dsimp only
  rw [h]
  rfl

theorem run_register_of_ok (h : l.addressMap.add r.component.name r.component.size
    r.component.reserve r.placement = .ok m) : (register r).run l =
      ({ l with
          addressMap := m
          memories := l.memories ++ r.component.memory?.toList
          peripherals := l.peripherals ++ r.component.peripheral?.toList }, pure ()) := by
  unfold register
  rw [Session.run_state_bind]
  dsimp only
  rw [h]
  cases r.component with
  | memory memory =>
    rw [Component.peripheral?, Option.toList_none, List.append_nil]
    rfl
  | peripheral q =>
    rw [Component.memory?, Option.toList_none, List.append_nil]
    rfl

/-- A call that fails changes nothing. -/
theorem unchanged_of_register (h : ((register r).run l).2.outcome = .error e) :
    ((register r).run l).1 = l := by
  cases added : l.addressMap.add r.component.name r.component.size r.component.reserve
      r.placement with
  | error e => rw [run_register_of_error added]
  | ok m =>
    rw [run_register_of_ok added] at h
    cases h

end Call

end Ledger

/-- The lists of a system. -/
def Soc.ledger (s : Soc) : Ledger where
  name := s.name
  cpu := s.cpu
  clockDomain := s.clockDomain
  firmware := s.firmware
  addressMap := s.addressMap
  memories := s.memories
  peripherals := s.peripherals

namespace Ledger

/-- The lists of a system are finished as the system is. -/
theorem finalize_ledger (s : Soc) (p : Platform) : s.ledger.finalize p = s.finalize p := rfl

/-- A call keeps the lists in step, and ends as it does for the system. -/
theorem run_register_ledger (s : Soc) (r : Registration) :
    (register r).run s.ledger = ((s.register r).ledger,
      .ofExcept ((s.add r.component r.placement).map fun _ => ())) := by
  have taken := s.addressMap_add r.component r.placement
  cases added : s.add r.component r.placement with
  | error e =>
    rw [added] at taken
    rw [Soc.register_of_error added, run_register_of_error taken]
    rfl
  | ok t =>
    obtain ⟨part, component, -, ext⟩ := Soc.exists_extends_of_add added
    rw [added] at taken
    rw [Soc.register_of_ok added, run_register_of_ok taken]
    unfold Soc.ledger
    rw [ext.memories_eq, ext.peripherals_eq, ext.name_eq, ext.cpu_eq, ext.clockDomain_eq,
      ext.firmware_eq, component]
    rfl

/-- The lists stay in step, whatever the calls. -/
theorem registerAll_ledger (s : Soc) (calls : List Registration) :
    s.ledger.registerAll calls = (s.registerAll calls).ledger := by
  induction calls generalizing s with
  | nil => rfl
  | cons r rest ih =>
    unfold registerAll Soc.registerAll at ih ⊢
    rw [List.foldl_cons, run_register_ledger, ih, List.foldl_cons]

end Ledger

/-! ### Systems after calls -/

namespace Soc

/-- What calls make of a system, some of which may have been refused. -/
structure Registered (s : Soc) (calls : List Registration) (t : Soc) : Prop where
  /-- The accepted calls alone are accepted again, and lead to the same system. -/
  replayed : (s.accepted calls).foldlM (fun u r => u.add r.component r.placement) s = .ok t
  /-- Three lists that are kept side by side stay in step. -/
  inStep : s.ledger.registerAll calls = t.ledger
  /-- A call on them ends as it does for the system, and if it fails it changes none of them. -/
  answered : ∀ r, ((Ledger.register r).run t.ledger).2.outcome =
      (t.add r.component r.placement).map (fun _ => ()) ∧
    ∀ e, ((Ledger.register r).run t.ledger).2.outcome = .error e →
      ((Ledger.register r).run t.ledger).1 = t.ledger
  /-- They are finished as the system is. -/
  finished : ∀ p, (s.ledger.registerAll calls).finalize p = t.finalize p
  /-- They know the peripherals that it knows. -/
  known : ∀ name, (s.ledger.registerAll calls).hasPeripheral name = t.hasPeripheral name
  /-- The names of the address map are those of the memories and peripherals. -/
  names : (t.memories.map (·.name) ++ t.peripherals.map (·.name)).Perm t.addressMap.names
  /-- A peripheral is known by its name if it was there or was accepted. -/
  hasPeripheral : ∀ name, t.hasPeripheral name = true ↔
    ∃ q ∈ s.peripherals ++ (s.accepted calls).filterMap (·.component.peripheral?), q.name = name
  /-- The next call is refused exactly if its component is empty or has one of these names. -/
  refused : ∀ c placement e, t.add c placement = .error e ↔
    (c.size = 0 ∧ e = .zeroSize c.name) ∨
    (c.size ≠ 0 ∧ c.name ∈ t.memories.map (·.name) ++ t.peripherals.map (·.name) ∧
      e = .duplicateEntry c.name)
  /-- Each name has a window in an allocation. -/
  windows : ∀ a, t.addressMap.allocate.outcome = .ok a →
    ∀ name ∈ t.addressMap.names, ∃ w, a.get? name = some w
  /-- No window is missing when the system is finished. -/
  allocated : ∀ p name, (t.finalize p).outcome ≠ .error (.unallocated name)
  /-- The memories of a finished design are those that were accepted, in order. -/
  memories : ∀ p d, (t.finalize p).outcome = .ok d →
    List.Forall₂ (fun m e => ∃ w, m.entryAt w = e)
      (s.memories ++ (s.accepted calls).filterMap (·.component.memory?)) d.memories
  /-- And so are its peripherals. -/
  peripherals : ∀ p d, (t.finalize p).outcome = .ok d →
    List.Forall₂ (fun q e => ∃ irq w, q.entryAt irq w = e)
      (s.peripherals ++ (s.accepted calls).filterMap (·.component.peripheral?)) d.peripherals

theorem memories_registerAll (s : Soc) (calls : List Registration) :
    (s.registerAll calls).memories =
      s.memories ++ (s.accepted calls).filterMap (·.component.memory?) := by
  rw [memories_eq_components, components_registerAll, List.filterMap_append, List.filterMap_map,
    ← memories_eq_components]
  rfl

theorem peripherals_registerAll (s : Soc) (calls : List Registration) :
    (s.registerAll calls).peripherals =
      s.peripherals ++ (s.accepted calls).filterMap (·.component.peripheral?) := by
  rw [peripherals_eq_components, components_registerAll, List.filterMap_append,
    List.filterMap_map, ← peripherals_eq_components]
  rfl

/-- **A refused call counts for nothing.** Whatever calls are made, the system is the one that the
accepted calls make alone. All its parts are in its address map, so they have windows when it is
finished, and a finished design shows what was accepted, in order. -/
theorem registered (s : Soc) (calls : List Registration) :
    s.Registered calls (s.registerAll calls) where
  replayed := s.foldlM_accepted calls
  inStep := Ledger.registerAll_ledger s calls
  answered := by
    intro r
    refine ⟨?_, fun e => Ledger.unchanged_of_register⟩
    rw [Ledger.run_register_ledger]
    rfl
  finished := by
    intro p
    rw [Ledger.registerAll_ledger]
    exact Ledger.finalize_ledger _ p
  known := by
    intro name
    rw [Ledger.registerAll_ledger]
    rfl
  names := by
    rw [names_addressMap]
    exact names_perm _
  hasPeripheral := by
    intro name
    rw [← peripherals_registerAll, hasPeripheral, List.any_eq_true]
    simp only [decide_eq_true_eq]
  refused := fun c placement e => add_eq_error_iff
  windows := by
    intro a allocated name hname
    rw [names_addressMap] at hname
    obtain ⟨part, hpart, rfl⟩ := List.mem_map.1 hname
    exact exists_window allocated hpart
  allocated := finalize_ne_unallocated _
  memories := by
    intro p d h
    obtain ⟨a, finalized⟩ := finalize_eq_ok_iff.1 h
    rw [← memories_registerAll]
    exact finalized.memories.imp fun m e ⟨w, _, shown⟩ => ⟨w, shown⟩
  peripherals := by
    intro p d h
    obtain ⟨a, finalized⟩ := finalize_eq_ok_iff.1 h
    rw [← peripherals_registerAll, ← map_fst_numbered 0 (s.registerAll calls).peripherals,
      List.forall₂_map_left_iff]
    exact finalized.peripherals.imp fun q e ⟨w, _, shown⟩ => ⟨q.2, w, shown⟩

end Soc

end SocAssembly
