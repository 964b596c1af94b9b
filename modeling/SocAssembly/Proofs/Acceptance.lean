import Mathlib
import SocAssembly.Proofs.PlannedParts
import SocAssembly.Proofs.Registration

/-!
# Which descriptors are accepted

A descriptor is gone through once, memories before peripherals, and each item is refused or becomes
a part behind the parts that are there. What can be wrong with an item depends on the item and on
the names of the items before it only (`Plan.Fault`), so the descriptor is refused for the first
item at fault. Nothing is at fault exactly if the descriptor is `Sound`, which does not mention an
order: no memory is empty, no name is used twice, widths are within the bounds, and no peripheral
has both an address and a parent. In particular no kind of peripheral is ever too small to be
placed, so the address map's check for emptiness concerns memories only.

## The model

A `Plan` is an item of a descriptor. For one item the checks come in the order of the constructors
of `Plan.Fault`, each of which says that the checks before it passed. What an accepted descriptor
leads to is stated of the three things that a system consists of: its memories, its peripherals, and
the requests of its address map (`Descriptor.Describes`).
-/

namespace SocAssembly

/-! ### Faults of one item -/

/-- The kinds that come in several widths. -/
def PeripheralKind.hasWidths : PeripheralKind → Bool
  | timer | leds | gpio => true
  | _ => false

namespace PeripheralPlan

/-- The peripheral is to be so many bits wide, and its kind comes in several widths. -/
def AsksFor (p : PeripheralPlan) (width : Nat) : Prop :=
  p.kind.hasWidths = true ∧ p.width = some width

/-- The width, if the kind looks at it and one is asked for, is within the bounds. -/
def WidthFits (p : PeripheralPlan) : Prop := ∀ w, p.AsksFor w → 1 ≤ w ∧ w ≤ 32

/-- There is an address or a parent, or neither, but not both. -/
def OnePlace (p : PeripheralPlan) : Prop := p.address = none ∨ p.parent = none

end PeripheralPlan

/-- An item of a descriptor. -/
inductive Plan where
  /-- A memory. -/
  | memory (m : MemoryPlan)
  /-- A peripheral. -/
  | peripheral (p : PeripheralPlan)
  deriving DecidableEq, Repr

namespace Plan

/-- The name of an item. -/
def name : Plan → String
  | memory m => m.memory.name
  | peripheral p => p.name

/-- The error that names what is wrong with an item, with a list of items before it. -/
inductive Fault (before : List Plan) : Plan → Error → Prop where
  /-- The memory is empty. -/
  | zeroSize {m : MemoryPlan} (empty : m.memory.size = 0) :
      Fault before (.memory m) (.zeroSize m.memory.name)
  /-- The memory is not empty, and its name is taken. -/
  | duplicateMemory {m : MemoryPlan} (size : m.memory.size ≠ 0)
      (taken : m.memory.name ∈ before.map name) :
      Fault before (.memory m) (.duplicateEntry m.memory.name)
  /-- The width is out of bounds. -/
  | unsupportedWidth {p : PeripheralPlan} {w : Nat} (asked : p.AsksFor w)
      (out : ¬ (1 ≤ w ∧ w ≤ 32)) : Fault before (.peripheral p) (.unsupportedWidth p.name w)
  /-- The width is fine, and there are both an address and a parent. -/
  | conflictingPlacement {p : PeripheralPlan} (width : p.WidthFits) (both : ¬ p.OnePlace) :
      Fault before (.peripheral p) (.conflictingPlacement p.name)
  /-- The width and the place are fine, and the name is taken. -/
  | duplicatePeripheral {p : PeripheralPlan} (width : p.WidthFits) (place : p.OnePlace)
      (taken : p.name ∈ before.map name) :
      Fault before (.peripheral p) (.duplicateEntry p.name)

/-- The part is what the item asks for. -/
def Makes : Plan → Part → Prop
  | memory m, part => m.Makes part
  | peripheral p, part => p.Makes part

theorem Makes.name_eq {x : Plan} {part : Part} (h : x.Makes part) : part.name = x.name := by
  cases x with
  | memory m => exact MemoryPlan.Makes.name_eq h
  | peripheral p => exact PeripheralPlan.Makes.name_eq h

end Plan

/-! ### The checks -/

theorem Peripheral.kind_of_ofKind {kind : PeripheralKind} {name : String} {width : Option Nat}
    {q : Peripheral} (h : ofKind kind name width = .ok q) : q.kind = kind := by
  cases kind with
  | timer | leds | gpio =>
    obtain ⟨w, -, rfl⟩ := exists_width_of_checked h
    rfl
  | uart | usbDeviceController | setupFifo | inFifo | outFifo =>
    cases h
    rfl

namespace PeripheralPlan

variable {p : PeripheralPlan} {e : Error}

theorem checkedWidth_eq_error_iff {name : String} {width : Option Nat} {usual : Nat}
    (h : 1 ≤ usual ∧ usual ≤ 32) {f : Nat → Peripheral} :
    (Peripheral.checkedWidth name width usual).map f = .error e ↔
      ∃ w, width = some w ∧ ¬ (1 ≤ w ∧ w ≤ 32) ∧ .unsupportedWidth name w = e := by
  unfold Peripheral.checkedWidth busWidth
  cases width with
  | none =>
    rw [Option.getD_none, if_neg (by omega)]
    simp [Except.map]
  | some w =>
    have same : (w = 0 ∨ 32 < w) ↔ ¬ (1 ≤ w ∧ w ≤ 32) := by omega
    simp only [Option.getD_some, same]
    by_cases fits : 1 ≤ w ∧ w ≤ 32
    · simp [fits, Except.map]
    · rw [if_pos fits]
      simp only [Except.map, Except.error.injEq, Option.some.injEq, exists_eq_left', fits,
        not_false_eq_true, true_and]

/-- A peripheral is refused for its width only. -/
theorem peripheral_eq_error_iff :
    p.peripheral = .error e ↔
      ∃ w, p.AsksFor w ∧ ¬ (1 ≤ w ∧ w ≤ 32) ∧ .unsupportedWidth p.name w = e := by
  have usual : p.peripheral = .error e ↔
      Peripheral.ofKind p.kind p.name p.width = .error e := by
    unfold peripheral
    cases Peripheral.ofKind p.kind p.name p.width <;> simp [bind, Except.bind, pure, Except.pure]
  rw [usual]
  unfold AsksFor Peripheral.ofKind
  cases p.kind with
  | timer | leds | gpio =>
    rw [checkedWidth_eq_error_iff (by decide)]
    simp [PeripheralKind.hasWidths]
  | uart | usbDeviceController | setupFifo | inFifo | outFifo =>
    simp [PeripheralKind.hasWidths]

theorem widthFits_iff : p.WidthFits ↔ ∃ q, p.peripheral = .ok q := by
  cases made : p.peripheral with
  | ok q =>
    refine iff_of_true (fun w asked => ?_) ⟨q, rfl⟩
    by_contra out
    rw [peripheral_eq_error_iff.2 ⟨w, asked, out, rfl⟩] at made
    cases made
  | error e =>
    obtain ⟨w, asked, out, -⟩ := peripheral_eq_error_iff.1 made
    exact iff_of_false (fun fits => out (fits w asked)) (fun ⟨q, hq⟩ => nomatch hq)

/-- A place is refused if there are two. -/
theorem placement_eq_error_iff :
    p.placement = .error e ↔ ¬ p.OnePlace ∧ .conflictingPlacement p.name = e := by
  unfold placement OnePlace
  cases p.address <;> cases p.parent <;> simp

theorem onePlace_iff : p.OnePlace ↔ ∃ placement, p.placement = .ok placement := by
  cases wanted : p.placement with
  | ok placement =>
    refine iff_of_true ?_ ⟨placement, rfl⟩
    by_contra both
    rw [placement_eq_error_iff.2 ⟨both, rfl⟩] at wanted
    cases wanted
  | error e =>
    exact iff_of_false (placement_eq_error_iff.1 wanted).1 (fun ⟨_, h⟩ => nomatch h)

end PeripheralPlan

namespace Soc

/-- Adds an item of a descriptor. -/
def addPlan (s : Soc) : Plan → Except Error Soc
  | .memory m => s.addMemoryPlan m
  | .peripheral p => s.addPeripheralPlan p

variable {s t : Soc} {x : Plan} {e : Error}

/-- An item that is accepted becomes a part behind the others. -/
theorem exists_part_of_addPlan (added : s.addPlan x = .ok t) :
    ∃ part, x.Makes part ∧ s.Extends part t := by
  cases x with
  | memory m => exact exists_part_of_addMemoryPlan added
  | peripheral p => exact exists_part_of_addPeripheralPlan added

/-- Adding an item fails for its fault among the items that the parts come from. -/
theorem addPlan_eq_error_iff {before : List Plan}
    (names : s.parts.map Part.name = before.map Plan.name) :
    s.addPlan x = .error e ↔ Plan.Fault before x e := by
  have taken (name : String) :
      name ∈ s.memories.map (·.name) ++ s.peripherals.map (·.name) ↔ name ∈ before.map Plan.name :=
    s.names_perm.mem_iff.trans (by rw [names])
  cases x with
  | memory m =>
    show s.add (.memory m.memory) m.placement = _ ↔ _
    rw [add_eq_error_iff, taken]
    constructor
    · rintro (⟨empty, rfl⟩ | ⟨size, taken, rfl⟩)
      · exact .zeroSize empty
      · exact .duplicateMemory size taken
    · rintro (empty | ⟨size, taken⟩)
      · exact Or.inl ⟨empty, rfl⟩
      · exact Or.inr ⟨size, taken, rfl⟩
  | peripheral p =>
    show (p.peripheral.bind fun q => p.placement.bind fun placement =>
      s.add (.peripheral q) placement) = _ ↔ _
    rw [except_bind_eq_error_iff, PeripheralPlan.peripheral_eq_error_iff]
    simp only [except_bind_eq_error_iff, PeripheralPlan.placement_eq_error_iff, add_eq_error_iff,
      taken]
    constructor
    · rintro (⟨w, asked, out, rfl⟩ | ⟨q, hq, ⟨both, rfl⟩ | ⟨placement, hplacement, refused⟩⟩)
      · exact .unsupportedWidth asked out
      · exact .conflictingPlacement (PeripheralPlan.widthFits_iff.2 ⟨q, hq⟩) both
      · obtain ⟨name, -, short⟩ := PeripheralPlan.spec_of_peripheral hq
        rcases refused with ⟨empty, -⟩ | ⟨-, taken, rfl⟩
        · exact absurd empty short.blockSize_ne_zero
        · change q.name ∈ _ at taken
          rw [name] at taken
          show Plan.Fault before _ (.duplicateEntry q.name)
          rw [name]
          exact .duplicatePeripheral (PeripheralPlan.widthFits_iff.2 ⟨q, hq⟩)
            (PeripheralPlan.onePlace_iff.2 ⟨placement, hplacement⟩) taken
    · rintro (_ | _ | ⟨asked, out⟩ | ⟨width, both⟩ | ⟨width, place, taken⟩)
      · exact Or.inl ⟨_, asked, out, rfl⟩
      · obtain ⟨q, hq⟩ := PeripheralPlan.widthFits_iff.1 width
        exact Or.inr ⟨q, hq, Or.inl ⟨both, rfl⟩⟩
      · obtain ⟨q, hq⟩ := PeripheralPlan.widthFits_iff.1 width
        obtain ⟨placement, hplacement⟩ := PeripheralPlan.onePlace_iff.1 place
        obtain ⟨name, -, short⟩ := PeripheralPlan.spec_of_peripheral hq
        have known : (Component.peripheral q).name = p.name := name
        refine Or.inr ⟨q, hq, Or.inr ⟨placement, hplacement, Or.inr ⟨?_, ?_, ?_⟩⟩⟩
        · exact short.blockSize_ne_zero
        · rwa [known]
        · rw [known]

end Soc

/-! ### The whole descriptor -/

namespace Descriptor

/-- The items of a descriptor in the order in which they are added. -/
def plans (d : Descriptor) : List Plan :=
  d.memories.map .memory ++ d.peripherals.map .peripheral

/-- The system of a descriptor before anything is added. -/
def frame (d : Descriptor) : Soc :=
  { name := d.name, cpu := d.cpu, clockDomain := d.clockDomain, firmware := d.firmware }

/-- Nothing is wrong with the items of a descriptor. -/
structure Sound (d : Descriptor) : Prop where
  /-- No memory is empty. -/
  size_ne_zero : ∀ m ∈ d.memories, m.memory.size ≠ 0
  /-- No name is used twice. -/
  names_nodup : (d.memories.map (·.memory.name) ++ d.peripherals.map (·.name)).Nodup
  /-- Where a width is looked at it is within the bounds. -/
  widthFits : ∀ p ∈ d.peripherals, p.WidthFits
  /-- No peripheral has both an address and a parent. -/
  onePlace : ∀ p ∈ d.peripherals, p.OnePlace

theorem names_plans (d : Descriptor) :
    d.plans.map Plan.name = d.memories.map (·.memory.name) ++ d.peripherals.map (·.name) := by
  unfold plans
  rw [List.map_append, List.map_map, List.map_map]
  rfl

/-- Nothing is wrong with an item of a sound descriptor. -/
theorem Sound.faultless {d : Descriptor} (h : d.Sound) {before rest : List Plan} {x : Plan}
    (split : d.plans = before ++ x :: rest) (e : Error) : ¬ Plan.Fault before x e := by
  have mem : x ∈ d.plans := split ▸ List.mem_append_right _ (List.mem_cons_self ..)
  have new : x.name ∉ before.map Plan.name := by
    have nodup := h.names_nodup
    rw [← d.names_plans, split, List.map_append, List.map_cons] at nodup
    exact fun taken => List.disjoint_of_nodup_append nodup taken (List.mem_cons_self ..)
  have isMemory {m : MemoryPlan} (hx : .memory m ∈ d.plans) : m ∈ d.memories := by
    simpa [plans] using hx
  have isPeripheral {p : PeripheralPlan} (hx : .peripheral p ∈ d.plans) : p ∈ d.peripherals := by
    simpa [plans] using hx
  rintro (empty | ⟨-, taken⟩ | ⟨asked, out⟩ | ⟨-, both⟩ | ⟨-, -, taken⟩)
  · exact h.size_ne_zero _ (isMemory mem) empty
  · exact new taken
  · exact out (h.widthFits _ (isPeripheral mem) _ asked)
  · exact both (h.onePlace _ (isPeripheral mem))
  · exact new taken

end Descriptor

namespace Soc

variable {d : Descriptor} {s : Soc}

theorem ofDescriptor_eq_foldlM (d : Descriptor) :
    ofDescriptor d = d.plans.foldlM addPlan d.frame := by
  unfold Descriptor.plans
  rw [List.foldlM_append, List.foldlM_map]
  simp only [List.foldlM_map]
  rfl

/-- The parts that are there come from the items that are done. -/
def ComesFrom (done : List Plan) (s : Soc) : Prop :=
  s.parts.map Part.name = done.map Plan.name

theorem ComesFrom.addPlan {done : List Plan} {x : Plan} {s t : Soc} (h : ComesFrom done s)
    (added : s.addPlan x = .ok t) : ComesFrom (done ++ [x]) t := by
  obtain ⟨part, made, extended⟩ := exists_part_of_addPlan added
  unfold ComesFrom at h ⊢
  rw [extended.parts_eq, List.map_append, List.map_append, h, List.map_singleton, made.name_eq,
    List.map_singleton]

/-- The steps along a descriptor as a report. -/
theorem outcome_ofDescriptor (d : Descriptor) :
    (d.plans.foldlM (fun s x => Report.ofExcept (addPlan s x)) d.frame).outcome =
      ofDescriptor d := by
  rw [← Report.ofExcept_foldlM, ofDescriptor_eq_foldlM, Report.outcome_ofExcept]

/-- A descriptor is refused for the first item at fault. -/
theorem ofDescriptor_eq_error_iff {e : Error} :
    ofDescriptor d = .error e ↔ FirstFault Plan.Fault d.plans e := by
  have start : ComesFrom [] d.frame := rfl
  rw [← outcome_ofDescriptor]
  refine Report.foldlM_eq_error_iff_firstFault ?_ ?_ start
  · intro done x s t kept added
    exact kept.addPlan added
  · intro done x s e kept
    exact addPlan_eq_error_iff kept

/-- A descriptor that is accepted is sound. -/
theorem sound_of_ofDescriptor (h : ofDescriptor d = .ok s) : d.Sound where
  size_ne_zero := by
    obtain ⟨memories, -, -, mmatch, -⟩ := exists_parts_of_ofDescriptor h
    intro m hm
    obtain ⟨part, made⟩ := exists_forall₂_iff.1 ⟨memories, mmatch⟩ m hm
    have size := part.size_ne_zero
    rwa [made.component_eq] at size
  names_nodup := names_nodup_of_ofDescriptor h
  widthFits := by
    obtain ⟨-, peripherals, -, -, pmatch⟩ := exists_parts_of_ofDescriptor h
    intro p hp
    obtain ⟨part, made⟩ := exists_forall₂_iff.1 ⟨peripherals, pmatch⟩ p hp
    obtain ⟨q, hq, -⟩ := made.component_eq
    exact PeripheralPlan.widthFits_iff.2 ⟨q, hq⟩
  onePlace := by
    obtain ⟨-, peripherals, -, -, pmatch⟩ := exists_parts_of_ofDescriptor h
    intro p hp
    obtain ⟨part, made⟩ := exists_forall₂_iff.1 ⟨peripherals, pmatch⟩ p hp
    exact PeripheralPlan.onePlace_iff.2 ⟨part.placement, made.placement_eq⟩

/-- A descriptor is accepted exactly if it is sound. -/
theorem exists_ofDescriptor_iff : (∃ s, ofDescriptor d = .ok s) ↔ d.Sound := by
  constructor
  · rintro ⟨s, h⟩
    exact sound_of_ofDescriptor h
  · intro sound
    cases outcome : ofDescriptor d with
    | ok s => exact ⟨s, rfl⟩
    | error e =>
      obtain ⟨before, x, rest, split, atFault, -⟩ := ofDescriptor_eq_error_iff.1 outcome
      exact absurd atFault (sound.faultless split e)

end Soc

/-! ### What an accepted descriptor leads to -/

/-- The place that an address and a parent stand for; to have both stands for nothing. -/
inductive Placement.Denoted : Option Nat → Option String → Placement → Prop where
  /-- With an address, there. -/
  | fixed (base : Nat) : Denoted (some base) none (.fixed base)
  /-- With a parent, in its window. -/
  | attached (parent : String) : Denoted none (some parent) (.attached parent)
  /-- With neither, anywhere. -/
  | auto : Denoted none none .auto

/-- The place that an item asks for. -/
def Plan.Wants : Plan → Placement → Prop
  | memory m => Placement.Denoted m.address none
  | peripheral p => Placement.Denoted p.address p.parent

/-- The peripheral is what was planned. -/
structure PeripheralPlan.Describes (p : PeripheralPlan) (q : Peripheral) : Prop where
  /-- It is made from the kind, the name, the width and the description of the plan. -/
  made : p.peripheral = .ok q
  /-- Its name is that of the plan. -/
  name : q.name = p.name
  /-- Its kind is that of the plan. -/
  kind : q.kind = p.kind
  /-- It has registers. -/
  size_ne_zero : q.blockSize ≠ 0

theorem PeripheralPlan.describes_of_peripheral {p : PeripheralPlan} {q : Peripheral}
    (made : p.peripheral = .ok q) : p.Describes q := by
  obtain ⟨name, -, short⟩ := spec_of_peripheral made
  obtain ⟨usual, husual, described⟩ := except_bind_eq_ok_iff.1 made
  have kind := Peripheral.kind_of_ofKind husual
  cases described
  exact ⟨made, name, kind, short.blockSize_ne_zero⟩

theorem Placement.denoted_of_memory {m : MemoryPlan} {placement : Placement}
    (h : placement = m.placement) : Denoted m.address none placement := by
  subst h
  unfold MemoryPlan.placement
  cases m.address with
  | none => exact .auto
  | some base => exact .fixed base

theorem Placement.denoted_of_peripheral {p : PeripheralPlan} {placement : Placement}
    (h : p.placement = .ok placement) : Denoted p.address p.parent placement := by
  unfold PeripheralPlan.placement at h
  cases address : p.address with
  | none =>
    cases parent : p.parent with
    | none =>
      rw [address, parent] at h
      exact Except.ok.inj h ▸ .auto
    | some parent' =>
      rw [address, parent] at h
      exact Except.ok.inj h ▸ .attached parent'
  | some base =>
    cases parent : p.parent with
    | none =>
      rw [address, parent] at h
      exact Except.ok.inj h ▸ .fixed base
    | some parent' =>
      rw [address, parent] at h
      cases h

namespace Plan

/-- The memory that the item asks for. -/
def memory? : Plan → Option MemoryPlan
  | memory m => some m
  | peripheral _ => none

/-- The peripheral that the item asks for. -/
def peripheral? : Plan → Option PeripheralPlan
  | memory _ => none
  | peripheral p => some p

/-- A part asks for the place that its item asks for. -/
theorem Makes.wants {x : Plan} {part : Part} (h : x.Makes part) : x.Wants part.placement := by
  cases x with
  | memory m => exact Placement.denoted_of_memory (MemoryPlan.Makes.placement_eq h)
  | peripheral p => exact Placement.denoted_of_peripheral (PeripheralPlan.Makes.placement_eq h)

variable {xs : List Plan} {parts : List Part}

/-- The memories among the parts are those among the items. -/
theorem memories_of_makes (h : xs.Forall₂ Makes parts) :
    parts.filterMap (·.component.memory?) = (xs.filterMap memory?).map (·.memory) := by
  induction h with
  | nil => rfl
  | @cons x part xs parts made _ ih =>
    rw [List.filterMap_cons, List.filterMap_cons, ih]
    cases x with
    | memory m =>
      rw [MemoryPlan.Makes.component_eq made]
      rfl
    | peripheral p =>
      obtain ⟨q, -, component⟩ := PeripheralPlan.Makes.component_eq made
      rw [component]
      rfl

/-- The peripherals among the parts are those among the items. -/
theorem peripherals_of_makes (h : xs.Forall₂ Makes parts) :
    (xs.filterMap peripheral?).Forall₂ PeripheralPlan.Describes
      (parts.filterMap (·.component.peripheral?)) := by
  induction h with
  | nil => exact .nil
  | @cons x part xs parts made _ ih =>
    rw [List.filterMap_cons, List.filterMap_cons]
    cases x with
    | memory m =>
      rw [MemoryPlan.Makes.component_eq made]
      exact ih
    | peripheral p =>
      obtain ⟨q, hq, component⟩ := PeripheralPlan.Makes.component_eq made
      rw [component]
      exact ih.cons (PeripheralPlan.describes_of_peripheral hq)

end Plan

namespace Descriptor

/-- The system has what a descriptor says beside its items. -/
structure Frames (d : Descriptor) (s : Soc) : Prop where
  /-- It has its name. -/
  name : s.name = d.name
  /-- It has its processor. -/
  cpu : s.cpu = d.cpu
  /-- It has its clock domain. -/
  clockDomain : s.clockDomain = d.clockDomain
  /-- It has its choice of memories for the firmware. -/
  firmware : s.firmware = d.firmware

theorem Frames.of_extends {d : Descriptor} {s t : Soc} {part : Part} (h : d.Frames s)
    (extended : s.Extends part t) : d.Frames t where
  name := extended.name_eq.trans h.name
  cpu := extended.cpu_eq.trans h.cpu
  clockDomain := extended.clockDomain_eq.trans h.clockDomain
  firmware := extended.firmware_eq.trans h.firmware

/-- The system is what was described. -/
structure Describes (d : Descriptor) (s : Soc) : Prop extends Frames d s where
  /-- Its memories are those of the descriptor, in order. -/
  memories : s.memories = d.memories.map (·.memory)
  /-- Its peripherals are those of the descriptor, in order. -/
  peripherals : d.peripherals.Forall₂ PeripheralPlan.Describes s.peripherals
  /-- Its address map has a request for each item, in order, with the place that the address and
  the parent of the item stand for. -/
  requests : d.plans.Forall₂ (fun x r => r.1 = x.name ∧ x.Wants r.2.placement)
    s.addressMap.requests

theorem plans_memories (d : Descriptor) : d.plans.filterMap Plan.memory? = d.memories := by
  unfold plans
  simp [List.filterMap_append, List.filterMap_map, Function.comp_def, Plan.memory?]

theorem plans_peripherals (d : Descriptor) :
    d.plans.filterMap Plan.peripheral? = d.peripherals := by
  unfold plans
  simp [List.filterMap_append, List.filterMap_map, Function.comp_def, Plan.peripheral?]

/-- An accepted descriptor leads to what it describes. -/
theorem describes_of_ofDescriptor {d : Descriptor} {s : Soc} (h : Soc.ofDescriptor d = .ok s) :
    d.Describes s := by
  rw [Soc.ofDescriptor_eq_foldlM] at h
  obtain ⟨parts, hparts, made⟩ :=
    Soc.exists_parts_of_foldlM h fun _ _ _ => Soc.exists_part_of_addPlan
  have framed : d.Frames s := by
    refine except_foldlM_keeps ?_ (⟨rfl, rfl, rfl, rfl⟩ : d.Frames d.frame) h
    intro t x u frame added
    obtain ⟨part, -, extended⟩ := Soc.exists_part_of_addPlan added
    exact frame.of_extends extended
  rw [show d.frame.parts = [] from rfl, List.nil_append] at hparts
  refine { framed with memories := ?_, peripherals := ?_, requests := ?_ }
  · rw [Soc.memories, hparts, Plan.memories_of_makes made, plans_memories]
  · have described := Plan.peripherals_of_makes made
    rwa [plans_peripherals, ← hparts] at described
  · show List.Forall₂ _ d.plans (s.parts.map fun part => (part.name, part.request))
    rw [hparts, List.forall₂_map_right_iff]
    exact made.imp fun x part h => ⟨h.name_eq, h.wants⟩

/-- What becomes of a descriptor. -/
structure Judged (d : Descriptor) : Prop where
  /-- It is accepted exactly if it is sound. -/
  accepted_iff : (∃ s, Soc.ofDescriptor d = .ok s) ↔ d.Sound
  /-- It is refused for the first item at fault. -/
  refused_iff : ∀ e, Soc.ofDescriptor d = .error e ↔ FirstFault Plan.Fault d.plans e
  /-- When it is accepted, the system is what was described. -/
  describes : ∀ s, Soc.ofDescriptor d = .ok s → d.Describes s

/-- **A descriptor is accepted exactly if it is sound.** Otherwise it is refused for the first item
at fault, memories before peripherals; and an accepted descriptor leads to exactly the memories and
peripherals that it lists, each asking for the place that it was given. -/
theorem judged (d : Descriptor) : d.Judged where
  accepted_iff := Soc.exists_ofDescriptor_iff
  refused_iff := fun _ => Soc.ofDescriptor_eq_error_iff
  describes := fun _ => describes_of_ofDescriptor

end Descriptor

end SocAssembly
