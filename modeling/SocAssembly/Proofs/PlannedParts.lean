import Mathlib
import SocAssembly.Proofs.Appending

/-!
# Parts of a described system

A system that is made from a description has a part for each memory and each peripheral of the
description, in the order of the description, memories first (`Soc.exists_parts_of_ofDescriptor`).

What a part asks of the bus follows from its kind. A peripheral of any kind has a few registers, and
none of them is wider than a bus word, so that its block always fits the smallest window
(`Peripheral.HasShortBlock.windowSize_blockSize`). A controller keeps a page free, and nothing else
keeps more free than it occupies.
-/

namespace SocAssembly

/-! ### Blocks of the kinds -/

/-- A register that fits a bus word takes one. -/
theorem Register.byteSize_of_width_le {r : Register} (h : r.width ≤ busWidth) :
    r.byteSize = wordStride := by
  have one : r.words = 1 := by
    unfold words busWidth at *
    omega
  rw [byteSize, one, Nat.one_mul]

theorem totalBytes_of_width_le {rs : List Register} (h : ∀ r ∈ rs, r.width ≤ busWidth) :
    totalBytes rs = rs.length * wordStride := by
  induction rs with
  | nil => rfl
  | cons r rest ih =>
    rw [List.forall_mem_cons] at h
    rw [totalBytes_cons, Register.byteSize_of_width_le h.1, ih h.2, List.length_cons, Nat.succ_mul,
      Nat.add_comm]

/-- The bytes that a peripheral of the kind keeps free, if it says so. -/
def PeripheralKind.window : PeripheralKind → Option Nat
  | usbDeviceController => some page
  | _ => none

namespace Peripheral

/-- The peripheral has registers, each takes a bus word, and all of them fit the smallest window. -/
structure HasShortBlock (q : Peripheral) : Prop where
  /-- There are registers. -/
  length_pos : 0 < q.allRegisters.length
  /-- Together they fit the smallest window. -/
  length_le : q.allRegisters.length * wordStride ≤ packed
  /-- Each of them fits a bus word. -/
  width_le : ∀ r ∈ q.allRegisters, r.width ≤ busWidth

theorem HasShortBlock.blockSize_eq {q : Peripheral} (h : q.HasShortBlock) :
    q.blockSize = q.allRegisters.length * wordStride := by
  rw [blockSize_eq_totalBytes, totalBytes_of_width_le h.width_le]

theorem HasShortBlock.blockSize_ne_zero {q : Peripheral} (h : q.HasShortBlock) :
    q.blockSize ≠ 0 := by
  rw [h.blockSize_eq]
  exact Nat.mul_ne_zero h.length_pos.ne' (by decide)

/-- Its window is the smallest one. -/
theorem HasShortBlock.windowSize_blockSize {q : Peripheral} (h : q.HasShortBlock) :
    windowSize q.blockSize = packed := by
  have pos := h.length_pos
  have le := h.length_le
  rw [h.blockSize_eq]
  unfold windowSize alignUp granularity page packed wordStride busWidth at *
  split <;> omega

theorem exists_width_of_checked {f : Nat → Peripheral} {name : String} {width : Option Nat}
    {usual : Nat} {q : Peripheral} (h : (checkedWidth name width usual).map f = .ok q) :
    ∃ w, w ≤ busWidth ∧ f w = q := by
  unfold checkedWidth at h
  dsimp only at h
  split at h
  · cases h
  · rename_i allowed
    exact ⟨_, Nat.le_of_not_lt fun wide => allowed (Or.inr wide), Except.ok.inj h⟩

/-- The widths of the registers, those for events at the end, tell whether the block is short. -/
theorem hasShortBlock_of_widths {q : Peripheral} (widths : List Nat)
    (eq : q.allRegisters.map (·.width) = widths) (pos : 0 < widths.length)
    (le : widths.length * wordStride ≤ packed) (fit : ∀ w ∈ widths, w ≤ busWidth) :
    q.HasShortBlock := by
  subst eq
  rw [List.length_map] at pos le
  exact ⟨pos, le, fun r hr => fit r.width (List.mem_map_of_mem hr)⟩

/-- What a peripheral of a kind asks of the bus. -/
theorem ofKind_spec {kind : PeripheralKind} {name : String} {width : Option Nat} {q : Peripheral}
    (h : ofKind kind name width = .ok q) :
    q.name = name ∧ q.window = kind.window ∧ q.HasShortBlock := by
  have bit : 1 ≤ busWidth := by decide
  cases kind with
  | timer =>
    obtain ⟨w, hw, rfl⟩ := exists_width_of_checked h
    exact ⟨rfl, rfl, hasShortBlock_of_widths [w, 1, w, 1, 1, 1] rfl (by simp)
      (by simp only [List.length]; decide) (by simp [hw, bit])⟩
  | leds =>
    obtain ⟨w, hw, rfl⟩ := exists_width_of_checked h
    exact ⟨rfl, rfl, hasShortBlock_of_widths [w] rfl (by simp)
      (by simp only [List.length]; decide) (by simp [hw])⟩
  | gpio =>
    obtain ⟨w, hw, rfl⟩ := exists_width_of_checked h
    exact ⟨rfl, rfl, hasShortBlock_of_widths [w, w, w] rfl (by simp)
      (by simp only [List.length]; decide) (by simp [hw])⟩
  | uart =>
    cases h
    exact ⟨rfl, rfl, hasShortBlock_of_widths [20, 8, 1, 3, 8, 1, 3, 3, 3] rfl (by decide)
      (by decide) (by decide)⟩
  | usbDeviceController =>
    cases h
    exact ⟨rfl, rfl, hasShortBlock_of_widths [1, 2, 1, 1, 1, 1, 1] rfl (by decide) (by decide)
      (by decide)⟩
  | setupFifo =>
    cases h
    exact ⟨rfl, rfl, hasShortBlock_of_widths [8, 1, 4, 1, 1, 7, 1, 1, 1] rfl (by decide)
      (by decide) (by decide)⟩
  | inFifo =>
    cases h
    exact ⟨rfl, rfl, hasShortBlock_of_widths [8, 4, 1, 1, 1, 1, 1, 1, 1, 1, 1] rfl (by decide)
      (by decide) (by decide)⟩
  | outFifo =>
    cases h
    exact ⟨rfl, rfl, hasShortBlock_of_widths [8, 4, 1, 4, 1, 1, 1, 1, 1, 7, 1, 1, 1, 1] rfl
      (by decide) (by decide) (by decide)⟩

end Peripheral

/-! ### Parts from plans -/

/-- What a planned peripheral asks of the bus. -/
theorem PeripheralPlan.spec_of_peripheral {plan : PeripheralPlan} {q : Peripheral}
    (h : plan.peripheral = .ok q) :
    q.name = plan.name ∧ q.window = plan.kind.window ∧ q.HasShortBlock := by
  obtain ⟨usual, husual, described⟩ := except_bind_eq_ok_iff.1 h
  obtain ⟨name, window, short⟩ := Peripheral.ofKind_spec husual
  cases described
  exact ⟨name, window, short.length_pos, short.length_le, short.width_le⟩

/-- The part is the memory of the plan, where the plan wants it. -/
structure MemoryPlan.Makes (m : MemoryPlan) (part : Part) : Prop where
  /-- It is the memory. -/
  component_eq : part.component = .memory m.memory
  /-- It is where the plan wants it. -/
  placement_eq : part.placement = m.placement

/-- The part is the peripheral of the plan, where the plan wants it. -/
structure PeripheralPlan.Makes (plan : PeripheralPlan) (part : Part) : Prop where
  /-- It is the peripheral. -/
  component_eq : ∃ q, plan.peripheral = .ok q ∧ part.component = .peripheral q
  /-- It is where the plan wants it. -/
  placement_eq : plan.placement = .ok part.placement

namespace MemoryPlan.Makes

variable {m : MemoryPlan} {part : Part}

theorem name_eq (h : m.Makes part) : part.name = m.memory.name := by
  rw [Part.name, h.component_eq]
  rfl

/-- A description attaches no memory. -/
theorem isAttached_eq (h : m.Makes part) : part.request.placement.isAttached = false := by
  show part.placement.isAttached = false
  rw [h.placement_eq, placement]
  cases m.address <;> rfl

/-- A memory keeps nothing free beyond its own bytes. -/
theorem reserve_eq (h : m.Makes part) : part.request.reserve = part.request.size := by
  have none : part.component.reserve = none := by
    rw [h.component_eq]
    rfl
  show windowSize (max (part.component.reserve.getD _) _) = windowSize part.component.size
  rw [none, Option.getD_none, max_self, windowSize_windowSize]

end MemoryPlan.Makes

namespace PeripheralPlan.Makes

variable {plan : PeripheralPlan} {part : Part}

theorem exists_peripheral (h : plan.Makes part) : ∃ q, part.component = .peripheral q ∧
    q.name = plan.name ∧ q.window = plan.kind.window ∧ q.HasShortBlock := by
  obtain ⟨q, hq, component⟩ := h.component_eq
  exact ⟨q, component, spec_of_peripheral hq⟩

theorem name_eq (h : plan.Makes part) : part.name = plan.name := by
  obtain ⟨q, component, name, -⟩ := h.exists_peripheral
  rw [Part.name, component]
  exact name

/-- A part is attached where the plan says. -/
theorem placement_eq_attached_iff (h : plan.Makes part) {parent : String} :
    part.request.placement = .attached parent ↔ plan.parent = some parent := by
  show part.placement = .attached parent ↔ _
  have wanted := h.placement_eq
  unfold placement at wanted
  split at wanted
  · cases wanted
  · rename_i none
    rw [← Except.ok.inj wanted, none]
    simp
  · rename_i some
    rw [← Except.ok.inj wanted, some]
    simp
  · rename_i none
    rw [← Except.ok.inj wanted, none]
    simp

theorem isAttached_eq_false_iff (h : plan.Makes part) :
    part.request.placement.isAttached = false ↔ plan.parent = none := by
  rw [← Bool.not_eq_true, Placement.isAttached_iff, Option.eq_none_iff_forall_ne_some, not_exists]
  exact forall_congr' fun parent => not_congr h.placement_eq_attached_iff

/-- Every peripheral has the smallest window. -/
theorem size_eq (h : plan.Makes part) : part.request.size = packed := by
  obtain ⟨q, component, -, -, short⟩ := h.exists_peripheral
  show windowSize part.component.size = packed
  rw [component]
  exact short.windowSize_blockSize

/-- A controller keeps a page free, other peripherals only their own window. -/
theorem reserve_eq (h : plan.Makes part) :
    part.request.reserve = if plan.kind = .usbDeviceController then page else packed := by
  obtain ⟨q, component, -, window, -⟩ := h.exists_peripheral
  have size : windowSize part.component.size = packed := h.size_eq
  have wish : part.component.reserve = plan.kind.window := by
    rw [component]
    exact window
  show windowSize (max (part.component.reserve.getD _) (windowSize part.component.size)) = _
  rw [size, wish]
  cases plan.kind <;> rfl

end PeripheralPlan.Makes

namespace Soc

/-- Steps that add a part each add their parts in order. -/
theorem exists_parts_of_foldlM {α : Type} {Makes : α → Part → Prop} {f : Soc → α → Except Error Soc}
    {xs : List α} {s t : Soc} (h : xs.foldlM f s = .ok t)
    (step : ∀ s x t, f s x = .ok t → ∃ part, Makes x part ∧ s.Extends part t) :
    ∃ parts, t.parts = s.parts ++ parts ∧ xs.Forall₂ Makes parts := by
  induction xs generalizing s with
  | nil =>
    obtain rfl := Except.ok.inj h
    exact ⟨[], (List.append_nil _).symm, .nil⟩
  | cons x rest ih =>
    rw [List.foldlM_cons] at h
    obtain ⟨u, hu, h⟩ := except_bind_eq_ok_iff.1 h
    obtain ⟨part, made, extended⟩ := step s x u hu
    obtain ⟨parts, hparts, matching⟩ := ih h
    refine ⟨part :: parts, ?_, .cons made matching⟩
    rw [hparts, extended.parts_eq, List.append_assoc]
    rfl

theorem exists_part_of_addMemoryPlan {s t : Soc} {m : MemoryPlan}
    (added : s.addMemoryPlan m = .ok t) : ∃ part, m.Makes part ∧ s.Extends part t := by
  obtain ⟨part, component, placement, extended⟩ := exists_extends_of_add added
  exact ⟨part, ⟨component, placement⟩, extended⟩

theorem exists_part_of_addPeripheralPlan {s t : Soc} {plan : PeripheralPlan}
    (added : s.addPeripheralPlan plan = .ok t) : ∃ part, plan.Makes part ∧ s.Extends part t := by
  obtain ⟨q, hq, added⟩ := except_bind_eq_ok_iff.1 added
  obtain ⟨placement, hplacement, added⟩ := except_bind_eq_ok_iff.1 added
  obtain ⟨part, component, placed, extended⟩ := exists_extends_of_add added
  exact ⟨part, ⟨⟨q, hq, component⟩, placed ▸ hplacement⟩, extended⟩

/-- The parts of a described system are those of its plans, in their order. -/
theorem exists_parts_of_ofDescriptor {d : Descriptor} {s : Soc} (h : ofDescriptor d = .ok s) :
    ∃ memories peripherals, s.parts = memories ++ peripherals ∧
      d.memories.Forall₂ MemoryPlan.Makes memories ∧
      d.peripherals.Forall₂ PeripheralPlan.Makes peripherals := by
  obtain ⟨withMemories, hmemories, hperipherals⟩ := except_bind_eq_ok_iff.1 h
  obtain ⟨memories, hms, mmatch⟩ :=
    exists_parts_of_foldlM hmemories fun _ _ _ => exists_part_of_addMemoryPlan
  obtain ⟨peripherals, hps, pmatch⟩ :=
    exists_parts_of_foldlM hperipherals fun _ _ _ => exists_part_of_addPeripheralPlan
  rw [List.nil_append] at hms
  exact ⟨memories, peripherals, by rw [hps, hms], mmatch, pmatch⟩

/-- No name stands twice in the description of a system. -/
theorem names_nodup_of_ofDescriptor {d : Descriptor} {s : Soc} (h : ofDescriptor d = .ok s) :
    (d.memories.map (·.memory.name) ++ d.peripherals.map (·.name)).Nodup := by
  obtain ⟨memories, peripherals, parts, mmatch, pmatch⟩ := exists_parts_of_ofDescriptor h
  rw [map_eq_of_forall₂ (fun m part made => made.name_eq.symm) mmatch,
    map_eq_of_forall₂ (fun q part made => made.name_eq.symm) pmatch, ← List.map_append, ← parts]
  exact s.names_nodup

end Soc

end SocAssembly
