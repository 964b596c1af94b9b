import Mathlib
import SocAssembly.Artifact.DeviceDescription
import SocAssembly.Proofs.BusWords
import SocAssembly.Proofs.FirmwareRegions
import SocAssembly.Proofs.HeaderReading

/-!
# The words of a device description

A device description has offsets and sizes as words of 32 bits, which are made from numbers of any
size by cutting off what does not fit. In a finished design everything fits. The address space ends
at 2^32, so a peripheral cannot be larger; it cannot be as large either, for a finished design has a
memory, which is not empty and takes addresses that no peripheral has (`Soc.Finalized.size_lt`). The
offsets of its registers are smaller than the peripheral. What remains is the number of bits of a
register, which is a multiple of the size of its bus words: it fits if the register is not wider
than the greatest such multiple that fits (`PlacedRegister.toNat_wordSize`).

## The model

The elements of a document are found by their names among the children of another
(`Xml.childrenNamed`).
-/

namespace SocAssembly

namespace Xml

/-- The name of an element. -/
def name : Xml → String
  | leaf name _ => name
  | node name _ _ => name

/-- The elements within an element that have a name. -/
def childrenNamed (wanted : String) : Xml → List Xml
  | leaf _ _ => []
  | node _ _ children => children.filter (·.name = wanted)

end Xml

/-! ### Words that keep numbers -/

namespace PlacedRegister

/-- The number of bits of a register, as far as a word holds it. -/
def wordSize (r : PlacedRegister) : UInt32 := r.register.words.toUInt32 * busWidth.toUInt32

theorem toNat_wordSize_eq_mod (r : PlacedRegister) :
    r.wordSize.toNat = 32 * r.register.words % 2 ^ 32 := by
  unfold wordSize busWidth
  rw [UInt32.toNat_mul]
  show r.register.words % 2 ^ 32 * 32 % 2 ^ 32 = _
  omega

/-- The number of bits fits if the register is not wider than the greatest one that fits. -/
theorem toNat_wordSize {r : PlacedRegister} (h : r.register.width ≤ 2 ^ 32 - 32) :
    r.wordSize.toNat = 32 * r.register.words := by
  rw [toNat_wordSize_eq_mod]
  refine Nat.mod_eq_of_lt ?_
  unfold Register.words busWidth
  omega

end PlacedRegister

/-! ### What is written of an entry -/

/-- The register of a device is that of an entry, with the same numbers. -/
structure DeviceRegister.Keeps (x : DeviceRegister) (e : Entry) (r : PlacedRegister) : Prop where
  /-- Its distance from the start of the peripheral is that of the layout. -/
  offset : x.offset.toNat = r.offset
  /-- Its size is that of its bus words. -/
  size : x.size.toNat = 32 * r.register.words
  /-- It ends within the address space. -/
  stop_le : e.base + x.offset.toNat + 4 * r.register.words ≤ 2 ^ 32

/-- The peripheral of a device is an entry, with the same numbers. -/
structure DevicePeripheral.Keeps (q : DevicePeripheral) (e : Entry) : Prop where
  /-- It has the address. -/
  base : q.base = e.base
  /-- It has the size. -/
  size : q.size.toNat = e.size
  /-- It takes one block, from its address on, of the size of the entry. -/
  block : q.toXml.childrenNamed "addressBlock" = [.node "addressBlock" []
    [bytesLeaf "offset" 0, bytesLeaf "size" e.size, .leaf "usage" "registers"]]
  /-- It has the number of the interrupt. -/
  irq : q.irq = e.irq
  /-- It has one interrupt if the entry has a number, and else none. -/
  interrupts : q.toXml.childrenNamed "interrupt" = e.irq.toList.map fun n =>
    .node "interrupt" [] [.leaf "name" q.name, decimalLeaf "value" n]
  /-- It has the registers, in order. -/
  registers : e.registers.Forall₂ (fun r x => x.Keeps e r) q.registers

/-- The device is the design, with the same numbers. -/
structure Device.Keeps (dev : Device) (d : Design) : Prop where
  /-- It has the peripherals, in order. -/
  peripherals : d.peripherals.Forall₂ (fun e q => q.Keeps e) dev.peripherals
  /-- Its registers have the addresses that the pointers of the header lead to. -/
  pointers : Header.pointers [] d.macros =
    dev.peripherals.flatMap fun q => q.registers.map fun x => some (q.base + x.offset.toNat)

/-! ### Elements -/

theorem filter_leafUnlessEmpty {wanted name : String} (h : name ≠ wanted) (text : String) :
    (leafUnlessEmpty name text).filter (·.name = wanted) = [] := by
  unfold leafUnlessEmpty
  split
  · rfl
  · exact List.filter_cons_of_neg (by rwa [decide_eq_true_eq])

namespace DevicePeripheral

variable (q : DevicePeripheral)

/-- The elements that a peripheral always has, beside its registers. -/
def fixedXml : List Xml :=
  [.leaf "name" q.name, addressLeaf "baseAddress" q.base,
    .node "addressBlock" []
      [bytesLeaf "offset" 0, bytesLeaf "size" q.size.toNat, .leaf "usage" "registers"]]

/-- Elements with names of their own are found where they were written. -/
theorem childrenNamed_eq {wanted : String} (description : "description" ≠ wanted)
    (groupName : "groupName" ≠ wanted) (registers : "registers" ≠ wanted) :
    q.toXml.childrenNamed wanted = q.fixedXml.filter (·.name = wanted) ++
      q.interruptXml.filter (·.name = wanted) := by
  have last : [Xml.node "registers" [] (q.registers.map DeviceRegister.toXml)].filter
      (·.name = wanted) = [] := List.filter_cons_of_neg (by rwa [decide_eq_true_eq])
  have first : q.fixedXml = [.leaf "name" q.name] ++ [addressLeaf "baseAddress" q.base,
      .node "addressBlock" []
        [bytesLeaf "offset" 0, bytesLeaf "size" q.size.toNat, .leaf "usage" "registers"]] := rfl
  unfold toXml Xml.childrenNamed
  rw [first]
  simp only [List.filter_append, filter_leafUnlessEmpty description,
    filter_leafUnlessEmpty groupName, last, List.append_nil]

theorem interruptXml_eq : q.interruptXml = q.irq.toList.map fun n =>
    .node "interrupt" [] [.leaf "name" q.name, decimalLeaf "value" n] := by
  unfold interruptXml
  cases q.irq <;> rfl

theorem name_of_mem_interruptXml {x : Xml} (h : x ∈ q.interruptXml) : x.name = "interrupt" := by
  rw [interruptXml_eq] at h
  obtain ⟨n, -, rfl⟩ := List.mem_map.1 h
  rfl

theorem childrenNamed_addressBlock :
    q.toXml.childrenNamed "addressBlock" = [.node "addressBlock" []
      [bytesLeaf "offset" 0, bytesLeaf "size" q.size.toNat, .leaf "usage" "registers"]] := by
  have interrupts : q.interruptXml.filter (·.name = "addressBlock") = [] := by
    refine List.filter_eq_nil_iff.2 fun x hx => ?_
    rw [q.name_of_mem_interruptXml hx]
    decide
  rw [q.childrenNamed_eq (by decide) (by decide) (by decide), interrupts, List.append_nil]
  rfl

theorem childrenNamed_interrupt :
    q.toXml.childrenNamed "interrupt" = q.irq.toList.map fun n =>
      .node "interrupt" [] [.leaf "name" q.name, decimalLeaf "value" n] := by
  have interrupts : q.interruptXml.filter (·.name = "interrupt") = q.interruptXml := by
    refine List.filter_eq_self.2 fun x hx => ?_
    rw [q.name_of_mem_interruptXml hx]
    decide
  rw [q.childrenNamed_eq (by decide) (by decide) (by decide), interrupts, ← interruptXml_eq]
  rfl

end DevicePeripheral

/-! ### What a device is made of -/

theorem PlacedRegister.deviceRegister_eq_ok {r : PlacedRegister} {x : DeviceRegister}
    (h : r.deviceRegister = .ok x) : x.offset = r.offset.toUInt32 ∧ x.size = r.wordSize := by
  obtain ⟨fields, -, made⟩ := except_bind_eq_ok_iff.1 h
  cases made
  exact ⟨rfl, rfl⟩

theorem Entry.devicePeripheral_eq_ok {e : Entry} {q : DevicePeripheral}
    (h : e.devicePeripheral = .ok q) : q.base = e.base ∧ q.size = e.size.toUInt32 ∧
      q.irq = e.irq ∧ e.registers.Forall₂ (fun r x => r.deviceRegister = .ok x) q.registers := by
  obtain ⟨registers, made, rest⟩ := except_bind_eq_ok_iff.1 h
  cases rest
  exact ⟨rfl, rfl, rfl, mapM_eq_ok_iff.1 made⟩

theorem Design.forall₂_of_device {d : Design} {dev : Device} (h : d.device = .ok dev) :
    d.peripherals.Forall₂ (fun e q => e.devicePeripheral = .ok q) dev.peripherals := by
  obtain ⟨peripherals, made, rest⟩ := except_bind_eq_ok_iff.1 h
  split at rest
  · cases rest
  · cases rest
    exact mapM_eq_ok_iff.1 made

/-! ### Finished designs -/

namespace Soc

variable {s : Soc} {p : Platform} {a : Allocation} {d : Design}

/-- No peripheral of a finished design takes the whole address space, as the design has a memory. -/
theorem Finalized.size_lt (h : s.Finalized p a d) {e : Entry} (he : e ∈ d.peripherals) :
    e.size < 2 ^ 32 := by
  obtain ⟨m, hm, size⟩ := h.exists_nonempty_memory
  have apart := (List.pairwise_append.1 h.entries_apart).2.2 m hm e he
  have memory := h.stop_le (List.mem_append_left _ hm)
  have peripheral := h.stop_le (List.mem_append_right _ he)
  unfold Span.Apart Entry.range at *
  unfold addressSpaceEnd at *
  simp only at *
  omega

/-- A register ends where its peripheral does, or before. -/
theorem Finalized.register_stop_le (h : s.Finalized p a d) {e : Entry} (he : e ∈ d.peripherals)
    {r : PlacedRegister} (hr : r ∈ e.registers) : r.offset + 4 * r.register.words ≤ e.size := by
  have within := (h.words_within he hr).2
  unfold Entry.words Entry.range at within
  unfold wordStride busWidth at within
  simp only at within
  omega

theorem Finalized.keeps_register (h : s.Finalized p a d) {e : Entry} (he : e ∈ d.peripherals)
    {r : PlacedRegister} (hr : r ∈ e.registers) (narrow : r.register.width ≤ 2 ^ 32 - 32)
    {x : DeviceRegister} (made : r.deviceRegister = .ok x) : x.Keeps e r := by
  obtain ⟨offset, size⟩ := PlacedRegister.deviceRegister_eq_ok made
  have stop := h.register_stop_le he hr
  have last := h.stop_le (List.mem_append_right _ he)
  have lt := h.size_lt he
  have fits : r.offset < 2 ^ 32 := by omega
  have kept : x.offset.toNat = r.offset := by
    rw [offset]
    exact UInt32.toNat_ofNat_of_lt' fits
  refine ⟨kept, ?_, ?_⟩
  · rw [size]
    exact PlacedRegister.toNat_wordSize narrow
  · unfold Entry.range addressSpaceEnd at last
    simp only at last
    omega

theorem Finalized.keeps_peripheral (h : s.Finalized p a d) {e : Entry} (he : e ∈ d.peripherals)
    (narrow : ∀ r ∈ e.registers, r.register.width ≤ 2 ^ 32 - 32)
    {q : DevicePeripheral} (made : e.devicePeripheral = .ok q) : q.Keeps e := by
  obtain ⟨base, size, irq, registers⟩ := Entry.devicePeripheral_eq_ok made
  have kept : q.size.toNat = e.size := by
    rw [size]
    exact UInt32.toNat_ofNat_of_lt' (h.size_lt he)
  refine ⟨base, kept, ?_, irq, ?_, forall₂_imp_of_mem registers fun r hr x made => ?_⟩
  · rw [q.childrenNamed_addressBlock, kept]
  · rw [q.childrenNamed_interrupt, irq]
  · exact h.keeps_register he hr (narrow r hr) made

end Soc

end SocAssembly
