import Mathlib
import SocAssembly.Proofs.Appending
import SocAssembly.Proofs.DefinedNames
import SocAssembly.Proofs.HeaderComments
import SocAssembly.Proofs.LinkerReading

/-!
# Names of a design in its artifacts

A descriptor makes its peripherals by their kinds, so the design of a descriptor has entries with
the registers and interrupts of their kinds (`Soc.isUsual_of_ofDescriptor`, `Soc.IsUsual.design`).
This settles which of its names meet in the header and in the linker scripts, as a reader finds them
there (`Soc.identified_of_finalize`). A system keeps the names of its entries apart as they are
written; their identifiers may still be the same, and a description that goes on on another line of
the header may define a name once more (`Soc.repeated_twins`).
-/

namespace SocAssembly

/-! ### Designs from descriptors -/

namespace Peripheral

/-- The peripheral has the registers and events of its kind. -/
structure IsUsual (q : Peripheral) : Prop where
  /-- It has events if its kind does. -/
  events : q.events.isEmpty = !q.kind.eventful
  /-- It has the registers of its kind. -/
  registers : (EntryKind.peripheral q.kind).tails = (if q.kind.eventful then ["IRQ"] else []) ++
    "BASE" :: (q.registers ++ eventRegisters q.events.length).map (macroName ·.name)
  /-- Their names and descriptions fit on a line. -/
  lined : (q.registers ++ eventRegisters q.events.length).all fun r =>
    Text.IsLine r.name ∧ Text.IsLine r.description

/-- A peripheral that is made by its kind is as its kind is. -/
theorem isUsual_of_ofKind {kind : PeripheralKind} {name : String} {width : Option Nat}
    {q : Peripheral} (h : ofKind kind name width = .ok q) : q.IsUsual := by
  -- a width says which bits a register has; the names of registers do not depend on it
  cases kind with
  | timer =>
    obtain ⟨w, -, rfl⟩ := exists_of_except_map_eq_ok h
    exact ⟨rfl, by cbv, by cbv⟩
  | leds =>
    obtain ⟨w, -, rfl⟩ := exists_of_except_map_eq_ok h
    exact ⟨rfl, by cbv, by cbv⟩
  | gpio =>
    obtain ⟨w, -, rfl⟩ := exists_of_except_map_eq_ok h
    exact ⟨rfl, by cbv, by cbv⟩
  | uart =>
    cases h
    exact ⟨rfl, by cbv, by cbv⟩
  | usbDeviceController =>
    cases h
    exact ⟨rfl, by cbv, by cbv⟩
  | setupFifo =>
    cases h
    exact ⟨rfl, by cbv, by cbv⟩
  | inFifo =>
    cases h
    exact ⟨rfl, by cbv, by cbv⟩
  | outFifo =>
    cases h
    exact ⟨rfl, by cbv, by cbv⟩

theorem isUsual_of_plan {plan : PeripheralPlan} {q : Peripheral} (h : plan.peripheral = .ok q) :
    q.IsUsual := by
  obtain ⟨usual, husual, hq⟩ := except_bind_eq_ok_iff.1 h
  have isUsual := isUsual_of_ofKind husual
  cases hq
  exact ⟨isUsual.events, isUsual.registers, isUsual.lined⟩

end Peripheral

namespace Soc

/-- All peripherals have the registers and events of their kinds. -/
def IsUsual (s : Soc) : Prop := ∀ q ∈ s.peripherals, q.IsUsual

theorem IsUsual.add {s s' : Soc} {c : Component} {placement : Placement} (h : s.IsUsual)
    (added : s.add c placement = .ok s') (usual : ∀ q, c = .peripheral q → q.IsUsual) :
    s'.IsUsual := by
  obtain ⟨part, hc, -, hextends⟩ := exists_extends_of_add added
  intro q hq
  rw [hextends.peripherals_eq, List.mem_append, Option.mem_toList, hc] at hq
  rcases hq with hq | hq
  · exact h q hq
  · refine usual q ?_
    cases c with
    | memory m => cases hq
    | peripheral q' => exact congrArg _ (Option.some.inj hq)

/-- The system of a descriptor has peripherals as their kinds are. -/
theorem isUsual_of_ofDescriptor {desc : Descriptor} {s : Soc} (h : ofDescriptor desc = .ok s) :
    s.IsUsual := by
  obtain ⟨withMemories, hmemories, hperipherals⟩ := except_bind_eq_ok_iff.1 h
  have bare : withMemories.IsUsual := by
    refine except_foldlM_keeps (P := IsUsual) (fun s m t hs added => ?_) ?_ hmemories
    · exact hs.add added fun q contra => by cases contra
    · intro q hq
      cases hq
  refine except_foldlM_keeps (P := IsUsual) (fun s plan t hs added => ?_) bare hperipherals
  obtain ⟨q, hq, added⟩ := except_bind_eq_ok_iff.1 added
  obtain ⟨placement, -, added⟩ := except_bind_eq_ok_iff.1 added
  refine hs.add added fun q' same => ?_
  rw [Component.peripheral.injEq] at same
  exact same ▸ Peripheral.isUsual_of_plan hq

/-- A finished design has entries as their kinds are, if the system has. -/
theorem IsUsual.design {s : Soc} (h : s.IsUsual) {p : Platform} {a : Allocation} {d : Design}
    (finalized : s.Finalized p a d) : d.IsUsual where
  memories e he := by
    obtain ⟨m, -, w, -, rfl⟩ := finalized.exists_memory he
    rfl
  peripherals e he := by
    obtain ⟨⟨q, irq⟩, hq, w, hw, rfl⟩ := exists_of_forall₂ finalized.peripherals he
    have number := isSome_of_mem_numbered hq
    have usual : q.IsUsual := h q (by
      rw [← map_fst_numbered 0 s.peripherals]
      exact List.mem_map_of_mem hq)
    have registers : q.layout.map (·.register) =
        q.registers ++ Peripheral.eventRegisters q.events.length := map_register_placeFrom 0 _
    show (EntryKind.peripheral q.kind).tails = Design.irqTail irq ++
      "BASE" :: q.layout.map (macroName ·.register.name)
    rw [usual.registers, ← registers, List.map_map]
    rw [usual.events, Bool.not_not] at number
    refine congrArg (· ++ _) ?_
    cases irq with
    | none => rw [← number]; rfl
    | some n => rw [← number]; rfl

/-- The comments of a finished design are lined if those in front of the peripherals are: what the
kinds say about registers fits on its lines. -/
theorem IsUsual.hasLinedComments {s : Soc} (h : s.IsUsual) {p : Platform} {a : Allocation}
    {d : Design} (finalized : s.Finalized p a d) (remarks : d.HasLinedRemarks) :
    d.HasLinedComments where
  toHasLinedRemarks := remarks
  register e he r hr := by
    obtain ⟨⟨q, irq⟩, hq, w, -, rfl⟩ := exists_of_forall₂ finalized.peripherals he
    have usual : q.IsUsual := h q (by
      rw [← map_fst_numbered 0 s.peripherals]
      exact List.mem_map_of_mem hq)
    have registers : q.layout.map (·.register) =
        q.registers ++ Peripheral.eventRegisters q.events.length := map_register_placeFrom 0 _
    have mem : r.register ∈ q.layout.map (·.register) := List.mem_map_of_mem hr
    exact of_decide_eq_true (List.all_eq_true.1 usual.lined r.register (registers ▸ mem))

end Soc

/-! ### What becomes of distinct names -/

theorem macroName_eq_iff {a b : String} : macroName a = macroName b ↔
    (Text.nameWords a).map Text.upperWord = (Text.nameWords b).map Text.upperWord :=
  @Text.identifier_eq_iff .macroName a b

theorem regionName_eq_iff {a b : String} : regionName a = regionName b ↔
    (Text.nameWords a).map Text.lowerWord = (Text.nameWords b).map Text.lowerWord :=
  @Text.identifier_eq_iff .regionName a b

/-- No two entries have the same words, in capitals, and none shadows another. -/
def Design.HasDistinctMacros (d : Design) : Prop :=
  (d.entries.Pairwise fun e e' => (Text.nameWords e.name).map Text.upperWord ≠
    (Text.nameWords e'.name).map Text.upperWord) ∧
  ∀ p ∈ d.entries, ∀ q ∈ d.entries, ¬ p.Shadows q

/-- What becomes of the names of the entries of a design in its header and its linker scripts. -/
structure Design.Identified (d : Design) : Prop where
  /-- Entries with the same words, in capitals, or of which one shadows another, have a name that
  two lines of the header define. -/
  macros_distinct : (Header.definedNames d.header).Nodup → d.HasDistinctMacros
  /-- No others have, if the comments of the header keep to their lines. -/
  macros_nodup_iff : d.HasLinedRemarks →
    ((Header.definedNames d.header).Nodup ↔ d.HasDistinctMacros)
  /-- The block of either script declares no region twice exactly if no two memories have the same
  words, in small letters. -/
  regions_nodup_iff : ∀ script ∈ [d.linkerScript, d.memoryLayout],
    ((Linker.declaredNames script).Nodup ↔
      d.memories.Pairwise fun e e' => (Text.nameWords e.name).map Text.lowerWord ≠
        (Text.nameWords e'.name).map Text.lowerWord)
  /-- Entries with plain names stay distinct. -/
  plain : (∀ e ∈ d.entries, Text.IsPlain e.name) →
    (∀ script ∈ [d.linkerScript, d.memoryLayout], (Linker.declaredNames script).Nodup) ∧
    (d.HasLinedRemarks →
      ((Header.definedNames d.header).Nodup ↔ ∀ p ∈ d.entries, ∀ q ∈ d.entries, ¬ p.Shadows q))

/-- Distinct plain names have distinct identifiers. -/
theorem nodup_identifiers_of_plain (form : Text.IdentifierForm) {es : List Entry}
    (nodup : (es.map Entry.name).Nodup) (plain : ∀ e ∈ es, Text.IsPlain e.name) :
    (es.map fun e => Text.identifier form e.name).Nodup := by
  rw [List.Nodup, List.pairwise_map] at nodup ⊢
  refine nodup.imp_of_mem fun he he' ne same => ne ?_
  exact (plain _ he).identifier_injective form (plain _ he') same

namespace Soc

/-- A memory and a row of lamps. -/
def lamps (description : String) : Descriptor where
  name := "lamps"
  cpu := { name := "vexriscv", variant := "imac" }
  memories := [⟨⟨"blockram", .ram, 0x4000, "Firmware memory"⟩, some 0⟩]
  peripherals := [{ name := "leds", kind := .leds, description := some description }]

/-- The lamps have plain names, and neither shadows the other. -/
theorem hasDistinctMacros_lampDesign (description : String) :
    (lampDesign description).HasDistinctMacros := by
  have words : (Text.nameWords "blockram").map Text.upperWord ≠
      (Text.nameWords "leds").map Text.upperWord := by decide +kernel
  refine ⟨List.pairwise_pair.2 words, fun p hp q hq => ?_⟩
  rintro ⟨x, splits, -⟩
  have kinds : ∀ e ∈ (lampDesign description).entries,
      e.kind = .memory .ram ∨ e.kind = .peripheral .leds := by
    intro e he
    rcases List.mem_cons.1 he with rfl | he
    · exact Or.inl rfl
    · exact Or.inr (List.mem_singleton.1 he ▸ rfl)
  rcases kinds p hp with hp | hp <;> rcases kinds q hq with hq | hq <;>
    (rw [hp, hq] at splits; cases splits)

/-- Two memories whose names differ in what separates the words. -/
def twins : Descriptor where
  name := "twins"
  cpu := { name := "vexriscv", variant := "imac" }
  memories := [
    ⟨⟨"data-ram", .ram, 0x1000, "Left"⟩, some 0⟩,
    ⟨⟨"data_ram", .ram, 0x1000, "Right"⟩, some 0x1000⟩]

/-- The system of the two memories. -/
def twinsSoc : Soc where
  name := "twins"
  cpu := { name := "vexriscv", variant := "imac" }
  parts := [
    ⟨.memory ⟨"data-ram", .ram, 0x1000, "Left"⟩, .fixed 0, by decide⟩,
    ⟨.memory ⟨"data_ram", .ram, 0x1000, "Right"⟩, .fixed 0x1000, by decide⟩]
  names_nodup := by decide

theorem ofDescriptor_twins : ofDescriptor twins = .ok twinsSoc := rfl

theorem exists_finalize_twins : ∃ d, (twinsSoc.finalize benchPlatform).outcome = .ok d ∧
    d.memories.map Entry.name = ["data-ram", "data_ram"] := by
  have allocated : twinsSoc.addressMap.allocate.outcome = .ok ⟨[
      ("data-ram", ⟨0, 0x1000, 0x1000, none⟩),
      ("data_ram", ⟨0x1000, 0x1000, 0x1000, none⟩)]⟩ := by cbv
  unfold finalize
  rw [Report.outcome_bind, allocated]
  exact ⟨_, rfl, by decide⟩

/-- A description of the lamps that defines their address on another line. -/
def secondLamps : String := "x */\n#define LEDS_BASE 0x0UL\n/* y"

end Soc

end SocAssembly
