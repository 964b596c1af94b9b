import Mathlib
import SocAssembly.Proofs.Finishing
import SocAssembly.Proofs.RegisterBlock

/-!
# The bus words of a finished design

Software reaches a register through the words of the bus that it takes. In a finished design each
word belongs to one register at most: the words of one peripheral are apart because its registers
lie one behind the other, and those of different peripherals because they stay within the ranges of
their entries, which never meet. For the same reason no word belongs to a memory.
-/

namespace SocAssembly

/-- The addresses of the words that a register of the entry takes. -/
def Entry.words (e : Entry) (r : PlacedRegister) : Span :=
  ⟨e.base + r.offset, e.base + r.offset + wordStride * r.register.words⟩

theorem Entry.words_stop (e : Entry) (r : PlacedRegister) :
    (e.words r).stop = e.base + r.stop := by
  unfold Entry.words PlacedRegister.stop Register.byteSize
  rw [Nat.mul_comm, Nat.add_assoc]

/-- The addresses of the words of each register of the entry. -/
def Entry.registerWords (e : Entry) : List Span := e.registers.map e.words

/-- Each bus word stands for one register at most, and for no part of a memory. -/
structure Design.Unambiguous (d : Design) : Prop where
  /-- Registers start on bus words. -/
  aligned : ∀ e ∈ d.peripherals, ∀ r ∈ e.registers, wordStride ∣ (e.words r).start
  /-- Registers lie in the range of their entry. -/
  within : ∀ e ∈ d.peripherals, ∀ r ∈ e.registers, (e.words r).Within e.range
  /-- Registers lie in the address space. -/
  stop_le : ∀ e ∈ d.peripherals, ∀ r ∈ e.registers, (e.words r).stop ≤ addressSpaceEnd
  /-- No two registers meet, be they of one peripheral or of two. -/
  apart : (d.peripherals.flatMap Entry.registerWords).Pairwise Span.Apart
  /-- No register meets a memory. -/
  memory_apart : ∀ e ∈ d.peripherals, ∀ r ∈ e.registers, ∀ m ∈ d.memories,
    (e.words r).Apart m.range

/-! ### One entry -/

/-- The entry shows the block of registers of a peripheral, and has just the room for it. -/
def Entry.Shows (e : Entry) (q : Peripheral) : Prop :=
  e.registers = q.layout ∧ e.size = q.blockSize

namespace Entry.Shows

variable {e : Entry} {q : Peripheral}

theorem words_within (h : e.Shows q) {r : PlacedRegister} (hr : r ∈ e.registers) :
    (e.words r).Within e.range := by
  refine ⟨Nat.le_add_right .., ?_⟩
  rw [h.1] at hr
  rw [words_stop, Entry.range, h.2]
  exact Nat.add_le_add_left (Peripheral.stop_le_blockSize hr) _

/-- The registers of one entry are apart. -/
theorem pairwise_registerWords (h : e.Shows q) : e.registerWords.Pairwise Span.Apart := by
  unfold Entry.registerWords
  rw [List.pairwise_map, h.1]
  refine q.pairwise_layout.imp fun {r t} hrt => Or.inl ?_
  rw [words_stop]
  exact Nat.add_le_add_left hrt _

/-- An entry that starts on a bus word has its registers on bus words. -/
theorem wordStride_dvd_start (h : e.Shows q) (hbase : wordStride ∣ e.base) {r : PlacedRegister}
    (hr : r ∈ e.registers) : wordStride ∣ (e.words r).start := by
  rw [h.1] at hr
  exact Nat.dvd_add hbase (Peripheral.wordStride_dvd_offset hr)

end Entry.Shows

/-! ### All entries -/

theorem wordStride_dvd_packed : wordStride ∣ packed := ⟨64, rfl⟩

namespace Soc

namespace Finalized

variable {s : Soc} {p : Platform} {a : Allocation} {d : Design}

theorem exists_shows (h : s.Finalized p a d) {e : Entry} (he : e ∈ d.peripherals) :
    ∃ q, e.Shows q := by
  obtain ⟨q, -, irq, w, -, rfl⟩ := h.exists_peripheral he
  exact ⟨q, rfl, rfl⟩

theorem words_within (h : s.Finalized p a d) {e : Entry} (he : e ∈ d.peripherals)
    {r : PlacedRegister} (hr : r ∈ e.registers) : (e.words r).Within e.range := by
  obtain ⟨q, hshows⟩ := h.exists_shows he
  exact hshows.words_within hr

theorem registerWords_apart (h : s.Finalized p a d) :
    (d.peripherals.flatMap Entry.registerWords).Pairwise Span.Apart := by
  rw [List.pairwise_flatMap]
  refine ⟨fun e he => ?_, ?_⟩
  · obtain ⟨q, hshows⟩ := h.exists_shows he
    exact hshows.pairwise_registerWords
  · -- across entries it is enough that the entries are apart
    have entries := (List.pairwise_append.1 h.entries_apart).2.1
    refine entries.imp_of_mem fun {e e'} he he' hapart => ?_
    intro x hx y hy
    obtain ⟨r, hr, rfl⟩ := List.mem_map.1 hx
    obtain ⟨t, ht, rfl⟩ := List.mem_map.1 hy
    exact hapart.mono (h.words_within he hr) (h.words_within he' ht)

end Finalized

/-- **Registers have addresses of their own.** Whatever parts a system is put together from: if it
can be finished, each word of the bus stands for one register at most. -/
theorem unambiguous_of_finalize {s : Soc} {p : Platform} {d : Design}
    (h : (s.finalize p).outcome = .ok d) : d.Unambiguous := by
  obtain ⟨a, finalized⟩ := finalize_eq_ok_iff.1 h
  have mem : ∀ e ∈ d.peripherals, e ∈ d.entries := fun e he => List.mem_append_right _ he
  have hmemories := (List.pairwise_append.1 finalized.entries_apart).2.2
  refine
    { aligned := fun e he r hr => ?_
      within := fun e he r hr => finalized.words_within he hr
      stop_le := fun e he r hr => ?_
      apart := finalized.registerWords_apart
      memory_apart := fun e he r hr m hm => ?_ }
  · obtain ⟨q, hshows⟩ := finalized.exists_shows he
    have hbase := wordStride_dvd_packed.trans (finalized.packed_dvd_base (mem e he))
    exact hshows.wordStride_dvd_start hbase hr
  · exact (finalized.words_within he hr).2.trans (finalized.stop_le (mem e he))
  · exact (hmemories m hm e he).symm.mono (finalized.words_within he hr) ⟨le_rfl, le_rfl⟩

/-! ### On a bench

Small systems, and a board, that statements on finished designs are tried at. -/

/-- A memory, a controller with an entry that is attached to it before it is added, and a counter
whose first register takes three words. -/
def tickSoc : Soc where
  name := "tick"
  cpu := { name := "vexriscv", variant := "imac" }
  parts := [
    ⟨.memory ⟨"blockram", .ram, 0x8000, "Firmware memory"⟩, .fixed 0, by decide⟩,
    ⟨.peripheral (.inFifo "ep_in"), .attached "usb", by decide⟩,
    ⟨.peripheral (.usbDeviceController "usb"), .auto, by decide⟩,
    ⟨.peripheral
      { name := "ticks"
        kind := .timer
        description := "Wide counter"
        registers := [
          .ofName "count" .readOnly 70 "Ticks so far",
          .ofName "clear" .writeOnly 1 "Start over"] },
      .auto, by decide⟩]
  names_nodup := by decide

/-- A memory and a controller. -/
def controllerSoc : Soc where
  name := "controller"
  cpu := { name := "vexriscv", variant := "imac" }
  parts := [
    ⟨.memory ⟨"blockram", .ram, 0x8000, "Firmware memory"⟩, .fixed 0, by decide⟩,
    ⟨.peripheral (.usbDeviceController "usb"), .auto, by decide⟩]
  names_nodup := by decide

/-- A memory that is attached to a controller. -/
def bufferSoc : Soc where
  name := "buffer"
  cpu := { name := "vexriscv", variant := "imac" }
  parts := [
    ⟨.peripheral (.usbDeviceController "usb"), .auto, by decide⟩,
    ⟨.memory ⟨"ram", .ram, 0x100, "Packets"⟩, .attached "usb", by decide⟩]
  names_nodup := by decide

/-- A board with a clock and nothing else. -/
def benchPlatform : Platform where
  board :=
    { name := "bench"
      device := "LFE5U-12F"
      package := "BG256"
      defaultClock := "clk"
      clockFrequencies := .ofList [("usb", 60.0)] }

theorem allocate_tickSoc : tickSoc.addressMap.allocate.outcome = .ok ⟨[
    ("blockram", ⟨0, 0x8000, 0x8000, none⟩),
    ("ep_in", ⟨0xf0000100, 0x100, 0x100, some "usb"⟩),
    ("usb", ⟨0xf0000000, 0x100, 0x1000, none⟩),
    ("ticks", ⟨0xf0001000, 0x100, 0x100, none⟩)]⟩ := by cbv

theorem unambiguous_tickSoc : ∃ d : Design, (tickSoc.finalize benchPlatform).outcome = .ok d ∧
    (d.peripherals.map Entry.registerWords).getLast? =
      some [⟨0xf0001000, 0xf000100c⟩, ⟨0xf000100c, 0xf0001010⟩] ∧
    d.Unambiguous := by
  have finished : ∃ d : Design, (tickSoc.finalize benchPlatform).outcome = .ok d ∧
      (d.peripherals.map Entry.registerWords).getLast? =
        some [⟨0xf0001000, 0xf000100c⟩, ⟨0xf000100c, 0xf0001010⟩] := by
    unfold finalize
    rw [Report.outcome_bind, allocate_tickSoc]
    exact ⟨_, rfl, by decide⟩
  obtain ⟨d, hd, hlast⟩ := finished
  exact ⟨d, hd, hlast, unambiguous_of_finalize hd⟩

end Soc

end SocAssembly
