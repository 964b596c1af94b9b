import Mathlib
import SocAssembly.Peripheral

/-!
# Blocks of registers

Registers are laid out one behind the other, so a register starts where the sizes of those before
it add up to (`mem_placeFrom_iff`). Hence each starts on a word, none begins before those in front
of it have ended (`pairwise_placeFrom`), and the block ends where the sizes of all its registers add
up to, those for events included (`Peripheral.blockSize_eq_totalBytes`).
-/

namespace SocAssembly

/-- The bytes that registers take together. -/
def totalBytes (rs : List Register) : Nat := (rs.map Register.byteSize).sum

@[simp] theorem totalBytes_nil : totalBytes [] = 0 := rfl

@[simp] theorem totalBytes_cons (r : Register) (rs : List Register) :
    totalBytes (r :: rs) = r.byteSize + totalBytes rs := List.sum_cons

@[simp] theorem totalBytes_append (rs ts : List Register) :
    totalBytes (rs ++ ts) = totalBytes rs + totalBytes ts := by
  unfold totalBytes
  rw [List.map_append, List.sum_append]

theorem Register.wordStride_dvd_byteSize (r : Register) : wordStride ∣ r.byteSize :=
  Nat.dvd_mul_left ..

theorem wordStride_dvd_totalBytes (rs : List Register) : wordStride ∣ totalBytes rs := by
  refine List.dvd_sum fun size hsize => ?_
  obtain ⟨r, -, rfl⟩ := List.mem_map.1 hsize
  exact r.wordStride_dvd_byteSize

/-- A register starts where the registers before it end. -/
theorem mem_placeFrom_iff {offset : Nat} {rs : List Register} {p : PlacedRegister} :
    p ∈ placeFrom offset rs ↔ ∃ before rest, rs = before ++ p.register :: rest ∧
      p.offset = offset + totalBytes before := by
  induction rs generalizing offset with
  | nil => simp [placeFrom]
  | cons r rs ih =>
    unfold placeFrom
    rw [List.mem_cons, ih]
    constructor
    · rintro (rfl | ⟨before, rest, rfl, hoffset⟩)
      · exact ⟨[], rs, rfl, rfl⟩
      · refine ⟨r :: before, rest, rfl, ?_⟩
        rw [hoffset, totalBytes_cons, Nat.add_assoc]
    · rintro ⟨before, rest, hsplit, hoffset⟩
      cases before with
      | nil =>
        obtain ⟨rfl, rfl⟩ := List.cons.inj hsplit
        obtain ⟨start, register⟩ := p
        rw [totalBytes_nil, Nat.add_zero] at hoffset
        subst hoffset
        exact Or.inl rfl
      | cons r' before =>
        obtain ⟨rfl, rfl⟩ := List.cons.inj hsplit
        refine Or.inr ⟨before, rest, rfl, ?_⟩
        rw [hoffset, totalBytes_cons, Nat.add_assoc]

/-- Each register ends before those behind it begin. -/
theorem pairwise_placeFrom (offset : Nat) (rs : List Register) :
    (placeFrom offset rs).Pairwise fun p q => p.stop ≤ q.offset := by
  induction rs generalizing offset with
  | nil => exact List.Pairwise.nil
  | cons r rs ih =>
    refine List.pairwise_cons.2 ⟨fun q hq => ?_, ih (offset + r.byteSize)⟩
    obtain ⟨before, -, -, hoffset⟩ := mem_placeFrom_iff.1 hq
    rw [hoffset]
    exact Nat.le_add_right ..

/-- The last register ends where the sizes of all registers add up to. -/
theorem stop_getLast?_placeFrom (offset : Nat) (rs : List Register) :
    ((placeFrom offset rs).getLast?.map (·.stop)).getD offset = offset + totalBytes rs := by
  induction rs generalizing offset with
  | nil => rfl
  | cons r rs ih =>
    have hlast := ih (offset + r.byteSize)
    unfold placeFrom
    rw [List.getLast?_cons, Option.map_some, Option.getD_some, totalBytes_cons,
      ← Nat.add_assoc, ← hlast]
    exact (Option.getD_map PlacedRegister.stop ⟨offset, r⟩ _).symm

namespace Peripheral

/-- All registers of a peripheral, those for its events at the end. -/
def allRegisters (p : Peripheral) : List Register :=
  p.registers ++ eventRegisters p.events.length

/-- The block has room for its registers and for nothing else. -/
theorem blockSize_eq_totalBytes (p : Peripheral) : p.blockSize = totalBytes p.allRegisters :=
  (stop_getLast?_placeFrom 0 p.allRegisters).trans (Nat.zero_add _)

theorem map_register_layout (p : Peripheral) : p.layout.map (·.register) = p.allRegisters :=
  map_register_placeFrom 0 p.allRegisters

theorem pairwise_layout (p : Peripheral) : p.layout.Pairwise fun r t => r.stop ≤ t.offset :=
  pairwise_placeFrom 0 p.allRegisters

theorem wordStride_dvd_offset {p : Peripheral} {r : PlacedRegister} (h : r ∈ p.layout) :
    wordStride ∣ r.offset := by
  obtain ⟨before, -, -, hoffset⟩ := mem_placeFrom_iff.1 h
  rw [hoffset, Nat.zero_add]
  exact wordStride_dvd_totalBytes before

theorem stop_le_blockSize {p : Peripheral} {r : PlacedRegister} (h : r ∈ p.layout) :
    r.stop ≤ p.blockSize := by
  obtain ⟨before, rest, hsplit, hoffset⟩ := mem_placeFrom_iff.1 h
  have hall : p.allRegisters = before ++ r.register :: rest := hsplit
  rw [blockSize_eq_totalBytes, hall, totalBytes_append, totalBytes_cons]
  unfold PlacedRegister.stop
  omega

end Peripheral

end SocAssembly
