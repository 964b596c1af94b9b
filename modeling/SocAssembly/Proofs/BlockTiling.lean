import Mathlib
import SocAssembly.Proofs.RegisterBlock

/-!
# Blocks without gaps

## The model

An address lies in a register when it is one of the bytes of the register's words
(`PlacedRegister.Holds`). A block is tiled by its registers when each address below its size lies in
exactly one of them, counted by their positions (`Peripheral.IsTiled`).

Registers take whole words, and one word where they have no bits, so none of them is empty. The
first starts at the start of the block and each other one where the register before it ends
(`isChain_placeFrom`). Hence no address is left out (`exists_mem_placeFrom`), and as registers do
not overlap, none lies in two of them (`eq_of_holds`).
-/

namespace SocAssembly

/-! ### Words -/

namespace Register

variable (r : Register)

theorem byteSize_eq : r.byteSize = 4 * r.words := Nat.mul_comm ..

/-- The words of a register have room for its bits. -/
theorem width_le : r.width ≤ 32 * r.words := by
  unfold words busWidth
  omega

/-- A register with bits has no word to spare. -/
theorem lt_width_add (h : 0 < r.width) : 32 * r.words < r.width + 32 := by
  unfold words busWidth
  omega

/-- A register without bits takes one word. -/
theorem words_of_width_eq_zero (h : r.width = 0) : r.words = 1 := by
  simp [words, busWidth, h]

end Register

theorem totalBytes_eq (rs : List Register) : totalBytes rs = 4 * (rs.map Register.words).sum := by
  induction rs with
  | nil => rfl
  | cons r rest ih =>
    rw [totalBytes_cons, ih, r.byteSize_eq, List.map_cons, List.sum_cons, Nat.mul_add]

/-! ### Tilings -/

/-- The address, counted from the start of the block, is one of the register's bytes. -/
def PlacedRegister.Holds (p : PlacedRegister) (address : Nat) : Prop :=
  p.offset ≤ address ∧ address < p.offset + 4 * p.register.words

theorem PlacedRegister.holds_iff {p : PlacedRegister} {address : Nat} :
    p.Holds address ↔ p.offset ≤ address ∧ address < p.stop := by
  unfold Holds stop
  rw [p.register.byteSize_eq]

section Placing

variable {offset address : Nat} {rs : List Register}

/-- The first register starts where the block does. -/
theorem offset_of_head?_placeFrom : ∀ p ∈ (placeFrom offset rs).head?, p.offset = offset := by
  intro p hp
  cases rs with
  | nil => simp [placeFrom] at hp
  | cons r rest =>
    simp only [placeFrom, List.head?_cons, Option.mem_some_iff] at hp
    rw [← hp]

/-- Each register starts where the one before it ends. -/
theorem isChain_placeFrom (offset : Nat) (rs : List Register) :
    (placeFrom offset rs).IsChain fun p q => q.offset = p.stop := by
  induction rs generalizing offset with
  | nil => exact List.IsChain.nil
  | cons r rest ih => exact List.isChain_cons.2 ⟨offset_of_head?_placeFrom, ih _⟩

/-- No address between the start and the end of a block is left out. -/
theorem exists_mem_placeFrom (start : offset ≤ address) (stop : address < offset + totalBytes rs) :
    ∃ p ∈ placeFrom offset rs, p.Holds address := by
  induction rs generalizing offset with
  | nil => simp at stop; omega
  | cons r rest ih =>
    by_cases first : address < offset + r.byteSize
    · exact ⟨⟨offset, r⟩, List.mem_cons_self .., PlacedRegister.holds_iff.2 ⟨start, first⟩⟩
    · rw [totalBytes_cons, ← Nat.add_assoc] at stop
      obtain ⟨p, hp, holds⟩ := ih (Nat.not_lt.1 first) stop
      exact ⟨p, List.mem_cons_of_mem _ hp, holds⟩

end Placing

/-- Registers of which each ends before those behind it begin share no address. -/
theorem eq_of_holds {ps : List PlacedRegister} (apart : ps.Pairwise fun p q => p.stop ≤ q.offset)
    {i j address : Nat} {p q : PlacedRegister} (hi : ps[i]? = some p) (hj : ps[j]? = some q)
    (hp : p.Holds address) (hq : q.Holds address) : i = j := by
  rw [PlacedRegister.holds_iff] at hp hq
  obtain ⟨lti, rfl⟩ := List.getElem?_eq_some_iff.1 hi
  obtain ⟨ltj, rfl⟩ := List.getElem?_eq_some_iff.1 hj
  rw [List.pairwise_iff_getElem] at apart
  rcases Nat.lt_trichotomy i j with before | same | behind
  · have := apart i j lti ltj before
    omega
  · exact same
  · have := apart j i ltj lti behind
    omega

/-! ### The block of a peripheral -/

namespace Peripheral

/-- The register at a position of the block holds the address. -/
def HoldsAt (p : Peripheral) (address i : Nat) : Prop :=
  ∃ r, p.layout[i]? = some r ∧ r.Holds address

/-- The registers of a peripheral tile its block. -/
structure IsTiled (p : Peripheral) : Prop where
  /-- The block has the registers in order, and then three for the events if there are events. -/
  registers : p.layout.map (·.register) = p.registers ++ if p.events = [] then [] else
    [.withField "ev_status" "status" .readOnly p.events.length "Event status",
      .withField "ev_pending" "pending" .readWrite p.events.length
        "Pending events, write 1 to clear",
      .withField "ev_enable" "enable" .readWrite p.events.length "Event enable"]
  /-- The first one starts where the block does. -/
  first : ∀ r ∈ p.layout.head?, r.offset = 0
  /-- Each other one starts behind the words of the one before it. -/
  next : p.layout.IsChain fun r t => t.offset = r.offset + 4 * r.register.words
  /-- Each has a word. -/
  words_pos : ∀ r ∈ p.layout, 0 < r.register.words
  /-- Its words have room for its bits. -/
  width_le : ∀ r ∈ p.layout, r.register.width ≤ 32 * r.register.words
  /-- None of them is to spare. -/
  lt_width_add : ∀ r ∈ p.layout, 0 < r.register.width →
    32 * r.register.words < r.register.width + 32
  /-- It has one word if it has no bits. -/
  words_of_width_eq_zero : ∀ r ∈ p.layout, r.register.width = 0 → r.register.words = 1
  /-- The block is as large as all words together. -/
  blockSize : p.blockSize = 4 * (p.layout.map (·.register.words)).sum
  /-- An address is in a register if it is below the size of the block, and then in one only. -/
  holds : ∀ address, address < p.blockSize ↔ ∃! i, p.HoldsAt address i
  /-- No address is in a register if it is not below the size. -/
  outside : ∀ address, p.blockSize ≤ address → ∀ r ∈ p.layout, ¬ r.Holds address
  /-- Only a peripheral without registers and events has an empty block. -/
  empty : p.blockSize = 0 ↔ p.registers = [] ∧ p.events = []

variable (p : Peripheral)

theorem allRegisters_eq_nil_iff : p.allRegisters = [] ↔ p.registers = [] ∧ p.events = [] := by
  unfold allRegisters eventRegisters
  rw [List.append_eq_nil_iff, ← List.length_eq_zero_iff (l := p.events)]
  split <;> simp [*]

theorem existsUnique_holdsAt {address : Nat} (h : address < p.blockSize) :
    ∃! i, p.HoldsAt address i := by
  rw [blockSize_eq_totalBytes] at h
  have inside : address < 0 + totalBytes p.allRegisters := by omega
  obtain ⟨r, mem, holds⟩ := exists_mem_placeFrom (Nat.zero_le address) inside
  obtain ⟨i, hi⟩ := List.mem_iff_getElem?.1 mem
  refine ⟨i, ⟨r, hi, holds⟩, ?_⟩
  rintro j ⟨t, hj, holds'⟩
  exact eq_of_holds p.pairwise_layout hj hi holds' holds

theorem lt_blockSize {p : Peripheral} {r : PlacedRegister} (hr : r ∈ p.layout) {address : Nat}
    (h : r.Holds address) : address < p.blockSize := by
  have stop := stop_le_blockSize hr
  have := (PlacedRegister.holds_iff.1 h).2
  omega

theorem blockSize_eq_zero_iff : p.blockSize = 0 ↔ p.registers = [] ∧ p.events = [] := by
  rw [blockSize_eq_totalBytes, ← allRegisters_eq_nil_iff]
  constructor
  · intro empty
    cases split : p.allRegisters with
    | nil => rfl
    | cons r rest =>
      -- a register takes a word, so the block is not empty
      rw [split, totalBytes_cons, r.byteSize_eq] at empty
      have := r.words_pos
      omega
  · intro none
    rw [none, totalBytes_nil]

/-- **The registers of a peripheral tile its block.** Whatever the widths of its registers and
however many events it has, each word of its block belongs to exactly one register, and the block
has room for its registers and for nothing else. -/
theorem tiled : p.IsTiled where
  registers := by
    rw [map_register_layout]
    unfold allRegisters eventRegisters
    simp only [List.length_eq_zero_iff]
  first := offset_of_head?_placeFrom
  next := by
    refine (isChain_placeFrom 0 p.allRegisters).imp fun r t behind => ?_
    rw [behind, PlacedRegister.stop, Register.byteSize_eq]
  words_pos := fun r _ => r.register.words_pos
  width_le := fun r _ => r.register.width_le
  lt_width_add := fun r _ => r.register.lt_width_add
  words_of_width_eq_zero := fun r _ => r.register.words_of_width_eq_zero
  blockSize := by
    rw [blockSize_eq_totalBytes, totalBytes_eq, ← map_register_layout, List.map_map]
    rfl
  holds := fun address => by
    refine ⟨p.existsUnique_holdsAt, ?_⟩
    rintro ⟨i, ⟨r, hi, holds⟩, -⟩
    exact lt_blockSize (List.mem_of_getElem? hi) holds
  outside := fun address below r hr holds => absurd (lt_blockSize hr holds) (Nat.not_lt.2 below)
  empty := p.blockSize_eq_zero_iff

/-- A register without bits takes a word, and one of 33 bits takes two. -/
example : ({ name := "meter", kind := .timer, description := "", registers := [
    .ofName "mark" .readOnly 0 "", .ofName "count" .readOnly 33 "",
    .ofName "on" .readWrite 1 ""] } : Peripheral).layout.map (·.offset) = [0, 4, 12] := by decide

end Peripheral

end SocAssembly
