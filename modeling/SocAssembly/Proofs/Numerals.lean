import Mathlib
import SocAssembly.Text.Decimal
import SocAssembly.Text.Hex

/-!
# Reading numerals back

Numbers are written in base ten, and in base sixteen with zeros in front up to a least number of
digits. A numeral has digits only and is read as the number it was written for, whatever its length
(`Text.readDigits_toString`, `Text.hexNumber?_capitals`).

Numbers that others wrote may have a plus sign in front, and have to fit a machine word
(`Text.Denotes`); these are the texts that are read as unsigned numbers
(`Text.readUnsigned_eq_some_iff`).
-/

namespace SocAssembly.Text

/-! ### Base ten -/

theorem toList_toString (n : Nat) : (toString n).toList = Nat.toDigits 10 n := Nat.toList_repr

theorem toList_toString_ne_nil (n : Nat) : (toString n).toList ≠ [] := by
  rw [toList_toString]
  exact Nat.toDigits_ne_nil

theorem isDigit_of_mem_toString {n : Nat} {c : Char} (h : c ∈ (toString n).toList) :
    c.isDigit = true := by
  rw [toList_toString] at h
  exact Nat.isDigit_of_mem_toDigits (by decide) (by decide) h

theorem readDigits_toString (n : Nat) : readDigits (toString n).toList = some n := by
  have digits : (toString n).toList.all Char.isDigit = true :=
    List.all_eq_true.2 fun c hc => isDigit_of_mem_toString hc
  have notEmpty : (toString n).toList.isEmpty = false :=
    List.isEmpty_eq_false_iff.2 (toList_toString_ne_nil n)
  have value := Nat.ofDigitChars_ten_toDigits (n := n)
  unfold readDigits
  rw [digits, notEmpty, toList_toString]
  exact congrArg some value

theorem readDigits_eq_some_iff {cs : List Char} {n : Nat} :
    readDigits cs = some n ↔
      cs ≠ [] ∧ (∀ c ∈ cs, c.isDigit = true) ∧ Nat.ofDigitChars 10 cs 0 = n := by
  have value : Nat.ofDigitChars 10 cs 0 = cs.foldl (fun n c => 10 * n + (c.toNat - '0'.toNat)) 0 :=
    rfl
  unfold readDigits
  rw [value]
  split
  · rename_i bad
    refine iff_of_false (by simp) fun ⟨notEmpty, digits, _⟩ => ?_
    simp [notEmpty, List.all_eq_true.2 digits] at bad
  · rename_i good
    rw [Bool.not_eq_true, Bool.or_eq_false_iff, List.isEmpty_eq_false_iff, Bool.not_eq_false',
      List.all_eq_true] at good
    simp only [Option.some.injEq]
    exact ⟨fun h => ⟨good.1, good.2, h⟩, fun h => h.2.2⟩

/-- The text is an unsigned decimal number: it has digits and nothing else, but perhaps a plus sign
in front of them, and its value has at most 64 bits. -/
def Denotes (s : String) (n : Nat) : Prop :=
  ∃ digits, (s.toList = digits ∨ s.toList = '+' :: digits) ∧ digits ≠ [] ∧
    (∀ c ∈ digits, c.isDigit = true) ∧ Nat.ofDigitChars 10 digits 0 = n ∧ n < 2 ^ 64

theorem readUnsigned_of_signed {s : String} {rest : List Char} (h : s.toList = '+' :: rest) :
    readUnsigned s = (readDigits rest).filter (· < 2 ^ 64) := by
  unfold readUnsigned
  rw [h]
  rfl

theorem readUnsigned_of_plain {s : String} (h : ∀ rest, s.toList ≠ '+' :: rest) :
    readUnsigned s = (readDigits s.toList).filter (· < 2 ^ 64) := by
  unfold readUnsigned
  split
  · rename_i rest signed
    exact absurd signed (h rest)
  · rfl

theorem readUnsigned_eq_some_iff {s : String} {n : Nat} :
    readUnsigned s = some n ↔ Denotes s n := by
  unfold Denotes
  by_cases signed : ∃ rest, s.toList = '+' :: rest
  · obtain ⟨rest, hrest⟩ := signed
    rw [readUnsigned_of_signed hrest]
    simp only [Option.filter_eq_some_iff, readDigits_eq_some_iff, decide_eq_true_eq]
    constructor
    · rintro ⟨⟨notEmpty, digits, value⟩, small⟩
      exact ⟨rest, Or.inr hrest, notEmpty, digits, value, small⟩
    · rintro ⟨ds, written, notEmpty, digits, value, small⟩
      rw [hrest] at written
      rcases written with plain | signed
      · -- a plus sign is no digit
        exact absurd (digits '+' (plain ▸ List.mem_cons_self ..)) (by decide)
      · rw [(List.cons.inj signed).2]
        exact ⟨⟨notEmpty, digits, value⟩, small⟩
  · rw [not_exists] at signed
    rw [readUnsigned_of_plain signed]
    simp only [Option.filter_eq_some_iff, readDigits_eq_some_iff, decide_eq_true_eq]
    constructor
    · rintro ⟨⟨notEmpty, digits, value⟩, small⟩
      exact ⟨s.toList, Or.inl rfl, notEmpty, digits, value, small⟩
    · rintro ⟨ds, plain | contra, notEmpty, digits, value, small⟩
      · rw [plain]
        exact ⟨⟨notEmpty, digits, value⟩, small⟩
      · exact absurd contra (signed ds)

/-! ### Base sixteen -/

/-- The number after one more digit. -/
def hexStep (n : Nat) (c : Char) : Option Nat := (hexValue? c).map (16 * n + ·)

/-- The value of a list of hexadecimal digits, if it holds nothing else and is not empty. -/
def hexNumber? (cs : List Char) : Option Nat := if cs.isEmpty then none else cs.foldlM hexStep 0

/-- The digits of a number in capitals, and zeros in front of them up to a least number of digits. -/
def capitals (width n : Nat) : List Char := ((hexDigits n).map Char.toUpper).leftpad width '0'

/-- The digits of an address. -/
def addressDigits (n : Nat) : List Char := (hexDigits n).leftpad 8 '0'

theorem toList_address (n : Nat) : (address n).toList = '0' :: 'x' :: addressDigits n := by
  have split : address n = "0x" ++ String.ofList (addressDigits n) := rfl
  simp [split]

/-- The digits have their values, however they are spelled. -/
def KeepsDigits (spell : Char → Char) : Prop :=
  ∀ d < 16, hexValue? (spell (Nat.digitChar d)) = some d

theorem keepsDigits_id : KeepsDigits id := by
  unfold KeepsDigits
  decide

theorem keepsDigits_toUpper : KeepsDigits Char.toUpper := by
  unfold KeepsDigits
  decide

section Spelling

variable {spell : Char → Char}

theorem KeepsDigits.hexStep_digitChar (h : KeepsDigits spell) {d : Nat} (hd : d < 16) (n : Nat) :
    hexStep n (spell (Nat.digitChar d)) = some (16 * n + d) := by
  unfold hexStep
  rw [h d hd, Option.map_some]

theorem KeepsDigits.foldlM_hexDigits (h : KeepsDigits spell) (n : Nat) :
    ((hexDigits n).map spell).foldlM hexStep 0 = some n := by
  unfold hexDigits
  induction n using Nat.strongRecOn with
  | ind n ih =>
    by_cases single : n < 16
    · rw [Nat.toDigits_of_lt_base single, List.map_singleton, List.foldlM_cons,
        h.hexStep_digitChar single]
      simp
    · -- the last digit is read behind the numeral of the rest
      rw [Nat.toDigits_of_base_le (by decide) (Nat.not_lt.1 single), List.map_append,
        List.foldlM_append, ih (n / 16) (by omega)]
      have last := h.hexStep_digitChar (Nat.mod_lt n (by decide : 0 < 16)) (n / 16)
      rw [Nat.div_add_mod] at last
      simpa using last

theorem foldlM_zeros (k : Nat) (cs : List Char) :
    (List.replicate k '0' ++ cs).foldlM hexStep 0 = cs.foldlM hexStep 0 := by
  induction k with
  | zero => rfl
  | succ k ih =>
    rw [List.replicate_succ, List.cons_append, List.foldlM_cons]
    exact ih

/-- A number that is written with zeros in front is read as the number. -/
theorem KeepsDigits.hexNumber?_leftpad (h : KeepsDigits spell) (width n : Nat) :
    hexNumber? (((hexDigits n).map spell).leftpad width '0') = some n := by
  have notEmpty : ((hexDigits n).map spell).leftpad width '0' ≠ [] := by
    refine List.append_ne_nil_of_right_ne_nil _ ?_
    rw [Ne, List.map_eq_nil_iff]
    exact Nat.toDigits_ne_nil
  unfold hexNumber?
  rw [List.isEmpty_eq_false_iff.2 notEmpty, if_neg Bool.false_ne_true]
  exact (foldlM_zeros _ _).trans (h.foldlM_hexDigits n)

end Spelling

theorem hexNumber?_capitals (width n : Nat) : hexNumber? (capitals width n) = some n :=
  keepsDigits_toUpper.hexNumber?_leftpad width n

theorem hexNumber?_addressDigits (n : Nat) : hexNumber? (addressDigits n) = some n := by
  have read := keepsDigits_id.hexNumber?_leftpad 8 n
  rwa [List.map_id] at read

/-- What is read as a number has hexadecimal digits only. -/
theorem hexValue?_of_hexNumber? {cs : List Char} {n : Nat} (h : hexNumber? cs = some n) :
    ∀ c ∈ cs, (hexValue? c).isSome := by
  have digits : ∀ start, cs.foldlM hexStep start = some n → ∀ c ∈ cs, (hexValue? c).isSome := by
    clear h
    induction cs with
    | nil => exact fun _ _ c hc => absurd hc List.not_mem_nil
    | cons d rest ih =>
      intro start read
      rw [List.foldlM_cons] at read
      obtain ⟨next, hnext, read⟩ := Option.bind_eq_some_iff.1 read
      refine List.forall_mem_cons.2 ⟨?_, ih next read⟩
      obtain ⟨value, hvalue, -⟩ := Option.map_eq_some_iff.1 hnext
      exact Option.isSome_of_eq_some hvalue
  unfold hexNumber? at h
  split at h
  · cases h
  · exact digits 0 h

/-- What is no hexadecimal digit is not in an address. -/
theorem notMem_addressDigits {c : Char} (h : hexValue? c = none) (n : Nat) :
    c ∉ addressDigits n := by
  intro mem
  have value := hexValue?_of_hexNumber? (hexNumber?_addressDigits n) c mem
  rw [h] at value
  cases value

end SocAssembly.Text
