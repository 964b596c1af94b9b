import Mathlib
import SocAssembly.Text.LetterCase

/-!
# What letter case leaves alone

Marks such as underscores and blanks have no case. A case mapping keeps them and makes none of them
out of another character, so a text in capitals has its marks where it had them before
(`Text.mem_uppercase_iff`). No mapping drops a character (`Text.mapCase_ne_nil`).
-/

namespace SocAssembly.Text

/-- No run of the mapping has the code point among its images. -/
def CaseShifts.Misses (shifts : CaseShifts) (n : Nat) : Prop :=
  ∀ run ∈ shifts, (n : Int) - run.2.2.2 < run.1 ∨ run.2.1 < (n : Int) - run.2.2.2

instance (shifts : CaseShifts) (n : Nat) : Decidable (shifts.Misses n) :=
  inferInstanceAs (Decidable (∀ _ ∈ _, _))

theorem CaseShifts.Misses.eq_of_apply {shifts : CaseShifts} {m n : Nat} (h : shifts.Misses n)
    (pos : 0 < n) (same : shifts.apply m = n) : m = n := by
  induction shifts with
  | nil => exact same
  | cons run rest ih =>
    obtain ⟨first, last, step, shift⟩ := run
    obtain ⟨hrun, hrest⟩ := List.forall_mem_cons.1 h
    simp only at hrun
    unfold apply at same
    split at same
    · exact same
    · split at same
      · split at same
        · simp only [Int.ofNat_eq_natCast] at same
          omega
        · exact same
      · exact ih hrest same

/-- A code point that gives a character other than that of code zero is the number of it. -/
theorem eq_toNat_of_ofNat {n : Nat} {d : Char} (pos : 0 < d.toNat) (same : Char.ofNat n = d) :
    n = d.toNat := by
  rw [← same, Char.toNat_ofNat] at pos ⊢
  split at pos
  · rename_i valid
    rw [if_pos valid]
  · omega

section Mapping

variable {expansions : List (Nat × List Nat)} {shifts : CaseShifts} {c d : Char}

/-- A case mapping makes a character that is not among its images of that character alone. -/
theorem notMem_mapCase (pos : 0 < d.toNat) (hshifts : shifts.Misses d.toNat)
    (hexpansions : ∀ x ∈ expansions, d.toNat ∉ x.2) (hc : c ≠ d) :
    d ∉ mapCase expansions shifts c := by
  unfold mapCase
  cases himage : expansions.lookup c.toNat with
  | none =>
    rw [List.mem_singleton]
    intro same
    have moved := eq_toNat_of_ofNat pos same.symm
    exact hc (Char.toNat_inj.1 (hshifts.eq_of_apply pos moved))
  | some image =>
    obtain ⟨before, after, hsplit, -⟩ := List.lookup_eq_some_iff.1 himage
    have notMem := hexpansions (c.toNat, image) (by simp [hsplit])
    intro mem
    obtain ⟨n, hn, same⟩ := List.mem_map.1 mem
    exact notMem (eq_toNat_of_ofNat pos same ▸ hn)

/-- A case mapping drops no character. -/
theorem mapCase_ne_nil (hexpansions : ∀ x ∈ expansions, x.2 ≠ []) :
    mapCase expansions shifts c ≠ [] := by
  unfold mapCase
  cases himage : expansions.lookup c.toNat with
  | none => exact List.cons_ne_nil _ _
  | some image =>
    obtain ⟨before, after, hsplit, -⟩ := List.lookup_eq_some_iff.1 himage
    simpa using hexpansions (c.toNat, image) (by simp [hsplit])

end Mapping

theorem upperChars_ne_nil (c : Char) : upperChars c ≠ [] := mapCase_ne_nil (by decide +kernel)

theorem lowerChars_ne_nil (c : Char) : lowerChars c ≠ [] := mapCase_ne_nil (by decide +kernel)

/-! ### Marks -/

/-- The code points of the characters that names, lines and code are cut at: the underscore, the
blank, the tab and the line feed, the quotation marks and the slash. -/
def markCodes : List Nat := [0x5F, 0x20, 0x09, 0x0A, 0x22, 0x27, 0x2F]

/-- The character is one that names, lines and code are cut at. -/
def IsMark (d : Char) : Prop := d.toNat ∈ markCodes

instance (d : Char) : Decidable (IsMark d) := inferInstanceAs (Decidable (_ ∈ _))

theorem IsMark.toNat_pos {d : Char} (hd : IsMark d) : 0 < d.toNat := by
  have all : ∀ n ∈ markCodes, 0 < n := by decide
  exact all _ hd

/-- No mark is made of another character in upper case. -/
theorem IsMark.notMem_upperChars {c d : Char} (hd : IsMark d) (hc : c ≠ d) : d ∉ upperChars c := by
  have shifts : ∀ n ∈ markCodes, upperShifts.Misses n := by decide +kernel
  have expansions : ∀ n ∈ markCodes, ∀ x ∈ upperExpansions, n ∉ x.2 := by decide +kernel
  exact notMem_mapCase hd.toNat_pos (shifts _ hd) (expansions _ hd) hc

/-- No mark is made of another character in lower case. -/
theorem IsMark.notMem_lowerChars {c d : Char} (hd : IsMark d) (hc : c ≠ d) : d ∉ lowerChars c := by
  have shifts : ∀ n ∈ markCodes, lowerShifts.Misses n := by decide +kernel
  have expansions : ∀ n ∈ markCodes, ∀ x ∈ lowerExpansions, n ∉ x.2 := by decide +kernel
  exact notMem_mapCase hd.toNat_pos (shifts _ hd) (expansions _ hd) hc

/-- A mark has no case. -/
theorem IsMark.mem_upperChars {d : Char} (hd : IsMark d) : d ∈ upperChars d := by
  have all : ∀ n ∈ markCodes, Char.ofNat n ∈ upperChars (Char.ofNat n) := by decide +kernel
  have := all _ hd
  rwa [Char.ofNat_toNat] at this

/-- A text in upper case has the marks of the text. -/
theorem mem_uppercase_iff {s : String} {d : Char} (hd : IsMark d) :
    d ∈ (uppercase s).toList ↔ d ∈ s.toList := by
  rw [uppercase, String.toList_ofList, List.mem_flatMap]
  constructor
  · rintro ⟨c, hc, mem⟩
    by_contra absent
    exact hd.notMem_upperChars (fun same => absent (same ▸ hc)) mem
  · intro mem
    exact ⟨d, mem, hd.mem_upperChars⟩

/-- Only the empty text is empty in upper case. -/
theorem toList_uppercase_eq_nil_iff {s : String} : (uppercase s).toList = [] ↔ s.toList = [] := by
  rw [uppercase, String.toList_ofList, List.flatMap_eq_nil_iff]
  constructor
  · intro none
    refine List.eq_nil_iff_forall_not_mem.2 fun c hc => ?_
    exact upperChars_ne_nil c (none c hc)
  · intro none c hc
    rw [none] at hc
    cases hc

end SocAssembly.Text
