import Mathlib
import SocAssembly.Proofs.Splitting
import SocAssembly.Text.Blank

/-!
# The words of a text

A blank ends a word wherever it stands (`Text.wordsOf_append_cons`), and everything else about words
follows from that: blanks at the end of a text belong to no word, so neither trimming it nor filling
a column with blanks changes its words, and a text that is made of pieces with a blank between any
two has the words of the pieces (`Text.wordsOf_intercalate`). How many words a piece has does not
matter: a piece without any leaves no trace.
-/

namespace SocAssembly.Text

/-- The characters are one word. -/
structure IsWord (w : List Char) : Prop where
  /-- There are some. -/
  ne_nil : w ≠ []
  /-- None is a blank. -/
  notBlank : ∀ c ∈ w, isBlank c = false

theorem isWord_iff {w : List Char} : (!w.isEmpty && w.all (!isBlank ·)) = true ↔ IsWord w := by
  rw [Bool.and_eq_true, Bool.not_eq_true', List.isEmpty_eq_false_iff, List.all_eq_true]
  simp only [Bool.not_eq_true']
  exact ⟨fun h => ⟨h.1, h.2⟩, fun h => ⟨h.ne_nil, h.notBlank⟩⟩

instance (w : List Char) : Decidable (IsWord w) := decidable_of_iff _ isWord_iff

/-- A word is its only word. -/
theorem IsWord.wordsOf_eq {w : List Char} (h : IsWord w) : wordsOf w = [w] := by
  unfold wordsOf
  rw [List.splitOnP_eq_singleton h.notBlank, List.filter_singleton,
    List.isEmpty_eq_false_iff.2 h.ne_nil]
  rfl

/-- A word fits on a line, because a line feed is a blank. -/
theorem IsWord.isLine {s : String} (h : IsWord s.toList) : IsLine s := fun mem =>
  absurd (h.notBlank _ mem) (by decide)

/-- The words of a text are words. -/
theorem isWord_of_mem_wordsOf {cs w : List Char} (h : w ∈ wordsOf cs) : IsWord w := by
  obtain ⟨piece, notEmpty⟩ := List.mem_filter.1 h
  exact ⟨by simpa using notEmpty, fun c hc => (of_mem_splitOnP piece c hc).2⟩

theorem isLine_of_mem_words {s word : String} (h : word ∈ words s) : IsLine word := by
  obtain ⟨w, hw, rfl⟩ := List.mem_map.1 h
  refine IsWord.isLine ?_
  rw [String.toList_ofList]
  exact isWord_of_mem_wordsOf hw

/-! ### Characters of words -/

theorem isBlank_eq_false {c : Char} (first : 0x20 < c.toNat) (last : c.toNat < 0x85) :
    isBlank c = false := by
  unfold isBlank
  simp only [Bool.or_eq_false_iff, Bool.and_eq_false_iff, decide_eq_false_iff_not,
    beq_eq_false_iff_ne]
  omega

theorem isBlank_of_isDigit {c : Char} (h : c.isDigit = true) : isBlank c = false := by
  obtain ⟨first, last⟩ : 48 ≤ c.toNat ∧ c.toNat ≤ 57 := Char.isDigit_iff_toNat.1 h
  exact isBlank_eq_false (by omega) (by omega)

/-- A blank is no digit in base sixteen either. -/
theorem hexValue?_of_isBlank {c : Char} (h : isBlank c = true) : hexValue? c = none := by
  have noDigit : c.isDigit = false := by
    by_contra digit
    rw [Bool.not_eq_false] at digit
    rw [isBlank_of_isDigit digit] at h
    cases h
  have noLetter : ∀ a b : Char, 0x20 < a.toNat → b.toNat < 0x85 → (a ≤ c && c ≤ b) = false := by
    intro a b ha hb
    by_contra letter
    rw [Bool.not_eq_false, Bool.and_eq_true, decide_eq_true_eq, decide_eq_true_eq] at letter
    have first : a.toNat ≤ c.toNat := letter.1
    have last : c.toNat ≤ b.toNat := letter.2
    rw [isBlank_eq_false (by omega) (by omega)] at h
    cases h
  unfold hexValue?
  rw [noDigit, noLetter 'a' 'f' (by decide) (by decide), noLetter 'A' 'F' (by decide) (by decide)]
  rfl

/-- A numeral is one word. -/
theorem isWord_toString (n : Nat) : IsWord (toString n).toList :=
  ⟨toList_toString_ne_nil n, fun _ mem => isBlank_of_isDigit (isDigit_of_mem_toString mem)⟩

/-- An address is one word. -/
theorem isWord_address (n : Nat) : IsWord (address n).toList := by
  rw [toList_address]
  refine ⟨List.cons_ne_nil _ _, ?_⟩
  rw [List.forall_mem_cons, List.forall_mem_cons]
  refine ⟨by decide, by decide, fun c mem => ?_⟩
  by_contra blank
  rw [Bool.not_eq_false] at blank
  exact notMem_addressDigits (hexValue?_of_isBlank blank) n mem

/-! ### Cutting at blanks -/

@[simp] theorem wordsOf_nil : wordsOf [] = [] := by
  unfold wordsOf
  rw [List.splitOnP_nil]
  rfl

/-- A blank ends a word. -/
theorem wordsOf_append_cons {b : Char} (hb : isBlank b = true) (cs ds : List Char) :
    wordsOf (cs ++ b :: ds) = wordsOf cs ++ wordsOf ds := by
  unfold wordsOf
  rw [List.splitOnP_append_cons _ _ hb, List.filter_append]

theorem wordsOf_blanks {bs : List Char} (h : ∀ b ∈ bs, isBlank b = true) : wordsOf bs = [] := by
  induction bs with
  | nil => exact wordsOf_nil
  | cons b rest ih =>
    obtain ⟨hb, hrest⟩ := List.forall_mem_cons.1 h
    have first := wordsOf_append_cons hb [] rest
    rwa [List.nil_append, wordsOf_nil, List.nil_append, ih hrest] at first

/-- Blanks at the end of a text belong to no word. -/
theorem wordsOf_append_blanks {bs : List Char} (h : ∀ b ∈ bs, isBlank b = true) (cs : List Char) :
    wordsOf (cs ++ bs) = wordsOf cs := by
  cases bs with
  | nil => rw [List.append_nil]
  | cons b rest =>
    obtain ⟨hb, hrest⟩ := List.forall_mem_cons.1 h
    rw [wordsOf_append_cons hb, wordsOf_blanks hrest, List.append_nil]

/-- What trimming takes off the end of a text are blanks. -/
theorem exists_trimEndOf_append (cs : List Char) :
    ∃ bs, (∀ b ∈ bs, isBlank b = true) ∧ trimEndOf cs ++ bs = cs := by
  refine ⟨(cs.reverse.takeWhile isBlank).reverse, fun b hb => ?_, ?_⟩
  · exact List.mem_takeWhile_imp (List.mem_reverse.1 hb)
  · unfold trimEndOf
    rw [← List.reverse_append, List.takeWhile_append_dropWhile, List.reverse_reverse]

theorem wordsOf_trimEnd (s : String) : wordsOf (trimEnd s).toList = wordsOf s.toList := by
  obtain ⟨bs, blanks, split⟩ := exists_trimEndOf_append s.toList
  rw [trimEnd, String.toList_ofList, ← wordsOf_append_blanks blanks, split]

theorem wordsOf_padRight (width : Nat) (s : String) :
    wordsOf (padRight width s).toList = wordsOf s.toList := by
  rw [padRight, String.toList_ofList, List.rightpad]
  refine wordsOf_append_blanks (fun b hb => ?_) s.toList
  rw [List.eq_of_mem_replicate hb]
  rfl

/-- The words of pieces with a blank between any two are the words of the pieces. -/
theorem wordsOf_intercalate {b : Char} (hb : isBlank b = true) (pieces : List (List Char)) :
    wordsOf ([b].intercalate pieces) = pieces.flatMap wordsOf := by
  induction pieces with
  | nil => exact wordsOf_nil
  | cons piece rest ih =>
    by_cases last : rest = []
    · rw [last, List.intercalate_singleton, List.flatMap_singleton]
    · rw [List.intercalate_cons_of_ne_nil last, List.append_assoc, List.singleton_append,
        wordsOf_append_cons hb, ih, List.flatMap_cons]

/-! ### Pieces on one line -/

theorem isLine_trimEnd {s : String} (h : IsLine s) : IsLine (trimEnd s) := by
  obtain ⟨bs, -, split⟩ := exists_trimEndOf_append s.toList
  intro mem
  rw [trimEnd, String.toList_ofList] at mem
  exact h (split ▸ List.mem_append_left bs mem)

theorem isLine_padRight {s : String} (h : IsLine s) (width : Nat) : IsLine (padRight width s) := by
  intro mem
  rw [padRight, String.toList_ofList, List.rightpad] at mem
  rcases List.mem_append.1 mem with mem | mem
  · exact h mem
  · exact absurd (List.eq_of_mem_replicate mem) (by decide)

theorem isLine_intercalate {mark : String} (hmark : IsLine mark) {pieces : List String}
    (h : ∀ s ∈ pieces, IsLine s) : IsLine (mark.intercalate pieces) := by
  induction pieces with
  | nil => exact List.not_mem_nil
  | cons s rest ih =>
    obtain ⟨hs, hrest⟩ := List.forall_mem_cons.1 h
    by_cases last : rest = []
    · rw [last, String.intercalate_singleton]
      exact hs
    · rw [String.intercalate_cons_of_ne_nil last, isLine_append, isLine_append]
      exact ⟨⟨hs, hmark⟩, ih hrest⟩

end SocAssembly.Text
