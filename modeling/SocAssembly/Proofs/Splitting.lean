import Mathlib
import SocAssembly.Proofs.Numerals
import SocAssembly.Text.Column

/-!
# Texts that are cut into pieces

Cutting undoes joining as long as no piece has a character that is cut at: a list of texts is found
again between the marks that were put between them (`Text.splitOnP_intercalate`), and the lines of a
text between its line feeds (`Text.lines_unlines`).
-/

namespace SocAssembly.Text

/-- A piece has characters of the text, and none that was cut at. -/
theorem of_mem_splitOnP {α : Type} {p : α → Bool} {cs w : List α} (h : w ∈ cs.splitOnP p) :
    ∀ c ∈ w, c ∈ cs ∧ p c = false := by
  induction cs generalizing w with
  | nil =>
    rw [List.splitOnP_nil, List.mem_singleton] at h
    rw [h]
    exact fun c hc => absurd hc List.not_mem_nil
  | cons d rest ih =>
    rw [List.splitOnP_cons_eq_if_modifyHead] at h
    split at h
    · rcases List.mem_cons.1 h with rfl | h
      · exact fun c hc => absurd hc List.not_mem_nil
      · exact fun c hc => (ih h c hc).imp_left (List.mem_cons_of_mem d)
    · rename_i hd
      obtain ⟨head, tail, split⟩ := List.exists_cons_of_ne_nil (List.splitOnP_ne_nil p rest)
      rw [split] at h ih
      rcases List.mem_cons.1 h with rfl | h
      · intro c hc
        rcases List.mem_cons.1 hc with rfl | hc
        · exact ⟨List.mem_cons_self .., by simpa using hd⟩
        · exact (ih (List.mem_cons_self ..) c hc).imp_left (List.mem_cons_of_mem d)
      · exact fun c hc => (ih (List.mem_cons_of_mem _ h) c hc).imp_left (List.mem_cons_of_mem d)

/-- A mark between any two pieces stands in front of each piece but the first. -/
theorem intercalate_cons {α : Type} (x : α) (w : List α) (ws : List (List α)) :
    [x].intercalate (w :: ws) = w ++ ws.flatMap (x :: ·) := by
  induction ws generalizing w with
  | nil => simp
  | cons v rest ih =>
    rw [List.intercalate_cons_cons, ih, List.flatMap_cons]
    simp

theorem splitOnP_intercalate {α : Type} {p : α → Bool} {x : α} (hx : p x = true)
    {ws : List (List α)} (h : ∀ w ∈ ws, ∀ c ∈ w, p c = false) (some : ws ≠ []) :
    ([x].intercalate ws).splitOnP p = ws := by
  induction ws with
  | nil => exact absurd rfl some
  | cons w rest ih =>
    obtain ⟨hw, hrest⟩ := List.forall_mem_cons.1 h
    by_cases last : rest = []
    · rw [last, List.intercalate_singleton, List.splitOnP_eq_singleton hw]
    · rw [List.intercalate_cons_of_ne_nil last, List.append_assoc, List.singleton_append,
        List.splitOnP_append_cons_of_forall_mem hw x hx, ih hrest last]

/-! ### The first cut -/

/-- What stands in front of the first such mark and what stands behind it. -/
def cut? (mark : Char) : List Char → Option (List Char × List Char)
  | [] => none
  | c :: cs =>
    if c = mark then some ([], cs) else (cut? mark cs).map fun (front, back) => (c :: front, back)

theorem cut?_eq_some_iff {mark : Char} {cs front back : List Char} :
    cut? mark cs = some (front, back) ↔ mark ∉ front ∧ cs = front ++ mark :: back := by
  induction cs generalizing front with
  | nil => simp [cut?]
  | cons c rest ih =>
    unfold cut?
    by_cases hc : c = mark
    · rw [if_pos hc, hc]
      cases front <;> simp +contextual [eq_comm]
    · rw [if_neg hc, Option.map_eq_some_iff]
      constructor
      · rintro ⟨⟨inner, _⟩, found, same⟩
        obtain ⟨rfl, rfl⟩ := Prod.ext_iff.1 same
        obtain ⟨notMem, rfl⟩ := ih.1 found
        exact ⟨by simp [notMem, Ne.symm hc], rfl⟩
      · rintro ⟨notMem, split⟩
        cases front with
        | nil => exact absurd (List.head_eq_of_cons_eq split) hc
        | cons d inner =>
          rw [List.cons_append, List.cons_eq_cons] at split
          obtain ⟨rfl, rfl⟩ := split
          exact ⟨(inner, back), ih.2 ⟨fun mem => notMem (List.mem_cons_of_mem c mem), rfl⟩, rfl⟩

/-! ### Lines -/

/-- The lines of a text: what stands before, between and behind its line feeds. -/
def lines (s : String) : List (List Char) := s.toList.splitOn '\n'

/-- No line has a line feed. -/
theorem lineFeed_notMem_of_mem_lines {s : String} {l : List Char} (h : l ∈ lines s) : '\n' ∉ l := by
  rw [lines, List.splitOn_eq_splitOnP] at h
  intro mem
  simpa using (of_mem_splitOnP h '\n' mem).2

/-- A text that can stand on a line. -/
def IsLine (s : String) : Prop := '\n' ∉ s.toList

instance (s : String) : Decidable (IsLine s) := inferInstanceAs (Decidable (¬ _))

@[simp] theorem isLine_append {s t : String} : IsLine (s ++ t) ↔ IsLine s ∧ IsLine t := by
  unfold IsLine
  rw [String.toList_append, List.mem_append, not_or]

/-- A text that can stand on a line is its only line. -/
theorem lines_of_isLine {s : String} (h : IsLine s) : lines s = [s.toList] := by
  rw [lines, List.splitOn_eq_splitOnP]
  refine List.splitOnP_eq_singleton fun c hc => ?_
  simpa using fun feed : c = '\n' => h (feed ▸ hc)

/-- A line feed ends a line. -/
theorem lines_append_lineFeed (s t : String) : lines (s ++ "\n" ++ t) = lines s ++ lines t := by
  have split : (s ++ "\n" ++ t).toList = s.toList ++ '\n' :: t.toList := by simp
  rw [lines, split, List.splitOn_eq_splitOnP, List.splitOnP_append_cons _ _ (by rfl), lines, lines,
    List.splitOn_eq_splitOnP, List.splitOn_eq_splitOnP]

/-- What can stand on a line goes on the first line of what is behind it. -/
theorem lines_append_of_isLine {s : String} (h : IsLine s) (t : String) :
    lines (s ++ t) = (lines t).modifyHead (s.toList ++ ·) := by
  unfold IsLine at h
  rw [lines, lines, String.toList_append, List.splitOn_eq_splitOnP, List.splitOn_eq_splitOnP]
  generalize s.toList = front at h
  induction front with
  | nil => exact (congrFun List.modifyHead_id _).symm
  | cons c cs ih =>
    obtain ⟨hc, hcs⟩ := not_or.1 (List.mem_cons.not.1 h)
    rw [List.cons_append, List.splitOnP_cons_eq_if_modifyHead, if_neg (by simpa using Ne.symm hc),
      ih hcs, List.modifyHead_modifyHead]
    rfl

theorem unlines_cons (l : String) (ls : List String) :
    unlines (l :: ls) = l ++ "\n" ++ unlines ls := by
  rw [unlines, List.map_cons, String.join_cons]
  rfl

theorem toList_unlines (ls : List String) :
    (unlines ls).toList = ls.flatMap fun l => l.toList ++ ['\n'] := by
  induction ls with
  | nil => rfl
  | cons l rest ih =>
    rw [unlines_cons, String.toList_append, String.toList_append, ih]
    rfl

/-- The lines of texts that were put on lines are theirs, and what is behind the last line feed. -/
theorem lines_unlines_eq (ls : List String) :
    lines (unlines ls) = ls.flatMap lines ++ [[]] := by
  induction ls with
  | nil => rfl
  | cons l rest ih =>
    rw [unlines_cons, lines_append_lineFeed, ih, List.flatMap_cons, List.append_assoc]

/-- The lines of a text that was made of lines are these, and what is behind the last line feed. -/
theorem lines_unlines {ls : List String} (h : ∀ l ∈ ls, IsLine l) :
    lines (unlines ls) = ls.map String.toList ++ [[]] := by
  rw [lines_unlines_eq, List.flatMap_congr fun l hl => lines_of_isLine (h l hl),
    ← List.map_eq_flatMap]

end SocAssembly.Text

/-- A numeral fits on a line. -/
theorem SocAssembly.isLine_toString (n : Nat) : Text.IsLine (toString n) := by
  intro mem
  exact absurd (Text.isDigit_of_mem_toString mem) (by decide)
