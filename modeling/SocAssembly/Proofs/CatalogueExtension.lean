import Mathlib
import SocAssembly.Proofs.Selection

/-!
# Catalogues that are extended

Boards are put into a catalogue one after the other, and each drops those of its name that are there
by then, be they old ones or ones that were put just before it. What is left in the end can be told
at once: the old boards whose names do not occur among the new ones, and behind them the new boards
that have no namesake behind them (`Catalogue.lastOfEach`), all in the order in which they stood
(`Catalogue.boards_extend_eq`). So nothing changes when the same boards are put again, and names
that were different before are different afterwards (`Catalogue.extended`).
-/

namespace SocAssembly

namespace Catalogue

/-! ### The last board of each name -/

/-- The boards without a namesake behind them, in their order. -/
def lastOfEach : List Board → List Board
  | [] => []
  | b :: rest => if b.name ∈ rest.map Board.name then lastOfEach rest else b :: lastOfEach rest

variable {b : Board} {bs rest : List Board}

theorem lastOfEach_cons_of_mem (h : b.name ∈ rest.map Board.name) :
    lastOfEach (b :: rest) = lastOfEach rest := if_pos h

theorem lastOfEach_cons_of_notMem (h : b.name ∉ rest.map Board.name) :
    lastOfEach (b :: rest) = b :: lastOfEach rest := if_neg h

theorem lastOfEach_sublist (bs : List Board) : (lastOfEach bs).Sublist bs := by
  induction bs with
  | nil => exact .slnil
  | cons b rest ih =>
    by_cases h : b.name ∈ rest.map Board.name
    · rw [lastOfEach_cons_of_mem h]
      exact ih.cons b
    · rw [lastOfEach_cons_of_notMem h]
      exact ih.cons_cons b

/-- Every name has a last board. -/
theorem mem_names_lastOfEach_iff {name : String} :
    name ∈ (lastOfEach bs).map Board.name ↔ name ∈ bs.map Board.name := by
  induction bs with
  | nil => rfl
  | cons b rest ih =>
    by_cases h : b.name ∈ rest.map Board.name
    · rw [lastOfEach_cons_of_mem h, ih, List.map_cons, List.mem_cons]
      exact (or_iff_right_of_imp fun same => same ▸ h).symm
    · rw [lastOfEach_cons_of_notMem h, List.map_cons, List.map_cons, List.mem_cons, List.mem_cons,
        ih]

/-- And only one. -/
theorem nodup_names_lastOfEach (bs : List Board) : ((lastOfEach bs).map Board.name).Nodup := by
  induction bs with
  | nil => exact .nil
  | cons b rest ih =>
    by_cases h : b.name ∈ rest.map Board.name
    · rwa [lastOfEach_cons_of_mem h]
    · rw [lastOfEach_cons_of_notMem h, List.map_cons, List.nodup_cons, mem_names_lastOfEach_iff]
      exact ⟨h, ih⟩

/-! ### What an extended catalogue holds -/

/-- The boards of a catalogue that are not replaced by those of another. -/
def kept (c other : Catalogue) : List Board :=
  c.boards.filter fun b => b.name ∉ other.boards.map Board.name

theorem mem_kept_iff {c other : Catalogue} :
    b ∈ c.kept other ↔ b ∈ c.boards ∧ b.name ∉ other.boards.map Board.name := by
  rw [kept, List.mem_filter, decide_eq_true_eq]

/-- Put into an empty catalogue, boards evict each other, up to the last of each name. -/
theorem boards_extend_empty (bs : List Board) : (extend ⟨[]⟩ ⟨bs⟩).boards = lastOfEach bs := by
  induction bs with
  | nil => rfl
  | cons b rest ih =>
    have first : extend ⟨[]⟩ ⟨b :: rest⟩ = extend ⟨[b]⟩ ⟨rest⟩ := rfl
    rw [first, boards_extend, ih]
    by_cases h : b.name ∈ rest.map Board.name
    · rw [lastOfEach_cons_of_mem h, List.filter_cons_of_neg (by simpa using h)]
      rfl
    · rw [lastOfEach_cons_of_notMem h, List.filter_cons_of_pos (by simpa using h)]
      rfl

theorem boards_extend_eq (c other : Catalogue) :
    (c.extend other).boards = c.kept other ++ lastOfEach other.boards := by
  obtain ⟨bs⟩ := other
  rw [boards_extend, boards_extend_empty]
  rfl

/-- Of an extended catalogue the boards that were not replaced are not replaced again. -/
theorem kept_extend (c other : Catalogue) : (c.extend other).kept other = c.kept other := by
  have replaced : (lastOfEach other.boards).filter
      (fun b => b.name ∉ other.boards.map Board.name) = [] := by
    refine List.filter_eq_nil_iff.2 fun b hb => ?_
    have mem : b.name ∈ other.boards.map Board.name :=
      List.mem_map_of_mem ((lastOfEach_sublist _).subset hb)
    simpa using mem
  rw [kept, boards_extend_eq, List.filter_append, replaced, List.append_nil]
  exact List.filter_eq_self.2 fun b hb => decide_eq_true (mem_kept_iff.1 hb).2

/-- The names are different exactly if those that are not replaced are. -/
theorem nodup_names_extend_iff (c other : Catalogue) :
    ((c.extend other).boards.map Board.name).Nodup ↔ ((c.kept other).map Board.name).Nodup := by
  rw [boards_extend_eq, List.map_append, List.nodup_append]
  refine ⟨fun h => h.1, fun h => ⟨h, nodup_names_lastOfEach _, ?_⟩⟩
  intro name hkept name' hlast same
  obtain ⟨b, hb, rfl⟩ := List.mem_map.1 hkept
  exact (mem_kept_iff.1 hb).2 (same ▸ mem_names_lastOfEach_iff.1 hlast)

/-- What comes of a catalogue that is extended with another. -/
structure Extended (c other result : Catalogue) : Prop where
  /-- The old boards whose names do not occur among the new ones come first, and then the last new
  board of each name. -/
  boards_eq : result.boards =
    c.boards.filter (fun b => b.name ∉ other.boards.map Board.name) ++ lastOfEach other.boards
  /-- It is not changed by extending it with the same catalogue again. -/
  extend_eq : result.extend other = result
  /-- Names that were different are different. -/
  nodup : (c.boards.map Board.name).Nodup → (result.boards.map Board.name).Nodup

/-- **Extending a catalogue.** Whatever names are repeated in either catalogue: the boards that are
not replaced stay in their order, and behind them come the last new ones of each name in the order
of these. So extending twice is extending once, and no name is repeated that was not. -/
theorem extended (c other : Catalogue) : Extended c other (c.extend other) := by
  refine ⟨boards_extend_eq c other, ?_, fun nodup => ?_⟩
  · have boards : ((c.extend other).extend other).boards = (c.extend other).boards := by
      rw [boards_extend_eq, kept_extend, boards_extend_eq]
    exact congrArg Catalogue.mk boards
  · rw [nodup_names_extend_iff]
    exact nodup.sublist (List.filter_sublist.map Board.name)

/-- Of two new boards of one name the last one counts, and it takes the place of an old one. -/
example : ((extend ⟨[bareBoard "bench" "LFE5U-12F", bareBoard "rack" "LFE5U-12F"]⟩
    ⟨[bareBoard "bench" "LFE5U-25F", bareBoard "shelf" "LFE5U-25F",
      bareBoard "bench" "LFE5U-45F"]⟩).boards.map fun b => (b.name, b.device)) =
    [("rack", "LFE5U-12F"), ("shelf", "LFE5U-25F"), ("bench", "LFE5U-45F")] := by decide

end Catalogue

end SocAssembly
