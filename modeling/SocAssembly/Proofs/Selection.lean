import Mathlib
import SocAssembly.Platform.Basic

/-!
# Which board a name selects

Adding a board drops those of the very same name, while looking one up takes the first that goes by
a name, be it by an alias or in another case. So a board that is added is found under its own name
unless one that was there before goes by this name too and is not replaced
(`Catalogue.select_extend`). There can be such a board: one whose name differs in case alone
(`Catalogue.select_extend_otherCase`), or one with the name for an alias.
-/

namespace SocAssembly

theorem Board.goesBy_name (b : Board) : b.goesBy b.name = true := by
  simp [goesBy, Text.sameButForCase]

namespace Catalogue

/-! ### Plain names -/

/-- All of the name counts: it has no colon, and no blanks around it. -/
structure IsPlain (name : String) : Prop where
  /-- There is no colon. -/
  colon_notMem : ':' ∉ name.toList
  /-- The first character is not blank. -/
  head_notBlank : ∀ c ∈ name.toList.head?, Text.isBlank c = false
  /-- The last character is not blank. -/
  last_notBlank : ∀ c ∈ name.toList.getLast?, Text.isBlank c = false

theorem dropWhile_of_head {α : Type} {p : α → Bool} {xs : List α}
    (h : ∀ x ∈ xs.head?, p x = false) : xs.dropWhile p = xs := by
  cases xs with
  | nil => rfl
  | cons x rest => exact List.dropWhile_cons_of_neg (by simp [h x rfl])

theorem plainName_of_isPlain {name : String} (h : IsPlain name) : plainName name = name := by
  have whole : name.toList.reverse.takeWhile (· ≠ ':') = name.toList.reverse := by
    refine List.takeWhile_eq_self_iff.2 fun c hc => ?_
    rw [decide_eq_true_eq]
    rintro rfl
    exact h.colon_notMem (List.mem_reverse.1 hc)
  have front : name.toList.dropWhile Text.isBlank = name.toList :=
    dropWhile_of_head h.head_notBlank
  have back : name.toList.reverse.dropWhile Text.isBlank = name.toList.reverse :=
    dropWhile_of_head fun c hc => h.last_notBlank c (by rwa [List.head?_reverse] at hc)
  unfold plainName Text.trim Text.trimEndOf
  rw [whole, List.reverse_reverse, String.toList_ofList, front, back, List.reverse_reverse,
    String.ofList_toList]

/-! ### Catalogues that are extended -/

theorem extend_append (c : Catalogue) (bs cs : List Board) :
    c.extend ⟨bs ++ cs⟩ = (c.extend ⟨bs⟩).extend ⟨cs⟩ := List.foldl_append

/-- Boards of new names come behind those that are not replaced. -/
theorem boards_extend (c : Catalogue) (bs : List Board) :
    (c.extend ⟨bs⟩).boards =
      c.boards.filter (fun b => b.name ∉ bs.map Board.name) ++ (extend ⟨[]⟩ ⟨bs⟩).boards := by
  induction bs generalizing c with
  | nil => simp [extend]
  | cons b rest ih =>
    have step : ∀ c : Catalogue, c.extend ⟨b :: rest⟩ = (c.put b).extend ⟨rest⟩ := fun _ => rfl
    rw [step, step, ih (c.put b), ih (put ⟨[]⟩ b), ← List.append_assoc]
    refine congrArg (· ++ _) ?_
    show (c.boards.filter (·.name ≠ b.name) ++ [b]).filter _ = _ ++ [b].filter _
    rw [List.filter_append, List.filter_filter]
    refine congrArg (· ++ _) (List.filter_congr fun q _ => ?_)
    rw [Bool.eq_iff_iff]
    simp [and_comm]

/-- What is put behind the boards of `c` replaces those of its names. -/
theorem exists_boards_extend (c : Catalogue) (before : List Board) {after : List Board} {p : Board}
    (last : p.name ∉ after.map Board.name) :
    ∃ later, (c.extend ⟨before ++ p :: after⟩).boards =
      (c.extend ⟨before⟩).boards.filter (fun b => b.name ∉ (p :: after).map Board.name) ++
        p :: later := by
  refine ⟨(extend ⟨[]⟩ ⟨after⟩).boards, ?_⟩
  have alone : (extend ⟨[]⟩ ⟨p :: after⟩).boards = p :: (extend ⟨[]⟩ ⟨after⟩).boards := by
    show (extend ⟨[p]⟩ ⟨after⟩).boards = _
    rw [boards_extend, List.filter_cons_of_pos (by simpa using last)]
    rfl
  rw [extend_append, boards_extend, alone]

/-! ### Selecting -/

/-- **A board is selected by its own name unless another one is in front.** The board `p`, the last
of its name among those that are put behind the boards of `c`, stands behind those that are not
replaced; so its own name selects it exactly if none of these goes by this name. -/
theorem select_extend (c : Catalogue) {before after : List Board} {p : Board}
    (last : p.name ∉ after.map Board.name) (plain : IsPlain p.name) :
    ∃ b, (c.extend ⟨before ++ p :: after⟩).select (some p.name) = .ok { board := b } ∧
      b.goesBy p.name = true ∧
      (b = p ↔ ∀ q ∈ (c.extend ⟨before⟩).boards, q.goesBy p.name = true →
        q.name ∈ (p :: after).map Board.name) := by
  obtain ⟨later, boards⟩ := exists_boards_extend c before last
  set ahead := (c.extend ⟨before⟩).boards.filter
    (fun b => b.name ∉ (p :: after).map Board.name) with hahead
  have find? : (c.extend ⟨before ++ p :: after⟩).find? p.name =
      ((ahead.find? (·.goesBy p.name)).or (some p)) := by
    rw [Catalogue.find?, plainName_of_isPlain plain, boards, List.find?_append,
      List.find?_cons, p.goesBy_name]
  have mem_ahead : ∀ q, q ∈ ahead ↔
      q ∈ (c.extend ⟨before⟩).boards ∧ q.name ∉ (p :: after).map Board.name := by
    intro q
    rw [hahead, List.mem_filter, decide_eq_true_eq]
  -- `p` goes by its own name, so what counts is whether one in front of it does
  cases found : ahead.find? (·.goesBy p.name) with
  | none =>
    rw [found, Option.none_or] at find?
    refine ⟨p, by simp only [select, find?], p.goesBy_name, iff_of_true rfl ?_⟩
    intro q hq goes
    by_contra kept
    exact List.find?_eq_none.1 found q ((mem_ahead q).2 ⟨hq, kept⟩) goes
  | some b =>
    rw [found, Option.some_or] at find?
    have goes : b.goesBy p.name = true :=
      List.find?_some (p := fun q : Board => q.goesBy p.name) found
    obtain ⟨hb, kept⟩ := (mem_ahead b).1 (List.mem_of_find?_eq_some found)
    refine ⟨b, by simp only [select, find?], goes, iff_of_false ?_ fun all => kept (all b hb goes)⟩
    rintro rfl
    exact kept (List.mem_cons_self ..)

/-- A board with a name and an FPGA and nothing else. -/
def bareBoard (name device : String) : Board where
  name := name
  device := device
  package := "BG256"
  defaultClock := "clk"
  clockFrequencies := ∅

theorem isPlain_bench : IsPlain "bench" where
  colon_notMem := by decide
  head_notBlank := by simp [Text.isBlank]
  last_notBlank := by simp [Text.isBlank]

/-- A board takes the place of the one of its name. -/
theorem select_extend_sameName :
    "bench" ∉ ([] : List Board).map Board.name ∧ IsPlain "bench" ∧
    ∃ b, (extend ⟨[bareBoard "bench" "LFE5U-12F"]⟩
        ⟨[] ++ bareBoard "bench" "LFE5U-25F" :: []⟩).select (some "bench") =
          .ok { board := b } ∧ b.goesBy "bench" = true ∧
      (b = bareBoard "bench" "LFE5U-25F" ↔
        ∀ q ∈ (extend ⟨[bareBoard "bench" "LFE5U-12F"]⟩ ⟨[]⟩).boards, q.goesBy "bench" = true →
          q.name ∈ [bareBoard "bench" "LFE5U-25F"].map Board.name) := by
  have last : "bench" ∉ ([] : List Board).map Board.name := by decide
  exact ⟨last, isPlain_bench, @select_extend ⟨[bareBoard "bench" "LFE5U-12F"]⟩ [] []
    (bareBoard "bench" "LFE5U-25F") last isPlain_bench⟩

/-- A board whose name differs in case alone is not replaced, and stays in front. -/
theorem select_extend_otherCase :
    ∃ (c other : Catalogue) (p : Board), other.boards = [p] ∧ p.name ≠ "" ∧ IsPlain p.name ∧
      ¬ ∃ q : Platform, (c.extend other).select (some p.name) = .ok q ∧ q.board = p := by
  refine ⟨⟨[bareBoard "Bench" "LFE5U-12F"]⟩, ⟨[bareBoard "bench" "LFE5U-25F"]⟩,
    bareBoard "bench" "LFE5U-25F", rfl, by decide, isPlain_bench, ?_⟩
  rintro ⟨q, selected, same⟩
  have first : (extend ⟨[bareBoard "Bench" "LFE5U-12F"]⟩
      ⟨[bareBoard "bench" "LFE5U-25F"]⟩).select (some "bench") =
        .ok { board := bareBoard "Bench" "LFE5U-12F" } := by cbv
  have differs := first.symm.trans selected
  rw [Except.ok.injEq] at differs
  rw [← differs] at same
  exact absurd (congrArg Board.name same) (by decide)

end Catalogue

end SocAssembly
