import Mathlib
import SocAssembly.Design.Listing
import SocAssembly.Proofs.BusWords
import SocAssembly.Proofs.FirmwareRegions
import SocAssembly.Proofs.TextWords

/-!
# Reading a map back

## The model

What the map tells of an entry is a row (`MapRow`). A row has four words, and behind them one for
the parent and two for the interrupt, if it has them (`MapRow.words`); it is read from its words
(`MapRow.ofWords?`), and a map is read line by line (`MapRow.readMap`).

The columns of what is missing are blank or trimmed, so the words of a line do not tell their
columns: that two words are the mark and the number of an interrupt, and not a parent and something
else, is seen from how many words there are (`MapRow.restOfWords?`). Names that look like a mark, a
kind or a number do no harm therefore (`MapRow.words_inj`), and the map of a finished design can be
read back as long as each name is one word (`Soc.isListed_of_finalize`).
-/

namespace SocAssembly

/-! ### Rows and their words -/

/-- What the map tells of an entry. -/
structure MapRow where
  /-- Its first address. -/
  base : Nat
  /-- The bytes of its storage or its registers. -/
  size : Nat
  /-- Its name. -/
  name : String
  /-- It is a memory. -/
  isMemory : Bool
  /-- The entry that it is attached to. -/
  parent : Option String
  /-- The number of its interrupt. -/
  irq : Option Nat
  deriving DecidableEq, Repr

namespace MapRow

/-- The text for storage or registers. -/
def category (isMemory : Bool) : String := if isMemory then "memory" else "csr"

/-- The words for the interrupt, the mark and the number. -/
def irqWords (irq : Option Nat) : List (List Char) :=
  (irq.map fun n => ["irq".toList, (toString n).toList]).getD []

/-- The words for the parent and the interrupt. -/
def restWords (parent : Option String) (irq : Option Nat) : List (List Char) :=
  (parent.map String.toList).toList ++ irqWords irq

/-- The words of a row. -/
def words (r : MapRow) : List (List Char) :=
  (Text.address r.base).toList :: (Text.address r.size).toList :: r.name.toList ::
    (category r.isMemory).toList :: restWords r.parent r.irq

/-- The number behind the mark of an address. -/
def addressOfWord? : List Char → Option Nat
  | '0' :: 'x' :: digits => Text.hexNumber? digits
  | _ => none

/-- Whether the word is the one for storage or the one for registers. -/
def kindOfWord? (w : List Char) : Option Bool :=
  [true, false].find? fun isMemory => w = (category isMemory).toList

/-- The number of an interrupt, behind its mark. -/
def irqOfWords? (mark number : List Char) : Option Nat :=
  if mark = "irq".toList then Text.readDigits number else none

/-- The parent and the interrupt. How many words there are says which of the two are there. -/
def restOfWords? : List (List Char) → Option (Option String × Option Nat)
  | [] => some (none, none)
  | [parent] => some (some (String.ofList parent), none)
  | [mark, number] => (irqOfWords? mark number).map fun n => (none, some n)
  | [parent, mark, number] =>
    (irqOfWords? mark number).map fun n => (some (String.ofList parent), some n)
  | _ => none

/-- The row that has these words. -/
def ofWords? : List (List Char) → Option MapRow
  | base :: size :: name :: kind :: rest => do
    let base ← addressOfWord? base
    let size ← addressOfWord? size
    let isMemory ← kindOfWord? kind
    let (parent, irq) ← restOfWords? rest
    pure ⟨base, size, String.ofList name, isMemory, parent, irq⟩
  | _ => none

theorem addressOfWord?_address (n : Nat) : addressOfWord? (Text.address n).toList = some n := by
  rw [Text.toList_address]
  exact Text.hexNumber?_addressDigits n

theorem kindOfWord?_category (isMemory : Bool) :
    kindOfWord? (category isMemory).toList = some isMemory := by
  cases isMemory <;> decide

theorem irqOfWords?_toString (n : Nat) :
    irqOfWords? "irq".toList (toString n).toList = some n := by
  unfold irqOfWords?
  rw [if_pos rfl, Text.readDigits_toString]

theorem restOfWords?_restWords (parent : Option String) (irq : Option Nat) :
    restOfWords? (restWords parent irq) = some (parent, irq) := by
  cases parent with
  | none =>
    cases irq with
    | none => rfl
    | some n =>
      have words : restWords none (some n) = ["irq".toList, (toString n).toList] := rfl
      rw [words, restOfWords?, irqOfWords?_toString, Option.map_some]
  | some name =>
    cases irq with
    | none =>
      have words : restWords (some name) none = [name.toList] := rfl
      rw [words, restOfWords?, String.ofList_toList]
    | some n =>
      have words : restWords (some name) (some n) =
          [name.toList, "irq".toList, (toString n).toList] := rfl
      rw [words, restOfWords?, irqOfWords?_toString, Option.map_some, String.ofList_toList]

/-- Every row is found in its words, whatever its names are. -/
theorem ofWords?_words (r : MapRow) : ofWords? r.words = some r := by
  unfold ofWords? words
  simp only [addressOfWord?_address, kindOfWord?_category, restOfWords?_restWords,
    String.ofList_toList, Option.bind_eq_bind, Option.bind_some]
  rfl

/-- Rows with the same words are the same. -/
theorem words_inj {r r' : MapRow} : r.words = r'.words ↔ r = r' := by
  refine ⟨fun same => ?_, congrArg words⟩
  have read := congrArg ofWords? same
  rwa [ofWords?_words, ofWords?_words, Option.some.injEq] at read

example : ofWords? (Text.wordsOf "0xf0000100 0x0000002c irq csr csr irq 7".toList) =
    some ⟨0xf0000100, 44, "irq", false, some "csr", some 7⟩ := by decide +kernel

/-! ### Rows and their lines -/

/-- The text of an interrupt, which is empty if there is none. -/
def irqText (irq : Option Nat) : String := (irq.map fun n => "irq " ++ toString n).getD ""

/-- The columns of a row. -/
def columns (r : MapRow) : List String :=
  [Text.address r.base, Text.address r.size, Text.padRight 20 r.name,
    Text.padRight 8 (category r.isMemory), Text.padRight 8 (r.parent.getD ""), irqText r.irq]

/-- The line of a row. -/
def line (r : MapRow) : String := Text.trimEnd (" ".intercalate r.columns)

/-- The names of the row are one word each. -/
structure HasWordNames (r : MapRow) : Prop where
  /-- The name of the entry. -/
  name : Text.IsWord r.name.toList
  /-- The name of its parent, if it has one. -/
  parent : ∀ p ∈ r.parent, Text.IsWord p.toList

theorem isWord_category (isMemory : Bool) : Text.IsWord (category isMemory).toList := by
  cases isMemory <;> decide

theorem wordsOf_parent {parent : Option String} (h : ∀ p ∈ parent, Text.IsWord p.toList) :
    Text.wordsOf (parent.getD "").toList = (parent.map String.toList).toList := by
  cases parent with
  | none => exact Text.wordsOf_nil
  | some p => exact (h p rfl).wordsOf_eq

theorem wordsOf_irqText (irq : Option Nat) :
    Text.wordsOf (irqText irq).toList = irqWords irq := by
  cases irq with
  | none => exact Text.wordsOf_nil
  | some n =>
    have mark : Text.IsWord "irq".toList := by decide
    have split : (irqText (some n)).toList = "irq".toList ++ ' ' :: (toString n).toList := by
      rw [irqText, Option.map_some, Option.getD_some, String.toList_append]
      rfl
    rw [split, Text.wordsOf_append_cons (by rfl), mark.wordsOf_eq,
      (Text.isWord_toString n).wordsOf_eq]
    rfl

namespace HasWordNames

variable {r : MapRow}

/-- A line has the words of its row, because what is missing leaves blanks only. -/
theorem wordsOf_line (h : r.HasWordNames) : Text.wordsOf r.line.toList = r.words := by
  rw [line, Text.wordsOf_trimEnd, String.toList_intercalate]
  refine (Text.wordsOf_intercalate (by rfl : Text.isBlank ' ' = true) _).trans ?_
  simp only [columns, List.map_cons, List.map_nil, List.flatMap_cons, List.flatMap_nil,
    Text.wordsOf_padRight, (Text.isWord_address _).wordsOf_eq, h.name.wordsOf_eq,
    (isWord_category _).wordsOf_eq, wordsOf_parent h.parent, wordsOf_irqText]
  rw [List.append_nil]
  rfl

/-- The line of a row is one line. -/
theorem isLine_line (h : r.HasWordNames) : Text.IsLine r.line := by
  have parent : Text.IsLine (r.parent.getD "") := by
    cases hparent : r.parent with
    | none => decide
    | some p => exact (h.parent p hparent).isLine
  have irq : Text.IsLine (irqText r.irq) := by
    cases r.irq with
    | none => decide
    | some n => exact Text.isLine_append.2 ⟨by decide, isLine_toString n⟩
  unfold line
  refine Text.isLine_trimEnd (Text.isLine_intercalate (by decide) ?_)
  simp only [columns, List.forall_mem_cons, (Text.isWord_address _).isLine, irq, true_and]
  exact ⟨Text.isLine_padRight h.name.isLine 20, Text.isLine_padRight (isWord_category _).isLine 8,
    Text.isLine_padRight parent 8, fun _ mem => absurd mem List.not_mem_nil⟩

end HasWordNames

/-- The rows of a map, as far as its lines can be read: each line is cut at its blanks. -/
def readMap (text : String) : List (Option MapRow) :=
  (Text.lines text).dropLast.map fun line => ofWords? (Text.wordsOf line)

end MapRow

/-! ### The map of a design -/

/-- What the map has to tell of an entry. -/
def Entry.mapRow (e : Entry) : MapRow := ⟨e.base, e.size, e.name, e.isMemory, e.parent, e.irq⟩

theorem Entry.mapLine_eq (e : Entry) : e.mapLine = e.mapRow.line := rfl

namespace Design

variable {d : Design}

/-- What the map has to tell of a design. -/
def mapRows (d : Design) : List MapRow := d.entries.map Entry.mapRow

/-- The map is made of the rows. -/
theorem mapText_eq (d : Design) :
    d.mapText = "\n".intercalate (d.mapRows.map MapRow.line) ++ "\n" := by
  rw [mapText, mapRows, List.map_map]
  rfl

/-- There is a line for each entry if there is an entry. -/
theorem lines_mapText (names : ∀ r ∈ d.mapRows, r.HasWordNames) (notEmpty : d.entries ≠ []) :
    Text.lines d.mapText = d.mapRows.map (·.line.toList) ++ [[]] := by
  have lined : ∀ l ∈ d.mapRows.map (·.line.toList), ∀ c ∈ l, (c == '\n') = false := by
    rw [List.forall_mem_map]
    intro r hr c hc
    exact beq_false_of_ne fun feed => (names r hr).isLine_line (feed ▸ hc)
  have ended := Text.lines_append_lineFeed ("\n".intercalate (d.mapRows.map MapRow.line)) ""
  rw [String.append_empty] at ended
  rw [mapText_eq, ended, Text.lines, String.toList_intercalate, List.map_map,
    List.splitOn_eq_splitOnP]
  refine congrArg (· ++ [[]]) (Text.splitOnP_intercalate (by rfl) lined ?_)
  rwa [Ne, List.map_eq_nil_iff, mapRows, List.map_eq_nil_iff]

/-- Reading the map of a design gives its rows. -/
theorem readMap_mapText (names : ∀ r ∈ d.mapRows, r.HasWordNames) (notEmpty : d.entries ≠ []) :
    MapRow.readMap d.mapText = d.mapRows.map some := by
  unfold MapRow.readMap
  rw [lines_mapText names notEmpty, List.dropLast_concat, List.map_map]
  refine List.map_congr_left fun r hr => ?_
  rw [Function.comp_apply, (names r hr).wordsOf_line, MapRow.ofWords?_words]

/-- The names of all entries are one word each. -/
def HasWordNames (d : Design) : Prop := ∀ e ∈ d.entries, Text.IsWord e.name.toList

instance (d : Design) : Decidable d.HasWordNames := List.decidableBAll _ _

end Design

/-- What a reader of the map of a finished design finds in it. -/
structure Soc.IsListed (s : Soc) (d : Design) : Prop where
  /-- The memories come first, and then the peripherals, each in the order of addition. -/
  order : d.mapRows.map (fun r => (r.name, r.isMemory)) =
    s.memories.map (·.name, true) ++ s.peripherals.map (·.name, false)
  /-- There is a line for each entry, and nothing is behind the last line feed. -/
  lines : Text.lines d.mapText = d.entries.map (·.mapLine.toList) ++ [[]]
  /-- The words of a line are those of the row of its entry, and those of no other row. -/
  words : ∀ e ∈ d.entries, ∀ r : MapRow, Text.wordsOf e.mapLine.toList = r.words ↔ r = e.mapRow
  /-- Reading the map gives the rows. -/
  rows : MapRow.readMap d.mapText = d.mapRows.map some
  /-- Another finished design has the same map exactly if its rows are the same. -/
  agree : ∀ (s' : Soc) (p' : Platform) (d' : Design), (s'.finalize p').outcome = .ok d' →
    d'.HasWordNames → (d'.mapText = d.mapText ↔
      d'.memories.map Entry.mapRow = d.memories.map Entry.mapRow ∧
        d'.peripherals.map Entry.mapRow = d.peripherals.map Entry.mapRow)

namespace Soc

variable {s : Soc} {p : Platform} {a : Allocation} {d : Design}

namespace Finalized

theorem map_memories (h : s.Finalized p a d) :
    d.memories.map (fun e => (e.name, e.isMemory)) = s.memories.map (·.name, true) := by
  refine (map_eq_of_forall₂ ?_ h.memories).symm
  rintro m e ⟨w, -, rfl⟩
  rfl

theorem map_peripherals (h : s.Finalized p a d) :
    d.peripherals.map (fun e => (e.name, e.isMemory)) = s.peripherals.map (·.name, false) := by
  have shown : (numbered 0 s.peripherals).map (fun q => (q.1.name, false)) =
      d.peripherals.map fun e => (e.name, e.isMemory) := by
    refine map_eq_of_forall₂ ?_ h.peripherals
    rintro q e ⟨w, -, rfl⟩
    rfl
  have numbered := congrArg (List.map (·.name, false)) (map_fst_numbered 0 s.peripherals)
  rw [List.map_map] at numbered
  exact shown.symm.trans numbered

/-- Whether an entry is a memory tells on which of the two lists it stands. -/
theorem filter_mapRows (h : s.Finalized p a d) :
    d.mapRows.filter (·.isMemory) = d.memories.map Entry.mapRow := by
  have memories : ∀ r ∈ d.memories.map Entry.mapRow, r.isMemory = true := by
    rw [List.forall_mem_map]
    intro e he
    obtain ⟨m, -, w, -, rfl⟩ := h.exists_memory he
    rfl
  have peripherals : ∀ r ∈ d.peripherals.map Entry.mapRow, ¬ r.isMemory = true := by
    rw [List.forall_mem_map]
    intro e he
    obtain ⟨q, -, irq, w, -, rfl⟩ := h.exists_peripheral he
    exact Bool.false_ne_true
  rw [Design.mapRows, Design.entries, List.map_append, List.filter_append,
    List.filter_eq_self.2 memories, List.filter_eq_nil_iff.2 peripherals, List.append_nil]

/-- Designs have the same rows exactly if they have the same rows of memories and of peripherals. -/
theorem mapRows_eq_iff {s' : Soc} {p' : Platform} {a' : Allocation} {d' : Design}
    (h : s.Finalized p a d) (h' : s'.Finalized p' a' d') : d'.mapRows = d.mapRows ↔
      d'.memories.map Entry.mapRow = d.memories.map Entry.mapRow ∧
        d'.peripherals.map Entry.mapRow = d.peripherals.map Entry.mapRow := by
  have split (c : Design) : c.mapRows =
      c.memories.map Entry.mapRow ++ c.peripherals.map Entry.mapRow := List.map_append
  constructor
  · intro same
    have memories := congrArg (List.filter (·.isMemory)) same
    rw [h'.filter_mapRows, h.filter_mapRows] at memories
    rw [split, split, memories] at same
    exact ⟨memories, List.append_cancel_left same⟩
  · rintro ⟨memories, peripherals⟩
    rw [split, split, memories, peripherals]

/-- Names of entries are all names in a map. -/
theorem hasWordNames (h : s.Finalized p a d) (names : d.HasWordNames) :
    ∀ r ∈ d.mapRows, r.HasWordNames := by
  unfold Design.mapRows
  rw [List.forall_mem_map]
  intro e he
  refine ⟨names e he, fun parent hparent => ?_⟩
  rcases List.mem_append.1 he with he | he
  · -- a memory is shown without what it is attached to
    obtain ⟨m, -, w, -, rfl⟩ := h.exists_memory he
    cases hparent
  · obtain ⟨host, hhost, rfl⟩ := List.mem_map.1 (h.parent_mem_names he hparent)
    exact names host hhost

theorem entries_ne_nil (h : s.Finalized p a d) : d.entries ≠ [] := by
  obtain ⟨e, he, -⟩ := h.exists_nonempty_memory
  exact List.ne_nil_of_mem (List.mem_append_left _ he)

end Finalized

/-- **A map can be read back.** If the name of each entry of a finished design is one word, its map
has a line for each entry, memories first, and the words of a line are those of one row only,
whatever the names look like. So two such designs have the same map only if they agree on all that
it tells. -/
theorem isListed_of_finalize (h : (s.finalize p).outcome = .ok d) (names : d.HasWordNames) :
    s.IsListed d := by
  obtain ⟨a, finalized⟩ := finalize_eq_ok_iff.1 h
  have wordNames := finalized.hasWordNames names
  have rows := Design.readMap_mapText wordNames finalized.entries_ne_nil
  refine
    { order := ?order
      lines := ?lines
      words := fun e he r => ?words
      rows := rows
      agree := fun s' p' d' h' names' => ?agree }
  case order =>
    rw [Design.mapRows, List.map_map, Design.entries, List.map_append, ← finalized.map_memories,
      ← finalized.map_peripherals]
    rfl
  case lines =>
    rw [Design.lines_mapText wordNames finalized.entries_ne_nil, Design.mapRows, List.map_map]
    rfl
  case words =>
    have own : e.mapRow ∈ d.mapRows := List.mem_map_of_mem he
    rw [e.mapLine_eq, (wordNames _ own).wordsOf_line, MapRow.words_inj, eq_comm]
  case agree =>
    obtain ⟨a', finalized'⟩ := finalize_eq_ok_iff.1 h'
    have rows' := Design.readMap_mapText (finalized'.hasWordNames names') finalized'.entries_ne_nil
    rw [← finalized.mapRows_eq_iff finalized']
    constructor
    · intro same
      rw [same, rows] at rows'
      exact List.map_injective_iff.2 (Option.some_injective _) rows'.symm
    · intro same
      rw [Design.mapText_eq, Design.mapText_eq, same]

/-- A system whose names look like other words of the map. -/
def namesakeSoc : Soc where
  name := "namesake"
  cpu := { name := "vexriscv", variant := "imac" }
  parts := [
    ⟨.memory ⟨"csr", .ram, 0x8000, "Firmware memory"⟩, .fixed 0, by decide⟩,
    ⟨.peripheral (.inFifo "7"), .attached "irq", by decide⟩,
    ⟨.peripheral (.usbDeviceController "irq"), .auto, by decide⟩,
    ⟨.peripheral
      { name := "0x7"
        kind := .gpio
        description := "Status"
        registers := [.ofName "level" .readOnly 1 "What the lamp shows"] },
      .attached "irq", by decide⟩]
  names_nodup := by decide

/-- What the map has to tell of that system. -/
def namesakeRows : List MapRow :=
  [⟨0, 0x8000, "csr", true, none, none⟩,
    ⟨0xf0000100, 44, "7", false, some "irq", some 0⟩,
    ⟨0xf0000000, 28, "irq", false, none, some 1⟩,
    ⟨0xf0000200, 4, "0x7", false, some "irq", none⟩]

theorem isListed_namesakeSoc : ∃ d, (namesakeSoc.finalize benchPlatform).outcome = .ok d ∧
    d.HasWordNames ∧ d.mapRows = namesakeRows ∧ namesakeSoc.IsListed d := by
  have allocated : namesakeSoc.addressMap.allocate.outcome = .ok ⟨[
      ("csr", ⟨0, 0x8000, 0x8000, none⟩),
      ("7", ⟨0xf0000100, 0x100, 0x100, some "irq"⟩),
      ("irq", ⟨0xf0000000, 0x100, 0x1000, none⟩),
      ("0x7", ⟨0xf0000200, 0x100, 0x100, some "irq"⟩)]⟩ := by cbv
  have finished : ∃ d, (namesakeSoc.finalize benchPlatform).outcome = .ok d ∧
      d.HasWordNames ∧ d.mapRows = namesakeRows := by
    unfold finalize
    rw [Report.outcome_bind, allocated]
    exact ⟨_, rfl, by decide, by decide⟩
  obtain ⟨d, hd, names, rows⟩ := finished
  exact ⟨d, hd, names, rows, isListed_of_finalize hd names⟩

end Soc

end SocAssembly
