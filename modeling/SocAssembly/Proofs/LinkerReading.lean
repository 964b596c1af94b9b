import Mathlib
import SocAssembly.Artifact.LinkerScript
import SocAssembly.Proofs.FirmwareRegions
import SocAssembly.Proofs.HeaderReading
import SocAssembly.Proofs.TextWords

/-!
# Reading linker scripts back

## The model

A reader of a linker script finds the memories in the block between the line that opens it and the
first brace (`Linker.block`), one on each line: the name up to the first blank, the letters in
brackets, and two numbers in base sixteen (`MemoryRegion.read?`). Of the other lines it looks at
those that begin like a region alias and those that provide a symbol, and each of these has to be
readable in full (`Linker.readAlias?`, `Linker.readStackTop?`).

Names of regions are made by the same function wherever they stand, so a name that an alias or the
expression for the stack refers to is one of the block. Which memory that is was decided when the
design was finished: the memory that backs the section (`Soc.Backs`). It is a memory of the system,
and every memory of the system has its line, so nothing in either file refers to a memory that is
not declared (`Soc.linksFirmware`).
-/

namespace SocAssembly

/-! ### Reading -/

/-- The memory that a line of the block declares. -/
def MemoryRegion.read? (line : List Char) : Option MemoryRegion := do
  let cs ← line.dropPrefix? "    ".toList
  let (name, cs) ← Text.cut? ' ' cs
  let cs ← cs.dropPrefix? ['(']
  let (letters, cs) ← Text.cut? ')' cs
  let cs ← cs.dropPrefix? " : ORIGIN = 0x".toList
  let (origin, cs) ← Text.cut? ',' cs
  let length ← cs.dropPrefix? " LENGTH = 0x".toList
  some
    { name := String.ofList name
      attributes := String.ofList letters
      origin := ← Text.hexNumber? origin
      length := ← Text.hexNumber? length }

namespace Linker

/-- The line that opens the block of memories. -/
def opening : List Char := "MEMORY \x7b".toList

/-- The line that closes the block. -/
def closing : List Char := "\x7d".toList

/-- The lines of the block of memories. -/
def block (script : String) : List (List Char) :=
  (((Text.lines script).dropWhile (· ≠ opening)).drop 1).takeWhile (· ≠ closing)

/-- The names of the regions that the block declares, one for each of its lines; nothing for a line
that cannot be read. -/
def declaredNames (script : String) : List (Option String) :=
  (block script).map fun l => (MemoryRegion.read? l).map (·.name)

/-- The lines of a script that begin in this way. -/
def linesFrom (keyword : String) (script : String) : List (List Char) :=
  (Text.lines script).filter fun l => keyword.toList.isPrefixOf l

/-- The name that a line makes for a region, and the region. -/
def readAlias? (line : List Char) : Option (String × String) := do
  let cs ← line.dropPrefix? "REGION_ALIAS(\"".toList
  let (name, cs) ← Text.cut? '"' cs
  let cs ← cs.dropPrefix? ", ".toList
  let region ← cs.dropSuffix? ");".toList
  some (String.ofList name, String.ofList region)

/-- The region that the stack begins at the end of. The line names it twice: for its first address
and for its length. -/
def readStackTop? (line : List Char) : Option (String × String) := do
  let cs ← line.dropPrefix? "PROVIDE(__stack_top = ORIGIN(".toList
  let (origin, cs) ← Text.cut? ' ' cs
  let origin ← origin.dropSuffix? [')']
  let cs ← cs.dropPrefix? "+ LENGTH(".toList
  let length ← cs.dropSuffix? "));".toList
  some (String.ofList origin, String.ofList length)

end Linker

/-- The letters for what may be done with a memory of the kind. -/
def MemoryKind.letters : MemoryKind → String
  | rom => "rx"
  | ram => "rwx"

theorem Memory.letters_capabilities (m : Memory) : m.capabilities.letters = m.kind.letters := by
  unfold Memory.capabilities
  cases m.kind <;> rfl

/-! ### Lines -/

theorem blank_notMem_regionName (memory : String) : ' ' ∉ (regionName memory).toList :=
  Text.IsMark.notMem_identifier (by decide) (by decide) .regionName memory

theorem isLine_regionName (memory : String) : Text.IsLine (regionName memory) :=
  Text.IsMark.notMem_identifier (by decide) (by decide) .regionName memory

namespace MemoryRegion

variable {r : MemoryRegion}

theorem line_eq (r : MemoryRegion) : r.line = "    " ++ r.name ++ " (" ++ r.attributes ++
    ") : ORIGIN = " ++ Text.address r.origin ++ ", " ++ ("LENGTH = " ++ Text.address r.length) :=
  rfl

theorem toList_line (r : MemoryRegion) : r.line.toList = "    ".toList ++ (r.name.toList ++ ' ' ::
    (['('] ++ (r.attributes.toList ++ ')' :: (" : ORIGIN = 0x".toList ++
      (Text.addressDigits r.origin ++ ',' :: (" LENGTH = 0x".toList ++
        Text.addressDigits r.length)))))) := by
  rw [line_eq]
  simp only [String.toList_append, Text.toList_address, List.append_assoc]
  rfl

/-- A line that declares a memory is read as this memory. -/
theorem read?_line (name : ' ' ∉ r.name.toList) (letters : ')' ∉ r.attributes.toList) :
    read? r.line.toList = some r := by
  have comma := Text.notMem_addressDigits (c := ',') (by decide) r.origin
  have cutName := fun cs => Text.cut?_eq_some_iff.2 ⟨name, (rfl : r.name.toList ++ ' ' :: cs = _)⟩
  have cutLetters := fun cs =>
    Text.cut?_eq_some_iff.2 ⟨letters, (rfl : r.attributes.toList ++ ')' :: cs = _)⟩
  have cutOrigin := fun cs =>
    Text.cut?_eq_some_iff.2 ⟨comma, (rfl : Text.addressDigits r.origin ++ ',' :: cs = _)⟩
  unfold read?
  rw [toList_line]
  simp only [dropPrefix?_append, cutName, cutLetters, cutOrigin, Text.hexNumber?_addressDigits,
    Option.bind_eq_bind, Option.bind_some, String.ofList_toList]

theorem isLine_line (name : Text.IsLine r.name) (letters : Text.IsLine r.attributes) :
    Text.IsLine r.line := by
  rw [line_eq]
  simp only [Text.isLine_append, name, letters, (Text.isWord_address _).isLine, and_true]
  decide

end MemoryRegion

namespace Design

theorem aliasLine_eq (a : String × String) :
    aliasLine a = "REGION_ALIAS(\"" ++ a.1 ++ "\", " ++ regionName a.2 ++ ");" := rfl

theorem toList_aliasLine (a : String × String) : (aliasLine a).toList =
    "REGION_ALIAS(\"".toList ++ (a.1.toList ++ '"' ::
      (", ".toList ++ ((regionName a.2).toList ++ ");".toList))) := by
  rw [aliasLine_eq]
  simp only [String.toList_append, List.append_assoc]
  rfl

theorem stackLine_eq (d : Design) : d.stackLine = "PROVIDE(__stack_top = ORIGIN(" ++
    regionName d.regions.stack ++ ") + LENGTH(" ++ regionName d.regions.stack ++ "));" := rfl

theorem toList_stackLine (d : Design) : d.stackLine.toList =
    "PROVIDE(__stack_top = ORIGIN(".toList ++ (((regionName d.regions.stack).toList ++ [')']) ++
      ' ' :: ("+ LENGTH(".toList ++ ((regionName d.regions.stack).toList ++ "));".toList))) := by
  rw [stackLine_eq]
  simp only [String.toList_append, List.append_assoc]
  rfl

end Design

namespace Linker

/-- A line begins with what its beginning begins with. -/
theorem isPrefixOf_append {keyword front : List Char} (h : keyword <+: front) (cs : List Char) :
    keyword.isPrefixOf (front ++ cs) = true :=
  List.isPrefixOf_iff_prefix.2 (h.trans (List.prefix_append front cs))

/-- Lines that begin in this way are found among lines that begin otherwise. -/
theorem filter_isPrefixOf_eq_nil {keyword : String} {c : Char} (h : keyword.toList.head? = some c)
    {ls : List (List Char)} (other : ∀ l ∈ ls, l.head? ≠ some c) :
    ls.filter (fun l => keyword.toList.isPrefixOf l) = [] := by
  refine List.filter_eq_nil_iff.2 fun l hl found => other l hl ?_
  obtain ⟨rest, rfl⟩ := List.isPrefixOf_iff_prefix.1 found
  rw [List.head?_append, h]
  rfl

theorem readAlias?_aliasLine (a : String × String) (name : '"' ∉ a.1.toList) :
    readAlias? (Design.aliasLine a).toList = some (a.1, regionName a.2) := by
  have cut := fun cs => Text.cut?_eq_some_iff.2 ⟨name, (rfl : a.1.toList ++ '"' :: cs = _)⟩
  unfold readAlias?
  rw [Design.toList_aliasLine]
  simp only [dropPrefix?_append, dropSuffix?_append, cut, Option.bind_eq_bind, Option.bind_some,
    String.ofList_toList]

theorem readStackTop?_stackLine (d : Design) : readStackTop? d.stackLine.toList =
    some (regionName d.regions.stack, regionName d.regions.stack) := by
  have blank : ' ' ∉ (regionName d.regions.stack).toList ++ [')'] := by
    rw [List.mem_append, not_or]
    exact ⟨blank_notMem_regionName _, by decide⟩
  have cut := fun cs => Text.cut?_eq_some_iff.2
    ⟨blank, (rfl : ((regionName d.regions.stack).toList ++ [')']) ++ ' ' :: cs = _)⟩
  unfold readStackTop?
  rw [Design.toList_stackLine]
  simp only [dropPrefix?_append, dropSuffix?_append, cut, Option.bind_eq_bind, Option.bind_some,
    String.ofList_toList]

end Linker

/-! ### The lines of both files -/

namespace Design

/-- The lines that the memory layout and the linker script have in common. -/
def sharedLines (d : Design) : List (List Char) :=
  [generatedLine.toList, [], Linker.opening] ++ d.memories.map (·.memoryRegion.line.toList) ++
    [Linker.closing, []] ++ d.regionAliases.map fun a => (aliasLine a).toList

/-- The memories have letters that can stand on a line. -/
def IsLettered (d : Design) : Prop :=
  ∀ e ∈ d.memories, ∃ kind : MemoryKind, e.kind = .memory kind ∧
    e.capabilities.letters = kind.letters

variable {d : Design}

theorem map_toList_memoryLines (d : Design) :
    ([generatedLine, ""] ++ d.memoryLines).map String.toList = d.sharedLines := by
  unfold memoryLines sharedLines
  simp only [List.map_append, List.map_cons, List.map_map, List.cons_append, List.nil_append,
    List.append_assoc]
  rfl

theorem isLine_of_mem_regionAliases {a : String × String} (h : a ∈ d.regionAliases) :
    Text.IsLine (aliasLine a) := by
  have names : ∀ name ∈ regionNames, Text.IsLine name := by decide
  rw [aliasLine_eq]
  simp only [Text.isLine_append, isLine_regionName, names a.1 (List.of_mem_zip h).1, and_true]
  decide

theorem isLine_of_mem_memoryLines (lettered : d.IsLettered) :
    ∀ l ∈ [generatedLine, ""] ++ d.memoryLines, Text.IsLine l := by
  have letters : ∀ kind : MemoryKind, Text.IsLine kind.letters := fun kind => by
    cases kind <;> decide
  unfold memoryLines
  simp only [List.forall_mem_append, List.forall_mem_cons, List.forall_mem_map]
  refine ⟨⟨by decide, by decide, by simp⟩, ⟨⟨by decide, ?_⟩, by decide, by decide, by simp⟩, ?_⟩
  · intro e he
    obtain ⟨kind, -, same⟩ := lettered e he
    refine MemoryRegion.isLine_line (isLine_regionName _) ?_
    show Text.IsLine e.capabilities.letters
    rw [same]
    exact letters kind
  · exact fun a ha => isLine_of_mem_regionAliases ha

theorem lines_memoryLayout (lettered : d.IsLettered) :
    Text.lines d.memoryLayout = d.sharedLines ++ [[]] := by
  unfold memoryLayout
  rw [Text.lines_unlines (isLine_of_mem_memoryLines lettered), map_toList_memoryLines]

theorem lines_linkerScript (lettered : d.IsLettered) :
    Text.lines d.linkerScript = d.sharedLines ++ [[], d.stackLine.toList, []] := by
  have stack : Text.IsLine d.stackLine := by
    rw [stackLine_eq]
    simp only [Text.isLine_append, isLine_regionName, and_true]
    decide
  have all : ∀ l ∈ [generatedLine, ""] ++ d.memoryLines ++ ["", d.stackLine], Text.IsLine l := by
    rw [List.forall_mem_append]
    refine ⟨isLine_of_mem_memoryLines lettered, ?_⟩
    simp only [List.forall_mem_cons, List.not_mem_nil, false_implies, implies_true, and_true]
    exact ⟨by decide, stack⟩
  unfold linkerScript
  rw [Text.lines_unlines all, List.map_append, map_toList_memoryLines, List.append_assoc]
  rfl

/-! ### What is found in them -/

section Shared

variable {script : String} {back : List (List Char)}

theorem head?_memoryRegion_line (e : Entry) : e.memoryRegion.line.toList.head? = some ' ' := by
  rw [MemoryRegion.toList_line]
  rfl

theorem head?_aliasLine (a : String × String) : (aliasLine a).toList.head? = some 'R' := by
  rw [toList_aliasLine]
  rfl

/-- The block is what stands between its marks. -/
theorem block_eq (h : Text.lines script = d.sharedLines ++ back) :
    Linker.block script = d.memories.map (·.memoryRegion.line.toList) := by
  have inside : ∀ l ∈ d.memories.map (·.memoryRegion.line.toList),
      decide (l ≠ Linker.closing) = true := by
    intro l hl
    obtain ⟨e, -, rfl⟩ := List.mem_map.1 hl
    refine decide_eq_true fun same => ?_
    have head := head?_memoryRegion_line e
    rw [same] at head
    cases head
  have start : (d.sharedLines ++ back).dropWhile (· ≠ Linker.opening) = Linker.opening ::
      (d.memories.map (·.memoryRegion.line.toList) ++ Linker.closing :: ([] ::
        (d.regionAliases.map (fun a => (aliasLine a).toList) ++ back))) := by
    unfold sharedLines
    simp only [List.cons_append, List.nil_append, List.append_assoc]
    rw [List.dropWhile_cons_of_pos (by decide), List.dropWhile_cons_of_pos (by decide),
      List.dropWhile_cons_of_neg (by decide)]
  unfold Linker.block
  rw [h, start, List.drop_one, List.tail_cons, List.takeWhile_append_of_pos inside,
    List.takeWhile_cons_of_neg (by decide), List.append_nil]

/-- No line but the mark of the block opens it. -/
theorem count_opening (h : Text.lines script = d.sharedLines ++ back)
    (other : Linker.opening ∉ back) : (Text.lines script).count Linker.opening = 1 := by
  have memories : Linker.opening ∉ d.memories.map (·.memoryRegion.line.toList) := by
    intro mem
    obtain ⟨e, -, same⟩ := List.mem_map.1 mem
    have head := head?_memoryRegion_line e
    rw [same] at head
    cases head
  have aliases : Linker.opening ∉ d.regionAliases.map fun a => (aliasLine a).toList := by
    intro mem
    obtain ⟨a, -, same⟩ := List.mem_map.1 mem
    have head := head?_aliasLine a
    rw [same] at head
    cases head
  rw [h]
  unfold sharedLines
  simp only [List.count_append, List.count_eq_zero_of_not_mem memories,
    List.count_eq_zero_of_not_mem aliases, List.count_eq_zero_of_not_mem other]
  decide

/-- The lines in front of the aliases. -/
theorem head?_of_mem_front {l : List Char}
    (h : l ∈ [generatedLine.toList, [], Linker.opening] ++
      d.memories.map (·.memoryRegion.line.toList) ++ [Linker.closing, []]) :
    l.head? ≠ some 'R' ∧ l.head? ≠ some 'P' := by
  rcases List.mem_append.1 h with h | h
  · rcases List.mem_append.1 h with h | h
    · have marks : ∀ l ∈ [generatedLine.toList, [], Linker.opening],
          l.head? ≠ some 'R' ∧ l.head? ≠ some 'P' := by decide
      exact marks l h
    · obtain ⟨e, -, rfl⟩ := List.mem_map.1 h
      rw [head?_memoryRegion_line]
      decide
  · have marks : ∀ l ∈ [Linker.closing, []], l.head? ≠ some 'R' ∧ l.head? ≠ some 'P' := by decide
    exact marks l h

/-- The lines that begin like an alias are the aliases. -/
theorem linesFrom_regionAlias (h : Text.lines script = d.sharedLines ++ back)
    (other : ∀ l ∈ back, l.head? ≠ some 'R') :
    Linker.linesFrom "REGION_ALIAS(" script =
      d.regionAliases.map fun a => (aliasLine a).toList := by
  have all : ∀ l ∈ d.regionAliases.map fun a => (aliasLine a).toList,
      "REGION_ALIAS(".toList.isPrefixOf l = true := by
    intro l hl
    obtain ⟨a, -, rfl⟩ := List.mem_map.1 hl
    rw [toList_aliasLine]
    exact Linker.isPrefixOf_append (by decide) _
  unfold Linker.linesFrom
  rw [h, sharedLines, List.filter_append, List.filter_append, List.filter_eq_self.2 all,
    Linker.filter_isPrefixOf_eq_nil rfl fun l hl => (head?_of_mem_front hl).1,
    Linker.filter_isPrefixOf_eq_nil rfl other, List.nil_append, List.append_nil]

/-- No shared line provides a symbol. -/
theorem linesFrom_provide (h : Text.lines script = d.sharedLines ++ back) :
    Linker.linesFrom "PROVIDE(" script = back.filter fun l => "PROVIDE(".toList.isPrefixOf l := by
  have aliases : ∀ l ∈ d.regionAliases.map fun a => (aliasLine a).toList, l.head? ≠ some 'P' := by
    intro l hl
    obtain ⟨a, -, rfl⟩ := List.mem_map.1 hl
    rw [head?_aliasLine]
    decide
  unfold Linker.linesFrom
  rw [h, sharedLines, List.filter_append, List.filter_append,
    Linker.filter_isPrefixOf_eq_nil rfl fun l hl => (head?_of_mem_front hl).2,
    Linker.filter_isPrefixOf_eq_nil rfl aliases, List.nil_append, List.nil_append]

end Shared

/-! ### Regions of the memories -/

/-- What a linker learns from a script about the memories of a design and the sections, in the
order of the sections, that are backed by memories of a list. -/
structure LinksIn (d : Design) (script : String) (backing : List Memory) : Prop where
  /-- There is one block. -/
  opened : (Text.lines script).count Linker.opening = 1
  /-- It has a line for each memory, in order. -/
  declares : d.memories.Forall₂ (fun e l => ∃ kind : MemoryKind, e.kind = .memory kind ∧
    MemoryRegion.read? l = some ⟨regionName e.name, kind.letters, e.base, e.size⟩)
      (Linker.block script)
  /-- There is an alias for each section, in order, to the region of its memory. -/
  aliases : (Linker.linesFrom "REGION_ALIAS(" script).map Linker.readAlias? =
    (regionNames.zip backing).map fun x => some (x.1, regionName x.2.name)
  /-- That region is declared in the block, as the memory is. -/
  declared : ∀ m ∈ backing, ∃ l ∈ Linker.block script, ∃ base,
    MemoryRegion.read? l = some ⟨regionName m.name, m.kind.letters, base, m.size⟩

/-- A line of the block is read as the memory of an entry. -/
theorem read?_memoryRegion_line {e : Entry} {kind : MemoryKind}
    (letters : e.capabilities.letters = kind.letters) :
    MemoryRegion.read? e.memoryRegion.line.toList =
      some ⟨regionName e.name, kind.letters, e.base, e.size⟩ := by
  have bracket : ∀ kind : MemoryKind, ')' ∉ kind.letters.toList := fun kind => by
    cases kind <;> decide
  have name : ' ' ∉ e.memoryRegion.name.toList := blank_notMem_regionName e.name
  have attributes : ')' ∉ e.memoryRegion.attributes.toList := by
    show ')' ∉ e.capabilities.letters.toList
    rw [letters]
    exact bracket kind
  rw [MemoryRegion.read?_line name attributes, Entry.memoryRegion, letters]

/-- The regions that are declared are those of the memories, in order. -/
theorem declaredNames_eq {script : String} {back : List (List Char)} (lettered : d.IsLettered)
    (h : Text.lines script = d.sharedLines ++ back) :
    Linker.declaredNames script = d.memories.map fun e => some (regionName e.name) := by
  unfold Linker.declaredNames
  rw [block_eq h, List.map_map]
  refine List.map_congr_left fun e he => ?_
  obtain ⟨kind, -, letters⟩ := lettered e he
  rw [Function.comp_apply, read?_memoryRegion_line letters]
  rfl

theorem linksIn_of_lines {script : String} {back : List (List Char)} {backing : List Memory}
    (lettered : d.IsLettered) (h : Text.lines script = d.sharedLines ++ back)
    (other : ∀ l ∈ back, l.head? ≠ some 'R' ∧ l ≠ Linker.opening)
    (backed : d.regions.toList = backing.map (·.name))
    (present : ∀ m ∈ backing, ∃ e ∈ d.memories, ∃ w, m.entryAt w = e) :
    d.LinksIn script backing where
  opened := count_opening h fun mem => (other _ mem).2 rfl
  declares := by
    rw [block_eq h, List.forall₂_map_right_iff, List.forall₂_same]
    intro e he
    obtain ⟨kind, memory, letters⟩ := lettered e he
    exact ⟨kind, memory, read?_memoryRegion_line letters⟩
  aliases := by
    have names : ∀ name ∈ regionNames, '"' ∉ name.toList := by decide
    have read : (d.regionAliases.map fun a => (aliasLine a).toList).map Linker.readAlias? =
        d.regionAliases.map fun a => some (a.1, regionName a.2) := by
      rw [List.map_map]
      refine List.map_congr_left fun a ha => ?_
      exact Linker.readAlias?_aliasLine a (names a.1 (List.of_mem_zip ha).1)
    rw [linesFrom_regionAlias h fun l hl => (other l hl).1, read, regionAliases, backed,
      List.zip_map_right, List.map_map]
    rfl
  declared := by
    intro m hm
    obtain ⟨e, he, w, rfl⟩ := present m hm
    rw [block_eq h]
    exact ⟨_, List.mem_map_of_mem he, w.base, read?_memoryRegion_line m.letters_capabilities⟩

end Design

/-! ### Finished designs -/

namespace Soc

/-- The files that a design is linked with, where memories back the sections of the firmware. -/
structure Links (s : Soc) (d : Design) (backing : Sections Memory) : Prop where
  /-- Each section is backed by the memory that was chosen for it, or else by the first RAM. -/
  backs : s.firmware.toList.Forall₂ s.Backs backing.toList
  /-- The linker script has the memories and the aliases. -/
  linkerScript : d.LinksIn d.linkerScript backing.toList
  /-- The memory layout has the memories and the aliases. -/
  memoryLayout : d.LinksIn d.memoryLayout backing.toList
  /-- Both have the same block of memories. -/
  block_eq : Linker.block d.linkerScript = Linker.block d.memoryLayout
  /-- The linker script puts the stack at the end of the memory that backs it. -/
  stackTop : (Linker.linesFrom "PROVIDE(" d.linkerScript).map Linker.readStackTop? =
    [some (regionName backing.stack.name, regionName backing.stack.name)]
  /-- The memory layout says nothing about the stack. -/
  noStackTop : Linker.linesFrom "PROVIDE(" d.memoryLayout = []

theorem Finalized.isLettered {s : Soc} {p : Platform} {a : Allocation} {d : Design}
    (h : s.Finalized p a d) : d.IsLettered := by
  intro e he
  obtain ⟨m, -, w, -, rfl⟩ := h.exists_memory he
  exact ⟨m.kind, rfl, m.letters_capabilities⟩

theorem Finalized.links {s : Soc} {p : Platform} {a : Allocation} {d : Design}
    (h : s.Finalized p a d) : ∃ backing, s.Links d backing := by
  obtain ⟨backing, backs, names, stack⟩ := h.exists_backing
  have lettered := h.isLettered
  have layoutLines := Design.lines_memoryLayout lettered
  have scriptLines := Design.lines_linkerScript lettered
  have present : ∀ m ∈ backing.toList, ∃ e ∈ d.memories, ∃ w, m.entryAt w = e := by
    intro m hm
    obtain ⟨role, -, backed⟩ := exists_of_forall₂ backs hm
    exact h.exists_entry_of_memory backed.mem
  have stackLine : d.stackLine.toList.head? = some 'P' := by
    rw [Design.toList_stackLine]
    rfl
  have noOpening : d.stackLine.toList ≠ Linker.opening := by
    intro same
    rw [same] at stackLine
    cases stackLine
  refine
    ⟨backing,
      { backs := backs
        linkerScript := Design.linksIn_of_lines lettered scriptLines ?_ names.symm present
        memoryLayout := Design.linksIn_of_lines lettered layoutLines (by decide) names.symm present
        block_eq := (Design.block_eq scriptLines).trans (Design.block_eq layoutLines).symm
        stackTop := ?_
        noStackTop := ?_ }⟩
  · simp only [List.forall_mem_cons, List.not_mem_nil, false_implies, implies_true, and_true,
      stackLine]
    exact ⟨by decide, ⟨by decide, noOpening⟩, by decide⟩
  · have provides : "PROVIDE(".toList.isPrefixOf d.stackLine.toList = true := by
      rw [Design.toList_stackLine]
      exact Linker.isPrefixOf_append (by decide) _
    have found : [[], d.stackLine.toList, []].filter
        (fun l => "PROVIDE(".toList.isPrefixOf l) = [d.stackLine.toList] := by
      rw [List.filter_cons_of_neg (by decide), List.filter_cons_of_pos provides,
        List.filter_cons_of_neg (by decide), List.filter_nil]
    rw [Design.linesFrom_provide scriptLines, found, List.map_singleton,
      Linker.readStackTop?_stackLine, stack]
  · rw [Design.linesFrom_provide layoutLines]
    rfl

/-- Why a section of the firmware has no memory: a name is chosen that no memory has, or none is
chosen and there is no RAM. -/
def Unbacked (s : Soc) (role : Option String) : Prop :=
  (∃ name, role = some name ∧ ∀ m ∈ s.memories, m.name ≠ name) ∨
    (role = none ∧ ∀ m ∈ s.memories, m.kind ≠ .ram)

theorem exists_regionFault_iff {s : Soc} {role : Option String} :
    (∃ e, s.RegionFault role e) ↔ s.Unbacked role := by
  constructor
  · rintro ⟨e, unknown | noRam⟩
    · exact Or.inl ⟨_, rfl, unknown⟩
    · exact Or.inr ⟨rfl, noRam⟩
  · rintro (⟨name, rfl, unknown⟩ | ⟨rfl, noRam⟩)
    · exact ⟨_, .unknownMemory unknown⟩
    · exact ⟨_, .noFirmwareMemory noRam⟩

/-- The firmware of a system is linked into its memories. -/
structure LinksFirmware (s : Soc) (p : Platform) : Prop where
  /-- The files of a finished design declare its memories and refer to no others. -/
  links : ∀ d, (s.finalize p).outcome = .ok d → ∃ backing, s.Links d backing
  /-- Once the parts have their windows and the clock is known, the system is refused exactly if no
  memory backs one of the sections. -/
  refused_iff : ∀ a frequency, s.addressMap.allocate.outcome = .ok a →
    p.clockFrequency s.clockDomain = .ok frequency →
      ((∃ e, (s.finalize p).outcome = .error e) ↔ ∃ role ∈ s.firmware.toList, s.Unbacked role)
  /-- It is refused for the first such section. -/
  refused_first : ∀ a frequency e, s.addressMap.allocate.outcome = .ok a →
    p.clockFrequency s.clockDomain = .ok frequency →
      ((s.finalize p).outcome = .error e ↔
        FirstFault (fun _ => s.RegionFault) s.firmware.toList e)

/-- **No alias dangles.** A design is finished only if each section of the firmware is backed by a
memory, and then the memory layout and the linker script declare all memories alike, and have an
alias for each section to the memory that backs it. -/
theorem linksFirmware (s : Soc) (p : Platform) : s.LinksFirmware p where
  links := by
    intro d h
    obtain ⟨a, finalized⟩ := finalize_eq_ok_iff.1 h
    exact finalized.links
  refused_iff := by
    intro a frequency allocated clock
    simp only [finalize_eq_error_iff_firstFault allocated clock, ← regions_eq_error_iff,
      exists_regions_eq_error_iff, exists_regionFault_iff]
  refused_first := fun a frequency e allocated clock =>
    finalize_eq_error_iff_firstFault allocated clock

end Soc

end SocAssembly
