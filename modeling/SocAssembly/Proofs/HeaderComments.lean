import Mathlib
import SocAssembly.Proofs.CommentReading
import SocAssembly.Proofs.HeaderRecovery

/-!
# What comments leave of a header

A header prints the names of peripherals and registers and their descriptions in comments, as they
are. So a description is documentation, which a compiler does not see, exactly if it does not end
the comment that it is printed in: then a blank is left of the comment, else something that is
longer (`HeaderItem.IsRead`). The rest of the header is the same for designs that differ in their
descriptions alone (`Design.headerPlain_undescribed`). As each comment leads back to code, whatever
stands in it, the items of a header are read one by one (`HeaderItem.strip_source_flatMap`).
-/

namespace SocAssembly

/-! ### Designs without descriptions -/

/-- A field without its description. -/
def Field.undescribed (f : Field) : Field := { f with description := "" }

/-- A register without descriptions. -/
def Register.undescribed (r : Register) : Register :=
  { r with description := "", fields := r.fields.map Field.undescribed }

/-- A register at its place without descriptions. -/
def PlacedRegister.undescribed (r : PlacedRegister) : PlacedRegister :=
  { r with register := r.register.undescribed }

/-- An entry without descriptions. -/
def Entry.undescribed (e : Entry) : Entry :=
  { e with description := "", registers := e.registers.map PlacedRegister.undescribed }

namespace Design

/-- A design without descriptions. -/
def undescribed (d : Design) : Design :=
  { d with
    memories := d.memories.map Entry.undescribed
    peripherals := d.peripherals.map Entry.undescribed }

/-- The names that stand in the comments of peripherals. -/
def printedNames (d : Design) : List String :=
  d.peripherals.flatMap fun e =>
    e.name :: e.parent.toList ++ e.registers.map (·.register.name)

/-- The descriptions that stand in the comments of peripherals. -/
def printedDescriptions (d : Design) : List String :=
  d.peripherals.flatMap fun e => e.description :: e.registers.map (·.register.description)

/-- What a compiler sees of the header. -/
def headerCode (d : Design) : List Char := Code.withoutComments d.header

end Design

/-! ### Items -/

namespace HeaderItem

/-- The text of an item, with its lines joined. -/
def source (i : HeaderItem) : List Char := Code.splice (Text.unlines i.lines).toList

/-- What is left of the item without comments. -/
def code (i : HeaderItem) : List Char := Code.Place.code.strip i.source

/-- No text in the item ends its comment. -/
def StaysInside : HeaderItem → Prop
  | remark text => ¬ Text.EndsComment text
  | block _ ls => ∀ l ∈ ls, ¬ Text.EndsComment l
  | _ => True

/-- What is left of the item if its texts stay in their comment. -/
def plain : HeaderItem → List Char
  | remark _ | block _ _ => [' ', '\n']
  | i => i.code

/-- A compiler is done with the item when the item is over, and it sees more than it should exactly
if a text ends its comment. -/
structure IsRead (i : HeaderItem) : Prop where
  /-- The next item starts in code. -/
  after_eq : Code.Place.code.after i.source = .code
  /-- Nothing is seen of texts that stay in their comment. -/
  code_eq : i.StaysInside → i.code = i.plain
  /-- Something is seen if they do not. -/
  length_lt : ¬ i.StaysInside → i.plain.length < i.code.length

/-- An item that is a comment is read as one. -/
theorem isRead_of_comment {i : HeaderItem} (cs : List Char)
    (text : (Text.unlines i.lines).toList = Code.Place.comment cs) (plain : i.plain = [' ', '\n'])
    (inside : Code.Closes cs ↔ ¬ i.StaysInside) : i.IsRead := by
  have source : i.source = Code.Place.comment (Code.splice cs) := by
    rw [HeaderItem.source, text, Code.Place.splice_comment]
  refine ⟨?_, fun stays => ?_, fun leaves => ?_⟩
  · rw [source, Code.Place.after_comment]
  · rw [plain, code, source]
    exact Code.Place.strip_comment fun closes => inside.1 closes stays
  · rw [plain, code, source]
    exact Code.Place.lt_length_strip_comment (inside.2 leaves)

theorem isRead_remark (text : String) : (remark text).IsRead := by
  have blank : Text.IsDivider " " := by decide
  refine isRead_of_comment (" " ++ text).toList ?_ rfl ?_
  · rw [Text.toList_unlines]
    simp only [lines, List.flatMap_singleton, String.toList_append, List.append_assoc]
    rfl
  · exact (Text.endsComment_append blank).trans not_not.symm

theorem exists_toList_blockLine (l : String) : ∃ cs, (blockLine l).toList = ' ' :: '*' :: cs := by
  unfold blockLine
  split
  · exact ⟨[], rfl⟩
  · exact ⟨' ' :: l.toList, by simp⟩

/-- The star in front of a line does not end the comment together with the text of the line. -/
theorem closes_blockLine_iff (l : String) :
    Code.Closes (blockLine l).toList ↔ Text.EndsComment l := by
  have blank : Code.IsDivider ' ' := by decide
  have star : ¬ Code.Closes ['*'] := by decide
  unfold blockLine
  split
  · rename_i empty
    rw [String.isEmpty_iff.1 empty]
    decide
  · have spelled : (" * " ++ l).toList = ' ' :: (['*'] ++ ' ' :: l.toList) := by simp
    rw [spelled, Code.closes_cons blank, Code.closes_append_cons blank, or_iff_right star]
    rfl

/-- The lines of a comment end it exactly if a text on one of them does. -/
theorem closes_blockLines_iff (ls : List String) :
    Code.Closes (Text.unlines (ls.map blockLine)).toList ↔ ∃ l ∈ ls, Text.EndsComment l := by
  rw [Text.toList_unlines]
  induction ls with
  | nil => simp [Code.not_closes]
  | cons l rest ih =>
    have start : ∀ c ∈ ((rest.map blockLine).flatMap fun l => l.toList ++ ['\n']).head?,
        Code.IsDivider c := by
      have blank : Code.IsDivider ' ' := by decide
      cases rest with
      | nil => simp
      | cons m rest =>
        obtain ⟨cs, hm⟩ := exists_toList_blockLine m
        simpa [hm] using blank
    rw [List.map_cons, List.flatMap_cons, List.append_assoc, List.singleton_append,
      List.exists_mem_cons_iff]
    exact (Code.closes_append_lineFeed start).trans (or_congr (closes_blockLine_iff l) ih)

theorem isRead_block (ls : List String) : (block "/**" ls).IsRead := by
  refine isRead_of_comment ('*' :: '\n' :: (Text.unlines (ls.map blockLine)).toList) ?_ rfl ?_
  · rw [Text.toList_unlines, Text.toList_unlines]
    simp only [lines, List.cons_append, List.flatMap_cons, List.flatMap_append]
    rfl
  · have lines := closes_blockLines_iff ls
    unfold Code.Closes at lines ⊢
    rw [Code.splice_cons (Or.inl (by decide)), Code.splice_cons (Or.inl (by decide)),
      Code.closing_infix_cons_iff, Code.closing_infix_cons_iff]
    simp [lines, StaysInside]

/-- An item that does not start a comment or a literal is read as it is. -/
theorem isRead_of_code {i : HeaderItem} (stays : i.StaysInside) (plain : i.plain = i.code)
    (after : Code.Place.code.after i.source = .code) : i.IsRead :=
  ⟨after, fun _ => plain.symm, fun leaves => absurd stays leaves⟩

theorem isRead_blank : blank.IsRead := isRead_of_code trivial rfl (by decide)

theorem isRead_define {m : Macro} (quiet : Code.IsQuiet m.line) : (define m).IsRead := by
  refine isRead_of_code trivial rfl (Code.after_of_isQuiet ?_)
  have feed : Code.IsQuiet "\n" := by decide
  have lines : Text.unlines (define m).lines = m.line ++ "\n" := String.toList_inj.1 <| by
    rw [Text.toList_unlines, String.toList_append]
    exact List.append_nil _
  rw [lines, Code.isQuiet_append]
  exact ⟨quiet, feed⟩

theorem IsRead.length_le {i : HeaderItem} (h : i.IsRead) : i.plain.length ≤ i.code.length := by
  by_cases stays : i.StaysInside
  · rw [h.code_eq stays]
  · exact (h.length_lt stays).le

theorem length_flatMap_plain_le {items : List HeaderItem} (h : ∀ i ∈ items, i.IsRead) :
    (items.flatMap plain).length ≤ (items.flatMap code).length := by
  induction items with
  | nil => exact le_rfl
  | cons i rest ih =>
    obtain ⟨hi, hrest⟩ := List.forall_mem_cons.1 h
    rw [List.flatMap_cons, List.flatMap_cons, List.length_append, List.length_append]
    exact Nat.add_le_add hi.length_le (ih hrest)

/-- A compiler sees what it should of items exactly if the texts in all of them stay inside. -/
theorem flatMap_code_eq_iff {items : List HeaderItem} (h : ∀ i ∈ items, i.IsRead) :
    items.flatMap code = items.flatMap plain ↔ ∀ i ∈ items, i.StaysInside := by
  induction items with
  | nil => simp
  | cons i rest ih =>
    obtain ⟨hi, hrest⟩ := List.forall_mem_cons.1 h
    rw [List.forall_mem_cons, ← ih hrest, List.flatMap_cons, List.flatMap_cons]
    constructor
    · intro same
      have stays : i.StaysInside := by
        by_contra leaves
        have lengths := congrArg List.length same
        have more := hi.length_lt leaves
        have rest := length_flatMap_plain_le hrest
        rw [List.length_append, List.length_append] at lengths
        omega
      rw [hi.code_eq stays] at same
      exact ⟨stays, List.append_cancel_left same⟩
    · rintro ⟨stays, same⟩
      rw [hi.code_eq stays, same]

/-- Items that are read one after the other. -/
theorem strip_source_flatMap {items : List HeaderItem} (h : ∀ i ∈ items, i.IsRead) :
    Code.Place.code.strip (items.flatMap source) = items.flatMap code ∧
      Code.Place.code.after (items.flatMap source) = .code := by
  induction items with
  | nil => exact ⟨rfl, rfl⟩
  | cons i rest ih =>
    obtain ⟨hi, hrest⟩ := List.forall_mem_cons.1 h
    obtain ⟨strip, after⟩ := ih hrest
    rw [List.flatMap_cons, List.flatMap_cons, Code.Place.strip_append, Code.Place.after_append,
      hi.after_eq, strip, after]
    exact ⟨rfl, rfl⟩

theorem splice_lines (ls : List String) :
    Code.splice (Text.unlines ls).toList =
      ls.flatMap fun l => Code.splice (l.toList ++ ['\n']) := by
  rw [Text.toList_unlines]
  induction ls with
  | nil => rfl
  | cons l rest ih =>
    rw [List.flatMap_cons, List.flatMap_cons, Code.splice_append (Or.inl (by simp)), ih]

/-- Lines are joined within items only, as each item ends with a line feed. -/
theorem splice_items (items : List HeaderItem) :
    Code.splice (Text.unlines (items.flatMap lines)).toList = items.flatMap source := by
  rw [splice_lines, List.flatMap_assoc]
  exact List.flatMap_congr fun i _ => (splice_lines i.lines).symm

end HeaderItem

/-! ### Macros -/

theorem isQuiet_macroName (name : String) : Code.IsQuiet (macroName name) := by
  have marks : Text.IsMark '/' ∧ Text.IsMark '\'' ∧ Text.IsMark '"' := by decide
  exact ⟨marks.1.notMem_identifier (by decide) .macroName name,
    marks.2.1.notMem_identifier (by decide) .macroName name,
    marks.2.2.notMem_identifier (by decide) .macroName name⟩

theorem isQuiet_toString (n : Nat) : Code.IsQuiet (toString n) := by
  have digits : ∀ c ∈ (toString n).toList, c.isDigit = true := fun c hc =>
    Text.isDigit_of_mem_toString hc
  exact ⟨fun mem => absurd (digits _ mem) (by decide), fun mem => absurd (digits _ mem) (by decide),
    fun mem => absurd (digits _ mem) (by decide)⟩

theorem isQuiet_hexCapitals (width n : Nat) : Code.IsQuiet (Text.hexCapitals width n) := by
  have digits := Text.hexValue?_of_hexNumber? (Text.hexNumber?_capitals width n)
  unfold Code.IsQuiet
  rw [toList_hexCapitals]
  simp only [List.mem_cons, not_or]
  exact ⟨⟨by decide, by decide, fun mem => absurd (digits _ mem) (by decide)⟩,
    ⟨by decide, by decide, fun mem => absurd (digits _ mem) (by decide)⟩,
    by decide, by decide, fun mem => absurd (digits _ mem) (by decide)⟩

/-- A macro whose name and value are quiet is defined on a quiet line. -/
theorem Macro.isQuiet_line {m : Macro} (name : Code.IsQuiet m.name)
    (value : Code.IsQuiet m.value.render) : Code.IsQuiet m.line := by
  have fixed : Code.IsQuiet "#define " ∧ Code.IsQuiet "           " := by decide
  rw [m.line_eq]
  simp only [Code.isQuiet_append]
  exact ⟨⟨⟨fixed.1, name⟩, fixed.2⟩, value⟩

theorem Entry.isQuiet_baseMacro (e : Entry) : Code.IsQuiet e.baseMacro.line := by
  have fixed : Code.IsQuiet "_BASE" ∧ Code.IsQuiet "UL" := by decide
  refine Macro.isQuiet_line (Code.isQuiet_append.2 ⟨isQuiet_macroName e.name, fixed.1⟩) ?_
  exact Code.isQuiet_append.2 ⟨isQuiet_hexCapitals 8 e.base, fixed.2⟩

theorem Entry.isQuiet_registerMacro (e : Entry) (r : PlacedRegister) :
    Code.IsQuiet (e.registerMacro r).line := by
  have fixed : Code.IsQuiet "_" ∧ Code.IsQuiet "((volatile uint32_t*)(" ∧ Code.IsQuiet "_BASE" ∧
      Code.IsQuiet " + " ∧ Code.IsQuiet "))" := by decide
  obtain ⟨underscore, opening, tail, plus, closing⟩ := fixed
  have name : (e.registerMacro r).name =
      macroName e.name ++ "_" ++ macroName r.register.name := rfl
  have value : (e.registerMacro r).value = .register (macroName e.name ++ "_BASE") r.offset := rfl
  refine Macro.isQuiet_line ?_ ?_
  · rw [name]
    simp only [Code.isQuiet_append]
    exact ⟨⟨isQuiet_macroName e.name, underscore⟩, isQuiet_macroName r.register.name⟩
  · rw [value, MacroValue.render_register]
    simp only [Code.isQuiet_append]
    exact ⟨⟨⟨⟨opening, isQuiet_macroName e.name, tail⟩, plus⟩, isQuiet_hexCapitals 2 r.offset⟩,
      closing⟩

theorem Design.isQuiet_interruptMacro (interrupt : String × Nat) :
    Code.IsQuiet (interruptMacro interrupt).line := by
  have tail : Code.IsQuiet "_IRQ" := by decide
  refine Macro.isQuiet_line ?_ (isQuiet_toString interrupt.2)
  exact Code.isQuiet_append.2 ⟨isQuiet_macroName interrupt.1, tail⟩

/-! ### Peripherals -/

namespace Entry

theorem isRead_peripheralItems (e : Entry) : ∀ i ∈ e.peripheralItems, i.IsRead := by
  unfold peripheralItems registerItems
  simp only [List.forall_mem_append, List.forall_mem_flatMap, List.forall_mem_cons,
    List.not_mem_nil, false_implies, implies_true, and_true]
  refine ⟨⟨HeaderItem.isRead_remark _, HeaderItem.isRead_define e.isQuiet_baseMacro,
    HeaderItem.isRead_blank⟩, fun r _ => ⟨HeaderItem.isRead_block _,
    HeaderItem.isRead_define (e.isQuiet_registerMacro r), HeaderItem.isRead_blank⟩⟩

theorem endsComment_headerRemark_iff (e : Entry) : Text.EndsComment e.headerRemark ↔
    Text.EndsComment e.name ∨ Text.EndsComment e.description ∨
      ∃ p ∈ e.parent.toList, Text.EndsComment p := by
  have colon : Text.IsDivider ": " := by decide
  have attached : Text.IsDivider " (attached to " ∧ Text.IsDivider ")" := by decide
  have empty : ¬ Text.EndsComment "" := by decide
  rw [headerRemark_eq, String.append_assoc, String.append_assoc,
    Text.endsComment_divided colon (by decide)]
  refine or_congr_right ?_
  cases e.parent with
  | none =>
    rw [Option.map_none, Option.getD_none, String.append_empty]
    simp
  | some p =>
    have closed : Text.EndsComment (p ++ ")") ↔ Text.EndsComment p := by
      have divided := Text.endsComment_divided (s := p) (t := "") attached.2 (by decide)
      rwa [or_iff_left empty] at divided
    rw [Option.map_some, Option.getD_some, String.append_assoc,
      Text.endsComment_divided attached.1 (by decide), closed]
    simp

end Entry

/-- Of what the comment of a register says, its name and its description can end it. -/
theorem PlacedRegister.endsComment_headerLines_iff (r : PlacedRegister) :
    (∃ l ∈ r.headerLines, Text.EndsComment l) ↔
      Text.EndsComment r.register.name ∨ Text.EndsComment r.register.description := by
  have named : Text.IsDivider "Name: " ∧ Text.IsDivider "Description: " := by decide
  have empty : ¬ Text.EndsComment "" := by decide
  have access : ¬ Text.EndsComment ("Access: " ++ r.register.access.label) := by
    cases r.register.access <;> decide
  have described : (∃ l ∈ if r.register.description.isEmpty then []
      else ["Description: " ++ r.register.description], Text.EndsComment l) ↔
      Text.EndsComment r.register.description := by
    split
    · rename_i none
      simp [String.isEmpty_iff.1 none, empty]
    · simp [Text.endsComment_append named.2]
  have width : ¬ Text.EndsComment ("Width: " ++ toString r.register.width ++ " bit" ++
      if r.register.width = 1 then "" else "s") := by
    have fixed : Code.IsQuiet "Width: " ∧ Code.IsQuiet " bit" := by decide
    have bits : Code.IsQuiet (if r.register.width = 1 then "" else "s") := by
      split <;> decide
    refine Text.not_endsComment_of_isQuiet ?_
    simp only [Code.isQuiet_append]
    exact ⟨⟨⟨fixed.1, isQuiet_toString _⟩, fixed.2⟩, bits⟩
  have size : ¬ Text.EndsComment ("Size: " ++ toString r.register.byteSize ++ " bytes") := by
    have fixed : Code.IsQuiet "Size: " ∧ Code.IsQuiet " bytes" := by decide
    refine Text.not_endsComment_of_isQuiet ?_
    simp only [Code.isQuiet_append]
    exact ⟨⟨fixed.1, isQuiet_toString _⟩, fixed.2⟩
  rw [headerLines_eq]
  simp only [List.mem_append, or_and_right, exists_or, described, List.exists_mem_cons_iff,
    List.not_mem_nil, false_and, exists_false, Text.endsComment_append named.1, access, width, size,
    or_false]

namespace Entry

/-- What can end a comment in front of a peripheral or a register of it. -/
theorem forall_staysInside_iff (e : Entry) : (∀ i ∈ e.peripheralItems, i.StaysInside) ↔
    (∀ s ∈ e.name :: e.parent.toList ++ e.registers.map (·.register.name),
      ¬ Text.EndsComment s) ∧
    ∀ s ∈ e.description :: e.registers.map (·.register.description), ¬ Text.EndsComment s := by
  have registers : ∀ r : PlacedRegister, (∀ l ∈ r.headerLines, ¬ Text.EndsComment l) ↔
      ¬ Text.EndsComment r.register.name ∧ ¬ Text.EndsComment r.register.description := by
    intro r
    rw [← not_or, ← r.endsComment_headerLines_iff]
    simp
  unfold peripheralItems registerItems
  simp only [List.forall_mem_append, List.forall_mem_flatMap, List.forall_mem_cons,
    List.forall_mem_map, List.cons_append, List.not_mem_nil, false_implies, implies_true, and_true,
    HeaderItem.StaysInside, endsComment_headerRemark_iff, registers, forall_and, not_or, not_exists,
    not_and]
  tauto

/-- What is left of the comments of a peripheral does not depend on descriptions. -/
theorem flatMap_plain_undescribed (e : Entry) :
    e.undescribed.peripheralItems.flatMap HeaderItem.plain =
      e.peripheralItems.flatMap HeaderItem.plain := by
  unfold peripheralItems
  rw [List.flatMap_append, List.flatMap_append, List.flatMap_assoc, List.flatMap_assoc]
  have registers : e.undescribed.registers = e.registers.map PlacedRegister.undescribed := rfl
  rw [registers, List.flatMap_map]
  rfl

end Entry

/-! ### Headers -/

namespace Design

/-- What stands in front of the interrupts in a header. -/
def headerFront (d : Design) : List HeaderItem :=
  d.headerOpening ++ [.remark "Memories", .blank] ++ d.memories.flatMap Entry.memoryItems ++
    [.blank, .remark "Interrupts"]

/-- The interrupts and the peripherals in a header. -/
def headerBack (d : Design) : List HeaderItem :=
  .blank :: d.interrupts.map (.define ∘ interruptMacro) ++ [.blank] ++
    d.peripherals.flatMap Entry.peripheralItems ++ [.directive "#endif /* RESOURCES_H */"]

theorem headerItems_eq (d : Design) : d.headerItems = d.headerFront ++ d.headerBack := by
  simp [headerItems, headerFront, headerBack]

/-- What is left of the header if its texts stay in their comments. -/
def headerPlain (d : Design) : List Char :=
  Code.Place.code.strip (d.headerFront.flatMap HeaderItem.source) ++
    d.headerBack.flatMap HeaderItem.plain

theorem isRead_headerBack (d : Design) : ∀ i ∈ d.headerBack, i.IsRead := by
  have closed : (HeaderItem.directive "#endif /* RESOURCES_H */").IsRead :=
    HeaderItem.isRead_of_code trivial rfl (by decide)
  unfold headerBack
  simp only [List.forall_mem_append, List.forall_mem_cons, List.forall_mem_map,
    List.forall_mem_flatMap, List.not_mem_nil, false_implies, implies_true, and_true,
    HeaderItem.isRead_blank, closed, true_and, Function.comp_apply]
  exact ⟨fun i _ => HeaderItem.isRead_define (isQuiet_interruptMacro i),
    fun e _ => e.isRead_peripheralItems⟩

/-- However the names in front of them are, the interrupts start in code. -/
theorem after_headerFront (d : Design) :
    Code.Place.code.after (d.headerFront.flatMap HeaderItem.source) = .code := by
  have last : (HeaderItem.remark "Interrupts").source =
      Code.Place.comment " Interrupts".toList := by decide
  have split : [HeaderItem.blank, .remark "Interrupts"] =
      [HeaderItem.blank] ++ [HeaderItem.remark "Interrupts"] := rfl
  rw [headerFront, split, ← List.append_assoc, List.flatMap_append, List.flatMap_singleton, last,
    Code.Place.after_append, Code.Place.after_comment]

theorem headerCode_eq (d : Design) : d.headerCode =
    Code.Place.code.strip (d.headerFront.flatMap HeaderItem.source) ++
      d.headerBack.flatMap HeaderItem.code := by
  obtain ⟨strip, after⟩ := HeaderItem.strip_source_flatMap d.isRead_headerBack
  have source : Code.splice d.header.toList = d.headerFront.flatMap HeaderItem.source ++
      d.headerBack.flatMap HeaderItem.source := by
    rw [header, headerItems_eq, HeaderItem.splice_items, List.flatMap_append]
  rw [headerCode, Code.withoutComments, source, Code.Place.strip_append, Code.Place.after_append,
    after_headerFront, strip, after]
  exact List.append_nil _

/-- A compiler sees no comment of a header exactly if no name and no description in it ends one. -/
theorem headerCode_eq_headerPlain_iff (d : Design) : d.headerCode = d.headerPlain ↔
    (∀ s ∈ d.printedNames, ¬ Text.EndsComment s) ∧
      ∀ s ∈ d.printedDescriptions, ¬ Text.EndsComment s := by
  have back : (∀ i ∈ d.headerBack, i.StaysInside) ↔
      ∀ e ∈ d.peripherals, ∀ i ∈ e.peripheralItems, i.StaysInside := by
    unfold headerBack
    simp only [List.forall_mem_append, List.forall_mem_cons, List.forall_mem_map,
      List.forall_mem_flatMap, List.not_mem_nil, false_implies, implies_true, and_true,
      HeaderItem.StaysInside, true_and, Function.comp_apply]
  rw [headerCode_eq, headerPlain, List.append_cancel_left_eq,
    HeaderItem.flatMap_code_eq_iff d.isRead_headerBack, back, printedNames, printedDescriptions,
    List.forall_mem_flatMap, List.forall_mem_flatMap, ← forall₂_and]
  exact forall₂_congr fun e _ => e.forall_staysInside_iff

theorem headerPlain_undescribed (d : Design) : d.undescribed.headerPlain = d.headerPlain := by
  have peripherals : d.undescribed.peripherals = d.peripherals.map Entry.undescribed := rfl
  have front : d.undescribed.headerFront = d.headerFront := by
    have memories : d.undescribed.memories = d.memories.map Entry.undescribed := rfl
    unfold headerFront
    rw [memories, List.flatMap_map]
    rfl
  have interrupts : d.undescribed.interrupts = d.interrupts := by
    unfold Design.interrupts
    rw [peripherals, List.filterMap_map]
    rfl
  have items :
      (d.undescribed.peripherals.flatMap Entry.peripheralItems).flatMap HeaderItem.plain =
        (d.peripherals.flatMap Entry.peripheralItems).flatMap HeaderItem.plain := by
    rw [List.flatMap_assoc, List.flatMap_assoc, peripherals, List.flatMap_map]
    exact List.flatMap_congr fun e _ => e.flatMap_plain_undescribed
  unfold headerPlain headerBack
  rw [front, interrupts]
  simp only [List.flatMap_append, items]

theorem printedNames_undescribed (d : Design) : d.undescribed.printedNames = d.printedNames := by
  have peripherals : d.undescribed.peripherals = d.peripherals.map Entry.undescribed := rfl
  unfold printedNames
  rw [peripherals, List.flatMap_map]
  refine List.flatMap_congr fun e _ => ?_
  have registers : e.undescribed.registers = e.registers.map PlacedRegister.undescribed := rfl
  rw [registers, List.map_map]
  rfl

/-- **Descriptions are documentation as long as they stay in their comments.** Of two designs that
differ in their descriptions alone, let no name and no description end a comment of the first. Then
a compiler sees the same of both headers exactly if no description ends a comment of the second. -/
theorem headerCode_eq_iff {d d' : Design} (same : d.undescribed = d'.undescribed)
    (names : ∀ s ∈ d.printedNames, ¬ Text.EndsComment s)
    (descriptions : ∀ s ∈ d.printedDescriptions, ¬ Text.EndsComment s) :
    d'.headerCode = d.headerCode ↔ ∀ s ∈ d'.printedDescriptions, ¬ Text.EndsComment s := by
  have plain : d.headerPlain = d'.headerPlain := by
    rw [← headerPlain_undescribed, same, headerPlain_undescribed]
  have names' : ∀ s ∈ d'.printedNames, ¬ Text.EndsComment s := by
    rwa [← printedNames_undescribed, ← same, printedNames_undescribed]
  rw [(headerCode_eq_headerPlain_iff d).2 ⟨names, descriptions⟩, plain,
    headerCode_eq_headerPlain_iff, and_iff_right names']

end Design

/-! ### A row of lamps -/

namespace Soc

/-- A memory and a row of lamps. -/
def lampSoc (description : String) : Soc where
  name := "lamps"
  cpu := { name := "vexriscv", variant := "imac" }
  parts := [
    ⟨.memory ⟨"blockram", .ram, 0x4000, "Firmware memory"⟩, .fixed 0, by decide⟩,
    ⟨.peripheral { Peripheral.leds "leds" 6 with description := description }, .auto,
      (by decide : (Peripheral.leds "leds" 6).blockSize ≠ 0)⟩]
  names_nodup := (by decide : ["blockram", "leds"].Nodup)

/-- The lamps in their place. -/
def lampDesign (description : String) : Design where
  name := "lamps"
  platform := "bench"
  cpu := { name := "vexriscv", variant := "imac" }
  clockFrequency := wholeHertz (60.0 * 1e6)
  memories := [
    Memory.entryAt ⟨"blockram", .ram, 0x4000, "Firmware memory"⟩ ⟨0, 0x4000, 0x4000, none⟩]
  peripherals := [
    Peripheral.entryAt { Peripheral.leds "leds" 6 with description := description } none
      ⟨0xf0000000, 0x100, 0x100, none⟩]
  regions := .replicate "blockram"

theorem finalize_lampSoc (description : String) :
    ((lampSoc description).finalize benchPlatform).outcome = .ok (lampDesign description) := by
  have allocated : (lampSoc description).addressMap.allocate.outcome = .ok ⟨[
      ("blockram", ⟨0, 0x4000, 0x4000, none⟩),
      ("leds", ⟨0xf0000000, 0x100, 0x100, none⟩)]⟩ := by cbv
  unfold finalize
  rw [Report.outcome_bind, allocated]
  rfl

end Soc

/-- Another text in the comment of the lamps, and the same code. -/
theorem Design.headerCode_lampSoc : ∃ d d' : Design,
    ((Soc.lampSoc "User LEDs").finalize Soc.benchPlatform).outcome = .ok d ∧
    ((Soc.lampSoc "*LEDs* on \"A/B\"").finalize Soc.benchPlatform).outcome = .ok d' ∧
    d.undescribed = d'.undescribed ∧
    (∀ s ∈ d.printedNames, ¬ Text.EndsComment s) ∧
    (∀ s ∈ d.printedDescriptions, ¬ Text.EndsComment s) ∧
    d'.headerCode = d.headerCode := by
  have same : (Soc.lampDesign "User LEDs").undescribed =
      (Soc.lampDesign "*LEDs* on \"A/B\"").undescribed := rfl
  have names : ∀ s ∈ (Soc.lampDesign "User LEDs").printedNames, ¬ Text.EndsComment s := by decide
  have descriptions : ∀ s ∈ (Soc.lampDesign "User LEDs").printedDescriptions,
      ¬ Text.EndsComment s := by decide
  exact ⟨_, _, Soc.finalize_lampSoc _, Soc.finalize_lampSoc _, same, names, descriptions,
    (headerCode_eq_iff same names descriptions).2 (by decide)⟩

/-- A description that ends its comment, and what is behind it becomes code. -/
theorem Design.headerCode_lampSoc_ne : ∃ d d' : Design,
    ((Soc.lampSoc "User LEDs").finalize Soc.benchPlatform).outcome = .ok d ∧
    ((Soc.lampSoc "*/ int x; /*").finalize Soc.benchPlatform).outcome = .ok d' ∧
    d.undescribed = d'.undescribed ∧ d'.headerCode ≠ d.headerCode := by
  have seen : ¬ ((∀ s ∈ (Soc.lampDesign "*/ int x; /*").printedNames, ¬ Text.EndsComment s) ∧
      ∀ s ∈ (Soc.lampDesign "*/ int x; /*").printedDescriptions, ¬ Text.EndsComment s) := by decide
  have hidden : (∀ s ∈ (Soc.lampDesign "User LEDs").printedNames, ¬ Text.EndsComment s) ∧
      ∀ s ∈ (Soc.lampDesign "User LEDs").printedDescriptions, ¬ Text.EndsComment s := by decide
  have plain : (Soc.lampDesign "User LEDs").headerPlain =
      (Soc.lampDesign "*/ int x; /*").headerPlain := by
    rw [← headerPlain_undescribed, ← headerPlain_undescribed (Soc.lampDesign "*/ int x; /*")]
    rfl
  refine ⟨_, _, Soc.finalize_lampSoc _, Soc.finalize_lampSoc _, rfl, fun same => seen ?_⟩
  rw [(headerCode_eq_headerPlain_iff _).2 hidden, plain] at same
  exact (headerCode_eq_headerPlain_iff _).1 same

end SocAssembly
