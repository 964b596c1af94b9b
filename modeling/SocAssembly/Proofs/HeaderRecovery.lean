import Mathlib
import SocAssembly.Proofs.BusWords
import SocAssembly.Proofs.HeaderReading

/-!
# Reading a header back

The texts of a design stand in the comments of its header, where no line starts like a definition.
So the lines that define something are the guard and those of the macros, as long as no text of the
design goes on on another line, where it could start in any way (`Design.definitions_header`). The
other lines need nothing of the texts: names of macros are made for it, and an entry is attached to
an entry of the design (`Soc.isRecovered_of_finalize`).
-/

namespace SocAssembly

/-! ### Lines that define something -/

theorem Header.isDefinition_eq_false {line : List Char} (h : line.head? ≠ some '#') :
    Header.isDefinition line = false := by
  cases line with
  | nil => rfl
  | cons c cs =>
    have hc : '#' ≠ c := fun same => h (congrArg some same.symm)
    simp [Header.isDefinition, List.isPrefixOf, hc]

theorem Header.isDefinition_line (m : Macro) : Header.isDefinition m.line.toList = true := by
  rw [m.line_eq, String.append_assoc, String.append_assoc, String.toList_append]
  exact List.isPrefixOf_iff_prefix.2 (List.prefix_append ..)

namespace HeaderItem

/-- Of the lines of the item, those that define a macro are all that define something. -/
def IsRegular (i : HeaderItem) : Prop :=
  i.lines.filter (Header.isDefinition ·.toList) = (i.macro?.map Macro.line).toList

theorem isRegular_blank : blank.IsRegular := rfl

theorem isRegular_define (m : Macro) : (define m).IsRegular :=
  List.filter_cons_of_pos (Header.isDefinition_line m)

theorem isRegular_remark (text : String) : (remark text).IsRegular := by
  refine List.filter_cons_of_neg (Bool.not_eq_true _ ▸ ?_)
  exact Header.isDefinition_eq_false (by simp)

theorem isRegular_block {opening : String} (h : opening.toList.head? = some '/')
    (ls : List String) : (block opening ls).IsRegular := by
  refine List.filter_eq_nil_iff.2 fun l hl => Bool.not_eq_true _ ▸ ?_
  refine Header.isDefinition_eq_false ?_
  rcases List.mem_append.1 hl with hl | hl
  · rcases List.mem_cons.1 hl with rfl | hl
    · rw [h]
      decide
    · obtain ⟨line, -, rfl⟩ := List.mem_map.1 hl
      unfold blockLine
      split <;> simp
  · rw [List.mem_singleton.1 hl]
    decide

theorem isRegular_directive {text : String}
    (h : Header.isDefinition text.toList = false) : (directive text).IsRegular :=
  List.filter_cons_of_neg (by simp [h])

/-- What items define that are regular are their macros. -/
theorem filter_lines {items : List HeaderItem} (h : ∀ i ∈ items, i.IsRegular) :
    (items.flatMap lines).filter (Header.isDefinition ·.toList) =
      (items.filterMap macro?).map Macro.line := by
  rw [List.filter_flatMap, List.map_filterMap, List.filterMap_eq_flatMap_toList]
  exact List.flatMap_congr h

end HeaderItem

namespace Entry

theorem isRegular_memoryItems (e : Entry) : ∀ i ∈ e.memoryItems, i.IsRegular := by
  unfold memoryItems
  rw [List.forall_mem_cons, List.forall_mem_singleton]
  exact ⟨HeaderItem.isRegular_define _, HeaderItem.isRegular_define _⟩

theorem isRegular_registerItems (e : Entry) (r : PlacedRegister) :
    ∀ i ∈ e.registerItems r, i.IsRegular := by
  unfold registerItems
  rw [List.forall_mem_cons, List.forall_mem_cons, List.forall_mem_singleton]
  exact ⟨HeaderItem.isRegular_block (by decide) _, HeaderItem.isRegular_define _,
    HeaderItem.isRegular_blank⟩

theorem isRegular_peripheralItems (e : Entry) : ∀ i ∈ e.peripheralItems, i.IsRegular := by
  unfold peripheralItems
  rw [List.forall_mem_append, List.forall_mem_flatMap]
  refine ⟨?_, fun r _ => e.isRegular_registerItems r⟩
  rw [List.forall_mem_cons, List.forall_mem_cons, List.forall_mem_singleton]
  exact ⟨HeaderItem.isRegular_remark _, HeaderItem.isRegular_define _, HeaderItem.isRegular_blank⟩

end Entry

namespace Design

/-- Behind the line that guards the header against being read twice, only macros are defined. -/
theorem exists_headerItems_eq (d : Design) : ∃ front back,
    d.headerItems = front ++ .directive "#define RESOURCES_H" :: back ∧
      front.filterMap HeaderItem.macro? = [] ∧ (∀ i ∈ front, i.IsRegular) ∧
      ∀ i ∈ back, i.IsRegular := by
  have guarded : (HeaderItem.directive "#ifndef RESOURCES_H").IsRegular :=
    HeaderItem.isRegular_directive (by decide)
  have included : (HeaderItem.directive "#include \"stdint.h\"").IsRegular :=
    HeaderItem.isRegular_directive (by decide)
  have closed : (HeaderItem.directive "#endif /* RESOURCES_H */").IsRegular :=
    HeaderItem.isRegular_directive (by decide)
  refine ⟨[.block "/*" _, .blank, .directive "#ifndef RESOURCES_H"], _, rfl, rfl, ?_, ?_⟩
  · rw [List.forall_mem_cons, List.forall_mem_cons, List.forall_mem_singleton]
    exact ⟨HeaderItem.isRegular_block (by decide) _, HeaderItem.isRegular_blank, guarded⟩
  · simp only [List.append_eq, List.forall_mem_append, List.forall_mem_cons,
      List.forall_mem_flatMap, List.forall_mem_map, List.not_mem_nil, false_implies, implies_true,
      included, closed, HeaderItem.isRegular_blank, HeaderItem.isRegular_define,
      HeaderItem.isRegular_remark, Function.comp_apply, true_and, and_true]
    exact ⟨fun e _ => e.isRegular_memoryItems, fun e _ => e.isRegular_peripheralItems⟩

end Design

/-! ### Texts on one line -/

/-- The texts of an entry and its registers. -/
def Entry.texts (e : Entry) : List String :=
  e.name :: e.description :: e.registers.flatMap fun r => [r.register.name, r.register.description]

/-- The texts of a design. -/
def Design.texts (d : Design) : List String :=
  d.name :: d.platform :: d.entries.flatMap Entry.texts

/-- No text of the design goes on on another line. -/
def Design.IsSingleLined (d : Design) : Prop := ∀ s ∈ d.texts, Text.IsLine s

instance (d : Design) : Decidable d.IsSingleLined := List.decidableBAll _ _

/-- The names of the design and its platform, and what the header says in front of the peripherals,
fit on their lines. -/
structure Design.HasLinedRemarks (d : Design) : Prop where
  /-- The name of the design. -/
  name : Text.IsLine d.name
  /-- The name of its platform. -/
  platform : Text.IsLine d.platform
  /-- The name and the description of each peripheral, and the name of what it is attached to. -/
  remark : ∀ e ∈ d.peripherals, Text.IsLine e.headerRemark

instance (d : Design) : Decidable d.HasLinedRemarks :=
  decidable_of_iff (Text.IsLine d.name ∧ Text.IsLine d.platform ∧
      ∀ e ∈ d.peripherals, Text.IsLine e.headerRemark)
    ⟨fun ⟨name, platform, remark⟩ => ⟨name, platform, remark⟩,
      fun h => ⟨h.name, h.platform, h.remark⟩⟩

/-- All texts in the comments of the header fit on their lines. -/
structure Design.HasLinedComments (d : Design) : Prop extends d.HasLinedRemarks where
  /-- The name and the description of each register. -/
  register : ∀ e ∈ d.peripherals, ∀ r ∈ e.registers,
    Text.IsLine r.register.name ∧ Text.IsLine r.register.description

theorem isLine_hexCapitals (width n : Nat) : Text.IsLine (Text.hexCapitals width n) := by
  have digits := Text.hexValue?_of_hexNumber? (Text.hexNumber?_capitals width n)
  unfold Text.IsLine
  rw [toList_hexCapitals]
  simp only [List.mem_cons, not_or]
  exact ⟨by decide, by decide, fun mem => absurd (digits _ mem) (by decide)⟩

theorem MacroValue.isLine_render (v : MacroValue) (plain : v.IsPlain) : Text.IsLine v.render := by
  have fixed : Text.IsLine "\"" ∧ Text.IsLine "UL" ∧ Text.IsLine "((volatile uint32_t*)(" ∧
      Text.IsLine " + " ∧ Text.IsLine "))" := by decide
  obtain ⟨quote, long, opening, plus, closing⟩ := fixed
  cases v with
  | text s =>
    rw [render_text, Text.isLine_append, Text.isLine_append]
    exact ⟨⟨quote, plain⟩, quote⟩
  | long n =>
    rw [render_long, Text.isLine_append]
    exact ⟨isLine_toString n, long⟩
  | address n =>
    rw [render_address, Text.isLine_append]
    exact ⟨isLine_hexCapitals 8 n, long⟩
  | interrupt n => exact isLine_toString n
  | register base offset =>
    rw [render_register]
    simp only [Text.isLine_append]
    exact ⟨⟨⟨⟨opening, plain.2⟩, plus⟩, isLine_hexCapitals 2 offset⟩, closing⟩

namespace HeaderItem

/-- Each line of the item is one. -/
def IsLined (i : HeaderItem) : Prop := ∀ l ∈ i.lines, Text.IsLine l

theorem isLined_blank : blank.IsLined := List.forall_mem_singleton.2 (by decide)

theorem isLined_block {opening : String} {ls : List String} (ho : Text.IsLine opening)
    (h : ∀ l ∈ ls, Text.IsLine l) : (block opening ls).IsLined := by
  have lined : ∀ l ∈ ls, Text.IsLine (blockLine l) := by
    intro l hl
    unfold blockLine
    split
    · decide
    · exact Text.isLine_append.2 ⟨by decide, h l hl⟩
  refine List.forall_mem_append.2 ⟨List.forall_mem_cons.2 ⟨ho, List.forall_mem_map.2 lined⟩, ?_⟩
  exact List.forall_mem_singleton.2 (by decide)

theorem isLined_remark {text : String} (h : Text.IsLine text) : (remark text).IsLined :=
  List.forall_mem_singleton.2
    (Text.isLine_append.2 ⟨Text.isLine_append.2 ⟨by decide, h⟩, by decide⟩)

theorem isLined_define {m : Macro} (plain : m.IsPlain) : (define m).IsLined := by
  refine List.forall_mem_singleton.2 ?_
  rw [m.line_eq]
  simp only [Text.isLine_append]
  exact ⟨⟨⟨by decide, plain.1.2⟩, by decide⟩, m.value.isLine_render plain.2⟩

end HeaderItem

namespace Entry

theorem isPlain_baseMacro (e : Entry) : e.baseMacro.IsPlain :=
  ⟨isMacroName_append.2 ⟨isMacroName_macroName e.name, by decide⟩, trivial⟩

theorem isPlain_sizeMacro (e : Entry) : e.sizeMacro.IsPlain :=
  ⟨isMacroName_append.2 ⟨isMacroName_macroName e.name, by decide⟩, trivial⟩

theorem isPlain_registerMacro (e : Entry) (r : PlacedRegister) : (e.registerMacro r).IsPlain := by
  have name : (e.registerMacro r).name =
      macroName e.name ++ "_" ++ macroName r.register.name := rfl
  refine ⟨?_, e.isPlain_baseMacro.1⟩
  rw [name, isMacroName_append, isMacroName_append]
  exact ⟨⟨isMacroName_macroName e.name, by decide⟩, isMacroName_macroName r.register.name⟩

theorem isLined_memoryItems (e : Entry) : ∀ i ∈ e.memoryItems, i.IsLined := by
  unfold memoryItems
  rw [List.forall_mem_cons, List.forall_mem_singleton]
  exact ⟨HeaderItem.isLined_define e.isPlain_baseMacro,
    HeaderItem.isLined_define e.isPlain_sizeMacro⟩

end Entry

theorem PlacedRegister.headerLines_eq (r : PlacedRegister) :
    r.headerLines = ["Name: " ++ r.register.name] ++
      (if r.register.description.isEmpty then []
        else ["Description: " ++ r.register.description]) ++
      ["Access: " ++ r.register.access.label,
        "Width: " ++ toString r.register.width ++ " bit" ++
          (if r.register.width = 1 then "" else "s"),
        "Size: " ++ toString r.register.byteSize ++ " bytes"] := rfl

theorem PlacedRegister.isLine_headerLines {r : PlacedRegister} (name : Text.IsLine r.register.name)
    (description : Text.IsLine r.register.description) : ∀ l ∈ r.headerLines, Text.IsLine l := by
  have access : Text.IsLine r.register.access.label := by
    cases r.register.access <;> decide
  have bits : Text.IsLine (if r.register.width = 1 then "" else "s") := by
    split <;> decide
  rw [headerLines_eq, List.forall_mem_append, List.forall_mem_append, List.forall_mem_singleton]
  refine ⟨⟨?name, ?description⟩, ?rest⟩
  case name =>
    rw [Text.isLine_append]
    exact ⟨by decide, name⟩
  case description =>
    split
    · intro l hl
      cases hl
    · rw [List.forall_mem_singleton, Text.isLine_append]
      exact ⟨by decide, description⟩
  case rest =>
    rw [List.forall_mem_cons, List.forall_mem_cons, List.forall_mem_singleton]
    simp only [Text.isLine_append]
    exact ⟨⟨by decide, access⟩, ⟨⟨⟨by decide, isLine_toString _⟩, by decide⟩, bits⟩,
      ⟨by decide, isLine_toString _⟩, by decide⟩

namespace Entry

variable {e : Entry}

theorem isLined_registerItems {r : PlacedRegister} (name : Text.IsLine r.register.name)
    (description : Text.IsLine r.register.description) : ∀ i ∈ e.registerItems r, i.IsLined := by
  have lines := PlacedRegister.isLine_headerLines name description
  unfold registerItems
  rw [List.forall_mem_cons, List.forall_mem_cons, List.forall_mem_singleton]
  exact ⟨HeaderItem.isLined_block (by decide) lines,
    HeaderItem.isLined_define (e.isPlain_registerMacro r), HeaderItem.isLined_blank⟩

theorem headerRemark_eq (e : Entry) : e.headerRemark = e.name ++ ": " ++ e.description ++
    (e.parent.map fun p => " (attached to " ++ p ++ ")").getD "" := rfl

theorem isLine_headerRemark (name : Text.IsLine e.name) (description : Text.IsLine e.description)
    (parent : ∀ p, e.parent = some p → Text.IsLine p) : Text.IsLine e.headerRemark := by
  have attached : Text.IsLine
      ((e.parent.map fun p => " (attached to " ++ p ++ ")").getD "") := by
    cases hparent : e.parent with
    | none => decide
    | some p =>
      rw [Option.map_some, Option.getD_some, Text.isLine_append, Text.isLine_append]
      exact ⟨⟨by decide, parent p hparent⟩, by decide⟩
  rw [headerRemark_eq]
  simp only [Text.isLine_append]
  exact ⟨⟨⟨name, by decide⟩, description⟩, attached⟩

theorem isLined_peripheralItems (remark : Text.IsLine e.headerRemark)
    (registers : ∀ r ∈ e.registers,
      Text.IsLine r.register.name ∧ Text.IsLine r.register.description) :
    ∀ i ∈ e.peripheralItems, i.IsLined := by
  unfold peripheralItems
  rw [List.forall_mem_append, List.forall_mem_flatMap]
  refine ⟨?_, fun r hr => isLined_registerItems (registers r hr).1 (registers r hr).2⟩
  rw [List.forall_mem_cons, List.forall_mem_cons, List.forall_mem_singleton]
  exact ⟨HeaderItem.isLined_remark remark, HeaderItem.isLined_define e.isPlain_baseMacro,
    HeaderItem.isLined_blank⟩

end Entry

namespace Design

variable {d : Design}

theorem isPlain_interruptMacro (interrupt : String × Nat) : (interruptMacro interrupt).IsPlain :=
  ⟨isMacroName_append.2 ⟨isMacroName_macroName interrupt.1, by decide⟩, trivial⟩

/-- All macros of a header are plain if the name of the platform is. -/
theorem isPlain_of_mem_macros (platform : Text.IsLine d.platform) :
    ∀ m ∈ d.macros, m.IsPlain := by
  have platformName : IsMacroName "PLATFORM_NAME" := by decide
  have clockFrequency : IsMacroName "CLOCK_FREQUENCY" := by decide
  rw [macros_eq]
  simp only [List.forall_mem_append, List.forall_mem_flatMap, List.forall_mem_map]
  refine ⟨?opening, fun e _ => ?memory, fun i _ => isPlain_interruptMacro i, fun e _ => ?peripheral⟩
  case opening =>
    rw [List.forall_mem_cons, List.forall_mem_singleton]
    exact ⟨⟨platformName, platform⟩, clockFrequency, trivial⟩
  case memory =>
    rw [List.forall_mem_cons, List.forall_mem_singleton]
    exact ⟨e.isPlain_baseMacro, e.isPlain_sizeMacro⟩
  case peripheral =>
    rw [List.forall_mem_cons, List.forall_mem_map]
    exact ⟨e.isPlain_baseMacro, fun r _ => e.isPlain_registerMacro r⟩

theorem IsSingleLined.platform (h : d.IsSingleLined) : Text.IsLine d.platform :=
  h _ (List.mem_cons_of_mem _ (List.mem_cons_self ..))

theorem IsSingleLined.entry (h : d.IsSingleLined) {e : Entry} (he : e ∈ d.entries) :
    ∀ s ∈ e.texts, Text.IsLine s := fun s hs =>
  h s (List.mem_cons_of_mem _ (List.mem_cons_of_mem _ (List.mem_flatMap.2 ⟨e, he, hs⟩)))

/-- What an entry of the design is attached to is one of its entries. -/
def HasParents (d : Design) : Prop :=
  ∀ e ∈ d.peripherals, ∀ p, e.parent = some p → p ∈ d.entries.map Entry.name

/-- The comments are lined if no text of the design goes on on another line. -/
theorem IsSingleLined.hasLinedComments (h : d.IsSingleLined) (parents : d.HasParents) :
    d.HasLinedComments where
  name := h _ (List.mem_cons_self ..)
  platform := h.platform
  remark e he := by
    have texts := h.entry (List.mem_append_right _ he)
    refine Entry.isLine_headerRemark (texts _ (by simp [Entry.texts]))
      (texts _ (by simp [Entry.texts])) fun p hp => ?_
    obtain ⟨host, hhost, rfl⟩ := List.mem_map.1 (parents e he p hp)
    exact h.entry hhost _ (List.mem_cons_self ..)
  register e he r hr := by
    obtain ⟨-, texts⟩ := List.forall_mem_cons.1 (h.entry (List.mem_append_right _ he))
    obtain ⟨-, texts⟩ := List.forall_mem_cons.1 texts
    have ofRegister := List.forall_mem_flatMap.1 texts r hr
    exact ⟨ofRegister _ (by simp), ofRegister _ (by simp)⟩

theorem isLined_headerOpening (h : d.HasLinedRemarks) : ∀ i ∈ d.headerOpening, i.IsLined := by
  have name : Text.IsLine ("SoC: " ++ d.name) := Text.isLine_append.2 ⟨by decide, h.name⟩
  have platform : Text.IsLine ("Platform: " ++ d.platform) :=
    Text.isLine_append.2 ⟨by decide, h.platform⟩
  have remarks : ∀ l ∈ ["Generated by moondancer-soc, do not edit.", "", "SoC: " ++ d.name,
      "Platform: " ++ d.platform], Text.IsLine l := by
    have fixed : Text.IsLine "Generated by moondancer-soc, do not edit." ∧ Text.IsLine "" := by
      decide
    rw [List.forall_mem_cons, List.forall_mem_cons, List.forall_mem_cons,
      List.forall_mem_singleton]
    exact ⟨fixed.1, fixed.2, name, platform⟩
  have block := HeaderItem.isLined_block (by decide : Text.IsLine "/*") remarks
  have directives : (HeaderItem.directive "#ifndef RESOURCES_H").IsLined ∧
      (HeaderItem.directive "#define RESOURCES_H").IsLined ∧
      (HeaderItem.directive "#include \"stdint.h\"").IsLined :=
    ⟨List.forall_mem_singleton.2 (by decide), List.forall_mem_singleton.2 (by decide),
      List.forall_mem_singleton.2 (by decide)⟩
  have macros := isPlain_of_mem_macros h.platform
  rw [macros_eq] at macros
  have opening := (List.forall_mem_append.1 macros).1
  simp only [headerOpening, List.forall_mem_cons, List.not_mem_nil, false_implies, implies_true,
    HeaderItem.isLined_blank, block, directives, true_and, and_true]
  exact ⟨HeaderItem.isLined_define (opening _ (by simp)),
    HeaderItem.isLined_define (opening _ (by simp))⟩

/-- The header of a design has no line that is broken, if its comments have none. -/
theorem isLined_headerItems (h : d.HasLinedComments) : ∀ i ∈ d.headerItems, i.IsLined := by
  have remarks : (HeaderItem.remark "Memories").IsLined ∧
      (HeaderItem.remark "Interrupts").IsLined :=
    ⟨HeaderItem.isLined_remark (by decide), HeaderItem.isLined_remark (by decide)⟩
  have closed : (HeaderItem.directive "#endif /* RESOURCES_H */").IsLined :=
    List.forall_mem_singleton.2 (by decide)
  have interrupts : ∀ i, (HeaderItem.define (interruptMacro i)).IsLined := fun i =>
    HeaderItem.isLined_define (isPlain_interruptMacro i)
  have peripherals : ∀ e ∈ d.peripherals, ∀ i ∈ e.peripheralItems, i.IsLined := fun e he =>
    Entry.isLined_peripheralItems (h.remark e he) (h.register e he)
  simp only [headerItems, List.forall_mem_append, List.forall_mem_cons, List.forall_mem_flatMap,
    List.forall_mem_map, List.not_mem_nil, false_implies, implies_true, HeaderItem.isLined_blank,
    remarks, closed, Function.comp_apply, interrupts, and_true]
  exact ⟨⟨isLined_headerOpening h.toHasLinedRemarks, fun e _ => e.isLined_memoryItems⟩, peripherals⟩

/-- What the header of a design defines is the guard and the macros, in order. -/
theorem definitions_header (h : d.HasLinedComments) :
    Header.definitions d.header =
      "#define RESOURCES_H".toList :: d.macros.map fun m => m.line.toList := by
  obtain ⟨front, back, split, none, hfront, hback⟩ := d.exists_headerItems_eq
  have lined : ∀ l ∈ d.headerItems.flatMap HeaderItem.lines, Text.IsLine l :=
    List.forall_mem_flatMap.2 (isLined_headerItems h)
  have guard : (HeaderItem.directive "#define RESOURCES_H").lines.filter
      (Header.isDefinition ·.toList) = ["#define RESOURCES_H"] := by decide
  have macros : d.macros = back.filterMap HeaderItem.macro? := by
    rw [Design.macros, split, List.filterMap_append, none]
    rfl
  have found : (d.headerItems.flatMap HeaderItem.lines).filter (Header.isDefinition ·.toList) =
      "#define RESOURCES_H" :: d.macros.map Macro.line := by
    rw [split, List.flatMap_append, List.flatMap_cons, List.filter_append, List.filter_append,
      HeaderItem.filter_lines hfront, none, guard, HeaderItem.filter_lines hback, macros]
    rfl
  have lastLine : [[]].filter Header.isDefinition = [] := by decide
  unfold Header.definitions header
  rw [Text.lines_unlines lined, List.filter_append, List.filter_map, lastLine, List.append_nil]
  exact (congrArg (List.map String.toList) found).trans (by rw [List.map_cons, List.map_map]; rfl)

/-- Reading the definitions of a header gives its macros, behind the guard that has no value. -/
theorem map_read?_definitions (h : d.HasLinedComments) :
    (Header.definitions d.header).map Macro.read? = none :: d.macros.map some := by
  have guard : Macro.read? "#define RESOURCES_H".toList = none := by decide
  rw [definitions_header h, List.map_cons, guard, List.map_map]
  refine congrArg (none :: ·) (List.map_congr_left fun m hm => ?_)
  exact Macro.read?_line (isPlain_of_mem_macros h.platform m hm)

end Design

/-! ### Finished designs -/

/-- The first register with a name is the one that is found under it. -/
theorem Entry.registerAddress?_eq {e : Entry} {before after : List PlacedRegister}
    {r : PlacedRegister} (split : e.registers = before ++ r :: after)
    (first : ∀ t ∈ before, t.register.name ≠ r.register.name) :
    e.registerAddress? r.register.name = some (e.base + r.offset) := by
  have notFound : before.find? (·.register.name = r.register.name) = none := by
    rw [List.find?_eq_none]
    intro t ht
    simpa using first t ht
  unfold registerAddress?
  rw [split, List.find?_append, notFound, Option.none_or, List.find?_cons_of_pos (by simp)]
  rfl

/-- What a header is to define: the platform and its clock, the address and the size of each memory,
the number of each interrupt, and the address of each peripheral with its registers. -/
def Design.headerMacros (d : Design) : List Macro :=
  [⟨"PLATFORM_NAME", .text d.platform⟩, ⟨"CLOCK_FREQUENCY", .long d.clockFrequency⟩] ++
  d.memories.flatMap (fun e =>
    [⟨macroName e.name ++ "_BASE", .address e.base⟩,
      ⟨macroName e.name ++ "_SIZE", .address e.size⟩]) ++
  d.interrupts.map (fun i => ⟨macroName i.1 ++ "_IRQ", .interrupt i.2⟩) ++
  d.peripherals.flatMap fun e =>
    ⟨macroName e.name ++ "_BASE", .address e.base⟩ :: e.registers.map fun r =>
      ⟨macroName e.name ++ "_" ++ macroName r.register.name,
        .register (macroName e.name ++ "_BASE") r.offset⟩

/-- What a reader of the header of a finished design finds in it. -/
structure Soc.IsRecovered (s : Soc) (d : Design) : Prop where
  /-- The first definition guards the header. -/
  guard : (Header.definitions d.header).head? = some "#define RESOURCES_H".toList
  /-- The others are what the header is to define, in order. -/
  macros : (Header.definitions d.header).tail.map Macro.read? = d.headerMacros.map some
  /-- The registers are those of the layouts. -/
  registers : d.peripherals.map Entry.registers = s.peripherals.map Peripheral.layout
  /-- The pointers lead to the registers. -/
  pointers : Header.pointers [] ((Header.definitions d.header).filterMap Macro.read?) =
    d.peripherals.flatMap fun e => e.registers.map fun r => some (e.base + r.offset)
  /-- The design has the first register of a name at that address. -/
  registerAddress : ∀ e ∈ d.peripherals, ∀ before r after, e.registers = before ++ r :: after →
    (∀ t ∈ before, t.register.name ≠ r.register.name) →
      e.registerAddress? r.register.name = some (e.base + r.offset)

namespace Soc

variable {s : Soc} {p : Platform} {d : Design}

theorem Finalized.registers_eq {a : Allocation} (h : s.Finalized p a d) :
    d.peripherals.map Entry.registers = s.peripherals.map Peripheral.layout := by
  have shown : (numbered 0 s.peripherals).map (·.1.layout) = d.peripherals.map Entry.registers := by
    refine map_eq_of_forall₂ ?_ h.peripherals
    rintro q e ⟨w, -, rfl⟩
    rfl
  have fst := congrArg (List.map Peripheral.layout) (map_fst_numbered 0 s.peripherals)
  rw [List.map_map] at fst
  rw [← shown, ← fst]
  rfl

/-- **A header can be read back.** If no text of a finished design goes on on another line, the
definitions of its header are those of the design, all of them and in order, their numerals are read
as the numbers of the design, and every pointer leads to its register. -/
theorem isRecovered_of_finalize (h : (s.finalize p).outcome = .ok d) (lined : d.IsSingleLined) :
    s.IsRecovered d := by
  obtain ⟨a, finalized⟩ := finalize_eq_ok_iff.1 h
  have parents : d.HasParents := fun e he parent hparent => finalized.parent_mem_names he hparent
  have comments := lined.hasLinedComments parents
  have found := Design.definitions_header comments
  have read := Design.map_read?_definitions comments
  have recovered : (Header.definitions d.header).tail.map Macro.read? = d.macros.map some := by
    rw [List.map_tail, read, List.tail_cons]
  refine
    { guard := by rw [found, List.head?_cons]
      macros := ?_
      registers := finalized.registers_eq
      pointers := ?_
      registerAddress := fun e _ before r after split first =>
        Entry.registerAddress?_eq split first }
  · rw [recovered, Design.macros_eq]
    unfold Design.headerMacros
    rw [List.append_assoc, List.append_assoc]
    rfl
  · have macros : (Header.definitions d.header).filterMap Macro.read? = d.macros := by
      have filtered := congrArg (List.filterMap id) read
      rw [List.filterMap_map, List.filterMap_cons_none rfl, List.filterMap_map] at filtered
      exact filtered.trans List.filterMap_some
    rw [macros, Header.pointers_macros]

theorem isRecovered_tickSoc : ∃ d, (tickSoc.finalize benchPlatform).outcome = .ok d ∧
    d.IsSingleLined ∧ tickSoc.IsRecovered d := by
  have finished : ∃ d, (tickSoc.finalize benchPlatform).outcome = .ok d ∧ d.IsSingleLined := by
    unfold finalize
    rw [Report.outcome_bind, allocate_tickSoc]
    exact ⟨_, rfl, by decide⟩
  obtain ⟨d, hd, lined⟩ := finished
  exact ⟨d, hd, lined, isRecovered_of_finalize hd lined⟩

end Soc

end SocAssembly
