import Mathlib
import SocAssembly.Proofs.HeaderMacros
import SocAssembly.Proofs.Identifiers
import SocAssembly.Proofs.Numerals

/-!
# Reading macros back

## The model

A reader of a header looks at the lines that define something (`Header.definitions`). A definition
is a name, blanks, and what the name stands for, which tells its kind by how it begins
(`MacroValue.read?`). A pointer is an offset from an address that was defined before, under the name
that the pointer gives; if that name was defined more than once, the latest address counts
(`Header.pointers`).

Names of macros have no blanks and numerals are read as they were written, so a line that defines a
macro is read as this macro (`Macro.read?_line`). The base of a pointer stands in front of it, so
pointers lead to the registers that they were made for (`Header.pointers_macros`), even if another
entry has an address under the same name.
-/

namespace SocAssembly

/-! ### Reading -/

/-- A pointer behind its first bracket. -/
def MacroValue.readPointer? (cs : List Char) : Option MacroValue := do
  let cs ← cs.dropPrefix? "(volatile uint32_t*)(".toList
  let (base, cs) ← Text.cut? ' ' cs
  let cs ← cs.dropPrefix? "+ 0x".toList
  let offset ← Text.hexNumber? (← cs.dropSuffix? "))".toList)
  some (.register (String.ofList base) offset)

/-- What is spelled in a definition. -/
def MacroValue.read? : List Char → Option MacroValue
  | '"' :: cs => (cs.dropSuffix? ['"']).map (.text ∘ String.ofList)
  | '(' :: cs => readPointer? cs
  | '0' :: 'x' :: cs => do
    let n ← Text.hexNumber? (← cs.dropSuffix? "UL".toList)
    some (.address n)
  | cs =>
    match cs.dropSuffix? "UL".toList with
    | some digits => (Text.readDigits digits).map .long
    | none => (Text.readDigits cs).map .interrupt

/-- The macro that a line defines. -/
def Macro.read? (line : List Char) : Option Macro := do
  let cs ← line.dropPrefix? "#define ".toList
  let (name, cs) ← Text.cut? ' ' cs
  let value ← MacroValue.read? (cs.dropWhile (· = ' '))
  some ⟨String.ofList name, value⟩

namespace Header

/-- The line defines something. -/
def isDefinition (line : List Char) : Bool := "#define ".toList.isPrefixOf line

/-- The lines of a header that define something. -/
def definitions (header : String) : List (List Char) :=
  (Text.lines header).filter isDefinition

/-- The addresses that pointers lead to, in order, from the addresses that are defined before. -/
def pointers (known : List (String × Nat)) : List Macro → List (Option Nat)
  | [] => []
  | ⟨name, .address n⟩ :: rest => pointers ((name, n) :: known) rest
  | ⟨_, .register base offset⟩ :: rest =>
    (known.lookup base).map (· + offset) :: pointers known rest
  | _ :: rest => pointers known rest

end Header

/-! ### Values -/

theorem dropPrefix?_append (front cs : List Char) : (front ++ cs).dropPrefix? front = some cs :=
  List.dropPrefix?_eq_some_iff.2 ⟨front, rfl, beq_self_eq_true front⟩

theorem dropSuffix?_append (cs back : List Char) : (cs ++ back).dropSuffix? back = some cs :=
  List.dropSuffix?_eq_some_iff.2 ⟨back, rfl, beq_self_eq_true back⟩

theorem toList_hexCapitals (width n : Nat) :
    (Text.hexCapitals width n).toList = '0' :: 'x' :: Text.capitals width n := by
  have split : Text.hexCapitals width n = "0x" ++ String.ofList (Text.capitals width n) := rfl
  simp [split]

/-- A text that can be the name of a macro: nothing in it ends a name. -/
def IsMacroName (name : String) : Prop := ' ' ∉ name.toList ∧ Text.IsLine name

instance (name : String) : Decidable (IsMacroName name) := inferInstanceAs (Decidable (_ ∧ _))

theorem isMacroName_append {s t : String} :
    IsMacroName (s ++ t) ↔ IsMacroName s ∧ IsMacroName t := by
  unfold IsMacroName
  rw [Text.isLine_append, String.toList_append, List.mem_append, not_or]
  exact and_and_and_comm

theorem isMacroName_macroName (name : String) : IsMacroName (macroName name) :=
  ⟨Text.IsMark.notMem_identifier (by decide) (by decide) .macroName name,
    Text.IsMark.notMem_identifier (by decide) (by decide) .macroName name⟩

namespace MacroValue

/-- The value fits on a line, and the name in it is one of a macro. -/
def IsPlain : MacroValue → Prop
  | text s => Text.IsLine s
  | register base _ => IsMacroName base
  | _ => True

theorem render_text (s : String) : (text s).render = "\"" ++ s ++ "\"" := rfl

theorem render_long (n : Nat) : (long n).render = toString n ++ "UL" := rfl

theorem render_address (n : Nat) : (address n).render = Text.hexCapitals 8 n ++ "UL" := rfl

theorem render_register (base : String) (offset : Nat) : (register base offset).render =
    "((volatile uint32_t*)(" ++ base ++ " + " ++ Text.hexCapitals 2 offset ++ "))" := rfl

theorem toList_render_register (base : String) (offset : Nat) :
    (register base offset).render.toList = '(' :: ("(volatile uint32_t*)(".toList ++
      (base.toList ++ ' ' :: ("+ 0x".toList ++ (Text.capitals 2 offset ++ "))".toList)))) := by
  rw [render_register]
  simp only [String.toList_append, toList_hexCapitals, List.append_assoc]
  rfl

/-- A number without the mark for base sixteen. -/
theorem read?_of_isDigit {cs : List Char} {n : Nat} (tail : 'x' ∉ cs) :
    read? ((toString n).toList ++ cs) =
      match ((toString n).toList ++ cs).dropSuffix? "UL".toList with
      | some digits => (Text.readDigits digits).map .long
      | none => (Text.readDigits ((toString n).toList ++ cs)).map .interrupt := by
  have notDigits : '"'.isDigit = false ∧ '('.isDigit = false ∧ 'x'.isDigit = false := by decide
  have digits : ∀ c ∈ (toString n).toList, c.isDigit = true := fun c hc =>
    Text.isDigit_of_mem_toString hc
  obtain ⟨d, ds, start⟩ := List.exists_cons_of_ne_nil (Text.toList_toString_ne_nil n)
  rw [start] at digits ⊢
  have noMark : 'x' ∉ ds ++ cs := by
    rw [List.mem_append, not_or]
    exact ⟨fun mem => by simpa [notDigits] using digits 'x' (List.mem_cons_of_mem d mem), tail⟩
  rw [List.cons_append]
  unfold read?
  split
  · rename_i same
    obtain ⟨rfl, -⟩ := List.cons.inj same
    simpa [notDigits] using digits _ (List.mem_cons_self ..)
  · rename_i same
    obtain ⟨rfl, -⟩ := List.cons.inj same
    simpa [notDigits] using digits _ (List.mem_cons_self ..)
  · rename_i same
    obtain ⟨-, same⟩ := List.cons.inj same
    exact absurd (same ▸ List.mem_cons_self ..) noMark
  · rfl

/-- What is read is what was written. -/
theorem read?_render {v : MacroValue} (plain : v.IsPlain) : read? v.render.toList = some v := by
  cases v with
  | text s =>
    have split : (text s).render.toList = '"' :: (s.toList ++ ['"']) := by simp [render_text]
    rw [split]
    simp [read?, dropSuffix?_append]
  | long n =>
    rw [render_long, String.toList_append, read?_of_isDigit (by decide)]
    simp only [dropSuffix?_append, Text.readDigits_toString, Option.map_some]
  | address n =>
    have split : (address n).render.toList =
        '0' :: 'x' :: (Text.capitals 8 n ++ "UL".toList) := by
      rw [render_address, String.toList_append, toList_hexCapitals]
      rfl
    rw [split]
    simp only [read?, dropSuffix?_append, Option.bind_eq_bind, Option.bind_some,
      Text.hexNumber?_capitals]
  | interrupt n =>
    have notLong : (toString n).toList.dropSuffix? "UL".toList = none := by
      rw [Option.eq_none_iff_forall_not_mem]
      intro digits split
      obtain ⟨back, split, same⟩ := List.dropSuffix?_eq_some_iff.1 split
      have mem : 'L' ∈ (toString n).toList := by
        rw [split, eq_of_beq same]
        exact List.mem_append_right _ (by decide)
      exact absurd (Text.isDigit_of_mem_toString mem) (by decide)
    have spelled : (interrupt n).render.toList = (toString n).toList ++ [] :=
      (List.append_nil _).symm
    rw [spelled, read?_of_isDigit List.not_mem_nil, List.append_nil, notLong]
    simp only [Text.readDigits_toString, Option.map_some]
  | register base offset =>
    have name : Text.cut? ' ' (base.toList ++ ' ' :: ("+ 0x".toList ++
        (Text.capitals 2 offset ++ "))".toList))) = some (base.toList, _) :=
      Text.cut?_eq_some_iff.2 ⟨plain.1, rfl⟩
    rw [toList_render_register]
    simp only [read?, readPointer?, dropPrefix?_append, dropSuffix?_append, name,
      Option.bind_eq_bind, Option.bind_some, Text.hexNumber?_capitals, String.ofList_toList]

/-- No value starts with a blank. -/
theorem dropWhile_render (v : MacroValue) :
    v.render.toList.dropWhile (· = ' ') = v.render.toList := by
  have marked : ∀ (c : Char) (cs : List Char), c ≠ ' ' →
      (c :: cs).dropWhile (· = ' ') = c :: cs :=
    fun c cs hc => List.dropWhile_cons_of_neg (by simpa using hc)
  have numeral : ∀ (n : Nat) (cs : List Char),
      ((toString n).toList ++ cs).dropWhile (· = ' ') = (toString n).toList ++ cs := by
    intro n cs
    obtain ⟨d, ds, start⟩ := List.exists_cons_of_ne_nil (Text.toList_toString_ne_nil n)
    have digit : d.isDigit = true := Text.isDigit_of_mem_toString (start ▸ List.mem_cons_self ..)
    rw [start, List.cons_append]
    refine marked d _ ?_
    rintro rfl
    exact absurd digit (by decide)
  cases v with
  | text s =>
    rw [render_text, String.append_assoc, String.toList_append]
    exact marked _ _ (by decide)
  | long n =>
    rw [render_long, String.toList_append]
    exact numeral n _
  | address n =>
    rw [render_address, String.toList_append, toList_hexCapitals]
    exact marked _ _ (by decide)
  | interrupt n =>
    have spelled : (interrupt n).render.toList = (toString n).toList ++ [] :=
      (List.append_nil _).symm
    rw [spelled]
    exact numeral n []
  | register base offset =>
    rw [toList_render_register]
    exact marked _ _ (by decide)

end MacroValue

/-- The macro has a name and a value that can be written on a line. -/
def Macro.IsPlain (m : Macro) : Prop := IsMacroName m.name ∧ m.value.IsPlain

theorem Macro.line_eq (m : Macro) :
    m.line = "#define " ++ m.name ++ "           " ++ m.value.render := rfl

theorem Macro.toList_line (m : Macro) : m.line.toList = "#define ".toList ++ (m.name.toList ++
    ' ' :: ("          ".toList ++ m.value.render.toList)) := by
  rw [m.line_eq]
  simp only [String.toList_append, List.append_assoc]
  rfl

/-- A line that defines a macro is read as that macro. -/
theorem Macro.read?_line {m : Macro} (plain : m.IsPlain) : Macro.read? m.line.toList = some m := by
  have blanks : ("          ".toList ++ m.value.render.toList).dropWhile (· = ' ') =
      m.value.render.toList := by
    rw [List.dropWhile_append_of_pos (by simp), m.value.dropWhile_render]
  have cut := Text.cut?_eq_some_iff.2
    ⟨plain.1.1, (rfl : m.name.toList ++ ' ' :: ("          ".toList ++ m.value.render.toList) = _)⟩
  unfold Macro.read?
  rw [m.toList_line]
  simp only [dropPrefix?_append, cut, blanks, MacroValue.read?_render plain.2, Option.bind_eq_bind,
    Option.bind_some, String.ofList_toList]

/-! ### Pointers -/

/-- The macro stands for a pointer. -/
def Macro.IsPointer (m : Macro) : Prop := ∃ base offset, m.value = .register base offset

namespace Header

/-- Macros that are no pointers lead nowhere; they only add to the addresses that are known. -/
theorem exists_pointers_append {ms : List Macro} (h : ∀ m ∈ ms, ¬ m.IsPointer)
    (known : List (String × Nat)) (rest : List Macro) :
    ∃ known', pointers known (ms ++ rest) = pointers known' rest := by
  induction ms generalizing known with
  | nil => exact ⟨known, rfl⟩
  | cons m ms ih =>
    obtain ⟨hm, hms⟩ := List.forall_mem_cons.1 h
    obtain ⟨name, value⟩ := m
    cases value with
    | text s => exact ih hms known
    | long n => exact ih hms known
    | address n => exact ih hms ((name, n) :: known)
    | interrupt n => exact ih hms known
    | register base offset => exact absurd ⟨base, offset, rfl⟩ hm

/-- The pointers to the registers of a peripheral lead behind the address that is known for it. -/
theorem pointers_registerMacros {e : Entry} {known : List (String × Nat)}
    (base : known.lookup e.baseMacro.name = some e.base) (rs : List PlacedRegister)
    (rest : List Macro) :
    pointers known (rs.map e.registerMacro ++ rest) =
      rs.map (fun r => some (e.base + r.offset)) ++ pointers known rest := by
  induction rs with
  | nil => rfl
  | cons r rs ih =>
    have step : pointers known (e.registerMacro r :: (rs.map e.registerMacro ++ rest)) =
        (known.lookup e.baseMacro.name).map (· + r.offset) ::
          pointers known (rs.map e.registerMacro ++ rest) := rfl
    rw [List.map_cons, List.cons_append, step, base, ih]
    rfl

/-- The pointers of peripherals lead to their registers, whatever was defined before. -/
theorem pointers_peripherals (known : List (String × Nat)) (es : List Entry) :
    pointers known (es.flatMap fun e => e.baseMacro :: e.registers.map e.registerMacro) =
      es.flatMap fun e => e.registers.map fun r => some (e.base + r.offset) := by
  induction es generalizing known with
  | nil => rfl
  | cons e es ih =>
    have latest : ((e.baseMacro.name, e.base) :: known).lookup e.baseMacro.name = some e.base :=
      List.lookup_cons_self
    rw [List.flatMap_cons, List.flatMap_cons, ← ih ((e.baseMacro.name, e.base) :: known)]
    exact pointers_registerMacros latest e.registers _

/-- The pointers of a header lead to the registers of the design. -/
theorem pointers_macros (d : Design) :
    pointers [] d.macros =
      d.peripherals.flatMap fun e => e.registers.map fun r => some (e.base + r.offset) := by
  have front : ∀ m ∈ [⟨"PLATFORM_NAME", .text d.platform⟩,
      ⟨"CLOCK_FREQUENCY", .long d.clockFrequency⟩] ++
      (d.memories.flatMap (fun e => [e.baseMacro, e.sizeMacro]) ++
      d.interrupts.map Design.interruptMacro), ¬ m.IsPointer := by
    intro m hm
    rintro ⟨base, offset, hvalue⟩
    rcases List.mem_append.1 hm with hm | hm
    · simp only [List.mem_cons, List.not_mem_nil, or_false] at hm
      rcases hm with rfl | rfl <;> cases hvalue
    · rcases List.mem_append.1 hm with hm | hm
      · obtain ⟨e, -, hm⟩ := List.mem_flatMap.1 hm
        simp only [List.mem_cons, List.not_mem_nil, or_false] at hm
        rcases hm with rfl | rfl <;> cases hvalue
      · obtain ⟨i, -, rfl⟩ := List.mem_map.1 hm
        cases hvalue
  obtain ⟨known, skipped⟩ := exists_pointers_append front []
    (d.peripherals.flatMap fun e => e.baseMacro :: e.registers.map e.registerMacro)
  rw [Design.macros_eq, ← pointers_peripherals known, ← skipped]
  simp only [List.append_assoc]

end Header

end SocAssembly
