import Mathlib
import SocAssembly.Proofs.HeaderRecovery

/-!
# Names that a header defines

## The model

A line that defines something names it behind the keyword, up to the first blank
(`Header.definedName`). A header defines the names of all its lines that define something
(`Header.definedNames`).

These are found item by item, since every item ends its last line (`Design.definedNames_header_eq`).
An item that defines a macro defines its name, whatever the value is; what stands in a comment can
define further names where it goes on on another line. So the header defines at least the names that
its items are made for (`Design.itemNames_sublist`), and no others if its comments keep to their
lines (`Design.definedNames_header`).
-/

namespace SocAssembly

namespace Header

/-- The name that a line defines. -/
def definedName (line : List Char) : String :=
  String.ofList ((line.drop "#define ".toList.length).takeWhile (· ≠ ' '))

/-- The names that the lines of a header define, one for each of these lines. -/
def definedNames (header : String) : List String := (definitions header).map definedName

/-- The name is what stands between the keyword and the next blank. -/
theorem definedName_append {name : String} (plain : IsMacroName name) (cs : List Char) :
    definedName ("#define ".toList ++ (name.toList ++ ' ' :: cs)) = name := by
  have word : (name.toList ++ ' ' :: cs).takeWhile (· ≠ ' ') = name.toList := by
    have inside : ∀ c ∈ name.toList, decide (c ≠ ' ') = true := fun c hc =>
      decide_eq_true fun blank => plain.1 (blank ▸ hc)
    rw [List.takeWhile_append_of_pos inside, List.takeWhile_cons_of_neg (by decide),
      List.append_nil]
  unfold definedName
  rw [List.drop_left, word, String.ofList_toList]

end Header

namespace HeaderItem

/-- The names that the lines of the item define, whatever stands in them. -/
def definedNames (i : HeaderItem) : List String :=
  ((i.lines.flatMap Text.lines).filter Header.isDefinition).map Header.definedName

/-- The name of a macro stands on the first line of its definition, even if the value goes on on
another. -/
theorem head?_definedNames_define {m : Macro} (plain : IsMacroName m.name) :
    (define m).definedNames.head? = some m.name := by
  have front : Text.IsLine ("#define " ++ m.name ++ " ") := by
    simp only [Text.isLine_append]
    exact ⟨⟨by decide, plain.2⟩, by decide⟩
  have line : m.line = ("#define " ++ m.name ++ " ") ++ ("          " ++ m.value.render) := by
    rw [← String.toList_inj, m.toList_line]
    simp
  obtain ⟨first, rest, split⟩ :=
    List.exists_cons_of_ne_nil (List.splitOn_ne_nil '\n' ("          " ++ m.value.render).toList)
  have found : Text.lines m.line =
      ("#define ".toList ++ (m.name.toList ++ ' ' :: first)) :: rest := by
    rw [line, Text.lines_append_of_isLine front, Text.lines, split, List.modifyHead_cons]
    simp
  have definition : Header.isDefinition ("#define ".toList ++ (m.name.toList ++ ' ' :: first)) :=
    List.isPrefixOf_iff_prefix.2 (List.prefix_append ..)
  unfold definedNames lines
  rw [List.flatMap_singleton, found, List.filter_cons_of_pos definition, List.map_cons,
    List.head?_cons, Header.definedName_append plain]

/-- An item defines the name of its macro, and perhaps others. -/
theorem macro?_sublist {i : HeaderItem} (plain : ∀ m, i.macro? = some m → IsMacroName m.name) :
    (i.macro?.map (·.name)).toList.Sublist i.definedNames := by
  cases i with
  | define m =>
    obtain ⟨others, split⟩ := List.head?_eq_some_iff.1 (head?_definedNames_define (plain m rfl))
    rw [split]
    exact (List.nil_sublist others).cons_cons m.name
  | _ => exact List.nil_sublist _

/-- Items define the names of their macros in order, and perhaps others between them. -/
theorem names_sublist {items : List HeaderItem}
    (plain : ∀ m ∈ items.filterMap macro?, IsMacroName m.name) :
    ((items.filterMap macro?).map (·.name)).Sublist (items.flatMap definedNames) := by
  have split : (items.filterMap macro?).map (·.name) =
      items.flatMap fun i => (i.macro?.map (·.name)).toList := by
    rw [List.map_filterMap, List.filterMap_eq_flatMap_toList]
  rw [split]
  clear split
  induction items with
  | nil => exact List.nil_sublist _
  | cons i rest ih =>
    have here := macro?_sublist (i := i) fun m hm =>
      plain m (List.mem_filterMap.2 ⟨i, List.mem_cons_self, hm⟩)
    refine here.append (ih fun m hm => plain m ?_)
    obtain ⟨j, hj, read⟩ := List.mem_filterMap.1 hm
    exact List.mem_filterMap.2 ⟨j, List.mem_cons_of_mem i hj, read⟩

end HeaderItem

namespace Design

/-- Every item of a header is read by itself. -/
theorem definedNames_header_eq (d : Design) :
    Header.definedNames d.header = d.headerItems.flatMap HeaderItem.definedNames := by
  have lastLine : [[]].filter Header.isDefinition = [] := by decide
  unfold Header.definedNames Header.definitions header
  rw [Text.lines_unlines_eq, List.flatMap_assoc, List.filter_append, lastLine, List.append_nil,
    List.filter_flatMap, List.map_flatMap]
  rfl

/-- All macros of a header have names that can be read, however its platform is called. -/
theorem isMacroName_of_mem_macros (d : Design) : ∀ m ∈ d.macros, IsMacroName m.name := by
  intro m hm
  -- the name of the platform is in a value, so another one would do for the names
  let other : Design := { d with platform := "" }
  have names : d.macros.map Macro.name = other.macros.map Macro.name := by
    rw [macros_eq, macros_eq]
    rfl
  have lined : Text.IsLine other.platform := (by decide : Text.IsLine "")
  obtain ⟨m', hm', same⟩ := List.mem_map.1 (names ▸ List.mem_map_of_mem hm)
  rw [← same]
  exact (isPlain_of_mem_macros lined m' hm').1

/-- The header defines the names that its items are made for, in this order, and perhaps others
between them. -/
theorem itemNames_sublist (d : Design) :
    d.itemNames.Sublist (Header.definedNames d.header) := by
  obtain ⟨front, back, split, none, -, -⟩ := d.exists_headerItems_eq
  have macros : d.macros = back.filterMap HeaderItem.macro? := by
    rw [Design.macros, split, List.filterMap_append, none]
    rfl
  have guard : (HeaderItem.directive "#define RESOURCES_H").definedNames = ["RESOURCES_H"] := by
    decide
  have behind := HeaderItem.names_sublist (macros ▸ d.isMacroName_of_mem_macros)
  rw [definedNames_header_eq, split, itemNames, macros, List.flatMap_append, List.flatMap_cons,
    guard]
  exact (behind.cons_cons "RESOURCES_H").trans (List.sublist_append_right _ _)

/-- If the comments keep to their lines, the header defines no other names. -/
theorem definedNames_header {d : Design} (h : d.HasLinedComments) :
    Header.definedNames d.header = d.itemNames := by
  have guard : Header.definedName "#define RESOURCES_H".toList = "RESOURCES_H" := by decide
  rw [Header.definedNames, definitions_header h, List.map_cons, guard, List.map_map]
  refine congrArg ("RESOURCES_H" :: ·) (List.map_congr_left fun m hm => ?_)
  rw [Function.comp_apply, m.toList_line]
  exact Header.definedName_append (d.isMacroName_of_mem_macros m hm) _

end Design

end SocAssembly
