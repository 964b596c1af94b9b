import Mathlib
import SocAssembly.Artifact.LinkerScript
import SocAssembly.Design.Listing
import SocAssembly.Proofs.Elaborating
import SocAssembly.Proofs.HeaderRecovery

/-!
# What a design owes to its board

A design is finished on a platform that has been added to and handed out before, but it takes over
two things from it: its name and the frequency of its clock (`Soc.eq_onBoard_of_finalize`). So a
descriptor that can be elaborated on two platforms gives one design but for these, whatever the two
have and whatever is left out or carried by an alternate on either of them. What is made from the
design differs only where these two show: not at all in the linker script, the memory layout and the
map, and in three lines of the header (`Design.exists_lines_header`).
-/

namespace SocAssembly

namespace Design

/-- The design on another board. -/
def onBoard (d : Design) (platform : String) (frequency : Nat) : Design :=
  { d with platform := platform, clockFrequency := frequency }

@[simp] theorem onBoard_platform (d : Design) (platform : String) (frequency : Nat) :
    (d.onBoard platform frequency).platform = platform := rfl

@[simp] theorem onBoard_clockFrequency (d : Design) (platform : String) (frequency : Nat) :
    (d.onBoard platform frequency).clockFrequency = frequency := rfl

/-- The lines of a header when those that do not tell of the board are given. -/
def headerLines (front middle back : List (List Char)) (platform : String) (frequency : Nat) :
    List (List Char) :=
  front ++ (" * Platform: " ++ platform).toList :: middle ++
    ("#define PLATFORM_NAME           \"" ++ platform ++ "\"").toList ::
    ("#define CLOCK_FREQUENCY           " ++ toString frequency ++ "UL").toList :: back

/-- The designs are one but for the board, and so is what is made from them. -/
structure AgreesWith (d d' : Design) : Prop where
  /-- Nothing but the platform and the frequency of the clock is different. -/
  eq_onBoard : d' = d.onBoard d'.platform d'.clockFrequency
  /-- The linker scripts are the same. -/
  linkerScript_eq : d'.linkerScript = d.linkerScript
  /-- The memory layouts are the same. -/
  memoryLayout_eq : d'.memoryLayout = d.memoryLayout
  /-- The maps are the same. -/
  mapText_eq : d'.mapText = d.mapText
  /-- The headers have the same lines, apart from those that tell of the board. -/
  header : Text.IsLine d.platform → Text.IsLine d'.platform → ∃ front middle back,
    Text.lines d.header = headerLines front middle back d.platform d.clockFrequency ∧
    Text.lines d'.header = headerLines front middle back d'.platform d'.clockFrequency

/-! ### The lines of the header -/

theorem blockLine_append {s : String} (some : s ≠ "") (t : String) :
    HeaderItem.blockLine (s ++ t) = " * " ++ s ++ t := by
  have filled : (s ++ t).isEmpty = false := by
    rw [String.isEmpty_eq_false_iff]
    exact fun empty => some (String.append_eq_empty_iff.1 empty).1
  rw [HeaderItem.blockLine, filled, String.append_assoc]
  rfl

/-- The lines of the header in front of the one that tells of the platform. -/
def firstLines (d : Design) : List String :=
  ["/*", " * Generated by moondancer-soc, do not edit.", " *", " * SoC: " ++ d.name]

/-- The lines of every header from there to the macros that tell of the board. -/
def guardLines : List String :=
  [" */", "", "#ifndef RESOURCES_H", "#define RESOURCES_H", "", "#include \"stdint.h\"", ""]

@[simp] theorem onBoard_firstLines (d : Design) (platform : String) (frequency : Nat) :
    (d.onBoard platform frequency).firstLines = d.firstLines := rfl

/-- What stands in front of the entries, line by line. -/
theorem lines_headerOpening (d : Design) : d.headerOpening.flatMap HeaderItem.lines =
    d.firstLines ++ (" * Platform: " ++ d.platform) :: guardLines ++
      ("#define PLATFORM_NAME           \"" ++ d.platform ++ "\"") ::
      ("#define CLOCK_FREQUENCY           " ++ toString d.clockFrequency ++ "UL") :: [""] := by
  have name : HeaderItem.blockLine ("SoC: " ++ d.name) = " * SoC: " ++ d.name :=
    blockLine_append (by decide) d.name
  have platform : HeaderItem.blockLine ("Platform: " ++ d.platform) = " * Platform: " ++ d.platform :=
    blockLine_append (by decide) d.platform
  have platformName : Macro.line ⟨"PLATFORM_NAME", .text d.platform⟩ =
      "#define PLATFORM_NAME           \"" ++ d.platform ++ "\"" := by
    have spelled : Macro.line ⟨"PLATFORM_NAME", .text d.platform⟩ =
        "#define PLATFORM_NAME           " ++ ("\"" ++ d.platform ++ "\"") := rfl
    rw [spelled, ← String.append_assoc, ← String.append_assoc]
    rfl
  have clockFrequency : Macro.line ⟨"CLOCK_FREQUENCY", .long d.clockFrequency⟩ =
      "#define CLOCK_FREQUENCY           " ++ toString d.clockFrequency ++ "UL" := by
    have spelled : Macro.line ⟨"CLOCK_FREQUENCY", .long d.clockFrequency⟩ =
        "#define CLOCK_FREQUENCY           " ++ (toString d.clockFrequency ++ "UL") := rfl
    rw [spelled, String.append_assoc]
  rw [firstLines, ← name, ← platform, ← platformName, ← clockFrequency]
  rfl

/-- What a header says about the entries. -/
def entryItems (d : Design) : List HeaderItem :=
  [.remark "Memories", .blank] ++ d.memories.flatMap Entry.memoryItems ++ [.blank] ++
  [.remark "Interrupts", .blank] ++ d.interrupts.map (.define ∘ interruptMacro) ++ [.blank] ++
  d.peripherals.flatMap Entry.peripheralItems ++
  [.directive "#endif /* RESOURCES_H */"]

/-- The header of a design on any board has three lines that tell of the board, and the rest is the
same for all boards. -/
theorem exists_lines_header (d : Design) : ∃ front middle back, ∀ platform frequency,
    Text.IsLine platform → Text.lines (d.onBoard platform frequency).header =
      headerLines front middle back platform frequency := by
  refine ⟨d.firstLines.flatMap Text.lines, guardLines.flatMap Text.lines,
    ("" :: d.entryItems.flatMap HeaderItem.lines).flatMap Text.lines ++ [[]],
    fun platform frequency lined => ?_⟩
  have items : (d.onBoard platform frequency).headerItems =
      (d.onBoard platform frequency).headerOpening ++ d.entryItems := by
    simp only [headerItems, entryItems, List.append_assoc]
    rfl
  have remark : Text.lines (" * Platform: " ++ platform) = [(" * Platform: " ++ platform).toList] :=
    Text.lines_of_isLine (Text.isLine_append.2 ⟨by decide, lined⟩)
  have platformName : Text.lines ("#define PLATFORM_NAME           \"" ++ platform ++ "\"") =
      [("#define PLATFORM_NAME           \"" ++ platform ++ "\"").toList] := by
    refine Text.lines_of_isLine ?_
    rw [Text.isLine_append, Text.isLine_append]
    exact ⟨⟨by decide, lined⟩, by decide⟩
  have clockFrequency :
      Text.lines ("#define CLOCK_FREQUENCY           " ++ toString frequency ++ "UL") =
        [("#define CLOCK_FREQUENCY           " ++ toString frequency ++ "UL").toList] := by
    refine Text.lines_of_isLine ?_
    rw [Text.isLine_append, Text.isLine_append]
    exact ⟨⟨by decide, isLine_toString frequency⟩, by decide⟩
  have opening := (d.onBoard platform frequency).lines_headerOpening
  rw [onBoard_platform, onBoard_clockFrequency, onBoard_firstLines] at opening
  rw [header, items, List.flatMap_append, opening, Text.lines_unlines_eq]
  simp only [List.flatMap_append, List.flatMap_cons, remark, platformName,
    clockFrequency, headerLines, List.append_assoc, List.cons_append, List.nil_append]

/-- A design on two boards. -/
theorem agreesWith_of_eq_onBoard {d d' : Design}
    (h : d' = d.onBoard d'.platform d'.clockFrequency) : d.AgreesWith d' where
  eq_onBoard := h
  linkerScript_eq := by
    rw [h]
    rfl
  memoryLayout_eq := by
    rw [h]
    rfl
  mapText_eq := by
    rw [h]
    rfl
  header lined lined' := by
    obtain ⟨front, middle, back, lines⟩ := d.exists_lines_header
    refine ⟨front, middle, back, lines d.platform d.clockFrequency lined, ?_⟩
    have there := lines d'.platform d'.clockFrequency lined'
    rwa [← h] at there

end Design

/-! ### Two runs -/

/-- Handing out does not give a platform another name. -/
theorem Platform.name_eq {p q : Platform} {ks : List ResourceKey} (h : Handout p q ks) :
    q.name = p.name := by
  obtain ⟨added, board⟩ := h.board_eq
  rw [name, board]
  rfl

namespace Soc

/-- The design that a system is finished as depends on the board only in its name and clock. -/
theorem eq_onBoard_of_finalize {s : Soc} {p q : Platform} {d d' : Design}
    (h : (s.finalize p).outcome = .ok d) (h' : (s.finalize q).outcome = .ok d') :
    d' = d.onBoard d'.platform d'.clockFrequency := by
  unfold finalize at h h'
  obtain ⟨a, allocated, h⟩ := Report.bind_eq_ok_iff.1 h
  obtain ⟨a', allocated', h'⟩ := Report.bind_eq_ok_iff.1 h'
  obtain rfl : a = a' := Except.ok.inj (allocated.symm.trans allocated')
  obtain ⟨frequency, -, h⟩ := Report.bind_eq_ok_iff.1 h
  obtain ⟨frequency', -, h'⟩ := Report.bind_eq_ok_iff.1 h'
  obtain ⟨memories, placed, h⟩ := Report.bind_eq_ok_iff.1 h
  obtain ⟨memories', placed', h'⟩ := Report.bind_eq_ok_iff.1 h'
  obtain rfl : memories = memories' := Except.ok.inj (placed.symm.trans placed')
  obtain ⟨peripherals, placed, h⟩ := Report.bind_eq_ok_iff.1 h
  obtain ⟨peripherals', placed', h'⟩ := Report.bind_eq_ok_iff.1 h'
  obtain rfl : peripherals = peripherals' := Except.ok.inj (placed.symm.trans placed')
  obtain ⟨regions, chosen, h⟩ := Report.bind_eq_ok_iff.1 h
  obtain ⟨regions', chosen', h'⟩ := Report.bind_eq_ok_iff.1 h'
  obtain rfl : regions = regions' := Except.ok.inj (chosen.symm.trans chosen')
  rw [Report.pure_eq_ok_iff] at h h'
  rw [← h, ← h']
  rfl

theorem platform_eq_of_finalize {s : Soc} {p : Platform} {d : Design}
    (h : (s.finalize p).outcome = .ok d) : d.platform = p.name := by
  obtain ⟨a, finalized⟩ := finalize_eq_ok_iff.1 h
  exact finalized.named.2.1

end Soc

namespace Descriptor

variable {d : Descriptor} {p : Platform} {e : Elaboration}

/-- An elaboration finishes the described system on a platform of the same name. -/
theorem exists_finalize_of_elaborate (h : ((elaborate d).run p).2.outcome = .ok e) :
    ∃ soc q, Soc.ofDescriptor d = .ok soc ∧ (soc.finalize q).outcome = .ok e.design ∧
      q.name = p.name := by
  unfold elaborate at h
  simp only [Session.outcome_bind_eq_ok_iff, Session.run_state_bind, Session.run_ofExcept,
    Session.run_ofReport] at h
  obtain ⟨soc, described, _, -, _, -, clock, -, signals, -, _, -, design, finished, _, -, h⟩ := h
  cases h
  refine ⟨soc, _, described, finished, ?_⟩
  rw [Platform.name_eq (Platform.bindAll_handsOut _ _).handout,
    Platform.name_eq (Platform.request_settles _ _).handsOut.handout,
    Platform.name_eq (Platform.addResources_handsOut _ _).handout]

/-- **The board does not leak into the address map.** A descriptor that can be elaborated on two
platforms gives the same design on both, but for the name of the platform and the frequency of the
clock, and so are the files that are made from it. -/
theorem agreesWith_of_elaborate {q : Platform} {e' : Elaboration}
    (h : ((elaborate d).run p).2.outcome = .ok e)
    (h' : ((elaborate d).run q).2.outcome = .ok e') :
    e.design.platform = p.name ∧ e'.design.platform = q.name ∧
      e.design.AgreesWith e'.design := by
  obtain ⟨soc, here, described, finished, name⟩ := exists_finalize_of_elaborate h
  obtain ⟨soc', there, described', finished', name'⟩ := exists_finalize_of_elaborate h'
  obtain rfl : soc = soc' := Except.ok.inj (described.symm.trans described')
  refine ⟨?_, ?_, ?_⟩
  · rw [Soc.platform_eq_of_finalize finished, name]
  · rw [Soc.platform_eq_of_finalize finished', name']
  · exact Design.agreesWith_of_eq_onBoard (Soc.eq_onBoard_of_finalize finished finished')

/-- A design with a lamp, and with a button if the board has one. -/
def panel : Descriptor where
  name := "panel"
  cpu := { name := "vexriscv", variant := "imac" }
  memories := [{ memory := ⟨"blockram", .ram, 0x8000, "Firmware memory"⟩, address := some 0 }]
  peripherals := [
    { name := "leds", kind := .leds, address := some 0xf0000000 },
    { name := "gpio", kind := .gpio, address := some 0xf0000100 }]
  wires := [
    { signal := "leds.output", candidates := [⟨"led", 0⟩, ⟨"pmod", 0⟩] },
    { signal := "gpio.pins", candidates := [⟨"button", 0⟩], policy := .optional }]

/-- A board with all that the design asks for. -/
def fullBoard : Platform where
  board := {
    name := "full"
    device := "LFE5U-12F"
    package := "BG256"
    defaultClock := "clk"
    clockFrequencies := .ofList [("usb", 60.0)]
    resources := [
      { name := "clk", pins := some "A7", dir := .input },
      { name := "led", pins := some "E13", dir := .output },
      { name := "button", pins := some "M14", dir := .input }] }

/-- A board without a lamp and without a button. -/
def sparseBoard : Platform where
  board := {
    name := "sparse"
    device := "LFE5U-25F"
    package := "BG256"
    defaultClock := "osc"
    clockFrequencies := .ofList [("usb", 48.0)]
    resources := [
      { name := "osc", pins := some "B6", dir := .input },
      { name := "pmod", pins := some "1 2" }] }

theorem agreesWith_panel : ∃ e e',
    ((elaborate panel).run fullBoard).2.outcome = .ok e ∧
    ((elaborate panel).run sparseBoard).2.outcome = .ok e' ∧
    e.signals.map (·.binding.port) = ["led_0", "button_0"] ∧
    e'.signals.map (·.binding.port) = ["pmod_0"] ∧
    e.design.platform = "full" ∧ e'.design.platform = "sparse" ∧
    e.design.AgreesWith e'.design := by
  have full : ∃ e, ((elaborate panel).run fullBoard).2.outcome = .ok e ∧
      e.signals.map (·.binding.port) = ["led_0", "button_0"] := ⟨_, rfl, by decide⟩
  have sparse : ∃ e, ((elaborate panel).run sparseBoard).2.outcome = .ok e ∧
      e.signals.map (·.binding.port) = ["pmod_0"] := ⟨_, rfl, by decide⟩
  obtain ⟨e, he, ports⟩ := full
  obtain ⟨e', he', ports'⟩ := sparse
  exact ⟨e, e', he, he', ports, ports', agreesWith_of_elaborate he he'⟩

end Descriptor

end SocAssembly
