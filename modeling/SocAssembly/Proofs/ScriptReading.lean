import Mathlib
import SocAssembly.Build.Plan
import SocAssembly.Platform.Cynthion
import SocAssembly.Proofs.CaseMapping
import SocAssembly.Proofs.Numerals
import SocAssembly.Proofs.Splitting

/-!
# What a shell reads in the build script

A build calls its tools step by step, and the build script is to call them in the same way when a
shell reads it. Here the script is read back, and the commands are compared with the steps.

## The model

A shell takes a script line by line. Blanks and tabs separate the words of a line, the first word is
the program, and a line that starts with a number sign is a remark. The program may be a parameter
in double quotes with a default: it stands for the value of a variable, or for the default if the
variable is not set or empty (`Shell.valueOr`).

What is *not* modelled is the meaning that other marks have to a shell: behind a leading parameter,
quotes, dollar signs and the like are characters of words.

A step and its line agree on the arguments exactly if each of them is a word, and on the program
exactly if the variable is not set to the empty text: the shell then takes the default, while the
step has the empty text for its program (`Shell.commands_shellScript_iff`). Of the arguments of a
plan, only the package of the FPGA is taken from a description without a check.
-/

namespace SocAssembly

/-- A program with what it is called with. -/
structure ToolCall where
  /-- The program. -/
  program : String
  /-- The arguments. -/
  args : List String
  deriving DecidableEq, Repr

/-- The call that a step makes. -/
def ToolStep.call (s : ToolStep) : ToolCall := ⟨s.program, s.args⟩

namespace Shell

/-! ### Reading -/

/-- The character separates the words of a line. -/
def separates (c : Char) : Bool := c = ' ' || c = '\t'

/-- The words of a part of a line. -/
def words (cs : List Char) : List String :=
  ((cs.splitOnP separates).filter (· ≠ [])).map String.ofList

/-- The value of a variable that is set and not empty, or else the default. -/
def valueOr (environment : Dict String) (name usual : String) : String :=
  match environment.get? name with
  | some value => if value = "" then usual else value
  | none => usual

/-- A parameter in double quotes: the name, the default and what stands behind the quotes. -/
def parameter? (cs : List Char) : Option (List Char × List Char × List Char) :=
  match cs with
  | '"' :: '$' :: '\x7b' :: inner =>
    match Text.cut? ':' inner with
    | some (name, '-' :: inner) =>
      match Text.cut? '\x7d' inner with
      | some (usual, '"' :: rest) => some (name, usual, rest)
      | _ => none
    | _ => none
  | _ => none

/-- The command on a line, if there is one. -/
def command? (environment : Dict String) (line : List Char) : Option ToolCall :=
  let start := line.dropWhile separates
  if start.head? = some '#' then none
  else
    match parameter? start with
    | some (name, usual, rest) =>
      -- what follows the quotes without a blank belongs to the same word
      some
        { program := valueOr environment (String.ofList name) (String.ofList usual) ++
            String.ofList (rest.takeWhile (!separates ·))
          args := words (rest.dropWhile (!separates ·)) }
    | none =>
      match words start with
      | [] => none
      | program :: args => some ⟨program, args⟩

/-- The commands of a script, in order. -/
def commands (environment : Dict String) (script : String) : List ToolCall :=
  (Text.lines script).filterMap (command? environment)

/-! ### Words -/

/-- The characters at which a word ends. -/
def breaks : List Char := [' ', '\t', '\n']

/-- A text that a shell takes for one word. -/
def IsWord (a : String) : Prop := a ≠ "" ∧ ∀ c ∈ breaks, c ∉ a.toList

instance (a : String) : Decidable (IsWord a) :=
  have : Decidable (∀ c ∈ breaks, c ∉ a.toList) := List.decidableBAll _ breaks
  inferInstanceAs (Decidable (a ≠ "" ∧ ∀ c ∈ breaks, c ∉ a.toList))

/-- Within a word nothing separates. -/
theorem IsWord.separates {a : String} (h : IsWord a) {c : Char} (hc : c ∈ a.toList) :
    separates c = false := by
  have marks : ∀ d ∈ [' ', '\t'], c ≠ d := by
    rintro d hd rfl
    exact h.2 c (List.mem_of_mem_take (i := 2) hd) hc
  simpa [Shell.separates] using marks

/-- What is cut from a line is a word. -/
theorem isWord_of_mem_words {cs : List Char} (line : '\n' ∉ cs) {a : String} (h : a ∈ words cs) :
    IsWord a := by
  obtain ⟨w, hw, rfl⟩ := List.mem_map.1 h
  obtain ⟨hw, notEmpty⟩ := List.mem_filter.1 hw
  have piece := Text.of_mem_splitOnP hw
  refine ⟨by simpa using notEmpty, fun c hc mem => ?_⟩
  rw [String.toList_ofList] at mem
  obtain ⟨inLine, inside⟩ := piece c mem
  have feed : ∀ c ∈ breaks, Shell.separates c = false → c = '\n' := by
    simp [breaks, Shell.separates]
  exact line (feed c hc inside ▸ inLine)

/-- Words that are written with a blank in front of each are found again. -/
theorem words_flatMap {as : List String} (h : ∀ a ∈ as, IsWord a) :
    words (as.flatMap fun a => ' ' :: a.toList) = as := by
  have joined : (as.flatMap fun a => ' ' :: a.toList) =
      [' '].intercalate ([] :: as.map String.toList) := by
    rw [Text.intercalate_cons, List.nil_append, List.flatMap_map]
  unfold words
  rw [joined, Text.splitOnP_intercalate (by decide) ?_ (by simp), List.filter_cons_of_neg (by simp),
    List.filter_eq_self.2 ?_, List.map_map]
  · simp [Function.comp_def]
  · intro w hw
    obtain ⟨a, ha, rfl⟩ := List.mem_map.1 hw
    have notEmpty := (h a ha).1
    simpa using notEmpty
  · intro w hw c hc
    rcases List.mem_cons.1 hw with rfl | hw
    · cases hc
    · obtain ⟨a, ha, rfl⟩ := List.mem_map.1 hw
      exact (h a ha).separates hc

/-! ### Parameters -/

/-- A parameter is read from the front of a line exactly if it is written there. -/
theorem parameter?_eq_some_iff {cs name usual rest : List Char} :
    parameter? cs = some (name, usual, rest) ↔ ':' ∉ name ∧ '\x7d' ∉ usual ∧
      cs = '"' :: '$' :: '\x7b' :: (name ++ ':' :: '-' :: (usual ++ '\x7d' :: '"' :: rest)) := by
  constructor
  · intro h
    unfold parameter? at h
    split at h
    · rename_i inner
      split at h
      · rename_i cutName
        split at h
        · rename_i cutUsual
          obtain ⟨hname, rfl⟩ := Text.cut?_eq_some_iff.1 cutName
          obtain ⟨husual, rfl⟩ := Text.cut?_eq_some_iff.1 cutUsual
          cases h
          exact ⟨hname, husual, rfl⟩
        · cases h
      · cases h
    · cases h
  · rintro ⟨hname, husual, rfl⟩
    simp [parameter?, Text.cut?_eq_some_iff.2 ⟨hname, rfl⟩, Text.cut?_eq_some_iff.2 ⟨husual, rfl⟩]

/-- Whatever a script says, its commands have words for arguments. -/
theorem isWord_of_mem_args {environment : Dict String} {script : String} {c : ToolCall}
    (h : c ∈ commands environment script) : ∀ a ∈ c.args, IsWord a := by
  obtain ⟨line, hline, hc⟩ := List.mem_filterMap.1 h
  have noFeed : '\n' ∉ line.dropWhile separates := fun mem =>
    Text.lineFeed_notMem_of_mem_lines hline ((List.dropWhile_sublist _).subset mem)
  unfold command? at hc
  generalize line.dropWhile separates = start at hc noFeed
  simp only at hc
  split at hc
  · cases hc
  · intro a ha
    split at hc
    · rename_i name usual rest read
      cases hc
      -- the arguments are read from a part of the line
      refine isWord_of_mem_words (fun mem => noFeed ?_) ha
      rw [(parameter?_eq_some_iff.1 read).2.2]
      simp [(List.dropWhile_sublist _).subset mem]
    · split at hc
      · cases hc
      · rename_i program args read
        cases hc
        exact isWord_of_mem_words noFeed (read ▸ List.mem_cons_of_mem program ha)

/-! ### The lines of a build script -/

/-- A call whose variable and usual program can be written as a parameter, with the program that an
environment gives to it. -/
structure IsConfigured (environment : Dict String) (s : ToolStep) : Prop where
  setting : ':' ∉ s.setting.toList ∧ '\n' ∉ s.setting.toList
  usualProgram : s.usualProgram ≠ "" ∧ '\x7d' ∉ s.usualProgram.toList ∧
    '\n' ∉ s.usualProgram.toList
  program : s.program = (environment.get? s.setting).getD s.usualProgram

theorem toList_shellLine (s : ToolStep) :
    s.shellLine.toList = '"' :: '$' :: '\x7b' :: (s.setting.toList ++ ':' :: '-' ::
      (s.usualProgram.toList ++ '\x7d' :: '"' :: s.args.flatMap fun a => ' ' :: a.toList)) := by
  have args : (String.join (s.args.map (" " ++ ·))).toList =
      s.args.flatMap fun a => ' ' :: a.toList := by
    induction s.args with
    | nil => rfl
    | cons a rest ih =>
      rw [List.map_cons, String.join_cons, String.toList_append, ih, String.toList_append]
      rfl
  simp [ToolStep.shellLine, args]

/-- A line whose arguments are words is read as the call it was written for, but for the program. -/
theorem command?_shellLine {environment : Dict String} {s : ToolStep}
    (configured : IsConfigured environment s) (args : ∀ a ∈ s.args, IsWord a) :
    command? environment s.shellLine.toList =
      some ⟨valueOr environment s.setting s.usualProgram, s.args⟩ := by
  have read : parameter? s.shellLine.toList = some (s.setting.toList, s.usualProgram.toList,
      s.args.flatMap fun a => ' ' :: a.toList) :=
    parameter?_eq_some_iff.2
      ⟨configured.setting.1, configured.usualProgram.2.1, toList_shellLine s⟩
  have start : s.shellLine.toList.dropWhile separates = s.shellLine.toList := by
    rw [toList_shellLine, List.dropWhile_cons_of_neg (by decide)]
  have notRemark : s.shellLine.toList.head? ≠ some '#' := by
    rw [toList_shellLine, List.head?_cons]
    decide
  -- either nothing follows the quotes or a blank does
  have word : (s.args.flatMap fun a => ' ' :: a.toList).takeWhile (!separates ·) = [] := by
    cases s.args with
    | nil => rfl
    | cons a rest => exact List.takeWhile_cons_of_neg (by decide)
  have behind := List.takeWhile_append_dropWhile (p := (!separates ·))
    (l := s.args.flatMap fun a => ' ' :: a.toList)
  rw [word, List.nil_append] at behind
  unfold command?
  rw [start]
  simp only [read]
  rw [if_neg notRemark, word, behind, words_flatMap args, String.ofList_toList, String.ofList_toList,
    String.ofList_nil, String.append_empty]

/-- A call whose arguments are words fits on a line. -/
theorem isLine_shellLine {environment : Dict String} {s : ToolStep}
    (configured : IsConfigured environment s) (args : ∀ a ∈ s.args, IsWord a) :
    Text.IsLine s.shellLine := by
  have inArgs : '\n' ∉ s.args.flatMap fun a => ' ' :: a.toList := by
    intro mem
    obtain ⟨a, ha, mem⟩ := List.mem_flatMap.1 mem
    rcases List.mem_cons.1 mem with same | mem
    · exact absurd same (by decide)
    · exact (args a ha).2 '\n' (by decide) mem
  unfold Text.IsLine
  rw [toList_shellLine]
  simp [configured.setting.2, configured.usualProgram.2.2, inArgs]

/-- The calls that a shell makes when it runs a build script whose arguments are words. -/
theorem commands_shellScript {environment : Dict String} {steps : List ToolStep}
    (configured : ∀ s ∈ steps, IsConfigured environment s)
    (args : ∀ s ∈ steps, ∀ a ∈ s.args, IsWord a) :
    commands environment (shellScript steps) = ⟨"set", ["-e"]⟩ :: steps.map fun s =>
      ⟨valueOr environment s.setting s.usualProgram, s.args⟩ := by
  have opening : (["#!/bin/sh", "# Generated by moondancer-soc, do not edit.", "set -e"].map
      String.toList).filterMap (command? environment) = [⟨"set", ["-e"]⟩] := rfl
  have calls : ((steps.map ToolStep.shellLine).map String.toList).filterMap (command? environment) =
      steps.map fun s => ⟨valueOr environment s.setting s.usualProgram, s.args⟩ := by
    rw [List.map_map, List.filterMap_map, ← List.filterMap_eq_map]
    refine List.filterMap_congr fun s hs => ?_
    exact command?_shellLine (configured s hs) (args s hs)
  have lastLine : [[]].filterMap (command? environment) = [] := rfl
  unfold commands shellScript
  rw [Text.lines_unlines]
  · rw [List.map_append, List.filterMap_append, List.filterMap_append, opening, calls, lastLine,
      List.append_nil, List.singleton_append]
  · intro l hl
    rcases List.mem_append.1 hl with hl | hl
    · have openingLines : ∀ l ∈ ["#!/bin/sh", "# Generated by moondancer-soc, do not edit.",
          "set -e"], Text.IsLine l := by decide
      exact openingLines l hl
    · obtain ⟨s, hs, rfl⟩ := List.mem_map.1 hl
      exact isLine_shellLine (configured s hs) (args s hs)

theorem valueOr_eq_getD_iff {environment : Dict String} {name usual : String} (some : usual ≠ "") :
    valueOr environment name usual = (environment.get? name).getD usual ↔
      environment.get? name ≠ Option.some "" := by
  unfold valueOr
  cases environment.get? name with
  | none => simp
  | some value =>
    by_cases empty : value = ""
    · simp [empty, some]
    · simp [empty]

/-- A shell makes the calls of the steps exactly if no variable that is looked at is set to the
empty text and every argument is a word. -/
theorem commands_shellScript_iff {environment : Dict String} {steps : List ToolStep}
    (configured : ∀ s ∈ steps, IsConfigured environment s) :
    commands environment (shellScript steps) = ⟨"set", ["-e"]⟩ :: steps.map ToolStep.call ↔
      (∀ s ∈ steps, environment.get? s.setting ≠ some "") ∧ ∀ s ∈ steps, ∀ a ∈ s.args, IsWord a := by
  constructor
  · intro same
    have args : ∀ s ∈ steps, ∀ a ∈ s.args, IsWord a := by
      intro s hs
      have read : s.call ∈ commands environment (shellScript steps) := by
        rw [same]
        exact List.mem_cons_of_mem _ (List.mem_map_of_mem hs)
      exact isWord_of_mem_args read
    rw [commands_shellScript configured args, List.cons_inj_right] at same
    refine ⟨fun s hs => ?_, args⟩
    have program := congrArg ToolCall.program (List.map_inj_left.1 same s hs)
    rw [← valueOr_eq_getD_iff (configured s hs).usualProgram.1, ← (configured s hs).program]
    exact program
  · rintro ⟨settings, args⟩
    rw [commands_shellScript configured args, List.cons_inj_right]
    refine List.map_inj_left.2 fun s hs => ?_
    unfold ToolStep.call
    rw [(valueOr_eq_getD_iff (configured s hs).usualProgram.1).2 (settings s hs),
      (configured s hs).program]

/-! ### Build plans -/

theorem isWord_uppercase_iff {s : String} : IsWord (Text.uppercase s) ↔ IsWord s := by
  have marks : ∀ c ∈ breaks, Text.IsMark c := by
    simp [breaks, Text.IsMark, Text.markCodes]
  refine and_congr (not_congr ?_) (forall₂_congr fun c hc => ?_)
  · rw [← String.toList_eq_nil_iff, ← String.toList_eq_nil_iff, Text.toList_uppercase_eq_nil_iff]
  · rw [Text.mem_uppercase_iff (marks c hc)]

/-- No digit ends a word. -/
theorem notMem_of_isDigit {cs : List Char} (digits : ∀ c ∈ cs, c.isDigit = true) :
    ∀ c ∈ breaks, c ∉ cs := by
  have noDigits : ∀ c ∈ breaks, c.isDigit = false := by simp [breaks]
  intro c hc mem
  simpa [noDigits c hc] using digits c mem

theorem isWord_toString (n : Nat) : IsWord (toString n) := by
  refine ⟨?_, notMem_of_isDigit fun c hc => Text.isDigit_of_mem_toString hc⟩
  rw [Ne, ← String.toList_eq_nil_iff]
  exact Text.toList_toString_ne_nil n

theorem notMem_familyMark {family mark : String} (h : familyMark? family = some mark) :
    ∀ c ∈ breaks, c ∉ mark.toList := by
  have marks : ∀ mark ∈ ["", "um-", "um5g-"], ∀ c ∈ breaks, c ∉ mark.toList := by
    simp [breaks]
  refine marks mark ?_
  unfold familyMark? at h
  split at h <;> cases h <;> decide

/-- The flag of a supported device can stand in a script. -/
theorem isWord_deviceFlag {device flag : String} (h : deviceFlag? device = some flag) :
    IsWord ("--" ++ flag) := by
  unfold deviceFlag? at h
  split at h
  · rename_i family size _
    obtain ⟨cells, hcells, h⟩ := Option.bind_eq_some_iff.1 h
    obtain ⟨mark, hmark, h⟩ := Option.bind_eq_some_iff.1 h
    cases h
    have isDigit : ∀ c ∈ cells, c.isDigit = true := by
      unfold cellCount? at hcells
      simp only at hcells
      split at hcells
      · rename_i counted
        cases hcells
        simpa using (Bool.and_eq_true_iff.1 counted).2
      · cases hcells
    refine ⟨by simp, fun c hc => ?_⟩
    have ends : c ∉ "--".toList ∧ c ∉ "k".toList := by
      revert c
      simp [breaks]
    simp only [String.toList_append, String.toList_ofList, List.mem_append, not_or]
    exact ⟨ends.1, ⟨notMem_familyMark hmark c hc, notMem_of_isDigit isDigit c hc⟩, ends.2⟩
  · cases h

section Plan

variable {environment : Dict String} {b : Board} {options : BuildOptions} {flag : String}

/-- The variables that name the tools. -/
def settings : List String := ["YOSYS", "NEXTPNR_ECP5", "ECPPACK"]

theorem map_setting_toolSteps :
    (toolSteps environment b options flag).map ToolStep.setting = settings := rfl

theorem isConfigured_of_mem_toolSteps :
    ∀ s ∈ toolSteps environment b options flag, IsConfigured environment s := by
  have ofEnvironment : ∀ setting usual args, ':' ∉ setting.toList ∧ '\n' ∉ setting.toList →
      usual ≠ "" ∧ '\x7d' ∉ usual.toList ∧ '\n' ∉ usual.toList →
      IsConfigured environment (.ofEnvironment environment setting usual args) :=
    fun setting usual args hsetting husual => ⟨hsetting, husual, rfl⟩
  simp only [toolSteps, List.forall_mem_cons, List.not_mem_nil, false_implies, implies_true]
  refine ⟨?yosys, ?nextpnr, ?ecppack, trivial⟩ <;> exact ofEnvironment _ _ _ (by decide) (by decide)

/-- What the tools are always called with. -/
def fixedArgs : List String :=
  ["-q", "-l", "top.rpt", "top.ys", "--quiet", "--log", "top.tim", "--package", "--speed", "--json",
    "top.json", "--lpf", "top.lpf", "--textcfg", "top.config", "--verbose", "--input", "--bit",
    "top.bit"]

theorem flagIf_subset (wanted : Bool) (f : String) : flagIf wanted f ⊆ [f] := by
  unfold flagIf
  split
  · exact List.Subset.refl _
  · exact List.nil_subset _

/-- What else they are called with is the device, the package and the speed grade. -/
theorem args_subset_of_mem_toolSteps {s : ToolStep}
    (h : s ∈ toolSteps environment b options flag) :
    s.args ⊆ fixedArgs ++ ["--" ++ flag, Text.uppercase b.package, toString b.speed] := by
  simp only [toolSteps, List.mem_cons, List.not_mem_nil, or_false] at h
  rcases h with rfl | rfl | rfl
  all_goals
    refine List.append_subset.2 ⟨List.Subset.trans (flagIf_subset _ _) ?_, ?_⟩ <;>
      simp [fixedArgs, List.cons_subset]

/-- Of all that the tools are called with, only the package may fail to be a word. -/
theorem isWord_args_toolSteps (h : deviceFlag? b.device = some flag) :
    (∀ s ∈ toolSteps environment b options flag, ∀ a ∈ s.args, IsWord a) ↔ IsWord b.package := by
  constructor
  · intro all
    have step : ToolStep.ofEnvironment environment "NEXTPNR_ECP5" "nextpnr-ecp5" _ ∈
        toolSteps environment b options flag := List.mem_cons_of_mem _ (List.mem_cons_self ..)
    refine isWord_uppercase_iff.1 (all _ step _ ?_)
    simp [ToolStep.ofEnvironment]
  · intro package s hs a ha
    have fixed : ∀ a ∈ fixedArgs, IsWord a := by decide
    rcases List.mem_append.1 (args_subset_of_mem_toolSteps hs ha) with ha | ha
    · exact fixed a ha
    · simp only [List.mem_cons, List.not_mem_nil, or_false] at ha
      rcases ha with rfl | rfl | rfl
      · exact isWord_deviceFlag h
      · exact isWord_uppercase_iff.2 package
      · exact isWord_toString b.speed

end Plan

end Shell

namespace Elaboration

/-- The build script makes the calls of a plan, in order, exactly if no variable for a tool is set
to the empty text and the package is a word. -/
theorem commands_buildScript (e : Elaboration) (environment : Dict String) (b : Board)
    (options : BuildOptions) (flag : String) (supported : deviceFlag? b.device = some flag) :
    ∃ plan script, e.plan environment b options = .ok plan ∧
      plan.file? "build_top.sh" = some script ∧
      (Shell.commands environment script = ⟨"set", ["-e"]⟩ :: plan.steps.map ToolStep.call ↔
        (∀ setting ∈ Shell.settings, environment.get? setting ≠ some "") ∧
          Shell.IsWord b.package) := by
  have device : deviceFlag b.device = .ok flag := by rw [deviceFlag, supported]
  let steps := toolSteps environment b options flag
  have planned : e.plan environment b options = .ok
      { buildDirectory := options.buildDirectory
        files := [⟨"top.lpf", e.constraintFile⟩, ⟨"top.ys", synthesisScript options.debugVerilog⟩,
          ⟨"build_top.sh", shellScript steps⟩]
        steps := steps } := by
    unfold plan
    rw [device]
    rfl
  refine ⟨_, shellScript steps, planned, rfl, ?_⟩
  rw [Shell.commands_shellScript_iff Shell.isConfigured_of_mem_toolSteps,
    Shell.isWord_args_toolSteps supported, ← Shell.map_setting_toolSteps, List.forall_mem_map]

/-- An elaborated design with nothing in it. -/
def empty : Elaboration where
  design :=
    { name := "empty"
      platform := "CynthionPlatformRev1D4"
      cpu := { name := "vexriscv", variant := "imac" }
      clockFrequency := 60000000
      memories := []
      peripherals := []
      regions := .replicate "blockram" }
  clock :=
    { requested := "clk_60MHz", resource := "clk_60MHz", number := 0, fallback := false,
      clock := some 60e6, signals := [] }
  signals := []

/-- An environment that chooses the program for synthesis and no other. -/
def synthesisBy (program : String) : Dict String := .ofList [("YOSYS", program)]

theorem commands_buildScript_empty : deviceFlag? Cynthion.rev1d4.device = some "12k" ∧
    ∃ plan script, empty.plan (synthesisBy "/opt/yosys") Cynthion.rev1d4 {} = .ok plan ∧
      plan.file? "build_top.sh" = some script ∧
      Shell.commands (synthesisBy "/opt/yosys") script =
        ⟨"set", ["-e"]⟩ :: plan.steps.map ToolStep.call := by
  have supported : deviceFlag? Cynthion.rev1d4.device = some "12k" := by decide
  obtain ⟨plan, script, planned, written, same⟩ :=
    commands_buildScript empty (synthesisBy "/opt/yosys") Cynthion.rev1d4 {} "12k" supported
  exact ⟨supported, plan, script, planned, written, same.2 ⟨by decide, by decide⟩⟩

/-- With a variable that is set to the empty text, the script calls the usual program where the
plan has the empty text for a program. -/
theorem commands_buildScript_emptyVariable :
    ∃ plan script, empty.plan (synthesisBy "") Cynthion.rev1d4 {} = .ok plan ∧
      plan.file? "build_top.sh" = some script ∧
      (Shell.commands (synthesisBy "") script)[1]? =
        some ⟨"yosys", ["-q", "-l", "top.rpt", "top.ys"]⟩ ∧
      (plan.steps.map ToolStep.call)[0]? = some ⟨"", ["-q", "-l", "top.rpt", "top.ys"]⟩ := by
  refine ⟨_, _, rfl, rfl, ?_, rfl⟩
  rw [Shell.commands_shellScript Shell.isConfigured_of_mem_toolSteps
    ((Shell.isWord_args_toolSteps (by decide)).2 (by decide))]
  rfl

end Elaboration
end SocAssembly
