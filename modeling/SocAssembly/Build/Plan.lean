import SocAssembly.Build.Constraints
import SocAssembly.FileTree
import SocAssembly.Text.LetterCase

/-!
# Build plans

## The model

Three tools turn a netlist into the configuration of an FPGA: one synthesises, one places and
routes, one packs. A build plan holds the files that they read and how each of them is called. Each
tool has a usual program, and an environment variable may name another. The same calls are written
into a shell script, which looks at the variables itself (`ToolStep.shellLine`).

Place and route wants to know the device. Only one family of three members is supported, and the
flag is made from the family and the number of cells in the part number (`deviceFlag`).
-/

namespace SocAssembly

/-- How a build is to go. -/
structure BuildOptions where
  /-- The directory for all files of the build. -/
  buildDirectory : String := "build"
  /-- The netlist, if it is not in the build directory already. -/
  netlist : Option String := none
  /-- The synthesised design is also written for a reader. -/
  debugVerilog : Bool := true
  /-- The tools talk. -/
  verbose : Bool := false
  /-- The tools are not run. -/
  skipSynthesis : Bool := false
  deriving DecidableEq, Repr

/-- A call of a tool. -/
structure ToolStep where
  /-- The environment variable that may name another program. -/
  setting : String
  /-- The usual program. -/
  usualProgram : String
  /-- The program that is called. -/
  program : String
  /-- What it is called with. -/
  args : List String
  deriving DecidableEq, Repr

namespace ToolStep

/-- The call of a tool in an environment. -/
def ofEnvironment (environment : Dict String) (setting usualProgram : String)
    (args : List String) : ToolStep where
  setting := setting
  usualProgram := usualProgram
  program := (environment.get? setting).getD usualProgram
  args := args

/-- The call as a line of a shell script. -/
def shellLine (s : ToolStep) : String :=
  let program := "\"$\x7b" ++ s.setting ++ ":-" ++ s.usualProgram ++ "\x7d\""
  program ++ String.join (s.args.map (" " ++ ·))

end ToolStep

/-- A file of a build. -/
structure PlanFile where
  /-- Its name in the build directory. -/
  name : String
  /-- What it holds. -/
  content : String
  deriving DecidableEq, Repr

/-- What a build needs. -/
structure BuildPlan where
  /-- The directory for all files of the build. -/
  buildDirectory : String
  /-- The files that the tools read. -/
  files : List PlanFile
  /-- The calls of the tools. -/
  steps : List ToolStep
  deriving DecidableEq, Repr

namespace BuildPlan

/-- The content of a file. -/
def file? (p : BuildPlan) (name : String) : Option String :=
  (p.files.find? (·.name = name)).map (·.content)

/-- The path of the netlist. -/
def netlistPath (p : BuildPlan) : String := joinPath p.buildDirectory "top.il"

/-- The path of the finished configuration. -/
def bitstreamPath (p : BuildPlan) : String := joinPath p.buildDirectory "top.bit"

end BuildPlan

/-! ### Devices -/

/-- What the flag says about the family of a device, whose letters may be large or small. -/
def familyMark? (family : String) : Option String :=
  match Text.uppercase family with
  | "LFE5U" => some ""
  | "LFE5UM" => some "um-"
  | "LFE5UM5G" => some "um5g-"
  | _ => none

/-- The number of cells in the size of a device: decimal digits with an F behind them. -/
def cellCount? (size : List Char) : Option (List Char) :=
  let digits := size.dropLast
  if size.getLast? = some 'F' && !digits.isEmpty && digits.all Char.isDigit then some digits
  else none

/-- The flag for a device: its family and its size stand in front of and behind a hyphen. -/
def deviceFlag? (device : String) : Option String :=
  match device.toList.span (· ≠ '-') with
  | (family, '-' :: size) => do
    let cells ← cellCount? size
    let mark ← familyMark? (String.ofList family)
    some (mark ++ String.ofList cells ++ "k")
  | _ => none

/-- The flag for a device, or the complaint that there is none. -/
def deviceFlag (device : String) : Except Error String :=
  match deviceFlag? device with
  | some flag => .ok flag
  | none => .error (.unsupportedDevice device)

/-! ### Planning -/

/-- A flag, if it is wanted. -/
def flagIf (wanted : Bool) (flag : String) : List String := if wanted then [flag] else []

/-- The calls of the tools for a board. -/
def toolSteps (environment : Dict String) (b : Board) (options : BuildOptions) (device : String) :
    List ToolStep :=
  [ .ofEnvironment environment "YOSYS" "yosys"
      (flagIf (!options.verbose) "-q" ++ ["-l", "top.rpt", "top.ys"]),
    .ofEnvironment environment "NEXTPNR_ECP5" "nextpnr-ecp5"
      (flagIf (!options.verbose) "--quiet" ++
        ["--log", "top.tim", "--" ++ device, "--package", Text.uppercase b.package,
          "--speed", toString b.speed, "--json", "top.json", "--lpf", "top.lpf",
          "--textcfg", "top.config"]),
    .ofEnvironment environment "ECPPACK" "ecppack"
      (flagIf options.verbose "--verbose" ++ ["--input", "top.config", "--bit", "top.bit"]) ]

/-- The script for synthesis. -/
def synthesisScript (debugVerilog : Bool) : String :=
  Text.unlines <|
    ["read_ilang top.il", "delete w:$verilog_initial_trigger"] ++
    flagIf debugVerilog "write_verilog -norename top.debug.v" ++
    ["synth_ecp5 -top top", "write_json top.json"]

/-- The script that calls the tools. -/
def shellScript (steps : List ToolStep) : String :=
  Text.unlines <|
    ["#!/bin/sh", "# Generated by moondancer-soc, do not edit.", "set -e"] ++
    steps.map ToolStep.shellLine

/-- The plan to build an elaborated design for a board. -/
def Elaboration.plan (e : Elaboration) (environment : Dict String) (b : Board)
    (options : BuildOptions) : Except Error BuildPlan := do
  let device ← deviceFlag b.device
  let steps := toolSteps environment b options device
  pure
    { buildDirectory := options.buildDirectory
      files :=
        [ ⟨"top.lpf", e.constraintFile⟩,
          ⟨"top.ys", synthesisScript options.debugVerilog⟩,
          ⟨"build_top.sh", shellScript steps⟩ ]
      steps := steps }

end SocAssembly
