import SocAssembly.Build.Plan

/-!
# Building

## The model

Preparing a build writes the files of the plan and puts the netlist beside them, unless the netlist
that is named is the one that is there. Building runs the tools after that, one after the other, up
to the first that cannot be started or that fails; it needs a netlist, be it the one of an earlier
build.

What running a program does is a parameter (`Tools`): the status that it ends with, or nothing if it
is not one of the programs. The tools see the files but are not part of this model, so their output
is left out of the file tree.

The tools work in the build directory. A program with a slash in its name is a path, and files of
the tree are no programs. Any other program is looked for where programs are, and no name with too
many bytes is found there; the two dots denote directories, which are no programs either
(`launchFault`).
-/

namespace SocAssembly

/-- What a program, called with arguments, ends with; nothing if it cannot be started. -/
abbrev Tools := String → List String → Option Nat

/-- What a build makes. -/
structure BuildProducts where
  /-- The directory with all files of the build. -/
  buildDirectory : String
  /-- The path of the configuration of the FPGA. -/
  bitstream : String
  deriving DecidableEq, Repr

namespace BuildPlan

/-- Writes files into the build directory, in order. -/
def writeFiles (directory : String) : List PlanFile → Session FileTree Unit
  | [] => pure ()
  | f :: rest => do
    let path := joinPath directory f.name
    .note (.writingPlanFile path)
    Session.writeFile path f.content
    writeFiles directory rest

/-- Writes the files of a plan. -/
def write (p : BuildPlan) : Session FileTree Unit := do
  Session.makeDirectories p.buildDirectory
  writeFiles p.buildDirectory p.files

/-- Two paths denote one place. -/
def samePlace (t : FileTree) (a b : String) : Bool :=
  match t.resolve a, t.resolve b with
  | .ok l, .ok k => l = k
  | _, _ => false

/-- Puts a netlist beside the files of a plan. -/
def placeNetlist (p : BuildPlan) (netlist : String) : Session FileTree Unit := do
  let t ← Session.state
  if !t.isFile netlist then .fail (.missingNetlist netlist)
  else if t.isFile p.netlistPath && samePlace t netlist p.netlistPath then
    .note (.netlistInPlace p.netlistPath)
  else Session.copyFile netlist p.netlistPath

/-- Neither the program nor an argument holds the character of code zero. -/
def callable (s : ToolStep) : Bool :=
  (s.program :: s.args).all fun text => !text.toList.contains '\x00'

/-- Why a program cannot be started in the working directory, if it is not one of the programs. -/
def launchFault (t : FileTree) (program : String) : LaunchFault :=
  if program.toList.contains '/' then
    match t.lookup program with
    | .error e => .file e
    | .ok _ => .notExecutable
  else if program = "." || program = ".." then .notExecutable
  else if (PathStep.down program).isTooLong then .file .tooLong
  else .file .missing

/-- Calls a tool in a directory. -/
def call (tools : Tools) (t : FileTree) (directory : String) (s : ToolStep) :
    Except LaunchFault Nat :=
  if !callable s then .error .malformedCall
  else
    match t.enter directory, tools s.program s.args with
    | .error e, _ => .error (.file e)
    | .ok _, some status => .ok status
    | .ok u, none => .error (launchFault u s.program)

/-- Runs the tools of a plan in order. -/
def runSteps (tools : Tools) (t : FileTree) (directory : String) : List ToolStep → Report Unit
  | [] => pure ()
  | s :: rest => do
    .note (.runningTool s.program)
    match call tools t directory s with
    | .error e => .fail (.toolLaunch s.program e)
    | .ok 0 => runSteps tools t directory rest
    | .ok status => .fail (.toolFailed s.program status)

/-- Runs the tools of a build that is prepared, unless they are to be skipped. -/
def complete (p : BuildPlan) (tools : Tools) (options : BuildOptions) :
    Session FileTree (Option BuildProducts) := do
  if options.skipSynthesis then
    .note .synthesisSkipped
    pure none
  else
    let t ← Session.state
    if !t.isFile p.netlistPath then .fail (.missingNetlist p.netlistPath)
    else
      .ofReport (runSteps tools t p.buildDirectory p.steps)
      pure (some ⟨p.buildDirectory, p.bitstreamPath⟩)

end BuildPlan

namespace Elaboration

/-- Prepares a build. -/
def prepare (e : Elaboration) (environment : Dict String) (b : Board) (options : BuildOptions) :
    Session FileTree BuildPlan := do
  let plan ← .ofExcept (e.plan environment b options)
  plan.write
  match options.netlist with
  | some netlist => plan.placeNetlist netlist
  | none => pure ()
  .note (.buildPrepared plan.buildDirectory)
  pure plan

/-- Prepares a build and runs the tools, unless they are to be skipped. -/
def build (e : Elaboration) (environment : Dict String) (tools : Tools) (b : Board)
    (options : BuildOptions) : Session FileTree (Option BuildProducts) := do
  let plan ← e.prepare environment b options
  plan.complete tools options

end Elaboration

end SocAssembly
