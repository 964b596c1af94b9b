import SocAssembly.Artifact.Basic
import SocAssembly.Build.Run
import SocAssembly.CommandLine.Basic
import SocAssembly.CommandLine.LogFilter
import SocAssembly.Descriptor.Document
import SocAssembly.Descriptor.Moondancer
import SocAssembly.Design.Listing
import SocAssembly.Design.Record
import SocAssembly.Platform.Cynthion
import SocAssembly.Text.Control

/-!
# Running commands

## The model

A command works at a console (`Console`): it reads and writes files, and what it prints is printed
at once and stays printed. The program ends with a status and with what was printed by then
(`CommandOutcome`), and complains of a failure in a line in which control characters are shown by
their codes; a filter in the environment may keep the complaint back. What reads the filter is a
parameter (`runProgramWith`), the program reads it as directives (`runProgram`). A build makes the
artifacts after the tools have done their work.
-/

namespace SocAssembly

/-- Reads a file that was named on the command line. -/
def readInput (path : String) : Session FileTree String :=
  (Session.readFile path).inContext s!"failed to read {path}"

/-- The platforms that are known, with those of a file. -/
def loadCatalogue : Option String → Session FileTree Catalogue
  | none => pure Catalogue.builtin
  | some path => do
    let document ← readInput path
    let further ← .ofExcept (Catalogue.ofDocument document path)
    pure (Catalogue.builtin.extend further)

/-- The descriptor of a file, or the one that is there without. -/
def loadDescriptor : Option String → Session FileTree Descriptor
  | none => pure Descriptor.moondancer
  | some path => do
    let document ← readInput path
    .ofExcept (Descriptor.ofDocument document path)

/-- The platform that was chosen. -/
def choosePlatform (s : Selection) : Session FileTree Platform := do
  let catalogue ← loadCatalogue s.platforms
  (Session.ofExcept (catalogue.select s.platform)).inContext
    "failed to identify a supported platform"

/-- Elaborates the design that was chosen on the platform that was chosen. -/
def elaborateSelection (s : Selection) : Session FileTree (Board × Elaboration) := do
  let platform ← choosePlatform s
  let d ← loadDescriptor s.soc
  let frequency ← .ofExcept (platform.clockFrequency d.clockDomain)
  .note (.platformChosen platform.name frequency)
  let (after, report) := (elaborate d).run platform
  let elaboration ← (Session.ofReport report).inContext
    s!"failed to elaborate {d.name} for {platform.name}"
  pure (after.board, elaboration)

/-- Reports the summary of a design. -/
def noteSummary (d : Design) : Report Unit := ⟨d.summary, .ok ()⟩

/-- Makes the artifacts of a design. -/
def generateArtifacts (d : Design) (directory : String) : Session FileTree (List Artifact) :=
  (Artifact.generateAll d directory).inContext "failed to generate artifacts"

/-- The line of a board in the list of platforms. -/
def Board.listingLine (b : Board) : String :=
  s!"{Text.padRight 28 b.name} {b.device} {b.package} [" ++
    String.intercalate ", " b.aliases ++ "]"

/-! ### At a console -/

/-- What a command works on. -/
structure Console where
  /-- The files. -/
  tree : FileTree
  /-- What was printed. -/
  printed : String := ""
  deriving DecidableEq, Repr

namespace Console

/-- Works on the files, and prints nothing. -/
def onFiles {α : Type} (x : Session FileTree α) : Session Console α := fun c =>
  let (after, report) := x.run c.tree
  ({ c with tree := after }, report)

/-- Prints a text. -/
def print (text : String) : Session Console Unit :=
  .modify fun c => { c with printed := c.printed ++ text }

/-- Prints a line. -/
def printLine (line : String) : Session Console Unit := print (line ++ "\n")

/-- Prints lines, one after the other. -/
def printLines : List String → Session Console Unit
  | [] => pure ()
  | line :: rest => do
    printLine line
    printLines rest

end Console

namespace Command

open Console

/-- Builds an elaborated design, and makes its artifacts. -/
def buildElaborated (environment : Dict String) (tools : Tools) (options : BuildOptions)
    (b : Board) (e : Elaboration) : Session Console Unit := do
  .note .buildStarted
  let products ← onFiles ((e.build environment tools b options).inContext "synthesis failed")
  .ofReport (noteSummary e.design)
  discard (onFiles (generateArtifacts e.design options.buildDirectory))
  match products with
  | some p => do
    .note (.bitstreamReady p.bitstream)
    printLine "Build completed. Use 'make load' to load bitstream to device."
  | none => printLine s!"Build plan written to {options.buildDirectory}; synthesis was skipped."

/-- Does what a command says. -/
def execute (environment : Dict String) (tools : Tools) : Command → Session Console Unit
  | build selection options => do
    let (board, elaboration) ← onFiles (elaborateSelection selection)
    buildElaborated environment tools options board elaboration
  | generate selection buildDirectory => do
    let (_, elaboration) ← onFiles (elaborateSelection selection)
    .ofReport (noteSummary elaboration.design)
    let artifacts ← onFiles (generateArtifacts elaboration.design buildDirectory)
    printLines (artifacts.map (·.path))
  | map selection json => do
    let (_, elaboration) ← onFiles (elaborateSelection selection)
    if json then printLine elaboration.design.toJson.render
    else print elaboration.design.mapText
  | platforms file => do
    let catalogue ← onFiles (loadCatalogue file)
    printLines (catalogue.boards.map (·.listingLine))

end Command

/-! ### Surroundings -/

/-- The paths of the files that a selection names. -/
def Selection.paths (s : Selection) : List String := s.platforms.toList ++ s.soc.toList

/-- The paths of the artifacts below a build directory. -/
def artifactPaths (directory : String) : List String :=
  ArtifactKind.all.map (Artifact.filePath directory)

/-- The paths that a command reads or writes. -/
def Command.paths : Command → List String
  | build selection options =>
    selection.paths ++ options.netlist.toList ++
      ["top.lpf", "top.ys", "build_top.sh", "top.il"].map (joinPath options.buildDirectory) ++
      artifactPaths options.buildDirectory
  | generate selection buildDirectory => selection.paths ++ artifactPaths buildDirectory
  | map selection _ => selection.paths
  | platforms file => file.toList

/-- The environment variables that the program looks at. -/
def environmentVariables : List String :=
  [platformVariable, LogFilter.variableName, "YOSYS", "NEXTPNR_ECP5", "ECPPACK"]

/-! ### The program -/

/-- What a run of the program ends with. -/
structure CommandOutcome where
  /-- The status: zero for success, one for a failure, two for a mistake on the command line, and
  a hundred and one for a filter that cannot be read. -/
  status : Nat
  /-- What was printed. -/
  output : String
  /-- What was complained of. -/
  complaint : String
  /-- What was reported on the way. -/
  notices : List Notice
  deriving DecidableEq, Repr

/-- How the program is used. -/
def usage : String :=
  Text.unlines
    [ "Builds the Moondancer SoC for Cynthion",
      "",
      "Usage: moondancer-soc <COMMAND>",
      "",
      "Commands:",
      "  build      Elaborates the SoC, runs synthesis and generates the firmware artifacts",
      "  generate   Generates the C header, linker script, SVD and `memory.x` only",
      "  map        Prints the finalized address map",
      "  platforms  Lists the known platforms",
      "  help       Print this message or the help of the given subcommand(s)",
      "",
      "Options:",
      "  -h, --help  Print help" ]

/-- The target of the messages of the program. -/
def programTarget : String := "moondancer_soc"

/-- The line that a failure is complained of with; nothing if failures are not shown. -/
def complaintOf (shows : String → Nat → Bool) (e : Error) : String :=
  if shows programTarget failureDetail then
    s!"ERROR {programTarget}: {Text.showControls e.fullMessage}\n"
  else ""

/-- Runs the program with arguments. Before all else its filter is read and complained of, and the
run ends there if that fails. -/
def runProgramWith (read : FilterReader) (environment : Dict String) (tools : Tools)
    (args : List String) (t : FileTree) : FileTree × CommandOutcome :=
  let filter := read (LogFilter.textIn environment)
  let before := Text.unlines filter.complaints
  match filter.shows? with
  | none => (t, ⟨101, "", before, []⟩)
  | some shows =>
    match Command.ofArguments environment args with
    | .error .help => (t, ⟨0, usage, before, []⟩)
    | .error .mistake => (t, ⟨2, "", before ++ usage, []⟩)
    | .ok c =>
      let (after, report) := (c.execute environment tools).run { tree := t }
      match report.outcome with
      | .ok () => (after.tree, ⟨0, after.printed, before, report.notices⟩)
      | .error e =>
        (after.tree,
          ⟨1, after.printed, before ++ complaintOf shows e, report.notices⟩)

/-- Runs the program with arguments; its filter is read as directives. -/
def runProgram : Dict String → Tools → List String → FileTree → FileTree × CommandOutcome :=
  runProgramWith LogFilter.reader

end SocAssembly
