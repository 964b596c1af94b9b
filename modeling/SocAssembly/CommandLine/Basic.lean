import SocAssembly.Build.Plan

/-!
# The command line

## The model

The first argument names a command, the others are its options. A flag is there or not; a setting
has a value, in the same argument behind an equals sign or in the next one. Some options have a
letter, and letters may stand together behind one hyphen; the value of a setting may follow its
letter at once. No option may be given twice, a value does not start with a hyphen unless it is a
hyphen, and a path is not empty. A platform that is not given is taken from the environment.

Arguments are read from left to right; a request for help and a mistake end the reading
(`Refusal`), whichever comes first.
-/

namespace SocAssembly

/-- The commands. -/
inductive CommandName where
  /-- Builds a design. -/
  | build
  /-- Makes the artifacts of a design. -/
  | generate
  /-- Shows the address map of a design. -/
  | map
  /-- Shows the platforms that are known. -/
  | platforms
  deriving DecidableEq, Repr

namespace CommandName

/-- All commands. -/
def all : List CommandName := [build, generate, map, platforms]

/-- The name of a command. -/
def name : CommandName → String
  | build => "build"
  | generate => "generate"
  | map => "map"
  | platforms => "platforms"

end CommandName

/-- The options without a value. -/
inductive Flag where
  /-- Asks for help. -/
  | help
  /-- Writes the design as a record. -/
  | json
  /-- Does not run the tools. -/
  | skipSynthesis
  /-- Lets the tools talk. -/
  | verbose
  /-- Does not write the synthesised design for a reader. -/
  | noDebugVerilog
  deriving DecidableEq, Repr

/-- The options with a value. -/
inductive Setting where
  /-- The platform. -/
  | platform
  /-- A file with further platforms. -/
  | platforms
  /-- A file with a descriptor. -/
  | soc
  /-- The build directory. -/
  | buildDirectory
  /-- The netlist. -/
  | netlist
  deriving DecidableEq, Repr

/-- The value of the setting is a path. -/
def Setting.isPath (s : Setting) : Bool := s ≠ .platform

/-- The options. -/
inductive OptionName where
  /-- One without a value. -/
  | flag (f : Flag)
  /-- One with a value. -/
  | setting (s : Setting)
  deriving DecidableEq, Repr

namespace CommandName

/-- The options that choose the platform and the design. -/
def selectionOptions : List (String × OptionName) :=
  [("platform", .setting .platform), ("platforms", .setting .platforms), ("soc", .setting .soc)]

/-- The options of a command by their names. -/
def options : CommandName → List (String × OptionName)
  | build =>
    selectionOptions ++
    [("build-dir", .setting .buildDirectory), ("netlist", .setting .netlist),
      ("skip-synthesis", .flag .skipSynthesis), ("verbose", .flag .verbose),
      ("no-debug-verilog", .flag .noDebugVerilog), ("help", .flag .help)]
  | generate =>
    selectionOptions ++ [("build-dir", .setting .buildDirectory), ("help", .flag .help)]
  | map => selectionOptions ++ [("json", .flag .json), ("help", .flag .help)]
  | platforms => [("platforms", .setting .platforms), ("help", .flag .help)]

/-- The options of a command by their letters. -/
def letters : CommandName → List (Char × OptionName)
  | build => [('p', .setting .platform), ('v', .flag .verbose), ('h', .flag .help)]
  | generate | map => [('p', .setting .platform), ('h', .flag .help)]
  | platforms => [('h', .flag .help)]

end CommandName

/-- Why arguments are not a command. -/
inductive Refusal where
  /-- They ask for help. -/
  | help
  /-- They are no command that there is. -/
  | mistake
  deriving DecidableEq, Repr

/-- The options that were given. -/
structure Given where
  /-- The flags. -/
  flags : List Flag := []
  /-- The settings with their values. -/
  settings : List (Setting × String) := []
  deriving DecidableEq, Repr

namespace Given

/-- One more flag. -/
def addFlag (g : Given) (f : Flag) : Except Refusal Given :=
  if f = .help then .error .help
  else if f ∈ g.flags then .error .mistake
  else .ok { g with flags := f :: g.flags }

/-- One more setting. -/
def addSetting (g : Given) (s : Setting) (value : String) : Except Refusal Given :=
  if (g.settings.lookup s).isSome || (s.isPath && value.isEmpty) then .error .mistake
  else .ok { g with settings := (s, value) :: g.settings }

/-- The flag was given. -/
def has (g : Given) (f : Flag) : Bool := f ∈ g.flags

/-- The value of a setting. -/
def get? (g : Given) (s : Setting) : Option String := g.settings.lookup s

end Given

/-! ### Reading arguments -/

/-- Where an argument stops: at its end, or at a setting whose value is still to come. -/
abbrev Pending := Given × Option Setting

/-- Reads letters behind one hyphen. -/
def readLetters (c : CommandName) (g : Given) : List Char → Except Refusal Pending
  | [] => .ok (g, none)
  | x :: rest =>
    match c.letters.lookup x, rest with
    | none, _ => .error .mistake
    | some (.flag f), rest => do readLetters c (← g.addFlag f) rest
    | some (.setting s), [] => .ok (g, some s)
    | some (.setting s), '=' :: value => do
      pure (← g.addSetting s (String.ofList value), none)
    | some (.setting s), value => do pure (← g.addSetting s (String.ofList value), none)

/-- Reads an option behind two hyphens. -/
def readName (c : CommandName) (g : Given) (body : List Char) : Except Refusal Pending :=
  match body.span (· ≠ '=') with
  | (name, attached) =>
    match c.options.lookup (String.ofList name), attached with
    | none, _ => .error .mistake
    | some (.flag f), [] => do pure (← g.addFlag f, none)
    | some (.flag _), _ => .error .mistake
    | some (.setting s), [] => .ok (g, some s)
    | some (.setting s), _ :: value => do pure (← g.addSetting s (String.ofList value), none)

/-- The argument cannot be a value. -/
def looksLikeOption (arg : String) : Bool := arg.startsWith "-" && arg ≠ "-"

/-- Reads the options of a command. -/
def readOptions (c : CommandName) (g : Given) : List String → Except Refusal Given
  | [] => .ok g
  | arg :: rest => do
    let (g, pending) ← match arg.toList with
      | ['-', '-'] => if rest.isEmpty then .ok (g, none) else .error .mistake
      | '-' :: '-' :: body => readName c g body
      | '-' :: x :: letters => readLetters c g (x :: letters)
      | _ => .error .mistake
    match pending, rest with
    | none, rest => readOptions c g rest
    | some _, [] => .error .mistake
    | some s, value :: rest =>
      if looksLikeOption value then .error .mistake
      else do readOptions c (← g.addSetting s value) rest

/-! ### Commands -/

/-- The platform and the design of a command. -/
structure Selection where
  /-- The platform. -/
  platform : Option String := none
  /-- The path of a file with further platforms. -/
  platforms : Option String := none
  /-- The path of a file with a descriptor. -/
  soc : Option String := none
  deriving DecidableEq, Repr

/-- The commands with their options. -/
inductive Command where
  /-- Builds a design. -/
  | build (selection : Selection) (options : BuildOptions)
  /-- Makes the artifacts of a design. -/
  | generate (selection : Selection) (buildDirectory : String)
  /-- Shows the address map of a design, perhaps as a record. -/
  | map (selection : Selection) (json : Bool)
  /-- Shows the platforms that are known. -/
  | platforms (file : Option String)
  deriving DecidableEq, Repr

/-- The environment variable with the platform. -/
def platformVariable : String := "LUNA_PLATFORM"

namespace Given

/-- What the options say about the platform and the design. -/
def selection (g : Given) (environment : Dict String) : Selection where
  platform := (g.get? .platform).or (environment.get? platformVariable)
  platforms := g.get? .platforms
  soc := g.get? .soc

/-- The build directory. -/
def buildDirectory (g : Given) : String := (g.get? .buildDirectory).getD "build"

/-- What the options say about a build. -/
def buildOptions (g : Given) : BuildOptions where
  buildDirectory := g.buildDirectory
  netlist := g.get? .netlist
  debugVerilog := !g.has .noDebugVerilog
  verbose := g.has .verbose
  skipSynthesis := g.has .skipSynthesis

/-- The command with these options. -/
def command (g : Given) (environment : Dict String) : CommandName → Command
  | .build => .build (g.selection environment) g.buildOptions
  | .generate => .generate (g.selection environment) g.buildDirectory
  | .map => .map (g.selection environment) (g.has .json)
  | .platforms => .platforms (g.get? .platforms)

end Given

/-- Reads a request for help on a command. -/
def readHelpTopic : List String → Refusal
  | [] => .help
  | [topic] => if topic ∈ "help" :: CommandName.all.map (·.name) then .help else .mistake
  | _ => .mistake

/-- The command that arguments stand for. -/
def Command.ofArguments (environment : Dict String) : List String → Except Refusal Command
  | [] => .error .mistake
  | "--help" :: _ => .error .help
  | "help" :: topics => .error (readHelpTopic topics)
  | first :: rest =>
    if first.startsWith "-h" then .error .help
    else
      match CommandName.all.find? (·.name = first) with
      | none => .error .mistake
      | some c => do pure ((← readOptions c {} rest).command environment c)

end SocAssembly
