import SocAssembly.Error

/-!
# What a step reports on the way

## The model

Steps leave notices beside their result: where an entry was placed, which resource was bound, which
file is written. A notice is a value; its level and its wording are functions of it. Notices come
in the order of the events, and those from before a failure are kept.
-/

namespace SocAssembly

/-- How much attention a notice asks for. -/
inductive Level where
  /-- A detail of the run. -/
  | debug
  /-- A step of the run. -/
  | info
  /-- A loss that the run survives. -/
  | warn
  deriving DecidableEq, Repr

/-- The name of a level. -/
def Level.name : Level → String
  | .debug => "DEBUG"
  | .info => "INFO"
  | .warn => "WARN"

/-- The events that are reported. -/
inductive Notice where
  /-- An entry got the window that it asked for. -/
  | placedFixed (name : String) (start stop : Nat)
  /-- An entry got the first window that was free. -/
  | placedAuto (name : String) (start stop : Nat)
  /-- An entry got a part of its parent's window. -/
  | placedAttached (name parent : String) (start : Nat)
  /-- A candidate resource does not exist. -/
  | candidateMissing (platform name : String) (number : Nat)
  /-- A resource was bound, perhaps in place of the one asked for. -/
  | resourceBound (name : String) (number : Nat) (requested : String) (fallback : Bool)
  /-- An optional binding was left out. -/
  | bindingSkipped (cause : Error)
  /-- A signal is carried by an alternate resource. -/
  | fallbackUsed (signal resource requested : String)
  /-- A peripheral got an interrupt number. -/
  | interruptNumbered (name : String) (irq : Nat)
  /-- A design was elaborated. -/
  | elaborated (design platform : String) (frequency : Nat)
  /-- An artifact is generated. -/
  | generatingArtifact (path : String)
  /-- A file of the build plan is written. -/
  | writingPlanFile (path : String)
  /-- The netlist that was named is the one in the build directory. -/
  | netlistInPlace (path : String)
  /-- The build directory is ready. -/
  | buildPrepared (directory : String)
  /-- A tool is started. -/
  | runningTool (program : String)
  /-- The tools are not run. -/
  | synthesisSkipped
  /-- A line of a summary. -/
  | summary (line : String)
  /-- The platform and its clock are known. -/
  | platformChosen (platform : String) (frequency : Nat)
  /-- The build starts. -/
  | buildStarted
  /-- The tools have made the configuration of the FPGA. -/
  | bitstreamReady (path : String)
  deriving DecidableEq, Repr

namespace Notice

/-- The level of a notice. -/
def level : Notice → Level
  | bindingSkipped .. => .warn
  | fallbackUsed .. | elaborated .. | generatingArtifact .. | buildPrepared .. | runningTool ..
  | synthesisSkipped | summary .. | platformChosen .. | buildStarted | bitstreamReady .. => .info
  | _ => .debug

/-- The wording of a notice. -/
def text : Notice → String
  | placedFixed name start stop =>
    s!"fixed {name} at {Text.address start}..{Text.address stop}"
  | placedAuto name start stop => s!"auto {name} at {Text.address start}..{Text.address stop}"
  | placedAttached name parent start => s!"attached {name} to {parent} at {Text.address start}"
  | candidateMissing platform name number => s!"{platform} has no {name}#{number}"
  | resourceBound name number requested fallback =>
    s!"bound {name}#{number} for {requested}" ++ (if fallback then " (fallback)" else "")
  | bindingSkipped cause => cause.message ++ ", continuing without it"
  | fallbackUsed signal resource requested =>
    s!"{signal} uses {resource} in place of {requested}"
  | interruptNumbered name irq => s!"{name} gets irq {irq}"
  | elaborated design platform frequency =>
    s!"elaborated {design} for {platform} at {frequency} Hz"
  | generatingArtifact path => s!"generating {path}"
  | writingPlanFile path => s!"writing {path}"
  | netlistInPlace path => s!"netlist already at {path}"
  | buildPrepared directory => s!"prepared trellis build in {directory}"
  | runningTool program => s!"running {program}"
  | synthesisSkipped => "skipping synthesis"
  | summary line => line
  | platformChosen platform frequency =>
    s!"Building for {platform} with clock frequency: {frequency}"
  | buildStarted => "Building soc"
  | bitstreamReady path => s!"bitstream: {path}"

end Notice

end SocAssembly
