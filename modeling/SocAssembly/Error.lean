import SocAssembly.Text.Hex

/-!
# Why a step fails

## The model

Every step of the assembly that can fail does so for one of these causes. A cause carries what a
reader needs to find the mistake: the names involved and the numbers that were compared. The
wording is in `Error.message`, so a caller that acts on a failure looks at the cause and never at
the text.
-/

namespace SocAssembly

/-- Why a file or directory cannot be used. -/
inductive FileFault where
  /-- There is nothing at the path. -/
  | missing
  /-- A file stands where a directory has to be. -/
  | notDirectory
  /-- A directory stands where a file has to be. -/
  | isDirectory
  /-- Something stands where a directory is to be made. -/
  | occupied
  /-- A name or a whole path has more bytes than it may have. -/
  | tooLong
  /-- The path holds the character of code zero, which no path can hold. -/
  | malformedPath
  deriving DecidableEq, Repr

/-- The text shown for a fault. -/
def FileFault.message : FileFault → String
  | missing => "No such file or directory (os error 2)"
  | notDirectory => "Not a directory (os error 20)"
  | isDirectory => "Is a directory (os error 21)"
  | occupied => "File exists (os error 17)"
  | tooLong => "File name too long (os error 36)"
  | malformedPath => "file name contained an unexpected NUL byte"

/-- Why a program cannot be started. -/
inductive LaunchFault where
  /-- It cannot be found. -/
  | file (fault : FileFault)
  /-- It is not a program. -/
  | notExecutable
  /-- Its name or an argument holds the character of code zero. -/
  | malformedCall
  deriving DecidableEq, Repr

/-- The text shown for a fault. -/
def LaunchFault.message : LaunchFault → String
  | file fault => fault.message
  | notExecutable => "Permission denied (os error 13)"
  | malformedCall => "nul byte found in provided data"

/-- The causes of failure. -/
inductive Error where
  /-- Two entries of the address map have one name. -/
  | duplicateEntry (name : String)
  /-- An entry of the address map is empty. -/
  | zeroSize (name : String)
  /-- A fixed address is not a multiple of the granularity of its window. -/
  | misaligned (name : String) (base granularity : Nat)
  /-- A fixed window meets a window that was fixed before it. -/
  | overlap (name : String) (start stop : Nat) (other : String) (otherStart otherStop : Nat)
  /-- A fixed window runs past the end of the address space. -/
  | outOfAddressSpace (name : String) (base size : Nat)
  /-- No gap of the automatic region is large enough. -/
  | regionExhausted (name : String) (size start stop : Nat)
  /-- An entry is attached to a name that no entry has. -/
  | unknownParent (name parent : String)
  /-- An entry is attached to an entry that is attached itself. -/
  | nestedAttachment (name parent : String)
  /-- The attachments of an entry need more room than its window has. -/
  | parentWindowExhausted (name parent : String) (window : Nat)
  /-- An entry has no window in the allocation. -/
  | unallocated (name : String)
  /-- A peripheral has both an address and a parent. -/
  | conflictingPlacement (name : String)
  /-- A peripheral asks for a register that is empty or wider than the bus. -/
  | unsupportedWidth (name : String) (width : Nat)
  /-- A firmware section is put into a memory that the design lacks. -/
  | unknownMemory (name : String)
  /-- A firmware section has no memory of its own and the design has no RAM. -/
  | noFirmwareMemory
  /-- A wired signal belongs neither to the processor nor to a peripheral. -/
  | unknownSignal (signal : String)
  /-- No platform was named. -/
  | noPlatform
  /-- The catalogue has no platform of this name. -/
  | unknownPlatform (name : String)
  /-- The platform has no clock for the domain. -/
  | unknownClockDomain (platform domain : String)
  /-- The platform lacks the resource. -/
  | resourceNotFound (name : String) (number : Nat) (platform : String)
  /-- The platform lacks every candidate of a binding; they are listed as text. -/
  | noCandidateResource (candidates platform : String)
  /-- A binding has no candidate. -/
  | emptyCandidates
  /-- The resource was handed out before. -/
  | resourceAlreadyRequested (name : String) (number : Nat)
  /-- A resource is added under a key that the platform has. -/
  | duplicateResource (name : String) (number : Nat)
  /-- A resource, or one of its signals, has no pins. -/
  | emptyResource (name : String) (number : Nat)
  /-- A resource goes through a connector that the platform lacks. -/
  | unknownConnector (name : String) (number : Nat)
  /-- A resource uses a position of a connector that does not exist or is not wired. -/
  | unknownConnectorPin (name : String) (number : Nat) (pin : String)
  /-- The place and route tool has no flag for the device. -/
  | unsupportedDevice (device : String)
  /-- There is no netlist file at the path. -/
  | missingNetlist (path : String)
  /-- A tool could not be started. -/
  | toolLaunch (program : String) (fault : LaunchFault)
  /-- A tool ended with a status other than zero. -/
  | toolFailed (program : String) (status : Nat)
  /-- The device description has no peripheral. -/
  | emptyDevice
  /-- A field of the device description has no bits. -/
  | emptyBitRange
  /-- A document does not have the form that is expected of it. -/
  | malformedDocument (what : String)
  /-- A file or directory cannot be read or written. -/
  | fileAccess (fault : FileFault)
  /-- Something failed in the course of something else. -/
  | inContext (doing : String) (cause : Error)
  deriving DecidableEq, Repr

namespace Error

/-- The text shown for a cause, without what lies behind it. -/
def message : Error → String
  | duplicateEntry name => s!"`{name}` is registered more than once"
  | zeroSize name => s!"`{name}` has a size of zero"
  | misaligned name base granularity =>
    s!"`{name}` at {Text.address base} is not aligned to {Text.hex granularity}"
  | overlap name start stop other otherStart otherStop =>
    s!"`{name}` ({Text.address start}..{Text.address stop}) overlaps `{other}` " ++
      s!"({Text.address otherStart}..{Text.address otherStop})"
  | outOfAddressSpace name base size =>
    s!"`{name}` at {Text.hex base} with size {Text.hex size} runs past the 32-bit address space"
  | regionExhausted name size start stop =>
    s!"no room left in {Text.address start}..{Text.address stop} for `{name}` " ++
      s!"({Text.hex size} bytes)"
  | unknownParent name parent => s!"`{name}` is attached to unknown peripheral `{parent}`"
  | nestedAttachment name parent =>
    s!"`{name}` cannot attach to `{parent}`, which is itself attached"
  | parentWindowExhausted name parent window =>
    s!"`{name}` does not fit in the {Text.hex window} byte window of `{parent}`"
  | unallocated name => s!"`{name}` was never allocated an address"
  | conflictingPlacement name => s!"`{name}` has both a fixed address and a parent"
  | unsupportedWidth name width =>
    s!"`{name}` needs {width} bits, registers must be 1 to 32 bits wide"
  | unknownMemory name => s!"unknown memory `{name}`"
  | noFirmwareMemory => "the design has no RAM to link firmware sections into"
  | unknownSignal signal =>
    s!"signal `{signal}` does not belong to the cpu or any peripheral"
  | noPlatform => "no platform selected; pass --platform or set LUNA_PLATFORM"
  | unknownPlatform name => s!"unknown platform `{name}`"
  | unknownClockDomain platform domain =>
    s!"platform `{platform}` has no `{domain}` clock domain"
  | resourceNotFound name number platform =>
    s!"resource {name}#{number} not found on platform `{platform}`"
  | noCandidateResource candidates platform =>
    s!"none of [{candidates}] exist on platform `{platform}`"
  | emptyCandidates => "a binding lists no candidate resources"
  | resourceAlreadyRequested name number =>
    s!"resource {name}#{number} has already been requested"
  | duplicateResource name number => s!"resource {name}#{number} is defined more than once"
  | emptyResource name number => s!"resource {name}#{number} has no pins"
  | unknownConnector name number => s!"connector {name}#{number} does not exist"
  | unknownConnectorPin name number pin => s!"connector {name}#{number} has no pin `{pin}`"
  | unsupportedDevice device => s!"unsupported FPGA device `{device}`"
  | missingNetlist path => s!"no elaborated netlist found at {path}"
  | toolLaunch program _ => s!"failed to launch `{program}`"
  | toolFailed program status => s!"`{program}` exited with exit status: {status}"
  | emptyDevice => "invalid SVD description"
  | emptyBitRange => "invalid SVD description"
  | malformedDocument what => s!"failed to parse {what}"
  | fileAccess fault => fault.message
  | inContext doing _ => doing

/-- The cause says only that a resource does not exist, which is all that an optional binding may
pass over. -/
def isMissingResource : Error → Bool
  | resourceNotFound .. | noCandidateResource .. => true
  | _ => false

/-- The text shown for a cause, followed by the texts of what lies behind it. -/
def trail : Error → List String
  | inContext doing cause => doing :: cause.trail
  | toolLaunch program fault => [(toolLaunch program fault).message, fault.message]
  | emptyDevice =>
    [ emptyDevice.message, "`Device error: Device must contain at least one peripheral",
      "Device must contain at least one peripheral" ]
  | e => [e.message]

/-- All that is known about a failure, on one line. -/
def fullMessage (e : Error) : String := String.intercalate ": " e.trail

end Error

end SocAssembly
