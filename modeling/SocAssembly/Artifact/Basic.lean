import SocAssembly.Artifact.DeviceDescription
import SocAssembly.Artifact.Header
import SocAssembly.Artifact.LinkerScript
import SocAssembly.FileTree

/-!
# Artifacts

## The model

Firmware is built against four files that are made from a finished design. Each kind has its folder
below the build directory and its file name. The folder is made first, then the text, and only then
is the file opened, so a design that cannot be written leaves an older file as it was. The kinds are
made in a fixed order, up to the first that fails.
-/

namespace SocAssembly

/-- The kinds of artifacts. -/
inductive ArtifactKind where
  /-- A header for programs in C. -/
  | header
  /-- A script for the linker of programs in C. -/
  | linkerScript
  /-- A description of the registers. -/
  | deviceDescription
  /-- A memory layout for linkers that bring a script along. -/
  | memoryLayout
  deriving DecidableEq, Repr

namespace ArtifactKind

/-- All kinds, in the order in which they are made. -/
def all : List ArtifactKind := [header, linkerScript, deviceDescription, memoryLayout]

/-- The name of a kind. -/
def name : ArtifactKind → String
  | header => "header"
  | linkerScript => "linker-script"
  | deviceDescription => "svd"
  | memoryLayout => "memory-layout"

/-- The folder below the build directory. -/
def folder : ArtifactKind → String
  | header | linkerScript => "genc"
  | deviceDescription => "gensvd"
  | memoryLayout => "genrust"

/-- The name of the file. -/
def fileName : ArtifactKind → String
  | header => "resources.h"
  | linkerScript => "soc.ld"
  | deviceDescription => "lunasoc.svd"
  | memoryLayout => "memory.x"

/-- The text of the artifact of a design. -/
def render (d : Design) : ArtifactKind → Except Error String
  | header => .ok d.header
  | linkerScript => .ok d.linkerScript
  | deviceDescription => d.deviceDescription
  | memoryLayout => .ok d.memoryLayout

end ArtifactKind

/-- An artifact that was written. -/
structure Artifact where
  /-- Its kind. -/
  kind : ArtifactKind
  /-- The path of its file. -/
  path : String
  /-- Its text. -/
  content : String
  deriving DecidableEq, Repr

namespace Artifact

/-- The path of the folder for a kind below a build directory. -/
def folderPath (directory : String) (k : ArtifactKind) : String := joinPath directory k.folder

/-- The path of the file for a kind below a build directory. -/
def filePath (directory : String) (k : ArtifactKind) : String :=
  joinPath (folderPath directory k) k.fileName

/-- Makes the artifact of one kind. -/
def generate (d : Design) (directory : String) (k : ArtifactKind) :
    Session FileTree Artifact := do
  Session.makeDirectories (folderPath directory k)
  let path := filePath directory k
  .note (.generatingArtifact path)
  let content ← .ofExcept (k.render d)
  Session.writeFile path content
  pure ⟨k, path, content⟩

/-- Makes the artifacts of several kinds, in order. -/
def generateEach (d : Design) (directory : String) :
    List ArtifactKind → Session FileTree (List Artifact)
  | [] => pure []
  | k :: rest => do
    let artifact ← generate d directory k
    let others ← generateEach d directory rest
    pure (artifact :: others)

/-- Makes all artifacts. -/
def generateAll (d : Design) (directory : String) : Session FileTree (List Artifact) :=
  generateEach d directory ArtifactKind.all

end Artifact

end SocAssembly
