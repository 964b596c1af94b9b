import SocAssembly.Report

/-!
# File trees

## The model

A file tree says which files and directories there are and where. Every place has one location: the
names that lead to it from the root. A path is one of many spellings of a location: it starts at the
root or at the working directory and goes down, up or nowhere with each step between slashes
(`PathStep`). Every step starts in a directory that is there, so a path may fail to denote anything
(`FileTree.resolve`), and two paths denote one file exactly if they resolve to one location.
Names and paths have a greatest length, counted in bytes, and no path holds the character of code
zero.

A directory is made together with those on the way to it: where there is nothing for it to stand in,
that is made first, and then it is tried once more (`FileTree.makeDirectories`). So the fault that is
reported is that of the whole path, unless something was missing on the way. Only names are made; a
dot at the end of a path asks for a directory that is there.

There are no links, and reading and writing never fail for reasons outside the tree. Writing to a
file replaces all that it held.
-/

namespace SocAssembly

/-- The names that lead to a place, from the root on. -/
abbrev Location := List String

/-- What can stand at a place. -/
inductive FileNode where
  /-- A file. -/
  | file (content : String)
  /-- A directory. -/
  | directory
  deriving DecidableEq, Repr

/-- Files and directories, and the directory where relative paths start. -/
structure FileTree where
  /-- What stands at each place; the root is always there. -/
  nodes : List (Location × FileNode) := []
  /-- The working directory. -/
  workingDirectory : Location := []
  deriving DecidableEq, Repr

/-- A part of a path. -/
inductive PathStep where
  /-- Stays where it is. -/
  | stay
  /-- Leaves a directory; the root stays the root. -/
  | up
  /-- Enters a directory or reaches a file. -/
  | down (name : String)
  deriving DecidableEq, Repr

namespace PathStep

/-- The step for a part of a path between slashes. -/
def ofText (part : String) : PathStep :=
  if part = "." then .stay else if part = ".." then .up else .down part

/-- Where a step leads. -/
def apply (l : Location) : PathStep → Location
  | stay => l
  | up => l.dropLast
  | down name => l ++ [name]

/-- The greatest number of bytes of a name. -/
def nameLimit : Nat := 255

/-- The name of a step has more bytes than a name may have. -/
def isTooLong : PathStep → Bool
  | down name => nameLimit < name.utf8ByteSize
  | _ => false

end PathStep

/-- The steps of a path; slashes that follow one another count as one. -/
def pathSteps (path : String) : List PathStep :=
  ((path.toList.splitOnP (· = '/')).filter (!·.isEmpty)).map fun part =>
    PathStep.ofText (String.ofList part)

/-- The steps to what a path denotes; with a slash at its end it denotes directories alone. -/
def stepsTo (path : String) : List PathStep :=
  if path.endsWith "/" then pathSteps path ++ [.stay] else pathSteps path

/-- The greatest number of bytes of a path. -/
def pathLimit : Nat := 4095

/-- Nothing, if a path is fit to denote something. -/
def checkPath (path : String) : Except FileFault Unit :=
  if path = "" then .error .missing
  else if path.toList.contains '\x00' then .error .malformedPath
  else if pathLimit < path.utf8ByteSize then .error .tooLong
  else .ok ()

/-- Nothing, if the name of a step is not too long. -/
def PathStep.check (s : PathStep) : Except FileFault Unit :=
  if s.isTooLong then .error .tooLong else .ok ()

/-- A name below a path. -/
def joinPath (path name : String) : String :=
  if path = "" || path.endsWith "/" then path ++ name else path ++ "/" ++ name

namespace FileTree

/-- What stands at a location. -/
def node? (t : FileTree) (l : Location) : Option FileNode :=
  if l = [] then some .directory else t.nodes.lookup l

/-- Puts something at a location, in place of what is there. -/
def putNode (l : Location) (n : FileNode) : List (Location × FileNode) → List (Location × FileNode)
  | [] => [(l, n)]
  | (k, m) :: rest => if k = l then (l, n) :: rest else (k, m) :: putNode l n rest

/-- The tree with something at a location. -/
def put (t : FileTree) (l : Location) (n : FileNode) : FileTree :=
  { t with nodes := putNode l n t.nodes }

@[simp] theorem lookup_putNode_self (l : Location) (n : FileNode)
    (nodes : List (Location × FileNode)) : (putNode l n nodes).lookup l = some n := by
  induction nodes with
  | nil => simp [putNode]
  | cons head rest ih =>
    obtain ⟨k, m⟩ := head
    by_cases h : k = l
    · simp [putNode, h]
    · have h' : (l == k) = false := by simpa using fun e : l = k => h e.symm
      simp [putNode, h, List.lookup_cons, h', ih]

theorem lookup_putNode_of_ne {l k : Location} (h : k ≠ l) (n : FileNode)
    (nodes : List (Location × FileNode)) : (putNode l n nodes).lookup k = nodes.lookup k := by
  induction nodes with
  | nil =>
    have h' : (k == l) = false := by simpa using h
    simp [putNode, List.lookup_cons, h']
  | cons head rest ih =>
    obtain ⟨j, m⟩ := head
    by_cases hj : j = l
    · subst hj
      have h' : (k == j) = false := by simpa using h
      simp [putNode, List.lookup_cons, h']
    · simp only [putNode, if_neg hj, List.lookup_cons]
      split <;> simp_all

theorem node?_put_self {l : Location} (h : l ≠ []) (t : FileTree) (n : FileNode) :
    (t.put l n).node? l = some n := by
  simp [node?, put, h]

/-- Putting something at a location leaves every other location alone. -/
theorem node?_put_of_ne {l k : Location} (h : k ≠ l) (t : FileTree) (n : FileNode) :
    (t.put l n).node? k = t.node? k := by
  simp [node?, put, lookup_putNode_of_ne h]

/-! ### Paths -/

/-- Where a path starts. -/
def start (t : FileTree) (path : String) : Location :=
  if path.startsWith "/" then [] else t.workingDirectory

/-- Nothing, if there is a directory at the location. -/
def checkDirectory (t : FileTree) (l : Location) : Except FileFault Unit :=
  match t.node? l with
  | some .directory => .ok ()
  | some (.file _) => .error .notDirectory
  | none => .error .missing

/-- Where steps lead from a location; each starts in a directory. -/
def walk (t : FileTree) (l : Location) : List PathStep → Except FileFault Location
  | [] => .ok l
  | s :: rest => do
    t.checkDirectory l
    s.check
    t.walk (s.apply l) rest

/-- The location that a path denotes; there need not be anything at it. -/
def resolve (t : FileTree) (path : String) : Except FileFault Location := do
  checkPath path
  t.walk (t.start path) (stepsTo path)

/-- What stands where a path leads. -/
def lookup (t : FileTree) (path : String) : Except FileFault FileNode := do
  match t.node? (← t.resolve path) with
  | some n => .ok n
  | none => .error .missing

/-- The tree as it is seen from a directory. -/
def enter (t : FileTree) (path : String) : Except FileFault FileTree := do
  let l ← t.resolve path
  t.checkDirectory l
  pure { t with workingDirectory := l }

/-- The path denotes a file. -/
def isFile (t : FileTree) (path : String) : Bool :=
  match t.lookup path with
  | .ok (.file _) => true
  | _ => false

/-- The content of the file that a path denotes. -/
def read (t : FileTree) (path : String) : Except FileFault String := do
  match ← t.lookup path with
  | .file content => .ok content
  | .directory => .error .isDirectory

/-- Makes the file that a path denotes hold a text. The file is made if it is not there. -/
def write (t : FileTree) (path content : String) : Except FileFault FileTree := do
  let l ← t.resolve path
  match t.node? l with
  | some .directory => .error .isDirectory
  | _ => .ok (t.put l (.file content))

/-- Makes the directory that steps lead to from a location, and no other. -/
def makeDirectory (t : FileTree) (l : Location) : List PathStep → Except FileFault FileTree
  | [] => .error .occupied
  | s :: rest => do
    t.checkDirectory l
    s.check
    match s, rest with
    | .down name, [] =>
      match t.node? (l ++ [name]) with
      | none => .ok (t.put (l ++ [name]) .directory)
      | some _ => .error .occupied
    | _, _ => t.makeDirectory (s.apply l) rest

/-- Steps lead from a location to a directory. -/
def leadsToDirectory (t : FileTree) (l : Location) (steps : List PathStep) : Bool :=
  match do t.checkDirectory (← t.walk l steps) with
  | .ok () => true
  | .error _ => false

/-- What steps lead through before their end, the shortest way first; steps that stay lead
nowhere. -/
def stations : List PathStep → List (List PathStep)
  | [] => []
  | s :: rest => (if s = .stay then [] else [[s]]) ++ (stations rest).map (s :: ·)

/-- What has to be there for what steps lead to, from the inside out. -/
def enclosing (steps : List PathStep) : List (List PathStep) :=
  (stations ((steps.reverse.dropWhile (· = .stay)).drop 1).reverse).reverse

/-- Makes the directory that steps lead to, unless it is there. -/
def ensureDirectory (t : FileTree) (l : Location) (steps : List PathStep) :
    FileTree × Except FileFault Unit :=
  match t.makeDirectory l steps with
  | .ok u => (u, .ok ())
  | .error e => (t, if t.leadsToDirectory l steps then .ok () else .error e)

/-- Makes the directory that steps lead to. Where something is missing on the way, what encloses the
directory is made first. What was made before a failure stays. -/
def makeWithin (t : FileTree) (l : Location) (steps : List PathStep) :
    List (List PathStep) → FileTree × Except FileFault Unit
  | [] => t.ensureDirectory l steps
  | outer :: further =>
    match t.ensureDirectory l steps with
    | (_, .error .missing) =>
      match t.makeWithin l outer further with
      | (u, .ok ()) => u.ensureDirectory l steps
      | failed => failed
    | done => done

/-- Makes the directory that a path denotes, and those on the way to it. The empty path asks for
nothing. -/
def makeDirectories (t : FileTree) (path : String) : FileTree × Except FileFault Unit :=
  if path = "" then (t, .ok ())
  else
    match checkPath path with
    | .error e => (t, .error e)
    | .ok () =>
      let steps := pathSteps path
      t.makeWithin (t.start path) steps (enclosing steps)

/-- Copies the content of one file to another. Opening the target empties it, so a file that is
copied onto itself is lost. -/
def copy (t : FileTree) (source target : String) : FileTree × Except FileFault Unit :=
  match t.read source, t.write target "" with
  | .error e, _ => (t, .error e)
  | .ok _, .error e => (t, .error e)
  | .ok _, .ok opened =>
    match opened.read source with
    | .error e => (opened, .error e)
    | .ok content =>
      match opened.write target content with
      | .error e => (opened, .error e)
      | .ok copied => (copied, .ok ())

/-- Removes what a path denotes, and all that is below it. -/
def remove (t : FileTree) (path : String) : Except FileFault FileTree := do
  let l ← t.resolve path
  match t.node? l with
  | none => .error .missing
  | some _ => .ok { t with nodes := t.nodes.filter fun n => !l.isPrefixOf n.1 }

/-! ### Listing -/

/-- The locations that steps lead through, the first one included. -/
def along (l : Location) : List PathStep → List Location
  | [] => [l]
  | s :: rest => l :: along (s.apply l) rest

/-- The locations that have to be known to tell where a path leads. -/
def visited (t : FileTree) (path : String) : List Location :=
  along (t.start path) (pathSteps path)

/-- What stands elsewhere, or otherwise, than in an earlier tree. -/
def changesSince (t before : FileTree) : List (Location × FileNode) :=
  t.nodes.filter fun (l, n) => before.node? l ≠ some n

/-- What stands below the working directory, by location relative to it. A directory comes before
what is in it. -/
def below (t : FileTree) : List (Location × FileNode) :=
  let inside := t.nodes.filterMap fun (l, n) =>
    if t.workingDirectory.isPrefixOf l && l ≠ t.workingDirectory then
      some (l.drop t.workingDirectory.length, n)
    else none
  inside.mergeSort fun a b => !decide (b.1 < a.1)

/-- The paths of what stands below the working directory; directories end in a slash. -/
def listing (t : FileTree) : List String :=
  t.below.map fun (l, n) =>
    String.intercalate "/" l ++ (if n = .directory then "/" else "")

end FileTree

/-! ### Sessions -/

namespace Session

/-- The content of a file. -/
def readFile (path : String) : Session FileTree String := fun t =>
  (t, .ofExcept ((t.read path).mapError .fileAccess))

/-- Writes a file. -/
def writeFile (path content : String) : Session FileTree Unit := fun t =>
  match t.write path content with
  | .ok u => (u, pure ())
  | .error e => (t, .fail (.fileAccess e))

/-- A step that changes the tree and may fail. -/
def ofChange (change : FileTree → FileTree × Except FileFault Unit) : Session FileTree Unit :=
  fun t => ((change t).1, .ofExcept ((change t).2.mapError .fileAccess))

/-- Makes a directory and those on the way to it. -/
def makeDirectories (path : String) : Session FileTree Unit := ofChange (·.makeDirectories path)

/-- Copies a file. -/
def copyFile (source target : String) : Session FileTree Unit := ofChange (·.copy source target)

end Session

end SocAssembly
