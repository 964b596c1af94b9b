import SocAssembly.Board
import SocAssembly.Report

/-!
# Platforms and their catalogue

## The model

A platform is a board that a design is being built for, together with the keys of the resources
that were handed out. Resources can be added to it as long as they do not take the key of one that
is there.

The catalogue lists the boards that are known. Adding boards replaces those of the same name and
puts the new ones at the end; a board is looked up by its name or an alias, without regard to case,
and the first match counts.
-/

namespace SocAssembly

/-- A board that is being built for. -/
structure Platform where
  /-- The board, with the resources that were added. -/
  board : Board
  /-- The resources that were handed out, the latest first. -/
  requested : List ResourceKey := []
  deriving Repr

namespace Platform

/-- The name of the board. -/
def name (p : Platform) : String := p.board.name

/-- The frequency of a clock domain in Hz. -/
def clockFrequency (p : Platform) (domain : String) : Except Error Nat :=
  match p.board.clockFrequencies.get? domain with
  | some mhz => .ok (wholeHertz (mhz * 1e6))
  | none => .error (.unknownClockDomain p.name domain)

/-- The platform with one more resource. -/
def withResource (p : Platform) (r : Resource) : Platform :=
  { p with board := { p.board with resources := p.board.resources ++ [r] } }

/-- Adds resources in order, up to the first whose key is taken. -/
def addResources : List Resource → Session Platform Unit
  | [] => pure ()
  | r :: rest => do
    let p ← Session.state
    if (p.board.resource? r.key).isSome then
      Session.fail (.duplicateResource r.name r.number)
    else
      Session.modify (·.withResource r)
      addResources rest

end Platform

/-- The boards that are known. -/
structure Catalogue where
  /-- The boards, in order. -/
  boards : List Board := []
  deriving Repr

namespace Catalogue

/-- Puts a board at the end and drops those of its name. -/
def put (c : Catalogue) (b : Board) : Catalogue :=
  ⟨c.boards.filter (·.name ≠ b.name) ++ [b]⟩

/-- Puts the boards of another catalogue, in order. -/
def extend (c other : Catalogue) : Catalogue := other.boards.foldl put c

/-- The part of a name that counts: what follows the last colon, without blanks around it. -/
def plainName (name : String) : String :=
  Text.trim (String.ofList (name.toList.reverse.takeWhile (· ≠ ':')).reverse)

/-- The first board that goes by a name. -/
def find? (c : Catalogue) (name : String) : Option Board :=
  c.boards.find? (·.goesBy (plainName name))

/-- The platform of a board that is named, with nothing handed out. -/
def select (c : Catalogue) (name : Option String) : Except Error Platform :=
  match name with
  | none => .error .noPlatform
  | some n =>
    match c.find? n with
    | some b => .ok { board := b }
    | none => .error (.unknownPlatform n)

end Catalogue

end SocAssembly
