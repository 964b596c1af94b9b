import SocAssembly.Dict
import SocAssembly.Error
import SocAssembly.Toml.Document

/-!
# Reading records from TOML

## The model

A reader turns a value of a document into a value of another type, or refuses it. Texts, numbers,
lists, dictionaries and words from a fixed list have readers of their own; a record is read from a
table by the names of its fields, or from an array that lists its fields in order. A strict record
refuses names that it does not know; an array may be longer than the record.

A date counts as a table with one entry, whose name is reserved, so that no record takes a date for
one of its values by accident.
-/

namespace SocAssembly.Toml

/-- What turns a value into another type, or refuses it. -/
abbrev Reader (α : Type) := Value → Option α

namespace Reader

variable {α : Type}

/-- A text. -/
def text : Reader String
  | .string s => some s
  | _ => none

/-- A whole number from zero to below a bound. -/
def below (bound : Nat) : Reader Nat
  | .integer i => if 0 ≤ i ∧ i < bound then some i.toNat else none
  | _ => none

/-- A whole number that fits 32 bits. -/
def word : Reader Nat := below 0x100000000

/-- A whole number that fits 64 bits. -/
def doubleWord : Reader Nat := below 0x10000000000000000

/-- A number, whole or not. -/
def number : Reader Float
  | .float f => some f
  | .integer i => some (.ofInt i)
  | _ => none

/-- A list, item by item. -/
def list (item : Reader α) : Reader (List α)
  | .array _ items => items.mapM item
  | _ => none

/-- The name of the only entry of a date that is read as a table. -/
def dateKey : String := "$__toml_private_datetime"

/-- The named values of a table or a date. -/
def entries : Reader (List (String × Value))
  | .table _ fields => some fields
  | .dateTime s => some [(dateKey, .string s)]
  | _ => none

/-- A dictionary, value by value. -/
def dict (item : Reader α) : Reader (Dict α) := fun v => do
  let pairs ← (← entries v).mapM fun (k, w) => (item w).map (k, ·)
  some (.ofList pairs)

/-- The value is a table or an array without anything in it. -/
def isEmpty : Value → Bool
  | .table _ fields => fields.isEmpty
  | .array _ items => items.isEmpty
  | _ => false

/-- One of the given things by its name, which may also be the only name in a table, with nothing
under it. -/
def oneOf (all : List α) (name : α → String) : Reader α
  | .string s => all.find? (name · = s)
  | .table _ [(s, v)] => if isEmpty v then all.find? (name · = s) else none
  | _ => none

end Reader

/-- The named values that make up a record. -/
structure Record where
  /-- The values with the names of their fields. -/
  fields : List (String × Value)

namespace Record

variable {α : Type}

/-- The record in a value. -/
def ofValue? (strict : Bool) (names : List String) : Reader Record
  | .array _ items => some ⟨names.zip items⟩
  | v => do
    let fields ← Reader.entries v
    if strict && fields.any (fun f => !names.contains f.1) then none else some ⟨fields⟩

/-- Reads a record that refuses names it does not know. -/
def strict (names : List String) (read : Record → Option α) : Reader α := fun v =>
  (ofValue? true names v).bind read

/-- Reads a record that passes over names it does not know. -/
def lenient (names : List String) (read : Record → Option α) : Reader α := fun v =>
  (ofValue? false names v).bind read

/-- The value of a field that has to be there. -/
def required (r : Record) (name : String) (read : Reader α) : Option α :=
  (r.fields.lookup name).bind read

/-- The value of a field, or another if it is not there. -/
def optional (r : Record) (name : String) (read : Reader α) (other : α) : Option α :=
  match r.fields.lookup name with
  | some v => read v
  | none => some other

/-- The value of a field, if it is there. -/
def option (r : Record) (name : String) (read : Reader α) : Option (Option α) :=
  r.optional name (fun v => (read v).map some) none

end Record

/-- Reads a whole document; one that is malformed is blamed by the name it goes by. -/
def readDocument {α : Type} (read : Reader α) (document what : String) : Except Error α :=
  match (parse document).bind fun t => read t.toValue with
  | some a => .ok a
  | none => .error (.malformedDocument what)

end SocAssembly.Toml
