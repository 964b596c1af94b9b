/-!
# TOML values

## The model

A document is a table of named values. Tables and arrays remember how they were written, because
that decides whether a later line may still add to them: a table in braces is closed, a table with
a header of its own may not be opened a second time, a table that only occurred on the way to
another may still get its header, and a table made by a dotted key grows by dotted keys alone.

`Table.descend` walks along a path of keys, makes the tables that are missing and changes the last
one; it fails where the path leads through a value that is closed. Headers and keys of a document
are three uses of it (`openTable`, `openElement`, `define`).
-/

namespace SocAssembly.Toml

/-- How a table came to be. -/
inductive TableForm where
  /-- In braces. -/
  | braced
  /-- By a header. -/
  | header
  /-- On the way to the table of a header. -/
  | implied
  /-- On the way to the value of a dotted key. -/
  | dotted
  deriving DecidableEq, Repr

/-- How an array came to be. -/
inductive ArrayForm where
  /-- In brackets. -/
  | bracketed
  /-- By headers, one for each element. -/
  | headers
  deriving DecidableEq, Repr

/-- A value of a document. -/
inductive Value where
  /-- A text. -/
  | string (s : String)
  /-- A whole number of 64 bits. -/
  | integer (i : Int)
  /-- A floating-point number. -/
  | float (f : Float)
  /-- A truth value. -/
  | boolean (b : Bool)
  /-- A date, a time or both, in its normal spelling. -/
  | dateTime (text : String)
  /-- A list of values. -/
  | array (form : ArrayForm) (items : List Value)
  /-- Named values. -/
  | table (form : TableForm) (fields : List (String × Value))
  deriving Inhabited, Repr

/-- Named values that are being gathered. -/
structure Table where
  /-- How the table came to be. -/
  form : TableForm
  /-- Its values. -/
  fields : List (String × Value) := []

namespace Table

/-- The table as a value. -/
def toValue (t : Table) : Value := .table t.form t.fields

/-- The value under a key. -/
def get? (t : Table) (key : String) : Option Value := t.fields.lookup key

/-- Puts a value under a key, in place of one that is there. -/
def setField (key : String) (v : Value) : List (String × Value) → List (String × Value)
  | [] => [(key, v)]
  | (k, w) :: rest => if k = key then (k, v) :: rest else (k, w) :: setField key v rest

/-- The table with the value under the key. -/
def set (t : Table) (key : String) (v : Value) : Table :=
  { t with fields := setField key v t.fields }

/-- Walks along a path and changes the table at its end. A dotted path does not enter a table that
has a header. -/
def descend (viaDots : Bool) :
    List String → Table → (Table → Option Table) → Option Table
  | [], t, change => change t
  | key :: rest, t, change =>
    match t.get? key with
    | none => do
      let inner ← descend viaDots rest ⟨if viaDots then .dotted else .implied, []⟩ change
      some (t.set key inner.toValue)
    | some (.table form fields) =>
      if form = .braced || (viaDots && form = .header) then none
      else do
        let inner ← descend viaDots rest ⟨form, fields⟩ change
        some (t.set key inner.toValue)
    | some (.array .headers items) =>
      match items.getLast? with
      | some (.table form fields) => do
        let inner ← descend viaDots rest ⟨form, fields⟩ change
        some (t.set key (.array .headers (items.dropLast ++ [inner.toValue])))
      | _ => none
    | some _ => none

/-- Puts a value under a key that is free. A dotted path has to end in a table that was made by
dotted keys. -/
def define (path : List String) (key : String) (v : Value) (t : Table) : Option Table :=
  descend true path t fun inner =>
    if !path.isEmpty && inner.form ≠ .dotted then none
    else if (inner.get? key).isSome then none
    else some (inner.set key v)

/-- Opens the table of a header, which no header or key opened before. -/
def openTable (path : List String) (key : String) (t : Table) : Option Table :=
  descend false path t fun outer =>
    match outer.get? key with
    | none => some (outer.set key (.table .header []))
    | some (.table .implied fields) => some (outer.set key (.table .header fields))
    | some _ => none

/-- Opens a further element of an array of tables. -/
def openElement (path : List String) (key : String) (t : Table) : Option Table :=
  descend false path t fun outer =>
    match outer.get? key with
    | none => some (outer.set key (.array .headers [.table .header []]))
    | some (.array .headers items) =>
      some (outer.set key (.array .headers (items ++ [.table .header []])))
    | some _ => none

end Table

end SocAssembly.Toml
