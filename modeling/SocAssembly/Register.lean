/-!
# Registers

## The model

Software sees a peripheral as a block of registers on a bus of 32 bits. Each register starts on a
word and takes as many consecutive words as its bits need, at least one. A list of registers is
laid out without gaps, each behind the one before it (`placeFrom`).
-/

namespace SocAssembly

/-- The width of the bus in bits. -/
def busWidth : Nat := 32

/-- The distance in bytes from one bus word to the next. -/
def wordStride : Nat := busWidth / 8

/-- How software may use a register. -/
inductive Access where
  /-- It can only be read. -/
  | readOnly
  /-- It can only be written. -/
  | writeOnly
  /-- It can be read and written. -/
  | readWrite
  deriving DecidableEq, Repr

namespace Access

/-- All kinds of access. -/
def all : List Access := [readOnly, writeOnly, readWrite]

/-- The name of an access in a record. -/
def name : Access → String
  | readOnly => "read_only"
  | writeOnly => "write_only"
  | readWrite => "read_write"

/-- The name of an access in documentation. -/
def label : Access → String
  | readOnly => "read-only"
  | writeOnly => "write-only"
  | readWrite => "read-write"

/-- The register can be read. -/
def isReadable (a : Access) : Bool := a != writeOnly

/-- The register can be written. -/
def isWritable (a : Access) : Bool := a != readOnly

end Access

/-- Named bits of a register. -/
structure Field where
  /-- Its name. -/
  name : String
  /-- What it is for. -/
  description : String
  /-- Its lowest bit. -/
  bitOffset : Nat
  /-- The number of its bits. -/
  bitWidth : Nat
  deriving DecidableEq, Repr

/-- A register. -/
structure Register where
  /-- Its name. -/
  name : String
  /-- What it is for. -/
  description : String
  /-- How software may use it. -/
  access : Access
  /-- The number of its bits. -/
  width : Nat
  /-- Its named bits. -/
  fields : List Field
  deriving DecidableEq, Repr

namespace Register

/-- A register all of whose bits form one field. -/
def withField (name field : String) (access : Access) (width : Nat) (description : String) :
    Register :=
  ⟨name, description, access, width, [⟨field, description, 0, width⟩]⟩

/-- A register all of whose bits form one field of the same name. -/
def ofName (name : String) (access : Access) (width : Nat) (description : String) : Register :=
  withField name name access width description

/-- The number of bus words that the register takes. -/
def words (r : Register) : Nat := max ((r.width + busWidth - 1) / busWidth) 1

/-- The number of bytes that the register takes. -/
def byteSize (r : Register) : Nat := r.words * wordStride

theorem words_pos (r : Register) : 0 < r.words := by unfold words; omega

end Register

/-- A register at its place in a block. -/
structure PlacedRegister where
  /-- The distance in bytes from the start of the block. -/
  offset : Nat
  /-- The register. -/
  register : Register
  deriving DecidableEq, Repr

namespace PlacedRegister

/-- The offset behind the register. -/
def stop (p : PlacedRegister) : Nat := p.offset + p.register.byteSize

end PlacedRegister

/-- Lays registers out without gaps from an offset on. -/
def placeFrom (offset : Nat) : List Register → List PlacedRegister
  | [] => []
  | r :: rest => ⟨offset, r⟩ :: placeFrom (offset + r.byteSize) rest

/-- Laying out changes neither the registers nor their order. -/
@[simp] theorem map_register_placeFrom (offset : Nat) (rs : List Register) :
    (placeFrom offset rs).map (·.register) = rs := by
  induction rs generalizing offset with
  | nil => rfl
  | cons r rest ih => simp [placeFrom, ih]

end SocAssembly
