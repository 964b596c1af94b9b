import SocAssembly.Design.Basic
import SocAssembly.Error
import SocAssembly.Text.Hex
import SocAssembly.Text.Identifier
import SocAssembly.Xml

/-!
# Device descriptions

## The model

A device description lists the peripherals of a design with their registers and fields, in the form
that generators of register access code read. Sizes and offsets are words of 32 bits
(`DevicePeripheral`, `DeviceRegister`), and `Design.device` says what they are for a design; a
device without peripherals and a field without bits are refused. The description is written as an
XML document.
-/

namespace SocAssembly

/-- A register of a device. -/
structure DeviceRegister where
  /-- Its name. -/
  name : String
  /-- What it is for. -/
  description : String
  /-- Its distance in bytes from the start of the peripheral. -/
  offset : UInt32
  /-- The number of bits it takes. -/
  size : UInt32
  /-- How software may use it. -/
  access : Access
  /-- Its fields. -/
  fields : List Field
  deriving DecidableEq, Repr

/-- A peripheral of a device. -/
structure DevicePeripheral where
  /-- Its name. -/
  name : String
  /-- What it is for. -/
  description : String
  /-- The peripheral whose window it shares. -/
  group : Option String
  /-- Its address. -/
  base : Nat
  /-- The number of bytes it takes. -/
  size : UInt32
  /-- The number of its interrupt. -/
  irq : Option Nat
  /-- Its registers. -/
  registers : List DeviceRegister
  deriving DecidableEq, Repr

/-- A device. -/
structure Device where
  /-- Its name. -/
  name : String
  /-- What it is. -/
  description : String
  /-- Its processor. -/
  cpu : Cpu
  /-- Its peripherals. -/
  peripherals : List DevicePeripheral
  deriving DecidableEq, Repr

/-- The field, if it has bits. -/
def Field.checked (f : Field) : Except Error Field :=
  if f.bitWidth = 0 then .error .emptyBitRange else .ok f

/-- A register as part of a device. -/
def PlacedRegister.deviceRegister (p : PlacedRegister) : Except Error DeviceRegister := do
  let fields ← p.register.fields.mapM Field.checked
  pure
    { name := p.register.name
      description := p.register.description
      offset := p.offset.toUInt32
      size := p.register.words.toUInt32 * busWidth.toUInt32
      access := p.register.access
      fields := fields }

/-- A peripheral as part of a device. -/
def Entry.devicePeripheral (e : Entry) : Except Error DevicePeripheral := do
  let registers ← e.registers.mapM PlacedRegister.deviceRegister
  pure
    { name := Text.identifier .macroName e.name
      description := e.description
      group := e.parent.map (Text.identifier .macroName)
      base := e.base
      size := e.size.toUInt32
      irq := e.irq
      registers := registers }

/-- The device that a design describes. -/
def Design.device (d : Design) : Except Error Device := do
  let peripherals ← d.peripherals.mapM Entry.devicePeripheral
  if peripherals.isEmpty then .error .emptyDevice
  pure
    { name := Text.identifier .macroName d.name
      description := s!"{d.name} on {d.platform}"
      cpu := d.cpu
      peripherals := peripherals }

/-! ### Writing -/

/-- An element with a decimal number. -/
def decimalLeaf (name : String) (n : Nat) : Xml := .leaf name (toString n)

/-- An element with a distance or a number of bytes. -/
def bytesLeaf (name : String) (n : Nat) : Xml := .leaf name (Text.hexCapitals 1 n)

/-- The element with the number of bits of a register; unlike numbers of bytes it is written in
small letters. -/
def bitsLeaf (n : Nat) : Xml := .leaf "size" (Text.hex n)

/-- An element with an address. -/
def addressLeaf (name : String) (n : Nat) : Xml := .leaf name (Text.hexCapitals 8 n)

/-- An element with a text; nothing if the text is empty. -/
def leafUnlessEmpty (name text : String) : List Xml :=
  if text.isEmpty then [] else [.leaf name text]

/-- The element of a field. -/
def Field.toXml (f : Field) : Xml :=
  .node "field" []
    ([.leaf "name" f.name] ++ leafUnlessEmpty "description" f.description ++
      [decimalLeaf "bitOffset" f.bitOffset, decimalLeaf "bitWidth" f.bitWidth])

/-- The element of a register. -/
def DeviceRegister.toXml (r : DeviceRegister) : Xml :=
  .node "register" []
    ([.leaf "name" r.name, .leaf "description" r.description,
      bytesLeaf "addressOffset" r.offset.toNat, bitsLeaf r.size.toNat,
      .leaf "access" r.access.label, addressLeaf "resetValue" 0] ++
      if r.fields.isEmpty then [] else [.node "fields" [] (r.fields.map Field.toXml)])

/-- The element of an interrupt. -/
def DevicePeripheral.interruptXml (p : DevicePeripheral) : List Xml :=
  match p.irq with
  | some n => [.node "interrupt" [] [.leaf "name" p.name, decimalLeaf "value" n]]
  | none => []

/-- The element of a peripheral. -/
def DevicePeripheral.toXml (p : DevicePeripheral) : Xml :=
  .node "peripheral" []
    ([.leaf "name" p.name] ++ leafUnlessEmpty "description" p.description ++
      leafUnlessEmpty "groupName" (p.group.getD "") ++
      [addressLeaf "baseAddress" p.base,
        .node "addressBlock" []
          [bytesLeaf "offset" 0, bytesLeaf "size" p.size.toNat, .leaf "usage" "registers"]] ++
      p.interruptXml ++
      [.node "registers" [] (p.registers.map DeviceRegister.toXml)])

/-- The element of a processor. -/
def Cpu.toXml (c : Cpu) : Xml :=
  .node "cpu" []
    [.leaf "name" c.name, .leaf "revision" c.variant, .leaf "endian" "little",
      .leaf "mpuPresent" "false", .leaf "fpuPresent" "false", decimalLeaf "nvicPrioBits" 0,
      .leaf "vendorSystickConfig" "false"]

/-- The name space of the attributes that name a schema. -/
def Device.schemaSpace : String := "http" ++ "://" ++ "www.w3.org/2001/XMLSchema-instance"

/-- The attributes of the root, which name the form of the document. -/
def Device.schema : List (String × String) :=
  [ ("schemaVersion", "1.1"),
    ("xmlns:xs", Device.schemaSpace),
    ("xs:noNamespaceSchemaLocation", "CMSIS-SVD_Schema_1_1.xsd") ]

/-- The element of a device. -/
def Device.toXml (d : Device) : Xml :=
  .node "device" Device.schema
    [.leaf "vendor" "moondancer-soc", .leaf "name" d.name, .leaf "version" "1.0",
      .leaf "description" d.description, d.cpu.toXml, decimalLeaf "addressUnitBits" 8,
      decimalLeaf "width" busWidth, bitsLeaf busWidth, .leaf "access" "read-write",
      addressLeaf "resetValue" 0, addressLeaf "resetMask" 0xFFFFFFFF,
      .node "peripherals" [] (d.peripherals.map DevicePeripheral.toXml)]

/-- The device description of a design. -/
def Design.deviceDescription (d : Design) : Except Error String := do
  let device ← d.device
  pure device.toXml.document

end SocAssembly
