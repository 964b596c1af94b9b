import SocAssembly.Capabilities
import SocAssembly.Register
import SocAssembly.Error

/-!
# Peripherals and memories

## The model

A peripheral is a list of registers and a list of events. If there are events, three registers
with one bit per event stand behind the others: the level of each event, the events that wait to be
served, and the events that raise the interrupt (`eventRegisters`). A peripheral may reserve more
of the bus than its block, for others that are attached to it.

The kinds of peripherals that a design can name have fixed register lists. Timers, LEDs and
general purpose ports come in widths of 1 to 32 bits (`Peripheral.ofKind`).
-/

namespace SocAssembly

/-- Something that a peripheral reports. -/
structure Event where
  /-- Its name. -/
  name : String
  /-- When it happens. -/
  description : String
  deriving DecidableEq, Repr

/-- The kinds of peripherals. -/
inductive PeripheralKind where
  /-- A counter. -/
  | timer
  /-- A serial port. -/
  | uart
  /-- A row of lamps. -/
  | leds
  /-- A general purpose port. -/
  | gpio
  /-- A USB device controller. -/
  | usbDeviceController
  /-- The queue of a control endpoint. -/
  | setupFifo
  /-- The queue of an IN endpoint. -/
  | inFifo
  /-- The queue of an OUT endpoint. -/
  | outFifo
  deriving DecidableEq, Repr

namespace PeripheralKind

/-- All kinds. -/
def all : List PeripheralKind :=
  [timer, uart, leds, gpio, usbDeviceController, setupFifo, inFifo, outFifo]

/-- The name of a kind. -/
def name : PeripheralKind → String
  | timer => "timer"
  | uart => "uart"
  | leds => "leds"
  | gpio => "gpio"
  | usbDeviceController => "usb_device_controller"
  | setupFifo => "setup_fifo"
  | inFifo => "in_fifo"
  | outFifo => "out_fifo"

end PeripheralKind

/-- A peripheral. -/
structure Peripheral where
  /-- Its name. -/
  name : String
  /-- Its kind. -/
  kind : PeripheralKind
  /-- What it is for. -/
  description : String
  /-- Its registers, those for events apart. -/
  registers : List Register := []
  /-- Its events. -/
  events : List Event := []
  /-- Bytes to reserve on the bus, if more than the block. -/
  window : Option Nat := none
  deriving DecidableEq, Repr

namespace Peripheral

open Access in
/-- A counter of the given width. -/
def timer (name : String) (width : Nat) : Peripheral where
  name := name
  kind := .timer
  description := "Down-counting timer"
  registers := [
    .ofName "reload" readWrite width "Counter reload value",
    .ofName "en" readWrite 1 "Counter enable",
    .ofName "ctr" readWrite width "Current counter value"]
  events := [⟨"zero", "Counter reached zero"⟩]

open Access in
/-- A serial port. -/
def uart (name : String) : Peripheral where
  name := name
  kind := .uart
  description := "Asynchronous serial transceiver"
  registers := [
    .ofName "divisor" readWrite 20 "Clock cycles per bit",
    .ofName "rx_data" readOnly 8 "Received byte",
    .ofName "rx_rdy" readOnly 1 "A received byte is waiting",
    .ofName "rx_err" readOnly 3 "Overflow, frame and parity errors",
    .ofName "tx_data" writeOnly 8 "Byte to transmit",
    .ofName "tx_rdy" readOnly 1 "The transmitter can accept a byte"]
  events := [
    ⟨"rx_rdy", "A byte was received"⟩,
    ⟨"rx_err", "A receive error occurred"⟩,
    ⟨"tx_mty", "The transmit buffer is empty"⟩]

/-- A row of lamps. -/
def leds (name : String) (count : Nat) : Peripheral where
  name := name
  kind := .leds
  description := "User LEDs"
  registers := [.ofName "output" .readWrite count "One bit per LED"]

open Access in
/-- A general purpose port of so many pins. -/
def gpio (name : String) (width : Nat) : Peripheral where
  name := name
  kind := .gpio
  description := "General purpose I/O port"
  registers := [
    .ofName "moder" readWrite width "Output enable, one bit per pin",
    .ofName "odr" readWrite width "Output data",
    .ofName "idr" readOnly width "Input data"]

open Access in
/-- A USB device controller. It keeps a page for its endpoints. -/
def usbDeviceController (name : String) : Peripheral where
  name := name
  kind := .usbDeviceController
  description := "USB device controller"
  registers := [
    .ofName "connect" readWrite 1 "Attach the device to the bus",
    .ofName "speed" readOnly 2 "Negotiated bus speed",
    .ofName "low_speed_only" readWrite 1 "Restrict the device to low speed",
    .ofName "full_speed_only" readWrite 1 "Restrict the device to full speed"]
  events := [⟨"reset", "A bus reset was detected"⟩]
  window := some 0x1000

open Access in
/-- The queue of a control endpoint. -/
def setupFifo (name : String) : Peripheral where
  name := name
  kind := .setupFifo
  description := "Control endpoint SETUP packet FIFO"
  registers := [
    .ofName "data" readOnly 8 "Next byte of the SETUP packet",
    .ofName "reset" writeOnly 1 "Flush the FIFO",
    .ofName "epno" readOnly 4 "Endpoint the packet was addressed to",
    .ofName "have" readOnly 1 "The FIFO holds data",
    .ofName "pend" readOnly 1 "An event is pending",
    .ofName "address" readWrite 7 "Device address"]
  events := [⟨"setup", "A SETUP packet was received"⟩]

open Access in
/-- The queue of an IN endpoint. -/
def inFifo (name : String) : Peripheral where
  name := name
  kind := .inFifo
  description := "IN endpoint transmit FIFO"
  registers := [
    .ofName "data" writeOnly 8 "Byte to queue for transmission",
    .ofName "epno" writeOnly 4 "Endpoint to transmit on",
    .ofName "reset" writeOnly 1 "Flush the FIFO",
    .ofName "stall" writeOnly 1 "Stall the endpoint",
    .ofName "idle" readOnly 1 "No packet is being transmitted",
    .ofName "have" readOnly 1 "The FIFO holds data",
    .ofName "pend" readOnly 1 "An event is pending",
    .ofName "pid" readWrite 1 "Data toggle of the next packet"]
  events := [⟨"done", "A packet was sent and acknowledged"⟩]

open Access in
/-- The queue of an OUT endpoint. -/
def outFifo (name : String) : Peripheral where
  name := name
  kind := .outFifo
  description := "OUT endpoint receive FIFO"
  registers := [
    .ofName "data" readOnly 8 "Next received byte",
    .ofName "data_ep" readOnly 4 "Endpoint the data was received on",
    .ofName "reset" writeOnly 1 "Flush the FIFO",
    .ofName "epno" readWrite 4 "Endpoint to configure",
    .ofName "enable" readWrite 1 "Accept packets on the endpoint",
    .ofName "prime" writeOnly 1 "Ready the endpoint for one packet",
    .ofName "stall" writeOnly 1 "Stall the endpoint",
    .ofName "have" readOnly 1 "The FIFO holds data",
    .ofName "pend" readOnly 1 "An event is pending",
    .ofName "address" readWrite 7 "Device address to respond to",
    .ofName "pid" readWrite 1 "Data toggle of the next packet"]
  events := [⟨"done", "A packet was received"⟩]

/-- The width that was asked for, or else the usual one, if a register can have it. -/
def checkedWidth (name : String) (width : Option Nat) (usual : Nat) : Except Error Nat :=
  let w := width.getD usual
  if w = 0 ∨ busWidth < w then .error (.unsupportedWidth name w) else .ok w

/-- A peripheral of a kind. The width is that of a counter, a port or a row of lamps; the other
kinds do not look at it. -/
def ofKind (kind : PeripheralKind) (name : String) (width : Option Nat) :
    Except Error Peripheral :=
  match kind with
  | .timer => (checkedWidth name width 32).map (timer name)
  | .uart => .ok (uart name)
  | .leds => (checkedWidth name width 6).map (leds name)
  | .gpio => (checkedWidth name width 8).map (gpio name)
  | .usbDeviceController => .ok (usbDeviceController name)
  | .setupFifo => .ok (setupFifo name)
  | .inFifo => .ok (inFifo name)
  | .outFifo => .ok (outFifo name)

/-- The registers for so many events, of which there are none if there are no events. -/
def eventRegisters (count : Nat) : List Register :=
  if count = 0 then []
  else
    [ .withField "ev_status" "status" .readOnly count "Event status",
      .withField "ev_pending" "pending" .readWrite count "Pending events, write 1 to clear",
      .withField "ev_enable" "enable" .readWrite count "Event enable" ]

/-- The whole block of registers with their offsets. -/
def layout (p : Peripheral) : List PlacedRegister :=
  placeFrom 0 (p.registers ++ eventRegisters p.events.length)

/-- The size of the block in bytes: the end of its last register. -/
def blockSize (p : Peripheral) : Nat :=
  (p.layout.getLast?.map (·.stop)).getD 0

/-- What software can do with the peripheral. Events bring registers that are read and written. -/
def capabilities (p : Peripheral) : Capabilities :=
  let eventful := !p.events.isEmpty
  { read := p.registers.any (·.access.isReadable) || eventful
    write := p.registers.any (·.access.isWritable) || eventful
    csr := true
    events := eventful }

end Peripheral

/-- The kinds of memories. -/
inductive MemoryKind where
  /-- Read-only memory. -/
  | rom
  /-- Memory that can be written. -/
  | ram
  deriving DecidableEq, Repr

namespace MemoryKind

/-- All kinds. -/
def all : List MemoryKind := [rom, ram]

/-- The name of a kind. -/
def name : MemoryKind → String
  | rom => "rom"
  | ram => "ram"

end MemoryKind

/-- A memory. -/
structure Memory where
  /-- Its name. -/
  name : String
  /-- Its kind. -/
  kind : MemoryKind
  /-- Its size in bytes. -/
  size : Nat
  /-- What it is for. -/
  description : String
  deriving DecidableEq, Repr

/-- What software can do with the memory. -/
def Memory.capabilities (m : Memory) : Capabilities where
  memory := true
  read := true
  write := m.kind = .ram
  execute := true

end SocAssembly
