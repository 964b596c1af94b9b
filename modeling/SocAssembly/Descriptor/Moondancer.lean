import SocAssembly.Descriptor.Basic

/-!
# The Moondancer design

## The model

The design that is assembled when no other is given: a processor with three USB device controllers,
each with the queues of its endpoints. Its serial port and its debug port are wired to the second
extension connector of the board, so it adds both as resources. Two of the USB ports have a second
choice of transceiver, and the reset button may be missing.
-/

namespace SocAssembly.Moondancer

/-- A signal on the second extension connector. -/
def extensionSignal (name position : String) (dir : Direction) : Subsignal where
  name := name
  pins := position
  dir := dir
  conn := some ⟨"pmod", 1⟩

/-- A resource on the second extension connector. -/
def extension (name : String) (number : Nat) (signals : List Subsignal) : Resource where
  name := name
  number := number
  subsignals := signals
  attrs := .ofList [("IO_TYPE", "LVCMOS33")]

/-- A USB device controller with its queues. -/
def usbPort (name : String) (base : Nat) : List PeripheralPlan :=
  [ { name := name, kind := .usbDeviceController, address := some base },
    { name := name ++ "_ep_control", kind := .setupFifo, parent := some name },
    { name := name ++ "_ep_in", kind := .inFifo, parent := some name },
    { name := name ++ "_ep_out", kind := .outFifo, parent := some name } ]

/-- A general purpose port of eight pins. -/
def port (name : String) (base : Nat) : PeripheralPlan where
  name := name
  kind := .gpio
  width := some 8
  address := some base

/-- The memories. -/
def memories : List MemoryPlan :=
  [ ⟨⟨"bootrom", .rom, 0x4000, "Boot ROM, contents come with the netlist"⟩, some 0⟩,
    ⟨⟨"scratchpad", .ram, 0x1000, "BIOS scratchpad"⟩, some 0x4000⟩,
    ⟨⟨"internal_sram", .ram, 0x10000, "Firmware SRAM"⟩, some 0x40000000⟩ ]

/-- The peripherals. -/
def peripherals : List PeripheralPlan :=
  [ { name := "uart", kind := .uart },
    { name := "timer", kind := .timer },
    { name := "leds", kind := .leds, address := some 0xf0001000 },
    port "gpioa" 0xf0002000,
    port "gpiob" 0xf0002100 ] ++
  usbPort "usb0" 0xf0003000 ++ usbPort "usb1" 0xf0004000 ++ usbPort "usb2" 0xf0005000

/-- The resources on the second extension connector. -/
def resources : List Resource :=
  [ extension "uart" 1 [extensionSignal "rx" "1" .input, extensionSignal "tx" "2" .tristate],
    extension "jtag" 0
      [ extensionSignal "tms" "7" .input, extensionSignal "tdi" "8" .input,
        extensionSignal "tdo" "9" .output, extensionSignal "tck" "10" .input ] ]

/-- The wires. -/
def wires : List Wire :=
  [ ⟨"cpu.ext_reset", [⟨"button_user", 0⟩], .optional⟩,
    ⟨"gpioa.pins", [⟨"user_pmod", 0⟩], .mandatory⟩,
    ⟨"uart.serial", [⟨"uart", 1⟩], .mandatory⟩,
    ⟨"cpu.jtag", [⟨"jtag", 0⟩], .mandatory⟩,
    ⟨"usb0.bus", [⟨"target_phy", 0⟩], .mandatory⟩,
    ⟨"usb1.bus", [⟨"aux_phy", 0⟩, ⟨"host_phy", 0⟩], .mandatory⟩,
    ⟨"usb2.bus", [⟨"control_phy", 0⟩, ⟨"sideband_phy", 0⟩], .mandatory⟩ ]

end SocAssembly.Moondancer

namespace SocAssembly

/-- The Moondancer design. -/
def Descriptor.moondancer : Descriptor where
  name := "moondancer"
  cpu := { name := "VexRiscv", variant := "cynthion+jtag" }
  memories := Moondancer.memories
  peripherals := Moondancer.peripherals
  resources := Moondancer.resources
  wires := Moondancer.wires
  firmware := .replicate (some "internal_sram")

end SocAssembly
