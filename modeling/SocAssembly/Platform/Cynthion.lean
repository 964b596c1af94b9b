import SocAssembly.Platform.Basic

/-!
# The Cynthion boards

## The model

Two revisions of one board are known from the start. They share the FPGA, the clocks and the two
connectors for extension modules; they differ in the pins and in the names of the USB transceivers,
and only the later one has a button.
-/

namespace SocAssembly.Cynthion

/-- The attributes of an ordinary pin. -/
def plainPin : Dict String := .ofList [("IO_TYPE", "LVCMOS33")]

/-- The attributes of a fast pin. -/
def fastPin : Dict String := .ofList [("IO_TYPE", "LVCMOS33"), ("SLEWRATE", "FAST")]

/-- A USB transceiver. -/
def transceiver (name data clk dir nxt stp rst : String) : Resource where
  name := name
  subsignals := [
    { name := "data", pins := data },
    { name := "clk", pins := clk, dir := .input },
    { name := "dir", pins := dir, dir := .input },
    { name := "nxt", pins := nxt, dir := .input },
    { name := "stp", pins := stp, dir := .output },
    { name := "rst", pins := rst, dir := .output }]
  attrs := fastPin

/-- The clock input. -/
def clock (pin : String) : Resource where
  name := "clk_60MHz"
  pins := some pin
  dir := .input
  attrs := plainPin
  clock := some 60e6

/-- The serial port of the debugger. -/
def serialPort : Resource where
  name := "uart"
  subsignals := [
    { name := "rx", pins := "R14", dir := .input },
    { name := "tx", pins := "T14", dir := .tristate }]
  attrs := plainPin

/-- The lamp. -/
def lamp (pin : String) : Resource where
  name := "led"
  pins := some pin
  dir := .output
  attrs := plainPin

/-- The button. -/
def button (pin : String) : Resource where
  name := "button_user"
  pins := some pin
  dir := .input
  attrs := plainPin

/-- The eight pins of an extension connector as one port. -/
def extensionPort (number : Nat) : Resource where
  name := "user_pmod"
  number := number
  pins := some "1 2 3 4 7 8 9 10"
  conn := some ⟨"pmod", number⟩
  attrs := plainPin

/-- The extension connectors. -/
def extensionConnectors : List Connector :=
  [ { name := "pmod", number := 0, pins := "N5 P5 R5 T5 - - N6 P6 R6 T6 - -" },
    { name := "pmod", number := 1, pins := "K14 K15 L14 L15 - - M14 M15 N14 N15 - -" } ]

/-- What the revisions share. -/
def board (name : String) (aliases : List String) (resources : List Resource) : Board where
  name := name
  aliases := aliases
  device := "LFE5U-12F"
  package := "CABGA256"
  speed := 8
  defaultClock := "clk_60MHz"
  clockFrequencies := .ofList [("fast", 240.0), ("sync", 120.0), ("usb", 60.0)]
  connectors := extensionConnectors
  resources := resources

/-- Revision 0.4. -/
def rev0d4 : Board :=
  board "CynthionPlatformRev0D4" ["cynthion-r0.4", "luna-r0.4"]
    [ clock "A7", serialPort, lamp "P14", extensionPort 0, extensionPort 1,
      transceiver "target_phy" "N1 N3 N4 P1 P2 P4 R1 R2" "T3" "M2" "M1" "L3" "M3",
      transceiver "host_phy" "F1 F2 F3 G1 G2 H1 H2 J1" "K1" "E2" "E1" "D3" "E3",
      transceiver "sideband_phy" "B4 A4 B5 A5 B6 A6 B7 A8" "C8" "C4" "C5" "C6" "C7" ]

/-- Revision 1.4. -/
def rev1d4 : Board :=
  board "CynthionPlatformRev1D4" ["cynthion", "cynthion-r1.4"]
    [ clock "A8", button "C15", serialPort, lamp "E13", extensionPort 0, extensionPort 1,
      transceiver "target_phy" "R2 R1 P2 P1 N1 M2 M1 L2" "T3" "T2" "R3" "T4" "R4",
      transceiver "aux_phy" "E4 E3 F4 F3 G3 G4 H3 H4" "J4" "D3" "C2" "C3" "D2",
      transceiver "control_phy" "B4 A4 B5 A5 B6 A6 B7 A7" "C8" "C4" "C5" "C6" "C7" ]

end SocAssembly.Cynthion

namespace SocAssembly

/-- The boards that are known from the start. -/
def Catalogue.builtin : Catalogue := ⟨[Cynthion.rev0d4, Cynthion.rev1d4]⟩

end SocAssembly
