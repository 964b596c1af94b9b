import Mathlib
import SocAssembly.Proofs.RegisterBlock
import SocAssembly.Proofs.Sessions
import SocAssembly.Soc

/-!
# Assembling systems in words of 64 bits

## The model

A machine has no numbers of any size. Here the whole way from a descriptor to a finished design is
written once more, for a machine whose numbers are words of 64 bits: a sum or a product that needs
more bits is cut off at the top (`Words.keep`), and the machine goes on with what is left. The state
of the machine is a flag that says whether this has happened. Nothing ever clears the flag
(`Words.sticky_assemble`), so if it is down in the end, every number on the way was the true one.
The check of the end of a fixed window takes notice when the sum does not fit; to be on the safe
side it raises the flag all the same (`Words.checkedAdd`).

Comparisons, remainders and quotients of words are words, so they are written as they are. What the
machine keeps is what a program keeps: the requests of an address map are made when an entry is
added (`WordSoc`), the search for a gap is a loop (`Words.firstFit`), and the next free address in
the window of each parent stands in a table (`Packing`). The loop of the search has a budget; one
that runs out of it counts as broken, and raises the flag.
-/

namespace SocAssembly

namespace Words

/-- The result of an operation, as far as a word holds it. -/
def keep (n : Nat) : Session Bool Nat := fun lost =>
  (lost || decide (2 ^ 64 ≤ n), pure (n % 2 ^ 64))

/-- The sum of two words. -/
def add (a b : Nat) : Session Bool Nat := keep (a + b)

/-- The product of two words. -/
def mul (a b : Nat) : Session Bool Nat := keep (a * b)

/-- The sum of two words, if it is a word. -/
def checkedAdd (a b : Nat) : Session Bool (Option Nat) := fun lost =>
  if a + b < 2 ^ 64 then (lost, pure (some (a + b))) else (true, pure none)

/-- The quotient of two words, rounded up. -/
def divCeil (a b : Nat) : Session Bool Nat :=
  if a % b = 0 then pure (a / b) else add (a / b) 1

/-- The least multiple of a unit that is not below a word. -/
def alignUp (n unit : Nat) : Session Bool Nat := do
  let units ← divCeil n unit
  mul units unit

/-- The size of the window for so many bytes. -/
def windowSize (size : Nat) : Session Bool Nat := alignUp size (granularity size)

/-! ### Registers -/

/-- The number of bytes that a register takes. -/
def byteSize (r : Register) : Session Bool Nat := mul r.words wordStride

/-- Lays registers out without gaps. -/
def placeFrom (offset : Nat) : List Register → Session Bool (List PlacedRegister)
  | [] => pure []
  | r :: rest => do
    let bytes ← byteSize r
    let next ← add offset bytes
    let placed ← placeFrom next rest
    pure (⟨offset, r⟩ :: placed)

/-- The block of registers of a peripheral. -/
def layout (p : Peripheral) : Session Bool (List PlacedRegister) := placeFrom 0 p.allRegisters

/-- The size of the block: the end of its last register. -/
def blockSize (p : Peripheral) : Session Bool Nat := do
  let placed ← layout p
  match placed.getLast? with
  | none => pure 0
  | some last => do
    let bytes ← byteSize last.register
    add last.offset bytes

end Words

/-! ### Systems under construction -/

/-- What an entry asks of the bus, in words. -/
structure Ask where
  /-- Bytes that the entry occupies. -/
  size : Nat
  /-- Bytes that are kept free for it and what is attached to it. -/
  reserve : Nat
  /-- Where it wants to be. -/
  placement : Placement
  deriving DecidableEq, Repr

/-- A system under construction, with the requests that were made for its parts. -/
structure WordSoc where
  /-- Its name. -/
  name : String
  /-- Its processor. -/
  cpu : Cpu
  /-- The clock domain that it runs from. -/
  clockDomain : String
  /-- The memories of the firmware sections, where they are chosen. -/
  firmware : Sections (Option String)
  /-- The requests of its parts, with their names. -/
  requests : List (String × Ask) := []
  /-- Its memories. -/
  memories : List Memory := []
  /-- Its peripherals. -/
  peripherals : List Peripheral := []

namespace Words

/-- The request for an entry of so many bytes. -/
def request (size : Nat) (reserve : Option Nat) (placement : Placement) : Session Bool Ask := do
  let size ← windowSize size
  let reserve ← windowSize (max (reserve.getD size) size)
  pure ⟨size, reserve, placement⟩

/-- Adds a component of so many bytes, unless it is empty or its name is taken. -/
def addComponent (s : WordSoc) (c : Component) (size : Nat) (placement : Placement) :
    Session Bool WordSoc :=
  if size = 0 then .fail (.zeroSize c.name)
  else if c.name ∈ s.requests.map Prod.fst then .fail (.duplicateEntry c.name)
  else do
    let r ← request size c.reserve placement
    pure
      { s with
        requests := s.requests ++ [(c.name, r)]
        memories := s.memories ++ c.memory?.toList
        peripherals := s.peripherals ++ c.peripheral?.toList }

/-- Adds a memory of a descriptor. -/
def addMemoryPlan (s : WordSoc) (m : MemoryPlan) : Session Bool WordSoc :=
  addComponent s (.memory m.memory) m.memory.size m.placement

/-- Adds a peripheral of a descriptor. -/
def addPeripheralPlan (s : WordSoc) (p : PeripheralPlan) : Session Bool WordSoc := do
  let peripheral ← .ofExcept p.peripheral
  let placement ← .ofExcept p.placement
  let size ← blockSize peripheral
  addComponent s (.peripheral peripheral) size placement

/-- The system that a descriptor describes. -/
def ofDescriptor (d : Descriptor) : Session Bool WordSoc := do
  let bare : WordSoc :=
    { name := d.name, cpu := d.cpu, clockDomain := d.clockDomain, firmware := d.firmware }
  let withMemories ← d.memories.foldlM addMemoryPlan bare
  d.peripherals.foldlM addPeripheralPlan withMemories

/-! ### Placing the entries -/

/-- Gives a request the reserved range from `base` to `stop`. -/
def place (l : Layout) (name : String) (r : Ask) (base stop : Nat) : Layout where
  blocks := Layout.insertBlock ⟨base, stop, name⟩ l.blocks
  windows := l.windows ++ [(name, ⟨base, r.size, r.reserve, none⟩)]

/-- Places a fixed request, or says what is wrong with its address. -/
def placeFixed (l : Layout) (entry : String × Ask) : Session Bool Layout :=
  let (name, r) := entry
  match r.placement with
  | .fixed base =>
    let unit := granularity r.reserve
    if base % unit ≠ 0 then .fail (.misaligned name base unit)
    else do
      let stop ← checkedAdd base r.reserve
      match stop.filter (· ≤ addressSpaceEnd) with
      | none => .fail (.outOfAddressSpace name base r.reserve)
      | some stop =>
        match (Layout.lastBefore l.blocks stop).filter (base < ·.stop) with
        | some b => .fail (.overlap name base stop b.name b.start b.stop)
        | none => do
          .note (.placedFixed name base stop)
          pure (place l name r base stop)
  | _ => pure l

/-- The first address from `candidate` on where `size` bytes are free and end within the region. -/
def firstFit (blocks : List Block) (regionStop size : Nat) :
    Nat → Nat → Session Bool (Option Nat)
  | 0, _ => fun _ => (true, pure none)
  | budget + 1, candidate => do
    let stop ← add candidate size
    if regionStop < stop then pure none
    else
      match (Layout.lastBefore blocks stop).filter (candidate < ·.stop) with
      | none => pure (some candidate)
      | some b => do
        let next ← alignUp b.stop (granularity size)
        firstFit blocks regionStop size budget next

/-- Places a request that has no place of its own. -/
def placeAuto (region : Span) (l : Layout) (entry : String × Ask) : Session Bool Layout :=
  let (name, r) := entry
  match r.placement with
  | .auto => do
    let start ← alignUp region.start (granularity r.reserve)
    let found ← firstFit l.blocks region.stop r.reserve (l.blocks.length + 1) start
    match found with
    | none => .fail (.regionExhausted name r.reserve region.start region.stop)
    | some base => do
      let stop ← add base r.reserve
      .note (.placedAuto name base stop)
      pure (place l name r base stop)
  | _ => pure l

end Words

/-- What has been placed while requests are attached. -/
structure Packing where
  /-- The blocks and windows. -/
  layout : Layout
  /-- The next free address in the windows of parents, the latest first. -/
  cursors : List (String × Nat)

namespace Words

/-- Cuts a request from the window of its parent, behind what is taken there. -/
def cut (t : Packing) (name parent : String) (r : Ask) (w : Window) : Session Bool Packing := do
  let stop ← add w.base w.reserved
  let occupied ← alignUp w.size packed
  let first ← add w.base occupied
  let base := (t.cursors.lookup parent).getD first
  let size ← alignUp r.size packed
  let next ← add base size
  if stop < next then .fail (.parentWindowExhausted name parent w.reserved)
  else do
    .note (.placedAttached name parent base)
    let windows := t.layout.windows ++ [(name, ⟨base, size, size, some parent⟩)]
    pure ⟨{ t.layout with windows := windows }, (parent, next) :: t.cursors⟩

/-- Places an attached request. -/
def placeAttached (requests : List (String × Ask)) (t : Packing) (entry : String × Ask) :
    Session Bool Packing :=
  let (name, r) := entry
  match r.placement with
  | .attached parent =>
    match requests.lookup parent with
    | none => .fail (.unknownParent name parent)
    | some p =>
      match p.placement with
      | .attached _ => .fail (.nestedAttachment name parent)
      | _ =>
        match t.layout.windows.lookup parent with
        | none => .fail (.unallocated parent)
        | some w => cut t name parent r w
  | _ => pure t

/-- Places every entry. -/
def allocate (requests : List (String × Ask)) : Session Bool Allocation := do
  let fixed ← requests.foldlM placeFixed {}
  let top ← requests.foldlM (placeAuto AddressMap.defaultRegion) fixed
  let full ← requests.foldlM (placeAttached requests) ⟨top, []⟩
  pure ⟨(requests.map Prod.fst).filterMap fun name =>
    (full.layout.windows.lookup name).map (name, ·)⟩

/-- The addresses that start somewhere and are so many. -/
def rangeFrom (base size : Nat) : Session Bool Span := do
  let stop ← add base size
  pure ⟨base, stop⟩

/-! ### Finishing -/

/-- A peripheral in its place. -/
def peripheralEntry (a : Allocation) (p : Peripheral) (irq : Option Nat) : Session Bool Entry := do
  let w ← .ofExcept (Soc.window a p.name)
  let size ← blockSize p
  let registers ← layout p
  pure
    { name := p.name
      kind := .peripheral p.kind
      description := p.description
      base := w.base
      size := size
      reserved := w.reserved
      capabilities := p.capabilities
      parent := w.parent
      irq := irq
      registers := registers
      events := p.events }

/-- Peripherals in their places. -/
def peripheralEntries (a : Allocation) (next : Nat) : List Peripheral → Session Bool (List Entry)
  | [] => pure []
  | p :: rest => do
    if p.events.isEmpty then
      let e ← peripheralEntry a p none
      let es ← peripheralEntries a next rest
      pure (e :: es)
    else
      .note (.interruptNumbered p.name next)
      let e ← peripheralEntry a p (some next)
      let es ← peripheralEntries a (next + 1) rest
      pure (e :: es)

/-- The memory of a section of the firmware, among memories. -/
def sectionMemory (memories : List Memory) (chosen : Option String) : Except Error String :=
  match chosen.or ((memories.find? (·.kind = .ram)).map (·.name)) with
  | none => .error .noFirmwareMemory
  | some name => if memories.any (·.name = name) then .ok name else .error (.unknownMemory name)

/-- The finished design on a platform. -/
def finalize (s : WordSoc) (p : Platform) : Session Bool Design := do
  let allocation ← allocate s.requests
  let clockFrequency ← .ofExcept (p.clockFrequency s.clockDomain)
  let memories ← .ofExcept (s.memories.mapM (Soc.memoryEntry allocation))
  let peripherals ← peripheralEntries allocation 0 s.peripherals
  let regions ← .ofExcept (s.firmware.mapOrFail (sectionMemory s.memories))
  pure
    { name := s.name
      platform := p.name
      cpu := s.cpu
      clockFrequency := clockFrequency
      memories := memories
      peripherals := peripherals
      regions := regions }

/-- The design that a descriptor leads to on a platform. -/
def assemble (d : Descriptor) (p : Platform) : Session Bool Design := do
  let s ← ofDescriptor d
  finalize s p

end Words

/-- The design that a descriptor leads to on a platform. -/
def Descriptor.assemble (d : Descriptor) (p : Platform) : Report Design := do
  let s ← .ofExcept (Soc.ofDescriptor d)
  s.finalize p

/-! ### The flag -/

namespace Session

variable {α β : Type}

/-- Once the flag is up it stays up. -/
def Sticky (x : Session Bool α) : Prop := (x.run true).1 = true

namespace Sticky

theorem pure (a : α) : (Pure.pure a : Session Bool α).Sticky := rfl

theorem fail (e : Error) : (Session.fail e : Session Bool α).Sticky := rfl

theorem note (n : Notice) : (Session.note n).Sticky := rfl

theorem ofExcept (x : Except Error α) : (Session.ofExcept x).Sticky := rfl

theorem bind {x : Session Bool α} {next : α → Session Bool β} (h : x.Sticky)
    (hnext : ∀ a, (next a).Sticky) : (x >>= next).Sticky := by
  unfold Sticky at *
  cases outcome : (x.run true).2.outcome with
  | error e => rw [run_bind_error outcome, h]
  | ok a => rw [run_bind_ok outcome, h, hnext a]

theorem foldlM {f : β → α → Session Bool β} (step : ∀ t x, (f t x).Sticky) (xs : List α) (t : β) :
    (xs.foldlM f t).Sticky := by
  induction xs generalizing t with
  | nil => exact pure t
  | cons x rest ih =>
    rw [List.foldlM_cons]
    exact (step t x).bind ih

end Sticky

end Session

namespace Words

open Session

theorem sticky_keep (n : Nat) : (keep n).Sticky := rfl

theorem sticky_add (a b : Nat) : (add a b).Sticky := sticky_keep (a + b)

theorem sticky_mul (a b : Nat) : (mul a b).Sticky := sticky_keep (a * b)

theorem sticky_checkedAdd (a b : Nat) : (checkedAdd a b).Sticky := by
  unfold Sticky Session.run checkedAdd
  split <;> rfl

theorem sticky_alignUp (n unit : Nat) : (alignUp n unit).Sticky := by
  have quotient : (divCeil n unit).Sticky := by
    unfold divCeil
    split
    · exact .pure _
    · exact sticky_add _ _
  exact quotient.bind fun units => sticky_mul units unit

theorem sticky_placeFrom (offset : Nat) (rs : List Register) : (placeFrom offset rs).Sticky := by
  induction rs generalizing offset with
  | nil => exact .pure _
  | cons r rest ih =>
    exact (sticky_mul _ _).bind fun bytes => (sticky_add _ _).bind fun next =>
      (ih next).bind fun placed => .pure _

theorem sticky_blockSize (p : Peripheral) : (blockSize p).Sticky := by
  refine (sticky_placeFrom _ _).bind fun placed => ?_
  cases placed.getLast? with
  | none => exact .pure _
  | some last => exact (sticky_mul _ _).bind fun bytes => sticky_add _ _

theorem sticky_addComponent (s : WordSoc) (c : Component) (size : Nat) (placement : Placement) :
    (addComponent s c size placement).Sticky := by
  unfold addComponent
  split_ifs
  · exact .fail _
  · exact .fail _
  · refine Sticky.bind ?_ fun r => .pure _
    exact (sticky_alignUp _ _).bind fun size => (sticky_alignUp _ _).bind fun reserve => .pure _

theorem sticky_ofDescriptor (d : Descriptor) : (ofDescriptor d).Sticky := by
  refine (Sticky.foldlM (fun s m => sticky_addComponent s _ _ _) _ _).bind fun withMemories => ?_
  refine Sticky.foldlM (fun s p => ?_) _ _
  exact (Sticky.ofExcept _).bind fun peripheral => (Sticky.ofExcept _).bind fun placement =>
    (sticky_blockSize peripheral).bind fun size => sticky_addComponent s _ size placement

theorem sticky_placeFixed (l : Layout) (entry : String × Ask) : (placeFixed l entry).Sticky := by
  unfold placeFixed
  dsimp only
  split
  · split_ifs
    · exact .fail _
    · refine (sticky_checkedAdd _ _).bind fun stop => ?_
      split
      · exact .fail _
      · split
        · exact .fail _
        · exact (Sticky.note _).bind fun _ => .pure _
  · exact .pure _

theorem sticky_firstFit (blocks : List Block) (regionStop size budget candidate : Nat) :
    (firstFit blocks regionStop size budget candidate).Sticky := by
  induction budget generalizing candidate with
  | zero => rfl
  | succ budget ih =>
    refine (sticky_add _ _).bind fun stop => ?_
    split_ifs
    · exact .pure _
    · split
      · exact .pure _
      · exact (sticky_alignUp _ _).bind ih

theorem sticky_placeAuto (region : Span) (l : Layout) (entry : String × Ask) :
    (placeAuto region l entry).Sticky := by
  unfold placeAuto
  dsimp only
  split
  · refine (sticky_alignUp _ _).bind fun start => ?_
    refine (sticky_firstFit _ _ _ _ start).bind fun found => ?_
    split
    · exact .fail _
    · exact (sticky_add _ _).bind fun stop => (Sticky.note _).bind fun _ => .pure _
  · exact .pure _

theorem sticky_cut (t : Packing) (name parent : String) (r : Ask) (w : Window) :
    (cut t name parent r w).Sticky := by
  refine (sticky_add _ _).bind fun stop => (sticky_alignUp _ _).bind fun occupied =>
    (sticky_add _ _).bind fun first => (sticky_alignUp _ _).bind fun size =>
      (sticky_add _ _).bind fun next => ?_
  split_ifs
  · exact .fail _
  · exact (Sticky.note _).bind fun _ => .pure _

theorem sticky_placeAttached (requests : List (String × Ask)) (t : Packing)
    (entry : String × Ask) : (placeAttached requests t entry).Sticky := by
  unfold placeAttached
  dsimp only
  split
  · split
    · exact .fail _
    · split
      · exact .fail _
      · split
        · exact .fail _
        · exact sticky_cut _ _ _ _ _
  · exact .pure _

theorem sticky_peripheralEntries (a : Allocation) (next : Nat) (ps : List Peripheral) :
    (peripheralEntries a next ps).Sticky := by
  have entry : ∀ p irq, (peripheralEntry a p irq).Sticky := fun p irq =>
    (Sticky.ofExcept _).bind fun w => (sticky_blockSize p).bind fun size =>
      (sticky_placeFrom _ _).bind fun registers => .pure _
  induction ps generalizing next with
  | nil => exact .pure _
  | cons p rest ih =>
    unfold peripheralEntries
    split_ifs
    · exact (entry p none).bind fun e => (ih next).bind fun es => .pure _
    · exact (Sticky.note _).bind fun _ => (entry p _).bind fun e =>
        (ih (next + 1)).bind fun es => .pure _

/-- The flag that has been raised on the way to a design is up in the end. -/
theorem sticky_assemble (d : Descriptor) (p : Platform) : (assemble d p).Sticky := by
  refine (sticky_ofDescriptor d).bind fun s => ?_
  have allocated : (allocate s.requests).Sticky :=
    (Sticky.foldlM sticky_placeFixed _ _).bind fun fixed =>
      (Sticky.foldlM (sticky_placeAuto _) _ _).bind fun top =>
        (Sticky.foldlM (sticky_placeAttached _) _ _).bind fun full => .pure _
  refine allocated.bind fun a => (Sticky.ofExcept _).bind fun frequency => ?_
  refine (Sticky.ofExcept _).bind fun memories => ?_
  refine (sticky_peripheralEntries a 0 _).bind fun peripherals => ?_
  exact (Sticky.ofExcept _).bind fun regions => .pure _

end Words

end SocAssembly
