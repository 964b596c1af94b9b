import SocAssembly.AddressMap.Basic

/-!
# Placing the entries

## The model

Requests are placed in three passes, each in the order of registration.

1. Fixed requests go to their address (`placeFixed`). The address has to be a multiple of the
   granularity, the window has to end within the address space and to miss every window placed
   before it.
2. Requests without a place are packed first fit into the automatic region (`placeAuto`).
3. Attached requests are cut from their parent's window, one after the other behind what the parent
   occupies (`placeAttached`).

The windows of the first two passes are kept as blocks in the order of their addresses. They never
meet, so of all blocks that start before a given end only the last one can reach into the range
before that end (`lastBefore`), and both passes look at that block alone. The search for a gap ends
because a block that was in the way lies behind the next candidate for good (`firstFit`).
-/

namespace SocAssembly

/-- The place of an entry on the bus. -/
structure Window where
  /-- The first address. -/
  base : Nat
  /-- Bytes that the entry occupies. -/
  size : Nat
  /-- Bytes kept free for the entry and what is attached to it. -/
  reserved : Nat
  /-- The entry whose window it shares. -/
  parent : Option String
  deriving DecidableEq, Repr

namespace Window

/-- The addresses that the entry occupies. -/
def range (w : Window) : Span := ⟨w.base, w.base + w.size⟩

/-- The addresses kept free for the entry. -/
def reservedRange (w : Window) : Span := ⟨w.base, w.base + w.reserved⟩

end Window

/-- The windows of all entries, in the order of registration. -/
structure Allocation where
  /-- The windows with the names of their entries. -/
  windows : List (String × Window)
  deriving DecidableEq, Repr

/-- The window under a name. -/
def Allocation.get? (a : Allocation) (name : String) : Option Window := a.windows.lookup name

/-- A reserved range of the bus and the entry that holds it. -/
structure Block where
  /-- The first address. -/
  start : Nat
  /-- The address after the last. -/
  stop : Nat
  /-- The entry. -/
  name : String
  deriving DecidableEq, Repr

/-- What has been placed so far. -/
structure Layout where
  /-- The reserved ranges, by increasing start. -/
  blocks : List Block := []
  /-- The windows, in the order of placing. -/
  windows : List (String × Window) := []
  deriving DecidableEq, Repr

namespace Layout

/-- Puts a block before the first that starts behind it. -/
def insertBlock (b : Block) : List Block → List Block
  | [] => [b]
  | c :: rest => if b.start < c.start then b :: c :: rest else c :: insertBlock b rest

/-- The last block that starts before an address. -/
def lastBefore (blocks : List Block) (stop : Nat) : Option Block :=
  (blocks.filter (·.start < stop)).getLast?

/-- Gives a request the reserved range that starts at `base`. -/
def place (l : Layout) (name : String) (r : Request) (base : Nat) : Layout where
  blocks := insertBlock ⟨base, base + r.reserve, name⟩ l.blocks
  windows := l.windows ++ [(name, ⟨base, r.size, r.reserve, none⟩)]

/-- Places a fixed request, or says what is wrong with its address. -/
def placeFixed (l : Layout) (entry : String × Request) : Report Layout :=
  let (name, r) := entry
  match r.placement with
  | .fixed base =>
    let unit := granularity r.reserve
    let stop := base + r.reserve
    if base % unit ≠ 0 then .fail (.misaligned name base unit)
    else if addressSpaceEnd < stop then .fail (.outOfAddressSpace name base r.reserve)
    else
      match (lastBefore l.blocks stop).filter (base < ·.stop) with
      | some b => .fail (.overlap name base stop b.name b.start b.stop)
      | none => do
        .note (.placedFixed name base stop)
        pure (l.place name r base)
  | _ => pure l

/-- The block that keeps a range of `size` bytes at `candidate` from being free. -/
def blocker (blocks : List Block) (size candidate : Nat) : Option Block :=
  (lastBefore blocks (candidate + size)).filter (candidate < ·.stop)

theorem mem_of_blocker {blocks : List Block} {size candidate : Nat} {b : Block}
    (h : blocker blocks size candidate = some b) : b ∈ blocks ∧ candidate < b.stop := by
  unfold blocker lastBefore at h
  obtain ⟨hl, hs⟩ := Option.filter_eq_some_iff.1 h
  exact ⟨(List.mem_filter.1 (List.mem_of_getLast? hl)).1, by simpa using hs⟩

/-- The number of blocks that reach beyond an address. -/
def blocksBeyond (blocks : List Block) (address : Nat) : Nat :=
  blocks.countP (address < ·.stop)

theorem blocksBeyond_lt {blocks : List Block} {b : Block} {candidate next : Nat}
    (mem : b ∈ blocks) (beyond : candidate < b.stop) (passed : b.stop ≤ next) :
    blocksBeyond blocks next < blocksBeyond blocks candidate := by
  induction blocks with
  | nil => cases mem
  | cons c rest ih =>
    have mono : blocksBeyond rest next ≤ blocksBeyond rest candidate := by
      refine List.countP_mono_left fun x _ hx => ?_
      simp only [decide_eq_true_eq] at hx ⊢
      omega
    simp only [blocksBeyond, List.countP_cons, decide_eq_true_eq] at mono ih ⊢
    rcases List.mem_cons.1 mem with rfl | hm
    · rw [if_neg (by omega), if_pos beyond]
      omega
    · have := ih hm
      split <;> split <;> omega

/-- The first address from `candidate` on, in steps of the granularity, where `size` bytes are free
and end within the region. -/
def firstFit (blocks : List Block) (regionStop size candidate : Nat) : Option Nat :=
  if regionStop < candidate + size then none
  else
    match _found : blocker blocks size candidate with
    | none => some candidate
    | some b => firstFit blocks regionStop size (alignUp b.stop (granularity size))
  termination_by blocksBeyond blocks candidate
  decreasing_by
    have hb := mem_of_blocker _found
    exact blocksBeyond_lt hb.1 hb.2 (le_alignUp (granularity_pos size) _)

/-- Places a request that has no place of its own. -/
def placeAuto (region : Span) (l : Layout) (entry : String × Request) : Report Layout :=
  let (name, r) := entry
  match r.placement with
  | .auto =>
    let start := alignUp region.start (granularity r.reserve)
    match firstFit l.blocks region.stop r.reserve start with
    | none => .fail (.regionExhausted name r.reserve region.start region.stop)
    | some base => do
      .note (.placedAuto name base (base + r.reserve))
      pure (l.place name r base)
  | _ => pure l

/-- The first free address in a parent's window: behind its last attachment, or else behind what
the parent itself occupies. -/
def freeIn (windows : List (String × Window)) (parent : String) (w : Window) : Nat :=
  match (windows.filter (·.2.parent = some parent)).getLast? with
  | some (_, last) => last.base + last.size
  | none => w.base + alignUp w.size packed

/-- Places an attached request. -/
def placeAttached (m : AddressMap) (l : Layout) (entry : String × Request) : Report Layout :=
  let (name, r) := entry
  match r.placement with
  | .attached parent =>
    match m.request? parent with
    | none => .fail (.unknownParent name parent)
    | some p =>
      match p.placement with
      | .attached _ => .fail (.nestedAttachment name parent)
      | _ =>
        match l.windows.lookup parent with
        | none => .fail (.unallocated parent)
        | some w =>
          let base := freeIn l.windows parent w
          let size := alignUp r.size packed
          if w.base + w.reserved < base + size then
            .fail (.parentWindowExhausted name parent w.reserved)
          else do
            .note (.placedAttached name parent base)
            pure { l with windows := l.windows ++ [(name, ⟨base, size, size, some parent⟩)] }
  | _ => pure l

end Layout

/-- Places every entry. -/
def AddressMap.allocate (m : AddressMap) : Report Allocation := do
  let fixed ← m.requests.foldlM Layout.placeFixed {}
  let top ← m.requests.foldlM (Layout.placeAuto m.autoRegion) fixed
  let full ← m.requests.foldlM (Layout.placeAttached m) top
  pure ⟨m.names.filterMap fun name => (full.windows.lookup name).map (name, ·)⟩

end SocAssembly
