import Mathlib
import SocAssembly.Proofs.WordRuns

/-!
# Placing in words of 64 bits

The passes over the requests of a system, and what is read off their result, done in words. Whatever
has been placed ends within the address space, so between two requests the layout is `Low`, and the
three steps keep it so. Then a candidate of the search for a gap does not lie above 2^32, nor the
next free address in the window of a parent above 2^33, and a request of any size that would start
there ends at a word. So each step gives what it gives with exact numbers, also where it refuses the
request (`placeFixed_gives`, `placeAuto_gives`, `placeAttached_gives`).

A program does two things otherwise than the layout describes them, and both are shown to come to
the same. Its search for a gap is a loop with a budget; each round passes a block for good, so one
round more than there are blocks is enough (`firstFit_gives`). And it finds the next free address in
the window of a parent in a table, where the layout says that it is behind the last attachment to
it, or else behind the parent (`Layout.freeIn_eq_cursor`).
-/

namespace SocAssembly

/-! ### What is low -/

/-- The request is for no more than half of what a word can say, and so is the address, if it has to
have a certain one. -/
structure Request.IsSmall (r : Request) : Prop where
  /-- The bytes that are kept free are. -/
  reserve_le : r.reserve ≤ 2 ^ 63
  /-- The address is. -/
  base_lt : ∀ base, r.placement = .fixed base → base < 2 ^ 63

namespace Layout

/-- All that is placed ends within the address space. -/
structure Low (l : Layout) : Prop where
  /-- The blocks are in order. -/
  ordered : Ordered l.blocks
  /-- They end there. -/
  block_le : ∀ b ∈ l.blocks, b.stop ≤ addressSpaceEnd
  /-- So does what is kept free for an entry. -/
  window_le : ∀ x ∈ l.windows, x.2.base + x.2.reserved ≤ addressSpaceEnd
  /-- No entry is larger than that. -/
  size_le : ∀ x ∈ l.windows, x.2.size ≤ x.2.reserved

namespace Low

variable {l t : Layout} {name : String} {r : Request} {base : Nat}

theorem empty : Low {} := ⟨.nil, by simp, by simp, by simp⟩

theorem place (h : l.Low) (free : Free l.blocks ⟨base, base + r.reserve⟩)
    (stop : base + r.reserve ≤ addressSpaceEnd) : (l.place name r base).Low := by
  refine ⟨h.ordered.insertBlock (Nat.lt_add_of_pos_right r.reserve_pos) free, ?_, ?_, ?_⟩
  · intro b hb
    rcases mem_insertBlock.1 hb with rfl | hb
    · exact stop
    · exact h.block_le b hb
  · intro x hx
    rcases List.mem_append.1 hx with hx | hx
    · exact h.window_le x hx
    · rw [List.mem_singleton.1 hx]
      exact stop
  · intro x hx
    rcases List.mem_append.1 hx with hx | hx
    · exact h.size_le x hx
    · rw [List.mem_singleton.1 hx]
      exact r.size_le_reserve

theorem attach (h : l.Low) {parent : String} (stop : base + r.size ≤ addressSpaceEnd) :
    (l.attach name parent r base).Low := by
  refine ⟨h.ordered, h.block_le, ?_, ?_⟩
  · intro x hx
    rcases List.mem_append.1 hx with hx | hx
    · exact h.window_le x hx
    · rw [List.mem_singleton.1 hx]
      exact stop
  · intro x hx
    rcases List.mem_append.1 hx with hx | hx
    · exact h.size_le x hx
    · rw [List.mem_singleton.1 hx]

theorem placeFixed (h : l.Low) (ok : (l.placeFixed (name, r)).outcome = .ok t) : t.Low := by
  cases fixed : r.placement.isFixed with
  | true =>
    obtain ⟨base, hr⟩ := Placement.isFixed_iff.1 fixed
    obtain ⟨-, stop, free, rfl⟩ := (placeFixed_eq_ok_iff h.ordered hr).1 ok
    exact h.place free stop
  | false =>
    rw [placeFixed_of_not_fixed l fixed, Report.pure_eq_ok_iff] at ok
    exact ok ▸ h

theorem placeAuto (h : l.Low)
    (ok : (placeAuto AddressMap.defaultRegion l (name, r)).outcome = .ok t) : t.Low := by
  cases auto : r.placement.isAuto with
  | true =>
    have hr := Placement.isAuto_iff.1 auto
    obtain ⟨base, serves, -, rfl⟩ := (placeAuto_eq_ok_iff h.ordered hr).1 ok
    exact h.place serves.free serves.stop_le
  | false =>
    rw [placeAuto_of_not_auto _ l auto, Report.pure_eq_ok_iff] at ok
    exact ok ▸ h

theorem placeAttached (h : l.Low) {m : AddressMap}
    (ok : (placeAttached m l (name, r)).outcome = .ok t) : t.Low := by
  cases attached : r.placement.isAttached with
  | true =>
    obtain ⟨parent, hr⟩ := Placement.isAttached_iff.1 attached
    obtain ⟨p, w, -, -, hw, room, rfl⟩ := (placeAttached_eq_ok_iff hr).1 ok
    exact h.attach (room.trans (h.window_le _ (mem_of_lookup hw)))
  | false =>
    rw [placeAttached_of_not_attached m l attached, Report.pure_eq_ok_iff] at ok
    exact ok ▸ h

end Low

/-! ### Cursors -/

/-- The next free address behind each attachment, for its parent, the latest first. -/
def cursors (windows : List (String × Window)) : List (String × Nat) :=
  (windows.filterMap fun x => x.2.parent.map (·, x.2.base + x.2.size)).reverse

/-- A layout with the cursors of a program. -/
def packing (l : Layout) : Packing := ⟨l, cursors l.windows⟩

theorem cursors_append (windows : List (String × Window)) (x : String × Window) :
    cursors (windows ++ [x]) =
      (x.2.parent.map (·, x.2.base + x.2.size)).toList ++ cursors windows := by
  unfold cursors
  rw [List.filterMap_append, List.reverse_append]
  cases parent : x.2.parent <;> simp [parent]

/-- The cursor of a parent stands behind its last attachment. -/
theorem lookup_cursors (windows : List (String × Window)) (parent : String) :
    (cursors windows).lookup parent =
      (windows.filter (·.2.parent = some parent)).getLast?.map fun x => x.2.base + x.2.size := by
  induction windows using List.reverseRecOn with
  | nil => rfl
  | append_singleton windows x ih =>
    rw [cursors_append, List.filter_append]
    cases host : x.2.parent with
    | none =>
      have other : [x].filter (·.2.parent = some parent) = [] :=
        List.filter_cons_of_neg (by simp [host])
      rw [other, List.append_nil]
      exact ih
    | some name =>
      by_cases same : name = parent
      · subst same
        have kept : [x].filter (·.2.parent = some name) = [x] :=
          List.filter_cons_of_pos (by simp [host])
        rw [kept, List.getLast?_append, List.getLast?_singleton]
        simp
      · have other : [x].filter (·.2.parent = some parent) = [] :=
          List.filter_cons_of_neg (by simpa [host] using same)
        rw [other, List.append_nil, ← ih, Option.map_some, Option.toList_some,
          List.singleton_append, List.lookup_cons, beq_false_of_ne (Ne.symm same)]

/-- The free address in the window of a parent is that of its cursor, and else it is behind what the
parent occupies. -/
theorem freeIn_eq_cursor (windows : List (String × Window)) (parent : String) (w : Window) :
    freeIn windows parent w =
      ((cursors windows).lookup parent).getD (w.base + alignUp w.size packed) := by
  rw [lookup_cursors]
  unfold freeIn
  cases (windows.filter (·.2.parent = some parent)).getLast? <;> rfl

/-- Before anything is attached there are no cursors. -/
theorem packing_of_hosts {m : AddressMap} {top : Layout} (hosts : Hosts m top) :
    top.packing = ⟨top, []⟩ := by
  have none : top.windows.filterMap (fun x => x.2.parent.map (·, x.2.base + x.2.size)) = [] := by
    refine List.filterMap_eq_nil_iff.2 fun x hx => ?_
    rw [hosts.parent_eq x hx]
    rfl
  unfold packing cursors
  rw [none, List.reverse_nil]

theorem packing_attach (l : Layout) (name parent : String) (r : Request) (base : Nat) :
    (l.attach name parent r base).packing =
      ⟨l.attach name parent r base, (parent, base + r.size) :: cursors l.windows⟩ := by
  unfold packing attach
  rw [cursors_append]
  rfl

end Layout

/-! ### Steps -/

namespace Words

open Session

variable {l : Layout} {name : String} {r : Request}

theorem placeFixed_gives (name : String) (small : r.IsSmall) :
    (placeFixed l (name, r.ask)).Gives (l.placeFixed (name, r)) := by
  have half := small.reserve_le
  unfold placeFixed Layout.placeFixed
  dsimp only [Request.ask]
  cases hr : r.placement with
  | auto => exact .pure l
  | attached parent => exact .pure l
  | fixed base =>
    have base_lt := small.base_lt base hr
    dsimp only
    by_cases aligned : base % granularity r.reserve ≠ 0
    · rw [if_pos aligned, if_pos aligned]
      exact .fail _
    · rw [if_neg aligned, if_neg aligned]
      refine (checkedAdd_gives (by omega)).bind_pure ?_
      by_cases outside : addressSpaceEnd < base + r.reserve
      · rw [if_pos outside, Option.filter_some, if_neg (by simpa using outside)]
        exact .fail _
      · rw [if_neg outside, Option.filter_some, if_pos (by simpa using outside)]
        dsimp only
        cases (Layout.lastBefore l.blocks (base + r.reserve)).filter (base < ·.stop) with
        | some b => exact .fail _
        | none => exact (Gives.note _).bind fun _ _ => .pure _

/-- The search ends within its budget: it looks at each block that reaches beyond the candidate once
at most. -/
theorem firstFit_gives {blocks : List Block} (low : ∀ b ∈ blocks, b.stop ≤ addressSpaceEnd)
    {regionStop size : Nat} (half : size ≤ 2 ^ 63) (candidate : Nat)
    (below : candidate ≤ addressSpaceEnd) {budget : Nat}
    (enough : Layout.blocksBeyond blocks candidate < budget) :
    (firstFit blocks regionStop size budget candidate).Gives
      (pure (Layout.firstFit blocks regionStop size candidate)) := by
  have small : addressSpaceEnd + 2 ^ 63 < 2 ^ 64 := by decide
  fun_induction Layout.firstFit blocks regionStop size candidate generalizing budget with
  | case1 candidate full =>
    obtain ⟨budget, rfl⟩ := Nat.exists_eq_succ_of_ne_zero (Nat.ne_zero_of_lt enough)
    refine (add_gives (by omega)).bind_pure ?_
    rw [if_pos full]
    exact .pure none
  | case2 candidate room hnone =>
    obtain ⟨budget, rfl⟩ := Nat.exists_eq_succ_of_ne_zero (Nat.ne_zero_of_lt enough)
    refine (add_gives (by omega)).bind_pure ?_
    unfold Layout.blocker at hnone
    rw [if_neg room, hnone]
    exact .pure (some candidate)
  | case3 candidate room b hb ih =>
    obtain ⟨budget, rfl⟩ := Nat.exists_eq_succ_of_ne_zero (Nat.ne_zero_of_lt enough)
    obtain ⟨mem, beyond⟩ := Layout.mem_of_blocker hb
    have next := alignUp_le (granularity_pos size) (low b mem)
      ((granularity_dvd_page size).trans page_dvd_addressSpaceEnd)
    have passed := Layout.blocksBeyond_lt mem beyond (le_alignUp (granularity_pos size) b.stop)
    refine (add_gives (by omega)).bind_pure ?_
    unfold Layout.blocker at hb
    rw [if_neg room, hb]
    refine (alignUp_gives (granularity_pos size) (next.trans_lt (by decide))).bind_pure ?_
    exact ih next (by omega)

theorem blocksBeyond_le_length (blocks : List Block) (address : Nat) :
    Layout.blocksBeyond blocks address ≤ blocks.length := List.countP_le_length

theorem placeAuto_gives (name : String) (low : l.Low) (small : r.IsSmall) :
    (placeAuto AddressMap.defaultRegion l (name, r.ask)).Gives
      (Layout.placeAuto AddressMap.defaultRegion l (name, r)) := by
  have half := small.reserve_le
  unfold placeAuto Layout.placeAuto
  dsimp only [Request.ask]
  cases hr : r.placement with
  | fixed base => exact .pure l
  | attached parent => exact .pure l
  | auto =>
    dsimp only
    have pos := granularity_pos r.reserve
    have start := alignUp_le pos (by decide : AddressMap.defaultRegion.start ≤ addressSpaceEnd)
      ((granularity_dvd_page r.reserve).trans page_dvd_addressSpaceEnd)
    have enough := Nat.lt_succ_of_le (blocksBeyond_le_length l.blocks
      (SocAssembly.alignUp AddressMap.defaultRegion.start (granularity r.reserve)))
    refine (alignUp_gives pos (start.trans_lt (by decide))).bind_pure ?_
    refine (firstFit_gives low.block_le half _ start enough).bind_pure ?_
    cases found : Layout.firstFit l.blocks AddressMap.defaultRegion.stop r.reserve
        (SocAssembly.alignUp AddressMap.defaultRegion.start (granularity r.reserve)) with
    | none => exact .fail _
    | some base =>
      have serves := ((Layout.firstFit_eq_some_iff low.ordered _ _ _).1 found).1
      have stop : base + r.reserve ≤ addressSpaceEnd := serves.stop_le
      refine (add_gives (stop.trans_lt (by decide))).bind_pure ?_
      exact (Gives.note _).bind fun _ _ => .pure _

/-- The requests of a map as a program keeps them. -/
theorem lookup_asks (requests : List (String × Request)) (name : String) :
    (requests.map fun x => (x.1, x.2.ask)).lookup name =
      (requests.lookup name).map Request.ask := by
  induction requests with
  | nil => rfl
  | cons x rest ih =>
    rw [List.map_cons, List.lookup_cons, List.lookup_cons, ih]
    cases name == x.1 <;> rfl

/-- The free address in a window does not lie far behind the address space. -/
theorem freeIn_le (low : l.Low) {parent : String} {w : Window} (hw : (parent, w) ∈ l.windows) :
    Layout.freeIn l.windows parent w ≤ 2 * addressSpaceEnd := by
  have base := low.window_le _ hw
  have size := low.size_le _ hw
  unfold Layout.freeIn
  split
  · rename_i name last found
    have mem := (List.mem_filter.1 (List.mem_of_getLast? found)).1
    have stop := low.window_le _ mem
    have inside := low.size_le _ mem
    dsimp only at stop inside
    omega
  · have occupied : SocAssembly.alignUp w.size packed ≤ addressSpaceEnd :=
      alignUp_le packed_pos (by dsimp only at base size; omega) ⟨2 ^ 24, rfl⟩
    dsimp only at base
    omega

/-- What is cut from a window is what the free address and the size of the request say. -/
theorem cut_gives (low : l.Low) (small : r.IsSmall) {parent : String} {w : Window}
    (hw : (parent, w) ∈ l.windows) :
    (cut l.packing name parent r.ask w).Gives (Layout.packing <$>
      if w.base + w.reserved < Layout.freeIn l.windows parent w + r.size then
        .fail (.parentWindowExhausted name parent w.reserved)
      else do
        .note (.placedAttached name parent (Layout.freeIn l.windows parent w))
        pure (l.attach name parent r (Layout.freeIn l.windows parent w))) := by
  have half := r.size_le_reserve.trans small.reserve_le
  have stop := low.window_le _ hw
  have inside := low.size_le _ hw
  have free := freeIn_le low hw
  have twice : 2 * addressSpaceEnd + 2 ^ 63 < 2 ^ 64 := by decide
  dsimp only at stop inside
  have occupied : SocAssembly.alignUp w.size packed ≤ addressSpaceEnd :=
    alignUp_le packed_pos (by omega) ⟨2 ^ 24, rfl⟩
  have whole : SocAssembly.alignUp r.ask.size packed = r.size := r.isWindowSize_size.alignUp_packed
  have cursor : (l.packing.cursors.lookup parent).getD
      (w.base + SocAssembly.alignUp w.size packed) = Layout.freeIn l.windows parent w :=
    (Layout.freeIn_eq_cursor l.windows parent w).symm
  have size := alignUp_gives packed_pos (whole.trans_lt (by omega))
  rw [whole] at size
  unfold cut
  refine (add_gives (by omega)).bind_pure ?_
  refine (alignUp_gives packed_pos (by omega)).bind_pure ?_
  refine (add_gives (by omega)).bind_pure ?_
  dsimp only
  rw [cursor]
  refine size.bind_pure ?_
  refine (add_gives (by omega)).bind_pure ?_
  split_ifs with full
  · exact .fail _
  · rw [map_bind]
    refine (Gives.note _).bind fun _ _ => ?_
    rw [map_pure, Layout.packing_attach]
    exact .pure _

theorem placeAttached_gives (name : String) (low : l.Low) (small : r.IsSmall) (m : AddressMap) :
    (placeAttached (m.requests.map fun x => (x.1, x.2.ask)) l.packing (name, r.ask)).Gives
      (Layout.packing <$> Layout.placeAttached m l (name, r)) := by
  have whole : SocAssembly.alignUp r.size packed = r.size := r.isWindowSize_size.alignUp_packed
  have asked : r.ask.placement = r.placement := rfl
  cases hr : r.placement with
  | attached parent =>
    simp only [placeAttached, Layout.placeAttached, asked, hr, lookup_asks, AddressMap.request?,
      whole]
    cases m.requests.lookup parent with
    | none => exact .fail _
    | some p =>
      have hosting : p.ask.placement = p.placement := rfl
      cases hp : p.placement with
      | attached grandparent =>
        simp only [Option.map_some, hosting, hp]
        exact .fail _
      | _ =>
        -- the two placements at the top level are treated alike
        have windows : l.packing.layout.windows = l.windows := rfl
        simp only [Option.map_some, hosting, hp, windows]
        cases hw : l.windows.lookup parent with
        | none => exact .fail _
        | some w => exact cut_gives low small (mem_of_lookup hw)
  | _ =>
    simp only [placeAttached, Layout.placeAttached, asked, hr]
    exact .pure _

/-! ### Passes -/

/-- The requests of an address map whose requests are small are placed as with exact numbers. -/
theorem allocate_gives {m : AddressMap} (region : m.autoRegion = AddressMap.defaultRegion)
    (small : ∀ x ∈ m.requests, x.2.IsSmall) :
    (allocate (m.requests.map fun x => (x.1, x.2.ask))).Gives m.allocate := by
  have names : (m.requests.map fun x => (x.1, x.2.ask)).map Prod.fst = m.names := by
    rw [List.map_map]
    rfl
  unfold allocate AddressMap.allocate
  rw [region, names]
  have fixedPass := Gives.foldlM_id (P := Layout.Low) (s := {})
    (fun l x hx _ => placeFixed_gives (l := l) x.1 (small x hx))
    (fun l x _ t low ok => low.placeFixed ok) .empty
  refine fixedPass.bind fun fixed hfixed => ?_
  have fixedLow : fixed.Low := Report.foldlM_keeps (fun _ l => l.Low)
    (fun _ x l t low ok => low.placeFixed ok) m.requests [] {} fixed .empty hfixed
  have autoPass := Gives.foldlM_id (P := Layout.Low) (s := fixed)
    (fun l x hx low => placeAuto_gives (l := l) x.1 low (small x hx))
    (fun l x _ t low ok => low.placeAuto ok) fixedLow
  refine autoPass.bind fun top htop => ?_
  have topLow : top.Low := Report.foldlM_keeps (fun _ l => l.Low)
    (fun _ x l t low ok => low.placeAuto ok) m.requests [] fixed top fixedLow htop
  have attachedPass := Gives.foldlM (P := Layout.Low) (s := top)
    (fun l x hx low => placeAttached_gives (l := l) x.1 low (small x hx) m)
    (fun l x _ t low ok => low.placeAttached ok) topLow
  rw [← region] at htop
  rw [Layout.packing_of_hosts (AddressMap.holds_of_passes hfixed htop).hosts] at attachedPass
  exact attachedPass.bind_map fun full _ => .pure _

/-! ### Finishing -/

/-- A peripheral of an accepted descriptor is shown as with exact numbers. -/
theorem peripheralEntry_gives (a : Allocation) {q : Peripheral} (irq : Option Nat)
    (h : q.blockSize < 2 ^ 64) :
    (peripheralEntry a q irq).Gives (.ofExcept (Soc.peripheralEntry a q irq)) := by
  have split : Report.ofExcept (Soc.peripheralEntry a q irq) =
      .ofExcept (Soc.window a q.name) >>= fun w => pure (q.entryAt irq w) :=
    Report.ofExcept_bind (Soc.window a q.name) _
  rw [split]
  refine (Gives.ofExcept _).bind fun w _ => ?_
  exact (blockSize_gives h).bind_pure ((layout_gives h).bind_pure (.pure _))

theorem peripheralEntries_gives (a : Allocation) {qs : List Peripheral}
    (h : ∀ q ∈ qs, q.blockSize < 2 ^ 64) (next : Nat) :
    (peripheralEntries a next qs).Gives (Soc.peripheralEntries a next qs) := by
  induction qs generalizing next with
  | nil => exact .pure _
  | cons q rest ih =>
    obtain ⟨hq, hrest⟩ := List.forall_mem_cons.1 h
    unfold peripheralEntries Soc.peripheralEntries
    split_ifs with quiet
    · refine (peripheralEntry_gives a none hq).bind fun e _ => ?_
      exact (ih hrest next).bind fun es _ => .pure _
    · refine (Gives.note _).bind fun _ _ => ?_
      refine (peripheralEntry_gives a (some next) hq).bind fun e _ => ?_
      exact (ih hrest (next + 1)).bind fun es _ => .pure _

end Words

/-- The parts of the system fit in half of what a word can say. -/
structure Soc.IsSmall (s : Soc) : Prop where
  /-- Their requests do. -/
  request : ∀ part ∈ s.parts, part.request.IsSmall
  /-- The blocks of its peripherals do. -/
  block : ∀ q ∈ s.peripherals, q.blockSize ≤ 2 ^ 63

namespace Words

open Session

theorem finalize_gives {s : Soc} (small : s.IsSmall) (p : Platform) :
    (finalize s.words p).Gives (s.finalize p) := by
  have requests : ∀ x ∈ s.addressMap.requests, x.2.IsSmall := by
    intro x hx
    obtain ⟨part, hpart, rfl⟩ := List.mem_map.1 hx
    exact small.request part hpart
  have asks : s.words.requests = s.addressMap.requests.map fun x => (x.1, x.2.ask) := by
    unfold Soc.words Soc.addressMap
    rw [List.map_map]
    rfl
  unfold finalize Soc.finalize
  rw [asks]
  refine (allocate_gives rfl requests).bind fun a _ => ?_
  refine (Gives.ofExcept _).bind fun frequency _ => ?_
  refine (Gives.ofExcept _).bind fun memories _ => ?_
  refine (peripheralEntries_gives a (fun q hq => ?_) 0).bind fun peripherals _ => ?_
  · exact (small.block q hq).trans_lt (by decide)
  · exact (Gives.ofExcept _).bind fun regions _ => .pure _

end Words

end SocAssembly
