import Mathlib
import SocAssembly.Proofs.Blocks
import SocAssembly.Proofs.Reports

/-!
# The passes for fixed and automatic requests

Both passes place an entry at the top level of the bus: they put its window and the block of its
reserved range into the layout. `Layout.Holds` says what a layout knows of the requests that were
placed in it: the blocks are in order, they are the reserved ranges of the windows, and each request
has the window that it was granted. A pass keeps this when it places one more request
(`Layout.Holds.place`), so it holds after each pass (`Layout.Holds.fixedPass`,
`Layout.Holds.autoPass`).

The fixed pass is exact: it succeeds if every address is allowed and the blocks that are asked for
are apart in pairs, and in no other case (`Layout.fixedPass_isOk_iff`).
-/

namespace SocAssembly

/-! ### Requests by their placement -/

namespace Placement

/-- The entry has an address of its own choice. -/
def isFixed : Placement → Bool
  | fixed _ => true
  | _ => false

/-- The entry leaves its address open. -/
def isAuto : Placement → Bool
  | auto => true
  | _ => false

/-- The entry shares the window of another. -/
def isAttached : Placement → Bool
  | attached _ => true
  | _ => false

theorem isFixed_iff {p : Placement} : p.isFixed = true ↔ ∃ base, p = .fixed base := by
  cases p <;> simp [isFixed]

theorem isAuto_iff {p : Placement} : p.isAuto = true ↔ p = .auto := by
  cases p <;> simp [isAuto]

theorem isAttached_iff {p : Placement} : p.isAttached = true ↔ ∃ parent, p = .attached parent := by
  cases p <;> simp [isAttached]

end Placement

theorem Request.reserve_pos (r : Request) : 0 < r.reserve :=
  Nat.lt_of_lt_of_le r.size_pos r.size_le_reserve

namespace AddressMap

/-- The requests with an address of their own choice. -/
def fixedRequests (m : AddressMap) : List (String × Request) :=
  m.requests.filter (·.2.placement.isFixed)

/-- The requests that leave their address open. -/
def autoRequests (m : AddressMap) : List (String × Request) :=
  m.requests.filter (·.2.placement.isAuto)

/-- The requests that are placed at the top level of the bus, in the order of placing. -/
def topRequests (m : AddressMap) : List (String × Request) := m.fixedRequests ++ m.autoRequests

/-- Where every top-level window has to end: fixed ones within the address space, automatic ones
within their region. -/
def limit (m : AddressMap) : Nat := max addressSpaceEnd m.autoRegion.stop

end AddressMap

/-- A window at the top level of the bus as the request asks for it. -/
structure Request.Granted (r : Request) (limit : Nat) (w : Window) : Prop where
  /-- The entry gets its bytes. -/
  size_eq : w.size = r.size
  /-- It gets the bytes that are kept free. -/
  reserved_eq : w.reserved = r.reserve
  /-- It shares no window. -/
  parent_eq : w.parent = none
  /-- It is aligned. -/
  aligned : granularity r.reserve ∣ w.base
  /-- It ends where it has to. -/
  stop_le : w.base + w.reserved ≤ limit
  /-- A fixed request gets its address. -/
  base_eq : ∀ base, r.placement = .fixed base → w.base = base

/-- The address decides the rest of a window. -/
theorem Request.Granted.eq_of_base {r : Request} {limit limit' : Nat} {w w' : Window}
    (h : r.Granted limit w) (h' : r.Granted limit' w') (base : w.base = w'.base) : w = w' := by
  have hsize := h.size_eq.trans h'.size_eq.symm
  have hreserved := h.reserved_eq.trans h'.reserved_eq.symm
  have hparent := h.parent_eq.trans h'.parent_eq.symm
  obtain ⟨b, n, v, q⟩ := w
  obtain ⟨b', n', v', q'⟩ := w'
  obtain rfl : b = b' := base
  obtain rfl : n = n' := hsize
  obtain rfl : v = v' := hreserved
  obtain rfl : q = q' := hparent
  rfl

/-- A fixed block may stand here: it is aligned and ends within the address space. -/
def Block.Allowed (b : Block) : Prop :=
  granularity (b.stop - b.start) ∣ b.start ∧ b.stop ≤ addressSpaceEnd

/-- The block that a window takes at the top level of the bus. -/
def reservedBlock (x : String × Window) : Block := ⟨x.2.base, x.2.base + x.2.reserved, x.1⟩

namespace Layout

/-- What a layout knows of the requests that were placed at its top level. -/
structure Holds (limit : Nat) (placed : List (String × Request)) (l : Layout) : Prop where
  /-- The blocks are in order. -/
  ordered : Ordered l.blocks
  /-- They are the reserved ranges of the windows. -/
  perm : l.blocks.Perm (l.windows.map reservedBlock)
  /-- Each request has its window. -/
  granted : List.Forall₂ (fun x y => x.1 = y.1 ∧ x.2.Granted limit y.2) placed l.windows

theorem Holds.nil (limit : Nat) : Holds limit [] {} :=
  ⟨Ordered.nil, List.Perm.refl _, List.Forall₂.nil⟩

/-- One more request is placed where its reserved range is free. -/
theorem Holds.place {limit : Nat} {placed : List (String × Request)} {l : Layout}
    (h : Holds limit placed l) {name : String} {r : Request} {base : Nat}
    (free : Free l.blocks ⟨base, base + r.reserve⟩) (aligned : granularity r.reserve ∣ base)
    (stop_le : base + r.reserve ≤ limit) (base_eq : ∀ b, r.placement = .fixed b → base = b) :
    Holds limit (placed ++ [(name, r)]) (l.place name r base) := by
  have pos := r.reserve_pos
  refine ⟨?_, ?_, ?_⟩
  · exact h.ordered.insertBlock (Nat.lt_add_of_pos_right pos) free
  · show (insertBlock _ l.blocks).Perm ((l.windows ++ [_]).map reservedBlock)
    rw [List.map_append]
    exact (insertBlock_perm _ _).trans ((h.perm.cons _).trans (List.perm_append_singleton _ _).symm)
  · refine List.rel_append h.granted (List.Forall₂.cons ⟨rfl, ?_⟩ List.Forall₂.nil)
    exact ⟨rfl, rfl, rfl, aligned, stop_le, base_eq⟩

theorem Holds.names_eq {limit : Nat} {placed : List (String × Request)} {l : Layout}
    (h : Holds limit placed l) : l.windows.map Prod.fst = placed.map Prod.fst :=
  (map_eq_of_forall₂ (fun _ _ hxy => hxy.1) h.granted).symm

/-! ### One step of each pass -/

theorem placeFixed_of_not_fixed (l : Layout) {x : String × Request}
    (hx : x.2.placement.isFixed = false) : l.placeFixed x = pure l := by
  obtain ⟨name, r⟩ := x
  cases hr : r.placement with
  | fixed base => simp [hr, Placement.isFixed] at hx
  | auto => simp only [placeFixed, hr]
  | attached parent => simp only [placeFixed, hr]

theorem placeAuto_of_not_auto (region : Span) (l : Layout) {x : String × Request}
    (hx : x.2.placement.isAuto = false) : placeAuto region l x = pure l := by
  obtain ⟨name, r⟩ := x
  cases hr : r.placement with
  | auto => simp [hr, Placement.isAuto] at hx
  | fixed base => simp only [placeAuto, hr]
  | attached parent => simp only [placeAuto, hr]

/-- A fixed request is placed if its address is allowed and its range is free. -/
theorem placeFixed_eq_ok_iff {l l' : Layout} (h : Ordered l.blocks) {name : String} {r : Request}
    {base : Nat} (hr : r.placement = .fixed base) :
    (l.placeFixed (name, r)).outcome = .ok l' ↔
      granularity r.reserve ∣ base ∧ base + r.reserve ≤ addressSpaceEnd ∧
        Free l.blocks ⟨base, base + r.reserve⟩ ∧ l' = l.place name r base := by
  have hfree := blocker_eq_none_iff h r.reserve base
  unfold blocker at hfree
  rw [Nat.dvd_iff_mod_eq_zero]
  simp only [placeFixed, hr]
  split
  · rename_i misaligned
    simp [misaligned]
  · rename_i aligned
    split
    · rename_i outside
      simp [Nat.not_le.2 outside]
    · rename_i inside
      split
      · rename_i b hb
        rw [hb] at hfree
        simp [← hfree]
      · rename_i hb
        simp only [Report.bind_eq_ok_iff, Report.outcome_note, Report.pure_eq_ok_iff]
        simp [← hfree, hb, Nat.le_of_not_lt inside, not_not.1 aligned, eq_comm]

/-- A request without a place gets the least address that serves. -/
theorem placeAuto_eq_ok_iff {region : Span} {l l' : Layout} (h : Ordered l.blocks) {name : String}
    {r : Request} (hr : r.placement = .auto) :
    (placeAuto region l (name, r)).outcome = .ok l' ↔
      ∃ base, Serves l.blocks region r.reserve base ∧
        (∀ x, Serves l.blocks region r.reserve x → base ≤ x) ∧ l' = l.place name r base := by
  have hfit := firstFit_eq_some_iff h region r.reserve
  simp only [placeAuto, hr]
  split
  · rename_i hnone
    simp only [hnone] at hfit
    constructor
    · intro hl
      cases hl
    · rintro ⟨base, serves, least, -⟩
      cases (hfit base).2 ⟨serves, least⟩
  · rename_i base hsome
    simp only [Report.bind_eq_ok_iff, Report.outcome_note, Report.pure_eq_ok_iff]
    constructor
    · rintro ⟨-, -, rfl⟩
      obtain ⟨serves, least⟩ := (hfit base).1 hsome
      exact ⟨base, serves, least, rfl⟩
    · rintro ⟨other, serves, least, rfl⟩
      have := (hfit other).2 ⟨serves, least⟩
      rw [hsome, Option.some.injEq] at this
      exact ⟨(), trivial, by rw [this]⟩

/-! ### The passes -/

/-- The block that a fixed request asks for. -/
def fixedBlock? (x : String × Request) : Option Block :=
  match x.2.placement with
  | .fixed base => some ⟨base, base + x.2.reserve, x.1⟩
  | _ => none

theorem fixedBlock?_eq_some {name : String} {r : Request} {base : Nat}
    (hr : r.placement = .fixed base) :
    fixedBlock? (name, r) = some ⟨base, base + r.reserve, name⟩ := by
  simp only [fixedBlock?, hr]

theorem fixedBlock?_eq_none {x : String × Request} (hx : x.2.placement.isFixed = false) :
    fixedBlock? x = none := by
  unfold fixedBlock?
  split
  · rename_i base hr
    simp [hr, Placement.isFixed] at hx
  · rfl

theorem fixedBlock?_eq_some_iff {x : String × Request} {b : Block} :
    fixedBlock? x = some b ↔
      ∃ base, x.2.placement = .fixed base ∧ b = ⟨base, base + x.2.reserve, x.1⟩ := by
  obtain ⟨name, r⟩ := x
  constructor
  · intro some
    cases hx : r.placement.isFixed with
    | false =>
      rw [fixedBlock?_eq_none hx] at some
      cases some
    | true =>
      obtain ⟨base, hr⟩ := Placement.isFixed_iff.1 hx
      rw [fixedBlock?_eq_some hr, Option.some.injEq] at some
      exact ⟨base, hr, some.symm⟩
  · rintro ⟨base, hr, rfl⟩
    exact fixedBlock?_eq_some hr

theorem block_allowed_iff {name : String} {base reserve : Nat} :
    (Block.mk base (base + reserve) name).Allowed ↔
      granularity reserve ∣ base ∧ base + reserve ≤ addressSpaceEnd := by
  unfold Block.Allowed
  rw [Nat.add_sub_cancel_left]

theorem free_insertBlock_iff {b : Block} {blocks : List Block} {s : Span} :
    Free (insertBlock b blocks) s ↔ b.span.Apart s ∧ Free blocks s := by
  simp [Free]

/-- After the fixed pass the layout holds the fixed requests too. -/
theorem Holds.fixedPass {limit : Nat} (le : addressSpaceEnd ≤ limit)
    {placed todo : List (String × Request)} {l l' : Layout} (h : Holds limit placed l)
    (ok : (todo.foldlM placeFixed l).outcome = .ok l') :
    Holds limit (placed ++ todo.filter (·.2.placement.isFixed)) l' := by
  refine Report.foldlM_keeps
    (fun done l => Holds limit (placed ++ done.filter (·.2.placement.isFixed)) l)
    (fun done x s t hs ht => ?_) todo [] l l' (by simpa using h) ok
  rw [List.filter_append, ← List.append_assoc]
  cases hx : x.2.placement.isFixed with
  | false =>
    rw [placeFixed_of_not_fixed s hx, Report.pure_eq_ok_iff] at ht
    simpa [hx, ← ht] using hs
  | true =>
    obtain ⟨name, r⟩ := x
    obtain ⟨base, hr⟩ := Placement.isFixed_iff.1 hx
    obtain ⟨aligned, inside, free, rfl⟩ := (placeFixed_eq_ok_iff hs.ordered hr).1 ht
    rw [List.filter_cons_of_pos (by exact hx), List.filter_nil]
    refine hs.place free aligned (inside.trans le) fun b hb => ?_
    rw [hr, Placement.fixed.injEq] at hb
    exact hb

/-- The fixed pass is exact: it succeeds if every block that is asked for is allowed, misses what is
there, and they are apart in pairs. -/
theorem fixedPass_isOk_iff {l : Layout} (h : Ordered l.blocks) (todo : List (String × Request)) :
    (∃ l', (todo.foldlM placeFixed l).outcome = .ok l') ↔
      (∀ b ∈ todo.filterMap fixedBlock?, b.Allowed ∧ Free l.blocks b.span) ∧
        (todo.filterMap fixedBlock?).Pairwise fun b c => b.span.Apart c.span := by
  induction todo generalizing l with
  | nil => simp
  | cons x rest ih =>
    cases hx : x.2.placement.isFixed with
    | false =>
      rw [List.foldlM_cons, placeFixed_of_not_fixed l hx, pure_bind, ih h,
        List.filterMap_cons_none (fixedBlock?_eq_none hx)]
    | true =>
      obtain ⟨name, r⟩ := x
      obtain ⟨base, hr⟩ := Placement.isFixed_iff.1 hx
      rw [List.filterMap_cons_some (fixedBlock?_eq_some hr)]
      simp only [Report.foldlM_cons_eq_ok_iff, placeFixed_eq_ok_iff h hr, List.forall_mem_cons,
        List.pairwise_cons, block_allowed_iff]
      have pos := r.reserve_pos
      constructor
      · rintro ⟨l', u, ⟨aligned, inside, free, rfl⟩, ok⟩
        have hu : Ordered (l.place name r base).blocks :=
          h.insertBlock (Nat.lt_add_of_pos_right pos) free
        obtain ⟨each, pairwise⟩ := (ih hu).1 ⟨l', ok⟩
        refine ⟨⟨⟨⟨aligned, inside⟩, free⟩, fun b hb => ?_⟩, fun b hb => ?_, pairwise⟩
        · exact ⟨(each b hb).1, (free_insertBlock_iff.1 (each b hb).2).2⟩
        · exact (free_insertBlock_iff.1 (each b hb).2).1
      · rintro ⟨⟨⟨⟨aligned, inside⟩, free⟩, each⟩, first, pairwise⟩
        have hu : Ordered (l.place name r base).blocks :=
          h.insertBlock (Nat.lt_add_of_pos_right pos) free
        obtain ⟨l', ok⟩ := (ih hu).2
          ⟨fun b hb => ⟨(each b hb).1, free_insertBlock_iff.2 ⟨first b hb, (each b hb).2⟩⟩,
            pairwise⟩
        exact ⟨l', _, ⟨aligned, inside, free, rfl⟩, ok⟩

/-- After the automatic pass the layout holds the requests without a place too. -/
theorem Holds.autoPass {limit : Nat} {region : Span} (le : region.stop ≤ limit)
    {placed todo : List (String × Request)} {l l' : Layout} (h : Holds limit placed l)
    (ok : (todo.foldlM (placeAuto region) l).outcome = .ok l') :
    Holds limit (placed ++ todo.filter (·.2.placement.isAuto)) l' := by
  refine Report.foldlM_keeps
    (fun done l => Holds limit (placed ++ done.filter (·.2.placement.isAuto)) l)
    (fun done x s t hs ht => ?_) todo [] l l' (by simpa using h) ok
  rw [List.filter_append, ← List.append_assoc]
  cases hx : x.2.placement.isAuto with
  | false =>
    rw [placeAuto_of_not_auto region s hx, Report.pure_eq_ok_iff] at ht
    simpa [hx, ← ht] using hs
  | true =>
    obtain ⟨name, r⟩ := x
    have hr := Placement.isAuto_iff.1 hx
    obtain ⟨base, serves, -, rfl⟩ := (placeAuto_eq_ok_iff hs.ordered hr).1 ht
    rw [List.filter_cons_of_pos (by exact hx), List.filter_nil]
    refine hs.place serves.free serves.aligned (serves.stop_le.trans le) fun b hb => ?_
    rw [show r.placement = .auto from hr] at hb
    cases hb

end Layout

/-- The automatic pass goes through the automatic requests alone. -/
theorem AddressMap.autoPass_eq (m : AddressMap) (l : Layout) :
    m.requests.foldlM (Layout.placeAuto m.autoRegion) l =
      m.autoRequests.foldlM (Layout.placeAuto m.autoRegion) l := by
  have skip : ∀ (l : Layout) (x : String × Request), x.2.placement.isAuto = false →
      Layout.placeAuto m.autoRegion l x = pure l :=
    fun l _ hx => Layout.placeAuto_of_not_auto m.autoRegion l hx
  exact (Report.foldlM_filter skip m.requests l).symm

end SocAssembly
