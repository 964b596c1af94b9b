import Mathlib
import SocAssembly.Proofs.Appending

/-!
# Fixed requests that do not fit

The pass for fixed requests looks at one block for each of them. Nevertheless it finds every
conflict between fixed requests, whatever their sizes and their order, because after any part of the
list the blocks are exactly those of the fixed requests in it (`Layout.StandsFor.mem_blocks_iff`),
and in order: the block it looks at is that of the highest fixed request that meets the one at
hand.

What can be wrong with a fixed request, and how it is reported, depends on the requests before it
only (`FixedFault`). A step fails for the fault of its request
(`Layout.StandsFor.placeFixed_eq_error_iff`), so the pass fails for the first fault; and it succeeds
exactly if the fixed requests are consistent as a set (`AddressMap.fixedConsistent_iff`).
-/

namespace SocAssembly

/-! ### Faults of fixed requests -/

/-- The addresses that a request takes at the top level of the bus if it starts at an address. -/
def Request.rangeAt (r : Request) (base : Nat) : Span := ⟨base, base + r.reserve⟩

/-- A request of the list is fixed at an address where it meets the range. -/
structure MeetsFixed (xs : List (String × Request)) (s : Span) (y : String × Request) (b : Nat) :
    Prop where
  /-- It is one of the list. -/
  mem : y ∈ xs
  /-- It is fixed at the address. -/
  fixed : y.2.placement = .fixed b
  /-- It meets the range there. -/
  meets : ¬ (y.2.rangeAt b).Apart s

/-- Of the fixed requests that meet a range there is a highest one. -/
theorem MeetsFixed.exists_highest {xs : List (String × Request)} {s : Span} {y : String × Request}
    {b : Nat} (h : MeetsFixed xs s y b) :
    ∃ z c, MeetsFixed xs s z c ∧ ∀ z' c', MeetsFixed xs s z' c' → c' ≤ c := by
  have bounded : BddAbove {c | ∃ z, MeetsFixed xs s z c} :=
    ⟨s.stop, fun c ⟨z, hz⟩ => (Nat.lt_of_not_le fun behind => hz.meets (Or.inr behind)).le⟩
  obtain ⟨c, ⟨z, hz⟩, greatest⟩ := bounded.exists_isGreatest_of_nonempty ⟨b, y, h⟩
  exact ⟨z, c, hz, fun z' c' hz' => greatest ⟨z', hz'⟩⟩

/-- A fixed request does not fit: it is misaligned, or does not end within the address space, or
meets a fixed request of the list. -/
def Misfits (before : List (String × Request)) (x : String × Request) : Prop :=
  ∃ base, x.2.placement = .fixed base ∧
    (¬ granularity x.2.reserve ∣ base ∨ addressSpaceEnd < base + x.2.reserve ∨
      ∃ y b, MeetsFixed before (x.2.rangeAt base) y b)

/-- The error that names what is wrong with a fixed request, with a list of fixed requests before
it. -/
inductive FixedFault (before : List (String × Request)) : String × Request → Error → Prop where
  /-- It is misaligned. -/
  | misaligned {name : String} {r : Request} {base : Nat} (fixed : r.placement = .fixed base)
      (off : ¬ granularity r.reserve ∣ base) :
      FixedFault before (name, r) (.misaligned name base (granularity r.reserve))
  /-- It is aligned, and does not end within the address space. -/
  | outside {name : String} {r : Request} {base : Nat} (fixed : r.placement = .fixed base)
      (aligned : granularity r.reserve ∣ base) (beyond : addressSpaceEnd < base + r.reserve) :
      FixedFault before (name, r) (.outOfAddressSpace name base r.reserve)
  /-- It may stand where it wants to, but meets requests before it, of which this is the highest. -/
  | overlap {name other : String} {r q : Request} {base b : Nat} (fixed : r.placement = .fixed base)
      (aligned : granularity r.reserve ∣ base) (inside : base + r.reserve ≤ addressSpaceEnd)
      (met : MeetsFixed before (r.rangeAt base) (other, q) b)
      (highest : ∀ y c, MeetsFixed before (r.rangeAt base) y c → c ≤ b) :
      FixedFault before (name, r) (.overlap name base (base + r.reserve) other b (b + q.reserve))

/-- A fixed request has a fault exactly if it does not fit. -/
theorem exists_fixedFault_iff {before : List (String × Request)} {x : String × Request} :
    (∃ e, FixedFault before x e) ↔ Misfits before x := by
  obtain ⟨name, r⟩ := x
  constructor
  · rintro ⟨e, fault⟩
    cases fault with
    | misaligned fixed off => exact ⟨_, fixed, Or.inl off⟩
    | outside fixed _ beyond => exact ⟨_, fixed, Or.inr (Or.inl beyond)⟩
    | overlap fixed _ _ met _ => exact ⟨_, fixed, Or.inr (Or.inr ⟨_, _, met⟩)⟩
  · rintro ⟨base, fixed, misfit⟩
    by_cases aligned : granularity r.reserve ∣ base
    swap
    · exact ⟨_, .misaligned fixed aligned⟩
    by_cases inside : base + r.reserve ≤ addressSpaceEnd
    swap
    · exact ⟨_, .outside fixed aligned (Nat.lt_of_not_le inside)⟩
    rcases misfit with off | beyond | ⟨y, b, met⟩
    · exact absurd aligned off
    · exact absurd inside (Nat.not_le.2 beyond)
    · obtain ⟨⟨other, q⟩, c, met, highest⟩ := met.exists_highest
      exact ⟨_, .overlap fixed aligned inside met highest⟩

namespace Layout

/-- The layout is what the pass makes of a list: it holds the fixed requests. -/
def StandsFor (xs : List (String × Request)) (l : Layout) : Prop :=
  l.Holds addressSpaceEnd (xs.filter (·.2.placement.isFixed))

/-- What happens to a fixed request: first it has to be aligned, then to end within the address
space, then to have no block in its way. -/
theorem outcome_placeFixed (l : Layout) {name : String} {r : Request} {base : Nat}
    (fixed : r.placement = .fixed base) :
    (l.placeFixed (name, r)).outcome =
      if ¬ granularity r.reserve ∣ base then
        .error (.misaligned name base (granularity r.reserve))
      else if addressSpaceEnd < base + r.reserve then
        .error (.outOfAddressSpace name base r.reserve)
      else
        match blocker l.blocks r.reserve base with
        | some b => .error (.overlap name base (base + r.reserve) b.name b.start b.stop)
        | none => .ok (l.place name r base) := by
  have off_iff : base % granularity r.reserve ≠ 0 ↔ ¬ granularity r.reserve ∣ base :=
    not_congr Nat.dvd_iff_mod_eq_zero.symm
  simp only [placeFixed, fixed, off_iff]
  split
  · rfl
  · split
    · rfl
    · unfold blocker
      cases (lastBefore l.blocks (base + r.reserve)).filter (base < ·.stop) <;> rfl

namespace StandsFor

variable {before : List (String × Request)} {l l' : Layout} {x : String × Request}

theorem nil : StandsFor [] {} := Holds.nil addressSpaceEnd

theorem step (h : l.StandsFor before) (ok : (l.placeFixed x).outcome = .ok l') :
    l'.StandsFor (before ++ [x]) := by
  have one : ([x].foldlM placeFixed l).outcome = .ok l' :=
    Report.foldlM_cons_eq_ok_iff.2 ⟨l', ok, rfl⟩
  unfold StandsFor
  rw [List.filter_append]
  exact Holds.fixedPass le_rfl h one

/-- The blocks are those of the fixed requests. -/
theorem mem_blocks_iff (h : l.StandsFor before) {b : Block} : b ∈ l.blocks ↔
    ∃ x ∈ before, ∃ base, x.2.placement = .fixed base ∧ b = ⟨base, base + x.2.reserve, x.1⟩ := by
  rw [h.perm.mem_iff, List.mem_map]
  constructor
  · rintro ⟨⟨name, w⟩, hw, rfl⟩
    obtain ⟨r, hr, granted⟩ := h.exists_request hw
    obtain ⟨mem, isFixed⟩ := List.mem_filter.1 hr
    obtain ⟨base, fixed⟩ := Placement.isFixed_iff.1 isFixed
    refine ⟨(name, r), mem, base, fixed, ?_⟩
    rw [reservedBlock, granted.base_eq base fixed, granted.reserved_eq]
  · rintro ⟨⟨name, r⟩, mem, base, fixed, rfl⟩
    have placed : (name, r) ∈ before.filter (·.2.placement.isFixed) :=
      List.mem_filter.2 ⟨mem, Placement.isFixed_iff.2 ⟨base, fixed⟩⟩
    obtain ⟨⟨name', w⟩, hw, rfl : name = name', granted⟩ := exists_of_forall₂ h.granted.flip placed
    refine ⟨(name, w), hw, ?_⟩
    rw [reservedBlock, granted.base_eq base fixed, granted.reserved_eq]

/-- A block is in the way of a request exactly if it is that of the highest fixed request that meets
it. -/
theorem blocker_eq_some_iff (h : l.StandsFor before) {r : Request} {base : Nat} {b : Block} :
    blocker l.blocks r.reserve base = some b ↔
      ∃ other q c, MeetsFixed before (r.rangeAt base) (other, q) c ∧
        (∀ y d, MeetsFixed before (r.rangeAt base) y d → d ≤ c) ∧
        b = ⟨c, c + q.reserve, other⟩ := by
  rw [h.ordered.blocker_eq_some_iff, h.mem_blocks_iff]
  constructor
  · rintro ⟨⟨⟨other, q⟩, mem, c, fixed, rfl⟩, meets, highest⟩
    refine ⟨other, q, c, ⟨mem, fixed, meets⟩, fun y d met => ?_, rfl⟩
    exact highest _ (h.mem_blocks_iff.2 ⟨y, met.mem, d, met.fixed, rfl⟩) met.meets
  · rintro ⟨other, q, c, met, highest, rfl⟩
    refine ⟨⟨_, met.mem, c, met.fixed, rfl⟩, met.meets, fun b hb meets => ?_⟩
    obtain ⟨y, mem, d, fixed, rfl⟩ := h.mem_blocks_iff.1 hb
    exact highest y d ⟨mem, fixed, meets⟩

/-- A step fails for the fault of its request, among the fixed requests before it. -/
theorem placeFixed_eq_error_iff (h : l.StandsFor before) {e : Error} :
    (l.placeFixed x).outcome = .error e ↔ FixedFault before x e := by
  obtain ⟨name, r⟩ := x
  constructor
  · intro failed
    cases hx : r.placement.isFixed with
    | false =>
      rw [placeFixed_of_not_fixed l hx] at failed
      cases failed
    | true =>
      obtain ⟨base, hr⟩ := Placement.isFixed_iff.1 hx
      rw [outcome_placeFixed l hr] at failed
      split at failed
      · rename_i off
        cases failed
        exact .misaligned hr off
      · rename_i aligned
        split at failed
        · rename_i beyond
          cases failed
          exact .outside hr (not_not.1 aligned) beyond
        · rename_i inside
          split at failed
          · rename_i b hb
            obtain ⟨other, q, c, met, highest, rfl⟩ := h.blocker_eq_some_iff.1 hb
            cases failed
            exact .overlap hr (not_not.1 aligned) (Nat.le_of_not_lt inside) met highest
          · cases failed
  · intro fault
    cases fault with
    | misaligned fixed off => rw [outcome_placeFixed l fixed, if_pos off]
    | outside fixed aligned beyond =>
      rw [outcome_placeFixed l fixed, if_neg (not_not.2 aligned), if_pos beyond]
    | overlap fixed aligned inside met highest =>
      have blocked := h.blocker_eq_some_iff.2 ⟨_, _, _, met, highest, rfl⟩
      rw [outcome_placeFixed l fixed, if_neg (not_not.2 aligned), if_neg (Nat.not_lt.2 inside),
        blocked]

end StandsFor

end Layout

namespace AddressMap

/-- The fixed requests of the map can stand where they want to. -/
structure FixedConsistent (m : AddressMap) : Prop where
  /-- They are aligned. -/
  aligned : ∀ x ∈ m.requests, ∀ base, x.2.placement = .fixed base → granularity x.2.reserve ∣ base
  /-- They end within the address space. -/
  inside : ∀ x ∈ m.requests, ∀ base, x.2.placement = .fixed base →
    base + x.2.reserve ≤ addressSpaceEnd
  /-- No two of them meet. -/
  apart : ∀ x ∈ m.requests, ∀ y ∈ m.requests, x.1 ≠ y.1 → ∀ b c, x.2.placement = .fixed b →
    y.2.placement = .fixed c → (x.2.rangeAt b).Apart (y.2.rangeAt c)

end AddressMap

/-- The error is that of a fixed request that cannot stand where it wants to. -/
def Error.isMisfit : Error → Bool
  | .misaligned .. | .outOfAddressSpace .. | .overlap .. => true
  | _ => false

theorem FixedFault.isMisfit {before : List (String × Request)} {x : String × Request} {e : Error}
    (h : FixedFault before x e) : e.isMisfit = true := by
  cases h <;> rfl

namespace Layout

/-- The automatic pass does not blame fixed requests. -/
theorem not_isMisfit_of_placeAuto {region : Span} {l : Layout} {x : String × Request} {e : Error}
    (failed : (placeAuto region l x).outcome = .error e) : e.isMisfit = false := by
  cases hx : x.2.placement.isAuto with
  | false =>
    rw [placeAuto_of_not_auto region l hx] at failed
    cases failed
  | true =>
    obtain ⟨name, r⟩ := x
    rw [outcome_placeAuto region l (Placement.isAuto_iff.1 hx)] at failed
    split at failed
    · cases failed
      rfl
    · cases failed

/-- Neither does the pass for attached requests. -/
theorem not_isMisfit_of_placeAttached {m : AddressMap} {l : Layout} {x : String × Request}
    {e : Error} (failed : (placeAttached m l x).outcome = .error e) : e.isMisfit = false := by
  cases hx : x.2.placement.isAttached with
  | false =>
    rw [placeAttached_of_not_attached m l hx] at failed
    cases failed
  | true =>
    obtain ⟨name, r⟩ := x
    obtain ⟨parent, hr⟩ := Placement.isAttached_iff.1 hx
    rw [outcome_placeAttached m l hr] at failed
    repeat' split at failed
    all_goals cases failed
    all_goals rfl

end Layout

namespace AddressMap

/-- An error that blames a fixed request is that of the fixed pass. -/
theorem fixedPass_of_allocate_error {m : AddressMap} {e : Error}
    (error : m.allocate.outcome = .error e) (misfit : e.isMisfit = true) :
    (m.requests.foldlM Layout.placeFixed {}).outcome = .error e := by
  unfold allocate at error
  rcases Report.bind_eq_error_iff.1 error with failed | ⟨fixed, -, error⟩
  · exact failed
  rcases Report.bind_eq_error_iff.1 error with failed | ⟨top, -, error⟩
  · obtain ⟨_, x, _, l, -, -, failed⟩ := Report.foldlM_eq_error_iff.1 failed
    simp [Layout.not_isMisfit_of_placeAuto failed] at misfit
  rcases Report.bind_eq_error_iff.1 error with failed | ⟨full, -, error⟩
  · obtain ⟨_, x, _, l, -, -, failed⟩ := Report.foldlM_eq_error_iff.1 failed
    simp [Layout.not_isMisfit_of_placeAttached failed] at misfit
  · cases error

/-- The fixed requests are consistent exactly if the blocks that they ask for are allowed and are
apart in pairs. -/
theorem fixedConsistent_iff {m : AddressMap} : m.FixedConsistent ↔
    (∀ b ∈ m.requests.filterMap Layout.fixedBlock?, b.Allowed ∧ Layout.Free [] b.span) ∧
      (m.requests.filterMap Layout.fixedBlock?).Pairwise fun b c => b.span.Apart c.span := by
  constructor
  · intro consistent
    refine ⟨fun b hb => ⟨?_, fun c hc => by cases hc⟩, List.pairwise_filterMap.2 ?_⟩
    · obtain ⟨x, hx, some⟩ := List.mem_filterMap.1 hb
      obtain ⟨base, fixed, rfl⟩ := Layout.fixedBlock?_eq_some_iff.1 some
      exact Layout.block_allowed_iff.2
        ⟨consistent.aligned x hx base fixed, consistent.inside x hx base fixed⟩
    · have distinct : m.requests.Pairwise fun x y => x.1 ≠ y.1 := List.pairwise_map.1 m.names_nodup
      refine distinct.imp_of_mem fun {x y} hx hy ne b hb c hc => ?_
      obtain ⟨base, fixed, rfl⟩ := Layout.fixedBlock?_eq_some_iff.1 hb
      obtain ⟨base', fixed', rfl⟩ := Layout.fixedBlock?_eq_some_iff.1 hc
      exact consistent.apart x hx y hy ne base base' fixed fixed'
  · rintro ⟨allowed, pairwise⟩
    have symm : Std.Symm fun b c : Block => b.span.Apart c.span := ⟨fun _ _ apart => apart.symm⟩
    have mem : ∀ x ∈ m.requests, ∀ base, x.2.placement = .fixed base →
        ⟨base, base + x.2.reserve, x.1⟩ ∈ m.requests.filterMap Layout.fixedBlock? :=
      fun x hx base fixed =>
        List.mem_filterMap.2 ⟨x, hx, Layout.fixedBlock?_eq_some_iff.2 ⟨base, fixed, rfl⟩⟩
    refine ⟨fun x hx base fixed => ?_, fun x hx base fixed => ?_,
      fun x hx y hy ne b c fixed fixed' => ?_⟩
    · exact (Layout.block_allowed_iff.1 (allowed _ (mem x hx base fixed)).1).1
    · exact (Layout.block_allowed_iff.1 (allowed _ (mem x hx base fixed)).1).2
    · exact pairwise.forall (mem x hx b fixed) (mem y hy c fixed') fun same =>
        ne (congrArg Block.name same)

/-- The fixed pass refuses the requests that do not fit, and nothing else. -/
structure RefusesMisfits (m : AddressMap) : Prop where
  /-- The pass succeeds exactly if the fixed requests are consistent. -/
  passes_iff : (∃ l, (m.requests.foldlM Layout.placeFixed {}).outcome = .ok l) ↔ m.FixedConsistent
  /-- Otherwise the allocation fails for the first request that does not fit beside those registered
  before it. -/
  refused : ¬ m.FixedConsistent → ∃ before x rest e, m.requests = before ++ x :: rest ∧
    Misfits before x ∧ (∀ front y back, before = front ++ y :: back → ¬ Misfits front y) ∧
    FixedFault before x e ∧ m.allocate.outcome = .error e
  /-- No other request is blamed for where it wants to stand, and none in another way. -/
  blamed_iff : ∀ e, m.allocate.outcome = .error e ∧ e.isMisfit = true ↔
    FirstFault FixedFault m.requests e

/-- A request that meets two earlier ones, the higher of which is blamed. -/
example : (AddressMap.mk defaultRegion [
      ("leds", .ofSize 4 none (.fixed 0xf0003400) (by decide)),
      ("gpio", .ofSize 12 none (.fixed 0xf0003000) (by decide)),
      ("usb", .ofSize 0x14 (some 0x1000) (.fixed 0xf0003000) (by decide)),
      ("uart", .ofSize 0x30 none (.fixed 0xf0000001) (by decide))] (by decide)).allocate.outcome =
    .error (.overlap "usb" 0xf0003000 0xf0004000 "leds" 0xf0003400 0xf0003500) := by cbv

end AddressMap

end SocAssembly
