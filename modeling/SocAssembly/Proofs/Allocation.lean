import Mathlib
import SocAssembly.Proofs.Attachment

/-!
# What a successful allocation guarantees

An allocation that succeeds has gone through two layouts: `top` after the passes for fixed and
automatic requests, and `full` after the pass for attached ones. `AddressMap.Settled` says how the
three belong together. Every window then lies in the reserved range of its *host*, a top-level
window that is either the window itself or that of the parent (`AddressMap.Settled.exists_host`).
Hosts are apart because their blocks are, and windows with one host are apart because they lie side
by side; so entries never meet, however they were placed (`AddressMap.Settled.range_apart`).
-/

namespace SocAssembly

/-! ### The requests of a map -/

namespace AddressMap

theorem request?_eq_some_iff (m : AddressMap) {name : String} {r : Request} :
    m.request? name = some r ↔ (name, r) ∈ m.requests :=
  lookup_eq_some_iff_mem m.names_nodup

/-- The requests that are attached to an entry. -/
def children (m : AddressMap) (parent : String) : List (String × Request) :=
  attachedTo parent m.requests

theorem mem_children {m : AddressMap} {parent : String} {x : String × Request} :
    x ∈ m.children parent ↔ x ∈ m.requests ∧ x.2.placement = .attached parent := by
  simp [children, attachedTo]

theorem topRequests_perm (m : AddressMap) :
    m.topRequests.Perm (m.requests.filter (!·.2.placement.isAttached)) := by
  have split := List.filter_append_perm (·.2.placement.isFixed)
    (m.requests.filter (!·.2.placement.isAttached))
  rw [List.filter_filter, List.filter_filter] at split
  refine List.Perm.trans (List.Perm.of_eq ?_) split
  unfold topRequests fixedRequests autoRequests
  congr 1 <;> refine List.filter_congr fun x _ => ?_
  · cases x.2.placement <;> rfl
  · cases x.2.placement <;> rfl

theorem mem_topRequests {m : AddressMap} {x : String × Request} :
    x ∈ m.topRequests ↔ x ∈ m.requests ∧ x.2.placement.isAttached = false := by
  rw [m.topRequests_perm.mem_iff, List.mem_filter, Bool.not_eq_true']

/-- Every request is placed by one of the passes, and by one only. -/
theorem topRequests_append_perm (m : AddressMap) :
    (m.topRequests ++ m.requests.filter (·.2.placement.isAttached)).Perm m.requests := by
  refine (m.topRequests_perm.append_right _).trans (List.perm_append_comm.trans ?_)
  exact List.filter_append_perm (·.2.placement.isAttached) m.requests

theorem nodup_topRequests (m : AddressMap) : (m.topRequests.map Prod.fst).Nodup := by
  refine (m.topRequests_perm.map Prod.fst).nodup_iff.2 ?_
  exact m.names_nodup.sublist (List.filter_sublist.map Prod.fst)

end AddressMap

/-! ### The layout after the first two passes -/

namespace Layout.Holds

variable {limit : Nat} {placed : List (String × Request)} {l : Layout}

/-- Every window was granted to a request. -/
theorem exists_request (h : l.Holds limit placed) {x : String × Window} (hx : x ∈ l.windows) :
    ∃ r, (x.1, r) ∈ placed ∧ r.Granted limit x.2 := by
  obtain ⟨⟨name, r⟩, hr, hname, granted⟩ := exists_of_forall₂ h.granted hx
  exact ⟨r, hname ▸ hr, granted⟩

theorem nodup (h : l.Holds limit placed) (nodup : (placed.map Prod.fst).Nodup) :
    (l.windows.map Prod.fst).Nodup := by
  rw [h.names_eq]
  exact nodup

/-- Every request has a window that it was granted. -/
theorem exists_window (h : l.Holds limit placed) (nodup : (placed.map Prod.fst).Nodup)
    {name : String} {r : Request} (hr : (name, r) ∈ placed) :
    ∃ w, l.windows.lookup name = some w ∧ r.Granted limit w := by
  have named : name ∈ l.windows.map Prod.fst := by
    rw [h.names_eq]
    exact List.mem_map.2 ⟨(name, r), hr, rfl⟩
  obtain ⟨w, hw⟩ := exists_lookup_iff.2 named
  obtain ⟨r', hr', granted⟩ := h.exists_request (mem_of_lookup hw)
  have same := List.inj_on_of_nodup_map nodup hr hr' rfl
  rw [(Prod.mk.inj same).2]
  exact ⟨w, hw, granted⟩

/-- The reserved ranges of two entries are apart. -/
theorem reservedRange_apart (h : l.Holds limit placed) {x y : String × Window}
    (hx : x ∈ l.windows) (hy : y ∈ l.windows) (ne : x.1 ≠ y.1) :
    x.2.reservedRange.Apart y.2.reservedRange := by
  have mem : ∀ z ∈ l.windows, reservedBlock z ∈ l.blocks := fun z hz =>
    h.perm.mem_iff.2 (List.mem_map_of_mem hz)
  refine h.ordered.apart (mem x hx) (mem y hy) fun same => ne ?_
  exact congrArg Block.name same

/-- The layout has the entries that others can be attached to. -/
theorem hosts {m : AddressMap} {top : Layout} (h : top.Holds m.limit m.topRequests) :
    top.Hosts m := by
  refine ⟨fun parent => ?_, fun x hx => ?_, fun x hx => ?_⟩
  · constructor
    · rintro ⟨w, hw⟩
      obtain ⟨r, hr, -⟩ := h.exists_request (mem_of_lookup hw)
      obtain ⟨mem, top'⟩ := AddressMap.mem_topRequests.1 hr
      exact ⟨r, m.request?_eq_some_iff.2 mem, top'⟩
    · rintro ⟨r, hr, top'⟩
      have mem := AddressMap.mem_topRequests.2 ⟨m.request?_eq_some_iff.1 hr, top'⟩
      obtain ⟨w, hw, -⟩ := h.exists_window m.nodup_topRequests mem
      exact ⟨w, hw⟩
  · obtain ⟨r, -, granted⟩ := h.exists_request hx
    exact granted.parent_eq
  · obtain ⟨r, -, granted⟩ := h.exists_request hx
    rw [granted.size_eq]
    exact r.isWindowSize_size.packed_dvd

end Layout.Holds

/-! ### The layouts behind an allocation -/

namespace AddressMap

/-- The passes that an allocation goes through. -/
theorem allocate_eq_ok_iff {m : AddressMap} {a : Allocation} :
    m.allocate.outcome = .ok a ↔
      ∃ fixed top full, (m.requests.foldlM Layout.placeFixed {}).outcome = .ok fixed ∧
        (m.requests.foldlM (Layout.placeAuto m.autoRegion) fixed).outcome = .ok top ∧
        (m.requests.foldlM (Layout.placeAttached m) top).outcome = .ok full ∧
        ⟨m.names.filterMap fun name => (full.windows.lookup name).map (name, ·)⟩ = a := by
  unfold allocate
  simp only [Report.bind_eq_ok_iff, Report.pure_eq_ok_iff]
  constructor
  · rintro ⟨fixed, hfixed, top, htop, full, hfull, ha⟩
    exact ⟨fixed, top, full, hfixed, htop, hfull, ha⟩
  · rintro ⟨fixed, top, full, hfixed, htop, hfull, ha⟩
    exact ⟨fixed, hfixed, top, htop, full, hfull, ha⟩

/-- How an allocation comes about: `top` holds the fixed and automatic requests, `full` has the
attached ones cut from it, and the allocation lists the windows of `full`. -/
structure Settled (m : AddressMap) (a : Allocation) (top full : Layout) : Prop where
  /-- The fixed and automatic requests are placed. -/
  holds : top.Holds m.limit m.topRequests
  /-- The attached ones are cut from the windows of their parents. -/
  carved : top.Carved m.requests full
  /-- They fit. -/
  fits : ∀ parent, m.children parent ≠ [] → ∃ w, top.windows.lookup parent = some w ∧
    w.size + totalSize (m.children parent) ≤ w.reserved
  /-- The windows are listed in the order of registration. -/
  windows_eq : a.windows = m.names.filterMap fun name => (full.windows.lookup name).map (name, ·)

/-- After the first two passes the layout holds the fixed and automatic requests. -/
theorem holds_of_passes {m : AddressMap} {fixed top : Layout}
    (hfixed : (m.requests.foldlM Layout.placeFixed {}).outcome = .ok fixed)
    (htop : (m.requests.foldlM (Layout.placeAuto m.autoRegion) fixed).outcome = .ok top) :
    top.Holds m.limit m.topRequests :=
  ((Layout.Holds.nil m.limit).fixedPass (le_max_left ..) hfixed).autoPass (le_max_right ..) htop

/-- An allocation is settled by the layouts of its passes. -/
theorem settled_of_passes {m : AddressMap} {fixed top full : Layout}
    (hfixed : (m.requests.foldlM Layout.placeFixed {}).outcome = .ok fixed)
    (htop : (m.requests.foldlM (Layout.placeAuto m.autoRegion) fixed).outcome = .ok top)
    (hfull : (m.requests.foldlM (Layout.placeAttached m) top).outcome = .ok full) :
    m.Settled ⟨m.names.filterMap fun name => (full.windows.lookup name).map (name, ·)⟩
      top full := by
  have holds := holds_of_passes hfixed htop
  have fits := (Layout.attachedPass_isOk_iff holds.hosts (.nil holds.hosts) m.requests).1
    ⟨full, hfull⟩
  exact ⟨holds, .pass holds.hosts hfull, fits, rfl⟩

theorem exists_settled {m : AddressMap} {a : Allocation} (h : m.allocate.outcome = .ok a) :
    ∃ top full, m.Settled a top full := by
  obtain ⟨fixed, top, full, hfixed, htop, hfull, rfl⟩ := allocate_eq_ok_iff.1 h
  exact ⟨top, full, settled_of_passes hfixed htop hfull⟩

namespace Settled

variable {m : AddressMap} {a : Allocation} {top full : Layout}

theorem full_names_perm (h : m.Settled a top full) :
    (full.windows.map Prod.fst).Perm m.names := by
  rw [h.carved.names_eq, h.holds.names_eq, ← List.map_append]
  exact m.topRequests_append_perm.map Prod.fst

theorem full_nodup (h : m.Settled a top full) : (full.windows.map Prod.fst).Nodup :=
  h.full_names_perm.nodup_iff.2 m.names_nodup

/-- The allocation has the windows of the last layout. -/
theorem mem_windows (h : m.Settled a top full) {x : String × Window} :
    x ∈ a.windows ↔ x ∈ full.windows := by
  obtain ⟨name, w⟩ := x
  rw [h.windows_eq, List.mem_filterMap, ← lookup_eq_some_iff_mem h.full_nodup]
  constructor
  · rintro ⟨other, -, hw⟩
    obtain ⟨v, hv, heq⟩ := Option.map_eq_some_iff.1 hw
    obtain ⟨rfl, rfl⟩ := Prod.mk.inj heq
    exact hv
  · intro hw
    refine ⟨name, ?_, by rw [hw]; rfl⟩
    exact h.full_names_perm.mem_iff.1 (exists_lookup_iff.1 ⟨w, hw⟩)

/-- It lists exactly the registered names, in the order of registration. -/
theorem names_eq (h : m.Settled a top full) : a.windows.map Prod.fst = m.names := by
  rw [h.windows_eq, List.map_filterMap]
  refine (List.filterMap_congr fun name hname => ?_).trans List.filterMap_some
  obtain ⟨w, hw⟩ := exists_lookup_iff.2 (h.full_names_perm.mem_iff.2 hname)
  rw [hw]
  rfl

theorem get?_eq (h : m.Settled a top full) (name : String) :
    a.get? name = full.windows.lookup name := by
  have nodup : (a.windows.map Prod.fst).Nodup := by
    rw [h.names_eq]
    exact m.names_nodup
  refine Option.ext fun w => ?_
  rw [Allocation.get?, lookup_eq_some_iff_mem nodup, h.mem_windows,
    lookup_eq_some_iff_mem h.full_nodup]

/-- What was not asked for has no window. -/
theorem get?_eq_none (h : m.Settled a top full) {name : String} (hr : m.request? name = none) :
    a.get? name = none := by
  rw [Allocation.get?, lookup_eq_none_iff_notMem, h.names_eq]
  exact lookup_eq_none_iff_notMem.1 hr

/-- A fixed or automatic request has the window that it was granted. -/
theorem get?_of_top (h : m.Settled a top full) {name : String} {r : Request}
    (hr : (name, r) ∈ m.requests) (top' : r.placement.isAttached = false) :
    ∃ w, a.get? name = some w ∧ top.windows.lookup name = some w ∧ r.Granted m.limit w := by
  obtain ⟨w, hw, granted⟩ :=
    h.holds.exists_window m.nodup_topRequests (mem_topRequests.2 ⟨hr, top'⟩)
  exact ⟨w, by rw [h.get?_eq, h.carved.lookup hw], hw, granted⟩

/-- A window of the row behind a parent's bytes is one of the allocation. -/
theorem mem_row (h : m.Settled a top full) {parent : String} {w : Window}
    (hw : top.windows.lookup parent = some w) {x : String × Window} :
    x ∈ tile parent (w.base + w.size) (m.children parent) ↔
      x ∈ a.windows ∧ x.2.parent = some parent := by
  rw [children, ← h.carved.row parent w hw, List.mem_filter, decide_eq_true_eq, h.mem_windows]

/-- An attached request lies behind its parent's bytes and the requests attached before it. -/
theorem get?_of_attached (h : m.Settled a top full) {name parent : String} {r : Request}
    {before rest : List (String × Request)}
    (hsplit : m.children parent = before ++ (name, r) :: rest) :
    ∃ w, a.get? parent = some w ∧ top.windows.lookup parent = some w ∧
      a.get? name =
        some ⟨w.base + w.size + totalSize before, r.size, r.size, some parent⟩ := by
  obtain ⟨w, hw, -⟩ := h.fits parent (by rw [hsplit]; simp)
  refine ⟨w, by rw [h.get?_eq, h.carved.lookup hw], hw, ?_⟩
  have mem := mem_tile_of_split parent (w.base + w.size) before rest name r
  rw [← hsplit, h.mem_row hw] at mem
  rw [h.get?_eq, lookup_eq_some_iff_mem h.full_nodup, ← h.mem_windows]
  exact mem.1

/-- Every window is a top-level one or belongs to the row behind its parent's bytes. -/
theorem mem_top_or_row (h : m.Settled a top full) {x : String × Window} (hx : x ∈ a.windows) :
    x ∈ top.windows ∨ ∃ parent w, x.2.parent = some parent ∧
      top.windows.lookup parent = some w ∧
      x ∈ tile parent (w.base + w.size) (m.children parent) ∧
      w.size + totalSize (m.children parent) ≤ w.reserved := by
  obtain ⟨cut, heq, hcut⟩ := h.carved.windows_eq
  have hfull := h.mem_windows.1 hx
  rw [heq] at hfull
  rcases List.mem_append.1 hfull with htop | hx'
  · exact Or.inl htop
  · obtain ⟨parent, w, hparent, hw⟩ := hcut x hx'
    have hrow := (h.mem_row hw).2 ⟨hx, hparent⟩
    obtain ⟨v, hv, hfits⟩ := h.fits parent fun none => by
      rw [none] at hrow
      cases hrow
    rw [hw, Option.some.injEq] at hv
    exact Or.inr ⟨parent, w, hparent, hw, hrow, hv ▸ hfits⟩

/-! ### Hosts -/

/-- Every window is aligned in packed units and occupies no more than is kept free for it. -/
theorem size_le_reserved (h : m.Settled a top full) {x : String × Window} (hx : x ∈ a.windows) :
    packed ∣ x.2.base ∧ x.2.size ≤ x.2.reserved := by
  have granted : ∀ y ∈ top.windows,
      packed ∣ y.2.base ∧ packed ∣ y.2.size ∧ y.2.size ≤ y.2.reserved := by
    intro y hy
    obtain ⟨r, -, hr⟩ := h.holds.exists_request hy
    rw [hr.size_eq, hr.reserved_eq]
    exact ⟨(packed_dvd_granularity _).trans hr.aligned, r.isWindowSize_size.packed_dvd,
      r.size_le_reserve⟩
  rcases h.mem_top_or_row hx with htop | ⟨parent, w, -, hw, hrow, -⟩
  · exact ⟨(granted x htop).1, (granted x htop).2.2⟩
  · obtain ⟨hbase, hsize, -⟩ := granted _ (mem_of_lookup hw)
    exact ⟨packed_dvd_of_mem_tile (hbase.add hsize) hrow, (mem_tile hrow).2.1.ge⟩

theorem range_within (h : m.Settled a top full) {x : String × Window} (hx : x ∈ a.windows) :
    x.2.range.Within x.2.reservedRange :=
  ⟨le_rfl, Nat.add_le_add_left (h.size_le_reserved hx).2 _⟩

/-- Every window lies in the reserved range of a top-level window: its own, or its parent's behind
the parent's bytes. -/
theorem exists_host (h : m.Settled a top full) {x : String × Window} (hx : x ∈ a.windows) :
    ∃ y ∈ top.windows, x.2.reservedRange.Within y.2.reservedRange ∧
      (x = y ∨ x.2.parent = some y.1 ∧ y.2.base + y.2.size ≤ x.2.base) := by
  rcases h.mem_top_or_row hx with htop | ⟨parent, w, hparent, hw, hrow, hfits⟩
  · exact ⟨x, htop, ⟨le_rfl, le_rfl⟩, Or.inl rfl⟩
  · obtain ⟨-, hreserved, hbase, hstop⟩ := mem_tile hrow
    refine ⟨(parent, w), mem_of_lookup hw, ⟨?_, ?_⟩, Or.inr ⟨hparent, hbase⟩⟩
    · show w.base ≤ x.2.base
      omega
    · show x.2.base + x.2.reserved ≤ w.base + w.reserved
      omega

theorem mem_of_top (h : m.Settled a top full) {x : String × Window} (hx : x ∈ top.windows) :
    x ∈ a.windows := by
  obtain ⟨cut, heq, -⟩ := h.carved.windows_eq
  rw [h.mem_windows, heq]
  exact List.mem_append_left _ hx

/-- A window without a parent is a top-level window. -/
theorem mem_top_of_parent (h : m.Settled a top full) {x : String × Window} (hx : x ∈ a.windows)
    (none : x.2.parent = none) : x ∈ top.windows := by
  rcases h.mem_top_or_row hx with htop | ⟨parent, w, hparent, -⟩
  · exact htop
  · rw [none] at hparent
    cases hparent

/-- Two windows cut from one parent never meet. -/
theorem siblings_apart (h : m.Settled a top full) {x y : String × Window} {parent : String}
    (hx : x ∈ a.windows) (hy : y ∈ a.windows) (ne : x.1 ≠ y.1)
    (hxp : x.2.parent = some parent) (hyp : y.2.parent = some parent) :
    x.2.range.Apart y.2.range := by
  rcases h.mem_top_or_row hx with htop | ⟨p, w, hp, hw, hrow, -⟩
  · rw [h.holds.hosts.parent_eq x htop] at hxp
    cases hxp
  · rw [hxp, Option.some.injEq] at hp
    subst hp
    have symm : Std.Symm fun x y : String × Window => x.2.range.Apart y.2.range :=
      ⟨fun _ _ h => h.symm⟩
    have pairwise : (tile parent (w.base + w.size) (m.children parent)).Pairwise
        fun x y => x.2.range.Apart y.2.range := (pairwise_tile ..).imp Or.inl
    exact pairwise.forall hrow ((h.mem_row hw).2 ⟨hy, hyp⟩) fun same => ne (by rw [same])

/-- Entries never meet, however they are placed. -/
theorem range_apart (h : m.Settled a top full) {x y : String × Window} (hx : x ∈ a.windows)
    (hy : y ∈ a.windows) (ne : x.1 ≠ y.1) : x.2.range.Apart y.2.range := by
  obtain ⟨x', hx', hxwithin, hxcase⟩ := h.exists_host hx
  obtain ⟨y', hy', hywithin, hycase⟩ := h.exists_host hy
  by_cases same : x'.1 = y'.1
  · -- one host: the windows are the host itself or lie in the row behind its bytes
    have hosts : x' = y' :=
      List.inj_on_of_nodup_map (h.holds.nodup m.nodup_topRequests) hx' hy' same
    subst hosts
    rcases hxcase with rfl | ⟨hxp, hxabove⟩
    · rcases hycase with rfl | ⟨-, hyabove⟩
      · exact absurd rfl ne
      · exact Or.inl hyabove
    · rcases hycase with rfl | ⟨hyp, -⟩
      · exact Or.inr hxabove
      · exact h.siblings_apart hx hy ne hxp hyp
  · -- two hosts: their reserved ranges are apart already
    have apart := h.holds.reservedRange_apart hx' hy' same
    exact apart.mono ((h.range_within hx).trans hxwithin) ((h.range_within hy).trans hywithin)

/-- Every window ends where the top-level windows have to. -/
theorem stop_le (h : m.Settled a top full) {x : String × Window} (hx : x ∈ a.windows) :
    x.2.reservedRange.stop ≤ m.limit := by
  obtain ⟨y, hy, hwithin, -⟩ := h.exists_host hx
  obtain ⟨r, -, granted⟩ := h.holds.exists_request hy
  exact hwithin.2.trans granted.stop_le

end Settled

end AddressMap

/-! ### Soundness -/

/-- The window has the bytes and the place that the request asks for. -/
def Request.AnsweredBy (r : Request) (w : Window) : Prop :=
  w.size = r.size ∧
    match r.placement with
    | .fixed base => w.base = base ∧ w.reserved = r.reserve ∧ w.parent = none
    | .auto => w.reserved = r.reserve ∧ w.parent = none
    | .attached parent => w.reserved = r.size ∧ w.parent = some parent

/-- What an allocation owes to the entries of its map. -/
structure Allocation.Sound (m : AddressMap) (a : Allocation) : Prop where
  /-- It lists exactly the registered names, in the order of registration. -/
  names_eq : a.windows.map Prod.fst = m.names
  /-- It lists each name once. -/
  nodup : (a.windows.map Prod.fst).Nodup
  /-- Each entry has a window as it asked for; a fixed one keeps its address. -/
  answered : ∀ x ∈ m.requests, ∃ w, a.get? x.1 = some w ∧ x.2.AnsweredBy w
  /-- No two entries meet, whatever their placements. -/
  apart : ∀ x ∈ a.windows, ∀ y ∈ a.windows, x.1 ≠ y.1 → x.2.range.Apart y.2.range
  /-- No two entries without a parent meet in what is kept free for them. -/
  reserved_apart : ∀ x ∈ a.windows, ∀ y ∈ a.windows, x.1 ≠ y.1 → x.2.parent = none →
    y.2.parent = none → x.2.reservedRange.Apart y.2.reservedRange
  /-- An entry without a parent is aligned to its granularity and fits what is kept free for it. -/
  top_aligned : ∀ x ∈ a.windows, x.2.parent = none →
    granularity x.2.reserved ∣ x.2.base ∧ x.2.size ≤ x.2.reserved
  /-- An attached entry is aligned in packed units and lies in what is kept free for its parent,
  above what the parent occupies. -/
  attached_within : ∀ x ∈ a.windows, ∀ parent, x.2.parent = some parent →
    packed ∣ x.2.base ∧ ∃ w, a.get? parent = some w ∧
      x.2.reservedRange.Within ⟨w.base + w.size, w.base + w.reserved⟩
  /-- If the automatic region does, every entry ends within the address space. -/
  stop_le : m.autoRegion.stop ≤ addressSpaceEnd → ∀ x ∈ a.windows,
    x.2.range.stop ≤ addressSpaceEnd ∧ x.2.reservedRange.stop ≤ addressSpaceEnd

namespace AddressMap

namespace Settled

variable {m : AddressMap} {a : Allocation} {top full : Layout}

theorem answered (h : m.Settled a top full) {x : String × Request} (hx : x ∈ m.requests) :
    ∃ w, a.get? x.1 = some w ∧ x.2.AnsweredBy w := by
  obtain ⟨name, r⟩ := x
  cases hr : r.placement with
  | attached parent =>
    have mem : (name, r) ∈ m.children parent := mem_children.2 ⟨hx, hr⟩
    obtain ⟨before, rest, hsplit⟩ := List.append_of_mem mem
    obtain ⟨w, -, -, hget⟩ := h.get?_of_attached hsplit
    exact ⟨_, hget, by simp [Request.AnsweredBy, hr]⟩
  | auto =>
    obtain ⟨w, hget, -, granted⟩ := h.get?_of_top hx (by rw [hr]; rfl)
    refine ⟨w, hget, granted.size_eq, ?_⟩
    simp only [hr]
    exact ⟨granted.reserved_eq, granted.parent_eq⟩
  | fixed base =>
    obtain ⟨w, hget, -, granted⟩ := h.get?_of_top hx (by rw [hr]; rfl)
    refine ⟨w, hget, granted.size_eq, ?_⟩
    simp only [hr]
    exact ⟨granted.base_eq base hr, granted.reserved_eq, granted.parent_eq⟩

theorem attached_within (h : m.Settled a top full) {x : String × Window} (hx : x ∈ a.windows)
    {parent : String} (hparent : x.2.parent = some parent) :
    ∃ w, a.get? parent = some w ∧
      x.2.reservedRange.Within ⟨w.base + w.size, w.base + w.reserved⟩ := by
  obtain ⟨y, hy, hwithin, hcase⟩ := h.exists_host hx
  rcases hcase with rfl | ⟨hyp, above⟩
  · rw [h.holds.hosts.parent_eq x hy] at hparent
    cases hparent
  · rw [hparent, Option.some.injEq] at hyp
    subst hyp
    refine ⟨y.2, ?_, above, hwithin.2⟩
    rw [h.get?_eq, lookup_eq_some_iff_mem h.full_nodup, ← h.mem_windows]
    exact h.mem_of_top hy

end Settled

/-- **Soundness of allocation.** Whatever is registered, in whatever order and with whatever sizes:
if the allocation succeeds, its windows are apart, aligned, in their place and complete. -/
theorem sound_of_allocate {m : AddressMap} {a : Allocation} (h : m.allocate.outcome = .ok a) :
    a.Sound m := by
  obtain ⟨top, full, settled⟩ := exists_settled h
  refine
    { names_eq := settled.names_eq
      nodup := by rw [settled.names_eq]; exact m.names_nodup
      answered := fun x hx => settled.answered hx
      apart := fun x hx y hy ne => settled.range_apart hx hy ne
      reserved_apart := fun x hx y hy ne hxtop hytop => ?_
      top_aligned := fun x hx htop => ?_
      attached_within := fun x hx parent hparent =>
        ⟨(settled.size_le_reserved hx).1, settled.attached_within hx hparent⟩
      stop_le := fun hregion x hx => ?_ }
  · exact settled.holds.reservedRange_apart (settled.mem_top_of_parent hx hxtop)
      (settled.mem_top_of_parent hy hytop) ne
  · obtain ⟨r, -, granted⟩ := settled.holds.exists_request (settled.mem_top_of_parent hx htop)
    rw [granted.reserved_eq]
    refine ⟨granted.aligned, ?_⟩
    rw [granted.size_eq]
    exact r.size_le_reserve
  · have hstop : x.2.reservedRange.stop ≤ addressSpaceEnd :=
      (settled.stop_le hx).trans (max_le le_rfl hregion)
    exact ⟨(settled.range_within hx).2.trans hstop, hstop⟩

/-- A controller at a fixed address with an entry that is attached to it before it is registered, a
free entry, and another attached one. -/
def controllerMap : AddressMap where
  autoRegion := defaultRegion
  requests := [
    ("ep_in", .ofSize 0x30 none (.attached "usb") (by decide)),
    ("usb", .ofSize 0x14 (some 0x1000) (.fixed 0xf0000000) (by decide)),
    ("uart", .ofSize 0x30 none .auto (by decide)),
    ("ep_out", .ofSize 0x1f0 none (.attached "usb") (by decide))]
  names_nodup := by decide

theorem allocate_controllerMap : controllerMap.allocate.outcome = .ok ⟨[
    ("ep_in", ⟨0xf0000100, 0x100, 0x100, some "usb"⟩),
    ("usb", ⟨0xf0000000, 0x100, 0x1000, none⟩),
    ("uart", ⟨0xf0001000, 0x100, 0x100, none⟩),
    ("ep_out", ⟨0xf0000200, 0x200, 0x200, some "usb"⟩)]⟩ := by cbv

theorem sound_controllerMap : ∃ a : Allocation, controllerMap.allocate.outcome = .ok a ∧
    a.get? "ep_out" = some ⟨0xf0000200, 0x200, 0x200, some "usb"⟩ ∧ a.Sound controllerMap :=
  ⟨_, allocate_controllerMap, by decide, sound_of_allocate allocate_controllerMap⟩

end AddressMap

end SocAssembly
