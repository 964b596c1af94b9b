import Mathlib
import SocAssembly.Proofs.Allocation

/-!
# What the order of registration decides

Two maps are `Reordered` if they have the same region and the same requests under the same names,
and the automatic requests as well as the requests attached to any one entry come in the same order
in both. Then they are allocated alike: the order of the fixed requests does not count because the
fixed pass accepts the blocks as a set and lists them by address; the automatic pass goes through
the same requests over the same blocks; and what is cut from one parent depends on that parent and
on the requests attached to it alone.
-/

namespace SocAssembly

/-! ### Layouts that are alike -/

namespace Layout

/-- The layouts have the same blocks, and the same window under every name. -/
structure Alike (l l' : Layout) : Prop where
  /-- The blocks are the same. -/
  blocks_eq : l.blocks = l'.blocks
  /-- The windows are the same, in whatever order they were placed. -/
  lookup_eq : ∀ name, l.windows.lookup name = l'.windows.lookup name

/-- Placing the same request at the same address keeps layouts alike. -/
theorem Alike.place {l l' : Layout} (h : Alike l l') (name : String) (r : Request) (base : Nat) :
    Alike (l.place name r base) (l'.place name r base) := by
  refine ⟨congrArg (insertBlock _) h.blocks_eq, fun other => ?_⟩
  simp only [Layout.place, List.lookup_append, h.lookup_eq other]

/-- The automatic pass looks at the blocks only. -/
theorem Alike.autoPass {region : Span} {l l' t : Layout} (h : Alike l l')
    (ordered : Ordered l.blocks) (todo : List (String × Request))
    (ok : (todo.foldlM (placeAuto region) l).outcome = .ok t) :
    ∃ t', (todo.foldlM (placeAuto region) l').outcome = .ok t' ∧ Alike t t' := by
  induction todo generalizing l l' with
  | nil =>
    rw [Report.foldlM_nil_eq_ok_iff] at ok
    exact ⟨l', rfl, ok ▸ h⟩
  | cons x rest ih =>
    obtain ⟨u, hu, ok⟩ := Report.foldlM_cons_eq_ok_iff.1 ok
    cases hx : x.2.placement.isAuto with
    | false =>
      rw [placeAuto_of_not_auto region l hx, Report.pure_eq_ok_iff] at hu
      subst hu
      obtain ⟨t', ht', alike⟩ := ih h ordered ok
      refine ⟨t', Report.foldlM_cons_eq_ok_iff.2 ⟨l', ?_, ht'⟩, alike⟩
      rw [placeAuto_of_not_auto region l' hx, Report.outcome_pure]
    | true =>
      obtain ⟨name, r⟩ := x
      have hr : r.placement = .auto := Placement.isAuto_iff.1 hx
      obtain ⟨base, serves, least, rfl⟩ := (placeAuto_eq_ok_iff ordered hr).1 hu
      have ordered' : Ordered (l.place name r base).blocks :=
        ordered.insertBlock (Nat.lt_add_of_pos_right r.reserve_pos) serves.free
      obtain ⟨t', ht', alike⟩ := ih (h.place name r base) ordered' ok
      have hu' : (placeAuto region l' (name, r)).outcome = .ok (l'.place name r base) := by
        rw [h.blocks_eq] at ordered serves least
        exact (placeAuto_eq_ok_iff ordered hr).2 ⟨base, serves, least, rfl⟩
      exact ⟨t', Report.foldlM_cons_eq_ok_iff.2 ⟨_, hu', ht'⟩, alike⟩

/-- A fixed request decides its window. -/
theorem Holds.lookup_of_fixed {limit : Nat} {placed placed' : List (String × Request)}
    {l l' : Layout} (h : l.Holds limit placed) (h' : l'.Holds limit placed')
    (nodup' : (placed'.map Prod.fst).Nodup) (sub : ∀ x ∈ placed, x ∈ placed')
    (fixed : ∀ x ∈ placed, x.2.placement.isFixed = true) {name : String} {w : Window}
    (hw : l.windows.lookup name = some w) : l'.windows.lookup name = some w := by
  obtain ⟨r, hr, granted⟩ := h.exists_request (mem_of_lookup hw)
  obtain ⟨w', hw', granted'⟩ := h'.exists_window nodup' (sub _ hr)
  obtain ⟨base, hbase⟩ := Placement.isFixed_iff.1 (fixed _ hr)
  have same := (granted'.base_eq base hbase).trans (granted.base_eq base hbase).symm
  rw [hw', granted'.eq_of_base granted same]

/-- Layouts of the same fixed requests are alike, in whatever order the requests were placed. -/
theorem Holds.alike_of_perm {limit : Nat} {placed placed' : List (String × Request)}
    {l l' : Layout} (h : l.Holds limit placed) (h' : l'.Holds limit placed')
    (perm : placed.Perm placed') (nodup : (placed.map Prod.fst).Nodup)
    (fixed : ∀ x ∈ placed, x.2.placement.isFixed = true) : Alike l l' := by
  have nodup' : (placed'.map Prod.fst).Nodup := (perm.map Prod.fst).nodup_iff.1 nodup
  have fixed' : ∀ x ∈ placed', x.2.placement.isFixed = true := fun x hx =>
    fixed x (perm.mem_iff.2 hx)
  have lookup_eq : ∀ name, l.windows.lookup name = l'.windows.lookup name := fun name =>
    Option.ext fun w =>
      ⟨fun hw => h.lookup_of_fixed h' nodup' (fun x hx => perm.mem_iff.1 hx) fixed hw,
        fun hw => h'.lookup_of_fixed h nodup (fun x hx => perm.mem_iff.2 hx) fixed' hw⟩
  have windows := perm_of_lookup_eq (h.nodup nodup) (h'.nodup nodup') lookup_eq
  have blocks := h.perm.trans ((windows.map reservedBlock).trans h'.perm.symm)
  exact ⟨h.ordered.eq_of_perm h'.ordered blocks, lookup_eq⟩

end Layout

/-! ### Maps that differ in the order of registration -/

namespace AddressMap

/-- The maps have the same region and the same request under every name, with the automatic
requests and the requests attached to any one entry in the same order. -/
structure Reordered (m m' : AddressMap) : Prop where
  /-- The automatic region is the same. -/
  region_eq : m.autoRegion = m'.autoRegion
  /-- The same request stands under every name. -/
  request?_eq : ∀ name, m.request? name = m'.request? name
  /-- The automatic requests come in the same order. -/
  auto_eq : m.autoRequests.map Prod.fst = m'.autoRequests.map Prod.fst
  /-- The requests attached to an entry come in the same order. -/
  children_eq : ∀ parent, (m.children parent).map Prod.fst = (m'.children parent).map Prod.fst

namespace Reordered

variable {m m' : AddressMap}

theorem symm (h : m.Reordered m') : m'.Reordered m :=
  ⟨h.region_eq.symm, fun name => (h.request?_eq name).symm, h.auto_eq.symm,
    fun parent => (h.children_eq parent).symm⟩

theorem perm (h : m.Reordered m') : m.requests.Perm m'.requests :=
  perm_of_lookup_eq m.names_nodup m'.names_nodup h.request?_eq

theorem eq_of_mem (h : m.Reordered m') {x y : String × Request} (hx : x ∈ m.requests)
    (hy : y ∈ m'.requests) (same : x.1 = y.1) : x = y :=
  List.inj_on_of_nodup_map m'.names_nodup (h.perm.mem_iff.1 hx) hy same

theorem autoRequests_eq (h : m.Reordered m') : m.autoRequests = m'.autoRequests :=
  eq_of_names_eq h.auto_eq fun _ hx _ hy same =>
    h.eq_of_mem (List.mem_filter.1 hx).1 (List.mem_filter.1 hy).1 same

theorem childRequests_eq (h : m.Reordered m') (parent : String) :
    m.children parent = m'.children parent :=
  eq_of_names_eq (h.children_eq parent) fun _ hx _ hy same =>
    h.eq_of_mem (mem_children.1 hx).1 (mem_children.1 hy).1 same

/-- The fixed pass accepts both maps or none, and makes of them layouts that are alike. -/
theorem fixedPass (h : m.Reordered m') {l : Layout}
    (ok : (m.requests.foldlM Layout.placeFixed {}).outcome = .ok l) :
    ∃ l', (m'.requests.foldlM Layout.placeFixed {}).outcome = .ok l' ∧ l.Alike l' := by
  have blocks := h.perm.filterMap Layout.fixedBlock?
  obtain ⟨each, pairwise⟩ :=
    (Layout.fixedPass_isOk_iff Layout.Ordered.nil m.requests).1 ⟨l, ok⟩
  obtain ⟨l', ok'⟩ := (Layout.fixedPass_isOk_iff Layout.Ordered.nil m'.requests).2
    ⟨fun b hb => each b (blocks.mem_iff.2 hb),
      (blocks.pairwise_iff fun apart => apart.symm).1 pairwise⟩
  have holds := (Layout.Holds.nil addressSpaceEnd).fixedPass le_rfl ok
  have holds' := (Layout.Holds.nil addressSpaceEnd).fixedPass le_rfl ok'
  refine ⟨l', ok', holds.alike_of_perm holds' ?_ ?_ ?_⟩
  · exact (h.perm.filter _).append_left []
  · exact m.names_nodup.sublist (List.filter_sublist.map Prod.fst)
  · exact fun x hx => (List.mem_filter.1 hx).2

/-- The first two passes make of both maps layouts that are alike. -/
theorem topPasses (h : m.Reordered m') {fixed top : Layout}
    (hfixed : (m.requests.foldlM Layout.placeFixed {}).outcome = .ok fixed)
    (htop : (m.requests.foldlM (Layout.placeAuto m.autoRegion) fixed).outcome = .ok top) :
    ∃ fixed' top', (m'.requests.foldlM Layout.placeFixed {}).outcome = .ok fixed' ∧
      (m'.requests.foldlM (Layout.placeAuto m'.autoRegion) fixed').outcome = .ok top' ∧
      top.Alike top' := by
  obtain ⟨fixed', hfixed', alike⟩ := h.fixedPass hfixed
  have holds := (Layout.Holds.nil addressSpaceEnd).fixedPass le_rfl hfixed
  -- only the automatic requests count for the second pass, and they are the same list
  rw [autoPass_eq, h.autoRequests_eq, h.region_eq] at htop
  obtain ⟨top', htop', alike'⟩ := alike.autoPass holds.ordered _ htop
  rw [← autoPass_eq] at htop'
  exact ⟨fixed', top', hfixed', htop', alike'⟩

/-- Over layouts that are alike the attached requests are placed alike. -/
theorem get?_eq (h : m.Reordered m') {a a' : Allocation} {top full top' full' : Layout}
    (settled : m.Settled a top full) (settled' : m'.Settled a' top' full')
    (alike : top.Alike top') (name : String) : a.get? name = a'.get? name := by
  cases hr : m.request? name with
  | none =>
    rw [settled.get?_eq_none hr, settled'.get?_eq_none (h.request?_eq name ▸ hr)]
  | some r =>
    have mem := m.request?_eq_some_iff.1 hr
    cases hattached : r.placement.isAttached with
    | false =>
      obtain ⟨w, hw, htop, -⟩ := settled.get?_of_top mem hattached
      obtain ⟨w', hw', htop', -⟩ := settled'.get?_of_top (h.perm.mem_iff.1 mem) hattached
      rw [hw, hw', ← htop, ← htop', alike.lookup_eq]
    | true =>
      obtain ⟨parent, hparent⟩ := Placement.isAttached_iff.1 hattached
      have child : (name, r) ∈ m.children parent := mem_children.2 ⟨mem, hparent⟩
      obtain ⟨before, rest, hsplit⟩ := List.append_of_mem child
      obtain ⟨w, -, htop, hget⟩ := settled.get?_of_attached hsplit
      rw [h.childRequests_eq parent] at hsplit
      obtain ⟨w', -, htop', hget'⟩ := settled'.get?_of_attached hsplit
      rw [← alike.lookup_eq, htop, Option.some.injEq] at htop'
      rw [hget, hget', htop']

/-- If one map is allocated, so is the other, with the same windows. -/
theorem allocate_ok (h : m.Reordered m') {a : Allocation} (ok : m.allocate.outcome = .ok a) :
    ∃ a', m'.allocate.outcome = .ok a' ∧ ∀ name, a.get? name = a'.get? name := by
  obtain ⟨fixed, top, full, hfixed, htop, hfull, rfl⟩ := allocate_eq_ok_iff.1 ok
  have settled := settled_of_passes hfixed htop hfull
  obtain ⟨fixed', top', hfixed', htop', alike⟩ := h.topPasses hfixed htop
  have hosts' := (holds_of_passes hfixed' htop').hosts
  obtain ⟨full', hfull'⟩ := (Layout.attachedPass_isOk_iff hosts' (.nil hosts') m'.requests).2
    fun parent some => by
      obtain ⟨w, hw, fits⟩ := settled.fits parent (by rw [h.childRequests_eq parent]; exact some)
      rw [h.childRequests_eq parent] at fits
      exact ⟨w, by rw [← alike.lookup_eq]; exact hw, fits⟩
  have settled' := settled_of_passes hfixed' htop' hfull'
  exact ⟨_, allocate_eq_ok_iff.2 ⟨fixed', top', full', hfixed', htop', hfull', rfl⟩,
    h.get?_eq settled settled' alike⟩

end Reordered

theorem against_passes_perm (m : AddressMap) :
    (m.requests.filter (·.2.placement.isAttached) ++ (m.autoRequests ++ m.fixedRequests)).Perm
      m.requests :=
  (List.perm_append_comm.append_left _).trans
    (List.perm_append_comm.trans m.topRequests_append_perm)

/-- The requests against the order of the passes: attached ones first, fixed ones last. -/
def attachedFirst (m : AddressMap) : AddressMap where
  autoRegion := m.autoRegion
  requests := m.requests.filter (·.2.placement.isAttached) ++ (m.autoRequests ++ m.fixedRequests)
  names_nodup := (m.against_passes_perm.map Prod.fst).nodup_iff.2 m.names_nodup

/-- Entries can be registered against the order of the passes: attached ones before what they are
attached to, fixed ones after all others. -/
theorem reordered_attachedFirst (m : AddressMap) : m.Reordered m.attachedFirst where
  region_eq := rfl
  request?_eq := lookup_eq_of_perm m.names_nodup m.against_passes_perm.symm
  auto_eq := by
    have hattached : ∀ x : String × Request,
        (x.2.placement.isAuto && x.2.placement.isAttached) = false := fun x => by
      cases x.2.placement <;> rfl
    have hfixed : ∀ x : String × Request,
        (x.2.placement.isAuto && x.2.placement.isFixed) = false := fun x => by
      cases x.2.placement <;> rfl
    unfold attachedFirst autoRequests fixedRequests
    simp only [List.filter_append, List.filter_filter, hattached, hfixed, Bool.and_self,
      List.filter_false, List.nil_append, List.append_nil]
  children_eq parent := by
    have hattached : ∀ x : String × Request, (decide (x.2.placement = .attached parent) &&
        x.2.placement.isAttached) = decide (x.2.placement = .attached parent) := fun x => by
      cases x.2.placement <;> simp [Placement.isAttached]
    have hauto : ∀ x : String × Request, (decide (x.2.placement = .attached parent) &&
        x.2.placement.isAuto) = false := fun x => by
      cases x.2.placement <;> simp [Placement.isAuto]
    have hfixed : ∀ x : String × Request, (decide (x.2.placement = .attached parent) &&
        x.2.placement.isFixed) = false := fun x => by
      cases x.2.placement <;> simp [Placement.isFixed]
    unfold children attachedTo attachedFirst autoRequests fixedRequests
    simp only [List.filter_append, List.filter_filter, hattached, hauto, hfixed,
      List.filter_false, List.append_nil]

end AddressMap

end SocAssembly
