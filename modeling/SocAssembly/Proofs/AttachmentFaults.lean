import Mathlib
import SocAssembly.Proofs.Appending

/-!
# Attached requests that find no place

Whether an attached request can be placed depends on the requests only, not on where the windows
are: its parent has to be registered, must not be attached itself, and keeps enough bytes free for
itself, for the children registered before and for this one (`AttachFault`). The pass goes through
the children of all parents in one loop, but a parent sees its own children alone
(`Layout.Carved.freeIn_eq`), so the running total of one parent is a sum over its children
(`Layout.Carved.placeAttached_eq_error_iff`). From this follow when the pass succeeds
(`AddressMap.exists_allocation_iff`), and on which request it fails otherwise.
-/

namespace SocAssembly

/-- The error that names what is wrong with an attached request, with a list of requests before
it. -/
inductive AttachFault (m : AddressMap) (before : List (String × Request)) :
    String × Request → Error → Prop where
  /-- The parent does not exist. -/
  | unknown {name parent : String} {r : Request} (attached : r.placement = .attached parent)
      (missing : m.request? parent = none) :
      AttachFault m before (name, r) (.unknownParent name parent)
  /-- The parent is attached itself. -/
  | nested {name parent : String} {r p : Request} (attached : r.placement = .attached parent)
      (registered : m.request? parent = some p) (deep : p.placement.isAttached = true) :
      AttachFault m before (name, r) (.nestedAttachment name parent)
  /-- The parent and its children before leave too little of what the parent keeps free. -/
  | exhausted {name parent : String} {r p : Request} (attached : r.placement = .attached parent)
      (registered : m.request? parent = some p) (level : p.placement.isAttached = false)
      (full : p.reserve < p.size + totalSize (attachedTo parent before) + r.size) :
      AttachFault m before (name, r) (.parentWindowExhausted name parent p.reserve)

namespace Layout

/-- A request that is not attached has a window after the first two passes. -/
theorem Holds.exists_window_of_request? {m : AddressMap} {top : Layout}
    (h : top.Holds m.limit m.topRequests) {name : String} {r : Request}
    (hr : m.request? name = some r) (level : r.placement.isAttached = false) :
    ∃ w, top.windows.lookup name = some w ∧ r.Granted m.limit w :=
  h.exists_window m.nodup_topRequests
    (AddressMap.mem_topRequests.2 ⟨m.request?_eq_some_iff.1 hr, level⟩)

namespace Carved

variable {m : AddressMap} {top l : Layout} {done : List (String × Request)}

/-- What happens to a request whose parent can have children. -/
theorem exists_outcome_placeAttached (holds : top.Holds m.limit m.topRequests)
    (h : Carved top done l) (name : String) {parent : String} {r p : Request}
    (hr : r.placement = .attached parent) (hp : m.request? parent = some p)
    (level : p.placement.isAttached = false) :
    ∃ base, (placeAttached m l (name, r)).outcome =
      if p.reserve < p.size + totalSize (attachedTo parent done) + r.size then
        .error (.parentWindowExhausted name parent p.reserve)
      else .ok (l.attach name parent r base) := by
  obtain ⟨w, hw, granted⟩ := holds.exists_window_of_request? hp level
  have full_iff : w.base + p.reserve < freeIn l.windows parent w + r.size ↔
      p.reserve < p.size + totalSize (attachedTo parent done) + r.size := by
    rw [h.freeIn_eq holds.hosts hw, granted.size_eq]
    omega
  refine ⟨freeIn l.windows parent w, ?_⟩
  rw [outcome_placeAttached m l hr, hp]
  simp only [level, Bool.false_eq_true, if_false, h.lookup hw, granted.reserved_eq, full_iff]

/-- A step fails for the fault of its request, with the requests before it. -/
theorem placeAttached_eq_error_iff (holds : top.Holds m.limit m.topRequests)
    (h : Carved top done l) {x : String × Request} {e : Error} :
    (placeAttached m l x).outcome = .error e ↔ AttachFault m done x e := by
  obtain ⟨name, r⟩ := x
  constructor
  · intro failed
    cases hx : r.placement.isAttached with
    | false =>
      rw [placeAttached_of_not_attached m l hx] at failed
      cases failed
    | true =>
      obtain ⟨parent, hr⟩ := Placement.isAttached_iff.1 hx
      cases hp : m.request? parent with
      | none =>
        rw [outcome_placeAttached m l hr, hp] at failed
        cases failed
        exact .unknown hr hp
      | some p =>
        cases level : p.placement.isAttached with
        | true =>
          simp only [outcome_placeAttached m l hr, hp, level, if_true] at failed
          cases failed
          exact .nested hr hp level
        | false =>
          obtain ⟨base, outcome⟩ := h.exists_outcome_placeAttached holds name hr hp level
          rw [outcome] at failed
          split at failed
          · rename_i full
            cases failed
            exact .exhausted hr hp level full
          · cases failed
  · intro fault
    cases fault with
    | unknown attached missing => rw [outcome_placeAttached m l attached, missing]
    | nested attached registered deep =>
      simp only [outcome_placeAttached m l attached, registered, deep, if_true]
    | exhausted attached registered level full =>
      obtain ⟨base, outcome⟩ :=
        h.exists_outcome_placeAttached holds _ attached registered level
      rw [outcome, if_pos full]

end Carved

end Layout

namespace AddressMap

variable {m : AddressMap} {fixed top : Layout}

/-- Once the other requests are placed, the pass for attached ones decides. -/
theorem outcome_allocate_of_passes
    (hfixed : (m.requests.foldlM Layout.placeFixed {}).outcome = .ok fixed)
    (htop : (m.requests.foldlM (Layout.placeAuto m.autoRegion) fixed).outcome = .ok top) :
    m.allocate.outcome = (m.requests.foldlM (Layout.placeAttached m) top).outcome.map fun full =>
      ⟨m.names.filterMap fun name => (full.windows.lookup name).map (name, ·)⟩ := by
  unfold allocate
  rw [Report.outcome_bind, hfixed, Except.bind, Report.outcome_bind, htop, Except.bind,
    Report.outcome_bind]
  rfl

/-- If everything else finds its place, the allocation succeeds exactly if every attached request is
attached to one that is not, and every request keeps enough free for its children. -/
theorem exists_allocation_iff
    (hfixed : (m.requests.foldlM Layout.placeFixed {}).outcome = .ok fixed)
    (htop : (m.requests.foldlM (Layout.placeAuto m.autoRegion) fixed).outcome = .ok top) :
    (∃ a, m.allocate.outcome = .ok a) ↔
      (∀ x ∈ m.requests, ∀ parent, x.2.placement = .attached parent →
        ∃ p, m.request? parent = some p ∧ p.placement.isAttached = false) ∧
      ∀ parent p, m.request? parent = some p →
        p.size + totalSize (m.children parent) ≤ p.reserve := by
  have holds := holds_of_passes hfixed htop
  have pass : (∃ a, m.allocate.outcome = .ok a) ↔
      ∃ full, (m.requests.foldlM (Layout.placeAttached m) top).outcome = .ok full := by
    rw [outcome_allocate_of_passes hfixed htop]
    cases (m.requests.foldlM (Layout.placeAttached m) top).outcome <;> simp [Except.map]
  rw [pass, Layout.attachedPass_isOk_iff holds.hosts (.nil holds.hosts), List.nil_append]
  constructor
  · intro fits
    have hosted : ∀ x ∈ m.requests, ∀ parent, x.2.placement = .attached parent →
        m.children parent ≠ [] := fun x hx parent attached =>
      List.ne_nil_of_mem (mem_children.2 ⟨hx, attached⟩)
    refine ⟨fun x hx parent attached => ?_, fun parent p hp => ?_⟩
    · obtain ⟨w, hw, -⟩ := fits parent (hosted x hx parent attached)
      exact (holds.hosts.known parent).1 ⟨w, hw⟩
    · by_cases none : m.children parent = []
      · rw [none, totalSize_nil]
        exact p.size_le_reserve
      · obtain ⟨w, hw, room⟩ := fits parent none
        obtain ⟨q, hq, level⟩ := (holds.hosts.known parent).1 ⟨w, hw⟩
        obtain rfl := Option.some.inj (hp.symm.trans hq)
        obtain ⟨v, hv, granted⟩ := holds.exists_window_of_request? hp level
        obtain rfl := Option.some.inj (hw.symm.trans hv)
        rwa [granted.size_eq, granted.reserved_eq] at room
  · rintro ⟨registered, room⟩ parent some
    obtain ⟨x, hx⟩ := List.exists_mem_of_ne_nil _ some
    obtain ⟨mem, attached⟩ := mem_children.1 hx
    obtain ⟨p, hp, level⟩ := registered x mem parent attached
    obtain ⟨w, hw, granted⟩ := holds.exists_window_of_request? hp level
    refine ⟨w, hw, ?_⟩
    rw [granted.size_eq, granted.reserved_eq]
    exact room parent p hp

/-- A child lies behind the bytes of its parent and of the children before it. -/
theorem exists_windows_of_children {a : Allocation} (ok : m.allocate.outcome = .ok a)
    {name parent : String} {r : Request} {before rest : List (String × Request)}
    (split : m.children parent = before ++ (name, r) :: rest) :
    ∃ p w, m.request? parent = some p ∧ a.get? parent = some w ∧ w.size = p.size ∧
      a.get? name = some ⟨w.base + p.size + totalSize before, r.size, r.size, some parent⟩ := by
  obtain ⟨top, full, settled⟩ := exists_settled ok
  obtain ⟨w, hparent, htop, hget⟩ := settled.get?_of_attached split
  obtain ⟨p, hp, level⟩ := (settled.holds.hosts.known parent).1 ⟨w, htop⟩
  obtain ⟨v, hv, granted⟩ := settled.holds.exists_window_of_request? hp level
  obtain rfl := Option.some.inj (htop.symm.trans hv)
  exact ⟨p, w, hp, hparent, granted.size_eq, granted.size_eq ▸ hget⟩

/-- What becomes of the attached requests of a map in which everything else finds its place. -/
structure AttachesInTurn (m : AddressMap) : Prop where
  /-- They are placed exactly if each is attached to a request that is not, and every request keeps
  enough free for its children. -/
  succeeds_iff : (∃ a, m.allocate.outcome = .ok a) ↔
    (∀ x ∈ m.requests, ∀ parent, x.2.placement = .attached parent →
      ∃ p, m.request? parent = some p ∧ p.placement.isAttached = false) ∧
    ∀ parent p, m.request? parent = some p → p.size + totalSize (m.children parent) ≤ p.reserve
  /-- A child then lies behind the bytes of its parent and of the children of the same parent that
  were registered before it, without a gap. -/
  tiled : ∀ a, m.allocate.outcome = .ok a → ∀ parent before name r rest,
    m.children parent = before ++ (name, r) :: rest →
    ∃ p w, m.request? parent = some p ∧ a.get? parent = some w ∧ w.size = p.size ∧
      a.get? name = some ⟨w.base + p.size + totalSize before, r.size, r.size, some parent⟩
  /-- Otherwise the first attached request that finds no place is blamed, and for the reason that it
  finds none. -/
  refused_iff : ∀ e, m.allocate.outcome = .error e ↔ FirstFault (AttachFault m) m.requests e

/-- Two controllers with endpoints in turns, one of them registered before its parent. -/
def twinControllers : AddressMap where
  autoRegion := defaultRegion
  requests := [
    ("ep_in0", .ofSize 0x2c none (.attached "usb0") (by decide)),
    ("usb1", .ofSize 0x1c (some 0x1000) .auto (by decide)),
    ("usb0", .ofSize 0x1c (some 0x1000) (.fixed 0xf0000000) (by decide)),
    ("ep_in1", .ofSize 0x2c none (.attached "usb1") (by decide)),
    ("ep_out0", .ofSize 0xe00 none (.attached "usb0") (by decide)),
    ("ep_out1", .ofSize 0x180 none (.attached "usb1") (by decide))]
  names_nodup := by decide

/-- The window of one controller is full to the last byte, and that of the other has room. -/
example : (twinControllers.allocate.outcome.toOption.bind (·.get? "ep_out0"),
      twinControllers.allocate.outcome.toOption.bind (·.get? "ep_out1")) =
    (some ⟨0xf0000200, 0xe00, 0xe00, some "usb0"⟩,
      some ⟨0xf0001200, 0x200, 0x200, some "usb1"⟩) := by cbv

end AddressMap

end SocAssembly
