import Mathlib
import SocAssembly.Proofs.AttachmentFaults
import SocAssembly.Proofs.PlannedParts

/-!
# Controllers and their endpoints

Nothing in a description says which peripherals can have others attached to them. It follows from
what the kinds ask of the bus: a controller has the smallest window and keeps a page free, so that
fifteen more of the smallest windows fit behind its own, and every peripheral has the smallest
window; everything else is full by itself. So a described system can be placed, as far as
attachments are concerned, exactly if everything is attached to a controller at the top level and no
controller has more than fifteen endpoints (`Soc.exists_allocation_iff_attachable`), and the
endpoints of a controller follow it one window after the other (`Soc.get?_of_endpoints`).
-/

namespace SocAssembly

namespace Descriptor

/-- The peripherals that are attached to an entry, in the order of the description. -/
def endpoints (d : Descriptor) (parent : String) : List PeripheralPlan :=
  d.peripherals.filter (·.parent = some parent)

theorem mem_endpoints {d : Descriptor} {parent : String} {q : PeripheralPlan} :
    q ∈ d.endpoints parent ↔ q ∈ d.peripherals ∧ q.parent = some parent := by
  simp [endpoints]

/-- Everything is attached to a controller that can take it. -/
structure Attachable (d : Descriptor) : Prop where
  /-- What a peripheral is attached to is a controller that is not attached itself. -/
  hosted : ∀ q ∈ d.peripherals, ∀ parent, q.parent = some parent →
    ∃ c ∈ d.peripherals, c.name = parent ∧ c.kind = .usbDeviceController ∧ c.parent = none
  /-- No controller has more than fifteen endpoints. -/
  few : ∀ c ∈ d.peripherals, c.kind = .usbDeviceController → (d.endpoints c.name).length ≤ 15

/-- Why a peripheral cannot be attached to an entry of the description. -/
inductive Unfit (d : Descriptor) (q : PeripheralPlan) : String → Prop where
  /-- It is the peripheral itself. -/
  | itself : Unfit d q q.name
  /-- It is a memory. -/
  | memory {m : MemoryPlan} (mem : m ∈ d.memories) : Unfit d q m.memory.name
  /-- It is a peripheral of another kind than a controller. -/
  | kind {c : PeripheralPlan} (mem : c ∈ d.peripherals) (other : c.kind ≠ .usbDeviceController) :
      Unfit d q c.name
  /-- It is attached itself. -/
  | nested {c : PeripheralPlan} (mem : c ∈ d.peripherals) (deep : c.parent ≠ none) :
      Unfit d q c.name

end Descriptor

namespace Soc

variable {d : Descriptor} {s : Soc}

/-! ### Requests of a described system -/

/-- A request is that of a memory of the description, or of a peripheral. -/
theorem exists_plan_of_request (described : ofDescriptor d = .ok s) {name : String} {r : Request}
    (hr : s.addressMap.request? name = some r) :
    ∃ part ∈ s.parts, part.name = name ∧ part.request = r ∧
      ((∃ m ∈ d.memories, m.Makes part) ∨ ∃ q ∈ d.peripherals, q.Makes part) := by
  obtain ⟨part, hpart, same⟩ := List.mem_map.1 (s.addressMap.request?_eq_some_iff.1 hr)
  obtain ⟨name_eq, request_eq⟩ := Prod.mk.inj same
  refine ⟨part, hpart, name_eq, request_eq, ?_⟩
  obtain ⟨memories, peripherals, parts, mmatch, pmatch⟩ := exists_parts_of_ofDescriptor described
  rw [parts] at hpart
  rcases List.mem_append.1 hpart with hpart | hpart
  · exact Or.inl (exists_of_forall₂ mmatch hpart)
  · exact Or.inr (exists_of_forall₂ pmatch hpart)

/-- A peripheral of the description has a part. -/
theorem exists_part_of_plan (described : ofDescriptor d = .ok s) {q : PeripheralPlan}
    (hq : q ∈ d.peripherals) : ∃ part ∈ s.parts, q.Makes part ∧
      s.addressMap.request? q.name = some part.request := by
  obtain ⟨memories, peripherals, parts, -, pmatch⟩ := exists_parts_of_ofDescriptor described
  obtain ⟨part, hpart, made⟩ := exists_of_forall₂ pmatch.flip hq
  have mem : part ∈ s.parts := parts ▸ List.mem_append_right _ hpart
  refine ⟨part, mem, made, ?_⟩
  rw [AddressMap.request?_eq_some_iff, ← made.name_eq]
  exact List.mem_map_of_mem mem

/-- The names of what is attached stand in the order of the description. -/
theorem map_fst_children (described : ofDescriptor d = .ok s) (parent : String) :
    (s.addressMap.children parent).map Prod.fst = (d.endpoints parent).map (·.name) := by
  obtain ⟨memories, peripherals, parts, mmatch, pmatch⟩ := exists_parts_of_ofDescriptor described
  have quiet : memories.filter (fun part => part.request.placement = .attached parent) = [] := by
    refine List.filter_eq_nil_iff.2 fun part hpart => ?_
    obtain ⟨m, -, made⟩ := exists_of_forall₂ mmatch hpart
    have free := made.isAttached_eq
    intro attached
    rw [of_decide_eq_true attached] at free
    cases free
  have endpoints : (d.endpoints parent).Forall₂ PeripheralPlan.Makes
      (peripherals.filter fun part => part.request.placement = .attached parent) := by
    refine List.rel_filter (fun q part made => ?_) pmatch
    show decide (q.parent = some parent) = true ↔
      decide (part.request.placement = .attached parent) = true
    rw [decide_eq_true_iff, decide_eq_true_iff, made.placement_eq_attached_iff]
  rw [map_eq_of_forall₂ (fun q part made => made.name_eq.symm) endpoints, AddressMap.children,
    attachedTo, addressMap, List.filter_map, List.map_map, parts, List.filter_append]
  simp only [Function.comp_def, quiet, List.nil_append]

theorem length_children (described : ofDescriptor d = .ok s) (parent : String) :
    (s.addressMap.children parent).length = (d.endpoints parent).length := by
  rw [← List.length_map, map_fst_children described, List.length_map]

/-- What is attached is an endpoint of the description, as a description attaches no memory. -/
theorem exists_endpoint_of_attached (described : ofDescriptor d = .ok s) {x : String × Request}
    {parent : String} (hx : x ∈ s.addressMap.requests)
    (attached : x.2.placement = .attached parent) :
    ∃ q ∈ d.endpoints parent, ∃ part, q.Makes part ∧ part.request = x.2 := by
  obtain ⟨part, -, -, request, ⟨m, -, made⟩ | ⟨q, hq, made⟩⟩ :=
    exists_plan_of_request described (s.addressMap.request?_eq_some_iff.2 hx)
  · have free := made.isAttached_eq
    rw [request, attached] at free
    cases free
  · refine ⟨q, Descriptor.mem_endpoints.2 ⟨hq, ?_⟩, part, made, request⟩
    rw [← made.placement_eq_attached_iff, request, attached]

/-- Everything that is attached has the smallest window. -/
theorem size_of_mem_children (described : ofDescriptor d = .ok s) {parent : String}
    {x : String × Request} (hx : x ∈ s.addressMap.children parent) : x.2.size = packed := by
  obtain ⟨mem, attached⟩ := AddressMap.mem_children.1 hx
  obtain ⟨q, -, part, made, request⟩ := exists_endpoint_of_attached described mem attached
  rw [← request, made.size_eq]

/-- An endpoint of an attachable description has a controller with a request of its own. -/
theorem exists_controller_of_endpoint (described : ofDescriptor d = .ok s)
    (attachable : d.Attachable) {parent : String} {q : PeripheralPlan}
    (hq : q ∈ d.endpoints parent) : ∃ c ∈ d.peripherals, ∃ part, c.name = parent ∧
      c.kind = .usbDeviceController ∧ c.Makes part ∧
      part.request.placement.isAttached = false ∧
      s.addressMap.request? parent = some part.request := by
  obtain ⟨mem, attached⟩ := Descriptor.mem_endpoints.1 hq
  obtain ⟨c, hc, rfl, controller, level⟩ := attachable.hosted q mem parent attached
  obtain ⟨part, -, made, hr⟩ := exists_part_of_plan described hc
  exact ⟨c, hc, part, rfl, controller, made, made.isAttached_eq_false_iff.2 level, hr⟩

/-! ### Room for the smallest windows -/

/-- Requests of the smallest window take it as often as there are requests. -/
theorem totalSize_of_packed {xs : List (String × Request)} (h : ∀ x ∈ xs, x.2.size = packed) :
    totalSize xs = packed * xs.length := by
  induction xs with
  | nil => rfl
  | cons x rest ih =>
    rw [List.forall_mem_cons] at h
    rw [totalSize_cons, h.1, ih h.2, List.length_cons, Nat.mul_succ, Nat.add_comm]

theorem totalSize_children (described : ofDescriptor d = .ok s) (parent : String) :
    totalSize (s.addressMap.children parent) = packed * (d.endpoints parent).length := by
  rw [totalSize_of_packed fun x hx => size_of_mem_children described hx, length_children described]

/-- Nothing fits behind a memory. -/
theorem room_of_memory {m : MemoryPlan} {part : Part} (made : m.Makes part) {n : Nat} :
    part.request.size + packed * n ≤ part.request.reserve ↔ n = 0 := by
  rw [made.reserve_eq]
  unfold packed
  omega

/-- Fifteen of the smallest windows fit behind a controller, and none behind anything else. -/
theorem room_of_peripheral {q : PeripheralPlan} {part : Part} (made : q.Makes part) {n : Nat} :
    part.request.size + packed * n ≤ part.request.reserve ↔
      if q.kind = .usbDeviceController then n ≤ 15 else n = 0 := by
  rw [made.reserve_eq, made.size_eq]
  unfold packed page
  split <;> omega

/-! ### Attachments of a described system -/

/-- Where there is room for what is attached, there is a controller. -/
theorem attachable_of_room (described : ofDescriptor d = .ok s)
    (registered : ∀ x ∈ s.addressMap.requests, ∀ parent, x.2.placement = .attached parent →
      ∃ p, s.addressMap.request? parent = some p ∧ p.placement.isAttached = false)
    (room : ∀ parent p, s.addressMap.request? parent = some p →
      p.size + packed * (d.endpoints parent).length ≤ p.reserve) : d.Attachable := by
  refine ⟨fun q hq parent attached => ?_, fun c hc controller => ?_⟩
  · obtain ⟨part, -, made, hr⟩ := exists_part_of_plan described hq
    obtain ⟨p, hp, level⟩ := registered _ (s.addressMap.request?_eq_some_iff.1 hr) parent
      (made.placement_eq_attached_iff.2 attached)
    have some : (d.endpoints parent).length ≠ 0 := by
      rw [Ne, List.length_eq_zero_iff]
      exact List.ne_nil_of_mem (Descriptor.mem_endpoints.2 ⟨hq, attached⟩)
    have fits := room parent p hp
    obtain ⟨host, -, hname, rfl, ⟨m, -, hosting⟩ | ⟨c, hc, hosting⟩⟩ :=
      exists_plan_of_request described hp
    · exact absurd ((room_of_memory hosting).1 fits) some
    · refine ⟨c, hc, hosting.name_eq.symm.trans hname, ?_, hosting.isAttached_eq_false_iff.1 level⟩
      by_contra other
      rw [room_of_peripheral hosting, if_neg other] at fits
      exact some fits
  · obtain ⟨part, -, made, hr⟩ := exists_part_of_plan described hc
    have fits := room c.name part.request hr
    rwa [room_of_peripheral made, if_pos controller] at fits

/-- Controllers have room for what is attached to them, and nothing else needs any. -/
theorem room_of_attachable (described : ofDescriptor d = .ok s) (attachable : d.Attachable)
    {parent : String} {p : Request} (hp : s.addressMap.request? parent = some p) :
    p.size + packed * (d.endpoints parent).length ≤ p.reserve := by
  by_cases none : d.endpoints parent = []
  · rw [none]
    exact p.size_le_reserve
  · obtain ⟨q, hq⟩ := List.exists_mem_of_ne_nil _ none
    obtain ⟨c, hc, host, rfl, controller, hosting, -, hr⟩ :=
      exists_controller_of_endpoint described attachable hq
    obtain rfl := Option.some.inj (hr.symm.trans hp)
    rw [room_of_peripheral hosting, if_pos controller]
    exact attachable.few c hc controller

/-- If everything else finds its place, a described system can be placed exactly if everything is
attached to a controller that can take it. -/
theorem exists_allocation_iff_attachable (described : ofDescriptor d = .ok s) {fixed top : Layout}
    (hfixed : (s.addressMap.requests.foldlM Layout.placeFixed {}).outcome = .ok fixed)
    (htop : (s.addressMap.requests.foldlM (Layout.placeAuto s.addressMap.autoRegion)
      fixed).outcome = .ok top) :
    (∃ a, s.addressMap.allocate.outcome = .ok a) ↔ d.Attachable := by
  simp only [AddressMap.exists_allocation_iff hfixed htop, totalSize_children described]
  constructor
  · rintro ⟨registered, room⟩
    exact attachable_of_room described registered room
  · intro attachable
    refine ⟨fun x hx parent attached => ?_, fun parent p => room_of_attachable described attachable⟩
    obtain ⟨q, hq, -⟩ := exists_endpoint_of_attached described hx attached
    obtain ⟨c, -, host, -, -, -, level, hr⟩ :=
      exists_controller_of_endpoint described attachable hq
    exact ⟨host.request, hr, level⟩

theorem attachable_of_allocate (described : ofDescriptor d = .ok s) {a : Allocation}
    (ok : s.addressMap.allocate.outcome = .ok a) : d.Attachable := by
  obtain ⟨fixed, top, -, hfixed, htop, -⟩ := AddressMap.allocate_eq_ok_iff.1 ok
  exact (exists_allocation_iff_attachable described hfixed htop).1 ⟨a, ok⟩

/-- Nothing is attached to what it cannot be attached to, if the system can be placed. -/
theorem not_allocated_of_unfit (described : ofDescriptor d = .ok s) {q : PeripheralPlan}
    (hq : q ∈ d.peripherals) {parent : String} (attached : q.parent = some parent)
    (unfit : d.Unfit q parent) (a : Allocation) : s.addressMap.allocate.outcome ≠ .ok a := by
  intro ok
  obtain ⟨-, distinct, disjoint⟩ := List.nodup_append'.1 (names_nodup_of_ofDescriptor described)
  obtain ⟨c, hc, name, controller, level⟩ :=
    (attachable_of_allocate described ok).hosted q hq parent attached
  cases unfit with
  | itself =>
    obtain rfl := List.inj_on_of_nodup_map distinct hc hq name
    rw [level] at attached
    cases attached
  | memory mem =>
    refine disjoint (List.mem_map_of_mem mem) ?_
    rw [← name]
    exact List.mem_map_of_mem hc
  | kind mem other =>
    obtain rfl := List.inj_on_of_nodup_map distinct hc mem name
    exact other controller
  | nested mem deep =>
    obtain rfl := List.inj_on_of_nodup_map distinct hc mem name
    exact deep level

/-- The endpoints of a controller follow it one window after the other. -/
theorem get?_of_endpoints (described : ofDescriptor d = .ok s) {a : Allocation}
    (ok : s.addressMap.allocate.outcome = .ok a) {parent : String} {k : Nat} {q : PeripheralPlan}
    (hk : (d.endpoints parent)[k]? = some q) : ∃ w v, a.get? parent = some w ∧
      a.get? q.name = some v ∧ v.base = w.base + packed * (k + 1) := by
  -- the request at the same place among the children of the parent
  have named : ((s.addressMap.children parent).map Prod.fst)[k]? = some q.name := by
    rw [map_fst_children described, List.getElem?_map, hk, Option.map_some]
  rw [List.getElem?_map, Option.map_eq_some_iff] at named
  obtain ⟨⟨name, r⟩, hx, rfl : name = q.name⟩ := named
  obtain ⟨front, rest, split, length⟩ := exists_split_of_getElem? hx
  have before : totalSize front = packed * k := by
    rw [← length]
    refine totalSize_of_packed fun x hx => ?_
    have mem : x ∈ s.addressMap.children parent := split ▸ List.mem_append_left _ hx
    exact size_of_mem_children described mem
  obtain ⟨p, w, hp, hparent, -, hget⟩ := AddressMap.exists_windows_of_children ok split
  -- the parent is a controller, so its own window is the smallest one
  obtain ⟨c, -, host, -, -, hosting, -, hr⟩ := exists_controller_of_endpoint described
    (attachable_of_allocate described ok) (List.mem_of_getElem? hk)
  obtain rfl := Option.some.inj (hr.symm.trans hp)
  refine ⟨w, _, hparent, hget, ?_⟩
  show w.base + host.request.size + totalSize _ = _
  rw [hosting.size_eq, before, Nat.mul_succ]
  omega

/-- A peripheral of the design is found under its name. -/
theorem Finalized.peripheral?_eq_some {p : Platform} {a : Allocation} {design : Design}
    (h : s.Finalized p a design) {e : Entry} (he : e ∈ design.peripherals) :
    design.peripheral? e.name = some e := by
  have nodup : (design.peripherals.map Entry.name).Nodup := by
    have entries := h.names_nodup
    rw [Design.entries, List.map_append] at entries
    exact (List.nodup_append'.1 entries).2.1
  cases found : design.peripheral? e.name with
  | none => exact absurd (decide_eq_true rfl) (List.find?_eq_none.1 found e he)
  | some e' =>
    have same : e'.name = e.name := by simpa using List.find?_some found
    rw [List.inj_on_of_nodup_map nodup (List.mem_of_find?_eq_some found) he same]

/-- The design shows a planned peripheral at its window. -/
theorem Finalized.peripheral?_of_plan {p : Platform} {a : Allocation} {design : Design}
    (h : s.Finalized p a design) (described : ofDescriptor d = .ok s) {plan : PeripheralPlan}
    (hplan : plan ∈ d.peripherals) {w : Window} (hw : a.get? plan.name = some w) :
    ∃ e, design.peripheral? plan.name = some e ∧ e.base = w.base := by
  obtain ⟨part, hpart, made, -⟩ := exists_part_of_plan described hplan
  obtain ⟨q, component, name, -⟩ := made.exists_peripheral
  have mem : q ∈ (numbered 0 s.peripherals).map Prod.fst := by
    rw [map_fst_numbered, mem_peripherals]
    exact ⟨part, hpart, component⟩
  obtain ⟨⟨q', irq⟩, hnumbered, same⟩ := List.mem_map.1 mem
  obtain rfl : q = q' := same.symm
  obtain ⟨e, he, v, hv, rfl⟩ := exists_of_forall₂ h.peripherals.flip hnumbered
  rw [name, hw, Option.some.injEq] at hv
  subst hv
  exact ⟨q.entryAt irq w, name ▸ h.peripheral?_eq_some he, rfl⟩

end Soc

/-- A controller of the description can take up to fifteen endpoints, and nothing else can take
any. -/
structure Descriptor.KeepsEndpoints (d : Descriptor) (s : Soc) : Prop where
  /-- If everything else finds its place, the system can be placed exactly if everything is attached
  to a controller that can take it. -/
  allocates_iff : ∀ fixed top,
    (s.addressMap.requests.foldlM Layout.placeFixed {}).outcome = .ok fixed →
    (s.addressMap.requests.foldlM (Layout.placeAuto s.addressMap.autoRegion) fixed).outcome =
      .ok top →
    ((∃ a, s.addressMap.allocate.outcome = .ok a) ↔ d.Attachable)
  /-- On every platform, the endpoints of a controller lie behind it in the order of the
  description. -/
  base_eq : ∀ p design, (s.finalize p).outcome = .ok design → ∀ c ∈ d.peripherals,
    ∀ k q, (d.endpoints c.name)[k]? = some q → c.kind = .usbDeviceController ∧
      ∃ host e, design.peripheral? c.name = some host ∧ design.peripheral? q.name = some e ∧
        e.base = host.base + 0x100 * (k + 1)
  /-- What is attached to itself, to a memory, to a peripheral of another kind or to one that is
  attached is refused, whatever becomes of everything else. -/
  refused : ∀ q ∈ d.peripherals, ∀ parent, q.parent = some parent → d.Unfit q parent →
    (∃ e, s.addressMap.allocate.outcome = .error e) ∧ ∀ p, ∃ e, (s.finalize p).outcome = .error e

namespace Soc

/-- **Fifteen endpoints to a controller.** Whatever a description lists in whatever order: if a
system is made from it, its attachments can be placed exactly if they are endpoints of controllers,
at most fifteen of each; they follow their controllers in the order of the description, and any
other attachment is refused. -/
theorem keepsEndpoints_of_ofDescriptor {d : Descriptor} {s : Soc} (h : ofDescriptor d = .ok s) :
    d.KeepsEndpoints s := by
  refine ⟨fun fixed top => exists_allocation_iff_attachable h,
    fun p design ok c hc k q hk => ?_, fun q hq parent attached unfit => ⟨?_, fun p => ?_⟩⟩
  · obtain ⟨a, finalized⟩ := finalize_eq_ok_iff.1 ok
    obtain ⟨hq, attached⟩ := Descriptor.mem_endpoints.1 (List.mem_of_getElem? hk)
    obtain ⟨c', hc', same, controller, -⟩ :=
      (attachable_of_allocate h finalized.allocated).hosted q hq c.name attached
    obtain ⟨-, distinct, -⟩ := List.nodup_append'.1 (names_nodup_of_ofDescriptor h)
    obtain rfl := List.inj_on_of_nodup_map distinct hc' hc same
    obtain ⟨w, v, hw, hv, base⟩ := get?_of_endpoints h finalized.allocated hk
    obtain ⟨host, hhost, hostBase⟩ := finalized.peripheral?_of_plan h hc' hw
    obtain ⟨e, he, eBase⟩ := finalized.peripheral?_of_plan h hq hv
    refine ⟨controller, host, e, hhost, he, ?_⟩
    rw [eBase, hostBase, base]
    rfl
  · exact exists_error_of_ne_ok (not_allocated_of_unfit h hq attached unfit)
  · refine exists_error_of_ne_ok fun design ok => ?_
    obtain ⟨a, finalized⟩ := finalize_eq_ok_iff.1 ok
    exact not_allocated_of_unfit h hq attached unfit a finalized.allocated

/-- Two controllers with endpoints in turns, one of them described before its controller. -/
def twinPorts : Descriptor where
  name := "twin"
  cpu := { name := "vexriscv", variant := "imac" }
  memories := [⟨⟨"sram", .ram, 0x4000, "Firmware memory"⟩, some 0⟩]
  peripherals := [
    { name := "ep_in0", kind := .inFifo, parent := some "usb0" },
    { name := "usb1", kind := .usbDeviceController },
    { name := "usb0", kind := .usbDeviceController, address := some 0xf0000000 },
    { name := "ep_in1", kind := .inFifo, parent := some "usb1" },
    { name := "ep_out0", kind := .outFifo, parent := some "usb0" }]

/-- The system of the two controllers. -/
def twinPortsSoc : Soc where
  name := "twin"
  cpu := { name := "vexriscv", variant := "imac" }
  parts := [
    ⟨.memory ⟨"sram", .ram, 0x4000, "Firmware memory"⟩, .fixed 0, by decide⟩,
    ⟨.peripheral (.inFifo "ep_in0"), .attached "usb0", by decide⟩,
    ⟨.peripheral (.usbDeviceController "usb1"), .auto, by decide⟩,
    ⟨.peripheral (.usbDeviceController "usb0"), .fixed 0xf0000000, by decide⟩,
    ⟨.peripheral (.inFifo "ep_in1"), .attached "usb1", by decide⟩,
    ⟨.peripheral (.outFifo "ep_out0"), .attached "usb0", by decide⟩]
  names_nodup := by decide

theorem keepsEndpoints_twinPorts : ∃ design : Design, ofDescriptor twinPorts = .ok twinPortsSoc ∧
    (twinPortsSoc.finalize benchPlatform).outcome = .ok design ∧
    design.peripherals.map (fun e => (e.name, e.base)) = [("ep_in0", 0xf0000100),
      ("usb1", 0xf0001000), ("usb0", 0xf0000000), ("ep_in1", 0xf0001100),
      ("ep_out0", 0xf0000200)] ∧
    twinPorts.KeepsEndpoints twinPortsSoc := by
  have described : ofDescriptor twinPorts = .ok twinPortsSoc := rfl
  have allocated : twinPortsSoc.addressMap.allocate.outcome = .ok ⟨[
      ("sram", ⟨0, 0x4000, 0x4000, none⟩),
      ("ep_in0", ⟨0xf0000100, 0x100, 0x100, some "usb0"⟩),
      ("usb1", ⟨0xf0001000, 0x100, 0x1000, none⟩),
      ("usb0", ⟨0xf0000000, 0x100, 0x1000, none⟩),
      ("ep_in1", ⟨0xf0001100, 0x100, 0x100, some "usb1"⟩),
      ("ep_out0", ⟨0xf0000200, 0x100, 0x100, some "usb0"⟩)]⟩ := by cbv
  have finished : ∃ design : Design, (twinPortsSoc.finalize benchPlatform).outcome = .ok design ∧
      design.peripherals.map (fun e => (e.name, e.base)) = [("ep_in0", 0xf0000100),
        ("usb1", 0xf0001000), ("usb0", 0xf0000000), ("ep_in1", 0xf0001100),
        ("ep_out0", 0xf0000200)] := by
    unfold finalize
    rw [Report.outcome_bind, allocated]
    exact ⟨_, rfl, by decide⟩
  obtain ⟨design, ok, bases⟩ := finished
  exact ⟨design, described, ok, bases, keepsEndpoints_of_ofDescriptor described⟩

end Soc

end SocAssembly
