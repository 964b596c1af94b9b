import Mathlib
import SocAssembly.Proofs.BusWords

/-!
# Adding a part moves nothing

A part that leaves its address open or is attached is placed after all others of its pass, and the
passes before do not see it. So when a system that can be finished gets one more part, the windows
of the others stay (`AddressMap.Extends.get?_of_stays`), and the only thing that can go wrong is
that the new part finds no place (`AddressMap.Extends.allocate`). The rest of the pipeline goes
through the parts in order: numbers of interrupts are counted on, and the first RAM stays the
first. Hence the design stays as it was, with one more entry at the end (`Soc.finalize_add`).
-/

namespace SocAssembly

/-! ### Maps with one more request -/

/-- Why there is no place for an entry. -/
inductive NoPlace (name : String) : Placement → Error → Prop where
  /-- No gap of the automatic region is large enough. -/
  | regionExhausted (size start stop : Nat) :
      NoPlace name .auto (.regionExhausted name size start stop)
  /-- The parent does not exist. -/
  | unknownParent (parent : String) : NoPlace name (.attached parent) (.unknownParent name parent)
  /-- The parent is attached itself. -/
  | nestedAttachment (parent : String) :
      NoPlace name (.attached parent) (.nestedAttachment name parent)
  /-- There is no room left in the window of the parent. -/
  | parentWindowExhausted (parent : String) (window : Nat) :
      NoPlace name (.attached parent) (.parentWindowExhausted name parent window)

namespace Layout

/-- An automatic request is placed at the first address that serves. -/
theorem outcome_placeAuto (region : Span) (l : Layout) {name : String} {r : Request}
    (hr : r.placement = .auto) :
    (placeAuto region l (name, r)).outcome =
      match firstFit l.blocks region.stop r.reserve
          (alignUp region.start (granularity r.reserve)) with
      | none => .error (.regionExhausted name r.reserve region.start region.stop)
      | some base => .ok (l.place name r base) := by
  simp only [placeAuto, hr]
  cases firstFit l.blocks region.stop r.reserve (alignUp region.start (granularity r.reserve)) <;>
    rfl

end Layout

namespace AddressMap

theorem allocate_of_fixedPass_error {m : AddressMap} {e : Error}
    (error : (m.requests.foldlM Layout.placeFixed {}).outcome = .error e) :
    m.allocate.outcome = .error e := by
  unfold allocate
  rw [Report.outcome_bind, error, Except.bind]

theorem allocate_of_autoPass_error {m : AddressMap} {fixed : Layout} {e : Error}
    (hfixed : (m.requests.foldlM Layout.placeFixed {}).outcome = .ok fixed)
    (error : (m.requests.foldlM (Layout.placeAuto m.autoRegion) fixed).outcome = .error e) :
    m.allocate.outcome = .error e := by
  unfold allocate
  rw [Report.outcome_bind, hfixed, Except.bind, Report.outcome_bind, error, Except.bind]

theorem allocate_of_attachedPass_error {m : AddressMap} {fixed top : Layout} {e : Error}
    (hfixed : (m.requests.foldlM Layout.placeFixed {}).outcome = .ok fixed)
    (htop : (m.requests.foldlM (Layout.placeAuto m.autoRegion) fixed).outcome = .ok top)
    (error : (m.requests.foldlM (Layout.placeAttached m) top).outcome = .error e) :
    m.allocate.outcome = .error e := by
  unfold allocate
  rw [Report.outcome_bind, hfixed, Except.bind, Report.outcome_bind, htop, Except.bind,
    Report.outcome_bind, error, Except.bind]

/-- The map `m'` is `m` with one more request at the end. -/
structure Extends (m : AddressMap) (name : String) (r : Request) (m' : AddressMap) : Prop where
  /-- The region is the same. -/
  region_eq : m'.autoRegion = m.autoRegion
  /-- The request stands behind the others. -/
  requests_eq : m'.requests = m.requests ++ [(name, r)]

/-- The map is allocated with the windows of an earlier allocation, and maybe others. -/
def Keeps (m : AddressMap) (earlier : Allocation) : Prop :=
  ∃ a, m.allocate.outcome = .ok a ∧ ∀ n w, earlier.get? n = some w → a.get? n = some w

namespace Extends

variable {m m' : AddressMap} {name : String} {r : Request}

theorem mem (h : m.Extends name r m') {x : String × Request} (hx : x ∈ m.requests) :
    x ∈ m'.requests := by
  rw [h.requests_eq]
  exact List.mem_append_left _ hx

/-- A request that is not fixed is passed over by the fixed pass. -/
theorem fixedPass (h : m.Extends name r m') (movable : r.placement.isFixed = false)
    {fixed : Layout} (ok : (m.requests.foldlM Layout.placeFixed {}).outcome = .ok fixed) :
    (m'.requests.foldlM Layout.placeFixed {}).outcome = .ok fixed := by
  rw [h.requests_eq, List.foldlM_append, Report.bind_eq_ok_iff]
  refine ⟨fixed, ok, Report.foldlM_cons_eq_ok_iff.2 ⟨fixed, ?_, rfl⟩⟩
  rw [Layout.placeFixed_of_not_fixed fixed movable, Report.outcome_pure]

/-- The automatic pass comes to the new request last. -/
theorem outcome_autoPass (h : m.Extends name r m') {fixed top : Layout}
    (ok : (m.requests.foldlM (Layout.placeAuto m.autoRegion) fixed).outcome = .ok top) :
    (m'.requests.foldlM (Layout.placeAuto m'.autoRegion) fixed).outcome =
      (Layout.placeAuto m.autoRegion top (name, r)).outcome := by
  rw [h.requests_eq, h.region_eq, List.foldlM_append, Report.outcome_bind, ok]
  show (Layout.placeAuto m.autoRegion top (name, r) >>= pure).outcome = _
  rw [bind_pure]

/-- Windows at the top level that stay where they are keep those that are attached to them. -/
theorem get?_of_stays (h : m.Extends name r m') {a a' : Allocation} {top full top' full' : Layout}
    (settled : m.Settled a top full) (settled' : m'.Settled a' top' full')
    (stays : ∀ n w, top.windows.lookup n = some w → top'.windows.lookup n = some w)
    {n : String} {w : Window} (hw : a.get? n = some w) : a'.get? n = some w := by
  cases hq : m.request? n with
  | none =>
    rw [settled.get?_eq_none hq] at hw
    cases hw
  | some q =>
    have mem := m.request?_eq_some_iff.1 hq
    cases hattached : q.placement.isAttached with
    | false =>
      obtain ⟨v, hv, htop, -⟩ := settled.get?_of_top mem hattached
      obtain ⟨v', hv', htop', -⟩ := settled'.get?_of_top (h.mem mem) hattached
      rw [stays n v htop] at htop'
      rw [hv', ← htop', ← hv, hw]
    | true =>
      obtain ⟨parent, hparent⟩ := Placement.isAttached_iff.1 hattached
      obtain ⟨before, rest, hsplit⟩ := List.append_of_mem (mem_children.2 ⟨mem, hparent⟩)
      have hsplit' : m'.children parent =
          before ++ (n, q) :: (rest ++ attachedTo parent [(name, r)]) := by
        rw [children, h.requests_eq, attachedTo_append]
        show m.children parent ++ _ = _
        rw [hsplit, List.append_assoc, List.cons_append]
      obtain ⟨v, -, htop, hget⟩ := settled.get?_of_attached hsplit
      obtain ⟨v', -, htop', hget'⟩ := settled'.get?_of_attached hsplit'
      rw [stays parent v htop, Option.some.injEq] at htop'
      rw [hget', ← htop', ← hget, hw]

/-- What was attached before fits as before. -/
theorem exists_attachedPass {a : Allocation} {top full top' : Layout}
    (settled : m.Settled a top full) (hosts' : top'.Hosts m')
    (stays : ∀ n w, top.windows.lookup n = some w → top'.windows.lookup n = some w) :
    ∃ l, (m.requests.foldlM (Layout.placeAttached m') top').outcome = .ok l ∧
      top'.Carved m.requests l := by
  obtain ⟨l, ok⟩ := (Layout.attachedPass_isOk_iff hosts' (.nil hosts') m.requests).2
    fun parent some => by
      obtain ⟨w, hw, fits⟩ := settled.fits parent some
      exact ⟨w, stays parent w hw, fits⟩
  exact ⟨l, ok, .pass hosts' ok⟩

theorem outcome_attachedPass (h : m.Extends name r m') {top l : Layout}
    (ok : (m.requests.foldlM (Layout.placeAttached m') top).outcome = .ok l) :
    (m'.requests.foldlM (Layout.placeAttached m') top).outcome =
      (Layout.placeAttached m' l (name, r)).outcome := by
  rw [h.requests_eq, List.foldlM_append, Report.outcome_bind, ok]
  show (Layout.placeAttached m' l (name, r) >>= pure).outcome = _
  rw [bind_pure]

/-- One more automatic request finds a gap or there is none. -/
theorem allocate_of_auto (h : m.Extends name r m') (auto : r.placement = .auto) {a : Allocation}
    (ok : m.allocate.outcome = .ok a) :
    m'.Keeps a ∨ ∃ e, NoPlace name .auto e ∧ m'.allocate.outcome = .error e := by
  obtain ⟨fixed, top, full, hfixed, htop, hfull, rfl⟩ := allocate_eq_ok_iff.1 ok
  have settled := settled_of_passes hfixed htop hfull
  have hfixed' := h.fixedPass (by rw [auto]; rfl) hfixed
  have htop' := h.outcome_autoPass htop
  rw [Layout.outcome_placeAuto m.autoRegion top auto] at htop'
  split at htop'
  · exact Or.inr ⟨_, .regionExhausted .., allocate_of_autoPass_error hfixed' htop'⟩
  · rename_i base hbase
    have stays : ∀ n w, top.windows.lookup n = some w →
        (top.place name r base).windows.lookup n = some w := by
      intro n w hw
      rw [Layout.place, List.lookup_append, hw, Option.some_or]
    have hosts' := (holds_of_passes hfixed' htop').hosts
    -- attached requests see one more window that none of them is attached to
    obtain ⟨l, hl, -⟩ := exists_attachedPass settled hosts' stays
    have hfull' := outcome_attachedPass h hl
    rw [Layout.placeAttached_of_not_attached m' l (by rw [auto]; rfl), Report.outcome_pure]
      at hfull'
    have settled' := settled_of_passes hfixed' htop' hfull'
    exact Or.inl ⟨_, allocate_eq_ok_iff.2 ⟨_, _, _, hfixed', htop', hfull', rfl⟩,
      fun _ _ hw => h.get?_of_stays settled settled' stays hw⟩

/-- One more attached request finds room in the window of its parent or there is none. -/
theorem allocate_of_attached (h : m.Extends name r m') {parent : String}
    (attached : r.placement = .attached parent) {a : Allocation}
    (ok : m.allocate.outcome = .ok a) :
    m'.Keeps a ∨ ∃ e, NoPlace name (.attached parent) e ∧ m'.allocate.outcome = .error e := by
  obtain ⟨fixed, top, full, hfixed, htop, hfull, rfl⟩ := allocate_eq_ok_iff.1 ok
  have settled := settled_of_passes hfixed htop hfull
  have hfixed' := h.fixedPass (by rw [attached]; rfl) hfixed
  have htop' := h.outcome_autoPass htop
  rw [Layout.placeAuto_of_not_auto _ top (by rw [attached]; rfl), Report.outcome_pure] at htop'
  have hosts' := (holds_of_passes hfixed' htop').hosts
  -- the top level is the same; the new request is carved last, out of what is left of its parent
  obtain ⟨l, hl, carved⟩ := exists_attachedPass settled hosts' fun _ _ hw => hw
  have hfull' := outcome_attachedPass h hl
  have refused : ∀ e, (Layout.placeAttached m' l (name, r)).outcome = .error e →
      m'.allocate.outcome = .error e := by
    intro e he
    exact allocate_of_attachedPass_error hfixed' htop' (hfull'.trans he)
  have outcome := @Layout.outcome_placeAttached m' l name parent r attached
  split at outcome
  · exact Or.inr ⟨_, .unknownParent .., refused _ outcome⟩
  · rename_i p hp
    split at outcome
    · exact Or.inr ⟨_, .nestedAttachment .., refused _ outcome⟩
    · rename_i top
      obtain ⟨w, hw⟩ := (hosts'.known parent).2 ⟨p, hp, by simpa using top⟩
      rw [carved.lookup hw] at outcome
      dsimp only at outcome
      split at outcome
      · exact Or.inr ⟨_, .parentWindowExhausted .., refused _ outcome⟩
      · rw [outcome] at hfull'
        have settled' := settled_of_passes hfixed' htop' hfull'
        exact Or.inl ⟨_, allocate_eq_ok_iff.2 ⟨_, _, _, hfixed', htop', hfull', rfl⟩,
          fun _ _ hw => h.get?_of_stays settled settled' (fun _ _ hv => hv) hw⟩

/-- One more request that is not fixed leaves the windows where they are, or there is no place for
it. -/
theorem allocate (h : m.Extends name r m') (movable : r.placement.isFixed = false)
    {a : Allocation} (ok : m.allocate.outcome = .ok a) :
    m'.Keeps a ∨ ∃ e, NoPlace name r.placement e ∧ m'.allocate.outcome = .error e := by
  cases hr : r.placement with
  | fixed base => simp [hr, Placement.isFixed] at movable
  | auto => exact h.allocate_of_auto hr ok
  | attached parent => exact h.allocate_of_attached hr ok

end Extends

end AddressMap

/-! ### Systems with one more part -/

/-- The entry of a component at a window, with its interrupt number. -/
def Component.entryAt : Component → Option Nat → Window → Entry
  | memory m, _, w => m.entryAt w
  | peripheral q, irq, w => q.entryAt irq w

/-- The design with one more entry at the end of its list. -/
def Design.append (d : Design) (e : Entry) : Design :=
  if e.isMemory then { d with memories := d.memories ++ [e] }
  else { d with peripherals := d.peripherals ++ [e] }

theorem Sections.mapOrFail_eq_ok_iff {α β : Type} {s : Sections α} {f : α → Except Error β}
    {t : Sections β} :
    s.mapOrFail f = .ok t ↔ f s.text = .ok t.text ∧ f s.rodata = .ok t.rodata ∧
      f s.data = .ok t.data ∧ f s.bss = .ok t.bss ∧ f s.heap = .ok t.heap ∧
      f s.stack = .ok t.stack := by
  show (f s.text).bind _ = _ ↔ _
  rw [except_bind_eq_ok_iff]
  constructor
  · rintro ⟨text, htext, h⟩
    obtain ⟨rodata, hrodata, h⟩ := except_bind_eq_ok_iff.1 h
    obtain ⟨data, hdata, h⟩ := except_bind_eq_ok_iff.1 h
    obtain ⟨bss, hbss, h⟩ := except_bind_eq_ok_iff.1 h
    obtain ⟨heap, hheap, h⟩ := except_bind_eq_ok_iff.1 h
    obtain ⟨stack, hstack, h⟩ := except_bind_eq_ok_iff.1 h
    cases h
    exact ⟨htext, hrodata, hdata, hbss, hheap, hstack⟩
  · rintro ⟨htext, hrodata, hdata, hbss, hheap, hstack⟩
    refine ⟨_, htext, except_bind_eq_ok_iff.2 ⟨_, hrodata, except_bind_eq_ok_iff.2 ⟨_, hdata, ?_⟩⟩⟩
    exact except_bind_eq_ok_iff.2 ⟨_, hbss, except_bind_eq_ok_iff.2 ⟨_, hheap,
      except_bind_eq_ok_iff.2 ⟨_, hstack, rfl⟩⟩⟩

namespace Soc

/-- The numbers count on from one list to the next. -/
theorem numbered_append (next : Nat) (ps qs : List Peripheral) :
    numbered next (ps ++ qs) =
      numbered next ps ++ numbered (next + ps.countP (!·.events.isEmpty)) qs := by
  induction ps generalizing next with
  | nil => rfl
  | cons p rest ih =>
    rw [List.cons_append, numbered, numbered, List.countP_cons]
    cases p.events.isEmpty with
    | true => simp [ih]
    | false => simp [ih, Nat.add_assoc, Nat.add_comm 1]

/-- One more peripheral has the next number or none. -/
theorem exists_numbered_concat (next : Nat) (ps : List Peripheral) (q : Peripheral) :
    ∃ irq, numbered next (ps ++ [q]) = numbered next ps ++ [(q, irq)] := by
  rw [numbered_append]
  refine (exists_congr fun irq => List.append_right_inj _).2 ?_
  unfold numbered
  split
  · exact ⟨none, rfl⟩
  · exact ⟨some _, rfl⟩

/-- The system `s'` is `s` with one more part. -/
structure Extends (s : Soc) (part : Part) (s' : Soc) : Prop where
  /-- The part stands behind the others. -/
  parts_eq : s'.parts = s.parts ++ [part]
  /-- The name is the same. -/
  name_eq : s'.name = s.name
  /-- The processor is the same. -/
  cpu_eq : s'.cpu = s.cpu
  /-- The clock domain is the same. -/
  clockDomain_eq : s'.clockDomain = s.clockDomain
  /-- The memories of the firmware are chosen in the same way. -/
  firmware_eq : s'.firmware = s.firmware

/-- Adding a component puts it behind the others. -/
theorem exists_extends_of_add {s s' : Soc} {c : Component} {placement : Placement}
    (added : s.add c placement = .ok s') :
    ∃ part : Part, part.component = c ∧ part.placement = placement ∧ s.Extends part s' := by
  unfold add at added
  split at added
  · cases added
  · cases added
    exact ⟨_, rfl, rfl, rfl, rfl, rfl, rfl, rfl⟩

namespace Extends

variable {s s' : Soc} {part : Part}

theorem addressMap (h : s.Extends part s') :
    s.addressMap.Extends part.name part.request s'.addressMap where
  region_eq := rfl
  requests_eq := (congrArg (List.map _) h.parts_eq).trans List.map_append

theorem memories_eq (h : s.Extends part s') :
    s'.memories = s.memories ++ part.component.memory?.toList := by
  unfold memories
  rw [h.parts_eq, List.filterMap_append]
  cases hm : part.component.memory? <;> simp [hm]

theorem peripherals_eq (h : s.Extends part s') :
    s'.peripherals = s.peripherals ++ part.component.peripheral?.toList := by
  unfold peripherals
  rw [h.parts_eq, List.filterMap_append]
  cases hq : part.component.peripheral? <;> simp [hq]

/-- A section keeps the memory that it has. -/
theorem sectionMemory_of_ok (h : s.Extends part s') {chosen : Option String} {name : String}
    (found : s.sectionMemory chosen = .ok name) : s'.sectionMemory chosen = .ok name := by
  have firstRam : ∀ n, s.firstRam? = some n → s'.firstRam? = some n := by
    intro n hn
    obtain ⟨m, hm, rfl⟩ := Option.map_eq_some_iff.1 hn
    rw [firstRam?, h.memories_eq, List.find?_append, hm]
    rfl
  unfold sectionMemory at found ⊢
  cases hchosen : chosen.or s.firstRam? with
  | none => simp [hchosen] at found
  | some n =>
    have hchosen' : chosen.or s'.firstRam? = some n := by
      cases chosen with
      | none => exact firstRam n hchosen
      | some other => exact hchosen
    simp only [hchosen] at found
    simp only [hchosen', h.memories_eq, List.any_append]
    split at found
    · rename_i known
      rw [known]
      exact found
    · cases found

theorem regions_of_ok (h : s.Extends part s') {regions : Sections String}
    (found : s.firmware.mapOrFail s.sectionMemory = .ok regions) :
    s'.firmware.mapOrFail s'.sectionMemory = .ok regions := by
  obtain ⟨htext, hrodata, hdata, hbss, hheap, hstack⟩ := Sections.mapOrFail_eq_ok_iff.1 found
  rw [h.firmware_eq]
  exact Sections.mapOrFail_eq_ok_iff.2 ⟨h.sectionMemory_of_ok htext,
    h.sectionMemory_of_ok hrodata, h.sectionMemory_of_ok hdata, h.sectionMemory_of_ok hbss,
    h.sectionMemory_of_ok hheap, h.sectionMemory_of_ok hstack⟩

/-- The design keeps its entries if the allocation keeps their windows. -/
theorem finalized (h : s.Extends part s') {p : Platform} {a a' : Allocation} {d : Design}
    (before : s.Finalized p a d) (allocated : s'.addressMap.allocate.outcome = .ok a')
    (stays : ∀ n w, a.get? n = some w → a'.get? n = some w) :
    ∃ irq w, s'.Finalized p a' (d.append (part.component.entryAt irq w)) := by
  have new : part ∈ s'.parts := by
    rw [h.parts_eq]
    exact List.mem_append_right s.parts (List.mem_singleton_self part)
  obtain ⟨w, hw⟩ : ∃ w, a'.get? part.component.name = some w := exists_window allocated new
  have clockFrequency := h.clockDomain_eq ▸ before.clockFrequency
  have regions := h.regions_of_ok before.regions
  have named : d.name = s'.name ∧ d.platform = p.name ∧ d.cpu = s'.cpu := by
    rw [h.name_eq, h.cpu_eq]
    exact before.named
  have memories : s.memories.Forall₂ (fun m e => ∃ w, a'.get? m.name = some w ∧ m.entryAt w = e)
      d.memories := before.memories.imp fun _ _ ⟨v, hv, he⟩ => ⟨v, stays _ v hv, he⟩
  have peripherals : (numbered 0 s.peripherals).Forall₂
      (fun q e => ∃ w, a'.get? q.1.name = some w ∧ q.1.entryAt q.2 w = e) d.peripherals :=
    before.peripherals.imp fun _ _ ⟨v, hv, he⟩ => ⟨v, stays _ v hv, he⟩
  have hmemories := h.memories_eq
  have hperipherals := h.peripherals_eq
  cases hc : part.component with
  | memory m =>
    rw [hc] at hw hmemories hperipherals
    have hperipherals : s'.peripherals = s.peripherals := hperipherals.trans (List.append_nil _)
    refine ⟨none, w, allocated, clockFrequency, ?_, ?_, regions, named⟩
    · rw [hmemories]
      exact List.rel_append memories (.cons ⟨w, hw, rfl⟩ .nil)
    · rw [hperipherals]
      exact peripherals
  | peripheral q =>
    rw [hc] at hw hmemories hperipherals
    have hmemories : s'.memories = s.memories := hmemories.trans (List.append_nil _)
    have hperipherals : s'.peripherals = s.peripherals ++ [q] := hperipherals
    obtain ⟨irq, hirq⟩ := exists_numbered_concat 0 s.peripherals q
    refine ⟨irq, w, allocated, clockFrequency, ?_, ?_, regions, named⟩
    · rw [hmemories]
      exact memories
    · rw [hperipherals, hirq]
      exact List.rel_append peripherals (.cons ⟨w, hw, rfl⟩ .nil)

end Extends

/-- **Adding a part moves nothing.** A part without an address of its own is put at the end of the
design and changes nothing else, or the system fails for want of a place for that part. -/
theorem finalize_add {s s' : Soc} {c : Component} {placement : Placement} {p : Platform}
    {d : Design} (h : (s.finalize p).outcome = .ok d) (added : s.add c placement = .ok s')
    (movable : placement.isFixed = false) :
    (∃ irq w, (s'.finalize p).outcome = .ok (d.append (c.entryAt irq w))) ∨
      ∃ e, NoPlace c.name placement e ∧ (s'.finalize p).outcome = .error e := by
  obtain ⟨a, before⟩ := finalize_eq_ok_iff.1 h
  obtain ⟨part, rfl, rfl, hextends⟩ := exists_extends_of_add added
  rcases hextends.addressMap.allocate movable before.allocated with
    ⟨a', ok, stays⟩ | ⟨e, noPlace, error⟩
  · obtain ⟨irq, w, after⟩ := hextends.finalized before ok stays
    exact Or.inl ⟨irq, w, finalize_eq_ok_iff.2 ⟨a', after⟩⟩
  · refine Or.inr ⟨e, noPlace, ?_⟩
    unfold finalize
    rw [Report.outcome_bind, error, Except.bind]

/-- An endpoint of the controller. -/
def endpoint : Part := ⟨.peripheral (.outFifo "ep_out"), .attached "usb", by decide⟩

/-- The memory and the controller with an endpoint of it. -/
def endpointSoc : Soc :=
  { controllerSoc with parts := controllerSoc.parts ++ [endpoint], names_nodup := by decide }

/-- An endpoint is attached to the controller, and there is room for it. -/
theorem finalize_add_endpoint : ∃ d irq w, (controllerSoc.finalize benchPlatform).outcome = .ok d ∧
    controllerSoc.add (.peripheral (.outFifo "ep_out")) (.attached "usb") = .ok endpointSoc ∧
    (Placement.attached "usb").isFixed = false ∧
    (endpointSoc.finalize benchPlatform).outcome =
      .ok (d.append ((Component.peripheral (.outFifo "ep_out")).entryAt irq w)) := by
  have allocated : controllerSoc.addressMap.allocate.outcome = .ok ⟨[
      ("blockram", ⟨0, 0x8000, 0x8000, none⟩),
      ("usb", ⟨0xf0000000, 0x100, 0x1000, none⟩)]⟩ := by cbv
  have allocated' : endpointSoc.addressMap.allocate.outcome = .ok ⟨[
      ("blockram", ⟨0, 0x8000, 0x8000, none⟩),
      ("usb", ⟨0xf0000000, 0x100, 0x1000, none⟩),
      ("ep_out", ⟨0xf0000100, 0x100, 0x100, some "usb"⟩)]⟩ := by cbv
  have finished : ∃ d, (controllerSoc.finalize benchPlatform).outcome = .ok d := by
    unfold finalize
    rw [Report.outcome_bind, allocated]
    exact ⟨_, rfl⟩
  have finished' : ∃ d, (endpointSoc.finalize benchPlatform).outcome = .ok d := by
    unfold finalize
    rw [Report.outcome_bind, allocated']
    exact ⟨_, rfl⟩
  have added : controllerSoc.add (.peripheral (.outFifo "ep_out")) (.attached "usb") =
      .ok endpointSoc := rfl
  obtain ⟨d, hd⟩ := finished
  obtain ⟨d', hd'⟩ := finished'
  rcases finalize_add hd added rfl with ⟨irq, w, placed⟩ | ⟨e, -, refused⟩
  · exact ⟨d, irq, w, hd, added, rfl, placed⟩
  · cases hd'.symm.trans refused

end Soc

end SocAssembly
