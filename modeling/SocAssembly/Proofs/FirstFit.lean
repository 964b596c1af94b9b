import Mathlib
import SocAssembly.Proofs.Appending

/-!
# First fit

The automatic pass reserves for each request in turn the least address where it fits beside the
fixed windows and the requests before it. What that means is said without the pass: a range of the
bus `Fits` beside ranges that are taken, and a list of requests `Packs` if each gets the least
address that fits beside what the fixed ones and the requests in front of it have taken. The pass
does this and nothing else (`Layout.Takes.autoPass`, `Layout.Takes.exists_autoPass`), so a request
is without a place exactly if there is none (`AddressMap.allocatesFirstFit`).

## The model

The search for one address is also told step by step (`Layout.Search`): it looks at a candidate, and
either leaves the region, or finds the candidate free, or goes on behind the block that is in the
way. Nothing is asked of the blocks there; they need not even be in order. Every search ends because
a block that was in the way ends before all later candidates (`Layout.exists_search`).
-/

namespace SocAssembly

/-! ### Fitting and packing -/

/-- So many bytes can be reserved from an address on, beside what is taken. -/
structure Fits (region : Span) (taken : List Span) (size base : Nat) : Prop where
  /-- They start in the region. -/
  start_le : region.start ≤ base
  /-- They are in units of their granularity. -/
  aligned : granularity size ∣ base
  /-- They end in the region. -/
  stop_le : base + size ≤ region.stop
  /-- They miss everything that is taken. -/
  apart : ∀ s ∈ taken, s.Apart ⟨base, base + size⟩

/-- Requests are packed beside what is taken: the ranges are reserved for them one after the other,
each at the least address where it fits. -/
inductive Packs (region : Span) : List Span → List (String × Request) → List Span → Prop where
  /-- There is nothing to pack. -/
  | nil (taken : List Span) : Packs region taken [] []
  /-- The first request gets the least address, and its range is taken for the others. -/
  | cons {taken spans : List Span} {rest : List (String × Request)} {name : String} {r : Request}
      {base : Nat} (least : IsLeast {b | Fits region taken r.reserve b} base)
      (others : Packs region (taken ++ [⟨base, base + r.reserve⟩]) rest spans) :
      Packs region taken ((name, r) :: rest) (⟨base, base + r.reserve⟩ :: spans)

namespace Packs

variable {region : Span} {taken spans spans' : List Span} {xs : List (String × Request)}

/-- There is one way to pack. -/
theorem right_unique (h : Packs region taken xs spans) (h' : Packs region taken xs spans') :
    spans = spans' := by
  induction h generalizing spans' with
  | nil => cases h'; rfl
  | cons least _ ih =>
    cases h' with
    | cons least' others' =>
      cases least.unique least'
      rw [ih others']

/-- A request in the middle gets the least address beside what was taken before it. -/
theorem split {before rest : List (String × Request)} {name : String} {r : Request}
    (h : Packs region taken (before ++ (name, r) :: rest) spans) :
    ∃ front base back, spans = front ++ ⟨base, base + r.reserve⟩ :: back ∧
      Packs region taken before front ∧
      IsLeast {b | Fits region (taken ++ front) r.reserve b} base := by
  induction before generalizing taken spans with
  | nil =>
    cases h with
    | cons least others => exact ⟨[], _, _, rfl, .nil taken, by simpa using least⟩
  | cons x before ih =>
    cases h with
    | cons first others =>
      obtain ⟨front, base, back, rfl, packs, least⟩ := ih others
      refine ⟨_ :: front, base, back, rfl, .cons first packs, ?_⟩
      rwa [List.append_assoc, List.singleton_append] at least

end Packs

/-- The top-level windows of requests whose reserved ranges these are. -/
def topWindows (xs : List (String × Request)) (spans : List Span) : List (String × Window) :=
  List.zipWith (fun x s => (x.1, ⟨s.start, x.2.size, x.2.reserve, none⟩)) xs spans

namespace Layout

/-! ### The passes and what they take -/

/-- The blocks of the layout are in order, and stand for what is taken. -/
structure Takes (l : Layout) (taken : List Span) : Prop where
  /-- The blocks are in order. -/
  ordered : Ordered l.blocks
  /-- They are the taken ranges. -/
  perm : (l.blocks.map Block.span).Perm taken

namespace Takes

variable {region : Span} {l top : Layout} {taken spans : List Span} {name : String} {r : Request}

theorem nil : Takes {} [] := ⟨Ordered.nil, List.Perm.refl _⟩

/-- An address serves for what is in the layout if the bytes fit beside what is taken. -/
theorem serves_iff (h : l.Takes taken) {size base : Nat} :
    Serves l.blocks region size base ↔ Fits region taken size base := by
  have free : Free l.blocks ⟨base, base + size⟩ ↔ ∀ s ∈ taken, s.Apart ⟨base, base + size⟩ := by
    simp only [← h.perm.mem_iff, List.forall_mem_map]
    rfl
  constructor
  · intro serves
    exact ⟨serves.start_le, serves.aligned, serves.stop_le, free.1 serves.free⟩
  · intro fits
    exact ⟨fits.start_le, fits.aligned, fits.stop_le, free.2 fits.apart⟩

/-- What is placed where it is free is taken from then on. -/
theorem place (h : l.Takes taken) (name : String) {base : Nat}
    (free : Free l.blocks ⟨base, base + r.reserve⟩) :
    (l.place name r base).Takes (taken ++ [⟨base, base + r.reserve⟩]) := by
  refine ⟨h.ordered.insertBlock (Nat.lt_add_of_pos_right r.reserve_pos) free, ?_⟩
  refine ((insertBlock_perm _ l.blocks).map Block.span).trans ?_
  exact (h.perm.cons _).trans (List.perm_append_singleton _ _).symm

theorem placeAuto_eq_ok_iff (h : l.Takes taken) (auto : r.placement = .auto) {l' : Layout} :
    (placeAuto region l (name, r)).outcome = .ok l' ↔
      ∃ base, IsLeast {b | Fits region taken r.reserve b} base ∧ l' = l.place name r base := by
  rw [Layout.placeAuto_eq_ok_iff h.ordered auto]
  simp only [h.serves_iff, IsLeast, mem_lowerBounds, Set.mem_ofPred_eq, and_assoc]

theorem placeAuto_eq_error_iff (h : l.Takes taken) (auto : r.placement = .auto) {e : Error} :
    (placeAuto region l (name, r)).outcome = .error e ↔
      (∀ base, ¬ Fits region taken r.reserve base) ∧
        e = .regionExhausted name r.reserve region.start region.stop := by
  rw [outcome_placeAuto region l auto]
  simp only [← h.serves_iff, ← firstFit_eq_none_iff h.ordered]
  split
  · rename_i none
    simp [none, eq_comm]
  · rename_i base some
    simp [some]

/-- The automatic pass packs the requests that it goes through. -/
theorem autoPass {todo : List (String × Request)} (auto : ∀ x ∈ todo, x.2.placement = .auto)
    (h : l.Takes taken) (ok : (todo.foldlM (placeAuto region) l).outcome = .ok top) :
    ∃ spans, Packs region taken todo spans ∧ top.Takes (taken ++ spans) ∧
      top.windows = l.windows ++ topWindows todo spans := by
  induction todo generalizing l taken with
  | nil =>
    rw [Report.foldlM_nil_eq_ok_iff] at ok
    subst ok
    exact ⟨[], .nil taken, by simpa using h, by simp [topWindows]⟩
  | cons x rest ih =>
    obtain ⟨name, r⟩ := x
    obtain ⟨hr, hrest⟩ := List.forall_mem_cons.1 auto
    obtain ⟨u, hu, ok⟩ := Report.foldlM_cons_eq_ok_iff.1 ok
    obtain ⟨base, least, rfl⟩ := (h.placeAuto_eq_ok_iff hr).1 hu
    have placed := h.place name (h.serves_iff.2 least.1).free
    obtain ⟨spans, packs, takes, windows⟩ := ih hrest placed ok
    refine ⟨_ :: spans, .cons least packs, ?_, ?_⟩
    · rwa [List.append_assoc, List.singleton_append] at takes
    · rw [windows, Layout.place, List.append_assoc]
      rfl

/-- The automatic pass goes through all requests that can be packed. -/
theorem exists_autoPass {todo : List (String × Request)}
    (auto : ∀ x ∈ todo, x.2.placement = .auto) (h : l.Takes taken)
    (packs : Packs region taken todo spans) :
    ∃ top, (todo.foldlM (placeAuto region) l).outcome = .ok top := by
  induction packs generalizing l with
  | nil => exact ⟨l, rfl⟩
  | cons least _ ih =>
    obtain ⟨hr, hrest⟩ := List.forall_mem_cons.1 auto
    obtain ⟨top, htop⟩ := ih hrest (h.place _ (h.serves_iff.2 least.1).free)
    exact ⟨top, Report.foldlM_cons_eq_ok_iff.2
      ⟨_, (h.placeAuto_eq_ok_iff hr).2 ⟨_, least, rfl⟩, htop⟩⟩

end Takes

/-- The fixed pass takes the ranges that are asked for. -/
theorem takes_fixedPass {todo : List (String × Request)} {l : Layout}
    (ok : (todo.foldlM placeFixed {}).outcome = .ok l) :
    l.Takes ((todo.filterMap fixedBlock?).map Block.span) := by
  refine Report.foldlM_keeps (fun done l => l.Takes ((done.filterMap fixedBlock?).map Block.span))
    (fun done x s t hs ht => ?_) todo [] {} l .nil ok
  rw [List.filterMap_append, List.map_append]
  cases hx : x.2.placement.isFixed with
  | false =>
    rw [placeFixed_of_not_fixed s hx, Report.pure_eq_ok_iff] at ht
    simpa [fixedBlock?_eq_none hx, ← ht] using hs
  | true =>
    obtain ⟨name, r⟩ := x
    obtain ⟨base, hr⟩ := Placement.isFixed_iff.1 hx
    obtain ⟨-, -, free, rfl⟩ := (placeFixed_eq_ok_iff hs.ordered hr).1 ht
    rw [List.filterMap_cons_some (fixedBlock?_eq_some hr)]
    exact hs.place _ free

/-! ### What the other passes leave alone -/

/-- The report neither tells of an automatic request that was placed nor of one without a place. -/
def SparesAuto {α : Type} (report : Report α) : Prop :=
  (∀ name base stop, .placedAuto name base stop ∉ report.notices) ∧
    ∀ name size start stop, report.outcome ≠ .error (.regionExhausted name size start stop)

namespace SparesAuto

variable {α σ : Type}

theorem pure (a : α) : SparesAuto (pure a : Report α) := by
  simp [SparesAuto]

theorem fail {e : Error} (h : ∀ name size start stop, e ≠ .regionExhausted name size start stop) :
    SparesAuto (.fail e : Report α) := by
  simpa [SparesAuto, Report.fail] using h

theorem note_bind {n : Notice} (h : ∀ name base stop, n ≠ .placedAuto name base stop)
    {next : Unit → Report α} (hnext : SparesAuto (next ())) :
    SparesAuto (.note n >>= next) := by
  refine ⟨fun name base stop mem => ?_, fun name size start stop failed => ?_⟩
  · rcases Report.mem_notices_bind.1 mem with mem | ⟨_, -, mem⟩
    · exact h name base stop (List.mem_singleton.1 mem).symm
    · exact hnext.1 name base stop mem
  · rcases Report.bind_eq_error_iff.1 failed with failed | ⟨_, -, failed⟩
    · cases failed
    · exact hnext.2 name size start stop failed

theorem foldlM {f : σ → α → Report σ} (hf : ∀ s x, SparesAuto (f s x)) (xs : List α) (s : σ) :
    SparesAuto (xs.foldlM f s) := by
  refine ⟨fun name base stop mem => ?_, fun name size start stop failed => ?_⟩
  · obtain ⟨done, x, rest, t, -, -, mem⟩ := Report.exists_of_mem_notices_foldlM mem
    exact (hf t x).1 name base stop mem
  · obtain ⟨done, x, rest, t, -, -, failed⟩ := Report.foldlM_eq_error_iff.1 failed
    exact (hf t x).2 name size start stop failed

end SparesAuto

theorem placeFixed_sparesAuto (l : Layout) (x : String × Request) :
    SparesAuto (l.placeFixed x) := by
  unfold placeFixed
  dsimp only
  split
  · split
    · exact .fail (by simp)
    · split
      · exact .fail (by simp)
      · split
        · exact .fail (by simp)
        · exact .note_bind (by simp) (.pure _)
  · exact .pure l

theorem placeAttached_sparesAuto (m : AddressMap) (l : Layout) (x : String × Request) :
    SparesAuto (placeAttached m l x) := by
  unfold placeAttached
  dsimp only
  split
  · split
    · exact .fail (by simp)
    · split
      · exact .fail (by simp)
      · split
        · exact .fail (by simp)
        · split
          · exact .fail (by simp)
          · exact .note_bind (by simp) (.pure _)
  · exact .pure l

/-- A request that is placed is reported with the least address that fits. -/
theorem Takes.mem_notices_placeAuto {region : Span} {l : Layout} {taken : List Span}
    (h : l.Takes taken) {name : String} {r : Request} (auto : r.placement = .auto) {n : Notice}
    (mem : n ∈ (placeAuto region l (name, r)).notices) :
    ∃ base, IsLeast {b | Fits region taken r.reserve b} base ∧
      n = .placedAuto name base (base + r.reserve) := by
  simp only [placeAuto, auto] at mem
  split at mem
  · cases mem
  · rename_i base found
    have told : n = .placedAuto name base (base + r.reserve) := by
      rcases Report.mem_notices_bind.1 mem with mem | ⟨_, -, mem⟩
      · exact List.mem_singleton.1 mem
      · cases mem
    refine ⟨base, ?_, told⟩
    simpa only [IsLeast, mem_lowerBounds, Set.mem_ofPred_eq, h.serves_iff] using
      (firstFit_eq_some_iff h.ordered region r.reserve base).1 found

/-! ### The search, step by step -/

/-- The search from a candidate on: the blocks that were in the way, in order, and what it ends
with. -/
inductive Search (blocks : List Block) (regionStop size : Nat) :
    Nat → List Block → Option Nat → Prop where
  /-- The candidate does not end in the region. -/
  | left {candidate : Nat} (outside : regionStop < candidate + size) :
      Search blocks regionStop size candidate [] none
  /-- No block is in the way. -/
  | found {candidate : Nat} (inside : candidate + size ≤ regionStop)
      (free : blocker blocks size candidate = none) :
      Search blocks regionStop size candidate [] (some candidate)
  /-- The search goes on behind the block that is in the way. -/
  | passed {candidate : Nat} {b : Block} {passed : List Block} {result : Option Nat}
      (inside : candidate + size ≤ regionStop) (blocked : blocker blocks size candidate = some b)
      (rest : Search blocks regionStop size (alignUp b.stop (granularity size)) passed result) :
      Search blocks regionStop size candidate (b :: passed) result

namespace Search

variable {blocks passed passed' : List Block} {regionStop size candidate : Nat}
  {result result' : Option Nat}

/-- A block that is in the way ends behind the candidate, and so behind all before it. -/
theorem lt_stop (h : Search blocks regionStop size candidate passed result) {b : Block}
    (hb : b ∈ passed) : b ∈ blocks ∧ candidate < b.stop := by
  induction h with
  | left | found => cases hb
  | @passed candidate c others result inside blocked rest ih =>
    obtain ⟨hc, hlt⟩ := mem_of_blocker blocked
    rcases List.mem_cons.1 hb with rfl | hb
    · exact ⟨hc, hlt⟩
    · obtain ⟨mem, beyond⟩ := ih hb
      have passes := le_alignUp (granularity_pos size) c.stop
      exact ⟨mem, by omega⟩

/-- No block is in the way twice. -/
theorem nodup (h : Search blocks regionStop size candidate passed result) : passed.Nodup := by
  induction h with
  | left | found => exact List.nodup_nil
  | @passed candidate b others result inside blocked rest ih =>
    refine List.nodup_cons.2 ⟨fun again => ?_, ih⟩
    have passes := le_alignUp (granularity_pos size) b.stop
    have beyond := (rest.lt_stop again).2
    omega

/-- There is one search from a candidate. -/
theorem right_unique (h : Search blocks regionStop size candidate passed result)
    (h' : Search blocks regionStop size candidate passed' result') :
    passed = passed' ∧ result = result' := by
  induction h generalizing passed' with
  | left outside =>
    cases h' with
    | left => exact ⟨rfl, rfl⟩
    | found inside | passed inside => omega
  | found inside free =>
    cases h' with
    | left outside => omega
    | found => exact ⟨rfl, rfl⟩
    | passed inside' blocked =>
      rw [free] at blocked
      cases blocked
  | passed inside blocked rest ih =>
    cases h' with
    | left outside => omega
    | found inside' free =>
      rw [free] at blocked
      cases blocked
    | passed inside' blocked' rest' =>
      rw [blocked, Option.some.injEq] at blocked'
      subst blocked'
      obtain ⟨rfl, rfl⟩ := ih rest'
      exact ⟨rfl, rfl⟩

end Search

/-- Every search ends. -/
theorem exists_search (blocks : List Block) (regionStop size candidate : Nat) :
    ∃ passed, Search blocks regionStop size candidate passed
      (firstFit blocks regionStop size candidate) := by
  fun_induction firstFit blocks regionStop size candidate with
  | case1 candidate outside => exact ⟨[], .left outside⟩
  | case2 candidate inside free => exact ⟨[], .found (Nat.le_of_not_lt inside) free⟩
  | case3 candidate inside b blocked ih =>
    obtain ⟨passed, rest⟩ := ih
    exact ⟨b :: passed, .passed (Nat.le_of_not_lt inside) blocked rest⟩

end Layout

/-! ### Allocations -/

/-- The ranges that are kept free for the entries of requests. -/
def Allocation.reservedRanges (a : Allocation) (xs : List (String × Request)) : List Span :=
  xs.filterMap fun x => (a.get? x.1).map Window.reservedRange

theorem Packs.length_eq {region : Span} {taken spans : List Span} {xs : List (String × Request)}
    (h : Packs region taken xs spans) : xs.length = spans.length := by
  induction h with
  | nil => rfl
  | cons _ _ ih => rw [List.length_cons, List.length_cons, ih]

/-- An allocation with the windows of packed requests keeps the ranges free that were packed. -/
theorem Packs.reservedRanges_eq {region : Span} {taken spans : List Span}
    {xs : List (String × Request)} (h : Packs region taken xs spans) {a : Allocation}
    (has : ∀ x ∈ topWindows xs spans, a.get? x.1 = some x.2) : a.reservedRanges xs = spans := by
  induction h with
  | nil => rfl
  | cons _ _ ih =>
    obtain ⟨first, others⟩ := List.forall_mem_cons.1 has
    unfold Allocation.reservedRanges at ih ⊢
    rw [List.filterMap_cons_some (by rw [first]; rfl), ih others]
    rfl

namespace AddressMap

/-- The ranges that the fixed requests ask for. -/
def fixedRanges (m : AddressMap) : List Span :=
  (m.requests.filterMap Layout.fixedBlock?).map Block.span

theorem auto_of_mem_autoRequests {m : AddressMap} {x : String × Request}
    (hx : x ∈ m.autoRequests) : x.2.placement = .auto :=
  Placement.isAuto_iff.1 (List.mem_filter.1 hx).2

/-- The automatic requests of a map are placed first fit. -/
structure AllocatesFirstFit (m : AddressMap) : Prop where
  /-- An entry without a place of its own gets the least address where its reserve fits beside those
  of the fixed entries and of the entries that were registered before it. -/
  placed : ∀ a, m.allocate.outcome = .ok a → ∀ before name r rest,
    m.autoRequests = before ++ (name, r) :: rest →
    ∃ base, a.get? name = some ⟨base, r.size, r.reserve, none⟩ ∧
      IsLeast {b | Fits m.autoRegion (m.fixedRanges ++ a.reservedRanges before) r.reserve b} base
  /-- So does every entry that is reported to be placed, however the allocation ends. -/
  reported : ∀ name base stop, .placedAuto name base stop ∈ m.allocate.notices →
    ∃ before r rest spans, m.autoRequests = before ++ (name, r) :: rest ∧
      Packs m.autoRegion m.fixedRanges before spans ∧
      IsLeast {b | Fits m.autoRegion (m.fixedRanges ++ spans) r.reserve b} base ∧
      stop = base + r.reserve
  /-- The region is exhausted for an entry exactly if the fixed entries and the ones before it were
  placed, and there is no such address. -/
  exhausted : ∀ name size start stop,
    m.allocate.outcome = .error (.regionExhausted name size start stop) ↔
      (∃ fixed, (m.requests.foldlM Layout.placeFixed {}).outcome = .ok fixed) ∧
      ∃ before r rest spans, m.autoRequests = before ++ (name, r) :: rest ∧
        Packs m.autoRegion m.fixedRanges before spans ∧
        (∀ base, ¬ Fits m.autoRegion (m.fixedRanges ++ spans) r.reserve base) ∧
        size = r.reserve ∧ start = m.autoRegion.start ∧ stop = m.autoRegion.stop

section Proofs

variable {m : AddressMap} {name : String}

/-- The reserved ranges of the automatic requests of an allocation are packed. -/
theorem exists_packs_of_allocate {a : Allocation} (h : m.allocate.outcome = .ok a) :
    ∃ spans, Packs m.autoRegion m.fixedRanges m.autoRequests spans ∧
      ∀ x ∈ topWindows m.autoRequests spans, a.get? x.1 = some x.2 := by
  obtain ⟨fixed, top, full, hfixed, htop, hfull, rfl⟩ := allocate_eq_ok_iff.1 h
  have settled := settled_of_passes hfixed htop hfull
  rw [autoPass_eq] at htop
  obtain ⟨spans, packs, -, windows⟩ := (Layout.takes_fixedPass hfixed).autoPass
    (fun _ => auto_of_mem_autoRequests) htop
  refine ⟨spans, packs, fun x hx => ?_⟩
  rw [settled.get?_eq, lookup_eq_some_iff_mem settled.full_nodup, ← settled.mem_windows]
  refine settled.mem_of_top ?_
  rw [windows]
  exact List.mem_append_right _ hx

theorem placed_of_allocate {a : Allocation} (h : m.allocate.outcome = .ok a)
    {before rest : List (String × Request)} {r : Request}
    (split : m.autoRequests = before ++ (name, r) :: rest) :
    ∃ base, a.get? name = some ⟨base, r.size, r.reserve, none⟩ ∧
      IsLeast {b | Fits m.autoRegion (m.fixedRanges ++ a.reservedRanges before) r.reserve b}
        base := by
  obtain ⟨spans, packs, has⟩ := exists_packs_of_allocate h
  rw [split] at packs has
  obtain ⟨front, base, back, rfl, packed, least⟩ := packs.split
  have windows : topWindows (before ++ (name, r) :: rest)
      (front ++ ⟨base, base + r.reserve⟩ :: back) = topWindows before front ++
        (name, ⟨base, r.size, r.reserve, none⟩) :: topWindows rest back :=
    List.zipWith_append packed.length_eq
  rw [windows] at has
  refine ⟨base, has _ (List.mem_append_right _ (List.mem_cons_self ..)), ?_⟩
  rwa [packed.reservedRanges_eq fun x hx => has x (List.mem_append_left _ hx)]

/-- Where the automatic pass is after some of the automatic requests. -/
theorem exists_packs_of_pass {fixed t : Layout} {done : List (String × Request)}
    {x : String × Request} {rest : List (String × Request)}
    (hfixed : (m.requests.foldlM Layout.placeFixed {}).outcome = .ok fixed)
    (split : m.autoRequests = done ++ x :: rest)
    (ht : (done.foldlM (Layout.placeAuto m.autoRegion) fixed).outcome = .ok t) :
    ∃ spans, Packs m.autoRegion m.fixedRanges done spans ∧ t.Takes (m.fixedRanges ++ spans) ∧
      x.2.placement = .auto := by
  have auto : ∀ y ∈ done ++ x :: rest, y.2.placement = .auto := fun y hy =>
    auto_of_mem_autoRequests (split ▸ hy)
  obtain ⟨hdone, hrest⟩ := List.forall_mem_append.1 auto
  obtain ⟨spans, packs, takes, -⟩ := (Layout.takes_fixedPass hfixed).autoPass hdone ht
  exact ⟨spans, packs, takes, hrest x (List.mem_cons_self ..)⟩

theorem of_mem_notices_allocate {base stop : Nat}
    (h : .placedAuto name base stop ∈ m.allocate.notices) :
    ∃ before r rest spans, m.autoRequests = before ++ (name, r) :: rest ∧
      Packs m.autoRegion m.fixedRanges before spans ∧
      IsLeast {b | Fits m.autoRegion (m.fixedRanges ++ spans) r.reserve b} base ∧
      stop = base + r.reserve := by
  unfold allocate at h
  rcases Report.mem_notices_bind.1 h with h | ⟨fixed, hfixed, h⟩
  · exact absurd h
      ((Layout.SparesAuto.foldlM Layout.placeFixed_sparesAuto _ _).1 name base stop)
  rcases Report.mem_notices_bind.1 h with h | ⟨top, -, h⟩
  · rw [autoPass_eq] at h
    obtain ⟨done, ⟨other, r⟩, rest, t, split, ht, told⟩ := Report.exists_of_mem_notices_foldlM h
    obtain ⟨spans, packs, takes, auto⟩ := exists_packs_of_pass hfixed split ht
    obtain ⟨least, hleast, same⟩ := takes.mem_notices_placeAuto auto told
    obtain ⟨rfl, rfl, rfl⟩ := Notice.placedAuto.inj same
    exact ⟨done, r, rest, spans, split, packs, hleast, rfl⟩
  rcases Report.mem_notices_bind.1 h with h | ⟨full, -, h⟩
  · exact absurd h
      ((Layout.SparesAuto.foldlM (Layout.placeAttached_sparesAuto m) _ _).1 name base stop)
  · cases h

theorem exhausted_iff {size start stop : Nat} :
    m.allocate.outcome = .error (.regionExhausted name size start stop) ↔
      (∃ fixed, (m.requests.foldlM Layout.placeFixed {}).outcome = .ok fixed) ∧
      ∃ before r rest spans, m.autoRequests = before ++ (name, r) :: rest ∧
        Packs m.autoRegion m.fixedRanges before spans ∧
        (∀ base, ¬ Fits m.autoRegion (m.fixedRanges ++ spans) r.reserve base) ∧
        size = r.reserve ∧ start = m.autoRegion.start ∧ stop = m.autoRegion.stop := by
  constructor
  · intro h
    unfold allocate at h
    rcases Report.bind_eq_error_iff.1 h with h | ⟨fixed, hfixed, h⟩
    · exact absurd h
        ((Layout.SparesAuto.foldlM Layout.placeFixed_sparesAuto _ _).2 name size start stop)
    refine ⟨⟨fixed, hfixed⟩, ?_⟩
    rcases Report.bind_eq_error_iff.1 h with h | ⟨top, -, h⟩
    · rw [autoPass_eq] at h
      obtain ⟨done, ⟨other, r⟩, rest, t, split, ht, failed⟩ := Report.foldlM_eq_error_iff.1 h
      obtain ⟨spans, packs, takes, auto⟩ := exists_packs_of_pass hfixed split ht
      obtain ⟨nowhere, same⟩ := (takes.placeAuto_eq_error_iff auto).1 failed
      obtain ⟨rfl, rfl, rfl, rfl⟩ := Error.regionExhausted.inj same
      exact ⟨done, r, rest, spans, split, packs, nowhere, rfl, rfl, rfl⟩
    rcases Report.bind_eq_error_iff.1 h with h | ⟨full, -, h⟩
    · exact absurd h
        ((Layout.SparesAuto.foldlM (Layout.placeAttached_sparesAuto m) _ _).2 name size start stop)
    · cases h
  · rintro ⟨⟨fixed, hfixed⟩, before, r, rest, spans, split, packs, nowhere, rfl, rfl, rfl⟩
    refine allocate_of_autoPass_error hfixed ?_
    rw [autoPass_eq]
    have auto : ∀ x ∈ before, x.2.placement = .auto := fun x hx =>
      auto_of_mem_autoRequests (split ▸ List.mem_append_left _ hx)
    obtain ⟨t, ht⟩ := (Layout.takes_fixedPass hfixed).exists_autoPass auto packs
    -- the pass comes to the request with what was packed before it, and no other way
    obtain ⟨spans', packs', takes, hr⟩ := exists_packs_of_pass hfixed split ht
    obtain rfl := packs.right_unique packs'
    exact Report.foldlM_eq_error_iff.2 ⟨before, (name, r), rest, t, split, ht,
      (takes.placeAuto_eq_error_iff hr).2 ⟨nowhere, rfl⟩⟩

end Proofs

end AddressMap

end SocAssembly
