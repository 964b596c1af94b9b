import Mathlib
import SocAssembly.Proofs.Allocation
import SocAssembly.Proofs.PlannedParts
import SocAssembly.Proofs.Registration
import SocAssembly.Proofs.WordMachine

/-!
# Runs in words of 64 bits

That a machine with words of 64 bits gives what exact numbers give, with the same notices on the way
and nothing cut off, is one statement for each of its computations: it leaves the flag alone and
gives a certain report (`Session.Gives`). This holds of a sum or a product that is a word, and is
handed on from the parts of a computation to the whole.

What remains is to bound the numbers. Here this is done for the operations, for the registers of a
peripheral, and for the description of a system. Sizes and addresses of a descriptor are below 2^63,
and as 2^63 is a whole number of pages, a size is never rounded up beyond it (`windowSize_le_half`);
so the end of a fixed window is a word even where it is far outside the address space.
-/

namespace SocAssembly

/-! ### Sessions that give a report -/

theorem Report.map_eq {α β : Type} (f : α → β) (r : Report α) :
    f <$> r = ⟨r.notices, r.outcome.map f⟩ := by
  show r.andThen (fun a => pure (f a)) = _
  cases outcome : r.outcome with
  | error e =>
    rw [Report.andThen_error outcome]
    rfl
  | ok a =>
    rw [Report.andThen_ok outcome, Report.notices_pure, List.append_nil]
    rfl

namespace Session

variable {σ α β γ : Type}

/-- The session leaves the state alone and gives the report. -/
def Gives (x : Session σ α) (r : Report α) : Prop := ∀ s, x.run s = (s, r)

namespace Gives

theorem pure (a : α) : (Pure.pure a : Session σ α).Gives (Pure.pure a) := fun _ => rfl

theorem fail (e : Error) : (Session.fail e : Session σ α).Gives (Report.fail e) := fun _ => rfl

theorem note (n : Notice) : (Session.note n : Session σ Unit).Gives (Report.note n) := fun _ => rfl

theorem ofExcept (x : Except Error α) : (Session.ofExcept x : Session σ α).Gives (.ofExcept x) :=
  fun _ => rfl

/-- One session after another gives one report after another, also if the first hands on its value
in another form. -/
theorem bind_map {x : Session σ β} {r : Report α} {wrap : α → β} {f : β → Session σ γ}
    {g : α → Report γ} (first : x.Gives (wrap <$> r))
    (next : ∀ a, r.outcome = .ok a → (f (wrap a)).Gives (g a)) : (x >>= f).Gives (r >>= g) := by
  intro s
  have start := first s
  rw [Report.map_eq] at start
  show _ = (s, r.andThen g)
  cases outcome : r.outcome with
  | error e =>
    rw [outcome] at start
    have failed : (x.run s).2.outcome = .error e := by rw [start]; rfl
    rw [run_bind_error failed, start, Report.andThen_error outcome]
  | ok a =>
    rw [outcome] at start
    have passed : (x.run s).2.outcome = .ok (wrap a) := by rw [start]; rfl
    rw [run_bind_ok passed, start, next a outcome s, Report.andThen_ok outcome]

theorem bind {x : Session σ α} {r : Report α} {f : α → Session σ β} {g : α → Report β}
    (first : x.Gives r) (next : ∀ a, r.outcome = .ok a → (f a).Gives (g a)) :
    (x >>= f).Gives (r >>= g) := by
  rw [← id_map r] at first
  exact first.bind_map next

/-- A session that gives a value without notices goes on with this value. -/
theorem bind_pure {x : Session σ α} {a : α} {f : α → Session σ β} {r : Report β}
    (first : x.Gives (Pure.pure a)) (next : (f a).Gives r) : (x >>= f).Gives r := by
  have both : (x >>= f).Gives ((Pure.pure a : Report α) >>= fun _ => r) := by
    refine first.bind fun b same => ?_
    cases same
    exact next
  rwa [LawfulMonad.pure_bind] at both

/-- Steps that give reports can be repeated along a list, as long as the states are such that the
next step does. -/
theorem foldlM {ρ τ : Type} {wrap : ρ → τ} {ask : α → β} {f : τ → β → Session σ τ}
    {g : ρ → α → Report ρ} {P : ρ → Prop} {xs : List α}
    (step : ∀ s, ∀ x ∈ xs, P s → (f (wrap s) (ask x)).Gives (wrap <$> g s x))
    (keeps : ∀ s, ∀ x ∈ xs, ∀ t, P s → (g s x).outcome = .ok t → P t) {s : ρ} (h : P s) :
    ((xs.map ask).foldlM f (wrap s)).Gives (wrap <$> xs.foldlM g s) := by
  induction xs generalizing s with
  | nil => exact pure (wrap s)
  | cons x rest ih =>
    rw [List.map_cons, List.foldlM_cons, List.foldlM_cons, map_bind]
    refine (step s x (List.mem_cons_self ..) h).bind_map fun t ok => ?_
    refine ih (fun s y hy => step s y (List.mem_cons_of_mem x hy))
      (fun s y hy => keeps s y (List.mem_cons_of_mem x hy)) ?_
    exact keeps s x (List.mem_cons_self ..) t h ok

/-- The states may be the same. -/
theorem foldlM_id {ρ : Type} {ask : α → β} {f : ρ → β → Session σ ρ} {g : ρ → α → Report ρ}
    {P : ρ → Prop} {xs : List α} (step : ∀ s, ∀ x ∈ xs, P s → (f s (ask x)).Gives (g s x))
    (keeps : ∀ s, ∀ x ∈ xs, ∀ t, P s → (g s x).outcome = .ok t → P t) {s : ρ} (h : P s) :
    ((xs.map ask).foldlM f s).Gives (xs.foldlM g s) := by
  show ((xs.map ask).foldlM f (id s)).Gives _
  rw [← id_map (xs.foldlM g s)]
  refine foldlM (fun s x hx hs => ?_) keeps h
  rw [id_map]
  exact step s x hx hs

/-- The elements may be taken as they are, and any state may be one on the way. -/
theorem foldlM_of_forall {ρ τ : Type} {wrap : ρ → τ} {f : τ → α → Session σ τ}
    {g : ρ → α → Report ρ} {xs : List α}
    (step : ∀ s, ∀ x ∈ xs, (f (wrap s) x).Gives (wrap <$> g s x)) (s : ρ) :
    (xs.foldlM f (wrap s)).Gives (wrap <$> xs.foldlM g s) := by
  have mapped : ((xs.map id).foldlM f (wrap s)).Gives (wrap <$> xs.foldlM g s) :=
    foldlM (P := fun _ => True) (fun s x hx _ => step s x hx) (fun _ _ _ _ _ _ => trivial) trivial
  rwa [List.map_id] at mapped

end Gives

end Session

/-! ### Operations -/

theorem granularity_dvd_page (size : Nat) : granularity size ∣ page := by
  unfold granularity page packed
  split
  · exact ⟨1, rfl⟩
  · exact ⟨16, rfl⟩

/-- Half of what a word can say is a whole number of pages. -/
theorem page_dvd_half : page ∣ 2 ^ 63 := ⟨2 ^ 51, rfl⟩

/-- So is the address space. -/
theorem page_dvd_addressSpaceEnd : page ∣ addressSpaceEnd := ⟨2 ^ 20, rfl⟩

theorem windowSize_le_half {size : Nat} (h : size ≤ 2 ^ 63) : windowSize size ≤ 2 ^ 63 :=
  alignUp_le (granularity_pos size) h ((granularity_dvd_page size).trans page_dvd_half)

namespace Words

open Session

variable {a b n unit : Nat}

theorem keep_gives (h : n < 2 ^ 64) : (keep n).Gives (pure n) := by
  intro lost
  show (lost || decide (2 ^ 64 ≤ n), pure (n % 2 ^ 64)) = (lost, pure n)
  rw [decide_eq_false (Nat.not_le.2 h), Bool.or_false, Nat.mod_eq_of_lt h]

theorem add_gives (h : a + b < 2 ^ 64) : (add a b).Gives (pure (a + b)) := keep_gives h

theorem mul_gives (h : a * b < 2 ^ 64) : (mul a b).Gives (pure (a * b)) := keep_gives h

theorem checkedAdd_gives (h : a + b < 2 ^ 64) :
    (checkedAdd a b).Gives (pure (some (a + b))) := by
  intro lost
  show (if a + b < 2 ^ 64 then _ else _) = _
  rw [if_pos h]

/-- A quotient is rounded up by adding one if something remains. -/
theorem div_add_pred (pos : 0 < b) :
    (a + b - 1) / b = if a % b = 0 then a / b else a / b + 1 := by
  have split := Nat.div_add_mod a b
  have rest := Nat.mod_lt a pos
  split_ifs with whole
  · refine Nat.div_eq_of_lt_le ?_ ?_
    · rw [Nat.mul_comm]
      omega
    · rw [Nat.add_mul, Nat.mul_comm]
      omega
  · refine Nat.div_eq_of_lt_le ?_ ?_
    · rw [Nat.add_mul, Nat.mul_comm]
      omega
    · rw [Nat.add_mul, Nat.add_mul, Nat.mul_comm]
      omega

theorem divCeil_gives (pos : 0 < b) (h : (a + b - 1) / b < 2 ^ 64) :
    (divCeil a b).Gives (pure ((a + b - 1) / b)) := by
  rw [div_add_pred pos] at h ⊢
  unfold divCeil
  split_ifs with whole
  · exact .pure _
  · rw [if_neg whole] at h
    exact add_gives h

theorem alignUp_gives (pos : 0 < unit) (h : SocAssembly.alignUp n unit < 2 ^ 64) :
    (alignUp n unit).Gives (pure (SocAssembly.alignUp n unit)) := by
  have units : (n + unit - 1) / unit < 2 ^ 64 := (Nat.le_mul_of_pos_right _ pos).trans_lt h
  exact (divCeil_gives pos units).bind_pure (mul_gives h)

theorem windowSize_gives (h : n ≤ 2 ^ 63) :
    (windowSize n).Gives (pure (SocAssembly.windowSize n)) :=
  alignUp_gives (granularity_pos n) ((windowSize_le_half h).trans_lt (by decide))

/-- A size that is rounded up beyond all words is cut off, and the flag says so. -/
example : (windowSize (2 ^ 64 - 1)).run false = (true, pure 0) := by rfl

/-! ### Registers -/

theorem byteSize_gives {r : Register} (h : r.byteSize < 2 ^ 64) :
    (byteSize r).Gives (pure r.byteSize) := mul_gives h

theorem placeFrom_gives {offset : Nat} {rs : List Register}
    (h : offset + totalBytes rs < 2 ^ 64) :
    (placeFrom offset rs).Gives (pure (SocAssembly.placeFrom offset rs)) := by
  induction rs generalizing offset with
  | nil => exact .pure _
  | cons r rest ih =>
    rw [totalBytes_cons] at h
    refine (byteSize_gives (by omega)).bind_pure ((add_gives (by omega)).bind_pure ?_)
    exact (ih (by omega)).bind_pure (.pure _)

theorem layout_gives {p : Peripheral} (h : p.blockSize < 2 ^ 64) :
    (layout p).Gives (pure p.layout) := by
  rw [Peripheral.blockSize_eq_totalBytes] at h
  exact placeFrom_gives (by omega)

theorem blockSize_gives {p : Peripheral} (h : p.blockSize < 2 ^ 64) :
    (blockSize p).Gives (pure p.blockSize) := by
  refine (layout_gives h).bind_pure ?_
  cases last : p.layout.getLast? with
  | none =>
    have empty : p.blockSize = 0 := by
      unfold Peripheral.blockSize
      rw [last]
      rfl
    rw [empty]
    exact .pure 0
  | some r =>
    have stop : p.blockSize = r.offset + r.register.byteSize := by
      unfold Peripheral.blockSize
      rw [last]
      rfl
    rw [stop] at h ⊢
    exact (byteSize_gives (by omega)).bind_pure (add_gives h)

end Words

/-! ### Adding parts -/

/-- What a request asks, as a program keeps it. -/
def Request.ask (r : Request) : Ask := ⟨r.size, r.reserve, r.placement⟩

/-- A system as a program keeps it. -/
def Soc.words (s : Soc) : WordSoc where
  name := s.name
  cpu := s.cpu
  clockDomain := s.clockDomain
  firmware := s.firmware
  requests := s.parts.map fun part => (part.name, part.request.ask)
  memories := s.memories
  peripherals := s.peripherals

/-- The component fits in half of what a word can say. -/
structure Component.IsSmall (c : Component) : Prop where
  /-- Its bytes do. -/
  size_le : c.size ≤ 2 ^ 63
  /-- So do the bytes that it wants to keep free. -/
  reserve_le : ∀ n, c.reserve = some n → n ≤ 2 ^ 63

namespace Words

open Session

theorem request_gives {size : Nat} {reserve : Option Nat} (placement : Placement) (h : size ≠ 0)
    (size_le : size ≤ 2 ^ 63) (reserve_le : ∀ n, reserve = some n → n ≤ 2 ^ 63) :
    (request size reserve placement).Gives
      (pure (Request.ofSize size reserve placement h).ask) := by
  have whole := windowSize_le_half size_le
  have wanted : max (reserve.getD (SocAssembly.windowSize size)) (SocAssembly.windowSize size) ≤
      2 ^ 63 := by
    refine max_le ?_ whole
    cases reserve with
    | none => exact whole
    | some n => exact reserve_le n rfl
  exact (windowSize_gives size_le).bind_pure ((windowSize_gives wanted).bind_pure (.pure _))

theorem names_words (s : Soc) : s.words.requests.map Prod.fst = s.parts.map Part.name := by
  unfold Soc.words
  rw [List.map_map]
  rfl

/-- A component is added to what the program keeps as it is added to the system. -/
theorem addComponent_gives {s : Soc} {c : Component} (placement : Placement) (small : c.IsSmall) :
    (addComponent s.words c c.size placement).Gives
      (Soc.words <$> .ofExcept (s.add c placement)) := by
  have taken : c.name ∈ s.words.requests.map Prod.fst ↔
      c.name ∈ s.memories.map (·.name) ++ s.peripherals.map (·.name) := by
    rw [names_words]
    exact s.names_perm.mem_iff.symm
  unfold addComponent
  cases added : s.add c placement with
  | error e =>
    rcases Soc.add_eq_error_iff.1 added with ⟨empty, rfl⟩ | ⟨size, known, rfl⟩
    · rw [if_pos empty]
      exact .fail _
    · rw [if_neg size, if_pos (taken.2 known)]
      exact .fail _
  | ok t =>
    have accepted : ∀ e, s.add c placement ≠ .error e := fun e failed => by
      rw [added] at failed
      cases failed
    have size : c.size ≠ 0 := fun empty =>
      accepted _ (Soc.add_eq_error_iff.2 (Or.inl ⟨empty, rfl⟩))
    have new : c.name ∉ s.words.requests.map Prod.fst := fun known =>
      accepted _ (Soc.add_eq_error_iff.2 (Or.inr ⟨size, taken.1 known, rfl⟩))
    obtain ⟨part, rfl, rfl, extended⟩ := Soc.exists_extends_of_add added
    rw [if_neg size, if_neg new]
    refine (request_gives part.placement size small.size_le small.reserve_le).bind_pure ?_
    have same : t.words = { s.words with
        requests := s.words.requests ++ [(part.component.name, part.request.ask)]
        memories := s.words.memories ++ part.component.memory?.toList
        peripherals := s.words.peripherals ++ part.component.peripheral?.toList } := by
      unfold Soc.words
      rw [extended.parts_eq, List.map_append, extended.memories_eq, extended.peripherals_eq,
        extended.name_eq, extended.cpu_eq, extended.clockDomain_eq, extended.firmware_eq]
      rfl
    rw [Report.map_eq]
    show Session.Gives _ (pure t.words)
    rw [same]
    exact .pure _

/-- A peripheral of a descriptor is small, for its registers fit the smallest window, and it keeps a
page free at most. -/
theorem isSmall_of_peripheral {p : PeripheralPlan} {q : Peripheral} (h : p.peripheral = .ok q) :
    (Component.peripheral q).IsSmall := by
  obtain ⟨-, window, short⟩ := PeripheralPlan.spec_of_peripheral h
  have block : q.blockSize ≤ packed := by
    rw [short.blockSize_eq]
    exact short.length_le
  refine ⟨block.trans (by decide), fun n kept => ?_⟩
  have kind : p.kind.window = some n := window ▸ kept
  unfold PeripheralKind.window at kind
  split at kind
  · cases kind
    decide
  · cases kind

theorem addMemoryPlan_gives {s : Soc} {m : MemoryPlan} (h : m.memory.size < 2 ^ 63) :
    (addMemoryPlan s.words m).Gives (Soc.words <$> .ofExcept (s.addMemoryPlan m)) :=
  addComponent_gives m.placement ⟨h.le, fun _ none => nomatch none⟩

theorem addPeripheralPlan_gives (s : Soc) (p : PeripheralPlan) :
    (addPeripheralPlan s.words p).Gives (Soc.words <$> .ofExcept (s.addPeripheralPlan p)) := by
  have split : Report.ofExcept (s.addPeripheralPlan p) =
      .ofExcept p.peripheral >>= fun q => .ofExcept p.placement >>= fun placement =>
        .ofExcept (s.add (.peripheral q) placement) :=
    (Report.ofExcept_bind p.peripheral _).trans
      (congrArg (_ >>= ·) (funext fun q => Report.ofExcept_bind p.placement _))
  rw [split, map_bind]
  refine (Gives.ofExcept p.peripheral).bind fun q made => ?_
  rw [map_bind]
  refine (Gives.ofExcept p.placement).bind fun placement _ => ?_
  have small := isSmall_of_peripheral made
  exact (blockSize_gives (small.size_le.trans_lt (by decide))).bind_pure
    (addComponent_gives placement small)

end Words

/-- The sizes and addresses of the descriptor are below half of what a word can say, as those that
are written as signed numbers are. -/
structure Descriptor.IsSmall (d : Descriptor) : Prop where
  /-- The sizes of memories are. -/
  memory_size : ∀ m ∈ d.memories, m.memory.size < 2 ^ 63
  /-- The addresses of memories are. -/
  memory_address : ∀ m ∈ d.memories, ∀ base, m.address = some base → base < 2 ^ 63
  /-- The addresses of peripherals are. -/
  peripheral_address : ∀ p ∈ d.peripherals, ∀ base, p.address = some base → base < 2 ^ 63

namespace Words

open Session

/-- The system of a descriptor is put together as it is with exact numbers. -/
theorem ofDescriptor_gives {d : Descriptor} (small : d.IsSmall) :
    (ofDescriptor d).Gives (Soc.words <$> .ofExcept (Soc.ofDescriptor d)) := by
  let bare : Soc :=
    { name := d.name, cpu := d.cpu, clockDomain := d.clockDomain, firmware := d.firmware }
  have split : Report.ofExcept (Soc.ofDescriptor d) =
      (d.memories.foldlM (fun s m => Report.ofExcept (Soc.addMemoryPlan s m)) bare >>= fun t =>
        d.peripherals.foldlM (fun s p => Report.ofExcept (Soc.addPeripheralPlan s p)) t) := by
    simp only [← Report.ofExcept_foldlM]
    exact Report.ofExcept_bind _ _
  rw [split, map_bind]
  have memories := Gives.foldlM_of_forall
    (fun s m hm => addMemoryPlan_gives (s := s) (small.memory_size m hm)) bare
  refine memories.bind_map fun t _ => ?_
  exact Gives.foldlM_of_forall (fun s p _ => addPeripheralPlan_gives s p) t

end Words

end SocAssembly
