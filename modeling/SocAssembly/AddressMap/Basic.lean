import SocAssembly.Report

/-!
# The address map

## The model

Entries share a flat physical address space of 32 bits. Each asks for a window: so many bytes of
its own and, if others are to be attached to it, so many bytes kept free on the bus. Windows of a
page or more are measured in pages, smaller ones in units of 256 bytes (`granularity`), and sizes
are rounded up to the unit they are measured in (`windowSize`).

An `AddressMap` is the list of requests in the order in which they were registered. Its type keeps
what `add` checks: names are distinct, windows are whole and not empty, and no entry keeps less on
the bus than it occupies. `SocAssembly.AddressMap.Allocation` places the requests.
-/

namespace SocAssembly

/-- A half-open range of addresses. -/
structure Span where
  /-- The first address. -/
  start : Nat
  /-- The address after the last. -/
  stop : Nat
  deriving DecidableEq, Repr

/-- The unit of windows of at least its own size. -/
def page : Nat := 0x1000

/-- The unit of smaller windows. -/
def packed : Nat := 0x100

/-- The address after the last of the address space. -/
def addressSpaceEnd : Nat := 0x100000000

/-- The unit in which a window of this size is measured and aligned. -/
def granularity (size : Nat) : Nat := if page ≤ size then page else packed

/-- The least multiple of `unit` that is not below `n`. -/
def alignUp (n unit : Nat) : Nat := (n + unit - 1) / unit * unit

/-- The size of the window for so many bytes. -/
def windowSize (size : Nat) : Nat := alignUp size (granularity size)

theorem granularity_pos (size : Nat) : 0 < granularity size := by
  unfold granularity page packed; split <;> omega

theorem packed_dvd_granularity (size : Nat) : packed ∣ granularity size := by
  unfold granularity page packed; split
  · exact ⟨16, rfl⟩
  · exact ⟨1, rfl⟩

theorem le_alignUp {unit : Nat} (h : 0 < unit) (n : Nat) : n ≤ alignUp n unit := by
  have h1 : (n + unit - 1) % unit < unit := Nat.mod_lt _ h
  have h2 := Nat.div_add_mod (n + unit - 1) unit
  have h3 : (n + unit - 1) / unit * unit = unit * ((n + unit - 1) / unit) := Nat.mul_comm ..
  unfold alignUp
  omega

theorem dvd_alignUp (n unit : Nat) : unit ∣ alignUp n unit := Nat.dvd_mul_left ..

theorem le_windowSize (size : Nat) : size ≤ windowSize size := le_alignUp (granularity_pos size) size

/-- The size is a whole number of its own units. -/
def IsWindowSize (size : Nat) : Prop := granularity size ∣ size

theorem isWindowSize_windowSize (size : Nat) : IsWindowSize (windowSize size) := by
  refine Nat.dvd_of_mod_eq_zero ?_
  unfold windowSize alignUp granularity page packed
  split <;> split <;> omega

/-- A list without repetitions stays one when something new is put at its end. -/
theorem nodup_append_new {names : List String} {name : String} (h : names.Nodup)
    (new : name ∉ names) : (names ++ [name]).Nodup := by
  rw [List.nodup_append]
  refine ⟨h, by simp, ?_⟩
  intro a ha b hb same
  rw [List.mem_singleton] at hb
  exact new (hb ▸ same ▸ ha)

/-- Where an entry wants to be. -/
inductive Placement where
  /-- Anywhere in the automatic region. -/
  | auto
  /-- At this address. -/
  | fixed (base : Nat)
  /-- Inside the window of another entry, after what that entry occupies. -/
  | attached (parent : String)
  deriving DecidableEq, Repr

/-- What an entry asks of the bus. -/
structure Request where
  /-- Bytes that the entry occupies. -/
  size : Nat
  /-- Bytes that are kept free for it and what is attached to it. -/
  reserve : Nat
  /-- Where it wants to be. -/
  placement : Placement
  size_pos : 0 < size
  isWindowSize_size : IsWindowSize size
  isWindowSize_reserve : IsWindowSize reserve
  size_le_reserve : size ≤ reserve
  deriving DecidableEq, Repr

/-- The request for an entry of so many bytes; a wish to keep less than the entry's own window
free is read as that window. -/
def Request.ofSize (size : Nat) (reserve : Option Nat) (placement : Placement) (h : size ≠ 0) :
    Request where
  size := windowSize size
  reserve := windowSize (max (reserve.getD (windowSize size)) (windowSize size))
  placement := placement
  size_pos := Nat.lt_of_lt_of_le (Nat.pos_of_ne_zero h) (le_windowSize size)
  isWindowSize_size := isWindowSize_windowSize size
  isWindowSize_reserve := isWindowSize_windowSize _
  size_le_reserve := Nat.le_trans (Nat.le_max_right ..) (le_windowSize _)

/-- Named requests in the order of registration, and the region for those without a place. -/
structure AddressMap where
  /-- Where entries without a place of their own go. -/
  autoRegion : Span
  /-- The requests with their names. -/
  requests : List (String × Request)
  names_nodup : (requests.map Prod.fst).Nodup

namespace AddressMap

/-- The region for entries without a place, unless another is chosen. -/
def defaultRegion : Span := ⟨0xf0000000, addressSpaceEnd⟩

/-- A map without entries. -/
def empty (autoRegion : Span) : AddressMap := ⟨autoRegion, [], .nil⟩

/-- The names of the entries. -/
def names (m : AddressMap) : List String := m.requests.map Prod.fst

/-- The request under a name. -/
def request? (m : AddressMap) (name : String) : Option Request := m.requests.lookup name

/-- Registers an entry of so many bytes, unless it is empty or its name is taken. -/
def add (m : AddressMap) (name : String) (size : Nat) (reserve : Option Nat)
    (placement : Placement) : Except Error AddressMap :=
  if h : size = 0 then .error (.zeroSize name)
  else if taken : name ∈ m.names then .error (.duplicateEntry name)
  else .ok
    { m with
      requests := m.requests ++ [(name, .ofSize size reserve placement h)]
      names_nodup := by
        rw [List.map_append]
        exact nodup_append_new m.names_nodup taken }

/-- An entry is accepted exactly if it is not empty and its name is free. -/
theorem add_isOk_iff (m : AddressMap) (name : String) (size : Nat) (reserve : Option Nat)
    (placement : Placement) :
    (m.add name size reserve placement).isOk = true ↔ size ≠ 0 ∧ name ∉ m.names := by
  unfold add
  split
  · simp_all [Except.isOk, Except.toBool]
  · split <;> simp_all [Except.isOk, Except.toBool]

end AddressMap

end SocAssembly
