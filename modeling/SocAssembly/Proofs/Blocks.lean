import Mathlib
import SocAssembly.AddressMap.Allocation

/-!
# Blocks of the bus and the first gap

The ranges that are taken on the bus stand in a list of blocks. Placing looks at one block only, the
last that starts before a given end, and this is enough because the blocks are `Ordered`: each is
not empty and ends before the next begins. This module proves that the order survives an insertion
into a gap (`Ordered.insertBlock`), that one look at the last block decides whether a range is free
(`blocker_eq_none_iff`) and otherwise finds the highest block in the way
(`Ordered.blocker_eq_some_iff`), and that the search for a gap finds the least address that serves,
or nothing if there is none (`firstFit_eq_some_iff`, `firstFit_eq_none_iff`).
-/

namespace SocAssembly

/-! ### Spans -/

namespace Span

/-- The spans have no address in common: one ends before the other begins. -/
def Apart (s t : Span) : Prop := s.stop ≤ t.start ∨ t.stop ≤ s.start

/-- The first span is a part of the second. -/
def Within (s t : Span) : Prop := t.start ≤ s.start ∧ s.stop ≤ t.stop

instance (s t : Span) : Decidable (s.Apart t) := inferInstanceAs (Decidable (_ ∨ _))

instance (s t : Span) : Decidable (s.Within t) := inferInstanceAs (Decidable (_ ∧ _))

theorem Apart.symm {s t : Span} (h : s.Apart t) : t.Apart s := Or.symm h

theorem Within.trans {s t u : Span} (h : s.Within t) (h' : t.Within u) : s.Within u :=
  ⟨h'.1.trans h.1, h.2.trans h'.2⟩

/-- Parts of spans that are apart are apart. -/
theorem Apart.mono {s s' t t' : Span} (h : s'.Apart t') (hs : s.Within s') (ht : t.Within t') :
    s.Apart t := by
  rcases h with h | h
  · exact Or.inl (hs.2.trans (h.trans ht.1))
  · exact Or.inr (ht.2.trans (h.trans hs.1))

end Span

/-! ### Alignment -/

/-- Rounding up finds the least multiple: no multiple lies between. -/
theorem alignUp_le {n unit m : Nat} (pos : 0 < unit) (le : n ≤ m) (dvd : unit ∣ m) :
    alignUp n unit ≤ m := by
  obtain ⟨k, rfl⟩ := dvd
  have hk : (n + unit - 1) / unit < k + 1 := by
    rw [Nat.div_lt_iff_lt_mul pos, Nat.add_mul, Nat.mul_comm k unit]
    omega
  unfold alignUp
  rw [Nat.mul_comm]
  exact Nat.mul_le_mul_left unit (Nat.le_of_lt_succ hk)

theorem alignUp_of_dvd {n unit : Nat} (pos : 0 < unit) (dvd : unit ∣ n) : alignUp n unit = n :=
  Nat.le_antisymm (alignUp_le pos le_rfl dvd) (le_alignUp pos n)

theorem windowSize_windowSize (size : Nat) : windowSize (windowSize size) = windowSize size :=
  alignUp_of_dvd (granularity_pos _) (isWindowSize_windowSize size)

theorem packed_pos : 0 < packed := by decide

namespace IsWindowSize

theorem packed_dvd {size : Nat} (h : IsWindowSize size) : packed ∣ size :=
  (packed_dvd_granularity size).trans h

/-- A window is measured in packed units already. -/
theorem alignUp_packed {size : Nat} (h : IsWindowSize size) : alignUp size packed = size :=
  alignUp_of_dvd packed_pos h.packed_dvd

end IsWindowSize

/-! ### Ordered blocks -/

/-- The addresses of a block. -/
def Block.span (b : Block) : Span := ⟨b.start, b.stop⟩

namespace Layout

/-- No block is empty, and each ends before the next begins. -/
structure Ordered (blocks : List Block) : Prop where
  /-- Each block ends before those behind it begin. -/
  pairwise : blocks.Pairwise fun b c => b.stop ≤ c.start
  /-- No block is empty. -/
  start_lt : ∀ b ∈ blocks, b.start < b.stop

/-- No block meets the span. -/
def Free (blocks : List Block) (s : Span) : Prop := ∀ b ∈ blocks, b.span.Apart s

theorem Ordered.nil : Ordered [] := ⟨List.Pairwise.nil, by simp⟩

theorem insertBlock_perm (b : Block) (blocks : List Block) :
    (insertBlock b blocks).Perm (b :: blocks) := by
  induction blocks with
  | nil => exact List.Perm.refl _
  | cons c rest ih =>
    unfold insertBlock
    split
    · exact List.Perm.refl _
    · exact (ih.cons c).trans (List.Perm.swap b c rest)

@[simp] theorem mem_insertBlock {b c : Block} {blocks : List Block} :
    c ∈ insertBlock b blocks ↔ c = b ∨ c ∈ blocks := by
  rw [(insertBlock_perm b blocks).mem_iff, List.mem_cons]

/-- A block put into a gap leaves the blocks in order. -/
theorem Ordered.insertBlock {b : Block} {blocks : List Block} (h : Ordered blocks)
    (pos : b.start < b.stop) (free : Free blocks b.span) : Ordered (insertBlock b blocks) := by
  refine ⟨?_, ?_⟩
  · induction blocks with
    | nil => exact List.pairwise_singleton _ _
    | cons c rest ih =>
      obtain ⟨hc, hrest⟩ := List.pairwise_cons.1 h.pairwise
      have hcpos := h.start_lt c (List.mem_cons_self ..)
      have hfree : c.stop ≤ b.start ∨ b.stop ≤ c.start := free c (List.mem_cons_self ..)
      unfold Layout.insertBlock
      split
      · rename_i hlt
        -- the new block comes first, so everything else starts behind it
        have hbc : b.stop ≤ c.start := by omega
        refine List.pairwise_cons.2 ⟨fun d hd => ?_, h.pairwise⟩
        rcases List.mem_cons.1 hd with rfl | hd
        · exact hbc
        · have := hc d hd
          omega
      · rename_i hle
        have htail : Ordered rest :=
          ⟨hrest, fun d hd => h.start_lt d (List.mem_cons_of_mem c hd)⟩
        refine List.pairwise_cons.2
          ⟨fun d hd => ?_, ih htail fun d hd => free d (List.mem_cons_of_mem c hd)⟩
        rcases mem_insertBlock.1 hd with rfl | hd
        · omega
        · exact hc d hd
  · intro c hc
    rcases mem_insertBlock.1 hc with rfl | hc
    · exact pos
    · exact h.start_lt c hc

/-- Two blocks of an ordered list are apart, unless they are the same. -/
theorem Ordered.apart {blocks : List Block} (h : Ordered blocks) {b c : Block} (hb : b ∈ blocks)
    (hc : c ∈ blocks) (ne : b ≠ c) : b.span.Apart c.span := by
  have symm : Std.Symm fun b c : Block => b.span.Apart c.span := ⟨fun _ _ h => h.symm⟩
  have pairwise : blocks.Pairwise fun b c => b.span.Apart c.span := h.pairwise.imp Or.inl
  exact pairwise.forall hb hc ne

/-- The order of the blocks is determined by the blocks. -/
theorem Ordered.eq_of_perm {blocks blocks' : List Block} (h : Ordered blocks)
    (h' : Ordered blocks') (perm : blocks.Perm blocks') : blocks = blocks' := by
  refine perm.eq_of_pairwise (fun b c hb _ hbc hcb => ?_) h.pairwise h'.pairwise
  have := h.start_lt b hb
  have := h'.start_lt c ‹_›
  omega

/-! ### The block in the way -/

/-- The block that is looked at starts before the end, and all others that do so end before it
begins. -/
theorem Ordered.stop_le_of_lastBefore {blocks : List Block} (h : Ordered blocks) {stop : Nat}
    {b c : Block} (last : lastBefore blocks stop = some b) (hc : c ∈ blocks)
    (before : c.start < stop) : c = b ∨ c.stop ≤ b.start := by
  obtain ⟨init, hinit⟩ := List.getLast?_eq_some_iff.1 last
  have hmem : c ∈ blocks.filter (·.start < stop) :=
    List.mem_filter.2 ⟨hc, decide_eq_true before⟩
  have hpair := h.pairwise.sublist (List.filter_sublist (p := (·.start < stop)))
  rw [hinit] at hmem hpair
  rcases List.mem_append.1 hmem with hc | hc
  · exact Or.inr ((List.pairwise_append.1 hpair).2.2 c hc b (List.mem_singleton_self b))
  · exact Or.inl (List.mem_singleton.1 hc)

theorem mem_of_lastBefore {blocks : List Block} {stop : Nat} {b : Block}
    (h : lastBefore blocks stop = some b) : b ∈ blocks ∧ b.start < stop := by
  obtain ⟨hb, hlt⟩ := List.mem_filter.1 (List.mem_of_getLast? h)
  exact ⟨hb, of_decide_eq_true hlt⟩

theorem exists_lastBefore {blocks : List Block} {stop : Nat} {c : Block} (hc : c ∈ blocks)
    (before : c.start < stop) : ∃ b, lastBefore blocks stop = some b := by
  have hmem : c ∈ blocks.filter (·.start < stop) :=
    List.mem_filter.2 ⟨hc, decide_eq_true before⟩
  exact Option.isSome_iff_exists.1 (List.getLast?_isSome.2 (List.ne_nil_of_mem hmem))

theorem blocker_eq_some_iff {blocks : List Block} {size candidate : Nat} {b : Block} :
    blocker blocks size candidate = some b ↔
      lastBefore blocks (candidate + size) = some b ∧ candidate < b.stop := by
  unfold blocker
  rw [Option.filter_eq_some_iff, decide_eq_true_eq]

/-- One look at the last block that starts before its end decides whether a range is free. -/
theorem blocker_eq_none_iff {blocks : List Block} (h : Ordered blocks) (size candidate : Nat) :
    blocker blocks size candidate = none ↔ Free blocks ⟨candidate, candidate + size⟩ := by
  constructor
  · intro hnone c hc
    by_cases before : c.start < candidate + size
    · obtain ⟨b, hb⟩ := exists_lastBefore hc before
      have hstop : b.stop ≤ candidate := by
        by_contra hlt
        have := blocker_eq_some_iff.2 ⟨hb, Nat.lt_of_not_le hlt⟩
        rw [hnone] at this
        cases this
      left
      show c.stop ≤ candidate
      rcases h.stop_le_of_lastBefore hb hc before with rfl | hle
      · exact hstop
      · have := h.start_lt b (mem_of_lastBefore hb).1
        omega
    · exact Or.inr (Nat.le_of_not_lt before)
  · intro free
    cases hsome : blocker blocks size candidate with
    | none => rfl
    | some b =>
      obtain ⟨hb, hbeyond⟩ := blocker_eq_some_iff.1 hsome
      obtain ⟨hmem, hbefore⟩ := mem_of_lastBefore hb
      have : b.stop ≤ candidate ∨ candidate + size ≤ b.start := free b hmem
      omega

/-- What is in the way is the highest of the blocks that meet the range. -/
theorem Ordered.blocker_eq_some_iff {blocks : List Block} (h : Ordered blocks)
    {size candidate : Nat} {b : Block} :
    blocker blocks size candidate = some b ↔
      b ∈ blocks ∧ ¬ b.span.Apart ⟨candidate, candidate + size⟩ ∧
        ∀ c ∈ blocks, ¬ c.span.Apart ⟨candidate, candidate + size⟩ → c.start ≤ b.start := by
  have meets : ∀ c : Block, ¬ c.span.Apart ⟨candidate, candidate + size⟩ ↔
      candidate < c.stop ∧ c.start < candidate + size := by
    intro c
    show ¬ (c.stop ≤ candidate ∨ candidate + size ≤ c.start) ↔ _
    omega
  simp only [Layout.blocker_eq_some_iff, meets]
  constructor
  · rintro ⟨last, beyond⟩
    obtain ⟨mem, before⟩ := mem_of_lastBefore last
    refine ⟨mem, ⟨beyond, before⟩, fun c hc ⟨_, hbefore⟩ => ?_⟩
    rcases h.stop_le_of_lastBefore last hc hbefore with rfl | behind
    · exact le_rfl
    · exact (h.start_lt c hc).le.trans behind
  · rintro ⟨mem, ⟨beyond, before⟩, highest⟩
    obtain ⟨c, last⟩ := exists_lastBefore mem before
    obtain ⟨hc, hbefore⟩ := mem_of_lastBefore last
    rcases h.stop_le_of_lastBefore last mem before with rfl | behind
    · exact ⟨last, beyond⟩
    · -- the last block would lie behind `b` and still meet the range
      have hpos := h.start_lt c hc
      have hbpos := h.start_lt b mem
      have := highest c hc ⟨by omega, hbefore⟩
      omega

/-! ### The first gap -/

/-- A range of so many bytes can start at this address: it is in units of its granularity, lies
within the region and meets no block. -/
structure Serves (blocks : List Block) (region : Span) (size base : Nat) : Prop where
  /-- It starts in the region. -/
  start_le : region.start ≤ base
  /-- It is aligned. -/
  aligned : granularity size ∣ base
  /-- It ends in the region. -/
  stop_le : base + size ≤ region.stop
  /-- It is free. -/
  free : Free blocks ⟨base, base + size⟩

/-- What the search does with a candidate: it takes the least address that serves from the
candidate on. -/
theorem firstFit_spec {blocks : List Block} (h : Ordered blocks) (regionStop size : Nat)
    (candidate : Nat) (aligned : granularity size ∣ candidate) :
    match firstFit blocks regionStop size candidate with
    | some base => Serves blocks ⟨candidate, regionStop⟩ size base ∧
        ∀ x, Serves blocks ⟨candidate, regionStop⟩ size x → base ≤ x
    | none => ∀ x, ¬ Serves blocks ⟨candidate, regionStop⟩ size x := by
  fun_induction firstFit blocks regionStop size candidate with
  | case1 candidate full =>
    intro x hx
    have hstart : candidate ≤ x := hx.start_le
    have hstop : x + size ≤ regionStop := hx.stop_le
    omega
  | case2 candidate room hnone =>
    have free := (blocker_eq_none_iff h size candidate).1 hnone
    exact ⟨⟨le_rfl, aligned, Nat.le_of_not_lt room, free⟩, fun x hx => hx.start_le⟩
  | case3 candidate room b hb ih =>
    obtain ⟨hlast, hbeyond⟩ := blocker_eq_some_iff.1 hb
    obtain ⟨hmem, hbefore⟩ := mem_of_lastBefore hlast
    -- an address that serves misses the block, and it cannot end before the block begins
    have skip : ∀ x, Serves blocks ⟨candidate, regionStop⟩ size x ↔
        Serves blocks ⟨alignUp b.stop (granularity size), regionStop⟩ size x := by
      intro x
      constructor
      · intro hx
        have hstart : candidate ≤ x := hx.start_le
        have hfree : b.stop ≤ x ∨ x + size ≤ b.start := hx.free b hmem
        exact ⟨alignUp_le (granularity_pos size) (by omega) hx.aligned, hx.aligned, hx.stop_le,
          hx.free⟩
      · intro hx
        have hstart : alignUp b.stop (granularity size) ≤ x := hx.start_le
        have hle := le_alignUp (granularity_pos size) b.stop
        exact ⟨show candidate ≤ x by omega, hx.aligned, hx.stop_le, hx.free⟩
    have := ih (dvd_alignUp b.stop (granularity size))
    simp only [skip]
    exact this

theorem serves_alignUp_iff {blocks : List Block} {region : Span} {size base : Nat} :
    Serves blocks ⟨alignUp region.start (granularity size), region.stop⟩ size base ↔
      Serves blocks region size base := by
  constructor
  · intro h
    exact ⟨(le_alignUp (granularity_pos size) region.start).trans h.start_le, h.aligned, h.stop_le,
      h.free⟩
  · intro h
    exact ⟨alignUp_le (granularity_pos size) h.start_le h.aligned, h.aligned, h.stop_le, h.free⟩

/-- The search finds an address exactly if it is the least that serves. -/
theorem firstFit_eq_some_iff {blocks : List Block} (h : Ordered blocks) (region : Span)
    (size base : Nat) :
    firstFit blocks region.stop size (alignUp region.start (granularity size)) = some base ↔
      Serves blocks region size base ∧ ∀ x, Serves blocks region size x → base ≤ x := by
  have spec := firstFit_spec h region.stop size _ (dvd_alignUp region.start (granularity size))
  simp only [serves_alignUp_iff] at spec
  constructor
  · intro hfit
    rw [hfit] at spec
    exact spec
  · rintro ⟨hserves, hleast⟩
    cases hfit : firstFit blocks region.stop size (alignUp region.start (granularity size)) with
    | none =>
      rw [hfit] at spec
      exact absurd hserves (spec base)
    | some other =>
      rw [hfit] at spec
      rw [Nat.le_antisymm (spec.2 base hserves) (hleast other spec.1)]

/-- The search fails exactly if no address serves. -/
theorem firstFit_eq_none_iff {blocks : List Block} (h : Ordered blocks) (region : Span)
    (size : Nat) :
    firstFit blocks region.stop size (alignUp region.start (granularity size)) = none ↔
      ∀ x, ¬ Serves blocks region size x := by
  have spec := firstFit_spec h region.stop size _ (dvd_alignUp region.start (granularity size))
  simp only [serves_alignUp_iff] at spec
  cases hfit : firstFit blocks region.stop size (alignUp region.start (granularity size)) with
  | none =>
    rw [hfit] at spec
    exact ⟨fun _ => spec, fun _ => rfl⟩
  | some base =>
    rw [hfit] at spec
    exact ⟨fun hnone => (by cases hnone), fun hnone => absurd spec.1 (hnone base)⟩

end Layout

end SocAssembly
