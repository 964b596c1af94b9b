import Mathlib
import SocAssembly.Build.Constraints
import SocAssembly.Proofs.Elaborating
import SocAssembly.Proofs.Numerals

/-!
# Names of the bits of ports

The name of a bit is put together from the resource and its number, the signal if it has a name, the
direction, and the place of the bit if there are several. Single underscores may stand anywhere in
the names of resources, but the first two that follow one another end the port, unless a resource
has such a pair itself or makes one with the underscore behind it (`IsPortName`). Then the name of a
bit tells the port, and the last pair of underscores ends the name of the signal, whatever that is.
So different bits have different names (`nodup_bitNames`).
-/

namespace SocAssembly

/-! ### Underscores -/

/-- No two underscores follow one another. -/
def SingleUnderscores (cs : List Char) : Prop := cs.IsChain fun c d => c ≠ '_' ∨ d ≠ '_'

/-- The first pair of underscores behind such a name is behind the name and not in it. -/
def IsPortName (s : String) : Prop := SingleUnderscores (s.toList ++ ['_'])

instance (cs : List Char) : Decidable (SingleUnderscores cs) :=
  inferInstanceAs (Decidable (List.IsChain _ _))

instance (s : String) : Decidable (IsPortName s) :=
  inferInstanceAs (Decidable (SingleUnderscores _))

/-- A name of letters, digits and single underscores, none of these first or last. -/
structure IsPlainPortName (s : String) : Prop where
  /-- There is nothing else. -/
  chars : ∀ c ∈ s.toList, c.isAlphanum = true ∨ c = '_'
  /-- Underscores are single. -/
  single : SingleUnderscores s.toList
  /-- None is first. -/
  head : s.toList.head? ≠ some '_'
  /-- None is last. -/
  last : s.toList.getLast? ≠ some '_'

theorem IsPlainPortName.isPortName {s : String} (h : IsPlainPortName s) : IsPortName s := by
  refine List.isChain_append.2 ⟨h.single, List.isChain_singleton _, fun c hc d _ => ?_⟩
  refine Or.inl ?_
  rintro rfl
  exact h.last hc

theorem not_singleUnderscores (cs ds : List Char) :
    ¬ SingleUnderscores (cs ++ '_' :: '_' :: ds) := by
  intro single
  have pair := (List.isChain_append_cons_cons.1 single).2.1
  simp at pair

theorem singleUnderscores_append {cs : List Char} (h : '_' ∉ cs) :
    SingleUnderscores (cs ++ ['_']) := by
  induction cs with
  | nil => exact List.isChain_singleton _
  | cons c rest ih =>
    rw [List.mem_cons, not_or] at h
    exact (ih h.2).cons fun d _ => Or.inl (Ne.symm h.1)

/-- Nothing can be taken from behind the first pair of underscores to the text in front. -/
theorem eq_nil_of_doubled {xs zs ds es : List Char} (single : SingleUnderscores (xs ++ zs ++ ['_']))
    (h : '_' :: '_' :: ds = zs ++ '_' :: '_' :: es) : zs = [] := by
  rcases zs with _ | ⟨y, _ | ⟨z, zs⟩⟩
  · rfl
  · obtain ⟨rfl, -⟩ := List.cons.inj h
    rw [List.append_assoc] at single
    exact absurd single (not_singleUnderscores xs [])
  · simp only [List.cons_append, List.cons.injEq] at h
    obtain ⟨rfl, rfl, -⟩ := h
    rw [List.append_assoc] at single
    exact absurd single (not_singleUnderscores xs (zs ++ ['_']))

/-- Two texts that are cut at their first pair of underscores agree before and behind it. -/
theorem eq_of_append_doubled {xs ys ds es : List Char} (hxs : SingleUnderscores (xs ++ ['_']))
    (hys : SingleUnderscores (ys ++ ['_'])) (h : xs ++ '_' :: '_' :: ds = ys ++ '_' :: '_' :: es) :
    xs = ys ∧ ds = es := by
  rcases List.append_eq_append_iff.1 h with ⟨zs, rfl, hzs⟩ | ⟨zs, rfl, hzs⟩
  · obtain rfl := eq_nil_of_doubled hys hzs
    exact ⟨(List.append_nil xs).symm, by simpa using hzs⟩
  · obtain rfl := eq_nil_of_doubled hxs hzs
    exact ⟨List.append_nil ys, by simpa using hzs.symm⟩

/-- A number ends a port, so that the pair of underscores is not in it. -/
theorem ResourceBinding.singleUnderscores_port {b : ResourceBinding} (h : IsPortName b.resource) :
    SingleUnderscores (b.port.toList ++ ['_']) := by
  rw [b.toList_port, List.append_assoc, List.cons_append]
  refine List.isChain_split.2 ⟨h, ?_⟩
  obtain ⟨d, ds, digits⟩ := List.exists_cons_of_ne_nil (Nat.toDigits_ne_nil (n := b.number))
  have notMem := Nat.underscore_not_in_toDigits (n := b.number)
  have behind := singleUnderscores_append notMem
  rw [digits] at notMem behind ⊢
  exact List.isChain_cons_cons.2 ⟨Or.inr fun same => notMem (same ▸ List.mem_cons_self ..), behind⟩

/-! ### Taking a name apart -/

namespace SignalBinding

variable {b c : ResourceBinding} {s t : SignalBinding} {i j : Nat}

/-- What the name of a bit has behind the last underscore. -/
def bitSuffix (s : SignalBinding) (bit : Nat) : List Char :=
  s.dir.portSuffix.toList ++
    if s.pins.length = 1 then [] else '[' :: (Nat.toDigits 10 bit ++ [']'])

theorem underscore_notMem_bitSuffix (s : SignalBinding) (bit : Nat) : '_' ∉ s.bitSuffix bit := by
  unfold bitSuffix
  rw [List.mem_append, not_or]
  refine ⟨?_, ?_⟩
  · cases s.dir <;> decide
  · split
    · exact List.not_mem_nil
    · simp [Nat.underscore_not_in_toDigits]

theorem toList_bitName (b : ResourceBinding) (s : SignalBinding) (bit : Nat) :
    (s.bitName b bit).toList = b.port.toList ++ '_' :: '_' ::
      ((if s.name = "" then [] else s.name.toList ++ ['_', '_']) ++ s.bitSuffix bit) := by
  unfold bitName portName bitSuffix
  split <;> split <;> simp_all [toString, ← Nat.toList_repr]

/-- The name of a port is that of the only bit of a signal with one pin. -/
theorem portName_eq_bitName (b : ResourceBinding) (s : SignalBinding) (pin : String) :
    s.portName b = { s with pins := [pin] }.bitName b 0 := (if_pos rfl).symm

theorem bitName_eq_portName (single : s.pins.length = 1) (bit : Nat) :
    s.bitName b bit = s.portName b := if_pos single

section Mark

variable {mark : Char} (fixed : mark ∉ ['_', '[', ']', 'i', 'o']) (digit : mark.isDigit = false)
  (resource : mark ∉ b.resource.toList) (signal : mark ∉ s.name.toList)
include fixed digit resource signal

/-- Apart from brackets, underscores, digits and two letters, a name has only characters of the
names that it is put together from. -/
theorem notMem_bitName (bit : Nat) : mark ∉ (s.bitName b bit).toList := by
  have number : ∀ n, mark ∉ Nat.toDigits 10 n := by
    intro n mem
    have isDigit := Nat.isDigit_of_mem_toDigits (by decide) (by decide) mem
    exact Bool.false_ne_true (digit.symm.trans isDigit)
  simp only [List.mem_cons, List.not_mem_nil, or_false, not_or] at fixed
  have direction : mark ∉ s.dir.portSuffix.toList := by
    cases s.dir <;> simp [Direction.portSuffix, fixed]
  rw [toList_bitName, b.toList_port, bitSuffix]
  split <;> split <;> simp [fixed, number, direction, resource, signal]

theorem notMem_portName : mark ∉ (s.portName b).toList := by
  have alone := notMem_bitName (s := { s with pins := [""] }) fixed digit resource signal 0
  rwa [← portName_eq_bitName] at alone

end Mark

theorem port_eq_of_bitName_eq (hb : IsPortName b.resource) (hc : IsPortName c.resource)
    (h : s.bitName b i = t.bitName c j) : b.port = c.port := by
  have texts := congrArg String.toList h
  rw [toList_bitName, toList_bitName] at texts
  exact String.toList_inj.1 (eq_of_append_doubled
    (b.singleUnderscores_port hb) (c.singleUnderscores_port hc) texts).1

/-- A signal without a name is told from the others by an underscore that is not there. -/
theorem name_eq_of_bitName_eq (h : s.bitName b i = t.bitName b j) : s.name = t.name := by
  have texts := congrArg String.toList h
  simp only [toList_bitName, List.append_cancel_left_eq, List.cons.injEq, true_and] at texts
  have notMem := s.underscore_notMem_bitSuffix i
  have notMem' := t.underscore_notMem_bitSuffix j
  split at texts <;> split at texts <;> rename_i hs ht
  · rw [hs, ht]
  · rw [List.nil_append] at texts
    exact absurd (texts ▸ by simp) notMem
  · rw [List.nil_append] at texts
    exact absurd (texts ▸ by simp) notMem'
  · have split : ∀ xs ys : List Char, xs ++ ['_', '_'] ++ ys = (xs ++ ['_']) ++ '_' :: ys := by simp
    rw [split, split] at texts
    have names := (eq_of_append_cons notMem notMem' texts).1
    exact String.toList_inj.1 (List.append_cancel_right names)

theorem bit_eq_of_bitName_eq (hi : i < s.pins.length) (hj : j < s.pins.length)
    (h : s.bitName b i = s.bitName b j) : i = j := by
  by_cases single : s.pins.length = 1
  · omega
  have texts := congrArg String.toList h
  simp only [toList_bitName, List.append_cancel_left_eq, List.cons.injEq, true_and, bitSuffix,
    if_neg single, List.append_cancel_right_eq] at texts
  rw [← Nat.ofDigitChars_ten_toDigits (n := i), texts, Nat.ofDigitChars_ten_toDigits]

end SignalBinding

/-! ### Different names -/

/-- A bit of a signal that is bound, and its pin. -/
structure PlacedBit where
  /-- The binding. -/
  binding : ResourceBinding
  /-- The signal. -/
  signal : SignalBinding
  /-- The pin. -/
  pin : String
  /-- The place of the pin among those of the signal. -/
  bit : Nat

/-- The name of the bit. -/
def PlacedBit.name (x : PlacedBit) : String := x.signal.bitName x.binding x.bit

/-- The bits of a signal. -/
def SignalBinding.placedBits (b : ResourceBinding) (s : SignalBinding) : List PlacedBit :=
  s.pins.zipIdx.map fun x => ⟨b, s, x.1, x.2⟩

/-- The bits of a binding. -/
def ResourceBinding.placedBits (b : ResourceBinding) : List PlacedBit :=
  b.signals.flatMap (·.placedBits b)

theorem SignalBinding.mem_placedBits {b : ResourceBinding} {s : SignalBinding} {x : PlacedBit} :
    x ∈ s.placedBits b ↔ x.binding = b ∧ x.signal = s ∧ s.pins[x.bit]? = some x.pin := by
  obtain ⟨b', s', pin, bit⟩ := x
  simp only [placedBits, List.mem_map, Prod.exists, List.mem_zipIdx_iff_getElem?,
    PlacedBit.mk.injEq]
  constructor
  · rintro ⟨_, _, hpin, rfl, rfl, rfl, rfl⟩
    exact ⟨rfl, rfl, hpin⟩
  · rintro ⟨rfl, rfl, hpin⟩
    exact ⟨pin, bit, hpin, rfl, rfl, rfl, rfl⟩

/-- Different bits have different names, if no resource has a pair of underscores that could be
taken for the end of its port, and the signals of each resource have different names. -/
theorem nodup_bitNames {bs : List ResourceBinding} (keys : (bs.map (·.key)).Nodup)
    (ports : ∀ b ∈ bs, IsPortName b.resource)
    (signals : ∀ b ∈ bs, (b.signals.map (·.name)).Nodup) :
    ((bs.flatMap (·.placedBits)).map (·.name)).Nodup := by
  refine List.pairwise_map.2 (List.pairwise_flatMap.2 ⟨fun b hb => ?_, ?_⟩)
  · refine List.pairwise_flatMap.2 ⟨fun s _ => ?_, ?_⟩
    · -- bits of one signal
      have bits : (s.pins.zipIdx.map Prod.snd).Nodup := by
        rw [List.zipIdx_map_snd]
        exact List.nodup_range'
      refine List.pairwise_map.2 ((List.pairwise_map.1 bits).imp_of_mem ?_)
      intro x y hx hy apart same
      exact apart (SignalBinding.bit_eq_of_bitName_eq (List.snd_lt_of_mem_zipIdx hx)
        (List.snd_lt_of_mem_zipIdx hy) same)
    · -- signals of one resource
      refine (List.pairwise_map.1 (signals b hb)).imp fun {s t} apart x hx y hy same => apart ?_
      obtain ⟨rfl, rfl, -⟩ := SignalBinding.mem_placedBits.1 hx
      obtain ⟨hb', rfl, -⟩ := SignalBinding.mem_placedBits.1 hy
      unfold PlacedBit.name at same
      rw [hb'] at same
      exact SignalBinding.name_eq_of_bitName_eq same
  · -- resources
    refine (List.pairwise_map.1 keys).imp_of_mem fun {b c} hb hc apart x hx y hy same => apart ?_
    obtain ⟨s, -, hx⟩ := List.mem_flatMap.1 hx
    obtain ⟨t, -, hy⟩ := List.mem_flatMap.1 hy
    obtain ⟨rfl, -, -⟩ := SignalBinding.mem_placedBits.1 hx
    obtain ⟨rfl, -, -⟩ := SignalBinding.mem_placedBits.1 hy
    exact ResourceBinding.port_injective
      (SignalBinding.port_eq_of_bitName_eq (ports _ hb) (ports _ hc) same)

end SocAssembly
