import Mathlib
import SocAssembly.Artifact.Header

/-!
# Macros of a header

The name of a macro is the identifier of an entry, an underscore and a tail that depends on the kind
of the entry (`EntryKind.tails`). So two entries have a macro of the same name if they have the same
identifier, or if one identifier goes on where a tail of the other entry begins, and it does so in
the middle of that tail (`Entry.Shadows`). There are three tails with a part that is a tail as well,
hence three ways for the second (`EntryKind.splits_iff`).
-/

namespace SocAssembly

/-! ### Tails -/

namespace PeripheralKind

theorem mem_all (q : PeripheralKind) : q ∈ all := by cases q <;> decide

/-- Peripherals of this kind have events. -/
def eventful : PeripheralKind → Bool
  | leds | gpio => false
  | _ => true

/-- The queue of an endpoint. -/
def isQueue : PeripheralKind → Bool
  | setupFifo | inFifo | outFifo => true
  | _ => false

/-- The registers of a peripheral, as macros call them, those for events apart. -/
def registerTails : PeripheralKind → List String
  | timer => ["RELOAD", "EN", "CTR"]
  | uart => ["DIVISOR", "RX_DATA", "RX_RDY", "RX_ERR", "TX_DATA", "TX_RDY"]
  | leds => ["OUTPUT"]
  | gpio => ["MODER", "ODR", "IDR"]
  | usbDeviceController => ["CONNECT", "SPEED", "LOW_SPEED_ONLY", "FULL_SPEED_ONLY"]
  | setupFifo => ["DATA", "RESET", "EPNO", "HAVE", "PEND", "ADDRESS"]
  | inFifo => ["DATA", "EPNO", "RESET", "STALL", "IDLE", "HAVE", "PEND", "PID"]
  | outFifo => ["DATA", "DATA_EP", "RESET", "EPNO", "ENABLE", "PRIME", "STALL", "HAVE", "PEND",
      "ADDRESS", "PID"]

end PeripheralKind

/-- What stands behind the identifier of an entry in the names of its macros. -/
def EntryKind.tails : EntryKind → List String
  | memory _ => ["BASE", "SIZE"]
  | peripheral k =>
    (if k.eventful then ["IRQ"] else []) ++ "BASE" :: (k.registerTails ++
      if k.eventful then ["EV_STATUS", "EV_PENDING", "EV_ENABLE"] else [])

namespace EntryKind

/-- A tail of the first kind is this word, an underscore and a tail of the second kind. -/
inductive Splits : EntryKind → String → EntryKind → Prop where
  /-- What a serial port receives. -/
  | receive {q : PeripheralKind} (queue : q.isQueue = true) :
      Splits (.peripheral .uart) "RX" (.peripheral q)
  /-- What a serial port transmits. -/
  | transmit {q : PeripheralKind} (queue : q.isQueue = true) :
      Splits (.peripheral .uart) "TX" (.peripheral q)
  /-- Which events of a peripheral are enabled. -/
  | enable {p : PeripheralKind} (eventful : p.eventful = true) :
      Splits (.peripheral p) "EV" (.peripheral .outFifo)

/-- All kinds. -/
def all : List EntryKind := MemoryKind.all.map memory ++ PeripheralKind.all.map peripheral

theorem mem_all (k : EntryKind) : k ∈ all := by
  cases k with
  | memory m => cases m <;> decide
  | peripheral q => exact List.mem_append_right _ (List.mem_map_of_mem q.mem_all)

/-- What is said of every kind can be tried out. -/
instance (P : EntryKind → Prop) [DecidablePred P] : Decidable (∀ k, P k) :=
  decidable_of_iff (∀ k ∈ all, P k) ⟨fun h k => h k k.mem_all, fun h k _ => h k⟩

theorem nodup_tails : ∀ k : EntryKind, k.tails.Nodup := by decide +kernel

theorem base_mem_tails : ∀ k : EntryKind, "BASE" ∈ k.tails := by decide +kernel

/-- What stands in front of `u` in `t`, and of an underscore between them. -/
def wordBefore? (t u : String) : Option String :=
  if ('_' :: u.toList).isSuffixOf t.toList then
    some (String.ofList (t.toList.take (t.toList.length - (u.toList.length + 1))))
  else none

theorem wordBefore?_append (x u : String) : wordBefore? (x ++ "_" ++ u) u = some x := by
  have split : (x ++ "_" ++ u).toList = x.toList ++ '_' :: u.toList := by simp
  unfold wordBefore?
  rw [split, if_pos (List.isSuffixOf_iff_suffix.2 (List.suffix_append _ _))]
  simp

/-- All tails. -/
def allTails : List String := (all.flatMap tails).dedup

theorem mem_allTails {k : EntryKind} {t : String} (h : t ∈ k.tails) : t ∈ allTails :=
  List.mem_dedup.2 (List.mem_flatMap.2 ⟨k, k.mem_all, h⟩)

/-- There are three tails of which a part is a tail as well. -/
theorem wordBefore?_tails : (allTails.flatMap fun t => allTails.filterMap fun u =>
      (wordBefore? t u).map fun x => (x, t, u)) =
    [("RX", "RX_DATA", "DATA"), ("TX", "TX_DATA", "DATA"), ("EV", "EV_ENABLE", "ENABLE")] := by
  decide +kernel

theorem eq_uart_of_mem_tails : ∀ k : EntryKind, "RX_DATA" ∈ k.tails ∨ "TX_DATA" ∈ k.tails →
    k = .peripheral .uart := by
  decide +kernel

theorem data_mem_tails_iff : ∀ k : EntryKind,
    "DATA" ∈ k.tails ↔ ∃ q ∈ PeripheralKind.all, q.isQueue = true ∧ k = .peripheral q := by
  decide +kernel

theorem evEnable_mem_tails_iff : ∀ k : EntryKind,
    "EV_ENABLE" ∈ k.tails ↔ ∃ q ∈ PeripheralKind.all, q.eventful = true ∧ k = .peripheral q := by
  decide +kernel

theorem eq_outFifo_of_mem_tails : ∀ k : EntryKind, "ENABLE" ∈ k.tails →
    k = .peripheral .outFifo := by
  decide +kernel

/-- The three ways are all there are. -/
theorem splits_iff {k k' : EntryKind} {x : String} :
    k.Splits x k' ↔ ∃ t ∈ k.tails, ∃ u ∈ k'.tails, t = x ++ "_" ++ u := by
  constructor
  · intro h
    cases h with
    | @receive q queue =>
      exact ⟨"RX_DATA", by decide, "DATA",
        (data_mem_tails_iff _).2 ⟨q, q.mem_all, queue, rfl⟩, rfl⟩
    | @transmit q queue =>
      exact ⟨"TX_DATA", by decide, "DATA",
        (data_mem_tails_iff _).2 ⟨q, q.mem_all, queue, rfl⟩, rfl⟩
    | @enable p eventful =>
      exact ⟨"EV_ENABLE", (evEnable_mem_tails_iff _).2 ⟨p, p.mem_all, eventful, rfl⟩,
        "ENABLE", by decide, rfl⟩
  · rintro ⟨t, ht, u, hu, split⟩
    have mem : (x, t, u) ∈ allTails.flatMap fun t => allTails.filterMap fun u =>
        (wordBefore? t u).map fun x => (x, t, u) := by
      refine List.mem_flatMap.2 ⟨t, mem_allTails ht, List.mem_filterMap.2 ⟨u, mem_allTails hu, ?_⟩⟩
      rw [split, wordBefore?_append]
      rfl
    rw [wordBefore?_tails] at mem
    simp only [List.mem_cons, Prod.mk.injEq, List.not_mem_nil, or_false] at mem
    rcases mem with ⟨rfl, rfl, rfl⟩ | ⟨rfl, rfl, rfl⟩ | ⟨rfl, rfl, rfl⟩
    · obtain ⟨q, -, queue, rfl⟩ := (data_mem_tails_iff k').1 hu
      rw [eq_uart_of_mem_tails k (Or.inl ht)]
      exact .receive queue
    · obtain ⟨q, -, queue, rfl⟩ := (data_mem_tails_iff k').1 hu
      rw [eq_uart_of_mem_tails k (Or.inr ht)]
      exact .transmit queue
    · obtain ⟨p, -, eventful, rfl⟩ := (evEnable_mem_tails_iff k).1 ht
      rw [eq_outFifo_of_mem_tails k' hu]
      exact .enable eventful

end EntryKind

/-! ### Entries -/

theorem toList_append_underscore (s t : String) :
    (s ++ "_" ++ t).toList = s.toList ++ '_' :: t.toList := by
  simp

/-- What goes on from `a` to `b` is nothing, or starts in the middle of `t`. -/
theorem eq_or_exists_of_toList_append {a b t u : String} {xs : List Char}
    (front : b.toList = a.toList ++ xs) (back : '_' :: t.toList = xs ++ '_' :: u.toList) :
    (a = b ∧ t = u) ∨ ∃ x, b = a ++ "_" ++ x ∧ t = x ++ "_" ++ u := by
  cases xs with
  | nil =>
    rw [List.append_nil] at front
    exact Or.inl ⟨String.toList_inj.1 front.symm, String.toList_inj.1 (List.cons.inj back).2⟩
  | cons c xs =>
    obtain ⟨rfl, rest⟩ := List.cons.inj back
    refine Or.inr ⟨String.ofList xs, String.toList_inj.1 ?_, String.toList_inj.1 ?_⟩
    · rw [toList_append_underscore, String.toList_ofList, front]
    · rw [toList_append_underscore, String.toList_ofList]
      exact rest

/-- Names that are made with underscores are the same if their parts are, or if the first part of
one goes on in the middle of the second part of the other. -/
theorem append_underscore_eq_iff {a b t u : String} :
    a ++ "_" ++ t = b ++ "_" ++ u ↔ (a = b ∧ t = u) ∨
      (∃ x, b = a ++ "_" ++ x ∧ t = x ++ "_" ++ u) ∨
      ∃ x, a = b ++ "_" ++ x ∧ u = x ++ "_" ++ t := by
  constructor
  · intro same
    rw [← String.toList_inj, toList_append_underscore, toList_append_underscore] at same
    rcases List.append_eq_append_iff.1 same with ⟨xs, front, back⟩ | ⟨xs, front, back⟩
    · rcases eq_or_exists_of_toList_append front back with same | goesOn
      · exact Or.inl same
      · exact Or.inr (Or.inl goesOn)
    · rcases eq_or_exists_of_toList_append front back with ⟨rfl, rfl⟩ | goesOn
      · exact Or.inl ⟨rfl, rfl⟩
      · exact Or.inr (Or.inr goesOn)
  · rintro (⟨rfl, rfl⟩ | ⟨x, rfl, rfl⟩ | ⟨x, rfl, rfl⟩)
    · rfl
    · simp only [String.append_assoc]
    · simp only [String.append_assoc]

namespace Entry

/-- The names of the macros of an entry. -/
def macroNames (e : Entry) : List String := e.kind.tails.map (macroName e.name ++ "_" ++ ·)

/-- The identifier of `q` goes on where a tail of `p` begins, and the rest of that tail is a tail of
`q`: the two have a macro of the same name. -/
def Shadows (p q : Entry) : Prop :=
  ∃ x, p.kind.Splits x q.kind ∧ macroName q.name = macroName p.name ++ "_" ++ x

/-- An entry does not shadow itself. -/
theorem not_shadows_self (p : Entry) : ¬ p.Shadows p := by
  rintro ⟨x, -, same⟩
  have length := congrArg String.length same
  simp only [String.length_append] at length
  have : "_".length = 1 := rfl
  omega

theorem exists_mem_macroNames_of_shadows {p q : Entry} (h : p.Shadows q) :
    ∃ name, name ∈ p.macroNames ∧ name ∈ q.macroNames := by
  obtain ⟨x, splits, goesOn⟩ := h
  obtain ⟨t, ht, u, hu, split⟩ := EntryKind.splits_iff.1 splits
  refine ⟨macroName p.name ++ "_" ++ t, List.mem_map_of_mem ht, List.mem_map.2 ⟨u, hu, ?_⟩⟩
  rw [goesOn, split]
  simp only [String.append_assoc]

/-- Two entries have no macro in common exactly if their identifiers differ and none of them shadows
the other. -/
theorem disjoint_macroNames_iff {p q : Entry} :
    p.macroNames.Disjoint q.macroNames ↔
      macroName p.name ≠ macroName q.name ∧ ¬ p.Shadows q ∧ ¬ q.Shadows p := by
  constructor
  · intro apart
    refine ⟨fun same => ?_, fun shadows => ?_, fun shadows => ?_⟩
    · refine apart (List.mem_map_of_mem p.kind.base_mem_tails) ?_
      rw [same]
      exact List.mem_map_of_mem q.kind.base_mem_tails
    · obtain ⟨name, hp, hq⟩ := exists_mem_macroNames_of_shadows shadows
      exact apart hp hq
    · obtain ⟨name, hq, hp⟩ := exists_mem_macroNames_of_shadows shadows
      exact apart hp hq
  · rintro ⟨differ, hpq, hqp⟩ name hp hq
    obtain ⟨t, ht, rfl⟩ := List.mem_map.1 hp
    obtain ⟨u, hu, same⟩ := List.mem_map.1 hq
    rcases append_underscore_eq_iff.1 same.symm with
      ⟨same, -⟩ | ⟨x, goesOn, split⟩ | ⟨x, goesOn, split⟩
    · exact differ same
    · exact hpq ⟨x, EntryKind.splits_iff.2 ⟨t, ht, u, hu, split⟩, goesOn⟩
    · exact hqp ⟨x, EntryKind.splits_iff.2 ⟨u, hu, t, ht, split⟩, goesOn⟩

theorem name_baseMacro (e : Entry) : e.baseMacro.name = macroName e.name ++ "_" ++ "BASE" := by
  rw [String.append_assoc]
  rfl

theorem name_sizeMacro (e : Entry) : e.sizeMacro.name = macroName e.name ++ "_" ++ "SIZE" := by
  rw [String.append_assoc]
  rfl

theorem nodup_macroNames (e : Entry) : e.macroNames.Nodup := by
  refine (List.nodup_map_iff_inj_on e.kind.nodup_tails).2 fun t _ u _ same => ?_
  exact (String.append_right_inj _).1 same

end Entry

/-! ### All entries -/

/-- The macros of entries have different names exactly if the entries have different identifiers and
none of them shadows another. -/
theorem nodup_flatMap_macroNames_iff {es : List Entry} :
    (es.flatMap Entry.macroNames).Nodup ↔
      (es.map fun e => macroName e.name).Nodup ∧ ∀ p ∈ es, ∀ q ∈ es, ¬ p.Shadows q := by
  have symm : Std.Symm fun p q : Entry => ¬ p.Shadows q ∧ ¬ q.Shadows p := ⟨fun _ _ => And.symm⟩
  rw [List.nodup_flatMap, List.Nodup, List.pairwise_map]
  constructor
  · rintro ⟨-, apart⟩
    have apart := apart.imp fun h => Entry.disjoint_macroNames_iff.1 h
    refine ⟨apart.imp And.left, fun p hp q hq => ?_⟩
    have self : ∀ p ∈ es, ¬ p.Shadows p ∧ ¬ p.Shadows p := fun p _ =>
      ⟨p.not_shadows_self, p.not_shadows_self⟩
    exact (List.Pairwise.forall_of_forall self (apart.imp And.right) hp hq).1
  · rintro ⟨differ, free⟩
    refine ⟨fun e _ => e.nodup_macroNames, differ.imp_of_mem fun hp hq ne => ?_⟩
    exact Entry.disjoint_macroNames_iff.2 ⟨ne, free _ hp _ hq, free _ hq _ hp⟩

namespace Design

/-- The macros that the header defines. -/
def macros (d : Design) : List Macro := d.headerItems.filterMap HeaderItem.macro?

/-- The names that the items of the header define: that of its guard and those of its macros. -/
def itemNames (d : Design) : List String := "RESOURCES_H" :: d.macros.map (·.name)

/-- The names that every header defines. -/
def commonNames : List String := ["RESOURCES_H", "PLATFORM_NAME", "CLOCK_FREQUENCY"]

/-- The tail for an interrupt, if there is one. -/
def irqTail (irq : Option Nat) : List String := (irq.map fun _ => "IRQ").toList

/-- The entries have the registers and interrupts of their kinds. -/
structure IsUsual (d : Design) : Prop where
  /-- Memories have none. -/
  memories : ∀ e ∈ d.memories, e.kind.tails = ["BASE", "SIZE"]
  /-- Peripherals have them by their kind. -/
  peripherals : ∀ e ∈ d.peripherals, e.kind.tails =
    irqTail e.irq ++ "BASE" :: e.registers.map (macroName ·.register.name)

/-- An entry has none of the names that every header defines. -/
theorem disjoint_commonNames (e : Entry) : commonNames.Disjoint e.macroNames := by
  have none : ∀ name ∈ commonNames, ∀ t ∈ EntryKind.allTails,
      EntryKind.wordBefore? name t = none := by decide +kernel
  intro name common mem
  obtain ⟨t, ht, rfl⟩ := List.mem_map.1 mem
  have absent := none _ common t (EntryKind.mem_allTails ht)
  rw [EntryKind.wordBefore?_append] at absent
  cases absent

theorem filterMap_registerItems (e : Entry) (rs : List PlacedRegister) :
    (rs.flatMap e.registerItems).filterMap HeaderItem.macro? = rs.map e.registerMacro := by
  rw [List.filterMap_flatMap, List.map_eq_flatMap]
  rfl

theorem filterMap_peripheralItems (e : Entry) : e.peripheralItems.filterMap HeaderItem.macro? =
    e.baseMacro :: e.registers.map e.registerMacro := by
  rw [Entry.peripheralItems, List.filterMap_append, filterMap_registerItems]
  rfl

/-- The macros of the header, in order. -/
theorem macros_eq (d : Design) :
    d.macros = [⟨"PLATFORM_NAME", .text d.platform⟩, ⟨"CLOCK_FREQUENCY", .long d.clockFrequency⟩] ++
      (d.memories.flatMap (fun e => [e.baseMacro, e.sizeMacro]) ++
      (d.interrupts.map interruptMacro ++
      d.peripherals.flatMap fun e => e.baseMacro :: e.registers.map e.registerMacro)) := by
  have opening : d.headerOpening.filterMap HeaderItem.macro? =
      [⟨"PLATFORM_NAME", .text d.platform⟩, ⟨"CLOCK_FREQUENCY", .long d.clockFrequency⟩] := rfl
  have memories : (d.memories.flatMap Entry.memoryItems).filterMap HeaderItem.macro? =
      d.memories.flatMap fun e => [e.baseMacro, e.sizeMacro] := List.filterMap_flatMap ..
  have interrupts : (d.interrupts.map (.define ∘ interruptMacro)).filterMap HeaderItem.macro? =
      d.interrupts.map interruptMacro := by
    rw [List.filterMap_map]
    exact congrFun List.filterMap_eq_map d.interrupts
  have peripherals : (d.peripherals.flatMap Entry.peripheralItems).filterMap HeaderItem.macro? =
      d.peripherals.flatMap fun e => e.baseMacro :: e.registers.map e.registerMacro := by
    rw [List.filterMap_flatMap]
    exact List.flatMap_congr fun e _ => filterMap_peripheralItems e
  unfold macros headerItems
  simp only [List.filterMap_append, opening, memories, interrupts, peripherals,
    List.filterMap_cons, List.filterMap_nil, HeaderItem.macro?, List.append_nil, List.nil_append,
    List.append_assoc]

theorem name_interruptMacro (interrupt : String × Nat) :
    (interruptMacro interrupt).name = macroName interrupt.1 ++ "_" ++ "IRQ" := by
  rw [String.append_assoc]
  rfl

/-- The interrupts come by number in the header, and by peripheral in the design. -/
theorem names_interrupts_perm (d : Design) :
    (d.interrupts.map fun i => (interruptMacro i).name).Perm
      (d.peripherals.flatMap fun e => (irqTail e.irq).map (macroName e.name ++ "_" ++ ·)) := by
  unfold interrupts
  refine ((List.mergeSort_perm _ _).map _).trans (List.Perm.of_eq ?_)
  rw [List.map_filterMap, List.filterMap_eq_flatMap_toList]
  refine List.flatMap_congr fun e _ => ?_
  cases e.irq with
  | none => rfl
  | some irq => exact congrArg (fun name => [name]) (name_interruptMacro (e.name, irq))

/-- What the items define is what every header does and what the entries have. -/
theorem itemNames_perm {d : Design} (h : d.IsUsual) :
    d.itemNames.Perm (commonNames ++ d.entries.flatMap Entry.macroNames) := by
  have memories : d.memories.flatMap Entry.macroNames =
      d.memories.flatMap fun e => [e.baseMacro.name, e.sizeMacro.name] :=
    List.flatMap_congr fun e he => by
      rw [Entry.macroNames, h.memories e he, e.name_baseMacro, e.name_sizeMacro]
      rfl
  have peripherals : d.peripherals.flatMap Entry.macroNames =
      d.peripherals.flatMap fun e => (irqTail e.irq).map (macroName e.name ++ "_" ++ ·) ++
        e.baseMacro.name :: e.registers.map fun r => (e.registerMacro r).name :=
    List.flatMap_congr fun e he => by
      rw [Entry.macroNames, h.peripherals e he, List.map_append, List.map_cons, List.map_map,
        e.name_baseMacro]
      rfl
  -- the header lists interrupts apart, entry by entry they stand with their peripherals
  have numbered := (d.names_interrupts_perm.append_right _).trans
    (List.flatMap_append_perm d.peripherals _
      fun e => e.baseMacro.name :: e.registers.map fun r => (e.registerMacro r).name)
  unfold itemNames entries
  rw [macros_eq, List.flatMap_append, memories, peripherals]
  simp only [List.map_append, List.map_flatMap, List.map_cons, List.map_nil, List.map_map]
  exact (numbered.append_left _).append_left commonNames

/-- No two items of the header define one name exactly if the entries have different
identifiers and none of them shadows another. -/
theorem nodup_itemNames_iff {d : Design} (h : d.IsUsual) :
    d.itemNames.Nodup ↔ (d.entries.map fun e => macroName e.name).Nodup ∧
      ∀ p ∈ d.entries, ∀ q ∈ d.entries, ¬ p.Shadows q := by
  have common : commonNames.Nodup := by decide
  have apart : commonNames.Disjoint (d.entries.flatMap Entry.macroNames) := by
    intro name hcommon hentries
    obtain ⟨e, -, he⟩ := List.mem_flatMap.1 hentries
    exact disjoint_commonNames e hcommon he
  rw [(itemNames_perm h).nodup_iff, List.nodup_append', nodup_flatMap_macroNames_iff]
  exact ⟨fun nodup => nodup.2.1, fun entries => ⟨common, entries, apart⟩⟩

end Design

end SocAssembly
