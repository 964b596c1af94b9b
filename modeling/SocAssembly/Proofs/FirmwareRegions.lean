import Mathlib
import SocAssembly.Proofs.Appending

/-!
# The memories of the firmware sections

Each section of the firmware is put into a memory. Where one is chosen it is the memory of that
name, and otherwise the first RAM; which memory backs a section is stated without the search for it
(`Soc.Backs`). A section has no memory if a name is chosen that no memory has, or if none is chosen
and there is no RAM (`Soc.RegionFault`), and each of the two is reported in its own way.

Once the parts have their windows and the clock is known, nothing else can go wrong: a system fails
to be finished exactly if a section has no memory, and it fails for the first such section
(`Soc.finalize_eq_error_iff_firstFault`).
-/

namespace SocAssembly

/-- What is done for each section is done along the list of the sections. -/
theorem Sections.map_toList_mapOrFail {α β : Type} (s : Sections α) (f : α → Except Error β) :
    (s.mapOrFail f).map toList = s.toList.mapM f := by
  unfold mapOrFail toList
  simp only [List.mapM_cons, List.mapM_nil]
  cases f s.text with
  | error e => rfl
  | ok text =>
    cases f s.rodata with
    | error e => rfl
    | ok rodata =>
      cases f s.data with
      | error e => rfl
      | ok data =>
        cases f s.bss with
        | error e => rfl
        | ok bss =>
          cases f s.heap with
          | error e => rfl
          | ok heap => cases f s.stack <;> rfl

theorem Sections.forall₂_of_mapOrFail {α β : Type} {s : Sections α} {f : α → Except Error β}
    {t : Sections β} (h : s.mapOrFail f = .ok t) :
    s.toList.Forall₂ (fun x y => f x = .ok y) t.toList := by
  rw [← mapM_eq_ok_iff, ← map_toList_mapOrFail, h]
  rfl

theorem Sections.mapOrFail_eq_error_iff {α β : Type} {s : Sections α} {f : α → Except Error β}
    {e : Error} : s.mapOrFail f = .error e ↔ s.toList.mapM f = .error e := by
  rw [← map_toList_mapOrFail]
  cases s.mapOrFail f <;> simp [Except.map]

namespace Soc

/-! ### One section -/

/-- The memory that backs a section, from the name that was chosen for it, if one was. -/
inductive Backs (s : Soc) : Option String → Memory → Prop where
  /-- The chosen memory. -/
  | chosen {m : Memory} (mem : m ∈ s.memories) : Backs s (some m.name) m
  /-- The first RAM. -/
  | firstRam {m : Memory} {before after : List Memory} (split : s.memories = before ++ m :: after)
      (ram : m.kind = .ram) (first : ∀ x ∈ before, x.kind ≠ .ram) : Backs s none m

/-- The error that says why no memory backs a section. -/
inductive RegionFault (s : Soc) : Option String → Error → Prop where
  /-- No memory has the chosen name. -/
  | unknownMemory {name : String} (unknown : ∀ m ∈ s.memories, m.name ≠ name) :
      RegionFault s (some name) (.unknownMemory name)
  /-- No name is chosen, and there is no RAM. -/
  | noFirmwareMemory (noRam : ∀ m ∈ s.memories, m.kind ≠ .ram) :
      RegionFault s none .noFirmwareMemory

variable {s : Soc} {role : Option String} {name : String} {e : Error}

theorem Backs.mem {m : Memory} (h : s.Backs role m) : m ∈ s.memories := by
  cases h with
  | chosen mem => exact mem
  | firstRam split =>
    rw [split]
    exact List.mem_append_right _ (List.mem_cons_self ..)

theorem firstRam?_eq_some_iff : s.firstRam? = some name ↔ ∃ m, s.Backs none m ∧ m.name = name := by
  unfold firstRam?
  rw [Option.map_eq_some_iff]
  refine exists_congr fun m => and_congr_left fun _ => ?_
  rw [List.find?_eq_some_iff_append]
  constructor
  · rintro ⟨ram, before, after, split, first⟩
    exact .firstRam split (by simpa using ram) (fun x hx => by simpa using first x hx)
  · intro backs
    cases backs with
    | @firstRam _ before after split ram first =>
      exact ⟨by simpa using ram, before, after, split, fun x hx => by simpa using first x hx⟩

theorem firstRam?_eq_none_iff : s.firstRam? = none ↔ ∀ m ∈ s.memories, m.kind ≠ .ram := by
  unfold firstRam?
  rw [Option.map_eq_none_iff, List.find?_eq_none]
  simp only [decide_eq_true_eq]

theorem sectionMemory_some : s.sectionMemory (some name) =
    if s.memories.any (·.name = name) then .ok name else .error (.unknownMemory name) := rfl

theorem sectionMemory_none {m : Memory} (h : s.Backs none m) :
    s.sectionMemory none = .ok m.name := by
  have found : s.firstRam? = some m.name := firstRam?_eq_some_iff.2 ⟨m, h, rfl⟩
  have mem : s.memories.any (·.name = m.name) = true :=
    List.any_eq_true.2 ⟨m, h.mem, decide_eq_true rfl⟩
  unfold sectionMemory
  rw [found, Option.none_or]
  dsimp only
  rw [if_pos mem]

/-- A section is put into the memory that backs it. -/
theorem sectionMemory_eq_ok_iff :
    s.sectionMemory role = .ok name ↔ ∃ m, s.Backs role m ∧ m.name = name := by
  cases role with
  | some chosen =>
    rw [sectionMemory_some]
    constructor
    · intro found
      split at found
      · rename_i known
        obtain ⟨m, hm, named⟩ := List.any_eq_true.1 known
        cases of_decide_eq_true named
        exact ⟨m, .chosen hm, Except.ok.inj found⟩
      · cases found
    · rintro ⟨m, ⟨mem⟩, rfl⟩
      rw [if_pos (List.any_eq_true.2 ⟨m, mem, decide_eq_true rfl⟩)]
  | none =>
    rw [← firstRam?_eq_some_iff]
    cases ram : s.firstRam? with
    | none =>
      unfold sectionMemory
      rw [ram]
      simp
    | some first =>
      obtain ⟨m, backs, rfl⟩ := firstRam?_eq_some_iff.1 ram
      rw [sectionMemory_none backs, Except.ok.injEq, Option.some.injEq]

/-- A section that no memory backs is reported. -/
theorem sectionMemory_eq_error_iff : s.sectionMemory role = .error e ↔ s.RegionFault role e := by
  cases role with
  | some chosen =>
    rw [sectionMemory_some]
    constructor
    · intro failed
      split at failed
      · cases failed
      · rename_i unknown
        cases failed
        refine .unknownMemory fun m hm named => unknown ?_
        exact List.any_eq_true.2 ⟨m, hm, decide_eq_true named⟩
    · rintro ⟨unknown⟩
      rw [if_neg]
      intro known
      obtain ⟨m, hm, named⟩ := List.any_eq_true.1 known
      exact unknown m hm (of_decide_eq_true named)
  | none =>
    constructor
    · intro failed
      cases ram : s.firstRam? with
      | none =>
        unfold sectionMemory at failed
        rw [ram] at failed
        cases failed
        exact .noFirmwareMemory (firstRam?_eq_none_iff.1 ram)
      | some first =>
        obtain ⟨m, backs, -⟩ := firstRam?_eq_some_iff.1 ram
        rw [sectionMemory_none backs] at failed
        cases failed
    · intro fault
      cases fault with
      | noFirmwareMemory noRam =>
        unfold sectionMemory
        rw [firstRam?_eq_none_iff.2 noRam]
        rfl

/-! ### All sections -/

/-- Sections are gone through up to the first that no memory backs. -/
theorem regions_eq_error_iff : s.firmware.mapOrFail s.sectionMemory = .error e ↔
    FirstFault (fun _ => s.RegionFault) s.firmware.toList e := by
  rw [Sections.mapOrFail_eq_error_iff, mapM_eq_error_iff]
  refine exists_congr fun before => exists_congr fun x => exists_congr fun rest =>
    and_congr_right fun _ => ?_
  rw [sectionMemory_eq_error_iff, and_comm]
  refine and_congr_right fun _ => ?_
  constructor
  · rintro passed front y back rfl e' fault
    obtain ⟨name, found⟩ := passed y (List.mem_append_right _ (List.mem_cons_self ..))
    rw [sectionMemory_eq_error_iff.2 fault] at found
    cases found
  · intro faultless y hy
    cases found : s.sectionMemory y with
    | ok name => exact ⟨name, rfl⟩
    | error e' =>
      obtain ⟨front, back, split⟩ := List.append_of_mem hy
      exact absurd (sectionMemory_eq_error_iff.1 found) (faultless front y back split e')

/-- There is an error exactly if no memory backs one of the sections. -/
theorem exists_regions_eq_error_iff : (∃ e, s.firmware.mapOrFail s.sectionMemory = .error e) ↔
    ∃ role ∈ s.firmware.toList, ∃ e, s.RegionFault role e := by
  constructor
  · rintro ⟨e, failed⟩
    obtain ⟨before, role, rest, split, fault, -⟩ := regions_eq_error_iff.1 failed
    exact ⟨role, split ▸ List.mem_append_right _ (List.mem_cons_self ..), e, fault⟩
  · rintro ⟨role, mem, e, fault⟩
    cases found : s.firmware.mapOrFail s.sectionMemory with
    | error e' => exact ⟨e', rfl⟩
    | ok regions =>
      have all := exists_forall₂_iff.1 ⟨_, Sections.forall₂_of_mapOrFail found⟩ role mem
      obtain ⟨name, hname⟩ := all
      rw [sectionMemory_eq_error_iff.2 fault] at hname
      cases hname

/-- Once the parts have their windows and the clock is known, the sections of the firmware are all
that can go wrong. -/
theorem finalize_eq_error_iff_firstFault {p : Platform} {a : Allocation} {frequency : Nat}
    (allocated : s.addressMap.allocate.outcome = .ok a)
    (clock : p.clockFrequency s.clockDomain = .ok frequency) :
    (s.finalize p).outcome = .error e ↔
      FirstFault (fun _ => s.RegionFault) s.firmware.toList e := by
  obtain ⟨memories, hmemories⟩ : ∃ es, s.memories.mapM (memoryEntry a) = .ok es := by
    refine exists_mapM_eq_ok_iff.2 fun m hm => ?_
    obtain ⟨part, hpart, component⟩ := mem_memories.1 hm
    obtain ⟨w, hw⟩ := exists_window allocated hpart
    rw [Part.name, component] at hw
    exact ⟨_, memoryEntry_eq_ok_iff.2 ⟨w, hw, rfl⟩⟩
  obtain ⟨peripherals, hperipherals⟩ : ∃ es, (peripheralEntries a 0 s.peripherals).outcome =
      .ok es := by
    rw [outcome_peripheralEntries]
    refine exists_mapM_eq_ok_iff.2 fun x hx => ?_
    have hq : x.1 ∈ s.peripherals := by
      rw [← map_fst_numbered 0 s.peripherals]
      exact List.mem_map_of_mem hx
    obtain ⟨part, hpart, component⟩ := mem_peripherals.1 hq
    obtain ⟨w, hw⟩ := exists_window allocated hpart
    rw [Part.name, component] at hw
    exact ⟨_, peripheralEntry_eq_ok_iff.2 ⟨w, hw, rfl⟩⟩
  rw [← regions_eq_error_iff]
  unfold finalize
  simp only [Report.outcome_bind, Report.outcome_ofExcept, allocated, clock, hmemories,
    hperipherals, Except.bind]
  cases s.firmware.mapOrFail s.sectionMemory <;> simp

/-! ### In a finished design -/

namespace Finalized

variable {p : Platform} {a : Allocation} {d : Design}

/-- A memory of the system is shown in the design. -/
theorem exists_entry_of_memory (h : s.Finalized p a d) {m : Memory} (hm : m ∈ s.memories) :
    ∃ e ∈ d.memories, ∃ w, m.entryAt w = e := by
  obtain ⟨e, he, w, -, shown⟩ := exists_of_forall₂ h.memories.flip hm
  exact ⟨e, he, w, shown⟩

/-- The sections of a finished design have the memories that back them. -/
theorem exists_backing (h : s.Finalized p a d) : ∃ backing : Sections Memory,
      s.firmware.toList.Forall₂ s.Backs backing.toList ∧
        backing.toList.map (·.name) = d.regions.toList ∧ backing.stack.name = d.regions.stack := by
  obtain ⟨text, rodata, data, bss, heap, stack⟩ := Sections.mapOrFail_eq_ok_iff.1 h.regions
  obtain ⟨m₁, h₁, text⟩ := sectionMemory_eq_ok_iff.1 text
  obtain ⟨m₂, h₂, rodata⟩ := sectionMemory_eq_ok_iff.1 rodata
  obtain ⟨m₃, h₃, data⟩ := sectionMemory_eq_ok_iff.1 data
  obtain ⟨m₄, h₄, bss⟩ := sectionMemory_eq_ok_iff.1 bss
  obtain ⟨m₅, h₅, heap⟩ := sectionMemory_eq_ok_iff.1 heap
  obtain ⟨m₆, h₆, stack⟩ := sectionMemory_eq_ok_iff.1 stack
  refine ⟨⟨m₁, m₂, m₃, m₄, m₅, m₆⟩, ?_, ?_, stack⟩
  · exact .cons h₁ (.cons h₂ (.cons h₃ (.cons h₄ (.cons h₅ (.cons h₆ .nil)))))
  · unfold Sections.toList
    rw [← text, ← rodata, ← data, ← bss, ← heap, ← stack]
    rfl

/-- A finished design has a memory, because its code is put somewhere. -/
theorem exists_nonempty_memory (h : s.Finalized p a d) : ∃ e ∈ d.memories, e.size ≠ 0 := by
  obtain ⟨backing, backs, -, -⟩ := h.exists_backing
  have text : backing.text ∈ backing.toList := List.mem_cons_self ..
  obtain ⟨role, -, backed⟩ := exists_of_forall₂ backs text
  obtain ⟨part, -, component⟩ := mem_memories.1 backed.mem
  obtain ⟨e, he, w, rfl⟩ := h.exists_entry_of_memory backed.mem
  have size := part.size_ne_zero
  rw [component] at size
  exact ⟨_, he, size⟩

end Finalized

end Soc

end SocAssembly
