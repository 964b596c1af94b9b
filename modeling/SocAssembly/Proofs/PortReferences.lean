import Mathlib
import SocAssembly.Proofs.ConstraintFile

/-!
# Ports that constraints refer to

The attributes of a pin are told of a bit, and the frequency of a clock is told of a port. Each bit
with attributes is placed, but a port is placed as a whole only if it has one pin: the bits of any
other have names of their own, and the frequency is told of a name that nothing has. So all that a
file refers to is placed exactly if the port of each clock is that of a signal with one pin
(`Elaboration.RefersToPorts`). A clock on a pair of pins gives a file that refers to nothing
(`Descriptor.unplaced_pairedBoard`).
-/

namespace SocAssembly

/-! ### Names in quotes -/

/-- What stands between the first two quotes of a line. -/
def quoted? (l : List Char) : Option (List Char) :=
  (Text.cut? '"' l).bind fun x => (Text.cut? '"' x.2).map (·.1)

theorem quoted?_append {front text : List Char} (hfront : '"' ∉ front) (htext : '"' ∉ text)
    (back : List Char) : quoted? (front ++ '"' :: (text ++ '"' :: back)) = some text := by
  unfold quoted?
  rw [Text.cut?_eq_some_iff.2 ⟨hfront, rfl⟩, Option.bind_some,
    Text.cut?_eq_some_iff.2 ⟨htext, rfl⟩, Option.map_some]

/-- The name that a constraint has in quotes. -/
def Constraint.port? : Constraint → Option String
  | untimed _ => none
  | locate bit _ => some bit
  | attributes bit _ => some bit
  | frequency port _ => some port

theorem Constraint.quoted?_line {c : Constraint} {port : String} (named : c.port? = some port)
    (unquoted : '"' ∉ port.toList) : quoted? c.line.toList = some port.toList := by
  have spelled : ∃ front ∈ ["LOCATE COMP ", "IOBUF PORT ", "FREQUENCY PORT "], ∃ back,
      c.line.toList = front.toList ++ '"' :: (port.toList ++ '"' :: back) := by
    rw [c.line_eq]
    cases c with
    | untimed paths => cases named
    | locate bit pin =>
      cases named
      exact ⟨"LOCATE COMP ", by simp, _, by simp [keyword, operands]; rfl⟩
    | attributes bit attrs =>
      cases named
      exact ⟨"IOBUF PORT ", by simp, _, by simp [keyword, operands]; rfl⟩
    | frequency port hertz =>
      cases named
      exact ⟨"FREQUENCY PORT ", by simp, _, by simp [keyword, operands]; rfl⟩
  obtain ⟨front, fixed, back, spelled⟩ := spelled
  have fronts : ∀ front ∈ ["LOCATE COMP ", "IOBUF PORT ", "FREQUENCY PORT "],
      '"' ∉ front.toList := by decide
  rw [spelled]
  exact quoted?_append (fronts front fixed) unquoted back

/-- Each line with attributes and each line with a frequency is about something that a line
places. -/
def RefersToPlaced (ls : List (List Char)) : Prop :=
  ∀ l ∈ ls, keyword l = "IOBUF" ∨ keyword l = "FREQUENCY" →
    ∃ l' ∈ ls, keyword l' = "LOCATE" ∧ quoted? l' = quoted? l

/-! ### Ports and bits -/

namespace SignalBinding

variable {b c : ResourceBinding} {s t : SignalBinding} {i : Nat}

theorem exists_toList_bitName (b : ResourceBinding) (s : SignalBinding) (bit : Nat) :
    ∃ front, (s.bitName b bit).toList = front ++ '_' :: s.bitSuffix bit := by
  rw [toList_bitName]
  split
  · exact ⟨b.port.toList ++ ['_'], by simp⟩
  · exact ⟨b.port.toList ++ '_' :: '_' :: (s.name.toList ++ ['_']), by simp⟩

theorem bitSuffix_eq_of_bitName_eq {j : Nat} (h : s.bitName b i = t.bitName c j) :
    s.bitSuffix i = t.bitSuffix j := by
  obtain ⟨front, hs⟩ := exists_toList_bitName b s i
  obtain ⟨front', ht⟩ := exists_toList_bitName c t j
  have texts := congrArg String.toList h
  rw [hs, ht] at texts
  exact (eq_of_append_cons (s.underscore_notMem_bitSuffix i) (t.underscore_notMem_bitSuffix j)
    texts).2

/-- The name of a bit is that of a port only if the bit is the only one. -/
theorem length_eq_one_of_bitName_eq (h : s.bitName b i = t.portName c) : s.pins.length = 1 := by
  by_contra several
  rw [portName_eq_bitName c t ""] at h
  have suffix := bitSuffix_eq_of_bitName_eq h
  -- the place of the bit ends with a bracket, which is in no direction
  have bracket : ']' ∈ s.bitSuffix i := by simp [bitSuffix, several]
  rw [suffix] at bracket
  simp only [bitSuffix, List.length_singleton, if_true, List.append_nil] at bracket
  cases dir : t.dir <;> simp [dir, Direction.portSuffix] at bracket

end SignalBinding

namespace Elaboration

variable {e : Elaboration}

/-- A signal with one pin has this port. -/
def HasWhole (e : Elaboration) (port : String) : Prop :=
  ∃ b ∈ e.bindings, ∃ s ∈ b.signals, s.pins.length = 1 ∧ s.portName b = port

/-- The clock of the binding has a frequency, which is told of the signal. -/
structure ClockedAt (e : Elaboration) (b : ResourceBinding) (s : SignalBinding) : Prop where
  /-- The binding is one of the design. -/
  mem : b ∈ e.bindings
  /-- It is a clock. -/
  clock : b.clock.isSome = true
  /-- It is told of its first input, or else of its first signal. -/
  found : b.clockSignal? = some s

theorem locate_mem_iff {bit pin : String} : .locate bit pin ∈ e.constraints ↔
    ∃ x ∈ e.placedBits, x.name = bit ∧ x.pin = pin := by
  constructor
  · intro hc
    generalize constraint : Constraint.locate bit pin = c at hc
    cases mem_constraints_iff.1 hc with
    | @locate x mem =>
      cases constraint
      exact ⟨x, mem, rfl, rfl⟩
    | untimed | attributes | frequency => cases constraint
  · rintro ⟨x, mem, rfl, rfl⟩
    exact mem_constraints_iff.2 (.locate mem)

/-- A whole port is placed exactly if a signal with one pin has it. -/
theorem exists_locate_iff {b : ResourceBinding} {s : SignalBinding} :
    (∃ pin, .locate (s.portName b) pin ∈ e.constraints) ↔ e.HasWhole (s.portName b) := by
  simp only [locate_mem_iff]
  constructor
  · rintro ⟨pin, x, mem, named, -⟩
    obtain ⟨hb, hs, -⟩ := mem_placedBits_iff.1 mem
    have single := SignalBinding.length_eq_one_of_bitName_eq named
    refine ⟨x.binding, hb, x.signal, hs, single, ?_⟩
    rw [← named, PlacedBit.name, SignalBinding.bitName_eq_portName single]
  · rintro ⟨c, hc, t, ht, single, named⟩
    obtain ⟨pin, pins⟩ := List.length_eq_one_iff.1 single
    refine ⟨pin, ⟨c, t, pin, 0⟩, mem_placedBits_iff.2 ⟨hc, ht, by rw [pins]; rfl⟩, ?_, rfl⟩
    rw [← named, PlacedBit.name, SignalBinding.bitName_eq_portName single]

/-- If names are told apart, a port is that of no other signal. -/
theorem hasWhole_iff (keys : (e.bindings.map (·.key)).Nodup)
    (ports : ∀ b ∈ e.bindings, IsPortName b.resource)
    (signals : ∀ b ∈ e.bindings, (b.signals.map (·.name)).Nodup) {b : ResourceBinding}
    {s : SignalBinding} (hb : b ∈ e.bindings) (hs : s ∈ b.signals) :
    e.HasWhole (s.portName b) ↔ s.pins.length = 1 := by
  constructor
  · rintro ⟨c, hc, t, ht, single, named⟩
    rw [SignalBinding.portName_eq_bitName c t "", SignalBinding.portName_eq_bitName b s ""] at named
    have port := SignalBinding.port_eq_of_bitName_eq (ports c hc) (ports b hb) named
    obtain rfl : c = b :=
      List.inj_on_of_nodup_map keys hc hb (ResourceBinding.port_injective port)
    have name := SignalBinding.name_eq_of_bitName_eq named
    obtain rfl : t = s := List.inj_on_of_nodup_map (signals c hc) ht hs name
    exact single
  · intro single
    exact ⟨b, hb, s, hs, single, rfl⟩

/-! ### The file -/

/-- No name has a quote. -/
def IsUnquoted (e : Elaboration) : Prop :=
  ∀ b ∈ e.bindings, '"' ∉ b.resource.toList ∧ ∀ s ∈ b.signals, '"' ∉ s.name.toList

instance (e : Elaboration) : Decidable e.IsUnquoted := List.decidableBAll _ _

theorem quote_notMem_port (unquoted : e.IsUnquoted) {c : Constraint} (hc : c ∈ e.constraints)
    {port : String} (named : c.port? = some port) : '"' ∉ port.toList := by
  have bit : ∀ x ∈ e.placedBits, '"' ∉ x.name.toList := fun x hx => by
    obtain ⟨hb, hs, -⟩ := mem_placedBits_iff.1 hx
    exact SignalBinding.notMem_bitName (by decide) rfl (unquoted _ hb).1 ((unquoted _ hb).2 _ hs) _
  cases mem_constraints_iff.1 hc with
  | untimed => cases named
  | @locate x mem =>
    cases named
    exact bit x mem
  | @attributes x mem =>
    cases named
    exact bit x mem
  | @frequency b s frequency mem clock found =>
    cases named
    exact SignalBinding.notMem_portName (by decide) rfl (unquoted b mem).1
      ((unquoted b mem).2 s (ResourceBinding.mem_of_clockSignal? found))

section Lines

variable (pinned : ∀ b ∈ e.bindings, b.IsPinned) (single : e.IsSingleLined)
include pinned single

/-- The lines of the file are those of the constraints, and two that begin with other words. -/
theorem mem_lines_iff {l : List Char} (other : keyword l ≠ "#" ∧ keyword l ≠ "") :
    l ∈ Text.lines e.constraintFile ↔ ∃ c ∈ e.constraints, c.line.toList = l := by
  rw [lines_constraintFile pinned single]
  unfold writtenLines
  simp only [List.map_cons, List.map_map, List.cons_append, List.mem_cons, List.mem_append,
    List.mem_map, Function.comp_apply]
  constructor
  · rintro (rfl | found | rfl | none)
    · exact absurd (by decide +kernel) other.1
    · exact found
    · exact absurd rfl other.2
    · cases none
  · exact fun found => Or.inr (Or.inl found)

/-- A line that places something comes from a bit that is placed. -/
theorem mem_lines_located_iff {l : List Char} :
    (l ∈ Text.lines e.constraintFile ∧ keyword l = "LOCATE") ↔
      ∃ bit pin, .locate bit pin ∈ e.constraints ∧ (Constraint.locate bit pin).line.toList = l := by
  constructor
  · rintro ⟨hl, word⟩
    obtain ⟨c, hc, rfl⟩ := (mem_lines_iff pinned single (by simp [word])).1 hl
    rw [Constraint.keyword_line] at word
    cases c with
    | locate bit pin => exact ⟨bit, pin, hc, rfl⟩
    | untimed | attributes | frequency => simp [Constraint.keyword] at word
  · rintro ⟨bit, pin, hc, rfl⟩
    have word := (Constraint.locate bit pin).keyword_line
    exact ⟨(mem_lines_iff pinned single (by simp [word, Constraint.keyword])).2 ⟨_, hc, rfl⟩, word⟩

/-- The lines of a file refer to nothing that is not placed exactly if each clock has a port that is
placed as a whole. -/
theorem refersToPlaced_iff (unquoted : e.IsUnquoted) :
    RefersToPlaced (Text.lines e.constraintFile) ↔
      ∀ b s, e.ClockedAt b s → e.HasWhole (s.portName b) := by
  constructor
  · intro refers b s clocked
    obtain ⟨frequency, clock⟩ := Option.isSome_iff_exists.1 clocked.clock
    have hc := mem_constraints_iff.2 (.frequency clocked.mem clock clocked.found)
    have word := (Constraint.frequency (s.portName b) (wholeHertz frequency)).keyword_line
    have hl := (mem_lines_iff pinned single (by simp [word, Constraint.keyword])).2 ⟨_, hc, rfl⟩
    obtain ⟨l, hl, located, same⟩ := refers _ hl (Or.inr word)
    obtain ⟨bit, pin, hc', rfl⟩ := (mem_lines_located_iff pinned single).1 ⟨hl, located⟩
    rw [Constraint.quoted?_line rfl (quote_notMem_port unquoted hc' rfl),
      Constraint.quoted?_line rfl (quote_notMem_port unquoted hc rfl), Option.some.injEq,
      String.toList_inj] at same
    rw [same] at hc'
    exact exists_locate_iff.1 ⟨pin, hc'⟩
  · intro whole l hl word
    -- it is enough to find where the port of the constraint is placed
    have enough : ∀ c ∈ e.constraints, ∀ port, c.port? = some port →
        (∃ pin, .locate port pin ∈ e.constraints) → ∃ l' ∈ Text.lines e.constraintFile,
          keyword l' = "LOCATE" ∧ quoted? l' = quoted? c.line.toList := by
      rintro c hc port named ⟨pin, hc'⟩
      obtain ⟨hl', located⟩ :=
        (mem_lines_located_iff pinned single).2 ⟨port, pin, hc', rfl⟩
      refine ⟨_, hl', located, ?_⟩
      rw [Constraint.quoted?_line named (quote_notMem_port unquoted hc named),
        Constraint.quoted?_line rfl (quote_notMem_port unquoted hc' rfl)]
    have other : keyword l ≠ "#" ∧ keyword l ≠ "" := by
      rcases word with word | word <;> simp [word]
    obtain ⟨c, hc, rfl⟩ := (mem_lines_iff pinned single other).1 hl
    rw [Constraint.keyword_line] at word
    cases mem_constraints_iff.1 hc with
    | untimed | locate => simp [Constraint.keyword] at word
    | @attributes x mem some =>
      exact enough _ hc x.name rfl ⟨x.pin, mem_constraints_iff.2 (.locate mem)⟩
    | @frequency b s frequency mem clock found =>
      have clocked : e.ClockedAt b s := ⟨mem, Option.isSome_of_eq_some clock, found⟩
      exact enough _ hc _ rfl (exists_locate_iff.2 (whole b s clocked))

end Lines

/-- What the constraints of the elaboration refer to. -/
structure RefersToPorts (e : Elaboration) : Prop where
  /-- A bit whose pin has attributes is placed. -/
  attributed : ∀ bit attrs, .attributes bit attrs ∈ e.constraints →
    ∃ pin, .locate bit pin ∈ e.constraints
  /-- The port that a frequency is told of is placed exactly if a signal with one pin has it. -/
  clocked_iff : ∀ b s, e.ClockedAt b s →
    ((∃ pin, .locate (s.portName b) pin ∈ e.constraints) ↔ e.HasWhole (s.portName b))
  /-- So it is placed exactly if the signal itself has one pin, where names are told apart. -/
  single_iff : (∀ b ∈ e.bindings, IsPortName b.resource) →
    (∀ b ∈ e.bindings, (b.signals.map (·.name)).Nodup) → ∀ b s, e.ClockedAt b s →
    ((∃ pin, .locate (s.portName b) pin ∈ e.constraints) ↔ s.pins.length = 1)
  /-- The lines of the file refer to nothing that is not placed exactly if each clock has such a
  port, as long as no name ends a line or a pair of quotes. -/
  lines_iff : e.IsSingleLined → e.IsUnquoted → (RefersToPlaced (Text.lines e.constraintFile) ↔
    ∀ b s, e.ClockedAt b s → e.HasWhole (s.portName b))

variable {d : Descriptor} {p : Platform}

/-- **The constraint file refers to nothing that is not placed**, apart from clocks on several
pins. -/
theorem refersToPorts_of_elaborate (h : ((elaborate d).run p).2.outcome = .ok e) :
    e.RefersToPorts where
  attributed := by
    intro bit attrs hc
    generalize constraint : Constraint.attributes bit attrs = c at hc
    cases mem_constraints_iff.1 hc with
    | @attributes x mem some =>
      cases constraint
      exact ⟨x.pin, mem_constraints_iff.2 (.locate mem)⟩
    | untimed | locate | frequency => cases constraint
  clocked_iff b s _ := exists_locate_iff
  single_iff ports signals b s clocked :=
    exists_locate_iff.trans (hasWhole_iff (nodup_keys_of_elaborate h) ports signals clocked.mem
      (ResourceBinding.mem_of_clockSignal? clocked.found))
  lines_iff single unquoted := refersToPlaced_iff (isPinned_of_elaborate h) single unquoted

end Elaboration

namespace Descriptor

theorem refersToPorts_console : ∃ e, ((elaborate console).run plainBoard).2.outcome = .ok e ∧
    (∃ b s, e.ClockedAt b s ∧ s.portName b = "clk_0__i") ∧
    RefersToPlaced (Text.lines e.constraintFile) := by
  have made : ∃ e, ((elaborate console).run plainBoard).2.outcome = .ok e ∧
      e.IsSingleLined ∧ e.IsUnquoted ∧ e.clock.clock.isSome = true ∧
      e.clock.clockSignal?.map (·.portName e.clock) = some "clk_0__i" ∧
      ∀ b ∈ e.bindings, b.clock.isSome = true → ∀ s ∈ b.signals, s.pins.length = 1 :=
    ⟨_, rfl, by decide +kernel, by decide +kernel, by decide +kernel, by decide +kernel,
      by decide +kernel⟩
  obtain ⟨e, he, single, unquoted, clock, named, alone⟩ := made
  obtain ⟨s, found, named⟩ := Option.map_eq_some_iff.1 named
  refine ⟨e, he, ⟨e.clock, s, ⟨List.mem_cons_self .., clock, found⟩, named⟩, ?_⟩
  refine ((Elaboration.refersToPorts_of_elaborate he).lines_iff single unquoted).2 ?_
  intro b s clocked
  have hs := ResourceBinding.mem_of_clockSignal? clocked.found
  exact ⟨b, clocked.mem, s, hs, alone b clocked.mem clocked.clock s hs, rfl⟩

/-- A board whose clock comes on a pair of pins. -/
def pairedBoard : Platform := consoleBoard "A8 B8" (some 60e6) (.ofList [("IO_TYPE", "LVCMOS33")])

/-- The frequency of a clock on two pins is told of a port that is nowhere. -/
theorem unplaced_pairedBoard : ∃ e, ((elaborate console).run pairedBoard).2.outcome = .ok e ∧
    (∃ hertz, .frequency "clk_0__i" hertz ∈ e.constraints) ∧
    e.placedBits.map (·.name) = ["clk_0__i[0]", "clk_0__i[1]", "led_0__o[0]", "led_0__o[1]",
      "uart_1__rx__i", "uart_1__tx__o"] ∧
    ¬ RefersToPlaced (Text.lines e.constraintFile) := by
  have made : ∃ e, ((elaborate console).run pairedBoard).2.outcome = .ok e ∧
      e.placedBits.map (·.name) = ["clk_0__i[0]", "clk_0__i[1]", "led_0__o[0]", "led_0__o[1]",
        "uart_1__rx__i", "uart_1__tx__o"] ∧
      e.IsSingleLined ∧ e.IsUnquoted ∧ e.clock.clock.isSome = true ∧
      e.clock.clockSignal?.map (·.portName e.clock) = some "clk_0__i" :=
    ⟨_, rfl, by decide +kernel, by decide +kernel, by decide +kernel, by decide +kernel,
      by decide +kernel⟩
  obtain ⟨e, he, bits, single, unquoted, clock, named⟩ := made
  obtain ⟨frequency, hertz⟩ := Option.isSome_iff_exists.1 clock
  obtain ⟨s, found, named⟩ := Option.map_eq_some_iff.1 named
  have clocked : e.ClockedAt e.clock s := ⟨List.mem_cons_self .., clock, found⟩
  have constrained := Elaboration.mem_constraints_iff.2 (.frequency clocked.mem hertz found)
  rw [named] at constrained
  refine ⟨e, he, ⟨_, constrained⟩, bits, fun refers => ?_⟩
  have pinned := Elaboration.isPinned_of_elaborate he
  obtain ⟨pin, hc⟩ := Elaboration.exists_locate_iff.2
    ((Elaboration.refersToPlaced_iff pinned single unquoted).1 refers _ s clocked)
  obtain ⟨x, hx, same, -⟩ := Elaboration.locate_mem_iff.1 hc
  have placed := List.mem_map_of_mem (f := (·.name)) hx
  rw [bits, same, named] at placed
  simp at placed

end Descriptor

end SocAssembly
