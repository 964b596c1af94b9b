import Mathlib
import SocAssembly.Proofs.Alternates
import SocAssembly.Proofs.PinAssignment
import SocAssembly.Proofs.PortNames
import SocAssembly.Proofs.TextWords

/-!
# The constraint file

Each line of the file begins with a word that tells what it is for (`keyword`). The places of bits
are told in the order of the bits, each on a line, and the line behind it has the attributes of the
pin, if it has any (`Elaboration.PlacesBits`). So much holds of the lines as they are written. They
are the lines of the file if no name and no attribute goes on on another line
(`Elaboration.IsSingleLined`): nothing is checked or quoted, so one that does could say anything
there, and place bits as well (`Descriptor.misplaced_smuggler`).
-/

namespace SocAssembly

/-! ### What is bound -/

/-- A binding that leads to pins. -/
structure ResourceBinding.IsPinned (b : ResourceBinding) : Prop where
  /-- It has a signal. -/
  signals_ne_nil : b.signals ≠ []
  /-- Each signal has a pin. -/
  pins_ne_nil : ∀ s ∈ b.signals, s.pins ≠ []
  /-- The name of a pin stands on a line. -/
  pins_isLine : ∀ s ∈ b.signals, ∀ pin ∈ s.pins, Text.IsLine pin

theorem Board.LeadsTo.isLine {board : Board} {conn : Option ConnectorRef} {word pin : String}
    (h : board.LeadsTo conn word pin) (isLine : Text.IsLine word) : Text.IsLine pin := by
  cases h with
  | direct => exact isLine
  | behind found number positive place wired =>
    exact Text.isLine_of_mem_words (List.mem_of_getElem? place)

theorem ResourceBinding.isPinned_of_resolve {board : Board} {r : Resource} {b : ResourceBinding}
    (h : board.resolve r = .ok b.signals) : b.IsPinned := by
  obtain ⟨some, resolved⟩ := Board.resolve_eq_ok_iff.1 h
  have assigned : ∀ t ∈ b.signals, ∃ s ∈ r.signals, board.resolveSignal r s = .ok t :=
    fun t ht => exists_of_forall₂ resolved ht
  refine ⟨fun none => some ((eq_nil_iff_of_forall₂ resolved).2 none), ?_, ?_⟩
  · intro t ht
    obtain ⟨s, -, bound⟩ := assigned t ht
    obtain ⟨pins, found, made⟩ := except_bind_eq_ok_iff.1 bound
    cases made
    obtain ⟨words, leads⟩ := Board.resolvePins_eq_ok_iff.1 found
    exact fun none => words ((eq_nil_iff_of_forall₂ leads).2 none)
  · intro t ht pin hpin
    obtain ⟨s, -, bound⟩ := assigned t ht
    have assigned := Board.assigns_of_resolveSignal bound
    obtain ⟨word, hword, leads⟩ := exists_of_forall₂ assigned.pins hpin
    exact leads.isLine (Text.isLine_of_mem_words hword)

theorem Platform.exists_resolve_of_request {p : Platform} {k : ResourceKey} {b : ResourceBinding}
    (h : ((request k).run p).2.outcome = .ok b) : ∃ r, p.board.resolve r = .ok b.signals := by
  cases found : p.board.resource? k with
  | none =>
    rw [(request_ends_of_absent found).2] at h
    cases h
  | some r =>
    rw [request_run found] at h
    have alone := bind_alone k.name r p
    rw [h] at alone
    generalize ((bind k.name r).run p).1 = q at alone
    cases alone with
    | bound free resolved => exact ⟨r, resolved⟩

namespace Elaboration

variable {d : Descriptor} {p : Platform} {e : Elaboration}

/-- All that an elaboration binds leads to pins. -/
theorem isPinned_of_elaborate (h : ((elaborate d).run p).2.outcome = .ok e) :
    ∀ b ∈ e.bindings, b.IsPinned := by
  have wired := Descriptor.wired_of_elaborate h
  unfold elaborate at h
  simp only [Session.outcome_bind_eq_ok_iff, Session.run_state_bind, Session.run_ofExcept,
    Session.run_ofReport] at h
  obtain ⟨soc, -, _, -, _, -, clock, requested, signals, -, _, -, design, -, _, -, h⟩ := h
  cases h
  refine List.forall_mem_cons.2 ⟨?_, fun b hb => ?_⟩
  · obtain ⟨r, resolved⟩ := Platform.exists_resolve_of_request requested
    exact ResourceBinding.isPinned_of_resolve resolved
  · obtain ⟨s, hs, rfl⟩ := List.mem_map.1 hb
    obtain ⟨w, -, r, -, bound⟩ := exists_of_forall₂ wired hs
    exact ResourceBinding.isPinned_of_resolve bound.signals_eq

/-- Different bindings of an elaboration have different keys. -/
theorem nodup_keys_of_elaborate (h : ((elaborate d).run p).2.outcome = .ok e) :
    (e.bindings.map (·.key)).Nodup := by
  have handsOut := elaborate_handsOut d p
  rw [handsOut.value e h]
  exact handsOut.handout.nodup

end Elaboration

/-! ### What a line is for -/

/-- The word that a line begins with. -/
def keyword (l : List Char) : String := String.ofList (l.takeWhile (· ≠ ' '))

namespace Constraint

/-- The word that the line of a constraint begins with. -/
def keyword : Constraint → String
  | untimed _ => "BLOCK"
  | locate .. => "LOCATE"
  | attributes .. => "IOBUF"
  | frequency .. => "FREQUENCY"

/-- What stands behind the word. -/
def operands : Constraint → String
  | untimed paths => paths ++ ";"
  | locate bit pin => "COMP \"" ++ bit ++ "\" SITE \"" ++ pin ++ "\";"
  | attributes bit attrs => "PORT \"" ++ bit ++ "\"" ++ attributesText attrs ++ ";"
  | frequency port hertz => "PORT \"" ++ port ++ "\" " ++ toString hertz ++ " HZ;"

theorem line_eq (c : Constraint) : c.line = c.keyword ++ (" " ++ c.operands) := by
  cases c <;> (simp only [operands, ← String.append_assoc]; rfl)

theorem keyword_mem (c : Constraint) :
    c.keyword ∈ ["BLOCK", "LOCATE", "IOBUF", "FREQUENCY"] := by
  cases c <;> simp [keyword]

theorem keyword_line (c : Constraint) : SocAssembly.keyword c.line.toList = c.keyword := by
  have spelled : c.line.toList = c.keyword.toList ++ ' ' :: c.operands.toList := by
    rw [c.line_eq]
    simp
  have words : ∀ w ∈ ["BLOCK", "LOCATE", "IOBUF", "FREQUENCY"],
      ∀ a ∈ w.toList, decide (a ≠ ' ') = true := by simp
  unfold SocAssembly.keyword
  rw [spelled, List.takeWhile_append_of_pos (words _ c.keyword_mem),
    List.takeWhile_cons_of_neg (by simp), List.append_nil, String.ofList_toList]

theorem isLine_line {c : Constraint} (h : Text.IsLine c.operands) : Text.IsLine c.line := by
  have words : ∀ w ∈ ["BLOCK", "LOCATE", "IOBUF", "FREQUENCY"], Text.IsLine w := by decide
  rw [c.line_eq, Text.isLine_append, Text.isLine_append]
  exact ⟨words _ c.keyword_mem, by decide, h⟩

end Constraint

theorem isLine_attributesText {attrs : Dict String}
    (h : ∀ a ∈ attrs.entries, Text.IsLine a.1 ∧ Text.IsLine a.2) :
    Text.IsLine (attributesText attrs) := by
  unfold attributesText
  generalize attrs.entries = entries at h
  induction entries with
  | nil => decide
  | cons a rest ih =>
    obtain ⟨⟨key, value⟩, others⟩ := List.forall_mem_cons.1 h
    have first : Text.IsLine s!" {a.1}={a.2}" := by
      simp only [Text.isLine_append]
      exact ⟨⟨⟨by decide, key⟩, by decide⟩, value⟩
    rw [List.map_cons, String.join_cons, Text.isLine_append]
    exact ⟨first, ih others⟩

/-! ### The bits in the file -/

namespace PlacedBit

/-- The line that places the bit. -/
def locateLine (x : PlacedBit) : List Char := (Constraint.locate x.name x.pin).line.toList

/-- The line with the attributes of its pin. -/
def attributesLine (x : PlacedBit) : List Char :=
  (Constraint.attributes x.name x.signal.attrs).line.toList

/-- The lines of the bit: that of its attributes is left out if there are none. -/
def lines (x : PlacedBit) : List (List Char) :=
  if x.signal.attrs.entries = [] then [x.locateLine] else [x.locateLine, x.attributesLine]

end PlacedBit

/-- The line says how fast the clock of the binding is, at one of its ports. -/
def ResourceBinding.IsClockLine (b : ResourceBinding) (l : List Char) : Prop :=
  ∃ s ∈ b.signals, ∃ frequency, b.clock = some frequency ∧
    l = (Constraint.frequency (s.portName b) (wholeHertz frequency)).line.toList

namespace Elaboration

/-- The bits that are bound, those of the clock first. -/
def placedBits (e : Elaboration) : List PlacedBit := e.bindings.flatMap (·.placedBits)

/-- The lines place every bit that is bound. -/
structure PlacesBits (e : Elaboration) (ls : List (List Char)) : Prop where
  /-- Each bit is placed once, at its pin, and in order. -/
  located : ls.filter (keyword · = "LOCATE") = e.placedBits.map (·.locateLine)
  /-- The attributes of a bit come before the next bit, and nothing else has attributes. -/
  attributed : ls.filter (fun l => keyword l = "LOCATE" ∨ keyword l = "IOBUF") =
    e.placedBits.flatMap (·.lines)
  /-- They stand right behind the place of the bit. -/
  adjacent : ls.IsChain fun l l' => keyword l' = "IOBUF" → keyword l = "LOCATE"
  /-- Each clock has one line, in order. -/
  clocked : (e.bindings.filter (·.clock.isSome)).Forall₂ (·.IsClockLine ·)
    (ls.filter (keyword · = "FREQUENCY"))

end Elaboration

/-! ### The lines as they are written -/

@[simp] theorem PlacedBit.keyword_locateLine (x : PlacedBit) : keyword x.locateLine = "LOCATE" :=
  Constraint.keyword_line _

@[simp] theorem PlacedBit.keyword_attributesLine (x : PlacedBit) :
    keyword x.attributesLine = "IOBUF" := Constraint.keyword_line _

theorem PlacedBit.keyword_of_mem_lines {x : PlacedBit} {l : List Char} (h : l ∈ x.lines) :
    keyword l = "LOCATE" ∨ keyword l = "IOBUF" := by
  unfold lines at h
  split at h
  · rw [List.mem_singleton.1 h]
    exact Or.inl x.keyword_locateLine
  · rcases List.mem_pair.1 h with rfl | rfl
    · exact Or.inl x.keyword_locateLine
    · exact Or.inr x.keyword_attributesLine

theorem PlacedBit.filter_lines_located (x : PlacedBit) :
    x.lines.filter (keyword · = "LOCATE") = [x.locateLine] := by
  unfold lines
  split <;> simp

/-- The constraints of a bit. -/
def PlacedBit.constraints (x : PlacedBit) : List Constraint :=
  x.signal.bitConstraints x.binding x.pin x.bit

theorem PlacedBit.map_line_constraints (x : PlacedBit) :
    x.constraints.map (·.line.toList) = x.lines := by
  unfold constraints lines SignalBinding.bitConstraints
  simp only [List.isEmpty_iff]
  split <;> rfl

namespace ResourceBinding

variable {b : ResourceBinding}

/-- The line for the clock, if it is one. -/
def clockLines (b : ResourceBinding) : List (List Char) :=
  b.clockConstraint?.toList.map (·.line.toList)

/-- The lines of a binding. -/
def lines (b : ResourceBinding) : List (List Char) :=
  b.placedBits.flatMap (·.lines) ++ b.clockLines

theorem constraints_eq (b : ResourceBinding) :
    b.constraints = b.placedBits.flatMap (·.constraints) ++ b.clockConstraint?.toList := by
  unfold constraints placedBits
  rw [List.flatMap_assoc]
  refine congrArg (· ++ _) (List.flatMap_congr fun s _ => ?_)
  unfold SignalBinding.constraints SignalBinding.placedBits
  rw [List.flatMap_map]
  rfl

theorem map_line_constraints (b : ResourceBinding) :
    b.constraints.map (·.line.toList) = b.lines := by
  rw [constraints_eq, List.map_append, List.map_flatMap]
  exact congrArg (· ++ _) (List.flatMap_congr fun x _ => x.map_line_constraints)

theorem keyword_of_mem_clockLines {l : List Char} (h : l ∈ b.clockLines) :
    keyword l = "FREQUENCY" := by
  obtain ⟨c, hc, rfl⟩ := List.mem_map.1 h
  rw [Constraint.keyword_line]
  unfold clockConstraint? at hc
  simp only [Option.mem_toList, Option.bind_eq_bind, Option.bind_eq_some_iff] at hc
  obtain ⟨_, -, _, -, made⟩ := hc
  cases made
  rfl

theorem mem_of_clockSignal? {s : SignalBinding} (found : b.clockSignal? = some s) :
    s ∈ b.signals := by
  rcases Option.or_eq_some_iff.1 found with found | ⟨-, found⟩
  · exact List.mem_of_find?_eq_some found
  · exact List.mem_of_head? found

theorem exists_clockSignal (signaled : b.signals ≠ []) : ∃ s, b.clockSignal? = some s := by
  obtain ⟨s, rest, split⟩ := List.exists_cons_of_ne_nil signaled
  unfold clockSignal?
  cases found : b.signals.find? (·.dir = .input) with
  | some t => exact ⟨t, rfl⟩
  | none => exact ⟨s, by rw [split]; rfl⟩

theorem clockLines_eq_nil (idle : b.clock = none) : b.clockLines = [] := by
  unfold clockLines clockConstraint?
  rw [idle]
  rfl

theorem exists_clockLines_eq (signaled : b.signals ≠ []) (clock : b.clock.isSome = true) :
    ∃ l, b.clockLines = [l] ∧ b.IsClockLine l := by
  obtain ⟨frequency, clock⟩ := Option.isSome_iff_exists.1 clock
  obtain ⟨s, found⟩ := exists_clockSignal signaled
  unfold clockLines clockConstraint?
  rw [clock, found]
  exact ⟨_, rfl, s, mem_of_clockSignal? found, frequency, clock, rfl⟩

/-- Each clock has one line, and nothing else has any. -/
theorem forall₂_clockLines {bs : List ResourceBinding} (pinned : ∀ b ∈ bs, b.IsPinned) :
    (bs.filter (·.clock.isSome)).Forall₂ (·.IsClockLine ·) (bs.flatMap (·.clockLines)) := by
  induction bs with
  | nil => exact .nil
  | cons b rest ih =>
    rw [List.forall_mem_cons] at pinned
    rw [List.flatMap_cons]
    cases clock : b.clock.isSome with
    | false =>
      have idle : b.clock = none := by simpa using clock
      rw [List.filter_cons_of_neg (by simp [idle]), clockLines_eq_nil idle]
      exact ih pinned.2
    | true =>
      obtain ⟨l, single, isClockLine⟩ := exists_clockLines_eq pinned.1.signals_ne_nil clock
      rw [List.filter_cons_of_pos (by simp [clock]), single]
      exact .cons isClockLine (ih pinned.2)

/-- Whatever is looked for by the word of a line is found among the lines of the bits and that of
the clock. -/
theorem filter_lines (b : ResourceBinding) (P : String → Bool) :
    b.lines.filter (fun l => P (keyword l)) =
      (b.placedBits.flatMap fun x => x.lines.filter fun l => P (keyword l)) ++
        if P "FREQUENCY" then b.clockLines else [] := by
  rw [lines, List.filter_append, List.filter_flatMap]
  congr 1
  split
  · rename_i found
    refine List.filter_eq_self.2 fun l hl => ?_
    rw [keyword_of_mem_clockLines hl, found]
  · rename_i missed
    refine List.filter_eq_nil_iff.2 fun l hl => ?_
    rwa [keyword_of_mem_clockLines hl]

theorem filter_lines_located (b : ResourceBinding) :
    b.lines.filter (keyword · = "LOCATE") = b.placedBits.map (·.locateLine) := by
  refine (b.filter_lines (· = "LOCATE")).trans ?_
  rw [if_neg (by decide), List.append_nil, List.map_eq_flatMap]
  exact List.flatMap_congr fun x _ => x.filter_lines_located

theorem filter_lines_attributed (b : ResourceBinding) :
    b.lines.filter (fun l => keyword l = "LOCATE" ∨ keyword l = "IOBUF") =
      b.placedBits.flatMap (·.lines) := by
  refine (b.filter_lines fun w => w = "LOCATE" ∨ w = "IOBUF").trans ?_
  rw [if_neg (by decide), List.append_nil]
  refine List.flatMap_congr fun x _ => List.filter_eq_self.2 fun l hl => ?_
  exact decide_eq_true (PlacedBit.keyword_of_mem_lines hl)

theorem filter_lines_clocked (b : ResourceBinding) :
    b.lines.filter (keyword · = "FREQUENCY") = b.clockLines := by
  refine (b.filter_lines (· = "FREQUENCY")).trans ?_
  rw [if_pos (by decide), List.flatMap_eq_nil_iff.2 fun x _ => ?_, List.nil_append]
  refine List.filter_eq_nil_iff.2 fun l hl => ?_
  rcases PlacedBit.keyword_of_mem_lines hl with word | word <;> simp [word]

end ResourceBinding

/-- The first of these lines does not have attributes, and no line with attributes stands behind one
that does not place a bit. So lists of such lines can be put behind one another. -/
structure KeepsAttributes (ls : List (List Char)) : Prop where
  /-- Attributes stand right behind the place of a bit. -/
  chain : ls.IsChain fun l l' => keyword l' = "IOBUF" → keyword l = "LOCATE"
  /-- None are first. -/
  head : ∀ l ∈ ls.head?, keyword l ≠ "IOBUF"

namespace KeepsAttributes

variable {ls ls' : List (List Char)}

theorem nil : KeepsAttributes [] := ⟨List.isChain_nil, by simp⟩

theorem append (h : KeepsAttributes ls) (h' : KeepsAttributes ls') :
    KeepsAttributes (ls ++ ls') := by
  refine ⟨List.isChain_append.2 ⟨h.chain, h'.chain, fun l _ l' hl' attributes => ?_⟩, ?_⟩
  · exact absurd attributes (h'.head l' hl')
  · cases ls with
    | nil => exact h'.head
    | cons l rest => exact h.head

theorem flatMap {α : Type} {xs : List α} {f : α → List (List Char)}
    (h : ∀ x ∈ xs, KeepsAttributes (f x)) : KeepsAttributes (xs.flatMap f) := by
  induction xs with
  | nil => exact nil
  | cons x rest ih =>
    rw [List.forall_mem_cons] at h
    exact h.1.append (ih h.2)

/-- Lines without attributes can be put anywhere. -/
theorem of_forall (h : ∀ l ∈ ls, keyword l ≠ "IOBUF") : KeepsAttributes ls := by
  induction ls with
  | nil => exact nil
  | cons l rest ih =>
    rw [List.forall_mem_cons] at h
    have single : KeepsAttributes [l] := ⟨List.isChain_singleton l, by simpa using h.1⟩
    exact single.append (ih h.2)

end KeepsAttributes

theorem PlacedBit.keepsAttributes_lines (x : PlacedBit) : KeepsAttributes x.lines := by
  unfold lines
  split
  · exact ⟨List.isChain_singleton _, by simp⟩
  · exact ⟨List.isChain_pair.2 fun _ => x.keyword_locateLine, by simp⟩

theorem ResourceBinding.keepsAttributes_lines (b : ResourceBinding) : KeepsAttributes b.lines := by
  refine (KeepsAttributes.flatMap fun x _ => x.keepsAttributes_lines).append (.of_forall ?_)
  intro l hl
  simp [keyword_of_mem_clockLines hl]

namespace Elaboration

variable {e : Elaboration}

/-- The lines in front of those of the bindings. -/
def opening : List (List Char) :=
  ["# Generated by moondancer-soc, do not edit.".toList, "BLOCK ASYNCPATHS;".toList,
    "BLOCK RESETPATHS;".toList]

/-- The lines that are written. -/
def writtenLines (e : Elaboration) : List String :=
  "# Generated by moondancer-soc, do not edit." :: e.constraints.map Constraint.line

theorem map_toList_writtenLines (e : Elaboration) :
    e.writtenLines.map String.toList = opening ++ e.bindings.flatMap (·.lines) := by
  unfold writtenLines constraints opening
  simp only [List.map_cons, List.map_map, List.map_flatMap, List.cons_append, List.nil_append]
  refine congrArg (_ :: _ :: _ :: ·) (List.flatMap_congr fun b _ => ?_)
  exact b.map_line_constraints

theorem keyword_of_mem_opening : ∀ l ∈ opening, keyword l = "#" ∨ keyword l = "BLOCK" := by
  decide +kernel

section Around

variable {closing : List (List Char)} (blank : ∀ l ∈ closing, l = [])
include blank

/-- What stands around the lines of the bindings does not begin with a word that is looked for. -/
theorem filter_around {P : String → Bool} (heading : P "#" = false) (block : P "BLOCK" = false)
    (empty : P "" = false) :
    (opening ++ e.bindings.flatMap (·.lines) ++ closing).filter (fun l => P (keyword l)) =
      e.bindings.flatMap fun b => b.lines.filter fun l => P (keyword l) := by
  have first : opening.filter (fun l => P (keyword l)) = [] := by
    refine List.filter_eq_nil_iff.2 fun l hl => ?_
    rcases keyword_of_mem_opening l hl with word | word <;> simp [word, heading, block]
  have last : closing.filter (fun l => P (keyword l)) = [] := by
    refine List.filter_eq_nil_iff.2 fun l hl => ?_
    have word : keyword l = "" := by rw [blank l hl]; rfl
    simp [word, empty]
  rw [List.filter_append, List.filter_append, first, last, List.nil_append, List.append_nil,
    List.filter_flatMap]

/-- The lines of the bindings place every bit, and those around them no other. -/
theorem placesBits_around (pinned : ∀ b ∈ e.bindings, b.IsPinned) :
    e.PlacesBits (opening ++ e.bindings.flatMap (·.lines) ++ closing) := by
  refine ⟨?located, ?attributed, ?adjacent, ?clocked⟩
  case located =>
    refine (filter_around (P := (· = "LOCATE")) blank rfl rfl rfl).trans ?_
    rw [placedBits, List.map_flatMap]
    exact List.flatMap_congr fun b _ => b.filter_lines_located
  case attributed =>
    refine (filter_around (P := fun w => w = "LOCATE" ∨ w = "IOBUF") blank rfl rfl rfl).trans ?_
    rw [placedBits, List.flatMap_assoc]
    exact List.flatMap_congr fun b _ => b.filter_lines_attributed
  case adjacent =>
    refine KeepsAttributes.chain (((KeepsAttributes.of_forall ?_).append
      (.flatMap fun b _ => b.keepsAttributes_lines)).append (.of_forall ?_))
    · intro l hl
      rcases keyword_of_mem_opening l hl with word | word <;> simp [word]
    · intro l hl
      rw [blank l hl]
      decide
  case clocked =>
    have clocked : (opening ++ e.bindings.flatMap (·.lines) ++ closing).filter
        (keyword · = "FREQUENCY") = e.bindings.flatMap (·.clockLines) :=
      (filter_around (P := (· = "FREQUENCY")) blank rfl rfl rfl).trans
        (List.flatMap_congr fun b _ => b.filter_lines_clocked)
    rw [clocked]
    exact ResourceBinding.forall₂_clockLines pinned

end Around

end Elaboration

/-! ### The lines of the file -/

/-- The names and attributes of a binding. -/
def ResourceBinding.texts (b : ResourceBinding) : List String :=
  b.resource :: b.signals.flatMap fun s => s.name :: s.attrs.entries.flatMap fun a => [a.1, a.2]

namespace Elaboration

/-- The names and attributes of all that is bound. -/
def texts (e : Elaboration) : List String := e.bindings.flatMap (·.texts)

/-- No name and no attribute goes on on another line. -/
def IsSingleLined (e : Elaboration) : Prop := ∀ s ∈ e.texts, Text.IsLine s

instance (e : Elaboration) : Decidable e.IsSingleLined := List.decidableBAll _ _

namespace IsSingleLined

variable {e : Elaboration} {b : ResourceBinding} {s : SignalBinding}

theorem resource (h : e.IsSingleLined) (hb : b ∈ e.bindings) : Text.IsLine b.resource :=
  h _ (List.mem_flatMap.2 ⟨b, hb, List.mem_cons_self ..⟩)

theorem signal (h : e.IsSingleLined) (hb : b ∈ e.bindings) (hs : s ∈ b.signals) :
    Text.IsLine s.name :=
  h _ (List.mem_flatMap.2 ⟨b, hb, List.mem_cons_of_mem _
    (List.mem_flatMap.2 ⟨s, hs, List.mem_cons_self ..⟩)⟩)

theorem attrs (h : e.IsSingleLined) (hb : b ∈ e.bindings) (hs : s ∈ b.signals) :
    ∀ a ∈ s.attrs.entries, Text.IsLine a.1 ∧ Text.IsLine a.2 := by
  intro a ha
  have mem : ∀ t ∈ [a.1, a.2], t ∈ e.texts := fun t ht =>
    List.mem_flatMap.2 ⟨b, hb, List.mem_cons_of_mem _ (List.mem_flatMap.2 ⟨s, hs,
      List.mem_cons_of_mem _ (List.mem_flatMap.2 ⟨a, ha, ht⟩)⟩)⟩
  exact ⟨h _ (mem _ (by simp)), h _ (mem _ (by simp))⟩

end IsSingleLined

variable {e : Elaboration}

/-- The constraint is one of the design. -/
inductive Constrains (e : Elaboration) : Constraint → Prop where
  /-- Some paths are not timed. -/
  | untimed {paths : String} (mem : paths ∈ ["ASYNCPATHS", "RESETPATHS"]) :
      Constrains e (.untimed paths)
  /-- A bit is placed. -/
  | locate {x : PlacedBit} (mem : x ∈ e.placedBits) : Constrains e (.locate x.name x.pin)
  /-- The pin of a bit has attributes. -/
  | attributes {x : PlacedBit} (mem : x ∈ e.placedBits) (some : x.signal.attrs.entries ≠ []) :
      Constrains e (.attributes x.name x.signal.attrs)
  /-- A clock has a frequency. -/
  | frequency {b : ResourceBinding} {s : SignalBinding} {frequency : Float} (mem : b ∈ e.bindings)
      (clock : b.clock = some frequency) (found : b.clockSignal? = some s) :
      Constrains e (.frequency (s.portName b) (wholeHertz frequency))

theorem mem_constraints_iff {c : Constraint} : c ∈ e.constraints ↔ e.Constrains c := by
  have bits : ∀ x : PlacedBit, c ∈ x.constraints ↔ c = .locate x.name x.pin ∨
      x.signal.attrs.entries ≠ [] ∧ c = .attributes x.name x.signal.attrs := by
    intro x
    unfold PlacedBit.constraints SignalBinding.bitConstraints
    by_cases none : x.signal.attrs.entries = [] <;> simp [none, PlacedBit.name]
  have mem : ∀ {x : PlacedBit}, x ∈ e.placedBits ↔ ∃ b ∈ e.bindings, x ∈ b.placedBits :=
    List.mem_flatMap
  unfold constraints
  simp only [List.mem_append, List.mem_flatMap, ResourceBinding.constraints_eq, bits]
  constructor
  · rintro (untimed | ⟨b, hb, ⟨x, hx, rfl | ⟨attrs, rfl⟩⟩ | clock⟩)
    · have : c = .untimed "ASYNCPATHS" ∨ c = .untimed "RESETPATHS" := by simpa using untimed
      rcases this with rfl | rfl <;> exact .untimed (by simp)
    · exact .locate (mem.2 ⟨b, hb, hx⟩)
    · exact .attributes (mem.2 ⟨b, hb, hx⟩) attrs
    · unfold ResourceBinding.clockConstraint? at clock
      simp only [Option.mem_toList, Option.bind_eq_bind, Option.bind_eq_some_iff] at clock
      obtain ⟨frequency, clock, s, found, made⟩ := clock
      cases made
      exact .frequency hb clock found
  · rintro (untimed | hx | ⟨hx, attrs⟩ | ⟨hb, clock, found⟩)
    · exact Or.inl (by simpa using untimed)
    · obtain ⟨b, hb, hx⟩ := mem.1 hx
      exact Or.inr ⟨b, hb, Or.inl ⟨_, hx, Or.inl rfl⟩⟩
    · obtain ⟨b, hb, hx⟩ := mem.1 hx
      exact Or.inr ⟨b, hb, Or.inl ⟨_, hx, Or.inr ⟨attrs, rfl⟩⟩⟩
    · refine Or.inr ⟨_, hb, Or.inr ?_⟩
      unfold ResourceBinding.clockConstraint?
      simp [clock, found]

theorem mem_placedBits_iff {x : PlacedBit} : x ∈ e.placedBits ↔
    x.binding ∈ e.bindings ∧ x.signal ∈ x.binding.signals ∧
      x.signal.pins[x.bit]? = some x.pin := by
  unfold placedBits ResourceBinding.placedBits
  simp only [List.mem_flatMap, SignalBinding.mem_placedBits]
  constructor
  · rintro ⟨b, hb, s, hs, rfl, rfl, pin⟩
    exact ⟨hb, hs, pin⟩
  · rintro ⟨hb, hs, pin⟩
    exact ⟨_, hb, _, hs, rfl, rfl, pin⟩

section SingleLined

variable (pinned : ∀ b ∈ e.bindings, b.IsPinned) (h : e.IsSingleLined)
include pinned h

/-- Every constraint stands on one line if all names and attributes do. -/
theorem isLine_line_of_mem : ∀ c ∈ e.constraints, Text.IsLine c.line := by
  intro c hc
  have bit : ∀ x ∈ e.placedBits, Text.IsLine x.name := fun x hx => by
    obtain ⟨hb, hs, -⟩ := mem_placedBits_iff.1 hx
    exact SignalBinding.notMem_bitName (by decide) rfl (h.resource hb) (h.signal hb hs) x.bit
  refine Constraint.isLine_line ?_
  cases mem_constraints_iff.1 hc with
  | untimed mem =>
    have texts : ∀ paths ∈ ["ASYNCPATHS", "RESETPATHS"], Text.IsLine paths := by decide
    exact Text.isLine_append.2 ⟨texts _ mem, by decide⟩
  | @locate x mem =>
    obtain ⟨hb, hs, pin⟩ := mem_placedBits_iff.1 mem
    have pin := (pinned _ hb).pins_isLine _ hs _ (List.mem_of_getElem? pin)
    simp only [Constraint.operands, Text.isLine_append]
    exact ⟨⟨⟨⟨by decide, bit x mem⟩, by decide⟩, pin⟩, by decide⟩
  | @attributes x mem some =>
    obtain ⟨hb, hs, -⟩ := mem_placedBits_iff.1 mem
    simp only [Constraint.operands, Text.isLine_append]
    exact ⟨⟨⟨⟨by decide, bit x mem⟩, by decide⟩, isLine_attributesText (h.attrs hb hs)⟩,
      by decide⟩
  | @frequency b s frequency mem clock found =>
    have hs := ResourceBinding.mem_of_clockSignal? found
    have port : Text.IsLine (s.portName b) :=
      SignalBinding.notMem_portName (by decide) rfl (h.resource mem) (h.signal mem hs)
    simp only [Constraint.operands, Text.isLine_append]
    exact ⟨⟨⟨⟨by decide, port⟩, by decide⟩, isLine_toString _⟩, by decide⟩

/-- Then the lines of the file are those that were written, and what is behind the last line
feed. -/
theorem lines_constraintFile :
    Text.lines e.constraintFile = e.writtenLines.map String.toList ++ [[]] := by
  refine Text.lines_unlines fun l hl => ?_
  rcases List.mem_cons.1 hl with rfl | hl
  · decide
  · obtain ⟨c, hc, rfl⟩ := List.mem_map.1 hl
    exact isLine_line_of_mem pinned h c hc

end SingleLined

/-- Whatever stands on a line of a constraint stands on a line of the file. -/
theorem mem_lines_constraintFile {c : Constraint} {l : List Char} (hc : c ∈ e.constraints)
    (hl : l ∈ Text.lines c.line) : l ∈ Text.lines e.constraintFile := by
  have written : c.line ∈ e.writtenLines := List.mem_cons_of_mem _ (List.mem_map_of_mem hc)
  show l ∈ Text.lines (Text.unlines e.writtenLines)
  rw [Text.lines_unlines_eq]
  exact List.mem_append_left _ (List.mem_flatMap.2 ⟨c.line, written, hl⟩)

/-! ### Elaborations -/

/-- The constraint file of the elaboration covers every pin that is bound. -/
structure CoversPins (e : Elaboration) : Prop where
  /-- Lines are written that place every bit. -/
  written : ∃ ls, e.constraintFile = Text.unlines ls ∧ e.PlacesBits (ls.map String.toList)
  /-- The lines of the file do, if no name and no attribute goes on on another line. -/
  lines : e.IsSingleLined → e.PlacesBits (Text.lines e.constraintFile)
  /-- Different bits have different names if no resource has a name that could be taken for another
  with a number behind it, and the signals of each resource have different names. -/
  nodup : (∀ b ∈ e.bindings, IsPortName b.resource) →
    (∀ b ∈ e.bindings, (b.signals.map (·.name)).Nodup) → (e.placedBits.map (·.name)).Nodup
  /-- So they have if all names are plain. -/
  nodup_of_plain : (∀ b ∈ e.bindings, IsPlainPortName b.resource ∧
      ∀ s ∈ b.signals, s.name ≠ "" → IsPlainPortName s.name) →
    (∀ b ∈ e.bindings, (b.signals.map (·.name)).Nodup) → (e.placedBits.map (·.name)).Nodup

variable {d : Descriptor} {p : Platform}

/-- **The constraint file covers every pin that is bound once**, whatever is elaborated. -/
theorem coversPins_of_elaborate (h : ((elaborate d).run p).2.outcome = .ok e) : e.CoversPins := by
  have pinned := isPinned_of_elaborate h
  have nodup : (∀ b ∈ e.bindings, IsPortName b.resource) →
      (∀ b ∈ e.bindings, (b.signals.map (·.name)).Nodup) → (e.placedBits.map (·.name)).Nodup :=
    nodup_bitNames (nodup_keys_of_elaborate h)
  refine
    { written := ⟨e.writtenLines, rfl, ?_⟩
      lines := fun single => ?_
      nodup := nodup
      nodup_of_plain := fun plain => nodup fun b hb => (plain b hb).1.isPortName }
  · have placed := placesBits_around (List.forall_mem_nil _) pinned
    rwa [List.append_nil, ← map_toList_writtenLines] at placed
  · rw [lines_constraintFile pinned single, map_toList_writtenLines]
    exact placesBits_around (List.forall_mem_singleton.2 rfl) pinned

end Elaboration

namespace Descriptor

/-- A design with lamps and a serial port. -/
def console : Descriptor where
  name := "console"
  cpu := { name := "vexriscv", variant := "imac" }
  memories := [{ memory := ⟨"blockram", .ram, 0x8000, "Firmware memory"⟩, address := some 0 }]
  peripherals := [
    { name := "leds", kind := .leds, address := some 0xf0000000 },
    { name := "uart", kind := .uart, address := some 0xf0000100 }]
  wires := [
    { signal := "leds.output", candidates := [⟨"led", 0⟩] },
    { signal := "uart.pins", candidates := [⟨"uart", 1⟩] }]

/-- A board for it, with these pins and frequency of the clock and attributes of the lamps. -/
def consoleBoard (pins : String) (clock : Option Float) (attrs : Dict String) : Platform where
  board := {
    name := "board"
    device := "LFE5U-12F"
    package := "BG256"
    defaultClock := "clk"
    clockFrequencies := .ofList [("usb", 60.0)]
    resources := [
      { name := "clk", pins := some pins, dir := .input, clock := clock },
      { name := "led", pins := some "E13 C13", dir := .output, attrs := attrs },
      { name := "uart", number := 1, subsignals := [
        { name := "rx", pins := "R14", dir := .input },
        { name := "tx", pins := "T14", dir := .output }] }] }

/-- A board with a voltage level for the lamps. -/
def plainBoard : Platform := consoleBoard "A8" (some 60e6) (.ofList [("IO_TYPE", "LVCMOS33")])

theorem coversPins_console : ∃ e, ((elaborate console).run plainBoard).2.outcome = .ok e ∧
    e.placedBits.map (fun x => (x.name, x.pin)) = [("clk_0__i", "A8"), ("led_0__o[0]", "E13"),
      ("led_0__o[1]", "C13"), ("uart_1__rx__i", "R14"), ("uart_1__tx__o", "T14")] ∧
    e.PlacesBits (Text.lines e.constraintFile) ∧ (e.placedBits.map (·.name)).Nodup := by
  have made : ∃ e, ((elaborate console).run plainBoard).2.outcome = .ok e ∧
      e.placedBits.map (fun x => (x.name, x.pin)) = [("clk_0__i", "A8"), ("led_0__o[0]", "E13"),
        ("led_0__o[1]", "C13"), ("uart_1__rx__i", "R14"), ("uart_1__tx__o", "T14")] ∧
      e.IsSingleLined ∧ ∀ b ∈ e.bindings, IsPortName b.resource ∧ (b.signals.map (·.name)).Nodup :=
    ⟨_, rfl, by decide +kernel, by decide +kernel, by decide +kernel⟩
  obtain ⟨e, he, bits, single, names⟩ := made
  have covers := Elaboration.coversPins_of_elaborate he
  exact ⟨e, he, bits, covers.lines single,
    covers.nodup (fun b hb => (names b hb).1) fun b hb => (names b hb).2⟩

/-- What the attributes of the lamps put on another line. -/
def spareLine : String := "LOCATE COMP \"spare\" SITE \"B1\";"

/-- A board whose attributes for the lamps go on on another line. -/
def smugglerBoard : Platform := consoleBoard "A8" none
  (.ofList [("IO_TYPE", "LVCMOS33;\nLOCATE COMP \"spare\" SITE \"B1\"")])

/-- An attribute that goes on on another line places a bit there that is not in the design. -/
theorem misplaced_smuggler : ∃ e, ((elaborate console).run smugglerBoard).2.outcome = .ok e ∧
    e.placedBits.map (·.pin) = ["A8", "E13", "C13", "R14", "T14"] ∧
    spareLine.toList ∈ Text.lines e.constraintFile ∧
    ¬ e.PlacesBits (Text.lines e.constraintFile) := by
  have made : ∃ e, ((elaborate console).run smugglerBoard).2.outcome = .ok e ∧
      e.placedBits.map (·.pin) = ["A8", "E13", "C13", "R14", "T14"] ∧
      (∀ x ∈ e.placedBits, x.locateLine ≠ spareLine.toList) ∧
      ∃ x ∈ e.placedBits, x.signal.attrs.entries =
        [("IO_TYPE", "LVCMOS33;\nLOCATE COMP \"spare\" SITE \"B1\"")] :=
    ⟨_, rfl, by decide +kernel, by decide +kernel, by decide +kernel⟩
  obtain ⟨e, he, pins, apart, x, hx, attrs⟩ := made
  have smuggled : spareLine.toList ∈ Text.lines e.constraintFile := by
    have some : x.signal.attrs.entries ≠ [] := by simp [attrs]
    have text : attributesText x.signal.attrs =
        " IO_TYPE=LVCMOS33;" ++ "\n" ++ "LOCATE COMP \"spare\" SITE \"B1\"" := by
      rw [attributesText, attrs]
      decide +kernel
    have broken : (Constraint.attributes x.name x.signal.attrs).line =
        "IOBUF" ++ " " ++ "PORT \"" ++ x.name ++ "\"" ++ " IO_TYPE=LVCMOS33;" ++ "\n" ++
          ("LOCATE COMP \"spare\" SITE \"B1\"" ++ ";") := by
      rw [Constraint.line_eq]
      simp only [Constraint.keyword, Constraint.operands, text, String.append_assoc]
    refine e.mem_lines_constraintFile (Elaboration.mem_constraints_iff.2 (.attributes hx some)) ?_
    rw [broken, Text.lines_append_lineFeed]
    exact List.mem_append_right _ (by decide +kernel)
  refine ⟨e, he, pins, smuggled, fun places => ?_⟩
  have found : spareLine.toList ∈ e.placedBits.map (·.locateLine) := by
    rw [← places.located]
    have word : keyword spareLine.toList = "LOCATE" := by decide +kernel
    exact List.mem_filter.2 ⟨smuggled, decide_eq_true word⟩
  obtain ⟨y, hy, same⟩ := List.mem_map.1 found
  exact apart y hy same

end Descriptor

end SocAssembly
