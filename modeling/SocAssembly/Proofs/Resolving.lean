import Mathlib
import SocAssembly.Platform.Binding
import SocAssembly.Proofs.Reports

/-!
# Resources that resolve

A resource can be bound if its description leads to pins: it has a signal, each signal has a pin,
and where the pins are positions of a connector, the board has the connector and a pin behind every
position (`Board.Resolves`). Working the pins out succeeds in exactly these cases
(`Board.exists_resolve_iff`). Otherwise it fails with what is wrong with the first signal and the
first position that lead nowhere (`Board.Breaks`, `Board.resolve_eq_error_iff`), and that is never
the error that a resource is missing.
-/

namespace SocAssembly

namespace Board

/-- The signal has a pin, and if its pins are positions, each of them leads to one. -/
structure Carries (b : Board) (s : Subsignal) : Prop where
  /-- There is a pin. -/
  words_ne_nil : Text.words s.pins ≠ []
  /-- The connector exists and has a pin behind every position. -/
  connected : ∀ ref, s.conn = some ref → ∃ c, b.connector? ref = some c ∧
    ∀ position ∈ Text.words s.pins, ∃ pin, c.pin? position = some pin

/-- The resource has a signal, and each of its signals leads to pins. -/
structure Resolves (b : Board) (r : Resource) : Prop where
  /-- There is a signal. -/
  signals_ne_nil : r.signals ≠ []
  /-- Each signal leads to pins. -/
  carries : ∀ s ∈ r.signals, b.Carries s

/-- The pin that a word leads to: the word itself, or the pin behind this position. -/
def pinOf? (b : Board) (conn : Option ConnectorRef) (word : String) : Option String :=
  match conn with
  | none => some word
  | some ref => (b.connector? ref).bind (·.pin? word)

/-- A signal leads to pins if it has a word and every word leads to a pin. -/
theorem carries_iff {b : Board} {s : Subsignal} : b.Carries s ↔ Text.words s.pins ≠ [] ∧
    ∀ word ∈ Text.words s.pins, ∃ pin, b.pinOf? s.conn word = some pin := by
  constructor
  · intro carries
    refine ⟨carries.words_ne_nil, fun word hword => ?_⟩
    cases conn : s.conn with
    | none => exact ⟨word, rfl⟩
    | some ref =>
      obtain ⟨c, found, leads⟩ := carries.connected ref conn
      obtain ⟨pin, led⟩ := leads word hword
      exact ⟨pin, Option.bind_eq_some_iff.2 ⟨c, found, led⟩⟩
  · rintro ⟨pinned, leads⟩
    refine ⟨pinned, fun ref conn => ?_⟩
    simp only [conn, pinOf?, Option.bind_eq_some_iff] at leads
    -- any word tells that the connector exists
    obtain ⟨word, hword⟩ := List.exists_mem_of_ne_nil _ pinned
    obtain ⟨pin, c, found, led⟩ := leads word hword
    refine ⟨c, found, fun word' hword' => ?_⟩
    obtain ⟨pin', c', found', led'⟩ := leads word' hword'
    rw [found, Option.some.injEq] at found'
    exact ⟨pin', found' ▸ led'⟩

/-- The pin behind a position of the connector `c`, which is known as `ref`. -/
def pinAt (ref : ConnectorRef) (c : Connector) (position : String) : Except Error String :=
  match c.pin? position with
  | some pin => .ok pin
  | none => .error (.unknownConnectorPin ref.name ref.number position)

section PinAt

variable {ref : ConnectorRef} {c : Connector} {position pin : String} {e : Error}

theorem pinAt_eq_ok_iff : pinAt ref c position = .ok pin ↔ c.pin? position = some pin := by
  unfold pinAt
  cases c.pin? position <;> simp

theorem pinAt_eq_error_iff : pinAt ref c position = .error e ↔
    c.pin? position = none ∧ e = .unknownConnectorPin ref.name ref.number position := by
  unfold pinAt
  cases c.pin? position <;> simp [eq_comm]

end PinAt

/-- A signal needs a pin; then its words are pins, or else they are positions of a connector. -/
theorem resolvePins_eq (b : Board) (r : Resource) (s : Subsignal) :
    b.resolvePins r s =
      if Text.words s.pins = [] then .error (.emptyResource r.name r.number)
      else match s.conn with
        | none => .ok (Text.words s.pins)
        | some ref => match b.connector? ref with
          | none => .error (.unknownConnector ref.name ref.number)
          | some c => (Text.words s.pins).mapM (pinAt ref c) := by
  unfold resolvePins
  split
  · rename_i bare
    rw [if_pos bare]
  · rename_i conn pinned
    rw [if_neg pinned, conn]
  · rename_i ref conn pinned
    rw [if_neg pinned, conn]
    rfl

/-- The pins of a signal are what its words lead to, and there is at least one. -/
theorem resolvePins_eq_ok_iff {b : Board} {r : Resource} {s : Subsignal} {pins : List String} :
    b.resolvePins r s = .ok pins ↔ Text.words s.pins ≠ [] ∧
      (Text.words s.pins).Forall₂ (fun word pin => b.pinOf? s.conn word = some pin) pins := by
  rw [resolvePins_eq]
  by_cases bare : Text.words s.pins = []
  · simp [bare]
  rw [if_neg bare, and_iff_right bare]
  cases conn : s.conn with
  | none =>
    simp only [Except.ok.injEq, pinOf?, Option.some.injEq]
    exact List.forall₂_eq_eq_eq ▸ Iff.rfl
  | some ref =>
    cases found : b.connector? ref with
    | none =>
      -- there is a word, and it leads nowhere
      obtain ⟨word, rest, hwords⟩ := List.exists_cons_of_ne_nil bare
      simp [hwords, pinOf?, found, List.forall₂_cons_left_iff]
    | some c => simp only [mapM_eq_ok_iff, pinAt_eq_ok_iff, pinOf?, found, Option.bind_some]

theorem exists_resolvePins_iff {b : Board} {r : Resource} {s : Subsignal} :
    (∃ pins, b.resolvePins r s = .ok pins) ↔ b.Carries s := by
  simp only [resolvePins_eq_ok_iff, exists_and_left, exists_forall₂_iff, carries_iff]

theorem exists_resolveSignal_iff {b : Board} {r : Resource} {s : Subsignal} :
    (∃ signal, b.resolveSignal r s = .ok signal) ↔ b.Carries s := by
  rw [← exists_resolvePins_iff (r := r)]
  show (∃ signal, (b.resolvePins r s).bind _ = .ok signal) ↔ _
  simp only [except_bind_eq_ok_iff]
  constructor
  · rintro ⟨signal, pins, h, -⟩
    exact ⟨pins, h⟩
  · rintro ⟨pins, h⟩
    exact ⟨_, pins, h, rfl⟩

/-- The pins of a resource are those of its signals, of which there is at least one. -/
theorem resolve_eq_ok_iff {b : Board} {r : Resource} {signals : List SignalBinding} :
    b.resolve r = .ok signals ↔ r.signals ≠ [] ∧
      r.signals.Forall₂ (fun s t => b.resolveSignal r s = .ok t) signals := by
  show (r.signals.mapM (b.resolveSignal r)).bind _ = .ok signals ↔ _
  rw [except_bind_eq_ok_iff, ← mapM_eq_ok_iff]
  constructor
  · rintro ⟨found, hfound, hsome⟩
    split at hsome
    · cases hsome
    · rename_i notEmpty
      cases hsome
      refine ⟨fun none => notEmpty (List.isEmpty_iff.2 ?_), hfound⟩
      exact (eq_nil_iff_of_forall₂ (mapM_eq_ok_iff.1 hfound)).1 none
  · rintro ⟨some, hfound⟩
    refine ⟨signals, hfound, if_neg fun none => some ?_⟩
    exact (eq_nil_iff_of_forall₂ (mapM_eq_ok_iff.1 hfound)).2 (List.isEmpty_iff.1 none)

/-- The pins of a resource can be worked out exactly if it resolves. -/
theorem exists_resolve_iff {b : Board} {r : Resource} :
    (∃ signals, b.resolve r = .ok signals) ↔ b.Resolves r := by
  simp only [resolve_eq_ok_iff, ← mapM_eq_ok_iff, exists_and_left, exists_mapM_eq_ok_iff]
  constructor
  · rintro ⟨some, resolved⟩
    exact ⟨some, fun s hs => exists_resolveSignal_iff.1 (resolved s hs)⟩
  · intro resolves
    exact ⟨resolves.signals_ne_nil, fun s hs => exists_resolveSignal_iff.2 (resolves.carries s hs)⟩

/-! ### What is wrong with a resource -/

/-- What is wrong with a signal of the resource `r`. -/
inductive SignalFault (b : Board) (r : Resource) (s : Subsignal) : Error → Prop where
  /-- It has no pin. -/
  | noPins (bare : Text.words s.pins = []) : SignalFault b r s (.emptyResource r.name r.number)
  /-- Its connector does not exist. -/
  | noConnector {ref : ConnectorRef} (pinned : Text.words s.pins ≠ []) (conn : s.conn = some ref)
      (missing : b.connector? ref = none) :
      SignalFault b r s (.unknownConnector ref.name ref.number)
  /-- Its connector has no pin behind a position; this is the first such position. -/
  | noPin {ref : ConnectorRef} {c : Connector} {before after : List String} {position : String}
      (conn : s.conn = some ref) (found : b.connector? ref = some c)
      (split : Text.words s.pins = before ++ position :: after)
      (leads : ∀ q ∈ before, ∃ pin, c.pin? q = some pin) (missing : c.pin? position = none) :
      SignalFault b r s (.unknownConnectorPin ref.name ref.number position)

/-- Why a resource does not resolve. -/
inductive Breaks (b : Board) (r : Resource) : Error → Prop where
  /-- It has no signal. -/
  | noSignals (bare : r.signals = []) : Breaks b r (.emptyResource r.name r.number)
  /-- Something is wrong with a signal, and nothing with those before it. -/
  | signal {before after : List Subsignal} {s : Subsignal} {e : Error}
      (split : r.signals = before ++ s :: after) (carries : ∀ t ∈ before, b.Carries t)
      (fault : b.SignalFault r s e) : Breaks b r e

theorem resolvePins_eq_error_iff {b : Board} {r : Resource} {s : Subsignal} {e : Error} :
    b.resolvePins r s = .error e ↔ b.SignalFault r s e := by
  rw [resolvePins_eq]
  constructor
  · intro failed
    split at failed
    · rename_i bare
      cases failed
      exact .noPins bare
    rename_i pinned
    split at failed
    · cases failed
    rename_i ref conn
    split at failed
    · rename_i missing
      cases failed
      exact .noConnector pinned conn missing
    · rename_i c found
      obtain ⟨before, position, after, split, passed, failed⟩ := mapM_eq_error_iff.1 failed
      obtain ⟨missing, rfl⟩ := pinAt_eq_error_iff.1 failed
      simp only [pinAt_eq_ok_iff] at passed
      exact .noPin conn found split passed missing
  · intro fault
    cases fault with
    | noPins bare => rw [if_pos bare]
    | noConnector pinned conn missing => simp only [if_neg pinned, conn, missing]
    | @noPin ref c before after position conn found split leads missing =>
      have pinned : Text.words s.pins ≠ [] := by simp [split]
      simp only [if_neg pinned, conn, found]
      refine mapM_eq_error_iff.2 ⟨before, position, after, split, ?_, ?_⟩
      · simpa only [pinAt_eq_ok_iff] using leads
      · exact pinAt_eq_error_iff.2 ⟨missing, rfl⟩

/-- The error names the first thing that is wrong. -/
theorem resolve_eq_error_iff {b : Board} {r : Resource} {e : Error} :
    b.resolve r = .error e ↔ b.Breaks r e := by
  have signal_iff : ∀ s, b.resolveSignal r s = .error e ↔ b.SignalFault r s e := by
    intro s
    rw [← resolvePins_eq_error_iff]
    show (b.resolvePins r s).bind _ = .error e ↔ _
    rw [except_bind_eq_error_iff]
    exact or_iff_left fun ⟨_, _, contra⟩ => nomatch contra
  constructor
  · intro failed
    rcases except_bind_eq_error_iff.1 failed with failed | ⟨signals, found, failed⟩
    · obtain ⟨before, s, after, split, passed, failed⟩ := mapM_eq_error_iff.1 failed
      exact .signal split (fun t ht => exists_resolveSignal_iff.1 (passed t ht))
        ((signal_iff s).1 failed)
    · split at failed
      · rename_i none
        cases failed
        have bare := eq_nil_iff_of_forall₂ (mapM_eq_ok_iff.1 found)
        exact .noSignals (bare.2 (List.isEmpty_iff.1 none))
      · cases failed
  · intro breaks
    show (r.signals.mapM (b.resolveSignal r)).bind _ = .error e
    cases breaks with
    | noSignals bare =>
      rw [bare]
      rfl
    | @signal before after s e split carries fault =>
      refine except_bind_eq_error_iff.2 (Or.inl (mapM_eq_error_iff.2 ?_))
      exact ⟨before, s, after, split, fun t ht => exists_resolveSignal_iff.2 (carries t ht),
        (signal_iff s).2 fault⟩

/-- A resource that does not resolve is broken, not missing. -/
theorem isMissingResource_of_resolve {b : Board} {r : Resource} {e : Error}
    (h : b.resolve r = .error e) : e.isMissingResource = false := by
  cases resolve_eq_error_iff.1 h with
  | noSignals => rfl
  | signal _ _ fault => cases fault <;> rfl

end Board

end SocAssembly
