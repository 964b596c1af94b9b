import Mathlib
import SocAssembly.Report

/-!
# How a session ends

A session ends in a state and with an outcome, and leaves notices on the way. What a sequence does
is told by its first step: if that succeeds the rest goes on from the state that it left
(`Session.Ends.bind`), and if it fails nothing else happens (`Session.Ends.bind_error`).
-/

namespace SocAssembly

namespace Session

variable {σ α β : Type}

@[simp] theorem run_pure (a : α) (s : σ) : (pure a : Session σ α).run s = (s, ⟨[], .ok a⟩) := rfl

@[simp] theorem run_ofExcept (x : Except Error α) (s : σ) :
    (ofExcept x : Session σ α).run s = (s, ⟨[], x⟩) := rfl

@[simp] theorem run_ofReport (r : Report α) (s : σ) : (ofReport r : Session σ α).run s = (s, r) :=
  rfl

theorem run_inContext (doing : String) (x : Session σ α) (s : σ) : (x.inContext doing).run s =
    ((x.run s).1, ⟨(x.run s).2.notices, (x.run s).2.outcome.mapError (.inContext doing)⟩) := rfl

/-- A session that reads the state first does what it would do with the state in hand. -/
@[simp] theorem run_state_bind (next : σ → Session σ β) (s : σ) :
    (state >>= next).run s = (next s).run s := rfl

/-- A sequence fails in its first step, or in the rest from where the first step ended. -/
theorem outcome_bind_eq_error {x : Session σ α} {next : α → Session σ β} {s : σ} {e : Error}
    (h : ((x >>= next).run s).2.outcome = .error e) :
    (x.run s).2.outcome = .error e ∨
      ∃ a, (x.run s).2.outcome = .ok a ∧ ((next a).run (x.run s).1).2.outcome = .error e := by
  cases hx : (x.run s).2.outcome with
  | error e' =>
    rw [run_bind_error hx] at h
    cases h
    exact Or.inl rfl
  | ok a =>
    rw [run_bind_ok hx] at h
    exact Or.inr ⟨a, rfl, h⟩

/-- A sequence succeeds if its first step does, and the rest does from where that ended. -/
theorem outcome_bind_eq_ok_iff {x : Session σ α} {next : α → Session σ β} {s : σ} {b : β} :
    ((x >>= next).run s).2.outcome = .ok b ↔
      ∃ a, (x.run s).2.outcome = .ok a ∧ ((next a).run (x.run s).1).2.outcome = .ok b := by
  cases hx : (x.run s).2.outcome with
  | error e => simp [run_bind_error hx]
  | ok a => simp [run_bind_ok hx]

/-- A notice in front is reported first. -/
theorem run_note_bind (n : Notice) (next : Unit → Session σ β) (s : σ) :
    (note n >>= next).run s = (((next ()).run s).1,
      ⟨n :: ((next ()).run s).2.notices, ((next ()).run s).2.outcome⟩) := rfl

/-- What stands in front counts only by its run. -/
theorem run_bind_congr {x x' : Session σ α} {s : σ} (h : x'.run s = x.run s)
    (next : α → Session σ β) : (x' >>= next).run s = (x >>= next).run s := by
  show andThen x' next s = andThen x next s
  unfold run at h
  simp only [andThen, h]

theorem outcome_inContext_eq_ok_iff {x : Session σ α} {doing : String} {s : σ} {a : α} :
    ((x.inContext doing).run s).2.outcome = .ok a ↔ (x.run s).2.outcome = .ok a := by
  rw [run_inContext]
  cases (x.run s).2.outcome <;> simp [Except.mapError]

/-- A function of the value leaves the state and the notices alone. -/
theorem run_map (f : α → β) (x : Session σ α) (s : σ) :
    (f <$> x).run s = ((x.run s).1, ⟨(x.run s).2.notices, (x.run s).2.outcome.map f⟩) := by
  rw [← bind_pure_comp]
  cases h : (x.run s).2.outcome with
  | error e =>
    rw [run_bind_error h]
    rfl
  | ok a =>
    rw [run_bind_ok h, run_pure, List.append_nil]
    rfl

/-- What relates the states before and after each step relates those before and after a sequence,
however it ends, if it is handed through. -/
theorem rel_run_bind {R : σ → σ → Prop} (trans : ∀ {s t u}, R s t → R t u → R s u)
    {x : Session σ α} {next : α → Session σ β} (h : ∀ s, R s (x.run s).1)
    (hnext : ∀ a s, R s ((next a).run s).1) (s : σ) : R s ((x >>= next).run s).1 := by
  cases hx : (x.run s).2.outcome with
  | error e =>
    rw [run_bind_error hx]
    exact h s
  | ok a =>
    rw [run_bind_ok hx]
    exact trans (h s) (hnext a _)

/-- The session leaves the state alone, whether it succeeds or fails. -/
def ReadsOnly (x : Session σ α) : Prop := ∀ s, (x.run s).1 = s

namespace ReadsOnly

theorem bind {x : Session σ α} {next : α → Session σ β} (h : x.ReadsOnly)
    (hnext : ∀ a, (next a).ReadsOnly) : (x >>= next).ReadsOnly :=
  rel_run_bind (R := fun s t => t = s) (fun first rest => rest.trans first) h hnext

theorem pure (a : α) : (Pure.pure a : Session σ α).ReadsOnly := fun _ => rfl

theorem fail (e : Error) : (Session.fail e : Session σ α).ReadsOnly := fun _ => rfl

theorem state : (Session.state : Session σ σ).ReadsOnly := fun _ => rfl

theorem note (n : Notice) : (Session.note n : Session σ Unit).ReadsOnly := fun _ => rfl

theorem ofExcept (x : Except Error α) : (Session.ofExcept x : Session σ α).ReadsOnly :=
  fun _ => rfl

theorem ofReport (r : Report α) : (Session.ofReport r : Session σ α).ReadsOnly := fun _ => rfl

theorem inContext {x : Session σ α} (h : x.ReadsOnly) (doing : String) :
    (x.inContext doing).ReadsOnly := h

end ReadsOnly

/-- Started in state `s`, the session ends in state `t` with this outcome. -/
def Ends (x : Session σ α) (s t : σ) (outcome : Except Error α) : Prop :=
  (x.run s).1 = t ∧ (x.run s).2.outcome = outcome

namespace Ends

variable {x : Session σ α} {next : α → Session σ β} {s t u : σ}

theorem bind {a : α} {outcome : Except Error β} (h : x.Ends s t (.ok a))
    (h' : (next a).Ends t u outcome) : (x >>= next).Ends s u outcome := by
  obtain ⟨rfl, houtcome⟩ := h
  obtain ⟨rfl, rfl⟩ := h'
  unfold Ends
  rw [run_bind_ok houtcome]
  exact ⟨rfl, rfl⟩

theorem bind_error {e : Error} (h : x.Ends s t (.error e)) : (x >>= next).Ends s t (.error e) := by
  obtain ⟨rfl, houtcome⟩ := h
  unfold Ends
  rw [run_bind_error houtcome]
  exact ⟨rfl, rfl⟩

/-- A check that is passed leaves the state alone, and the rest goes on. -/
theorem ofExcept_bind {y : Except Error α} {a : α} {outcome : Except Error β} (passed : y = .ok a)
    (h : (next a).Ends s t outcome) : (ofExcept y >>= next).Ends s t outcome := by
  have check : (ofExcept y : Session σ α).Ends s s (.ok a) := ⟨rfl, passed⟩
  exact check.bind h

/-- Nothing happens behind a check that is not passed. -/
theorem ofExcept_bind_error {y : Except Error α} {e : Error} (failed : y = .error e) :
    (ofExcept y >>= next).Ends s s (.error e) := by
  have check : (ofExcept y : Session σ α).Ends s s (.error e) := ⟨rfl, failed⟩
  exact check.bind_error

theorem state_bind {next : σ → Session σ β} {outcome : Except Error β}
    (h : (next s).Ends s t outcome) : (state >>= next).Ends s t outcome := by
  unfold Ends
  rw [run_state_bind]
  exact h

theorem inContext_error {e : Error} (h : x.Ends s t (.error e)) (doing : String) :
    (x.inContext doing).Ends s t (.error (.inContext doing e)) := by
  obtain ⟨rfl, failed⟩ := h
  refine ⟨rfl, ?_⟩
  rw [run_inContext, failed]
  rfl

theorem map_error {e : Error} {f : α → β} (h : x.Ends s t (.error e)) :
    (f <$> x).Ends s t (.error e) := by
  rw [← bind_pure_comp]
  exact h.bind_error

end Ends

section Iff

variable {x : Session σ α} {next : α → Session σ β} {s t u : σ}

theorem ends_pure_ok_iff {a b : α} : (pure a : Session σ α).Ends s t (.ok b) ↔ s = t ∧ a = b := by
  simp [Ends]

theorem ends_pure_error_iff {a : α} {e : Error} :
    (pure a : Session σ α).Ends s t (.error e) ↔ False := by
  simp [Ends]

theorem ends_note_ok_iff {n : Notice} {a : Unit} :
    (note n : Session σ Unit).Ends s t (.ok a) ↔ s = t := by
  simp [Ends, run, note]

theorem ends_note_error_iff {n : Notice} {e : Error} :
    (note n : Session σ Unit).Ends s t (.error e) ↔ False := by
  simp [Ends, run, note]

theorem ends_fail_ok_iff {e : Error} {a : α} :
    (fail e : Session σ α).Ends s t (.ok a) ↔ False := by
  simp [Ends, run, fail]

theorem ends_fail_error_iff {e e' : Error} :
    (fail e : Session σ α).Ends s t (.error e') ↔ s = t ∧ e = e' := by
  simp [Ends, run, fail]

theorem ends_ofExcept_iff {y outcome : Except Error α} :
    (ofExcept y : Session σ α).Ends s t outcome ↔ s = t ∧ y = outcome := Iff.rfl

theorem ends_state_bind_iff {next : σ → Session σ β} {outcome : Except Error β} :
    (state >>= next).Ends s t outcome ↔ (next s).Ends s t outcome := by
  unfold Ends
  rw [run_state_bind]

/-- A sequence that succeeds has gone through a state that its first step left. -/
theorem ends_bind_ok_iff {b : β} : (x >>= next).Ends s u (.ok b) ↔
    ∃ a t, x.Ends s t (.ok a) ∧ (next a).Ends t u (.ok b) := by
  constructor
  · rintro ⟨last, outcome⟩
    obtain ⟨a, first, rest⟩ := outcome_bind_eq_ok_iff.1 outcome
    rw [run_bind_ok first] at last
    exact ⟨a, _, ⟨rfl, first⟩, last, rest⟩
  · rintro ⟨a, t, first, rest⟩
    exact first.bind rest

/-- A sequence fails where its first step fails, or behind it. -/
theorem ends_bind_error_iff {e : Error} : (x >>= next).Ends s u (.error e) ↔
    x.Ends s u (.error e) ∨ ∃ a t, x.Ends s t (.ok a) ∧ (next a).Ends t u (.error e) := by
  constructor
  · rintro ⟨last, outcome⟩
    rcases outcome_bind_eq_error outcome with first | ⟨a, first, rest⟩
    · rw [run_bind_error first] at last
      exact Or.inl ⟨last, first⟩
    · rw [run_bind_ok first] at last
      exact Or.inr ⟨a, _, ⟨rfl, first⟩, last, rest⟩
  · rintro (first | ⟨a, t, first, rest⟩)
    · exact first.bind_error
    · exact first.bind rest

end Iff

end Session

end SocAssembly
