import SocAssembly.Notice

/-!
# Reports and sessions

## The model

A *report* is what a step hands back: its notices in order, and its value or the cause of its
failure. A *session* is a step that also works on a state, such as a platform whose resources are
handed out or a tree of files. The state after a session is part of its result whether it succeeds
or fails: a failed session stops, and what it had done by then stays done.

Both are lawful monads. The outcome of a sequence is the sequence of the outcomes
(`Report.outcome_bind`) and its notices are those of the steps that ran, one after the other
(`Report.notices_bind`). A session that goes on does so in the state that the part before it left
(`Session.run_bind_ok`), one that fails ends there (`Session.run_bind_error`).
-/

namespace SocAssembly

/-- The notices of a step, and its value or the cause of its failure. -/
structure Report (α : Type) where
  /-- What was reported, in order. -/
  notices : List Notice
  /-- The value, or why there is none. -/
  outcome : Except Error α

namespace Report

variable {α β : Type}

/-- One step after another; a failure ends the sequence. -/
def andThen (r : Report α) (next : α → Report β) : Report β :=
  match r.outcome with
  | .ok a => ⟨r.notices ++ (next a).notices, (next a).outcome⟩
  | .error e => ⟨r.notices, .error e⟩

instance : Monad Report where
  pure a := ⟨[], .ok a⟩
  bind := andThen

/-- A failure without notices. -/
def fail (e : Error) : Report α := ⟨[], .error e⟩

/-- A notice. -/
def note (n : Notice) : Report Unit := ⟨[n], .ok ()⟩

/-- A result without notices. -/
def ofExcept (x : Except Error α) : Report α := ⟨[], x⟩

@[simp] theorem outcome_pure (a : α) : (pure a : Report α).outcome = .ok a := rfl

@[simp] theorem notices_pure (a : α) : (pure a : Report α).notices = [] := rfl

@[simp] theorem outcome_fail (e : Error) : (fail e : Report α).outcome = .error e := rfl

@[simp] theorem outcome_note (n : Notice) : (note n).outcome = .ok () := rfl

@[simp] theorem outcome_ofExcept (x : Except Error α) : (ofExcept x).outcome = x := rfl

/-- The outcome of a sequence is the sequence of the outcomes. -/
@[simp] theorem outcome_bind (r : Report α) (next : α → Report β) :
    (r >>= next).outcome = r.outcome.bind fun a => (next a).outcome := by
  show (r.andThen next).outcome = _
  unfold andThen Except.bind
  split <;> simp_all

/-- The notices of a sequence that goes on are those of its parts. -/
theorem notices_bind {r : Report α} {a : α} (h : r.outcome = .ok a) (next : α → Report β) :
    (r >>= next).notices = r.notices ++ (next a).notices := by
  show (r.andThen next).notices = _
  simp [andThen, h]

theorem andThen_ok {r : Report α} {a : α} (h : r.outcome = .ok a) (next : α → Report β) :
    r.andThen next = ⟨r.notices ++ (next a).notices, (next a).outcome⟩ := by
  simp [andThen, h]

theorem andThen_error {r : Report α} {e : Error} (h : r.outcome = .error e)
    (next : α → Report β) : r.andThen next = ⟨r.notices, .error e⟩ := by
  simp [andThen, h]

instance : LawfulMonad Report :=
  LawfulMonad.mk' Report
    (fun {_} r => by
      show r.andThen (fun a => ⟨[], .ok a⟩) = r
      obtain ⟨notices, outcome⟩ := r
      cases outcome <;> simp [andThen])
    (fun _ _ => rfl)
    (fun {_ _ _} r f g => by
      show (r.andThen f).andThen g = r.andThen fun a => (f a).andThen g
      cases h : r.outcome with
      | error e => simp [andThen, h]
      | ok a => cases h' : (f a).outcome <;> simp [andThen, h, h'])

end Report

/-- A step that works on a state of type `σ`. -/
def Session (σ α : Type) : Type := σ → σ × Report α

namespace Session

variable {σ α β : Type}

/-- The state and the report after a session that starts in state `s`. -/
def run (x : Session σ α) (s : σ) : σ × Report α := x s

/-- One session after another in one state; a failure ends the sequence. -/
def andThen (x : Session σ α) (next : α → Session σ β) : Session σ β := fun s =>
  match (x s).2.outcome with
  | .ok a =>
    let after := next a (x s).1
    (after.1, ⟨(x s).2.notices ++ after.2.notices, after.2.outcome⟩)
  | .error e => ((x s).1, ⟨(x s).2.notices, .error e⟩)

instance : Monad (Session σ) where
  pure a := fun s => (s, pure a)
  bind := andThen

theorem run_bind_ok {x : Session σ α} {s : σ} {a : α} (h : (x.run s).2.outcome = .ok a)
    (next : α → Session σ β) :
    (x >>= next).run s =
      (((next a).run (x.run s).1).1,
        ⟨(x.run s).2.notices ++ ((next a).run (x.run s).1).2.notices,
          ((next a).run (x.run s).1).2.outcome⟩) := by
  show andThen x next s = _
  unfold run at h
  simp [andThen, h, run]

theorem run_bind_error {x : Session σ α} {s : σ} {e : Error} (h : (x.run s).2.outcome = .error e)
    (next : α → Session σ β) :
    (x >>= next).run s = ((x.run s).1, ⟨(x.run s).2.notices, .error e⟩) := by
  show andThen x next s = _
  unfold run at h
  simp [andThen, h, run]

instance : LawfulMonad (Session σ) :=
  LawfulMonad.mk' (Session σ)
    (fun {_} x => by
      funext s
      show andThen x (fun a s => (s, ⟨[], .ok a⟩)) s = x s
      rcases h : x s with ⟨t, notices, outcome⟩
      cases outcome <;> simp [andThen, h])
    (fun _ _ => rfl)
    (fun {_ _ _} x f g => by
      funext s
      show andThen (andThen x f) g s = andThen x (fun a => andThen (f a) g) s
      cases h : (x s).2.outcome with
      | error e => simp [andThen, h]
      | ok a => cases h' : (f a (x s).1).2.outcome <;> simp [andThen, h, h'])

/-- The state. -/
def state : Session σ σ := fun s => (s, pure s)

/-- A change of the state. -/
def modify (f : σ → σ) : Session σ Unit := fun s => (f s, pure ())

/-- A failure that leaves the state alone. -/
def fail (e : Error) : Session σ α := fun s => (s, Report.fail e)

/-- A notice. -/
def note (n : Notice) : Session σ Unit := fun s => (s, Report.note n)

/-- A result that does not touch the state. -/
def ofExcept (x : Except Error α) : Session σ α := fun s => (s, Report.ofExcept x)

/-- A report that does not touch the state. -/
def ofReport (r : Report α) : Session σ α := fun s => (s, r)

/-- The session with what it was to do put in front of the cause of its failure. -/
def inContext (doing : String) (x : Session σ α) : Session σ α := fun s =>
  ((x s).1, ⟨(x s).2.notices, (x s).2.outcome.mapError (.inContext doing)⟩)

end Session

end SocAssembly
