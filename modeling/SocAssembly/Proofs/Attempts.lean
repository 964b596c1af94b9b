import Mathlib
import SocAssembly.Proofs.Handout
import SocAssembly.Proofs.Reports

/-!
# Attempts to bind a resource

There are five ways to ask a platform for one resource. All of them end in `Platform.bind`, so each
binds one resource whose key was not handed out, or leaves the platform as it was (`Settles`). An
attempt that comes to a resource whose key was handed out is refused for that reason, however it
came there: a key that is taken is no reason to look for another candidate, and no reason to go on
without one (`Attempt.refused`).
-/

namespace SocAssembly

/-! ### One binding or none -/

/-- What an attempt leaves behind on the platform `p`, where `keys` tells which keys a value has. -/
inductive Settles {α : Type} (p : Platform) (keys : α → List ResourceKey) :
    Platform × Report α → Prop where
  /-- Nothing is bound, and the platform is as it was. -/
  | nothing {report : Report α} (quiet : boundKeys report.notices = [])
      (value : ∀ a, report.outcome = .ok a → keys a = []) : Settles p keys (p, report)
  /-- One key is bound that was free. -/
  | one {notices : List Notice} {a : α} {k : ResourceKey} (bound : boundKeys notices = [k])
      (new : k ∉ p.requested) (value : keys a = [k]) :
      Settles p keys (p.mark k, ⟨notices, .ok a⟩)

namespace Settles

variable {α β : Type} {p : Platform} {keys : α → List ResourceKey} {keys' : β → List ResourceKey}

theorem handsOut {x : Session Platform α} (h : Settles p keys (x.run p)) :
    x.HandsOut p fun a ks => keys a = ks := by
  generalize hrun : x.run p = result at h
  cases h with
  | nothing quiet value => exact .of_quiet hrun quiet value
  | one bound new value =>
    refine ⟨?_, ?_⟩
    · rw [hrun, bound]
      exact Handout.mark new
    · rw [hrun, bound]
      rintro a ⟨⟩
      exact value

/-- If nothing is bound, nothing changes. -/
theorem unchanged_of_nothing {result : Platform × Report α} (h : Settles p keys result)
    (nothing : ∀ a, result.2.outcome = .ok a → keys a = []) : result.1 = p := by
  cases h with
  | nothing => rfl
  | @one notices a k bound new value =>
    rw [nothing a rfl] at value
    cases value

/-- If anything is bound, it is one key that was free, and marking it is all that changes. -/
theorem exists_mark {result : Platform × Report α} (h : Settles p keys result) {a : α}
    (ok : result.2.outcome = .ok a) (some : keys a ≠ []) :
    ∃ k, keys a = [k] ∧ k ∉ p.requested ∧ result.1 = p.mark k := by
  cases h with
  | nothing quiet value => exact absurd (value a ok) some
  | one bound new value =>
    cases ok
    exact ⟨_, value, new, rfl⟩

/-- An attempt that fails changes nothing. -/
theorem unchanged {result : Platform × Report α} (h : Settles p keys result) {e : Error}
    (failed : result.2.outcome = .error e) : result.1 = p :=
  h.unchanged_of_nothing fun a ok => by
    rw [failed] at ok
    cases ok

theorem board_eq {result : Platform × Report α} (h : Settles p keys result) :
    result.1.board = p.board := by
  cases h <;> rfl

theorem map {f : α → β} {x : Session Platform α} (same : ∀ a, keys' (f a) = keys a)
    (h : Settles p keys (x.run p)) : Settles p keys' ((f <$> x).run p) := by
  rw [Session.run_map]
  generalize x.run p = result at h
  cases h with
  | @nothing report quiet value =>
    refine nothing quiet fun b hb => ?_
    cases ha : report.outcome with
    | error e => simp [ha, Except.map] at hb
    | ok a =>
      simp only [ha, Except.map, Except.ok.injEq] at hb
      rw [← hb, same, value a ha]
  | @one notices a k bound new value => exact one bound new (by rw [same, value])

/-- Notices that tell of no binding do not count. -/
theorem prepend {result : Platform × Report α} {notices : List Notice}
    (quiet : boundKeys notices = []) (h : Settles p keys result) :
    Settles p keys (result.1, ⟨notices ++ result.2.notices, result.2.outcome⟩) := by
  cases h with
  | nothing quiet' value => exact nothing (by rw [boundKeys_append, quiet, quiet']; rfl) value
  | one bound new value => exact one (by rw [boundKeys_append, quiet, bound]; rfl) new value

end Settles

namespace Platform

variable {p : Platform} {r : Resource}

theorem binding?_of_taken (requested : String) (taken : r.key ∈ p.requested) :
    p.binding? requested r = .error (.resourceAlreadyRequested r.name r.number) := by
  unfold binding?
  rw [if_pos taken]
  rfl

theorem key_of_binding? {requested : String} {b : ResourceBinding}
    (h : p.binding? requested r = .ok b) : r.key ∉ p.requested ∧ b.key = r.key := by
  by_cases taken : r.key ∈ p.requested
  · rw [binding?_of_taken requested taken] at h
    cases h
  · refine ⟨taken, ?_⟩
    unfold binding? at h
    rw [if_neg taken] at h
    obtain ⟨signals, -, hb⟩ := except_bind_eq_ok_iff.1 h
    rw [← Except.ok.inj hb]
    rfl

/-- A binding marks its key and leaves its notice; a refusal does neither. -/
theorem bind_run (requested : String) (r : Resource) (p : Platform) :
    (bind requested r).run p =
      match p.binding? requested r with
      | .ok b => (p.mark r.key, ⟨[.resourceBound b.resource b.number requested b.fallback], .ok b⟩)
      | .error e => (p, ⟨[], .error e⟩) := by
  unfold bind
  rw [Session.run_state_bind]
  cases h : p.binding? requested r with
  | error e => rfl
  | ok b => rfl

theorem bind_settles (requested : String) (r : Resource) (p : Platform) :
    Settles p (fun b => [b.key]) ((bind requested r).run p) := by
  rw [bind_run]
  cases h : p.binding? requested r with
  | error e => exact .nothing rfl fun b hb => by cases hb
  | ok b =>
    obtain ⟨new, hkey⟩ := key_of_binding? h
    refine .one ?_ new (congrArg (fun k => [k]) hkey)
    exact congrArg (fun k => [k]) hkey

theorem bind_refused (requested : String) (taken : r.key ∈ p.requested) :
    (bind requested r).Ends p p (.error (.resourceAlreadyRequested r.name r.number)) := by
  unfold Session.Ends
  rw [bind_run, binding?_of_taken requested taken]
  exact ⟨rfl, rfl⟩

/-! ### The ways to ask -/

theorem request_run {k : ResourceKey} (found : p.board.resource? k = some r) :
    (request k).run p = (bind k.name r).run p := by
  unfold request
  rw [Session.run_state_bind]
  simp only [found]

theorem request_settles (k : ResourceKey) (p : Platform) :
    Settles p (fun b => [b.key]) ((request k).run p) := by
  cases found : p.board.resource? k with
  | some r =>
    rw [request_run found]
    exact bind_settles k.name r p
  | none =>
    unfold request
    rw [Session.run_state_bind]
    simp only [found]
    exact .nothing rfl fun b hb => by cases hb

theorem request_refused {k : ResourceKey} (found : p.board.resource? k = some r)
    (taken : r.key ∈ p.requested) :
    (request k).Ends p p (.error (.resourceAlreadyRequested r.name r.number)) := by
  unfold Session.Ends
  rw [request_run found]
  exact bind_refused k.name taken

/-- Candidates that are missing are reported, and nothing more. -/
theorem boundKeys_noteMissing (p : Platform) (candidates : List ResourceKey) :
    boundKeys (p.noteMissing candidates).notices = [] := by
  refine boundKeys_eq_nil fun n hn => ?_
  obtain ⟨k, -, rfl⟩ := List.mem_map.1 hn
  rfl

theorem requestAny_run {best : ResourceKey} {rest : List ResourceKey}
    (found : p.board.firstResource? (best :: rest) = some r) :
    (requestAny (best :: rest)).run p =
      (((bind best.name r).run p).1,
        ⟨(p.noteMissing (best :: rest)).notices ++ ((bind best.name r).run p).2.notices,
          ((bind best.name r).run p).2.outcome⟩) := by
  unfold requestAny
  rw [Session.run_state_bind, Session.run_bind_ok rfl, Session.run_ofReport]
  simp only [found]

/-- If no candidate exists, each is reported, and then that there is none. -/
theorem requestAny_run_missing {best : ResourceKey} {rest : List ResourceKey}
    (missing : p.board.firstResource? (best :: rest) = none) :
    (requestAny (best :: rest)).run p =
      (p, ⟨(p.noteMissing (best :: rest)).notices, .error (.noCandidateResource
        (String.intercalate ", " ((best :: rest).map (·.text))) p.name)⟩) := by
  unfold requestAny
  rw [Session.run_state_bind, Session.run_bind_ok rfl, Session.run_ofReport]
  simp only [missing]
  show (p, (⟨(p.noteMissing (best :: rest)).notices ++ [], .error _⟩ : Report _)) = _
  rw [List.append_nil]

theorem requestAny_settles (candidates : List ResourceKey) (p : Platform) :
    Settles p (fun b => [b.key]) ((requestAny candidates).run p) := by
  cases candidates with
  | nil => exact .nothing rfl fun b hb => by cases hb
  | cons best rest =>
    cases found : p.board.firstResource? (best :: rest) with
    | some r =>
      rw [requestAny_run found]
      exact (bind_settles best.name r p).prepend (boundKeys_noteMissing p _)
    | none =>
      rw [requestAny_run_missing found]
      exact .nothing (boundKeys_noteMissing p _) fun b hb => by cases hb

theorem requestAny_refused {candidates : List ResourceKey}
    (found : p.board.firstResource? candidates = some r) (taken : r.key ∈ p.requested) :
    (requestAny candidates).Ends p p (.error (.resourceAlreadyRequested r.name r.number)) := by
  cases candidates with
  | nil => cases found
  | cons best rest =>
    unfold Session.Ends
    rw [requestAny_run found]
    exact bind_refused best.name taken

theorem requestOptional_run (candidates : List ResourceKey) (p : Platform) :
    (requestOptional candidates).run p =
      match ((requestAny candidates).run p).2.outcome with
      | .ok b =>
        (((requestAny candidates).run p).1,
          ⟨((requestAny candidates).run p).2.notices, .ok (some b)⟩)
      | .error e =>
        if e.isMissingResource then
          (((requestAny candidates).run p).1,
            ⟨((requestAny candidates).run p).2.notices ++ [.bindingSkipped e], .ok none⟩)
        else
          (((requestAny candidates).run p).1,
            ⟨((requestAny candidates).run p).2.notices, .error e⟩) := rfl

theorem requestOptional_settles (candidates : List ResourceKey) (p : Platform) :
    Settles p (fun b => b.toList.map ResourceBinding.key) ((requestOptional candidates).run p) := by
  have h := requestAny_settles candidates p
  rw [requestOptional_run]
  generalize (requestAny candidates).run p = result at h
  cases h with
  | @nothing report quiet value =>
    cases houtcome : report.outcome with
    | ok b => cases value b houtcome
    | error e =>
      dsimp only
      split
      · refine .nothing ?_ fun b hb => ?_
        · rw [boundKeys_append, quiet]
          rfl
        · rw [← Except.ok.inj hb]
          rfl
      · exact .nothing quiet fun b hb => by cases hb
  | one bound new value => exact .one bound new value

/-- A key that is taken is no reason to do without the resource. -/
theorem requestOptional_refused {candidates : List ResourceKey}
    (found : p.board.firstResource? candidates = some r) (taken : r.key ∈ p.requested) :
    (requestOptional candidates).Ends p p
      (.error (.resourceAlreadyRequested r.name r.number)) := by
  obtain ⟨hstate, houtcome⟩ := requestAny_refused found taken
  unfold Session.Ends
  rw [requestOptional_run, houtcome]
  exact ⟨hstate, rfl⟩

end Platform

/-! ### Attempts -/

/-- A way to ask a platform for one resource. -/
inductive Attempt where
  /-- For this resource, under the name that was asked for. -/
  | bind (requested : String) (r : Resource)
  /-- For the resource with a key. -/
  | request (k : ResourceKey)
  /-- For the first of the candidates that exists. -/
  | requestAny (candidates : List ResourceKey)
  /-- For the first of the candidates that exists, or for nothing if none does. -/
  | requestOptional (candidates : List ResourceKey)
  /-- For what a wire needs. -/
  | wire (w : Wire)

namespace Attempt

/-- Makes the attempt; the value is what was bound. -/
def perform : Attempt → Session Platform (List ResourceBinding)
  | bind requested r => ([·]) <$> Platform.bind requested r
  | request k => ([·]) <$> Platform.request k
  | requestAny candidates => ([·]) <$> Platform.requestAny candidates
  | requestOptional candidates => Option.toList <$> Platform.requestOptional candidates
  | wire w => (·.toList.map (·.binding)) <$> Platform.bindWire w

/-- The resource that the attempt comes to on a platform. -/
def target? (p : Platform) : Attempt → Option Resource
  | bind _ r => some r
  | request k => p.board.resource? k
  | requestAny candidates => p.board.firstResource? candidates
  | requestOptional candidates => p.board.firstResource? candidates
  | wire w => p.board.firstResource? w.candidates

end Attempt

namespace Platform

variable {p : Platform} {r : Resource}

theorem bindWire_settles (w : Wire) (p : Platform) :
    Settles p (fun s => (s.toList.map (·.binding)).map ResourceBinding.key)
      ((bindWire w).run p) := by
  have hoptional : ∀ b : Option ResourceBinding,
      (((b.map fun b => BoundSignal.mk w.signal b).toList.map (·.binding)).map
        ResourceBinding.key) = b.toList.map ResourceBinding.key := by
    intro b
    cases b <;> rfl
  unfold bindWire
  cases w.policy with
  | mandatory =>
    have h : Settles p (fun b : Option ResourceBinding => b.toList.map ResourceBinding.key)
        ((some <$> requestAny w.candidates).run p) :=
      (requestAny_settles w.candidates p).map fun b => rfl
    simp only [bind_pure_comp]
    exact h.map hoptional
  | optional =>
    simp only [bind_pure_comp]
    exact (requestOptional_settles w.candidates p).map hoptional

theorem bindWire_refused {w : Wire} (found : p.board.firstResource? w.candidates = some r)
    (taken : r.key ∈ p.requested) :
    (bindWire w).Ends p p (.error (.resourceAlreadyRequested r.name r.number)) := by
  unfold bindWire
  cases w.policy with
  | mandatory => exact (requestAny_refused found taken).map_error.bind_error
  | optional => exact (requestOptional_refused found taken).bind_error

end Platform

namespace Attempt

/-- An attempt binds one free key or changes nothing. -/
theorem settles (a : Attempt) (p : Platform) :
    Settles p (List.map ResourceBinding.key) (a.perform.run p) := by
  cases a with
  | bind requested r => exact (Platform.bind_settles requested r p).map fun b => rfl
  | request k => exact (Platform.request_settles k p).map fun b => rfl
  | requestAny candidates => exact (Platform.requestAny_settles candidates p).map fun b => rfl
  | requestOptional candidates =>
    exact (Platform.requestOptional_settles candidates p).map fun b => rfl
  | wire w => exact (Platform.bindWire_settles w p).map fun s => rfl

/-- An attempt that comes to a key that was handed out is refused for that reason. -/
theorem refused {a : Attempt} {p : Platform} {r : Resource} (found : a.target? p = some r)
    (taken : r.key ∈ p.requested) :
    a.perform.Ends p p (.error (.resourceAlreadyRequested r.name r.number)) := by
  cases a with
  | bind requested r' =>
    obtain rfl : r' = r := Option.some.inj found
    exact (Platform.bind_refused requested taken).map_error
  | request k => exact (Platform.request_refused found taken).map_error
  | requestAny candidates => exact (Platform.requestAny_refused found taken).map_error
  | requestOptional candidates => exact (Platform.requestOptional_refused found taken).map_error
  | wire w => exact (Platform.bindWire_refused found taken).map_error

end Attempt

end SocAssembly
