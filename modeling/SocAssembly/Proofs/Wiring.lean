import Mathlib
import SocAssembly.Proofs.Attempts
import SocAssembly.Proofs.Resolving

/-!
# Binding a list of wires

Every binding changes the platform that the next wire finds, but a wire sees nothing of the change
except the keys that are marked: the resource that it comes to depends on the board alone
(`Wire.chosen?`). So whether a list of wires can be bound is a property of the list as a set
(`Platform.CanBind`), apart from the keys, which have to be different. A wire is bound, left out, or
fails for one of four causes (`Wire.Becomes`, `Wire.Fails`); from this step a run is told in full
(`Platform.bindAll_ends`): all wires are bound or left out, or those before the first that fails
are. What a caller can rely on is collected in `Platform.BindsAll`.
-/

namespace SocAssembly

/-! ### What a wire comes to -/

/-- The warnings among notices. -/
def warnings (notices : List Notice) : List Notice := notices.filter (·.level = .warn)

@[simp] theorem warnings_append (ns ms : List Notice) :
    warnings (ns ++ ms) = warnings ns ++ warnings ms := List.filter_append ..

namespace Wire

/-- The resource that a wire comes to: the first candidate that exists. -/
def chosen? (b : Board) (w : Wire) : Option Resource := b.firstResource? w.candidates

/-- What is said of a wire none of whose candidates exists. -/
def missing (b : Board) (w : Wire) : Error :=
  .noCandidateResource (String.intercalate ", " (w.candidates.map (·.text))) b.name

/-- The signal `s` is that of the wire, bound to the resource `r`. -/
structure BoundTo (b : Board) (w : Wire) (r : Resource) (s : BoundSignal) : Prop where
  /-- It is the signal of the wire. -/
  signal_eq : s.signal = w.signal
  /-- The best candidate counts as asked for. -/
  requested_eq : w.candidates.head?.map (·.name) = some s.binding.requested
  /-- The resource is handed out under its own key. -/
  key_eq : s.binding.key = r.key
  /-- An alternate is called so. -/
  fallback_eq : s.binding.fallback = decide (s.binding.requested ≠ r.name)
  /-- It keeps its clock. -/
  clock_eq : s.binding.clock = r.clock
  /-- Its signals have their pins. -/
  signals_eq : b.resolve r = .ok s.binding.signals

/-- The wire comes to a resource, and `s` is its signal, bound to that resource. -/
def Yields (b : Board) (w : Wire) (s : BoundSignal) : Prop :=
  ∃ r, w.chosen? b = some r ∧ w.BoundTo b r s

/-- Why a wire cannot be bound when the keys `held` are handed out. -/
inductive Fails (b : Board) (held : List ResourceKey) (w : Wire) : Error → Prop where
  /-- It has no candidates. -/
  | noCandidates (empty : w.candidates = []) : Fails b held w .emptyCandidates
  /-- The design cannot do without it, and no candidate exists. -/
  | missing (named : w.candidates ≠ []) (missing : w.chosen? b = none)
      (mandatory : w.policy = .mandatory) : Fails b held w (w.missing b)
  /-- The resource that it comes to was handed out. -/
  | taken {r : Resource} (chosen : w.chosen? b = some r) (taken : r.key ∈ held) :
      Fails b held w (.resourceAlreadyRequested r.name r.number)
  /-- The resource that it comes to does not resolve. -/
  | broken {r : Resource} {e : Error} (chosen : w.chosen? b = some r) (free : r.key ∉ held)
      (broken : b.resolve r = .error e) : Fails b held w e

/-- What becomes of a wire on the platform `p`. -/
inductive Becomes (p : Platform) (w : Wire) : Platform × Report (Option BoundSignal) → Prop where
  /-- It is bound, and the key is marked. -/
  | bound {r : Resource} {s : BoundSignal} {notices : List Notice}
      (chosen : w.chosen? p.board = some r) (free : r.key ∉ p.requested)
      (bound : w.BoundTo p.board r s) (quiet : warnings notices = []) :
      Becomes p w (p.mark r.key, ⟨notices, .ok (some s)⟩)
  /-- It is left out, with a warning. -/
  | skipped {notices : List Notice} (named : w.candidates ≠ []) (missing : w.chosen? p.board = none)
      (optional : w.policy = .optional)
      (warned : warnings notices = [.bindingSkipped (w.missing p.board)]) :
      Becomes p w (p, ⟨notices, .ok none⟩)
  /-- It fails, and nothing changes. -/
  | failed {e : Error} {notices : List Notice} (fails : w.Fails p.board p.requested e)
      (quiet : warnings notices = []) : Becomes p w (p, ⟨notices, .error e⟩)

end Wire

/-! ### One wire -/

namespace Platform

theorem warnings_noteMissing (p : Platform) (candidates : List ResourceKey) :
    warnings (p.noteMissing candidates).notices = [] := by
  refine List.filter_eq_nil_iff.2 fun n hn => ?_
  obtain ⟨k, -, rfl⟩ := List.mem_map.1 hn
  simp [Notice.level]

/-- A resource that is free can be bound exactly if it resolves. -/
theorem binding?_of_free {p : Platform} {r : Resource} (requested : String)
    (free : r.key ∉ p.requested) :
    p.binding? requested r = (p.board.resolve r).map fun signals =>
      ⟨requested, r.name, r.number, requested ≠ r.name, r.clock, signals⟩ := by
  unfold binding?
  rw [if_neg free]
  cases p.board.resolve r <;> rfl

/-- A wire does what a request for its candidates does, but for an optional one it is no failure
that all of them are missing. -/
theorem bindWire_run {w : Wire} {p q : Platform} {notices : List Notice}
    {outcome : Except Error ResourceBinding}
    (asked : (requestAny w.candidates).run p = (q, ⟨notices, outcome⟩)) :
    (bindWire w).run p =
      match outcome with
      | .ok b => (q, ⟨notices, .ok (some ⟨w.signal, b⟩)⟩)
      | .error e =>
        if w.policy = .optional ∧ e.isMissingResource = true then
          (q, ⟨notices ++ [.bindingSkipped e], .ok none⟩)
        else (q, ⟨notices, .error e⟩) := by
  unfold bindWire
  cases w.policy with
  | mandatory =>
    simp only [bind_pure_comp, Session.run_map, asked]
    cases outcome <;> simp [Except.map]
  | optional =>
    simp only [bind_pure_comp, Session.run_map, requestOptional_run, asked]
    cases outcome with
    | ok b => simp [Except.map]
    | error e => by_cases he : e.isMissingResource = true <;> simp [Except.map, he]

theorem requestAny_run_bound {best : ResourceKey} {rest : List ResourceKey} {p : Platform}
    {r : Resource} {b : ResourceBinding} (found : p.board.firstResource? (best :: rest) = some r)
    (bound : p.binding? best.name r = .ok b) :
    (requestAny (best :: rest)).run p =
      (p.mark r.key, ⟨(p.noteMissing (best :: rest)).notices ++
        [.resourceBound b.resource b.number best.name b.fallback], .ok b⟩) := by
  rw [requestAny_run found, bind_run, bound]

theorem requestAny_run_refused {best : ResourceKey} {rest : List ResourceKey} {p : Platform}
    {r : Resource} {e : Error} (found : p.board.firstResource? (best :: rest) = some r)
    (refused : p.binding? best.name r = .error e) :
    (requestAny (best :: rest)).run p =
      (p, ⟨(p.noteMissing (best :: rest)).notices, .error e⟩) := by
  rw [requestAny_run found, bind_run, refused]
  simp

/-- A wire whose resource is there is bound, or fails. -/
theorem bindWire_becomes_of_chosen {w : Wire} {p : Platform} {r : Resource}
    (chosen : w.chosen? p.board = some r) : w.Becomes p ((bindWire w).run p) := by
  unfold Wire.chosen? at chosen
  cases hcandidates : w.candidates with
  | nil =>
    rw [hcandidates] at chosen
    cases chosen
  | cons best rest =>
    have quiet := p.warnings_noteMissing w.candidates
    have found := hcandidates ▸ chosen
    by_cases taken : r.key ∈ p.requested
    · have asked := requestAny_run_refused found (binding?_of_taken best.name taken)
      rw [← hcandidates] at asked
      rw [bindWire_run asked]
      simp only [Error.isMissingResource, Bool.false_eq_true, and_false, if_false]
      exact .failed (.taken chosen taken) quiet
    · have binding := binding?_of_free best.name taken
      cases resolved : p.board.resolve r with
      | error e =>
        rw [resolved] at binding
        have asked := requestAny_run_refused found binding
        rw [← hcandidates] at asked
        rw [bindWire_run asked]
        simp only [Board.isMissingResource_of_resolve resolved, Bool.false_eq_true, and_false,
          if_false]
        exact .failed (.broken chosen taken resolved) quiet
      | ok signals =>
        rw [resolved] at binding
        have asked := requestAny_run_bound found binding
        rw [← hcandidates] at asked
        rw [bindWire_run asked]
        refine .bound chosen taken ⟨rfl, ?_, rfl, rfl, rfl, resolved⟩ ?_
        · rw [hcandidates]
          rfl
        · rw [warnings_append, quiet]
          rfl

/-- A wire none of whose candidates is there is left out, or fails. -/
theorem bindWire_becomes_of_missing {w : Wire} {p : Platform}
    (missing : w.chosen? p.board = none) : w.Becomes p ((bindWire w).run p) := by
  unfold Wire.chosen? at missing
  cases hcandidates : w.candidates with
  | nil =>
    have asked : (requestAny w.candidates).run p = (p, ⟨[], .error .emptyCandidates⟩) := by
      rw [hcandidates]
      rfl
    rw [bindWire_run asked]
    simp only [Error.isMissingResource, Bool.false_eq_true, and_false, if_false]
    exact .failed (.noCandidates hcandidates) rfl
  | cons best rest =>
    have named : w.candidates ≠ [] := by simp [hcandidates]
    have quiet := p.warnings_noteMissing w.candidates
    have asked := requestAny_run_missing (hcandidates ▸ missing)
    rw [← hcandidates] at asked
    rw [bindWire_run asked]
    cases hpolicy : w.policy with
    | mandatory => exact .failed (.missing named missing hpolicy) quiet
    | optional =>
      refine .skipped named missing hpolicy ?_
      rw [warnings_append, quiet]
      rfl

/-- A wire is bound, left out, or fails. -/
theorem bindWire_becomes (w : Wire) (p : Platform) : w.Becomes p ((bindWire w).run p) := by
  cases chosen : w.chosen? p.board with
  | some r => exact bindWire_becomes_of_chosen chosen
  | none => exact bindWire_becomes_of_missing chosen

end Platform

/-! ### Lists of wires -/

/-- The wires that come to a resource. -/
def wiredOf (b : Board) (ws : List Wire) : List Wire := ws.filter fun w => (w.chosen? b).isSome

/-- The wires that come to none. -/
def unwiredOf (b : Board) (ws : List Wire) : List Wire := ws.filter fun w => (w.chosen? b).isNone

/-- The keys of the resources that wires come to, in order. -/
def chosenKeys (b : Board) (ws : List Wire) : List ResourceKey :=
  ws.filterMap fun w => (w.chosen? b).map (·.key)

/-- The warning about a wire that is left out. -/
def Wire.skipNotice (b : Board) (w : Wire) : Notice := .bindingSkipped (w.missing b)

@[simp] theorem wiredOf_append (b : Board) (ws vs : List Wire) :
    wiredOf b (ws ++ vs) = wiredOf b ws ++ wiredOf b vs := List.filter_append ..

@[simp] theorem unwiredOf_append (b : Board) (ws vs : List Wire) :
    unwiredOf b (ws ++ vs) = unwiredOf b ws ++ unwiredOf b vs := List.filter_append ..

@[simp] theorem chosenKeys_append (b : Board) (ws vs : List Wire) :
    chosenKeys b (ws ++ vs) = chosenKeys b ws ++ chosenKeys b vs := List.filterMap_append

theorem mem_chosenKeys {b : Board} {ws : List Wire} {k : ResourceKey} :
    k ∈ chosenKeys b ws ↔ ∃ w ∈ ws, ∃ r, w.chosen? b = some r ∧ r.key = k := by
  simp [chosenKeys, List.mem_filterMap]

section Single

variable {b : Board} {w : Wire}

theorem wiredOf_singleton_some {r : Resource} (h : w.chosen? b = some r) : wiredOf b [w] = [w] :=
  List.filter_cons_of_pos (by rw [h]; rfl)

theorem wiredOf_singleton_none (h : w.chosen? b = none) : wiredOf b [w] = [] :=
  List.filter_cons_of_neg (by simp [h])

theorem unwiredOf_singleton_some {r : Resource} (h : w.chosen? b = some r) :
    unwiredOf b [w] = [] := List.filter_cons_of_neg (by simp [h])

theorem unwiredOf_singleton_none (h : w.chosen? b = none) : unwiredOf b [w] = [w] :=
  List.filter_cons_of_pos (by rw [h]; rfl)

theorem chosenKeys_singleton_some {r : Resource} (h : w.chosen? b = some r) :
    chosenKeys b [w] = [r.key] := by
  simp [chosenKeys, h]

theorem chosenKeys_singleton_none (h : w.chosen? b = none) : chosenKeys b [w] = [] := by
  simp [chosenKeys, h]

end Single

namespace Platform

/-- The platform with more keys handed out, in this order. -/
def markAll (p : Platform) (keys : List ResourceKey) : Platform :=
  { p with requested := keys.reverse ++ p.requested }

@[simp] theorem board_markAll (p : Platform) (keys : List ResourceKey) :
    (p.markAll keys).board = p.board := rfl

theorem markAll_markAll (p : Platform) (ks ls : List ResourceKey) :
    (p.markAll ks).markAll ls = p.markAll (ks ++ ls) := by
  simp [markAll]

/-- All wires of the list can be bound, or left out. -/
structure CanBind (p : Platform) (ws : List Wire) : Prop where
  /-- Every wire has candidates. -/
  named : ∀ w ∈ ws, w.candidates ≠ []
  /-- Every wire that the design needs comes to a resource. -/
  mandatory : ∀ w ∈ ws, w.policy = .mandatory → ∃ r, w.chosen? p.board = some r
  /-- No two wires come to one resource. -/
  nodup : (chosenKeys p.board ws).Nodup
  /-- No wire comes to a resource that was handed out. -/
  fresh : ∀ k ∈ chosenKeys p.board ws, k ∉ p.requested
  /-- The resources resolve. -/
  resolves : ∀ w ∈ ws, ∀ r, w.chosen? p.board = some r → p.board.Resolves r

theorem canBind_nil (p : Platform) : p.CanBind [] :=
  ⟨by simp, by simp, List.nodup_nil, by simp [chosenKeys], by simp⟩

/-- Of what was bound before, a wire sees the keys alone. -/
theorem canBind_append_iff {p : Platform} {ws vs : List Wire} :
    p.CanBind (ws ++ vs) ↔ p.CanBind ws ∧ (p.markAll (chosenKeys p.board ws)).CanBind vs := by
  constructor
  · intro h
    have hnodup := h.nodup
    have hfresh := h.fresh
    rw [chosenKeys_append, List.nodup_append] at hnodup
    rw [chosenKeys_append, List.forall_mem_append] at hfresh
    refine ⟨⟨fun w hw => h.named w (List.mem_append_left vs hw),
        fun w hw => h.mandatory w (List.mem_append_left vs hw), hnodup.1, hfresh.1,
        fun w hw => h.resolves w (List.mem_append_left vs hw)⟩,
      ⟨fun w hw => h.named w (List.mem_append_right ws hw),
        fun w hw => h.mandatory w (List.mem_append_right ws hw), hnodup.2.1, fun k hk => ?_,
        fun w hw => h.resolves w (List.mem_append_right ws hw)⟩⟩
    simp only [markAll, List.mem_append, List.mem_reverse, not_or]
    exact ⟨fun hk' => hnodup.2.2 k hk' k hk rfl, hfresh.2 k hk⟩
  · rintro ⟨h, h'⟩
    have apart : ∀ k ∈ chosenKeys p.board vs, k ∉ chosenKeys p.board ws ∧ k ∉ p.requested := by
      intro k hk
      have := h'.fresh k hk
      rwa [markAll, List.mem_append, List.mem_reverse, not_or] at this
    refine ⟨List.forall_mem_append.2 ⟨h.named, h'.named⟩,
      List.forall_mem_append.2 ⟨h.mandatory, h'.mandatory⟩, ?_, ?_,
      List.forall_mem_append.2 ⟨h.resolves, h'.resolves⟩⟩
    · rw [chosenKeys_append, List.nodup_append]
      refine ⟨h.nodup, h'.nodup, ?_⟩
      rintro k hk l hl rfl
      exact (apart k hl).1 hk
    · rw [chosenKeys_append, List.forall_mem_append]
      exact ⟨h.fresh, fun k hk => (apart k hk).2⟩

/-- Whether wires can be bound does not depend on their order. -/
theorem CanBind.perm {p : Platform} {ws vs : List Wire} (h : p.CanBind ws) (perm : ws.Perm vs) :
    p.CanBind vs := by
  have keys : (chosenKeys p.board ws).Perm (chosenKeys p.board vs) := perm.filterMap _
  exact ⟨fun w hw => h.named w (perm.mem_iff.2 hw), fun w hw => h.mandatory w (perm.mem_iff.2 hw),
    keys.nodup_iff.1 h.nodup, fun k hk => h.fresh k (keys.mem_iff.2 hk),
    fun w hw => h.resolves w (perm.mem_iff.2 hw)⟩

end Platform

namespace Wire

variable {p : Platform} {w : Wire}

theorem BoundTo.canBind {r : Resource} {s : BoundSignal} (h : w.BoundTo p.board r s)
    (chosen : w.chosen? p.board = some r) (free : r.key ∉ p.requested) : p.CanBind [w] := by
  have keys := chosenKeys_singleton_some chosen
  refine ⟨?_, ?_, ?_, ?_, ?_⟩
  · rw [List.forall_mem_singleton]
    intro empty
    rw [chosen?, empty] at chosen
    cases chosen
  · rw [List.forall_mem_singleton]
    exact fun _ => ⟨r, chosen⟩
  · rw [keys]
    exact List.nodup_singleton _
  · rw [keys, List.forall_mem_singleton]
    exact free
  · rw [List.forall_mem_singleton]
    intro r' chosen'
    rw [chosen, Option.some.injEq] at chosen'
    rw [← chosen']
    exact Board.exists_resolve_iff.1 ⟨_, h.signals_eq⟩

theorem canBind_of_skipped (named : w.candidates ≠ []) (missing : w.chosen? p.board = none)
    (optional : w.policy = .optional) : p.CanBind [w] := by
  have keys := chosenKeys_singleton_none missing
  refine ⟨?_, ?_, ?_, ?_, ?_⟩
  · rw [List.forall_mem_singleton]
    exact named
  · rw [List.forall_mem_singleton, optional]
    intro contra
    cases contra
  · rw [keys]
    exact List.nodup_nil
  · rw [keys]
    exact fun _ hk => absurd hk (List.not_mem_nil)
  · rw [List.forall_mem_singleton, missing]
    intro r contra
    cases contra

/-- A wire that fails cannot be bound, for whatever cause. -/
theorem Fails.not_canBind {e : Error} (h : w.Fails p.board p.requested e) : ¬ p.CanBind [w] := by
  intro can
  have mem := List.mem_singleton_self w
  cases h with
  | noCandidates empty => exact can.named w mem empty
  | missing named missing mandatory =>
    obtain ⟨r, chosen⟩ := can.mandatory w mem mandatory
    rw [missing] at chosen
    cases chosen
  | taken chosen taken => exact can.fresh _ (mem_chosenKeys.2 ⟨w, mem, _, chosen, rfl⟩) taken
  | broken chosen free broken =>
    obtain ⟨signals, resolved⟩ := Board.exists_resolve_iff.2 (can.resolves w mem _ chosen)
    rw [broken] at resolved
    cases resolved

end Wire

/-! ### Runs -/

namespace Platform

/-- How a run over a list of wires ends on the platform `p`. -/
inductive WiringEnds (p : Platform) (ws : List Wire) :
    Platform × Report (List BoundSignal) → Prop where
  /-- Every wire that comes to a resource is bound to it, and the others are left out. -/
  | all {signals : List BoundSignal} {notices : List Notice} (can : p.CanBind ws)
      (bound : (wiredOf p.board ws).Forall₂ (Wire.Yields p.board) signals)
      (warned : warnings notices = (unwiredOf p.board ws).map (·.skipNotice p.board)) :
      WiringEnds p ws (p.markAll (chosenKeys p.board ws), ⟨notices, .ok signals⟩)
  /-- A wire fails when those before it are bound or left out. -/
  | upTo {before rest : List Wire} {w : Wire} {e : Error} {notices : List Notice}
      (split : ws = before ++ w :: rest) (can : p.CanBind before)
      (fails : w.Fails p.board (p.markAll (chosenKeys p.board before)).requested e)
      (warned : warnings notices = (unwiredOf p.board before).map (·.skipNotice p.board)) :
      WiringEnds p ws (p.markAll (chosenKeys p.board before), ⟨notices, .error e⟩)

theorem bindAll_cons_run_ok {w : Wire} {p q : Platform} {notices : List Notice}
    {bound : Option BoundSignal} (h : (bindWire w).run p = (q, ⟨notices, .ok bound⟩))
    (rest : List Wire) :
    (bindAll (w :: rest)).run p = (((bindAll rest).run q).1,
      ⟨notices ++ ((bindAll rest).run q).2.notices,
        ((bindAll rest).run q).2.outcome.map (bound.toList ++ ·)⟩) := by
  have ok : ((bindWire w).run p).2.outcome = .ok bound := by rw [h]
  simp only [bindAll, bind_pure_comp]
  rw [Session.run_bind_ok ok, Session.run_map, h]

theorem bindAll_cons_run_error {w : Wire} {p q : Platform} {notices : List Notice} {e : Error}
    (h : (bindWire w).run p = (q, ⟨notices, .error e⟩)) (rest : List Wire) :
    (bindAll (w :: rest)).run p = (q, ⟨notices, .error e⟩) := by
  have error : ((bindWire w).run p).2.outcome = .error e := by rw [h]
  unfold bindAll
  rw [Session.run_bind_error error, h]

/-- What a bound or omitted wire adds to the run over those behind it. -/
theorem WiringEnds.cons {p : Platform} {w : Wire} {rest : List Wire} {notices : List Notice}
    {bound : Option BoundSignal} (can : p.CanBind [w])
    (hbound : (wiredOf p.board [w]).Forall₂ (Wire.Yields p.board) bound.toList)
    (hwarned : warnings notices = (unwiredOf p.board [w]).map (·.skipNotice p.board))
    {later : Platform × Report (List BoundSignal)}
    (h : WiringEnds (p.markAll (chosenKeys p.board [w])) rest later) :
    WiringEnds p (w :: rest) (later.1,
      ⟨notices ++ later.2.notices, later.2.outcome.map (bound.toList ++ ·)⟩) := by
  have single : w :: rest = [w] ++ rest := rfl
  rw [single]
  cases h with
  | @all signals notices' can' hbound' hwarned' =>
    rw [markAll_markAll, board_markAll, ← chosenKeys_append]
    refine .all (canBind_append_iff.2 ⟨can, can'⟩) ?_ ?_
    · rw [wiredOf_append]
      exact List.rel_append hbound hbound'
    · rw [warnings_append, unwiredOf_append, List.map_append, hwarned]
      exact congrArg _ hwarned'
  | @upTo before rest' v e notices' split can' fails hwarned' =>
    rw [markAll_markAll, board_markAll, ← chosenKeys_append] at fails ⊢
    have split' : [w] ++ rest = ([w] ++ before) ++ v :: rest' := by
      rw [split, List.append_assoc]
    refine .upTo split' (canBind_append_iff.2 ⟨can, can'⟩) fails ?_
    · rw [warnings_append, unwiredOf_append, List.map_append, hwarned]
      exact congrArg _ hwarned'

/-- A run binds all wires, or those before the first that fails. -/
theorem bindAll_ends (ws : List Wire) (p : Platform) : p.WiringEnds ws ((bindAll ws).run p) := by
  -- for every platform, since the rest is bound on the one that the first wire leaves
  induction ws generalizing p with
  | nil =>
    exact .all (canBind_nil p) .nil rfl
  | cons w rest ih =>
    have becomes := bindWire_becomes w p
    generalize hrun : (bindWire w).run p = result at becomes
    cases becomes with
    | bound chosen free bound quiet =>
      rw [bindAll_cons_run_ok hrun]
      refine .cons (bound.canBind chosen free) ?_ ?_ ?_
      · rw [wiredOf_singleton_some chosen]
        exact .cons ⟨_, chosen, bound⟩ .nil
      · rw [unwiredOf_singleton_some chosen, quiet]
        rfl
      · rw [chosenKeys_singleton_some chosen]
        exact ih _
    | skipped named missing optional warned =>
      rw [bindAll_cons_run_ok hrun]
      refine .cons (Wire.canBind_of_skipped named missing optional) ?_ ?_ ?_
      · rw [wiredOf_singleton_none missing]
        exact .nil
      · rw [unwiredOf_singleton_none missing, warned]
        rfl
      · rw [chosenKeys_singleton_none missing]
        exact ih _
    | failed fails quiet =>
      rw [bindAll_cons_run_error hrun]
      have split : w :: rest = [] ++ w :: rest := rfl
      exact .upTo split (canBind_nil p) fails quiet

end Platform

/-! ### What a caller can rely on -/

theorem mem_unwiredOf {b : Board} {ws : List Wire} {w : Wire} :
    w ∈ unwiredOf b ws ↔ w ∈ ws ∧ w.chosen? b = none := by
  simp [unwiredOf, List.mem_filter]

theorem Wire.chosen?_eq_none_iff {b : Board} {w : Wire} :
    w.chosen? b = none ↔ ∀ k ∈ w.candidates, b.resource? k = none := List.findSome?_eq_none_iff

/-- The platform leaves no choice what the signal of a wire is. -/
theorem Wire.Yields.right_unique (b : Board) : Relator.RightUnique (Wire.Yields b) := by
  rintro w s t ⟨r, chosen, hs⟩ ⟨r', chosen', ht⟩
  rw [chosen, Option.some.injEq] at chosen'
  rw [← chosen'] at ht
  have signal := hs.signal_eq.trans ht.signal_eq.symm
  have requested := Option.some.inj (hs.requested_eq.symm.trans ht.requested_eq)
  have key := ResourceKey.mk.inj (hs.key_eq.trans ht.key_eq.symm)
  have fallback : s.binding.fallback = t.binding.fallback := by
    rw [hs.fallback_eq, ht.fallback_eq, requested]
  have clock := hs.clock_eq.trans ht.clock_eq.symm
  have signals := Except.ok.inj (hs.signals_eq.symm.trans ht.signals_eq)
  obtain ⟨signal, ⟨requested, resource, number, fallback, clock, signals⟩⟩ := s
  simp only at *
  subst_vars
  obtain ⟨rfl, rfl⟩ := key
  rfl

namespace Platform

/-- What binding the wires `ws` does to the platform `p`. -/
structure BindsAll (p : Platform) (ws : List Wire) : Prop where
  /-- It succeeds exactly if all of them can be bound, or left out. -/
  succeeds_iff : (∃ signals, ((bindAll ws).run p).2.outcome = .ok signals) ↔ p.CanBind ws
  /-- If it succeeds, each wire that comes to a resource is bound to it, in order. -/
  bound : ∀ {signals}, ((bindAll ws).run p).2.outcome = .ok signals →
    (wiredOf p.board ws).Forall₂ (Wire.Yields p.board) signals
  /-- If it succeeds, their keys are marked, and nothing else changes. -/
  marked : ∀ {signals}, ((bindAll ws).run p).2.outcome = .ok signals →
    ((bindAll ws).run p).1 = p.markAll (chosenKeys p.board ws)
  /-- If it succeeds, there is one warning for each wire that is left out. -/
  warned : ∀ {signals}, ((bindAll ws).run p).2.outcome = .ok signals →
    warnings ((bindAll ws).run p).2.notices = (unwiredOf p.board ws).map (·.skipNotice p.board)
  /-- If it succeeds, those left out are the optional ones without a candidate that exists. -/
  omitted : ∀ {signals}, ((bindAll ws).run p).2.outcome = .ok signals →
    ∀ w, w ∈ unwiredOf p.board ws ↔
      w ∈ ws ∧ w.policy = .optional ∧ ∀ k ∈ w.candidates, p.board.resource? k = none
  /-- If it fails, it is for the first wire that cannot be bound, and the keys of those before it
  are marked. -/
  failed : ∀ {e}, ((bindAll ws).run p).2.outcome = .error e →
    ∃ before w rest, ws = before ++ w :: rest ∧ p.CanBind before ∧ ¬ p.CanBind (before ++ [w]) ∧
      w.Fails p.board (p.markAll (chosenKeys p.board before)).requested e ∧
      ((bindAll ws).run p).1 = p.markAll (chosenKeys p.board before)
  /-- In another order it succeeds as well, or fails as well. -/
  succeeds_perm : ∀ {vs}, ws.Perm vs →
    ((∃ signals, ((bindAll ws).run p).2.outcome = .ok signals) ↔
      ∃ signals, ((bindAll vs).run p).2.outcome = .ok signals)
  /-- In another order the signals are the same. -/
  signals_perm : ∀ {vs signals signals'}, ws.Perm vs →
    ((bindAll ws).run p).2.outcome = .ok signals → ((bindAll vs).run p).2.outcome = .ok signals' →
    signals.Perm signals'

theorem WiringEnds.of_ok {p : Platform} {ws : List Wire}
    {result : Platform × Report (List BoundSignal)} (h : p.WiringEnds ws result)
    {signals : List BoundSignal} (ok : result.2.outcome = .ok signals) :
    p.CanBind ws ∧ (wiredOf p.board ws).Forall₂ (Wire.Yields p.board) signals ∧
      result.1 = p.markAll (chosenKeys p.board ws) ∧
      warnings result.2.notices = (unwiredOf p.board ws).map (·.skipNotice p.board) := by
  cases h with
  | all can bound warned =>
    cases ok
    exact ⟨can, bound, rfl, warned⟩
  | upTo => cases ok

theorem WiringEnds.of_error {p : Platform} {ws : List Wire}
    {result : Platform × Report (List BoundSignal)} (h : p.WiringEnds ws result) {e : Error}
    (error : result.2.outcome = .error e) :
    ∃ before w rest, ws = before ++ w :: rest ∧ p.CanBind before ∧ ¬ p.CanBind (before ++ [w]) ∧
      w.Fails p.board (p.markAll (chosenKeys p.board before)).requested e ∧
      result.1 = p.markAll (chosenKeys p.board before) := by
  cases h with
  | all => cases error
  | upTo split can fails warned =>
    cases error
    refine ⟨_, _, _, split, can, fun can' => ?_, fails, rfl⟩
    exact Wire.Fails.not_canBind (p := p.markAll _) fails (canBind_append_iff.1 can').2

/-- Binding succeeds exactly if all wires can be bound, or left out. -/
theorem bindAll_succeeds_iff {p : Platform} {ws : List Wire} :
    (∃ signals, ((bindAll ws).run p).2.outcome = .ok signals) ↔ p.CanBind ws := by
  constructor
  · rintro ⟨signals, ok⟩
    exact ((bindAll_ends ws p).of_ok ok).1
  · intro can
    cases outcome : ((bindAll ws).run p).2.outcome with
    | ok signals => exact ⟨signals, rfl⟩
    | error e =>
      obtain ⟨before, w, rest, split, -, cannot, -⟩ := (bindAll_ends ws p).of_error outcome
      rw [split, List.append_cons] at can
      exact absurd (canBind_append_iff.1 can).1 cannot

/-- Binding a list of wires is settled by what each of them comes to. -/
theorem bindsAll (p : Platform) (ws : List Wire) : p.BindsAll ws where
  succeeds_iff := bindAll_succeeds_iff
  bound ok := ((bindAll_ends ws p).of_ok ok).2.1
  marked ok := ((bindAll_ends ws p).of_ok ok).2.2.1
  warned ok := ((bindAll_ends ws p).of_ok ok).2.2.2
  omitted ok := by
    intro w
    have can := ((bindAll_ends ws p).of_ok ok).1
    rw [mem_unwiredOf, Wire.chosen?_eq_none_iff]
    refine and_congr_right fun hw => ⟨fun missing => ⟨?_, missing⟩, And.right⟩
    cases hpolicy : w.policy with
    | optional => rfl
    | mandatory =>
      obtain ⟨r, chosen⟩ := can.mandatory w hw hpolicy
      rw [Wire.chosen?_eq_none_iff.2 missing] at chosen
      cases chosen
  failed error := (bindAll_ends ws p).of_error error
  succeeds_perm perm := by
    rw [bindAll_succeeds_iff, bindAll_succeeds_iff]
    exact ⟨fun can => can.perm perm, fun can => can.perm perm.symm⟩
  signals_perm perm ok ok' := List.rel_perm_imp (Wire.Yields.right_unique p.board)
    ((bindAll_ends _ p).of_ok ok).2.1 ((bindAll_ends _ p).of_ok ok').2.1 (perm.filter _)

end Platform

end SocAssembly
