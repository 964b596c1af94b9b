import Mathlib
import SocAssembly.Build.Run
import SocAssembly.Proofs.Elaborating

/-!
# Running tools

A tool is started where a notice tells of it (`startedTools`), and nothing but a run of the tools
tells of any (`elaborate_starts`, `Elaboration.prepare_starts`). The run comes to a first part of
the plan (`BuildPlan.launched`): each tool is started after all before it have ended with zero, and
none behind one that has not. So the run does not depend on the tools that it does not come to
(`BuildPlan.runSteps_congr`), and it succeeds exactly if every tool of the plan can be called and
ends with zero, as the tools say it does (`BuildPlan.call_eq_ok_iff`).
-/

namespace SocAssembly

/-- The program that the notice tells of, if it tells that one is started. -/
def Notice.tool? : Notice → Option String
  | .runningTool program => some program
  | _ => none

/-- The programs that were started, in order. -/
def startedTools (notices : List Notice) : List String := notices.filterMap Notice.tool?

@[simp] theorem startedTools_append (ns ms : List Notice) :
    startedTools (ns ++ ms) = startedTools ns ++ startedTools ms := List.filterMap_append

/-- The notice does not tell of a tool. -/
def Notice.IsIdle (n : Notice) : Prop := n.tool? = none

theorem startedTools_eq_nil {α : Type} {r : Report α} (h : r.Tells Notice.IsIdle) :
    startedTools r.notices = [] := List.filterMap_eq_nil_iff.2 h

/-! ### Sessions without tools -/

namespace Session

variable {σ α β : Type}

/-- The session starts no tool. -/
def Idle (x : Session σ α) : Prop := ∀ s, (x.run s).2.Tells Notice.IsIdle

namespace Idle

/-- What has nothing to tell is idle. -/
theorem of_nil {x : Session σ α} (h : ∀ s, (x.run s).2.notices = []) : x.Idle := by
  intro s n hn
  rw [h s] at hn
  cases hn

theorem bind {x : Session σ α} {next : α → Session σ β} (h : x.Idle) (hnext : ∀ a, (next a).Idle) :
    (x >>= next).Idle := by
  intro s n hn
  cases hx : (x.run s).2.outcome with
  | error e =>
    rw [run_bind_error hx] at hn
    exact h s n hn
  | ok a =>
    rw [run_bind_ok hx] at hn
    rcases List.mem_append.1 hn with hn | hn
    · exact h s n hn
    · exact hnext a _ n hn

theorem pure (a : α) : (Pure.pure a : Session σ α).Idle := of_nil fun _ => rfl

theorem fail (e : Error) : (Session.fail e : Session σ α).Idle := of_nil fun _ => rfl

theorem state : (Session.state : Session σ σ).Idle := of_nil fun _ => rfl

theorem modify (f : σ → σ) : (Session.modify f).Idle := of_nil fun _ => rfl

theorem ofExcept (x : Except Error α) : (Session.ofExcept x : Session σ α).Idle :=
  of_nil fun _ => rfl

theorem ofReport {r : Report α} (h : r.Tells Notice.IsIdle) :
    (Session.ofReport r : Session σ α).Idle := fun _ => h

theorem note {n : Notice} (h : n.IsIdle) : (Session.note n : Session σ Unit).Idle :=
  fun _ => Report.tells_note h

theorem inContext {x : Session σ α} (h : x.Idle) (doing : String) : (x.inContext doing).Idle := h

theorem map {f : α → β} {x : Session σ α} (h : x.Idle) : (f <$> x).Idle := by
  rw [← bind_pure_comp]
  exact h.bind fun a => .pure _

/-- What is idle in front of a session starts nothing more. -/
theorem startedTools_bind {x : Session σ α} (h : x.Idle) {next : α → Session σ β} {s : σ} {a : α}
    (ok : (x.run s).2.outcome = .ok a) : startedTools ((x >>= next).run s).2.notices =
      startedTools ((next a).run (x.run s).1).2.notices := by
  rw [run_bind_ok ok, startedTools_append, startedTools_eq_nil (h s), List.nil_append]

/-- What is idle behind a session starts nothing more. -/
theorem startedTools_bind_idle (x : Session σ α) {next : α → Session σ β}
    (hnext : ∀ a, (next a).Idle) (s : σ) :
    startedTools ((x >>= next).run s).2.notices = startedTools (x.run s).2.notices := by
  cases hx : (x.run s).2.outcome with
  | error e => rw [run_bind_error hx]
  | ok a =>
    rw [run_bind_ok hx, startedTools_append, startedTools_eq_nil (hnext a _), List.append_nil]

end Idle

end Session

/-! ### Elaboration -/

namespace Platform

open Session.Idle

theorem addResources_idle (rs : List Resource) : (addResources rs).Idle := by
  induction rs with
  | nil => exact .pure ()
  | cons r rest ih =>
    unfold addResources
    refine state.bind fun p => ?_
    split
    · exact .fail _
    · exact (modify _).bind fun _ => ih

theorem bind_idle (requested : String) (r : Resource) : (Platform.bind requested r).Idle := by
  unfold Platform.bind
  refine state.bind fun p => (ofExcept _).bind fun b => (modify _).bind fun _ => ?_
  exact Session.Idle.bind (.note rfl) fun _ => .pure b

theorem request_idle (k : ResourceKey) : (request k).Idle := by
  unfold request
  refine state.bind fun p => ?_
  split
  · exact bind_idle k.name _
  · exact .fail _

theorem requestAny_idle (candidates : List ResourceKey) : (requestAny candidates).Idle := by
  cases candidates with
  | nil => exact .fail _
  | cons best rest =>
    have missing (p : Platform) : (p.noteMissing (best :: rest)).Tells Notice.IsIdle := by
      intro n hn
      obtain ⟨k, -, rfl⟩ := List.mem_map.1 hn
      rfl
    unfold requestAny
    refine state.bind fun p => (ofReport (missing p)).bind fun _ => ?_
    split
    · exact bind_idle _ _
    · exact .fail _

theorem requestOptional_idle (candidates : List ResourceKey) :
    (requestOptional candidates).Idle := by
  intro p
  have asked := requestAny_idle candidates p
  rw [requestOptional_run]
  split
  · exact asked
  · split
    · exact List.forall_mem_append.2 ⟨asked, List.forall_mem_singleton.2 rfl⟩
    · exact asked

theorem bindAll_idle (ws : List Wire) : (bindAll ws).Idle := by
  induction ws with
  | nil => exact .pure []
  | cons w rest ih =>
    have bound : (bindWire w).Idle := by
      unfold bindWire
      cases w.policy with
      | mandatory => exact (requestAny_idle w.candidates).map.bind fun b => .pure _
      | optional => exact (requestOptional_idle w.candidates).bind fun b => .pure _
    unfold bindAll
    exact bound.bind fun s => ih.bind fun others => .pure _

end Platform

/-- Elaboration starts no tool. -/
theorem elaborate_idle (d : Descriptor) : (elaborate d).Idle := by
  unfold elaborate
  refine (Session.Idle.ofExcept _).bind fun soc => (Session.Idle.ofExcept _).bind fun _ => ?_
  refine (Platform.addResources_idle d.resources).bind fun _ => Session.Idle.state.bind fun p => ?_
  refine (Platform.request_idle _).bind fun clock => ?_
  refine (Platform.bindAll_idle d.wires).bind fun signals => ?_
  have fallbacks : (noteFallbacks signals).Tells Notice.IsIdle := by
    intro n hn
    obtain ⟨s, -, hs⟩ := List.mem_filterMap.1 hn
    obtain ⟨r, -, rfl⟩ := Option.map_eq_some_iff.1 hs
    rfl
  refine (Session.Idle.ofReport fallbacks).bind fun _ => Session.Idle.state.bind fun q => ?_
  have finishing : (soc.finalize q).Tells Notice.IsIdle := by
    intro n hn
    cases soc.finalize_tells q n hn <;> rfl
  refine (Session.Idle.ofReport finishing).bind fun design => ?_
  exact Session.Idle.bind (.note rfl) fun _ => .pure _

/-! ### A plan -/

theorem makeDirectories_idle (path : String) : (Session.makeDirectories path).Idle :=
  .of_nil fun _ => rfl

theorem writeFile_idle (path content : String) : (Session.writeFile path content).Idle := by
  refine .of_nil fun t => ?_
  unfold Session.run Session.writeFile
  split <;> rfl

namespace BuildPlan

open Session

theorem writeFiles_idle (directory : String) (files : List PlanFile) :
    (writeFiles directory files).Idle := by
  induction files with
  | nil => exact .pure ()
  | cons f rest ih =>
    unfold writeFiles
    exact Session.Idle.bind (.note rfl) fun _ => (writeFile_idle _ _).bind fun _ => ih

theorem placeNetlist_idle (p : BuildPlan) (netlist : String) : (p.placeNetlist netlist).Idle := by
  unfold placeNetlist
  refine Idle.state.bind fun t => ?_
  split
  · exact .fail _
  · split
    · exact .note rfl
    · exact .of_nil fun _ => rfl

variable {tools tools' : Tools} {t : FileTree} {directory : String}

/-- The tool can be called, whether it is one of the programs or not: no text of the call holds the
character of code zero, and the directory can be entered. -/
def CanCall (t : FileTree) (directory : String) (s : ToolStep) : Prop :=
  callable s = true ∧ ∃ u, t.enter directory = .ok u

/-- A call ends with the status that the program ends with. -/
theorem call_eq_ok_iff {s : ToolStep} {n : Nat} : call tools t directory s = .ok n ↔
    CanCall t directory s ∧ tools s.program s.args = some n := by
  unfold call CanCall
  cases callable s with
  | false => simp
  | true =>
    cases entered : t.enter directory with
    | error e => simp
    | ok u =>
      cases ended : tools s.program s.args with
      | none => simp
      | some status => simp

/-- The calls that a run of the tools comes to: up to the first that does not end with zero. -/
def launched (tools : Tools) (t : FileTree) (directory : String) : List ToolStep → List ToolStep
  | [] => []
  | s :: rest =>
    match call tools t directory s with
    | .ok 0 => s :: launched tools t directory rest
    | _ => [s]

theorem launched_cons_of_ended {s : ToolStep} (h : call tools t directory s = .ok 0)
    (rest : List ToolStep) : launched tools t directory (s :: rest) =
      s :: launched tools t directory rest := by
  simp only [launched, h]

theorem launched_cons_of_failed {s : ToolStep} (h : call tools t directory s ≠ .ok 0)
    (rest : List ToolStep) : launched tools t directory (s :: rest) = [s] := by
  unfold launched
  split
  · contradiction
  · rfl

/-- Tools are started in the order of the plan, none is left out. -/
theorem launched_prefix (steps : List ToolStep) : launched tools t directory steps <+: steps := by
  induction steps with
  | nil => exact List.prefix_refl []
  | cons s rest ih =>
    by_cases ended : call tools t directory s = .ok 0
    · rw [launched_cons_of_ended ended]
      exact List.prefix_cons_inj s |>.2 ih
    · rw [launched_cons_of_failed ended]
      exact List.prefix_append [s] rest

/-- A tool is started after those before it have ended with zero. -/
theorem ended_of_launched {steps before : List ToolStep} {s : ToolStep}
    (h : before ++ [s] <+: launched tools t directory steps) :
    ∀ b ∈ before, call tools t directory b = .ok 0 := by
  induction steps generalizing before with
  | nil => simp [launched] at h
  | cons r rest ih =>
    cases before with
    | nil => exact List.forall_mem_nil _
    | cons b before =>
      by_cases ended : call tools t directory r = .ok 0
      · rw [launched_cons_of_ended ended, List.cons_append, List.cons_prefix_cons] at h
        exact List.forall_mem_cons.2 ⟨h.1 ▸ ended, ih h.2⟩
      · rw [launched_cons_of_failed ended, List.cons_append, List.cons_prefix_cons] at h
        simp at h

/-- If all tools that are started end with zero, all tools of the plan are started. -/
theorem launched_eq_of_ended {steps : List ToolStep}
    (h : ∀ s ∈ launched tools t directory steps, call tools t directory s = .ok 0) :
    launched tools t directory steps = steps := by
  induction steps with
  | nil => rfl
  | cons s rest ih =>
    by_cases ended : call tools t directory s = .ok 0
    · rw [launched_cons_of_ended ended] at h ⊢
      rw [ih (List.forall_mem_cons.1 h).2]
    · rw [launched_cons_of_failed ended, List.forall_mem_singleton] at h
      contradiction

theorem runSteps_cons_of_ended {s : ToolStep} (h : call tools t directory s = .ok 0)
    (rest : List ToolStep) : runSteps tools t directory (s :: rest) =
      ⟨.runningTool s.program :: (runSteps tools t directory rest).notices,
        (runSteps tools t directory rest).outcome⟩ := by
  simp only [runSteps, h]
  rfl

/-- Nothing is started behind a tool that fails. -/
theorem exists_runSteps_cons_of_failed {s : ToolStep} (h : call tools t directory s ≠ .ok 0)
    (rest : List ToolStep) : ∃ e,
      runSteps tools t directory (s :: rest) = ⟨[.runningTool s.program], .error e⟩ := by
  unfold runSteps
  split
  · exact ⟨_, rfl⟩
  · contradiction
  · exact ⟨_, rfl⟩

theorem startedTools_runSteps (steps : List ToolStep) :
    startedTools (runSteps tools t directory steps).notices =
      (launched tools t directory steps).map (·.program) := by
  induction steps with
  | nil => rfl
  | cons s rest ih =>
    by_cases ended : call tools t directory s = .ok 0
    · rw [runSteps_cons_of_ended ended, launched_cons_of_ended ended, List.map_cons, ← ih]
      rfl
    · obtain ⟨e, failed⟩ := exists_runSteps_cons_of_failed ended rest
      rw [failed, launched_cons_of_failed ended]
      rfl

/-- The tools succeed exactly if all of them end with zero. -/
theorem outcome_runSteps_eq_ok_iff {steps : List ToolStep} :
    (runSteps tools t directory steps).outcome = .ok () ↔
      ∀ s ∈ steps, call tools t directory s = .ok 0 := by
  induction steps with
  | nil => simp [runSteps]
  | cons s rest ih =>
    rw [List.forall_mem_cons]
    by_cases ended : call tools t directory s = .ok 0
    · rw [runSteps_cons_of_ended ended, ih]
      exact (and_iff_right ended).symm
    · obtain ⟨e, failed⟩ := exists_runSteps_cons_of_failed ended rest
      simp [failed, ended]

theorem call_congr {s : ToolStep} (same : tools' s.program s.args = tools s.program s.args) :
    call tools' t directory s = call tools t directory s := by
  unfold call
  rw [same]

/-- A run depends on no tool that it does not come to. -/
theorem runSteps_congr {steps : List ToolStep} (same : ∀ s ∈ launched tools t directory steps,
      tools' s.program s.args = tools s.program s.args) :
    runSteps tools' t directory steps = runSteps tools t directory steps := by
  induction steps with
  | nil => rfl
  | cons s rest ih =>
    by_cases ended : call tools t directory s = .ok 0
    · rw [launched_cons_of_ended ended] at same
      obtain ⟨here, same⟩ := List.forall_mem_cons.1 same
      have ended' := (call_congr here).trans ended
      rw [runSteps_cons_of_ended ended, runSteps_cons_of_ended ended', ih same]
    · rw [launched_cons_of_failed ended, List.forall_mem_singleton] at same
      unfold runSteps
      rw [call_congr same]
      split <;> first | rfl | contradiction

end BuildPlan

/-! ### A build -/

/-- The calls are those of a build that may be prepared with these plans, each in a tree. -/
structure LaunchesInOrder (tools : Tools) (options : BuildOptions)
    (Prepared : BuildPlan → FileTree → Prop) (launched : List ToolStep) : Prop where
  /-- No tool is started if the tools are to be skipped. -/
  skipped : options.skipSynthesis = true → launched = []
  /-- No tool is started without a netlist, nor if the build is not prepared. -/
  unprepared : (∀ plan t, Prepared plan t → t.isFile plan.netlistPath = false) → launched = []
  /-- Tools are started in the order of the plan, and none of them is left out. -/
  ordered : ∀ plan t, Prepared plan t → launched <+: plan.steps
  /-- Each tool is started after all before it have ended with status zero. -/
  ended : ∀ before s, before ++ [s] <+: launched → ∀ b ∈ before, tools b.program b.args = some 0
  /-- If the tools are to be run and there is a netlist, then all of them are started, unless one
  that is started cannot be called or does not end with zero. -/
  complete : options.skipSynthesis = false → ∀ plan t, Prepared plan t →
    t.isFile plan.netlistPath = true →
    (∀ s ∈ launched, BuildPlan.CanCall t plan.buildDirectory s ∧
      tools s.program s.args = some 0) → launched = plan.steps

theorem LaunchesInOrder.of_unprepared (tools : Tools) (options : BuildOptions)
    {Prepared : BuildPlan → FileTree → Prop} (h : ∀ plan t, ¬ Prepared plan t) :
    LaunchesInOrder tools options Prepared [] where
  skipped _ := rfl
  unprepared _ := rfl
  ordered plan _ _ := List.nil_prefix
  ended before s h := by simp at h
  complete _ plan t prepared := (h plan t prepared).elim

/-- If the tools are to be run and there is a netlist, a tool that fails behind others that do not
is the last that is started. -/
theorem LaunchesInOrder.eq_of_failed {tools : Tools} {options : BuildOptions}
    {Prepared : BuildPlan → FileTree → Prop} {launched before rest : List ToolStep}
    {plan : BuildPlan} {t : FileTree} {s : ToolStep}
    (h : LaunchesInOrder tools options Prepared launched) (wanted : options.skipSynthesis = false)
    (prepared : Prepared plan t) (there : t.isFile plan.netlistPath = true)
    (steps : plan.steps = before ++ s :: rest)
    (ended : ∀ b ∈ before, BuildPlan.CanCall t plan.buildDirectory b ∧
      tools b.program b.args = some 0)
    (failed : tools s.program s.args ≠ some 0) : launched = before ++ [s] := by
  have ordered := h.ordered plan t prepared
  have reached : before ++ [s] <+: plan.steps := ⟨rest, by simp [steps]⟩
  rcases List.prefix_or_prefix_of_prefix ordered reached with short | ⟨more, eq⟩
  · rcases List.prefix_concat_iff.1 short with rfl | short
    · rfl
    · -- none of the tools that were started has failed, so the failing one is among them
      have all := h.complete wanted plan t prepared there fun b mem => ended b (short.subset mem)
      have length := short.length_le
      rw [all, steps, List.length_append, List.length_cons] at length
      omega
  · cases more with
    | nil => rw [← eq, List.append_nil]
    | cons next more =>
      have further : (before ++ [s]) ++ [next] <+: launched := ⟨more, by simp [← eq]⟩
      exact (failed (h.ended _ next further s (by simp))).elim

namespace BuildPlan

variable {tools tools' : Tools} {t : FileTree}

/-- The calls that the rest of a build comes to. -/
def started (p : BuildPlan) (tools : Tools) (options : BuildOptions) (t : FileTree) :
    List ToolStep :=
  if options.skipSynthesis || !t.isFile p.netlistPath then []
  else launched tools t p.buildDirectory p.steps

theorem startedTools_complete (p : BuildPlan) (tools : Tools) (options : BuildOptions)
    (t : FileTree) : startedTools ((p.complete tools options).run t).2.notices =
      (p.started tools options t).map (·.program) := by
  unfold complete started
  cases options.skipSynthesis with
  | true => rfl
  | false =>
    rw [Bool.false_or, if_neg Bool.false_ne_true, Session.run_state_bind]
    cases t.isFile p.netlistPath with
    | false => rfl
    | true =>
      rw [if_neg (by decide), if_neg (by decide), ← startedTools_runSteps]
      exact Session.Idle.startedTools_bind_idle _ (fun _ => .pure _) t

/-- If a build can be prepared with one plan alone, the rest of the build starts tools in order. -/
theorem launchesInOrder_started {Prepared : BuildPlan → FileTree → Prop} {p : BuildPlan}
    (here : Prepared p t) (unique : ∀ plan u, Prepared plan u → plan = p ∧ u = t) (tools : Tools)
    (options : BuildOptions) :
    LaunchesInOrder tools options Prepared (p.started tools options t) where
  skipped skipped := by
    rw [started, skipped]
    rfl
  unprepared missing := by
    rw [started, missing p t here, Bool.not_false, Bool.or_true]
    rfl
  ordered plan u prepared := by
    obtain ⟨rfl, rfl⟩ := unique plan u prepared
    unfold started
    split
    · exact List.nil_prefix
    · exact launched_prefix plan.steps
  ended before s h := by
    unfold started at h
    split at h
    · simp at h
    · exact fun b mem => (call_eq_ok_iff.1 (ended_of_launched h b mem)).2
  complete wanted plan u prepared there := by
    obtain ⟨rfl, rfl⟩ := unique plan u prepared
    unfold started
    rw [wanted, there, if_neg (by decide)]
    exact fun ended => launched_eq_of_ended fun s mem => call_eq_ok_iff.2 (ended s mem)

/-- The rest of a build depends on no tool that it does not come to. -/
theorem complete_congr {p : BuildPlan} {options : BuildOptions}
    (same : ∀ s ∈ p.started tools options t, tools' s.program s.args = tools s.program s.args) :
    (p.complete tools' options).run t = (p.complete tools options).run t := by
  unfold started at same
  unfold complete
  cases skipped : options.skipSynthesis with
  | true => rfl
  | false =>
    rw [if_neg Bool.false_ne_true, if_neg Bool.false_ne_true, Session.run_state_bind,
      Session.run_state_bind]
    cases there : t.isFile p.netlistPath with
    | false => rfl
    | true =>
      rw [skipped, there, if_neg (by decide)] at same
      rw [if_neg (by decide), if_neg (by decide), runSteps_congr same]

end BuildPlan

namespace Elaboration

variable {e : Elaboration} {environment : Dict String} {b : Board} {options : BuildOptions}

theorem prepare_idle (e : Elaboration) (environment : Dict String) (b : Board)
    (options : BuildOptions) : (e.prepare environment b options).Idle := by
  unfold prepare BuildPlan.write
  refine (Session.Idle.ofExcept _).bind fun plan => ?_
  refine ((makeDirectories_idle _).bind fun _ => BuildPlan.writeFiles_idle _ _).bind fun _ => ?_
  split
  · refine (plan.placeNetlist_idle _).bind fun _ => ?_
    exact Session.Idle.bind (.note rfl) fun _ => .pure plan
  · exact Session.Idle.bind (.note rfl) fun _ => .pure plan

/-- The plans that a build is prepared with, and the tree after that. -/
def Prepares (e : Elaboration) (environment : Dict String) (b : Board) (options : BuildOptions)
    (t : FileTree) (plan : BuildPlan) (u : FileTree) : Prop :=
  (e.prepare environment b options).Ends t u (.ok plan)

theorem Prepares.right_unique {t u u' : FileTree} {plan plan' : BuildPlan}
    (h : e.Prepares environment b options t plan u)
    (h' : e.Prepares environment b options t plan' u') : plan = plan' ∧ u = u' :=
  ⟨Except.ok.inj (h.2.symm.trans h'.2), h.1.symm.trans h'.1⟩

/-- A build starts tools in order, and depends on no tool that it does not start. -/
theorem exists_launchesInOrder (e : Elaboration) (environment : Dict String) (tools : Tools)
    (b : Board) (options : BuildOptions) (t : FileTree) : ∃ launched,
      LaunchesInOrder tools options (e.Prepares environment b options t) launched ∧
      startedTools ((e.build environment tools b options).run t).2.notices =
        launched.map (·.program) ∧
      ∀ tools', (∀ s ∈ launched, tools' s.program s.args = tools s.program s.args) →
        (e.build environment tools' b options).run t =
          (e.build environment tools b options).run t := by
  have idle := startedTools_eq_nil (e.prepare_idle environment b options t)
  cases prepared : ((e.prepare environment b options).run t).2.outcome with
  | error err =>
    have unprepared : ∀ plan u, ¬ e.Prepares environment b options t plan u := by
      rintro plan u ⟨-, same⟩
      cases same.symm.trans prepared
    refine ⟨[], .of_unprepared tools options unprepared, ?_, fun tools' _ => ?_⟩
    · rw [build, Session.run_bind_error prepared]
      exact idle
    · rw [build, build, Session.run_bind_error prepared, Session.run_bind_error prepared]
  | ok plan =>
    have ends : e.Prepares environment b options t plan _ := ⟨rfl, prepared⟩
    -- the plan and the tree that the build is prepared with are these and no others
    have unique : ∀ plan' u, e.Prepares environment b options t plan' u →
        plan' = plan ∧ u = ((e.prepare environment b options).run t).1 :=
      fun _ _ other => other.right_unique ends
    have rest (tools : Tools) : (e.build environment tools b options).run t = _ :=
      Session.run_bind_ok prepared fun plan => plan.complete tools options
    refine ⟨_, BuildPlan.launchesInOrder_started ends unique tools options, ?_,
      fun tools' same => ?_⟩
    · rw [rest, startedTools_append, idle, List.nil_append, BuildPlan.startedTools_complete]
    · rw [rest, rest, BuildPlan.complete_congr same]

end Elaboration

end SocAssembly
