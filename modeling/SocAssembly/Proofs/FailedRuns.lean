import Mathlib
import SocAssembly.Proofs.BuildFailures

/-!
# Runs that fail

A command prints when nothing can fail any more (`Console.Prudent`), so a run that fails has printed
nothing. If it is a build that fails before it comes to the artifacts, these are as they were, and
the tools that were started by then were started in order. What reads the filter of the log is left
open: a filter that it cannot read ends the run before anything is done, and nothing else that it
makes of a filter matters here. What a caller can rely on is collected in `Command.RunsOrderly`.
-/

namespace SocAssembly

/-! ### At a console -/

namespace Console

variable {α β : Type}

/-- The session prints nothing. -/
def Silent (x : Session Console α) : Prop := ∀ c, (x.run c).1.printed = c.printed

/-- The session has printed nothing when it fails. -/
def Prudent (x : Session Console α) : Prop :=
  ∀ c e, (x.run c).2.outcome = .error e → (x.run c).1.printed = c.printed

theorem silent_onFiles (x : Session FileTree α) : Silent (onFiles x) := fun _ => rfl

theorem silent_note (n : Notice) : Silent (.note n) := fun _ => rfl

theorem silent_ofReport (r : Report α) : Silent (.ofReport r) := fun _ => rfl

theorem Silent.map {x : Session Console α} (h : Silent x) (f : α → β) : Silent (f <$> x) := by
  intro c
  rw [Session.run_map]
  exact h c

theorem onFiles_run_congr {x x' : Session FileTree α} {c : Console}
    (h : x'.run c.tree = x.run c.tree) : (onFiles x').run c = (onFiles x).run c := by
  unfold Session.run onFiles
  rw [h]

/-- What is silent may stand in front. -/
theorem Silent.bind {x : Session Console α} {next : α → Session Console β} (h : Silent x)
    (hnext : ∀ a, Prudent (next a)) : Prudent (x >>= next) := by
  intro c e failed
  cases hx : (x.run c).2.outcome with
  | error e' =>
    rw [Session.run_bind_error hx]
    exact h c
  | ok a =>
    rw [Session.run_bind_ok hx] at failed ⊢
    exact (hnext a _ e failed).trans (h c)

/-- What never fails is prudent. -/
theorem prudent_of_succeeds {x : Session Console α} (h : ∀ c, ∃ a, (x.run c).2.outcome = .ok a) :
    Prudent x := by
  intro c e failed
  obtain ⟨a, ok⟩ := h c
  cases ok.symm.trans failed

theorem prudent_print (text : String) : Prudent (print text) :=
  prudent_of_succeeds fun _ => ⟨(), rfl⟩

theorem prudent_printLine (line : String) : Prudent (printLine line) :=
  prudent_print (line ++ "\n")

/-- Lines are printed to the end. -/
theorem prudent_printLines (lines : List String) : Prudent (printLines lines) := by
  refine prudent_of_succeeds fun c => ⟨(), ?_⟩
  induction lines generalizing c with
  | nil => rfl
  | cons line rest ih =>
    rw [printLines, Session.run_bind_ok rfl]
    exact ih _

theorem onFiles_ends {x : Session FileTree α} {c : Console} {t : FileTree}
    {outcome : Except Error α} (h : x.Ends c.tree t outcome) :
    (onFiles x).Ends c { c with tree := t } outcome := by
  obtain ⟨rfl, rfl⟩ := h
  exact ⟨rfl, rfl⟩

theorem onFiles_idle {x : Session FileTree α} (h : x.Idle) : (onFiles x).Idle := fun c => h c.tree

theorem print_idle (text : String) : (print text).Idle := .modify _

end Console

namespace Command

open Console

/-- No command prints anything before it has succeeded. -/
theorem prudent_execute (environment : Dict String) (tools : Tools) (c : Command) :
    Prudent (c.execute environment tools) := by
  cases c with
  | build s options =>
    refine (silent_onFiles _).bind fun (b, e) => ?_
    unfold buildElaborated
    refine (silent_note _).bind fun _ => ?_
    refine (silent_onFiles _).bind fun products => (silent_ofReport _).bind fun _ => ?_
    refine ((silent_onFiles _).map _).bind fun _ => ?_
    split
    · exact (silent_note _).bind fun _ => prudent_printLine _
    · exact prudent_printLine _
  | generate s directory =>
    refine (silent_onFiles _).bind fun (b, e) => (silent_ofReport _).bind fun _ => ?_
    exact (silent_onFiles _).bind fun artifacts => prudent_printLines _
  | map s json =>
    refine (silent_onFiles _).bind fun (b, e) => ?_
    dsimp only
    split
    · exact prudent_printLine _
    · exact prudent_print _
  | platforms file => exact (silent_onFiles _).bind fun catalogue => prudent_printLines _

end Command

/-! ### Sessions without tools -/

section Idle

open Session

theorem loadCatalogue_idle : ∀ file, (loadCatalogue file).Idle
  | none => .pure _
  | some path => (Idle.of_nil fun _ => rfl : (readInput path).Idle).bind fun _ =>
      (Idle.ofExcept _).bind fun _ => .pure _

theorem loadDescriptor_idle : ∀ file, (loadDescriptor file).Idle
  | none => .pure _
  | some path => (Idle.of_nil fun _ => rfl : (readInput path).Idle).bind fun _ => .ofExcept _

theorem elaborateSelection_idle (s : Selection) : (elaborateSelection s).Idle := by
  have chosen : (choosePlatform s).Idle :=
    (loadCatalogue_idle s.platforms).bind fun _ => (Idle.ofExcept _).inContext _
  unfold elaborateSelection
  refine chosen.bind fun p => (loadDescriptor_idle s.soc).bind fun d => ?_
  refine (Idle.ofExcept _).bind fun frequency => Idle.bind (.note rfl) fun _ => ?_
  exact ((Idle.ofReport (elaborate_idle d p)).inContext _).bind fun _ => .pure _

theorem noteSummary_idle (d : Design) : (noteSummary d).Tells Notice.IsIdle := by
  intro n hn
  obtain ⟨line, -, rfl⟩ := List.mem_map.1 hn
  rfl

theorem generateArtifacts_idle (d : Design) (directory : String) :
    (generateArtifacts d directory).Idle := by
  have each (k : ArtifactKind) : (Artifact.generate d directory k).Idle := by
    unfold Artifact.generate
    refine (makeDirectories_idle _).bind fun _ => Idle.bind (.note rfl) fun _ => ?_
    exact (Idle.ofExcept _).bind fun _ => (writeFile_idle _ _).bind fun _ => .pure _
  have all (ks : List ArtifactKind) : (Artifact.generateEach d directory ks).Idle := by
    induction ks with
    | nil => exact .pure []
    | cons k rest ih => exact (each k).bind fun _ => ih.bind fun _ => .pure _
  exact (all ArtifactKind.all).inContext _

end Idle

/-! ### A build -/

namespace Command

open Console

variable {environment : Dict String} {tools tools' : Tools} {s : Selection}
  {options : BuildOptions} {c : Console}

/-- A build that fails before it comes to the artifacts leaves the files as they are by then. -/
theorem exists_execute_build_error {e : Error}
    (h : ((s.build environment tools options).run c.tree).2.outcome = .error e) :
    ∃ e', ((build s options).execute environment tools).Ends c
      { c with tree := ((s.build environment tools options).run c.tree).1 } (.error e') := by
  have noted (c : Console) : (Session.note .buildStarted).Ends c c (.ok ()) := ⟨rfl, rfl⟩
  rcases Session.outcome_bind_eq_error h with failed | ⟨⟨b, el⟩, elaborated, failed⟩
  · refine ⟨e, ?_⟩
    rw [Selection.build, Session.run_bind_error failed]
    exact (onFiles_ends ⟨rfl, failed⟩).bind_error
  · refine ⟨.inContext "synthesis failed" e, ?_⟩
    rw [Selection.build, Session.run_bind_ok elaborated]
    refine (onFiles_ends ⟨rfl, elaborated⟩).bind ((noted _).bind ?_)
    exact (onFiles_ends (Session.Ends.inContext_error ⟨rfl, failed⟩ _)).bind_error

/-- Nothing but the build itself starts tools. -/
theorem startedTools_buildElaborated (b : Board) (e : Elaboration) (c : Console) :
    startedTools ((buildElaborated environment tools options b e).run c).2.notices =
      startedTools ((e.build environment tools b options).run c.tree).2.notices := by
  unfold buildElaborated
  have started : (Session.note .buildStarted : Session Console Unit).Idle := .note rfl
  rw [started.startedTools_bind rfl]
  refine Session.Idle.startedTools_bind_idle _ (fun products => ?_) _
  refine (Session.Idle.ofReport (noteSummary_idle e.design)).bind fun _ => ?_
  have generated := generateArtifacts_idle e.design options.buildDirectory
  refine (onFiles_idle generated).map.bind fun _ => ?_
  split
  · exact Session.Idle.bind (.note rfl) fun _ => print_idle _
  · exact print_idle _

/-- Tools that build alike run alike. -/
theorem buildElaborated_congr {b : Board} {e : Elaboration}
    (same : (e.build environment tools' b options).run c.tree =
      (e.build environment tools b options).run c.tree) :
    (buildElaborated environment tools' options b e).run c =
      (buildElaborated environment tools options b e).run c := by
  have built :
      (onFiles ((e.build environment tools' b options).inContext "synthesis failed")).run c =
      (onFiles ((e.build environment tools b options).inContext "synthesis failed")).run c := by
    refine onFiles_run_congr ?_
    rw [Session.run_inContext, Session.run_inContext, same]
  unfold buildElaborated
  rw [Session.run_note_bind, Session.run_note_bind, Session.run_bind_congr built]

/-- A build starts tools in order, whether it fails or not, and depends on no tool that it does not
start. -/
theorem exists_launchesInOrder_execute (environment : Dict String) (tools : Tools) (s : Selection)
    (options : BuildOptions) (c : Console) : ∃ launched,
      LaunchesInOrder tools options (s.Prepares environment options c.tree) launched ∧
      startedTools (((build s options).execute environment tools).run c).2.notices =
        launched.map (·.program) ∧
      ∀ tools', (∀ step ∈ launched, tools' step.program step.args = tools step.program step.args) →
        ((build s options).execute environment tools').run c =
          ((build s options).execute environment tools).run c := by
  have idle := onFiles_idle (elaborateSelection_idle s)
  have kept : ((onFiles (elaborateSelection s)).run c).1 = c :=
    congrArg (fun t => { c with tree := t }) (elaborateSelection_readsOnly s c.tree)
  unfold execute
  cases selected : ((onFiles (elaborateSelection s)).run c).2.outcome with
  | error err =>
    have unprepared : ∀ plan u, ¬ s.Prepares environment options c.tree plan u := by
      rintro plan u ⟨-, prepared⟩
      obtain ⟨_, elaborated, -⟩ := Session.outcome_bind_eq_ok_iff.1 prepared
      cases elaborated.symm.trans selected
    refine ⟨[], .of_unprepared tools options unprepared, ?_, fun tools' _ => ?_⟩
    · rw [Session.run_bind_error selected]
      exact startedTools_eq_nil (idle c)
    · rw [Session.run_bind_error selected, Session.run_bind_error selected]
  | ok result =>
    obtain ⟨b, e⟩ := result
    have elaborated : s.Elaborates c.tree b e := selected
    obtain ⟨launched, ordered, started, congr⟩ :=
      e.exists_launchesInOrder environment tools b options c.tree
    have only :
        s.Prepares environment options c.tree = e.Prepares environment b options c.tree := by
      funext plan u
      exact propext (Selection.prepares_iff elaborated)
    refine ⟨launched, only ▸ ordered, ?_, fun tools' same => ?_⟩
    · rw [idle.startedTools_bind selected, kept, ← started]
      exact startedTools_buildElaborated b e c
    · rw [Session.run_bind_ok selected, Session.run_bind_ok selected, kept]
      dsimp only
      rw [buildElaborated_congr (congr tools' same)]

end Command

/-! ### The program -/

section Program

variable {read : FilterReader} {environment : Dict String} {tools : Tools} {args : List String}
  {t : FileTree} {c : Command}

/-- The reader can read the filter of the environment. -/
def FilterReader.Reads (read : FilterReader) (environment : Dict String) : Prop :=
  (read (LogFilter.textIn environment)).shows? ≠ none

/-- A filter that cannot be read ends the run before anything is done. -/
theorem runProgramWith_of_unread (tools : Tools) (args : List String) (t : FileTree)
    (h : ¬ read.Reads environment) : runProgramWith read environment tools args t =
      (t, ⟨101, "", Text.unlines (read (LogFilter.textIn environment)).complaints, []⟩) := by
  unfold runProgramWith
  dsimp only
  rw [not_not.1 h]

/-- Otherwise the program ends as its command does. -/
theorem exists_runProgramWith (tools : Tools) (t : FileTree) (readable : read.Reads environment)
    (h : Command.ofArguments environment args = .ok c) :
    ∃ complaint, runProgramWith read environment tools args t =
      (((c.execute environment tools).run { tree := t }).1.tree,
        ⟨if ((c.execute environment tools).run { tree := t }).2.outcome.isOk then 0 else 1,
          ((c.execute environment tools).run { tree := t }).1.printed, complaint,
          ((c.execute environment tools).run { tree := t }).2.notices⟩) := by
  obtain ⟨shows, reads⟩ := Option.ne_none_iff_exists'.1 readable
  unfold runProgramWith
  dsimp only
  rw [reads, h]
  dsimp only
  cases ((c.execute environment tools).run { tree := t }).2.outcome with
  | ok => exact ⟨_, rfl⟩
  | error e => exact ⟨_, rfl⟩

theorem runProgramWith_congr {tools' : Tools} (h : Command.ofArguments environment args = .ok c)
    (same : (c.execute environment tools').run { tree := t } =
      (c.execute environment tools).run { tree := t }) :
    runProgramWith read environment tools' args t =
      runProgramWith read environment tools args t := by
  unfold runProgramWith
  rw [h]
  dsimp only
  rw [same]

/-- A run that fails has printed nothing. -/
theorem output_eq_empty_of_status (h : Command.ofArguments environment args = .ok c)
    (failed : (runProgramWith read environment tools args t).2.status = 1) :
    (runProgramWith read environment tools args t).2.output = "" := by
  by_cases readable : read.Reads environment
  · obtain ⟨complaint, run⟩ := exists_runProgramWith tools t readable h
    rw [run] at failed ⊢
    cases outcome : ((c.execute environment tools).run { tree := t }).2.outcome with
    | ok => simp [outcome, Except.isOk, Except.toBool] at failed
    | error e => exact c.prudent_execute environment tools { tree := t } e outcome
  · rw [runProgramWith_of_unread tools args t readable]

section Build

variable {s : Selection} {options : BuildOptions}

/-- A build that fails before it comes to the artifacts ends the program with status one, and the
files stay as they are by then. -/
theorem exists_runProgramWith_of_buildFails
    (h : Command.ofArguments environment args = .ok (.build s options))
    (readable : read.Reads environment) (fails : s.BuildFails environment tools options t) :
    ∃ printed complaint notices, runProgramWith read environment tools args t =
      (((s.build environment tools options).run t).1, ⟨1, printed, complaint, notices⟩) := by
  obtain ⟨complaint, run⟩ := exists_runProgramWith tools t readable h
  obtain ⟨e, failed⟩ := fails.exists_error
  obtain ⟨e', ends⟩ := Command.exists_execute_build_error (c := { tree := t }) failed
  rw [run, ends.2, ends.1]
  exact ⟨_, _, _, rfl⟩

theorem status_of_buildFails (h : Command.ofArguments environment args = .ok (.build s options))
    (readable : read.Reads environment) (fails : s.BuildFails environment tools options t) :
    (runProgramWith read environment tools args t).2.status = 1 := by
  obtain ⟨printed, complaint, notices, run⟩ := exists_runProgramWith_of_buildFails h readable fails
  rw [run]

theorem keepsArtifacts_of_buildFails
    (h : Command.ofArguments environment args = .ok (.build s options))
    (fails : s.BuildFails environment tools options t) :
    t.KeepsArtifacts options.buildDirectory (runProgramWith read environment tools args t).1 := by
  by_cases readable : read.Reads environment
  · obtain ⟨printed, complaint, notices, run⟩ :=
      exists_runProgramWith_of_buildFails h readable fails
    rw [run]
    exact (s.changesOnly_build environment tools options t).keepsArtifacts _
  · rw [runProgramWith_of_unread tools args t readable]
    exact (FileTree.AgreesOutside.refl t).keepsArtifacts _

theorem exists_launchesInOrder_runProgramWith
    (h : Command.ofArguments environment args = .ok (.build s options))
    (readable : read.Reads environment) : ∃ launched,
      startedTools (runProgramWith read environment tools args t).2.notices =
        launched.map (·.program) ∧
      LaunchesInOrder tools options (s.Prepares environment options t) launched ∧
      ∀ tools', (∀ step ∈ launched, tools' step.program step.args = tools step.program step.args) →
        runProgramWith read environment tools' args t =
          runProgramWith read environment tools args t := by
  obtain ⟨complaint, run⟩ := exists_runProgramWith tools t readable h
  obtain ⟨launched, ordered, started, congr⟩ :=
    Command.exists_launchesInOrder_execute environment tools s options { tree := t }
  refine ⟨launched, ?_, ordered, fun tools' same => runProgramWith_congr h (congr tools' same)⟩
  rw [run]
  exact started

end Build

namespace Command

/-- What a caller can rely on when the program is run with arguments that stand for the command. -/
structure RunsOrderly (c : Command) (read : FilterReader) (environment : Dict String)
    (tools : Tools) (args : List String) (t : FileTree) : Prop where
  /-- A run that fails has printed nothing. -/
  silent : (runProgramWith read environment tools args t).2.status = 1 →
    (runProgramWith read environment tools args t).2.output = ""
  /-- A build that fails before it comes to the artifacts fails with status one, if the filter can
  be read. -/
  failed : read.Reads environment → ∀ s options, c = build s options →
    s.BuildFails environment tools options t →
    (runProgramWith read environment tools args t).2.status = 1
  /-- It leaves all artifacts as they were. -/
  kept : ∀ s options, c = build s options → s.BuildFails environment tools options t →
    t.KeepsArtifacts options.buildDirectory (runProgramWith read environment tools args t).1
  /-- A build starts tools in order, if the filter can be read, and the run depends on no tool that
  is not started. -/
  launched : read.Reads environment → ∀ s options, c = build s options → ∃ launched,
    startedTools (runProgramWith read environment tools args t).2.notices =
      launched.map (·.program) ∧
    LaunchesInOrder tools options (s.Prepares environment options t) launched ∧
    ∀ tools', (∀ step ∈ launched, tools' step.program step.args = tools step.program step.args) →
      runProgramWith read environment tools' args t = runProgramWith read environment tools args t
  /-- If the filter cannot be read, nothing is done at all: nothing is printed, no file is changed
  and no tool is started, whatever the tools are. -/
  unread : ¬ read.Reads environment → ∃ complaint, ∀ tools',
    runProgramWith read environment tools' args t = (t, ⟨101, "", complaint, []⟩)

/-- **Failing runs are orderly.** Whatever the environment, the tools and the files, and whatever
reads the filter. -/
theorem runsOrderly (h : ofArguments environment args = .ok c) :
    c.RunsOrderly read environment tools args t where
  silent := output_eq_empty_of_status h
  failed := by
    rintro readable s options rfl fails
    exact status_of_buildFails h readable fails
  kept := by
    rintro s options rfl fails
    exact keepsArtifacts_of_buildFails h fails
  launched := by
    rintro readable s options rfl
    exact exists_launchesInOrder_runProgramWith h readable
  unread unread := ⟨_, fun tools' => runProgramWith_of_unread tools' args t unread⟩

/-- A place with a netlist and an artifact of an earlier build. -/
def earlierBuild : FileTree where
  nodes := [(["build"], .directory), (["build", "top.il"], .file "module"),
    (["build", "genc"], .directory), (["build", "genc", "soc.ld"], .file "older")]

/-- An environment that chooses the platform. -/
def choosingCynthion : Dict String := .ofList [(platformVariable, "cynthion")]

/-- Tools of which the one that places and routes fails. -/
def failingRouter : Tools := fun program _ => if program = "nextpnr-ecp5" then some 1 else some 0

/-- The second of three tools fails. -/
theorem runsOrderly_failingRouter :
    ofArguments choosingCynthion ["build"] = .ok (build { platform := some "cynthion" } {}) ∧
    ∃ run, runProgram choosingCynthion failingRouter ["build"] earlierBuild = run ∧
      run.2.status = 1 ∧ run.2.output = "" ∧
      startedTools run.2.notices = ["yosys", "nextpnr-ecp5"] ∧
      run.1.file? ["build", "genc", "soc.ld"] = some "older" := by
  let s : Selection := { platform := some "cynthion" }
  have read : ofArguments choosingCynthion ["build"] = .ok (build s {}) := by decide +kernel
  have orderly : (build s {}).RunsOrderly LogFilter.reader choosingCynthion failingRouter ["build"]
      earlierBuild := runsOrderly read
  have readable : LogFilter.reader.Reads choosingCynthion := by
    unfold FilterReader.Reads LogFilter.reader
    decide +kernel
  -- the build is prepared with three tools, in a tree with the netlist
  have outcome : ((s.prepare choosingCynthion {}).run earlierBuild).2.outcome.map (fun plan =>
      (plan.steps.map (·.program), plan.steps.all BuildPlan.callable, plan.buildDirectory,
        plan.netlistPath)) =
      .ok (["yosys"] ++ "nextpnr-ecp5" :: ["ecppack"], true, "build", "build/top.il") := by
    decide +kernel
  have netlist : ((s.prepare choosingCynthion {}).run earlierBuild).1.isFile "build/top.il" := by
    decide +kernel
  have entered : (((s.prepare choosingCynthion {}).run earlierBuild).1.enter "build").isOk := by
    decide +kernel
  obtain ⟨plan, ok, eq⟩ := exists_of_except_map_eq_ok outcome
  simp only [Prod.mk.injEq, List.all_eq_true] at eq
  obtain ⟨programs, callable, directory, path⟩ := eq
  have prepared : s.Prepares choosingCynthion {} earlierBuild plan _ := ⟨rfl, ok⟩
  obtain ⟨before, _, steps, first, more⟩ := List.map_eq_append_iff.1 programs
  obtain ⟨router, rest, rfl, routes, -⟩ := List.map_eq_cons_iff.1 more
  have fails : failingRouter router.program router.args = some 1 := by simp [failingRouter, routes]
  have failed : s.BuildFails choosingCynthion failingRouter {} earlierBuild :=
    .tool prepared rfl (steps ▸ by simp) fails (by decide)
  have status := orderly.failed readable s {} rfl failed
  obtain ⟨launched, started, inOrder, -⟩ := orderly.launched readable s {} rfl
  have ended : ∀ b ∈ before, BuildPlan.CanCall ((s.prepare choosingCynthion {}).run earlierBuild).1
      plan.buildDirectory b ∧ failingRouter b.program b.args = some 0 := by
    intro b mem
    have named : b.program = "yosys" := by
      simpa [first] using List.mem_map_of_mem (f := ToolStep.program) mem
    refine ⟨⟨callable b (steps ▸ List.mem_append_left _ mem), ?_⟩, by simp [failingRouter, named]⟩
    rw [directory]
    exact except_isOk_iff.1 entered
  have all : launched = before ++ [router] :=
    inOrder.eq_of_failed rfl prepared (path ▸ netlist) steps ended (by simp [fails])
  have kept := orderly.kept s {} rfl failed .linkerScript ["build", "genc", "soc.ld"]
    (Or.inl (by decide +kernel))
  refine ⟨read, _, rfl, status, orderly.silent status, ?_, kept.trans (by decide)⟩
  rw [runProgram, started, all, List.map_append, first]
  simp [routes]

/-- An environment whose filter would be cut inside a letter. -/
def cutLetter : Dict String := .ofList [(LogFilter.variableName, " é=info")]

/-- A build without a platform does not end with status one if the filter cannot be read. -/
theorem status_cutLetter : ofArguments cutLetter ["build"] = .ok (build {} {}) ∧
    Selection.BuildFails {} cutLetter (fun _ _ => some 0) {} {} ∧
    (runProgram cutLetter (fun _ _ => some 0) ["build"] {}).2.status = 101 := by
  have unread : ¬ LogFilter.reader.Reads cutLetter := by
    unfold FilterReader.Reads LogFilter.reader
    decide +kernel
  refine ⟨by decide +kernel, .platform rfl, ?_⟩
  rw [runProgram, runProgramWith_of_unread _ _ _ unread]

end Command

end Program

end SocAssembly
