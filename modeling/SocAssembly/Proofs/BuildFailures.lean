import Mathlib
import SocAssembly.CommandLine.Execution
import SocAssembly.Proofs.PreparedFiles
import SocAssembly.Proofs.ToolRuns

/-!
# Builds that fail

A build comes to the artifacts last. Before that it writes into the build directory the files of its
plan and the netlist, at locations that are not those of artifacts
(`Artifact.notMem_buildLocations`), and nothing else (`Selection.changesOnly_build`). Until then it
may fail in each of its stages: in choosing the platform, in reading the descriptor, in elaborating,
planning or preparing, for lack of a netlist, or because of a tool (`Selection.BuildFails`). Every
one of these ends it (`Selection.BuildFails.exists_error`).
-/

namespace SocAssembly

open FileTree (AgreesOutside DenotesIn)

/-! ### What a build writes -/

/-- The names of the files that a build writes before it makes artifacts. -/
def buildFileNames : List String := ["top.lpf", "top.ys", "build_top.sh", "top.il"]

/-- The locations that end in such a name. -/
def buildLocations : Set Location := {l | ∃ name ∈ buildFileNames, l.getLast? = some name}

/-- The files of a plan and the netlist beside them are where a build writes. -/
theorem BuildOptions.denotesIn_buildLocations (o : BuildOptions) :
    ∀ path ∈ o.netlistPath :: o.planPaths, DenotesIn buildLocations path := by
  have paths : o.netlistPath :: o.planPaths =
      ["top.il", "top.lpf", "top.ys", "build_top.sh"].map (joinPath o.buildDirectory) := rfl
  have names : ∀ name ∈ ["top.il", "top.lpf", "top.ys", "build_top.sh"],
      name ∈ buildFileNames ∧ IsFileName name := by decide
  rw [paths]
  refine List.forall_mem_map.2 fun name mem t l resolved => ?_
  obtain ⟨known, plain⟩ := names name mem
  exact ⟨name, known, FileTree.getLast?_of_resolve_joinPath plain resolved⟩

/-- No artifact is where a build writes. -/
theorem Artifact.notMem_buildLocations {t : FileTree} {directory : String} {k : ArtifactKind}
    {l : Location} (h : t.resolve (filePath directory k) = .ok l) : l ∉ buildLocations := by
  have plain : IsFileName k.fileName ∧ k.fileName ∉ buildFileNames := by cases k <;> decide
  rintro ⟨name, mem, last⟩
  rw [FileTree.getLast?_of_resolve_joinPath plain.1 h, Option.some.injEq] at last
  exact plain.2 (last ▸ mem)

/-- The artifacts below the build directory are in `u` what they are in `t`: none was made, changed
or removed. -/
def FileTree.KeepsArtifacts (directory : String) (t u : FileTree) : Prop :=
  ∀ k l, t.resolve (Artifact.filePath directory k) = .ok l ∨
    u.resolve (Artifact.filePath directory k) = .ok l → u.file? l = t.file? l

theorem FileTree.AgreesOutside.keepsArtifacts {t u : FileTree}
    (h : AgreesOutside buildLocations t u) (directory : String) :
    t.KeepsArtifacts directory u := by
  rintro k l (resolved | resolved)
  · exact h l (Artifact.notMem_buildLocations resolved)
  · exact h l (Artifact.notMem_buildLocations resolved)

namespace BuildPlan

open Session

/-- A build whose tools are to be run is completed if there is a netlist, and all tools can be
called and end with zero. -/
theorem of_complete {p : BuildPlan} {tools : Tools} {options : BuildOptions} {t : FileTree}
    {products : Option BuildProducts} (wanted : options.skipSynthesis = false)
    (h : ((p.complete tools options).run t).2.outcome = .ok products) :
    t.isFile p.netlistPath = true ∧
      ∀ s ∈ p.steps, CanCall t p.buildDirectory s ∧ tools s.program s.args = some 0 := by
  unfold complete at h
  rw [wanted, if_neg Bool.false_ne_true, run_state_bind] at h
  split at h
  · cases h
  · rename_i there
    obtain ⟨_, ran, -⟩ := outcome_bind_eq_ok_iff.1 h
    exact ⟨by simpa using there,
      fun s mem => call_eq_ok_iff.1 (outcome_runSteps_eq_ok_iff.1 ran s mem)⟩

theorem readsOnly_complete (p : BuildPlan) (tools : Tools) (options : BuildOptions) :
    (p.complete tools options).ReadsOnly := by
  unfold complete
  split
  · exact (ReadsOnly.note _).bind fun _ => .pure _
  · refine ReadsOnly.state.bind fun t => ?_
    split
    · exact .fail _
    · exact (ReadsOnly.ofReport _).bind fun _ => .pure _

end BuildPlan

namespace Elaboration

variable {e : Elaboration} {environment : Dict String} {b : Board} {options : BuildOptions}

/-- A build that is prepared has a plan, its files are written, and the netlist that is named was a
file by then. -/
theorem Prepares.exists_stages {t u : FileTree} {plan : BuildPlan}
    (h : e.Prepares environment b options t plan u) :
    e.plan environment b options = .ok plan ∧ ∃ v, plan.write.Ends t v (.ok ()) ∧
      ∀ netlist, options.netlist = some netlist → v.isFile netlist = true := by
  obtain ⟨planned, v, written, placed⟩ := prepare_ends_ok_iff.1 h
  refine ⟨planned, v, written, fun netlist named => ?_⟩
  unfold placesNamed at placed
  rw [named] at placed
  obtain ⟨content, held, -⟩ := BuildPlan.read_of_placeNetlist placed
  exact FileTree.isFile_iff.2 ⟨content, held⟩

/-- What comes before the artifacts writes where a build writes. -/
theorem changesOnly_build (e : Elaboration) (environment : Dict String) (tools : Tools) (b : Board)
    (options : BuildOptions) :
    (e.build environment tools b options).ChangesOnly buildLocations := by
  have prepared := (e.prepare_rewritesOnly environment b options).changesOnly
    options.denotesIn_buildLocations
  unfold build
  exact prepared.bind fun plan => (plan.readsOnly_complete tools options).changesOnly

end Elaboration

/-! ### What a build comes to before the artifacts -/

section Reading

open Session

theorem readInput_readsOnly (path : String) : (readInput path).ReadsOnly := fun _ => rfl

theorem loadCatalogue_readsOnly : ∀ file, (loadCatalogue file).ReadsOnly
  | none => .pure _
  | some path => (readInput_readsOnly path).bind fun _ =>
      (ReadsOnly.ofExcept _).bind fun _ => .pure _

theorem choosePlatform_readsOnly (s : Selection) : (choosePlatform s).ReadsOnly :=
  (loadCatalogue_readsOnly s.platforms).bind fun _ => (ReadsOnly.ofExcept _).inContext _

theorem loadDescriptor_readsOnly : ∀ file, (loadDescriptor file).ReadsOnly
  | none => .pure _
  | some path => (readInput_readsOnly path).bind fun _ => .ofExcept _

theorem elaborateSelection_readsOnly (s : Selection) : (elaborateSelection s).ReadsOnly := by
  unfold elaborateSelection
  refine (choosePlatform_readsOnly s).bind fun p => ?_
  refine (loadDescriptor_readsOnly s.soc).bind fun d => ?_
  refine (ReadsOnly.ofExcept _).bind fun frequency => (ReadsOnly.note _).bind fun _ => ?_
  exact ((ReadsOnly.ofReport _).inContext _).bind fun _ => .pure _

end Reading

namespace Selection

/-- The elaborated design of a selection, and its board. -/
def Elaborates (s : Selection) (t : FileTree) (b : Board) (e : Elaboration) : Prop :=
  ((elaborateSelection s).run t).2.outcome = .ok (b, e)

/-- Prepares a build of the design of a selection. -/
def prepare (s : Selection) (environment : Dict String) (options : BuildOptions) :
    Session FileTree BuildPlan := do
  let (b, e) ← elaborateSelection s
  e.prepare environment b options

/-- The plan that a build of a selection is prepared with, and the tree after that. -/
def Prepares (s : Selection) (environment : Dict String) (options : BuildOptions) (t : FileTree)
    (plan : BuildPlan) (u : FileTree) : Prop :=
  (s.prepare environment options).Ends t u (.ok plan)

theorem prepares_iff {s : Selection} {environment : Dict String} {options : BuildOptions}
    {t u : FileTree} {plan : BuildPlan} {b : Board} {e : Elaboration} (h : s.Elaborates t b e) :
    s.Prepares environment options t plan u ↔ e.Prepares environment b options t plan u := by
  unfold Prepares prepare Session.Ends
  rw [Session.run_bind_ok h, elaborateSelection_readsOnly s t]
  exact Iff.rfl

/-- Why a build fails before it comes to the artifacts. -/
inductive BuildFails (s : Selection) (environment : Dict String) (tools : Tools)
    (options : BuildOptions) (t : FileTree) : Prop where
  /-- No platform can be chosen. -/
  | platform {err : Error} (failed : ((choosePlatform s).run t).2.outcome = .error err)
  /-- The descriptor cannot be read. -/
  | descriptor {err : Error} (failed : ((loadDescriptor s.soc).run t).2.outcome = .error err)
  /-- The platform has no such clock. -/
  | clock {p : Platform} {d : Descriptor} {err : Error}
      (chosen : ((choosePlatform s).run t).2.outcome = .ok p)
      (described : ((loadDescriptor s.soc).run t).2.outcome = .ok d)
      (failed : p.clockFrequency d.clockDomain = .error err)
  /-- The descriptor cannot be elaborated on the platform. -/
  | elaboration {p : Platform} {d : Descriptor} {err : Error}
      (chosen : ((choosePlatform s).run t).2.outcome = .ok p)
      (described : ((loadDescriptor s.soc).run t).2.outcome = .ok d)
      (failed : ((elaborate d).run p).2.outcome = .error err)
  /-- There is no plan for the board. -/
  | planning {b : Board} {e : Elaboration} {err : Error} (elaborated : s.Elaborates t b e)
      (failed : e.plan environment b options = .error err)
  /-- The netlist that is named is no file. -/
  | namedNetlist {b : Board} {e : Elaboration} {plan : BuildPlan} {u : FileTree}
      {netlist : String} (elaborated : s.Elaborates t b e)
      (planned : e.plan environment b options = .ok plan) (written : plan.write.Ends t u (.ok ()))
      (named : options.netlist = some netlist) (missing : u.isFile netlist = false)
  /-- The build cannot be prepared, be it that its files cannot be written. -/
  | preparation {b : Board} {e : Elaboration} {err : Error} (elaborated : s.Elaborates t b e)
      (failed : ((e.prepare environment b options).run t).2.outcome = .error err)
  /-- The tools are to be run, and there is no netlist for them. -/
  | netlist {plan : BuildPlan} {u : FileTree} (prepared : s.Prepares environment options t plan u)
      (wanted : options.skipSynthesis = false) (missing : u.isFile plan.netlistPath = false)
  /-- One of the tools ends with another status than zero. -/
  | tool {plan : BuildPlan} {u : FileTree} {step : ToolStep} {status : Nat}
      (prepared : s.Prepares environment options t plan u)
      (wanted : options.skipSynthesis = false) (mem : step ∈ plan.steps)
      (ends : tools step.program step.args = some status) (failed : status ≠ 0)
  /-- One of the tools is no program, or cannot be called. -/
  | launch {plan : BuildPlan} {u : FileTree} {step : ToolStep}
      (prepared : s.Prepares environment options t plan u)
      (wanted : options.skipSynthesis = false) (mem : step ∈ plan.steps)
      (failed : tools step.program step.args = none ∨
        ¬ BuildPlan.CanCall u plan.buildDirectory step)

/-- What a build does before it comes to the artifacts. -/
def build (s : Selection) (environment : Dict String) (tools : Tools) (options : BuildOptions) :
    Session FileTree (Option BuildProducts) := do
  let (b, e) ← elaborateSelection s
  e.build environment tools b options

variable {s : Selection} {environment : Dict String} {tools : Tools} {options : BuildOptions}
  {t : FileTree}

theorem changesOnly_build (s : Selection) (environment : Dict String) (tools : Tools)
    (options : BuildOptions) :
    (s.build environment tools options).ChangesOnly buildLocations :=
  (elaborateSelection_readsOnly s).changesOnly.bind fun (b, e) =>
    e.changesOnly_build environment tools b options

theorem Elaborates.exists_stages {b : Board} {e : Elaboration} (h : s.Elaborates t b e) :
    ∃ p d frequency, ((choosePlatform s).run t).2.outcome = .ok p ∧
      ((loadDescriptor s.soc).run t).2.outcome = .ok d ∧
      p.clockFrequency d.clockDomain = .ok frequency ∧
      ((elaborate d).run p).2.outcome = .ok e := by
  unfold Elaborates elaborateSelection at h
  simp only [Session.outcome_bind_eq_ok_iff, choosePlatform_readsOnly s t,
    loadDescriptor_readsOnly s.soc t, Session.run_ofExcept, Session.outcome_inContext_eq_ok_iff,
    Session.run_ofReport] at h
  obtain ⟨p, chosen, d, described, frequency, clocked, _, -, e', elaborated, h⟩ := h
  cases h
  exact ⟨p, d, frequency, chosen, described, clocked, elaborated⟩

/-- What comes before the artifacts succeeds by elaborating, preparing and completing. -/
theorem exists_stages_of_build {products : Option BuildProducts}
    (h : ((s.build environment tools options).run t).2.outcome = .ok products) :
    ∃ b e plan u, s.Elaborates t b e ∧ e.Prepares environment b options t plan u ∧
      ((plan.complete tools options).run u).2.outcome = .ok products := by
  obtain ⟨⟨b, e⟩, elaborated, built⟩ := Session.outcome_bind_eq_ok_iff.1 h
  rw [elaborateSelection_readsOnly s t] at built
  obtain ⟨plan, prepared, completed⟩ := Session.outcome_bind_eq_ok_iff.1 built
  exact ⟨b, e, plan, _, elaborated, ⟨rfl, prepared⟩, completed⟩

/-- What comes before the artifacts fails if one of its stages does. -/
theorem BuildFails.exists_error (h : s.BuildFails environment tools options t) :
    ∃ err, ((s.build environment tools options).run t).2.outcome = .error err := by
  cases outcome : ((s.build environment tools options).run t).2.outcome with
  | error err => exact ⟨err, rfl⟩
  | ok products =>
    exfalso
    obtain ⟨b, e, plan, u, elaborated, preparing, completed⟩ := exists_stages_of_build outcome
    obtain ⟨p, d, frequency, chosen, described, clocked, finished⟩ := elaborated.exists_stages
    obtain ⟨planned, v, written, netlists⟩ := preparing.exists_stages
    have only {plan' u'} (h : s.Prepares environment options t plan' u') : plan' = plan ∧ u' = u :=
      ((prepares_iff elaborated).1 h).right_unique preparing
    cases h with
    | platform failed => cases chosen.symm.trans failed
    | descriptor failed => cases described.symm.trans failed
    | clock chosen' described' failed =>
      cases chosen.symm.trans chosen'
      cases described.symm.trans described'
      cases clocked.symm.trans failed
    | elaboration chosen' described' failed =>
      cases chosen.symm.trans chosen'
      cases described.symm.trans described'
      cases finished.symm.trans failed
    | planning elaborated' failed =>
      cases elaborated.symm.trans elaborated'
      cases planned.symm.trans failed
    | namedNetlist elaborated' planned' written' named missing =>
      cases elaborated.symm.trans elaborated'
      cases planned.symm.trans planned'
      obtain rfl := written.1.symm.trans written'.1
      cases (netlists _ named).symm.trans missing
    | preparation elaborated' failed =>
      cases elaborated.symm.trans elaborated'
      cases preparing.2.symm.trans failed
    | netlist prepared' wanted missing =>
      obtain ⟨rfl, rfl⟩ := only prepared'
      cases (BuildPlan.of_complete wanted completed).1.symm.trans missing
    | tool prepared' wanted mem ends failed =>
      obtain ⟨rfl, rfl⟩ := only prepared'
      have ended := ((BuildPlan.of_complete wanted completed).2 _ mem).2
      exact failed (Option.some.inj (ends.symm.trans ended))
    | launch prepared' wanted mem failed =>
      obtain ⟨rfl, rfl⟩ := only prepared'
      obtain ⟨callable, ended⟩ := (BuildPlan.of_complete wanted completed).2 _ mem
      rcases failed with missing | uncallable
      · cases ended.symm.trans missing
      · exact uncallable callable

end Selection

end SocAssembly
