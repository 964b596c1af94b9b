import Mathlib
import SocAssembly.Build.Run
import SocAssembly.Proofs.GrowingTrees
import SocAssembly.Proofs.ScriptReading

/-!
# The files of a prepared build

Preparing a build writes the files of the plan and then puts the netlist beside them. The netlist is
read after the plan has been written, so what its path denotes must survive that: the plan's files
and the netlist's place in the build directory have different names, and no path loses its meaning
when files are written or directories are made. Copying a file onto itself would lose it, and it is
avoided by comparing locations, which decides for every spelling of a path whether it denotes the
place that is copied to (`BuildPlan.read_of_placeNetlist`).

So the netlist of a prepared build is the one that was named, as it was before
(`Elaboration.preparesFiles`). If no netlist is named, or the one that is named is no file, then
only the files of the plan are written.
-/

namespace SocAssembly

open FileTree (Rewrites)

/-! ### The paths of a build -/

namespace BuildOptions

/-- The paths of the files of a plan. -/
def planPaths (o : BuildOptions) : List String :=
  ["top.lpf", "top.ys", "build_top.sh"].map (joinPath o.buildDirectory)

/-- The path of the netlist in the build directory. -/
def netlistPath (o : BuildOptions) : String := joinPath o.buildDirectory "top.il"

/-- The netlist in the build directory is none of the files of a plan. -/
theorem resolve_netlistPath_ne (o : BuildOptions) {t u : FileTree} {l : Location} {path : String}
    (mem : path ∈ o.planPaths) (denoted : t.resolve path = .ok l) :
    u.resolve o.netlistPath ≠ .ok l := by
  have names : ∀ name ∈ ["top.lpf", "top.ys", "build_top.sh"],
      IsFileName name ∧ name ≠ "top.il" := by decide
  obtain ⟨name, hname, rfl⟩ := List.mem_map.1 mem
  obtain ⟨plain, ne⟩ := names name hname
  exact FileTree.resolve_joinPath_ne plain (by decide) ne denoted

end BuildOptions

namespace BuildPlan

variable {p : BuildPlan} {t u : FileTree} {directory netlist : String} {e : Error}

/-! ### Writing the plan -/

theorem writeFiles_rewritesOnly (directory : String) (files : List PlanFile) :
    (writeFiles directory files).RewritesOnly
      (files.map fun f => joinPath directory f.name) := by
  induction files with
  | nil => exact .of_readsOnly (.pure ())
  | cons f rest ih =>
    unfold writeFiles
    refine Session.RewritesOnly.bind (.of_readsOnly (.note _)) fun _ => ?_
    have first := Session.writeFile_rewritesOnly (joinPath directory f.name) f.content
    exact (first.mono (by simp)).bind fun _ => ih.mono (by simp)

theorem write_rewritesOnly (p : BuildPlan) :
    p.write.RewritesOnly (p.files.map fun f => joinPath p.buildDirectory f.name) := by
  unfold write
  refine Session.RewritesOnly.bind ?_ fun _ => writeFiles_rewritesOnly p.buildDirectory p.files
  exact (Session.makeDirectories_rewritesOnly _).mono (List.nil_subset _)

/-- Files of different names hold what was written, each its own text. -/
theorem read_of_writeFiles {files : List PlanFile} (plain : ∀ f ∈ files, IsFileName f.name)
    (nodup : (files.map PlanFile.name).Nodup)
    (ends : (writeFiles directory files).Ends t u (.ok ())) :
    ∀ f ∈ files, u.read (joinPath directory f.name) = .ok f.content := by
  induction files generalizing t with
  | nil => exact List.forall_mem_nil _
  | cons f rest ih =>
    obtain ⟨hf, plain⟩ := List.forall_mem_cons.1 plain
    obtain ⟨fresh, nodup⟩ := List.nodup_cons.1 nodup
    simp only [writeFiles, Session.ends_bind_ok_iff, Session.ends_note_ok_iff,
      Session.writeFile_ends_ok_iff] at ends
    obtain ⟨_, _, rfl, _, s, written, ends⟩ := ends
    refine List.forall_mem_cons.2 ⟨?_, ih plain nodup ends⟩
    -- the files behind it have other names, so they leave the first one alone
    have others := (writeFiles_rewritesOnly directory rest).rewrites ends
    refine others.read_eq_ok (FileTree.read_of_write written) fun path mem l denoted => ?_
    obtain ⟨g, hg, rfl⟩ := List.mem_map.1 mem
    have ne : g.name ≠ f.name := fun same => fresh (same ▸ List.mem_map_of_mem hg)
    exact FileTree.resolve_joinPath_ne (plain g hg) hf ne denoted

theorem read_of_write (plain : ∀ f ∈ p.files, IsFileName f.name)
    (nodup : (p.files.map PlanFile.name).Nodup) (ends : p.write.Ends t u (.ok ())) :
    ∀ f ∈ p.files, u.read (joinPath p.buildDirectory f.name) = .ok f.content := by
  obtain ⟨_, s, -, ends⟩ := Session.ends_bind_ok_iff.1 ends
  exact read_of_writeFiles plain nodup ends

theorem exists_fault_of_writeFiles {files : List PlanFile}
    (ends : (writeFiles directory files).Ends t u (.error e)) : ∃ fault, e = .fileAccess fault := by
  induction files generalizing t with
  | nil => exact (Session.ends_pure_error_iff.1 ends).elim
  | cons f rest ih =>
    simp only [writeFiles, Session.ends_bind_error_iff, Session.ends_note_ok_iff,
      Session.ends_note_error_iff, Session.writeFile_ends_error_iff, false_or] at ends
    obtain ⟨_, _, rfl, ⟨fault, -, -, rfl⟩ | ⟨_, s, -, ends⟩⟩ := ends
    · exact ⟨fault, rfl⟩
    · exact ih ends

/-- A plan that cannot be written fails for a directory or a file. -/
theorem exists_fault_of_write (ends : p.write.Ends t u (.error e)) :
    ∃ fault, e = .fileAccess fault := by
  rcases Session.ends_bind_error_iff.1 ends with ends | ⟨_, s, -, ends⟩
  · obtain ⟨fault, -, rfl⟩ := Session.makeDirectories_ends_error_iff.1 ends
    exact ⟨fault, rfl⟩
  · exact exists_fault_of_writeFiles ends

/-! ### Placing the netlist -/

theorem placeNetlist_rewritesOnly (p : BuildPlan) (netlist : String) :
    (p.placeNetlist netlist).RewritesOnly [p.netlistPath] := by
  unfold placeNetlist
  refine Session.RewritesOnly.bind (.of_readsOnly .state) fun t => ?_
  split
  · exact .of_readsOnly (.fail _)
  · split
    · exact .of_readsOnly (.note _)
    · exact Session.copyFile_rewritesOnly netlist p.netlistPath

/-- Two paths denote one place if they denote one location, whatever their spelling. -/
theorem samePlace_iff {a b : String} :
    samePlace t a b = true ↔ ∃ l, t.resolve a = .ok l ∧ t.resolve b = .ok l := by
  unfold samePlace
  cases t.resolve a <;> cases t.resolve b <;> simp [eq_comm]

/-- The netlist is in its place when it has been put there, and was read where it was named. -/
theorem read_of_placeNetlist (ends : (p.placeNetlist netlist).Ends t u (.ok ())) :
    ∃ content, t.read netlist = .ok content ∧ u.read p.netlistPath = .ok content := by
  unfold placeNetlist at ends
  rw [Session.ends_state_bind_iff] at ends
  split at ends
  · exact (Session.ends_fail_ok_iff.1 ends).elim
  rename_i there
  obtain ⟨content, held⟩ := FileTree.isFile_iff.1 (by simpa using there)
  refine ⟨content, held, ?_⟩
  obtain ⟨l, denoted, hl⟩ := FileTree.read_eq_ok_iff.1 held
  split at ends
  · -- it is in its place already
    rename_i same
    obtain rfl := Session.ends_note_ok_iff.1 ends
    obtain ⟨k, hk, target⟩ := samePlace_iff.1 (Bool.and_eq_true_iff.1 same).2
    obtain rfl := Except.ok.inj (denoted.symm.trans hk)
    exact FileTree.read_eq_ok_iff.2 ⟨l, target, hl⟩
  · -- it is copied from another place, since a file in the same place would have been found there
    rename_i other
    rw [Session.copyFile_ends_ok_iff] at ends
    refine FileTree.read_of_copy held (fun k hk target => other ?_) ends
    obtain rfl := Except.ok.inj (denoted.symm.trans hk)
    have found := FileTree.isFile_iff.2 ⟨content, FileTree.read_eq_ok_iff.2 ⟨l, target, hl⟩⟩
    rw [found, samePlace_iff.2 ⟨l, denoted, target⟩]
    rfl

/-- A netlist is missing exactly if what is named is no file; then nothing is done. -/
theorem placeNetlist_ends_missing_iff {other : String} :
    (p.placeNetlist netlist).Ends t u (.error (.missingNetlist other)) ↔
      t = u ∧ netlist = other ∧ t.isFile netlist = false := by
  unfold placeNetlist
  rw [Session.ends_state_bind_iff]
  split
  · rename_i missing
    rw [Session.ends_fail_error_iff, Error.missingNetlist.injEq]
    simp_all
  · rename_i there
    have there : t.isFile netlist = true := by simpa using there
    refine iff_of_false (fun ends => ?_) fun h => by simp [there] at h
    split at ends
    · exact (Session.ends_note_error_iff.1 ends).elim
    · obtain ⟨fault, -, same⟩ := Session.copyFile_ends_error_iff.1 ends
      cases same

end BuildPlan

/-! ### Preparing -/

namespace Elaboration

variable {e : Elaboration} {environment : Dict String} {b : Board} {options : BuildOptions}
  {t u : FileTree} {plan : BuildPlan}

/-- The files of a plan have the names that they are known by, in the directory of the build. -/
theorem names_eq_of_plan (planned : e.plan environment b options = .ok plan) :
    plan.buildDirectory = options.buildDirectory ∧
      plan.files.map PlanFile.name = ["top.lpf", "top.ys", "build_top.sh"] := by
  unfold Elaboration.plan at planned
  obtain ⟨device, -, planned⟩ := except_bind_eq_ok_iff.1 planned
  cases planned
  exact ⟨rfl, rfl⟩

theorem paths_eq_of_plan (planned : e.plan environment b options = .ok plan) :
    (plan.files.map fun f => joinPath plan.buildDirectory f.name) = options.planPaths := by
  obtain ⟨directory, names⟩ := names_eq_of_plan planned
  rw [directory, BuildOptions.planPaths, ← names, List.map_map]
  rfl

theorem netlistPath_eq_of_plan (planned : e.plan environment b options = .ok plan) :
    plan.netlistPath = options.netlistPath := by
  rw [BuildPlan.netlistPath, (names_eq_of_plan planned).1]
  rfl

theorem plan_ne_missingNetlist {netlist : String} :
    e.plan environment b options ≠ .error (.missingNetlist netlist) := by
  unfold Elaboration.plan deviceFlag
  split <;> simp [bind, Except.bind, pure, Except.pure]

/-- What is done with the netlist that is named, if one is. -/
def placesNamed (options : BuildOptions) (plan : BuildPlan) : Session FileTree Unit :=
  match options.netlist with
  | some netlist => plan.placeNetlist netlist
  | none => pure ()

theorem prepare_eq (e : Elaboration) (environment : Dict String) (b : Board)
    (options : BuildOptions) : e.prepare environment b options = (do
      let plan ← .ofExcept (e.plan environment b options)
      plan.write
      placesNamed options plan
      .note (.buildPrepared plan.buildDirectory)
      pure plan) := by
  unfold prepare placesNamed
  cases options.netlist <;> rfl

/-- A build is prepared if it is planned, the plan is written, and the netlist that is named is
placed. -/
theorem prepare_ends_ok_iff : (e.prepare environment b options).Ends t u (.ok plan) ↔
    e.plan environment b options = .ok plan ∧ ∃ s, plan.write.Ends t s (.ok ()) ∧
      (placesNamed options plan).Ends s u (.ok ()) := by
  simp only [prepare_eq, Session.ends_bind_ok_iff, Session.ends_ofExcept_iff,
    Session.ends_note_ok_iff, Session.ends_pure_ok_iff]
  constructor
  · rintro ⟨plan', _, ⟨rfl, planned⟩, _, s, written, _, v, placed, _, _, rfl, rfl, rfl⟩
    exact ⟨planned, s, written, placed⟩
  · rintro ⟨planned, s, written, placed⟩
    exact ⟨plan, t, ⟨rfl, planned⟩, (), s, written, (), u, placed, (), u, rfl, rfl, rfl⟩

theorem prepare_ends_error_iff {err : Error} :
    (e.prepare environment b options).Ends t u (.error err) ↔
      t = u ∧ e.plan environment b options = .error err ∨
      ∃ plan, e.plan environment b options = .ok plan ∧ (plan.write.Ends t u (.error err) ∨
        ∃ s, plan.write.Ends t s (.ok ()) ∧ (placesNamed options plan).Ends s u (.error err)) := by
  simp only [prepare_eq, Session.ends_bind_error_iff, Session.ends_ofExcept_iff,
    Session.ends_note_ok_iff, Session.ends_note_error_iff, Session.ends_pure_error_iff, and_false,
    exists_false, or_false]
  constructor
  · rintro (failed | ⟨plan, _, ⟨rfl, planned⟩, failed | ⟨_, s, written, failed⟩⟩)
    · exact Or.inl failed
    · exact Or.inr ⟨plan, planned, Or.inl failed⟩
    · exact Or.inr ⟨plan, planned, Or.inr ⟨s, written, failed⟩⟩
  · rintro (failed | ⟨plan, planned, failed | ⟨s, written, failed⟩⟩)
    · exact Or.inl failed
    · exact Or.inr ⟨plan, t, ⟨rfl, planned⟩, Or.inl failed⟩
    · exact Or.inr ⟨plan, t, ⟨rfl, planned⟩, Or.inr ⟨(), s, written, failed⟩⟩

theorem write_rewritesOnly_of_plan (planned : e.plan environment b options = .ok plan) :
    plan.write.RewritesOnly options.planPaths :=
  paths_eq_of_plan planned ▸ plan.write_rewritesOnly

theorem placesNamed_rewritesOnly (planned : e.plan environment b options = .ok plan) :
    (placesNamed options plan).RewritesOnly [options.netlistPath] := by
  rw [← netlistPath_eq_of_plan planned]
  unfold placesNamed
  split
  · exact plan.placeNetlist_rewritesOnly _
  · exact .of_readsOnly (.pure ())

/-- However it ends, preparing changes the files of the plan and the netlist in the build directory
and no others. -/
theorem prepare_rewritesOnly (e : Elaboration) (environment : Dict String) (b : Board)
    (options : BuildOptions) : (e.prepare environment b options).RewritesOnly
      (options.netlistPath :: options.planPaths) := by
  rw [prepare_eq]
  refine .ofExcept_bind fun plan planned => ?_
  have written := (write_rewritesOnly_of_plan planned).mono
    (List.subset_cons_self options.netlistPath options.planPaths)
  have placed := (placesNamed_rewritesOnly planned).mono
    (List.cons_subset_cons options.netlistPath (List.nil_subset options.planPaths))
  refine written.bind fun _ => placed.bind fun _ => ?_
  exact .of_readsOnly ((Session.ReadsOnly.note _).bind fun _ => .pure plan)

/-- A netlist is missing exactly if the plan is written and what is named is no file by then. -/
theorem prepare_ends_missing_iff {netlist : String} :
    (e.prepare environment b options).Ends t u (.error (.missingNetlist netlist)) ↔
      options.netlist = some netlist ∧ ∃ plan, e.plan environment b options = .ok plan ∧
        plan.write.Ends t u (.ok ()) ∧ u.isFile netlist = false := by
  rw [prepare_ends_error_iff]
  constructor
  · rintro (⟨-, failed⟩ | ⟨plan, planned, failed | ⟨s, written, failed⟩⟩)
    · exact absurd failed plan_ne_missingNetlist
    · obtain ⟨fault, same⟩ := BuildPlan.exists_fault_of_write failed
      cases same
    · unfold placesNamed at failed
      split at failed
      · rename_i named
        obtain ⟨rfl, rfl, missing⟩ := BuildPlan.placeNetlist_ends_missing_iff.1 failed
        exact ⟨named, plan, planned, written, missing⟩
      · exact (Session.ends_pure_error_iff.1 failed).elim
  · rintro ⟨named, plan, planned, written, missing⟩
    refine Or.inr ⟨plan, planned, Or.inr ⟨u, written, ?_⟩⟩
    unfold placesNamed
    rw [named]
    exact BuildPlan.placeNetlist_ends_missing_iff.2 ⟨rfl, rfl, missing⟩

/-- If no netlist is named, or the one that is named is no file, only the files of the plan are
changed. -/
theorem rewrites_of_unplaced {outcome : Except Error BuildPlan}
    (ends : (e.prepare environment b options).Ends t u outcome)
    (unplaced : options.netlist = none ∨
      ∃ netlist, outcome = .error (.missingNetlist netlist)) : Rewrites options.planPaths t u := by
  rcases unplaced with unnamed | ⟨netlist, rfl⟩
  · have only : (e.prepare environment b options).RewritesOnly options.planPaths := by
      rw [prepare_eq]
      refine .ofExcept_bind fun plan planned => ?_
      refine (write_rewritesOnly_of_plan planned).bind fun _ => ?_
      unfold placesNamed
      rw [unnamed]
      exact .of_readsOnly (.bind (.pure ()) fun _ => .bind (.note _) fun _ => .pure plan)
    exact only.rewrites ends
  · obtain ⟨-, plan, planned, written, -⟩ := prepare_ends_missing_iff.1 ends
    exact (write_rewritesOnly_of_plan planned).rewrites written

/-- The files of the plan of a prepared build hold what it says. -/
theorem read_of_prepare (ends : (e.prepare environment b options).Ends t u (.ok plan)) :
    ∀ f ∈ plan.files, u.read (joinPath options.buildDirectory f.name) = .ok f.content := by
  obtain ⟨planned, s, written, placed⟩ := prepare_ends_ok_iff.1 ends
  obtain ⟨directory, names⟩ := names_eq_of_plan planned
  have plain : ∀ f ∈ plan.files, IsFileName f.name := by
    rw [← List.forall_mem_map (P := IsFileName), names]
    decide
  have nodup : (plan.files.map PlanFile.name).Nodup := by
    rw [names]
    decide
  intro f hf
  have held := BuildPlan.read_of_write plain nodup written f hf
  have mem : joinPath options.buildDirectory f.name ∈ options.planPaths := by
    rw [← paths_eq_of_plan planned, directory]
    exact List.mem_map_of_mem hf
  rw [directory] at held
  -- the netlist that is placed behind it is another file
  refine ((placesNamed_rewritesOnly planned).rewrites placed).read_eq_ok held ?_
  rintro path target l denoted denoted'
  obtain rfl := List.mem_singleton.1 target
  exact options.resolve_netlistPath_ne mem denoted' denoted

/-- The netlist of a prepared build is what was at the place that was named. -/
theorem netlist_of_prepare {netlist : String} {l : Location}
    (ends : (e.prepare environment b options).Ends t u (.ok plan))
    (named : options.netlist = some netlist)
    (denoted : t.resolve netlist = .ok l ∨ u.resolve netlist = .ok l)
    (apart : ∀ path ∈ options.planPaths, u.resolve path ≠ .ok l) :
    ∃ content, t.file? l = some content ∧ u.read options.netlistPath = .ok content := by
  obtain ⟨planned, s, written, placed⟩ := prepare_ends_ok_iff.1 ends
  unfold placesNamed at placed
  rw [named] at placed
  obtain ⟨content, held, target⟩ := BuildPlan.read_of_placeNetlist placed
  rw [netlistPath_eq_of_plan planned] at target
  refine ⟨content, ?_, target⟩
  have before := (write_rewritesOnly_of_plan planned).rewrites written
  have after := (plan.placeNetlist_rewritesOnly netlist).rewrites placed
  obtain ⟨k, from', hk⟩ := FileTree.read_eq_ok_iff.1 held
  -- the path denoted the same place before, between and after
  have same : k = l := by
    rcases denoted with denoted | denoted
    · exact Except.ok.inj (from'.symm.trans (before.grows.resolve denoted))
    · exact Except.ok.inj ((after.grows.resolve from').symm.trans denoted)
  rw [← same, ← before.file?_eq k fun path mem hit => ?_]
  · exact hk
  · exact apart path mem (same ▸ after.grows.resolve hit)

/-- What preparing a build does to files: the tree that is left and the outcome. -/
structure PreparesFiles (e : Elaboration) (environment : Dict String) (b : Board)
    (options : BuildOptions) (t u : FileTree) (outcome : Except Error BuildPlan) : Prop where
  /-- Once it is prepared, there is a plan for the board, and its files hold what it says. -/
  written : ∀ plan, outcome = .ok plan → e.plan environment b options = .ok plan ∧
    (plan.files.map fun f => joinPath options.buildDirectory f.name) = options.planPaths ∧
    ∀ f ∈ plan.files, u.read (joinPath options.buildDirectory f.name) = .ok f.content
  /-- If a netlist was named by a path that denotes a location, be it from the first or only when
  the build directory is there, and this is not a file of the plan, then a file was there before,
  and what it held is in the netlist of the build directory. -/
  placed : ∀ plan netlist l, outcome = .ok plan → options.netlist = some netlist →
    t.resolve netlist = .ok l ∨ u.resolve netlist = .ok l →
    (∀ path ∈ options.planPaths, u.resolve path ≠ .ok l) →
    ∃ content, t.file? l = some content ∧ u.read options.netlistPath = .ok content
  /-- However it ends, no other file is changed. -/
  framed : ∀ l, u.resolve options.netlistPath ≠ .ok l →
    (∀ path ∈ options.planPaths, u.resolve path ≠ .ok l) → u.file? l = t.file? l
  /-- If no netlist is named or it is missing, the files of the plan alone are changed. -/
  kept : (options.netlist = none ∨ ∃ netlist, outcome = .error (.missingNetlist netlist)) →
    ∀ l, (∀ path ∈ options.planPaths, u.resolve path ≠ .ok l) → u.file? l = t.file? l
  /-- The netlist of the build directory is not one of them. -/
  netlist_kept : (options.netlist = none ∨ ∃ netlist, outcome = .error (.missingNetlist netlist)) →
    ∀ l, t.resolve options.netlistPath = .ok l ∨ u.resolve options.netlistPath = .ok l →
    u.file? l = t.file? l
  /-- It is missing exactly if the plan is written and what is named is no file by then. -/
  missing_iff : ∀ netlist, outcome = .error (.missingNetlist netlist) ↔
    options.netlist = some netlist ∧ ∃ plan v, e.plan environment b options = .ok plan ∧
      plan.write.Ends t v (.ok ()) ∧ v.isFile netlist = false

/-- **A prepared build has the netlist that was named.** For every tree, build directory and way to
spell the path of the netlist: preparing writes the plan and leaves the netlist in the build
directory as it was where it was named, which may be there already; without a netlist it writes the
plan and nothing else. -/
theorem preparesFiles (e : Elaboration) (environment : Dict String) (b : Board)
    (options : BuildOptions) (t : FileTree) :
    e.PreparesFiles environment b options t ((e.prepare environment b options).run t).1
      ((e.prepare environment b options).run t).2.outcome := by
  obtain ⟨u, outcome, ends⟩ : ∃ u outcome,
      (e.prepare environment b options).Ends t u outcome := ⟨_, _, rfl, rfl⟩
  rw [ends.1, ends.2]
  have rewrites := (e.prepare_rewritesOnly environment b options).rewrites ends
  refine ⟨?_, ?_, fun l target plan => ?_, fun unplaced => ?_, fun unplaced l place => ?_,
    fun netlist => ?_⟩
  · rintro plan rfl
    obtain ⟨planned, -⟩ := prepare_ends_ok_iff.1 ends
    have paths := paths_eq_of_plan planned
    rw [(names_eq_of_plan planned).1] at paths
    exact ⟨planned, paths, read_of_prepare ends⟩
  · rintro plan netlist l rfl named denoted apart
    exact netlist_of_prepare ends named denoted apart
  · refine rewrites.file?_eq l fun path mem => ?_
    rcases List.mem_cons.1 mem with rfl | mem
    · exact target
    · exact plan path mem
  · exact (rewrites_of_unplaced ends unplaced).file?_eq
  · have target : u.resolve options.netlistPath = .ok l := place.elim rewrites.grows.resolve id
    refine (rewrites_of_unplaced ends unplaced).file?_eq l fun path mem denoted => ?_
    exact options.resolve_netlistPath_ne mem denoted target
  · constructor
    · rintro rfl
      obtain ⟨named, plan, planned, written, missing⟩ := prepare_ends_missing_iff.1 ends
      exact ⟨named, plan, u, planned, written, missing⟩
    · rintro ⟨named, plan, v, planned, written, missing⟩
      have ends' := prepare_ends_missing_iff.2 ⟨named, plan, planned, written, missing⟩
      exact ends.2.symm.trans ends'.2

/-- A netlist that is named by a way through the build directory. -/
def detour : BuildOptions := { buildDirectory := "out", netlist := some "out/.././/design.il" }

/-- A place to work at, where the build directory is yet to be made. -/
def workshop : FileTree where
  nodes := [(["work"], .directory), (["work", "design.il"], .file "module"),
    (["work", "notes"], .file "kept")]
  workingDirectory := ["work"]

/-- The way leads nowhere before the build directory is there, and then to the netlist. -/
theorem preparesFiles_detour : workshop.resolve "out/.././/design.il" = .error .missing ∧
    ∃ u, (∃ plan, (empty.prepare ∅ Cynthion.rev1d4 detour).Ends workshop u (.ok plan)) ∧
      u.read detour.netlistPath = .ok "module" ∧ u.file? ["work", "notes"] = some "kept" := by
  have done : ((empty.prepare ∅ Cynthion.rev1d4 detour).run workshop).2.outcome.isOk = true := by
    decide +kernel
  have there : ((empty.prepare ∅ Cynthion.rev1d4 detour).run workshop).1.resolve
      "out/.././/design.il" = .ok ["work", "design.il"] := by decide +kernel
  have apart : ∀ l ∈ [["work", "design.il"], ["work", "notes"]], ∀ path ∈ detour.planPaths,
      ((empty.prepare ∅ Cynthion.rev1d4 detour).run workshop).1.resolve path ≠ .ok l := by
    decide +kernel
  have target : ((empty.prepare ∅ Cynthion.rev1d4 detour).run workshop).1.resolve
      detour.netlistPath ≠ .ok ["work", "notes"] := by decide +kernel
  obtain ⟨plan, prepared⟩ := except_isOk_iff.1 done
  have files := preparesFiles empty ∅ Cynthion.rev1d4 detour workshop
  obtain ⟨content, held, placed⟩ :=
    files.placed plan _ _ prepared rfl (Or.inr there) (apart _ (by decide))
  have same : workshop.file? ["work", "design.il"] = some "module" := by decide
  obtain rfl : content = "module" := Option.some.inj (held.symm.trans same)
  have others : workshop.file? ["work", "notes"] = some "kept" := by decide
  exact ⟨by decide +kernel, _, ⟨plan, rfl, prepared⟩, placed,
    (files.framed _ target (apart _ (by decide))).trans others⟩

end Elaboration

end SocAssembly
