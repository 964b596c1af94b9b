import Mathlib
import SocAssembly.Proofs.FileChanges

/-!
# Trees that grow

Nothing that is done to a tree here takes a directory away, so a tree only grows
(`FileTree.Grows`), and a path that denotes a place goes on to denote it
(`FileTree.Grows.resolve`). This makes it possible to name what a session changes by the paths that
it writes to, as they are read in the end: all other files are what they were
(`FileTree.Rewrites`). The relation holds of every step and is handed through sequences, however
they end (`Session.RewritesOnly.bind`). Where it is known beforehand which locations the paths can
denote, it says that nothing else changes (`Session.RewritesOnly.changesOnly`).

A directory that was made is there from then on, so asking for it again does nothing
(`FileTree.HasDirectory.makeDirectories_eq`), and a file that holds a text is left as it is when the
text is written to it again (`FileTree.write_of_read`).
-/

namespace SocAssembly

namespace FileTree

variable {t u v : FileTree} {l m : Location} {path : String} {steps : List PathStep}

/-! ### Growing -/

/-- Paths start where they did, and every directory is still there. -/
structure Grows (t u : FileTree) : Prop where
  /-- The working directory is the same. -/
  workingDirectory_eq : u.workingDirectory = t.workingDirectory
  /-- Directories stay directories. -/
  node?_directory : ∀ l, t.node? l = some .directory → u.node? l = some .directory

theorem checkDirectory_eq_ok_iff : t.checkDirectory l = .ok () ↔ t.node? l = some .directory := by
  unfold checkDirectory
  split <;> simp_all

theorem walk_cons_eq_ok_iff {s : PathStep} : t.walk l (s :: steps) = .ok m ↔
    t.node? l = some .directory ∧ s.check = .ok () ∧ t.walk (s.apply l) steps = .ok m := by
  simp only [walk, bind, except_check_bind_eq_ok_iff, checkDirectory_eq_ok_iff]

namespace Grows

theorem refl (t : FileTree) : t.Grows t := ⟨rfl, fun _ => id⟩

theorem trans (h : t.Grows u) (h' : u.Grows v) : t.Grows v where
  workingDirectory_eq := h'.workingDirectory_eq.trans h.workingDirectory_eq
  node?_directory l hl := h'.node?_directory l (h.node?_directory l hl)

/-- Steps that lead somewhere still lead there. -/
theorem walk (h : t.Grows u) (ok : t.walk l steps = .ok m) : u.walk l steps = .ok m := by
  induction steps generalizing l with
  | nil => exact ok
  | cons s rest ih =>
    obtain ⟨there, fit, ok⟩ := walk_cons_eq_ok_iff.1 ok
    exact walk_cons_eq_ok_iff.2 ⟨h.node?_directory l there, fit, ih ok⟩

theorem start_eq (h : t.Grows u) (path : String) : u.start path = t.start path := by
  unfold start
  rw [h.workingDirectory_eq]

/-- A path that denotes a place still denotes it. -/
theorem resolve (h : t.Grows u) (ok : t.resolve path = .ok l) : u.resolve path = .ok l := by
  unfold FileTree.resolve at ok ⊢
  obtain ⟨_, fit, ok⟩ := except_bind_eq_ok_iff.1 ok
  exact except_bind_eq_ok_iff.2 ⟨_, fit, h.start_eq path ▸ h.walk ok⟩

/-- Something that is put where no directory is, or a directory, lets the tree grow. -/
theorem put {n : FileNode} (h : t.node? l = some .directory → n = .directory) :
    t.Grows (t.put l n) where
  workingDirectory_eq := rfl
  node?_directory k hk := by
    by_cases same : k = l
    · by_cases root : k = []
      · rw [root]
        rfl
      · rw [← same] at h ⊢
        rw [node?_put_self root, h hk]
    · rw [node?_put_of_ne same, hk]

end Grows

/-! ### Directories that are made -/

/-- Steps lead to a directory. -/
theorem leadsToDirectory_iff : t.leadsToDirectory l steps = true ↔
    ∃ m, t.walk l steps = .ok m ∧ t.node? m = some .directory := by
  have reached : (do t.checkDirectory (← t.walk l steps)) = .ok () ↔
      ∃ m, t.walk l steps = .ok m ∧ t.node? m = some .directory := by
    simp only [bind, except_bind_eq_ok_iff, checkDirectory_eq_ok_iff]
  rw [← reached]
  unfold leadsToDirectory
  split <;> simp_all

theorem leadsToDirectory_cons_iff {s : PathStep} : t.leadsToDirectory l (s :: steps) = true ↔
    t.node? l = some .directory ∧ s.check = .ok () ∧
      t.leadsToDirectory (s.apply l) steps = true := by
  simp only [leadsToDirectory_iff, walk_cons_eq_ok_iff, and_assoc, exists_and_left]

theorem Grows.leadsToDirectory (h : t.Grows u) (there : t.leadsToDirectory l steps = true) :
    u.leadsToDirectory l steps = true := by
  obtain ⟨m, walked, directory⟩ := leadsToDirectory_iff.1 there
  exact leadsToDirectory_iff.2 ⟨m, h.walk walked, h.node?_directory m directory⟩

theorem makeDirectory_down_eq_ok_iff {name : String} :
    t.makeDirectory l [.down name] = .ok u ↔ t.node? l = some .directory ∧
      (PathStep.down name).check = .ok () ∧ t.node? (l ++ [name]) = none ∧
      u = t.put (l ++ [name]) .directory := by
  simp only [makeDirectory, bind, except_check_bind_eq_ok_iff, checkDirectory_eq_ok_iff]
  refine and_congr_right fun _ => and_congr_right fun _ => ?_
  split
  · rename_i free
    simp [free, eq_comm]
  · rename_i taken
    simp [taken]

theorem makeDirectory_cons_eq_ok_iff_of_ne {s : PathStep}
    (further : ∀ name, s = .down name → steps ≠ []) :
    t.makeDirectory l (s :: steps) = .ok u ↔ t.node? l = some .directory ∧ s.check = .ok () ∧
      t.makeDirectory (s.apply l) steps = .ok u := by
  rw [makeDirectory]
  · simp only [bind, except_check_bind_eq_ok_iff, checkDirectory_eq_ok_iff]
  · exact further

/-- What is made is what the last step names, or what further steps name. -/
theorem makeDirectory_cons_eq_ok_iff {s : PathStep} :
    t.makeDirectory l (s :: steps) = .ok u ↔ t.node? l = some .directory ∧ s.check = .ok () ∧
      ((∃ name, s = .down name ∧ steps = [] ∧ t.node? (l ++ [name]) = none ∧
          u = t.put (l ++ [name]) .directory) ∨
        t.makeDirectory (s.apply l) steps = .ok u) := by
  by_cases last : ∃ name, s = .down name ∧ steps = []
  · obtain ⟨name, rfl, rfl⟩ := last
    rw [makeDirectory_down_eq_ok_iff]
    simp [makeDirectory]
  · rw [makeDirectory_cons_eq_ok_iff_of_ne fun name down empty => last ⟨name, down, empty⟩]
    refine and_congr_right fun _ => and_congr_right fun _ => ⟨Or.inr, ?_⟩
    rintro (⟨name, rfl, rfl, -⟩ | made)
    · exact absurd ⟨name, rfl, rfl⟩ last
    · exact made

/-- Making a directory lets the tree grow by it. -/
theorem grows_of_makeDirectory (made : t.makeDirectory l steps = .ok u) :
    t.Grows u ∧ u.leadsToDirectory l steps = true := by
  induction steps generalizing l with
  | nil => cases made
  | cons s rest ih =>
    obtain ⟨there, fit, made⟩ := makeDirectory_cons_eq_ok_iff.1 made
    rw [leadsToDirectory_cons_iff]
    rcases made with ⟨name, rfl, rfl, free, rfl⟩ | made
    · have grows : t.Grows (t.put (l ++ [name]) .directory) := .put fun _ => rfl
      have last : (t.put (l ++ [name]) .directory).node? (l ++ [name]) = some .directory :=
        node?_put_self (by simp) t .directory
      exact ⟨grows, grows.node?_directory l there, fit, leadsToDirectory_iff.2 ⟨_, rfl, last⟩⟩
    · obtain ⟨grows, further⟩ := ih made
      exact ⟨grows, grows.node?_directory l there, fit, further⟩

/-- A directory that is there is not made. -/
theorem exists_makeDirectory_eq_error (there : t.leadsToDirectory l steps = true) :
    ∃ fault, t.makeDirectory l steps = .error fault := by
  refine exists_error_of_ne_ok fun u made => ?_
  induction steps generalizing l with
  | nil => cases made
  | cons s rest ih =>
    obtain ⟨-, -, further⟩ := leadsToDirectory_cons_iff.1 there
    obtain ⟨-, -, made⟩ := makeDirectory_cons_eq_ok_iff.1 made
    rcases made with ⟨name, rfl, rfl, free, -⟩ | made
    · obtain ⟨m, walked, directory⟩ := leadsToDirectory_iff.1 further
      cases walked
      cases free.symm.trans directory
    · exact ih further made

theorem ensureDirectory_of_leadsToDirectory (there : t.leadsToDirectory l steps = true) :
    t.ensureDirectory l steps = (t, .ok ()) := by
  obtain ⟨fault, refused⟩ := exists_makeDirectory_eq_error there
  simp [ensureDirectory, refused, there]

theorem grows_ensureDirectory (t : FileTree) (l : Location) (steps : List PathStep) :
    t.Grows (t.ensureDirectory l steps).1 := by
  unfold ensureDirectory
  split
  · rename_i u made
    exact (grows_of_makeDirectory made).1
  · exact .refl t

theorem leadsToDirectory_of_ensureDirectory (h : t.ensureDirectory l steps = (u, .ok ())) :
    u.leadsToDirectory l steps = true := by
  unfold ensureDirectory at h
  split at h
  · rename_i v made
    cases h
    exact (grows_of_makeDirectory made).2
  · split at h
    · rename_i there
      cases h
      exact there
    · cases h

theorem grows_makeWithin (t : FileTree) (l : Location) (steps : List PathStep)
    (enclosing : List (List PathStep)) : t.Grows (t.makeWithin l steps enclosing).1 := by
  induction enclosing generalizing steps with
  | nil => exact t.grows_ensureDirectory l steps
  | cons outer further ih =>
    have within := ih outer
    unfold makeWithin
    split
    · split
      · rename_i u made
        rw [made] at within
        exact within.trans (u.grows_ensureDirectory l steps)
      · exact within
    · exact t.grows_ensureDirectory l steps

theorem leadsToDirectory_of_makeWithin {enclosing : List (List PathStep)}
    (h : t.makeWithin l steps enclosing = (u, .ok ())) : u.leadsToDirectory l steps = true := by
  cases enclosing with
  | nil => exact leadsToDirectory_of_ensureDirectory h
  | cons outer further =>
    unfold makeWithin at h
    split at h
    · split at h
      · exact leadsToDirectory_of_ensureDirectory h
      · rename_i failed
        exact absurd h (failed u)
    · exact leadsToDirectory_of_ensureDirectory h

theorem makeWithin_of_leadsToDirectory (there : t.leadsToDirectory l steps = true)
    (enclosing : List (List PathStep)) : t.makeWithin l steps enclosing = (t, .ok ()) := by
  have done := ensureDirectory_of_leadsToDirectory there
  cases enclosing with
  | nil => exact done
  | cons outer further => simp [makeWithin, done]

theorem grows_makeDirectories (t : FileTree) (path : String) :
    t.Grows (t.makeDirectories path).1 := by
  unfold makeDirectories
  split
  · exact .refl t
  · split
    · exact .refl t
    · exact t.grows_makeWithin _ _ _

/-- The directory that the path denotes is there; the empty path asks for none. -/
def HasDirectory (t : FileTree) (path : String) : Prop :=
  path = "" ∨ checkPath path = .ok () ∧ t.leadsToDirectory (t.start path) (pathSteps path) = true

theorem Grows.hasDirectory (h : t.Grows u) (there : t.HasDirectory path) :
    u.HasDirectory path := by
  refine there.imp_right fun ⟨fit, there⟩ => ⟨fit, ?_⟩
  rw [h.start_eq]
  exact h.leadsToDirectory there

/-- What was asked for is there. -/
theorem hasDirectory_of_makeDirectories (h : t.makeDirectories path = (u, .ok ())) :
    u.HasDirectory path := by
  have grows := t.grows_makeDirectories path
  rw [h] at grows
  unfold makeDirectories at h
  split at h
  · rename_i empty
    exact Or.inl empty
  · split at h
    · cases h
    · rename_i fit
      refine Or.inr ⟨fit, ?_⟩
      rw [grows.start_eq]
      exact leadsToDirectory_of_makeWithin h

/-- Asking for a directory that is there does nothing. -/
theorem HasDirectory.makeDirectories_eq (h : t.HasDirectory path) :
    t.makeDirectories path = (t, .ok ()) := by
  unfold makeDirectories
  split
  · rfl
  · rename_i named
    obtain ⟨fit, there⟩ := h.resolve_left named
    rw [fit]
    exact makeWithin_of_leadsToDirectory there _

/-! ### Files that are written and read -/

variable {content : String} {fault : FileFault}

theorem file?_eq_some_iff : t.file? l = some content ↔ t.node? l = some (.file content) := by
  unfold file?
  split <;> simp_all

theorem read_eq_ok_iff : t.read path = .ok content ↔
    ∃ l, t.resolve path = .ok l ∧ t.file? l = some content := by
  simp only [read, lookup, bind, except_bind_eq_ok_iff, file?_eq_some_iff]
  constructor
  · rintro ⟨n, ⟨l, denoted, found⟩, held⟩
    split at found
    · rename_i m there
      cases found
      split at held
      · cases held
        exact ⟨l, denoted, there⟩
      · cases held
    · cases found
  · rintro ⟨l, denoted, there⟩
    exact ⟨.file content, ⟨l, denoted, by rw [there]⟩, rfl⟩

theorem isFile_iff : t.isFile path = true ↔ ∃ content, t.read path = .ok content := by
  unfold isFile read
  cases t.lookup path with
  | error fault => simp [bind, Except.bind]
  | ok n => cases n <;> simp [bind, Except.bind]

theorem write_eq_ok_iff : t.write path content = .ok u ↔ ∃ l, t.resolve path = .ok l ∧
    t.node? l ≠ some .directory ∧ u = t.put l (.file content) := by
  simp only [write, bind, except_bind_eq_ok_iff]
  refine exists_congr fun l => and_congr_right fun _ => ?_
  split
  · rename_i directory
    simp [directory]
  · rename_i other
    exact ⟨fun h => ⟨other, (Except.ok.inj h).symm⟩, fun h => congrArg Except.ok h.2.symm⟩

theorem file?_put_file (h : t.node? l ≠ some .directory) :
    (t.put l (.file content)).file? l = some content := by
  have below : l ≠ [] := by
    rintro rfl
    exact h rfl
  rw [file?_eq_some_iff, node?_put_self below]

theorem grows_of_write (ok : t.write path content = .ok u) : t.Grows u := by
  obtain ⟨l, -, free, rfl⟩ := write_eq_ok_iff.1 ok
  exact .put fun directory => absurd directory free

/-- What was written is read. -/
theorem read_of_write (ok : t.write path content = .ok u) : u.read path = .ok content := by
  have grows := grows_of_write ok
  obtain ⟨l, denoted, free, rfl⟩ := write_eq_ok_iff.1 ok
  exact read_eq_ok_iff.2 ⟨l, grows.resolve denoted, file?_put_file free⟩

theorem putNode_of_lookup {n : FileNode} {nodes : List (Location × FileNode)}
    (h : nodes.lookup l = some n) : putNode l n nodes = nodes := by
  induction nodes with
  | nil => cases h
  | cons head rest ih =>
    obtain ⟨k, m⟩ := head
    by_cases same : k = l
    · subst same
      rw [List.lookup_cons_self, Option.some.injEq] at h
      rw [putNode, if_pos rfl, h]
    · have other : (l == k) = false := by simpa using Ne.symm same
      rw [List.lookup_cons, other] at h
      rw [putNode, if_neg same, ih h]

/-- Writing to a file what it holds leaves the tree as it is. -/
theorem write_of_read (h : t.read path = .ok content) : t.write path content = .ok t := by
  obtain ⟨l, denoted, held⟩ := read_eq_ok_iff.1 h
  rw [file?_eq_some_iff] at held
  refine write_eq_ok_iff.2 ⟨l, denoted, by simp [held], ?_⟩
  have below : l ≠ [] := by
    rintro rfl
    cases held
  have there : t.nodes.lookup l = some (.file content) := by
    rwa [node?, if_neg below] at held
  show t = { t with nodes := putNode l (.file content) t.nodes }
  rw [putNode_of_lookup there]

/-! ### Files that are rewritten -/

/-- The tree has grown, and every file is what it was, but for those that these paths denote in the
end. -/
structure Rewrites (paths : List String) (t u : FileTree) : Prop where
  /-- The tree has grown. -/
  grows : t.Grows u
  /-- Other files are what they were. -/
  file?_eq : ∀ l, (∀ path ∈ paths, u.resolve path ≠ .ok l) → u.file? l = t.file? l

namespace Rewrites

variable {paths paths' : List String}

theorem refl (t : FileTree) : Rewrites paths t t := ⟨.refl t, fun _ _ => rfl⟩

theorem trans (h : Rewrites paths t u) (h' : Rewrites paths u v) : Rewrites paths t v where
  grows := h.grows.trans h'.grows
  file?_eq l hl := by
    rw [h'.file?_eq l hl]
    exact h.file?_eq l fun path mem denoted => hl path mem (h'.grows.resolve denoted)

theorem mono (h : Rewrites paths t u) (sub : paths ⊆ paths') : Rewrites paths' t u where
  grows := h.grows
  file?_eq l hl := h.file?_eq l fun path mem => hl path (sub mem)

/-- A file that none of the paths denotes is read as before. -/
theorem read_eq_ok (h : Rewrites paths t u) {other : String} (held : t.read other = .ok content)
    (apart : ∀ path ∈ paths, ∀ l, u.resolve path = .ok l → u.resolve other ≠ .ok l) :
    u.read other = .ok content := by
  obtain ⟨l, denoted, held⟩ := read_eq_ok_iff.1 held
  have denoted' := h.grows.resolve denoted
  refine read_eq_ok_iff.2 ⟨l, denoted', ?_⟩
  rw [h.file?_eq l fun path mem same => apart path mem l same denoted', held]

/-- What is told by paths holds of the locations that these can denote. -/
theorem agreesOutside {changed : Set Location} (h : Rewrites paths t u)
    (within : ∀ path ∈ paths, DenotesIn changed path) : AgreesOutside changed t u :=
  fun l notMem => h.file?_eq l fun path mem denoted => notMem (within path mem u l denoted)

theorem of_write (ok : t.write path content = .ok u) : Rewrites [path] t u where
  grows := grows_of_write ok
  file?_eq l hl := by
    have grows := grows_of_write ok
    obtain ⟨k, denoted, -, rfl⟩ := write_eq_ok_iff.1 ok
    refine file?_eq_of_node? (node?_put_of_ne ?_ t _)
    rintro rfl
    exact hl path (List.mem_singleton_self path) (grows.resolve denoted)

theorem makeDirectories (t : FileTree) (path : String) :
    Rewrites [] t (t.makeDirectories path).1 :=
  ⟨t.grows_makeDirectories path, fun l _ => t.file?_makeDirectories path l⟩

theorem copy (t : FileTree) (source target : String) :
    Rewrites [target] t (t.copy source target).1 := by
  unfold FileTree.copy
  split
  · exact .refl t
  · exact .refl t
  · rename_i opened hopened
    have emptied := of_write hopened
    split
    · exact emptied
    · split
      · exact emptied
      · rename_i copied hcopied
        exact emptied.trans (of_write hcopied)

end Rewrites

/-- Files below one or two paths that have different names are different files. -/
theorem resolve_joinPath_ne {path path' name name' : String} (h : IsFileName name)
    (h' : IsFileName name') (ne : name ≠ name') {t u : FileTree}
    (denoted : t.resolve (joinPath path name) = .ok l) :
    u.resolve (joinPath path' name') ≠ .ok l := by
  intro denoted'
  have last := getLast?_of_resolve_joinPath h denoted
  rw [getLast?_of_resolve_joinPath h' denoted', Option.some.injEq] at last
  exact ne last.symm

/-- A file that is copied to another place is held there, too. -/
theorem read_of_copy {source target : String} (held : t.read source = .ok content)
    (apart : ∀ l, t.resolve source = .ok l → t.resolve target ≠ .ok l)
    (ok : t.copy source target = (u, .ok ())) : u.read target = .ok content := by
  cases emptied : t.write target "" with
  | error fault => simp [copy, held, emptied] at ok
  | ok opened =>
    have rewrites := Rewrites.of_write emptied
    obtain ⟨k, denoted, -⟩ := write_eq_ok_iff.1 emptied
    have kept : opened.read source = .ok content := by
      refine rewrites.read_eq_ok held fun path mem l denoted' source' => ?_
      obtain rfl := List.mem_singleton.1 mem
      obtain ⟨l', from', -⟩ := read_eq_ok_iff.1 held
      have same : k = l := Except.ok.inj ((rewrites.grows.resolve denoted).symm.trans denoted')
      have same' : l' = l := Except.ok.inj ((rewrites.grows.resolve from').symm.trans source')
      exact apart l' from' (by rw [denoted, same, same'])
    cases copied : opened.write target content with
    | error fault => simp [copy, held, emptied, kept, copied] at ok
    | ok v =>
      have last : v = u := by simpa [copy, held, emptied, kept, copied] using ok
      exact last ▸ read_of_write copied

end FileTree

/-! ### Sessions that rewrite files -/

namespace Session

open FileTree (Rewrites)

variable {α β : Type} {paths paths' : List String} {path content : String} {t u : FileTree}

/-- The session changes files that these paths denote and no others, even if it fails. -/
def RewritesOnly (paths : List String) (x : Session FileTree α) : Prop :=
  ∀ t, Rewrites paths t (x.run t).1

namespace RewritesOnly

variable {x : Session FileTree α} {next : α → Session FileTree β}

theorem of_readsOnly (h : x.ReadsOnly) : x.RewritesOnly paths := by
  intro t
  rw [h t]
  exact .refl t

theorem mono (h : x.RewritesOnly paths) (sub : paths ⊆ paths') : x.RewritesOnly paths' :=
  fun t => (h t).mono sub

theorem bind (h : x.RewritesOnly paths) (hnext : ∀ a, (next a).RewritesOnly paths) :
    (x >>= next).RewritesOnly paths :=
  rel_run_bind (R := Rewrites paths) Rewrites.trans h hnext

/-- Behind a check, only what passes it counts. -/
theorem ofExcept_bind {y : Except Error α} (hnext : ∀ a, y = .ok a → (next a).RewritesOnly paths) :
    (Session.ofExcept y >>= next).RewritesOnly paths := by
  intro t
  cases hy : y with
  | error e =>
    rw [run_bind_error rfl]
    exact .refl t
  | ok a =>
    rw [run_bind_ok rfl]
    exact hnext a hy t

theorem rewrites (h : x.RewritesOnly paths) {outcome : Except Error α}
    (ends : x.Ends t u outcome) : Rewrites paths t u := by
  obtain ⟨rfl, -⟩ := ends
  exact h t

end RewritesOnly

theorem RewritesOnly.changesOnly {x : Session FileTree α} {changed : Set Location}
    (h : x.RewritesOnly paths) (within : ∀ path ∈ paths, FileTree.DenotesIn changed path) :
    x.ChangesOnly changed := fun t => (h t).agreesOutside within

theorem makeDirectories_rewritesOnly (path : String) :
    (Session.makeDirectories path).RewritesOnly [] := fun t => .makeDirectories t path

theorem copyFile_rewritesOnly (source target : String) :
    (copyFile source target).RewritesOnly [target] := fun t => .copy t source target

variable {a : Unit} {e : Error}

theorem makeDirectories_ends_ok_iff : (Session.makeDirectories path).Ends t u (.ok a) ↔
    t.makeDirectories path = (u, .ok ()) := by
  show (t.makeDirectories path).1 = u ∧ (t.makeDirectories path).2.mapError _ = .ok a ↔ _
  rcases t.makeDirectories path with ⟨v, fault | _⟩ <;> simp [Except.mapError]

theorem makeDirectories_ends_error_iff : (Session.makeDirectories path).Ends t u (.error e) ↔
    ∃ fault, t.makeDirectories path = (u, .error fault) ∧ e = .fileAccess fault := by
  show (t.makeDirectories path).1 = u ∧ (t.makeDirectories path).2.mapError _ = .error e ↔ _
  rcases t.makeDirectories path with ⟨v, fault | _⟩ <;> simp [Except.mapError, eq_comm]

theorem copyFile_ends_ok_iff {source target : String} :
    (copyFile source target).Ends t u (.ok a) ↔ t.copy source target = (u, .ok ()) := by
  show (t.copy source target).1 = u ∧ (t.copy source target).2.mapError _ = .ok a ↔ _
  rcases t.copy source target with ⟨v, fault | _⟩ <;> simp [Except.mapError]

theorem copyFile_ends_error_iff {source target : String} :
    (copyFile source target).Ends t u (.error e) ↔
      ∃ fault, t.copy source target = (u, .error fault) ∧ e = .fileAccess fault := by
  show (t.copy source target).1 = u ∧ (t.copy source target).2.mapError _ = .error e ↔ _
  rcases t.copy source target with ⟨v, fault | _⟩ <;> simp [Except.mapError, eq_comm]

theorem writeFile_ends_ok_iff :
    (writeFile path content).Ends t u (.ok a) ↔ t.write path content = .ok u := by
  unfold Ends run writeFile
  cases t.write path content <;> simp [Report.fail, pure]

theorem writeFile_ends_error_iff : (writeFile path content).Ends t u (.error e) ↔
    ∃ fault, t.write path content = .error fault ∧ t = u ∧ e = .fileAccess fault := by
  unfold Ends run writeFile
  cases t.write path content <;> simp [Report.fail, eq_comm]

theorem writeFile_rewritesOnly (path content : String) :
    (writeFile path content).RewritesOnly [path] := by
  intro t
  unfold run writeFile
  split
  · rename_i u written
    exact .of_write written
  · exact .refl t

end Session

end SocAssembly
