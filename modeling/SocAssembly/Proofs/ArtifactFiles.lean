import Mathlib
import SocAssembly.Artifact.Basic
import SocAssembly.Proofs.GrowingTrees
import SocAssembly.Proofs.HeaderComments

/-!
# The files of artifacts

The artifacts of a design are made one after the other, each in its folder. One that is made stands
in its file (`Artifact.Stands`): the folder is there and the file holds the text of its kind. Making
the others does not disturb it, since no two kinds have a file name in common
(`Artifact.Stands.keep`), and making it again does nothing (`Artifact.Stands.again`). If making one
fails, be it for its folder, its text or its file, then its file has not been touched
(`Artifact.Fails`). So a run leaves new files for the kinds before the one that it fails at and old
ones from there on, and no other file is changed (`Artifact.generates`).
-/

namespace SocAssembly

open FileTree (Rewrites)

theorem ArtifactKind.isFileName_fileName (k : ArtifactKind) : IsFileName k.fileName := by
  cases k <;> decide

theorem ArtifactKind.fileName_injective : Function.Injective ArtifactKind.fileName := by
  intro j k
  cases j <;> cases k <;> decide

namespace Artifact

variable {d : Design} {directory : String} {k : ArtifactKind} {ks : List ArtifactKind}
  {t u s : FileTree} {x : Artifact} {e : Error}

/-- The files of two kinds are different files. -/
theorem resolve_filePath_ne {j : ArtifactKind} (ne : j ≠ k) {l : Location}
    (denoted : t.resolve (filePath directory j) = .ok l) :
    u.resolve (filePath directory k) ≠ .ok l :=
  FileTree.resolve_joinPath_ne j.isFileName_fileName k.isFileName_fileName
    (ArtifactKind.fileName_injective.ne ne) denoted

/-! ### One artifact -/

/-- The artifact of a kind is there: its folder is, and its file holds the text of the kind. -/
structure Stands (d : Design) (directory : String) (u : FileTree) (k : ArtifactKind)
    (x : Artifact) : Prop where
  /-- It is of the kind. -/
  kind_eq : x.kind = k
  /-- It has the path of the kind. -/
  path_eq : x.path = filePath directory k
  /-- Its text is that of the kind. -/
  render_eq : k.render d = .ok x.content
  /-- Its folder is there. -/
  hasDirectory : u.HasDirectory (folderPath directory k)
  /-- Its file holds the text. -/
  read_eq : u.read (filePath directory k) = .ok x.content

/-- Why the artifact of a kind is not made, and the tree that is left. -/
inductive Fails (d : Design) (directory : String) (k : ArtifactKind) (t u : FileTree) :
    Error → Prop where
  /-- The folder cannot be made. -/
  | folder {fault : FileFault}
      (failed : t.makeDirectories (folderPath directory k) = (u, .error fault)) :
      Fails d directory k t u (.fileAccess fault)
  /-- The design has no text of this kind. -/
  | text {e : Error} (made : t.makeDirectories (folderPath directory k) = (u, .ok ()))
      (failed : k.render d = .error e) : Fails d directory k t u e
  /-- The file cannot be written. -/
  | file {content : String} {fault : FileFault}
      (made : t.makeDirectories (folderPath directory k) = (u, .ok ()))
      (rendered : k.render d = .ok content)
      (failed : u.write (filePath directory k) content = .error fault) :
      Fails d directory k t u (.fileAccess fault)

theorem generate_ends_ok_iff : (generate d directory k).Ends t u (.ok x) ↔
    ∃ s, t.makeDirectories (folderPath directory k) = (s, .ok ()) ∧
      k.render d = .ok x.content ∧ s.write (filePath directory k) x.content = .ok u ∧
      x.kind = k ∧ x.path = filePath directory k := by
  simp only [generate, Session.ends_bind_ok_iff, Session.ends_note_ok_iff,
    Session.ends_ofExcept_iff, Session.ends_pure_ok_iff, Session.makeDirectories_ends_ok_iff,
    Session.writeFile_ends_ok_iff]
  constructor
  · rintro ⟨_, s, made, _, _, rfl, content, _, ⟨rfl, rendered⟩, _, _, written, rfl, rfl⟩
    exact ⟨s, made, rendered, written, rfl, rfl⟩
  · rintro ⟨s, made, rendered, written, rfl, path⟩
    refine ⟨(), s, made, (), s, rfl, x.content, s, ⟨rfl, rendered⟩, (), u, written, rfl, ?_⟩
    rw [← path]

theorem generate_ends_error_iff : (generate d directory k).Ends t u (.error e) ↔
    Fails d directory k t u e := by
  simp only [generate, Session.ends_bind_error_iff, Session.ends_note_ok_iff,
    Session.ends_note_error_iff, Session.ends_ofExcept_iff, Session.ends_pure_error_iff,
    Session.makeDirectories_ends_ok_iff, Session.makeDirectories_ends_error_iff,
    Session.writeFile_ends_error_iff, and_false, exists_false, or_false, false_or]
  constructor
  · rintro (⟨fault, failed, rfl⟩ | ⟨_, s, made, _, _, rfl, rest⟩)
    · exact .folder failed
    rcases rest with ⟨rfl, failed⟩ | ⟨content, _, ⟨rfl, rendered⟩, fault, failed, rfl, rfl⟩
    · exact .text made failed
    · exact .file made rendered failed
  · intro fails
    cases fails with
    | folder failed => exact Or.inl ⟨_, failed, rfl⟩
    | text made failed => exact Or.inr ⟨(), u, made, (), u, rfl, Or.inl ⟨rfl, failed⟩⟩
    | file made rendered failed =>
      exact Or.inr ⟨(), u, made, (), u, rfl,
        Or.inr ⟨_, u, ⟨rfl, rendered⟩, _, failed, rfl, rfl⟩⟩

/-- An artifact that is made stands there, and no other file was changed. -/
theorem stands_of_generate (ends : (generate d directory k).Ends t u (.ok x)) :
    Stands d directory u k x ∧ Rewrites [filePath directory k] t u := by
  obtain ⟨s, made, rendered, written, kind, path⟩ := generate_ends_ok_iff.1 ends
  have rewrites := Rewrites.of_write written
  have folder := Rewrites.makeDirectories t (folderPath directory k)
  rw [made] at folder
  have there := FileTree.hasDirectory_of_makeDirectories made
  exact ⟨⟨kind, path, rendered, rewrites.grows.hasDirectory there, FileTree.read_of_write written⟩,
    (folder.mono (List.nil_subset _)).trans rewrites⟩

/-- One that is not made has changed no file. -/
theorem Fails.rewrites (h : Fails d directory k t u e) : Rewrites [] t u := by
  have folder := Rewrites.makeDirectories t (folderPath directory k)
  cases h with
  | folder failed => rwa [failed] at folder
  | text made _ | file made _ _ => rwa [made] at folder

namespace Stands

/-- Other artifacts may be made beside it. -/
theorem keep (h : Stands d directory t k x) (others : k ∉ ks)
    (rewrites : Rewrites (ks.map (filePath directory)) t u) : Stands d directory u k x where
  kind_eq := h.kind_eq
  path_eq := h.path_eq
  render_eq := h.render_eq
  hasDirectory := rewrites.grows.hasDirectory h.hasDirectory
  read_eq := by
    refine rewrites.read_eq_ok h.read_eq fun path mem l denoted => ?_
    obtain ⟨j, hj, rfl⟩ := List.mem_map.1 mem
    have ne : j ≠ k := by
      rintro rfl
      exact others hj
    exact resolve_filePath_ne ne denoted

/-- Making it again does nothing. -/
theorem again (h : Stands d directory u k x) : (generate d directory k).Ends u u (.ok x) :=
  generate_ends_ok_iff.2 ⟨u, h.hasDirectory.makeDirectories_eq, h.render_eq,
    FileTree.write_of_read h.read_eq, h.kind_eq, h.path_eq⟩

end Stands

/-! ### One artifact after the other -/

theorem generateEach_cons_ends_ok_iff {xs : List Artifact} :
    (generateEach d directory (k :: ks)).Ends t u (.ok xs) ↔ ∃ x others s, xs = x :: others ∧
      (generate d directory k).Ends t s (.ok x) ∧
      (generateEach d directory ks).Ends s u (.ok others) := by
  simp only [generateEach, Session.ends_bind_ok_iff, Session.ends_pure_ok_iff]
  constructor
  · rintro ⟨x, s, first, others, _, rest, rfl, rfl⟩
    exact ⟨x, others, s, rfl, first, rest⟩
  · rintro ⟨x, others, s, rfl, first, rest⟩
    exact ⟨x, s, first, others, u, rest, rfl, rfl⟩

/-- The artifacts that are made stand there in the end, and no other file was changed. -/
theorem stands_of_generateEach {xs : List Artifact} (nodup : ks.Nodup)
    (ends : (generateEach d directory ks).Ends t u (.ok xs)) :
    List.Forall₂ (Stands d directory u) ks xs ∧ Rewrites (ks.map (filePath directory)) t u := by
  induction ks generalizing t xs with
  | nil =>
    obtain ⟨rfl, rfl⟩ := Session.ends_pure_ok_iff.1 ends
    exact ⟨.nil, .refl t⟩
  | cons k ks ih =>
    obtain ⟨fresh, nodup⟩ := List.nodup_cons.1 nodup
    obtain ⟨x, others, s, rfl, first, rest⟩ := generateEach_cons_ends_ok_iff.1 ends
    obtain ⟨stands, rewrites⟩ := stands_of_generate first
    obtain ⟨further, rewrites'⟩ := ih nodup rest
    refine ⟨.cons (stands.keep fresh rewrites') further, ?_⟩
    exact (rewrites.mono (by simp)).trans (rewrites'.mono (by simp))

/-- Making artifacts that stand there does nothing. -/
theorem generateEach_again {xs : List Artifact} (h : List.Forall₂ (Stands d directory u) ks xs) :
    (generateEach d directory ks).Ends u u (.ok xs) := by
  induction h with
  | nil => exact ⟨rfl, rfl⟩
  | cons stands _ ih => exact generateEach_cons_ends_ok_iff.2 ⟨_, _, u, rfl, stands.again, ih⟩

/-- A run that fails has made the artifacts before one that it cannot make. -/
theorem exists_fails_of_generateEach (ends : (generateEach d directory ks).Ends t u (.error e)) :
    ∃ before k after xs s, ks = before ++ k :: after ∧
      (generateEach d directory before).Ends t s (.ok xs) ∧ Fails d directory k s u e := by
  induction ks generalizing t with
  | nil => exact (Session.ends_pure_error_iff.1 ends).elim
  | cons k ks ih =>
    simp only [generateEach, Session.ends_bind_error_iff, Session.ends_pure_error_iff,
      generate_ends_error_iff, and_false, exists_false, or_false] at ends
    rcases ends with fails | ⟨x, s, first, rest⟩
    · exact ⟨[], k, ks, [], t, rfl, ⟨rfl, rfl⟩, fails⟩
    · obtain ⟨before, j, after, xs, v, rfl, made, fails⟩ := ih rest
      exact ⟨k :: before, j, after, x :: xs, v, rfl,
        generateEach_cons_ends_ok_iff.2 ⟨x, xs, s, rfl, first, made⟩, fails⟩

/-! ### All artifacts -/

/-- What comes of making all artifacts: the tree that is left and the outcome. -/
structure Generates (d : Design) (directory : String) (t u : FileTree)
    (outcome : Except Error (List Artifact)) : Prop where
  /-- All that are made hold exactly the text that is handed back, which is that of their kind. -/
  made : ∀ artifacts, outcome = .ok artifacts →
    List.Forall₂ (fun k x => x.kind = k ∧ x.path = filePath directory k ∧
      k.render d = .ok x.content ∧ u.read x.path = .ok x.content) ArtifactKind.all artifacts
  /-- No other file is changed. -/
  framed : ∀ l, (∀ k, u.resolve (filePath directory k) ≠ .ok l) → u.file? l = t.file? l
  /-- Making them again hands back the same and leaves the tree as it is. -/
  again : ∀ artifacts, outcome = .ok artifacts →
    (generateAll d directory).Ends u u (.ok artifacts)
  /-- A run fails at some kind, for its folder, its text or its file. The files of the kinds before
  it hold their text, and those of this kind and the ones behind it are what they were. -/
  failed : ∀ e, outcome = .error e → ∃ before k after, ArtifactKind.all = before ++ k :: after ∧
    (∃ artifacts s, (generateEach d directory before).Ends t s (.ok artifacts) ∧
      Fails d directory k s u e) ∧
    (∀ j ∈ before, ∃ content, j.render d = .ok content ∧
      u.read (filePath directory j) = .ok content) ∧
    ∀ j ∈ k :: after, ∀ l, t.resolve (filePath directory j) = .ok l ∨
      u.resolve (filePath directory j) = .ok l → u.file? l = t.file? l

/-- A run that succeeds leaves all artifacts, and can be repeated. -/
theorem Generates.of_ok {artifacts : List Artifact}
    (ends : (generateAll d directory).Ends t u (.ok artifacts)) :
    Generates d directory t u (.ok artifacts) := by
  obtain ⟨stands, rewrites⟩ := stands_of_generateEach (by decide) ends
  refine ⟨?_, fun l apart => rewrites.file?_eq l ?_, ?_, fun _ other => (by cases other)⟩
  · rintro _ ⟨⟩
    refine stands.imp fun k x h => ⟨h.kind_eq, h.path_eq, h.render_eq, ?_⟩
    rw [h.path_eq, h.read_eq]
  · intro path mem
    obtain ⟨k, -, rfl⟩ := List.mem_map.1 mem
    exact apart k
  · rintro _ ⟨⟩
    exact generateEach_again stands

/-- A run that fails leaves the artifacts before one that it cannot make. -/
theorem Generates.of_error (ends : (generateAll d directory).Ends t u (.error e)) :
    Generates d directory t u (.error e) := by
  obtain ⟨before, k, after, xs, s, split, made, fails⟩ := exists_fails_of_generateEach ends
  have nodup : (before ++ k :: after).Nodup := split ▸ (by decide : ArtifactKind.all.Nodup)
  obtain ⟨first, -, fresh⟩ := List.nodup_append.1 nodup
  obtain ⟨stands, rewrites⟩ := stands_of_generateEach first made
  have rewrites := rewrites.trans (fails.rewrites.mono (List.nil_subset _))
  refine ⟨fun _ other => (by cases other), fun l apart => rewrites.file?_eq l ?_,
    fun _ other => (by cases other), ?_⟩
  · intro path mem
    obtain ⟨j, -, rfl⟩ := List.mem_map.1 mem
    exact apart j
  · rintro _ ⟨⟩
    refine ⟨before, k, after, split, ⟨xs, s, made, fails⟩, fun j hj => ?_, fun j hj l place => ?_⟩
    · obtain ⟨x, -, hx⟩ := exists_of_forall₂ stands.flip hj
      have untouched : Rewrites ([].map (filePath directory)) s u := fails.rewrites
      have last := hx.keep List.not_mem_nil untouched
      exact ⟨x.content, last.render_eq, last.read_eq⟩
    · have denoted : u.resolve (filePath directory j) = .ok l :=
        place.elim rewrites.grows.resolve id
      refine rewrites.file?_eq l fun path mem denoted' => ?_
      obtain ⟨i, hi, rfl⟩ := List.mem_map.1 mem
      exact resolve_filePath_ne (fresh i hi j hj) denoted' denoted

/-- **Artifacts are all made, or made up to the first that fails.** For every design, build directory
and tree, what is made replaces what was there, in its own files and no others; a run can be
repeated, and one that fails leaves the files from where it failed as they were. -/
theorem generates (d : Design) (directory : String) (t : FileTree) :
    Generates d directory t ((generateAll d directory).run t).1
      ((generateAll d directory).run t).2.outcome := by
  cases outcome : ((generateAll d directory).run t).2.outcome with
  | ok artifacts => exact .of_ok ⟨rfl, outcome⟩
  | error e => exact .of_error ⟨rfl, outcome⟩

/-- A tree with an older linker script and something beside it. -/
def olderTree : FileTree where
  nodes := [(["out"], .directory), (["out", "genc"], .directory),
    (["out", "genc", "soc.ld"], .file "older"), (["out", "genc", "notes"], .file "kept")]

/-- The lamps have all artifacts, and what stands beside them stays. -/
theorem generates_olderTree : ∃ artifacts u,
    (generateAll (Soc.lampDesign "User LEDs") "out").Ends olderTree u (.ok artifacts) ∧
      artifacts.length = 4 ∧ u.file? ["out", "genc", "notes"] = some "kept" ∧
      (generateAll (Soc.lampDesign "User LEDs") "out").Ends u u (.ok artifacts) := by
  have done : ((generateAll (Soc.lampDesign "User LEDs") "out").run
      olderTree).2.outcome.isOk = true := by decide +kernel
  have apart : ∀ k ∈ ArtifactKind.all, ((generateAll (Soc.lampDesign "User LEDs") "out").run
      olderTree).1.resolve (filePath "out" k) ≠ .ok ["out", "genc", "notes"] := by decide +kernel
  have every : ∀ k : ArtifactKind, k ∈ ArtifactKind.all := by
    rintro ⟨⟩ <;> decide
  have beside : olderTree.file? ["out", "genc", "notes"] = some "kept" := by decide
  obtain ⟨artifacts, made⟩ := except_isOk_iff.1 done
  have files := generates (Soc.lampDesign "User LEDs") "out" olderTree
  exact ⟨artifacts, _, ⟨rfl, made⟩, (files.made artifacts made).length_eq.symm,
    (files.framed _ fun k => apart k (every k)).trans beside, files.again artifacts made⟩

end Artifact

end SocAssembly
