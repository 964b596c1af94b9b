import Mathlib
import SocAssembly.FileTree
import SocAssembly.Proofs.Reports
import SocAssembly.Proofs.Sessions

/-!
# What happens to files

Two trees are compared by their files alone (`FileTree.file?`); directories may come into being on
the way, and making them changes no file (`FileTree.file?_makeDirectories`). The location of a name
below a path ends in that name, in any tree and however the path is spelled
(`FileTree.getLast?_of_resolve_joinPath`). So it can be told by names, before anything is run, where
files may change: two trees agree outside of these locations (`FileTree.AgreesOutside`), and a
session changes files there and nowhere else (`Session.ChangesOnly`), whether it succeeds or fails.
-/

namespace SocAssembly

/-! ### Names below paths -/

/-- A name that denotes what is below a path, and nothing else. -/
def IsFileName (name : String) : Prop :=
  '/' ∉ name.toList ∧ name ≠ "" ∧ name ≠ "." ∧ name ≠ ".."

instance (name : String) : Decidable (IsFileName name) := inferInstanceAs (Decidable (_ ∧ _))

theorem pathSteps_of_toList {path : String} {front back : List Char}
    (h : path.toList = front ++ '/' :: back) :
    pathSteps path = pathSteps (String.ofList front) ++ pathSteps (String.ofList back) := by
  unfold pathSteps
  rw [h, List.splitOnP_append_cons _ _ (by rfl), List.filter_append, List.map_append,
    String.toList_ofList, String.toList_ofList]

theorem pathSteps_empty : pathSteps "" = [] := by decide

theorem endsWith_slash_iff {path : String} :
    path.endsWith "/" = true ↔ ∃ front, path.toList = front ++ ['/'] := by
  rw [String.endsWith_eq_endsWith_toSlice, String.Slice.endsWith_string_iff,
    String.copy_toSlice]
  exact exists_congr fun front => eq_comm

/-- A slash at the end of a path is no step. -/
theorem pathSteps_of_endsWith {path : String} {front : List Char}
    (h : path.toList = front ++ ['/']) : pathSteps path = pathSteps (String.ofList front) := by
  rw [pathSteps_of_toList h]
  exact (congrArg _ pathSteps_empty).trans (List.append_nil _)

theorem exists_toList_joinPath (path name : String) :
    ∃ front, (joinPath path name).toList = front ++ name.toList := by
  unfold joinPath
  split
  · exact ⟨path.toList, String.toList_append⟩
  · exact ⟨(path ++ "/").toList, String.toList_append⟩

namespace IsFileName

variable {name : String}

theorem toList_ne_nil (h : IsFileName name) : name.toList ≠ [] := fun empty =>
  h.2.1 (String.toList_eq_nil_iff.1 empty)

theorem pathSteps_eq (h : IsFileName name) : pathSteps name = [.down name] := by
  have kept := h.toList_ne_nil
  obtain ⟨plain, -, notDot, notDots⟩ := h
  have whole : name.toList.splitOnP (· = '/') = [name.toList] := by
    refine List.splitOnP_eq_singleton fun c hc => ?_
    simpa using fun slash : c = '/' => plain (slash ▸ hc)
  simp [pathSteps, whole, kept, PathStep.ofText, notDot, notDots]

/-- A name below a path is one more step down. -/
theorem pathSteps_joinPath (h : IsFileName name) (path : String) :
    pathSteps (joinPath path name) = pathSteps path ++ [.down name] := by
  unfold joinPath
  split
  · rename_i closed
    rw [Bool.or_eq_true, decide_eq_true_eq] at closed
    rcases closed with rfl | closed
    · rw [String.empty_append, pathSteps_empty, h.pathSteps_eq, List.nil_append]
    · obtain ⟨front, hfront⟩ := endsWith_slash_iff.1 closed
      have split : (path ++ name).toList = front ++ '/' :: name.toList := by simp [hfront]
      rw [pathSteps_of_toList split, pathSteps_of_endsWith hfront, String.ofList_toList,
        h.pathSteps_eq]
  · have split : (path ++ "/" ++ name).toList = path.toList ++ '/' :: name.toList := by simp
    rw [pathSteps_of_toList split, String.ofList_toList, String.ofList_toList, h.pathSteps_eq]

theorem stepsTo_joinPath (h : IsFileName name) (path : String) :
    stepsTo (joinPath path name) = pathSteps path ++ [.down name] := by
  have opened : (joinPath path name).endsWith "/" = false := by
    rw [Bool.eq_false_iff]
    intro closed
    obtain ⟨front, hfront⟩ := endsWith_slash_iff.1 closed
    obtain ⟨pre, joined⟩ := exists_toList_joinPath path name
    have last : name.toList.getLast? = some '/' := by
      rw [← List.getLast?_append_of_ne_nil pre h.toList_ne_nil, ← joined, hfront]
      exact List.getLast?_concat ..
    exact h.1 (List.mem_of_getLast? last)
  rw [stepsTo, opened, h.pathSteps_joinPath]
  rfl

end IsFileName

namespace FileTree

variable {t u : FileTree}

/-- Steps lead to where the last of them leads from where the others lead. -/
theorem walk_concat_eq_ok_iff {l m : Location} {steps : List PathStep} {s : PathStep} :
    t.walk l (steps ++ [s]) = .ok m ↔ ∃ k, t.walk l steps = .ok k ∧
      t.checkDirectory k = .ok () ∧ s.check = .ok () ∧ s.apply k = m := by
  induction steps generalizing l with
  | nil => simp [walk, bind, except_bind_eq_ok_iff, Unique.exists_iff]
  | cons r rest ih =>
    simp only [List.cons_append, walk, bind, except_bind_eq_ok_iff, Unique.exists_iff, ih,
      exists_and_left, and_assoc]

/-- A name below a path leads to a location that ends in this name. -/
theorem getLast?_of_resolve_joinPath {path name : String} (h : IsFileName name) {l : Location}
    (ok : t.resolve (joinPath path name) = .ok l) : l.getLast? = some name := by
  unfold resolve at ok
  obtain ⟨_, -, ok⟩ := except_bind_eq_ok_iff.1 ok
  rw [h.stepsTo_joinPath] at ok
  obtain ⟨k, -, -, -, rfl⟩ := walk_concat_eq_ok_iff.1 ok
  exact List.getLast?_concat ..

/-! ### Files -/

/-- What the file at a location holds, if there is one. -/
def file? (t : FileTree) (l : Location) : Option String :=
  match t.node? l with
  | some (.file content) => some content
  | _ => none

theorem file?_eq_of_node? {l : Location} (h : u.node? l = t.node? l) : u.file? l = t.file? l := by
  unfold file?
  rw [h]

/-- Directories that are made where nothing is change no file. -/
theorem file?_put_directory {m : Location} (free : t.node? m = none) (l : Location) :
    (t.put m .directory).file? l = t.file? l := by
  by_cases same : l = m
  · have below : m ≠ [] := by
      rintro rfl
      cases free
    unfold file?
    rw [same, node?_put_self below, free]
  · exact file?_eq_of_node? (node?_put_of_ne same t .directory)

theorem file?_makeDirectory {l : Location} {steps : List PathStep}
    (ok : t.makeDirectory l steps = .ok u) (k : Location) : u.file? k = t.file? k := by
  induction steps generalizing l with
  | nil => cases ok
  | cons s rest ih =>
    unfold makeDirectory at ok
    obtain ⟨_, -, ok⟩ := except_bind_eq_ok_iff.1 ok
    obtain ⟨_, -, ok⟩ := except_bind_eq_ok_iff.1 ok
    split at ok
    · split at ok
      · rename_i free
        cases ok
        exact file?_put_directory free k
      · cases ok
    · exact ih ok

theorem file?_ensureDirectory (t : FileTree) (l : Location) (steps : List PathStep)
    (k : Location) : (t.ensureDirectory l steps).1.file? k = t.file? k := by
  unfold ensureDirectory
  split
  · rename_i u made
    exact file?_makeDirectory made k
  · rfl

theorem file?_makeWithin (t : FileTree) (l : Location) (steps : List PathStep)
    (enclosing : List (List PathStep)) (k : Location) :
    (t.makeWithin l steps enclosing).1.file? k = t.file? k := by
  induction enclosing generalizing steps with
  | nil => exact t.file?_ensureDirectory l steps k
  | cons outer further ih =>
    have within := ih outer
    unfold makeWithin
    split
    · split
      · rename_i u made
        rw [made] at within
        rw [file?_ensureDirectory, within]
      · exact within
    · exact t.file?_ensureDirectory l steps k

/-- Making directories changes no file. -/
theorem file?_makeDirectories (t : FileTree) (path : String) (k : Location) :
    (t.makeDirectories path).1.file? k = t.file? k := by
  unfold makeDirectories
  split
  · rfl
  · split
    · rfl
    · exact t.file?_makeWithin _ _ _ k

/-- The trees have the same files, except at some locations. -/
def AgreesOutside (changed : Set Location) (t u : FileTree) : Prop :=
  ∀ l, l ∉ changed → u.file? l = t.file? l

namespace AgreesOutside

variable {changed : Set Location} {v : FileTree}

theorem of_eq (h : ∀ l, u.file? l = t.file? l) : AgreesOutside changed t u := fun l _ => h l

theorem refl (t : FileTree) : AgreesOutside changed t t := .of_eq fun _ => rfl

theorem trans (h : AgreesOutside changed t u) (h' : AgreesOutside changed u v) :
    AgreesOutside changed t v := fun l hl => (h' l hl).trans (h l hl)

end AgreesOutside

/-- The path denotes one of these locations in every tree, if it denotes anything. -/
def DenotesIn (locations : Set Location) (path : String) : Prop :=
  ∀ (t : FileTree) l, t.resolve path = .ok l → l ∈ locations

end FileTree

/-! ### Sessions -/

namespace Session

open FileTree

variable {α β : Type} {changed : Set Location}

/-- The session changes files at these locations and nowhere else, even if it fails. -/
def ChangesOnly (changed : Set Location) (x : Session FileTree α) : Prop :=
  ∀ t, AgreesOutside changed t (x.run t).1

theorem ReadsOnly.changesOnly {x : Session FileTree α} (h : x.ReadsOnly) :
    x.ChangesOnly changed := by
  intro t
  rw [h t]
  exact .refl t

theorem ChangesOnly.bind {x : Session FileTree α} {next : α → Session FileTree β}
    (h : x.ChangesOnly changed) (hnext : ∀ a, (next a).ChangesOnly changed) :
    (x >>= next).ChangesOnly changed :=
  rel_run_bind (R := AgreesOutside changed) AgreesOutside.trans h hnext

end Session

end SocAssembly
