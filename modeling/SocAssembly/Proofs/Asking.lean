import Mathlib
import SocAssembly.Proofs.Wiring

/-!
# Asking for one resource

Three questions are asked of a candidate at different points: whether the platform has it, whether
it was handed out before, and whether its pins can be worked out. Only the first of them leads on to
the next candidate. So the first candidate that exists decides (`Platform.Decided`): it is bound, or
it is taken or broken and that is the end of it, as if it had been asked for alone
(`Platform.Alone`); what stands behind it is not looked at (`Platform.requestAny_run_first`). To do
without a resource is a way out only if no candidate exists, and a request for a single key differs
from one for a list of one candidate in the wording of the one error that nothing is there.
-/

namespace SocAssembly

namespace Platform

/-! ### How asking can end -/

/-- The platform has none of these resources. -/
def Lacks (p : Platform) (ks : List ResourceKey) : Prop := ∀ k ∈ ks, p.board.resource? k = none

/-- What is said of candidates none of which exists. -/
def missing (p : Platform) (ks : List ResourceKey) : Error :=
  .noCandidateResource (String.intercalate ", " (ks.map (·.text))) p.name

/-- How it ends when the resource `r` is asked for, under the name `asked`, and nothing else. -/
inductive Alone (p : Platform) (asked : String) (r : Resource) :
    Platform → Except Error ResourceBinding → Prop where
  /-- It was handed out before. -/
  | taken (taken : r.key ∈ p.requested) :
      Alone p asked r p (.error (.resourceAlreadyRequested r.name r.number))
  /-- It is free, and does not resolve. -/
  | broken {e : Error} (free : r.key ∉ p.requested) (breaks : p.board.Breaks r e) :
      Alone p asked r p (.error e)
  /-- It is free and resolves, so it is bound and its key is marked. -/
  | bound {signals : List SignalBinding} (free : r.key ∉ p.requested)
      (resolved : p.board.resolve r = .ok signals) :
      Alone p asked r (p.mark r.key)
        (.ok ⟨asked, r.name, r.number, asked ≠ r.name, r.clock, signals⟩)

/-- How it ends when candidates are asked for, best first. -/
inductive Decided (p : Platform) :
    List ResourceKey → Platform → Except Error ResourceBinding → Prop where
  /-- There are no candidates. -/
  | unnamed : Decided p [] p (.error .emptyCandidates)
  /-- None of them exists. -/
  | missing {ks : List ResourceKey} (named : ks ≠ []) (lacks : p.Lacks ks) :
      Decided p ks p (.error (p.missing ks))
  /-- The first that exists is asked for alone, under the name of the best. -/
  | first {before rest : List ResourceKey} {k best : ResourceKey} {r : Resource} {q : Platform}
      {outcome : Except Error ResourceBinding} (lacks : p.Lacks before)
      (found : p.board.resource? k = some r) (head : (before ++ k :: rest).head? = some best)
      (alone : p.Alone best.name r q outcome) : Decided p (before ++ k :: rest) q outcome

/-- A resource that exists is not missing, whatever is wrong with it. -/
theorem Alone.isMissingResource_eq_false {p q : Platform} {asked : String} {r : Resource}
    {e : Error} (h : p.Alone asked r q (.error e)) : e.isMissingResource = false := by
  cases h with
  | taken => rfl
  | broken _ breaks => exact Board.isMissingResource_of_resolve (Board.resolve_eq_error_iff.2 breaks)

/-- Candidates are missing only if there are some and none exists. -/
theorem Decided.isMissingResource_iff {p q : Platform} {ks : List ResourceKey} {e : Error}
    (h : p.Decided ks q (.error e)) : e.isMissingResource = true ↔ ks ≠ [] ∧ p.Lacks ks := by
  cases h with
  | unnamed => simp [Error.isMissingResource]
  | missing named lacks => exact iff_of_true rfl ⟨named, lacks⟩
  | @first before rest k best r q outcome lacks found head alone =>
    rw [alone.isMissingResource_eq_false]
    refine iff_of_false Bool.false_ne_true ?_
    rintro ⟨-, all⟩
    have absent := all k (List.mem_append_right before (List.mem_cons_self ..))
    rw [found] at absent
    cases absent

/-! ### Candidates -/

variable {p : Platform} {r : Resource} {before rest candidates : List ResourceKey}
  {k best : ResourceKey}

/-- Candidates all of which are missing, or the first that exists stands among them. -/
theorem lacks_or_exists_first (p : Platform) (candidates : List ResourceKey) :
    p.Lacks candidates ∨ ∃ before k rest r, candidates = before ++ k :: rest ∧ p.Lacks before ∧
      p.board.resource? k = some r := by
  cases found : p.board.firstResource? candidates with
  | none => exact Or.inl (List.findSome?_eq_none_iff.1 found)
  | some r =>
    obtain ⟨before, k, rest, split, found, lacks⟩ := List.findSome?_eq_some_iff.1 found
    exact Or.inr ⟨before, k, rest, r, split, lacks, found⟩

/-- The best candidate does not depend on what stands behind another. -/
theorem exists_best (before : List ResourceKey) (k : ResourceKey) :
    ∃ best, ∀ rest, (before ++ k :: rest).head? = some best := by
  cases before with
  | nil => exact ⟨k, fun _ => rfl⟩
  | cons best _ => exact ⟨best, fun _ => rfl⟩

theorem bind_alone (asked : String) (r : Resource) (p : Platform) :
    p.Alone asked r ((bind asked r).run p).1 ((bind asked r).run p).2.outcome := by
  rw [bind_run]
  by_cases taken : r.key ∈ p.requested
  · rw [binding?_of_taken asked taken]
    exact .taken taken
  · rw [binding?_of_free asked taken]
    cases resolved : p.board.resolve r with
    | error e => exact .broken taken (Board.resolve_eq_error_iff.1 resolved)
    | ok signals => exact .bound taken resolved

/-- Those that are missing are reported up to the first that exists, and that one is bound or not.
Nothing depends on what stands behind it. -/
theorem requestAny_run_first (lacks : p.Lacks before) (found : p.board.resource? k = some r)
    (head : (before ++ k :: rest).head? = some best) :
    (requestAny (before ++ k :: rest)).run p =
      (((bind best.name r).run p).1,
        ⟨before.map (fun l => .candidateMissing p.name l.name l.number) ++
            ((bind best.name r).run p).2.notices,
          ((bind best.name r).run p).2.outcome⟩) := by
  have first : p.board.firstResource? (before ++ k :: rest) = some r :=
    List.findSome?_eq_some_iff.2 ⟨before, k, rest, rfl, found, lacks⟩
  have reported : (p.noteMissing (before ++ k :: rest)).notices =
      before.map fun l => .candidateMissing p.name l.name l.number := by
    unfold noteMissing
    rw [List.takeWhile_append_of_pos fun l hl => Option.isNone_iff_eq_none.2 (lacks l hl),
      List.takeWhile_cons_of_neg (by simp [found]), List.append_nil]
  obtain ⟨tail, split⟩ := List.head?_eq_some_iff.1 head
  rw [← reported]
  rw [split] at first ⊢
  exact requestAny_run first

theorem requestAny_decided (candidates : List ResourceKey) (p : Platform) :
    p.Decided candidates ((requestAny candidates).run p).1
      ((requestAny candidates).run p).2.outcome := by
  rcases lacks_or_exists_first p candidates with lacks | ⟨before, k, rest, r, rfl, lacks, found⟩
  · cases candidates with
    | nil => exact .unnamed
    | cons best rest =>
      rw [requestAny_run_missing (List.findSome?_eq_none_iff.2 lacks)]
      exact .missing (List.cons_ne_nil best rest) lacks
  · obtain ⟨best, head⟩ := exists_best before k
    rw [requestAny_run_first lacks found (head rest)]
    exact .first lacks found (head rest) (bind_alone best.name r p)

/-- Candidates behind one that exists count for nothing. -/
theorem requestAny_run_eq (found : (p.board.resource? k).isSome)
    (before rest rest' : List ResourceKey) :
    (requestAny (before ++ k :: rest')).run p = (requestAny (before ++ k :: rest)).run p := by
  have of_lacks : ∀ {before k r} (rest rest' : List ResourceKey), p.Lacks before →
      p.board.resource? k = some r →
      (requestAny (before ++ k :: rest')).run p = (requestAny (before ++ k :: rest)).run p := by
    intro before k r rest rest' lacks found
    obtain ⟨best, head⟩ := exists_best before k
    rw [requestAny_run_first lacks found (head rest'), requestAny_run_first lacks found (head rest)]
  rcases lacks_or_exists_first p before with lacks | ⟨before', l, mid, r, rfl, lacks, found'⟩
  · obtain ⟨r, found⟩ := Option.isSome_iff_exists.1 found
    exact of_lacks rest rest' lacks found
  · simp only [List.append_assoc, List.cons_append]
    exact of_lacks _ _ lacks found'

/-- Asking for candidates warns of nothing. -/
theorem warnings_requestAny (candidates : List ResourceKey) (p : Platform) :
    warnings ((requestAny candidates).run p).2.notices = [] := by
  cases candidates with
  | nil => rfl
  | cons best rest =>
    cases found : p.board.firstResource? (best :: rest) with
    | none => rw [requestAny_run_missing found, warnings_noteMissing]
    | some r =>
      rw [requestAny_run found, warnings_append, warnings_noteMissing, bind_run]
      cases p.binding? best.name r <;> rfl

/-! ### Doing without -/

theorem requestOptional_run_lacks (named : candidates ≠ []) (lacks : p.Lacks candidates) :
    (requestOptional candidates).run p =
      (p, ⟨((requestAny candidates).run p).2.notices ++ [.bindingSkipped (p.missing candidates)],
        .ok none⟩) := by
  cases candidates with
  | nil => exact absurd rfl named
  | cons best rest =>
    rw [requestOptional_run, requestAny_run_missing (List.findSome?_eq_none_iff.2 lacks)]
    rfl

/-- Unless all candidates are missing, an optional request does what any other does. -/
theorem requestOptional_run_of_not_lacks (h : ¬ (candidates ≠ [] ∧ p.Lacks candidates)) :
    (requestOptional candidates).run p = (some <$> requestAny candidates).run p := by
  have decided := requestAny_decided candidates p
  rw [requestOptional_run, Session.run_map]
  cases outcome : ((requestAny candidates).run p).2.outcome with
  | ok b => rfl
  | error e =>
    rw [outcome] at decided
    exact if_neg (decided.isMissingResource_iff.not.2 h)

/-! ### What a caller can rely on -/

/-- What it means to ask the platform `p` for candidates, with or without need, or for a single
key. -/
structure AsksInOrder (p : Platform) (candidates : List ResourceKey) : Prop where
  /-- The first candidate that exists decides. -/
  decided : p.Decided candidates ((requestAny candidates).run p).1
    ((requestAny candidates).run p).2.outcome
  /-- Whatever stands behind a candidate that exists counts for nothing. -/
  rest_irrelevant : ∀ before k rest, candidates = before ++ k :: rest →
    (p.board.resource? k).isSome → ∀ rest',
      (requestAny (before ++ k :: rest')).run p = (requestAny candidates).run p
  /-- An optional request is passed over exactly if there are candidates and none exists. -/
  passedOver_iff : ((requestOptional candidates).run p).2.outcome = .ok none ↔
    candidates ≠ [] ∧ p.Lacks candidates
  /-- Then there is one warning, and the platform is as it was. -/
  warned : candidates ≠ [] → p.Lacks candidates → ((requestOptional candidates).run p).1 = p ∧
    warnings ((requestOptional candidates).run p).2.notices =
      [.bindingSkipped (p.missing candidates)]
  /-- Otherwise it does what a request that is not optional does, and warns of nothing. -/
  optional_eq : ¬ (candidates ≠ [] ∧ p.Lacks candidates) →
    (requestOptional candidates).run p = (some <$> requestAny candidates).run p ∧
      warnings ((requestOptional candidates).run p).2.notices = []
  /-- A key that exists is asked for like a single candidate. -/
  request_eq : ∀ k, (p.board.resource? k).isSome → (request k).run p = (requestAny [k]).run p
  /-- One that does not exist is an error of another name. -/
  request_absent : ∀ k, p.board.resource? k = none →
    (request k).Ends p p (.error (.resourceNotFound k.name k.number p.name)) ∧
      (requestAny [k]).Ends p p (.error (.noCandidateResource k.text p.name))

theorem request_run_eq (found : (p.board.resource? k).isSome) :
    (request k).run p = (requestAny [k]).run p := by
  obtain ⟨r, found⟩ := Option.isSome_iff_exists.1 found
  have single : (requestAny ([] ++ k :: [])).run p = _ :=
    requestAny_run_first (List.forall_mem_nil _) found rfl
  rw [request_run found]
  exact single.symm

theorem request_ends_of_absent (absent : p.board.resource? k = none) :
    (request k).Ends p p (.error (.resourceNotFound k.name k.number p.name)) := by
  unfold Session.Ends request
  rw [Session.run_state_bind, absent]
  exact ⟨rfl, rfl⟩

/-- **The first candidate that exists decides.** This holds of every platform and every list of
candidates, whether the resource is needed or not, and of single keys. -/
theorem asksInOrder (p : Platform) (candidates : List ResourceKey) : p.AsksInOrder candidates where
  decided := requestAny_decided candidates p
  rest_irrelevant := by
    rintro before k rest rfl found rest'
    exact requestAny_run_eq found before rest rest'
  passedOver_iff := by
    constructor
    · intro passedOver
      by_contra kept
      rw [requestOptional_run_of_not_lacks kept, Session.run_map] at passedOver
      obtain ⟨b, -, contra⟩ := exists_of_except_map_eq_ok passedOver
      cases contra
    · rintro ⟨named, lacks⟩
      rw [requestOptional_run_lacks named lacks]
  warned := by
    intro named lacks
    rw [requestOptional_run_lacks named lacks, warnings_append, warnings_requestAny]
    exact ⟨rfl, rfl⟩
  optional_eq := by
    intro kept
    rw [requestOptional_run_of_not_lacks kept, Session.run_map]
    exact ⟨rfl, warnings_requestAny candidates p⟩
  request_eq := fun k found => request_run_eq found
  request_absent := by
    intro k absent
    have lacks : p.Lacks [k] := List.forall_mem_singleton.2 absent
    refine ⟨request_ends_of_absent absent, ?_⟩
    unfold Session.Ends
    rw [requestAny_run_missing (List.findSome?_eq_none_iff.2 lacks)]
    exact ⟨rfl, rfl⟩

/-- A platform with two lamps. -/
def lampPair : Platform where
  board := {
    name := "bench"
    device := "LFE5U-12F"
    package := "BG256"
    defaultClock := "clk"
    clockFrequencies := ∅
    resources := [{ name := "led", pins := some "A1" },
      { name := "led", number := 1, pins := some "B1" }] }

-- A lamp that is taken is not passed over, even if another one is free.
example : ((requestOptional [⟨"rgb", 0⟩, ⟨"led", 0⟩, ⟨"led", 1⟩]).run (lampPair.mark ⟨"led", 0⟩)) =
    (lampPair.mark ⟨"led", 0⟩,
      ⟨[.candidateMissing "bench" "rgb" 0], .error (.resourceAlreadyRequested "led" 0)⟩) := by cbv

end Platform

end SocAssembly
