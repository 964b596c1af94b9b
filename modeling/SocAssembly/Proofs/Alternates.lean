import Mathlib
import SocAssembly.Proofs.Asking

/-!
# Alternates

A binding tells whether an alternate stands in for the best candidate, and which. Candidates are
keys, but only their names are compared. So an alternate is marked and named exactly if it is not a
namesake of the best candidate, which is a resource of its name under another number
(`ResourceBinding.Tells`). A namesake passes for the resource that was wanted, as the second of two
lamps does for a third (`Platform.unmarked_namesake`).

Nothing is marked that is not an alternate. All alternates are marked, and listed by an elaboration,
exactly if no signal got a namesake (`Elaboration.ListsAlternates`); it is enough that the best
candidate of each wire has no namesakes among the others.
-/

namespace SocAssembly

/-! ### What a binding tells -/

namespace ResourceBinding

/-- The resource has the name of the best candidate, under another number. -/
def IsNamesake (b : ResourceBinding) (best : ResourceKey) : Prop :=
  b.resource = best.name ∧ b.number ≠ best.number

/-- An alternate to the best candidate is marked and named, and nothing else is. -/
structure Marks (b : ResourceBinding) (best : ResourceKey) : Prop where
  /-- It is marked. -/
  fallback_iff : b.fallback = true ↔ b.key ≠ best
  /-- It is named. -/
  fallbackUsed_iff : b.fallbackUsed = some b.resource ↔ b.key ≠ best

/-- What the binding of one of the candidates tells of the best of them. -/
structure Tells (b : ResourceBinding) (candidates : List ResourceKey) (best : ResourceKey) :
    Prop where
  /-- One of the candidates was bound. -/
  key_mem : b.key ∈ candidates
  /-- The best counts as asked for. -/
  requested_eq : b.requested = best.name
  /-- An alternate is marked unless it is a namesake. -/
  fallback_iff : b.fallback = true ↔ b.key ≠ best ∧ ¬ b.IsNamesake best
  /-- It is named if it is marked. -/
  fallbackUsed_eq_some_iff : ∀ name, b.fallbackUsed = some name ↔
    name = b.resource ∧ b.key ≠ best ∧ ¬ b.IsNamesake best

variable {b : ResourceBinding} {candidates : List ResourceKey} {best : ResourceKey}

theorem IsNamesake.key_ne (h : b.IsNamesake best) : b.key ≠ best := by
  rintro rfl
  exact h.2 rfl

/-- An alternate is a namesake, or has another name. -/
theorem resource_ne_iff : b.resource ≠ best.name ↔ b.key ≠ best ∧ ¬ b.IsNamesake best := by
  constructor
  · intro differs
    refine ⟨?_, fun namesake => differs namesake.1⟩
    rintro rfl
    exact differs rfl
  · rintro ⟨key, apart⟩ same
    have number : b.number = best.number := by
      by_contra differs
      exact apart ⟨same, differs⟩
    refine key ?_
    unfold ResourceBinding.key
    rw [same, number]

theorem tells_of_fallback_eq (mem : b.key ∈ candidates) (requested : b.requested = best.name)
    (fallback : b.fallback = decide (b.requested ≠ b.resource)) : b.Tells candidates best := by
  have marked : b.fallback = true ↔ b.resource ≠ best.name := by
    rw [fallback, decide_eq_true_eq, requested]
    exact ne_comm
  refine ⟨mem, requested, marked.trans resource_ne_iff, fun name => ?_⟩
  unfold fallbackUsed
  rw [← resource_ne_iff, ← marked]
  cases b.fallback <;> simp [eq_comm]

/-- A binding tells the truth unless it is that of a namesake. -/
theorem Tells.marks_iff (h : b.Tells candidates best) : b.Marks best ↔ ¬ b.IsNamesake best := by
  constructor
  · intro marks namesake
    exact (h.fallback_iff.1 (marks.fallback_iff.2 namesake.key_ne)).2 namesake
  · intro apart
    refine ⟨?_, ?_⟩
    · rw [h.fallback_iff, and_iff_left apart]
    · rw [h.fallbackUsed_eq_some_iff, and_iff_right rfl, and_iff_left apart]

end ResourceBinding

/-! ### Candidates without namesakes -/

/-- No candidate has the name of the best under another number. -/
def NoNamesakes (candidates : List ResourceKey) : Prop :=
  ∀ best, candidates.head? = some best → ∀ k ∈ candidates, k.name = best.name → k = best

theorem ResourceBinding.Tells.not_isNamesake {b : ResourceBinding} {candidates : List ResourceKey}
    {best : ResourceKey} (h : b.Tells candidates best) (head : candidates.head? = some best)
    (apart : NoNamesakes candidates) : ¬ b.IsNamesake best := fun namesake =>
  namesake.key_ne (apart best head b.key h.key_mem namesake.1)

theorem Board.key_mem_of_firstResource? {b : Board} {candidates : List ResourceKey} {r : Resource}
    (found : b.firstResource? candidates = some r) : r.key ∈ candidates := by
  obtain ⟨k, mem, found⟩ := List.exists_of_findSome?_eq_some found
  rw [Board.key_of_resource? found]
  exact mem

namespace Platform

/-- A request that succeeds has a best candidate, and tells of it. -/
theorem exists_tells_of_requestAny {p : Platform} {candidates : List ResourceKey}
    {b : ResourceBinding} (h : ((requestAny candidates).run p).2.outcome = .ok b) :
    ∃ best, candidates.head? = some best ∧ b.Tells candidates best := by
  have decided := requestAny_decided candidates p
  rw [h] at decided
  generalize ((requestAny candidates).run p).1 = q at decided
  cases decided with
  | @first before rest k best r _ _ lacks found head alone =>
    cases alone with
    | bound free resolved =>
      refine ⟨best, head, ResourceBinding.tells_of_fallback_eq ?_ rfl rfl⟩
      show r.key ∈ before ++ k :: rest
      rw [Board.key_of_resource? found]
      exact List.mem_append_right before (List.mem_cons_self ..)

theorem tells_of_requestAny {p : Platform} {candidates : List ResourceKey} {b : ResourceBinding}
    {best : ResourceKey} (h : ((requestAny candidates).run p).2.outcome = .ok b)
    (head : candidates.head? = some best) : b.Tells candidates best := by
  obtain ⟨best', head', told⟩ := exists_tells_of_requestAny h
  obtain rfl : best = best' := Option.some.inj (head.symm.trans head')
  exact told

end Platform

/-- The signal is that of the wire, and its binding tells of the best candidate. -/
def Wire.Tells (w : Wire) (s : BoundSignal) : Prop :=
  s.signal = w.signal ∧ ∃ best, w.candidates.head? = some best ∧ s.binding.Tells w.candidates best

theorem Wire.Yields.tells {b : Board} {w : Wire} {s : BoundSignal} (h : w.Yields b s) :
    w.Tells s := by
  obtain ⟨r, chosen, bound⟩ := h
  obtain ⟨best, head, requested⟩ := Option.map_eq_some_iff.1 bound.requested_eq
  have resource : s.binding.resource = r.name := congrArg ResourceKey.name bound.key_eq
  refine ⟨bound.signal_eq, best, head,
    ResourceBinding.tells_of_fallback_eq ?_ requested.symm ?_⟩
  · rw [bound.key_eq]
    exact Board.key_mem_of_firstResource? chosen
  · rw [bound.fallback_eq, resource]

theorem Wire.Tells.of_head? {w : Wire} {s : BoundSignal} {best : ResourceKey} (h : w.Tells s)
    (head : w.candidates.head? = some best) : s.binding.Tells w.candidates best := by
  obtain ⟨-, best', head', told⟩ := h
  obtain rfl : best = best' := Option.some.inj (head.symm.trans head')
  exact told

/-! ### What an elaboration lists -/

/-- The signals that did not get the best candidate of their wire. -/
def displaced (ws : List Wire) (signals : List BoundSignal) : List BoundSignal :=
  ((ws.zip signals).filter fun x => x.1.candidates.head? ≠ some x.2.binding.key).map (·.2)

/-- What the elaboration `e` tells of the wires `ws` that were bound. -/
structure Elaboration.ListsAlternates (e : Elaboration) (ws : List Wire) : Prop where
  /-- Each of them has its signal, whose binding tells of the best candidate. -/
  bound : ws.Forall₂ Wire.Tells e.signals
  /-- Only signals that did not get the best candidate are listed. -/
  sound : e.fallbacks.Sublist (displaced ws e.signals)
  /-- All of these are listed exactly if none of them got a namesake. -/
  complete_iff : e.fallbacks = displaced ws e.signals ↔
    ∀ x ∈ ws.zip e.signals, ∀ best, x.1.candidates.head? = some best →
      ¬ x.2.binding.IsNamesake best
  /-- So they are listed if no best candidate has a namesake among the others. -/
  complete : (∀ w ∈ ws, NoNamesakes w.candidates) → e.fallbacks = displaced ws e.signals

section Filters

variable {α β : Type} {P Q : α → Bool} {xs : List α}

theorem filter_filter_of_imp (le : ∀ x ∈ xs, P x = true → Q x = true) :
    (xs.filter Q).filter P = xs.filter P := by
  rw [List.filter_filter]
  refine List.filter_congr fun x hx => ?_
  by_cases hP : P x = true
  · rw [hP, le x hx hP, Bool.and_true]
  · rw [Bool.eq_false_iff.2 hP, Bool.false_and]

/-- If one test implies the other, they leave the same values of a list exactly if no element tells
them apart. Values may repeat, so it is their number that counts. -/
theorem map_filter_eq_iff (le : ∀ x ∈ xs, P x = true → Q x = true) (f : α → β) :
    (xs.filter P).map f = (xs.filter Q).map f ↔ ∀ x ∈ xs, Q x = true → P x = true := by
  constructor
  · intro same x hx hQ
    have lengths := congrArg List.length same
    rw [List.length_map, List.length_map, ← filter_filter_of_imp le] at lengths
    exact List.length_filter_eq_length_iff.1 lengths x (List.mem_filter.2 ⟨hx, hQ⟩)
  · intro ge
    rw [List.filter_congr fun x hx => Bool.eq_iff_iff.2 ⟨le x hx, ge x hx⟩]

end Filters

theorem ResourceBinding.Tells.displaced_iff {b : ResourceBinding} {candidates : List ResourceKey}
    {best : ResourceKey} (h : b.Tells candidates best) (head : candidates.head? = some best) :
    b.fallback = true ↔ candidates.head? ≠ some b.key ∧ ¬ b.IsNamesake best := by
  rw [h.fallback_iff, head, ne_eq, ne_eq, Option.some.injEq, eq_comm]

namespace Elaboration

variable {e : Elaboration} {ws : List Wire}

theorem listsAlternates_of_forall₂ (bound : ws.Forall₂ Wire.Tells e.signals) :
    e.ListsAlternates ws := by
  have tells : ∀ x ∈ ws.zip e.signals, x.1.Tells x.2 := fun x hx => List.forall₂_zip bound hx
  -- both lists are what is left of the pairs of a wire and its signal
  have listed : e.fallbacks =
      ((ws.zip e.signals).filter fun x => x.2.binding.fallback).map (·.2) := by
    have second : (ws.zip e.signals).map Prod.snd = e.signals :=
      List.map_snd_zip bound.length_eq.ge
    unfold fallbacks
    conv_lhs => rw [← second, List.filter_map]
    rfl
  have le : ∀ x ∈ ws.zip e.signals, x.2.binding.fallback = true →
      decide (x.1.candidates.head? ≠ some x.2.binding.key) = true := by
    intro x hx marked
    obtain ⟨-, best, head, told⟩ := tells x hx
    exact decide_eq_true ((told.displaced_iff head).1 marked).1
  have complete_iff : e.fallbacks = displaced ws e.signals ↔
      ∀ x ∈ ws.zip e.signals, ∀ best, x.1.candidates.head? = some best →
        ¬ x.2.binding.IsNamesake best := by
    rw [listed, displaced, map_filter_eq_iff le]
    refine forall₂_congr fun x hx => ?_
    rw [decide_eq_true_eq]
    constructor
    · intro complete best head namesake
      have told := (tells x hx).of_head? head
      have displaced : x.1.candidates.head? ≠ some x.2.binding.key := by
        rw [head, ne_eq, Option.some.injEq]
        exact namesake.key_ne.symm
      exact ((told.displaced_iff head).1 (complete displaced)).2 namesake
    · intro apart displaced
      obtain ⟨-, best, head, told⟩ := tells x hx
      exact (told.displaced_iff head).2 ⟨displaced, apart best head⟩
  refine ⟨bound, ?_, complete_iff, fun apart => complete_iff.2 fun x hx best head => ?_⟩
  · rw [listed, displaced, ← filter_filter_of_imp le]
    exact List.filter_sublist.map _
  · exact ((tells x hx).of_head? head).not_isNamesake head (apart x.1 (List.of_mem_zip hx).1)

end Elaboration

namespace Descriptor

variable {d : Descriptor} {p : Platform} {e : Elaboration}

/-- The wires that come to a resource, on the board with the resources of the design, are bound. -/
theorem wired_of_elaborate (h : ((elaborate d).run p).2.outcome = .ok e) :
    let board := ((Platform.addResources d.resources).run p).1.board
    (wiredOf board d.wires).Forall₂ (Wire.Yields board) e.signals := by
  unfold elaborate at h
  simp only [Session.outcome_bind_eq_ok_iff, Session.run_state_bind, Session.run_ofExcept,
    Session.run_ofReport] at h
  obtain ⟨soc, -, _, -, _, -, clock, -, signals, wired, _, -, design, -, _, -, h⟩ := h
  cases h
  have bound := ((Platform.bindAll_ends d.wires _).of_ok wired).2.1
  rwa [(Platform.request_settles _ _).board_eq] at bound

end Descriptor

/-! ### What a caller can rely on -/

namespace Platform

/-- What requests and elaborations on the platform `p` tell of alternates. -/
structure TellsAlternates (p : Platform) : Prop where
  /-- A request that succeeds tells of its best candidate. -/
  tells : ∀ candidates b, ((requestAny candidates).run p).2.outcome = .ok b →
    ∃ best, candidates.head? = some best ∧ b.Tells candidates best
  /-- What it tells is right exactly if it did not come to a namesake. -/
  marks_iff : ∀ candidates b best, ((requestAny candidates).run p).2.outcome = .ok b →
    candidates.head? = some best → (b.Marks best ↔ ¬ b.IsNamesake best)
  /-- So it is right if the best candidate has no namesake among the others. -/
  marks : ∀ candidates b best, NoNamesakes candidates →
    ((requestAny candidates).run p).2.outcome = .ok b → candidates.head? = some best →
    b.Marks best
  /-- An elaboration lists the alternates that are marked. -/
  lists : ∀ d e, ((elaborate d).run p).2.outcome = .ok e →
    e.ListsAlternates (wiredOf ((addResources d.resources).run p).1.board d.wires)

/-- **An alternate is told from the best candidate by its name.** -/
theorem tellsAlternates (p : Platform) : p.TellsAlternates where
  tells candidates b := exists_tells_of_requestAny
  marks_iff candidates b best bound head := (tells_of_requestAny bound head).marks_iff
  marks candidates b best apart bound head := by
    have told := tells_of_requestAny bound head
    exact told.marks_iff.2 (told.not_isNamesake head apart)
  lists d e elaborated := Elaboration.listsAlternates_of_forall₂
    ((Descriptor.wired_of_elaborate elaborated).imp fun w s => Wire.Yields.tells)

/-- The second of two lamps stands in for a third, and this is not told. -/
theorem unmarked_namesake : ∃ b, ((requestAny [⟨"led", 2⟩, ⟨"led", 1⟩]).run lampPair).2.outcome =
      .ok b ∧ b.key ≠ ⟨"led", 2⟩ ∧ b.fallback = false ∧ b.fallbackUsed = none ∧
    ¬ b.Marks ⟨"led", 2⟩ := by
  refine ⟨_, rfl, by decide, by decide, by decide, fun marks => ?_⟩
  exact absurd (marks.fallback_iff.2 (by decide)) (by decide)

end Platform

end SocAssembly
