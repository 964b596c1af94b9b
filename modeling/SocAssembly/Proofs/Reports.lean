import Mathlib
import SocAssembly.Report

/-!
# What a sequence of steps gives

A sequence that succeeds has passed through a value of each of its steps (`Report.bind_eq_ok_iff`).
For a step that is repeated along a list this is an induction on the list. It is done here once for
each way of repeating: what the steps keep of the part of the list that is done
(`Report.foldlM_keeps`), and the values of the steps on the elements (`mapM_eq_ok_iff`), which match
the elements one by one. A repeated step that fails has failed on some element; if what can go wrong
is a fault of the element after those in front of it, it fails for the first fault there is
(`Report.foldlM_eq_error_iff_firstFault`).
-/

namespace SocAssembly

theorem except_bind_eq_ok_iff {ε α β : Type} {x : Except ε α} {next : α → Except ε β} {b : β} :
    x.bind next = .ok b ↔ ∃ a, x = .ok a ∧ next a = .ok b := by
  cases x with
  | error e => simp [Except.bind]
  | ok a => simp [Except.bind]

/-- A check in front is passed. -/
theorem except_check_bind_eq_ok_iff {ε β : Type} {x : Except ε Unit} {next : Unit → Except ε β}
    {b : β} : x.bind next = .ok b ↔ x = .ok () ∧ next () = .ok b := by
  rw [except_bind_eq_ok_iff]
  exact ⟨fun ⟨_, h⟩ => h, fun h => ⟨(), h⟩⟩

theorem except_bind_eq_error_iff {ε α β : Type} {x : Except ε α} {next : α → Except ε β} {e : ε} :
    x.bind next = .error e ↔ x = .error e ∨ ∃ a, x = .ok a ∧ next a = .error e := by
  cases x with
  | error e' => simp [Except.bind]
  | ok a => simp [Except.bind]

theorem except_isOk_iff {ε α : Type} {x : Except ε α} : x.isOk = true ↔ ∃ a, x = .ok a := by
  cases x <;> simp [Except.isOk, Except.toBool]

theorem exists_error_of_ne_ok {ε α : Type} {x : Except ε α} (h : ∀ a, x ≠ .ok a) :
    ∃ e, x = .error e := by
  cases x with
  | error e => exact ⟨e, rfl⟩
  | ok a => exact absurd rfl (h a)

theorem exists_of_except_map_eq_ok {ε α β : Type} {x : Except ε α} {f : α → β} {b : β}
    (h : x.map f = .ok b) : ∃ a, x = .ok a ∧ f a = b := by
  cases x with
  | error e => cases h
  | ok a => exact ⟨a, rfl, Except.ok.inj h⟩

/-- What each step keeps holds in the end. -/
theorem except_foldlM_keeps {ε α σ : Type} {P : σ → Prop} {f : σ → α → Except ε σ}
    (step : ∀ s x t, P s → f s x = .ok t → P t) {xs : List α} {s t : σ} (h : P s)
    (ok : xs.foldlM f s = .ok t) : P t := by
  induction xs generalizing s with
  | nil => exact Except.ok.inj ok ▸ h
  | cons x rest ih =>
    rw [List.foldlM_cons] at ok
    obtain ⟨u, hu, ok⟩ := except_bind_eq_ok_iff.1 ok
    exact ih (step s x u h hu) ok

/-- A step succeeds along a list if it does on each element. -/
theorem mapM_eq_ok_iff {ε α β : Type} {f : α → Except ε β} {xs : List α} {ys : List β} :
    xs.mapM f = .ok ys ↔ List.Forall₂ (fun x y => f x = .ok y) xs ys := by
  induction xs generalizing ys with
  | nil =>
    rw [List.mapM_nil, List.forall₂_nil_left_iff]
    exact ⟨fun h => (Except.ok.inj h).symm, fun h => h ▸ rfl⟩
  | cons x xs ih =>
    rw [List.mapM_cons, List.forall₂_cons_left_iff]
    show (f x).bind _ = _ ↔ _
    rw [except_bind_eq_ok_iff]
    constructor
    · rintro ⟨y, hy, hrest⟩
      obtain ⟨rest, hxs, heq⟩ := except_bind_eq_ok_iff.1 hrest
      exact ⟨y, rest, hy, ih.1 hxs, (Except.ok.inj heq).symm⟩
    · rintro ⟨y, rest, hy, hxs, rfl⟩
      exact ⟨y, hy, except_bind_eq_ok_iff.2 ⟨rest, ih.2 hxs, rfl⟩⟩

/-- Every element matches one, so the list matches one. -/
theorem exists_forall₂_iff {α β : Type} {R : α → β → Prop} {xs : List α} :
    (∃ ys, List.Forall₂ R xs ys) ↔ ∀ x ∈ xs, ∃ y, R x y := by
  induction xs with
  | nil => simp
  | cons x rest ih =>
    rw [List.forall_mem_cons, ← ih]
    constructor
    · rintro ⟨ys, h⟩
      obtain ⟨y, ys, hy, hys, rfl⟩ := List.forall₂_cons_left_iff.1 h
      exact ⟨⟨y, hy⟩, ys, hys⟩
    · rintro ⟨⟨y, hy⟩, ys, hys⟩
      exact ⟨y :: ys, hys.cons hy⟩

/-- A step has values along a list if it has one on each element. -/
theorem exists_mapM_eq_ok_iff {ε α β : Type} {f : α → Except ε β} {xs : List α} :
    (∃ ys, xs.mapM f = .ok ys) ↔ ∀ x ∈ xs, ∃ y, f x = .ok y := by
  simp only [mapM_eq_ok_iff, exists_forall₂_iff]

/-- A step that fails along a list fails on an element after it has had a value on those before. -/
theorem mapM_eq_error_iff {ε α β : Type} {f : α → Except ε β} {xs : List α} {e : ε} :
    xs.mapM f = .error e ↔ ∃ before x after, xs = before ++ x :: after ∧
      (∀ y ∈ before, ∃ z, f y = .ok z) ∧ f x = .error e := by
  induction xs with
  | nil => simp [pure, Except.pure]
  | cons x xs ih =>
    rw [List.mapM_cons]
    show (f x).bind _ = _ ↔ _
    rw [except_bind_eq_error_iff]
    constructor
    · rintro (failed | ⟨y, hy, hrest⟩)
      · exact ⟨[], x, xs, rfl, List.forall_mem_nil _, failed⟩
      · rcases except_bind_eq_error_iff.1 hrest with hrest | ⟨ys, -, hpure⟩
        · obtain ⟨before, x', after, rfl, passed, failed⟩ := ih.1 hrest
          exact ⟨x :: before, x', after, rfl, List.forall_mem_cons.2 ⟨⟨y, hy⟩, passed⟩, failed⟩
        · cases hpure
    · rintro ⟨before, x', after, split, passed, failed⟩
      cases before with
      | nil =>
        obtain ⟨rfl, rfl⟩ := List.cons.inj split
        exact Or.inl failed
      | cons y before =>
        obtain ⟨rfl, rfl⟩ := List.cons.inj split
        obtain ⟨⟨z, hz⟩, passed⟩ := List.forall_mem_cons.1 passed
        have hrest := ih.2 ⟨before, x', after, rfl, passed, failed⟩
        exact Or.inr ⟨z, hz, except_bind_eq_error_iff.2 (Or.inl hrest)⟩

/-! ### Lists that match element by element -/

section Matching

variable {α β γ : Type} {R : α → β → Prop} {xs : List α} {ys : List β}

theorem eq_nil_iff_of_forall₂ (h : List.Forall₂ R xs ys) : xs = [] ↔ ys = [] := by
  cases h <;> simp

theorem exists_of_forall₂ (h : List.Forall₂ R xs ys) {y : β} (hy : y ∈ ys) : ∃ x ∈ xs, R x y := by
  induction h with
  | nil => cases hy
  | @cons x z xs ys hxz _ ih =>
    rcases List.mem_cons.1 hy with rfl | hy
    · exact ⟨x, List.mem_cons_self .., hxz⟩
    · obtain ⟨x', hx', hxy⟩ := ih hy
      exact ⟨x', List.mem_cons_of_mem x hx', hxy⟩

theorem forall₂_imp_of_mem {S : α → β → Prop} (h : List.Forall₂ R xs ys)
    (imp : ∀ x ∈ xs, ∀ y, R x y → S x y) : List.Forall₂ S xs ys := by
  have each : List.Forall₂ (fun x y => x ∈ xs ∧ R x y) xs ys :=
    (List.forall₂_and_left xs ys).2 ⟨fun _ hx => hx, h⟩
  exact each.imp fun x y ⟨hx, hxy⟩ => imp x hx y hxy

/-- What matching elements have in common stands in both lists in the same order. -/
theorem map_eq_of_forall₂ {f : α → γ} {g : β → γ} (same : ∀ x y, R x y → f x = g y)
    (h : List.Forall₂ R xs ys) : xs.map f = ys.map g := by
  induction h with
  | nil => rfl
  | cons hxy _ ih => rw [List.map_cons, List.map_cons, same _ _ hxy, ih]

end Matching

/-- An element of a list divides it. -/
theorem exists_split_of_getElem? {α : Type} {xs : List α} {k : Nat} {x : α}
    (h : xs[k]? = some x) : ∃ before rest, xs = before ++ x :: rest ∧ before.length = k := by
  obtain ⟨lt, hx⟩ := List.getElem?_eq_some_iff.1 h
  refine ⟨xs.take k, xs.drop (k + 1), ?_, ?_⟩
  · rw [← hx, ← List.drop_eq_getElem_cons lt, List.take_append_drop]
  · rw [List.length_take, Nat.min_eq_left lt.le]

/-! ### Steps one after the other -/

namespace Report

variable {α β σ : Type}

/-- A sequence succeeds if its first step does and the rest does from there. -/
theorem bind_eq_ok_iff {r : Report α} {next : α → Report β} {b : β} :
    (r >>= next).outcome = .ok b ↔ ∃ a, r.outcome = .ok a ∧ (next a).outcome = .ok b := by
  rw [outcome_bind, except_bind_eq_ok_iff]

theorem pure_eq_ok_iff {a b : α} : (pure a : Report α).outcome = .ok b ↔ a = b := by
  rw [outcome_pure, Except.ok.injEq]

/-- A sequence fails in its first step, or in the rest after the first step. -/
theorem bind_eq_error_iff {r : Report α} {next : α → Report β} {e : Error} :
    (r >>= next).outcome = .error e ↔
      r.outcome = .error e ∨ ∃ a, r.outcome = .ok a ∧ (next a).outcome = .error e := by
  rw [outcome_bind, except_bind_eq_error_iff]

/-- A sequence reports what its first step reports, and what the rest does if it comes to it. -/
theorem mem_notices_bind {r : Report α} {next : α → Report β} {n : Notice} :
    n ∈ (r >>= next).notices ↔
      n ∈ r.notices ∨ ∃ a, r.outcome = .ok a ∧ n ∈ (next a).notices := by
  cases hr : r.outcome with
  | error e =>
    show n ∈ (r.andThen next).notices ↔ _
    simp [andThen_error hr]
  | ok a => simp [notices_bind hr]

variable {f : σ → α → Report σ}

theorem foldlM_nil_eq_ok_iff {s t : σ} :
    (([] : List α).foldlM f s).outcome = .ok t ↔ s = t := by
  rw [List.foldlM_nil, pure_eq_ok_iff]

theorem foldlM_cons_eq_ok_iff {x : α} {xs : List α} {s t : σ} :
    ((x :: xs).foldlM f s).outcome = .ok t ↔
      ∃ u, (f s x).outcome = .ok u ∧ (xs.foldlM f u).outcome = .ok t := by
  rw [List.foldlM_cons, bind_eq_ok_iff]

/-- What each step keeps, for the part of the list that is done, holds of the whole list in the
end. -/
theorem foldlM_keeps (Keeps : List α → σ → Prop)
    (step : ∀ done x s t, Keeps done s → (f s x).outcome = .ok t → Keeps (done ++ [x]) t) :
    ∀ (todo done : List α) (s t : σ), Keeps done s → (todo.foldlM f s).outcome = .ok t →
      Keeps (done ++ todo) t := by
  intro todo
  induction todo with
  | nil =>
    intro done s t hs h
    rw [foldlM_nil_eq_ok_iff] at h
    rw [List.append_nil]
    exact h ▸ hs
  | cons x rest ih =>
    intro done s t hs h
    obtain ⟨u, hu, h⟩ := foldlM_cons_eq_ok_iff.1 h
    have := ih (done ++ [x]) u t (step done x s u hs hu) h
    rwa [List.append_assoc] at this

/-- A repeated step fails on the first element on which it fails from where it has come by then. -/
theorem foldlM_eq_error_iff {xs : List α} {s : σ} {e : Error} :
    (xs.foldlM f s).outcome = .error e ↔
      ∃ done x rest t, xs = done ++ x :: rest ∧ (done.foldlM f s).outcome = .ok t ∧
        (f t x).outcome = .error e := by
  induction xs generalizing s with
  | nil => simp
  | cons x xs ih =>
    rw [List.foldlM_cons, bind_eq_error_iff]
    constructor
    · rintro (failed | ⟨u, hu, failed⟩)
      · exact ⟨[], x, xs, s, rfl, rfl, failed⟩
      · obtain ⟨done, y, rest, t, rfl, ht, failed⟩ := ih.1 failed
        exact ⟨x :: done, y, rest, t, rfl, foldlM_cons_eq_ok_iff.2 ⟨u, hu, ht⟩, failed⟩
    · rintro ⟨done, y, rest, t, split, ht, failed⟩
      cases done with
      | nil =>
        obtain ⟨rfl, rfl⟩ := List.cons.inj split
        rw [foldlM_nil_eq_ok_iff] at ht
        exact Or.inl (ht ▸ failed)
      | cons z done =>
        obtain ⟨rfl, rfl⟩ := List.cons.inj split
        obtain ⟨u, hu, ht⟩ := foldlM_cons_eq_ok_iff.1 ht
        exact Or.inr ⟨u, hu, ih.2 ⟨done, y, rest, t, rfl, ht, failed⟩⟩

theorem ofExcept_bind {α β : Type} (x : Except Error α) (next : α → Except Error β) :
    ofExcept (x.bind next) = ofExcept x >>= fun a => ofExcept (next a) := by
  cases x <;> rfl

/-- Steps that report nothing can be repeated in either way. -/
theorem ofExcept_foldlM (f : σ → α → Except Error σ) (xs : List α) (s : σ) :
    ofExcept (xs.foldlM f s) = xs.foldlM (fun t x => ofExcept (f t x)) s := by
  induction xs generalizing s with
  | nil => rfl
  | cons x rest ih =>
    rw [List.foldlM_cons, List.foldlM_cons]
    exact (ofExcept_bind (f s x) _).trans (congrArg (ofExcept (f s x) >>= ·) (funext ih))

/-- What a repeated step reports it reports on one of the elements, after those before. -/
theorem exists_of_mem_notices_foldlM {xs : List α} {s : σ} {n : Notice}
    (h : n ∈ (xs.foldlM f s).notices) :
    ∃ done x rest t, xs = done ++ x :: rest ∧ (done.foldlM f s).outcome = .ok t ∧
      n ∈ (f t x).notices := by
  induction xs generalizing s with
  | nil => cases h
  | cons x xs ih =>
    rw [List.foldlM_cons] at h
    rcases mem_notices_bind.1 h with h | ⟨u, hu, h⟩
    · exact ⟨[], x, xs, s, rfl, rfl, h⟩
    · obtain ⟨done, y, rest, t, rfl, ht, hn⟩ := ih h
      exact ⟨x :: done, y, rest, t, rfl, foldlM_cons_eq_ok_iff.2 ⟨u, hu, ht⟩, hn⟩

/-- Everything that is reported is of this kind. -/
def Tells (P : Notice → Prop) (r : Report α) : Prop := ∀ n ∈ r.notices, P n

theorem Tells.bind {P : Notice → Prop} {r : Report α} {next : α → Report β} (h : r.Tells P)
    (hnext : ∀ a, (next a).Tells P) : (r >>= next).Tells P := by
  intro n hn
  rcases mem_notices_bind.1 hn with hn | ⟨a, -, hn⟩
  · exact h n hn
  · exact hnext a n hn

theorem Tells.foldlM {P : Notice → Prop} (hf : ∀ s x, (f s x).Tells P) (xs : List α) (s : σ) :
    (xs.foldlM f s).Tells P := by
  intro n hn
  obtain ⟨-, x, -, t, -, -, hn⟩ := exists_of_mem_notices_foldlM hn
  exact hf t x n hn

/-- Elements that a step passes over can be left out of the list. -/
theorem foldlM_filter {p : α → Bool} (skip : ∀ s x, p x = false → f s x = pure s) (xs : List α)
    (s : σ) : (xs.filter p).foldlM f s = xs.foldlM f s := by
  induction xs generalizing s with
  | nil => rfl
  | cons x rest ih =>
    cases hx : p x with
    | true =>
      rw [List.filter_cons_of_pos hx, List.foldlM_cons, List.foldlM_cons]
      exact congrArg (f s x >>= ·) (funext ih)
    | false =>
      rw [List.filter_cons_of_neg (by simp [hx]), List.foldlM_cons, skip s x hx, pure_bind, ih]

end Report

/-! ### The first fault -/

/-- The error of the first element that is at fault after those in front of it. -/
def FirstFault {α : Type} (Fault : List α → α → Error → Prop) (xs : List α) (e : Error) : Prop :=
  ∃ before x rest, xs = before ++ x :: rest ∧ Fault before x e ∧
    ∀ front y back, before = front ++ y :: back → ∀ e', ¬ Fault front y e'

namespace Report

variable {α σ : Type} {f : σ → α → Report σ} {Fault : List α → α → Error → Prop}
  {Keeps : List α → σ → Prop}

/-- A repeated step that succeeds along a list has succeeded on each element from where it had come
by then. -/
theorem exists_step_of_foldlM
    (step : ∀ done x s t, Keeps done s → (f s x).outcome = .ok t → Keeps (done ++ [x]) t)
    {before rest : List α} {x : α} {s t : σ} (h : Keeps [] s)
    (ok : ((before ++ x :: rest).foldlM f s).outcome = .ok t) :
    ∃ u v, Keeps before u ∧ (f u x).outcome = .ok v := by
  rw [List.foldlM_append, bind_eq_ok_iff] at ok
  obtain ⟨u, hu, ok⟩ := ok
  obtain ⟨v, hv, -⟩ := foldlM_cons_eq_ok_iff.1 ok
  exact ⟨u, v, foldlM_keeps Keeps step before [] s u h hu, hv⟩

/-- A repeated step whose failures are faults of the elements succeeds exactly if no element is at
fault after those in front of it. -/
theorem foldlM_isOk_iff_faultless
    (step : ∀ done x s t, Keeps done s → (f s x).outcome = .ok t → Keeps (done ++ [x]) t)
    (fault : ∀ done x s e, Keeps done s → ((f s x).outcome = .error e ↔ Fault done x e))
    {xs : List α} {s : σ} (h : Keeps [] s) :
    (∃ t, (xs.foldlM f s).outcome = .ok t) ↔
      ∀ before x rest, xs = before ++ x :: rest → ∀ e, ¬ Fault before x e := by
  constructor
  · rintro ⟨t, ok⟩ before x rest rfl e atFault
    obtain ⟨u, v, hu, hv⟩ := exists_step_of_foldlM step h ok
    rw [(fault before x u e hu).2 atFault] at hv
    cases hv
  · intro faultless
    cases outcome : (xs.foldlM f s).outcome with
    | ok t => exact ⟨t, rfl⟩
    | error e =>
      obtain ⟨before, x, rest, u, split, hu, failed⟩ := foldlM_eq_error_iff.1 outcome
      have kept := foldlM_keeps Keeps step before [] s u h hu
      exact absurd ((fault before x u e kept).1 failed) (faultless before x rest split e)

/-- It fails with the error of the first element at fault. -/
theorem foldlM_eq_error_iff_firstFault
    (step : ∀ done x s t, Keeps done s → (f s x).outcome = .ok t → Keeps (done ++ [x]) t)
    (fault : ∀ done x s e, Keeps done s → ((f s x).outcome = .error e ↔ Fault done x e))
    {xs : List α} {s : σ} (h : Keeps [] s) {e : Error} :
    (xs.foldlM f s).outcome = .error e ↔ FirstFault Fault xs e := by
  have faultless (before : List α) : (∃ t, (before.foldlM f s).outcome = .ok t) ↔ _ :=
    foldlM_isOk_iff_faultless step fault h
  rw [foldlM_eq_error_iff]
  constructor
  · rintro ⟨before, x, rest, u, split, hu, failed⟩
    have kept := foldlM_keeps Keeps step before [] s u h hu
    exact ⟨before, x, rest, split, (fault before x u e kept).1 failed,
      (faultless before).1 ⟨u, hu⟩⟩
  · rintro ⟨before, x, rest, split, atFault, first⟩
    obtain ⟨u, hu⟩ := (faultless before).2 first
    have kept := foldlM_keeps Keeps step before [] s u h hu
    exact ⟨before, x, rest, u, split, hu, (fault before x u e kept).2 atFault⟩

end Report

end SocAssembly
