import Mathlib
import SocAssembly.Elaboration
import SocAssembly.Proofs.Sessions

/-!
# Handing out resources

Every binding leaves a notice, and the notices of a session are kept when a later step fails; so
they tell which keys the session has handed out (`boundKeys`), also those whose bindings were
dropped.
`Handout` says how a platform changes when keys are handed out: exactly these keys are marked, none
of them was marked before, and resources are only added behind those that are there. Changes of this
kind can follow one another (`Handout.trans`), and every session on a platform makes one, whether it
succeeds or fails (`Session.HandsOut`).

An attempt to bind one resource does more: it binds one or changes nothing (`Settles`).
-/

namespace SocAssembly

/-! ### The keys that were bound -/

/-- The key that was bound, if the notice tells of a binding. -/
def Notice.boundKey? : Notice → Option ResourceKey
  | .resourceBound name number _ _ => some ⟨name, number⟩
  | _ => none

/-- The keys that were bound, in order. -/
def boundKeys (notices : List Notice) : List ResourceKey := notices.filterMap Notice.boundKey?

@[simp] theorem boundKeys_append (ns ms : List Notice) :
    boundKeys (ns ++ ms) = boundKeys ns ++ boundKeys ms := List.filterMap_append

theorem boundKeys_eq_nil {notices : List Notice} (h : ∀ n ∈ notices, n.boundKey? = none) :
    boundKeys notices = [] := List.filterMap_eq_nil_iff.2 h

/-- The key of the resource that was bound. -/
def ResourceBinding.key (b : ResourceBinding) : ResourceKey := ⟨b.resource, b.number⟩

theorem Board.key_of_resource? {b : Board} {k : ResourceKey} {r : Resource}
    (found : b.resource? k = some r) : r.key = k := by
  simpa using List.find?_some found

/-! ### How a platform changes -/

/-- The platform `q` is what `p` becomes when these keys are handed out, in this order. -/
structure Handout (p q : Platform) (keys : List ResourceKey) : Prop where
  /-- The keys are marked, and no others. -/
  requested_eq : q.requested = keys.reverse ++ p.requested
  /-- No key is handed out twice. -/
  nodup : keys.Nodup
  /-- No key was handed out before. -/
  fresh : ∀ k ∈ keys, k ∉ p.requested
  /-- Resources may be added, behind those that are there. -/
  board_eq : ∃ added, q.board = { p.board with resources := p.board.resources ++ added }

namespace Handout

variable {p q r : Platform} {ks ls : List ResourceKey}

theorem refl (p : Platform) : Handout p p [] :=
  ⟨rfl, List.nodup_nil, by simp, [], by rw [List.append_nil]⟩

theorem trans (h : Handout p q ks) (h' : Handout q r ls) : Handout p r (ks ++ ls) := by
  have hfresh : ∀ k ∈ ls, k ∉ ks ∧ k ∉ p.requested := by
    intro k hk
    have := h'.fresh k hk
    rw [h.requested_eq, List.mem_append, List.mem_reverse, not_or] at this
    exact this
  refine ⟨?_, ?_, fun k hk => ?_, ?_⟩
  · rw [h'.requested_eq, h.requested_eq, List.reverse_append, List.append_assoc]
  · rw [List.nodup_append]
    refine ⟨h.nodup, h'.nodup, ?_⟩
    rintro k hk l hl rfl
    exact (hfresh k hl).1 hk
  · rcases List.mem_append.1 hk with hk | hk
    · exact h.fresh k hk
    · exact (hfresh k hk).2
  · obtain ⟨added, hq⟩ := h.board_eq
    obtain ⟨added', hr⟩ := h'.board_eq
    refine ⟨added ++ added', ?_⟩
    rw [hr, hq, List.append_assoc]

/-- What was handed out stays handed out. -/
theorem suffix (h : Handout p q ks) : p.requested <:+ q.requested :=
  ⟨ks.reverse, h.requested_eq.symm⟩

/-- A key goes on standing for the resource that it stands for. -/
theorem resource?_eq (h : Handout p q ks) {k : ResourceKey} {res : Resource}
    (hres : p.board.resource? k = some res) : q.board.resource? k = some res := by
  obtain ⟨added, hq⟩ := h.board_eq
  unfold Board.resource? at hres ⊢
  rw [hq, List.find?_append, hres]
  rfl

theorem mark {k : ResourceKey} (new : k ∉ p.requested) : Handout p (p.mark k) [k] where
  requested_eq := rfl
  nodup := List.nodup_singleton k
  fresh := by
    rintro l hl
    rw [List.mem_singleton.1 hl]
    exact new
  board_eq := ⟨[], by rw [List.append_nil]; rfl⟩

theorem withResource (p : Platform) (res : Resource) : Handout p (p.withResource res) [] :=
  ⟨rfl, List.nodup_nil, by simp, [res], rfl⟩

end Handout

/-! ### Sessions that hand out -/

/-- Started on the platform, the session hands out the keys that its notices tell of, and if it has
a value, the value goes with the keys. -/
structure Session.HandsOut {α : Type} (x : Session Platform α) (p : Platform)
    (fits : α → List ResourceKey → Prop) : Prop where
  /-- The platform changes by the keys. -/
  handout : Handout p (x.run p).1 (boundKeys (x.run p).2.notices)
  /-- The value goes with the keys. -/
  value : ∀ a, (x.run p).2.outcome = .ok a → fits a (boundKeys (x.run p).2.notices)

namespace Session.HandsOut

variable {α β : Type} {p : Platform} {x : Session Platform α} {next : α → Session Platform β}
  {fits : α → List ResourceKey → Prop} {goal : β → List ResourceKey → Prop}

/-- A session that hands out nothing. -/
theorem of_quiet {report : Report α} (hrun : x.run p = (p, report))
    (quiet : boundKeys report.notices = []) (value : ∀ a, report.outcome = .ok a → fits a []) :
    x.HandsOut p fits := by
  refine ⟨?_, ?_⟩
  · rw [hrun, quiet]
    exact Handout.refl p
  · rw [hrun, quiet]
    exact value

/-- A session that goes on where another ended, if that succeeded, hands out the keys of both. -/
theorem bind_at (h : Handout p (x.run p).1 (boundKeys (x.run p).2.notices))
    (hnext : ∀ a, (x.run p).2.outcome = .ok a → (next a).HandsOut (x.run p).1
      fun b ls => goal b (boundKeys (x.run p).2.notices ++ ls)) :
    (x >>= next).HandsOut p goal := by
  cases hx : (x.run p).2.outcome with
  | error e =>
    refine ⟨?_, ?_⟩
    · rw [run_bind_error hx]
      exact h
    · rw [run_bind_error hx]
      intro b hb
      cases hb
  | ok a =>
    have hrest := hnext a hx
    refine ⟨?_, ?_⟩
    · rw [run_bind_ok hx, boundKeys_append]
      exact h.trans hrest.handout
    · rw [run_bind_ok hx, boundKeys_append]
      exact hrest.value

theorem bind (h : x.HandsOut p fits)
    (hnext : ∀ a q ks, fits a ks → (next a).HandsOut q fun b ls => goal b (ks ++ ls)) :
    (x >>= next).HandsOut p goal :=
  bind_at h.handout fun a ha => hnext a _ _ (h.value a ha)

theorem map {f : α → β} (h : x.HandsOut p fits) (himp : ∀ a ks, fits a ks → goal (f a) ks) :
    (f <$> x).HandsOut p goal := by
  rw [← bind_pure_comp]
  refine h.bind fun a q ks hks => .of_quiet rfl rfl ?_
  rintro b ⟨⟩
  rw [List.append_nil]
  exact himp a ks hks

/-- What was handed out before stays handed out. -/
theorem suffix (h : x.HandsOut p fits) {q : Platform} {outcome : Except Error α}
    (ends : x.Ends p q outcome) : p.requested <:+ q.requested := by
  rw [← ends.1]
  exact h.handout.suffix

/-- A step that leaves the platform alone and binds nothing does not count. -/
theorem quiet_bind {report : Report α} (hrun : x.run p = (p, report))
    (quiet : boundKeys report.notices = []) (hnext : ∀ a, (next a).HandsOut p goal) :
    (x >>= next).HandsOut p goal := by
  refine bind_at ?_ fun a _ => ?_
  · rw [hrun, quiet]
    exact Handout.refl p
  · rw [hrun, quiet]
    exact hnext a

theorem ofExcept_bind {y : Except Error α} (hnext : ∀ a, (next a).HandsOut p goal) :
    (Session.ofExcept y >>= next).HandsOut p goal := quiet_bind (run_ofExcept y p) rfl hnext

theorem ofReport_bind {report : Report α} (quiet : boundKeys report.notices = [])
    (hnext : ∀ a, (next a).HandsOut p goal) : (Session.ofReport report >>= next).HandsOut p goal :=
  quiet_bind (run_ofReport report p) quiet hnext

theorem state_bind {next : Platform → Session Platform β} (h : (next p).HandsOut p goal) :
    (Session.state >>= next).HandsOut p goal := by
  refine ⟨?_, ?_⟩
  · rw [run_state_bind]
    exact h.handout
  · rw [run_state_bind]
    exact h.value

end Session.HandsOut

end SocAssembly
