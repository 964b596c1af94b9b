import Mathlib
import SocAssembly.Proofs.PlatformRuns

/-!
# What changes a platform

A request that binds nothing, because it fails or because the resource can be done without, is
forgotten: whatever is done afterwards goes as if it had not been made. One that binds a resource
marks its key. When resources are added the platform gets the longest part of the list that it
admits from the front, which are those with new and different keys (`Platform.Admits`), and the
first one behind this part is reported. So no key comes to stand for two resources.
-/

namespace SocAssembly

/-! ### Resources that can be added -/

/-- The keys of the resources of a board. -/
def Board.keys (b : Board) : List ResourceKey := b.resources.map (·.key)

theorem Board.isSome_resource?_iff {b : Board} {k : ResourceKey} :
    (b.resource? k).isSome ↔ k ∈ b.keys := by
  simp [resource?, keys, List.find?_isSome]

namespace Platform

/-- The platform with more resources. -/
def withResources (p : Platform) (rs : List Resource) : Platform :=
  { p with board := { p.board with resources := p.board.resources ++ rs } }

/-- The platform can get these resources. -/
structure Admits (p : Platform) (rs : List Resource) : Prop where
  /-- Their keys are different. -/
  nodup : (rs.map (·.key)).Nodup
  /-- Their keys are new. -/
  new : ∀ k ∈ rs.map (·.key), k ∉ p.board.keys

variable {p q : Platform} {r : Resource} {rs rest added : List Resource}

@[simp] theorem withResources_nil (p : Platform) : p.withResources [] = p := by
  simp [withResources]

theorem withResources_withResource (p : Platform) (r : Resource) (rs : List Resource) :
    (p.withResource r).withResources rs = p.withResources (r :: rs) := by
  simp [withResources, withResource]

theorem keys_withResources (p : Platform) (rs : List Resource) :
    (p.withResources rs).board.keys = p.board.keys ++ rs.map (·.key) := List.map_append

theorem keys_withResource (p : Platform) (r : Resource) :
    (p.withResource r).board.keys = p.board.keys ++ [r.key] := List.map_append

theorem admits_nil (p : Platform) : p.Admits [] := ⟨List.nodup_nil, List.forall_mem_nil _⟩

/-- A resource that is added counts when the next one is. -/
theorem admits_cons_iff :
    p.Admits (r :: rs) ↔ r.key ∉ p.board.keys ∧ (p.withResource r).Admits rs := by
  constructor
  · rintro ⟨nodup, new⟩
    obtain ⟨first, nodup⟩ := List.nodup_cons.1 nodup
    obtain ⟨newFirst, new⟩ := List.forall_mem_cons.1 new
    refine ⟨newFirst, nodup, fun k hk => ?_⟩
    rw [keys_withResource, List.mem_append, List.mem_singleton, not_or]
    refine ⟨new k hk, ?_⟩
    rintro rfl
    exact first hk
  · rintro ⟨newFirst, nodup, new⟩
    have apart : ∀ k ∈ rs.map (·.key), k ∉ p.board.keys ∧ k ≠ r.key := by
      intro k hk
      have := new k hk
      rwa [keys_withResource, List.mem_append, List.mem_singleton, not_or] at this
    refine ⟨List.nodup_cons.2 ⟨fun again => (apart _ again).2 rfl, nodup⟩, ?_⟩
    exact List.forall_mem_cons.2 ⟨newFirst, fun k hk => (apart k hk).1⟩

theorem Admits.of_prefix (h : p.Admits rs) (front : added <+: rs) : p.Admits added := by
  have keys := front.map (·.key)
  exact ⟨h.nodup.sublist keys.sublist, fun k hk => h.new k (keys.subset hk)⟩

theorem Admits.nodup_keys (h : p.Admits rs) (distinct : p.board.keys.Nodup) :
    (p.withResources rs).board.keys.Nodup := by
  rw [keys_withResources]
  exact distinct.append h.nodup (List.disjoint_right.2 h.new)

/-! ### Adding -/

/-- How it ends when resources are added to the platform `p`. -/
inductive Adding (p : Platform) (rs : List Resource) : Platform → Except Error Unit → Prop where
  /-- All of them are added. -/
  | all (admits : p.Admits rs) : Adding p rs (p.withResources rs) (.ok ())
  /-- They are added up to the first that the platform does not admit with them. -/
  | upTo {added rest : List Resource} {r : Resource} (split : rs = added ++ r :: rest)
      (admits : p.Admits added) (refused : ¬ p.Admits (added ++ [r])) :
      Adding p rs (p.withResources added) (.error (.duplicateResource r.name r.number))

/-- What a new resource adds to the run over those behind it. -/
theorem Adding.cons {outcome : Except Error Unit} (new : r.key ∉ p.board.keys)
    (h : (p.withResource r).Adding rest q outcome) : p.Adding (r :: rest) q outcome := by
  cases h with
  | all admits =>
    rw [withResources_withResource]
    exact .all (admits_cons_iff.2 ⟨new, admits⟩)
  | @upTo added rest' r' split admits refused =>
    rw [withResources_withResource]
    refine .upTo (congrArg (r :: ·) split) (admits_cons_iff.2 ⟨new, admits⟩) fun all => ?_
    exact refused (admits_cons_iff.1 all).2

theorem addResources_adding (rs : List Resource) (p : Platform) :
    p.Adding rs ((addResources rs).run p).1 ((addResources rs).run p).2.outcome := by
  -- for every platform, since the rest is added to the one that the first resource leaves
  induction rs generalizing p with
  | nil => simpa [addResources] using Adding.all (admits_nil p)
  | cons r rest ih =>
    unfold addResources
    rw [Session.run_state_bind]
    by_cases taken : (p.board.resource? r.key).isSome
    · rw [if_pos taken]
      have refused : ¬ p.Admits ([] ++ [r]) := fun all =>
        (admits_cons_iff.1 all).1 (Board.isSome_resource?_iff.1 taken)
      have ended : p.Adding (r :: rest) (p.withResources []) _ := .upTo rfl (admits_nil p) refused
      rwa [withResources_nil] at ended
    · rw [if_neg taken, Session.run_bind_ok rfl]
      exact .cons (mt Board.isSome_resource?_iff.2 taken) (ih (p.withResource r))

/-- Of the resources `rs` the platform `p` gets the part `added`, and so becomes `q`. -/
structure AddsFront (p : Platform) (rs added : List Resource) (q : Platform)
    (outcome : Except Error Unit) : Prop where
  /-- It is a part from the front. -/
  front : added <+: rs
  /-- The platform admits it. -/
  admits : p.Admits added
  /-- It is the longest such part. -/
  longest : ∀ front, front <+: rs → p.Admits front → front <+: added
  /-- It is put behind what is there, and nothing else changes. -/
  state_eq : q = p.withResources added
  /-- It succeeds exactly if this is all. -/
  ok_iff : outcome = .ok () ↔ added = rs
  /-- Otherwise it reports the first resource that stands behind. -/
  refused : ∀ r rest, rs = added ++ r :: rest →
    outcome = .error (.duplicateResource r.name r.number)

theorem Adding.exists_addsFront {outcome : Except Error Unit} (h : p.Adding rs q outcome) :
    ∃ added, p.AddsFront rs added q outcome := by
  cases h with
  | all admits =>
    refine ⟨rs, List.prefix_rfl, admits, fun front hfront _ => hfront, rfl, by simp, ?_⟩
    intro r rest split
    have lengths := congrArg List.length split
    simp at lengths
  | @upTo added rest r split admits refused =>
    refine ⟨added,
      { front := split ▸ List.prefix_append ..
        admits := admits
        longest := ?longest
        state_eq := rfl
        ok_iff := iff_of_false (fun contra => by cases contra) fun whole => ?whole
        refused := ?refused }⟩
    case longest =>
      intro front hfront all
      have within : added ++ [r] <+: rs := ⟨rest, by simp [split]⟩
      rcases List.prefix_or_prefix_of_prefix hfront within with short | long
      · rcases List.prefix_concat_iff.1 short with rfl | short
        · exact absurd all refused
        · exact short
      · -- a part that reaches beyond what was added has the refused resource
        exact absurd (all.of_prefix long) refused
    case whole =>
      have lengths := congrArg List.length (whole.trans split)
      simp at lengths
    case refused =>
      intro r' rest' split'
      obtain ⟨rfl, -⟩ := List.cons.inj (List.append_cancel_left (split.symm.trans split'))
      rfl

/-- What adding the resources `rs` does to the platform `p`. -/
structure AddsPrefix (p : Platform) (rs : List Resource) : Prop where
  /-- The longest part from the front that the platform admits is added. -/
  front : ∃ added, p.AddsFront rs added ((addResources rs).run p).1
    ((addResources rs).run p).2.outcome
  /-- What was handed out stays as it is. -/
  requested_eq : ((addResources rs).run p).1.requested = p.requested
  /-- If the keys of the board are different, they stay so. -/
  nodup_keys : p.board.keys.Nodup → ((addResources rs).run p).1.board.keys.Nodup

theorem addsPrefix (p : Platform) (rs : List Resource) : p.AddsPrefix rs := by
  obtain ⟨added, adds⟩ := (addResources_adding rs p).exists_addsFront
  refine ⟨⟨added, adds⟩, ?_, fun distinct => ?_⟩
  · rw [adds.state_eq]
    rfl
  · rw [adds.state_eq]
    exact adds.admits.nodup_keys distinct

end Platform

/-! ### What a caller can rely on -/

/-- The attempt fails, or goes without the resource. -/
def Attempt.BindsNothing (a : Attempt) (p : Platform) : Prop :=
  ∀ bs, (a.perform.run p).2.outcome = .ok bs → bs = []

theorem Attempt.BindsNothing.unchanged {a : Attempt} {p : Platform} (h : a.BindsNothing p) :
    (a.perform.run p).1 = p :=
  (a.settles p).unchanged_of_nothing fun bs ok => List.map_eq_nil_iff.2 (h bs ok)

namespace Platform

/-- What requests and additions change on the platform `p`. -/
structure ChangesExactly (p : Platform) : Prop where
  /-- A request that binds nothing leaves the platform as it was. -/
  unchanged : ∀ a : Attempt, a.BindsNothing p → (a.perform.run p).1 = p
  /-- What follows it goes as if it had not been made. -/
  forgotten : ∀ a : Attempt, a.BindsNothing p → ∀ ops,
    run (.attempt a :: ops) p = ((run ops p).1, (a.perform.run p).2 :: (run ops p).2)
  /-- A request that binds anything binds one resource, and marks its key and no other. -/
  marked : ∀ (a : Attempt) b bs, (a.perform.run p).2.outcome = .ok (b :: bs) →
    bs = [] ∧ b.key ∉ p.requested ∧ (a.perform.run p).1 = p.mark b.key
  /-- Resources are added up to the first that cannot be. -/
  added : ∀ rs, p.AddsPrefix rs

/-- **A request that fails leaves no trace, and resources are added up to the first that cannot
be.** -/
theorem changesExactly (p : Platform) : p.ChangesExactly where
  unchanged a nothing := nothing.unchanged
  forgotten a nothing ops := by
    show ((run ops (a.perform.run p).1).1, _ :: (run ops (a.perform.run p).1).2) = _
    rw [nothing.unchanged]
    rfl
  marked a b bs ok := by
    obtain ⟨k, keys, free, marked⟩ := (a.settles p).exists_mark ok (by simp)
    obtain ⟨rfl, none⟩ := List.cons.inj keys
    exact ⟨List.map_eq_nil_iff.1 none, free, marked⟩
  added := p.addsPrefix

-- The third lamp repeats the first of the list, so the fourth is not added either.
example :
    let lamp (number : Nat) : Resource := { name := "led", number := number, pins := some "B1" }
    let result := (addResources [lamp 1, lamp 2, lamp 1, lamp 3]).run { board := lampBoard }
    result.1.board.keys = [⟨"led", 0⟩, ⟨"led", 1⟩, ⟨"led", 2⟩] ∧
      result.2.outcome = .error (.duplicateResource "led" 1) := by cbv

end Platform

end SocAssembly
