import Mathlib

/-!
# Looking up names

Entries are kept in lists of pairs and found by the first match. As long as no name stands twice in
a list, what is found under a name is what stands with it (`lookup_eq_some_iff_mem`), and the order
of the list does not count (`lookup_eq_of_perm`).
-/

namespace SocAssembly

variable {α : Type}

theorem lookup_cons_eq_ite (x : String × α) (xs : List (String × α)) (name : String) :
    (x :: xs).lookup name = if name = x.1 then some x.2 else xs.lookup name := by
  obtain ⟨key, value⟩ := x
  by_cases same : name = key
  · simp [same]
  · have other : (name == key) = false := beq_false_of_ne same
    simp [List.lookup_cons, same, other]

theorem mem_of_lookup {xs : List (String × α)} {name : String} {a : α}
    (h : xs.lookup name = some a) : (name, a) ∈ xs := by
  obtain ⟨before, rest, rfl, -⟩ := List.lookup_eq_some_iff.1 h
  exact List.mem_append_right before (List.mem_cons_self ..)

theorem exists_lookup_iff {xs : List (String × α)} {name : String} :
    (∃ a, xs.lookup name = some a) ↔ name ∈ xs.map Prod.fst := by
  rw [← Option.isSome_iff_exists, List.lookup_isSome_iff, List.mem_map]
  refine exists_congr fun p => and_congr_right fun _ => ?_
  rw [beq_iff_eq, eq_comm]

theorem lookup_eq_none_iff_notMem {xs : List (String × α)} {name : String} :
    xs.lookup name = none ↔ name ∉ xs.map Prod.fst := by
  rw [← exists_lookup_iff, not_exists, Option.eq_none_iff_forall_ne_some]

/-- Where no name stands twice, a name is found with whatever stands with it. -/
theorem lookup_eq_some_iff_mem {xs : List (String × α)} (nodup : (xs.map Prod.fst).Nodup)
    {name : String} {a : α} : xs.lookup name = some a ↔ (name, a) ∈ xs := by
  refine ⟨mem_of_lookup, fun mem => ?_⟩
  obtain ⟨b, hb⟩ := exists_lookup_iff.2 (List.mem_map.2 ⟨(name, a), mem, rfl⟩)
  have same := List.inj_on_of_nodup_map nodup (mem_of_lookup hb) mem rfl
  rw [hb, (Prod.mk.inj same).2]

/-- Where no name stands twice, the order of the entries does not count. -/
theorem lookup_eq_of_perm {xs ys : List (String × α)} (nodup : (xs.map Prod.fst).Nodup)
    (perm : xs.Perm ys) (name : String) : xs.lookup name = ys.lookup name := by
  have nodup' : (ys.map Prod.fst).Nodup := (perm.map Prod.fst).nodup_iff.1 nodup
  refine Option.ext fun a => ?_
  rw [lookup_eq_some_iff_mem nodup, lookup_eq_some_iff_mem nodup', perm.mem_iff]

/-- Lists with the same names in the same order are the same if each name stands with the same. -/
theorem eq_of_names_eq {xs ys : List (String × α)} (names : xs.map Prod.fst = ys.map Prod.fst)
    (same : ∀ x ∈ xs, ∀ y ∈ ys, x.1 = y.1 → x = y) : xs = ys := by
  induction xs generalizing ys with
  | nil => exact (List.map_eq_nil_iff.1 names.symm).symm
  | cons x rest ih =>
    cases ys with
    | nil => cases names
    | cons y rest' =>
      obtain ⟨head, tail⟩ := List.cons.inj names
      rw [same x (List.mem_cons_self ..) y (List.mem_cons_self ..) head]
      rw [ih tail fun z hz z' hz' =>
        same z (List.mem_cons_of_mem x hz) z' (List.mem_cons_of_mem y hz')]

/-- Lists without repeated names are permutations of each other if they agree on every name. -/
theorem perm_of_lookup_eq {xs ys : List (String × α)} (nodup : (xs.map Prod.fst).Nodup)
    (nodup' : (ys.map Prod.fst).Nodup) (same : ∀ name, xs.lookup name = ys.lookup name) :
    xs.Perm ys := by
  refine (List.perm_ext_iff_of_nodup nodup.of_map nodup'.of_map).2 fun ⟨name, a⟩ => ?_
  rw [← lookup_eq_some_iff_mem nodup, ← lookup_eq_some_iff_mem nodup', same]

end SocAssembly
