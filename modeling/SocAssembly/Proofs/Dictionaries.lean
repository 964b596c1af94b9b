import Mathlib
import SocAssembly.Dict
import SocAssembly.Proofs.Names

/-!
# Values under keys

Inserting changes the value under one key and no other (`Dict.get?_insert`). A dictionary has each
of its keys once; hence overriding by it gives its own values where it has any, and leaves the
others (`Dict.get?_override`).
-/

namespace SocAssembly.Dict

variable {α : Type}

theorem lookup_insertEntry (key : String) (value : α) (entries : List (String × α)) (k : String) :
    (insertEntry key value entries).lookup k =
      if k = key then some value else entries.lookup k := by
  induction entries with
  | nil => exact lookup_cons_eq_ite (key, value) [] k
  | cons q rest ih =>
    unfold insertEntry
    split
    · rw [lookup_cons_eq_ite]
    · split
      · rename_i same
        rw [lookup_cons_eq_ite, lookup_cons_eq_ite, ← same]
        by_cases hk : k = key <;> simp [hk]
      · rename_i differs
        rw [lookup_cons_eq_ite, lookup_cons_eq_ite, ih]
        by_cases hk : k = key
        · simp [hk, differs]
        · simp [hk]

theorem get?_insert (d : Dict α) (key : String) (value : α) (k : String) :
    (d.insert key value).get? k = if k = key then some value else d.get? k :=
  lookup_insertEntry key value d.entries k

/-- Where the second dictionary has a value it counts, and elsewhere the first. -/
theorem get?_override (d e : Dict α) (key : String) :
    (d.override e).get? key = (e.get? key).or (d.get? key) := by
  obtain ⟨entries, ordered⟩ := e
  show (entries.foldl (fun acc p => acc.insert p.1 p.2) d).get? key = (entries.lookup key).or _
  induction entries generalizing d with
  | nil => rfl
  | cons p rest ih =>
    obtain ⟨first, ordered⟩ := List.pairwise_cons.1 ordered
    rw [List.foldl_cons, ih (d.insert p.1 p.2) ordered, get?_insert, lookup_cons_eq_ite]
    by_cases same : key = p.1
    · -- the key does not come again
      have last : rest.lookup key = none := by
        rw [lookup_eq_none_iff_notMem, same]
        intro again
        obtain ⟨q, hq, hkey⟩ := List.mem_map.1 again
        exact (first q hq).ne hkey.symm
      rw [last, if_pos same, if_pos same]
      rfl
    · rw [if_neg same, if_neg same]

end SocAssembly.Dict
