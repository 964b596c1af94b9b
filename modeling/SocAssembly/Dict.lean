/-!
# Dictionaries

## The model

A dictionary holds one value for each of its keys and lists them in the order of the keys, which
are compared character by character. Inserting under a key that is present replaces its value, and
keeps the keys in order (`Dict.pairwise_insertEntry`).
-/

namespace SocAssembly

/-- Keys with their values, in the order of the keys. -/
structure Dict (α : Type) where
  /-- The pairs, by increasing key. -/
  entries : List (String × α) := []
  /-- The keys are in order, so no key is there twice. -/
  ordered : entries.Pairwise fun p q => p.1 < q.1 := by exact .nil
  deriving Repr

namespace Dict

variable {α : Type}

instance : EmptyCollection (Dict α) := ⟨{}⟩

instance : Inhabited (Dict α) := ⟨∅⟩

/-- Puts a pair before the first greater key, or in place of an equal one. -/
def insertEntry (key : String) (value : α) : List (String × α) → List (String × α)
  | [] => [(key, value)]
  | (k, v) :: rest =>
    if key < k then (key, value) :: (k, v) :: rest
    else if key = k then (key, value) :: rest
    else (k, v) :: insertEntry key value rest

theorem mem_insertEntry {key : String} {value : α} {entries : List (String × α)} {p : String × α}
    (h : p ∈ insertEntry key value entries) : p.1 = key ∨ p ∈ entries := by
  induction entries with
  | nil => exact Or.inl (congrArg Prod.fst (List.mem_singleton.1 h))
  | cons q rest ih =>
    unfold insertEntry at h
    split at h
    · rcases List.mem_cons.1 h with rfl | h
      · exact Or.inl rfl
      · exact Or.inr h
    · split at h
      · rcases List.mem_cons.1 h with rfl | h
        · exact Or.inl rfl
        · exact Or.inr (List.mem_cons_of_mem q h)
      · rcases List.mem_cons.1 h with rfl | h
        · exact Or.inr List.mem_cons_self
        · exact (ih h).imp_right (List.mem_cons_of_mem _)

/-- Keys that are in order stay in order. -/
theorem pairwise_insertEntry (key : String) (value : α) {entries : List (String × α)}
    (h : entries.Pairwise fun p q => p.1 < q.1) :
    (insertEntry key value entries).Pairwise fun p q => p.1 < q.1 := by
  induction entries with
  | nil => exact List.pairwise_singleton ..
  | cons q rest ih =>
    obtain ⟨first, ordered⟩ := List.pairwise_cons.1 h
    unfold insertEntry
    split
    · rename_i before
      refine List.pairwise_cons.2 ⟨fun p hp => ?_, h⟩
      rcases List.mem_cons.1 hp with rfl | hp
      · exact before
      · exact String.lt_trans before (first p hp)
    · rename_i notBefore
      split
      · rename_i same
        exact List.pairwise_cons.2 ⟨same ▸ first, ordered⟩
      · rename_i differs
        refine List.pairwise_cons.2 ⟨fun p hp => ?_, ih ordered⟩
        rcases mem_insertEntry hp with same | hp
        · rw [same]
          refine Std.not_le.1 fun le => differs ?_
          exact Std.le_antisymm le (Std.not_lt.1 notBefore)
        · exact first p hp

/-- The dictionary with the value under the key. -/
def insert (d : Dict α) (key : String) (value : α) : Dict α where
  entries := insertEntry key value d.entries
  ordered := pairwise_insertEntry key value d.ordered

/-- The value under a key. -/
def get? (d : Dict α) (key : String) : Option α := d.entries.lookup key

/-- The dictionary of a list of pairs; of two pairs with one key the later counts. -/
def ofList (pairs : List (String × α)) : Dict α :=
  pairs.foldl (fun d p => d.insert p.1 p.2) ∅

/-- The first dictionary, overridden key by key by the second. -/
def override (d e : Dict α) : Dict α :=
  e.entries.foldl (fun acc p => acc.insert p.1 p.2) d

end Dict

end SocAssembly
