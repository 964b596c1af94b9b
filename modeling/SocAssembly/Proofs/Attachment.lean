import Mathlib
import SocAssembly.Proofs.Names
import SocAssembly.Proofs.TopLevel

/-!
# The pass for attached requests

An attached entry is cut from the window of its parent, behind what the parent and the earlier
attachments occupy. The pass goes through all attached requests in the order of registration, but
the parents do not disturb each other: after any part of the list, the windows cut from one parent
lie side by side (`tile`) behind the parent's own bytes, one for each request attached to it, and
nothing else was changed. This is the invariant `Layout.Carved`, which a step keeps
(`Layout.Carved.step`).

Because of it the pass is exact too (`Layout.attachedPass_isOk_iff`): it succeeds if every request
is attached to a top-level entry and the requests attached to one entry fit its window together.
-/

namespace SocAssembly

/-! ### Windows side by side -/

/-- The requests that are attached to an entry. -/
def attachedTo (parent : String) (xs : List (String × Request)) : List (String × Request) :=
  xs.filter (·.2.placement = .attached parent)

@[simp] theorem attachedTo_nil (parent : String) : attachedTo parent [] = [] := rfl

@[simp] theorem attachedTo_append (parent : String) (xs ys : List (String × Request)) :
    attachedTo parent (xs ++ ys) = attachedTo parent xs ++ attachedTo parent ys :=
  List.filter_append ..

theorem attachedTo_cons_self {parent : String} {x : String × Request}
    (h : x.2.placement = .attached parent) (rest : List (String × Request)) :
    attachedTo parent (x :: rest) = x :: attachedTo parent rest :=
  List.filter_cons_of_pos (decide_eq_true h)

theorem attachedTo_cons_of_ne {parent : String} {x : String × Request}
    (h : x.2.placement ≠ .attached parent) (rest : List (String × Request)) :
    attachedTo parent (x :: rest) = attachedTo parent rest :=
  List.filter_cons_of_neg (by simp [h])

/-- The bytes that requests occupy together. -/
def totalSize (xs : List (String × Request)) : Nat := (xs.map (·.2.size)).sum

@[simp] theorem totalSize_nil : totalSize [] = 0 := rfl

@[simp] theorem totalSize_cons (x : String × Request) (xs : List (String × Request)) :
    totalSize (x :: xs) = x.2.size + totalSize xs := by
  simp [totalSize]

@[simp] theorem totalSize_append (xs ys : List (String × Request)) :
    totalSize (xs ++ ys) = totalSize xs + totalSize ys := by
  simp [totalSize]

/-- The windows of requests that lie side by side in a parent's window, from an address on. -/
def tile (parent : String) (base : Nat) : List (String × Request) → List (String × Window)
  | [] => []
  | (name, r) :: rest =>
    (name, ⟨base, r.size, r.size, some parent⟩) :: tile parent (base + r.size) rest

theorem tile_append (parent : String) (base : Nat) (xs ys : List (String × Request)) :
    tile parent base (xs ++ ys) =
      tile parent base xs ++ tile parent (base + totalSize xs) ys := by
  induction xs generalizing base with
  | nil => rfl
  | cons x rest ih =>
    rw [List.cons_append, tile, ih, tile, List.cons_append, totalSize_cons, Nat.add_assoc]

/-- A window of the row is whole, belongs to the parent, and lies between the ends of the row. -/
theorem mem_tile {parent : String} {base : Nat} {xs : List (String × Request)}
    {x : String × Window} (h : x ∈ tile parent base xs) :
    x.2.parent = some parent ∧ x.2.reserved = x.2.size ∧ base ≤ x.2.base ∧
      x.2.base + x.2.size ≤ base + totalSize xs := by
  induction xs generalizing base with
  | nil => cases h
  | cons y rest ih =>
    rw [totalSize_cons]
    rcases List.mem_cons.1 h with rfl | h
    · exact ⟨rfl, rfl, le_rfl, by show base + y.2.size ≤ _; omega⟩
    · obtain ⟨hparent, hreserved, hbase, hstop⟩ := ih h
      exact ⟨hparent, hreserved, by omega, by omega⟩

/-- The windows of a row start in units of the smaller granularity if the row does. -/
theorem packed_dvd_of_mem_tile {parent : String} {base : Nat} {xs : List (String × Request)}
    (dvd : packed ∣ base) {x : String × Window} (h : x ∈ tile parent base xs) :
    packed ∣ x.2.base := by
  induction xs generalizing base with
  | nil => cases h
  | cons y rest ih =>
    rcases List.mem_cons.1 h with rfl | h
    · exact dvd
    · exact ih (dvd.add y.2.isWindowSize_size.packed_dvd) h

/-- Each window of a row ends before the next begins. -/
theorem pairwise_tile (parent : String) (base : Nat) (xs : List (String × Request)) :
    (tile parent base xs).Pairwise fun x y => x.2.base + x.2.size ≤ y.2.base := by
  induction xs generalizing base with
  | nil => exact List.Pairwise.nil
  | cons y rest ih =>
    exact List.pairwise_cons.2 ⟨fun x hx => (mem_tile hx).2.2.1, ih (base + y.2.size)⟩

/-- The row of the requests before it decides where a request lies. -/
theorem mem_tile_of_split (parent : String) (base : Nat) (before rest : List (String × Request))
    (name : String) (r : Request) :
    (name, ⟨base + totalSize before, r.size, r.size, some parent⟩) ∈
      tile parent base (before ++ (name, r) :: rest) := by
  rw [tile_append]
  exact List.mem_append_right _ (List.mem_cons_self ..)

namespace Layout

/-! ### One step -/

/-- The free address behind a row is its end. -/
theorem freeIn_of_tile {windows : List (String × Window)} {parent : String} {w : Window}
    {xs : List (String × Request)} (whole : alignUp w.size packed = w.size)
    (row : windows.filter (·.2.parent = some parent) = tile parent (w.base + w.size) xs) :
    freeIn windows parent w = w.base + w.size + totalSize xs := by
  unfold freeIn
  rw [row]
  rcases List.eq_nil_or_concat' xs with rfl | ⟨before, ⟨name, r⟩, rfl⟩
  · rw [tile, List.getLast?_nil, totalSize_nil]
    exact congrArg (w.base + ·) whole
  · rw [tile_append, tile, tile, List.getLast?_append, List.getLast?_singleton]
    simp only [Option.some_or, totalSize_append, totalSize_cons, totalSize_nil]
    omega

theorem placeAttached_of_not_attached (m : AddressMap) (l : Layout) {x : String × Request}
    (hx : x.2.placement.isAttached = false) : placeAttached m l x = pure l := by
  obtain ⟨name, r⟩ := x
  cases hr : r.placement with
  | attached parent => simp [hr, Placement.isAttached] at hx
  | auto => simp only [placeAttached, hr]
  | fixed base => simp only [placeAttached, hr]

/-- The layout with one more window cut from a parent's. -/
def attach (l : Layout) (name parent : String) (r : Request) (base : Nat) : Layout :=
  { l with windows := l.windows ++ [(name, ⟨base, r.size, r.size, some parent⟩)] }

/-- What happens to an attached request: the parent is looked for first, then it must not be
attached itself, then there has to be room. -/
theorem outcome_placeAttached (m : AddressMap) (l : Layout) {name parent : String} {r : Request}
    (hr : r.placement = .attached parent) :
    (placeAttached m l (name, r)).outcome =
      match m.request? parent with
      | none => .error (.unknownParent name parent)
      | some p =>
        if p.placement.isAttached then .error (.nestedAttachment name parent)
        else
          match l.windows.lookup parent with
          | none => .error (.unallocated parent)
          | some w =>
            if w.base + w.reserved < freeIn l.windows parent w + r.size then
              .error (.parentWindowExhausted name parent w.reserved)
            else .ok (l.attach name parent r (freeIn l.windows parent w)) := by
  have whole : alignUp r.size packed = r.size := r.isWindowSize_size.alignUp_packed
  simp only [placeAttached, hr, whole]
  cases m.request? parent with
  | none => rfl
  | some p =>
    -- the two placements at the top level are treated alike
    cases hplace : p.placement with
    | attached grandparent => simp only [hplace, Placement.isAttached, if_true, Report.outcome_fail]
    | _ =>
      simp only [hplace, Placement.isAttached, Bool.false_eq_true, if_false]
      cases l.windows.lookup parent with
      | none => rfl
      | some w => dsimp only; split <;> rfl

/-- An attached request is placed if its parent is registered, not attached itself and placed, and
its bytes fit behind what is taken in the parent's window. -/
theorem placeAttached_eq_ok_iff {m : AddressMap} {l l' : Layout} {name parent : String}
    {r : Request} (hr : r.placement = .attached parent) :
    (placeAttached m l (name, r)).outcome = .ok l' ↔
      ∃ p w, m.request? parent = some p ∧ p.placement.isAttached = false ∧
        l.windows.lookup parent = some w ∧
        freeIn l.windows parent w + r.size ≤ w.base + w.reserved ∧
        l' = l.attach name parent r (freeIn l.windows parent w) := by
  rw [outcome_placeAttached m l hr]
  constructor
  · intro ok
    split at ok
    · cases ok
    · rename_i p hp
      split at ok
      · cases ok
      · rename_i top
        split at ok
        · cases ok
        · rename_i w hw
          split at ok
          · cases ok
          · rename_i room
            rw [Except.ok.injEq] at ok
            exact ⟨p, w, hp, by simpa using top, hw, Nat.le_of_not_lt room, ok.symm⟩
  · rintro ⟨p, w, hp, top, hw, room, rfl⟩
    simp only [hp, top, hw, Bool.false_eq_true, if_false, Nat.not_lt.2 room]

/-! ### The whole pass -/

/-- The layout has exactly the entries that others can be attached to, and each of them is whole and
shares no window. -/
structure Hosts (m : AddressMap) (top : Layout) : Prop where
  /-- The entries are those that are not attached themselves. -/
  known : ∀ parent, (∃ w, top.windows.lookup parent = some w) ↔
    ∃ p, m.request? parent = some p ∧ p.placement.isAttached = false
  /-- None of them shares a window. -/
  parent_eq : ∀ x ∈ top.windows, x.2.parent = none
  /-- Their bytes are measured in packed units. -/
  packed_dvd : ∀ x ∈ top.windows, packed ∣ x.2.size

/-- The layout `l` is `top` with the attached requests of a list cut from the windows of their
parents. -/
structure Carved (top : Layout) (done : List (String × Request)) (l : Layout) : Prop where
  /-- The blocks are left alone. -/
  blocks_eq : l.blocks = top.blocks
  /-- The windows that were there are left alone, and each new one has a parent among them. -/
  windows_eq : ∃ cut, l.windows = top.windows ++ cut ∧
    ∀ x ∈ cut, ∃ parent w, x.2.parent = some parent ∧ top.windows.lookup parent = some w
  /-- Each attached request has got a window. -/
  names_eq : l.windows.map Prod.fst =
    top.windows.map Prod.fst ++ (done.filter (·.2.placement.isAttached)).map Prod.fst
  /-- The windows cut from one parent lie side by side behind the bytes of the parent. -/
  row : ∀ parent w, top.windows.lookup parent = some w →
    l.windows.filter (·.2.parent = some parent) =
      tile parent (w.base + w.size) (attachedTo parent done)

theorem Carved.nil {m : AddressMap} {top : Layout} (hosts : Hosts m top) : Carved top [] top := by
  refine ⟨rfl, ⟨[], by simp, by simp⟩, by simp, fun parent w _ => ?_⟩
  refine List.filter_eq_nil_iff.2 fun x hx => ?_
  simp [hosts.parent_eq x hx]

/-- What was there before the pass is still found. -/
theorem Carved.lookup {top l : Layout} {done : List (String × Request)} (h : Carved top done l)
    {name : String} {w : Window} (hw : top.windows.lookup name = some w) :
    l.windows.lookup name = some w := by
  obtain ⟨cut, heq, -⟩ := h.windows_eq
  rw [heq, List.lookup_append, hw, Option.some_or]

/-- The free address in a parent's window lies behind the parent's bytes and its row. -/
theorem Carved.freeIn_eq {m : AddressMap} {top l : Layout} (hosts : Hosts m top)
    {done : List (String × Request)} (h : Carved top done l) {parent : String} {w : Window}
    (hw : top.windows.lookup parent = some w) :
    freeIn l.windows parent w = w.base + w.size + totalSize (attachedTo parent done) := by
  have whole := alignUp_of_dvd packed_pos (hosts.packed_dvd _ (mem_of_lookup hw))
  exact freeIn_of_tile whole (h.row parent w hw)

/-- Only the parent's window and what is attached to it so far count for an attached request. -/
theorem Carved.placeAttached_eq_ok_iff {m : AddressMap} {top l l' : Layout} (hosts : Hosts m top)
    {done : List (String × Request)} (h : Carved top done l) {name parent : String} {r : Request}
    (hr : r.placement = .attached parent) :
    (placeAttached m l (name, r)).outcome = .ok l' ↔
      ∃ w, top.windows.lookup parent = some w ∧
        w.size + totalSize (attachedTo parent done) + r.size ≤ w.reserved ∧
        l' = l.attach name parent r (w.base + w.size + totalSize (attachedTo parent done)) := by
  rw [Layout.placeAttached_eq_ok_iff hr]
  constructor
  · rintro ⟨p, w, hp, top', hw, room, rfl⟩
    obtain ⟨w', hw'⟩ := (hosts.known parent).2 ⟨p, hp, top'⟩
    have hsame := h.lookup hw'
    rw [hw, Option.some.injEq] at hsame
    subst hsame
    rw [h.freeIn_eq hosts hw'] at room ⊢
    exact ⟨w, hw', by omega, rfl⟩
  · rintro ⟨w, hw, room, rfl⟩
    obtain ⟨p, hp, top'⟩ := (hosts.known parent).1 ⟨w, hw⟩
    refine ⟨p, w, hp, top', h.lookup hw, ?_, ?_⟩
    · rw [h.freeIn_eq hosts hw]
      omega
    · rw [h.freeIn_eq hosts hw]

/-- A step keeps the invariant. -/
theorem Carved.step {m : AddressMap} {top l l' : Layout} (hosts : Hosts m top)
    {done : List (String × Request)} (h : Carved top done l) {x : String × Request}
    (ok : (placeAttached m l x).outcome = .ok l') : Carved top (done ++ [x]) l' := by
  cases hx : x.2.placement.isAttached with
  | false =>
    rw [placeAttached_of_not_attached m l hx, Report.pure_eq_ok_iff] at ok
    subst ok
    refine ⟨h.blocks_eq, h.windows_eq, by simp [h.names_eq, hx], fun parent w hw => ?_⟩
    have other : x.2.placement ≠ .attached parent := fun same => by
      simp [same, Placement.isAttached] at hx
    rw [h.row parent w hw, attachedTo_append, attachedTo_cons_of_ne other, attachedTo_nil,
      List.append_nil]
  | true =>
    obtain ⟨name, r⟩ := x
    obtain ⟨parent, hr : r.placement = .attached parent⟩ := Placement.isAttached_iff.1 hx
    obtain ⟨w, hw, -, rfl⟩ := (h.placeAttached_eq_ok_iff hosts hr).1 ok
    obtain ⟨cut, heq, hcut⟩ := h.windows_eq
    generalize hbase : w.base + w.size + totalSize (attachedTo parent done) = base
    refine ⟨h.blocks_eq, ⟨cut ++ [(name, ⟨base, r.size, r.size, some parent⟩)], ?_, ?_⟩, ?_,
      fun q v hv => ?_⟩
    · rw [attach, heq, List.append_assoc]
    · intro y hy
      rcases List.mem_append.1 hy with hy | hy
      · exact hcut y hy
      · rw [List.mem_singleton.1 hy]
        exact ⟨parent, w, rfl, hw⟩
    · simp [attach, h.names_eq, hx]
    · rw [attach, List.filter_append, h.row q v hv, attachedTo_append]
      -- the row of the parent grows by the new window, the other rows stay
      by_cases same : q = parent
      · subst same
        rw [hw, Option.some.injEq] at hv
        subst hv
        rw [attachedTo_cons_self (x := (name, r)) hr, attachedTo_nil, tile_append, hbase]
        simp [tile]
      · have other : r.placement ≠ .attached q := by simp [hr, Ne.symm same]
        rw [attachedTo_cons_of_ne (x := (name, r)) other]
        simp [Ne.symm same]

/-- The invariant holds after the pass. -/
theorem Carved.pass {m : AddressMap} {top l : Layout} (hosts : Hosts m top)
    {todo : List (String × Request)}
    (ok : (todo.foldlM (placeAttached m) top).outcome = .ok l) : Carved top todo l :=
  Report.foldlM_keeps (Carved top) (fun _ _ _ _ h => h.step hosts) todo [] top l
    (Carved.nil hosts) ok

/-- The pass is exact: it succeeds if everything is attached to an entry at the top level and what
is attached to one entry fits its window together. -/
theorem attachedPass_isOk_iff {m : AddressMap} {top l : Layout} (hosts : Hosts m top)
    {done : List (String × Request)} (h : Carved top done l) (todo : List (String × Request)) :
    (∃ l', (todo.foldlM (placeAttached m) l).outcome = .ok l') ↔
      ∀ parent, attachedTo parent todo ≠ [] → ∃ w, top.windows.lookup parent = some w ∧
        w.size + totalSize (attachedTo parent (done ++ todo)) ≤ w.reserved := by
  induction todo generalizing done l with
  | nil => simp
  | cons x rest ih =>
    have assoc : done ++ x :: rest = done ++ [x] ++ rest := by simp
    rw [assoc]
    cases hx : x.2.placement.isAttached with
    | false =>
      have hstep := placeAttached_of_not_attached m l hx
      have next : Carved top (done ++ [x]) l := h.step hosts (by rw [hstep]; rfl)
      rw [List.foldlM_cons, hstep, pure_bind, ih next]
      refine forall_congr' fun parent => ?_
      have other : x.2.placement ≠ .attached parent := fun same => by
        simp [same, Placement.isAttached] at hx
      rw [attachedTo_cons_of_ne other]
    | true =>
      obtain ⟨name, r⟩ := x
      obtain ⟨parent, hr : r.placement = .attached parent⟩ := Placement.isAttached_iff.1 hx
      constructor
      · rintro ⟨l', ok⟩ q some
        obtain ⟨u, hu, ok⟩ := Report.foldlM_cons_eq_ok_iff.1 ok
        by_cases none : attachedTo q rest = []
        · -- only the request at hand is attached to `q`, and it did fit
          have same : r.placement = .attached q := by
            by_contra other
            rw [attachedTo_cons_of_ne other] at some
            exact some none
          obtain ⟨w, hw, room, -⟩ := (h.placeAttached_eq_ok_iff hosts same).1 hu
          refine ⟨w, hw, ?_⟩
          simp only [attachedTo_append, none, attachedTo_cons_self (x := (name, r)) same,
            attachedTo_nil, totalSize_append, totalSize_cons, totalSize_nil]
          omega
        · exact (ih (h.step hosts hu)).1 ⟨l', ok⟩ q none
      · intro fits
        obtain ⟨w, hw, room⟩ := fits parent (by
          rw [attachedTo_cons_self (x := (name, r)) hr]
          exact List.cons_ne_nil _ _)
        simp only [attachedTo_append, attachedTo_cons_self (x := (name, r)) hr, attachedTo_nil,
          totalSize_append, totalSize_cons, totalSize_nil] at room
        have fit : w.size + totalSize (attachedTo parent done) + r.size ≤ w.reserved := by omega
        obtain ⟨u, hu⟩ : ∃ u, (placeAttached m l (name, r)).outcome = .ok u :=
          ⟨_, (h.placeAttached_eq_ok_iff hosts hr).2 ⟨w, hw, fit, rfl⟩⟩
        obtain ⟨l', ok⟩ := (ih (h.step hosts hu)).2 fun q some => fits q fun none => some (by
          rw [attachedTo, List.filter_cons] at none
          split at none
          · cases none
          · exact none)
        exact ⟨l', Report.foldlM_cons_eq_ok_iff.2 ⟨u, hu, ok⟩⟩

end Layout

end SocAssembly
