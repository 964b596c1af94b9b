import Mathlib
import SocAssembly.Proofs.Attempts

/-!
# What elaboration hands out

Binding a list of wires and elaborating a descriptor are sequences of attempts, with steps between
them that bind nothing: adding resources, finishing the system. So they hand out the keys of the
bindings that they return, in order, each of them once (`elaborate_handsOut`). The name of a port
tells the key of its binding (`ResourceBinding.port_injective`); hence no two ports of an elaborated
design have one name.
-/

namespace SocAssembly

/-! ### Reports without bindings -/

/-- What finishing a system tells of: the places of its parts and the numbers of its interrupts. -/
inductive Notice.OfFinishing : Notice → Prop where
  /-- An entry got the window that it asked for. -/
  | placedFixed (name : String) (start stop : Nat) : OfFinishing (.placedFixed name start stop)
  /-- An entry got the first window that was free. -/
  | placedAuto (name : String) (start stop : Nat) : OfFinishing (.placedAuto name start stop)
  /-- An entry got a part of its parent's window. -/
  | placedAttached (name parent : String) (start : Nat) :
    OfFinishing (.placedAttached name parent start)
  /-- A peripheral got an interrupt number. -/
  | interruptNumbered (name : String) (irq : Nat) : OfFinishing (.interruptNumbered name irq)

namespace Report

variable {α : Type} {P : Notice → Prop}

theorem tells_pure (a : α) : (pure a : Report α).Tells P := List.forall_mem_nil _

theorem tells_fail (e : Error) : (fail e : Report α).Tells P := List.forall_mem_nil _

theorem tells_ofExcept (x : Except Error α) : (ofExcept x).Tells P := List.forall_mem_nil _

theorem tells_note {n : Notice} (h : P n) : (note n).Tells P := List.forall_mem_singleton.2 h

end Report

namespace Layout

theorem placeFixed_tells (l : Layout) (x : String × Request) :
    (l.placeFixed x).Tells Notice.OfFinishing := by
  unfold placeFixed
  dsimp only
  split
  · split
    · exact Report.tells_fail _
    · split
      · exact Report.tells_fail _
      · split
        · exact Report.tells_fail _
        · exact (Report.tells_note (.placedFixed ..)).bind fun _ => Report.tells_pure _
  · exact Report.tells_pure _

theorem placeAuto_tells (region : Span) (l : Layout) (x : String × Request) :
    (placeAuto region l x).Tells Notice.OfFinishing := by
  unfold placeAuto
  dsimp only
  split
  · split
    · exact Report.tells_fail _
    · exact (Report.tells_note (.placedAuto ..)).bind fun _ => Report.tells_pure _
  · exact Report.tells_pure _

theorem placeAttached_tells (m : AddressMap) (l : Layout) (x : String × Request) :
    (placeAttached m l x).Tells Notice.OfFinishing := by
  unfold placeAttached
  dsimp only
  split
  · split
    · exact Report.tells_fail _
    · split
      · exact Report.tells_fail _
      · split
        · exact Report.tells_fail _
        · split
          · exact Report.tells_fail _
          · exact (Report.tells_note (.placedAttached ..)).bind fun _ => Report.tells_pure _
  · exact Report.tells_pure _

end Layout

theorem AddressMap.allocate_tells (m : AddressMap) : m.allocate.Tells Notice.OfFinishing := by
  unfold allocate
  refine (Report.Tells.foldlM Layout.placeFixed_tells _ _).bind fun fixed => ?_
  refine (Report.Tells.foldlM (Layout.placeAuto_tells m.autoRegion) _ _).bind fun top => ?_
  refine (Report.Tells.foldlM (Layout.placeAttached_tells m) _ _).bind fun full => ?_
  exact Report.tells_pure _

namespace Soc

theorem peripheralEntries_tells (a : Allocation) (next : Nat) (ps : List Peripheral) :
    (peripheralEntries a next ps).Tells Notice.OfFinishing := by
  induction ps generalizing next with
  | nil => exact Report.tells_pure _
  | cons p rest ih =>
    unfold peripheralEntries
    split
    · refine (Report.tells_ofExcept _).bind fun e => ?_
      exact (ih next).bind fun es => Report.tells_pure _
    · refine (Report.tells_note (.interruptNumbered ..)).bind fun _ => ?_
      refine (Report.tells_ofExcept _).bind fun e => ?_
      exact (ih (next + 1)).bind fun es => Report.tells_pure _

theorem finalize_tells (s : Soc) (p : Platform) : (s.finalize p).Tells Notice.OfFinishing := by
  unfold finalize
  refine s.addressMap.allocate_tells.bind fun a => ?_
  refine (Report.tells_ofExcept _).bind fun frequency => ?_
  refine (Report.tells_ofExcept _).bind fun memories => ?_
  refine (peripheralEntries_tells a 0 s.peripherals).bind fun peripherals => ?_
  exact (Report.tells_ofExcept _).bind fun regions => Report.tells_pure _

/-- Finishing a system binds nothing. -/
theorem finalize_quiet (s : Soc) (p : Platform) : boundKeys (s.finalize p).notices = [] := by
  refine boundKeys_eq_nil fun n hn => ?_
  cases s.finalize_tells p n hn <;> rfl

end Soc

theorem noteFallbacks_quiet (signals : List BoundSignal) :
    boundKeys (noteFallbacks signals).notices = [] := by
  refine boundKeys_eq_nil fun n hn => ?_
  obtain ⟨s, -, hs⟩ := List.mem_filterMap.1 hn
  obtain ⟨r, -, rfl⟩ := Option.map_eq_some_iff.1 hs
  rfl

/-! ### Sequences of attempts -/

namespace Platform

/-- Wires hand out the keys of the bindings that they are given. -/
theorem bindAll_handsOut (ws : List Wire) (p : Platform) :
    (bindAll ws).HandsOut p fun signals ks => (signals.map (·.binding)).map (·.key) = ks := by
  induction ws generalizing p with
  | nil =>
    refine .of_quiet rfl rfl ?_
    rintro signals ⟨⟩
    rfl
  | cons w rest ih =>
    unfold bindAll
    refine (bindWire_settles w p).handsOut.bind fun bound q ks hks => ?_
    refine (ih q).bind fun others q' ls hls => ?_
    refine .of_quiet rfl rfl ?_
    rintro signals ⟨⟩
    rw [List.map_append, List.map_append, hks, hls, List.append_nil]

theorem addResources_handsOut (rs : List Resource) (p : Platform) :
    (addResources rs).HandsOut p fun _ ks => ks = [] := by
  induction rs generalizing p with
  | nil => exact .of_quiet rfl rfl fun _ _ => rfl
  | cons r rest ih =>
    unfold addResources
    refine .state_bind ?_
    split
    · exact .of_quiet rfl rfl fun _ _ => rfl
    · have hadd : (Session.modify (·.withResource r)).HandsOut p fun _ ks => ks = [] :=
        ⟨Handout.withResource p r, fun _ _ => rfl⟩
      refine hadd.bind fun _ q ks hks => ?_
      rw [hks]
      exact ih q

end Platform

/-- Elaboration hands out the keys of its bindings, that of the clock first. -/
theorem elaborate_handsOut (d : Descriptor) (p : Platform) :
    (elaborate d).HandsOut p fun e ks => e.bindings.map (·.key) = ks := by
  unfold elaborate
  refine .ofExcept_bind fun soc => ?_
  refine .ofExcept_bind fun _ => ?_
  refine (Platform.addResources_handsOut d.resources p).bind fun _ q ks hks => ?_
  subst hks
  refine .state_bind ?_
  refine (Platform.request_settles _ q).handsOut.bind fun clock q' ks hclock => ?_
  refine (Platform.bindAll_handsOut d.wires q').bind fun signals q'' ls hsignals => ?_
  refine .ofReport_bind (noteFallbacks_quiet signals) fun _ => ?_
  refine .state_bind ?_
  refine .ofReport_bind (soc.finalize_quiet q'') fun design => ?_
  refine .of_quiet rfl rfl ?_
  rintro e ⟨⟩
  rw [← hclock, ← hsignals, List.append_nil, List.nil_append]
  rfl

/-! ### Names of ports -/

/-- Two texts that are cut at their last separator agree before and behind it. -/
theorem eq_of_append_cons {a : Char} {xs ys ds es : List Char} (hds : a ∉ ds) (hes : a ∉ es)
    (h : xs ++ a :: ds = ys ++ a :: es) : xs = ys ∧ ds = es := by
  rcases List.append_eq_append_iff.1 h with ⟨zs, rfl, hzs⟩ | ⟨zs, rfl, hzs⟩
  · cases zs with
    | nil => exact ⟨(List.append_nil xs).symm, (List.cons.inj hzs).2⟩
    | cons z zs =>
      refine absurd ?_ hds
      rw [(List.cons.inj hzs).2]
      exact List.mem_append_right zs (List.mem_cons_self ..)
  · cases zs with
    | nil => exact ⟨List.append_nil ys, (List.cons.inj hzs).2.symm⟩
    | cons z zs =>
      refine absurd ?_ hes
      rw [(List.cons.inj hzs).2]
      exact List.mem_append_right zs (List.mem_cons_self ..)

theorem ResourceBinding.toList_port (b : ResourceBinding) :
    b.port.toList = b.resource.toList ++ '_' :: Nat.toDigits 10 b.number := by
  unfold port
  simp [toString]

/-- The number of a port stands behind the last underscore of its name, so the name tells the
key, although the names of resources may have underscores and digits themselves. -/
theorem ResourceBinding.port_injective {b c : ResourceBinding} (h : b.port = c.port) :
    b.key = c.key := by
  have htexts := congrArg String.toList h
  rw [b.toList_port, c.toList_port] at htexts
  obtain ⟨hresource, hdigits⟩ :=
    eq_of_append_cons Nat.underscore_not_in_toDigits Nat.underscore_not_in_toDigits htexts
  have hnumber : b.number = c.number := by
    rw [← Nat.ofDigitChars_ten_toDigits (n := b.number), hdigits, Nat.ofDigitChars_ten_toDigits]
  unfold key
  rw [String.toList_inj.1 hresource, hnumber]

/-- What a list of bindings with different keys is wired to has different names. -/
theorem nodup_ports {bs : List ResourceBinding} (nodup : (bs.map (·.key)).Nodup) :
    (bs.map ResourceBinding.port).Nodup := by
  refine List.Pairwise.map _ (fun b c ne same => ne ?_) (List.pairwise_map.1 nodup)
  exact ResourceBinding.port_injective same

end SocAssembly
