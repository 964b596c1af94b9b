import Mathlib
import SocAssembly.Proofs.Elaborating

/-!
# Runs of operations on a platform

A platform is worked on by attempts to bind one resource, by lists of wires, by further resources
and by elaborations, in any order and whether they succeed or fail. Whatever the run, the marked
keys are those that were bound, each once, and they stay marked. So an attempt that comes to a
marked key is refused, be it an operation of its own or a step of a longer one
(`Operation.refused`).
-/

namespace SocAssembly

/-! ### Operations -/

/-- What can be done with a platform. -/
inductive Operation where
  /-- One resource is asked for. -/
  | attempt (a : Attempt)
  /-- Wires are bound in order. -/
  | bindAll (ws : List Wire)
  /-- Resources are added. -/
  | addResources (rs : List Resource)
  /-- A descriptor is elaborated. -/
  | elaborate (d : Descriptor)

/-- The steps of an elaboration that come before the clock succeed, and lead from `p` to `q`. -/
def Descriptor.Prepares (d : Descriptor) (p q : Platform) : Prop :=
  ∃ soc, Soc.ofDescriptor d = .ok soc ∧ soc.checkWires d.wires = .ok () ∧
    (Platform.addResources d.resources).Ends p q (.ok ())

namespace Operation

/-- Does what the operation is; the value is what was bound. -/
def perform : Operation → Session Platform (List ResourceBinding)
  | attempt a => a.perform
  | bindAll ws => (·.map (·.binding)) <$> Platform.bindAll ws
  | addResources rs => (fun _ => []) <$> Platform.addResources rs
  | elaborate d => Elaboration.bindings <$> SocAssembly.elaborate d

/-- Started on the platform `p`, the operation makes an attempt on the platform `q`. -/
inductive Makes : Operation → Platform → Attempt → Platform → Prop where
  /-- An attempt of its own. -/
  | attempt (a : Attempt) (p : Platform) : Makes (.attempt a) p a p
  /-- An attempt for a wire, when those before it are bound. -/
  | wire {before rest : List Wire} {w : Wire} {p q : Platform} {signals : List BoundSignal}
      (bound : (Platform.bindAll before).Ends p q (.ok signals)) :
      Makes (.bindAll (before ++ w :: rest)) p (.wire w) q
  /-- The attempt for the default clock. -/
  | clock {d : Descriptor} {p q : Platform} (prepared : d.Prepares p q) :
      Makes (.elaborate d) p (.request ⟨q.board.defaultClock, 0⟩) q
  /-- An attempt for a wire of a descriptor. -/
  | clockedWire {d : Descriptor} {before rest : List Wire} {w : Wire} {p p' q' q : Platform}
      {clock : ResourceBinding} {signals : List BoundSignal} (prepared : d.Prepares p p')
      (clocked : (Platform.request ⟨p'.board.defaultClock, 0⟩).Ends p' q' (.ok clock))
      (wires : d.wires = before ++ w :: rest)
      (bound : (Platform.bindAll before).Ends q' q (.ok signals)) :
      Makes (.elaborate d) p (.wire w) q

/-- An operation hands out the keys of the bindings that it returns. -/
theorem handsOut (op : Operation) (p : Platform) :
    op.perform.HandsOut p fun bs ks => bs.map (·.key) = ks := by
  cases op with
  | attempt a => exact (a.settles p).handsOut
  | bindAll ws => exact (Platform.bindAll_handsOut ws p).map fun _ _ h => h
  | addResources rs => exact (Platform.addResources_handsOut rs p).map fun _ _ h => h.symm
  | elaborate d => exact (elaborate_handsOut d p).map fun _ _ h => h

/-- What was handed out before the operation is handed out when it makes an attempt. -/
theorem Makes.suffix {op : Operation} {p q : Platform} {a : Attempt} (h : op.Makes p a q) :
    p.requested <:+ q.requested := by
  cases h with
  | attempt => exact List.suffix_rfl
  | wire bound => exact (Platform.bindAll_handsOut _ p).suffix bound
  | clock prepared =>
    obtain ⟨soc, -, -, added⟩ := prepared
    exact (Platform.addResources_handsOut _ p).suffix added
  | clockedWire prepared clocked wires bound =>
    obtain ⟨soc, -, -, added⟩ := prepared
    have hadded := (Platform.addResources_handsOut _ p).suffix added
    have hclocked := (Platform.request_settles _ _).handsOut.suffix clocked
    exact (hadded.trans hclocked).trans ((Platform.bindAll_handsOut _ _).suffix bound)

end Operation

namespace Platform

/-- Wires can be bound in two parts. -/
theorem bindAll_append (ws vs : List Wire) :
    bindAll (ws ++ vs) =
      bindAll ws >>= fun signals => bindAll vs >>= fun others => pure (signals ++ others) := by
  induction ws with
  | nil =>
    rw [List.nil_append]
    unfold bindAll
    simp
  | cons w rest ih =>
    rw [List.cons_append]
    simp only [bindAll, ih, bind_assoc, pure_bind, List.append_assoc]

/-- Wires are bound up to the first that comes to a key that was handed out. -/
theorem bindAll_refused {before rest : List Wire} {w : Wire} {p q : Platform} {r : Resource}
    {signals : List BoundSignal} (bound : (bindAll before).Ends p q (.ok signals))
    (found : q.board.firstResource? w.candidates = some r) (taken : r.key ∈ q.requested) :
    (bindAll (before ++ w :: rest)).Ends p q
      (.error (.resourceAlreadyRequested r.name r.number)) := by
  rw [bindAll_append]
  refine bound.bind (Session.Ends.bind_error ?_)
  exact (bindWire_refused found taken).bind_error

end Platform

theorem elaborate_ends {d : Descriptor} {p q q' : Platform} {e : Error} (prepared : d.Prepares p q)
    (h : (Platform.request ⟨q.board.defaultClock, 0⟩).Ends q q' (.error e) ∨
      ∃ q₁ clock, (Platform.request ⟨q.board.defaultClock, 0⟩).Ends q q₁ (.ok clock) ∧
        (Platform.bindAll d.wires).Ends q₁ q' (.error e)) :
    (elaborate d).Ends p q' (.error e) := by
  obtain ⟨soc, described, checked, added⟩ := prepared
  unfold elaborate
  refine .ofExcept_bind described (.ofExcept_bind checked (added.bind (.state_bind ?_)))
  rcases h with hclock | ⟨q₁, clock, hclock, hbindAll⟩
  · exact hclock.bind_error
  · exact hclock.bind hbindAll.bind_error

namespace Operation

/-- An operation that comes to a key that was handed out stops there, and says so. -/
theorem refused {op : Operation} {a : Attempt} {p q : Platform} {r : Resource}
    (makes : op.Makes p a q) (found : a.target? q = some r) (taken : r.key ∈ q.requested) :
    op.perform.Ends p q (.error (.resourceAlreadyRequested r.name r.number)) := by
  cases makes with
  | attempt => exact a.refused found taken
  | wire bound => exact (Platform.bindAll_refused bound found taken).map_error
  | clock prepared =>
    have hclock := Platform.request_refused found taken
    exact (elaborate_ends prepared (Or.inl hclock)).map_error
  | clockedWire prepared clocked wires bound =>
    refine (elaborate_ends prepared (Or.inr ⟨_, _, clocked, ?_⟩)).map_error
    rw [wires]
    exact Platform.bindAll_refused bound found taken

end Operation

/-! ### Runs -/

namespace Platform

/-- Does one operation after the other, whether they succeed or fail. -/
def run : List Operation → Platform → Platform × List (Report (List ResourceBinding))
  | [], p => (p, [])
  | op :: rest, p =>
    let result := op.perform.run p
    let later := run rest result.1
    (later.1, result.2 :: later.2)

/-- The keys that were bound, in order. -/
def handedOut (reports : List (Report (List ResourceBinding))) : List ResourceKey :=
  boundKeys (reports.flatMap (·.notices))

theorem run_handout (ops : List Operation) (p : Platform) :
    Handout p (run ops p).1 (handedOut (run ops p).2) := by
  induction ops generalizing p with
  | nil => exact Handout.refl p
  | cons op rest ih =>
    have hop := (op.handsOut p).handout
    have hrest := ih (op.perform.run p).1
    unfold handedOut run
    rw [List.flatMap_cons, boundKeys_append]
    exact hop.trans hrest

theorem keys_of_mem_run {ops : List Operation} {p : Platform}
    {report : Report (List ResourceBinding)} (mem : report ∈ (run ops p).2)
    {bs : List ResourceBinding} (ok : report.outcome = .ok bs) :
    bs.map (·.key) = boundKeys report.notices := by
  induction ops generalizing p with
  | nil => cases mem
  | cons op rest ih =>
    rcases List.mem_cons.1 mem with rfl | mem
    · exact (op.handsOut p).value bs ok
    · exact ih mem

/-- No resource is handed out twice: what a run has left, with its reports, and what can come after
it. -/
structure Exclusive (p : Platform) (reports : List (Report (List ResourceBinding))) : Prop where
  /-- The marked keys are those that were bound, the latest first. -/
  requested_eq : p.requested = (handedOut reports).reverse
  /-- No key was bound twice. -/
  nodup : (handedOut reports).Nodup
  /-- The next operation marks the keys that it binds and no others, even if it fails. -/
  entered : ∀ op : Operation, (op.perform.run p).1.requested =
    (boundKeys (op.perform.run p).2.notices).reverse ++ p.requested
  /-- The bindings that an operation returned are those that it made. -/
  returned : ∀ report ∈ reports, ∀ bs, report.outcome = .ok bs →
    bs.map (·.key) = boundKeys report.notices
  /-- An attempt that fails leaves the platform as it was. -/
  unchanged : ∀ (a : Attempt) (e : Error), (a.perform.run p).2.outcome = .error e →
    (a.perform.run p).1 = p
  /-- A marked key stays marked, whatever follows. -/
  kept : ∀ more, p.requested <:+ (run more p).1.requested
  /-- A key goes on standing for the resource that it stands for, whatever follows. -/
  lookup : ∀ more k r, p.board.resource? k = some r → (run more p).1.board.resource? k = some r
  /-- A marked key is still marked when the next operation makes an attempt. -/
  reached : ∀ (op : Operation) a q, op.Makes p a q → p.requested <:+ q.requested
  /-- An attempt that comes to a marked key ends its operation with the answer that it is taken. -/
  refused : ∀ (op : Operation) a q r, op.Makes p a q → a.target? q = some r → r.key ∈ q.requested →
    op.perform.Ends p q (.error (.resourceAlreadyRequested r.name r.number))
  /-- The ports of a design that is elaborated have different names. -/
  ports_nodup : ∀ d e, ((elaborate d).run p).2.outcome = .ok e →
    (e.bindings.map ResourceBinding.port).Nodup

/-- **Resources are handed out once.** Whatever is done with a platform from the start, in whatever
order, and whether it succeeds or fails. -/
theorem exclusive_run (b : Board) (ops : List Operation) :
    Exclusive (run ops { board := b }).1 (run ops { board := b }).2 := by
  have handout := run_handout ops { board := b }
  refine
    { requested_eq := ?_
      nodup := handout.nodup
      entered := fun op => (op.handsOut _).handout.requested_eq
      returned := fun report mem bs ok => keys_of_mem_run mem ok
      unchanged := fun a e failed => (a.settles _).unchanged failed
      kept := fun more => (run_handout more _).suffix
      lookup := fun more k r found => (run_handout more _).resource?_eq found
      reached := fun op a q makes => makes.suffix
      refused := fun op a q r makes found taken => Operation.refused makes found taken
      ports_nodup := fun d e ok => ?_ }
  · rw [handout.requested_eq, List.append_nil]
  · have hands := elaborate_handsOut d (run ops { board := b }).1
    refine nodup_ports ?_
    rw [hands.value e ok]
    exact hands.handout.nodup

/-- A board with one lamp. -/
def lampBoard : Board where
  name := "bench"
  device := "LFE5U-12F"
  package := "BG256"
  defaultClock := "clk"
  clockFrequencies := ∅
  resources := [{ name := "led", pins := some "A1" }]

-- The lamp serves in place of another, and then cannot be had even by a wire that is optional.
example : (run [.attempt (.requestAny [⟨"rgb", 0⟩, ⟨"led", 0⟩]),
    .bindAll [⟨"cpu.led", [⟨"led", 0⟩], .optional⟩]] { board := lampBoard }).2.map
      (fun report => (report.outcome.isOk, boundKeys report.notices)) =
    [(true, [⟨"led", 0⟩]), (false, [])] := by cbv

end Platform

end SocAssembly
