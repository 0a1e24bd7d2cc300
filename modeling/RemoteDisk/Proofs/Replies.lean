import RemoteDisk.Proofs.Accounting
import RemoteDisk.Proofs.Coupling

/-!
# Sequences of calls on twins

What the requests among a sequence of calls come back with is a list of
replies. Two disks that are called alike on twins reply alike, under any
coupling of their surroundings, and are left with twins again. A call makes a
request, sets the counters to zero, delivers an interrupt, or does nothing;
only the first of these waits, and so only it can be lost.
-/

namespace RemoteDisk

namespace Device

namespace Call

/-- Whether a call delivers an interrupt to the disk. -/
def isDelivery : Call → Bool
  | interrupt _ | check | raise => true
  | submit _ | queue _ | readSectors _ _ | writeSectors _ _ | ioctl _ _ | resetCounters
  | attach _ | detach => false

/-- Whether a call changes who listens to the interrupt wire. -/
def isRewiring : Call → Bool
  | attach _ | detach => true
  | submit _ | queue _ | readSectors _ _ | writeSectors _ _ | ioctl _ _ | resetCounters
  | interrupt _ | check | raise => false

/-- **What the request of a call comes back with**, if it makes one: its
result, the phase it is left in and the bytes a read has delivered. -/
def reply? (d : Device) (m : Machine) (c : Call) : Option (Served (Except BlockError Unit)) :=
  (c.request? d).map fun r => ((d.submit r).runOn m).1

/-- **A call that does none of these things** leaves the machine as it was. -/
theorem run_idle {d : Device} {c : Call} (makes : c.request? d = none) (resets : c.resets = false)
    (delivers : c.isDelivery = false) (rewires : c.isRewiring = false) (m : Machine) :
    (c.run d m).2 = m := by
  have refused {block : UInt64} {len : Nat} {request : UInt64 → Request}
      (h : (d.checkRange block len).toOption.map request = none) :
      (serving (d.access block len request) m).2 = m := by
    rcases checked : d.checkRange block len with e | sector
    · unfold serving
      rw [Serve.runOn_machine, access_refused request checked]
    · rw [checked] at h
      cases h
  cases c with
  | submit | queue => cases makes
  | readSectors block buffer => exact refused makes
  | writeSectors block data => exact refused makes
  | ioctl number out =>
    have other : Diagnostic.ofNumber? number ≠ .ok .resetStats := by
      intro reset
      rw [Call.resets, reset] at resets
      cases resets
    exact (Op.keeps_bind (d.keeps_ioctl other out) (fun _ => Op.keeps_pure _) m).1
  | resetCounters => cases resets
  | interrupt | check | raise => cases delivers
  | attach | detach => cases rewires

end Call

/-- The machine after some calls. -/
def after (d : Device) (calls : List Call) (m : Machine) : Machine :=
  calls.foldl (fun m c => (c.run d m).2) m

/-- **What the requests among some calls come back with**, in order. -/
def replies (d : Device) : List Call → Machine → List (Served (Except BlockError Unit))
  | [], _ => []
  | c :: rest, m => (c.reply? d m).toList ++ d.replies rest (c.run d m).2

/-- A call that makes no request is passed over. -/
theorem replies_of_none {d : Device} {c : Call} (h : c.request? d = none) (rest : List Call)
    (m : Machine) : d.replies (c :: rest) m = d.replies rest (c.run d m).2 := by
  rw [replies, Call.reply?, h]
  rfl

end Device

/-- The machine with behaviours laid out ahead for its engine. -/
def Machine.layOut (bs : List Behavior) (m : Machine) : Machine :=
  m.mapEngine fun e => { e with upcoming := bs }

/-- **A disk on a bench is tended**, and its engine puts nothing off where none
of the behaviours laid out for it does. -/
theorem Device.onBench_tended {config : Config} {d : Device} {m m' : Machine}
    (built : onBench config m = (.ok (.ok d), m')) {bs : List Behavior}
    (synchronous : ∀ b ∈ bs, b.isSynchronous = true) : (m'.layOut bs).Tended := by
  obtain ⟨-, -, line, arena, journal, rfl⟩ := onBench_inv built
  exact ⟨⟨_, rfl, rfl, rfl, synchronous⟩, _, by rw [line]; rfl⟩

open Device Machine

variable {lost : Fault → Prop} {X : Surroundings → Surroundings → Prop} {d : Device}
  {m m' : Machine}

/-- Counters that are set to zero on both sides leave twins. -/
theorem Machine.Twin.reset (recount : ∀ {s s' : Surroundings} (f : UInt64 → UInt64), X s s' →
      X (s.recount f) (s'.recount f)) (h : Twin X m m') (journal journal' : Array Entry) :
    Twin X { m with counters := {}, journal } { m' with counters := {}, journal := journal' } where
  tended := ⟨h.tended.engine, h.tended.wire⟩
  plain := congrArg (fun b : Machine => { b with counters := {} }) h.plain
  around := recount (fun _ => 0) h.around

/-- An interrupt on some line leads from twins to twins. -/
theorem Machine.Twin.deliver (recount : ∀ {s s' : Surroundings} (f : UInt64 → UInt64), X s s' →
      X (s.recount f) (s'.recount f)) (h : Twin X m m') (own : Option UInt32) (line : UInt32) :
    Twin X (m.deliver (.disk own) line).2 (m'.deliver (.disk own) line).2 := by
  dsimp only [Machine.deliver]
  split
  · exact h.handleInterrupt recount
  · exact h

namespace Coupling

variable (c : Coupling lost X Geometry.timeoutMs)
include c

/-- A call that makes no request leaves twins. -/
theorem call_of_none {call : Call} (makes : call.request? d = none)
    (fixed : call.isRewiring = false) (h : Twin X m m') :
    Twin X (call.run d m).2 (call.run d m').2 := by
  by_cases resets : call.resets = true
  · obtain ⟨journal, run⟩ := Call.run_resets (d := d) resets m
    obtain ⟨journal', run'⟩ := Call.run_resets (d := d) resets m'
    rw [run, run']
    exact h.reset c.recount journal journal'
  by_cases delivers : call.isDelivery = true
  · cases call with
    | interrupt line => exact h.deliver c.recount d.irq line
    | check => exact h.handleInterrupt c.recount
    | raise =>
      show Twin X m.raise.2 m'.raise.2
      rw [raise_of_wire h.tended.wire, raise_of_wire h.tended'.wire]
      exact h.handleInterrupt c.recount
    | _ => cases delivers
  · rw [Bool.not_eq_true] at resets delivers
    rw [Call.run_idle makes resets delivers fixed, Call.run_idle makes resets delivers fixed]
    exact h

/-- A request comes to the same reply and leaves twins, unless it is lost. -/
theorem request (r : Request) (h : Twin X m m') :
    (∃ e, ((d.submit r).runOn m).1.result = .error e ∧ lost e)
      ∨ ((d.submit r).runOn m).1 = ((d.submit r).runOn m').1
        ∧ Twin X ((d.submit r).runOn m).2 ((d.submit r).runOn m').2 := by
  have start : Service.Beside (Twin X) { machine := m } { machine := m' } := ⟨h, rfl, rfl⟩
  rw [Serve.runOn_machine, Serve.runOn_machine]
  obtain ⟨e, fault, gone⟩ | ⟨same, left⟩ := (c.submit d rfl r _ _ start).states
  · refine .inl ⟨e, ?_, gone⟩
    rw [Serve.runOn_result]
    exact fault
  · refine .inr ⟨?_, left.machine⟩
    rw [Serve.runOn_served, Serve.runOn_served, same, left.phase, left.delivered]

/-- **One call on twins** comes to the same reply and leaves twins, unless its
request is lost. -/
theorem call {call : Call} (fixed : call.isRewiring = false) (h : Twin X m m') :
    (∃ served ∈ call.reply? d m, ∃ e, served.result = .error e ∧ lost e)
      ∨ call.reply? d m = call.reply? d m' ∧ Twin X (call.run d m).2 (call.run d m').2 := by
  unfold Call.reply?
  rcases makes : call.request? d with _ | r
  · exact .inr ⟨rfl, c.call_of_none makes fixed h⟩
  · obtain ⟨-, run, -⟩ := Call.run_of_request (m := m) makes
    obtain ⟨-, run', -⟩ := Call.run_of_request (m := m') makes
    rw [run, run']
    obtain gone | ⟨same, left⟩ := c.request (d := d) r h
    · exact .inl ⟨_, rfl, gone⟩
    · exact .inr ⟨congrArg some same, left⟩

end Coupling

end RemoteDisk
