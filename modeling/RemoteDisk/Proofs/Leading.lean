import Mathlib.Order.Defs.Unbundled
import RemoteDisk.Proofs.Acts

/-!
# Operations that lead along a relation

What an operation leaves may be related to what it began with, however it ends
(`Op.Leads`). Where the relation is a preorder this passes from the members of a
sequence to the sequence.

A wait is made of very few members: reads of the clock, looks at the slot and reads
of the status register. A relation that each of them leads along is one that every
wait leads along (`Act.leads_wait`), so whatever is to be known about waits as a
whole takes three lemmas, and one more where a clock may be moved without reading
it.
-/

namespace RemoteDisk

/-- **An operation leads along a relation** from every state, however it ends. -/
def Op.Leads {σ α : Type} (R : σ → σ → Prop) (a : Op σ α) : Prop := ∀ s, R s (a s).2

namespace Op

variable {σ α β : Type} {R : σ → σ → Prop} [IsPreorder σ R]

theorem leads_pure (v : α) : Leads R (pure v : Op σ α) := fun s => refl_of R s

theorem leads_throw (fault : Fault) : Leads R (throw fault : Op σ α) := fun s => refl_of R s

theorem leads_get : Leads R (get : Op σ σ) := fun s => refl_of R s

theorem leads_bind {a : Op σ α} {f : α → Op σ β} (ha : Leads R a) (hf : ∀ v, Leads R (f v)) :
    Leads R (a >>= f) := by
  intro s
  have first := ha s
  rw [bind_apply]
  rcases run : a s with ⟨fault | v, s'⟩
  all_goals rw [run] at first
  · exact first
  · exact trans_of R first (hf v s')

omit [IsPreorder σ R] in
theorem leads_ite {c : Prop} [Decidable c] {a b : Op σ α} (ha : Leads R a) (hb : Leads R b) :
    Leads R (if c then a else b) := by
  split
  · exact ha
  · exact hb

end Op

namespace Act

open Op

variable {R : Machine → Machine → Prop} [IsPreorder Machine R]

theorem leads_patience : Leads R patience := leads_bind leads_get fun _ => leads_pure _

section Deadlines

variable (reads : Leads R now)
include reads

theorem leads_expired (d : Deadline) : Leads R (expired d) :=
  leads_bind reads fun _ => leads_pure _

theorem leads_afterMs (ms : UInt64) : Leads R (afterMs ms) :=
  leads_bind leads_get fun _ => leads_bind reads fun _ => leads_pure _

theorem leads_spin (d : Deadline) (fuel : Nat) : Leads R (spin d fuel) := by
  induction fuel with
  | zero => exact leads_throw _
  | succ fuel ih => exact leads_bind (leads_expired reads d) fun _ => leads_ite (leads_pure _) ih

/-- **A pause** is made of reads of the clock, unless the clock is moved
without them. -/
theorem leads_delay
    (jumps : ∀ (m : Machine) (ticks : UInt64), m.clock.delay = .jump →
      R m { m.passTicks ticks with clock := m.clock.advance ticks })
    (us : UInt64) : Leads R (delay us) := by
  have spins (ticks : UInt64) : Leads R (now >>= fun start =>
      patience >>= fun fuel => spin ⟨start, ticks⟩ fuel) :=
    leads_bind reads fun _ => leads_bind leads_patience fun _ => leads_spin reads _ _
  intro m
  unfold delay
  rw [bind_ok (get_apply m)]
  rcases way : m.clock.delay
  · exact spins _ m
  · exact jumps m _ way

end Deadlines

theorem leads_ready (takes : Leads R takeSignal) (looks : Leads R readStatus) :
    Leads R ready := by
  refine leads_bind takes fun _ => leads_ite (leads_pure _) ?_
  exact leads_bind looks fun _ => leads_bind leads_get fun _ => leads_pure _

section Waits

variable (reads : Leads R now) (takes : Leads R takeSignal)
include reads takes

/-- A wait for the slot does not look at the status register. -/
theorem leads_awaitSignal (d : Deadline) (fuel : Nat) : Leads R (awaitSignal d fuel) := by
  induction fuel with
  | zero => exact leads_throw _
  | succ fuel ih =>
    refine leads_bind takes fun _ => leads_ite (leads_pure _) ?_
    refine leads_bind (leads_expired reads d) fun _ => leads_ite ?_ ih
    exact leads_bind takes fun _ => leads_pure _

variable (looks : Leads R readStatus) (pauses : ∀ us, Leads R (delay us))
include looks pauses

theorem leads_awaitStatus (us : UInt64) (d : Deadline) (fuel : Nat) :
    Leads R (awaitStatus us d fuel) := by
  have check := leads_ready takes looks
  induction fuel with
  | zero => exact leads_throw _
  | succ fuel ih =>
    refine leads_bind check fun _ => leads_ite (leads_pure _) ?_
    refine leads_bind (leads_expired reads d) fun _ => leads_ite ?_ ?_
    · exact leads_bind check fun _ => leads_pure _
    · exact leads_bind (pauses us) fun _ => ih

theorem leads_awaitCompletion (ms : UInt64) : Leads R (awaitCompletion ms) := by
  refine leads_bind (leads_afterMs reads ms) fun d => leads_bind leads_get fun m => ?_
  split
  · exact leads_bind leads_patience fun _ => leads_awaitSignal reads takes d _
  · exact leads_bind leads_patience fun _ => leads_awaitStatus reads takes looks pauses _ d _

/-- **A wait leads along** whatever its members lead along. -/
theorem leads_wait (ms : UInt64) : Leads R (wait ms) := by
  refine leads_bind (leads_awaitCompletion reads takes looks pauses ms) fun outcome => ?_
  cases outcome with
  | timedOut => exact leads_pure _
  | ready =>
    refine leads_bind leads_get fun m => leads_ite (leads_pure _) ?_
    exact leads_bind looks fun _ => leads_pure _

end Waits

end Act

end RemoteDisk
