import RemoteDisk.Proofs.Acts

/-!
# What outlasts a wait

While somebody waits, the clock moves, interrupts arrive, transfers that
were put off come to their end: bytes are copied, the status register and
the completion slot change, and interrupts are counted. Nothing else does.

`Machine.bare` is the machine without all that. Of the counter of interrupts
it keeps what was counted beyond the interrupts that the disk's handler
claimed, which no wait changes either. That a wait keeps the bare machine
(`keeps_wait`) is therefore a frame for everything that a request is
accounted by – the engine's log, the flushed ranges, the counters – and it
holds whatever the clock, its events and the engine do.
-/

namespace RemoteDisk

namespace Engine

/-- An engine without what it is doing: what it was set up with, the
behaviours laid out for it, and its log. -/
def bare (e : Engine) : Engine :=
  { e with
    registers := Vector.replicate 8 0
    busy := false
    overlapped := false
    elapsed := 0
    pending := [] }

@[simp] theorem bare_setStatus (e : Engine) (value : UInt32) :
    (e.setStatus value).bare = e.bare := rfl

@[simp] theorem bare_elapse (e : Engine) (us : Nat) : (e.elapse us).bare = e.bare := rfl

@[simp] theorem bare_defer (e : Engine) (us : UInt64) (t : Transfer) :
    (e.defer us t).bare = e.bare := rfl

/-- Taking a transfer that was put off leaves the bare engine. -/
theorem bare_takePostponed {e e' : Engine} {t : Transfer} (h : e.takePostponed? = some (t, e')) :
    e'.bare = e.bare := by
  unfold takePostponed? at h
  split at h
  · cases h
  · cases h
    rfl

end Engine

/-- What answers at the registers, without what it is doing. -/
def Controller.bare : Controller → Controller
  | .recorder _ => .recorder {}
  | .engine e => .engine e.bare

namespace Machine

/-- **How many interrupts the disk's handler claimed.** -/
def handled (m : Machine) : Nat := m.claims.count .handled

/-- **The machine without what changes while somebody waits.** -/
def bare (m : Machine) : Machine :=
  { m with
    controller := m.controller.bare
    window := { m.window with memory := {} }
    memory := {}
    channel := { m.channel with signaled := false }
    clock := { m.clock with counter := 0, reads := 0 }
    counters := { m.counters with irqs := m.counters.irqs - UInt64.ofNat m.handled }
    journal := #[]
    notices := #[]
    claims := #[] }

/-- Behind the registers there is an engine. -/
def HasEngine (m : Machine) : Prop := ∃ e, m.controller = .engine e

/-- A machine has an engine exactly where its bare machine has one. -/
theorem hasEngine_bare {m : Machine} : m.bare.HasEngine ↔ m.HasEngine := by
  rcases m with ⟨_ | e⟩
  · constructor <;> rintro ⟨_, h⟩ <;> cases h
  · exact ⟨fun _ => ⟨e, rfl⟩, fun _ => ⟨e.bare, rfl⟩⟩

/-! ## Operations that leave the bare machine -/

variable (m : Machine)

@[simp] theorem bare_takeSignal : m.takeSignal.2.bare = m.bare := rfl

/-- A change of the engine that leaves the bare engine leaves the bare
machine. -/
theorem bare_mapEngine {f : Engine → Engine} (h : ∀ e, (f e).bare = e.bare) :
    (m.mapEngine f).bare = m.bare := by
  rcases m with ⟨_ | e⟩
  · rfl
  · simp only [mapEngine, bare, Controller.bare, h]
    rfl

@[simp] theorem bare_setStatus (value : UInt32) : (m.setStatus value).bare = m.bare := by
  rcases m with ⟨_ | _⟩ <;> rfl

@[simp] theorem bare_readRegister (offset : Nat) : (m.readRegister offset).2.bare = m.bare := by
  rcases m with ⟨_ | _⟩ <;> rfl

@[simp] theorem bare_readStatus : m.readStatus.2.bare = m.bare := m.bare_readRegister _

@[simp] theorem bare_store (target : Target) (data : ByteArray) :
    (m.store target data).bare = m.bare := by
  unfold store
  split <;> rfl

/-- An interrupt that is turned down is not counted. -/
@[simp] theorem bare_answered_unclaimed : (m.answered .unclaimed).bare = m.bare := by
  unfold bare answered handled
  simp only [Array.count_push, beq_iff_eq, reduceCtorEq, if_false, Nat.add_zero]

/-- **An interrupt that is claimed is counted once**, so what was counted
beyond the claims is the same. -/
@[simp] theorem bare_answered_handled :
    ((m.mapCounters Counters.countIrq).answered .handled).bare = m.bare := by
  have balance : m.counters.irqs + 1 - (UInt64.ofNat m.handled + 1)
      = m.counters.irqs - UInt64.ofNat m.handled := by grind
  have count : ((m.mapCounters Counters.countIrq).answered .handled).handled = m.handled + 1 :=
    Array.count_push_self
  simp only [bare, count, UInt64.ofNat_add, UInt64.ofNat_one]
  simp only [answered, mapCounters, Counters.countIrq, balance]

@[simp] theorem bare_handleInterrupt : m.handleInterrupt.2.bare = m.bare := by
  unfold handleInterrupt
  dsimp only
  split
  · exact (bare_answered_handled _).trans (m.bare_readStatus)
  · exact (bare_answered_unclaimed _).trans (m.bare_readStatus)

@[simp] theorem bare_deliver (handler : Handler) (line : UInt32) :
    (m.deliver handler line).2.bare = m.bare := by
  unfold deliver
  cases handler with
  | latch => rfl
  | disk own =>
    dsimp only
    split
    · exact m.bare_handleInterrupt
    · rfl
  | observer claims => rfl

@[simp] theorem bare_raise : m.raise.2.bare = m.bare := by
  unfold raise
  split
  · exact m.bare_deliver _ _
  · rfl

@[simp] theorem bare_interrupt (line : UInt32) : (m.interrupt line).2.bare = m.bare := by
  unfold interrupt
  split
  · exact m.bare_deliver _ _
  · rfl

@[simp] theorem bare_publish (extra : UInt32) : (m.publish extra).bare = m.bare :=
  m.bare_mapEngine (fun _ => rfl)

@[simp] theorem bare_release : m.release.bare = m.bare := m.bare_mapEngine (fun _ => rfl)

@[simp] theorem bare_finish (extra : UInt32) : (m.finish extra).bare = m.bare := by
  rw [finish, bare_raise, bare_release, bare_publish]

end Machine

namespace Act

open Op

/-- **What a copy does**: nothing where the bytes find no buffer or a range
no memory, else one store of the bytes that were fetched. -/
theorem copy_apply (t : Transfer) (m : Machine) :
    copy t m =
      if Engine.longestBuffer < t.length.toNat then (.error .allocation, m)
      else if m.window.locate t.source t.length.toNat = .invalid
          ∨ m.window.locate t.destination t.length.toNat = .invalid then (.ok false, m)
      else (.ok true, m.store (m.window.locate t.destination t.length.toNat)
        (m.fetch (m.window.locate t.source t.length.toNat) t.length.toNat)) := by
  unfold copy
  dsimp only
  split
  · rfl
  · rw [bind_ok (get_apply m), Op.ite_apply]
    rfl

theorem keeps_copy (t : Transfer) : Keeps Machine.bare (fun _ => True) (copy t) := by
  intro m
  refine ⟨?_, fun _ _ => trivial⟩
  rw [copy_apply]
  split
  · rfl
  · split
    · rfl
    · exact m.bare_store _ _

theorem keeps_complete (t : Transfer) : Keeps Machine.bare (fun _ => True) (complete t) :=
  keeps_bind (keeps_copy t) (fun _ => keeps_modify (fun m => m.bare_finish _))

end Act

/-! ## Time -/

namespace Machine

variable (m : Machine)

@[simp] theorem bare_happen (h : Happening) : (m.happen h).bare = m.bare := by
  cases h with
  | signal => rfl
  | status value => exact m.bare_setStatus value
  | raise => exact m.bare_raise
  | interrupt line => exact m.bare_interrupt line

/-- Any number of happenings leave the bare machine. -/
theorem bare_happenings (hs : List Happening) :
    (hs.foldl (fun m h => m.happen h) m).bare = m.bare := by
  induction hs generalizing m with
  | nil => rfl
  | cons h hs ih => rw [List.foldl_cons, ih, bare_happen]

@[simp] theorem bare_completeNext : m.completeNext.bare = m.bare := by
  unfold completeNext
  split
  · rfl
  · next t e taken =>
    rcases m with ⟨_ | e'⟩
    · cases taken
    · rw [(Act.keeps_complete t _).1]
      have same : e.bare = e'.bare := Engine.bare_takePostponed taken
      simp only [bare, Controller.bare, same]
      rfl

@[simp] theorem bare_completeDue (count : Nat) : (m.completeDue count).bare = m.bare := by
  induction count generalizing m with
  | zero => rfl
  | succ count ih =>
    rw [completeDue]
    split
    · rw [ih, bare_completeNext]
    · rfl

@[simp] theorem bare_pass (us : Nat) : (m.pass us).bare = m.bare := by
  rw [pass, bare_completeDue]
  exact m.bare_mapEngine (fun e => e.bare_elapse us)

@[simp] theorem bare_passTicks (ticks : UInt64) : (m.passTicks ticks).bare = m.bare := by
  unfold passTicks
  split
  · exact m.bare_pass _
  · rfl

/-- **A read of the clock leaves the bare machine.** -/
@[simp] theorem bare_now : m.now.2.bare = m.bare := by
  show (passTicks m.clock.step (m.nextHappenings.foldl (fun m h => m.happen h) m)).bare = _
  rw [bare_passTicks, bare_happenings]

end Machine

namespace Act

open Op

theorem keeps_now : Keeps Machine.bare (· = .endless) now := keeps_modifyGet (fun m => m.bare_now)

theorem keeps_expired (d : Deadline) : Keeps Machine.bare (· = .endless) (expired d) :=
  keeps_bind keeps_now (fun _ => keeps_pure _)

theorem keeps_patience : Keeps Machine.bare (· = .endless) patience :=
  keeps_bind keeps_get (fun _ => keeps_pure _)

theorem keeps_takeSignal : Keeps Machine.bare (· = .endless) takeSignal :=
  keeps_modifyGet (fun m => m.bare_takeSignal)

theorem keeps_readStatus : Keeps Machine.bare (· = .endless) readStatus :=
  keeps_modifyGet (fun m => m.bare_readStatus)

theorem keeps_afterMs (ms : UInt64) : Keeps Machine.bare (· = .endless) (afterMs ms) :=
  keeps_bind keeps_get (fun _ => keeps_bind keeps_now (fun _ => keeps_pure _))

theorem keeps_spin (d : Deadline) (fuel : Nat) :
    Keeps Machine.bare (· = .endless) (spin d fuel) := by
  induction fuel with
  | zero => exact keeps_throw rfl
  | succ fuel ih =>
    exact keeps_bind (keeps_expired d) (fun _ => keeps_ite (keeps_pure _) ih)

theorem keeps_delay (us : UInt64) : Keeps Machine.bare (· = .endless) (delay us) := by
  refine keeps_bind keeps_get (fun m => ?_)
  dsimp only
  split
  · refine keeps_modify (fun m => ?_)
    exact congrArg (fun b : Machine => { b with clock := m.bare.clock }) (m.bare_passTicks _)
  · exact keeps_bind keeps_now (fun _ => keeps_bind keeps_patience (fun _ => keeps_spin _ _))

theorem keeps_ready : Keeps Machine.bare (· = .endless) ready := by
  refine keeps_bind keeps_takeSignal (fun _ => keeps_ite (keeps_pure _) ?_)
  exact keeps_bind keeps_readStatus (fun _ => keeps_bind keeps_get (fun _ => keeps_pure _))

theorem keeps_awaitSignal (d : Deadline) (fuel : Nat) :
    Keeps Machine.bare (· = .endless) (awaitSignal d fuel) := by
  induction fuel with
  | zero => exact keeps_throw rfl
  | succ fuel ih =>
    refine keeps_bind keeps_takeSignal (fun _ => keeps_ite (keeps_pure _) ?_)
    refine keeps_bind (keeps_expired d) (fun _ => keeps_ite ?_ ih)
    exact keeps_bind keeps_takeSignal (fun _ => keeps_pure _)

theorem keeps_awaitStatus (us : UInt64) (d : Deadline) (fuel : Nat) :
    Keeps Machine.bare (· = .endless) (awaitStatus us d fuel) := by
  induction fuel with
  | zero => exact keeps_throw rfl
  | succ fuel ih =>
    refine keeps_bind keeps_ready (fun _ => keeps_ite (keeps_pure _) ?_)
    refine keeps_bind (keeps_expired d) (fun _ => keeps_ite ?_ ?_)
    · exact keeps_bind keeps_ready (fun _ => keeps_pure _)
    · exact keeps_bind (keeps_delay us) (fun _ => ih)

theorem keeps_awaitCompletion (ms : UInt64) :
    Keeps Machine.bare (· = .endless) (awaitCompletion ms) := by
  refine keeps_bind (keeps_afterMs ms) (fun d => keeps_bind keeps_get (fun m => ?_))
  split
  · exact keeps_bind keeps_patience (fun _ => keeps_awaitSignal d _)
  · exact keeps_bind keeps_patience (fun _ => keeps_awaitStatus _ d _)

/-- **A wait leaves the bare machine**, whatever happens during it and
however it ends; and the only fault it can end in is not to end. -/
theorem keeps_wait (ms : UInt64) : Keeps Machine.bare (· = .endless) (wait ms) := by
  refine keeps_bind (keeps_awaitCompletion ms) (fun outcome => ?_)
  cases outcome with
  | timedOut => exact keeps_pure _
  | ready =>
    refine keeps_bind keeps_get (fun m => keeps_ite (keeps_pure _) ?_)
    exact keeps_bind keeps_readStatus (fun _ => keeps_pure _)

end Act

end RemoteDisk
