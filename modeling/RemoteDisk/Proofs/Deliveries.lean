import RemoteDisk.Proofs.Replies

/-!
# Interrupts that nothing was waiting for

An interrupt may arrive at any time: on the line of the disk or on another
one, between two calls or at any look at the clock during a wait. The handler
believes the status register and not the interrupt. While a disk waits, the
slot tells what the register tells (`Machine.Settled`), so a call of the
handler finds the slot full already or has nothing to put into it; at all
other times what it puts there is taken out again by the next launch. So a
run with interrupts keeps step with the same run without them, look by look
and on the same clock, and what it leaves differs in the count of interrupts
alone.
-/

namespace RemoteDisk

/-- Whether what happens is the delivery of an interrupt, on whatever line. -/
def Happening.isDelivery : Happening → Bool
  | raise | interrupt _ => true
  | signal | status _ => false

/-- **The same surroundings but for interrupts** that arrive in the second at
some reads of the clock. -/
structure Surroundings.Disturbed (s s' : Surroundings) : Prop where
  clock : s'.clock = s.clock
  mode : s'.mode = s.mode
  calm : s.events = []
  deliveries : ∀ e ∈ s'.events, e.happening.isDelivery = true

open Machine Surroundings

namespace Machine

variable {m m' : Machine}

/-- **A delivery** calls the handler of the disk or nobody. -/
theorem Tended.happen (h : m.Tended) {happening : Happening}
    (delivery : happening.isDelivery = true) :
    m.happen happening = m ∨ m.happen happening = m.handleInterrupt.2 := by
  cases happening with
  | raise => exact .inr (raise_of_wire h.wire)
  | interrupt line =>
    obtain ⟨own, wire⟩ := h.wire
    show (m.interrupt line).2 = m ∨ (m.interrupt line).2 = _
    unfold Machine.interrupt
    rw [wire]
    dsimp only [deliver]
    split
    · exact .inr rfl
    · exact .inl rfl
  | signal | status => cases delivery

/-- A call of the second handler alone leaves twins. -/
theorem Twin.disturbed (h : Twin Disturbed m m') : Twin Disturbed m m'.handleInterrupt.2 := by
  obtain ⟨plain, around, -⟩ := h.tended'.hasEngine.handleInterrupt
  refine ⟨h.tended, plain.trans h.plain, ?_⟩
  rw [around]
  exact ⟨h.around.clock, h.around.mode, h.around.calm, h.around.deliveries⟩

/-- A slot that tells what the register tells has nothing to learn from a call
of the handler. -/
theorem Settled.handleInterrupt (h : m.Settled) (engine : m.HasEngine) :
    m.handleInterrupt.2.Settled := by
  obtain ⟨plain, -, slot⟩ := engine.handleInterrupt
  unfold Settled
  rw [slot, status_of_plain plain, doneMask_of_plain plain, show m.channel.signaled = _ from h,
    Bool.or_self]

theorem Settled.congr (same : m'.still = m.still) (h : m.Settled) : m'.Settled := by
  unfold Settled
  rw [← status_still, same, status_still, show m'.channel = m.channel from
    (congrArg Machine.channel same :)]
  exact h

/-- **Twins in the middle of a wait**: the slots tell what the status
registers tell, and whether a done bit is shown. -/
structure Watched (ended : Bool) (m m' : Machine) : Prop extends Poised Disturbed m m' where
  shown : Status.shows m.status m.channel.doneMask = ended

namespace Watched

variable {ended : Bool}

theorem slot (h : Watched ended m m') : m.channel.signaled = ended :=
  h.settled.trans h.shown

theorem slot' (h : Watched ended m m') : m'.channel.signaled = ended := by
  have shown := h.settled'
  unfold Settled at shown
  rw [shown, h.status, h.doneMask, h.shown]

/-- The time on both machines may pass alike. -/
theorem congr {m₁ m₁' : Machine} (h : Watched ended m m') (still : m₁.still = m.still)
    (still' : m₁'.still = m'.still) (clock : m₁'.clock = m₁.clock) : Watched ended m₁ m₁' where
  tended := by
    rw [← tended_plain, plain_of_still still, tended_plain]
    exact h.tended
  plain := by rw [plain_of_still still, plain_of_still still', h.plain]
  around := by
    have channel : m₁.channel = m.channel := (congrArg Machine.channel still :)
    have channel' : m₁'.channel = m'.channel := (congrArg Machine.channel still' :)
    refine ⟨clock, ?_, (congrArg Machine.events still :).trans h.around.calm, ?_⟩
    · show m₁'.channel.mode = m₁.channel.mode
      rw [channel, channel']
      exact h.around.mode
    · show ∀ e ∈ m₁'.events, _
      rw [show m₁'.events = m'.events from (congrArg Machine.events still' :)]
      exact h.around.deliveries
  settled := h.settled.congr still
  settled' := h.settled'.congr still'
  shown := by
    rw [status_of_plain (plain_of_still still), doneMask_of_plain (plain_of_still still)]
    exact h.shown

/-- **Interrupts that arrive during a wait** are not noticed. -/
theorem delivered {happenings : List Happening} (h : Watched ended m m')
    (deliveries : ∀ x ∈ happenings, x.isDelivery = true) :
    Watched ended m (happenings.foldl (fun m x => m.happen x) m') := by
  induction happenings generalizing m' with
  | nil => exact h
  | cons x rest ih =>
    refine ih (show Watched ended m (m'.happen x) from ?_) fun y hy =>
      deliveries y (List.mem_cons_of_mem _ hy)
    obtain same | same := h.tended'.happen (deliveries x List.mem_cons_self)
    · rw [same]
      exact h
    · rw [same]
      exact { h.toTwin.disturbed with
        settled := h.settled
        settled' := h.settled'.handleInterrupt h.tended'.hasEngine
        shown := h.shown }

/-- **A read of the clock** finds the same on both sides. -/
theorem now (h : Watched ended m m') :
    m.now.1 = m'.now.1 ∧ Watched ended m.now.2 m'.now.2 := by
  have deliveries : ∀ x ∈ m'.nextHappenings, x.isDelivery = true := by
    intro x hx
    obtain ⟨e, he, rfl⟩ := List.mem_map.mp hx
    exact h.around.deliveries e ((List.mem_filter.mp he).1)
  have met := h.delivered deliveries
  obtain ⟨counter, still, clock⟩ := Quiet.now ⟨h.around.calm, h.tended.pending⟩
  obtain ⟨counter', still', clock'⟩ := now_still rfl met.tended'.pending
  have same := met.around.clock
  refine ⟨?_, met.congr still still' ?_⟩
  · rw [counter, counter', show (List.foldl _ _ _ : Machine).clock = m.clock from same]
  · rw [clock, clock', show (List.foldl _ _ _ : Machine).clock = m.clock from same]

/-- A wait on the second machine has at least as many looks. -/
theorem patience (h : Watched ended m m') : ∃ more, m'.patience = m.patience + more := by
  refine Nat.exists_eq_add_of_le ?_
  have clock : m'.clock = m.clock := h.around.clock
  have calm : m.lastEvent = 0 := by
    unfold lastEvent
    rw [show m.events = [] from h.around.calm]
    rfl
  have due : m.lastDue = 0 := by
    unfold lastDue
    rw [h.tended.pending]
    exact ite_self 0
  unfold Machine.patience
  rw [clock, calm, due]
  omega

/-- What is left when the slots were looked at for the last time. -/
theorem taken (h : Watched ended m m') : Twin Disturbed m.resetSignal m'.resetSignal :=
  h.toTwin.change (f := Machine.resetSignal) (g := id) (fun _ => rfl) (fun _ => rfl)
    fun t => ⟨t.engine, t.wire⟩

/-- A transfer of which nothing is to be seen is seen on neither side. -/
theorem isOpen (h : Watched false m m') : m.Open ∧ m'.Open := by
  refine ⟨⟨h.slot, fun _ => h.shown⟩, ⟨h.slot', fun _ => ?_⟩⟩
  rw [h.status, h.doneMask]
  exact h.shown

end Watched

end Machine

/-! ## Waits -/

namespace Act

open Op

variable {lost : Fault → Prop} {ended : Bool} {d : Deadline} {m m' : Machine}

theorem now_abreast :
    Abreast lost (Twin Disturbed) (Watched ended) now now (Watched ended) :=
  abreast_modifyGet fun _ _ h => h.now

theorem expired_abreast (d : Deadline) :
    Abreast lost (Twin Disturbed) (Watched ended) (expired d) (expired d) (Watched ended) :=
  abreast_bind now_abreast fun _ => abreast_pure _ fun _ _ h => h

theorem afterMs_abreast (ms : UInt64) :
    Abreast lost (Twin Disturbed) (Watched ended) (afterMs ms) (afterMs ms) (Watched ended) := by
  refine abreast_get fun m m' h => ?_
  rw [show m'.clock = m.clock from h.around.clock]
  exact abreast_bind now_abreast (fun _ => abreast_pure _ fun _ _ h => h) m m' h

/-- A look at the slots where nothing is to be seen. -/
theorem takeSignal_abreast :
    Abreast lost (Twin Disturbed) (Watched false) takeSignal takeSignal (Watched false) := by
  intro m m' h
  rw [takeSignal_open h.isOpen.1, takeSignal_open h.isOpen.2]
  exact .ended false h

/-- A look at the slots and the registers where nothing is to be seen. -/
theorem ready_abreast :
    Abreast lost (Twin Disturbed) (Watched false) ready ready (Watched false) := by
  intro m m' h
  obtain ⟨o, o'⟩ := h.isOpen
  obtain ⟨m₁, look, still, clock⟩ := ready_empty o.empty
  obtain ⟨m₁', look', still', clock'⟩ := ready_empty o'.empty
  rw [o.resetSignal] at still
  rw [o'.resetSignal] at still'
  rw [look, look', h.status, h.doneMask]
  refine .ended _ (h.congr still still' ?_)
  rw [clock, clock']
  exact h.around.clock

variable (endless : lost .endless)
include endless

theorem spin_abreast (d : Deadline) (fuel more : Nat) :
    Abreast lost (Twin Disturbed) (Watched ended) (spin d fuel) (spin d (fuel + more))
      (Watched ended) := by
  induction fuel with
  | zero => exact fun m m' _ => .lost endless m _
  | succ fuel ih =>
    rw [Nat.add_right_comm]
    refine abreast_bind (expired_abreast d) fun _ => ?_
    exact abreast_ite (abreast_pure _ fun _ _ h => h) ih

theorem delay_abreast (us : UInt64) :
    Abreast lost (Twin Disturbed) (Watched ended) (delay us) (delay us) (Watched ended) := by
  refine abreast_get fun m m' h => ?_
  rw [show m'.clock = m.clock from h.around.clock]
  dsimp only
  cases m.clock.delay with
  | jump =>
    obtain ⟨still, -⟩ := passTicks_still h.tended.pending (m.clock.delayTicks us)
    obtain ⟨still', -⟩ := passTicks_still h.tended'.pending (m.clock.delayTicks us)
    refine .ended () (h.congr ?_ ?_ ?_)
    · exact congrArg (fun b : Machine => { b with clock := m.still.clock }) still
    · exact congrArg (fun b : Machine => { b with clock := m'.still.clock }) still'
    · exact congrArg (fun c : Clock => c.advance (m.clock.delayTicks us)) h.around.clock
  | spin =>
    refine abreast_bind now_abreast (fun start m m' h => ?_) m m' h
    obtain ⟨more, patience⟩ := h.patience
    rw [bind_ok (patience_apply m).1, bind_ok (patience_apply m').1, patience]
    exact spin_abreast endless _ _ more m m' h

/-- **Waits for the slot** keep step where nothing is to be seen. -/
theorem awaitSignal_abreast (d : Deadline) (fuel more : Nat) :
    Abreast lost (Twin Disturbed) (Watched false) (awaitSignal d fuel)
      (awaitSignal d (fuel + more)) (Twin Disturbed) := by
  induction fuel with
  | zero => exact fun m m' _ => .lost endless m _
  | succ fuel ih =>
    rw [Nat.add_right_comm]
    refine abreast_bind takeSignal_abreast fun _ => ?_
    refine abreast_ite (abreast_pure _ fun _ _ h => h.toTwin) ?_
    refine abreast_bind (expired_abreast d) fun _ => abreast_ite ?_ ih
    exact abreast_bind takeSignal_abreast fun _ => abreast_pure _ fun _ _ h => h.toTwin

/-- **Waits that poll** keep step where nothing is to be seen. -/
theorem awaitStatus_abreast (us : UInt64) (d : Deadline) (fuel more : Nat) :
    Abreast lost (Twin Disturbed) (Watched false) (awaitStatus us d fuel)
      (awaitStatus us d (fuel + more)) (Twin Disturbed) := by
  induction fuel with
  | zero => exact fun m m' _ => .lost endless m _
  | succ fuel ih =>
    rw [Nat.add_right_comm]
    refine abreast_bind ready_abreast fun _ => ?_
    refine abreast_ite (abreast_pure _ fun _ _ h => h.toTwin) ?_
    refine abreast_bind (expired_abreast d) fun _ => abreast_ite ?_ ?_
    · exact abreast_bind ready_abreast fun _ => abreast_pure _ fun _ _ h => h.toTwin
    · exact abreast_bind (delay_abreast endless us) fun _ => ih

/-- **Waits for a completion** keep step: they end at their first look where
the transfer is over, and go on together where it is not. -/
theorem awaitCompletion_abreast (ms : UInt64) :
    Abreast lost (Twin Disturbed) (Poised Disturbed) (awaitCompletion ms) (awaitCompletion ms)
      (Twin Disturbed) := by
  intro m m' h
  have watched : Watched (Status.shows m.status m.channel.doneMask) m m' := { h with shown := rfl }
  refine abreast_bind (afterMs_abreast ms) (fun d => abreast_get fun m m' h => ?_) m m' watched
  obtain ⟨more, patience⟩ := h.patience
  rw [show m'.channel.mode = m.channel.mode from h.around.mode]
  generalize Status.shows _ _ = ended at h
  rcases m.channel.mode with _ | us
  · show Agree _ _ _ ((Act.patience >>= _) m) ((Act.patience >>= _) m')
    rw [bind_ok (patience_apply m).1, bind_ok (patience_apply m').1, patience]
    cases ended
    · exact awaitSignal_abreast endless d _ more m m' h
    · rw [Machine.patience, Nat.add_right_comm _ 1 more, awaitSignal_full h.slot,
        awaitSignal_full h.slot']
      exact .ended _ h.taken
  · show Agree _ _ _ ((Act.patience >>= _) m) ((Act.patience >>= _) m')
    rw [bind_ok (patience_apply m).1, bind_ok (patience_apply m').1, patience]
    cases ended
    · exact awaitStatus_abreast endless us d _ more m m' h
    · rw [Machine.patience, Nat.add_right_comm _ 1 more, awaitStatus_full h.slot,
        awaitStatus_full h.slot']
      exact .ended _ h.taken

/-- **Waits keep step** with interrupts and without them. -/
theorem wait_abreast (ms : UInt64) :
    Abreast lost (Twin Disturbed) (Poised Disturbed) (wait ms) (wait ms) (Twin Disturbed) := by
  refine abreast_bind (awaitCompletion_abreast endless ms) fun outcome => ?_
  cases outcome with
  | timedOut => exact abreast_pure _ fun _ _ h => h
  | ready =>
    refine abreast_get fun m m' h => ?_
    rw [h.errorMask]
    refine abreast_ite (abreast_pure _ fun _ _ h => h) ?_ m m' h
    exact abreast_bind readStatus_abreast fun _ => abreast_pure _ fun _ _ h => h

end Act

/-- Interrupts that arrive during a request keep nothing from going side by
side, unless a wait has no end. -/
theorem coupling_disturbed : Coupling (· = .endless) Disturbed Geometry.timeoutMs where
  recount _ h := { h with }
  wait := @Act.wait_abreast (· = .endless) rfl Geometry.timeoutMs

/-! ## Whole runs -/

namespace Device

variable {d : Device} {m m' : Machine}

/-- A delivery between two calls leaves twins. -/
theorem Call.twin_of_isDelivery {c : Call} (delivery : c.isDelivery = true)
    (h : Twin Disturbed m m') : Twin Disturbed m (c.run d m').2 := by
  cases c with
  | interrupt line =>
    show Twin Disturbed m (m'.deliver (.disk d.irq) line).2
    dsimp only [deliver]
    split
    · exact h.disturbed
    · exact h
  | check => exact h.disturbed
  | raise =>
    show Twin Disturbed m m'.raise.2
    rw [raise_of_wire h.tended'.wire]
    exact h.disturbed
  | _ => cases delivery

/-- **Calls with deliveries between them and during them** come to what the
same calls come to without them. -/
theorem calls_disturbed {calls : List Call} (fixed : ∀ c ∈ calls, c.isRewiring = false)
    (ends : ∀ served ∈ d.replies (calls.filter (!·.isDelivery)) m,
      served.result ≠ .error .endless) (h : Twin Disturbed m m') :
    d.replies calls m' = d.replies (calls.filter (!·.isDelivery)) m
      ∧ Twin Disturbed (d.after (calls.filter (!·.isDelivery)) m) (d.after calls m') := by
  induction calls generalizing m m' with
  | nil => exact ⟨rfl, h⟩
  | cons c rest ih =>
    have fixed' : ∀ c ∈ rest, c.isRewiring = false := fun c h => fixed c (List.mem_cons_of_mem _ h)
    by_cases delivery : c.isDelivery = true
    · rw [List.filter_cons_of_neg (by simpa using delivery)] at ends ⊢
      have makes : c.request? d = none := by
        cases c <;> first | rfl | cases delivery
      rw [replies_of_none makes]
      exact ih fixed' ends (Call.twin_of_isDelivery delivery h)
    · rw [List.filter_cons_of_pos (by simpa using delivery)] at ends ⊢
      obtain ⟨served, reply, fault, error, gone⟩ | ⟨reply, left⟩ :=
        coupling_disturbed.call (d := d) (fixed c List.mem_cons_self) h
      · refine absurd ?_ (ends served ?_)
        · rw [error, show fault = .endless from gone]
        · exact List.mem_append_left _ (Option.mem_toList.mpr reply)
      · obtain ⟨replies, last⟩ := ih fixed' (fun served hs => ends served
          (List.mem_append_right _ hs)) left
        refine ⟨?_, last⟩
        rw [Device.replies, Device.replies, reply, replies]

/-- **Interrupts that nothing was waiting for go unnoticed.** Whatever a disk
is called for, whatever its engine does at each start, and whichever way it
notices the end of a transfer: interrupts that arrive between the calls and
at reads of the clock, on whatever line, leave the replies, the window, the
log, the flushed ranges, the clock with its reads and all the counters as they
are without them, except that interrupts are counted. -/
theorem deliveries_unnoticed {config : Config} {m₀ m : Machine} (calm : m₀.events = [])
    (built : onBench config m₀ = (.ok (.ok d), m)) {bs : List Behavior}
    (synchronous : ∀ b ∈ bs, b.isSynchronous = true) {events : List Event}
    (deliveries : ∀ e ∈ events, e.happening.isDelivery = true) {calls : List Call}
    (fixed : ∀ c ∈ calls, c.isRewiring = false)
    (ends : ∀ served ∈ d.replies (calls.filter (!·.isDelivery)) (m.layOut bs),
      served.result ≠ .error .endless) :
    let undisturbed := d.after (calls.filter (!·.isDelivery)) (m.layOut bs)
    let disturbed := d.after calls { m.layOut bs with events }
    d.replies calls { m.layOut bs with events }
        = d.replies (calls.filter (!·.isDelivery)) (m.layOut bs)
      ∧ disturbed.window = undisturbed.window
      ∧ disturbed.transfers = undisturbed.transfers
      ∧ disturbed.flushes = undisturbed.flushes
      ∧ disturbed.clock = undisturbed.clock
      ∧ disturbed.counters.withoutIrqs = undisturbed.counters.withoutIrqs := by
  have tended := onBench_tended built synchronous
  have twins : Twin Disturbed (m.layOut bs) { m.layOut bs with events } := by
    obtain ⟨-, -, -, arena, journal, rfl⟩ := onBench_inv built
    exact ⟨tended, rfl, rfl, rfl, calm, deliveries⟩
  obtain ⟨replies, last⟩ := calls_disturbed fixed ends twins
  exact ⟨replies, last.sameMemory.window, last.transfers,
    (congrArg Machine.flushes last.plain :), last.around.clock,
    (congrArg Machine.counters last.plain :)⟩

/-- A request that fails, one that times out and one that succeeds, with
interrupts between them and during the second. -/
theorem deliveries_unnoticed_three_requests :
    let config : Config := { sizeBytes := 1024, errorMask := 0x10, mode := .polling 3 }
    let clock : Clock := { step := 1000 }
    let requests : List Call := [.submit (Request.write 0 [⟨#[1, 2, 3]⟩]),
      .queue (Request.read 1 [⟨#[0]⟩]), .submit (Request.read 0 [⟨#[0, 0]⟩])]
    let calls : List Call := [.raise, .submit (Request.write 0 [⟨#[1, 2, 3]⟩]), .interrupt 7,
      .queue (Request.read 1 [⟨#[0]⟩]), .raise, .submit (Request.read 0 [⟨#[0, 0]⟩])]
    let bs : List Behavior := [.fault 0x10, .hang, .immediate]
    let events : List Event :=
      [⟨2, .raise⟩, ⟨3, .interrupt 7⟩, ⟨3, .interrupt 33⟩, ⟨5, .raise⟩]
    ∃ d m, onBench config { clock } = (.ok (.ok d), m)
      ∧ d.replies calls { m.layOut bs with events } = d.replies requests (m.layOut bs) := by
  have built : onBench { sizeBytes := 1024, errorMask := 0x10, mode := .polling 3 }
      { clock := { step := 1000 } }
        = (.ok (.ok ⟨{ sizeBytes := 1024, errorMask := 0x10, mode := .polling 3 }, 2, some 33,
          ⟨0x80000000, Geometry.bounceSize⟩⟩),
        (onBench { sizeBytes := 1024, errorMask := 0x10, mode := .polling 3 }
          { clock := { step := 1000 } }).2) := Op.apply_eq rfl
  intro config clock requests calls bs events
  refine ⟨_, _, built, (deliveries_unnoticed rfl built (by decide) (by decide) (by decide)
    fun served hs => ?_).1⟩
  have ends : ∀ result ∈ (Device.replies ⟨config, 2, some 33, ⟨0x80000000, Geometry.bounceSize⟩⟩
      requests ((onBench config { clock }).2.layOut bs)).map Served.result,
      result ≠ .error .endless := by
    decide +kernel
  exact ends _ (List.mem_map_of_mem hs)

end Device

end RemoteDisk
