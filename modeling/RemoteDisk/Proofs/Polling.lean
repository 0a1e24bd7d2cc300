import RemoteDisk.Proofs.Checks
import RemoteDisk.Proofs.Leftovers
import RemoteDisk.Proofs.Signals

/-!
# Waiting by polling

A wait that polls reads the clock in three places: it sets its deadline, looks at
it after every check, and makes its pauses of reads. A signal or a new status may
come with any of them. `Machine.After` says what is known after so many reads,
wherever they were made, as long as no check has found anything: the slot is full
if it was full before or one of the reads brought a signal, and the status register
shows what it was last set to.

Every part of the wait but its last check leads from one such machine to another
(`Machine.Drifts`), so the last check, which decides, sees all that has happened
(`Act.Polls.after`). What a wait comes to is told by this check, and a wait that
was in vain has read its deadline passed just before it.
-/

namespace RemoteDisk

open Op

/-- What the status register shows after something happened. -/
def Happening.shown (status : UInt32) : Happening → UInt32
  | .status value => value
  | _ => status

namespace Machine

/-! ## What reads bring -/

/-- **A signal comes with the `j`-th read** of the clock from here, counted from
zero. -/
def RingsAt (m : Machine) (j : Nat) : Prop := ⟨m.clock.reads + (j + 1), .signal⟩ ∈ m.events

/-- **What the status register shows** after so many reads more. -/
def shownAfter (m : Machine) : Nat → UInt32
  | 0 => m.status
  | n + 1 => ((m.events.filter fun e => e.read == m.clock.reads + (n + 1)).map
      Event.happening).foldl Happening.shown (m.shownAfter n)

/-- **The machine a wait goes on with**: signals and changes of the status register
are all that happens to it, and it makes its pauses by reading the clock. -/
structure Polling (m : Machine) : Prop where
  scripted : m.Scripted
  pending : m.pending = []
  spins : m.clock.delay = .spin

/-- **After so many reads**, and as long as nobody has emptied the slot. -/
structure After (m : Machine) (n : Nat) (m' : Machine) : Prop where
  clock : m'.clock = m.clock.ahead n
  events : m'.events = m.events
  doneMask : m'.channel.doneMask = m.channel.doneMask
  /-- No signal is lost, whichever read it came with. -/
  slot : m'.channel.signaled = true ↔ m.channel.signaled = true ∨ ∃ j < n, m.RingsAt j
  status : m'.status = m.shownAfter n

variable {m m' m'' : Machine} {n k : Nat}

/-- What comes after some reads comes later by as many. -/
theorem After.ringsAt (h : m.After n m') (j : Nat) : m'.RingsAt j ↔ m.RingsAt (n + j) := by
  have place : (m.clock.ahead n).reads + (j + 1) = m.clock.reads + (n + j + 1) := by
    show m.clock.reads + n + (j + 1) = _
    omega
  unfold RingsAt
  rw [h.events, h.clock, place]

theorem After.shownAfter (h : m.After n m') (j : Nat) :
    m'.shownAfter j = m.shownAfter (n + j) := by
  induction j with
  | zero => exact h.status
  | succ j ih =>
    have place : (m.clock.ahead n).reads + (j + 1) = m.clock.reads + (n + j + 1) := by
      show m.clock.reads + n + (j + 1) = _
      omega
    show _ = Machine.shownAfter m (n + j + 1)
    rw [Machine.shownAfter, Machine.shownAfter, ih, h.events, h.clock, place]

theorem After.refl (m : Machine) : m.After 0 m where
  clock := m.clock.ahead_zero.symm
  events := rfl
  doneMask := rfl
  slot := ⟨.inl, fun h => h.resolve_right fun ⟨_, below, _⟩ => Nat.not_lt_zero _ below⟩
  status := rfl

theorem After.trans (h : m.After n m') (h' : m'.After k m'') : m.After (n + k) m'' where
  clock := by rw [h'.clock, h.clock, Clock.ahead_ahead]
  events := h'.events.trans h.events
  doneMask := h'.doneMask.trans h.doneMask
  slot := by
    rw [h'.slot, h.slot, or_assoc]
    refine or_congr_right ⟨?_, ?_⟩
    · rintro (⟨j, hj, rings⟩ | ⟨j, hj, rings⟩)
      · exact ⟨j, by omega, rings⟩
      · exact ⟨n + j, by omega, (h.ringsAt j).mp rings⟩
    · rintro ⟨j, hj, rings⟩
      by_cases early : j < n
      · exact .inl ⟨j, early, rings⟩
      · obtain ⟨i, rfl⟩ := Nat.exists_eq_add_of_le (Nat.not_lt.mp early)
        exact .inr ⟨i, by omega, (h.ringsAt i).mpr rings⟩
  status := h'.status.trans (h.shownAfter k)

/-- What polling needs does not change from one read to the next. -/
theorem Polling.after (p : m.Polling) (h : m.After n m') (none : m'.pending = []) :
    m'.Polling where
  scripted := by
    unfold Scripted
    rw [h.events]
    exact p.scripted
  pending := none
  spins := by
    rw [h.clock]
    exact p.spins

/-- **Some reads were made** on the way from one machine to another. -/
def Drifts (m m' : Machine) : Prop := m.Polling → m'.Polling ∧ ∃ n, m.After n m'

instance : IsPreorder Machine Drifts where
  refl m polling := ⟨polling, 0, .refl m⟩
  trans _ _ _ first second polling := by
    obtain ⟨polling, n, reads⟩ := first polling
    obtain ⟨polling, k, more⟩ := second polling
    exact ⟨polling, n + k, reads.trans more⟩

/-- **What one happening does** to a machine that is polling. -/
theorem happen_scripted {h : Happening} (scripted : h = .signal ∨ ∃ value, h = .status value)
    (m : Machine) :
    (m.happen h).events = m.events ∧ (m.happen h).pending = m.pending
      ∧ (m.happen h).channel.doneMask = m.channel.doneMask
      ∧ ((m.happen h).channel.signaled = true ↔ m.channel.signaled = true ∨ h = .signal)
      ∧ (m.happen h).status = Happening.shown m.status h := by
  obtain rfl | ⟨value, rfl⟩ := scripted
  · exact ⟨rfl, rfl, rfl, iff_of_true rfl (.inr rfl), rfl⟩
  · have slot : m.channel.signaled = true
        ↔ m.channel.signaled = true ∨ Happening.status value = .signal :=
      ⟨.inl, fun h => h.resolve_right fun other => nomatch other⟩
    rcases m with ⟨r | e⟩
    · exact ⟨rfl, rfl, rfl, slot, (RegisterFile.get_set _ _ _ value).trans (if_pos rfl)⟩
    · exact ⟨rfl, rfl, rfl, slot, (e.get_set .status .status value).trans (if_pos rfl)⟩

/-- What happens with one read. -/
theorem happenings_scripted {hs : List Happening}
    (scripted : ∀ h ∈ hs, h = .signal ∨ ∃ value, h = .status value) (m : Machine) :
    ∃ m', hs.foldl (fun m h => m.happen h) m = m' ∧ m'.events = m.events
      ∧ m'.pending = m.pending ∧ m'.channel.doneMask = m.channel.doneMask
      ∧ (m'.channel.signaled = true ↔ m.channel.signaled = true ∨ .signal ∈ hs)
      ∧ m'.status = hs.foldl Happening.shown m.status := by
  induction hs generalizing m with
  | nil => exact ⟨m, rfl, rfl, rfl, rfl, (or_iff_left List.not_mem_nil).symm, rfl⟩
  | cons h hs ih =>
    obtain ⟨events, pending, mask, slot, status⟩ :=
      happen_scripted (scripted h List.mem_cons_self) m
    obtain ⟨m', run, events', pending', mask', slot', status'⟩ :=
      ih (fun h hh => scripted h (List.mem_cons_of_mem _ hh)) (m.happen h)
    refine ⟨m', run, events'.trans events, pending'.trans pending, mask'.trans mask, ?_, ?_⟩
    · rw [slot', slot, or_assoc, List.mem_cons, eq_comm (a := h)]
    · rw [status', status]
      rfl

/-- **One read of the clock.** -/
theorem Polling.now (p : m.Polling) : m.now.2.Polling ∧ m.After 1 m.now.2 := by
  obtain ⟨m', happened, events, pending, mask, slot, status⟩ :=
    happenings_scripted p.scripted.next m
  have still := (now_still happened (pending.trans p.pending)).2.1
  have rings : .signal ∈ m.nextHappenings ↔ ∃ j < 1, m.RingsAt j := by
    rw [mem_nextHappenings]
    constructor
    · rintro ⟨⟨read, happening⟩, he, rfl, rfl⟩
      exact ⟨0, Nat.zero_lt_one, he⟩
    · rintro ⟨j, hj, rings⟩
      obtain rfl := Nat.lt_one_iff.mp hj
      exact ⟨_, rings, rfl, rfl⟩
  have after : m.After 1 m.now.2 :=
    { clock := m.now_clock.2
      events := (congrArg Machine.events still :).trans events
      doneMask := (congrArg (fun b : Machine => b.channel.doneMask) still :).trans mask
      slot := by
        rw [show m.now.2.channel.signaled = m'.channel.signaled from
          (congrArg (fun b : Machine => b.channel.signaled) still :), slot, rings]
      status := by
        rw [← status_still, still, status_still]
        exact status }
  have none : m.now.2.pending = [] := by
    rw [← pending_still, still, pending_still, pending, p.pending]
  exact ⟨p.after after none, after⟩

theorem drifts_now : Op.Leads Drifts Act.now := fun _ polling =>
  ⟨polling.now.1, 1, polling.now.2⟩

theorem drifts_delay (us : UInt64) : Op.Leads Drifts (Act.delay us) :=
  Act.leads_delay drifts_now (fun _ _ jumps polling =>
    Delay.noConfusion (jumps.symm.trans polling.spins)) us

end Machine

namespace Act

variable {m m₁ m' : Machine} {us ms : UInt64} {d : Deadline} {outcome : Outcome}

/-! ## Checks -/

/-- **What a check finds**, and that it leaves the slot empty. -/
theorem ready_finds (m : Machine) :
    ∃ m', ready m = (.ok (m.channel.signaled || Status.shows m.status m.channel.doneMask), m')
      ∧ m'.channel.signaled = false ∧ m'.clock = m.clock := by
  cases slot : m.channel.signaled with
  | true => exact ⟨m.resetSignal, ready_full slot, rfl, rfl⟩
  | false =>
    obtain ⟨shown, still, clock⟩ := m.resetSignal.readStatus_still
    have look := ready_reads slot
    rw [shown, show m.resetSignal.readStatus.2.channel.doneMask = m.channel.doneMask from
      (congrArg (fun b : Machine => b.channel.doneMask) still :)] at look
    exact ⟨_, look, (congrArg (fun b : Machine => b.channel.signaled) still :), clock⟩

/-- **A check that finds nothing** leaves everything as it was. -/
theorem after_unseen (polling : m.Polling) (unseen : ready m = (.ok false, m₁)) :
    m₁.Polling ∧ m.After 0 m₁ := by
  have slot : m.channel.signaled = false := by
    rw [Bool.eq_false_iff]
    intro full
    rw [ready_full full] at unseen
    cases unseen
  obtain ⟨-, still, clock⟩ := m.readStatus_still
  have look := ready_reads slot
  rw [Machine.resetSignal_of_empty slot] at look
  obtain rfl : m.readStatus.2 = m₁ := (Prod.mk.inj (look.symm.trans unseen)).2
  have after : m.After 0 m.readStatus.2 :=
    { clock := clock.trans m.clock.ahead_zero.symm
      events := (congrArg Machine.events still :)
      doneMask := (congrArg (fun b : Machine => b.channel.doneMask) still :)
      slot := by
        rw [show m.readStatus.2.channel.signaled = m.channel.signaled from
          (congrArg (fun b : Machine => b.channel.signaled) still :)]
        exact (Machine.After.refl m).slot
      status := by
        rw [← Machine.status_still, still, Machine.status_still]
        rfl }
  refine ⟨polling.after after ?_, after⟩
  rw [← Machine.pending_still, still, Machine.pending_still, polling.pending]

/-- **The last check of a wait that polls** is made after all its reads, and the
last of them has seen the deadline passed if the check finds nothing. -/
theorem Polls.after {checks : List Machine} (p : Polls us d m checks outcome m')
    (polling : m.Polling) :
    ∃ n last found, checks.getLast? = some last ∧ m.After n last ∧ ready last = (.ok found, m')
      ∧ (outcome = .ready ↔ found = true)
      ∧ (outcome = .timedOut → ∃ k, n = k + 1 ∧ d.reached (m.clock.ahead k).counter = true) := by
  induction p with
  | @found m m' seen =>
    exact ⟨0, m, true, rfl, .refl m, seen, iff_of_true rfl rfl, fun h => nomatch h⟩
  | @passed m m₁ m₂ m' found unseen late last =>
    obtain ⟨polling₁, same⟩ := after_unseen polling unseen
    have looked := (expired_apply d m₁).symm.trans late
    obtain ⟨reached, rfl⟩ := Prod.mk.inj looked
    have after := same.trans polling₁.now.2
    refine ⟨1, _, found, rfl, after, last, ?_, fun _ => ⟨0, rfl, ?_⟩⟩
    · cases found <;> decide
    · rw [← same.clock]
      exact Except.ok.inj reached
  | @again m m₁ m₂ m₃ m' checks outcome unseen early paused rest ih =>
    obtain ⟨polling₁, same⟩ := after_unseen polling unseen
    have looked := leads_expired Machine.drifts_now d m₁ polling₁
    rw [early] at looked
    obtain ⟨polling₂, one, look⟩ := looked
    have waited := Machine.drifts_delay us m₂ polling₂
    rw [paused] at waited
    obtain ⟨polling₃, pause, wait⟩ := waited
    have after := (same.trans look).trans wait
    obtain ⟨n, last, found, ends, after', check, decided, vain⟩ := ih polling₃
    refine ⟨_, last, found, ?_, after.trans after', check, decided, fun timedOut => ?_⟩
    · rw [List.getLast?_cons, ends]
      rfl
    · obtain ⟨k, rfl, reached⟩ := vain timedOut
      refine ⟨0 + one + pause + k, by omega, ?_⟩
      rw [← Clock.ahead_ahead, ← after.clock]
      exact reached

end Act

/-! ## Waits -/

/-- **A wait that polls, in full**, by way of the number `n` of its reads of the
clock and of the machines it made its checks on. -/
structure Machine.Polled (m : Machine) (us ms : UInt64) (outcome : Outcome) (n : Nat)
    (checks : List Machine) (last m' : Machine) : Prop where
  /-- The first read sets the deadline, and then come the checks. -/
  course : Act.Polls us (m.deadline ms) m.now.2 checks outcome m'
  reads : m'.clock = m.clock.ahead n
  /-- The last check comes after all reads. -/
  ends : checks.getLast? = some last
  after : m.After n last
  /-- The wait ends well where the last check finds something, and nowhere else. -/
  found : outcome = .ready ↔ last.channel.signaled = true
    ∨ Status.shows last.status m.channel.doneMask = true
  /-- No signal is lost, whichever read it came with. -/
  rung : (m.channel.signaled = true ∨ ∃ j < n, m.RingsAt j) → outcome = .ready
  /-- No done bit is lost that stays from some read on, the last one included. -/
  done : ∀ j ≤ n, (∀ k, j ≤ k → k ≤ n →
    Status.shows (m.shownAfter k) m.channel.doneMask = true) → outcome = .ready
  /-- A wait that was in vain has just read that the deadline had passed. -/
  late : outcome = .timedOut → ∃ e, n = e + 1 ∧ m.Late ms e
  empty : m'.channel.signaled = false
  /-- Only checks that find the slot empty read the status register, and they do it
  once. -/
  accesses : m.Recording →
    m'.accesses.toList = m.accesses.toList ++ checks.flatMap Machine.checked

namespace Act

variable {m m' : Machine} {us ms : UInt64} {outcome : Outcome}

/-- **A wait that polls came back** after so many reads. -/
theorem polled_of_awaitStatus {looks : Nat} (polling : m.Polling)
    (run : (afterMs ms >>= fun d => awaitStatus us d looks) m = (.ok outcome, m')) :
    ∃ n checks last, m.Polled us ms outcome n checks last m' := by
  rw [bind_ok (afterMs_apply ms m)] at run
  obtain ⟨polling₁, first⟩ := polling.now
  obtain ⟨checks, course⟩ := polls_of_awaitStatus run
  obtain ⟨n, last, found, ends, later, check, decided, vain⟩ := course.after polling₁
  have after := first.trans later
  obtain ⟨m₂, look, empty, clock⟩ := ready_finds last
  obtain ⟨finds, rfl⟩ := Prod.mk.inj (look.symm.trans check)
  have ready : outcome = .ready ↔ last.channel.signaled = true
      ∨ Status.shows last.status m.channel.doneMask = true := by
    rw [decided, ← Except.ok.inj finds, Bool.or_eq_true, after.doneMask]
  refine ⟨1 + n, checks, last, course, clock.trans after.clock, ends, after, ready,
    fun rung => ready.mpr (.inl (after.slot.mpr rung)), fun j hj lasts => ?_, fun timedOut => ?_,
    empty, fun recording => ?_⟩
  · rw [ready, after.status]
    exact .inr (lasts _ hj le_rfl)
  · obtain ⟨k, rfl, reached⟩ := vain timedOut
    refine ⟨k + 1, Nat.add_comm 1 _, (m.late_iff ms k).mpr ?_⟩
    rw [first.clock, Clock.ahead_ahead, Nat.add_comm 1] at reached
    exact reached
  · have noted := Machine.unnoted_now m recording
    rw [show now m = (.ok m.now.1, m.now.2) from rfl] at noted
    rw [(course.accesses noted.1).2, noted.2]

/-- **A wait that polls loses no completion and does not give up early**, on any
clock that pauses by reading it and with signals and changes of the status register
laid out at any of its reads, however often it looks. -/
theorem polled_exactly (polls : m.channel.mode = .polling us) (polling : m.Polling) (ms : UInt64) :
    (∀ outcome m', awaitCompletion ms m = (.ok outcome, m') →
      ∃ n checks last, m.Polled us ms outcome n checks last m')
    ∧ ∀ looks outcome m',
      (afterMs ms >>= fun d => awaitStatus us d looks) m = (.ok outcome, m') →
        ∃ n checks last, m.Polled us ms outcome n checks last m' := by
  refine ⟨fun outcome m' run => ?_, fun looks outcome m' => polled_of_awaitStatus polling⟩
  obtain ⟨looks, same⟩ := awaitCompletion_eq m ms
  rw [polls] at same
  exact polled_of_awaitStatus polling (same.symm.trans run)

/-- A machine that is signalled with some read of the clock. -/
def signalledAt (read : Nat) : Machine :=
  { Command.freshMachine with
    clock := {}
    channel := { mode := .polling 0 }
    events := [⟨read, .signal⟩] }

/-- A signal that comes with the very read that sees the deadline passed is found,
and one that comes with the next read is late. -/
theorem polled_exactly_at_the_deadline :
    (∃ m', awaitCompletion 3 (signalledAt 5) = (.ok .ready, m') ∧ m'.channel.signaled = false)
    ∧ ∃ m' e, awaitCompletion 3 (signalledAt 6) = (.ok .timedOut, m')
      ∧ m'.clock = (signalledAt 6).clock.ahead (e + 1) ∧ (signalledAt 6).Late 3 e := by
  have polling (read : Nat) : (signalledAt read).Polling :=
    ⟨fun e he => .inl (congrArg Event.happening (List.mem_singleton.mp he)), rfl, rfl⟩
  have inTime := Op.apply_eq (show (awaitCompletion 3 (signalledAt 5)).1 = .ok .ready by
    decide +kernel)
  have late := Op.apply_eq (show (awaitCompletion 3 (signalledAt 6)).1 = .ok .timedOut by
    decide +kernel)
  obtain ⟨_, _, _, ready⟩ := (polled_exactly rfl (polling 5) 3).1 _ _ inTime
  obtain ⟨_, _, _, timedOut⟩ := (polled_exactly rfl (polling 6) 3).1 _ _ late
  obtain ⟨e, rfl, passed⟩ := timedOut.late rfl
  exact ⟨⟨_, inTime, ready.empty⟩, _, e, late, timedOut.reads, passed⟩

end Act

end RemoteDisk
