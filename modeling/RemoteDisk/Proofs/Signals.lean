import Mathlib.Order.Nat
import RemoteDisk.Command.Run
import RemoteDisk.Proofs.Reads

/-!
# Waiting for signals

A wait with interrupts watches a single slot, and whoever signals fills it.
Where nothing but signals happens by itself, the end of such a wait is a
matter of numbers: of the read at which the first signal lands
(`Machine.Found`) and of the first read that sees the deadline passed
(`Machine.Late`), both counted from the read that sets the deadline. The
signal wins where it is not later, also on the very read that sees the
deadline passed, since the slot is looked at once more after it.

A wait that comes back leaves the slot empty and the machine otherwise as it
was, its time apart. So the same can be said of each wait of a whole sequence
of calls, and every completion is paid for by a signal of its own.
-/

namespace RemoteDisk

namespace Machine

/-! ## What happens at a read -/

/-- **Nothing but signals happens by itself.** -/
structure Rings (m : Machine) : Prop where
  signals : ∀ e ∈ m.events, e.happening = .signal
  pending : m.pending = []

/-- **A signal lands** on the `j`-th read of the clock from here, counted from
zero. -/
def Lands (m : Machine) (j : Nat) : Prop := ∃ e ∈ m.events, e.read = m.clock.reads + (j + 1)

/-- **A wait finds the slot full** after its `j`-th read: the slot was full
before it, or a signal lands on that read. -/
def Found (m : Machine) (j : Nat) : Prop := j = 0 ∧ m.channel.signaled = true ∨ m.Lands j

/-- **A wait sees its deadline passed** at its `j`-th read. The read that sets
the deadline does not look at it. -/
def Late (m : Machine) (ms : UInt64) (j : Nat) : Prop :=
  1 ≤ j ∧ (usToTicks (Deadline.msToUs ms) m.clock.freq).toNat
    ≤ j * m.clock.step.toNat % Geometry.wordLimit

variable {m m' : Machine} {ms : UInt64}

/-- Machines that are the same but for their time and their slot have the same
things happen to them. -/
theorem Rings.congr (same : m'.resetSignal.still = m.resetSignal.still) (r : m.Rings) :
    m'.Rings where
  signals := by
    rw [show m'.events = m.events from (congrArg Machine.events same :)]
    exact r.signals
  pending := by
    have pending := congrArg Machine.pending same
    rw [pending_still, pending_still] at pending
    exact pending.trans r.pending

/-- A slot that is empty may be emptied. -/
theorem resetSignal_of_empty (empty : m.channel.signaled = false) : m.resetSignal = m := by
  unfold resetSignal mapChannel
  rw [← empty]

/-- What lands after the next read lands one read later than that. -/
theorem lands_ahead (events : m'.events = m.events) (clock : m'.clock = m.clock.ahead 1) (j : Nat) :
    m'.Lands j ↔ m.Lands (j + 1) := by
  unfold Lands
  rw [events, clock]
  have place : (m.clock.ahead 1).reads + (j + 1) = m.clock.reads + (j + 1 + 1) := by
    show m.clock.reads + 1 + (j + 1) = _
    omega
  rw [place]

/-- Every event is laid out for one of the reads up to the last. -/
theorem le_lastEvent {e : Event} (he : e ∈ m.events) : e.read ≤ m.lastEvent := by
  unfold lastEvent
  have bound (es : List Event) (n : Nat) :
      n ≤ es.foldl (fun n e => max n e.read) n
        ∧ ∀ e ∈ es, e.read ≤ es.foldl (fun n e => max n e.read) n := by
    induction es generalizing n with
    | nil => exact ⟨Nat.le_refl n, fun _ h => nomatch h⟩
    | cons a es ih =>
      obtain ⟨start, rest⟩ := ih (max n a.read)
      refine ⟨Nat.le_trans (Nat.le_max_left _ _) start, fun e he => ?_⟩
      rcases List.mem_cons.mp he with rfl | he
      · exact Nat.le_trans (Nat.le_max_right _ _) start
      · exact rest e he
  exact (bound m.events 0).2 e he

/-- Signals collapse: any number of them fill the slot once. -/
theorem happen_signals (happenings : List Happening) (signals : ∀ h ∈ happenings, h = .signal) :
    happenings.foldl (fun m h => m.happen h) m = if happenings = [] then m else m.signal := by
  induction happenings generalizing m with
  | nil => rfl
  | cons h happenings ih =>
    obtain rfl := signals h List.mem_cons_self
    rw [List.foldl_cons, ih fun h hh => signals h (List.mem_cons_of_mem _ hh),
      if_neg (List.cons_ne_nil _ _)]
    split <;> rfl

/-- **A read of the clock** fills the slot where a signal lands on it, and does nothing else
but move the time. -/
theorem Rings.now (r : m.Rings) :
    (m.Lands 0 → m.now.2.still = m.signal.still) ∧ (¬m.Lands 0 → m.now.2.still = m.still) := by
  have happened := happen_signals (m := m) m.nextHappenings fun h hh => by
    obtain ⟨e, he, -, rfl⟩ := mem_nextHappenings.mp hh
    exact r.signals e he
  have lands : m.Lands 0 ↔ m.nextHappenings ≠ [] := by
    refine ⟨fun ⟨e, he, read⟩ nil => ?_, fun some => ?_⟩
    · have here := mem_nextHappenings.mpr ⟨e, he, read, rfl⟩
      rw [nil] at here
      cases here
    · obtain ⟨h, hh⟩ := List.exists_mem_of_ne_nil _ some
      obtain ⟨e, he, read, -⟩ := mem_nextHappenings.mp hh
      exact ⟨e, he, read⟩
  by_cases silent : m.nextHappenings = []
  · rw [if_pos silent] at happened
    have still := (now_still happened r.pending).2.1
    exact ⟨fun h => absurd silent (lands.mp h), fun _ => still⟩
  · rw [if_neg silent] at happened
    have still := (now_still happened r.pending).2.1
    exact ⟨fun _ => still, fun h => absurd (lands.mpr silent) h⟩

/-- **The machine after a read on which no signal lands** is a read further, and
so is the schedule. -/
structure Silent (m m₁ : Machine) : Prop where
  rings : m₁.Rings
  still : m₁.still = m.still
  clock : m₁.clock = m.clock.ahead 1
  empty : m₁.channel.signaled = m.channel.signaled
  lands : ∀ j, m₁.Lands j ↔ m.Lands (j + 1)

namespace Silent

variable {m₁ : Machine}

theorem step (s : Silent m m₁) : m₁.clock.step = m.clock.step := by
  rw [s.clock]
  rfl

theorem counter (s : Silent m m₁) : m₁.clock.counter = m.clock.counter + m.clock.step := by
  rw [s.clock]
  exact congrArg (m.clock.counter + ·) (UInt64.one_mul _)

theorem look (s : Silent m m₁) (i : Nat) :
    m₁.clock.counter + UInt64.ofNat i * m₁.clock.step
      = m.clock.counter + UInt64.ofNat (i + 1) * m.clock.step := by
  rw [s.clock]
  exact m.clock.look_ahead i

end Silent

theorem Rings.silent (r : m.Rings) (silent : ¬m.Lands 0) : Silent m m.now.2 := by
  have clock := m.now_clock.2
  have still := r.now.2 silent
  exact
    { rings := r.congr (congrArg Machine.resetSignal still)
      still := still
      clock := clock
      empty := (congrArg (fun b : Machine => b.channel.signaled) still :)
      lands := Machine.lands_ahead (congrArg Machine.events still :) clock }

end Machine

namespace Act

open Op

variable {m : Machine} {d : Deadline} {ms : UInt64}

/-! ## The looks of a wait -/

/-- A look at an empty slot. -/
theorem takeSignal_empty (empty : m.channel.signaled = false) : takeSignal m = (.ok false, m) := by
  show (Except.ok m.channel.signaled, m.resetSignal) = _
  rw [empty, Machine.resetSignal_of_empty empty]

/-- A look at a full slot empties it. -/
theorem takeSignal_full (full : m.channel.signaled = true) :
    takeSignal m = (.ok true, m.resetSignal) := by
  show (Except.ok m.channel.signaled, m.resetSignal) = _
  rw [full]

/-- **A look that finds nothing** goes over into the next one. -/
theorem awaitSignal_later (empty : m.channel.signaled = false)
    (early : d.reached m.clock.counter = false) (fuel : Nat) :
    awaitSignal d (fuel + 1) m = awaitSignal d fuel m.now.2 := by
  rw [awaitSignal, bind_ok (takeSignal_empty empty)]
  refine (bind_ok (expired_apply d m)).trans ?_
  rw [early]
  rfl

/-- **A signal that lands before a look sees the deadline passed**, or on that
very look, ends the wait well. -/
theorem awaitSignal_lands {n fuel : Nat} (r : m.Rings) (empty : m.channel.signaled = false)
    (enough : n + 1 < fuel) (lands : m.Lands n) (first : ∀ i < n, ¬m.Lands i)
    (early : ∀ i < n, d.reached (m.clock.counter + UInt64.ofNat i * m.clock.step) = false) :
    ∃ m', awaitSignal d fuel m = (.ok .ready, m') ∧ m'.clock = m.clock.ahead (n + 1)
      ∧ m'.still = m.resetSignal.still := by
  induction n generalizing m fuel with
  | zero =>
    obtain ⟨fuel, rfl⟩ := Nat.exists_eq_add_of_lt enough
    have still := r.now.1 lands
    have full : m.now.2.channel.signaled = true :=
      (congrArg (fun b : Machine => b.channel.signaled) still :)
    refine ⟨m.now.2.resetSignal, ?_, m.now_clock.2, congrArg Machine.resetSignal still⟩
    -- the slot is full after this look, whether the look came too late or not
    rw [show 0 + 1 + fuel + 1 = fuel + 1 + 1 by omega, awaitSignal,
      bind_ok (takeSignal_empty empty)]
    refine (bind_ok (expired_apply d m)).trans ?_
    cases d.reached m.clock.counter
    · exact awaitSignal_full full fuel
    · exact bind_ok (takeSignal_full full)
  | succ n ih =>
    obtain ⟨fuel, rfl⟩ := Nat.exists_eq_add_of_lt enough
    have s := r.silent (first 0 (Nat.zero_lt_succ n))
    have now := early 0 (Nat.zero_lt_succ n)
    rw [Deadline.PassesAt.first_look] at now
    have later : ∀ i < n,
        d.reached (m.now.2.clock.counter + UInt64.ofNat i * m.now.2.clock.step) = false := by
      intro i hi
      have next := early (i + 1) (Nat.succ_lt_succ hi)
      rwa [s.look]
    obtain ⟨m', rest, clock, still⟩ := ih s.rings (s.empty.trans empty)
      (show n + 1 < n + 1 + 1 + fuel by omega) ((s.lands n).mpr lands)
      (fun i hi => mt (s.lands i).mp (first (i + 1) (Nat.succ_lt_succ hi))) later
    refine ⟨m', ?_, ?_, still.trans (congrArg Machine.resetSignal s.still)⟩
    · rw [awaitSignal_later empty now]
      exact rest
    · rw [clock, s.clock, Clock.ahead_ahead, Nat.add_comm 1]

/-- **A wait that no signal reaches in time** ends with its deadline. -/
theorem awaitSignal_passes {n fuel : Nat} (r : m.Rings) (empty : m.channel.signaled = false)
    (enough : n < fuel) (p : d.PassesAt m.clock.counter m.clock.step n)
    (none : ∀ i ≤ n, ¬m.Lands i) :
    ∃ m', awaitSignal d fuel m = (.ok .timedOut, m') ∧ m'.clock = m.clock.ahead (n + 1)
      ∧ m'.still = m.still := by
  induction n generalizing m fuel with
  | zero =>
    obtain ⟨fuel, rfl⟩ := Nat.exists_eq_add_of_lt enough
    have s := r.silent (none 0 (Nat.le_refl 0))
    refine ⟨m.now.2, ?_, s.clock, s.still⟩
    rw [Nat.zero_add, awaitSignal, bind_ok (takeSignal_empty empty)]
    refine (bind_ok (expired_apply d m)).trans ?_
    rw [p.now]
    exact bind_ok (takeSignal_empty (s.empty.trans empty))
  | succ n ih =>
    obtain ⟨fuel, rfl⟩ := Nat.exists_eq_add_of_lt enough
    have s := r.silent (none 0 (Nat.zero_le _))
    obtain ⟨m', rest, clock, still⟩ := ih s.rings (s.empty.trans empty)
      (show n < n + 1 + fuel by omega)
      (by rw [s.counter, s.step]; exact p.later)
      (fun i hi => mt (s.lands i).mp (none (i + 1) (Nat.succ_le_succ hi)))
    refine ⟨m', ?_, ?_, still.trans s.still⟩
    · rw [awaitSignal_later empty p.not_now]
      exact rest
    · rw [clock, s.clock, Clock.ahead_ahead, Nat.add_comm 1]

/-- **A wait that no signal reaches and no deadline ends** goes on however
often it looks. -/
theorem awaitSignal_endless (r : m.Rings) (empty : m.channel.signaled = false)
    (never : ∀ i, d.reached (m.clock.counter + UInt64.ofNat i * m.clock.step) = false)
    (none : ∀ i, ¬m.Lands i) (fuel : Nat) : (awaitSignal d fuel m).1 = .error .endless := by
  induction fuel generalizing m with
  | zero => rfl
  | succ fuel ih =>
    have s := r.silent (none 0)
    have now := never 0
    rw [Deadline.PassesAt.first_look] at now
    rw [awaitSignal_later empty now]
    refine ih s.rings (s.empty.trans empty) (fun i => ?_) fun i => mt (s.lands i).mp (none (i + 1))
    rw [s.look]
    exact never (i + 1)

end Act

/-! ## One wait -/

namespace Machine

variable {m m' : Machine} {ms : UInt64}

/-- **What a wait of some milliseconds comes to**, told from the slot, the
schedule and the clock before it. -/
structure AwaitsExactly (m : Machine) (ms : UInt64) : Prop where
  /-- A completion that is there no later than the deadline is seen at once. -/
  ready : ∀ n, IsLeast {j | m.Found j} n → (∀ e, m.Late ms e → n ≤ e) →
    ∃ m', Act.awaitCompletion ms m = (.ok .ready, m') ∧ m'.clock = m.clock.ahead (n + 1)
      ∧ m'.still = m.resetSignal.still
  /-- Where no completion is there in time, the first read that sees the deadline passed is the
  last. -/
  timedOut : ∀ e, IsLeast {j | m.Late ms j} e → (∀ n, m.Found n → e < n) →
    ∃ m', Act.awaitCompletion ms m = (.ok .timedOut, m') ∧ m'.clock = m.clock.ahead (e + 1)
      ∧ m'.still = m.resetSignal.still
  /-- Where nothing ends the wait it never ends, however often it looks. -/
  never : (∀ j, ¬m.Found j) → (∀ j, ¬m.Late ms j) →
    (Act.awaitCompletion ms m).1 = .error .endless
      ∧ ∀ looks, ((Act.afterMs ms >>= fun d => Act.awaitSignal d looks) m).1 = .error .endless

/-- **The looks of a wait at its deadline** are told by numbers. -/
theorem late_iff (m : Machine) (ms : UInt64) (i : Nat) : m.Late ms (i + 1)
    ↔ (m.deadline ms).reached (m.clock.counter + UInt64.ofNat (i + 1) * m.clock.step) = true := by
  have passed := m.clock.reached_iff (usToTicks (Deadline.msToUs ms) m.clock.freq) (i + 1)
  exact (and_iff_right (Nat.le_add_left 1 i)).trans passed.symm

theorem early_of_not_late {i : Nat} (h : ¬m.Late ms (i + 1)) :
    (m.deadline ms).reached (m.clock.counter + UInt64.ofNat (i + 1) * m.clock.step) = false :=
  Bool.eq_false_iff.mpr (mt (m.late_iff ms i).mpr h)

/-- What is found first at a read after the first is a signal. -/
theorem lands_of_found {j : Nat} (h : m.Found (j + 1)) : m.Lands (j + 1) :=
  h.resolve_left fun at_once => nomatch at_once.1

/-- The slot after the first read of a wait. -/
theorem Rings.full_now (r : m.Rings) (found : m.Found 0) : m.now.2.channel.signaled = true := by
  obtain ⟨rung, same⟩ := r.now
  by_cases lands : m.Lands 0
  · exact (congrArg (fun b : Machine => b.channel.signaled) (rung lands) :)
  · have full := (found.resolve_right lands).2
    exact (congrArg (fun b : Machine => b.channel.signaled) (same lands) :).trans full

theorem empty_of_not_found (h : ¬m.Found 0) : m.channel.signaled = false :=
  Bool.eq_false_iff.mpr fun full => h (.inl ⟨rfl, full⟩)

/-- A read changes the time and the slot alone. -/
theorem Rings.reset_now (r : m.Rings) : m.now.2.resetSignal.still = m.resetSignal.still := by
  obtain ⟨rung, same⟩ := r.now
  by_cases lands : m.Lands 0
  · exact congrArg Machine.resetSignal (rung lands)
  · exact congrArg Machine.resetSignal (same lands)

end Machine

namespace Act

open Op

variable {m : Machine} {ms : UInt64}

/-- **A wait with interrupts** sets its deadline and watches the slot. -/
theorem awaitCompletion_interrupt (irq : m.channel.mode = .interrupt) (r : m.Rings) (ms : UInt64) :
    awaitCompletion ms m = awaitSignal (m.deadline ms) m.now.2.patience m.now.2 := by
  have mode : m.now.2.channel.mode = .interrupt :=
    (congrArg (fun b : Machine => b.channel.mode) r.reset_now :).trans irq
  unfold awaitCompletion
  rw [bind_ok (afterMs_apply ms m), bind_ok (get_apply m.now.2), mode]
  exact bind_ok (patience_apply m.now.2).1

/-- **A wait that is signalled in time** ends well, after the read on which it
is. -/
theorem awaitCompletion_found {n : Nat} (irq : m.channel.mode = .interrupt) (r : m.Rings)
    (here : IsLeast {j | m.Found j} n) (inTime : ∀ e, m.Late ms e → n ≤ e) :
    ∃ m', awaitCompletion ms m = (.ok .ready, m') ∧ m'.clock = m.clock.ahead (n + 1)
      ∧ m'.still = m.resetSignal.still := by
  obtain ⟨found, first⟩ := here
  rw [awaitCompletion_interrupt irq r]
  by_cases now : m.Found 0
  · obtain rfl := Nat.le_zero.mp (first now)
    exact ⟨_, awaitSignal_full (r.full_now now) _, m.now_clock.2, r.reset_now⟩
  obtain ⟨n, rfl⟩ := Nat.exists_eq_succ_of_ne_zero fun zero => now (zero ▸ found)
  have s := r.silent fun lands => now (.inr lands)
  have lands : m.now.2.Lands n := (s.lands n).mpr (Machine.lands_of_found found)
  -- the patience of a wait covers the last event
  have enough : n + 1 < m.now.2.patience := by
    obtain ⟨e, he, read⟩ := lands
    have last := Machine.le_lastEvent he
    unfold Machine.patience
    omega
  obtain ⟨m', run, clock, still⟩ := awaitSignal_lands s.rings
    (s.empty.trans (Machine.empty_of_not_found now)) enough lands
    (fun i hi here => Nat.not_le_of_lt hi (Nat.le_of_succ_le_succ
      (first (.inr ((s.lands i).mp here)))))
    (fun i hi => by
      rw [s.look]
      exact Machine.early_of_not_late fun late =>
        Nat.not_le_of_lt hi (Nat.le_of_succ_le_succ (inTime _ late)))
  refine ⟨m', run, ?_, still.trans r.reset_now⟩
  rw [clock, s.clock, Clock.ahead_ahead, Nat.add_comm 1]

/-- **A wait that is not** ends with the read that sees its deadline passed. -/
theorem awaitCompletion_late {e : Nat} (irq : m.channel.mode = .interrupt) (r : m.Rings)
    (here : IsLeast {j | m.Late ms j} e) (early : ∀ n, m.Found n → e < n) :
    ∃ m', awaitCompletion ms m = (.ok .timedOut, m') ∧ m'.clock = m.clock.ahead (e + 1)
      ∧ m'.still = m.resetSignal.still := by
  obtain ⟨late, first⟩ := here
  rw [awaitCompletion_interrupt irq r]
  obtain ⟨e, rfl⟩ := Nat.exists_eq_add_of_le' late.1
  have now : ¬m.Found 0 := fun found => Nat.not_lt_zero _ (early 0 found)
  have s := r.silent fun lands => now (.inr lands)
  have passes : (m.deadline ms).PassesAt m.now.2.clock.counter m.now.2.clock.step e := by
    refine ⟨fun i hi => ?_, ?_⟩
    · rw [s.look]
      exact Machine.early_of_not_late fun here =>
        Nat.not_le_of_lt hi (Nat.le_of_succ_le_succ (first here))
    · rw [s.look]
      exact (m.late_iff ms e).mp late
  obtain ⟨m', run, clock, still⟩ := awaitSignal_passes s.rings
    (s.empty.trans (Machine.empty_of_not_found now))
    (Nat.lt_trans (passes.lt m.now.2.clock.period_pos m.now.2.clock.round_step)
      (patience_apply m.now.2).2)
    passes (fun i hi here => by
      have far := early (i + 1) (.inr ((s.lands i).mp here))
      omega)
  refine ⟨m', run, ?_, ?_⟩
  · rw [clock, s.clock, Clock.ahead_ahead, Nat.add_comm 1]
  · rw [still, s.still, Machine.resetSignal_of_empty (Machine.empty_of_not_found now)]

/-- **A wait that nothing ends** goes on however often it looks. -/
theorem awaitCompletion_endless (irq : m.channel.mode = .interrupt) (r : m.Rings)
    (none : ∀ j, ¬m.Found j) (unending : ∀ j, ¬m.Late ms j) :
    (awaitCompletion ms m).1 = .error .endless
      ∧ ∀ looks, ((afterMs ms >>= fun d => awaitSignal d looks) m).1 = .error .endless := by
  have now := none 0
  have s := r.silent fun lands => now (.inr lands)
  have endless (looks : Nat) :
      (awaitSignal (m.deadline ms) looks m.now.2).1 = .error .endless := by
    refine awaitSignal_endless s.rings (s.empty.trans (Machine.empty_of_not_found now))
      (fun i => ?_) (fun i here => none (i + 1) (.inr ((s.lands i).mp here))) looks
    rw [s.look]
    exact Machine.early_of_not_late (unending (i + 1))
  refine ⟨?_, fun looks => ?_⟩
  · rw [awaitCompletion_interrupt irq r]
    exact endless _
  · rw [bind_ok (afterMs_apply ms m)]
    exact endless looks

/-- **Every wait with interrupts is exact**, where nothing but signals happens
by itself. -/
theorem awaitsExactly (irq : m.channel.mode = .interrupt) (r : m.Rings) (ms : UInt64) :
    m.AwaitsExactly ms where
  ready _ := awaitCompletion_found irq r
  timedOut _ := awaitCompletion_late irq r
  never := awaitCompletion_endless irq r

end Act

/-! ## Waits one after another -/

/-- **A call at the completion slot.** -/
inductive SlotCall where
  | reset
  | signal
  | wait (ms : UInt64)
  deriving Repr, DecidableEq

namespace SlotCall

/-- What a call does, and how it ended if it is a wait. -/
def run : SlotCall → Act (List Outcome)
  | reset => do
    modify Machine.resetSignal
    return []
  | signal => do
    modify Machine.signal
    return []
  | wait ms => do
    let outcome ← Act.awaitCompletion ms
    return [outcome]

/-- Calls one after another, and how the waits among them ended. -/
def runAll : List SlotCall → Act (List Outcome)
  | [] => pure []
  | c :: calls => do
    let first ← c.run
    let rest ← runAll calls
    return first ++ rest

end SlotCall

namespace Machine

variable {m m' m'' : Machine} {ms : UInt64}

/-- What lies in the slot, as a number of completions. -/
def held (m : Machine) : Nat := m.channel.signaled.toNat

/-- **The signals that landed** while the clock was read up to a number, after
another one. -/
def landed (m : Machine) (first last : Nat) : Nat :=
  m.events.countP fun e => first < e.read ∧ e.read ≤ last

theorem landed_add {a b c : Nat} (m : Machine) (ab : a ≤ b) (bc : b ≤ c) :
    m.landed a b + m.landed b c = m.landed a c := by
  unfold landed
  induction m.events with
  | nil => rfl
  | cons e es ih =>
    simp only [List.countP_cons, decide_eq_true_eq]
    split_ifs <;> omega

/-- A signal that lands on one of the next reads has landed after them. -/
theorem Lands.landed_pos {n : Nat} (h : m.Lands n) :
    0 < m.landed m.clock.reads (m.clock.reads + (n + 1)) := by
  obtain ⟨e, he, read⟩ := h
  refine List.countP_pos_iff.mpr ⟨e, he, decide_eq_true ?_⟩
  omega

/-- **Calls that came back** with some outcomes, after so many signals: they
changed the time and the slot alone, and every completion they took was paid
for, by what lay in the slot, by a signal among them or by one that landed. -/
structure Paid (m m' : Machine) (signals : Nat) (outcomes : List Outcome) : Prop where
  same : m'.resetSignal.still = m.resetSignal.still
  clock : ∃ n, m'.clock = m.clock.ahead n
  paid : outcomes.count .ready + m'.held
    ≤ m.held + signals + m.landed m.clock.reads m'.clock.reads

theorem Paid.reads_le {signals : Nat} {outcomes : List Outcome} (h : Paid m m' signals outcomes) :
    m.clock.reads ≤ m'.clock.reads := by
  obtain ⟨n, clock⟩ := h.clock
  rw [clock]
  exact Nat.le_add_right _ n

theorem Paid.trans {k l : Nat} {xs ys : List Outcome} (h : Paid m m' k xs) (h' : Paid m' m'' l ys) :
    Paid m m'' (k + l) (xs ++ ys) where
  same := h'.same.trans h.same
  clock := by
    obtain ⟨n, clock⟩ := h.clock
    obtain ⟨n', clock'⟩ := h'.clock
    exact ⟨n + n', by rw [clock', clock, Clock.ahead_ahead]⟩
  paid := by
    have events : m'.events = m.events := (congrArg Machine.events h.same :)
    have lands := m.landed_add h.reads_le h'.reads_le
    have paid := h.paid
    have paid' := h'.paid
    rw [show m'.landed m'.clock.reads m''.clock.reads = m.landed m'.clock.reads m''.clock.reads by
      unfold landed
      rw [events]] at paid'
    rw [List.count_append]
    omega

/-- **A wait is endless** where neither a completion nor its deadline ends
it. -/
structure Endless (m : Machine) (ms : UInt64) : Prop where
  unfound : ∀ j, ¬m.Found j
  unending : ∀ j, ¬m.Late ms j

/-- **A wait comes back**, paid for, or it is endless. -/
theorem AwaitsExactly.returns (h : m.AwaitsExactly ms) :
    (∃ outcome m', Act.awaitCompletion ms m = (.ok outcome, m') ∧ Paid m m' 0 [outcome])
      ∨ m.Endless ms ∧ (Act.awaitCompletion ms m).1 = .error .endless := by
  classical
  have empties {m' : Machine} (still : m'.still = m.resetSignal.still) :
      m'.resetSignal.still = m.resetSignal.still ∧ m'.held = 0 :=
    ⟨congrArg Machine.resetSignal still,
      (congrArg (fun b : Machine => b.channel.signaled.toNat) still :)⟩
  by_cases ending : ∃ n, m.Found n ∧ ∀ e, m.Late ms e → n ≤ e
  · obtain ⟨n₀, found₀, inTime₀⟩ := ending
    obtain ⟨n, least⟩ : ∃ n, IsLeast {j | m.Found j} n := ⟨_, Nat.isLeast_find ⟨n₀, found₀⟩⟩
    obtain ⟨m', run, clock, still⟩ := h.ready n least fun e late =>
      Nat.le_trans (least.2 found₀) (inTime₀ e late)
    obtain ⟨same, empty⟩ := empties still
    refine .inl ⟨.ready, m', run, same, ⟨n + 1, clock⟩, ?_⟩
    have reads : m'.clock.reads = m.clock.reads + (n + 1) := by
      rw [clock]
      rfl
    rw [empty, reads]
    obtain ⟨-, full⟩ | lands := least.1
    · show 1 + 0 ≤ m.channel.signaled.toNat + 0 + _
      rw [full]
      exact Nat.le_add_right 1 _
    · have pays := lands.landed_pos
      show 1 + 0 ≤ m.held + 0 + _
      omega
  by_cases passes : ∃ e, m.Late ms e
  · obtain ⟨e, least⟩ : ∃ e, IsLeast {j | m.Late ms j} e := ⟨_, Nat.isLeast_find passes⟩
    obtain ⟨m', run, clock, still⟩ := h.timedOut e least fun n found => by
      by_contra far
      exact ending ⟨n, found, fun e' late => Nat.le_trans (Nat.not_lt.mp far) (least.2 late)⟩
    obtain ⟨same, empty⟩ := empties still
    refine .inl ⟨.timedOut, m', run, same, ⟨e + 1, clock⟩, ?_⟩
    rw [empty]
    exact Nat.zero_le _
  · have unending := not_exists.mp passes
    have unfound : ∀ j, ¬m.Found j := fun j found =>
      ending ⟨j, found, fun e late => absurd late (unending e)⟩
    exact .inr ⟨⟨unfound, unending⟩, (h.never unfound unending).1⟩

end Machine

namespace SlotCall

open Op

variable {m : Machine}

/-- **One call** comes back, paid for, or it is a wait that is endless. -/
theorem run_spec (irq : m.channel.mode = .interrupt) (r : m.Rings) (c : SlotCall) :
    (∃ outcomes m', c.run m = (.ok outcomes, m') ∧ m.Paid m' ([c].count .signal) outcomes)
      ∨ ∃ ms, c = .wait ms ∧ m.Endless ms ∧ (c.run m).1 = .error .endless := by
  have clock : ∃ n, m.clock = m.clock.ahead n := ⟨0, m.clock.ahead_zero.symm⟩
  cases c with
  | reset => exact .inl ⟨[], m.resetSignal, rfl, rfl, clock, Nat.zero_le _⟩
  | signal =>
    refine .inl ⟨[], m.signal, rfl, rfl, clock, ?_⟩
    show 0 + 1 ≤ m.held + 1 + _
    omega
  | wait ms =>
    obtain ⟨outcome, m', run, paid⟩ | ⟨endless, run⟩ := (Act.awaitsExactly irq r ms).returns
    · exact .inl ⟨[outcome], m', bind_ok run, paid⟩
    · exact .inr ⟨ms, rfl, endless, congrArg Prod.fst (bind_error (apply_eq run))⟩

/-- **Calls one after another** all come back, paid for, or come to a wait that
is endless. -/
theorem runAll_spec (irq : m.channel.mode = .interrupt) (r : m.Rings) (calls : List SlotCall) :
    (∃ outcomes m', runAll calls m = (.ok outcomes, m')
        ∧ m.Paid m' (calls.count .signal) outcomes)
      ∨ (runAll calls m).1 = .error .endless
        ∧ ∃ before ms after outcomes m', calls = before ++ .wait ms :: after
          ∧ runAll before m = (.ok outcomes, m') ∧ m'.Endless ms := by
  induction calls generalizing m with
  | nil =>
    exact .inl ⟨[], m, rfl, rfl, ⟨0, m.clock.ahead_zero.symm⟩, by
      rw [List.count_nil, List.count_nil]
      omega⟩
  | cons c calls ih =>
    obtain ⟨first, m₁, run, paid⟩ | ⟨ms, rfl, endless, run⟩ := run_spec irq r c
    · have irq₁ : m₁.channel.mode = .interrupt :=
        (congrArg (fun b : Machine => b.channel.mode) paid.same :).trans irq
      obtain ⟨rest, m', run', paid'⟩
        | ⟨fault, before, ms, after, outcomes, m', split, run', endless⟩ :=
          ih irq₁ (r.congr paid.same)
      · refine .inl ⟨first ++ rest, m', ?_, ?_⟩
        · exact (bind_ok run).trans (bind_ok run')
        · rw [← List.singleton_append, List.count_append]
          exact paid.trans paid'
      · refine .inr ⟨?_, c :: before, ms, after, first ++ outcomes, m', ?_, ?_, endless⟩
        · rw [runAll, bind_ok run, bind_error (apply_eq fault)]
        · rw [split]
          rfl
        · exact (bind_ok run).trans (bind_ok run')
    · exact .inr ⟨congrArg Prod.fst (bind_error (apply_eq run)), [], ms, calls, [], m, rfl, rfl,
        endless⟩

/-- Signals fill the slot once, however many there are. -/
theorem runAll_signals (m : Machine) (k : Nat) :
    runAll (List.replicate k .signal) m = (.ok [], if k = 0 then m else m.signal) := by
  induction k generalizing m with
  | zero => rfl
  | succ k ih =>
    rw [List.replicate_succ, runAll, bind_ok (show run .signal m = (.ok [], m.signal) from rfl)]
    refine (bind_ok (ih m.signal)).trans ?_
    rw [if_neg (Nat.succ_ne_zero k)]
    split <;> rfl

/-- A reset discards the signals before it, however many there were. -/
theorem runAll_discarded (m : Machine) (k : Nat) :
    runAll (List.replicate k .signal ++ [.reset]) m = (.ok [], m.resetSignal) := by
  induction k generalizing m with
  | zero => rfl
  | succ k ih =>
    rw [List.replicate_succ, List.cons_append, runAll,
      bind_ok (show run .signal m = (.ok [], m.signal) from rfl)]
    exact bind_ok (ih m.signal)

/-- **Every wait of a run of calls is exact**, on any clock and with signals laid
out at any of its reads. A run that came back has changed the time and the slot
alone; it took no more completions than there were signals, with what lay in
the slot before it; and whichever wait comes next is told by numbers. Any
number of signals fill the slot once, and a reset discards them all. A run
that does not come back has come to a wait that nothing ends. -/
theorem waits_exact (irq : m.channel.mode = .interrupt) (rings : m.Rings)
    (calls : List SlotCall) :
    (∀ outcomes m', runAll calls m = (.ok outcomes, m') →
      m.Paid m' (calls.count .signal) outcomes ∧ (∀ ms, m'.AwaitsExactly ms)
        ∧ (∀ k, runAll (List.replicate (k + 1) .signal) m' = (.ok [], m'.signal))
        ∧ ∀ k, runAll (List.replicate k .signal ++ [.reset]) m' = (.ok [], m'.resetSignal))
      ∧ ∀ fault, (runAll calls m).1 = .error fault → fault = .endless
        ∧ ∃ before ms after outcomes m', calls = before ++ .wait ms :: after
          ∧ runAll before m = (.ok outcomes, m') ∧ m'.Endless ms := by
  obtain ⟨outcomes, m', run, paid⟩ | ⟨run, stuck⟩ := runAll_spec irq rings calls
  · rw [run]
    refine ⟨fun outcomes' m'' same => ?_, fun _ h => nomatch h⟩
    obtain ⟨rfl, rfl⟩ : outcomes = outcomes' ∧ m' = m'' := by
      have outcome := congrArg Prod.fst same
      exact ⟨Except.ok.inj outcome, congrArg Prod.snd same⟩
    have irq' : m'.channel.mode = .interrupt :=
      (congrArg (fun b : Machine => b.channel.mode) paid.same :).trans irq
    exact ⟨paid, Act.awaitsExactly irq' (rings.congr paid.same), fun k => runAll_signals m' (k + 1),
      runAll_discarded m'⟩
  · refine ⟨fun outcomes m' ok => ?_, fun fault h => ?_⟩
    · rw [ok] at run
      cases run
    · rw [run] at h
      exact ⟨(Except.error.inj h).symm, stuck⟩

/-- A machine whose counter is about to pass its top, with one signal laid out
for the third read. -/
def ringing : Machine :=
  { Command.freshMachine with
    clock := { counter := 0xFFFFFFFFFFFFFFFE }
    events := [⟨3, .signal⟩] }

/-- A signal and a reset leave nothing to be found, so that a wait takes the
signal of the third read, with the counter past its top. -/
theorem waits_exact_past_the_top : ringing.channel.mode = .interrupt ∧ ringing.Rings
    ∧ ∃ m m', runAll [.signal, .reset] ringing = (.ok [], m)
      ∧ Act.awaitCompletion 5 m = (.ok .ready, m') ∧ m'.clock.reads = 3 ∧ m'.clock.counter = 1
      ∧ m'.channel.signaled = false := by
  have rings : ringing.Rings := ⟨by decide, rfl⟩
  have run : runAll [.signal, .reset] ringing = (.ok [], ringing.resetSignal) := rfl
  obtain ⟨-, exactly, -, -⟩ := (waits_exact rfl rings [.signal, .reset]).1 _ _ run
  have found : ringing.resetSignal.Found 2 := .inr ⟨⟨3, .signal⟩, List.mem_singleton_self _, rfl⟩
  have first : 2 ∈ lowerBounds {j | ringing.resetSignal.Found j} := by
    rintro j (⟨-, full⟩ | ⟨e, he, read⟩)
    · cases full
    · obtain rfl := List.mem_singleton.mp he
      exact (Nat.succ.inj ((Nat.zero_add _).symm.trans read.symm)).ge
  have inTime : ∀ e, ringing.resetSignal.Late 5 e → 2 ≤ e := by
    rintro e ⟨-, late⟩
    have ticks : (usToTicks (Deadline.msToUs 5) ringing.resetSignal.clock.freq).toNat = 5 := rfl
    rw [ticks, show ringing.resetSignal.clock.step.toNat = 1 from rfl, Nat.mul_one] at late
    exact Nat.le_trans (by decide) (Nat.le_trans late (Nat.mod_le _ _))
  obtain ⟨m', waited, clock, still⟩ := (exactly 5).ready 2 ⟨found, first⟩ inTime
  refine ⟨rfl, rings, _, m', run, waited, ?_, ?_,
    (congrArg (fun b : Machine => b.channel.signaled) still :)⟩
  · rw [clock]
    rfl
  · rw [clock]
    rfl

end SlotCall

end RemoteDisk
