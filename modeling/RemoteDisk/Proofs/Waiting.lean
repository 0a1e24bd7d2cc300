import Mathlib.Data.Nat.Find
import RemoteDisk.Proofs.Bare

/-!
# Waiting where nothing happens

Where no event is laid out and no transfer was put off, a read of the clock
moves the clock and nothing else. A wait then ends in one of two ways that
can be told beforehand: at its first look, where the transfer is already
over, or when its deadline passes, where nothing will ever end it. Whether
the deadline passes is a matter of the clock alone (`Clock.Expires`), since
the looks of a wait lie a fixed number of ticks apart.

What a wait bounds its looks by is no restriction here: the counter shows no
more values than the wait has looks (`Deadline.PassesAt.lt`), so a
deadline that passes at all is seen to pass.
-/

namespace RemoteDisk

/-! ## Looks at a deadline -/

/-- **A deadline is first seen to have passed** at the `n`-th of the looks that find the counter
at `start`, `start + stride` and so on. -/
structure Deadline.PassesAt (d : Deadline) (start stride : UInt64) (n : Nat) : Prop where
  before : ∀ i < n, d.reached (start + UInt64.ofNat i * stride) = false
  reached : d.reached (start + UInt64.ofNat n * stride) = true

namespace Deadline.PassesAt

variable {d : Deadline} {start stride : UInt64} {n : Nat}

/-- The first look finds the counter where the looks start. -/
theorem first_look (start stride : UInt64) : start + UInt64.ofNat 0 * stride = start := by
  show start + 0 * stride = start
  rw [UInt64.zero_mul, UInt64.add_zero]

theorem now (p : d.PassesAt start stride 0) : d.reached start = true := by
  have reached := p.reached
  rwa [first_look] at reached

theorem not_now (p : d.PassesAt start stride (n + 1)) : d.reached start = false := by
  have before := p.before 0 (Nat.zero_lt_succ n)
  rwa [first_look] at before

/-- The looks after the first. -/
theorem later (p : d.PassesAt start stride (n + 1)) : d.PassesAt (start + stride) stride n := by
  have shift (i : Nat) : start + stride + UInt64.ofNat i * stride
      = start + UInt64.ofNat (i + 1) * stride := by
    rw [UInt64.ofNat_add]
    grind
  refine ⟨fun i hi => ?_, ?_⟩
  · rw [shift]
    exact p.before (i + 1) (Nat.succ_lt_succ hi)
  · rw [shift]
    exact p.reached

/-- Looks that are moved along with their deadline see the same. -/
theorem shift {ticks : UInt64} (p : PassesAt ⟨0, ticks⟩ start stride n) (along : UInt64) :
    PassesAt ⟨along, ticks⟩ (along + start) stride n := by
  have same (i : Nat) : (Deadline.mk along ticks).reached (along + start + UInt64.ofNat i * stride)
      = (Deadline.mk 0 ticks).reached (start + UInt64.ofNat i * stride) := by
    unfold Deadline.reached
    dsimp only
    congr 2
    grind
  refine ⟨fun i hi => ?_, ?_⟩
  · rw [same]
    exact p.before i hi
  · rw [same]
    exact p.reached

/-- **A deadline that passes is seen to pass** before the looks go round: if
`period` strides lead back to where the looks started, one of the first
`period` looks sees it. -/
theorem lt {period : Nat} (p : d.PassesAt start stride n) (pos : 0 < period)
    (round : UInt64.ofNat period * stride = 0) : n < period := by
  by_contra far
  -- the look as far into its round as `n` finds the same counter, and is earlier
  have same : UInt64.ofNat (n % period) * stride = UInt64.ofNat n * stride := by
    have parts : UInt64.ofNat n
        = UInt64.ofNat period * UInt64.ofNat (n / period) + UInt64.ofNat (n % period) := by
      rw [← UInt64.ofNat_mul, ← UInt64.ofNat_add, Nat.div_add_mod]
    grind
  have earlier : n % period < n :=
    Nat.lt_of_lt_of_le (Nat.mod_lt n pos) (Nat.not_lt.mp far)
  have before := p.before _ earlier
  rw [same, p.reached] at before
  cases before

end Deadline.PassesAt

/-- **A deadline that passes at all** has a first look that sees it. -/
theorem Deadline.exists_passesAt {ticks start stride : UInt64}
    (h : ∃ n : Nat, ticks ≤ start + UInt64.ofNat n * stride) :
    ∃ n, PassesAt ⟨0, ticks⟩ start stride n := by
  have reached (n : Nat) : (Deadline.mk 0 ticks).reached (start + UInt64.ofNat n * stride)
      = decide (ticks ≤ start + UInt64.ofNat n * stride) := by
    unfold Deadline.reached
    rw [UInt64.sub_zero]
  refine ⟨Nat.find h, fun i hi => ?_, ?_⟩
  · rw [reached]
    exact decide_eq_false (Nat.find_min h hi)
  · rw [reached]
    exact decide_eq_true (Nat.find_spec h)

namespace Clock

variable (c : Clock)

/-- The counter of a clock that only moves by whole periods stays where it
is. -/
theorem round_step : UInt64.ofNat c.period * c.step = 0 := by
  have whole : UInt64.ofNat Geometry.wordLimit = 0 := rfl
  unfold period
  cases c.delay with
  | spin =>
    have divides := Nat.gcd_dvd_left c.step.toNat Geometry.wordLimit
    have divides' := Nat.gcd_dvd_right c.step.toNat Geometry.wordLimit
    have product : Geometry.wordLimit / Nat.gcd c.step.toNat Geometry.wordLimit * c.step.toNat
        = Geometry.wordLimit * (c.step.toNat / Nat.gcd c.step.toNat Geometry.wordLimit) := by
      rw [← Nat.mul_div_assoc _ divides, Nat.div_mul_right_comm divides']
    calc UInt64.ofNat (Geometry.wordLimit / Nat.gcd c.step.toNat Geometry.wordLimit) * c.step
      _ = UInt64.ofNat (Geometry.wordLimit / Nat.gcd c.step.toNat Geometry.wordLimit
          * c.step.toNat) := by rw [UInt64.ofNat_mul, UInt64.ofNat_toNat]
      _ = 0 := by rw [product, UInt64.ofNat_mul, whole, UInt64.zero_mul]
  | jump =>
    dsimp only
    rw [whole, UInt64.zero_mul]

theorem period_pos : 0 < c.period := by
  have top : 0 < Geometry.wordLimit := by decide
  unfold period
  cases c.delay with
  | spin =>
    exact Nat.div_pos (Nat.le_of_dvd top (Nat.gcd_dvd_right _ _))
      (Nat.gcd_pos_of_pos_right _ top)
  | jump => exact top

/-- **The ticks that pass in a pause** of some microseconds between two
looks, where the pause comes to an end. -/
def Pauses (us pause : UInt64) : Prop :=
  match c.delay with
  | .jump => pause = c.delayTicks us
  | .spin => ∃ n : Nat, Deadline.PassesAt ⟨0, c.delayTicks us⟩ c.step c.step n
      ∧ pause = UInt64.ofNat (n + 2) * c.step

/-- **The deadline of a wait passes** where nothing else ends the wait: one of
its looks finds the counter far enough from where it stood at first. -/
def Expires (mode : CompletionMode) (ms : UInt64) : Prop :=
  match mode with
  | .interrupt => ∃ n : Nat, usToTicks (Deadline.msToUs ms) c.freq
      ≤ c.step + UInt64.ofNat n * c.step
  | .polling us => ∃ pause, c.Pauses us pause ∧ ∃ n : Nat,
      usToTicks (Deadline.msToUs ms) c.freq ≤ c.step + UInt64.ofNat n * (c.step + pause)

/-- Pauses lead back to the same counter as often as reads do. -/
theorem Pauses.round {c : Clock} {us pause : UInt64} (h : c.Pauses us pause) :
    UInt64.ofNat c.period * (c.step + pause) = 0 := by
  have round := c.round_step
  unfold Pauses at h
  rcases way : c.delay
  · rw [way] at h
    obtain ⟨n, -, rfl⟩ := h
    grind
  · have whole : UInt64.ofNat c.period = 0 := by
      unfold period
      rw [way]
      show UInt64.ofNat Geometry.wordLimit = 0
      rfl
    rw [whole, UInt64.zero_mul]

end Clock

/-! ## A machine on which nothing happens by itself -/

/-- What answers at the registers, without its time and without a record of
who looked at it. -/
def Controller.still : Controller → Controller
  | .recorder r => .recorder { r with accesses := #[] }
  | .engine e => .engine { e with elapsed := 0 }

namespace Machine

/-- **The machine without its time**: without the counter of the clock, the
reads so far, the engine's own time and the accesses that were recorded. -/
def still (m : Machine) : Machine :=
  { m with
    controller := m.controller.still
    clock := { m.clock with counter := 0, reads := 0 } }

/-- **Nothing happens by itself**: no event is laid out, and no transfer was
put off. -/
structure Quiet (m : Machine) : Prop where
  events : m.events = []
  pending : m.pending = []

variable {m m' : Machine}

theorem pending_still (m : Machine) : m.still.pending = m.pending := by
  rcases m with ⟨_ | _⟩ <;> rfl

theorem status_still (m : Machine) : m.still.status = m.status := by
  rcases m with ⟨_ | _⟩ <;> rfl

/-- A read of an engine's status register changes nothing. -/
theorem HasEngine.readStatus (engine : m.HasEngine) : m.readStatus = (m.status, m) := by
  obtain ⟨e, engine⟩ := engine
  unfold Machine.readStatus readRegister status
  rw [engine]
  rfl

/-- **A read of the status register** tells what it holds and is at most
recorded. -/
theorem readStatus_still (m : Machine) :
    m.readStatus.1 = m.status ∧ m.readStatus.2.still = m.still
      ∧ m.readStatus.2.clock = m.clock := by
  rcases m with ⟨_ | _⟩ <;> exact ⟨rfl, rfl, rfl⟩

/-- Machines that are the same but for their time are equally quiet. -/
theorem Quiet.congr (h : m'.still = m.still) (q : m.Quiet) : m'.Quiet where
  events := (congrArg Machine.events h :).trans q.events
  pending := by rw [← pending_still, h, pending_still, q.pending]

/-- Where no transfer was put off, time that passes changes the time alone. -/
theorem passTicks_still (none : m.pending = []) (ticks : UInt64) :
    (m.passTicks ticks).still = m.still ∧ (m.passTicks ticks).clock = m.clock := by
  unfold Machine.passTicks pass
  split
  · rw [none]
    rcases m with ⟨_ | _⟩ <;> exact ⟨rfl, rfl⟩
  · exact ⟨rfl, rfl⟩

/-- What happens at a read of the clock is one of the events. -/
theorem mem_nextHappenings {h : Happening} : h ∈ m.nextHappenings
    ↔ ∃ e ∈ m.events, e.read = m.clock.reads + 1 ∧ e.happening = h := by
  unfold nextHappenings
  simp only [List.mem_map, List.mem_filter, beq_iff_eq, and_assoc]

/-- **A read of the clock** where no transfer is put off moves the time alone,
once the events of the read have happened. -/
theorem now_still (happened : m.nextHappenings.foldl (fun m h => m.happen h) m = m')
    (none : m'.pending = []) :
    m.now.1 = m'.clock.counter ∧ m.now.2.still = m'.still ∧ m.now.2.clock = m'.clock.read.2 := by
  obtain ⟨still, clock⟩ := passTicks_still none m.clock.step
  unfold Machine.now
  dsimp only
  rw [happened, clock]
  refine ⟨rfl, ?_, rfl⟩
  exact congrArg (fun b : Machine => { b with clock := m'.still.clock }) still

/-- A read of the clock on a quiet machine. -/
theorem Quiet.now (q : m.Quiet) :
    m.now.1 = m.clock.counter ∧ m.now.2.still = m.still ∧ m.now.2.clock = m.clock.read.2 := by
  refine now_still ?_ q.pending
  unfold nextHappenings
  rw [q.events]
  rfl

end Machine

namespace Act

open Op

variable {m : Machine} {d : Deadline}

/-- **A look at a deadline** on a quiet machine. -/
theorem expired_quiet (q : m.Quiet) (d : Deadline) :
    ∃ m', expired d m = (.ok (d.reached m.clock.counter), m') ∧ m'.still = m.still
      ∧ m'.clock = m.clock.read.2 := by
  obtain ⟨counter, still, clock⟩ := q.now
  refine ⟨m.now.2, ?_, still, clock⟩
  rw [← counter]
  rfl

/-- **Reading the clock until a deadline has passed** takes as many looks as
it takes to see it pass. -/
theorem spin_quiet {n fuel : Nat} (q : m.Quiet) (enough : n < fuel)
    (p : d.PassesAt m.clock.counter m.clock.step n) :
    ∃ m', spin d fuel m = (.ok (), m') ∧ m'.still = m.still
      ∧ m'.clock.counter = m.clock.counter + UInt64.ofNat (n + 1) * m.clock.step := by
  induction n generalizing m fuel with
  | zero =>
    obtain ⟨fuel, rfl⟩ := Nat.exists_eq_add_of_lt enough
    obtain ⟨m', look, still, clock⟩ := expired_quiet q d
    rw [p.now] at look
    refine ⟨m', ?_, still, ?_⟩
    · rw [Nat.zero_add, spin, bind_ok look]
      rfl
    · rw [clock]
      show _ = _ + 1 * m.clock.step
      rw [UInt64.one_mul]
      rfl
  | succ n ih =>
    obtain ⟨fuel, rfl⟩ := Nat.exists_eq_add_of_lt enough
    obtain ⟨m₁, look, still, clock⟩ := expired_quiet q d
    rw [p.not_now] at look
    have step : m₁.clock.step = m.clock.step := by rw [clock]; rfl
    have counter : m₁.clock.counter = m.clock.counter + m.clock.step := by rw [clock]; rfl
    obtain ⟨m', rest, still', counter'⟩ := ih (q.congr still)
      (show n < n + 1 + fuel by omega) (by rw [counter, step]; exact p.later)
    refine ⟨m', ?_, still'.trans still, ?_⟩
    · rw [spin, bind_ok look]
      exact rest
    · rw [counter', counter, step, UInt64.ofNat_add (n + 1)]
      grind

/-- A wait on any machine has more looks than the counter has values. -/
theorem patience_apply (m : Machine) :
    patience m = (.ok m.patience, m) ∧ m.clock.period < m.patience := by
  refine ⟨rfl, ?_⟩
  unfold Machine.patience
  omega

/-- **A pause between two looks** moves the counter by the ticks of the
pause. -/
theorem delay_quiet {us pause : UInt64} (q : m.Quiet) (pauses : m.clock.Pauses us pause) :
    ∃ m', delay us m = (.ok (), m') ∧ m'.still = m.still
      ∧ m'.clock.counter = m.clock.counter + pause := by
  unfold delay
  unfold Clock.Pauses at pauses
  rw [bind_ok (get_apply m)]
  rcases way : m.clock.delay
  · rw [way] at pauses
    obtain ⟨n, p, rfl⟩ := pauses
    obtain ⟨counter, still, clock⟩ := q.now
    have run : now m = (.ok m.clock.counter, m.now.2) := by
      rw [← counter]
      rfl
    have step : m.now.2.clock.step = m.clock.step := by rw [clock]; rfl
    have start : m.now.2.clock.counter = m.clock.counter + m.clock.step := by rw [clock]; rfl
    have period : m.now.2.clock.period = m.clock.period := by rw [clock]; rfl
    -- the pause starts with one read, so the looks start a step later
    obtain ⟨m', spun, still', counter'⟩ := spin_quiet
      (d := ⟨m.clock.counter, m.clock.delayTicks us⟩) (n := n) (q.congr still)
      (Nat.lt_trans (p.lt m.now.2.clock.period_pos (by rw [period]; exact m.clock.round_step))
        (patience_apply _).2)
      (by rw [start, step]; exact p.shift _)
    refine ⟨m', ?_, still'.trans still, ?_⟩
    · dsimp only
      rw [bind_ok run, bind_ok (patience_apply _).1]
      exact spun
    · rw [counter', start, step, UInt64.ofNat_add, UInt64.ofNat_add n]
      grind
  · rw [way] at pauses
    obtain ⟨still, -⟩ := Machine.passTicks_still q.pending (m.clock.delayTicks us)
    refine ⟨_, rfl, ?_, ?_⟩
    · exact congrArg (fun b : Machine => { b with clock := m.still.clock }) still
    · rw [pauses]
      rfl

end Act

/-! ## How a wait ends -/

namespace Machine

variable {m m' : Machine}

/-- **A transfer that is not seen to be over**: the slot is empty, and polling
finds no done bit. -/
structure Open (m : Machine) : Prop where
  empty : m.channel.signaled = false
  status : m.channel.mode ≠ .interrupt → Status.shows m.status m.channel.doneMask = false

/-- **A transfer that is seen to be over**: the slot is filled, or polling
finds a done bit. -/
def Over (m : Machine) : Prop :=
  m.channel.signaled = true
    ∨ m.channel.mode ≠ .interrupt ∧ Status.shows m.status m.channel.doneMask = true

/-- How the end of a transfer is noticed does not change with time. -/
theorem polls_congr (h : m'.still = m.still) (polls : m.channel.mode ≠ .interrupt) :
    m'.channel.mode ≠ .interrupt := by
  have mode : m'.channel.mode = m.channel.mode :=
    (congrArg (fun b : Machine => b.channel.mode) h :)
  rw [mode]
  exact polls

theorem Open.congr (h : m'.still = m.still) (o : m.Open) : m'.Open := by
  have channel : m'.channel = m.channel := (congrArg Machine.channel h :)
  refine ⟨?_, ?_⟩
  · rw [channel]
    exact o.empty
  · rw [channel, ← status_still, h, status_still]
    exact o.status

theorem Over.congr (h : m'.still = m.still) (o : m.Over) : m'.Over := by
  have channel : m'.channel = m.channel := (congrArg Machine.channel h :)
  unfold Over
  rw [channel, ← status_still m', h, status_still]
  exact o

instance (m : Machine) : Decidable m.Over := by
  unfold Over
  infer_instance

/-- **What a wait comes back with**: well or with the error bits that the
status register shows, where the transfer is over, else with a timeout. -/
def verdict (m : Machine) : Except TransferError Unit :=
  if m.Over then
    if Status.shows m.status m.channel.errorMask then .error (.engine m.status) else .ok ()
  else .error .timeout

/-- A transfer is over or it is not. -/
theorem open_of_not_over (h : ¬m.Over) : m.Open := by
  unfold Over at h
  rw [not_or, not_and, Bool.not_eq_true] at h
  exact ⟨h.1, fun polls => Bool.eq_false_iff.mpr (h.2 polls)⟩

/-- An empty slot that is looked at stays empty. -/
theorem Open.resetSignal (o : m.Open) : m.resetSignal = m := by
  unfold Machine.resetSignal mapChannel
  rw [← o.empty]

end Machine

namespace Act

open Op

variable {m : Machine} {d : Deadline}

theorem takeSignal_open (o : m.Open) : takeSignal m = (.ok false, m) := by
  show (Except.ok m.channel.signaled, m.resetSignal) = _
  rw [o.empty, o.resetSignal]

/-- Where the slot is empty, the status register is read. -/
theorem ready_reads (empty : m.channel.signaled = false) :
    ready m = (.ok (Status.shows m.resetSignal.readStatus.1
      m.resetSignal.readStatus.2.channel.doneMask), m.resetSignal.readStatus.2) := by
  unfold ready
  rw [bind_ok (show takeSignal m = (.ok m.channel.signaled, m.resetSignal) from rfl), empty]
  exact bind_ok (show readStatus m.resetSignal
    = (.ok m.resetSignal.readStatus.1, m.resetSignal.readStatus.2) from rfl)

/-- A look at the status register where the slot is empty. -/
theorem ready_empty (empty : m.channel.signaled = false) :
    ∃ m', ready m = (.ok (Status.shows m.status m.channel.doneMask), m')
      ∧ m'.still = m.resetSignal.still ∧ m'.clock = m.clock := by
  obtain ⟨status, still, clock⟩ := m.resetSignal.readStatus_still
  have mask : m.resetSignal.readStatus.2.channel.doneMask = m.channel.doneMask :=
    (congrArg (fun b : Machine => b.channel.doneMask) still :)
  refine ⟨m.resetSignal.readStatus.2, ?_, still, clock⟩
  rw [ready_reads empty, status, mask]
  rfl

theorem ready_open (o : m.Open) (polls : m.channel.mode ≠ .interrupt) :
    ∃ m', ready m = (.ok false, m') ∧ m'.still = m.still ∧ m'.clock = m.clock := by
  obtain ⟨m', look, still, clock⟩ := ready_empty o.empty
  rw [o.status polls] at look
  rw [o.resetSignal] at still
  exact ⟨m', look, still, clock⟩

/-- A look where the slot is full does not come to the status register. -/
theorem ready_full (full : m.channel.signaled = true) : ready m = (.ok true, m.resetSignal) := by
  unfold ready
  rw [bind_ok (show takeSignal m = (.ok m.channel.signaled, m.resetSignal) from rfl), full]
  rfl

/-- Waits end at their first look where the slot is full. -/
theorem awaitSignal_full (full : m.channel.signaled = true) (fuel : Nat) :
    awaitSignal d (fuel + 1) m = (.ok .ready, m.resetSignal) := by
  rw [awaitSignal, bind_ok (show takeSignal m = (.ok m.channel.signaled, m.resetSignal) from rfl),
    full]
  rfl

theorem awaitStatus_full (full : m.channel.signaled = true) (us : UInt64) (fuel : Nat) :
    awaitStatus us d (fuel + 1) m = (.ok .ready, m.resetSignal) := by
  rw [awaitStatus, bind_ok (ready_full full)]
  rfl

/-- **A transfer that is over is found to be so** at the first look, which
empties the slot. -/
theorem ready_over (o : m.Over) :
    ∃ m', ready m = (.ok true, m') ∧ m'.still = m.resetSignal.still := by
  rcases slot : m.channel.signaled
  · obtain full | ⟨-, shows⟩ := o
    · rw [full] at slot
      cases slot
    obtain ⟨m', look, still, -⟩ := ready_empty slot
    rw [shows] at look
    exact ⟨m', look, still⟩
  · exact ⟨m.resetSignal, ready_full slot, rfl⟩

/-- **A wait for the slot alone** ends with its deadline, where nothing fills
the slot. -/
theorem awaitSignal_open {n fuel : Nat} (q : m.Quiet) (o : m.Open) (enough : n < fuel)
    (p : d.PassesAt m.clock.counter m.clock.step n) :
    ∃ m', awaitSignal d fuel m = (.ok .timedOut, m') ∧ m'.still = m.still := by
  induction n generalizing m fuel with
  | zero =>
    obtain ⟨fuel, rfl⟩ := Nat.exists_eq_add_of_lt enough
    obtain ⟨m', look, still, -⟩ := expired_quiet q d
    rw [p.now] at look
    refine ⟨m', ?_, still⟩
    -- the slot is looked at once more after the deadline has passed
    rw [Nat.zero_add, awaitSignal, bind_ok (takeSignal_open o)]
    refine (bind_ok look).trans ?_
    exact bind_ok (takeSignal_open (o.congr still))
  | succ n ih =>
    obtain ⟨fuel, rfl⟩ := Nat.exists_eq_add_of_lt enough
    obtain ⟨m₁, look, still, clock⟩ := expired_quiet q d
    rw [p.not_now] at look
    have step : m₁.clock.step = m.clock.step := by rw [clock]; rfl
    have counter : m₁.clock.counter = m.clock.counter + m.clock.step := by rw [clock]; rfl
    obtain ⟨m', rest, still'⟩ := ih (q.congr still)
      (o.congr still) (show n < n + 1 + fuel by omega) (by rw [counter, step]; exact p.later)
    refine ⟨m', ?_, still'.trans still⟩
    rw [awaitSignal, bind_ok (takeSignal_open o)]
    exact (bind_ok look).trans rest

/-- A wait that polls ends at once where its deadline has passed already. -/
theorem awaitStatus_passed (us : UInt64) (q : m.Quiet) (o : m.Open)
    (polls : m.channel.mode ≠ .interrupt) (passed : d.reached m.clock.counter = true)
    (fuel : Nat) :
    ∃ m', awaitStatus us d (fuel + 1) m = (.ok .timedOut, m') ∧ m'.still = m.still := by
  obtain ⟨m₀, first, same, sameClock⟩ := ready_open o polls
  obtain ⟨m₁, look, still, -⟩ := expired_quiet (q.congr same) d
  rw [sameClock, passed] at look
  have polls := Machine.polls_congr (still.trans same) polls
  obtain ⟨m', last, still', -⟩ := ready_open (o.congr (still.trans same)) polls
  refine ⟨m', ?_, still'.trans (still.trans same)⟩
  rw [awaitStatus, bind_ok first]
  refine (bind_ok look).trans ?_
  exact bind_ok last

/-- **A wait that polls** ends with its deadline, where no look finds
anything. -/
theorem awaitStatus_open {n fuel : Nat} {us pause : UInt64} (q : m.Quiet) (o : m.Open)
    (polls : m.channel.mode ≠ .interrupt) (pauses : m.clock.Pauses us pause) (enough : n < fuel)
    (p : d.PassesAt m.clock.counter (m.clock.step + pause) n) :
    ∃ m', awaitStatus us d fuel m = (.ok .timedOut, m') ∧ m'.still = m.still := by
  induction n generalizing m fuel with
  | zero =>
    obtain ⟨fuel, rfl⟩ := Nat.exists_eq_add_of_lt enough
    rw [Nat.zero_add]
    exact awaitStatus_passed us q o polls p.now fuel
  | succ n ih =>
    obtain ⟨fuel, rfl⟩ := Nat.exists_eq_add_of_lt enough
    obtain ⟨m₀, first, same, sameClock⟩ := ready_open o polls
    obtain ⟨m₁, look, still, clock⟩ := expired_quiet (q.congr same) d
    rw [sameClock] at clock
    rw [sameClock, p.not_now] at look
    have still := still.trans same
    have pauses' : m₁.clock.Pauses us pause := by rw [clock]; exact pauses
    obtain ⟨m₂, paused, still', counter⟩ := delay_quiet (q.congr still) pauses'
    have still := still'.trans still
    have step : m₂.clock.step = m.clock.step :=
      (congrArg (fun b : Machine => b.clock.step) still :)
    have pauses : m₂.clock.Pauses us pause := by
      show m₂.still.clock.Pauses us pause
      rw [still]
      exact pauses
    rw [clock] at counter
    obtain ⟨m', rest, still'⟩ := ih (q.congr still)
      (o.congr still) (Machine.polls_congr still polls) pauses
      (show n < n + 1 + fuel by omega) (by
        rw [counter, step, Clock.read]
        dsimp only
        rw [UInt64.add_assoc]
        exact p.later)
    refine ⟨m', ?_, still'.trans still⟩
    rw [awaitStatus, bind_ok first]
    refine (bind_ok look).trans ?_
    exact (bind_ok paused).trans rest

/-- **The deadline of a wait** is set by one read of the clock. -/
theorem afterMs_quiet (q : m.Quiet) (ms : UInt64) :
    ∃ m', afterMs ms m
        = (.ok ⟨m.clock.counter, usToTicks (Deadline.msToUs ms) m.clock.freq⟩, m')
      ∧ m'.still = m.still ∧ m'.clock = m.clock.read.2 := by
  obtain ⟨counter, still, clock⟩ := q.now
  refine ⟨m.now.2, ?_, still, clock⟩
  rw [← counter]
  rfl

/-- **A wait for a transfer that never ends** times out, on a clock on which
its deadline passes. -/
theorem awaitCompletion_open {ms : UInt64} (q : m.Quiet) (o : m.Open)
    (expires : m.clock.Expires m.channel.mode ms) :
    ∃ m', awaitCompletion ms m = (.ok .timedOut, m') ∧ m'.still = m.still := by
  obtain ⟨m₁, set, still, clock⟩ := afterMs_quiet q ms
  have mode : m₁.channel.mode = m.channel.mode :=
    (congrArg (fun b : Machine => b.channel.mode) still :)
  have step : m₁.clock.step = m.clock.step := by rw [clock]; rfl
  have counter : m₁.clock.counter = m.clock.counter + m.clock.step := by rw [clock]; rfl
  have period : m₁.clock.period = m.clock.period := by rw [clock]; rfl
  have enough := (patience_apply m₁).2
  rw [period] at enough
  -- the deadline counts from the first read of the clock, the looks from the next
  unfold awaitCompletion
  rw [bind_ok set, bind_ok (get_apply m₁), mode]
  unfold Clock.Expires at expires
  rcases way : m.channel.mode with _ | us
  · rw [way] at expires
    obtain ⟨n, p⟩ := Deadline.exists_passesAt expires
    obtain ⟨m', rest, still'⟩ := awaitSignal_open (q.congr still) (o.congr still)
      (Nat.lt_trans (p.lt m.clock.period_pos m.clock.round_step) enough)
      (by rw [counter, step]; exact p.shift m.clock.counter)
    refine ⟨m', ?_, still'.trans still⟩
    exact (bind_ok (patience_apply m₁).1).trans rest
  · rw [way] at expires
    obtain ⟨pause, pauses, passes⟩ := expires
    obtain ⟨n, p⟩ := Deadline.exists_passesAt passes
    have pauses' : m₁.clock.Pauses us pause := by rw [clock]; exact pauses
    have polls : m₁.channel.mode ≠ .interrupt := by
      rw [mode, way]
      exact CompletionMode.noConfusion
    obtain ⟨m', rest, still'⟩ := awaitStatus_open (q.congr still) (o.congr still) polls pauses'
      (Nat.lt_trans (p.lt m.clock.period_pos pauses.round) enough)
      (by rw [counter, step]; exact p.shift m.clock.counter)
    refine ⟨m', ?_, still'.trans still⟩
    exact (bind_ok (patience_apply m₁).1).trans rest

/-- **A wait for a transfer that is over** ends at its first look. -/
theorem awaitCompletion_over (q : m.Quiet) (o : m.Over) (ms : UInt64) :
    ∃ m', awaitCompletion ms m = (.ok .ready, m') ∧ m'.still = m.resetSignal.still := by
  obtain ⟨m₁, set, still, clock⟩ := afterMs_quiet q ms
  have mode : m₁.channel.mode = m.channel.mode :=
    (congrArg (fun b : Machine => b.channel.mode) still :)
  have reset : m₁.resetSignal.still = m.resetSignal.still :=
    congrArg Machine.resetSignal still
  unfold awaitCompletion
  rw [bind_ok set, bind_ok (get_apply m₁), mode]
  -- the patience of a wait is never zero, so there is a first look
  rcases way : m.channel.mode with _ | us
  · refine ⟨m₁.resetSignal, (bind_ok (patience_apply m₁).1).trans ?_, reset⟩
    obtain full | ⟨polls, -⟩ := o
    · have full' : m₁.channel.signaled = true :=
        (congrArg (fun b : Machine => b.channel.signaled) still :).trans full
      exact awaitSignal_full full' _
    · exact absurd way polls
  · obtain ⟨m', look, still'⟩ := ready_over (o.congr still)
    refine ⟨m', (bind_ok (patience_apply m₁).1).trans ?_, still'.trans reset⟩
    show awaitStatus us _ (_ + 1) m₁ = _
    rw [awaitStatus, bind_ok look]
    rfl

/-- **A transfer that never ends** fails with a timeout. -/
theorem wait_open {ms : UInt64} (q : m.Quiet) (o : m.Open)
    (expires : m.clock.Expires m.channel.mode ms) :
    ∃ m', wait ms m = (.ok (.error .timeout), m') ∧ m'.still = m.still := by
  obtain ⟨m', awaited, still⟩ := awaitCompletion_open q o expires
  exact ⟨m', bind_ok awaited, still⟩

/-- **A transfer that is over** ended well, unless the status register shows
one of the error bits. -/
theorem wait_over (q : m.Quiet) (o : m.Over) (ms : UInt64) :
    ∃ m', wait ms m = (.ok (if Status.shows m.status m.channel.errorMask then
        .error (.engine m.status) else .ok ()), m') ∧ m'.still = m.resetSignal.still := by
  obtain ⟨m', awaited, still⟩ := awaitCompletion_over q o ms
  have mask : m'.channel.errorMask = m.channel.errorMask :=
    (congrArg (fun b : Machine => b.channel.errorMask) still :)
  have status : m'.status = m.status := by
    rw [← Machine.status_still, still, Machine.status_still]
    rfl
  obtain ⟨shown, still', -⟩ := m'.readStatus_still
  have read : readStatus m' = (.ok m.status, m'.readStatus.2) := by
    rw [← status, ← shown]
    rfl
  by_cases none : m.channel.errorMask = 0
  · refine ⟨m', (bind_ok awaited).trans ((bind_ok (get_apply m')).trans ?_), still⟩
    rw [mask, if_pos none, none, show Status.shows m.status 0 = false by simp [Status.shows]]
    rfl
  · refine ⟨m'.readStatus.2, (bind_ok awaited).trans ((bind_ok (get_apply m')).trans ?_),
      still'.trans still⟩
    rw [mask, if_neg none]
    refine (bind_ok read).trans ?_
    split <;> rfl

/-- **What a wait comes back with** can be told beforehand, where nothing
happens during it. -/
theorem wait_quiet {ms : UInt64} (q : m.Quiet) (expires : m.clock.Expires m.channel.mode ms) :
    ∃ m', wait ms m = (.ok m.verdict, m') ∧ m'.still = m.resetSignal.still := by
  unfold Machine.verdict
  by_cases o : m.Over
  · rw [if_pos o]
    exact wait_over q o ms
  · have o' := Machine.open_of_not_over o
    obtain ⟨m', waited, still⟩ := wait_open q o' expires
    rw [if_neg o, o'.resetSignal]
    exact ⟨m', waited, still⟩

end Act

end RemoteDisk
