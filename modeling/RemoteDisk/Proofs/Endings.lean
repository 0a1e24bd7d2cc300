import RemoteDisk.Proofs.Waiting

/-!
# Waits that time out and waits that never end

On a quiet machine a wait for a transfer that is not over either times out or
goes on for ever. Which of the two it does is a matter of the clock's step and
of its pauses (`Clock.TimesOut`), not of where the counter stands or how often it
was read. So `Act.wait_ends` tells the end of every wait on a quiet machine, and
two machines with the same kind of clock wait alike, however far their clocks
have come.
-/

namespace RemoteDisk

/-- **A deadline is never seen to have passed** by looks that find the counter at
`start`, `start + stride` and so on. -/
def Deadline.Never (d : Deadline) (start stride : UInt64) : Prop :=
  ∀ i : Nat, d.reached (start + UInt64.ofNat i * stride) = false

namespace Deadline

variable {d : Deadline} {start stride : UInt64}

theorem Never.now (h : d.Never start stride) : d.reached start = false := by
  have first := h 0
  rwa [PassesAt.first_look] at first

/-- The looks after the first. -/
theorem Never.later (h : d.Never start stride) : d.Never (start + stride) stride := by
  intro i
  have next := h (i + 1)
  have place : start + stride + UInt64.ofNat i * stride
      = start + UInt64.ofNat (i + 1) * stride := by
    rw [UInt64.ofNat_add]
    grind
  rwa [place]

/-- Looks that are moved along with their deadline see the same. -/
theorem reached_shift (ticks along counter : UInt64) :
    (Deadline.mk along ticks).reached (along + counter) = decide (ticks ≤ counter) := by
  unfold reached
  dsimp only
  rw [show along + counter - along = counter by grind]

/-- **A deadline is never seen to pass** where no look is that many ticks away
from where the deadline was set. -/
theorem never_of_short {ticks : UInt64} (along : UInt64)
    (short : ¬∃ n : Nat, ticks ≤ start + UInt64.ofNat n * stride) :
    Never ⟨along, ticks⟩ (along + start) stride := by
  intro i
  rw [UInt64.add_assoc, reached_shift]
  exact decide_eq_false fun far => short ⟨i, far⟩

end Deadline

/-- **A wait times out** where nothing else ends it: its first look comes too
late already, or a later one does. -/
def Clock.TimesOut (c : Clock) (mode : CompletionMode) (ms : UInt64) : Prop :=
  usToTicks (Deadline.msToUs ms) c.freq ≤ c.step ∨ c.Expires mode ms

namespace Act

open Op

variable {m : Machine} {d : Deadline} {us ms : UInt64}

/-! ## Waits that never end -/

/-- Reading the clock until a deadline passes that never does. -/
theorem spin_never (q : m.Quiet) (never : d.Never m.clock.counter m.clock.step) (fuel : Nat) :
    ∃ m', spin d fuel m = (.error .endless, m') ∧ m'.still = m.still := by
  induction fuel generalizing m with
  | zero => exact ⟨m, rfl, rfl⟩
  | succ fuel ih =>
    obtain ⟨m₁, look, still, clock⟩ := expired_quiet q d
    rw [never.now] at look
    obtain ⟨m', rest, still'⟩ := ih (q.congr still) (by rw [clock]; exact never.later)
    refine ⟨m', ?_, still'.trans still⟩
    rw [spin, bind_ok look]
    exact rest

/-- **A pause that never ends** on a clock that spins. -/
theorem delay_never (us : UInt64) (q : m.Quiet) (stuck : ¬∃ pause, m.clock.Pauses us pause) :
    ∃ m', delay us m = (.error .endless, m') ∧ m'.still = m.still := by
  unfold Clock.Pauses at stuck
  unfold delay
  rw [bind_ok (get_apply m)]
  rcases way : m.clock.delay
  · rw [way] at stuck
    obtain ⟨counter, still, clock⟩ := q.now
    have run : now m = (.ok m.clock.counter, m.now.2) := by
      rw [← counter]
      rfl
    have short : ¬∃ n : Nat, m.clock.delayTicks us
        ≤ m.clock.step + UInt64.ofNat n * m.clock.step := by
      intro passes
      obtain ⟨n, p⟩ := Deadline.exists_passesAt passes
      exact stuck ⟨_, n, p, rfl⟩
    have never := Deadline.never_of_short m.clock.counter short
    obtain ⟨m', spun, still'⟩ := spin_never (q.congr still) (by rw [clock]; exact never)
      m.now.2.patience
    refine ⟨m', ?_, still'.trans still⟩
    dsimp only
    rw [bind_ok run, bind_ok (patience_apply _).1]
    exact spun
  · rw [way] at stuck
    exact absurd ⟨_, rfl⟩ stuck

/-- A wait for the slot alone, which nobody fills. -/
theorem awaitSignal_never (q : m.Quiet) (o : m.Open)
    (never : d.Never m.clock.counter m.clock.step) (fuel : Nat) :
    ∃ m', awaitSignal d fuel m = (.error .endless, m') ∧ m'.still = m.still := by
  induction fuel generalizing m with
  | zero => exact ⟨m, rfl, rfl⟩
  | succ fuel ih =>
    obtain ⟨m₁, look, still, clock⟩ := expired_quiet q d
    rw [never.now] at look
    obtain ⟨m', rest, still'⟩ := ih (q.congr still) (o.congr still)
      (by rw [clock]; exact never.later)
    refine ⟨m', ?_, still'.trans still⟩
    rw [awaitSignal, bind_ok (takeSignal_open o)]
    exact (bind_ok look).trans rest

/-- A wait that polls and comes no further than its first pause. -/
theorem awaitStatus_stuck (us : UInt64) (q : m.Quiet) (o : m.Open)
    (polls : m.channel.mode ≠ .interrupt)
    (early : d.reached m.clock.counter = false) (stuck : ¬∃ pause, m.clock.Pauses us pause)
    (fuel : Nat) :
    ∃ m', awaitStatus us d fuel m = (.error .endless, m') ∧ m'.still = m.still := by
  cases fuel with
  | zero => exact ⟨m, rfl, rfl⟩
  | succ fuel =>
    obtain ⟨m₀, first, same, sameClock⟩ := ready_open o polls
    obtain ⟨m₁, look, still, clock⟩ := expired_quiet (q.congr same) d
    rw [sameClock, early] at look
    rw [sameClock] at clock
    have still := still.trans same
    obtain ⟨m', paused, still'⟩ := delay_never us (q.congr still) (by rw [clock]; exact stuck)
    refine ⟨m', ?_, still'.trans still⟩
    rw [awaitStatus, bind_ok first]
    refine (bind_ok look).trans ?_
    exact bind_error paused

/-- A wait that polls at the ends of its pauses and never sees its deadline
passed. -/
theorem awaitStatus_never {pause : UInt64} (q : m.Quiet) (o : m.Open)
    (polls : m.channel.mode ≠ .interrupt) (pauses : m.clock.Pauses us pause)
    (never : d.Never m.clock.counter (m.clock.step + pause)) (fuel : Nat) :
    ∃ m', awaitStatus us d fuel m = (.error .endless, m') ∧ m'.still = m.still := by
  induction fuel generalizing m with
  | zero => exact ⟨m, rfl, rfl⟩
  | succ fuel ih =>
    obtain ⟨m₀, first, same, sameClock⟩ := ready_open o polls
    obtain ⟨m₁, look, still, clock⟩ := expired_quiet (q.congr same) d
    rw [sameClock] at clock
    rw [sameClock, never.now] at look
    have still := still.trans same
    have pauses' : m₁.clock.Pauses us pause := by rw [clock]; exact pauses
    obtain ⟨m₂, paused, still', counter⟩ := delay_quiet (q.congr still) pauses'
    have still := still'.trans still
    have step : m₂.clock.step = m.clock.step :=
      (congrArg (fun b : Machine => b.clock.step) still :)
    have pauses : m₂.clock.Pauses us pause := by
      show m₂.still.clock.Pauses us pause
      rw [still]
      exact pauses
    rw [clock] at counter
    obtain ⟨m', rest, still'⟩ := ih (q.congr still) (o.congr still)
      (Machine.polls_congr still polls) pauses (by
        rw [counter, step, Clock.read]
        dsimp only
        rw [UInt64.add_assoc]
        exact never.later)
    refine ⟨m', ?_, still'.trans still⟩
    rw [awaitStatus, bind_ok first]
    refine (bind_ok look).trans ?_
    exact (bind_ok paused).trans rest

/-! ## How every wait ends -/

/-- **A wait for a transfer that never ends** times out where its clock lets it. -/
theorem awaitCompletion_timesOut (q : m.Quiet) (o : m.Open)
    (passes : m.clock.TimesOut m.channel.mode ms) :
    ∃ m', awaitCompletion ms m = (.ok .timedOut, m') ∧ m'.still = m.still := by
  obtain late | expires := passes
  · rcases way : m.channel.mode with _ | us
    · refine awaitCompletion_open q o ?_
      rw [way]
      refine ⟨0, ?_⟩
      rwa [Deadline.PassesAt.first_look]
    · obtain ⟨m₁, set, still, clock⟩ := afterMs_quiet q ms
      have mode : m₁.channel.mode = .polling us :=
        (congrArg (fun b : Machine => b.channel.mode) still :).trans way
      have polls : m₁.channel.mode ≠ .interrupt := by
        rw [mode]
        exact CompletionMode.noConfusion
      have passed : Deadline.reached ⟨m.clock.counter, usToTicks (Deadline.msToUs ms) m.clock.freq⟩
          m₁.clock.counter = true := by
        rw [clock]
        exact (Deadline.reached_shift _ m.clock.counter m.clock.step).trans (decide_eq_true late)
      obtain ⟨m', run, still'⟩ := awaitStatus_passed us (q.congr still) (o.congr still)
        polls passed (m₁.clock.period + m₁.lastEvent + m₁.lastDue)
      refine ⟨m', ?_, still'.trans still⟩
      unfold awaitCompletion
      rw [bind_ok set, bind_ok (get_apply m₁), mode]
      exact (bind_ok (patience_apply m₁).1).trans run
  · exact awaitCompletion_open q o expires

/-- **A wait for a transfer that never ends** goes on for ever where its clock does not let it
time out. -/
theorem awaitCompletion_never (q : m.Quiet) (o : m.Open)
    (never : ¬m.clock.TimesOut m.channel.mode ms) :
    ∃ m', awaitCompletion ms m = (.error .endless, m') ∧ m'.still = m.still := by
  obtain ⟨early, short⟩ := not_or.mp never
  obtain ⟨m₁, set, still, clock⟩ := afterMs_quiet q ms
  have mode : m₁.channel.mode = m.channel.mode :=
    (congrArg (fun b : Machine => b.channel.mode) still :)
  have counter : m₁.clock.counter = m.clock.counter + m.clock.step := by rw [clock]; rfl
  have step : m₁.clock.step = m.clock.step := by rw [clock]; rfl
  unfold awaitCompletion
  rw [bind_ok set, bind_ok (get_apply m₁), mode]
  unfold Clock.Expires at short
  rcases way : m.channel.mode with _ | us
  · rw [way] at short
    have unseen := Deadline.never_of_short m.clock.counter short
    obtain ⟨m', run, still'⟩ := awaitSignal_never (q.congr still) (o.congr still)
      (by rw [counter, step]; exact unseen) m₁.patience
    exact ⟨m', (bind_ok (patience_apply m₁).1).trans run, still'.trans still⟩
  · rw [way] at short
    have polls : m₁.channel.mode ≠ .interrupt := by
      rw [mode, way]
      exact CompletionMode.noConfusion
    -- either the first pause has no end, or looks follow that all come too early
    by_cases stuck : ∃ pause, m.clock.Pauses us pause
    · obtain ⟨pause, pauses⟩ := stuck
      have unseen := Deadline.never_of_short m.clock.counter fun far => short ⟨pause, pauses, far⟩
      have pauses' : m₁.clock.Pauses us pause := by rw [clock]; exact pauses
      obtain ⟨m', run, still'⟩ := awaitStatus_never (q.congr still) (o.congr still) polls pauses'
        (by rw [counter, step]; exact unseen) m₁.patience
      exact ⟨m', (bind_ok (patience_apply m₁).1).trans run, still'.trans still⟩
    · have unseen : Deadline.reached ⟨m.clock.counter, usToTicks (Deadline.msToUs ms) m.clock.freq⟩
          m₁.clock.counter = false := by
        rw [counter]
        exact (Deadline.reached_shift _ _ _).trans (decide_eq_false early)
      obtain ⟨m', run, still'⟩ := awaitStatus_stuck us (q.congr still) (o.congr still)
        polls unseen (by rw [clock]; exact stuck) m₁.patience
      exact ⟨m', (bind_ok (patience_apply m₁).1).trans run, still'.trans still⟩

/-- **How a wait ends** is decided before it begins: with its verdict where the
transfer is over or the clock lets the wait time out, and else never. -/
theorem wait_ends (q : m.Quiet) (ms : UInt64) :
    ∃ m', m'.still = m.resetSignal.still
      ∧ (m.Over ∨ m.clock.TimesOut m.channel.mode ms → wait ms m = (.ok m.verdict, m'))
      ∧ (¬(m.Over ∨ m.clock.TimesOut m.channel.mode ms) → wait ms m = (.error .endless, m')) := by
  unfold Machine.verdict
  by_cases ended : m.Over
  · obtain ⟨m', waited, still⟩ := wait_over q ended ms
    rw [if_pos ended]
    exact ⟨m', still, fun _ => waited, fun h => absurd (.inl ended) h⟩
  · have o := Machine.open_of_not_over ended
    rw [if_neg ended, o.resetSignal]
    by_cases passes : m.clock.TimesOut m.channel.mode ms
    · obtain ⟨m', awaited, still⟩ := awaitCompletion_timesOut q o passes
      exact ⟨m', still, fun _ => bind_ok awaited, fun h => absurd (.inr passes) h⟩
    · obtain ⟨m', awaited, still⟩ := awaitCompletion_never q o passes
      exact ⟨m', still, fun h => absurd h (not_or.mpr ⟨ended, passes⟩), fun _ => bind_error awaited⟩

end Act

end RemoteDisk
