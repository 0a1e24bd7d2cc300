import Mathlib.Algebra.Order.Floor.Div
import RemoteDisk.Proofs.Reads

/-!
# Deadlines and the top of the counter

A deadline compares wrapped differences, and each poll moves the counter by a step. As long as
the ticks of the deadline and one step more are no more than the counter has values, the step
that passes the deadline does not wrap around it: a deadline that is polled again and again is
found to have passed at just the poll it should be, wherever the counter started, and it stays so
until the counter has come around to where it was (`Act.afterMs_exact`).

The ticks come from milliseconds by way of microseconds, both cut off at the largest word, and
are rounded down (`Deadline.budget`).
-/

namespace RemoteDisk

open Op

/-! ## Ticks and polls in exact numbers -/

namespace Deadline

/-- **The ticks of a deadline** some milliseconds away. -/
def budget (ms freq : Nat) : Nat :=
  min (min (1000 * ms) (Geometry.wordLimit - 1) * freq / 1000000) (Geometry.wordLimit - 1)

/-- A number that was cut off at the largest word is one. -/
theorem toNat_cut (n : Nat) : (UInt64.ofNat (min n (Geometry.wordLimit - 1))).toNat
    = min n (Geometry.wordLimit - 1) :=
  UInt64.toNat_ofNat_of_lt' (Nat.lt_of_le_of_lt (Nat.min_le_right _ _) (by decide))

theorem toNat_usToTicks (ms freq : UInt64) :
    (usToTicks (msToUs ms) freq).toNat = budget ms.toNat freq.toNat := by
  unfold usToTicks msToUs budget
  rw [toNat_cut, toNat_cut, Nat.mul_comm ms.toNat]

/-- **The poll that is the first to find a deadline passed**, one at least. -/
def polls (ticks step : Nat) : Nat := max (ticks ⌈/⌉ step) 1

theorem exists_polls (ticks step : Nat) : ∃ k, polls ticks step = k + 1 :=
  Nat.exists_eq_add_of_le' (Nat.le_max_right _ 1)

variable {step j : Nat}

/-- From that poll on the ticks have passed. -/
theorem polls_le_iff (ticks : Nat) (moves : 1 ≤ step) (some : 1 ≤ j) :
    polls ticks step ≤ j ↔ ticks ≤ j * step := by
  rw [polls, Nat.max_le, and_iff_left some, ceilDiv_le_iff_le_mul moves, Nat.mul_comm]

/-- The poll that finds a deadline passed comes less than a step late. -/
theorem polls_mul_lt {ticks top : Nat} (moves : 1 ≤ step) (below : step < top)
    (fits : ticks + step ≤ top) : polls ticks step * step < top := by
  obtain ⟨k, hk⟩ := exists_polls ticks step
  rw [hk]
  rcases Nat.eq_zero_or_pos k with rfl | some
  · omega
  · -- at the poll before it the ticks have not passed
    have early := mt (polls_le_iff ticks moves some).mpr (by omega)
    rw [Nat.succ_mul]
    omega

end Deadline

/-! ## Polling -/

namespace Act

variable {m : Machine} {d : Deadline} {n left : Nat}

/-- **A deadline polled again and again**, with the answers in order. -/
def poll (d : Deadline) : Nat → Act (List Bool)
  | 0 => pure []
  | n + 1 => do
    let answer ← expired d
    return answer :: (← poll d n)

/-- **The answers are told by the clock alone**, whatever happens at its reads. -/
theorem poll_apply (d : Deadline) (n : Nat) (m : Machine) :
    ∃ m', poll d n m
        = (.ok ((List.range n).map fun i => d.reached (m.clock.ahead i).counter), m')
      ∧ m'.clock = m.clock.ahead n := by
  induction n generalizing m with
  | zero => exact ⟨m, rfl, m.clock.ahead_zero.symm⟩
  | succ n ih =>
    obtain ⟨m', run, clock⟩ := ih m.now.2
    simp only [m.now_clock.2, Clock.ahead_ahead, Nat.add_comm 1] at run clock
    refine ⟨m', ?_, clock⟩
    rw [poll, bind_ok (expired_apply d m), bind_ok run, List.range_succ_eq_map, List.map_cons,
      List.map_map, Clock.ahead_zero]
    rfl

theorem looks_succ (d : Deadline) (left seen : Nat) (m : Machine) :
    looks d (left + 1) seen m
      = if d.reached m.clock.counter then (.ok seen, m.now.2)
        else looks d left (seen + 1) m.now.2 := by
  rw [looks, bind_ok (expired_apply d m)]
  split <;> rfl

/-- **How often a deadline is found not to have passed** is told by the poll that is the first
to find it passed. -/
theorem looks_ends (enough : n < left) (p : d.PassesAt m.clock.counter m.clock.step n)
    (seen : Nat) : ∃ m', looks d left seen m = (.ok (seen + n), m') := by
  induction n generalizing m left seen with
  | zero =>
    obtain ⟨left, rfl⟩ := Nat.exists_eq_add_of_lt enough
    rw [looks_succ, if_pos p.now]
    exact ⟨_, rfl⟩
  | succ n ih =>
    obtain ⟨left, rfl⟩ := Nat.exists_eq_add_of_lt enough
    obtain ⟨early, p⟩ := (Deadline.passesAt_succ _).mp p
    rw [← m.now_clock.2] at p
    rw [looks_succ, if_neg (Bool.eq_false_iff.mp early), Nat.add_comm n 1, ← Nat.add_assoc seen]
    exact ih (by omega) p (seen + 1)

end Act

/-! ## Deadlines that are kept -/

/-- **A deadline that is kept exactly** by a clock that moves so far at a read. -/
structure Deadline.Exact (ticks step : Nat) (d : Deadline) (m : Machine) : Prop where
  /-- However often it is polled before the counter has come around, it is found to have passed
  from one poll on, and at none before it. -/
  answers : ∀ n, n * step < Geometry.wordLimit → ∃ m', Act.poll d n m
    = (.ok ((List.range n).map fun i => decide (polls ticks step ≤ i + 1)), m')
  /-- The counter has not come around at the poll that finds it passed. -/
  inTime : polls ticks step * step < Geometry.wordLimit
  /-- The polls that find it has not passed are one fewer. -/
  count : ∀ left, polls ticks step ≤ left →
    ∃ m', Act.looks d left 0 m = (.ok (polls ticks step - 1), m')
  /-- On any machine whose counter is so many ticks further, and not once around, it has passed
  if these are its ticks at least, and else it has not. -/
  elapsed : ∀ (m' : Machine) (passed : Nat), passed < Geometry.wordLimit →
    m'.clock.counter = d.start + UInt64.ofNat passed →
    (Act.expired d m').1 = .ok (decide (ticks ≤ passed))

namespace Act

variable {m : Machine}

/-- What a poll finds before the counter has come around. -/
theorem deadline_reached (moves : 1 ≤ m.clock.step.toNat) (ms : UInt64) {j : Nat} (some : 1 ≤ j)
    (around : j * m.clock.step.toNat < Geometry.wordLimit) :
    (m.deadline ms).reached (m.clock.ahead j).counter
      = decide (Deadline.polls (Deadline.budget ms.toNat m.clock.freq.toNat) m.clock.step.toNat
        ≤ j) := by
  have passed := m.clock.reached_iff (usToTicks (Deadline.msToUs ms) m.clock.freq) j
  rw [Deadline.toNat_usToTicks, Clock.moved, Nat.mod_eq_of_lt around,
    ← Deadline.polls_le_iff _ moves some] at passed
  exact Bool.eq_iff_iff.mpr (passed.trans decide_eq_true_iff.symm)

/-- The first poll to find the deadline passed, among those after the read that set it. -/
theorem deadline_passesAt (moves : 1 ≤ m.clock.step.toNat) (ms : UInt64) {k : Nat}
    (first : Deadline.polls (Deadline.budget ms.toNat m.clock.freq.toNat) m.clock.step.toNat
      = k + 1)
    (inTime : (k + 1) * m.clock.step.toNat < Geometry.wordLimit) :
    (m.deadline ms).PassesAt (m.clock.ahead 1).counter (m.clock.ahead 1).step k := by
  have look (i : Nat) (hi : i ≤ k) : (m.deadline ms).reached
      ((m.clock.ahead 1).counter + UInt64.ofNat i * (m.clock.ahead 1).step)
        = decide (k + 1 ≤ i + 1) := by
    have here := Nat.mul_le_mul_right m.clock.step.toNat (Nat.succ_le_succ hi)
    rw [Clock.look_ahead, ← first]
    exact deadline_reached moves ms (Nat.le_add_left 1 i) (Nat.lt_of_le_of_lt here inTime)
  refine ⟨fun i hi => ?_, ?_⟩
  · rw [look i hi.le, decide_eq_false (by omega)]
  · rw [look k le_rfl, decide_eq_true le_rfl]

/-- **Deadlines are exact across the top of the counter.** Wherever the counter starts and
however fast it ticks, a deadline is kept exactly if its ticks and one step more are no more
than the counter has values. -/
theorem afterMs_exact (ms : UInt64) (moves : 1 ≤ m.clock.step.toNat)
    (fits : Deadline.budget ms.toNat m.clock.freq.toNat + m.clock.step.toNat
      ≤ Geometry.wordLimit) :
    ∃ d m₁, afterMs ms m = (.ok d, m₁) ∧ d.start = m.clock.counter
      ∧ m₁.clock = m.clock.ahead 1
      ∧ d.Exact (Deadline.budget ms.toNat m.clock.freq.toNat) m.clock.step.toNat m₁ := by
  have clock := m.now_clock.2
  have inTime : _ < Geometry.wordLimit :=
    Deadline.polls_mul_lt moves m.clock.step.toNat_lt fits
  refine ⟨m.deadline ms, m.now.2, afterMs_apply ms m, rfl, clock, fun n around => ?_, inTime,
    fun left enough => ?_, fun m' passed around counter => ?_⟩
  · obtain ⟨m', run, -⟩ := poll_apply (m.deadline ms) n m.now.2
    refine ⟨m', ?_⟩
    rw [run]
    congr 2
    refine List.map_congr_left fun i hi => ?_
    have here := Nat.mul_le_mul_right m.clock.step.toNat (List.mem_range.mp hi)
    rw [clock, Clock.ahead_ahead, Nat.add_comm 1]
    exact deadline_reached moves ms (Nat.le_add_left 1 i) (Nat.lt_of_le_of_lt here around)
  · obtain ⟨k, first⟩ := Deadline.exists_polls (Deadline.budget ms.toNat m.clock.freq.toNat)
      m.clock.step.toNat
    rw [first] at inTime enough ⊢
    have p := deadline_passesAt moves ms first inTime
    rw [← clock] at p
    obtain ⟨m', run⟩ := looks_ends enough p 0
    exact ⟨m', run.trans (by rw [Nat.zero_add, Nat.add_sub_cancel])⟩
  · rw [expired_apply, counter]
    show Except.ok ((m.deadline ms).reached (m.clock.counter + UInt64.ofNat passed)) = _
    unfold Machine.deadline
    rw [Deadline.reached_shift, ← Deadline.toNat_usToTicks]
    refine congrArg _ (decide_eq_decide.mpr ?_)
    rw [UInt64.le_iff_toNat_le, UInt64.toNat_ofNat_of_lt' around]

/-- Seven ticks from two below the top of a counter that moves by three at a read: two polls
come too early, and from the third one on the deadline has passed. -/
theorem afterMs_exact_past_the_top :
    ∃ d m₁, afterMs 7 { clock := { counter := 0xfffffffffffffffe, step := 3 } } = (.ok d, m₁)
      ∧ (∃ m', poll d 4 m₁ = (.ok [false, false, true, true], m'))
      ∧ ∃ m', looks d 10 0 m₁ = (.ok 2, m') := by
  obtain ⟨d, m₁, set, -, -, kept⟩ := afterMs_exact 7
    (m := { clock := { counter := 0xfffffffffffffffe, step := 3 } }) (by decide) (by decide)
  have ticks : Deadline.budget (7 : UInt64).toNat (1000 : UInt64).toNat = 7 := by decide
  have first : Deadline.polls 7 (3 : UInt64).toNat = 3 := by
    unfold Deadline.polls
    rw [Nat.ceilDiv_eq_add_pred_div]
    decide
  rw [ticks] at kept
  obtain ⟨m', answers⟩ := kept.answers 4 (by decide)
  obtain ⟨n', count⟩ := kept.count 10 (by rw [first]; decide)
  rw [first] at answers count
  exact ⟨d, m₁, set, ⟨m', answers⟩, n', count⟩

end Act

end RemoteDisk
