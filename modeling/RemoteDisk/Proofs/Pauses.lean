import Mathlib.Order.Bounds.Basic
import RemoteDisk.Proofs.Signals

/-!
# How long a pause lasts

A pause reads the clock until its ticks have passed. Whatever else happens on the
machine meanwhile, the clock is moved by its reads alone (`Machine.now_clock`), so a
pause can be told from the clock it starts on: it ends with the first read that finds
its ticks passed, and it comes to an end wherever there is such a read
(`Act.delay_inv`, `Act.delay_ends`).

The ticks of a pause are rounded down, but for the first one. So a pause may last
less than the microseconds it was asked for, though by less than one tick, and
`Act.delay_lasts` says which pauses never do.
-/

namespace RemoteDisk

open Op

/-! ## The reads of a pause -/

namespace Act

variable {m m' : Machine} {d : Deadline} {us : UInt64} {n fuel : Nat}

theorem spin_succ (d : Deadline) (fuel : Nat) (m : Machine) :
    spin d (fuel + 1) m
      = if d.reached m.clock.counter then (.ok (), m.now.2) else spin d fuel m.now.2 := by
  rw [spin, bind_ok (expired_apply d m)]
  split <;> rfl

/-- **Reading the clock until a deadline has passed** ends with the first look that sees it pass.
-/
theorem spin_inv (h : spin d fuel m = (.ok (), m')) :
    ∃ n, d.PassesAt m.clock.counter m.clock.step n ∧ m'.clock = m.clock.ahead (n + 1) := by
  induction fuel generalizing m with
  | zero => cases h
  | succ fuel ih =>
    obtain ⟨-, clock⟩ := m.now_clock
    rw [spin_succ] at h
    split at h
    · next passed =>
      cases h
      exact ⟨0, (Deadline.passesAt_zero _).mpr passed, clock⟩
    · next early =>
      obtain ⟨n, p, ends⟩ := ih h
      rw [clock] at p ends
      refine ⟨n + 1, (Deadline.passesAt_succ _).mpr ⟨Bool.eq_false_iff.mpr early, p⟩, ?_⟩
      rw [ends, Clock.ahead_ahead, Nat.add_comm 1]

/-- **Reading the clock until a deadline has passed** does end where some look sees it pass. -/
theorem spin_ends (enough : n < fuel) (p : d.PassesAt m.clock.counter m.clock.step n) :
    ∃ m', spin d fuel m = (.ok (), m') := by
  induction n generalizing m fuel with
  | zero =>
    obtain ⟨fuel, rfl⟩ := Nat.exists_eq_add_of_lt enough
    rw [spin_succ, if_pos p.now]
    exact ⟨_, rfl⟩
  | succ n ih =>
    obtain ⟨fuel, rfl⟩ := Nat.exists_eq_add_of_lt enough
    obtain ⟨early, p⟩ := (Deadline.passesAt_succ _).mp p
    rw [spin_succ, if_neg (Bool.eq_false_iff.mp early)]
    refine ih (by omega) ?_
    rwa [m.now_clock.2]

/-- The deadline of a pause, which its first read sets. -/
theorem delay_apply (spins : m.clock.delay = .spin) (us : UInt64) :
    delay us m = spin ⟨m.clock.counter, m.clock.delayTicks us⟩ m.now.2.patience m.now.2 := by
  have run : now m = (.ok m.clock.counter, m.now.2) := by
    rw [← m.now_clock.1]
    rfl
  unfold delay
  rw [bind_ok (get_apply m), spins]
  dsimp only
  rw [bind_ok run, bind_ok (patience_apply _).1]

end Act

/-! ## The ticks of a pause -/

namespace Clock

variable (c : Clock) {us : UInt64} {n : Nat}

/-- **A pause is over** at the `n`-th read after its first one. -/
def PauseOver (us : UInt64) (n : Nat) : Prop := 1 ≤ n ∧ (c.delayTicks us).toNat ≤ c.moved n

/-- The looks of a pause come after its first read. -/
theorem passesAt_iff : Deadline.PassesAt ⟨c.counter, c.delayTicks us⟩
      (c.ahead 1).counter (c.ahead 1).step n ↔ IsLeast {j | c.PauseOver us j} (n + 1) := by
  have look (i : Nat) : (Deadline.mk c.counter (c.delayTicks us)).reached
      ((c.ahead 1).counter + UInt64.ofNat i * (c.ahead 1).step) = true
        ↔ c.PauseOver us (i + 1) := by
    rw [c.look_ahead]
    exact (c.reached_iff _ (i + 1)).trans (and_iff_right (Nat.le_add_left 1 i)).symm
  constructor
  · refine fun p => ⟨(look n).mp p.reached, fun j elapsed => Nat.not_lt.mp fun early => ?_⟩
    obtain ⟨i, rfl⟩ := Nat.exists_eq_add_of_le' elapsed.1
    have seen := (look i).mpr elapsed
    rw [p.before i (Nat.lt_of_succ_lt_succ early)] at seen
    cases seen
  · rintro ⟨elapsed, least⟩
    refine ⟨fun i hi => Bool.eq_false_iff.mpr fun seen => ?_, (look n).mpr elapsed⟩
    exact Nat.not_lt.mpr (least ((look i).mp seen)) (Nat.succ_lt_succ hi)

/-- **The counter difference between the first and the last of the reads** that lead from
one state of a clock to another. -/
def lasted (c c' : Clock) : Nat := (c'.counter - c'.step - c.counter).toNat

theorem lasted_ahead (n : Nat) : c.lasted (c.ahead (n + 1)) = c.moved n := by
  have back : (c.ahead (n + 1)).counter - (c.ahead (n + 1)).step - c.counter
      = UInt64.ofNat n * c.step := by
    show c.counter + UInt64.ofNat (n + 1) * c.step - c.step - c.counter = _
    rw [UInt64.ofNat_add]
    grind
  unfold lasted
  rw [back, UInt64.toNat_mul, UInt64.toNat_ofNat', Nat.mod_mul_mod]
  rfl

/-- The ticks of a pause that are not too many to be counted. -/
theorem toNat_delayTicks (fits : us.toNat * c.freq.toNat / 1000000 < Geometry.wordLimit) :
    (c.delayTicks us).toNat = max (us.toNat * c.freq.toNat / 1000000) 1 := by
  have ticks : (usToTicks us c.freq).toNat = us.toNat * c.freq.toNat / 1000000 := by
    have cut : min (us.toNat * c.freq.toNat / 1000000) (Geometry.wordLimit - 1)
        = us.toNat * c.freq.toNat / 1000000 := Nat.min_eq_left (Nat.le_pred_of_lt fits)
    unfold usToTicks
    rw [cut]
    exact UInt64.toNat_ofNat_of_lt' fits
  show (if usToTicks us c.freq ≤ 1 then 1 else usToTicks us c.freq).toNat = _
  rw [← ticks]
  split
  · next none => exact (Nat.max_eq_right (UInt64.le_iff_toNat_le.mp none)).symm
  · next some =>
    exact (Nat.max_eq_left (Nat.le_of_not_le (mt UInt64.le_iff_toNat_le.mpr some))).symm

end Clock

namespace Act

variable {m m' : Machine} {us freq : UInt64} {n : Nat}

/-- **A pause ends with the first read that finds its ticks passed.** -/
theorem delay_inv (spins : m.clock.delay = .spin) (h : delay us m = (.ok (), m')) :
    ∃ n, IsLeast {j | m.clock.PauseOver us j} n ∧ m'.clock = m.clock.ahead (n + 1) := by
  rw [delay_apply spins] at h
  obtain ⟨n, p, ends⟩ := spin_inv h
  rw [m.now_clock.2] at p ends
  refine ⟨n + 1, m.clock.passesAt_iff.mp p, ?_⟩
  rw [ends, Clock.ahead_ahead, Nat.add_comm 1]

/-- **A pause does end** where some read finds its ticks passed. -/
theorem delay_ends (spins : m.clock.delay = .spin)
    (elapsed : IsLeast {j | m.clock.PauseOver us j} (n + 1)) :
    ∃ m', delay us m = (.ok (), m') ∧ m'.clock = m.clock.ahead (n + 2) := by
  have p := m.clock.passesAt_iff.mpr elapsed
  rw [← m.now_clock.2] at p
  have enough := Nat.lt_trans (p.lt m.now.2.clock.period_pos m.now.2.clock.round_step)
    (patience_apply m.now.2).2
  obtain ⟨m', run⟩ := spin_ends enough p
  rw [← delay_apply spins] at run
  obtain ⟨k, least, clock⟩ := delay_inv spins run
  obtain rfl := elapsed.unique least
  exact ⟨m', run, clock⟩

/-- **A pause that was made** by reading a clock of so many ticks in a second. -/
structure Paused (us freq : UInt64) (m m' : Machine) : Prop where
  spins : m.clock.delay = .spin
  freq : m.clock.freq = freq
  returned : delay us m = (.ok (), m')

/-- **A pause lasts its ticks**, and one at least. -/
theorem Paused.ticks_le (paused : Paused us freq m m')
    (fits : us.toNat * freq.toNat / 1000000 < Geometry.wordLimit) :
    max (us.toNat * freq.toNat / 1000000) 1 ≤ m.clock.lasted m'.clock := by
  obtain ⟨spins, rfl, returned⟩ := paused
  obtain ⟨n, ⟨⟨-, elapsed⟩, -⟩, clock⟩ := delay_inv spins returned
  rw [clock, Clock.lasted_ahead, ← Clock.toNat_delayTicks _ fits]
  exact elapsed

/-- A clock that counts every tick. -/
def everyTick (freq : UInt64) : Machine :=
  { Command.freshMachine with clock := { freq } }

/-- On it a pause lasts its ticks and no longer. -/
theorem everyTick_lasts (us freq : UInt64)
    (fits : us.toNat * freq.toNat / 1000000 < Geometry.wordLimit) :
    ∃ m', Paused us freq (everyTick freq) m'
      ∧ (everyTick freq).clock.lasted m'.clock = max (us.toNat * freq.toNat / 1000000) 1 := by
  have ticks : ((everyTick freq).clock.delayTicks us).toNat
      = max (us.toNat * freq.toNat / 1000000) 1 := Clock.toNat_delayTicks _ fits
  have counts {n : Nat} (h : n < Geometry.wordLimit) : (everyTick freq).clock.moved n = n := by
    show n * 1 % Geometry.wordLimit = n
    rw [Nat.mul_one, Nat.mod_eq_of_lt h]
  obtain ⟨n, hn⟩ : ∃ n, max (us.toNat * freq.toNat / 1000000) 1 = n + 1 :=
    Nat.exists_eq_add_of_le' (Nat.le_max_right _ 1)
  have bound : n + 1 < Geometry.wordLimit := by
    rw [← hn]
    exact Nat.max_lt.mpr ⟨fits, by decide⟩
  have elapsed : IsLeast {j | (everyTick freq).clock.PauseOver us j} (n + 1) := by
    refine ⟨⟨Nat.le_add_left 1 n, ?_⟩, fun j ⟨_, passed⟩ => ?_⟩
    · rw [counts bound]
      exact (ticks.trans hn).le
    · by_contra early
      rw [counts (Nat.lt_trans (Nat.not_le.mp early) bound), ticks, hn] at passed
      exact early passed
  obtain ⟨m', returned, clock⟩ := delay_ends rfl elapsed
  refine ⟨m', ⟨rfl, rfl, returned⟩, ?_⟩
  rw [clock, Clock.lasted_ahead, counts bound, hn]

/-- **A pause ends less than a tick too soon**: the microseconds it was asked for come to
fewer ticks than it has lasted and one more. The pauses that are never too short are those
whose microseconds come to one tick at most, or to whole ticks. -/
theorem delay_lasts (us freq : UInt64)
    (fits : us.toNat * freq.toNat / 1000000 < Geometry.wordLimit) :
    (∀ m m', Paused us freq m m' → 1 ≤ m.clock.lasted m'.clock
        ∧ us.toNat * freq.toNat < (m.clock.lasted m'.clock + 1) * 1000000)
      ∧ ((∀ m m', Paused us freq m m' →
          us.toNat * freq.toNat ≤ m.clock.lasted m'.clock * 1000000)
        ↔ us.toNat * freq.toNat ≤ 1000000 ∨ 1000000 ∣ us.toNat * freq.toNat) := by
  refine ⟨fun m m' paused => ?_, fun never => ?_, fun whole m m' paused => ?_⟩
  · have ticks := paused.ticks_le fits
    omega
  · obtain ⟨m', paused, lasted⟩ := everyTick_lasts us freq fits
    have long := never _ _ paused
    rw [lasted] at long
    omega
  · have ticks := paused.ticks_le fits
    omega

/-- A millisecond and a half on a clock that counts milliseconds lasts one of them. -/
theorem delay_lasts_one_tick :
    ∃ m', Paused 1500 1000 (everyTick 1000) m'
      ∧ (everyTick 1000).clock.lasted m'.clock = 1
      ∧ (1500 : UInt64).toNat * (1000 : UInt64).toNat < (1 + 1) * 1000000 := by
  obtain ⟨m', paused, lasted⟩ := everyTick_lasts 1500 1000 (by decide)
  have short := ((delay_lasts 1500 1000 (by decide)).1 _ _ paused).2
  rw [lasted] at short
  exact ⟨m', paused, lasted, short⟩

/-- **A pause may end too soon**: that every pause lasts the microseconds it was asked for
is not true. -/
theorem delay_ends_early :
    ¬∀ (us freq : UInt64) (m m' : Machine),
      us.toNat * freq.toNat / 1000000 < Geometry.wordLimit → Paused us freq m m' →
        us.toNat * freq.toNat ≤ m.clock.lasted m'.clock * 1000000 := by
  intro claim
  obtain ⟨m', paused, lasted⟩ := everyTick_lasts 1500 1000 (by decide)
  have long := claim _ _ _ _ (by decide) paused
  rw [lasted] at long
  exact absurd long (by decide)

end Act

end RemoteDisk
