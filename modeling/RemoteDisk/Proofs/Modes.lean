import RemoteDisk.Proofs.Replies

/-!
# Interrupts and polling are interchangeable

With interrupts a wait watches the slot, with polling it reads the status
register as well and pauses in between. The two look at different things, at
different times and differently often. All the same they cannot be told
apart by what a disk does, as long as its engine puts nothing off, because
after a launch the slot tells exactly what the register tells
(`Machine.Settled`): either both say that the transfer is over, and a wait of
either kind ends at its first look, or neither does, and it ends with its
deadline. On the clock of an emulated controller every deadline passes,
however long the pauses are.
-/

namespace RemoteDisk

/-! ## Deadlines on the clock of an emulated controller -/

/-- No pause is so long that two of them make the counter wrap. -/
theorem Clock.stepping_delayTicks_lt (us : UInt64) :
    (Clock.stepping.delayTicks us).toNat < 0x8000000000000000 := by
  have bound := us.toNat_lt
  have freq : Clock.stepping.freq.toNat = 1000 := rfl
  have ticks : (usToTicks us Clock.stepping.freq).toNat < 2 ^ 63 := by
    unfold usToTicks Geometry.wordLimit
    rw [UInt64.toNat_ofNat_of_lt' (by show _ < 2 ^ 64; omega), freq]
    omega
  show (if usToTicks us Clock.stepping.freq ≤ 1 then (1 : UInt64)
    else usToTicks us Clock.stepping.freq).toNat < 2 ^ 63
  split
  · decide
  · exact ticks

/-- **The deadline of a transfer passes** on the clock of an emulated
controller, whichever way the end of the transfer is noticed. -/
theorem Clock.stepping_expires (mode : CompletionMode) :
    Clock.stepping.Expires mode Geometry.timeoutMs := by
  cases mode with
  | interrupt => exact ⟨4999, by decide⟩
  | polling us =>
    have ticks : usToTicks (Deadline.msToUs Geometry.timeoutMs) Clock.stepping.freq = 5000 := by
      decide
    have step : Clock.stepping.step = 1 := rfl
    refine ⟨Clock.stepping.delayTicks us, rfl, ?_⟩
    have short := Clock.stepping_delayTicks_lt us
    rw [ticks, step]
    generalize Clock.stepping.delayTicks us = pause at short
    have looks (n : Nat) (small : n < 2 ^ 64) (room : 1 + n * (1 + pause.toNat) < 2 ^ 64) :
        (1 + UInt64.ofNat n * (1 + pause)).toNat = 1 + n * (1 + pause.toNat) := by
      have stride : 1 + pause.toNat < 2 ^ 64 := by omega
      have way : n * (1 + pause.toNat) < 2 ^ 64 := by omega
      rw [UInt64.toNat_add, UInt64.toNat_mul, UInt64.toNat_add 1 pause,
        UInt64.toNat_ofNat_of_lt' small, UInt64.toNat_one, Nat.mod_eq_of_lt stride,
        Nat.mod_eq_of_lt way, Nat.mod_eq_of_lt room]
    -- a long pause passes the deadline at once, short ones do so together
    by_cases long : 5000 ≤ pause.toNat
    · refine ⟨1, UInt64.le_iff_toNat_le.mpr ?_⟩
      rw [looks 1 (by decide) (by omega)]
      show 5000 ≤ _
      omega
    · refine ⟨4999, UInt64.le_iff_toNat_le.mpr ?_⟩
      rw [looks 4999 (by decide) (by omega)]
      show 5000 ≤ _
      omega

namespace Machine

variable {m m' : Machine}

/-- A transfer on a machine whose slot tells what the register tells is over
where the register shows a done bit. -/
theorem Settled.over_iff (h : m.Settled) :
    m.Over ↔ Status.shows m.status m.channel.doneMask = true := by
  unfold Over
  rw [show m.channel.signaled = _ from h]
  exact or_iff_left_of_imp And.right

end Machine

/-- **Surroundings in which waits come to their end by themselves**: nothing
happens in either, and deadlines pass. As many interrupts were counted in
both. -/
structure Surroundings.Timely (s s' : Surroundings) : Prop where
  irqs : s'.irqs = s.irqs
  calm : s.events = []
  calm' : s'.events = []
  expires : s.clock.Expires s.mode Geometry.timeoutMs
  expires' : s'.clock.Expires s'.mode Geometry.timeoutMs

open Machine

/-- **Poised twins come back with the same**, where nothing happens and
deadlines pass. -/
theorem Machine.Poised.verdict {X : Surroundings → Surroundings → Prop} {m m' : Machine}
    (h : Poised X m m') : m'.verdict = m.verdict := by
  unfold Machine.verdict
  simp only [h.settled.over_iff, h.settled'.over_iff, h.status, h.doneMask, h.errorMask]

/-- Waits in such surroundings go side by side, and none is lost. -/
theorem coupling_timely : Coupling (fun _ => False) Surroundings.Timely Geometry.timeoutMs where
  recount f h := { h with irqs := congrArg f h.irqs }
  wait := by
    intro m m' h
    have around := h.around
    obtain ⟨m₁, waited, still⟩ :=
      Act.wait_quiet ⟨around.calm, h.tended.pending⟩ around.expires
    obtain ⟨m₁', waited', still'⟩ :=
      Act.wait_quiet ⟨around.calm', h.tended'.pending⟩ around.expires'
    have plain : m₁.plain = m.resetSignal.plain := plain_of_still still
    have plain' : m₁'.plain = m'.resetSignal.plain := plain_of_still still'
    have irqs : m₁.counters.irqs = m.counters.irqs :=
      (congrArg (fun b : Machine => b.counters.irqs) still :)
    have irqs' : m₁'.counters.irqs = m'.counters.irqs :=
      (congrArg (fun b : Machine => b.counters.irqs) still' :)
    rw [waited, waited', h.verdict]
    refine .ended _ ⟨?_, plain'.trans (h.plain.trans plain.symm), ?_⟩
    · rw [← tended_plain, plain]
      exact tended_plain.mpr ⟨h.tended.engine, h.tended.wire⟩
    · refine ⟨irqs'.trans (around.irqs.trans irqs.symm),
        (congrArg Machine.events still :).trans around.calm,
        (congrArg Machine.events still' :).trans around.calm', ?_, ?_⟩
      · show m₁.still.clock.Expires m₁.still.channel.mode _
        rw [still]
        exact around.expires
      · show m₁'.still.clock.Expires m₁'.still.channel.mode _
        rw [still']
        exact around.expires'

/-! ## Disks in different modes -/

/-- Counters that agree without the interrupts and in the interrupts. -/
theorem Counters.eq_of_withoutIrqs {c c' : Counters} (others : c'.withoutIrqs = c.withoutIrqs)
    (irqs : c'.irqs = c.irqs) : c' = c := by
  rcases c with ⟨reads, writes, errors, timeouts, n⟩
  rcases c' with ⟨reads', writes', errors', timeouts', n'⟩
  cases others
  cases irqs
  rfl

namespace Device

/-- A disk that notices the end of its transfers in another way. -/
def inMode (mode : CompletionMode) (d : Device) : Device :=
  { d with config := { d.config with mode } }

variable {d d' : Device}

/-- The way in which a wait works is a matter of the machine and not of the
disk. -/
theorem calls_inMode (mode : CompletionMode) (d : Device) (calls : List Call) (m : Machine) :
    (d.inMode mode).replies calls m = d.replies calls m
      ∧ (d.inMode mode).after calls m = d.after calls m := by
  induction calls generalizing m with
  | nil => exact ⟨rfl, rfl⟩
  | cons c rest ih =>
    have run : c.run (d.inMode mode) m = c.run d m := by
      cases c <;> rfl
    have reply : c.reply? (d.inMode mode) m = c.reply? d m := by
      cases c <;> rfl
    obtain ⟨replies, after⟩ := ih (c.run d m).2
    refine ⟨?_, ?_⟩
    · rw [Device.replies, run, reply, replies]
      rfl
    · show (d.inMode mode).after rest (c.run (d.inMode mode) m).2 = _
      rw [run, after]
      rfl

/-- **Two disks that differ in their mode alone** stand before twins. -/
theorem onBench_twins {config : Config} {mode mode' : CompletionMode} {m₀ m m' : Machine}
    (stepping : m₀.clock = Clock.stepping) (calm : m₀.events = [])
    (built : onBench { config with mode } m₀ = (.ok (.ok d), m))
    (built' : onBench { config with mode := mode' } m₀ = (.ok (.ok d'), m'))
    {bs : List Behavior} (synchronous : ∀ b ∈ bs, b.isSynchronous = true) :
    d' = d.inMode mode' ∧ Twin Surroundings.Timely (m.layOut bs) (m'.layOut bs) := by
  obtain ⟨sound, same, line, arena, journal, free, rfl⟩ := onBench_takes built
  obtain ⟨sound', same', line', arena', journal', free', rfl⟩ := onBench_takes built'
  rw [free] at free'
  obtain ⟨bounce, rfl⟩ := Prod.mk.inj (Option.some.inj free')
  have sectors : d'.sectors = d.sectors := by
    have accepted := sound.capacity
    have accepted' := sound'.capacity
    rw [same] at accepted
    rw [same'] at accepted'
    exact UInt64.toNat_inj.mp (Except.ok.inj (accepted'.symm.trans accepted))
  refine ⟨?_, ?_⟩
  · rcases d with ⟨c, n, irq, b⟩
    rcases d' with ⟨c', n', irq', b'⟩
    cases same
    cases same'
    cases line
    cases line'
    cases sectors
    cases bounce
    rfl
  · refine ⟨onBench_tended built synchronous, ?_, ?_⟩
    · rw [line, line']
      rfl
    · refine ⟨rfl, calm, calm, ?_, ?_⟩
      · show m₀.clock.Expires mode _
        rw [stepping]
        exact Clock.stepping_expires mode
      · show m₀.clock.Expires mode' _
        rw [stepping]
        exact Clock.stepping_expires mode'

/-- Calls on twins in whose surroundings waits end by themselves. -/
theorem calls_timely {m m' : Machine} {calls : List Call}
    (fixed : ∀ c ∈ calls, c.isRewiring = false) (h : Twin Surroundings.Timely m m') :
    d.replies calls m' = d.replies calls m
      ∧ Twin Surroundings.Timely (d.after calls m) (d.after calls m') := by
  induction calls generalizing m m' with
  | nil => exact ⟨rfl, h⟩
  | cons c rest ih =>
    obtain ⟨served, _, fault, _, gone⟩ | ⟨reply, left⟩ :=
      coupling_timely.call (d := d) (fixed c List.mem_cons_self) h
    · exact gone.elim
    · obtain ⟨replies, last⟩ := ih (fun c h => fixed c (List.mem_cons_of_mem _ h)) left
      refine ⟨?_, last⟩
      rw [Device.replies, Device.replies, reply, replies]

/-- **Interrupts and polling are interchangeable.** Whatever a disk is called
for, and whatever its engine does at each start, the two kinds of waiting come
to the same replies and leave the same window, log, flushed ranges and
counters. -/
theorem modes_interchangeable (config : Config) (mode mode' : CompletionMode) {m₀ m m' : Machine}
    (stepping : m₀.clock = Clock.stepping) (calm : m₀.events = [])
    (built : onBench { config with mode } m₀ = (.ok (.ok d), m))
    (built' : onBench { config with mode := mode' } m₀ = (.ok (.ok d'), m'))
    {bs : List Behavior} (synchronous : ∀ b ∈ bs, b.isSynchronous = true)
    {calls : List Call} (fixed : ∀ c ∈ calls, c.isRewiring = false) :
    d'.replies calls (m'.layOut bs) = d.replies calls (m.layOut bs)
      ∧ (d'.after calls (m'.layOut bs)).window = (d.after calls (m.layOut bs)).window
      ∧ (d'.after calls (m'.layOut bs)).transfers = (d.after calls (m.layOut bs)).transfers
      ∧ (d'.after calls (m'.layOut bs)).flushes = (d.after calls (m.layOut bs)).flushes
      ∧ (d'.after calls (m'.layOut bs)).counters = (d.after calls (m.layOut bs)).counters := by
  obtain ⟨rfl, twins⟩ := onBench_twins stepping calm built built' synchronous
  obtain ⟨replies, last⟩ := calls_timely (d := d) fixed twins
  obtain ⟨replies', after'⟩ := calls_inMode mode' d calls (m'.layOut bs)
  rw [replies', after']
  refine ⟨replies, last.sameMemory.window, last.transfers,
    (congrArg Machine.flushes last.plain :), ?_⟩
  exact Counters.eq_of_withoutIrqs (congrArg Machine.counters last.plain :) last.around.irqs

/-- A request that fails, one that times out and one that succeeds, with
interrupts and with polling. -/
theorem modes_interchangeable_three_requests :
    ∃ d d' m m', onBench { sizeBytes := 1024, errorMask := 0x10, mode := .interrupt }
        { clock := Clock.stepping } = (.ok (.ok d), m)
      ∧ onBench { sizeBytes := 1024, errorMask := 0x10, mode := .polling 3 }
        { clock := Clock.stepping } = (.ok (.ok d'), m')
      ∧ d'.replies [.submit (Request.write 0 [⟨#[1, 2, 3]⟩]), .queue (Request.read 1 [⟨#[0]⟩]),
          .submit (Request.read 0 [⟨#[0, 0]⟩])] (m'.layOut [.fault 0x10, .hang, .immediate])
        = d.replies [.submit (Request.write 0 [⟨#[1, 2, 3]⟩]), .queue (Request.read 1 [⟨#[0]⟩]),
          .submit (Request.read 0 [⟨#[0, 0]⟩])] (m.layOut [.fault 0x10, .hang, .immediate]) := by
  have built : onBench { sizeBytes := 1024, errorMask := 0x10, mode := .interrupt }
      { clock := Clock.stepping } = (.ok (.ok ⟨{ sizeBytes := 1024, errorMask := 0x10 }, 2, some 33,
          ⟨0x80000000, Geometry.bounceSize⟩⟩),
        (onBench { sizeBytes := 1024, errorMask := 0x10, mode := .interrupt }
          { clock := Clock.stepping }).2) := Op.apply_eq rfl
  have built' : onBench { sizeBytes := 1024, errorMask := 0x10, mode := .polling 3 }
      { clock := Clock.stepping }
        = (.ok (.ok ⟨{ sizeBytes := 1024, errorMask := 0x10, mode := .polling 3 }, 2, some 33,
          ⟨0x80000000, Geometry.bounceSize⟩⟩),
        (onBench { sizeBytes := 1024, errorMask := 0x10, mode := .polling 3 }
          { clock := Clock.stepping }).2) := Op.apply_eq rfl
  exact ⟨_, _, _, _, built, built', (modes_interchangeable { sizeBytes := 1024, errorMask := 0x10 }
    .interrupt (.polling 3) rfl rfl built built' (by decide) (by decide)).1⟩

end Device

end RemoteDisk
