import RemoteDisk.Proofs.Prompt

/-!
# What is left over from before a launch

A launch empties the completion slot, so no signal meant for an earlier
transfer reaches the wait that follows. The status register is another
matter. An engine clears it as it starts, but a launch itself never writes
it, and plain registers go on showing whatever they showed.

With interrupts this makes no difference, because the wait looks at the slot
alone: where nobody signals, it times out. With polling, a done bit that is
still shown after the start ends the wait at its first look, as if the new
transfer were over. `Act.wait_after_unsignalled_start` tells the two apart for
every machine, whatever its registers hold and whatever was signalled.
-/

namespace RemoteDisk

/-! ## Recording registers -/

/-- **A word that was written is read back**, and a write leaves the words at
other offsets. -/
theorem RegisterFile.get_set (f : RegisterFile) (offset other : Nat) (value : UInt32) :
    (f.set offset value).get other = if other = offset then value else f.get other := by
  unfold get set
  dsimp only
  rw [List.lookup_cons]
  split
  · next same => rw [if_pos (beq_iff_eq.mp same), Option.getD_some]
  · next differs =>
    have differs : other ≠ offset := by simpa using differs
    rw [if_neg differs]
    -- the cells that are dropped are those of the offset that is written
    induction f.cells with
    | nil => rfl
    | cons cell cells ih =>
      rw [List.filter_cons]
      split
      · rw [List.lookup_cons, List.lookup_cons]
        split
        · rfl
        · exact ih
      · next dropped =>
        have dropped : cell.1 = offset := by simpa using dropped
        rw [ih, List.lookup_cons, dropped, beq_eq_false_iff_ne.mpr differs]

namespace Recorder

variable (r : Recorder)

/-- A write to another register leaves the status register. -/
theorem status_write {register : Register} (other : register ≠ .status) (value : UInt32) :
    (r.write register.offset value).file.get Register.status.offset
      = r.file.get Register.status.offset := by
  refine (r.file.get_set _ _ value).trans (if_neg fun same => other ?_)
  exact Register.eq_of_offset_div (congrArg (· / 4) same.symm)

/-- **What the status register shows after the next start**: what the script
says, or what it showed before. -/
def leftStatus : UInt32 :=
  (r.takeReply.1.bind Reply.status).getD (r.file.get Register.status.offset)

/-- Taking an answer out of the script leaves the registers. -/
theorem file_takeReply : r.takeReply.2.file = r.file := by
  unfold takeReply
  split <;> rfl

/-- The next answer is a matter of the script alone. -/
theorem takeReply_congr {r r' : Recorder} (h : r'.replies = r.replies) :
    r'.takeReply.1 = r.takeReply.1 := by
  unfold takeReply
  rw [h]
  split <;> rfl

/-- A write to another register changes nothing about it. -/
theorem leftStatus_write {register : Register} (other : register ≠ .status) (value : UInt32) :
    (r.write register.offset value).leftStatus = r.leftStatus := by
  have script : (r.write register.offset value).takeReply.1 = r.takeReply.1 := takeReply_congr rfl
  unfold leftStatus
  rw [r.status_write other, script]

end Recorder

namespace Machine

/-- **The next start signals nothing**: the script of recording registers
has no signal for it, or the engine drops the transfer. -/
def Unsignalled (m : Machine) : Prop :=
  match m.controller with
  | .recorder r => ∀ reply, r.takeReply.1 = some reply → reply.signal = false
  | .engine e => e.takeBehavior.behavior = .hang

/-- **What the status register shows after the next start**, if that signals
nothing. -/
def leftStatus (m : Machine) : UInt32 :=
  match m.controller with
  | .recorder r => r.leftStatus
  | .engine _ => 0

/-- **A transfer was started and nothing was signalled**: the slot is empty,
and nothing is going to happen that was not before. -/
structure Started (m m₁ : Machine) : Prop where
  channel : m₁.channel = { m.channel with signaled := false }
  status : m₁.status = m.leftStatus
  clock : m₁.clock = m.clock
  events : m₁.events = m.events
  pending : m₁.pending = m.pending

namespace Started

variable {m m₁ : Machine} (s : m.Started m₁)
include s

/-- Where nothing happens by itself before a start, nothing does after it. -/
theorem quiet (q : m.Quiet) : m₁.Quiet := ⟨s.events.trans q.events, s.pending.trans q.pending⟩

/-- **The transfer is seen to be over** only by polling, and only where a done
bit is still shown. -/
theorem over_iff : m₁.Over ↔ m.channel.mode ≠ .interrupt
    ∧ Status.shows m.leftStatus m.channel.doneMask = true := by
  unfold Over
  rw [s.channel, s.status]
  simp

end Started

end Machine

namespace Act

open Op

variable {m : Machine} {r : Recorder}

/-- Recording registers take the writes of a list. -/
theorem writeAll_recorder (writes : List (Register × UInt32))
    (h : ∀ w ∈ writes, w.1 ≠ .control ∧ w.1 ≠ .status) (recorder : m.controller = .recorder r) :
    ∃ r' : Recorder, writeAll writes m = (.ok (), { m with controller := .recorder r' })
      ∧ r'.leftStatus = r.leftStatus ∧ r'.replies = r.replies := by
  induction writes generalizing m r with
  | nil =>
    refine ⟨r, ?_, rfl, rfl⟩
    rw [← recorder]
    rfl
  | cons w writes ih =>
    rcases w with ⟨register, value⟩
    obtain ⟨start, status⟩ := h _ List.mem_cons_self
    have first : writeRegister register.offset value m
        = (.ok (), { m with controller := .recorder (r.write register.offset value) }) := by
      have other : register.offset ≠ Register.control.offset := fun same =>
        start (Register.eq_of_offset_div (congrArg (· / 4) same))
      unfold writeRegister
      rw [bind_ok (get_apply m), recorder]
      dsimp only
      rw [bind_ok (modify_apply _ m), if_neg other, recorder]
      rfl
    obtain ⟨r', run, left, script⟩ := ih (m := { m with
      controller := .recorder (r.write register.offset value) })
      (fun w hw => h w (List.mem_cons_of_mem _ hw)) rfl
    refine ⟨r', (bind_ok first).trans run, ?_, script⟩
    rw [left, r.leftStatus_write status]

/-- **A start that signals nothing** changes recording registers alone. -/
theorem setStart_recorder (unsignalled : m.Unsignalled) (recorder : m.controller = .recorder r) :
    ∃ r' : Recorder, setStart m = (.ok (), { m with controller := .recorder r' })
      ∧ r'.file.get Register.status.offset = r.leftStatus := by
  unfold Machine.Unsignalled at unsignalled
  rw [recorder] at unsignalled
  dsimp only at unsignalled
  let started := r.write Register.control.offset Register.startBit
  have script : started.takeReply.1 = r.takeReply.1 := Recorder.takeReply_congr rfl
  have kept : started.leftStatus = r.leftStatus := r.leftStatus_write Register.noConfusion _
  have written : setStart m = answer { m with controller := .recorder started } := by
    unfold setStart writeRegister
    rw [bind_ok (get_apply m), recorder]
    dsimp only
    rw [bind_ok (modify_apply _ m), if_pos rfl, recorder]
  rw [written, ← kept]
  unfold answer Recorder.leftStatus
  rw [modify_apply]
  dsimp only
  have file := congrArg (fun f => f.get Register.status.offset) started.file_takeReply
  rcases next : started.takeReply.1 with _ | ⟨_ | value, signal⟩
  · exact ⟨started.takeReply.2, rfl, file⟩
  · obtain rfl : signal = false := unsignalled _ (script.symm.trans next)
    exact ⟨started.takeReply.2, rfl, file⟩
  · obtain rfl : signal = false := unsignalled _ (script.symm.trans next)
    refine ⟨started.takeReply.2.setStatus value, rfl, ?_⟩
    exact (RegisterFile.get_set _ _ _ value).trans (if_pos rfl)

/-- A launch on recording registers whose script has no signal for it. -/
theorem launch_recorder (unsignalled : m.Unsignalled) (recorder : m.controller = .recorder r)
    (t : Transfer) :
    ∃ m₁, launch t.source t.destination t.length m = (.ok (), m₁) ∧ m.Started m₁ := by
  let announced := m.report .trace ("[DMA] " ++ t.text)
  obtain ⟨r₁, described, left₁, script⟩ := writeAll_recorder (m := announced)
    (Register.program t.source t.destination t.length) (by simp [Register.program]) recorder
  have unsignalled₁ : Machine.Unsignalled
      { announced.resetSignal with controller := .recorder r₁ } := by
    intro reply next
    rw [Recorder.takeReply_congr script] at next
    unfold Machine.Unsignalled at unsignalled
    rw [recorder] at unsignalled
    exact unsignalled reply next
  obtain ⟨r₂, started, left₂⟩ := setStart_recorder unsignalled₁ rfl
  refine ⟨{ announced.resetSignal with controller := .recorder r₂ }, ?_, rfl, ?_, rfl, rfl, ?_⟩
  · unfold launch
    rw [report, bind_ok (modify_apply _ m), program, bind_ok described, bind_ok (modify_apply _ _)]
    exact started
  · unfold Machine.leftStatus
    rw [recorder]
    exact left₂.trans left₁
  · unfold Machine.pending Machine.engine?
    rw [recorder]

/-- An engine that drops the transfer has cleared its status register. -/
theorem launch_dropped {e : Engine} (engine : m.controller = .engine e)
    (dropped : e.takeBehavior.behavior = .hang) (t : Transfer) :
    ∃ m₁, launch t.source t.destination t.length m = (.ok (), m₁) ∧ m.Started m₁ := by
  have released (m : Machine) : m.release.channel = m.channel ∧ m.release.status = m.status
      ∧ m.release.clock = m.clock ∧ m.release.events = m.events
      ∧ m.release.pending = m.pending := by
    rcases m with ⟨_ | _⟩ <;> exact ⟨rfl, rfl, rfl, rfl, rfl⟩
  obtain ⟨channel, status, clock, events, pending⟩ := released (m.begun t)
  refine ⟨(m.begun t).release, ?_, ?_, ?_, clock.trans ?_, events.trans ?_, ?_⟩
  · rw [launch_apply engine, dropped]
    rfl
  · rw [channel, Machine.channel_begun]
  · rw [status, Machine.HasEngine.status_begun ⟨e, engine⟩]
    unfold Machine.leftStatus
    rw [engine]
  · rcases m with ⟨_ | _⟩ <;> rfl
  · rcases m with ⟨_ | _⟩ <;> rfl
  · rw [pending, Machine.pending_begun]

/-- **A launch whose start signals nothing** leaves an empty slot, whatever
was signalled before. -/
theorem launch_unsignalled (unsignalled : m.Unsignalled) (t : Transfer) :
    ∃ m₁, launch t.source t.destination t.length m = (.ok (), m₁) ∧ m.Started m₁ := by
  rcases answers : m.controller with r | e
  · exact launch_recorder unsignalled answers t
  · unfold Machine.Unsignalled at unsignalled
    rw [answers] at unsignalled
    exact launch_dropped answers unsignalled t

/-- **After a launch whose start signals nothing, only a done bit that polling
still finds ends the wait.** No signal from before does, and neither does what the
register shows where the wait does not look at it: then it times out. -/
theorem wait_after_unsignalled_start (unsignalled : m.Unsignalled) (quiet : m.Quiet) {ms : UInt64}
    (expires : m.clock.Expires m.channel.mode ms) (t : Transfer) :
    ∃ m₁, launch t.source t.destination t.length m = (.ok (), m₁)
      ∧ (wait ms m₁).1 = .ok (
        if m.channel.mode ≠ .interrupt
            ∧ Status.shows m.leftStatus m.channel.doneMask = true then
          if Status.shows m.leftStatus m.channel.errorMask then .error (.engine m.leftStatus)
          else .ok ()
        else .error .timeout) := by
  obtain ⟨m₁, launched, started⟩ := launch_unsignalled unsignalled t
  have expires₁ : m₁.clock.Expires m₁.channel.mode ms := by
    rw [started.clock, started.channel]
    exact expires
  obtain ⟨m', waited, -⟩ := wait_quiet (started.quiet quiet) expires₁
  refine ⟨m₁, launched, ?_⟩
  rw [waited, Machine.verdict, started.status, started.channel]
  simp only [started.over_iff]

/-- With interrupts, neither a filled slot nor a done bit in the register
keeps the wait from timing out. -/
theorem wait_after_unsignalled_start_interrupt :
    ∃ m₁, launch 0x80000000 0x200000000 64
        { controller := .recorder { file := ⟨[(28, 4)]⟩ }, channel := { signaled := true },
          clock := .stepping } = (.ok (), m₁)
      ∧ (wait 5000 m₁).1 = .ok (.error .timeout) :=
  wait_after_unsignalled_start
    (m := { controller := .recorder { file := ⟨[(28, 4)]⟩ }, channel := { signaled := true },
            clock := .stepping })
    (fun _ h => nomatch h) ⟨rfl, rfl⟩ ⟨4999, by decide⟩ ⟨0x80000000, 0x200000000, 64⟩

/-- With polling, a done bit from before ends the wait for a transfer that
nobody has touched. -/
theorem wait_ends_on_leftover_status :
    ¬∀ (m : Machine) (ms : UInt64) (t : Transfer) (m₁ : Machine), m.Unsignalled → m.Quiet →
      m.clock.Expires m.channel.mode ms →
      launch t.source t.destination t.length m = (.ok (), m₁) →
      (wait ms m₁).1 = .ok (.error .timeout) := by
  intro law
  let m : Machine :=
    { controller := .recorder { file := ⟨[(28, 4)]⟩ }
      channel := { mode := .polling 10 }
      clock := .stepping }
  have unsignalled : m.Unsignalled := fun _ h => nomatch h
  obtain ⟨m₁, launched, started⟩ :=
    launch_unsignalled unsignalled ⟨0x80000000, 0x200000000, 64⟩
  have seen : m₁.Over := started.over_iff.mpr ⟨CompletionMode.noConfusion, by decide⟩
  have well : Status.shows m₁.status m₁.channel.errorMask = false := by
    rw [started.channel, started.status]
    decide
  obtain ⟨m', ended, -⟩ := wait_over (started.quiet ⟨rfl, rfl⟩) seen 5000
  have timeout := law m 5000 ⟨0x80000000, 0x200000000, 64⟩ m₁ unsignalled ⟨rfl, rfl⟩
    ⟨1, (by decide : (1 : UInt64) = Clock.stepping.delayTicks 10), 4999, by decide⟩ launched
  rw [ended, well] at timeout
  cases timeout

end Act

end RemoteDisk
