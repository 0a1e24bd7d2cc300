import RemoteDisk.Command.Run
import RemoteDisk.Proofs.Checks
import RemoteDisk.Proofs.Starts
import RemoteDisk.Proofs.Steady
import RemoteDisk.Proofs.Stepwise

/-!
# The register traffic of a transfer

What a transfer does at the registers is told from what recording registers note
of it, for every script behind them and whatever signals and changes of the
status register happen meanwhile (`Act.transfer_traffic`): seven writes, and from
then on reads of the status register only. A wait with interrupts makes none, one
that polls makes one for each check that finds the slot empty, and where there are
error bits to look for and the wait ended well, one read more decides the result.

The seven writes carry all of the transfer. Made again on an engine, in whatever
state that is, they put it into the engine's log (`Act.transfers_redo`).
-/

namespace RemoteDisk

open Op

/-- **The writes that start a transfer**: three values in halves, the low half
first, and the start bit. -/
def Transfer.writes (t : Transfer) : List Access :=
  [.write 0x00 (Halves.low t.source), .write 0x04 (Halves.high t.source),
    .write 0x08 (Halves.low t.destination), .write 0x0C (Halves.high t.destination),
    .write 0x10 (Halves.low t.length), .write 0x14 (Halves.high t.length), .write 0x18 1]

namespace Act

variable {m m' : Machine} {ms : UInt64} {outcome : Outcome}

/-! ## Writes -/

/-- The script's answer to a start is no access. -/
theorem unnoted_answer : Op.Leads Machine.Unnoted answer := by
  intro m recording
  obtain ⟨r, recorder⟩ := recording.recorder
  have accesses : r.takeReply.2.accesses = r.accesses := by
    unfold Recorder.takeReply
    split <;> rfl
  let taken : Machine := { m with controller := .recorder r.takeReply.2 }
  have recording' : taken.Recording := ⟨⟨_, rfl⟩, recording.scripted⟩
  have same : taken.accesses = m.accesses := by
    unfold Machine.accesses
    rw [recorder]
    exact accesses
  have status (value : UInt32) := Machine.unnoted_happen (.inr ⟨value, rfl⟩) taken recording'
  unfold answer
  rw [modify_apply]
  dsimp only
  rw [recorder]
  dsimp only
  rcases r.takeReply.1 with _ | ⟨_ | value, signal⟩
  · exact ⟨recording', same⟩
  · cases signal with
    | true => exact ⟨⟨recording'.recorder, recording'.scripted⟩, same⟩
    | false => exact ⟨recording', same⟩
  · obtain ⟨set, kept⟩ := status value
    cases signal with
    | true => exact ⟨⟨set.recorder, set.scripted⟩, kept.trans same⟩
    | false => exact ⟨set, kept.trans same⟩

/-- **A register write is noted**, whatever it starts. -/
theorem writeRegister_noted (recording : m.Recording) (offset : Nat) (value : UInt32) :
    ∃ m', writeRegister offset value m = (.ok (), m') ∧ m'.Recording
      ∧ m'.accesses.toList = m.accesses.toList ++ [.write offset value] := by
  obtain ⟨r, recorder⟩ := recording.recorder
  let written : Machine := { m with controller := .recorder (r.write offset value) }
  have recording' : written.Recording := ⟨⟨_, rfl⟩, recording.scripted⟩
  have noted : written.accesses.toList = m.accesses.toList ++ [.write offset value] := by
    unfold Machine.accesses
    rw [recorder]
    exact Array.toList_push
  have run : writeRegister offset value m
      = (if offset = Register.control.offset then answer else pure () : Act Unit) written := by
    unfold writeRegister
    rw [bind_ok (get_apply m), recorder]
    dsimp only
    rw [bind_ok (modify_apply _ m), recorder]
  rw [run]
  split
  · obtain ⟨recording, same⟩ := unnoted_answer written recording'
    refine ⟨(answer written).2, rfl, recording, ?_⟩
    rw [same, noted]
  · exact ⟨written, rfl, recording', noted⟩

/-- The register writes of a list are noted in order. -/
theorem writeAll_noted (writes : List (Register × UInt32)) (recording : m.Recording) :
    ∃ m', writeAll writes m = (.ok (), m') ∧ m'.Recording
      ∧ m'.accesses.toList
        = m.accesses.toList ++ writes.map fun w => .write w.1.offset w.2 := by
  induction writes generalizing m with
  | nil => exact ⟨m, rfl, recording, (List.append_nil _).symm⟩
  | cons w writes ih =>
    obtain ⟨m₁, wrote, recording₁, noted⟩ := writeRegister_noted recording w.1.offset w.2
    obtain ⟨m', rest, recording', noted'⟩ := ih recording₁
    refine ⟨m', (bind_ok wrote).trans rest, recording', ?_⟩
    rw [noted', noted, List.map_cons, List.append_assoc]
    rfl

/-- **A launch makes seven writes.** -/
theorem launch_noted (recording : m.Recording) (t : Transfer) :
    ∃ m', launch t.source t.destination t.length m = (.ok (), m') ∧ m'.Recording
      ∧ m'.accesses.toList = m.accesses.toList ++ t.writes := by
  obtain ⟨m₁, described, recording₁, noted⟩ := writeAll_noted
    (Register.program t.source t.destination t.length)
    (m := m.report .trace ("[DMA] " ++ t.text)) ⟨recording.recorder, recording.scripted⟩
  obtain ⟨m', started, recording', noted'⟩ := writeRegister_noted (m := m₁.resetSignal)
    ⟨recording₁.recorder, recording₁.scripted⟩ Register.control.offset Register.startBit
  refine ⟨m', ?_, recording', ?_⟩
  · refine (bind_ok (modify_apply _ m)).trans ((bind_ok described).trans ?_)
    exact (bind_ok (modify_apply _ m₁)).trans started
  · rw [noted', show m₁.resetSignal.accesses = m₁.accesses from rfl, noted, List.append_assoc]
    rfl

/-! ## Waits -/

/-- **A wait for the slot alone makes no access.** -/
theorem unnoted_awaitSignal (d : Deadline) (fuel : Nat) :
    Op.Leads Machine.Unnoted (awaitSignal d fuel) := by
  have takes : Op.Leads Machine.Unnoted takeSignal := fun m recording =>
    ⟨⟨recording.recorder, recording.scripted⟩, rfl⟩
  exact leads_awaitSignal Machine.unnoted_now takes d fuel

/-- **The accesses of a wait that came back**: none with interrupts, and with
polling those of its checks. -/
theorem awaitCompletion_noted (recording : m.Recording)
    (run : awaitCompletion ms m = (.ok outcome, m')) :
    ∃ waiting, m'.Recording ∧ m'.accesses.toList = m.accesses.toList ++ waiting
      ∧ (m.channel.mode = .interrupt → waiting = [])
      ∧ ∀ us, m.channel.mode = .polling us → ∃ d m₀ checks, afterMs ms m = (.ok d, m₀)
        ∧ Polls us d m₀ checks outcome m' ∧ waiting = checks.flatMap Machine.checked := by
  obtain ⟨looks, same⟩ := awaitCompletion_eq m ms
  obtain ⟨d, m₀, set, rest⟩ := bind_ok_inv (same.symm.trans run)
  have first := leads_afterMs Machine.unnoted_now ms m recording
  rw [set] at first
  rcases mode : m.channel.mode with _ | us
  all_goals rw [mode] at rest
  · have waited := unnoted_awaitSignal d looks m₀ first.1
    rw [show awaitSignal d looks m₀ = (.ok outcome, m') from rest] at waited
    refine ⟨[], waited.1, ?_, fun _ => rfl, fun us other => CompletionMode.noConfusion other⟩
    rw [waited.2, first.2, List.append_nil]
  · obtain ⟨checks, polls⟩ := polls_of_awaitStatus rest
    obtain ⟨recording', noted⟩ := polls.accesses first.1
    refine ⟨checks.flatMap Machine.checked, recording', ?_,
      fun other => CompletionMode.noConfusion other, ?_⟩
    · rw [noted, first.2]
    · intro us' same
      cases same
      exact ⟨d, m₀, checks, set, polls, rfl⟩

/-! ## Transfers -/

/-- **The traffic of a transfer that came back**, by way of the machines on which
it was started and on which the wait for it ended. -/
structure Traffic (m : Machine) (t : Transfer) (ms : UInt64) (m₁ m₂ : Machine)
    (outcome : Outcome) (waiting verified : List Access) (result : Except TransferError Unit)
    (m' : Machine) : Prop where
  started : launch t.source t.destination t.length m = (.ok (), m₁)
  waited : awaitCompletion ms m₁ = (.ok outcome, m₂)
  /-- After seven writes nothing is written any more. -/
  accesses : m'.accesses.toList = m.accesses.toList ++ (t.writes ++ waiting ++ verified)
  /-- With interrupts nothing is read during the wait. -/
  interrupt : m.channel.mode = .interrupt → waiting = []
  /-- With polling each check reads the status register that finds the slot
  empty. -/
  polling : ∀ us, m.channel.mode = .polling us → ∃ d m₀ checks, afterMs ms m₁ = (.ok d, m₀)
    ∧ Polls us d m₀ checks outcome m₂ ∧ waiting = checks.flatMap Machine.checked
  /-- After the wait it is read where it ended well and there are error bits to
  look for. -/
  last : verified = if outcome = .ready ∧ m.channel.errorMask ≠ 0
    then [.read Register.status.offset m₂.status] else []
  timeout : result = .error .timeout ↔ outcome = .timedOut
  engine : ∀ s, result = .error (.engine s)
    ↔ verified = [.read Register.status.offset s] ∧ Status.shows s m.channel.errorMask = true
  /-- In all other cases the transfer ended well. -/
  ok : result = .ok () ↔ outcome = .ready ∧ ∀ s, verified = [.read Register.status.offset s] →
    Status.shows s m.channel.errorMask = false

/-- The error bits that are looked for do not change with a start, nor does the
way the end is noticed. -/
theorem channel_launch (t : Transfer) (m : Machine) :
    (launch t.source t.destination t.length m).2.channel.mode = m.channel.mode
      ∧ (launch t.source t.destination t.length m).2.channel.errorMask = m.channel.errorMask := by
  have steady : Machine.Steady fun m => m.bare.channel :=
    ⟨fun same => congrArg Machine.channel same, fun t m => by rcases m with ⟨_ | _⟩ <;> rfl⟩
  have kept := (keeps_launch steady t.source t.destination t.length m).1
  exact ⟨(congrArg Channel.mode kept :), (congrArg Channel.errorMask kept :)⟩

/-- **After a wait that ended well** the status register is read once more where
there are error bits to look for, and what it shows decides. -/
theorem conclude_noted (recording : m.Recording) :
    ∃ verified, m.conclude.2.accesses.toList = m.accesses.toList ++ verified
      ∧ verified = (if m.channel.errorMask ≠ 0 then [.read Register.status.offset m.status] else [])
      ∧ m.conclude.1 ≠ .error .timeout
      ∧ (∀ s, m.conclude.1 = .error (.engine s) ↔ verified = [.read Register.status.offset s]
        ∧ Status.shows s m.channel.errorMask = true)
      ∧ (m.conclude.1 = .ok () ↔ ∀ s, verified = [.read Register.status.offset s] →
        Status.shows s m.channel.errorMask = false) := by
  unfold Machine.conclude
  by_cases none : m.channel.errorMask = 0
  · rw [if_pos none, if_neg (not_not.mpr none)]
    refine ⟨[], (List.append_nil _).symm, rfl, (fun h => nomatch h), fun s => ?_, ?_⟩
    · exact iff_of_false (fun h => nomatch h) (fun h => nomatch h.1)
    · exact iff_of_true rfl fun s h => nomatch h
  · rw [if_neg none, if_pos none]
    refine ⟨_, recording.readStatus.2, rfl, ?_⟩
    dsimp only
    rw [(Machine.readStatus_still m).1]
    cases shows : Status.shows m.status m.channel.errorMask with
    | true =>
      rw [if_pos rfl]
      refine ⟨(fun h => nomatch h), fun s => ⟨?_, ?_⟩, iff_of_false (fun h => nomatch h) ?_⟩
      · rintro ⟨⟩
        exact ⟨rfl, shows⟩
      · rintro ⟨⟨⟩, -⟩
        rfl
      · exact fun clear => Bool.noConfusion (shows.symm.trans (clear _ rfl))
    | false =>
      rw [if_neg Bool.false_ne_true]
      refine ⟨(fun h => nomatch h), fun s => iff_of_false (fun h => nomatch h) ?_,
        iff_of_true rfl ?_⟩
      · rintro ⟨⟨⟩, shown⟩
        exact Bool.noConfusion (shows.symm.trans shown)
      · rintro s ⟨⟩
        exact shows

/-- **A transfer that came back** has made its traffic. -/
theorem traffic_of_transfer {t : Transfer} {result : Except TransferError Unit}
    (recording : m.Recording)
    (run : transfer t.source t.destination t.length ms m = (.ok result, m')) :
    ∃ m₁ m₂ outcome waiting verified,
      Traffic m t ms m₁ m₂ outcome waiting verified result m' := by
  obtain ⟨m₁, launched, recording₁, wrote⟩ := launch_noted recording t
  have waits : wait ms m₁ = (.ok result, m') := (bind_ok launched).symm.trans run
  obtain ⟨outcome, m₂, awaited, rest⟩ := bind_ok_inv waits
  obtain ⟨waiting, recording₂, noted, interrupt, polling⟩ :=
    awaitCompletion_noted recording₁ awaited
  -- neither the start nor the wait changes what is looked for, or how
  have kept := channel_launch t m
  have kept' := (keeps_awaitCompletion ms m₁).1
  rw [launched] at kept
  rw [awaited] at kept'
  have mask : m₂.channel.errorMask = m.channel.errorMask :=
    (congrArg (fun b : Machine => b.channel.errorMask) kept' :).trans kept.2
  rw [kept.1] at interrupt polling
  rw [wrote, List.append_assoc] at noted
  cases outcome with
  | timedOut =>
    cases rest
    refine ⟨m₁, m', _, waiting, [], launched, awaited, ?_, interrupt, polling, rfl, ?_, ?_, ?_⟩
    · rw [noted, List.append_nil]
    · exact iff_of_true rfl rfl
    · exact fun s => iff_of_false (fun h => nomatch h) (fun h => nomatch h.1)
    · exact iff_of_false (fun h => nomatch h) (fun h => nomatch h.1)
  | ready =>
    obtain ⟨verified, read, last, untimed, engine, ok⟩ := conclude_noted recording₂
    obtain ⟨decided, rfl⟩ := Prod.mk.inj ((wait_of_ready awaited).symm.trans waits)
    rw [Except.ok.inj decided] at untimed engine ok
    rw [noted, List.append_assoc] at read
    rw [mask] at last engine ok
    refine ⟨m₁, m₂, _, waiting, verified, launched, awaited, read, interrupt, polling, ?_, ?_,
      engine, ?_⟩
    · exact last.trans (if_congr ⟨fun some => ⟨rfl, some⟩, And.right⟩ rfl rfl)
    · exact iff_of_false untimed (fun h => nomatch h)
    · exact ok.trans ⟨fun clear => ⟨rfl, clear⟩, And.right⟩

/-! ## Accesses made again -/

/-- **The accesses of a list made again**, whatever the reads among them tell
this time. -/
def redo : List Access → Act Unit
  | [] => pure ()
  | .read offset _ :: rest => do
    let _ ← readRegister offset
    redo rest
  | .write offset value :: rest => do
    writeRegister offset value
    redo rest

/-- The writes that start a transfer, made again, describe it and start it. -/
theorem redo_writes (t : Transfer) : redo t.writes = (do
    program t.source t.destination t.length
    writeRegister Register.control.offset Register.startBit) := by
  unfold program Register.program
  simp only [writeAll, bind_assoc, pure_bind]
  unfold Transfer.writes
  simp only [redo, bind_pure_unit]
  rfl

/-- **The writes that start a transfer carry all of it.** An engine to which they
are made has it in its log, whatever it was doing and however this start ends. -/
theorem transfers_redo (engine : m.HasEngine) (t : Transfer) :
    (redo t.writes m).2.transfers = m.transfers.push t := by
  obtain ⟨e, running⟩ := engine
  rw [redo_writes, start_apply running (show Register.startBit &&& Register.startBit ≠ 0 by decide),
    ← Machine.transfers_bare, (keeps_behave _ t _).1, Machine.transfers_bare,
    Machine.HasEngine.transfers_startedBy ⟨e, running⟩]

/-- **The register traffic of a transfer.** Whenever a transfer over recording
registers comes back, the accesses they have noted since are the seven writes that
start it, the reads of its wait and at most one read more, and the result is told
by the wait and by this last read. The seven writes say all there is to say about
the transfer: an engine to which they are made, in whatever state it is, notes
exactly this transfer. -/
theorem transfer_traffic {t : Transfer} {result : Except TransferError Unit}
    (recording : m.Recording)
    (run : transfer t.source t.destination t.length ms m = (.ok result, m')) :
    (∃ m₁ m₂ outcome waiting verified,
      Traffic m t ms m₁ m₂ outcome waiting verified result m')
    ∧ ∀ n : Machine, n.HasEngine → (redo t.writes n).2.transfers = n.transfers.push t :=
  ⟨traffic_of_transfer recording run, fun _ engine => transfers_redo engine t⟩

/-- A machine with recording registers, which show an error at the third read of
the clock. -/
def erring (mode : CompletionMode) : Machine :=
  { Command.freshMachine with
    clock := {}
    channel := { mode, errorMask := 0x80000000 }
    events := [⟨3, .status 0x80000004⟩] }

/-- A transfer whose values all have two halves. -/
def wide : Transfer := ⟨0x100000002, 0x300000004, 0xffffffffffffffff⟩

/-- A transfer that is polled for finds the error with its last access, and one
that is waited for with interrupts ends in a timeout and reads nothing. A busy
engine notes this transfer too. -/
theorem transfer_traffic_erring :
    (∃ waiting m', transfer wide.source wide.destination wide.length 5 (erring (.polling 0))
        = (.ok (.error (.engine 0x80000004)), m')
      ∧ m'.accesses.toList = wide.writes ++ waiting ++ [.read 0x1C 0x80000004])
    ∧ (∃ m', transfer wide.source wide.destination wide.length 5 (erring .interrupt)
        = (.ok (.error .timeout), m') ∧ m'.accesses.toList = wide.writes)
    ∧ (redo wide.writes { controller := .engine { busy := true } }).2.transfers = #[wide] := by
  have recording (mode : CompletionMode) : (erring mode).Recording :=
    ⟨⟨_, rfl⟩, fun e he => .inr ⟨_, congrArg Event.happening (List.mem_singleton.mp he)⟩⟩
  have failed := Op.apply_eq (show (transfer wide.source wide.destination wide.length 5
    (erring (.polling 0))).1 = .ok (.error (.engine 0x80000004)) by decide +kernel)
  have late := Op.apply_eq (show (transfer wide.source wide.destination wide.length 5
    (erring .interrupt)).1 = .ok (.error .timeout) by decide +kernel)
  obtain ⟨⟨_, _, _, waiting, _, polled⟩, redone⟩ := transfer_traffic (recording (.polling 0)) failed
  obtain ⟨⟨_, _, _, _, _, waited⟩, -⟩ := transfer_traffic (recording .interrupt) late
  refine ⟨⟨waiting, _, failed, ?_⟩, ⟨_, late, ?_⟩, redone _ ⟨_, rfl⟩⟩
  · rw [polled.accesses, ((polled.engine _).mp rfl).1]
    rfl
  · have timedOut := waited.timeout.mp rfl
    rw [waited.accesses, waited.interrupt rfl, waited.last, timedOut]
    rfl

end Act

end RemoteDisk
