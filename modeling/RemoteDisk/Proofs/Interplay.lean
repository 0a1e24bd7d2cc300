import RemoteDisk.Interplay
import RemoteDisk.Proofs.Twins

/-!
# No transfer is taken for done before it is copied

Worker and engine meet in three places: the slot, the status register and the
engine's busy flag. The handler tells nothing of its own, it carries a done
bit from the register to the slot. As the start clears the register, a done
bit that shows while the worker waits belongs to the worker's own transfer; as
the slot is empty at the start, what it holds then is no older. Both fail in
one place, between the emptying of the slot and the start bit, where the
register still shows the transfer before (`Interplay.stale`).

The engine publishes a status before it becomes free, so a worker that finds
the done bit at once may start the next transfer too early. It does not,
where nobody looks in between (`Interplay.hasty`).

One invariant carries both results (`Interplay.Kept`). It says how far the
transfer in hand has come (`Interplay.Stage`) and what follows for the slot,
the register and the flag; that the worker never looks hastily is a parameter
of it.
-/

namespace RemoteDisk

/-! ## Engines that put everything off -/

/-- **An engine that puts every transfer off.** -/
structure Engine.Deferring (e : Engine) : Prop where
  behavior : e.behavior.isSynchronous = false
  upcoming : ∀ b ∈ e.upcoming, b.isSynchronous = false

namespace Engine.Deferring

variable {e : Engine}

theorem takeBehavior (h : e.Deferring) : e.takeBehavior.Deferring := by
  obtain ⟨behavior, upcoming⟩ := Engine.takeBehavior_forall h.behavior h.upcoming
  exact ⟨behavior, upcoming⟩

/-- What the next start does is to put the transfer off. -/
theorem next (h : e.Deferring) : ∃ us, e.takeBehavior.behavior = .deferred us := by
  have put := h.takeBehavior.behavior
  rcases next : e.takeBehavior.behavior with _ | us | _ | _
  case deferred => exact ⟨us, rfl⟩
  all_goals
    rw [next] at put
    cases put

end Engine.Deferring

/-- The engine as the start bit leaves it, with the transfer it describes put
off. -/
def Engine.deferred (e : Engine) (us : UInt64) (t : Transfer) : Engine :=
  ((e.set Register.control.offset Register.startBit).started t).defer us t

namespace Engine

variable (e : Engine) (us : UInt64) (t : Transfer)

theorem status_deferred : (e.deferred us t).get .status = 0 := by
  rcases e with ⟨_, _, _, _ | _⟩ <;> exact get_set _ .status .status 0

theorem pending_deferred (none : e.pending = []) :
    ∃ due, (e.deferred us t).pending = [⟨due, t⟩] := by
  rcases e with ⟨_, _, _, _ | _⟩ <;> cases none <;> exact ⟨_, rfl⟩

theorem log_deferred : (e.deferred us t).log = e.log.push t := by
  rcases e with ⟨_, _, _, _ | _⟩ <;> rfl

theorem overlapped_deferred : (e.deferred us t).overlapped = (e.overlapped || e.busy) := by
  rcases e with ⟨_, _, _, _ | _⟩ <;> rfl

theorem Deferring.deferred {e : Engine} (h : e.Deferring) : (e.deferred us t).Deferring := by
  obtain ⟨behavior, upcoming⟩ := h.takeBehavior
  rcases e with ⟨_, _, _, _ | _⟩ <;> exact ⟨behavior, upcoming⟩

/-- Registers are written alike on an engine that has become free. -/
theorem writeAll_free (writes : List (Register × UInt32)) :
    Engine.writeAll { e with busy := false } writes = { e.writeAll writes with busy := false } := by
  induction writes generalizing e with
  | nil => rfl
  | cons w rest ih => exact ih (e.set w.1.offset w.2)

/-- What the registers describe does not depend on the control register. -/
theorem programmed_control (value : UInt32) :
    (e.set Register.control.offset value).programmed = e.programmed := by
  simp only [programmed, get_set, reduceCtorEq, if_false]

end Engine

namespace Act

open Op

variable {m : Machine} {e : Engine}

/-- **The start bit puts the transfer off** that the registers describe. -/
theorem setStart_deferring (engine : m.controller = .engine e) (deferring : e.Deferring) :
    ∃ us journal, setStart m = (.ok (), { m with
      controller := .engine (e.deferred us e.programmed), journal }) := by
  have after : (e.set Register.control.offset Register.startBit).Deferring :=
    ⟨deferring.behavior, deferring.upcoming⟩
  obtain ⟨us, next⟩ := after.next
  rw [setStart_apply engine (e.programmed_control _), next]
  refine ⟨us, (m.report .trace ("[EMU] start " ++ e.programmed.text)).journal, ?_⟩
  show (Except.ok (), Machine.mapEngine _ _) = _
  unfold Machine.mapEngine Machine.report
  rw [engine]
  rfl

/-- A copy changes memory alone. -/
theorem copy_frame (t : Transfer) (m : Machine) :
    (copy t m).2.controller = m.controller ∧ (copy t m).2.channel = m.channel
      ∧ (copy t m).2.wire = m.wire := by
  rw [copy_apply]
  split
  · exact ⟨rfl, rfl, rfl⟩
  · split
    · exact ⟨rfl, rfl, rfl⟩
    · cases m.window.locate t.destination t.length.toNat <;> exact ⟨rfl, rfl, rfl⟩

end Act

/-- **A machine before its first chunk**: a disk listens to its wire, nothing
is under way, and every transfer is going to be put off. The slot may be full,
and the register may show whatever it likes. -/
structure Machine.Unoccupied (m : Machine) : Prop where
  engine : ∃ e, m.controller = .engine e ∧ e.Deferring ∧ e.pending = [] ∧ e.busy = false
    ∧ e.overlapped = false
  wire : ∃ line, m.wire = some ⟨line, some (.disk (some line))⟩

/-- **A report that can be relied on**: where it says that all went well, the
transfer was the last to be started and the last to be copied, and it was
copied indeed, unless its bus error is none of the errors to look for. -/
def Report.Reliable (base : List Transfer) (mask : UInt32) (r : Report) : Prop :=
  r.result = .ok () → r.started = base ++ r.copied.map Prod.fst
    ∧ ∃ reached, r.copied.getLast? = some (r.transfer, reached)
      ∧ (reached = true ∨ Status.shows Engine.busError mask = false)

namespace Interplay

/-! ## The invariant -/

variable {careful : Prop} {base : List Transfer} {mask : UInt32} {s s' : Interplay} {e : Engine}
  {t : Transfer}

/-- **Nothing of any transfer is left** but to become free and to raise the
wire: all transfers were copied. -/
structure Done (base : List Transfer) (s : Interplay) (e : Engine) : Prop where
  pending : e.pending = []
  unpublished : s.unpublished = []
  log : e.log.toList = base ++ s.copied.map Prod.fst

/-- **The last transfer is over**: it was copied, and its status is
published. -/
structure Over (base : List Transfer) (s : Interplay) (e : Engine) (t : Transfer) : Prop
    extends Done base s e where
  last : ∃ reached, s.copied.getLast? = some (t, reached)
    ∧ e.get .status = e.doneBits ||| (if reached then 0 else Engine.busError)

/-- The engine is free. -/
structure Free (s : Interplay) (e : Engine) : Prop where
  unreleased : s.unreleased = 0
  busy : e.busy = false

/-- **Nothing is to be seen** of the transfer in hand. -/
structure Unseen (careful : Prop) (s : Interplay) (e : Engine) : Prop where
  slot : s.machine.channel.signaled = false
  status : e.get .status = 0
  unreleased : careful → s.unreleased = 0

/-- **How far the transfer has come** that the worker waits for. -/
inductive Stage (careful : Prop) (base : List Transfer) (s : Interplay) (e : Engine)
    (t : Transfer) : Prop
  /-- It is put off. -/
  | postponed (unseen : Unseen careful s e) (due : Nat) (pending : e.pending = [⟨due, t⟩])
      (unpublished : s.unpublished = []) (log : e.log.toList = base ++ s.copied.map Prod.fst ++ [t])
  /-- It is lost, for want of a buffer. -/
  | lost (unseen : Unseen careful s e) (pending : e.pending = []) (unpublished : s.unpublished = [])
  /-- It is copied, or could not be. -/
  | copied (unseen : Unseen careful s e) (reached : Bool) (pending : e.pending = [])
      (unpublished : s.unpublished = [reached]) (log : e.log.toList = base ++ s.copied.map Prod.fst)
      (last : s.copied.getLast? = some (t, reached))
  /-- It is over. Who looks carefully has not seen so before the engine is
  free. -/
  | published (finished : s.Over base e t) (free : careful → s.Free e
      ∨ s.unreleased = 1 ∧ s.machine.channel.signaled = false)

/-- **What holds where the worker stands.** -/
def Stands (careful : Prop) (base : List Transfer) (s : Interplay) (e : Engine) :
    Worker → Prop
  | .idle => s.Done base e ∧ (careful → s.Free e)
  | .describing t left => (s.Done base e ∧ (careful → s.Free e))
      ∧ (e.writeAll left).programmed = t ∧ ∀ w ∈ left, w.1 ≠ .control
  | .armed t => (s.Done base e ∧ (careful → s.Free e))
      ∧ e.programmed = t ∧ s.machine.channel.signaled = false
  | .waiting t | .peeking t => s.Stage careful base e t
  | .noticed t => s.Over base e t ∧ (careful → s.Free e)

/-- **The invariant of a run.** -/
structure Kept (careful : Prop) (base : List Transfer) (mask : UInt32) (s : Interplay)
    (e : Engine) : Prop where
  engine : s.machine.controller = .engine e
  deferring : e.Deferring
  wire : ∃ line, s.machine.wire = some ⟨line, some (.disk (some line))⟩
  errorMask : s.machine.channel.errorMask = mask
  apart : careful → e.overlapped = false
  stands : s.Stands careful base e s.worker
  reports : ∀ r ∈ s.reports, r.Reliable base mask

/-! ## Calls of the handler -/

/-- A stage is kept where the slot stays empty as long as it has to. -/
theorem Stage.refill {machine : Machine} {worker : Worker} {unraised : Nat}
    (h : s.Stage careful base e t)
    (unseen : e.get .status = 0 → s.machine.channel.signaled = false →
      machine.channel.signaled = false)
    (unhurried : careful → s.unreleased = 1 → s.machine.channel.signaled = false →
      machine.channel.signaled = false) :
    Stage careful base { s with machine, worker, unraised } e t := by
  cases h with
  | postponed u due pending unpublished log =>
    exact .postponed ⟨unseen u.status u.slot, u.status, u.unreleased⟩ due pending unpublished log
  | lost u pending unpublished =>
    exact .lost ⟨unseen u.status u.slot, u.status, u.unreleased⟩ pending unpublished
  | copied u reached pending unpublished log last =>
    exact .copied ⟨unseen u.status u.slot, u.status, u.unreleased⟩ reached pending unpublished log
      last
  | published finished free =>
    refine .published { finished with } fun c => ?_
    obtain free | ⟨one, empty⟩ := free c
    · exact .inl { free with }
    · exact .inr ⟨one, unhurried c one empty⟩

/-- An engine that becomes free leaves the transfer where it is. -/
theorem Stage.release {machine : Machine} {worker : Worker} {unraised : Nat}
    (h : s.Stage careful base e t) (due : s.unreleased ≠ 0)
    (slot : machine.channel.signaled = s.machine.channel.signaled) :
    Stage careful base { s with machine, worker, unreleased := s.unreleased - 1, unraised }
      { e with busy := false } t := by
  have unseen (u : s.Unseen careful e) : Unseen careful
      { s with machine, worker, unreleased := s.unreleased - 1, unraised }
      { e with busy := false } :=
    ⟨slot.trans u.slot, u.status, fun c => absurd (u.unreleased c) due⟩
  cases h with
  | postponed u due pending unpublished log =>
    exact .postponed (unseen u) due pending unpublished log
  | lost u pending unpublished => exact .lost (unseen u) pending unpublished
  | copied u reached pending unpublished log last =>
    exact .copied (unseen u) reached pending unpublished log last
  | published finished free =>
    refine .published { finished with } fun c => .inl ⟨?_, rfl⟩
    obtain free | ⟨one, -⟩ := free c
    · exact absurd free.unreleased due
    · show s.unreleased - 1 = 0
      rw [one]

namespace Kept

variable (k : s.Kept careful base mask e)
include k

theorem status : s.machine.status = e.get .status := by
  unfold Machine.status
  rw [k.engine]

/-- **A call of the handler** brings nothing into the slot that does not belong
there. -/
theorem called {move : Move} (call : calls move = true) (timely : s.stale move = false)
    (unhurried : careful → s.hasty move = false) (unraised : Nat) :
    Kept careful base mask { s with machine := s.machine.raise.2, unraised } e := by
  obtain ⟨counters, claims, handled, -⟩ := Machine.HasEngine.handleInterrupt_apply ⟨e, k.engine⟩
  rw [Machine.raise_of_wire k.wire, handled]
  refine ⟨k.engine, k.deferring, k.wire, k.errorMask, k.apart, ?_, k.reports⟩
  have silent (quiet : s.shows = false) (empty : s.machine.channel.signaled = false) :
      (s.machine.channel.signaled || Status.shows s.machine.status s.machine.channel.doneMask)
        = false := by
    rw [empty, Bool.false_or]
    exact quiet
  have clear (status : e.get .status = 0) : s.shows = false := by
    unfold Interplay.shows
    rw [k.status, status, Status.shows_zero]
  -- a call that found a done bit before the engine is free would be hasty
  have patient (c : careful) (one : s.unreleased = 1) : s.shows = false := by
    have quiet := unhurried c
    unfold hasty looks at quiet
    rw [one, call] at quiet
    exact quiet
  have stands := k.stands
  dsimp only
  rcases worker : s.worker with _ | _ | _ | _ | _ | _ <;> rw [worker] at stands
  case idle => exact ⟨{ stands.1 with }, fun c => { stands.2 c with }⟩
  case describing => exact ⟨⟨{ stands.1.1 with }, fun c => { stands.1.2 c with }⟩, stands.2⟩
  case armed =>
    -- a call that found a done bit before the start would be stale
    have quiet := timely
    unfold stale at quiet
    rw [worker, call] at quiet
    exact ⟨⟨{ stands.1.1 with }, fun c => { stands.1.2 c with }⟩, stands.2.1,
      silent quiet stands.2.2⟩
  case noticed => exact ⟨{ stands.1 with }, fun c => { stands.2 c with }⟩
  all_goals
    refine stands.refill ?_ ?_
    · exact fun status => silent (clear status)
    · exact fun c one => silent (patient c one)

/-! ## Steps of the worker -/

theorem began (idle : s.worker = .idle) (t : Transfer) (text : String) :
    Kept careful base mask { s with
      machine := s.machine.report .trace text
      worker := .describing t (Register.program t.source t.destination t.length) } e := by
  have stands := k.stands
  rw [idle] at stands
  refine ⟨k.engine, k.deferring, k.wire, k.errorMask, k.apart, ?_, k.reports⟩
  refine ⟨⟨{ stands.1 with }, fun c => { stands.2 c with }⟩, ?_, by simp [Register.program]⟩
  rw [← Engine.programmed_control _ 0, Engine.programmed_writeAll]

theorem described {r : Register} {value : UInt32} {left : List (Register × UInt32)}
    (describing : s.worker = .describing t ((r, value) :: left)) :
    Kept careful base mask { s with
      machine := (Act.writeRegister r.offset value s.machine).2
      worker := .describing t left } (e.set r.offset value) := by
  have stands := k.stands
  rw [describing] at stands
  obtain ⟨⟨done, free⟩, programmed, others⟩ := stands
  have quiet := Engine.starts_of_ne_control (others _ List.mem_cons_self) value
  have wrote : (Act.writeRegister r.offset value s.machine).2
      = { s.machine with controller := .engine (e.set r.offset value) } := by
    rw [Act.writeRegister_apply k.engine quiet, Machine.mapEngine, k.engine]
  rw [wrote]
  refine ⟨rfl, ⟨k.deferring.behavior, k.deferring.upcoming⟩, k.wire, k.errorMask, k.apart, ?_,
    k.reports⟩
  exact ⟨⟨{ done with }, fun c => { free c with }⟩, programmed,
    fun w hw => others w (List.mem_cons_of_mem _ hw)⟩

theorem emptied (describing : s.worker = .describing t []) :
    Kept careful base mask { s with machine := s.machine.resetSignal, worker := .armed t } e := by
  have stands := k.stands
  rw [describing] at stands
  obtain ⟨⟨done, free⟩, programmed, -⟩ := stands
  refine ⟨k.engine, k.deferring, k.wire, k.errorMask, k.apart, ?_, k.reports⟩
  exact ⟨⟨{ done with }, fun c => { free c with }⟩, programmed, rfl⟩

/-- **The start** puts the transfer off, clears the register and finds the
slot empty. -/
theorem started (armed : s.worker = .armed t) :
    ∃ e', Kept careful base mask
      { s with machine := (Act.setStart s.machine).2, worker := .waiting t } e' := by
  have stands := k.stands
  rw [armed] at stands
  obtain ⟨⟨done, free⟩, rfl, empty⟩ := stands
  obtain ⟨us, journal, set⟩ := Act.setStart_deferring k.engine k.deferring
  rw [set]
  refine ⟨e.deferred us e.programmed, rfl, k.deferring.deferred us _, k.wire, k.errorMask,
    fun c => ?_, ?_, k.reports⟩
  · rw [Engine.overlapped_deferred, k.apart c, (free c).busy]
    rfl
  · obtain ⟨due, pending⟩ := e.pending_deferred us e.programmed done.pending
    refine .postponed ⟨empty, e.status_deferred us _, fun c => (free c).unreleased⟩ due pending
      done.unpublished ?_
    rw [Engine.log_deferred, Array.toList_push, done.log]

/-- **A look at the slot** finds it full only where the transfer is over. -/
theorem looked (waiting : s.worker = .waiting t) :
    ∃ e', Kept careful base mask { s with
      machine := s.machine.resetSignal
      worker := if s.machine.channel.signaled then .noticed t
        else if s.machine.channel.mode = .interrupt then .waiting t else .peeking t } e' := by
  have stands := k.stands
  rw [waiting] at stands
  refine ⟨e, k.engine, k.deferring, k.wire, k.errorMask, k.apart, ?_, k.reports⟩
  have further (w : Worker) : Stage careful base
      { s with machine := s.machine.resetSignal, worker := w } e t :=
    Stage.refill stands (fun _ _ => rfl) fun _ _ _ => rfl
  cases slot : s.machine.channel.signaled
  · rw [if_neg Bool.false_ne_true]
    split
    · exact further _
    · exact further _
  · rw [if_pos rfl]
    cases stands with
    | postponed u | lost u | copied u => exact absurd (u.slot.symm.trans slot) Bool.false_ne_true
    | published finished free =>
      refine ⟨{ finished with }, fun c => ?_⟩
      obtain free | ⟨-, empty⟩ := free c
      · exact { free with }
      · exact absurd (empty.symm.trans slot) Bool.false_ne_true

/-- **A look at the register** finds a done bit only where the transfer is
over. -/
theorem peeked (peeking : s.worker = .peeking t)
    (unhurried : careful → s.hasty .work = false) :
    Kept careful base mask { s with
      worker := if s.shows then .noticed t else .waiting t } e := by
  have stands := k.stands
  rw [peeking] at stands
  refine ⟨k.engine, k.deferring, k.wire, k.errorMask, k.apart, ?_, k.reports⟩
  cases shown : s.shows
  · exact Stage.refill stands (fun _ => id) fun _ _ => id
  · have seen (u : s.Unseen careful e) : False := by
      unfold Interplay.shows at shown
      rw [k.status, u.status, Status.shows_zero] at shown
      cases shown
    cases stands with
    | postponed u | lost u | copied u => exact (seen u).elim
    | published finished free =>
      refine ⟨{ finished with }, fun c => ?_⟩
      obtain free | ⟨one, -⟩ := free c
      · exact { free with }
      · -- the look would have been hasty
        have quiet := unhurried c
        unfold hasty looks at quiet
        rw [one, peeking, shown] at quiet
        cases quiet

/-- **A report** tells of the transfer that was started and copied last. -/
theorem concluded (noticed : s.worker = .noticed t) :
    Kept careful base mask { s with
      machine := s.machine.conclude.2
      worker := .idle
      reports := s.reports
        ++ [⟨t, s.machine.conclude.1, s.machine.conclude.2.transfers.toList, s.copied⟩] } e := by
  have stands := k.stands
  rw [noticed] at stands
  obtain ⟨finished, free⟩ := stands
  obtain ⟨reached, last, status⟩ := finished.last
  have concluded : s.machine.conclude = (if mask = 0 then .ok () else
      if Status.shows (e.get .status) mask then .error (.engine (e.get .status)) else .ok (),
      s.machine) := by
    unfold Machine.conclude
    rw [Machine.HasEngine.readStatus ⟨e, k.engine⟩, k.errorMask, k.status]
    dsimp only
    split <;> rfl
  rw [concluded]
  refine ⟨k.engine, k.deferring, k.wire, k.errorMask, k.apart,
    ⟨{ finished with }, fun c => { free c with }⟩, fun r hr => ?_⟩
  obtain hr | hr := List.mem_append.mp hr
  · exact k.reports r hr
  obtain rfl := List.mem_singleton.mp hr
  intro well
  refine ⟨?_, reached, last, ?_⟩
  · show s.machine.transfers.toList = _
    unfold Machine.transfers Machine.engine?
    rw [k.engine]
    exact finished.log
  · cases reached
    · refine .inr ?_
      by_cases none : mask = 0
      · rw [none]
        rfl
      · rw [if_neg none, status, Status.shows_or] at well
        rcases shown : Status.shows Engine.busError mask
        · rfl
        · rw [if_neg Bool.false_ne_true, shown, Bool.or_true, if_pos rfl] at well
          cases well
    · exact .inl rfl

/-! ## Steps of the engine -/

/-- Where anything is still to be copied or published, it is the transfer the
worker waits for. -/
theorem inHand (under : e.pending ≠ [] ∨ s.unpublished ≠ []) :
    ∃ t, (s.worker = .waiting t ∨ s.worker = .peeking t) ∧ s.Stage careful base e t := by
  have stands := k.stands
  have finished (done : s.Done base e) : False :=
    under.elim (fun h => h done.pending) fun h => h done.unpublished
  rcases worker : s.worker with _ | _ | _ | t | t | _ <;> rw [worker] at stands
  case waiting => exact ⟨t, .inl rfl, stands⟩
  case peeking => exact ⟨t, .inr rfl, stands⟩
  case idle => exact (finished stands.1).elim
  case noticed => exact (finished stands.1.toDone).elim
  all_goals exact (finished stands.1.1).elim

omit k in
/-- A new stage of the transfer the worker waits for. -/
theorem Stands.of_stage {w : Worker} (waits : w = .waiting t ∨ w = .peeking t)
    (h : s.Stage careful base e t) : s.Stands careful base e w := by
  obtain rfl | rfl := waits
  · exact h
  · exact h

/-- **A copy** is one of the transfer the worker waits for. -/
theorem copied {i : Nat} (step : s.copy i = some s') : ∃ e', Kept careful base mask s' e' := by
  have pending : s.machine.pending = e.pending := by
    unfold Machine.pending Machine.engine?
    rw [k.engine]
    rfl
  unfold Interplay.copy at step
  rw [pending] at step
  rcases found : e.pending[i]? with _ | postponed
  · rw [found] at step
    cases step
  have some : e.pending ≠ [] := fun none => by
    rw [none] at found
    cases found
  obtain ⟨t, waits, stage⟩ := k.inHand (.inl some)
  cases stage with
  | lost _ none => exact absurd none some
  | copied _ _ none => exact absurd none some
  | published finished => exact absurd finished.pending some
  | postponed u due single unpublished log =>
    -- there is one to choose from
    rcases i with _ | i <;> rw [single] at found step <;> cases found
    dsimp only [List.getElem?_cons_zero, Option.bind_eq_bind, Option.bind_some] at step
    generalize same : (s.machine.mapEngine fun e => { e with pending := e.pending.eraseIdx 0 })
      = taken at step
    have before : taken.controller = .engine { e with pending := [] } := by
      rw [← same, Machine.controller_mapEngine k.engine, single]
      rfl
    obtain ⟨engine, channel, wire⟩ := Act.copy_frame t taken
    rw [before] at engine
    rw [← same, Machine.channel_mapEngine, same] at channel
    rw [← same, Machine.wire_mapEngine, same] at wire
    generalize Act.copy t taken = ended at step engine channel wire
    have kept {s' : Interplay} (machine : s'.machine = ended.2) (worker : s'.worker = s.worker)
        (reports : s'.reports = s.reports)
        (stage : s'.Stage careful base { e with pending := [] } t) :
        Kept careful base mask s' { e with pending := [] } := by
      refine ⟨?_, ⟨k.deferring.behavior, k.deferring.upcoming⟩, ?_, ?_, k.apart, ?_, ?_⟩
      · rw [machine]
        exact engine
      · rw [machine, wire]
        exact k.wire
      · rw [machine, channel]
        exact k.errorMask
      · rw [worker]
        exact Stands.of_stage waits stage
      · rw [reports]
        exact k.reports
    have empty : ended.2.channel.signaled = false := by
      rw [channel]
      exact u.slot
    rcases ended with ⟨_ | reached, machine⟩ <;> cases step
    · exact ⟨_, kept rfl rfl rfl (.lost ⟨empty, u.status, u.unreleased⟩ rfl unpublished)⟩
    · refine ⟨_, kept rfl rfl rfl (.copied ⟨empty, u.status, u.unreleased⟩ reached rfl ?_ ?_
        List.getLast?_concat)⟩
      · rw [unpublished]
        rfl
      · rw [List.map_append, ← List.append_assoc]
        exact log

/-- **A status that is published** is that of the transfer the worker waits
for. -/
theorem published {i : Nat} (step : s.publish i = some s') :
    ∃ e', Kept careful base mask s' e' := by
  unfold Interplay.publish at step
  rcases found : s.unpublished[i]? with _ | reached
  · rw [found] at step
    cases step
  have some : s.unpublished ≠ [] := fun none => by
    rw [none] at found
    cases found
  obtain ⟨t, waits, stage⟩ := k.inHand (.inr some)
  cases stage with
  | lost _ _ none => exact absurd none some
  | postponed _ _ _ none => exact absurd none some
  | published finished => exact absurd finished.unpublished some
  | copied u reached' pending single log last =>
    rcases i with _ | i <;> rw [single] at found step <;> cases found
    cases step
    have published : s.machine.publish (if reached then 0 else Engine.busError)
        = { s.machine with
          controller := .engine (e.setStatus (e.doneBits ||| if reached then 0
            else Engine.busError)) } := by
      rw [Machine.publish, Machine.mapEngine, k.engine]
    rw [published]
    refine ⟨_, rfl, ⟨k.deferring.behavior, k.deferring.upcoming⟩, k.wire, k.errorMask, k.apart,
      Stands.of_stage waits ?_, k.reports⟩
    refine .published ⟨⟨pending, rfl, log⟩, reached, last, ?_⟩ fun c => .inr ⟨?_, u.slot⟩
    · exact e.get_set .status .status _
    · show s.unreleased + 1 = 1
      rw [u.unreleased c]

/-- **An engine that becomes free** is free for the next transfer. -/
theorem released (due : s.unreleased ≠ 0) :
    ∃ e', Kept careful base mask { s with
      machine := s.machine.release
      unreleased := s.unreleased - 1
      unraised := s.unraised + 1 } e' := by
  have released : s.machine.release
      = { s.machine with controller := .engine { e with busy := false } } := by
    rw [Machine.release, Machine.mapEngine, k.engine]
  have held (free : careful → s.Free e) (c : careful) : False := due (free c).unreleased
  have stands := k.stands
  rw [released]
  refine ⟨_, rfl, ⟨k.deferring.behavior, k.deferring.upcoming⟩, k.wire, k.errorMask, k.apart, ?_,
    k.reports⟩
  dsimp only
  rcases worker : s.worker with _ | _ | _ | _ | _ | _ <;> rw [worker] at stands
  case idle => exact ⟨{ stands.1 with }, fun c => (held stands.2 c).elim⟩
  case describing =>
    refine ⟨⟨{ stands.1.1 with }, fun c => (held stands.1.2 c).elim⟩, ?_, stands.2.2⟩
    rw [Engine.writeAll_free]
    exact stands.2.1
  case armed => exact ⟨⟨{ stands.1.1 with }, fun c => (held stands.1.2 c).elim⟩, stands.2⟩
  case waiting => exact Stage.release stands due rfl
  case peeking => exact Stage.release stands due rfl
  case noticed => exact ⟨{ stands.1 with }, fun c => (held stands.2 c).elim⟩

/-! ## Steps and runs -/

theorem worked (unhurried : careful → s.hasty .work = false) (step : s.work = some s') :
    ∃ e', Kept careful base mask s' e' := by
  unfold Interplay.work at step
  rw [Machine.HasEngine.readStatus ⟨e, k.engine⟩] at step
  rcases worker : s.worker with _ | ⟨t, _ | ⟨⟨r, value⟩, left⟩⟩ | t | t | t | t <;>
    rw [worker] at step <;> cases step
  case describing.nil => exact ⟨e, k.emptied worker⟩
  case describing.cons => exact ⟨_, k.described worker⟩
  case armed => exact k.started worker
  case waiting => exact k.looked worker
  case peeking => exact ⟨e, k.peeked worker unhurried⟩
  case noticed => exact ⟨e, k.concluded worker⟩

/-- **One step** keeps the invariant, unless it looks at the register at a
wrong time. -/
theorem step {move : Move} (timely : s.stale move = false)
    (unhurried : careful → s.hasty move = false) (step : s.step move = some s') :
    ∃ e', Kept careful base mask s' e' := by
  cases move with
  | begin t =>
    dsimp only [Interplay.step] at step
    split at step
    · next idle =>
      cases step
      exact ⟨e, k.began idle t _⟩
    · cases step
  | work => exact k.worked unhurried step
  | copy i => exact k.copied step
  | publish i => exact k.published step
  | release =>
    dsimp only [Interplay.step] at step
    split at step
    · cases step
    · next due =>
      cases step
      exact k.released due
  | raise =>
    dsimp only [Interplay.step] at step
    split at step
    · cases step
    · cases step
      exact ⟨e, k.called rfl timely unhurried _⟩
  | interrupt =>
    cases step
    exact ⟨e, k.called rfl timely unhurried s.unraised⟩

omit k in
/-- **A run** keeps the invariant, whatever its steps are. -/
theorem run {allowed : Interplay → Move → Bool}
    (timely : ∀ s move, allowed s move = true →
      s.stale move = false ∧ (careful → s.hasty move = false))
    {moves : List Move} (k : s.Kept careful base mask e)
    (run : Interplay.run allowed moves s = some s') : ∃ e', Kept careful base mask s' e' := by
  unfold Interplay.run at run
  induction moves generalizing s e with
  | nil =>
    cases run
    exact ⟨e, k⟩
  | cons move rest ih =>
    rw [List.foldlM_cons] at run
    obtain ⟨s₁, first, rest⟩ := Option.bind_eq_some_iff.mp run
    split at first
    · next ok =>
      obtain ⟨stale, hasty⟩ := timely s move ok
      obtain ⟨e₁, k₁⟩ := k.step stale hasty first
      exact ih k₁ rest
    · cases first

end Kept

/-! ## Early completions -/

/-- A run is also a run where more is allowed. -/
theorem run_mono {allowed allowed' : Interplay → Move → Bool}
    (more : ∀ s move, allowed s move = true → allowed' s move = true) {moves : List Move}
    (ran : run allowed moves s = some s') : run allowed' moves s = some s' := by
  unfold run at ran ⊢
  induction moves generalizing s with
  | nil => exact ran
  | cons move rest ih =>
    rw [List.foldlM_cons] at ran ⊢
    obtain ⟨s₁, first, rest⟩ := Option.bind_eq_some_iff.mp ran
    split at first
    · next ok =>
      rw [if_pos (more s move ok), first]
      exact ih rest
    · cases first

/-- The invariant holds at the start. -/
theorem Kept.start {m : Machine} (h : m.Unoccupied) (careful : Prop) :
    ∃ e, Kept careful m.transfers.toList m.channel.errorMask { machine := m } e := by
  obtain ⟨⟨e, engine, deferring, pending, busy, overlapped⟩, wire⟩ := h
  have log : m.transfers = e.log := by
    unfold Machine.transfers Machine.engine?
    rw [engine]
    rfl
  refine ⟨e, engine, deferring, wire, rfl, fun _ => overlapped, ?_, fun _ h => nomatch h⟩
  refine ⟨⟨pending, rfl, ?_⟩, fun _ => ⟨rfl, busy⟩⟩
  rw [log]
  exact (List.append_nil _).symm

/-- **No transfer is taken for done before it is copied**, whatever the order
of steps is and whenever interrupts arrive, as long as no call of the handler
finds a done bit between the emptying of the slot and the start bit. Where the
worker comes back well, its own transfer was the last to be started and the
last to be copied, all others being copied too, and it was copied indeed,
unless its bus error is none of the errors to look for. If moreover nobody
finds a done bit before the engine is free, no transfer is started while
another is running. -/
theorem ok_after_copy {m : Machine} (h : m.Unoccupied) :
    (∀ moves s, run (fun s move => !s.stale move) moves { machine := m } = some s →
      ∀ r ∈ s.reports, r.result = .ok () →
        r.started = m.transfers.toList ++ r.copied.map Prod.fst
          ∧ ∃ reached, r.copied.getLast? = some (r.transfer, reached)
            ∧ (reached = true ∨ Status.shows Engine.busError m.channel.errorMask = false))
    ∧ ∀ moves s,
      run (fun s move => !s.stale move && !s.hasty move) moves { machine := m } = some s →
        s.machine.overlapped = false := by
  refine ⟨fun moves s ran => ?_, fun moves s ran => ?_⟩
  · obtain ⟨e, k⟩ := Kept.start h False
    have timely (s : Interplay) (move : Move) (ok : (!s.stale move) = true) :
        s.stale move = false ∧ (False → s.hasty move = false) :=
      ⟨Bool.not_eq_true' _ |>.mp ok, False.elim⟩
    obtain ⟨e', k'⟩ := Kept.run timely k ran
    exact k'.reports
  · obtain ⟨e, k⟩ := Kept.start h True
    have timely (s : Interplay) (move : Move) (ok : (!s.stale move && !s.hasty move) = true) :
        s.stale move = false ∧ (True → s.hasty move = false) := by
      simpa using ok
    obtain ⟨e', k'⟩ := Kept.run timely k ran
    unfold Machine.overlapped Machine.engine?
    rw [k'.engine]
    exact k'.apart trivial

/-- Two chunks, with interrupts during the first and the wire raised late for
it, while the second is being described. -/
theorem ok_after_copy_two_chunks :
    let t : Transfer := ⟨0x1000, 0x80000000, 16⟩
    let m : Machine :=
      { controller := .engine { doneBits := 4, behavior := .deferred 10 }
        window := { base := 0x1000, size := 64 }
        channel := { mode := .polling 10, errorMask := Engine.busError }
        wire := some ⟨33, some (.disk (some 33))⟩ }
    let launch := .begin t :: List.replicate 8 .work
    let moves := launch ++ [.interrupt, .work, .work, .copy 0, .interrupt, .work, .publish 0,
      .release, .work, .work, .begin t, .work, .raise] ++ List.replicate 7 .work
      ++ [.copy 0, .publish 0, .release, .raise, .work, .work]
    ∃ s, run (fun s move => !s.stale move && !s.hasty move) moves { machine := m } = some s
      ∧ s.reports.length = 2 ∧ (∀ r ∈ s.reports, r.result = .ok ())
      ∧ (∀ r ∈ s.reports, r.started = m.transfers.toList ++ r.copied.map Prod.fst
        ∧ ∃ reached, r.copied.getLast? = some (r.transfer, reached)
          ∧ (reached = true ∨ Status.shows Engine.busError m.channel.errorMask = false))
      ∧ s.machine.overlapped = false := by
  intro t m launch moves
  have unoccupied : m.Unoccupied :=
    ⟨⟨_, rfl, ⟨rfl, fun _ h => nomatch h⟩, rfl, rfl, rfl⟩, 33, rfl⟩
  obtain ⟨copied, apart⟩ := ok_after_copy unoccupied
  have ran : ∃ s ∈ run (fun s move => !s.stale move && !s.hasty move) moves { machine := m },
      s.reports.length = 2 ∧ ∀ r ∈ s.reports, r.result = .ok () := by
    decide +kernel
  obtain ⟨s, ran, two, well⟩ := ran
  have timely : run (fun s move => !s.stale move) moves { machine := m } = some s :=
    run_mono (fun _ _ ok => (Bool.and_eq_true_iff.mp ok).1) ran
  exact ⟨s, ran, two, well, fun r hr => copied moves s timely r hr (well r hr),
    apart moves s ran⟩

/-- **Steps in any order are not safe.** Calls of the handler at a wrong time make
the worker take a transfer for done that is still put off, or start one while
another is running; polling alone may do the latter. A transfer that could not
be copied is taken for done where nobody asks for its error. -/
theorem ok_without_copy :
    let t : Transfer := ⟨0x1000, 0x80000000, 16⟩
    let m (mode : CompletionMode) : Machine :=
      { controller := .engine { doneBits := 4, behavior := .deferred 10 }
        window := { base := 0x1000, size := 64 }
        channel := { mode }
        wire := some ⟨33, some (.disk (some 33))⟩ }
    let launch (t : Transfer) : List Move := .begin t :: List.replicate 8 .work
    let finish : List Move := [.copy 0, .publish 0, .release, .raise]
    let always (_ : Interplay) (_ : Move) := true
    (∃ s ∈ run always (launch t ++ finish ++ [.work, .work] ++ .begin t :: List.replicate 7 .work
        ++ [.interrupt, .work, .work, .work]) { machine := m .interrupt },
      ∃ r ∈ s.reports, r.result = .ok () ∧ r.started = [t, t] ∧ r.copied = [(t, true)])
    ∧ (∃ s ∈ run always (launch t ++ [.copy 0, .publish 0, .interrupt, .work, .work] ++ launch t)
        { machine := m .interrupt }, s.machine.overlapped = true)
    ∧ (∃ s ∈ run always (launch t ++ [.copy 0, .publish 0, .work, .work, .work] ++ launch t)
        { machine := m (.polling 10) }, s.machine.overlapped = true)
    ∧ ∃ s ∈ run always (launch ⟨0x1000, 0x80000000, 65⟩ ++ finish ++ [.work, .work])
        { machine := m .interrupt },
      ∃ r ∈ s.reports, r.result = .ok () ∧ r.copied = [(r.transfer, false)] := by
  decide +kernel

end Interplay

end RemoteDisk
