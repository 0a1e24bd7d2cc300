import RemoteDisk.Device.Sectors
import RemoteDisk.Proofs.Diagnostics
import RemoteDisk.Proofs.Submit

/-!
# The counters are accounted for

The counters of a disk are written in two places: a request counts its
transfers as they end, and the interrupt handler counts what it claims. What
they tell can be checked from outside: against the engine's log, against the
answers the handler gave, and against the results that requests came back
with.

A `Session` holds a disk's machine and what was seen from outside since the
counters were last zero, and `Session.step` is one call of the disk. Of a
call it is shown once what it does to the accounts (`Session.step_balanced`);
that they are balanced after any sequence of calls follows by induction on
the calls (`Session.run_balanced`). Neither the engine's behaviour nor the
interrupts that arrive meanwhile take part in the argument, because a
request only ever takes one of the courses of its pieces.
-/

namespace RemoteDisk

/-- How many transfers the counters know of, well ended or failed. -/
def Counters.started (c : Counters) : UInt64 := c.reads + c.writes + c.errors

/-! ## What a request is charged -/

/-- **The ways in which a request is charged to the counters**, with what it
adds to the engine's log. -/
inductive Device.Charged (d : Device) (r : Request) (before : Counters) (log : List Transfer) :
    Except Fault (Except BlockError Unit) → Counters → List Transfer → Prop
  /-- A request that is turned down is not charged. -/
  | rejected {result : Except Fault (Except BlockError Unit)} (why : d.Refuses r result) :
      Charged d r before log result before log
  /-- A request that succeeds is charged all its pieces, in its own
  direction. -/
  | succeeded {direction : Direction} (way : r.operation.direction? = some direction) :
      Charged d r before log (.ok (.ok ())) (direction.counted (d.pieces r).length before)
        (log ++ (d.pieces r).map (Piece.transfer d.bounce))
  /-- A request whose piece `k` fails is charged the pieces before it and one
  failure. -/
  | failed {direction : Direction} (way : r.operation.direction? = some direction) {k : Nat}
      (hk : k < (d.pieces r).length) (cause : TransferError) :
      Charged d r before log (.ok (.error (.transfer cause)))
        (cause.count (direction.counted k before))
        (log ++ ((d.pieces r).take (k + 1)).map (Piece.transfer d.bounce))
  /-- A request that waits for its piece `k` without end was charged the
  pieces before it. -/
  | endless {direction : Direction} (way : r.operation.direction? = some direction) {k : Nat}
      (hk : k < (d.pieces r).length) :
      Charged d r before log (.error .endless) (direction.counted k before)
        (log ++ ((d.pieces r).take (k + 1)).map (Piece.transfer d.bounce))

/-- The failed transfer that a request came back with, if it did. -/
def Device.failure? : Except Fault (Except BlockError Unit) → Option TransferError
  | .ok (.error (.transfer cause)) => some cause
  | .ok (.error .unsupported) | .ok (.error .outOfRange) | .ok (.ok ()) | .error _ => none

namespace Device.Charged

variable {d : Device} {r : Request} {before after : Counters} {log log' : List Transfer}
  {result : Except Fault (Except BlockError Unit)}

/-- What a request is charged does not depend on the counter of
interrupts. -/
theorem withoutIrqs (c : Charged d r before log result after log') :
    Charged d r before.withoutIrqs log result after.withoutIrqs log' := by
  cases c with
  | rejected why => exact .rejected why
  | succeeded way =>
    rw [Direction.counted_withoutIrqs]
    exact .succeeded way
  | failed way hk cause =>
    rw [TransferError.count_withoutIrqs, Direction.counted_withoutIrqs]
    exact .failed way hk cause
  | endless way hk =>
    rw [Direction.counted_withoutIrqs]
    exact .endless way hk

/-- A request counts no interrupts. -/
theorem irqs (c : Charged d r before log result after log') : after.irqs = before.irqs := by
  have counted (direction : Direction) (n : Nat) :
      (direction.counted n before).irqs = before.irqs := by
    cases direction <;> rfl
  cases c with
  | rejected why => rfl
  | succeeded way => exact counted _ _
  | failed way hk cause => cases cause <;> exact counted _ _
  | endless way hk => exact counted _ _

/-- **What a request starts is counted**, as long as it comes back. -/
theorem started (c : Charged d r before log result after log')
    (returns : result ≠ .error .endless) :
    after.started + UInt64.ofNat log.length = before.started + UInt64.ofNat log'.length := by
  have counted (direction : Direction) (n : Nat) :
      (direction.counted n before).started = before.started + UInt64.ofNat n := by
    cases direction <;> unfold Counters.started Direction.counted <;> grind
  cases c with
  | rejected why => rfl
  | @succeeded direction way =>
    rw [counted, List.length_append, List.length_map, UInt64.ofNat_add]
    grind
  | @failed direction way k hk cause =>
    -- `k` pieces that were moved, and the one that failed
    have failure : (cause.count (direction.counted k before)).started
        = (direction.counted k before).started + 1 := by
      cases cause <;> exact (UInt64.add_assoc _ _ _).symm
    have length : ((d.pieces r).take (k + 1)).length = k + 1 := List.length_take_of_le hk
    rw [failure, counted, List.length_append, List.length_map, length, UInt64.ofNat_add,
      UInt64.ofNat_add]
    grind
  | endless => exact absurd rfl returns

/-- **A request that fails is counted once**, and once more where it timed
out. -/
theorem errors (c : Charged d r before log result after log') :
    after.errors = before.errors + UInt64.ofNat (if (failure? result).isSome then 1 else 0)
      ∧ after.timeouts
        = before.timeouts + UInt64.ofNat (if failure? result = some .timeout then 1 else 0) := by
  have none (x : UInt64) : x = x + UInt64.ofNat 0 := (UInt64.add_zero x).symm
  cases c with
  | rejected why => cases why <;> exact ⟨none _, none _⟩
  | @succeeded direction way => cases direction <;> exact ⟨none _, none _⟩
  | @failed direction way k hk cause =>
    cases cause with
    | timeout => cases direction <;> exact ⟨rfl, rfl⟩
    | engine status => cases direction <;> exact ⟨rfl, none _⟩
  | @endless direction way k hk => cases direction <;> exact ⟨none _, none _⟩

end Device.Charged

/-- **Every request is charged in one of these ways**, beyond the interrupts
that are claimed while it is served. -/
theorem Device.submit_charged {d : Device} (sound : d.Sound)
    (room : d.config.HasRoom) (r : Request)
    {m : Machine} (engine : m.HasEngine) :
    d.Charged r m.bare.counters m.transfers.toList ((d.submit r).runOn m).1.result
      ((d.submit r).runOn m).2.bare.counters ((d.submit r).runOn m).2.transfers.toList := by
  rw [Serve.runOn_result, Serve.runOn_machine, ← Machine.transfers_bare m,
    ← Machine.transfers_bare (d.submit r { machine := m }).2.machine]
  rcases submit_course sound room { machine := m } engine with
    ⟨refused, bare⟩ | ⟨direction, result, way, -, ended, course⟩
  · rw [bare]
    exact .rejected refused
  · have way' : ∀ p ∈ d.pieces r, p.body.direction = direction := fun p hp =>
      Option.some.inj ((direction_of_mem_pieces sound hp).symm.trans way)
    rw [ended]
    rcases course.account (Machine.hasEngine_bare.mpr engine) way' with
      ⟨rfl, counters, log⟩ | ⟨k, hk, log, ⟨cause, rfl, counters⟩ | ⟨rfl, counters⟩⟩
    · rw [counters, log]
      exact .succeeded way
    · rw [counters, log]
      exact .failed way hk cause
    · rw [counters, log]
      exact .endless way hk

/-! ## Calls of a disk -/

namespace Device

/-- **What a disk is called for.** -/
inductive Call where
  /-- A request, with the cause where it fails. -/
  | submit (r : Request)
  /-- A request as the block layer makes it. -/
  | queue (r : Request)
  /-- Whole sectors read. -/
  | readSectors (block : UInt64) (buffer : ByteArray)
  /-- Whole sectors written. -/
  | writeSectors (block : UInt64) (data : ByteArray)
  /-- A diagnostic command. -/
  | ioctl (number : UInt32) (out : ByteArray)
  /-- The counters set to zero. -/
  | resetCounters
  /-- An interrupt on some line. -/
  | interrupt (line : UInt32)
  /-- The handler itself, asked on no line at all. -/
  | check
  /-- The interrupt wire raised. -/
  | raise
  /-- The disk put on the wire. -/
  | attach (line : UInt32)
  /-- The disk taken off the wire. -/
  | detach

namespace Call

/-- A request that is served on the machine and whose result is not looked
at. -/
def serving {α : Type} (serve : Serve α) : Act Unit := fun m =>
  ((serve.runOn m).1.result.map (fun _ => ()), (serve.runOn m).2)

/-- **One call**, with all it does to the machine. -/
def run (d : Device) : Call → Act Unit
  | submit r => serving (d.submit r)
  | queue r => serving (d.queue r)
  | readSectors block buffer => serving (d.readSectors block buffer)
  | writeSectors block data => serving (d.writeSectors block data)
  | ioctl number out => do let _ ← d.ioctl number out
  | resetCounters => Device.resetCounters
  | interrupt line => modify (fun m => (d.handle line m).2)
  | check => modify (fun m => m.handleInterrupt.2)
  | raise => modify (fun m => m.raise.2)
  | attach line => modify (d.attach line)
  | detach => modify Machine.detach

/-- **The request that a call makes**, if it makes one. -/
def request? (d : Device) : Call → Option Request
  | submit r | queue r => some r
  | readSectors block buffer =>
    (d.checkRange block buffer.size).toOption.map (fun sector => Request.read sector [buffer])
  | writeSectors block data =>
    (d.checkRange block data.size).toOption.map (fun sector => Request.write sector [data])
  | ioctl _ _ | resetCounters | interrupt _ | check | raise | attach _ | detach => none

/-- **Whether a call sets the counters to zero**, by itself or by a
diagnostic command. -/
def resets : Call → Bool
  | ioctl number _ =>
    match Diagnostic.ofNumber? number with
    | .ok .resetStats => true
    | .ok .getSize | .ok .getStats | .error _ => false
  | resetCounters => true
  | submit _ | queue _ | readSectors _ _ | writeSectors _ _ | interrupt _ | check | raise
  | attach _ | detach => false

/-- **How the request of a call fails**, if it makes one that does. -/
def failure? (d : Device) (m : Machine) (c : Call) : Option TransferError :=
  (c.request? d).bind (fun r => Device.failure? ((d.submit r).runOn m).1.result)

end Call

end Device

/-- Nothing that a request is charged to has changed between two machines. -/
structure Machine.Alike (m m' : Machine) : Prop where
  /-- The counters, beyond the interrupts that were claimed. -/
  counters : m'.bare.counters = m.bare.counters
  /-- The log of the engine. -/
  transfers : m'.transfers = m.transfers
  /-- The engine itself. -/
  engine : m.HasEngine → m'.HasEngine

/-- Machines with the same bare machine are alike. -/
theorem Machine.Alike.of_bare {m m' : Machine} (h : m'.bare = m.bare) : m.Alike m' where
  counters := congrArg Machine.counters h
  transfers := by rw [← transfers_bare, h, transfers_bare]
  engine engine := by
    rw [← hasEngine_bare, h]
    exact hasEngine_bare.mpr engine

namespace Device

open Op

variable {d : Device} {m : Machine}

/-- An access by whole sectors runs the request it stands for. -/
theorem access_apply {block sector : UInt64} {len : Nat} (request : UInt64 → Request)
    (h : d.checkRange block len = .ok sector) (s : Service) :
    ∃ f, d.access block len request s
      = ((d.submit (request sector) s).1.map f, (d.submit (request sector) s).2) := by
  refine ⟨(·.mapError StorageError.ofBlockError), ?_⟩
  unfold access
  rw [h]
  refine (bind_apply _ _ _).trans ?_
  rcases d.submit (request sector) s with ⟨_ | _, _⟩ <;> rfl

/-- An access that is not by whole sectors is refused before anything is touched. -/
theorem access_refused {block : UInt64} {len : Nat} (request : UInt64 → Request)
    {e : StorageError} (h : d.checkRange block len = .error e) (s : Service) :
    d.access block len request s = (.ok (.error e), s) := by
  unfold access
  rw [h]
  rfl

/-- A diagnostic command that is no reset changes nothing. -/
theorem keeps_ioctl {number : UInt32} (other : Diagnostic.ofNumber? number ≠ .ok .resetStats)
    (out : ByteArray) : Keeps id (fun _ => True) (d.ioctl number out) := by
  have answers {c : Diagnostic} (other : c ≠ .resetStats) :
      Keeps id (fun _ => True) (d.diagnose c) := by
    cases c with
    | getSize =>
      exact keeps_bind (keeps_ite (keeps_pure _) (keeps_throw trivial)) (fun _ => keeps_pure _)
    | getStats => exact keeps_bind keeps_get (fun _ => keeps_pure _)
    | resetStats => exact absurd rfl other
  refine keeps_bind ?_ (fun _ => keeps_pure _)
  rcases known : Diagnostic.ofNumber? number with e | c
  · rw [command_of_error known]
    exact keeps_pure _
  · have other : c ≠ .resetStats := by
      rintro rfl
      exact other known
    rw [command_of_ok known]
    exact keeps_ite (keeps_pure _) (keeps_bind (answers other) (fun _ =>
      keeps_ite (keeps_throw trivial) (keeps_pure _)))

namespace Call

/-- Serving that ends as a request does, up to what is made of its result. -/
theorem serving_of_submit {α : Type} {serve : Serve α} {r : Request}
    (h : ∃ f, serve { machine := m }
      = ((d.submit r { machine := m }).1.map f, (d.submit r { machine := m }).2)) :
    (serving serve m).2 = ((d.submit r).runOn m).2
      ∧ ((serving serve m).1 = .error .endless
        ↔ ((d.submit r).runOn m).1.result = .error .endless) := by
  obtain ⟨f, run⟩ := h
  unfold serving
  rw [Serve.runOn_result, Serve.runOn_machine, Serve.runOn_result, Serve.runOn_machine, run]
  refine ⟨rfl, ?_⟩
  rcases (d.submit r { machine := m }).1 with fault | result
  · exact ⟨fun h => congrArg Except.error (Except.error.inj h),
      fun h => congrArg Except.error (Except.error.inj h)⟩
  · constructor <;> intro h <;> cases h

/-- **A call that makes a request** does to the machine what the request
does, and resets nothing. -/
theorem run_of_request {c : Call} {r : Request} (h : c.request? d = some r) :
    c.resets = false ∧ (c.run d m).2 = ((d.submit r).runOn m).2
      ∧ ((c.run d m).1 = .error .endless
        ↔ ((d.submit r).runOn m).1.result = .error .endless) := by
  cases c with
  | submit r' =>
    cases h
    refine ⟨rfl, serving_of_submit ⟨id, ?_⟩⟩
    rcases d.submit r { machine := m } with ⟨_ | _, _⟩ <;> rfl
  | queue r' =>
    cases h
    exact ⟨rfl, serving_of_submit ⟨_, queue_apply r _⟩⟩
  | readSectors block buffer =>
    rcases checked : d.checkRange block buffer.size with e | sector
    · rw [request?, checked] at h
      cases h
    · rw [request?, checked] at h
      cases h
      exact ⟨rfl, serving_of_submit (access_apply _ checked _)⟩
  | writeSectors block data =>
    rcases checked : d.checkRange block data.size with e | sector
    · rw [request?, checked] at h
      cases h
    · rw [request?, checked] at h
      cases h
      exact ⟨rfl, serving_of_submit (access_apply _ checked _)⟩
  | ioctl | resetCounters | interrupt | check | raise | attach | detach => cases h

/-- **A call that makes no request** leaves the accounts alone, unless it sets
the counters to zero. -/
theorem run_alike {c : Call} (h : c.request? d = none) (keeps : c.resets = false) (m : Machine) :
    m.Alike (c.run d m).2 := by
  have refused {block : UInt64} {len : Nat} {request : UInt64 → Request}
      (h : (d.checkRange block len).toOption.map request = none) :
      m.Alike (serving (d.access block len request) m).2 := by
    rcases checked : d.checkRange block len with e | sector
    · unfold serving
      rw [Serve.runOn_machine, access_refused request checked]
      exact .of_bare rfl
    · rw [checked] at h
      cases h
  cases c with
  | submit | queue => cases h
  | readSectors block buffer => exact refused h
  | writeSectors block data => exact refused h
  | ioctl number out =>
    have other : Diagnostic.ofNumber? number ≠ .ok .resetStats := by
      intro reset
      rw [resets, reset] at keeps
      cases keeps
    exact .of_bare (congrArg Machine.bare
      (keeps_bind (d.keeps_ioctl other out) (fun _ => keeps_pure _) m).1)
  | resetCounters => cases keeps
  | interrupt line => exact .of_bare (m.bare_deliver _ line)
  | check => exact .of_bare m.bare_handleInterrupt
  | raise => exact .of_bare m.bare_raise
  | attach line => exact ⟨rfl, rfl, id⟩
  | detach => exact ⟨rfl, rfl, id⟩

/-- **A call that sets the counters to zero** changes nothing else, but that it
may be reported. -/
theorem run_resets {c : Call} (h : c.resets = true) (m : Machine) :
    ∃ journal, (c.run d m).2 = { m with counters := {}, journal } := by
  cases c with
  | ioctl number out =>
    rcases known : Diagnostic.ofNumber? number with e | _ | _ | _
    all_goals rw [resets, known] at h
    case ok.resetStats =>
      have run : (ioctl number out).run d m = (.ok (), (m.mapCounters (fun _ => {})).report .info
          (Geometry.diskName ++ ": " ++ "statistics reset")) := by
        unfold Call.run Device.ioctl
        dsimp only
        rw [command_of_ok known,
          if_neg (show ¬out.size < Diagnostic.resetStats.answerSize from Nat.not_lt_zero _)]
        rfl
      rw [run]
      exact ⟨_, rfl⟩
    all_goals cases h
  | resetCounters => exact ⟨m.journal, rfl⟩
  | submit | queue | readSectors | writeSectors | interrupt | check | raise | attach | detach =>
    cases h

/-- A call that resets the counters leaves them at zero, and the engine as it was. -/
theorem run_of_resets {c : Call} (h : c.resets = true) (m : Machine) :
    (c.run d m).2.counters = {} ∧ (c.run d m).2.controller = m.controller := by
  obtain ⟨journal, run⟩ := run_resets (d := d) h m
  rw [run]
  exact ⟨rfl, rfl⟩

end Call

end Device

/-- **A disk's machine, and what was seen of it** since its counters were
last zero. -/
structure Session where
  /-- The machine. -/
  machine : Machine
  /-- How many transfers were in the log when the counters were zero. -/
  startedBefore : Nat
  /-- How many interrupts had been claimed then. -/
  handledBefore : Nat
  /-- How many requests have failed since. -/
  failed : Nat := 0
  /-- How many of them timed out. -/
  timedOut : Nat := 0

namespace Session

/-- A session that starts with its counters at zero. -/
def start (m : Machine) : Session where
  machine := m
  startedBefore := m.transfers.size
  handledBefore := m.handled

/-- How far a total has come, as a counter tells it. -/
def since (before total : Nat) : UInt64 := UInt64.ofNat total - UInt64.ofNat before

/-- A counter that moves with a total goes on telling how far it has come. -/
theorem since_of_add {x y : UInt64} {before now later : Nat} (h : y = since before now)
    (moved : x + UInt64.ofNat now = y + UInt64.ofNat later) : x = since before later := by
  unfold since at *
  grind

/-- How many transfers were started. -/
def started (s : Session) : UInt64 := since s.startedBefore s.machine.transfers.size

/-- How many interrupts the disk's handler claimed. -/
def handled (s : Session) : UInt64 := since s.handledBefore s.machine.handled

/-- The session after a call that left a machine, and one more failure if the
call made a request that failed. -/
def after (s : Session) (m : Machine) (failure : Option TransferError) : Session :=
  { s with
    machine := m
    failed := s.failed + if failure.isSome then 1 else 0
    timedOut := s.timedOut + if failure = some .timeout then 1 else 0 }

/-- **One call.** One that waits without end leaves no session. -/
def step (d : Device) (s : Session) (c : Device.Call) : Option Session :=
  match c.run d s.machine with
  | (.error .endless, _) => none
  | (_, m) =>
    if c.resets then some (start m) else some (s.after m (c.failure? d s.machine))

/-- **Any sequence of calls.** -/
def run (d : Device) (s : Session) (calls : List Device.Call) : Option Session :=
  calls.foldlM (step d) s

/-- **The counters tell what was seen.** -/
structure Balanced (s : Session) : Prop where
  /-- There is an engine whose log can be looked at. -/
  engine : s.machine.HasEngine
  /-- Every transfer that was started is counted once, as read, as written or
  as failed. -/
  started : s.machine.counters.started = s.started
  /-- Every request that failed is counted once. -/
  errors : s.machine.counters.errors = UInt64.ofNat s.failed
  /-- Every request that timed out is counted once. -/
  timeouts : s.machine.counters.timeouts = UInt64.ofNat s.timedOut
  /-- Every request that timed out has failed. -/
  timedOut_le : s.timedOut ≤ s.failed
  /-- Every interrupt that was claimed is counted once. -/
  irqs : s.machine.counters.irqs = s.handled

namespace Balanced

variable {d : Device} {s s' : Session} {m : Machine}

/-- Counters at zero tell that nothing was seen yet. -/
theorem start (engine : m.HasEngine) (zero : m.counters = {}) : (start m).Balanced := by
  have none (n : Nat) : since n n = 0 := UInt64.sub_self _
  refine ⟨engine, ?_, ?_, ?_, Nat.le_refl 0, ?_⟩
  · show m.counters.started = since m.transfers.size m.transfers.size
    rw [none, zero]
    rfl
  · exact congrArg Counters.errors zero
  · exact congrArg Counters.timeouts zero
  · show m.counters.irqs = since m.handled m.handled
    rw [none, zero]

/-- **Whatever keeps the counter of interrupts in step with the claims** keeps
it telling how many there were. -/
theorem irqs_of_bare (b : s.Balanced)
    (h : m.bare.counters.irqs = s.machine.bare.counters.irqs) :
    m.counters.irqs = since s.handledBefore m.handled := by
  have same : m.counters.irqs - UInt64.ofNat m.handled
      = s.machine.counters.irqs - UInt64.ofNat s.machine.handled := h
  refine since_of_add b.irqs ?_
  grind

/-- A machine that is alike keeps the session balanced. -/
theorem alike (b : s.Balanced) (h : s.machine.Alike m) : (s.after m none).Balanced where
  engine := h.engine b.engine
  started := by
    show m.counters.started = since s.startedBefore m.transfers.size
    rw [h.transfers]
    exact (congrArg Counters.started h.counters :).trans b.started
  errors := (congrArg Counters.errors h.counters).trans b.errors
  timeouts := (congrArg Counters.timeouts h.counters).trans b.timeouts
  timedOut_le := b.timedOut_le
  irqs := b.irqs_of_bare (congrArg Counters.irqs h.counters)

/-- **A request that comes back keeps the session balanced**, with one more
failure seen where it failed. -/
theorem request (b : s.Balanced) (sound : d.Sound)
    (room : d.config.HasRoom) (r : Request)
    (returns : ((d.submit r).runOn s.machine).1.result ≠ .error .endless) :
    (s.after ((d.submit r).runOn s.machine).2
      (Device.failure? ((d.submit r).runOn s.machine).1.result)).Balanced := by
  have charged := d.submit_charged sound room r b.engine
  obtain ⟨errors, timeouts⟩ := charged.errors
  have started := charged.started returns
  refine ⟨d.submit_hasEngine sound room _ b.engine, ?_, ?_, ?_, ?_, b.irqs_of_bare charged.irqs⟩
  · rw [Array.length_toList, Array.length_toList] at started
    exact since_of_add b.started started
  · refine errors.trans ?_
    rw [show s.machine.bare.counters.errors = UInt64.ofNat s.failed from b.errors]
    exact (UInt64.ofNat_add _ _).symm
  · refine timeouts.trans ?_
    rw [show s.machine.bare.counters.timeouts = UInt64.ofNat s.timedOut from b.timeouts]
    exact (UInt64.ofNat_add _ _).symm
  · refine Nat.add_le_add b.timedOut_le ?_
    rcases Device.failure? ((d.submit r).runOn s.machine).1.result with _ | _ | status
    · exact Nat.le_refl 0
    · exact Nat.le_refl 1
    · exact Nat.zero_le 1

end Balanced

/-- **One call keeps the session balanced.** -/
theorem step_balanced {d : Device} (sound : d.Sound)
    (room : d.config.HasRoom)
    {s s' : Session} {c : Device.Call} (h : s.step d c = some s') (b : s.Balanced) :
    s'.Balanced := by
  unfold step at h
  split at h
  · cases h
  next result m endless run =>
  have left : (c.run d s.machine).2 = m := congrArg Prod.snd run
  split at h
  · -- counters at zero begin a new account
    next resets =>
    obtain ⟨zero, same⟩ := Device.Call.run_of_resets resets s.machine
    rw [left] at zero same
    cases h
    obtain ⟨e, engine⟩ := b.engine
    exact .start ⟨e, same.trans engine⟩ zero
  · next keeps =>
    cases h
    rcases made : c.request? d with _ | r
    · have alike := Device.Call.run_alike made (Bool.eq_false_iff.mpr keeps) s.machine
      rw [left] at alike
      have none : c.failure? d s.machine = none := by
        rw [Device.Call.failure?, made]
        rfl
      rw [none]
      exact b.alike alike
    · obtain ⟨-, same, ends⟩ := Device.Call.run_of_request (m := s.machine) made
      have failure : c.failure? d s.machine
          = Device.failure? ((d.submit r).runOn s.machine).1.result := by
        rw [Device.Call.failure?, made]
        rfl
      rw [failure, ← left, same]
      refine b.request sound room r fun h => ?_
      -- had the request not come back, there would be no session to go on with
      have waits := ends.mpr h
      rw [run] at waits
      exact endless waits

/-- **Any sequence of calls keeps the session balanced.** -/
theorem run_balanced {d : Device} (sound : d.Sound)
    (room : d.config.HasRoom)
    {s s' : Session} {calls : List Device.Call} (h : s.run d calls = some s')
    (b : s.Balanced) : s'.Balanced := by
  induction calls generalizing s with
  | nil =>
    cases h
    exact b
  | cons c calls ih =>
    obtain ⟨t, first, later⟩ := Option.bind_eq_some_iff.mp h
    exact ih later (step_balanced sound room first b)

end Session

namespace Device

/-- **The counters of a disk are accounted for**, after any sequence of calls
and whatever the engine does at each start. -/
theorem counters_accounted {resources : Resources} {config : Config} {m₀ m₁ : Machine}
    {d : Device} (probed : probe resources config m₀ = (.ok (.ok d), m₁))
    (room : config.HasRoom)
    (engine : m₀.HasEngine) {calls : List Call} {s : Session}
    (ran : (Session.start m₁).run d calls = some s) :
    s.Balanced
      ∧ (s.failed < Geometry.wordLimit → s.machine.counters.timeouts ≤ s.machine.counters.errors)
      ∧ ∀ r, d.Charged r s.machine.counters.withoutIrqs s.machine.transfers.toList
        ((d.submit r).runOn s.machine).1.result
        ((d.submit r).runOn s.machine).2.counters.withoutIrqs
        ((d.submit r).runOn s.machine).2.transfers.toList := by
  obtain ⟨sound, rfl, -, arena, journal, rfl⟩ := probe_inv probed
  have balanced := Session.run_balanced sound room ran (.start engine rfl)
  refine ⟨balanced, fun few => ?_, fun r => ?_⟩
  · rw [balanced.errors, balanced.timeouts, UInt64.le_iff_toNat_le,
      UInt64.toNat_ofNat_of_lt' few,
      UInt64.toNat_ofNat_of_lt' (Nat.lt_of_le_of_lt balanced.timedOut_le few)]
    exact balanced.timedOut_le
  · exact (d.submit_charged sound room r balanced.engine).withoutIrqs

/-- A disk on the wire of an engine that finishes at once: a write, one more
interrupt, and a request that is turned down. -/
theorem counters_accounted_write :
    ∃ d m₁ s, probe { irq := some Geometry.interruptLine } {}
        { controller := .engine { behavior := .fault 0, doneBits := 4 } } = (.ok (.ok d), m₁)
      ∧ (Session.start m₁).run d [.attach 33, .submit (Request.write 5 [⟨#[1, 2, 3]⟩]),
        .interrupt 33, .submit (Request.withoutData 0 .flush)] = some s
      ∧ s.Balanced := by
  have probed : probe { irq := some Geometry.interruptLine } {}
        { controller := .engine { behavior := .fault 0, doneBits := 4 } }
      = (.ok (.ok ⟨{}, 1048576, some 33, ⟨0x80000000, Geometry.bounceSize⟩⟩),
        (probe { irq := some Geometry.interruptLine } {}
          { controller := .engine { behavior := .fault 0, doneBits := 4 } }).2) :=
    Op.apply_eq rfl
  have returns : ((Session.start (probe { irq := some Geometry.interruptLine } {}
        { controller := .engine { behavior := .fault 0, doneBits := 4 } }).2).run
      ⟨{}, 1048576, some 33, ⟨0x80000000, Geometry.bounceSize⟩⟩
      [.attach 33, .submit (Request.write 5 [⟨#[1, 2, 3]⟩]), .interrupt 33,
        .submit (Request.withoutData 0 .flush)]).isSome = true := by
    decide +kernel
  exact ⟨_, _, _, probed, (Option.some_get returns).symm,
    (counters_accounted probed (by decide) ⟨_, rfl⟩ (Option.some_get returns).symm).1⟩

end Device

end RemoteDisk
