import RemoteDisk.Proofs.Course
import RemoteDisk.Proofs.Rejections
import RemoteDisk.Proofs.Steady

/-!
# What is done for a piece, in order

Moving a piece is a sequence of single effects: bytes staged, a range flushed,
a register written, the slot emptied, a wait, a count, bytes delivered.
`Piece.effects` lists them, and `Route.movePiece_eq_perform` says that moving
the piece is performing this list – for every piece and on every machine, so
also where an effect ends in a fault and the ones after it are never seen. The
order of the list is thereby the order in which things happen: a flush that
faults finds everything before it done and nothing after it. For whole requests
the same is `Route.serve_eq_serveInOrder`.

Only the wait can fail, so a request that returns has performed all effects
of its pieces, or those of the pieces before the failed one and of this one up
to its wait. Which ranges are flushed, and when, is read off the list.
-/

namespace RemoteDisk

open Op

/-! ## Effects -/

/-- **One thing done** while a piece is moved. -/
inductive Effect where
  /-- The request enters a phase. -/
  | enter (phase : Phase)
  /-- Bytes of the caller are copied into the bounce buffer. -/
  | stage (data : ByteArray)
  /-- A range is flushed. -/
  | flush (address : UInt64) (len : Nat)
  /-- The transfer is noted in the journal. -/
  | note (t : Transfer)
  /-- A register is written. -/
  | write (r : Register) (value : UInt32)
  /-- The completion slot is emptied. -/
  | reset
  /-- The transfer is waited for, and accounted for where it fails. -/
  | wait (d : Descriptor)
  /-- A transfer that ended well is counted. -/
  | count (direction : Direction)
  /-- Bytes of the bounce buffer are copied to the caller, into a buffer from an
  offset on. -/
  | deliver (buffer offset len : Nat)

/-- Waits for a transfer and accounts for it where it fails. -/
def Descriptor.await (d : Descriptor) (timeoutMs : UInt64) : Act (Except TransferError Unit) := do
  match ← Act.wait timeoutMs with
  | .ok () => return .ok ()
  | .error cause =>
    d.fail timeoutMs cause
    return .error cause

namespace Effect

/-- **What an effect does.** -/
def run (route : Route) : Effect → Attempt Unit
  | enter phase => Attempt.enter phase
  | stage data => Attempt.ofAct (route.bounce.stage data)
  | flush address len => Attempt.ofAct (Act.flush address len)
  | note t => Attempt.ofAct (Act.report .trace ("[DMA] " ++ t.text))
  | write r value => Attempt.ofAct (Act.writeRegister r.offset value)
  | reset => Attempt.ofAct (modify Machine.resetSignal)
  | wait d => ExceptT.mk (Serve.ofAct (d.await route.timeoutMs))
  | count direction => Attempt.ofAct (Act.count direction.count)
  | deliver buffer offset len => do
    let data ← Attempt.ofAct (route.bounce.unstage len)
    Attempt.ofServe (Serve.deliver ⟨buffer, offset, data⟩)

/-- The range an effect flushes, if it flushes one. -/
def flushed? : Effect → Option Flush
  | flush address len => some ⟨address, len⟩
  | _ => none

/-- Whether an effect is a wait. -/
def isWait : Effect → Bool
  | wait _ => true
  | _ => false

/-- Whether an effect writes a register. -/
def isWrite : Effect → Bool
  | write _ _ => true
  | _ => false

/-- Whether an effect copies bytes to the caller. -/
def isDelivery : Effect → Bool
  | deliver _ _ _ => true
  | _ => false

end Effect

/-- **What is done to start a transfer**: the source is flushed before any
register is written, and the slot is emptied before the start bit is set. -/
def Descriptor.starting (d : Descriptor) : List Effect :=
  [.flush d.source d.length.toNat, .note d.transfer]
    ++ (Register.program d.source d.destination d.length).map (fun w => .write w.1 w.2)
    ++ [.reset, .write .control Register.startBit]

namespace Piece

variable (bounce : Buffer) (p : Piece)

/-- What is done before the transfer of a piece is waited for. The bytes of a
write are staged before anything else. -/
def preparing : List Effect :=
  (match p.body with
    | .source data => [.enter .staging, .stage data]
    | .sink _ _ => [])
  ++ [.enter .transferring] ++ (p.descriptor bounce).starting ++ [.enter .waiting]

/-- **What is done up to the end of the wait.** -/
def launching : List Effect := p.preparing bounce ++ [.wait (p.descriptor bounce)]

/-- **What is done after a wait that ended well**: the destination is flushed,
and only then the bytes of a read are delivered. -/
def concluding : List Effect :=
  let d := p.descriptor bounce
  [.flush d.destination d.length.toNat, .count d.direction]
  ++ match p.body with
    | .source _ => []
    | .sink buffer size => [.deliver buffer p.offset size]

/-- **All that is done for a piece.** -/
def effects : List Effect := p.launching bounce ++ p.concluding bounce

/-- **Effects in the order that caches ask for.** The source is flushed before any
register is written, the destination after the wait and before bytes are copied to
the caller, and there is no other flush and no other wait. -/
def InOrder (es : List Effect) : Prop :=
  let d := p.descriptor bounce
  ∃ early writes late,
    es = early ++ [.flush d.source d.length.toNat] ++ writes
        ++ [.wait d, .flush d.destination d.length.toNat] ++ late
      ∧ (∀ e ∈ early, e.isWrite = false ∧ e.isDelivery = false)
      ∧ (∀ e ∈ writes, e.isDelivery = false)
      ∧ (∀ e ∈ late, e.isWrite = false)
      ∧ ∀ e ∈ early ++ writes ++ late, e.flushed? = none ∧ e.isWait = false

/-- **All that is done for a piece is done in order.** -/
theorem inOrder_effects : p.InOrder bounce (p.effects bounce) := by
  obtain ⟨remote, offset, ⟨buffer, size⟩ | data⟩ := p
  · refine ⟨[.enter .transferring], (Descriptor.starting _).tail ++ [.enter .waiting],
      [.count .read, .deliver buffer offset size], rfl, ?_⟩
    simp [Descriptor.starting, Register.program, Effect.isWrite, Effect.isDelivery,
      Effect.flushed?, Effect.isWait]
  · refine ⟨[.enter .staging, .stage data, .enter .transferring],
      (Descriptor.starting _).tail ++ [.enter .waiting], [.count .write], rfl, ?_⟩
    simp [Descriptor.starting, Register.program, Effect.isWrite, Effect.isDelivery,
      Effect.flushed?, Effect.isWait]

/-- Of all that is done up to the end of the wait, one flush is part. -/
theorem flushes_launching : (p.launching bounce).filterMap Effect.flushed?
    = [⟨(p.descriptor bounce).source, (p.descriptor bounce).length.toNat⟩] := by
  rcases p with ⟨_, _, _ | _⟩ <;> rfl

/-- **A piece flushes its two ranges** and nothing else. -/
theorem flushes_effects : (p.effects bounce).filterMap Effect.flushed? = p.flushes bounce := by
  rcases p with ⟨_, _, _ | _⟩ <;> rfl

theorem isWait_preparing : ∀ e ∈ p.preparing bounce, e.isWait = false := by
  rcases p with ⟨_, _, _ | _⟩ <;>
    simp [preparing, Descriptor.starting, Register.program, Effect.isWait]

theorem isWait_concluding : ∀ e ∈ p.concluding bounce, e.isWait = false := by
  rcases p with ⟨_, _, _ | _⟩ <;> simp [concluding, Effect.isWait]

end Piece

namespace Route

variable (route : Route)

/-- **Performs effects in order**, up to one that fails. -/
def perform : List Effect → Attempt Unit
  | [] => pure ()
  | e :: es => do
    e.run route
    perform es

/-- **The effects that are performed** when a list of them is run, the one it
ends with included. -/
def performed : List Effect → Service → List Effect
  | [], _ => []
  | e :: es, s =>
    e :: match e.run route s with
      | (.ok (.ok ()), s') => performed es s'
      | _ => []

end Route

/-! ## Moving a piece is performing its effects -/

namespace Attempt

variable {α β : Type}

theorem ofServe_apply (x : Serve α) (s : Service) :
    ofServe x s = ((x s).1.map .ok, (x s).2) := by
  show (Except.ok <$> x : Serve (Except TransferError α)) s = _
  rw [map_eq_pure_bind, Op.bind_apply]
  rcases x s with ⟨_ | _, _⟩ <;> rfl

theorem ofAct_apply (a : Act α) (s : Service) :
    ofAct a s = ((a s.machine).1.map .ok, { s with machine := (a s.machine).2 }) := by
  rw [ofAct, ofServe_apply, Serve.ofAct_apply]

/-- **A sequence on the machine** is a sequence of attempts. -/
theorem ofAct_bind (a : Act α) (f : α → Act β) :
    ofAct (a >>= f) = ofAct a >>= fun v => ofAct (f v) := by
  funext s
  rw [bind_apply, ofAct_apply, ofAct_apply, Op.bind_apply]
  rcases a s.machine with ⟨_ | v, m⟩
  · rfl
  · exact (ofAct_apply (f v) { s with machine := m }).symm

/-- An attempt that starts with what is only served. -/
theorem mk_bind (x : Serve α) (f : α → Serve (Except TransferError β)) :
    (ExceptT.mk (x >>= f) : Attempt β) = ofServe x >>= fun v => ExceptT.mk (f v) := by
  funext s
  rw [bind_apply, ofServe_apply]
  show (x >>= f) s = _
  rw [Op.bind_apply]
  rcases x s with ⟨_ | _, _⟩ <;> rfl

/-- What is only served does not fail as a transfer does. -/
theorem ofServe_ne_failed (x : Serve α) (s : Service) (cause : TransferError) :
    (ofServe x s).1 ≠ .ok (.error cause) := by
  rw [ofServe_apply]
  rcases x s with ⟨_ | _, _⟩ <;> simp [Except.map]

end Attempt

/-- **What follows a transfer is a wait**, which either fails, or is followed by
the flush and the count of a transfer that ended well. -/
theorem Descriptor.finish_eq_await (d : Descriptor) (ms : UInt64) :
    (ExceptT.mk (Serve.ofAct (d.finish ms)) : Attempt Unit) = (do
      ExceptT.mk (Serve.ofAct (d.await ms))
      Attempt.ofAct (Act.flush d.destination d.length.toNat)
      Attempt.ofAct (Act.count d.direction.count)) := by
  have succeed : d.succeed = (do
      Act.flush d.destination d.length.toNat
      Act.count d.direction.count) := by
    unfold succeed
    cases d.direction <;> rfl
  rw [← Attempt.ofAct_bind, ← succeed]
  funext s
  have waited : (ExceptT.mk (Serve.ofAct (d.await ms)) : Attempt Unit) s
      = ((d.await ms s.machine).1, { s with machine := (d.await ms s.machine).2 }) := rfl
  rw [Attempt.bind_apply, waited]
  show ((d.finish ms s.machine).1, { s with machine := (d.finish ms s.machine).2 }) = _
  unfold finish await
  rw [bind_apply, bind_apply]
  rcases Act.wait ms s.machine with ⟨_ | cause | _, m⟩
  · rfl
  · dsimp only
    rw [bind_apply]
    rcases d.fail ms cause m with ⟨_ | _, _⟩ <;> rfl
  · dsimp only
    rw [bind_apply]
    show _ = Attempt.ofAct d.succeed { s with machine := m }
    rw [Attempt.ofAct_apply]
    dsimp only
    rcases d.succeed m with ⟨_ | _, _⟩ <;> rfl

namespace Route

variable (route : Route)

theorem perform_append (es fs : List Effect) :
    route.perform (es ++ fs) = route.perform es >>= fun _ => route.perform fs := by
  induction es with
  | nil => simp [perform]
  | cons e es ih => simp [perform, ih]

/-- Register writes are effects of their own. -/
theorem perform_writes (writes : List (Register × UInt32)) :
    route.perform (writes.map (fun w => .write w.1 w.2)) = Attempt.ofAct (Act.writeAll writes) := by
  induction writes with
  | nil => rfl
  | cons w writes ih =>
    show (_ >>= fun _ => _) = _
    rw [ih]
    exact (Attempt.ofAct_bind _ _).symm

/-- **Starting a transfer** is flushing its source, describing it, emptying the
slot and setting the start bit. -/
theorem ofAct_begin (d : Descriptor) : Attempt.ofAct d.begin = route.perform d.starting := by
  rw [Descriptor.starting, perform_append, perform_append, perform_writes]
  simp only [perform, Effect.run, Descriptor.begin, Act.launch, Attempt.ofAct_bind, bind_assoc,
    bind_pure_unit]
  rfl

/-- **Moving a piece is performing its effects.** -/
theorem movePiece_eq_perform (p : Piece) :
    route.movePiece p = route.perform (p.effects route.bounce) := by
  have moving (d : Descriptor) : route.move d = (do
      route.perform ([.enter .transferring] ++ d.starting ++ [.enter .waiting])
      route.perform ([.wait d] ++ [.flush d.destination d.length.toNat, .count d.direction])) := by
    simp only [perform_append, ← ofAct_begin, perform, Effect.run, bind_assoc, bind_pure_unit,
      ← Descriptor.finish_eq_await, move, Attempt.mk_bind]
    rfl
  rcases p with ⟨_, _, _ | _⟩ <;>
    simp only [movePiece, moving, Piece.effects, Piece.launching, Piece.preparing,
      Piece.concluding, perform_append, perform, Effect.run, bind_assoc, pure_bind,
      bind_pure_unit]

/-- Moving pieces is performing the effects of all of them. -/
theorem moveAll_eq_perform (ps : List Piece) :
    route.moveAll ps = route.perform (ps.flatMap (Piece.effects route.bounce)) := by
  induction ps with
  | nil => rfl
  | cons p ps ih => rw [moveAll, ih, movePiece_eq_perform, List.flatMap_cons, perform_append]

/-- **Serves a request in the order of its effects**: it is announced, the effects
of its pieces are performed, and its phase is settled by what comes of them. -/
def serveInOrder (r : Request) : Serve (Except TransferError Unit) := do
  Serve.ofAct (Act.report .trace ("[OMNI] request " ++ r.text))
  let result ← (route.perform ((r.pieces route).flatMap (Piece.effects route.bounce))).run
  Serve.enter (Phase.settled result)
  return result

/-- **Serving a request is performing its effects in order**, whatever becomes of
them, as long as every address fits its word. -/
theorem serve_eq_serveInOrder {r : Request}
    (fits : route.Fits r.sector.toNat r.segments.toList) :
    route.serve r = route.serveInOrder r := by
  unfold serve serveInOrder
  rw [serveSegments_eq fits, moveAll_eq_perform]
  refine bind_congr fun _ => bind_congr fun result => ?_
  cases result <;> rfl

/-! ## What is performed -/

variable {route}

/-- **One step of performing**: an effect ends well and the others follow, or
nothing follows. -/
theorem perform_step (route : Route) (e : Effect) (s : Service) :
    (∃ s', e.run route s = (.ok (.ok ()), s') ∧ ∀ es,
        route.perform (e :: es) s = route.perform es s'
          ∧ route.performed (e :: es) s = e :: route.performed es s')
      ∨ ((e.run route s).1 ≠ .ok (.ok ()) ∧ ∀ es,
        route.perform (e :: es) s = e.run route s ∧ route.performed (e :: es) s = [e]) := by
  rcases run : e.run route s with ⟨_ | _ | _, s'⟩
  · exact .inr ⟨(fun h => nomatch h), fun _ => ⟨Attempt.bind_fault run, by simp [performed, run]⟩⟩
  · exact .inr ⟨(fun h => nomatch h), fun _ => ⟨Attempt.bind_failed run, by simp [performed, run]⟩⟩
  · exact .inl ⟨s', rfl, fun _ => ⟨Attempt.bind_ok run, by simp [performed, run]⟩⟩

/-- Where the first of two lists of effects ends well, the second one is
performed on what it leaves. -/
theorem performed_append_of_ok {es fs : List Effect} {s s' : Service}
    (run : route.perform es s = (.ok (.ok ()), s')) :
    route.performed (es ++ fs) s = es ++ route.performed fs s' := by
  induction es generalizing s with
  | nil =>
    cases run
    rfl
  | cons e es ih =>
    rcases route.perform_step e s with ⟨s₁, -, rest⟩ | ⟨ends, last⟩
    · rw [(rest es).1] at run
      rw [List.cons_append, (rest _).2, ih run, List.cons_append]
    · rw [(last es).1] at run
      exact absurd (congrArg Prod.fst run) ends

/-- Where no effect fails, all effects are performed. -/
theorem performed_of_ok {es : List Effect} {s s' : Service}
    (run : route.perform es s = (.ok (.ok ()), s')) : route.performed es s = es := by
  have all : route.performed (es ++ []) s = es ++ [] := performed_append_of_ok run
  rwa [List.append_nil] at all

/-- Where the first of two lists of effects fails, the second one is not
begun. -/
theorem performed_append_of_failed {es fs : List Effect} {s s' : Service} {cause : TransferError}
    (run : route.perform es s = (.ok (.error cause), s')) :
    route.performed (es ++ fs) s = route.performed es s := by
  induction es generalizing s with
  | nil => cases run
  | cons e es ih =>
    rcases route.perform_step e s with ⟨s₁, -, rest⟩ | ⟨-, last⟩
    · rw [(rest es).1] at run
      rw [List.cons_append, (rest _).2, (rest _).2, ih run]
    · rw [List.cons_append, (last _).2, (last _).2]

/-- **Only a wait fails** as a transfer does. -/
theorem run_ne_failed {e : Effect} (h : e.isWait = false) (s : Service) (cause : TransferError) :
    (e.run route s).1 ≠ .ok (.error cause) := by
  cases e with
  | wait d => cases h
  | deliver buffer offset len =>
    intro failed
    rw [Effect.run, Attempt.bind_apply] at failed
    rcases taken : Attempt.ofAct (route.bounce.unstage len) s with ⟨_ | _ | data, s'⟩
    all_goals rw [taken] at failed
    · cases failed
    · exact Attempt.ofServe_ne_failed _ s _ (congrArg Prod.fst taken)
    · exact Attempt.ofServe_ne_failed _ s' cause failed
  | _ => exact Attempt.ofServe_ne_failed _ s cause

/-- Effects without a wait do not fail as a transfer does. -/
theorem perform_ne_failed {es : List Effect} (h : ∀ e ∈ es, e.isWait = false) (s : Service)
    (cause : TransferError) : (route.perform es s).1 ≠ .ok (.error cause) := by
  induction es generalizing s with
  | nil => exact fun failed => nomatch failed
  | cons e es ih =>
    rcases route.perform_step e s with ⟨s', -, rest⟩ | ⟨-, last⟩
    · rw [(rest es).1]
      exact ih (fun e he => h e (List.mem_cons_of_mem _ he)) s'
    · rw [(last es).1]
      exact run_ne_failed (h e List.mem_cons_self) s cause

/-- A list of effects that failed behind others that ended well. -/
theorem perform_append_failed {es fs : List Effect} {s s' : Service} {cause : TransferError}
    (steady : ∀ e ∈ es, e.isWait = false)
    (run : route.perform (es ++ fs) s = (.ok (.error cause), s')) :
    ∃ s₁, route.perform es s = (.ok (.ok ()), s₁)
      ∧ route.perform fs s₁ = (.ok (.error cause), s') := by
  rw [perform_append, Attempt.bind_apply] at run
  rcases first : route.perform es s with ⟨_ | c | _, s₁⟩
  all_goals rw [first] at run
  · cases run
  · exact absurd (congrArg Prod.fst first) (perform_ne_failed steady s c)
  · exact ⟨s₁, rfl, run⟩

/-- **A piece that fails is left at its wait.** -/
theorem performed_effects_of_failed {p : Piece} {s s' : Service} {cause : TransferError}
    (run : route.perform (p.effects route.bounce) s = (.ok (.error cause), s')) :
    route.performed (p.effects route.bounce) s = p.launching route.bounce := by
  rw [Piece.effects, Piece.launching, List.append_assoc] at run ⊢
  obtain ⟨s₁, prepared, run⟩ := perform_append_failed (p.isWait_preparing _) run
  rw [performed_append_of_ok prepared]
  rcases route.perform_step (.wait (p.descriptor route.bounce)) s₁ with
    ⟨s₂, -, rest⟩ | ⟨-, last⟩
  · -- nothing fails after the wait
    rw [List.singleton_append, (rest _).1] at run
    exact absurd (congrArg Prod.fst run) (perform_ne_failed (p.isWait_concluding _) s₂ cause)
  · rw [List.singleton_append, (last _).2]

/-- **What is performed of pieces of which one fails**: everything for those
before it, and for this one what comes up to its wait. -/
theorem performed_pieces_of_failed {ps : List Piece} {s s' : Service} {cause : TransferError}
    (run : route.perform (ps.flatMap (Piece.effects route.bounce)) s = (.ok (.error cause), s')) :
    ∃ done p rest, ps = done ++ p :: rest
      ∧ route.performed (ps.flatMap (Piece.effects route.bounce)) s
        = done.flatMap (Piece.effects route.bounce) ++ p.launching route.bounce := by
  induction ps generalizing s with
  | nil => cases run
  | cons p ps ih =>
    rw [List.flatMap_cons, perform_append, Attempt.bind_apply] at run
    rw [List.flatMap_cons]
    rcases first : route.perform (p.effects route.bounce) s with ⟨_ | c | _, s₁⟩
    all_goals rw [first] at run
    · cases run
    · exact ⟨[], p, ps, rfl, by
        rw [performed_append_of_failed first, performed_effects_of_failed first]
        rfl⟩
    · obtain ⟨done, q, rest, rfl, performed⟩ := ih run
      exact ⟨p :: done, q, rest, rfl, by
        rw [performed_append_of_ok first, performed, List.flatMap_cons, List.append_assoc]⟩

end Route

/-! ## What is flushed -/

/-- The flushed ranges do not tell which transfers were started. -/
theorem Machine.steady_flushes : Machine.Steady Machine.flushes where
  bare h := (congrArg Machine.flushes h :)
  noted t m := by rcases m with ⟨_ | _⟩ <;> rfl

namespace Act

/-- A wait that is accounted for flushes nothing. -/
theorem keeps_flushes_await (d : Descriptor) (ms : UInt64) :
    Keeps Machine.flushes (fun _ => True) (d.await ms) := by
  refine keeps_bind (keeps_of_bare Machine.steady_flushes (keeps_wait ms)) (fun outcome => ?_)
  cases outcome with
  | ok => exact keeps_pure _
  | error cause =>
    refine keeps_bind (fun m => ?_) (fun _ => keeps_pure _)
    obtain ⟨journal, failed⟩ := d.fail_apply ms cause m
    rw [failed]
    exact ⟨rfl, fun _ _ => trivial⟩

end Act

/-- What an operation on the machine leaves flushed. -/
theorem Attempt.flushes_ofAct {α : Type} {a : Act α}
    (h : Keeps Machine.flushes (fun _ => True) a) (s : Service) :
    (ofAct a s).2.machine.flushes = s.machine.flushes := by
  rw [ofAct_apply]
  exact (h s.machine).1

/-- **An effect adds the range it flushes** to the flushed ranges, and nothing
else. -/
theorem Effect.flushes_run (route : Route) (e : Effect) (s : Service) :
    (e.run route s).2.machine.flushes.toList
      = s.machine.flushes.toList ++ e.flushed?.toList := by
  have same {m : Machine} (h : m.flushes = s.machine.flushes) :
      m.flushes.toList = s.machine.flushes.toList ++ [] := by simp [h]
  cases e with
  | enter phase => exact same rfl
  | stage data =>
    refine same (Attempt.flushes_ofAct ?_ s)
    exact keeps_ite (keeps_modify (fun _ => rfl)) (keeps_throw trivial)
  | flush address len =>
    rw [run, Attempt.ofAct_apply]
    unfold Act.flush
    rw [bind_ok (modify_apply _ _), Op.ite_apply]
    have noted : (s.machine.flushes.push ⟨address, len⟩).toList
        = s.machine.flushes.toList ++ [⟨address, len⟩] := Array.toList_push
    split
    · exact noted
    · exact noted
  | note t => exact same rfl
  | write r value =>
    exact same (Attempt.flushes_ofAct (Act.keeps_writeRegister Machine.steady_flushes _ _) s)
  | reset => exact same rfl
  | wait d => exact same ((Act.keeps_flushes_await d _ s.machine).1)
  | count direction => exact same rfl
  | deliver buffer offset len =>
    have taken := Attempt.flushes_ofAct (a := route.bounce.unstage len)
      (keeps_ite (keeps_bind keeps_get (fun _ => keeps_pure _)) (keeps_throw trivial)) s
    refine same ?_
    rw [run, Attempt.bind_apply]
    rcases read : Attempt.ofAct (route.bounce.unstage len) s with ⟨_ | _ | data, s'⟩
    all_goals
      rw [read] at taken
      exact taken

namespace Route

variable {route : Route}

/-- **The flushed ranges are those of the effects performed**, in their
order. -/
theorem flushes_perform (es : List Effect) (s : Service) :
    (route.perform es s).2.machine.flushes.toList
      = s.machine.flushes.toList ++ (route.performed es s).filterMap Effect.flushed? := by
  induction es generalizing s with
  | nil => exact (List.append_nil _).symm
  | cons e es ih =>
    have first := e.flushes_run route s
    rcases route.perform_step e s with ⟨s', run, rest⟩ | ⟨-, last⟩
    · rw [run] at first
      rw [(rest es).1, (rest es).2, ih, first, List.filterMap_cons]
      cases e.flushed? <;> simp
    · rw [(last es).1, (last es).2, first, List.filterMap_cons]
      cases e.flushed? <;> simp

/-- **Every effect finds the flushes of those before it** done, and no
others. -/
theorem flushes_before {es before after : List Effect} {e : Effect} {s : Service}
    (h : route.performed es s = before ++ e :: after) :
    ∃ s', route.perform before s = (.ok (.ok ()), s')
      ∧ s'.machine.flushes.toList
        = s.machine.flushes.toList ++ before.filterMap Effect.flushed? := by
  have done : ∃ s', route.perform before s = (.ok (.ok ()), s') := by
    induction before generalizing es s with
    | nil => exact ⟨s, rfl⟩
    | cons b before ih =>
      cases es with
      | nil => cases h
      | cons e' es =>
        rcases route.perform_step e' s with ⟨s₁, -, rest⟩ | ⟨-, last⟩
        · obtain ⟨rfl, onward⟩ := List.cons.inj ((rest es).2.symm.trans h)
          rw [(rest before).1]
          exact ih onward
        · -- an effect that is the last one has none after it
          simp [(last es).2] at h
  obtain ⟨s', run⟩ := done
  have flushes := route.flushes_perform before s
  rw [run, performed_of_ok run] at flushes
  exact ⟨s', run, flushes⟩

end Route

/-! ## Requests that return -/

/-- Chunks that follow one another up to a point end there, unless there are
none. -/
theorem Chunk.Tiles.last {start stop : Nat} {cs : List Chunk} (tiles : Tiles start cs stop)
    (apart : start ≠ stop) : ∃ c ∈ cs, c.offset + c.len = stop := by
  induction cs generalizing start with
  | nil => exact absurd tiles apart
  | cons c cs ih =>
    obtain ⟨rfl, rest⟩ := tiles
    by_cases ends : c.offset + c.len = stop
    · exact ⟨c, List.mem_cons_self, ends⟩
    · obtain ⟨c', hc', stops⟩ := ih rest ends
      exact ⟨c', List.mem_cons_of_mem c hc', stops⟩

namespace Route

variable {route : Route} {cursor : Nat}

/-- A segment whose pieces end within a word does so itself. -/
theorem segment_lt {s : Segment} (place : route.address cursor < Geometry.wordLimit)
    (flushable : ∀ p ∈ route.segmentPieces cursor s, p.Flushable route.bounce) :
    route.address cursor + s.size < Geometry.wordLimit := by
  by_cases empty : s.size = 0
  · rwa [empty]
  · -- the last chunk ends where the segment does
    obtain ⟨c, hc, stop⟩ :=
      (Chunk.Plan.tiles_start s.size route.bounce.size).last (Ne.symm empty)
    have ends := (flushable _ (List.mem_map.mpr ⟨c, hc, rfl⟩)).remote
    have size : Piece.size ⟨route.address cursor + c.offset, c.offset, s.part c⟩ = c.len :=
      Segment.size_part (Nat.le_of_eq stop)
    rw [size, Nat.add_assoc _ c.offset, stop] at ends
    unfold Geometry.lineSize at ends
    omega

/-- **Serving segments that returns is moving their pieces**, though addresses
beyond a piece that failed may leave their word. -/
theorem serveSegments_returned {ss : List Segment} {s s' : Service}
    {result : Except TransferError Unit}
    (flushable : ∀ p ∈ route.pieces cursor ss, p.Flushable route.bounce)
    (returned : route.serveSegments cursor ss s = (.ok result, s')) :
    route.moveAll (route.pieces cursor ss) s = (.ok result, s') := by
  induction ss generalizing cursor s with
  | nil => exact returned
  | cons segment ss ih =>
    rw [pieces] at flushable ⊢
    have here := fun p hp => flushable p (List.mem_append_left _ hp)
    have later := fun p hp => flushable p (List.mem_append_right _ hp)
    have place : route.address cursor < Geometry.wordLimit := by
      by_contra beyond
      have overflow : route.serveSegment cursor segment s = (.error .overflow, s) :=
        Attempt.bind_fault (Attempt.ofAct_word_overflow (Nat.not_lt.mp beyond) s)
      cases (Attempt.bind_fault overflow).symm.trans returned
    have fits := segment_lt place here
    rw [serveSegments, serveSegment_eq fits, Attempt.bind_apply] at returned
    rw [moveAll_append, Attempt.bind_apply]
    rcases first : route.moveAll (route.segmentPieces cursor segment) s with ⟨_ | _ | _, s₁⟩
    all_goals rw [first] at returned
    · exact returned
    · exact returned
    · -- the cursor is a word as well, being no larger than the address it stands for
      have next : cursor + segment.size / Geometry.sectorSize < Geometry.wordLimit := by
        unfold address Geometry.sectorSize at fits
        unfold Geometry.sectorSize
        omega
      have value := UInt64.toNat_ofNat_of_lt' next
      dsimp only at returned
      rw [Attempt.ofAct_word next, pure_bind, value] at returned
      exact ih later returned

/-- The machine of a request that is announced. -/
def announced (r : Request) (s : Service) : Service :=
  { s with machine := s.machine.report .trace ("[OMNI] request " ++ r.text) }

/-- **A request that returns** has performed effects of its pieces, and its
phase is settled by the result. -/
theorem serve_returned {r : Request} {s ended : Service} {result : Except TransferError Unit}
    (flushable : ∀ p ∈ r.pieces route, p.Flushable route.bounce)
    (returned : route.serve r s = (.ok result, ended)) :
    ∃ s', route.perform ((r.pieces route).flatMap (Piece.effects route.bounce)) (announced r s)
        = (.ok result, s')
      ∧ ended = { s' with phase := Phase.settled result } := by
  obtain ⟨_, s₁, reported, served⟩ := bind_ok_inv returned
  cases reported
  obtain ⟨outcome, s₂, moved, rest⟩ := bind_ok_inv served
  have performed := serveSegments_returned flushable moved
  rw [moveAll_eq_perform] at performed
  cases outcome with
  | ok =>
    cases rest
    exact ⟨s₂, performed, rfl⟩
  | error cause =>
    cases rest
    exact ⟨s₂, performed, rfl⟩

/-- **Cache lines are flushed in order.** To serve a request is to perform the
effects of its pieces one after another, on every machine and also where a flush
or something else ends in a fault; and the effects of a piece are in order
(`Piece.InOrder`). A request that returns has performed all of them, or those of
the pieces before the one that failed and of this one up to its wait. So of every
piece that was started the source is flushed, before its transfer is described,
and of those that ended well the destination, before bytes are delivered and
before the next piece; nothing else is flushed. -/
theorem serve_flushes_in_order {r : Request} {s : Service} {result : Except TransferError Unit}
    (flushable : ∀ p ∈ r.pieces route, p.Flushable route.bounce)
    (returned : (route.serve r s).1 = .ok result) :
    let effects := (r.pieces route).flatMap (Piece.effects route.bounce)
    let performed := route.performed effects (announced r s)
    let ended := (route.serve r s).2
    let before := s.machine.flushes.toList
    (∀ q : Request, route.Fits q.sector.toNat q.segments.toList →
        route.serve q = route.serveInOrder q)
      ∧ (∀ p : Piece, p.InOrder route.bounce (p.effects route.bounce)
        ∧ route.movePiece p = route.perform (p.effects route.bounce))
      ∧ (∃ s', route.perform effects (announced r s) = (.ok result, s')
        ∧ ended = { s' with phase := Phase.settled result })
      ∧ (∀ earlier e later, performed = earlier ++ e :: later →
        ∃ s', route.perform earlier (announced r s) = (.ok (.ok ()), s')
          ∧ s'.machine.flushes.toList = before ++ earlier.filterMap Effect.flushed?)
      ∧ (∀ p ∈ r.pieces route, (p.descriptor route.bounce).length.toNat = p.size
        ∧ (p.descriptor route.bounce).remote.toNat = p.remote)
      ∧ match result with
        | .ok () => performed = effects
          ∧ ended.machine.flushes.toList
            = before ++ (r.pieces route).flatMap (Piece.flushes route.bounce)
        | .error _ => ∃ done p rest, r.pieces route = done ++ p :: rest
          ∧ performed = done.flatMap (Piece.effects route.bounce) ++ p.launching route.bounce
          ∧ ended.machine.flushes.toList
            = before ++ done.flatMap (Piece.flushes route.bounce)
              ++ (p.flushes route.bounce).take 1 := by
  intro effects performed ended before
  have traced := route.flushes_perform effects (announced r s)
  have whole (ps : List Piece) : (ps.flatMap (Piece.effects route.bounce)).filterMap Effect.flushed?
      = ps.flatMap (Piece.flushes route.bounce) := by
    simp only [List.filterMap_flatMap, Piece.flushes_effects]
  obtain ⟨s', run, ends⟩ := serve_returned flushable (apply_eq returned)
  have flushes : ended.machine.flushes = s'.machine.flushes := by
    show (route.serve r s).2.machine.flushes = s'.machine.flushes
    rw [ends]
  rw [run] at traced
  refine ⟨fun _ => route.serve_eq_serveInOrder,
    fun p => ⟨p.inOrder_effects route.bounce, route.movePiece_eq_perform p⟩,
    ⟨s', run, ends⟩, fun _ _ _ h => flushes_before h,
    fun p hp => ⟨(flushable p hp).length, (flushable p hp).address⟩, ?_⟩
  cases result with
  | ok =>
    have all : performed = effects := performed_of_ok run
    refine ⟨all, ?_⟩
    rw [flushes, traced, show route.performed effects _ = effects from all, whole]
    rfl
  | error cause =>
    obtain ⟨done, p, rest, pieces, some⟩ := performed_pieces_of_failed run
    refine ⟨done, p, rest, pieces, some, ?_⟩
    rw [flushes, traced, show route.performed effects _ = _ from some, List.filterMap_append,
      whole, p.flushes_launching, List.append_assoc]
    rfl

/-- Six bytes read by way of four: each time the disk's side is flushed first
and the bounce buffer afterwards. -/
theorem serve_flushes_in_order_two_pieces :
    let route : Route := ⟨⟨0x100, 4⟩, 0x1000, 5⟩
    let r := Request.read 1 [⟨#[0, 0, 0, 0, 0, 0]⟩]
    let m : Machine :=
      { controller := .engine { doneBits := 4 }
        window := { base := 0x1000, size := 0x400 }
        channel := { mode := .polling 1, doneMask := 4, errorMask := 2 }
        clock := Clock.stepping }
    (route.serve r { machine := m }).1 = .ok (.ok ())
      ∧ (route.serve r { machine := m }).2.machine.flushes.toList
        = [⟨0x1200, 4⟩, ⟨0x100, 4⟩, ⟨0x1204, 2⟩, ⟨0x100, 2⟩] := by
  intro route r m
  have pieces : r.pieces route = [⟨0x1200, 0, .sink 0 4⟩, ⟨0x1204, 4, .sink 0 2⟩] := by
    have chunks : (Chunk.Plan.start 6 4).chunks = [⟨0, 4⟩, ⟨4, 2⟩] := by
      decide +kernel
    have address : route.address 1 = 0x1200 := by decide
    show (Chunk.Plan.start 6 4).chunks.map (fun c => Piece.mk (route.address 1 + c.offset)
      c.offset ((Segment.sink 0 _).part c)) ++ [] = _
    rw [chunks, address]
    rfl
  have flushable : ∀ p ∈ r.pieces route, p.Flushable route.bounce := by
    rw [pieces]
    simp only [List.forall_mem_cons, List.not_mem_nil, false_imp_iff, implies_true, and_true]
    exact ⟨⟨by decide, by decide⟩, ⟨by decide, by decide⟩⟩
  have returned : (route.serve r { machine := m }).1 = .ok (.ok ()) := by
    decide +kernel
  obtain ⟨-, -, -, -, -, -, flushes⟩ := serve_flushes_in_order flushable returned
  rw [pieces] at flushes
  exact ⟨returned, flushes⟩

end Route

end RemoteDisk
