import RemoteDisk.Device
import RemoteDisk.Proofs.Twins

/-!
# Requests on twins

Two machines that do the same work serve a request alike, provided that
their waits come to the same result whenever the slot of each tells what its
status register tells. A `Coupling` is a relation between the surroundings of
two machines for which that is so. Everything else a request does, from the
range check to the last chunk, is the same on both sides, whatever it is; so
the theorems of this module follow the request down to its transfers
without asking what the relation says.
-/

namespace RemoteDisk

open Op Machine

/-- **A relation between surroundings under which waits go side by side.** -/
structure Coupling (lost : Fault → Prop) (X : Surroundings → Surroundings → Prop)
    (ms : UInt64) : Prop where
  /-- Interrupts that are counted on both sides keep it. -/
  recount : ∀ {s s' : Surroundings} (f : UInt64 → UInt64), X s s' →
    X (s.recount f) (s'.recount f)
  /-- Waits come to the same result. -/
  wait : Abreast lost (Twin X) (Poised X) (Act.wait ms) (Act.wait ms) (Twin X)

variable {lost : Fault → Prop} {X : Surroundings → Surroundings → Prop}

/-! ## Operations without a wait -/

namespace Act

theorem report_abreast (level : Level) (text : String) :
    Abreast lost (Twin X) (Twin X) (report level text) (report level text) (Twin X) :=
  abreast_modify fun _ _ h => h.report level text

theorem flush_abreast (address : UInt64) (len : Nat) :
    Abreast lost (Twin X) (Twin X) (flush address len) (flush address len) (Twin X) := by
  refine abreast_bind (abreast_modify fun _ _ h => h.flushed address len) fun _ => ?_
  exact abreast_ite (abreast_throw _ fun _ _ h => h) (abreast_pure _ fun _ _ h => h)

theorem word_abreast (n : Nat) : Abreast lost (Twin X) (Twin X) (word n) (word n) (Twin X) :=
  abreast_ite (abreast_pure _ fun _ _ h => h) (abreast_throw _ fun _ _ h => h)

/-- Twins show the same status. -/
theorem readStatus_abreast :
    Abreast lost (Twin X) (Twin X) readStatus readStatus (Twin X) := by
  refine abreast_modifyGet fun m m' h => ?_
  rw [h.tended.hasEngine.readStatus, h.tended'.hasEngine.readStatus]
  exact ⟨h.status.symm, h⟩

/-- A count that does not look at the interrupts. -/
theorem count_abreast {f : Counters → Counters}
    (others : ∀ c, (f c).withoutIrqs = f c.withoutIrqs) (irqs : ∀ c, (f c).irqs = c.irqs) :
    Abreast lost (Twin X) (Twin X) (count f) (count f) (Twin X) :=
  abreast_modify fun _ _ h => h.counted others irqs

end Act

namespace Buffer

theorem stage_abreast (b : Buffer) (data : ByteArray) :
    Abreast lost (Twin X) (Twin X) (b.stage data) (b.stage data) (Twin X) := by
  refine abreast_ite (abreast_modify fun _ _ h => ?_) (abreast_throw _ fun _ _ h => h)
  exact h.staged fun memory => memory.write b.base.toNat data

theorem unstage_abreast (b : Buffer) (len : Nat) :
    Abreast lost (Twin X) (Twin X) (b.unstage len) (b.unstage len) (Twin X) := by
  refine abreast_ite (abreast_get fun m m' h => ?_) (abreast_throw _ fun _ _ h => h)
  rw [h.sameMemory.memory]
  exact .ended _ h

end Buffer

namespace Descriptor

variable (d : Descriptor)

theorem succeed_abreast :
    Abreast lost (Twin X) (Twin X) d.succeed d.succeed (Twin X) := by
  refine abreast_bind (Act.flush_abreast _ _) fun _ => ?_
  cases d.direction
  · exact Act.count_abreast (fun _ => rfl) fun _ => rfl
  · exact Act.count_abreast (fun _ => rfl) fun _ => rfl

theorem fail_abreast (ms : UInt64) (cause : TransferError) :
    Abreast lost (Twin X) (Twin X) (d.fail ms cause) (d.fail ms cause) (Twin X) := by
  have error : Abreast lost (Twin X) (Twin X) (Act.count Counters.countError)
      (Act.count Counters.countError) (Twin X) :=
    Act.count_abreast (fun _ => rfl) fun _ => rfl
  cases cause with
  | timeout =>
    refine abreast_bind (Act.count_abreast (fun _ => rfl) fun _ => rfl) fun _ => ?_
    refine abreast_bind error fun _ => ?_
    exact abreast_bind (Act.report_abreast _ _) fun _ => Act.report_abreast _ _
  | engine status => exact abreast_bind error fun _ => Act.report_abreast _ _

end Descriptor

/-! ## Requests -/

namespace Coupling

variable {ms : UInt64} (c : Coupling lost X ms)
include c

theorem begin (d : Descriptor) :
    Abreast lost (Twin X) (Twin X) d.begin d.begin (Poised X) :=
  abreast_bind (Act.flush_abreast _ _) fun _ => Act.launch_abreast c.recount d.transfer

theorem finish (d : Descriptor) :
    Abreast lost (Twin X) (Poised X) (d.finish ms) (d.finish ms) (Twin X) := by
  refine abreast_bind c.wait fun result => ?_
  rcases result with cause | _
  · exact abreast_bind (d.fail_abreast ms cause) fun _ => abreast_pure _ fun _ _ h => h
  · exact abreast_bind d.succeed_abreast fun _ => abreast_pure _ fun _ _ h => h

variable {route : Route} (timeout : route.timeoutMs = ms)
include timeout

/-- **A chunk is moved alike** on both sides. -/
theorem move (d : Descriptor) :
    Attempt.Together lost (Service.Beside (Twin X)) (route.move d) (route.move d) := by
  subst timeout
  refine abreast_bind (Serve.abreast_enter .transferring) fun _ => ?_
  refine abreast_bind (Serve.abreast_ofAct (c.begin d)) fun _ => ?_
  refine abreast_bind (Serve.abreast_enter .waiting) fun _ => ?_
  exact Serve.abreast_ofAct (c.finish d)

theorem serveChunk (segment : Segment) (start : UInt64) (chunk : Chunk) :
    Attempt.Together lost (Service.Beside (Twin X)) (route.serveChunk segment start chunk)
      (route.serveChunk segment start chunk) := by
  have described (direction : Direction) : Attempt.Together lost (Service.Beside (Twin X))
      (Attempt.ofAct (route.descriptor direction start chunk))
      (Attempt.ofAct (route.descriptor direction start chunk)) := by
    refine Attempt.together_ofServe (Serve.abreast_ofAct ?_)
    exact abreast_bind (Act.word_abreast _) fun _ => abreast_pure _ fun _ _ h => h
  cases segment with
  | source data =>
    refine Attempt.together_bind (Attempt.together_ofServe (Serve.abreast_enter _)) fun _ => ?_
    refine Attempt.together_bind (Attempt.together_ofExcept _) fun _ => ?_
    refine Attempt.together_bind
      (Attempt.together_ofServe (Serve.abreast_ofAct (Buffer.stage_abreast _ _))) fun _ => ?_
    exact Attempt.together_bind (described .write) fun d => c.move timeout d
  | sink buffer size =>
    refine Attempt.together_bind (described .read) fun d => ?_
    refine Attempt.together_bind (c.move timeout d) fun _ => ?_
    refine Attempt.together_bind (Attempt.together_ofExcept _) fun _ => ?_
    refine Attempt.together_bind
      (Attempt.together_ofServe (Serve.abreast_ofAct (Buffer.unstage_abreast _ _))) fun data => ?_
    exact Attempt.together_ofServe (Serve.abreast_deliver ⟨buffer, chunk.offset, data⟩)

theorem serveChunks (segment : Segment) (start : UInt64) (chunks : List Chunk) :
    Attempt.Together lost (Service.Beside (Twin X)) (route.serveChunks segment start chunks)
      (route.serveChunks segment start chunks) := by
  induction chunks with
  | nil => exact Attempt.together_pure ()
  | cons chunk rest ih =>
    exact Attempt.together_bind (c.serveChunk timeout segment start chunk) fun _ => ih

theorem serveSegments (cursor : Nat) (segments : List Segment) :
    Attempt.Together lost (Service.Beside (Twin X)) (route.serveSegments cursor segments)
      (route.serveSegments cursor segments) := by
  have word (n : Nat) : Attempt.Together lost (Service.Beside (Twin X))
      (Attempt.ofAct (Act.word n)) (Attempt.ofAct (Act.word n)) :=
    Attempt.together_ofServe (Serve.abreast_ofAct (Act.word_abreast n))
  induction segments generalizing cursor with
  | nil => exact Attempt.together_pure ()
  | cons segment rest ih =>
    refine Attempt.together_bind ?_ fun _ => Attempt.together_bind (word _) fun next => ih _
    exact Attempt.together_bind (word _) fun start => c.serveChunks timeout segment start _

/-- **A request is served alike** on both sides. -/
theorem serve (r : Request) :
    Abreast lost (Service.Beside (Twin X)) (Service.Beside (Twin X)) (route.serve r)
      (route.serve r) (Service.Beside (Twin X)) := by
  refine abreast_bind (Serve.abreast_ofAct (Act.report_abreast _ _)) fun _ => ?_
  refine abreast_bind (c.serveSegments timeout _ _) fun result => ?_
  rcases result with cause | _
  · exact abreast_bind (Serve.abreast_enter _) fun _ => abreast_pure _ fun _ _ h => h
  · exact abreast_bind (Serve.abreast_enter _) fun _ => abreast_pure _ fun _ _ h => h

omit timeout in
/-- **A disk comes to the same result** on both sides. -/
theorem submit (d : Device) (timeout : ms = Geometry.timeoutMs) (r : Request) :
    Abreast lost (Service.Beside (Twin X)) (Service.Beside (Twin X)) (d.submit r) (d.submit r)
      (Service.Beside (Twin X)) := by
  have refused (level : Level) (text : String) (e : BlockError) :
      Abreast lost (Service.Beside (Twin X)) (Service.Beside (Twin X))
        (Device.refuse level text e) (Device.refuse level text e) (Service.Beside (Twin X)) := by
    refine abreast_bind (Serve.abreast_ofAct (Act.report_abreast _ _)) fun _ => ?_
    exact abreast_bind (Serve.abreast_enter _) fun _ => abreast_pure _ fun _ _ h => h
  refine abreast_ite (refused _ _ _) ?_
  refine abreast_bind (Serve.abreast_ofAct (Act.word_abreast _)) fun total => ?_
  refine abreast_ite (refused _ _ _) ?_
  refine abreast_bind (Serve.abreast_enter _) fun _ => ?_
  exact abreast_bind (c.serve timeout.symm r) fun _ => abreast_pure _ fun _ _ h => h

end Coupling

end RemoteDisk
