import RemoteDisk.Proofs.FlatDisk
import Mathlib.Algebra.Order.Floor.Div

/-!
# Rejections

Two checks stand between a request and the disk: whether the operation moves
data, and whether the request ends within the disk. The second one adds words
with an eye on the carry and so comes out as it would in exact numbers
(`Device.inRange_eq_false`): no sector near the top of its word wraps around
it. A request that fails a check leaves nothing behind but an entry in the
journal.

Every other request is served. Serving has many exits, but they all lead
through one place, where the phase is settled by the result
(`Route.serve_settled`).
-/

namespace RemoteDisk

/-- Reads and writes move data, and nothing else does. -/
theorem Operation.direction?_ne_none {op : Operation} :
    op.direction? ≠ none ↔ op = .read ∨ op = .write := by
  cases op <;> simp [direction?]

/-- **The sectors of a request** are its bytes by those of a sector, rounded
up. -/
theorem Request.sectors_eq_ceilDiv (r : Request) :
    r.sectors = r.segments.totalBytes ⌈/⌉ Geometry.sectorSize := by
  rw [Nat.ceilDiv_eq_add_pred_div]
  rfl

/-- **The phase a result leaves a request in.** -/
def Phase.settled {ε : Type} : Except ε Unit → Phase
  | .ok () => .completed
  | .error _ => .failed

namespace Phase

variable {ε : Type} {result : Except ε Unit}

theorem settled_eq_completed : settled result = .completed ↔ result = .ok () := by
  cases result <;> simp [settled]

theorem settled_eq_failed : settled result = .failed ↔ ∃ e, result = .error e := by
  cases result <;> simp [settled]

/-- What kind of error it was does not matter to the phase. -/
theorem settled_mapError {δ : Type} (f : ε → δ) : settled (result.mapError f) = settled result := by
  cases result <;> rfl

end Phase

open Op

/-- **Serving settles the phase** whenever it returns, whichever way it went
before. -/
theorem Route.serve_settled {route : Route} {r : Request} {s s' : Service}
    {result : Except TransferError Unit} (returned : route.serve r s = (.ok result, s')) :
    s'.phase = Phase.settled result := by
  obtain ⟨_, _, -, served⟩ := bind_ok_inv returned
  obtain ⟨outcome, s, -, rest⟩ := bind_ok_inv served
  -- what is left enters the last phase and hands the outcome on
  cases outcome with
  | ok =>
    cases rest
    rfl
  | error cause =>
    cases rest
    rfl

namespace Device

variable {d : Device} {r : Request} {m : Machine}

/-- **The second check is exact.** A request fails it where the sector it ends
at, in numbers without a bound, lies past the disk. -/
theorem inRange_eq_false : d.inRange r = false
    ↔ d.capacity < r.sector.toNat + r.segments.totalBytes ⌈/⌉ Geometry.sectorSize := by
  rw [← r.sectors_eq_ceilDiv, ← Bool.not_eq_true, inRange_iff, Nat.not_le]

/-- An accepted request handed on to be served, from its start on. -/
def handOn (d : Device) (r : Request) : Serve (Except BlockError Unit) := do
  Serve.enter .started
  let result ← d.route.serve r
  return result.mapError .transfer

/-- **What a request that passes both checks comes back with** is what serving
it comes back with. -/
theorem submit_eq_handOn (moves : r.operation.direction? ≠ none)
    (total : r.segments.totalBytes < Geometry.wordLimit) (accepted : d.inRange r = true)
    (s : Service) : d.submit r s = d.handOn r s := by
  unfold submit
  rw [if_neg moves, bind_ok (ofAct_word_ok total s), accepted]
  rfl

/-- A request that was handed on and returned comes from one that was
served. -/
theorem handOn_inv {s s' : Service} {result : Except BlockError Unit}
    (returned : d.handOn r s = (.ok result, s')) :
    ∃ served, result = served.mapError .transfer
      ∧ d.route.serve r { s with phase := .started } = (.ok served, s') := by
  obtain ⟨_, _, entered, returned⟩ := bind_ok_inv returned
  cases entered
  obtain ⟨served, _, serving, handed⟩ := bind_ok_inv returned
  cases handed
  exact ⟨served, rfl, serving⟩

/-- A request that was handed on is left completed or failed, as its result
says. -/
theorem handOn_settled {s s' : Service} {result : Except BlockError Unit}
    (returned : d.handOn r s = (.ok result, s')) : s'.phase = Phase.settled result := by
  obtain ⟨served, rfl, serving⟩ := handOn_inv returned
  rw [Phase.settled_mapError, Route.serve_settled serving]

/-- A request that was handed on ends in no error of the checks. -/
theorem handOn_ne_error {s : Service} {e : BlockError} (h : ∀ cause, e ≠ .transfer cause) :
    (d.handOn r s).1 ≠ .ok (.error e) := by
  intro ended
  obtain ⟨served, same, -⟩ := handOn_inv (apply_eq ended)
  cases served with
  | ok => cases same
  | error cause =>
    cases same
    exact h cause rfl

/-- **What a rejected request leaves behind**: it is failed, and the machine
and the request's buffers are as they were but for an entry in the journal. -/
structure Rejected (d : Device) (r : Request) (e : BlockError) (m : Machine) : Prop where
  /-- It is submitted in vain. -/
  submitted : ∃ entry, (d.submit r).runOn m
    = (⟨.ok (.error e), .failed, []⟩, { m with journal := m.journal.push entry })
  /-- The block layer is told that it failed. -/
  answered : ∃ entry, d.answer r m
    = (⟨.ok .failed, .failed, r.buffers⟩, { m with journal := m.journal.push entry })

/-- A request that is refused with an entry in the journal is rejected. -/
theorem Rejected.of_submit {e : BlockError} {level : Level} {text : String}
    (refused : d.submit r { machine := m } = (.ok (.error e),
      { machine := m.report level text, phase := .failed })) : d.Rejected r e m where
  submitted := by
    refine ⟨⟨level, text⟩, ?_⟩
    unfold Serve.runOn
    rw [refused]
    rfl
  answered := by
    refine ⟨⟨level, text⟩, ?_⟩
    unfold answer Serve.runOn
    rw [queue_apply, refused]
    show (Response.mk _ _ (r.buffersAfter []), _) = _
    rw [r.buffersAfter_nil]
    rfl

/-- The result of a rejected request. -/
theorem Rejected.result {e : BlockError} (rejected : d.Rejected r e m) :
    ((d.submit r).runOn m).1.result = .ok (.error e) := by
  obtain ⟨entry, submitted⟩ := rejected.submitted
  rw [submitted]

/-- **What becomes of a request**: it is rejected by one of the two checks, or
it is handed on. -/
theorem submit_cases (d : Device) (m : Machine) (r : Request)
    (total : r.segments.totalBytes < Geometry.wordLimit) :
    (r.operation.direction? = none ∧ d.Rejected r .unsupported m)
      ∨ (r.operation.direction? ≠ none ∧ d.inRange r = false ∧ d.Rejected r .outOfRange m)
      ∨ (r.operation.direction? ≠ none ∧ d.inRange r = true
        ∧ (d.submit r).runOn m = (d.handOn r).runOn m) := by
  by_cases still : r.operation.direction? = none
  · exact .inl ⟨still, .of_submit (submit_unsupported still _)⟩
  · cases accepted : d.inRange r with
    | false =>
      obtain ⟨text, refused⟩ := submit_outOfRange still total accepted { machine := m }
      exact .inr (.inl ⟨still, rfl, .of_submit refused⟩)
    | true =>
      refine .inr (.inr ⟨still, rfl, ?_⟩)
      unfold Serve.runOn
      rw [submit_eq_handOn still total accepted]

/-- **Rejections are exact.** An operation that moves no data is unsupported
wherever it is aimed at; of the others, those are out of range whose sectors,
counted in exact numbers, do not end within the disk. A rejected request
leaves everything as it was. Every other request is handed on to be served,
and is left completed or failed as its result says. -/
theorem submit_rejects_exactly (d : Device) (m : Machine) (r : Request)
    (total : r.segments.totalBytes < Geometry.wordLimit) :
    let served := ((d.submit r).runOn m).1
    let moves := r.operation = .read ∨ r.operation = .write
    let stop := r.sector.toNat + r.segments.totalBytes ⌈/⌉ Geometry.sectorSize
    (served.result = .ok (.error .unsupported) ↔ ¬ moves)
      ∧ (served.result = .ok (.error .outOfRange) ↔ moves ∧ d.capacity < stop)
      ∧ (∀ e, e = .unsupported ∨ e = .outOfRange → served.result = .ok (.error e) →
        d.Rejected r e m)
      ∧ (moves → stop ≤ d.capacity →
        (d.submit r).runOn m = (d.handOn r).runOn m
          ∧ ∀ result, served.result = .ok result →
            (served.phase = .completed ↔ result = .ok ())
              ∧ (served.phase = .failed ↔ ∃ e, result = .error e)) := by
  intro served moves stop
  have moving : moves ↔ r.operation.direction? ≠ none := Operation.direction?_ne_none.symm
  have past : d.capacity < stop ↔ d.inRange r = false := inRange_eq_false.symm
  rw [← Nat.not_lt, moving, past]
  rcases submit_cases d m r total with
    ⟨still, rejected⟩ | ⟨way, outside, rejected⟩ | ⟨way, accepted, handed⟩
  · have result : served.result = .ok (.error .unsupported) := rejected.result
    refine ⟨by simp [result, still], by simp [result, still], ?_, fun way => absurd still way⟩
    intro e _ ended
    cases result.symm.trans ended
    exact rejected
  · have result : served.result = .ok (.error .outOfRange) := rejected.result
    refine ⟨by simp [result, way], by simp [result, way, outside], ?_,
      fun _ within => absurd outside within⟩
    intro e _ ended
    cases result.symm.trans ended
    exact rejected
  · have same : served = ((d.handOn r).runOn m).1 := congrArg Prod.fst handed
    have unlike : ∀ e, (∀ cause, e ≠ .transfer cause) → served.result ≠ .ok (.error e) :=
      fun e h => same ▸ handOn_ne_error h
    have supported := unlike .unsupported (fun _ h => nomatch h)
    have inside := unlike .outOfRange (fun _ h => nomatch h)
    refine ⟨by simp [supported, way], by simp [inside, accepted], ?_,
      fun _ _ => ⟨handed, fun result ended => ?_⟩⟩
    · rintro e (rfl | rfl) ended
      · exact absurd ended supported
      · exact absurd ended inside
    · have phase : served.phase = Phase.settled result := by
        rw [same] at ended ⊢
        exact handOn_settled (apply_eq ended)
      rw [phase]
      exact ⟨Phase.settled_eq_completed, Phase.settled_eq_failed⟩

/-- A byte is read from the last sector there is a number for: its end wraps
around no word, and the request is out of range. -/
theorem submit_rejects_exactly_topmost_sector :
    ((submit ⟨{}, 2, none, ⟨0x80000000, 4096⟩⟩
        (.read 0xffffffffffffffff [⟨#[0]⟩])).runOn {}).1.result = .ok (.error .outOfRange)
      ∧ Rejected ⟨{}, 2, none, ⟨0x80000000, 4096⟩⟩ (.read 0xffffffffffffffff [⟨#[0]⟩])
        .outOfRange {} := by
  obtain ⟨-, outOfRange, rejected, -⟩ :=
    submit_rejects_exactly ⟨{}, 2, none, ⟨0x80000000, 4096⟩⟩ {}
      (.read 0xffffffffffffffff [⟨#[0]⟩]) (by decide)
  have result := outOfRange.mpr ⟨.inl rfl, by rw [Nat.ceilDiv_eq_add_pred_div]; decide⟩
  exact ⟨result, rejected _ (.inr rfl) result⟩

end Device

end RemoteDisk
