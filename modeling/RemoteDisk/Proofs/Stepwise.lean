import RemoteDisk.Proofs.Interplay

/-!
# Steps that nothing comes between

The steps of worker and engine are parts of operations that are known as a
whole elsewhere. Where nothing comes between them they make up these
operations again: the steps of the worker a launch, a look of a wait that
polls and what a wait comes back with, and the steps of the engine the end of
a transfer.
-/

namespace RemoteDisk

open Op

/-- **What a wait comes back with** once it has found that the transfer is
over. -/
theorem Act.wait_of_ready {ms : UInt64} {m m' : Machine}
    (ready : awaitCompletion ms m = (.ok .ready, m')) :
    wait ms m = (.ok m'.conclude.1, m'.conclude.2) := by
  unfold Machine.conclude
  refine (bind_ok ready).trans ((bind_ok (get_apply m')).trans ?_)
  by_cases none : m'.channel.errorMask = 0
  · rw [if_pos none, if_pos none]
    rfl
  · rw [if_neg none, if_neg none]
    exact bind_ok (show readStatus m' = (.ok m'.readStatus.1, m'.readStatus.2) from rfl)

namespace Interplay

variable {s s₁ : Interplay} {e : Engine} {t : Transfer}

/-- One step, and then the others. -/
theorem run_cons {allowed : Interplay → Move → Bool} {move : Move} (ok : allowed s move = true)
    (next : s.step move = some s₁) (rest : List Move) :
    run allowed (move :: rest) s = run allowed rest s₁ := by
  unfold run
  rw [List.foldlM_cons, if_pos ok, next]
  rfl

/-- The steps that describe a transfer are its register writes. -/
theorem run_describing {left : List (Register × UInt32)} (others : ∀ w ∈ left, w.1 ≠ .control)
    (engine : s.machine.controller = .engine e) (describing : s.worker = .describing t left)
    (rest : List Move) :
    run (fun _ _ => true) (List.replicate left.length .work ++ rest) s
      = run (fun _ _ => true) rest { s with
        machine := (Act.writeAll left s.machine).2, worker := .describing t [] } := by
  induction left generalizing s e with
  | nil =>
    rw [← describing]
    rfl
  | cons w left ih =>
    have quiet := Engine.starts_of_ne_control (others w List.mem_cons_self) w.2
    have wrote := Act.writeRegister_apply engine quiet
    have next : s.step .work = some { s with
        machine := s.machine.mapEngine fun e => e.set w.1.offset w.2
        worker := .describing t left } := by
      show s.work = _
      unfold work
      rw [describing]
      dsimp only
      rw [wrote]
    rw [List.length_cons, List.replicate_succ, List.cons_append, run_cons rfl next,
      ih (fun w hw => others w (List.mem_cons_of_mem _ hw))
        (Machine.controller_mapEngine engine _) rfl,
      Act.writeAll, bind_ok wrote]

/-- **The steps of the worker up to the start** are a launch. -/
theorem launch_unbroken (engine : s.machine.controller = .engine e) (idle : s.worker = .idle)
    (t : Transfer) :
    run (fun _ _ => true) (.begin t :: List.replicate 8 .work) s = some { s with
      machine := (Act.launch t.source t.destination t.length s.machine).2
      worker := .waiting t } := by
  let begun : Interplay := { s with
    machine := s.machine.report .trace ("[DMA] " ++ t.text)
    worker := .describing t (Register.program t.source t.destination t.length) }
  have others : ∀ w ∈ Register.program t.source t.destination t.length, w.1 ≠ .control := by
    simp [Register.program]
  have described := run_describing (s := begun) others engine rfl [.work, .work]
  have wrote := Act.writeAll_apply _ others (show begun.machine.controller = .engine e from engine)
  rw [run_cons rfl (show s.step (.begin t) = some begun from if_pos idle)]
  refine described.trans ?_
  unfold Act.launch
  rw [Act.report, bind_ok (modify_apply _ _), Act.program, bind_ok wrote,
    bind_ok (modify_apply _ _), wrote]
  rfl

/-- **The steps of the engine** are the end of a transfer. -/
theorem complete_unbroken {p : Postponed} {rest : List Postponed} {reached : Bool} {m : Machine}
    (pending : s.machine.pending = p :: rest) (none : s.unpublished = [])
    (copied : Act.copy p.transfer (s.machine.mapEngine fun e => { e with
      pending := e.pending.eraseIdx 0 }) = (.ok reached, m)) :
    run (fun _ _ => true) [.copy 0, .publish 0, .release, .raise] s = some { s with
      machine := (Act.complete p.transfer (s.machine.mapEngine fun e => { e with
        pending := e.pending.eraseIdx 0 })).2
      copied := s.copied ++ [(p.transfer, reached)] } := by
  have copy : s.step (.copy 0) = some { s with
      machine := m
      unpublished := [reached]
      copied := s.copied ++ [(p.transfer, reached)] } := by
    show s.copy 0 = _
    unfold Interplay.copy
    rw [pending]
    dsimp only [List.getElem?_cons_zero, Option.bind_eq_bind, Option.bind_some]
    rw [copied, none]
    rfl
  rw [run_cons rfl copy]
  unfold Act.complete
  rw [bind_ok copied, modify_apply]
  rcases s with ⟨machine, worker, unpublished, unreleased, unraised, copied, reports⟩
  cases none
  rfl

/-- **A look of a wait that polls** is one step where it finds the slot full,
and two where it goes on to the status register. -/
theorem ready_unbroken (polls : s.machine.channel.mode ≠ .interrupt)
    (waiting : s.worker = .waiting t) :
    ∃ found n, (Act.ready s.machine).1 = .ok found
      ∧ run (fun _ _ => true) (List.replicate n .work) s = some { s with
        machine := (Act.ready s.machine).2
        worker := if found then .noticed t else .waiting t } := by
  have next : s.step .work = some { s with
      machine := s.machine.resetSignal
      worker := if s.machine.channel.signaled then .noticed t else .peeking t } := by
    show s.work = _
    unfold work
    rw [waiting]
    dsimp only [Machine.takeSignal]
    rw [if_neg (show s.machine.resetSignal.channel.mode ≠ .interrupt from polls)]
  cases slot : s.machine.channel.signaled
  · rw [slot, if_neg Bool.false_ne_true] at next
    have look := Act.ready_reads slot
    refine ⟨_, 2, congrArg Prod.fst look, ?_⟩
    rw [look]
    exact (run_cons rfl next [.work]).trans rfl
  · rw [slot, if_pos rfl] at next
    have look := Act.ready_full slot
    refine ⟨true, 1, congrArg Prod.fst look, ?_⟩
    rw [look]
    exact (run_cons rfl next []).trans rfl

end Interplay

end RemoteDisk
