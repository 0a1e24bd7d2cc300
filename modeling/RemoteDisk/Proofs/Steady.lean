import RemoteDisk.Proofs.Launch

/-!
# What launches leave as it was

A launch writes registers, and the last of these writes may start a transfer.
Of the bare machine this changes the engine's log and the behaviours laid out
for it, and nothing else. So a view of the bare machine that tells nothing about
these two (`Machine.Steady`) is the same after a launch, whatever answers at the
registers and however the launch ends.
-/

namespace RemoteDisk

/-- **A view of the bare machine** that does not show which transfers were
started. -/
structure Machine.Steady {γ : Type} (view : Machine → γ) : Prop where
  /-- It can be told from the bare machine. -/
  bare : ∀ {m m' : Machine}, m'.bare = m.bare → view m' = view m
  /-- A start does not show in it. -/
  noted : ∀ (t : Transfer) (m : Machine), view (m.mapEngine (Engine.noted t)) = view m

namespace Act

open Op

variable {γ : Type} {view : Machine → γ} (steady : Machine.Steady view)
include steady

/-- What leaves the bare machine leaves a steady view of it. -/
theorem keeps_of_bare {faults : Fault → Prop} {α : Type} {a : Act α}
    (h : Keeps Machine.bare faults a) : Keeps view (fun _ => True) a :=
  fun m => ⟨steady.bare (h m).1, fun _ _ => trivial⟩

/-- A start is a note in the log, as far as the bare machine shows it. -/
theorem view_started (t : Transfer) (m : Machine) :
    view (m.mapEngine (fun e => e.started t)) = view m := by
  refine (steady.bare ?_).trans (steady.noted t m)
  rcases m with ⟨_ | ⟨_, _, _, _ | _⟩⟩ <;> rfl

theorem keeps_behaviour (b : Behavior) (t : Transfer) : Keeps view (fun _ => True) (behave b t) :=
  keeps_of_bare steady (keeps_behave b t)

/-- The script behind recording registers fills the slot at most. -/
theorem keeps_answer : Keeps view (fun _ => True) answer := by
  refine keeps_modify (fun m => steady.bare ?_)
  rcases m with ⟨r | e⟩
  · dsimp only
    rcases r.takeReply with ⟨_ | ⟨_ | _, _ | _⟩, _⟩ <;> rfl
  · rfl

/-- **A register write** changes registers or starts a transfer. -/
theorem keeps_writeRegister (offset : Nat) (value : UInt32) :
    Keeps view (fun _ => True) (writeRegister offset value) := by
  refine keeps_bind keeps_get (fun m => ?_)
  cases m.controller with
  | recorder r =>
    refine keeps_bind (keeps_modify (fun m => steady.bare ?_)) (fun _ => ?_)
    · rcases m with ⟨_ | _⟩ <;> rfl
    · exact keeps_ite (keeps_answer steady) (keeps_pure ())
  | engine e =>
    refine keeps_bind (keeps_modify (fun m => steady.bare (m.bare_mapEngine fun _ => rfl)))
      (fun _ => keeps_ite ?_ (keeps_pure ()))
    refine keeps_bind keeps_get (fun m => ?_)
    cases m.controller with
    | recorder r => exact keeps_pure ()
    | engine e =>
      refine keeps_bind (keeps_modify (view_started steady e.programmed)) (fun _ => ?_)
      exact keeps_bind (keeps_modify (fun _ => steady.bare rfl))
        (fun _ => keeps_behaviour steady _ _)

theorem keeps_writeAll (writes : List (Register × UInt32)) :
    Keeps view (fun _ => True) (writeAll writes) := by
  induction writes with
  | nil => exact keeps_pure ()
  | cons w writes ih => exact keeps_bind (keeps_writeRegister steady _ _) (fun _ => ih)

/-- **A launch leaves every steady view of the machine.** -/
theorem keeps_launch (source destination length : UInt64) :
    Keeps view (fun _ => True) (launch source destination length) := by
  refine keeps_bind (keeps_modify (fun _ => steady.bare rfl)) (fun _ => ?_)
  refine keeps_bind (keeps_writeAll steady _) (fun _ => ?_)
  refine keeps_bind (keeps_modify (fun _ => steady.bare rfl)) (fun _ => ?_)
  exact keeps_writeRegister steady _ _

end Act

end RemoteDisk
