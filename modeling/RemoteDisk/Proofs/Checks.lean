import RemoteDisk.Proofs.Leading
import RemoteDisk.Proofs.Waiting

/-!
# The checks of a wait that polls

A wait that polls alternates between checks, which look at the slot and the
status register, and reads of the clock, which tell whether its deadline has
passed and make up its pauses. `Act.Polls` lists the checks of such a wait that
came back, by the machines they were made on: the last of them found something,
or was made after a read that saw the deadline passed.

What holds between two checks holds because every read of the clock leads along
some relation (`Op.Leads`). An instance is that recording registers note nothing
while signals and changes of the status register happen, so that a wait makes one
access for every check that finds the slot empty and no other
(`Act.Polls.accesses`).
-/

namespace RemoteDisk

open Op

/-! ## Checks -/

namespace Act

/-- **The checks of a wait that polls**, by the machines they were made on, from
a machine to the one on which the wait came back. -/
inductive Polls (us : UInt64) (d : Deadline) :
    Machine → List Machine → Outcome → Machine → Prop
  /-- A check finds something. -/
  | found {m m' : Machine} (seen : ready m = (.ok true, m')) : Polls us d m [m] .ready m'
  /-- The deadline has passed after a check, and another check is the last. -/
  | passed {m m₁ m₂ m' : Machine} {found : Bool} (unseen : ready m = (.ok false, m₁))
    (late : expired d m₁ = (.ok true, m₂)) (last : ready m₂ = (.ok found, m')) :
    Polls us d m [m, m₂] (if found then .ready else .timedOut) m'
  /-- It has not, and there are more checks after a pause. -/
  | again {m m₁ m₂ m₃ m' : Machine} {checks : List Machine} {outcome : Outcome}
    (unseen : ready m = (.ok false, m₁)) (early : expired d m₁ = (.ok false, m₂))
    (paused : delay us m₂ = (.ok (), m₃)) (rest : Polls us d m₃ checks outcome m') :
    Polls us d m (m :: checks) outcome m'

variable {m m' : Machine} {us ms : UInt64} {d : Deadline} {outcome : Outcome}

/-- **A wait for the slot or the status register that came back** has made its
checks. -/
theorem polls_of_awaitStatus {fuel : Nat} (run : awaitStatus us d fuel m = (.ok outcome, m')) :
    ∃ checks, Polls us d m checks outcome m' := by
  induction fuel generalizing m with
  | zero => cases run
  | succ fuel ih =>
    obtain ⟨found, m₁, check, rest⟩ := bind_ok_inv run
    cases found with
    | true =>
      cases rest
      exact ⟨[m], .found check⟩
    | false =>
      obtain ⟨late, m₂, look, rest⟩ := bind_ok_inv rest
      cases late with
      | true =>
        obtain ⟨found, m₃, last, rest⟩ := bind_ok_inv rest
        cases rest
        exact ⟨[m, m₂], .passed check look last⟩
      | false =>
        obtain ⟨_, m₃, paused, rest⟩ := bind_ok_inv rest
        obtain ⟨checks, polls⟩ := ih rest
        exact ⟨m :: checks, .again check look paused polls⟩

/-- A wait in some mode, with a deadline and so many looks at most. -/
def awaitIn (mode : CompletionMode) (d : Deadline) (looks : Nat) : Act Outcome :=
  match mode with
  | .interrupt => awaitSignal d looks
  | .polling us => awaitStatus us d looks

/-- **A wait sets its deadline** and waits for it in the mode it began with. -/
theorem awaitCompletion_eq (m : Machine) (ms : UInt64) :
    ∃ looks, awaitCompletion ms m
      = (afterMs ms >>= fun d => awaitIn m.channel.mode d looks) m := by
  have kept := (keeps_afterMs ms m).1
  unfold awaitCompletion
  rcases set : afterMs ms m with ⟨fault | d, m₁⟩
  · exact ⟨0, (bind_error set).trans (bind_error set).symm⟩
  · rw [set] at kept
    have mode : m₁.channel.mode = m.channel.mode :=
      (congrArg (fun b : Machine => b.channel.mode) kept :)
    refine ⟨m₁.patience, (bind_ok set).trans ((bind_ok (get_apply m₁)).trans ?_)⟩
    rw [mode, bind_ok set]
    cases m.channel.mode <;> exact bind_ok (patience_apply m₁).1

end Act

/-! ## What recording registers note -/

namespace Machine

variable {m m' : Machine}

/-- **Nothing but signals and changes of the status register happens by
itself.** -/
def Scripted (m : Machine) : Prop :=
  ∀ e ∈ m.events, e.happening = .signal ∨ ∃ value, e.happening = .status value

theorem Scripted.next (scripted : m.Scripted) :
    ∀ h ∈ m.nextHappenings, h = .signal ∨ ∃ value, h = .status value := by
  intro h hh
  obtain ⟨e, he, -, rfl⟩ := mem_nextHappenings.mp hh
  exact scripted e he

/-- **The registers record**, and no interrupt makes a handler look at them. -/
structure Recording (m : Machine) : Prop where
  recorder : ∃ r, m.controller = .recorder r
  scripted : m.Scripted

/-- **Nothing is noted** on the way from one machine to another. -/
def Unnoted (m m' : Machine) : Prop :=
  m.Recording → m'.Recording ∧ m'.accesses = m.accesses

instance : IsPreorder Machine Unnoted where
  refl _ recording := ⟨recording, rfl⟩
  trans _ _ _ first second recording := by
    obtain ⟨recording, same⟩ := first recording
    obtain ⟨recording, same'⟩ := second recording
    exact ⟨recording, same'.trans same⟩

/-- Signals and changes of the status register are no accesses. -/
theorem unnoted_happen {h : Happening} (scripted : h = .signal ∨ ∃ value, h = .status value)
    (m : Machine) : m.Unnoted (m.happen h) := by
  intro recording
  obtain ⟨r, recorder⟩ := recording.recorder
  obtain rfl | ⟨value, rfl⟩ := scripted
  · exact ⟨⟨⟨r, recorder⟩, recording.scripted⟩, rfl⟩
  · simp only [happen, setStatus, recorder]
    refine ⟨⟨⟨_, rfl⟩, recording.scripted⟩, ?_⟩
    unfold accesses
    rw [recorder]
    rfl

theorem unnoted_happenings {hs : List Happening}
    (scripted : ∀ h ∈ hs, h = .signal ∨ ∃ value, h = .status value) (m : Machine) :
    m.Unnoted (hs.foldl (fun m h => m.happen h) m) := by
  induction hs generalizing m with
  | nil => exact refl_of Unnoted m
  | cons h hs ih =>
    exact trans_of Unnoted (unnoted_happen (scripted h List.mem_cons_self) m)
      (ih (fun h hh => scripted h (List.mem_cons_of_mem _ hh)) _)

/-- Behind recording registers nothing passes with time. -/
theorem Recording.passTicks (recording : m.Recording) (ticks : UInt64) :
    m.passTicks ticks = m := by
  obtain ⟨r, recorder⟩ := recording.recorder
  unfold Machine.passTicks pass pending engine? mapEngine
  rw [recorder]
  exact ite_self m

/-- **A read of the clock is no access.** -/
theorem unnoted_now : Op.Leads Unnoted Act.now := by
  intro m recording
  obtain ⟨recording', same⟩ := unnoted_happenings recording.scripted.next m recording
  show (Machine.now m).2.Recording ∧ (Machine.now m).2.accesses = m.accesses
  unfold Machine.now
  dsimp only
  rw [recording'.passTicks]
  exact ⟨⟨recording'.recorder, recording'.scripted⟩, same⟩

/-- **A pause makes no access.** -/
theorem unnoted_delay (us : UInt64) : Op.Leads Unnoted (Act.delay us) := by
  refine Act.leads_delay unnoted_now (fun m ticks _ recording => ?_) us
  rw [recording.passTicks]
  exact ⟨⟨recording.recorder, recording.scripted⟩, rfl⟩

/-- **A read of the status register is noted**, with what it shows. -/
theorem Recording.readStatus (recording : m.Recording) :
    m.readStatus.2.Recording ∧ m.readStatus.2.accesses.toList
      = m.accesses.toList ++ [.read Register.status.offset m.status] := by
  obtain ⟨r, recorder⟩ := recording.recorder
  unfold Machine.readStatus readRegister accesses status
  rw [recorder]
  exact ⟨⟨⟨_, rfl⟩, recording.scripted⟩, Array.toList_push⟩

/-- **The access of a check**, which is a read of the status register where the
slot is empty. -/
def checked (m : Machine) : List Access :=
  if m.channel.signaled then [] else [.read Register.status.offset m.status]

end Machine

namespace Act

variable {m m' : Machine} {us : UInt64} {d : Deadline} {outcome : Outcome}

/-- A check notes its access. -/
theorem ready_noted (recording : m.Recording) :
    (ready m).2.Recording ∧ (ready m).2.accesses.toList = m.accesses.toList ++ m.checked := by
  unfold Machine.checked
  cases slot : m.channel.signaled with
  | true =>
    rw [ready_full slot]
    exact ⟨⟨recording.recorder, recording.scripted⟩, (List.append_nil _).symm⟩
  | false =>
    rw [ready_reads slot]
    exact Machine.Recording.readStatus (m := m.resetSignal)
      ⟨recording.recorder, recording.scripted⟩

/-- **A wait that polls makes one access for each check** that finds the slot
empty, and no other. -/
theorem Polls.accesses {checks : List Machine} (p : Polls us d m checks outcome m')
    (recording : m.Recording) :
    m'.Recording ∧ m'.accesses.toList = m.accesses.toList ++ checks.flatMap Machine.checked := by
  induction p with
  | found seen =>
    have noted := ready_noted recording
    rw [seen] at noted
    rw [List.flatMap_singleton]
    exact noted
  | @passed m₀ m₁ m₂ m' found unseen late last =>
    have noted := ready_noted recording
    rw [unseen] at noted
    have looked := leads_expired Machine.unnoted_now d m₁ noted.1
    rw [late] at looked
    have noted' := ready_noted looked.1
    rw [last] at noted'
    refine ⟨noted'.1, ?_⟩
    rw [noted'.2, looked.2, noted.2, List.flatMap_cons, List.flatMap_singleton, List.append_assoc]
  | @again m₀ m₁ m₂ m₃ m' checks outcome unseen early paused rest ih =>
    have noted := ready_noted recording
    rw [unseen] at noted
    have looked := leads_expired Machine.unnoted_now d m₁ noted.1
    rw [early] at looked
    have waited := Machine.unnoted_delay us m₂ looked.1
    rw [paused] at waited
    obtain ⟨recording', more⟩ := ih waited.1
    refine ⟨recording', ?_⟩
    rw [more, waited.2, looked.2, noted.2, List.flatMap_cons, List.append_assoc]

end Act

end RemoteDisk
