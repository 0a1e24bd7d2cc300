import RemoteDisk.Proofs.Agreement
import RemoteDisk.Proofs.Prompt

/-!
# Machines that do the same work

Two disks may do the same work and still differ in what surrounds it: in the
clock they read, in how they notice the end of a transfer, in the interrupts
that arrive and are counted. `Machine.plain` is the machine without all that,
and two machines are twins when their plain machines are the same, a disk
listens to the wire of each, and no transfer is ever put off.

How the surroundings of twins have to be related is left open here. Whatever
the relation is, a launch leads from twins to twins whose slots tell what
their status registers tell (`Machine.Poised`); if from there their waits go
side by side as well (`Coupling`), then so does every request. What
distinguishes two ways of waiting, or a run with interrupts from one without,
is thereby reduced to a single wait.
-/

namespace RemoteDisk

/-! ## Engines that put nothing off -/

/-- Whether the engine is done with a transfer before its start returns. -/
def Behavior.isSynchronous : Behavior → Bool
  | .deferred _ => false
  | .immediate | .hang | .fault _ => true

namespace Engine

variable (e : Engine)

/-- What holds of all behaviours of an engine holds of all that are left when
one is taken. -/
theorem takeBehavior_forall {e : Engine} {P : Behavior → Prop} (behavior : P e.behavior)
    (upcoming : ∀ b ∈ e.upcoming, P b) :
    P e.takeBehavior.behavior ∧ ∀ b ∈ e.takeBehavior.upcoming, P b := by
  unfold takeBehavior
  split
  · exact ⟨behavior, upcoming⟩
  · next next rest laid =>
    rw [laid] at upcoming
    exact ⟨upcoming next List.mem_cons_self, fun b hb => upcoming b (List.mem_cons_of_mem _ hb)⟩

theorem pending_takeBehavior : e.takeBehavior.pending = e.pending := by
  unfold takeBehavior
  split <;> rfl

end Engine

/-- **An engine that puts nothing off**, neither so far nor at any start. -/
structure Engine.Synchronous (e : Engine) : Prop where
  pending : e.pending = []
  behavior : e.behavior.isSynchronous = true
  upcoming : ∀ b ∈ e.upcoming, b.isSynchronous = true

namespace Engine.Synchronous

variable {e : Engine}

theorem takeBehavior (h : e.Synchronous) : e.takeBehavior.Synchronous := by
  obtain ⟨behavior, upcoming⟩ := Engine.takeBehavior_forall h.behavior h.upcoming
  refine ⟨?_, behavior, upcoming⟩
  rw [pending_takeBehavior]
  exact h.pending

/-- A start leaves an engine that puts nothing off. -/
theorem begun (h : e.Synchronous) (t : Transfer) : (e.begun t).Synchronous := by
  obtain ⟨pending, behavior, upcoming⟩ := h.takeBehavior
  rcases e with ⟨_, _, _, _ | _⟩ <;> exact ⟨pending, behavior, upcoming⟩

end Engine.Synchronous

/-! ## The work and its surroundings -/

/-- **What surrounds the work of a machine.** -/
structure Surroundings where
  /-- The interrupts that were counted. -/
  irqs : UInt64
  /-- The clock. -/
  clock : Clock
  /-- What is going to happen at its reads. -/
  events : List Event
  /-- How the end of a transfer is noticed. -/
  mode : CompletionMode

/-- The surroundings with another count of interrupts. -/
def Surroundings.recount (f : UInt64 → UInt64) (s : Surroundings) : Surroundings :=
  { s with irqs := f s.irqs }

namespace Machine

/-- What surrounds the work of a machine. -/
def surroundings (m : Machine) : Surroundings :=
  ⟨m.counters.irqs, m.clock, m.events, m.channel.mode⟩

/-- **The machine without what surrounds its work**, and without what that
leaves behind in the slot, in the journal and among the answers to
interrupts. -/
def plain (m : Machine) : Machine :=
  { m with
    controller := m.controller.still
    channel := { m.channel with mode := .interrupt, signaled := false }
    clock := {}
    events := []
    counters := m.counters.withoutIrqs
    journal := #[]
    claims := #[] }

/-- **A machine that is tended**: a disk listens to its wire, and its engine
puts nothing off. -/
structure Tended (m : Machine) : Prop where
  engine : ∃ e, m.controller = .engine e ∧ e.Synchronous
  wire : ∃ line, m.wire = some ⟨line, some (.disk (some line))⟩

/-- **The slot tells what the status register tells.** -/
def Settled (m : Machine) : Prop :=
  m.channel.signaled = Status.shows m.status m.channel.doneMask

variable (m : Machine)

theorem status_plain : m.plain.status = m.status := m.status_still

/-- Machines that do the same work show the same status. -/
theorem status_of_plain {m m' : Machine} (h : m'.plain = m.plain) : m'.status = m.status := by
  rw [← status_plain m', h, status_plain]

/-- Machines that do the same work look for the same done bits. -/
theorem doneMask_of_plain {m m' : Machine} (h : m'.plain = m.plain) :
    m'.channel.doneMask = m.channel.doneMask :=
  (congrArg (fun b : Machine => b.channel.doneMask) h :)

theorem behaviorAt_plain (n : Nat) : m.plain.behaviorAt n = m.behaviorAt n := by
  rcases m with ⟨_ | e⟩
  · rfl
  · exact congrArg some (Engine.behaviorAt_congr n rfl rfl)

variable {m}

/-- Time does not touch the work of a machine. -/
theorem plain_of_still {m' : Machine} (h : m'.still = m.still) : m'.plain = m.plain :=
  congrArg (fun b : Machine => { b with
    channel := { b.channel with mode := .interrupt, signaled := false }
    clock := {}
    events := []
    counters := b.counters.withoutIrqs
    journal := #[]
    claims := #[] }) h

/-- Whether a machine is tended can be told from its plain machine. -/
theorem tended_plain : m.plain.Tended ↔ m.Tended := by
  rcases m with ⟨_ | e⟩
  · constructor <;> rintro ⟨⟨_, h, -⟩, -⟩ <;> cases h
  · constructor
    · rintro ⟨⟨_, engine, s⟩, wire⟩
      cases engine
      exact ⟨⟨e, rfl, ⟨s.pending, s.behavior, s.upcoming⟩⟩, wire⟩
    · rintro ⟨⟨_, engine, s⟩, wire⟩
      cases engine
      exact ⟨⟨_, rfl, ⟨s.pending, s.behavior, s.upcoming⟩⟩, wire⟩

namespace Tended

theorem hasEngine (h : m.Tended) : m.HasEngine := by
  obtain ⟨e, engine, -⟩ := h.engine
  exact ⟨e, engine⟩

/-- Nothing is put off on a machine that is tended. -/
theorem pending (h : m.Tended) : m.pending = [] := by
  obtain ⟨e, engine, s⟩ := h.engine
  unfold Machine.pending engine?
  rw [engine]
  exact s.pending

/-- A change of the engine that puts nothing off leaves the machine tended. -/
theorem mapEngine {f : Engine → Engine} (h : m.Tended)
    (f_synchronous : ∀ e : Engine, e.Synchronous → (f e).Synchronous) :
    (m.mapEngine f).Tended := by
  obtain ⟨⟨e, engine, s⟩, wire⟩ := h
  unfold Machine.mapEngine
  rw [engine]
  exact ⟨⟨f e, rfl, f_synchronous e s⟩, wire⟩

theorem store (h : m.Tended) (target : Target) (data : ByteArray) :
    (m.store target data).Tended := by
  cases target <;> exact ⟨h.engine, h.wire⟩

theorem publish (h : m.Tended) (extra : UInt32) : (m.publish extra).Tended :=
  h.mapEngine fun _ s => ⟨s.pending, s.behavior, s.upcoming⟩

theorem release (h : m.Tended) : m.release.Tended :=
  h.mapEngine fun _ s => ⟨s.pending, s.behavior, s.upcoming⟩

theorem begun (h : m.Tended) (t : Transfer) : (m.begun t).Tended := by
  have reset : ((m.report .trace ("[DMA] " ++ t.text)).resetSignal).Tended := ⟨h.engine, h.wire⟩
  obtain ⟨engine, wire⟩ := reset.mapEngine (f := fun e => e.begun t) fun _ s => s.begun t
  exact ⟨engine, wire⟩

end Tended

/-- A wire on which a disk listens leads to its handler. -/
theorem raise_of_wire (wire : ∃ line, m.wire = some ⟨line, some (.disk (some line))⟩) :
    m.raise.2 = m.handleInterrupt.2 := by
  obtain ⟨line, wire⟩ := wire
  unfold Machine.raise
  rw [wire]
  dsimp only [deliver]
  rw [if_pos rfl]

/-- **A call of the handler** fills the slot where the status register shows a
done bit, counts the interrupt then, and notes its answer. -/
theorem HasEngine.handleInterrupt_apply (h : m.HasEngine) :
    ∃ counters claims, m.handleInterrupt.2 = { m with
      channel := { m.channel with
        signaled := m.channel.signaled || Status.shows m.status m.channel.doneMask }
      counters
      claims }
    ∧ counters = { m.counters with
      irqs := if Status.shows m.status m.channel.doneMask then m.counters.irqs + 1
        else m.counters.irqs } := by
  unfold Machine.handleInterrupt
  rw [h.readStatus]
  dsimp only
  cases Status.shows m.status m.channel.doneMask
  · rw [Bool.or_false]
    exact ⟨_, _, rfl, rfl⟩
  · rw [Bool.or_true]
    exact ⟨_, _, rfl, rfl⟩

/-- What a call of the handler means for the work, its surroundings and the
slot. -/
theorem HasEngine.handleInterrupt (h : m.HasEngine) :
    m.handleInterrupt.2.plain = m.plain
      ∧ m.handleInterrupt.2.surroundings = m.surroundings.recount
        (fun n => if Status.shows m.status m.channel.doneMask then n + 1 else n)
      ∧ m.handleInterrupt.2.channel.signaled
        = (m.channel.signaled || Status.shows m.status m.channel.doneMask) := by
  obtain ⟨counters, claims, handled, rfl⟩ := h.handleInterrupt_apply
  rw [handled]
  exact ⟨rfl, rfl, rfl⟩

/-! ## Twins -/

/-- **Two machines that do the same work**, in surroundings related by `X`. -/
structure Twin (X : Surroundings → Surroundings → Prop) (m m' : Machine) : Prop where
  tended : m.Tended
  plain : m'.plain = m.plain
  around : X m.surroundings m'.surroundings

/-- **Twins that were just launched**: the slots are empty, and the status
registers clear. -/
structure Fresh (X : Surroundings → Surroundings → Prop) (m m' : Machine) : Prop
    extends Twin X m m' where
  empty : m.channel.signaled = false
  empty' : m'.channel.signaled = false
  clear : m.status = 0

/-- **Twins whose slots tell what the status registers tell.** -/
structure Poised (X : Surroundings → Surroundings → Prop) (m m' : Machine) : Prop
    extends Twin X m m' where
  settled : m.Settled
  settled' : m'.Settled

variable {X : Surroundings → Surroundings → Prop} {m' : Machine}

namespace Twin

variable (h : Twin X m m')
include h

theorem tended' : m'.Tended := by
  rw [← tended_plain, h.plain, tended_plain]
  exact h.tended

theorem status : m'.status = m.status := status_of_plain h.plain

theorem doneMask : m'.channel.doneMask = m.channel.doneMask := doneMask_of_plain h.plain

theorem errorMask : m'.channel.errorMask = m.channel.errorMask :=
  (congrArg (fun b : Machine => b.channel.errorMask) h.plain :)

theorem sameMemory : m.SameMemory m' where
  window := (congrArg Machine.window h.plain :)
  memory := (congrArg Machine.memory h.plain :)
  pending := h.tended'.pending.trans h.tended.pending.symm

/-- The engines of twins were started with the same transfers. -/
theorem transfers : m'.transfers = m.transfers := by
  have same (m : Machine) : m.plain.transfers = m.transfers := by
    rcases m with ⟨_ | _⟩ <;> rfl
  rw [← same, h.plain, same]

/-- Both engines do the same at the next start. -/
theorem behavior {e e' : Engine} (engine : m.controller = .engine e)
    (engine' : m'.controller = .engine e') :
    e'.takeBehavior.behavior = e.takeBehavior.behavior := by
  have same : m'.behaviorAt 0 = m.behaviorAt 0 := by
    rw [← behaviorAt_plain, h.plain, behaviorAt_plain]
  unfold behaviorAt engine? at same
  rw [engine, engine'] at same
  exact Option.some.inj same

/-- **A change that is one of the work alone** leads from twins to twins. -/
theorem change {f g : Machine → Machine} (plain : ∀ m, (f m).plain = g m.plain)
    (around : ∀ m, (f m).surroundings = m.surroundings) (tended : m.Tended → (f m).Tended) :
    Twin X (f m) (f m') where
  tended := tended h.tended
  plain := by rw [plain, h.plain, ← plain]
  around := by
    rw [around, around]
    exact h.around

theorem report (level : Level) (text : String) :
    Twin X (m.report level text) (m'.report level text) :=
  h.change (g := id) (fun _ => rfl) (fun _ => rfl) fun t => ⟨t.engine, t.wire⟩

theorem flushed (address : UInt64) (len : Nat) :
    Twin X (m.flushed address len) (m'.flushed address len) :=
  h.change (g := Machine.flushed address len) (fun _ => rfl) (fun _ => rfl)
    fun t => ⟨t.engine, t.wire⟩

/-- Counters that are counted without a look at the interrupts. -/
theorem counted {f : Counters → Counters} (others : ∀ c, (f c).withoutIrqs = f c.withoutIrqs)
    (irqs : ∀ c, (f c).irqs = c.irqs) : Twin X (m.mapCounters f) (m'.mapCounters f) := by
  refine h.change (g := Machine.mapCounters f) (fun m => ?_) (fun m => ?_)
    fun t => ⟨t.engine, t.wire⟩
  · exact congrArg (fun counters => { m.plain with counters }) (others m.counters)
  · exact congrArg (fun irqs => { m.surroundings with irqs }) (irqs m.counters)

theorem staged (f : Memory → Memory) :
    Twin X { m with memory := f m.memory } { m' with memory := f m'.memory } :=
  h.change (f := fun m => { m with memory := f m.memory })
    (g := fun m => { m with memory := f m.memory }) (fun _ => rfl) (fun _ => rfl)
    fun t => ⟨t.engine, t.wire⟩

theorem store (target : Target) (data : ByteArray) :
    Twin X (m.store target data) (m'.store target data) := by
  refine h.change (g := Machine.store target data) (fun m => ?_) (fun m => ?_)
    fun t => t.store target data
  · cases target <;> rfl
  · cases target <;> rfl

theorem publish (extra : UInt32) : Twin X (m.publish extra) (m'.publish extra) := by
  refine h.change (g := Machine.publish extra) (fun m => ?_) (fun m => ?_)
    fun t => t.publish extra
  · rcases m with ⟨_ | _⟩ <;> rfl
  · rcases m with ⟨_ | _⟩ <;> rfl

theorem release : Twin X m.release m'.release := by
  refine h.change (g := Machine.release) (fun m => ?_) (fun m => ?_) fun t => t.release
  · rcases m with ⟨_ | _⟩ <;> rfl
  · rcases m with ⟨_ | _⟩ <;> rfl

/-- A start leaves fresh twins. -/
theorem begun (t : Transfer) : Fresh X (m.begun t) (m'.begun t) where
  toTwin := by
    refine h.change (g := fun m => m.mapEngine fun e => e.begun t) (fun m => ?_) (fun m => ?_)
      fun tended => tended.begun t
    · rcases m with ⟨_ | ⟨_, _, _, _ | _⟩⟩ <;> rfl
    · rcases m with ⟨_ | _⟩ <;> rfl
  empty := by rw [channel_begun]
  empty' := by rw [channel_begun]
  clear := h.tended.hasEngine.status_begun t

end Twin

/-- A machine whose slot tells as much as the status register does after a
call of its handler. -/
theorem Tended.settled_handleInterrupt (h : m.Tended) (empty : m.channel.signaled = false) :
    m.handleInterrupt.2.Settled := by
  obtain ⟨plain, -, slot⟩ := h.hasEngine.handleInterrupt
  unfold Settled
  rw [slot, empty, Bool.false_or, status_of_plain plain, doneMask_of_plain plain]

section Interrupts

variable (recount : ∀ {s s' : Surroundings} (f : UInt64 → UInt64), X s s' →
  X (s.recount f) (s'.recount f))
include recount

/-- **A call of the handlers** leads from twins to twins. -/
theorem Twin.handleInterrupt (h : Twin X m m') :
    Twin X m.handleInterrupt.2 m'.handleInterrupt.2 := by
  obtain ⟨plain, around, -⟩ := h.tended.hasEngine.handleInterrupt
  obtain ⟨plain', around', -⟩ := h.tended'.hasEngine.handleInterrupt
  refine ⟨?_, plain'.trans (h.plain.trans plain.symm), ?_⟩
  · rw [← tended_plain, plain, tended_plain]
    exact h.tended
  · rw [around, around', h.status, h.doneMask]
    exact recount _ h.around

/-- **The end of a transfer on fresh twins** fills both slots or none. -/
theorem Fresh.finish (h : Fresh X m m') (extra : UInt32) :
    Poised X (m.finish extra) (m'.finish extra) := by
  have freed := (h.publish extra).release
  have slot (m : Machine) : ((m.publish extra).release).channel.signaled = m.channel.signaled := by
    rcases m with ⟨_ | _⟩ <;> rfl
  unfold Machine.finish
  rw [raise_of_wire freed.tended.wire, raise_of_wire freed.tended'.wire]
  exact ⟨freed.handleInterrupt recount,
    freed.tended.settled_handleInterrupt ((slot m).trans h.empty),
    freed.tended'.settled_handleInterrupt ((slot m').trans h.empty')⟩

end Interrupts

/-- Fresh twins are poised: nothing is shown, and nothing was signalled. -/
theorem Fresh.poised (h : Fresh X m m') : Poised X m m' where
  toTwin := h.toTwin
  settled := by
    unfold Settled
    rw [h.empty, h.clear, Status.shows_zero]
  settled' := by
    unfold Settled
    rw [h.empty', h.status, h.clear, Status.shows_zero]

theorem Fresh.store (h : Fresh X m m') (target : Target) (data : ByteArray) :
    Fresh X (m.store target data) (m'.store target data) where
  toTwin := h.toTwin.store target data
  empty := by
    rw [channel_store]
    exact h.empty
  empty' := by
    rw [channel_store]
    exact h.empty'
  clear := by
    cases target <;> exact h.clear

/-- A transfer that is dropped leaves poised twins. -/
theorem Fresh.release (h : Fresh X m m') : Poised X m.release m'.release := by
  have same (m : Machine) : m.release.channel = m.channel ∧ m.release.status = m.status := by
    rcases m with ⟨_ | _⟩ <;> exact ⟨rfl, rfl⟩
  refine Fresh.poised ⟨h.toTwin.release, ?_, ?_, ?_⟩
  · rw [(same m).1]
    exact h.empty
  · rw [(same m').1]
    exact h.empty'
  · rw [(same m).2]
    exact h.clear

end Machine

/-! ## Launching on twins -/

namespace Act

open Op Machine

variable {lost : Fault → Prop} {X : Surroundings → Surroundings → Prop} {m m' : Machine}

/-- The engines of fresh twins copy the same bytes. -/
theorem copy_abreast (t : Transfer) :
    Abreast lost (Twin X) (Fresh X) (copy t) (copy t) (Fresh X) := by
  intro m m' h
  rw [copy_apply, copy_apply, h.sameMemory.window, h.sameMemory.fetch]
  split
  · exact .faulted _ h.toTwin
  · split
    · exact .ended false h
    · exact .ended true (h.store _ _)

/-- **A launch on twins leaves poised twins**, whatever their slots held
before. -/
theorem launch_abreast (recount : ∀ {s s' : Surroundings} (f : UInt64 → UInt64), X s s' →
      X (s.recount f) (s'.recount f)) (t : Transfer) :
    Abreast lost (Twin X) (Twin X) (launch t.source t.destination t.length)
      (launch t.source t.destination t.length) (Poised X) := by
  intro m m' h
  obtain ⟨e, engine, synchronous⟩ := h.tended.engine
  obtain ⟨e', engine', -⟩ := h.tended'.engine
  have fresh := h.begun t
  rw [launch_apply engine, launch_apply engine', h.behavior engine engine']
  have now := synchronous.takeBehavior.behavior
  cases next : e.takeBehavior.behavior with
  | immediate =>
    refine abreast_bind (copy_abreast t) (fun reached => ?_) _ _ fresh
    exact abreast_modify fun _ _ h => h.finish recount _
  | deferred us =>
    rw [next] at now
    cases now
  | hang => exact .ended () fresh.release
  | fault bits => exact .ended () (fresh.finish recount bits)

end Act

end RemoteDisk
