import RemoteDisk.Proofs.Patterns
import RemoteDisk.Proofs.Resting
import RemoteDisk.Proofs.Twins

/-!
# Copies the engine is asked for

An engine that puts nothing off is done with a transfer when its start returns:
it has copied (`Machine.Performs`), or it has left both memories alone. Which of
the two it was does not show in how the transfer ends. A step of the self test
that copies is passed after either, if the end is noticed and the status shows no
error bit that is looked for; what is left behind is told by
`SelfTest.copyStep_leaves`.

Where the end of every transfer is noticed (`Machine.Attentive`), a start that
copies comes to a good end, and so does one that finishes without copying and
shows no such bit (`Machine.Convinces`).
-/

namespace RemoteDisk

open Op

variable {m m' : Machine} {t : Transfer}

/-- Whether a range can be reached is a matter of where the window is. -/
theorem Window.reaches_congr {w w' : Window} (base : w'.base = w.base) (size : w'.size = w.size)
    (t : Transfer) : w'.reaches t = w.reaches t := by
  unfold reaches locate
  rw [base, size]

namespace Machine

/-- There is an engine as before. -/
theorem Leaves.hasEngine {fs : List Flush} {ts : List Transfer} {g : Nat → UInt8}
    (h : m.Leaves fs ts g m') (engine : m.HasEngine) : m'.HasEngine := by
  have same : m'.controller.outline = m.controller.outline :=
    (congrArg Machine.controller h.setting :)
  obtain ⟨e, run⟩ := engine
  rw [run] at same
  rcases run' : m'.controller with r | e'
  · rw [run'] at same
    cases same
  · exact ⟨e', run'⟩

/-- **The engine is going to copy** a transfer, if it is started with it at the
`n`-th start from now. -/
def Performs (n : Nat) (t : Transfer) (m : Machine) : Prop :=
  m.behaviorAt n = some .immediate ∧ m.window.reaches t = true

instance (n : Nat) (t : Transfer) (m : Machine) : Decidable (m.Performs n t) :=
  inferInstanceAs (Decidable (_ ∧ _))

/-- The behaviour at the next start is the one the engine takes. -/
theorem behaviorAt_zero {e : Engine} (engine : m.controller = .engine e) :
    m.behaviorAt 0 = some e.takeBehavior.behavior := by
  unfold behaviorAt engine?
  rw [engine]
  rfl

/-- The `n`-th start from where some have been made is a later one from where they
were not. -/
theorem Leaves.performs {fs : List Flush} {ts : List Transfer} {g : Nat → UInt8}
    (h : m.Leaves fs ts g m') (n : Nat) (t : Transfer) :
    m'.Performs n t ↔ m.Performs (n + ts.length) t := by
  unfold Performs
  rw [h.behavior, Window.reaches_congr h.window.1 h.window.2]

/-- What the engine is going to copy, start by start. -/
def copies (m : Machine) (n : Nat) (t : Transfer) : Bool := decide (m.Performs n t)

theorem copies_eq_true {n : Nat} : m.copies n t = true ↔ m.Performs n t := decide_eq_true_iff

theorem Leaves.copies {fs : List Flush} {ts : List Transfer} {g : Nat → UInt8}
    (h : m.Leaves fs ts g m') (n : Nat) : m'.copies n = m.copies (n + ts.length) := by
  funext t
  exact decide_eq_decide.mpr (h.performs n t)

/-- **A start leaves its transfer**, which is the last one in the log. -/
theorem Leaves.of_noted {g : Nat → UInt8} (engine : m.HasEngine)
    (bare : m'.bare = m.bare.mapEngine (Engine.noted t)) (pending : m'.pending = m.pending)
    (bus : m'.bus = g) : m.Leaves [] [t] g m' where
  setting := by rw [← setting_bare, bare, setting_noted, setting_bare]
  pending := pending
  flushes := by
    rw [← flushes_bare, bare, List.append_nil, ← flushes_bare m]
    rcases m.bare with ⟨_ | _⟩ <;> rfl
  transfers := by
    obtain ⟨e, engine⟩ := engine
    rw [← transfers_bare, bare]
    rcases m with ⟨_ | e'⟩
    · cases engine
    · exact Array.toList_push
  behavior n := by rw [← behaviorAt_bare, bare, behaviorAt_noted, behaviorAt_bare]; rfl
  bus := bus

/-- **What the bus shows after a copy.** -/
theorem bus_copied {locals : List Buffer} (pos : 0 < t.length.toNat)
    (source : m.window.Serves locals t.source.toNat t.length.toNat)
    (destination : m.window.Serves locals t.destination.toNat t.length.toNat) :
    (m.copied t).bus = if m.window.reaches t then
        Bus.copy t.source.toNat t.destination.toNat t.length.toNat m.bus
      else m.bus := by
  unfold copied
  split
  · next reached =>
    obtain ⟨from_, to_⟩ := of_decide_eq_true reached
    rw [Window.locate_eq_place from_, Window.locate_eq_place to_]
    exact bus_store destination pos (fetch_place source pos)
  · rfl

end Machine

namespace Act

/-- A transfer that is copied at once is finished at once. -/
theorem behave_immediate (short : t.length.toNat ≤ Engine.longestBuffer) (m : Machine) :
    behave .immediate t m = (.ok (), (m.copied t).finish
      (if m.window.reaches t then 0 else Engine.busError)) :=
  bind_ok (Machine.copy_short short m)

/-- **What an engine that puts nothing off does to memory** at a start: it has
copied, or it has left memory alone. -/
theorem launch_memory {e : Engine} (engine : m.controller = .engine e)
    (short : t.length.toNat ≤ Engine.longestBuffer)
    (now : e.takeBehavior.behavior.isSynchronous = true) :
    (if e.takeBehavior.behavior = .immediate then m.copied t else m).SameMemory
      (launch t.source t.destination t.length m).2 := by
  have begun := Machine.SameMemory.begun m t
  rw [launch_apply engine]
  cases next : e.takeBehavior.behavior with
  | immediate =>
    rw [behave_immediate short]
    exact (begun.copied t).trans (.finish _ _)
  | hang => exact begun.trans (.release _)
  | fault bits => exact begun.trans (.finish bits _)
  | deferred us =>
    rw [next] at now
    cases now

/-- An engine that puts nothing off has put nothing off at a start. -/
theorem launch_pending (engine : m.HasEngine) (short : t.length.toNat ≤ Engine.longestBuffer)
    (now : ∀ b, m.behaviorAt 0 = some b → b.isSynchronous = true) :
    (launch t.source t.destination t.length m).2.pending = m.pending := by
  obtain ⟨e, run⟩ := engine
  refine (launch_memory run short (now _ (Machine.behaviorAt_zero run))).pending.trans ?_
  split
  · obtain ⟨target, data, stored⟩ := Machine.copied_eq_store t m
    rw [stored, Machine.pending_store]
  · rfl

/-- A start leaves the machine set up as before. -/
theorem launch_setting (engine : m.HasEngine) (t : Transfer) :
    (launch t.source t.destination t.length m).2.setting = m.setting := by
  rw [← Machine.setting_bare, bare_launch engine, Machine.setting_noted, Machine.setting_bare]

/-- **A start that comes to its end** leaves its transfer in the log, and its
bytes at their destination if the engine copies them. -/
theorem launch_leaves {locals : List Buffer} (engine : m.HasEngine)
    (pos : 0 < t.length.toNat) (short : t.length.toNat ≤ Engine.longestBuffer)
    (now : ∀ b, m.behaviorAt 0 = some b → b.isSynchronous = true)
    (source : m.window.Serves locals t.source.toNat t.length.toNat)
    (destination : m.window.Serves locals t.destination.toNat t.length.toNat) :
    m.Leaves [] [t]
      (if m.copies 0 t then Bus.copy t.source.toNat t.destination.toNat t.length.toNat m.bus
        else m.bus)
      (launch t.source t.destination t.length m).2 := by
  have pending := launch_pending engine short now
  obtain ⟨e, run⟩ := engine
  have next := Machine.behaviorAt_zero run
  have memory := launch_memory run short (now _ next)
  have performs : m.copies 0 t = true ↔ e.takeBehavior.behavior = .immediate
      ∧ m.window.reaches t = true := by
    rw [Machine.copies_eq_true, Machine.Performs, next, Option.some.injEq]
  refine .of_noted ⟨e, run⟩ (bare_launch ⟨e, run⟩ t) pending ?_
  rw [memory.bus]
  by_cases immediate : e.takeBehavior.behavior = .immediate
  · rw [if_pos immediate, Machine.bus_copied pos source destination]
    exact if_congr ⟨fun h => performs.mpr ⟨immediate, h⟩, fun h => (performs.mp h).2⟩ rfl rfl
  · rw [if_neg immediate, if_neg fun h => immediate (performs.mp h).1]

/-- **A wait that comes back** leaves nothing, where no transfer was put off. -/
theorem wait_leaves (none : m.pending = []) (ms : UInt64) :
    m.Leaves [] [] m.bus (wait ms m).2 :=
  have rests := rests_wait ms m none
  .of_bare (keeps_wait ms m).1 rests.pending rests.bus

end Act

namespace SelfTest

/-- The transfer of a step that copies. -/
def transferOf (source destination : UInt64) : Transfer :=
  ⟨source, destination, UInt64.ofNat testSize⟩

/-- **A test range copied**, if `did` tells that the engine does copy it. -/
def carried (did : Transfer → Bool) (source destination : UInt64) (g : Nat → UInt8) :
    Nat → UInt8 :=
  if did (transferOf source destination) then
    Bus.copy source.toNat destination.toNat testSize g
  else g

theorem testSize_pos : 0 < (UInt64.ofNat testSize).toNat := by decide

theorem testSize_short : (UInt64.ofNat testSize).toNat ≤ Engine.longestBuffer := by decide

/-- **A step that copies and is passed** has flushed its ranges and started its
transfer. The bytes are where they belong if the engine copied them. -/
theorem copyStep_leaves {locals : List Buffer} {source destination : UInt64}
    (engine : m.HasEngine) (none : m.pending = [])
    (now : ∀ b, m.behaviorAt 0 = some b → b.isSynchronous = true)
    (from_ : m.window.Serves locals source.toNat testSize)
    (to_ : m.window.Serves locals destination.toNat testSize)
    (h : copyStep source destination m = (.ok .passed, m')) :
    m.Leaves [⟨source, testSize⟩, ⟨destination, testSize⟩] [transferOf source destination]
      (carried (m.copies 0) source destination m.bus) m' := by
  obtain ⟨_, m₁, reported, rest⟩ := bind_ok_inv h
  obtain ⟨_, m₂, flushed, rest⟩ := bind_ok_inv rest
  obtain ⟨result, m₄, transferred, rest⟩ := bind_ok_inv rest
  obtain ⟨_, m₃, launched, waited⟩ := bind_ok_inv transferred
  cases reported
  have before := (Act.flush_leaves flushed).of_report
  have launch := Act.launch_leaves (t := transferOf source destination)
    (before.hasEngine engine) testSize_pos testSize_short
    (fun b hb => now b ((before.behavior 0).symm.trans hb)) (before.serves from_)
    (before.serves to_)
  have same : (Act.launch (transferOf source destination).source
      (transferOf source destination).destination (transferOf source destination).length m₂).2
      = m₃ := congrArg Prod.snd launched
  rw [same, before.copies 0, before.bus] at launch
  have wait := Act.wait_leaves (launch.pending.trans (before.pending.trans none))
    Geometry.timeoutMs
  rw [waited] at wait
  have through := (before.trans launch).trans wait
  rcases result with cause | _
  · obtain ⟨_, _, _, last⟩ := bind_ok_inv rest
    cases last
  · obtain ⟨_, m₅, flushed', last⟩ := bind_ok_inv rest
    cases last
    have whole := through.trans (Act.flush_leaves flushed')
    rw [wait.bus, launch.bus] at whole
    exact whole

end SelfTest

/-! ## Starts that pass for a success -/

namespace Machine

variable {e : Engine}

/-- **How the end of a transfer is noticed**, where the engine shows these done
bits: by polling for one of them, by a handler that signals whatever the status
register shows, or by a disk's handler on its own line, which looks for one of
them too. -/
inductive Notices (done : UInt32) (m : Machine) : Prop
  | polling (mode : m.channel.mode ≠ .interrupt)
    (shown : Status.shows done m.channel.doneMask = true)
  | latched (wire : ∃ line, m.wire = some ⟨line, some .latch⟩)
  | answered (wire : ∃ line, m.wire = some ⟨line, some (.disk (some line))⟩)
    (shown : Status.shows done m.channel.doneMask = true)

namespace Notices

variable {done : UInt32}

/-- Whether an end is noticed is a matter of the channel's mode and mask and of
what hangs on the wire. -/
theorem congr (mode : m'.channel.mode = m.channel.mode)
    (doneMask : m'.channel.doneMask = m.channel.doneMask) (wire : m'.wire = m.wire)
    (h : m.Notices done) : m'.Notices done := by
  cases h with
  | polling polls shown =>
    exact .polling (by rw [mode]; exact polls) (by rw [doneMask]; exact shown)
  | latched on => exact .latched (by rw [wire]; exact on)
  | answered on shown => exact .answered (by rw [wire]; exact on) (by rw [doneMask]; exact shown)

/-- **Who is called when the wire is raised** changes the slot at most, and fills it
where nobody polls. -/
theorem raise (h : m.Notices done) (engine : m.HasEngine)
    (shows : Status.shows done m.channel.doneMask = true →
      Status.shows m.status m.channel.doneMask = true) :
    ∃ signaled counters claims notices, m.raise.2 = m.called signaled counters claims notices
      ∧ (signaled = true ∨ m.channel.mode ≠ .interrupt
        ∧ Status.shows m.status m.channel.doneMask = true) := by
  obtain ⟨signaled, counters, claims, notices, run, fills⟩ := raise_inv engine
  cases h with
  | polling polls shown =>
    exact ⟨signaled, counters, claims, notices, run, .inr ⟨polls, shows shown⟩⟩
  | latched on =>
    obtain ⟨line, wire⟩ := on
    refine ⟨true, m.counters, m.claims, m.notices, ?_, .inl rfl⟩
    unfold Machine.raise
    rw [wire]
    rfl
  | answered on shown =>
    obtain ⟨line, wire⟩ := on
    have attended : m.Attended := ⟨line, _, wire, .inr rfl⟩
    exact ⟨signaled, counters, claims, notices, run, .inl (fills attended (shows shown))⟩

end Notices

/-- **The end of every transfer is noticed**, and the engine's done bits are not
taken for an error. -/
structure Attentive (m : Machine) : Prop where
  engine : ∃ e, m.controller = .engine e ∧ m.Notices e.doneBits
    ∧ Status.shows e.doneBits m.channel.errorMask = false
  events : m.events = []

namespace Attentive

theorem hasEngine (h : m.Attentive) : m.HasEngine := by
  obtain ⟨⟨e, engine, -⟩, -⟩ := h
  exact ⟨e, engine⟩

/-- Whether the end of a transfer is noticed is a matter of how the machine was
set up. -/
theorem congr (setting : m'.setting = m.setting) (h : m.Attentive) : m'.Attentive := by
  obtain ⟨⟨e, engine, notices, clear⟩, events⟩ := h
  have outline : m'.controller.outline = m.controller.outline :=
    (congrArg Machine.controller setting :)
  have errorMask : m'.channel.errorMask = m.channel.errorMask :=
    (congrArg (fun b : Machine => b.channel.errorMask) setting :)
  have mode : m'.channel.mode = m.channel.mode :=
    (congrArg (fun b : Machine => b.channel.mode) setting :)
  have doneMask : m'.channel.doneMask = m.channel.doneMask :=
    (congrArg (fun b : Machine => b.channel.doneMask) setting :)
  have noticed := notices.congr mode doneMask (congrArg Machine.wire setting :)
  rcases engine' : m'.controller with r | e'
  · rw [engine, engine'] at outline
    cases outline
  · rw [engine, engine'] at outline
    have done : e'.doneBits = e.doneBits :=
      (congrArg Engine.doneBits (Controller.engine.inj outline) :)
    rw [← done] at noticed clear
    rw [← errorMask] at clear
    exact ⟨⟨e', engine', noticed, clear⟩, (congrArg Machine.events setting :).trans events⟩

/-- **A transfer that is finished is over**, and no error is seen where none is
shown beyond the done bits. -/
theorem finish (h : m.Attentive) {extra : UInt32}
    (unseen : Status.shows extra m.channel.errorMask = false) :
    (m.finish extra).Over
      ∧ Status.shows (m.finish extra).status (m.finish extra).channel.errorMask = false := by
  obtain ⟨⟨e, engine, notices, clear⟩, -⟩ := h
  obtain ⟨freed, status⟩ := freed_apply engine extra
  have there : ((m.publish extra).release).HasEngine := ⟨_, (congrArg Machine.controller freed :)⟩
  have channel : ((m.publish extra).release).channel = m.channel :=
    (congrArg Machine.channel freed :)
  have noticed : ((m.publish extra).release).Notices e.doneBits :=
    notices.congr (congrArg Channel.mode channel) (congrArg Channel.doneMask channel)
      (congrArg Machine.wire freed :)
  obtain ⟨signaled, counters, claims, notices', run, ends⟩ := noticed.raise there fun shown => by
    rw [status, Status.shows_or, shown, Bool.true_or]
  rw [status, channel] at ends
  have status' : (m.finish extra).status = e.doneBits ||| extra := by
    unfold Machine.finish
    rw [run]
    exact status
  have channel' : (m.finish extra).channel = { m.channel with signaled } := by
    unfold Machine.finish
    rw [run]
    exact congrArg (fun c : Channel => { c with signaled }) channel
  unfold Over
  rw [status', channel']
  refine ⟨ends, ?_⟩
  rw [Status.shows_or, clear, unseen]
  rfl

/-- The machine on which a transfer is started was set up as before. -/
theorem begun (h : m.Attentive) (t : Transfer) : (m.begun t).Attentive := by
  refine h.congr ?_
  rw [← setting_bare, bare_begun, setting_noted, setting_bare]

theorem copied (h : m.Attentive) (t : Transfer) : (m.copied t).Attentive := by
  obtain ⟨target, data, stored⟩ := copied_eq_store t m
  refine h.congr ?_
  rw [stored, ← setting_bare, bare_store, setting_bare]

end Attentive

/-- **A start that passes for a success**, if it is the `n`-th from now: the
engine copies, or it finishes with bits that are not looked for. -/
def Convinces (n : Nat) (t : Transfer) (m : Machine) : Prop :=
  m.Performs n t
    ∨ ∃ bits, m.behaviorAt n = some (.fault bits) ∧ Status.shows bits m.channel.errorMask = false

theorem Leaves.convinces {fs : List Flush} {ts : List Transfer} {g : Nat → UInt8}
    (h : m.Leaves fs ts g m') (n : Nat) (t : Transfer) :
    m'.Convinces n t ↔ m.Convinces (n + ts.length) t := by
  have errorMask : m'.channel.errorMask = m.channel.errorMask :=
    (congrArg (fun b : Machine => b.channel.errorMask) h.setting :)
  unfold Convinces
  rw [h.performs, h.behavior, errorMask]

/-- An engine that passes for one that succeeds puts nothing off. -/
theorem Convinces.isSynchronous {n : Nat} (h : m.Convinces n t) :
    ∀ b, m.behaviorAt n = some b → b.isSynchronous = true := by
  intro b hb
  obtain ⟨next, -⟩ | ⟨bits, next, -⟩ := h
  · obtain rfl := Option.some.inj (next.symm.trans hb)
    rfl
  · obtain rfl := Option.some.inj (next.symm.trans hb)
    rfl

/-- **A start that passes for a success** is over when it returns, and shows no
error bit that is looked for. -/
theorem Attentive.launch (h : m.Attentive) (short : t.length.toNat ≤ Engine.longestBuffer)
    (convinces : m.Convinces 0 t) :
    ∃ m', Act.launch t.source t.destination t.length m = (.ok (), m') ∧ m'.Over
      ∧ Status.shows m'.status m'.channel.errorMask = false := by
  obtain ⟨e, engine⟩ := h.hasEngine
  have errorMask : (m.begun t).channel.errorMask = m.channel.errorMask :=
    (congrArg Channel.errorMask (channel_begun m t) :)
  rw [Act.launch_apply engine]
  obtain ⟨next, reached⟩ | ⟨bits, next, unseen⟩ := convinces
  · rw [takeBehavior_of_behaviorAt engine next, Act.behave_immediate short,
      (SameMemory.begun m t).window, reached]
    exact ⟨_, rfl, ((h.begun t).copied t).finish (Status.shows_zero _)⟩
  · rw [takeBehavior_of_behaviorAt engine next]
    exact ⟨_, rfl, (h.begun t).finish (by rw [errorMask]; exact unseen)⟩

end Machine

namespace Act

/-- **A transfer that passes for a success** is reported as one. -/
theorem transfer_ok (h : m.Attentive) (none : m.pending = [])
    (short : t.length.toNat ≤ Engine.longestBuffer) (convinces : m.Convinces 0 t) (ms : UInt64) :
    ∃ m', transfer t.source t.destination t.length ms m = (.ok (.ok ()), m') := by
  obtain ⟨m₁, launched, ended, unseen⟩ := h.launch short convinces
  have left : (launch t.source t.destination t.length m).2 = m₁ := congrArg Prod.snd launched
  have quiet : m₁.Quiet := by
    rw [← left]
    refine ⟨?_, (launch_pending h.hasEngine short convinces.isSynchronous).trans none⟩
    exact (congrArg Machine.events (launch_setting h.hasEngine t) :).trans h.events
  obtain ⟨m', waited, -⟩ := wait_over quiet ended ms
  rw [unseen] at waited
  exact ⟨m', (bind_ok launched).trans waited⟩

end Act

namespace SelfTest

/-- **A step that copies is passed** where its start passes for a success and no
range reaches into the topmost line of the address space. -/
theorem copyStep_ok {source destination : UInt64} (h : m.Attentive) (none : m.pending = [])
    (convinces : m.Convinces 0 (transferOf source destination))
    (from_ : source.toNat + testSize + Geometry.lineSize ≤ Geometry.wordLimit)
    (to_ : destination.toNat + testSize + Geometry.lineSize ≤ Geometry.wordLimit) :
    ∃ m', copyStep source destination m = (.ok .passed, m') := by
  have flush := Act.flush_apply (CacheLine.overruns_eq_false from_) (m.report .info ("[DMA] "
    ++ Hex.wide source.toNat ++ " -> " ++ Hex.wide destination.toNat ++ " ("
    ++ toString testSize ++ " bytes)"))
  have flushed := (Act.flush_leaves flush).of_report
  obtain ⟨m₁, transferred⟩ := Act.transfer_ok (h.congr flushed.setting)
    (flushed.pending.trans none) testSize_short ((flushed.convinces 0 _).mpr convinces)
    Geometry.timeoutMs
  exact ⟨_, (bind_ok flush).trans ((bind_ok transferred).trans
    (bind_ok (Act.flush_apply (CacheLine.overruns_eq_false to_) m₁)))⟩

end SelfTest

end RemoteDisk
