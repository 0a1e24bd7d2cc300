import RemoteDisk.Proofs.Clients
import RemoteDisk.Proofs.Endings
import RemoteDisk.Proofs.Outline

/-!
# Machines with different pasts

Two machines that were set up alike and then used for different things differ in
almost everything: in both memories, in their logs and counters, in how far their
clocks have come. They are peers where they still have the same outline, their
engines are going to do the same, and remote memory holds the same bytes at some
places that somebody is going to read.

Reading from these places is then the same on both: the transfer ends alike, and
it brings the same bytes to the bounce buffer – but only if it was copied. An
engine may also finish without copying, and unless its status shows an error bit
nobody notices (`Config.overlooks`).
-/

namespace RemoteDisk

open Op

/-! ## What a start leaves -/

/-- **The status that a start leaves** on an engine with these done bits, where
both ranges of the transfer could be reached or not. -/
def Behavior.status (done : UInt32) (reached : Bool) : Behavior → UInt32
  | .immediate => done ||| (if reached then 0 else Engine.busError)
  | .fault bits => done ||| bits
  | .hang | .deferred _ => 0

/-- **Whether both ranges of a transfer can be reached.** -/
def Window.reaches (w : Window) (t : Transfer) : Bool :=
  w.locate t.source t.length.toNat ≠ .invalid ∧ w.locate t.destination t.length.toNat ≠ .invalid

namespace Machine

variable {m m' : Machine} {t : Transfer} {e : Engine}

/-- The machine after the bytes of a transfer were copied, if they could be. -/
def copied (t : Transfer) (m : Machine) : Machine :=
  if m.window.reaches t then
    m.store (m.window.locate t.destination t.length.toNat)
      (m.fetch (m.window.locate t.source t.length.toNat) t.length.toNat)
  else m

/-- A copy changes memory alone. -/
theorem copied_eq_store (t : Transfer) (m : Machine) :
    ∃ target data, m.copied t = m.store target data := by
  unfold copied
  split
  · exact ⟨_, _, rfl⟩
  · exact ⟨.invalid, ByteArray.empty, rfl⟩

theorem controller_copied (t : Transfer) (m : Machine) :
    (m.copied t).controller = m.controller := by
  obtain ⟨target, data, stored⟩ := copied_eq_store t m
  rw [stored]
  cases target <;> rfl

theorem channel_copied (t : Transfer) (m : Machine) : (m.copied t).channel = m.channel := by
  obtain ⟨target, data, stored⟩ := copied_eq_store t m
  rw [stored, channel_store]

theorem Tended.copied (h : m.Tended) (t : Transfer) : (m.copied t).Tended := by
  obtain ⟨target, data, stored⟩ := copied_eq_store t m
  rw [stored]
  exact h.store target data

/-- What is copied is found in memory alone. -/
theorem SameMemory.copied (h : m.SameMemory m') (t : Transfer) :
    (m.copied t).SameMemory (m'.copied t) := by
  unfold Machine.copied
  rw [h.window, h.fetch]
  split
  · exact h.store _ _
  · exact h

/-- **A copy of no more bytes than a buffer holds** tells whether both ranges
could be reached. -/
theorem copy_short (short : t.length.toNat ≤ Engine.longestBuffer) (m : Machine) :
    Act.copy t m = (.ok (m.window.reaches t), m.copied t) := by
  rw [Act.copy_apply, if_neg (Nat.not_lt.mpr short)]
  unfold copied Window.reaches
  by_cases h : m.window.locate t.source t.length.toNat = .invalid
      ∨ m.window.locate t.destination t.length.toNat = .invalid
  · rw [if_pos h, decide_eq_false (by simpa [imp_iff_not_or] using h)]
    rfl
  · rw [if_neg h, decide_eq_true (not_or.mp h)]
    rfl

/-- **The end of a transfer on a machine that is tended** settles it. -/
theorem Tended.finish (h : m.Tended) (empty : m.channel.signaled = false)
    (engine : m.controller = .engine e) (extra : UInt32) :
    (m.finish extra).Tended ∧ (m.finish extra).Settled
      ∧ (m.finish extra).status = e.doneBits ||| extra ∧ m.SameMemory (m.finish extra) := by
  have tended := (h.publish extra).release
  obtain ⟨freed, status⟩ := freed_apply engine extra
  have finished : m.finish extra = ((m.publish extra).release).handleInterrupt.2 :=
    raise_of_wire tended.wire
  have slot : ((m.publish extra).release).channel.signaled = false := by
    rw [freed]
    exact empty
  have settled := tended.settled_handleInterrupt slot
  obtain ⟨plain, -, -⟩ := tended.hasEngine.handleInterrupt
  have same : m.SameMemory ((m.publish extra).release) := by
    rw [freed]
    refine ⟨rfl, rfl, ?_⟩
    unfold Machine.pending engine?
    rw [engine]
    rfl
  rw [finished]
  have tended' : ((m.publish extra).release).handleInterrupt.2.Tended := by
    rw [← tended_plain, plain, tended_plain]
    exact tended
  refine ⟨tended', settled, (status_of_plain plain).trans status, same.trans ?_⟩
  exact ⟨(congrArg Machine.window plain :), (congrArg Machine.memory plain :),
    tended'.pending.trans tended.pending.symm⟩

/-- **What a start leaves** on a machine that is tended. -/
structure Launched (t : Transfer) (e : Engine) (m m₁ : Machine) : Prop where
  tended : m₁.Tended
  settled : m₁.Settled
  bare : m₁.bare = m.bare.mapEngine (Engine.noted t)
  status : m₁.status = e.takeBehavior.behavior.status e.doneBits (m.window.reaches t)
  memory : (if e.takeBehavior.behavior = .immediate then m.copied t else m).SameMemory m₁

/-- **A start on a machine that is tended** comes to its end, and what it leaves
follows from the engine's behaviour. -/
theorem Tended.launch (h : m.Tended) (engine : m.controller = .engine e)
    (short : t.length.toNat ≤ Engine.longestBuffer) :
    ∃ m₁, Act.launch t.source t.destination t.length m = (.ok (), m₁) ∧ Launched t e m m₁ := by
  obtain ⟨m₁, run, bare⟩ := Act.launch_bare engine short
  refine ⟨m₁, run, ?_⟩
  have begun := h.begun t
  have same := SameMemory.begun m t
  have controller : (m.begun t).controller = .engine (e.begun t) :=
    controller_mapEngine (m := (m.report .trace ("[DMA] " ++ t.text)).resetSignal) engine _
  have done : (e.begun t).doneBits = e.doneBits := by
    rcases e with ⟨_, _, _, _ | _⟩ <;> rfl
  have empty : (m.begun t).channel.signaled = false := by rw [channel_begun]
  have clear := h.hasEngine.status_begun t
  obtain ⟨_, engine', synchronous⟩ := h.engine
  obtain rfl : e = _ := Controller.engine.inj (engine.symm.trans engine')
  have now := synchronous.takeBehavior.behavior
  rw [Act.launch_apply engine] at run
  cases next : e.takeBehavior.behavior with
  | immediate =>
    rw [next] at run
    have complete := bind_ok (f := fun reached => modify (Machine.finish
      (if reached then 0 else Engine.busError))) (copy_short short (m.begun t))
    obtain rfl := (Prod.mk.inj (complete.symm.trans run)).2
    obtain ⟨tended', settled, status, memory⟩ := (begun.copied t).finish
      (by rw [channel_copied]; exact empty) ((controller_copied t _).trans controller)
      (if (m.begun t).window.reaches t then 0 else Engine.busError)
    refine ⟨tended', settled, bare, ?_, ?_⟩
    · rw [next, status, done, same.window]
      rfl
    · rw [if_pos next]
      exact (same.copied t).trans memory
  | deferred us =>
    rw [next] at now
    cases now
  | hang =>
    rw [next] at run
    obtain rfl : (m.begun t).release = m₁ := (Prod.mk.inj run).2
    have quiet : (m.begun t).release.channel = (m.begun t).channel
        ∧ (m.begun t).release.status = (m.begun t).status := by
      rcases m.begun t with ⟨_ | _⟩ <;> exact ⟨rfl, rfl⟩
    have status := quiet.2.trans clear
    refine ⟨begun.release, ?_, bare, ?_, ?_⟩
    · unfold Settled
      rw [status, quiet.1, empty, Status.shows_zero]
    · rw [next, status]
      rfl
    · rw [if_neg (by rw [next]; exact Behavior.noConfusion)]
      exact same.trans (SameMemory.release _)
  | fault bits =>
    rw [next] at run
    obtain rfl : (m.begun t).finish bits = m₁ := (Prod.mk.inj run).2
    obtain ⟨tended, settled, status, memory⟩ := begun.finish empty controller bits
    refine ⟨tended, settled, bare, ?_, ?_⟩
    · rw [next, status, done]
      rfl
    · rw [if_neg (by rw [next]; exact Behavior.noConfusion)]
      exact same.trans memory

end Machine

/-- **A start that passes for a success** though nothing was copied: the engine
shows a done bit and no error bit that is looked for. -/
def Config.overlooks (c : Config) : Behavior → Bool
  | .fault bits => Status.shows (c.doneMask ||| bits) c.doneMask
      && !Status.shows (c.doneMask ||| bits) c.errorMask
  | .immediate | .deferred _ | .hang => false

namespace Machine

/-! ## From a start on -/

/-- **A machine that a disk with this configuration was brought up on.** -/
structure Carrying (c : Config) (m : Machine) : Prop where
  engine : ∃ e, m.controller = .engine e ∧ e.doneBits = c.doneMask
  doneMask : m.channel.doneMask = c.doneMask
  errorMask : m.channel.errorMask = c.errorMask
  events : m.events = []

/-- **What a machine has become** since it was `m₀`: it is set up as it was, and
every start has used up one of the behaviours that lay ahead. -/
structure Onward (m₀ m : Machine) : Prop where
  tended : m.Tended
  outline : m.outline = m₀.outline
  later : m₀.transfers.size ≤ m.transfers.size
  next : ∀ n, m.behaviorAt n = m₀.behaviorAt (m.transfers.size - m₀.transfers.size + n)

/-- **No start since `m₀` was overlooked.** -/
def Candid (c : Config) (m₀ m : Machine) : Prop :=
  ∀ n < m.transfers.size - m₀.transfers.size, ∀ b, m₀.behaviorAt n = some b → c.overlooks b = false

variable {c : Config} {m₀ m m' m₁ m₁' : Machine} {t : Transfer} {e : Engine} {places : Set Nat}

/-- What a disk was brought up with can be told from the outline. -/
theorem Carrying.congr (carrying : m₀.Carrying c) (h : m.outline = m₀.outline) :
    m.Carrying c where
  engine := by
    obtain ⟨e₀, engine₀, done⟩ := carrying.engine
    have same : m.controller.outline = m₀.controller.outline := (congrArg Machine.controller h :)
    rcases engine : m.controller with r | e
    · rw [engine, engine₀] at same
      cases same
    · exact ⟨e, rfl, (doneBits_of_outline h engine₀ engine).trans done⟩
  doneMask := (congrArg (fun b : Machine => b.channel.doneMask) h :).trans carrying.doneMask
  errorMask := (congrArg (fun b : Machine => b.channel.errorMask) h :).trans carrying.errorMask
  events := (congrArg Machine.events h :).trans carrying.events

/-- The done bits of its engine are the ones that are looked for. -/
theorem Carrying.doneBits (carrying : m.Carrying c) (engine : m.controller = .engine e) :
    e.doneBits = c.doneMask := by
  obtain ⟨e', engine', done⟩ := carrying.engine
  obtain rfl := Controller.engine.inj (engine.symm.trans engine')
  exact done

namespace Onward

/-- Nothing has been started yet. -/
theorem refl (tended : m.Tended) : m.Onward m where
  tended := tended
  outline := rfl
  later := Nat.le_refl _
  next n := by rw [Nat.sub_self, Nat.zero_add]

/-- What leaves the bare machine starts nothing. -/
theorem of_bare (h : m₀.Onward m) (tended : m₁.Tended) (bare : m₁.bare = m.bare) :
    m₀.Onward m₁ := by
  have size : m₁.transfers.size = m.transfers.size := by
    rw [← transfers_bare, bare, transfers_bare]
  refine ⟨tended, (outline_of_bare bare).trans h.outline, ?_, fun n => ?_⟩
  · rw [size]
    exact h.later
  · rw [← behaviorAt_bare, bare, behaviorAt_bare, size]
    exact h.next n

/-- **A start uses up a behaviour.** -/
theorem noted (h : m₀.Onward m) (tended : m₁.Tended)
    (bare : m₁.bare = m.bare.mapEngine (Engine.noted t)) :
    m₀.Onward m₁ ∧ m₁.transfers.size = m.transfers.size + 1 := by
  have size : m₁.transfers.size = m.transfers.size + 1 := by
    obtain ⟨e, engine, -⟩ := h.tended.engine
    rw [← transfers_bare, bare]
    rcases m with ⟨_ | e⟩
    · cases engine
    · exact Array.size_push _
  have later := h.later
  refine ⟨⟨tended, ?_, by omega, fun n => ?_⟩, size⟩
  · rw [← outline_bare, bare, outline_noted, outline_bare]
    exact h.outline
  · rw [← behaviorAt_bare, bare, behaviorAt_noted, behaviorAt_bare, h.next, size]
    congr 1
    omega

end Onward

/-- **A start that was not overlooked** follows others that were not. -/
theorem Candid.started (onward : m₀.Onward m) (size : m₁.transfers.size = m.transfers.size + 1)
    (candid : m₀.Candid c m₁) :
    m₀.Candid c m ∧ ∀ b, m.behaviorAt 0 = some b → c.overlooks b = false := by
  have later := onward.later
  refine ⟨fun n hn => candid n (by omega), fun b hb => ?_⟩
  rw [onward.next] at hb
  exact candid _ (by omega) b hb

theorem Candid.of_transfers (candid : m₀.Candid c m₁) (same : m₁.transfers = m.transfers) :
    m₀.Candid c m := by
  unfold Candid at *
  rwa [same] at candid

/-- **A transfer that ends well was copied**, where its start was not
overlooked. -/
theorem Launched.immediate (left : Launched t e m m₁) (carrying : m₁.Carrying c)
    (done : e.doneBits = c.doneMask) (well : m₁.verdict = .ok ())
    (seen : c.overlooks e.takeBehavior.behavior = false) :
    e.takeBehavior.behavior = .immediate := by
  have settled := left.settled
  have status := left.status
  unfold verdict at well
  split at well
  · next ended =>
    split at well
    · cases well
    · next clear =>
      rw [carrying.errorMask] at clear
      have shown : Status.shows m₁.status c.doneMask = true := by
        rw [← carrying.doneMask]
        obtain full | ⟨-, shows⟩ := ended
        · exact settled.symm.trans full
        · exact shows
      cases next : e.takeBehavior.behavior with
      | immediate => rfl
      | hang | deferred _ =>
        rw [next] at status
        rw [status, Behavior.status, Status.shows_zero] at shown
        cases shown
      | fault bits =>
        rw [next, done] at status
        rw [status, Behavior.status] at shown clear
        rw [Bool.not_eq_true] at clear
        rw [next, Config.overlooks, shown, clear] at seen
        cases seen
  · cases well

/-- The same, where no start since `m₀` was overlooked. -/
theorem Launched.immediate_of_candid (left : Launched t e m m₁) (onward : m₀.Onward m)
    (engine : m.controller = .engine e) (carrying : m₀.Carrying c) (well : m₁.verdict = .ok ())
    (candid : m₀.Candid c m₁) : e.takeBehavior.behavior = .immediate := by
  obtain ⟨onward₁, size⟩ := onward.noted left.tended left.bare
  obtain ⟨-, seen⟩ := Candid.started onward size candid
  refine left.immediate (carrying.congr onward₁.outline)
    ((carrying.congr onward.outline).doneBits engine) well (seen _ ?_)
  unfold behaviorAt engine?
  rw [engine]
  rfl

/-! ## Peers -/

/-- **Two machines that can be told apart by their pasts alone**: they were set up
alike, their engines are going to do the same, and remote memory holds the same
bytes at some places. -/
structure Peers (m₀ : Machine) (places : Set Nat) (m m' : Machine) : Prop
    extends Onward m₀ m where
  tended' : m'.Tended
  outline' : m'.outline = m.outline
  next' : ∀ n, m'.behaviorAt n = m.behaviorAt n
  agree : m.window.memory.AgreeOn places m'.window.memory

/-- The machine with other records of what was done with it. -/
def recorded (flushes : Array Flush) (counters : Counters) (journal : Array Entry)
    (m : Machine) : Machine :=
  { m with flushes, counters, journal }

namespace Peers

variable (h : Peers m₀ places m m')
include h

/-- Records are no matter to peers. -/
theorem recorded (flushes flushes' : Array Flush) (counters counters' : Counters)
    (journal journal' : Array Entry) :
    Peers m₀ places (m.recorded flushes counters journal)
      (m'.recorded flushes' counters' journal') where
  tended := ⟨h.tended.engine, h.tended.wire⟩
  outline := h.outline
  later := h.later
  next := h.next
  tended' := ⟨h.tended'.engine, h.tended'.wire⟩
  outline' := h.outline'
  next' := h.next'
  agree := h.agree

/-- What leaves the bare machine and remote memory leaves peers. -/
theorem of_bare (tended : m₁.Tended) (tended' : m₁'.Tended) (bare : m₁.bare = m.bare)
    (bare' : m₁'.bare = m'.bare) (window : m₁.window = m.window)
    (window' : m₁'.window = m'.window) :
    Peers m₀ places m₁ m₁' where
  toOnward := h.toOnward.of_bare tended bare
  tended' := tended'
  outline' := by rw [outline_of_bare bare, outline_of_bare bare', h.outline']
  next' n := by
    rw [← behaviorAt_bare, bare', behaviorAt_bare, h.next', ← behaviorAt_bare n m, ← bare,
      behaviorAt_bare]
  agree := by
    rw [window, window']
    exact h.agree

/-- Time and a look at the slot leave peers. -/
theorem waited (still : m₁.still = m.resetSignal.still)
    (still' : m₁'.still = m'.resetSignal.still) :
    Peers m₀ places m₁ m₁' ∧ m₁.bare = m.bare := by
  have bare {m m₁ : Machine} (still : m₁.still = m.resetSignal.still) : m₁.bare = m.bare := by
    have bare_still (m : Machine) : m.still.bare = m.bare := by
      rcases m with ⟨_ | _⟩ <;> rfl
    rw [← bare_still, still, bare_still]
    exact m.bare_takeSignal
  have tended {m m₁ : Machine} (still : m₁.still = m.resetSignal.still) (tended : m.Tended) :
      m₁.Tended := by
    rw [← tended_plain, plain_of_still still, tended_plain]
    exact ⟨tended.engine, tended.wire⟩
  exact ⟨h.of_bare (tended still h.tended) (tended still' h.tended') (bare still) (bare still')
    (congrArg Machine.window still :) (congrArg Machine.window still' :), bare still⟩

/-- **A wait ends alike on peers** whose slots and status registers tell the
same. -/
theorem wait (calm : m.events = []) (settled : m.Settled) (settled' : m'.Settled)
    (status : m'.status = m.status) (ms : UInt64) :
    ∃ r m₁ m₁', Act.wait ms m = (r, m₁) ∧ Act.wait ms m' = (r, m₁')
      ∧ Peers m₀ places m₁ m₁' ∧ m₁.bare = m.bare ∧ m₁.memory = m.memory ∧ m₁'.memory = m'.memory
      ∧ (r = .ok (.ok ()) → m.verdict = .ok ()) := by
  have doneMask : m'.channel.doneMask = m.channel.doneMask :=
    (congrArg (fun b : Machine => b.channel.doneMask) h.outline' :)
  have errorMask : m'.channel.errorMask = m.channel.errorMask :=
    (congrArg (fun b : Machine => b.channel.errorMask) h.outline' :)
  have mode : m'.channel.mode = m.channel.mode :=
    (congrArg (fun b : Machine => b.channel.mode) h.outline' :)
  have signaled : m'.channel.signaled = m.channel.signaled := by
    unfold Settled at settled settled'
    rw [settled, settled', status, doneMask]
  have ended : m'.Over ↔ m.Over := by
    unfold Over
    rw [signaled, mode, status, doneMask]
  have verdict : m'.verdict = m.verdict := by
    unfold Machine.verdict
    simp only [ended, status, errorMask]
  have times : m'.clock.TimesOut m'.channel.mode ms ↔ m.clock.TimesOut m.channel.mode ms := by
    show m'.outline.clock.TimesOut m'.outline.channel.mode ms
      ↔ m.outline.clock.TimesOut m.outline.channel.mode ms
    rw [h.outline']
  have events : m'.events = m.events := (congrArg Machine.events h.outline' :)
  obtain ⟨m₁, still, ends, never⟩ := Act.wait_ends ⟨calm, h.tended.pending⟩ ms
  obtain ⟨m₁', still', ends', never'⟩ := Act.wait_ends ⟨events.trans calm, h.tended'.pending⟩ ms
  obtain ⟨peers, bare⟩ := h.waited still still'
  have memory : m₁.memory = m.memory := (congrArg Machine.memory still :)
  have memory' : m₁'.memory = m'.memory := (congrArg Machine.memory still' :)
  rw [ended, times, verdict] at ends'
  rw [ended, times] at never'
  by_cases passes : m.Over ∨ m.clock.TimesOut m.channel.mode ms
  · exact ⟨_, m₁, m₁', ends passes, ends' passes, peers, bare, memory, memory',
      fun h => Except.ok.inj h⟩
  · exact ⟨_, m₁, m₁', never passes, never' passes, peers, bare, memory, memory',
      fun h => nomatch h⟩

/-- The windows of peers lie at the same place. -/
theorem locate (address : UInt64) (len : Nat) :
    m'.window.locate address len = m.window.locate address len := by
  have base : m'.window.base = m.window.base :=
    (congrArg (fun b : Machine => b.window.base) h.outline' :)
  have size : m'.window.size = m.window.size :=
    (congrArg (fun b : Machine => b.window.size) h.outline' :)
  unfold Window.locate
  rw [base, size]

theorem reaches (t : Transfer) : m'.window.reaches t = m.window.reaches t := by
  unfold Window.reaches
  rw [h.locate, h.locate]

/-- **What is copied from these places** is the same on peers, wherever it is
copied to. -/
theorem copied {place : Nat} (source : m.window.locate t.source t.length.toNat = .remote place)
    (inside : ∀ i < t.length.toNat, place + i ∈ places) :
    (m.copied t).window.memory.AgreeOn places (m'.copied t).window.memory
      ∧ ∀ address, m.window.locate t.destination t.length.toNat = .nearby address →
        (m'.copied t).memory.read address t.length.toNat
          = (m.copied t).memory.read address t.length.toNat := by
  have fetched : m'.fetch (.remote place) t.length.toNat = m.fetch (.remote place) t.length.toNat :=
    h.agree.read inside
  have size : (m.fetch (.remote place) t.length.toNat).size = t.length.toNat :=
    Memory.size_read _ _ _
  have reaches := h.reaches t
  unfold Machine.copied
  rw [reaches, h.locate, h.locate, source, fetched]
  have reached : m.window.reaches t
      = decide (m.window.locate t.destination t.length.toNat ≠ .invalid) := by
    unfold Window.reaches
    rw [source]
    simp
  generalize m.fetch (.remote place) t.length.toNat = data at size
  rw [reached]
  cases m.window.locate t.destination t.length.toNat with
  | remote offset => exact ⟨h.agree.write offset data, fun _ there => Target.noConfusion there⟩
  | nearby address =>
    refine ⟨h.agree, fun address' there => ?_⟩
    cases there
    show (m'.memory.write address data).read address _
      = (m.memory.write address data).read address _
    rw [← size, Memory.read_write, Memory.read_write]
  | invalid => exact ⟨h.agree, fun _ there => Target.noConfusion there⟩

/-- **A start on peers that reads from these places**: it leaves peers with the
same status, and where the bytes were copied to local memory, the same bytes
there. -/
theorem launch {place : Nat} (short : t.length.toNat ≤ Engine.longestBuffer)
    (source : m.window.locate t.source t.length.toNat = .remote place)
    (inside : ∀ i < t.length.toNat, place + i ∈ places) :
    ∃ e m₁ m₁', m.controller = .engine e
      ∧ Act.launch t.source t.destination t.length m = (.ok (), m₁)
      ∧ Act.launch t.source t.destination t.length m' = (.ok (), m₁')
      ∧ Launched t e m m₁ ∧ m₁'.Settled ∧ m₁'.status = m₁.status
      ∧ Peers m₀ places m₁ m₁'
      ∧ (e.takeBehavior.behavior = .immediate → ∀ address,
        m.window.locate t.destination t.length.toNat = .nearby address →
          m₁'.memory.read address t.length.toNat = m₁.memory.read address t.length.toNat) := by
  obtain ⟨e, engine, -⟩ := h.tended.engine
  obtain ⟨e', engine', -⟩ := h.tended'.engine
  obtain ⟨m₁, run, left⟩ := h.tended.launch engine short
  obtain ⟨m₁', run', left'⟩ := h.tended'.launch engine' short
  obtain ⟨agree, bytes⟩ := h.copied source inside
  have behavior : e'.takeBehavior.behavior = e.takeBehavior.behavior := by
    have next := h.next' 0
    unfold behaviorAt engine? at next
    rw [engine, engine'] at next
    exact Option.some.inj next
  refine ⟨e, m₁, m₁', engine, run, run', left, left'.settled, ?_, ?_, ?_⟩
  · rw [left'.status, left.status, behavior, h.reaches,
      doneBits_of_outline h.outline' engine engine']
  · obtain ⟨onward, -⟩ := h.toOnward.noted left.tended left.bare
    refine ⟨onward, left'.tended, ?_, fun n => ?_, ?_⟩
    · rw [← outline_bare, left'.bare, outline_noted, outline_bare, ← outline_bare m₁, left.bare,
        outline_noted, outline_bare, h.outline']
    · rw [← behaviorAt_bare, left'.bare, behaviorAt_noted, behaviorAt_bare, h.next',
        ← behaviorAt_bare n m₁, left.bare, behaviorAt_noted, behaviorAt_bare]
    · rw [left.memory.window, left'.memory.window, behavior]
      split
      · exact agree
      · exact h.agree
  · intro immediate address nearby
    rw [left.memory.memory, left'.memory.memory, if_pos immediate,
      if_pos (behavior.trans immediate)]
    exact bytes address nearby

end Peers

end Machine

end RemoteDisk
