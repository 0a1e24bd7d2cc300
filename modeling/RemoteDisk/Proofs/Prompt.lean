import RemoteDisk.Proofs.Course
import RemoteDisk.Proofs.Waiting

/-!
# Machines on which a transfer ends as its engine says

Course by course a request is accounted for whatever happens. What it does to
memory can be said as soon as nobody interferes: no event is laid out, no
transfer was put off, and the end of a transfer is noticed, by the handler on
the wire or by polling. On such a machine (`Machine.Prompt`) the behaviour of
the engine decides a transfer alone. It copies and succeeds, or it finishes
with an error bit and fails, or it drops the transfer and the wait times out.

Nothing that an earlier transfer left behind takes part in this. The slot is
emptied and the status register cleared before the start, and what the bounce
buffer holds is overwritten before it is looked at.
-/

namespace RemoteDisk

/-! ## Status bits -/

namespace Status

variable {done error extra : UInt32}

/-- A clear status shows no bit. -/
theorem shows_zero (mask : UInt32) : shows 0 mask = false := by
  unfold shows
  rw [UInt32.zero_and]
  rfl

/-- Bits are shown together where one of them is. -/
theorem shows_or (status extra mask : UInt32) :
    shows (status ||| extra) mask = (shows status mask || shows extra mask) := by
  have parts : (status ||| extra) &&& mask = status &&& mask ||| extra &&& mask := by
    apply UInt32.toNat.inj
    rw [UInt32.toNat_and, UInt32.toNat_or, UInt32.toNat_or, UInt32.toNat_and, UInt32.toNat_and,
      Nat.and_or_distrib_right]
  rw [Bool.eq_iff_iff, Bool.or_eq_true]
  unfold shows
  rw [parts, bne_iff_ne, bne_iff_ne, bne_iff_ne, ne_eq, UInt32.or_eq_zero_iff, not_and_or]

/-- A status that shows the done bits and more shows a done bit. -/
theorem shows_or_self (h : done ≠ 0) (extra : UInt32) : shows (done ||| extra) done = true := by
  have shown : shows done done = true := by
    unfold shows
    rw [UInt32.and_self, bne_iff_ne]
    exact h
  rw [shows_or, shown, Bool.true_or]

/-- Done bits that are no error bits hide no error. -/
theorem shows_or_of_disjoint (h : error &&& done = 0) (extra : UInt32) :
    shows (done ||| extra) error = shows extra error := by
  have none : shows done error = false := by
    unfold shows
    rw [UInt32.and_comm, h]
    rfl
  rw [shows_or, none, Bool.false_or]

end Status

namespace Window

variable {w : Window} {address : UInt64} {len : Nat}

/-- A range that lies in the window is found there. -/
theorem locate_remote (pos : 0 < len) (start : w.base.toNat ≤ address.toNat)
    (stop : address.toNat + len ≤ w.base.toNat + w.size) :
    w.locate address len = .remote (address.toNat - w.base.toNat) := by
  unfold locate
  rw [if_pos ⟨UInt64.le_iff_toNat_le.mpr start, by omega⟩]
  exact if_pos (by omega)

/-- A range that starts outside the window is local, unless it starts at
zero. -/
theorem locate_nearby (nonzero : address ≠ 0)
    (apart : address.toNat < w.base.toNat ∨ w.base.toNat + w.size ≤ address.toNat) :
    w.locate address len = .nearby address.toNat := by
  unfold locate
  rw [if_neg, if_neg nonzero]
  rintro ⟨above, inside⟩
  rw [UInt64.le_iff_toNat_le] at above
  omega

end Window

namespace Machine

/-- **The handler on the wire notices the end of a transfer**: it signals the
completion, or it is a disk's and listens to the line of the wire. -/
def Attended (m : Machine) : Prop :=
  ∃ line handler, m.wire = some ⟨line, some handler⟩
    ∧ (handler = .latch ∨ handler = .disk (some line))

/-- **A transfer ends as the engine says**, and its end is noticed. -/
structure Prompt (m : Machine) : Prop where
  /-- The engine's done bits are the ones that are looked for. -/
  engine : ∃ e, m.controller = .engine e ∧ e.doneBits = m.channel.doneMask
  /-- There is a done bit to look for. -/
  done : m.channel.doneMask ≠ 0
  /-- No done bit is an error bit. -/
  errors : m.channel.errorMask &&& m.channel.doneMask = 0
  /-- Nobody interferes. -/
  events : m.events = []
  /-- The end of a transfer is noticed where it is not looked for. -/
  noticed : m.channel.mode = .interrupt → m.Attended

namespace Prompt

variable {m m' : Machine}

/-- A machine is prompt by its engine, its channel, its events and its
wire. -/
theorem congr (p : m.Prompt) (controller : m'.controller = m.controller)
    (channel : m'.channel = m.channel) (events : m'.events = m.events) (wire : m'.wire = m.wire) :
    m'.Prompt where
  engine := by
    rw [controller, channel]
    exact p.engine
  done := by
    rw [channel]
    exact p.done
  errors := by
    rw [channel]
    exact p.errors
  events := events.trans p.events
  noticed := by
    intro mode
    rw [channel] at mode
    unfold Attended
    rw [wire]
    exact p.noticed mode

theorem hasEngine (p : m.Prompt) : m.HasEngine := by
  obtain ⟨e, engine, -⟩ := p.engine
  exact ⟨e, engine⟩

/-- Whether a machine is prompt can be told from its bare machine. -/
theorem of_bare (p : m.bare.Prompt) : m.Prompt := by
  obtain ⟨e, engine, done⟩ := p.engine
  refine ⟨?_, p.done, p.errors, p.events, p.noticed⟩
  rcases m with ⟨r | e'⟩
  · cases engine
  · cases engine
    exact ⟨e', rfl, done⟩

theorem bare (p : m.Prompt) : m.bare.Prompt := by
  obtain ⟨e, engine, done⟩ := p.engine
  refine ⟨⟨e.bare, ?_, done⟩, p.done, p.errors, p.events, p.noticed⟩
  show m.controller.bare = _
  rw [engine]
  rfl

/-- A transfer in the log keeps a machine prompt. -/
theorem noted (p : m.Prompt) (t : Transfer) : (m.mapEngine (Engine.noted t)).Prompt := by
  obtain ⟨e, engine, done⟩ := p.engine
  rcases m with ⟨r | e'⟩
  · cases engine
  · cases engine
    exact ⟨⟨_, rfl, (Engine.doneBits_takeBehavior e).trans done⟩, p.done, p.errors, p.events,
      p.noticed⟩

theorem issued (p : m.Prompt) (d : Descriptor) : (m.issued d).Prompt :=
  have q : (m.flushed d.source d.length.toNat).Prompt := p.congr rfl rfl rfl rfl
  q.noted d.transfer

theorem moved (p : m.Prompt) (d : Descriptor) : (m.moved d).Prompt :=
  (p.issued d).congr rfl rfl rfl rfl

end Prompt

/-- **The machine after a call of a handler**: the slot, the counters and what
was answered and noted may be others. -/
def called (signaled : Bool) (counters : Counters) (claims : Array Claim)
    (notices : Array Notice) (m : Machine) : Machine :=
  { m with channel := { m.channel with signaled }, counters, claims, notices }

variable {m : Machine}

/-- **What a call of a handler changes.** One that attends to the wire fills
the slot where the status register shows a done bit. -/
theorem deliver_inv (engine : m.HasEngine) (handler : Handler) (line : UInt32) :
    ∃ signaled counters claims notices,
      (m.deliver handler line).2 = m.called signaled counters claims notices
      ∧ (handler = .latch ∨ handler = .disk (some line) →
        Status.shows m.status m.channel.doneMask = true → signaled = true) := by
  cases handler with
  | latch => exact ⟨true, m.counters, m.claims, m.notices, rfl, fun _ _ => rfl⟩
  | observer claims =>
    refine ⟨m.channel.signaled, m.counters, m.claims, _, rfl, ?_⟩
    rintro (other | other) <;> cases other
  | disk own =>
    by_cases listens : own = some line
    · have run : (m.deliver (.disk own) line).2 = m.handleInterrupt.2 := by
        unfold deliver
        dsimp only
        rw [if_pos listens]
      rw [run]
      unfold handleInterrupt
      rw [engine.readStatus]
      dsimp only
      cases Status.shows m.status m.channel.doneMask
      · exact ⟨m.channel.signaled, m.counters, _, m.notices, rfl, fun _ h => nomatch h⟩
      · exact ⟨true, _, _, m.notices, rfl, fun _ _ => rfl⟩
    · have run : (m.deliver (.disk own) line).2 = m := by
        unfold deliver
        dsimp only
        rw [if_neg listens]
      refine ⟨m.channel.signaled, m.counters, m.claims, m.notices, run, ?_⟩
      rintro (other | other) <;> cases other
      exact absurd rfl listens

/-- **What raising the wire changes.** -/
theorem raise_inv (engine : m.HasEngine) :
    ∃ signaled counters claims notices, m.raise.2 = m.called signaled counters claims notices
      ∧ (m.Attended → Status.shows m.status m.channel.doneMask = true → signaled = true) := by
  have unheard (alone : ∀ line handler, m.wire ≠ some ⟨line, some handler⟩)
      (run : m.raise.2 = m) : ∃ signaled counters claims notices,
      m.raise.2 = m.called signaled counters claims notices
      ∧ (m.Attended → Status.shows m.status m.channel.doneMask = true → signaled = true) := by
    refine ⟨m.channel.signaled, m.counters, m.claims, m.notices, run, ?_⟩
    rintro ⟨line, handler, wire, -⟩
    exact absurd wire (alone line handler)
  rcases connected : m.wire with _ | ⟨line, _ | handler⟩
  · refine unheard (fun _ _ h => ?_) (by unfold raise; rw [connected])
    rw [connected] at h
    cases h
  · refine unheard (fun _ _ h => ?_) (by unfold raise; rw [connected])
    rw [connected] at h
    cases h
  · obtain ⟨signaled, counters, claims, notices, run, fills⟩ := deliver_inv engine handler line
    refine ⟨signaled, counters, claims, notices, ?_, ?_⟩
    · rw [← run]
      unfold raise
      rw [connected]
    · rintro ⟨_, _, wire, attends⟩
      rw [connected] at wire
      cases wire
      exact fills attends

/-- **Memory is left alone**, remote and local, and so are the transfers that
were put off. -/
structure SameMemory (m m' : Machine) : Prop where
  window : m'.window = m.window
  memory : m'.memory = m.memory
  pending : m'.pending = m.pending

theorem SameMemory.trans {m m' m'' : Machine} (h : m.SameMemory m') (h' : m'.SameMemory m'') :
    m.SameMemory m'' :=
  ⟨h'.window.trans h.window, h'.memory.trans h.memory, h'.pending.trans h.pending⟩

/-- Time leaves memory alone. -/
theorem SameMemory.of_still {m m' : Machine} (h : m'.still = m.still) : m.SameMemory m' where
  window := (congrArg Machine.window h :)
  memory := (congrArg Machine.memory h :)
  pending := by rw [← pending_still, h, pending_still]

/-- **The machine whose engine has published its status** and become free, before
the wire is raised. -/
theorem freed_apply {e : Engine} (engine : m.controller = .engine e) (extra : UInt32) :
    (m.publish extra).release = { m with
        controller := .engine { e.setStatus (e.doneBits ||| extra) with busy := false } }
      ∧ ((m.publish extra).release).status = e.doneBits ||| extra := by
  have freed : (m.publish extra).release = { m with
      controller := .engine { e.setStatus (e.doneBits ||| extra) with busy := false } } := by
    unfold publish release
    rw [mapEngine_mapEngine]
    unfold mapEngine
    rw [engine]
  refine ⟨freed, ?_⟩
  rw [freed]
  exact (e.get_set .status .status _).trans (if_pos rfl)

/-- A machine that is freed shows the done bits that are looked for, and may show more. -/
theorem Prompt.freed (p : m.Prompt) (extra : UInt32) :
    ∃ e e', m.controller = .engine e
      ∧ (m.publish extra).release = { m with controller := .engine e' }
      ∧ e'.pending = e.pending
      ∧ ((m.publish extra).release).status = m.channel.doneMask ||| extra := by
  obtain ⟨e, engine, done⟩ := p.engine
  obtain ⟨freed, status⟩ := freed_apply engine extra
  rw [done] at status
  exact ⟨e, _, engine, freed, rfl, status⟩

/-- **A transfer that the engine finishes is over**, with its status in the
register. Memory is left alone, and so is everything still to come. -/
theorem Prompt.finish (p : m.Prompt) (extra : UInt32) :
    (m.finish extra).Over ∧ (m.finish extra).status = m.channel.doneMask ||| extra
      ∧ m.SameMemory (m.finish extra) := by
  obtain ⟨e, e', engine, freed, put, status⟩ := p.freed extra
  -- the status is in the register before the wire is raised, so a handler sees it
  have finished : m.finish extra = ((m.publish extra).release).raise.2 := rfl
  rw [freed] at status finished
  obtain ⟨signaled, counters, claims, notices, run, fills⟩ :=
    raise_inv (m := { m with controller := .engine e' }) ⟨_, rfl⟩
  rw [run] at finished
  have shows := Status.shows_or_self p.done extra
  rw [status] at fills
  have pending : m.pending = e.pending := by
    unfold Machine.pending engine?
    rw [engine]
    rfl
  rw [finished]
  refine ⟨?_, status, rfl, rfl, put.trans pending.symm⟩
  -- by interrupt the handler has filled the slot, by polling the register is looked at
  by_cases mode : m.channel.mode = .interrupt
  · exact .inl (fills (p.noticed mode) shows)
  · rw [← status] at shows
    exact .inr ⟨mode, shows⟩

/-! ## What a launch leaves -/

/-- A transfer is started with an empty slot. -/
theorem channel_begun (m : Machine) (t : Transfer) :
    (m.begun t).channel = { m.channel with signaled := false } := by
  rcases m with ⟨_ | _⟩ <;> rfl

/-- A start clears the status register of an engine. -/
theorem HasEngine.status_begun (engine : m.HasEngine) (t : Transfer) :
    (m.begun t).status = 0 := by
  obtain ⟨e, engine⟩ := engine
  rcases m with ⟨_ | e'⟩
  · cases engine
  · exact (Engine.get_set _ .status .status 0).trans (if_pos rfl)

/-- A start puts nothing off. -/
theorem pending_begun (m : Machine) (t : Transfer) : (m.begun t).pending = m.pending := by
  have same (e : Engine) : (e.begun t).pending = e.pending := by
    rcases e with ⟨_, _, _, _ | _⟩ <;> rfl
  rcases m with ⟨_ | e⟩
  · rfl
  · exact same e

/-- Memory is as it was when a transfer is started. -/
theorem SameMemory.begun (m : Machine) (t : Transfer) : m.SameMemory (m.begun t) := by
  refine ⟨?_, ?_, pending_begun m t⟩ <;> rcases m with ⟨_ | _⟩ <;> rfl

/-- **A machine on which a transfer is started** has an empty slot and a clear
status register, and all else as before. -/
theorem Prompt.begun (p : m.Prompt) (t : Transfer) :
    (m.begun t).Prompt ∧ (m.begun t).Open ∧ m.SameMemory (m.begun t) := by
  refine ⟨.of_bare ?_, ?_, .begun m t⟩
  · rw [bare_begun]
    exact p.bare.noted t
  · refine ⟨by rw [channel_begun], fun _ => ?_⟩
    rw [p.hasEngine.status_begun]
    exact Status.shows_zero _

end Machine

/-- What the engine does at the `n`-th start from now, the starts being
numbered from zero. -/
def Engine.behaviorAt : (n : Nat) → Engine → Behavior
  | 0, e => e.takeBehavior.behavior
  | n + 1, e => behaviorAt n e.takeBehavior

namespace Engine

variable {e e' : Engine}

theorem takeBehavior_congr (behavior : e.behavior = e'.behavior)
    (upcoming : e.upcoming = e'.upcoming) :
    e.takeBehavior.behavior = e'.takeBehavior.behavior
      ∧ e.takeBehavior.upcoming = e'.takeBehavior.upcoming := by
  unfold takeBehavior
  rw [upcoming]
  rcases e'.upcoming with _ | _
  · exact ⟨behavior, upcoming⟩
  · exact ⟨rfl, rfl⟩

/-- Where no behaviour is laid out, the engine does the same at every start. -/
theorem behaviorAt_of_none (h : e.upcoming = []) (n : Nat) : e.behaviorAt n = e.behavior := by
  have same : e.takeBehavior = e := by
    unfold takeBehavior
    rw [h]
  induction n with
  | zero => exact congrArg Engine.behavior same
  | succ n ih =>
    show Engine.behaviorAt n e.takeBehavior = _
    rw [same, ih]

/-- What an engine is going to do depends on what is laid out for it alone. -/
theorem behaviorAt_congr (n : Nat) (behavior : e.behavior = e'.behavior)
    (upcoming : e.upcoming = e'.upcoming) : e.behaviorAt n = e'.behaviorAt n := by
  induction n generalizing e e' with
  | zero => exact (takeBehavior_congr behavior upcoming).1
  | succ n ih =>
    obtain ⟨behavior, upcoming⟩ := takeBehavior_congr behavior upcoming
    exact ih behavior upcoming

end Engine

namespace Machine

/-- What its engine does at the `n`-th start from now. -/
def behaviorAt (n : Nat) (m : Machine) : Option Behavior := m.engine?.map (Engine.behaviorAt n)

variable {m : Machine}

@[simp] theorem behaviorAt_bare (n : Nat) (m : Machine) : m.bare.behaviorAt n = m.behaviorAt n := by
  rcases m with ⟨_ | e⟩
  · rfl
  · exact congrArg some (Engine.behaviorAt_congr n rfl rfl)

/-- A start that was noted has used up one behaviour. -/
theorem behaviorAt_noted (n : Nat) (m : Machine) (t : Transfer) :
    (m.mapEngine (Engine.noted t)).behaviorAt n = m.behaviorAt (n + 1) := by
  rcases m with ⟨_ | e⟩
  · rfl
  · exact congrArg some (Engine.behaviorAt_congr n rfl rfl)

theorem behaviorAt_issued (n : Nat) (m : Machine) (d : Descriptor) :
    (m.issued d).behaviorAt n = m.behaviorAt (n + 1) :=
  behaviorAt_noted n (m.flushed d.source d.length.toNat) d.transfer

theorem Open.release (o : m.Open) : m.release.Open := by
  rcases m with ⟨_ | _⟩ <;> exact ⟨o.empty, o.status⟩

theorem SameMemory.release (m : Machine) : m.SameMemory m.release := by
  rcases m with ⟨_ | _⟩ <;> exact ⟨rfl, rfl, rfl⟩

/-- What is fetched is found in memory alone. -/
theorem SameMemory.fetch {m m' : Machine} (h : m.SameMemory m') (target : Target) (len : Nat) :
    m'.fetch target len = m.fetch target len := by
  unfold Machine.fetch
  rw [h.window, h.memory]

/-- What is stored changes memory alone. -/
theorem SameMemory.store {m m' : Machine} (h : m.SameMemory m') (target : Target)
    (data : ByteArray) : (m.store target data).SameMemory (m'.store target data) := by
  cases target with
  | remote offset => exact ⟨by simp only [Machine.store, h.window], h.memory, h.pending⟩
  | nearby address => exact ⟨h.window, by simp only [Machine.store, h.memory], h.pending⟩
  | invalid => exact h

theorem Prompt.store (p : m.Prompt) (target : Target) (data : ByteArray) :
    (m.store target data).Prompt := by
  cases target <;> exact p.congr rfl rfl rfl rfl

theorem pending_store (m : Machine) (target : Target) (data : ByteArray) :
    (m.store target data).pending = m.pending := by
  cases target <;> rfl

theorem channel_store (m : Machine) (target : Target) (data : ByteArray) :
    (m.store target data).channel = m.channel := by
  cases target <;> rfl

/-- The engine's behaviour at the next start. -/
theorem takeBehavior_of_behaviorAt {e : Engine} {b : Behavior} (engine : m.controller = .engine e)
    (next : m.behaviorAt 0 = some b) : e.takeBehavior.behavior = b := by
  unfold behaviorAt engine? at next
  rw [engine] at next
  exact Option.some.inj next

namespace Prompt

variable {t : Transfer}

/-- **A transfer that is dropped** goes on for ever. -/
theorem launch_hang (p : m.Prompt) (next : m.behaviorAt 0 = some .hang) :
    ∃ m', Act.launch t.source t.destination t.length m = (.ok (), m')
      ∧ m'.Open ∧ m.SameMemory m' := by
  obtain ⟨e, engine, -⟩ := p.engine
  obtain ⟨-, o, same⟩ := p.begun t
  refine ⟨(m.begun t).release, ?_, ?_, same.trans ?_⟩
  · rw [Act.launch_apply engine, takeBehavior_of_behaviorAt engine next]
    rfl
  · exact o.release
  · exact .release _

/-- **A transfer that finishes with further bits** is over. -/
theorem launch_fault {bits : UInt32} (p : m.Prompt) (next : m.behaviorAt 0 = some (.fault bits)) :
    ∃ m', Act.launch t.source t.destination t.length m = (.ok (), m')
      ∧ m'.Over ∧ m'.status = m.channel.doneMask ||| bits ∧ m.SameMemory m' := by
  obtain ⟨e, engine, -⟩ := p.engine
  obtain ⟨q, -, same⟩ := p.begun t
  obtain ⟨ended, status, same'⟩ := q.finish bits
  refine ⟨(m.begun t).finish bits, ?_, ended, ?_, same.trans same'⟩
  · rw [Act.launch_apply engine, takeBehavior_of_behaviorAt engine next]
    rfl
  · rw [status, channel_begun]

/-- **A transfer that is copied at once** is over. -/
theorem launch_immediate (p : m.Prompt) (next : m.behaviorAt 0 = some .immediate)
    (short : t.length.toNat ≤ Engine.longestBuffer)
    (source : m.window.locate t.source t.length.toNat ≠ .invalid)
    (destination : m.window.locate t.destination t.length.toNat ≠ .invalid) :
    ∃ m', Act.launch t.source t.destination t.length m = (.ok (), m')
      ∧ m'.Over ∧ m'.status = m.channel.doneMask
      ∧ (m.store (m.window.locate t.destination t.length.toNat)
        (m.fetch (m.window.locate t.source t.length.toNat) t.length.toNat)).SameMemory m' := by
  obtain ⟨e, engine, -⟩ := p.engine
  obtain ⟨q, -, same⟩ := p.begun t
  have copied : Act.copy t (m.begun t)
      = (.ok true, (m.begun t).store (m.window.locate t.destination t.length.toNat)
        (m.fetch (m.window.locate t.source t.length.toNat) t.length.toNat)) := by
    rw [Act.copy_apply, same.window, same.fetch, if_neg (Nat.not_lt.mpr short),
      if_neg (not_or.mpr ⟨source, destination⟩)]
  obtain ⟨ended, status, same'⟩ := (q.store (m.window.locate t.destination t.length.toNat)
    (m.fetch (m.window.locate t.source t.length.toNat) t.length.toNat)).finish 0
  refine ⟨_, ?_, ended, ?_, (same.store _ _).trans same'⟩
  · rw [Act.launch_apply engine, takeBehavior_of_behaviorAt engine next]
    unfold Act.behave Act.complete
    dsimp only
    rw [Op.bind_ok copied, Op.modify_apply]
    rfl
  · rw [status, channel_store, channel_begun, UInt32.or_zero]

end Prompt

end Machine

end RemoteDisk
