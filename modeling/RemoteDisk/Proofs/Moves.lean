import RemoteDisk.Memory.View
import RemoteDisk.Proofs.Prompt

/-!
# What moving pieces does to memory

A `Store` is what a request works on: remote memory, local memory, and what a
read has delivered. Moving a piece does one of two things to it.
Either it carries the piece over, by way of the bounce buffer, or the transfer
fails, and then at most the bounce buffer has changed.

Which of the two it is, and with what result, is decided by the engine's
behaviour at that start. The theorems say so for one piece and then for a list
of pieces, up to the first that fails.
-/

namespace RemoteDisk

/-- **What a request works on.** -/
structure Store where
  /-- The bytes of the window, counted from its start. -/
  remote : Memory
  /-- Local memory. -/
  nearby : Memory
  /-- What a read has delivered. -/
  delivered : List Delivery

/-- What a request works on, as it stands. -/
def Service.store (s : Service) : Store :=
  ⟨s.machine.window.memory, s.machine.memory, s.delivered⟩

namespace Piece

/-- **A piece carried over**, by way of the bounce buffer, between local
memory and a window that starts at `base`. -/
def carry (bounce : Buffer) (base : UInt64) (p : Piece) (s : Store) : Store :=
  match p.body with
  | .source data =>
    { s with
      remote := s.remote.write (p.remote - base.toNat) data
      nearby := s.nearby.write bounce.base.toNat data }
  | .sink buffer size =>
    let data := s.remote.read (p.remote - base.toNat) size
    { s with
      nearby := s.nearby.write bounce.base.toNat data
      delivered := s.delivered ++ [⟨buffer, p.offset, data⟩] }

/-- **A piece that was given up**: bytes to be written were staged. -/
def abandon (bounce : Buffer) (p : Piece) (s : Store) : Store :=
  match p.body with
  | .source data => { s with nearby := s.nearby.write bounce.base.toNat data }
  | .sink _ _ => s

end Piece

/-- **A piece can be reached**: its place on the disk lies in the window, and
the bounce buffer starts outside it. -/
structure Piece.Reachable (bounce : Buffer) (w : Window) (p : Piece) : Prop where
  start : w.base.toNat ≤ p.remote
  stop : p.remote + p.size ≤ w.base.toNat + w.size
  nonzero : bounce.base ≠ 0
  apart : bounce.base.toNat < w.base.toNat ∨ w.base.toNat + w.size ≤ bounce.base.toNat

/-- Whether deadlines pass is a matter of what no transfer touches. -/
theorem Machine.expires_of_fixed {m m' : Machine} {ms : UInt64}
    (h : m'.bare.fixed = m.bare.fixed) (expires : m.clock.Expires m.channel.mode ms) :
    m'.clock.Expires m'.channel.mode ms := by
  show m'.bare.fixed.clock.Expires m'.bare.fixed.channel.mode ms
  rw [h]
  exact expires

namespace Descriptor

variable {d : Descriptor} {m : Machine} {ms : UInt64}

/-- A transfer that is over and shows no error bit has ended well. -/
theorem finish_over (p : m.Prompt) (q : m.pending = []) (o : m.Over)
    (well : Status.shows m.status m.channel.errorMask = false)
    (destination : CacheLine.overruns d.destination d.length.toNat = false) :
    ∃ m', d.finish ms m = (.ok (.ok ()), m') ∧ m.SameMemory m' := by
  obtain ⟨m', waited, still⟩ := Act.wait_over ⟨p.events, q⟩ o ms
  rw [well] at waited
  have same : m.resetSignal.SameMemory m' := .of_still still
  exact ⟨_, finish_of_ok waited destination, same.window, same.memory, same.pending⟩

/-- A transfer that is over and shows an error bit has failed. -/
theorem finish_error (p : m.Prompt) (q : m.pending = []) (o : m.Over)
    (shown : Status.shows m.status m.channel.errorMask = true) :
    ∃ m', d.finish ms m = (.ok (.error (.engine m.status)), m') ∧ m.SameMemory m' := by
  obtain ⟨m', waited, still⟩ := Act.wait_over ⟨p.events, q⟩ o ms
  rw [shown] at waited
  have same : m.resetSignal.SameMemory m' := .of_still still
  obtain ⟨journal, run⟩ := finish_of_error (d := d) waited
  exact ⟨_, run, same.window, same.memory, same.pending⟩

/-- A transfer that goes on for ever times out. -/
theorem finish_open (p : m.Prompt) (q : m.pending = []) (o : m.Open)
    (expires : m.clock.Expires m.channel.mode ms) :
    ∃ m', d.finish ms m = (.ok (.error .timeout), m') ∧ m.SameMemory m' := by
  obtain ⟨m', waited, still⟩ := Act.wait_open ⟨p.events, q⟩ o expires
  have same : m.SameMemory m' := .of_still still
  obtain ⟨journal, run⟩ := finish_of_error (d := d) waited
  exact ⟨_, run, same.window, same.memory, same.pending⟩

/-- **A machine on which a transfer was started** is as prompt as before. -/
theorem begin_prompt {m' : Machine} (p : m.Prompt) (began : d.begin m = (.ok (), m'))
    (source : CacheLine.overruns d.source d.length.toNat = false)
    (short : d.length.toNat ≤ Engine.longestBuffer) :
    m'.Prompt ∧ m'.bare.fixed = m.bare.fixed := by
  obtain ⟨e, engine, -⟩ := p.engine
  obtain ⟨m₁, began₁, bare⟩ := begin_bare engine source short
  obtain rfl : m₁ = m' := congrArg Prod.snd (began₁.symm.trans began)
  refine ⟨.of_bare ?_, ?_⟩
  · rw [bare]
    exact p.bare.issued d
  · rw [bare, Machine.fixed_issued]

end Descriptor

/-- **How a behaviour of the engine fails a transfer**: by dropping it, or by
showing an error bit beside the done bits. -/
def Behavior.failure? (done error : UInt32) : Behavior → Option TransferError
  | .immediate | .deferred _ => none
  | .hang => some .timeout
  | .fault bits => if Status.shows bits error then some (.engine (done ||| bits)) else none

namespace Route

variable {route : Route} {p : Piece} {s : Service} {d : Descriptor}

/-- The machine after a flush is as prompt as before it. -/
theorem prompt_flushed {m : Machine} (prompt : m.Prompt) (address : UInt64) (len : Nat) :
    (m.flushed address len).Prompt :=
  prompt.congr rfl rfl rfl rfl

/-- **A chunk at whose start the engine finds a fault** is over at once, and shows the
error bits of the fault. -/
theorem begin_fault {bits : UInt32} {m : Machine} (prompt : m.Prompt)
    (next : m.behaviorAt 0 = some (.fault bits))
    (source : CacheLine.overruns d.source d.length.toNat = false)
    (short : d.length.toNat ≤ Engine.longestBuffer) :
    ∃ m', d.begin m = (.ok (), m') ∧ m'.Prompt ∧ m'.Over ∧ m.SameMemory m'
      ∧ m'.status = m.channel.doneMask ||| bits
      ∧ Status.shows m'.status m'.channel.errorMask = Status.shows bits m.channel.errorMask := by
  have flush : m.SameMemory (m.flushed d.source d.length.toNat) := ⟨rfl, rfl, rfl⟩
  obtain ⟨m', launched, o, status, same⟩ :=
    (prompt_flushed prompt d.source d.length.toNat).launch_fault (t := d.transfer) next
  have began : d.begin m = (.ok (), m') := (Descriptor.begin_apply source m).trans launched
  obtain ⟨prompt', fixed⟩ := Descriptor.begin_prompt prompt began source short
  have mask : m'.channel.errorMask = m.channel.errorMask :=
    (congrArg (fun m => m.channel.errorMask) fixed :)
  refine ⟨m', began, prompt', o, flush.trans same, status, ?_⟩
  -- beside the done bits, an error bit of the fault is still seen
  rw [mask, status]
  exact Status.shows_or_of_disjoint prompt.errors bits

/-- **A chunk whose transfer the engine fails** is not moved. -/
theorem move_fails {b : Behavior} {cause : TransferError} (prompt : s.machine.Prompt)
    (calm : s.machine.pending = []) (next : s.machine.behaviorAt 0 = some b)
    (fails : b.failure? s.machine.channel.doneMask s.machine.channel.errorMask = some cause)
    (source : CacheLine.overruns d.source d.length.toNat = false)
    (expires : s.machine.clock.Expires s.machine.channel.mode route.timeoutMs)
    (short : d.length.toNat ≤ Engine.longestBuffer) :
    ∃ s', route.move d s = (.ok (.error cause), s') ∧ s.machine.SameMemory s'.machine
      ∧ s'.delivered = s.delivered := by
  cases b with
  | immediate | deferred => cases fails
  | hang =>
    cases fails
    have flush : s.machine.SameMemory (s.machine.flushed d.source d.length.toNat) :=
      ⟨rfl, rfl, rfl⟩
    obtain ⟨m₁, launched, o, same⟩ :=
      (prompt_flushed prompt d.source d.length.toNat).launch_hang (t := d.transfer) next
    have began : d.begin s.machine = (.ok (), m₁) :=
      (Descriptor.begin_apply source s.machine).trans launched
    obtain ⟨prompt', fixed⟩ := Descriptor.begin_prompt prompt began source short
    obtain ⟨m₂, finished, same'⟩ := Descriptor.finish_open (d := d) prompt'
      (same.pending.trans calm) o (Machine.expires_of_fixed fixed expires)
    rw [move_apply began, finished]
    exact ⟨_, rfl, flush.trans (same.trans same'), rfl⟩
  | fault bits =>
    dsimp only [Behavior.failure?] at fails
    split at fails
    · next shown =>
      cases fails
      obtain ⟨m₁, began, prompt', o, same, status, seen⟩ := begin_fault prompt next source short
      obtain ⟨m₂, finished, same'⟩ := Descriptor.finish_error (d := d) prompt'
        (same.pending.trans calm) o (seen.trans shown)
      rw [status] at finished
      rw [move_apply began, finished]
      exact ⟨_, rfl, same.trans same', rfl⟩
    · cases fails

/-- **A chunk that the engine copies at once** is moved. -/
theorem move_immediate (prompt : s.machine.Prompt)
    (calm : s.machine.pending = []) (next : s.machine.behaviorAt 0 = some .immediate)
    (walks : CacheLine.overruns d.source d.length.toNat = false
      ∧ CacheLine.overruns d.destination d.length.toNat = false)
    (short : d.length.toNat ≤ Engine.longestBuffer)
    (source : s.machine.window.locate d.source d.length.toNat ≠ .invalid)
    (destination : s.machine.window.locate d.destination d.length.toNat ≠ .invalid) :
    ∃ s', route.move d s = (.ok (.ok ()), s')
      ∧ (s.machine.store (s.machine.window.locate d.destination d.length.toNat)
        (s.machine.fetch (s.machine.window.locate d.source d.length.toNat)
          d.length.toNat)).SameMemory s'.machine
      ∧ s'.delivered = s.delivered := by
  have flushed := prompt_flushed prompt d.source d.length.toNat
  have flush : s.machine.SameMemory (s.machine.flushed d.source d.length.toNat) :=
    ⟨rfl, rfl, rfl⟩
  obtain ⟨m₁, launched, o, status, same⟩ := flushed.launch_immediate (t := d.transfer) next short
    source destination
  have began : d.begin s.machine = (.ok (), m₁) :=
    (Descriptor.begin_apply walks.1 s.machine).trans launched
  obtain ⟨prompt', fixed⟩ := Descriptor.begin_prompt prompt began walks.1 short
  have mask : m₁.channel.errorMask = s.machine.channel.errorMask :=
    (congrArg (fun m => m.channel.errorMask) fixed :)
  have clean : Status.shows m₁.status m₁.channel.errorMask = false := by
    rw [mask, status]
    unfold Status.shows
    rw [UInt32.and_comm]
    exact bne_eq_false_iff_eq.mpr prompt.errors
  have calm' : m₁.pending = [] := same.pending.trans ((Machine.pending_store _ _ _).trans calm)
  obtain ⟨m₂, finished, same'⟩ := Descriptor.finish_over prompt' calm' o clean walks.2
  rw [move_apply began, finished]
  exact ⟨_, rfl, (flush.store _ _).trans (same.trans same'), rfl⟩

/-- The disk's side of a piece is found in the window. -/
theorem locate_place {w : Window} (safe : p.Safe route.bounce) (start : w.base.toNat ≤ p.remote)
    (stop : p.remote + p.size ≤ w.base.toNat + w.size) :
    w.locate (p.descriptor route.bounce).remote p.size = .remote (p.remote - w.base.toNat) := by
  rw [← safe.address] at start stop ⊢
  exact Window.locate_remote safe.pos start stop

/-- The two ends of a piece are found in the window and in the bounce buffer. -/
theorem locate_piece {w : Window} (safe : p.Safe route.bounce)
    (reach : p.Reachable route.bounce w) :
    w.locate route.bounce.base p.size = .nearby route.bounce.base.toNat
      ∧ w.locate (p.descriptor route.bounce).remote p.size
        = .remote (p.remote - w.base.toNat) :=
  ⟨Window.locate_nearby reach.nonzero reach.apart, locate_place safe reach.start reach.stop⟩

/-- **A piece that the engine copies at once is carried over.** -/
theorem movePiece_immediate (prompt : s.machine.Prompt) (calm : s.machine.pending = [])
    (next : s.machine.behaviorAt 0 = some .immediate) (safe : p.Safe route.bounce)
    (reach : p.Reachable route.bounce s.machine.window) :
    ∃ s', route.movePiece p s = (.ok (.ok ()), s') ∧ s'.machine.pending = []
      ∧ s'.store = p.carry route.bounce s.machine.window.base s.store := by
  have length := safe.length
  have walks := safe.walks
  have short := safe.short
  obtain ⟨nearby, remote⟩ := locate_piece safe reach
  rw [← length] at walks short nearby remote
  rcases p with ⟨r, o, ⟨i, size⟩ | data⟩
  · have source :
        s.machine.window.locate (Piece.descriptor route.bounce ⟨r, o, .sink i size⟩).source
          (Piece.descriptor route.bounce ⟨r, o, .sink i size⟩).length.toNat
        = .remote (r - s.machine.window.base.toNat) := remote
    have destination :
        s.machine.window.locate (Piece.descriptor route.bounce ⟨r, o, .sink i size⟩).destination
          (Piece.descriptor route.bounce ⟨r, o, .sink i size⟩).length.toNat
        = .nearby route.bounce.base.toNat := nearby
    obtain ⟨s₁, moved, same, delivered⟩ := move_immediate prompt calm next walks short
      (by rw [source]; exact Target.noConfusion) (by rw [destination]; exact Target.noConfusion)
    rw [source, destination, length] at same
    refine ⟨_, movePiece_sink safe.held moved, same.pending.trans calm, ?_⟩
    have window : s₁.machine.window = s.machine.window := same.window
    have memory : s₁.machine.memory = s.machine.memory.write route.bounce.base.toNat
        (s.machine.window.memory.read (r - s.machine.window.base.toNat) size) := same.memory
    -- what is taken out of the bounce buffer is what the engine has just put there
    have back := s.machine.memory.read_write route.bounce.base.toNat
      (s.machine.window.memory.read (r - s.machine.window.base.toNat) size)
    rw [Memory.size_read] at back
    unfold Service.store Piece.carry
    dsimp only
    rw [window, memory, delivered, back]
  · rw [movePiece_source safe.held]
    have source :
        s.machine.window.locate (Piece.descriptor route.bounce ⟨r, o, .source data⟩).source
          (Piece.descriptor route.bounce ⟨r, o, .source data⟩).length.toNat
        = .nearby route.bounce.base.toNat := nearby
    have destination :
        s.machine.window.locate (Piece.descriptor route.bounce ⟨r, o, .source data⟩).destination
          (Piece.descriptor route.bounce ⟨r, o, .source data⟩).length.toNat
        = .remote (r - s.machine.window.base.toNat) := remote
    obtain ⟨s₁, moved, same, delivered⟩ := move_immediate (s := { s with
        phase := .staging
        machine := { s.machine with
          memory := s.machine.memory.write route.bounce.base.toNat data } })
      (prompt.congr rfl rfl rfl rfl) calm next walks short
      (by rw [source]; exact Target.noConfusion) (by rw [destination]; exact Target.noConfusion)
    dsimp only at same
    rw [source, destination, length] at same
    -- the engine fetches what was staged, and not what the buffer held before
    have fetched : Machine.fetch (.nearby route.bounce.base.toNat)
        (Piece.size ⟨r, o, .source data⟩)
        { s.machine with memory := s.machine.memory.write route.bounce.base.toNat data } = data :=
      s.machine.memory.read_write route.bounce.base.toNat data
    rw [fetched] at same
    have window : s₁.machine.window = { s.machine.window with
        memory := s.machine.window.memory.write (r - s.machine.window.base.toNat) data } :=
      same.window
    have memory : s₁.machine.memory = s.machine.memory.write route.bounce.base.toNat data :=
      same.memory
    refine ⟨s₁, moved, same.pending.trans calm, ?_⟩
    unfold Service.store Piece.carry
    rw [window, memory, delivered]

/-- **A piece whose transfer the engine fails is given up.** -/
theorem movePiece_fails {b : Behavior} {cause : TransferError} (prompt : s.machine.Prompt)
    (calm : s.machine.pending = []) (next : s.machine.behaviorAt 0 = some b)
    (fails : b.failure? s.machine.channel.doneMask s.machine.channel.errorMask = some cause)
    (expires : s.machine.clock.Expires s.machine.channel.mode route.timeoutMs)
    (safe : p.Safe route.bounce) :
    ∃ s', route.movePiece p s = (.ok (.error cause), s')
      ∧ s'.store = p.abandon route.bounce s.store := by
  have source := safe.walks.1
  have short := safe.short
  rw [← safe.length] at source short
  rcases p with ⟨r, o, ⟨i, size⟩ | data⟩
  · obtain ⟨s', failed, same, delivered⟩ := move_fails prompt calm next fails source expires short
    refine ⟨s', Attempt.bind_failed failed, ?_⟩
    unfold Service.store Piece.abandon
    rw [same.window, same.memory, delivered]
  · rw [movePiece_source safe.held]
    obtain ⟨s', failed, same, delivered⟩ := move_fails (s := { s with
        phase := .staging
        machine := { s.machine with
          memory := s.machine.memory.write route.bounce.base.toNat data } })
      (prompt.congr rfl rfl rfl rfl) calm next fails source expires short
    refine ⟨s', failed, ?_⟩
    unfold Service.store Piece.abandon
    rw [same.window, same.memory, delivered]

end Route

/-! ## A list of pieces -/

/-- **Pieces carried over one after another.** -/
def Store.carryAll (bounce : Buffer) (base : UInt64) (ps : List Piece) (s : Store) : Store :=
  ps.foldl (fun s p => p.carry bounce base s) s

/-- **Pieces that were carried over**, seen from before and after. -/
structure Carried (bounce : Buffer) (ps : List Piece) (s s' : Service) : Prop where
  /-- Each of the pieces is in the log, its ranges are flushed, and it is counted. -/
  bare : s'.machine.bare = s.machine.bare.movedAll bounce ps
  /-- Nothing is put off. -/
  pending : s'.machine.pending = []
  /-- The bytes are where they belong. -/
  store : s'.store = s.store.carryAll bounce s.machine.window.base ps

namespace Machine

variable {m : Machine} {bounce : Buffer} {ps : List Piece}

theorem behaviorAt_movedAll (i : Nat) :
    (m.movedAll bounce ps).behaviorAt i = m.behaviorAt (ps.length + i) := by
  induction ps generalizing m with
  | nil => rw [List.length_nil, Nat.zero_add, movedAll, List.foldl_nil]
  | cons p ps ih =>
    rw [List.length_cons, Nat.succ_add, ← behaviorAt_issued _ m (p.descriptor bounce)]
    exact ih

theorem Prompt.movedAll (prompt : m.Prompt) : (m.movedAll bounce ps).Prompt := by
  induction ps generalizing m with
  | nil => exact prompt
  | cons p ps ih => exact ih (prompt.moved _)

end Machine

namespace Carried

variable {bounce : Buffer} {ps : List Piece} {p : Piece} {s s' s'' : Service}

theorem prompt (c : Carried bounce ps s s') (prompt : s.machine.Prompt) : s'.machine.Prompt := by
  refine .of_bare ?_
  rw [c.bare]
  exact prompt.bare.movedAll

/-- The engine has used up a behaviour for each piece. -/
theorem behaviorAt (c : Carried bounce ps s s') (i : Nat) :
    s'.machine.behaviorAt i = s.machine.behaviorAt (ps.length + i) := by
  rw [← Machine.behaviorAt_bare, c.bare, Machine.behaviorAt_movedAll, Machine.behaviorAt_bare]

/-- What was carried over changes nothing that decides the next transfer. -/
theorem fixed (c : Carried bounce ps s s') : s'.machine.bare.fixed = s.machine.bare.fixed := by
  rw [c.bare, Machine.fixed_movedAll]

/-- The window stays where it is. -/
theorem window (c : Carried bounce ps s s') :
    s'.machine.window.base = s.machine.window.base
      ∧ s'.machine.window.size = s.machine.window.size :=
  ⟨(congrArg (fun m => m.window.base) c.fixed :), (congrArg (fun m => m.window.size) c.fixed :)⟩

theorem reachable (c : Carried bounce ps s s') (reach : p.Reachable bounce s.machine.window) :
    p.Reachable bounce s'.machine.window := by
  obtain ⟨base, size⟩ := c.window
  refine ⟨?_, ?_, reach.nonzero, ?_⟩
  · rw [base]
    exact reach.start
  · rw [base, size]
    exact reach.stop
  · rw [base, size]
    exact reach.apart

theorem nil (calm : s.machine.pending = []) : Carried bounce [] s s := ⟨rfl, calm, rfl⟩

theorem cons (c : Carried bounce [p] s s') (c' : Carried bounce ps s' s'') :
    Carried bounce (p :: ps) s s'' where
  bare := by
    rw [c'.bare, c.bare]
    rfl
  pending := c'.pending
  store := by
    rw [c'.store, c.store, c.window.1]
    rfl

end Carried

namespace Route

variable {route : Route} {ps : List Piece} {p : Piece} {s : Service}

/-- A piece that the engine copies at once is carried over. -/
theorem movePiece_carried (prompt : s.machine.Prompt) (calm : s.machine.pending = [])
    (next : s.machine.behaviorAt 0 = some .immediate) (safe : p.Safe route.bounce)
    (reach : p.Reachable route.bounce s.machine.window) :
    ∃ s', route.movePiece p s = (.ok (.ok ()), s') ∧ Carried route.bounce [p] s s' := by
  obtain ⟨s', moved, pending, store⟩ := movePiece_immediate prompt calm next safe reach
  exact ⟨s', moved, bare_of_moved safe prompt.hasEngine moved, pending, store⟩

/-- **Pieces that the engine copies at once are carried over**, one after
another. -/
theorem moveAll_carried (prompt : s.machine.Prompt) (calm : s.machine.pending = [])
    (immediate : ∀ i < ps.length, s.machine.behaviorAt i = some .immediate)
    (safe : ∀ p ∈ ps, p.Safe route.bounce)
    (reach : ∀ p ∈ ps, p.Reachable route.bounce s.machine.window) :
    ∃ s', route.moveAll ps s = (.ok (.ok ()), s') ∧ Carried route.bounce ps s s' := by
  induction ps generalizing s with
  | nil => exact ⟨s, rfl, .nil calm⟩
  | cons p ps ih =>
    obtain ⟨s₁, moved, first⟩ := movePiece_carried prompt calm (immediate 0 (Nat.zero_lt_succ _))
      (safe p List.mem_cons_self) (reach p List.mem_cons_self)
    have immediate' : ∀ i < ps.length, s₁.machine.behaviorAt i = some .immediate := by
      intro i hi
      rw [first.behaviorAt, List.length_singleton, Nat.add_comm]
      exact immediate (i + 1) (Nat.succ_lt_succ hi)
    obtain ⟨s₂, others, rest⟩ := ih (first.prompt prompt) first.pending immediate'
      (fun q hq => safe q (List.mem_cons_of_mem p hq))
      (fun q hq => first.reachable (reach q (List.mem_cons_of_mem p hq)))
    exact ⟨s₂, (Attempt.bind_ok moved).trans others, first.cons rest⟩

/-- **The first piece that fails ends it.** The pieces before it are carried
over, it is given up, and those behind it are not started. -/
theorem moveAll_fails (qs : List Piece) (p : Piece) (rest : List Piece) {b : Behavior}
    {cause : TransferError} (prompt : s.machine.Prompt) (calm : s.machine.pending = [])
    (immediate : ∀ i < qs.length, s.machine.behaviorAt i = some .immediate)
    (next : s.machine.behaviorAt qs.length = some b)
    (fails : b.failure? s.machine.channel.doneMask s.machine.channel.errorMask = some cause)
    (expires : s.machine.clock.Expires s.machine.channel.mode route.timeoutMs)
    (safe : ∀ q ∈ qs ++ p :: rest, q.Safe route.bounce)
    (reach : ∀ p ∈ qs, p.Reachable route.bounce s.machine.window) :
    ∃ s', route.moveAll (qs ++ p :: rest) s = (.ok (.error cause), s')
      ∧ s'.machine.bare
        = (s.machine.bare.movedAll route.bounce qs).failed (p.descriptor route.bounce) cause
      ∧ s'.store
        = p.abandon route.bounce (s.store.carryAll route.bounce s.machine.window.base qs) := by
  obtain ⟨s₁, moved, carried⟩ := moveAll_carried prompt calm immediate
    (fun q hq => safe q (List.mem_append_left _ hq)) reach
  have safe' : p.Safe route.bounce := safe p (List.mem_append_right _ List.mem_cons_self)
  have prompt' := carried.prompt prompt
  have next' : s₁.machine.behaviorAt 0 = some b := (carried.behaviorAt 0).trans next
  -- the pieces in front have changed nothing that decides this one
  have fixed := carried.fixed
  have done : s₁.machine.channel.doneMask = s.machine.channel.doneMask :=
    (congrArg (fun m => m.channel.doneMask) fixed :)
  have error : s₁.machine.channel.errorMask = s.machine.channel.errorMask :=
    (congrArg (fun m => m.channel.errorMask) fixed :)
  have fails' : b.failure? s₁.machine.channel.doneMask s₁.machine.channel.errorMask
      = some cause := by
    rw [done, error]
    exact fails
  have expires' := Machine.expires_of_fixed fixed expires
  obtain ⟨s₂, failed, store⟩ := movePiece_fails prompt' carried.pending next' fails' expires' safe'
  refine ⟨s₂, ?_, ?_, ?_⟩
  · rw [moveAll_append]
    exact (Attempt.bind_ok moved).trans (Attempt.bind_failed failed)
  · rw [bare_of_failed safe' prompt'.hasEngine failed, carried.bare]
  · rw [store, carried.store]

end Route

end RemoteDisk
