import RemoteDisk.Proofs.Deliveries
import RemoteDisk.Proofs.Hollow

/-!
# What a reader learns of others

All requests of a disk go through one bounce buffer, and nobody empties it. What
a reader is given is nevertheless no more than the bytes it has asked for,
whatever was staged, copied or left behind before: after any two histories that
leave the same bytes at its place on the disk, a read comes to the same result,
takes the same course and delivers the same bytes (`Device.submit_alike`).

That is so as long as the bounce buffer is outside the window and no start of the
read is overlooked. An engine that shows a done bit without copying anything and
whose error bits nobody looks for makes the read deliver what happens to be in
the bounce buffer, and so does one that takes the bounce buffer for remote memory
(`Device.hollow_read_of_staged`).
-/

namespace RemoteDisk

open Op

/-- **A buffer that does not start inside the window**, so that the engine takes
it for local memory. -/
def Window.Misses (w : Window) (b : Buffer) : Prop :=
  b.base.toNat < w.base.toNat ∨ w.base.toNat + w.size ≤ b.base.toNat

/-- **Where the bytes of a delivery go**: the number of the buffer, the first
place in it, and how many places there are. -/
def Delivery.range (d : Delivery) : Nat × Nat × Nat := (d.buffer, d.offset, d.data.size)

/-- A flush that steps out of the address space notes its range all the same. -/
theorem Act.flush_overflow {address : UInt64} {len : Nat}
    (h : CacheLine.overruns address len = true) (m : Machine) :
    flush address len m = (.error .overflow, m.flushed address len) := by
  unfold flush
  rw [bind_ok (modify_apply _ m), h]
  rfl

/-- A chunk that is not even started. -/
theorem Route.move_of_fault {route : Route} {d : Descriptor} {s : Service} {m : Machine}
    {fault : Fault} (began : d.begin s.machine = (.error fault, m)) :
    route.move d s = (.error fault, ⟨m, .transferring, s.delivered⟩) := by
  have first : Serve.ofAct d.begin ⟨s.machine, .transferring, s.delivered⟩
      = (.error fault, ⟨m, .transferring, s.delivered⟩) := by
    rw [Serve.ofAct_apply, began]
  exact (bind_ok (a := Serve.enter .transferring) rfl).trans (bind_error first)

open Machine

/-- **Two requests at the same point** on peers. They have filled the same
places, and with the same bytes unless a start was overlooked. -/
structure Service.Peers (c : Config) (bounce : Buffer) (m₀ : Machine) (places : Set Nat)
    (s s' : Service) : Prop where
  machine : m₀.Peers places s.machine s'.machine
  phase : s'.phase = s.phase
  ranges : s'.delivered.map Delivery.range = s.delivered.map Delivery.range
  delivered : m₀.window.Misses bounce → m₀.Candid c s.machine → s'.delivered = s.delivered

namespace Service.Peers

variable {c : Config} {bounce : Buffer} {m₀ : Machine} {places : Set Nat} {s s' : Service}
  {route : Route} {d : Descriptor}

/-- **A wait for a chunk ends alike** on both sides, and the counters and the
journal tell so. -/
theorem finish {m m' : Machine} (h : m₀.Peers places m m') (calm : m.events = [])
    (settled : m.Settled) (settled' : m'.Settled) (status : m'.status = m.status) (ms : UInt64) :
    ∃ r m₁ m₁', d.finish ms m = (r, m₁) ∧ d.finish ms m' = (r, m₁')
      ∧ m₀.Peers places m₁ m₁' ∧ m₁.transfers = m.transfers ∧ m₁.memory = m.memory
      ∧ m₁'.memory = m'.memory ∧ (r = .ok (.ok ()) → m.verdict = .ok ()) := by
  obtain ⟨r, m₁, m₁', waited, waited', peers, bare, memory, memory', well⟩ :=
    h.wait calm settled settled' status ms
  have log : m₁.transfers = m.transfers := by rw [← transfers_bare, bare, transfers_bare]
  rcases r with fault | cause | _
  · exact ⟨_, m₁, m₁', bind_error waited, bind_error waited', peers, log, memory, memory',
      fun h => nomatch h⟩
  · obtain ⟨journal, failed⟩ := Descriptor.finish_of_error (d := d) waited
    obtain ⟨journal', failed'⟩ := Descriptor.finish_of_error (d := d) waited'
    exact ⟨_, _, _, failed, failed', peers.recorded _ _ _ _ _ _, log, memory, memory',
      fun h => nomatch h⟩
  · cases walks : CacheLine.overruns d.destination d.length.toNat
    · exact ⟨_, _, _, Descriptor.finish_of_ok waited walks, Descriptor.finish_of_ok waited' walks,
        peers.recorded _ _ _ _ _ _, log, memory, memory', fun _ => well rfl⟩
    · have overflow {m m₁ : Machine} (waited : Act.wait ms m = (.ok (.ok ()), m₁)) :
          d.finish ms m = (.error .overflow, m₁.flushed d.destination d.length.toNat) := by
        unfold Descriptor.finish
        rw [bind_ok waited]
        exact bind_error (bind_error (Act.flush_overflow walks m₁))
      exact ⟨_, _, _, overflow waited, overflow waited', peers.recorded _ _ _ _ _ _, log, memory,
        memory', fun h => nomatch h⟩

/-- The bounce buffer is found in local memory. -/
theorem locate_bounce (h : Service.Peers c bounce m₀ places s s')
    (misses : m₀.window.Misses bounce) (nonzero : bounce.base ≠ 0) (len : Nat) :
    s.machine.window.locate bounce.base len = .nearby bounce.base.toNat := by
  obtain ⟨base, size⟩ := window_of_outline h.machine.outline
  refine Window.locate_nearby nonzero ?_
  rw [base, size]
  exact misses

/-- **A chunk is read alike** from places at which remote memory holds the same:
the transfer ends alike, and if it ends well and its start was not overlooked, the
bounce buffer holds the same bytes. -/
theorem move (h : Service.Peers c bounce m₀ places s s') (carrying : m₀.Carrying c)
    (direction : d.direction = .read) (nearby : d.nearby = bounce.base)
    (nonzero : bounce.base ≠ 0) (short : d.length.toNat ≤ Engine.longestBuffer) {place : Nat}
    (source : s.machine.window.locate d.remote d.length.toNat = .remote place)
    (inside : ∀ i < d.length.toNat, place + i ∈ places) :
    ∃ r t t', route.move d s = (r, t) ∧ route.move d s' = (r, t')
      ∧ Service.Peers c bounce m₀ places t t'
      ∧ (r = .ok (.ok ()) → m₀.window.Misses bounce → m₀.Candid c t.machine →
        t'.machine.memory.read bounce.base.toNat d.length.toNat
          = t.machine.memory.read bounce.base.toNat d.length.toNat) := by
  have flushed := h.machine.recorded (s.machine.flushes.push ⟨d.source, d.length.toNat⟩)
    (s'.machine.flushes.push ⟨d.source, d.length.toNat⟩) s.machine.counters s'.machine.counters
    s.machine.journal s'.machine.journal
  cases walks : CacheLine.overruns d.source d.length.toNat with
  | true =>
    have began (m : Machine) : d.begin m = (.error .overflow, m.flushed d.source d.length.toNat) :=
      bind_error (Act.flush_overflow walks m)
    exact ⟨_, _, _, Route.move_of_fault (began _), Route.move_of_fault (began _),
      ⟨flushed, rfl, h.ranges, h.delivered⟩, fun h => nomatch h⟩
  | false =>
    have from_remote : d.transfer.source = d.remote := by
      unfold Descriptor.transfer Descriptor.source
      rw [direction]
    have to_nearby : d.transfer.destination = bounce.base := by
      unfold Descriptor.transfer Descriptor.destination
      rw [direction, ← nearby]
    obtain ⟨e, m₁, m₁', engine, launched, launched', left, settled', status, peers, bytes⟩ :=
      flushed.launch (t := d.transfer) short (by rw [from_remote]; exact source) inside
    have began : d.begin s.machine = (.ok (), m₁) := (d.begin_apply walks _).trans launched
    have began' : d.begin s'.machine = (.ok (), m₁') := (d.begin_apply walks _).trans launched'
    have carrying₁ := carrying.congr peers.outline
    obtain ⟨r, m₂, m₂', ended, ended', peers₂, log, memory, memory', well⟩ :=
      finish (d := d) peers carrying₁.events left.settled settled' status route.timeoutMs
    obtain ⟨-, size⟩ := flushed.toOnward.noted left.tended left.bare
    refine ⟨r, ⟨m₂, .waiting, s.delivered⟩, ⟨m₂', .waiting, s'.delivered⟩, ?_, ?_, ?_, ?_⟩
    · rw [Route.move_apply began, ended]
    · rw [Route.move_apply began', ended']
    · refine ⟨peers₂, rfl, h.ranges, fun misses candid => h.delivered misses ?_⟩
      exact (Candid.started flushed.toOnward size (candid.of_transfers log)).1
    · intro ok misses candid
      have copied := left.immediate_of_candid flushed.toOnward engine carrying (well ok)
        (candid.of_transfers log)
      show m₂'.memory.read _ _ = m₂.memory.read _ _
      rw [memory, memory']
      exact bytes copied _ (by rw [to_nearby]; exact h.locate_bounce misses nonzero _)

end Service.Peers

/-- **A piece that lies in the window**, at some of its places, and is no longer
than a buffer. -/
structure Piece.Within (w : Window) (places : Set Nat) (p : Piece) : Prop where
  pos : 0 < p.size
  short : p.size ≤ Engine.longestBuffer
  start : w.base.toNat ≤ p.remote
  stop : p.remote + p.size ≤ w.base.toNat + w.size
  places : p.LiesIn w.base places

namespace Route

variable {route : Route} {c : Config} {m₀ : Machine} {places : Set Nat}

/-- **Bytes taken from the bounce buffer** are as many on both sides, and the same
where it holds the same. -/
theorem unstage_together {s s' : Service} (h : Service.Peers c route.bounce m₀ places s s')
    (buffer offset len : Nat) (same : m₀.window.Misses route.bounce → m₀.Candid c s.machine →
      s'.machine.memory.read route.bounce.base.toNat len
        = s.machine.memory.read route.bounce.base.toNat len) :
    Agree (fun _ => False) (Service.Peers c route.bounce m₀ places)
      (Service.Peers c route.bounce m₀ places)
      ((do let data ← Attempt.ofAct (route.bounce.unstage len)
           Attempt.ofServe (Serve.deliver ⟨buffer, offset, data⟩) : Attempt Unit) s)
      ((do let data ← Attempt.ofAct (route.bounce.unstage len)
           Attempt.ofServe (Serve.deliver ⟨buffer, offset, data⟩) : Attempt Unit) s') := by
  by_cases held : len ≤ route.bounce.size
  · rw [Attempt.bind_ok (Buffer.unstage_apply held s),
      Attempt.bind_ok (Buffer.unstage_apply held s')]
    refine .ended (Except.ok ()) ⟨h.machine, h.phase, ?_, fun misses candid => ?_⟩
    · show (s'.delivered ++ _).map Delivery.range = (s.delivered ++ _).map Delivery.range
      rw [List.map_append, List.map_append, h.ranges, List.map_singleton, List.map_singleton,
        Delivery.range, Delivery.range, Memory.size_read, Memory.size_read]
    · show s'.delivered ++ _ = s.delivered ++ _
      rw [h.delivered misses candid, same misses candid]
  · have beyond (s : Service) :
        Attempt.ofAct (route.bounce.unstage len) s = (.error .outOfBounds, s) := by
      unfold Buffer.unstage
      rw [if_neg held]
      rfl
    rw [Attempt.bind_fault (beyond s), Attempt.bind_fault (beyond s')]
    exact .faulted .outOfBounds h

variable (carrying : m₀.Carrying c) (nonzero : route.bounce.base ≠ 0)
include carrying nonzero

/-- **A chunk is served alike** to readers on peers. -/
theorem serveChunk_together {buffer size : Nat} {start : UInt64} {chunk : Chunk}
    (within : Piece.Within m₀.window places
      ⟨start.toNat + chunk.offset, chunk.offset, .sink buffer chunk.len⟩) :
    Attempt.Together (fun _ => False) (Service.Peers c route.bounce m₀ places)
      (route.serveChunk (.sink buffer size) start chunk)
      (route.serveChunk (.sink buffer size) start chunk) := by
  intro s s' h
  have pos : 0 < chunk.len := within.pos
  have short : chunk.len ≤ Engine.longestBuffer := within.short
  have length : (UInt64.ofNat chunk.len).toNat = chunk.len :=
    UInt64.toNat_ofNat_of_lt' (Nat.lt_of_le_of_lt short (by decide))
  unfold serveChunk
  dsimp only
  by_cases fits : start.toNat + chunk.offset < Geometry.wordLimit
  · have remote : (UInt64.ofNat (start.toNat + chunk.offset)).toNat = start.toNat + chunk.offset :=
      UInt64.toNat_ofNat_of_lt' fits
    have source : s.machine.window.locate (UInt64.ofNat (start.toNat + chunk.offset)) chunk.len
        = .remote (start.toNat + chunk.offset - m₀.window.base.toNat) := by
      obtain ⟨base, size⟩ := window_of_outline h.machine.outline
      rw [Window.locate_remote pos (by rw [base, remote]; exact within.start)
        (by rw [base, size, remote]; exact within.stop), base, remote]
    obtain ⟨r, t, t', moved, moved', peers, bytes⟩ := h.move (d := ⟨.read, route.bounce.base,
        UInt64.ofNat (start.toNat + chunk.offset), UInt64.ofNat chunk.len⟩) carrying rfl rfl nonzero
      (by rw [length]; exact short) (by rw [length]; exact source)
      (by rw [length]; exact within.places)
    rw [ofAct_descriptor fits, pure_bind]
    rcases r with fault | cause | _
    · rw [Attempt.bind_fault moved, Attempt.bind_fault moved']
      exact .faulted fault peers
    · rw [Attempt.bind_failed moved, Attempt.bind_failed moved']
      exact .ended (Except.error cause) peers
    · rw [Attempt.bind_ok moved, Attempt.bind_ok moved']
      cases taken : chunk.stopWithin size with
      | error fault => exact .faulted fault peers
      | ok stop =>
        obtain ⟨rfl, -, -⟩ := Chunk.stopWithin_eq_ok.mp taken
        rw [length] at bytes
        have together := unstage_together peers buffer chunk.offset chunk.len (bytes rfl)
        rwa [← Nat.add_sub_cancel_left chunk.offset chunk.len] at together
  · have overflow (s : Service) : Attempt.ofAct (route.descriptor .read start chunk) s = _ :=
      ofAct_descriptor_overflow (Nat.not_lt.mp fits) .read s
    rw [Attempt.bind_fault (overflow s), Attempt.bind_fault (overflow s')]
    exact .faulted .overflow h

/-- Chunks are served alike. -/
theorem serveChunks_together {buffer size : Nat} {start : UInt64} {chunks : List Chunk}
    (within : ∀ chunk ∈ chunks, Piece.Within m₀.window places
      ⟨start.toNat + chunk.offset, chunk.offset, .sink buffer chunk.len⟩) :
    Attempt.Together (fun _ => False) (Service.Peers c route.bounce m₀ places)
      (route.serveChunks (.sink buffer size) start chunks)
      (route.serveChunks (.sink buffer size) start chunks) := by
  induction chunks with
  | nil => exact Attempt.together_pure ()
  | cons chunk rest ih =>
    exact Attempt.together_bind
      (serveChunk_together carrying nonzero (within chunk List.mem_cons_self))
      fun _ => ih fun chunk' h => within chunk' (List.mem_cons_of_mem _ h)

omit carrying nonzero in
/-- What follows a number that may not fit its word. -/
theorem word_together {n : Nat} {f : UInt64 → Attempt Unit}
    (onward : ∀ v : UInt64, v.toNat = n →
      Attempt.Together (fun _ => False) (Service.Peers c route.bounce m₀ places) (f v) (f v)) :
    Attempt.Together (fun _ => False) (Service.Peers c route.bounce m₀ places)
      (Attempt.ofAct (Act.word n) >>= f) (Attempt.ofAct (Act.word n) >>= f) := by
  by_cases fits : n < Geometry.wordLimit
  · rw [Attempt.ofAct_word fits, pure_bind]
    exact onward _ (UInt64.toNat_ofNat_of_lt' fits)
  · intro s s' h
    have overflow := Attempt.ofAct_word_overflow (Nat.not_lt.mp fits)
    rw [Attempt.bind_fault (overflow s), Attempt.bind_fault (overflow s')]
    exact .faulted .overflow h

/-- **The segments of a read are served alike.** -/
theorem serveSegments_together {cursor : Nat} {segments : List Segment}
    (sinks : ∀ s ∈ segments, s.direction = .read)
    (within : ∀ p ∈ route.pieces cursor segments, p.Within m₀.window places) :
    Attempt.Together (fun _ => False) (Service.Peers c route.bounce m₀ places)
      (route.serveSegments cursor segments) (route.serveSegments cursor segments) := by
  induction segments generalizing cursor with
  | nil => exact Attempt.together_pure ()
  | cons segment rest ih =>
    rw [pieces] at within
    have here := fun p hp => within p (List.mem_append_left _ hp)
    have later := fun p hp => within p (List.mem_append_right _ hp)
    refine Attempt.together_bind ?_ fun _ => word_together fun next value => ?_
    · refine word_together fun start place => ?_
      cases segment with
      | source data => cases sinks _ List.mem_cons_self
      | sink buffer size =>
        refine serveChunks_together carrying nonzero fun chunk hc => ?_
        rw [place]
        exact here _ (List.mem_map.mpr ⟨chunk, hc, rfl⟩)
    · rw [value]
      exact ih (fun s hs => sinks s (List.mem_cons_of_mem _ hs)) later

/-- **A read is served alike** on peers. -/
theorem serve_abreast {r : Request} (sinks : ∀ s ∈ r.segments.toList, s.direction = .read)
    (within : ∀ p ∈ r.pieces route, p.Within m₀.window places) :
    Abreast (fun _ => False) (Service.Peers c route.bounce m₀ places)
      (Service.Peers c route.bounce m₀ places) (route.serve r) (route.serve r)
      (Service.Peers c route.bounce m₀ places) := by
  have enter (phase : Phase) : Abreast (fun _ => False) (Service.Peers c route.bounce m₀ places)
      (Service.Peers c route.bounce m₀ places) (Serve.enter phase) (Serve.enter phase)
      (Service.Peers c route.bounce m₀ places) :=
    abreast_modify fun _ _ h => ⟨h.machine, rfl, h.ranges, h.delivered⟩
  have announced : Abreast (fun _ => False) (Service.Peers c route.bounce m₀ places)
      (Service.Peers c route.bounce m₀ places)
      (Serve.ofAct (Act.report .trace ("[OMNI] request " ++ r.text)))
      (Serve.ofAct (Act.report .trace ("[OMNI] request " ++ r.text)))
      (Service.Peers c route.bounce m₀ places) :=
    fun _ _ h => .ended () ⟨h.machine.recorded _ _ _ _ _ _, h.phase, h.ranges, h.delivered⟩
  refine abreast_bind announced fun _ => ?_
  refine abreast_bind (serveSegments_together carrying nonzero sinks within) fun result => ?_
  cases result <;> exact abreast_bind (enter _) fun _ => abreast_pure _ fun _ _ h => h

end Route

/-! ## Histories -/

namespace Engine

/-- An engine does what is laid out for it, or goes on as before. -/
theorem behaviorAt_mem (n : Nat) (e : Engine) : e.behaviorAt n ∈ e.behavior :: e.upcoming := by
  induction n generalizing e with
  | zero =>
    rcases e with ⟨_, _, _, _ | _⟩
    · exact List.mem_cons_self
    · exact List.mem_cons_of_mem _ List.mem_cons_self
  | succ n ih =>
    rcases e with ⟨_, _, _, _ | _⟩
    · exact ih _
    · exact List.mem_cons_of_mem _ (ih _)

/-- An engine does nothing but what is laid out for it, where something is. -/
theorem behaviorAt_mem_upcoming {e : Engine} (laid : e.upcoming ≠ []) (n : Nat) :
    e.behaviorAt n ∈ e.upcoming := by
  rcases e with ⟨_, _, _, _ | ⟨first, later⟩⟩
  · exact absurd rfl laid
  · cases n with
    | zero => exact List.mem_cons_self
    | succ n => exact behaviorAt_mem n _

end Engine

/-- Memories of which a range is read alike agree on it. -/
theorem Memory.AgreeOn.of_read {m n : Memory} {start count : Nat}
    (h : n.read start count = m.read start count) :
    m.AgreeOn (Set.Ico start (start + count)) n := by
  rintro a ⟨above, below⟩
  have there (m : Memory) (h : a - start < (m.read start count).size) :
      (m.read start count)[a - start] = m.byte a := by
    rw [Memory.getElem_read, Nat.add_sub_cancel' above]
  have inside (m : Memory) : a - start < (m.read start count).size := by
    rw [Memory.size_read]
    omega
  rw [← there n (inside n), ← there m (inside m)]
  simp only [h]

namespace Machine

variable {m m' : Machine} {now : List Behavior}

/-- Behaviours that are laid out are no matter of the outline. -/
theorem outline_layOut (bs : List Behavior) (m : Machine) : (m.layOut bs).outline = m.outline := by
  rcases m with ⟨_ | _⟩ <;> rfl

theorem Tended.layOut (h : m.Tended) (synchronous : ∀ b ∈ now, b.isSynchronous = true) :
    (m.layOut now).Tended :=
  h.mapEngine fun _ s => ⟨s.pending, s.behavior, synchronous⟩

/-- **Engines for which the same is laid out** are going to do the same. -/
theorem behaviorAt_layOut (laid : now ≠ []) (engine : m.HasEngine) (engine' : m'.HasEngine)
    (n : Nat) : (m'.layOut now).behaviorAt n = (m.layOut now).behaviorAt n := by
  obtain ⟨e, engine⟩ := engine
  obtain ⟨e', engine'⟩ := engine'
  obtain ⟨first, later, rfl⟩ := List.exists_cons_of_ne_nil laid
  unfold behaviorAt engine? layOut
  rw [controller_mapEngine engine, controller_mapEngine engine']
  refine congrArg some ?_
  cases n with
  | zero => rfl
  | succ n => exact Engine.behaviorAt_congr n rfl rfl

/-- **No start is overlooked** where none of the behaviours laid out is. -/
theorem candid_layOut {c : Config} (laid : now ≠ []) (seen : ∀ b ∈ now, c.overlooks b = false)
    (m' : Machine) : (m.layOut now).Candid c m' := by
  intro n _ b next
  rcases m with ⟨_ | e⟩
  · cases next
  · cases next
    exact seen _ (Engine.behaviorAt_mem_upcoming laid n)

end Machine

namespace Device

variable {d : Device} {m : Machine}

/-- **A history of calls that return** leaves a machine that is tended, where
nothing is going to happen by itself. -/
theorem after_tended {calls : List Call} (fixed : ∀ c ∈ calls, c.isRewiring = false)
    (ends : ∀ served ∈ d.replies calls m, served.result ≠ .error .endless)
    (tended : m.Tended) (calm : m.events = []) : (d.after calls m).Tended := by
  induction calls generalizing m with
  | nil => exact tended
  | cons c rest ih =>
    have twin : Twin Surroundings.Disturbed m m := by
      refine ⟨tended, rfl, rfl, rfl, calm, fun e he => ?_⟩
      rw [show m.surroundings.events = [] from calm] at he
      cases he
    obtain ⟨served, reply, fault, error, gone⟩ | ⟨-, left⟩ :=
      coupling_disturbed.call (d := d) (fixed c List.mem_cons_self) twin
    · refine absurd ?_ (ends served (List.mem_append_left _ (Option.mem_toList.mpr reply)))
      rw [error, show fault = .endless from gone]
    · exact ih (fun c' hc => fixed c' (List.mem_cons_of_mem _ hc))
        (fun served hs => ends served (List.mem_append_right _ hs)) left.tended left.around.calm

/-- A machine that a disk was brought up on. -/
theorem onBench_carrying {config : Config} {m₀ : Machine} (calm : m₀.events = [])
    (built : onBench config m₀ = (.ok (.ok d), m)) :
    m.Carrying config
      ∧ m.window = { base := config.remoteBase, size := config.sizeBytes.toNat } := by
  obtain ⟨-, -, -, arena, journal, rfl⟩ := onBench_inv built
  exact ⟨⟨⟨_, rfl, rfl⟩, rfl, rfl, calm⟩, rfl⟩

/-- Local memory is as it was before a disk was brought up. -/
theorem onBench_memory {config : Config} {m₀ : Machine}
    (built : onBench config m₀ = (.ok (.ok d), m)) : m.memory = m₀.memory := by
  obtain ⟨-, -, -, arena, journal, rfl⟩ := onBench_inv built
  rfl

/-- The pieces of an accepted request lie in the window, at its place on the
disk. -/
theorem within_of_inRange {r : Request} (sound : d.Sound) (accepted : d.inRange r = true)
    {w : Window} (base : w.base = d.config.remoteBase)
    (size : w.size = d.config.sizeBytes.toNat) :
    ∀ p ∈ r.pieces d.route, p.Within w (Set.Ico (r.sector.toNat * Geometry.sectorSize)
      (r.sector.toNat * Geometry.sectorSize + r.segments.totalBytes)) := by
  intro p hp
  have capacity : d.bounce.size = Geometry.bounceSize := sound.size
  have sized : 0 < d.route.bounce.size := by
    show 0 < d.bounce.size
    rw [capacity]
    decide
  obtain ⟨-, pos, held, start, stop⟩ := Route.mem_pieces sized hp
  have ends := address_add_totalBytes_le accepted
  have total : Segment.total r.segments.toList = r.segments.totalBytes := rfl
  rw [sound.sizeBytes] at ends
  have held : p.size ≤ Geometry.bounceSize := capacity ▸ held
  rw [total] at stop
  unfold Route.address at start stop ends
  have remote : d.route.remoteBase = w.base := base.symm
  rw [remote] at start stop ends
  rw [← base, ← size] at ends
  refine ⟨pos, Nat.le_trans held (by decide), by omega, by omega, fun i hi => ?_⟩
  constructor <;> omega

/-- **A read is answered alike** on machines that are peers at its place on the
disk. -/
theorem submit_alike {m' : Machine} {r : Request} (sound : d.Sound) (carrying : m.Carrying d.config)
    (base : m.window.base = d.config.remoteBase)
    (size : m.window.size = d.config.sizeBytes.toNat) (reads : r.operation = .read)
    (accepted : d.inRange r = true)
    (peers : m.Peers (Set.Ico (r.sector.toNat * Geometry.sectorSize)
      (r.sector.toNat * Geometry.sectorSize + r.segments.totalBytes)) m m') :
    let run := (d.submit r).runOn m
    let run' := (d.submit r).runOn m'
    run'.1.result = run.1.result ∧ run'.1.phase = run.1.phase
      ∧ run'.1.delivered.map Delivery.range = run.1.delivered.map Delivery.range
      ∧ (m.window.Misses d.bounce → m.Candid d.config run.2 →
        run'.1.delivered = run.1.delivered) := by
  have direction : r.operation.direction? = some .read := by
    rw [reads]
    rfl
  have moves : r.operation.direction? ≠ none := by
    rw [direction]
    exact Option.some_ne_none _
  have sinks : ∀ s ∈ r.segments.toList, s.direction = .read := by
    intro s hs
    have agrees := r.agrees s hs
    rw [direction] at agrees
    exact (Option.some.inj agrees).symm
  have total := totalBytes_lt sound accepted
  have nonzero : d.route.bounce.base ≠ 0 := by
    intro zero
    have above := sound.above
    rw [show d.bounce.base = 0 from zero] at above
    cases above
  have start : Service.Peers d.config d.route.bounce m _
      { machine := m, phase := .started } { machine := m', phase := .started } :=
    ⟨peers, rfl, rfl, fun _ _ => rfl⟩
  intro run run'
  obtain ⟨-, -, lost⟩ | ⟨result, ended⟩ := (Route.serve_abreast carrying nonzero sinks
    (within_of_inRange sound accepted base size) _ _ start).states
  · exact lost.elim
  have served := submit_accepted moves total accepted { machine := m }
  have served' := submit_accepted moves total accepted { machine := m' }
  refine ⟨?_, ?_, ?_, ?_⟩
  · show (d.submit r { machine := m' }).1 = (d.submit r { machine := m }).1
    rw [served, served', result]
  · show (d.submit r { machine := m' }).2.phase = (d.submit r { machine := m }).2.phase
    rw [served, served']
    exact ended.phase
  · show (d.submit r { machine := m' }).2.delivered.map Delivery.range
      = (d.submit r { machine := m }).2.delivered.map Delivery.range
    rw [served, served']
    exact ended.ranges
  · show _ → m.Candid d.config (d.submit r { machine := m }).2.machine →
      (d.submit r { machine := m' }).2.delivered = (d.submit r { machine := m }).2.delivered
    rw [served, served']
    exact ended.delivered

/-- **What a reader learns of others**: nothing. After two histories that leave the
same bytes at its place on the disk, a read comes to the same result in the same
phase and has filled the same places of its buffers; and with the same bytes, as
long as the bounce buffer does not start inside the window and no start of the
read is overlooked. -/
theorem reads_alike {config : Config} {m₀ m : Machine} (calm : m₀.events = [])
    (built : onBench config m₀ = (.ok (.ok d), m)) {calls calls' : List Call}
    (fixed : ∀ c ∈ calls ++ calls', c.isRewiring = false) {bs bs' now : List Behavior}
    (synchronous : ∀ b ∈ bs ++ bs' ++ now, b.isSynchronous = true) (laid : now ≠ [])
    (ends : ∀ served ∈ d.replies calls (m.layOut bs) ++ d.replies calls' (m.layOut bs'),
      served.result ≠ .error .endless)
    {r : Request} (reads : r.operation = .read) (accepted : d.inRange r = true)
    (same : (d.after calls' (m.layOut bs')).window.memory.read
        (r.sector.toNat * Geometry.sectorSize) r.segments.totalBytes
      = (d.after calls (m.layOut bs)).window.memory.read
        (r.sector.toNat * Geometry.sectorSize) r.segments.totalBytes) :
    let before := (d.after calls (m.layOut bs)).layOut now
    let run := (d.submit r).runOn before
    let run' := (d.submit r).runOn ((d.after calls' (m.layOut bs')).layOut now)
    run'.1.result = run.1.result ∧ run'.1.phase = run.1.phase
      ∧ run'.1.delivered.map Delivery.range = run.1.delivered.map Delivery.range
      ∧ (m.window.Misses d.bounce → before.Candid config run.2 →
        run'.1.delivered = run.1.delivered) := by
  intro before run run'
  obtain ⟨sound, rfl, -, -⟩ := onBench_inv built
  obtain ⟨carrying, window⟩ := onBench_carrying calm built
  rw [List.forall_mem_append] at fixed ends
  rw [List.forall_mem_append, List.forall_mem_append] at synchronous
  obtain ⟨⟨now₁, now₁'⟩, later⟩ := synchronous
  have events (bs : List Behavior) : (m.layOut bs).events = [] :=
    (congrArg Machine.events (outline_layOut bs m) :).trans carrying.events
  have tended := after_tended fixed.1 ends.1 (onBench_tended built now₁) (events bs)
  have tended' := after_tended fixed.2 ends.2 (onBench_tended built now₁') (events bs')
  have outline {calls : List Call} (fixed : ∀ c ∈ calls, c.isRewiring = false)
      (bs : List Behavior) : ((d.after calls (m.layOut bs)).layOut now).outline = m.outline := by
    rw [outline_layOut, after_outline fixed, outline_layOut]
  obtain ⟨base, size⟩ : before.window.base = m.window.base ∧ before.window.size = m.window.size :=
    window_of_outline (outline fixed.1 bs)
  have remote (bs : List Behavior) (m : Machine) : (m.layOut bs).window = m.window := by
    rcases m with ⟨_ | _⟩ <;> rfl
  have peers : before.Peers (Set.Ico (r.sector.toNat * Geometry.sectorSize)
      (r.sector.toNat * Geometry.sectorSize + r.segments.totalBytes)) before
      ((d.after calls' (m.layOut bs')).layOut now) :=
    { Onward.refl (tended.layOut later) with
      tended' := tended'.layOut later
      outline' := (outline fixed.2 bs').trans (outline fixed.1 bs).symm
      next' := behaviorAt_layOut laid tended.hasEngine tended'.hasEngine
      agree := .of_read (by rw [remote, remote]; exact same) }
  have alike := submit_alike sound (carrying.congr (outline fixed.1 bs))
    (by rw [base, window]) (by rw [size, window]) reads accepted peers
  unfold Window.Misses at alike ⊢
  rw [base, size] at alike
  exact alike

/-- A read of two pieces, of which the second fails, after a write that has left
its bytes in the bounce buffer and after none. -/
theorem reads_alike_after_write :
    let config : Config := { sizeBytes := 1024, errorMask := 0x10 }
    let history : List Call := [.submit (Request.write 1 [⟨#[7]⟩])]
    let r := Request.read 0 [⟨#[0]⟩, ⟨#[0]⟩]
    let now : List Behavior := [.immediate, .fault 0x10]
    ∃ d m, onBench config { clock := Clock.stepping } = (.ok (.ok d), m)
      ∧ let run := (d.submit r).runOn ((d.after history (m.layOut [.fault 0])).layOut now)
        let run' := (d.submit r).runOn ((m.layOut [.fault 0]).layOut now)
        run'.1.result = run.1.result ∧ run'.1.delivered = run.1.delivered := by
  have built : onBench { sizeBytes := 1024, errorMask := 0x10 } { clock := Clock.stepping }
      = (.ok (.ok ⟨{ sizeBytes := 1024, errorMask := 0x10 }, 2, some 33,
          ⟨0x80000000, Geometry.bounceSize⟩⟩), (onBench { sizeBytes := 1024, errorMask := 0x10 }
            { clock := Clock.stepping }).2) := Op.apply_eq rfl
  intro config history r now
  have fixed : ∀ c ∈ history ++ [], c.isRewiring = false := by decide
  have synchronous : ∀ b ∈ [.fault 0] ++ [.fault 0] ++ now, b.isSynchronous = true := by decide
  have ends : ∀ result ∈ (Device.replies ⟨config, 2, some 33, ⟨0x80000000, Geometry.bounceSize⟩⟩
      history ((onBench config { clock := Clock.stepping }).2.layOut [.fault 0])).map Served.result,
      result ≠ .error .endless := by
    decide +kernel
  have overlooked : config.overlooks (.fault 0) = true := by decide
  -- the engine has not copied what was written, so the disk holds what it held
  have remote := (hollow_read_of_staged built rfl (by decide) (by decide) (by decide)
    (by decide : 0 < (⟨#[7]⟩ : ByteArray).size) (by decide) (w := Request.write 1 [⟨#[7]⟩]) rfl
    (r := Request.read 0 [⟨#[0]⟩]) rfl (by decide) (by decide) (by decide) (by decide)
    overlooked (.inl rfl)).1
  obtain ⟨result, -, -, delivered⟩ := reads_alike rfl built fixed synchronous (by decide)
    (fun served hs => ends _ (List.mem_map_of_mem
      ((List.mem_append.mp hs).resolve_right List.not_mem_nil)))
    (r := r) rfl (by decide) (by rw [remote]; rfl)
  exact ⟨_, _, built, result, delivered (.inl (by decide))
    (candid_layOut (by decide) (by decide) _)⟩

/-- **Reads can tell histories apart.** A start that is overlooked hands out what
the write before it has staged, and so does an engine that takes the bounce
buffer for remote memory. -/
theorem reads_differ :
    let r := Request.read 0 [⟨#[0]⟩]
    let history : List Call := [.submit (Request.write 1 [⟨#[7]⟩])]
    let differ (config : Config) (now : Behavior) : Prop :=
      ∃ d m, onBench config { clock := Clock.stepping } = (.ok (.ok d), m)
        ∧ let after := d.after history (m.layOut [.fault 0])
          after.window.memory = m.window.memory
            ∧ ((d.submit r).runOn (m.layOut [now])).1 = ⟨.ok (.ok ()), .completed, [⟨0, 0, ⟨#[0]⟩⟩]⟩
            ∧ ((d.submit r).runOn (after.layOut [now])).1 = ⟨.ok (.ok ()), .completed,
              [⟨0, 0, ⟨#[7]⟩⟩]⟩
    differ { sizeBytes := 1024 } (.fault 0)
      ∧ differ { sizeBytes := 1024, remoteBase := 0x80000000 } .immediate := by
  have overlooked : onBench { sizeBytes := 1024 } { clock := Clock.stepping }
      = (.ok (.ok ⟨{ sizeBytes := 1024 }, 2, some 33, ⟨0x80000000, Geometry.bounceSize⟩⟩),
        (onBench { sizeBytes := 1024 } { clock := Clock.stepping }).2) := Op.apply_eq rfl
  have inward : onBench { sizeBytes := 1024, remoteBase := 0x80000000 } { clock := Clock.stepping }
      = (.ok (.ok ⟨{ sizeBytes := 1024, remoteBase := 0x80000000 }, 2, some 33,
          ⟨0x80000000, Geometry.bounceSize⟩⟩),
        (onBench { sizeBytes := 1024, remoteBase := 0x80000000 } { clock := Clock.stepping }).2) :=
    Op.apply_eq rfl
  intro r history differ
  have blank {config : Config} {d : Device} {m : Machine}
      (built : onBench config { clock := Clock.stepping } = (.ok (.ok d), m)) :
      m.memory.read 0x80000000 1 = ⟨#[0]⟩ := by
    rw [onBench_memory built]
    exact Memory.read_empty _ _
  let filled (data : ByteArray) : Served (Except BlockError Unit) :=
    ⟨.ok (.ok ()), .completed, [⟨0, 0, data⟩]⟩
  refine ⟨⟨_, _, overlooked, ?_⟩, ⟨_, _, inward, ?_⟩⟩
  · obtain ⟨remote, fresh, stale⟩ := hollow_read_of_staged overlooked rfl (by decide) (by decide)
      (by decide) (by decide : 0 < (⟨#[7]⟩ : ByteArray).size) (by decide)
      (w := Request.write 1 [⟨#[7]⟩]) rfl (r := r) rfl (by decide) (by decide) (by decide)
      (by decide) (by decide : Config.overlooks _ (.fault 0) = true) (.inl rfl)
    exact ⟨remote, fresh.trans (congrArg filled (blank overlooked)), stale⟩
  · obtain ⟨remote, fresh, stale⟩ := hollow_read_of_staged inward rfl (by decide) (by decide)
      (by decide) (by decide : 0 < (⟨#[7]⟩ : ByteArray).size) (by decide)
      (w := Request.write 1 [⟨#[7]⟩]) rfl (r := r) rfl (by decide) (by decide) (by decide)
      (by decide) (by decide : Config.overlooks _ (.fault 0) = true)
      (.inr ⟨rfl, by decide, by decide⟩)
    exact ⟨remote, fresh.trans (congrArg filled (blank inward)), stale⟩

end Device

end RemoteDisk
