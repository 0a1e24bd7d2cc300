import RemoteDisk.Proofs.Peers

/-!
# Successes that brought nothing

A wait asks whether a done bit is shown, and then whether an error bit is that
somebody looks for. An engine that finishes without copying and shows an error
bit that nobody looks for is believed. The request goes on as if the bytes had
been moved: a write leaves its bytes in the bounce buffer, and a read delivers
what it finds there (`Piece.feign`). The same is delivered where the bounce buffer
lies in the window, because the engine then leaves it alone and copies within
remote memory.
-/

namespace RemoteDisk

open Op

/-- **A piece that passes for moved** though nothing was copied. Bytes to be
written were staged; bytes to be read are those that were staged before. -/
def Piece.feign (bounce : Buffer) (p : Piece) (s : Store) : Store :=
  match p.body with
  | .source data => { s with nearby := s.nearby.write bounce.base.toNat data }
  | .sink buffer size =>
    { s with
      delivered := s.delivered ++ [⟨buffer, p.offset, s.nearby.read bounce.base.toNat size⟩] }

/-- Pieces that pass for moved, one after another. -/
def Store.feignAll (bounce : Buffer) (ps : List Piece) (s : Store) : Store :=
  ps.foldl (fun s p => p.feign bounce s) s

/-- **A start that is going to be believed**: the engine finishes without copying,
and no error bit that is looked for will be shown. -/
def Machine.Believes (m : Machine) (n : Nat) : Prop :=
  ∃ bits, m.behaviorAt n = some (.fault bits) ∧ Status.shows bits m.channel.errorMask = false

/-- **A fault is overlooked** unless it shows an error bit that is looked for, where no
done bit is one. -/
theorem Config.overlooks_fault {c : Config} (done : c.doneMask ≠ 0)
    (errors : c.errorMask &&& c.doneMask = 0) (bits : UInt32) :
    c.overlooks (.fault bits) = !Status.shows bits c.errorMask := by
  unfold overlooks
  dsimp only
  rw [Status.shows_or_self done, Status.shows_or_of_disjoint errors, Bool.true_and]

namespace Route

variable {route : Route} {r : Request} {p : Piece} {ps : List Piece} {s : Service} {d : Descriptor}

/-- **A chunk that is believed to be moved** leaves memory alone. -/
theorem move_believed (prompt : s.machine.Prompt) (calm : s.machine.pending = [])
    (believed : s.machine.Believes 0)
    (walks : CacheLine.overruns d.source d.length.toNat = false
      ∧ CacheLine.overruns d.destination d.length.toNat = false)
    (short : d.length.toNat ≤ Engine.longestBuffer) :
    ∃ s', route.move d s = (.ok (.ok ()), s') ∧ s.machine.SameMemory s'.machine
      ∧ s'.delivered = s.delivered := by
  obtain ⟨bits, next, unseen⟩ := believed
  obtain ⟨m₁, began, prompt', o, same, -, seen⟩ := begin_fault prompt next walks.1 short
  obtain ⟨m₂, finished, same'⟩ := Descriptor.finish_over (d := d) prompt'
    (same.pending.trans calm) o (seen.trans unseen) walks.2
  rw [move_apply began, finished]
  exact ⟨_, rfl, same.trans same', rfl⟩

/-- **A piece that is believed to be moved.** -/
theorem movePiece_believed (prompt : s.machine.Prompt) (calm : s.machine.pending = [])
    (believed : s.machine.Believes 0) (safe : p.Safe route.bounce) :
    ∃ s', route.movePiece p s = (.ok (.ok ()), s') ∧ s'.machine.pending = []
      ∧ s'.store = p.feign route.bounce s.store := by
  have walks := safe.walks
  have short := safe.short
  rw [← safe.length] at walks short
  rcases p with ⟨place, offset, _ | data⟩
  · obtain ⟨s₁, moved, same, delivered⟩ := move_believed prompt calm believed walks short
    refine ⟨_, movePiece_sink safe.held moved, same.pending.trans calm, ?_⟩
    unfold Service.store Piece.feign
    dsimp only
    rw [same.window, same.memory, delivered]
  · rw [movePiece_source safe.held]
    obtain ⟨s₁, moved, same, delivered⟩ := move_believed (s := { s with
        phase := .staging
        machine := { s.machine with
          memory := s.machine.memory.write route.bounce.base.toNat data } })
      (prompt.congr rfl rfl rfl rfl) calm believed walks short
    refine ⟨s₁, moved, same.pending.trans calm, ?_⟩
    unfold Service.store Piece.feign
    rw [same.window, same.memory, delivered]

/-- **Pieces that are believed to be moved**, one after another. -/
theorem moveAll_believed (prompt : s.machine.Prompt) (calm : s.machine.pending = [])
    (believed : ∀ i < ps.length, s.machine.Believes i) (safe : ∀ p ∈ ps, p.Safe route.bounce) :
    ∃ s', route.moveAll ps s = (.ok (.ok ()), s') ∧ s'.machine.pending = []
      ∧ s'.machine.bare = s.machine.bare.movedAll route.bounce ps
      ∧ s'.store = s.store.feignAll route.bounce ps := by
  induction ps generalizing s with
  | nil => exact ⟨s, rfl, calm, rfl, rfl⟩
  | cons p ps ih =>
    have safe₁ := safe p List.mem_cons_self
    obtain ⟨s₁, moved, calm₁, store₁⟩ :=
      movePiece_believed prompt calm (believed 0 (Nat.zero_lt_succ _)) safe₁
    have bare₁ := bare_of_moved safe₁ prompt.hasEngine moved
    have fixed₁ : s₁.machine.bare.fixed = s.machine.bare.fixed := by
      rw [bare₁]
      exact Machine.fixed_issued _ _
    have prompt₁ : s₁.machine.Prompt := by
      refine .of_bare ?_
      rw [bare₁]
      exact prompt.bare.moved _
    have believed₁ : ∀ i < ps.length, s₁.machine.Believes i := by
      intro i hi
      obtain ⟨bits, next, unseen⟩ := believed (i + 1) (Nat.succ_lt_succ hi)
      have channel : s₁.machine.channel.errorMask = s.machine.channel.errorMask :=
        (congrArg (fun m => m.channel.errorMask) fixed₁ :)
      refine ⟨bits, ?_, by rw [channel]; exact unseen⟩
      rw [← Machine.behaviorAt_bare, bare₁]
      exact (Machine.behaviorAt_issued _ _ _).trans ((Machine.behaviorAt_bare _ _).trans next)
    obtain ⟨s₂, others, calm₂, bare₂, store₂⟩ :=
      ih prompt₁ calm₁ believed₁ fun q hq => safe q (List.mem_cons_of_mem p hq)
    refine ⟨s₂, (Attempt.bind_ok moved).trans others, calm₂, ?_, ?_⟩
    · rw [bare₂, bare₁]
      rfl
    · rw [store₂, store₁]
      rfl

/-- **A piece that is read into the window** is delivered as it was staged: the
engine takes the bounce buffer for remote memory and leaves it alone. -/
theorem movePiece_inward {place offset buffer size : Nat} (prompt : s.machine.Prompt)
    (calm : s.machine.pending = []) (next : s.machine.behaviorAt 0 = some .immediate)
    (safe : Piece.Safe route.bounce ⟨place, offset, .sink buffer size⟩)
    (above : s.machine.window.base.toNat ≤ place)
    (within : place + size ≤ s.machine.window.base.toNat + s.machine.window.size)
    (start : s.machine.window.base.toNat ≤ route.bounce.base.toNat)
    (stop : route.bounce.base.toNat + size
      ≤ s.machine.window.base.toNat + s.machine.window.size) :
    ∃ s', route.movePiece ⟨place, offset, .sink buffer size⟩ s = (.ok (.ok ()), s')
      ∧ s'.delivered = s.delivered
        ++ [⟨buffer, offset, s.machine.memory.read route.bounce.base.toNat size⟩] := by
  have length := safe.length
  have walks := safe.walks
  have short := safe.short
  have source : s.machine.window.locate
      (Piece.descriptor route.bounce ⟨place, offset, .sink buffer size⟩).source
      (Piece.size ⟨place, offset, .sink buffer size⟩)
      = .remote (place - s.machine.window.base.toNat) :=
    locate_place safe above within
  have destination : s.machine.window.locate
      (Piece.descriptor route.bounce ⟨place, offset, .sink buffer size⟩).destination
      (Piece.size ⟨place, offset, .sink buffer size⟩)
      = .remote (route.bounce.base.toNat - s.machine.window.base.toNat) :=
    Window.locate_remote safe.pos start stop
  rw [← length] at walks short source destination
  obtain ⟨s₁, moved, same, delivered⟩ := move_immediate prompt calm next walks short
    (by rw [source]; exact Target.noConfusion) (by rw [destination]; exact Target.noConfusion)
  rw [destination] at same
  refine ⟨_, movePiece_sink safe.held moved, ?_⟩
  dsimp only
  rw [same.memory, delivered]
  rfl

end Route

/-! ## Requests -/

namespace Machine

variable {m : Machine}

/-- Behaviours that are laid out make a machine no less prompt. -/
theorem Prompt.layOut (p : m.Prompt) (bs : List Behavior) : (m.layOut bs).Prompt := by
  obtain ⟨e, engine, done⟩ := p.engine
  rcases m with ⟨_ | e'⟩
  · cases engine
  · cases engine
    exact ⟨⟨_, rfl, done⟩, p.done, p.errors, p.events, p.noticed⟩

/-- Behaviours that are laid out put nothing off. -/
theorem pending_layOut (bs : List Behavior) (m : Machine) : (m.layOut bs).pending = m.pending := by
  rcases m with ⟨_ | _⟩ <;> rfl

/-- Behaviours that are laid out are no matter of memory or of what stays as it is. -/
theorem layOut_apart (bs : List Behavior) (m : Machine) :
    (m.layOut bs).memory = m.memory ∧ (m.layOut bs).window = m.window
      ∧ (m.layOut bs).channel = m.channel ∧ (m.layOut bs).bare.fixed = m.bare.fixed := by
  rcases m with ⟨_ | _⟩ <;> exact ⟨rfl, rfl, rfl, rfl⟩

/-- Of the behaviours that are laid out the first comes first. -/
theorem behaviorAt_layOut_zero (engine : m.HasEngine) (b : Behavior) (bs : List Behavior) :
    (m.layOut (b :: bs)).behaviorAt 0 = some b := by
  obtain ⟨e, engine⟩ := engine
  unfold behaviorAt engine? Machine.layOut
  rw [controller_mapEngine engine]
  rfl

end Machine

namespace Device

variable {d : Device} {m : Machine} {r : Request}

section Hollow

variable (sound : d.Sound) (room : d.config.HasRoom) (moves : r.operation.direction? ≠ none)
  (accepted : d.inRange r = true)
include sound room moves accepted

/-- A request whose pieces are all moved is completed. -/
theorem submit_of_moveAll {s : Service} (moved : d.route.moveAll (d.pieces r)
      ⟨m.report .trace ("[OMNI] request " ++ r.text), .started, []⟩
      = (.ok (.ok ()), s)) :
    d.submit r { machine := m } = (.ok (.ok ()), { s with phase := .completed }) := by
  have served := Route.serve_apply (fits_of_inRange sound room accepted)
    { machine := m, phase := .started }
  unfold pieces Request.pieces at moved
  rw [moved] at served
  rw [submit_accepted moves (totalBytes_lt sound accepted) accepted, served]
  rfl

/-- **A request whose starts are all believed** is completed, and nothing but the
bounce buffer and what is delivered has changed. -/
theorem submit_believed (prompt : m.Prompt) (calm : m.pending = [])
    (believed : ∀ i < (d.pieces r).length, m.Believes i) :
    ∃ s, d.submit r { machine := m } = (.ok (.ok ()), s) ∧ s.phase = .completed
      ∧ s.machine.pending = [] ∧ s.machine.bare = m.bare.movedAll d.bounce (d.pieces r)
      ∧ s.store = Store.feignAll d.bounce (d.pieces r)
        ⟨m.window.memory, m.memory, []⟩ := by
  have safe : ∀ p ∈ d.pieces r, p.Safe d.route.bounce := safe_of_inRange sound room accepted
  obtain ⟨s, moved, calm', bare, store⟩ := Route.moveAll_believed
    (s := ⟨m.report .trace ("[OMNI] request " ++ r.text), .started, []⟩)
    (prompt.congr rfl rfl rfl rfl) calm believed safe
  exact ⟨_, submit_of_moveAll sound room moves accepted moved, rfl, calm', bare, store⟩

/-- **A read that is copied within the window** is completed and delivers what the
bounce buffer held before. -/
theorem submit_inward {buffer size : Nat} (prompt : m.Prompt) (calm : m.pending = [])
    (next : m.behaviorAt 0 = some .immediate) (single : r.segments.toList = [.sink buffer size])
    (pos : 0 < size) (held : size ≤ Geometry.bounceSize)
    (base : m.window.base = d.config.remoteBase) (length : m.window.size = d.config.sizeBytes.toNat)
    (start : d.config.remoteBase.toNat ≤ d.bounce.base.toNat)
    (stop : d.bounce.base.toNat + size ≤ d.config.remoteBase.toNat + d.config.sizeBytes.toNat) :
    ∃ s, d.submit r { machine := m } = (.ok (.ok ()), s) ∧ s.phase = .completed
      ∧ s.delivered = [⟨buffer, 0, m.memory.read d.bounce.base.toNat size⟩] := by
  have one := d.pieces_single single pos (by rw [sound.size]; exact held)
  have lies : (⟨d.route.address r.sector.toNat, 0, .sink buffer size⟩ : Piece) ∈ d.pieces r := by
    rw [one]
    exact List.mem_singleton_self _
  have safe : Piece.Safe d.route.bounce ⟨d.route.address r.sector.toNat, 0, .sink buffer size⟩ :=
    safe_of_inRange sound room accepted _ lies
  have total : r.segments.totalBytes = size := congrArg Segment.total single
  have below := address_add_totalBytes_le accepted
  rw [sound.sizeBytes, total, ← base, ← length] at below
  have above : m.window.base.toNat ≤ d.route.address r.sector.toNat := by
    rw [base]
    exact Nat.le_add_right _ _
  rw [← base, ← length] at stop
  rw [← base] at start
  obtain ⟨s, moved, delivered⟩ := Route.movePiece_inward
    (s := ⟨m.report .trace ("[OMNI] request " ++ r.text), .started, []⟩)
    (prompt.congr rfl rfl rfl rfl) calm next safe above below start stop
  refine ⟨_, submit_of_moveAll sound room moves accepted (s := s) ?_, rfl, ?_⟩
  · rw [one]
    exact (Attempt.bind_ok moved).trans rfl
  · exact delivered

/-- **A read that nothing is copied for** comes back with what the bounce buffer
held before, as if that were on the disk. -/
theorem submit_hollow {buffer size : Nat} (prompt : m.Prompt) (calm : m.pending = [])
    (single : r.segments.toList = [.sink buffer size]) (pos : 0 < size)
    (held : size ≤ Geometry.bounceSize) (base : m.window.base = d.config.remoteBase)
    (length : m.window.size = d.config.sizeBytes.toNat)
    (hollow : m.Believes 0 ∨ m.behaviorAt 0 = some .immediate
      ∧ d.config.remoteBase.toNat ≤ d.bounce.base.toNat
      ∧ d.bounce.base.toNat + size ≤ d.config.remoteBase.toNat + d.config.sizeBytes.toNat) :
    ((d.submit r).runOn m).1
      = ⟨.ok (.ok ()), .completed, [⟨buffer, 0, m.memory.read d.bounce.base.toNat size⟩]⟩ := by
  rw [Serve.runOn_served]
  rcases hollow with believed | ⟨next, start, stop⟩
  · have one := d.pieces_single single pos (by rw [sound.size]; exact held)
    have all : ∀ i < (d.pieces r).length, m.Believes i := by
      intro i hi
      rw [one] at hi
      obtain rfl := Nat.lt_one_iff.mp hi
      exact believed
    obtain ⟨s, run, phase, -, -, store⟩ :=
      submit_believed sound room moves accepted prompt calm all
    have delivered : s.delivered = _ := congrArg Store.delivered store
    rw [run, phase, delivered, one]
    rfl
  · obtain ⟨s, run, phase, delivered⟩ := submit_inward sound room moves accepted prompt calm next
      single pos held base length start stop
    rw [run, phase, delivered]

/-- **A write whose start is believed** leaves its bytes in the bounce buffer, and
all else as it was. -/
theorem after_believed {data : ByteArray} {bits : UInt32} (prompt : m.Prompt)
    (calm : m.pending = []) (single : r.segments.toList = [.source data]) (pos : 0 < data.size)
    (held : data.size ≤ Geometry.bounceSize)
    (unseen : Status.shows bits m.channel.errorMask = false) :
    let left := d.after [.submit r] (m.layOut [.fault bits])
    left.Prompt ∧ left.pending = [] ∧ left.bare.fixed = m.bare.fixed
      ∧ left.window.memory = m.window.memory
      ∧ left.memory = m.memory.write d.bounce.base.toNat data := by
  obtain ⟨memory, window, channel, apart⟩ := Machine.layOut_apart [.fault bits] m
  have one := d.pieces_single single pos (by rw [sound.size]; exact held)
  have believed : ∀ i < (d.pieces r).length, (m.layOut [.fault bits]).Believes i := by
    intro i hi
    rw [one] at hi
    obtain rfl := Nat.lt_one_iff.mp hi
    exact ⟨bits, Machine.behaviorAt_layOut_zero prompt.hasEngine _ _, by rw [channel]; exact unseen⟩
  obtain ⟨s, run, -, calm', bare, store⟩ := submit_believed sound room moves accepted
    (prompt.layOut _) ((Machine.pending_layOut _ m).trans calm) believed
  have left : d.after [.submit r] (m.layOut [.fault bits]) = s.machine := by
    show (d.submit r { machine := m.layOut [.fault bits] }).2.machine = s.machine
    rw [run]
  rw [one, memory, window] at store
  rw [left]
  refine ⟨.of_bare ?_, calm', ?_, congrArg Store.remote store, congrArg Store.nearby store⟩
  · rw [bare]
    exact (prompt.layOut _).bare.movedAll
  · rw [bare, Machine.fixed_movedAll, apart]

/-- **A read that nothing is copied for**, on a machine for which that was laid
out. -/
theorem submit_laid {buffer size : Nat} {bits : UInt32} {now : Behavior} (prompt : m.Prompt)
    (calm : m.pending = []) (single : r.segments.toList = [.sink buffer size]) (pos : 0 < size)
    (held : size ≤ Geometry.bounceSize) (base : m.window.base = d.config.remoteBase)
    (length : m.window.size = d.config.sizeBytes.toNat)
    (unseen : Status.shows bits m.channel.errorMask = false)
    (hollow : now = .fault bits ∨ now = .immediate
      ∧ d.config.remoteBase.toNat ≤ d.bounce.base.toNat
      ∧ d.bounce.base.toNat + size ≤ d.config.remoteBase.toNat + d.config.sizeBytes.toNat) :
    ((d.submit r).runOn (m.layOut [now])).1
      = ⟨.ok (.ok ()), .completed, [⟨buffer, 0, m.memory.read d.bounce.base.toNat size⟩]⟩ := by
  obtain ⟨memory, window, channel, -⟩ := Machine.layOut_apart [now] m
  have next := Machine.behaviorAt_layOut_zero prompt.hasEngine now []
  rw [← memory]
  refine submit_hollow sound room moves accepted (prompt.layOut _)
    ((Machine.pending_layOut _ m).trans calm) single pos held (by rw [window]; exact base)
    (by rw [window]; exact length) ?_
  rcases hollow with rfl | ⟨rfl, start, stop⟩
  · exact .inl ⟨bits, next, by rw [channel]; exact unseen⟩
  · exact .inr ⟨next, start, stop⟩

end Hollow

/-- **What a write has staged, a hollow read delivers**, wherever the two lie on the
disk. A write whose start is believed leaves remote memory as it was; a read of as
many bytes that nothing is copied for delivers what was staged, and would have
delivered what local memory held before. -/
theorem hollow_read_of_staged {config : Config} {m₀ : Machine}
    (built : onBench config m₀ = (.ok (.ok d), m)) (quiet : m₀.events = [])
    (done : config.doneMask ≠ 0) (errors : config.errorMask &&& config.doneMask = 0)
    (room : config.HasRoom) {w : Request} {buffer : Nat} {data : ByteArray} (pos : 0 < data.size)
    (held : data.size ≤ Geometry.bounceSize) (writes : w.segments.toList = [.source data])
    (reads : r.segments.toList = [.sink buffer data.size]) (moves : w.operation.direction? ≠ none)
    (moves' : r.operation.direction? ≠ none) (accepted : d.inRange w = true)
    (accepted' : d.inRange r = true) {bits : UInt32}
    (overlooked : config.overlooks (.fault bits) = true) {now : Behavior}
    (hollow : now = .fault bits ∨ now = .immediate
      ∧ config.remoteBase.toNat ≤ d.bounce.base.toNat
      ∧ d.bounce.base.toNat + data.size ≤ config.remoteBase.toNat + config.sizeBytes.toNat) :
    let left := d.after [.submit w] (m.layOut [.fault bits])
    left.window.memory = m.window.memory
      ∧ ((d.submit r).runOn (m.layOut [now])).1
        = ⟨.ok (.ok ()), .completed, [⟨buffer, 0, m.memory.read d.bounce.base.toNat data.size⟩]⟩
      ∧ ((d.submit r).runOn (left.layOut [now])).1
        = ⟨.ok (.ok ()), .completed, [⟨buffer, 0, data⟩]⟩ := by
  obtain ⟨sound, rfl, mirrors⟩ := onBench_mirrors built quiet done errors
  have unseen : Status.shows bits m.channel.errorMask = false := by
    obtain ⟨-, -, -, -, -, rfl⟩ := onBench_inv built
    rw [Config.overlooks_fault done errors, Bool.not_eq_true'] at overlooked
    exact overlooked
  obtain ⟨prompt, calm, fixed, remote, staged⟩ := after_believed sound room moves accepted
    mirrors.prompt mirrors.calm writes pos held unseen
  -- the window and the error bits are where they were, so the reader meets the same
  have base := (congrArg (fun b : Machine => b.window.base) fixed).trans mirrors.base
  have length := (congrArg (fun b : Machine => b.window.size) fixed).trans mirrors.size
  have unseen' : Status.shows bits _ = false :=
    (congrArg (fun b : Machine => Status.shows bits b.channel.errorMask) fixed).trans unseen
  intro left
  refine ⟨remote, ?_, ?_⟩
  · exact submit_laid sound room moves' accepted' mirrors.prompt mirrors.calm reads pos held
      mirrors.base mirrors.size unseen hollow
  · rw [submit_laid sound room moves' accepted' prompt calm reads pos held base length unseen'
      hollow, staged, Memory.read_write]

end Device

end RemoteDisk
