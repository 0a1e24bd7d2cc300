import RemoteDisk.Proofs.FlatDisk
import RemoteDisk.Proofs.Modes

/-!
# Disks that work

A disk is healthy while its engine copies at once and nothing stands in the
way of noticing it. A healthy disk carries out every request it accepts and
is healthy again afterwards. What it leaves can be told from the request
alone: the bytes that were carried over, the transfers in the log, and all of
the counters.

The counter of interrupts is the one that takes work. It is written by the
handler and not by the request, so each transfer has to be followed to the
one time that it raises the wire (`Machine.rung`); the waits in between do not
count (`Route.movePiece_irqs`).
-/

namespace RemoteDisk

open Op

/-! ## Interrupts of transfers that end -/

namespace Machine

variable {m : Machine}

/-- **What raising the wire adds to the counter of interrupts** while a done
bit is shown: one where a disk listens to the line of the wire. -/
def rung (m : Machine) : UInt64 :=
  match m.wire with
  | some ⟨line, some (.disk own)⟩ => if own = some line then 1 else 0
  | _ => 0

theorem rung_congr {m' : Machine} (wire : m'.wire = m.wire) : m'.rung = m.rung := by
  unfold rung
  rw [wire]

/-- **The wire that is raised while a done bit is shown** counts one interrupt
where the disk hears it. -/
theorem raise_irqs (engine : m.HasEngine)
    (shown : Status.shows m.status m.channel.doneMask = true) :
    m.raise.2.counters.irqs = m.counters.irqs + m.rung := by
  unfold raise rung
  rcases m.wire with _ | ⟨line, _ | _ | own | _⟩
  case some.some.disk =>
    by_cases listens : own = some line
    · obtain ⟨counters, claims, handled, rfl⟩ := engine.handleInterrupt_apply
      simp only [deliver, listens, if_true, handled, shown]
    · simp [deliver, listens]
  all_goals exact (UInt64.add_zero _).symm

/-- A transfer that the engine finishes raises the wire once. -/
theorem Prompt.finish_irqs (p : m.Prompt) (extra : UInt32) :
    (m.finish extra).counters.irqs = m.counters.irqs + m.rung := by
  obtain ⟨e, e', -, freed, -, status⟩ := p.freed extra
  rw [freed] at status
  unfold Machine.finish
  rw [freed]
  refine raise_irqs ⟨e', rfl⟩ ?_
  rw [status]
  exact Status.shows_or_self p.done extra

/-- **A launch that copies at once** raises the wire once. -/
theorem Prompt.launch_irqs {m' : Machine} {t : Transfer} (p : m.Prompt)
    (next : m.behaviorAt 0 = some .immediate)
    (launched : Act.launch t.source t.destination t.length m = (.ok (), m')) :
    m'.counters.irqs = m.counters.irqs + m.rung := by
  obtain ⟨e, engine, -⟩ := p.engine
  obtain ⟨q, -, -⟩ := p.begun t
  have begun : (m.begun t).counters = m.counters ∧ (m.begun t).wire = m.wire := by
    rcases m with ⟨_ | _⟩ <;> exact ⟨rfl, rfl⟩
  rw [Act.launch_apply engine, takeBehavior_of_behaviorAt engine next] at launched
  obtain ⟨reached, m₁, copied, finished⟩ := bind_ok_inv launched
  cases finished
  -- whether or not the ranges could be reached, only memory may have changed
  have copy : m₁.Prompt ∧ m₁.counters = m.counters ∧ m₁.wire = m.wire := by
    rw [Act.copy_apply] at copied
    split at copied
    · cases copied
    · split at copied
      · cases copied
        exact ⟨q, begun⟩
      · cases copied
        refine ⟨q.store _ _, ?_⟩
        unfold Machine.store
        split <;> exact begun
  rw [copy.1.finish_irqs, copy.2.1, rung_congr copy.2.2]

end Machine

/-- Interrupts are not counted with the transfers. -/
theorem Direction.count_irqs (direction : Direction) (c : Counters) :
    (direction.count c).irqs = c.irqs := by
  cases direction <;> rfl

namespace Route

variable {route : Route} {s s' : Service} {d : Descriptor}

/-- A chunk that the engine copies at once counts as many interrupts as it
raises the wire: one, where the disk hears it. -/
theorem move_irqs (prompt : s.machine.Prompt) (calm : s.machine.pending = [])
    (next : s.machine.behaviorAt 0 = some .immediate)
    (walks : CacheLine.overruns d.source d.length.toNat = false
      ∧ CacheLine.overruns d.destination d.length.toNat = false)
    (short : d.length.toNat ≤ Engine.longestBuffer)
    (source : s.machine.window.locate d.source d.length.toNat ≠ .invalid)
    (destination : s.machine.window.locate d.destination d.length.toNat ≠ .invalid)
    (moved : route.move d s = (.ok (.ok ()), s')) :
    s'.machine.counters.irqs = s.machine.counters.irqs + s.machine.rung := by
  have flushed := prompt_flushed prompt d.source d.length.toNat
  obtain ⟨m₁, launched, o, -, same⟩ := flushed.launch_immediate (t := d.transfer) next short
    source destination
  have irqs := flushed.launch_irqs (t := d.transfer) next launched
  have began : d.begin s.machine = (.ok (), m₁) :=
    (Descriptor.begin_apply walks.1 s.machine).trans launched
  obtain ⟨prompt', -⟩ := Descriptor.begin_prompt prompt began walks.1 short
  have calm' : m₁.pending = [] := same.pending.trans ((Machine.pending_store _ _ _).trans calm)
  obtain ⟨m₂, waited, still⟩ := Act.wait_over ⟨prompt'.events, calm'⟩ o route.timeoutMs
  have counters : m₂.counters = m₁.counters := (congrArg Machine.counters still :)
  rw [move_apply began] at moved
  split at waited
  · obtain ⟨journal, failed⟩ := Descriptor.finish_of_error (d := d) waited
    rw [failed] at moved
    cases moved
  · have finished := Descriptor.finish_of_ok waited walks.2
    rw [finished] at moved
    cases moved
    show (d.direction.count m₂.counters).irqs = _
    rw [counters, d.direction.count_irqs, irqs]
    rfl

/-- Both ends of a piece that is safe are found somewhere. -/
theorem locate_descriptor {w : Window} {p : Piece} (safe : p.Safe route.bounce)
    (reach : p.Reachable route.bounce w) :
    w.locate (p.descriptor route.bounce).source (p.descriptor route.bounce).length.toNat ≠ .invalid
      ∧ w.locate (p.descriptor route.bounce).destination
        (p.descriptor route.bounce).length.toNat ≠ .invalid := by
  obtain ⟨nearby, remote⟩ := locate_piece safe reach
  rw [safe.length]
  have here : w.locate (p.descriptor route.bounce).nearby p.size ≠ .invalid := by
    rw [show (p.descriptor route.bounce).nearby = route.bounce.base from rfl, nearby]
    exact Target.noConfusion
  have there : w.locate (p.descriptor route.bounce).remote p.size ≠ .invalid := by
    rw [remote]
    exact Target.noConfusion
  unfold Descriptor.source Descriptor.destination
  cases (p.descriptor route.bounce).direction with
  | read => exact ⟨there, here⟩
  | write => exact ⟨here, there⟩

/-- **A piece that the engine copies at once** raises the wire once. -/
theorem movePiece_irqs {p : Piece} (prompt : s.machine.Prompt) (calm : s.machine.pending = [])
    (next : s.machine.behaviorAt 0 = some .immediate) (safe : p.Safe route.bounce)
    (reach : p.Reachable route.bounce s.machine.window)
    (moved : route.movePiece p s = (.ok (.ok ()), s')) :
    s'.machine.counters.irqs = s.machine.counters.irqs + s.machine.rung := by
  have walks := safe.walks
  have short := safe.short
  rw [← safe.length] at walks short
  obtain ⟨source, destination⟩ := locate_descriptor safe reach
  rcases p with ⟨r, offset, ⟨buffer, size⟩ | data⟩
  · obtain ⟨s₁, run, -⟩ := move_immediate prompt calm next walks short source destination
    have held : size ≤ route.bounce.size := safe.held
    rw [movePiece_sink held run] at moved
    cases moved
    have irqs := move_irqs prompt calm next walks short source destination run
    exact irqs
  · rw [movePiece_source safe.held] at moved
    exact move_irqs (s := { s with
      phase := .staging
      machine := { s.machine with
        memory := s.machine.memory.write route.bounce.base.toNat data } })
      (prompt.congr rfl rfl rfl rfl) calm next walks short source destination moved

/-- **Pieces that the engine copies at once** raise the wire once each. -/
theorem moveAll_irqs {ps : List Piece} (prompt : s.machine.Prompt) (calm : s.machine.pending = [])
    (immediate : ∀ i < ps.length, s.machine.behaviorAt i = some .immediate)
    (safe : ∀ p ∈ ps, p.Safe route.bounce)
    (reach : ∀ p ∈ ps, p.Reachable route.bounce s.machine.window)
    (moved : route.moveAll ps s = (.ok (.ok ()), s')) :
    s'.machine.counters.irqs
      = s.machine.counters.irqs + UInt64.ofNat ps.length * s.machine.rung := by
  induction ps generalizing s with
  | nil =>
    cases moved
    simp
  | cons p ps ih =>
    have first := immediate 0 (Nat.zero_lt_succ _)
    have reach' := reach p List.mem_cons_self
    obtain ⟨s₁, run, carried⟩ := movePiece_carried prompt calm first
      (safe p List.mem_cons_self) reach'
    have irqs := movePiece_irqs prompt calm first (safe p List.mem_cons_self) reach' run
    have rest : route.moveAll ps s₁ = (.ok (.ok ()), s') := (Attempt.bind_ok run).symm.trans moved
    have wire : s₁.machine.wire = s.machine.wire :=
      (congrArg (fun m : Machine => m.wire) carried.fixed :)
    rw [ih (carried.prompt prompt) carried.pending ?_
      (fun q hq => safe q (List.mem_cons_of_mem p hq))
      (fun q hq => carried.reachable (reach q (List.mem_cons_of_mem p hq))) rest,
      Machine.rung_congr wire, irqs, List.length_cons, UInt64.ofNat_add]
    · grind
    · intro i hi
      rw [carried.behaviorAt, List.length_singleton, Nat.add_comm]
      exact immediate (i + 1) (Nat.succ_lt_succ hi)

/-- **A request whose pieces are copied at once** raises the wire once for each
of them. -/
theorem serve_irqs {r : Request} (prompt : s.machine.Prompt) (calm : s.machine.pending = [])
    (reaches : route.Reaches s.machine.window r)
    (immediate : ∀ i < (r.pieces route).length, s.machine.behaviorAt i = some .immediate)
    (served : route.serve r s = (.ok (.ok ()), s')) :
    s'.machine.counters.irqs
      = s.machine.counters.irqs + UInt64.ofNat (r.pieces route).length * s.machine.rung := by
  rw [serve_apply reaches.fits] at served
  rcases moved : route.moveAll (route.pieces r.sector.toNat r.segments.toList)
    { s with machine := s.machine.report .trace ("[OMNI] request " ++ r.text) } with
    ⟨_ | _ | _, s₁⟩
  all_goals rw [moved] at served
  · cases served
  · cases served
  · cases served
    have irqs := moveAll_irqs (s := { s with
      machine := s.machine.report .trace ("[OMNI] request " ++ r.text) })
      (prompt.congr rfl rfl rfl rfl) calm immediate reaches.safe reaches.reachable moved
    exact irqs

end Route

/-! ## Healthy disks -/

/-- **A healthy disk**: it is as it was brought up, its window holds the disk
and lies apart from the bounce buffer, and its engine copies whatever it is
asked to, at once. -/
structure Device.Healthy (d : Device) (m : Machine) : Prop where
  sound : d.Sound
  room : d.config.HasRoom
  apart : d.bounce.base.toNat + d.bounce.size ≤ d.config.remoteBase.toNat
    ∨ d.config.remoteBase.toNat + d.config.sizeBytes.toNat ≤ d.bounce.base.toNat
  prompt : m.Prompt
  calm : m.pending = []
  immediate : ∀ i, m.behaviorAt i = some .immediate
  base : m.window.base = d.config.remoteBase
  size : m.window.size = d.config.sizeBytes.toNat

namespace Device

variable {d : Device} {m : Machine} {r : Request}

/-- The array whose bytes a healthy disk holds. -/
theorem Healthy.mirrors (healthy : d.Healthy m) :
    d.Mirrors m ⟨m.window.memory.read 0 d.config.sizeBytes.toNat⟩ :=
  ⟨healthy.prompt, healthy.calm, healthy.immediate, healthy.base, healthy.size, rfl⟩

/-- The engine reaches whatever a healthy disk accepts. -/
theorem Healthy.reaches (healthy : d.Healthy m) (accepted : d.inRange r = true) :
    d.route.Reaches m.window r := by
  have size := healthy.sound.size
  have apart := healthy.apart
  unfold Geometry.bounceSize at size
  exact reaches_of_inRange healthy.sound healthy.room (by omega) healthy.mirrors accepted

/-- **What a request adds to the counters**, on a wire that counts so many
interrupts for a transfer. -/
def charged (d : Device) (rung : UInt64) (c : Counters) (r : Request) : Counters :=
  let n := (d.pieces r).length
  let moved := match r.operation.direction? with
    | some direction => direction.counted n c
    | none => c
  { moved with irqs := c.irqs + UInt64.ofNat n * rung }

/-- The bytes a request works on, as a machine holds them. -/
def storeOf (m : Machine) : Store := ⟨m.window.memory, m.memory, []⟩

/-- **What carrying out a request leaves**, seen from before and after. -/
structure Carries (d : Device) (r : Request) (m m' : Machine) : Prop where
  /-- The disk is as healthy as before. -/
  healthy : d.Healthy m'
  /-- The bytes of the request are where they belong. -/
  remote : m'.window.memory
    = ((storeOf m).carryAll d.bounce d.config.remoteBase (d.pieces r)).remote
  /-- Its transfers are the last ones in the log. -/
  log : m'.transfers.toList = m.transfers.toList ++ (d.pieces r).map (Piece.transfer d.bounce)
  /-- It is counted. -/
  counters : m'.counters = d.charged m.rung m.counters r
  /-- The wire is the same. -/
  wire : m'.wire = m.wire

/-- **All counters of a request** that a healthy disk carried out. -/
theorem Healthy.charged {s' : Service} (healthy : d.Healthy m)
    (served : d.route.serve r { machine := m, phase := .started } = (.ok (.ok ()), s'))
    (moves : r.operation.direction? ≠ none) (accepted : d.inRange r = true) :
    s'.machine.counters = d.charged m.rung m.counters r := by
  have reaches := healthy.reaches accepted
  obtain ⟨direction, way⟩ := Option.ne_none_iff_exists'.mp moves
  have irqs := Route.serve_irqs (s := { machine := m, phase := .started }) healthy.prompt
    healthy.calm reaches (fun i _ => healthy.immediate i) served
  have way' : ∀ p ∈ r.pieces d.route, p.body.direction = direction := fun p hp =>
    Option.some.inj ((Route.direction_of_mem_pieces reaches.sized.1 hp).symm.trans way)
  have ends := Route.ends_completed (s := { machine := m, phase := .started }) healthy.prompt
    healthy.calm reaches way' (fun i _ => healthy.immediate i)
  have others := ends.counters
  rw [served] at others
  refine Counters.eq_of_withoutIrqs ?_ ?_
  · rw [others]
    unfold Device.charged
    rw [way]
    rfl
  · rw [irqs]
    rfl

/-- **A healthy disk carries out the requests it accepts.** -/
theorem Healthy.answer (healthy : d.Healthy m) (moves : r.operation.direction? ≠ none)
    (total : r.segments.totalBytes < Geometry.wordLimit) (accepted : d.inRange r = true) :
    (d.answer r m).1 = ⟨.ok .ok, .completed,
        r.buffersAfter ((storeOf m).carryAll d.bounce d.config.remoteBase (d.pieces r)).delivered⟩
      ∧ d.Carries r m (d.answer r m).2 := by
  have reaches := healthy.reaches accepted
  obtain ⟨s', served, phase, carried⟩ := Route.serve_carried
    (s := { machine := m, phase := .started }) healthy.prompt healthy.calm reaches
    (fun i _ => healthy.immediate i)
  have store := carried.store
  rw [healthy.base] at store
  have run : d.answer r m
      = (⟨.ok .ok, .completed, r.buffersAfter s'.store.delivered⟩, s'.machine) := by
    unfold Device.answer Serve.runOn
    rw [queue_apply, submit_accepted moves total accepted, served, ← phase]
    rfl
  rw [run, store]
  refine ⟨rfl, ?_⟩
  exact {
    healthy :=
      { healthy with
        prompt := carried.prompt healthy.prompt
        calm := carried.pending
        immediate := fun i => (carried.behaviorAt i).trans (healthy.immediate _)
        base := carried.window.1.trans healthy.base
        size := carried.window.2.trans healthy.size }
    remote := congrArg Store.remote store
    log := by
      rw [← Machine.transfers_bare, carried.bare,
        Machine.transfers_movedAll (Machine.hasEngine_bare.mpr healthy.prompt.hasEngine),
        Machine.transfers_bare]
      rfl
    counters := healthy.charged served moves accepted
    wire := (congrArg (fun m : Machine => m.wire) carried.fixed :) }

/-- **A disk that was just brought up on a bench** is healthy. -/
theorem onBench_healthy {config : Config} {m₀ m : Machine}
    (brought : onBench config m₀ = (.ok (.ok d), m)) (quiet : m₀.events = [])
    (done : config.doneMask ≠ 0) (errors : config.errorMask &&& config.doneMask = 0)
    (room : config.HasRoom)
    (apart : d.bounce.base.toNat + d.bounce.size ≤ config.remoteBase.toNat
      ∨ config.remoteBase.toNat + config.sizeBytes.toNat ≤ d.bounce.base.toNat) :
    d.config = config ∧ d.Healthy m := by
  obtain ⟨sound, rfl, mirrors⟩ := onBench_mirrors brought quiet done errors
  exact ⟨rfl, sound, room, apart, mirrors.prompt, mirrors.calm, mirrors.immediate, mirrors.base,
    mirrors.size⟩

end Device

end RemoteDisk
