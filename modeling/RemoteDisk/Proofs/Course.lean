import RemoteDisk.Proofs.Launch
import RemoteDisk.Proofs.Lines
import RemoteDisk.Proofs.Pieces

/-!
# The course of a request

Whatever the engine does and whenever interrupts arrive, a request takes one
of few courses: its pieces are moved one after another until all are moved,
or one fails, or the wait for one never ends. `Course` lists them, together
with what each leaves of the bare machine, and `moveAll_course` says that
there are no others. In particular no other fault can end a request whose
pieces are safe to move.
-/

namespace RemoteDisk

/-! ## What a transfer leaves of the bare machine -/

/-- The counter of a transfer that ended well. -/
def Direction.count : Direction → Counters → Counters
  | .read => Counters.countRead
  | .write => Counters.countWrite

/-- The counters of a transfer that failed: a timeout is counted twice. -/
def TransferError.count : TransferError → Counters → Counters
  | .timeout => fun c => c.countTimeout.countError
  | .engine _ => Counters.countError

/-- The transfer of a descriptor, as the engine is given it. -/
def Descriptor.transfer (d : Descriptor) : Transfer := ⟨d.source, d.destination, d.length⟩

/-- The transfer that moves a piece. -/
def Piece.transfer (bounce : Buffer) (p : Piece) : Transfer := (p.descriptor bounce).transfer

/-- The counters after `n` more transfers that ended well. -/
def Direction.counted (n : Nat) : Direction → Counters → Counters
  | .read, c => { c with reads := c.reads + UInt64.ofNat n }
  | .write, c => { c with writes := c.writes + UInt64.ofNat n }

/-- Counting nothing changes no counter. -/
theorem Direction.counted_zero (d : Direction) (c : Counters) : d.counted 0 c = c := by
  cases d with
  | read => exact congrArg (fun n => { c with reads := n }) (UInt64.add_zero c.reads)
  | write => exact congrArg (fun n => { c with writes := n }) (UInt64.add_zero c.writes)

/-- Counting transfers one by one is counting them together. -/
theorem Direction.counted_succ (d : Direction) (n : Nat) (c : Counters) :
    d.counted n (d.count c) = d.counted (n + 1) c := by
  have sum (x : UInt64) : x + 1 + UInt64.ofNat n = x + UInt64.ofNat (n + 1) := by
    rw [UInt64.ofNat_add, UInt64.add_assoc, UInt64.add_comm 1]
    rfl
  cases d with
  | read => exact congrArg (fun n => { c with reads := n }) (sum c.reads)
  | write => exact congrArg (fun n => { c with writes := n }) (sum c.writes)

/-- The counters without that of interrupts: those that requests write. -/
def Counters.withoutIrqs (c : Counters) : Counters := { c with irqs := 0 }

/-- What a request counts does not depend on the counter of interrupts. -/
theorem Direction.counted_withoutIrqs (d : Direction) (n : Nat) (c : Counters) :
    (d.counted n c).withoutIrqs = d.counted n c.withoutIrqs := by
  cases d <;> rfl

theorem TransferError.count_withoutIrqs (cause : TransferError) (c : Counters) :
    (cause.count c).withoutIrqs = cause.count c.withoutIrqs := by
  cases cause <;> rfl

namespace Machine

/-- The machine with one more flushed range. -/
def flushed (address : UInt64) (len : Nat) (m : Machine) : Machine :=
  { m with flushes := m.flushes.push ⟨address, len⟩ }

/-- A transfer that was started: its source is flushed and the engine has
noted it. -/
def issued (d : Descriptor) (m : Machine) : Machine :=
  (m.flushed d.source d.length.toNat).mapEngine (Engine.noted d.transfer)

/-- **A transfer that ended well**: its destination is flushed too, and it is
counted. -/
def moved (d : Descriptor) (m : Machine) : Machine :=
  ((m.issued d).flushed d.destination d.length.toNat).mapCounters d.direction.count

/-- **A transfer that failed**, which is counted. -/
def failed (d : Descriptor) (cause : TransferError) (m : Machine) : Machine :=
  (m.issued d).mapCounters cause.count

/-- **The machine without what transfers leave traces in**: the engine, the
flushed ranges and the counters. -/
def fixed (m : Machine) : Machine :=
  { m with
    controller := .recorder {}
    flushes := #[]
    counters := {} }

/-- Counting what became of a transfer is counting it in the bare machine. -/
theorem bare_count_direction (m : Machine) (d : Direction) :
    (m.mapCounters d.count).bare = m.bare.mapCounters d.count := by
  cases d <;> rfl

theorem bare_count_error (m : Machine) (cause : TransferError) :
    (m.mapCounters cause.count).bare = m.bare.mapCounters cause.count := by
  cases cause <;> rfl

/-- Starting a transfer counts nothing. -/
theorem counters_issued (d : Descriptor) (m : Machine) : (m.issued d).counters = m.counters := by
  rcases m with ⟨_ | _⟩ <;> rfl

theorem flushes_issued (d : Descriptor) (m : Machine) :
    (m.issued d).flushes = m.flushes.push ⟨d.source, d.length.toNat⟩ := by
  rcases m with ⟨_ | _⟩ <;> rfl

/-- A transfer leaves its traces in the engine, in the flushed ranges and in
the counters alone. -/
theorem fixed_issued (d : Descriptor) (m : Machine) : (m.issued d).fixed = m.fixed := by
  rcases m with ⟨_ | _⟩ <;> rfl

theorem counters_moved (d : Descriptor) (m : Machine) :
    (m.moved d).counters = d.direction.count m.counters :=
  congrArg d.direction.count (counters_issued d m)

theorem counters_failed (d : Descriptor) (cause : TransferError) (m : Machine) :
    (m.failed d cause).counters = cause.count m.counters :=
  congrArg cause.count (counters_issued d m)

/-- The log is part of the bare machine. -/
@[simp] theorem transfers_bare (m : Machine) : m.bare.transfers = m.transfers := by
  rcases m with ⟨_ | _⟩ <;> rfl

theorem flushes_bare (m : Machine) : m.bare.flushes = m.flushes := rfl

namespace HasEngine

variable {m : Machine} (d : Descriptor)

/-- The engine of a machine on which a transfer was started. -/
theorem controller_issued {e : Engine} (engine : m.controller = .engine e) :
    (m.issued d).controller = .engine (e.noted d.transfer) :=
  controller_mapEngine (m := m.flushed d.source d.length.toNat) engine _

theorem issued (h : m.HasEngine) : (m.issued d).HasEngine := by
  obtain ⟨e, engine⟩ := h
  exact ⟨_, controller_issued d engine⟩

theorem moved (h : m.HasEngine) : (m.moved d).HasEngine := h.issued d

/-- **A transfer that was started is the last one in the log.** -/
theorem transfers_issued (h : m.HasEngine) :
    (m.issued d).transfers.toList = m.transfers.toList ++ [d.transfer] := by
  obtain ⟨e, engine⟩ := h
  unfold transfers engine?
  rw [controller_issued d engine, engine]
  exact Array.toList_push

end HasEngine

end Machine

open Op

/-- **A flush notes its range** and comes to its end. -/
theorem Act.flush_apply {address : UInt64} {len : Nat}
    (h : CacheLine.overruns address len = false) (m : Machine) :
    flush address len m = (.ok (), m.flushed address len) := by
  unfold flush
  rw [bind_ok (modify_apply _ m), h]
  rfl

namespace Descriptor

variable {d : Descriptor} {m : Machine} {e : Engine}

/-- A transfer is launched after its source was flushed. -/
theorem begin_apply (source : CacheLine.overruns d.source d.length.toNat = false)
    (m : Machine) :
    d.begin m = Act.launch d.source d.destination d.length (m.flushed d.source d.length.toNat) := by
  unfold begin
  exact bind_ok (Act.flush_apply source m)

/-- **Starting a transfer** flushes its source and adds it to the log. -/
theorem begin_bare (engine : m.controller = .engine e)
    (source : CacheLine.overruns d.source d.length.toNat = false)
    (short : d.length.toNat ≤ Engine.longestBuffer) :
    ∃ m', d.begin m = (.ok (), m') ∧ m'.bare = m.bare.issued d := by
  have engine' : (m.flushed d.source d.length.toNat).controller = .engine e := engine
  obtain ⟨m', run, bare⟩ := Act.launch_bare (t := d.transfer) engine' short
  exact ⟨m', (begin_apply source m).trans run, bare⟩

/-- A transfer that ended well is flushed and counted. -/
theorem succeed_apply (destination : CacheLine.overruns d.destination d.length.toNat = false)
    (m : Machine) :
    d.succeed m
      = (.ok (), (m.flushed d.destination d.length.toNat).mapCounters d.direction.count) := by
  unfold succeed
  rw [bind_ok (Act.flush_apply destination m)]
  cases d.direction <;> rfl

/-- A transfer that failed is counted and reported. -/
theorem fail_apply (d : Descriptor) (ms : UInt64) (cause : TransferError) (m : Machine) :
    ∃ journal, d.fail ms cause m = (.ok (), { m.mapCounters cause.count with journal }) := by
  cases cause with
  | timeout => exact ⟨_, rfl⟩
  | engine status => exact ⟨_, rfl⟩

/-- What follows a wait that ended well. -/
theorem finish_of_ok {m' : Machine} {ms : UInt64} (waited : Act.wait ms m = (.ok (.ok ()), m'))
    (destination : CacheLine.overruns d.destination d.length.toNat = false) :
    d.finish ms m = (.ok (.ok ()),
      (m'.flushed d.destination d.length.toNat).mapCounters d.direction.count) := by
  unfold finish
  rw [bind_ok waited]
  exact bind_ok (d.succeed_apply destination m')

/-- What follows a wait that failed. -/
theorem finish_of_error {m' : Machine} {ms : UInt64} {cause : TransferError}
    (waited : Act.wait ms m = (.ok (.error cause), m')) :
    ∃ journal, d.finish ms m
      = (.ok (.error cause), { m'.mapCounters cause.count with journal }) := by
  obtain ⟨journal, run⟩ := d.fail_apply ms cause m'
  refine ⟨journal, ?_⟩
  unfold finish
  rw [bind_ok waited]
  exact bind_ok run

/-- **How a wait for a transfer can end**: well, with a failure, or never. -/
theorem finish_bare (destination : CacheLine.overruns d.destination d.length.toNat = false)
    (ms : UInt64) (m : Machine) :
    (∃ m', d.finish ms m = (.ok (.ok ()), m')
        ∧ m'.bare = (m.bare.flushed d.destination d.length.toNat).mapCounters d.direction.count)
      ∨ (∃ cause m', d.finish ms m = (.ok (.error cause), m')
        ∧ m'.bare = m.bare.mapCounters cause.count)
      ∨ (∃ m', d.finish ms m = (.error .endless, m') ∧ m'.bare = m.bare) := by
  obtain ⟨bare, ends⟩ := Act.keeps_wait ms m
  rcases waited : Act.wait ms m with ⟨fault | cause | _, m'⟩
  all_goals rw [waited] at bare ends
  · cases ends fault rfl
    exact .inr (.inr ⟨m', bind_error waited, bare⟩)
  · obtain ⟨journal, run⟩ := finish_of_error (d := d) waited
    refine .inr (.inl ⟨cause, _, run, ?_⟩)
    rw [← bare]
    exact m'.bare_count_error cause
  · refine .inl ⟨_, finish_of_ok waited destination, ?_⟩
    rw [Machine.bare_count_direction, ← bare]
    rfl

end Descriptor

/-! ## What a request leaves of it -/

/-- An operation on the machine alone changes the machine alone. -/
theorem Serve.ofAct_apply {α : Type} (act : Act α) (s : Service) :
    Serve.ofAct act s = ((act s.machine).1, { s with machine := (act s.machine).2 }) := rfl

/-- **A sequence of attempts** ends with the first one that fails. -/
theorem Attempt.bind_apply {α β : Type} (x : Attempt α) (f : α → Attempt β) (s : Service) :
    (x >>= f) s = match x s with
      | (.ok (.ok v), s') => f v s'
      | (.ok (.error cause), s') => (.ok (.error cause), s')
      | (.error fault, s') => (.error fault, s') := by
  refine (Op.bind_apply (σ := Service) x (ExceptT.bindCont f) s).trans ?_
  rcases x s with ⟨_ | _ | _, _⟩ <;> rfl

/-- An attempt after a first part that ended well. -/
theorem Attempt.bind_ok {α β : Type} {x : Attempt α} {f : α → Attempt β} {s s' : Service} {v : α}
    (h : x s = (.ok (.ok v), s')) : (x >>= f) s = f v s' := by
  rw [bind_apply, h]

/-- An attempt after a first part that failed. -/
theorem Attempt.bind_failed {α β : Type} {x : Attempt α} {f : α → Attempt β} {s s' : Service}
    {cause : TransferError} (h : x s = (.ok (.error cause), s')) :
    (x >>= f) s = (.ok (.error cause), s') := by
  rw [bind_apply, h]

/-- An attempt after a first part that ended in a fault. -/
theorem Attempt.bind_fault {α β : Type} {x : Attempt α} {f : α → Attempt β} {s s' : Service}
    {fault : Fault} (h : x s = (.error fault, s')) : (x >>= f) s = (.error fault, s') := by
  rw [bind_apply, h]

/-- **Bytes that fit the buffer are staged** at its start. -/
theorem Buffer.stage_apply {b : Buffer} {data : ByteArray} (h : data.size ≤ b.size)
    (s : Service) :
    Attempt.ofAct (b.stage data) s
      = (.ok (.ok ()), { s with machine :=
          { s.machine with memory := s.machine.memory.write b.base.toNat data } }) := by
  unfold stage
  rw [if_pos h]
  rfl

/-- **Bytes that the buffer has are taken** from its start. -/
theorem Buffer.unstage_apply {b : Buffer} {len : Nat} (h : len ≤ b.size) (s : Service) :
    Attempt.ofAct (b.unstage len) s
      = (.ok (.ok (s.machine.memory.read b.base.toNat len)), s) := by
  unfold unstage
  rw [if_pos h]
  rfl

/-- **A piece whose ranges can be flushed**: both end a line below the top of
the address space. -/
structure Piece.Flushable (bounce : Buffer) (p : Piece) : Prop where
  /-- The bounce buffer's side does. -/
  nearby : bounce.base.toNat + p.size + Geometry.lineSize ≤ Geometry.wordLimit
  /-- The disk's side does. -/
  remote : p.remote + p.size + Geometry.lineSize ≤ Geometry.wordLimit

/-- **A piece that can be moved without leaving any bounds**: it fits the
bounce buffer and every other buffer, and both its ranges end a line below
the top of the address space. -/
structure Piece.Safe (bounce : Buffer) (p : Piece) : Prop where
  /-- There is something to be moved. -/
  pos : 0 < p.size
  /-- It fits the bounce buffer. -/
  held : p.size ≤ bounce.size
  /-- It fits a buffer. -/
  short : p.size ≤ Engine.longestBuffer
  /-- The bounce buffer's side ends below the topmost line. -/
  nearby : bounce.base.toNat + p.size + Geometry.lineSize ≤ Geometry.wordLimit
  /-- The disk's side ends below the topmost line. -/
  remote : p.remote + p.size + Geometry.lineSize ≤ Geometry.wordLimit

namespace Piece

variable {bounce : Buffer} {p : Piece}

/-- The length a piece is moved with is its own. -/
theorem Flushable.length (h : p.Flushable bounce) :
    (p.descriptor bounce).length.toNat = p.size := by
  refine UInt64.toNat_ofNat_of_lt' ?_
  have := h.remote
  unfold Geometry.lineSize Geometry.wordLimit at this
  show p.size < 2 ^ 64
  omega

/-- The bus address a piece is moved to or from is its own. -/
theorem Flushable.address (h : p.Flushable bounce) :
    (p.descriptor bounce).remote.toNat = p.remote := by
  refine UInt64.toNat_ofNat_of_lt' ?_
  have := h.remote
  unfold Geometry.lineSize Geometry.wordLimit at this
  show p.remote < 2 ^ 64
  omega

theorem Safe.flushable (safe : p.Safe bounce) : p.Flushable bounce := ⟨safe.nearby, safe.remote⟩

theorem Safe.length (safe : p.Safe bounce) : (p.descriptor bounce).length.toNat = p.size :=
  safe.flushable.length

theorem Safe.address (safe : p.Safe bounce) : (p.descriptor bounce).remote.toNat = p.remote :=
  safe.flushable.address

/-- The lines of both ranges of a safe piece can be walked to their end. -/
theorem Safe.walks (safe : p.Safe bounce) :
    CacheLine.overruns (p.descriptor bounce).source p.size = false
      ∧ CacheLine.overruns (p.descriptor bounce).destination p.size = false := by
  have nearby : CacheLine.overruns bounce.base p.size = false :=
    CacheLine.overruns_eq_false safe.nearby
  have remote : CacheLine.overruns (p.descriptor bounce).remote p.size = false :=
    CacheLine.overruns_eq_false (by rw [safe.address]; exact safe.remote)
  unfold Descriptor.source Descriptor.destination
  cases (p.descriptor bounce).direction with
  | read => exact ⟨remote, nearby⟩
  | write => exact ⟨nearby, remote⟩

end Piece

/-- The ranges that are flushed when a piece is moved. -/
def Piece.flushes (bounce : Buffer) (p : Piece) : List Flush :=
  let d := p.descriptor bounce
  [⟨d.source, d.length.toNat⟩, ⟨d.destination, d.length.toNat⟩]

/-- The machine after the transfers of some pieces ended well, one after
another. -/
def Machine.movedAll (bounce : Buffer) (ps : List Piece) (m : Machine) : Machine :=
  ps.foldl (fun m p => m.moved (p.descriptor bounce)) m

namespace Machine

variable {m : Machine} {bounce : Buffer} {ps : List Piece} {direction : Direction}

theorem HasEngine.movedAll (engine : m.HasEngine) : (m.movedAll bounce ps).HasEngine := by
  induction ps generalizing m with
  | nil => exact engine
  | cons p ps ih => exact ih (engine.moved _)

/-- **Pieces that were moved are in the log**, in order. -/
theorem transfers_movedAll (engine : m.HasEngine) :
    (m.movedAll bounce ps).transfers.toList
      = m.transfers.toList ++ ps.map (Piece.transfer bounce) := by
  induction ps generalizing m with
  | nil => exact (List.append_nil _).symm
  | cons p ps ih =>
    have first : (m.moved (p.descriptor bounce)).transfers.toList
        = m.transfers.toList ++ [p.transfer bounce] := engine.transfers_issued _
    refine (ih (engine.moved _)).trans ?_
    rw [first, List.append_assoc, List.singleton_append, List.map_cons]

/-- **Pieces that were moved are counted**, each in its direction. -/
theorem counters_movedAll {direction : Direction} (way : ∀ p ∈ ps, p.body.direction = direction) :
    (m.movedAll bounce ps).counters = direction.counted ps.length m.counters := by
  induction ps generalizing m with
  | nil => exact (direction.counted_zero _).symm
  | cons p ps ih =>
    have first : (m.moved (p.descriptor bounce)).counters = direction.count m.counters := by
      rw [counters_moved, ← way p List.mem_cons_self]
      rfl
    refine (ih (fun q hq => way q (List.mem_cons_of_mem p hq))).trans ?_
    rw [first, direction.counted_succ, List.length_cons]

/-- **Pieces that were moved were flushed**, each at its source before it was moved and at its
destination after that. -/
theorem flushes_movedAll :
    (m.movedAll bounce ps).flushes.toList
      = m.flushes.toList ++ ps.flatMap (Piece.flushes bounce) := by
  induction ps generalizing m with
  | nil => exact (List.append_nil _).symm
  | cons p ps ih =>
    have first : (m.moved (p.descriptor bounce)).flushes.toList
        = m.flushes.toList ++ p.flushes bounce := by
      show ((m.issued (p.descriptor bounce)).flushes.push _).toList = _
      rw [flushes_issued, Array.toList_push, Array.toList_push, List.append_assoc]
      rfl
    refine (ih (m := m.moved (p.descriptor bounce))).trans ?_
    rw [first, List.append_assoc, List.flatMap_cons]

/-- Of pieces that go the same way, those before the `k`-th are counted `k`. -/
theorem counters_movedAll_take (way : ∀ p ∈ ps, p.body.direction = direction) {k : Nat}
    (hk : k < ps.length) :
    (m.movedAll bounce (ps.take k)).counters = direction.counted k m.counters := by
  have way' : ∀ p ∈ ps.take k, p.body.direction = direction :=
    fun p hp => way p (List.mem_of_mem_take hp)
  rw [counters_movedAll way', List.length_take_of_le (Nat.le_of_lt hk)]

/-- **A piece that was started after others were moved** is the last one in
the log. -/
theorem transfers_issued_movedAll (bounce : Buffer) (engine : m.HasEngine) {k : Nat}
    (hk : k < ps.length) :
    ((m.movedAll bounce (ps.take k)).issued (ps[k].descriptor bounce)).transfers.toList
      = m.transfers.toList ++ (ps.take (k + 1)).map (Piece.transfer bounce) := by
  rw [engine.movedAll.transfers_issued, transfers_movedAll engine, List.append_assoc,
    List.take_succ_eq_append_getElem hk, List.map_append]
  rfl

theorem fixed_movedAll : (m.movedAll bounce ps).fixed = m.fixed := by
  induction ps generalizing m with
  | nil => rfl
  | cons p ps ih => exact (ih (m := m.moved (p.descriptor bounce))).trans (fixed_issued _ m)

end Machine

/-- **The courses a list of pieces can take**, with what each leaves of the
bare machine. -/
inductive Course (bounce : Buffer) :
    List Piece → Machine → Except Fault (Except TransferError Unit) → Machine → Prop
  /-- Nothing is left to be moved. -/
  | done (m : Machine) : Course bounce [] m (.ok (.ok ())) m
  /-- The first piece was moved. -/
  | moved {p : Piece} {ps : List Piece} {m m' : Machine}
      {r : Except Fault (Except TransferError Unit)}
      (rest : Course bounce ps (m.moved (p.descriptor bounce)) r m') :
      Course bounce (p :: ps) m r m'
  /-- The first piece failed. -/
  | failed (p : Piece) (ps : List Piece) (m : Machine) (cause : TransferError) :
      Course bounce (p :: ps) m (.ok (.error cause)) (m.failed (p.descriptor bounce) cause)
  /-- The wait for the first piece does not end. -/
  | endless (p : Piece) (ps : List Piece) (m : Machine) :
      Course bounce (p :: ps) m (.error .endless) (m.issued (p.descriptor bounce))

namespace Course

variable {bounce : Buffer} {ps : List Piece} {m m' : Machine} {direction : Direction}
  {r : Except Fault (Except TransferError Unit)}

/-- A course never loses the engine. -/
theorem hasEngine (c : Course bounce ps m r m') (engine : m.HasEngine) : m'.HasEngine := by
  induction c with
  | done => exact engine
  | moved _ ih => exact ih (engine.moved _)
  | failed p ps m cause => exact engine.issued _
  | endless p ps m => exact engine.issued _

/-- **Where a course ends**: behind all pieces, or at one of them, which fails
or is waited for without end after those before it were moved. -/
theorem ends (c : Course bounce ps m r m') :
    (r = .ok (.ok ()) ∧ m' = m.movedAll bounce ps)
      ∨ ∃ (k : Nat) (hk : k < ps.length),
        (∃ cause, r = .ok (.error cause)
          ∧ m' = (m.movedAll bounce (ps.take k)).failed (ps[k].descriptor bounce) cause)
        ∨ r = .error .endless
          ∧ m' = (m.movedAll bounce (ps.take k)).issued (ps[k].descriptor bounce) := by
  induction c with
  | done m => exact .inl ⟨rfl, rfl⟩
  | moved _ ih =>
    -- behind a piece that was moved, the `k`-th is one place further on
    rcases ih with ⟨well, last⟩ | ⟨k, hk, stops⟩
    · exact .inl ⟨well, last⟩
    · exact .inr ⟨k + 1, Nat.succ_lt_succ hk, stops⟩
  | failed p ps m cause => exact .inr ⟨0, Nat.zero_lt_succ _, .inl ⟨cause, rfl, rfl⟩⟩
  | endless p ps m => exact .inr ⟨0, Nat.zero_lt_succ _, .inr ⟨rfl, rfl⟩⟩

/-- **What a course amounts to.** Either all pieces were moved, or some were,
and the next one failed or is still waited for; what was moved is counted in
its direction, and the log tells of every piece that was started. -/
theorem account (c : Course bounce ps m r m') (engine : m.HasEngine)
    (way : ∀ p ∈ ps, p.body.direction = direction) :
    (r = .ok (.ok ()) ∧ m'.counters = direction.counted ps.length m.counters
        ∧ m'.transfers.toList = m.transfers.toList ++ ps.map (Piece.transfer bounce))
      ∨ ∃ k < ps.length,
        m'.transfers.toList = m.transfers.toList ++ (ps.take (k + 1)).map (Piece.transfer bounce)
        ∧ ((∃ cause, r = .ok (.error cause)
            ∧ m'.counters = cause.count (direction.counted k m.counters))
          ∨ r = .error .endless ∧ m'.counters = direction.counted k m.counters) := by
  rcases c.ends with ⟨rfl, rfl⟩ | ⟨k, hk, ⟨cause, rfl, rfl⟩ | ⟨rfl, rfl⟩⟩
  · exact .inl ⟨rfl, Machine.counters_movedAll way, Machine.transfers_movedAll engine⟩
  · refine .inr ⟨k, hk, Machine.transfers_issued_movedAll bounce engine hk, .inl ⟨cause, rfl, ?_⟩⟩
    rw [Machine.counters_failed, Machine.counters_movedAll_take way hk]
  · refine .inr ⟨k, hk, Machine.transfers_issued_movedAll bounce engine hk, .inr ⟨rfl, ?_⟩⟩
    rw [Machine.counters_issued, Machine.counters_movedAll_take way hk]

end Course

namespace Route

variable {route : Route} {p : Piece}

/-- A chunk that was started is waited for. -/
theorem move_apply {d : Descriptor} {s : Service} {m : Machine}
    (began : d.begin s.machine = (.ok (), m)) :
    route.move d s = ((d.finish route.timeoutMs m).1,
      ⟨(d.finish route.timeoutMs m).2, .waiting, s.delivered⟩) := by
  have first : Serve.ofAct d.begin ⟨s.machine, .transferring, s.delivered⟩
      = (.ok (), ⟨m, .transferring, s.delivered⟩) := by
    rw [Serve.ofAct_apply, began]
  exact bind_ok first

/-- **Bytes to be written are staged** before they are moved. -/
theorem movePiece_source {remote offset : Nat} {data : ByteArray}
    (held : data.size ≤ route.bounce.size) (s : Service) :
    route.movePiece ⟨remote, offset, .source data⟩ s
      = route.move (Piece.descriptor route.bounce ⟨remote, offset, .source data⟩) { s with
          phase := .staging
          machine := { s.machine with
            memory := s.machine.memory.write route.bounce.base.toNat data } } := by
  refine (Attempt.bind_ok (x := Attempt.enter .staging) rfl).trans ?_
  exact Attempt.bind_ok (Buffer.stage_apply held _)

/-- **Bytes that were read are taken** after they were moved, and put into their
buffer. -/
theorem movePiece_sink {remote offset buffer size : Nat} {s s' : Service}
    (held : size ≤ route.bounce.size)
    (moved : route.move (Piece.descriptor route.bounce ⟨remote, offset, .sink buffer size⟩) s
      = (.ok (.ok ()), s')) :
    route.movePiece ⟨remote, offset, .sink buffer size⟩ s = (.ok (.ok ()), { s' with
      delivered := s'.delivered
        ++ [⟨buffer, offset, s'.machine.memory.read route.bounce.base.toNat size⟩] }) := by
  refine (Attempt.bind_ok moved).trans ?_
  refine (Attempt.bind_ok (Buffer.unstage_apply held s')).trans ?_
  rfl

/-- **How moving a chunk can end.** -/
theorem move_bare (safe : p.Safe route.bounce) (s : Service) (engine : s.machine.HasEngine) :
    let d := p.descriptor route.bounce
    (∃ s', route.move d s = (.ok (.ok ()), s') ∧ s'.machine.bare = s.machine.bare.moved d)
      ∨ (∃ cause s', route.move d s = (.ok (.error cause), s')
        ∧ s'.machine.bare = s.machine.bare.failed d cause)
      ∨ (∃ s', route.move d s = (.error .endless, s')
        ∧ s'.machine.bare = s.machine.bare.issued d) := by
  intro d
  have walks := safe.walks
  rw [← safe.length] at walks
  obtain ⟨e, engine⟩ := engine
  obtain ⟨m₁, started, issued⟩ := Descriptor.begin_bare (d := d) engine walks.1
    (by rw [safe.length]; exact safe.short)
  rw [move_apply started]
  rcases Descriptor.finish_bare (d := d) walks.2 route.timeoutMs m₁ with
    ⟨m', ended, bare⟩ | ⟨cause, m', ended, bare⟩ | ⟨m', ended, bare⟩
  all_goals rw [ended, issued] at *
  · exact .inl ⟨_, rfl, bare⟩
  · exact .inr (.inl ⟨cause, _, rfl, bare⟩)
  · exact .inr (.inr ⟨_, rfl, bare⟩)

/-- **How moving a piece can end**: staging before and taking bytes out
after it leave the bare machine. -/
theorem movePiece_bare (safe : p.Safe route.bounce) (s : Service) (engine : s.machine.HasEngine) :
    let d := p.descriptor route.bounce
    (∃ s', route.movePiece p s = (.ok (.ok ()), s')
        ∧ s'.machine.bare = s.machine.bare.moved d)
      ∨ (∃ cause s', route.movePiece p s = (.ok (.error cause), s')
        ∧ s'.machine.bare = s.machine.bare.failed d cause)
      ∨ (∃ s', route.movePiece p s = (.error .endless, s')
        ∧ s'.machine.bare = s.machine.bare.issued d) := by
  intro d
  rcases p with ⟨remote, offset, ⟨buffer, size⟩ | data⟩
  · rcases move_bare safe s engine with
      ⟨s', ended, bare⟩ | ⟨cause, s', ended, bare⟩ | ⟨s', ended, bare⟩
    · exact .inl ⟨_, movePiece_sink safe.held ended, bare⟩
    · exact .inr (.inl ⟨cause, s', Attempt.bind_failed ended, bare⟩)
    · exact .inr (.inr ⟨s', Attempt.bind_fault ended, bare⟩)
  · rw [movePiece_source safe.held]
    exact move_bare safe _ engine

/-- A piece that was moved is accounted for in the bare machine. -/
theorem bare_of_moved {s s' : Service} (safe : p.Safe route.bounce) (engine : s.machine.HasEngine)
    (run : route.movePiece p s = (.ok (.ok ()), s')) :
    s'.machine.bare = s.machine.bare.moved (p.descriptor route.bounce) := by
  rcases movePiece_bare safe s engine with ⟨_, ended, bare⟩ | ⟨_, _, ended, -⟩ | ⟨_, ended, -⟩
  all_goals cases run.symm.trans ended
  exact bare

/-- A piece that failed is accounted for in the bare machine. -/
theorem bare_of_failed {s s' : Service} {cause : TransferError} (safe : p.Safe route.bounce)
    (engine : s.machine.HasEngine) (run : route.movePiece p s = (.ok (.error cause), s')) :
    s'.machine.bare = s.machine.bare.failed (p.descriptor route.bounce) cause := by
  rcases movePiece_bare safe s engine with ⟨_, ended, -⟩ | ⟨_, _, ended, bare⟩ | ⟨_, ended, -⟩
  all_goals cases run.symm.trans ended
  exact bare

/-- **Moving pieces takes one of the courses**, whatever the engine does and
whatever happens during the waits. -/
theorem moveAll_course {ps : List Piece} (safe : ∀ p ∈ ps, p.Safe route.bounce) (s : Service)
    (engine : s.machine.HasEngine) :
    Course route.bounce ps s.machine.bare (route.moveAll ps s).1
      (route.moveAll ps s).2.machine.bare := by
  induction ps generalizing s with
  | nil => exact .done _
  | cons p ps ih =>
    have first := safe p List.mem_cons_self
    have others := fun q hq => safe q (List.mem_cons_of_mem p hq)
    rw [moveAll]
    -- only a piece that was moved lets the others start
    rcases movePiece_bare first s engine with
      ⟨s', ended, bare⟩ | ⟨cause, s', ended, bare⟩ | ⟨s', ended, bare⟩
    · have engine' : s'.machine.HasEngine := by
        rw [← Machine.hasEngine_bare, bare]
        exact (Machine.hasEngine_bare.mpr engine).moved _
      rw [Attempt.bind_ok ended]
      have rest := ih others s' engine'
      rw [bare] at rest
      exact .moved rest
    · rw [Attempt.bind_failed ended, bare]
      exact .failed p ps _ cause
    · rw [Attempt.bind_fault ended, bare]
      exact .endless p ps _

/-- **Serving a request** is moving its pieces, after which it is completed or
failed; one that ends in a fault stays in the phase it was in. -/
theorem serve_apply {r : Request} (fits : route.Fits r.sector.toNat r.segments.toList)
    (s : Service) :
    route.serve r s =
      match route.moveAll (route.pieces r.sector.toNat r.segments.toList)
          { s with machine := s.machine.report .trace ("[OMNI] request " ++ r.text) } with
      | (.ok (.ok ()), s') => (.ok (.ok ()), { s' with phase := .completed })
      | (.ok (.error cause), s') => (.ok (.error cause), { s' with phase := .failed })
      | (.error fault, s') => (.error fault, s') := by
  unfold serve
  rw [serveSegments_eq fits]
  have announced : Serve.ofAct (Act.report .trace ("[OMNI] request " ++ r.text)) s
      = (.ok (), { s with machine := s.machine.report .trace ("[OMNI] request " ++ r.text) }) := rfl
  refine (bind_ok announced).trans ((bind_apply _ _ _).trans ?_)
  unfold ExceptT.run
  rcases route.moveAll (route.pieces r.sector.toNat r.segments.toList)
    { s with machine := s.machine.report .trace ("[OMNI] request " ++ r.text) } with
    ⟨_ | _ | _, _⟩ <;> rfl

/-- **Serving a request takes one of the courses of its pieces.** -/
theorem serve_course {r : Request} (fits : route.Fits r.sector.toNat r.segments.toList)
    (safe : ∀ p ∈ route.pieces r.sector.toNat r.segments.toList, p.Safe route.bounce)
    (s : Service) (engine : s.machine.HasEngine) :
    Course route.bounce (route.pieces r.sector.toNat r.segments.toList) s.machine.bare
      (route.serve r s).1 (route.serve r s).2.machine.bare := by
  have course := moveAll_course safe
    { s with machine := s.machine.report .trace ("[OMNI] request " ++ r.text) } engine
  rw [serve_apply fits]
  revert course
  rcases route.moveAll (route.pieces r.sector.toNat r.segments.toList)
    { s with machine := s.machine.report .trace ("[OMNI] request " ++ r.text) } with
    ⟨_ | _ | _, _⟩ <;> exact fun course => course

end Route

end RemoteDisk
