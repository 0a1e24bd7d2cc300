import RemoteDisk.Command.Run
import RemoteDisk.Proofs.Copies

/-!
# What a start does

A start of an engine that is free is told here in full, for every transfer that
can be described to it and every behaviour that puts nothing off
(`Act.start_exact`): what is noted in the log, what the status register shows,
which bytes are where, and who is called when.

Which ranges can be reached is said without the engine's own search for them
(`Window.Admits`). A copy takes the bytes of its source as they were before it,
so it does not matter whether the ranges overlap, nor on which side of the window
they lie (`Machine.Moved`).
-/

namespace RemoteDisk

open Op

/-! ## Ranges -/

namespace Window

variable {w : Window} {address : UInt64} {len : Nat} {t : Transfer}

/-- **A range starts inside the window.** -/
def Starts (w : Window) (address : UInt64) : Prop :=
  w.base.toNat ≤ address.toNat ∧ address.toNat < w.base.toNat + w.size

instance (w : Window) (address : UInt64) : Decidable (w.Starts address) :=
  inferInstanceAs (Decidable (_ ∧ _))

/-- **A range that can be reached**: it does not pass the end of the window where
it starts inside, and elsewhere it does not start at zero. -/
def Admits (w : Window) (address : UInt64) (len : Nat) : Prop :=
  (w.Starts address → address.toNat + len ≤ w.base.toNat + w.size)
    ∧ (¬w.Starts address → address ≠ 0)

instance (w : Window) (address : UInt64) (len : Nat) : Decidable (w.Admits address len) :=
  inferInstanceAs (Decidable (_ ∧ _))

/-- **A range of local memory lies apart from the window.** -/
def Apart (w : Window) (address : UInt64) (len : Nat) : Prop :=
  ¬w.Starts address → address ≠ 0 →
    address.toNat + len ≤ w.base.toNat ∨ w.base.toNat + w.size ≤ address.toNat

/-- Both ranges of a transfer can be reached. -/
def Reachable (w : Window) (t : Transfer) : Prop :=
  w.Admits t.source t.length.toNat ∧ w.Admits t.destination t.length.toNat

instance (w : Window) (t : Transfer) : Decidable (w.Reachable t) :=
  inferInstanceAs (Decidable (_ ∧ _))

/-- The engine finds a range that starts inside the window there, or nowhere. -/
theorem locate_of_starts (starts : w.Starts address) (len : Nat) : w.locate address len
    = if address.toNat + len ≤ w.base.toNat + w.size then .remote (address.toNat - w.base.toNat)
      else .invalid := by
  obtain ⟨low, high⟩ := starts
  unfold locate
  rw [if_pos ⟨UInt64.le_iff_toNat_le.mpr low, by omega⟩]
  dsimp only
  congr 1
  exact propext ⟨fun fits => by omega, fun fits => by omega⟩

/-- The engine finds a range that starts outside the window in local memory. -/
theorem locate_of_not_starts (outside : ¬w.Starts address) (len : Nat) :
    w.locate address len = if address = 0 then .invalid else .nearby address.toNat := by
  unfold locate
  rw [if_neg]
  rintro ⟨low, high⟩
  have low := UInt64.le_iff_toNat_le.mp low
  exact outside ⟨low, by omega⟩

/-- **A range is found where it can be reached.** -/
theorem locate_ne_invalid : w.locate address len ≠ .invalid ↔ w.Admits address len := by
  unfold Admits
  by_cases starts : w.Starts address
  · rw [locate_of_starts starts]
    by_cases fits : address.toNat + len ≤ w.base.toNat + w.size <;> simp [starts, fits]
  · rw [locate_of_not_starts starts]
    by_cases zero : address = 0
    · rw [if_pos zero]
      exact iff_of_false (not_not_intro rfl) fun h => h.2 starts zero
    · rw [if_neg zero]
      exact iff_of_true Target.noConfusion ⟨fun inside => absurd inside starts, fun _ => zero⟩

/-- The engine can tell which transfers it can carry out. -/
theorem reaches_eq (w : Window) (t : Transfer) : w.reaches t = decide (w.Reachable t) :=
  decide_eq_decide.mpr (and_congr locate_ne_invalid locate_ne_invalid)

end Window

/-! ## Bytes that are moved -/

namespace Machine

variable {m m' m'' : Machine} {t : Transfer} {address : UInt64} {n : Nat}

/-- **The bytes of a transfer are moved**: its destination holds what its source
held, and every other byte of either memory is as before. -/
structure Moved (m : Machine) (t : Transfer) (m' : Machine) : Prop where
  held : ∀ j < t.length.toNat, m'.bus (t.destination.toNat + j) = m.bus (t.source.toNat + j)
  /-- Bytes of local memory outside the destination. -/
  nearby : ∀ b, (m.window.Starts t.destination ∨ b < t.destination.toNat
      ∨ t.destination.toNat + t.length.toNat ≤ b) →
    m'.memory.byte b = m.memory.byte b
  /-- Bytes of the window outside the destination. -/
  remote : ∀ b, (¬m.window.Starts t.destination ∨ m.window.base.toNat + b < t.destination.toNat
      ∨ t.destination.toNat + t.length.toNat ≤ m.window.base.toNat + b) →
    m'.window.memory.byte b = m.window.memory.byte b
  /-- The window stays where it is. -/
  base : m'.window.base = m.window.base
  size : m'.window.size = m.window.size

/-- Whether bytes are moved is a matter of the memories they are moved to. -/
theorem Moved.congr (h : m.Moved t m') (memory : m''.memory = m'.memory)
    (window : m''.window = m'.window) : m.Moved t m'' where
  held := by
    unfold bus
    rw [memory, window]
    exact h.held
  nearby := by
    rw [memory]
    exact h.nearby
  remote := by
    rw [window]
    exact h.remote
  base := window ▸ h.base
  size := window ▸ h.size

/-- **Bytes that are fetched** from a range that can be reached are those of the bus. -/
theorem fetch_locate (admits : m.window.Admits address n) (apart : m.window.Apart address n) :
    (m.fetch (m.window.locate address n) n).data.toList
      = (List.range n).map fun j => m.bus (address.toNat + j) := by
  by_cases starts : m.window.Starts address
  · have fits := admits.1 starts
    rw [Window.locate_of_starts starts, if_pos fits]
    refine (m.window.memory.toList_read _ n).trans (List.map_congr_left fun j hj => ?_)
    have bound := List.mem_range.mp hj
    have low := starts.1
    unfold bus
    rw [if_pos ⟨by omega, by omega⟩, Nat.sub_add_comm low]
  · have apart := apart starts (admits.2 starts)
    rw [Window.locate_of_not_starts starts, if_neg (admits.2 starts)]
    refine (m.memory.toList_read _ n).trans (List.map_congr_left fun j hj => ?_)
    have bound := List.mem_range.mp hj
    unfold bus
    rw [if_neg (by omega)]

/-- **Bytes that are stored** in a range that can be reached are moved there, where they are
those of the transfer's source. -/
theorem moved_store (admits : m.window.Admits t.destination t.length.toNat)
    (apart : m.window.Apart t.destination t.length.toNat) {data : ByteArray}
    (bytes : data.data.toList
      = (List.range t.length.toNat).map fun j => m.bus (t.source.toNat + j)) :
    m.Moved t (m.store (m.window.locate t.destination t.length.toNat) data) := by
  by_cases starts : m.window.Starts t.destination
  · have fits := admits.1 starts
    have low := starts.1
    rw [Window.locate_of_starts starts, if_pos fits]
    have written : (m.window.memory.write (t.destination.toNat - m.window.base.toNat) data).byte
        = _ := Memory.write_eq_lay bytes
    refine ⟨fun j hj => ?_, fun b _ => rfl, fun b outside => ?_, rfl, rfl⟩
    · unfold bus store
      dsimp only
      rw [if_pos ⟨by omega, by omega⟩, written, Nat.sub_add_comm low, Bus.lay_inside hj]
      rfl
    · unfold store
      dsimp only
      rw [written]
      refine Bus.lay_outside ?_
      rcases outside with outside | outside
      · exact absurd starts outside
      · omega
  · have nonzero := admits.2 starts
    have apart := apart starts nonzero
    rw [Window.locate_of_not_starts starts, if_neg nonzero]
    have written : (m.memory.write t.destination.toNat data).byte = _ := Memory.write_eq_lay bytes
    refine ⟨fun j hj => ?_, fun b outside => ?_, fun b _ => rfl, rfl, rfl⟩
    · unfold bus store
      dsimp only
      rw [if_neg (by omega), written, Bus.lay_inside hj]
      rfl
    · unfold store
      dsimp only
      rw [written]
      exact Bus.lay_outside (outside.resolve_left starts)

/-- **A copy moves the bytes** of a transfer whose ranges can be reached, and
leaves memory alone otherwise. -/
theorem moved_copied (source : m.window.Apart t.source t.length.toNat)
    (destination : m.window.Apart t.destination t.length.toNat) :
    if m.window.Reachable t then m.Moved t (m.copied t) else m.copied t = m := by
  unfold copied
  rw [Window.reaches_eq]
  by_cases reachable : m.window.Reachable t
  · rw [if_pos reachable, if_pos (decide_eq_true reachable)]
    exact moved_store reachable.2 destination (fetch_locate reachable.1 source)
  · rw [if_neg reachable, if_neg fun reached => reachable (of_decide_eq_true reached)]

/-! ## How a start ends -/

end Machine

/-- Register writes replace registers and nothing else of an engine. -/
theorem Engine.writeAll_registers (e : Engine) (writes : List (Register × UInt32)) :
    ∃ registers, e.writeAll writes = { e with registers } := by
  induction writes generalizing e with
  | nil => exact ⟨e.registers, rfl⟩
  | cons w writes ih => exact ih (e.set w.1.offset w.2)

namespace Machine

variable {m m' m'' : Machine} {t : Transfer}

/-- **What a start leaves** of a machine whose engine has these done bits: one
transfer more in the log, a free engine on which nothing overlapped, the status
that the behaviour shows, and memory as the behaviour leaves it. -/
structure Ended (m : Machine) (t : Transfer) (b : Behavior) (done : UInt32) (m' : Machine) :
    Prop where
  log : m'.transfers = m.transfers.push t
  free : ∃ e, m'.controller = .engine e ∧ e.busy = false ∧ e.overlapped = false
  status : m'.status = b.status done (m.window.Reachable t)
  moved : b = .immediate → m.window.Reachable t → m.Moved t m'
  /-- Where nothing is moved, no byte of either memory changes. -/
  unmoved : ¬(b = .immediate ∧ m.window.Reachable t) →
    m'.memory = m.memory ∧ m'.window = m.window

/-- A start is ended by the engine it leaves, and by what it does to memory. -/
theorem Ended.of_engine {b : Behavior} {done : UInt32} {e : Engine}
    (controller : m'.controller = .engine e) (log : e.log = m.transfers.push t)
    (free : e.busy = false) (overlapped : e.overlapped = false)
    (status : e.get .status = b.status done (m.window.Reachable t))
    (moved : b = .immediate → m.window.Reachable t → m.Moved t m')
    (unmoved : ¬(b = .immediate ∧ m.window.Reachable t) →
      m'.memory = m.memory ∧ m'.window = m.window) : m.Ended t b done m' where
  log := by
    unfold transfers engine?
    rw [controller]
    exact log
  free := ⟨e, controller, free, overlapped⟩
  status := by
    unfold Machine.status
    rw [controller]
    exact status
  moved := moved
  unmoved := unmoved

/-- A machine has ended a transfer by its engine and its memories. -/
theorem Ended.congr {b : Behavior} {done : UInt32} (h : m.Ended t b done m')
    (controller : m''.controller = m'.controller) (memory : m''.memory = m'.memory)
    (window : m''.window = m'.window) : m.Ended t b done m'' where
  log := by
    unfold transfers engine?
    rw [controller]
    exact h.log
  free := by
    rw [controller]
    exact h.free
  status := by
    unfold Machine.status
    rw [controller]
    exact h.status
  moved immediate reachable := (h.moved immediate reachable).congr memory window
  unmoved other := by
    rw [memory, window]
    exact h.unmoved other

/-- **Nobody has been told** between two machines: the wire and the slot are as
before, and so is what handlers counted, answered and noted. -/
structure Untold (m m' : Machine) : Prop where
  wire : m'.wire = m.wire
  channel : m'.channel = m.channel
  counters : m'.counters = m.counters
  claims : m'.claims = m.claims
  notices : m'.notices = m.notices

/-- **A start, in full**, by way of the machine `m₁` as it is when the end of the
transfer is told. -/
structure StartsExactly (m : Machine) (t : Transfer) (b : Behavior) (done : UInt32)
    (m₁ m' : Machine) : Prop where
  ended : m.Ended t b done m'
  /-- The engine is free and shows its status before anybody is told. -/
  before : m.Ended t b done m₁
  untold : m.Untold m₁
  /-- The handler on the wire is called once, with the line of the wire. -/
  told : b ≠ .hang → ∀ line handler, m.wire = some ⟨line, some handler⟩ →
    m' = (m₁.deliver handler line).2
  /-- Nobody is called where none is there. -/
  unheard : b ≠ .hang → (∀ line handler, m.wire ≠ some ⟨line, some handler⟩) → m' = m₁
  /-- An engine that hangs calls nobody. -/
  silent : b = .hang → m' = m₁
  /-- An observer of the wire notes one call, and the status as it is. -/
  noted : b ≠ .hang → ∀ line claims, m.wire = some ⟨line, some (.observer claims)⟩ →
    m'.notices = m.notices.push (.called line m'.status)

variable {b : Behavior} {done : UInt32} {m₁ : Machine}

/-- **Raising the wire** is a call of whoever listens, and of nobody else. -/
theorem raise_of_handler {line : UInt32} {handler : Handler}
    (wire : m.wire = some ⟨line, some handler⟩) : m.raise.2 = (m.deliver handler line).2 := by
  unfold raise
  rw [wire]

theorem raise_of_nobody (alone : ∀ line handler, m.wire ≠ some ⟨line, some handler⟩) :
    m.raise.2 = m := by
  unfold raise
  split
  · next line handler wire => exact absurd wire (alone line handler)
  · rfl

/-- **A transfer that is finished** ends with the wire raised. -/
theorem StartsExactly.of_raise (before : m.Ended t b done m₁) (untold : m.Untold m₁)
    (finishes : b ≠ .hang) : m.StartsExactly t b done m₁ m₁.raise.2 where
  ended := by
    obtain ⟨e, engine, -⟩ := before.free
    obtain ⟨signaled, counters, claims, notices, run, -⟩ := raise_inv (m := m₁) ⟨e, engine⟩
    rw [run]
    exact before.congr rfl rfl rfl
  before := before
  untold := untold
  told _ line handler wire := raise_of_handler (untold.wire.trans wire)
  unheard _ alone := raise_of_nobody (untold.wire ▸ alone)
  silent hangs := absurd hangs finishes
  noted _ line claims wire := by
    rw [raise_of_handler (untold.wire.trans wire), ← untold.notices]
    rfl

/-- **An engine that finishes a transfer** publishes its status and becomes free
before the wire is raised. -/
theorem StartsExactly.of_finish {e : Engine} {m₀ : Machine} {extra : UInt32}
    (engine : m₀.controller = .engine e) (log : e.log = m.transfers.push t)
    (overlapped : e.overlapped = false) (bits : e.doneBits = done) (untold : m.Untold m₀)
    (finishes : b ≠ .hang) (status : done ||| extra = b.status done (m.window.Reachable t))
    (moved : b = .immediate → m.window.Reachable t → m.Moved t m₀)
    (unmoved : ¬(b = .immediate ∧ m.window.Reachable t) →
      m₀.memory = m.memory ∧ m₀.window = m.window) :
    m.StartsExactly t b done (m₀.publish extra).release (m₀.finish extra) := by
  obtain ⟨freed, shown⟩ := freed_apply engine extra
  rw [bits, status] at shown
  refine .of_raise ?_ ?_ finishes
  · rw [freed] at shown ⊢
    refine .of_engine rfl log rfl overlapped shown (fun immediate reachable => ?_) unmoved
    exact (moved immediate reachable).congr rfl rfl
  · rw [freed]
    exact ⟨untold.wire, untold.channel, untold.counters, untold.claims, untold.notices⟩

/-- An engine that hangs is free, and that is all. -/
theorem StartsExactly.of_hang (before : m.Ended t .hang done m₁) (untold : m.Untold m₁) :
    m.StartsExactly t .hang done m₁ m₁ where
  ended := before
  before := before
  untold := untold
  told finishes := absurd rfl finishes
  unheard finishes := absurd rfl finishes
  silent _ := rfl
  noted finishes := absurd rfl finishes

/-- The machine whose engine was started by a write of the control register,
before its behaviour takes over. -/
def startedBy (value : UInt32) (t : Transfer) (m : Machine) : Machine :=
  (m.mapEngine fun e => ((e.writeAll (Register.program t.source t.destination t.length)).set
    Register.control.offset value).started t).report .trace ("[EMU] start " ++ t.text)

/-- The engine that was started, whatever it was doing. -/
theorem controller_startedBy {e : Engine} (engine : m.controller = .engine e) (value : UInt32)
    (t : Transfer) : ∃ registers, (m.startedBy value t).controller
      = .engine (({ e with registers } : Engine).started t) := by
  obtain ⟨registers, same⟩ := e.writeAll_registers
    (Register.program t.source t.destination t.length ++ [(.control, value)])
  rw [Engine.writeAll_concat] at same
  refine ⟨registers, ?_⟩
  rw [← same]
  exact controller_mapEngine engine _

/-- **A transfer that was started is in the log** of its engine. -/
theorem HasEngine.transfers_startedBy (engine : m.HasEngine) (value : UInt32) (t : Transfer) :
    (m.startedBy value t).transfers = m.transfers.push t := by
  obtain ⟨e, engine⟩ := engine
  obtain ⟨registers, started⟩ := controller_startedBy engine value t
  unfold transfers engine?
  rw [started, engine]
  rfl

/-- An engine that was free is started without an overlap, and its status register is clear. -/
theorem startedBy_of_idle {e : Engine} (engine : m.controller = .engine e) (idle : e.busy = false)
    (clean : e.overlapped = false) (value : UInt32) (t : Transfer) :
    ∃ e', (m.startedBy value t).controller = .engine e' ∧ e'.log = m.transfers.push t
      ∧ e'.overlapped = false ∧ e'.doneBits = e.doneBits ∧ e'.get .status = 0 := by
  obtain ⟨registers, started⟩ := controller_startedBy engine value t
  refine ⟨_, started, ?_, ?_, ?_, ?_⟩
  · rw [← HasEngine.transfers_startedBy ⟨e, engine⟩ value t]
    unfold transfers engine?
    rw [started]
    rfl
  · show (e.overlapped || e.busy) = false
    rw [idle, clean]
    rfl
  · exact Engine.doneBits_takeBehavior { e with registers }
  · exact (Engine.get_set _ .status .status 0).trans (if_pos rfl)

theorem untold_startedBy (value : UInt32) (t : Transfer) (m : Machine) :
    m.Untold (m.startedBy value t) := by
  rcases m with ⟨_ | _⟩ <;> exact ⟨rfl, rfl, rfl, rfl, rfl⟩

/-- A copy tells nobody. -/
theorem Untold.copied (h : m.Untold m') (t : Transfer) : m.Untold (m'.copied t) := by
  obtain ⟨target, data, stored⟩ := copied_eq_store t m'
  rw [stored]
  cases target <;> exact ⟨h.wire, h.channel, h.counters, h.claims, h.notices⟩

theorem SameMemory.startedBy (value : UInt32) (t : Transfer) (m : Machine) :
    m.SameMemory (m.startedBy value t) := by
  refine ⟨?_, ?_, ?_⟩
  · rcases m with ⟨_ | _⟩ <;> rfl
  · rcases m with ⟨_ | _⟩ <;> rfl
  · rcases engine : m.controller with r | e
    · unfold Machine.startedBy mapEngine
      rw [engine]
      rfl
    · obtain ⟨registers, started⟩ := controller_startedBy engine value t
      unfold Machine.pending engine?
      rw [started, engine]
      exact Engine.pending_takeBehavior { e with registers }

end Machine

namespace Act

variable {m : Machine} {e : Engine} {t : Transfer} {value : UInt32} {b : Behavior}

/-- **A start by a write of the control register** hands the engine the transfer
that was described before, whatever other bits are written. -/
theorem start_apply (engine : m.controller = .engine e) (bit : value &&& Register.startBit ≠ 0)
    (t : Transfer) :
    (do
        program t.source t.destination t.length
        writeRegister Register.control.offset value) m
      = behave e.takeBehavior.behavior t (m.startedBy value t) := by
  let writes := Register.program t.source t.destination t.length
  have described := writeAll_apply writes (by simp [writes, Register.program]) engine
  have next := e.takeBehavior_writeAll (writes ++ [(.control, value)])
  rw [Engine.writeAll_concat] at next
  have engine' : (m.mapEngine fun e => e.writeAll writes).controller
      = .engine (e.writeAll writes) := Machine.controller_mapEngine engine _
  have started := writeControl_apply engine' bit (e.programmed_writeAll t value)
  rw [next, Machine.mapEngine_mapEngine] at started
  exact (bind_ok described).trans started

/-- **A start of a free engine, in full.** Whatever else is set in the write that
starts it, the transfer that was described to it before is the one that is noted
in its log. An engine that copies at once moves the bytes where both ranges can be
reached, and shows its done bits; where one cannot, it moves none and shows the
bus error with them. One that ends with a fault moves none and shows the bits of
the fault, and one that hangs shows nothing at all and calls nobody. -/
theorem start_exact (engine : m.controller = .engine e) (idle : e.busy = false)
    (clean : e.overlapped = false) (short : t.length.toNat ≤ Engine.longestBuffer)
    (source : m.window.Apart t.source t.length.toNat)
    (destination : m.window.Apart t.destination t.length.toNat)
    (next : e.takeBehavior.behavior = b) (now : ∀ us, b ≠ .deferred us)
    (bit : value &&& Register.startBit ≠ 0) :
    ∃ m₁ m', (do
        program t.source t.destination t.length
        writeRegister Register.control.offset value) m = (.ok (), m')
      ∧ m.StartsExactly t b e.doneBits m₁ m' := by
  obtain ⟨e₀, engine₀, log, overlapped, done, clear⟩ :=
    Machine.startedBy_of_idle engine idle clean value t
  have untold := m.untold_startedBy value t
  have same := Machine.SameMemory.startedBy value t m
  rw [start_apply engine bit, next]
  cases b with
  | deferred us => exact absurd rfl (now us)
  | hang =>
    have free : (m.startedBy value t).release = { m.startedBy value t with
        controller := .engine { e₀ with busy := false } } := by
      unfold Machine.release Machine.mapEngine
      rw [engine₀]
    refine ⟨(m.startedBy value t).release, _, rfl, ?_⟩
    rw [free]
    refine .of_hang (.of_engine rfl log rfl overlapped clear (fun h => nomatch h) ?_) ?_
    · exact fun _ => ⟨same.memory, same.window⟩
    · exact ⟨untold.wire, untold.channel, untold.counters, untold.claims, untold.notices⟩
  | fault bits =>
    refine ⟨_, _, rfl, .of_finish engine₀ log overlapped done untold Behavior.noConfusion rfl
      (fun h => nomatch h) fun _ => ⟨same.memory, same.window⟩⟩
  | immediate =>
    have run := behave_immediate short (m.startedBy value t)
    rw [same.window, Window.reaches_eq] at run
    have copied := same.copied t
    have moved := Machine.moved_copied source destination
    refine ⟨_, _, run, .of_finish ((Machine.controller_copied t _).trans engine₀) log overlapped
      done (untold.copied t) Behavior.noConfusion rfl (fun _ reachable => ?_) fun other => ?_⟩
    · rw [if_pos reachable] at moved
      exact moved.congr copied.memory copied.window
    · rw [if_neg fun reachable => other ⟨rfl, reachable⟩] at moved
      rw [moved] at copied
      exact ⟨copied.memory, copied.window⟩

/-- A machine with a window of 64 bytes, an engine that copies at once and an
observer on its wire. -/
def observed : Machine :=
  { Command.freshMachine with
    clock := {}
    controller := .engine { doneBits := Status.diskDone }
    window := { base := 0x100, size := 64, memory := Memory.empty.write 0 ⟨#[1, 2, 3, 4]⟩ }
    wire := some ⟨7, some (.observer true)⟩ }

/-- Four bytes are moved onto a range that overlaps theirs, and the observer is
called once. With one byte more than the window has left, none is moved. -/
theorem start_exact_at_the_edges :
    (∃ m', (do
        program 0x100 0x102 4
        writeRegister Register.control.offset 3) observed = (.ok (), m')
      ∧ m'.transfers = #[⟨0x100, 0x102, 4⟩] ∧ m'.status = 4
      ∧ (∀ j < 4, m'.bus (0x102 + j) = observed.bus (0x100 + j))
      ∧ m'.notices = #[.called 7 4])
    ∧ ∃ m', (do
        program 0x100 0x13e 3
        writeRegister Register.control.offset 1) observed = (.ok (), m')
      ∧ m'.status = 0x80000004 ∧ m'.memory = observed.memory ∧ m'.window = observed.window := by
  have inside (address : UInt64) (h : observed.window.Starts address) (n : Nat) :
      observed.window.Apart address n := fun outside => absurd h outside
  have exactly (t : Transfer) (value : UInt32) (h : t.length.toNat ≤ Engine.longestBuffer)
      (bit : value &&& Register.startBit ≠ 0) (source : observed.window.Starts t.source)
      (destination : observed.window.Starts t.destination) :=
    start_exact (m := observed) (b := .immediate) rfl rfl rfl h (inside _ source _)
      (inside _ destination _) rfl (fun _ h => nomatch h) bit
  obtain ⟨m₁, m', run, moved⟩ := exactly ⟨0x100, 0x102, 4⟩ 3 (by decide) (by decide) (by decide)
    (by decide)
  obtain ⟨n₁, n', refused, still⟩ := exactly ⟨0x100, 0x13e, 3⟩ 1 (by decide) (by decide) (by decide)
    (by decide)
  have status : m'.status = 4 := moved.ended.status.trans (by decide)
  refine ⟨⟨m', run, moved.ended.log, status, (moved.ended.moved rfl (by decide)).held, ?_⟩,
    n', refused, still.ended.status.trans (by decide), still.ended.unmoved (by decide)⟩
  rw [← status]
  exact moved.noted Behavior.noConfusion 7 true rfl

end Act

end RemoteDisk
