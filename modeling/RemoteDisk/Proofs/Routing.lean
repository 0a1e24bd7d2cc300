import Mathlib.Data.List.Pairwise
import RemoteDisk.Command.Run
import RemoteDisk.Proofs.Patterns
import RemoteDisk.Proofs.Probe

/-!
# Where the processor's words lie

A word that the processor reads or writes lies in the window where all of it does, else in
the buffer that holds all of it, else nowhere (`Processor.spot`). Reads and writes look the
place up alike, so they agree on every word, those that straddle an edge included
(`Act.words_routed`).

The lookups add to offsets that can be as large as a word. Buffers that were allocated start
behind the first page of the address space, so no offset into them comes near the top; of the
window this is not known, and an access that far above its start is a fault.
-/

namespace RemoteDisk

/-! ## Buffers that were allocated -/

/-- Two buffers share no byte. -/
def Buffer.Apart (b c : Buffer) : Prop :=
  b.base.toNat + b.size ≤ c.base.toNat ∨ c.base.toNat + c.size ≤ b.base.toNat

instance : Std.Symm Buffer.Apart := ⟨fun _ _ => Or.symm⟩

/-- A run that is apart from another is apart from what lies in the other. -/
theorem PageRun.Holds.apart {run other : PageRun} {b c : Buffer} (held : run.Holds b)
    (held' : other.Holds c) (apart : run.Apart other) : b.Apart c := by
  have base := held.base
  have base' := held'.base
  have size := held.size
  have size' := held'.size
  unfold Buffer.Apart
  unfold PageRun.Apart PageRun.stop at apart
  unfold Geometry.pageSize at *
  omega

namespace Arena

/-- **Buffers as they are handed out**: none starts within the first page of the address
space, and no two share a byte. -/
structure Allocated (buffers : List Buffer) : Prop where
  above : ∀ b ∈ buffers, Geometry.pageSize ≤ b.base.toNat
  apart : buffers.Pairwise Buffer.Apart

/-- **Every one of several buffers lies in a run of its own**, apart from the runs that were
handed out before them and from one another's. -/
theorem allocMany?_inv {a a' : Arena} {len count : Nat} {buffers : List Buffer}
    (h : a.allocMany? len count = some (buffers, a')) :
    (∀ b ∈ buffers, ∃ run : PageRun, run.Holds b ∧ 0 < run.first
        ∧ ∀ other ∈ a.handed, run.Apart other)
      ∧ buffers.Pairwise Buffer.Apart := by
  induction count generalizing a buffers with
  | zero =>
    cases h
    exact ⟨fun b hb => (List.not_mem_nil hb).elim, .nil⟩
  | succ count ih =>
    obtain ⟨⟨first, a₁⟩, one, h⟩ := Option.bind_eq_some_iff.mp h
    obtain ⟨⟨rest, a₂⟩, more, h⟩ := Option.bind_eq_some_iff.mp h
    cases h
    obtain ⟨run, -, held, nonzero, -, beside, rfl⟩ := alloc?_next one
    obtain ⟨later, apart⟩ := ih more
    refine ⟨List.forall_mem_cons.mpr ⟨⟨run, held, nonzero, beside⟩, fun b hb => ?_⟩,
      List.pairwise_cons.mpr ⟨fun b hb => ?_, apart⟩⟩
    · -- the later runs are apart from this one and from the earlier ones alike
      obtain ⟨run', held', nonzero', beside'⟩ := later b hb
      exact ⟨run', held', nonzero', fun other earlier =>
        beside' other (List.mem_cons_of_mem run earlier)⟩
    · obtain ⟨run', held', -, beside'⟩ := later b hb
      exact Std.Symm.symm _ _ (held'.apart held (beside' run List.mem_cons_self))

end Arena

/-- **Buffers that an operation has allocated** are as they are handed out. -/
theorem Act.allocateMany_allocated {count len : Nat} {m m' : Machine} {buffers : List Buffer}
    (h : allocateMany count len m = (.ok (some buffers), m')) : Arena.Allocated buffers := by
  rcases taken : m.arena.allocMany? len count with _ | ⟨handed, arena⟩
  · unfold allocateMany at h
    rw [Op.modifyGet_apply, taken] at h
    cases h
  · unfold allocateMany at h
    rw [Op.modifyGet_apply, taken] at h
    cases h
    obtain ⟨runs, apart⟩ := Arena.allocMany?_inv taken
    refine ⟨fun b hb => ?_, apart⟩
    obtain ⟨run, held, nonzero, -⟩ := runs b hb
    rw [held.base]
    exact Nat.le_mul_of_pos_left _ nonzero

/-! ## Bytes by their place -/

/-- The place some bytes further on. -/
def Target.shift (j : Nat) : Target → Target
  | remote offset => remote (offset + j)
  | nearby address => nearby (address + j)
  | invalid => invalid

namespace Machine

variable {m m' : Machine} {place : Option Target} {value : UInt32}

/-- **The byte at a place**, of remote memory or of local memory. -/
def byteAt (m : Machine) : Target → UInt8
  | .remote offset => m.window.memory.byte offset
  | .nearby address => m.memory.byte address
  | .invalid => 0

/-- **The word at a place**, the least significant byte first. A word that lies nowhere is
zero. -/
def placedWord (m : Machine) : Option Target → UInt32
  | some p => Bus.word (fun j => m.byteAt (p.shift j)) 0
  | none => 0

/-- **What is left of a machine where a word was written**: the word's four bytes, if it lies
anywhere, and every other byte of remote and of local memory as it was. The access is counted,
and that is all. -/
structure Rewritten (m : Machine) (place : Option Target) (value : UInt32) (m' : Machine) :
    Prop where
  inside : ∀ p, place = some p → ∀ j < 4, m'.byteAt (p.shift j) = Bus.byteOf value j
  outside : ∀ b, (∀ p, place = some p → ∀ j < 4, p.shift j ≠ b) → m'.byteAt b = m.byteAt b
  rest : m' = { m.accessed with
    window := { m.window with memory := m'.window.memory }
    memory := m'.memory }

/-- Bytes that are stored at a place are there. -/
theorem byteAt_store_inside {p : Target} (valid : p ≠ .invalid) {data : ByteArray} {n j : Nat}
    {f : Nat → UInt8} (bytes : data.data.toList = (List.range n).map f) (hj : j < n) :
    (m.store p data).byteAt (p.shift j) = f j := by
  cases p with
  | remote offset =>
    show (m.window.memory.write offset data).byte (offset + j) = f j
    rw [Memory.write_eq_lay bytes, Bus.lay_inside hj]
  | nearby address =>
    show (m.memory.write address data).byte (address + j) = f j
    rw [Memory.write_eq_lay bytes, Bus.lay_inside hj]
  | invalid => exact absurd rfl valid

/-- Storing bytes at a place changes nothing elsewhere. -/
theorem byteAt_store_outside {p b : Target} {data : ByteArray} {n : Nat} {f : Nat → UInt8}
    (bytes : data.data.toList = (List.range n).map f) (apart : ∀ j < n, p.shift j ≠ b) :
    (m.store p data).byteAt b = m.byteAt b := by
  -- a number that is none of `n` in a row lies before or behind them
  have beside {a c : Nat} (h : ∀ j < n, a + j ≠ c) : c < a ∨ a + n ≤ c := by
    by_contra within
    exact h (c - a) (by omega) (by omega)
  cases p with
  | invalid => rfl
  | remote offset =>
    cases b with
    | remote other =>
      show (m.window.memory.write offset data).byte other = _
      rw [Memory.write_eq_lay bytes]
      exact Bus.lay_outside (beside fun j hj same => apart j hj (congrArg Target.remote same))
    | nearby other => rfl
    | invalid => rfl
  | nearby address =>
    cases b with
    | nearby other =>
      show (m.memory.write address data).byte other = _
      rw [Memory.write_eq_lay bytes]
      exact Bus.lay_outside (beside fun j hj same => apart j hj (congrArg Target.nearby same))
    | remote other => rfl
    | invalid => rfl

/-- The bytes that are fetched from a place make up its word. -/
theorem toWord_fetch {p : Target} (valid : p ≠ .invalid) :
    Bytes.toWord (m.fetch p 4) = m.placedWord (some p) := by
  have word {memory : Memory} {c : Nat}
      (bytes : ∀ j < 4, memory.byte (c + j) = m.byteAt (p.shift j)) :
      Bytes.toWord (memory.read c 4) = m.placedWord (some p) := by
    unfold Bytes.toWord
    rw [Memory.toList_read]
    show Bus.word memory.byte c = Bus.word (fun j => m.byteAt (p.shift j)) 0
    refine Bus.word_congr fun j hj => ?_
    rw [Nat.zero_add]
    exact bytes j hj
  cases p with
  | remote offset => exact word fun _ _ => rfl
  | nearby address => exact word fun _ _ => rfl
  | invalid => exact absurd rfl valid

end Machine

/-! ## Looking a place up -/

/-- A buffer holds all of the word at an address. -/
def Buffer.Covers (b : Buffer) (a : Nat) : Prop :=
  b.base.toNat ≤ a ∧ a + 4 ≤ b.base.toNat + b.size

instance (b : Buffer) (a : Nat) : Decidable (b.Covers a) := inferInstanceAs (Decidable (_ ∧ _))

/-- **Of allocated buffers one at most covers a word.** -/
theorem Arena.Allocated.eq_of_covers {buffers : List Buffer} (allocated : Allocated buffers)
    {b c : Buffer} (hb : b ∈ buffers) (hc : c ∈ buffers) {a : Nat} (covers : b.Covers a)
    (covers' : c.Covers a) : b = c := by
  by_contra different
  have apart := allocated.apart.forall hb hc different
  unfold Buffer.Apart at apart
  unfold Buffer.Covers at covers covers'
  omega

namespace Processor

variable {w : Window} {buffers : List Buffer} {address : UInt64}

/-- **Where a word lies**: in the window where all of it does, else in local memory where a
buffer covers it, else nowhere. -/
def spot (w : Window) (buffers : List Buffer) (a : Nat) : Option Target :=
  if w.base.toNat ≤ a ∧ a + 4 ≤ w.base.toNat + w.size then some (.remote (a - w.base.toNat))
  else if ∃ b ∈ buffers, b.Covers a then some (.nearby a)
  else none

/-- A word lies somewhere or nowhere, but never at a place that is none. -/
theorem spot_ne_invalid (w : Window) (buffers : List Buffer) (a : Nat) :
    spot w buffers a ≠ some .invalid := by
  unfold spot
  split_ifs <;> simp

/-- **Words that do not overlap** have no byte in common where they lie. -/
theorem spot_apart {a b : Nat} (apart : b + 4 ≤ a ∨ a + 4 ≤ b) {p q : Target}
    (hp : spot w buffers a = some p) (hq : spot w buffers b = some q) {i j : Nat}
    (hi : i < 4) (hj : j < 4) : p.shift i ≠ q.shift j := by
  unfold spot at hp hq
  split_ifs at hp hq with inside _ inside' <;> cases hp <;> cases hq <;>
    simp only [Target.shift, ne_eq, Target.remote.injEq, Target.nearby.injEq, reduceCtorEq,
      not_false_eq_true] <;> omega

/-- Only the extent of the window matters. -/
theorem spot_congr {w w' : Window} (base : w'.base = w.base) (size : w'.size = w.size)
    (buffers : List Buffer) (a : Nat) : spot w' buffers a = spot w buffers a := by
  unfold spot
  rw [base, size]

/-- **A buffer that does not cover a word** has no byte in common with it, wherever the word
lies. -/
theorem spot_beside (allocated : Arena.Allocated buffers) {b : Buffer} (hb : b ∈ buffers)
    {a : Nat} (uncovered : ¬b.Covers a) {p : Target} (hp : spot w buffers a = some p)
    {i j : Nat} (hi : i < 4) (hj : j < b.size) : p.shift i ≠ .nearby (b.base.toNat + j) := by
  unfold spot at hp
  split_ifs at hp with _ covered
  · cases hp
    exact nofun
  · cases hp
    obtain ⟨c, hc, covers⟩ := covered
    have different : b ≠ c := fun same => uncovered (same ▸ covers)
    have apart := allocated.apart.forall hb hc different
    intro same
    have same : a + i = b.base.toNat + j := Target.nearby.inj same
    unfold Buffer.Covers at covers
    unfold Buffer.Apart at apart
    omega

/-- **The offset of a word in a range** is looked up in exact numbers, but for an address so
far above the start of the range that the end of the word has no number. -/
theorem offsetIn_eq (base : UInt64) (size : Nat) (address : UInt64) :
    offsetIn base size address
      = if base.toNat + Geometry.wordLimit ≤ address.toNat + 4 then .error .overflow
        else .ok (if base.toNat ≤ address.toNat ∧ address.toNat + 4 ≤ base.toNat + size then
          some (address.toNat - base.toNat) else none) := by
  have top : 4 < Geometry.wordLimit := by decide
  by_cases above : base ≤ address
  · have start := UInt64.le_iff_toNat_le.mp above
    have same : (address.toNat - base.toNat + 4 ≤ size)
        = (base.toNat ≤ address.toNat ∧ address.toNat + 4 ≤ base.toNat + size) :=
      propext (by omega)
    unfold offsetIn
    rw [if_pos above]
    simp only [same]
    exact if_congr (by omega) rfl rfl
  · have start := mt UInt64.le_iff_toNat_le.mpr above
    unfold offsetIn
    rw [if_neg above, if_neg (by omega), if_neg (fun inside => start inside.1)]

/-- **A word is looked up among allocated buffers** without a fault. -/
theorem findBuffer_eq (above : ∀ b ∈ buffers, Geometry.pageSize ≤ b.base.toNat)
    (address : UInt64) :
    findBuffer address buffers = .ok (if ∃ b ∈ buffers, b.Covers address.toNat then
      some (.nearby address.toNat) else none) := by
  suffices found : ∃ found, findBuffer address buffers = .ok found by
    obtain ⟨found, run⟩ := found
    rw [run, findBuffer_inv run]
    rfl
  have top := address.toNat_lt
  induction buffers with
  | nil => exact ⟨none, rfl⟩
  | cons b rest ih =>
    have start := above b List.mem_cons_self
    unfold findBuffer
    rw [offsetIn_eq, if_neg (by unfold Geometry.pageSize Geometry.wordLimit at *; omega)]
    split_ifs
    · exact ⟨_, rfl⟩
    · exact ih fun c hc => above c (List.mem_cons_of_mem b hc)

/-- **The place of a word is looked up exactly**, but for an address so far above the start
of the window that the end of the word has no number. -/
theorem locate_eq (allocated : Arena.Allocated buffers) (w : Window) (address : UInt64) :
    locate (.buffers buffers) w address
      = if w.base.toNat + Geometry.wordLimit ≤ address.toNat + 4 then .error .overflow
        else .ok (spot w buffers address.toNat) := by
  unfold locate
  dsimp only
  rw [offsetIn_eq]
  by_cases beyond : w.base.toNat + Geometry.wordLimit ≤ address.toNat + 4
  · rw [if_pos beyond, if_pos beyond]
  · rw [if_neg beyond, if_neg beyond]
    unfold spot
    by_cases inside : w.base.toNat ≤ address.toNat ∧ address.toNat + 4 ≤ w.base.toNat + w.size
    · rw [if_pos inside, if_pos inside]
    · rw [if_neg inside, if_neg inside]
      exact findBuffer_eq allocated.above address

end Processor

/-! ## Reading and writing words -/

namespace Machine

variable {m m' : Machine} {buffers : List Buffer} {place : Option Target} {value : UInt32}

namespace Rewritten

/-- The processor sees what it saw, at the places where it was. -/
theorem congr (h : m.Rewritten place value m') (sees : m.Sees buffers) :
    m'.Sees buffers ∧ m'.window.base = m.window.base ∧ m'.window.size = m.window.size := by
  have view := congrArg (fun b : Machine => b.processor.view) h.rest
  have disturbances := congrArg (fun b : Machine => b.processor.disturbances) h.rest
  have base := congrArg (fun b : Machine => b.window.base) h.rest
  have size := congrArg (fun b : Machine => b.window.size) h.rest
  exact ⟨⟨view.trans sees.view, disturbances.trans sees.disturbances⟩, base, size⟩

/-- **The word that was written** is there, where there is a place for it. -/
theorem placedWord_inside (h : m.Rewritten place value m') :
    m'.placedWord place = if place = none then 0 else value := by
  cases place with
  | none => rfl
  | some p =>
    rw [if_neg (Option.some_ne_none p)]
    show Bus.word (fun j => m'.byteAt (p.shift j)) 0 = value
    refine Bus.word_of_bytes fun j hj => ?_
    rw [Nat.zero_add]
    exact h.inside p rfl j hj

/-- A word that has no byte in common with the one that was written is what it was. -/
theorem placedWord_outside (h : m.Rewritten place value m') {other : Option Target}
    (apart : ∀ p q, place = some p → other = some q → ∀ i < 4, ∀ j < 4, p.shift i ≠ q.shift j) :
    m'.placedWord other = m.placedWord other := by
  cases other with
  | none => rfl
  | some q =>
    show Bus.word (fun j => m'.byteAt (q.shift j)) 0 = Bus.word (fun j => m.byteAt (q.shift j)) 0
    refine Bus.word_congr fun j hj => ?_
    rw [Nat.zero_add]
    exact h.outside _ fun p hp i hi => apart p q hp rfl i hi j hj

end Rewritten

end Machine

namespace Act

open Op

variable {m m' : Machine} {buffers : List Buffer} {address : UInt64}

/-- **A word that is read** is the one at its place, and reading it leaves everything as it
was. -/
theorem loadWord_eq (sees : m.Sees buffers) (allocated : Arena.Allocated buffers)
    (address : UInt64) :
    loadWord address m
      = (if m.window.base.toNat + Geometry.wordLimit ≤ address.toNat + 4 then .error .overflow
          else .ok (m.placedWord (Processor.spot m.window buffers address.toNat)), m.accessed) := by
  have next := nextAccess_apply sees address
  rw [Processor.locate_eq allocated] at next
  unfold loadWord
  by_cases beyond : m.window.base.toNat + Geometry.wordLimit ≤ address.toNat + 4
  · rw [if_pos beyond] at next ⊢
    exact bind_error next
  · rw [if_neg beyond] at next ⊢
    rw [bind_ok next]
    have valid := Processor.spot_ne_invalid m.window buffers address.toNat
    generalize Processor.spot m.window buffers address.toNat = place at valid ⊢
    rcases place with _ | p
    · rfl
    · have fetched : Bytes.toWord (m.accessed.fetch p 4) = m.placedWord (some p) := by
        rw [Machine.toWord_fetch fun invalid => valid (congrArg some invalid)]
        cases p <;> rfl
      show (Except.ok (Bytes.toWord (m.accessed.fetch p 4) ^^^ 0), m.accessed) = _
      rw [fetched, UInt32.xor_zero]

/-- **A word that is written** is laid over the bytes at its place. -/
theorem storeWord_rewritten (sees : m.Sees buffers) (allocated : Arena.Allocated buffers)
    (within : ¬m.window.base.toNat + Geometry.wordLimit ≤ address.toNat + 4) (value : UInt32) :
    ∃ m', storeWord address value m = (.ok (), m')
      ∧ m.Rewritten (Processor.spot m.window buffers address.toNat) value m' := by
  have next := nextAccess_apply sees address
  rw [Processor.locate_eq allocated, if_neg within] at next
  unfold storeWord
  rw [bind_ok next]
  have valid := Processor.spot_ne_invalid m.window buffers address.toNat
  generalize Processor.spot m.window buffers address.toNat = place at valid ⊢
  rcases place with _ | p
  · exact ⟨_, rfl, ⟨nofun, fun b _ => by cases b <;> rfl, rfl⟩⟩
  · have valid : p ≠ .invalid := fun invalid => valid (congrArg some invalid)
    have bytes := Bus.toList_ofWord value
    refine ⟨_, rfl, ⟨?_, ?_, ?_⟩⟩
    · rintro _ ⟨⟩ j hj
      exact Machine.byteAt_store_inside valid bytes hj
    · intro b apart
      refine (Machine.byteAt_store_outside bytes (apart p rfl)).trans ?_
      cases b <;> rfl
    · cases p <;> rfl

/-- **Words are routed exactly.** An access that ends further above the start of the window
than numbers reach is a fault. Every other one finds its word in the window, in the one buffer
that covers it or nowhere: what is read is the word at that place, and what is written changes
the bytes of that place alone. So a word that was written is read back wherever it has a place,
a buffer that does not cover it keeps its contents, and words that do not overlap it read as
they did. -/
theorem words_routed (sees : m.Sees buffers) (allocated : Arena.Allocated buffers)
    (address : UInt64) (value : UInt32) :
    let place := Processor.spot m.window buffers address.toNat
    (m.window.base.toNat + Geometry.wordLimit ≤ address.toNat + 4 →
      loadWord address m = (.error .overflow, m.accessed)
        ∧ storeWord address value m = (.error .overflow, m.accessed))
    ∧ (address.toNat + 4 < m.window.base.toNat + Geometry.wordLimit →
      loadWord address m = (.ok (m.placedWord place), m.accessed)
        ∧ (∀ b ∈ buffers, ∀ c ∈ buffers, b.Covers address.toNat → c.Covers address.toNat → b = c)
        ∧ ∃ m', storeWord address value m = (.ok (), m')
          ∧ m.Rewritten place value m'
          ∧ (loadWord address m').1 = .ok (if place = none then 0 else value)
          ∧ (∀ b ∈ buffers, ¬b.Covers address.toNat → b.contents m' = b.contents m)
          ∧ ∀ other : UInt64,
            other.toNat + 4 ≤ address.toNat ∨ address.toNat + 4 ≤ other.toNat →
            (loadWord other m').1 = (loadWord other m).1) := by
  intro place
  have read := loadWord_eq sees allocated address
  refine ⟨fun beyond => ⟨?_, ?_⟩, fun within => ⟨?_, ?_, ?_⟩⟩
  · rw [read, if_pos beyond]
  · have next := nextAccess_apply sees address
    rw [Processor.locate_eq allocated, if_pos beyond] at next
    exact bind_error next
  · rw [read, if_neg within.not_ge]
  · exact fun b hb c hc => allocated.eq_of_covers hb hc
  · obtain ⟨m', stored, h⟩ := storeWord_rewritten sees allocated within.not_ge value
    obtain ⟨sees', base, size⟩ := h.congr sees
    have spots (a : Nat) : Processor.spot m'.window buffers a = Processor.spot m.window buffers a :=
      Processor.spot_congr base size buffers a
    refine ⟨m', stored, h, ?_, fun b hb uncovered => ?_, fun other apart => ?_⟩
    · rw [loadWord_eq sees' allocated, base, if_neg within.not_ge, spots, h.placedWord_inside]
    · refine Memory.read_congr fun j hj =>
        h.outside (.nearby (b.base.toNat + j)) fun p hp i hi => ?_
      exact Processor.spot_beside allocated hb uncovered hp hi hj
    · have same : m'.placedWord (Processor.spot m.window buffers other.toNat)
          = m.placedWord (Processor.spot m.window buffers other.toNat) :=
        h.placedWord_outside fun p q hp hq i hi j hj =>
          Processor.spot_apart apart hp hq hi hj
      rw [loadWord_eq sees' allocated, loadWord_eq sees allocated, base, spots, same]

/-- A window of six bytes that starts two bytes below the first of two buffers of six. -/
def crossing : Machine :=
  { Command.freshMachine with
    window := { base := 0x7ffffffe, size := 6 }
    processor := { view := .buffers [⟨0x80000000, 6⟩, ⟨0x80001000, 6⟩] } }

/-- A word that straddles the end of the window lies in the buffer that covers it, and one that
straddles the end of the buffer too lies nowhere. With the window at the lowest address, the
word below the highest ones is a fault. -/
theorem words_routed_at_the_edges :
    (∃ m', storeWord 0x80000001 0xaa000004 crossing = (.ok (), m')
      ∧ (loadWord 0x80000001 m').1 = .ok 0xaa000004
      ∧ m'.byteAt (.nearby 0x80000001) = 4 ∧ m'.byteAt (.remote 3) = 0)
    ∧ (∃ m', storeWord 0x80000003 0xaa000004 crossing = (.ok (), m')
      ∧ (loadWord 0x80000003 m').1 = .ok 0)
    ∧ (loadWord 0xfffffffffffffffc { crossing with window := { size := 6 } }).1
      = .error .overflow := by
  have allocated : Arena.Allocated [⟨0x80000000, 6⟩, ⟨0x80001000, 6⟩] :=
    allocateMany_allocated (show allocateMany 2 6 {} = (.ok (some _), _) from rfl)
  have routed := words_routed (m := crossing) ⟨rfl, rfl⟩ allocated
  obtain ⟨-, -, m', stored, h, back, -⟩ := (routed 0x80000001 0xaa000004).2 (by decide)
  rw [show Processor.spot _ _ _ = some (.nearby 0x80000001) by decide] at h back
  obtain ⟨-, -, n', stored', -, back', -⟩ := (routed 0x80000003 0xaa000004).2 (by decide)
  rw [show Processor.spot _ _ _ = none by decide] at back'
  have fault := (words_routed (m := { crossing with window := { size := 6 } }) ⟨rfl, rfl⟩ allocated
    0xfffffffffffffffc 0).1 (by decide)
  refine ⟨⟨m', stored, back, h.inside _ rfl 0 (by decide), ?_⟩, ⟨n', stored', back'⟩,
    congrArg Prod.fst fault.1⟩
  exact h.outside _ fun p hp j _ => by cases hp; exact nofun

end Act

end RemoteDisk
