import RemoteDisk.Proofs.Bus
import RemoteDisk.Proofs.Outline
import RemoteDisk.Proofs.Tiling
import RemoteDisk.SelfTest

/-!
# Patterns the processor writes and reads

What a part of the self test leaves behind is told by `Machine.Leaves`: the
ranges it flushed, the transfers it started and what memory holds after it, the
machine being set up as before. Parts that follow one another add up
(`Machine.Leaves.trans`).

The processor writes and reads words one by one. Where all of a range is served
to it, filling the range lays the words of the pattern over it, and a comparison
finds it faultless exactly where it holds the pattern. That an operation came to
its end is all these statements need; that it does is told apart from them, since
only the top of the address space can prevent it.
-/

namespace RemoteDisk

open Op

/-! ## What an operation leaves -/

namespace Machine

variable {m m' m'' : Machine}

/-- **How a machine was set up**: its outline, without the count of the
processor's accesses. -/
def setting (m : Machine) : Machine :=
  { m.outline with processor := { m.processor with accesses := 0 } }

/-- The setting can be told from the bare machine. -/
@[simp] theorem setting_bare (m : Machine) : m.bare.setting = m.setting := by
  unfold setting
  rw [outline_bare]
  rfl

/-- A start does not show in the setting. -/
theorem setting_noted (t : Transfer) (m : Machine) :
    (m.mapEngine (Engine.noted t)).setting = m.setting := by
  unfold setting
  rw [outline_noted]
  rcases m with ⟨_ | _⟩ <;> rfl

/-- **What an operation leaves behind**: the ranges it flushed, the transfers it
started, and the bytes that the bus shows afterwards. -/
structure Leaves (m : Machine) (flushed : List Flush) (started : List Transfer)
    (bytes : Nat → UInt8) (m' : Machine) : Prop where
  /-- The machine is set up as before. -/
  setting : m'.setting = m.setting
  /-- No transfer was put off, and none that was put off is over. -/
  pending : m'.pending = m.pending
  /-- The ranges were flushed after all others. -/
  flushes : m'.flushes.toList = m.flushes.toList ++ flushed
  /-- The transfers were started after all others. -/
  transfers : m'.transfers.toList = m.transfers.toList ++ started
  /-- Every start has used up a behaviour of the engine. -/
  behavior : ∀ n, m'.behaviorAt n = m.behaviorAt (n + started.length)
  /-- The bus shows the bytes that are left. -/
  bus : m'.bus = bytes

namespace Leaves

variable {fs fs' : List Flush} {ts ts' : List Transfer} {g g' : Nat → UInt8}

/-- Of the bare machine nothing changes. -/
theorem of_bare (bare : m'.bare = m.bare) (pending : m'.pending = m.pending) (bus : m'.bus = g) :
    m.Leaves [] [] g m' where
  setting := by rw [← setting_bare, bare, setting_bare]
  pending := pending
  flushes := by rw [← flushes_bare, bare, flushes_bare, List.append_nil]
  transfers := by rw [← transfers_bare, bare, transfers_bare, List.append_nil]
  behavior n := by rw [← behaviorAt_bare, bare, behaviorAt_bare, List.length_nil, Nat.add_zero]
  bus := bus

theorem refl (m : Machine) : m.Leaves [] [] m.bus m := of_bare rfl rfl rfl

/-- **What one operation leaves after another.** -/
theorem trans (h : m.Leaves fs ts g m') (h' : m'.Leaves fs' ts' g' m'') :
    m.Leaves (fs ++ fs') (ts ++ ts') g' m'' where
  setting := h'.setting.trans h.setting
  pending := h'.pending.trans h.pending
  flushes := by rw [h'.flushes, h.flushes, List.append_assoc]
  transfers := by rw [h'.transfers, h.transfers, List.append_assoc]
  behavior n := by rw [h'.behavior, h.behavior, List.length_append, Nat.add_comm ts.length,
    Nat.add_assoc]
  bus := h'.bus

/-- What was left is left with an entry in the journal after the operation. -/
theorem report (h : m.Leaves fs ts g m') (level : Level) (text : String) :
    m.Leaves fs ts g (m'.report level text) :=
  ⟨h.setting, h.pending, h.flushes, h.transfers, h.behavior, h.bus⟩

/-- What was left is left with an entry in the journal before the operation. -/
theorem of_report {level : Level} {text : String} (h : (m.report level text).Leaves fs ts g m') :
    m.Leaves fs ts g m' :=
  ⟨h.setting, h.pending, h.flushes, h.transfers, h.behavior, h.bus⟩

/-- The window is where it was. -/
theorem window (h : m.Leaves fs ts g m') :
    m'.window.base = m.window.base ∧ m'.window.size = m.window.size :=
  ⟨(congrArg (fun b : Machine => b.window.base) h.setting :),
    (congrArg (fun b : Machine => b.window.size) h.setting :)⟩

/-- What was left serves the same ranges. -/
theorem serves {locals : List Buffer} {a n : Nat} (h : m.Leaves fs ts g m')
    (served : m.window.Serves locals a n) : m'.window.Serves locals a n := by
  obtain ⟨base, size⟩ := h.window
  cases served with
  | remote start stop => exact .remote (by rw [base]; exact start) (by rw [base, size]; exact stop)
  | nearby apart held => exact .nearby (by rw [base, size]; exact apart) held

end Leaves

end Machine

namespace Act

variable {m m' : Machine}

/-- A flush leaves its range. -/
theorem flush_leaves {address : UInt64} {len : Nat} {u : Unit}
    (h : flush address len m = (.ok u, m')) : m.Leaves [⟨address, len⟩] [] m.bus m' := by
  obtain rfl := flush_inv h
  exact ⟨rfl, rfl, Array.toList_push, (List.append_nil _).symm, fun _ => rfl, rfl⟩

/-- A number that fits a word is that word. -/
theorem word_inv {n : Nat} {v : UInt64} (h : word n m = (.ok v, m')) : v.toNat = n ∧ m = m' := by
  unfold word at h
  split at h
  · next fits =>
    cases h
    exact ⟨UInt64.toNat_ofNat_of_lt' fits, rfl⟩
  · cases h

theorem word_ok {n : Nat} (fits : n < Geometry.wordLimit) (m : Machine) :
    word n m = (.ok (UInt64.ofNat n), m) := by
  unfold word
  rw [if_pos fits]
  rfl

end Act

/-! ## Where the processor finds a word -/

namespace Processor

variable {base address : UInt64} {size : Nat} {locals : List Buffer} {w : Window}

/-- The offset of a word is told where all of it lies in the range. -/
theorem offsetIn_inv {found : Option Nat} (h : offsetIn base size address = .ok found) :
    found = if base.toNat ≤ address.toNat ∧ address.toNat + 4 ≤ base.toNat + size then
      some (address.toNat - base.toNat) else none := by
  unfold offsetIn at h
  split at h
  · next above =>
    have start := UInt64.le_iff_toNat_le.mp above
    dsimp only at h
    split at h
    · cases h
    · cases h
      by_cases fits : address.toNat - base.toNat + 4 ≤ size
      · rw [if_pos fits, if_pos ⟨start, by omega⟩]
      · rw [if_neg fits, if_neg (by omega)]
  · next before =>
    cases h
    rw [if_neg (fun inside => before (UInt64.le_iff_toNat_le.mpr inside.1))]

/-- The offset of a word is told wherever it ends below the top of the address space. -/
theorem offsetIn_ok (base : UInt64) (size : Nat) (below : address.toNat + 4 < Geometry.wordLimit) :
    ∃ found, offsetIn base size address = .ok found := by
  unfold offsetIn
  split
  · dsimp only
    rw [if_neg (by omega)]
    exact ⟨_, rfl⟩
  · exact ⟨_, rfl⟩

/-- **A word in local memory is found** where one of the buffers holds all of
it. -/
theorem findBuffer_inv {found : Option Target} (h : findBuffer address locals = .ok found) :
    found = if ∃ b ∈ locals, b.base.toNat ≤ address.toNat
        ∧ address.toNat + 4 ≤ b.base.toNat + b.size then some (.nearby address.toNat)
      else none := by
  induction locals with
  | nil =>
    cases h
    rw [if_neg (fun held => by obtain ⟨b, hb, -⟩ := held; cases hb)]
  | cons b rest ih =>
    unfold findBuffer at h
    rcases first : offsetIn b.base b.size address with e | offset
    · rw [first] at h
      cases h
    · rw [first] at h
      have offset_eq := offsetIn_inv first
      by_cases here : b.base.toNat ≤ address.toNat ∧ address.toNat + 4 ≤ b.base.toNat + b.size
      · rw [if_pos here] at offset_eq
        rw [offset_eq] at h
        cases h
        rw [if_pos ⟨b, List.mem_cons_self, here⟩]
      · rw [if_neg here] at offset_eq
        rw [offset_eq] at h
        rw [ih h]
        refine if_congr ⟨?_, ?_⟩ rfl rfl
        · rintro ⟨c, hc, held⟩
          exact ⟨c, List.mem_cons_of_mem _ hc, held⟩
        · rintro ⟨c, hc, held⟩
          rcases List.mem_cons.mp hc with rfl | hc
          · exact absurd held here
          · exact ⟨c, hc, held⟩

theorem findBuffer_ok (below : address.toNat + 4 < Geometry.wordLimit) :
    ∃ found, findBuffer address locals = .ok found := by
  induction locals with
  | nil => exact ⟨none, rfl⟩
  | cons b rest ih =>
    unfold findBuffer
    obtain ⟨offset, first⟩ := offsetIn_ok b.base b.size below
    rw [first]
    rcases offset with _ | offset
    · exact ih
    · exact ⟨_, rfl⟩

/-- **A word that is served is found** where the engine finds it. -/
theorem locate_inv {found : Option Target} (served : w.Serves locals address.toNat 4)
    (h : locate (.buffers locals) w address = .ok found) :
    found = some (w.place address.toNat) := by
  unfold locate at h
  dsimp only at h
  rcases first : offsetIn w.base w.size address with e | offset
  · rw [first] at h
    cases h
  · rw [first] at h
    have offset_eq := offsetIn_inv first
    unfold Window.place
    cases served with
    | remote start stop =>
      rw [if_pos ⟨start, stop⟩] at offset_eq
      rw [offset_eq] at h
      cases h
      rw [if_pos ⟨start, by omega⟩]
    | nearby apart held =>
      rw [if_neg (by omega)] at offset_eq
      rw [offset_eq] at h
      rw [findBuffer_inv h, if_pos held, if_neg (by omega)]

theorem locate_ok (locals : List Buffer) (w : Window)
    (below : address.toNat + 4 < Geometry.wordLimit) :
    ∃ found, locate (.buffers locals) w address = .ok found := by
  unfold locate
  obtain ⟨offset, first⟩ := offsetIn_ok w.base w.size below
  dsimp only
  rw [first]
  rcases offset with _ | offset
  · exact findBuffer_ok below
  · exact ⟨_, rfl⟩

end Processor

namespace Machine

variable {m m' : Machine} {locals : List Buffer}

/-- **The processor sees memory through buffers**, and none of its accesses goes
wrong. -/
structure Sees (locals : List Buffer) (m : Machine) : Prop where
  view : m.processor.view = .buffers locals
  disturbances : m.processor.disturbances = []

theorem Sees.congr (h : m'.setting = m.setting) (sees : m.Sees locals) : m'.Sees locals where
  view := (congrArg (fun b : Machine => b.processor.view) h :).trans sees.view
  disturbances := (congrArg (fun b : Machine => b.processor.disturbances) h :).trans
    sees.disturbances

/-- The machine after one more access of the processor. -/
def accessed (m : Machine) : Machine :=
  { m with processor := { m.processor with accesses := m.processor.accesses + 1 } }

theorem accessed_leaves (m : Machine) : m.Leaves [] [] m.bus m.accessed :=
  ⟨rfl, rfl, (List.append_nil _).symm, (List.append_nil _).symm, fun _ => rfl, rfl⟩

end Machine

namespace Act

variable {m m' : Machine} {locals : List Buffer} {address : UInt64}

/-- **The next access** flips no bits and finds its word or ends in a fault. -/
theorem nextAccess_apply (sees : m.Sees locals) (address : UInt64) :
    nextAccess address m = match Processor.locate (.buffers locals) m.window address with
      | .error e => (.error e, m.accessed)
      | .ok found => (.ok (0, found), m.accessed) := by
  have undisturbed (access : Nat) : m.disturb access = m := by
    unfold Machine.disturb
    rw [sees.disturbances]
    rfl
  unfold nextAccess
  rw [bind_ok (modify_apply _ m)]
  dsimp only
  rw [undisturbed, bind_ok (get_apply _)]
  show (match Processor.locate m.accessed.processor.view m.window address with
    | .error e => throw e
    | .ok target => pure (Processor.flips m.accessed.processor.disturbances
      m.accessed.processor.accesses, target) : Act (UInt32 × Option Target)) m.accessed = _
  rw [show m.accessed.processor.view = _ from sees.view,
    show m.accessed.processor.disturbances = _ from sees.disturbances]
  cases Processor.locate (.buffers locals) m.window address <;> rfl

/-- An access to a word that is served finds it in its place. -/
theorem nextAccess_inv (sees : m.Sees locals) (served : m.window.Serves locals address.toNat 4)
    {result : UInt32 × Option Target} (h : nextAccess address m = (.ok result, m')) :
    result = (0, some (m.window.place address.toNat)) ∧ m' = m.accessed := by
  rw [nextAccess_apply sees] at h
  rcases found : Processor.locate (.buffers locals) m.window address with e | target
  · rw [found] at h
    cases h
  · rw [found] at h
    cases h
    exact ⟨congrArg _ (Processor.locate_inv served found), rfl⟩

theorem nextAccess_ok (sees : m.Sees locals) (below : address.toNat + 4 < Geometry.wordLimit) :
    ∃ found, nextAccess address m = (.ok (0, found), m.accessed) := by
  obtain ⟨found, located⟩ := Processor.locate_ok locals m.window below
  refine ⟨found, ?_⟩
  rw [nextAccess_apply sees, located]

/-- **A word that is written** is laid over the bytes that were there. -/
theorem storeWord_leaves (sees : m.Sees locals) (served : m.window.Serves locals address.toNat 4)
    {value : UInt32} {u : Unit} (h : storeWord address value m = (.ok u, m')) :
    m.Leaves [] [] (Bus.lay address.toNat 4 (Bus.byteOf value) m.bus) m' := by
  obtain ⟨result, m₁, next, rest⟩ := bind_ok_inv h
  obtain ⟨rfl, rfl⟩ := nextAccess_inv sees served next
  obtain rfl : (m.accessed.store (m.window.place address.toNat)
      (Bytes.ofWord (value ^^^ 0))) = m' := (Prod.mk.inj rest).2
  refine m.accessed_leaves.trans
    (.of_bare (Machine.bare_store _ _ _) (Machine.pending_store _ _ _) ?_)
  exact Machine.bus_store (m := m.accessed) served (by decide) (Bus.toList_ofWord value)

theorem storeWord_ok (sees : m.Sees locals) (below : address.toNat + 4 < Geometry.wordLimit)
    (value : UInt32) : ∃ m', storeWord address value m = (.ok (), m') := by
  obtain ⟨found, next⟩ := nextAccess_ok sees below
  unfold storeWord
  rw [bind_ok next]
  cases found <;> exact ⟨_, rfl⟩

/-- **A word that is read** is that of the bus. -/
theorem loadWord_leaves (sees : m.Sees locals) (served : m.window.Serves locals address.toNat 4)
    {value : UInt32} (h : loadWord address m = (.ok value, m')) :
    value = Bus.word m.bus address.toNat ∧ m.Leaves [] [] m.bus m' := by
  obtain ⟨result, m₁, next, rest⟩ := bind_ok_inv h
  obtain ⟨rfl, rfl⟩ := nextAccess_inv sees served next
  cases rest
  refine ⟨?_, m.accessed_leaves⟩
  show Bytes.toWord (m.accessed.fetch (m.window.place address.toNat) 4) ^^^ 0 = _
  rw [UInt32.xor_zero]
  exact congrArg (fun bytes => UInt32.ofNat (Bytes.toNat bytes))
    (Machine.fetch_place (m := m.accessed) served (by decide))

theorem loadWord_ok (sees : m.Sees locals) (below : address.toNat + 4 < Geometry.wordLimit) :
    ∃ value m', loadWord address m = (.ok value, m') := by
  obtain ⟨found, next⟩ := nextAccess_ok sees below
  unfold loadWord
  rw [bind_ok next]
  cases found <;> exact ⟨_, _, rfl⟩

end Act

/-! ## Filling and comparing a range -/

namespace SelfTest

variable {m m' : Machine} {locals : List Buffer} {address : UInt64}

/-- Words that are written one after another are spelled out. -/
theorem fillWords_leaves {word : Nat → UInt32} {k n : Nat} (sees : m.Sees locals)
    (served : m.window.Serves locals (address.toNat + 4 * k) (4 * n)) {u : Unit}
    (h : fillWords address word (List.range' k n) m = (.ok u, m')) :
    m.Leaves [] [] (Bus.lay (address.toNat + 4 * k) (4 * n)
      (fun j => Bus.spell word (4 * k + j)) m.bus) m' := by
  induction n generalizing k m with
  | zero =>
    cases h
    rw [Bus.lay_zero]
    exact .refl _
  | succ n ih =>
    rw [List.range'_succ] at h
    obtain ⟨a, m₁, addressed, rest⟩ := bind_ok_inv h
    obtain ⟨here, rfl⟩ := Act.word_inv addressed
    obtain ⟨_, m₂, stored, rest⟩ := bind_ok_inv rest
    have first := Act.storeWord_leaves sees
      (by rw [here]; exact served.part (by omega) (by omega)) stored
    have others := ih (sees.congr first.setting)
      (first.serves (served.part (by omega) (by omega))) rest
    have spelled (j : Nat) (hj : j < 4) :
        Bus.byteOf (word k) j = Bus.spell word (4 * k + j) := by
      unfold Bus.spell
      rw [show (4 * k + j) / 4 = k by omega, show (4 * k + j) % 4 = j by omega]
    have onwards : (fun j => Bus.spell word (4 * (k + 1) + j))
        = fun j => Bus.spell word (4 * k + (4 + j)) := by
      funext j
      rw [← Nat.add_assoc, Nat.mul_succ]
    have next : address.toNat + 4 * (k + 1) = address.toNat + 4 * k + 4 := by omega
    have joined := Bus.lay_lay (address.toNat + 4 * k) 4 (4 * n)
      (fun j => Bus.spell word (4 * k + j)) m.bus
    rw [next, onwards, first.bus, here, Bus.lay_congr spelled, joined] at others
    rw [Nat.mul_succ, Nat.add_comm (4 * n)]
    exact first.trans others

/-- A test range filled with words. -/
def filled (address : UInt64) (word : Nat → UInt32) (g : Nat → UInt8) : Nat → UInt8 :=
  Bus.lay address.toNat testSize (Bus.spell word) g

/-- The words of a range that was filled can be read again. -/
theorem word_filled {word : Nat → UInt32} {i : Nat} (h : i < testWords) (g : Nat → UInt8) :
    Bus.word (filled address word g) (address.toNat + 4 * i) = word i := by
  unfold filled
  rw [show testSize = 4 * testWords from rfl]
  exact Bus.word_lay_spell h

/-- **A range that is filled** holds the words one after another. -/
theorem fill_leaves {word : Nat → UInt32} (sees : m.Sees locals)
    (served : m.window.Serves locals address.toNat testSize) {u : Unit}
    (h : fill address word m = (.ok u, m')) :
    m.Leaves [] [] (filled address word m.bus) m' := by
  unfold fill at h
  rw [List.range_eq_range'] at h
  have filled := fillWords_leaves sees served h
  simp only [Nat.mul_zero, Nat.zero_add, Nat.add_zero] at filled
  exact filled

/-- A range is filled to its end where it ends below the top of the address space. -/
theorem fillWords_ok {word : Nat → UInt32} {k n : Nat} (sees : m.Sees locals)
    (served : m.window.Serves locals (address.toNat + 4 * k) (4 * n))
    (below : address.toNat + 4 * (k + n) < Geometry.wordLimit) :
    ∃ m', fillWords address word (List.range' k n) m = (.ok (), m') := by
  induction n generalizing k m with
  | zero => exact ⟨m, rfl⟩
  | succ n ih =>
    rw [List.range'_succ, fillWords]
    have addressed := Act.word_ok (show address.toNat + 4 * k < Geometry.wordLimit by omega) m
    obtain ⟨here, -⟩ := Act.word_inv addressed
    obtain ⟨m₁, stored⟩ := Act.storeWord_ok sees (by rw [here]; omega) (word k)
    have first := Act.storeWord_leaves sees
      (by rw [here]; exact served.part (by omega) (by omega)) stored
    obtain ⟨m', others⟩ := ih (k := k + 1) (sees.congr first.setting)
      (first.serves (served.part (by omega) (by omega))) (by omega)
    exact ⟨m', (bind_ok addressed).trans ((bind_ok stored).trans others)⟩

theorem fill_ok (word : Nat → UInt32) (sees : m.Sees locals)
    (served : m.window.Serves locals address.toNat testSize)
    (below : address.toNat + testSize < Geometry.wordLimit) :
    ∃ m', fill address word m = (.ok (), m') := by
  unfold fill
  rw [List.range_eq_range']
  exact fillWords_ok sees served (by rw [Nat.zero_add]; exact below)

/-- **The words that are found wrong** where they are compared with a pattern. -/
def mismatched (g : Nat → UInt8) (a : Nat) (base : UInt32) (ns : List Nat) (ms : Mismatches) :
    Mismatches :=
  ns.foldl (fun ms i => if Bus.word g (a + 4 * i) = patternWord base i then ms
    else ms.push ⟨i, patternWord base i, Bus.word g (a + 4 * i)⟩) ms

/-- **A comparison** finds what the bus shows and leaves it alone. -/
theorem compareWords_leaves {base : UInt32} {ns : List Nat} {ms found : Mismatches}
    (sees : m.Sees locals)
    (served : ∀ i ∈ ns, m.window.Serves locals (address.toNat + 4 * i) 4)
    (h : compareWords address base ns ms m = (.ok found, m')) :
    found = mismatched m.bus address.toNat base ns ms ∧ m.Leaves [] [] m.bus m' := by
  induction ns generalizing m ms with
  | nil =>
    cases h
    exact ⟨rfl, .refl _⟩
  | cons i ns ih =>
    obtain ⟨a, m₁, addressed, rest⟩ := bind_ok_inv h
    obtain ⟨here, rfl⟩ := Act.word_inv addressed
    obtain ⟨actual, m₂, loaded, rest⟩ := bind_ok_inv rest
    obtain ⟨rfl, first⟩ := Act.loadWord_leaves sees
      (by rw [here]; exact served i List.mem_cons_self) loaded
    obtain ⟨rfl, others⟩ := ih (sees.congr first.setting)
      (fun j hj => first.serves (served j (List.mem_cons_of_mem i hj))) rest
    have both := first.trans others
    rw [first.bus] at both
    rw [first.bus, here]
    exact ⟨rfl, both⟩

/-- The words of a test range lie in it. -/
theorem word_within {i : Nat} (h : i < testWords) : 4 * i + 4 ≤ testSize := by
  unfold testWords at h
  omega

/-- A range of memory holds a pattern. -/
def Holds (g : Nat → UInt8) (a : Nat) (base : UInt32) : Prop :=
  ∀ i < testWords, Bus.word g (a + 4 * i) = patternWord base i

/-- No word is found wrong where all of them are those of the pattern. -/
theorem count_mismatched {g : Nat → UInt8} {a : Nat} {base : UInt32} {ns : List Nat}
    {ms : Mismatches} : (mismatched g a base ns ms).count = 0
      ↔ ms.count = 0 ∧ ∀ i ∈ ns, Bus.word g (a + 4 * i) = patternWord base i := by
  induction ns generalizing ms with
  | nil => exact ⟨fun h => ⟨h, fun _ hi => nomatch hi⟩, fun h => h.1⟩
  | cons i ns ih =>
    rw [List.forall_mem_cons]
    show (mismatched g a base ns (if _ then ms else _)).count = 0 ↔ _
    rw [ih]
    split
    · next same => exact ⟨fun h => ⟨h.1, same, h.2⟩, fun h => ⟨h.1, h.2.2⟩⟩
    · next other =>
      exact ⟨fun h => absurd h.1 (Nat.succ_ne_zero ms.count), fun h => absurd h.2.1 other⟩

/-- **How a comparison ends.** -/
def judged (g : Nat → UInt8) (a : Nat) (base : UInt32) : StepOutcome :=
  let ms := mismatched g a base (List.range testWords) {}
  if ms.count = 0 then .passed else .mismatch ms

/-- A comparison is passed where the range holds the pattern. -/
theorem judged_eq_passed {g : Nat → UInt8} {a : Nat} {base : UInt32} :
    judged g a base = .passed ↔ Holds g a base := by
  have clear : (mismatched g a base (List.range testWords) {}).count = 0 ↔ Holds g a base := by
    rw [count_mismatched]
    exact ⟨fun h i hi => h.2 i (List.mem_range.mpr hi),
      fun h => ⟨rfl, fun i hi => h i (List.mem_range.mp hi)⟩⟩
  rw [← clear]
  unfold judged
  dsimp only
  split
  · next none => exact ⟨fun _ => none, fun _ => rfl⟩
  · next some => exact ⟨fun h => StepOutcome.noConfusion h, fun none => absurd none some⟩

/-- **A range that is verified** is judged by what the bus shows, and left
alone. -/
theorem verify_leaves {base : UInt32} {outcome : StepOutcome} (sees : m.Sees locals)
    (served : m.window.Serves locals address.toNat testSize)
    (h : verify address base m = (.ok outcome, m')) :
    outcome = judged m.bus address.toNat base ∧ m.Leaves [] [] m.bus m' := by
  obtain ⟨ms, m₁, compared, rest⟩ := bind_ok_inv h
  obtain ⟨rfl, left⟩ := compareWords_leaves sees (fun i hi => served.part (by omega) (by
    have := word_within (List.mem_range.mp hi)
    omega)) compared
  obtain ⟨verdict, rfl⟩ := Prod.mk.inj rest
  exact ⟨(Except.ok.inj verdict).symm, left⟩

/-- A comparison comes to its end where its words end below the top of the
address space. -/
theorem compareWords_ok {base : UInt32} {ns : List Nat} (ms : Mismatches) (sees : m.Sees locals)
    (served : ∀ i ∈ ns, m.window.Serves locals (address.toNat + 4 * i) 4)
    (below : ∀ i ∈ ns, address.toNat + 4 * i + 4 < Geometry.wordLimit) :
    ∃ found m', compareWords address base ns ms m = (.ok found, m') := by
  induction ns generalizing m ms with
  | nil => exact ⟨ms, m, rfl⟩
  | cons i ns ih =>
    have bound := below i List.mem_cons_self
    have addressed := Act.word_ok (show address.toNat + 4 * i < Geometry.wordLimit by omega) m
    obtain ⟨here, -⟩ := Act.word_inv addressed
    obtain ⟨actual, m₁, loaded⟩ := Act.loadWord_ok sees (by rw [here]; exact bound)
    obtain ⟨-, first⟩ := Act.loadWord_leaves sees
      (by rw [here]; exact served i List.mem_cons_self) loaded
    obtain ⟨found, m', others⟩ := ih
      (if actual = patternWord base i then ms else ms.push ⟨i, patternWord base i, actual⟩)
      (sees.congr first.setting)
      (fun j hj => first.serves (served j (List.mem_cons_of_mem i hj)))
      (fun j hj => below j (List.mem_cons_of_mem i hj))
    exact ⟨found, m', (bind_ok addressed).trans ((bind_ok loaded).trans others)⟩

theorem verify_ok (base : UInt32) (sees : m.Sees locals)
    (served : m.window.Serves locals address.toNat testSize)
    (below : address.toNat + testSize < Geometry.wordLimit) :
    ∃ outcome m', verify address base m = (.ok outcome, m') := by
  have within {i : Nat} (hi : i ∈ List.range testWords) : 4 * i + 4 ≤ testSize :=
    word_within (List.mem_range.mp hi)
  have compared : ∃ found m', compareWords address base (List.range testWords) {} m
      = (.ok found, m') :=
    compareWords_ok {} sees
      (fun i hi => served.part (by omega) (by have := within hi; omega))
      (fun i hi => by have := within hi; omega)
  obtain ⟨found, m', compared⟩ := compared
  exact ⟨_, m', bind_ok compared⟩

end SelfTest

end RemoteDisk
