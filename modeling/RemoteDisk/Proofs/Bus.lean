import RemoteDisk.Memory.View
import RemoteDisk.Proofs.Peers
import RemoteDisk.Proofs.Resting

/-!
# Memory as the bus shows it

The window and local memory are one range of bus addresses: an address in the
window names a byte of the window, any other a byte of local memory. So the
contents of both are one function from addresses to bytes (`Machine.bus`). To
store bytes, wherever they lie, is to lay one function over another (`Bus.lay`),
and words of four bytes are read off it (`Bus.word`).

The processor and the engine find a range at the same place, where no edge of
the window cuts it (`Window.Serves`).
-/

namespace RemoteDisk

/-- A range that is read, byte by byte. -/
theorem Memory.toList_read (m : Memory) (address n : Nat) :
    (m.read address n).data.toList = (List.range n).map fun j => m.byte (address + j) := by
  refine List.ext_getElem ?_ fun j hj hj' => ?_
  · rw [List.length_map, List.length_range]
    exact m.size_read address n
  · rw [List.getElem_map, List.getElem_range]
    exact m.getElem_read address n hj

/-! ## Bytes by their address -/

namespace Bus

/-- **A run of bytes laid over others**, from an address on. -/
def lay (a n : Nat) (f g : Nat → UInt8) : Nat → UInt8 :=
  fun b => if a ≤ b ∧ b < a + n then f (b - a) else g b

variable {a n b k : Nat} {f g g' : Nat → UInt8}

theorem lay_inside (h : k < n) : lay a n f g (a + k) = f k := by
  unfold lay
  rw [if_pos ⟨Nat.le_add_right a k, Nat.add_lt_add_left h a⟩, Nat.add_sub_cancel_left]

theorem lay_outside (h : b < a ∨ a + n ≤ b) : lay a n f g b = g b := if_neg (by omega)

/-- A run of no bytes changes none. -/
theorem lay_zero (a : Nat) (f g : Nat → UInt8) : lay a 0 f g = g := by
  funext b
  exact if_neg (by omega)

/-- Of what is laid over others, as many bytes count as there are. -/
theorem lay_congr {f' : Nat → UInt8} (h : ∀ j < n, f j = f' j) : lay a n f g = lay a n f' g := by
  funext b
  unfold lay
  split
  · exact h _ (by omega)
  · rfl

/-- Runs that follow one another are one run. -/
theorem lay_lay (a n k : Nat) (f g : Nat → UInt8) :
    lay (a + n) k (fun j => f (n + j)) (lay a n f g) = lay a (n + k) f g := by
  funext b
  unfold lay
  by_cases low : b < a + n
  · rw [if_neg (by omega)]
    by_cases inside : a ≤ b
    · rw [if_pos ⟨inside, low⟩, if_pos ⟨inside, by omega⟩]
    · rw [if_neg (by omega), if_neg (by omega)]
  · by_cases high : b < a + n + k
    · have along : n + (b - (a + n)) = b - a := by omega
      rw [if_pos ⟨by omega, high⟩, if_pos ⟨by omega, by omega⟩]
      exact congrArg f along
    · rw [if_neg (by omega), if_neg (by omega), if_neg (by omega)]

/-- The word of four bytes at an address, the least significant byte first. -/
def word (g : Nat → UInt8) (a : Nat) : UInt32 :=
  UInt32.ofNat (Bytes.toNat ((List.range 4).map fun j => g (a + j)))

theorem word_congr {c : Nat} (h : ∀ j < 4, g (a + j) = g' (c + j)) : word g a = word g' c := by
  unfold word
  rw [List.map_congr_left fun j hj => h j (List.mem_range.mp hj)]

/-- A byte of a word. -/
def byteOf (w : UInt32) (j : Nat) : UInt8 := (Bytes.ofNat 4 w.toNat).getD j 0

/-- The bytes that a word is written as where none of its bits is flipped. -/
theorem toList_ofWord (w : UInt32) :
    (Bytes.ofWord (w ^^^ 0)).data.toList = (List.range 4).map (byteOf w) := by
  rw [UInt32.xor_zero]
  rfl

/-- **Words one after another, as bytes.** -/
def spell (w : Nat → UInt32) (j : Nat) : UInt8 := byteOf (w (j / 4)) (j % 4)

/-- The bytes of a word make up the word. -/
theorem word_of_bytes {w : UInt32} (h : ∀ j < 4, g (a + j) = byteOf w j) : word g a = w := by
  have bytes : (List.range 4).map (fun j => g (a + j)) = Bytes.ofNat 4 w.toNat :=
    List.map_congr_left fun j hj => h j (List.mem_range.mp hj)
  unfold word
  rw [bytes, Bytes.toNat_ofNat, show Nat.pow 256 4 = 2 ^ 32 from rfl, Nat.mod_eq_of_lt w.toNat_lt,
    UInt32.ofNat_toNat]

/-- **Words that are spelled out can be read.** -/
theorem word_lay_spell {w : Nat → UInt32} (h : k < n) :
    word (lay a (4 * n) (spell w) g) (a + 4 * k) = w k := by
  refine word_of_bytes fun j hj => ?_
  rw [Nat.add_assoc, lay_inside (by omega)]
  unfold spell
  rw [show (4 * k + j) / 4 = k by omega, show (4 * k + j) % 4 = j by omega]

/-- Bytes that are copied are laid over those of their destination. -/
def copy (s d n : Nat) (g : Nat → UInt8) : Nat → UInt8 := lay d n (fun j => g (s + j)) g

/-- **Words that are copied** are those of the source. -/
theorem word_copy {s d : Nat} (h : k < n) :
    word (copy s d (4 * n) g) (d + 4 * k) = word g (s + 4 * k) := by
  refine word_congr fun j hj => ?_
  unfold copy
  rw [Nat.add_assoc, lay_inside (by omega), Nat.add_assoc]

/-- A word beside the bytes that are laid over others. -/
theorem word_lay_outside (h : b + 4 ≤ a ∨ a + n ≤ b) : word (lay a n f g) b = word g b :=
  word_congr fun j hj => lay_outside (by omega)

end Bus

/-- **A write** lays bytes over those of a memory. -/
theorem Memory.write_eq_lay {m : Memory} {c n : Nat} {data : ByteArray} {f : Nat → UInt8}
    (bytes : data.data.toList = (List.range n).map f) :
    (m.write c data).byte = Bus.lay c n f m.byte := by
  have size : data.size = n := by
    have length := congrArg List.length bytes
    rwa [List.length_map, List.length_range] at length
  have get (j : Nat) (hj : j < data.size) : data[j] = f j := by
    have same := List.getElem_of_eq bytes hj
    rwa [List.getElem_map, List.getElem_range] at same
  funext b
  rw [byte_write, ← size]
  unfold Bus.lay
  split
  · exact get _ _
  · rfl

/-! ## Where a range lies -/

namespace Window

variable {w : Window} {locals : List Buffer} {a n : Nat} {address : UInt64}

/-- Where the byte at a bus address lies. -/
def place (w : Window) (a : Nat) : Target :=
  if w.base.toNat ≤ a ∧ a < w.base.toNat + w.size then .remote (a - w.base.toNat) else .nearby a

/-- **A range that is served**: it lies in the window, or outside it in one of the
processor's buffers. -/
inductive Serves (w : Window) (locals : List Buffer) (a n : Nat) : Prop
  | remote (start : w.base.toNat ≤ a) (stop : a + n ≤ w.base.toNat + w.size)
  | nearby (apart : a + n ≤ w.base.toNat ∨ w.base.toNat + w.size ≤ a)
    (held : ∃ b ∈ locals, b.base.toNat ≤ a ∧ a + n ≤ b.base.toNat + b.size)

/-- A part of a range that is served. -/
theorem Serves.part {c k : Nat} (h : w.Serves locals a n) (start : a ≤ c) (stop : c + k ≤ a + n) :
    w.Serves locals c k := by
  cases h with
  | remote low high => exact .remote (by omega) (by omega)
  | nearby apart held =>
    obtain ⟨b, hb, low, high⟩ := held
    exact .nearby (by omega) ⟨b, hb, by omega, by omega⟩

/-- **The engine finds a range there**, if it finds it anywhere. -/
theorem locate_eq_place (h : w.locate address n ≠ .invalid) :
    w.locate address n = w.place address.toNat := by
  unfold locate at h ⊢
  unfold Window.place
  by_cases inside : w.base ≤ address ∧ address.toNat - w.base.toNat < w.size
  · have start := UInt64.le_iff_toNat_le.mp inside.1
    have below := inside.2
    have within : address.toNat < w.base.toNat + w.size := by omega
    rw [if_pos inside] at h ⊢
    dsimp only at h ⊢
    split at h
    · next fits => rw [if_pos fits, if_pos ⟨start, within⟩]
    · exact absurd rfl h
  · rw [if_neg inside] at h ⊢
    split at h
    · exact absurd rfl h
    · next nonzero =>
      rw [if_neg nonzero, if_neg]
      rintro ⟨start, stop⟩
      exact inside ⟨UInt64.le_iff_toNat_le.mpr start, by omega⟩

end Window

namespace Machine

variable {m m' : Machine} {locals : List Buffer} {a n : Nat}

/-- **The byte at a bus address.** -/
def bus (m : Machine) (b : Nat) : UInt8 :=
  if m.window.base.toNat ≤ b ∧ b < m.window.base.toNat + m.window.size then
    m.window.memory.byte (b - m.window.base.toNat)
  else m.memory.byte b

theorem SameMemory.bus (h : m.SameMemory m') : m'.bus = m.bus := by
  funext b
  unfold Machine.bus
  rw [h.window, h.memory]

/-- **Bytes that are fetched** are those of the bus. -/
theorem fetch_place (h : m.window.Serves locals a n) (pos : 0 < n) :
    (m.fetch (m.window.place a) n).data.toList = (List.range n).map fun j => m.bus (a + j) := by
  cases h with
  | remote start stop =>
    rw [Window.place, if_pos ⟨start, by omega⟩]
    refine (m.window.memory.toList_read _ n).trans (List.map_congr_left fun j hj => ?_)
    have bound := List.mem_range.mp hj
    unfold bus
    rw [if_pos ⟨by omega, by omega⟩, Nat.sub_add_comm start]
  | nearby apart held =>
    rw [Window.place, if_neg (by omega)]
    refine (m.memory.toList_read a n).trans (List.map_congr_left fun j hj => ?_)
    have bound := List.mem_range.mp hj
    unfold bus
    rw [if_neg (by omega)]

/-- **Bytes that are stored** are laid over those of the bus. -/
theorem bus_store (h : m.window.Serves locals a n) (pos : 0 < n) {data : ByteArray}
    {f : Nat → UInt8} (bytes : data.data.toList = (List.range n).map f) :
    (m.store (m.window.place a) data).bus = Bus.lay a n f m.bus := by
  funext b
  cases h with
  | remote start stop =>
    rw [Window.place, if_pos ⟨start, by omega⟩]
    unfold bus store
    dsimp only
    rw [Memory.write_eq_lay bytes]
    by_cases inside : a ≤ b ∧ b < a + n
    · obtain ⟨k, rfl⟩ := Nat.exists_eq_add_of_le inside.1
      rw [if_pos (by omega), Nat.sub_add_comm start, Bus.lay_inside (by omega),
        Bus.lay_inside (by omega)]
    · rw [Bus.lay_outside (a := a) (by omega)]
      split
      · exact Bus.lay_outside (by omega)
      · rfl
  | nearby apart held =>
    rw [Window.place, if_neg (by omega)]
    unfold bus store
    dsimp only
    rw [Memory.write_eq_lay bytes]
    unfold Bus.lay
    by_cases inside : a ≤ b ∧ b < a + n
    · rw [if_neg (by omega), if_pos inside, if_pos inside]
    · rw [if_neg inside, if_neg inside]

end Machine

end RemoteDisk
