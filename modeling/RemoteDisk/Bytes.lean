/-!
# Byte strings

Numbers travel through memory with their least significant byte first:
`Bytes.ofNat` writes a number into a given count of bytes and `Bytes.toNat`
reads it back. The self test and the exercise fill memory with counting
words, which `Bytes.counting` lays out.
-/

namespace RemoteDisk.Bytes

/-- The lowest `count` bytes of a number, least significant first. -/
def ofNat : (count n : Nat) → List UInt8
  | 0, _ => []
  | count + 1, n => UInt8.ofNat n :: ofNat count (n / 256)

/-- The number that bytes stand for, least significant first. -/
def toNat : List UInt8 → Nat
  | [] => 0
  | b :: rest => b.toNat + 256 * toNat rest

@[simp] theorem length_ofNat (count n : Nat) : (ofNat count n).length = count := by
  induction count generalizing n with
  | zero => rfl
  | succ c ih => simp [ofNat, ih]

/-- **Reading back gives the number that was written**, modulo what the
bytes can hold. -/
theorem toNat_ofNat (count n : Nat) : toNat (ofNat count n) = n % Nat.pow 256 count := by
  induction count generalizing n with
  | zero => exact (Nat.mod_one n).symm
  | succ c ih =>
    show (UInt8.ofNat n).toNat + 256 * toNat (ofNat c (n / 256)) = n % (Nat.pow 256 c * 256)
    rw [ih, Nat.mul_comm (Nat.pow 256 c), Nat.mod_mul]
    rfl

/-- The four bytes of a register word. -/
def ofWord (w : UInt32) : ByteArray := (ofNat 4 w.toNat).toByteArray

/-- The register word that four bytes stand for. -/
def toWord (bytes : ByteArray) : UInt32 := UInt32.ofNat (toNat bytes.data.toList)

/-- The eight bytes of a counter. -/
def ofCounter (c : UInt64) : ByteArray := (ofNat 8 c.toNat).toByteArray

/-- One byte, repeated. -/
def fill (count : Nat) (b : UInt8) : ByteArray := ⟨Array.replicate count b⟩

@[simp] theorem size_fill (count : Nat) (b : UInt8) : (fill count b).size = count := by
  simp [fill, ← ByteArray.size_data]

/-- A word's four bytes, appended to what is there. -/
def pushWord (acc : ByteArray) (w : UInt32) : ByteArray :=
  (((acc.push w.toUInt8).push (w >>> 8).toUInt8).push (w >>> 16).toUInt8).push
    (w >>> 24).toUInt8

/-- Counting words from `w` on, appended to what is there. -/
def pushCounting : (count : Nat) → UInt32 → ByteArray → ByteArray
  | 0, _, acc => acc
  | count + 1, w, acc => pushCounting count (w + 1) (pushWord acc w)

/-- **The first `len` bytes of the words `base`, `base + 1`, …**, wrapping
at the top of a word. -/
def counting (base : UInt32) (len : Nat) : ByteArray :=
  (pushCounting ((len + 3) / 4) base (ByteArray.emptyWithCapacity (len + 3))).extract 0 len

/-- `piece` laid over the start of `buffer`; what it does not reach stays,
and what reaches past the end is cut off. -/
def overlay (piece buffer : ByteArray) : ByteArray :=
  piece.extract 0 buffer.size ++ buffer.extract piece.size buffer.size

/-- `piece` laid over `buffer` from an offset on. -/
def overlayAt (offset : Nat) (piece buffer : ByteArray) : ByteArray :=
  buffer.extract 0 offset ++ overlay piece (buffer.extract offset buffer.size)

end RemoteDisk.Bytes
