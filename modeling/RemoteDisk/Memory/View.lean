import RemoteDisk.Memory

/-!
# Memory by its bytes

`Memory.byte` says what a memory holds, and reading and writing are
described by it alone: a range that is read is the bytes at its addresses
(`getElem_read`), and a write changes exactly the bytes of its range
(`byte_write`). No statement about a memory has to mention its pages.
-/

namespace RemoteDisk

namespace Page

/-- **A page overwritten**: inside the piece its bytes, outside the bytes
that were there. -/
theorem byte_overwrite (p : Page) (offset : Nat) (piece : ByteArray)
    (fits : offset + piece.size ≤ Geometry.pageSize) (o : Nat) (h : o < Geometry.pageSize) :
    (p.overwrite offset piece fits).byte o h =
      if inside : offset ≤ o ∧ o < offset + piece.size then
        piece[o - offset]
      else p.byte o h := by
  have size := p.size_bytes
  have front : (p.bytes.extract 0 offset).size = offset := by
    rw [ByteArray.size_extract, size]
    omega
  have both : (p.bytes.extract 0 offset ++ piece).size = offset + piece.size := by
    rw [ByteArray.size_append, front]
  have bound : o < (p.bytes.extract 0 offset ++ piece
      ++ p.bytes.extract (offset + piece.size) Geometry.pageSize).size := by
    rw [ByteArray.size_append, both, ByteArray.size_extract, size]
    omega
  show (p.bytes.extract 0 offset ++ piece
    ++ p.bytes.extract (offset + piece.size) Geometry.pageSize)[o] = _
  by_cases before : o < offset
  · rw [dif_neg (by omega), ByteArray.getElem_append_left (by omega),
      ByteArray.getElem_append_left (by omega), ByteArray.getElem_extract]
    simp only [Nat.zero_add]
    rfl
  · by_cases within : o < offset + piece.size
    · rw [dif_pos ⟨by omega, within⟩, ByteArray.getElem_append_left (by omega),
        ByteArray.getElem_append_right (by omega)]
      simp only [front]
    · rw [dif_neg (by omega), ByteArray.getElem_append_right (by omega),
        ByteArray.getElem_extract]
      have place : offset + piece.size + (o - (p.bytes.extract 0 offset ++ piece).size) = o := by
        omega
      simp only [place]
      rfl

end Page

namespace Memory

/-! ## Reading -/

/-- A run is not empty where something is left to be read. -/
theorem run_pos (address : Nat) {count : Nat} (h : 0 < count) : 0 < run address count := by
  have := Nat.mod_lt address (show 0 < Geometry.pageSize by decide)
  unfold run
  omega

/-- A run ends within its page. -/
theorem run_le_page (address count : Nat) :
    address % Geometry.pageSize + run address count ≤ Geometry.pageSize := by
  have := Nat.mod_lt address (show 0 < Geometry.pageSize by decide)
  unfold run
  omega

/-- A run is no longer than what is left. -/
theorem run_le (address count : Nat) : run address count ≤ count := Nat.min_le_left _ _

/-- The page and the offset of an address in the same run. -/
theorem same_page (address count : Nat) {i : Nat} (h : i < run address count) :
    (address + i) / Geometry.pageSize = address / Geometry.pageSize ∧
      (address + i) % Geometry.pageSize = address % Geometry.pageSize + i := by
  have := run_le_page address count
  unfold Geometry.pageSize at *
  omega

/-- The size of what a page adds to a reading. -/
theorem size_piece (m : Memory) (address count : Nat) :
    ((m.page (address / Geometry.pageSize)).bytes.extract (address % Geometry.pageSize)
      (address % Geometry.pageSize + run address count)).size = run address count := by
  have := run_le_page address count
  rw [ByteArray.size_extract, Page.size_bytes]
  omega

/-- Reading adds as many bytes as were asked for. -/
theorem size_readOnto (m : Memory) (fuel address count : Nat) (acc : ByteArray)
    (enough : count ≤ fuel) : (m.readOnto fuel address count acc).size = acc.size + count := by
  induction fuel generalizing address count acc with
  | zero =>
    have : count = 0 := by omega
    simp [readOnto, this]
  | succ fuel ih =>
    rw [readOnto]
    split
    · omega
    · have pos := run_pos address (show 0 < count by omega)
      have le := run_le address count
      rw [ih _ _ _ (by omega), ByteArray.size_append, size_piece]
      omega

/-- **A range that is read has the length asked for.** -/
@[simp] theorem size_read (m : Memory) (address count : Nat) :
    (m.read address count).size = count := by
  rw [read, size_readOnto _ _ _ _ _ (Nat.le_refl _)]
  exact Nat.zero_add _

/-- A reading keeps what was there before it. -/
theorem getElem_readOnto_left (m : Memory) (fuel address count : Nat) (acc : ByteArray)
    (enough : count ≤ fuel) {i : Nat} (h : i < acc.size)
    (h' : i < (m.readOnto fuel address count acc).size) :
    (m.readOnto fuel address count acc)[i] = acc[i] := by
  induction fuel generalizing address count acc with
  | zero => rfl
  | succ fuel ih =>
    simp only [readOnto] at h' ⊢
    split
    · rfl
    · have pos := run_pos address (show 0 < count by omega)
      rw [ih _ _ _ (by omega) (by rw [ByteArray.size_append]; omega),
        ByteArray.getElem_append_left h]

/-- The bytes that a reading adds. -/
theorem getElem_readOnto_right (m : Memory) (fuel address count : Nat) (acc : ByteArray)
    (enough : count ≤ fuel) {i : Nat} (h : i < count)
    (h' : acc.size + i < (m.readOnto fuel address count acc).size) :
    (m.readOnto fuel address count acc)[acc.size + i] = m.byte (address + i) := by
  induction fuel generalizing address count acc i with
  | zero => omega
  | succ fuel ih =>
    simp only [readOnto] at h' ⊢
    split
    · omega
    · have pos := run_pos address (show 0 < count by omega)
      have size := size_piece m address count
      by_cases near : i < run address count
      · rw [getElem_readOnto_left _ _ _ _ _ (by omega) (by
            rw [ByteArray.size_append, size]
            omega),
          ByteArray.getElem_append_right (by omega), ByteArray.getElem_extract]
        obtain ⟨number, offset⟩ := same_page _ _ near
        simp only [byte, number, offset, Nat.add_sub_cancel_left]
        rfl
      · have step := ih (address + run address count) (count - run address count)
          (acc ++ (m.page (address / Geometry.pageSize)).bytes.extract
            (address % Geometry.pageSize) (address % Geometry.pageSize + run address count))
          (by omega) (show i - run address count < _ by omega)
          (by
            rw [size_readOnto _ _ _ _ _ (by omega)]
            omega)
        have place : (acc ++ (m.page (address / Geometry.pageSize)).bytes.extract
            (address % Geometry.pageSize)
            (address % Geometry.pageSize + run address count)).size
              + (i - run address count) = acc.size + i := by
          rw [ByteArray.size_append, size]
          omega
        have there : address + run address count + (i - run address count) = address + i := by
          omega
        simp only [place, there] at step
        exact step

/-- **Reading gives the bytes of the range.** -/
theorem getElem_read (m : Memory) (address count : Nat) {i : Nat}
    (h : i < (m.read address count).size) :
    (m.read address count)[i] = m.byte (address + i) := by
  have bound : i < count := by rwa [size_read] at h
  have start : (ByteArray.emptyWithCapacity count).size = 0 := rfl
  have step := getElem_readOnto_right m count address count (ByteArray.emptyWithCapacity count)
    (Nat.le_refl _) bound (by
      rw [size_readOnto _ _ _ _ _ (Nat.le_refl _)]
      omega)
  simp only [start, Nat.zero_add] at step
  exact step

/-- Two memories with the same bytes read the same. -/
theorem read_congr {m n : Memory} {address count : Nat}
    (h : ∀ i < count, m.byte (address + i) = n.byte (address + i)) :
    m.read address count = n.read address count := by
  apply ByteArray.ext_getElem
  · rw [size_read, size_read]
  · intro i hi hi'
    rw [getElem_read, getElem_read]
    exact h i (by rwa [size_read] at hi)

/-! ## Writing -/

/-- A page put in place of another. -/
theorem byte_insert (m : Memory) (number : Nat) (p : Page) (b : Nat) :
    Memory.byte ⟨m.pages.insert number p⟩ b =
      if b / Geometry.pageSize = number then
        p.byte (b % Geometry.pageSize) (Nat.mod_lt _ (by decide))
      else m.byte b := by
  simp only [byte, page, Std.TreeMap.getD_insert, Nat.compare_eq_eq, @eq_comm _ number]
  split <;> rfl

/-- The bytes after a write that has come as far as `start`. -/
theorem byte_writeFrom (data : ByteArray) (fuel address start : Nat) (m : Memory)
    (enough : data.size - start ≤ fuel) (b : Nat) :
    (writeFrom data fuel address start m).byte b =
      if inside : address ≤ b ∧ b < address + (data.size - start) then
        data[start + (b - address)]
      else m.byte b := by
  induction fuel generalizing address start m with
  | zero => rw [writeFrom, dif_neg (by omega)]
  | succ fuel ih =>
    rw [writeFrom]
    split
    · next left =>
      have pos := run_pos address (show 0 < data.size - start by omega)
      have le := run_le address (data.size - start)
      have page := run_le_page address (data.size - start)
      rw [ih _ _ _ (by omega)]
      by_cases far : address + run address (data.size - start) ≤ b
      · by_cases last : b < address + (data.size - start)
        · rw [dif_pos ⟨far, by omega⟩, dif_pos ⟨by omega, last⟩]
          congr 1
          omega
        · rw [dif_neg (by omega), dif_neg (by omega), byte_insert]
          split
          · next number =>
            rw [Page.byte_overwrite, dif_neg]
            · simp only [byte, number]
            · rw [ByteArray.size_extract]
              unfold Geometry.pageSize at *
              omega
          · rfl
      · rw [dif_neg (by omega), byte_insert]
        by_cases first : address ≤ b
        · obtain ⟨number, offset⟩ := same_page address (data.size - start)
            (show b - address < _ by omega)
          rw [show address + (b - address) = b by omega] at number offset
          rw [if_pos number, Page.byte_overwrite, dif_pos (by
              rw [ByteArray.size_extract]
              omega),
            dif_pos ⟨first, by omega⟩, ByteArray.getElem_extract]
          congr 1
          omega
        · rw [dif_neg (by omega)]
          split
          · next number =>
            rw [Page.byte_overwrite, dif_neg]
            · simp only [byte, number]
            · unfold Geometry.pageSize at *
              omega
          · rfl
    · rw [dif_neg (by omega)]

/-- **A write changes the bytes of its range**, to the bytes written, and no
other. -/
theorem byte_write (m : Memory) (address : Nat) (data : ByteArray) (b : Nat) :
    (m.write address data).byte b =
      if inside : address ≤ b ∧ b < address + data.size then
        data[b - address]
      else m.byte b := by
  rw [write, byte_writeFrom _ _ _ _ _ (by omega)]
  simp only [Nat.sub_zero, Nat.zero_add]

/-- **Reading a range back gives the bytes that were written to it.** -/
theorem read_write (m : Memory) (address : Nat) (data : ByteArray) :
    (m.write address data).read address data.size = data := by
  apply ByteArray.ext_getElem
  · rw [size_read]
  · intro i hi hi'
    rw [getElem_read, byte_write, dif_pos ⟨by omega, by omega⟩]
    simp only [Nat.add_sub_cancel_left]

/-- **A write leaves the ranges beside it alone.** -/
theorem read_write_of_disjoint (m : Memory) (address : Nat) (data : ByteArray)
    {start count : Nat} (h : start + count ≤ address ∨ address + data.size ≤ start) :
    (m.write address data).read start count = m.read start count := by
  refine read_congr fun i hi => ?_
  rw [byte_write, dif_neg (by omega)]

/-! ## Ranges side by side -/

/-- **A range is read in two parts.** -/
theorem read_append (m : Memory) (address n k : Nat) :
    m.read address n ++ m.read (address + n) k = m.read address (n + k) := by
  apply ByteArray.ext_getElem
  · rw [ByteArray.size_append, size_read, size_read, size_read]
  · intro i hi hi'
    rw [getElem_read]
    by_cases near : i < n
    · rw [ByteArray.getElem_append_left (by rwa [size_read]), getElem_read]
    · rw [ByteArray.getElem_append_right (by rw [size_read]; omega), getElem_read, size_read]
      congr 1
      omega

/-- A part of a range that is read is the range of that part. -/
theorem extract_read (m : Memory) (address : Nat) {n i j : Nat} (stop : j ≤ n) :
    (m.read address n).extract i j = m.read (address + i) (j - i) := by
  have size : ((m.read address n).extract i j).size = j - i := by
    rw [ByteArray.size_extract, size_read, Nat.min_eq_left stop]
  apply ByteArray.ext_getElem
  · rw [size, size_read]
  · intro k hk hk'
    rw [ByteArray.getElem_extract, getElem_read, getElem_read, Nat.add_assoc]

/-- What a write leaves at an address depends on what was there alone. -/
theorem byte_write_congr {m n : Memory} {b : Nat} (h : m.byte b = n.byte b) (address : Nat)
    (data : ByteArray) : (m.write address data).byte b = (n.write address data).byte b := by
  rw [byte_write, byte_write, h]

/-- **Two writes side by side are one.** -/
theorem byte_write_append (m : Memory) (address : Nat) (x y : ByteArray) (b : Nat) :
    ((m.write address x).write (address + x.size) y).byte b
      = (m.write address (x ++ y)).byte b := by
  have size : (x ++ y).size = x.size + y.size := ByteArray.size_append
  rw [byte_write, byte_write, byte_write]
  by_cases second : address + x.size ≤ b ∧ b < address + x.size + y.size
  · rw [dif_pos second, dif_pos ⟨by omega, by omega⟩, ByteArray.getElem_append_right (by omega)]
    congr 1
    omega
  · rw [dif_neg second]
    by_cases first : address ≤ b ∧ b < address + x.size
    · rw [dif_pos first, dif_pos ⟨first.1, by omega⟩, ByteArray.getElem_append_left]
    · rw [dif_neg first, dif_neg (by omega)]

/-- A write of nothing leaves every byte alone. -/
theorem byte_write_empty (m : Memory) (address b : Nat) :
    (m.write address ByteArray.empty).byte b = m.byte b := by
  rw [byte_write, dif_neg]
  rintro ⟨start, stop⟩
  exact Nat.not_lt.mpr start stop

/-- **A range that is written inside another** is replaced there. -/
theorem read_write_inside (m : Memory) (address : Nat) (data : ByteArray) {n : Nat}
    (inside : address + data.size ≤ n) :
    (m.write address data).read 0 n
      = (m.read 0 n).extract 0 address ++ data ++ (m.read 0 n).extract (address + data.size) n := by
  rw [extract_read _ _ (by omega), extract_read _ _ (Nat.le_refl n), Nat.zero_add, Nat.zero_add,
    Nat.sub_zero]
  have before : (m.write address data).read 0 address = m.read 0 address :=
    m.read_write_of_disjoint address data (.inl (by omega))
  have after : (m.write address data).read (address + data.size) (n - (address + data.size))
      = m.read (address + data.size) (n - (address + data.size)) :=
    m.read_write_of_disjoint address data (.inr (Nat.le_refl _))
  have parts := (m.write address data).read_append 0 address data.size
  rw [Nat.zero_add, m.read_write, before] at parts
  rw [← after, parts]
  have whole := (m.write address data).read_append 0 (address + data.size)
    (n - (address + data.size))
  rw [Nat.zero_add, Nat.add_sub_cancel' inside] at whole
  exact whole.symm

/-- Memory that was never written is zero. -/
theorem read_empty (address n : Nat) : Memory.read {} address n = Bytes.fill n 0 := by
  apply ByteArray.ext_getElem
  · rw [size_read, Bytes.size_fill]
  · intro i hi hi'
    have zero (offset : Nat) (h : offset < Geometry.pageSize) : Page.zero.byte offset h = 0 :=
      Array.getElem_replicate _
    have blank (number : Nat) : Memory.page {} number = Page.zero := by
      exact Std.TreeMap.getD_emptyc
    rw [getElem_read]
    unfold byte
    simp only [blank, zero]
    exact (Array.getElem_replicate _).symm

end Memory

end RemoteDisk
