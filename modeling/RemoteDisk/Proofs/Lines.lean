import Mathlib.Data.List.Basic
import RemoteDisk.Machine
import RemoteDisk.Proofs.Acts

/-!
# Walks over cache lines

The cursor of a flush starts on the line of the first byte of its range and goes
from line to line. What it passes can be told beforehand by the numbers of these
lines (`CacheLine.walkFrom_eq`): they follow one another up to the end of the range,
and the cursor steps out of the address space where the last of them is the
topmost line there is.

So the lines that are flushed are those that meet the range
(`CacheLine.mem_lines`), and a flush comes to its end exactly where its range is
empty or ends at least a line below the top.
-/

namespace RemoteDisk

namespace CacheLine

variable {bound k n len : Nat} {address line : UInt64}

/-! ## Lines by their numbers -/

/-- **Lines that follow one another**: `n` of them, from line number `k` on. -/
def span (k n : Nat) : List UInt64 :=
  (List.range' k n).map fun i => UInt64.ofNat (i * Geometry.lineSize)

theorem span_succ (k n : Nat) :
    span k (n + 1) = UInt64.ofNat (k * Geometry.lineSize) :: span (k + 1) n := by
  unfold span
  rw [List.range'_succ, List.map_cons]

/-- The address of a line in the address space. -/
theorem toNat_line {i : Nat} (below : (k + n) * Geometry.lineSize ≤ Geometry.wordLimit)
    (h : i < k + n) :
    (UInt64.ofNat (i * Geometry.lineSize)).toNat = i * Geometry.lineSize := by
  refine UInt64.toNat_ofNat_of_lt' ?_
  show _ < Geometry.wordLimit
  unfold Geometry.lineSize Geometry.wordLimit at *
  omega

/-- Lines that follow one another are all lines between two addresses. -/
theorem mem_span (below : (k + n) * Geometry.lineSize ≤ Geometry.wordLimit) :
    line ∈ span k n ↔ Geometry.lineSize ∣ line.toNat
      ∧ k * Geometry.lineSize ≤ line.toNat ∧ line.toNat < (k + n) * Geometry.lineSize := by
  unfold span
  simp only [List.mem_map, List.mem_range'_1]
  constructor
  · rintro ⟨i, ⟨from_, to_⟩, rfl⟩
    rw [toNat_line below to_]
    unfold Geometry.lineSize
    omega
  · rintro ⟨⟨i, place⟩, from_, to_⟩
    rw [Nat.mul_comm] at place
    have inside : k ≤ i ∧ i < k + n := by
      rw [place] at from_ to_
      unfold Geometry.lineSize at from_ to_
      omega
    refine ⟨i, inside, ?_⟩
    rw [← place, UInt64.ofNat_toNat]

/-- Of lines that follow one another each lies above the one before. -/
theorem pairwise_span (below : (k + n) * Geometry.lineSize ≤ Geometry.wordLimit) :
    (span k n).Pairwise (· < ·) := by
  have ascending : (List.range' k n).Pairwise (· < ·) := List.pairwise_lt_range'
  unfold span
  rw [List.pairwise_map]
  refine ascending.imp_of_mem fun {i j} hi hj less => ?_
  rw [UInt64.lt_iff_toNat_lt, toNat_line below (List.mem_range'_1.mp hi).2,
    toNat_line below (List.mem_range'_1.mp hj).2]
  exact Nat.mul_lt_mul_of_pos_right less (by decide)

/-! ## Where a cursor comes to rest -/

/-- How many lines a cursor on line `k` has before it. -/
def ahead (bound k : Nat) : Nat := (bound + (Geometry.lineSize - 1)) / Geometry.lineSize - k

theorem ahead_of_lt (h : k * Geometry.lineSize < bound) :
    ahead bound k = ahead bound (k + 1) + 1 := by
  unfold ahead Geometry.lineSize at *
  omega

theorem ahead_of_le (h : bound ≤ k * Geometry.lineSize) : ahead bound k = 0 := by
  unfold ahead Geometry.lineSize at *
  omega

/-- **The walk of a cursor in full**: it passes every line up to its bound, and
leaves the address space where the last of them is the topmost one. -/
theorem walkFrom_eq (below : bound < Geometry.wordLimit) (seen : Array UInt64) :
    walkFrom bound (k * Geometry.lineSize) seen = ⟨seen ++ span k (ahead bound k),
      decide (k * Geometry.lineSize < bound
        ∧ Geometry.wordLimit < bound + Geometry.lineSize)⟩ := by
  induction left : ahead bound k generalizing k seen with
  | zero =>
    have done : ¬k * Geometry.lineSize < bound := fun h => by
      rw [ahead_of_lt h] at left
      cases left
    rw [walkFrom, if_neg done, decide_eq_false fun h => done h.1]
    rfl
  | succ n ih =>
    have here : k * Geometry.lineSize < bound := by
      by_contra done
      rw [ahead_of_le (Nat.not_lt.mp done)] at left
      cases left
    have next : k * Geometry.lineSize + Geometry.lineSize = (k + 1) * Geometry.lineSize :=
      (Nat.succ_mul k _).symm
    rw [ahead_of_lt here] at left
    rw [walkFrom, if_pos here, next, span_succ, Array.appendList_cons]
    dsimp only
    split
    · next fits =>
      -- if the topmost line is one of those to be flushed, it is still to come
      have top : (k + 1) * Geometry.lineSize < bound
            ∧ Geometry.wordLimit < bound + Geometry.lineSize
          ↔ k * Geometry.lineSize < bound
            ∧ Geometry.wordLimit < bound + Geometry.lineSize := by
        unfold Geometry.lineSize Geometry.wordLimit at *
        omega
      rw [ih _ (Nat.succ.inj left)]
      exact congrArg _ (decide_eq_decide.mpr top)
    · next leaves =>
      have last : n = 0 := by
        rw [← Nat.succ.inj left]
        exact ahead_of_le (Nat.le_of_lt (Nat.lt_of_lt_of_le below (Nat.not_lt.mp leaves)))
      have top : k * Geometry.lineSize < bound
          ∧ Geometry.wordLimit < bound + Geometry.lineSize := by
        omega
      rw [last, decide_eq_true top]
      rfl

/-! ## The lines of a range -/

/-- **A line that meets a range**, which is cut off at the top of the address space:
it starts at a multiple of the line size, and one of its bytes lies in the range. -/
structure Meets (line address : UInt64) (len : Nat) : Prop where
  aligned : Geometry.lineSize ∣ line.toNat
  shares : ∃ b, line.toNat ≤ b ∧ b < line.toNat + Geometry.lineSize
    ∧ address.toNat ≤ b ∧ b < address.toNat + len ∧ b < Geometry.wordLimit

/-- The lines that meet a range start between the line of its first byte and its
end. -/
theorem meets_iff : Meets line address len ↔ len ≠ 0 ∧ Geometry.lineSize ∣ line.toNat
    ∧ address.toNat / Geometry.lineSize * Geometry.lineSize ≤ line.toNat
    ∧ line.toNat < stop address len := by
  have address_lt : address.toNat < Geometry.wordLimit := address.toNat_lt
  have line_lt : line.toNat < Geometry.wordLimit := line.toNat_lt
  constructor
  · rintro ⟨aligned, b, shared⟩
    refine ⟨?_, aligned, ?_⟩
    all_goals
      unfold stop Geometry.lineSize Geometry.wordLimit at *
      omega
  · rintro ⟨some, aligned, from_, to_⟩
    refine ⟨aligned, max line.toNat address.toNat, ?_⟩
    unfold stop Geometry.lineSize Geometry.wordLimit at *
    omega

/-- **The walk over a range in full.** -/
theorem walk_full (some : len ≠ 0) :
    lines address len = span (address.toNat / Geometry.lineSize)
        (ahead (stop address len) (address.toNat / Geometry.lineSize))
      ∧ (overruns address len = true
        ↔ Geometry.wordLimit < address.toNat + len + Geometry.lineSize) := by
  have address_lt : address.toNat < Geometry.wordLimit := address.toNat_lt
  have below : stop address len < Geometry.wordLimit :=
    Nat.lt_of_le_of_lt (Nat.min_le_right _ _) (by decide)
  unfold lines overruns walk
  rw [if_neg some, first, walkFrom_eq below]
  refine ⟨Array.toList_appendList, ?_⟩
  rw [decide_eq_true_iff]
  unfold stop Geometry.lineSize Geometry.wordLimit at *
  omega

/-- The last of these lines is in the address space. -/
theorem ahead_stop (address : UInt64) (len : Nat) :
    (address.toNat / Geometry.lineSize
      + ahead (stop address len) (address.toNat / Geometry.lineSize)) * Geometry.lineSize
      ≤ Geometry.wordLimit := by
  have address_lt : address.toNat < Geometry.wordLimit := address.toNat_lt
  unfold ahead stop Geometry.lineSize Geometry.wordLimit at *
  omega

/-- Nothing is flushed of an empty range. -/
theorem lines_zero (address : UInt64) : lines address 0 = [] := rfl

/-- **The lines that are flushed** are those that meet the range. -/
theorem mem_lines : line ∈ lines address len ↔ Meets line address len := by
  rw [meets_iff]
  by_cases some : len = 0
  · rw [some, lines_zero]
    exact iff_of_false List.not_mem_nil fun h => h.1 rfl
  · have address_lt : address.toNat < Geometry.wordLimit := address.toNat_lt
    rw [(walk_full some).1, mem_span (ahead_stop address len)]
    refine Iff.trans ?_ (and_iff_right some).symm
    unfold ahead stop Geometry.lineSize Geometry.wordLimit at *
    omega

/-- **Lines are flushed in ascending order.** -/
theorem pairwise_lines (address : UInt64) (len : Nat) : (lines address len).Pairwise (· < ·) := by
  by_cases some : len = 0
  · rw [some, lines_zero]
    exact .nil
  · rw [(walk_full some).1]
    exact pairwise_span (ahead_stop address len)

/-- **A cursor leaves the address space** behind a range that ends in the topmost
line or is cut off at the top. -/
theorem overruns_iff : overruns address len = true
    ↔ len ≠ 0 ∧ Geometry.wordLimit < address.toNat + len + Geometry.lineSize := by
  by_cases some : len = 0
  · rw [some]
    exact iff_of_false Bool.false_ne_true fun h => h.1 rfl
  · rw [(walk_full some).2, and_iff_right some]

/-- **A flush comes to its end** where its range ends a line below the top
of the address space. -/
theorem overruns_eq_false
    (below : address.toNat + len + Geometry.lineSize ≤ Geometry.wordLimit) :
    overruns address len = false :=
  Bool.eq_false_iff.mpr fun h => Nat.not_lt.mpr below (overruns_iff.mp h).2

end CacheLine

open Op

/-- **Flushes are exact.** The lines of a range are flushed once each, from the lowest
to the topmost, and no other line is. The flush then comes to its end where its range is
empty or ends at least a line below the top of the address space; behind every other
range the cursor overflows, and the flush with it. -/
theorem Act.flush_exactly (address : UInt64) (len : Nat) :
    let ends := len = 0 ∨ address.toNat + len ≤ Geometry.wordLimit - Geometry.lineSize
    (∀ line, line ∈ CacheLine.lines address len ↔ CacheLine.Meets line address len)
      ∧ (CacheLine.lines address len).Pairwise (· < ·)
      ∧ ((CacheLine.walk address len).overran = false ↔ ends)
      ∧ ∀ m, flush address len m = (if ends then .ok () else .error .overflow,
        { m with flushes := m.flushes.push ⟨address, len⟩ }) := by
  intro ends
  have overran : CacheLine.overruns address len = false ↔ ends := by
    rw [← Bool.not_eq_true, CacheLine.overruns_iff]
    unfold ends Geometry.lineSize Geometry.wordLimit
    omega
  refine ⟨fun line => CacheLine.mem_lines, CacheLine.pairwise_lines address len, overran,
    fun m => ?_⟩
  unfold flush
  rw [bind_ok (modify_apply _ m)]
  cases left : CacheLine.overruns address len with
  | false =>
    rw [if_pos (overran.mp left)]
    rfl
  | true =>
    rw [if_neg fun comes => Bool.noConfusion (left.symm.trans (overran.mpr comes))]
    rfl

/-- The last byte of the address space lies in the topmost line, which is flushed before
the cursor overflows. -/
example : CacheLine.walk 0xffffffffffffffff 1 = ⟨#[0xffffffffffffffc0], true⟩ := by
  cbv

end RemoteDisk
