import RemoteDisk.Geometry

/-!
# Words

Sectors, bus addresses and byte counts are words of 64 bits. A number becomes a
word where it fits one, and the sum of two words is taken with an eye on the
carry, so that a sum past the top is not mistaken for a small number.
-/

namespace RemoteDisk.Word

/-- A number as a word, where it fits one. -/
def ofNat? (n : Nat) : Option UInt64 :=
  if n < Geometry.wordLimit then some (UInt64.ofNat n) else none

/-- **The sum of two words**, where there is no carry out of it. -/
def add? (a b : UInt64) : Option UInt64 :=
  if a.toBitVec.uaddOverflow b.toBitVec then none else some (a + b)

theorem ofNat?_eq_some {n : Nat} {w : UInt64} : ofNat? n = some w ↔ w.toNat = n := by
  unfold ofNat?
  split
  · next fits =>
    rw [Option.some.injEq, ← UInt64.toNat_inj, UInt64.toNat_ofNat_of_lt' fits]
    exact eq_comm
  · next long =>
    refine iff_of_false nofun fun same => long ?_
    rw [← same]
    exact w.toNat_lt

/-- **A checked sum is the exact one.** -/
theorem add?_eq_some {a b c : UInt64} : add? a b = some c ↔ c.toNat = a.toNat + b.toNat := by
  have top : c.toNat < 2 ^ 64 := c.toNat_lt
  unfold add? BitVec.uaddOverflow
  rw [UInt64.toNat_toBitVec, UInt64.toNat_toBitVec]
  split
  · next carry =>
    rw [decide_eq_true_eq] at carry
    exact iff_of_false nofun (by omega)
  · next fits =>
    rw [decide_eq_true_eq, Nat.not_le] at fits
    rw [Option.some.injEq, ← UInt64.toNat_inj, UInt64.toNat_add, Nat.mod_eq_of_lt fits]
    exact eq_comm

/-- **Where a number of units from a word on ends** is below a bound in words
exactly where it is in numbers. -/
theorem any_add?_le {a top : UInt64} {n : Nat} :
    ((ofNat? n).bind (add? a)).any (· ≤ top) = true ↔ a.toNat + n ≤ top.toNat := by
  rw [Option.any_eq_true]
  constructor
  · rintro ⟨stop, ends, below⟩
    obtain ⟨w, fits, sum⟩ := Option.bind_eq_some_iff.mp ends
    rw [← ofNat?_eq_some.mp fits, ← add?_eq_some.mp sum]
    exact UInt64.le_iff_toNat_le.mp (of_decide_eq_true below)
  · intro below
    have fits : a.toNat + n < 2 ^ 64 := Nat.lt_of_le_of_lt below top.toNat_lt
    have count : ofNat? n = some (UInt64.ofNat n) :=
      ofNat?_eq_some.mpr
      (UInt64.toNat_ofNat_of_lt' (Nat.lt_of_le_of_lt (Nat.le_add_left n _) fits))
    have stop := UInt64.toNat_ofNat_of_lt' (n := a.toNat + n) fits
    have sum : add? a (UInt64.ofNat n) = some (UInt64.ofNat (a.toNat + n)) := by
      rw [add?_eq_some, stop, ofNat?_eq_some.mp count]
    refine ⟨_, Option.bind_eq_some_iff.mpr ⟨_, count, sum⟩, decide_eq_true ?_⟩
    rw [UInt64.le_iff_toNat_le, stop]
    exact below

end RemoteDisk.Word
