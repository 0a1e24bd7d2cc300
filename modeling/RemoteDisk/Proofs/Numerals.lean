import Mathlib.Algebra.Order.Floor.Div
import Mathlib.Data.List.Induction
import RemoteDisk.Text.Hex

/-!
# Hexadecimal numerals

A numeral is a list of lower-case digits, and the number it stands for is what reading
them from the left gives. What ties numerals to the digits that are written is one step:
a numeral with a digit at its end stands for `n` exactly where the rest stands for `n / 16`
and the digit is that of `n % 16` (`Hex.spells_concat`). By it, the numerals of a number
are its digit strings of fixed width, of every width that has room for it
(`Hex.spells_iff`), and there is one of each width.

Padding chooses among these widths, and leaves no choice: of the numerals with at least so
many digits, only one has no zero to spare in front (`Hex.pads_iff`).

A register word's digits are those of its nibbles, which are computed as bytes. The code
of a character is a sum that a byte cannot always hold, but that of a nibble's digit is
(`Hex.nibbleDigits?_eq`).
-/

namespace RemoteDisk.Hex

variable {ds ds' : List Char} {n width : Nat}

/-! ## Single digits -/

/-- The lower-case digits, by their values. -/
def alphabet : List Char :=
  ['0', '1', '2', '3', '4', '5', '6', '7', '8', '9', 'a', 'b', 'c', 'd', 'e', 'f']

theorem alphabet_eq : alphabet = (List.range 16).map digit := by decide

/-- The alphabet holds the digits of the numbers below sixteen, and nothing else. -/
theorem mem_alphabet {c : Char} : c ∈ alphabet ↔ ∃ v < 16, digit v = c := by
  rw [alphabet_eq, List.mem_map]
  simp only [List.mem_range]

theorem digitValue?_digit (h : n < 16) : digitValue? (digit n) = some n := by
  revert n
  decide

theorem digitChar_eq_digit (h : n < 16) : Nat.digitChar n = digit n := by
  revert n
  decide

/-! ## Numerals -/

/-- **A numeral of a number**: lower-case digits that read as it. -/
structure Spells (ds : List Char) (n : Nat) : Prop where
  /-- All are digits, none of them upper-case. -/
  lower : ∀ c ∈ ds, c ∈ alphabet
  /-- Read from the left they give the number. -/
  value : value? ds = some n

/-- The number that a numeral stands for. -/
def number? (ds : List Char) : Option Nat :=
  if ds.all alphabet.contains then value? ds else none

theorem number?_eq_some_iff : number? ds = some n ↔ Spells ds n := by
  have all : ds.all alphabet.contains ↔ ∀ c ∈ ds, c ∈ alphabet := by
    simp only [List.all_eq_true, List.contains_iff_mem]
  unfold number?
  split
  · next lower => exact ⟨fun value => ⟨all.mp lower, value⟩, fun h => h.value⟩
  · next upper => exact ⟨(nomatch ·), fun h => absurd (all.mpr h.lower) upper⟩

instance : Decidable (Spells ds n) := decidable_of_iff _ number?_eq_some_iff

theorem value?_concat (ds : List Char) (c : Char) :
    value? (ds ++ [c])
      = (value? ds).bind fun n => (digitValue? c).map (n * 16 + ·) := by
  simp [value?, List.foldlM_append]

/-- **One digit more.** The last digit of a numeral is the remainder, and those before it
are a numeral of the quotient. -/
theorem spells_concat {c : Char} :
    Spells (ds ++ [c]) n ↔ Spells ds (n / 16) ∧ c = digit (n % 16) := by
  constructor
  · rintro ⟨lower, value⟩
    obtain ⟨v, small, rfl⟩ := mem_alphabet.mp (lower c (by simp))
    rw [value?_concat, digitValue?_digit small] at value
    obtain ⟨m, front, last⟩ := Option.bind_eq_some_iff.mp value
    have sum : m * 16 + v = n := Option.some.inj last
    have quotient : n / 16 = m := by omega
    have remainder : n % 16 = v := by omega
    rw [quotient, remainder]
    exact ⟨⟨fun d hd => lower d (by simp [hd]), front⟩, rfl⟩
  · rintro ⟨⟨lower, value⟩, rfl⟩
    have small : n % 16 < 16 := Nat.mod_lt n (by decide)
    refine ⟨fun d hd => ?_, ?_⟩
    · rcases List.mem_append.mp hd with front | last
      · exact lower d front
      · rw [List.mem_singleton.mp last]
        exact mem_alphabet.mpr ⟨_, small, rfl⟩
    · rw [value?_concat, value, digitValue?_digit small]
      show some (n / 16 * 16 + n % 16) = some n
      rw [Nat.div_add_mod']

/-- No digits stand for zero. -/
theorem spells_nil : Spells [] 0 := ⟨by simp, rfl⟩

/-- **The numerals of a number** are its digits of fixed width, where that width has room
for it. -/
theorem spells_iff : Spells ds n ↔ ds = fixed ds.length n ∧ n < 16 ^ ds.length := by
  induction ds using List.reverseRecOn generalizing n with
  | nil =>
    constructor
    · rintro ⟨_, value⟩
      cases value
      exact ⟨rfl, by decide⟩
    · rintro ⟨_, small⟩
      obtain rfl : n = 0 := by simpa using small
      exact spells_nil
  | append_singleton ds c ih =>
    have room : n / 16 < 16 ^ ds.length ↔ n < 16 ^ (ds.length + 1) := by
      rw [Nat.pow_succ, Nat.div_lt_iff_lt_mul (by decide)]
    have digits : ds ++ [c] = fixed (ds.length + 1) n
        ↔ ds = fixed ds.length (n / 16) ∧ c = digit (n % 16) := by
      rw [fixed, ← List.concat_eq_append, ← List.concat_eq_append, List.concat_inj]
    rw [spells_concat, ih, List.length_append, List.length_singleton, digits, room]
    tauto

/-- A number has one numeral of each width. -/
theorem Spells.eq (h : Spells ds n) (h' : Spells ds' n) (same : ds.length = ds'.length) :
    ds = ds' := by
  rw [(spells_iff.mp h).1, (spells_iff.mp h').1, same]

/-- A character that is no digit is not part of a numeral. -/
theorem Spells.not_mem {c : Char} (h : Spells ds n) (other : c ∉ alphabet) : c ∉ ds :=
  fun hc => other (h.lower c hc)

theorem spells_fixed (room : n < 16 ^ width) : Spells (fixed width n) n :=
  spells_iff.mpr (by simpa using room)

/-- Eight digits have room for a register word. -/
theorem spells_word (w : UInt32) : Spells (fixed 8 w.toNat) w.toNat := spells_fixed w.toNat_lt

/-- A zero in front changes nothing. -/
theorem spells_zero_cons : Spells ('0' :: ds) n ↔ Spells ds n :=
  ⟨fun h => ⟨fun c hc => h.lower c (List.mem_cons_of_mem _ hc), h.value⟩,
    fun h => ⟨List.forall_mem_cons.mpr ⟨by decide, h.lower⟩, h.value⟩⟩

theorem Spells.zeros (h : Spells ds n) (k : Nat) : Spells (List.replicate k '0' ++ ds) n := by
  induction k with
  | zero => exact h
  | succ k ih => exact spells_zero_cons.mpr ih

/-- The digits of a number are a numeral of it. -/
theorem spells_digits (n : Nat) : Spells (digits n) n := by
  induction n using Nat.strongRecOn with
  | ind n ih =>
    have small : n % 16 < 16 := Nat.mod_lt n (by decide)
    unfold digits
    rw [Nat.toDigits_eq_if (by decide)]
    split
    · next one =>
      show Spells ([] ++ [Nat.digitChar n]) n
      rw [spells_concat, Nat.div_eq_of_lt one, Nat.mod_eq_of_lt one]
      exact ⟨spells_nil, digitChar_eq_digit one⟩
    · exact spells_concat.mpr ⟨ih (n / 16) (by omega), digitChar_eq_digit small⟩

/-! ## Padding -/

/-- **A padded numeral**: at least so many digits, and where there are more, the first of
them is not a zero. -/
structure Pads (width n : Nat) (ds : List Char) : Prop extends Spells ds n where
  /-- There are digits enough. -/
  wide : width ≤ ds.length
  /-- No zero stands in front of digits enough. -/
  tight : width < ds.length → ds.head? ≠ some '0'

instance : Decidable (Pads width n ds) :=
  decidable_of_iff
    (Spells ds n ∧ width ≤ ds.length ∧ (width < ds.length → ds.head? ≠ some '0'))
    ⟨fun ⟨spells, wide, tight⟩ => ⟨spells, wide, tight⟩,
      fun ⟨spells, wide, tight⟩ => ⟨spells, wide, tight⟩⟩

/-- What fits some digits is written with at most so many. -/
theorem length_digits_le_iff {k : Nat} (pos : 0 < k) :
    (digits n).length ≤ k ↔ n < 16 ^ k :=
  Nat.length_toDigits_le_iff (by decide) pos

theorem length_padded (width n : Nat) :
    (padded width n).length = max width (digits n).length := by
  rw [padded, List.length_append, List.length_replicate]
  omega

/-- Padding gives a padded numeral. -/
theorem pads_padded (pos : 0 < width) (n : Nat) : Pads width n (padded width n) := by
  refine ⟨(spells_digits n).zeros _, ?_, fun more front => ?_⟩
  · rw [length_padded]
    exact Nat.le_max_left _ _
  · rw [length_padded] at more
    -- nothing is filled up, so the zero in front would be one of the digits
    have long : width < (digits n).length := by omega
    have all : padded width n = digits n := by
      rw [padded, Nat.sub_eq_zero_of_le (Nat.le_of_lt long)]
      rfl
    rw [all] at front
    obtain ⟨rest, split⟩ : ∃ rest, digits n = '0' :: rest := List.head?_eq_some_iff.mp front
    have shorter : Spells rest n := spells_zero_cons.mp (split ▸ spells_digits n)
    rw [split, List.length_cons] at long
    have room : n < 16 ^ rest.length := (spells_iff.mp shorter).2
    rw [← length_digits_le_iff (by omega), split, List.length_cons] at room
    omega

/-- A number has one padded numeral of a width and no other. -/
theorem pads_iff (pos : 0 < width) : Pads width n ds ↔ ds = padded width n := by
  refine ⟨fun h => h.toSpells.eq (pads_padded pos n).toSpells ?_, fun h => h ▸ pads_padded pos n⟩
  have wide := h.wide
  have enough := (length_digits_le_iff (Nat.lt_of_lt_of_le pos wide)).mpr
    (spells_iff.mp h.toSpells).2
  rw [length_padded]
  by_contra differ
  have more : max width (digits n).length < ds.length := by omega
  -- with a digit to spare, the numeral starts with a zero
  have room : n < 16 ^ (ds.length - 1) := (length_digits_le_iff (by omega)).mp (by omega)
  have zero : ds = '0' :: fixed (ds.length - 1) n := by
    refine h.toSpells.eq (spells_zero_cons.mpr (spells_fixed room)) ?_
    rw [List.length_cons, length_fixed]
    omega
  exact h.tight (by omega) (by rw [zero, List.head?_cons])

/-! ## Nibbles -/

/-- What a digit's character code is summed up from, in bytes. The sum may be too large
for one. -/
def code (n : UInt8) : Nat := if n < 10 then 48 + n.toNat else 97 + (n - 10).toNat

theorem code_eq (n : UInt8) :
    code n = if n.toNat < 10 then 48 + n.toNat else 87 + n.toNat := by
  unfold code
  split
  · next one => rw [if_pos (show n.toNat < 10 from UInt8.lt_iff_toNat_lt.mp one)]
  · next two =>
    have ten : 10 ≤ n.toNat := Nat.not_lt.mp fun h => two (UInt8.lt_iff_toNat_lt.mpr h)
    have left : (n - 10).toNat = n.toNat - 10 :=
      UInt8.toNat_sub_of_le n 10 (UInt8.le_iff_toNat_le.mpr ten)
    rw [if_neg (Nat.not_lt.mpr ten), left]
    omega

/-- **A byte has a digit where the sum is a byte**, and it is the character with this
code. -/
theorem digit?_eq (n : UInt8) :
    digit? n = if code n < 256 then some (Char.ofNat (code n)) else none := by
  rw [code_eq]
  unfold digit? digit
  by_cases one : n.toNat < 10
  · rw [if_pos one, if_pos one, if_pos (by omega), if_pos (by omega)]
  · rw [if_neg one, if_neg one]
    exact if_congr (by omega) rfl rfl

/-- The nibble of a word that stands behind `i` others, as a byte. -/
def nibble (w : UInt32) (i : Nat) : UInt8 :=
  ((w >>> UInt32.ofNat ((7 - i) * 4)) &&& 0xf).toUInt8

theorem toNat_nibble (w : UInt32) (i : Nat) :
    (nibble w i).toNat = w.toNat / 16 ^ (7 - i) % 16 := by
  have shift : (UInt32.ofNat ((7 - i) * 4)).toNat % 32 = 4 * (7 - i) := by
    rw [UInt32.toNat_ofNat_of_lt' (by show _ < 4294967296; omega)]
    omega
  have mask (n : Nat) : n &&& 0xf = n % 16 := Nat.and_two_pow_sub_one_eq_mod n 4
  have power : 16 ^ (7 - i) = 2 ^ (4 * (7 - i)) := by rw [Nat.pow_mul]
  unfold nibble
  rw [UInt32.toNat_toUInt8, UInt32.toNat_and, UInt32.toNat_shiftRight, shift,
    Nat.shiftRight_eq_div_pow, power]
  show (_ &&& 0xf) % 256 = _
  rw [mask]
  omega

/-- A digit string, digit by digit. -/
theorem fixed_eq_map (width n : Nat) :
    fixed width n = (List.range width).map fun i => digit (n / 16 ^ (width - 1 - i) % 16) := by
  induction width generalizing n with
  | zero => rfl
  | succ w ih =>
    rw [fixed, ih, List.range_succ, List.map_append]
    congr 1
    · refine List.map_congr_left fun i hi => ?_
      have behind : w + 1 - 1 - i = (w - 1 - i) + 1 := by
        have := List.mem_range.mp hi
        omega
      rw [behind, Nat.pow_succ', Nat.div_div_eq_div_mul]
    · simp

/-- The code of a nibble's digit fits a byte. -/
theorem code_nibble_lt (w : UInt32) (i : Nat) : code (nibble w i) < 256 := by
  have small : (nibble w i).toNat < 16 := by
    rw [toNat_nibble]
    exact Nat.mod_lt _ (by decide)
  rw [code_eq]
  split <;> omega

/-- Every nibble has its digit. -/
theorem digit?_nibble (w : UInt32) (i : Nat) :
    digit? (nibble w i) = some (digit (w.toNat / 16 ^ (7 - i) % 16)) := by
  rw [digit?_eq, if_pos (code_nibble_lt w i), code_eq, ← toNat_nibble, digit]
  split <;> rfl

/-- **The digits of a register word, from its nibbles**: there are none where the code of
one does not fit a byte. -/
def nibbleDigits? (w : UInt32) : Option (List Char) :=
  (List.range 8).mapM fun i => digit? (nibble w i)

/-- **Every register word has its eight digits from its nibbles.** -/
theorem nibbleDigits?_eq (w : UInt32) : nibbleDigits? w = some (fixed 8 w.toNat) := by
  unfold nibbleDigits?
  rw [funext (digit?_nibble w), fixed_eq_map]
  exact List.mapM_pure

end RemoteDisk.Hex
