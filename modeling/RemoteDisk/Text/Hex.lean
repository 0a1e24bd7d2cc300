/-!
# Hexadecimal text

Addresses are written without leading zeros, register words with exactly
eight digits and dump offsets with at least four, always in lower case.
All of them are built from one digit function: `Hex.digit` is the digit
itself, and `Hex.digit?` is the same character restricted to the values
whose character code fits one byte, which is how far a byte counter can
continue the alphabet past `f`.
-/

namespace RemoteDisk.Hex

/-- The character of a digit: `0` to `9`, then the alphabet from `a` on. -/
def digit (n : Nat) : Char :=
  if n < 10 then Char.ofNat (48 + n) else Char.ofNat (87 + n)

/-- **The digit of a byte, where its character code fits one byte.** The
code of `n` is `87 + n` from ten on, so the last value with a character is
168. -/
def digit? (n : UInt8) : Option Char :=
  if n.toNat < 169 then some (digit n.toNat) else none

/-- Exactly `width` digits: the number modulo `16 ^ width`. -/
def fixed : Nat → Nat → List Char
  | 0, _ => []
  | width + 1, n => fixed width (n / 16) ++ [digit (n % 16)]

/-- A digit string of fixed width has that width. -/
@[simp] theorem length_fixed (width n : Nat) : (fixed width n).length = width := by
  induction width generalizing n with
  | zero => rfl
  | succ w ih => simp [fixed, ih]

/-- The digits of a number, none of them a leading zero unless the number
is zero. -/
def digits (n : Nat) : List Char := Nat.toDigits 16 n

/-- At least `width` digits: zeros fill up what the number leaves. -/
def padded (width n : Nat) : List Char :=
  List.replicate (width - (digits n).length) '0' ++ digits n

/-- A number with the usual prefix, as an address is written. -/
def address (n : Nat) : String := "0x" ++ String.ofList (digits n)

/-- **A register word**: the prefix and exactly eight digits. -/
def word (w : UInt32) : String := "0x" ++ String.ofList (fixed 8 w.toNat)

/-- A bus address at full width: the prefix and sixteen digits. -/
def wide (n : Nat) : String := "0x" ++ String.ofList (fixed 16 n)

/-- Bytes as text, two digits each. -/
def ofBytes (bytes : ByteArray) : String :=
  String.ofList (bytes.data.toList.flatMap (fun b => fixed 2 b.toNat))

/-- The value of a digit, in either case. -/
def digitValue? (c : Char) : Option Nat :=
  if '0' ≤ c ∧ c ≤ '9' then some (c.toNat - 48)
  else if 'a' ≤ c ∧ c ≤ 'f' then some (c.toNat - 87)
  else if 'A' ≤ c ∧ c ≤ 'F' then some (c.toNat - 55)
  else none

/-- **The number that digits stand for.** -/
def value? (digits : List Char) : Option Nat :=
  digits.foldlM (fun n c => (digitValue? c).map (n * 16 + ·)) 0

/-- The bytes that text of two digits each stands for. -/
def bytes? : List Char → Option (List UInt8)
  | [] => some []
  | [_] => none
  | a :: b :: rest => do
    let n ← value? [a, b]
    return UInt8.ofNat n :: (← bytes? rest)

end RemoteDisk.Hex
