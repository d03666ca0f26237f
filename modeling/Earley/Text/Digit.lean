/-
Earley.Text.Digit — numbers written in digits.

`hexDigits` writes the last digits of a number; `numberOf` reads digits of any base up to sixteen.
-/
namespace Earley.Text

/-! ## Writing -/

/-- The character of a digit: `0` to `9`, then `a` to `f`. -/
def hexDigit (d : Nat) : Char := if d < 10 then Char.ofNat (0x30 + d) else Char.ofNat (0x57 + d)

/-- The last `width` hexadecimal digits of `n`, the highest first. -/
def hexDigits : (width : Nat) → (n : Nat) → List Char
  | 0, _ => []
  | width + 1, n => hexDigits width (n / 16) ++ [hexDigit (n % 16)]

@[simp] theorem length_hexDigits (width n : Nat) : (hexDigits width n).length = width := by
  induction width generalizing n with
  | zero => rfl
  | succ width ih => simp [hexDigits, ih]

/-! ## Reading -/

/-- A digit of an octal number. -/
def isOctalDigit (c : Char) : Bool := decide ('0' ≤ c) && decide (c ≤ '7')

/-- A digit of a hexadecimal number, in either case. -/
def isHexDigit (c : Char) : Bool :=
  c.isDigit || (decide ('a' ≤ c) && decide (c ≤ 'f')) || (decide ('A' ≤ c) && decide (c ≤ 'F'))

/-- The value of a digit. -/
def digitValue (c : Char) : Nat :=
  if c.isDigit then c.toNat - 0x30
  else if decide ('a' ≤ c) && decide (c ≤ 'f') then c.toNat - 0x57
  else if decide ('A' ≤ c) && decide (c ≤ 'F') then c.toNat - 0x37
  else 0

/-- The number that digits write, the highest first. -/
def numberOf (base : Nat) (digits : List Char) : Nat :=
  digits.foldl (fun n c => n * base + digitValue c) 0

/-- A digit is read as what it was written for. -/
theorem digitValue_hexDigit {d : Nat} (h : d < 16) : digitValue (hexDigit d) = d := by
  have all : ∀ e ∈ List.range 16, digitValue (hexDigit e) = e := by decide
  exact all d (List.mem_range.2 h)

/-- The number of values that `width` hexadecimal digits have. -/
def hexRange : (width : Nat) → Nat
  | 0 => 1
  | width + 1 => 16 * hexRange width

/-- Digits that were written are read as the number, as far as they reach. -/
theorem numberOf_hexDigits (width n : Nat) :
    numberOf 16 (hexDigits width n) = n % hexRange width := by
  induction width generalizing n with
  | zero => simp [hexDigits, numberOf, hexRange, Nat.mod_one]
  | succ width ih =>
    have ih := ih (n / 16)
    rw [numberOf] at ih
    rw [hexDigits, numberOf, List.foldl_append, ih, List.foldl_cons, List.foldl_nil,
      digitValue_hexDigit (Nat.mod_lt _ (by decide)), hexRange, Nat.mod_mul, Nat.mul_comm]
    omega

end Earley.Text
