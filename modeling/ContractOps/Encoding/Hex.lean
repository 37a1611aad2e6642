/-!
# Hexadecimal text

Octets are written as two lower case digits each, most significant first (`Hex.encode`). The value
of a digit is known in either case (`Hex.value?`).
-/

namespace ContractOps

/-- A sequence of octets. -/
abbrev Bytes := List UInt8

namespace Bytes

/-- The number of an octet is below 256. -/
theorem toNat_ofNat {n : Nat} (h : n < 256) : (UInt8.ofNat n).toNat = n :=
  UInt8.toNat_ofNat_of_lt' h

/-- An octet is known by its number. -/
theorem ofNat_eq (b : UInt8) {n : Nat} (h : n = b.toNat) : UInt8.ofNat n = b := by
  rw [h, UInt8.ofNat_toNat]

end Bytes

namespace Hex

/-- The lower case digit of a number below sixteen. -/
def digit (n : Nat) : Char := if n < 10 then Char.ofNat (48 + n) else Char.ofNat (87 + n)

/-- The last `width` hexadecimal digits of a number. -/
def padded (width n : Nat) : List Char :=
  match width with
  | 0 => []
  | width + 1 => padded width (n / 16) ++ [digit (n % 16)]

/-- The value of a hexadecimal digit in either case. -/
def value? (c : Char) : Option Nat :=
  if '0' ≤ c ∧ c ≤ '9' then some (c.toNat - 48)
  else if 'a' ≤ c ∧ c ≤ 'f' then some (c.toNat - 87)
  else if 'A' ≤ c ∧ c ≤ 'F' then some (c.toNat - 55)
  else none

/-- Two digits for every octet. -/
def encode (bytes : Bytes) : List Char := bytes.flatMap fun b => padded 2 b.toNat

theorem value?_digit {n : Nat} (h : n < 16) : value? (digit n) = some n := by
  revert n
  decide

end Hex

end ContractOps
