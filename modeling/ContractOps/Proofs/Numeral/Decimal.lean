import ContractOps.Numeral.Decimal
import ContractOps.Proofs.Numeral.Shortest
import Mathlib.Data.Rat.Floor

/-!
# Decimal products

A product keeps its first twenty-eight digits, and the others are rounded to zeros
(`Decimal.significant`). This keeps products in their order (`significant_mono`), across powers of
ten too, and it leaves alone what has no more digits than that (`significant_eq`). In the range that
is used here nothing else happens to a product (`rounded_eq`), so that the ceiling of a product is
the ceiling of what is kept of it (`ceil_scale`).
-/

namespace ContractOps

/-! ## Nearest integers -/

namespace Binary64

variable {n m d : Nat}

theorem nearest_mul_self (q : Nat) (hd : 0 < d) : nearest (q * d) d = q := by
  rw [nearest, Nat.mul_div_cancel q hd, Nat.mul_mod_left, if_neg (by omega)]

theorem nearest_one (n : Nat) : nearest n 1 = n := by
  simpa using nearest_mul_self n one_pos

theorem nearest_mono (h : n ≤ m) : nearest n d ≤ nearest m d := by
  have hbelow : ∀ k, k / d ≤ nearest k d := by
    intro k
    rw [nearest]
    split <;> omega
  have habove : ∀ k, nearest k d ≤ k / d + 1 := by
    intro k
    rw [nearest]
    split <;> omega
  rcases (Nat.div_le_div_right (c := d) h).lt_or_eq with hless | heq
  · -- the integers between the two numbers keep them apart
    exact (habove n).trans (hless.trans_le (hbelow m))
  · -- with one integer part, the remainders are in order
    have hrest : n % d ≤ m % d := by
      have hn := Nat.div_add_mod n d
      have hm := Nat.div_add_mod m d
      rw [heq] at hn
      omega
    rw [nearest, nearest, heq]
    split <;> split <;> omega

end Binary64

namespace Decimal

open Binary64 (nearest)

variable {c c' : Nat} {e : Int}

/-! ## Significant digits -/

/-- A coefficient with zeros in place of the digits beyond the precision, to which it is rounded. -/
def significant (c : Nat) : Nat :=
  nearest c (10 ^ (Digits.count c - precision)) * 10 ^ (Digits.count c - precision)

theorem significant_of_short (h : Digits.count c ≤ precision) : significant c = c := by
  rw [significant, Nat.sub_eq_zero_of_le h, pow_zero, Binary64.nearest_one, mul_one]

theorem significant_zero : significant 0 = 0 :=
  significant_of_short (by rw [Digits.count_zero]; decide)

/-- A coefficient is rounded to one of as many digits, or to the next power of ten. -/
theorem significant_bounds (hc : 0 < c) :
    10 ^ (Digits.count c - 1) ≤ significant c ∧ significant c ≤ 10 ^ Digits.count c := by
  have hlow := Digits.pow_count_le hc
  have hhigh := Digits.lt_pow_count c
  by_cases hshort : Digits.count c ≤ precision
  · rw [significant_of_short hshort]
    exact ⟨hlow, hhigh.le⟩
  · obtain ⟨k, hk⟩ := Nat.exists_eq_add_of_le (Nat.le_of_not_le hshort)
    have hpos : 0 < 10 ^ k := by positivity
    have hone : precision + k - 1 = (precision - 1) + k := by
      have : 1 ≤ precision := by decide
      omega
    rw [significant, hk, Nat.add_sub_cancel_left]
    rw [hk, hone, pow_add] at hlow
    rw [hk, pow_add] at hhigh
    rw [hone, pow_add, pow_add]
    constructor
    · have hnearest := Binary64.nearest_mono (d := 10 ^ k) hlow
      rw [Binary64.nearest_mul_self _ hpos] at hnearest
      exact Nat.mul_le_mul_right _ hnearest
    · have hnearest := Binary64.nearest_mono (d := 10 ^ k) hhigh.le
      rw [Binary64.nearest_mul_self _ hpos] at hnearest
      exact Nat.mul_le_mul_right _ hnearest

theorem significant_le (c : Nat) : significant c ≤ 10 ^ Digits.count c := by
  rcases Nat.eq_zero_or_pos c with rfl | hc
  · rw [significant_zero]
    exact Nat.zero_le _
  · exact (significant_bounds hc).2

/-- Rounding keeps coefficients in order. -/
theorem significant_mono (h : c ≤ c') : significant c ≤ significant c' := by
  rcases (Digits.count_mono h).lt_or_eq with hless | heq
  · -- a power of ten lies between numbers of different length, also when they are rounded
    have hc' : 0 < c' := by
      rcases Nat.eq_zero_or_pos c' with rfl | hc'
      · rw [Nat.le_zero.mp h] at hless
        exact absurd hless (lt_irrefl _)
      · exact hc'
    calc significant c ≤ 10 ^ Digits.count c := significant_le c
      _ ≤ 10 ^ (Digits.count c' - 1) := Nat.pow_le_pow_right (by decide) (by omega)
      _ ≤ significant c' := (significant_bounds hc').1
  · rw [significant, significant, heq]
    exact Nat.mul_le_mul_right _ (Binary64.nearest_mono h)

/-- A number that can be written with as many digits as are kept stays as it is. -/
theorem significant_eq {s : Nat} {e' : Int} (hs : s < 10 ^ precision)
    (h : (c : ℚ) * 10 ^ e = s * 10 ^ e') : significant c = c := by
  have hten : (10 : ℚ) ≠ 0 := by norm_num
  by_cases hshort : Digits.count c ≤ precision
  · exact significant_of_short hshort
  obtain ⟨k, hk⟩ := Nat.exists_eq_add_of_le (Nat.le_of_not_le hshort)
  have hvalue : (c : ℚ) = s * 10 ^ (e' - e) := by
    rw [zpow_sub₀ hten, ← mul_div_assoc, ← h, mul_div_cancel_right₀ _ (zpow_ne_zero e hten)]
  -- a number of so many digits has a zero in each of the last places
  have hzeros : (k : Int) ≤ e' - e := by
    by_contra hless
    have hc : 0 < c := by
      refine Nat.pos_of_ne_zero fun hzero => hshort ?_
      rw [hzero, Digits.count_zero]
      decide
    have hlow : (10 : ℚ) ^ (precision + k - 1) ≤ c := by
      exact_mod_cast hk ▸ Digits.pow_count_le hc
    have hhigh : (c : ℚ) < 10 ^ (precision + k - 1) :=
      calc (c : ℚ) = s * 10 ^ (e' - e) := hvalue
        _ ≤ s * 10 ^ ((k - 1 : ℕ) : ℤ) := by
          gcongr
          · norm_num
          · omega
        _ < 10 ^ precision * 10 ^ (k - 1) := by
          rw [zpow_natCast]
          gcongr
          exact_mod_cast hs
        _ = 10 ^ (precision + k - 1) := by
          rw [← pow_add]
          congr 1
          omega
    exact absurd hhigh (not_lt.mpr hlow)
  obtain ⟨j, hj⟩ : ∃ j : Nat, e' - e = (j + k : Nat) := ⟨(e' - e - k).toNat, by omega⟩
  have hmultiple : c = s * 10 ^ j * 10 ^ k := by
    rw [hj, zpow_natCast, pow_add, ← mul_assoc] at hvalue
    exact_mod_cast hvalue
  rw [significant, hk, Nat.add_sub_cancel_left, hmultiple,
    Binary64.nearest_mul_self _ (by positivity)]

/-! ## Products and ceilings -/

/-- In the range of the format, rounding leaves the significant digits. -/
theorem rounded_eq (negative : Bool) (hleast : leastExponent ≤ e)
    (hmost : e + (Digits.count c : Int) ≤ maxExponent) :
    ∃ kept last, rounded negative c e = .ok (.finite negative kept last) ∧
      (kept : ℚ) * 10 ^ last = significant c * 10 ^ e := by
  have hlost : excess c e = Digits.count c - precision := by
    rw [excess]
    omega
  generalize hk : Digits.count c - precision = k at hlost
  have hkept : (if k = 0 then c else if k > Digits.count c then 0 else nearest c (Nat.pow 10 k)) =
      nearest c (10 ^ k) := by
    split
    · next hzero => rw [hzero, pow_zero, Binary64.nearest_one]
    · rw [if_neg (by omega), Nat.pow_eq]
  have hfits : e + k + (Digits.count (nearest c (10 ^ k)) : Int) - 1 ≤ maxExponent := by
    have hpower : nearest c (10 ^ k) ≤ 10 ^ (Digits.count c - k) := by
      have hle := significant_le c
      rw [significant, hk, ← Nat.sub_add_cancel (by omega : k ≤ Digits.count c), pow_add] at hle
      exact Nat.le_of_mul_le_mul_right hle (by positivity)
    have hcount := Digits.count_mono hpower
    rw [Digits.count_pow] at hcount
    omega
  refine ⟨nearest c (10 ^ k), e + k, ?_, ?_⟩
  · rw [rounded, hlost, hkept, if_neg fun h => absurd h.2 (not_lt.mpr hfits)]
  · rw [significant, hk, zpow_add₀ (by norm_num), zpow_natCast]
    push_cast
    ring

/-- The ceiling of a decimal number is that of its value. -/
theorem ceil_finite (negative : Bool) (c : Nat) (e : Int) :
    ceil (.finite negative c e) = .ok ⌈(if negative then -(c : ℚ) else c) * 10 ^ e⌉ := by
  rw [ceil]
  congr 1
  generalize hsigned : (if negative then -(c : Int) else c) = n
  have hvalue : (if negative then -(c : ℚ) else c) = n := by
    rw [← hsigned]
    split <;> simp
  rw [hvalue]
  split
  · next hzero =>
    obtain rfl : n = 0 := by
      rw [← hsigned, hzero]
      simp
    simp
  split
  · next hexponent =>
    obtain ⟨k, rfl⟩ := Int.eq_ofNat_of_zero_le hexponent
    have hcast : (n : ℚ) * 10 ^ (k : ℤ) = (n * 10 ^ k : ℤ) := by
      push_cast
      rfl
    rw [hcast, Int.ceil_intCast]
    rfl
  · next hexponent =>
    obtain ⟨k, rfl⟩ : ∃ k : Nat, e = -k := ⟨(-e).toNat, by omega⟩
    have hcast : (n : ℚ) * 10 ^ (-(k : ℤ)) = -(((-n : ℤ) : ℚ) / (10 ^ k : ℕ)) := by
      rw [zpow_neg, zpow_natCast]
      push_cast
      ring
    have hpower : Int.pow 10 (-(-(k : Int))).toNat = (10 ^ k : ℕ) := by
      rw [show (-(-(k : Int))).toNat = k by omega]
      exact (Nat.cast_pow 10 k).symm
    rw [hcast, Int.ceil_neg, Rat.floor_intCast_div_natCast, hpower,
      Int.fdiv_eq_ediv_of_nonneg _ (Int.natCast_nonneg _)]

/-- The ceiling of a product with a whole number is that of its significant digits. -/
theorem ceil_scale {negative : Bool} (hsign : negative = true → c = 0) {g : Nat}
    (hleast : leastExponent ≤ e) (hmost : e + (Digits.count (c * g) : Int) ≤ maxExponent) :
    ((Decimal.finite negative c e).scale g >>= ceil) =
      .ok ⌈(significant (c * g) : ℚ) * 10 ^ e⌉ := by
  obtain ⟨kept, last, hrounded, hvalue⟩ := rounded_eq negative hleast hmost
  have hscale : (Decimal.finite negative c e).scale g = .ok (.finite negative kept last) := by
    have hnonnegative : decide ((g : Int) < 0) = false := decide_eq_false (by omega)
    rw [scale, hnonnegative, Bool.bne_false, Int.natAbs_natCast, hrounded]
  -- only a zero has a minus sign
  have hplain : (if negative then -(kept : ℚ) else kept) * 10 ^ last = kept * 10 ^ last := by
    split
    · next hnegative =>
      have hzero : significant (c * g) = 0 := by
        rw [hsign hnegative, zero_mul, significant_zero]
      rw [hzero, Nat.cast_zero, zero_mul] at hvalue
      rw [neg_mul, hvalue, neg_zero]
    · rfl
  calc ((Decimal.finite negative c e).scale g >>= ceil)
      = ceil (.finite negative kept last) := by
        rw [hscale]
        rfl
    _ = .ok ⌈(significant (c * g) : ℚ) * 10 ^ e⌉ := by rw [ceil_finite, hplain, hvalue]

end Decimal

end ContractOps
