import ContractOps.Numeral.Binary64
import Mathlib.Algebra.Order.Field.Power
import Mathlib.Algebra.Order.Field.Rat
import Mathlib.Tactic.FieldSimp
import Mathlib.Tactic.Linarith
import Mathlib.Tactic.NormNum
import Mathlib.Tactic.Positivity
import Mathlib.Tactic.Ring

/-!
# Rounding to double precision

`Binary64.ofRatio` is given by the value of the ratio alone. The exponent that it takes is the only
one that the format has for this value (`exponentFor_eq`), a common factor of both parts does not
count (`ofRatio_mul`), and a ratio that is nearer to a positive number of the format than a quarter
of a unit in its last place gives that number (`ofRatio_of_close`).
-/

namespace ContractOps.Binary64

variable {num den n d m : Nat} {e : Int}

/-! ## Ratios -/

theorem scaled_den_pos (hden : 0 < den) (e : Int) : 0 < (scaled num den e).2 := by
  rw [scaled]
  split
  · exact Nat.mul_pos hden (Nat.pow_pos (by decide))
  · exact hden

/-- A scaled ratio has the value of the ratio in units of a power of two. -/
theorem scaled_value (num den : Nat) (e : Int) :
    ((scaled num den e).1 : ℚ) / (scaled num den e).2 = num / den / 2 ^ e := by
  rw [scaled]
  split
  · next h =>
    obtain ⟨k, rfl⟩ := Int.eq_ofNat_of_zero_le h
    simp [div_div]
  · next h =>
    obtain ⟨k, rfl⟩ : ∃ k : Nat, e = -k := ⟨(-e).toNat, by omega⟩
    simp [mul_div_right_comm]

theorem div_lt_iff_value (hd : 0 < d) (k : Nat) : n / d < k ↔ (n : ℚ) / d < k := by
  have hd' : (0 : ℚ) < d := by exact_mod_cast hd
  rw [Nat.div_lt_iff_lt_mul hd, div_lt_iff₀ hd']
  exact_mod_cast Iff.rfl

/-- The nearest integer is not more than a half away. -/
theorem abs_nearest_sub_le (hd : 0 < d) : |(nearest n d : ℚ) - n / d| ≤ 1 / 2 := by
  have hd' : (0 : ℚ) < d := by exact_mod_cast hd
  have hsum : (n : ℚ) = d * (n / d : ℕ) + (n % d : ℕ) := by exact_mod_cast (Nat.div_add_mod n d).symm
  have hvalue : (n : ℚ) / d = (n / d : ℕ) + (n % d : ℕ) / d := by
    rw [div_eq_iff hd'.ne', add_mul, div_mul_cancel₀ _ hd'.ne', mul_comm, ← hsum]
  have hpositive : (0 : ℚ) ≤ (n % d : ℕ) / d := by positivity
  rw [hvalue, nearest]
  split
  · next hup =>
    have hhalf : (1 : ℚ) / 2 ≤ (n % d : ℕ) / d := by
      rw [div_le_div_iff₀ (by norm_num) hd']
      exact_mod_cast (by omega : 1 * d ≤ n % d * 2)
    have hless : ((n % d : ℕ) : ℚ) / d ≤ 1 := by
      rw [div_le_one hd']
      exact_mod_cast (Nat.mod_lt n hd).le
    rw [abs_le]
    push_cast
    constructor <;> linarith
  · next hdown =>
    have hhalf : ((n % d : ℕ) : ℚ) / d ≤ 1 / 2 := by
      rw [div_le_div_iff₀ hd' (by norm_num)]
      exact_mod_cast (by omega : n % d * 2 ≤ 1 * d)
    rw [abs_le]
    constructor <;> linarith

/-- The nearest integer to a value is the one less than a half away. -/
theorem nearest_eq_of_close (hd : 0 < d) (h : |(n : ℚ) / d - m| < 1 / 2) : nearest n d = m := by
  have hnearest := abs_nearest_sub_le (n := n) hd
  have hless : |(nearest n d : ℚ) - m| < 1 := by
    calc |(nearest n d : ℚ) - m| ≤ |(nearest n d : ℚ) - n / d| + |(n : ℚ) / d - m| :=
          abs_sub_le _ _ _
      _ < 1 := by linarith
  have hint : |(nearest n d : ℤ) - m| < 1 := by exact_mod_cast hless
  rw [Int.abs_lt_one_iff] at hint
  omega

/-! ## Exponents -/

/-- The exponent that the format has for a positive value. -/
structure IsExponent (x : ℚ) (e : Int) : Prop where
  least : -1074 ≤ e
  below : x < 2 ^ (e + 53)
  above : e = -1074 ∨ 2 ^ (e + 52) ≤ x

/-- There is one such exponent only. -/
theorem IsExponent.unique {x : ℚ} {e e' : Int} (h : IsExponent x e) (h' : IsExponent x e') :
    e = e' := by
  -- the ranges of two exponents above the least one do not overlap
  have hle : ∀ {a b : Int}, IsExponent x a → IsExponent x b → b ≤ a := by
    intro a b ha hb
    rcases hb.above with rfl | habove
    · exact ha.least
    · have hlt := habove.trans_lt ha.below
      have := (zpow_lt_zpow_iff_right₀ (by norm_num : (1 : ℚ) < 2)).mp hlt
      omega
  exact le_antisymm (hle h' h) (hle h h')

/-- A ratio by the binary logarithms of its parts. -/
theorem value_bounds (hnum : 0 < num) (hden : 0 < den) :
    (2 : ℚ) ^ ((num.log2 : Int) - den.log2 - 1) < num / den ∧
      (num : ℚ) / den < 2 ^ ((num.log2 : Int) - den.log2 + 1) := by
  have hnum' : (2 : ℚ) ^ num.log2 ≤ num := by exact_mod_cast Nat.log2_self_le hnum.ne'
  have hden' : (2 : ℚ) ^ den.log2 ≤ den := by exact_mod_cast Nat.log2_self_le hden.ne'
  have hnum'' : (num : ℚ) < 2 ^ (num.log2 + 1) := by exact_mod_cast Nat.lt_log2_self
  have hden'' : (den : ℚ) < 2 ^ (den.log2 + 1) := by exact_mod_cast Nat.lt_log2_self
  have hpos : (0 : ℚ) < den := by exact_mod_cast hden
  constructor
  · rw [lt_div_iff₀ hpos]
    calc (2 : ℚ) ^ ((num.log2 : Int) - den.log2 - 1) * den
        < 2 ^ ((num.log2 : Int) - den.log2 - 1) * 2 ^ (den.log2 + 1) :=
          mul_lt_mul_of_pos_left hden'' (by positivity)
      _ = 2 ^ num.log2 := by
        rw [← zpow_natCast, ← zpow_natCast, ← zpow_add₀ (by norm_num)]
        congr 1
        push_cast
        ring
      _ ≤ num := hnum'
  · rw [div_lt_iff₀ hpos]
    calc (num : ℚ) < 2 ^ (num.log2 + 1) := hnum''
      _ = 2 ^ ((num.log2 : Int) - den.log2 + 1) * 2 ^ den.log2 := by
        rw [← zpow_natCast, ← zpow_natCast, ← zpow_add₀ (by norm_num)]
        congr 1
        push_cast
        ring
      _ ≤ 2 ^ ((num.log2 : Int) - den.log2 + 1) * den := by gcongr

/-- The exponent that is computed is the one that the format has. -/
theorem isExponent_exponentFor (hnum : 0 < num) (hden : 0 < den) :
    IsExponent ((num : ℚ) / den) (exponentFor num den) := by
  obtain ⟨hlow, hhigh⟩ := value_bounds hnum hden
  have hmono : ∀ {a b : Int}, a ≤ b → (2 : ℚ) ^ a ≤ 2 ^ b := zpow_le_zpow_right₀ (by norm_num)
  generalize hlog : (num.log2 : Int) - den.log2 = log at hlow hhigh
  -- the first guess is too low by one at most
  have hfits : (scaled num den (max (-1074) (log - 53))).1 /
      (scaled num den (max (-1074) (log - 53))).2 < Nat.pow 2 53 ↔
      (num : ℚ) / den < 2 ^ (max (-1074) (log - 53) + 53) := by
    rw [div_lt_iff_value (scaled_den_pos hden _), scaled_value, div_lt_iff₀ (by positivity),
      zpow_add₀ (by norm_num), mul_comm]
    norm_cast
  rw [exponentFor, hlog]
  dsimp only
  split
  · next hsmall =>
    refine ⟨le_max_left _ _, hfits.mp hsmall, ?_⟩
    rcases max_choice (-1074) (log - 53) with hmax | hmax
    · exact .inl hmax
    · refine .inr ((hmono ?_).trans hlow.le)
      omega
  · next hlarge =>
    refine ⟨by omega, hhigh.trans_le (hmono (by omega)), .inr ?_⟩
    rw [hfits, not_lt] at hlarge
    exact (hmono (by omega)).trans hlarge

theorem exponentFor_eq (hnum : 0 < num) (hden : 0 < den) (h : IsExponent ((num : ℚ) / den) e) :
    exponentFor num den = e :=
  (isExponent_exponentFor hnum hden).unique h

/-! ## Common factors -/

theorem scaled_mul (k num den : Nat) (e : Int) :
    scaled (k * num) (k * den) e = (k * (scaled num den e).1, k * (scaled num den e).2) := by
  rw [scaled, scaled]
  split <;> simp [mul_assoc]

theorem nearest_mul {k : Nat} (hk : 0 < k) (n d : Nat) : nearest (k * n) (k * d) = nearest n d := by
  have htwice : 2 * (k * (n % d)) = k * (2 * (n % d)) := by ring
  rw [nearest, nearest, Nat.mul_div_mul_left n d hk, Nat.mul_mod_mul_left, htwice]
  simp only [gt_iff_lt, Nat.mul_lt_mul_left hk, Nat.mul_right_inj hk.ne']

theorem exponentFor_mul {k : Nat} (hk : 0 < k) (hnum : 0 < num) (hden : 0 < den) :
    exponentFor (k * num) (k * den) = exponentFor num den := by
  refine exponentFor_eq (Nat.mul_pos hk hnum) (Nat.mul_pos hk hden) ?_
  have hk' : (k : ℚ) ≠ 0 := by exact_mod_cast hk.ne'
  rw [Nat.cast_mul, Nat.cast_mul, mul_div_mul_left _ _ hk']
  exact isExponent_exponentFor hnum hden

/-- A common factor does not count. -/
theorem ofRatio_mul (negative : Bool) {k : Nat} (hk : 0 < k) (hden : 0 < den) :
    ofRatio negative (k * num) (k * den) = ofRatio negative num den := by
  rcases Nat.eq_zero_or_pos num with rfl | hnum
  · rfl
  · have hne : k * num ≠ 0 := (Nat.mul_pos hk hnum).ne'
    rw [ofRatio, ofRatio, if_neg hne, if_neg hnum.ne', exponentFor_mul hk hnum hden]
    simp only [scaled_mul, nearest_mul hk]

/-! ## Numbers of the format -/

theorem ofParts_canonical (negative : Bool) (h : Canonical m e) :
    ofParts negative m e = .finite negative m e h := dif_pos h

/-- The sign stays apart from rounding. -/
theorem ofRatio_not (negative : Bool) (num den : Nat) :
    ofRatio (!negative) num den = (ofRatio negative num den).neg := by
  have hparts : ∀ (m : Nat) (e : Int), ofParts (!negative) m e = (ofParts negative m e).neg := by
    intro m e
    rw [ofParts, ofParts]
    split <;> rfl
  rw [ofRatio, ofRatio]
  split
  · rfl
  · dsimp only
    split <;> exact hparts _ _

/-- The significand of a ratio is the nearest integer to it, in units of its exponent. -/
theorem ofRatio_of_isExponent (negative : Bool) (hnum : 0 < num) (hden : 0 < den)
    (h : IsExponent ((num : ℚ) / den) e) (hclose : |(num : ℚ) / den / 2 ^ e - m| < 1 / 2) :
    ofRatio negative num den =
      if m = Nat.pow 2 53 then ofParts negative (Nat.pow 2 52) (e + 1)
      else ofParts negative m e := by
  have hnearest : nearest (scaled num den e).1 (scaled num den e).2 = m := by
    apply nearest_eq_of_close (scaled_den_pos hden e)
    rwa [scaled_value]
  rw [ofRatio, if_neg hnum.ne', exponentFor_eq hnum hden h]
  dsimp only
  rw [hnearest]

/-- A ratio that is near enough to a positive number of the format gives that number. -/
theorem ofRatio_of_close (negative : Bool) (hnum : 0 < num) (hden : 0 < den) (h : Canonical m e)
    (hclose : |(num : ℚ) / den / 2 ^ e - m| < 1 / 4) :
    ofRatio negative num den = .finite negative m e h := by
  obtain ⟨hbits, hmost, hleast⟩ := h
  have hpow : (0 : ℚ) < 2 ^ e := by positivity
  obtain ⟨habove, hbelow⟩ := abs_lt.mp hclose
  by_cases hedge : e = -1074 ∨ (2 : ℚ) ^ (e + 52) ≤ num / den
  · -- the exponent is that of the number
    have hexponent : IsExponent ((num : ℚ) / den) e := by
      refine ⟨by omega, ?_, hedge⟩
      have hm : (m : ℚ) + 1 ≤ 2 ^ (53 : ℤ) := by exact_mod_cast hbits
      rw [zpow_add₀ (by norm_num), ← div_lt_iff₀' hpow]
      linarith
    rw [ofRatio_of_isExponent negative hnum hden hexponent (hclose.trans (by norm_num)),
      if_neg hbits.ne, ofParts_canonical negative ⟨hbits, hmost, hleast⟩]
  · -- just below a power of two, from where the ratio is rounded up to it
    obtain ⟨hnotLeast, hless⟩ := not_or.mp hedge
    have hless' : (num : ℚ) / den / 2 ^ e < (Nat.pow 2 52 : ℕ) := by
      rw [not_le, zpow_add₀ (by norm_num), ← div_lt_iff₀' hpow] at hless
      exact_mod_cast hless
    obtain rfl : m = Nat.pow 2 52 := by
      have hlt : (m : ℚ) < (Nat.pow 2 52 : ℕ) + 1 := by linarith
      have hlt' : m < Nat.pow 2 52 + 1 := by exact_mod_cast hlt
      omega
    have hhalf : (num : ℚ) / den / 2 ^ (e - 1) = 2 * (num / den / 2 ^ e) := by
      rw [zpow_sub₀ (by norm_num), zpow_one]
      field_simp
    have hexponent : IsExponent ((num : ℚ) / den) (e - 1) := by
      refine ⟨by omega, ?_, .inr ?_⟩
      · rw [show e - 1 + 53 = e + 52 by ring]
        exact not_le.mp hless
      · have hcast : ((Nat.pow 2 52 : ℕ) : ℚ) = 2 ^ (52 : ℤ) := by norm_cast
        rw [zpow_add₀ (by norm_num), ← le_div_iff₀' (by positivity), hhalf]
        rw [hcast] at habove
        linarith
    have hdouble : |(num : ℚ) / den / 2 ^ (e - 1) - (Nat.pow 2 53 : ℕ)| < 1 / 2 := by
      have hcast : ((Nat.pow 2 53 : ℕ) : ℚ) = 2 * (Nat.pow 2 52 : ℕ) := by norm_cast
      rw [hhalf, hcast, ← mul_sub, abs_mul, abs_two]
      linarith
    rw [ofRatio_of_isExponent negative hnum hden hexponent hdouble, if_pos rfl, sub_add_cancel,
      ofParts_canonical negative ⟨hbits, hmost, hleast⟩]

end ContractOps.Binary64
