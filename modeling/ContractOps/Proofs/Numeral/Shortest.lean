import ContractOps.Numeral.Shortest
import ContractOps.Proofs.Numeral.Rounding

/-!
# Shortest notation reads back

A decimal number that is near enough to a positive number of the format is read as that number
(`ofDecimal_of_close`), and zeros at the end of the coefficient do not count (`ofDecimal_mul_pow`).
On a grid of eighteen digits a neighbour of the number is near enough, so that there are shortest
digits for every positive number, which read as the number (`read_shortest`).
-/

namespace ContractOps

/-! ## Numbers of digits -/

namespace Digits

theorem count_pos (n : Nat) : 0 < count n := by
  rw [count]
  split <;> omega

@[simp] theorem count_zero : count 0 = 1 := by rw [count, if_pos (by decide)]

theorem lt_pow_count (n : Nat) : n < 10 ^ count n := by
  induction n using count.induct with
  | case1 n h =>
    rw [count, if_pos h]
    exact h
  | case2 n h ih =>
    rw [count, if_neg h, pow_succ]
    omega

theorem pow_count_le {n : Nat} (h : 0 < n) : 10 ^ (count n - 1) ≤ n := by
  induction n using count.induct with
  | case1 n hn =>
    rw [count, if_pos hn]
    exact h
  | case2 n hn ih =>
    obtain ⟨k, hk⟩ : ∃ k, count (n / 10) = k + 1 := ⟨count (n / 10) - 1, by
      have := count_pos (n / 10)
      omega⟩
    have hle := ih (by omega)
    rw [hk, Nat.add_sub_cancel] at hle
    rw [count, if_neg hn, hk, Nat.add_sub_cancel, pow_succ]
    omega

theorem count_mul_ten {n : Nat} (h : 0 < n) : count (10 * n) = count n + 1 := by
  rw [count, if_neg (by omega), Nat.mul_div_cancel_left n (by decide)]

theorem count_mul_pow {n : Nat} (h : 0 < n) (k : Nat) : count (n * 10 ^ k) = count n + k := by
  induction k with
  | zero => rw [pow_zero, mul_one, add_zero]
  | succ k ih =>
    have hten : n * 10 ^ (k + 1) = 10 * (n * 10 ^ k) := by ring
    rw [hten, count_mul_ten (by positivity), ih, add_assoc]

theorem count_pow (k : Nat) : count (10 ^ k) = k + 1 := by
  have hone := count_mul_pow one_pos k
  rwa [one_mul, show count 1 = 1 by rw [count, if_pos (by decide)], add_comm] at hone

/-- A number below a power of ten has no more digits. -/
theorem count_le_of_lt {n k : Nat} (h : n < 10 ^ k) (hk : 0 < k) : count n ≤ k := by
  rcases Nat.eq_zero_or_pos n with rfl | hn
  · rwa [count_zero]
  · have hpower : 10 ^ (count n - 1) < 10 ^ k := (pow_count_le hn).trans_lt h
    have hlt := (Nat.pow_lt_pow_iff_right (by decide)).mp hpower
    omega

theorem count_mono {n m : Nat} (h : n ≤ m) : count n ≤ count m :=
  count_le_of_lt (h.trans_lt (lt_pow_count m)) (count_pos m)

theorem count_mul_le (n m : Nat) : count (n * m) ≤ count n + count m := by
  refine count_le_of_lt ?_ (Nat.add_pos_left (count_pos n) _)
  rw [pow_add]
  exact Nat.mul_lt_mul'' (lt_pow_count n) (lt_pow_count m)

end Digits

namespace Binary64

variable {m c : Nat} {e exponent : Int}

/-! ## Decimal numbers -/

/-- A decimal number as a ratio has its value. -/
theorem ofDecimal_eq_ofRatio (negative : Bool) {c : Nat} {exponent : Int}
    (hmost : exponent + Digits.count c ≤ 400) (hleast : -400 ≤ exponent + Digits.count c) :
    ∃ num den : Nat, 0 < den ∧ (num : ℚ) / den = c * 10 ^ exponent ∧
      ofDecimal negative c (Digits.count c) exponent = ofRatio negative num den := by
  rw [ofDecimal, if_neg (by omega : ¬exponent + Digits.count c > 400),
    if_neg (by omega : ¬exponent + Digits.count c < -400)]
  split
  · next hzero => exact ⟨0, 1, by decide, by simp [hzero], rfl⟩
  split
  · next hexponent =>
    obtain ⟨k, rfl⟩ := Int.eq_ofNat_of_zero_le hexponent
    exact ⟨_, 1, by decide, by simp, rfl⟩
  · next hexponent =>
    obtain ⟨k, rfl⟩ : ∃ k : Nat, exponent = -k := ⟨(-exponent).toNat, by omega⟩
    refine ⟨c, _, Nat.pow_pos (by decide), ?_, rfl⟩
    simp [div_eq_mul_inv]

/-- The size of a decimal number, by its number of digits. -/
theorem decimal_bounds (hc : 0 < c) (exponent : Int) :
    (10 : ℚ) ^ (exponent + Digits.count c - 1) ≤ c * 10 ^ exponent ∧
      (c : ℚ) * 10 ^ exponent < 10 ^ (exponent + Digits.count c) := by
  have hten : (10 : ℚ) ≠ 0 := by norm_num
  have hlow : (10 : ℚ) ^ (Digits.count c - 1) ≤ c := by exact_mod_cast Digits.pow_count_le hc
  have hhigh : (c : ℚ) < 10 ^ Digits.count c := by exact_mod_cast Digits.lt_pow_count c
  have hcount := Digits.count_pos c
  constructor
  · have hcast : ((Digits.count c - 1 : ℕ) : ℤ) = Digits.count c - 1 := by omega
    calc (10 : ℚ) ^ (exponent + Digits.count c - 1)
        = 10 ^ (Digits.count c - 1) * 10 ^ exponent := by
          rw [← zpow_natCast, hcast, ← zpow_add₀ hten]
          congr 1
          ring
      _ ≤ c * 10 ^ exponent := by gcongr
  · calc (c : ℚ) * 10 ^ exponent < 10 ^ Digits.count c * 10 ^ exponent :=
          mul_lt_mul_of_pos_right hhigh (by positivity)
      _ = 10 ^ (exponent + Digits.count c) := by
          rw [← zpow_natCast, ← zpow_add₀ hten, add_comm]

theorem two_pow_le_ten_pow (k : ℕ) : (2 : ℚ) ^ (3 * k) ≤ 10 ^ k := by
  rw [pow_mul]
  gcongr
  norm_num

/-- No value between half of the least number of the format and twice its largest power of two is
decided by size alone. -/
theorem digits_of_value (hc : 0 < c) (hlow : (2 : ℚ) ^ (-1075 : ℤ) ≤ c * 10 ^ exponent)
    (hhigh : (c : ℚ) * 10 ^ exponent ≤ 2 ^ (1024 : ℤ)) :
    exponent + Digits.count c ≤ 400 ∧ -400 ≤ exponent + Digits.count c := by
  have hten : (1 : ℚ) < 10 := by norm_num
  obtain ⟨hdigitsLow, hdigitsHigh⟩ := decimal_bounds hc exponent
  -- three binary digits are less than a decimal one
  have hlarge : (10 : ℚ) ^ (exponent + Digits.count c - 1) ≤ 10 ^ ((342 : ℕ) : ℤ) :=
    calc (10 : ℚ) ^ (exponent + Digits.count c - 1) ≤ 2 ^ (1024 : ℤ) := hdigitsLow.trans hhigh
      _ ≤ 2 ^ ((3 * 342 : ℕ) : ℤ) := zpow_le_zpow_right₀ (by norm_num) (by norm_num)
      _ ≤ 10 ^ ((342 : ℕ) : ℤ) := by
        rw [zpow_natCast, zpow_natCast]
        exact two_pow_le_ten_pow 342
  have hsmall : (10 : ℚ) ^ (-(359 : ℕ) : ℤ) < 10 ^ (exponent + Digits.count c) :=
    calc (10 : ℚ) ^ (-(359 : ℕ) : ℤ) ≤ 2 ^ (-(3 * 359 : ℕ) : ℤ) := by
          rw [zpow_neg, zpow_neg, zpow_natCast, zpow_natCast]
          gcongr
          exact two_pow_le_ten_pow 359
      _ ≤ 2 ^ (-1075 : ℤ) := zpow_le_zpow_right₀ (by norm_num) (by norm_num)
      _ < 10 ^ (exponent + Digits.count c) := hlow.trans_lt hdigitsHigh
  have hmost := (zpow_le_zpow_iff_right₀ hten).mp hlarge
  have hleast := (zpow_lt_zpow_iff_right₀ hten).mp hsmall
  omega

/-- A decimal number that is near enough to a positive number of the format is read as it. -/
theorem ofDecimal_of_close (negative : Bool) (hm : 0 < m) (h : Canonical m e)
    (hclose : |(c : ℚ) * 10 ^ exponent / 2 ^ e - m| < 1 / 4) :
    ofDecimal negative c (Digits.count c) exponent = .finite negative m e h := by
  obtain ⟨hbits, hlargest, hnormal⟩ := h
  have hunit : (0 : ℚ) < 2 ^ e := by positivity
  have hone : (1 : ℚ) ≤ m := by exact_mod_cast hm
  have hmost : (m : ℚ) + 1 ≤ 2 ^ (53 : ℤ) := by exact_mod_cast hbits
  obtain ⟨habove, hbelow⟩ := abs_lt.mp hclose
  have hlow : (2 : ℚ) ^ (-1 + e) ≤ c * 10 ^ exponent := by
    rw [zpow_add₀ (by norm_num), zpow_neg_one, ← one_div, ← le_div_iff₀ hunit]
    linarith
  have hhigh : (c : ℚ) * 10 ^ exponent ≤ 2 ^ (53 + e) := by
    rw [zpow_add₀ (by norm_num), ← div_le_iff₀ hunit]
    linarith
  have hvalue : (0 : ℚ) < c * 10 ^ exponent := lt_of_lt_of_le (by positivity) hlow
  have hc : 0 < c := by
    rcases Nat.eq_zero_or_pos c with rfl | hc
    · simp at hvalue
    · exact hc
  obtain ⟨hsmall, hlarge⟩ := digits_of_value hc
    ((zpow_le_zpow_right₀ (by norm_num) (by omega)).trans hlow)
    (hhigh.trans (zpow_le_zpow_right₀ (by norm_num) (by omega)))
  obtain ⟨num, den, hden, hratio, hread⟩ := ofDecimal_eq_ofRatio negative hsmall hlarge
  have hnum : 0 < num := by
    rcases Nat.eq_zero_or_pos num with rfl | hnum
    · rw [← hratio] at hvalue
      simp at hvalue
    · exact hnum
  rw [hread]
  exact ofRatio_of_close negative hnum hden _ (hratio ▸ hclose)

/-- A zero at the end of the coefficient does not count. -/
theorem ofDecimal_mul_ten (negative : Bool) (c : Nat) (exponent : Int) :
    ofDecimal negative (10 * c) (Digits.count (10 * c)) (exponent - 1) =
      ofDecimal negative c (Digits.count c) exponent := by
  rcases Nat.eq_zero_or_pos c with rfl | hc
  · rfl
  · have hsize : exponent - 1 + (Digits.count (10 * c) : Int) = exponent + Digits.count c := by
      rw [Digits.count_mul_ten hc]
      push_cast
      ring
    rw [ofDecimal, ofDecimal, if_neg (by omega : ¬10 * c = 0), if_neg hc.ne', hsize]
    split
    · rfl
    split
    · rfl
    -- the ten is one factor less in the power, or else one that both parts of the ratio have
    by_cases hpositive : 0 < exponent
    · obtain ⟨k, rfl⟩ : ∃ k : Nat, exponent = (k + 1 : ℕ) := ⟨(exponent - 1).toNat, by omega⟩
      have hpower : 10 * c * Nat.pow 10 k = c * Nat.pow 10 (k + 1) := by
        rw [Nat.pow_eq, Nat.pow_eq, pow_succ]
        ring
      rw [if_pos (by omega), if_pos (by omega), Int.toNat_natCast, ← hpower]
      congr
      omega
    · obtain ⟨k, rfl⟩ : ∃ k : Nat, exponent = -k := ⟨(-exponent).toNat, by omega⟩
      have hpower : Nat.pow 10 (-(-(k : Int) - 1)).toNat = 10 * Nat.pow 10 k := by
        rw [show (-(-(k : Int) - 1)).toNat = k + 1 by omega, Nat.pow_eq, Nat.pow_eq, pow_succ']
      have hten : 0 < 10 := by decide
      have hden : 0 < Nat.pow 10 k := Nat.pow_pos hten
      rw [if_neg (by omega), hpower, ofRatio_mul negative hten hden]
      cases k with
      | zero => simp
      | succ k =>
        rw [if_neg (by omega)]
        congr

/-- Nor do several of them. -/
theorem ofDecimal_mul_pow (negative : Bool) (c k : Nat) (exponent : Int) :
    ofDecimal negative (c * 10 ^ k) (Digits.count (c * 10 ^ k)) (exponent - k) =
      ofDecimal negative c (Digits.count c) exponent := by
  induction k with
  | zero => simp
  | succ k ih =>
    have hten := ofDecimal_mul_ten negative (c * 10 ^ k) (exponent - k)
    have hcoefficient : c * 10 ^ (k + 1) = 10 * (c * 10 ^ k) := by ring
    have hexponent : exponent - (k + 1 : ℕ) = exponent - k - 1 := by omega
    rw [hcoefficient, hexponent, hten, ih]

/-- The sign stays apart from the reading. -/
theorem ofDecimal_not (negative : Bool) (c digits : Nat) (exponent : Int) :
    ofDecimal (!negative) c digits exponent = (ofDecimal negative c digits exponent).neg := by
  rw [ofDecimal, ofDecimal]
  split
  · rfl
  split
  · rfl
  split
  · rfl
  split <;> exact ofRatio_not negative _ _

/-! ## Grids of decimal numbers -/

/-- On every grid there is a neighbour that is not more than half of its step away. -/
theorem exists_neighbour (num : Nat) {den : Nat} (hden : 0 < den) (exponent : Int) :
    ∃ c : ℕ, ⟨c, exponent⟩ ∈ neighbours num den exponent ∧
      |(c : ℚ) * 10 ^ exponent - num / den| ≤ 1 / 2 * 10 ^ exponent := by
  -- the first neighbour is the integer nearest to the number in steps of the grid
  obtain ⟨n, d, hd, hvalue, hmem⟩ : ∃ n d : Nat, 0 < d ∧ (n : ℚ) / d = num / den / 10 ^ exponent ∧
      ⟨nearest n d, exponent⟩ ∈ neighbours num den exponent := by
    rw [neighbours]
    by_cases hexponent : 0 ≤ exponent
    · rw [if_pos hexponent]
      obtain ⟨k, rfl⟩ := Int.eq_ofNat_of_zero_le hexponent
      refine ⟨num, _, Nat.mul_pos hden (Nat.pow_pos (by decide)), ?_, List.mem_cons_self⟩
      simp [div_div]
    · rw [if_neg hexponent]
      obtain ⟨k, rfl⟩ : ∃ k : Nat, exponent = -k := ⟨(-exponent).toNat, by omega⟩
      refine ⟨_, den, hden, ?_, List.mem_cons_self⟩
      simp [mul_div_right_comm]
  have hstep : (0 : ℚ) < 10 ^ exponent := by positivity
  refine ⟨nearest n d, hmem, ?_⟩
  have hnearest := abs_nearest_sub_le (n := n) hd
  calc |(nearest n d : ℚ) * 10 ^ exponent - num / den|
      = |(nearest n d : ℚ) - n / d| * 10 ^ exponent := by
        rw [hvalue, ← abs_of_pos hstep, ← abs_mul, abs_of_pos hstep, sub_mul,
          div_mul_cancel₀ _ hstep.ne']
    _ ≤ 1 / 2 * 10 ^ exponent := by gcongr

/-- The first grid is not more than ten times as coarse as the number is large. -/
theorem tenAbove_le {num den : Nat} (hnum : 0 < num) (hden : 0 < den) :
    (10 : ℚ) ^ (tenAbove num den - 1) ≤ num / den := by
  have hnum' : (0 : ℚ) < num := by exact_mod_cast hnum
  have hden' : (0 : ℚ) < den := by exact_mod_cast hden
  rw [tenAbove]
  split
  · -- one or more, by the digits of the integer part
    next hle =>
    have hpositive : 0 < num / den := Nat.div_pos hle hden
    have hcount := Digits.count_pos (num / den)
    have hcast : (Digits.count (num / den) : Int) - 1 = (Digits.count (num / den) - 1 : ℕ) := by
      omega
    rw [hcast, zpow_natCast, le_div_iff₀ hden']
    have hlow := Nat.mul_le_mul_right den (Digits.pow_count_le hpositive)
    exact_mod_cast hlow.trans (Nat.div_mul_le_self num den)
  · -- less than one, by those of the reciprocal
    have hhigh : den < 10 ^ Digits.count (den / num) * num :=
      (Nat.div_lt_iff_lt_mul hnum).mp (Digits.lt_pow_count (den / num))
    have hhigh' : (den : ℚ) ≤ 10 ^ Digits.count (den / num) * num := by exact_mod_cast hhigh.le
    have hpower : (0 : ℚ) < 10 ^ Digits.count (den / num) := by positivity
    rw [show 1 - (Digits.count (den / num) : Int) - 1 = -(Digits.count (den / num) : Int) by ring,
      zpow_neg, zpow_natCast, inv_le_comm₀ hpower (by positivity), inv_div, div_le_iff₀ hnum']
    exact hhigh'

/-- A grid with a neighbour that reads as a number is found. -/
theorem exists_firstHit {x : Binary64} {num den i grids : Nat} {exponent : Int} {d : Scientific}
    (hi : i < grids) (hmem : d ∈ neighbours num den (exponent - i)) (hread : d.read = x) :
    ∃ d', firstHit x num den grids exponent = some d' := by
  induction grids generalizing i exponent with
  | zero => omega
  | succ grids ih =>
    rw [firstHit]
    split
    · exact ⟨_, rfl⟩
    · next hnone =>
      cases i with
      | zero =>
        rw [Nat.cast_zero, sub_zero] at hmem
        have hmiss := List.find?_eq_none.mp hnone d hmem
        simp [hread] at hmiss
      | succ i =>
        have hexponent : exponent - (i + 1 : ℕ) = exponent - 1 - i := by
          push_cast
          ring
        exact ih (by omega) (hexponent ▸ hmem)

theorem read_of_firstHit {x : Binary64} {num den grids : Nat} {exponent : Int} {d : Scientific}
    (h : firstHit x num den grids exponent = some d) : d.read = x := by
  induction grids generalizing exponent with
  | zero => cases h
  | succ grids ih =>
    rw [firstHit] at h
    split at h
    · next hfind =>
      cases h
      simpa using List.find?_some hfind
    · exact ih h

/-- It is on one of the grids that are tried. -/
theorem lt_exponent_of_firstHit {x : Binary64} {num den grids : Nat} {exponent : Int}
    {d : Scientific} (h : firstHit x num den grids exponent = some d) :
    exponent - grids < d.exponent := by
  induction grids generalizing exponent with
  | zero => cases h
  | succ grids ih =>
    rw [firstHit] at h
    split at h
    · next hfind =>
      cases h
      have hmem := List.mem_of_find?_eq_some hfind
      simp only [neighbours, List.mem_cons, List.not_mem_nil, or_false] at hmem
      rcases hmem with rfl | rfl <;> dsimp only <;> omega
    · have := ih h
      omega

theorem exponent_le_trim (fuel : Nat) (d : Scientific) : d.exponent ≤ (d.trim fuel).exponent := by
  induction fuel generalizing d with
  | zero => exact le_rfl
  | succ fuel ih =>
    rw [Scientific.trim]
    split
    · exact (Int.le_add_one le_rfl).trans (ih _)
    · exact le_rfl

theorem read_trim (fuel : Nat) (d : Scientific) : (d.trim fuel).read = d.read := by
  induction fuel generalizing d with
  | zero => rfl
  | succ fuel ih =>
    rw [Scientific.trim]
    split
    · next h =>
      have hten : 10 * (d.coefficient / 10) = d.coefficient := by omega
      rw [ih, Scientific.read, Scientific.read, ← ofDecimal_mul_ten false (d.coefficient / 10), hten,
        add_sub_cancel_right]
    · rfl

/-! ## Shortest digits -/

/-- Eighteen digits after the first grid the step is small against the last place of a number. -/
theorem exists_close_neighbour {num den : Nat} (hnum : 0 < num) (hden : 0 < den)
    (hm : (m : ℚ) + 1 ≤ 2 ^ (53 : ℕ)) (hvalue : (num : ℚ) / den = m * 2 ^ e) :
    ∃ c : ℕ, ⟨c, tenAbove num den - (18 : ℕ)⟩ ∈ neighbours num den (tenAbove num den - (18 : ℕ)) ∧
      |(c : ℚ) * 10 ^ (tenAbove num den - (18 : ℕ)) / 2 ^ e - m| < 1 / 4 := by
  have hunit : (0 : ℚ) < 2 ^ e := by positivity
  obtain ⟨c, hmem, hnear⟩ := exists_neighbour num hden (tenAbove num den - (18 : ℕ))
  have hstep : (10 : ℚ) ^ (tenAbove num den - (18 : ℕ)) ≤ m * 2 ^ e / 10 ^ (17 : ℕ) := by
    rw [le_div_iff₀ (by positivity), ← zpow_natCast, ← zpow_add₀ (by norm_num), ← hvalue]
    refine le_of_eq_of_le ?_ (tenAbove_le hnum hden)
    congr 1
    push_cast
    ring
  -- this is where it counts that a significand has 53 bits
  have hsmall : (m : ℚ) < 1 / 2 * 10 ^ (17 : ℕ) :=
    calc (m : ℚ) < 2 ^ (53 : ℕ) := by linarith
      _ < 1 / 2 * 10 ^ (17 : ℕ) := by norm_num
  have hless : (m : ℚ) * 2 ^ e / 10 ^ (17 : ℕ) < 1 / 2 * 2 ^ e := by
    rw [div_lt_iff₀ (by positivity), mul_right_comm]
    exact mul_lt_mul_of_pos_right hsmall hunit
  refine ⟨c, hmem, ?_⟩
  rw [div_sub' hunit.ne', abs_div, abs_of_pos hunit, div_lt_iff₀ hunit, mul_comm ((2 : ℚ) ^ e),
    ← hvalue]
  linarith

/-- The shortest digits of a positive number are found on a grid. -/
theorem exists_shortest (hm : 0 < m) (h : Canonical m e) :
    ∃ num den k d, 0 < num ∧ 0 < den ∧ den ≤ 2 ^ k ∧ k ≤ 3 * 358 ∧
      firstHit (.finite false m e h) num den 20 (tenAbove num den) = some d ∧
      shortest (.finite false m e h) = d.trim 20 := by
  obtain ⟨num, den, hratio, hden, hlargest, hvalue⟩ : ∃ num den : Nat,
      (Binary64.finite false m e h).ratio? = some ((num : Int), den) ∧ 0 < den ∧
        den ≤ 2 ^ (-e).toNat ∧ (num : ℚ) / den = m * 2 ^ e := by
    refine ⟨(scaled m 1 (-e)).1, (scaled m 1 (-e)).2, rfl, scaled_den_pos one_pos _, ?_, ?_⟩
    · rw [scaled]
      split
      · exact (one_mul _).le
      · exact Nat.one_le_pow _ _ (by decide)
    · rw [scaled_value, zpow_neg, Nat.cast_one, div_one, div_inv_eq_mul]
  have hnum : 0 < num := by
    rcases Nat.eq_zero_or_pos num with rfl | hnum
    · have hm' : (0 : ℚ) < m := by exact_mod_cast hm
      rw [Nat.cast_zero, zero_div] at hvalue
      have : (0 : ℚ) < m * 2 ^ e := by positivity
      linarith
    · exact hnum
  have hbits : (m : ℚ) + 1 ≤ 2 ^ (53 : ℕ) := by exact_mod_cast h.1
  obtain ⟨c, hmem, hclose⟩ := exists_close_neighbour hnum hden hbits hvalue
  have hread : Scientific.read ⟨c, tenAbove num den - (18 : ℕ)⟩ = .finite false m e h :=
    ofDecimal_of_close false hm h hclose
  obtain ⟨d, hhit⟩ := exists_firstHit (by decide : 18 < 20) hmem hread
  have hleast : -1074 ≤ e := h.2.2.elim (·.2) (·.ge)
  refine ⟨num, den, _, d, hnum, hden, hlargest, by omega, hhit, ?_⟩
  rw [shortest, hratio]
  dsimp only
  rw [Int.natAbs_natCast, hhit, Option.getD_some]

/-- The shortest digits of a positive number read as the number. -/
theorem read_shortest (hm : 0 < m) (h : Canonical m e) :
    (shortest (.finite false m e h)).read = .finite false m e h := by
  obtain ⟨num, den, _, d, _, _, _, _, hhit, hshortest⟩ := exists_shortest hm h
  rw [hshortest, read_trim, read_of_firstHit hhit]

/-- No number of the format is so small that its first grid is much finer. -/
theorem le_tenAbove {num den k : Nat} (hnum : 0 < num) (hlargest : den ≤ 2 ^ k)
    (hk : k ≤ 3 * 358) : -358 ≤ tenAbove num den := by
  rw [tenAbove]
  split
  · omega
  · next hless =>
    have hdigits : 10 ^ (Digits.count (den / num) - 1) ≤ 10 ^ 358 :=
      calc 10 ^ (Digits.count (den / num) - 1) ≤ den / num :=
            Digits.pow_count_le (Nat.div_pos (by omega) hnum)
        _ ≤ 2 ^ k := (Nat.div_le_self den num).trans hlargest
        _ ≤ 2 ^ (3 * 358) := Nat.pow_le_pow_right (by decide) hk
        _ ≤ 10 ^ 358 := by exact_mod_cast two_pow_le_ten_pow 358
    have hcount := (Nat.pow_le_pow_iff_right (by decide)).mp hdigits
    omega

theorem le_exponent_shortest (hm : 0 < m) (h : Canonical m e) :
    -378 < (shortest (.finite false m e h)).exponent := by
  obtain ⟨num, den, k, d, hnum, _, hlargest, hk, hhit, hshortest⟩ := exists_shortest hm h
  have hgrid := lt_exponent_of_firstHit hhit
  have htrim := exponent_le_trim 20 d
  have hfirst := le_tenAbove hnum hlargest hk
  rw [hshortest]
  omega

/-- With a sign they read as the number with the sign. -/
theorem ofDecimal_shortest (negative : Bool) (hm : 0 < m) (h : Canonical m e) :
    ofDecimal negative (shortest (.finite false m e h)).coefficient
        (Digits.count (shortest (.finite false m e h)).coefficient)
        (shortest (.finite false m e h)).exponent = .finite negative m e h := by
  have hread := read_shortest hm h
  rw [Scientific.read] at hread
  cases negative with
  | false => exact hread
  | true =>
    rw [← Bool.not_false, ofDecimal_not, hread]
    rfl

theorem shortest_ne_zero (hm : 0 < m) (h : Canonical m e) :
    (shortest (.finite false m e h)).coefficient ≠ 0 := by
  intro hzero
  have hread := ofDecimal_shortest false hm h
  rw [ofDecimal, if_pos hzero] at hread
  cases hread
  exact absurd hm (by decide)

/-- They are not those of a number beyond the format. -/
theorem digits_shortest_le (hm : 0 < m) (h : Canonical m e) :
    (shortest (.finite false m e h)).exponent +
      (Digits.count (shortest (.finite false m e h)).coefficient : Int) ≤ 400 := by
  by_contra hlarge
  have hread := ofDecimal_shortest false hm h
  rw [ofDecimal, if_neg (shortest_ne_zero hm h), if_pos (not_le.mp hlarge)] at hread
  cases hread

end Binary64

end ContractOps
