import ContractOps.Proofs.Numeral.Rounding
import Mathlib.Order.WithBot

/-!
# The order of double precision numbers

Apart from what is no number, the numbers of the format are ordered as their values are, between two
infinities (`compare?_eq`). Both zeros have one value, so that they are equal for the order and yet
two numbers.
-/

namespace ContractOps.Binary64

/-- The rational that `± significand · 2 ^ exponent` stands for. -/
def value (negative : Bool) (significand : Nat) (exponent : Int) : ℚ :=
  (if negative then -(significand : ℚ) else significand) * 2 ^ exponent

/-- The place of a number among all of them. What is no number has the greatest one. -/
def rank : Binary64 → WithBot (WithTop ℚ)
  | finite s m e _ => ((value s m e : WithTop ℚ) : WithBot (WithTop ℚ))
  | infinite true => ⊥
  | infinite false | nan => ⊤

/-- A finite number is a ratio of its value. -/
theorem ratio?_finite (s : Bool) (m : Nat) (e : Int) (h : Canonical m e) :
    ∃ (n : Int) (d : Nat), (finite s m e h).ratio? = some (n, d) ∧ 0 < d ∧
      (n : ℚ) / d = value s m e := by
  have hvalue : ((scaled m 1 (-e)).1 : ℚ) / (scaled m 1 (-e)).2 = m * 2 ^ e := by
    rw [scaled_value, Nat.cast_one, div_one, zpow_neg, div_inv_eq_mul]
  refine ⟨if s then -((scaled m 1 (-e)).1 : Int) else (scaled m 1 (-e)).1,
    (scaled m 1 (-e)).2, rfl, scaled_den_pos Nat.one_pos (-e), ?_⟩
  cases s with
  | false =>
    rw [value, if_neg Bool.false_ne_true, if_neg Bool.false_ne_true, Int.cast_natCast, hvalue]
  | true => rw [value, if_pos rfl, if_pos rfl, Int.cast_neg, Int.cast_natCast, neg_div, hvalue,
      neg_mul]

/-- Ratios are compared across. -/
theorem compare_mul_eq (n n' : Int) {d d' : Nat} (hd : 0 < d) (hd' : 0 < d') :
    compare (n * d') (n' * d) = compare ((n : ℚ) / d) ((n' : ℚ) / d') := by
  have hpos : (0 : ℚ) < d := by exact_mod_cast hd
  have hpos' : (0 : ℚ) < d' := by exact_mod_cast hd'
  rcases lt_trichotomy (n * (d' : Int)) (n' * d) with h | h | h
  · rw [compare_lt_iff_lt.mpr h, eq_comm, compare_lt_iff_lt, div_lt_div_iff₀ hpos hpos']
    exact_mod_cast h
  · rw [compare_eq_iff_eq.mpr h, eq_comm, compare_eq_iff_eq, div_eq_div_iff hpos.ne' hpos'.ne']
    exact_mod_cast h
  · rw [compare_gt_iff_gt.mpr h, eq_comm, compare_gt_iff_gt, div_lt_div_iff₀ hpos' hpos]
    exact_mod_cast h

/-- Finite places are those of their values. -/
theorem compare_coe (p q : ℚ) :
    compare ((p : WithTop ℚ) : WithBot (WithTop ℚ)) ((q : WithTop ℚ) : WithBot (WithTop ℚ)) =
      compare p q := by
  rcases lt_trichotomy p q with h | rfl | h
  · rw [compare_lt_iff_lt.mpr h, compare_lt_iff_lt, WithBot.coe_lt_coe, WithTop.coe_lt_coe]
    exact h
  · rw [compare_eq_iff_eq.mpr rfl, compare_eq_iff_eq.mpr rfl]
  · rw [compare_gt_iff_gt.mpr h, compare_gt_iff_gt, WithBot.coe_lt_coe, WithTop.coe_lt_coe]
    exact h

/-- Finite places are below that of the one infinity. -/
theorem coe_lt_top (p : ℚ) : ((p : WithTop ℚ) : WithBot (WithTop ℚ)) < ⊤ :=
  WithBot.coe_lt_coe.mpr (WithTop.coe_lt_top p)

/-- Numbers are compared by their places. -/
theorem compare?_eq {x y : Binary64} (hx : x ≠ nan) (hy : y ≠ nan) :
    x.compare? y = some (compare x.rank y.rank) := by
  cases x with
  | nan => exact absurd rfl hx
  | infinite s =>
    cases y with
    | nan => exact absurd rfl hy
    | infinite s' =>
      cases s <;> cases s'
      case false.true => exact congrArg some (compare_gt_iff_gt.mpr bot_lt_top).symm
      case true.false => exact congrArg some (compare_lt_iff_lt.mpr bot_lt_top).symm
      all_goals exact congrArg some (compare_eq_iff_eq.mpr rfl).symm
    | finite s' m' e' h' =>
      cases s
      case false => exact congrArg some (compare_gt_iff_gt.mpr (coe_lt_top _)).symm
      case true => exact congrArg some (compare_lt_iff_lt.mpr (WithBot.bot_lt_coe _)).symm
  | finite s m e h =>
    cases y with
    | nan => exact absurd rfl hy
    | infinite s' =>
      cases s'
      case false => exact congrArg some (compare_lt_iff_lt.mpr (coe_lt_top _)).symm
      case true => exact congrArg some (compare_gt_iff_gt.mpr (WithBot.bot_lt_coe _)).symm
    | finite s' m' e' h' =>
      obtain ⟨n, d, hratio, hd, hvalue⟩ := ratio?_finite s m e h
      obtain ⟨n', d', hratio', hd', hvalue'⟩ := ratio?_finite s' m' e' h'
      rw [compare?, hratio, hratio']
      dsimp only
      rw [compare_mul_eq n n' hd hd', hvalue, hvalue', rank, rank, compare_coe]

section

variable {x y : Binary64} (hx : x ≠ nan) (hy : y ≠ nan)

include hx hy

theorem compare?_eq_lt_iff : x.compare? y = some .lt ↔ x.rank < y.rank := by
  rw [compare?_eq hx hy, Option.some_inj, compare_lt_iff_lt]

theorem compare?_eq_eq_iff : x.compare? y = some .eq ↔ x.rank = y.rank := by
  rw [compare?_eq hx hy, Option.some_inj, compare_eq_iff_eq]

theorem compare?_eq_gt_iff : x.compare? y = some .gt ↔ y.rank < x.rank := by
  rw [compare?_eq hx hy, Option.some_inj, compare_gt_iff_gt]

end

end ContractOps.Binary64
