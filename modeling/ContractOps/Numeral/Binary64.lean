/-!
# Binary floating point

`Binary64` is the double precision format of IEEE 754 by its values: a finite number is a sign, a
significand below 2⁵³ and a power of two, in the one form that the format has for it. All operations
compute the exact result and round it once, to the nearest number of the format, a tie going to the
even significand (`Binary64.ofRatio`).
-/

namespace ContractOps

/-- The form that the format has for `significand · 2 ^ exponent`: either the significand has 53
bits or the exponent is the least one. -/
def Binary64.Canonical (significand : Nat) (exponent : Int) : Prop :=
  significand < Nat.pow 2 53 ∧ exponent ≤ 971 ∧
    (Nat.pow 2 52 ≤ significand ∧ -1074 ≤ exponent ∨ exponent = -1074)

instance (significand : Nat) (exponent : Int) :
    Decidable (Binary64.Canonical significand exponent) :=
  inferInstanceAs (Decidable (_ ∧ _))

/-- A double precision number. Zero has a sign. -/
inductive Binary64 where
  | finite (negative : Bool) (significand : Nat) (exponent : Int)
      (canonical : Binary64.Canonical significand exponent)
  | infinite (negative : Bool)
  | nan
deriving DecidableEq

namespace Binary64

/-- Zero with a sign. -/
def zero (negative : Bool) : Binary64 := .finite negative 0 (-1074) (by decide)

/-- The number with this significand and exponent; beyond the largest finite number, infinity. -/
def ofParts (negative : Bool) (significand : Nat) (exponent : Int) : Binary64 :=
  if h : Canonical significand exponent then .finite negative significand exponent h
  else .infinite negative

/-- `num / den · 2 ^ (-exponent)` as a ratio of naturals. -/
def scaled (num den : Nat) (exponent : Int) : Nat × Nat :=
  if 0 ≤ exponent then (num, den * Nat.pow 2 exponent.toNat)
  else (num * Nat.pow 2 (-exponent).toNat, den)

/-- The integer nearest to `num / den`, a tie going to the even one. -/
def nearest (num den : Nat) : Nat :=
  let quotient := num / den
  let twice := 2 * (num % den)
  if twice > den ∨ twice = den ∧ quotient % 2 = 1 then quotient + 1 else quotient

/-- The exponent of the significand that `num / den` has: the least one for which the significand
stays below 2⁵³, and not below the least exponent of the format. -/
def exponentFor (num den : Nat) : Int :=
  let exponent := max (-1074) ((num.log2 : Int) - den.log2 - 53)
  let (n, d) := scaled num den exponent
  if n / d < Nat.pow 2 53 then exponent else exponent + 1

/-- The number of the format nearest to `num / den`, a tie going to the even significand. -/
def ofRatio (negative : Bool) (num den : Nat) : Binary64 :=
  if num = 0 then zero negative
  else
    let exponent := exponentFor num den
    let (n, d) := scaled num den exponent
    let significand := nearest n d
    if significand = Nat.pow 2 53 then ofParts negative (Nat.pow 2 52) (exponent + 1)
    else ofParts negative significand exponent

/-- The number nearest to `coefficient · 10 ^ exponent`. Exponents far outside the range of the
format are decided by size alone: `digits` is the number of digits of the coefficient. -/
def ofDecimal (negative : Bool) (coefficient digits : Nat) (exponent : Int) : Binary64 :=
  if coefficient = 0 then zero negative
  else if exponent + digits > 400 then .infinite negative
  else if exponent + digits < -400 then zero negative
  else if 0 ≤ exponent then ofRatio negative (coefficient * Nat.pow 10 exponent.toNat) 1
  else ofRatio negative coefficient (Nat.pow 10 (-exponent).toNat)

/-- The number nearest to an integer, unless that is infinite. -/
def ofInt? (n : Int) : Option Binary64 :=
  match ofRatio (decide (n < 0)) n.natAbs 1 with
  | .infinite _ => none
  | x => some x

/-- Negative numbers, negative zero among them. -/
def isNegative : Binary64 → Bool
  | finite s _ _ _ => s
  | infinite s => s
  | nan => false

/-- The opposite number. -/
def neg : Binary64 → Binary64
  | finite s m e h => finite (!s) m e h
  | infinite s => infinite (!s)
  | nan => nan

/-- Zero of either sign. -/
def isZero : Binary64 → Bool
  | finite _ m _ _ => m == 0
  | _ => false

/-- Product. -/
def mul : Binary64 → Binary64 → Binary64
  | finite s m e _, finite s' m' e' _ =>
    let (n, d) := scaled (m * m') 1 (-(e + e'))
    ofRatio (s != s') n d
  | x, y =>
    if x = nan ∨ y = nan ∨ x.isZero ∨ y.isZero then nan else infinite (x.isNegative != y.isNegative)

/-- Quotient of finite numbers; the divisor is not zero. -/
def div : Binary64 → Binary64 → Binary64
  | finite s m e _, finite s' m' e' _ =>
    let (n, d) := scaled m m' (e' - e)
    ofRatio (s != s') n d
  | _, _ => nan

/-- A finite number as an integer over a positive natural. -/
def ratio? : Binary64 → Option (Int × Nat)
  | finite s m e _ =>
    let (n, d) := scaled m 1 (-e)
    some (if s then -(n : Int) else n, d)
  | _ => none

/-- Order of the values: `none` as soon as one of them is not a number. Both zeros are equal. -/
def compare? : Binary64 → Binary64 → Option Ordering
  | nan, _ => none
  | _, nan => none
  | infinite s, infinite s' => some (compare (!s) (!s'))
  | infinite s, finite .. => some (if s then .lt else .gt)
  | finite .., infinite s => some (if s then .gt else .lt)
  | finite s m e h, finite s' m' e' h' =>
    match (finite s m e h).ratio?, (finite s' m' e' h').ratio? with
    | some (n, d), some (n', d') => some (compare (n * d') (n' * d))
    | _, _ => none

/-- Order of a value and an integer. -/
def compareInt? : Binary64 → Int → Option Ordering
  | nan, _ => none
  | infinite s, _ => some (if s then .lt else .gt)
  | finite s m e h, k =>
    match (finite s m e h).ratio? with
    | some (n, d) => some (compare n (k * d))
    | none => none

/-- The greatest integer not above a finite number. -/
def floor? (x : Binary64) : Option Int := x.ratio?.map fun (n, d) => n.fdiv d

/-- The least integer not below a finite number. -/
def ceil? (x : Binary64) : Option Int := x.ratio?.map fun (n, d) => -((-n).fdiv d)

/-- The integer part of a finite number. -/
def trunc? (x : Binary64) : Option Int := x.ratio?.map fun (n, d) => n.tdiv d

end Binary64

end ContractOps
