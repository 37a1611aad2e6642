import ContractOps.Numeral.Digits
import ContractOps.Numeral.Binary64
import ContractOps.Text.Blank
import ContractOps.Text.Digit

/-!
# Decimal arithmetic

Prices are decimal numbers: a sign, a coefficient and a power of ten, read exactly from their text
(`Decimal.read?`). A product keeps 28 significant digits, rounded half to even (`Decimal.scale`),
and `Decimal.ceil` gives the least integer not below a value.
-/

namespace ContractOps

/-- A decimal number, infinity, or no number. A signaling value that is no number may not be used in
a computation. -/
inductive Decimal where
  | finite (negative : Bool) (coefficient : Nat) (exponent : Int)
  | infinite (negative : Bool)
  | nan (signaling : Bool)
deriving DecidableEq

namespace Decimal

/-- What can go wrong in decimal arithmetic. -/
inductive Fault where
  /-- The text is no decimal number, or the operation has no meaning. -/
  | invalid
  /-- The product is too large for the format. -/
  | overflow
  /-- A value that is no number has no ceiling. -/
  | nanCeiling
  /-- Infinity has no ceiling. -/
  | infiniteCeiling
deriving DecidableEq, Repr

/-- The number of significant digits of a product. -/
def precision : Nat := 28

/-- The greatest exponent of the leading digit of a product. -/
def maxExponent : Int := 999999

/-- The least exponent of the last digit of a product. -/
def leastExponent : Int := -1000026

/-- The greatest exponent of the leading digit that a text may denote. -/
def maxTextExponent : Int := 999999999999999999

/-- The least exponent of the last digit that a text may denote. -/
def leastTextExponent : Int := -1999999999999999997

/-! ### Reading -/

/-- An ASCII letter in lower case. -/
def lowerAscii (c : Char) : Char := if 'A' ≤ c ∧ c ≤ 'Z' then Char.ofNat (c.toNat + 32) else c

/-- The text in ASCII: decimal digits of every script become ASCII digits and letters lower case.
Any other character makes the text unreadable. -/
def asciiChar (c : Char) : Char :=
  if c.toNat < 128 then lowerAscii c
  else match Text.decimalValue c with
    | some d => Digits.char d
    | none => '?'

/-- A sign in front of the rest. -/
def splitSign : List Char → Bool × List Char
  | '-' :: cs => (true, cs)
  | '+' :: cs => (false, cs)
  | cs => (false, cs)

theorem splitSign_of_ne {cs : List Char} (h : ∀ c ∈ cs.head?, c ≠ '-' ∧ c ≠ '+') :
    splitSign cs = (false, cs) := by
  cases cs with
  | nil => rfl
  | cons c cs =>
    obtain ⟨hminus, hplus⟩ := h c rfl
    rw [splitSign]
    · intro rest heq
      exact hminus (List.cons.inj heq).1
    · intro rest heq
      exact hplus (List.cons.inj heq).1

/-- The digits in front of the rest. -/
def splitDigits (cs : List Char) : List Char × List Char :=
  (cs.takeWhile Digits.isDigit, cs.dropWhile Digits.isDigit)

/-- An integer with an optional sign. -/
def exponent? (cs : List Char) : Option Int :=
  let (negative, digits) := splitSign cs
  if digits.isEmpty || !digits.all Digits.isDigit then none
  else some (if negative then -(Digits.ofChars digits : Int) else Digits.ofChars digits)

/-- Digits with at most one point among them, and an optional exponent. -/
def number? (negative : Bool) (cs : List Char) : Option Decimal :=
  let (whole, rest) := splitDigits cs
  let (fraction, rest) := match rest with
    | '.' :: rest => splitDigits rest
    | rest => ([], rest)
  if whole.isEmpty && fraction.isEmpty then none
  else
    let shifted (exponent : Int) : Option Decimal :=
      let coefficient := Digits.ofChars (whole ++ fraction)
      let last := exponent - fraction.length
      let lead := last + (Digits.count coefficient : Int) - 1
      if lead > maxTextExponent ∨ last < leastTextExponent then none
      else some (.finite negative coefficient last)
    match rest with
    | [] => shifted 0
    | 'e' :: rest => (exponent? rest).bind shifted
    | _ => none

/-- The decimal number that a text denotes: blanks around it and underscores in it do not count. -/
def read? (s : String) : Option Decimal :=
  let cs := ((Text.stripBy Text.isBlank s.toList).filter (· ≠ '_')).map asciiChar
  let (negative, rest) := splitSign cs
  if rest = "inf".toList ∨ rest = "infinity".toList then some (.infinite negative)
  else match rest with
    | 'n' :: 'a' :: 'n' :: payload => if payload.all Digits.isDigit then some (.nan false) else none
    | 's' :: 'n' :: 'a' :: 'n' :: payload =>
      if payload.all Digits.isDigit then some (.nan true) else none
    | _ => number? negative rest

/-! ### Arithmetic -/

/-- How many digits a product loses: those beyond the precision, and those below the least
exponent. -/
def excess (coefficient : Nat) (exponent : Int) : Nat :=
  max (Digits.count coefficient - precision) (leastExponent - exponent).toNat

/-- A product in the format: rounded half to even if it has too many digits. -/
def rounded (negative : Bool) (coefficient : Nat) (exponent : Int) : Except Fault Decimal :=
  let lost := excess coefficient exponent
  let kept :=
    if lost = 0 then coefficient
    else if lost > Digits.count coefficient then 0
    else Binary64.nearest coefficient (Nat.pow 10 lost)
  let last := exponent + lost
  if kept ≠ 0 ∧ last + (Digits.count kept : Int) - 1 > maxExponent then .error .overflow
  else .ok (.finite negative kept last)

/-- The product of a decimal number and an integer. -/
def scale (d : Decimal) (n : Int) : Except Fault Decimal :=
  match d with
  | finite s c e => rounded (s != decide (n < 0)) (c * n.natAbs) e
  | infinite s => if n = 0 then .error .invalid else .ok (.infinite (s != decide (n < 0)))
  | nan true => .error .invalid
  | nan false => .ok (.nan false)

/-- The least integer not below a value. -/
def ceil : Decimal → Except Fault Int
  | finite s c e =>
    let signed : Int := if s then -(c : Int) else c
    .ok (if c = 0 then 0
      else if 0 ≤ e then signed * Int.pow 10 e.toNat
      else -((-signed).fdiv (Int.pow 10 (-e).toNat)))
  | infinite _ => .error .infiniteCeiling
  | nan _ => .error .nanCeiling

end Decimal

end ContractOps
