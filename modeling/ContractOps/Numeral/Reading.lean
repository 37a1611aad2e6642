import ContractOps.Numeral.Decimal

/-!
# Numerals in texts

How amounts, counts and rates are read from a text. Blanks around a numeral do not count, digits may
be of any script, and a single underscore may stand between two digits.
-/

namespace ContractOps.Numeral

/-- Why a text is no integer. -/
inductive Fault where
  | malformed
  /-- The numeral has more digits than `maxDigits`. -/
  | tooLong (digits : Nat)
deriving DecidableEq, Repr

/-- The greatest number of digits that an integer may have in a text. -/
def maxDigits : Nat := 4300

/-- The text in ASCII, without the blanks around it. Digits of every script become ASCII digits; any
other character outside ASCII makes the text unreadable. -/
def ascii (s : String) : List Char :=
  (Text.stripBy Text.isNumeralBlank s.toList).map fun c =>
    if c.toNat < 128 then c
    else match Text.decimalValue c with
      | some d => Digits.char d
      | none => '?'

/-- Every underscore stands between two digits; `before` is the character in front of the text. -/
def separatorsFit (before : Char) : List Char → Bool
  | [] => before ≠ '_'
  | c :: cs =>
    (if c = '_' then Digits.isDigit before else before ≠ '_' || Digits.isDigit c) &&
      separatorsFit c cs

/-- The integer that a text denotes. -/
def int? (s : String) : Except Fault Int :=
  let (negative, rest) := Decimal.splitSign (ascii s)
  let body := rest.takeWhile fun c => Digits.isDigit c || c = '_'
  let digits := body.filter Digits.isDigit
  if !separatorsFit ' ' body || digits.isEmpty then .error .malformed
  else if digits.length > maxDigits then .error (.tooLong digits.length)
  else if body.length < rest.length then .error .malformed
  else
    let n : Int := Digits.ofChars digits
    .ok (if negative then -n else n)

/-- The double precision number nearest to what a text denotes. -/
def binary64? (s : String) : Option Binary64 :=
  let cs := (ascii s).map Decimal.lowerAscii
  let (negative, rest) := Decimal.splitSign cs
  if rest = "inf".toList ∨ rest = "infinity".toList then some (.infinite negative)
  else if rest = "nan".toList then some .nan
  else if !separatorsFit ' ' rest then none
  else
    let rest := rest.filter (· ≠ '_')
    let (whole, rest) := Decimal.splitDigits rest
    let (fraction, rest) := match rest with
      | '.' :: rest => Decimal.splitDigits rest
      | rest => ([], rest)
    if whole.isEmpty && fraction.isEmpty then none
    else
      let shifted (exponent : Int) : Binary64 :=
        let coefficient := Digits.ofChars (whole ++ fraction)
        let digits := Digits.count coefficient
        Binary64.ofDecimal negative coefficient digits (exponent - fraction.length)
      match rest with
      | [] => some (shifted 0)
      | 'e' :: rest => (Decimal.exponent? rest).map shifted
      | _ => none

end ContractOps.Numeral
