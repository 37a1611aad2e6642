import ContractOps.Numeral.Binary64
import ContractOps.Numeral.Digits

/-!
# Shortest decimal notation

A finite double precision number is written with the fewest digits that read back as the same
number, and among those with the digits nearest to it. The point is placed positionally from 10⁻⁴
up to below 10¹⁶, and with a decimal exponent elsewhere.
-/

namespace ContractOps.Binary64

/-- Digits and a decimal exponent: the number `coefficient · 10 ^ exponent`. -/
structure Scientific where
  coefficient : Nat
  exponent : Int
deriving DecidableEq

/-- Drops trailing zeros of the coefficient, at most `fuel` of them. -/
def Scientific.trim (fuel : Nat) (d : Scientific) : Scientific :=
  match fuel with
  | 0 => d
  | fuel + 1 =>
    if d.coefficient ≠ 0 ∧ d.coefficient % 10 = 0 then
      trim fuel ⟨d.coefficient / 10, d.exponent + 1⟩
    else d

/-- The decimal number read as a double precision number. -/
def Scientific.read (d : Scientific) : Binary64 :=
  ofDecimal false d.coefficient (Digits.count d.coefficient) d.exponent

/-- The two multiples of `10 ^ exponent` next to `num / den`, the nearer one first and on a tie the
even one. -/
def neighbours (num den : Nat) (exponent : Int) : List Scientific :=
  let (n, d) :=
    if 0 ≤ exponent then (num, den * Nat.pow 10 exponent.toNat)
    else (num * Nat.pow 10 (-exponent).toNat, den)
  let below := n / d
  let up := nearest n d
  let down := if up = below then below + 1 else below
  [⟨up, exponent⟩, ⟨down, exponent⟩]

/-- The first of the grids `10 ^ exponent`, `10 ^ (exponent - 1)`, … with a neighbour of `num / den`
that reads as `x`. -/
def firstHit (x : Binary64) (num den : Nat) : Nat → Int → Option Scientific
  | 0, _ => none
  | grids + 1, exponent =>
    match (neighbours num den exponent).find? fun d => d.read = x with
    | some d => some d
    | none => firstHit x num den grids (exponent - 1)

/-- A power of ten, by its exponent, that is not below `num / den`. -/
def tenAbove (num den : Nat) : Int :=
  if den ≤ num then Digits.count (num / den) else 1 - (Digits.count (den / num) : Int)

/-- The shortest digits of a positive number. -/
def shortest (x : Binary64) : Scientific :=
  match x.ratio? with
  | some (n, d) =>
    let num := n.natAbs
    ((firstHit x num d 20 (tenAbove num d)).getD ⟨0, 0⟩).trim 20
  | none => ⟨0, 0⟩

/-- A run of zeros. -/
def zeros (n : Nat) : List Char := List.replicate n '0'

/-- Places the point in digits: `point` digits stand before it. -/
def positional (digits : List Char) (point : Int) : List Char :=
  if point ≤ 0 then ['0', '.'] ++ zeros (-point).toNat ++ digits
  else if digits.length ≤ point.toNat then
    digits ++ zeros (point.toNat - digits.length) ++ ['.', '0']
  else digits.take point.toNat ++ ['.'] ++ digits.drop point.toNat

/-- Writes digits with one of them before the point and a decimal exponent of at least two digits.
-/
def exponential (digits : List Char) (exponent : Int) : List Char :=
  let fraction := digits.drop 1
  let power := Digits.ofNat exponent.natAbs
  digits.take 1 ++ (if fraction.isEmpty then [] else '.' :: fraction) ++
    ['e', if exponent < 0 then '-' else '+'] ++ zeros (2 - power.length) ++ power

/-- Places the point as the size of the number asks for. -/
def layOut (d : Scientific) : List Char :=
  let digits := Digits.ofNat d.coefficient
  let point := d.exponent + digits.length
  if -4 < point ∧ point ≤ 16 then positional digits point else exponential digits (point - 1)

/-- Decimal notation of a finite number. Infinity and a value that is no number have the given
spellings, the former after its sign. -/
def spell (infinity nanText : List Char) : Binary64 → List Char
  | finite s m e h =>
    (if s then ['-'] else []) ++
      (if m = 0 then ['0', '.', '0'] else layOut (shortest (finite false m e h)))
  | infinite s => (if s then ['-'] else []) ++ infinity
  | nan => nanText

end ContractOps.Binary64
