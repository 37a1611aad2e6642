import ContractOps.Text.CodePoint

/-!
# Punycode

A label of any characters is written in ASCII: first its ASCII characters, then, behind a hyphen,
numbers that say in which order and at which places the others come in. Every number has as many
digits as it needs; where a number ends depends on a bias that follows the sizes of the numbers
before.
-/

namespace ContractOps.Punycode

/-- The bias before the first number. -/
def initialBias : Nat := 72

/-- The least digit value that does not end a number at a place. -/
def threshold (place bias : Nat) : Nat :=
  let k := 36 * (place + 1)
  if k ≤ bias + 1 then 1 else if bias + 26 ≤ k then 26 else k - bias

theorem threshold_bounds (place bias : Nat) :
    1 ≤ threshold place bias ∧ threshold place bias ≤ 26 := by
  simp only [threshold]
  split
  · omega
  · split <;> omega

/-- Scales a number down until it is small, counting the steps in 36. -/
def scaleDown (delta : Nat) : Nat × Nat :=
  if delta ≤ 455 then (delta, 0)
  else
    let (small, steps) := scaleDown (delta / 35)
    (small, steps + 36)

/-- The bias after a number, when so many characters are in place. -/
def adapt (delta : Nat) (first : Bool) (inPlace : Nat) : Nat :=
  let halved := if first then delta / 700 else delta / 2
  let (small, steps) := scaleDown (halved + halved / inPlace)
  steps + 36 * small / (small + 38)

/-! ### Writing -/

/-- The digit of a value: letters first. -/
def digit (n : Nat) : Char := Char.ofNat (if n < 26 then 0x61 + n else 0x30 + (n - 26))

/-- The digits of a number from a place on. -/
def digits (place bias n : Nat) : List Char :=
  let t := threshold place bias
  if h : n < t then [digit n]
  else digit (t + (n - t) % (36 - t)) :: digits (place + 1) bias ((n - t) / (36 - t))
termination_by n
decreasing_by
  have := threshold_bounds place bias
  simp only [t] at h
  exact Nat.lt_of_le_of_lt (Nat.div_le_self _ _) (by omega)

/-- What is written so far: the number in preparation, the bias, how many characters are in place,
and the digits. -/
structure Progress where
  delta : Nat
  bias : Nat
  inPlace : Nat
  first : Bool
  written : List Char

/-- Passes a character of the label while those with a code point are brought in. -/
def Progress.pass (target : Nat) (p : Progress) (n : Nat) : Progress :=
  if n < target then { p with delta := p.delta + 1 }
  else if n = target then {
    delta := 0
    bias := adapt p.delta p.first (p.inPlace + 1)
    inPlace := p.inPlace + 1
    first := false
    written := p.written ++ digits 0 p.bias p.delta }
  else p

/-- Brings in all characters with a code point; `least` is the first one not yet dealt with. -/
def Progress.bring (label : List Nat) (state : Progress × Nat) (target : Nat) : Progress × Nat :=
  let (p, least) := state
  let p := { p with delta := p.delta + (target - least) * (p.inPlace + 1) }
  let p := label.foldl (Progress.pass target) p
  ({ p with delta := p.delta + 1 }, target + 1)

/-- Puts a number into a list in rising order, unless it is there. -/
def insertOnce (n : Nat) : List Nat → List Nat
  | [] => [n]
  | m :: rest =>
    if n < m then n :: m :: rest else if n = m then m :: rest else m :: insertOnce n rest

/-- A label in ASCII. -/
def encode (label : List Char) : List Char :=
  let ascii := label.filter fun c => c.toNat < 0x80
  let points := label.map Char.toNat
  let others := (points.filter (0x80 ≤ ·)).foldr insertOnce []
  let start : Progress := {
    delta := 0, bias := initialBias, inPlace := ascii.length, first := true, written := [] }
  let (p, _) := others.foldl (Progress.bring points) (start, 0x80)
  (if ascii.isEmpty then [] else ascii ++ ['-']) ++ p.written

/-! ### Reading -/

/-- The value of a digit in either case. -/
def value? (c : Char) : Option Nat :=
  let n := c.toNat
  if 0x61 ≤ n ∧ n ≤ 0x7a then some (n - 0x61)
  else if 0x41 ≤ n ∧ n ≤ 0x5a then some (n - 0x41)
  else if 0x30 ≤ n ∧ n ≤ 0x39 then some (n - 0x30 + 26)
  else none

/-- A number from a place on, whose digits weigh so much there, and what follows it. -/
def number? (place bias weight : Nat) : List Char → Option (Nat × List Char)
  | [] => none
  | c :: cs => do
    let d ← value? c
    let t := threshold place bias
    if d < t then return (d * weight, cs)
    else
      let (n, rest) ← number? (place + 1) bias (weight * (36 - t)) cs
      return (d * weight + n, rest)

/-- Brings characters into a label. The next one comes with a code point of at least `least`, at
`place` or behind it. -/
def bringAll (label : WideText) (least place bias : Nat) (first : Bool) (cs : List Char) :
    Option WideText :=
  match cs with
  | [] => some label
  | cs =>
    match number? 0 bias 1 cs with
    | none => none
    | some (delta, rest) =>
      let size := label.length + 1
      let n := least + (place + delta) / size
      let place' := (place + delta) % size
      if n > 0x10ffff then none
      else if rest.length < cs.length then
        bringAll (label.take place' ++ .ofNat n :: label.drop place') n (place' + 1)
          (adapt delta first size) false rest
      else none
termination_by cs.length

/-- The label that a text in ASCII stands for. -/
def decode? (cs : List Char) : Option WideText :=
  let behind := cs.reverse.takeWhile (· != '-')
  let front := (cs.reverse.dropWhile (· != '-')).drop 1
  bringAll (.ofChars front.reverse) 0x80 0 initialBias true behind.reverse

end ContractOps.Punycode
