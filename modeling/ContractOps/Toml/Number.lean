import ContractOps.Encoding.Hex
import ContractOps.Numeral.Reading
import ContractOps.Text.Split
import ContractOps.Toml.Value

/-!
# Numbers

Integers are written in decimal, hexadecimal, octal or binary notation; a point or an exponent makes
a number one of double precision. A sign may stand in front, and underscores do not count. Behind a
key a number has to keep to stricter rules on zeros and underscores than within a list.
-/

namespace ContractOps.Toml

/-- Whether two characters stand next to each other somewhere. -/
def hasPair (a b : Char) : List Char → Bool
  | c :: d :: cs => c == a && d == b || hasPair a b (d :: cs)
  | _ => false

/-- Whether a number has no zero in front that means nothing, and underscores only within. -/
def isStrict (cs : List Char) : Bool :=
  let cs := Text.stripBy Text.isBlank cs
  let fits (cs : List Char) : Bool := !hasPair '_' '_' cs
  if cs.isEmpty || cs.head? = some '_' || cs.getLast? = some '_' then false
  else if hasPair '_' '.' cs || hasPair '.' '_' cs then false
  else
    match cs with
    | [_] => true
    | '0' :: c :: _ => (c = '.' || c = 'o' || c = 'b' || c = 'x') && fits cs
    | '+' :: '0' :: c :: _ | '-' :: '0' :: c :: _ => c = '.' && fits (cs.drop 1)
    | '+' :: cs | '-' :: cs => fits cs
    | cs => fits cs

/-- The natural number that digits of a base below 17 denote. -/
def ofDigits? (base : Nat) (cs : List Char) : Option Nat :=
  if cs.isEmpty then none
  else cs.foldlM (fun n c => do
    let d ← Hex.value? c
    if d < base then some (base * n + d) else none) 0

/-- The natural number that a literal denotes. In decimal notation only zeros may follow a zero. -/
def natural? : List Char → Option Nat
  | '0' :: 'x' :: cs | '0' :: 'X' :: cs => ofDigits? 16 cs
  | '0' :: 'o' :: cs | '0' :: 'O' :: cs => ofDigits? 8 cs
  | '0' :: 'b' :: cs | '0' :: 'B' :: cs => ofDigits? 2 cs
  | '0' :: cs => if cs.all (· = '0') then some 0 else none
  | cs => if cs.length ≤ Numeral.maxDigits then ofDigits? 10 cs else none

/-- The integer that a literal denotes: digits may be of any script, and a sign stands in front. -/
def integer? (cs : List Char) : Option Int :=
  let (negative, digits) := Decimal.splitSign (Numeral.ascii (String.ofList cs))
  (natural? digits).map fun n => if negative then -(n : Int) else n

/-- Whether a number is one of double precision. -/
def isFractional (cs : List Char) : Bool :=
  '.' ∈ cs || ('x' ∉ cs && ('e' ∈ cs || 'E' ∈ cs))

/-- The number of double precision that a text with a digit in front denotes. Digits have to follow
a point. -/
def fractional? (cs : List Char) : Option Binary64 :=
  if '.' ∈ cs && ((cs.dropWhile (· ≠ '.')).drop 1).isEmpty then none
  else if (cs.head?.map Digits.isDigit).getD false then Numeral.binary64? (String.ofList cs)
  else none

/-- Whether a text names infinity or what is no number. -/
def isSpecial (cs : List Char) : Bool :=
  let word := String.ofList (cs.map Decimal.lowerAscii)
  word == "inf" || word == "nan"

/-- A number or its opposite. The opposite of zero is positive. -/
def signed (negative : Bool) (x : Binary64) : Binary64 :=
  if !negative then x else if x.isZero then .zero false else x.neg

/-- The number that a text denotes. -/
def number? (cs : List Char) : Option Value :=
  let (negative, rest) := Decimal.splitSign cs
  let body := rest.filter (· ≠ '_')
  if isFractional body then (fractional? body).map (.float <| signed negative ·)
  else if isSpecial body then
    (Numeral.binary64? (String.ofList body)).map (.float <| signed negative ·)
  else (integer? body).map fun n => .int (if negative then -n else n)

/-- The stamp or number that a text denotes. A number may have to keep to the stricter rules. -/
def stampOrNumber (cs : List Char) (strict : Bool) : Except Flaw Value := do
  match leadingTime? cs with
  | some (h, m, s, micro) =>
    match Time.of? h m s micro with
    | some time => return .stamp (.time time)
    | none => throw .malformed
  | none =>
    match ← date? cs with
    | some stamp => return .stamp stamp
    | none =>
      if !strict then throw .malformed
      match number? cs with
      | some v => return v
      | none => throw .malformed

/-- Whether a text could be a number, a date or a time. -/
def looksNumeric (cs : List Char) : Except Flaw Bool := do
  if (Numeral.binary64? (String.ofList cs)).isSome then return true
  return (← date? cs).isSome || (leadingTime? cs).isSome

end ContractOps.Toml
