import ContractOps.Json.Access

/-!
# Gas and fees

A transaction pays for its gas limit at a price per unit of gas. The fee is the product of the
two, with 28 significant digits, rounded up to a whole amount (`Fee.amount`), and is written in
front of its denomination (`Fee.text`). The price is the decimal number that its text denotes, so
that a price of 0.1 is exactly a tenth.
-/

namespace ContractOps

namespace Gas

/-- The gas for uploading octets: so much for each of them, rounded up. -/
def forSize (size multiplier : Json) : Except Fault Int := do (← multiplier.times size).ceil

/-- The gas for messages: so much for each of them, adjusted and rounded up. -/
def forMessages (perMessage : Json) (messages : Nat) (adjustment : Json) : Except Fault Int := do
  (← (← perMessage.times (.int messages)).times adjustment).ceil

end Gas

namespace Fee

/-- The price as a decimal number. -/
def price (v : Json) : Except Fault Decimal :=
  match Decimal.read? v.display.shown with
  | some d => .ok d
  | none => .error (.decimal .invalid)

/-- A computation with decimal numbers, its faults among all others. -/
def lift {α : Type} : Except Decimal.Fault α → Except Fault α
  | .ok a => .ok a
  | .error .infiniteCeiling => .error .overflow
  | .error e => .error (.decimal e)

/-- The amount for a gas limit at a price. -/
def amount (gas gasPrice : Json) : Except Fault Int := do
  let p ← price gasPrice
  match gas.integer? with
  | none => throw (.type .mismatch)
  | some g => lift (do (← p.scale g).ceil)

/-- The decimal notation of an integer that is not too long to be written. -/
def write (n : Int) : Except Fault String :=
  if n.natAbs < Nat.pow 10 Numeral.maxDigits then .ok (Digits.text n)
  else .error (.value .integerUnwritable)

/-- The amount for a gas limit at a price, with its denomination. -/
def text (gas gasPrice denom : Json) : Except Fault WideText := do
  return (← write (← amount gas gasPrice)) ++ denom.display

end Fee

end ContractOps
