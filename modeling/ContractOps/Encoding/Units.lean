import ContractOps.Encoding.Flaw

/-!
# Texts in units of two and four octets

UTF-16 and UTF-32 write a text in units of two or four octets, whose order is not fixed. Reading
takes halves of surrogate pairs that stand alone as they are. What it refuses are octets that do not
fill a unit and numbers beyond the last code point.
-/

namespace ContractOps

/-- The order of the octets of a unit: the lowest or the highest one first. -/
inductive OctetOrder where
  | lowFirst
  | highFirst
deriving DecidableEq, Repr

/-- The number that the octets of a unit make up. -/
def OctetOrder.number (order : OctetOrder) (unit : Bytes) : Nat :=
  let highFirst := match order with
    | .lowFirst => unit.reverse
    | .highFirst => unit
  highFirst.foldl (fun n b => 0x100 * n + b.toNat) 0

/-- The end of the name of an encoding with an order. -/
def OctetOrder.suffix : OctetOrder → String
  | lowFirst => "le"
  | highFirst => "be"

namespace Utf16

/-- The text of units: halves of a pair that follow each other make up a character. -/
def ofUnits : List Nat → WideText
  | [] => []
  | [n] => [.ofNat n]
  | m :: n :: rest =>
    if CodePoint.isHighHalf m && CodePoint.isLowHalf n then
      .ofNat (CodePoint.join m n) :: ofUnits rest
    else .ofNat m :: ofUnits (n :: rest)

/-- The units of octets that begin at a position. -/
def units (order : OctetOrder) (position : Nat) : Bytes → Except DecodeFlaw (List Nat)
  | [] => .ok []
  | [b] => .error {
      encoding := s!"utf-16-{order.suffix}"
      first := b
      start := position
      count := 1
      reason := "truncated data" }
  | a :: b :: rest => do return order.number [a, b] :: (← units order (position + 2) rest)

/-- The text of octets that begin at a position. -/
def decode (order : OctetOrder) (position : Nat) (bytes : Bytes) : Except DecodeFlaw WideText := do
  return ofUnits (← units order position bytes)

end Utf16

namespace Utf32

/-- The text of octets that begin at a position. -/
def decode (order : OctetOrder) (position : Nat) : Bytes → Except DecodeFlaw WideText
  | [] => .ok []
  | a :: b :: c :: d :: rest =>
    let n := order.number [a, b, c, d]
    if n < 0x110000 then do return .ofNat n :: (← decode order (position + 4) rest)
    else .error {
      encoding := s!"utf-32-{order.suffix}"
      first := a
      start := position
      count := 4
      reason := "code point not in range(0x110000)" }
  | b :: rest => .error {
      encoding := s!"utf-32-{order.suffix}"
      first := b
      start := position
      count := rest.length + 1
      reason := "truncated data" }

end Utf32

end ContractOps
