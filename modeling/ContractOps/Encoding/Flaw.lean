import ContractOps.Encoding.Hex
import ContractOps.Text.CodePoint

/-!
# Flaws of encodings

An encoding may have no octets for a code point, and octets may stand for no code point in it. A
flaw says where that is so, and its message names the encoding, the place and the reason.
-/

namespace ContractOps

/-- The place of a run of items: the first one, or the first and the last one. -/
def placeText (start count : Nat) : String :=
  if count ≤ 1 then s!"{start}" else s!"{start}-{start + count - 1}"

/-- Code points that an encoding has no octets for. -/
structure EncodeFlaw where
  encoding : String
  first : CodePoint
  start : Nat
  count : Nat
  reason : String
deriving DecidableEq, Repr

/-- The wording of a flaw. A single code point is shown. -/
def EncodeFlaw.message (f : EncodeFlaw) : String :=
  let n := f.first.toNat
  let escape :=
    if n < 0x100 then "\\x" ++ String.ofList (Hex.padded 2 n)
    else if n < 0x10000 then "\\u" ++ String.ofList (Hex.padded 4 n)
    else "\\U" ++ String.ofList (Hex.padded 8 n)
  let what := if f.count ≤ 1 then s!"character '{escape}'" else "characters"
  s!"'{f.encoding}' codec can't encode {what} in position {placeText f.start f.count}: {f.reason}"

/-- Octets that stand for no code point in an encoding. -/
structure DecodeFlaw where
  encoding : String
  first : UInt8
  start : Nat
  count : Nat
  reason : String
deriving DecidableEq, Repr

/-- The wording of a flaw. A single octet is shown. -/
def DecodeFlaw.message (f : DecodeFlaw) : String :=
  let what :=
    if f.count ≤ 1 then "byte 0x" ++ String.ofList (Hex.padded 2 f.first.toNat) else "bytes"
  s!"'{f.encoding}' codec can't decode {what} in position {placeText f.start f.count}: {f.reason}"

end ContractOps
