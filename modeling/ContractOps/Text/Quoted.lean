import ContractOps.Encoding.Hex
import ContractOps.Text.CodePoint
import ContractOps.Text.Printable

/-!
# Quoted texts

Messages show a text or a run of octets between quotes, in a form that leaves no doubt about its
content. The quote is an apostrophe, unless the content holds an apostrophe and no double quote.
-/

namespace ContractOps.Text

/-- The quote for a content that may hold apostrophes and double quotes. -/
def quoteFor (hasApostrophe hasDoubleQuote : Bool) : Char :=
  if hasApostrophe && !hasDoubleQuote then '"' else '\''

/-- A character between quotes: the quote itself, the backslash, tab and line ends are escaped, and
characters that are not printable are shown by their code point, with the fewest of two, four or
eight digits. -/
def quotedChar (quote c : Char) : List Char :=
  if c = quote ∨ c = '\\' then ['\\', c]
  else if c = '\n' then ['\\', 'n']
  else if c = '\r' then ['\\', 'r']
  else if c = '\t' then ['\\', 't']
  else if isPrintable c then [c]
  else if c.toNat < 0x100 then ['\\', 'x'] ++ Hex.padded 2 c.toNat
  else if c.toNat < 0x10000 then ['\\', 'u'] ++ Hex.padded 4 c.toNat
  else ['\\', 'U'] ++ Hex.padded 8 c.toNat

/-- A code point between quotes: half of a surrogate pair is shown by its code point. -/
def quotedPoint (quote : Char) : CodePoint → List Char
  | .char c => quotedChar quote c
  | .half n => ['\\', 'u'] ++ Hex.padded 4 (CodePoint.half n).toNat

/-- A text between quotes. -/
def quotedChars (cs : WideText) : List Char :=
  let quote := quoteFor (cs.contains (.char '\'')) (cs.contains (.char '"'))
  quote :: cs.flatMap (quotedPoint quote) ++ [quote]

/-- A text between quotes. -/
def quoted (s : WideText) : String := String.ofList (quotedChars s)

/-- An octet between quotes: printable ASCII is shown as it is. -/
def quotedByte (quote : Char) (b : UInt8) : List Char :=
  let c := Char.ofNat b.toNat
  if c = quote ∨ c = '\\' then ['\\', c]
  else if c = '\n' then ['\\', 'n']
  else if c = '\r' then ['\\', 'r']
  else if c = '\t' then ['\\', 't']
  else if 0x20 ≤ b.toNat ∧ b.toNat < 0x7f then [c]
  else ['\\', 'x'] ++ Hex.padded 2 b.toNat

/-- Octets between quotes, marked by a leading `b`. -/
def quotedBytes (bytes : Bytes) : String :=
  let quote := quoteFor (bytes.contains 0x27) (bytes.contains 0x22)
  String.ofList ('b' :: quote :: bytes.flatMap (quotedByte quote) ++ [quote])

end ContractOps.Text
