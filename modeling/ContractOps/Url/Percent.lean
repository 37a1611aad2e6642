import ContractOps.Encoding.Utf8

/-!
# Percent encoding

A part of an address is made of safe characters and of escapes, a percent sign with two digits for
every octet of a character. Which characters are safe depends on the part; letters, digits and a few
marks are safe everywhere. Percent signs are safe, so that an escape stays what it is.
-/

namespace ContractOps.Percent

/-- The characters that are safe in every part. -/
def isUnreserved (c : Char) : Bool := c.isAlphanum || c = '-' || c = '.' || c = '_' || c = '~'

/-- The escape of an octet, with capital digits. -/
def escape (b : UInt8) : List Char := '%' :: (Hex.padded 2 b.toNat).map Char.toUpper

/-- A character in a part: as it is or as escapes. -/
def encodeChar (safe : Char → Bool) (c : Char) : List Char :=
  if isUnreserved c || safe c then [c] else (Utf8.encodeChar c).flatMap escape

/-- A part, where half of a surrogate pair cannot stand. -/
def encode (safe : Char → Bool) : WideText → Except EncodeFlaw (List Char)
  | [] => .ok []
  | .char c :: cs => do return encodeChar safe c ++ (← encode safe cs)
  | .half n :: _ => .error {
      encoding := "utf-8"
      first := .half n
      start := 0
      count := 1
      reason := "surrogates not allowed" }

/-- Printable ASCII without the blank and some characters. -/
def visibleBut (unsafeChars : List Char) (c : Char) : Bool :=
  0x20 < c.toNat && c.toNat < 0x7f && !unsafeChars.contains c

/-- The characters that are safe in a fragment. -/
def inFragment : Char → Bool := visibleBut ['"', '<', '>', '\x60']

/-- The characters that are safe in a query. -/
def inQuery : Char → Bool := visibleBut ['"', '#', '<', '>']

/-- The characters that are safe in a path. -/
def inPath : Char → Bool := visibleBut ['"', '#', '<', '>', '?', '\x60', '\x7b', '\x7d']

/-- The characters that are safe in the name of a user. -/
def inUserInfo : Char → Bool :=
  visibleBut ['"', '#', '<', '>', '?', '\x60', '\x7b', '\x7d', '/', ';', '=', '@', '[', '\\', ']',
    '^', '|']

/-- The characters that are safe in a host: the separators of lists and parameters, and marks that
are left to the resolver of names. -/
def inHost (c : Char) : Bool := "!$&'()*+,;=\"\x60\x7b\x7d%|\\".toList.contains c

end ContractOps.Percent
