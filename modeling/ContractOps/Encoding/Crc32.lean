import ContractOps.Encoding.Hex

/-!
# Cyclic redundancy check

The check of 32 bits that closes a gzip stream: the remainder of the octets as a polynomial over two
elements, least significant bit first, with all bits of the register turned at the beginning and at
the end.
-/

namespace ContractOps.Crc32

/-- The divisor, least significant bit first. -/
def polynomial : UInt32 := 0xedb88320

/-- Shifts one bit out of the register. -/
def shift (register : UInt32) : UInt32 :=
  if register &&& 1 = 1 then (register >>> 1) ^^^ polynomial else register >>> 1

/-- Takes one octet into the register. -/
def update (register : UInt32) (b : UInt8) : UInt32 := Nat.repeat shift 8 (register ^^^ b.toUInt32)

/-- The check of octets. -/
def ofBytes (bytes : Bytes) : UInt32 := bytes.foldl update 0xffffffff ^^^ 0xffffffff

end ContractOps.Crc32
