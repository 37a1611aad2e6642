import ContractOps.Encoding.Crc32

/-!
# Gzip

A gzip stream holds deflated data between a header and a check. The data here is deflated without
looking for repetitions: the octets are either stored as they are or written in the fixed code, in
which those below 144 take eight bits and the others nine. What takes fewer octets is chosen
(`Gzip.deflate`). Looking for repetitions makes most data smaller than that; whoever compresses code
is free to (`Command.Setup.compress`).
-/

namespace ContractOps.Gzip

/-! ### Bits -/

/-- The lowest bits of a number, least significant first. -/
def bitsUp (count n : Nat) : List Bool :=
  match count with
  | 0 => []
  | count + 1 => (n % 2 == 1) :: bitsUp count (n / 2)

/-- The octet with the given bits, least significant first. -/
def octet (bits : List Bool) : UInt8 :=
  UInt8.ofNat (bits.foldr (fun b n => 2 * n + b.toNat) 0)

/-- Bits packed into so many octets, each filled from its least significant bit. -/
def pack : Nat → List Bool → Bytes
  | 0, _ => []
  | octets + 1, bits => octet (bits.take 8) :: pack octets (bits.drop 8)

/-- A number in so many octets, least significant first. -/
def littleEndian (count n : Nat) : Bytes :=
  match count with
  | 0 => []
  | count + 1 => UInt8.ofNat n :: littleEndian count (n / 256)

/-! ### Blocks -/

/-- The code of an octet, most significant bit first. -/
def literal (b : UInt8) : List Bool :=
  if b.toNat < 144 then (bitsUp 8 (0x30 + b.toNat)).reverse
  else (bitsUp 9 (0x190 + (b.toNat - 144))).reverse

/-- The last block in the fixed code: its header, the octets, and the code of the end. -/
def fixedBits (bytes : Bytes) : List Bool :=
  [true, true, false] ++ bytes.flatMap literal ++ List.replicate 7 false

/-- How many octets so many bits take. -/
def octetsFor (bits : Nat) : Nat := (bits + 7) / 8

/-- A single block in the fixed code. -/
def fixed (bytes : Bytes) : Bytes :=
  let bits := fixedBits bytes
  pack (octetsFor bits.length) bits

/-- The most that a stored block can hold. -/
def storedLimit : Nat := 65535

/-- Stored blocks, the last one marked as such. At most `blocks` of them are needed before it. -/
def stored : Nat → Bytes → Bytes
  | 0, bytes =>
    0x01 :: littleEndian 2 bytes.length ++ littleEndian 2 (storedLimit - bytes.length) ++ bytes
  | blocks + 1, bytes =>
    if bytes.length ≤ storedLimit then stored 0 bytes
    else
      0x00 :: littleEndian 2 storedLimit ++ littleEndian 2 0 ++ bytes.take storedLimit ++
        stored blocks (bytes.drop storedLimit)

/-- Deflates octets: stored, if that takes no more than the fixed code. -/
def deflate (bytes : Bytes) : Bytes :=
  if bytes.length + 4 ≤ octetsFor (fixedBits bytes).length then
    stored (bytes.length / storedLimit) bytes
  else fixed bytes

/-! ### The stream -/

/-- Deflated data, no time, best compression, no known system. -/
def header : Bytes := [0x1f, 0x8b, 0x08, 0x00, 0x00, 0x00, 0x00, 0x00, 0x02, 0xff]

/-- Compresses octets. -/
def compress (bytes : Bytes) : Bytes :=
  header ++ deflate bytes ++ littleEndian 4 (Crc32.ofBytes bytes).toNat ++
    littleEndian 4 bytes.length

end ContractOps.Gzip
