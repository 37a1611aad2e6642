import ContractOps.Encoding.Sha256
import ContractOps.Fault
import ContractOps.Text.Blank
import ContractOps.Text.Casing

/-!
# Mnemonics

A wallet is known by a mnemonic: words that stand for eleven bits each, the last bits of them
being a check on the others. There have to be 12, 15, 18, 21 or 24 words. Deriving keys from the
bits is the business of the signer; here a mnemonic is only checked (`Mnemonic.entropy`), against a
list of 2048 words that gives every word its number.
-/

namespace ContractOps.Mnemonic

/-- What is wrong with a mnemonic. -/
inductive Flaw where
  | wordCount (count : Nat)
  | unknownWord
  | checksum
deriving DecidableEq, Repr

/-- The wording of a flaw. -/
def Flaw.message : Flaw → String
  | wordCount count => s!"Mnemonic words count is not valid ({count})"
  | unknownWord => "Invalid language for mnemonic"
  | checksum => "Invalid checksum"

/-- How many words a mnemonic may have. -/
def wordCounts : List Nat := [12, 15, 18, 21, 24]

/-- A list of words: the number of a word in it. -/
abbrev WordList := WideText → Option Nat

/-- The lowest bits of a number, most significant first. -/
def bitsDown (count n : Nat) : List Bool :=
  match count with
  | 0 => []
  | count + 1 => bitsDown count (n / 2) ++ [n % 2 == 1]

/-- So many octets of bits, most significant first. -/
def octets : Nat → List Bool → Bytes
  | 0, _ => []
  | count + 1, bits =>
    UInt8.ofNat ((bits.take 8).foldl (fun n b => 2 * n + b.toNat) 0) :: octets count (bits.drop 8)

/-- The first bits of the digest of an entropy. -/
def checkBits (count : Nat) (entropy : Bytes) : List Bool :=
  ((Sha256.digest entropy).flatMap fun b => bitsDown 8 b.toNat).take count

/-- The octets that the words of a mnemonic stand for, without the check at their end. -/
def entropy (list : WordList) (text : String) : Except Flaw Bytes :=
  let words := (Text.words text.toList).map fun w => Text.lowercase (.ofChars w)
  let count := words.length
  if count ∉ wordCounts then .error (.wordCount count)
  else
    match words.mapM list with
    | none => .error .unknownWord
    | some indices =>
      let bits := indices.flatMap (bitsDown 11)
      let size := 4 * count / 3
      let entropy := octets size bits
      if bits.drop (8 * size) = checkBits (count / 3) entropy then .ok entropy
      else .error .checksum

/-- The entropy of a mnemonic. A flaw is a failure that names the prefix of the wallet's
addresses. -/
def check (list : WordList) (text : String) (addressPrefix : Json) : Except Fault Bytes :=
  match entropy list text with
  | .ok bytes => .ok bytes
  | .error flaw => .error (.failure (.noWalletFor addressPrefix flaw.message))

end ContractOps.Mnemonic
