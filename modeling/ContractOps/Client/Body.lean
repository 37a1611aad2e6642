import ContractOps.Encoding.Units
import ContractOps.Encoding.Utf8
import ContractOps.Json.Access

/-!
# Bodies of responses

The text of a body comes in UTF-8, UTF-16 or UTF-32. Which one it is shows a mark at its beginning
or, because the first characters of JSON are ASCII, the places of the octets that are zero among the
first four. In each of them halves of surrogate pairs are taken as they are.
-/

namespace ContractOps.Body

/-- The encodings of a body. -/
inductive Encoding where
  | utf8
  | utf16 (order : OctetOrder)
  | utf32 (order : OctetOrder)
deriving DecidableEq, Repr

/-- The marks that a body may begin with. -/
def marks : List (Bytes × Encoding) :=
  [([0x00, 0x00, 0xfe, 0xff], .utf32 .highFirst), ([0xff, 0xfe, 0x00, 0x00], .utf32 .lowFirst),
    ([0xfe, 0xff], .utf16 .highFirst), ([0xff, 0xfe], .utf16 .lowFirst),
    ([0xef, 0xbb, 0xbf], .utf8)]

/-- The encoding of a body without a mark. -/
def guess : Bytes → Encoding
  | a :: b :: c :: d :: _ =>
    if a = 0 then if b = 0 then .utf32 .highFirst else .utf16 .highFirst
    else if b = 0 then if c = 0 ∧ d = 0 then .utf32 .lowFirst else .utf16 .lowFirst
    else .utf8
  | [a, b] => if a = 0 then .utf16 .highFirst else if b = 0 then .utf16 .lowFirst else .utf8
  | _ => .utf8

/-- The encoding of a body, and how many octets its mark has. -/
def detect (body : Bytes) : Encoding × Nat :=
  match marks.find? fun m => m.1.isPrefixOf body with
  | some (mark, encoding) => (encoding, mark.length)
  | none => (guess body, 0)

/-- A result of decoding, its flaw among all other faults. -/
def lift : Except DecodeFlaw WideText → Except Fault WideText
  | .ok text => .ok text
  | .error flaw => .error (.undecodable flaw)

/-- The text of a body. -/
def text (body : Bytes) : Except Fault WideText :=
  let (encoding, start) := detect body
  let bytes := body.drop start
  match encoding with
  | .utf8 =>
    match Utf8.decodeWide? bytes with
    | some text => .ok text
    | none => .error .notUtf8
  | .utf16 order => lift (Utf16.decode order start bytes)
  | .utf32 order => lift (Utf32.decode order start bytes)

/-- The value that a body holds. -/
def json (body : Bytes) : Except Fault Json := do
  match Json.readWhole (← text body) with
  | .ok v => return v
  | .error e => throw (.json e)

end ContractOps.Body
