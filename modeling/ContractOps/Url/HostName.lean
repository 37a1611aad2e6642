import ContractOps.Text.Split
import ContractOps.Url.Label
import ContractOps.Url.Punycode

/-!
# Names of hosts

The name of a host consists of labels between points. A label with characters outside ASCII is
written in Punycode behind a mark, and a label with that mark has to stand for a label that could be
written so.
-/

namespace ContractOps.Url.HostName

/-- The points that separate labels. -/
def isPoint (c : Char) : Bool := [0x2e, 0x3002, 0xff0e, 0xff61].contains c.toNat

/-- The mark of an encoded label. -/
def mark : List Char := "xn--".toList

/-- The most octets that a name may have, and one more with a point at its end. -/
def maxSize : Nat := 253

/-- Whether all characters of a text are ASCII. -/
def isAscii (cs : List Char) : Bool := cs.all fun c => c.toNat < 0x80

/-- The labels of a name, and whether a point follows the last one. -/
def labels (name : List Char) : Except LabelFlaw (List (List Char) × Bool) :=
  if name.length > maxSize + 1 then .error .nameTooLong
  else if name.isEmpty then .error .emptyName
  else
    let parts := Text.split '.' (name.map fun c => if isPoint c then '.' else c)
    if parts.getLast? = some [] then .ok (parts.dropLast, true) else .ok (parts, false)

/-- Checks a label in ASCII: the label that it stands for, if it has the mark. -/
def checkAscii (label : List Char) : Except LabelFlaw Unit :=
  let label := label.map Char.toLower
  if mark.isPrefixOf label then
    let encoded := label.drop mark.length
    if encoded.isEmpty then .error .nothingEncoded
    else if encoded.getLast? = some '-' then .error .finalHyphen
    else
      match Punycode.decode? encoded with
      | some decoded => Label.checkWide decoded
      | none => .error .notEncoded
  else Label.check label

/-- A label in ASCII. -/
def encodeLabel (label : List Char) : Except LabelFlaw (List Char) := do
  let encoded ←
    if isAscii label then do
      checkAscii label
      pure label
    else do
      Label.check label
      pure (mark ++ Punycode.encode label)
  if encoded.length ≤ Label.maxSize then return encoded else throw .labelTooLong

/-- A name in ASCII. -/
def encode (name : List Char) : Except LabelFlaw (List Char) := do
  let (parts, closed) ← labels name
  let encoded ← parts.mapM encodeLabel
  let parts := if closed then encoded ++ [[]] else encoded
  let name := ['.'].intercalate parts
  if name.length ≤ (if closed then maxSize + 1 else maxSize) then return name
  else throw .nameTooLong

/-- Checks that every label of a name in ASCII is one or stands for one. -/
def checkEncoded (name : List Char) : Except LabelFlaw Unit := do
  let (parts, _) ← labels name
  for label in parts do
    checkAscii label

end ContractOps.Url.HostName
