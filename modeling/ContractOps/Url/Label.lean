import ContractOps.Text.Composition
import ContractOps.Text.Quoted
import ContractOps.Url.Repertoire

/-!
# Labels of host names

A label is checked as a whole: it has to be composed, not to begin with a mark, and to keep its
hyphens away from the ends and from the places where a mark of encoded labels has them. Then its
characters are checked one by one, and at last their directions, if one of them runs from right to
left.
-/

namespace ContractOps.Url

open Text

/-- What is wrong with a label or with the name that it is a part of. -/
inductive LabelFlaw where
  | labelTooLong
  | nameTooLong
  | emptyLabel
  | emptyName
  | notComposed
  | hyphens
  | outerHyphen
  | initialMark
  /-- A joiner does not fit its neighbours; positions count from one. -/
  | joiner (label : WideText) (c : CodePoint) (position : Nat)
  | context (label : WideText) (c : CodePoint) (position : Nat)
  | codePoint (label : WideText) (c : CodePoint) (position : Nat)
  | firstDirection (label : WideText)
  | directionInRight (position : Nat)
  | directionInLeft (position : Nat)
  | mixedNumbers
  | lastDirection
  | notEncoded
  | nothingEncoded
  | finalHyphen
deriving DecidableEq, Repr

/-- The number of a code point with at least four capital digits. -/
def pointText (c : CodePoint) : String :=
  let width := if c.toNat < 0x10000 then 4 else if c.toNat < 0x100000 then 5 else 6
  "U+" ++ String.ofList ((Hex.padded width c.toNat).map Char.toUpper)

/-- The wording of a flaw. -/
def LabelFlaw.message : LabelFlaw → String
  | labelTooLong => "Label too long"
  | nameTooLong => "Domain too long"
  | emptyLabel => "Empty Label"
  | emptyName => "Empty domain"
  | notComposed => "Label must be in Normalization Form C"
  | hyphens => "Label has disallowed hyphens in 3rd and 4th position"
  | outerHyphen => "Label must not start or end with a hyphen"
  | initialMark => "Label begins with an illegal combining character"
  | joiner label c position =>
    s!"Unknown codepoint adjacent to joiner {pointText c} at position {position} in {quoted label}"
  | context label c position =>
    s!"Codepoint {pointText c} not allowed at position {position} in {quoted label}"
  | codePoint label c position =>
    s!"Codepoint {pointText c} at position {position} of {quoted label} not allowed"
  | firstDirection label =>
    s!"First codepoint in label {quoted label} must be directionality L, R or AL"
  | directionInRight position =>
    s!"Invalid direction for codepoint at position {position} in a right-to-left label"
  | directionInLeft position =>
    s!"Invalid direction for codepoint at position {position} in a left-to-right label"
  | mixedNumbers => "Can not mix numeral types in a right-to-left label"
  | lastDirection => "Label ends with illegal codepoint directionality"
  | notEncoded => "Invalid A-label"
  | nothingEncoded => "Malformed A-label, no Punycode eligible content found"
  | finalHyphen => "A-label must not end with a hyphen"

namespace Label

/-! ### Characters in their context -/

/-- Whether the nearest character that is not transparent joins on a side. -/
def joins (side : Joining) (cs : List Char) : Bool :=
  match (cs.filterMap fun c => if joiningOf c = some .transparent then none else some c).head? with
  | some c => joiningOf c = some side || joiningOf c = some .dual
  | none => false

/-- The combining class of the marks that silence a vowel. -/
def silencing : Nat := 9

/-- Whether a joiner may stand after a text, given in reverse, and before another one. After a mark
that silences a vowel both joiners may stand; the one that keeps letters apart may also stand
between letters that would join. -/
def joinerFits (c : Char) (before after : List Char) : Bool :=
  ((before.head?.map fun b => combiningClass b == silencing).getD false) ||
    (c.toNat == 0x200c && joins .left before && joins .right after)

/-- The digits of Arabic. -/
def isArabicDigit (c : Char) : Bool := 0x660 ≤ c.toNat && c.toNat ≤ 0x669

/-- The digits of Persian and Urdu. -/
def isPersianDigit (c : Char) : Bool := 0x6f0 ≤ c.toNat && c.toNat ≤ 0x6f9

/-- Whether a character depends on its context. -/
def isContextual (c : Char) : Bool :=
  [0xb7, 0x375, 0x5f3, 0x5f4, 0x30fb].contains c.toNat || isArabicDigit c || isPersianDigit c

/-- Whether a contextual character may stand after a text, given in reverse, and before another one.
-/
def contextFits (c : Char) (before after : List Char) : Bool :=
  if c.toNat = 0xb7 then before.head? == some 'l' && after.head? == some 'l'
  else if c.toNat = 0x375 then (after.head?.map greek.has).getD false
  else if c.toNat = 0x5f3 ∨ c.toNat = 0x5f4 then (before.head?.map hebrew.has).getD false
  else if c.toNat = 0x30fb then (before ++ after).any fun d => d.toNat != 0x30fb && japanese.has d
  else if isArabicDigit c then !(before ++ after).any isPersianDigit
  else !(before ++ after).any isArabicDigit

/-- Checks the characters of a label one by one. -/
def checkEach (label : List Char) (before : List Char) : List Char → Except LabelFlaw Unit
  | [] => .ok ()
  | c :: after =>
    let position := before.length + 1
    if inRepertoire c then checkEach label (c :: before) after
    else if c.toNat = 0x200c ∨ c.toNat = 0x200d then
      if joinerFits c before after then checkEach label (c :: before) after
      else .error (.joiner (.ofChars label) c position)
    else if isContextual c then
      if contextFits c before after then checkEach label (c :: before) after
      else .error (.context (.ofChars label) c position)
    else .error (.codePoint (.ofChars label) c position)

/-! ### Directions -/

/-- Whether a direction is one that makes the rules on directions apply. -/
def runsRight (d : Direction) : Bool := d = .right || d = .arabic || d = .arabicNumber

/-- Whether a label may end in a direction, marks apart. -/
def mayEnd (fromRight : Bool) (d : Direction) : Bool :=
  if fromRight then runsRight d || d = .number else d = .left || d = .number

/-- Checks directions one by one. `number` is the kind of the numbers so far and `ends` tells
whether the label might end here. -/
def checkDirections (fromRight : Bool) (position : Nat) (number : Option Direction)
    (ends : Bool) : List Direction → Except LabelFlaw Unit
  | [] => if ends then .ok () else .error .lastDirection
  | d :: ds =>
    let endsHere := mayEnd fromRight d || (d = .mark && ends)
    if fromRight then
      if d = .left then .error (.directionInRight position)
      else if d = .number ∨ d = .arabicNumber then
        if number = none ∨ number = some d then
          checkDirections fromRight (position + 1) (some d) endsHere ds
        else .error .mixedNumbers
      else checkDirections fromRight (position + 1) number endsHere ds
    else if runsRight d then .error (.directionInLeft position)
    else checkDirections fromRight (position + 1) number endsHere ds

/-- Checks the directions of a label, if one of them runs from right to left. -/
def checkWriting (label : List Char) : Except LabelFlaw Unit :=
  let ds := label.map directionOf
  if !ds.any runsRight then .ok ()
  else
    match ds.head? with
    | some .right | some .arabic => checkDirections true 1 none false ds
    | some .left => checkDirections false 1 none false ds
    | _ => .error (.firstDirection (.ofChars label))

/-! ### Labels -/

/-- The most octets that a label may have. -/
def maxSize : Nat := 63

/-- The most characters of a label that is looked at. -/
def maxLength : Nat := 254

/-- Checks a label. -/
def check (label : List Char) : Except LabelFlaw Unit := do
  if label.isEmpty then throw .emptyLabel
  if label.length > maxLength then throw .labelTooLong
  if !isComposed label then throw .notComposed
  if (label.drop 2).take 2 == ['-', '-'] then throw .hyphens
  if label.head? == some '-' || label.getLast? == some '-' then throw .outerHyphen
  if (label.head?.map isMark).getD false then throw .initialMark
  checkEach label [] label
  checkWriting label

/-- Checks a label that may hold halves of surrogate pairs, which have no place in it. -/
def checkWide (label : WideText) : Except LabelFlaw Unit :=
  match label.chars?, label.find? fun c => c.char?.isNone with
  | some cs, _ => check cs
  | none, half? =>
    let before := label.takeWhile fun c => c.char?.isSome
    .error (.codePoint label (half?.getD default) (before.length + 1))

end Label

end ContractOps.Url
