import ContractOps.Json.Basic
import ContractOps.Encoding.Hex
import ContractOps.Numeral.Reading

/-!
# Reading JSON

    text ──scan──▶ value and rest ──read──▶ value

Every scanning step returns what it has read with the rest of the text, which is shorter. A fault
is recorded by its reason and by the rest of the text where it was met; `read` turns that into a
position. Beyond the standard, the reader takes `NaN`, `Infinity` and `-Infinity`, and of members
with one name the last counts, at the place of the first.

Every container that stands in others takes room on the stack, and how much of it is left depends on
who reads (`readWithin`). `read` goes as deep as it usually can.
-/

namespace ContractOps.Json

/-- Why a text is no JSON. -/
inductive Reason where
  | value
  | propertyName
  | colon
  | comma
  | unterminated
  | controlCharacter
  | escape
  | unicodeEscape
  | extraData
  | byteOrderMark
deriving DecidableEq, Repr

/-- The wording of a reason. -/
def Reason.text : Reason → String
  | value => "Expecting value"
  | propertyName => "Expecting property name enclosed in double quotes"
  | colon => "Expecting ':' delimiter"
  | comma => "Expecting ',' delimiter"
  | unterminated => "Unterminated string starting at"
  | controlCharacter => "Invalid control character at"
  | escape => "Invalid \\escape"
  | unicodeEscape => "Invalid \\uXXXX escape"
  | extraData => "Extra data"
  | byteOrderMark => "Unexpected UTF-8 BOM (decode using utf-8-sig)"

/-- The values that hold others. -/
inductive Container where
  | array
  | object
deriving DecidableEq, Repr

/-- A fault met while scanning. -/
inductive ScanFault where
  /-- The text breaks the grammar where the rest begins. -/
  | malformed (reason : Reason) (rest : WideText)
  /-- An integer has more digits than are read. -/
  | tooLong (digits : Nat)
  /-- A container stands in too many others. -/
  | tooDeep (container : Container)
deriving DecidableEq, Repr

/-- What a scanning step has read of `cs`, and the rest. -/
abbrev Scanned (α : Type) (cs : WideText) := α × { rest : WideText // rest.length < cs.length }

/-! ### White space -/

/-- Drops leading white space. -/
def skip : WideText → WideText
  | [] => []
  | c :: cs => if c.is Text.isLayout then skip cs else c :: cs

theorem length_skip_le (cs : WideText) : (skip cs).length ≤ cs.length := by
  induction cs with
  | nil => simp [skip]
  | cons c cs ih =>
    rw [skip, List.length_cons]
    split
    · omega
    · simp

/-! ### Texts in quotes -/

/-- The value of four hexadecimal digits. -/
def hex4? : WideText → Option Nat
  | [.char a, .char b, .char c, .char d] => do
    let a ← Hex.value? a
    let b ← Hex.value? b
    let c ← Hex.value? c
    let d ← Hex.value? d
    return ((a * 16 + b) * 16 + c) * 16 + d
  | _ => none

/-- The character that an escape of one letter stands for. -/
def simpleEscape? : Char → Option Char
  | '"' => some '"'
  | '\\' => some '\\'
  | '/' => some '/'
  | 'b' => some '\x08'
  | 'f' => some '\x0c'
  | 'n' => some '\n'
  | 'r' => some '\r'
  | 't' => some '\t'
  | _ => none

/-- The second half of a surrogate pair, if an escape for one stands at the beginning of a text. The
closing quote has to follow it somewhere. -/
def secondHalf (cs : WideText) : Except ScanFault (Option (Scanned Nat cs)) :=
  match cs with
  | .char '\\' :: .char 'u' :: a :: b :: c :: d :: e :: rest =>
    match hex4? [a, b, c, d] with
    | none => .error (.malformed .unicodeEscape (.char 'u' :: a :: b :: c :: d :: e :: rest))
    | some n =>
      if CodePoint.isLowHalf n then .ok (some (n, ⟨e :: rest, by simp +arith⟩)) else .ok none
  | _ => .ok none

/-- The code point of a unicode escape, whose `u` is the first of `cs`: four digits, and after the
first half of a surrogate pair the escape of the other half. Where that does not follow, the half
stands alone. The closing quote has to follow somewhere. -/
def unicodeEscape (cs : WideText) : Except ScanFault (Scanned CodePoint cs) :=
  match cs with
  | u :: a :: b :: c :: d :: e :: rest =>
    match hex4? [a, b, c, d] with
    | none => .error (.malformed .unicodeEscape (u :: a :: b :: c :: d :: e :: rest))
    | some n =>
      if CodePoint.isHighHalf n then
        match secondHalf (e :: rest) with
        | .error fault => .error fault
        | .ok (some (m, ⟨after, h⟩)) =>
          .ok (.ofNat (CodePoint.join n m), ⟨after, by simp only [List.length_cons] at *; omega⟩)
        | .ok none => .ok (.ofNat n, ⟨e :: rest, by simp +arith⟩)
      else .ok (.ofNat n, ⟨e :: rest, by simp +arith⟩)
  | cs => .error (.malformed .unicodeEscape cs)

/-- The content of a text up to its closing quote, and the rest after it. `start` is the text from
the opening quote. -/
def textBody (start cs : WideText) : Except ScanFault (Scanned WideText cs) :=
  match cs with
  | [] => .error (.malformed .unterminated start)
  | .char '"' :: rest => .ok ([], ⟨rest, by simp⟩)
  | .char '\\' :: rest =>
    match rest with
    | [] => .error (.malformed .unterminated start)
    | .char 'u' :: digits =>
      match unicodeEscape (.char 'u' :: digits) with
      | .error e => .error e
      | .ok (c, ⟨after, h⟩) =>
        match textBody start after with
        | .error e => .error e
        | .ok (body, ⟨rest', h'⟩) =>
          .ok (c :: body, ⟨rest', by simp only [List.length_cons] at *; omega⟩)
    | letter :: after =>
      match letter.char?.bind simpleEscape? with
      | none => .error (.malformed .escape (.char '\\' :: letter :: after))
      | some c =>
        match textBody start after with
        | .error e => .error e
        | .ok (body, ⟨rest', h'⟩) =>
          .ok (c :: body, ⟨rest', by simp only [List.length_cons] at *; omega⟩)
  | c :: rest =>
    if c.toNat < 0x20 then .error (.malformed .controlCharacter (c :: rest))
    else
      match textBody start rest with
      | .error e => .error e
      | .ok (body, ⟨rest', h'⟩) =>
        .ok (c :: body, ⟨rest', by simp only [List.length_cons] at *; omega⟩)
termination_by cs.length
decreasing_by all_goals simp only [List.length_cons] at *; omega

/-! ### Numbers -/

/-- The leading digits of a text, and what follows them. -/
def digits (cs : WideText) : List Char × WideText :=
  (WideText.plain (cs.takeWhile (·.is Digits.isDigit)), cs.dropWhile (·.is Digits.isDigit))

/-- A sign before digits. -/
def dropMinus : WideText → Bool × WideText
  | .char '-' :: cs => (true, cs)
  | cs => (false, cs)

/-- The digits of an integer part: a single zero, or digits that start with another one. -/
def wholePart : WideText → Option (List Char × WideText)
  | .char '0' :: cs => some (['0'], cs)
  | cs =>
    match digits cs with
    | ([], _) => none
    | part => some part

/-- A point and digits, if both are there. -/
def fractionPart : WideText → Option (List Char × WideText)
  | .char '.' :: cs =>
    match digits cs with
    | ([], _) => none
    | part => some part
  | _ => none

/-- A sign of an exponent, if there is one. -/
def exponentSign : WideText → Bool × WideText
  | .char '-' :: cs => (true, cs)
  | .char '+' :: cs => (false, cs)
  | cs => (false, cs)

/-- The mark of an exponent, a sign if any, and digits, if they are there. -/
def exponentPart : WideText → Option (Int × WideText)
  | .char c :: cs =>
    if c = 'e' ∨ c = 'E' then
      let (negative, cs) := exponentSign cs
      match digits cs with
      | ([], _) => none
      | (ds, rest) =>
        let n : Int := Digits.ofChars ds
        some (if negative then -n else n, rest)
    else none
  | _ => none

/-- The longest number at the beginning, with the rest. A fraction or an exponent makes it a double
precision number. -/
def number? (cs : WideText) : Option (Except ScanFault (Json × WideText)) :=
  let (negative, cs) := dropMinus cs
  match wholePart cs with
  | none => none
  | some (whole, rest) =>
    let fraction := fractionPart rest
    let afterFraction := (fraction.map (·.2)).getD rest
    let exponent := exponentPart afterFraction
    let after := (exponent.map (·.2)).getD afterFraction
    if fraction.isNone && exponent.isNone then
      if whole.length > Numeral.maxDigits then some (.error (.tooLong whole.length))
      else
        let n : Int := Digits.ofChars whole
        some (.ok (.int (if negative then -n else n), after))
    else
      let places := (fraction.map (·.1)).getD []
      let coefficient := Digits.ofChars (whole ++ places)
      some (.ok (.float (Binary64.ofDecimal negative coefficient (Digits.count coefficient)
        ((exponent.map (·.1)).getD 0 - places.length)), after))

/-- The words that stand for values. -/
def wordValues : List (WideText × Json) :=
  [("null", .null), ("true", .bool true), ("false", .bool false), ("NaN", .float .nan),
    ("Infinity", .float (.infinite false)), ("-Infinity", .float (.infinite true))]

/-- What is left after a word, if the text begins with it. -/
def afterWord? : WideText → WideText → Option WideText
  | [], cs => some cs
  | w :: ws, c :: cs => if w = c then afterWord? ws cs else none
  | _ :: _, [] => none

/-- The word at the beginning of the text. -/
def word? (cs : WideText) : Option (Json × WideText) :=
  wordValues.findSome? fun (w, v) => (afterWord? w cs).map (v, ·)

/-- A word or a number. -/
def atom (cs : WideText) : Except ScanFault (Scanned Json cs) :=
  let fault : Except ScanFault (Scanned Json cs) := .error (.malformed .value cs)
  match word? cs with
  | some (v, rest) => if h : rest.length < cs.length then .ok (v, ⟨rest, h⟩) else fault
  | none =>
    match number? cs with
    | some (.ok (v, rest)) => if h : rest.length < cs.length then .ok (v, ⟨rest, h⟩) else fault
    | some (.error e) => .error e
    | none => fault

/-! ### Values -/

mutual

/-- A value at the beginning of the text, with at most so many containers in one another. -/
def scan (levels : Nat) (cs : WideText) : Except ScanFault (Scanned Json cs) :=
  match cs with
  | .char '"' :: rest =>
    match textBody (.char '"' :: rest) rest with
    | .error e => .error e
    | .ok (body, ⟨after, h⟩) =>
      .ok (.str body, ⟨after, by simp only [List.length_cons]; omega⟩)
  | .char '[' :: rest =>
    match levels with
    | 0 => .error (.tooDeep .array)
    | levels + 1 =>
      have hs := length_skip_le rest
      match hr : skip rest with
      | .char ']' :: after =>
        .ok (.arr [], ⟨after, by rw [hr] at hs; simp only [List.length_cons] at *; omega⟩)
      | inner =>
        match scanItems levels inner with
        | .error e => .error e
        | .ok (items, ⟨after, h⟩) =>
          .ok (.arr items, ⟨after, by rw [hr] at hs; simp only [List.length_cons] at *; omega⟩)
  | .char '\x7b' :: rest =>
    match levels with
    | 0 => .error (.tooDeep .object)
    | levels + 1 =>
      have hs := length_skip_le rest
      match hr : skip rest with
      | .char '\x7d' :: after =>
        .ok (.obj [], ⟨after, by rw [hr] at hs; simp only [List.length_cons] at *; omega⟩)
      | inner =>
        match scanMembers levels inner with
        | .error e => .error e
        | .ok (members, ⟨after, h⟩) =>
          .ok (.obj (Members.ofList members),
            ⟨after, by rw [hr] at hs; simp only [List.length_cons] at *; omega⟩)
  | cs => atom cs
termination_by 2 * cs.length

/-- The items of an array up to its closing bracket. -/
def scanItems (levels : Nat) (cs : WideText) : Except ScanFault (Scanned (List Json) cs) :=
  match scan levels cs with
  | .error e => .error e
  | .ok (v, ⟨rest, h⟩) =>
    have hs := length_skip_le rest
    match hr : skip rest with
    | .char ']' :: after =>
      .ok ([v], ⟨after, by rw [hr] at hs; simp only [List.length_cons] at *; omega⟩)
    | .char ',' :: more =>
      have hm := length_skip_le more
      match scanItems levels (skip more) with
      | .error e => .error e
      | .ok (items, ⟨after, h'⟩) =>
        .ok (v :: items, ⟨after, by rw [hr] at hs; simp only [List.length_cons] at *; omega⟩)
    | other => .error (.malformed .comma other)
termination_by 2 * cs.length + 1
decreasing_by
  · omega
  · rw [hr] at hs; simp only [List.length_cons] at *; omega

/-- The members of an object up to its closing brace. -/
def scanMembers (levels : Nat) (cs : WideText) :
    Except ScanFault (Scanned (List (WideText × Json)) cs) :=
  match cs with
  | .char '"' :: start =>
    match textBody (.char '"' :: start) start with
    | .error e => .error e
    | .ok (name, ⟨afterName, hn⟩) =>
      have hs := length_skip_le afterName
      match hc : skip afterName with
      | .char ':' :: beforeValue =>
        have hv := length_skip_le beforeValue
        match scan levels (skip beforeValue) with
        | .error e => .error e
        | .ok (v, ⟨rest, h⟩) =>
          have hr := length_skip_le rest
          match he : skip rest with
          | .char '\x7d' :: after =>
            .ok ([(name, v)],
              ⟨after, by rw [he] at hr; rw [hc] at hs; simp only [List.length_cons] at *; omega⟩)
          | .char ',' :: more =>
            have hm := length_skip_le more
            match scanMembers levels (skip more) with
            | .error e => .error e
            | .ok (members, ⟨after, h'⟩) =>
              .ok ((name, v) :: members,
                ⟨after, by
                  rw [he] at hr; rw [hc] at hs; simp only [List.length_cons] at *; omega⟩)
          | other => .error (.malformed .comma other)
      | other => .error (.malformed .colon other)
  | cs => .error (.malformed .propertyName cs)
termination_by 2 * cs.length
decreasing_by
  · rw [hc] at hs; simp only [List.length_cons] at *; omega
  · rw [he] at hr; rw [hc] at hs; simp only [List.length_cons] at *; omega

end

/-! ### Whole texts -/

/-- A fault of a text that was to be read as JSON. -/
inductive ReadFault where
  /-- The text breaks the grammar at a position, given as line, column and offset. -/
  | malformed (reason : Reason) (line column offset : Nat)
  /-- An integer has more digits than are read. -/
  | tooLong (digits : Nat)
  /-- A container stands in too many others. -/
  | tooDeep (container : Container)
deriving DecidableEq, Repr

/-- Line and column of the code point after `before`. Both count from one. -/
def position (before : WideText) : Nat × Nat :=
  (before.count (.char '\n') + 1,
    (before.reverse.takeWhile (· ≠ .char '\n')).length + 1)

/-- Places a fault in the text where it was met. -/
def ScanFault.locate (cs : WideText) : ScanFault → ReadFault
  | malformed reason rest =>
    let offset := cs.length - rest.length
    let (line, column) := position (cs.take offset)
    .malformed reason line column offset
  | tooLong digits => .tooLong digits
  | tooDeep container => .tooDeep container

/-- The value that fills a text, white space around it apart, with room for so many containers in
one another. -/
def readWholeWithin (levels : Nat) (cs : WideText) : Except ReadFault Json :=
  match scan levels (skip cs) with
  | .error e => .error (e.locate cs)
  | .ok (v, rest) =>
    match skip rest.1 with
    | [] => .ok v
    | extra => .error ((ScanFault.malformed .extraData extra).locate cs)

/-- The value that a text holds, with room for so many containers in one another. A mark of the
order of octets in front of it is refused. -/
def readWithin (levels : Nat) (cs : WideText) : Except ReadFault Json :=
  match cs with
  | .char '\uFEFF' :: _ => .error (.malformed .byteOrderMark 1 1 0)
  | cs => readWholeWithin levels cs

/-- The usual number of containers in one another that there is room for. -/
def maxDepth : Nat := 988

/-- The value that fills a text, white space around it apart. -/
def readWhole (cs : WideText) : Except ReadFault Json := readWholeWithin maxDepth cs

/-- The value that a text holds. A mark of the order of octets in front of it is refused. -/
def read (cs : WideText) : Except ReadFault Json := readWithin maxDepth cs

/-- The wording of a fault. -/
def ReadFault.message : ReadFault → String
  | malformed reason line column offset =>
    s!"{reason.text}: line {line} column {column} (char {offset})"
  | tooLong digits =>
    "Exceeds the limit (4300 digits) for integer string conversion: " ++
      s!"value has {digits} digits; use sys.set_int_max_str_digits() to increase the limit"
  | tooDeep .array =>
    "maximum recursion depth exceeded while decoding a JSON array from a unicode string"
  | tooDeep .object =>
    "maximum recursion depth exceeded while decoding a JSON object from a unicode string"

/-- Whether a fault lies in how a value is written, and not in how deep it is. -/
def ReadFault.isValueFault : ReadFault → Bool
  | tooDeep _ => false
  | _ => true

end ContractOps.Json
