import ContractOps.Encoding.Hex
import ContractOps.Json.Basic
import ContractOps.Numeral.Shortest

/-!
# Printing JSON

A value has three printed forms: on one line in ASCII (`Json.compact`), which is what contracts
receive, and over several lines with two more spaces for every level, either in ASCII
(`Json.indentedAscii`) or with all characters as they are (`Json.indented`). The forms differ in
what is escaped and in the white space, which a `Style` gives.

Every value is printed. How deep a value may be nested and how many digits an integer may have are
questions for the reader (`Json.readWithin`, `Numeral.maxDigits`), and are left aside here: only
where a fee or a record is written, too long an integer is refused.
-/

namespace ContractOps.Json

/-! ### Texts in quotes -/

/-- The escape of a sixteen bit unit. -/
def unitEscape (n : Nat) : List Char := '\\' :: 'u' :: Hex.padded 4 n

/-- A character as an escape: beyond sixteen bits as a surrogate pair. -/
def wideEscape (c : Char) : List Char :=
  if c.toNat < 0x10000 then unitEscape c.toNat
  else
    let n := c.toNat - 0x10000
    unitEscape (0xd800 + n / 0x400) ++ unitEscape (0xdc00 + n % 0x400)

/-- A character in quotes. Quotes, backslashes and controls are always escaped; in ASCII, so is all
that is not printable there. -/
def printChar (ascii : Bool) (c : Char) : List Char :=
  if c = '"' then ['\\', '"']
  else if c = '\\' then ['\\', '\\']
  else if c = '\n' then ['\\', 'n']
  else if c = '\r' then ['\\', 'r']
  else if c = '\t' then ['\\', 't']
  else if c = '\x08' then ['\\', 'b']
  else if c = '\x0c' then ['\\', 'f']
  else if c.toNat < 0x20 then unitEscape c.toNat
  else if ascii && 0x7f ≤ c.toNat then wideEscape c
  else [c]

/-- A code point in quotes. In ASCII, half of a surrogate pair is escaped too. -/
def printPoint (ascii : Bool) : CodePoint → WideText
  | .char c => .ofChars (printChar ascii c)
  | .half n => if ascii then .ofChars (unitEscape (CodePoint.half n).toNat) else [.half n]

/-- A text in quotes. -/
def printText (ascii : Bool) (s : WideText) : WideText :=
  .char '"' :: s.flatMap (printPoint ascii) ++ [.char '"']

/-! ### Values -/

/-- A double precision number. -/
def printFloat (x : Binary64) : WideText := .ofChars (x.spell "Infinity".toList "NaN".toList)

/-- How values are set out: what is escaped, the white space next to the brackets of a value at a
depth, and the white space after the commas in it. -/
structure Style where
  ascii : Bool
  edge : Nat → WideText
  gap : Nat → WideText

/-- On one line. -/
def Style.line : Style := ⟨true, fun _ => [], fun _ => [' ']⟩

/-- A line end, and two spaces for every level. -/
def newline (depth : Nat) : WideText := '\n' :: List.replicate (2 * depth) (.char ' ')

/-- Over several lines. -/
def Style.lines (ascii : Bool) : Style := ⟨ascii, newline, newline⟩

mutual

/-- A value that stands at a depth. -/
def print (style : Style) (depth : Nat) : Json → WideText
  | null => "null"
  | bool true => "true"
  | bool false => "false"
  | int n => .ofChars (Digits.ofInt n)
  | float x => printFloat x
  | str s => printText style.ascii s
  | arr [] => ['[', ']']
  | arr (v :: vs) =>
    .char '[' :: style.edge (depth + 1) ++ print style (depth + 1) v ++ printItems style depth vs
  | obj [] => ['\x7b', '\x7d']
  | obj ((name, v) :: ms) =>
    .char '\x7b' :: style.edge (depth + 1) ++ printText style.ascii name ++
      [.char ':', .char ' '] ++ print style (depth + 1) v ++ printMembers style depth ms

/-- The items after the first one, and the closing bracket. -/
def printItems (style : Style) (depth : Nat) : List Json → WideText
  | [] => style.edge depth ++ [.char ']']
  | v :: vs =>
    .char ',' :: style.gap (depth + 1) ++ print style (depth + 1) v ++ printItems style depth vs

/-- The members after the first one, and the closing brace. -/
def printMembers (style : Style) (depth : Nat) : List (WideText × Json) → WideText
  | [] => style.edge depth ++ [.char '\x7d']
  | (name, v) :: ms =>
    .char ',' :: style.gap (depth + 1) ++ printText style.ascii name ++ [.char ':', .char ' '] ++
      print style (depth + 1) v ++ printMembers style depth ms

end

/-- A value on one line in ASCII. -/
def compact (v : Json) : String := (v.print .line 0).shown

/-- A value over several lines, with all characters as they are. -/
def indented (v : Json) : WideText := v.print (.lines false) 0

/-- A value over several lines in ASCII. -/
def indentedAscii (v : Json) : String := (v.print (.lines true) 0).shown

end ContractOps.Json
