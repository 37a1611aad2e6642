import ContractOps.Text.Blank
import ContractOps.Text.Letters
import ContractOps.Text.Split
import ContractOps.Toml.Flaw

/-!
# The lines of a TOML text

    text ──scan──▶ text with blanks for comments ──split──▶ lines

Statements end with their line, but a list may go on over several lines, and a comment is no part of
a statement. A scan over the characters of a text puts blanks in the place of comments and of the
line ends in lists, and checks the keys: what begins a line has to be the header of a table or a key
with a `=` behind it. It keeps whether a quote, a header or a list is open. How many quotes and
backslashes stand before a character decides what a quote does; for the first characters of a text,
the characters before them are those at its end.
-/

namespace ContractOps.Toml

/-- Where a key stands: there is none, it is being read, or it has been read up to its `=`. -/
inductive KeyState where
  | none
  | within
  | behind
deriving DecidableEq, Repr

/-- The kinds of open headers. -/
inductive Header where
  | none
  | table
  | listItem
deriving DecidableEq, Repr

/-- How far a scan has come. -/
structure Scan where
  /-- The text with what has been blanked so far. -/
  text : Array Char
  key : KeyState := .none
  /-- The key has several parts. -/
  dotted : Bool := false
  /-- The quote that is open. -/
  quote : Option Char := none
  /-- The number of threefold quotes is odd. -/
  long : Bool := false
  header : Header := .none
  /-- How many brackets of lists are open. -/
  brackets : Int := 0
  /-- Nothing but blanks stands before in the line. -/
  lineStart : Bool := true

namespace Scan

/-- The place so many characters before another one. Before the beginning comes the end. -/
def before? (s : Scan) (i k : Nat) : Option Nat :=
  if k ≤ i then some (i - k) else if k - i ≤ s.text.size then some (s.text.size - (k - i)) else none

/-- The character so many places before another one. -/
def charBefore? (s : Scan) (i k : Nat) : Option Char := (s.before? i k).bind (s.text[·]?)

/-- How many of the two characters before a place are a quote. -/
def quotesBefore (s : Scan) (quote : Char) (i : Nat) : Nat :=
  if s.charBefore? i 1 ≠ some quote then 0 else if s.charBefore? i 2 ≠ some quote then 1 else 2

/-- Whether an odd number of backslashes ends so many characters before a place. At most so many of
them are counted. -/
def isEscaped (s : Scan) (i k : Nat) : Nat → Bool
  | 0 => false
  | most + 1 => s.charBefore? i k = some '\\' && !s.isEscaped i (k + 1) most

/-- Whether the quote at a place does not count because of a backslash. Of two quotes in a row the
second one always counts. -/
def isEscapedQuote (s : Scan) (i : Nat) : Bool :=
  let quotes := s.quotesBefore '"' i
  quotes != 1 && s.isEscaped i (quotes + 1) (i + s.text.size)

/-- Opens or closes a quote. -/
def toggle (s : Scan) (quote : Char) (i : Nat) : Scan :=
  if s.quotesBefore quote i = 2 then
    { s with long := !s.long, quote := if s.long then none else some quote }
  else { s with quote := if s.quote.isSome then none else some quote }

/-- Puts a character at a place. -/
def put (s : Scan) (i : Nat) (c : Char) : Scan := { s with text := s.text.setIfInBounds i c }

/-- Puts blanks from a place up to the end of the line. -/
def blankLine (s : Scan) (i : Nat) : Nat → Scan
  | 0 => s
  | most + 1 => if s.text.getD i '\n' = '\n' then s else (s.put i ' ').blankLine (i + 1) most

/-! ### Keys -/

/-- Goes on with a key after a blank or a point, if more of it follows directly. -/
def resume (s : Scan) (i : Nat) : Except Flaw Scan :=
  match s.text[i + 1]? with
  | none => .error .cutShort
  | some next =>
    .ok (if Text.isBlank next || next = '.' then s else { s with key := .within })

/-- The end of a key. -/
def endKey (s : Scan) (c : Char) : Except Flaw Scan :=
  if c = '=' then .ok { s with key := .none, dotted := false } else .error .malformed

/-- A character of a key. -/
def keyChar (s : Scan) (i : Nat) (c : Char) : Except Flaw Scan :=
  if c = '\n' then .error .malformed
  else if s.quote.isSome then
    .ok (if s.quote = some c && !s.isEscaped i 1 i then { s with key := .behind, quote := none }
      else s)
  else if s.key = .within then
    if Text.isBlank c then .ok { s with key := .behind }
    else if c = '.' then .ok { s with dotted := true }
    else if Text.isWordChar c || c = '_' || c = '-' then .ok s
    else if s.dotted && s.charBefore? i 1 = some '.' && (c = '"' || c = '\'') then
      .ok { s with quote := some c }
    else s.endKey c
  else if Text.isBlank c then if s.dotted then s.resume i else .ok s
  else if c = '.' then { s with dotted := true }.resume i
  else s.endKey c

/-! ### Values and headers -/

/-- A quote outside keys. -/
def quoteChar (s : Scan) (i : Nat) (c : Char) : Scan :=
  if c = '\'' && s.quote != some '"' then s.toggle c i
  else if c = '"' && s.quote != some '\'' then if s.isEscapedQuote i then s else s.toggle c i
  else s

/-- A comment, or a bracket outside quotes. -/
def markChar (s : Scan) (i : Nat) (c : Char) : Scan :=
  if s.quote.isSome then s
  else if c = ']' then
    match s.header with
    | .table => { s with header := .none }
    | .listItem => if s.charBefore? i 1 = some ']' then { s with header := .none } else s
    | .none => { s with brackets := s.brackets - 1 }
  -- nothing else counts within a header
  else if s.header ≠ .none then s
  else if c = '#' then s.blankLine i s.text.size
  else if c = '[' then
    if !s.lineStart then { s with brackets := s.brackets + 1 }
    else if s.text[i + 1]? = some '[' then { s with header := .listItem }
    else { s with header := .table }
  else s

/-- A line end in a text of several lines. Two quotes before it are moved behind it. -/
def longLineEnd (s : Scan) (i : Nat) : Scan :=
  match s.charBefore? i 1 with
  | some q =>
    if (q = '\'' || q = '"') && s.charBefore? i 2 = some q then
      -- the third quote before it, if there is one, becomes a blank
      let moved := s.put i q
      if moved.charBefore? i 3 = some q then
        match s.before? i 3 with
        | some j => moved.put j ' '
        | none => moved
      else moved
    else s
  | none => s

/-- A line end. -/
def lineEnd (s : Scan) (i : Nat) : Except Flaw Scan :=
  if s.long then .ok (s.longLineEnd i)
  else if s.quote.isSome then .error .malformed
  else .ok (if s.brackets ≠ 0 then s.put i ' ' else { s with lineStart := true })

/-- The first character of a line that is not blank: without a header, a key begins with it. -/
def firstChar (s : Scan) (i : Nat) : Except Flaw Scan :=
  match s.text[i]? with
  | some ' ' | some '\t' | none => .ok s
  | some c =>
    if s.header ≠ .none then .ok { s with lineStart := false }
    else if c = '=' then .error .malformed
    else .ok { s with lineStart := false, key := .within }

/-- The character at a place outside keys. -/
def plainChar (s : Scan) (i : Nat) (c : Char) : Except Flaw Scan :=
  let s := (s.quoteChar i c).markChar i c
  if c = '\n' then s.lineEnd i else if s.lineStart then s.firstChar i else .ok s

/-- The character at a place. -/
def step (s : Scan) (i : Nat) : Except Flaw Scan :=
  match s.text[i]? with
  | none => .ok s
  | some c => if s.key = .none then s.plainChar i c else s.keyChar i c

end Scan

/-- The lines of a text, without comments and with lists on one line each. -/
def lines (cs : List Char) : Except Flaw (List (List Char)) := do
  let s ← (List.range cs.length).foldlM Scan.step { text := cs.toArray }
  if s.key ≠ .none || s.quote.isSome then throw .malformed
  return Text.split '\n' s.text.toList

end ContractOps.Toml
