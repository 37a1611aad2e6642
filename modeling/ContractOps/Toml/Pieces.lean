import ContractOps.Numeral.Digits
import ContractOps.Text.Blank
import ContractOps.Text.Split
import ContractOps.Toml.Flaw

/-!
# Taking lines apart

A line is cut at `=`, `,`, `.` or `]`, but not where these stand in quotes. Which parts of a line
are quoted is judged by its quotes alone (`betweenQuotes`): up to the first double quote both kinds
of quotes count, behind it only double ones.
-/

namespace ContractOps.Toml

/-- Drops the blanks at both ends. -/
def strip (cs : List Char) : List Char := Text.stripBy Text.isBlank cs

/-- What stands between the first and the last character. -/
def inside (cs : List Char) : List Char := (cs.drop 1).dropLast

/-- Single or double quotes. -/
def isQuote (c : Char) : Bool := c = '"' || c = '\''

/-- Whether a text begins with a quote. -/
def startsQuoted (cs : List Char) : Bool := (cs.head?.map isQuote).getD false

/-- Whether a text begins and ends with the same quote. It may be a single one. -/
def isQuoted (cs : List Char) : Bool := startsQuoted cs && cs.head? == cs.getLast?

/-- Goes on with parts between single quotes of which the last one is open: what follows a double
quote belongs to it. -/
def closeSingle : List (List Char) → List (List Char) → List (List Char) × List (List Char)
  | singles, [] => (singles, [])
  | singles, part :: doubles =>
    if singles.length % 2 = 0 then
      let last := (singles.getLast?.getD []) ++ '"' :: part
      closeSingle (singles.dropLast ++ Text.split '\'' last) doubles
    else (singles, part :: doubles)

/-- The parts of a line between quotes. Parts at odd places are quoted. -/
def betweenQuotes (cs : List Char) : List (List Char) :=
  let (singles, doubles) :=
    match Text.split '"' cs with
    | first :: rest =>
      if !rest.isEmpty && '\'' ∈ first then closeSingle (Text.split '\'' first) rest
      else ([], first :: rest)
    | [] => ([], [])
  match doubles with
  | [] => singles
  | first :: rest => singles ++ Text.split '\'' first ++ rest

/-- How often a separator occurs. -/
def occurrences (separator cs : List Char) : Nat := (Text.splitAll separator 0 cs).length - 1

/-- How many separators stand in parts before the first part without quotes that has one. -/
def quotedBefore (separator : List Char) : Bool → List (List Char) → Nat
  | _, [] => 0
  | quoted, part :: parts =>
    let n := occurrences separator part
    if !quoted && n ≠ 0 then 0 else n + quotedBefore separator (!quoted) parts

/-! ### Keys and their values -/

/-- A line cut at one of its `=`, by how many of them stand before the cut. If there are not so
many, it is cut at the last one. -/
def cutAt (n : Nat) (line : List Char) : List Char × List Char :=
  let parts := Text.split '=' line
  let n := min n (parts.length - 1)
  (['='].intercalate (parts.take n), ['='].intercalate (parts.drop n))

/-- A key with several parts: the tables that lead to it, and its last part. Empty parts do not
count. -/
def keyPath (key : List Char) : Except Flaw (List (List Char) × List Char) := do
  let levels :=
    if key.any isQuote then
      let step (acc : List (List Char) × Bool) (part : List Char) :=
        (acc.1 ++ (if acc.2 then [part] else (Text.split '.' part).map strip), !acc.2)
      ((betweenQuotes key).foldl step ([], false)).1
    else Text.split '.' key
  match levels.reverse.dropWhile List.isEmpty with
  | [] => throw .cutShort
  | last :: rest => return (rest.reverse.filter (!·.isEmpty), strip last)

/-! ### Headers -/

/-- A name in a header without its quotes, if they have been closed. -/
def closedName? (cs : List Char) : Option (List Char) :=
  let cs := strip cs
  if cs.head? == cs.getLast? && cs.length ≠ 1 then some (inside cs) else none

/-- The characters of a name without quotes. -/
def isBare (c : Char) : Bool :=
  ('a' ≤ c && c ≤ 'z') || ('A' ≤ c && c ≤ 'Z') || ('0' ≤ c && c ≤ '9') || c = '_' || c = '-'

/-- The names in a header, cut at points. A name in quotes may hold points; what has been read of it
is given. -/
def headerNames : Option (List Char) → List (List Char) → Except Flaw (List (List Char))
  | none, [] => .ok []
  | some _, [] => .error .malformed
  | some begun, part :: parts =>
    let name := begun ++ '.' :: part
    match closedName? name with
    | some name => do return name :: (← headerNames none parts)
    | none => headerNames (some name) parts
  | none, part :: parts =>
    let part := strip part
    if startsQuoted part then
      match closedName? part with
      | some name => do return name :: (← headerNames none parts)
      | none => headerNames (some part) parts
    else if part.isEmpty || !part.all isBare then .error .malformed
    else do return part :: (← headerNames none parts)

/-- The names in a header after its opening brackets. Nothing may follow its closing ones. -/
def header (closing line : List Char) : Except Flaw (List (List Char)) :=
  let n := quotedBefore closing false (betweenQuotes line) + 1
  let parts := Text.splitAll closing 0 line
  if parts.length ≤ n || !(strip (closing.intercalate (parts.drop n))).isEmpty then
    .error .malformed
  else headerNames none (Text.split '.' (closing.intercalate (parts.take n)))

/-! ### Items of lists -/

/-- Whether a text begins and ends with the same character, the last one not being escaped. -/
def isBounded (cs : List Char) : Bool :=
  cs.head? == cs.getLast? &&
    ((inside cs).reverse.takeWhile (· = '\\')).length % 2 == 0

/-- Whether a text begins with a threefold quote that is not closed. -/
def opensThreefold (cs : List Char) : Bool :=
  match cs, cs.reverse with
  | a :: b :: c :: _, _ :: y :: z :: _ => a == b && b == c && y != a && z != a
  | _, _ => false

/-- Puts texts together that have been cut at commas in quotes. The last one is not looked at unless
something was put together with it. -/
def joinTexts (joined : Bool) (part : List Char) :
    List (List Char) → Except Flaw (List (List Char))
  | [] => if joined && isOpen part then .error .cutShort else .ok [part]
  | next :: parts =>
    if isOpen part then joinTexts true (part ++ ',' :: next) parts
    else do return part :: (← joinTexts false next parts)
where
  isOpen (part : List Char) : Bool := !isBounded (strip part) || opensThreefold (strip part)

/-- How an item in braces is being read: what has been read of it, from its end, whether a quote is
open in it, and how many braces are. -/
structure Braced where
  read : List Char
  quoted : Bool := false
  braces : Nat

/-- Goes on with an item by a character: the item, or what has been read of it. -/
def Braced.step (b : Braced) (c : Char) : Braced ⊕ List Char :=
  let escaped := b.quoted && (b.read.takeWhile (· = '\\')).length % 2 == 1
  let quoted := if isQuote c then (b.quoted == escaped) else b.quoted
  let braces := if !quoted && c = '\x7b' then b.braces + 1 else b.braces
  if quoted || c ≠ '\x7d' then .inl { read := c :: b.read, quoted, braces }
  else if braces > 1 then .inl { read := c :: b.read, quoted, braces := braces - 1 }
  else .inr (c :: b.read).reverse

/-- The items in braces of a list, at most so many characters of it. Between them, whatever stands
before the next brace is left out. -/
def bracedItems : Nat → Braced → List Char → List (List Char)
  | 0, _, _ => []
  | _, _, [] => []
  | n + 1, b, c :: cs =>
    match b.step c with
    | .inl b => bracedItems n b cs
    | .inr item =>
      -- the character behind an item is taken for a comma
      match (cs.drop 1).dropWhile (· ≠ '\x7b') with
      | [] => [item]
      | first :: rest => item :: bracedItems n { read := [first], braces := 1 } rest

/-- The items of a list of lists, cut at commas outside the inner brackets, of which so many are
open. -/
def nestedItems (brackets : Int) : List Char → List (List Char)
  | [] => [[]]
  | c :: cs =>
    let brackets :=
      if c = '[' then brackets + 1 else if c = ']' then brackets - 1 else brackets
    if c = ',' && brackets = 0 then [] :: nestedItems brackets cs
    else
      match nestedItems brackets cs with
      | [] => [[c]]
      | item :: items => (c :: item) :: items

/-- The items of a list without its brackets. -/
def listItems (cs : List Char) : Except Flaw (List (List Char)) :=
  let stripped := strip cs
  if '[' ∈ cs && (strip (cs.takeWhile (· ≠ '['))).isEmpty then .ok (nestedItems 0 cs)
  else if stripped.head? = some '\x7b' then
    match cs with
    | [] => .ok []
    | c :: cs =>
      .ok (bracedItems cs.length { read := [c], braces := if c = '\x7b' then 1 else 0 } cs)
  else
    match Text.split ',' cs with
    | [] => .ok []
    | part :: parts =>
      if startsQuoted stripped then joinTexts false part parts else .ok (part :: parts)

/-! ### Members of inline tables -/

/-- Whether a value within an inline table is complete. -/
def isComplete (value : List Char) : Except Flaw Bool :=
  match value.head?, value.getLast? with
  | some a, some z =>
    .ok (isQuoted value || a = '-' || Digits.isDigit a || value = "true".toList ||
      value = "false".toList || (a = '[' && z = ']') || (a = '\x7b' && z = '\x7d'))
  | _, _ => .error .cutShort

/-- Whether the value of a member is complete. -/
def isMember (part : List Char) : Except Flaw Bool :=
  if '=' ∈ part then isComplete (strip ((part.dropWhile (· ≠ '=')).drop 1)) else .error .malformed

/-- Puts members together that have been cut at commas in their values. -/
def joinMembers (part : List Char) : List (List Char) → Except Flaw (List (List Char))
  | [] => do if ← isMember part then return [part] else throw .malformed
  | next :: parts => do
    if ← isMember part then return part :: (← joinMembers next parts)
    else joinMembers (part ++ ',' :: next) parts

/-- The members of an inline table without its braces. -/
def inlineMembers (cs : List Char) : Except Flaw (List (List Char)) :=
  match Text.split ',' cs with
  | [] => .ok []
  | [part] => if (strip part).isEmpty then .ok [] else joinMembers part []
  | part :: parts => joinMembers part parts

end ContractOps.Toml
