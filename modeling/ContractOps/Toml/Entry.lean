import ContractOps.Toml.Number
import ContractOps.Toml.Pieces
import ContractOps.Toml.Quoted

/-!
# Values and entries

    key = value     table.key = value     "quoted key" = [1, 2]     key = "inline" tables in braces

A value is a truth value, a text in quotes, a list, an inline table, a stamp or a number. The items
of a list are of one type. An entry puts a value under a key, where nothing may stand yet; a key
with several parts leads through tables, which are added where they are missing. A value that begins
with a threefold quote may go on in the next lines (`Pending`).
-/

namespace ContractOps.Toml

/-- A text of several lines that has not been closed yet: its key, its characters with the quotes,
and whether the next line is joined to the last one. -/
structure Pending where
  key : WideText
  text : List Char
  joined : Bool

/-- How a value is read, and whether a number has to be strict. -/
abbrev ValueReader := List Char → Bool → Except Flaw Value

/-! ### Keys -/

/-- Whether a text could be the value of an entry. What begins with a blank is not looked into. -/
def couldBeValue (value : List Char) : Except Flaw Bool :=
  match value with
  | [] => .ok true
  | c :: _ =>
    let word := strip value
    if c = ' ' || c = '\t' || isQuote c || c = '[' || c = '\x7b' || word = "true".toList ||
        word = "false".toList then
      .ok true
    else looksNumeric value

/-- Behind which `=` of a line a value begins, the value, and whether it is strict if it is a
number. As long as what follows a `=` cannot be a value, the next one is taken, at most so often. -/
def valuePlace (line : List Char) :
    Nat → Nat → List Char → Bool → Except Flaw (Nat × List Char × Bool)
  | 0, _, _, _ => .error .malformed
  | most + 1, n, value, strict => do
    if ← couldBeValue value then return (n, value, strict)
    let (_, next) := cutAt (n + 1) line
    if next = value then throw .malformed
    valuePlace line most (n + 1) next (strict && isStrict next)

/-- The key and the value of an entry, and whether the value is strict if it is a number. -/
def cutEntry (line : List Char) : Except Flaw (List Char × List Char × Bool) := do
  let n := quotedBefore ['='] false (betweenQuotes line) + 1
  let (_, value) := cutAt n line
  -- underscores are dropped from what begins with a digit
  let plain := if (value.head?.map Digits.isDigit).getD false then value.filter (· ≠ '_') else value
  let (n, value, strict) ← valuePlace line (line.length + 2) n plain (isStrict value)
  return (strip (cutAt n line).1, strip value, strict)

/-- The tables that lead to the value of an entry, and its name. -/
def entryPath (key : List Char) : Except Flaw (List WideText × WideText) :=
  if '.' ∈ key then do
    let (tables, name) ← keyPath key
    return (tables.map .ofChars, .ofChars name)
  else if key.isEmpty then .error .cutShort
  else if isQuoted key then do return ([], ← unescape (.ofChars (inside key)))
  else .ok ([], .ofChars key)

/-! ### Texts of several lines -/

/-- The last text in a list that is not closed, from its items in reverse order. -/
def lastText : List (List Char) → Except Flaw (List Char)
  | [] => .ok []
  | [item] => .ok item
  | [] :: _ => .error .cutShort
  | item :: before :: rest =>
    if startsQuoted item then .ok item else lastText ((before ++ ',' :: item) :: rest)
termination_by items => items.length

/-- Whether a text begins with a threefold quote that is not closed in it. -/
def opensLong (cs : List Char) : Except Flaw Bool :=
  match cs with
  | [] => .ok false
  | quote :: rest =>
    if !isQuote quote then .ok false
    else
      match rest with
      | [] => .error .cutShort
      | [a] => if a = quote then .error .cutShort else .ok false
      | a :: b :: more =>
        .ok (a = quote && b = quote &&
          !(more.length ≥ 3 && (more.reverse.take 3).all (· = quote)))

/-- Whether a value goes on in the next line. In a list that is not closed, its last text counts. -/
def goesOn (value : List Char) : Except Flaw Bool := do
  if value.length < 3 then return false
  else if value.head? = some '[' && value.getLast? ≠ some ']' && startsQuoted (strip (inside value))
  then opensLong (← lastText (Text.split ',' (strip (value.drop 1))).reverse)
  else opensLong value

/-- What is pending after a line of a text: without the backslash at its end, or with the line end.
-/
def Pending.afterLine (key : WideText) (text : List Char) : Pending :=
  let joined := endsEscaped (.ofChars text)
  { key, text := if joined then text.dropLast else text ++ ['\n'], joined }

/-! ### Entries -/

/-- Does something in the table that names lead to, which are added where they are missing. Nothing
is found behind what is no table. -/
def within {α : Type} (act : Option Table → Except Flaw (Table × α)) :
    List WideText → Option Table → Except Flaw (Table × α)
  | [], table => act table
  | _ :: _, none => .error .notATable
  | name :: names, some table => do
    let inner : Option Table :=
      match table.get? name with
      | none => some []
      | some v => v.table?
    let (inner, a) ← within act names inner
    return (table.put name (.table inner), a)

/-- Puts a value under a name of a table where nothing stands yet, or leaves it pending. -/
def putEntry (read : ValueReader) (name : WideText) (value : List Char) (strict : Bool)
    (table : Option Table) : Except Flaw (Table × Option Pending) := do
  let taken (ms : Table) : Bool := (ms.get? name).isSome
  if ← goesOn value then
    -- the text is put in when it has been read to its end
    match table with
    | none => throw .malformed
    | some ms =>
      if taken ms then throw .malformed
      else if name.isEmpty then throw .namelessText
      else return (ms, some (.afterLine name value))
  else
    let v ← read value strict
    match table with
    | none => throw .malformed
    | some ms => if taken ms then throw .malformed else return (ms.put name v, none)

/-- Adds the entry in a line to a table. -/
def addEntry (read : ValueReader) (line : List Char) (table : Option Table) :
    Except Flaw (Table × Option Pending) := do
  let (key, value, strict) ← cutEntry line
  let (names, name) ← entryPath key
  within (putEntry read name value strict) names table

/-- Adds entries to a table, up to one that is left pending. -/
def addEntries (read : ValueReader) : List (List Char) → Option Table → Except Flaw (Option Table)
  | [], table => .ok table
  | line :: lines, table => do
    match ← addEntry read line table with
    | (ms, none) => addEntries read lines (some ms)
    | (ms, some _) => return some ms

/-- Adds the entries of an inline table to a table. -/
def addInline (read : ValueReader) (cs : List Char) (table : Option Table) :
    Except Flaw (Option Table) := do
  addEntries read (← inlineMembers (inside cs)) table

/-! ### Values -/

/-- The items of a list, which are of one type. -/
def listOf (read : ValueReader) (cs : List Char) : Except Flaw (List Value) := do
  let items ← listItems (inside (strip cs))
  items.foldlM (fun (before : List Value) item => do
    let item := strip item
    if item.isEmpty then return before
    else
      let v ← read item true
      if before.all (·.kind = v.kind) then return before ++ [v] else throw .malformed) []

/-- A value, with the readers for what stands in lists and in inline tables. -/
def valueWith (inList inTable : ValueReader) : ValueReader := fun cs strict =>
  match cs with
  | [] => .error .malformed
  | c :: _ =>
    if cs = "true".toList then .ok (.bool true)
    else if cs = "false".toList then .ok (.bool false)
    else if isQuote c then do return .text (← quotedText c cs)
    else if c = '[' then do return .list (← listOf inList cs)
    else if c = '\x7b' then do
      return .table ((← addInline inTable cs (some [])).getD [])
    else stampOrNumber cs strict

/-- A value that is nested too deep. -/
def refuse : ValueReader := fun _ _ => .error .tooDeep

/-- A value, with so much room for what is nested in it: a list takes two units, an inline table
three. -/
def value : Nat → ValueReader
  | 0 => valueWith refuse refuse
  | 1 => valueWith refuse refuse
  | 2 => valueWith (value 0) refuse
  | room + 3 => valueWith (value (room + 1)) (value room)

/-- How much room there is in a text. -/
def room : Nat := 986

end ContractOps.Toml
