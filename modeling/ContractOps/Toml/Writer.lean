import ContractOps.Fault
import ContractOps.Toml.Value

/-!
# Writing TOML

A table is written with its values first, then its lists of tables, and then its inner tables, each
under its header, all tables of one depth before those that are deeper. A blank line separates a
header from what stands before it. Other lists are written on one line with a comma after every
item. Integers that are too long to be written are refused. That tables are written in this way is
assumed of the library that writes records.
-/

namespace ContractOps.Toml

/-! ### Strings -/

/-- Puts a backslash before every double quote. -/
def escapeQuotes : List Char → List Char
  | [] => []
  | '"' :: cs => '\\' :: '"' :: escapeQuotes cs
  | c :: cs => c :: escapeQuotes cs

/-- Takes the backslash away before every single quote. -/
def bareQuotes : List Char → List Char
  | [] => []
  | '\\' :: '\'' :: cs => '\'' :: bareQuotes cs
  | c :: cs => c :: bareQuotes cs

/-- One backslash in place of two. -/
def halveBackslashes : List Char → List Char
  | [] => []
  | '\\' :: '\\' :: cs => '\\' :: halveBackslashes cs
  | c :: cs => c :: halveBackslashes cs

/-- The parts of a text between marks of a hexadecimal escape, a backslash and an `x`. -/
def splitHex : List Char → List (List Char)
  | [] => [[]]
  | '\\' :: 'x' :: cs => [] :: splitHex cs
  | c :: cs =>
    match splitHex cs with
    | [] => [[c]]
    | part :: parts => (c :: part) :: parts

/-- What takes the place of a hexadecimal mark after a text: `x` or `u00`, by the number of
backslashes at the end of the text. The first character of the text does not count, unless it is
the last. -/
def joint (before : List Char) : List Char :=
  let slashes := (before.reverse.takeWhile (· == '\\')).length
  let turns := if slashes < before.length then slashes else slashes - 1
  let isX := if turns % 2 = 0 then slashes = 0 else slashes ≠ 0
  if isX then ['x'] else ['u', '0', '0']

/-- Joins the parts between hexadecimal marks. A part that is empty at the beginning is dropped,
and then another one has to be there. -/
def joinHex : List (List Char) → Option (List Char)
  | [] => some []
  | [part] => some part
  | [] :: [] :: _ => none
  | [] :: [_] => none
  | [] :: p :: q :: rest =>
    let before := halveBackslashes p
    joinHex ((before ++ joint before ++ q) :: rest)
  | p :: q :: rest =>
    let before := halveBackslashes p
    joinHex ((before ++ joint before ++ q) :: rest)
termination_by parts => parts.length

/-- Literal notation without its quotes, for use between double quotes. -/
def requote (quoted : List Char) : List Char :=
  let inner := (quoted.drop 1).dropLast
  if quoted.head? = some '\'' then escapeQuotes (bareQuotes inner) else inner

/-- A string in double quotes. -/
def string (s : WideText) : Except Fault (List Char) :=
  match joinHex (splitHex (requote (Text.quotedChars s))) with
  | some cs => .ok ('"' :: cs ++ ['"'])
  | none => .error (.noItem "list")

/-! ### Keys and values -/

/-- The characters of a key without quotes. -/
def isBareKey (c : Char) : Bool :=
  ('a' ≤ c && c ≤ 'z') || ('A' ≤ c && c ≤ 'Z') || ('0' ≤ c && c ≤ '9') || c = '_' || c = '-'

/-- A key needs no quotes if it consists of letters, digits, `_` and `-`. A line feed at its end
does not count. -/
def needsNoQuotes (cs : List Char) : Bool :=
  let body := if cs.getLast? = some '\n' then cs.dropLast else cs
  !body.isEmpty && body.all isBareKey

/-- A key. -/
def key (name : WideText) : Except Fault (List Char) :=
  match name.chars? with
  | some cs => if needsNoQuotes cs then .ok cs else string name
  | none => string name

/-- A number with a fraction: an exponent has no zero in front. -/
def float (x : Binary64) : List Char :=
  let cs := x.spell "inf".toList "nan".toList
  let mantissa := cs.takeWhile (· != 'e')
  match cs.dropWhile (· != 'e') with
  | 'e' :: sign :: '0' :: rest => mantissa ++ 'e' :: sign :: rest
  | rest => mantissa ++ rest

/-- An integer, which may have so many digits and no more. -/
def integer (n : Int) : Except Fault (List Char) :=
  if n.natAbs < Nat.pow 10 Numeral.maxDigits then .ok (Digits.ofInt n)
  else .error (.value .integerUnwritable)

/-- A stamp. -/
def stamp (s : Stamp) : Except Fault (List Char) :=
  if s.isWritable then .ok s.text else .error (.value .farFromUniversalTime)

mutual

/-- A value on one line. Of a table, the names are written. -/
def inline : Value → Except Fault (List Char)
  | .bool b => .ok (if b then "true".toList else "false".toList)
  | .int n => integer n
  | .float x => .ok (float x)
  | .text s => string s
  | .stamp s => stamp s
  | .list items => do return '[' :: (← inlineItems items) ++ [']']
  | .table members => do return '[' :: (← inlineNames members) ++ [']']

/-- Items, each after a space and before a comma. -/
def inlineItems : List Value → Except Fault (List Char)
  | [] => .ok []
  | v :: vs => do return ' ' :: (← inline v) ++ ',' :: (← inlineItems vs)

/-- The names of members, each after a space and before a comma. -/
def inlineNames : List (WideText × Value) → Except Fault (List Char)
  | [] => .ok []
  | (name, _) :: ms => do return ' ' :: (← string name) ++ ',' :: (← inlineNames ms)

end

/-! ### Tables -/

/-- A table with its name as it stands in a header. -/
abbrev Named := List Char × Table

/-- Puts a table under a name: in its place if the name is there, at the end if not. -/
def place (name : List Char) (table : Table) : List Named → List Named
  | [] => [(name, table)]
  | other :: rest =>
    if other.1 = name then (name, table) :: rest else other :: place name table rest

/-- The name of a table in another one. -/
def nameIn (above name : List Char) : List Char :=
  if above.isEmpty then name else above ++ '.' :: name

/-- What stands under the header of a table, in order: lines of values, lists of tables, and tables
that get headers of their own. -/
structure Section where
  lines : List Char := []
  lists : List Char := []
  inner : List Named := []

/-- The characters of a section. -/
def Section.text (s : Section) : List Char := s.lines ++ s.lists

/-- How the section of a table with a name is put together. -/
abbrev SectionWriter := List Char → Table → Except Fault Section

/-- Adds the tables in a table with a name to others. -/
def placeInner (name : List Char) (s : Section) (tables : List Named) : List Named :=
  s.inner.foldl (fun tables inner => place (nameIn name inner.1) inner.2 tables) tables

/-- Tables in a table of a list and those in them, to a depth, each under its header if it holds
anything but tables. -/
def innerTables (write : SectionWriter) (list : List Char) :
    Nat → List Named → Except Fault (List Char)
  | 0, _ => .ok []
  | _ + 1, [] => .ok []
  | depth + 1, tables => do
    let sections ← tables.mapM fun (name, table) => do
      return (name, ← write (nameIn list name) table)
    let text := sections.flatMap fun (name, s) =>
      if s.text.isEmpty then [] else '[' :: nameIn list name ++ ']' :: '\n' :: s.text
    let deeper := sections.foldl (fun tables (name, s) => placeInner name s tables) []
    return text ++ (← innerTables write list depth deeper)

/-- What is no table has nothing under a name. That the name can be written is found out first. -/
def noSection (name : WideText) : Except Fault Section := do
  let _ ← key name
  throw (.type .mismatch)

/-- The section of a table in a list. What is empty and no table counts as one; of another list or
text, the first item is taken for a name. -/
def itemSection (write : SectionWriter) (list : List Char) : Value → Except Fault Section
  | .table ms => write list ms
  | .list [] | .text [] => .ok {}
  | .list (.text name :: _) => noSection name
  | .text (c :: _) => noSection [c]
  | _ => .error (.type .mismatch)

/-- The tables of a list, each under the header of the list. -/
def tableList (write : SectionWriter) (depth : Nat) (list : List Char) :
    List Value → Except Fault (List Char)
  | [] => .ok []
  | item :: items => do
    let s ← itemSection write list item
    -- an item whose first lines are headers of its own stands behind a blank line
    let (lines, lists) := if s.text.head? = some '[' then ([], s.text) else (s.text, [])
    let inner ← innerTables write list depth s.inner
    return "[[".toList ++ list ++ "]]\n".toList ++ lines ++ '\n' :: lists ++ inner ++
      (← tableList write depth list items)

/-- The section with a further member. -/
def Section.add (write : SectionWriter) (depth : Nat) (above : List Char) (s : Section)
    (member : WideText × Value) : Except Fault Section := do
  let name ← key member.1
  let line : Except Fault Section := do
    return { s with lines := s.lines ++ name ++ " = ".toList ++ (← inline member.2) ++ ['\n'] }
  match member.2 with
  | .table ms => return { s with inner := place name ms s.inner }
  | .list items =>
    if items.any fun v => v.table?.isSome then
      let tables ← tableList write depth (nameIn above name) items
      return { s with lists := s.lists ++ tables }
    else line
  | _ => line

/-- The section of a table with a name, to a depth. -/
def sectionOf : Nat → SectionWriter
  | 0 => fun _ _ => .ok {}
  | depth + 1 => fun above table => table.foldlM (Section.add (sectionOf depth) depth above) {}

/-- A table after the text before it: its header and its section. A table that holds nothing but
tables has no header. -/
def underHeader (before : List Char) (name : List Char) (s : Section) : List Char :=
  if s.text.isEmpty && !s.inner.isEmpty then before
  else
    let ended := before.isEmpty || (before.reverse.take 2 == ['\n', '\n'])
    before ++ (if ended then [] else ['\n']) ++ '[' :: name ++ ']' :: '\n' :: s.text

/-- Tables after the text before them, with the tables in them, to a depth. -/
def allTables (write : SectionWriter) :
    Nat → List Char → List Named → Except Fault (List Char)
  | 0, before, _ => .ok before
  | _ + 1, before, [] => .ok before
  | depth + 1, before, tables => do
    let add (acc : List Char × List Named) (table : Named) :
        Except Fault (List Char × List Named) := do
      let s ← write table.1 table.2
      return (underHeader acc.1 table.1 s, placeInner table.1 s acc.2)
    let (text, deeper) ← tables.foldlM add (before, [])
    allTables write depth text deeper

mutual

/-- How deep lists and tables are nested in a value. -/
def depth : Value → Nat
  | .list items => itemsDepth items + 1
  | .table members => membersDepth members + 1
  | _ => 0

/-- How deep lists and tables are nested in items. -/
def itemsDepth : List Value → Nat
  | [] => 0
  | v :: vs => max (depth v) (itemsDepth vs)

/-- How deep lists and tables are nested in members. -/
def membersDepth : List (WideText × Value) → Nat
  | [] => 0
  | (_, v) :: ms => max (depth v) (membersDepth ms)

end

/-- The text of a table. -/
def write (table : Table) : Except Fault (List Char) := do
  let depth := membersDepth table + 1
  let s ← sectionOf depth [] table
  allTables (sectionOf depth) depth s.text s.inner

end ContractOps.Toml
