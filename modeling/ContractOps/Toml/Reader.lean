import ContractOps.Toml.Entry
import ContractOps.Toml.Lines

/-!
# Reading TOML

    text ──lines──▶ statements ──▶ tables

Every line is a statement: the header of a table, the header of a further table in a list, or an
entry of the table whose header came last. A header leads through tables, which are added where they
are missing, and through the last tables of lists. A table whose header came twice is refused, but a
table that was only led through may get its header later: it is implied until then, by its name
alone. The reader is looser than the standard in some places and stricter in others, as the library
that reads configurations is assumed to be.
-/

namespace ContractOps.Toml

/-- What has been read: the tables, the place where entries go unless it is no table, the names of
implied tables, and a text that goes on. -/
structure Progress where
  root : Value := .table []
  place : Option (List Step) := some []
  implied : List WideText := []
  pending : Option Pending := none

namespace Progress

/-! ### Headers -/

/-- The item that a list header leads to behind a value: the last one, or the value itself if it is
a table. -/
def enterList (v : Value) : Except Flaw (List Step × Value) :=
  match v with
  | .table _ => .ok ([], v)
  | .list items =>
    match items.getLast? with
    | some item => .ok ([.last], item)
    | none => .error .cutShort
  | .text [] => .error .cutShort
  | .text _ => .ok ([.last], v)
  | _ => .error .notATable

/-- A new table, for a list header the first one of a list. -/
def fresh (inList : Bool) : Value := if inList then .list [.table []] else .table []

/-- The table whose members a header goes on with, and the steps to it: a table, or the last one of
a list. -/
def membersBehind (v : Value) : Except Flaw (List Step × Table) :=
  match v with
  | .table ms => .ok ([], ms)
  | .list items =>
    match items.getLast? with
    | some (.table ms) => .ok ([.last], ms)
    | some _ => .error .notATable
    | none => .error .cutShort
  | .text [] => .error .cutShort
  | _ => .error .notATable

/-- A value under the last name of a header that is there already: a list gets a further table, and
an implied table gets its header. -/
def reopen (inList : Bool) (name : WideText) (v : Value) (implied : List WideText) :
    Except Flaw (Value × List WideText) :=
  if name ∈ implied then
    if inList then .error .malformed else .ok (v, implied.erase name)
  else if inList then
    match v with
    | .list items => .ok (.list (items ++ [.table []]), implied)
    | _ => .error .notAList
  else .error .malformed

/-- Follows the names of a header from a value. Gives the value with what was added, the names of
implied tables and the place that the header leads to. -/
def follow (inList : Bool) :
    List WideText → Value → List WideText → Except Flaw (Value × List WideText × List Step)
  | [], v, implied => .ok (v, implied, [])
  | name :: names, v, implied => do
    if name.isEmpty then throw .malformed
    let isLast := names.isEmpty
    -- what the name stands for, found or added
    let (steps, ms) ← membersBehind v
    let (entry, implied) ←
      match ms.get? name with
      | some entry =>
        if isLast && steps.isEmpty then reopen inList name entry implied
        else pure (entry, implied)
      | none =>
        pure (fresh (isLast && inList),
          if isLast || !steps.isEmpty then implied else implied ++ [name])
    -- the way on from there, and the changed value put back
    let (inner, item) ← if inList then enterList entry else pure ([], entry)
    let (item, implied, place) ← follow inList names item implied
    let entry := Value.replaceAt item inner entry
    return (Value.replaceAt (.table (ms.put name entry)) steps v, implied,
      steps ++ .member name :: inner ++ place)

/-- The header of a table, or of a table in a list. -/
def openTable (p : Progress) (line : List Char) : Except Flaw Progress := do
  let (inList, names) ←
    match line with
    | ['['] => throw .malformed
    | '[' :: '[' :: rest => pure (true, ← header [']', ']'] rest)
    | _ => pure (false, ← header [']'] (line.drop 1))
  let (root, implied, place) ← follow inList (names.map .ofChars) p.root p.implied
  let isTable := ((root.at? place).bind Value.table?).isSome
  return { p with root, implied, place := if isTable then some place else none }

/-! ### Entries -/

/-- The table where entries go. -/
def table? (p : Progress) : Option Table :=
  p.place.bind fun place => (p.root.at? place).bind Value.table?

/-- The table where entries go with other members. -/
def setTable (p : Progress) (ms : Table) : Progress :=
  match p.place with
  | some place => { p with root := Value.replaceAt (.table ms) place p.root }
  | none => p

/-- An entry, whose value may go on in the next lines. -/
def entry (p : Progress) (line : List Char) : Except Flaw Progress := do
  let (ms, pending) ← addEntry (value room) line p.table?
  return { p.setTable ms with pending }

/-- Entries in braces that stand on a line of their own. -/
def inlineEntries (p : Progress) (line : List Char) : Except Flaw Progress := do
  if line.getLast? ≠ some '\x7d' then throw .malformed
  match ← addInline (value room) line p.table? with
  | some ms => return p.setTable ms
  | none => return p

/-- Whether a line closes a text of several lines, or the list that it stands in. -/
def closes (text line : List Char) : Except Flaw Bool :=
  match text.head?, line.getLast? with
  | some '[', none => .error .cutShort
  | some '[', some c => .ok (c = ']')
  | quote, _ => .ok (line.length ≥ 3 && (line.reverse.take 3).all (some · == quote))

/-- A line of a text of several lines. The text goes to where entries go, whatever tables its key
leads through. -/
def continueText (p : Progress) (pending : Pending) (line : List Char) : Except Flaw Progress := do
  let text := pending.text ++ line
  if ← closes text line then
    let v ← value room text true
    let ms := p.table?.getD []
    return { p.setTable (ms.put pending.key v) with pending := none }
  else return { p with pending := some (.afterLine pending.key text) }

/-! ### Statements -/

/-- A line of a TOML text. Lines without a `=` that are no headers do not count. -/
def statement (p : Progress) (line : List Char) : Except Flaw Progress :=
  match line with
  | '[' :: _ => p.openTable line
  | '\x7b' :: _ => p.inlineEntries line
  | _ => if '=' ∈ line then p.entry line else .ok p

/-- The next line. Blanks around it count only in a text of several lines. -/
def next (p : Progress) (line : List Char) : Except Flaw Progress :=
  match p.pending with
  | none =>
    let line := strip line
    if line.isEmpty then .ok p else p.statement line
  | some pending =>
    let line := if pending.joined then strip line else line
    if line.isEmpty && pending.joined then .ok p else p.continueText pending line

end Progress

/-- The table that a text describes. -/
def read (cs : List Char) : Except Flaw Table := do
  let p ← (← lines cs).foldlM Progress.next {}
  return p.root.table?.getD []

end ContractOps.Toml
