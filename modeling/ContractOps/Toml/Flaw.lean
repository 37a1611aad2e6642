/-!
# Flaws of TOML texts

Why a text stands for no table. Most flaws break the grammar; the others are found where a part of a
text is used as something that it is not.
-/

namespace ContractOps.Toml

/-- Why a text stands for no table. -/
inductive Flaw where
  /-- The text breaks the grammar, or a key occurs twice. -/
  | malformed
  /-- Something is empty or ends where a character or an item has to stand. -/
  | cutShort
  /-- A key leads through a value that is no table. -/
  | notATable
  /-- A header adds a table to a value that is no list. -/
  | notAList
  /-- A number is too large for what it is used as. -/
  | tooLarge
  /-- A text of several lines has an empty key. -/
  | namelessText
  /-- Lists and tables are nested too deep. -/
  | tooDeep
deriving DecidableEq, Repr

/-- The wording of a flaw. -/
def Flaw.message : Flaw → String
  | malformed => "malformed"
  | cutShort => "index out of range"
  | notATable => "value is no table"
  | notAList => "value is no list of tables"
  | tooLarge => "int too large to convert to float"
  | namelessText => "text of several lines without a key"
  | tooDeep => "maximum recursion depth exceeded"

end ContractOps.Toml
