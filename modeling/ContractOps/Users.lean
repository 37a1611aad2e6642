import ContractOps.Calendar
import ContractOps.Json.Access
import ContractOps.Sorting

/-!
# The list of users

A snapshot shows the users of the platform, those with the highest return first and those with equal
returns in the order in which they were listed. Amounts are kept in millionths and shown in units,
cut to one decimal. Sorting neither loses nor adds a user (`Users.perm_sort`). Returns that are no
numbers are neither below nor above others, and with them the place of a user depends on which
returns are compared.
-/

namespace ContractOps.Users

/-- One million. -/
def million : Binary64 := .ofRatio false 1000000 1

/-- Ten. -/
def ten : Binary64 := .ofRatio false 10 1

/-- Millionths as units, cut to one decimal. -/
def toUnits (value : Json) : Except Fault Binary64 := do
  let n ← value.toInt
  match Binary64.ofInt? n with
  | none => throw .overflow
  | some x =>
    match ((x.div million).mul ten).floor? with
    | some tenths => return .ofRatio (decide (tenths < 0)) tenths.natAbs 10
    | none => throw .overflow

/-- The date and time that a number of seconds denotes. -/
def dateOf (seconds : Json) : Except Fault String := do Moment.dateText (← seconds.toInt)

/-- How many bets there were and what they were worth. -/
def tally (v : Json) : Except Fault Json := do
  return .obj [("count", ← v.member "count"), ("value", .float (← toUnits (← v.member "value")))]

/-- A user as the snapshot shows one. -/
def format (item : Json) : Except Fault Json := do
  let info ← item.member "info"
  let bets ← (← info.member "stats").member "bets"
  let wins ← (← info.member "stats").member "wins"
  return .obj [
    ("address", ← item.member "address"),
    ("bets", ← tally bets),
    ("wins", ← tally wins),
    ("roi", .float (← (← info.member "roi").toFloat)),
    ("unclaimed", .float (← toUnits (← info.member "unclaimed"))),
    ("lastFlipDate", .str (← dateOf (← info.member "last_flip_date")))]

/-- The return of a user. -/
def returnOf (item : Json) : Except Fault Binary64 := do
  (← (← item.member "info").member "roi").toFloat

/-- Puts a user in front of all that do not have a higher return, among users with falling
returns. -/
def insert (entry : Binary64 × Json) : List (Binary64 × Json) → List (Binary64 × Json)
  | [] => [entry]
  | other :: rest =>
    if entry.1.compare? other.1 = some .lt then other :: insert entry rest
    else entry :: other :: rest

/-- Sorts users by falling return. Equal returns keep their order. -/
def sort (entries : List (Binary64 × Json)) : List (Binary64 × Json) := entries.foldr insert []

theorem perm_insert (entry : Binary64 × Json) (entries : List (Binary64 × Json)) :
    (insert entry entries).Perm (entry :: entries) := by
  induction entries with
  | nil => exact .refl _
  | cons other rest ih =>
    simp only [insert]
    split
    · exact (ih.cons other).trans (.swap entry other rest)
    · exact .refl _

/-- Sorting neither loses nor adds a user. -/
theorem perm_sort (entries : List (Binary64 × Json)) : (sort entries).Perm entries := by
  induction entries with
  | nil => exact .refl _
  | cons entry rest ih => exact (perm_insert entry (sort rest)).trans (ih.cons entry)

/-- Whether the return of one user is below that of another. -/
def isBelow (a b : Binary64 × Json) : Bool := a.1.compare? b.1 == some .lt

/-- The users in the order of the snapshot. -/
def arrange (entries : List (Binary64 × Json)) : List (Binary64 × Json) :=
  if entries.any fun entry => entry.1 = .nan then Sorting.sortFalling isBelow entries
  else sort entries

/-- The users as the snapshot shows them. -/
def formatAll (items : Json) : Except Fault (List Json) := do
  let entries ← (← items.items).mapM fun item => do return (← returnOf item, item)
  (arrange entries).mapM fun entry => format entry.2

end ContractOps.Users
