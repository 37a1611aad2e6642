/-!
# Tables of code point ranges

The character classes of this library are those of Unicode 14. A class is a table of closed ranges
of code points in increasing order, and `Ranges.has` looks a character up in it.
-/

namespace ContractOps.Text

/-- A class of characters, as closed ranges of code points in increasing order. -/
abbrev Ranges := List (Nat × Nat)

/-- Whether a character lies in one of the ranges. -/
def Ranges.has (table : Ranges) (c : Char) : Bool :=
  table.any fun (lo, hi) => lo ≤ c.toNat && c.toNat ≤ hi

end ContractOps.Text
