import ContractOps.Text.Ranges

/-!
# White space

Three notions of white space are in use. `isBlank` is the widest: everything that separates the
words of a text. `isNumeralBlank` is what may surround a numeral: the information separators
U+001C to U+001F are words there. `isLayout` is the white space of JSON.
-/

namespace ContractOps.Text

/-- The white space of Unicode together with the information separators. -/
def blanks : Ranges :=
  [(0x9, 0xd), (0x1c, 0x20), (0x85, 0x85), (0xa0, 0xa0), (0x1680, 0x1680), (0x2000, 0x200a),
   (0x2028, 0x2029), (0x202f, 0x202f), (0x205f, 0x205f), (0x3000, 0x3000)]

/-- White space in running text. -/
def isBlank (c : Char) : Bool := blanks.has c

/-- White space that may surround a numeral. -/
def isNumeralBlank (c : Char) : Bool := isBlank c && !(0x1c ≤ c.toNat && c.toNat ≤ 0x1f)

/-- White space between the tokens of a JSON text. -/
def isLayout (c : Char) : Bool := c = ' ' || c = '\t' || c = '\n' || c = '\r'

/-- Drops the characters of a class from both ends. -/
def stripBy (p : Char → Bool) (cs : List Char) : List Char :=
  ((cs.dropWhile p).reverse.dropWhile p).reverse

/-- A text without characters of the class stays as it is. -/
theorem stripBy_of_all {p : Char → Bool} {cs : List Char} (h : ∀ c ∈ cs, p c = false) :
    stripBy p cs = cs := by
  have hkept : ∀ cs : List Char, (∀ c ∈ cs, p c = false) → cs.dropWhile p = cs := by
    intro cs hcs
    cases cs with
    | nil => rfl
    | cons c cs =>
      rw [List.dropWhile_cons_of_neg]
      simp [hcs c List.mem_cons_self]
  rw [stripBy, hkept cs h, hkept cs.reverse fun c hc => h c (List.mem_reverse.mp hc),
    List.reverse_reverse]

/-- The maximal runs of characters that are not blank. -/
def words : List Char → List (List Char)
  | [] => []
  | c :: cs =>
    if isBlank c then words cs
    else match cs, words cs with
      | [], _ => [[c]]
      | d :: _, rest =>
        if isBlank d then [c] :: rest
        else match rest with
          | [] => [[c]]
          | w :: ws => (c :: w) :: ws

end ContractOps.Text
