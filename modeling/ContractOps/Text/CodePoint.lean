/-!
# Code points and wide texts

A text that was put together from units of sixteen bits may hold half of a surrogate pair, which is
a code point and no character. A `WideText` may hold such halves, a `String` may not. Every string
is a wide text, and `WideText.chars?` leads back from those without halves
(`WideText.chars?_ofChars`).
-/

namespace ContractOps

/-- A character, or half of a surrogate pair by its distance from U+D800. -/
inductive CodePoint where
  | char (c : Char)
  | half (n : Fin 0x800)
deriving DecidableEq, Repr, Inhabited

instance : Coe Char CodePoint := ⟨.char⟩

namespace CodePoint

/-- The number of a code point. -/
def toNat : CodePoint → Nat
  | char c => c.toNat
  | half n => 0xd800 + n.val

/-- The code point with a number, which is at most U+10FFFF. -/
def ofNat (n : Nat) : CodePoint :=
  if h : 0xd800 ≤ n ∧ n < 0xe000 then .half ⟨n - 0xd800, by omega⟩ else .char (Char.ofNat n)

/-- Whether a unit of sixteen bits is the first half of a surrogate pair. -/
def isHighHalf (n : Nat) : Bool := 0xd800 ≤ n && n < 0xdc00

/-- Whether a unit of sixteen bits is the second half of a surrogate pair. -/
def isLowHalf (n : Nat) : Bool := 0xdc00 ≤ n && n < 0xe000

/-- The number of the character that two halves make up. -/
def join (high low : Nat) : Nat := 0x10000 + (high - 0xd800) * 0x400 + (low - 0xdc00)

/-- The character that a code point is, if it is one. -/
def char? : CodePoint → Option Char
  | char c => some c
  | half _ => none

/-- Whether a code point is a character of a class. -/
def is (p : Char → Bool) : CodePoint → Bool
  | char c => p c
  | half _ => false

@[simp] theorem is_char (p : Char → Bool) (c : Char) : (char c).is p = p c := rfl

end CodePoint

/-- A text that may hold halves of surrogate pairs. -/
abbrev WideText := List CodePoint

namespace WideText

/-- Characters as a wide text. -/
def ofChars (cs : List Char) : WideText := cs.map .char

/-- A string as a wide text. -/
def ofString (s : String) : WideText := ofChars s.toList

instance : Coe String WideText := ⟨ofString⟩

/-- The characters of a text without halves. -/
def chars? : WideText → Option (List Char)
  | [] => some []
  | .char c :: cs => (chars? cs).map (c :: ·)
  | .half _ :: _ => none

/-- The characters of a text, halves left out. -/
def plain (cs : WideText) : List Char := cs.filterMap CodePoint.char?

/-- A text with a replacement character for every half, where halves cannot be shown. -/
def shown (cs : WideText) : String := String.ofList (cs.map fun c => (c.char?).getD '\uFFFD')

theorem chars?_ofChars (cs : List Char) : chars? (ofChars cs) = some cs := by
  induction cs with
  | nil => rfl
  | cons c cs ih =>
    show (chars? (ofChars cs)).map (c :: ·) = some (c :: cs)
    rw [ih]
    rfl

theorem ofChars_injective {cs ds : List Char} (h : ofChars cs = ofChars ds) : cs = ds := by
  have := chars?_ofChars cs
  rw [h, chars?_ofChars] at this
  exact (Option.some.inj this).symm

theorem shown_ofChars (ds : List Char) : (ofChars ds).shown = String.ofList ds := by
  rw [shown, ofChars, List.map_map]
  exact congrArg String.ofList (List.map_id ds)

theorem plain_ofChars (ds : List Char) : (ofChars ds).plain = ds := by
  rw [plain, ofChars, List.filterMap_map]
  exact List.filterMap_some

/-- Different strings are different wide texts. -/
theorem ofString_inj {s t : String} : ofString s = ofString t ↔ s = t :=
  ⟨fun h => String.ext_iff.2 (ofChars_injective h), fun h => h ▸ rfl⟩

@[simp] theorem ofChars_append (cs ds : List Char) :
    ofChars (cs ++ ds) = ofChars cs ++ ofChars ds := List.map_append

end WideText

end ContractOps
