/-!
# Decimal digits

`Digits.ofNat` writes a number in decimal notation, which reads back (`Digits.ofChars_ofNat`), and
`Digits.value` reads a run of digit values.
-/

namespace ContractOps.Digits

/-- The ASCII digit of a number below ten. -/
def char (n : Nat) : Char := Char.ofNat (48 + n)

/-- Decimal notation, without leading zeros. -/
def ofNat (n : Nat) : List Char :=
  if n < 10 then [char n] else ofNat (n / 10) ++ [char (n % 10)]

/-- The value of an ASCII digit. -/
def value? (c : Char) : Option Nat :=
  if '0' ≤ c ∧ c ≤ '9' then some (c.toNat - 48) else none

/-- Whether a character is an ASCII digit. -/
def isDigit (c : Char) : Bool := (value? c).isSome

/-- The number that a run of digit values denotes. -/
def value (ds : List Nat) : Nat := ds.foldl (fun n d => 10 * n + d) 0

/-- The number that the ASCII digits of a text denote. -/
def ofChars (cs : List Char) : Nat := value (cs.filterMap value?)

/-- Decimal notation of an integer, with a sign only below zero. -/
def ofInt : Int → List Char
  | .ofNat n => ofNat n
  | .negSucc n => '-' :: ofNat (n + 1)

/-- Decimal notation of an integer. -/
def text (n : Int) : String := String.ofList (ofInt n)

/-- How many decimal digits a number has. -/
def count (n : Nat) : Nat := if n < 10 then 1 else count (n / 10) + 1

theorem value?_char {n : Nat} (h : n < 10) : value? (char n) = some n := by
  revert n
  decide

theorem exists_char_of_isDigit {c : Char} (h : isDigit c = true) :
    ∃ n, n < 10 ∧ c = char n := by
  rw [isDigit, value?] at h
  split at h
  · next hrange =>
    have hlow : 48 ≤ c.toNat := hrange.1
    have hhigh : c.toNat ≤ 57 := hrange.2
    refine ⟨c.toNat - 48, by omega, ?_⟩
    rw [char, Nat.add_sub_cancel' hlow, Char.ofNat_toNat]
  · cases h

/-- What holds of the ten digits holds of every digit. -/
theorem of_isDigit (p : Char → Prop) (h : ∀ n < 10, p (char n)) {c : Char}
    (hc : isDigit c = true) : p c := by
  obtain ⟨n, hn, rfl⟩ := exists_char_of_isDigit hc
  exact h n hn

theorem ofChars_append_char (cs : List Char) {n : Nat} (h : n < 10) :
    ofChars (cs ++ [char n]) = 10 * ofChars cs + n := by
  simp [ofChars, value, value?_char h]

/-- Decimal notation reads back. -/
theorem ofChars_ofNat (n : Nat) : ofChars (ofNat n) = n := by
  induction n using ofNat.induct with
  | case1 n h => simp [ofNat, h, ofChars, value, value?_char h]
  | case2 n h ih =>
    rw [ofNat, if_neg h, ofChars_append_char _ (Nat.mod_lt n (by decide)), ih]
    omega

/-- Decimal notation has as many characters as the number has digits. -/
theorem length_ofNat (n : Nat) : (ofNat n).length = count n := by
  induction n using ofNat.induct with
  | case1 n h => rw [ofNat, count, if_pos h, if_pos h]; rfl
  | case2 n h ih => rw [ofNat, count, if_neg h, if_neg h, List.length_append, ih]; rfl

/-- Decimal notation of a number below a hundred, with two digits. -/
def twoDigits (n : Nat) : String := String.ofList [char (n / 10 % 10), char (n % 10)]

end ContractOps.Digits
