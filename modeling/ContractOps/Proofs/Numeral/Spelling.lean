import ContractOps.Numeral.Decimal
import ContractOps.Proofs.Json.Numbers
import ContractOps.Proofs.Numeral.Shortest

/-!
# Decimal numbers in texts

A `Spelling` has the parts of a decimal number in a text. It makes up a text (`Spelling.text`) and
stands for a number (`Spelling.value`), and the decimal reader reads the text as this number
(`Spelling.read?_text`). The text of an integer is made up so (`text_ofInt`), and so is that of a
finite double precision number, wherever its point is placed (`exists_layOut`, `exists_spells`).
-/

namespace ContractOps

/-! ## Zeros -/

namespace Digits

theorem isDigit_zeros {n : Nat} {c : Char} (h : c ∈ Binary64.zeros n) : isDigit c = true := by
  rw [List.eq_of_mem_replicate h]
  decide

theorem zeros_succ (n : Nat) : Binary64.zeros (n + 1) = Binary64.zeros n ++ ['0'] :=
  List.replicate_succ'

/-- Zeros in front of digits do not count. -/
theorem ofChars_zeros_append (n : Nat) (cs : List Char) :
    ofChars (Binary64.zeros n ++ cs) = ofChars cs := by
  induction n with
  | zero => rfl
  | succ n ih => exact ih

/-- Zeros behind digits are powers of ten. -/
theorem ofChars_append_zeros (cs : List Char) (n : Nat) :
    ofChars (cs ++ Binary64.zeros n) = ofChars cs * 10 ^ n := by
  induction n with
  | zero => simp [Binary64.zeros]
  | succ n ih =>
    have hlast : cs ++ Binary64.zeros (n + 1) = cs ++ Binary64.zeros n ++ [char 0] := by
      rw [zeros_succ, ← List.append_assoc]
      rfl
    rw [hlast, ofChars_append_char _ (by decide), ih, pow_succ]
    ring

end Digits

/-! ## Parts of a text -/

/-- The parts of a decimal number in a text: its sign, the digits before the point and behind it,
and the sign and the digits of its exponent. There may be no digits behind the point, and no
exponent. -/
structure Spelling where
  negative : Bool
  whole : List Char
  places : List Char
  power : Option (Bool × List Char)
  whole_ne_nil : whole ≠ []
  isDigit_whole : ∀ c ∈ whole, Digits.isDigit c = true
  isDigit_places : ∀ c ∈ places, Digits.isDigit c = true
  isDigit_power : ∀ p ∈ power, p.2 ≠ [] ∧ ∀ c ∈ p.2, Digits.isDigit c = true

namespace Spelling

/-- The point and the digits behind it, if there are any. -/
def fraction (s : Spelling) : List Char := if s.places.isEmpty then [] else '.' :: s.places

theorem fraction_of_nil {s : Spelling} (h : s.places = []) : s.fraction = [] := by
  rw [fraction, h]
  rfl

theorem fraction_of_ne_nil {s : Spelling} (h : s.places ≠ []) : s.fraction = '.' :: s.places := by
  rw [fraction, if_neg (by simpa using h)]

/-- A minus sign or a plus sign. -/
def signChar (negative : Bool) : Char := if negative then '-' else '+'

/-- The exponent, if there is one. -/
def powerText (s : Spelling) : List Char :=
  match s.power with
  | none => []
  | some (negative, digits) => 'e' :: signChar negative :: digits

/-- The text without the sign. -/
def body (s : Spelling) : List Char := s.whole ++ (s.fraction ++ s.powerText)

/-- The text that is made up of the parts. -/
def text (s : Spelling) : List Char := Json.signText s.negative ++ s.body

/-- The number that the exponent is. -/
def powerValue (s : Spelling) : Int :=
  match s.power with
  | none => 0
  | some (negative, digits) =>
    if negative then -(Digits.ofChars digits : Int) else Digits.ofChars digits

/-- All digits as one number, without the point. -/
def coefficient (s : Spelling) : Nat := Digits.ofChars (s.whole ++ s.places)

/-- The power of ten that goes with the coefficient. -/
def exponent (s : Spelling) : Int := s.powerValue - s.places.length

/-- The number that the text stands for. -/
def value (s : Spelling) : ℚ :=
  (if s.negative then -(s.coefficient : ℚ) else s.coefficient) * 10 ^ s.exponent

/-! ## Reading -/

/-- Characters that the decimal reader takes as they are. -/
structure Plain (c : Char) : Prop where
  blank : Text.isBlank c = false
  underscore : c ≠ '_'
  ascii : Decimal.asciiChar c = c

instance (c : Char) : Decidable (Plain c) :=
  decidable_of_iff (Text.isBlank c = false ∧ c ≠ '_' ∧ Decimal.asciiChar c = c)
    ⟨fun ⟨h₁, h₂, h₃⟩ => ⟨h₁, h₂, h₃⟩, fun ⟨h₁, h₂, h₃⟩ => ⟨h₁, h₂, h₃⟩⟩

theorem plain_of_isDigit {c : Char} (h : Digits.isDigit c = true) : Plain c :=
  Digits.of_isDigit Plain (by decide) h

theorem plain_text (s : Spelling) : ∀ c ∈ s.text, Plain c := by
  have hfraction : ∀ c ∈ s.fraction, Plain c := by
    rw [fraction]
    split
    · simp
    · exact List.forall_mem_cons.mpr
        ⟨by decide, fun c hc => plain_of_isDigit (s.isDigit_places c hc)⟩
  have hpower : ∀ c ∈ s.powerText, Plain c := by
    rw [powerText]
    split
    · simp
    · next negative digits hsome =>
      have hsign : Plain (signChar negative) := by cases negative <;> decide
      exact List.forall_mem_cons.mpr ⟨by decide, List.forall_mem_cons.mpr
        ⟨hsign, fun c hc => plain_of_isDigit ((s.isDigit_power _ hsome).2 c hc)⟩⟩
  have hsign : ∀ c ∈ Json.signText s.negative, Plain c := by
    cases s.negative
    · exact List.forall_mem_nil _
    · exact List.forall_mem_singleton.mpr (by decide)
  simp only [text, body, List.forall_mem_append]
  exact ⟨hsign, fun c hc => plain_of_isDigit (s.isDigit_whole c hc), hfraction, hpower⟩

/-- Digits are split off up to where they end. -/
theorem splitDigits_append {ds rest : List Char} (hds : ∀ d ∈ ds, Digits.isDigit d = true)
    (hrest : ∀ c ∈ rest.head?, Digits.isDigit c = false) :
    Decimal.splitDigits (ds ++ rest) = (ds, rest) := by
  have hstop : rest.takeWhile Digits.isDigit = [] ∧ rest.dropWhile Digits.isDigit = rest := by
    cases rest with
    | nil => exact ⟨rfl, rfl⟩
    | cons c rest => simp [hrest c rfl]
  rw [Decimal.splitDigits, List.takeWhile_append_of_pos hds, List.dropWhile_append_of_pos hds,
    hstop.1, hstop.2, List.append_nil]

theorem exponent?_signChar (negative : Bool) {ds : List Char}
    (hds : ∀ d ∈ ds, Digits.isDigit d = true) (hne : ds ≠ []) :
    Decimal.exponent? (signChar negative :: ds) =
      some (if negative then -(Digits.ofChars ds : Int) else Digits.ofChars ds) := by
  have hsign : Decimal.splitSign (signChar negative :: ds) = (negative, ds) := by
    cases negative <;> rfl
  have hall : ds.all Digits.isDigit = true := List.all_eq_true.mpr hds
  rw [Decimal.exponent?, hsign]
  simp [hall, hne]

theorem isDigit_head?_powerText (s : Spelling) :
    ∀ c ∈ s.powerText.head?, Digits.isDigit c = false := by
  rw [powerText]
  split
  · simp
  · rintro c ⟨⟩
    decide

/-- What is behind the digits in front of the point. -/
theorem isDigit_head?_fraction (s : Spelling) :
    ∀ c ∈ (s.fraction ++ s.powerText).head?, Digits.isDigit c = false := by
  rw [fraction]
  split
  · exact s.isDigit_head?_powerText
  · rintro c ⟨⟩
    decide

/-- A coefficient and an exponent, unless they are out of all bounds. -/
def bounded (negative : Bool) (coefficient : Nat) (exponent : Int) : Option Decimal :=
  if exponent + (Digits.count coefficient : Int) - 1 > Decimal.maxTextExponent ∨
      exponent < Decimal.leastTextExponent then none
  else some (.finite negative coefficient exponent)

theorem number?_body (s : Spelling) :
    Decimal.number? s.negative s.body = bounded s.negative s.coefficient s.exponent := by
  have hne : s.whole.isEmpty = false := by simpa using s.whole_ne_nil
  have hplaces : Decimal.splitDigits (s.places ++ s.powerText) = (s.places, s.powerText) :=
    splitDigits_append s.isDigit_places s.isDigit_head?_powerText
  have hpower : ∀ p, s.power = some p →
      Decimal.exponent? (signChar p.1 :: p.2) = some s.powerValue := by
    intro p hp
    obtain ⟨hdigits, hisDigit⟩ := s.isDigit_power p hp
    rw [exponent?_signChar p.1 hisDigit hdigits, powerValue, hp]
  rw [Decimal.number?, body, splitDigits_append s.isDigit_whole s.isDigit_head?_fraction, bounded,
    exponent, coefficient]
  -- there may be a point or none, and behind it an exponent or none
  by_cases hpoint : s.places = []
  · have hfraction := fraction_of_nil hpoint
    cases hcases : s.power with
    | none => simp [hfraction, powerText, powerValue, hcases, hne, hpoint]
    | some p => simp [hfraction, powerText, hcases, hne, hpoint, hpower p hcases]
  · simp only [fraction_of_ne_nil hpoint, List.cons_append, hplaces]
    cases hcases : s.power with
    | none => simp [powerText, powerValue, hcases, hne]
    | some p => simp [powerText, hcases, hne, hpower p hcases]

/-- The text is read as the coefficient and the exponent, unless they are out of all bounds. -/
theorem read?_text (s : Spelling) :
    Decimal.read? (String.ofList s.text) = bounded s.negative s.coefficient s.exponent := by
  obtain ⟨d, ds, hds⟩ := List.exists_cons_of_ne_nil s.whole_ne_nil
  have hd : Digits.isDigit d = true := s.isDigit_whole d (hds ▸ List.mem_cons_self)
  have hbody : s.body = d :: (ds ++ (s.fraction ++ s.powerText)) := by rw [body, hds]; rfl
  have hstrip : Text.stripBy Text.isBlank s.text = s.text :=
    Text.stripBy_of_all fun c hc => (s.plain_text c hc).blank
  have hfilter : s.text.filter (· ≠ '_') = s.text := by
    rw [List.filter_eq_self]
    intro c hc
    simpa using (s.plain_text c hc).underscore
  have hascii : s.text.map Decimal.asciiChar = s.text :=
    (List.map_congr_left fun c hc => (s.plain_text c hc).ascii).trans (List.map_id _)
  have hsign : Decimal.splitSign s.text = (s.negative, s.body) := by
    rw [text]
    cases s.negative with
    | true => rfl
    | false =>
      refine Decimal.splitSign_of_ne fun c hc => ?_
      rw [hbody] at hc
      cases hc
      exact ⟨Json.ne_of_isDigit hd (by decide), Json.ne_of_isDigit hd (by decide)⟩
  have hletter : ∀ c : Char, Digits.isDigit c = false → d ≠ c :=
    fun c hc => Json.ne_of_isDigit hd hc
  rw [Decimal.read?, String.toList_ofList, hstrip, hfilter, hascii, hsign, ← number?_body, hbody]
  have hi := hletter 'i' (by decide)
  have hn := hletter 'n' (by decide)
  have hs := hletter 's' (by decide)
  simp [hi, hn, hs]

/-! ## Digits of numbers -/

/-- An integer in decimal notation. -/
def ofInt (n : Int) : Spelling where
  negative := decide (n < 0)
  whole := Digits.ofNat n.natAbs
  places := []
  power := none
  whole_ne_nil := by
    obtain ⟨d, ds, hds, _⟩ := Json.head?_ofNat n.natAbs
    simp [hds]
  isDigit_whole _ hc := Json.isDigit_of_mem_ofNat hc
  isDigit_places := by simp
  isDigit_power := by simp

theorem text_ofInt (n : Int) : (ofInt n).text = Digits.ofInt n := by
  rw [Json.ofInt_eq]
  simp [text, body, fraction, powerText, ofInt]

theorem coefficient_ofInt (n : Int) : (ofInt n).coefficient = n.natAbs := by
  simp [coefficient, ofInt, Digits.ofChars_ofNat]

theorem exponent_ofInt (n : Int) : (ofInt n).exponent = 0 := rfl

/-- The text without its sign is the given one, and it is that of a decimal number with a point or
an exponent: it has the digits of the number, and zeros behind them where the point asks for it. -/
structure Spells (s : Spelling) (cs : List Char) (d : Binary64.Scientific) : Prop where
  body : s.body = cs
  float : s.places ≠ [] ∨ s.power ≠ none
  leading : ∀ ds, s.whole = '0' :: ds → ds = []
  digits : ∃ k : Nat, s.coefficient = d.coefficient * 10 ^ k ∧ s.exponent = d.exponent - k ∧
    (k = 0 ∨ s.exponent = -1)

/-- Zeros before the digits. -/
theorem exists_zeros_append (negative : Bool) {cs : List Char}
    (hcs : ∀ c ∈ cs, Digits.isDigit c = true) (hne : cs ≠ []) (k : Nat) :
    ∃ s : Spelling, s.negative = negative ∧ s.Spells (['0', '.'] ++ Binary64.zeros k ++ cs)
      ⟨Digits.ofChars cs, -(k + cs.length : ℕ)⟩ := by
  refine ⟨⟨negative, ['0'], Binary64.zeros k ++ cs, none, by simp, List.all_eq_true.mp (by decide),
    List.forall_mem_append.mpr ⟨fun _ => Digits.isDigit_zeros, hcs⟩, by simp⟩, rfl, ?_, ?_, ?_, 0,
    ?_, ?_, .inl rfl⟩
  · simp [body, fraction, powerText, hne]
  · exact .inl (by simp [hne])
  · simp
  · show Digits.ofChars (Binary64.zeros (k + 1) ++ cs) = Digits.ofChars cs * 10 ^ 0
    rw [Digits.ofChars_zeros_append, pow_zero, mul_one]
  · simp [exponent, powerValue, Binary64.zeros]

/-- Zeros behind the digits. -/
theorem exists_append_zeros (negative : Bool) {first : Char} {ds : List Char}
    (hdigits : ∀ c ∈ first :: ds, Digits.isDigit c = true) (hfirst : first ≠ '0') (k : Nat) :
    ∃ s : Spelling, s.negative = negative ∧ s.Spells (first :: ds ++ Binary64.zeros k ++ ['.', '0'])
      ⟨Digits.ofChars (first :: ds), k⟩ := by
  refine ⟨⟨negative, first :: ds ++ Binary64.zeros k, ['0'], none, by simp,
    List.forall_mem_append.mpr ⟨hdigits, fun _ => Digits.isDigit_zeros⟩,
    List.all_eq_true.mp (by decide), by simp⟩, rfl, ?_, .inl (by simp), ?_, k + 1, ?_, ?_, .inr rfl⟩
  · simp [body, fraction, powerText]
  · intro _ heq
    exact absurd (List.cons.inj heq).1 hfirst
  · show Digits.ofChars (first :: ds ++ Binary64.zeros k ++ ['0']) = _
    rw [List.append_assoc, ← Digits.zeros_succ, Digits.ofChars_append_zeros]
  · simp [exponent, powerValue]

/-- The point among the digits. -/
theorem exists_split (negative : Bool) {first : Char} {ds : List Char}
    (hdigits : ∀ c ∈ first :: ds, Digits.isDigit c = true) (hfirst : first ≠ '0') {k : Nat}
    (hk : k < ds.length) :
    ∃ s : Spelling, s.negative = negative ∧
      s.Spells (first :: ds.take k ++ ['.'] ++ ds.drop k)
        ⟨Digits.ofChars (first :: ds), k - ds.length⟩ := by
  obtain ⟨hhead, htail⟩ := List.forall_mem_cons.mp hdigits
  have hne : ds.drop k ≠ [] := by
    rw [ne_eq, List.drop_eq_nil_iff]
    omega
  refine ⟨⟨negative, first :: ds.take k, ds.drop k, none, by simp,
    List.forall_mem_cons.mpr ⟨hhead, fun c hc => htail c (List.mem_of_mem_take hc)⟩,
    fun c hc => htail c (List.mem_of_mem_drop hc), by simp⟩, rfl, ?_, .inl hne, ?_, 0, ?_, ?_,
    .inl rfl⟩
  · simp [body, fraction, powerText, hne]
  · intro _ heq
    exact absurd (List.cons.inj heq).1 hfirst
  · simp [coefficient]
  · simp only [exponent, powerValue, List.length_drop]
    omega

/-- The digits of an exponent, of which there are at least two. -/
def powerDigits (power : Int) : List Char :=
  Binary64.zeros (2 - (Digits.ofNat power.natAbs).length) ++ Digits.ofNat power.natAbs

theorem isDigit_powerDigits (power : Int) : ∀ c ∈ powerDigits power, Digits.isDigit c = true :=
  List.forall_mem_append.mpr ⟨fun _ => Digits.isDigit_zeros, fun _ => Json.isDigit_of_mem_ofNat⟩

theorem powerDigits_ne_nil (power : Int) : powerDigits power ≠ [] := by
  obtain ⟨d, ds, hds, _⟩ := Json.head?_ofNat power.natAbs
  simp [powerDigits, hds]

theorem ofChars_powerDigits (power : Int) :
    (if power < 0 then -(Digits.ofChars (powerDigits power) : Int)
      else Digits.ofChars (powerDigits power)) = power := by
  rw [powerDigits, Digits.ofChars_zeros_append, Digits.ofChars_ofNat]
  omega

/-- A digit in front of the point, and an exponent. -/
theorem exists_exponential (negative : Bool) {first : Char} {ds : List Char}
    (hdigits : ∀ c ∈ first :: ds, Digits.isDigit c = true) (power : Int) :
    ∃ s : Spelling, s.negative = negative ∧ s.Spells (Binary64.exponential (first :: ds) power)
      ⟨Digits.ofChars (first :: ds), power - ds.length⟩ := by
  obtain ⟨hhead, htail⟩ := List.forall_mem_cons.mp hdigits
  have hpower : ∀ p ∈ some (decide (power < 0), powerDigits power),
      p.2 ≠ [] ∧ ∀ c ∈ p.2, Digits.isDigit c = true := by
    rintro p ⟨⟩
    exact ⟨powerDigits_ne_nil power, isDigit_powerDigits power⟩
  refine ⟨⟨negative, [first], ds, some (decide (power < 0), powerDigits power), by simp,
    List.forall_mem_singleton.mpr hhead, htail, hpower⟩, rfl, ?_, .inr (by simp), ?_, 0, ?_, ?_,
    .inl rfl⟩
  · simp [body, fraction, powerText, powerDigits, Binary64.exponential, signChar]
  · intro _ heq
    exact (List.cons.inj heq).2.symm
  · simp [coefficient]
  · simp only [exponent, powerValue, decide_eq_true_eq, ofChars_powerDigits, Nat.cast_zero,
      sub_zero]

/-- The digits of a number are laid out as the text of a decimal number. -/
theorem exists_layOut (negative : Bool) {d : Binary64.Scientific} (h : d.coefficient ≠ 0) :
    ∃ s : Spelling, s.negative = negative ∧ s.Spells (Binary64.layOut d) d := by
  obtain ⟨coefficient, exponent⟩ := d
  have hdigits : ∀ c ∈ Digits.ofNat coefficient, Digits.isDigit c = true :=
    fun c => Json.isDigit_of_mem_ofNat
  have hvalue : Digits.ofChars (Digits.ofNat coefficient) = coefficient :=
    Digits.ofChars_ofNat coefficient
  obtain ⟨first, ds, hds, hzero⟩ := Json.head?_ofNat coefficient
  have hfirst : first ≠ '0' := fun hd => h (hzero hd).1
  rw [Binary64.layOut]
  dsimp only at h ⊢
  rw [hds] at hdigits hvalue ⊢
  subst hvalue
  generalize hpoint : exponent + ((first :: ds).length : Int) = point
  rw [List.length_cons] at hpoint
  split
  · rw [Binary64.positional]
    split
    · -- the point stands before the digits
      obtain rfl : exponent = -((-point).toNat + (first :: ds).length : ℕ) := by
        rw [List.length_cons]
        omega
      exact exists_zeros_append negative hdigits (by simp) _
    · split
      · -- or behind them
        next hlarge =>
        rw [List.length_cons] at hlarge
        obtain rfl : exponent = (point.toNat - (first :: ds).length : ℕ) := by
          rw [List.length_cons]
          omega
        exact exists_append_zeros negative hdigits hfirst _
      · -- or among them, where the first digit is before it
        next hmixed =>
        obtain ⟨k, hk⟩ : ∃ k, point.toNat = k + 1 := ⟨point.toNat - 1, by omega⟩
        rw [hk, List.length_cons] at hmixed
        obtain rfl : exponent = k - ds.length := by omega
        rw [hk]
        exact exists_split negative hdigits hfirst (by omega)
  · obtain rfl : exponent = point - 1 - ds.length := by omega
    exact exists_exponential negative hdigits (point - 1)

/-- The text of a finite number without its sign is that of its shortest digits, or of a zero. -/
theorem exists_spells (negative : Bool) {significand : Nat} {exponent : Int}
    (canonical : Binary64.Canonical significand exponent) :
    ∃ (s : Spelling) (d : Binary64.Scientific), s.negative = negative ∧
      s.Spells (if significand = 0 then ['0', '.', '0'] else
        Binary64.layOut (Binary64.shortest (.finite false significand exponent canonical))) d ∧
      (significand = 0 ∧ d = ⟨0, -1⟩ ∨ 0 < significand ∧
        d = Binary64.shortest (.finite false significand exponent canonical)) := by
  split
  · next hzero =>
    have hdigits : ∀ c ∈ ['0'], Digits.isDigit c = true := List.all_eq_true.mp (by decide)
    obtain ⟨s, hnegative, hspells⟩ := exists_zeros_append negative hdigits (by decide) 0
    exact ⟨s, _, hnegative, hspells, .inl ⟨hzero, rfl⟩⟩
  · next hne =>
    have hpositive := Nat.pos_of_ne_zero hne
    obtain ⟨s, hnegative, hspells⟩ :=
      exists_layOut negative (Binary64.shortest_ne_zero hpositive canonical)
    exact ⟨s, _, hnegative, hspells, .inr ⟨hpositive, rfl⟩⟩

/-- Zeros behind the digits do not change how large the number is. -/
theorem Spells.size {s : Spelling} {cs : List Char} {d : Binary64.Scientific} (h : s.Spells cs d)
    (hd : d.coefficient ≠ 0) :
    s.exponent + (Digits.count s.coefficient : Int) = d.exponent + Digits.count d.coefficient := by
  obtain ⟨k, hcoefficient, hexponent, _⟩ := h.digits
  rw [hcoefficient, hexponent, Digits.count_mul_pow (Nat.pos_of_ne_zero hd)]
  push_cast
  ring

end Spelling

end ContractOps
