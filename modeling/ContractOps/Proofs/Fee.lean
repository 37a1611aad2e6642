import ContractOps.Fee
import ContractOps.Proofs.Numeral.Decimal
import ContractOps.Proofs.Numeral.Spelling
import ContractOps.Proofs.Task.Steps

/-!
# Fees

A price is the number that its text stands for (`Fee.StandsFor`). A whole number and a finite double
precision number have the text of a number (`exists_spelling`), and it is read as this number
(`price_eq`). So the amount of a fee is the ceiling of what is kept of price times gas
(`amount_eq`): it is that of the product itself where this has no more digits than are kept
(`charge_eq_ceil`), and it never falls when the gas limit rises (`charge_mono`).
-/

namespace ContractOps.Fee

/-- Prices: whole numbers of at most a thousand digits, and finite double precision numbers that are
not below zero. -/
inductive IsPrice : Json → Prop
  | int {n : Nat} (h : n < 10 ^ 1000) : IsPrice (.int n)
  | float {negative : Bool} {significand : Nat} {exponent : Int}
      {canonical : Binary64.Canonical significand exponent}
      (h : negative = true → significand = 0) :
    IsPrice (.float (.finite negative significand exponent canonical))

/-- The text of a value is that of a decimal number. -/
def StandsFor (v : Json) (p : ℚ) : Prop :=
  ∃ s : Spelling, v.display = .ofChars s.text ∧ s.value = p

/-! ## Texts of prices -/

/-- A number that is neither very large nor very fine, and not below zero. -/
structure Moderate (s : Spelling) : Prop where
  sign : s.negative = true → s.coefficient = 0
  least : -1000 ≤ s.exponent
  most : s.exponent + (Digits.count s.coefficient : Int) ≤ 1000

variable {v : Json}

theorem display_int (n : Int) : (Json.int n).display = .ofChars (Spelling.ofInt n).text := by
  rw [Spelling.text_ofInt]
  show WideText.ofString (String.ofList (Digits.ofInt n)) = _
  rw [WideText.ofString, String.toList_ofList]

theorem display_float {negative : Bool} {significand : Nat} {exponent : Int}
    {canonical : Binary64.Canonical significand exponent} {s : Spelling}
    (hnegative : s.negative = negative)
    (hbody : s.body = if significand = 0 then ['0', '.', '0'] else
      Binary64.layOut (Binary64.shortest (.finite false significand exponent canonical))) :
    (Json.float (.finite negative significand exponent canonical)).display = .ofChars s.text := by
  have hdisplay : ∀ x : Binary64, (Json.float x).display = (Json.float x).literal := fun _ => rfl
  rw [hdisplay, Json.literal, Json.literalChars, WideText.ofString, String.toList_ofList,
    Binary64.spell, Spelling.text, hnegative, hbody, Json.signText]

/-- Every price has the text of a decimal number. -/
theorem exists_spelling (hv : IsPrice v) :
    ∃ s : Spelling, v.display = .ofChars s.text ∧ Moderate s := by
  cases hv with
  | @int n h =>
    refine ⟨Spelling.ofInt n, display_int n, fun hnegative => ?_, ?_, ?_⟩
    · exact absurd (of_decide_eq_true (p := (n : Int) < 0) hnegative)
        (not_lt.mpr (Int.natCast_nonneg n))
    · rw [Spelling.exponent_ofInt]
      decide
    · have hcount := Digits.count_le_of_lt h (by decide)
      rw [Spelling.exponent_ofInt, Spelling.coefficient_ofInt, Int.natAbs_natCast]
      omega
  | @float negative significand exponent canonical h =>
    obtain ⟨s, d, hnegative, hspells, hd⟩ := Spelling.exists_spells negative canonical
    refine ⟨s, display_float hnegative hspells.body, ?_⟩
    obtain ⟨k, hcoefficient, hexponent, hk⟩ := hspells.digits
    rcases hd with ⟨_, rfl⟩ | ⟨hpositive, rfl⟩
    · rw [zero_mul] at hcoefficient
      refine ⟨fun _ => hcoefficient, ?_, ?_⟩
      · dsimp only at hexponent
        omega
      · rw [hcoefficient, Digits.count_zero]
        dsimp only at hexponent
        omega
    · have hleast := Binary64.le_exponent_shortest hpositive canonical
      have hmost := Binary64.digits_shortest_le hpositive canonical
      have hsize := hspells.size (Binary64.shortest_ne_zero hpositive canonical)
      refine ⟨fun hs => ?_, by omega, by omega⟩
      exact absurd (h (hnegative ▸ hs)) hpositive.ne'

/-! ## Reading prices -/

/-- The price is read as what its text is made of. -/
theorem price_eq (hv : IsPrice v) {s : Spelling} (htext : v.display = .ofChars s.text) :
    price v = .ok (.finite s.negative s.coefficient s.exponent) ∧ Moderate s := by
  obtain ⟨t, htext', hsign, hleast, hmost⟩ := exists_spelling hv
  have hbounded : Spelling.bounded t.negative t.coefficient t.exponent =
      some (.finite t.negative t.coefficient t.exponent) := by
    rw [Spelling.bounded, if_neg]
    rw [Decimal.maxTextExponent, Decimal.leastTextExponent]
    omega
  -- two ways to make up one text have the same coefficient and exponent
  have hsame : Spelling.bounded s.negative s.coefficient s.exponent =
      some (.finite t.negative t.coefficient t.exponent) := by
    rw [← hbounded, ← Spelling.read?_text, ← Spelling.read?_text]
    exact congrArg (Decimal.read? <| String.ofList ·)
      (WideText.ofChars_injective (htext.symm.trans htext'))
  have hparts : Decimal.finite s.negative s.coefficient s.exponent =
      .finite t.negative t.coefficient t.exponent := by
    rw [Spelling.bounded] at hsame
    split at hsame
    · cases hsame
    · exact Option.some.inj hsame
  obtain ⟨hnegative, hcoefficient, hexponent⟩ := Decimal.finite.inj hparts
  refine ⟨?_, ?_⟩
  · rw [price, htext', WideText.shown_ofChars, Spelling.read?_text, hbounded, hparts]
  · exact ⟨by rwa [hnegative, hcoefficient], by rwa [hexponent],
      by rwa [hexponent, hcoefficient]⟩

/-! ## Amounts -/

theorem value_eq {s : Spelling} (h : Moderate s) : s.value = s.coefficient * 10 ^ s.exponent := by
  rw [Spelling.value]
  split
  · next hnegative => rw [h.sign hnegative]; simp
  · rfl

/-- What a spelled price comes to: the ceiling of what is kept of price times gas. -/
def charge (s : Spelling) (gas : Nat) : Int :=
  ⌈(Decimal.significant (s.coefficient * gas) : ℚ) * 10 ^ s.exponent⌉

variable {s : Spelling} {g : Nat}

/-- The product is in the range of decimal arithmetic, with room to spare. -/
theorem Moderate.size_mul (h : Moderate s) (hg : g ≤ 10 ^ 3000) :
    s.exponent + (Digits.count (s.coefficient * g) : Int) ≤ 4001 := by
  have hgas := Digits.count_mono hg
  rw [Digits.count_pow] at hgas
  have hproduct := Digits.count_mul_le s.coefficient g
  have hmost := h.most
  omega

theorem amount_eq (hprice : price v = .ok (.finite s.negative s.coefficient s.exponent))
    (hs : Moderate s) (hg : g ≤ 10 ^ 3000) : amount (.int g) v = .ok (charge s g) := by
  have hleast : Decimal.leastExponent ≤ s.exponent := by
    have := hs.least
    rw [Decimal.leastExponent]
    omega
  have hmost : s.exponent + (Digits.count (s.coefficient * g) : Int) ≤ Decimal.maxExponent := by
    have := hs.size_mul hg
    rw [Decimal.maxExponent]
    omega
  have hceil := Decimal.ceil_scale hs.sign hleast hmost
  rw [amount, hprice, except_ok_bind]
  show lift (Decimal.scale _ _ >>= Decimal.ceil) = _
  rw [hceil]
  rfl

theorem charge_nonneg (s : Spelling) (g : Nat) : 0 ≤ charge s g :=
  Int.ceil_nonneg (by positivity)

theorem charge_le {k : Nat} (h : s.exponent + (Digits.count (s.coefficient * g) : Int) ≤ k) :
    charge s g ≤ (10 ^ k : ℕ) := by
  have hkept : (Decimal.significant (s.coefficient * g) : ℚ) ≤
      10 ^ Digits.count (s.coefficient * g) := by
    exact_mod_cast Decimal.significant_le (s.coefficient * g)
  apply Int.ceil_le.mpr
  calc (Decimal.significant (s.coefficient * g) : ℚ) * 10 ^ s.exponent
      ≤ 10 ^ Digits.count (s.coefficient * g) * 10 ^ s.exponent := by gcongr
    _ = 10 ^ (s.exponent + (Digits.count (s.coefficient * g) : Int)) := by
      rw [zpow_add₀ (by norm_num), zpow_natCast, mul_comm]
    _ ≤ 10 ^ (k : ℤ) := zpow_le_zpow_right₀ (by norm_num) h
    _ = ((10 ^ k : ℕ) : ℤ) := by
      push_cast
      rfl

/-- No amount is too long to be written. -/
theorem write_charge (hs : Moderate s) (hg : g ≤ 10 ^ 3000) :
    write (charge s g) = .ok (Digits.text (charge s g)) := by
  obtain ⟨k, hsize, hk⟩ : ∃ k : Nat,
      s.exponent + (Digits.count (s.coefficient * g) : Int) ≤ k ∧ k < Numeral.maxDigits :=
    ⟨4001, hs.size_mul hg, by decide⟩
  have hlower := charge_nonneg s g
  have hupper : charge s g ≤ (10 ^ k : ℕ) := charge_le hsize
  have hshort : 10 ^ k < Nat.pow 10 Numeral.maxDigits := by
    rw [Nat.pow_eq]
    gcongr
    decide
  rw [write, if_pos (by omega)]

theorem text_eq (hv : IsPrice v) (htext : v.display = .ofChars s.text) (hg : g ≤ 10 ^ 3000)
    (denom : Json) :
    text (.int g) v denom = .ok ((Digits.text (charge s g) : WideText) ++ denom.display) := by
  obtain ⟨hprice, hs⟩ := price_eq hv htext
  rw [text, amount_eq hprice hs hg, except_ok_bind, write_charge hs hg]
  rfl

/-- The amount is that of the whole product where this has no more digits than are kept. -/
theorem charge_eq_ceil (hs : Moderate s) {c : Nat} {e : Int} (hc : c < 10 ^ Decimal.precision)
    (h : s.value * g = c * 10 ^ e) : charge s g = ⌈s.value * g⌉ := by
  have hproduct : ((s.coefficient * g : ℕ) : ℚ) * 10 ^ s.exponent = s.value * g := by
    rw [value_eq hs]
    push_cast
    ring
  rw [charge, Decimal.significant_eq hc (hproduct.trans h), hproduct]

theorem charge_mono (s : Spelling) {g g' : Nat} (h : g ≤ g') : charge s g ≤ charge s g' := by
  have hkept : Decimal.significant (s.coefficient * g) ≤ Decimal.significant (s.coefficient * g') :=
    Decimal.significant_mono (Nat.mul_le_mul_left s.coefficient h)
  exact Int.ceil_le_ceil (by gcongr)

/-- The fee at a price is an amount in front of the denomination. It is the ceiling of price times
gas wherever this product can be written with twenty-eight digits, and it never falls when the gas
limit rises. -/
theorem text_eq_ceil (hv : IsPrice v) (denom : Json) :
    (∃ p, StandsFor v p) ∧ ∀ p, StandsFor v p → ∃ fee : Nat → Int,
      (∀ g : Nat, g ≤ 10 ^ 3000 →
        text (.int g) v denom = .ok ((Digits.text (fee g) : WideText) ++ denom.display)) ∧
      (∀ g c : Nat, ∀ e : Int, g ≤ 10 ^ 3000 → c < 10 ^ 28 → p * g = c * 10 ^ e →
        fee g = ⌈p * g⌉) ∧
      ∀ g g' : Nat, g ≤ g' → g' ≤ 10 ^ 3000 → fee g ≤ fee g' := by
  constructor
  · obtain ⟨s, htext, _⟩ := exists_spelling hv
    exact ⟨s.value, s, htext, rfl⟩
  · rintro p ⟨s, htext, rfl⟩
    obtain ⟨_, hs⟩ := price_eq hv htext
    refine ⟨charge s, fun g hg => text_eq hv htext hg denom, ?_, ?_⟩
    · intro g c e _ hc h
      exact charge_eq_ceil hs hc h
    · intro g g' h _
      exact charge_mono s h

/-! ### A tenth -/

/-- The price of a tenth. As a double precision number it is a little more than that. -/
def tenth : Json := .float (.finite false 7205759403792794 (-56) (by decide))

/-- Its text. -/
def tenthText : Spelling where
  negative := false
  whole := ['0']
  places := ['1']
  power := none
  whole_ne_nil := List.cons_ne_nil _ _
  isDigit_whole := List.all_eq_true.mp rfl
  isDigit_places := List.all_eq_true.mp rfl
  isDigit_power := fun _ h => nomatch h

theorem standsFor_tenth : StandsFor tenth (1 / 10) := by
  refine ⟨tenthText, by decide +kernel, ?_⟩
  have hcoefficient : tenthText.coefficient = 1 := by decide
  have hexponent : tenthText.exponent = -1 := by decide
  rw [Spelling.value, hcoefficient, hexponent]
  norm_num [tenthText]

/-- Thirty units of gas cost three at this price, and not four. -/
theorem text_tenth :
    IsPrice tenth ∧ StandsFor tenth (1 / 10) ∧
      text (.int 30) tenth (.str "uflix") = .ok "3uflix" := by
  have hprice : IsPrice tenth := .float (by decide)
  obtain ⟨fee, htext, hceil, _⟩ :=
    (text_eq_ceil hprice (.str "uflix")).2 (1 / 10) standsFor_tenth
  have hpower : ∀ k, 2 ≤ k → 30 ≤ 10 ^ k :=
    fun k hk => (by decide : 30 ≤ 10 ^ 2).trans (Nat.pow_le_pow_right (by decide) hk)
  have hgas := hpower 3000 (by decide)
  have hfee : fee 30 = 3 := by
    rw [hceil 30 3 0 hgas (by decide) (by norm_num)]
    norm_num
  refine ⟨hprice, standsFor_tenth, ?_⟩
  rw [show (30 : Int) = (30 : Nat) from rfl, htext 30 hgas, hfee]
  refine congrArg Except.ok ?_
  decide +kernel

end ContractOps.Fee
