import ContractOps.Proofs.Numeral.Spelling

/-!
# Printed double precision numbers

What is printed for a double precision number is read back (`scans_atom_float`): the text of a
decimal number with a point or an exponent is read as this number (`denotes_of_spells`), and the
shortest digits stand for the double precision number.
-/

namespace ContractOps.Json

variable {cs left : WideText} {places : List Char} {power : Int}

/-! ## Numerals with a point or an exponent -/

/-- A fraction or an exponent or both, to the end of the text. -/
inductive EndsFloat (left : WideText) : List Char → Int → Prop
  | fraction {places : List Char} (h : fractionPart left = some (places, [])) :
    EndsFloat left places 0
  | exponent {power : Int} (hpoint : fractionPart left = none)
      (h : exponentPart left = some (power, [])) :
    EndsFloat left [] power
  | both {places : List Char} {between : WideText} {power : Int}
      (hplaces : fractionPart left = some (places, between))
      (h : exponentPart between = some (power, [])) :
    EndsFloat left places power

theorem number?_float {negative : Bool} {body : WideText} {whole : List Char}
    (hsign : dropMinus cs = (negative, body)) (hwhole : wholePart body = some (whole, left))
    (hleft : EndsFloat left places power) :
    number? cs = some (.ok (.float (Binary64.ofDecimal negative (Digits.ofChars (whole ++ places))
      (Digits.count (Digits.ofChars (whole ++ places))) (power - places.length)), [])) := by
  have hexponent : exponentPart [] = none := rfl
  rw [number?, hsign]
  cases hleft with
  | fraction hplaces => simp [hwhole, hplaces, hexponent]
  | exponent hpoint hpower => simp [hwhole, hpoint, hpower]
  | both hplaces hpower => simp [hwhole, hplaces, hpower]

/-- A text that is read as an integer part begins with a digit. -/
theorem exists_digit_of_wholePart {part : List Char × WideText} (h : wholePart cs = some part) :
    ∃ d cs', cs = .char d :: cs' ∧ Digits.isDigit d = true := by
  rcases cs with _ | ⟨c, cs⟩
  · cases h
  · cases hc : c.is Digits.isDigit with
    | true =>
      cases c with
      | char d => exact ⟨d, cs, rfl, hc⟩
      | half n => cases hc
    | false =>
      have hne : c ≠ .char '0' := by
        rintro rfl
        cases hc
      rw [wholePart_of_ne hne, digits_other hc] at h
      cases h

/-- Digits with a point or an exponent behind the first of them, which are read as those of a
decimal number. -/
def Denotes (cs : List Char) (d : Binary64.Scientific) : Prop :=
  ∃ whole left places power, wholePart (WideText.ofChars cs) = some (whole, left) ∧
    EndsFloat left places power ∧
    ∀ negative, Binary64.ofDecimal negative (Digits.ofChars (whole ++ places))
        (Digits.count (Digits.ofChars (whole ++ places))) (power - places.length) =
      Binary64.ofDecimal negative d.coefficient (Digits.count d.coefficient) d.exponent

theorem is_head?_ofChars {p : Char → Bool} {cs : List Char} (h : ∀ c ∈ cs.head?, p c = false) :
    ∀ c ∈ (WideText.ofChars cs).head?, c.is p = false := by
  intro c hc
  rw [WideText.ofChars, List.head?_map] at hc
  obtain ⟨d, hd, rfl⟩ := Option.map_eq_some_iff.mp hc
  exact h d hd

/-- The digits in front of the point are read up to where they end. -/
theorem wholePart_body (s : Spelling) (hleading : ∀ ds, s.whole = '0' :: ds → ds = []) :
    wholePart (WideText.ofChars s.body) =
      some (s.whole, WideText.ofChars (s.fraction ++ s.powerText)) := by
  have hdigits := s.isDigit_whole
  obtain ⟨first, ds, hds⟩ := List.exists_cons_of_ne_nil s.whole_ne_nil
  rw [Spelling.body, WideText.ofChars_append]
  rw [hds] at hdigits hleading ⊢
  exact wholePart_ofChars hdigits (fun hfirst => hleading ds (by rw [hfirst]))
    (is_head?_ofChars s.isDigit_head?_fraction)

theorem exponentPart_powerText (s : Spelling) (hpower : s.power ≠ none) :
    exponentPart (WideText.ofChars s.powerText) = some (s.powerValue, []) := by
  obtain ⟨⟨negative, digits⟩, hsome⟩ := Option.ne_none_iff_exists'.mp hpower
  obtain ⟨hne, hdigits⟩ := s.isDigit_power _ hsome
  rw [Spelling.powerText, Spelling.powerValue, hsome]
  exact exponentPart_ofChars negative hdigits hne

theorem endsFloat_spelling (s : Spelling) (hfloat : s.places ≠ [] ∨ s.power ≠ none) :
    EndsFloat (WideText.ofChars (s.fraction ++ s.powerText)) s.places s.powerValue := by
  by_cases hpoint : s.places = []
  · have hpower := hfloat.resolve_left (not_not_intro hpoint)
    rw [Spelling.fraction_of_nil hpoint, List.nil_append, hpoint]
    refine .exponent ?_ (exponentPart_powerText s hpower)
    rw [Spelling.powerText]
    split <;> simp [WideText.ofChars, fractionPart]
  · have hplaces : fractionPart (WideText.ofChars (s.fraction ++ s.powerText)) =
        some (s.places, WideText.ofChars s.powerText) := by
      rw [Spelling.fraction_of_ne_nil hpoint, List.cons_append, ← List.singleton_append,
        WideText.ofChars_append, WideText.ofChars_append]
      exact fractionPart_ofChars s.isDigit_places hpoint
        (is_head?_ofChars s.isDigit_head?_powerText)
    by_cases hpower : s.power = none
    · have htext : s.powerText = [] := by rw [Spelling.powerText, hpower]
      have hvalue : s.powerValue = 0 := by rw [Spelling.powerValue, hpower]
      rw [htext] at hplaces
      rw [hvalue, htext]
      exact .fraction hplaces
    · exact .both hplaces (exponentPart_powerText s hpower)

/-- The text of a decimal number denotes it. -/
theorem denotes_of_spells {s : Spelling} {cs : List Char} {d : Binary64.Scientific}
    (h : s.Spells cs d) : Denotes cs d := by
  obtain ⟨rfl, hfloat, hleading, k, hcoefficient, hexponent, _⟩ := h
  refine ⟨s.whole, _, s.places, s.powerValue, wholePart_body s hleading,
    endsFloat_spelling s hfloat, fun negative => ?_⟩
  show Binary64.ofDecimal negative s.coefficient (Digits.count s.coefficient) s.exponent = _
  rw [hcoefficient, hexponent, Binary64.ofDecimal_mul_pow]

/-! ## Printed numbers -/

/-- The text of a finite number without its sign denotes the number. -/
theorem exists_denotes (negative : Bool) {significand : Nat} {exponent : Int}
    (canonical : Binary64.Canonical significand exponent) :
    ∃ d, Denotes (if significand = 0 then ['0', '.', '0']
        else Binary64.layOut (Binary64.shortest (.finite false significand exponent canonical))) d ∧
      Binary64.ofDecimal negative d.coefficient (Digits.count d.coefficient) d.exponent =
        .finite negative significand exponent canonical := by
  obtain ⟨s, d, _, hspells, ⟨rfl, rfl⟩ | ⟨hpositive, rfl⟩⟩ :=
    Spelling.exists_spells negative canonical
  · obtain rfl : exponent = -1074 := by
      obtain ⟨_, _, ⟨hlarge, _⟩ | hleast⟩ := canonical
      · exact absurd hlarge (by decide)
      · exact hleast
    exact ⟨_, denotes_of_spells hspells, rfl⟩
  · exact ⟨_, denotes_of_spells hspells, Binary64.ofDecimal_shortest negative hpositive canonical⟩

/-- What is printed for a double precision number is read back. -/
theorem scans_atom_float (x : Binary64) : Scans (atom (printFloat x)) (.float x) [] := by
  cases x with
  | nan => exact ⟨by decide, rfl⟩
  | infinite negative => cases negative <;> exact ⟨by decide, rfl⟩
  | finite negative significand exponent canonical =>
    obtain ⟨d, ⟨whole, left, places, power, hwhole, hleft, hread⟩, hvalue⟩ :=
      exists_denotes negative canonical
    have htext : printFloat (.finite negative significand exponent canonical) =
        WideText.ofChars (signText negative) ++ WideText.ofChars (if significand = 0
          then ['0', '.', '0'] else Binary64.layOut
            (Binary64.shortest (.finite false significand exponent canonical))) := by
      rw [printFloat, Binary64.spell, WideText.ofChars_append]
      rfl
    rw [htext]
    obtain ⟨first, cs, hbody, hfirst⟩ := exists_digit_of_wholePart hwhole
    rw [hbody] at hwhole ⊢
    have hnumber := number?_float (dropMinus_signText negative hfirst cs) hwhole hleft
    rw [hread, hvalue] at hnumber
    exact scans_atom_numeral negative hfirst hnumber

end ContractOps.Json
