import ContractOps.Proofs.Json.Texts
import Mathlib.Data.List.Basic

/-!
# Numbers and words

Where a number or a word ends does not depend on what follows it, if that is white space, a comma or
a closing bracket (`Scans.atom_append`). A printed integer is read back (`scans_atom_int`).
-/

namespace ContractOps.Json

variable {cs rest : WideText}

/-! ## What follows a value -/

/-- Characters that may follow a value. -/
def isStop (c : Char) : Bool := c = ',' || c = ']' || c = '\x7d' || Text.isLayout c

/-- Nothing follows, or what may follow a value. -/
def Delimited (rest : WideText) : Prop := ∀ c ∈ rest.head?, c.is isStop = true

theorem Delimited.nil : Delimited [] := by
  intro c h
  cases h

theorem Delimited.cons {d : Char} (h : isStop d = true) (rest : WideText) :
    Delimited (.char d :: rest) := by
  intro c hc
  cases hc
  exact h

theorem Delimited.cases (h : Delimited rest) :
    rest = [] ∨ ∃ d rest', rest = .char d :: rest' ∧ isStop d = true := by
  cases rest with
  | nil => exact .inl rfl
  | cons c rest' =>
    cases c with
    | char d => exact .inr ⟨d, rest', rfl, h (.char d) rfl⟩
    | half n => cases h (.half n) rfl

/-- No number and no word goes on with a character that may follow a value. -/
theorem ne_of_isStop {c d : Char} (h : isStop d = true) (hc : isStop c = false) : d ≠ c := by
  rintro rfl
  rw [h] at hc
  cases hc

theorem isDigit_of_isStop {d : Char} (h : isStop d = true) : Digits.isDigit d = false := by
  simp only [isStop, Text.isLayout, Bool.or_eq_true, decide_eq_true_eq] at h
  rcases h with ((rfl | rfl) | rfl) | ((rfl | rfl) | rfl) | rfl <;> decide

/-! ## Where numbers and words end -/

/-- A part that was read, and what is left with more behind it. -/
def before {α : Type} (rest : WideText) (part : α × WideText) : α × WideText :=
  (part.1, part.2 ++ rest)

theorem digits_digit {d : Char} (h : Digits.isDigit d = true) (cs : WideText) :
    digits (.char d :: cs) = (d :: (digits cs).1, (digits cs).2) := by
  simp [digits, h, WideText.plain, CodePoint.char?]

theorem digits_other {c : CodePoint} (h : c.is Digits.isDigit = false) (cs : WideText) :
    digits (c :: cs) = ([], c :: cs) := by
  simp [digits, h, WideText.plain]

theorem digits_delimited (h : Delimited rest) : digits rest = ([], rest) := by
  rcases h.cases with rfl | ⟨d, rest', rfl, hd⟩
  · rfl
  · exact digits_other (c := .char d) (isDigit_of_isStop hd) rest'

theorem digits_append (cs : WideText) (h : Delimited rest) :
    digits (cs ++ rest) = before rest (digits cs) := by
  induction cs with
  | nil => exact digits_delimited h
  | cons c cs ih =>
    cases hc : c.is Digits.isDigit with
    | false =>
      rw [List.cons_append, digits_other hc, digits_other hc]
      rfl
    | true =>
      cases c with
      | half n => cases hc
      | char d =>
        rw [List.cons_append, digits_digit hc, digits_digit hc, ih]
        rfl

theorem dropMinus_append (cs : WideText) (h : Delimited rest) :
    dropMinus (cs ++ rest) = before rest (dropMinus cs) := by
  rcases cs with _ | ⟨c, cs⟩
  · rcases h.cases with rfl | ⟨d, rest', rfl, hd⟩
    · rfl
    · simp [dropMinus, before, ne_of_isStop (c := '-') hd (by decide)]
  · rw [List.cons_append, dropMinus.eq_def, dropMinus.eq_def (c :: cs)]
    split <;> simp_all [before]

/-- Digits that have to be there, in front of what follows. -/
theorem someDigits_append (cs : WideText) (h : Delimited rest) :
    (match digits (cs ++ rest) with
      | ([], _) => none
      | part => some part) =
    (match digits cs with
      | ([], _) => none
      | part => some part).map (before rest) := by
  rw [digits_append cs h]
  rcases digits cs with ⟨_ | ⟨d, ds⟩, left⟩ <;> rfl

theorem wholePart_of_ne {c : CodePoint} (h : c ≠ .char '0') (cs : WideText) :
    wholePart (c :: cs) =
      match digits (c :: cs) with
      | ([], _) => none
      | part => some part := by
  rw [wholePart.eq_def]
  split
  · next heq =>
    cases heq
    exact absurd rfl h
  · rfl

theorem wholePart_append (cs : WideText) (h : Delimited rest) :
    wholePart (cs ++ rest) = (wholePart cs).map (before rest) := by
  rcases cs with _ | ⟨c, cs⟩
  · rcases h.cases with rfl | ⟨d, rest', rfl, hd⟩
    · rfl
    · have hzero : (CodePoint.char d) ≠ .char '0' := by simp [ne_of_isStop (c := '0') hd (by decide)]
      rw [List.nil_append, wholePart_of_ne hzero, digits_delimited h]
      rfl
  · by_cases hzero : c = .char '0'
    · rw [hzero]
      rfl
    · rw [List.cons_append, wholePart_of_ne hzero, wholePart_of_ne hzero]
      exact someDigits_append (c :: cs) h

theorem fractionPart_append (cs : WideText) (h : Delimited rest) :
    fractionPart (cs ++ rest) = (fractionPart cs).map (before rest) := by
  rcases cs with _ | ⟨c, cs⟩
  · rcases h.cases with rfl | ⟨d, rest', rfl, hd⟩
    · rfl
    · simp [fractionPart, ne_of_isStop (c := '.') hd (by decide)]
  · rw [List.cons_append, fractionPart.eq_def, fractionPart.eq_def (c :: cs)]
    split
    · next heq =>
      cases heq
      exact someDigits_append cs h
    · next hpoint =>
      split
      · next heq =>
        cases heq
        exact absurd rfl (hpoint _)
      · rfl

theorem exponentSign_append (cs : WideText) (h : Delimited rest) :
    exponentSign (cs ++ rest) = before rest (exponentSign cs) := by
  rcases cs with _ | ⟨c, cs⟩
  · rcases h.cases with rfl | ⟨d, rest', rfl, hd⟩
    · rfl
    · simp [exponentSign, before, ne_of_isStop (c := '-') hd (by decide),
        ne_of_isStop (c := '+') hd (by decide)]
  · rw [List.cons_append, exponentSign.eq_def, exponentSign.eq_def (c :: cs)]
    split <;> simp_all [before]

theorem exponentPart_append (cs : WideText) (h : Delimited rest) :
    exponentPart (cs ++ rest) = (exponentPart cs).map (before rest) := by
  rcases cs with _ | ⟨c, cs⟩
  · rcases h.cases with rfl | ⟨d, rest', rfl, hd⟩
    · rfl
    · simp [exponentPart, ne_of_isStop (c := 'e') hd (by decide),
        ne_of_isStop (c := 'E') hd (by decide)]
  · cases c with
    | half n => rfl
    | char c =>
      rw [List.cons_append, exponentPart, exponentPart, exponentSign_append cs h]
      split
      · rcases exponentSign cs with ⟨negative, cs⟩
        simp only [before, digits_append cs h]
        rcases digits cs with ⟨_ | ⟨d, ds⟩, left⟩ <;> rfl
      · rfl

/-- A number that ends where the text ends also ends in front of what may follow a value. -/
theorem number?_append (cs : WideText) (h : Delimited rest) :
    number? (cs ++ rest) = (number? cs).map (Except.map (before rest)) := by
  rw [number?, number?, dropMinus_append cs h]
  rcases dropMinus cs with ⟨negative, cs⟩
  simp only [before, wholePart_append cs h]
  rcases wholePart cs with _ | ⟨whole, left⟩
  · rfl
  · simp only [Option.map_some, before, fractionPart_append left h]
    rcases fractionPart left with _ | ⟨places, left'⟩
    · simp only [Option.map_none, Option.getD_none, exponentPart_append left h]
      rcases exponentPart left with _ | ⟨power, left''⟩
      · simp only [Option.map_none, Option.isNone_none, Bool.and_self, if_true]
        split <;> rfl
      · rfl
    · simp only [Option.map_some, Option.getD_some, before, exponentPart_append left' h]
      rcases exponentPart left' with _ | ⟨power, left''⟩ <;> rfl

theorem afterWord?_append {word : WideText} (hword : ∀ c ∈ word, c.is isStop = false)
    (cs : WideText) (h : Delimited rest) :
    afterWord? word (cs ++ rest) = (afterWord? word cs).map (· ++ rest) := by
  induction word generalizing cs with
  | nil => rfl
  | cons w ws ih =>
    rcases cs with _ | ⟨c, cs⟩
    · rcases rest with _ | ⟨r, rest'⟩
      · rfl
      · have hne : w ≠ r := by
          rintro rfl
          have hstop := hword w List.mem_cons_self
          rw [h w rfl] at hstop
          cases hstop
        rw [List.nil_append, afterWord?, if_neg hne]
        rfl
    · rw [List.cons_append, afterWord?, afterWord?]
      split
      · exact ih (fun c hc => hword c (List.mem_cons_of_mem w hc)) cs
      · rfl

theorem word?_append (cs : WideText) (h : Delimited rest) :
    word? (cs ++ rest) = (word? cs).map (before rest) := by
  have hwords : ∀ p ∈ wordValues, ∀ c ∈ p.1, c.is isStop = false := by decide
  have hmatches : ∀ p ∈ wordValues, (afterWord? p.1 (cs ++ rest)).map (p.2, ·) =
      ((afterWord? p.1 cs).map (p.2, ·)).map (before rest) := by
    intro p hp
    rw [afterWord?_append (hwords p hp) cs h, Option.map_map, Option.map_map]
    rfl
  calc word? (cs ++ rest)
      = (wordValues.filterMap fun p => (afterWord? p.1 (cs ++ rest)).map (p.2, ·)).head? :=
        List.head?_filterMap.symm
    _ = ((wordValues.filterMap fun p => (afterWord? p.1 cs).map (p.2, ·)).map
          (before rest)).head? := by
        rw [List.map_filterMap, List.filterMap_congr hmatches]
    _ = (word? cs).map (before rest) := by
        rw [List.head?_map, List.head?_filterMap]
        rfl

/-- A word or a number that ends where the text ends also ends in front of what may follow. -/
theorem Scans.atom_append {v : Json} (h : Scans (atom cs) v []) (hrest : Delimited rest) :
    Scans (atom (cs ++ rest)) v rest := by
  obtain ⟨hlt, h⟩ := h
  have hlonger : rest.length < (cs ++ rest).length := by
    rw [List.length_append]
    simp only [List.length_nil] at hlt
    omega
  refine ⟨hlonger, ?_⟩
  rw [atom] at h ⊢
  rw [word?_append cs hrest]
  rcases hword : word? cs with _ | ⟨w, left⟩
  · rw [hword] at h
    dsimp only [Option.map_none] at h ⊢
    rw [number?_append cs hrest]
    rcases hnumber : number? cs with _ | e | ⟨w, left⟩
    · rw [hnumber] at h
      cases h
    · rw [hnumber] at h
      cases h
    · rw [hnumber] at h
      dsimp only at h
      split at h
      · cases h
        exact dif_pos hlonger
      · cases h
  · rw [hword] at h
    dsimp only at h
    split at h
    · cases h
      exact dif_pos hlonger
    · cases h

/-! ## Digits -/

theorem isDigit_char {n : Nat} (h : n < 10) : Digits.isDigit (Digits.char n) = true := by
  rw [Digits.isDigit, Digits.value?_char h]
  rfl

theorem isDigit_of_mem_ofNat {n : Nat} {c : Char} (h : c ∈ Digits.ofNat n) :
    Digits.isDigit c = true := by
  induction n using Digits.ofNat.induct with
  | case1 n hn =>
    rw [Digits.ofNat, if_pos hn, List.mem_singleton] at h
    rw [h]
    exact isDigit_char hn
  | case2 n hn ih =>
    rw [Digits.ofNat, if_neg hn, List.mem_append, List.mem_singleton] at h
    rcases h with h | rfl
    · exact ih h
    · exact isDigit_char (Nat.mod_lt n (by decide))

/-- Decimal notation starts with a zero only if it is one. -/
theorem head?_ofNat (n : Nat) :
    ∃ d ds, Digits.ofNat n = d :: ds ∧ (d = '0' → n = 0 ∧ ds = []) := by
  induction n using Digits.ofNat.induct with
  | case1 n hn =>
    rw [Digits.ofNat, if_pos hn]
    refine ⟨Digits.char n, [], rfl, fun hzero => ⟨?_, rfl⟩⟩
    have hvalue := Digits.value?_char hn
    rw [hzero] at hvalue
    exact (Option.some.inj hvalue).symm
  | case2 n hn ih =>
    rw [Digits.ofNat, if_neg hn]
    obtain ⟨d, ds, hds, hhead⟩ := ih
    refine ⟨d, ds ++ [Digits.char (n % 10)], by rw [hds]; rfl, fun hzero => ?_⟩
    have hsmall := (hhead hzero).1
    omega

/-- Digits are read up to where they end. -/
theorem digits_ofChars {ds : List Char} (hds : ∀ d ∈ ds, Digits.isDigit d = true)
    (hrest : ∀ c ∈ rest.head?, c.is Digits.isDigit = false) :
    digits (WideText.ofChars ds ++ rest) = (ds, rest) := by
  induction ds with
  | nil =>
    cases rest with
    | nil => rfl
    | cons c rest => exact digits_other (hrest c rfl) rest
  | cons d ds ih =>
    show digits (.char d :: (WideText.ofChars ds ++ rest)) = _
    rw [digits_digit (hds d List.mem_cons_self), ih fun c hc => hds c (List.mem_cons_of_mem d hc)]

/-- An integer part is read up to where its digits end, if it does not start with a zero too
many. -/
theorem wholePart_ofChars {d : Char} {ds : List Char} (hds : ∀ c ∈ d :: ds, Digits.isDigit c = true)
    (hzero : d = '0' → ds = []) (hrest : ∀ c ∈ rest.head?, c.is Digits.isDigit = false) :
    wholePart (WideText.ofChars (d :: ds) ++ rest) = some (d :: ds, rest) := by
  by_cases hd : d = '0'
  · rw [hzero hd, hd]
    rfl
  · have hdigits := digits_ofChars hds hrest
    have hne : CodePoint.char d ≠ .char '0' := by simp [hd]
    show wholePart (.char d :: (WideText.ofChars ds ++ rest)) = _
    rw [wholePart_of_ne hne]
    show (match digits (WideText.ofChars (d :: ds) ++ rest) with
      | ([], _) => none
      | part => some part) = _
    rw [hdigits]

theorem wholePart_ofNat (n : Nat) (hrest : ∀ c ∈ rest.head?, c.is Digits.isDigit = false) :
    wholePart (WideText.ofChars (Digits.ofNat n) ++ rest) = some (Digits.ofNat n, rest) := by
  obtain ⟨d, ds, hds, hzero⟩ := head?_ofNat n
  have hdigits : ∀ c ∈ Digits.ofNat n, Digits.isDigit c = true := fun c => isDigit_of_mem_ofNat
  rw [hds] at hdigits ⊢
  exact wholePart_ofChars hdigits (fun h => (hzero h).2) hrest

theorem fractionPart_ofChars {ds : List Char} (hds : ∀ d ∈ ds, Digits.isDigit d = true)
    (hne : ds ≠ []) (hrest : ∀ c ∈ rest.head?, c.is Digits.isDigit = false) :
    fractionPart (.char '.' :: (WideText.ofChars ds ++ rest)) = some (ds, rest) := by
  obtain ⟨d, ds, rfl⟩ := List.exists_cons_of_ne_nil hne
  rw [fractionPart, digits_ofChars hds hrest]

theorem exponentPart_ofChars (negative : Bool) {ds : List Char}
    (hds : ∀ d ∈ ds, Digits.isDigit d = true) (hne : ds ≠ []) :
    exponentPart (.char 'e' :: .char (if negative then '-' else '+') :: WideText.ofChars ds) =
      some (if negative then -(Digits.ofChars ds : Int) else Digits.ofChars ds, []) := by
  obtain ⟨d, ds, rfl⟩ := List.exists_cons_of_ne_nil hne
  have hdigits : digits (WideText.ofChars (d :: ds)) = (d :: ds, []) := by
    have hread : digits (WideText.ofChars (d :: ds) ++ []) = (d :: ds, []) :=
      digits_ofChars hds (by simp)
    rwa [List.append_nil] at hread
  rw [exponentPart, if_pos (.inl rfl)]
  cases negative <;> simp [exponentSign, hdigits]

/-! ## Signs -/

/-- A minus sign or none. -/
def signText (negative : Bool) : List Char := if negative then ['-'] else []

theorem ne_of_isDigit {c d : Char} (h : Digits.isDigit d = true) (hc : Digits.isDigit c = false) :
    d ≠ c := by
  rintro rfl
  rw [h] at hc
  cases hc

/-- The digits of a numeral come after its sign. -/
theorem dropMinus_signText (negative : Bool) {d : Char} (hd : Digits.isDigit d = true)
    (cs : WideText) :
    dropMinus (WideText.ofChars (signText negative) ++ .char d :: cs) =
      (negative, .char d :: cs) := by
  cases negative with
  | true => rfl
  | false =>
    have hminus : d ≠ '-' := ne_of_isDigit hd (by decide)
    simp [signText, WideText.ofChars, dropMinus, hminus]

/-- A numeral is no word. -/
theorem word?_signText (negative : Bool) {d : Char} (hd : Digits.isDigit d = true) (cs : WideText) :
    word? (WideText.ofChars (signText negative) ++ .char d :: cs) = none := by
  have hletter : ∀ c : Char, Digits.isDigit c = false → c ≠ d :=
    fun c hc => (ne_of_isDigit hd hc).symm
  rw [word?, List.findSome?_eq_none_iff]
  cases negative <;>
    simp [wordValues, WideText.ofString, WideText.ofChars, signText, afterWord?,
      hletter 'n' (by decide), hletter 't' (by decide), hletter 'f' (by decide),
      hletter 'N' (by decide), hletter 'I' (by decide), hletter '-' (by decide)]

/-- A numeral that is read as a number to its end is a whole value. -/
theorem scans_atom_numeral (negative : Bool) {d : Char} (hd : Digits.isDigit d = true) {v : Json}
    (h : number? (WideText.ofChars (signText negative) ++ .char d :: cs) = some (.ok (v, []))) :
    Scans (atom (WideText.ofChars (signText negative) ++ .char d :: cs)) v [] := by
  have hlonger : ([] : WideText).length <
      (WideText.ofChars (signText negative) ++ .char d :: cs).length := by
    rw [List.length_append, List.length_cons, List.length_nil]
    omega
  refine ⟨hlonger, ?_⟩
  rw [atom, word?_signText negative hd, h]
  exact dif_pos hlonger

/-! ## Integers -/

/-- An integer as its sign and its digits. -/
theorem ofInt_eq (n : Int) :
    Digits.ofInt n = signText (decide (n < 0)) ++ Digits.ofNat n.natAbs := by
  cases n with
  | ofNat n => rfl
  | negSucc n => simp [Digits.ofInt, signText, Int.negSucc_lt_zero]

/-- A sign does not count as a digit. -/
theorem ofChars_ofInt (n : Int) : Digits.ofChars (Digits.ofInt n) = n.natAbs := by
  calc Digits.ofChars (Digits.ofInt n)
      = Digits.ofChars (Digits.ofNat n.natAbs) := by
        rw [ofInt_eq]
        cases decide (n < 0) <;> rfl
    _ = n.natAbs := Digits.ofChars_ofNat n.natAbs

theorem head?_ofInt_iff (n : Int) : (Digits.ofInt n).head? = some '-' ↔ n < 0 := by
  obtain ⟨d, ds, hds, _⟩ := head?_ofNat n.natAbs
  have hd : d ≠ '-' :=
    ne_of_isDigit (isDigit_of_mem_ofNat (hds ▸ List.mem_cons_self)) (by decide)
  rw [ofInt_eq, hds]
  by_cases hn : n < 0 <;> simp [signText, hn, hd]

/-- Different integers are written differently. -/
theorem ofInt_inj {n m : Int} : Digits.ofInt n = Digits.ofInt m ↔ n = m := by
  refine ⟨fun h => ?_, fun h => h ▸ rfl⟩
  have habs : n.natAbs = m.natAbs := by rw [← ofChars_ofInt, h, ofChars_ofInt]
  have hsign : n < 0 ↔ m < 0 := by rw [← head?_ofInt_iff, h, head?_ofInt_iff]
  omega

theorem text_inj {n m : Int} : Digits.text n = Digits.text m ↔ n = m := by
  rw [Digits.text, Digits.text, String.ofList_inj, ofInt_inj]

theorem number?_int {negative : Bool} {body : WideText} {whole : List Char}
    (hsign : dropMinus cs = (negative, body)) (hwhole : wholePart body = some (whole, []))
    (hshort : whole.length ≤ Numeral.maxDigits) :
    number? cs = some (.ok (.int (if negative then -(Digits.ofChars whole : Int)
      else Digits.ofChars whole), [])) := by
  have hfraction : fractionPart [] = none := rfl
  have hexponent : exponentPart [] = none := rfl
  rw [number?, hsign]
  simp only [hwhole, hfraction, hexponent, Option.map_none, Option.getD_none, Option.isNone_none,
    Bool.and_self, if_true]
  rw [if_neg (by omega)]

/-- An integer is read back, if it has no more digits than are read. -/
theorem scans_atom_int {n : Int} (hn : Digits.count n.natAbs ≤ Numeral.maxDigits) :
    Scans (atom (WideText.ofChars (Digits.ofInt n))) (.int n) [] := by
  obtain ⟨d, ds, hds, _⟩ := head?_ofNat n.natAbs
  have hd : Digits.isDigit d = true := isDigit_of_mem_ofNat (hds ▸ List.mem_cons_self)
  have hwhole : wholePart (.char d :: WideText.ofChars ds) = some (Digits.ofNat n.natAbs, []) := by
    have hread : wholePart (WideText.ofChars (Digits.ofNat n.natAbs) ++ []) =
        some (Digits.ofNat n.natAbs, []) := wholePart_ofNat n.natAbs (by simp)
    rw [List.append_nil] at hread
    rw [← hread, hds]
    rfl
  have hshort : (Digits.ofNat n.natAbs).length ≤ Numeral.maxDigits := by
    rw [Digits.length_ofNat]
    exact hn
  have hsigned : (if decide (n < 0) then -(n.natAbs : Int) else n.natAbs) = n := by
    simp only [decide_eq_true_eq]
    omega
  have hnumber := number?_int (dropMinus_signText (decide (n < 0)) hd _) hwhole hshort
  rw [Digits.ofChars_ofNat, hsigned] at hnumber
  rw [ofInt_eq, WideText.ofChars_append, hds]
  exact scans_atom_numeral _ hd hnumber

end ContractOps.Json
