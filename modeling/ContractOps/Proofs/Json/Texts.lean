import ContractOps.Encoding.Utf8
import ContractOps.Json.Printer
import ContractOps.Json.Reader

/-!
# Printed texts read back

A text in quotes, printed with its characters as they are, is read back whatever follows it
(`scans_textBody_print`): an escape stands for the character that it was printed for, and everything
else for itself. Printed in ASCII, a text without halves of surrogate pairs is read back
(`scans_textBody_ascii`), because a character beyond sixteen bits is escaped as a pair, and two
escapes that make up a pair are read as one character.
-/

namespace ContractOps.Json

/-- A scanning step succeeds with a value and leaves a rest. -/
def Scans {α : Type} {cs : WideText} (step : Except ScanFault (Scanned α cs)) (a : α)
    (rest : WideText) : Prop :=
  ∃ h, step = .ok (a, ⟨rest, h⟩)

/-- A step succeeds with one value. -/
theorem Scans.unique {α : Type} {cs : WideText} {step : Except ScanFault (Scanned α cs)}
    {a a' : α} {rest rest' : WideText} (h : Scans step a rest) (h' : Scans step a' rest') :
    a = a' := by
  obtain ⟨_, h⟩ := h
  obtain ⟨_, h'⟩ := h'
  cases h.symm.trans h'
  rfl

/-! ## One step of a text -/

variable {start rest after body : WideText} {c : CodePoint}

theorem scans_textBody_quote (start rest : WideText) :
    Scans (textBody start (.char '"' :: rest)) [] rest := by
  refine ⟨by simp, ?_⟩
  rw [textBody]

/-- A character that needs no escape stands for itself. -/
theorem scans_textBody_cons (hquote : c ≠ .char '"') (hslash : c ≠ .char '\\')
    (hcontrol : 0x20 ≤ c.toNat) (h : Scans (textBody start rest) body after) :
    Scans (textBody start (c :: rest)) (c :: body) after := by
  obtain ⟨hlt, h⟩ := h
  refine ⟨by simp only [List.length_cons]; omega, ?_⟩
  rw [textBody, if_neg (by omega), h]
  · exact hquote
  · exact hslash

/-- An escape of one letter stands for its character. -/
theorem scans_textBody_escape {letter d : Char} (hletter : letter ≠ 'u')
    (hescape : simpleEscape? letter = some d) (h : Scans (textBody start rest) body after) :
    Scans (textBody start (.char '\\' :: .char letter :: rest)) (.char d :: body) after := by
  obtain ⟨hlt, h⟩ := h
  refine ⟨by simp only [List.length_cons]; omega, ?_⟩
  rw [textBody]
  · simp [CodePoint.char?, hescape, h]
  · simpa using hletter

/-- A unicode escape stands for its code point. -/
theorem scans_textBody_unicode {digits between : WideText}
    (hpoint : Scans (unicodeEscape (.char 'u' :: digits)) c between)
    (h : Scans (textBody start between) body after) :
    Scans (textBody start (.char '\\' :: .char 'u' :: digits)) (c :: body) after := by
  obtain ⟨hlt, hpoint⟩ := hpoint
  obtain ⟨hlt', h⟩ := h
  have hshorter : after.length < (CodePoint.char '\\' :: .char 'u' :: digits).length := by
    rw [List.length_cons, List.length_cons] at *
    omega
  refine ⟨hshorter, ?_⟩
  rw [textBody, hpoint]
  simp [h]

/-! ## Printed texts -/

/-- Four hexadecimal digits are read back. -/
theorem hex4?_padded {n : Nat} (h : n < 0x10000) :
    ∃ a b c d, Hex.padded 4 n = [a, b, c, d] ∧
      hex4? [.char a, .char b, .char c, .char d] = some n := by
  refine ⟨_, _, _, _, rfl, ?_⟩
  rw [hex4?, Hex.value?_digit (by omega), Hex.value?_digit (by omega),
    Hex.value?_digit (by omega), Hex.value?_digit (by omega)]
  simp only [Option.bind_eq_bind, Option.bind_some]
  show some _ = some _
  congr 1
  omega

/-- The number of a character is that of no half of a surrogate pair. -/
theorem ofNat_toNat_char (d : Char) :
    CodePoint.isHighHalf d.toNat = false ∧ CodePoint.ofNat d.toNat = .char d := by
  have hvalid : d.toNat < 0xd800 ∨ 0xdfff < d.toNat := by
    have h : d.toNat.isValidChar := d.valid
    rcases h with h | h
    · exact .inl h
    · exact .inr h.1
  constructor
  · simp only [CodePoint.isHighHalf, Bool.and_eq_false_iff, decide_eq_false_iff_not]
    omega
  · rw [CodePoint.ofNat, dif_neg (by omega), Char.ofNat_toNat]

/-- The escape of a character of sixteen bits stands for it. -/
theorem scans_unitEscape {d : Char} (hd : d.toNat < 0x10000) (next : CodePoint) (rest : WideText) :
    Scans (unicodeEscape (.char 'u' :: (WideText.ofChars (Hex.padded 4 d.toNat) ++ next :: rest)))
      (.char d) (next :: rest) := by
  obtain ⟨a, b, c, e, hpadded, hvalue⟩ := hex4?_padded hd
  obtain ⟨hhigh, hpoint⟩ := ofNat_toNat_char d
  rw [hpadded]
  refine ⟨by simp [WideText.ofChars], ?_⟩
  show unicodeEscape (.char 'u' :: .char a :: .char b :: .char c :: .char e :: next :: rest) = _
  rw [unicodeEscape, hvalue]
  simp only [hhigh, hpoint, Bool.false_eq_true, if_false]
  rfl

/-- The escapes of the two halves of a pair stand for the character that they make up. -/
theorem scans_pairEscape {high low : Nat} {d : Char} (hhigh : CodePoint.isHighHalf high = true)
    (hlow : CodePoint.isLowHalf low = true) (hjoin : CodePoint.join high low = d.toNat)
    (next : CodePoint) (rest : WideText) :
    Scans (unicodeEscape (.char 'u' :: (WideText.ofChars (Hex.padded 4 high) ++
        (WideText.ofChars (unitEscape low) ++ next :: rest)))) (.char d) (next :: rest) := by
  simp only [CodePoint.isHighHalf, CodePoint.isLowHalf, Bool.and_eq_true, decide_eq_true_eq]
    at hhigh hlow
  obtain ⟨a, b, c, e, hfirst, hvalue⟩ := hex4?_padded (n := high) (by omega)
  obtain ⟨a', b', c', e', hsecond, hvalue'⟩ := hex4?_padded (n := low) (by omega)
  rw [unitEscape, hfirst, hsecond]
  refine ⟨by simp [WideText.ofChars], ?_⟩
  show unicodeEscape (.char 'u' :: .char a :: .char b :: .char c :: .char e :: .char '\\' ::
    .char 'u' :: .char a' :: .char b' :: .char c' :: .char e' :: next :: rest) = _
  have hisHigh : CodePoint.isHighHalf high = true := by simpa [CodePoint.isHighHalf] using hhigh
  have hisLow : CodePoint.isLowHalf low = true := by simpa [CodePoint.isLowHalf] using hlow
  rw [unicodeEscape, hvalue]
  simp only [hisHigh, if_true]
  rw [secondHalf, hvalue']
  simp only [hisLow, if_true, hjoin, (ofNat_toNat_char d).2]
  rfl

/-- A character beyond sixteen bits is made up of two halves. -/
theorem exists_halves {d : Char} (h : 0x10000 ≤ d.toNat) :
    ∃ high low, CodePoint.isHighHalf high = true ∧ CodePoint.isLowHalf low = true ∧
      CodePoint.join high low = d.toNat ∧ wideEscape d = unitEscape high ++ unitEscape low := by
  have hlt : d.toNat < 0x110000 := Utf8.toNat_lt d
  refine ⟨0xd800 + (d.toNat - 0x10000) / 0x400, 0xdc00 + (d.toNat - 0x10000) % 0x400, ?_, ?_, ?_,
    by simp only [wideEscape, Nat.not_lt.mpr h, if_false]⟩
  · simp only [CodePoint.isHighHalf, Bool.and_eq_true, decide_eq_true_eq]
    omega
  · simp only [CodePoint.isLowHalf, Bool.and_eq_true, decide_eq_true_eq]
    omega
  · unfold CodePoint.join
    omega

/-- The four ways of printing a character: with an escape of one letter, with one or two unicode
escapes, which only controls have if not all is printed in ASCII, and as it is. -/
theorem printChar_cases (ascii : Bool) (d : Char) :
    (∃ letter, letter ≠ 'u' ∧ simpleEscape? letter = some d ∧
      printChar ascii d = ['\\', letter]) ∨
    (ascii = true ∨ d.toNat < 0x20) ∧ d.toNat < 0x10000 ∧ printChar ascii d = unitEscape d.toNat ∨
    ascii = true ∧ 0x10000 ≤ d.toNat ∧ printChar ascii d = wideEscape d ∨
    d ≠ '"' ∧ d ≠ '\\' ∧ 0x20 ≤ d.toNat ∧ printChar ascii d = [d] := by
  rw [printChar]
  split
  · next hd =>
    subst hd
    exact .inl ⟨'"', by decide, rfl, rfl⟩
  split
  · next hd =>
    subst hd
    exact .inl ⟨'\\', by decide, rfl, rfl⟩
  split
  · next hd =>
    subst hd
    exact .inl ⟨'n', by decide, rfl, rfl⟩
  split
  · next hd =>
    subst hd
    exact .inl ⟨'r', by decide, rfl, rfl⟩
  split
  · next hd =>
    subst hd
    exact .inl ⟨'t', by decide, rfl, rfl⟩
  split
  · next hd =>
    subst hd
    exact .inl ⟨'b', by decide, rfl, rfl⟩
  split
  · next hd =>
    subst hd
    exact .inl ⟨'f', by decide, rfl, rfl⟩
  split
  · next hcontrol => exact .inr (.inl ⟨.inr hcontrol, by omega, rfl⟩)
  split
  · next hwide =>
    have hascii : ascii = true := (Bool.and_eq_true_iff.mp hwide).1
    by_cases hunit : d.toNat < 0x10000
    · exact .inr (.inl ⟨.inl hascii, hunit, if_pos hunit⟩)
    · exact .inr (.inr (.inl ⟨hascii, Nat.le_of_not_lt hunit, rfl⟩))
  · next hquote hslash _ _ _ _ _ hcontrol _ =>
    exact .inr (.inr (.inr ⟨hquote, hslash, Nat.le_of_not_lt hcontrol, rfl⟩))

/-- A printed character is read back in front of a text. -/
theorem scans_printChar (ascii : Bool) {d : Char} (h : Scans (textBody start rest) body after)
    (hrest : rest ≠ []) :
    Scans (textBody start (WideText.ofChars (printChar ascii d) ++ rest)) (.char d :: body)
      after := by
  obtain ⟨next, rest, rfl⟩ := List.exists_cons_of_ne_nil hrest
  rcases printChar_cases ascii d with ⟨letter, hletter, hescape, hprinted⟩ |
    ⟨_, hunit, hprinted⟩ | ⟨_, hpair, hprinted⟩ | ⟨hquote, hslash, hcontrol, hprinted⟩
  · rw [hprinted]
    exact scans_textBody_escape hletter hescape h
  · rw [hprinted]
    exact scans_textBody_unicode (scans_unitEscape hunit next rest) h
  · obtain ⟨high, low, hhigh, hlow, hjoin, hescape⟩ := exists_halves hpair
    rw [hprinted, hescape, WideText.ofChars_append, List.append_assoc]
    exact scans_textBody_unicode (scans_pairEscape hhigh hlow hjoin next rest) h
  · rw [hprinted]
    exact scans_textBody_cons (by simpa using hquote) (by simpa using hslash) hcontrol h

theorem scans_printPoint (h : Scans (textBody start rest) body after) (hrest : rest ≠ []) :
    Scans (textBody start (printPoint false c ++ rest)) (c :: body) after := by
  cases c with
  | char d => exact scans_printChar false h hrest
  | half n =>
    refine scans_textBody_cons (by simp) (by simp) ?_ h
    rw [CodePoint.toNat]
    omega

theorem scans_textBody_print (start s rest : WideText) :
    Scans (textBody start (s.flatMap (printPoint false) ++ .char '"' :: rest)) s rest := by
  induction s with
  | nil => exact scans_textBody_quote start rest
  | cons c s ih =>
    rw [List.flatMap_cons, List.append_assoc]
    exact scans_printPoint ih (by simp)

theorem scans_textBody_ascii (start : WideText) (chars : List Char) (rest : WideText) :
    Scans (textBody start ((WideText.ofChars chars).flatMap (printPoint true) ++ .char '"' :: rest))
      (.ofChars chars) rest := by
  induction chars with
  | nil => exact scans_textBody_quote start rest
  | cons d chars ih =>
    show Scans (textBody start ((CodePoint.char d :: WideText.ofChars chars).flatMap _ ++ _)) _ _
    rw [List.flatMap_cons, List.append_assoc]
    exact scans_printChar true ih (by simp)

end ContractOps.Json
