import ContractOps.Proofs.Tx.Reports

/-!
# Code ids that cannot be read

Events may show any text as a code id. A text that is made of decimal digits, of whatever script, is
the number that it denotes, and a text with a character that is no digit counts as zero. Between the
two stand texts that pass for a number and cannot be read as one (`Misleading`), because a digit
need not be decimal and because there are limits to the number of digits. The code ids of events are
read if none of the texts that count is misleading (`codeIdsOfEvents_legible`), and are a fault
otherwise (`codeIdsOfEvents_misleading`).
-/

namespace ContractOps.Text

/-! ## Digits of every script -/

/-- A character lies in one of the ranges of a table. -/
theorem Ranges.has_iff {table : Ranges} {c : Char} :
    table.has c = true ↔ ∃ r ∈ table, r.1 ≤ c.toNat ∧ c.toNat ≤ r.2 := by
  simp [Ranges.has]

/-- Tables whose ranges do not meet have no character in common. -/
theorem Ranges.not_has_of_apart {table other : Ranges} {c : Char}
    (h : ∀ r ∈ table, ∀ s ∈ other, r.2 < s.1 ∨ s.2 < r.1) (hc : table.has c = true) :
    other.has c = false := by
  obtain ⟨r, hr, hlow, hhigh⟩ := Ranges.has_iff.mp hc
  apply Bool.eq_false_iff.mpr
  intro hother
  obtain ⟨s, hs, hlow', hhigh'⟩ := Ranges.has_iff.mp hother
  have := h r hr s hs
  omega

/-- The decimal digits of every script. -/
def decimals : Ranges := zeros.map fun z => (z, z + 9)

theorem decimalValue_eq_some {c : Char} {d : Nat} (h : decimalValue c = some d) :
    ∃ z ∈ zeros, c.toNat = z + d ∧ d < 10 := by
  obtain ⟨z, hfind, rfl⟩ := Option.map_eq_some_iff.mp h
  have hrange := List.find?_some hfind
  simp only [Bool.and_eq_true, decide_eq_true_eq] at hrange
  exact ⟨z, List.mem_of_find?_eq_some hfind, by omega, by omega⟩

theorem has_decimals {c : Char} (h : isDecimal c = true) : decimals.has c = true := by
  obtain ⟨d, hd⟩ := Option.isSome_iff_exists.mp h
  obtain ⟨z, hz, hvalue, hlt⟩ := decimalValue_eq_some hd
  refine Ranges.has_iff.mpr ⟨(z, z + 9), List.mem_map_of_mem hz, ?_, ?_⟩
  · show z ≤ c.toNat
    omega
  · show c.toNat ≤ z + 9
    omega

/-- A digit is no blank. -/
theorem isNumeralBlank_of_isDigitLike {c : Char} (h : isDigitLike c = true) :
    isNumeralBlank c = false := by
  have hblank : isBlank c = false := by
    rcases Bool.or_eq_true_iff.mp h with hdecimal | hother
    · exact Ranges.not_has_of_apart (by decide) (has_decimals hdecimal)
    · exact Ranges.not_has_of_apart (by decide) hother
  rw [isNumeralBlank, hblank, Bool.false_and]

/-- The ASCII digit of the same value, and a question mark in place of what has none. -/
def asciiDigit (c : Char) : Char :=
  match decimalValue c with
  | some d => Digits.char d
  | none => '?'

theorem value?_asciiDigit (c : Char) : Digits.value? (asciiDigit c) = decimalValue c := by
  rw [asciiDigit]
  cases hvalue : decimalValue c with
  | none => rfl
  | some d =>
    obtain ⟨_, _, _, hlt⟩ := decimalValue_eq_some hvalue
    exact Digits.value?_char hlt

theorem isDigit_asciiDigit (c : Char) : Digits.isDigit (asciiDigit c) = isDecimal c := by
  rw [Digits.isDigit, value?_asciiDigit, isDecimal]

theorem asciiDigit_ne (c : Char) {other : Char} (hdigit : Digits.isDigit other = false)
    (hmark : other ≠ '?') : asciiDigit c ≠ other := by
  intro heq
  have hdecimal := isDigit_asciiDigit c
  rw [heq, hdigit] at hdecimal
  have hnone : decimalValue c = none := by simpa [isDecimal] using hdecimal.symm
  rw [asciiDigit, hnone] at heq
  exact hmark heq.symm

/-- A digit in ASCII is one of the ten. -/
theorem asciiDigit_of_lt {c : Char} (h : isDigitLike c = true) (hlt : c.toNat < 128) :
    asciiDigit c = c := by
  rw [asciiDigit]
  cases hvalue : decimalValue c with
  | none =>
    have hother : nonDecimalDigits.has c = true := by
      rw [isDigitLike, isDecimal, hvalue] at h
      exact h
    have hhigh : Ranges.has [(0, 127)] c = false := Ranges.not_has_of_apart (by decide) hother
    have hlow : Ranges.has [(0, 127)] c = true :=
      Ranges.has_iff.mpr ⟨(0, 127), List.mem_singleton_self _, Nat.zero_le _, by omega⟩
    rw [hlow] at hhigh
    cases hhigh
  | some d =>
    obtain ⟨z, hz, hsum, _⟩ := decimalValue_eq_some hvalue
    have hfirst : ∀ z ∈ zeros, z < 128 → z = 48 := by decide
    show Digits.char d = c
    rw [Digits.char, ← hfirst z hz (by omega), ← hsum, Char.ofNat_toNat]

end ContractOps.Text

namespace ContractOps.TxResult

open Text (isDecimal isDigitLike decimalValue asciiDigit)

/-! ## Texts as code ids -/

/-- Decimal digits of whatever script, at least one. -/
def IsNumeric (w : WideText) : Prop := w ≠ [] ∧ ∀ c ∈ w, c.is isDecimal = true

instance (w : WideText) : Decidable (IsNumeric w) :=
  inferInstanceAs (Decidable (w ≠ [] ∧ ∀ c ∈ w, c.is isDecimal = true))

/-- The number that decimal digits denote. -/
def numericValue (w : WideText) : Int := Digits.value (w.plain.filterMap decimalValue)

/-- The code id that a text shows: that of a text that is not numeric is zero. -/
def textId (w : WideText) : Int := if IsNumeric w then numericValue w else 0

/-- Digits in the wide sense, of which one is not decimal, or which are too many to be read. -/
structure Misleading (w : WideText) : Prop where
  digits : ∀ c ∈ w, c.is isDigitLike = true
  unread : (∃ c ∈ w, c.is isDecimal = false) ∨ Numeral.maxDigits < w.length

/-- A text that is all of a class of characters has no half of a surrogate pair. -/
theorem exists_chars_of_is {p : Char → Bool} {w : WideText} (h : ∀ c ∈ w, c.is p = true) :
    ∃ cs : List Char, w = .ofChars cs ∧ ∀ c ∈ cs, p c = true := by
  induction w with
  | nil => exact ⟨[], rfl, by simp⟩
  | cons c w ih =>
    obtain ⟨hc, hw⟩ := List.forall_mem_cons.mp h
    obtain ⟨cs, rfl, hcs⟩ := ih hw
    cases c with
    | char c => exact ⟨c :: cs, rfl, List.forall_mem_cons.mpr ⟨hc, hcs⟩⟩
    | half n => cases hc

theorem ascii_of_isDigitLike {cs : List Char} (h : ∀ c ∈ cs, isDigitLike c = true) :
    Numeral.ascii (String.ofList cs) = cs.map asciiDigit := by
  have hblank : ∀ c ∈ cs, Text.isNumeralBlank c = false := fun c hc =>
    Text.isNumeralBlank_of_isDigitLike (h c hc)
  rw [Numeral.ascii, String.toList_ofList, Text.stripBy_of_all hblank]
  refine List.map_congr_left fun c hc => ?_
  by_cases hlt : c.toNat < 128
  · rw [if_pos hlt, Text.asciiDigit_of_lt (h c hc) hlt]
  · rw [if_neg hlt]
    rfl

theorem ofChars_map_asciiDigit (cs : List Char) :
    Digits.ofChars (cs.map asciiDigit) = Digits.value (cs.filterMap decimalValue) := by
  rw [Digits.ofChars, List.filterMap_map]
  congr 1
  exact List.filterMap_congr fun c _ => Text.value?_asciiDigit c

/-- Decimal digits are read, unless there are too many. -/
theorem int?_of_isDecimal {cs : List Char} (h : ∀ c ∈ cs, isDecimal c = true) (hne : cs ≠ []) :
    Numeral.int? (String.ofList cs) =
      if Numeral.maxDigits < cs.length then .error (.tooLong cs.length)
      else .ok (Digits.value (cs.filterMap decimalValue) : Int) := by
  have hlike : ∀ c ∈ cs, isDigitLike c = true := by
    intro c hc
    rw [isDigitLike, h c hc, Bool.true_or]
  have hdigits : ∀ d ∈ cs.map asciiDigit, Digits.isDigit d = true := by
    intro d hd
    obtain ⟨c, hc, rfl⟩ := List.mem_map.mp hd
    rw [Text.isDigit_asciiDigit, h c hc]
  rw [int?_of_ascii (ascii_of_isDigitLike hlike) hdigits (by simpa using hne), List.length_map,
    ofChars_map_asciiDigit]

/-- Digits of which one is not decimal are not read. -/
theorem int?_of_not_isDecimal {cs : List Char} (h : ∀ c ∈ cs, isDigitLike c = true) {c : Char}
    (hmem : c ∈ cs) (hc : isDecimal c = false) :
    ∃ fault, Numeral.int? (String.ofList cs) = .error fault := by
  have hsign : Decimal.splitSign (cs.map asciiDigit) = (false, cs.map asciiDigit) := by
    apply Decimal.splitSign_of_ne
    intro d hd
    obtain ⟨x, _, rfl⟩ := List.mem_map.mp (List.mem_of_mem_head? hd)
    exact ⟨Text.asciiDigit_ne x (by decide) (by decide), Text.asciiDigit_ne x (by decide) (by decide)⟩
  have hshort : ((cs.map asciiDigit).takeWhile fun d => Digits.isDigit d || d = '_').length <
      (cs.map asciiDigit).length := by
    refine lt_of_le_of_ne (List.takeWhile_prefix _).length_le fun heq => ?_
    have hall := List.takeWhile_eq_self_iff.mp ((List.takeWhile_prefix _).eq_of_length heq)
    have hstop := hall (asciiDigit c) (List.mem_map_of_mem hmem)
    rw [Text.isDigit_asciiDigit, hc, Bool.false_or, decide_eq_true_eq] at hstop
    exact Text.asciiDigit_ne c (by decide) (by decide) hstop
  rw [Numeral.int?, ascii_of_isDigitLike h, hsign]
  dsimp only
  rw [if_pos hshort]
  split
  · exact ⟨_, rfl⟩
  · split <;> exact ⟨_, rfl⟩

/-! ## Which texts are read -/

theorem textToInt_of_error {w : WideText} {fault : Numeral.Fault}
    (h : Numeral.int? w.shown = .error fault) : ∃ e, Json.textToInt w = .error (.value e) := by
  rw [Json.textToInt, h]
  cases fault with
  | malformed => exact ⟨_, rfl⟩
  | tooLong digits => exact ⟨_, rfl⟩

theorem codeIdOf_str (w : WideText) :
    codeIdOf (.str w) =
      if !w.isEmpty && w.all (·.is isDigitLike) then Json.textToInt w else .ok 0 := by
  cases w <;> rfl

theorem codeIdOf_of_digits {w : WideText} (hne : w ≠ []) (h : ∀ c ∈ w, c.is isDigitLike = true) :
    codeIdOf (.str w) = Json.textToInt w := by
  rw [codeIdOf_str, List.isEmpty_eq_false_iff.mpr hne, List.all_eq_true.mpr h, if_pos (by decide)]

/-- A text that is not misleading is read as the code id that it shows. -/
theorem codeIdOf_legible {w : WideText} (h : ¬Misleading w) : codeIdOf (.str w) = .ok (textId w) := by
  rw [textId]
  by_cases hnumeric : IsNumeric w
  · obtain ⟨cs, rfl, hcs⟩ := exists_chars_of_is hnumeric.2
    have hlike : ∀ c ∈ WideText.ofChars cs, c.is isDigitLike = true := by
      intro c hc
      obtain ⟨d, hd, rfl⟩ := List.mem_map.mp hc
      rw [CodePoint.is_char, isDigitLike, hcs d hd, Bool.true_or]
    have hlength : ¬Numeral.maxDigits < cs.length := by
      intro hlong
      exact h ⟨hlike, .inr (by rwa [WideText.ofChars, List.length_map])⟩
    rw [codeIdOf_of_digits hnumeric.1 hlike, Json.textToInt, WideText.shown_ofChars,
      int?_of_isDecimal hcs (by simpa [WideText.ofChars] using hnumeric.1), if_neg hlength,
      if_pos hnumeric, numericValue, WideText.plain_ofChars]
  · -- it is empty, or one of its characters is no digit
    rw [if_neg hnumeric, codeIdOf_str]
    refine if_neg fun hguard => ?_
    obtain ⟨hempty, hall⟩ := Bool.and_eq_true_iff.mp hguard
    have hlike : ∀ c ∈ w, c.is isDigitLike = true := List.all_eq_true.mp hall
    refine h ⟨hlike, .inl ?_⟩
    by_contra hdecimal
    refine hnumeric ⟨by simpa using hempty, fun c hc => ?_⟩
    by_contra hother
    exact hdecimal ⟨c, hc, by simpa using hother⟩

theorem Misleading.ne_nil {w : WideText} (h : Misleading w) : w ≠ [] := by
  rcases h.unread with ⟨c, hc, _⟩ | hlong
  · exact List.ne_nil_of_mem hc
  · exact List.ne_nil_of_length_pos (by omega)

/-- What passes for a number is not read as one, for either reason. -/
theorem Misleading.int?_eq_error {cs : List Char} (h : Misleading (.ofChars cs)) :
    ∃ fault, Numeral.int? (String.ofList cs) = .error fault := by
  have hlike : ∀ c ∈ cs, isDigitLike c = true := fun c hc => h.digits _ (List.mem_map_of_mem hc)
  by_cases hdecimal : ∀ c ∈ cs, isDecimal c = true
  · rcases h.unread with ⟨c, hc, hother⟩ | hlong
    · obtain ⟨d, hd, rfl⟩ := List.mem_map.mp hc
      rw [CodePoint.is_char, hdecimal d hd] at hother
      cases hother
    · rw [WideText.ofChars, List.length_map] at hlong
      have hne : cs ≠ [] := List.ne_nil_of_length_pos (by omega)
      exact ⟨_, (int?_of_isDecimal hdecimal hne).trans (if_pos hlong)⟩
  · obtain ⟨c, hother⟩ := not_forall.mp hdecimal
    obtain ⟨hc, hother⟩ := Classical.not_imp.mp hother
    exact int?_of_not_isDecimal hlike hc (by simpa using hother)

/-- A misleading text is a fault. -/
theorem codeIdOf_misleading {w : WideText} (h : Misleading w) :
    ∃ e, codeIdOf (.str w) = .error (.value e) := by
  obtain ⟨cs, rfl, _⟩ := exists_chars_of_is h.digits
  obtain ⟨fault, hfault⟩ := h.int?_eq_error
  rw [codeIdOf_of_digits h.ne_nil h.digits]
  exact textToInt_of_error (by rwa [WideText.shown_ofChars])

/-! ## Events that show any texts -/

/-- The code id that an event shows: zero if it shows none. -/
def ChainEvent.codeId (e : ChainEvent) : Int :=
  match codeIdTexts e.attributes with
  | text :: _ => textId text
  | [] => 0

/-- The code ids that events of type `store_code` show, one for each, in order. -/
def storedIds (events : List ChainEvent) : List Int :=
  (events.filter fun e => e.type = ("store_code" : WideText)).map ChainEvent.codeId

/-- An event of type `store_code` whose first code id is misleading. -/
structure ChainEvent.Misleads (e : ChainEvent) : Prop where
  storing : e.type = "store_code"
  text : ∃ text rest, codeIdTexts e.attributes = text :: rest ∧ Misleading text

theorem codeIdOf_of_not_misleads {e : ChainEvent} (htype : e.type = "store_code")
    (h : ¬e.Misleads) :
    codeIdOf ((codeIdTexts e.attributes).head?.elim .null .str) = .ok e.codeId := by
  rw [ChainEvent.codeId]
  cases htexts : codeIdTexts e.attributes with
  | nil => rfl
  | cons text rest => exact codeIdOf_legible fun hm => h ⟨htype, text, rest, htexts, hm⟩

variable {events : List ChainEvent} {shown : List Json}

/-- If no event misleads, every event of type `store_code` gives the code id that it shows. -/
theorem codeIdsOfEvents_legible (h : List.Forall₂ ChainEvent.ShownBy events shown)
    (hclear : ∀ e ∈ events, ¬e.Misleads) : codeIdsOfEvents shown = .ok (storedIds events) := by
  induction h with
  | nil => rfl
  | @cons e v events shown hshown _ ih =>
    obtain ⟨he, hclear⟩ := List.forall_mem_cons.mp hclear
    by_cases htype : e.type = ("store_code" : WideText)
    · rw [codeIdsOfEvents_storing hshown htype, codeIdOf_of_not_misleads htype he, except_ok_bind,
        ih hclear, except_ok_bind, storedIds, storedIds, List.filter_cons_of_pos (by simpa using htype),
        List.map_cons]
    · rw [codeIdsOfEvents_silent hshown htype, ih hclear, storedIds, storedIds,
        List.filter_cons_of_neg (by simpa using htype)]

/-- If an event misleads, this is a fault, and there are no code ids. -/
theorem codeIdsOfEvents_misleading (h : List.Forall₂ ChainEvent.ShownBy events shown)
    (hmisleads : ∃ e ∈ events, e.Misleads) :
    ∃ fault, codeIdsOfEvents shown = .error (.value fault) := by
  induction h with
  | nil =>
    obtain ⟨e, hmem, _⟩ := hmisleads
    cases hmem
  | @cons e v events shown hshown _ ih =>
    by_cases htype : e.type = ("store_code" : WideText)
    · rw [codeIdsOfEvents_storing hshown htype]
      by_cases he : e.Misleads
      · obtain ⟨text, rest, htexts, hmisleading⟩ := he.text
        obtain ⟨fault, hfault⟩ := codeIdOf_misleading hmisleading
        rw [htexts, List.head?_cons, Option.elim_some, hfault]
        exact ⟨fault, rfl⟩
      · -- the event is read, and a later one misleads
        obtain ⟨other, hmem, hother⟩ := hmisleads
        have hlater : other ∈ events := by
          rcases List.mem_cons.mp hmem with rfl | hrest
          · exact absurd hother he
          · exact hrest
        obtain ⟨fault, hfault⟩ := ih ⟨other, hlater, hother⟩
        rw [codeIdOf_of_not_misleads htype he, except_ok_bind, hfault]
        exact ⟨fault, rfl⟩
    · obtain ⟨other, hmem, hother⟩ := hmisleads
      have hlater : other ∈ events := by
        rcases List.mem_cons.mp hmem with rfl | hrest
        · exact absurd hother.storing htype
        · exact hrest
      rw [codeIdsOfEvents_silent hshown htype]
      exact ih ⟨other, hlater, hother⟩

end ContractOps.TxResult
