import ContractOps.Proofs.Json.RoundTrip

/-!
# What printed values are made of

Printing adds nothing but printable characters and line ends to the texts of a value
(`all_print_iff`). So what is printed over several lines holds no carriage return
(`all_indented_ne_return`), and it holds half of a surrogate pair only if a text of the value does
(`spelled_indented_iff`). In ASCII no half is printed at all, so that the text on one line is a
string (`ofString_compact`).
-/

namespace ContractOps.Json

variable {levels : Nat} {v : Json} {allowed : WideText → Prop}

/-! ## Texts that fit -/

theorem Fits.mono {allowed' : WideText → Prop} (h : Fits allowed levels v)
    (himp : ∀ s, allowed s → allowed' s) : Fits allowed' levels v := by
  induction h with
  | null => exact .null
  | bool b => exact .bool b
  | int hn => exact .int hn
  | float x => exact .float x
  | str hs => exact .str (himp _ hs)
  | arr _ ih => exact .arr ih
  | obj unique names _ ih => exact .obj unique (fun m hm => himp _ (names m hm)) ih

/-- What fits also fits where there are more levels. -/
theorem Fits.weaken {levels' : Nat} (h : Fits allowed levels v) (hle : levels ≤ levels') :
    Fits allowed levels' v := by
  induction h generalizing levels' with
  | null => exact .null
  | bool b => exact .bool b
  | int hn => exact .int hn
  | float x => exact .float x
  | str hs => exact .str hs
  | arr _ ih =>
    obtain ⟨n, rfl⟩ := Nat.exists_eq_add_of_le' (Nat.one_le_of_lt hle)
    exact .arr fun v hv => ih v hv (Nat.le_of_succ_le_succ hle)
  | obj unique names _ ih =>
    obtain ⟨n, rfl⟩ := Nat.exists_eq_add_of_le' (Nat.one_le_of_lt hle)
    exact .obj unique names fun m hm => ih m hm (Nat.le_of_succ_le_succ hle)

/-! ## Printable characters -/

/-- Whether a character is printable in ASCII. -/
def isPrintable (c : Char) : Bool := 0x20 ≤ c.toNat && c.toNat < 0x7f

theorem isPrintable_of_isDigit {c : Char} (h : Digits.isDigit c = true) : isPrintable c = true :=
  Digits.of_isDigit (isPrintable · = true) (by decide) h

theorem isPrintable_ofNat {n : Nat} : ∀ c ∈ Digits.ofNat n, isPrintable c = true :=
  fun _ h => isPrintable_of_isDigit (isDigit_of_mem_ofNat h)

theorem isPrintable_ofInt {n : Int} : ∀ c ∈ Digits.ofInt n, isPrintable c = true := by
  intro c hc
  rw [ofInt_eq] at hc
  rcases List.mem_append.mp hc with hc | hc
  · rw [signText] at hc
    split at hc
    · rw [List.mem_singleton.mp hc]
      decide
    · cases hc
  · exact isPrintable_ofNat c hc

theorem isPrintable_zeros (n : Nat) : ∀ c ∈ Binary64.zeros n, isPrintable c = true :=
  fun _ h => isPrintable_of_isDigit (Digits.isDigit_zeros h)

theorem isPrintable_positional {digits : List Char} (h : ∀ c ∈ digits, isPrintable c = true)
    (point : Int) : ∀ c ∈ Binary64.positional digits point, isPrintable c = true := by
  rw [Binary64.positional]
  split
  · exact List.forall_mem_append.mpr
      ⟨List.forall_mem_append.mpr ⟨List.all_eq_true.mp (by decide), isPrintable_zeros _⟩, h⟩
  · split
    · exact List.forall_mem_append.mpr
        ⟨List.forall_mem_append.mpr ⟨h, isPrintable_zeros _⟩, List.all_eq_true.mp (by decide)⟩
    · exact List.forall_mem_append.mpr
        ⟨List.forall_mem_append.mpr
          ⟨fun c hc => h c (List.mem_of_mem_take hc), List.all_eq_true.mp (by decide)⟩,
          fun c hc => h c (List.mem_of_mem_drop hc)⟩

theorem isPrintable_exponential {digits : List Char} (h : ∀ c ∈ digits, isPrintable c = true)
    (exponent : Int) : ∀ c ∈ Binary64.exponential digits exponent, isPrintable c = true := by
  have hfraction : ∀ c ∈ (if (digits.drop 1).isEmpty then [] else '.' :: digits.drop 1),
      isPrintable c = true := by
    split
    · simp
    · exact List.forall_mem_cons.mpr ⟨by decide, fun c hc => h c (List.mem_of_mem_drop hc)⟩
  have hsign : ∀ c ∈ ['e', if exponent < 0 then '-' else '+'], isPrintable c = true := by
    split <;> exact List.all_eq_true.mp (by decide)
  rw [Binary64.exponential]
  simp only [List.forall_mem_append]
  exact ⟨⟨⟨⟨fun c hc => h c (List.mem_of_mem_take hc), hfraction⟩, hsign⟩, isPrintable_zeros _⟩,
    isPrintable_ofNat⟩

/-- A printed double precision number is printable. -/
theorem isPrintable_spell (x : Binary64) :
    ∀ c ∈ x.spell "Infinity".toList "NaN".toList, isPrintable c = true := by
  have hsign : ∀ negative : Bool, ∀ c ∈ (if negative then ['-'] else []), isPrintable c = true := by
    intro negative
    cases negative <;> exact List.all_eq_true.mp (by decide)
  cases x with
  | nan => exact List.all_eq_true.mp (by decide)
  | infinite negative =>
    exact List.forall_mem_append.mpr ⟨hsign negative, List.all_eq_true.mp (by decide)⟩
  | finite negative significand exponent canonical =>
    rw [Binary64.spell]
    refine List.forall_mem_append.mpr ⟨hsign negative, ?_⟩
    split
    · exact List.all_eq_true.mp (by decide)
    · rw [Binary64.layOut]
      split
      · exact isPrintable_positional isPrintable_ofNat _
      · exact isPrintable_exponential isPrintable_ofNat _

/-! ## Printed values -/

section

variable {p : CodePoint → Bool} {style : Style}

/-- The predicate holds of all that printing adds to texts. -/
structure HoldsOfLayout (p : CodePoint → Bool) : Prop where
  printable : ∀ c, isPrintable c = true → p (.char c) = true
  newline : p (.char '\n') = true

theorem HoldsOfLayout.ofChars (hp : HoldsOfLayout p) {cs : List Char}
    (h : ∀ c ∈ cs, isPrintable c = true) : (WideText.ofChars cs).all p = true := by
  rw [WideText.ofChars, List.all_map, List.all_eq_true]
  intro c hc
  exact hp.printable c (h c hc)

theorem HoldsOfLayout.newlines (hp : HoldsOfLayout p) (depth : Nat) :
    (Json.newline depth).all p = true := by
  rw [Json.newline, List.all_cons, hp.newline, List.all_eq_true.mpr]
  · rfl
  · intro c hc
    rw [List.eq_of_mem_replicate hc]
    exact hp.printable ' ' (by decide)

/-- The predicate holds of the white space that a style adds. -/
structure Style.Adds (style : Style) (p : CodePoint → Bool) : Prop where
  edge : ∀ depth, (style.edge depth).all p = true
  gap : ∀ depth, (style.gap depth).all p = true

theorem HoldsOfLayout.lines (hp : HoldsOfLayout p) (ascii : Bool) : (Style.lines ascii).Adds p :=
  ⟨hp.newlines, hp.newlines⟩

theorem HoldsOfLayout.line (hp : HoldsOfLayout p) : Style.line.Adds p := by
  have hspace : p (.char ' ') = true := hp.printable ' ' (by decide)
  exact ⟨fun _ => rfl, fun _ => by simp [Style.line, hspace]⟩

/-- What is printed for a text, without its quotes. -/
def printBody (s : WideText) : WideText := s.flatMap (printPoint false)

theorem all_printText (hp : HoldsOfLayout p) (ascii : Bool) (s : WideText) :
    (printText ascii s).all p = (s.flatMap (printPoint ascii)).all p := by
  have hquote : p (.char '"') = true := hp.printable '"' (by decide)
  rw [printText, List.cons_append, List.all_cons, List.all_append, List.all_cons, hquote]
  simp

theorem all_printItems (hp : HoldsOfLayout p) (hstyle : style.Adds p) (depth : Nat)
    (vs : List Json) :
    (printItems style depth vs).all p =
      vs.all fun v => (print style (depth + 1) v).all p := by
  have hclose : p (.char ']') = true := hp.printable ']' (by decide)
  have hcomma : p (.char ',') = true := hp.printable ',' (by decide)
  induction vs with
  | nil =>
    rw [printItems, List.all_append, hstyle.edge]
    simp [hclose]
  | cons v vs ih =>
    rw [printItems, List.all_append, List.all_append, List.all_cons, List.all_cons, ih, hstyle.gap,
      hcomma, Bool.true_and, Bool.true_and]

theorem all_printMembers (hp : HoldsOfLayout p) (hstyle : style.Adds p) (depth : Nat)
    (ms : List (WideText × Json)) :
    (printMembers style depth ms).all p =
      ms.all fun m => (m.1.flatMap (printPoint style.ascii)).all p &&
        (print style (depth + 1) m.2).all p := by
  have hclose : p (.char '\x7d') = true := hp.printable '\x7d' (by decide)
  have hcomma : p (.char ',') = true := hp.printable ',' (by decide)
  have hcolon : p (.char ':') = true := hp.printable ':' (by decide)
  have hspace : p (.char ' ') = true := hp.printable ' ' (by decide)
  induction ms with
  | nil =>
    rw [printMembers, List.all_append, hstyle.edge]
    simp [hclose]
  | cons m ms ih =>
    obtain ⟨name, v⟩ := m
    rw [printMembers, List.all_append, List.all_append, List.all_append, List.all_append,
      List.all_cons, List.all_cons, ih, hstyle.gap, all_printText hp, hcomma]
    simp [hcolon, hspace, Bool.and_assoc]

theorem all_print_arr (hp : HoldsOfLayout p) (hstyle : style.Adds p) (depth : Nat)
    (items : List Json) :
    (print style depth (.arr items)).all p =
      items.all fun v => (print style (depth + 1) v).all p := by
  have hopen : p (.char '[') = true := hp.printable '[' (by decide)
  cases items with
  | nil =>
    show (WideText.ofChars ['[', ']']).all p = true
    exact hp.ofChars (List.all_eq_true.mp (by decide))
  | cons v vs =>
    rw [print, List.all_append, List.all_append, List.all_cons, all_printItems hp hstyle,
      List.all_cons, hstyle.edge, hopen, Bool.true_and, Bool.true_and]

theorem all_print_obj (hp : HoldsOfLayout p) (hstyle : style.Adds p) (depth : Nat)
    (members : List (WideText × Json)) :
    (print style depth (.obj members)).all p =
      members.all fun m =>
        (m.1.flatMap (printPoint style.ascii)).all p && (print style (depth + 1) m.2).all p := by
  have hopen : p (.char '\x7b') = true := hp.printable '\x7b' (by decide)
  have hcolon : p (.char ':') = true := hp.printable ':' (by decide)
  have hspace : p (.char ' ') = true := hp.printable ' ' (by decide)
  cases members with
  | nil =>
    show (WideText.ofChars ['\x7b', '\x7d']).all p = true
    exact hp.ofChars (List.all_eq_true.mp (by decide))
  | cons m ms =>
    obtain ⟨name, v⟩ := m
    rw [print, List.all_append, List.all_append, List.all_append, List.all_append, List.all_cons,
      all_printMembers hp hstyle, List.all_cons, hstyle.edge, all_printText hp, hopen]
    simp [hcolon, hspace]

/-- What holds of all that is added holds of a printed value if it holds of what is printed for its
texts. -/
theorem all_print_iff (hp : HoldsOfLayout p) (hstyle : style.Adds p) (h : Fits allowed levels v)
    (depth : Nat) :
    (print style depth v).all p = true ↔
      Fits (fun s => (s.flatMap (printPoint style.ascii)).all p = true) levels v := by
  induction h generalizing depth with
  | null => exact iff_of_true (hp.ofChars (List.all_eq_true.mp (by decide))) .null
  | bool b =>
    cases b <;> exact iff_of_true (hp.ofChars (List.all_eq_true.mp (by decide))) (.bool _)
  | int hn => exact iff_of_true (hp.ofChars isPrintable_ofInt) (.int hn)
  | float x => exact iff_of_true (hp.ofChars (isPrintable_spell x)) (.float x)
  | str hs =>
    rw [print, all_printText hp]
    constructor
    · intro h
      exact .str h
    · intro h
      cases h with
      | str hs => exact hs
  | @arr levels items _ ih =>
    rw [all_print_arr hp hstyle, List.all_eq_true]
    constructor
    · intro hall
      exact .arr fun v hv => (ih v hv (depth + 1)).mp (hall v hv)
    · rintro (_ | _ | _ | _ | _ | hitems) v hv
      exact (ih v hv (depth + 1)).mpr (hitems v hv)
  | @obj levels members unique _ _ ih =>
    rw [all_print_obj hp hstyle, List.all_eq_true]
    constructor
    · intro hall
      refine .obj unique (fun m hm => ?_) fun m hm => ?_
      · exact (Bool.and_eq_true_iff.mp (hall m hm)).1
      · exact (ih m hm (depth + 1)).mp (Bool.and_eq_true_iff.mp (hall m hm)).2
    · intro hfits m hm
      cases hfits with
      | obj _ names values =>
        exact Bool.and_eq_true_iff.mpr ⟨names m hm, (ih m hm (depth + 1)).mpr (values m hm)⟩

end

/-! ## Carriage returns and halves -/

theorem all_printPoint_ne_return (c : CodePoint) :
    (printPoint false c).all (· != .char '\r') = true := by
  cases c with
  | half n => simp [printPoint]
  | char d =>
    show (WideText.ofChars (printChar false d)).all _ = true
    rcases printChar_cases false d with ⟨letter, _, hescape, hprinted⟩ |
      ⟨hcontrol | hcontrol, _, hprinted⟩ | ⟨hwide, _⟩ | ⟨_, _, hcontrol, hprinted⟩
    · have hne : letter ≠ '\r' := by
        rintro rfl
        cases hescape
      rw [hprinted]
      simp [WideText.ofChars, hne]
    · cases hcontrol
    · have hall : ∀ n < 0x20, (WideText.ofChars (unitEscape n)).all (· != .char '\r') = true := by
        decide
      rw [hprinted]
      exact hall d.toNat hcontrol
    · cases hwide
    · have hne : d ≠ '\r' := by
        rintro rfl
        exact absurd hcontrol (by decide)
      rw [hprinted]
      simp [WideText.ofChars, hne]

/-- No carriage return is printed. -/
theorem all_indented_ne_return (h : Fits allowed levels v) :
    (indented v).all (· != .char '\r') = true := by
  have hp : HoldsOfLayout fun c => c != .char '\r' := by
    refine ⟨fun c hc => ?_, by decide⟩
    have hne : c ≠ '\r' := by
      rintro rfl
      cases hc
    simpa using hne
  refine (all_print_iff hp (hp.lines false) h 0).mpr (h.mono fun s _ => ?_)
  rw [List.all_flatMap, List.all_eq_true]
  intro c _
  exact all_printPoint_ne_return c

/-- A text without halves of surrogate pairs. -/
def Spelled (s : WideText) : Prop := s.all (·.char?.isSome) = true

theorem spelled_ofChars (chars : List Char) : Spelled (.ofChars chars) := by
  rw [Spelled, WideText.ofChars, List.all_map]
  exact List.all_eq_true.mpr fun _ _ => rfl

@[simp] theorem spelled_ofString (s : String) : Spelled s := spelled_ofChars s.toList

theorem halves?_eq_none_iff (position : Nat) (cs : WideText) :
    Utf8.halves? position cs = none ↔ Spelled cs := by
  induction cs generalizing position with
  | nil => simp [Utf8.halves?, Spelled]
  | cons c cs ih =>
    cases c with
    | char d =>
      rw [Utf8.halves?, ih, Spelled, Spelled, List.all_cons]
      simp [CodePoint.char?]
    | half n => simp [Utf8.halves?, Spelled, CodePoint.char?]

/-- A text without halves is made of characters. -/
theorem exists_chars {cs : WideText} (h : Spelled cs) : ∃ chars, cs = .ofChars chars := by
  induction cs with
  | nil => exact ⟨[], rfl⟩
  | cons c cs ih =>
    obtain ⟨hc, hcs⟩ := Bool.and_eq_true_iff.mp h
    obtain ⟨chars, rfl⟩ := ih hcs
    cases c with
    | char d => exact ⟨d :: chars, rfl⟩
    | half n => cases hc

theorem spelled_printBody_iff (s : WideText) : Spelled (printBody s) ↔ Spelled s := by
  have hpoint : ∀ c : CodePoint, (printPoint false c).all (·.char?.isSome) = c.char?.isSome := by
    intro c
    cases c with
    | half n => rfl
    | char d => exact spelled_ofChars (printChar false d)
  rw [Spelled, Spelled, printBody, List.all_flatMap]
  simp only [hpoint]

/-- A half of a surrogate pair is printed only if it stands in a text of the value. -/
theorem spelled_indented_iff (h : Fits allowed levels v) :
    Spelled (indented v) ↔ Fits Spelled levels v := by
  have hp : HoldsOfLayout fun c => c.char?.isSome := ⟨fun _ _ => rfl, rfl⟩
  rw [Spelled, indented, all_print_iff hp (hp.lines false) h 0]
  constructor
  · intro hfits
    exact hfits.mono fun s => (spelled_printBody_iff s).mp
  · intro hfits
    exact hfits.mono fun s => (spelled_printBody_iff s).mpr

/-- In ASCII, halves are escaped too. -/
theorem spelled_printPoint_ascii (c : CodePoint) : Spelled (printPoint true c) := by
  cases c with
  | char d => exact spelled_ofChars (printChar true d)
  | half n => exact spelled_ofChars (unitEscape _)

/-- A text without halves is shown as it is. -/
theorem ofString_shown {s : WideText} (h : Spelled s) : WideText.ofString s.shown = s := by
  rw [WideText.ofString, WideText.shown, String.toList_ofList, WideText.ofChars, List.map_map]
  refine (List.map_congr_left fun c hc => ?_).trans (List.map_id s)
  have hchar : c.char?.isSome = true := List.all_eq_true.mp h c hc
  cases c with
  | char d => rfl
  | half n => cases hchar

/-- The text on one line is the string that it is shown as. -/
theorem ofString_compact (h : Fits allowed levels v) :
    WideText.ofString v.compact = v.print .line 0 := by
  have hp : HoldsOfLayout fun c => c.char?.isSome := ⟨fun _ _ => rfl, rfl⟩
  refine ofString_shown ((all_print_iff hp hp.line h 0).mpr (h.mono fun s _ => ?_))
  rw [List.all_flatMap, List.all_eq_true]
  exact fun c _ => spelled_printPoint_ascii c

/-! ## Values on one line -/

/-- In ASCII, texts without halves are read back. -/
theorem Style.legible_line : Style.line.Legible Spelled where
  text s hs start rest := by
    obtain ⟨chars, rfl⟩ := exists_chars hs
    exact scans_textBody_ascii start chars rest
  edge := Style.plain_line.edge
  gap := Style.plain_line.gap

/-- A value is read back from its text on one line. -/
theorem readWithin_compact (h : Fits Spelled levels v) : readWithin levels v.compact = .ok v := by
  rw [ofString_compact h]
  exact readWithin_legible Style.legible_line h

end ContractOps.Json
