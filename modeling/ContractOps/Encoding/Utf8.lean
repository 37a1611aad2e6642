import ContractOps.Encoding.Flaw

/-!
# UTF-8

`Utf8.encode` writes every character with the fewest octets, and `Utf8.decode?` accepts exactly such
texts: no longer forms, no surrogates, nothing beyond U+10FFFF. What is written is read back
(`Utf8.decode?_encode`). A wide text can be written if it holds no half of a surrogate pair
(`Utf8.encodeWide`). A reader that takes halves as they are is `Utf8.decodeWide?`.
-/

namespace ContractOps.Utf8

/-- A continuation octet with six bits of payload. -/
def continuation (n : Nat) : UInt8 := UInt8.ofNat (0x80 + n % 0x40)

/-- The octets of a code point, by its number. -/
def encodePoint (n : Nat) : Bytes :=
  if n < 0x80 then [UInt8.ofNat n]
  else if n < 0x800 then [UInt8.ofNat (0xc0 + n / 0x40), continuation n]
  else if n < 0x10000 then
    [UInt8.ofNat (0xe0 + n / 0x1000), continuation (n / 0x40), continuation n]
  else
    [UInt8.ofNat (0xf0 + n / 0x40000), continuation (n / 0x1000), continuation (n / 0x40),
      continuation n]

/-- The octets of a character. -/
def encodeChar (c : Char) : Bytes := encodePoint c.toNat

/-- The octets of a text. -/
def encode (cs : List Char) : Bytes := cs.flatMap encodeChar

/-- The octets of a text. -/
def ofString (s : String) : Bytes := encode s.toList

/-- The first run of halves of surrogate pairs in a text that begins at a position. -/
def halves? (position : Nat) : WideText → Option EncodeFlaw
  | [] => none
  | .char _ :: cs => halves? (position + 1) cs
  | .half n :: cs => some {
      encoding := "utf-8"
      first := .half n
      start := position
      count := 1 + (cs.takeWhile fun c => c.char?.isNone).length
      reason := "surrogates not allowed" }

/-- The octets of a wide text, if it holds no halves. -/
def encodeWide (cs : WideText) : Except EncodeFlaw Bytes :=
  match halves? 0 cs with
  | some flaw => .error flaw
  | none => .ok (cs.flatMap fun c => encodePoint c.toNat)

/-- The payload of a continuation octet. -/
def payload? (b : UInt8) : Option Nat :=
  if 0x80 ≤ b.toNat ∧ b.toNat < 0xc0 then some (b.toNat - 0x80) else none

/-- A character, if the code point is one and not below `least`. -/
def char? (least n : Nat) : Option Char :=
  if least ≤ n ∧ n.isValidChar then some (Char.ofNat n) else none

/-- A code point, half of a surrogate pair or not, if it is not below `least`. -/
def point? (least n : Nat) : Option CodePoint :=
  if least ≤ n ∧ n < 0x110000 then some (.ofNat n) else none

/-- What octets encode, where `item?` says what stands for a code point. It is given the least code
point that takes as many octets, and then the code point. -/
def decodeAs {α : Type} (item? : Nat → Nat → Option α) : Bytes → Option (List α)
  | [] => some []
  | b :: rest =>
    let lead := b.toNat
    if lead < 0x80 then do
      let c ← item? 0 lead
      (decodeAs item? rest).map (c :: ·)
    else if lead < 0xc0 then none
    else if lead < 0xe0 then
      match rest with
      | b₁ :: rest => do
        let p₁ ← payload? b₁
        let c ← item? 0x80 ((lead - 0xc0) * 0x40 + p₁)
        (decodeAs item? rest).map (c :: ·)
      | _ => none
    else if lead < 0xf0 then
      match rest with
      | b₁ :: b₂ :: rest => do
        let p₁ ← payload? b₁
        let p₂ ← payload? b₂
        let c ← item? 0x800 (((lead - 0xe0) * 0x40 + p₁) * 0x40 + p₂)
        (decodeAs item? rest).map (c :: ·)
      | _ => none
    else
      match rest with
      | b₁ :: b₂ :: b₃ :: rest => do
        let p₁ ← payload? b₁
        let p₂ ← payload? b₂
        let p₃ ← payload? b₃
        let c ← item? 0x10000 ((((lead - 0xf0) * 0x40 + p₁) * 0x40 + p₂) * 0x40 + p₃)
        (decodeAs item? rest).map (c :: ·)
      | _ => none

/-- The text that octets encode. -/
def decode? : Bytes → Option (List Char) := decodeAs char?

/-- The wide text that octets encode, which may hold halves of surrogate pairs. -/
def decodeWide? : Bytes → Option WideText := decodeAs point?

/-! ### Reading what was written -/

theorem payload?_continuation (n : Nat) : payload? (continuation n) = some (n % 0x40) := by
  have h : (continuation n).toNat = 0x80 + n % 0x40 := Bytes.toNat_ofNat (by omega)
  rw [payload?, h, if_pos (by omega), Nat.add_sub_cancel_left]

theorem char?_toNat (c : Char) {least n : Nat} (hn : n = c.toNat) (h : least ≤ c.toNat) :
    char? least n = some c := by
  rw [char?, hn, if_pos ⟨h, c.valid⟩, Char.ofNat_toNat]

theorem toNat_lt (c : Char) : c.toNat < 0x110000 := by
  have h : c.toNat.isValidChar := c.valid
  rcases h with h | h <;> omega

/-- A character is read back, whatever follows it. -/
theorem decode?_encodeChar (c : Char) (bytes : Bytes) :
    decode? (encodeChar c ++ bytes) = (decode? bytes).map (c :: ·) := by
  have hc := toNat_lt c
  simp only [encodeChar, encodePoint, decode?]
  split
  · rename_i h
    rw [List.singleton_append, decodeAs.eq_def]
    simp only [Bytes.toNat_ofNat (by omega : c.toNat < 256), if_pos h, Option.bind_eq_bind]
    rw [char?_toNat c rfl (Nat.zero_le _)]
    rfl
  · split
    · rename_i h
      rw [List.cons_append, List.singleton_append, decodeAs.eq_def]
      simp only [Bytes.toNat_ofNat (by omega : 0xc0 + c.toNat / 0x40 < 256), payload?_continuation]
      rw [if_neg (by omega), if_neg (by omega), if_pos (by omega)]
      simp only [Option.bind_eq_bind, Option.bind_some]
      rw [char?_toNat c (by omega) (by omega)]
      rfl
    · split
      · rename_i h
        simp only [List.cons_append, List.nil_append]
        rw [decodeAs.eq_def]
        simp only [Bytes.toNat_ofNat (by omega : 0xe0 + c.toNat / 0x1000 < 256),
          payload?_continuation]
        rw [if_neg (by omega), if_neg (by omega), if_neg (by omega), if_pos (by omega)]
        simp only [Option.bind_eq_bind, Option.bind_some]
        rw [char?_toNat c (by omega) (by omega)]
        rfl
      · simp only [List.cons_append, List.nil_append]
        rw [decodeAs.eq_def]
        simp only [Bytes.toNat_ofNat (by omega : 0xf0 + c.toNat / 0x40000 < 256),
          payload?_continuation]
        rw [if_neg (by omega), if_neg (by omega), if_neg (by omega), if_neg (by omega)]
        simp only [Option.bind_eq_bind, Option.bind_some]
        rw [char?_toNat c (by omega) (by omega)]
        rfl

/-- What is written is read back. -/
theorem decode?_encode (cs : List Char) : decode? (encode cs) = some cs := by
  induction cs with
  | nil => rfl
  | cons c cs ih =>
    show decode? (encodeChar c ++ encode cs) = _
    rw [decode?_encodeChar, ih]
    rfl

theorem halves?_ofChars (position : Nat) (cs : List Char) :
    halves? position (WideText.ofChars cs) = none := by
  induction cs generalizing position with
  | nil => rfl
  | cons c cs ih => exact ih (position + 1)

/-- A text of characters is written as such. -/
theorem encodeWide_ofChars (cs : List Char) :
    encodeWide (WideText.ofChars cs) = .ok (encode cs) := by
  rw [encodeWide, halves?_ofChars]
  simp only [WideText.ofChars, List.flatMap_map]
  rfl

end ContractOps.Utf8
