import ContractOps.Encoding.Hex

/-!
# Base64

Three octets become four characters of six bits each; a shorter last group is filled up with `=`.
The two alphabets differ in their last two characters: the standard one has `+` and `/`, the other
one has `-` and `_`, which may stand in an address. What is written in either of them is read back
(`Base64.decode?_encode`).
-/

namespace ContractOps.Base64

/-- The characters for 62 and 63. -/
structure Alphabet where
  plus : Char
  slash : Char

/-- The usual alphabet. -/
def standard : Alphabet := ⟨'+', '/'⟩

/-- The alphabet for addresses. -/
def urlSafe : Alphabet := ⟨'-', '_'⟩

/-- The character for six bits. -/
def Alphabet.char (a : Alphabet) (n : Nat) : Char :=
  if n < 26 then Char.ofNat (65 + n)
  else if n < 52 then Char.ofNat (71 + n)
  else if n < 62 then Char.ofNat (n - 4)
  else if n = 62 then a.plus
  else a.slash

/-- The six bits of a character. -/
def Alphabet.value? (a : Alphabet) (c : Char) : Option Nat :=
  if 'A' ≤ c ∧ c ≤ 'Z' then some (c.toNat - 65)
  else if 'a' ≤ c ∧ c ≤ 'z' then some (c.toNat - 71)
  else if '0' ≤ c ∧ c ≤ '9' then some (c.toNat + 4)
  else if c = a.plus then some 62
  else if c = a.slash then some 63
  else none

/-- Writes octets. -/
def encode (a : Alphabet) : Bytes → List Char
  | [] => []
  | [x] => [a.char (x.toNat / 4), a.char (x.toNat % 4 * 16), '=', '=']
  | [x, y] =>
    [a.char (x.toNat / 4), a.char (x.toNat % 4 * 16 + y.toNat / 16), a.char (y.toNat % 16 * 4), '=']
  | x :: y :: z :: rest =>
    a.char (x.toNat / 4) :: a.char (x.toNat % 4 * 16 + y.toNat / 16) ::
      a.char (y.toNat % 16 * 4 + z.toNat / 64) :: a.char (z.toNat % 64) :: encode a rest

/-- Reads what `encode` writes. -/
def decode? (a : Alphabet) : List Char → Option Bytes
  | [] => some []
  | [p, q, '=', '='] => do
    let p ← a.value? p
    let q ← a.value? q
    return [UInt8.ofNat (p * 4 + q / 16)]
  | [p, q, r, '='] => do
    let p ← a.value? p
    let q ← a.value? q
    let r ← a.value? r
    return [UInt8.ofNat (p * 4 + q / 16), UInt8.ofNat (q % 16 * 16 + r / 4)]
  | p :: q :: r :: s :: rest => do
    let p ← a.value? p
    let q ← a.value? q
    let r ← a.value? r
    let s ← a.value? s
    let bytes ← decode? a rest
    return UInt8.ofNat (p * 4 + q / 16) :: UInt8.ofNat (q % 16 * 16 + r / 4) ::
      UInt8.ofNat (r % 4 * 64 + s) :: bytes
  | _ => none

/-! ### Reading what was written -/

theorem Alphabet.value?_char {a : Alphabet} (ha : a = standard ∨ a = urlSafe) {n : Nat}
    (hn : n < 64) : a.value? (a.char n) = some n := by
  revert n
  rcases ha with rfl | rfl <;> decide

theorem Alphabet.char_ne_filler {a : Alphabet} (ha : a = standard ∨ a = urlSafe) {n : Nat}
    (hn : n < 64) : a.char n ≠ '=' := by
  revert n
  rcases ha with rfl | rfl <;> decide

/-- What is written is read back. -/
theorem decode?_encode {a : Alphabet} (ha : a = standard ∨ a = urlSafe) (bytes : Bytes) :
    decode? a (encode a bytes) = some bytes := by
  induction bytes using encode.induct with
  | case1 => rfl
  | case2 x =>
    have hx : x.toNat < 256 := x.toNat_lt
    rw [encode, decode?, Alphabet.value?_char ha (by omega), Alphabet.value?_char ha (by omega)]
    show some [UInt8.ofNat (x.toNat / 4 * 4 + x.toNat % 4 * 16 / 16)] = _
    rw [Bytes.ofNat_eq x (by omega)]
  | case3 x y =>
    have hx : x.toNat < 256 := x.toNat_lt
    have hy : y.toNat < 256 := y.toNat_lt
    rw [encode, decode?, Alphabet.value?_char ha (by omega), Alphabet.value?_char ha (by omega),
      Alphabet.value?_char ha (by omega)]
    · show some [UInt8.ofNat (x.toNat / 4 * 4 + (x.toNat % 4 * 16 + y.toNat / 16) / 16),
        UInt8.ofNat ((x.toNat % 4 * 16 + y.toNat / 16) % 16 * 16 + y.toNat % 16 * 4 / 4)] = _
      rw [Bytes.ofNat_eq x (by omega), Bytes.ofNat_eq y (by omega)]
    · exact Alphabet.char_ne_filler ha (by omega)
  | case4 x y z rest ih =>
    have hx : x.toNat < 256 := x.toNat_lt
    have hy : y.toNat < 256 := y.toNat_lt
    have hz : z.toNat < 256 := z.toNat_lt
    rw [encode, decode?, Alphabet.value?_char ha (by omega), Alphabet.value?_char ha (by omega),
      Alphabet.value?_char ha (by omega), Alphabet.value?_char ha (by omega), ih]
    · show some (UInt8.ofNat (x.toNat / 4 * 4 + (x.toNat % 4 * 16 + y.toNat / 16) / 16) ::
        UInt8.ofNat ((x.toNat % 4 * 16 + y.toNat / 16) % 16 * 16 +
          (y.toNat % 16 * 4 + z.toNat / 64) / 4) ::
        UInt8.ofNat ((y.toNat % 16 * 4 + z.toNat / 64) % 4 * 64 + z.toNat % 64) :: rest) = _
      rw [Bytes.ofNat_eq x (by omega), Bytes.ofNat_eq y (by omega), Bytes.ofNat_eq z (by omega)]
    · intro _ h
      exact absurd h (Alphabet.char_ne_filler ha (by omega))
    · intro h
      exact absurd h (Alphabet.char_ne_filler ha (by omega))

/-- Different octets are written differently. -/
theorem encode_inj {a : Alphabet} (ha : a = standard ∨ a = urlSafe) {bytes bytes' : Bytes} :
    encode a bytes = encode a bytes' ↔ bytes = bytes' := by
  refine ⟨fun h => ?_, fun h => h ▸ rfl⟩
  apply Option.some.inj
  rw [← decode?_encode ha, ← decode?_encode ha, h]

/-! ### The characters in use -/

/-- All that is written are characters for six bits, and fillers. -/
theorem forall_mem_encode {a : Alphabet} {p : Char → Prop} (hchar : ∀ n < 64, p (a.char n))
    (hfiller : p '=') (bytes : Bytes) : ∀ c ∈ encode a bytes, p c := by
  induction bytes using encode.induct with
  | case1 => exact List.forall_mem_nil _
  | case2 x =>
    have hx : x.toNat < 256 := x.toNat_lt
    simp only [encode, List.forall_mem_cons]
    exact ⟨hchar _ (by omega), hchar _ (by omega), hfiller, hfiller, List.forall_mem_nil _⟩
  | case3 x y =>
    have hx : x.toNat < 256 := x.toNat_lt
    have hy : y.toNat < 256 := y.toNat_lt
    simp only [encode, List.forall_mem_cons]
    exact ⟨hchar _ (by omega), hchar _ (by omega), hchar _ (by omega), hfiller,
      List.forall_mem_nil _⟩
  | case4 x y z rest ih =>
    have hx : x.toNat < 256 := x.toNat_lt
    have hy : y.toNat < 256 := y.toNat_lt
    have hz : z.toNat < 256 := z.toNat_lt
    simp only [encode, List.forall_mem_cons]
    exact ⟨hchar _ (by omega), hchar _ (by omega), hchar _ (by omega), hchar _ (by omega), ih⟩

end ContractOps.Base64
