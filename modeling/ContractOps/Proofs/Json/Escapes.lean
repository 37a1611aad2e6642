import ContractOps.Proofs.Json.Readable
import ContractOps.Proofs.Json.Spelled

/-!
# Escapes of surrogate pairs

A unicode escape may stand for half of a surrogate pair. A text of characters in which halves are
escaped in pairs only (`pairsHalves`) is read as a value without halves (`spelled_of_read`).
-/

namespace ContractOps.Json

variable {cs : WideText} {v : Json}

/-- Whether halves of surrogate pairs are escaped in pairs only: a second half stands right behind a
first one, and nowhere else. `pending` says that the escape of a first half has just been passed. -/
def pairsHalves (pending : Bool) : WideText → Bool
  | .char '\\' :: .char 'u' :: a :: b :: c :: d :: rest =>
    match hex4? [a, b, c, d] with
    | some n => pending == CodePoint.isLowHalf n && pairsHalves (CodePoint.isHighHalf n) rest
    | none => !pending && pairsHalves false (a :: b :: c :: d :: rest)
  | .char '\\' :: _ :: rest => !pending && pairsHalves false rest
  | _ :: rest => !pending && pairsHalves false rest
  | [] => !pending

/-- No halves, and none escaped but in pairs. -/
structure Whole (cs : WideText) : Prop where
  spelled : Spelled cs
  paired : pairsHalves false cs = true

theorem Whole.ofChars {chars : List Char} (h : pairsHalves false (.ofChars chars) = true) :
    Whole (.ofChars chars) :=
  ⟨spelled_ofChars chars, h⟩

theorem spelled_cons {c : CodePoint} : Spelled (c :: cs) ↔ c.char?.isSome = true ∧ Spelled cs :=
  Bool.and_eq_true_iff

/-! ## Steps of the scan -/

theorem pairsHalves_cons {c : CodePoint} (h : c ≠ .char '\\') (cs : WideText) :
    pairsHalves false (c :: cs) = pairsHalves false cs := by
  rw [pairsHalves]
  · rfl
  · intro a b c' d rest hc
    exact absurd hc h
  · intro _ _ hc
    exact absurd hc h

theorem pairsHalves_escape {letter : CodePoint} (h : letter ≠ .char 'u') (cs : WideText) :
    pairsHalves false (.char '\\' :: letter :: cs) = pairsHalves false cs := by
  rw [pairsHalves]
  · rfl
  · intro a b c' d rest hc
    exact absurd hc h

/-- Four digits and what follows them, behind the mark of an escape. -/
theorem pairsHalves_unit {a b c d : CodePoint} {n : Nat} (h : hex4? [a, b, c, d] = some n)
    (pending : Bool) (cs : WideText) :
    pairsHalves pending (.char '\\' :: .char 'u' :: a :: b :: c :: d :: cs) =
      (pending == CodePoint.isLowHalf n && pairsHalves (CodePoint.isHighHalf n) cs) := by
  rw [pairsHalves, h]

/-- The escape of a second half follows where one is due. -/
theorem exists_unit_of_pending (h : pairsHalves true cs = true) :
    ∃ (a b c d : CodePoint) (rest : WideText) (n : Nat),
      cs = .char '\\' :: .char 'u' :: a :: b :: c :: d :: rest ∧ hex4? [a, b, c, d] = some n ∧
        CodePoint.isLowHalf n = true ∧ pairsHalves false rest = true := by
  rw [pairsHalves.eq_def] at h
  split at h
  · next a b c d rest =>
    split at h
    · next n hunit =>
      obtain ⟨hlow, hrest⟩ := Bool.and_eq_true_iff.mp h
      have hlow' : CodePoint.isLowHalf n = true := by simpa using hlow
      have hhigh : CodePoint.isHighHalf n = false := by
        simp only [CodePoint.isLowHalf, CodePoint.isHighHalf, Bool.and_eq_true, decide_eq_true_eq,
          Bool.and_eq_false_iff, decide_eq_false_iff_not] at hlow' ⊢
        omega
      exact ⟨a, b, c, d, rest, n, rfl, hunit, hlow', hhigh ▸ hrest⟩
    · cases h
  · cases h
  · cases h
  · cases h

/-- A unit that is no half of a pair is a character. -/
theorem isSome_ofNat {n : Nat} (hhigh : CodePoint.isHighHalf n = false)
    (hlow : CodePoint.isLowHalf n = false) : (CodePoint.ofNat n).char?.isSome = true := by
  simp only [CodePoint.isLowHalf, CodePoint.isHighHalf, Bool.and_eq_false_iff,
    decide_eq_false_iff_not] at hhigh hlow
  rw [CodePoint.ofNat, dif_neg (by omega)]
  rfl

/-- So is what a pair stands for. -/
theorem isSome_join (high low : Nat) :
    (CodePoint.ofNat (CodePoint.join high low)).char?.isSome = true := by
  have hlarge : ¬(0xd800 ≤ CodePoint.join high low ∧ CodePoint.join high low < 0xe000) := by
    unfold CodePoint.join
    omega
  rw [CodePoint.ofNat, dif_neg hlarge]
  rfl

/-- The second half of a pair is seen if something follows it. -/
theorem secondHalf_unit {a b c d : CodePoint} {n : Nat} (h : hex4? [a, b, c, d] = some n)
    (hlow : CodePoint.isLowHalf n = true) (next : CodePoint) (rest : WideText) :
    ∃ hlt, secondHalf (.char '\\' :: .char 'u' :: a :: b :: c :: d :: next :: rest) =
      .ok (some (n, ⟨next :: rest, hlt⟩)) := by
  refine ⟨by simp +arith, ?_⟩
  rw [secondHalf, h]
  exact if_pos hlow

/-- An escape in a whole text stands for a character. Only at the end of the text, where the quote
is missing, the second half of a pair is not seen. -/
theorem whole_of_unicodeEscape {text : WideText} {point : CodePoint}
    {after : { r : WideText // r.length < text.length }}
    (h : unicodeEscape text = .ok (point, after)) (hmark : text = .char 'u' :: cs)
    (hwhole : Whole (.char '\\' :: text)) :
    point.char?.isSome = true ∧ Whole after ∨
      ∃ a b c d, after.1 = [.char '\\', .char 'u', a, b, c, d] := by
  obtain ⟨hspelled, hpaired⟩ := hwhole
  have htail : ∀ {c : CodePoint} {cs : WideText}, Spelled (c :: cs) → Spelled cs :=
    fun h => (spelled_cons.mp h).2
  rw [unicodeEscape.eq_def] at h
  split at h
  · next u a b c d e rest =>
    cases hmark
    have hrest : Spelled (e :: rest) := htail (htail (htail (htail (htail (htail hspelled)))))
    split at h
    · cases h
    · next n hunit =>
      rw [pairsHalves_unit hunit] at hpaired
      obtain ⟨hlow, hpaired⟩ := Bool.and_eq_true_iff.mp hpaired
      have hlow' : CodePoint.isLowHalf n = false := by simpa using hlow
      split at h
      · next hhigh =>
        -- the second half of the pair has to follow
        rw [hhigh] at hpaired
        obtain ⟨a', b', c', d', rest', m, heq, hunit', hlow'', hpaired'⟩ :=
          exists_unit_of_pending hpaired
        cases heq
        cases rest' with
        | nil =>
          have hnone : secondHalf (.char '\\' :: .char 'u' :: a' :: b' :: c' :: d' :: []) =
              .ok none := rfl
          rw [hnone] at h
          cases h
          exact .inr ⟨a', b', c', d', rfl⟩
        | cons e' rest' =>
          obtain ⟨_, hsecond⟩ := secondHalf_unit hunit' hlow'' e' rest'
          rw [hsecond] at h
          obtain ⟨rfl, rfl⟩ := Prod.mk.inj (Except.ok.inj h)
          exact .inl ⟨isSome_join n m,
            htail (htail (htail (htail (htail (htail hrest))))), hpaired'⟩
      · next hhigh =>
        rw [Bool.not_eq_true] at hhigh
        cases h
        rw [hhigh] at hpaired
        exact .inl ⟨isSome_ofNat hhigh hlow', hrest, hpaired⟩
  · cases h

/-- A text does not end with the escape of a unit. -/
theorem textBody_unit (start : WideText) (a b c d : CodePoint) :
    ∃ e, textBody start [.char '\\', .char 'u', a, b, c, d] = .error e := by
  rw [textBody, unicodeEscape]
  · exact ⟨_, rfl⟩
  · intro u a' b' c' d' e rest heq
    cases heq

/-- A text in quotes is read from a whole text as one without halves, and what is left is whole. -/
theorem spelled_of_textBody {start cs body : WideText}
    {after : { r : WideText // r.length < cs.length }}
    (h : textBody start cs = .ok (body, after)) (hwhole : Whole cs) : Spelled body ∧ Whole after := by
  rw [textBody.eq_def] at h
  split at h
  · cases h
  · cases h
    exact ⟨rfl, (spelled_cons.mp hwhole.spelled).2, hwhole.paired⟩
  · split at h
    · cases h
    · -- the escape of a unit, or of two
      next digits =>
      split at h
      · cases h
      · next point between hlt hpoint =>
        have hshorter : between.length < digits.length + 1 := hlt
        split at h
        · cases h
        · next hbody =>
          cases h
          rcases whole_of_unicodeEscape hpoint rfl hwhole with ⟨hchar, hbetween⟩ | ⟨a, b, c, d, heq⟩
          · obtain ⟨hspelled, hafter⟩ := spelled_of_textBody hbody hbetween
            exact ⟨spelled_cons.mpr ⟨hchar, hspelled⟩, hafter⟩
          · -- the text would end with the escape
            dsimp only at heq
            subst heq
            obtain ⟨e, he⟩ := textBody_unit start a b c d
            cases he.symm.trans hbody
    · -- an escape of one letter
      next letter rest hletter =>
      have hrest : Whole rest := ⟨(spelled_cons.mp (spelled_cons.mp hwhole.spelled).2).2,
        pairsHalves_escape hletter rest ▸ hwhole.paired⟩
      split at h
      · cases h
      · next point hpoint =>
        split at h
        · cases h
        · next hbody =>
          cases h
          obtain ⟨hspelled, hafter⟩ := spelled_of_textBody hbody hrest
          exact ⟨spelled_cons.mpr ⟨rfl, hspelled⟩, hafter⟩
  · -- a character that stands for itself
    next c rest hquote hslash =>
    obtain ⟨hc, hrest⟩ := spelled_cons.mp hwhole.spelled
    split at h
    · cases h
    · split at h
      · cases h
      · next hbody =>
        cases h
        obtain ⟨hspelled, hafter⟩ := spelled_of_textBody hbody
          ⟨hrest, pairsHalves_cons hslash rest ▸ hwhole.paired⟩
        exact ⟨spelled_cons.mpr ⟨hc, hspelled⟩, hafter⟩
termination_by cs.length
decreasing_by
  all_goals
    subst_vars
    simp only [List.length_cons]
    omega

/-- Whole texts admit texts without halves. -/
theorem admits_whole : Admits Spelled Whole where
  behind hc hwhole :=
    ⟨(spelled_cons.mp hwhole.spelled).2, pairsHalves_cons hc _ ▸ hwhole.paired⟩
  text := spelled_of_textBody

/-- A whole text is read as a value without halves. -/
theorem spelled_of_read (hwhole : Whole cs) (h : read cs = .ok v) : Fits Spelled maxDepth v :=
  fits_of_read admits_whole hwhole h

end ContractOps.Json
