import ContractOps.Proofs.Json.Readable
import ContractOps.Proofs.Task.Items
import ContractOps.Tx.CodeIds

/-!
# How long code ids are

A code id is read from a text, and so has no more digits than the reader of the configuration takes
(`short_of_codeIds`).
-/

namespace ContractOps.TxResult

/-- An integer with no more digits than are read. -/
def Short (n : Int) : Prop := Digits.count n.natAbs ≤ Numeral.maxDigits

theorem short_zero : Short 0 := by
  have h : (0 : Nat) < 10 := by decide
  rw [Short, Int.natAbs_zero, Digits.count, if_pos h]
  decide

theorem short_of_int? {s : String} {n : Int} (h : Numeral.int? s = .ok n) : Short n := by
  rw [Numeral.int?] at h
  rcases hsign : Decimal.splitSign (Numeral.ascii s) with ⟨negative, rest⟩
  rw [hsign] at h
  dsimp only at h
  split at h
  · cases h
  · next hdigits =>
    split at h
    · cases h
    · next hshort =>
      split at h
      · cases h
      · cases h
        have hne : (rest.takeWhile fun c => Digits.isDigit c || c = '_').filter Digits.isDigit ≠
            [] := by
          intro hnil
          rw [hnil] at hdigits
          simp at hdigits
        have hcount := Json.count_ofChars_le hne
        have habs : ∀ k : Nat, (if negative then -(k : Int) else k).natAbs = k := by
          intro k
          split <;> simp
        rw [Short, habs]
        omega

theorem short_of_textToInt {s : WideText} {n : Int} (h : Json.textToInt s = .ok n) : Short n := by
  rw [Json.textToInt] at h
  split at h
  · next hread =>
    cases h
    exact short_of_int? hread
  · cases h
  · cases h

theorem short_of_codeIdOf {value : Json} {n : Int} (h : codeIdOf value = .ok n) : Short n := by
  have hread : ∀ s : WideText,
      (if !s.isEmpty && s.all (·.is Text.isDigitLike) then Json.textToInt s else .ok 0) = .ok n →
        Short n := by
    intro s hs
    split at hs
    · exact short_of_textToInt hs
    · cases hs
      exact short_zero
  exact hread _ h

theorem short_of_codeIdsOfEvents {events : List Json} {ids : List Int}
    (h : codeIdsOfEvents events = .ok ids) : ∀ n ∈ ids, Short n := by
  induction events generalizing ids with
  | nil =>
    cases h
    simp
  | cons event rest ih =>
    obtain ⟨type, _, h⟩ := except_bind_eq_ok.mp h
    split at h
    · obtain ⟨listed, _, h⟩ := except_bind_eq_ok.mp h
      obtain ⟨marks, _, h⟩ := except_bind_eq_ok.mp h
      obtain ⟨value, _, h⟩ := except_bind_eq_ok.mp h
      obtain ⟨codeId, hcodeId, h⟩ := except_bind_eq_ok.mp h
      obtain ⟨others, hothers, h⟩ := except_bind_eq_ok.mp h
      cases h
      exact List.forall_mem_cons.mpr ⟨short_of_codeIdOf hcodeId, ih hothers⟩
    · exact ih h

theorem short_of_mapM_textToInt {texts : List WideText} {ids : List Int}
    (h : texts.mapM Json.textToInt = .ok ids) : ∀ n ∈ ids, Short n := by
  intro n hn
  obtain ⟨text, _, hread⟩ := exists_of_forall₂_mem (forall₂_of_mapM_eq_ok h) hn
  exact short_of_textToInt hread

/-- The code ids of a transaction are short. -/
theorem short_of_codeIds {format : EventFormat} {tx : TxResult} {ids : List Int}
    (h : codeIds format tx = .ok ids) : ∀ n ∈ ids, Short n := by
  cases format with
  | events =>
    obtain ⟨listed, _, h⟩ := except_bind_eq_ok.mp h
    exact short_of_codeIdsOfEvents h
  | rawLog =>
    change ofRawLog tx.rawLog = .ok ids at h
    rw [ofRawLog.eq_def] at h
    split at h
    · split at h
      · exact short_of_mapM_textToInt h
      · cases h
    · cases h
      simp

end ContractOps.TxResult
