import ContractOps.Message.Funding
import ContractOps.Proofs.Json.Depth
import ContractOps.Proofs.Json.Spelled
import ContractOps.Proofs.Task.Steps

/-!
# What messages carry

A text field of a message takes the texts without halves of surrogate pairs, and holds them as they
are (`plainText_eq_ok`). A payload is printed in ASCII, and the value that it was printed from is
read back from it where there is room for its levels (`decodeWithin_payload`), and nowhere else
(`decodeWithin_deep`).
-/

namespace ContractOps

namespace Message

/-! ## Text fields -/

@[simp] theorem plainText_ofString (s : String) : plainText s = .ok s := by
  rw [plainText, WideText.ofString, Utf8.halves?_ofChars]
  dsimp only
  rw [WideText.plain_ofChars, String.ofList_toList]

@[simp] theorem textField_ofString (s : String) : textField (.str s) = .ok s := plainText_ofString s

/-- A text without halves is a string. -/
theorem exists_string {w : WideText} (h : Json.Spelled w) : ∃ s : String, w = s := by
  obtain ⟨chars, rfl⟩ := Json.exists_chars h
  exact ⟨String.ofList chars, by rw [WideText.ofString, String.toList_ofList]⟩

/-- A text that fits a field is the text of the field. -/
theorem plainText_eq_ok {w : WideText} {s : String} (h : plainText w = .ok s) : w = s := by
  rw [plainText] at h
  split at h
  · cases h
  · next hplain =>
    obtain ⟨t, rfl⟩ := exists_string ((Json.halves?_eq_none_iff 0 w).mp hplain)
    have hfield := plainText_ofString t
    rw [plainText, hplain] at hfield
    cases h.symm.trans hfield
    rfl

end Message

namespace Execution

/-! ## Payloads -/

variable {v : Json} {levels : Nat}

/-- A payload is decoded as the value that it was printed from. -/
theorem decodeWithin_payload (h : v.Fits Json.Spelled levels) :
    decodeWithin levels (Message.payload v) = .ok v := by
  rw [decodeWithin, Message.payload, Utf8.ofString, Utf8.decode?_encode]
  dsimp only
  rw [← WideText.ofString, Json.readWithin_compact h]

theorem decodePayload_payload (h : v.Fits Json.Spelled Json.maxDepth) :
    decodePayload (Message.payload v) = .ok v :=
  decodeWithin_payload h

/-- What a value is printed on one line as is read with any number of levels that it fits. -/
theorem scans_compact (h : v.Fits Json.Spelled levels) :
    Json.Scans (Json.scan levels (v.compact : WideText)) v [] := by
  have hread := Json.reads_print Json.Style.legible_line h 0 [] .nil
  rwa [List.append_nil, ← Json.ofString_compact h] at hread

/-- Different values are different payloads. -/
theorem payload_inj {v' : Json} {levels' : Nat} (h : v.Fits Json.Spelled levels)
    (h' : v'.Fits Json.Spelled levels') : Message.payload v = Message.payload v' ↔ v = v' := by
  refine ⟨fun heq => ?_, fun heq => heq ▸ rfl⟩
  have hchars : v.compact.toList = v'.compact.toList := by
    apply Option.some.inj
    rw [← Utf8.decode?_encode, ← Utf8.decode?_encode, ← Utf8.ofString, ← Utf8.ofString]
    exact congrArg Utf8.decode? heq
  -- one reader takes both, if it goes as deep as the deeper one
  have hread := scans_compact (h.weaken (Nat.le_max_left levels levels'))
  have hread' := scans_compact (h'.weaken (Nat.le_max_right levels levels'))
  rw [String.toList_inj.mp hchars] at hread
  exact hread.unique hread'

/-! ## Composed executions -/

/-- What has been composed has its fields from the values. -/
theorem compose_eq_ok {contract sender payload : Json} {funds : List Coin} {e : Execution}
    (h : compose contract sender payload funds = .ok e) :
    ∃ author address, Message.textField sender = .ok author ∧
      Message.textField contract = .ok address ∧
      e = { sender := author, contract := address, payload := Message.payload payload, funds } := by
  obtain ⟨author, hsender, h⟩ := except_bind_eq_ok.mp h
  obtain ⟨address, hcontract, h⟩ := except_bind_eq_ok.mp h
  cases h
  exact ⟨author, address, hsender, hcontract, rfl⟩

end Execution

end ContractOps
