import ContractOps.Command.Arguments
import ContractOps.Proofs.Json.Members
import ContractOps.Proofs.Json.Same
import ContractOps.Proofs.Task.Steps

/-!
# Tokens as an operator writes them

A token is written as an object with one member, which is named after the kind of the token and
holds an object with one text (`Token.Written`). A token is read from such a value, and from one
that has more in it or identifies the token by something else than a text (`Token.Loose`), and from
no other (`ofJson_eq_ok_iff`). A text that is no token is refused by name, unless the reader gives
it up for its size. So the grammar is followed but for these texts (`parseToken_follows_iff`).
-/

namespace ContractOps

namespace Token

/-- The values that are written for tokens. -/
inductive Written : Json → Token → Prop
  | native (denom : WideText) :
    Written (.obj [("native", .obj [("denom", .str denom)])]) (.native (.str denom))
  | cw20 (address : WideText) :
    Written (.obj [("cw20", .obj [("address", .str address)])]) (.cw20 (.str address))

/-- There is one member, a text under the name. -/
def IsText (name : WideText) (members : Members Json) : Prop :=
  ∃ s, members = [(name, Json.str s)]

/-- Values from which a token is read all the same: there are other members next to the one that
identifies the token, or this one is no text. -/
inductive Loose : Json → Token → Prop
  | native {members : Members Json} {denom : Json} (h : members.get? "denom" = some denom)
    (hloose : ¬IsText "denom" members) : Loose (.obj [("native", .obj members)]) (.native denom)
  | cw20 {members : Members Json} {address : Json} (h : members.get? "address" = some address)
    (hloose : ¬IsText "address" members) : Loose (.obj [("cw20", .obj members)]) (.cw20 address)

variable {v : Json} {t t' : Token}

theorem written_native_iff {denom : WideText} :
    Written v (.native (.str denom)) ↔ v = .obj [("native", .obj [("denom", .str denom)])] := by
  constructor
  · rintro ⟨⟩
    rfl
  · rintro rfl
    exact .native denom

theorem written_cw20_iff {address : WideText} :
    Written v (.cw20 (.str address)) ↔ v = .obj [("cw20", .obj [("address", .str address)])] := by
  constructor
  · rintro ⟨⟩
    rfl
  · rintro rfl
    exact .cw20 address

theorem Loose.not_written (h : Loose v t) : ¬Written v t' := by
  intro hwritten
  cases h with
  | native _ hloose =>
    cases hwritten with
    | native denom => exact hloose ⟨denom, rfl⟩
  | cw20 _ hloose =>
    cases hwritten with
    | cw20 address => exact hloose ⟨address, rfl⟩

/-! ## Reading values -/

theorem ofJson_native (members : Members Json) :
    ofJson (.obj [("native", .obj members)]) =
      match members.get? "denom" with
      | some denom => .ok (.native denom)
      | none => .error (.failure (.malformedToken (.obj [("native", .obj members)]))) := by
  rw [ofJson, if_pos rfl, Json.member]
  cases members.get? "denom" <;> rfl

theorem ofJson_cw20 (members : Members Json) :
    ofJson (.obj [("cw20", .obj members)]) =
      match members.get? "address" with
      | some address => .ok (.cw20 address)
      | none => .error (.failure (.malformedToken (.obj [("cw20", .obj members)]))) := by
  rw [ofJson, if_neg (by decide), if_pos rfl, Json.member]
  cases members.get? "address" <;> rfl

/-- The only member of an object, under which a token is found. -/
theorem exists_members_of_ofJson (h : ofJson v = .ok t) :
    ∃ members : Members Json,
      (∃ denom, v = .obj [("native", .obj members)] ∧ members.get? "denom" = some denom ∧
        t = .native denom) ∨
      ∃ address, v = .obj [("cw20", .obj members)] ∧ members.get? "address" = some address ∧
        t = .cw20 address := by
  rw [ofJson.eq_def] at h
  dsimp only at h
  split at h
  · split at h
    · next hname =>
      subst hname
      split at h
      · next hmember =>
        cases h
        obtain ⟨members, rfl, hget⟩ := Json.member_eq_ok.mp hmember
        exact ⟨members, .inl ⟨_, rfl, hget, rfl⟩⟩
      · cases h
    · split at h
      · next hname =>
        subst hname
        split at h
        · next hmember =>
          cases h
          obtain ⟨members, rfl, hget⟩ := Json.member_eq_ok.mp hmember
          exact ⟨members, .inr ⟨_, rfl, hget, rfl⟩⟩
        · cases h
      · cases h
  · cases h

/-- A token is read from the values that are written for it, and from the loose ones. -/
theorem ofJson_eq_ok_iff : ofJson v = .ok t ↔ Written v t ∨ Loose v t := by
  constructor
  · intro h
    obtain ⟨members, ⟨denom, rfl, hget, rfl⟩ | ⟨address, rfl, hget, rfl⟩⟩ :=
      exists_members_of_ofJson h
    · by_cases htext : IsText "denom" members
      · obtain ⟨s, rfl⟩ := htext
        cases hget
        exact .inl (.native s)
      · exact .inr (.native hget htext)
    · by_cases htext : IsText "address" members
      · obtain ⟨s, rfl⟩ := htext
        cases hget
        exact .inl (.cw20 s)
      · exact .inr (.cw20 hget htext)
  · rintro (h | h)
    · cases h <;> rfl
    · cases h with
      | native hget => rw [ofJson_native, hget]
      | cw20 hget => rw [ofJson_cw20, hget]

/-- What is no token is refused by name. -/
theorem ofJson_eq_ok_or_funding (v : Json) :
    (∃ t, ofJson v = .ok t) ∨
      ∃ f : Failure, ofJson v = .error (.failure f) ∧ f.family = .funding := by
  rw [ofJson.eq_def]
  dsimp only
  split
  · split
    · split
      · exact .inl ⟨_, rfl⟩
      · exact .inr ⟨_, rfl, rfl⟩
    · split
      · split
        · exact .inl ⟨_, rfl⟩
        · exact .inr ⟨_, rfl, rfl⟩
      · exact .inr ⟨_, rfl, rfl⟩
  · exact .inr ⟨_, rfl, rfl⟩

end Token

namespace Command

open Token (Written Loose)

variable {s : WideText} {t : Token}

/-! ## Reading texts -/

/-- The grammar of tokens is followed at a text: it is taken for a token exactly if this token is
written in it, and refused by name if none is. -/
structure FollowsGrammar (s : WideText) : Prop where
  native : ∀ denom, parseToken s = .ok (.native (.str denom)) ↔
    Json.read s = .ok (.obj [("native", .obj [("denom", .str denom)])])
  cw20 : ∀ address, parseToken s = .ok (.cw20 (.str address)) ↔
    Json.read s = .ok (.obj [("cw20", .obj [("address", .str address)])])
  other : (∀ v t, Json.read s = .ok v → ¬Written v t) →
    ∃ f : Failure, parseToken s = .error (.failure f) ∧ f.family = .funding

/-- The texts at which the grammar is not followed: a loose value is taken for a token, and the
reader gives up at an integer with too many digits and at values in too many others. -/
inductive Strays (s : WideText) : Prop
  | loose {v : Json} {t : Token} (hread : Json.read s = .ok v) (h : Loose v t)
  | tooLong {digits : Nat} (hread : Json.read s = .error (.tooLong digits))
  | tooDeep {container : Json.Container} (hread : Json.read s = .error (.tooDeep container))

theorem parseToken_of_read {v : Json} (h : Json.read s = .ok v) :
    parseToken s = Token.ofJson v := by
  rw [parseToken, h]

theorem parseToken_eq_ok_iff :
    parseToken s = .ok t ↔ ∃ v, Json.read s = .ok v ∧ (Written v t ∨ Loose v t) := by
  constructor
  · intro h
    cases hread : Json.read s with
    | ok v =>
      rw [parseToken_of_read hread] at h
      exact ⟨v, rfl, Token.ofJson_eq_ok_iff.mp h⟩
    | error e =>
      rw [parseToken, hread] at h
      cases e <;> cases h
  · rintro ⟨v, hread, hv⟩
    rw [parseToken_of_read hread]
    exact Token.ofJson_eq_ok_iff.mpr hv

/-- Where no value is loose, tokens are the written ones. -/
theorem parseToken_eq_ok_of_not_strays (h : ¬Strays s) :
    parseToken s = .ok t ↔ ∃ v, Json.read s = .ok v ∧ Written v t := by
  rw [parseToken_eq_ok_iff]
  constructor
  · rintro ⟨v, hread, hwritten | hloose⟩
    · exact ⟨v, hread, hwritten⟩
    · exact absurd (.loose hread hloose) h
  · rintro ⟨v, hread, hwritten⟩
    exact ⟨v, hread, .inl hwritten⟩

/-- A token that is written in one way only is taken from the texts of that value. -/
theorem parseToken_eq_ok_iff_read (h : ¬Strays s) {v : Json} (hv : ∀ w, Written w t ↔ w = v) :
    parseToken s = .ok t ↔ Json.read s = .ok v := by
  rw [parseToken_eq_ok_of_not_strays h]
  constructor
  · rintro ⟨w, hread, hwritten⟩
    rwa [← (hv w).mp hwritten]
  · intro hread
    exact ⟨v, hread, (hv v).mpr rfl⟩

theorem parseToken_refused (h : ¬Strays s) (hnone : ∀ t, parseToken s ≠ .ok t) :
    ∃ f : Failure, parseToken s = .error (.failure f) ∧ f.family = .funding := by
  cases hread : Json.read s with
  | ok v =>
    rw [parseToken_of_read hread] at hnone ⊢
    rcases Token.ofJson_eq_ok_or_funding v with ⟨t, ht⟩ | hrefused
    · exact absurd ht (hnone t)
    · exact hrefused
  | error e =>
    cases e with
    | malformed reason line column offset =>
      refine ⟨.tokenNotJson s (.malformed reason line column offset), ?_, rfl⟩
      rw [parseToken, hread]
    | tooLong digits => exact absurd (.tooLong hread) h
    | tooDeep container => exact absurd (.tooDeep hread) h

theorem not_follows_of_strays (h : Strays s) : ¬FollowsGrammar s := by
  intro hfollows
  cases h with
  | @loose v t hread hloose =>
    -- the value is taken for a token, though none is written in it
    have hnone : ∀ w t', Json.read s = .ok w → ¬Written w t' := by
      intro w t' hw
      cases hread.symm.trans hw
      exact hloose.not_written
    obtain ⟨f, hrefused, _⟩ := hfollows.other hnone
    have htaken : parseToken s = .ok t := parseToken_eq_ok_iff.mpr ⟨v, hread, .inr hloose⟩
    cases htaken.symm.trans hrefused
  | tooLong hread =>
    obtain ⟨f, hrefused, _⟩ := hfollows.other fun v t hv => by cases hread.symm.trans hv
    rw [parseToken, hread] at hrefused
    cases hrefused
  | tooDeep hread =>
    obtain ⟨f, hrefused, _⟩ := hfollows.other fun v t hv => by cases hread.symm.trans hv
    rw [parseToken, hread] at hrefused
    cases hrefused

/-- A text is taken for the token that is written in it, or read from a loose value. The grammar is
followed at all texts but those with a loose value, or at which the reader gives up. -/
theorem parseToken_follows_iff (s : WideText) :
    (∀ t, parseToken s = .ok t ↔ ∃ v, Json.read s = .ok v ∧ (Written v t ∨ Loose v t)) ∧
    (FollowsGrammar s ↔ ¬Strays s) := by
  refine ⟨fun t => parseToken_eq_ok_iff, fun hfollows hstrays => ?_, fun h => ?_⟩
  · exact not_follows_of_strays hstrays hfollows
  · constructor
    · exact fun denom => parseToken_eq_ok_iff_read h fun v => Token.written_native_iff
    · exact fun address => parseToken_eq_ok_iff_read h fun v => Token.written_cw20_iff
    · intro hnone
      refine parseToken_refused h fun t ht => ?_
      obtain ⟨v, hread, hwritten⟩ := (parseToken_eq_ok_of_not_strays h).mp ht
      exact hnone v t hread hwritten

/-! ### A second member -/

/-- A native token with an amount next to its denomination. -/
def crowdedToken : String := "\x7b\"native\": \x7b\"denom\": \"u\", \"amount\": \"5\"\x7d\x7d"

/-- The token is taken, and the grammar is not followed. -/
theorem parseToken_crowded :
    parseToken crowdedToken = .ok (.native (.str "u")) ∧ ¬FollowsGrammar crowdedToken := by
  have hread : Json.read crowdedToken =
      .ok (.obj [("native", .obj [("denom", .str "u"), ("amount", .str "5")])]) :=
    eq_ok_of_toOption (by decide +kernel)
  have hloose : Loose (.obj [("native", .obj [("denom", .str "u"), ("amount", .str "5")])])
      (.native (.str "u")) := by
    refine .native rfl ?_
    rintro ⟨_, heq⟩
    cases heq
  obtain ⟨htaken, hfollows⟩ := parseToken_follows_iff crowdedToken
  exact ⟨(htaken _).mpr ⟨_, hread, .inr hloose⟩, fun h => hfollows.mp h (.loose hread hloose)⟩

end Command

end ContractOps
