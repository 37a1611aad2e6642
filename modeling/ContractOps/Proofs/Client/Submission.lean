import ContractOps.Client.Basic
import ContractOps.Proofs.Json.Accesses
import ContractOps.Proofs.Json.Members

/-!
# What a node says of a submission

A node accepts a transaction with an object that names no error and whose result has the code zero,
where nothing in place of the result, and nothing in place of the code, counts as zero as well
(`Accepts`). An error, and any other code, is a refusal, and fails by its name. From an object of
another shape no verdict can be read (`Garbled`), and then the submission fails without a name
(`checkSubmission_cases`).
-/

namespace ContractOps.Client

/-- The result that a body shows. What counts as nothing stands for the empty object. -/
def verdict (members : Members Json) : Json :=
  let result := (members.get? "result").getD .null
  if result.truthy then result else .obj []

/-- The code of a result. Without one it is zero. -/
def codeOf (result : Members Json) : Except Fault Int := ((result.get? "code").getD (.int 0)).toInt

/-- A body by which a node accepts a transaction. -/
def Accepts (body : Json) : Prop :=
  ∃ members result : Members Json, body = .obj members ∧ members.get? "error" = none ∧
    verdict members = .obj result ∧ codeOf result = .ok 0

/-- A body that names no error, and from which no verdict can be read: its result is there and no
object, or has a code that denotes no integer. -/
inductive Garbled : Json → Prop
  | result {members : Members Json} (herror : members.get? "error" = none)
      (hresult : ∀ result, verdict members ≠ .obj result) : Garbled (.obj members)
  | code {members result : Members Json} {e : Fault} (herror : members.get? "error" = none)
      (hresult : verdict members = .obj result) (hcode : codeOf result = .error e) :
      Garbled (.obj members)

variable {hash : String} {members : Members Json}

/-- A body that is no object is no answer to a submission. -/
theorem checkSubmission_of_ne_obj {body : Json} (h : ∀ members, body ≠ .obj members) :
    ∃ e, checkSubmission hash body = .error e ∧ ∀ f, e ≠ .failure f := by
  cases body with
  | obj members => exact absurd rfl (h members)
  | arr items =>
    -- an error in a list has no place in it
    rw [checkSubmission, Json.contains, except_ok_bind]
    split
    · exact ⟨_, rfl, nofun⟩
    · exact ⟨_, rfl, nofun⟩
  | str text =>
    rw [checkSubmission, Json.contains, except_ok_bind]
    split
    · exact ⟨_, rfl, nofun⟩
    · exact ⟨_, rfl, nofun⟩
  | _ => exact ⟨_, rfl, nofun⟩

theorem checkSubmission_of_error {e : Json} (h : members.get? "error" = some e) :
    checkSubmission hash (.obj members) = .error (.failure (.unsent hash e.display)) := by
  have hmember : (Json.obj members).member "error" = .ok e := by
    rw [Json.member, h]
  rw [checkSubmission, Json.contains_obj, h, except_ok_bind, Option.isSome_some, if_pos rfl,
    hmember]
  rfl

theorem checkSubmission_of_result (h : members.get? "error" = none) :
    checkSubmission hash (.obj members) =
      ((verdict members).getD "code" (.int 0) >>= fun code => code.toInt >>= fun n =>
        if n ≠ 0 then
          (verdict members).getD "log" .null >>= fun log => .error (.failure (.rejected hash log))
        else .ok ()) := by
  rw [checkSubmission, Json.contains_obj, h, except_ok_bind]
  rfl

theorem checkSubmission_of_code {result : Members Json} (h : members.get? "error" = none)
    (hresult : verdict members = .obj result) :
    checkSubmission hash (.obj members) =
      (codeOf result >>= fun n =>
        if n ≠ 0 then .error (.failure (.rejected hash ((result.get? "log").getD .null)))
        else .ok ()) := by
  rw [checkSubmission_of_result h, hresult, Json.getD_obj, Json.getD_obj]
  rfl

/-- A garbled body comes to a fault without a name. -/
theorem Garbled.checkSubmission {body : Json} (h : Garbled body) :
    ∃ e, Client.checkSubmission hash body = .error e ∧ ∀ f, e ≠ .failure f := by
  cases h with
  | @result members herror hresult =>
    rw [checkSubmission_of_result herror]
    -- nothing but an object has members, a code among them
    cases hverdict : verdict members with
    | obj result => exact absurd hverdict (hresult result)
    | _ => exact ⟨_, rfl, nofun⟩
  | @code members result e herror hresult hcode =>
    rw [checkSubmission_of_code herror hresult, hcode]
    refine ⟨e, rfl, ?_⟩
    rintro f rfl
    exact Json.unnamed_toInt _ f hcode

/-- An object accepts a submission, or refuses it by name, or is garbled. -/
theorem checkSubmission_cases (hash : String) (members : Members Json) :
    Accepts (.obj members) ∨
    (∃ f, checkSubmission hash (.obj members) = .error (.failure f) ∧ f.family = .broadcast) ∨
    Garbled (.obj members) := by
  cases herror : members.get? "error" with
  | some e => exact .inr (.inl ⟨_, checkSubmission_of_error herror, rfl⟩)
  | none =>
    by_cases hobject : ∃ result : Members Json, verdict members = .obj result
    · obtain ⟨result, hresult⟩ := hobject
      cases hcode : codeOf result with
      | error e => exact .inr (.inr (.code herror hresult hcode))
      | ok n =>
        by_cases hzero : n = 0
        · subst hzero
          exact .inl ⟨members, result, rfl, herror, hresult, hcode⟩
        · refine .inr (.inl ⟨.rejected hash ((result.get? "log").getD .null), ?_, rfl⟩)
          rw [checkSubmission_of_code herror hresult, hcode, except_ok_bind, if_pos hzero]
    · exact .inr (.inr (.result herror fun result heq => hobject ⟨result, heq⟩))

/-- Nothing is left to say of a submission that is accepted, and of no other one. -/
theorem checkSubmission_eq_ok {body : Json} :
    checkSubmission hash body = .ok () ↔ Accepts body := by
  constructor
  · intro h
    by_cases hobject : ∃ members, body = .obj members
    · obtain ⟨members, rfl⟩ := hobject
      obtain haccepts | ⟨f, hrefused, _⟩ | hgarbled := checkSubmission_cases hash members
      · exact haccepts
      · cases hrefused.symm.trans h
      · obtain ⟨e, hfault, _⟩ := hgarbled.checkSubmission
        cases hfault.symm.trans h
    · obtain ⟨e, hfault, _⟩ := checkSubmission_of_ne_obj fun members heq => hobject ⟨members, heq⟩
      cases hfault.symm.trans h
  · rintro ⟨members, result, rfl, herror, hresult, hcode⟩
    rw [checkSubmission_of_code herror hresult, hcode]
    rfl

end ContractOps.Client
