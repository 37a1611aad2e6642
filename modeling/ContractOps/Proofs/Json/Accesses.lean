import ContractOps.Proofs.Task.Steps
import ContractOps.Json.Access

/-!
# Faults of accesses

An access into a value fails if the value has another shape, or if nothing can be made of it. Such a
fault is never a failure with a name (`Unnamed`), and steps that fail without a name fail so
together (`Unnamed.bind`).
-/

namespace ContractOps

/-- The result is no failure with a name. -/
def Unnamed {α : Type} (result : Except Fault α) : Prop := ∀ f, result ≠ .error (.failure f)

namespace Unnamed

variable {α β : Type}

theorem ok (a : α) : Unnamed (.ok a) := by
  intro f h
  cases h

theorem error {e : Fault} (h : ∀ f, e ≠ .failure f) : Unnamed (.error e : Except Fault α) := by
  intro f hnamed
  exact h f (Except.error.inj hnamed)

theorem bind {result : Except Fault α} {next : α → Except Fault β} (h : Unnamed result)
    (hnext : ∀ a, Unnamed (next a)) : Unnamed (result >>= next) := by
  cases result with
  | ok a => exact hnext a
  | error e =>
    intro f hnamed
    exact h f (congrArg Except.error (Except.error.inj hnamed))

end Unnamed

namespace Json

theorem unnamed_getD (v : Json) (name : WideText) (other : Json) :
    Unnamed (v.getD name other) := by
  refine .bind ?_ fun found => .ok _
  cases v with
  | obj members => exact .ok _
  | _ => exact .error nofun

theorem unnamed_member (v : Json) (name : WideText) : Unnamed (v.member name) := by
  cases v with
  | obj members =>
    rw [member]
    split
    · exact .ok _
    · exact .error nofun
  | _ => exact .error nofun

theorem unnamed_items (v : Json) : Unnamed v.items := by
  cases v with
  | arr _ | obj _ | str _ => exact .ok _
  | _ => exact .error nofun

theorem unnamed_toInt (v : Json) : Unnamed v.toInt := by
  cases v with
  | bool _ | int _ => exact .ok _
  | float x =>
    show Unnamed (floatToInt x)
    unfold floatToInt
    split
    · exact .ok _
    · exact .error nofun
    · exact .error nofun
  | str s =>
    rw [toInt, textToInt]
    split
    · exact .ok _
    · exact .error nofun
    · exact .error nofun
  | _ => exact .error nofun

end Json

end ContractOps
