import ContractOps.Proofs.Task.Steps
import Mathlib.Data.List.Forall2

/-!
# Items one by one

What is done with every item of a list relates the results to the items one by one
(`forall₂_of_mapM_eq_ok`). What holds of the items in their order is so carried over to the results
(`pairwise_of_forall₂`). A check of all items is passed if each of them passes it
(`forM_eq_ok_iff`).
-/

namespace ContractOps

variable {α β : Type} {r : α → β → Prop} {as : List α} {bs : List β}

/-- A step that succeeds for a list has succeeded for every item. -/
theorem forall₂_of_mapM_eq_ok {ε : Type} {f : α → Except ε β} (h : as.mapM f = .ok bs) :
    List.Forall₂ (fun a b => f a = .ok b) as bs := by
  induction as generalizing bs with
  | nil =>
    cases h
    exact .nil
  | cons a as ih =>
    rw [List.mapM_cons] at h
    obtain ⟨b, hb, h⟩ := except_bind_eq_ok.mp h
    obtain ⟨rest, hrest, h⟩ := except_bind_eq_ok.mp h
    cases h
    exact .cons hb (ih hrest)

/-- It does so exactly if every item has a result. -/
theorem mapM_eq_ok_iff {ε : Type} {f : α → Except ε β} :
    as.mapM f = .ok bs ↔ List.Forall₂ (fun a b => f a = .ok b) as bs := by
  refine ⟨forall₂_of_mapM_eq_ok, fun h => ?_⟩
  induction h with
  | nil => rfl
  | cons hfirst _ ih =>
    rw [List.mapM_cons, hfirst, except_ok_bind, ih]
    rfl

/-- A check is passed by a list if every item passes it. -/
theorem forM_eq_ok_iff {ε : Type} {check : α → Except ε Unit} :
    as.forM check = .ok () ↔ ∀ a ∈ as, check a = .ok () := by
  induction as with
  | nil => exact iff_of_true rfl (by simp)
  | cons a as ih =>
    rw [List.forall_mem_cons, ← ih]
    exact except_bind_eq_ok.trans ⟨fun ⟨_, ha, has⟩ => ⟨ha, has⟩, fun ⟨ha, has⟩ => ⟨(), ha, has⟩⟩

/-- It fails with the fault of an item. -/
theorem exists_of_forM_eq_error {ε : Type} {check : α → Except ε Unit} {e : ε}
    (h : as.forM check = .error e) : ∃ a ∈ as, check a = .error e := by
  induction as with
  | nil => cases h
  | cons a as ih =>
    have hstep : (check a >>= fun _ => as.forM check) = .error e := h
    cases ha : check a with
    | error fault =>
      rw [ha] at hstep
      cases hstep
      exact ⟨a, List.mem_cons_self, ha⟩
    | ok _ =>
      rw [ha] at hstep
      obtain ⟨b, hb, hfault⟩ := ih hstep
      exact ⟨b, List.mem_cons_of_mem a hb, hfault⟩

/-- An item is related to one of a related list. -/
theorem exists_of_forall₂_mem (h : List.Forall₂ r as bs) {b : β} (hb : b ∈ bs) :
    ∃ a ∈ as, r a b := by
  induction h with
  | nil => cases hb
  | cons hfirst _ ih =>
    rcases List.mem_cons.mp hb with rfl | hrest
    · exact ⟨_, List.mem_cons_self, hfirst⟩
    · obtain ⟨a, ha, hr⟩ := ih hrest
      exact ⟨a, List.mem_cons_of_mem _ ha, hr⟩

/-- What holds between the items of a list holds between those that are related to them. -/
theorem pairwise_of_forall₂ {p : α → α → Prop} {q : β → β → Prop}
    (hpq : ∀ a a' b b', r a b → r a' b' → p a a' → q b b') (h : List.Forall₂ r as bs)
    (hp : as.Pairwise p) : bs.Pairwise q := by
  induction h with
  | nil => exact .nil
  | cons hfirst hrest ih =>
    obtain ⟨hbefore, hp⟩ := List.pairwise_cons.mp hp
    refine List.pairwise_cons.mpr ⟨fun b hb => ?_, ih hp⟩
    obtain ⟨a, ha, hr⟩ := exists_of_forall₂_mem hrest hb
    exact hpq _ _ _ _ hfirst hr (hbefore a ha)

end ContractOps
