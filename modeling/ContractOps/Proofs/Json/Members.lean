import ContractOps.Json.Access
import ContractOps.Proofs.Json.Same
import Mathlib.Data.List.Basic

/-!
# Names of members

Putting members keeps their names apart (`nodup_put`), and members whose names are apart are not
changed by putting them one after the other (`ofList_of_nodup`). A member that is there is found,
whatever would be taken in its place (`getD_of_member`), and its name is contained (`contains_obj`).
-/

namespace ContractOps.Members

variable {α : Type}

theorem mem_put {ms : Members α} {name : WideText} {value : α} {m : WideText × α}
    (h : m ∈ ms.put name value) : m ∈ ms ∨ m = (name, value) := by
  induction ms with
  | nil =>
    rw [put, List.mem_singleton] at h
    exact .inr (by rw [h])
  | cons first rest ih =>
    rw [Members.put] at h
    split at h
    · next heq =>
      rcases List.mem_cons.mp h with rfl | h
      · exact .inr (by rw [heq])
      · exact .inl (List.mem_cons_of_mem first h)
    · rcases List.mem_cons.mp h with rfl | h
      · exact .inl List.mem_cons_self
      · exact (ih h).imp_left (List.mem_cons_of_mem first)

theorem map_fst_put (ms : Members α) (name : WideText) (value : α) :
    (ms.put name value).map Prod.fst =
      if name ∈ ms.map Prod.fst then ms.map Prod.fst else ms.map Prod.fst ++ [name] := by
  induction ms with
  | nil => rfl
  | cons first rest ih =>
    rw [Members.put]
    split
    · next heq => simp [heq]
    · next hne =>
      rw [List.map_cons, ih, List.map_cons]
      split
      · next hmem => rw [if_pos (List.mem_cons_of_mem _ hmem)]
      · next hmem =>
        rw [if_neg (by simpa [Ne.symm hne] using hmem)]
        rfl

/-- Of two values under one name the later one stays. -/
theorem put_put (ms : Members α) (name : WideText) (old value : α) :
    (ms.put name old).put name value = ms.put name value := by
  induction ms with
  | nil => simp [put]
  | cons first rest ih =>
    obtain ⟨other, v⟩ := first
    by_cases h : other = name
    · simp [put, h]
    · simp [put, h, ih]

/-- Putting keeps the names apart. -/
theorem nodup_put {ms : Members α} (name : WideText) (value : α)
    (h : (ms.map Prod.fst).Nodup) : ((ms.put name value).map Prod.fst).Nodup := by
  rw [map_fst_put]
  split
  · exact h
  · next hmem =>
    refine List.nodup_append.mpr ⟨h, by simp, ?_⟩
    rintro a ha b hb rfl
    exact hmem (List.mem_singleton.mp hb ▸ ha)

theorem nodup_foldl_put (pairs : List (WideText × α)) {ms : Members α}
    (h : (ms.map Prod.fst).Nodup) :
    ((pairs.foldl (fun ms p => put ms p.1 p.2) ms).map Prod.fst).Nodup := by
  induction pairs generalizing ms with
  | nil => exact h
  | cons p pairs ih => exact ih (nodup_put p.1 p.2 h)

theorem mem_foldl_put {pairs : List (WideText × α)} {ms : Members α} {m : WideText × α}
    (h : m ∈ pairs.foldl (fun ms p => put ms p.1 p.2) ms) : m ∈ ms ∨ m ∈ pairs := by
  induction pairs generalizing ms with
  | nil => exact .inl h
  | cons p pairs ih =>
    rcases ih h with hput | hlater
    · rcases mem_put hput with hold | rfl
      · exact .inl hold
      · exact .inr List.mem_cons_self
    · exact .inr (List.mem_cons_of_mem p hlater)

/-- In an object no name occurs twice. -/
theorem nodup_ofList (pairs : List (WideText × α)) : ((ofList pairs).map Prod.fst).Nodup :=
  nodup_foldl_put pairs List.nodup_nil

theorem mem_ofList {pairs : List (WideText × α)} {m : WideText × α} (h : m ∈ ofList pairs) :
    m ∈ pairs :=
  (mem_foldl_put h).resolve_left List.not_mem_nil

theorem put_of_not_mem {ms : Members α} {name : WideText} (value : α)
    (h : name ∉ ms.map Prod.fst) : ms.put name value = ms ++ [(name, value)] := by
  induction ms with
  | nil => rfl
  | cons m ms ih =>
    rw [List.map_cons, List.mem_cons, not_or] at h
    rw [put, if_neg (Ne.symm h.1), ih h.2]
    rfl

theorem foldl_put_of_nodup (ms pairs : Members α)
    (h : ((ms ++ pairs).map Prod.fst).Nodup) :
    pairs.foldl (fun ms p => put ms p.1 p.2) ms = ms ++ pairs := by
  induction pairs generalizing ms with
  | nil => simp
  | cons p pairs ih =>
    have hfresh : p.1 ∉ ms.map Prod.fst := by
      intro hmem
      rw [List.map_append, List.nodup_append] at h
      exact h.2.2 _ hmem _ (by simp) rfl
    have hassoc : ms ++ [p] ++ pairs = ms ++ p :: pairs := by simp
    rw [List.foldl_cons, put_of_not_mem p.2 hfresh, ih _ (hassoc ▸ h), hassoc]

/-- Members of different names are an object as they are. -/
theorem ofList_of_nodup {members : Members α} (h : (members.map Prod.fst).Nodup) :
    ofList members = members :=
  foldl_put_of_nodup [] members h

end ContractOps.Members

namespace ContractOps.Json

theorem getD_obj (ms : Members Json) (name : WideText) (other : Json) :
    (Json.obj ms).getD name other = .ok ((ms.get? name).getD other) := rfl

/-- An object contains the names under which it has members. -/
theorem contains_obj (ms : Members Json) (name : WideText) :
    (Json.obj ms).contains (.str name) = .ok (ms.get? name).isSome := by
  have hany : (ms.any fun m => (Json.str name).same (.str m.1)) = (ms.get? name).isSome := by
    induction ms with
    | nil => rfl
    | cons m rest ih =>
      rw [List.any_cons, ih, Members.get?]
      by_cases heq : m.1 = name
      · simp [heq]
      · simp [heq, Ne.symm heq]
  show Except.ok (ms.any fun m => (Json.str name).same (.str m.1)) = _
  rw [hany]

/-- Only objects have members. -/
theorem member_eq_ok {v w : Json} {name : WideText} :
    v.member name = .ok w ↔ ∃ ms : Members Json, v = .obj ms ∧ ms.get? name = some w := by
  cases v with
  | obj ms =>
    rw [member]
    split
    · next found hget => simp [hget]
    · next hget => simp [hget]
  | _ => simp [member]

/-- A member that is there is read the same way as one that may be missing. -/
theorem getD_of_member {v w : Json} {name : WideText} (other : Json)
    (h : v.member name = .ok w) : v.getD name other = .ok w := by
  obtain ⟨ms, rfl, hget⟩ := member_eq_ok.mp h
  rw [getD_obj, hget]
  rfl

end ContractOps.Json
