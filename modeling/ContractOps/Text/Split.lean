/-!
# Splitting

`Text.split` takes a text apart at a character and `Text.splitAll` at a text. Both give one part
more than there are separators. What is a part can be seen from its place in the text
(`Text.mem_split_iff`).
-/

namespace ContractOps.Text

variable {α : Type} [DecidableEq α]

/-- The parts of a text between separators. -/
def split (separator : α) : List α → List (List α)
  | [] => [[]]
  | c :: cs =>
    if c = separator then [] :: split separator cs
    else
      match split separator cs with
      | [] => [[c]]
      | part :: parts => (c :: part) :: parts

theorem split_ne_nil (separator : α) (cs : List α) : split separator cs ≠ [] := by
  cases cs with
  | nil => simp [split]
  | cons c cs =>
    by_cases h : c = separator
    · simp [split, h]
    · simp only [split, h, if_false]
      split <;> simp

/-- What is put together with a separator is taken apart there. -/
theorem split_append_separator (separator : α) (first second : List α) :
    split separator (first ++ separator :: second) =
      split separator first ++ split separator second := by
  induction first with
  | nil => simp [split]
  | cons c cs ih =>
    rw [List.cons_append, split, split]
    split
    · rw [ih]
      rfl
    · rw [ih]
      cases hsplit : split separator cs with
      | nil => exact absurd hsplit (split_ne_nil separator cs)
      | cons part parts => rfl

/-- A text without separators is one part. -/
theorem split_of_not_mem {separator : α} {cs : List α} (h : separator ∉ cs) :
    split separator cs = [cs] := by
  induction cs with
  | nil => rfl
  | cons c cs ih =>
    rw [List.mem_cons, not_or] at h
    rw [split, if_neg (Ne.symm h.1), ih h.2]

/-- Whether a part begins where a text begins or behind a separator. -/
def BeginsPart (separator : α) (before : List α) : Prop :=
  before = [] ∨ before.getLast? = some separator

/-- Whether a part ends where a text ends or in front of a separator. -/
def EndsPart (separator : α) (after : List α) : Prop :=
  after = [] ∨ after.head? = some separator

/-- The parts of a text are what stands in it without a separator, between separators or the ends of
the text. -/
theorem mem_split_iff {separator : α} {part cs : List α} :
    part ∈ split separator cs ↔ separator ∉ part ∧ ∃ before after,
      cs = before ++ part ++ after ∧ BeginsPart separator before ∧ EndsPart separator after := by
  constructor
  · -- by the number of characters, from one separator to the next
    induction hn : cs.length using Nat.strongRecOn generalizing cs with
    | _ n ih =>
      intro hpart
      by_cases hmem : separator ∈ cs
      · obtain ⟨first, rest, rfl, hfirst⟩ := List.eq_append_cons_of_mem hmem
        rw [split_append_separator, split_of_not_mem hfirst, List.mem_append,
          List.mem_singleton] at hpart
        rcases hpart with rfl | hrest
        · exact ⟨hfirst, [], separator :: rest, by simp, .inl rfl, .inr rfl⟩
        · obtain ⟨hbare, before, after, rfl, hbefore, hafter⟩ :=
            ih rest.length (by simp at hn; omega) rfl hrest
          refine ⟨hbare, first ++ separator :: before, after, by simp, .inr ?_, hafter⟩
          rcases hbefore with rfl | hlast
          · simp
          · cases before with
            | nil => simp at hlast
            | cons c before => simpa [List.getLast?_append, List.getLast?_cons_cons] using hlast
      · rw [split_of_not_mem hmem, List.mem_singleton] at hpart
        subst hpart
        exact ⟨hmem, [], [], by simp, .inl rfl, .inl rfl⟩
  · rintro ⟨hbare, before, after, rfl, hbefore, hafter⟩
    have hfront : part ∈ split separator (part ++ after) := by
      rcases hafter with rfl | hhead
      · simp [split_of_not_mem hbare]
      · obtain ⟨after, rfl⟩ := List.head?_eq_some_iff.mp hhead
        simp [split_append_separator, split_of_not_mem hbare]
    rcases hbefore with rfl | hlast
    · exact hfront
    · obtain ⟨before, rfl⟩ := List.getLast?_eq_some_iff.mp hlast
      rw [List.append_assoc, List.append_assoc, List.singleton_append, split_append_separator]
      exact List.mem_append_right _ hfront

/-- The parts of a text between occurrences of another one, from left to right. The first number
says how much of an occurrence is still to be passed over. -/
def splitAll (separator : List α) : Nat → List α → List (List α)
  | _, [] => [[]]
  | skip + 1, _ :: cs => splitAll separator skip cs
  | 0, c :: cs =>
    if separator.isPrefixOf (c :: cs) then [] :: splitAll separator (separator.length - 1) cs
    else
      match splitAll separator 0 cs with
      | [] => [[c]]
      | part :: parts => (c :: part) :: parts

end ContractOps.Text
