import ContractOps.Proofs.Task.Steps

/-!
# Tasks in related surroundings

Two tasks are related if in related surroundings they come to the same result, leave the same
notices, and leave related surroundings behind. Steps that work on no surroundings are related to
themselves, and tasks made of related steps are related, so that a task that is given its access to
the surroundings does the same with related accesses. With a relation that only compares part of the
surroundings with what it was (`Keeps`), this says that a task leaves this part alone.
-/

namespace ContractOps.Task

variable {σ τ α β : Type} {R : σ → τ → Prop}

/-- Two tasks that do the same in related surroundings. -/
def Related (R : σ → τ → Prop) (t : Task σ α) (u : Task τ α) : Prop :=
  ∀ ⦃world : σ⦄ ⦃world' : τ⦄ (notices : List Notice), R world world' →
    ∃ result after after' notices', t.runIn ⟨world, notices⟩ = (result, ⟨after, notices'⟩) ∧
      u.runIn ⟨world', notices⟩ = (result, ⟨after', notices'⟩) ∧ R after after'

namespace Related

theorem pure (a : α) : Related R (Pure.pure a) (Pure.pure a) :=
  fun _ _ _ h => ⟨_, _, _, _, rfl, rfl, h⟩

theorem throw (e : Fault) : Related (α := α) R (MonadExcept.throw e) (MonadExcept.throw e) :=
  fun _ _ _ h => ⟨_, _, _, _, rfl, rfl, h⟩

theorem note (notice : Notice) : Related R (Task.note notice) (Task.note notice) :=
  fun _ _ _ h => ⟨_, _, _, _, rfl, rfl, h⟩

theorem bind {t : Task σ α} {u : Task τ α} {next : α → Task σ β} {next' : α → Task τ β}
    (h : Related R t u) (hnext : ∀ a, Related R (next a) (next' a)) :
    Related R (t >>= next) (u >>= next') := by
  intro world world' notices hR
  obtain ⟨result, after, after', notices', ht, hu, hafter⟩ := h notices hR
  cases result with
  | error e => exact ⟨_, _, _, _, runIn_bind_error ht, runIn_bind_error hu, hafter⟩
  | ok a =>
    rw [runIn_bind_ok ht, runIn_bind_ok hu]
    exact hnext a notices' hafter

theorem lift (e : Except Fault α) : Related R (liftM e) (liftM e) := by
  cases e with
  | error fault => exact throw fault
  | ok a => exact pure a

theorem attempt {t : Task σ α} {u : Task τ α} (h : Related R t u) :
    Related R t.attempt u.attempt := by
  intro world world' notices hR
  obtain ⟨result, after, after', notices', ht, hu, hafter⟩ := h notices hR
  exact ⟨.ok result, after, after', notices', by rw [runIn_attempt, ht], by rw [runIn_attempt, hu],
    hafter⟩

theorem lift_bind {e : Except Fault α} {next : α → Task σ β} {next' : α → Task τ β}
    (hnext : ∀ a, Related R (next a) (next' a)) :
    Related R ((liftM e : Task σ α) >>= next) ((liftM e : Task τ α) >>= next') :=
  bind (lift e) hnext

theorem mapM {f : α → Task σ β} {f' : α → Task τ β} (h : ∀ a, Related R (f a) (f' a))
    (as : List α) : Related R (as.mapM f) (as.mapM f') := by
  induction as with
  | nil => exact pure []
  | cons a as ih =>
    rw [List.mapM_cons, List.mapM_cons]
    exact bind (h a) fun _ => bind ih fun _ => pure _

end Related

/-! ## Parts that are left alone -/

variable {γ : Type} {part : σ → γ}

/-- A task that leaves a part of its surroundings alone, also if it fails. -/
def Keeps (part : σ → γ) (t : Task σ α) : Prop :=
  ∀ session, part (t.runIn session).2.world = part session.world

/-- The same surroundings, with a certain part. -/
def SamePart (part : σ → γ) (value : γ) (world world' : σ) : Prop :=
  world = world' ∧ part world = value

theorem keeps_iff_related {t : Task σ α} :
    Keeps part t ↔ ∀ value, Related (SamePart part value) t t := by
  constructor
  · rintro h value world _ notices ⟨rfl, rfl⟩
    exact ⟨_, _, _, _, rfl, rfl, rfl, h ⟨world, notices⟩⟩
  · rintro h ⟨world, notices⟩
    obtain ⟨result, after, after', notices', ht, _, _, hpart⟩ :=
      h (part world) notices ⟨rfl, rfl⟩
    rw [ht]
    exact hpart

namespace Keeps

theorem pure (a : α) : Keeps part (Pure.pure a : Task σ α) := fun _ => rfl

theorem throw (e : Fault) : Keeps part (MonadExcept.throw e : Task σ α) := fun _ => rfl

theorem note (notice : Notice) : Keeps part (Task.note notice) := fun _ => rfl

theorem world : Keeps part (Task.world : Task σ σ) := fun _ => rfl

theorem lift (e : Except Fault α) : Keeps part (liftM e : Task σ α) := by
  intro session
  rw [runIn_lift]

theorem bind {t : Task σ α} {next : α → Task σ β} (h : Keeps part t)
    (hnext : ∀ a, Keeps part (next a)) : Keeps part (t >>= next) := by
  intro session
  have hfirst := h session
  cases hrun : t.runIn session with
  | mk result between =>
    rw [hrun] at hfirst
    cases result with
    | error e =>
      rw [runIn_bind_error hrun]
      exact hfirst
    | ok a =>
      rw [runIn_bind_ok hrun]
      exact (hnext a between).trans hfirst

theorem lift_bind {e : Except Fault α} {next : α → Task σ β} (hnext : ∀ a, Keeps part (next a)) :
    Keeps part ((liftM e : Task σ α) >>= next) :=
  bind (lift e) hnext

theorem attempt {t : Task σ α} (h : Keeps part t) : Keeps part t.attempt := h

end Keeps

end ContractOps.Task
