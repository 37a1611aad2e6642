import ContractOps.Task

/-!
# Steps of tasks

A task made of two succeeds if both do (`Task.runIn_bind_eq_ok`), and fails with the first fault
that it meets (`Task.runIn_bind_eq_error`). What was noted and changed until then stays. Four
judgements say what a task may come to, and are put together along its binds: `Gives`, `Succeeds`,
`Yields` and `Silent`.
-/

namespace ContractOps

/-- Two steps that may fail succeed together if each of them does. -/
theorem except_bind_eq_ok {ε α β : Type} {e : Except ε α} {next : α → Except ε β} {b : β} :
    (e >>= next) = .ok b ↔ ∃ a, e = .ok a ∧ next a = .ok b := by
  cases e with
  | error fault => simp [bind, Except.bind]
  | ok a => simp [bind, Except.bind]

theorem except_ok_bind {ε α β : Type} (a : α) (next : α → Except ε β) :
    ((.ok a : Except ε α) >>= next) = next a :=
  rfl

/-- A result that is there is the result of a success. -/
theorem eq_ok_of_toOption {ε α : Type} {e : Except ε α} {a : α} (h : e.toOption = some a) :
    e = .ok a := by
  cases e with
  | error fault => cases h
  | ok b => exact congrArg Except.ok (Option.some.inj h)

namespace Task

variable {σ α β : Type}

/-- What works on no surroundings leaves them alone. -/
@[simp] theorem runIn_lift (e : Except Fault α) (session : Session σ) :
    (liftM e : Task σ α).runIn session = (e, session) := by
  cases e <;> rfl

@[simp] theorem runIn_info (topic : Topic) (text : WideText) (session : Session σ) :
    (info topic text : Task σ Unit).runIn session =
      (.ok (), { session with notices := session.notices ++ [{ level := .info, topic, text }] }) :=
  rfl

@[simp] theorem runIn_warn (topic : Topic) (text : WideText) (session : Session σ) :
    (warn topic text : Task σ Unit).runIn session =
      (.ok (), { session with
        notices := session.notices ++ [{ level := .warning, topic, text }] }) :=
  rfl

theorem runIn_bind_ok {t : Task σ α} {next : α → Task σ β} {a : α} {session after : Session σ}
    (h : t.runIn session = (.ok a, after)) : (t >>= next).runIn session = (next a).runIn after := by
  rw [runIn_bind, h]

theorem runIn_bind_error {t : Task σ α} {next : α → Task σ β} {e : Fault}
    {session after : Session σ} (h : t.runIn session = (.error e, after)) :
    (t >>= next).runIn session = (.error e, after) := by
  rw [runIn_bind, h]

/-- If the second step works on no surroundings, those that the first one leaves are left. -/
theorem runIn_bind_still {t : Task σ α} {next : α → Task σ β} {f : α → Except Fault β}
    {result : Except Fault α} {session after : Session σ} (h : t.runIn session = (result, after))
    (hnext : ∀ a, (next a).runIn after = (f a, after)) :
    (t >>= next).runIn session = (result >>= f, after) := by
  cases result with
  | error e => rw [runIn_bind_error h]; rfl
  | ok a => rw [runIn_bind_ok h, hnext]; rfl

theorem runIn_bind_eq_ok {t : Task σ α} {next : α → Task σ β} {b : β} {session after : Session σ} :
    (t >>= next).runIn session = (.ok b, after) ↔
      ∃ a between, t.runIn session = (.ok a, between) ∧ (next a).runIn between = (.ok b, after) := by
  rw [runIn_bind]
  rcases t.runIn session with ⟨_ | a, between⟩
  · simp
  · constructor
    · intro h
      exact ⟨a, between, rfl, h⟩
    · rintro ⟨_, _, ⟨rfl, rfl⟩, h⟩
      exact h

/-- A step that works on no surroundings is done if it can be. -/
theorem runIn_lift_bind_eq_ok {e : Except Fault α} {next : α → Task σ β} {b : β}
    {session after : Session σ} :
    ((liftM e : Task σ α) >>= next).runIn session = (.ok b, after) ↔
      ∃ a, e = .ok a ∧ (next a).runIn session = (.ok b, after) := by
  rw [runIn_bind, runIn_lift]
  cases e with
  | error fault => simp
  | ok a => simp

theorem runIn_bind_eq_error {t : Task σ α} {next : α → Task σ β} {e : Fault}
    {session after : Session σ} :
    (t >>= next).runIn session = (.error e, after) ↔
      t.runIn session = (.error e, after) ∨
        ∃ a between, t.runIn session = (.ok a, between) ∧
          (next a).runIn between = (.error e, after) := by
  rw [runIn_bind]
  rcases t.runIn session with ⟨_ | a, between⟩
  · simp
  · constructor
    · intro h
      exact .inr ⟨a, between, rfl, h⟩
    · rintro (h | ⟨_, _, ⟨rfl, rfl⟩, h⟩)
      · cases h
      · exact h

/-- A task in a part of the surroundings runs there. -/
theorem runIn_within {τ : Type} (part : σ → τ) (put : τ → σ → σ) (t : Task τ α)
    (session : Session σ) :
    (t.within part put).runIn session =
      ((t.runIn ⟨part session.world, session.notices⟩).1,
        ⟨put (t.runIn ⟨part session.world, session.notices⟩).2.world session.world,
          (t.runIn ⟨part session.world, session.notices⟩).2.notices⟩) := rfl

/-! ## Tasks with one possible result -/

/-- If the task succeeds, then with this result, and its surroundings are as they were. -/
def Gives (t : Task σ α) (a : α) : Prop :=
  ∀ ⦃session after : Session σ⦄ ⦃b : α⦄,
    t.runIn session = (.ok b, after) → b = a ∧ after.world = session.world

namespace Gives

theorem pure (a : α) : (Pure.pure a : Task σ α).Gives a := by
  intro session after b h
  cases h
  exact ⟨rfl, rfl⟩

theorem throw (e : Fault) (a : α) : (MonadExcept.throw e : Task σ α).Gives a := by
  intro session after b h
  cases h

theorem note (notice : Notice) : (Task.note notice : Task σ Unit).Gives () := by
  intro session after b h
  cases h
  exact ⟨rfl, rfl⟩

theorem bind {t : Task σ α} {next : α → Task σ β} {a : α} {b : β} (ht : t.Gives a)
    (hnext : (next a).Gives b) : (t >>= next).Gives b := by
  intro session after c h
  obtain ⟨a', between, hfirst, hrest⟩ := runIn_bind_eq_ok.mp h
  obtain ⟨rfl, hworld⟩ := ht hfirst
  obtain ⟨rfl, hworld'⟩ := hnext hrest
  exact ⟨rfl, hworld'.trans hworld⟩

theorem lift_bind {e : Except Fault α} {next : α → Task σ β} {b : β}
    (h : ∀ a, e = .ok a → (next a).Gives b) : ((liftM e : Task σ α) >>= next).Gives b := by
  cases e with
  | error fault => exact throw fault b
  | ok a => exact bind (pure a) (h a rfl)

theorem mapM {f : α → Task σ β} {g : α → β} (h : ∀ a, (f a).Gives (g a)) (as : List α) :
    (as.mapM f).Gives (as.map g) := by
  induction as with
  | nil =>
    rw [List.mapM_nil]
    exact pure []
  | cons a as ih =>
    rw [List.mapM_cons]
    exact bind (h a) (bind ih (pure _))

end Gives

/-! ## Tasks that succeed -/

/-- The task succeeds wherever it is run. -/
def Succeeds (t : Task σ α) : Prop := ∀ session, ∃ a after, t.runIn session = (.ok a, after)

namespace Succeeds

theorem pure (a : α) : (Pure.pure a : Task σ α).Succeeds := fun session => ⟨a, session, rfl⟩

theorem note (notice : Notice) : (Task.note notice : Task σ Unit).Succeeds :=
  fun _ => ⟨(), _, rfl⟩

theorem bind {t : Task σ α} {next : α → Task σ β} (ht : t.Succeeds)
    (hnext : ∀ a, (next a).Succeeds) : (t >>= next).Succeeds := by
  intro session
  obtain ⟨a, between, hfirst⟩ := ht session
  obtain ⟨b, after, hrest⟩ := hnext a between
  exact ⟨b, after, (runIn_bind_ok hfirst).trans hrest⟩

theorem lift_bind {e : Except Fault α} {next : α → Task σ β} {a : α} (h : e = .ok a)
    (hnext : (next a).Succeeds) : ((liftM e : Task σ α) >>= next).Succeeds := by
  subst h
  exact hnext

theorem mapM {f : α → Task σ β} {as : List α} (h : ∀ a ∈ as, (f a).Succeeds) :
    (as.mapM f).Succeeds := by
  induction as with
  | nil =>
    rw [List.mapM_nil]
    exact pure []
  | cons a as ih =>
    obtain ⟨ha, has⟩ := List.forall_mem_cons.mp h
    rw [List.mapM_cons]
    exact bind ha fun _ => bind (ih has) fun _ => pure _

/-- A task that succeeds, and with one result only, gives it. -/
theorem runIn_eq {t : Task σ α} {a : α} (h : t.Succeeds) (hgives : t.Gives a)
    (session : Session σ) :
    ∃ notices, t.runIn session = (.ok a, ⟨session.world, notices⟩) := by
  obtain ⟨b, after, hrun⟩ := h session
  obtain ⟨rfl, hworld⟩ := hgives hrun
  exact ⟨after.notices, by rw [hrun, ← hworld]⟩

end Succeeds

/-! ## Tasks that leave everything else alone -/

/-- The task gives the value wherever it is run, and leaves nothing but notices. -/
def Yields (t : Task σ α) (a : α) : Prop :=
  ∀ session, ∃ notices, t.runIn session = (.ok a, ⟨session.world, notices⟩)

theorem Yields.bind {t : Task σ α} {next : α → Task σ β} {a : α} {b : β} (ht : t.Yields a)
    (hnext : (next a).Yields b) : (t >>= next).Yields b := by
  intro session
  obtain ⟨first, hfirst⟩ := ht session
  obtain ⟨notices, hrest⟩ := hnext ⟨session.world, first⟩
  exact ⟨notices, (runIn_bind_ok hfirst).trans hrest⟩

/-- The task gives the value and leaves nothing, no notice either. -/
def Silent (t : Task σ α) (a : α) : Prop := ∀ session, t.runIn session = (.ok a, session)

namespace Silent

theorem pure (a : α) : (Pure.pure a : Task σ α).Silent a := fun _ => rfl

theorem bind {t : Task σ α} {next : α → Task σ β} {a : α} {b : β} (ht : t.Silent a)
    (hnext : (next a).Silent b) : (t >>= next).Silent b := by
  intro session
  rw [runIn_bind_ok (ht session)]
  exact hnext session

theorem lift_bind {e : Except Fault α} {next : α → Task σ β} {a : α} {b : β} (h : e = .ok a)
    (hnext : (next a).Silent b) : ((liftM e : Task σ α) >>= next).Silent b := by
  subst h
  exact hnext

/-- Items that are given as they are make up the list that they are taken from. -/
theorem mapM {f : α → Task σ α} {as : List α} (h : ∀ a ∈ as, (f a).Silent a) :
    (as.mapM f).Silent as := by
  induction as with
  | nil =>
    rw [List.mapM_nil]
    exact pure []
  | cons a as ih =>
    obtain ⟨ha, has⟩ := List.forall_mem_cons.mp h
    rw [List.mapM_cons]
    exact bind ha (bind (ih has) (pure _))

end Silent

end Task

end ContractOps
