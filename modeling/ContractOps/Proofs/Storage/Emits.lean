import ContractOps.Proofs.Storage.Batch

/-!
# Events that tasks leave

A task of the surroundings becomes one of watched surroundings that leaves no event (`inside`).
`Emits` says which events a task leaves in a session whatever it comes to, and is put together along
the binds of the task.
-/

namespace ContractOps.Storage

variable {σ α β : Type}

/-- A task in watched surroundings that leaves no event. -/
def inside (t : Task σ α) : Task (Watched σ) α :=
  t.within Watched.world fun world w => { w with world }

/-- In a session a task leaves events of a kind, also if it fails. -/
def Emits (kind : List Event → Prop) (session : Session (Watched σ)) (t : Task (Watched σ) α) : Prop :=
  ∃ events, kind events ∧ Followed session (t.runIn session).2 events

namespace Emits

variable {kind : List Event → Prop} {session : Session (Watched σ)} {t : Task (Watched σ) α}

theorem of_keeps (hnone : kind []) (h : Task.Keeps Watched.events t) : Emits kind session t := by
  refine ⟨[], hnone, ?_⟩
  rw [Followed, List.append_nil]
  exact h session

theorem watch {t : Task σ α} {event : Except Fault α → Event} (h : ∀ answer, kind [event answer]) :
    Emits kind session (watch event t) :=
  ⟨_, h _, followed_watch rfl⟩

/-- A step that works on no surroundings leaves what is done after it. -/
theorem lift_bind {e : Except Fault α} {next : α → Task (Watched σ) β} (hnone : kind [])
    (hnext : ∀ a, e = .ok a → Emits kind session (next a)) :
    Emits kind session ((liftM e : Task (Watched σ) α) >>= next) := by
  cases e with
  | error fault => exact of_keeps hnone fun _ => rfl
  | ok a => exact hnext a rfl

end Emits

end ContractOps.Storage
