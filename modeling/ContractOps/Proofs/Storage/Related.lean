import ContractOps.Proofs.Task.Related
import ContractOps.Storage.Run

/-!
# Runs in related surroundings

A run has access to its surroundings through its reader and its signer alone: with related readers
and related signers it does the same in related surroundings (`run_related`).
-/

namespace ContractOps.Storage

open Config
open Config.CodeIds (Assignment)

variable {σ τ : Type} {R : σ → τ → Prop} {read : CodeReader σ} {read' : CodeReader τ}

/-! ## The batch -/

theorem entry_related (hread : ∀ file, Task.Related R (read file) (read' file))
    (compress : Compressor) (sender contract : Json) :
    Task.Related R (entry compress read sender contract) (entry compress read' sender contract) :=
  .lift_bind fun _ => .lift_bind fun file => .bind (hread file) fun _ => .lift_bind fun _ =>
    .lift_bind fun _ => .lift_bind fun _ => .pure _

theorem entries_related (hread : ∀ file, Task.Related R (read file) (read' file))
    (compress : Compressor) (labels sender : Json) (contracts : List Json) :
    Task.Related R (entries compress read labels sender contracts)
      (entries compress read' labels sender contracts) := by
  induction contracts with
  | nil => exact .pure []
  | cons contract rest ih =>
    refine .lift_bind fun label => .lift_bind fun wanted => ?_
    split
    · exact .bind (entry_related hread compress sender contract) fun _ => .bind ih fun _ => .pure _
    · exact ih

/-! ## Notices and code ids -/

theorem announce_related (codeIds : List (Json × Int)) :
    Task.Related R (announce codeIds) (announce codeIds) := by
  induction codeIds with
  | nil => exact .pure ()
  | cons entry rest ih =>
    obtain ⟨label, codeId⟩ := entry
    cases label with
    | str s => exact .bind (.note _) fun _ => ih
    | _ => exact .throw _

theorem updateContract_related (codes : Assignment) (chainId contract : Json) :
    Task.Related R (CodeIds.updateContract codes chainId contract)
      (CodeIds.updateContract codes chainId contract) := by
  refine .lift_bind fun label => .lift_bind fun _ => ?_
  split
  · exact .pure _
  · refine .lift_bind fun previous => .lift_bind fun _ => ?_
    split
    · exact .bind (.note _) fun _ => .pure _
    · exact .pure _

theorem updateOption_related (codes : Assignment) (chainId option : Json) :
    Task.Related R (CodeIds.updateOption codes chainId option)
      (CodeIds.updateOption codes chainId option) := by
  refine .lift_bind fun id => ?_
  split
  · exact .pure _
  · exact .lift_bind fun _ => .lift_bind fun _ =>
      .bind (.mapM (updateContract_related codes chainId) _) fun _ => .pure _

theorem updateChain_related (codes : Assignment) (chainId chain : Json) :
    Task.Related R (CodeIds.updateChain codes chainId chain)
      (CodeIds.updateChain codes chainId chain) := by
  refine .lift_bind fun _ => .lift_bind fun _ => .lift_bind fun _ => ?_
  split
  · exact .bind (.mapM (updateOption_related codes chainId) _) fun _ => .pure _
  · exact .pure _

theorem assign_related (config chainId : Json) (codes : Assignment) :
    Task.Related R (CodeIds.assign config chainId codes) (CodeIds.assign config chainId codes) := by
  cases config with
  | obj ms =>
    exact .lift_bind fun _ => .lift_bind fun _ =>
      .bind (.mapM (updateChain_related codes chainId) _) fun _ => .pure _
  | _ => exact .throw _

/-! ## The whole run -/

/-- What a run does depends on nothing but what it reads and what it is answered. -/
theorem run_related (hread : ∀ file, Task.Related R (read file) (read' file)) {signer : Signer σ}
    {signer' : Signer τ} (haddress : signer.address = signer'.address)
    (hbroadcast : ∀ messages fee gas memo,
      Task.Related R (signer.broadcast messages fee gas memo)
        (signer'.broadcast messages fee gas memo))
    (compress : Compressor) (config chainId labels : Json) :
    Task.Related R (run compress read signer config chainId labels)
      (run compress read' signer' config chainId labels) := by
  rw [run, run, haddress]
  refine .lift_bind fun chain => .lift_bind fun format => .lift_bind fun contracts =>
    .lift_bind fun address => .bind (.lift_bind fun _ => .lift_bind fun _ =>
      entries_related hread compress labels address _) fun batch => ?_
  split
  · exact .throw _
  · refine .lift_bind fun (gas, fee) => .bind (.note _) fun _ =>
      .bind (hbroadcast _ fee gas "") fun tx => .lift_bind fun extracted => ?_
    dsimp only
    split
    · exact .bind (.note _) fun _ => .bind (announce_related _) fun _ =>
        .bind (assign_related _ _ _) fun _ => .lift_bind fun _ => .pure _
    · exact .bind (announce_related _) fun _ => .bind (assign_related _ _ _) fun _ =>
        .lift_bind fun _ => .pure _

end ContractOps.Storage
