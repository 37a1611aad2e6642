import ContractOps.Command.Arguments
import ContractOps.Proofs.Storage.Correlation

/-!
# Which labels are asked for, and not how

A label is asked for if it stands in one of the arguments between commas or the ends of the argument
(`StandsIn`), and the arguments of a command are read as exactly these labels (`mem_labels_iff`).
What a run does depends on the set of its labels alone: which contracts are taken, in which order
and into which messages is decided by going through the contracts (`entries_congr`), so that order,
repetition and grouping of the labels cannot be seen. Only the failure that names unknown labels
lists them as they were given (`Alike`). Runs for the same labels therefore come to the same end
(`storeFor_same_labels`).
-/

namespace ContractOps

/-! ## Tasks that come to the same end -/

/-- Faults that are the same, or that both name the same unknown labels. -/
inductive Fault.Alike : Fault → Fault → Prop
  | same (e : Fault) : Alike e e
  | labels {missing missing' : List Json} (h : ∀ label, label ∈ missing ↔ label ∈ missing') :
    Alike (.failure (.labelsUnknown missing)) (.failure (.labelsUnknown missing'))

/-- Results that are the same value, or faults that are alike. -/
inductive Alike {α : Type} : Except Fault α → Except Fault α → Prop
  | value (a : α) : Alike (.ok a) (.ok a)
  | fault {e e' : Fault} (h : e.Alike e') : Alike (.error e) (.error e')

theorem Alike.refl {α : Type} : ∀ result : Except Fault α, Alike result result
  | .ok a => .value a
  | .error e => .fault (.same e)

namespace Task

variable {σ α β : Type}

/-- Two tasks that come to the same end in the same session, and leave the same behind. -/
def Matched (t u : Task σ α) : Prop :=
  ∀ session, Alike (t.runIn session).1 (u.runIn session).1 ∧
    (t.runIn session).2 = (u.runIn session).2

namespace Matched

theorem refl (t : Task σ α) : Matched t t := fun session => ⟨.refl (t.runIn session).1, rfl⟩

theorem bind {t u : Task σ α} (h : Matched t u) (next : α → Task σ β) :
    Matched (t >>= next) (u >>= next) := by
  intro session
  obtain ⟨hresult, hafter⟩ := h session
  rcases ht : t.runIn session with ⟨result, after⟩
  rcases hu : u.runIn session with ⟨result', after'⟩
  rw [ht, hu] at hresult hafter
  dsimp only at hresult hafter
  subst hafter
  cases hresult with
  | value a =>
    rw [runIn_bind_ok ht, runIn_bind_ok hu]
    exact ⟨.refl _, rfl⟩
  | fault halike =>
    rw [runIn_bind_error ht, runIn_bind_error hu]
    exact ⟨.fault halike, rfl⟩

theorem lift {e e' : Except Fault α} (h : Alike e e') :
    Matched (liftM e : Task σ α) (liftM e' : Task σ α) := by
  intro session
  rw [runIn_lift, runIn_lift]
  exact ⟨h, rfl⟩

theorem lift_bind {e : Except Fault α} {next next' : α → Task σ β}
    (h : ∀ a, Matched (next a) (next' a)) :
    Matched ((liftM e : Task σ α) >>= next) ((liftM e : Task σ α) >>= next') := by
  cases e with
  | error fault => exact refl _
  | ok a => exact h a

end Matched

end Task

/-! ## Runs for the same labels -/

namespace Storage

variable {σ : Type} {labels labels' : List WideText}

/-- The same contracts are taken. -/
theorem contains_congr (h : ∀ label, label ∈ labels ↔ label ∈ labels') (label : Json) :
    (Json.arr (labels.map .str)).contains label = (Json.arr (labels'.map .str)).contains label := by
  rw [contains_texts, contains_texts]
  cases label <;> simp [h]

/-- They make up the same entries, in the same order. -/
theorem entries_congr (h : ∀ label, label ∈ labels ↔ label ∈ labels') (compress : Compressor)
    (read : CodeReader σ) (sender : Json) (contracts : List Json) :
    entries compress read (.arr (labels.map .str)) sender contracts =
      entries compress read (.arr (labels'.map .str)) sender contracts := by
  induction contracts with
  | nil => rfl
  | cons contract rest ih =>
    rw [entries, entries, ih]
    simp only [contains_congr h]

/-- The labels that are unknown, of some that are texts. -/
theorem unknown_texts (known : List Json) (labels : List WideText) :
    unknown known (labels.map .str) =
      .ok ((labels.map Json.str).filter fun label => !known.any label.same) := by
  induction labels with
  | nil => rfl
  | cons label rest ih =>
    rw [List.map_cons, unknown, ih]
    simp only [Json.hashable, except_ok_bind, List.filter_cons]
    cases known.any (Json.str label).same <;> rfl

/-- Fails if labels are missing. -/
def refuse : List Json → Except Fault Unit
  | [] => .ok ()
  | missing => .error (.failure (.labelsUnknown missing))

theorem checkLabels_cons (listed : Json) (label : WideText) (others : List WideText) :
    checkLabels listed (.arr ((label :: others).map .str)) =
      listed.items >>= fun contracts => labelsOf contracts >>= fun known =>
        refuse (((label :: others).map Json.str).filter fun label => !known.any label.same) := by
  show (listed.items >>= fun contracts => labelsOf contracts >>= fun known =>
    unknown known ((label :: others).map .str) >>= refuse) = _
  simp only [unknown_texts, except_ok_bind]

theorem refuse_alike {missing missing' : List Json}
    (h : ∀ label, label ∈ missing ↔ label ∈ missing') : Alike (refuse missing) (refuse missing') := by
  cases missing with
  | nil =>
    cases missing' with
    | nil => exact .value ()
    | cons label _ => exact absurd ((h label).mpr List.mem_cons_self) List.not_mem_nil
  | cons label _ =>
    cases missing' with
    | nil => exact absurd ((h label).mp List.mem_cons_self) List.not_mem_nil
    | cons _ _ => exact .fault (.labels h)

/-- The same labels are unknown, if any. -/
theorem checkLabels_alike (h : ∀ label, label ∈ labels ↔ label ∈ labels') (listed : Json) :
    Alike (checkLabels listed (.arr (labels.map .str)))
      (checkLabels listed (.arr (labels'.map .str))) := by
  cases labels with
  | nil =>
    cases labels' with
    | nil => exact .refl _
    | cons label _ => exact absurd ((h label).mpr List.mem_cons_self) List.not_mem_nil
  | cons label _ =>
    cases labels' with
    | nil => exact absurd ((h label).mp List.mem_cons_self) List.not_mem_nil
    | cons _ _ =>
      -- before the labels are looked for, both look at the same contracts
      rw [checkLabels_cons, checkLabels_cons]
      cases listed.items with
      | error e => exact .refl _
      | ok contracts =>
        rw [except_ok_bind, except_ok_bind]
        cases labelsOf contracts with
        | error e => exact .refl _
        | ok known =>
          apply refuse_alike
          intro missing
          simp only [List.mem_filter, List.mem_map, h]

theorem batch_matched (h : ∀ label, label ∈ labels ↔ label ∈ labels') (compress : Compressor)
    (read : CodeReader σ) (listed sender : Json) :
    Task.Matched (batch compress read listed (.arr (labels.map .str)) sender)
      (batch compress read listed (.arr (labels'.map .str)) sender) := by
  unfold batch
  simp only [entries_congr h]
  exact .bind (.lift (checkLabels_alike h listed)) _

/-- After the batch a run does not look at the labels. -/
theorem run_matched (h : ∀ label, label ∈ labels ↔ label ∈ labels') (compress : Compressor)
    (read : CodeReader σ) (signer : Signer σ) (config chainId : Json) :
    Task.Matched (run compress read signer config chainId (.arr (labels.map .str)))
      (run compress read signer config chainId (.arr (labels'.map .str))) := by
  refine .lift_bind fun chain => .lift_bind fun format => .lift_bind fun listed =>
    .lift_bind fun sender => ?_
  exact .bind (batch_matched h compress read listed sender) _

end Storage

/-! ## Labels in arguments -/

namespace Command

open Storage (Watched)

variable {σ : Type}

/-- A label stands in an argument: there is something of it, no comma is in it, and on either side
there is a comma or the end of the argument. -/
structure StandsIn (label argument : String) : Prop where
  nonempty : label ≠ ""
  whole : ',' ∉ label.toList
  place : ∃ before after, argument.toList = before ++ label.toList ++ after ∧
    Text.BeginsPart ',' before ∧ Text.EndsPart ',' after

/-- A label that arguments ask for. -/
def AskedFor (arguments : List String) (label : String) : Prop :=
  ∃ argument ∈ arguments, StandsIn label argument

theorem mem_labelsOf_iff {argument label : String} :
    label ∈ labelsOf argument ↔ StandsIn label argument := by
  have hsplit : label.toList ∈ Text.split ',' argument.toList ↔
      ',' ∉ label.toList ∧ ∃ before after, argument.toList = before ++ label.toList ++ after ∧
        Text.BeginsPart ',' before ∧ Text.EndsPart ',' after :=
    Text.mem_split_iff
  constructor
  · intro h
    obtain ⟨part, hpart, rfl⟩ := List.mem_map.mp h
    obtain ⟨hmem, hne⟩ := List.mem_filter.mp hpart
    rw [String.toList_ofList] at hsplit
    obtain ⟨hwhole, hplace⟩ := hsplit.mp hmem
    refine ⟨?_, ?_, ?_⟩
    · intro hempty
      have : part = [] := by simpa using congrArg String.toList hempty
      simp [this] at hne
    · rwa [String.toList_ofList]
    · rwa [String.toList_ofList]
  · rintro ⟨hne, hwhole, hplace⟩
    refine List.mem_map.mpr ⟨label.toList, List.mem_filter.mpr ⟨hsplit.mpr ⟨hwhole, hplace⟩, ?_⟩,
      String.ofList_toList⟩
    have : label.toList ≠ [] := fun hnil => hne (String.toList_eq_nil_iff.mp hnil)
    simpa using this

/-- The labels that a command reads are those that its arguments ask for. -/
theorem mem_labels_iff {arguments : List String} {label : String} :
    label ∈ arguments.flatMap labelsOf ↔ AskedFor arguments label := by
  rw [List.mem_flatMap]
  exact exists_congr fun argument => and_congr_right fun _ => mem_labelsOf_iff

/-- Stores what arguments ask for. -/
def storeFor (compress : Storage.Compressor) (read : Storage.CodeReader σ) (signer : Signer σ)
    (config : Json) (arguments : List String) : Task σ Storage.Outcome := do
  let (chainId, labels) ← parseStore arguments
  Storage.run compress read signer config (.str chainId)
    (.arr (labels.map fun (label : String) => .str label))

theorem storeFor_cons (compress : Storage.Compressor) (read : Storage.CodeReader σ)
    (signer : Signer σ) (config : Json) (chainId : String) (arguments : List String) :
    storeFor compress read signer config (chainId :: arguments) =
      Storage.run compress read signer config (.str chainId)
        (.arr (((arguments.flatMap labelsOf).map WideText.ofString).map .str)) := by
  rw [List.map_map]
  rfl

theorem storeFor_matched (compress : Storage.Compressor) (read : Storage.CodeReader σ)
    (signer : Signer σ) (config : Json) (chainId : String) {arguments arguments' : List String}
    (h : ∀ label, AskedFor arguments label ↔ AskedFor arguments' label) :
    Task.Matched (storeFor compress read signer config (chainId :: arguments))
      (storeFor compress read signer config (chainId :: arguments')) := by
  rw [storeFor_cons, storeFor_cons]
  apply Storage.run_matched
  intro label
  simp only [List.mem_map, mem_labels_iff, h]

/-- Two lists of arguments that ask for the same labels, in whatever order, number and grouping,
lead to the same end: equal outcomes, or faults that are alike. Watching shows that the same was
read and broadcast on the way, and the notices are the same, too. -/
theorem storeFor_same_labels (compress : Storage.Compressor) (read : Storage.CodeReader σ)
    (signer : Signer σ) (config : Json) (chainId : String) (arguments arguments' : List String)
    (world : σ) (h : ∀ label, AskedFor arguments label ↔ AskedFor arguments' label) :
    ∃ result result' after events,
      Alike result result' ∧
      (storeFor compress read signer config (chainId :: arguments)).start world =
        (result, after) ∧
      (storeFor compress read signer config (chainId :: arguments')).start world =
        (result', after) ∧
      (storeFor compress read.watched signer.watched config (chainId :: arguments)).start
        ⟨world, []⟩ = (result, ⟨⟨after.world, events⟩, after.notices⟩) ∧
      (storeFor compress read.watched signer.watched config (chainId :: arguments')).start
        ⟨world, []⟩ = (result', ⟨⟨after.world, events⟩, after.notices⟩) := by
  have hwatched : ∀ arguments : List String,
      Task.Related Storage.SameWorld
        (storeFor compress read.watched signer.watched config (chainId :: arguments))
        (storeFor compress read signer config (chainId :: arguments)) := by
    intro arguments
    rw [storeFor_cons, storeFor_cons]
    exact Storage.run_watched compress read signer config _ _
  have hstart : Storage.SameWorld (⟨world, []⟩ : Watched σ) world := rfl
  obtain ⟨result, ⟨_, events⟩, after, notices, hwatch, hplain, rfl⟩ :=
    hwatched arguments [] hstart
  obtain ⟨result', ⟨_, events'⟩, after', notices', hwatch', hplain', rfl⟩ :=
    hwatched arguments' [] hstart
  obtain ⟨halike, hafter⟩ := storeFor_matched compress read.watched signer.watched config chainId h
    ⟨⟨world, []⟩, []⟩
  rw [hwatch, hwatch'] at halike hafter
  cases hafter
  exact ⟨result, result', _, events, halike, hplain, hplain', hwatch, hwatch'⟩

/-! ### Labels given twice, and in one argument -/

theorem storeFor_same_labels_grouped :
    (∀ label, AskedFor ["a,b", "", "a"] label ↔ AskedFor [",b,,a"] label) ∧
    ∃ o after events,
      o.codeIds.map Prod.snd = [7, 0] ∧
      (storeFor id Storage.sameCode.watched Storage.oneCodeId.watched Storage.threeContracts
        ["X", "a,b", "", "a"]).start ⟨(), []⟩ = (.ok o, ⟨⟨(), events⟩, after⟩) ∧
      (storeFor id Storage.sameCode.watched Storage.oneCodeId.watched Storage.threeContracts
        ["X", ",b,,a"]).start ⟨(), []⟩ = (.ok o, ⟨⟨(), events⟩, after⟩) := by
  have hsame : ∀ label, AskedFor ["a,b", "", "a"] label ↔ AskedFor [",b,,a"] label := by
    have hread : ["a,b", "", "a"].flatMap labelsOf = ["a", "b", "a"] := by decide
    have hread' : [",b,,a"].flatMap labelsOf = ["b", "a"] := by decide
    intro label
    rw [← mem_labels_iff, ← mem_labels_iff, hread, hread']
    simp only [List.mem_cons, List.not_mem_nil, or_false]
    tauto
  have hcodes : ((storeFor id Storage.sameCode Storage.oneCodeId Storage.threeContracts
      ["X", "a,b", "", "a"]).start ()).1.toOption.map (fun o => o.codeIds.map Prod.snd) =
        some [7, 0] := by decide +kernel
  obtain ⟨result, result', after, events, halike, hplain, _, hwatch, hwatch'⟩ :=
    storeFor_same_labels id Storage.sameCode Storage.oneCodeId Storage.threeContracts "X"
      ["a,b", "", "a"] [",b,,a"] () hsame
  rw [hplain] at hcodes
  cases halike with
  | value o => exact ⟨hsame, o, after.notices, events, Option.some.inj hcodes, hwatch, hwatch'⟩
  | fault h => cases hcodes

end Command

end ContractOps
