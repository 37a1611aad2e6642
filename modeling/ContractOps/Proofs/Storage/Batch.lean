import ContractOps.Proofs.Json.Same
import ContractOps.Proofs.Storage.Watched

/-!
# What a batch holds

The batch for some labels holds one entry for every contract that has one of them (`asked`), in the
order of the contracts, and every entry has taken one read (`entries_eq_ok`). There is a batch only
if every contract has a label and every label asked for is that of a contract (`batch_eq_ok`,
`exists_labelled`).
-/

namespace ContractOps.Storage

variable {σ : Type}

/-! ## Contracts that are asked for -/

/-- Whether a contract has one of the labels. -/
def asked (labels : List WideText) (contract : Json) : Bool :=
  match contract.member "LABEL" with
  | .ok (.str label) => labels.contains label
  | _ => false

/-- Among texts only an equal text is found. -/
theorem contains_texts (labels : List WideText) (label : Json) :
    (Json.arr (labels.map .str)).contains label =
      .ok (match label with | .str s => labels.contains s | _ => false) := by
  have hany : (labels.map Json.str).any (Json.same label) =
      (match label with | .str s => labels.contains s | _ => false) := by
    rw [Bool.eq_iff_iff, List.any_map, List.any_eq_true]
    cases label with
    | str s =>
      constructor
      · rintro ⟨other, hmem, hsame⟩
        cases Json.same_str_right.mp hsame
        exact List.contains_iff_mem.mpr hmem
      · intro hmem
        exact ⟨s, List.contains_iff_mem.mp hmem, Json.same_str_right.mpr rfl⟩
    | _ => simp
  rw [Json.contains, hany]

theorem contains_asked (labels : List WideText) {contract label : Json}
    (h : contract.member "LABEL" = .ok label) :
    (Json.arr (labels.map .str)).contains label = .ok (asked labels contract) := by
  rw [contains_texts, asked, h]
  cases label <;> rfl

theorem asked_iff (labels : List WideText) (contract : Json) :
    asked labels contract = true ↔
      ∃ label ∈ labels, contract.member "LABEL" = .ok (.str label) := by
  rw [asked]
  split
  · next label hlabel => simp [hlabel]
  · next hother =>
    constructor
    · intro h
      cases h
    · rintro ⟨label, _, hlabel⟩
      exact absurd hlabel (hother label)

/-! ## The entries of a batch -/

/-- The entry is that of its contract, for some code. -/
structure Entry.Packs (compress : Compressor) (sender : Json) (e : Entry) (code : Bytes) :
    Prop where
  label : e.contract.member "LABEL" = .ok e.label
  file : e.contract.member "WASM" = .ok e.file
  message : ∃ author permission, Message.textField sender = .ok author ∧
    (e.contract.getD "PERMISSION" .null >>= Permission.ofJson) = .ok permission ∧
    e.message = .storeCode author (compress code) permission
  checksum : e.checksum = Sha256.hex code
  size : e.size = (compress code).length

/-- The event that an entry was read with some code. -/
def readOf (taken : Entry × Bytes) : Event := .read taken.1.file (.ok taken.2)

/-- Session after further events. -/
def Followed (session after : Session (Watched σ)) (events : List Event) : Prop :=
  after.world.events = session.world.events ++ events

theorem Followed.trans {session between after : Session (Watched σ)} {first second : List Event}
    (h : Followed session between first) (h' : Followed between after second) :
    Followed session after (first ++ second) := by
  rw [Followed, h', h, List.append_assoc]

/-- A watched task leaves its event. -/
theorem followed_watch {α : Type} {event : Except Fault α → Event} {t : Task σ α}
    {session after : Session (Watched σ)} {answer : Except Fault α}
    (h : (watch event t).runIn session = (answer, after)) :
    Followed session after [event answer] := by
  cases hrun : t.runIn ⟨session.world.world, session.notices⟩ with
  | mk result between =>
    have hwatch : (watch event t).runIn session = _ := runIn_watch hrun
    cases hwatch.symm.trans h
    rfl

/-- An entry takes one read. -/
theorem entry_eq_ok {compress : Compressor} {read : CodeReader σ} {sender contract : Json}
    {session after : Session (Watched σ)} {e : Entry}
    (h : (entry compress read.watched sender contract).runIn session = (.ok e, after)) :
    ∃ code, e.contract = contract ∧ e.Packs compress sender code ∧
      Followed session after [readOf (e, code)] := by
  obtain ⟨label, hlabel, h⟩ := Task.runIn_lift_bind_eq_ok.mp h
  obtain ⟨file, hfile, h⟩ := Task.runIn_lift_bind_eq_ok.mp h
  obtain ⟨code, between, hread, h⟩ := Task.runIn_bind_eq_ok.mp h
  obtain ⟨allowed, hallowed, h⟩ := Task.runIn_lift_bind_eq_ok.mp h
  obtain ⟨permission, hpermission, h⟩ := Task.runIn_lift_bind_eq_ok.mp h
  obtain ⟨author, hauthor, h⟩ := Task.runIn_lift_bind_eq_ok.mp h
  cases h
  exact ⟨code, rfl, ⟨hlabel, hfile, ⟨author, permission, hauthor,
    except_bind_eq_ok.mpr ⟨allowed, hallowed, hpermission⟩, rfl⟩, rfl, rfl⟩, followed_watch hread⟩

/-- The entries are those of the contracts asked for, in order, and take one read each. -/
theorem entries_eq_ok {compress : Compressor} {read : CodeReader σ} {labels : List WideText}
    {sender : Json} {contracts : List Json} {session after : Session (Watched σ)}
    {batch : List Entry}
    (h : (entries compress read.watched (.arr (labels.map .str)) sender contracts).runIn session =
      (.ok batch, after)) :
    ∃ taken : List (Entry × Bytes), taken.map Prod.fst = batch ∧
      batch.map Entry.contract = contracts.filter (asked labels) ∧
      (∀ t ∈ taken, t.1.Packs compress sender t.2) ∧
      Followed session after (taken.map readOf) := by
  induction contracts generalizing session batch with
  | nil =>
    cases h
    exact ⟨[], rfl, rfl, by simp, by simp [Followed]⟩
  | cons contract rest ih =>
    obtain ⟨label, hlabel, h⟩ := Task.runIn_lift_bind_eq_ok.mp h
    obtain ⟨wanted, hwanted, h⟩ := Task.runIn_lift_bind_eq_ok.mp h
    rw [contains_asked labels hlabel] at hwanted
    cases hwanted
    cases hasked : asked labels contract with
    | true =>
      rw [hasked, if_pos rfl] at h
      obtain ⟨e, between, hentry, h⟩ := Task.runIn_bind_eq_ok.mp h
      obtain ⟨others, later, hothers, h⟩ := Task.runIn_bind_eq_ok.mp h
      cases h
      obtain ⟨code, hcontract, hpacks, hfirst⟩ := entry_eq_ok hentry
      obtain ⟨taken, htaken, hfilter, hall, hrest⟩ := ih hothers
      refine ⟨(e, code) :: taken, ?_, ?_, ?_, hfirst.trans hrest⟩
      · rw [List.map_cons, htaken]
      · rw [List.map_cons, List.filter_cons_of_pos hasked, hcontract, hfilter]
      · exact List.forall_mem_cons.mpr ⟨hpacks, hall⟩
    | false =>
      rw [hasked, if_neg Bool.false_ne_true] at h
      obtain ⟨taken, htaken, hfilter, hall, hrest⟩ := ih h
      refine ⟨taken, htaken, ?_, hall, hrest⟩
      rw [List.filter_cons_of_neg (by simp [hasked]), hfilter]

/-! ## Labels are checked first -/

/-- Every contract has a label, which can be looked up. -/
theorem mem_labelsOf {contracts known : List Json} (h : labelsOf contracts = .ok known)
    {contract : Json} (hmem : contract ∈ contracts) :
    ∃ label ∈ known, contract.member "LABEL" = .ok label ∧ label.hashable = .ok () := by
  induction contracts generalizing known with
  | nil => cases hmem
  | cons first rest ih =>
    obtain ⟨label, hlabel, h⟩ := except_bind_eq_ok.mp h
    obtain ⟨_, hhashable, h⟩ := except_bind_eq_ok.mp h
    obtain ⟨others, hothers, h⟩ := except_bind_eq_ok.mp h
    cases h
    rcases List.mem_cons.mp hmem with rfl | hrest
    · exact ⟨label, List.mem_cons_self, hlabel, hhashable⟩
    · obtain ⟨found, hfound, hmember⟩ := ih hothers hrest
      exact ⟨found, List.mem_cons_of_mem label hfound, hmember⟩

/-- Every label is that of a contract. -/
theorem of_mem_labelsOf {contracts known : List Json} (h : labelsOf contracts = .ok known)
    {label : Json} (hmem : label ∈ known) :
    ∃ contract ∈ contracts, contract.member "LABEL" = .ok label := by
  induction contracts generalizing known with
  | nil =>
    cases h
    cases hmem
  | cons first rest ih =>
    obtain ⟨found, hfound, h⟩ := except_bind_eq_ok.mp h
    obtain ⟨_, _, h⟩ := except_bind_eq_ok.mp h
    obtain ⟨others, hothers, h⟩ := except_bind_eq_ok.mp h
    cases h
    rcases List.mem_cons.mp hmem with rfl | hrest
    · exact ⟨first, List.mem_cons_self, hfound⟩
    · obtain ⟨contract, hcontract, hmember⟩ := ih hothers hrest
      exact ⟨contract, List.mem_cons_of_mem first hcontract, hmember⟩

/-- If no label is unknown, then every label is known. -/
theorem any_same_of_unknown_nil {known labels : List Json} (h : unknown known labels = .ok [])
    {label : Json} (hmem : label ∈ labels) : known.any label.same = true := by
  induction labels with
  | nil => cases hmem
  | cons first rest ih =>
    obtain ⟨_, _, h⟩ := except_bind_eq_ok.mp h
    obtain ⟨others, hothers, h⟩ := except_bind_eq_ok.mp h
    split at h
    · next hknown =>
      cases h
      rcases List.mem_cons.mp hmem with rfl | hrest
      · exact hknown
      · exact ih hothers hrest
    · cases h

/-- The labels of the contracts, once those asked for have been checked. -/
theorem checkLabels_eq_ok {listed : Json} {contracts : List Json} {label : Json}
    {labels : List Json} (hcontracts : listed.items = .ok contracts)
    (h : checkLabels listed (.arr (label :: labels)) = .ok ()) :
    ∃ known, labelsOf contracts = .ok known ∧ unknown known (label :: labels) = .ok [] := by
  obtain ⟨wanted, hwanted, h⟩ := except_bind_eq_ok.mp h
  cases hwanted
  obtain ⟨listed', hlisted, h⟩ := except_bind_eq_ok.mp h
  cases hcontracts.symm.trans hlisted
  obtain ⟨known, hknown, h⟩ := except_bind_eq_ok.mp h
  obtain ⟨missing, hmissing, h⟩ := except_bind_eq_ok.mp h
  cases missing with
  | nil => exact ⟨known, hknown, hmissing⟩
  | cons _ _ => cases h

/-- A label that was asked for is equal to that of a contract. -/
theorem exists_same_labelled {listed : Json} {contracts labels : List Json} {label : Json}
    (hcontracts : listed.items = .ok contracts) (h : checkLabels listed (.arr labels) = .ok ())
    (hmem : label ∈ labels) :
    ∃ contract ∈ contracts, ∃ found, contract.member "LABEL" = .ok found ∧
      label.same found = true := by
  cases labels with
  | nil => cases hmem
  | cons first rest =>
    obtain ⟨known, hknown, hunknown⟩ := checkLabels_eq_ok hcontracts h
    obtain ⟨found, hfound, hsame⟩ := List.any_eq_true.mp (any_same_of_unknown_nil hunknown hmem)
    obtain ⟨contract, hcontract, hlabel⟩ := of_mem_labelsOf hknown hfound
    exact ⟨contract, hcontract, found, hlabel, hsame⟩

/-- A label that was asked for is that of a contract. -/
theorem exists_labelled {listed : Json} {contracts : List Json} {labels : List WideText}
    {label : WideText} (hcontracts : listed.items = .ok contracts)
    (h : checkLabels listed (.arr (labels.map .str)) = .ok ()) (hmem : label ∈ labels) :
    ∃ contract ∈ contracts, contract.member "LABEL" = .ok (.str label) := by
  obtain ⟨contract, hcontract, found, hlabel, hsame⟩ :=
    exists_same_labelled hcontracts h (List.mem_map_of_mem hmem)
  rw [Json.same_str_left.mp hsame] at hlabel
  exact ⟨contract, hcontract, hlabel⟩

/-- If a label was asked for, every contract has one. -/
theorem member_label_of_checkLabels {listed : Json} {contracts : List Json}
    {labels : List WideText} {label : WideText} {contract : Json}
    (hcontracts : listed.items = .ok contracts)
    (h : checkLabels listed (.arr (labels.map .str)) = .ok ()) (hmem : label ∈ labels)
    (hcontract : contract ∈ contracts) : ∃ found, contract.member "LABEL" = .ok found := by
  cases labels with
  | nil => cases hmem
  | cons first rest =>
    obtain ⟨known, hknown, _⟩ := checkLabels_eq_ok hcontracts h
    obtain ⟨found, _, hfound, _⟩ := mem_labelsOf hknown hcontract
    exact ⟨found, hfound⟩

/-- No entry takes a read without its label having been checked. -/
theorem batch_eq_ok {compress : Compressor} {read : CodeReader σ} {labels : List WideText}
    {listed sender : Json} {session after : Session (Watched σ)} {found : List Entry}
    (h : (batch compress read.watched listed (.arr (labels.map .str)) sender).runIn session =
      (.ok found, after)) :
    ∃ contracts, listed.items = .ok contracts ∧
      checkLabels listed (.arr (labels.map .str)) = .ok () ∧
      (entries compress read.watched (.arr (labels.map .str)) sender contracts).runIn session =
        (.ok found, after) := by
  obtain ⟨_, hcheck, h⟩ := Task.runIn_lift_bind_eq_ok.mp h
  obtain ⟨contracts, hcontracts, h⟩ := Task.runIn_lift_bind_eq_ok.mp h
  exact ⟨contracts, hcontracts, hcheck, h⟩

end ContractOps.Storage
