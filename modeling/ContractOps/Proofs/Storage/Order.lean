import ContractOps.Proofs.Storage.Correlation
import ContractOps.Proofs.Storage.Phases

/-!
# In which order a run asks

What a run asks of its surroundings is told by its events, and their order is that of its phases.
Requests ask nothing, so that a run that is refused (`Refused`) leaves no event. Entries are read
one after the other up to the first that fails (`Reading`), and each task is said to take the reads
that it may leave (`Takes`), put together along its binds. A broadcast follows only if every entry
was read, and nothing follows a broadcast (`Orderly`). Whatever a run comes to, its events are of
this kind (`run_orderly`).
-/

namespace ContractOps.Storage

variable {σ α β : Type}

/-! ## What is asked for -/

/-- The contracts that are asked for, in the order of the configuration. -/
def chosen (config chainId : Json) (labels : List Json) : List Json :=
  (Config.CodeIds.optionsWith config chainId).flatMap fun option =>
    ((Config.CodeIds.contractsOf option).toOption.getD []).filter (requested labels)

theorem Request.Granted.chosen_eq {address : Except Fault Json} {config chainId : Json}
    {labels : List Json} {r : Request} (h : r.Granted address config chainId (.arr labels)) :
    chosen config chainId labels = r.contracts.filter (requested labels) := by
  obtain ⟨chain, hchain, hoption⟩ := h.chain
  obtain ⟨listed, hlisted, _, hcontracts⟩ := h.listed
  have hread : Config.CodeIds.contractsOf r.option = .ok r.contracts :=
    except_bind_eq_ok.mpr ⟨listed, hlisted, hcontracts⟩
  rw [chosen, Config.CodeIds.optionsWith_of_findOption hchain, hoption, List.flatMap_singleton,
    hread]
  rfl

/-! ## Reading -/

/-- The file of an event. -/
def Event.file? : Event → Option Json
  | read file _ => some file
  | broadcast .. => none

/-- Whether an event is a broadcast. -/
def Event.isBroadcast : Event → Bool
  | read .. => false
  | broadcast .. => true

/-- Reads of the files of contracts, one after the other and up to the first that fails. Whether all
of them were read comes last. -/
inductive Reading : List Json → List Event → Bool → Prop
  | all : Reading [] [] true
  | stopped (contracts : List Json) : Reading contracts [] false
  | failed {contract file : Json} {fault : Fault} (rest : List Json)
      (h : contract.member "WASM" = .ok file) :
      Reading (contract :: rest) [.read file (.error fault)] false
  | next {contract file : Json} {code : Bytes} {rest : List Json} {events : List Event}
      {complete : Bool} (h : contract.member "WASM" = .ok file)
      (hrest : Reading rest events complete) :
      Reading (contract :: rest) (.read file (.ok code) :: events) complete

namespace Reading

variable {contracts rest : List Json} {events more : List Event} {complete : Bool}

theorem append (h : Reading contracts events true) (hrest : Reading rest more complete) :
    Reading (contracts ++ rest) (events ++ more) complete := by
  generalize hall : true = all at h
  induction h with
  | all => exact hrest
  | stopped => cases hall
  | failed => cases hall
  | next hfile _ ih => exact .next hfile (ih hall)

/-- Also without the contracts that follow, this is all. -/
theorem stop (h : Reading contracts events complete) (rest : List Json) :
    Reading (contracts ++ rest) events false := by
  induction h with
  | all => exact .stopped rest
  | stopped contracts => exact .stopped (contracts ++ rest)
  | failed _ hfile => exact .failed _ hfile
  | next hfile _ ih => exact .next hfile ih

theorem files_isPrefix (h : Reading contracts events complete) :
    (events.filterMap Event.file?).map Except.ok <+: contracts.map (·.member "WASM") := by
  induction h with
  | all => exact List.prefix_rfl
  | stopped contracts => exact List.nil_prefix
  | failed rest hfile =>
    simp only [List.filterMap, Event.file?, List.map_cons, List.map_nil, hfile]
    exact List.cons_prefix_cons.mpr ⟨rfl, List.nil_prefix⟩
  | next hfile _ ih =>
    simp only [List.filterMap, Event.file?, List.map_cons, hfile]
    exact List.cons_prefix_cons.mpr ⟨rfl, ih⟩

theorem not_isBroadcast (h : Reading contracts events complete) :
    ∀ e ∈ events, e.isBroadcast = false := by
  induction h with
  | all | stopped => simp
  | failed => simp [Event.isBroadcast]
  | next _ _ ih => exact List.forall_mem_cons.mpr ⟨rfl, ih⟩

/-- A read that fails is the last one. -/
theorem eq_nil_of_error (h : Reading contracts events complete) {before after : List Event}
    {file : Json} {fault : Fault} (hevents : events = before ++ .read file (.error fault) :: after) :
    after = [] := by
  induction h generalizing before with
  | all | stopped => simp at hevents
  | failed =>
    cases before with
    | nil =>
      cases hevents
      rfl
    | cons _ _ => simp at hevents
  | next _ _ ih =>
    cases before with
    | nil => cases hevents
    | cons _ _ => exact ih (List.cons.inj hevents).2

/-- If all was read, there is a code for every contract. -/
theorem exists_codes (h : Reading contracts events true) :
    ∃ codes : List (Json × Bytes), events = codes.map (fun c => .read c.1 (.ok c.2)) ∧
      codes.map (fun c => Except.ok c.1) = contracts.map (·.member "WASM") := by
  generalize hall : true = all at h
  induction h with
  | all => exact ⟨[], rfl, rfl⟩
  | stopped => cases hall
  | failed => cases hall
  | @next contract file code rest events complete hfile _ ih =>
    obtain ⟨codes, hevents, hfiles⟩ := ih hall
    exact ⟨(file, code) :: codes, by rw [hevents, List.map_cons],
      by rw [List.map_cons, hfiles, List.map_cons, hfile]⟩

end Reading

/-! ## Tasks that read -/

/-- Whatever the task comes to, it reads the files of contracts, and of all of them if it
succeeds. -/
def Takes (contracts : List Json) (t : Task (Watched σ) α) : Prop :=
  ∀ ⦃session after : Session (Watched σ)⦄ ⦃result : Except Fault α⦄,
    t.runIn session = (result, after) →
      ∃ events, Followed session after events ∧ Reading contracts events result.isOk

namespace Takes

variable {contracts rest : List Json}

theorem of_keeps {t : Task (Watched σ) α} (h : Task.Keeps Watched.events t) : Takes [] t := by
  intro session after result hrun
  refine ⟨[], ?_, ?_⟩
  · have hkept := h session
    rwa [hrun, ← List.append_nil session.world.events] at hkept
  · cases result with
    | error e => exact .stopped []
    | ok a => exact .all

theorem throw (e : Fault) (contracts : List Json) :
    Takes contracts (MonadExcept.throw e : Task (Watched σ) α) := by
  intro session after result hrun
  cases hrun
  exact ⟨[], (List.append_nil _).symm, .stopped contracts⟩

theorem bind {t : Task (Watched σ) α} {next : α → Task (Watched σ) β} (h : Takes contracts t)
    (hnext : ∀ a, Takes rest (next a)) : Takes (contracts ++ rest) (t >>= next) := by
  intro session after result hrun
  cases hfirst : t.runIn session with
  | mk answer between =>
    obtain ⟨events, hfollowed, hreading⟩ := h hfirst
    cases answer with
    | error e =>
      cases (Task.runIn_bind_error hfirst).symm.trans hrun
      exact ⟨events, hfollowed, hreading.stop rest⟩
    | ok a =>
      rw [Task.runIn_bind_ok hfirst] at hrun
      obtain ⟨more, hmore, hrest⟩ := hnext a hrun
      exact ⟨events ++ more, hfollowed.trans hmore, hreading.append hrest⟩

theorem lift_bind {e : Except Fault α} {next : α → Task (Watched σ) β}
    (hnext : ∀ a, e = .ok a → Takes contracts (next a)) :
    Takes contracts ((liftM e : Task (Watched σ) α) >>= next) := by
  cases e with
  | error fault => exact throw fault contracts
  | ok a => exact hnext a rfl

theorem read (read : CodeReader σ) {contract file : Json} (h : contract.member "WASM" = .ok file) :
    Takes [contract] (read.watched file) := by
  intro session after answer hrun
  refine ⟨[.read file answer], followed_watch hrun, ?_⟩
  cases answer with
  | error e => exact .failed [] h
  | ok code => exact .next h .all

end Takes

/-- An entry takes one read. -/
theorem takes_entry (compress : Compressor) (read : CodeReader σ) (sender contract : Json) :
    Takes [contract] (entry compress read.watched sender contract) := by
  refine .lift_bind fun label _ => .lift_bind fun file hfile => ?_
  show Takes ([contract] ++ []) _
  refine .bind (.read read hfile) fun code => .of_keeps ?_
  exact .lift_bind fun _ => .lift_bind fun _ => .lift_bind fun _ => .pure _

/-- Entries take one read for every contract that is asked for. -/
theorem takes_entries (compress : Compressor) (read : CodeReader σ) (labels : List Json)
    (sender : Json) (contracts : List Json) :
    Takes (contracts.filter (requested labels))
      (entries compress read.watched (.arr labels) sender contracts) := by
  induction contracts with
  | nil => exact .of_keeps (.pure [])
  | cons contract rest ih =>
    refine .lift_bind fun label hlabel => .lift_bind fun wanted hwanted => ?_
    rw [contains_requested labels hlabel] at hwanted
    cases hwanted
    by_cases hrequested : requested labels contract = true
    · rw [if_pos hrequested, List.filter_cons_of_pos hrequested]
      show Takes ([contract] ++ rest.filter (requested labels)) _
      refine .bind (takes_entry compress read sender contract) fun _ => ?_
      rw [← List.append_nil (rest.filter _)]
      exact .bind ih fun _ => .of_keeps (.pure _)
    · rw [if_neg hrequested, List.filter_cons_of_neg hrequested]
      exact ih

/-- Preparing takes the reads of all contracts that are asked for. -/
theorem takes_prepare (compress : Compressor) (read : CodeReader σ) (address : Except Fault Json)
    (config chainId : Json) (labels : List Json) :
    Takes (chosen config chainId labels)
      (prepare compress read.watched address config chainId (.arr labels)) := by
  refine .lift_bind fun r hrequest => ?_
  rw [(request_eq_ok hrequest).chosen_eq, ← List.append_nil (r.contracts.filter _)]
  refine .bind (takes_entries compress read labels r.sender r.contracts) fun batch => .of_keeps ?_
  split
  · exact .throw _
  · exact .lift_bind fun (gas, fee) => .bind (.note _) fun _ => .pure _

/-! ## Requests that are refused -/

/-- The option names an event format, and not one of those that are known. -/
def UnknownFormat (option : Json) : Prop :=
  ∃ format, option.getD "EVENT_FORMAT" (.str "events") = .ok format ∧ format ≠ .str "events" ∧
    format ≠ .str "raw_log"

/-- No contract of an option has the label. -/
def LacksLabel (option label : Json) : Prop :=
  ∀ contracts, Config.CodeIds.contractsOf option = .ok contracts → ∀ contract ∈ contracts,
    ∀ found, contract.member "LABEL" = .ok found → label.same found = false

/-- What makes a run fail whatever there is to read. -/
inductive Refused (address : Except Fault Json) (config chainId : Json) (labels : List Json) : Prop
  | unresolved (h : (Config.CodeIds.optionsWith config chainId).length ≠ 1)
  | format {option : Json} (hoption : option ∈ Config.CodeIds.optionsWith config chainId)
      (h : UnknownFormat option)
  | label {option label : Json} (hoption : option ∈ Config.CodeIds.optionsWith config chainId)
      (hlabel : label ∈ labels) (h : LacksLabel option label)
  | noAddress {fault : Fault} (h : address = .error fault)
  | noLabels (h : labels = [])

theorem not_unknownFormat {option : Json} {format : TxResult.EventFormat}
    (h : TxResult.EventFormat.ofOption option = .ok format) : ¬UnknownFormat option := by
  rintro ⟨found, hfound, hevents, hlog⟩
  obtain ⟨_, hread, h⟩ := except_bind_eq_ok.mp h
  cases hfound.symm.trans hread
  obtain ⟨_, _, h⟩ := except_bind_eq_ok.mp h
  rw [if_neg (by rwa [Json.same_str_right]), if_neg (by rwa [Json.same_str_right])] at h
  obtain ⟨_, _, h⟩ := except_bind_eq_ok.mp h
  cases h

/-- A request that is granted is refused for nothing but that there are no labels. -/
theorem Request.Granted.eq_nil_of_refused {address : Except Fault Json} {config chainId : Json}
    {labels : List Json} {r : Request} (h : r.Granted address config chainId (.arr labels))
    (hrefused : Refused address config chainId labels) : labels = [] := by
  obtain ⟨chain, hchain, hoption⟩ := h.chain
  have honly : Config.CodeIds.optionsWith config chainId = [r.option] := by
    rw [Config.CodeIds.optionsWith_of_findOption hchain, hoption]
  cases hrefused with
  | unresolved hlength =>
    rw [honly] at hlength
    exact absurd rfl hlength
  | format hmem hunknown =>
    rw [honly, List.mem_singleton] at hmem
    subst hmem
    exact absurd hunknown (not_unknownFormat h.format)
  | label hmem hlabel hlacks =>
    rw [honly, List.mem_singleton] at hmem
    subst hmem
    obtain ⟨listed, hlisted, hcheck, hcontracts⟩ := h.listed
    obtain ⟨contract, hcontract, found, hfound, hsame⟩ :=
      exists_same_labelled hcontracts hcheck hlabel
    have hread : Config.CodeIds.contractsOf r.option = .ok r.contracts :=
      except_bind_eq_ok.mpr ⟨listed, hlisted, hcontracts⟩
    rw [hlacks r.contracts hread contract hcontract found hfound] at hsame
    cases hsame
  | noAddress hfault => cases hfault.symm.trans h.sender
  | noLabels hnil => exact hnil

theorem Reading.eq_nil {events : List Event} {complete : Bool} (h : Reading [] events complete) :
    events = [] := by
  cases h <;> rfl

/-- If a run is refused, it cannot be prepared, and nothing is read. -/
theorem prepare_refused {compress : Compressor} {read : CodeReader σ}
    {address : Except Fault Json} {config chainId : Json} {labels : List Json}
    {session after : Session (Watched σ)} {result : Except Fault Prepared}
    (hrefused : Refused address config chainId labels)
    (h : (prepare compress read.watched address config chainId (.arr labels)).runIn session =
      (result, after)) : Followed session after [] ∧ ∃ fault, result = .error fault := by
  cases hrequest : request address config chainId (.arr labels) with
  | error fault =>
    rw [prepare, hrequest] at h
    cases h
    exact ⟨(List.append_nil _).symm, fault, rfl⟩
  | ok r =>
    have hgranted := request_eq_ok hrequest
    have hnil := hgranted.eq_nil_of_refused hrefused
    subst hnil
    have hnone : chosen config chainId [] = [] := by
      rw [hgranted.chosen_eq, filter_requested_nil]
    obtain ⟨events, hfollowed, hreading⟩ := takes_prepare compress read address config chainId [] h
    rw [hnone] at hreading
    rw [hreading.eq_nil] at hfollowed
    refine ⟨hfollowed, ?_⟩
    cases result with
    | error fault => exact ⟨fault, rfl⟩
    | ok p => exact absurd rfl (labels_ne_nil_of_prepare h)

/-! ## Every run -/

/-- The files of contracts are read one after the other, up to the first read that fails. If the
code of every contract was read, a broadcast of all messages may follow, and nothing after that. -/
structure Orderly (contracts : List Json) (events : List Event) : Prop where
  files : (events.filterMap Event.file?).map Except.ok <+: contracts.map (·.member "WASM")
  stops : ∀ before file fault after, events = before ++ .read file (.error fault) :: after →
    after = []
  once : (events.filter Event.isBroadcast).length ≤ 1
  complete : ∀ before messages fee gas memo answer after,
    events = before ++ .broadcast messages fee gas memo answer :: after →
      after = [] ∧ messages.length = contracts.length ∧
      ∃ codes : List (Json × Bytes), before = codes.map (fun c => .read c.1 (.ok c.2)) ∧
        codes.map (fun c => Except.ok c.1) = contracts.map (·.member "WASM")

theorem Reading.filter_isBroadcast {contracts : List Json} {events : List Event} {complete : Bool}
    (h : Reading contracts events complete) : events.filter Event.isBroadcast = [] :=
  List.filter_eq_nil_iff.mpr fun e he => by simp [h.not_isBroadcast e he]

/-- Reads without a broadcast are in order. -/
theorem Reading.orderly {contracts : List Json} {events : List Event} {complete : Bool}
    (h : Reading contracts events complete) : Orderly contracts events where
  files := h.files_isPrefix
  stops _ _ _ _ hevents := h.eq_nil_of_error hevents
  once := by simp [h.filter_isBroadcast]
  complete before messages fee gas memo answer after hevents := by
    have hsilent := h.not_isBroadcast (.broadcast messages fee gas memo answer) (by simp [hevents])
    cases hsilent

/-- An item of a list with one more at its end is the last one, or it stands before that. -/
theorem eq_or_mem_of_concat_eq {xs before after : List α} {x y : α}
    (h : xs ++ [x] = before ++ y :: after) : (after = [] ∧ before = xs ∧ y = x) ∨ y ∈ xs := by
  rcases List.eq_nil_or_concat after with rfl | ⟨init, z, rfl⟩
  · obtain ⟨rfl, hlast⟩ := List.append_inj' h rfl
    exact .inl ⟨rfl, rfl, (List.singleton_inj.mp hlast).symm⟩
  · rw [List.concat_eq_append, ← List.cons_append, ← List.append_assoc] at h
    obtain ⟨rfl, _⟩ := List.append_inj' h rfl
    exact .inr (by simp)

/-- So are reads of all contracts with a broadcast after them. -/
theorem Reading.orderly_broadcast {contracts : List Json} {events : List Event}
    (h : Reading contracts events true) {messages : List Message} (fee : WideText) (gas : Int)
    (memo : String) (answer : Except Fault TxResult) (hlength : messages.length = contracts.length) :
    Orderly contracts (events ++ [.broadcast messages fee gas memo answer]) where
  files := by
    have hnone : [Event.broadcast messages fee gas memo answer].filterMap Event.file? = [] := rfl
    rw [List.filterMap_append, hnone, List.append_nil]
    exact h.files_isPrefix
  stops before file fault after hevents := by
    obtain ⟨codes, hcodes, _⟩ := h.exists_codes
    rcases eq_or_mem_of_concat_eq hevents with ⟨hafter, _, _⟩ | hmem
    · exact hafter
    · rw [hcodes] at hmem
      obtain ⟨code, _, heq⟩ := List.mem_map.mp hmem
      cases heq
  once := by
    rw [List.filter_append, h.filter_isBroadcast]
    exact List.length_filter_le _ _
  complete before messages' fee' gas' memo' answer' after hevents := by
    rcases eq_or_mem_of_concat_eq hevents with ⟨hafter, rfl, heq⟩ | hmem
    · cases heq
      exact ⟨hafter, hlength, h.exists_codes⟩
    · have hsilent := h.not_isBroadcast _ hmem
      cases hsilent

/-- What was prepared has a message for every contract that is asked for. -/
theorem length_messages {compress : Compressor} {read : CodeReader σ}
    {address : Except Fault Json} {config chainId : Json} {labels : List Json}
    {session after : Session σ} {p : Prepared}
    (h : (prepare compress read address config chainId (.arr labels)).runIn session =
      (.ok p, after)) :
    (p.batch.map Entry.message).length = (chosen config chainId labels).length := by
  obtain ⟨r, between, hrequest, _, hentries, _, _⟩ := prepare_eq_ok h
  rw [(request_eq_ok hrequest).chosen_eq, List.length_map, (forall₂_entries hentries).length_eq]

/-- How the events of a run follow from how preparing it ends. -/
theorem run_followed (compress : Compressor) (read : CodeReader σ) (signer : Signer σ)
    (config chainId : Json) (labels : List Json) (session : Session (Watched σ)) :
    ∃ prepared between result after events,
      (prepare compress read.watched signer.address config chainId (.arr labels)).runIn session =
        (prepared, between) ∧
      (run compress read.watched signer.watched config chainId (.arr labels)).runIn session =
        (result, after) ∧
      Followed session after events ∧ Orderly (chosen config chainId labels) events ∧
      (Refused signer.address config chainId labels →
        events = [] ∧ ∃ fault, result = .error fault) ∧
      match prepared with
      | .error fault => result = .error fault ∧ after = between ∧ ∀ e ∈ events, e.isBroadcast = false
      | .ok p => ∃ answer,
        .broadcast (p.batch.map Entry.message) p.fee p.gas "" answer ∈ events := by
  have hrun : run compress read.watched signer.watched config chainId (.arr labels) =
      prepare compress read.watched signer.address config chainId (.arr labels) >>= fun p =>
        p.send signer.watched >>= p.finish config chainId :=
    run_eq compress read.watched signer.watched config chainId (.arr labels)
  rcases hprepare : (prepare compress read.watched signer.address config chainId
    (.arr labels)).runIn session with ⟨prepared, between⟩
  obtain ⟨reads, hreads, hreading⟩ :=
    takes_prepare compress read signer.address config chainId labels hprepare
  cases prepared with
  | error fault =>
    refine ⟨.error fault, between, .error fault, between, reads, rfl, ?_, hreads,
      hreading.orderly, ?_, rfl, rfl, hreading.not_isBroadcast⟩
    · rw [hrun]
      exact Task.runIn_bind_error hprepare
    · intro hrefused
      obtain ⟨hnone, _⟩ := prepare_refused hrefused hprepare
      exact ⟨List.append_cancel_left (hreads.symm.trans hnone), fault, rfl⟩
  | ok p =>
    -- what was prepared is sent, and what is done then leaves no event
    rcases hsend : (p.send signer.watched).runIn between with ⟨answer, sent⟩
    have hsent : Followed between sent
        [.broadcast (p.batch.map Entry.message) p.fee p.gas "" answer] :=
      (followed_watch hsend :)
    rcases hdelivered : (p.send signer.watched >>= p.finish config chainId).runIn between with
      ⟨result, after⟩
    have hafter : after.world.events = sent.world.events := by
      cases answer with
      | error fault =>
        cases hdelivered.symm.trans (Task.runIn_bind_error hsend)
        rfl
      | ok tx =>
        have hkept := p.finish_keeps Watched.events config chainId tx sent
        rwa [← Task.runIn_bind_ok hsend, hdelivered] at hkept
    refine ⟨.ok p, between, result, after, reads ++ [_], rfl, ?_, ?_,
      hreading.orderly_broadcast p.fee p.gas "" answer (length_messages hprepare), ?_, answer, ?_⟩
    · rw [hrun, Task.runIn_bind_ok hprepare]
      exact hdelivered
    · exact hafter.trans (hreads.trans hsent)
    · intro hrefused
      obtain ⟨_, fault, hfault⟩ := prepare_refused hrefused hprepare
      cases hfault
    · exact List.mem_append_right _ (List.mem_singleton_self _)

/-- Whatever a run comes to, its events are orderly, and they are none if it is refused. If it fails
before the broadcast, its fault is the one it met there, and there is no broadcast among its
events. -/
theorem run_orderly (compress : Compressor) (read : CodeReader σ) (signer : Signer σ)
    (config chainId : Json) (labels : List Json) (world : σ) :
    ∃ result after events,
      (run compress read signer config chainId (.arr labels)).start world = (result, after) ∧
      (run compress read.watched signer.watched config chainId (.arr labels)).start ⟨world, []⟩ =
        (result, ⟨⟨after.world, events⟩, after.notices⟩) ∧
      Orderly (chosen config chainId labels) events ∧
      (Refused signer.address config chainId labels →
        events = [] ∧ ∃ fault, result = .error fault) ∧
      match (prepare compress read signer.address config chainId (.arr labels)).start world with
      | (.error fault, before) =>
        result = .error fault ∧ after = before ∧ ∀ e ∈ events, e.isBroadcast = false
      | (.ok p, _) => ∃ answer,
        .broadcast (p.batch.map Entry.message) p.fee p.gas "" answer ∈ events := by
  have hstart : SameWorld (⟨world, []⟩ : Watched σ) world := rfl
  obtain ⟨prepared, between, result, after, events, hprepare, hrun, hfollowed, horderly, hrefused,
    hphase⟩ := run_followed compress read signer config chainId labels ⟨⟨world, []⟩, []⟩
  -- watched or not, preparing and the whole run come to the same end
  obtain ⟨_, watched, _, notices, hwatched, hplain, rfl⟩ :=
    run_watched compress read signer config chainId (.arr labels) [] hstart
  cases hrun.symm.trans hwatched
  obtain ⟨_, ready, _, notices', hready, hplain', rfl⟩ :=
    prepare_related (fun file => watch_related (.read file) (read file)) compress signer.address
      config chainId (.arr labels) [] hstart
  cases hprepare.symm.trans hready
  have hevents : watched.events = events := hfollowed
  refine ⟨result, ⟨watched.world, notices⟩, events, hplain, ?_, horderly, hrefused, ?_⟩
  · rw [← hevents]
    exact hwatched
  · rw [Task.start, hplain']
    cases prepared with
    | error fault =>
      obtain ⟨hfault, hsame, hnone⟩ := hphase
      cases hsame
      exact ⟨hfault, rfl, hnone⟩
    | ok p => exact hphase

/-! ### A file that is missing -/

/-- The same code in every file but one, which is missing. -/
def codeWithout (name : WideText) : CodeReader Unit := fun file =>
  if file.same (.str name) then Task.fail (.artifactUnreadable name "missing") else return [1, 2, 3]

/-- The contract after the missing one is not read, and nothing is sent. -/
theorem run_orderly_interrupted :
    ∃ fault after events,
      (run id (codeWithout "b") oneCodeId threeContracts (.str "X")
        (.arr [.str "c", .str "b", .str "a"])).start () = (.error fault, after) ∧
      events.filterMap Event.file? = [.str "a", .str "b"] ∧
      (∀ e ∈ events, e.isBroadcast = false) ∧
      Orderly (chosen threeContracts (.str "X") [.str "c", .str "b", .str "a"]) events := by
  obtain ⟨result, after, events, hrun, hwatched, horderly, _, hphase⟩ :=
    run_orderly id (codeWithout "b") oneCodeId threeContracts (.str "X")
      [.str "c", .str "b", .str "a"] ()
  have hfiles : ((run id (codeWithout "b").watched oneCodeId.watched threeContracts (.str "X")
      (.arr [.str "c", .str "b", .str "a"])).start ⟨(), []⟩).2.world.events.filterMap Event.file? =
        [.str "a", .str "b"] := by decide +kernel
  have hfails : ((prepare id (codeWithout "b") oneCodeId.address threeContracts (.str "X")
      (.arr [.str "c", .str "b", .str "a"])).start ()).1.isOk = false := by decide +kernel
  rw [hwatched] at hfiles
  rcases hprepare : (prepare id (codeWithout "b") oneCodeId.address threeContracts (.str "X")
    (.arr [.str "c", .str "b", .str "a"])).start () with ⟨fault | p, before⟩
  · rw [hprepare] at hphase
    obtain ⟨rfl, _, hnone⟩ := hphase
    exact ⟨fault, after, events, hrun, hfiles, hnone, horderly⟩
  · rw [hprepare] at hfails
    cases hfails

end ContractOps.Storage
