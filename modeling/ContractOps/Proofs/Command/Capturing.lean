import ContractOps.Proofs.Command.Stages
import ContractOps.Proofs.Listing.Walk

/-!
# Capturing users that fails

Capturing first surveys the platform (`survey`), which leaves every file alone, and then keeps what
it has found (`keep`). The snapshot is emptied before its new text is put together, so that a user
who cannot be shown costs the old snapshot. `failed_capture_keeps_iff` says when exactly it
survives.
-/

namespace ContractOps

/-! ## Listings -/

/-- A listing is read from pages alone. -/
theorem Listing.walk_keeps {σ α γ : Type} {part : σ → γ} {fetch : Json → Json → Task σ (List α)}
    (hfetch : ∀ cursor limit, Task.Keeps part (fetch cursor limit))
    (cursorOf : α → Except Fault Json) (limit : Json) (rounds : Nat) (cursor : Json)
    (soFar : Listing α) : Task.Keeps part (walk fetch cursorOf limit rounds cursor soFar) :=
  Task.keeps_iff_related.mpr fun value =>
    walk_related (fun cursor limit => Task.keeps_iff_related.mp (hfetch cursor limit) value)
      cursorOf limit rounds cursor soFar

theorem Query.allUsers_keeps {σ γ : Type} {part : σ → γ} {asker : Asker σ}
    (hasker : ∀ address message, Task.Keeps part (asker address message))
    (platform amount iterLimit : Json) :
    Task.Keeps part (allUsers asker platform amount iterLimit) :=
  .lift_bind fun rounds => Listing.walk_keeps (fun _ _ => .bind (hasker _ _) fun _ => .lift _) _ _
    rounds _ _

namespace Command

variable {s : Setup} {arguments : List String} {session after : Session World} {world : World}
  {path : WideText} {users : Listing Json} {made : Workspace}

/-! ## Stages -/

/-- All that comes before the first write: where the snapshot goes, and the users. -/
def survey (s : Setup) (arguments : List String) : Task World (WideText × Listing Json) := do
  let (chainId, _) ← parseStore arguments
  let chain ← Config.findOption (← loadConfig s) (.str chainId)
  let contracts ← chain.option.getD "CONTRACTS" (.arr [])
  let platform ← Config.findContract contracts (.str "platform")
  let client ← Client.ofOption chain.option none
  let address ← platform.getD "ADDRESS" (.str "")
  let asker : Query.Asker World := fun address message => onNetwork (client.query address message)
  let users ← Query.allUsers asker address (.int usersPerPage) (.int Listing.iterLimit)
  warnPartial users
  let set ← chain.option.member "TYPE"
  let path ← snapshotPath s.places.snapshots chain.name set "users.json"
  return (path, users)

/-- Writes the users that were found. -/
def keep (path : WideText) (users : Listing Json) : Task World Unit := do
  writeSnapshot path users.items
  Task.info .captureCommand <| s!"{users.items.length} users saved to " ++ path

/-- Capturing is surveying and then keeping what was found. -/
theorem capture_eq (s : Setup) (arguments : List String) :
    capture s arguments = survey s arguments >>= fun p => keep p.1 p.2 := by
  simp only [capture, survey, keep, bind_assoc, pure_bind]

/-! ## Surveying -/

/-- Surveying leaves the files alone, also if it fails. -/
theorem survey_keeps_files (s : Setup) (arguments : List String) :
    Task.Keeps World.files (survey s arguments) := by
  refine .lift_bind fun (chainId, _) => .bind (loadConfig_keeps_files s) fun config =>
    .lift_bind fun chain => .lift_bind fun contracts => .lift_bind fun platform =>
    .lift_bind fun client => .lift_bind fun address => .bind
      (Query.allUsers_keeps (fun _ _ => onNetwork_keeps_files _) _ _ _) fun users => .bind ?_
        fun _ => .lift_bind fun _ => .lift_bind fun _ => .pure _
  rw [warnPartial]
  split
  · exact .pure ()
  · exact .note _

/-! ## Keeping -/

/-- The snapshot can be opened: its folder is there or has been made, and a file can be there. -/
structure Admits (w : Workspace) (path : WideText) (made : Workspace) : Prop where
  folder : w.makeFolders (Path.folder path) = .ok made
  writable : made.Writable path

/-- A snapshot that can be opened is written if every user can be shown. If not, its file is left
empty. -/
theorem runIn_writeSnapshot (users : List Json) (h : Admits session.world.files path made) :
    (writeSnapshot path users).runIn session =
      match Users.formatAll (.arr users) with
      | .error e =>
        (.error e, ⟨{ session.world with files := made.put path [] }, session.notices⟩)
      | .ok shown =>
        (.ok (), ⟨{ session.world with
          files := made.put path (Utf8.ofString (Json.arr shown).indentedAscii) },
          session.notices⟩) := by
  rw [writeSnapshot, Task.runIn_bind_ok (runIn_changeFiles_ok h.folder),
    Task.runIn_bind_ok (runIn_changeFiles_ok (h.writable.write [])), Task.runIn_bind,
    Task.runIn_lift]
  cases Users.formatAll (.arr users) with
  | error e => rfl
  | ok shown =>
    dsimp only
    rw [runIn_changeFiles_ok ((h.writable.put []).write _), Workspace.put_put]

/-- Keeping fails only if a user cannot be shown, and leaves the snapshot empty and every other file
as it was. -/
theorem keep_eq_error {e : Fault} (hadmits : Admits session.world.files path made)
    (h : (keep path users).runIn session = (.error e, after)) :
    Users.formatAll (.arr users.items) = .error e ∧
      ∀ other, after.world.files.contents other =
        if Path.name other = Path.name path then some []
        else session.world.files.contents other := by
  rw [keep, Task.runIn_bind, runIn_writeSnapshot users.items hadmits] at h
  cases hshown : Users.formatAll (.arr users.items) with
  | ok shown =>
    rw [hshown] at h
    cases h
  | error fault =>
    rw [hshown] at h
    cases h
    refine ⟨rfl, fun other => ?_⟩
    rw [Workspace.contents_put, Workspace.contents_makeFolders hadmits.folder]

/-! ## Whole runs -/

/-- Wherever a survey finds a place for the snapshot, it can be opened there. -/
def SnapshotOpens (s : Setup) (arguments : List String) (world : World) : Prop :=
  ∀ path users after, (survey s arguments).start world = (.ok (path, users), after) →
    ∃ made, Admits world.files path made

/-- A run with status 1 has failed while it surveyed, with all files as they were, or over a user
who cannot be shown, with nothing left in the snapshot. -/
theorem run_capture_eq_one (hopens : SnapshotOpens s arguments world)
    (h : (run s .capture arguments world).1 = 1) :
    (∃ e after, (survey s arguments).start world = (.error e, after) ∧
      (run s .capture arguments world).2.world.files = world.files) ∨
    ∃ path users between e, (survey s arguments).start world = (.ok (path, users), between) ∧
      Users.formatAll (.arr users.items) = .error e ∧
      ∀ other, (run s .capture arguments world).2.world.files.contents other =
        if Path.name other = Path.name path then some [] else world.files.contents other := by
  cases hcapture : (Name.capture.task s arguments).start world with
  | mk result after =>
    cases result with
    | ok _ =>
      rw [run_of_ok hcapture] at h
      cases h
    | error e =>
      rw [run_of_error hcapture]
      rw [Task.start, Name.task, capture_eq] at hcapture
      have hfiles := survey_keeps_files s arguments ⟨world, []⟩
      rcases Task.runIn_bind_eq_error.mp hcapture with
        hsurvey | ⟨⟨path, users⟩, between, hsurvey, hkeep⟩
      · rw [hsurvey] at hfiles
        exact .inl ⟨e, after, hsurvey, hfiles⟩
      · rw [hsurvey] at hfiles
        have hsame : between.world.files = world.files := hfiles
        obtain ⟨made, hadmits⟩ := hopens path users between hsurvey
        obtain ⟨hshown, hcontents⟩ := keep_eq_error (hsame ▸ hadmits) hkeep
        exact .inr ⟨path, users, between, e, hsurvey, hshown, hsame ▸ hcontents⟩

/-- After a run with status 1 every file holds what it held before if and only if the run failed
before it had the users, or there was nothing to lose in the place of the snapshot. -/
theorem failed_capture_keeps_iff (s : Setup) (arguments : List String) (world : World)
    (hopens : SnapshotOpens s arguments world) (h : (run s .capture arguments world).1 = 1) :
    (∀ file old, world.files.contents file = some old →
      (run s .capture arguments world).2.world.files.contents file = some old) ↔
    ∀ path users after, (survey s arguments).start world = (.ok (path, users), after) →
      ∀ old, world.files.contents path = some old → old = [] := by
  rcases run_capture_eq_one hopens h with ⟨e, after, hsurvey, hfiles⟩ |
    ⟨path, users, between, e, hsurvey, _, hcontents⟩
  · constructor
    · intro _ path users after' hfound
      cases hsurvey.symm.trans hfound
    · intro _ file old hold
      rw [hfiles, hold]
  · constructor
    · intro hkept path' users' after' hfound old hold
      cases hsurvey.symm.trans hfound
      have hempty := (hcontents path).symm.trans (hkept path old hold)
      rw [if_pos rfl] at hempty
      exact (Option.some.inj hempty).symm
    · intro hnothing file old hold
      rw [hcontents]
      split
      · next hname =>
        have hpath : world.files.contents path = some old := by
          rw [Workspace.contents, ← hname]
          exact hold
        rw [hnothing path users between hsurvey old hpath]
      · exact hold

/-! ### A user without any figures -/

/-- One chain, and the address of its platform. -/
def platformText : String :=
  "\x7b\"CHAINS\": [\x7b\"NAME\": \"X\", \"OPTIONS\": [\x7b\"TYPE\": \"t\", \"CHAIN_ID\": \"X\", " ++
    "\"RPC_LIST\": [\"http://r\"], \"REST_LIST\": [\"http://r\"], \"DENOM\": \"u\", " ++
    "\"CONTRACTS\": [\x7b\"LABEL\": \"platform\", \"ADDRESS\": \"p\"\x7d]\x7d]\x7d]\x7d"

/-- Short names for the files that are read and written. -/
def captureSetup : Setup where
  places := { config := "c", snapshots := "s" }
  now := { year := 2024, month := 3, day := 9, hour := 5, minute := 6, second := 7 }
  compress := id
  addressOf _ _ := .ok "me"

/-- There is a snapshot, and the platform lists a user of whom it knows the address alone. -/
def sparseWorld : World where
  files := .ofFiles [("c", Utf8.ofString platformText), ("s/x/t/users.json", Utf8.ofString "[]")]
  network := {
    answers := [.ok ⟨200, Utf8.ofString "\x7b\"data\": [\x7b\"address\": \"a\"\x7d]\x7d"⟩]
    account := .error .overflow
    signed := []
    events := [] }

theorem failed_capture_keeps_iff_sparse :
    SnapshotOpens captureSetup ["X"] sparseWorld ∧
    (run captureSetup .capture ["X"] sparseWorld).1 = 1 ∧
    sparseWorld.files.contents "s/x/t/users.json" = some (Utf8.ofString "[]") ∧
    (run captureSetup .capture ["X"] sparseWorld).2.world.files.contents "s/x/t/users.json" =
      some [] ∧
    ((∀ file old, sparseWorld.files.contents file = some old →
        (run captureSetup .capture ["X"] sparseWorld).2.world.files.contents file = some old) ↔
      ∀ path users after, (survey captureSetup ["X"]).start sparseWorld =
        (.ok (path, users), after) → ∀ old, sparseWorld.files.contents path = some old → old = []) := by
  have hpath : ((survey captureSetup ["X"]).start sparseWorld).1.toOption.map Prod.fst =
      some "s/x/t/users.json" := by decide +kernel
  have hopens : SnapshotOpens captureSetup ["X"] sparseWorld := by
    intro path users after hsurvey
    rw [hsurvey] at hpath
    obtain rfl : path = "s/x/t/users.json" := Option.some.inj hpath
    have hfile : sparseWorld.files.kind (Path.name "s/x/t/users.json") =
        .file (Utf8.ofString "[]") := rfl
    refine ⟨sparseWorld.files, rfl, rfl, rfl, ?_⟩
    simp [hfile]
  have hrun : (run captureSetup .capture ["X"] sparseWorld).1 = 1 ∧
      (run captureSetup .capture ["X"] sparseWorld).2.world.files.contents "s/x/t/users.json" =
        some [] := by decide +kernel
  exact ⟨hopens, hrun.1, rfl, hrun.2,
    failed_capture_keeps_iff captureSetup ["X"] sparseWorld hopens hrun.1⟩

end Command

end ContractOps
