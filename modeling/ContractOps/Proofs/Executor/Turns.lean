import ContractOps.Proofs.Executor.Messages
import ContractOps.Proofs.Storage.Emits

/-!
# Calls one after the other

A call hands a `Batch` over, its messages with the gas limit and the fee, or it fails before that.
With whole numbers for the gas a call has exactly the batch that it `Requests` (`batch_eq_ok_iff`).
So a call takes one `Turn`: it is refused, or one broadcast is made and answered (`runIn_run`), and
a sequence of calls takes their turns one after the other (`runIn_runAll`). What is handed over
depends on the call alone, not on what became of those before it (`runAll_turns`).
-/

namespace ContractOps

open Message (Names)
open Storage (Watched SameWorld Followed Emits)

variable {σ τ : Type}

/-! ## Gas in whole numbers -/

theorem Json.times_of_integer? {a b : Json} {m n : Int} (ha : a.integer? = some m)
    (hb : b.integer? = some n) : a.times b = .ok (.int (m * n)) := by
  cases a <;> cases ha <;> cases b <;> cases hb <;> rfl

/-- In whole numbers nothing is rounded. -/
theorem Gas.forMessages_of_integer? {perMessage adjustment : Json} {m n : Int}
    (hper : perMessage.integer? = some m) (hadjustment : adjustment.integer? = some n)
    (messages : Nat) : Gas.forMessages perMessage messages adjustment = .ok (m * messages * n) := by
  have hall : perMessage.times (.int messages) = .ok (.int (m * messages)) :=
    Json.times_of_integer? hper rfl
  have hadjusted : (Json.int (m * messages)).times adjustment = .ok (.int (m * messages * n)) :=
    Json.times_of_integer? rfl hadjustment
  rw [forMessages, hall, except_ok_bind, hadjusted]
  rfl

/-! ## Watched broadcasts -/

/-- Leaves an event for every broadcast. -/
def Broadcaster.watched (broadcast : Broadcaster σ) : Broadcaster (Watched σ) :=
  fun messages fee gas memo =>
    Storage.watch (.broadcast messages fee gas memo) (broadcast messages fee gas memo)

namespace Executor

theorem run_related {R : σ → τ → Prop} {broadcast : Broadcaster σ} {broadcast' : Broadcaster τ}
    (h : ∀ messages fee gas memo,
      Task.Related R (broadcast messages fee gas memo) (broadcast' messages fee gas memo))
    (settings : Settings) (call : Call) :
    Task.Related R (run settings broadcast call) (run settings broadcast' call) :=
  .lift_bind fun (msgs, gas, fee) => .bind (h msgs fee gas "") fun _ => .bind (.note _) fun _ =>
    .pure _

/-- Messages for one transaction, with its gas limit and its fee. -/
structure Batch where
  messages : List Message
  gas : Int
  fee : WideText

/-- The batch of a call. -/
def batch (s : Settings) (call : Call) : Except Fault Batch := do
  let (messages, gas, fee) ← plan s call
  return { messages, gas, fee }

/-- The batch is what a call asks for, at so much gas for each message and adjusted by a factor: a
message for each contract or item, in their order, all from the one who acts. -/
structure Batch.Serves (s : Settings) (call : Call) (perMessage factor : Int) (b : Batch) :
    Prop where
  composes : Composes s call b.messages
  size : call.size = .ok b.messages.length
  sender : ∀ m ∈ b.messages, Names s.sender m.sender
  gas : b.gas = perMessage * b.messages.length * factor
  fee : Fee.text (.int b.gas) s.gasPrice s.denom = .ok b.fee

/-- What became of a call: it failed before anything was handed over, or one batch was handed over
and answered. -/
inductive Turn where
  | refused (fault : Fault)
  | sent (b : Batch) (answer : Except Fault TxResult)

namespace Turn

/-- What the call came to. -/
def result : Turn → Except Fault TxResult
  | refused fault => .error fault
  | sent _ answer => answer

/-- What was handed over. -/
def handed : Turn → Except Fault Batch
  | refused fault => .error fault
  | sent b _ => .ok b

/-- What was broadcast. -/
def events : Turn → List Storage.Event
  | refused _ => []
  | sent b answer => [.broadcast b.messages b.fee b.gas "" answer]

/-- Something is broadcast once if it was handed over, and else nothing is. -/
theorem length_events (t : Turn) : t.events.length = if t.handed.isOk then 1 else 0 := by
  cases t <;> rfl

end Turn

/-- Performs calls one after the other, whatever becomes of each. -/
def runAll (s : Settings) (broadcast : Broadcaster σ) (calls : List Call) :
    Task σ (List (Except Fault TxResult)) :=
  calls.mapM fun call => (run s broadcast call).attempt

variable {s : Settings} {call : Call} {perMessage factor : Int} {b : Batch}

/-! ## Batches -/

/-- With whole numbers for the gas, a call hands over exactly the batch that serves it. -/
theorem batch_eq_ok_iff (hper : s.gasPerMessage.integer? = some perMessage)
    (hfactor : (adjustment call).integer? = some factor) :
    batch s call = .ok b ↔ b.Serves s call perMessage factor := by
  have hgas := Gas.forMessages_of_integer? hper hfactor
  constructor
  · intro h
    obtain ⟨_, hplan, h⟩ := except_bind_eq_ok.mp h
    obtain ⟨msgs, hmessages, hplan⟩ := except_bind_eq_ok.mp hplan
    obtain ⟨gas, hlimit, hplan⟩ := except_bind_eq_ok.mp hplan
    obtain ⟨fee, hfee, hplan⟩ := except_bind_eq_ok.mp hplan
    cases hplan
    cases h
    cases (hgas msgs.length).symm.trans hlimit
    have hcomposes := messages_eq_ok_iff.mp hmessages
    exact ⟨hcomposes, hcomposes.size, hcomposes.names, rfl, hfee⟩
  · intro h
    obtain ⟨msgs, gas, fee⟩ := b
    obtain rfl : gas = perMessage * msgs.length * factor := h.gas
    have hplan : plan s call = .ok (msgs, perMessage * msgs.length * factor, fee) := by
      rw [plan, messages_eq_ok_iff.mpr h.composes, except_ok_bind, hgas, except_ok_bind, h.fee]
      rfl
    rw [batch, hplan]
    rfl

/-! ## One call -/

/-- What has been planned is broadcast. -/
theorem run_of_plan {msgs : List Message} {gas : Int} {fee : WideText}
    (h : plan s call = .ok (msgs, gas, fee)) (broadcast : Broadcaster σ) :
    run s broadcast call = (do
      let tx ← broadcast msgs fee gas ""
      Task.info .execution <|
        "Tx " ++ tx.txHash.display ++ s!": {msgs.length} messages"
      return tx) := by
  rw [run, h]
  rfl

/-- A call takes one turn, which hands over its batch. -/
theorem runIn_run (s : Settings) (broadcast : Broadcaster σ) (call : Call)
    (session : Session (Watched σ)) :
    ∃ (turn : Turn) (after : Session (Watched σ)),
      (run s broadcast.watched call).runIn session = (turn.result, after) ∧
      turn.handed = batch s call ∧ Followed session after turn.events := by
  cases hplan : plan s call with
  | error fault =>
    refine ⟨.refused fault, session, ?_, ?_, (List.append_nil _).symm⟩
    · rw [run, hplan]
      rfl
    · rw [batch, hplan]
      rfl
  | ok planned =>
    obtain ⟨msgs, gas, fee⟩ := planned
    have hbatch : batch s call = .ok ⟨msgs, gas, fee⟩ := by
      rw [batch, hplan]
      rfl
    rw [run_of_plan hplan, hbatch]
    cases hsent : (broadcast.watched msgs fee gas "").runIn session with
    | mk answer between =>
      have hfollowed : Followed session between [.broadcast msgs fee gas "" answer] :=
        Storage.followed_watch hsent
      -- the notice after a success is no event
      cases answer with
      | error fault =>
        exact ⟨.sent ⟨msgs, gas, fee⟩ (.error fault), between, Task.runIn_bind_error hsent, rfl,
          hfollowed⟩
      | ok tx =>
        exact ⟨.sent ⟨msgs, gas, fee⟩ (.ok tx), _, Task.runIn_bind_ok hsent, rfl, hfollowed⟩

/-! ## Sequences of calls -/

/-- Calls take their turns one after the other. -/
theorem runIn_runAll (s : Settings) (broadcast : Broadcaster σ) (calls : List Call)
    (session : Session (Watched σ)) :
    ∃ (turns : List Turn) (after : Session (Watched σ)),
      (runAll s broadcast.watched calls).runIn session = (.ok (turns.map Turn.result), after) ∧
      turns.map Turn.handed = calls.map (batch s) ∧
      Followed session after (turns.flatMap Turn.events) := by
  induction calls generalizing session with
  | nil => exact ⟨[], session, rfl, rfl, (List.append_nil _).symm⟩
  | cons call rest ih =>
    obtain ⟨turn, between, hfirst, hhanded, hfollowed⟩ := runIn_run s broadcast call session
    obtain ⟨turns, after, hrest, hothers, hlater⟩ := ih between
    refine ⟨turn :: turns, after, ?_, ?_, hfollowed.trans hlater⟩
    · have hattempt : (run s broadcast.watched call).attempt.runIn session =
          (.ok turn.result, between) := by
        rw [Task.runIn_attempt, hfirst]
      rw [runAll, List.mapM_cons, Task.runIn_bind_ok hattempt]
      exact Task.runIn_bind_ok hrest
    · rw [List.map_cons, List.map_cons, hhanded, hothers]

/-- Watching changes nothing. -/
theorem runAll_watched (s : Settings) (broadcast : Broadcaster σ) (calls : List Call) :
    Task.Related SameWorld (runAll s broadcast.watched calls) (runAll s broadcast calls) :=
  .mapM (fun call => .attempt (run_related (fun _ _ _ _ => Storage.watch_related _ _) s call)) calls

/-- In every sequence of calls each call takes one turn: it is refused and nothing is broadcast, or
one batch is broadcast. Which of the two, and which batch, depends on the call alone: with whole
numbers for the gas it is the batch that serves the call, and the call is refused only if there is
none. -/
theorem runAll_turns (s : Settings) (hper : s.gasPerMessage.integer? = some perMessage) :
    (∀ call factor, (adjustment call).integer? = some factor → ∀ b,
      batch s call = .ok b ↔ b.Serves s call perMessage factor) ∧
    ∀ (σ : Type) (broadcast : Broadcaster σ) (calls : List Call) (world : σ),
      ∃ (turns : List Turn) (after : Session σ),
        (runAll s broadcast calls).start world = (.ok (turns.map Turn.result), after) ∧
        (runAll s broadcast.watched calls).start ⟨world, []⟩ =
          (.ok (turns.map Turn.result),
            ⟨⟨after.world, turns.flatMap Turn.events⟩, after.notices⟩) ∧
        turns.map Turn.handed = calls.map (batch s) := by
  refine ⟨fun call factor hfactor b => batch_eq_ok_iff hper hfactor, ?_⟩
  intro σ broadcast calls world
  obtain ⟨turns, watched, hrun, hhanded, hfollowed⟩ :=
    runIn_runAll s broadcast calls ⟨⟨world, []⟩, []⟩
  -- watched or not, the calls come to the same end
  obtain ⟨_, ⟨_, events⟩, _, notices, hwatched, hplain, rfl⟩ :=
    runAll_watched s broadcast calls [] (rfl : SameWorld ⟨world, []⟩ world)
  cases hrun.symm.trans hwatched
  have hevents : events = turns.flatMap Turn.events := hfollowed
  exact ⟨turns, _, hplain, hevents ▸ hwatched, hhanded⟩

/-! ### A broadcast that fails and a call that is refused -/

/-- Fails to broadcast at first, and succeeds from then on. -/
def failingFirst : Broadcaster Bool := fun _ _ _ _ => do
  let failed ← Task.world
  Task.update fun _ => true
  if failed then return { txHash := .str "A" } else throw .overflow

/-- Gas costs one unit. -/
def oneUnit : Settings where
  sender := .str "me"
  platform := .str "p"
  gasPrice := .int 1
  denom := .str "u"

/-- Two contracts are moved at twice the gas. -/
def twoMigrations : Call :=
  .migrateContracts (.arr [.str "a", .str "b"]) (.int 9) (.obj [("version", .str "2")]) (.int 2)

/-- There is no such side. -/
def noSide : Call := .paid (.flip (.str "edge")) (.int 5) (.token (.native (.str "u")))

/-- Three items are created. -/
def threeItems : Call := .mint (.str "nft") (.str "you") (.arr [.int 1, .int 2, .int 3])

/-- The items are created although the first broadcast failed and the call after it was refused. -/
theorem runAll_turns_refused :
    oneUnit.gasPerMessage.integer? = some 300000 ∧
    ∃ (turns : List Turn) (after : Session Bool),
      (runAll oneUnit failingFirst.watched [twoMigrations, noSide, threeItems]).start ⟨false, []⟩ =
        (.ok (turns.map Turn.result),
          ⟨⟨after.world, turns.flatMap Turn.events⟩, after.notices⟩) ∧
      turns.map Turn.handed = [twoMigrations, noSide, threeItems].map (batch oneUnit) ∧
      turns.map (·.events.length) = [1, 0, 1] ∧
      (turns.map Turn.result).map Except.isOk = [false, false, true] ∧
      (∀ b, batch oneUnit twoMigrations = .ok b → b.messages.length = 2 ∧ b.gas = 1200000) ∧
      ∀ b, batch oneUnit threeItems = .ok b → b.messages.length = 3 ∧ b.gas = 900000 := by
  have hper : oneUnit.gasPerMessage.integer? = some 300000 := rfl
  obtain ⟨hserves, hruns⟩ := runAll_turns oneUnit hper
  obtain ⟨turns, after, _, hwatched, hhanded⟩ :=
    hruns Bool failingFirst [twoMigrations, noSide, threeItems] false
  refine ⟨hper, turns, after, hwatched, hhanded, ?_, ?_, ?_, ?_⟩
  · have hcount : turns.map (·.events.length) =
        (turns.map Turn.handed).map fun handed => if handed.isOk then 1 else 0 := by
      rw [List.map_map]
      exact List.map_congr_left fun t _ => t.length_events
    rw [hcount, hhanded]
    decide +kernel
  · have hresults : ((runAll oneUnit failingFirst.watched
        [twoMigrations, noSide, threeItems]).start ⟨false, []⟩).1.toOption.map
          (List.map Except.isOk) = some [false, false, true] := by decide +kernel
    rw [hwatched] at hresults
    exact Option.some.inj hresults
  · intro b hb
    have hserved := (hserves twoMigrations 2 rfl b).mp hb
    have hlength : b.messages.length = 2 := (Except.ok.inj hserved.size).symm
    exact ⟨hlength, by rw [hserved.gas, hlength]; rfl⟩
  · intro b hb
    have hserved := (hserves threeItems 1 rfl b).mp hb
    have hlength : b.messages.length = 3 := (Except.ok.inj hserved.size).symm
    exact ⟨hlength, by rw [hserved.gas, hlength]; rfl⟩

end Executor

end ContractOps
