import ContractOps.Listing
import ContractOps.Proofs.Task.Related

/-!
# A listing request by request

What becomes of a request depends on its answer alone (`turn`): the page is dropped, or it is taken
with a cursor for the next request. With every request a walk does one of three things, whatever it
is that answers: it drops the page and goes on from the same cursor (`runIn_walk_dropped`), it goes
on behind a full page (`runIn_walk_full`), or it ends with a page that is not full
(`runIn_walk_short`).
-/

namespace ContractOps.Listing

variable {σ τ α : Type} {fetch : Json → Json → Task σ (List α)}
  {cursorOf : α → Except Fault Json} {cursor next limit : Json} {items : List α} {cause : Fault}
  {soFar : Listing α} {session after : Session σ} {rounds : Nat}

/-! ## Pages -/

/-- The page in an answer and the cursor after it, or why the page is dropped. -/
def turn (cursorOf : α → Except Fault Json) (cursor : Json) (answer : Except Fault (List α)) :
    Except Fault (List α × Json) := do
  let items ← answer
  match items.getLast? with
  | some last => return (items, ← cursorOf last)
  | none => return (items, cursor)

theorem turn_nil : turn cursorOf cursor (.ok []) = .ok ([], cursor) := rfl

/-- Behind the last item of a page. -/
theorem turn_of_getLast? {last : α} (hlast : items.getLast? = some last)
    (hcursor : cursorOf last = .ok next) : turn cursorOf cursor (.ok items) = .ok (items, next) := by
  rw [turn, except_ok_bind, hlast]
  dsimp only
  rw [hcursor]
  rfl

theorem runIn_page {answer : Except Fault (List α)}
    (h : (fetch cursor limit).runIn session = (answer, after)) :
    (page fetch cursorOf cursor limit).runIn session = (.ok (turn cursorOf cursor answer), after) := by
  rw [page, Task.runIn_attempt, Task.runIn_bind, h]
  cases answer with
  | error cause => rfl
  | ok items =>
    rw [turn, except_ok_bind]
    dsimp only
    cases items.getLast? with
    | none => rfl
    | some last =>
      dsimp only
      rw [Task.runIn_bind, Task.runIn_lift]
      cases cursorOf last <;> rfl

/-! ## What a request does to a walk -/

/-- A listing with another page dropped. -/
def failed (l : Listing α) (cursor : Json) (cause : Fault) : Listing α :=
  { l with
    iterations := l.iterations + 1
    failures := l.failures ++ [{ iteration := l.iterations + 1, cursor, cause }] }

/-- A listing with another page read. -/
def extended (l : Listing α) (items : List α) : Listing α :=
  { l with iterations := l.iterations + 1, items := l.items ++ items }

/-- A session after the warning that a page is dropped. -/
def warned (after : Session σ) (l : Listing α) (cursor : Json) (cause : Fault) : Session σ :=
  let failure : PageFailure := { iteration := l.iterations + 1, cursor, cause }
  { after with
    notices := after.notices ++ [{ level := .warning, topic := .listing, text := failure.message }] }

theorem runIn_walk_dropped
    (h : (page fetch cursorOf cursor limit).runIn session = (.ok (.error cause), after)) :
    (walk fetch cursorOf limit (rounds + 1) cursor soFar).runIn session =
      (walk fetch cursorOf limit rounds cursor (soFar.failed cursor cause)).runIn
        (warned after soFar cursor cause) := by
  rw [walk, Task.runIn_bind_ok h]
  dsimp only
  rw [Task.runIn_bind_ok (Task.runIn_warn _ _ _)]
  rfl

theorem runIn_walk_full
    (h : (page fetch cursorOf cursor limit).runIn session = (.ok (.ok (items, next)), after))
    (hfull : (Json.int items.length).same limit = true) :
    (walk fetch cursorOf limit (rounds + 1) cursor soFar).runIn session =
      (walk fetch cursorOf limit rounds next (soFar.extended items)).runIn after := by
  rw [walk, Task.runIn_bind_ok h]
  dsimp only
  rw [if_pos hfull]
  rfl

theorem runIn_walk_short
    (h : (page fetch cursorOf cursor limit).runIn session = (.ok (.ok (items, next)), after))
    (hshort : (Json.int items.length).same limit = false) :
    (walk fetch cursorOf limit (rounds + 1) cursor soFar).runIn session =
      (.ok { soFar.extended items with exhausted := true }, after) := by
  rw [walk, Task.runIn_bind_ok h]
  dsimp only
  rw [if_neg (by rw [hshort]; decide)]
  rfl

/-- An integer limit on requests allows as many, or none if it is negative. -/
theorem runIn_collect (fetch : Json → Json → Task σ (List α)) (cursorOf : α → Except Fault Json)
    (limit : Json) (iterLimit : Int) (session : Session σ) :
    (collect fetch cursorOf limit (.int iterLimit)).runIn session =
      (walk fetch cursorOf limit iterLimit.toNat .null {}).runIn session := by
  have hrounds : (liftM (roundsOf (.int iterLimit)) : Task σ Nat).runIn session =
      (.ok iterLimit.toNat, session) := by
    rw [Task.runIn_lift]
    rfl
  rw [collect, Task.runIn_bind_ok hrounds]

/-! ## Related surroundings -/

variable {R : σ → τ → Prop} {fetch' : Json → Json → Task τ (List α)}

theorem page_related (hfetch : ∀ cursor limit, Task.Related R (fetch cursor limit) (fetch' cursor limit))
    (cursorOf : α → Except Fault Json) (cursor limit : Json) :
    Task.Related R (page fetch cursorOf cursor limit) (page fetch' cursorOf cursor limit) := by
  refine .attempt (.bind (hfetch cursor limit) fun items => ?_)
  split
  · exact .lift_bind fun _ => .pure _
  · exact .pure _

/-- A walk has access to its surroundings through its requests alone. -/
theorem walk_related
    (hfetch : ∀ cursor limit, Task.Related R (fetch cursor limit) (fetch' cursor limit))
    (cursorOf : α → Except Fault Json) (limit : Json) (rounds : Nat) (cursor : Json)
    (soFar : Listing α) :
    Task.Related R (walk fetch cursorOf limit rounds cursor soFar)
      (walk fetch' cursorOf limit rounds cursor soFar) := by
  induction rounds generalizing cursor soFar with
  | zero => exact .bind (.note _) fun _ => .pure _
  | succ rounds ih =>
    refine .bind (page_related hfetch cursorOf cursor limit) fun read => ?_
    split
    · exact .bind (.note _) fun _ => ih cursor _
    · dsimp only
      split
      · exact ih _ _
      · exact .pure _

end ContractOps.Listing
