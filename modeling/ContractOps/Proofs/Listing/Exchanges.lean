import ContractOps.Proofs.Json.Same
import ContractOps.Proofs.Listing.Walk

/-!
# What a listing tells of its requests

Whatever answers the requests for pages, and however the answers depend on what was asked before, a
listing tells exactly what was asked and answered (`Describes`). The exchanges are seen from
outside: requests are made to leave them behind (`recorded`), which changes nothing else
(`recorded_related`).

Before each request a walk is `Open`: all pages so far were full, and the cursor is that of the last
item read. An exchange keeps it open or ends it, and `collect_described` carries this through a run.
-/

namespace ContractOps.Listing

/-- A request for a page, with its answer. -/
structure Exchange (α : Type) where
  cursor : Json
  limit : Json
  answer : Except Fault (List α)

/-- Surroundings with the exchanges that were made in them. -/
structure Recorded (σ α : Type) where
  world : σ
  exchanges : List (Exchange α)

variable {σ α : Type} {fetch : Json → Json → Task σ (List α)} {cursorOf : α → Except Fault Json}

/-! ## Requests that are recorded -/

/-- Leaves every exchange behind. -/
def recorded (fetch : Json → Json → Task σ (List α)) (cursor limit : Json) :
    Task (Recorded σ α) (List α) := do
  let answer ← ((fetch cursor limit).within Recorded.world fun world r => { r with world }).attempt
  Task.update fun r => { r with exchanges := r.exchanges ++ [⟨cursor, limit, answer⟩] }
  answer

theorem runIn_recorded {cursor limit : Json} {world : σ} {notices : List Notice}
    {answer : Except Fault (List α)} {after : Session σ} (exchanges : List (Exchange α))
    (h : (fetch cursor limit).runIn ⟨world, notices⟩ = (answer, after)) :
    (recorded fetch cursor limit).runIn ⟨⟨world, exchanges⟩, notices⟩ =
      (answer, ⟨⟨after.world, exchanges ++ [⟨cursor, limit, answer⟩]⟩, after.notices⟩) := by
  have hinner : (((fetch cursor limit).within Recorded.world fun world r => { r with world }).runIn
      ⟨⟨world, exchanges⟩, notices⟩) = (answer, ⟨⟨after.world, exchanges⟩, after.notices⟩) := by
    rw [Task.runIn_within, h]
  rw [recorded, Task.runIn_bind, Task.runIn_attempt, hinner]
  dsimp only
  rw [Task.runIn_bind, Task.runIn_update]
  dsimp only
  rw [Task.runIn_lift]

/-- Surroundings with exchanges, and the same ones without. -/
def SameWorld (r : Recorded σ α) (world : σ) : Prop := r.world = world

theorem recorded_related (fetch : Json → Json → Task σ (List α)) (cursor limit : Json) :
    Task.Related SameWorld (recorded fetch cursor limit) (fetch cursor limit) := by
  rintro ⟨world, exchanges⟩ world' notices hsame
  cases hsame
  exact ⟨_, _, _, _, runIn_recorded exchanges rfl, rfl, rfl⟩

/-! ## Accepted pages -/

section

variable (cursorOf)

/-- The page of an accepted request, or why it is not accepted: it failed, or the last item of the
page has no cursor. -/
def Exchange.outcome (e : Exchange α) : Except Fault (List α) := do
  let items ← e.answer
  match items.getLast? with
  | some last =>
    let _ ← cursorOf last
    return items
  | none => return items

/-- The page of a request, if it was accepted. -/
def Exchange.page? (e : Exchange α) : Option (List α) := (e.outcome cursorOf).toOption

/-- The accepted pages. -/
def pages (es : List (Exchange α)) : List (List α) := es.filterMap (·.page? cursorOf)

/-- The failure that a request is recorded as, if it was not accepted. -/
def Exchange.failure? (iteration : Nat) (e : Exchange α) : Option PageFailure :=
  match e.outcome cursorOf with
  | .error cause => some { iteration, cursor := e.cursor, cause }
  | .ok _ => none

/-- The requests that were not accepted. Requests are counted from one. -/
def rejections (es : List (Exchange α)) : List PageFailure :=
  (es.zipIdx 1).filterMap fun (e, iteration) => e.failure? cursorOf iteration

/-- The last item of the latest accepted page that is not empty. -/
def lastRead (es : List (Exchange α)) : Option α := (pages cursorOf es).reverse.findSome? List.getLast?

/-- What the next request has for a cursor: that of the last item read, or none. -/
def IsCursorAfter (es : List (Exchange α)) (cursor : Json) : Prop :=
  match lastRead cursorOf es with
  | some last => cursorOf last = .ok cursor
  | none => cursor = .null

/-- What a listing tells of the exchanges it was read by, when at most `rounds` were allowed. A part
`before ++ [e]` at the beginning of all exchanges is one of them with those before it. -/
structure Describes (limit : Int) (rounds : Nat) (es : List (Exchange α)) (l : Listing α) : Prop where
  iterations : l.iterations = es.length
  bounded : es.length ≤ rounds
  limits : ∀ e ∈ es, e.limit = .int limit
  items : l.items = (pages cursorOf es).flatten
  failures : l.failures = rejections cursorOf es
  cursors : ∀ before e, before ++ [e] <+: es → IsCursorAfter cursorOf before e.cursor
  full : ∀ page ∈ (pages cursorOf es).dropLast, (page.length : Int) = limit
  exhausted_iff : l.exhausted = true ↔ ∃ page ∈ pages cursorOf es, (page.length : Int) ≠ limit
  last : ∀ before e, before ++ [e] <+: es →
    ∀ page ∈ e.page? cursorOf, (page.length : Int) ≠ limit → before ++ [e] = es
  unfinished : l.exhausted = false → es.length = rounds

/-- What holds before the next request: every page was full, and the cursor is the one after
them. -/
structure Open (limit : Int) (es : List (Exchange α)) (cursor : Json) (l : Listing α) : Prop where
  iterations : l.iterations = es.length
  limits : ∀ e ∈ es, e.limit = .int limit
  items : l.items = (pages cursorOf es).flatten
  failures : l.failures = rejections cursorOf es
  cursors : ∀ before e, before ++ [e] <+: es → IsCursorAfter cursorOf before e.cursor
  full : ∀ page ∈ pages cursorOf es, (page.length : Int) = limit
  cursor : IsCursorAfter cursorOf es cursor
  open_ : l.exhausted = false

end

/-! ## One exchange more -/

section

variable {limit : Int} {es : List (Exchange α)} {cursor : Json} {l : Listing α} {e : Exchange α}
  {items : List α} {cause : Fault}

theorem page?_of_outcome_ok (h : e.outcome cursorOf = .ok items) : e.page? cursorOf = some items := by
  rw [Exchange.page?, h]
  rfl

theorem page?_of_outcome_error (h : e.outcome cursorOf = .error cause) : e.page? cursorOf = none := by
  rw [Exchange.page?, h]
  rfl

theorem pages_append_ok (h : e.outcome cursorOf = .ok items) :
    pages cursorOf (es ++ [e]) = pages cursorOf es ++ [items] := by
  rw [pages, List.filterMap_append, List.filterMap_cons_some (page?_of_outcome_ok h)]
  rfl

theorem pages_append_error (h : e.outcome cursorOf = .error cause) :
    pages cursorOf (es ++ [e]) = pages cursorOf es := by
  rw [pages, List.filterMap_append, List.filterMap_cons_none (page?_of_outcome_error h),
    List.filterMap_nil, List.append_nil]
  rfl

theorem rejections_append (es : List (Exchange α)) (e : Exchange α) :
    rejections cursorOf (es ++ [e]) =
      rejections cursorOf es ++ (e.failure? cursorOf (es.length + 1)).toList := by
  rw [rejections, List.zipIdx_append, List.filterMap_append, Nat.add_comm es.length 1]
  cases hfailure : e.failure? cursorOf (1 + es.length) <;> simp [rejections, hfailure]

theorem rejections_append_ok (h : e.outcome cursorOf = .ok items) :
    rejections cursorOf (es ++ [e]) = rejections cursorOf es := by
  rw [rejections_append, Exchange.failure?, h]
  exact List.append_nil _

theorem rejections_append_error (h : e.outcome cursorOf = .error cause) :
    rejections cursorOf (es ++ [e]) =
      rejections cursorOf es ++ [{ iteration := es.length + 1, cursor := e.cursor, cause }] := by
  rw [rejections_append, Exchange.failure?, h]
  rfl

theorem isCursorAfter_append_error (h : e.outcome cursorOf = .error cause)
    (hcursor : IsCursorAfter cursorOf es cursor) : IsCursorAfter cursorOf (es ++ [e]) cursor := by
  rw [IsCursorAfter, lastRead, pages_append_error h]
  exact hcursor

/-- An empty page leaves the cursor where it is. -/
theorem isCursorAfter_append_nil (h : e.outcome cursorOf = .ok [])
    (hcursor : IsCursorAfter cursorOf es cursor) : IsCursorAfter cursorOf (es ++ [e]) cursor := by
  rw [IsCursorAfter, lastRead, pages_append_ok h, List.reverse_append]
  exact hcursor

/-- Another page moves the cursor to that of its last item. -/
theorem isCursorAfter_append_ok {last : α} (h : e.outcome cursorOf = .ok items)
    (hlast : items.getLast? = some last) (hcursor : cursorOf last = .ok cursor) :
    IsCursorAfter cursorOf (es ++ [e]) cursor := by
  have hread : lastRead cursorOf (es ++ [e]) = some last := by
    rw [lastRead, pages_append_ok h, List.reverse_append]
    show List.findSome? List.getLast? (items :: _) = some last
    rw [List.findSome?_cons, hlast]
  rw [IsCursorAfter, hread]
  exact hcursor

theorem outcome_of_turn_error (h : turn cursorOf e.cursor e.answer = .error cause) :
    e.outcome cursorOf = .error cause := by
  rw [turn] at h
  rw [Exchange.outcome]
  cases hanswer : e.answer with
  | error fault =>
    rw [hanswer] at h
    cases h
    rfl
  | ok items =>
    rw [hanswer, except_ok_bind] at h
    rw [except_ok_bind]
    cases hlast : items.getLast? with
    | none =>
      rw [hlast] at h
      cases h
    | some last =>
      rw [hlast] at h
      dsimp only at h ⊢
      cases hcursor : cursorOf last with
      | error fault =>
        rw [hcursor] at h
        cases h
        rfl
      | ok next =>
        rw [hcursor] at h
        cases h

/-- The page that a walk takes is accepted, and its cursor is the one after it. -/
theorem outcome_of_turn_ok (h : turn cursorOf e.cursor e.answer = .ok (items, cursor))
    (hcursor : IsCursorAfter cursorOf es e.cursor) :
    e.outcome cursorOf = .ok items ∧ IsCursorAfter cursorOf (es ++ [e]) cursor := by
  rw [turn] at h
  obtain ⟨found, hanswer, h⟩ := except_bind_eq_ok.mp h
  cases hlast : found.getLast? with
  | none =>
    rw [hlast] at h
    cases h
    cases List.getLast?_eq_none_iff.mp hlast
    have houtcome : e.outcome cursorOf = .ok [] := by
      rw [Exchange.outcome, hanswer]
      rfl
    exact ⟨houtcome, isCursorAfter_append_nil houtcome hcursor⟩
  | some last =>
    rw [hlast] at h
    obtain ⟨next, hnext, h⟩ := except_bind_eq_ok.mp h
    cases h
    have houtcome : e.outcome cursorOf = .ok items := by
      rw [Exchange.outcome, hanswer, except_ok_bind, hlast]
      dsimp only
      rw [hnext]
      rfl
    exact ⟨houtcome, isCursorAfter_append_ok houtcome hlast hnext⟩

/-! ## Before and after a request -/

theorem Open.start (cursorOf : α → Except Fault Json) (limit : Int) :
    Open cursorOf limit [] .null {} where
  iterations := rfl
  limits := by simp
  items := rfl
  failures := rfl
  cursors before e h := by simp at h
  full := by simp [pages]
  cursor := rfl
  open_ := rfl

theorem Open.limits_append (h : Open cursorOf limit es cursor l) (answer : Except Fault (List α)) :
    ∀ e ∈ es ++ [{ cursor, limit := .int limit, answer }], e.limit = .int limit := by
  intro e he
  rcases List.mem_append.mp he with he | he
  · exact h.limits e he
  · rw [List.mem_singleton.mp he]

theorem Open.cursors_append (h : Open cursorOf limit es cursor l)
    (answer : Except Fault (List α)) :
    ∀ before e, before ++ [e] <+: es ++ [{ cursor, limit := .int limit, answer }] →
      IsCursorAfter cursorOf before e.cursor := by
  intro before e hprefix
  rcases List.prefix_concat_iff.mp hprefix with heq | hprefix
  · obtain ⟨hbefore, he⟩ := List.append_inj' heq rfl
    rw [hbefore, List.singleton_inj.mp he]
    exact h.cursor
  · exact h.cursors before e hprefix

/-- A dropped page is recorded and changes nothing else. -/
theorem Open.drop (h : Open cursorOf limit es cursor l) {answer : Except Fault (List α)}
    (hturn : turn cursorOf cursor answer = .error cause) :
    Open cursorOf limit (es ++ [{ cursor, limit := .int limit, answer }]) cursor
      (l.failed cursor cause) := by
  have houtcome : Exchange.outcome cursorOf { cursor, limit := .int limit, answer } = .error cause :=
    outcome_of_turn_error hturn
  exact {
    iterations := by rw [List.length_append, failed, h.iterations]; rfl
    limits := h.limits_append answer
    items := by rw [pages_append_error houtcome]; exact h.items
    failures := by rw [rejections_append_error houtcome, failed, h.failures, h.iterations]
    cursors := h.cursors_append answer
    full := by rw [pages_append_error houtcome]; exact h.full
    cursor := isCursorAfter_append_error houtcome h.cursor
    open_ := h.open_ }

/-- A full page is read, and the next request goes on behind it. -/
theorem Open.read {next : Json} (h : Open cursorOf limit es cursor l)
    {answer : Except Fault (List α)} (hturn : turn cursorOf cursor answer = .ok (items, next))
    (hfull : (items.length : Int) = limit) :
    Open cursorOf limit (es ++ [{ cursor, limit := .int limit, answer }]) next
      (l.extended items) := by
  obtain ⟨houtcome, hnext⟩ :=
    outcome_of_turn_ok (e := { cursor, limit := .int limit, answer }) hturn h.cursor
  exact {
    iterations := by rw [List.length_append, extended, h.iterations]; rfl
    limits := h.limits_append answer
    items := by rw [pages_append_ok houtcome, extended, h.items]; simp
    failures := by rw [rejections_append_ok houtcome]; exact h.failures
    cursors := h.cursors_append answer
    full := by
      rw [pages_append_ok houtcome]
      exact List.forall_mem_append.mpr ⟨h.full, by simpa using hfull⟩
    cursor := hnext
    open_ := h.open_ }

/-- Where no request is left, all that was asked is told. -/
theorem Open.describes (h : Open cursorOf limit es cursor l) :
    Describes cursorOf limit es.length es l where
  iterations := h.iterations
  bounded := Nat.le_refl _
  limits := h.limits
  items := h.items
  failures := h.failures
  cursors := h.cursors
  full page hpage := h.full page (List.dropLast_subset _ hpage)
  exhausted_iff := by
    rw [h.open_]
    constructor
    · intro h
      cases h
    · rintro ⟨page, hpage, hne⟩
      exact absurd (h.full page hpage) hne
  last before e hprefix page hpage hne := by
    have hmem : page ∈ pages cursorOf es :=
      List.mem_filterMap.mpr ⟨e, hprefix.subset (by simp), hpage⟩
    exact absurd (h.full page hmem) hne
  unfinished _ := rfl

/-- A page that is not full is read, and it is the last one. -/
theorem Open.ends {next : Json} {rounds : Nat} (h : Open cursorOf limit es cursor l)
    {answer : Except Fault (List α)} (hturn : turn cursorOf cursor answer = .ok (items, next))
    (hshort : (items.length : Int) ≠ limit) (hrounds : es.length < rounds) :
    Describes cursorOf limit rounds (es ++ [{ cursor, limit := .int limit, answer }])
      { l.extended items with exhausted := true } := by
  obtain ⟨houtcome, _⟩ :=
    outcome_of_turn_ok (e := { cursor, limit := .int limit, answer }) hturn h.cursor
  exact {
    iterations := by rw [List.length_append, extended, h.iterations]; rfl
    bounded := by rw [List.length_append, List.length_singleton]; omega
    limits := h.limits_append answer
    items := by rw [pages_append_ok houtcome, extended, h.items]; simp
    failures := by rw [rejections_append_ok houtcome]; exact h.failures
    cursors := h.cursors_append answer
    full := by rw [pages_append_ok houtcome, List.dropLast_concat]; exact h.full
    exhausted_iff := by
      rw [pages_append_ok houtcome]
      exact iff_of_true rfl ⟨items, by simp, hshort⟩
    last := by
      intro before e hprefix page hpage hne
      rcases List.prefix_concat_iff.mp hprefix with heq | hprefix
      · exact heq
      · have hmem : page ∈ pages cursorOf es :=
          List.mem_filterMap.mpr ⟨e, hprefix.subset (by simp), hpage⟩
        exact absurd (h.full page hmem) hne
    unfinished := by intro h; cases h }

/-! ## Runs -/

/-- A walk tells of all requests, those before it among them. -/
theorem Open.walk_describes (h : Open cursorOf limit es cursor l)
    (fetch : Json → Json → Task σ (List α)) (rounds : Nat) (world : σ) (notices : List Notice) :
    ∃ found exchanges after notices',
      (walk (recorded fetch) cursorOf (.int limit) rounds cursor l).runIn ⟨⟨world, es⟩, notices⟩ =
        (.ok found, ⟨⟨after, exchanges⟩, notices'⟩) ∧
      Describes cursorOf limit (es.length + rounds) exchanges found := by
  -- `Open` carries the induction: only a page that is not full leaves it, and ends the walk
  induction rounds generalizing es cursor l world notices with
  | zero => exact ⟨l, es, world, _, rfl, h.describes⟩
  | succ rounds ih =>
    rcases hfetch : (fetch cursor (.int limit)).runIn ⟨world, notices⟩ with ⟨answer, after⟩
    have hpage : (page (recorded fetch) cursorOf cursor (.int limit)).runIn ⟨⟨world, es⟩, notices⟩ =
        (.ok (turn cursorOf cursor answer),
          ⟨⟨after.world, es ++ [{ cursor, limit := .int limit, answer }]⟩, after.notices⟩) :=
      runIn_page (runIn_recorded es hfetch)
    cases hturn : turn cursorOf cursor answer with
    | error cause =>
      rw [hturn] at hpage
      rw [runIn_walk_dropped hpage]
      obtain ⟨found, exchanges, after', notices', hrun, hfound⟩ := ih (h.drop hturn) after.world _
      refine ⟨found, exchanges, after', notices', hrun, ?_⟩
      rwa [List.length_append, List.length_singleton, Nat.add_right_comm] at hfound
    | ok read =>
      obtain ⟨items, next⟩ := read
      rw [hturn] at hpage
      cases hsame : (Json.int items.length).same (.int limit) with
      | true =>
        rw [runIn_walk_full hpage hsame]
        obtain ⟨found, exchanges, after', notices', hrun, hfound⟩ :=
          ih (h.read hturn (Json.same_int.mp hsame)) after.world after.notices
        refine ⟨found, exchanges, after', notices', hrun, ?_⟩
        rwa [List.length_append, List.length_singleton, Nat.add_right_comm] at hfound
      | false =>
        have hne : (items.length : Int) ≠ limit := by
          intro heq
          rw [Json.same_int.mpr heq] at hsame
          cases hsame
        exact ⟨_, _, _, _, runIn_walk_short hpage hsame, h.ends hturn hne (by omega)⟩

end

/-- Whatever answers the requests, a listing is returned, and it tells exactly what was asked and
answered: as many requests as it counts, and at most as many as are allowed; the accepted pages as
its items; all other requests as its failures, with their numbers, cursors and causes; every cursor
that of the last item before it. All pages but the last are full, and the end is reached with a page
that is not, or else the requests are used up. -/
theorem collect_described (fetch : Json → Json → Task σ (List α))
    (cursorOf : α → Except Fault Json) (limit iterLimit : Int) (world : σ) :
    ∃ l exchanges after notices,
      (collect fetch cursorOf (.int limit) (.int iterLimit)).start world =
        (.ok l, ⟨after, notices⟩) ∧
      (collect (recorded fetch) cursorOf (.int limit) (.int iterLimit)).start ⟨world, []⟩ =
        (.ok l, ⟨⟨after, exchanges⟩, notices⟩) ∧
      Describes cursorOf limit (max iterLimit 0).toNat exchanges l := by
  have hrounds : (max iterLimit 0).toNat = iterLimit.toNat := by omega
  obtain ⟨l, exchanges, after, notices, hrun, hdescribes⟩ :=
    (Open.start cursorOf limit).walk_describes fetch iterLimit.toNat world []
  obtain ⟨result, _, after', notices', hrecorded, hplain, hsame⟩ :=
    walk_related (recorded_related fetch) cursorOf (.int limit) iterLimit.toNat .null {} []
      (show SameWorld ⟨world, []⟩ world from rfl)
  rw [hrecorded] at hrun
  cases hrun
  cases hsame
  refine ⟨l, exchanges, after, notices, ?_, ?_, ?_⟩
  · rw [Task.start, runIn_collect]
    exact hplain
  · rw [Task.start, runIn_collect]
    exact hrecorded
  · rwa [hrounds, ← Nat.zero_add iterLimit.toNat]

end ContractOps.Listing
