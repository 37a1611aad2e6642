import ContractOps.Proofs.Json.Members
import ContractOps.Proofs.Json.Numbers
import ContractOps.Proofs.Json.Same
import ContractOps.Proofs.Task.Steps
import ContractOps.Tx.CodeIds
import Mathlib.Data.List.Forall2
import Mathlib.Data.List.TakeWhile

/-!
# How chains report code ids

A `ChainEvent` is an event by itself: a type, and attributes in order. Responses show events as
objects, grouped by message (`Grouped`) or flat among others (`Flat`). If every event of type
`store_code` has one code id in digits and no other event has any (`Regular`), the code ids of
either response are the numbers in its events, in order (`codeIds_of_grouped`, `codeIds_of_flat`).
A response whose logs are empty cannot be told from one without logs, so that its flat events count:
it only shows that there were no messages if they store nothing.
-/

namespace ContractOps.TxResult

/-! ## Events -/

/-- An attribute of an event. -/
structure Attribute where
  key : WideText
  value : WideText

/-- An event as a chain reports it. -/
structure ChainEvent where
  type : WideText
  attributes : List Attribute

/-- The values of all attributes `code_id`. -/
def codeIdTexts (attributes : List Attribute) : List WideText :=
  attributes.filterMap fun a => if a.key = ("code_id" : WideText) then some a.value else none

theorem codeIdTexts_cons (a : Attribute) (rest : List Attribute) :
    codeIdTexts (a :: rest) =
      if a.key = ("code_id" : WideText) then a.value :: codeIdTexts rest else codeIdTexts rest := by
  by_cases hkey : a.key = ("code_id" : WideText)
  · simp [codeIdTexts, hkey]
  · simp [codeIdTexts, hkey]

/-- Between one and 4300 ASCII digits. -/
def IsNumeral (w : WideText) : Prop :=
  ∃ ds : List Char, w = .ofChars ds ∧ (∀ d ∈ ds, Digits.isDigit d = true) ∧ ds ≠ [] ∧
    ds.length ≤ 4300

/-- The number that a text of ASCII digits denotes. -/
def number (w : WideText) : Int := Digits.ofChars w.plain

/-- An event of type `store_code` has exactly one code id, in digits, and no other event has any. -/
structure ChainEvent.Regular (e : ChainEvent) : Prop where
  storing : e.type = "store_code" → ∃ digits, codeIdTexts e.attributes = [digits] ∧ IsNumeral digits
  silent : e.type ≠ "store_code" → codeIdTexts e.attributes = []

/-- The texts of all code ids in a list of events, in order. -/
def codeIdTextsOf (events : List ChainEvent) : List WideText :=
  events.flatMap fun e => codeIdTexts e.attributes

/-- The code ids in a list of events, in order. -/
def numbersOf (events : List ChainEvent) : List Int := (codeIdTextsOf events).map number

theorem numbersOf_cons (e : ChainEvent) (rest : List ChainEvent) :
    numbersOf (e :: rest) = (codeIdTexts e.attributes).map number ++ numbersOf rest := by
  rw [numbersOf, codeIdTextsOf, List.flatMap_cons, List.map_append]
  rfl

/-- Every code id of a regular event is in digits. -/
theorem ChainEvent.Regular.isNumeral {e : ChainEvent} (h : e.Regular) {digits : WideText}
    (hmem : digits ∈ codeIdTexts e.attributes) : IsNumeral digits := by
  by_cases htype : e.type = "store_code"
  · obtain ⟨only, hone, hnumeral⟩ := h.storing htype
    rw [hone, List.mem_singleton] at hmem
    exact hmem ▸ hnumeral
  · rw [h.silent htype] at hmem
    cases hmem

/-! ## Numbers in digits -/

theorem ascii_digits {ds : List Char} (hds : ∀ d ∈ ds, Digits.isDigit d = true) :
    Numeral.ascii (String.ofList ds) = ds := by
  have hblank : ∀ d ∈ ds, Text.isNumeralBlank d = false := fun d hd =>
    Digits.of_isDigit (Text.isNumeralBlank · = false) (by decide) (hds d hd)
  rw [Numeral.ascii, String.toList_ofList, Text.stripBy_of_all hblank]
  refine (List.map_congr_left fun d hd => ?_).trans (List.map_id ds)
  rw [if_pos (Digits.of_isDigit (·.toNat < 128) (by decide) (hds d hd)), id]

theorem separatorsFit_digits {ds : List Char} (hds : ∀ d ∈ ds, Digits.isDigit d = true)
    {before : Char} (hbefore : before ≠ '_') : Numeral.separatorsFit before ds = true := by
  induction ds generalizing before with
  | nil => simpa [Numeral.separatorsFit] using hbefore
  | cons d ds ih =>
    obtain ⟨hd, hds⟩ := List.forall_mem_cons.mp hds
    have hne : d ≠ '_' := Json.ne_of_isDigit hd (by decide)
    rw [Numeral.separatorsFit, if_neg hne, hd, Bool.or_true, ih hds hne]
    rfl

/-- A text that is one of digits in ASCII is read, unless it is too long. -/
theorem int?_of_ascii {s : String} {ds : List Char} (hascii : Numeral.ascii s = ds)
    (hds : ∀ d ∈ ds, Digits.isDigit d = true) (hne : ds ≠ []) :
    Numeral.int? s =
      if Numeral.maxDigits < ds.length then .error (.tooLong ds.length)
      else .ok (Digits.ofChars ds : Int) := by
  have hsign : Decimal.splitSign ds = (false, ds) := Decimal.splitSign_of_ne fun d hd =>
    have hdigit := hds d (List.mem_of_mem_head? hd)
    ⟨Json.ne_of_isDigit hdigit (by decide), Json.ne_of_isDigit hdigit (by decide)⟩
  have hbody : ds.takeWhile (fun c => Digits.isDigit c || c = '_') = ds := by
    rw [List.takeWhile_eq_self_iff]
    intro d hd
    rw [hds d hd, Bool.true_or]
  have hdigits : ds.filter Digits.isDigit = ds := List.filter_eq_self.mpr hds
  rw [Numeral.int?, hascii, hsign]
  dsimp only
  rw [hbody, hdigits, separatorsFit_digits hds (by decide), if_neg (by simpa using hne),
    if_neg (Nat.lt_irrefl _)]
  rfl

/-- A text of digits that is not too long is read as the number that it denotes. -/
theorem int?_digits {ds : List Char} (hds : ∀ d ∈ ds, Digits.isDigit d = true) (hne : ds ≠ [])
    (hlength : ds.length ≤ Numeral.maxDigits) :
    Numeral.int? (String.ofList ds) = .ok (Digits.ofChars ds : Int) := by
  rw [int?_of_ascii (ascii_digits hds) hds hne, if_neg (by omega)]

theorem IsNumeral.textToInt {w : WideText} (h : IsNumeral w) :
    Json.textToInt w = .ok (number w) := by
  obtain ⟨ds, rfl, hds, hne, hlength⟩ := h
  rw [Json.textToInt, WideText.shown_ofChars, int?_digits hds hne hlength, number,
    WideText.plain_ofChars]

theorem IsNumeral.ne_nil {w : WideText} (h : IsNumeral w) : w ≠ [] := by
  obtain ⟨ds, rfl, _, hne, _⟩ := h
  exact fun hnil => hne (List.map_eq_nil_iff.mp hnil)

/-- What holds of the ten digits holds all through a text of digits. -/
theorem IsNumeral.forall_mem {w : WideText} (h : IsNumeral w) (p : CodePoint → Prop)
    (hp : ∀ n < 10, p (.char (Digits.char n))) : ∀ c ∈ w, p c := by
  obtain ⟨ds, rfl, hds, _⟩ := h
  intro c hc
  obtain ⟨d, hd, rfl⟩ := List.mem_map.mp hc
  exact Digits.of_isDigit (fun d => p (.char d)) hp (hds d hd)

/-- A text of digits counts as a code id. -/
theorem IsNumeral.codeIdOf {w : WideText} (h : IsNumeral w) :
    codeIdOf (.str w) = .ok (number w) := by
  have hempty : w.isEmpty = false := List.isEmpty_eq_false_iff.mpr h.ne_nil
  have hlike : w.all (·.is Text.isDigitLike) = true :=
    List.all_eq_true.mpr (h.forall_mem (·.is Text.isDigitLike = true) (by decide))
  have htruthy : (Json.str w).truthy = true := by rw [Json.truthy, hempty]; rfl
  rw [TxResult.codeIdOf, if_pos htruthy]
  show (if !w.isEmpty && w.all (·.is Text.isDigitLike) then Json.textToInt w else .ok 0) = _
  rw [hempty, hlike, if_pos (by decide)]
  exact h.textToInt

/-! ## Events that are shown -/

/-- An object shows an attribute. -/
structure Attribute.ShownBy (a : Attribute) (v : Json) : Prop where
  key : v.member "key" = .ok (.str a.key)
  value : v.member "value" = .ok (.str a.value)

/-- An object shows an event. It may have other members, too. -/
structure ChainEvent.ShownBy (e : ChainEvent) (v : Json) : Prop where
  type : v.member "type" = .ok (.str e.type)
  attributes : ∃ marks, v.member "attributes" = .ok (.arr marks) ∧
    List.Forall₂ Attribute.ShownBy e.attributes marks

/-- The first code id counts. -/
theorem codeIdAttribute_shown {attributes : List Attribute} {marks : List Json}
    (h : List.Forall₂ Attribute.ShownBy attributes marks) :
    codeIdAttribute marks = .ok ((codeIdTexts attributes).head?.elim .null .str) := by
  induction h with
  | nil => rfl
  | @cons a mark attributes marks hshown _ ih =>
    rw [codeIdAttribute, Json.getD_of_member .null hshown.key, except_ok_bind]
    by_cases hkey : a.key = ("code_id" : WideText)
    · rw [hkey, if_pos (Json.same_str_right.mpr rfl), Json.getD_of_member .null hshown.value,
        codeIdTexts_cons, if_pos hkey]
      rfl
    · have hother : ¬(Json.str a.key).same (.str "code_id") = true := by
        rw [Json.same_str_right]
        exact fun heq => hkey (Json.str.inj heq)
      rw [if_neg hother, ih, codeIdTexts_cons, if_neg hkey]

/-- Of an event of type `store_code` the first code id is read. -/
theorem codeIdsOfEvents_storing {e : ChainEvent} {v : Json} (h : e.ShownBy v)
    (htype : e.type = "store_code") (rest : List Json) :
    codeIdsOfEvents (v :: rest) =
      codeIdOf ((codeIdTexts e.attributes).head?.elim .null .str) >>= fun codeId =>
        codeIdsOfEvents rest >>= fun others => .ok (codeId :: others) := by
  obtain ⟨marks, hmarks, hattributes⟩ := h.attributes
  rw [codeIdsOfEvents, Json.getD_of_member .null h.type, except_ok_bind, htype,
    if_pos (Json.same_str_right.mpr rfl), Json.getD_of_member (.arr []) hmarks, except_ok_bind,
    Json.items, except_ok_bind, codeIdAttribute_shown hattributes, except_ok_bind]
  rfl

/-- An event of another type is passed over. -/
theorem codeIdsOfEvents_silent {e : ChainEvent} {v : Json} (h : e.ShownBy v)
    (htype : e.type ≠ "store_code") (rest : List Json) :
    codeIdsOfEvents (v :: rest) = codeIdsOfEvents rest := by
  have hother : ¬(Json.str e.type).same (.str "store_code") = true := by
    rw [Json.same_str_right]
    exact fun heq => htype (Json.str.inj heq)
  rw [codeIdsOfEvents, Json.getD_of_member .null h.type, except_ok_bind, if_neg hother]

/-- The code ids of regular events are read off what shows them, and those of the events after
them. -/
theorem codeIdsOfEvents_shown {events : List ChainEvent} {shown after : List Json} {ids : List Int}
    (h : List.Forall₂ ChainEvent.ShownBy events shown) (hregular : ∀ e ∈ events, e.Regular)
    (hafter : codeIdsOfEvents after = .ok ids) :
    codeIdsOfEvents (shown ++ after) = .ok (numbersOf events ++ ids) := by
  induction h with
  | nil => exact hafter
  | @cons e v events shown hshown _ ih =>
    obtain ⟨he, hregular⟩ := List.forall_mem_cons.mp hregular
    have hrest := ih hregular
    rw [List.cons_append, numbersOf_cons]
    by_cases htype : e.type = ("store_code" : WideText)
    · obtain ⟨digits, hone, hnumeral⟩ := he.storing htype
      rw [codeIdsOfEvents_storing hshown htype, hone, List.head?_cons, Option.elim_some,
        hnumeral.codeIdOf, except_ok_bind, hrest]
      rfl
    · rw [codeIdsOfEvents_silent hshown htype, hrest, he.silent htype]
      rfl

/-- An event of another type than `store_code`, or without a type. -/
def IsOther (v : Json) : Prop :=
  ∃ type, v.getD "type" .null = .ok type ∧ type ≠ .str "store_code"

/-- Events of another type do not count. -/
theorem codeIdsOfEvents_other {others : List Json} (h : ∀ v ∈ others, IsOther v)
    (after : List Json) : codeIdsOfEvents (others ++ after) = codeIdsOfEvents after := by
  induction others with
  | nil => rfl
  | cons v others ih =>
    obtain ⟨⟨type, htype, hne⟩, hothers⟩ := List.forall_mem_cons.mp h
    have hsame : ¬type.same (.str "store_code") = true := by rwa [Json.same_str_right]
    rw [List.cons_append, codeIdsOfEvents, htype, except_ok_bind, if_neg hsame, ih hothers]

/-! ## Responses -/

/-- What a node reports about a transaction: an object whose height and code are integers, if they
are there. -/
structure IsReport (response : Json) : Prop where
  height : ∃ v n, response.getD "height" (.int 0) = .ok v ∧ v.toInt = .ok n
  code : ∃ v n, response.getD "code" (.int 0) = .ok v ∧ v.toInt = .ok n

/-- An object shows the events of a message. -/
def LogShownBy (events : List ChainEvent) (v : Json) : Prop :=
  ∃ shown, v.member "events" = .ok (.arr shown) ∧ List.Forall₂ ChainEvent.ShownBy events shown

/-- A response without logs has the events among its flat events, with others before and after
them. -/
structure Flat (events : List ChainEvent) (response : Json) : Prop where
  report : IsReport response
  ungrouped : ∃ logs, response.getD "logs" .null = .ok logs ∧ logs.truthy = false
  events : ∃ before shown after,
    response.getD "events" (.arr []) = .ok (.arr (before ++ (shown ++ after))) ∧
      (∀ v ∈ before, IsOther v) ∧ List.Forall₂ ChainEvent.ShownBy events shown ∧
      ∀ v ∈ after, IsOther v

/-- A response holds the logs of all messages, and whatever else. Of a transaction without messages
it tells no code id in its flat events either, which are read when there are no logs. -/
structure Grouped (logs : List (List ChainEvent)) (response : Json) : Prop where
  report : IsReport response
  messages : ∃ shown, response.member "logs" = .ok (.arr shown) ∧
    List.Forall₂ LogShownBy logs shown
  empty : logs = [] → ∃ others, response.getD "events" (.arr []) = .ok (.arr others) ∧
    ∀ v ∈ others, IsOther v

/-! ### Responses that hold nothing else -/

/-- An attribute as an object. -/
def Attribute.toJson (a : Attribute) : Json := .obj [("key", .str a.key), ("value", .str a.value)]

/-- An event as an object. -/
def ChainEvent.toJson (e : ChainEvent) : Json :=
  .obj [("type", .str e.type), ("attributes", .arr (e.attributes.map Attribute.toJson))]

/-- The log of a message as an object. -/
def logJson (events : List ChainEvent) : Json :=
  .obj [("events", .arr (events.map ChainEvent.toJson))]

/-- What is written item by item is shown item by item. -/
theorem forall₂_map {α : Type} {shows : α → Json → Prop} {write : α → Json}
    (h : ∀ a, shows a (write a)) (as : List α) : List.Forall₂ shows as (as.map write) := by
  rw [List.forall₂_map_right_iff, List.forall₂_same]
  exact fun a _ => h a

theorem ChainEvent.shownBy_toJson (e : ChainEvent) : e.ShownBy e.toJson :=
  ⟨rfl, _, rfl, forall₂_map (fun _ => ⟨rfl, rfl⟩) e.attributes⟩

theorem isReport_of_get? {ms : Members Json} (hheight : ms.get? "height" = none)
    (hcode : ms.get? "code" = none) : IsReport (.obj ms) := by
  have hmissing : ∀ {name : WideText}, ms.get? name = none →
      ∃ v n, (Json.obj ms).getD name (.int 0) = .ok v ∧ v.toInt = .ok n := by
    intro name hname
    refine ⟨.int 0, 0, ?_, rfl⟩
    rw [Json.getD, Json.get?, hname]
    rfl
  exact ⟨hmissing hheight, hmissing hcode⟩

/-- The logs alone are such a response, also where there are none. -/
theorem grouped_logJson (logs : List (List ChainEvent)) :
    Grouped logs (.obj [("logs", .arr (logs.map logJson))]) where
  report := isReport_of_get? rfl rfl
  messages := ⟨_, rfl, forall₂_map (fun events =>
    ⟨_, rfl, forall₂_map ChainEvent.shownBy_toJson events⟩) logs⟩
  empty _ := ⟨[], rfl, by simp⟩

/-- So are the flat events alone, with others around them. -/
theorem flat_toJson (events : List ChainEvent) {before after : List Json}
    (hbefore : ∀ v ∈ before, IsOther v) (hafter : ∀ v ∈ after, IsOther v) :
    Flat events
      (.obj [("events", .arr (before ++ (events.map ChainEvent.toJson ++ after)))]) where
  report := isReport_of_get? rfl rfl
  ungrouped := ⟨.null, rfl, rfl⟩
  events := ⟨before, _, after, rfl, hbefore, forall₂_map ChainEvent.shownBy_toJson events, hafter⟩

/-! ### Reading responses -/

/-- The events of a response: those of its logs, if there are any, and else the flat ones. -/
def reported (response : Json) : Except Fault Json := do
  let logs ← response.getD "logs" .null
  if logs.truthy then return .arr (← groupedEvents (← logs.items))
  else response.getD "events" (.arr [])

/-- The result that a response reports, with events that have been read. -/
def resultWith (response events : Json) : Except Fault TxResult := do
  return {
    txHash := ← response.getD "txhash" (.str "")
    height := ← (← response.getD "height" (.int 0)).toInt
    code := ← (← response.getD "code" (.int 0)).toInt
    rawLog := ← response.getD "raw_log" (.str "")
    events }

theorem ofResponse_eq (response : Json) :
    ofResponse response = reported response >>= resultWith response := by
  rw [ofResponse, reported, bind_assoc]
  congr 1
  funext logs
  dsimp only
  split
  · simp only [bind_assoc, pure_bind]
    rfl
  · rfl

/-- A report is read with its events. -/
theorem IsReport.exists_ofResponse {response events : Json} (h : IsReport response)
    (hevents : reported response = .ok events) :
    ∃ tx, ofResponse response = .ok tx ∧ tx.events = events := by
  obtain ⟨height, m, hheight, hm⟩ := h.height
  obtain ⟨code, n, hcode, hn⟩ := h.code
  obtain ⟨ms, rfl⟩ : ∃ ms, response = .obj ms := by
    cases response with
    | obj ms => exact ⟨ms, rfl⟩
    | _ => cases hheight
  have hresult : ∃ tx, resultWith (.obj ms) events = .ok tx ∧ tx.events = events := by
    rw [resultWith, hheight, hcode]
    simp only [except_ok_bind, hm, hn]
    exact ⟨_, rfl, rfl⟩
  obtain ⟨tx, htx, hkept⟩ := hresult
  exact ⟨tx, (ofResponse_eq _).trans (except_bind_eq_ok.mpr ⟨events, hevents, htx⟩), hkept⟩

/-- The logs of all messages give their events in order. -/
theorem groupedEvents_shown {logs : List (List ChainEvent)} {shown : List Json}
    (h : List.Forall₂ LogShownBy logs shown) :
    ∃ events, groupedEvents shown = .ok events ∧
      List.Forall₂ ChainEvent.ShownBy logs.flatten events := by
  induction h with
  | nil => exact ⟨[], rfl, .nil⟩
  | cons hlog _ ih =>
    obtain ⟨first, hmember, hfirst⟩ := hlog
    obtain ⟨rest, hread, hrest⟩ := ih
    refine ⟨first ++ rest, ?_, List.rel_append hfirst hrest⟩
    rw [groupedEvents, Json.getD_of_member (.arr []) hmember, except_ok_bind, Json.items,
      except_ok_bind, hread]
    rfl

/-- The code ids of a response with flat events are the numbers in them. -/
theorem codeIds_of_flat {events : List ChainEvent} {response : Json}
    (hregular : ∀ e ∈ events, e.Regular) (h : Flat events response) :
    ∃ tx, ofResponse response = .ok tx ∧ ofEvents tx.events = .ok (numbersOf events) := by
  obtain ⟨logs, hlogs, hfalsy⟩ := h.ungrouped
  obtain ⟨before, shown, after, hflat, hbefore, hshown, hafter⟩ := h.events
  have hreported : reported response = .ok (.arr (before ++ (shown ++ after))) := by
    rw [reported, hlogs, except_ok_bind, if_neg (by rw [hfalsy]; exact Bool.false_ne_true), hflat]
  obtain ⟨tx, htx, hevents⟩ := h.report.exists_ofResponse hreported
  have hnone : codeIdsOfEvents after = .ok [] := by
    have := codeIdsOfEvents_other hafter []
    rwa [List.append_nil] at this
  refine ⟨tx, htx, ?_⟩
  rw [hevents]
  show codeIdsOfEvents _ = _
  rw [codeIdsOfEvents_other hbefore, codeIdsOfEvents_shown hshown hregular hnone, List.append_nil]

/-- The code ids of a response with logs are the numbers in the events of all messages. -/
theorem codeIds_of_grouped {logs : List (List ChainEvent)} {response : Json}
    (hregular : ∀ e ∈ logs.flatten, e.Regular) (h : Grouped logs response) :
    ∃ tx, ofResponse response = .ok tx ∧ ofEvents tx.events = .ok (numbersOf logs.flatten) := by
  obtain ⟨shown, hmember, hshown⟩ := h.messages
  have hlogs := Json.getD_of_member .null hmember
  cases hshown with
  | nil =>
    -- without any message the flat events are read
    obtain ⟨others, hflat, hothers⟩ := h.empty rfl
    exact codeIds_of_flat hregular ⟨h.report, ⟨_, hlogs, rfl⟩, others, [], [],
      by rw [hflat, List.append_nil, List.append_nil], hothers, .nil, by simp⟩
  | @cons first v rest shown hfirst hrest =>
    obtain ⟨events, hread, hevents⟩ := groupedEvents_shown (.cons hfirst hrest)
    have htruthy : (Json.arr (v :: shown)).truthy = true := rfl
    have hreported : reported response = .ok (.arr events) := by
      rw [reported, hlogs, except_ok_bind, if_pos htruthy, Json.items, except_ok_bind, hread]
      rfl
    obtain ⟨tx, htx, hkept⟩ := h.report.exists_ofResponse hreported
    refine ⟨tx, htx, ?_⟩
    have hids : codeIdsOfEvents (events ++ []) = _ := codeIdsOfEvents_shown hevents hregular rfl
    rw [List.append_nil, List.append_nil] at hids
    rw [hkept]
    exact hids

end ContractOps.TxResult
