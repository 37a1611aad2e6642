import ContractOps.Proofs.Tx.Reports
import ContractOps.Json.Printer

/-!
# Code ids in the raw log

The raw log is the JSON text of the logs on one line without blanks (`rawLogText`), and it is
searched as a text. `Finds` says what a search finds in a piece of text whatever follows it. In a
text between quotes nothing is found unless it is a key `code_id`, because only a key is followed by
a value, so that the search finds the code ids of all events in order (`codeIdDigits_rawLogText`).
With this, all ways of reporting the same events give the same code ids (`codeIds_reported`).
-/

namespace ContractOps.TxResult

/-! ## The text of logs -/

/-- A text that stands between quotes as it is. -/
def IsPlain (s : WideText) : Prop := ∀ c ∈ s, c ≠ .char '"' ∧ c ≠ .char '\\' ∧ 0x20 ≤ c.toNat

instance (s : WideText) : Decidable (IsPlain s) :=
  inferInstanceAs (Decidable (∀ c ∈ s, c ≠ .char '"' ∧ c ≠ .char '\\' ∧ 0x20 ≤ c.toNat))

/-- An event whose texts are all plain. -/
structure ChainEvent.Plain (e : ChainEvent) : Prop where
  type : IsPlain e.type
  attributes : ∀ a ∈ e.attributes, IsPlain a.key ∧ IsPlain a.value

/-- A text in quotes. -/
def quoted (s : WideText) : WideText := Json.printText false s

/-- A name and what stands after it. -/
def memberText (name value : WideText) : WideText := quoted name ++ .char ':' :: value

/-- A list of what has been written. -/
def listText (texts : List WideText) : WideText :=
  .char '[' :: (List.intercalate [.char ','] texts ++ [.char ']'])

/-- The text of an attribute. -/
def Attribute.text (a : Attribute) : WideText :=
  .char '\x7b' :: memberText "key" (quoted a.key ++ .char ',' ::
    memberText "value" (quoted a.value ++ [.char '\x7d']))

/-- The text of an event. -/
def ChainEvent.text (e : ChainEvent) : WideText :=
  .char '\x7b' :: memberText "type" (quoted e.type ++ .char ',' ::
    memberText "attributes" (listText (e.attributes.map Attribute.text) ++ [.char '\x7d']))

/-- The text of the log of a message. -/
def logText (events : List ChainEvent) : WideText :=
  .char '\x7b' :: memberText "events" (listText (events.map ChainEvent.text) ++ [.char '\x7d'])

/-- The text of all logs. -/
def rawLogText (logs : List (List ChainEvent)) : WideText := listText (logs.map logText)

example : rawLogText [[⟨"t", [⟨"k", "v"⟩, ⟨"l", "w"⟩]⟩], []] =
    "[\x7b\"events\":[\x7b\"type\":\"t\",\"attributes\":[\x7b\"key\":\"k\",\"value\":\"v\"\x7d," ++
      "\x7b\"key\":\"l\",\"value\":\"w\"\x7d]\x7d]\x7d,\x7b\"events\":[]\x7d]" := by
  decide +kernel

theorem printPoint_of_isPlain {c : CodePoint} (hquote : c ≠ .char '"') (hslash : c ≠ .char '\\')
    (hcontrol : 0x20 ≤ c.toNat) : Json.printPoint false c = [c] := by
  cases c with
  | half n => rfl
  | char d =>
    have hlow : 0x20 ≤ d.toNat := hcontrol
    have hne : ∀ c : Char, c.toNat < 0x20 → d ≠ c := by
      rintro c hc rfl
      omega
    rw [Json.printPoint, Json.printChar, if_neg (by simpa using hquote),
      if_neg (by simpa using hslash), if_neg (hne '\n' (by decide)), if_neg (hne '\r' (by decide)),
      if_neg (hne '\t' (by decide)), if_neg (hne '\x08' (by decide)),
      if_neg (hne '\x0c' (by decide)), if_neg (by omega)]
    rfl

theorem quoted_of_isPlain {s : WideText} (h : IsPlain s) :
    quoted s = .char '"' :: (s ++ [.char '"']) := by
  have hprinted : s.flatMap (Json.printPoint false) = s := by
    induction s with
    | nil => rfl
    | cons c s ih =>
      obtain ⟨⟨hquote, hslash, hcontrol⟩, hs⟩ := List.forall_mem_cons.mp h
      rw [List.flatMap_cons, ih hs, printPoint_of_isPlain hquote hslash hcontrol]
      rfl
  rw [quoted, Json.printText, hprinted]
  rfl

/-! ## Looking for the mark -/

/-- A word is found where it stands. -/
theorem afterWord?_self (word rest : WideText) :
    Json.afterWord? word (word ++ rest) = some rest := by
  induction word with
  | nil => rfl
  | cons w word ih => rw [List.cons_append, Json.afterWord?, if_pos rfl, ih]

/-- The mark of a code id begins with the text `code_id` in quotes. -/
theorem codeIdMark_eq :
    codeIdMark = .char '"' :: (("code_id" : WideText) ++ .char '"' :: (",\"value\":\"" : WideText)) := by
  decide

/-- A word up to a quote is found where the text up to the next quote is this word. -/
theorem afterWord?_quote {word s : WideText} (hword : .char '"' ∉ word) (hs : .char '"' ∉ s)
    (tail rest : WideText) :
    Json.afterWord? (word ++ .char '"' :: tail) (s ++ .char '"' :: rest) =
      if s = word then Json.afterWord? tail rest else none := by
  induction word generalizing s with
  | nil =>
    cases s with
    | nil => simp [Json.afterWord?]
    | cons c s =>
      have hne : CodePoint.char '"' ≠ c := fun heq => hs (heq ▸ List.mem_cons_self)
      simp [Json.afterWord?, hne]
  | cons w word ih =>
    have hrest : .char '"' ∉ word := fun h => hword (List.mem_cons_of_mem w h)
    cases s with
    | nil =>
      have hne : w ≠ CodePoint.char '"' := fun heq => hword (heq ▸ List.mem_cons_self)
      simp [Json.afterWord?, hne]
    | cons c s =>
      have hs' : .char '"' ∉ s := fun h => hs (List.mem_cons_of_mem c h)
      rw [List.cons_append, List.cons_append, Json.afterWord?, ih hrest hs']
      by_cases hc : w = c
      · subst hc
        simp
      · rw [if_neg hc, if_neg fun heq => hc (List.cons.inj heq).1.symm]

/-- The mark is found at the quote before a text only if this is the text `code_id`, and a value
follows. -/
theorem afterWord?_codeIdMark {s : WideText} (hs : .char '"' ∉ s) (rest : WideText) :
    Json.afterWord? codeIdMark (.char '"' :: (s ++ .char '"' :: rest)) =
      if s = ("code_id" : WideText) then Json.afterWord? (",\"value\":\"" : WideText) rest
      else none := by
  rw [codeIdMark_eq, Json.afterWord?, if_pos rfl, afterWord?_quote (by decide) hs]

theorem codeIdAt?_of_afterWord? {cs : WideText} (h : Json.afterWord? codeIdMark cs = none) :
    codeIdAt? cs = none := by
  rw [codeIdAt?, h]

/-- The digits between the mark and a quote are the digits of a code id. -/
theorem codeIdAt?_codeIdMark {digits : WideText} (h : IsNumeral digits) (rest : WideText) :
    codeIdAt? (codeIdMark ++ (digits ++ .char '"' :: rest)) = some (digits, rest) := by
  have hdecimal : ∀ c ∈ digits, c.is Text.isDecimal = true :=
    h.forall_mem (·.is Text.isDecimal = true) (by decide)
  obtain ⟨d, ds, rfl⟩ := List.exists_cons_of_ne_nil h.ne_nil
  rw [codeIdAt?, afterWord?_self]
  dsimp only
  rw [List.takeWhile_append_of_pos hdecimal, List.dropWhile_append_of_pos hdecimal,
    List.takeWhile_cons_of_neg (by decide), List.dropWhile_cons_of_neg (by decide), List.append_nil]
  rfl

/-! ## What is found in a piece of text -/

/-- Whatever follows, a search finds certain digits in the piece, and then those in what follows. -/
def Finds (piece : WideText) (found : List WideText) : Prop :=
  ∀ rest, codeIdDigits (piece ++ rest) = found ++ codeIdDigits rest

theorem codeIdDigits_cons_of_none {c : CodePoint} {cs : WideText}
    (h : Json.afterWord? codeIdMark (c :: cs) = none) : codeIdDigits (c :: cs) = codeIdDigits cs := by
  rw [codeIdDigits, codeIdAt?_of_afterWord? h]

/-- After a code id the search goes on behind its quote. -/
theorem codeIdDigits_codeIdMark {digits : WideText} (h : IsNumeral digits) (rest : WideText) :
    codeIdDigits (codeIdMark ++ (digits ++ .char '"' :: rest)) = digits :: codeIdDigits rest := by
  have hfound := codeIdAt?_codeIdMark h rest
  have hcons : codeIdMark ++ (digits ++ .char '"' :: rest) =
      .char '"' :: (codeIdMark.tail ++ (digits ++ .char '"' :: rest)) := rfl
  have hlength : rest.length ≤ (codeIdMark.tail ++ (digits ++ .char '"' :: rest)).length := by
    simp only [List.length_append, List.length_cons]
    omega
  rw [hcons] at hfound ⊢
  rw [codeIdDigits, hfound]
  dsimp only
  rw [if_pos hlength]

namespace Finds

variable {piece piece' s : WideText} {found found' : List WideText}

theorem append (h : Finds piece found) (h' : Finds piece' found') :
    Finds (piece ++ piece') (found ++ found') := by
  intro rest
  rw [List.append_assoc, h, h', List.append_assoc]

/-- Nothing is found where there is no quote. -/
theorem bare (h : .char '"' ∉ piece) : Finds piece [] := by
  induction piece with
  | nil => exact fun _ => rfl
  | cons c cs ih =>
    intro rest
    have hne : CodePoint.char '"' ≠ c := fun heq => h (heq ▸ List.mem_cons_self)
    have hnone : Json.afterWord? codeIdMark (c :: (cs ++ rest)) = none := by
      rw [codeIdMark_eq, Json.afterWord?, if_neg hne]
    rw [List.cons_append, codeIdDigits_cons_of_none hnone]
    exact ih (fun hmem => h (List.mem_cons_of_mem c hmem)) rest

/-- Nothing is found in a text between quotes, unless it is `code_id` and a value follows. After it
a search goes on. -/
theorem text (hs : IsPlain s) {next : CodePoint} (hnext : next ≠ .char 'c')
    (hafter : Finds (next :: piece) found)
    (hnone : s ≠ ("code_id" : WideText) ∨
      ∀ rest, Json.afterWord? (",\"value\":\"" : WideText) (next :: piece ++ rest) = none) :
    Finds (quoted s ++ next :: piece) found := by
  have hquote : .char '"' ∉ s := fun h => (hs _ h).1 rfl
  intro rest
  have hopening : Json.afterWord? codeIdMark
      (.char '"' :: (s ++ .char '"' :: (next :: piece ++ rest))) = none := by
    rw [afterWord?_codeIdMark hquote]
    split
    · next heq => exact (hnone.resolve_left (not_not_intro heq)) rest
    · rfl
  have hclosing : Json.afterWord? codeIdMark (.char '"' :: (next :: piece ++ rest)) = none := by
    rw [codeIdMark_eq, Json.afterWord?, if_pos rfl]
    show (if CodePoint.char 'c' = next then _ else none) = none
    rw [if_neg (Ne.symm hnext)]
  have htext : quoted s ++ next :: piece ++ rest =
      .char '"' :: (s ++ .char '"' :: (next :: piece ++ rest)) := by
    rw [quoted_of_isPlain hs]
    simp
  rw [htext, codeIdDigits_cons_of_none hopening, bare hquote, List.nil_append,
    codeIdDigits_cons_of_none hclosing, hafter]

theorem cons {c : CodePoint} (hc : c ≠ .char '"') (h : Finds piece found) :
    Finds (c :: piece) found := by
  have hbare : Finds [c] [] := bare fun hmem => hc (List.mem_singleton.mp hmem).symm
  exact hbare.append h

theorem closed {c : CodePoint} (hc : c ≠ .char '"') (h : Finds piece found) :
    Finds (piece ++ [c]) found := by
  have hclosed := h.append (cons hc fun _ => rfl : Finds [c] [])
  rwa [List.append_nil] at hclosed

/-- Nothing is found in a name, unless it is `code_id`. -/
theorem member {name : WideText} (hname : IsPlain name) (hne : name ≠ ("code_id" : WideText))
    (h : Finds piece found) : Finds (memberText name piece) found :=
  text hname (by decide) (cons (by decide) h) (.inl hne)

/-- In a list is found what is found in its items. -/
theorem list {α : Type} {write : α → WideText} {ids : α → List WideText} {items : List α}
    (h : ∀ item ∈ items, Finds (write item) (ids item)) :
    Finds (listText (items.map write)) (items.flatMap ids) := by
  have hitems : Finds (List.intercalate [.char ','] (items.map write)) (items.flatMap ids) := by
    induction items with
    | nil => exact fun _ => rfl
    | cons item rest ih =>
      obtain ⟨hitem, hrest⟩ := List.forall_mem_cons.mp h
      cases rest with
      | nil => simpa using hitem
      | cons other rest =>
        have hcomma : Finds [.char ','] [] := bare (by decide)
        have hmore := (hitem.append hcomma).append (ih hrest)
        rw [List.append_nil] at hmore
        rw [List.map_cons, List.map_cons, List.intercalate_cons_cons]
        exact hmore
  exact cons (by decide) (hitems.closed (by decide))

/-- The digits of a code id are found where its value follows its key. -/
theorem codeId {digits : WideText} (h : IsNumeral digits) :
    Finds (quoted "code_id" ++ .char ',' :: memberText "value" (quoted digits)) [digits] := by
  have hplain : IsPlain digits :=
    h.forall_mem (fun c => c ≠ .char '"' ∧ c ≠ .char '\\' ∧ 0x20 ≤ c.toNat) (by decide)
  have hmark : quoted "code_id" ++ .char ',' :: memberText "value" [.char '"'] = codeIdMark := by
    decide
  intro rest
  have htext : quoted "code_id" ++ .char ',' :: memberText "value" (quoted digits) ++ rest =
      codeIdMark ++ (digits ++ .char '"' :: rest) := by
    rw [quoted_of_isPlain hplain, ← hmark, memberText, memberText]
    simp
  rw [htext, codeIdDigits_codeIdMark h]
  rfl

end Finds

/-! ## The whole raw log -/

/-- In the text of an attribute its code id is found, if it has one in digits. -/
theorem finds_attribute {a : Attribute} (hkey : IsPlain a.key) (hvalue : IsPlain a.value)
    (h : ∀ digits ∈ codeIdTexts [a], IsNumeral digits) : Finds a.text (codeIdTexts [a]) := by
  have hclosing : Finds [.char '\x7d'] [] := .bare (by decide)
  rw [codeIdTexts_cons] at h ⊢
  by_cases hcodeId : a.key = ("code_id" : WideText)
  · rw [if_pos hcodeId] at h ⊢
    have hfound := (Finds.codeId (h a.value List.mem_cons_self)).append hclosing
    have htext : a.text = .char '\x7b' :: memberText "key" (quoted "code_id" ++ .char ',' ::
        memberText "value" (quoted a.value) ++ [.char '\x7d']) := by
      rw [Attribute.text, hcodeId]
      simp [memberText]
    rw [htext]
    exact .cons (by decide) (.member (by decide) (by decide) hfound)
  · rw [if_neg hcodeId]
    have hvalue : Finds (quoted a.value ++ [.char '\x7d']) [] :=
      .text hvalue (by decide) hclosing (.inr fun _ => rfl)
    exact .cons (by decide) (.member (by decide) (by decide) (.text hkey (by decide)
      (.cons (by decide) (.member (by decide) (by decide) hvalue)) (.inl hcodeId)))

theorem codeIdTexts_eq_flatMap (attributes : List Attribute) :
    codeIdTexts attributes = attributes.flatMap fun a => codeIdTexts [a] := by
  induction attributes with
  | nil => rfl
  | cons a rest ih =>
    rw [List.flatMap_cons, ← ih, codeIdTexts_cons, codeIdTexts_cons]
    split <;> rfl

/-- In the text of an event its code ids are found, also if its type is `code_id`. -/
theorem finds_event {e : ChainEvent} (hplain : e.Plain) (hregular : e.Regular) :
    Finds e.text (codeIdTexts e.attributes) := by
  have hlist : Finds (listText (e.attributes.map Attribute.text)) (codeIdTexts e.attributes) := by
    rw [codeIdTexts_eq_flatMap]
    refine .list fun a ha => ?_
    obtain ⟨hkey, hvalue⟩ := hplain.attributes a ha
    refine finds_attribute hkey hvalue fun digits hdigits => hregular.isNumeral ?_
    rw [codeIdTexts_eq_flatMap]
    exact List.mem_flatMap.mpr ⟨a, ha, hdigits⟩
  exact .cons (by decide) (.member (by decide) (by decide) (.text hplain.type (by decide)
    (.cons (by decide) (.member (by decide) (by decide) (hlist.closed (by decide))))
    (.inr fun _ => rfl)))

/-- A search in the raw log finds the code ids of all events, in order. -/
theorem codeIdDigits_rawLogText {logs : List (List ChainEvent)}
    (hplain : ∀ e ∈ logs.flatten, e.Plain) (hregular : ∀ e ∈ logs.flatten, e.Regular) :
    codeIdDigits (rawLogText logs) = codeIdTextsOf logs.flatten := by
  have hlog : ∀ events ∈ logs, Finds (logText events) (codeIdTextsOf events) := by
    intro events hevents
    have hlist : Finds (listText (events.map ChainEvent.text)) (codeIdTextsOf events) :=
      .list fun e he =>
        have hmem : e ∈ logs.flatten := List.mem_flatten.mpr ⟨events, hevents, he⟩
        finds_event (hplain e hmem) (hregular e hmem)
    exact .cons (by decide) (.member (by decide) (by decide) (hlist.closed (by decide)))
  have hfound := Finds.list hlog []
  rw [List.append_nil] at hfound
  rw [rawLogText, hfound, codeIdDigits, List.append_nil, codeIdTextsOf, ← List.flatMap_id,
    List.flatMap_assoc]
  rfl

theorem mapM_textToInt {texts : List WideText} (h : ∀ digits ∈ texts, IsNumeral digits) :
    texts.mapM Json.textToInt = .ok (texts.map number) := by
  induction texts with
  | nil => rfl
  | cons digits rest ih =>
    obtain ⟨hdigits, hrest⟩ := List.forall_mem_cons.mp h
    rw [List.mapM_cons, hdigits.textToInt, ih hrest]
    rfl

theorem ofRawLog_rawLogText {logs : List (List ChainEvent)}
    (hplain : ∀ e ∈ logs.flatten, e.Plain) (hregular : ∀ e ∈ logs.flatten, e.Regular) :
    ofRawLog (.str (rawLogText logs)) = .ok (numbersOf logs.flatten) := by
  have hnumerals : ∀ digits ∈ codeIdTextsOf logs.flatten, IsNumeral digits := by
    intro digits hdigits
    obtain ⟨e, he, hdigits⟩ := List.mem_flatMap.mp hdigits
    exact (hregular e he).isNumeral hdigits
  show (codeIdDigits (rawLogText logs)).mapM Json.textToInt = _
  rw [codeIdDigits_rawLogText hplain hregular, mapM_textToInt hnumerals]
  rfl

/-- However a chain reports its events, grouped by message, flat among others, or as the text of the
raw log, the same code ids are read in the same order: the numbers of the events. A response with
empty logs is one of a transaction without messages if its flat events store nothing either
(`Grouped.empty`). -/
theorem codeIds_reported (logs : List (List ChainEvent)) (hplain : ∀ e ∈ logs.flatten, e.Plain)
    (hregular : ∀ e ∈ logs.flatten, e.Regular) :
    (∀ response, Grouped logs response → ∃ tx, ofResponse response = .ok tx ∧
      ofEvents tx.events = .ok (numbersOf logs.flatten)) ∧
    (∀ response, Flat logs.flatten response → ∃ tx, ofResponse response = .ok tx ∧
      ofEvents tx.events = .ok (numbersOf logs.flatten)) ∧
    ofRawLog (.str (rawLogText logs)) = .ok (numbersOf logs.flatten) :=
  ⟨fun _ => codeIds_of_grouped hregular, fun _ => codeIds_of_flat hregular,
    ofRawLog_rawLogText hplain hregular⟩

/-! ### Events with `code_id` in other places -/

/-- Three messages, the second of them without events. A code id is that of an event `store_code`,
and `code_id` is also the type of an event, and a value. -/
def scatteredLogs : List (List ChainEvent) :=
  [[⟨"code_id", [⟨"key", "code_id"⟩, ⟨"value", "7"⟩]⟩,
      ⟨"store_code", [⟨"code_checksum", "12"⟩, ⟨"code_id", "42"⟩]⟩], [],
    [⟨"store_code", [⟨"code_id", "007"⟩, ⟨"value", "9"⟩]⟩]]

/-- An event that belongs to no message. -/
def transferEvent : Json := .obj [("type", .str "transfer")]

theorem codeIds_reported_scattered :
    (∀ e ∈ scatteredLogs.flatten, e.Plain) ∧ (∀ e ∈ scatteredLogs.flatten, e.Regular) ∧
    (∃ tx, ofResponse (.obj [("logs", .arr (scatteredLogs.map logJson))]) = .ok tx ∧
      ofEvents tx.events = .ok [42, 7]) ∧
    (∃ tx, ofResponse (.obj [("events", .arr ([transferEvent] ++
      (scatteredLogs.flatten.map ChainEvent.toJson ++ [transferEvent])))]) = .ok tx ∧
      ofEvents tx.events = .ok [42, 7]) ∧
    ofRawLog (.str (rawLogText scatteredLogs)) = .ok [42, 7] := by
  have hplain : ∀ e ∈ scatteredLogs.flatten, e.Plain :=
    List.forall_mem_cons.mpr ⟨⟨by decide, by decide⟩, List.forall_mem_cons.mpr
      ⟨⟨by decide, by decide⟩, List.forall_mem_singleton.mpr ⟨by decide, by decide⟩⟩⟩
  have hregular : ∀ e ∈ scatteredLogs.flatten, e.Regular := by
    refine List.forall_mem_cons.mpr ⟨⟨fun htype => absurd htype (by decide), fun _ => rfl⟩,
      List.forall_mem_cons.mpr ⟨⟨fun _ => ⟨"42", rfl, ?_⟩, fun htype => absurd rfl htype⟩,
      List.forall_mem_singleton.mpr ⟨fun _ => ⟨"007", rfl, ?_⟩, fun htype => absurd rfl htype⟩⟩⟩
    · exact ⟨['4', '2'], rfl, List.all_eq_true.mp rfl, by decide, by decide⟩
    · exact ⟨['0', '0', '7'], rfl, List.all_eq_true.mp rfl, by decide, by decide⟩
  have hother : ∀ v ∈ [transferEvent], IsOther v := by
    intro v hv
    rw [List.mem_singleton.mp hv]
    exact ⟨_, rfl, fun heq => absurd (Json.str.inj heq) (by decide)⟩
  have hnumbers : numbersOf scatteredLogs.flatten = [42, 7] := by decide
  obtain ⟨hgrouped, hflat, hraw⟩ := codeIds_reported scatteredLogs hplain hregular
  rw [hnumbers] at hgrouped hflat hraw
  exact ⟨hplain, hregular, hgrouped _ (grouped_logJson _), hflat _ (flat_toJson _ hother hother),
    hraw⟩

end ContractOps.TxResult
