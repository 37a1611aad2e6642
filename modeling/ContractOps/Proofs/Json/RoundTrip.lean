import ContractOps.Proofs.Json.Floats
import ContractOps.Proofs.Json.Members

/-!
# Printed values read back

A value that is within the bounds of the reader (`Fits`) is read back from what is printed for it
(`read_indented`).
-/

namespace ContractOps.Json

variable {levels : Nat} {cs left rest : WideText} {v : Json}

/-! ## Scanning steps -/

theorem isStop_of_isLayout {c : CodePoint} (h : c.is Text.isLayout = true) : c.is isStop = true := by
  cases c with
  | char d =>
    rw [CodePoint.is_char] at h
    simp [isStop, h]
  | half n => cases h

/-- White space may stand between a value and what may follow it. -/
theorem Delimited.layout {ws : WideText} (hws : ∀ c ∈ ws, c.is Text.isLayout = true)
    (h : Delimited rest) : Delimited (ws ++ rest) := by
  cases ws with
  | nil => exact h
  | cons w ws =>
    intro c hc
    cases hc
    exact isStop_of_isLayout (hws w List.mem_cons_self)

theorem skip_layout {ws : WideText} (hws : ∀ c ∈ ws, c.is Text.isLayout = true) (cs : WideText) :
    skip (ws ++ cs) = skip cs := by
  induction ws with
  | nil => rfl
  | cons w ws ih =>
    rw [List.cons_append, skip, if_pos (hws w List.mem_cons_self)]
    exact ih fun c hc => hws c (List.mem_cons_of_mem w hc)

theorem scans_text {s : WideText} (h : Scans (textBody (.char '"' :: cs) cs) s rest) :
    Scans (scan levels (.char '"' :: cs)) (.str s) rest := by
  obtain ⟨hlt, h⟩ := h
  refine ⟨by rw [List.length_cons]; omega, ?_⟩
  rw [scan, h]

theorem scans_array {items : List Json} (hopen : ∀ after, skip cs ≠ .char ']' :: after)
    (h : Scans (scanItems levels (skip cs)) items rest) :
    Scans (scan (levels + 1) (.char '[' :: cs)) (.arr items) rest := by
  obtain ⟨hlt, h⟩ := h
  have hskip := length_skip_le cs
  refine ⟨by rw [List.length_cons]; omega, ?_⟩
  rw [scan]
  split
  · next after hr => exact absurd hr (hopen after)
  · rw [h]

theorem scans_object {members : List (WideText × Json)}
    (hopen : ∀ after, skip cs ≠ .char '\x7d' :: after)
    (h : Scans (scanMembers levels (skip cs)) members rest) :
    Scans (scan (levels + 1) (.char '\x7b' :: cs)) (.obj (Members.ofList members)) rest := by
  obtain ⟨hlt, h⟩ := h
  have hskip := length_skip_le cs
  refine ⟨by rw [List.length_cons]; omega, ?_⟩
  rw [scan]
  split
  · next after hr => exact absurd hr (hopen after)
  · rw [h]

theorem scans_emptyArray (levels : Nat) (rest : WideText) :
    Scans (scan (levels + 1) (.char '[' :: .char ']' :: rest)) (.arr []) rest := by
  refine ⟨by rw [List.length_cons, List.length_cons]; omega, ?_⟩
  have hskip : skip (.char ']' :: rest) = .char ']' :: rest := rfl
  rw [scan]
  split
  · next after hr =>
    cases hskip.symm.trans hr
    rfl
  · next hr => exact absurd hskip (hr rest)

theorem scans_emptyObject (levels : Nat) (rest : WideText) :
    Scans (scan (levels + 1) (.char '\x7b' :: .char '\x7d' :: rest)) (.obj []) rest := by
  refine ⟨by rw [List.length_cons, List.length_cons]; omega, ?_⟩
  have hskip : skip (.char '\x7d' :: rest) = .char '\x7d' :: rest := rfl
  rw [scan]
  split
  · next after hr =>
    cases hskip.symm.trans hr
    rfl
  · next hr => exact absurd hskip (hr rest)

theorem scan_atom (hquote : cs.head? ≠ some (.char '"')) (harray : cs.head? ≠ some (.char '['))
    (hobject : cs.head? ≠ some (.char '\x7b')) : scan levels cs = atom cs := by
  rw [scan]
  · rintro after rfl
    exact hquote rfl
  · rintro after rfl
    exact harray rfl
  · rintro after rfl
    exact hobject rfl

theorem scans_items_last (h : Scans (scan levels cs) v left)
    (hclose : skip left = .char ']' :: rest) : Scans (scanItems levels cs) [v] rest := by
  obtain ⟨hlt, h⟩ := h
  have hskip := length_skip_le left
  have hshorter : rest.length < cs.length := by
    rw [hclose, List.length_cons] at hskip
    omega
  refine ⟨hshorter, ?_⟩
  rw [scanItems, h]
  dsimp only
  split
  · next after hr =>
    cases hclose.symm.trans hr
    rfl
  · next more hr => cases hclose.symm.trans hr
  · next hr _ => exact absurd hclose (hr rest)

theorem scans_items_more {more : WideText} {vs : List Json} (h : Scans (scan levels cs) v left)
    (hcomma : skip left = .char ',' :: more) (hmore : Scans (scanItems levels (skip more)) vs rest) :
    Scans (scanItems levels cs) (v :: vs) rest := by
  obtain ⟨hlt, h⟩ := h
  obtain ⟨hlt', hmore⟩ := hmore
  have hskip := length_skip_le left
  have hskip' := length_skip_le more
  have hshorter : rest.length < cs.length := by
    rw [hcomma, List.length_cons] at hskip
    omega
  refine ⟨hshorter, ?_⟩
  rw [scanItems, h]
  dsimp only
  split
  · next after hr => cases hcomma.symm.trans hr
  · next more' hr =>
    cases hcomma.symm.trans hr
    rw [hmore]
  · next hr => exact absurd hcomma (hr more)

/-- A name and its value, up to what follows them. -/
theorem scans_members_last {after between : WideText} {name : WideText}
    (hname : Scans (textBody (.char '"' :: cs) cs) name after)
    (hcolon : skip after = .char ':' :: between) (h : Scans (scan levels (skip between)) v left)
    (hclose : skip left = .char '\x7d' :: rest) :
    Scans (scanMembers levels (.char '"' :: cs)) [(name, v)] rest := by
  obtain ⟨hlt, hname⟩ := hname
  obtain ⟨hlt', h⟩ := h
  have hafter := length_skip_le after
  have hbetween := length_skip_le between
  have hleft := length_skip_le left
  have hshorter : rest.length < (CodePoint.char '"' :: cs).length := by
    rw [hcolon, List.length_cons] at hafter
    rw [hclose, List.length_cons] at hleft
    rw [List.length_cons]
    omega
  refine ⟨hshorter, ?_⟩
  rw [scanMembers, hname]
  dsimp only
  split
  · next between' hr =>
    cases hcolon.symm.trans hr
    rw [h]
    dsimp only
    split
    · next after' hr' =>
      cases hclose.symm.trans hr'
      rfl
    · next hr' => cases hclose.symm.trans hr'
    · next hr' _ => exact absurd hclose (hr' rest)
  · next hr => exact absurd hcolon (hr between)

theorem scans_members_more {after between more : WideText} {name : WideText}
    {members : List (WideText × Json)}
    (hname : Scans (textBody (.char '"' :: cs) cs) name after)
    (hcolon : skip after = .char ':' :: between) (h : Scans (scan levels (skip between)) v left)
    (hcomma : skip left = .char ',' :: more)
    (hmore : Scans (scanMembers levels (skip more)) members rest) :
    Scans (scanMembers levels (.char '"' :: cs)) ((name, v) :: members) rest := by
  obtain ⟨hlt, hname⟩ := hname
  obtain ⟨hlt', h⟩ := h
  obtain ⟨hlt'', hmore⟩ := hmore
  have hafter := length_skip_le after
  have hbetween := length_skip_le between
  have hleft := length_skip_le left
  have hcontinued := length_skip_le more
  have hshorter : rest.length < (CodePoint.char '"' :: cs).length := by
    rw [hcolon, List.length_cons] at hafter
    rw [hcomma, List.length_cons] at hleft
    rw [List.length_cons]
    omega
  refine ⟨hshorter, ?_⟩
  rw [scanMembers, hname]
  dsimp only
  split
  · next between' hr =>
    cases hcolon.symm.trans hr
    rw [h]
    dsimp only
    split
    · next hr' => cases hcomma.symm.trans hr'
    · next hr' =>
      cases hcomma.symm.trans hr'
      rw [hmore]
    · next hr' => exact absurd hcomma (hr' more)
  · next hr => exact absurd hcolon (hr between)

/-- What may follow a value is no value. -/
theorem atom_delimited (h : Delimited cs) : ∃ e, atom cs = .error e := by
  have hword : word? cs = none := word?_append [] h
  have hnumber : number? cs = none := number?_append [] h
  rw [atom, hword, hnumber]
  exact ⟨_, rfl⟩

theorem not_delimited_of_scans (h : Scans (scan levels cs) v rest) : ¬Delimited cs := by
  intro hcs
  obtain ⟨hlt, h⟩ := h
  have hfirst : ∀ d : Char, isStop d = false → cs.head? ≠ some (.char d) := by
    intro d hd hhead
    have hstop := hcs _ hhead
    rw [CodePoint.is_char, hd] at hstop
    cases hstop
  rw [scan_atom (hfirst '"' (by decide)) (hfirst '[' (by decide)) (hfirst '\x7b' (by decide))] at h
  obtain ⟨e, he⟩ := atom_delimited hcs
  cases he.symm.trans h

/-- A value stands at the beginning of its text. -/
theorem skip_of_scans (h : Scans (scan levels cs) v rest) :
    skip cs = cs ∧ ∀ after, cs ≠ .char ']' :: after := by
  have hcs := not_delimited_of_scans h
  cases cs with
  | nil => exact absurd Delimited.nil hcs
  | cons c cs =>
    constructor
    · rw [skip, if_neg]
      intro hlayout
      apply hcs
      intro d hd
      cases hd
      exact isStop_of_isLayout hlayout
    · rintro after heq
      cases heq
      exact hcs (Delimited.cons (by decide) cs)

/-! ## Values that fit -/

/-- Values that the reader takes: with integers that are not too long, containers in at most so many
levels, and objects in which no name occurs twice. All texts in them are allowed. -/
inductive Fits (allowed : WideText → Prop) : Nat → Json → Prop
  | null {levels : Nat} : Fits allowed levels .null
  | bool {levels : Nat} (b : Bool) : Fits allowed levels (.bool b)
  | int {levels : Nat} {n : Int} (h : Digits.count n.natAbs ≤ Numeral.maxDigits) :
    Fits allowed levels (.int n)
  | float {levels : Nat} (x : Binary64) : Fits allowed levels (.float x)
  | str {levels : Nat} {s : WideText} (h : allowed s) : Fits allowed levels (.str s)
  | arr {levels : Nat} {items : List Json} (h : ∀ v ∈ items, Fits allowed levels v) :
    Fits allowed (levels + 1) (.arr items)
  | obj {levels : Nat} {members : List (WideText × Json)} (unique : (members.map Prod.fst).Nodup)
    (names : ∀ m ∈ members, allowed m.1) (values : ∀ m ∈ members, Fits allowed levels m.2) :
    Fits allowed (levels + 1) (.obj members)

/-- Styles that print characters as they are and add nothing but white space. -/
structure Style.Plain (style : Style) : Prop where
  ascii : style.ascii = false
  edge : ∀ depth, ∀ c ∈ style.edge depth, c.is Text.isLayout = true
  gap : ∀ depth, ∀ c ∈ style.gap depth, c.is Text.isLayout = true

theorem isLayout_newline (depth : Nat) : ∀ c ∈ newline depth, c.is Text.isLayout = true := by
  intro c hc
  rcases List.mem_cons.mp hc with rfl | hc
  · decide
  · rw [List.eq_of_mem_replicate hc]
    decide

theorem Style.plain_lines : (Style.lines false).Plain :=
  ⟨rfl, isLayout_newline, isLayout_newline⟩

theorem Style.plain_line : ({ Style.line with ascii := false } : Style).Plain where
  ascii := rfl
  edge _ _ hc := by cases hc
  gap _ _ hc := by
    rw [List.mem_singleton.mp hc]
    decide

/-- Styles in which allowed texts are read back and nothing but white space is added. -/
structure Style.Legible (style : Style) (allowed : WideText → Prop) : Prop where
  text : ∀ s, allowed s → ∀ start rest,
    Scans (textBody start (s.flatMap (printPoint style.ascii) ++ .char '"' :: rest)) s rest
  edge : ∀ depth, ∀ c ∈ style.edge depth, c.is Text.isLayout = true
  gap : ∀ depth, ∀ c ∈ style.gap depth, c.is Text.isLayout = true

theorem Style.Plain.legible {style : Style} (h : style.Plain) (allowed : WideText → Prop) :
    style.Legible allowed where
  text s _ start rest := by
    rw [h.ascii]
    exact scans_textBody_print start s rest
  edge := h.edge
  gap := h.gap

/-! ## Printed values are read -/

variable {style : Style} {allowed : WideText → Prop}

/-- The text of a value is read as the value, whatever may follow it. -/
def Reads (levels : Nat) (cs : WideText) (v : Json) : Prop :=
  ∀ rest, Delimited rest → Scans (scan levels (cs ++ rest)) v rest

theorem skip_space (cs : WideText) : skip (.char ' ' :: cs) = skip cs := rfl

theorem skip_printed {levels : Nat} {cs : WideText} {v : Json} (h : Reads levels cs v)
    (hrest : Delimited rest) : skip (cs ++ rest) = cs ++ rest :=
  (skip_of_scans (h rest hrest)).1

/-- Neither a quote nor a bracket begins a word or a number. -/
theorem atom_bracket {c : Char} (hc : c = '"' ∨ c = '[' ∨ c = '\x7b') (cs : WideText) :
    ∃ e, atom (.char c :: cs) = .error e := by
  rcases hc with rfl | rfl | rfl <;> exact ⟨_, rfl⟩

theorem reads_atom (h : Scans (atom cs) v []) : Reads levels cs v := by
  intro rest hrest
  have hscan := h.atom_append hrest
  have hfirst : ∀ c : Char, c = '"' ∨ c = '[' ∨ c = '\x7b' →
      (cs ++ rest).head? ≠ some (.char c) := by
    intro c hc hhead
    obtain ⟨more, hmore⟩ := List.head?_eq_some_iff.mp hhead
    obtain ⟨e, he⟩ := atom_bracket hc more
    rw [hmore] at hscan
    obtain ⟨_, hok⟩ := hscan
    cases he.symm.trans hok
  rw [scan_atom (hfirst _ (.inl rfl)) (hfirst _ (.inr (.inl rfl))) (hfirst _ (.inr (.inr rfl)))]
  exact hscan

theorem print_arr_append (style : Style) (depth : Nat) (v : Json) (vs : List Json)
    (rest : WideText) :
    print style depth (arr (v :: vs)) ++ rest = .char '[' :: (style.edge (depth + 1) ++
      (print style (depth + 1) v ++ (printItems style depth vs ++ rest))) := by
  rw [print, List.append_assoc, List.append_assoc, List.cons_append]

theorem printItems_append (style : Style) (depth : Nat) (v : Json) (vs : List Json)
    (rest : WideText) :
    printItems style depth (v :: vs) ++ rest = .char ',' :: (style.gap (depth + 1) ++
      (print style (depth + 1) v ++ (printItems style depth vs ++ rest))) := by
  rw [printItems, List.append_assoc, List.append_assoc, List.cons_append]

theorem print_obj_append (style : Style) (depth : Nat) (name : WideText) (v : Json)
    (ms : List (WideText × Json)) (rest : WideText) :
    print style depth (obj ((name, v) :: ms)) ++ rest = .char '\x7b' :: (style.edge (depth + 1) ++
      (printText style.ascii name ++ (.char ':' :: .char ' ' ::
        (print style (depth + 1) v ++ (printMembers style depth ms ++ rest))))) := by
  rw [print]
  simp

theorem printMembers_append (style : Style) (depth : Nat) (name : WideText) (v : Json)
    (ms : List (WideText × Json)) (rest : WideText) :
    printMembers style depth ((name, v) :: ms) ++ rest = .char ',' :: (style.gap (depth + 1) ++
      (printText style.ascii name ++ (.char ':' :: .char ' ' ::
        (print style (depth + 1) v ++ (printMembers style depth ms ++ rest))))) := by
  rw [printMembers]
  simp

/-- A text in quotes is read back. -/
theorem scans_printText (hstyle : style.Legible allowed) {s : WideText} (hs : allowed s)
    (rest : WideText) :
    ∃ cs, printText style.ascii s ++ rest = .char '"' :: cs ∧
      Scans (textBody (.char '"' :: cs) cs) s rest := by
  refine ⟨s.flatMap (printPoint style.ascii) ++ .char '"' :: rest, ?_, hstyle.text s hs _ rest⟩
  rw [printText]
  simp

theorem delimited_printItems (hstyle : style.Legible allowed) (depth : Nat) (vs : List Json)
    (rest : WideText) : Delimited (printItems style depth vs ++ rest) := by
  cases vs with
  | nil =>
    rw [printItems, List.append_assoc]
    exact (Delimited.cons (by decide) rest).layout (hstyle.edge depth)
  | cons v vs =>
    rw [printItems]
    exact Delimited.cons (by decide) _

theorem delimited_printMembers (hstyle : style.Legible allowed) (depth : Nat)
    (ms : List (WideText × Json)) (rest : WideText) :
    Delimited (printMembers style depth ms ++ rest) := by
  cases ms with
  | nil =>
    rw [printMembers, List.append_assoc]
    exact (Delimited.cons (by decide) rest).layout (hstyle.edge depth)
  | cons m ms =>
    rw [printMembers]
    exact Delimited.cons (by decide) _

/-- Items that are read one by one are read as a list. -/
theorem scans_printItems (hstyle : style.Legible allowed) (depth : Nat) (v : Json) (vs : List Json)
    (h : ∀ w ∈ v :: vs, Reads levels (print style (depth + 1) w) w) (rest : WideText) :
    Scans (scanItems levels (print style (depth + 1) v ++ (printItems style depth vs ++ rest)))
      (v :: vs) rest := by
  induction vs generalizing v with
  | nil =>
    have hfirst := h v List.mem_cons_self _ (delimited_printItems hstyle depth [] rest)
    apply scans_items_last hfirst
    rw [printItems, List.append_assoc, skip_layout (hstyle.edge depth)]
    rfl
  | cons w ws ih =>
    have hfirst := h v List.mem_cons_self _ (delimited_printItems hstyle depth (w :: ws) rest)
    have hw : Reads levels (print style (depth + 1) w) w :=
      h w (List.mem_cons_of_mem v List.mem_cons_self)
    have hcomma : skip (printItems style depth (w :: ws) ++ rest) = .char ',' ::
        (style.gap (depth + 1) ++
          (print style (depth + 1) w ++ (printItems style depth ws ++ rest))) := by
      rw [printItems_append]
      rfl
    apply scans_items_more hfirst hcomma
    rw [skip_layout (hstyle.gap (depth + 1)),
      skip_printed hw (delimited_printItems hstyle depth ws rest)]
    exact ih w fun u hu => h u (List.mem_cons_of_mem v hu)

/-- The value of a member, behind the colon. -/
theorem scans_memberValue (hv : Reads levels cs v) (hrest : Delimited rest) :
    Scans (scan levels (skip (.char ' ' :: (cs ++ rest)))) v rest := by
  rw [skip_space, skip_printed hv hrest]
  exact hv rest hrest

/-- Members whose values are read one by one are read as those of an object. -/
theorem scans_printMembers (hstyle : style.Legible allowed) (depth : Nat) (name : WideText)
    (v : Json)
    (ms : List (WideText × Json))
    (hnames : ∀ m ∈ (name, v) :: ms, allowed m.1)
    (h : ∀ m ∈ (name, v) :: ms, Reads levels (print style (depth + 1) m.2) m.2)
    (rest : WideText) :
    Scans (scanMembers levels (printText style.ascii name ++ (.char ':' :: .char ' ' ::
      (print style (depth + 1) v ++ (printMembers style depth ms ++ rest)))))
      ((name, v) :: ms) rest := by
  induction ms generalizing name v with
  | nil =>
    obtain ⟨cs, hcs, hname⟩ := scans_printText hstyle (hnames _ List.mem_cons_self)
      (.char ':' :: .char ' ' ::
        (print style (depth + 1) v ++ (printMembers style depth [] ++ rest)))
    have hv : Reads levels (print style (depth + 1) v) v := h (name, v) List.mem_cons_self
    have hvalue := scans_memberValue hv (delimited_printMembers hstyle depth [] rest)
    rw [hcs]
    apply scans_members_last hname rfl hvalue
    rw [printMembers, List.append_assoc, skip_layout (hstyle.edge depth)]
    rfl
  | cons m ms ih =>
    obtain ⟨next, w⟩ := m
    obtain ⟨cs, hcs, hname⟩ := scans_printText hstyle (hnames _ List.mem_cons_self)
      (.char ':' :: .char ' ' ::
        (print style (depth + 1) v ++ (printMembers style depth ((next, w) :: ms) ++ rest)))
    have hv : Reads levels (print style (depth + 1) v) v := h (name, v) List.mem_cons_self
    have hvalue := scans_memberValue hv (delimited_printMembers hstyle depth ((next, w) :: ms) rest)
    obtain ⟨_, hothers⟩ := List.forall_mem_cons.mp hnames
    have hmore := ih next w hothers fun m hm => h m (List.mem_cons_of_mem (name, v) hm)
    obtain ⟨cs', hcs', _⟩ := scans_printText hstyle (hothers _ List.mem_cons_self)
      (.char ':' :: .char ' ' ::
        (print style (depth + 1) w ++ (printMembers style depth ms ++ rest)))
    have hcomma : skip (printMembers style depth ((next, w) :: ms) ++ rest) = .char ',' ::
        (style.gap (depth + 1) ++ (.char '"' :: cs')) := by
      rw [printMembers_append, hcs']
      rfl
    rw [hcs'] at hmore
    rw [hcs]
    apply scans_members_more hname rfl hvalue hcomma
    rw [skip_layout (hstyle.gap (depth + 1))]
    exact hmore

/-! ### Values -/

/-- A value is read back from its text. -/
theorem reads_print (hstyle : style.Legible allowed) (h : Fits allowed levels v) (depth : Nat) :
    Reads levels (print style depth v) v := by
  induction h generalizing depth with
  | null => exact reads_atom ⟨Nat.succ_pos _, rfl⟩
  | bool b => cases b <;> exact reads_atom ⟨Nat.succ_pos _, rfl⟩
  | int hn => exact reads_atom (scans_atom_int hn)
  | float x => exact reads_atom (scans_atom_float x)
  | str hs =>
    intro rest _
    obtain ⟨cs, hcs, htext⟩ := scans_printText hstyle hs rest
    rw [print, hcs]
    exact scans_text htext
  | @arr levels items _ ih =>
    intro rest _
    cases items with
    | nil => exact scans_emptyArray levels rest
    | cons v vs =>
      have hitems := scans_printItems hstyle depth v vs (fun w hw => ih w hw (depth + 1)) rest
      have hv := ih v List.mem_cons_self (depth + 1) _ (delimited_printItems hstyle depth vs rest)
      obtain ⟨hskip, hopen⟩ := skip_of_scans hv
      have hedge := skip_layout (hstyle.edge (depth + 1))
        (print style (depth + 1) v ++ (printItems style depth vs ++ rest))
      rw [print_arr_append]
      refine scans_array ?_ ?_
      · rw [hedge, hskip]
        exact hopen
      · rw [hedge, hskip]
        exact hitems
  | @obj levels members unique names _ ih =>
    intro rest _
    cases members with
    | nil => exact scans_emptyObject levels rest
    | cons m ms =>
      obtain ⟨name, v⟩ := m
      have hmembers := scans_printMembers hstyle depth name v ms names
        (fun m hm => ih m hm (depth + 1)) rest
      obtain ⟨cs, hcs, _⟩ := scans_printText hstyle (names _ List.mem_cons_self)
        (.char ':' :: .char ' ' ::
        (print style (depth + 1) v ++ (printMembers style depth ms ++ rest)))
      have hedge := skip_layout (hstyle.edge (depth + 1)) (.char '"' :: cs)
      have hobject := Members.ofList_of_nodup unique
      rw [hcs] at hmembers
      rw [print_obj_append, hcs, ← hobject]
      refine scans_object ?_ ?_
      · rw [hedge]
        intro after heq
        cases heq
      · rw [hedge]
        exact hmembers

/-- The mark of the order of octets begins no value. -/
theorem scan_mark (cs : WideText) : ∃ e, scan levels (.char '\uFEFF' :: cs) = .error e := by
  rw [scan_atom (by simp) (by simp) (by simp)]
  exact ⟨_, rfl⟩

/-- A whole text that a value has been printed to is read, where there is room for the value. -/
theorem readWithin_legible (hstyle : style.Legible allowed) (h : Fits allowed levels v) :
    readWithin levels (print style 0 v) = .ok v := by
  have hreads := reads_print hstyle h 0 [] .nil
  rw [List.append_nil] at hreads
  have hmark : ∀ cs, print style 0 v ≠ .char '\uFEFF' :: cs := by
    intro cs hcs
    obtain ⟨e, he⟩ : ∃ e, scan levels (.char '\uFEFF' :: cs) = .error e := scan_mark cs
    rw [hcs] at hreads
    obtain ⟨_, hok⟩ := hreads
    cases he.symm.trans hok
  have hskip : skip (print style 0 v) = print style 0 v := (skip_of_scans hreads).1
  have hscan : Scans (scan levels (skip (print style 0 v))) v [] := by
    rw [hskip]
    exact hreads
  rw [readWithin]
  · obtain ⟨_, hscan⟩ := hscan
    rw [readWholeWithin, hscan]
    rfl
  · exact hmark

theorem read_print (hstyle : style.Plain) (h : Fits allowed maxDepth v) :
    read (print style 0 v) = .ok v :=
  readWithin_legible (hstyle.legible allowed) h

/-- A value is read back from its text over several lines. -/
theorem read_indented (h : Fits allowed maxDepth v) : read (indented v) = .ok v :=
  read_print Style.plain_lines h

end ContractOps.Json
