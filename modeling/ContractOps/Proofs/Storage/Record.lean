import ContractOps.Proofs.Config.Saved
import ContractOps.Proofs.Storage.Correlation
import ContractOps.Proofs.Tx.CodeIds
import ContractOps.Proofs.Workspace.Contents
import ContractOps.Storage.Record

/-!
# What a record holds after a run

The digests and the code ids of a record are tables, and a run adds to both of them
(`updateRecord_eq_ok`). A label that the run stored has the code id there that it has in the
configuration, and every other label has the one that it had before (`get?_withEntries`). So the
table of code ids goes on agreeing with the contracts (`Course.Holds.agree`). Records of different
chains lie in different files (`name_recordPath_inj`).
-/

namespace ContractOps

/-! ## Tables that are alike -/

namespace Toml.Value

/-- Values that differ at most in the order of the members of their tables. -/
inductive Alike : Value → Value → Prop
  | refl (v : Value) : Alike v v
  | list {items items' : List Value} :
    items.length = items'.length →
    (∀ (i : Nat) v v', items[i]? = some v → items'[i]? = some v' → Alike v v') →
    Alike (.list items) (.list items')
  | table {members members' : Table} :
    (∀ name, (members.get? name).isSome = (members'.get? name).isSome) →
    (∀ name v v', members.get? name = some v → members'.get? name = some v' → Alike v v') →
    Alike (.table members) (.table members')

variable {record record' : Table} {name : WideText} {v v' : Value}

/-- What one table has under a name, the other one has. -/
theorem Alike.exists_right (h : Alike (.table record) (.table record'))
    (hv : record.get? name = some v) : ∃ v', record'.get? name = some v' ∧ Alike v v' := by
  cases h with
  | refl => exact ⟨v, hv, .refl v⟩
  | table hnames hvalues =>
    have hsome : (record'.get? name).isSome := by simp [← hnames, hv]
    obtain ⟨v', hv'⟩ := Option.isSome_iff_exists.mp hsome
    exact ⟨v', hv', hvalues name v v' hv hv'⟩

theorem Alike.exists_left (h : Alike (.table record) (.table record'))
    (hv : record'.get? name = some v') : ∃ v, record.get? name = some v ∧ Alike v v' := by
  cases h with
  | refl => exact ⟨v', hv, .refl v'⟩
  | table hnames hvalues =>
    have hsome : (record.get? name).isSome := by simp [hnames, hv]
    obtain ⟨v, hv'⟩ := Option.isSome_iff_exists.mp hsome
    exact ⟨v, hv', hvalues name v v' hv' hv⟩

theorem Alike.exists_table {ms : Table} (h : Alike (.table record) (.table record'))
    (hms : record.get? name = some (.table ms)) :
    ∃ ms', record'.get? name = some (.table ms') ∧ Alike (.table ms) (.table ms') := by
  obtain ⟨v, hv, halike⟩ := h.exists_right hms
  cases halike with
  | refl => exact ⟨ms, hv, .refl _⟩
  | table hnames hvalues => exact ⟨_, hv, .table hnames hvalues⟩

/-- Whether two values are the same, as far as texts, numbers and the members of tables up to a
depth show it. -/
def same : Nat → Value → Value → Bool
  | _, .text s, .text s' => s == s'
  | _, .int n, .int n' => n == n'
  | depth + 1, .table ms, .table ms' =>
    ms.isEqv ms' fun m m' => m.1 == m'.1 && same depth m.2 m'.2
  | _, _, _ => false

theorem eq_of_isEqv {α : Type} {eqv : α → α → Bool} (heqv : ∀ a b, eqv a b = true → a = b)
    {as bs : List α} (h : as.isEqv bs eqv = true) : as = bs := by
  induction as generalizing bs with
  | nil =>
    cases bs with
    | nil => rfl
    | cons b bs => cases h
  | cons a as ih =>
    cases bs with
    | nil => cases h
    | cons b bs =>
      obtain ⟨hhead, htail⟩ := Bool.and_eq_true_iff.mp h
      rw [heqv a b hhead, ih htail]

theorem eq_of_same {depth : Nat} (h : same depth v v' = true) : v = v' := by
  fun_induction same depth v v' with
  | case1 s s' => rw [beq_iff_eq.mp h]
  | case2 n n' => rw [beq_iff_eq.mp h]
  | case3 depth ms ms' ih =>
    refine congrArg Value.table (eq_of_isEqv (fun m m' hm => ?_) h)
    obtain ⟨hname, hvalue⟩ := Bool.and_eq_true_iff.mp hm
    exact Prod.ext (beq_iff_eq.mp hname) (ih m m' hvalue)
  | case4 => cases h

theorem Alike.of_same {depth : Nat} (h : same depth v v' = true) : Alike v v' := by
  rw [eq_of_same h]
  exact .refl v'

end Toml.Value

namespace Storage

variable {σ : Type}

/-! ## Tables -/

/-- Puts entries into a table. -/
def withEntries (entries : List (WideText × Toml.Value)) (ms : Toml.Table) : Toml.Table :=
  entries.foldl (fun ms entry => ms.put entry.1 entry.2) ms

/-- The table of a record under a name. A table that is missing is empty. -/
def tableOf? (name : WideText) (record : Toml.Table) : Option Toml.Table :=
  ((record.get? name).getD (.table [])).table?

theorem extend_eq {name : WideText} {entries : List (WideText × Toml.Value)}
    {record ms : Toml.Table} (h : tableOf? name record = some ms) :
    extend name entries record = .ok (record.put name (.table (withEntries entries ms))) := by
  rw [tableOf?] at h
  rw [extend]
  cases hvalue : (record.get? name).getD (.table []) with
  | table found =>
    rw [hvalue] at h
    cases h
    rfl
  | _ =>
    rw [hvalue] at h
    cases h

theorem tableOf?_put_of_ne {name other : WideText} (record : Toml.Table) (value : Toml.Value)
    (h : other ≠ name) : tableOf? other (record.put name value) = tableOf? other record := by
  rw [tableOf?, tableOf?, Members.get?_put_of_ne record value h]

/-- The code ids of an outcome as entries of a record. -/
def codeIdEntries (o : Outcome) : List (WideText × Toml.Value) :=
  o.codeIds.map fun p => (p.1.display, .int p.2)

/-- A record whose digests and code ids are tables takes the results of a run. -/
theorem updateRecord_eq_ok (chainId : WideText) (now : Moment) (o : Outcome)
    {record sums codeIds : Toml.Table} (hsums : tableOf? "checksums" record = some sums)
    (hcodeIds : tableOf? "code-ids" record = some codeIds) :
    ∃ record' sums', updateRecord chainId now o record = .ok record' ∧
      record'.get? "checksums" = some (.table sums') ∧
      record'.get? "code-ids" = some (.table (withEntries (codeIdEntries o) codeIds)) := by
  let noted := record.put "info" (runInfo chainId now o.txHash)
  let entries := o.checksums.map fun p => (p.1.display, Toml.Value.text p.2)
  let summed := noted.put "checksums" (.table (withEntries entries sums))
  have hnoted : tableOf? "checksums" noted = some sums := by
    rw [tableOf?_put_of_ne record _ (by decide), hsums]
  have hsummed : tableOf? "code-ids" summed = some codeIds := by
    rw [tableOf?_put_of_ne noted _ (by decide), tableOf?_put_of_ne record _ (by decide), hcodeIds]
  refine ⟨summed.put "code-ids" (.table (withEntries (codeIdEntries o) codeIds)),
    withEntries entries sums, ?_, ?_, ?_⟩
  · show (extend "checksums" entries noted >>= extend "code-ids" (codeIdEntries o)) = _
    rw [extend_eq hnoted]
    exact extend_eq hsummed
  · rw [Members.get?_put_of_ne summed _ (by decide), Members.get?_put_self]
  · rw [Members.get?_put_self]

/-! ## Code ids of labels -/

/-- What the record says of a label is what the configuration is assigned, or what it said
before. -/
theorem get?_withEntries (codeIds : List (Json × Int))
    (htexts : ∀ p ∈ codeIds, ∃ s, p.1 = .str s) (ms : Toml.Table) (label : WideText) :
    let assigned : Config.CodeIds.Assignment := codeIds.map fun p => (p.1, .int p.2)
    let after := withEntries (codeIds.map fun p => (p.1.display, .int p.2)) ms
    (∃ n, assigned.get? (.str label) = some (.int n) ∧ after.get? label = some (.int n)) ∨
      assigned.get? (.str label) = none ∧ after.get? label = ms.get? label := by
  induction codeIds generalizing ms with
  | nil => exact .inr ⟨rfl, rfl⟩
  | cons entry rest ih =>
    obtain ⟨first, codeId⟩ := entry
    obtain ⟨s, rfl⟩ : ∃ s, first = .str s := htexts _ List.mem_cons_self
    intro assigned after
    have hrest := ih (fun p hp => htexts p (List.mem_cons_of_mem _ hp)) (ms.put s (.int codeId))
    have hafter : after.get? label = (withEntries (rest.map fun p => (p.1.display, .int p.2))
        (ms.put s (.int codeId))).get? label := rfl
    rw [hafter]
    dsimp only [assigned]
    rw [List.map_cons, Config.CodeIds.Assignment.get?]
    rcases hrest with ⟨n, hassigned, hvalue⟩ | ⟨hassigned, hvalue⟩
    · rw [hassigned]
      exact .inl ⟨n, rfl, hvalue⟩
    · rw [hassigned, hvalue]
      by_cases hlabel : label = s
      · rw [hlabel, Members.get?_put_self]
        exact .inl ⟨codeId, by simp, rfl⟩
      · rw [Members.get?_put_of_ne ms _ hlabel]
        refine .inr ⟨?_, rfl⟩
        simpa using Ne.symm hlabel

/-! ## Records and contracts -/

/-- Every label of the table is that of a contract, and all contracts that have it have the code id
of the table. -/
def Agree (codeIds : Toml.Table) (contracts : List Json) : Prop :=
  ∀ label value, codeIds.get? label = some value →
    ∃ n, value = .int n ∧ (∃ contract ∈ contracts, contract.member "LABEL" = .ok (.str label)) ∧
      ∀ contract ∈ contracts, contract.member "LABEL" = .ok (.str label) →
        contract.member "CODE" = .ok (.int n)

theorem agree_empty (contracts : List Json) : Agree [] contracts := by
  intro label value h
  cases h

section

variable {compress : Compressor} {address : Except Fault Json} {config chainId : Json}
  {labels : List WideText} {c : Course}

theorem Course.Holds.texts (h : c.Holds compress address config chainId labels) :
    ∀ p ∈ c.codeIds, ∃ s, p.1 = .str s := by
  intro p hp
  have hassigned : (p.1, Json.int p.2) ∈ c.assigned := List.mem_map_of_mem hp
  obtain ⟨_, _, label, _, _, _, _, _, heq⟩ := h.mem_assigned hassigned
  exact ⟨label, (Prod.mk.inj heq).1⟩

/-- A label that was assigned a code id is that of a contract. -/
theorem Course.Holds.exists_contract (h : c.Holds compress address config chainId labels)
    {label : WideText} {codeId : Json} (hassigned : c.assigned.get? (.str label) = some codeId) :
    ∃ contract ∈ c.contracts, contract.member "LABEL" = .ok (.str label) := by
  obtain ⟨p, hp, hsame, _⟩ := Config.CodeIds.Assignment.mem_of_get? hassigned
  obtain ⟨i, contract, text, n, hcontract, _, hlabel, _, rfl⟩ := h.mem_assigned hp
  cases Json.same_str_right.mp hsame
  exact ⟨contract, List.mem_of_mem_filter (List.mem_of_getElem? hcontract), hlabel⟩

/-- Agreement outlasts a run: of the table with the new code ids, and of the contracts with them. -/
theorem Course.Holds.agree (h : c.Holds compress address config chainId labels)
    {codeIds : Toml.Table} (hagree : Agree codeIds c.contracts) :
    Agree (withEntries (codeIdEntries (c.outcome config chainId)) codeIds)
      (c.contracts.map (Config.CodeIds.recodeContract c.assigned)) := by
  intro label value hvalue
  rcases get?_withEntries c.codeIds h.texts codeIds label with ⟨n, hassigned, hafter⟩ |
    ⟨hassigned, hafter⟩
  · -- a label that was stored
    cases hafter.symm.trans hvalue
    obtain ⟨contract, hmem, hlabel⟩ := h.exists_contract hassigned
    refine ⟨n, rfl, ⟨_, List.mem_map_of_mem hmem, ?_⟩, ?_⟩
    · rw [Config.CodeIds.label_recodeContract, hlabel]
    · intro recoded hrecoded hlabel'
      obtain ⟨other, _, rfl⟩ := List.mem_map.mp hrecoded
      rw [Config.CodeIds.label_recodeContract] at hlabel'
      exact Config.CodeIds.member_recodeContract hlabel' hassigned
  · -- a label of an earlier run
    obtain ⟨n, rfl, ⟨contract, hmem, hlabel⟩, hall⟩ := hagree label value (hafter.symm.trans hvalue)
    refine ⟨n, rfl, ⟨_, List.mem_map_of_mem hmem, ?_⟩, ?_⟩
    · rw [Config.CodeIds.label_recodeContract, hlabel]
    · intro recoded hrecoded hlabel'
      obtain ⟨other, hother, rfl⟩ := List.mem_map.mp hrecoded
      rw [Config.CodeIds.label_recodeContract] at hlabel'
      have hkept : Config.CodeIds.recodeContract c.assigned other = other :=
        Config.CodeIds.recodeContract_of_get?_eq_none hlabel' hassigned
      rw [hkept]
      exact hall other hother hlabel'

/-- The order of the table does not matter. -/
theorem Agree.alike {codeIds codeIds' : Toml.Table} {contracts : List Json}
    (h : Agree codeIds contracts) (halike : Toml.Value.Alike (.table codeIds) (.table codeIds')) :
    Agree codeIds' contracts := by
  intro label value hvalue
  obtain ⟨before, hbefore, hsame⟩ := halike.exists_left hvalue
  obtain ⟨n, rfl, hrest⟩ := h label before hbefore
  cases hsame with
  | refl => exact ⟨n, rfl, hrest⟩

/-- A run puts every label that it was asked for into the table. -/
theorem Course.Holds.mem_table (h : c.Holds compress address config chainId labels)
    (codeIds : Toml.Table) {label : WideText} (hlabel : label ∈ labels) :
    ∃ value, (withEntries (codeIdEntries (c.outcome config chainId)) codeIds).get? label =
      some value := by
  obtain ⟨contract, hcontract, hmember⟩ := exists_labelled h.contracts h.known hlabel
  have hasked : contract ∈ c.contracts.filter (asked labels) :=
    List.mem_filter.mpr ⟨hcontract, (asked_iff labels contract).mpr ⟨label, hlabel, hmember⟩⟩
  rw [← h.requested, Course.batch, List.map_map] at hasked
  obtain ⟨t, ht, rfl⟩ := List.mem_map.mp hasked
  have hstored : Json.str label ∈ c.codeIds.map Prod.fst := by
    rw [Course.codeIds, map_fst_correlate, Course.batch, List.map_map]
    refine List.mem_map.mpr ⟨t, ht, ?_⟩
    exact Except.ok.inj ((h.packs t ht).label.symm.trans hmember)
  obtain ⟨p, hp, hfirst⟩ := List.mem_map.mp hstored
  obtain ⟨codeId, hcodeId⟩ := Config.CodeIds.Assignment.exists_get?
    (List.mem_map_of_mem hp : (p.1, Json.int p.2) ∈ c.assigned) (Json.same_str_right.mpr hfirst)
  rcases get?_withEntries c.codeIds h.texts codeIds label with ⟨n, _, hafter⟩ | ⟨hnone, _⟩
  · exact ⟨_, hafter⟩
  · cases hnone.symm.trans hcodeId

/-- What is in the table stays in it. -/
theorem exists_get?_withEntries (entries : List (WideText × Toml.Value)) {ms : Toml.Table}
    {label : WideText} {value : Toml.Value} (h : ms.get? label = some value) :
    ∃ value', (withEntries entries ms).get? label = some value' := by
  induction entries generalizing ms value with
  | nil => exact ⟨value, h⟩
  | cons entry rest ih =>
    by_cases hlabel : label = entry.1
    · have hput : (ms.put entry.1 entry.2).get? label = some entry.2 := by
        rw [hlabel, Members.get?_put_self]
      exact ih hput
    · exact ih ((Members.get?_put_of_ne ms entry.2 hlabel).trans h)

/-- The code ids of a run keep a configuration within the bounds of the reader. -/
theorem Course.Holds.codesFit (h : c.Holds compress address config chainId labels)
    (allowed : WideText → Prop) : Config.CodesFit allowed c.assigned := by
  intro p hp levels
  obtain ⟨entry, hentry, rfl⟩ := List.mem_map.mp hp
  obtain ⟨i, hi⟩ := List.mem_iff_getElem?.mp hentry
  rw [Course.codeIds, getElem?_correlate] at hi
  obtain ⟨label, _, rfl⟩ := Option.map_eq_some_iff.mp hi
  refine .int ?_
  cases hextracted : c.extracted[i]? with
  | none => exact TxResult.short_zero
  | some n => exact TxResult.short_of_codeIds h.extracted n (List.mem_of_getElem? hextracted)

end

/-! ## Records of a workspace -/

/-- Before the first run the record is empty. -/
theorem loadRecord_of_contents {w : Workspace} {path : WideText} (hwritable : w.Writable path)
    (h : w.contents path = none) : loadRecord w path = .ok [] := by
  rw [loadRecord, hwritable.has_eq, h]
  rfl

/-- The tables that are loaded depend on the octets of the file alone. -/
theorem exists_read_of_loadTables {w : Workspace} {path : WideText} {record : Toml.Table}
    (h : Config.loadTables w path = .ok record) :
    ∃ bytes, w.read path = .ok bytes ∧
      ∀ w' : Workspace, w'.read path = .ok bytes → Config.loadTables w' path = .ok record := by
  obtain ⟨chars, hchars, htables⟩ := except_bind_eq_ok.mp h
  obtain ⟨bytes, hread, hdecode⟩ := except_bind_eq_ok.mp hchars
  refine ⟨bytes, hread, fun w' hread' => ?_⟩
  exact except_bind_eq_ok.mpr ⟨chars, except_bind_eq_ok.mpr ⟨bytes, hread', hdecode⟩, htables⟩

theorem loadTables_of_leaves {w w' : Workspace} {path : WideText} {record : Toml.Table}
    (hleaves : Workspace.Leaves w w' path) (h : Config.loadTables w path = .ok record) :
    Config.loadTables w' path = .ok record := by
  obtain ⟨bytes, hread, hload⟩ := exists_read_of_loadTables h
  exact hload w' (hleaves.read bytes hread)

/-- A record that was written is loaded. -/
theorem loadTables_put {w : Workspace} {path : WideText} {record : Toml.Table} {text : List Char}
    (h : w.Writable path) (hrecord : Config.tablesOf (Text.unifyLines text) = .ok record) :
    Config.loadTables (w.put path (Utf8.encode text)) path = .ok record := by
  rw [Config.loadTables, Workspace.readText_of_read (h.read_put _)]
  exact hrecord

/-- A record that is there is loaded. -/
theorem loadRecord_of_loadTables {w : Workspace} {path : WideText} {record : Toml.Table}
    (h : Config.loadTables w path = .ok record) : loadRecord w path = .ok record := by
  obtain ⟨bytes, hread, _⟩ := exists_read_of_loadTables h
  have hwritable : w.Writable path := Workspace.writable_of_read hread
  have hcontents : w.contents path = some bytes := (Workspace.read_eq_ok.mp hread).2.2
  rw [loadRecord, hwritable.has_eq, hcontents]
  exact h

/-! ## Names of records -/

/-- A chain id without slashes. -/
def SlashFree (chainId : String) : Prop := '/' ∉ chainId.toList

/-- The name of the file in which the record of a chain is kept. -/
def fileName (chainId : String) : WideText := WideText.ofString chainId ++ ".toml"

theorem fileName_inj {chainId other : String} (h : fileName chainId = fileName other) :
    chainId = other :=
  WideText.ofString_inj.mp (List.append_cancel_right h)

theorem slash_not_mem_fileName {chainId : String} (h : SlashFree chainId) :
    CodePoint.char '/' ∉ fileName chainId := by
  intro hmem
  rcases List.mem_append.mp hmem with hmem | hmem
  · obtain ⟨c, hc, heq⟩ := List.mem_map.mp hmem
    cases heq
    exact h hc
  · exact absurd hmem (by decide)

theorem five_le_length_fileName (chainId : String) : 5 ≤ (fileName chainId).length := by
  rw [fileName, List.length_append]
  exact Nat.le_add_left 5 _

theorem walk_fileName (start : List WideText) (chainId : String) :
    Path.walk start [fileName chainId] = start ++ [fileName chainId] := by
  have hlong := five_le_length_fileName chainId
  have hne : ∀ other : WideText, other.length < 5 → fileName chainId ≠ other := by
    rintro other hshort rfl
    omega
  exact Path.walk_part start (hne [] (by decide)) (hne "." (by decide)) (hne ".." (by decide))

/-- The records of all chains lie in one folder, under their file names. -/
theorem exists_folder (folder : WideText) :
    ∃ base, ∀ chainId : String, SlashFree chainId →
      Path.name (recordPath folder chainId) = base ++ [fileName chainId] := by
  have hbehind : ∀ (front : WideText) {chainId : String}, SlashFree chainId →
      Path.name (front ++ .char '/' :: fileName chainId) =
        Path.walk [] (Path.parts front) ++ [fileName chainId] := by
    intro front chainId hfree
    rw [Path.name, Path.parts, Text.split_append_separator,
      Text.split_of_not_mem (slash_not_mem_fileName hfree), Path.walk_append, walk_fileName]
    rfl
  have hjoin : ∀ {chainId : String}, SlashFree chainId → recordPath folder chainId =
      if folder.isEmpty || folder.getLast? = some (.char '/') then folder ++ fileName chainId
      else folder ++ .char '/' :: fileName chainId := by
    intro chainId hfree
    have hhead : (fileName chainId).head? ≠ some (.char '/') := by
      intro hhead
      exact slash_not_mem_fileName hfree (List.mem_of_mem_head? hhead)
    rw [recordPath, Path.join]
    change (if (fileName chainId).head? = some (.char '/') then _ else _ : WideText) = _
    rw [if_neg hhead]
    split
    · rfl
    · exact List.append_assoc folder _ _
  rcases List.eq_nil_or_concat folder with rfl | ⟨front, last, rfl⟩
  · refine ⟨[], fun chainId hfree => ?_⟩
    rw [hjoin hfree, Path.name, Path.parts]
    show Path.walk [] (Text.split (.char '/') (fileName chainId)) = _
    rw [Text.split_of_not_mem (slash_not_mem_fileName hfree), walk_fileName]
  · by_cases hlast : last = .char '/'
    · refine ⟨Path.walk [] (Path.parts front), fun chainId hfree => ?_⟩
      rw [hjoin hfree, if_pos (by simp [hlast]), hlast, List.concat_eq_append, List.append_assoc]
      exact hbehind front hfree
    · refine ⟨Path.walk [] (Path.parts (front.concat last)), fun chainId hfree => ?_⟩
      rw [hjoin hfree, if_neg (by simp [hlast])]
      exact hbehind (front.concat last) hfree

/-- Different chains have different records. -/
theorem name_recordPath_inj {folder : WideText} {chainId other : String} (hfree : SlashFree chainId)
    (hfree' : SlashFree other)
    (h : Path.name (recordPath folder chainId) = Path.name (recordPath folder other)) :
    chainId = other := by
  obtain ⟨base, hbase⟩ := exists_folder folder
  rw [hbase chainId hfree, hbase other hfree'] at h
  exact fileName_inj (List.cons.inj (List.append_cancel_left h)).1

end Storage

end ContractOps
