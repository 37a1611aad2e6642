import ContractOps.Message.Platform
import ContractOps.Proofs.Message.Payload

/-!
# What the contract receives

An `Instruction` is an action of the platform contract together with the arguments that an operator
gives for it. The contract receives an object with one member, which is named after the action and
holds the arguments that are given (`payload_action`). An argument that is left out is not there at
all, and the others keep their names, so that the arguments can be told from what is there
(`given_inj`). So no two instructions are the same message (`message_eq_iff`).
-/

namespace ContractOps

/-- An action of the platform contract, with its arguments. -/
inductive Instruction where
  | deposit
  | withdraw (amount : Int) (recipient : Option String)
  | flip (side : Side)
  | claim
  | acceptAdminRole
  | updateConfig (admin worker : Option String) (bet : Option (Int × Int))
    (platformFee : Option String)
  | pause
  | unpause
deriving DecidableEq, Repr

theorem Side.name_injective : Function.Injective Side.name := by
  intro s t h
  cases s <;> cases t <;> first | rfl | exact absurd h (by decide)

namespace Instruction

/-- A text as an argument. -/
def text (s : String) : Json := .str s

/-- A text as an argument that may be left out. -/
def optional (s : Option String) : Json := (s.map text).getD .null

/-- The action that an operator asks for. -/
def action : Instruction → Action
  | deposit => .deposit
  | withdraw amount recipient => .withdraw (.int amount) (optional recipient)
  | flip side => .flip (.str side.name)
  | claim => .claim
  | acceptAdminRole => .acceptAdminRole
  | updateConfig admin worker bet platformFee =>
    .updateConfig (optional admin) (optional worker) (bet.map fun b => ⟨.int b.1, .int b.2⟩)
      (optional platformFee)
  | pause => .pause
  | unpause => .unpause

/-! ## What the contract takes -/

/-- The name that the contract has for an instruction. -/
def entry : Instruction → String
  | deposit => "deposit"
  | withdraw .. => "withdraw"
  | flip _ => "flip"
  | claim => "claim"
  | acceptAdminRole => "accept_admin_role"
  | updateConfig .. => "update_config"
  | pause => "pause"
  | unpause => "unpause"

/-- An integer as the contract takes it: its decimal notation, as a text. -/
def numeral (n : Int) : Json := text (Digits.text n)

/-- The bounds of a bet as the contract takes them. -/
def bounds (b : Int × Int) : Json := .obj [("min", numeral b.1), ("max", numeral b.2)]

/-- The names that the contract has for the arguments, in the order in which they are declared,
each with what is given for it. -/
def parameters : Instruction → List (WideText × Option Json)
  | withdraw amount recipient =>
    [("amount", some (numeral amount)), ("recipient", recipient.map text)]
  | flip side => [("side", some (text side.name))]
  | updateConfig admin worker bet platformFee =>
    [("admin", admin.map text), ("worker", worker.map text), ("bet", bet.map bounds),
      ("platform_fee", platformFee.map text)]
  | deposit | claim | acceptAdminRole | pause | unpause => []

/-- The parameters for which something is given. -/
def given (ps : List (WideText × Option Json)) : Members Json :=
  ps.filterMap fun p => p.2.map (p.1, ·)

/-- What the contract receives for an instruction. -/
def payload (i : Instruction) : Json := .obj [(i.entry, .obj (given i.parameters))]

/-- The values that arguments have: texts, and the bounds of a bet. -/
inductive IsArgument : Json → Prop
  | text (s : String) : IsArgument (text s)
  | bounds (b : Int × Int) : IsArgument (bounds b)

variable {i j : Instruction}

theorem payload_action (i : Instruction) : i.action.payload = .ok i.payload := by
  rcases i with _ | ⟨amount, _ | recipient⟩ | ⟨_ | _⟩ | _ | _ |
    ⟨_ | admin, _ | worker, _ | bet, _ | platformFee⟩ | _ | _ <;> rfl

/-! ## Given parameters -/

theorem mem_given {ps : List (WideText × Option Json)} {m : WideText × Json} :
    m ∈ given ps ↔ (m.1, some m.2) ∈ ps := by
  obtain ⟨name, v⟩ := m
  rw [given, List.mem_filterMap]
  constructor
  · rintro ⟨⟨name', v'⟩, hmem, hgiven⟩
    obtain ⟨w, rfl, hw⟩ := Option.map_eq_some_iff.mp hgiven
    cases hw
    exact hmem
  · intro hmem
    exact ⟨(name, some v), hmem, rfl⟩

theorem fst_mem_of_mem_given {ps : List (WideText × Option Json)} {m : WideText × Json}
    (h : m ∈ given ps) : m.1 ∈ ps.map Prod.fst :=
  List.mem_map_of_mem (f := Prod.fst) (mem_given.mp h)

theorem nodup_given {ps : List (WideText × Option Json)} (h : (ps.map Prod.fst).Nodup) :
    ((given ps).map Prod.fst).Nodup := by
  induction ps with
  | nil => exact List.nodup_nil
  | cons p ps ih =>
    obtain ⟨name, v⟩ := p
    obtain ⟨hname, hrest⟩ := List.nodup_cons.mp h
    cases v with
    | none => exact ih hrest
    | some v =>
      refine List.nodup_cons.mpr ⟨fun hmem => hname ?_, ih hrest⟩
      obtain ⟨m, hm, rfl⟩ := List.mem_map.mp hmem
      exact fst_mem_of_mem_given hm

/-- Under names that differ from each other, what is left out can be told from what is there. -/
theorem given_inj {ps qs : List (WideText × Option Json)}
    (hnames : ps.map Prod.fst = qs.map Prod.fst) (hnodup : (ps.map Prod.fst).Nodup)
    (h : given ps = given qs) : ps = qs := by
  induction ps generalizing qs with
  | nil => exact (List.map_eq_nil_iff.mp hnames.symm).symm
  | cons p ps ih =>
    cases qs with
    | nil => cases hnames
    | cons q qs =>
      obtain ⟨name, v⟩ := p
      obtain ⟨name', w⟩ := q
      simp only [List.map_cons, List.cons.injEq, List.nodup_cons] at hnames hnodup
      obtain ⟨rfl, hnames⟩ := hnames
      obtain ⟨hname, hnodup⟩ := hnodup
      -- what is given first on one side only would have to come later on the other one
      cases v with
      | none =>
        cases w with
        | none => rw [ih hnames hnodup h]
        | some w =>
          have hlater : (name, w) ∈ given ps := h ▸ List.mem_cons_self
          exact absurd (fst_mem_of_mem_given hlater) hname
      | some v =>
        cases w with
        | none =>
          have hlater : (name, v) ∈ given qs := h ▸ List.mem_cons_self
          exact absurd (hnames ▸ fst_mem_of_mem_given hlater) hname
        | some w =>
          obtain ⟨hv, hrest⟩ := List.cons.inj h
          cases hv
          rw [ih hnames hnodup hrest]

/-! ## Parameters of instructions -/

theorem nodup_parameters (i : Instruction) : (i.parameters.map Prod.fst).Nodup := by
  cases i <;> simp only [parameters, List.map_cons, List.map_nil] <;> decide

/-- Instructions of one name have parameters of the same names. -/
theorem map_fst_parameters (h : i.entry = j.entry) :
    i.parameters.map Prod.fst = j.parameters.map Prod.fst := by
  cases i <;> cases j <;> first | rfl | exact absurd h (by simp [entry])

theorem isArgument_parameters (i : Instruction) :
    ∀ p ∈ i.parameters, ∀ v ∈ p.2, IsArgument v := by
  have htext : ∀ s : Option String, ∀ v ∈ s.map text, IsArgument v := by
    rintro (_ | s) v hv <;> cases hv
    exact .text s
  have hbounds : ∀ b : Option (Int × Int), ∀ v ∈ b.map bounds, IsArgument v := by
    rintro (_ | b) v hv <;> cases hv
    exact .bounds b
  cases i with
  | withdraw amount recipient =>
    exact List.forall_mem_cons.mpr
      ⟨htext (some _), List.forall_mem_singleton.mpr (htext recipient)⟩
  | flip side => exact List.forall_mem_singleton.mpr (htext (some _))
  | updateConfig admin worker bet platformFee =>
    exact List.forall_mem_cons.mpr ⟨htext admin, List.forall_mem_cons.mpr ⟨htext worker,
      List.forall_mem_cons.mpr ⟨hbounds bet, List.forall_mem_singleton.mpr (htext platformFee)⟩⟩⟩
  | deposit | claim | acceptAdminRole | pause | unpause => exact List.forall_mem_nil _

theorem spelled_parameters (i : Instruction) : ∀ p ∈ i.parameters, Json.Spelled p.1 := by
  cases i <;> simp [parameters]

/-- An instruction is its name and its parameters. -/
theorem eq_of_parameters (hentry : i.entry = j.entry) (h : i.parameters = j.parameters) :
    i = j := by
  have htext : Function.Injective text := fun s t h => by
    simpa only [text, Json.str.injEq, WideText.ofString_inj] using h
  have hnumeral : Function.Injective numeral := fun n m h => Json.text_inj.mp (htext h)
  have hbounds : Function.Injective bounds := fun b c h => by
    simp only [bounds, Json.obj.injEq, List.cons.injEq, Prod.mk.injEq, true_and, and_true] at h
    exact Prod.ext (hnumeral h.1) (hnumeral h.2)
  cases i <;> cases j <;> simp only [entry, String.reduceEq] at hentry <;>
    simp only [parameters, List.cons.injEq, Prod.mk.injEq, Option.some.injEq, true_and, and_true]
      at h
  case deposit.deposit | claim.claim | acceptAdminRole.acceptAdminRole | pause.pause |
      unpause.unpause =>
    rfl
  case withdraw.withdraw =>
    rw [hnumeral h.1, Option.map_injective htext h.2]
  case flip.flip =>
    rw [Side.name_injective (htext h)]
  case updateConfig.updateConfig =>
    obtain ⟨hadmin, hworker, hbet, hfee⟩ := h
    rw [Option.map_injective htext hadmin, Option.map_injective htext hworker,
      Option.map_injective hbounds hbet, Option.map_injective htext hfee]

/-! ## Payloads -/

theorem IsArgument.fits {v : Json} (h : IsArgument v) (levels : Nat) :
    v.Fits Json.Spelled (levels + 1) := by
  cases h with
  | text s => exact .str (Json.spelled_ofString s)
  | bounds b =>
    refine .obj (by simp only [List.map_cons, List.map_nil]; decide) ?_ ?_
    · exact List.forall_mem_cons.mpr
        ⟨Json.spelled_ofString _, List.forall_mem_singleton.mpr (Json.spelled_ofString _)⟩
    · exact List.forall_mem_cons.mpr ⟨.str (Json.spelled_ofString _),
        List.forall_mem_singleton.mpr (.str (Json.spelled_ofString _))⟩

theorem isArgument_given (i : Instruction) : ∀ m ∈ given i.parameters, IsArgument m.2 :=
  fun m hm => isArgument_parameters i (m.1, some m.2) (mem_given.mp hm) m.2 rfl

theorem fits_payload (i : Instruction) (levels : Nat) :
    i.payload.Fits Json.Spelled (levels + 3) := by
  have hgiven : (Json.obj (given i.parameters)).Fits Json.Spelled (levels + 2) :=
    .obj (nodup_given (nodup_parameters i))
      (fun m hm => spelled_parameters i (m.1, some m.2) (mem_given.mp hm))
      (fun m hm => (isArgument_given i m hm).fits levels)
  exact .obj (List.nodup_singleton _) (List.forall_mem_singleton.mpr (Json.spelled_ofString _))
    (List.forall_mem_singleton.mpr hgiven)

theorem payload_inj : i.payload = j.payload ↔ i = j := by
  refine ⟨fun h => ?_, fun h => h ▸ rfl⟩
  simp only [payload, Json.obj.injEq, List.cons.injEq, Prod.mk.injEq, WideText.ofString_inj,
    and_true] at h
  obtain ⟨hentry, hgiven⟩ := h
  exact eq_of_parameters hentry
    (given_inj (map_fst_parameters hentry) (nodup_parameters i) hgiven)

/-! ## Messages -/

theorem message_action (sender contract : String) (i : Instruction) :
    i.action.message (.str sender) (.str contract) =
      .ok { sender, contract, payload := Message.payload i.payload, funds := [] } := by
  rw [Action.message, payload_action, except_ok_bind, Execution.compose]
  simp only [Message.textField_ofString]
  rfl

/-- For every instruction the contract receives an object with one member, named after the action.
In it are the arguments that are given, each as a text or as the bounds of a bet, and no others.
Instructions that differ are different messages. -/
theorem message_eq_iff (sender contract : String) :
    (∀ i : Instruction, ∃ octets,
      i.action.message (.str sender) (.str contract) =
        .ok { sender, contract, payload := octets, funds := [] } ∧
      Execution.decodePayload octets = .ok (.obj [(i.entry, .obj (given i.parameters))]) ∧
      ∀ m ∈ given i.parameters, IsArgument m.2) ∧
    ∀ i j : Instruction,
      i.action.message (.str sender) (.str contract) =
        j.action.message (.str sender) (.str contract) ↔ i = j := by
  constructor
  · intro i
    exact ⟨Message.payload i.payload, message_action sender contract i,
      Execution.decodePayload_payload (i.fits_payload 985), isArgument_given i⟩
  · intro i j
    rw [message_action, message_action, ← payload_inj,
      ← Execution.payload_inj (i.fits_payload 0) (j.fits_payload 0)]
    simp

end Instruction

end ContractOps
