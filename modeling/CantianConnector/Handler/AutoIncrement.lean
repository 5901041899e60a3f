import Mathlib.Data.Nat.ModEq

/-!
# Auto-increment values

The engine hands out the auto-increment values of a table. A request carries the session's
`auto_increment_increment` and `auto_increment_offset` as step and offset in a `dml_flag_t`, which
three functions fill in: `ctc_get_dml_flag` for the rows that are written, `update_create_info`,
and `ha_ctcpart::get_auto_increment`, which has the two the other way round. A run of requests
follows the sequences of its sessions exactly if no request of the last kind tells the two apart
(`autoIncRight_iff`).
-/

namespace CantianConnector.Handler

/-! ## Sessions and flags -/

/-- What the functions below read of a `THD`. The server keeps the two variables in the range of
their 16-bit fields. -/
structure Thd where
  lexIgnore : Bool
  optionNoForeignKeyChecks : Bool
  optionDdUpdateContext : Bool
  subStmtTrigger : Bool
  /-- `is_create_table_check`. -/
  createSelect : Bool
  autoIncrementIncrement : Nat
  autoIncrementOffset : Nat
  increment_pos : 0 < autoIncrementIncrement
  increment_lt : autoIncrementIncrement < 2 ^ 16
  offset_lt : autoIncrementOffset < 2 ^ 16

/-- `dml_flag_t`. -/
structure DmlFlag where
  ignore : Bool
  noForeignKeyCheck : Bool
  noCascadeCheck : Bool
  ddUpdate : Bool
  isReplace : Bool
  dupUpdate : Bool
  noLogging : Bool
  autoIncUsed : Bool
  hasExplicitAutoinc : Bool
  autoIncrease : Bool
  autoincLockMode : Nat
  autoIncStep : Nat
  autoIncOffset : Nat
  writeThrough : Bool
  isCreateSelect : Bool
deriving DecidableEq, Repr

/-- A value in the 16 bits of its field. -/
def DmlFlag.field16 (n : Nat) : Nat := n % 2 ^ 16

/-- The step and the offset of a request. -/
def DmlFlag.pair (flag : DmlFlag) : Nat × Nat := (flag.autoIncStep, flag.autoIncOffset)

/-- The step and the offset that the session has set. -/
def Thd.pair (thd : Thd) : Nat × Nat := (thd.autoIncrementIncrement, thd.autoIncrementOffset)

/-! ## The functions -/

/-- `ctc_get_dml_flag`; `flag` is the local variable before it is filled in. -/
def ctcGetDmlFlag (flag : DmlFlag) (ctcAutoincLockMode : Nat) (thd : Thd)
    (isReplace autoIncUsed hasExplicitAutoinc dupUpdate : Bool) : DmlFlag :=
  { flag with
    ignore := thd.lexIgnore
    noForeignKeyCheck := thd.optionNoForeignKeyChecks
    noCascadeCheck := false
    ddUpdate := thd.optionDdUpdateContext
    isReplace := isReplace
    noLogging := thd.subStmtTrigger
    autoIncUsed := autoIncUsed
    hasExplicitAutoinc := hasExplicitAutoinc
    autoincLockMode := ctcAutoincLockMode % 2 ^ 2
    dupUpdate := dupUpdate
    autoIncStep := DmlFlag.field16 thd.autoIncrementIncrement
    autoIncOffset := DmlFlag.field16 thd.autoIncrementOffset
    autoIncrease := false
    isCreateSelect := thd.createSelect }

/-- The flag of `ha_ctcpart::get_auto_increment`. -/
def getAutoIncrementFlag (flag : DmlFlag) (thd : Thd) : DmlFlag :=
  { flag with
    autoIncOffset := DmlFlag.field16 thd.autoIncrementIncrement
    autoIncStep := DmlFlag.field16 thd.autoIncrementOffset
    autoIncrease := true }

/-- The flag of `ha_ctc::update_create_info`. -/
def updateCreateInfoFlag (flag : DmlFlag) (thd : Thd) : DmlFlag :=
  let autoIncStep := DmlFlag.field16 thd.autoIncrementIncrement
  let autoIncOffset := DmlFlag.field16 thd.autoIncrementOffset
  { flag with autoIncOffset, autoIncStep, autoIncrease := false }

/-- `ctc_get_serial_value` copies three fields into its request. -/
def serialRequestFlag (request flag : DmlFlag) : DmlFlag :=
  { request with
    autoIncStep := flag.autoIncStep
    autoIncOffset := flag.autoIncOffset
    autoIncrease := flag.autoIncrease }

/-- The engine: the id of a row that is written without a value of its own, and a serial value. -/
structure SerialEngine (σ : Type) where
  ctcWriteRow : σ → Nat → DmlFlag → Except Int Nat × σ
  ctcGetSerialValue : σ → Nat → DmlFlag → Except Int Nat × σ

/-- A call that makes a request for a table with an AUTO_INCREMENT column. -/
inductive SerialOp where
  /-- `ha_ctc::write_row`, also below `ha_ctcpart`, after `handle_auto_increment`. -/
  | writeRow (hasExplicitAutoinc writeThrough : Bool)
  | getAutoIncrement
  | updateCreateInfo
deriving DecidableEq, Repr

/-- A call by a session; `flag` and `request` are the memory that the flag is built in. -/
structure SerialCall where
  thd : Thd
  table : Nat
  op : SerialOp
  flag : DmlFlag
  request : DmlFlag

/-- The flag that reaches the engine. -/
def SerialCall.sentFlag (ctcAutoincLockMode : Nat) (call : SerialCall) : DmlFlag :=
  match call.op with
  | .writeRow hasExplicitAutoinc writeThrough =>
    { ctcGetDmlFlag call.flag ctcAutoincLockMode call.thd false true hasExplicitAutoinc false with
      writeThrough }
  | .getAutoIncrement => serialRequestFlag call.request (getAutoIncrementFlag call.flag call.thd)
  | .updateCreateInfo => serialRequestFlag call.request (updateCreateInfoFlag call.flag call.thd)

/-- Does the call reserve a value for a row? -/
def SerialCall.reserves (call : SerialCall) : Bool :=
  match call.op with
  | .writeRow hasExplicitAutoinc _ => !hasExplicitAutoinc
  | .getAutoIncrement => true
  | .updateCreateInfo => false

section

variable {σ : Type} (ctcAutoincLockMode : Nat) (engine : SerialEngine σ)

/-- The engine's answer to a call. -/
def SerialCall.answer (s : σ) (call : SerialCall) : Except Int Nat × σ :=
  let flag := call.sentFlag ctcAutoincLockMode
  match call.op with
  | .writeRow _ _ => engine.ctcWriteRow s call.table flag
  | .getAutoIncrement => engine.ctcGetSerialValue s call.table flag
  | .updateCreateInfo => engine.ctcGetSerialValue s call.table flag

/-- A call: the value that it reserves, if the engine answers with one. -/
def serialStep (s : σ) (call : SerialCall) : Option Nat × σ :=
  let (answer, s) := call.answer ctcAutoincLockMode engine s
  (if call.reserves then answer.toOption else none, s)

/-- The calls of a run with the values that they reserve. -/
def serialRun : σ → List SerialCall → List (SerialCall × Option Nat)
  | _, [] => []
  | s, call :: rest =>
    let (reserved, s) := serialStep ctcAutoincLockMode engine s call
    (call, reserved) :: serialRun s rest

/-- The engine answers with values congruent to the offset modulo the step. -/
structure SerialEngine.Congruent : Prop where
  writeRow : ∀ s table flag v s', flag.hasExplicitAutoinc = false →
    engine.ctcWriteRow s table flag = (.ok v, s') → v ≡ flag.autoIncOffset [MOD flag.autoIncStep]
  getSerialValue : ∀ s table flag v s',
    engine.ctcGetSerialValue s table flag = (.ok v, s') →
      v ≡ flag.autoIncOffset [MOD flag.autoIncStep]

end

/-! ## The pair of a request -/

section

variable (ctcAutoincLockMode : Nat)

theorem Thd.field16_increment (thd : Thd) :
    DmlFlag.field16 thd.autoIncrementIncrement = thd.autoIncrementIncrement :=
  Nat.mod_eq_of_lt thd.increment_lt

theorem Thd.field16_offset (thd : Thd) :
    DmlFlag.field16 thd.autoIncrementOffset = thd.autoIncrementOffset :=
  Nat.mod_eq_of_lt thd.offset_lt

/-- **The pair of a request** is the session's, but for `get_auto_increment` with two values. -/
theorem SerialCall.sentFlag_pair_iff (call : SerialCall) :
    (call.sentFlag ctcAutoincLockMode).pair = call.thd.pair ↔
      (call.op = .getAutoIncrement →
        call.thd.autoIncrementIncrement = call.thd.autoIncrementOffset) := by
  have hincrement := call.thd.field16_increment
  have hoffset := call.thd.field16_offset
  unfold sentFlag DmlFlag.pair Thd.pair
  cases call.op with
  | writeRow hasExplicitAutoinc writeThrough => simp [ctcGetDmlFlag, hincrement, hoffset]
  | getAutoIncrement =>
    simp only [serialRequestFlag, getAutoIncrementFlag, hincrement, hoffset, Prod.mk.injEq,
      forall_const]
    exact ⟨fun h => h.2, fun h => ⟨h.symm, h⟩⟩
  | updateCreateInfo => simp [serialRequestFlag, updateCreateInfoFlag, hincrement, hoffset]

end

/-! ## Runs -/

section

variable {σ : Type} {ctcAutoincLockMode : Nat} {engine : SerialEngine σ}

theorem SerialCall.answer_congruent (hengine : engine.Congruent) {s : σ} {call : SerialCall}
    (hreserves : call.reserves = true) {v : Nat}
    (h : (call.answer ctcAutoincLockMode engine s).1 = .ok v) :
    v ≡ (call.sentFlag ctcAutoincLockMode).autoIncOffset
      [MOD (call.sentFlag ctcAutoincLockMode).autoIncStep] := by
  unfold answer at h
  unfold reserves at hreserves
  cases hop : call.op with
  | writeRow hasExplicitAutoinc writeThrough =>
    rw [hop] at h hreserves
    refine hengine.writeRow s call.table _ v _ ?_ (Prod.ext h rfl)
    unfold sentFlag
    rw [hop]
    exact Bool.not_eq_true' _ ▸ hreserves
  | getAutoIncrement =>
    rw [hop] at h
    exact hengine.getSerialValue s call.table _ v _ (Prod.ext h rfl)
  | updateCreateInfo =>
    rw [hop] at hreserves
    cases hreserves

/-- **Step:** a value that is reserved with the session's pair is of the session's sequence. -/
theorem serialStep_follows (hengine : engine.Congruent) {s : σ} {call : SerialCall} {v : Nat}
    (hpair : (call.sentFlag ctcAutoincLockMode).pair = call.thd.pair)
    (h : (serialStep ctcAutoincLockMode engine s call).1 = some v) :
    call.reserves = true ∧
      v ≡ call.thd.autoIncrementOffset [MOD call.thd.autoIncrementIncrement] := by
  unfold serialStep at h
  dsimp only at h
  split at h
  case isFalse => cases h
  case isTrue hreserves =>
    obtain ⟨hstep, hoffset⟩ := Prod.mk.inj hpair
    refine ⟨hreserves, ?_⟩
    rw [← hstep, ← hoffset]
    apply SerialCall.answer_congruent hengine hreserves (s := s)
    cases hanswer : (call.answer ctcAutoincLockMode engine s).1 with
    | error e =>
      rw [hanswer] at h
      cases h
    | ok w =>
      rw [hanswer] at h
      rw [Option.some.inj h]

/-- **Run:** every reserved value comes from a step of the run. -/
theorem mem_serialRun {s : σ} {calls : List SerialCall} {call : SerialCall} {reserved : Option Nat}
    (h : (call, reserved) ∈ serialRun ctcAutoincLockMode engine s calls) :
    call ∈ calls ∧ ∃ s', reserved = (serialStep ctcAutoincLockMode engine s' call).1 := by
  induction calls generalizing s with
  | nil => cases h
  | cons first rest ih =>
    rcases List.mem_cons.mp h with heq | hrest
    · obtain ⟨rfl, rfl⟩ := Prod.mk.inj heq
      exact ⟨List.mem_cons_self, s, rfl⟩
    · obtain ⟨hcall, hstep⟩ := ih hrest
      exact ⟨List.mem_cons_of_mem _ hcall, hstep⟩

end

/-- The requests of a run agree with their sessions: each has the session's pair, every value that
is reserved is of the session's sequence, and sessions with one increment and two offsets do not
reserve the same value of a table. -/
structure AutoIncRight (ctcAutoincLockMode : Nat) (calls : List SerialCall) : Prop where
  pair : ∀ call ∈ calls, (call.sentFlag ctcAutoincLockMode).pair = call.thd.pair
  follows : ∀ (σ : Type) (engine : SerialEngine σ), engine.Congruent → ∀ s call v,
    (call, some v) ∈ serialRun ctcAutoincLockMode engine s calls →
      v ≡ call.thd.autoIncrementOffset [MOD call.thd.autoIncrementIncrement]
  apart : ∀ (σ : Type) (engine : SerialEngine σ), engine.Congruent → ∀ s a b v w,
    (a, some v) ∈ serialRun ctcAutoincLockMode engine s calls →
      (b, some w) ∈ serialRun ctcAutoincLockMode engine s calls → a.table = b.table →
        a.thd.autoIncrementIncrement = b.thd.autoIncrementIncrement →
          a.thd.autoIncrementOffset ≠ b.thd.autoIncrementOffset → v ≠ w

/-- No partitioned table is asked with two values that differ, and no two sessions reserve values
of one table with offsets that their increment does not tell apart. -/
structure AutoIncMeets (calls : List SerialCall) : Prop where
  serial : ∀ call ∈ calls, call.op = .getAutoIncrement →
    call.thd.autoIncrementIncrement = call.thd.autoIncrementOffset
  residues : ∀ a ∈ calls, ∀ b ∈ calls, a.reserves = true → b.reserves = true → a.table = b.table →
    a.thd.autoIncrementIncrement = b.thd.autoIncrementIncrement →
      a.thd.autoIncrementOffset ≠ b.thd.autoIncrementOffset →
        ¬a.thd.autoIncrementOffset ≡ b.thd.autoIncrementOffset [MOD a.thd.autoIncrementIncrement]

/-- An engine that answers every request with the smallest value that it may. -/
def leastEngine : SerialEngine Unit where
  ctcWriteRow _ _ flag := (.ok (flag.autoIncOffset % flag.autoIncStep), ())
  ctcGetSerialValue _ _ flag := (.ok (flag.autoIncOffset % flag.autoIncStep), ())

theorem leastEngine_congruent : leastEngine.Congruent where
  writeRow _ _ flag v _ _ h := by
    obtain ⟨hv, -⟩ := Prod.mk.inj h
    rw [← Except.ok.inj hv]
    exact Nat.mod_modEq _ _
  getSerialValue _ _ flag v _ h := by
    obtain ⟨hv, -⟩ := Prod.mk.inj h
    rw [← Except.ok.inj hv]
    exact Nat.mod_modEq _ _

section

variable {ctcAutoincLockMode : Nat}

variable (ctcAutoincLockMode) in
theorem mem_serialRun_least {calls : List SerialCall} {call : SerialCall} (hcall : call ∈ calls) :
    (call, (serialStep ctcAutoincLockMode leastEngine () call).1) ∈
      serialRun ctcAutoincLockMode leastEngine () calls := by
  induction calls with
  | nil => cases hcall
  | cons first rest ih =>
    rcases List.mem_cons.mp hcall with rfl | hrest
    · exact List.mem_cons_self
    · exact List.mem_cons_of_mem _ (ih hrest)

theorem serialStep_least {call : SerialCall} (hreserves : call.reserves = true)
    (hpair : (call.sentFlag ctcAutoincLockMode).pair = call.thd.pair) :
    (serialStep ctcAutoincLockMode leastEngine () call).1 =
      some (call.thd.autoIncrementOffset % call.thd.autoIncrementIncrement) := by
  obtain ⟨hstep, hoffset⟩ := Prod.mk.inj hpair
  have hanswer : (call.answer ctcAutoincLockMode leastEngine ()).1 =
      .ok ((call.sentFlag ctcAutoincLockMode).autoIncOffset %
        (call.sentFlag ctcAutoincLockMode).autoIncStep) := by
    unfold SerialCall.answer
    cases call.op <;> rfl
  unfold serialStep
  dsimp only
  rw [if_pos hreserves, hanswer, hstep, hoffset]
  rfl

end

/-- **A run of requests agrees with its sessions** exactly if it meets the two conditions. -/
theorem autoIncRight_iff (ctcAutoincLockMode : Nat) (calls : List SerialCall) :
    AutoIncRight ctcAutoincLockMode calls ↔ AutoIncMeets calls := by
  constructor
  · intro hright
    refine ⟨fun call hcall => ?_, fun a ha b hb hra hrb htable hinc hoffset hmod => ?_⟩
    · exact (call.sentFlag_pair_iff ctcAutoincLockMode).mp (hright.pair call hcall)
    · -- the least engine gives both sessions the same value
      have hla := mem_serialRun_least ctcAutoincLockMode ha
      have hlb := mem_serialRun_least ctcAutoincLockMode hb
      rw [serialStep_least hra (hright.pair a ha)] at hla
      rw [serialStep_least hrb (hright.pair b hb), ← hinc] at hlb
      exact hright.apart Unit leastEngine leastEngine_congruent () a b _ _ hla hlb htable hinc
        hoffset hmod
  · intro hmeets
    have hpair : ∀ call ∈ calls, (call.sentFlag ctcAutoincLockMode).pair = call.thd.pair :=
      fun call hcall =>
        (call.sentFlag_pair_iff ctcAutoincLockMode).mpr (hmeets.serial call hcall)
    have hfollows : ∀ (σ : Type) (engine : SerialEngine σ), engine.Congruent → ∀ s call v,
        (call, some v) ∈ serialRun ctcAutoincLockMode engine s calls →
          call ∈ calls ∧ call.reserves = true ∧
            v ≡ call.thd.autoIncrementOffset [MOD call.thd.autoIncrementIncrement] := by
      intro σ engine hengine s call v hmem
      obtain ⟨hcall, s', hstep⟩ := mem_serialRun hmem
      exact ⟨hcall, serialStep_follows hengine (hpair call hcall) hstep.symm⟩
    refine ⟨hpair, fun σ engine hengine s call v hmem => ?_,
      fun σ engine hengine s a b v w hmema hmemb htable hinc hoffset heq => ?_⟩
    · exact (hfollows σ engine hengine s call v hmem).2.2
    obtain ⟨ha, hra, hva⟩ := hfollows σ engine hengine s a v hmema
    obtain ⟨hb, hrb, hwb⟩ := hfollows σ engine hengine s b w hmemb
    rw [← hinc, ← heq] at hwb
    exact hmeets.residues a ha b hb hra hrb htable hinc hoffset (hva.symm.trans hwb)

/-- A session with `auto_increment_increment = 10` and the given offset. -/
def sessionOfTen (offset : Nat) (hoffset : offset < 2 ^ 16) : Thd :=
  ⟨false, false, false, false, false, 10, offset, by decide, by decide, hoffset⟩

/-- A flag with nothing set. -/
def DmlFlag.zero : DmlFlag :=
  ⟨false, false, false, false, false, false, false, false, false, false, 0, 0, 0, false, false⟩

/-- Two sessions with increment 10 and the offsets 1 and 2 fetch values of one partitioned table:
the engine is asked for values modulo 1 and modulo 2. -/
theorem not_autoIncRight :
    (SerialCall.sentFlag 2 ⟨sessionOfTen 1 (by decide), 0, .getAutoIncrement, .zero, .zero⟩).pair =
        (1, 10) ∧
      ¬AutoIncRight 2 [⟨sessionOfTen 1 (by decide), 0, .getAutoIncrement, .zero, .zero⟩,
        ⟨sessionOfTen 2 (by decide), 0, .getAutoIncrement, .zero, .zero⟩] := by
  refine ⟨rfl, fun hright => ?_⟩
  have hpair := hright.pair _ List.mem_cons_self
  cases hpair

end CantianConnector.Handler
