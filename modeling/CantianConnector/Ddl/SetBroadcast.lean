import CantianConnector.Convert.Result
import CantianConnector.Ddl.SetVar
import Mathlib.Data.List.Forall2

/-!
# Broadcasting the variables of a SET statement

With normalised metadata `ctc_update_sysvars` sends the assignments to global variables to the other
nodes, each with its value as a text. In the branch for MySQL 8.0.32 the function that would find
out whether an assignment is to be sent is never called. A value is refused when it is longer than
the field that it is copied into, but the last byte of the field is not for the value.
-/

namespace CantianConnector.Ddl

open CantianConnector.Convert (Result result_bind_eq_ok result_bind_ok)

/-! ## What is sent -/

/-- `SMALL_RECORD_SIZE`. -/
def smallRecordSize : Nat := 128

def ctcSetVariablePersist : UInt32 := 0x100

def ctcSetVariablePersistOnly : UInt32 := 0x80

def ctcCurrentSqlContainPlaintextPassword : UInt32 := 0x20

def ctcNotNeedCantianExecute : UInt32 := 0x10

def ctcSetVariableToDefault : UInt32 := 0x8

def ctcSetVariableToNull : UInt32 := 0x4

/-- `set_var_info` and `set_opt_info_t`, which have the same fields. -/
structure SetOptInfo where
  baseName : SqlText
  varName : SqlText
  varValue : SqlText
  options : UInt32
  varIsInt : Bool
deriving DecidableEq, Repr

/-- `ctc_set_opt_request`. -/
structure SetOptRequest where
  setOptInfo : List SetOptInfo
  mysqlInstId : UInt32
  optNum : Nat
deriving DecidableEq, Repr

/-- What a statement meets: the kind of the build, `IS_METADATA_NORMALIZATION`, the text of the
statement of the thread, `contains_plaintext_password`, and the outcomes of
`get_tch_in_handler_data`, of `my_malloc` and of `ctc_execute_set_opt`. -/
structure BroadcastEnv where
  version : MysqlVersion
  metadataNormalized : Bool
  query : Option SqlText
  containsPlaintextPassword : Bool
  ctcInstanceId : UInt32
  getTch : Int
  allocated : Bool
  executeSetOpt : Int

/-! ## The functions -/

/-- `ctc_set_var_option`. -/
def ctcSetVarOption (isNullValue isSetDefaultValue : Bool) (type : VarType) : UInt32 :=
  (if isNullValue then ctcSetVariableToNull else 0) |||
    (if isSetDefaultValue then ctcSetVariableToDefault else 0) |||
    (if type = .persistOnly then ctcSetVariablePersistOnly else 0) |||
    (if type = .persist then ctcSetVariablePersist else 0)

/-- `ctc_set_var_info`. -/
def ctcSetVarInfo (baseName : Option SqlText) (name value : SqlText) (options : UInt32)
    (varIsInt : Bool) : SetOptInfo where
  baseName := copyField smallRecordSize (baseName.getD [])
  varName := copyField smallRecordSize name
  varValue := copyField maxDdlSqlLen value
  options := options
  varIsInt := varIsInt

/-- `ctc_get_sysvar_value_string`: the text, `is_null_value` and `is_default_value`. -/
def ctcGetSysvarValueString (setvar : SetVar) : Result (SqlText × Bool × Bool) :=
  let (valStr, isNullValue, isDefaultValue) : SqlText × Bool × Bool :=
    match setvar.value with
    | none => ([], false, true)
    | some value =>
      match value.valStr with
      | none => ("null".toList, true, false)
      | some text => (cStr text, false, false)
  if (cStr valStr).length > maxDdlSqlLen then .error (.code (-1))
  else .ok (valStr, isNullValue, isDefaultValue)

/-- The part of `ctc_emplace_sysvars` that both versions have. -/
def emplaceForwarded (env : BroadcastEnv) (setvar : SetVar) (baseName : Option SqlText)
    (needForward : Bool) : Result (Option SetOptInfo) :=
  if env.metadataNormalized && needForward then do
    let varIsInt := setvar.value.any fun value => value.resultType = .int
    let (valStr, isNullValue, isDefaultValue) ← ctcGetSysvarValueString setvar
    let options := ctcSetVarOption isNullValue isDefaultValue setvar.type
    return some (ctcSetVarInfo baseName setvar.name valStr options varIsInt)
  else return none

/-- `ctc_emplace_sysvars`. -/
def ctcEmplaceSysvars (env : BroadcastEnv) (setvar : SetVar) : Result (Option SetOptInfo) :=
  match env.version with
  | .v26 =>
    match setvar.var with
    -- `setvar->var->name`
    | none => .error .undefined
    | some var => emplaceForwarded env setvar setvar.base (foundVerdict .v26 setvar var)
  -- `f` would set `need_forward`, but is not called
  | .v32 => emplaceForwarded env setvar (some setvar.name) false

/-- The loop of `ctc_update_sysvars`. -/
def emplaceLoop (env : BroadcastEnv) : List SetVarBase → Result (List SetOptInfo)
  | [] => return []
  | .system setvar :: rest => do
    let info ← ctcEmplaceSysvars env setvar
    let infos ← emplaceLoop env rest
    return info.toList ++ infos
  | _ :: rest => emplaceLoop env rest

/-- An entry of the request of `ctc_set_var_meta`. -/
def metaEntry (env : BroadcastEnv) (info : SetOptInfo) : SetOptInfo where
  baseName := copyField smallRecordSize info.baseName
  varName := copyField smallRecordSize info.varName
  varValue := copyField maxDdlSqlLen info.varValue
  options := ctcNotNeedCantianExecute |||
    (if env.containsPlaintextPassword then ctcCurrentSqlContainPlaintextPassword else 0) |||
    info.options
  varIsInt := info.varIsInt

/-- `ctc_set_var_meta`. What is returned is what `ctc_execute_set_opt` has returned. -/
def ctcSetVarMeta (env : BroadcastEnv) (infos : List SetOptInfo) : Result SetOptRequest :=
  if env.getTch ≠ 0 then .error (.code env.getTch)
  -- `HA_ERR_OUT_OF_MEM`
  else if !env.allocated then .error (.code 128)
  else if env.executeSetOpt ≠ 0 then .error (.code env.executeSetOpt)
  else .ok ⟨infos.map (metaEntry env), env.ctcInstanceId, infos.length⟩

/-- `CTC_MAX_SET_VAR_NUM`. -/
def ctcMaxSetVarNum : Nat := 8

/-- `is_ctc_mdl_thd`. -/
def isCtcMdlThd (env : BroadcastEnv) : Bool := env.query = some "ctc_mdl_thd_notify".toList

/-- `ctc_update_sysvars`, with the request that it has sent. -/
def ctcUpdateSysvars (env : BroadcastEnv) (varList : List SetVarBase) :
    Result (Option SetOptRequest) :=
  if isCtcMdlThd env then return none
  else do
    let infos ← emplaceLoop env varList
    if infos = [] then return none
    else if infos.length > ctcMaxSetVarNum then .error (.code (-1))
    else
      let request ← ctcSetVarMeta env infos
      return some request

/-! ## What is to be sent -/

/-- An assignment to a global or persisted variable that is not read-only. -/
def SetVar.toBroadcast (setvar : SetVar) : Bool :=
  setvar.isGlobalPersist && setvar.var.any fun var => var.globalScope && !var.isReadonly

/-- The assignments that are to be sent, in their order. -/
def broadcasts (varList : List SetVarBase) : List SetVar :=
  varList.filterMap fun var =>
    match var with
    | .system setvar => if setvar.toBroadcast then some setvar else none
    | _ => none

def SetVar.isNull (setvar : SetVar) : Bool := setvar.value.any fun value => value.valStr.isNone

/-- The value of an assignment, as a text. -/
def SetVar.text (setvar : SetVar) : SqlText :=
  match setvar.value with
  | none => []
  | some value => value.valStr.getD "null".toList

/-- The entry says what the assignment does. -/
structure Describes (entry : SetOptInfo) (setvar : SetVar) : Prop where
  name : entry.varName = setvar.name
  value : entry.varValue = setvar.text
  toNull : entry.options &&& ctcSetVariableToNull ≠ 0 ↔ setvar.isNull = true
  toDefault : entry.options &&& ctcSetVariableToDefault ≠ 0 ↔ setvar.value = none
  persist : entry.options &&& ctcSetVariablePersist ≠ 0 ↔ setvar.type = .persist
  persistOnly : entry.options &&& ctcSetVariablePersistOnly ≠ 0 ↔ setvar.type = .persistOnly

/-- The entries that have been sent. -/
def entries (sent : Option SetOptRequest) : List SetOptInfo := sent.elim [] SetOptRequest.setOptInfo

/-- One entry is sent for each assignment that is to be sent, and in their order. -/
def Complete (varList : List SetVarBase) (sent : Option SetOptRequest) : Prop :=
  List.Forall₂ Describes (entries sent) (broadcasts varList)

/-- In 8.0.26 names and values fit into their fields; in 8.0.32 there is nothing to send. -/
def Sendable (version : MysqlVersion) (varList : List SetVarBase) : Prop :=
  match version with
  | .v26 => ∀ setvar ∈ broadcasts varList,
      Fits smallRecordSize setvar.name ∧ Fits maxDdlSqlLen setvar.text
  | .v32 => broadcasts varList = []

/-! ## What is sent, for every list that is accepted -/

/-- The entry for an assignment that is to be sent. -/
def SetVar.info (setvar : SetVar) : SetOptInfo :=
  ctcSetVarInfo setvar.base setvar.name (cStr setvar.text)
    (ctcSetVarOption setvar.isNull setvar.value.isNone setvar.type)
    (setvar.value.any fun value => value.resultType = .int)

theorem ctcGetSysvarValueString_ok {setvar : SetVar} {got : SqlText × Bool × Bool}
    (h : ctcGetSysvarValueString setvar = .ok got) :
    got = (cStr setvar.text, setvar.isNull, setvar.value.isNone) := by
  unfold ctcGetSysvarValueString at h
  unfold SetVar.text SetVar.isNull
  cases hvalue : setvar.value with
  | none =>
    rw [hvalue] at h
    cases h
    rfl
  | some value =>
    rw [hvalue] at h
    dsimp only at h ⊢
    cases hstr : value.valStr with
    | none =>
      rw [hstr] at h
      cases h
      rw [Option.any_some, hstr]
      rfl
    | some text =>
      rw [hstr] at h
      dsimp only at h
      split at h
      · cases h
      · cases h
        rw [Option.any_some, hstr]
        rfl

theorem toBroadcast_eq {setvar : SetVar} {var : SysVar} (hvar : setvar.var = some var) :
    foundVerdict .v26 setvar var = setvar.toBroadcast := by
  unfold foundVerdict SetVar.toBroadcast
  rw [hvar, Option.any_some]
  cases var.isReadonly <;> cases setvar.isGlobalPersist <;> cases var.globalScope <;> rfl

theorem ctcEmplaceSysvars_v26 {env : BroadcastEnv} (hversion : env.version = .v26)
    (hnorm : env.metadataNormalized = true) {setvar : SetVar} {info : Option SetOptInfo}
    (h : ctcEmplaceSysvars env setvar = .ok info) :
    info = if setvar.toBroadcast then some setvar.info else none := by
  unfold ctcEmplaceSysvars at h
  rw [hversion] at h
  cases hvar : setvar.var with
  | none =>
    rw [hvar] at h
    cases h
  | some var =>
    rw [hvar] at h
    dsimp only at h
    unfold emplaceForwarded at h
    rw [hnorm, Bool.true_and, toBroadcast_eq hvar] at h
    split at h
    case isTrue hsend =>
      obtain ⟨got, hgot, h⟩ := result_bind_eq_ok.mp h
      rw [ctcGetSysvarValueString_ok hgot] at h
      cases h
      rw [if_pos hsend]
      rfl
    case isFalse hsend =>
      cases h
      rw [if_neg hsend]

theorem ctcEmplaceSysvars_v32 {env : BroadcastEnv} (hversion : env.version = .v32)
    (setvar : SetVar) : ctcEmplaceSysvars env setvar = .ok none := by
  unfold ctcEmplaceSysvars emplaceForwarded
  rw [hversion]
  dsimp only
  rw [Bool.and_false, if_neg Bool.false_ne_true]
  rfl

theorem emplaceLoop_v26 {env : BroadcastEnv} (hversion : env.version = .v26)
    (hnorm : env.metadataNormalized = true) {varList : List SetVarBase} {infos : List SetOptInfo}
    (h : emplaceLoop env varList = .ok infos) : infos = (broadcasts varList).map SetVar.info := by
  induction varList generalizing infos with
  | nil =>
    cases h
    rfl
  | cons var rest ih =>
    cases var with
    | system setvar =>
      obtain ⟨info, hinfo, h⟩ := result_bind_eq_ok.mp h
      obtain ⟨behind, hbehind, h⟩ := result_bind_eq_ok.mp h
      cases h
      rw [ctcEmplaceSysvars_v26 hversion hnorm hinfo, ih hbehind]
      unfold broadcasts
      rw [List.filterMap_cons]
      dsimp only
      cases setvar.toBroadcast <;> rfl
    | user printed sessCtx => exact ih h
    | other => exact ih h

theorem emplaceLoop_v32 {env : BroadcastEnv} (hversion : env.version = .v32)
    (varList : List SetVarBase) : emplaceLoop env varList = .ok [] := by
  induction varList with
  | nil => rfl
  | cons var rest ih =>
    cases var with
    | system setvar =>
      rw [emplaceLoop, ctcEmplaceSysvars_v32 hversion, ih]
      rfl
    | user printed sessCtx => exact ih
    | other => exact ih

theorem ctcSetVarMeta_ok {env : BroadcastEnv} {infos : List SetOptInfo} {request : SetOptRequest}
    (h : ctcSetVarMeta env infos = .ok request) :
    request.setOptInfo = infos.map (metaEntry env) := by
  unfold ctcSetVarMeta at h
  repeat' split at h
  all_goals cases h
  rfl

/-- What is sent is what the loop has collected. -/
theorem entries_of_ok {env : BroadcastEnv} (hmdl : isCtcMdlThd env = false)
    {varList : List SetVarBase} {sent : Option SetOptRequest}
    (haccept : ctcUpdateSysvars env varList = .ok sent) :
    ∃ infos, emplaceLoop env varList = .ok infos ∧
      entries sent = infos.map (metaEntry env) := by
  unfold ctcUpdateSysvars at haccept
  rw [hmdl, if_neg Bool.false_ne_true] at haccept
  obtain ⟨infos, hinfos, h⟩ := result_bind_eq_ok.mp haccept
  refine ⟨infos, hinfos, ?_⟩
  split at h
  case isTrue hempty =>
    cases h
    rw [hempty]
    rfl
  case isFalse =>
    split at h
    · cases h
    · obtain ⟨request, hrequest, h⟩ := result_bind_eq_ok.mp h
      cases h
      exact ctcSetVarMeta_ok hrequest

/-! ## When it is complete -/

/-- The options of an entry are those of the assignment. -/
theorem options_spec (plaintext isNull isDefault : Bool) (type : VarType) :
    let options := ctcNotNeedCantianExecute |||
      (if plaintext then ctcCurrentSqlContainPlaintextPassword else 0) |||
      ctcSetVarOption isNull isDefault type
    (options &&& ctcSetVariableToNull ≠ 0 ↔ isNull = true) ∧
    (options &&& ctcSetVariableToDefault ≠ 0 ↔ isDefault = true) ∧
    (options &&& ctcSetVariablePersist ≠ 0 ↔ type = .persist) ∧
    (options &&& ctcSetVariablePersistOnly ≠ 0 ↔ type = .persistOnly) := by
  cases plaintext <;> cases isNull <;> cases isDefault <;> cases type <;> decide

theorem describes_iff (env : BroadcastEnv) (setvar : SetVar) :
    Describes (metaEntry env setvar.info) setvar ↔
      Fits smallRecordSize setvar.name ∧ Fits maxDdlSqlLen setvar.text := by
  have hname : (metaEntry env setvar.info).varName = copyField smallRecordSize setvar.name :=
    copyField_copyField _ _
  have hvalue : (metaEntry env setvar.info).varValue = copyField maxDdlSqlLen setvar.text := by
    refine (copyField_copyField _ _).trans ?_
    exact copyField_cStr _ _
  have hsmall : 0 < smallRecordSize := by decide
  have hlong : 0 < maxDdlSqlLen := by decide
  constructor
  · intro h
    rw [← copyField_eq_self_iff hsmall, ← copyField_eq_self_iff hlong]
    exact ⟨hname.symm.trans h.name, hvalue.symm.trans h.value⟩
  · rintro ⟨hfits, hfits'⟩
    obtain ⟨hnull, hdefault, hpersist, honly⟩ := options_spec env.containsPlaintextPassword
      setvar.isNull setvar.value.isNone setvar.type
    refine ⟨?_, ?_, hnull, hdefault.trans Option.isNone_iff_eq_none, hpersist, honly⟩
    · rw [hname, (copyField_eq_self_iff hsmall).mpr hfits]
    · rw [hvalue, (copyField_eq_self_iff hlong).mpr hfits']

/-- **When the broadcast is complete.** For a list that is accepted in normalised mode, one faithful
entry is sent for each assignment to a global variable, if and only if the build is the one for
8.0.26 and names and values fit into their fields, or there is nothing to send. -/
theorem updateSysvars_complete_iff {env : BroadcastEnv} (hnorm : env.metadataNormalized = true)
    (hmdl : isCtcMdlThd env = false) {varList : List SetVarBase} {sent : Option SetOptRequest}
    (haccept : ctcUpdateSysvars env varList = .ok sent) :
    Complete varList sent ↔ Sendable env.version varList := by
  obtain ⟨infos, hinfos, hentries⟩ := entries_of_ok hmdl haccept
  unfold Complete Sendable
  cases hversion : env.version with
  | v26 =>
    rw [hentries, emplaceLoop_v26 hversion hnorm hinfos, List.map_map, List.forall₂_map_left_iff,
      List.forall₂_same]
    exact forall₂_congr fun setvar _ => describes_iff env setvar
  | v32 =>
    rw [emplaceLoop_v32 hversion] at hinfos
    cases hinfos
    rw [hentries, List.map_nil, List.forall₂_nil_left_iff]

/-- A node whose calls succeed. -/
def broadcastEnv (version : MysqlVersion) : BroadcastEnv :=
  ⟨version, true, none, false, 1, 0, true, 0⟩

/-- `SET GLOBAL init_connect = text`. -/
def setInitConnect (text : SqlText) : SetVar :=
  ⟨some ⟨false, true⟩, "init_connect".toList, none, .global,
    some ⟨false, .other, some text, 0, .string, none⟩⟩

theorem ctcUpdateSysvars_initConnect {text : SqlText} (hzero : ∀ c ∈ text, c.toNat ≠ 0)
    (hlen : text.length ≤ maxDdlSqlLen) :
    ctcUpdateSysvars (broadcastEnv .v26) [.system (setInitConnect text)] = .ok
      (some ⟨[metaEntry (broadcastEnv .v26) (setInitConnect text).info], 1, 1⟩) := by
  have hget : ctcGetSysvarValueString (setInitConnect text) = .ok (cStr text, false, false) := by
    refine if_neg ?_
    dsimp only [setInitConnect]
    rw [cStr_cStr, cStr_eq_self_iff.mpr hzero]
    exact Nat.not_lt_of_le hlen
  have hemplace : ctcEmplaceSysvars (broadcastEnv .v26) (setInitConnect text) =
      .ok (some (setInitConnect text).info) := by
    have hforward : ctcEmplaceSysvars (broadcastEnv .v26) (setInitConnect text) =
        emplaceForwarded (broadcastEnv .v26) (setInitConnect text) none true := rfl
    have hnorm : ((broadcastEnv .v26).metadataNormalized && true) = true := rfl
    rw [hforward, emplaceForwarded, if_pos hnorm, hget]
    rfl
  have hloop : emplaceLoop (broadcastEnv .v26) [.system (setInitConnect text)] =
      .ok [(setInitConnect text).info] := by
    rw [emplaceLoop, hemplace]
    rfl
  refine (if_neg Bool.false_ne_true).trans ?_
  rw [hloop]
  rfl

theorem not_complete_of_full {text : SqlText} (hlen : text.length = maxDdlSqlLen) :
    ¬ Complete [.system (setInitConnect text)]
      (some ⟨[metaEntry (broadcastEnv .v26) (setInitConnect text).info], 1, 1⟩) := by
  intro h
  obtain ⟨hentry, -⟩ := List.forall₂_cons.mp h
  have hfits : text.length < maxDdlSqlLen := ((describes_iff _ _).mp hentry).2.2
  exact absurd hlen (Nat.ne_of_lt hfits)

/-- A value that is as long as its field is sent without its last byte, and the build for 8.0.32
sends nothing at all. -/
theorem updateSysvars_cuts_value :
    let fullValue := [SetVarBase.system (setInitConnect (List.replicate maxDdlSqlLen 'x'))]
    let noValue := [SetVarBase.system (setInitConnect [])]
    (∃ request, ctcUpdateSysvars (broadcastEnv .v26) fullValue = .ok (some request) ∧
      ¬ Complete fullValue (some request)) ∧
    ctcUpdateSysvars (broadcastEnv .v32) noValue = .ok none ∧ ¬ Complete noValue none := by
  intro fullValue noValue
  refine ⟨⟨_, ctcUpdateSysvars_initConnect ?_ ?_, not_complete_of_full ?_⟩, rfl, ?_⟩
  · intro c hc
    rw [List.eq_of_mem_replicate hc]
    decide
  · exact Nat.le_of_eq List.length_replicate
  · exact List.length_replicate
  · intro h
    cases h

theorem updateSysvars_complete_one_value :
    let varList := [SetVarBase.system (setInitConnect "SET @a = 1".toList)]
    ∃ sent, ctcUpdateSysvars (broadcastEnv .v26) varList = .ok sent ∧ Complete varList sent := by
  intro varList
  have hzero : ∀ c ∈ "SET @a = 1".toList, c.toNat ≠ 0 := by simp
  refine ⟨_, ctcUpdateSysvars_initConnect hzero (by decide), ?_⟩
  have hsendable : Sendable .v26 varList := by
    intro setvar hsetvar
    rw [List.mem_singleton.mp hsetvar]
    have hname : ∀ c ∈ "init_connect".toList, c.toNat ≠ 0 := by simp
    exact ⟨⟨hname, by decide⟩, hzero, by decide⟩
  exact (updateSysvars_complete_iff rfl rfl
    (ctcUpdateSysvars_initConnect hzero (by decide))).mpr hsendable

end CantianConnector.Ddl
