import CantianConnector.Convert.Result
import CantianConnector.Ddl.ErrorCode

/-!
# LOCK INSTANCE FOR BACKUP

`ctc_ddl_rewrite` runs before a statement is executed. For `LOCK INSTANCE` it takes the backup
lock of the server and the instance lock of the engine, and then forwards the statement to the
other nodes. When another node fails, `ctc_ddl_rewrite_handle_error` is to give the engine lock
back.

The answers of the server, the engine and the other nodes are inputs.
-/

namespace CantianConnector.Ddl

open CantianConnector.Convert (Build Result cAssert result_bind_eq_ok)

/-! ## The statement and its surroundings -/

/-- The SQL commands that `ctc_ddl_rewrite` tells apart. -/
inductive SqlCmd where
  | lockInstance
  | unlockInstance
  | lockTables
  | setOption
  | other (isDcl : Bool)
deriving DecidableEq, Repr

/-- A `pre_func`, and what it makes of the statement. -/
structure PreFunc where
  ret : Int
  needForward : Bool → Bool
  /-- It is `ctc_check_ddl` or `ctc_check_ddl_engine`. -/
  byStorageEngine : Bool

/-- An entry of `ddl_cmds`. -/
structure DdlBroadcastCmd where
  preFunc : Option PreFunc

/-- The event: a statement that has been parsed, and the entry of its command in `ddl_cmds`. -/
structure Statement where
  isPostparse : Bool
  sqlCmd : SqlCmd
  ddlCmd : Option DdlBroadcastCmd
  queryLength : Nat

inductive MetadataSwitch where
  | notMatch
  | matchMeta
  | matchNoMeta
  | clusterNotReady
deriving DecidableEq, Repr

/-- The configuration and the answers that one statement meets. -/
structure Env where
  /-- `METADATA_NORMALIZED` is defined. -/
  metadataNormalized : Bool
  isInitialize : Bool
  upgradeForce : Bool
  mysqldServerStarted : Bool
  /-- `CTC_DDL_LOCAL_ENABLED` and `CTC_DDL_ENABLED` of the session. -/
  ddlLocalEnabled : Bool
  ddlEnabled : Bool
  ctcConcurrentDdl : Bool
  /-- The default storage engine is CTC. -/
  engineIsCtc : Bool
  metadataSwitch : MetadataSwitch
  /-- `ctc_record_sql`. -/
  recordSql : Int
  privHost : String
  /-- `ctc_init_agent_client`. -/
  initAgentClient : Int
  /-- `get_g_name_locks`. -/
  nameLocks : Nat
  /-- `acquire_exclusive_backup_lock` fails. -/
  backupLockRefused : Bool
  ctcEnableXLockInstance : Bool
  /-- `get_tch_in_handler_data`, in front of `ctc_lock_instance`. -/
  getTch : Int
  /-- What `ctc_lock_instance` returns. -/
  lockInstance : Int
  /-- `ctc_lock_table_pre`, for `LOCK TABLES`. -/
  lockTablePre : Int
  /-- What `ctc_broadcast_rewrite_sql` returns, and `err_code` behind it. -/
  broadcast : Int
  errCode : Int
  /-- `get_tch_in_handler_data`, in front of `ctc_unlock_instance`. -/
  getTchUnlock : Int
  /-- `ctc_is_instance_locked_by_backup`, `ctc_is_set_session_var` and
  `ctc_is_have_global_read_lock`. -/
  isInstanceLockedByBackup : Bool
  isSetSessionVar : Bool
  isHaveGlobalReadLock : Bool

/-- `ctc_lock_table_mode_t`. -/
inductive LockMode where
  | share
  | exclusive
deriving DecidableEq, Repr

/-- A call of the engine about its instance lock. -/
inductive EngineCall where
  | lockInstance (mode : LockMode) (ret : Int)
  | unlockInstance
deriving DecidableEq, Repr

/-- The session: whether it holds the backup lock, and the engine calls of the statement. -/
structure Thd where
  backupLock : Bool
  calls : List EngineCall
deriving DecidableEq, Repr

/-- Why a statement is not forwarded with success. -/
inductive BroadcastError where
  | lockWaitTimeout
  | disallowedOperation
  | remote (errCode : Int)
  | handler (error : HaErr)
deriving DecidableEq, Repr

/-- `CTC_DDL_VERSION_NOT_MATCH`. -/
def ctcDdlVersionNotMatch : Int := 9999

/-- `MAX_DDL_SQL_LEN_CONTEXT`. -/
def maxDdlSqlLenContext : Nat := 63488

section

variable (build : Build) (env : Env)

/-! ## The checks -/

/-- `is_starting`. -/
def Env.isStarting : Bool := !env.mysqldServerStarted && !env.isInitialize

/-- `is_meta_version_initialize`. -/
def Env.isMetaVersionInitialize : Bool := env.metadataNormalized && env.isInitialize

/-- `is_meta_version_upgrading_force`. -/
def Env.isMetaVersionUpgradingForce : Bool := env.metadataNormalized && env.upgradeForce

/-- `IS_METADATA_NORMALIZATION`. -/
def Env.isMetadataNormalization : Bool := env.metadataSwitch = .matchMeta

/-- `engine_skip_ddl`. -/
def engineSkipDdl : Bool := env.ddlLocalEnabled && env.ctcConcurrentDdl

/-- `engine_ddl_passthru`. -/
def engineDdlPassthru : Bool :=
  if env.isInitialize || env.isMetaVersionUpgradingForce then false
  else env.isInitialize || !env.mysqldServerStarted || env.ddlLocalEnabled

/-- `ddl_enabled_normal`. -/
def ddlEnabledNormal : Bool :=
  !env.ddlLocalEnabled && (env.ctcConcurrentDdl || env.ddlEnabled)

/-- `check_agent_connection`; true is a failure. -/
def checkAgentConnection : Bool :=
  (env.privHost ≠ "localhost" ∧ env.privHost ≠ "127.0.0.1" ∧ env.privHost ≠ "%" ∧
    env.privHost ≠ "skip-grants host") ∨ env.initAgentClient ≠ 0

/-- `plugin_ddl_passthru`, of a command that has an entry in `ddl_cmds`. -/
def pluginDdlPassthru : Bool := engineDdlPassthru env || !env.engineIsCtc

def SqlCmd.isDcl : SqlCmd → Bool
  | .other isDcl => isDcl
  | _ => false

/-- `plugin_ddl_block`, and `need_forward` behind it. -/
def pluginDdlBlock (stmt : Statement) (ddlCmd : DdlBroadcastCmd) (needForward : Bool) :
    Bool × Bool :=
  let pre := match ddlCmd.preFunc with
    | none => (0, needForward)
    | some preFunc => (preFunc.ret, preFunc.needForward needForward)
  let needForward := pre.2
  if pre.1 ≠ 0 then (true, needForward)
  else if stmt.queryLength > maxDdlSqlLenContext then (true, needForward)
  else if needForward = false then (false, needForward)
  else if env.isMetadataNormalization then
    (!stmt.sqlCmd.isDcl && env.recordSql ≠ 0, needForward)
  else if engineSkipDdl env then (false, needForward)
  else if ddlEnabledNormal env = false then (true, needForward)
  else (checkAgentConnection env, needForward)

/-- `ctc_check_metadata_switch`. -/
def ctcCheckMetadataSwitch : Int :=
  match env.metadataSwitch with
  | .matchMeta => 0
  | .matchNoMeta => 1
  | .clusterNotReady => -1
  | .notMatch => -1

/-- `ctc_is_ddl_processing`. -/
def ctcIsDdlProcessing (nameLocks : Nat) : Bool := nameLocks > 0

/-! ## The locks -/

/-- `ctc_check_lock_instance`: its result, `need_forward` and the session. -/
def ctcCheckLockInstance (needForward : Bool) (thd : Thd) : Result (Int × Bool × Thd) :=
  if thd.backupLock then .ok (0, false, thd)
  else if ctcIsDdlProcessing env.nameLocks then .ok (-1, needForward, thd)
  else if env.backupLockRefused then .ok (-1, needForward, thd)
  else
    let lockMode :=
      if env.ctcEnableXLockInstance || env.isStarting then LockMode.exclusive else .share
    -- `release_backup_lock` gives back what has just been taken
    if env.getTch ≠ 0 then .ok (-1, needForward, { thd with backupLock := false })
    else do
      cAssert build (env.lockInstance = 0)
      .ok (env.lockInstance, needForward,
        ⟨true, thd.calls ++ [.lockInstance lockMode env.lockInstance]⟩)

/-- `ctc_check_unlock_instance`: its result is not looked at. -/
def ctcCheckUnlockInstance (thd : Thd) : Thd :=
  if thd.backupLock = false then thd
  else if env.getTchUnlock ≠ 0 then thd
  else { thd with calls := thd.calls ++ [.unlockInstance] }

/-- `ctc_ddl_rewrite_handle_error`: `err_code` behind it, and the session. -/
def ctcDdlRewriteHandleError (sqlCmd : SqlCmd) (thd : Thd) : BroadcastError × Thd :=
  if env.broadcast = ctcDdlVersionNotMatch then (.disallowedOperation, thd)
  else
    (.remote env.errCode, if sqlCmd = .lockInstance then ctcCheckUnlockInstance env thd else thd)

/-- `ddl_broadcast_and_wait`; `none` is 0. -/
def ddlBroadcastAndWait (sqlCmd : SqlCmd) (thd : Thd) : Option BroadcastError × Thd :=
  if sqlCmd = .lockTables ∧ env.lockTablePre ≠ 0 then (some .lockWaitTimeout, thd)
  else if env.broadcast ≠ 0 ∧ env.errCode ≠ 0 then
    let out := ctcDdlRewriteHandleError env sqlCmd thd
    (some out.1, out.2)
  else ((convertCtcErrorCodeToMysql env.broadcast).map .handler, thd)

/-- The end of `ctc_ddl_rewrite`, `need_forward && ddl_broadcast_and_wait(..)`. -/
def forwardDdl (sqlCmd : SqlCmd) (needForward : Bool) (thd : Thd) : Int × Thd :=
  if needForward then
    let out := ddlBroadcastAndWait env sqlCmd thd
    (if out.1.isSome then 1 else 0, out.2)
  else (0, thd)

/-- `ctc_ddl_rewrite`. -/
def ctcDdlRewrite (stmt : Statement) (thd : Thd) : Result (Int × Thd) :=
  if env.isMetaVersionInitialize then .ok (0, thd)
  else if stmt.isPostparse = false then do
    cAssert build false
    .ok (1, thd)
  else
    match stmt.ddlCmd with
    | none => .ok (0, thd)
    | some ddlCmd =>
      let needForward := (pluginDdlBlock env stmt ddlCmd (!engineSkipDdl env)).2
      if pluginDdlPassthru env then .ok (0, thd)
      else if (pluginDdlBlock env stmt ddlCmd (!engineSkipDdl env)).1 then .ok (-1, thd)
      else if ctcCheckMetadataSwitch env ≠ 1 ∧
          ¬(needForward = true ∧ stmt.sqlCmd = .setOption) then
        .ok (ctcCheckMetadataSwitch env, thd)
      else if stmt.sqlCmd = .lockInstance then do
        let locked ← ctcCheckLockInstance build env needForward thd
        if locked.1 ≠ 0 then .ok (-1, locked.2.2)
        else .ok (forwardDdl env stmt.sqlCmd locked.2.1 locked.2.2)
      else if stmt.sqlCmd = .unlockInstance then
        .ok (forwardDdl env stmt.sqlCmd needForward (ctcCheckUnlockInstance env thd))
      else if !env.isMetadataNormalization &&
          (needForward || (ddlCmd.preFunc.map PreFunc.byStorageEngine).getD false) then
        if env.isInstanceLockedByBackup then .ok (if env.isSetSessionVar then 0 else -1, thd)
        else if env.isHaveGlobalReadLock then .ok (-1, thd)
        else .ok (forwardDdl env stmt.sqlCmd needForward thd)
      else .ok (forwardDdl env stmt.sqlCmd needForward thd)

/-! ## The engine lock of a statement -/

/-- Calls of `ctc_lock_instance` that succeed, and calls of `ctc_unlock_instance`. -/
def EngineCall.locks : EngineCall → Bool
  | .lockInstance _ ret => ret = 0
  | .unlockInstance => false

def EngineCall.unlocks : EngineCall → Bool
  | .lockInstance _ _ => false
  | .unlockInstance => true

/-- `LOCK INSTANCE FOR BACKUP`. -/
def lockInstanceStmt (isPostparse : Bool) (queryLength : Nat) : Statement :=
  ⟨isPostparse, .lockInstance, some ⟨none⟩, queryLength⟩

/-- If the statement fails, the engine lock has been given back as often as it was taken. -/
def ReleasedOnFailure (out : Result (Int × Thd)) : Prop :=
  ∀ ret thd, out = .ok (ret, thd) → ret ≠ 0 →
    thd.calls.countP EngineCall.locks ≤ thd.calls.countP EngineCall.unlocks

/-- The statement passes the checks in front of the locks, and takes both. -/
structure TakesLock (stmt : Statement) : Prop where
  initialized : env.isMetaVersionInitialize = false
  parsed : stmt.isPostparse = true
  passed : pluginDdlPassthru env = false
  allowed : (pluginDdlBlock env stmt ⟨none⟩ (!engineSkipDdl env)).1 = false
  switch : env.metadataSwitch = .matchNoMeta
  idle : env.nameLocks = 0
  backupLock : env.backupLockRefused = false
  tch : env.getTch = 0
  granted : env.lockInstance = 0

/-- The failure of another node leads to `ctc_unlock_instance`: it comes with an error code, is not
a difference of versions, and the session lookup succeeds once more. -/
def GivesBack : Prop :=
  env.errCode ≠ 0 ∧ env.broadcast ≠ ctcDdlVersionNotMatch ∧ env.getTchUnlock = 0

instance : Decidable (GivesBack env) :=
  inferInstanceAs (Decidable (_ ∧ _ ∧ _))

/-- Without a `pre_func` the statement is forwarded unless the session skips the engine. -/
theorem pluginDdlBlock_needForward (stmt : Statement) (needForward : Bool) :
    (pluginDdlBlock env stmt ⟨none⟩ needForward).2 = needForward := by
  unfold pluginDdlBlock
  dsimp only
  rw [if_neg (by simp)]
  split
  · rfl
  · split
    · rfl
    · split
      · rfl
      · split
        · rfl
        · split <;> rfl

/-- Both locks, or no engine lock and a failure. -/
theorem ctcCheckLockInstance_ok {needForward : Bool} {locked : Int × Bool × Thd}
    (h : ctcCheckLockInstance build env needForward ⟨false, []⟩ = .ok locked) :
    (locked.1 ≠ 0 ∧ locked.2.2.calls.countP EngineCall.locks = 0) ∨
      (env.nameLocks = 0 ∧ env.backupLockRefused = false ∧ env.getTch = 0 ∧
        env.lockInstance = 0) := by
  unfold ctcCheckLockInstance at h
  rw [if_neg (by simp)] at h
  by_cases hbusy : ctcIsDdlProcessing env.nameLocks = true
  · rw [if_pos hbusy] at h
    obtain rfl := Except.ok.inj h
    exact Or.inl ⟨by simp, rfl⟩
  rw [if_neg hbusy] at h
  cases hbackup : env.backupLockRefused with
  | true =>
    rw [hbackup, if_pos rfl] at h
    obtain rfl := Except.ok.inj h
    exact Or.inl ⟨by simp, rfl⟩
  | false =>
    rw [hbackup, if_neg Bool.false_ne_true] at h
    dsimp only at h
    by_cases htch : env.getTch = 0
    · rw [if_neg (not_not.mpr htch)] at h
      obtain ⟨-, -, hlocked⟩ := result_bind_eq_ok.mp h
      obtain rfl := Except.ok.inj hlocked
      by_cases hgranted : env.lockInstance = 0
      · refine Or.inr ⟨?_, rfl, htch, hgranted⟩
        simpa [ctcIsDdlProcessing] using hbusy
      · exact Or.inl ⟨hgranted, by simp [EngineCall.locks, hgranted]⟩
    · rw [if_pos htch] at h
      obtain rfl := Except.ok.inj h
      exact Or.inl ⟨by simp, rfl⟩

/-- A statement that does not take the engine lock has nothing to give back. -/
theorem ctcDdlRewrite_no_lock {stmt : Statement} (hcmd : stmt.sqlCmd = .lockInstance)
    (hddl : stmt.ddlCmd = some ⟨none⟩) (hnot : ¬ TakesLock env stmt) {ret : Int} {thd : Thd}
    (hout : ctcDdlRewrite build env stmt ⟨false, []⟩ = .ok (ret, thd)) :
    thd.calls.countP EngineCall.locks = 0 := by
  unfold ctcDdlRewrite at hout
  by_cases hinit : env.isMetaVersionInitialize = true
  · rw [if_pos hinit] at hout
    cases hout
    rfl
  rw [if_neg hinit] at hout
  by_cases hparsed : stmt.isPostparse = false
  · rw [if_pos hparsed] at hout
    obtain ⟨-, -, hout⟩ := result_bind_eq_ok.mp hout
    cases hout
    rfl
  rw [if_neg hparsed, hddl] at hout
  dsimp only at hout
  by_cases hpass : pluginDdlPassthru env = true
  · rw [if_pos hpass] at hout
    cases hout
    rfl
  rw [if_neg hpass] at hout
  by_cases hblock : (pluginDdlBlock env stmt ⟨none⟩ (!engineSkipDdl env)).1 = true
  · rw [if_pos hblock] at hout
    cases hout
    rfl
  rw [if_neg hblock, hcmd] at hout
  by_cases hswitch : ctcCheckMetadataSwitch env = 1
  · rw [if_neg (fun h => h.1 hswitch), if_pos rfl] at hout
    obtain ⟨locked, hlocked, hout⟩ := result_bind_eq_ok.mp hout
    rcases ctcCheckLockInstance_ok build env hlocked with
      ⟨hret, hcalls⟩ | ⟨hidle, hbackup, htch, hgranted⟩
    · rw [if_pos hret] at hout
      cases hout
      exact hcalls
    · refine absurd ⟨?_, ?_, ?_, ?_, ?_, hidle, hbackup, htch, hgranted⟩ hnot
      · simpa using hinit
      · simpa using hparsed
      · simpa using hpass
      · simpa using hblock
      · unfold ctcCheckMetadataSwitch at hswitch
        split at hswitch <;> first | assumption | cases hswitch
  · rw [if_pos ⟨hswitch, by simp⟩] at hout
    cases hout
    rfl

/-- A statement that takes it goes on with both locks. -/
theorem ctcDdlRewrite_lock {stmt : Statement} (hcmd : stmt.sqlCmd = .lockInstance)
    (hddl : stmt.ddlCmd = some ⟨none⟩) (h : TakesLock env stmt) :
    ∃ mode, ctcDdlRewrite build env stmt ⟨false, []⟩ =
      .ok (forwardDdl env .lockInstance (!engineSkipDdl env)
        ⟨true, [.lockInstance mode 0]⟩) := by
  refine ⟨if env.ctcEnableXLockInstance || env.isStarting then .exclusive else .share, ?_⟩
  unfold ctcDdlRewrite
  rw [if_neg (by simp [h.initialized]), if_neg (by simp [h.parsed]), hddl]
  dsimp only
  rw [if_neg (by simp [h.passed]), pluginDdlBlock_needForward, if_neg (by simp [h.allowed]),
    if_neg (by simp [ctcCheckMetadataSwitch, h.switch]), if_pos hcmd]
  unfold ctcCheckLockInstance
  rw [if_neg (by simp), if_neg (by simp [ctcIsDdlProcessing, h.idle]),
    if_neg (by simp [h.backupLock])]
  dsimp only
  rw [if_neg (by simp [h.tch]), h.granted, hcmd]
  simp

/-- Every error of the other nodes is reported. -/
theorem ddlBroadcastAndWait_fails_iff (sqlCmd : SqlCmd) (hcmd : sqlCmd ≠ .lockTables)
    (thd : Thd) :
    (ddlBroadcastAndWait env sqlCmd thd).1.isSome = true ↔ env.broadcast ≠ 0 := by
  unfold ddlBroadcastAndWait
  rw [if_neg (fun h => hcmd h.1)]
  by_cases hcode : env.broadcast ≠ 0 ∧ env.errCode ≠ 0
  · rw [if_pos hcode]
    exact iff_of_true rfl hcode.1
  · rw [if_neg hcode]
    dsimp only
    rw [Option.isSome_map, Option.isSome_iff_ne_none, Ne, convertCtcErrorCodeToMysql_eq_none_iff]

/-- The engine calls behind the answer of the other nodes. -/
theorem ddlBroadcastAndWait_calls (thd : Thd) (hbackup : thd.backupLock = true) :
    (ddlBroadcastAndWait env .lockInstance thd).2.calls =
      thd.calls ++ if env.broadcast ≠ 0 ∧ GivesBack env then [.unlockInstance] else [] := by
  unfold ddlBroadcastAndWait ctcDdlRewriteHandleError ctcCheckUnlockInstance
  rw [if_neg (by simp)]
  by_cases hcode : env.broadcast ≠ 0 ∧ env.errCode ≠ 0
  · rw [if_pos hcode]
    dsimp only
    by_cases hversion : env.broadcast = ctcDdlVersionNotMatch
    · rw [if_pos hversion, if_neg (fun h => h.2.2.1 hversion), List.append_nil]
    · rw [if_neg hversion, if_pos rfl, if_neg (by simp [hbackup])]
      by_cases htch : env.getTchUnlock = 0
      · rw [if_neg (not_not.mpr htch), if_pos ⟨hcode.1, hcode.2, hversion, htch⟩]
      · rw [if_pos htch, if_neg (fun h => htch h.2.2.2), List.append_nil]
  · rw [if_neg hcode, if_neg (fun h => hcode ⟨h.1, h.2.1⟩), List.append_nil]

/-- **When a failed LOCK INSTANCE gives the engine lock back.** -/
theorem ctcDdlRewrite_lockInstance_released_iff (isPostparse : Bool) (queryLength : Nat) :
    ReleasedOnFailure
        (ctcDdlRewrite build env (lockInstanceStmt isPostparse queryLength) ⟨false, []⟩) ↔
      (TakesLock env (lockInstanceStmt isPostparse queryLength) → engineSkipDdl env = false →
        env.broadcast ≠ 0 → GivesBack env) := by
  by_cases htakes : TakesLock env (lockInstanceStmt isPostparse queryLength)
  · obtain ⟨mode, hout⟩ := ctcDdlRewrite_lock build env rfl rfl htakes
    rw [hout, imp_iff_right htakes]
    unfold forwardDdl
    cases hskip : engineSkipDdl env with
    | true =>
      refine iff_of_true ?_ (fun h => absurd h (by simp))
      intro ret thd heq hret
      cases heq
      exact absurd rfl hret
    | false =>
      have hfails := ddlBroadcastAndWait_fails_iff env .lockInstance (by simp)
        ⟨true, [.lockInstance mode 0]⟩
      have hcalls := ddlBroadcastAndWait_calls env ⟨true, [.lockInstance mode 0]⟩ rfl
      rw [imp_iff_right rfl]
      constructor
      · intro h hbroadcast
        by_contra hkeeps
        have hcount := h _ _ rfl (by simp [hfails.mpr hbroadcast])
        rw [hcalls, if_neg (fun hgives => hkeeps hgives.2)] at hcount
        simp [EngineCall.locks, EngineCall.unlocks] at hcount
      · rintro h ret thd heq hret
        cases heq
        have hbroadcast : env.broadcast ≠ 0 := by
          rw [← hfails]
          by_contra hnone
          exact hret (if_neg hnone)
        rw [hcalls, if_pos ⟨hbroadcast, h hbroadcast⟩]
        simp [EngineCall.locks, EngineCall.unlocks]
  · refine iff_of_true ?_ (fun h => absurd h htakes)
    intro ret thd hout _
    rw [ctcDdlRewrite_no_lock build env rfl rfl htakes hout]
    exact Nat.zero_le _

end

/-- A started server, with nothing that stands in the way of `LOCK INSTANCE`. The other nodes
answer with `broadcast` and `errCode`. -/
def startedEnv (broadcast errCode : Int) : Env where
  metadataNormalized := false
  isInitialize := false
  upgradeForce := false
  mysqldServerStarted := true
  ddlLocalEnabled := false
  ddlEnabled := false
  ctcConcurrentDdl := true
  engineIsCtc := true
  metadataSwitch := .matchNoMeta
  recordSql := 0
  privHost := "%"
  initAgentClient := 0
  nameLocks := 0
  backupLockRefused := false
  ctcEnableXLockInstance := false
  getTch := 0
  lockInstance := 0
  lockTablePre := 0
  broadcast := broadcast
  errCode := errCode
  getTchUnlock := 0
  isInstanceLockedByBackup := false
  isSetSessionVar := false
  isHaveGlobalReadLock := false

/-- The broadcast finds no memory and sets no error code: the statement fails and the engine lock
stays. -/
theorem ctcDdlRewrite_lockInstance_keeps_lock :
    ctcDdlRewrite .release (startedEnv 1 0) (lockInstanceStmt true 24) ⟨false, []⟩ =
        .ok (1, ⟨true, [.lockInstance .share 0]⟩) ∧
      ¬ ReleasedOnFailure
        (ctcDdlRewrite .release (startedEnv 1 0) (lockInstanceStmt true 24) ⟨false, []⟩) := by
  have hout : ctcDdlRewrite .release (startedEnv 1 0) (lockInstanceStmt true 24) ⟨false, []⟩ =
      .ok (1, ⟨true, [.lockInstance .share 0]⟩) := rfl
  refine ⟨hout, fun h => ?_⟩
  have hcount := h _ _ hout (by simp)
  simp [EngineCall.locks, EngineCall.unlocks] at hcount

end CantianConnector.Ddl
