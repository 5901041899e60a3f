import CantianConnector.Mdl.LockTables

/-!
# Notifications of exclusive locks

Before the server acquires an exclusive metadata lock, and after it has released one, it notifies
the engine. `ctc_notify_exclusive_mdl` has the lock taken on the other nodes in the first case and
released there in the second; where anything fails it sends an unlock request and refuses.
`ctc_notify_alter_table` does the same behind local locks on the tables of the statement, which it
releases again on every path.

What the functions are for is a list of the keys on which the session has permission. A run of
notifications keeps it and what the other nodes hold the same, as long as the requests are
delivered.
-/

namespace CantianConnector.Mdl

/-! ## What the functions read -/

/-- `ha_notification_type`. -/
inductive HaNotification where
  | preEvent
  | postEvent
deriving DecidableEq, Repr

/-- `MDL_key::SCHEMA`. -/
def mdlKeySchema : Int := 3

def mdlKeyAclCache : Int := 13

def mdlSharedUpgradable : Int := 6

def sqlcomCreateDb : SqlCommand := .other 36

def sqlcomDropDb : SqlCommand := .other 37

/-- `MAX_DDL_SQL_LEN_CONTEXT`. -/
def maxDdlSqlLenContext : Nat := 63488

/-- The flags of the session, the settings of the server and its state. -/
structure DdlMode where
  /-- `CTC_DDL_LOCAL_ENABLED` in `set_flag`. -/
  ddlLocalEnabled : Bool
  /-- `CTC_DDL_ENABLED` in `set_flag`. -/
  ddlEnabled : Bool
  concurrentDdl : Bool
  isInitialize : Bool
  isMetaVersionUpgradingForce : Bool
  mysqldServerStarted : Bool
deriving DecidableEq, Repr

/-- `engine_skip_ddl`. -/
def engineSkipDdl (mode : DdlMode) : Bool := mode.ddlLocalEnabled && mode.concurrentDdl

/-- `ddl_enabled_normal`. -/
def ddlEnabledNormal (mode : DdlMode) : Bool :=
  !mode.ddlLocalEnabled && (mode.concurrentDdl || mode.ddlEnabled)

/-- `engine_ddl_passthru`. -/
def engineDdlPassthru (mode : DdlMode) : Bool :=
  if mode.isInitialize || mode.isMetaVersionUpgradingForce then false
  else mode.isInitialize || !mode.mysqldServerStarted || mode.ddlLocalEnabled

/-- A notification, and what the functions meet that it calls. -/
structure Notice (ι : Type) where
  event : HaNotification
  mdlKey : MdlKey
  /-- The tables of the statement, for `ctc_notify_alter_table`. -/
  alterTables : Option (List (LockedTable ι))
  isCtcMdlThd : Bool
  metadataNormalized : Bool
  queryLength : Nat
  mode : DdlMode
  hasQueryTables : Bool
  isSystemDb : Bool
  sqlCommand : SqlCommand
  user : UserInfo
  getTch : Int
  /-- `get_or_init_sess_ctx` has found or made a context. -/
  sessCtx : Bool
  isWorkFlow : Bool
  /-- What `ctc_lock_table` returns. -/
  lockResult : Int
  /-- The nodes that the lock request reaches: whether their servers have been started, and
  whether they grant the lock. -/
  locked : ι → Option (Bool × Bool)
  /-- `ctc_pre_create_db4cantian`. -/
  preCreateDb : Int
  /-- `ctc_drop_db_pre_check`. -/
  dropDbPreCheck : Int
  /-- What `ctc_unlock_table` returns in `ctc_notify_post_event`. -/
  unlockResult : Int
  /-- The nodes that this unlock request reaches, and whether their servers have been started. -/
  unlocked : ι → Option Bool
  /-- The same for the unlock request that follows a failure. -/
  undone : ι → Option Bool

/-! ## The functions -/

section

variable {ι : Type} (createMdlKey : Int → String → String → MdlKey)

/-- The `lock_info` of a notification. -/
def Notice.lockInfo (notice : Notice ι) : LockTableInfo where
  dbName := smallRecord notice.mdlKey.dbName
  tableName := smallRecord notice.mdlKey.name
  userName := smallRecord notice.user.userName
  userIp := smallRecord notice.user.userIp
  sqlType := notice.sqlCommand
  mdlNamespace := notice.mdlKey.mdlNamespace

/-- A lock request on the nodes that it reaches. -/
def lockOn (locked : ι → Option (Bool × Bool)) (lockInfo : LockTableInfo)
    (nodes : ι → Option MdlThd) : ι → Option MdlThd := fun node =>
  match locked node with
  | none => nodes node
  | some (isWorkFlow, granted) =>
    (ctcDdlExecuteLockTables createMdlKey isWorkFlow granted lockInfo (nodes node)).2

/-- An unlock request on the nodes that it reaches. -/
def unlockOn (unlocked : ι → Option Bool) (lockInfo : LockTableInfo)
    (nodes : ι → Option MdlThd) : ι → Option MdlThd := fun node =>
  match unlocked node with
  | none => nodes node
  | some isWorkFlow => ctcDdlExecuteUnlockTables createMdlKey isWorkFlow lockInfo (nodes node)

/-- The answer in front of `ctc_notify_pre_event` and `ctc_notify_post_event`, if there is one. -/
def Notice.early (notice : Notice ι) : Option Bool :=
  if notice.isCtcMdlThd ||
      (notice.event = .preEvent && notice.mdlKey.mdlNamespace = mdlKeyAclCache) then some false
  else if !notice.metadataNormalized && maxDdlSqlLenContext < notice.queryLength then some true
  else if engineDdlPassthru notice.mode then some false
  else if !notice.metadataNormalized && engineSkipDdl notice.mode then some false
  else if !notice.metadataNormalized && !ddlEnabledNormal notice.mode then some true
  else if !notice.metadataNormalized && !notice.hasQueryTables &&
      notice.mdlKey.mdlNamespace ≠ mdlKeySchema then some false
  else if !notice.metadataNormalized && notice.isSystemDb then some false
  else if notice.getTch ≠ 0 then some true
  else none

/-- The `switch` of `ctc_notify_pre_event`. -/
def Notice.prepareDb (notice : Notice ι) : Int :=
  if notice.sqlCommand = sqlcomCreateDb then notice.preCreateDb
  else if notice.sqlCommand = sqlcomDropDb then notice.dropDbPreCheck
  else 0

/-- `ctc_notify_pre_event`. -/
def ctcNotifyPreEvent (notice : Notice ι) (nodes : ι → Option MdlThd) :
    Int × (ι → Option MdlThd) :=
  -- `HA_ERR_OUT_OF_MEM`
  if notice.sessCtx = false then (128, nodes)
  else if notice.isWorkFlow = false then (notice.prepareDb, nodes)
  else
    let nodes := lockOn createMdlKey notice.locked notice.lockInfo nodes
    if notice.lockResult ≠ 0 then (notice.lockResult, nodes) else (notice.prepareDb, nodes)

/-- `ctc_notify_post_event`. For `ACL_CACHE` it has the caches of the other nodes invalidated. -/
def ctcNotifyPostEvent (notice : Notice ι) (nodes : ι → Option MdlThd) :
    Int × (ι → Option MdlThd) :=
  if notice.sessCtx = false then (128, nodes)
  else if notice.isWorkFlow = false then (0, nodes)
  else if notice.mdlKey.mdlNamespace = mdlKeyAclCache then (0, nodes)
  else (notice.unlockResult, unlockOn createMdlKey notice.unlocked notice.lockInfo nodes)

/-- `ctc_notify_exclusive_mdl`: true if the lock is refused. -/
def ctcNotifyExclusiveMdl (notice : Notice ι) (nodes : ι → Option MdlThd) :
    Bool × (ι → Option MdlThd) :=
  match notice.early with
  | some answer => (answer, nodes)
  | none =>
    let out : Int × (ι → Option MdlThd) :=
      match notice.event with
      | .preEvent => ctcNotifyPreEvent createMdlKey notice nodes
      | .postEvent => ctcNotifyPostEvent createMdlKey notice nodes
    if out.1 ≠ 0 then (true, unlockOn createMdlKey notice.undone notice.lockInfo out.2)
    else (false, out.2)

/-- `ctc_lock_table_pre` in front of `ctc_notify_alter_table` fails. -/
def Notice.preLockFails (notice : Notice ι) : Bool :=
  notice.alterTables.any fun tables => notice.metadataNormalized &&
    notice.event = .preEvent && (ctcLockTablePre mdlSharedUpgradable tables []).1 ≠ 0

/-- The function that a notification calls: `ctc_notify_alter_table`, or
`ctc_notify_exclusive_mdl` alone. -/
def ctcNotify (notice : Notice ι) (nodes : ι → Option MdlThd) : Bool × (ι → Option MdlThd) :=
  if notice.preLockFails then (true, nodes) else ctcNotifyExclusiveMdl createMdlKey notice nodes

/-! ## What they are for -/

/-- The key that the other nodes lock. -/
def Notice.remoteKey (notice : Notice ι) : MdlKey :=
  (ctcInitMdlRequest createMdlKey notice.lockInfo).key

/-- The keys on which the session has permission. It gets one with a lock request whose
notification is not refused, and gives it back with the notification that the lock has been
released, unless that one does not get as far. -/
def permittedKeys (notice : Notice ι) (answer : Bool) (keys : List MdlKey) : List MdlKey :=
  match notice.event with
  | .preEvent =>
    if notice.early = none ∧ notice.isWorkFlow = true ∧ answer = false then
      notice.remoteKey createMdlKey :: keys
    else keys
  | .postEvent =>
    if notice.early = none ∧ (notice.sessCtx = true →
        notice.isWorkFlow = true ∧ notice.mdlKey.mdlNamespace ≠ mdlKeyAclCache) then
      keys.filter (· ≠ notice.remoteKey createMdlKey)
    else keys

/-- The other nodes, and the keys on which the session has permission. -/
structure Cluster (ι : Type) where
  nodes : ι → Option MdlThd
  permitted : List MdlKey

/-- One notification. -/
def notifyStep (cluster : Cluster ι) (notice : Notice ι) : Cluster ι :=
  let out := ctcNotify createMdlKey notice cluster.nodes
  ⟨out.2, permittedKeys createMdlKey notice out.1 cluster.permitted⟩

/-- The session holds a lock on the key. -/
def Holds (thd : Option MdlThd) (key : MdlKey) : Prop := ∃ ticket ∈ heldOf thd, ticket.key = key

/-- What a node holds are locks on these keys. -/
def HoldsKeys (thd : Option MdlThd) (keys : List MdlKey) : Prop :=
  Tracked thd ∧ ∀ key, Holds thd key ↔ key ∈ keys

/-- Every node holds locks on the keys on which the session has permission, and on no others. -/
def Agrees (cluster : Cluster ι) : Prop :=
  ∀ node, HoldsKeys (cluster.nodes node) cluster.permitted

/-- The requests of a notification are delivered: a request that is answered by 0 has been carried
out on every node, and the unlock request behind a failure reaches every node, unless nothing has
been locked there. -/
structure Notice.Delivered (notice : Notice ι) : Prop where
  lock : notice.lockResult = 0 → ∀ node, notice.locked node = some (true, true)
  unlock : notice.unlockResult = 0 → ∀ node, notice.unlocked node = some true
  undo : ∀ node, notice.undone node = some true ∨
    (notice.event = .preEvent ∧ notice.locked node ≠ some (true, true))

/-- When a notification keeps the two the same: metadata are normalised, it does not come from
`LOCK TABLES` or `UNLOCK TABLES`, its requests are delivered and the permission that it asks for is
a new one. -/
structure Proper (cluster : Cluster ι) (notice : Notice ι) : Prop where
  normalized : notice.metadataNormalized = true
  command : notice.sqlCommand ≠ .lockTables ∧ notice.sqlCommand ≠ .unlockTables
  delivered : notice.Delivered
  new : notice.early = none → notice.event = .preEvent →
    notice.remoteKey createMdlKey ∉ cluster.permitted

/-! ## Requests on one node -/

theorem Tracked.mem_keys {thd : Option MdlThd} (h : Tracked thd) (key : MdlKey) :
    key ∈ (ticketsOf thd).map Prod.fst ↔ Holds thd key := by
  rw [List.mem_map]
  constructor
  · rintro ⟨entry, hentry, rfl⟩
    exact ⟨entry.2, MdlThd.Tracked.held_of_mem h hentry, MdlThd.Tracked.keyed h entry hentry⟩
  · rintro ⟨ticket, hticket, rfl⟩
    exact ⟨_, MdlThd.Tracked.mem_held h |>.mp hticket, rfl⟩

theorem holds_unlock {thd : Option MdlThd} (h : Tracked thd) {lockInfo : LockTableInfo}
    (hcommand : lockInfo.sqlType ≠ .unlockTables) :
    Tracked (ctcDdlExecuteUnlockTables createMdlKey true lockInfo thd) ∧
      ∀ key, Holds (ctcDdlExecuteUnlockTables createMdlKey true lockInfo thd) key ↔
        Holds thd key ∧ key ≠ (ctcInitMdlRequest createMdlKey lockInfo).key := by
  unfold ctcDdlExecuteUnlockTables
  rw [if_neg hcommand]
  obtain ⟨htracked, hheld⟩ := h.unlockThd createMdlKey lockInfo
  refine ⟨htracked, fun key => ?_⟩
  constructor
  · rintro ⟨ticket, hticket, rfl⟩
    obtain ⟨hmem, hne⟩ := (hheld ticket).mp hticket
    exact ⟨⟨ticket, hmem, rfl⟩, hne⟩
  · rintro ⟨⟨ticket, hticket, rfl⟩, hne⟩
    exact ⟨ticket, (hheld ticket).mpr ⟨hticket, hne⟩, rfl⟩

theorem holds_lock {thd : Option MdlThd} (h : Tracked thd) {lockInfo : LockTableInfo}
    (hcommand : lockInfo.sqlType ≠ .lockTables)
    (hnew : ¬ Holds thd (ctcInitMdlRequest createMdlKey lockInfo).key) (isWorkFlow granted : Bool) :
    Tracked (ctcDdlExecuteLockTables createMdlKey isWorkFlow granted lockInfo thd).2 ∧
      ∀ key, Holds (ctcDdlExecuteLockTables createMdlKey isWorkFlow granted lockInfo thd).2 key ↔
        Holds thd key ∨ (key = (ctcInitMdlRequest createMdlKey lockInfo).key ∧
          isWorkFlow = true ∧ granted = true) := by
  unfold ctcDdlExecuteLockTables
  rw [if_neg hcommand]
  refine ⟨(h.lockThd createMdlKey lockInfo fun _ _ => mt (h.mem_keys _).mp hnew).1, fun key => ?_⟩
  unfold ctcMdlLockThd
  cases isWorkFlow with
  | false => simp
  | true =>
    rw [if_neg (by simp)]
    cases granted with
    | false =>
      have hsame : heldOf (some ((thd.getD .init).acquireLock
          (ctcInitMdlRequest createMdlKey lockInfo) false).2) = heldOf thd := rfl
      unfold Holds
      dsimp only
      rw [hsame]
      simp
    | true =>
      have hheld : heldOf (some ((thd.getD .init).acquireLock
          (ctcInitMdlRequest createMdlKey lockInfo) true).2) = heldOf thd ++
            [⟨(thd.getD .init).nextTicket, (ctcInitMdlRequest createMdlKey lockInfo).key,
              (ctcInitMdlRequest createMdlKey lockInfo).type⟩] := rfl
      unfold Holds
      dsimp only
      rw [hheld]
      simp only [List.mem_append, List.mem_singleton, or_and_right, exists_or, exists_eq_left,
        and_true, @eq_comm _ key]

variable {nodes : ι → Option MdlThd} {node : ι} {keys : List MdlKey} {lockInfo : LockTableInfo}

theorem HoldsKeys.unlocked (h : HoldsKeys (nodes node) keys) {unlocked : ι → Option Bool}
    (hreached : unlocked node = some true) (hcommand : lockInfo.sqlType ≠ .unlockTables) :
    HoldsKeys (unlockOn createMdlKey unlocked lockInfo nodes node)
      (keys.filter (· ≠ (ctcInitMdlRequest createMdlKey lockInfo).key)) := by
  unfold unlockOn
  rw [hreached]
  obtain ⟨htracked, hholds⟩ := holds_unlock createMdlKey h.1 hcommand
  refine ⟨htracked, fun key => ?_⟩
  rw [List.mem_filter, decide_eq_true_iff, ← h.2 key]
  exact hholds key

/-- An unlock request that has been sent may have come too late or not at all; the next one
makes up for it. -/
theorem HoldsKeys.unlocked_again (h : HoldsKeys (nodes node) keys) (unlocked : ι → Option Bool)
    {undone : ι → Option Bool} (hreached : undone node = some true)
    (hcommand : lockInfo.sqlType ≠ .unlockTables) :
    HoldsKeys (unlockOn createMdlKey undone lockInfo
      (unlockOn createMdlKey unlocked lockInfo nodes) node)
      (keys.filter (· ≠ (ctcInitMdlRequest createMdlKey lockInfo).key)) := by
  rcases hunlocked : unlocked node with _ | isWorkFlow
  · have hsame : unlockOn createMdlKey unlocked lockInfo nodes node = nodes node := by
      unfold unlockOn
      rw [hunlocked]
    exact HoldsKeys.unlocked createMdlKey (hsame ▸ h) hreached hcommand
  cases isWorkFlow with
  | false =>
    have hsame : unlockOn createMdlKey unlocked lockInfo nodes node = nodes node := by
      unfold unlockOn ctcDdlExecuteUnlockTables
      rw [hunlocked]
      dsimp only
      rw [if_neg hcommand]
      rfl
    exact HoldsKeys.unlocked createMdlKey (hsame ▸ h) hreached hcommand
  | true =>
    have hagain := (h.unlocked createMdlKey hunlocked hcommand).unlocked createMdlKey hreached
      hcommand
    rw [List.filter_filter] at hagain
    simpa only [Bool.and_self] using hagain

theorem HoldsKeys.locked (h : HoldsKeys (nodes node) keys) {locked : ι → Option (Bool × Bool)}
    (hreached : locked node = some (true, true)) (hcommand : lockInfo.sqlType ≠ .lockTables)
    (hnew : (ctcInitMdlRequest createMdlKey lockInfo).key ∉ keys) :
    HoldsKeys (lockOn createMdlKey locked lockInfo nodes node)
      ((ctcInitMdlRequest createMdlKey lockInfo).key :: keys) := by
  unfold lockOn
  rw [hreached]
  obtain ⟨htracked, hholds⟩ :=
    holds_lock createMdlKey h.1 hcommand (mt (h.2 _).mp hnew) true true
  refine ⟨htracked, fun key => ?_⟩
  rw [List.mem_cons, ← h.2 key, or_comm]
  refine (hholds key).trans ?_
  simp

/-- A lock request that is not granted everywhere. -/
theorem HoldsKeys.not_locked (h : HoldsKeys (nodes node) keys)
    {locked : ι → Option (Bool × Bool)} (hreached : locked node ≠ some (true, true))
    (hcommand : lockInfo.sqlType ≠ .lockTables)
    (hnew : (ctcInitMdlRequest createMdlKey lockInfo).key ∉ keys) :
    HoldsKeys (lockOn createMdlKey locked lockInfo nodes node) keys := by
  unfold lockOn
  rcases hlocked : locked node with _ | ⟨isWorkFlow, granted⟩
  · exact h
  obtain ⟨htracked, hholds⟩ :=
    holds_lock createMdlKey h.1 hcommand (mt (h.2 _).mp hnew) isWorkFlow granted
  refine ⟨htracked, fun key => ?_⟩
  have hnot : ¬ (isWorkFlow = true ∧ granted = true) := by
    rintro ⟨rfl, rfl⟩
    exact hreached hlocked
  rw [← h.2 key]
  refine (hholds key).trans ?_
  simp only [hnot, and_false, or_false]

theorem filter_ne_of_not_mem {key : MdlKey} (hnew : key ∉ keys) :
    keys.filter (· ≠ key) = keys :=
  List.filter_eq_self.mpr fun _ hmem => decide_eq_true fun heq => hnew (heq ▸ hmem)

/-- An unlock request for a key that is not held. -/
theorem HoldsKeys.unlocked_new (h : HoldsKeys (nodes node) keys) (undone : ι → Option Bool)
    (hcommand : lockInfo.sqlType ≠ .unlockTables)
    (hnew : (ctcInitMdlRequest createMdlKey lockInfo).key ∉ keys) :
    HoldsKeys (unlockOn createMdlKey undone lockInfo nodes node) keys := by
  rcases hundone : undone node with _ | isWorkFlow
  · unfold unlockOn
    rw [hundone]
    exact h
  cases isWorkFlow with
  | false =>
    unfold unlockOn ctcDdlExecuteUnlockTables
    rw [hundone]
    dsimp only
    rw [if_neg hcommand]
    exact h
  | true =>
    have hunlocked := h.unlocked createMdlKey hundone hcommand
    rwa [filter_ne_of_not_mem hnew] at hunlocked

/-- What a refused notification leaves behind its two requests. -/
theorem HoldsKeys.locked_unlocked (h : HoldsKeys (nodes node) keys)
    {locked : ι → Option (Bool × Bool)} {undone : ι → Option Bool}
    (hundo : undone node = some true ∨ locked node ≠ some (true, true))
    (hcommand : lockInfo.sqlType ≠ .lockTables ∧ lockInfo.sqlType ≠ .unlockTables)
    (hnew : (ctcInitMdlRequest createMdlKey lockInfo).key ∉ keys) :
    HoldsKeys (unlockOn createMdlKey undone lockInfo
      (lockOn createMdlKey locked lockInfo nodes) node) keys := by
  by_cases hlocked : locked node = some (true, true)
  · have hboth := (h.locked createMdlKey hlocked hcommand.1 hnew).unlocked createMdlKey
      (hundo.resolve_right (not_not_intro hlocked)) hcommand.2
    rw [List.filter_cons_of_neg (by simp)] at hboth
    rwa [filter_ne_of_not_mem hnew] at hboth
  · exact (h.not_locked createMdlKey hlocked hcommand.1 hnew).unlocked_new createMdlKey undone
      hcommand.2 hnew

/-! ## Notifications -/

variable {cluster : Cluster ι} {notice : Notice ι}

theorem permittedKeys_of_refused {answer : Bool} (hevent : notice.event = .preEvent)
    (hanswer : answer = true) :
    permittedKeys createMdlKey notice answer cluster.permitted = cluster.permitted := by
  unfold permittedKeys
  rw [hevent]
  dsimp only
  rw [if_neg (by simp [hanswer])]

/-- A notification that is answered early does nothing. -/
theorem permittedKeys_of_early {answer early : Bool} (h : notice.early = some early) :
    permittedKeys createMdlKey notice answer cluster.permitted = cluster.permitted := by
  unfold permittedKeys
  split <;> rw [if_neg (by simp [h])]

/-- A notification before the lock. -/
theorem Agrees.preEvent (h : Agrees cluster) (hproper : Proper createMdlKey cluster notice)
    (hearly : notice.early = none) (hevent : notice.event = .preEvent) (node : ι) :
    let out := ctcNotifyExclusiveMdl createMdlKey notice cluster.nodes
    HoldsKeys (out.2 node) (permittedKeys createMdlKey notice out.1 cluster.permitted) := by
  have hnew := hproper.new hearly hevent
  have hundo := (hproper.delivered.undo node).imp_right And.right
  unfold ctcNotifyExclusiveMdl
  rw [hearly, hevent]
  dsimp only
  unfold ctcNotifyPreEvent
  by_cases hsess : notice.sessCtx = false
  · rw [if_pos hsess]
    dsimp only
    rw [if_pos (by decide), permittedKeys_of_refused createMdlKey hevent rfl]
    exact (h node).unlocked_new createMdlKey _ hproper.command.2 hnew
  rw [if_neg hsess]
  by_cases hflow : notice.isWorkFlow = false
  · -- no lock request
    rw [if_pos hflow]
    have hkeys : ∀ answer, permittedKeys createMdlKey notice answer cluster.permitted =
        cluster.permitted := by
      intro answer
      unfold permittedKeys
      rw [hevent]
      dsimp only
      rw [if_neg (by simp [hflow])]
    rw [hkeys]
    split
    · exact (h node).unlocked_new createMdlKey _ hproper.command.2 hnew
    · exact h node
  rw [if_neg hflow]
  dsimp only
  by_cases hret : notice.lockResult = 0
  · rw [if_neg (not_not_intro hret)]
    by_cases hdb : notice.prepareDb = 0
    · rw [if_neg (not_not_intro hdb)]
      unfold permittedKeys
      rw [hevent]
      dsimp only
      rw [if_pos ⟨hearly, by simpa using hflow, rfl⟩]
      exact (h node).locked createMdlKey (hproper.delivered.lock hret node) hproper.command.1 hnew
    · rw [if_pos hdb, permittedKeys_of_refused createMdlKey hevent rfl]
      exact (h node).locked_unlocked createMdlKey hundo hproper.command hnew
  · rw [if_pos hret, if_pos hret, permittedKeys_of_refused createMdlKey hevent rfl]
    exact (h node).locked_unlocked createMdlKey hundo hproper.command hnew

/-- A notification behind the lock. -/
theorem Agrees.postEvent (h : Agrees cluster) (hproper : Proper createMdlKey cluster notice)
    (hearly : notice.early = none) (hevent : notice.event = .postEvent) (node : ι) :
    let out := ctcNotifyExclusiveMdl createMdlKey notice cluster.nodes
    HoldsKeys (out.2 node) (permittedKeys createMdlKey notice out.1 cluster.permitted) := by
  have hundo : notice.undone node = some true := by
    refine (hproper.delivered.undo node).resolve_right fun hpre => ?_
    rw [hevent] at hpre
    exact absurd hpre.1 (by decide)
  have hcommand := hproper.command.2
  unfold ctcNotifyExclusiveMdl permittedKeys
  rw [hearly, hevent]
  dsimp only
  unfold ctcNotifyPostEvent
  by_cases hsess : notice.sessCtx = false
  · rw [if_pos hsess]
    dsimp only
    rw [if_pos (by decide), if_pos ⟨rfl, by simp [hsess]⟩]
    exact (h node).unlocked createMdlKey hundo hcommand
  have hctx : notice.sessCtx = true := by simpa using hsess
  rw [if_neg hsess]
  by_cases hflow : notice.isWorkFlow = false
  · rw [if_pos hflow]
    dsimp only
    rw [if_neg (by decide), if_neg (by simp [hctx, hflow])]
    exact h node
  rw [if_neg hflow]
  by_cases hacl : notice.mdlKey.mdlNamespace = mdlKeyAclCache
  · rw [if_pos hacl]
    dsimp only
    rw [if_neg (by decide), if_neg (by simp [hctx, hacl])]
    exact h node
  have hends : none = (none : Option Bool) ∧ (notice.sessCtx = true →
      notice.isWorkFlow = true ∧ notice.mdlKey.mdlNamespace ≠ mdlKeyAclCache) :=
    ⟨rfl, fun _ => ⟨by simpa using hflow, hacl⟩⟩
  rw [if_neg hacl]
  dsimp only
  by_cases hret : notice.unlockResult = 0
  · rw [if_neg (not_not_intro hret), if_pos hends]
    exact (h node).unlocked createMdlKey (hproper.delivered.unlock hret node) hcommand
  · rw [if_pos hret, if_pos hends]
    exact (h node).unlocked_again createMdlKey _ hundo hcommand

/-- One notification. -/
theorem Agrees.step (h : Agrees cluster) (hproper : Proper createMdlKey cluster notice) :
    Agrees (notifyStep createMdlKey cluster notice) := by
  intro node
  unfold notifyStep ctcNotify
  dsimp only
  by_cases hpre : notice.preLockFails = true
  · rw [if_pos hpre]
    have hevent : notice.event = .preEvent := by
      unfold Notice.preLockFails at hpre
      cases htables : notice.alterTables with
      | none =>
        rw [htables] at hpre
        cases hpre
      | some tables =>
        rw [htables, Option.any_some, Bool.and_eq_true, Bool.and_eq_true] at hpre
        exact of_decide_eq_true hpre.1.2
    rw [permittedKeys_of_refused createMdlKey hevent rfl]
    exact h node
  rw [if_neg hpre]
  cases hearly : notice.early with
  | some answer =>
    rw [permittedKeys_of_early createMdlKey hearly]
    unfold ctcNotifyExclusiveMdl
    rw [hearly]
    exact h node
  | none =>
    cases hevent : notice.event with
    | preEvent => exact h.preEvent createMdlKey hproper hearly hevent node
    | postEvent => exact h.postEvent createMdlKey hproper hearly hevent node

/-- **The locks of a session on the other nodes.** In a run of notifications whose requests are
delivered and which ask for new permissions only, every node holds at any time locks on exactly
the keys on which the session has permission, and a notification that is refused leaves no lock.
Permission comes and goes with the notifications that send requests. -/
theorem notifications_agree {notices : List (Notice ι)}
    (hRun : Machine.Guarded (notifyStep createMdlKey) (Proper createMdlKey)
      ⟨fun _ => none, []⟩ notices) (k : Nat) :
    Agrees ((notices.take k).foldl (notifyStep createMdlKey) ⟨fun _ => none, []⟩) := by
  have hInit : Agrees (⟨fun _ => none, []⟩ : Cluster ι) := by
    refine fun node => ⟨MdlThd.tracked_init, fun key => ?_⟩
    refine iff_of_false ?_ List.not_mem_nil
    rintro ⟨ticket, hticket, -⟩
    exact List.not_mem_nil hticket
  exact Machine.invariant_of_guarded (fun _ _ h hproper => Agrees.step createMdlKey h hproper)
    hInit hRun k

end

/-- A notification about the table `d.t` or `d.u` to two nodes, the second of which grants the lock
or does not. -/
def tableNotice (event : HaNotification) (name : String) (granted : Bool) : Notice Bool where
  event := event
  mdlKey := ⟨mdlKeyTable, "d", name⟩
  alterTables := none
  isCtcMdlThd := false
  metadataNormalized := true
  queryLength := 12
  mode := ⟨false, false, true, false, false, true⟩
  hasQueryTables := true
  isSystemDb := false
  sqlCommand := .other 9
  user := ⟨"u", "h"⟩
  getTch := 0
  sessCtx := true
  isWorkFlow := true
  lockResult := if granted then 0 else erLockWaitTimeout
  locked := fun node => some (true, granted || !node)
  preCreateDb := 0
  dropDbPreCheck := 0
  unlockResult := 0
  unlocked := fun _ => some true
  undone := fun _ => some true

theorem delivered_tableNotice (event : HaNotification) (name : String) (granted : Bool) :
    (tableNotice event name granted).Delivered where
  lock hret node := by
    cases granted with
    | true => rfl
    | false =>
      have hcode : erLockWaitTimeout = 0 := hret
      exact absurd hcode (by decide)
  unlock _ _ := rfl
  undo _ := .inl rfl

/-- `DROP TABLE d.t` locks its table; a lock on `d.u` is refused by the second node. -/
theorem notifications_agree_three :
    Agrees ([tableNotice .preEvent "t" true, tableNotice .preEvent "u" false,
      tableNotice .postEvent "t" true].foldl (notifyStep MdlKey.mk) ⟨fun _ => none, []⟩) := by
  have hcommand : SqlCommand.other 9 ≠ .lockTables ∧ SqlCommand.other 9 ≠ .unlockTables := by
    decide
  have hproper : ∀ event name granted cluster,
      (event = .preEvent → (tableNotice event name granted).remoteKey MdlKey.mk ∉
        cluster.permitted) → Proper MdlKey.mk cluster (tableNotice event name granted) :=
    fun event name granted cluster hnew =>
      ⟨rfl, hcommand, delivered_tableNotice event name granted, fun _ hevent => hnew hevent⟩
  have hRun : Machine.Guarded (notifyStep MdlKey.mk) (Proper MdlKey.mk)
      (⟨fun _ => none, []⟩ : Cluster Bool) [tableNotice .preEvent "t" true,
        tableNotice .preEvent "u" false, tableNotice .postEvent "t" true] :=
    ⟨hproper _ _ _ _ (by decide +kernel), hproper _ _ _ _ (by decide +kernel),
      hproper _ _ _ _ (by decide +kernel), trivial⟩
  exact notifications_agree MdlKey.mk hRun 3

end CantianConnector.Mdl
