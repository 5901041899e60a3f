import CantianConnector.Lib.Assoc
import Mathlib.Logic.Function.Basic

/-!
# The proxy connections of a node

A node executes the DDL of other nodes on its own server, through client connections that it keeps
in `g_mysql_conn_map`, one or two for each remote session. An entry counts the named locks that
its connection holds, `g_name_locks` counts those of all connections, and `table_lock_info` is the
set of tables that the connection is to hold locks on.

The state is the map, the counter, the client handles and what the server keeps for each of them.
What the client calls answer is part of a request. Without normalised metadata the locks of remote
sessions are locks of these connections; with it they are metadata locks of other threads, and
the requests to lock, to unlock and to close do not come here.
-/

namespace CantianConnector.Proxy

/-! ## State -/

/-- The error code of a client call that has failed. -/
structure ClientError where
  code : Int
  nonzero : code ≠ 0

/-- A table, by the names of its database and its own. -/
abbrev Table := String × String

/-- What the server keeps for a connection: how often a named lock has been acquired, the tables
that are locked for writing, and `foreign_key_checks`. -/
structure Session where
  nameLocks : Nat
  tableLocks : List Table
  foreignKeyChecks : Bool

def Session.init : Session := ⟨0, [], true⟩

/-- `ctc_mysql_conn_info`. -/
structure ConnInfo where
  conn : Nat
  tableLockInfo : List Table
  hasExplicitTableLock : Bool
  nameLocks : Nat

/-- `init_ctc_mysql_conn`. -/
def initCtcMysqlConn (conn : Nat) : ConnInfo := ⟨conn, [], false, 0⟩

/-- `g_mysql_conn_map`, `g_name_locks`, the number of handles that have been opened, the handles in
the order in which they were closed, and the sessions of the server. -/
structure ProxyState where
  connMap : AList fun _ : UInt64 => ConnInfo
  gNameLocks : Nat
  opened : Nat
  closed : List Nat
  sessions : Nat → Session

def ProxyState.init : ProxyState := ⟨∅, 0, 0, [], fun _ => .init⟩

structure Config where
  ctcInstanceId : UInt32
  /-- `IS_METADATA_NORMALIZATION`. -/
  metadataNormalized : Bool
  optNoacl : Bool

/-- `AGENT_CONN_KEY_MASK`. -/
def agentConnKeyMask : UInt64 := 0x8000000000000000

/-- `ctc_get_conn_key`. -/
def ctcGetConnKey (instId thdId : UInt32) (useProxy : Bool) : UInt64 :=
  let connKey := (instId.toUInt64 <<< 32) + thdId.toUInt64
  if useProxy then connKey else connKey ||| agentConnKeyMask

/-- `ctc_get_inst_id_from_conn_key`. -/
def ctcGetInstIdFromConnKey (connKey : UInt64) : UInt32 :=
  ((connKey &&& (agentConnKeyMask - 1)) >>> 32).toUInt32

/-- `ctc_get_cantian_id_from_conn_key`. -/
def ctcGetCantianIdFromConnKey (connKey : UInt64) : UInt16 :=
  ((connKey &&& (agentConnKeyMask - 1)) >>> 48).toUInt16

/-- `add_g_name_locks` and `sub_g_name_locks`, on a `uint32_t`. -/
def addGNameLocks (gNameLocks num : Nat) : Nat := (gNameLocks + num) % 2 ^ 32

def subGNameLocks (gNameLocks num : Nat) : Nat := (gNameLocks + 2 ^ 32 - num % 2 ^ 32) % 2 ^ 32

/-! ## Handles and entries -/

/-- A new handle, and a new session for it. -/
def ProxyState.openConn (s : ProxyState) : Nat × ProxyState :=
  (s.opened,
    { s with opened := s.opened + 1, sessions := Function.update s.sessions s.opened .init })

/-- `ctc_close_mysql_conn`. The session ends with its locks. -/
def ProxyState.closeConn (s : ProxyState) (conn : Nat) : ProxyState :=
  { s with closed := s.closed ++ [conn], sessions := Function.update s.sessions conn .init }

/-- A change of the session of a connection. -/
def ProxyState.setSession (s : ProxyState) (conn : Nat) (f : Session → Session) : ProxyState :=
  { s with sessions := Function.update s.sessions conn (f (s.sessions conn)) }

/-- `g_mysql_conn_map[key] = info`. -/
def ProxyState.setInfo (s : ProxyState) (key : UInt64) (info : ConnInfo) : ProxyState :=
  { s with connMap := s.connMap.insert key info }

/-- A change of an entry that is there. -/
def ProxyState.modifyInfo (s : ProxyState) (key : UInt64) (f : ConnInfo → ConnInfo) :
    ProxyState :=
  match s.connMap.lookup key with
  | none => s
  | some info => s.setInfo key (f info)

/-- `delete` and `erase` of an entry. -/
def ProxyState.eraseInfo (s : ProxyState) (key : UInt64) : ProxyState :=
  { s with connMap := s.connMap.erase key }

def ProxyState.setGNameLocks (s : ProxyState) (gNameLocks : Nat) : ProxyState :=
  { s with gNameLocks := gNameLocks }

/-- An entry is deleted, and its handle is closed. -/
def ProxyState.dropConn (s : ProxyState) (key : UInt64) (info : ConnInfo) : ProxyState :=
  (s.eraseInfo key).closeConn info.conn

/-- `close_mysql_conn_by_key`. -/
def closeMysqlConnByKey (s : ProxyState) (key : UInt64) : ProxyState :=
  match s.connMap.lookup key with
  | none => s
  | some info =>
    (s.dropConn key info).setGNameLocks (subGNameLocks s.gNameLocks info.nameLocks)

/-- `close_mysql_conn_by_inst_id`: the loop does with each entry that matches what
`close_mysql_conn_by_key` does. -/
def closeMysqlConnByInstId (s : ProxyState) (instId : UInt32) (byMysqlInst : Bool) : ProxyState :=
  let keys := s.connMap.keys.filter fun key =>
    if byMysqlInst then ctcGetInstIdFromConnKey key = instId
    else (ctcGetCantianIdFromConnKey key).toUInt32 = instId
  keys.foldl closeMysqlConnByKey s

/-! ## A client -/

/-- What the calls of `ctc_init_mysql_client` answer: `mysql_select_db` on the connection of the
entry, `mysql_init`, `ctc_create_proxy_user`, `mysql_init` for the proxy user, and
`mysql_select_db` on the new connection. -/
structure ClientAnswers where
  selectDb : Option ClientError
  initAgent : Option ClientError
  createUser : Option ClientError
  initProxy : Option ClientError
  selectNewDb : Option ClientError

/-- `ctc_select_db`. -/
def ctcSelectDb (db : String) (answer : Option ClientError) : Option ClientError :=
  if db = "" then none else answer

/-- `ctc_init_agent_client`. A handle is returned also when the server cannot be reached. -/
def ctcInitAgentClient (answers : ClientAnswers) (s : ProxyState) :
    Except ClientError Nat × ProxyState :=
  match answers.initAgent with
  | some error => (.error error, s)
  | none => (.ok s.openConn.1, s.openConn.2)

/-- `ctc_init_proxy_client`: the agent connection creates the proxy user and is closed again. -/
def ctcInitProxyClient (answers : ClientAnswers) (s : ProxyState) :
    Except ClientError Nat × ProxyState :=
  match ctcInitAgentClient answers s with
  | (.error error, s) => (.error error, s)
  | (.ok agentConn, s) =>
    match answers.createUser with
    | some error => (.error error, s.closeConn agentConn)
    | none =>
      match answers.initProxy with
      | some error => (.error error, s.closeConn agentConn)
      | none => (.ok s.openConn.1, s.openConn.2.closeConn agentConn)

/-- `ctc_init_mysql_client`, from where there is no connection for the key. -/
def initNewMysqlClient (key : UInt64) (db : String) (useProxy : Bool) (answers : ClientAnswers)
    (s : ProxyState) : Except ClientError Nat × ProxyState :=
  match if useProxy then ctcInitProxyClient answers s else ctcInitAgentClient answers s with
  | (.error error, s) => (.error error, s)
  | (.ok conn, s) =>
    -- a failure to set lock_wait_timeout is logged only
    match ctcSelectDb db answers.selectNewDb with
    | some error => (.error error, s.closeConn conn)
    | none => (.ok conn, s.setInfo key (initCtcMysqlConn conn))

/-- `ctc_init_mysql_client`. -/
def ctcInitMysqlClient (cfg : Config) (key : UInt64) (db userName : String) (useProxy : Bool)
    (answers : ClientAnswers) (s : ProxyState) : Except ClientError Nat × ProxyState :=
  let useProxy := if cfg.optNoacl && userName = "skip-grants user" then false else useProxy
  match s.connMap.lookup key with
  | none => initNewMysqlClient key db useProxy answers s
  | some info =>
    match ctcSelectDb db answers.selectDb with
    | none => (.ok info.conn, s)
    | some _ =>
      initNewMysqlClient key db useProxy answers (s.dropConn key info)

/-! ## Statements -/

/-- The SQL commands that the proxy tells apart. -/
inductive SqlCommand where
  | lockTables
  | unlockTables
  | lockInstance
  | unlockInstance
  | createUser
  | alterUser
  | setPassword
  | setOption
  | createTable
  | createView
  | dropView
  | other (code : Nat)
deriving DecidableEq, Repr

/-- `is_backup_lock_op`. -/
def isBackupLockOp (sqlCommand : SqlCommand) : Bool :=
  sqlCommand = .lockInstance ∨ sqlCommand = .unlockInstance

/-- `ctc_use_proxy`. -/
def ctcUseProxy (isSlave : Bool) (sqlCommand : SqlCommand) : Bool :=
  !isSlave && !isBackupLockOp sqlCommand

/-- What a statement that succeeds does to its session: the value that it gives to
`foreign_key_checks`, and the table locks that it leaves (`LOCK TABLES`, `UNLOCK TABLES`). -/
structure SqlEffect where
  foreignKeyChecks : Option Bool
  tableLocks : Option (List Table)

def Session.run (session : Session) (effect : SqlEffect) : Session :=
  { session with
    foreignKeyChecks := effect.foreignKeyChecks.getD session.foreignKeyChecks
    tableLocks := effect.tableLocks.getD session.tableLocks }

/-- `set_explicit_table_lock`. -/
def setExplicitTableLock (s : ProxyState) (key : UInt64) (sqlCommand : SqlCommand) : ProxyState :=
  match sqlCommand with
  | .lockTables => s.modifyInfo key fun info => { info with hasExplicitTableLock := true }
  | .unlockTables => s.modifyInfo key fun info => { info with hasExplicitTableLock := false }
  | _ => s

/-- A request to open a connection or to execute a statement (`ctc_ddl_broadcast_request`), the
role of the cluster and what the client calls answer. -/
structure UpdateRequest where
  thdId : UInt32
  mysqlInstId : UInt32
  dbName : String
  userName : String
  sqlCommand : SqlCommand
  /-- `CTC_OPEN_NO_CHECK_FK_FOR_CURRENT_SQL`. -/
  openNoCheckFk : Bool
  /-- `CTC_SET_VARIABLE_WITH_SUBSELECT`. -/
  withSubselect : Bool
  isSlave : Bool
  client : ClientAnswers
  /-- `set @random_password_seed`. -/
  setSeed : Option ClientError
  /-- `SET SESSION foreign_key_checks = 0`. -/
  setFkOff : Option ClientError
  sql : Option ClientError
  sqlEffect : SqlEffect
  /-- `SET SESSION foreign_key_checks = 1`. -/
  setFkOn : Option ClientError

/-- The key of the connection. -/
def UpdateRequest.key (req : UpdateRequest) : UInt64 :=
  ctcGetConnKey req.mysqlInstId req.thdId (ctcUseProxy req.isSlave req.sqlCommand)

/-- `ctc_execute_rewrite_open_conn`. -/
def ctcExecuteRewriteOpenConn (cfg : Config) (req : UpdateRequest) (s : ProxyState) :
    Int × ProxyState :=
  if req.mysqlInstId = cfg.ctcInstanceId then (0, s)
  else
    let useProxy := ctcUseProxy req.isSlave req.sqlCommand
    match ctcInitMysqlClient cfg req.key req.dbName req.userName useProxy req.client s with
    | (.error error, s) => (error.code, s)
    | (.ok _, s) => (0, s)

/-- How a request to execute a statement ends: what is returned, and the value of
`foreign_key_checks` with which the statement was run, if it was. -/
structure UpdateEnd where
  ret : Int
  ranWith : Option Bool
deriving DecidableEq, Repr

/-- The statements that need a seed. -/
def needsSeed (sqlCommand : SqlCommand) : Bool :=
  sqlCommand = .createUser ∨ sqlCommand = .alterUser ∨ sqlCommand = .setPassword

/-- `ctc_ddl_execute_update`, from the statement on. -/
def executeSql (req : UpdateRequest) (conn : Nat) (s : ProxyState) : UpdateEnd × ProxyState :=
  let ranWith := some (s.sessions conn).foreignKeyChecks
  match req.sql with
  | some error => (⟨error.code, ranWith⟩, s)
  | none =>
    let s := s.setSession conn fun session => session.run req.sqlEffect
    if req.openNoCheckFk then
      match req.setFkOn with
      | some error => (⟨error.code, ranWith⟩, s.closeConn conn)
      | none =>
        let s := s.setSession conn fun session => { session with foreignKeyChecks := true }
        (⟨0, ranWith⟩, setExplicitTableLock s req.key req.sqlCommand)
    else (⟨0, ranWith⟩, setExplicitTableLock s req.key req.sqlCommand)

/-- `ctc_ddl_execute_update`. -/
def ctcDdlExecuteUpdate (cfg : Config) (req : UpdateRequest) (s : ProxyState) :
    UpdateEnd × ProxyState :=
  if req.mysqlInstId = cfg.ctcInstanceId then (⟨0, none⟩, s)
  else if cfg.metadataNormalized ∧
      (req.sqlCommand ≠ .setOption ∨ req.withSubselect = false) then (⟨0, none⟩, s)
  else
    let useProxy := ctcUseProxy req.isSlave req.sqlCommand
    match ctcInitMysqlClient cfg req.key req.dbName req.userName useProxy req.client s with
    | (.error error, s) => (⟨error.code, none⟩, s)
    | (.ok conn, s) =>
      match if needsSeed req.sqlCommand then req.setSeed else none with
      | some _ => (⟨1, none⟩, s)
      | none =>
        if req.openNoCheckFk then
          match req.setFkOff with
          | some error => (⟨error.code, none⟩, s.closeConn conn)
          | none =>
            executeSql req conn
              (s.setSession conn fun session => { session with foreignKeyChecks := false })
        else executeSql req conn s

/-! ## Locks -/

/-- What becomes of `SELECT GET_LOCK(..)`: the query fails, its result cannot be fetched, or it is
a row. -/
inductive GetLockAnswer where
  | failed (error : ClientError)
  | notStored (acquired : Bool)
  | row (acquired : Bool)

/-- A lock request, and what the client calls answer. An existence check has no answer when its
query fails. -/
structure LockRequest where
  thdId : UInt32
  instId : UInt32
  dbName : String
  table : Table
  userName : String
  sqlType : SqlCommand
  client : ClientAnswers
  getLock : GetLockAnswer
  newTable : Option Int
  oldTables : Table → Option Int
  lockTables : Option ClientError

/-- The key of the connection. -/
def LockRequest.key (cfg : Config) (req : LockRequest) : UInt64 :=
  ctcGetConnKey req.instId req.thdId (req.instId ≠ cfg.ctcInstanceId)

/-- `GET_LOCK` on the server. -/
def Session.getLock (session : Session) : Session :=
  { session with nameLocks := session.nameLocks + 1 }

/-- `ctc_ddl_get_lock`. -/
def ctcDdlGetLock (conn : Nat) (key : UInt64) (answer : GetLockAnswer) (s : ProxyState) :
    Int × ProxyState :=
  match answer with
  | .failed error => (error.code, s)
  | .notStored acquired => (1, if acquired then s.setSession conn Session.getLock else s)
  | .row false => (-1, s)
  | .row true =>
    let s := s.setSession conn Session.getLock
    match s.connMap.lookup key with
    | none => (0, s)
    | some info =>
      (0, (s.setInfo key { info with nameLocks := (info.nameLocks + 1) % 2 ^ 32 }).setGNameLocks
        (addGNameLocks s.gNameLocks 1))

/-- `ctc_check_table_exist`. -/
def ctcCheckTableExist (answer : Option Int) : Int := answer.getD (-1)

/-- The insertion into `table_lock_info`. -/
def ConnInfo.insertTable (info : ConnInfo) (table : Table) : ConnInfo :=
  { info with tableLockInfo := info.tableLockInfo.insert table }

/-- `ctc_ddl_execute_lock_tables`, from the existence check on. -/
def lockAccumulated (req : LockRequest) (conn : Nat) (key : UInt64) (s : ProxyState) :
    Int × ProxyState :=
  let s := if ctcCheckTableExist req.newTable > 0 then
      s.modifyInfo key fun info => info.insertTable req.table else s
  let tables := ((s.connMap.lookup key).map ConnInfo.tableLockInfo).getD []
  -- the loop leaves the function at the first table that does not exist
  if tables.any fun table => ctcCheckTableExist (req.oldTables table) ≤ 0 then (0, s)
  else if tables = [] then (0, s)
  else
    match req.lockTables with
    | some _ => (1, s.setSession conn fun session => { session with tableLocks := [] })
    | none => (0, s.setSession conn fun session => { session with tableLocks := tables })

/-- `ctc_ddl_execute_lock_tables`, without normalised metadata. -/
def ctcDdlExecuteLockTables (cfg : Config) (req : LockRequest) (s : ProxyState) :
    Int × ProxyState :=
  let isSameNode : Bool := req.instId = cfg.ctcInstanceId
  let key := req.key cfg
  match ctcInitMysqlClient cfg key req.dbName req.userName (!isSameNode) req.client s with
  | (.error error, s) => (error.code, s)
  | (.ok conn, s) =>
    let locked := ctcDdlGetLock conn key req.getLock s
    if req.table.2 = "" then locked
    else if locked.1 ≠ 0 then locked
    else if isSameNode then (0, locked.2)
    else if req.sqlType = .createTable ∨ req.sqlType = .dropView ∨ req.sqlType = .createView then
      (0, locked.2)
    else if ((locked.2.connMap.lookup key).map ConnInfo.hasExplicitTableLock).getD false then
      (0, locked.2)
    else lockAccumulated req conn key locked.2

/-- An unlock request, and what `SELECT RELEASE_ALL_LOCKS()` and `UNLOCK TABLES` answer. -/
structure UnlockRequest where
  thdId : UInt32
  instId : UInt32
  releaseAllLocks : Option ClientError
  unlockTables : Option ClientError

/-- The key of the connection. -/
def UnlockRequest.key (cfg : Config) (req : UnlockRequest) : UInt64 :=
  ctcGetConnKey req.instId req.thdId (req.instId ≠ cfg.ctcInstanceId)

/-- What `ctc_ddl_execute_unlock_tables` notes in the map. -/
def clearLockInfo (s : ProxyState) (key : UInt64) : ProxyState :=
  match s.connMap.lookup key with
  | none => s
  | some info =>
    if info.nameLocks > 0 then
      let info := { info with tableLockInfo := [], nameLocks := info.nameLocks - 1 }
      (s.setInfo key info).setGNameLocks (subGNameLocks s.gNameLocks 1)
    else s.setInfo key { info with tableLockInfo := [] }

/-- `ctc_ddl_execute_unlock_tables`, without normalised metadata. It returns 0. -/
def ctcDdlExecuteUnlockTables (cfg : Config) (req : UnlockRequest) (s : ProxyState) : ProxyState :=
  let key := req.key cfg
  match s.connMap.lookup key with
  | none => s
  | some info =>
    match req.releaseAllLocks with
    | some _ => closeMysqlConnByKey s key
    | none =>
      let s := clearLockInfo
        (s.setSession info.conn fun session => { session with nameLocks := 0 }) key
      if req.instId = cfg.ctcInstanceId then closeMysqlConnByKey s key
      else if info.hasExplicitTableLock then s
      else
        match req.unlockTables with
        | some _ => closeMysqlConnByKey s key
        | none => s.setSession info.conn fun session => { session with tableLocks := [] }

/-- `CANTIAN_DOWN_MASK`. -/
def cantianDownMask : UInt16 := 0xFFFF

/-- `close_mysql_connection`, without normalised metadata. It returns 0. -/
def closeMysqlConnection (thdId mysqlInstId : UInt32) (s : ProxyState) : ProxyState :=
  if thdId = 0 then
    if mysqlInstId.toUInt16 = cantianDownMask then
      closeMysqlConnByInstId s (mysqlInstId >>> 16) false
    else closeMysqlConnByInstId s mysqlInstId true
  else
    closeMysqlConnByKey
      (closeMysqlConnByKey s (ctcGetConnKey mysqlInstId thdId true))
      (ctcGetConnKey mysqlInstId thdId false)

/-! ## Runs -/

/-- What happens on the node: a request of another node, or the server drops the session of a
connection. The client reconnects (`MYSQL_OPT_RECONNECT`) and has a new session. -/
inductive Request where
  | openConn (req : UpdateRequest)
  | update (req : UpdateRequest)
  | lockTables (req : LockRequest)
  | unlockTables (req : UnlockRequest)
  | close (thdId mysqlInstId : UInt32)
  | sessionLost (conn : Nat)

/-- The state behind a request. -/
def proxyStep (cfg : Config) (s : ProxyState) : Request → ProxyState
  | .openConn req => (ctcExecuteRewriteOpenConn cfg req s).2
  | .update req => (ctcDdlExecuteUpdate cfg req s).2
  | .lockTables req =>
    if cfg.metadataNormalized then s else (ctcDdlExecuteLockTables cfg req s).2
  | .unlockTables req => if cfg.metadataNormalized then s else ctcDdlExecuteUnlockTables cfg req s
  | .close thdId mysqlInstId =>
    if cfg.metadataNormalized then s else closeMysqlConnection thdId mysqlInstId s
  | .sessionLost conn => s.setSession conn fun _ => .init

end CantianConnector.Proxy
