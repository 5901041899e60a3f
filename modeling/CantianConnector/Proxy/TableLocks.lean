import CantianConnector.Proxy.Connections

/-!
# Table locks that accumulate

A connection is to hold write locks on all tables for which it has been asked to lock. `LOCK TABLES`
releases what it does not list, so each request lists the whole set of the entry. The set also keeps
tables that have been dropped, and one of these, or one check that fails, makes the request return
without an error and without a lock.
-/

namespace CantianConnector.Proxy

/-! ## Requests and tables -/

/-- A lock request for the connection of another node, of a kind that locks its table. -/
structure RemoteLock (cfg : Config) (key : UInt64) extends LockRequest where
  forKey : toLockRequest.key cfg = key
  remote : instId ≠ cfg.ctcInstanceId
  named : table.2 ≠ ""
  locks : ¬(sqlType = .createTable ∨ sqlType = .dropView ∨ sqlType = .createView)

/-- What happens on the node: a request, or a table is created or dropped. -/
inductive LockEvent (cfg : Config) (key : UInt64) where
  | request (req : RemoteLock cfg key)
  | createTable (table : Table)
  | dropTable (table : Table)

/-- The proxy, the tables of the node, and those tables that the connection has locked and that have
not been dropped since. -/
structure LockState where
  proxy : ProxyState
  tables : Table → Bool
  locked : List Table

/-- `table_lock_info` of the entry. -/
def ProxyState.tableSet (s : ProxyState) (key : UInt64) : List Table :=
  ((s.connMap.lookup key).map ConnInfo.tableLockInfo).getD []

/-- `has_explicit_table_lock` of the entry. -/
def ProxyState.explicitLock (s : ProxyState) (key : UInt64) : Bool :=
  ((s.connMap.lookup key).map ConnInfo.hasExplicitTableLock).getD false

/-- The tables that the connection of the entry holds write locks on. -/
def ProxyState.tableLocks (s : ProxyState) (key : UInt64) : List Table :=
  ((s.connOf key).map fun conn => (s.sessions conn).tableLocks).getD []

/-- A table is dropped, and with it the locks on it. -/
def ProxyState.dropTable (s : ProxyState) (table : Table) : ProxyState :=
  { s with sessions := fun conn =>
      { s.sessions conn with
        tableLocks := (s.sessions conn).tableLocks.filter fun other => other ≠ table } }

def lockStep (cfg : Config) (key : UInt64) (s : LockState) : LockEvent cfg key → LockState
  | .request req =>
    let proxy := (ctcDdlExecuteLockTables cfg req.toLockRequest s.proxy).2
    { s with proxy := proxy, locked := s.locked ++ proxy.tableLocks key }
  | .createTable table => { s with tables := Function.update s.tables table true }
  | .dropTable table =>
    { proxy := s.proxy.dropTable table
      tables := Function.update s.tables table false
      locked := s.locked.filter fun other => other ≠ table }

/-- The set with which the request goes on, from the one of the entry. -/
def LockRequest.accumulate (req : LockRequest) (tables : List Table) : List Table :=
  if ctcCheckTableExist req.newTable > 0 then tables.insert req.table else tables

/-- The property of a request, in the state before it: when it returns 0 for a table that exists,
the connection holds a lock on that table and on those that it has locked before. -/
def LocksHeld (cfg : Config) (key : UInt64) (s : LockState) (req : RemoteLock cfg key) : Prop :=
  let ends := ctcDdlExecuteLockTables cfg req.toLockRequest s.proxy
  ends.1 = 0 → s.tables req.table = true →
    req.table ∈ ends.2.tableLocks key ∧ ∀ table ∈ s.locked, table ∈ ends.2.tableLocks key

/-! ## What a request does to the entry -/

/-- The set, the flag and the table locks of the connection are the same. -/
structure SameTables (key : UInt64) (s s' : ProxyState) : Prop where
  tableSet : s'.tableSet key = s.tableSet key
  explicitLock : s'.explicitLock key = s.explicitLock key
  tableLocks : s'.tableLocks key = s.tableLocks key

theorem tableLocks_congr {s s' : ProxyState} {key : UInt64} (hconn : s'.connOf key = s.connOf key)
    (hsessions : ∀ conn, (s'.sessions conn).tableLocks = (s.sessions conn).tableLocks) :
    s'.tableLocks key = s.tableLocks key := by
  unfold ProxyState.tableLocks
  rw [hconn]
  simp only [hsessions]

theorem tableLocks_setSession {s : ProxyState} {key : UInt64} {conn : Nat}
    (hconn : s.connOf key = some conn) (f : Session → Session) :
    (s.setSession conn f).tableLocks key = (f (s.sessions conn)).tableLocks := by
  have hconn' : (s.setSession conn f).connOf key = some conn := hconn
  unfold ProxyState.tableLocks
  rw [hconn', Option.map_some, Option.getD_some]
  dsimp only [ProxyState.setSession]
  rw [Function.update_self]

theorem SameTables.ctcDdlGetLock (conn : Nat) (key : UInt64) (answer : GetLockAnswer)
    (s : ProxyState) : SameTables key s (ctcDdlGetLock conn key answer s).2 := by
  have hconn := (SameConns.ctcDdlGetLock conn key answer s).connOf key
  have hsession : ∀ other, ((s.setSession conn Session.getLock).sessions other).tableLocks =
      (s.sessions other).tableLocks := by
    intro other
    dsimp only [ProxyState.setSession]
    by_cases hother : other = conn
    · rw [hother, Function.update_self, Session.getLock]
    · rw [Function.update_of_ne hother]
  cases answer with
  | failed error => exact ⟨rfl, rfl, rfl⟩
  | notStored acquired =>
    cases acquired with
    | false => exact ⟨rfl, rfl, rfl⟩
    | true => exact ⟨rfl, rfl, tableLocks_congr hconn hsession⟩
  | row acquired =>
    cases acquired with
    | false => exact ⟨rfl, rfl, rfl⟩
    | true =>
      unfold Proxy.ctcDdlGetLock at hconn ⊢
      dsimp only at hconn ⊢
      cases hlookup : (s.setSession conn Session.getLock).connMap.lookup key with
      | none =>
        rw [hlookup] at hconn
        exact ⟨rfl, rfl, tableLocks_congr hconn hsession⟩
      | some info =>
        rw [hlookup] at hconn
        have hold : s.connMap.lookup key = some info := hlookup
        dsimp only at hconn ⊢
        refine ⟨?_, ?_, tableLocks_congr hconn hsession⟩
        · simp only [ProxyState.tableSet, ProxyState.setGNameLocks, ProxyState.setInfo,
            AList.lookup_insert, hold, Option.map_some, Option.getD_some]
        · simp only [ProxyState.explicitLock, ProxyState.setGNameLocks, ProxyState.setInfo,
            AList.lookup_insert, hold, Option.map_some, Option.getD_some]

/-- Only `GET_LOCK` that answers with the lock returns 0. -/
theorem ctcDdlGetLock_eq_zero {conn : Nat} {key : UInt64} {answer : GetLockAnswer}
    {s : ProxyState} (h : (ctcDdlGetLock conn key answer s).1 = 0) : answer = .row true := by
  cases answer with
  | failed error => exact absurd h error.nonzero
  | notStored acquired => cases h
  | row acquired =>
    cases acquired with
    | false => cases h
    | true => rfl

/-- What the request does once the named lock is held. -/
structure Relocks (req : LockRequest) (key : UInt64) (s : ProxyState) (ends : Int × ProxyState) :
    Prop where
  tableSet : ends.2.tableSet key = req.accumulate (s.tableSet key)
  explicitLock : ends.2.explicitLock key = s.explicitLock key
  tableLocks : ends.2.tableLocks key = s.tableLocks key ∨ ends.2.tableLocks key = [] ∨
    ends.2.tableLocks key = ends.2.tableSet key
  locked : ends.1 = 0 → ends.2.tableSet key ≠ [] →
    (∀ table ∈ ends.2.tableSet key, 0 < ctcCheckTableExist (req.oldTables table)) →
      ends.2.tableLocks key = ends.2.tableSet key

/-- The table is noted. -/
theorem tableSet_accumulate (req : LockRequest) {s : ProxyState} {key : UInt64} {conn : Nat}
    (hconn : s.connOf key = some conn) :
    let s' := if ctcCheckTableExist req.newTable > 0 then
      s.modifyInfo key fun info => info.insertTable req.table else s
    s'.connOf key = some conn ∧ s'.tableSet key = req.accumulate (s.tableSet key) ∧
      s'.explicitLock key = s.explicitLock key ∧ s'.tableLocks key = s.tableLocks key := by
  intro s'
  obtain ⟨info, hlookup, hinfo⟩ := connOf_eq_some.mp hconn
  unfold LockRequest.accumulate
  by_cases hnew : ctcCheckTableExist req.newTable > 0
  · have hs' : s' = s.setInfo key (info.insertTable req.table) := by
      dsimp only [s']
      rw [if_pos hnew, ProxyState.modifyInfo, hlookup]
    have hconn' : s'.connOf key = some conn := by
      rw [hs', connOf_setInfo, if_pos rfl, ConnInfo.insertTable, hinfo]
    rw [if_pos hnew]
    refine ⟨hconn', ?_, ?_, ?_⟩
    · simp only [hs', ProxyState.tableSet, ProxyState.setInfo, AList.lookup_insert, hlookup,
        Option.map_some, Option.getD_some, ConnInfo.insertTable]
    · simp only [hs', ProxyState.explicitLock, ProxyState.setInfo, AList.lookup_insert, hlookup,
        Option.map_some, Option.getD_some, ConnInfo.insertTable]
    · refine tableLocks_congr (hconn'.trans hconn.symm) fun other => ?_
      rw [hs', ProxyState.setInfo]
  · have hs' : s' = s := if_neg hnew
    rw [if_neg hnew, hs']
    exact ⟨hconn, rfl, rfl, rfl⟩

theorem lockAccumulated_relocks (req : LockRequest) {s : ProxyState} {key : UInt64} {conn : Nat}
    (hconn : s.connOf key = some conn) : Relocks req key s (lockAccumulated req conn key s) := by
  obtain ⟨hconn', htables, hexplicit, hlocks⟩ := tableSet_accumulate req hconn
  unfold lockAccumulated
  dsimp only
  generalize (if ctcCheckTableExist req.newTable > 0 then
      s.modifyInfo key fun info => info.insertTable req.table else s) = s'
    at hconn' htables hexplicit hlocks ⊢
  have hset : ((s'.connMap.lookup key).map ConnInfo.tableLockInfo).getD [] = s'.tableSet key := rfl
  rw [hset]
  split
  next hgone =>
    refine ⟨htables, hexplicit, Or.inl hlocks, fun _ _ hthere => ?_⟩
    obtain ⟨table, hmem, hcheck⟩ := List.any_eq_true.mp hgone
    have := hthere table hmem
    have hcheck' := of_decide_eq_true hcheck
    omega
  next =>
    split
    next hempty => exact ⟨htables, hexplicit, Or.inl hlocks, fun _ hne => absurd hempty hne⟩
    next =>
      cases req.lockTables with
      | some error =>
        refine ⟨htables, hexplicit, Or.inr (Or.inl ?_), fun hzero => ?_⟩
        · exact tableLocks_setSession hconn' _
        · cases hzero
      | none =>
        have hheld := tableLocks_setSession hconn'
          fun session => { session with tableLocks := s'.tableSet key }
        exact ⟨htables, hexplicit, Or.inr (Or.inr hheld), fun _ _ _ => hheld⟩

theorem Relocks.of_same {req : LockRequest} {key : UInt64} {s s' : ProxyState}
    {ends : Int × ProxyState} (h : Relocks req key s' ends) (hsame : SameTables key s s') :
    Relocks req key s ends where
  tableSet := by rw [h.tableSet, hsame.tableSet]
  explicitLock := h.explicitLock.trans hsame.explicitLock
  tableLocks := h.tableLocks.imp_left fun heq => heq.trans hsame.tableLocks
  locked := h.locked

/-- A request that comes to its tables. -/
theorem ClientEnds.relocks {key : UInt64} {req : LockRequest} {s s' : ProxyState} {conn : Nat}
    (hends : ClientEnds key req.dbName req.client s (.ok conn) s') :
    Relocks req key s' (lockAccumulated req conn key (ctcDdlGetLock conn key req.getLock s').2) := by
  have hconn := (SameConns.ctcDdlGetLock conn key req.getLock s').connOf key
  have hentry := hconn.trans (connOf_eq_some.mpr hends.lookup)
  exact (lockAccumulated_relocks req hentry).of_same (.ctcDdlGetLock conn key req.getLock s')

theorem RemoteLock.ends {cfg : Config} {key : UInt64} (req : RemoteLock cfg key) (s : ProxyState) :
    LockEnds cfg key req.toLockRequest s (ctcDdlExecuteLockTables cfg req.toLockRequest s) := by
  have hends := ctcDdlExecuteLockTables_ends cfg req.toLockRequest s
  rwa [req.forKey] at hends

/-! ## What the set keeps -/

/-- What the connection has locked is in the set of its entry. -/
structure Accumulated (key : UInt64) (s : ProxyState) (locked : List Table) : Prop where
  explicitLock : s.explicitLock key = false
  held : ∀ table ∈ s.tableLocks key, table ∈ s.tableSet key
  locked : ∀ table ∈ locked, table ∈ s.tableSet key

/-- The connection has locked nothing. -/
structure Blank (key : UInt64) (s : ProxyState) : Prop where
  explicitLock : s.explicitLock key = false
  tableLocks : s.tableLocks key = []
  tableSet : s.tableSet key = []

theorem blank_of_lookup_none {s : ProxyState} {key : UInt64}
    (hlookup : s.connMap.lookup key = none) : Blank key s where
  explicitLock := by rw [ProxyState.explicitLock, hlookup, Option.map_none, Option.getD_none]
  tableLocks := by
    rw [ProxyState.tableLocks, ProxyState.connOf, hlookup, Option.map_none, Option.map_none,
      Option.getD_none]
  tableSet := by rw [ProxyState.tableSet, hlookup, Option.map_none, Option.getD_none]

theorem NewClient.blank {key : UInt64} {s s' : ProxyState} {result : Except ClientError Nat}
    (h : NewClient key s result s') (hlookup : s.connMap.lookup key = none) : Blank key s' := by
  cases h with
  | failed error hgrown =>
    refine blank_of_lookup_none ?_
    rw [hgrown.connMap, hlookup]
  | @registered conn s' hgrown =>
    have hnew := hgrown.isNew conn (List.mem_singleton.mpr rfl)
    have hentry : (s'.setInfo key (initCtcMysqlConn conn)).connMap.lookup key =
        some (initCtcMysqlConn conn) := AList.lookup_insert _
    have hsession : (s'.setInfo key (initCtcMysqlConn conn)).sessions conn = .init :=
      hgrown.new conn hnew.1 hnew.2
    refine ⟨?_, ?_, ?_⟩
    · rw [ProxyState.explicitLock, hentry]
      rfl
    · have hconn : (s'.setInfo key (initCtcMysqlConn conn)).connOf key = some conn :=
        connOf_of_lookup hentry
      rw [ProxyState.tableLocks, hconn, Option.map_some, Option.getD_some, hsession, Session.init]
    · rw [ProxyState.tableSet, hentry]
      rfl

/-- The connection is the one of the entry, or it is a new one. -/
theorem ClientEnds.kept_or_blank {key : UInt64} {db : String} {answers : ClientAnswers}
    {s s' : ProxyState} {result : Except ClientError Nat}
    (hends : ClientEnds key db answers s result s') :
    (ctcSelectDb db answers.selectDb = none ∧ s' = s) ∨
      ((ctcSelectDb db answers.selectDb = none → s.tableSet key = []) ∧ Blank key s') := by
  cases hends with
  | kept _ hselect => exact Or.inl ⟨hselect, rfl⟩
  | fresh hlookup hnew =>
    exact Or.inr ⟨fun _ => (blank_of_lookup_none hlookup).tableSet, hnew.blank hlookup⟩
  | reconnected hlookup hselect hnew =>
    refine Or.inr ⟨fun hnone => absurd hnone hselect, hnew.blank ?_⟩
    exact AList.lookup_erase _ _

/-- The set with which a request comes to its tables. -/
def LockRequest.tableSet (req : LockRequest) (key : UInt64) (s : ProxyState) : List Table :=
  req.accumulate (if ctcSelectDb req.dbName req.client.selectDb = none then s.tableSet key else [])

/-- No table that the connection has locked and that exists is forgotten with the connection. -/
def KeepsConnection (req : LockRequest) (s : LockState) : Prop :=
  ctcSelectDb req.dbName req.client.selectDb ≠ none → s.locked = []

/-- The condition on what happens next, in the state before it: the connection is not replaced while
a table that it has locked exists, and a request that comes to the checks with a table that exists
finds that table and every table of its set. -/
def FindsTables (cfg : Config) (key : UInt64) (s : LockState) : LockEvent cfg key → Prop
  | .request req =>
    KeepsConnection req.toLockRequest s ∧
      (s.tables req.table = true → req.getLock = .row true →
        ClientOpens cfg key req.dbName req.userName
          (!decide (req.instId = cfg.ctcInstanceId)) req.client s.proxy →
        req.table ∈ req.tableSet key s.proxy ∧
          ∀ table ∈ req.tableSet key s.proxy, 0 < ctcCheckTableExist (req.oldTables table))
  | .createTable _ => True
  | .dropTable _ => True

theorem Blank.accumulated {key : UInt64} {s : ProxyState} {locked : List Table} (h : Blank key s)
    (hlocked : locked = []) : Accumulated key s locked where
  explicitLock := h.explicitLock
  held table hmem := by
    rw [h.tableLocks] at hmem
    exact absurd hmem List.not_mem_nil
  locked table hmem := by
    rw [hlocked] at hmem
    exact absurd hmem List.not_mem_nil

theorem Accumulated.congr {key : UInt64} {s s' : ProxyState} {locked : List Table}
    (h : Accumulated key s locked) (hsame : SameTables key s s') : Accumulated key s' locked where
  explicitLock := hsame.explicitLock.trans h.explicitLock
  held := by
    rw [hsame.tableLocks, hsame.tableSet]
    exact h.held
  locked := by
    rw [hsame.tableSet]
    exact h.locked

/-- What the connection holds may be counted as locked. -/
theorem Accumulated.append {key : UInt64} {s : ProxyState} {locked : List Table}
    (h : Accumulated key s locked) : Accumulated key s (locked ++ s.tableLocks key) where
  explicitLock := h.explicitLock
  held := h.held
  locked table hmem := by
    rcases List.mem_append.mp hmem with hold | hheld
    · exact h.locked table hold
    · exact h.held table hheld

theorem mem_accumulate {req : LockRequest} {tables : List Table} {table : Table}
    (hmem : table ∈ tables) : table ∈ req.accumulate tables := by
  unfold LockRequest.accumulate
  split
  · exact List.mem_insert_of_mem hmem
  · exact hmem

theorem Accumulated.relocks {key : UInt64} {s : ProxyState} {locked : List Table}
    (h : Accumulated key s locked) {req : LockRequest} {ends : Int × ProxyState}
    (hrelocks : Relocks req key s ends) : Accumulated key ends.2 locked where
  explicitLock := hrelocks.explicitLock.trans h.explicitLock
  held table hmem := by
    rcases hrelocks.tableLocks with hsame | hnone | hall
    · rw [hsame] at hmem
      rw [hrelocks.tableSet]
      exact mem_accumulate (h.held table hmem)
    · rw [hnone] at hmem
      exact absurd hmem List.not_mem_nil
    · rwa [hall] at hmem
  locked table hmem := by
    rw [hrelocks.tableSet]
    exact mem_accumulate (h.locked table hmem)

/-- The set and the locks of a connection that is replaced are lost. -/
theorem Accumulated.client {key : UInt64} {db : String} {answers : ClientAnswers}
    {s s' : ProxyState} {result : Except ClientError Nat} {locked : List Table}
    (h : Accumulated key s locked) (hends : ClientEnds key db answers s result s')
    (hkeeps : ctcSelectDb db answers.selectDb ≠ none → locked = []) :
    Accumulated key s' locked := by
  rcases hends.kept_or_blank with ⟨-, rfl⟩ | ⟨hempty, hblank⟩
  · exact h
  · refine hblank.accumulated ?_
    by_cases hselect : ctcSelectDb db answers.selectDb = none
    · refine List.eq_nil_iff_forall_not_mem.mpr fun table hmem => ?_
      have hset := h.locked table hmem
      rw [hempty hselect] at hset
      exact absurd hset List.not_mem_nil
    · exact hkeeps hselect

/-- The set of the connection is what it has locked, and more. -/
abbrev SetKept (key : UInt64) (s : LockState) : Prop := Accumulated key s.proxy s.locked

theorem Accumulated.request {cfg : Config} {key : UInt64} {s : LockState} (h : SetKept key s)
    {req : RemoteLock cfg key} (hkeeps : KeepsConnection req.toLockRequest s) :
    Accumulated key (ctcDdlExecuteLockTables cfg req.toLockRequest s.proxy).2 s.locked := by
  have hends := req.ends s.proxy
  generalize ctcDdlExecuteLockTables cfg req.toLockRequest s.proxy = ends at hends
  cases hends with
  | noClient hclient => exact h.client hclient hkeeps
  | nameOnly _ hclient _ => exact (h.client hclient hkeeps).congr (.ctcDdlGetLock _ _ _ _)
  | skipped _ hclient _ => exact (h.client hclient hkeeps).congr (.ctcDdlGetLock _ _ _ _)
  | accumulated _ hclient _ => exact (h.client hclient hkeeps).relocks hclient.relocks

/-- A table that is dropped stays in the set. -/
theorem Accumulated.dropTable {key : UInt64} {s : ProxyState} {locked : List Table}
    (h : Accumulated key s locked) (table : Table) :
    Accumulated key (s.dropTable table) (locked.filter fun other => other ≠ table) where
  explicitLock := h.explicitLock
  held other hmem := by
    have hlocks : (s.dropTable table).tableLocks key =
        (s.tableLocks key).filter fun other => other ≠ table := by
      have hconn : (s.dropTable table).connOf key = s.connOf key := rfl
      unfold ProxyState.tableLocks
      rw [hconn]
      cases s.connOf key with
      | none => rfl
      | some conn => rfl
    rw [hlocks] at hmem
    exact h.held other (List.mem_filter.mp hmem).1
  locked other hmem := h.locked other (List.mem_filter.mp hmem).1

/-- One step. -/
theorem Accumulated.step {cfg : Config} {key : UInt64} {s : LockState} (h : SetKept key s)
    (event : LockEvent cfg key) (hfinds : FindsTables cfg key s event) :
    SetKept key (lockStep cfg key s event) := by
  cases event with
  | request req => exact (h.request hfinds.1).append
  | createTable table => exact h
  | dropTable table => exact h.dropTable table

/-- A request that meets the condition. -/
theorem Accumulated.locksHeld {cfg : Config} {key : UInt64} {s : LockState} (h : SetKept key s)
    {req : RemoteLock cfg key} (hfinds : FindsTables cfg key s (.request req)) :
    LocksHeld cfg key s req := by
  obtain ⟨hkeeps, hthere⟩ := hfinds
  intro hzero hexists
  have hends := req.ends s.proxy
  have hnext := h.request hkeeps
  generalize ctcDdlExecuteLockTables cfg req.toLockRequest s.proxy = ends
    at hends hnext hzero ⊢
  cases hends with
  | noClient _ => exact absurd hzero (ClientError.nonzero _)
  | nameOnly _ _ hleft => exact absurd hzero (hleft.resolve_left req.named)
  | @skipped conn s' _ hclient hleft =>
    have hexplicit := (hleft.resolve_left req.remote).resolve_left req.locks
    have hsame := SameTables.ctcDdlGetLock conn key req.getLock s'
    have hnone := hsame.explicitLock.trans (h.client hclient hkeeps).explicitLock
    exact absurd (hnone.symm.trans hexplicit) Bool.false_ne_true
  | @accumulated conn s' hopens hclient hlock =>
    obtain ⟨htable, hall⟩ := hthere hexists (ctcDdlGetLock_eq_zero hlock) hopens
    have hrelocks := hclient.relocks
    generalize lockAccumulated req.toLockRequest conn key
      (ctcDdlGetLock conn key req.getLock s').2 = ends at hrelocks hnext hzero ⊢
    have hset : ends.2.tableSet key = req.tableSet key s.proxy := by
      rw [hrelocks.tableSet, LockRequest.tableSet]
      rcases hclient.kept_or_blank with ⟨hselect, rfl⟩ | ⟨hempty, hblank⟩
      · rw [if_pos hselect]
      · rw [hblank.tableSet]
        split
        next hselect => rw [hempty hselect]
        next => rfl
    rw [← hset] at htable hall
    have hheld := hrelocks.locked hzero (List.ne_nil_of_mem htable) hall
    rw [hheld]
    exact ⟨htable, hnext.locked⟩

/-- The connection does not exist yet. -/
def LockState.start (proxy : ProxyState) (tables : Table → Bool) : LockState := ⟨proxy, tables, []⟩

/-- **Table locks accumulate.** In a run in which no connection with locked tables is replaced, and
every request for a table that exists finds it and all tables of its set, each request that returns
0 for such a table leaves the connection with a lock on it and on all that it has locked before and
that have not been dropped. -/
theorem locksHeld_run (cfg : Config) {key : UInt64} {proxy : ProxyState}
    (hnew : proxy.connMap.lookup key = none) (tables : Table → Bool)
    {events : List (LockEvent cfg key)}
    (hRun : Machine.Guarded (lockStep cfg key) (FindsTables cfg key) (.start proxy tables) events)
    {k : Nat} {req : RemoteLock cfg key} (hget : events[k]? = some (.request req)) :
    LocksHeld cfg key ((events.take k).foldl (lockStep cfg key) (.start proxy tables)) req := by
  have hStep : ∀ s event, SetKept key s → FindsTables cfg key s event →
      SetKept key (lockStep cfg key s event) :=
    fun _ event h hfinds => Accumulated.step h event hfinds
  have hInit : SetKept key (.start proxy tables) := (blank_of_lookup_none hnew).accumulated rfl
  have hkept := Machine.invariant_of_guarded hStep hInit hRun k
  exact Accumulated.locksHeld hkept (hRun.get hget)

/-- The key of session 7 of instance 2. -/
def sessionKey : UInt64 := ctcGetConnKey 2 7 true

/-- A request to lock a table that exists, where the checks of other tables answer as given. -/
def lockExisting (table : String) (hnamed : table ≠ "") (oldTables : Table → Option Int) :
    RemoteLock proxyConfig sessionKey where
  toLockRequest := lockTable table (some 1) oldTables
  forKey := rfl
  remote := show (2 : UInt32) ≠ 1 by decide
  named := hnamed
  locks := show ¬(SqlCommand.other 0 = .createTable ∨ SqlCommand.other 0 = .dropView ∨
    SqlCommand.other 0 = .createView) by decide

/-- A table of the set is dropped: the next table is not locked, and the request returns 0. -/
theorem ctcDdlExecuteLockTables_returns_early :
    let lockA := lockExisting "a" (by decide) fun _ => some 1
    let lockB := lockExisting "b" (by decide) fun table => if table.2 = "a" then some 0 else some 1
    let s := [.request lockA, .dropTable ("d", "a")].foldl (lockStep proxyConfig sessionKey)
      (.start .init fun _ => true)
    let ends := ctcDdlExecuteLockTables proxyConfig lockB.toLockRequest s.proxy
    ends.1 = 0 ∧ s.tables lockB.table = true ∧ ends.2.tableLocks sessionKey = [] ∧
      ¬ LocksHeld proxyConfig sessionKey s lockB := by
  intro lockA lockB s ends
  have hzero : ends.1 = 0 := by decide
  have hexists : s.tables lockB.table = true := by decide
  have hnone : ends.2.tableLocks sessionKey = [] := by decide
  refine ⟨hzero, hexists, hnone, fun hheld => ?_⟩
  have hmem := (hheld hzero hexists).1
  have hlocks : lockB.table ∉ ends.2.tableLocks sessionKey := by
    rw [hnone]
    exact List.not_mem_nil
  exact hlocks hmem

/-- Two tables that stay are locked one after the other. -/
theorem locksHeld_run_session :
    let lockA := lockExisting "a" (by decide) fun _ => some 1
    let lockB := lockExisting "b" (by decide) fun _ => some 1
    let events : List (LockEvent proxyConfig sessionKey) := [.request lockA, .request lockB]
    LocksHeld proxyConfig sessionKey
      ((events.take 1).foldl (lockStep proxyConfig sessionKey) (.start .init fun _ => true))
      lockB := by
  intro lockA lockB events
  have hRun : Machine.Guarded (lockStep proxyConfig sessionKey) (FindsTables proxyConfig sessionKey)
      (.start .init fun _ => true) events := by
    refine ⟨⟨fun _ => rfl, fun _ _ _ => ⟨by decide, fun _ _ => Int.one_pos⟩⟩, ?_, trivial⟩
    refine ⟨fun hselect => absurd rfl hselect, fun _ _ _ => ⟨by decide, fun _ _ => Int.one_pos⟩⟩
  exact locksHeld_run proxyConfig rfl _ hRun rfl

end CantianConnector.Proxy
