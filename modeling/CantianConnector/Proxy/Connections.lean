import CantianConnector.Lib.Machine
import CantianConnector.Proxy.Changes
import CantianConnector.Proxy.Requests

/-!
# Which handles are open

Every handle that is open belongs to an entry of the map, and every entry has a handle that is
open. The exception is `ctc_ddl_execute_update`: when it fails to set `foreign_key_checks`, it
closes its handle and leaves the entry.
-/

namespace CantianConnector.Proxy

/-! ## Open handles -/

/-- No two entries have one handle, and the handles of entries have been opened. -/
structure Known (s : ProxyState) : Prop where
  separate : ∀ key key' conn, s.connOf key = some conn → s.connOf key' = some conn → key = key'
  opened : ∀ key conn, s.connOf key = some conn → conn < s.opened

/-- The handles of entries are open, no handle has been closed twice, and a handle that is open
belongs to an entry. -/
structure Tidy (s : ProxyState) : Prop extends Known s where
  registered : ∀ key conn, s.connOf key = some conn → conn ∉ s.closed
  closedOnce : s.closed.Nodup
  closedOpened : ∀ conn ∈ s.closed, conn < s.opened
  accounted : ∀ conn < s.opened, conn ∉ s.closed → ∃ key, s.connOf key = some conn

theorem Known.congr {s s' : ProxyState} (h : Known s) (hsame : SameConns s s') : Known s' where
  separate key key' conn hkey hkey' := by
    rw [hsame.connOf] at hkey hkey'
    exact h.separate key key' conn hkey hkey'
  opened key conn hkey := by
    rw [hsame.connOf] at hkey
    rw [hsame.opened]
    exact h.opened key conn hkey

theorem Tidy.congr {s s' : ProxyState} (h : Tidy s) (hsame : SameConns s s') : Tidy s' where
  toKnown := h.toKnown.congr hsame
  registered key conn hkey := by
    rw [hsame.connOf] at hkey
    rw [hsame.closed]
    exact h.registered key conn hkey
  closedOnce := by
    rw [hsame.closed]
    exact h.closedOnce
  closedOpened conn hconn := by
    rw [hsame.closed] at hconn
    rw [hsame.opened]
    exact h.closedOpened conn hconn
  accounted conn hopened hclosed := by
    rw [hsame.opened] at hopened
    rw [hsame.closed] at hclosed
    obtain ⟨key, hkey⟩ := h.accounted conn hopened hclosed
    exact ⟨key, (hsame.connOf key).trans hkey⟩

theorem Known.init : Known .init where
  separate _ _ _ h := by cases h
  opened _ _ h := by cases h

theorem Tidy.init : Tidy .init where
  toKnown := Known.init
  registered _ _ h := by cases h
  closedOnce := List.nodup_nil
  closedOpened _ h := absurd h List.not_mem_nil
  accounted _ h := absurd h (Nat.not_lt_zero _)

theorem Grown.connOf {s s' : ProxyState} {live : List Nat} (h : Grown s s' live) (key : UInt64) :
    s'.connOf key = s.connOf key := by
  rw [ProxyState.connOf, h.connMap, ProxyState.connOf]

theorem Known.grown {s s' : ProxyState} {live : List Nat} (h : Known s)
    (hgrown : Grown s s' live) : Known s' where
  separate key key' conn hkey hkey' := by
    rw [hgrown.connOf] at hkey hkey'
    exact h.separate key key' conn hkey hkey'
  opened key conn hkey := by
    rw [hgrown.connOf] at hkey
    exact Nat.lt_of_lt_of_le (h.opened key conn hkey) hgrown.opened

/-- Handles have been opened and closed again. -/
theorem Tidy.grown {s s' : ProxyState} (h : Tidy s) (hgrown : Grown s s' []) : Tidy s' := by
  obtain ⟨news, hclosed, hnodup, hmem⟩ := hgrown.closed
  refine ⟨h.toKnown.grown hgrown, ?_, ?_, ?_, ?_⟩
  · intro key conn hkey
    rw [hgrown.connOf] at hkey
    rw [hclosed, List.mem_append, not_or]
    refine ⟨h.registered key conn hkey, fun hnew => ?_⟩
    exact absurd (h.opened key conn hkey) (Nat.not_lt_of_le ((hmem conn).mp hnew).1)
  · rw [hclosed]
    refine List.nodup_append.mpr ⟨h.closedOnce, hnodup, ?_⟩
    rintro conn hold _ hnew rfl
    exact absurd (h.closedOpened conn hold) (Nat.not_lt_of_le ((hmem conn).mp hnew).1)
  · intro conn hconn
    rw [hclosed, List.mem_append] at hconn
    rcases hconn with hold | hnew
    · exact Nat.lt_of_lt_of_le (h.closedOpened conn hold) hgrown.opened
    · exact ((hmem conn).mp hnew).2.1
  · intro conn hopened hopen
    rw [hclosed, List.mem_append, not_or] at hopen
    have hold : conn < s.opened := by
      by_contra hnew
      exact hopen.2 ((hmem conn).mpr ⟨Nat.le_of_not_lt hnew, hopened, List.not_mem_nil⟩)
    obtain ⟨key, hkey⟩ := h.accounted conn hold hopen.1
    exact ⟨key, (hgrown.connOf key).trans hkey⟩

theorem Known.register {s s' : ProxyState} {conn : Nat} (h : Known s) (key : UInt64)
    (hgrown : Grown s s' [conn]) : Known (s'.setInfo key (initCtcMysqlConn conn)) := by
  have hnew := hgrown.isNew conn (List.mem_singleton.mpr rfl)
  have hother : ∀ key', s.connOf key' ≠ some conn := fun key' hkey' =>
    absurd (h.opened key' conn hkey') (Nat.not_lt_of_le hnew.1)
  refine ⟨?_, ?_⟩
  · intro key₁ key₂ c h₁ h₂
    rw [connOf_setInfo, hgrown.connOf] at h₁ h₂
    split at h₁ <;> split at h₂
    next h₁' h₂' => exact h₁'.trans h₂'.symm
    next => exact absurd (h₂.trans h₁.symm) (hother key₂)
    next => exact absurd (h₁.trans h₂.symm) (hother key₁)
    next => exact h.separate key₁ key₂ c h₁ h₂
  · intro key' c hkey'
    rw [connOf_setInfo, hgrown.connOf] at hkey'
    split at hkey'
    · obtain rfl := Option.some.inj hkey'
      exact hnew.2
    · exact Nat.lt_of_lt_of_le (h.opened key' c hkey') hgrown.opened

/-- A new handle gets the entry of a key that has none. -/
theorem Tidy.register {s s' : ProxyState} {key : UInt64} {conn : Nat} (h : Tidy s)
    (hkey : s.connOf key = none) (hgrown : Grown s s' [conn]) :
    Tidy (s'.setInfo key (initCtcMysqlConn conn)) := by
  obtain ⟨news, hclosed, hnodup, hmem⟩ := hgrown.closed
  have hnew := hgrown.isNew conn (List.mem_singleton.mpr rfl)
  have hclosed' : (s'.setInfo key (initCtcMysqlConn conn)).closed = s.closed ++ news := hclosed
  refine ⟨h.toKnown.register key hgrown, ?_, ?_, ?_, ?_⟩
  · intro key' c hkey'
    rw [hclosed', List.mem_append, not_or]
    rw [connOf_setInfo, hgrown.connOf] at hkey'
    split at hkey'
    · obtain rfl := Option.some.inj hkey'
      refine ⟨fun hold => ?_, fun hnews => ?_⟩
      · exact absurd (h.closedOpened _ hold) (Nat.not_lt_of_le hnew.1)
      · exact ((hmem _).mp hnews).2.2 (List.mem_singleton.mpr rfl)
    · refine ⟨h.registered key' c hkey', fun hnews => ?_⟩
      exact absurd (h.opened key' c hkey') (Nat.not_lt_of_le ((hmem c).mp hnews).1)
  · rw [hclosed']
    refine List.nodup_append.mpr ⟨h.closedOnce, hnodup, ?_⟩
    rintro c hold _ hnews rfl
    exact absurd (h.closedOpened c hold) (Nat.not_lt_of_le ((hmem c).mp hnews).1)
  · intro c hc
    rw [hclosed', List.mem_append] at hc
    rcases hc with hold | hnews
    · exact Nat.lt_of_lt_of_le (h.closedOpened c hold) hgrown.opened
    · exact ((hmem c).mp hnews).2.1
  · intro c hopened hopen
    rw [hclosed', List.mem_append, not_or] at hopen
    by_cases hold : c < s.opened
    · obtain ⟨key', hkey'⟩ := h.accounted c hold hopen.1
      refine ⟨key', ?_⟩
      rw [connOf_setInfo, if_neg, hgrown.connOf, hkey']
      rintro rfl
      rw [hkey] at hkey'
      cases hkey'
    · have hsame : c = conn := by
        by_contra hne
        refine hopen.2 ((hmem c).mpr ⟨Nat.le_of_not_lt hold, hopened, ?_⟩)
        exact fun hmem => hne (List.mem_singleton.mp hmem)
      exact ⟨key, by rw [connOf_setInfo, if_pos rfl, hsame]; rfl⟩

theorem Known.dropConn {s : ProxyState} (h : Known s) (key : UInt64) (info : ConnInfo) :
    Known (s.dropConn key info) := by
  have hconnOf : ∀ key' conn, (s.dropConn key info).connOf key' = some conn →
      s.connOf key' = some conn := by
    intro key' conn hkey'
    have herase : (s.eraseInfo key).connOf key' = some conn := hkey'
    rw [connOf_eraseInfo] at herase
    split at herase
    · cases herase
    · exact herase
  refine ⟨?_, ?_⟩
  · intro key₁ key₂ conn h₁ h₂
    exact h.separate key₁ key₂ conn (hconnOf _ _ h₁) (hconnOf _ _ h₂)
  · intro key' conn hkey'
    exact h.opened key' conn (hconnOf _ _ hkey')

/-- A handle is closed together with its entry. -/
theorem Tidy.dropConn {s : ProxyState} {key : UInt64} {info : ConnInfo} (h : Tidy s)
    (hlookup : s.connMap.lookup key = some info) : Tidy (s.dropConn key info) := by
  have hconn := connOf_of_lookup hlookup
  have hconnOf : ∀ key', (s.dropConn key info).connOf key' =
      if key' = key then none else s.connOf key' := connOf_eraseInfo s key
  have hclosed : (s.dropConn key info).closed = s.closed ++ [info.conn] := rfl
  refine ⟨h.toKnown.dropConn key info, ?_, ?_, ?_, ?_⟩
  · intro key' conn hkey'
    rw [hconnOf] at hkey'
    split at hkey'
    · cases hkey'
    next hne =>
      rw [hclosed, List.mem_append, List.mem_singleton, not_or]
      refine ⟨h.registered key' conn hkey', ?_⟩
      rintro rfl
      exact hne (h.separate key' key _ hkey' hconn)
  · rw [hclosed]
    refine List.nodup_append.mpr ⟨h.closedOnce, List.nodup_singleton _, ?_⟩
    rintro conn hold _ hlast rfl
    rw [List.mem_singleton.mp hlast] at hold
    exact h.registered key info.conn hconn hold
  · intro conn hmem
    rw [hclosed, List.mem_append, List.mem_singleton] at hmem
    rcases hmem with hold | rfl
    · exact h.closedOpened conn hold
    · exact h.opened key _ hconn
  · intro conn hopened hopen
    rw [hclosed, List.mem_append, List.mem_singleton, not_or] at hopen
    obtain ⟨key', hkey'⟩ := h.accounted conn hopened hopen.1
    refine ⟨key', ?_⟩
    rw [hconnOf, if_neg, hkey']
    rintro rfl
    rw [hconn] at hkey'
    exact hopen.2 (Option.some.inj hkey').symm

/-! ## Requests -/

theorem Tidy.client {key : UInt64} {db : String} {answers : ClientAnswers} {s s' : ProxyState}
    {result : Except ClientError Nat} (h : Tidy s)
    (hends : ClientEnds key db answers s result s') : Tidy s' := by
  have hnew : ∀ {s₀}, Tidy s₀ → s₀.connOf key = none → NewClient key s₀ result s' → Tidy s' := by
    rintro s₀ h₀ hkey (⟨_, hgrown⟩ | hgrown)
    · exact h₀.grown hgrown
    · exact h₀.register hkey hgrown
  cases hends with
  | kept _ _ => exact h
  | fresh hlookup hclient =>
    refine hnew h ?_ hclient
    rw [ProxyState.connOf, hlookup, Option.map_none]
  | @reconnected info _ _ hlookup _ hclient =>
    refine hnew (h.dropConn hlookup) ?_ hclient
    have herase := connOf_eraseInfo s key key
    rw [if_pos rfl] at herase
    exact herase

theorem closeMysqlConnByKey_eq {s : ProxyState} {key : UInt64} {info : ConnInfo}
    (hlookup : s.connMap.lookup key = some info) : closeMysqlConnByKey s key =
      (s.dropConn key info).setGNameLocks (subGNameLocks s.gNameLocks info.nameLocks) := by
  unfold closeMysqlConnByKey
  rw [hlookup]

theorem closeMysqlConnByKey_of_lookup_none {s : ProxyState} {key : UInt64}
    (hlookup : s.connMap.lookup key = none) : closeMysqlConnByKey s key = s := by
  unfold closeMysqlConnByKey
  rw [hlookup]

theorem Tidy.closeByKey {s : ProxyState} (h : Tidy s) (key : UInt64) :
    Tidy (closeMysqlConnByKey s key) := by
  cases hlookup : s.connMap.lookup key with
  | none =>
    rw [closeMysqlConnByKey_of_lookup_none hlookup]
    exact h
  | some info =>
    rw [closeMysqlConnByKey_eq hlookup]
    exact (h.dropConn hlookup).congr (.setGNameLocks _ _)

/-- What holds of a state as long as single entries are closed holds behind the end of a session or
of an instance. -/
theorem closeMysqlConnection_induction {P : ProxyState → Prop}
    (hclose : ∀ s key, P s → P (closeMysqlConnByKey s key)) (thdId mysqlInstId : UInt32)
    {s : ProxyState} (h : P s) : P (closeMysqlConnection thdId mysqlInstId s) := by
  have hfold : ∀ (keys : List UInt64) {s : ProxyState}, P s →
      P (keys.foldl closeMysqlConnByKey s) := by
    intro keys
    induction keys with
    | nil => exact fun h => h
    | cons key rest ih => exact fun h => ih (hclose _ key h)
  unfold closeMysqlConnection
  split
  · split
    · exact hfold _ h
    · exact hfold _ h
  · exact hclose _ _ (hclose _ _ h)

/-- The unlock request releases the named locks, and it closes the connection or releases the table
locks. -/
theorem unlockTables_induction {P : ProxyState → Prop}
    (hclose : ∀ s key, P s → P (closeMysqlConnByKey s key))
    (hrelease : ∀ s conn key, P s →
      P (clearLockInfo (s.setSession conn fun session => { session with nameLocks := 0 }) key))
    (hunlock : ∀ s conn, P s →
      P (s.setSession conn fun session => { session with tableLocks := [] }))
    (cfg : Config) (req : UnlockRequest) {s : ProxyState} (h : P s) :
    P (ctcDdlExecuteUnlockTables cfg req s) := by
  unfold ctcDdlExecuteUnlockTables
  dsimp only
  cases hlookup : s.connMap.lookup (req.key cfg) with
  | none => exact h
  | some info =>
    dsimp only
    cases req.releaseAllLocks with
    | some error => exact hclose _ _ h
    | none =>
      have hcleared : P (clearLockInfo (s.setSession info.conn fun session =>
          { session with nameLocks := 0 }) (req.key cfg)) := hrelease _ _ _ h
      dsimp only
      split
      · exact hclose _ _ hcleared
      · split
        · exact hcleared
        · cases req.unlockTables with
          | some error => exact hclose _ _ hcleared
          | none => exact hunlock _ _ hcleared

/-- The lock request initialises a client, asks for the named lock, and locks tables. -/
theorem lockTables_induction {P : ProxyState → Prop} (cfg : Config) (req : LockRequest)
    {s : ProxyState}
    (hclient : ∀ {result s'}, ClientEnds (req.key cfg) req.dbName req.client s result s' → P s')
    (hget : ClientOpens cfg (req.key cfg) req.dbName req.userName
        (!decide (req.instId = cfg.ctcInstanceId)) req.client s → ∀ {conn s'},
      ClientEnds (req.key cfg) req.dbName req.client s (.ok conn) s' →
        P (ctcDdlGetLock conn (req.key cfg) req.getLock s').2)
    (haccumulate : ∀ conn s', P s' → P (lockAccumulated req conn (req.key cfg) s').2) :
    P (ctcDdlExecuteLockTables cfg req s).2 := by
  have hends := ctcDdlExecuteLockTables_ends cfg req s
  generalize ctcDdlExecuteLockTables cfg req s = ends at hends
  cases hends with
  | noClient hends => exact hclient hends
  | nameOnly hopens hends _ => exact hget hopens hends
  | skipped hopens hends _ => exact hget hopens hends
  | accumulated hopens hends _ => exact haccumulate _ _ (hget hopens hends)

/-! ## Statements -/

/-- Where the request sets `foreign_key_checks`, it succeeds. -/
def FkSettingsSucceed (cfg : Config) (req : UpdateRequest) (s : ProxyState) : Prop :=
  ReachesStatement cfg req s → req.openNoCheckFk = true →
    req.setFkOff = none ∧ (req.sql = none → req.setFkOn = none)

/-- The request initialises a client, changes what is noted about it, and closes the handle when
it fails to set `foreign_key_checks`. -/
theorem update_induction {P : ProxyState → Prop} (cfg : Config) (req : UpdateRequest)
    {s : ProxyState} (h : P s)
    (hclient : AsksForClient cfg req → ∀ {result s'},
      ClientEnds req.key req.dbName req.client s result s' → P s')
    (hsame : ∀ s s', P s → SameLocks s s' → P s')
    (hclose : ¬ FkSettingsSucceed cfg req s → ∀ {conn s₁ s'},
      ClientEnds req.key req.dbName req.client s (.ok conn) s₁ → SameLocks s₁ s' → P s' →
        P (s'.closeConn conn)) :
    P (ctcDdlExecuteUpdate cfg req s).2 := by
  have hsql : ReachesStatement cfg req s → ∀ {conn s₁ s'},
      ClientEnds req.key req.dbName req.client s (.ok conn) s₁ → SameLocks s₁ s' →
        P (executeSql req conn s').2 := by
    intro hreaches conn s₁ s' hends hs'
    have hs₁ := hclient hreaches.toAsksForClient hends
    rcases SameLocks.executeSql req conn s' with hrun | ⟨hfk, hok, hon, s'', hrun, heq⟩
    · exact hsame _ _ hs₁ (hs'.trans hrun)
    · rw [heq]
      have hrun' := hs'.trans hrun
      refine hclose (fun hguard => ?_) hends hrun' (hsame _ _ hs₁ hrun')
      exact hon ((hguard hreaches hfk).2 hok)
  have hends := ctcDdlExecuteUpdate_ends cfg req s
  generalize ctcDdlExecuteUpdate cfg req s = ends at hends
  cases hends with
  | ignored _ => exact h
  | noClient hasks hends _ => exact hclient hasks hends
  | noSeed hasks hends _ => exact hclient hasks hends
  | fkOffFailed hreaches hends hfk hoff =>
    refine hclose (fun hguard => ?_) hends (.refl _) (hclient hreaches.toAsksForClient hends)
    rw [(hguard hreaches hfk).1] at hoff
    cases hoff
  | unchecked hreaches hends _ _ => exact hsql hreaches hends (.setSession _ _ rfl)
  | plain hreaches hends _ => exact hsql hreaches hends (.refl _)

theorem openConn_induction {P : ProxyState → Prop} (cfg : Config) (req : UpdateRequest)
    {s : ProxyState} (h : P s)
    (hclient : req.mysqlInstId ≠ cfg.ctcInstanceId → ∀ {result s'},
      ClientEnds req.key req.dbName req.client s result s' → P s') :
    P (ctcExecuteRewriteOpenConn cfg req s).2 := by
  have hends := ctcInitMysqlClient_spec cfg req.key req.dbName req.userName
    (ctcUseProxy req.isSlave req.sqlCommand) req.client s
  unfold ctcExecuteRewriteOpenConn
  dsimp only
  split
  next => exact h
  next hremote =>
    generalize ctcInitMysqlClient cfg req.key req.dbName req.userName
      (ctcUseProxy req.isSlave req.sqlCommand) req.client s = client at hends
    obtain ⟨result, s'⟩ := client
    cases result with
    | error error => exact hclient hremote hends
    | ok conn => exact hclient hremote hends

/-- The condition on a request, in the state before it. -/
def KeepsHandle (cfg : Config) (s : ProxyState) : Request → Prop
  | .update req => FkSettingsSucceed cfg req s
  | _ => True

theorem Known.closeConn {s : ProxyState} (h : Known s) (conn : Nat) : Known (s.closeConn conn) :=
  ⟨h.separate, h.opened⟩

/-- One request. -/
theorem Tidy.step {s : ProxyState} (h : Tidy s) (cfg : Config) (req : Request)
    (hkeeps : KeepsHandle cfg s req) : Tidy (proxyStep cfg s req) := by
  have hclose : ∀ s key, Tidy s → Tidy (closeMysqlConnByKey s key) := fun _ key h => h.closeByKey key
  cases req with
  | openConn req => exact openConn_induction cfg req h fun _ _ _ hends => h.client hends
  | update req =>
    refine update_induction cfg req h (fun _ _ _ hends => h.client hends) (fun _ _ h hsame => ?_) ?_
    · exact h.congr hsame.toSameConns
    · exact fun hnot => absurd hkeeps hnot
  | lockTables req =>
    dsimp only [proxyStep]
    split
    · exact h
    · refine lockTables_induction cfg req (fun hends => h.client hends) (fun _ _ _ hends => ?_)
        fun _ _ h => ?_
      · exact (h.client hends).congr (.ctcDdlGetLock _ _ _ _)
      · exact h.congr (SameLocks.lockAccumulated _ _ _ _).toSameConns
  | unlockTables req =>
    dsimp only [proxyStep]
    split
    · exact h
    · refine unlockTables_induction hclose (fun s conn key h => ?_) (fun s conn h => ?_) cfg req h
      · exact h.congr ((SameConns.setSession s conn _).trans (.clearLockInfo _ _))
      · exact h.congr (.setSession s conn _)
  | close thdId mysqlInstId =>
    dsimp only [proxyStep]
    split
    · exact h
    · exact closeMysqlConnection_induction hclose thdId mysqlInstId h
  | sessionLost conn =>
    dsimp only [proxyStep]
    exact h.congr (.setSession s conn _)

/-- A handle that is closed under its entry is not tidy. -/
theorem not_tidy_closeConn {s : ProxyState} {key : UInt64} {conn : Nat}
    (hkey : s.connOf key = some conn) : ¬ Tidy (s.closeConn conn) := by
  intro h
  refine h.registered key conn hkey ?_
  exact List.mem_append_right _ (List.mem_singleton.mpr rfl)

/-- A statement behind which `foreign_key_checks` cannot be set. -/
theorem executeSql_closes {req : UpdateRequest} {conn : Nat} {error : ClientError}
    (hfk : req.openNoCheckFk = true) (hsql : req.sql = none) (hon : req.setFkOn = some error)
    (s : ProxyState) : (executeSql req conn s).2 =
      (s.setSession conn fun session => session.run req.sqlEffect).closeConn conn := by
  unfold executeSql
  rw [hsql]
  dsimp only
  rw [if_pos hfk, hon]

/-- The condition is needed: a request that misses it leaves an entry without a handle. -/
theorem Tidy.keepsHandle_of_step {cfg : Config} {s : ProxyState} {req : Request}
    (hnext : Tidy (proxyStep cfg s req)) : KeepsHandle cfg s req := by
  cases req with
  | update req =>
    intro hreaches hfk
    have hends := ctcDdlExecuteUpdate_ends cfg req s
    dsimp only [proxyStep] at hnext
    generalize ctcDdlExecuteUpdate cfg req s = ends at hends hnext
    cases hends with
    | ignored hignored => exact absurd hreaches.toAsksForClient hignored
    | noClient _ _ hleft => exact absurd hreaches hleft
    | noSeed _ _ hleft => exact absurd hreaches hleft
    | fkOffFailed _ hends _ _ =>
      exact absurd hnext (not_tidy_closeConn (connOf_eq_some.mpr hends.lookup))
    | @unchecked conn s' _ hends _ hoff =>
      refine ⟨hoff, fun hsql => ?_⟩
      cases hon : req.setFkOn with
      | none => rfl
      | some error =>
        have hkey : s'.connOf req.key = some conn := connOf_eq_some.mpr hends.lookup
        rw [executeSql_closes hfk hsql hon] at hnext
        exact absurd hnext (not_tidy_closeConn hkey)
    | plain _ _ hplain => exact absurd (hplain.symm.trans hfk) Bool.false_ne_true
  | openConn _ => trivial
  | lockTables _ => trivial
  | unlockTables _ => trivial
  | close _ _ => trivial
  | sessionLost _ => trivial

/-- **The connections of the proxy.** In a run in which no request fails to set
`foreign_key_checks`, the open handles are those of the entries after every request, and none is
closed twice. -/
theorem tidy_run (cfg : Config) {reqs : List Request}
    (hRun : Machine.Guarded (proxyStep cfg) (KeepsHandle cfg) .init reqs) (k : Nat) :
    Tidy ((reqs.take k).foldl (proxyStep cfg) .init) := by
  have hStep : ∀ s req, Tidy s → KeepsHandle cfg s req → Tidy (proxyStep cfg s req) :=
    fun s req h hkeeps => h.step cfg req hkeeps
  exact Machine.invariant_of_guarded hStep Tidy.init hRun k

/-- A node with instance number 1, without normalised metadata. -/
def proxyConfig : Config := ⟨1, false, false⟩

/-- Every call of the client succeeds. -/
def clientAnswers : ClientAnswers := ⟨none, none, none, none, none⟩

def lostConnection : ClientError := ⟨2013, by decide⟩

/-- A statement of session 7 of instance 2 that runs without checks of foreign keys. -/
def dropWithoutFk (setFkOff sql setFkOn : Option ClientError) : UpdateRequest where
  thdId := 7
  mysqlInstId := 2
  dbName := "d"
  userName := "u"
  sqlCommand := .other 0
  openNoCheckFk := true
  withSubselect := false
  isSlave := false
  client := clientAnswers
  setSeed := none
  setFkOff := setFkOff
  sql := sql
  sqlEffect := ⟨none, none⟩
  setFkOn := setFkOn

/-- A request of session 7 of instance 2 to lock a table. All calls succeed; the checks answer as
given. -/
def lockTable (table : String) (newTable : Option Int) (oldTables : Table → Option Int) :
    LockRequest where
  thdId := 7
  instId := 2
  dbName := "d"
  table := ("d", table)
  userName := "u"
  sqlType := .other 0
  client := clientAnswers
  getLock := .row true
  newTable := newTable
  oldTables := oldTables
  lockTables := none

/-- The handle is closed when `foreign_key_checks` cannot be set, and once more when the session
ends. -/
theorem closeMysqlConnection_closes_twice :
    let s := [Request.update (dropWithoutFk (some lostConnection) none none),
      Request.close 7 2].foldl (proxyStep proxyConfig) .init
    s.closed = [0, 1, 1] ∧ ¬ Tidy s := by
  intro s
  have hclosed : s.closed = [0, 1, 1] := rfl
  refine ⟨hclosed, fun h => ?_⟩
  have honce := h.closedOnce
  rw [hclosed] at honce
  exact absurd honce (by decide)

/-- A session that executes a statement and ends. -/
theorem tidy_run_session :
    let reqs := [Request.update (dropWithoutFk none none none), Request.close 7 2]
    Tidy ((reqs.take 2).foldl (proxyStep proxyConfig) .init) := by
  intro reqs
  have hRun : Machine.Guarded (proxyStep proxyConfig) (KeepsHandle proxyConfig) .init reqs :=
    ⟨fun _ _ => ⟨rfl, fun _ => rfl⟩, trivial, trivial⟩
  exact tidy_run proxyConfig hRun 2

end CantianConnector.Proxy
