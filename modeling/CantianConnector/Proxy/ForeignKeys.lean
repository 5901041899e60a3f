import CantianConnector.Proxy.Connections

/-!
# The checks of foreign keys

A statement that is to run without checks of foreign keys is run between two settings of
`foreign_key_checks`. When the statement fails, the second one is left out, and the next statement
of the session runs without checks too.
-/

namespace CantianConnector.Proxy

/-! ## Sessions that check -/

/-- Every session checks foreign keys. -/
def Checked (s : ProxyState) : Prop := ∀ conn, (s.sessions conn).foreignKeyChecks = true

theorem Checked.init : Checked .init := fun _ => rfl

theorem Checked.setSession {s : ProxyState} {conn : Nat} {f : Session → Session}
    (hothers : ∀ other, other ≠ conn → (s.sessions other).foreignKeyChecks = true)
    (hf : (f (s.sessions conn)).foreignKeyChecks = true) : Checked (s.setSession conn f) := by
  intro other
  dsimp only [ProxyState.setSession]
  by_cases hother : other = conn
  · rw [hother, Function.update_self, hf]
  · rw [Function.update_of_ne hother, hothers other hother]

/-- A change of something else. -/
theorem Checked.setOther {s : ProxyState} (h : Checked s) {conn : Nat} {f : Session → Session}
    (hf : (f (s.sessions conn)).foreignKeyChecks = (s.sessions conn).foreignKeyChecks) :
    Checked (s.setSession conn f) :=
  Checked.setSession (fun other _ => h other) (hf.trans (h conn))

theorem Checked.closeConn {s : ProxyState} (h : Checked s) (conn : Nat) :
    Checked (s.closeConn conn) := by
  intro other
  dsimp only [ProxyState.closeConn]
  by_cases hother : other = conn
  · rw [hother, Function.update_self, Session.init]
  · rw [Function.update_of_ne hother, h other]

theorem Checked.grown {s s' : ProxyState} {live : List Nat} (h : Checked s)
    (hgrown : Grown s s' live) : Checked s' := by
  intro conn
  by_cases hnew : s.opened ≤ conn ∧ conn < s'.opened
  · rw [hgrown.new conn hnew.1 hnew.2, Session.init]
  · rw [hgrown.old conn (by omega), h conn]

theorem Checked.client {key : UInt64} {db : String} {answers : ClientAnswers} {s s' : ProxyState}
    {result : Except ClientError Nat} (h : Checked s)
    (hends : ClientEnds key db answers s result s') : Checked s' := by
  have hnew : ∀ {s₀}, Checked s₀ → NewClient key s₀ result s' → Checked s' := by
    rintro s₀ h₀ (⟨_, hgrown⟩ | hgrown)
    · exact h₀.grown hgrown
    · exact fun conn => h₀.grown hgrown conn
  cases hends with
  | kept _ _ => exact h
  | fresh _ hclient => exact hnew h hclient
  | @reconnected info _ _ _ _ hclient =>
    have hdrop : Checked (s.dropConn key info) := h.closeConn info.conn
    exact hnew hdrop hclient

theorem Checked.closeByKey {s : ProxyState} (h : Checked s) (key : UInt64) :
    Checked (closeMysqlConnByKey s key) := by
  cases hlookup : s.connMap.lookup key with
  | none =>
    rw [closeMysqlConnByKey_of_lookup_none hlookup]
    exact h
  | some info =>
    rw [closeMysqlConnByKey_eq hlookup]
    exact h.closeConn info.conn

theorem modifyInfo_sessions (s : ProxyState) (key : UInt64) (f : ConnInfo → ConnInfo) :
    (s.modifyInfo key f).sessions = s.sessions := by
  unfold ProxyState.modifyInfo
  split
  · rfl
  · rfl

theorem setExplicitTableLock_sessions (s : ProxyState) (key : UInt64) (sqlCommand : SqlCommand) :
    (setExplicitTableLock s key sqlCommand).sessions = s.sessions := by
  unfold setExplicitTableLock
  split
  · exact modifyInfo_sessions s key _
  · exact modifyInfo_sessions s key _
  · rfl

/-- The entries of the map do not matter. -/
theorem Checked.congr {s s' : ProxyState} (h : Checked s) (hsame : s'.sessions = s.sessions) :
    Checked s' := by
  intro conn
  rw [hsame, h conn]

theorem Checked.getLock {s : ProxyState} (h : Checked s) (conn : Nat) (key : UInt64)
    (answer : GetLockAnswer) : Checked (ctcDdlGetLock conn key answer s).2 := by
  have hset : Checked (s.setSession conn Session.getLock) := h.setOther rfl
  cases answer with
  | failed error => exact h
  | notStored acquired =>
    cases acquired with
    | false => exact h
    | true => exact hset
  | row acquired =>
    cases acquired with
    | false => exact h
    | true =>
      unfold ctcDdlGetLock
      dsimp only
      split
      · exact hset
      · exact hset

theorem Checked.lockAccumulated {s : ProxyState} (h : Checked s) (req : LockRequest) (conn : Nat)
    (key : UInt64) : Checked (lockAccumulated req conn key s).2 := by
  have hinsert : Checked (if ctcCheckTableExist req.newTable > 0 then
      s.modifyInfo key fun info => info.insertTable req.table else s) := by
    split
    · exact h.congr (modifyInfo_sessions s key _)
    · exact h
  unfold Proxy.lockAccumulated
  dsimp only
  generalize (if ctcCheckTableExist req.newTable > 0 then
      s.modifyInfo key fun info => info.insertTable req.table else s) = s' at hinsert ⊢
  split
  · exact hinsert
  split
  · exact hinsert
  cases req.lockTables with
  | some error =>
    dsimp only
    exact hinsert.setOther rfl
  | none =>
    dsimp only
    exact hinsert.setOther rfl

theorem Checked.clearLockInfo {s : ProxyState} (h : Checked s) (key : UInt64) :
    Checked (clearLockInfo s key) := by
  unfold Proxy.clearLockInfo
  split
  · exact h
  · split
    · exact h
    · exact h

/-! ## Statements -/

/-- The condition on a statement, in the state before it: where it comes to its SQL, this does not
fail between the two settings, nor does a setting, and without the option the SQL does not itself
switch the checks off. -/
structure RestoresChecks (cfg : Config) (req : UpdateRequest) (s : ProxyState) : Prop where
  settings : FkSettingsSucceed cfg req s
  succeeds : ReachesStatement cfg req s → req.openNoCheckFk = true → req.sql = none
  keeps : ReachesStatement cfg req s → req.openNoCheckFk = false → req.sql = none →
    req.sqlEffect.foreignKeyChecks ≠ some false

theorem executeSql_ranWith (req : UpdateRequest) (conn : Nat) (s : ProxyState) :
    (executeSql req conn s).1.ranWith = some (s.sessions conn).foreignKeyChecks := by
  unfold executeSql
  dsimp only
  cases req.sql with
  | some error => rfl
  | none =>
    dsimp only
    cases req.openNoCheckFk with
    | false => rfl
    | true =>
      rw [if_pos rfl]
      cases req.setFkOn with
      | some error => rfl
      | none => rfl

/-- Between the settings. -/
theorem Checked.executeSql_between {req : UpdateRequest} {conn : Nat} {s : ProxyState}
    (hothers : ∀ other, other ≠ conn → (s.sessions other).foreignKeyChecks = true)
    (hfk : req.openNoCheckFk = true) (hsql : req.sql = none) (hon : req.setFkOn = none) :
    Checked (executeSql req conn s).2 := by
  unfold executeSql
  rw [hsql]
  dsimp only
  rw [if_pos hfk, hon]
  refine Checked.congr (Checked.setSession (fun other hother => ?_) rfl)
    (setExplicitTableLock_sessions _ _ _)
  dsimp only [ProxyState.setSession]
  rw [Function.update_of_ne hother, hothers other hother]

/-- Without the option, the SQL has the last word. -/
theorem executeSql_checks {req : UpdateRequest} {conn : Nat} {s : ProxyState}
    (hfk : req.openNoCheckFk = false) (hsql : req.sql = none) :
    ((executeSql req conn s).2.sessions conn).foreignKeyChecks =
      req.sqlEffect.foreignKeyChecks.getD (s.sessions conn).foreignKeyChecks := by
  unfold executeSql
  rw [hsql]
  dsimp only
  rw [if_neg (Bool.eq_false_iff.mp hfk)]
  dsimp only
  rw [setExplicitTableLock_sessions]
  dsimp only [ProxyState.setSession]
  rw [Function.update_self, Session.run]

/-- Without the option. -/
theorem Checked.executeSql {req : UpdateRequest} {conn : Nat} {s : ProxyState} (h : Checked s)
    (hfk : req.openNoCheckFk = false)
    (hkeeps : req.sql = none → req.sqlEffect.foreignKeyChecks ≠ some false) :
    Checked (executeSql req conn s).2 := by
  unfold Proxy.executeSql
  cases hsql : req.sql with
  | some error => exact h
  | none =>
    dsimp only
    rw [if_neg (by rw [hfk]; exact Bool.false_ne_true)]
    refine Checked.congr (Checked.setSession (fun other _ => h other) ?_)
      (setExplicitTableLock_sessions _ _ _)
    dsimp only [Session.run]
    cases heffect : req.sqlEffect.foreignKeyChecks with
    | none => exact h conn
    | some checks =>
      cases checks with
      | true => rfl
      | false => exact absurd heffect (hkeeps hsql)

/-- A statement that meets the condition leaves every session checking, and without the option its
SQL is not run in a session that does not check. -/
theorem Checked.update {s : ProxyState} (h : Checked s) {cfg : Config} {req : UpdateRequest}
    (hrestores : RestoresChecks cfg req s) :
    Checked (ctcDdlExecuteUpdate cfg req s).2 ∧
      (req.openNoCheckFk = false → (ctcDdlExecuteUpdate cfg req s).1.ranWith ≠ some false) := by
  have hends := ctcDdlExecuteUpdate_ends cfg req s
  generalize ctcDdlExecuteUpdate cfg req s = ends at hends
  cases hends with
  | ignored _ => exact ⟨h, fun _ => nofun⟩
  | noClient _ hends _ => exact ⟨h.client hends, fun _ => nofun⟩
  | noSeed _ hends _ => exact ⟨h.client hends, fun _ => nofun⟩
  | fkOffFailed hreaches _ hfk hoff =>
    rw [(hrestores.settings hreaches hfk).1] at hoff
    cases hoff
  | unchecked hreaches hends hfk _ =>
    refine ⟨?_, fun hplain => absurd (hplain.symm.trans hfk) Bool.false_ne_true⟩
    have hsql := hrestores.succeeds hreaches hfk
    have hon := (hrestores.settings hreaches hfk).2 hsql
    refine Checked.executeSql_between (fun other hother => ?_) hfk hsql hon
    dsimp only [ProxyState.setSession]
    rw [Function.update_of_ne hother, h.client hends other]
  | @plain conn _ hreaches hends hfk =>
    rw [executeSql_ranWith, h.client hends conn]
    exact ⟨(h.client hends).executeSql hfk (hrestores.keeps hreaches hfk), fun _ => nofun⟩

/-! ## Runs -/

/-- The condition on a request, in the state before it. -/
def RestoresFk (cfg : Config) (s : ProxyState) : Request → Prop
  | .update req => RestoresChecks cfg req s
  | _ => True

/-- Every entry has an open handle of its own, and every session checks foreign keys. -/
structure Restored (s : ProxyState) : Prop where
  tidy : Tidy s
  checked : Checked s

/-- One request. -/
theorem Checked.step {s : ProxyState} (h : Checked s) (cfg : Config) (req : Request)
    (hrestores : RestoresFk cfg s req) : Checked (proxyStep cfg s req) := by
  have hclose : ∀ s key, Checked s → Checked (closeMysqlConnByKey s key) :=
    fun _ key h => h.closeByKey key
  cases req with
  | openConn req => exact openConn_induction cfg req h fun _ _ _ hends => h.client hends
  | update req => exact (h.update hrestores).1
  | lockTables req =>
    dsimp only [proxyStep]
    split
    · exact h
    · exact lockTables_induction cfg req (fun hends => h.client hends)
        (fun _ _ _ hends => (h.client hends).getLock _ _ _)
        fun conn _ h => h.lockAccumulated req conn _
  | unlockTables req =>
    dsimp only [proxyStep]
    split
    · exact h
    · refine unlockTables_induction hclose (fun s conn key h => ?_) (fun s conn h => ?_) cfg req h
      · have hset : Checked (s.setSession conn fun session => { session with nameLocks := 0 }) :=
          h.setOther rfl
        exact hset.clearLockInfo key
      · exact h.setOther rfl
  | close thdId mysqlInstId =>
    dsimp only [proxyStep]
    split
    · exact h
    · exact closeMysqlConnection_induction hclose thdId mysqlInstId h
  | sessionLost conn =>
    dsimp only [proxyStep]
    exact Checked.setSession (fun other _ => h other) rfl

/-- The connections of the entries are open, and they check foreign keys. -/
def FkRestored (s : ProxyState) : Prop :=
  ∀ key conn, s.connOf key = some conn →
    conn ∉ s.closed ∧ (s.sessions conn).foreignKeyChecks = true

/-- The entry of a statement, behind its request. -/
theorem FkRestored.executeSql {req : UpdateRequest} {s : ProxyState} {conn : Nat}
    (h : FkRestored (executeSql req conn s).2) (hkey : s.connOf req.key = some conn) :
    conn ∉ (Proxy.executeSql req conn s).2.closed ∧
      ((Proxy.executeSql req conn s).2.sessions conn).foreignKeyChecks = true := by
  refine h req.key conn ?_
  rcases SameLocks.executeSql req conn s with hsame | ⟨-, -, -, s', hsame, heq⟩
  · exact (hsame.connOf req.key).trans hkey
  · have hconn : (s'.closeConn conn).connOf req.key = s'.connOf req.key := rfl
    rw [heq, hconn, hsame.connOf, hkey]

theorem RestoresChecks.of_not_reaches {cfg : Config} {req : UpdateRequest} {s : ProxyState}
    (hleft : ¬ ReachesStatement cfg req s) : RestoresChecks cfg req s :=
  ⟨fun hreaches => absurd hreaches hleft, fun hreaches => absurd hreaches hleft,
    fun hreaches => absurd hreaches hleft⟩

/-- The condition is needed: a request that misses it leaves a connection that is closed or does not
check. Here a session outlives an SQL that fails, also where the error says that it is lost. -/
theorem FkRestored.restoresFk_of_step {cfg : Config} {s : ProxyState} {req : Request}
    (hnext : FkRestored (proxyStep cfg s req)) : RestoresFk cfg s req := by
  cases req with
  | update req =>
    have hends := ctcDdlExecuteUpdate_ends cfg req s
    dsimp only [proxyStep] at hnext
    generalize ctcDdlExecuteUpdate cfg req s = ends at hends hnext
    cases hends with
    | ignored hignored =>
      exact RestoresChecks.of_not_reaches fun hreaches => hignored hreaches.toAsksForClient
    | noClient _ _ hleft => exact RestoresChecks.of_not_reaches hleft
    | noSeed _ _ hleft => exact RestoresChecks.of_not_reaches hleft
    | fkOffFailed _ hends _ _ =>
      have hopen := (hnext _ _ (connOf_eq_some.mpr hends.lookup)).1
      exact absurd (List.mem_append_right _ (List.mem_singleton.mpr rfl)) hopen
    | unchecked _ hends hfk hoff =>
      have hrestored := FkRestored.executeSql hnext (connOf_eq_some.mpr hends.lookup)
      have hsql : req.sql = none := by
        cases hsql : req.sql with
        | none => rfl
        | some error =>
          have hchecks := hrestored.2
          unfold Proxy.executeSql at hchecks
          rw [hsql] at hchecks
          dsimp only [ProxyState.setSession] at hchecks
          rw [Function.update_self] at hchecks
          cases hchecks
      have hon : req.setFkOn = none := by
        cases hon : req.setFkOn with
        | none => rfl
        | some error =>
          have hopen := hrestored.1
          rw [executeSql_closes hfk hsql hon] at hopen
          exact absurd (List.mem_append_right _ (List.mem_singleton.mpr rfl)) hopen
      refine ⟨fun _ _ => ⟨hoff, fun _ => hon⟩, fun _ _ => hsql, fun _ hplain => ?_⟩
      exact absurd (hplain.symm.trans hfk) Bool.false_ne_true
    | plain _ hends hfk =>
      have hno : req.openNoCheckFk ≠ true := Bool.eq_false_iff.mp hfk
      refine ⟨fun _ hyes => absurd hyes hno, fun _ hyes => absurd hyes hno, ?_⟩
      intro _ _ hsql heffect
      have hchecks := (FkRestored.executeSql hnext (connOf_eq_some.mpr hends.lookup)).2
      rw [executeSql_checks hfk hsql, heffect] at hchecks
      cases hchecks
  | openConn _ => trivial
  | lockTables _ => trivial
  | unlockTables _ => trivial
  | close _ _ => trivial
  | sessionLost _ => trivial

/-- **The checks of foreign keys are restored.** In a run in which no statement fails between the two
settings, nor a setting, every connection of an entry checks foreign keys after every request, and
no statement without the option is run without checks. -/
theorem fkRestored_run (cfg : Config) {reqs : List Request}
    (hRun : Machine.Guarded (proxyStep cfg) (RestoresFk cfg) .init reqs) (k : Nat) :
    FkRestored ((reqs.take k).foldl (proxyStep cfg) .init) ∧
      ∀ req, reqs[k]? = some (.update req) → req.openNoCheckFk = false →
        (ctcDdlExecuteUpdate cfg req ((reqs.take k).foldl (proxyStep cfg) .init)).1.ranWith ≠
          some false := by
  have hStep : ∀ s req, Restored s → RestoresFk cfg s req → Restored (proxyStep cfg s req) := by
    intro s req h hrestores
    refine ⟨h.tidy.step cfg req ?_, h.checked.step cfg req hrestores⟩
    cases req with
    | update req => exact hrestores.settings
    | _ => trivial
  have hrestored := Machine.invariant_of_guarded hStep ⟨Tidy.init, Checked.init⟩ hRun k
  refine ⟨fun key conn hkey => ?_, fun req hget hplain => ?_⟩
  · exact ⟨hrestored.tidy.registered key conn hkey, hrestored.checked conn⟩
  · exact (hrestored.checked.update (hRun.get hget)).2 hplain

/-- The answer to a statement on a table that does not exist. -/
def noSuchTable : ClientError := ⟨1146, by decide⟩

/-- A statement of the same session that asks for checks. -/
def insertWithFk : UpdateRequest := { dropWithoutFk none none none with openNoCheckFk := false }

/-- The statement between the settings fails, and the next one runs without checks. -/
theorem ctcDdlExecuteUpdate_leaves_checks_off :
    let s := proxyStep proxyConfig .init (.update (dropWithoutFk none (some noSuchTable) none))
    s.connOf insertWithFk.key = some 1 ∧ (s.sessions 1).foreignKeyChecks = false ∧
      (ctcDdlExecuteUpdate proxyConfig insertWithFk s).1 = ⟨0, some false⟩ ∧ ¬ FkRestored s := by
  intro s
  have hkey : s.connOf insertWithFk.key = some 1 := rfl
  have hoff : (s.sessions 1).foreignKeyChecks = false := rfl
  refine ⟨hkey, hoff, rfl, fun h => ?_⟩
  have hon := (h _ _ hkey).2
  rw [hoff] at hon
  exact Bool.false_ne_true hon

/-- A statement with the option, and one without it. -/
theorem fkRestored_run_session :
    let reqs := [Request.update (dropWithoutFk none none none), .update insertWithFk]
    let s := (reqs.take 1).foldl (proxyStep proxyConfig) .init
    FkRestored s ∧ (ctcDdlExecuteUpdate proxyConfig insertWithFk s).1.ranWith ≠ some false := by
  intro reqs s
  have hRun : Machine.Guarded (proxyStep proxyConfig) (RestoresFk proxyConfig) .init reqs := by
    refine ⟨⟨fun _ _ => ⟨rfl, fun _ => rfl⟩, fun _ _ => rfl, fun _ hplain => ?_⟩, ?_, trivial⟩
    · exact absurd hplain (by decide)
    · exact ⟨fun _ hfk => absurd hfk (by decide), fun _ _ => rfl, fun _ _ _ => nofun⟩
  have hrun := fkRestored_run proxyConfig hRun 1
  exact ⟨hrun.1, hrun.2 insertWithFk rfl rfl⟩

end CantianConnector.Proxy
