import CantianConnector.Proxy.Client

/-!
# How requests end

A statement and a lock request can leave early at several places. `UpdateEnds` and `LockEnds` say
once which places these are and what holds there; the invariants go through their cases.
-/

namespace CantianConnector.Proxy

/-! ## Statements -/

/-- The request comes from another node, and asks for a connection. -/
structure AsksForClient (cfg : Config) (req : UpdateRequest) : Prop where
  remote : req.mysqlInstId ≠ cfg.ctcInstanceId
  forwarded : ¬(cfg.metadataNormalized = true ∧
    (req.sqlCommand ≠ .setOption ∨ req.withSubselect = false))

/-- The request comes to its statement: the connection can be had, and the seed is set. -/
structure ReachesStatement (cfg : Config) (req : UpdateRequest) (s : ProxyState) : Prop extends
    AsksForClient cfg req where
  client : ClientOpens cfg req.key req.dbName req.userName
    (ctcUseProxy req.isSlave req.sqlCommand) req.client s
  seed : needsSeed req.sqlCommand = true → req.setSeed = none

/-- How a request to execute a statement ends. -/
inductive UpdateEnds (cfg : Config) (req : UpdateRequest) (s : ProxyState) :
    UpdateEnd × ProxyState → Prop
  | ignored (hignored : ¬ AsksForClient cfg req) : UpdateEnds cfg req s (⟨0, none⟩, s)
  | noClient {error : ClientError} {s' : ProxyState} (hasks : AsksForClient cfg req)
      (hends : ClientEnds req.key req.dbName req.client s (.error error) s')
      (hleft : ¬ ReachesStatement cfg req s) : UpdateEnds cfg req s (⟨error.code, none⟩, s')
  | noSeed {conn : Nat} {s' : ProxyState} (hasks : AsksForClient cfg req)
      (hends : ClientEnds req.key req.dbName req.client s (.ok conn) s')
      (hleft : ¬ ReachesStatement cfg req s) : UpdateEnds cfg req s (⟨1, none⟩, s')
  | fkOffFailed {conn : Nat} {s' : ProxyState} {error : ClientError}
      (hreaches : ReachesStatement cfg req s)
      (hends : ClientEnds req.key req.dbName req.client s (.ok conn) s')
      (hfk : req.openNoCheckFk = true) (hoff : req.setFkOff = some error) :
    UpdateEnds cfg req s (⟨error.code, none⟩, s'.closeConn conn)
  | unchecked {conn : Nat} {s' : ProxyState} (hreaches : ReachesStatement cfg req s)
      (hends : ClientEnds req.key req.dbName req.client s (.ok conn) s')
      (hfk : req.openNoCheckFk = true) (hoff : req.setFkOff = none) :
    UpdateEnds cfg req s (executeSql req conn
      (s'.setSession conn fun session => { session with foreignKeyChecks := false }))
  | plain {conn : Nat} {s' : ProxyState} (hreaches : ReachesStatement cfg req s)
      (hends : ClientEnds req.key req.dbName req.client s (.ok conn) s')
      (hfk : req.openNoCheckFk = false) : UpdateEnds cfg req s (executeSql req conn s')

theorem ctcDdlExecuteUpdate_ends (cfg : Config) (req : UpdateRequest) (s : ProxyState) :
    UpdateEnds cfg req s (ctcDdlExecuteUpdate cfg req s) := by
  have hends := ctcInitMysqlClient_spec cfg req.key req.dbName req.userName
    (ctcUseProxy req.isSlave req.sqlCommand) req.client s
  have hopens := ctcInitMysqlClient_ok_iff cfg req.key req.dbName req.userName
    (ctcUseProxy req.isSlave req.sqlCommand) req.client s
  unfold ctcDdlExecuteUpdate
  by_cases hsameNode : req.mysqlInstId = cfg.ctcInstanceId
  · rw [if_pos hsameNode]
    exact .ignored fun hasks => hasks.remote hsameNode
  rw [if_neg hsameNode]
  by_cases hnormalized : cfg.metadataNormalized = true ∧
      (req.sqlCommand ≠ .setOption ∨ req.withSubselect = false)
  · rw [if_pos hnormalized]
    exact .ignored fun hasks => hasks.forwarded hnormalized
  rw [if_neg hnormalized]
  have hasks : AsksForClient cfg req := ⟨hsameNode, hnormalized⟩
  dsimp only
  generalize ctcInitMysqlClient cfg req.key req.dbName req.userName
    (ctcUseProxy req.isSlave req.sqlCommand) req.client s = client at hends hopens
  obtain ⟨result, s'⟩ := client
  cases result with
  | error error =>
    refine .noClient hasks hends fun hreaches => ?_
    obtain ⟨conn, hconn⟩ := hopens.mpr hreaches.client
    cases hconn
  | ok conn =>
    dsimp only
    cases hseed : (if needsSeed req.sqlCommand = true then req.setSeed else none) with
    | some error =>
      refine .noSeed hasks hends fun hreaches => ?_
      split at hseed
      next hneeds =>
        rw [hreaches.seed hneeds] at hseed
        cases hseed
      next => cases hseed
    | none =>
      have hreaches : ReachesStatement cfg req s := by
        refine ⟨hasks, hopens.mp ⟨conn, rfl⟩, fun hneeds => ?_⟩
        rwa [if_pos hneeds] at hseed
      dsimp only
      cases hfk : req.openNoCheckFk with
      | false => exact .plain hreaches hends hfk
      | true =>
        rw [if_pos rfl]
        cases hoff : req.setFkOff with
        | some error => exact .fkOffFailed hreaches hends hfk hoff
        | none => exact .unchecked hreaches hends hfk hoff

/-! ## Locks -/

/-- How a lock request ends. -/
inductive LockEnds (cfg : Config) (key : UInt64) (req : LockRequest) (s : ProxyState) :
    Int × ProxyState → Prop
  | noClient {error : ClientError} {s' : ProxyState}
      (hends : ClientEnds key req.dbName req.client s (.error error) s') :
    LockEnds cfg key req s (error.code, s')
  | nameOnly {conn : Nat} {s' : ProxyState}
      (hopens : ClientOpens cfg key req.dbName req.userName
        (!decide (req.instId = cfg.ctcInstanceId)) req.client s)
      (hends : ClientEnds key req.dbName req.client s (.ok conn) s')
      (hleft : req.table.2 = "" ∨ (ctcDdlGetLock conn key req.getLock s').1 ≠ 0) :
    LockEnds cfg key req s (ctcDdlGetLock conn key req.getLock s')
  | skipped {conn : Nat} {s' : ProxyState}
      (hopens : ClientOpens cfg key req.dbName req.userName
        (!decide (req.instId = cfg.ctcInstanceId)) req.client s)
      (hends : ClientEnds key req.dbName req.client s (.ok conn) s')
      (hleft : req.instId = cfg.ctcInstanceId ∨
        (req.sqlType = .createTable ∨ req.sqlType = .dropView ∨ req.sqlType = .createView) ∨
        (((ctcDdlGetLock conn key req.getLock s').2.connMap.lookup key).map
          ConnInfo.hasExplicitTableLock).getD false = true) :
    LockEnds cfg key req s (0, (ctcDdlGetLock conn key req.getLock s').2)
  | accumulated {conn : Nat} {s' : ProxyState}
      (hopens : ClientOpens cfg key req.dbName req.userName
        (!decide (req.instId = cfg.ctcInstanceId)) req.client s)
      (hends : ClientEnds key req.dbName req.client s (.ok conn) s')
      (hlock : (ctcDdlGetLock conn key req.getLock s').1 = 0) :
    LockEnds cfg key req s
      (lockAccumulated req conn key (ctcDdlGetLock conn key req.getLock s').2)

theorem ctcDdlExecuteLockTables_ends (cfg : Config) (req : LockRequest) (s : ProxyState) :
    LockEnds cfg (req.key cfg) req s (ctcDdlExecuteLockTables cfg req s) := by
  have hends := ctcInitMysqlClient_spec cfg (req.key cfg) req.dbName req.userName
    (!decide (req.instId = cfg.ctcInstanceId)) req.client s
  have hopens := ctcInitMysqlClient_ok_iff cfg (req.key cfg) req.dbName req.userName
    (!decide (req.instId = cfg.ctcInstanceId)) req.client s
  unfold ctcDdlExecuteLockTables
  dsimp only
  generalize ctcInitMysqlClient cfg (req.key cfg) req.dbName req.userName
    (!decide (req.instId = cfg.ctcInstanceId)) req.client s = client at hends hopens
  obtain ⟨result, s'⟩ := client
  cases result with
  | error error => exact .noClient hends
  | ok conn =>
    have hclient := hopens.mp ⟨conn, rfl⟩
    dsimp only
    split
    next hdatabase => exact .nameOnly hclient hends (Or.inl hdatabase)
    split
    next hfailed => exact .nameOnly hclient hends (Or.inr hfailed)
    next hlock =>
      split
      next hsameNode => exact .skipped hclient hends (Or.inl (of_decide_eq_true hsameNode))
      split
      next hkind => exact .skipped hclient hends (Or.inr (Or.inl hkind))
      split
      next hexplicit => exact .skipped hclient hends (Or.inr (Or.inr hexplicit))
      next => exact .accumulated hclient hends (Decidable.not_not.mp hlock)

end CantianConnector.Proxy
