import CantianConnector.Ddl.LockInstance
import CantianConnector.Proxy.Connections

/-!
# The counters of named locks

`g_name_locks` is to be the number of named locks that the connections hold, so that
`LOCK INSTANCE` sees a DDL in progress. The counters lose track when a connection that holds locks
is replaced or loses its session, when a lock is acquired but its result cannot be fetched, and
when several locks are released at once.
-/

namespace CantianConnector.Proxy

open CantianConnector.Ddl (ctcIsDdlProcessing)
open Assoc (total)

/-! ## Counted locks -/

/-- The counters are right, but for the entries of some keys. -/
structure CountedBut (but : UInt64 → Prop) (s : ProxyState) : Prop extends Known s where
  counted : ∀ key info, ¬ but key → s.connMap.lookup key = some info →
    info.nameLocks = (s.sessions info.conn).nameLocks
  registered : ∀ conn, (s.sessions conn).nameLocks ≠ 0 → ∃ key, s.connOf key = some conn
  sum : s.gNameLocks = total ConnInfo.nameLocks s.connMap
  bound : s.gNameLocks < 2 ^ 32

/-- The counters are right. -/
abbrev Counted (s : ProxyState) : Prop := CountedBut (fun _ => False) s

theorem subGNameLocks_of_le {gNameLocks num : Nat} (hbound : gNameLocks < 2 ^ 32)
    (hle : num ≤ gNameLocks) : subGNameLocks gNameLocks num = gNameLocks - num := by
  unfold subGNameLocks
  omega

theorem addGNameLocks_of_lt {gNameLocks num : Nat} (hbound : gNameLocks + num < 2 ^ 32) :
    addGNameLocks gNameLocks num = gNameLocks + num := Nat.mod_eq_of_lt hbound

theorem CountedBut.init (but : UInt64 → Prop) : CountedBut but .init where
  toKnown := Known.init
  counted _ _ _ h := by cases h
  registered _ h := absurd rfl h
  sum := rfl
  bound := by decide

theorem CountedBut.congr {but : UInt64 → Prop} {s s' : ProxyState} (h : CountedBut but s)
    (hsame : SameLocks s s') : CountedBut but s' where
  toKnown := h.toKnown.congr hsame.toSameConns
  counted key info' hbut hlookup' := by
    have hlocks := hsame.nameLocks key
    have hconn := hsame.connOf key
    rw [ProxyState.connOf, ProxyState.connOf, hlookup'] at hconn
    rw [hlookup'] at hlocks
    obtain ⟨info, hlookup, heq⟩ := Option.map_eq_some_iff.mp hlocks.symm
    rw [hlookup, Option.map_some, Option.map_some, Option.some.injEq] at hconn
    rw [← heq, hsame.sessions, hconn]
    exact h.counted key info hbut hlookup
  registered conn hconn := by
    rw [hsame.sessions] at hconn
    obtain ⟨key, hkey⟩ := h.registered conn hconn
    exact ⟨key, (hsame.connOf key).trans hkey⟩
  sum := by rw [hsame.gNameLocks, hsame.total, h.sum]
  bound := by
    rw [hsame.gNameLocks]
    exact h.bound

/-- A connection is closed, and its locks are subtracted: its entry need not have been right. -/
theorem CountedBut.closeByKey {but : UInt64 → Prop} {s : ProxyState} (h : CountedBut but s)
    (key : UInt64) :
    CountedBut (fun key' => but key' ∧ key' ≠ key) (closeMysqlConnByKey s key) := by
  cases hlookup : s.connMap.lookup key with
  | none =>
    rw [closeMysqlConnByKey_of_lookup_none hlookup]
    refine { h with counted := fun key' info hbut hlookup' => ?_ }
    refine h.counted key' info (fun hkey' => hbut ⟨hkey', ?_⟩) hlookup'
    rintro rfl
    rw [hlookup] at hlookup'
    cases hlookup'
  | some info =>
    have htotal := Assoc.total_eq_of_lookup ConnInfo.nameLocks hlookup
    have hsum := h.sum
    have hbound := h.bound
    have hconn := connOf_of_lookup hlookup
    have hsub : subGNameLocks s.gNameLocks info.nameLocks = s.gNameLocks - info.nameLocks :=
      subGNameLocks_of_le hbound (by omega)
    rw [closeMysqlConnByKey_eq hlookup, hsub]
    refine ⟨(h.toKnown.dropConn key info).congr (.setGNameLocks _ _), ?_, ?_, ?_, ?_⟩
    · intro key' info' hbut hlookup'
      obtain ⟨hne, hold⟩ := Assoc.lookup_of_lookup_erase hlookup'
      have hother : info'.conn ≠ info.conn := by
        intro heq
        refine hne (h.separate key' key _ (connOf_of_lookup hold) ?_)
        rw [hconn, heq]
      dsimp only [ProxyState.setGNameLocks, ProxyState.dropConn, ProxyState.closeConn]
      rw [Function.update_of_ne hother]
      exact h.counted key' info' (fun hkey' => hbut ⟨hkey', hne⟩) hold
    · intro conn hlocks
      dsimp only [ProxyState.setGNameLocks, ProxyState.dropConn, ProxyState.closeConn] at hlocks
      by_cases hsame : conn = info.conn
      · rw [hsame, Function.update_self] at hlocks
        exact absurd rfl hlocks
      rw [Function.update_of_ne hsame] at hlocks
      obtain ⟨key', hkey'⟩ := h.registered conn hlocks
      refine ⟨key', ?_⟩
      have herase := connOf_eraseInfo s key key'
      rw [if_neg, hkey'] at herase
      · exact herase
      · rintro rfl
        rw [hconn] at hkey'
        exact hsame (Option.some.inj hkey').symm
    · dsimp only [ProxyState.setGNameLocks, ProxyState.dropConn, ProxyState.closeConn,
        ProxyState.eraseInfo]
      omega
    · dsimp only [ProxyState.setGNameLocks]
      omega

theorem Counted.closeByKey {s : ProxyState} (h : Counted s) (key : UInt64) :
    Counted (closeMysqlConnByKey s key) := by
  have hclosed := CountedBut.closeByKey h key
  exact { hclosed with counted := fun key' info _ => hclosed.counted key' info fun hbut => hbut.1 }

/-- The entry of a connection without locks may be deleted without a subtraction. -/
theorem Counted.dropConn {s : ProxyState} {key : UInt64} {info : ConnInfo} (h : Counted s)
    (hlookup : s.connMap.lookup key = some info) (hfree : info.nameLocks = 0) :
    Counted (s.dropConn key info) := by
  have hclosed := Counted.closeByKey h key
  rw [closeMysqlConnByKey_eq hlookup, hfree, subGNameLocks_of_le h.bound (Nat.zero_le _),
    Nat.sub_zero] at hclosed
  exact hclosed

theorem Counted.grown {s s' : ProxyState} {live : List Nat} (h : Counted s)
    (hgrown : Grown s s' live) : Counted s' where
  toKnown := h.toKnown.grown hgrown
  counted key info hbut hlookup := by
    rw [hgrown.connMap] at hlookup
    rw [hgrown.old _ (Or.inl (h.opened key _ (connOf_of_lookup hlookup)))]
    exact h.counted key info hbut hlookup
  registered conn hlocks := by
    have hold : (s'.sessions conn).nameLocks = (s.sessions conn).nameLocks := by
      by_cases hnew : s.opened ≤ conn ∧ conn < s'.opened
      · rw [hgrown.new conn hnew.1 hnew.2] at hlocks
        exact absurd rfl hlocks
      · rw [hgrown.old conn (by omega)]
    rw [hold] at hlocks
    obtain ⟨key, hkey⟩ := h.registered conn hlocks
    exact ⟨key, (hgrown.connOf key).trans hkey⟩
  sum := by rw [hgrown.gNameLocks, hgrown.connMap, h.sum]
  bound := by
    rw [hgrown.gNameLocks]
    exact h.bound

/-- A new connection holds no lock. -/
theorem Counted.register {s s' : ProxyState} {key : UInt64} {conn : Nat} (h : Counted s)
    (hkey : s.connMap.lookup key = none) (hgrown : Grown s s' [conn]) :
    Counted (s'.setInfo key (initCtcMysqlConn conn)) := by
  have hnew := hgrown.isNew conn (List.mem_singleton.mpr rfl)
  have hgrown' := Counted.grown h hgrown
  refine ⟨h.toKnown.register key hgrown, ?_, ?_, ?_, hgrown'.bound⟩
  · intro key' info hbut hlookup
    rcases Assoc.lookup_insert_cases hlookup with ⟨-, rfl⟩ | ⟨-, hold⟩
    · dsimp only [ProxyState.setInfo, initCtcMysqlConn]
      rw [hgrown.new conn hnew.1 hnew.2]
      rfl
    · exact hgrown'.counted key' info hbut hold
  · intro c hlocks
    obtain ⟨key', hkey'⟩ := hgrown'.registered c hlocks
    refine ⟨key', ?_⟩
    rw [connOf_setInfo, if_neg, hkey']
    rintro rfl
    rw [hgrown.connOf, ProxyState.connOf, hkey] at hkey'
    cases hkey'
  · dsimp only [ProxyState.setInfo]
    rw [Assoc.total_insert, Assoc.total_erase_of_lookup_none, hgrown'.sum]
    · exact (Nat.zero_add _).symm
    · rw [hgrown.connMap, hkey]

/-- Whether a connection that holds locks is replaced. -/
def ReplacesUnlocked (key : UInt64) (db : String) (answers : ClientAnswers) (s : ProxyState) :
    Prop :=
  ∀ info, s.connMap.lookup key = some info → ctcSelectDb db answers.selectDb ≠ none →
    info.nameLocks = 0

theorem Counted.client {key : UInt64} {db : String} {answers : ClientAnswers} {s s' : ProxyState}
    {result : Except ClientError Nat} (h : Counted s)
    (hunlocked : ReplacesUnlocked key db answers s)
    (hends : ClientEnds key db answers s result s') : Counted s' := by
  have hnew : ∀ {s₀}, Counted s₀ → s₀.connMap.lookup key = none → NewClient key s₀ result s' →
      Counted s' := by
    rintro s₀ h₀ hkey (⟨_, hgrown⟩ | hgrown)
    · exact Counted.grown h₀ hgrown
    · exact Counted.register h₀ hkey hgrown
  cases hends with
  | kept _ _ => exact h
  | fresh hlookup hclient => exact hnew h hlookup hclient
  | reconnected hlookup hselect hclient =>
    exact hnew (Counted.dropConn h hlookup (hunlocked _ hlookup hselect))
      (AList.lookup_erase _ _) hclient

theorem ClientEnds.gNameLocks {key : UInt64} {db : String} {answers : ClientAnswers}
    {s s' : ProxyState} {result : Except ClientError Nat}
    (hends : ClientEnds key db answers s result s') : s'.gNameLocks = s.gNameLocks := by
  have hnew : ∀ {s₀}, NewClient key s₀ result s' → s'.gNameLocks = s₀.gNameLocks := by
    rintro s₀ (⟨_, hgrown⟩ | hgrown)
    · exact hgrown.gNameLocks
    · exact hgrown.gNameLocks
  cases hends with
  | kept _ _ => rfl
  | fresh _ hclient => exact hnew hclient
  | @reconnected info _ _ _ _ hclient =>
    have hdrop : (s.dropConn key info).gNameLocks = s.gNameLocks := rfl
    rw [← hdrop]
    exact hnew hclient

/-! ## Lock requests -/

/-- The session of a connection and its entry change, and the counter with the entry. -/
theorem Counted.setBoth {s : ProxyState} {key : UInt64} {info info' : ConnInfo} (h : Counted s)
    (hlookup : s.connMap.lookup key = some info) (hconn : info'.conn = info.conn)
    (f : Session → Session) {gNameLocks : Nat}
    (hsum : gNameLocks + info.nameLocks = s.gNameLocks + info'.nameLocks)
    (hbound : gNameLocks < 2 ^ 32) {but : UInt64 → Prop}
    (hcount : ¬ but key → info'.nameLocks = (f (s.sessions info.conn)).nameLocks) :
    CountedBut but
      (((s.setSession info.conn f).setInfo key info').setGNameLocks gNameLocks) := by
  have hsame : SameConns s
      (((s.setSession info.conn f).setInfo key info').setGNameLocks gNameLocks) := by
    refine SameConns.trans ?_ (.setGNameLocks _ _)
    exact (SameConns.setSession s info.conn f).trans (.setInfo hlookup hconn)
  refine ⟨h.toKnown.congr hsame, ?_, ?_, ?_, hbound⟩
  · intro key' info₁ hbut hlookup₁
    dsimp only [ProxyState.setGNameLocks, ProxyState.setInfo, ProxyState.setSession] at hlookup₁ ⊢
    rcases Assoc.lookup_insert_cases hlookup₁ with ⟨rfl, rfl⟩ | ⟨hne, hold⟩
    · rw [hconn, Function.update_self]
      exact hcount hbut
    · have hother : info₁.conn ≠ info.conn := fun heq => hne (h.separate key' key _
        (connOf_of_lookup hold) (by rw [connOf_of_lookup hlookup, heq]))
      rw [Function.update_of_ne hother]
      exact h.counted key' info₁ not_false hold
  · intro conn hlocks
    dsimp only [ProxyState.setGNameLocks, ProxyState.setInfo, ProxyState.setSession] at hlocks
    by_cases hconn' : conn = info.conn
    · exact ⟨key, by rw [hsame.connOf, connOf_of_lookup hlookup, hconn']⟩
    · rw [Function.update_of_ne hconn'] at hlocks
      obtain ⟨key', hkey'⟩ := h.registered conn hlocks
      exact ⟨key', (hsame.connOf key').trans hkey'⟩
  · have hold := h.sum
    have hweight := Assoc.total_eq_of_lookup ConnInfo.nameLocks hlookup
    dsimp only [ProxyState.setGNameLocks, ProxyState.setInfo, ProxyState.setSession]
    rw [Assoc.total_insert]
    omega

/-- A lock that is acquired and counted. -/
theorem Counted.getLock {s : ProxyState} {key : UInt64} {info : ConnInfo} (h : Counted s)
    (hlookup : s.connMap.lookup key = some info) (hroom : s.gNameLocks + 1 < 2 ^ 32) :
    Counted (ctcDdlGetLock info.conn key (.row true) s).2 := by
  have hle : info.nameLocks ≤ s.gNameLocks := by
    rw [h.sum]
    exact Assoc.weight_le_total ConnInfo.nameLocks hlookup
  have hentry : (info.nameLocks + 1) % 2 ^ 32 = info.nameLocks + 1 :=
    Nat.mod_eq_of_lt (by omega)
  have hlookup' : (s.setSession info.conn Session.getLock).connMap.lookup key = some info :=
    hlookup
  have hcounter : (s.setSession info.conn Session.getLock).gNameLocks = s.gNameLocks := rfl
  unfold ctcDdlGetLock
  dsimp only
  rw [hlookup']
  dsimp only
  rw [hentry, hcounter, addGNameLocks_of_lt hroom]
  refine Counted.setBoth h hlookup ?_ Session.getLock ?_ hroom fun _ => ?_
  · rfl
  · dsimp only
    omega
  · rw [Session.getLock, h.counted key info not_false hlookup]

/-- When a lock request keeps the counters right: no connection that holds locks is replaced, and
a lock that is acquired is seen and fits into the counter. -/
def LockCounted (cfg : Config) (req : LockRequest) (s : ProxyState) : Prop :=
  ReplacesUnlocked (req.key cfg) req.dbName req.client s ∧
    (ClientOpens cfg (req.key cfg) req.dbName req.userName
      (!decide (req.instId = cfg.ctcInstanceId)) req.client s →
        req.getLock ≠ .notStored true ∧ (req.getLock = .row true → s.gNameLocks + 1 < 2 ^ 32))

theorem Counted.lockTables {s : ProxyState} (h : Counted s) {cfg : Config} {req : LockRequest}
    (hcounted : LockCounted cfg req s) : Counted (ctcDdlExecuteLockTables cfg req s).2 := by
  refine lockTables_induction cfg req (Counted.client h hcounted.1) ?_ fun _ _ h' =>
    CountedBut.congr h' (.lockAccumulated _ _ _ _)
  intro hopens conn s' hends
  have hs' := Counted.client h hcounted.1 hends
  obtain ⟨hstored, hroom⟩ := hcounted.2 hopens
  obtain ⟨info, hlookup, rfl⟩ := hends.lookup
  cases hanswer : req.getLock with
  | failed error => exact hs'
  | notStored acquired =>
    cases acquired with
    | true => exact absurd hanswer hstored
    | false => exact hs'
  | row acquired =>
    cases acquired with
    | false => exact hs'
    | true =>
      refine Counted.getLock hs' hlookup ?_
      rw [hends.gNameLocks]
      exact hroom hanswer

/-! ## Unlock requests -/

/-- `RELEASE_ALL_LOCKS` releases every lock, and the entry counts one less. -/
theorem Counted.release {s : ProxyState} {key : UInt64} {info : ConnInfo} (h : Counted s)
    (hlookup : s.connMap.lookup key = some info) :
    CountedBut (fun key' => key' = key ∧ 1 < info.nameLocks)
      (clearLockInfo (s.setSession info.conn fun session => { session with nameLocks := 0 })
        key) := by
  have hle : info.nameLocks ≤ s.gNameLocks := by
    rw [h.sum]
    exact Assoc.weight_le_total ConnInfo.nameLocks hlookup
  have hbound := h.bound
  have hlookup' : (s.setSession info.conn fun session =>
      { session with nameLocks := 0 }).connMap.lookup key = some info := hlookup
  have hcounter : (s.setSession info.conn fun session =>
      { session with nameLocks := 0 }).gNameLocks = s.gNameLocks := rfl
  unfold clearLockInfo
  rw [hlookup']
  dsimp only
  split
  next hpos =>
    rw [hcounter, subGNameLocks_of_le hbound (by omega)]
    refine Counted.setBoth h hlookup ?_ _ ?_ ?_ fun hbut => ?_
    · rfl
    · dsimp only
      omega
    · omega
    · dsimp only
      have hone : ¬ 1 < info.nameLocks := fun hmany => hbut ⟨rfl, hmany⟩
      omega
  next hzero =>
    have hset : CountedBut (fun key' => key' = key ∧ 1 < info.nameLocks)
        (((s.setSession info.conn fun session => { session with nameLocks := 0 }).setInfo key
          { info with tableLockInfo := [] }).setGNameLocks s.gNameLocks) := by
      refine Counted.setBoth h hlookup ?_ _ ?_ hbound fun _ => ?_
      · rfl
      · rfl
      · exact Nat.eq_zero_of_not_pos hzero
    exact hset

/-- When an unlock request keeps the counters right: the connection holds one lock at most, or it
is closed. -/
def UnlockCounted (cfg : Config) (req : UnlockRequest) (s : ProxyState) : Prop :=
  ∀ info, s.connMap.lookup (req.key cfg) = some info → req.releaseAllLocks = none →
    req.instId ≠ cfg.ctcInstanceId →
      info.nameLocks ≤ 1 ∨ (info.hasExplicitTableLock = false ∧ req.unlockTables ≠ none)

theorem CountedBut.toCounted {but : UInt64 → Prop} {s : ProxyState} (h : CountedBut but s)
    (hnone : ∀ key, ¬ but key) : Counted s :=
  { h with counted := fun key info _ => h.counted key info (hnone key) }

theorem Counted.unlockTables {s : ProxyState} (h : Counted s) {cfg : Config}
    {req : UnlockRequest} (hcounted : UnlockCounted cfg req s) :
    Counted (ctcDdlExecuteUnlockTables cfg req s) := by
  unfold ctcDdlExecuteUnlockTables
  dsimp only
  cases hlookup : s.connMap.lookup (req.key cfg) with
  | none => exact h
  | some info =>
    dsimp only
    cases hrelease : req.releaseAllLocks with
    | some error => exact Counted.closeByKey h _
    | none =>
      have hreleased := Counted.release h hlookup
      dsimp only
      generalize clearLockInfo (s.setSession info.conn fun session =>
        { session with nameLocks := 0 }) (req.key cfg) = s' at hreleased ⊢
      have hclosed : Counted (closeMysqlConnByKey s' (req.key cfg)) :=
        (hreleased.closeByKey (req.key cfg)).toCounted fun key hkey => hkey.2 hkey.1.1
      by_cases hsameNode : req.instId = cfg.ctcInstanceId
      · rw [if_pos hsameNode]
        exact hclosed
      rw [if_neg hsameNode]
      cases hexplicit : info.hasExplicitTableLock with
      | true =>
        have hone := (hcounted info hlookup hrelease hsameNode).resolve_right
          fun hclose => Bool.false_ne_true (hclose.1.symm.trans hexplicit)
        exact hreleased.toCounted fun key hkey => Nat.not_lt_of_le hone hkey.2
      | false =>
        rw [if_neg Bool.false_ne_true]
        cases hunlock : req.unlockTables with
        | some error => exact hclosed
        | none =>
          have hone := (hcounted info hlookup hrelease hsameNode).resolve_right
            fun hclose => hclose.2 hunlock
          have hs' : Counted s' :=
            hreleased.toCounted fun key hkey => Nat.not_lt_of_le hone hkey.2
          exact CountedBut.congr hs' (.setSession s' info.conn rfl)

/-! ## Other requests -/

/-- When a statement keeps the counters right: no connection that holds locks is replaced, nor is
its handle closed. -/
def UpdateCounted (cfg : Config) (req : UpdateRequest) (s : ProxyState) : Prop :=
  (AsksForClient cfg req → ReplacesUnlocked req.key req.dbName req.client s) ∧
    (FkSettingsSucceed cfg req s ∨
      ∀ info, s.connMap.lookup req.key = some info → info.nameLocks = 0)

/-- The entry of the connection that `ctc_init_mysql_client` returns. -/
theorem ClientEnds.nameLocks {key : UInt64} {db : String} {answers : ClientAnswers}
    {s s' : ProxyState} {conn : Nat} (hends : ClientEnds key db answers s (.ok conn) s')
    (hfree : ∀ info, s.connMap.lookup key = some info → info.nameLocks = 0) :
    ∃ info, s'.connMap.lookup key = some info ∧ info.conn = conn ∧ info.nameLocks = 0 := by
  have hnew : ∀ {s₀}, NewClient key s₀ (.ok conn) s' →
      ∃ info, s'.connMap.lookup key = some info ∧ info.conn = conn ∧ info.nameLocks = 0 := by
    rintro s₀ ⟨hgrown⟩
    exact ⟨_, AList.lookup_insert _, rfl, rfl⟩
  cases hends with
  | kept hlookup _ => exact ⟨_, hlookup, rfl, hfree _ hlookup⟩
  | fresh _ hclient => exact hnew hclient
  | reconnected _ _ hclient => exact hnew hclient

/-- A handle without locks is closed. -/
theorem Counted.closeConn {s : ProxyState} (h : Counted s) {conn : Nat}
    (hfree : (s.sessions conn).nameLocks = 0) : Counted (s.closeConn conn) := by
  have hsessions : ∀ other, ((s.closeConn conn).sessions other).nameLocks =
      (s.sessions other).nameLocks := by
    intro other
    dsimp only [ProxyState.closeConn]
    by_cases hother : other = conn
    · rw [hother, Function.update_self, hfree]
      rfl
    · rw [Function.update_of_ne hother]
  refine ⟨h.toKnown.closeConn conn, ?_, ?_, h.sum, h.bound⟩
  · intro key info hbut hlookup
    rw [hsessions]
    exact h.counted key info hbut hlookup
  · intro other hlocks
    rw [hsessions] at hlocks
    exact h.registered other hlocks

theorem Counted.update {s : ProxyState} (h : Counted s) {cfg : Config} {req : UpdateRequest}
    (hcounted : UpdateCounted cfg req s) : Counted (ctcDdlExecuteUpdate cfg req s).2 := by
  refine update_induction cfg req h (fun hasks => Counted.client h (hcounted.1 hasks))
    (fun _ _ => CountedBut.congr) ?_
  intro hfails conn s₁ s' hends hsame hs'
  obtain ⟨info₁, hlookup₁, rfl, hfree₁⟩ := hends.nameLocks (hcounted.2.resolve_left hfails)
  -- the handle has no lock that its entry would go on counting
  have hlocks := hsame.nameLocks req.key
  rw [hlookup₁, Option.map_some, hfree₁] at hlocks
  obtain ⟨info, hlookup, hfree⟩ := Option.map_eq_some_iff.mp hlocks
  have hconn := hsame.connOf req.key
  rw [connOf_of_lookup hlookup, connOf_of_lookup hlookup₁] at hconn
  have hsession := hs'.counted req.key info not_false hlookup
  rw [hfree, Option.some.inj hconn] at hsession
  exact Counted.closeConn hs' hsession.symm

/-- The condition on a request, in the state before it. -/
def CountsLocks (cfg : Config) (s : ProxyState) : Request → Prop
  | .openConn req => req.mysqlInstId ≠ cfg.ctcInstanceId →
      ReplacesUnlocked req.key req.dbName req.client s
  | .update req => UpdateCounted cfg req s
  | .lockTables req => cfg.metadataNormalized = false → LockCounted cfg req s
  | .unlockTables req => cfg.metadataNormalized = false → UnlockCounted cfg req s
  | .close _ _ => True
  | .sessionLost conn => (s.sessions conn).nameLocks = 0

/-- One request. -/
theorem Counted.step {s : ProxyState} (h : Counted s) (cfg : Config) (req : Request)
    (hcounts : CountsLocks cfg s req) : Counted (proxyStep cfg s req) := by
  cases req with
  | openConn req =>
    exact openConn_induction cfg req h fun hremote => Counted.client h (hcounts hremote)
  | update req => exact Counted.update h hcounts
  | lockTables req =>
    dsimp only [proxyStep]
    cases hnormalized : cfg.metadataNormalized with
    | true => exact h
    | false => exact Counted.lockTables h (hcounts hnormalized)
  | unlockTables req =>
    dsimp only [proxyStep]
    cases hnormalized : cfg.metadataNormalized with
    | true => exact h
    | false => exact Counted.unlockTables h (hcounts hnormalized)
  | close thdId mysqlInstId =>
    dsimp only [proxyStep]
    split
    · exact h
    · have hclose : ∀ s key, Counted s → Counted (closeMysqlConnByKey s key) :=
        fun _ key h => Counted.closeByKey h key
      exact closeMysqlConnection_induction hclose thdId mysqlInstId h
  | sessionLost conn =>
    dsimp only [proxyStep]
    have hfree : (s.sessions conn).nameLocks = 0 := hcounts
    exact CountedBut.congr h (.setSession s conn hfree.symm)

/-- The counters are the locks: the global one is the sum of the others, each of these is the number
of locks that its connection holds, and a DDL is in progress exactly when a connection holds one. -/
structure NameLocksCounted (s : ProxyState) : Prop where
  sum : s.gNameLocks = total ConnInfo.nameLocks s.connMap
  counted : ∀ key info, s.connMap.lookup key = some info →
    info.nameLocks = (s.sessions info.conn).nameLocks
  processing : ctcIsDdlProcessing s.gNameLocks = true ↔ ∃ conn, 0 < (s.sessions conn).nameLocks

theorem Counted.nameLocksCounted {s : ProxyState} (h : Counted s) : NameLocksCounted s where
  sum := h.sum
  counted key info hlookup := h.counted key info not_false hlookup
  processing := by
    rw [ctcIsDdlProcessing, decide_eq_true_eq, h.sum]
    constructor
    · intro hpos
      obtain ⟨key, info, hlookup, hlocks⟩ := Assoc.exists_of_total_pos hpos
      rw [h.counted key info not_false hlookup] at hlocks
      exact ⟨info.conn, hlocks⟩
    · rintro ⟨conn, hlocks⟩
      obtain ⟨key, hkey⟩ := h.registered conn (Nat.ne_of_gt hlocks)
      obtain ⟨info, hlookup, rfl⟩ := connOf_eq_some.mp hkey
      rw [← h.counted key info not_false hlookup] at hlocks
      exact Nat.lt_of_lt_of_le hlocks (Assoc.weight_le_total ConnInfo.nameLocks hlookup)

/-- **The counters of named locks.** In a run in which no connection with named locks is replaced
or loses its session, no lock is acquired unseen, and no unlock request leaves more than one lock
behind, the counters are right after every request. -/
theorem nameLocksCounted_run (cfg : Config) {reqs : List Request}
    (hRun : Machine.Guarded (proxyStep cfg) (CountsLocks cfg) .init reqs) (k : Nat) :
    NameLocksCounted ((reqs.take k).foldl (proxyStep cfg) .init) := by
  have hStep : ∀ s req, Counted s → CountsLocks cfg s req → Counted (proxyStep cfg s req) :=
    fun s req h hcounts => Counted.step h cfg req hcounts
  have hInit : Counted .init := CountedBut.init _
  exact (Machine.invariant_of_guarded hStep hInit hRun k).nameLocksCounted

/-- The table is there, and so are the others. -/
def lockOnce (table : String) : Request := .lockTables (lockTable table (some 1) fun _ => some 1)

/-- The request behind the statement. -/
def unlockTable : UnlockRequest := ⟨7, 2, none, none⟩

/-- A statement on two tables locks both, and one unlock request releases both: a lock stays
counted. -/
theorem ctcDdlExecuteUnlockTables_counts_one :
    let s := [lockOnce "a", lockOnce "b", .unlockTables unlockTable].foldl (proxyStep proxyConfig)
      .init
    s.gNameLocks = 1 ∧ (s.sessions 1).nameLocks = 0 ∧ ¬ NameLocksCounted s := by
  intro s
  have hcounter : s.gNameLocks = 1 := rfl
  have hentry : (s.connMap.lookup (ctcGetConnKey 2 7 true)).map
      (fun info => (info.conn, info.nameLocks)) = some (1, 1) := rfl
  have hsession : (s.sessions 1).nameLocks = 0 := rfl
  refine ⟨hcounter, hsession, fun h => ?_⟩
  obtain ⟨info, hlookup, hinfo⟩ := Option.map_eq_some_iff.mp hentry
  obtain ⟨hconn, hlocks⟩ := Prod.mk.inj hinfo
  have hcounted := h.counted _ info hlookup
  rw [hconn, hlocks, hsession] at hcounted
  cases hcounted

/-- A session that locks a table and unlocks it. -/
theorem nameLocksCounted_run_session :
    let reqs := [lockOnce "a", .unlockTables unlockTable]
    NameLocksCounted ((reqs.take 2).foldl (proxyStep proxyConfig) .init) := by
  intro reqs
  have hfirst : CountsLocks proxyConfig .init (lockOnce "a") := by
    intro _
    refine ⟨fun info hlookup => ?_, fun _ => ⟨nofun, fun _ => by decide⟩⟩
    cases hlookup
  have hsecond : CountsLocks proxyConfig (proxyStep proxyConfig .init (lockOnce "a"))
      (.unlockTables unlockTable) := by
    intro _ info hlookup _ _
    have hentry : ((proxyStep proxyConfig .init (lockOnce "a")).connMap.lookup
      (unlockTable.key proxyConfig)).map ConnInfo.nameLocks = some 1 := rfl
    rw [hlookup] at hentry
    exact Or.inl (Nat.le_of_eq (Option.some.inj hentry))
  have hRun : Machine.Guarded (proxyStep proxyConfig) (CountsLocks proxyConfig) .init reqs :=
    ⟨hfirst, hsecond, trivial⟩
  exact nameLocksCounted_run proxyConfig hRun 2

end CantianConnector.Proxy
