import CantianConnector.Proxy.Client

/-!
# What requests change

Most parts of a request keep the handles of the entries, and most of these keep the named locks
too. What is left are the client (`ClientEnds`), `GET_LOCK` and its release, and the places where a
handle is closed.
-/

namespace CantianConnector.Proxy

/-! ## Handles of entries -/

/-- The handle of the entry for a key. -/
def ProxyState.connOf (s : ProxyState) (key : UInt64) : Option Nat :=
  (s.connMap.lookup key).map ConnInfo.conn

theorem connOf_eq_some {s : ProxyState} {key : UInt64} {conn : Nat} :
    s.connOf key = some conn ↔ ∃ info, s.connMap.lookup key = some info ∧ info.conn = conn :=
  Option.map_eq_some_iff

theorem connOf_of_lookup {s : ProxyState} {key : UInt64} {info : ConnInfo}
    (h : s.connMap.lookup key = some info) : s.connOf key = some info.conn :=
  connOf_eq_some.mpr ⟨info, h, rfl⟩

theorem connOf_setInfo (s : ProxyState) (key key' : UInt64) (info : ConnInfo) :
    (s.setInfo key info).connOf key' = if key' = key then some info.conn else s.connOf key' := by
  unfold ProxyState.connOf ProxyState.setInfo
  split
  next h => rw [h, AList.lookup_insert, Option.map_some]
  next h => rw [AList.lookup_insert_ne h]

theorem connOf_eraseInfo (s : ProxyState) (key key' : UInt64) :
    (s.eraseInfo key).connOf key' = if key' = key then none else s.connOf key' := by
  unfold ProxyState.connOf ProxyState.eraseInfo
  split
  next h => rw [h, AList.lookup_erase, Option.map_none]
  next h => rw [AList.lookup_erase_ne h]

/-- The handles, and the entries that they belong to, are the same. -/
structure SameConns (s s' : ProxyState) : Prop where
  connOf : ∀ key, s'.connOf key = s.connOf key
  opened : s'.opened = s.opened
  closed : s'.closed = s.closed

theorem SameConns.refl (s : ProxyState) : SameConns s s := ⟨fun _ => rfl, rfl, rfl⟩

theorem SameConns.trans {s s' s'' : ProxyState} (h : SameConns s s') (h' : SameConns s' s'') :
    SameConns s s'' where
  connOf key := (h'.connOf key).trans (h.connOf key)
  opened := h'.opened.trans h.opened
  closed := h'.closed.trans h.closed

theorem SameConns.setSession (s : ProxyState) (conn : Nat) (f : Session → Session) :
    SameConns s (s.setSession conn f) := ⟨fun _ => rfl, rfl, rfl⟩

theorem SameConns.setGNameLocks (s : ProxyState) (gNameLocks : Nat) :
    SameConns s (s.setGNameLocks gNameLocks) := ⟨fun _ => rfl, rfl, rfl⟩

/-- An entry is replaced by one with the same handle. -/
theorem SameConns.setInfo {s : ProxyState} {key : UInt64} {info info' : ConnInfo}
    (hlookup : s.connMap.lookup key = some info) (hconn : info'.conn = info.conn) :
    SameConns s (s.setInfo key info') where
  connOf key' := by
    rw [connOf_setInfo]
    split
    next heq => rw [heq, hconn, connOf_of_lookup hlookup]
    next => rfl
  opened := rfl
  closed := rfl

/-- The named locks are the same, and the handles too. -/
structure SameLocks (s s' : ProxyState) : Prop extends SameConns s s' where
  nameLocks : ∀ key, (s'.connMap.lookup key).map ConnInfo.nameLocks =
    (s.connMap.lookup key).map ConnInfo.nameLocks
  total : Assoc.total ConnInfo.nameLocks s'.connMap = Assoc.total ConnInfo.nameLocks s.connMap
  gNameLocks : s'.gNameLocks = s.gNameLocks
  sessions : ∀ conn, (s'.sessions conn).nameLocks = (s.sessions conn).nameLocks

theorem SameLocks.refl (s : ProxyState) : SameLocks s s :=
  ⟨.refl s, fun _ => rfl, rfl, rfl, fun _ => rfl⟩

theorem SameLocks.trans {s s' s'' : ProxyState} (h : SameLocks s s') (h' : SameLocks s' s'') :
    SameLocks s s'' where
  toSameConns := h.toSameConns.trans h'.toSameConns
  nameLocks key := (h'.nameLocks key).trans (h.nameLocks key)
  total := h'.total.trans h.total
  gNameLocks := h'.gNameLocks.trans h.gNameLocks
  sessions conn := (h'.sessions conn).trans (h.sessions conn)

theorem SameLocks.setSession (s : ProxyState) (conn : Nat) {f : Session → Session}
    (hf : (f (s.sessions conn)).nameLocks = (s.sessions conn).nameLocks) :
    SameLocks s (s.setSession conn f) where
  toSameConns := .setSession s conn f
  nameLocks _ := rfl
  total := rfl
  gNameLocks := rfl
  sessions other := by
    dsimp only [ProxyState.setSession]
    by_cases hother : other = conn
    · rw [hother, Function.update_self, hf]
    · rw [Function.update_of_ne hother]

theorem SameLocks.modifyInfo (s : ProxyState) (key : UInt64) {f : ConnInfo → ConnInfo}
    (hconn : ∀ info, (f info).conn = info.conn)
    (hlocks : ∀ info, (f info).nameLocks = info.nameLocks) : SameLocks s (s.modifyInfo key f) := by
  unfold ProxyState.modifyInfo
  cases hlookup : s.connMap.lookup key with
  | none => exact .refl s
  | some info =>
    refine ⟨.setInfo hlookup (hconn info), ?_, ?_, rfl, fun _ => rfl⟩
    · intro key'
      dsimp only [ProxyState.setInfo]
      by_cases hkey : key' = key
      · rw [hkey, AList.lookup_insert, hlookup, Option.map_some, Option.map_some, hlocks]
      · rw [AList.lookup_insert_ne hkey]
    · dsimp only [ProxyState.setInfo]
      rw [Assoc.total_insert, hlocks, Assoc.total_eq_of_lookup _ hlookup]

/-! ## What the parts of a request change -/

theorem SameLocks.setExplicitTableLock (s : ProxyState) (key : UInt64) (sqlCommand : SqlCommand) :
    SameLocks s (setExplicitTableLock s key sqlCommand) := by
  unfold Proxy.setExplicitTableLock
  split
  · exact .modifyInfo s key (fun _ => rfl) fun _ => rfl
  · exact .modifyInfo s key (fun _ => rfl) fun _ => rfl
  · exact .refl s

/-- A statement, unless `foreign_key_checks` cannot be set behind it. -/
theorem SameLocks.executeSql (req : UpdateRequest) (conn : Nat) (s : ProxyState) :
    SameLocks s (executeSql req conn s).2 ∨
      (req.openNoCheckFk = true ∧ req.sql = none ∧ req.setFkOn ≠ none ∧
        ∃ s', SameLocks s s' ∧ (executeSql req conn s).2 = s'.closeConn conn) := by
  unfold Proxy.executeSql
  cases hsql : req.sql with
  | some error => exact Or.inl (.refl s)
  | none =>
    have hrun : SameLocks s (s.setSession conn fun session => session.run req.sqlEffect) :=
      .setSession s conn rfl
    dsimp only
    cases hfk : req.openNoCheckFk with
    | false => exact Or.inl (hrun.trans (.setExplicitTableLock _ _ _))
    | true =>
      rw [if_pos rfl]
      cases hon : req.setFkOn with
      | some error => exact Or.inr ⟨rfl, rfl, nofun, _, hrun, rfl⟩
      | none =>
        refine Or.inl (SameLocks.trans ?_ (.setExplicitTableLock _ _ _))
        exact hrun.trans (.setSession _ conn rfl)

theorem SameLocks.lockAccumulated (req : LockRequest) (conn : Nat) (key : UInt64)
    (s : ProxyState) : SameLocks s (lockAccumulated req conn key s).2 := by
  unfold Proxy.lockAccumulated
  have hinsert : SameLocks s (if ctcCheckTableExist req.newTable > 0 then
      s.modifyInfo key fun info => info.insertTable req.table else s) := by
    split
    · exact .modifyInfo s key (fun _ => rfl) fun _ => rfl
    · exact .refl s
  dsimp only
  generalize (if ctcCheckTableExist req.newTable > 0 then
      s.modifyInfo key fun info => info.insertTable req.table else s) = s' at hinsert ⊢
  split
  · exact hinsert
  · split
    · exact hinsert
    · cases req.lockTables with
      | some error =>
        dsimp only
        exact hinsert.trans (.setSession s' conn rfl)
      | none =>
        dsimp only
        exact hinsert.trans (.setSession s' conn rfl)

theorem SameConns.ctcDdlGetLock (conn : Nat) (key : UInt64) (answer : GetLockAnswer)
    (s : ProxyState) : SameConns s (ctcDdlGetLock conn key answer s).2 := by
  cases answer with
  | failed error => exact .refl s
  | notStored acquired =>
    cases acquired with
    | false => exact .refl s
    | true => exact .setSession s conn _
  | row acquired =>
    cases acquired with
    | false => exact .refl s
    | true =>
      have hset := SameConns.setSession s conn Session.getLock
      unfold Proxy.ctcDdlGetLock
      dsimp only
      cases hlookup : (s.setSession conn Session.getLock).connMap.lookup key with
      | none => exact hset
      | some info =>
        refine hset.trans (SameConns.trans ?_ (.setGNameLocks _ _))
        exact .setInfo hlookup rfl

theorem SameConns.clearLockInfo (s : ProxyState) (key : UInt64) :
    SameConns s (clearLockInfo s key) := by
  unfold Proxy.clearLockInfo
  cases hlookup : s.connMap.lookup key with
  | none => exact .refl s
  | some info =>
    dsimp only
    split
    · refine SameConns.trans ?_ (.setGNameLocks _ _)
      exact .setInfo hlookup rfl
    · exact SameConns.setInfo hlookup rfl

end CantianConnector.Proxy
