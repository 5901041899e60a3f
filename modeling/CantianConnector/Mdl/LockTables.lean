import CantianConnector.Mdl.Tickets

/-!
# LOCK TABLES on all nodes

`ctc_lock_tables_ddl` tries the locks on its own node first, then asks for one table after the
other to be locked on the other nodes. When a lock fails it sends an unlock request for every
table. The type of the lock travels in the field `mdl_namespace` of the request; the unlock
request has `TL_UNLOCK` there, which the other nodes read as a namespace.

What the local server, the session lookup, the engine and the other nodes answer to the requests
for a table stands beside the table.
-/

namespace CantianConnector.Mdl

/-! ## The statement -/

/-- `TL_UNLOCK`, of `thr_lock_type`. -/
def tlUnlock : Int := 0

def tlReadDefault : Int := 1

def tlReadNoInsert : Int := 5

def tlWriteAllowWrite : Int := 6

def tlWriteOnly : Int := 12

/-- A table of the statement, and what happens to the requests for it. -/
structure LockedTable (ι : Type) where
  db : String
  tableName : String
  /-- `lock_descriptor().type`. -/
  descType : Int
  /-- `is_temporary_table_being_opened`. -/
  isTemporary : Bool
  /-- Whether the local server grants the lock of `ctc_lock_table_pre`. -/
  localGranted : Bool
  /-- `get_tch_in_handler_data`, in front of the lock request. -/
  getTch : Int
  /-- What `ctc_lock_table` returns. -/
  lockResult : Int
  /-- The nodes that the lock request reaches, and whether their servers grant the lock. -/
  locked : ι → Option Bool
  /-- `get_tch_in_handler_data`, in front of the unlock request. -/
  getTchUnlock : Int
  /-- What `ctc_unlock_table` returns. -/
  unlockResult : Int
  /-- The nodes that the unlock request reaches, and whether their servers have been started. -/
  unlocked : ι → Option Bool

/-- The user on whose behalf the statement runs. -/
structure UserInfo where
  userName : String
  userIp : String
deriving DecidableEq, Repr

/-- What fits into a field of `SMALL_RECORD_SIZE` characters. -/
def smallRecord (name : String) : String := String.ofList (name.toList.take 127)

/-- The type of the lock that is asked for, if any. -/
def mdlTypeOf (descType : Int) : Option Int :=
  if tlReadDefault ≤ descType ∧ descType ≤ tlReadNoInsert then some mdlSharedReadOnly
  else if tlWriteAllowWrite ≤ descType ∧ descType ≤ tlWriteOnly then some mdlSharedNoReadWrite
  else none

section

variable {ι : Type}

/-- The `lock_info` of a table. -/
def LockedTable.lockInfo (table : LockedTable ι) (user : UserInfo) (mdlNamespace : Int) :
    LockTableInfo where
  dbName := smallRecord table.db
  tableName := smallRecord table.tableName
  userName := smallRecord user.userName
  userIp := smallRecord user.userIp
  sqlType := .lockTables
  mdlNamespace := mdlNamespace

/-- `ctc_lock_table_pre`: its result and the tickets that it has taken. -/
def ctcLockTablePre (mdlType : Int) :
    List (LockedTable ι) → List MdlRequest → Int × List MdlRequest
  | [], ticketList => (0, ticketList)
  | table :: rest, ticketList =>
    if table.isTemporary then ctcLockTablePre mdlType rest ticketList
    else if table.localGranted = false then (1, ticketList)
    else ctcLockTablePre mdlType rest
      (ticketList ++ [⟨⟨mdlKeyTable, table.db, table.tableName⟩, mdlType⟩])

variable (createMdlKey : Int → String → String → MdlKey)

/-- The lock request on the nodes that it reaches. -/
def LockedTable.lockNodes (table : LockedTable ι) (lockInfo : LockTableInfo)
    (nodes : ι → Option MdlThd) : ι → Option MdlThd := fun node =>
  match table.locked node with
  | none => nodes node
  | some granted => (ctcDdlExecuteLockTables createMdlKey true granted lockInfo (nodes node)).2

/-- The unlock request on the nodes that it reaches. -/
def LockedTable.unlockNodes (table : LockedTable ι) (lockInfo : LockTableInfo)
    (nodes : ι → Option MdlThd) : ι → Option MdlThd := fun node =>
  match table.unlocked node with
  | none => nodes node
  | some isWorkFlow => ctcDdlExecuteUnlockTables createMdlKey isWorkFlow lockInfo (nodes node)

/-- How a loop ends: by `CTC_RETURN_IF_NOT_ZERO`, or with a value of `ret`. -/
inductive LoopEnd where
  | returned (rc : Int)
  | left (ret : Int)
deriving DecidableEq, Repr

/-- The loop that locks, with the results of the lock requests. -/
def lockLoop (user : UserInfo) : List (LockedTable ι) → Int → (ι → Option MdlThd) →
    LoopEnd × List Int × (ι → Option MdlThd)
  | [], ret, nodes => (.left ret, [], nodes)
  | table :: rest, ret, nodes =>
    if table.getTch ≠ 0 then (.returned table.getTch, [], nodes)
    else
      match mdlTypeOf table.descType with
      | none => lockLoop user rest ret nodes
      | some mdlType =>
        let nodes := table.lockNodes createMdlKey (table.lockInfo user mdlType) nodes
        if table.lockResult ≠ 0 then (.left table.lockResult, [table.lockResult], nodes)
        else
          let out := lockLoop user rest table.lockResult nodes
          (out.1, table.lockResult :: out.2.1, out.2.2)

/-- The loop that unlocks. -/
def unlockLoop (user : UserInfo) : List (LockedTable ι) → Int → (ι → Option MdlThd) →
    LoopEnd × (ι → Option MdlThd)
  | [], ret, nodes => (.left ret, nodes)
  | table :: rest, _, nodes =>
    if table.getTchUnlock ≠ 0 then (.returned table.getTchUnlock, nodes)
    else
      let nodes := table.unlockNodes createMdlKey (table.lockInfo user tlUnlock) nodes
      unlockLoop user rest table.unlockResult nodes

/-- What the statement leaves behind: its result, the results of its lock requests, the local
tickets that it still holds and the sessions on the other nodes. -/
structure LockTablesEnd (ι : Type) where
  ret : Int
  lockResults : List Int
  ticketList : List MdlRequest
  nodes : ι → Option MdlThd

/-- `ctc_lock_tables_ddl`, of which the first `own` tables are those of the statement itself. -/
def ctcLockTablesDdl (user : UserInfo) (own : Nat) (tables : List (LockedTable ι))
    (nodes : ι → Option MdlThd) : LockTablesEnd ι :=
  let pre := ctcLockTablePre mdlSharedNoReadWrite (tables.take own) []
  -- `ctc_lock_table_post` empties the list
  if pre.1 ≠ 0 then ⟨erLockWaitTimeout, [], [], nodes⟩
  else
    match lockLoop createMdlKey user tables 0 nodes with
    | (.returned rc, results, nodes) => ⟨rc, results, pre.2, nodes⟩
    | (.left ret, results, nodes) =>
      if ret = 0 then ⟨ret, results, [], nodes⟩
      else
        match unlockLoop createMdlKey user tables ret nodes with
        | (.returned rc, nodes) => ⟨rc, results, [], nodes⟩
        | (.left ret, nodes) => ⟨ret, results, [], nodes⟩

end

/-! ## The session of one node -/

/-- What every message keeps: an entry has the key of its ticket, no key has two entries, and new
tickets are told apart from the ones that are held. -/
structure MdlThd.Sane (thd : MdlThd) : Prop where
  keyed : ∀ entry ∈ thd.tickets, entry.2.key = entry.1
  keys : (thd.tickets.map Prod.fst).Nodup
  held : thd.held.Nodup
  numbered : ∀ ticket ∈ thd.held, ticket.number < thd.nextTicket

/-- The key has an entry that `LOCK TABLES` neither releases nor replaces. -/
def MdlThd.Blocked (thd : MdlThd) (key : MdlKey) : Prop :=
  ∃ entry ∈ thd.tickets, entry.1 = key ∧ isTableLock entry.2.type = false

/-- `ctc_release_mdl_tickets` on a thread. -/
def MdlThd.release (thd : MdlThd) (filterKey : Option MdlKey) : MdlThd :=
  { thd with
    tickets := (ctcReleaseMdlTickets filterKey thd.tickets thd.held).1
    held := (ctcReleaseMdlTickets filterKey thd.tickets thd.held).2 }

theorem ctcReleaseMdlTickets_sublist (filterKey : Option MdlKey)
    (entries : List (MdlKey × MdlTicket)) (held : List MdlTicket) :
    (ctcReleaseMdlTickets filterKey entries held).2.Sublist held := by
  induction entries generalizing held with
  | nil => exact List.Sublist.refl _
  | cons entry rest ih =>
    rw [ctcReleaseMdlTickets]
    split
    · exact (ih _).trans List.erase_sublist
    · exact ih held

/-- A ticket of no entry that matches stays. -/
theorem ctcReleaseMdlTickets_keeps {filterKey : Option MdlKey}
    {entries : List (MdlKey × MdlTicket)} {held : List MdlTicket} {ticket : MdlTicket}
    (hheld : ticket ∈ held)
    (hother : ∀ entry ∈ entries, matchesFilter filterKey entry = true → entry.2 ≠ ticket) :
    ticket ∈ (ctcReleaseMdlTickets filterKey entries held).2 := by
  induction entries generalizing held with
  | nil => exact hheld
  | cons entry rest ih =>
    obtain ⟨hfirst, hrest⟩ := List.forall_mem_cons.mp hother
    rw [ctcReleaseMdlTickets]
    split
    next hmatch =>
      exact ih ((List.mem_erase_of_ne (hfirst hmatch).symm).mpr hheld) hrest
    next => exact ih hheld hrest

/-- The ticket of an entry that matches goes. -/
theorem ctcReleaseMdlTickets_releases {filterKey : Option MdlKey}
    {entries : List (MdlKey × MdlTicket)} {held : List MdlTicket} (hnodup : held.Nodup)
    {entry : MdlKey × MdlTicket} (hentry : entry ∈ entries)
    (hmatch : matchesFilter filterKey entry = true) :
    entry.2 ∉ (ctcReleaseMdlTickets filterKey entries held).2 := by
  induction entries generalizing held with
  | nil => exact absurd hentry List.not_mem_nil
  | cons first rest ih =>
    rw [ctcReleaseMdlTickets]
    rcases List.mem_cons.mp hentry with rfl | hrest
    · rw [if_pos hmatch]
      intro hmem
      exact hnodup.not_mem_erase ((ctcReleaseMdlTickets_sublist _ _ _).subset hmem)
    · split
      · exact ih (hnodup.erase _) hrest
      · exact ih hnodup hrest

theorem MdlThd.Sane.release {thd : MdlThd} (h : thd.Sane) (filterKey : Option MdlKey) :
    (thd.release filterKey).Sane where
  keyed entry hentry := by
    dsimp only [MdlThd.release] at hentry
    rw [ctcReleaseMdlTickets_tickets] at hentry
    exact h.keyed entry (List.mem_of_mem_filter hentry)
  keys := by
    dsimp only [MdlThd.release]
    rw [ctcReleaseMdlTickets_tickets]
    exact h.keys.sublist (List.filter_sublist.map _)
  held := h.held.sublist (ctcReleaseMdlTickets_sublist _ _ _)
  numbered ticket hticket :=
    h.numbered ticket ((ctcReleaseMdlTickets_sublist _ _ _).subset hticket)

theorem MdlThd.Sane.acquireLock {thd : MdlThd} (h : thd.Sane) (req : MdlRequest)
    (granted : Bool) : (thd.acquireLock req granted).2.Sane := by
  cases granted with
  | false => exact h
  | true =>
    refine ⟨?_, nodup_insertTicket h.keys _ _, ?_, ?_⟩
    · intro entry hentry
      rcases mem_insertTicket hentry with hentry | rfl
      · exact h.keyed entry hentry
      · rfl
    · refine List.nodup_append.mpr ⟨h.held, List.nodup_singleton _, ?_⟩
      rintro ticket hticket _ hnew rfl
      rw [List.mem_singleton] at hnew
      have hlt := h.numbered ticket hticket
      rw [hnew] at hlt
      exact Nat.lt_irrefl _ hlt
    · intro ticket hticket
      rcases List.mem_append.mp hticket with hticket | hnew
      · exact Nat.lt_succ_of_lt (h.numbered ticket hticket)
      · rw [List.mem_singleton.mp hnew]
        exact Nat.lt_succ_self _

/-- The entries that a release keeps, and hence the keys that are blocked. -/
theorem MdlThd.blocked_release (thd : MdlThd) (filterKey : Option MdlKey) (key : MdlKey) :
    (thd.release filterKey).Blocked key ↔ thd.Blocked key := by
  unfold MdlThd.Blocked MdlThd.release
  dsimp only
  rw [ctcReleaseMdlTickets_tickets]
  constructor
  · rintro ⟨entry, hentry, hkey, htype⟩
    exact ⟨entry, List.mem_of_mem_filter hentry, hkey, htype⟩
  · rintro ⟨entry, hentry, hkey, htype⟩
    refine ⟨entry, List.mem_filter.mpr ⟨hentry, ?_⟩, hkey, htype⟩
    simp [matchesFilter, htype]

/-- A table lock blocks no key. -/
theorem MdlThd.blocked_acquireLock {thd : MdlThd} {req : MdlRequest}
    (htype : isTableLock req.type = true) (granted : Bool) (key : MdlKey) :
    (thd.acquireLock req granted).2.Blocked key ↔ thd.Blocked key := by
  cases granted with
  | false => exact Iff.rfl
  | true =>
    constructor
    · rintro ⟨entry, hentry, hkey, hother⟩
      rcases mem_insertTicket hentry with hentry | rfl
      · exact ⟨entry, hentry, hkey, hother⟩
      · exact absurd (hother.symm.trans htype) Bool.false_ne_true
    · rintro ⟨entry, hentry, hkey, hother⟩
      exact ⟨entry, subset_insertTicket _ _ _ hentry, hkey, hother⟩

/-- `ctc_ddl_execute_lock_tables_by_req` on a thread. -/
def MdlThd.relock (thd : MdlThd) (req : MdlRequest) (granted : Bool) : MdlThd :=
  ((thd.release (some req.key)).acquireLock req granted).2

/-- A lock that is granted on `key` is still held behind the requests: no later one for the key
releases it, or none can because the key is blocked. -/
def Remains (blocked : Prop) (key : MdlKey) : List (MdlRequest × Bool) → Prop
  | [] => False
  | (req, granted) :: rest =>
    (req.key = key ∧ granted = true ∧ (blocked ∨ ∀ later ∈ rest, later.1.key ≠ key)) ∨
      Remains blocked key rest

theorem remains_append (blocked : Prop) (key : MdlKey) (reqs : List (MdlRequest × Bool))
    (req : MdlRequest) (granted : Bool) :
    Remains blocked key (reqs ++ [(req, granted)]) ↔
      (req.key = key ∧ granted = true) ∨
        ((req.key = key → blocked) ∧ Remains blocked key reqs) := by
  induction reqs with
  | nil => simp [Remains]
  | cons first rest ih =>
    obtain ⟨req', granted'⟩ := first
    rw [List.cons_append, Remains, Remains, ih]
    simp only [List.forall_mem_append, List.forall_mem_singleton]
    by_cases hkey : req.key = key <;> by_cases hblocked : blocked <;>
      simp [hkey, hblocked, or_comm, or_left_comm]

/-- A thread behind lock requests. The tickets that are new are in the map, unless their key is
blocked, and they are those that the requests have not released again. -/
structure Relocked (thd₀ : MdlThd) (reqs : List (MdlRequest × Bool)) (thd : MdlThd) : Prop where
  sane : thd.Sane
  next : thd₀.nextTicket ≤ thd.nextTicket
  blocked : ∀ key, thd.Blocked key ↔ thd₀.Blocked key
  known : ∀ ticket ∈ thd.held, thd₀.nextTicket ≤ ticket.number → ¬ thd₀.Blocked ticket.key →
    (ticket.key, ticket) ∈ thd.tickets ∧ isTableLock ticket.type = true
  remains : ∀ key, (∃ ticket ∈ thd.held, thd₀.nextTicket ≤ ticket.number ∧ ticket.key = key) ↔
    Remains (thd₀.Blocked key) key reqs

theorem MdlThd.Sane.relocked {thd : MdlThd} (h : thd.Sane) : Relocked thd [] thd where
  sane := h
  next := Nat.le_refl _
  blocked _ := Iff.rfl
  known ticket hticket hnew := absurd (h.numbered ticket hticket) (Nat.not_lt_of_le hnew)
  remains key := by
    refine iff_of_false ?_ fun hremains => hremains
    rintro ⟨ticket, hticket, hnew, -⟩
    exact absurd (h.numbered ticket hticket) (Nat.not_lt_of_le hnew)

/-- The release in front of a lock takes the new tickets on its key, unless the key is blocked. -/
theorem Relocked.mem_release {thd₀ thd : MdlThd} {reqs : List (MdlRequest × Bool)}
    (h : Relocked thd₀ reqs thd) (key : MdlKey) {ticket : MdlTicket}
    (hnew : thd₀.nextTicket ≤ ticket.number) :
    ticket ∈ (thd.release (some key)).held ↔
      ticket ∈ thd.held ∧ (key = ticket.key → thd₀.Blocked ticket.key) := by
  constructor
  · intro hmem
    have hheld : ticket ∈ thd.held := (ctcReleaseMdlTickets_sublist _ _ _).subset hmem
    refine ⟨hheld, ?_⟩
    rintro rfl
    by_contra hfree
    obtain ⟨hentry, htype⟩ := h.known ticket hheld hnew hfree
    refine ctcReleaseMdlTickets_releases h.sane.held hentry ?_ hmem
    exact (matchesFilter_some_iff _ _).mpr ⟨rfl, htype⟩
  · rintro ⟨hheld, hblocked⟩
    refine ctcReleaseMdlTickets_keeps hheld ?_
    rintro entry hentry hmatch rfl
    obtain ⟨hkey, htype⟩ := (matchesFilter_some_iff _ _).mp hmatch
    have hticketKey := h.sane.keyed entry hentry
    obtain ⟨other, hother, hotherKey, hotherType⟩ :=
      (h.blocked _).mpr (hblocked (hkey.symm.trans hticketKey.symm))
    -- the entry of a table lock and the one that blocks the key would be the same
    have hsame : other = entry :=
      List.inj_on_of_nodup_map h.sane.keys hother hentry (hotherKey.trans hticketKey)
    rw [hsame, htype] at hotherType
    exact Bool.false_ne_true hotherType.symm

theorem MdlThd.mem_acquireLock {thd : MdlThd} {req : MdlRequest} {granted : Bool}
    {ticket : MdlTicket} : ticket ∈ (thd.acquireLock req granted).2.held ↔
      ticket ∈ thd.held ∨ (granted = true ∧ ticket = ⟨thd.nextTicket, req.key, req.type⟩) := by
  cases granted with
  | false => simp [MdlThd.acquireLock]
  | true => simp [MdlThd.acquireLock]

/-- One request for a table lock. -/
theorem Relocked.relock {thd₀ thd : MdlThd} {reqs : List (MdlRequest × Bool)}
    (h : Relocked thd₀ reqs thd) {req : MdlRequest} (htype : isTableLock req.type = true)
    (granted : Bool) :
    Relocked thd₀ (reqs ++ [(req, granted)]) (thd.relock req granted) where
  sane := (h.sane.release _).acquireLock req granted
  next := by
    have hnext := h.next
    cases granted with
    | false => exact hnext
    | true => exact Nat.le_succ_of_le hnext
  blocked key := by
    rw [MdlThd.relock, MdlThd.blocked_acquireLock htype, MdlThd.blocked_release, h.blocked]
  known ticket hticket hnew hfree := by
    rcases MdlThd.mem_acquireLock.mp hticket with hold | ⟨rfl, rfl⟩
    · obtain ⟨hheld, hblocked⟩ := (h.mem_release _ hnew).mp hold
      obtain ⟨hentry, htable⟩ := h.known ticket hheld hnew hfree
      refine ⟨?_, htable⟩
      have hkept : (ticket.key, ticket) ∈ (thd.release (some req.key)).tickets := by
        dsimp only [MdlThd.release]
        rw [ctcReleaseMdlTickets_tickets, List.mem_filter, Bool.not_eq_true', Bool.eq_false_iff]
        refine ⟨hentry, fun hmatch => ?_⟩
        have hkey := ((matchesFilter_some_iff _ _).mp hmatch).1
        exact hfree (hblocked hkey.symm)
      cases granted with
      | false => exact hkept
      | true => exact subset_insertTicket _ _ _ hkept
    · refine ⟨?_, htype⟩
      dsimp only [MdlThd.relock, MdlThd.acquireLock]
      rw [if_neg (by simp), insertTicket, if_neg]
      · exact List.mem_append_right _ (List.mem_singleton.mpr rfl)
      · intro hmem
        obtain ⟨entry, hentry, hkey⟩ := List.mem_map.mp hmem
        dsimp only [MdlThd.release] at hentry
        rw [ctcReleaseMdlTickets_tickets, List.mem_filter, Bool.not_eq_true'] at hentry
        refine hfree ((h.blocked _).mp ⟨entry, hentry.1, hkey, Bool.eq_false_iff.mpr ?_⟩)
        intro htable
        have hmatch := (matchesFilter_some_iff _ entry).mpr ⟨hkey, htable⟩
        exact Bool.false_ne_true (hentry.2.symm.trans hmatch)
  remains key := by
    rw [remains_append, ← h.remains]
    constructor
    · rintro ⟨ticket, hticket, hnew, rfl⟩
      rcases MdlThd.mem_acquireLock.mp hticket with hold | ⟨rfl, rfl⟩
      · obtain ⟨hheld, hblocked⟩ := (h.mem_release _ hnew).mp hold
        exact Or.inr ⟨hblocked, ticket, hheld, hnew, rfl⟩
      · exact Or.inl ⟨rfl, rfl⟩
    · rintro (⟨rfl, rfl⟩ | ⟨hblocked, ticket, hheld, hnew, rfl⟩)
      · exact ⟨_, MdlThd.mem_acquireLock.mpr (Or.inr ⟨rfl, rfl⟩), h.next, rfl⟩
      · exact ⟨ticket, MdlThd.mem_acquireLock.mpr
          (Or.inl ((h.mem_release _ hnew).mpr ⟨hheld, hblocked⟩)), hnew, rfl⟩

/-! ## The requests of the statement -/

section

variable {ι : Type} (createMdlKey : Int → String → String → MdlKey)

/-- The thread of a session, or the one that a request would start. -/
def thdOf (thd : Option MdlThd) : MdlThd := thd.getD .init

theorem thdOf_lockTables {lockInfo : LockTableInfo} (hcmd : lockInfo.sqlType = .lockTables)
    (granted : Bool) (thd : Option MdlThd) :
    thdOf (ctcDdlExecuteLockTables createMdlKey true granted lockInfo thd).2 =
      (thdOf thd).relock (ctcInitMdlRequestIn mdlKeyTable lockInfo) granted := by
  unfold ctcDdlExecuteLockTables ctcDdlExecuteLockTablesByReq
  rw [if_pos hcmd]
  dsimp only [thdOf]
  rw [ctcMdlUnlockTablesThd_getD]
  rfl

/-- The lock requests that reach a node, as the node reads them. -/
def nodeRequests (user : UserInfo) (node : ι) (tables : List (LockedTable ι)) :
    List (MdlRequest × Bool) :=
  tables.filterMap fun table =>
    match mdlTypeOf table.descType, table.locked node with
    | some mdlType, some granted =>
      some (ctcInitMdlRequestIn mdlKeyTable (table.lockInfo user mdlType), granted)
    | _, _ => none

/-- The first loop ends at this table. -/
def LockedTable.stops (table : LockedTable ι) : Bool :=
  table.getTch ≠ 0 ∨ ((mdlTypeOf table.descType).isSome ∧ table.lockResult ≠ 0)

/-- The tables whose lock is asked for. -/
def reached : List (LockedTable ι) → List (LockedTable ι)
  | [] => []
  | table :: rest =>
    if table.getTch ≠ 0 then []
    else if table.stops then [table]
    else table :: reached rest

/-- How the first loop ends. -/
def lockEnd (tables : List (LockedTable ι)) : LoopEnd :=
  match tables.find? LockedTable.stops with
  | none => .left 0
  | some table => if table.getTch ≠ 0 then .returned table.getTch else .left table.lockResult

theorem isTableLock_of_mdlTypeOf {descType mdlType : Int} (h : mdlTypeOf descType = some mdlType) :
    isTableLock mdlType = true := by
  unfold mdlTypeOf at h
  split at h
  · obtain rfl := Option.some.inj h
    rfl
  · split at h
    · obtain rfl := Option.some.inj h
      rfl
    · cases h

/-- The first loop on the nodes. -/
theorem relocked_lockLoop (user : UserInfo) (tables : List (LockedTable ι)) (ret : Int)
    {thd₀ : ι → MdlThd} {reqs : ι → List (MdlRequest × Bool)} {nodes : ι → Option MdlThd}
    (h : ∀ node, Relocked (thd₀ node) (reqs node) (thdOf (nodes node))) (node : ι) :
    Relocked (thd₀ node) (reqs node ++ nodeRequests user node (reached tables))
      (thdOf ((lockLoop createMdlKey user tables ret nodes).2.2 node)) := by
  induction tables generalizing ret reqs nodes with
  | nil =>
    rw [reached, nodeRequests, List.filterMap_nil, List.append_nil]
    exact h node
  | cons table rest ih =>
    rw [lockLoop, reached]
    by_cases htch : table.getTch ≠ 0
    · rw [if_pos htch, if_pos htch, nodeRequests, List.filterMap_nil, List.append_nil]
      exact h node
    rw [if_neg htch, if_neg htch]
    cases htype : mdlTypeOf table.descType with
    | none =>
      have hgoes : table.stops = false := by simp [LockedTable.stops, htype, not_not.mp htch]
      have hskip : nodeRequests user node (table :: reached rest) =
          nodeRequests user node (reached rest) := by
        rw [nodeRequests, List.filterMap_cons_none (by rw [htype]), nodeRequests]
      rw [hgoes, if_neg Bool.false_ne_true, hskip]
      exact ih ret h
    | some mdlType =>
      have hlock : ∀ n, Relocked (thd₀ n) (reqs n ++ nodeRequests user n [table])
          (thdOf (table.lockNodes createMdlKey (table.lockInfo user mdlType) nodes n)) := by
        intro n
        rw [LockedTable.lockNodes, nodeRequests]
        cases hlocked : table.locked n with
        | none =>
          rw [List.filterMap_cons_none (by rw [htype, hlocked]), List.filterMap_nil,
            List.append_nil]
          exact h n
        | some granted =>
          rw [List.filterMap_cons_some (by rw [htype, hlocked]), List.filterMap_nil]
          dsimp only
          rw [thdOf_lockTables createMdlKey rfl]
          exact (h n).relock (isTableLock_of_mdlTypeOf htype) granted
      dsimp only
      by_cases hfail : table.lockResult ≠ 0
      · have hstops : table.stops = true := by simp [LockedTable.stops, htype, hfail]
        rw [if_pos hfail, hstops, if_pos rfl]
        exact hlock node
      · have hgoes : table.stops = false := by
          simp [LockedTable.stops, not_not.mp hfail, not_not.mp htch]
        have hsplit : nodeRequests user node (table :: reached rest) =
            nodeRequests user node [table] ++ nodeRequests user node (reached rest) := by
          rw [nodeRequests, ← List.singleton_append, List.filterMap_append]
          rfl
        rw [if_neg hfail, hgoes, if_neg Bool.false_ne_true, hsplit, ← List.append_assoc]
        exact ih table.lockResult hlock

/-- The first loop's end, and the results of its requests. -/
theorem lockLoop_end (user : UserInfo) (tables : List (LockedTable ι)) (nodes : ι → Option MdlThd) :
    (lockLoop createMdlKey user tables 0 nodes).1 = lockEnd tables ∧
      ((∃ result ∈ (lockLoop createMdlKey user tables 0 nodes).2.1, result ≠ 0) ↔
        ∃ table, tables.find? LockedTable.stops = some table ∧ table.getTch = 0) := by
  induction tables generalizing nodes with
  | nil => exact ⟨rfl, by simp [lockLoop]⟩
  | cons table rest ih =>
    rw [lockLoop, lockEnd, List.find?_cons]
    by_cases htch : table.getTch ≠ 0
    · have hstops : table.stops = true := by simp [LockedTable.stops, htch]
      rw [if_pos htch, hstops]
      dsimp only
      rw [if_pos htch]
      refine ⟨rfl, iff_of_false (by simp) ?_⟩
      rintro ⟨_, hsome, hzero⟩
      obtain rfl := Option.some.inj hsome
      exact htch hzero
    rw [if_neg htch]
    have hzero := not_not.mp htch
    cases htype : mdlTypeOf table.descType with
    | none =>
      have hgoes : table.stops = false := by simp [LockedTable.stops, htype, hzero]
      rw [hgoes]
      exact ih nodes
    | some mdlType =>
      dsimp only
      by_cases hfail : table.lockResult ≠ 0
      · have hstops : table.stops = true := by simp [LockedTable.stops, htype, hfail]
        rw [if_pos hfail, hstops]
        dsimp only
        rw [if_neg htch]
        exact ⟨rfl, iff_of_true ⟨_, List.mem_singleton.mpr rfl, hfail⟩ ⟨table, rfl, hzero⟩⟩
      · have hgoes : table.stops = false := by
          simp [LockedTable.stops, not_not.mp hfail, hzero]
        rw [if_neg hfail, hgoes, not_not.mp hfail]
        obtain ⟨hend, hresults⟩ := ih
          (table.lockNodes createMdlKey (table.lockInfo user mdlType) nodes)
        refine ⟨hend, ?_⟩
        dsimp only
        rw [← hresults]
        simp

/-- What unlock requests with `TL_UNLOCK` do to a session. The keys of the tables stand in
`MDL_key::TABLE` and the request names `MDL_key::GLOBAL`, so no ticket on a table goes. -/
structure Unlocked (thd thd' : MdlThd) : Prop where
  keyed : ∀ entry ∈ thd'.tickets, entry.2.key = entry.1
  held : ∀ ticket ∈ thd'.held, ticket ∈ thd.held
  tables : ∀ ticket ∈ thd.held, ticket.key.mdlNamespace = mdlKeyTable → ticket ∈ thd'.held

/-- One unlock request. -/
theorem Unlocked.unlockTables {thd : MdlThd} {session : Option MdlThd}
    (h : Unlocked thd (thdOf session)) {lockInfo : LockTableInfo}
    (hcmd : lockInfo.sqlType = .lockTables) (htype : lockInfo.mdlNamespace = tlUnlock)
    (isWorkFlow : Bool) :
    Unlocked thd
      (thdOf (ctcDdlExecuteUnlockTables createMdlKey isWorkFlow lockInfo session)) := by
  unfold ctcDdlExecuteUnlockTables
  rw [if_neg (by rw [hcmd]; simp)]
  unfold ctcMdlUnlockThd
  by_cases hflow : isWorkFlow = false
  · rw [if_pos hflow]
    exact h
  rw [if_neg hflow]
  cases session with
  | none => exact h
  | some cur =>
    dsimp only [thdOf, Option.map_some, Option.getD_some] at h ⊢
    have hglobal : (ctcInitMdlRequest createMdlKey lockInfo).key.mdlNamespace = mdlKeyGlobal := by
      rw [ctcInitMdlRequest, htype, if_neg (by decide), if_neg (by decide), if_pos (by decide)]
      rfl
    unfold ctcMdlUnlockThdByTicket
    cases hlookup : cur.tickets.lookup (ctcInitMdlRequest createMdlKey lockInfo).key with
    | none => exact h
    | some ticket =>
      obtain ⟨l₁, l₂, hsplit, -⟩ := List.lookup_eq_some_iff.mp hlookup
      have hkey := h.keyed ((ctcInitMdlRequest createMdlKey lockInfo).key, ticket)
        (by rw [hsplit]; simp)
      dsimp only at hkey ⊢
      refine ⟨fun entry hentry => h.keyed entry (List.mem_of_mem_filter hentry),
        fun other hother => h.held other (List.mem_of_mem_filter hother), ?_⟩
      intro other hother htable
      refine List.mem_filter.mpr ⟨h.tables other hother htable, decide_eq_true ?_⟩
      rintro hsame
      rw [hsame, hkey, hglobal] at htable
      exact absurd htable (by decide)

/-- The second loop on the nodes. -/
theorem unlocked_unlockLoop (user : UserInfo) (tables : List (LockedTable ι)) (ret : Int)
    {thd : ι → MdlThd} {nodes : ι → Option MdlThd}
    (h : ∀ node, Unlocked (thd node) (thdOf (nodes node))) (node : ι) :
    Unlocked (thd node) (thdOf ((unlockLoop createMdlKey user tables ret nodes).2 node)) := by
  induction tables generalizing ret nodes with
  | nil => exact h node
  | cons table rest ih =>
    rw [unlockLoop]
    split
    · exact h node
    · apply ih
      intro n
      rw [LockedTable.unlockNodes]
      split
      · exact h n
      · exact (h n).unlockTables createMdlKey rfl rfl _

/-- The result with which a loop ends. -/
def LoopEnd.code : LoopEnd → Int
  | .returned rc => rc
  | .left ret => ret

/-- The last unlock request fails, or a session lookup in front of one. -/
def UnlockFails (tables : List (LockedTable ι)) : Prop :=
  (∃ table ∈ tables, table.getTchUnlock ≠ 0) ∨
    ∃ table, tables.getLast? = some table ∧ table.unlockResult ≠ 0

theorem unlockLoop_code (user : UserInfo) {table : LockedTable ι} (rest : List (LockedTable ι))
    (ret : Int) (nodes : ι → Option MdlThd) :
    (unlockLoop createMdlKey user (table :: rest) ret nodes).1.code ≠ 0 ↔
      UnlockFails (table :: rest) := by
  induction rest generalizing table ret nodes with
  | nil =>
    rw [unlockLoop, unlockLoop, UnlockFails]
    by_cases htch : table.getTchUnlock ≠ 0
    · simp [htch, LoopEnd.code]
    · simp [not_not.mp htch, LoopEnd.code]
  | cons next rest ih =>
    rw [unlockLoop, UnlockFails, List.getLast?_cons_cons]
    by_cases htch : table.getTchUnlock ≠ 0
    · simp [htch, LoopEnd.code]
    · rw [if_neg htch, ih, UnlockFails]
      simp [not_not.mp htch]

theorem unlockLoop_code_of_mem (user : UserInfo) {tables : List (LockedTable ι)}
    {table : LockedTable ι} (htable : table ∈ tables) (ret : Int) (nodes : ι → Option MdlThd) :
    (unlockLoop createMdlKey user tables ret nodes).1.code ≠ 0 ↔ UnlockFails tables := by
  cases tables with
  | nil => exact absurd htable List.not_mem_nil
  | cons first rest => exact unlockLoop_code createMdlKey user rest ret nodes

/-- The local server refuses a lock. -/
def PreRefused (tables : List (LockedTable ι)) : Prop :=
  ∃ table ∈ tables, table.isTemporary = false ∧ table.localGranted = false

/-- The tickets that the node takes for itself. -/
theorem ctcLockTablePre_spec (mdlType : Int) (tables : List (LockedTable ι))
    (ticketList : List MdlRequest) :
    ((ctcLockTablePre mdlType tables ticketList).1 ≠ 0 ↔ PreRefused tables) ∧
      (¬ PreRefused tables → ((ctcLockTablePre mdlType tables ticketList).2 = [] ↔
        ticketList = [] ∧ ∀ table ∈ tables, table.isTemporary = true)) := by
  induction tables generalizing ticketList with
  | nil => simp [ctcLockTablePre, PreRefused]
  | cons table rest ih =>
    rw [ctcLockTablePre]
    unfold PreRefused at ih ⊢
    cases htemp : table.isTemporary with
    | true => simpa [htemp] using ih ticketList
    | false =>
      cases hgranted : table.localGranted with
      | false => simp [htemp, hgranted]
      | true =>
        obtain ⟨hret, hlist⟩ :=
          ih (ticketList ++ [⟨⟨mdlKeyTable, table.db, table.tableName⟩, mdlType⟩])
        refine ⟨by simpa [htemp, hgranted] using hret, fun hgoes => ?_⟩
        rw [if_neg Bool.false_ne_true, if_neg (by simp),
          hlist (by simpa [htemp, hgranted] using hgoes)]
        simp [htemp]

/-! ## All or nothing -/

/-- A lock request that fails makes the statement fail, and a statement that fails holds no local
ticket and no lock on another node that it has acquired. -/
structure AllOrNothing (nodes : ι → Option MdlThd) (out : LockTablesEnd ι) : Prop where
  reported : (∃ result ∈ out.lockResults, result ≠ 0) → out.ret ≠ 0
  localTickets : out.ret ≠ 0 → out.ticketList = []
  remote : out.ret ≠ 0 → ∀ node, ∀ ticket ∈ (thdOf (out.nodes node)).held,
    ticket.number < (thdOf (nodes node)).nextTicket

/-- No lock remains from the requests that reach the nodes. -/
def NothingRemains (user : UserInfo) (nodes : ι → Option MdlThd) (tables : List (LockedTable ι)) :
    Prop :=
  ∀ node key, ¬ Remains ((thdOf (nodes node)).Blocked key) key (nodeRequests user node tables)

/-- When the statement is all or nothing: it ends before its first lock request, or no request
fails, or what is acquired in front of a failure is nothing, and the failure is not overwritten by
an unlock request, nor does it leave local tickets behind. -/
def UndoNotNeeded (user : UserInfo) (own : Nat) (tables : List (LockedTable ι))
    (nodes : ι → Option MdlThd) : Prop :=
  PreRefused (tables.take own) ∨
    ∀ table, tables.find? LockedTable.stops = some table →
      NothingRemains user nodes (reached tables) ∧
        if table.getTch = 0 then UnlockFails tables
        else ∀ first ∈ tables.take own, first.isTemporary = true

theorem remains_namespace {user : UserInfo} {node : ι} {tables : List (LockedTable ι)}
    {blocked : Prop} {key : MdlKey} (h : Remains blocked key (nodeRequests user node tables)) :
    key.mdlNamespace = mdlKeyTable := by
  have hkeys : ∀ req ∈ nodeRequests user node tables, req.1.key.mdlNamespace = mdlKeyTable := by
    intro req hreq
    obtain ⟨table, -, htable⟩ := List.mem_filterMap.mp hreq
    split at htable
    · obtain rfl := Option.some.inj htable
      rfl
    · cases htable
  generalize nodeRequests user node tables = reqs at h hkeys
  induction reqs with
  | nil => exact h.elim
  | cons req rest ih =>
    obtain ⟨hfirst, hrest⟩ := List.forall_mem_cons.mp hkeys
    rcases h with ⟨rfl, -⟩ | h
    · exact hfirst
    · exact ih h hrest

/-- The sessions behind the first loop, before any unlock request. -/
theorem unlocked_lockLoop (user : UserInfo) (tables : List (LockedTable ι))
    {nodes : ι → Option MdlThd} (hsane : ∀ node, (thdOf (nodes node)).Sane) (node : ι) :
    Unlocked (thdOf ((lockLoop createMdlKey user tables 0 nodes).2.2 node))
      (thdOf ((lockLoop createMdlKey user tables 0 nodes).2.2 node)) where
  keyed := (relocked_lockLoop createMdlKey user tables 0
    (fun n => (hsane n).relocked) node).sane.keyed
  held _ hticket := hticket
  tables _ hticket _ := hticket

/-- What is held on a node after both loops. -/
theorem remote_iff (user : UserInfo) (tables : List (LockedTable ι)) {nodes : ι → Option MdlThd}
    (hsane : ∀ node, (thdOf (nodes node)).Sane) {final : ι → Option MdlThd}
    (hfinal : ∀ node, Unlocked
      (thdOf ((lockLoop createMdlKey user tables 0 nodes).2.2 node)) (thdOf (final node))) :
    (∀ node, ∀ ticket ∈ (thdOf (final node)).held,
        ticket.number < (thdOf (nodes node)).nextTicket) ↔
      NothingRemains user nodes (reached tables) := by
  have hlock : ∀ node, Relocked (thdOf (nodes node)) (nodeRequests user node (reached tables))
      (thdOf ((lockLoop createMdlKey user tables 0 nodes).2.2 node)) := by
    intro node
    have hrel := relocked_lockLoop createMdlKey user tables 0
      (fun n => (hsane n).relocked) node
    rwa [List.nil_append] at hrel
  refine forall_congr' fun node => ?_
  constructor
  · intro hold key hremains
    have htable := remains_namespace hremains
    obtain ⟨ticket, hheld, hnew, rfl⟩ := ((hlock node).remains key).mpr hremains
    have hlt := hold ticket ((hfinal node).tables ticket hheld htable)
    omega
  · intro hnone ticket hticket
    by_contra hnew
    exact hnone ticket.key (((hlock node).remains ticket.key).mp
      ⟨ticket, (hfinal node).held ticket hticket, by omega, rfl⟩)

/-- A loop that ends with a failure, and the unlock requests behind it. -/
theorem allOrNothing_iff {user : UserInfo} {tables : List (LockedTable ι)}
    {nodes : ι → Option MdlThd} {out : LockTablesEnd ι}
    (hfailed : out.ret ≠ 0 ∨ ∃ result ∈ out.lockResults, result ≠ 0)
    (hremote : (∀ node, ∀ ticket ∈ (thdOf (out.nodes node)).held,
      ticket.number < (thdOf (nodes node)).nextTicket) ↔ NothingRemains user nodes tables) :
    AllOrNothing nodes out ↔
      NothingRemains user nodes tables ∧ out.ret ≠ 0 ∧ out.ticketList = [] := by
  constructor
  · intro h
    have hret : out.ret ≠ 0 := hfailed.elim id h.reported
    exact ⟨hremote.mp (h.remote hret), hret, h.localTickets hret⟩
  · rintro ⟨hnothing, hret, hlist⟩
    exact ⟨fun _ => hret, fun _ => hlist, fun _ => hremote.mpr hnothing⟩

/-- The undoing does not help: the unlock requests match no key, and they overwrite the error. -/
theorem ctcLockTablesDdl_allOrNothing_of_sane (user : UserInfo) (own : Nat)
    (tables : List (LockedTable ι)) {nodes : ι → Option MdlThd}
    (hsane : ∀ node, (thdOf (nodes node)).Sane) :
    AllOrNothing nodes (ctcLockTablesDdl createMdlKey user own tables nodes) ↔
      UndoNotNeeded user own tables nodes := by
  obtain ⟨hpre, htickets⟩ := ctcLockTablePre_spec mdlSharedNoReadWrite (tables.take own) []
  unfold ctcLockTablesDdl
  dsimp only
  by_cases hrefused : PreRefused (tables.take own)
  · rw [if_pos (hpre.mpr hrefused)]
    refine iff_of_true ⟨?_, fun _ => rfl, ?_⟩ (Or.inl hrefused)
    · intro hfailed
      simp at hfailed
    · exact fun _ node ticket hticket => (hsane node).numbered ticket hticket
  rw [if_neg (hpre.not.mpr hrefused), UndoNotNeeded, or_iff_right hrefused]
  obtain ⟨hend, hresults⟩ := lockLoop_end createMdlKey user tables nodes
  have hself := unlocked_lockLoop createMdlKey user tables hsane
  have hremote : ∀ final : ι → Option MdlThd, (∀ node, Unlocked
      (thdOf ((lockLoop createMdlKey user tables 0 nodes).2.2 node)) (thdOf (final node))) →
      _ := fun final hfinal => remote_iff createMdlKey user tables hsane hfinal
  generalize lockLoop createMdlKey user tables 0 nodes = locked at hend hresults hself hremote
  obtain ⟨loopEnd, results, nodes₁⟩ := locked
  dsimp only at hend hresults hself hremote
  subst hend
  rw [lockEnd]
  cases hfind : tables.find? LockedTable.stops with
  | none =>
    rw [hfind] at hresults
    dsimp only
    rw [if_pos rfl]
    refine iff_of_true ⟨fun hfailed => ?_, fun _ => rfl, fun hret => absurd rfl hret⟩ ?_
    · obtain ⟨table, hnone, -⟩ := hresults.mp hfailed
      cases hnone
    · intro table hnone
      cases hnone
  | some table =>
    have hstops := List.find?_some hfind
    rw [hfind] at hresults
    simp only [Option.some.injEq, forall_eq']
    by_cases htch : table.getTch = 0
    · have hlock : (mdlTypeOf table.descType).isSome = true ∧ table.lockResult ≠ 0 := by
        simpa [LockedTable.stops, htch] using hstops
      rw [if_neg (not_not.mpr htch), if_pos htch]
      dsimp only
      rw [if_neg hlock.2]
      have hcode := unlockLoop_code_of_mem createMdlKey user (List.mem_of_find?_eq_some hfind)
        table.lockResult nodes₁
      have hundone := hremote _
        (unlocked_unlockLoop createMdlKey user tables table.lockResult hself)
      generalize unlockLoop createMdlKey user tables table.lockResult nodes₁ = undone
        at hcode hundone
      obtain ⟨undoEnd, final⟩ := undone
      have hfailed := hresults.mpr ⟨table, rfl, htch⟩
      cases undoEnd with
      | returned rc =>
        dsimp only
        rw [allOrNothing_iff (Or.inr hfailed) hundone, ← hcode]
        simp [LoopEnd.code]
      | left ret =>
        dsimp only
        rw [allOrNothing_iff (Or.inr hfailed) hundone, ← hcode]
        simp [LoopEnd.code]
    · rw [if_pos htch, if_neg htch]
      dsimp only
      rw [allOrNothing_iff (Or.inl htch) (hremote _ hself)]
      dsimp only
      rw [htickets hrefused]
      simp [htch]

/-! ## The sessions that occur -/

theorem MdlThd.sane_init : MdlThd.init.Sane :=
  ⟨List.forall_mem_nil _, List.nodup_nil, List.nodup_nil, List.forall_mem_nil _⟩

theorem MdlThd.Sane.unlockByTicket {thd : MdlThd} (h : thd.Sane) (req : MdlRequest) :
    (ctcMdlUnlockThdByTicket thd req).Sane := by
  unfold ctcMdlUnlockThdByTicket
  split
  · exact h
  · exact
      { keyed := fun entry hentry => h.keyed entry (List.mem_of_mem_filter hentry)
        keys := h.keys.sublist (List.filter_sublist.map _)
        held := h.held.filter _
        numbered := fun ticket hticket => h.numbered ticket (List.mem_of_mem_filter hticket) }

theorem MdlThd.Sane.unlockTablesThd {thd : Option MdlThd} (h : (thdOf thd).Sane)
    (req : Option MdlRequest) : (thdOf (ctcMdlUnlockTablesThd req thd)).Sane := by
  rw [thdOf, ctcMdlUnlockTablesThd_getD]
  exact h.release (req.map MdlRequest.key)

/-- Every message keeps a session sane. -/
theorem sane_mdlStep {thd : Option MdlThd} (h : (thdOf thd).Sane) (msg : MdlMessage) :
    (thdOf (mdlStep createMdlKey thd msg)).Sane := by
  cases msg with
  | lock lockInfo isWorkFlow granted =>
    dsimp only [mdlStep, ctcDdlExecuteLockTables]
    split
    · exact (h.unlockTablesThd _).acquireLock _ granted
    · unfold ctcMdlLockThd
      split
      · exact h
      · exact h.acquireLock _ granted
  | unlock lockInfo isWorkFlow =>
    have hfirst : (thdOf (if lockInfo.sqlType = .unlockTables then
        ctcMdlUnlockTablesThd none thd else thd)).Sane := by
      split
      · exact h.unlockTablesThd none
      · exact h
    dsimp only [mdlStep, ctcDdlExecuteUnlockTables]
    generalize (if lockInfo.sqlType = .unlockTables then
        ctcMdlUnlockTablesThd none thd else thd) = thd' at hfirst
    unfold ctcMdlUnlockThd
    split
    · exact hfirst
    · cases thd' with
      | none => exact hfirst
      | some cur => exact hfirst.unlockByTicket _
  | close => exact MdlThd.sane_init

/-- The sessions on the other nodes, each behind the messages that it has had. -/
def sessionsAfter (history : ι → List MdlMessage) : ι → Option MdlThd := fun node =>
  (history node).foldl (mdlStep createMdlKey) none

theorem sane_foldl (msgs : List MdlMessage) {thd : Option MdlThd} (h : (thdOf thd).Sane) :
    (thdOf (msgs.foldl (mdlStep createMdlKey) thd)).Sane := by
  induction msgs generalizing thd with
  | nil => exact h
  | cons msg rest ih => exact ih (sane_mdlStep createMdlKey h msg)

/-- **When LOCK TABLES is all or nothing**, whatever has been locked on the other nodes for the
session before. -/
theorem ctcLockTablesDdl_allOrNothing_iff (user : UserInfo) (own : Nat)
    (tables : List (LockedTable ι)) (history : ι → List MdlMessage) :
    AllOrNothing (sessionsAfter createMdlKey history)
        (ctcLockTablesDdl createMdlKey user own tables (sessionsAfter createMdlKey history)) ↔
      UndoNotNeeded user own tables (sessionsAfter createMdlKey history) :=
  ctcLockTablesDdl_allOrNothing_of_sane createMdlKey user own tables
    fun node => sane_foldl createMdlKey (history node) MdlThd.sane_init

end

/-- A table of `LOCK TABLES d.name READ` that one other node is asked to lock. -/
def readLocked (name : String) (granted : Bool) : LockedTable Unit where
  db := "d"
  tableName := name
  descType := tlReadDefault
  isTemporary := false
  localGranted := true
  getTch := 0
  lockResult := if granted then 0 else erLockWaitTimeout
  locked _ := some granted
  getTchUnlock := 0
  unlockResult := 0
  unlocked _ := some true

/-- The second lock is refused: the statement reports success, and the other node keeps the first
lock. -/
theorem ctcLockTablesDdl_reports_success :
    let out := ctcLockTablesDdl MdlKey.mk ⟨"u", "h"⟩ 2 [readLocked "a" true, readLocked "b" false]
      (sessionsAfter MdlKey.mk fun _ => [])
    out.ret = 0 ∧ (thdOf (out.nodes ())).held = [⟨0, ⟨mdlKeyTable, "d", "a"⟩, mdlSharedReadOnly⟩] ∧
      ¬ AllOrNothing (sessionsAfter MdlKey.mk fun _ => []) out := by
  intro out
  have hret : out.ret = 0 := rfl
  have hresult : erLockWaitTimeout ∈ out.lockResults :=
    List.mem_cons_of_mem _ (List.mem_singleton.mpr rfl)
  refine ⟨hret, rfl, fun h => ?_⟩
  exact h.reported ⟨_, hresult, by decide⟩ hret

end CantianConnector.Mdl
