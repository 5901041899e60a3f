import CantianConnector.Lib.Machine
import CantianConnector.Mdl.Request
import Mathlib.Data.List.Perm.Basic
import Mathlib.Data.List.Nodup

/-!
# The tickets of a remote session

A node that holds metadata locks for a session of another node has a thread for it, and a map from
keys to the tickets of the thread's locks. The map is what an unlock request is looked up in. A
lock adds a ticket to the thread's MDL context and an entry to the map, unless the map has one for
the key already: `std::map::insert` does not overwrite.

The end of a session clears the map and deletes the thread, but its visitor releases exclusive locks
and the locks of `LOCK TABLES` only; the state keeps the tickets that outlive the thread.

Whether the server grants a lock is an input of each request. A lock of explicit duration that is
granted is a ticket of its own, also if the thread has one on the key.
-/

namespace CantianConnector.Mdl

/-! ## The session -/

/-- `MDL_ticket`; the number tells tickets on one key apart. -/
structure MdlTicket where
  number : Nat
  key : MdlKey
  type : Int
deriving DecidableEq, Repr

/-- The thread of a remote session: the explicit tickets of its MDL context, and its map in
`g_ctc_mdl_ticket_maps`. -/
structure MdlThd where
  held : List MdlTicket
  tickets : List (MdlKey × MdlTicket)
  nextTicket : Nat
deriving DecidableEq, Repr

/-- A new thread. -/
def MdlThd.init : MdlThd := ⟨[], [], 0⟩

/-- `ER_LOCK_WAIT_TIMEOUT`. -/
def erLockWaitTimeout : Int := 1205

/-- `std::map::insert`. -/
def insertTicket (tickets : List (MdlKey × MdlTicket)) (key : MdlKey) (ticket : MdlTicket) :
    List (MdlKey × MdlTicket) :=
  if key ∈ tickets.map Prod.fst then tickets else tickets ++ [(key, ticket)]

/-- `acquire_lock`, and the entry in the map if it is granted; true if it is not. -/
def MdlThd.acquireLock (thd : MdlThd) (req : MdlRequest) (granted : Bool) : Bool × MdlThd :=
  if granted = false then (true, thd)
  else
    let ticket : MdlTicket := ⟨thd.nextTicket, req.key, req.type⟩
    (false, ⟨thd.held ++ [ticket], insertTicket thd.tickets req.key ticket, thd.nextTicket + 1⟩)

/-- `type_match` of `ctc_release_mdl_tickets`: the types of `LOCK TABLES`. -/
def isTableLock (type : Int) : Bool := type = mdlSharedReadOnly ∨ type = mdlSharedNoReadWrite

/-- `key_match` and `type_match`. -/
def matchesFilter (filterKey : Option MdlKey) (entry : MdlKey × MdlTicket) : Bool :=
  (filterKey = none ∨ filterKey = some entry.1) ∧ isTableLock entry.2.type

/-- `ctc_release_mdl_tickets`: the rest of the map and of the held tickets. -/
def ctcReleaseMdlTickets (filterKey : Option MdlKey) :
    List (MdlKey × MdlTicket) → List MdlTicket → List (MdlKey × MdlTicket) × List MdlTicket
  | [], held => ([], held)
  | entry :: rest, held =>
    if matchesFilter filterKey entry then
      ctcReleaseMdlTickets filterKey rest (held.erase entry.2)
    else
      let out := ctcReleaseMdlTickets filterKey rest held
      (entry :: out.1, out.2)

/-- `ctc_mdl_unlock_tables_thd`, on the node of a remote session. -/
def ctcMdlUnlockTablesThd (mdlRequest : Option MdlRequest) (thd : Option MdlThd) :
    Option MdlThd :=
  thd.map fun thd =>
    let out := ctcReleaseMdlTickets (mdlRequest.map MdlRequest.key) thd.tickets thd.held
    { thd with tickets := out.1, held := out.2 }

/-- `ctc_mdl_unlock_thd_by_ticket`. `release_all_locks_for_name` releases every explicit ticket on
the key. -/
def ctcMdlUnlockThdByTicket (thd : MdlThd) (req : MdlRequest) : MdlThd :=
  match thd.tickets.lookup req.key with
  | none => thd
  | some ticket =>
    { thd with
      held := thd.held.filter (·.key ≠ ticket.key)
      tickets := thd.tickets.filter (·.1 ≠ req.key) }

section

variable (createMdlKey : Int → String → String → MdlKey)

/-- `ctc_mdl_lock_thd`, for a session of another node. -/
def ctcMdlLockThd (isWorkFlow granted : Bool) (lockInfo : LockTableInfo) (thd : Option MdlThd) :
    Bool × Option MdlThd :=
  if isWorkFlow = false then (false, thd)
  else
    let out := (thd.getD .init).acquireLock (ctcInitMdlRequest createMdlKey lockInfo) granted
    (out.1, some out.2)

/-- `ctc_mdl_unlock_thd`. -/
def ctcMdlUnlockThd (isWorkFlow : Bool) (lockInfo : LockTableInfo) (thd : Option MdlThd) :
    Option MdlThd :=
  if isWorkFlow = false then thd
  else thd.map fun thd => ctcMdlUnlockThdByTicket thd (ctcInitMdlRequest createMdlKey lockInfo)

/-- `ctc_ddl_execute_lock_tables_by_req`. -/
def ctcDdlExecuteLockTablesByReq (granted : Bool) (lockInfo : LockTableInfo)
    (thd : Option MdlThd) : Bool × Option MdlThd :=
  let req := ctcInitMdlRequestIn mdlKeyTable lockInfo
  let thd := ctcMdlUnlockTablesThd (some req) thd
  let out := (thd.getD .init).acquireLock req granted
  (out.1, some out.2)

/-- `ctc_ddl_execute_lock_tables` with normalised metadata. -/
def ctcDdlExecuteLockTables (isWorkFlow granted : Bool) (lockInfo : LockTableInfo)
    (thd : Option MdlThd) : Int × Option MdlThd :=
  let out :=
    if lockInfo.sqlType = .lockTables then ctcDdlExecuteLockTablesByReq granted lockInfo thd
    else ctcMdlLockThd createMdlKey isWorkFlow granted lockInfo thd
  (if out.1 then erLockWaitTimeout else 0, out.2)

/-- `ctc_ddl_execute_unlock_tables` with normalised metadata. -/
def ctcDdlExecuteUnlockTables (isWorkFlow : Bool) (lockInfo : LockTableInfo)
    (thd : Option MdlThd) : Option MdlThd :=
  ctcMdlUnlockThd createMdlKey isWorkFlow lockInfo
    (if lockInfo.sqlType = .unlockTables then ctcMdlUnlockTablesThd none thd else thd)

end

/-- `Release_all_ctc_explicit_locks::release`. -/
def releaseAllCtcExplicitLocks (ticket : MdlTicket) : Bool :=
  ticket.type = mdlExclusive ∨
    (isTableLock ticket.type ∧ ticket.key.mdlNamespace = mdlKeyTable)

/-- `release_ctc_mdl_thd_by_key`: no thread, and the tickets with which it was left to
`THD::release_resources` and deleted. -/
def releaseCtcMdlThdByKey (thd : Option MdlThd) : Option MdlThd × List MdlTicket :=
  (none, (thd.getD .init).held.filter fun ticket => !releaseAllCtcExplicitLocks ticket)

/-- A message about the session: a request to lock or to unlock, or the end of the session. -/
inductive MdlMessage where
  | lock (lockInfo : LockTableInfo) (isWorkFlow granted : Bool)
  | unlock (lockInfo : LockTableInfo) (isWorkFlow : Bool)
  | close
deriving DecidableEq, Repr

/-- The thread of the session after a message. -/
def mdlStep (createMdlKey : Int → String → String → MdlKey) (thd : Option MdlThd) :
    MdlMessage → Option MdlThd
  | .lock lockInfo isWorkFlow granted =>
    (ctcDdlExecuteLockTables createMdlKey isWorkFlow granted lockInfo thd).2
  | .unlock lockInfo isWorkFlow =>
    ctcDdlExecuteUnlockTables createMdlKey isWorkFlow lockInfo thd
  | .close => (releaseCtcMdlThdByKey thd).1

/-- A remote session: its thread, and the tickets of its ended threads that nobody has released. -/
structure MdlSession where
  thd : Option MdlThd
  left : List MdlTicket
deriving DecidableEq, Repr

/-- A session that has sent nothing. -/
def MdlSession.init : MdlSession := ⟨none, []⟩

/-- The tickets that a message leaves behind without a thread. -/
def leftBehind (thd : Option MdlThd) : MdlMessage → List MdlTicket
  | .close => (releaseCtcMdlThdByKey thd).2
  | _ => []

/-- The session after a message. -/
def sessionStep (createMdlKey : Int → String → String → MdlKey) (s : MdlSession)
    (msg : MdlMessage) : MdlSession :=
  ⟨mdlStep createMdlKey s.thd msg, s.left ++ leftBehind s.thd msg⟩

/-! ## The map is what is held -/

/-- The map has one entry for each ticket that the thread holds, under the key of the ticket, and
no two entries for one key. -/
structure MdlThd.Tracked (thd : MdlThd) : Prop where
  perm : (thd.tickets.map Prod.snd).Perm thd.held
  keyed : ∀ entry ∈ thd.tickets, entry.2.key = entry.1
  nodup : (thd.tickets.map Prod.fst).Nodup

/-- The tickets that are held for the session. -/
def heldOf (thd : Option MdlThd) : List MdlTicket := (thd.getD .init).held

/-- The map of the session. -/
def ticketsOf (thd : Option MdlThd) : List (MdlKey × MdlTicket) := (thd.getD .init).tickets

/-- A session without a thread has no tickets and no map. -/
def Tracked (thd : Option MdlThd) : Prop := (thd.getD .init).Tracked

/-- The map is what is held for the session, with or without a thread. -/
structure MdlSession.Tracked (s : MdlSession) : Prop where
  thread : Mdl.Tracked s.thd
  none_left : s.left = []

theorem MdlThd.tracked_init : MdlThd.init.Tracked :=
  ⟨List.Perm.refl _, List.forall_mem_nil _, List.nodup_nil⟩

theorem MdlThd.Tracked.held_of_mem {thd : MdlThd} (h : thd.Tracked) {entry : MdlKey × MdlTicket}
    (hentry : entry ∈ thd.tickets) : entry.2 ∈ thd.held :=
  h.perm.mem_iff.mp (List.mem_map.mpr ⟨entry, hentry, rfl⟩)

theorem MdlThd.Tracked.mem_held {thd : MdlThd} (h : thd.Tracked) {ticket : MdlTicket} :
    ticket ∈ thd.held ↔ (ticket.key, ticket) ∈ thd.tickets := by
  rw [← h.perm.mem_iff, List.mem_map]
  constructor
  · rintro ⟨entry, hentry, rfl⟩
    rw [h.keyed entry hentry]
    exact hentry
  · intro hentry
    exact ⟨_, hentry, rfl⟩

theorem mem_insertTicket {tickets : List (MdlKey × MdlTicket)} {key : MdlKey}
    {ticket : MdlTicket} {entry : MdlKey × MdlTicket}
    (h : entry ∈ insertTicket tickets key ticket) : entry ∈ tickets ∨ entry = (key, ticket) := by
  unfold insertTicket at h
  split at h
  · exact Or.inl h
  · exact (List.mem_append.mp h).imp_right List.mem_singleton.mp

theorem subset_insertTicket (tickets : List (MdlKey × MdlTicket)) (key : MdlKey)
    (ticket : MdlTicket) : tickets ⊆ insertTicket tickets key ticket := by
  unfold insertTicket
  split
  · exact List.Subset.refl _
  · exact List.subset_append_left _ _

/-- An insertion keeps the keys apart. -/
theorem nodup_insertTicket {tickets : List (MdlKey × MdlTicket)}
    (h : (tickets.map Prod.fst).Nodup) (key : MdlKey) (ticket : MdlTicket) :
    ((insertTicket tickets key ticket).map Prod.fst).Nodup := by
  unfold insertTicket
  split
  next => exact h
  next hkey =>
    rw [List.map_append, List.nodup_append]
    refine ⟨h, List.nodup_singleton _, ?_⟩
    rintro key' hmem key'' hmem' rfl
    rw [List.map_singleton, List.mem_singleton] at hmem'
    subst hmem'
    exact hkey hmem

/-- A granted lock on a new key is one ticket and one entry more. -/
theorem MdlThd.Tracked.acquireLock {thd : MdlThd} (h : thd.Tracked) (req : MdlRequest)
    {granted : Bool} (hnew : granted = true → req.key ∉ thd.tickets.map Prod.fst) :
    (thd.acquireLock req granted).2.Tracked := by
  cases granted with
  | false => exact h
  | true =>
    have hkey := hnew rfl
    refine ⟨?_, ?_, nodup_insertTicket h.nodup _ _⟩
    · unfold MdlThd.acquireLock insertTicket
      rw [if_neg (by simp)]
      dsimp only
      rw [if_neg hkey, List.map_append]
      exact h.perm.append_right _
    · intro entry hentry
      rcases mem_insertTicket hentry with hentry | rfl
      · exact h.keyed entry hentry
      · rfl

/-- The loop takes the entries that match out of the map. -/
theorem ctcReleaseMdlTickets_tickets (filterKey : Option MdlKey)
    (entries : List (MdlKey × MdlTicket)) (held : List MdlTicket) :
    (ctcReleaseMdlTickets filterKey entries held).1 =
      entries.filter fun entry => !matchesFilter filterKey entry := by
  induction entries generalizing held with
  | nil => rfl
  | cons entry rest ih =>
    rw [ctcReleaseMdlTickets]
    cases hmatch : matchesFilter filterKey entry with
    | true =>
      rw [if_pos rfl, ih, List.filter_cons_of_neg (by simp [hmatch])]
    | false =>
      rw [if_neg Bool.false_ne_true, List.filter_cons_of_pos (by simp [hmatch])]
      exact congrArg _ (ih held)

/-- The loop releases the tickets of the entries that it takes out. -/
theorem ctcReleaseMdlTickets_held (filterKey : Option MdlKey)
    (kept entries : List (MdlKey × MdlTicket)) {held : List MdlTicket}
    (h : ((kept ++ entries).map Prod.snd).Perm held) :
    ((kept ++ (ctcReleaseMdlTickets filterKey entries held).1).map Prod.snd).Perm
      (ctcReleaseMdlTickets filterKey entries held).2 := by
  induction entries generalizing kept held with
  | nil => exact h
  | cons entry rest ih =>
    rw [ctcReleaseMdlTickets]
    cases matchesFilter filterKey entry with
    | true =>
      rw [if_pos rfl]
      apply ih
      have hmiddle : (entry.2 :: (kept ++ rest).map Prod.snd).Perm held := by
        refine List.Perm.trans ?_ h
        rw [List.map_append, List.map_append, List.map_cons]
        exact List.perm_middle.symm
      have herase := hmiddle.erase entry.2
      rwa [List.erase_cons_head] at herase
    | false =>
      rw [if_neg Bool.false_ne_true]
      rw [← List.singleton_append, ← List.append_assoc] at h
      have hrest := ih (kept ++ [entry]) h
      rwa [List.append_assoc] at hrest

/-- `UNLOCK TABLES`, or the release of one table lock before it is taken again. -/
theorem MdlThd.Tracked.release {thd : MdlThd} (h : thd.Tracked) (filterKey : Option MdlKey) :
    MdlThd.Tracked { thd with
      tickets := (ctcReleaseMdlTickets filterKey thd.tickets thd.held).1
      held := (ctcReleaseMdlTickets filterKey thd.tickets thd.held).2 } := by
  have hperm := ctcReleaseMdlTickets_held filterKey [] thd.tickets h.perm
  rw [List.nil_append] at hperm
  refine ⟨hperm, ?_, ?_⟩
  · intro entry hentry
    dsimp only at hentry
    rw [ctcReleaseMdlTickets_tickets] at hentry
    exact h.keyed entry (List.mem_of_mem_filter hentry)
  · dsimp only
    rw [ctcReleaseMdlTickets_tickets]
    exact h.nodup.sublist (List.filter_sublist.map _)

/-- What is still held after a release. -/
theorem MdlThd.Tracked.mem_release {thd : MdlThd} (h : thd.Tracked) (filterKey : Option MdlKey)
    (ticket : MdlTicket) :
    ticket ∈ (ctcReleaseMdlTickets filterKey thd.tickets thd.held).2 ↔
      ticket ∈ thd.held ∧ matchesFilter filterKey (ticket.key, ticket) = false := by
  have hmem := @MdlThd.Tracked.mem_held _ (h.release filterKey) ticket
  rw [h.mem_held]
  refine hmem.trans ?_
  dsimp only
  rw [ctcReleaseMdlTickets_tickets, List.mem_filter, Bool.not_eq_true']

/-- Looking a key up in the map and filtering the held tickets by it comes to the same. -/
theorem MdlThd.Tracked.unlock_eq {thd : MdlThd} (h : thd.Tracked) (req : MdlRequest) :
    ctcMdlUnlockThdByTicket thd req = { thd with
      held := thd.held.filter (·.key ≠ req.key)
      tickets := thd.tickets.filter (·.1 ≠ req.key) } := by
  unfold ctcMdlUnlockThdByTicket
  cases hlookup : thd.tickets.lookup req.key with
  | none =>
    have hnone : ∀ entry ∈ thd.tickets, entry.1 ≠ req.key := by
      intro entry hentry
      have hne := List.lookup_eq_none_iff.mp hlookup entry hentry
      exact (bne_iff_ne.mp hne).symm
    have htickets : thd.tickets.filter (·.1 ≠ req.key) = thd.tickets :=
      List.filter_eq_self.mpr fun entry hentry => decide_eq_true (hnone entry hentry)
    have hheld : thd.held.filter (·.key ≠ req.key) = thd.held :=
      List.filter_eq_self.mpr fun ticket hticket =>
        decide_eq_true (hnone _ (h.mem_held.mp hticket))
    rw [htickets, hheld]
  | some ticket =>
    have hkey : ticket.key = req.key := by
      obtain ⟨l₁, l₂, hsplit, -⟩ := List.lookup_eq_some_iff.mp hlookup
      exact h.keyed (req.key, ticket) (by rw [hsplit]; simp)
    dsimp only
    rw [hkey]

theorem MdlThd.Tracked.unlock {thd : MdlThd} (h : thd.Tracked) (req : MdlRequest) :
    (ctcMdlUnlockThdByTicket thd req).Tracked := by
  rw [h.unlock_eq]
  refine ⟨?_, ?_, ?_⟩
  · have hfilter : (thd.tickets.filter (·.1 ≠ req.key)).map Prod.snd =
        (thd.tickets.map Prod.snd).filter (·.key ≠ req.key) := by
      rw [List.filter_map]
      refine congrArg _ (List.filter_congr ?_)
      intro entry hentry
      rw [Function.comp_apply, h.keyed entry hentry]
    dsimp only
    rw [hfilter]
    exact h.perm.filter _
  · intro entry hentry
    exact h.keyed entry (List.mem_of_mem_filter hentry)
  · exact h.nodup.sublist (List.filter_sublist.map _)

/-! ## Messages -/

section

variable (createMdlKey : Int → String → String → MdlKey)

/-- The message does what it should: an unlock leaves no ticket on the key that it names, and
`UNLOCK TABLES` no table lock either; a lock that is refused leaves what was held; at the end of
the session there is no thread. -/
def Answered (thd : Option MdlThd) (msg : MdlMessage) (thd' : Option MdlThd) : Prop :=
  match msg with
  | .lock _ _ granted => granted = false → ∀ ticket ∈ heldOf thd, ticket ∈ heldOf thd'
  | .unlock lockInfo _ =>
    (∀ ticket ∈ heldOf thd', ticket.key ≠ (ctcInitMdlRequest createMdlKey lockInfo).key) ∧
      (lockInfo.sqlType = .unlockTables → ∀ ticket ∈ heldOf thd', isTableLock ticket.type = false)
  | .close => thd' = none

/-- When the map stays what is held. A single lock is granted on a new key only. `LOCK TABLES` on a
key with an entry is granted if it replaces a table lock, and refused if it would stand beside
another lock. An unlock reaches a server that has been started. A session ends with locks that its
visitor releases. -/
def Covered (thd : Option MdlThd) (msg : MdlMessage) : Prop :=
  match msg with
  | .lock lockInfo isWorkFlow granted =>
    if lockInfo.sqlType = .lockTables then
      ∀ entry ∈ ticketsOf thd, entry.1 = (ctcInitMdlRequestIn mdlKeyTable lockInfo).key →
        granted = isTableLock entry.2.type
    else isWorkFlow = true → granted = true →
      (ctcInitMdlRequest createMdlKey lockInfo).key ∉ (ticketsOf thd).map Prod.fst
  | .unlock lockInfo isWorkFlow =>
    isWorkFlow = true ∨ ∀ entry ∈ ticketsOf thd,
      entry.1 = (ctcInitMdlRequest createMdlKey lockInfo).key →
        lockInfo.sqlType = .unlockTables ∧ isTableLock entry.2.type = true
  | .close => ∀ ticket ∈ heldOf thd, releaseAllCtcExplicitLocks ticket = true

/-- The first half of `ctc_ddl_execute_lock_tables_by_req`. -/
theorem ctcMdlUnlockTablesThd_getD (req : Option MdlRequest) (thd : Option MdlThd) :
    (ctcMdlUnlockTablesThd req thd).getD .init =
      { thd.getD .init with
        tickets := (ctcReleaseMdlTickets (req.map MdlRequest.key) (ticketsOf thd) (heldOf thd)).1
        held := (ctcReleaseMdlTickets (req.map MdlRequest.key) (ticketsOf thd) (heldOf thd)).2 } := by
  cases thd <;> rfl

theorem matchesFilter_some_iff (key : MdlKey) (entry : MdlKey × MdlTicket) :
    matchesFilter (some key) entry = true ↔ entry.1 = key ∧ isTableLock entry.2.type = true := by
  rw [matchesFilter, decide_eq_true_eq, @eq_comm _ entry.1 key]
  simp

/-- A table is locked: its old table lock is replaced, or nothing happens. -/
theorem Tracked.lockTables {thd : Option MdlThd} (h : Tracked thd) (lockInfo : LockTableInfo)
    {granted : Bool} (hcovered : ∀ entry ∈ ticketsOf thd,
      entry.1 = (ctcInitMdlRequestIn mdlKeyTable lockInfo).key →
        granted = isTableLock entry.2.type) :
    Tracked (ctcDdlExecuteLockTablesByReq granted lockInfo thd).2 ∧
      (granted = false → ∀ ticket ∈ heldOf thd,
        ticket ∈ heldOf (ctcDdlExecuteLockTablesByReq granted lockInfo thd).2) := by
  have hrelease := MdlThd.Tracked.release h
    (some (ctcInitMdlRequestIn mdlKeyTable lockInfo).key)
  unfold ctcDdlExecuteLockTablesByReq
  dsimp only
  rw [ctcMdlUnlockTablesThd_getD]
  refine ⟨hrelease.acquireLock _ ?_, ?_⟩
  · rintro rfl hmem
    obtain ⟨entry, hentry, hkey⟩ := List.mem_map.mp hmem
    dsimp only at hentry
    rw [ctcReleaseMdlTickets_tickets, List.mem_filter, Bool.not_eq_true'] at hentry
    have hmatch := (matchesFilter_some_iff _ entry).mpr
      ⟨hkey, (hcovered entry hentry.1 hkey).symm⟩
    exact Bool.false_ne_true (hentry.2.symm.trans hmatch)
  · rintro rfl ticket hticket
    refine (MdlThd.Tracked.mem_release h _ ticket).mpr ⟨hticket, ?_⟩
    refine Bool.eq_false_iff.mpr fun hmatch => ?_
    obtain ⟨hkey, htype⟩ := (matchesFilter_some_iff _ _).mp hmatch
    have hrefused := hcovered _ (MdlThd.Tracked.mem_held h |>.mp hticket) hkey
    exact Bool.false_ne_true (hrefused.trans htype)

theorem Tracked.unlockTablesThd {thd : Option MdlThd} (h : Tracked thd) :
    Tracked (ctcMdlUnlockTablesThd none thd) ∧
      ∀ ticket, ticket ∈ heldOf (ctcMdlUnlockTablesThd none thd) ↔
        ticket ∈ heldOf thd ∧ isTableLock ticket.type = false := by
  unfold Tracked heldOf
  rw [ctcMdlUnlockTablesThd_getD]
  refine ⟨MdlThd.Tracked.release h none, ?_⟩
  intro ticket
  refine (MdlThd.Tracked.mem_release h none ticket).trans ?_
  simp [matchesFilter]

theorem Tracked.unlockThd {thd : Option MdlThd} (h : Tracked thd) (lockInfo : LockTableInfo) :
    Tracked (ctcMdlUnlockThd createMdlKey true lockInfo thd) ∧
      ∀ ticket, ticket ∈ heldOf (ctcMdlUnlockThd createMdlKey true lockInfo thd) ↔
        ticket ∈ heldOf thd ∧ ticket.key ≠ (ctcInitMdlRequest createMdlKey lockInfo).key := by
  cases thd with
  | none =>
    refine ⟨h, fun ticket => ?_⟩
    exact iff_of_false List.not_mem_nil fun hmem => List.not_mem_nil hmem.1
  | some thd =>
    refine ⟨MdlThd.Tracked.unlock h _, fun ticket => ?_⟩
    have heq : (ctcMdlUnlockThd createMdlKey true lockInfo (some thd)).getD .init =
      ctcMdlUnlockThdByTicket thd (ctcInitMdlRequest createMdlKey lockInfo) := rfl
    have hthd : thd.Tracked := h
    rw [heldOf, heq, hthd.unlock_eq, List.mem_filter, decide_eq_true_eq]
    rfl

/-- A single lock. -/
theorem Tracked.lockThd {thd : Option MdlThd} (h : Tracked thd) (lockInfo : LockTableInfo)
    {isWorkFlow granted : Bool} (hnew : isWorkFlow = true → granted = true →
      (ctcInitMdlRequest createMdlKey lockInfo).key ∉ (ticketsOf thd).map Prod.fst) :
    Tracked (ctcMdlLockThd createMdlKey isWorkFlow granted lockInfo thd).2 ∧
      (granted = false → ∀ ticket ∈ heldOf thd,
        ticket ∈ heldOf (ctcMdlLockThd createMdlKey isWorkFlow granted lockInfo thd).2) := by
  unfold ctcMdlLockThd
  cases isWorkFlow with
  | false => exact ⟨h, fun _ _ hticket => hticket⟩
  | true =>
    rw [if_neg (by simp)]
    refine ⟨MdlThd.Tracked.acquireLock h _ (hnew rfl), ?_⟩
    rintro rfl ticket hticket
    exact hticket

/-- The end of a session leaves no ticket behind exactly if the visitor releases every one. -/
theorem leftBehind_close_eq_nil {thd : Option MdlThd} :
    leftBehind thd .close = [] ↔ ∀ ticket ∈ heldOf thd, releaseAllCtcExplicitLocks ticket = true := by
  unfold leftBehind releaseCtcMdlThdByKey heldOf
  rw [List.filter_eq_nil_iff]
  simp

/-- One message. -/
theorem Tracked.step {thd : Option MdlThd} (h : Tracked thd) (msg : MdlMessage)
    (hcovered : Covered createMdlKey thd msg) :
    Tracked (mdlStep createMdlKey thd msg) ∧
      Answered createMdlKey thd msg (mdlStep createMdlKey thd msg) := by
  cases msg with
  | lock lockInfo isWorkFlow granted =>
    dsimp only [Covered] at hcovered
    dsimp only [mdlStep, ctcDdlExecuteLockTables, Answered]
    by_cases htables : lockInfo.sqlType = .lockTables
    · rw [if_pos htables] at hcovered
      rw [if_pos htables]
      exact h.lockTables lockInfo hcovered
    · rw [if_neg htables] at hcovered
      rw [if_neg htables]
      exact h.lockThd createMdlKey lockInfo hcovered
  | unlock lockInfo isWorkFlow =>
    dsimp only [Covered] at hcovered
    dsimp only [mdlStep, ctcDdlExecuteUnlockTables, Answered]
    obtain ⟨thd', hthd'⟩ : ∃ thd', (if lockInfo.sqlType = .unlockTables then
        ctcMdlUnlockTablesThd none thd else thd) = thd' := ⟨_, rfl⟩
    have hfirst : Tracked thd' ∧ ∀ ticket ∈ heldOf thd', ticket ∈ heldOf thd ∧
        (lockInfo.sqlType = .unlockTables → isTableLock ticket.type = false) := by
      rw [← hthd']
      by_cases htables : lockInfo.sqlType = .unlockTables
      · rw [if_pos htables]
        refine ⟨h.unlockTablesThd.1, fun ticket hticket => ?_⟩
        obtain ⟨hheld, htype⟩ := (h.unlockTablesThd.2 ticket).mp hticket
        exact ⟨hheld, fun _ => htype⟩
      · rw [if_neg htables]
        exact ⟨h, fun ticket hticket => ⟨hticket, fun hcmd => absurd hcmd htables⟩⟩
    rw [hthd']
    cases isWorkFlow with
    | true =>
      obtain ⟨htracked, hheld⟩ := hfirst.1.unlockThd createMdlKey lockInfo
      refine ⟨htracked, fun ticket hticket => ((hheld ticket).mp hticket).2, ?_⟩
      intro hcmd ticket hticket
      exact (hfirst.2 ticket ((hheld ticket).mp hticket).1).2 hcmd
    | false =>
      have hnamed := hcovered.resolve_left Bool.false_ne_true
      refine ⟨hfirst.1, fun ticket hticket hkey => ?_, ?_⟩
      · obtain ⟨hheld, hnot⟩ := hfirst.2 ticket hticket
        obtain ⟨hcmd, htype⟩ := hnamed _ (MdlThd.Tracked.mem_held h |>.mp hheld) hkey
        exact Bool.false_ne_true ((hnot hcmd).symm.trans htype)
      · intro hcmd ticket hticket
        exact (hfirst.2 ticket hticket).2 hcmd
  | close => exact ⟨MdlThd.tracked_init, rfl⟩

/-- One message, with the tickets that it leaves behind. -/
theorem MdlSession.Tracked.step {s : MdlSession} (h : s.Tracked) (msg : MdlMessage)
    (hcovered : Covered createMdlKey s.thd msg) :
    (sessionStep createMdlKey s msg).Tracked ∧
      Answered createMdlKey s.thd msg (sessionStep createMdlKey s msg).thd := by
  obtain ⟨htracked, hanswered⟩ := Mdl.Tracked.step createMdlKey h.thread msg hcovered
  refine ⟨⟨htracked, ?_⟩, hanswered⟩
  unfold sessionStep
  dsimp only
  rw [h.none_left, List.nil_append]
  cases msg with
  | lock | unlock => rfl
  | close => exact leftBehind_close_eq_nil.mpr hcovered

/-! ## The guard is needed -/

/-- A lock that is granted on a key with an entry is a ticket that the map does not know. -/
theorem MdlThd.Tracked.not_acquireLock {thd : MdlThd} (h : thd.Tracked) {req : MdlRequest}
    (hold : req.key ∈ thd.tickets.map Prod.fst) : ¬ (thd.acquireLock req true).2.Tracked := by
  intro hnext
  have hlen := h.perm.length_eq
  have hlen' := hnext.perm.length_eq
  unfold MdlThd.acquireLock insertTicket at hlen'
  rw [if_neg (by simp)] at hlen'
  dsimp only at hlen'
  rw [if_pos hold, List.length_append, List.length_singleton] at hlen'
  omega

/-- A table lock that is not replaced, or another lock that is not refused, goes wrong at once. -/
theorem Tracked.covered_of_lockTables {thd : Option MdlThd} (h : Tracked thd) {granted : Bool}
    {lockInfo : LockTableInfo}
    (hnext : Tracked (ctcDdlExecuteLockTablesByReq granted lockInfo thd).2)
    (hkept : granted = false → ∀ ticket ∈ heldOf thd,
      ticket ∈ heldOf (ctcDdlExecuteLockTablesByReq granted lockInfo thd).2) :
    ∀ entry ∈ ticketsOf thd, entry.1 = (ctcInitMdlRequestIn mdlKeyTable lockInfo).key →
      granted = isTableLock entry.2.type := by
  intro entry hentry hkey
  have hmatch := matchesFilter_some_iff (ctcInitMdlRequestIn mdlKeyTable lockInfo).key entry
  unfold ctcDdlExecuteLockTablesByReq at hnext hkept
  dsimp only at hnext hkept
  cases htype : isTableLock entry.2.type with
  | false =>
    -- the entry is still there when the lock is granted
    by_contra hne
    obtain rfl : granted = true := by simpa using hne
    have hrelease := MdlThd.Tracked.release h (some (ctcInitMdlRequestIn mdlKeyTable lockInfo).key)
    unfold Tracked at hnext
    rw [ctcMdlUnlockTablesThd_getD] at hnext
    refine hrelease.not_acquireLock ?_ hnext
    refine List.mem_map.mpr ⟨entry, ?_, hkey⟩
    dsimp only
    rw [ctcReleaseMdlTickets_tickets, List.mem_filter, Bool.not_eq_true', Bool.eq_false_iff]
    refine ⟨hentry, fun hm => ?_⟩
    exact Bool.false_ne_true (htype.symm.trans (hmatch.mp hm).2)
  | true =>
    -- the old lock has been released when the new one is refused
    by_contra hne
    obtain rfl : granted = false := by simpa using hne
    have hheld := hkept rfl entry.2 (MdlThd.Tracked.held_of_mem h hentry)
    unfold heldOf at hheld
    rw [ctcMdlUnlockTablesThd_getD] at hheld
    have hnot := ((MdlThd.Tracked.mem_release h _ entry.2).mp hheld).2
    rw [MdlThd.Tracked.keyed h entry hentry] at hnot
    exact Bool.false_ne_true (hnot.symm.trans (hmatch.mpr ⟨hkey, htype⟩))

/-- An unlock that leaves its key free has found nothing, or a table lock for `UNLOCK TABLES`. -/
theorem Tracked.covered_of_unlock {thd : Option MdlThd} (h : Tracked thd)
    {lockInfo : LockTableInfo} (hfree : ∀ ticket ∈ heldOf
      (ctcDdlExecuteUnlockTables createMdlKey false lockInfo thd),
        ticket.key ≠ (ctcInitMdlRequest createMdlKey lockInfo).key) :
    ∀ entry ∈ ticketsOf thd, entry.1 = (ctcInitMdlRequest createMdlKey lockInfo).key →
      lockInfo.sqlType = .unlockTables ∧ isTableLock entry.2.type = true := by
  intro entry hentry hkey
  have hticket : entry.2.key = (ctcInitMdlRequest createMdlKey lockInfo).key :=
    (MdlThd.Tracked.keyed h entry hentry).trans hkey
  have hheld : entry.2 ∈ heldOf thd := MdlThd.Tracked.held_of_mem h hentry
  unfold ctcDdlExecuteUnlockTables at hfree
  by_cases htables : lockInfo.sqlType = .unlockTables
  · rw [if_pos htables] at hfree
    refine ⟨htables, ?_⟩
    by_contra htype
    refine hfree entry.2 ?_ hticket
    exact (h.unlockTablesThd.2 entry.2).mpr ⟨hheld, by simpa using htype⟩
  · rw [if_neg htables] at hfree
    exact (hfree entry.2 hheld hticket).elim

/-- A message that is not covered goes wrong at once. -/
theorem Tracked.covered_of_step {s : MdlSession} (h : s.Tracked) (msg : MdlMessage)
    (hsession : (sessionStep createMdlKey s msg).Tracked)
    (hanswered : Answered createMdlKey s.thd msg (sessionStep createMdlKey s msg).thd) :
    Covered createMdlKey s.thd msg := by
  have hthread := h.thread
  have hnext : Tracked (mdlStep createMdlKey s.thd msg) := hsession.thread
  cases msg with
  | lock lockInfo isWorkFlow granted =>
    dsimp only [sessionStep, mdlStep, ctcDdlExecuteLockTables, Answered] at hnext hanswered
    dsimp only [Covered]
    by_cases htables : lockInfo.sqlType = .lockTables
    · rw [if_pos htables] at hnext hanswered ⊢
      exact hthread.covered_of_lockTables hnext hanswered
    · rw [if_neg htables] at hnext ⊢
      rintro rfl rfl hmem
      exact MdlThd.Tracked.not_acquireLock hthread hmem hnext
  | unlock lockInfo isWorkFlow =>
    dsimp only [sessionStep, mdlStep, Answered] at hanswered
    dsimp only [Covered]
    cases isWorkFlow with
    | true => exact Or.inl rfl
    | false => exact Or.inr (hthread.covered_of_unlock createMdlKey hanswered.1)
  | close =>
    have hleft := hsession.none_left
    unfold sessionStep at hleft
    exact leftBehind_close_eq_nil.mp (List.append_eq_nil_iff.mp hleft).2

/-! ## Runs -/

/-- **The ticket map of a session.** In a run whose messages are covered the map is what is held for
the session after every message, every unlock releases what it names, no refused lock costs a
lock that was held, and the end of the session leaves nothing held. -/
theorem tracked_run {msgs : List MdlMessage}
    (hRun : Machine.Guarded (sessionStep createMdlKey) (fun s => Covered createMdlKey s.thd)
      .init msgs) (k : Nat) :
    ((msgs.take k).foldl (sessionStep createMdlKey) .init).Tracked ∧
      ∀ msg, msgs[k]? = some msg →
        Answered createMdlKey ((msgs.take k).foldl (sessionStep createMdlKey) .init).thd msg
          (sessionStep createMdlKey ((msgs.take k).foldl (sessionStep createMdlKey) .init)
            msg).thd := by
  have hStep : ∀ s msg, MdlSession.Tracked s → Covered createMdlKey s.thd msg →
      (sessionStep createMdlKey s msg).Tracked :=
    fun s msg h hcovered => (h.step createMdlKey msg hcovered).1
  have hInit : MdlSession.init.Tracked := ⟨MdlThd.tracked_init, rfl⟩
  have htracked := Machine.invariant_of_guarded hStep hInit hRun
  exact ⟨htracked k, fun msg hget => ((htracked k).step createMdlKey msg (hRun.get hget)).2⟩

end

/-- A request about the table `d.t`; `type` is the type of the lock for `LOCK TABLES`. -/
def requestFor (sqlType : SqlCommand) (type : Int) : LockTableInfo :=
  ⟨"d", "t", "u", "h", sqlType, type⟩

/-- A read lock is lost when a write lock on the same table is refused; and the end of a session
that has locked the instance for backup leaves this lock held. -/
theorem lockTables_refused_loses_lock :
    (let s := sessionStep MdlKey.mk .init (.lock (requestFor .lockTables mdlSharedReadOnly) true true)
      let msg := MdlMessage.lock (requestFor .lockTables mdlSharedNoReadWrite) true false
      ¬ Answered MdlKey.mk s.thd msg (sessionStep MdlKey.mk s msg).thd) ∧
    ¬ ([.lock (requestFor (.other 0) mdlKeyBackupLock) true true, .close].foldl
      (sessionStep MdlKey.mk) .init).Tracked := by
  refine ⟨?_, ?_⟩
  · intro s msg h
    have hlost : heldOf (sessionStep MdlKey.mk s msg).thd = [] := rfl
    have hheld : (⟨0, ⟨mdlKeyTable, "d", "t"⟩, mdlSharedReadOnly⟩ : MdlTicket) ∈ heldOf s.thd :=
      List.mem_cons_self
    have hkept := h rfl _ hheld
    rw [hlost] at hkept
    exact List.not_mem_nil hkept
  · intro h
    exact absurd h.none_left (List.cons_ne_nil _ _)

/-- A write lock replaces the read lock, `UNLOCK TABLES` releases it, and the session ends. -/
theorem tracked_run_lock_twice :
    let msgs := [MdlMessage.lock (requestFor .lockTables mdlSharedReadOnly) true true,
      MdlMessage.lock (requestFor .lockTables mdlSharedNoReadWrite) true true,
      MdlMessage.unlock (requestFor .unlockTables mdlKeyTable) true, .close]
    ((msgs.take 2).foldl (sessionStep MdlKey.mk) .init).Tracked ∧
      ∀ msg, msgs[2]? = some msg →
        Answered MdlKey.mk ((msgs.take 2).foldl (sessionStep MdlKey.mk) .init).thd msg
          (sessionStep MdlKey.mk ((msgs.take 2).foldl (sessionStep MdlKey.mk) .init) msg).thd := by
  intro msgs
  have hRun : Machine.Guarded (sessionStep MdlKey.mk) (fun s => Covered MdlKey.mk s.thd) .init
      msgs := by
    refine ⟨?_, ?_, Or.inl rfl, ?_, trivial⟩
    · exact List.forall_mem_nil _
    · refine List.forall_mem_singleton.mpr ?_
      exact fun _ => rfl
    · exact List.forall_mem_nil _
  exact tracked_run MdlKey.mk hRun 2

end CantianConnector.Mdl
