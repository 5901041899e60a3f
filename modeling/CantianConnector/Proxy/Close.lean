import CantianConnector.Proxy.Connections

/-!
# The connections that the end of a session closes

A key of `g_mysql_conn_map` packs an instance, a thread and the use of the proxy into 64 bits. The
high 16 bits of an instance are its Cantian node, which is below 2^15, so that the highest bit of
the key is free for the use of the proxy. `close_mysql_connection` decodes the keys to find the
entries of a thread, of an instance, or of all instances of a node.
-/

namespace CantianConnector.Proxy

/-! ## Keys -/

/-- What a key is made of. -/
structure ConnId where
  instId : UInt32
  thdId : UInt32
  useProxy : Bool
deriving DecidableEq, Repr

def ConnId.key (id : ConnId) : UInt64 := ctcGetConnKey id.instId id.thdId id.useProxy

/-- The instance leaves the highest bit free. -/
def ConnId.Valid (id : ConnId) : Prop := id.instId.toNat < 2 ^ 31

instance (id : ConnId) : Decidable id.Valid :=
  inferInstanceAs (Decidable (id.instId.toNat < 2 ^ 31))

theorem toNat_connKey {id : ConnId} (hvalid : id.Valid) : id.key.toNat =
    (if id.useProxy then 0 else 2 ^ 63) + (id.instId.toNat * 2 ^ 32 + id.thdId.toNat) := by
  have hinst : id.instId.toNat < 2 ^ 31 := hvalid
  have hthd : id.thdId.toNat < 2 ^ 32 := id.thdId.toNat_lt
  have hlow : ((id.instId.toUInt64 <<< 32) + id.thdId.toUInt64).toNat =
      id.instId.toNat * 2 ^ 32 + id.thdId.toNat := by
    have hshift : (32 : UInt64).toNat % 64 = 32 := rfl
    rw [UInt64.toNat_add, UInt64.toNat_shiftLeft, UInt32.toNat_toUInt64, UInt32.toNat_toUInt64,
      hshift, Nat.shiftLeft_eq]
    omega
  unfold ConnId.key ctcGetConnKey
  dsimp only
  split
  · rw [hlow, Nat.zero_add]
  · have hmask : agentConnKeyMask.toNat = 2 ^ 63 * 1 := rfl
    rw [UInt64.toNat_or, hlow, hmask, Nat.or_comm,
      ← Nat.two_pow_add_eq_or_of_lt (by omega), Nat.mul_one]

theorem toNat_and_mask (connKey : UInt64) :
    (connKey &&& (agentConnKeyMask - 1)).toNat = connKey.toNat % 2 ^ 63 := by
  have hmask : (agentConnKeyMask - 1).toNat = 2 ^ 63 - 1 := rfl
  rw [UInt64.toNat_and, hmask, Nat.and_two_pow_sub_one_eq_mod]

theorem instId_connKey {id : ConnId} (hvalid : id.Valid) :
    ctcGetInstIdFromConnKey id.key = id.instId := by
  have hinst : id.instId.toNat < 2 ^ 31 := hvalid
  have hthd : id.thdId.toNat < 2 ^ 32 := id.thdId.toNat_lt
  have hshift : (32 : UInt64).toNat % 64 = 32 := rfl
  apply UInt32.toNat_inj.mp
  unfold ctcGetInstIdFromConnKey
  rw [UInt64.toNat_toUInt32, UInt64.toNat_shiftRight, toNat_and_mask, hshift,
    Nat.shiftRight_eq_div_pow, toNat_connKey hvalid]
  split <;> omega

theorem cantianId_connKey {id : ConnId} (hvalid : id.Valid) :
    (ctcGetCantianIdFromConnKey id.key).toUInt32 = id.instId >>> 16 := by
  have hinst : id.instId.toNat < 2 ^ 31 := hvalid
  have hthd : id.thdId.toNat < 2 ^ 32 := id.thdId.toNat_lt
  have hshift : (48 : UInt64).toNat % 64 = 48 := rfl
  have hshift' : (16 : UInt32).toNat % 32 = 16 := rfl
  apply UInt32.toNat_inj.mp
  unfold ctcGetCantianIdFromConnKey
  rw [UInt16.toNat_toUInt32, UInt64.toNat_toUInt16, UInt64.toNat_shiftRight, toNat_and_mask,
    hshift, Nat.shiftRight_eq_div_pow, toNat_connKey hvalid, UInt32.toNat_shiftRight, hshift',
    Nat.shiftRight_eq_div_pow]
  split <;> omega

/-- Different entries have different keys. -/
theorem ConnId.key_injective {id id' : ConnId} (hvalid : id.Valid) (hvalid' : id'.Valid)
    (hkey : id.key = id'.key) : id = id' := by
  have hinst : id.instId = id'.instId := by
    rw [← instId_connKey hvalid, hkey, instId_connKey hvalid']
  have hnat := congrArg UInt64.toNat hkey
  rw [toNat_connKey hvalid, toNat_connKey hvalid', hinst] at hnat
  have hbound : id'.instId.toNat < 2 ^ 31 := hvalid'
  have hthd : id.thdId.toNat < 2 ^ 32 := id.thdId.toNat_lt
  have hthd' : id'.thdId.toNat < 2 ^ 32 := id'.thdId.toNat_lt
  have hproxy : id.useProxy = id'.useProxy := by
    cases hp : id.useProxy <;> cases hp' : id'.useProxy <;> simp only [hp, hp'] at hnat ⊢ <;>
      simp only [Bool.false_eq_true, if_true, if_false] at hnat <;> omega
  rw [hproxy] at hnat
  have hthread : id.thdId = id'.thdId := UInt32.toNat_inj.mp (by omega)
  obtain ⟨_, _, _⟩ := id
  obtain ⟨_, _, _⟩ := id'
  rw [ConnId.mk.injEq]
  exact ⟨hinst, hthread, hproxy⟩

/-! ## Closing the entries of a list of keys -/

theorem lookup_closeMysqlConnByKey (s : ProxyState) (key key' : UInt64) :
    (closeMysqlConnByKey s key).connMap.lookup key' =
      if key' = key then none else s.connMap.lookup key' := by
  cases hlookup : s.connMap.lookup key with
  | none =>
    rw [closeMysqlConnByKey_of_lookup_none hlookup]
    split
    case isTrue heq => rw [heq, hlookup]
    case isFalse => rfl
  | some info =>
    rw [closeMysqlConnByKey_eq hlookup]
    dsimp only [ProxyState.setGNameLocks, ProxyState.dropConn, ProxyState.closeConn,
      ProxyState.eraseInfo]
    split
    case isTrue heq => rw [heq, AList.lookup_erase]
    case isFalse hne => exact AList.lookup_erase_ne hne

theorem connOf_closeMysqlConnByKey (s : ProxyState) {key key' : UInt64} (hne : key' ≠ key) :
    (closeMysqlConnByKey s key).connOf key' = s.connOf key' := by
  rw [ProxyState.connOf, lookup_closeMysqlConnByKey, if_neg hne, ProxyState.connOf]

theorem closed_closeMysqlConnByKey (s : ProxyState) (key : UInt64) :
    (closeMysqlConnByKey s key).closed = s.closed ++ (s.connOf key).toList := by
  cases hlookup : s.connMap.lookup key with
  | none =>
    rw [closeMysqlConnByKey_of_lookup_none hlookup, ProxyState.connOf, hlookup, Option.map_none,
      Option.toList_none, List.append_nil]
  | some info =>
    rw [closeMysqlConnByKey_eq hlookup, ProxyState.connOf, hlookup]
    rfl

theorem sessions_closeMysqlConnByKey (s : ProxyState) {key : UInt64} {conn : Nat}
    (hother : s.connOf key ≠ some conn) :
    (closeMysqlConnByKey s key).sessions conn = s.sessions conn := by
  cases hlookup : s.connMap.lookup key with
  | none => rw [closeMysqlConnByKey_of_lookup_none hlookup]
  | some info =>
    rw [ProxyState.connOf, hlookup, Option.map_some, ne_eq, Option.some.injEq] at hother
    rw [closeMysqlConnByKey_eq hlookup]
    exact Function.update_of_ne (Ne.symm hother) _ _

/-- What is left when the entries of some keys are closed: these entries are gone, their handles are
closed in the order of the keys, and all else is as before. -/
structure ClosedKeys (s s' : ProxyState) (keys : List UInt64) : Prop where
  lookup : ∀ key, s'.connMap.lookup key = if key ∈ keys then none else s.connMap.lookup key
  closed : s'.closed = s.closed ++ keys.filterMap s.connOf
  opened : s'.opened = s.opened
  sessions : ∀ conn, conn ∉ keys.filterMap s.connOf → s'.sessions conn = s.sessions conn

theorem opened_closeMysqlConnByKey (s : ProxyState) (key : UInt64) :
    (closeMysqlConnByKey s key).opened = s.opened := by
  unfold closeMysqlConnByKey
  split <;> rfl

theorem closedKeys_foldl {keys : List UInt64} (hnodup : keys.Nodup) (s : ProxyState) :
    ClosedKeys s (keys.foldl closeMysqlConnByKey s) keys := by
  induction keys generalizing s with
  | nil => exact ⟨fun _ => rfl, (List.append_nil _).symm, rfl, fun _ _ => rfl⟩
  | cons key rest ih =>
    obtain ⟨hfresh, hrest⟩ := List.nodup_cons.mp hnodup
    have htail := ih hrest (closeMysqlConnByKey s key)
    -- the entries of the other keys are still there
    have hconns : rest.filterMap (closeMysqlConnByKey s key).connOf = rest.filterMap s.connOf := by
      apply List.filterMap_congr
      intro key' hkey'
      refine connOf_closeMysqlConnByKey s ?_
      rintro rfl
      exact hfresh hkey'
    have hall : (key :: rest).filterMap s.connOf =
        (s.connOf key).toList ++ rest.filterMap s.connOf := by
      rw [List.filterMap_cons]
      cases s.connOf key <;> rfl
    rw [List.foldl_cons]
    refine ⟨fun key' => ?_, ?_, ?_, fun conn hconn => ?_⟩
    · rw [htail.lookup, lookup_closeMysqlConnByKey]
      by_cases hmem : key' ∈ rest
      · rw [if_pos hmem, if_pos (List.mem_cons_of_mem _ hmem)]
      · rw [if_neg hmem]
        refine if_congr ?_ rfl rfl
        rw [List.mem_cons, or_iff_left hmem]
    · rw [htail.closed, closed_closeMysqlConnByKey, hconns, hall, List.append_assoc]
    · rw [htail.opened, opened_closeMysqlConnByKey]
    · rw [hall, List.mem_append, not_or] at hconn
      rw [htail.sessions conn (hconns ▸ hconn.2)]
      refine sessions_closeMysqlConnByKey s fun hsame => hconn.1 ?_
      rw [hsame]
      exact List.mem_singleton.mpr rfl

/-! ## The entries that are closed -/

/-- The entries that are to be closed when a thread ends, or an instance, or a Cantian node. -/
def ConnId.Selected (thdId instId : UInt32) (id : ConnId) : Prop :=
  if thdId = 0 then
    if instId.toUInt16 = cantianDownMask then id.instId >>> 16 = instId >>> 16
    else id.instId = instId
  else id.thdId = thdId ∧ id.instId = instId

/-- The keys whose entries `close_mysql_connection` closes. -/
def closedKeysOf (thdId mysqlInstId : UInt32) (s : ProxyState) : List UInt64 :=
  if thdId = 0 then
    s.connMap.keys.filter fun key =>
      if mysqlInstId.toUInt16 = cantianDownMask then
        (ctcGetCantianIdFromConnKey key).toUInt32 = mysqlInstId >>> 16
      else ctcGetInstIdFromConnKey key = mysqlInstId
  else [ctcGetConnKey mysqlInstId thdId true, ctcGetConnKey mysqlInstId thdId false]

theorem closeMysqlConnection_eq (thdId mysqlInstId : UInt32) (s : ProxyState) :
    closeMysqlConnection thdId mysqlInstId s =
      (closedKeysOf thdId mysqlInstId s).foldl closeMysqlConnByKey s := by
  unfold closeMysqlConnection closedKeysOf closeMysqlConnByInstId
  split
  · split
    · simp only [Bool.false_eq_true, if_false]
    · simp only [if_true]
  · rfl

/-- The entries of the map are those of valid instances. -/
def ProxyState.KeysValid (s : ProxyState) : Prop :=
  ∀ key ∈ s.connMap, ∃ id : ConnId, id.Valid ∧ id.key = key

theorem nodup_closedKeysOf {thdId mysqlInstId : UInt32}
    (hinst : thdId ≠ 0 → mysqlInstId.toNat < 2 ^ 31) (s : ProxyState) :
    (closedKeysOf thdId mysqlInstId s).Nodup := by
  unfold closedKeysOf
  split
  case isTrue => exact s.connMap.keys_nodup.filter _
  case isFalse hthd =>
    refine List.nodup_cons.mpr ⟨fun hmem => ?_, List.nodup_singleton _⟩
    have hproxy : ConnId.Valid ⟨mysqlInstId, thdId, true⟩ := hinst hthd
    have hagent : ConnId.Valid ⟨mysqlInstId, thdId, false⟩ := hinst hthd
    cases ConnId.key_injective hproxy hagent (List.mem_singleton.mp hmem)

theorem mem_closedKeysOf {thdId mysqlInstId : UInt32}
    (hinst : thdId ≠ 0 → mysqlInstId.toNat < 2 ^ 31) {s : ProxyState} {id : ConnId}
    (hvalid : id.Valid) (hmem : id.key ∈ s.connMap) :
    id.key ∈ closedKeysOf thdId mysqlInstId s ↔ id.Selected thdId mysqlInstId := by
  unfold closedKeysOf ConnId.Selected
  by_cases hthd : thdId = 0
  · rw [if_pos hthd, if_pos hthd, List.mem_filter, and_iff_right (AList.mem_keys.mp hmem)]
    split
    · rw [decide_eq_true_eq, cantianId_connKey hvalid]
    · rw [decide_eq_true_eq, instId_connKey hvalid]
  · have hproxy : ConnId.Valid ⟨mysqlInstId, thdId, true⟩ := hinst hthd
    have hagent : ConnId.Valid ⟨mysqlInstId, thdId, false⟩ := hinst hthd
    rw [if_neg hthd, if_neg hthd, List.mem_cons, List.mem_singleton]
    constructor
    · rintro (hkey | hkey)
      · rw [ConnId.key_injective hvalid hproxy hkey]
        exact ⟨rfl, rfl⟩
      · rw [ConnId.key_injective hvalid hagent hkey]
        exact ⟨rfl, rfl⟩
    · rintro ⟨rfl, rfl⟩
      unfold ConnId.key
      cases id.useProxy
      · exact .inr rfl
      · exact .inl rfl

/-- Keys without an entry may be left out. -/
theorem ClosedKeys.filter {s s' : ProxyState} {keys : List UInt64} (h : ClosedKeys s s' keys) :
    ClosedKeys s s' (keys.filter fun key => (s.connMap.lookup key).isSome) := by
  have hconns : (keys.filter fun key => (s.connMap.lookup key).isSome).filterMap s.connOf =
      keys.filterMap s.connOf := by
    rw [List.filterMap_filter]
    apply List.filterMap_congr
    intro key _
    unfold ProxyState.connOf
    cases s.connMap.lookup key <;> rfl
  refine ⟨fun key => ?_, ?_, h.opened, ?_⟩
  · rw [h.lookup]
    by_cases hentry : (s.connMap.lookup key).isSome = true
    · refine if_congr ?_ rfl rfl
      rw [List.mem_filter, and_iff_left hentry]
    · rw [Option.not_isSome_iff_eq_none.mp hentry, ite_self, ite_self]
  · rw [hconns]
    exact h.closed
  · rw [hconns]
    exact h.sessions

/-- Exactly the selected entries of `s` are gone in `s'`, and their handles have been closed. -/
def ClosesSelected (thdId mysqlInstId : UInt32) (s s' : ProxyState) : Prop :=
  ∃ keys : List UInt64, keys.Nodup ∧
    (∀ key, key ∈ keys ↔
      key ∈ s.connMap ∧ ∃ id : ConnId, id.Valid ∧ id.key = key ∧ id.Selected thdId mysqlInstId) ∧
    ClosedKeys s s' keys

/-- **The end of a thread, an instance or a node.** Where the entries of the map are those of valid
instances, `close_mysql_connection` closes and removes exactly the entries of the thread, of the
instance, or of all instances of the node, and different entries have different keys. -/
theorem closeMysqlConnection_closes_selected (thdId mysqlInstId : UInt32) {s : ProxyState}
    (hkeys : s.KeysValid) (hinst : thdId ≠ 0 → mysqlInstId.toNat < 2 ^ 31) :
    ClosesSelected thdId mysqlInstId s (closeMysqlConnection thdId mysqlInstId s) ∧
      ∀ id id' : ConnId, id.Valid → id'.Valid → id ≠ id' → id.key ≠ id'.key := by
  refine ⟨?_, fun id id' hvalid hvalid' hne hkey =>
    hne (ConnId.key_injective hvalid hvalid' hkey)⟩
  have hnodup := nodup_closedKeysOf hinst s
  rw [closeMysqlConnection_eq]
  refine ⟨_, hnodup.filter _, fun key => ?_, (closedKeys_foldl hnodup s).filter⟩
  rw [List.mem_filter, AList.lookup_isSome]
  constructor
  · rintro ⟨hclosed, hmem⟩
    obtain ⟨id, hvalid, rfl⟩ := hkeys key hmem
    exact ⟨hmem, id, hvalid, rfl, (mem_closedKeysOf hinst hvalid hmem).mp hclosed⟩
  · rintro ⟨hmem, id, hvalid, rfl, hselected⟩
    exact ⟨(mem_closedKeysOf hinst hvalid hmem).mpr hselected, hmem⟩

/-- Two entries of session 7 of instance 2, and one of session 7 of instance 3. -/
def threeConns : ProxyState :=
  let conns := ((∅ : AList fun _ : UInt64 => ConnInfo).insert (ctcGetConnKey 2 7 true)
    (initCtcMysqlConn 0)).insert (ctcGetConnKey 2 7 false) (initCtcMysqlConn 1)
  { ProxyState.init with connMap := conns.insert (ctcGetConnKey 3 7 true) (initCtcMysqlConn 2) }

theorem closeMysqlConnection_closes_session :
    ClosesSelected 7 2 threeConns (closeMysqlConnection 7 2 threeConns) ∧
      ∀ id id' : ConnId, id.Valid → id'.Valid → id ≠ id' → id.key ≠ id'.key := by
  have hkeys : threeConns.KeysValid := by
    intro key hmem
    rcases (AList.mem_insert _).mp hmem with rfl | hmem
    · exact ⟨⟨3, 7, true⟩, by decide, rfl⟩
    rcases (AList.mem_insert _).mp hmem with rfl | hmem
    · exact ⟨⟨2, 7, false⟩, by decide, rfl⟩
    rcases (AList.mem_insert _).mp hmem with rfl | hmem
    · exact ⟨⟨2, 7, true⟩, by decide, rfl⟩
    · cases hmem
  exact closeMysqlConnection_closes_selected 7 2 hkeys fun _ => by decide

end CantianConnector.Proxy
