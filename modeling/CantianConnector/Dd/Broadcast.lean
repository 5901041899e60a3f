import CantianConnector.Lib.Memory

/-!
# Broadcasting changed dictionary objects

`invalidate_remote_dd` sends the names of the dictionary objects that a statement has changed to
the other nodes. The entries are laid out one behind the other in a buffer of fixed size, behind a
flag byte that tells the receiver whether the batch ends with this message. A full buffer is sent
and cleared before the next entry is written; the buffer of the first message is not cleared.

A buffer is a memory that `strncpy` and `memset` write into. The receiver copies the entries out
and reads the names as C strings; a read that finds no terminator within the entry is `none`.
-/

namespace CantianConnector.Dd

/-! ## Objects and requests -/

/-- `THD::invalidate_object_type`. -/
inductive InvalidateObjectType where
  | objAbstractTable
  | objSchema
  | objEvent
  | objColumnStatistics
  | objCharset
  | objCollation
  | objRtProcedure
  | objRtFunction
  | objTablespace
  | objResourceGroup
  | objSpatialReferenceSystem
deriving DecidableEq, Repr

/-- The value of an object type, as it is stored in an entry. -/
def InvalidateObjectType.code : InvalidateObjectType → UInt8
  | .objAbstractTable => 0
  | .objSchema => 1
  | .objEvent => 2
  | .objColumnStatistics => 3
  | .objCharset => 4
  | .objCollation => 5
  | .objRtProcedure => 6
  | .objRtFunction => 7
  | .objTablespace => 8
  | .objResourceGroup => 9
  | .objSpatialReferenceSystem => 10

/-- An element of `thd->invalidates()`: the two names and the type of a changed object. -/
structure Invalidate where
  first : List UInt8
  second : List UInt8
  type : InvalidateObjectType
deriving DecidableEq, Repr

/-- `SMALL_RECORD_SIZE`. -/
def smallRecordSize : Nat := 128

/-- `sizeof(invalidate_obj_entry_t)`: the type and two names. -/
def objEntrySize : Nat := 1 + smallRecordSize + smallRecordSize

/-- `DD_BROADCAST_RECORD_SIZE`. -/
def ddBroadcastRecordSize : Nat := 1000

/-- `DD_BROADCAST_RECORD_LENGTH`. -/
def ddBroadcastRecordLength : Nat := 3072

/-- `ctc_invalidate_broadcast_request`. -/
structure InvalidateBroadcastRequest where
  buff : Mem UInt8
  buffLen : Nat
  mysqlInstId : Nat
  isDcl : Bool
  isFlush : Bool

/-- The character `'1'`, which flags the last message of a batch. -/
def endFlag : UInt8 := 49

/-! ## The sender -/

/-- What `strncpy` writes for the C string `src`. -/
def strncpy (src : List UInt8) (n : Nat) : List UInt8 := (src ++ List.replicate n 0).take n

/-- What is sent of an object: its type and the names that objects of its type have. -/
structure ObjEntry where
  type : UInt8
  first : List UInt8
  second : List UInt8
deriving DecidableEq, Repr

/-- The request after `memset`. -/
def InvalidateBroadcastRequest.clear (req : InvalidateBroadcastRequest) :
    InvalidateBroadcastRequest :=
  { req with
    buff := req.buff.write 0 (List.replicate ddBroadcastRecordLength 0)
    buffLen := 1 }

/-- `broadcast_and_reload_buffer`, with the messages sent so far. -/
def broadcastAndReloadBuffer (st : InvalidateBroadcastRequest × List InvalidateBroadcastRequest) :
    InvalidateBroadcastRequest × List InvalidateBroadcastRequest :=
  if ddBroadcastRecordLength < st.1.buffLen + objEntrySize then (st.1.clear, st.2 ++ [st.1])
  else st

/-- The entry is written behind the others. `strncpy` leaves the last byte of each name alone. -/
def putEntry (req : InvalidateBroadcastRequest) (obj : ObjEntry) : InvalidateBroadcastRequest :=
  let off := req.buffLen
  let typed := req.buff.write off [obj.type]
  let named := typed.write (off + 1) (strncpy obj.first (smallRecordSize - 1))
  { req with
    buff := named.write (off + 1 + smallRecordSize) (strncpy obj.second (smallRecordSize - 1))
    buffLen := off + objEntrySize }

/-- The body of the loop over `thd->invalidates()`. -/
def addInvalidate (st : InvalidateBroadcastRequest × List InvalidateBroadcastRequest)
    (it : Invalidate) : InvalidateBroadcastRequest × List InvalidateBroadcastRequest :=
  match it.type with
  | .objAbstractTable | .objEvent | .objColumnStatistics | .objRtProcedure | .objRtFunction =>
    let st := broadcastAndReloadBuffer st
    (putEntry st.1 ⟨it.type.code, it.first, it.second⟩, st.2)
  | .objSchema | .objTablespace | .objResourceGroup | .objSpatialReferenceSystem =>
    let st := broadcastAndReloadBuffer st
    (putEntry st.1 ⟨it.type.code, it.first, []⟩, st.2)
  | .objCharset | .objCollation => st

/-- The request with the flag of the last message. -/
def InvalidateBroadcastRequest.flagged (req : InvalidateBroadcastRequest) :
    InvalidateBroadcastRequest :=
  { req with buff := req.buff.write 0 [endFlag] }

/-- `invalidate_remote_dd`: the messages in the order in which they are sent. `req` is the request
as the function finds it on its stack. -/
def invalidateRemoteDd (ctcInstanceId : Nat) (isFlush : Bool) (invalidates : List Invalidate)
    (req : InvalidateBroadcastRequest) : List InvalidateBroadcastRequest :=
  let req := { req with mysqlInstId := ctcInstanceId, isDcl := false }
  if ddBroadcastRecordSize ≤ invalidates.length then [{ req with buffLen := 0 }]
  else
    let st := invalidates.foldl addInvalidate ({ req with buffLen := 1, isFlush := isFlush }, [])
    st.2 ++ [st.1.flagged]

/-! ## The receiver -/

/-- The C string at the start of some bytes, if they contain its end. -/
def cString (bytes : List UInt8) : Option (List UInt8) :=
  if 0 ∈ bytes then some (bytes.takeWhile (· ≠ 0)) else none

/-- An entry as the receiver reads it. -/
structure ReceivedObj where
  type : UInt8
  first : Option (List UInt8)
  second : Option (List UInt8)
deriving DecidableEq, Repr

/-- The names of an entry that has been copied out of a message. The first name may run into the
second. -/
def readEntry (bytes : List UInt8) : ReceivedObj where
  type := bytes.headD 0
  first := cString (bytes.drop 1)
  second := cString (bytes.drop (1 + smallRecordSize))

/-- The entries that `ctc_invalidate_mysql_dd_cache_impl` copies out of a message, from `offset`
on. -/
def entriesFrom (buff : Mem UInt8) (buffLen offset : Nat) : List ReceivedObj :=
  if offset < buffLen then
    readEntry (buff.read offset objEntrySize) :: entriesFrom buff buffLen (offset + objEntrySize)
  else []
termination_by buffLen - offset
decreasing_by
  unfold objEntrySize
  omega

/-- The entries of a message. -/
def InvalidateBroadcastRequest.entries (req : InvalidateBroadcastRequest) : List ReceivedObj :=
  entriesFrom req.buff req.buffLen 1

/-- `is_end`. -/
def InvalidateBroadcastRequest.isEnd (req : InvalidateBroadcastRequest) : Bool :=
  req.buff 0 == endFlag

/-! ## Names -/

/-- A name that fits into an entry. -/
def IsName (name : List UInt8) : Prop := 0 ∉ name ∧ name.length < smallRecordSize

theorem length_strncpy (src : List UInt8) (n : Nat) : (strncpy src n).length = n := by
  rw [strncpy, List.length_take, List.length_append, List.length_replicate]
  omega

theorem takeWhile_name_append {name rest : List UInt8} (hname : 0 ∉ name) :
    (name ++ rest).takeWhile (· ≠ 0) = name ++ rest.takeWhile (· ≠ 0) := by
  apply List.takeWhile_append_of_pos
  intro b hb
  exact decide_eq_true fun h => hname (h ▸ hb)

/-- A name is read back if `strncpy` has terminated it, or else the byte behind it does. -/
theorem cString_strncpy_iff {name : List UInt8} (hname : IsName name) (behind : UInt8)
    (rest : List UInt8) :
    cString (strncpy name (smallRecordSize - 1) ++ behind :: rest) = some name ↔
      (name.length = smallRecordSize - 1 → behind = 0) := by
  obtain ⟨hzero, hlen⟩ := hname
  by_cases hfull : name.length = smallRecordSize - 1
  · have hcopy : strncpy name (smallRecordSize - 1) = name := by
      rw [strncpy, ← hfull, List.take_left]
    rw [hcopy, cString, takeWhile_name_append hzero]
    by_cases hbehind : behind = 0
    · subst hbehind
      simp [hfull]
    · rw [List.takeWhile_cons_of_pos (by simp [hbehind])]
      simp [hfull, hbehind]
  · obtain ⟨k, hk⟩ : ∃ k, smallRecordSize - 1 = name.length + (k + 1) :=
      ⟨smallRecordSize - 1 - name.length - 1, by omega⟩
    have hcopy : strncpy name (smallRecordSize - 1) = name ++ 0 :: List.replicate k 0 := by
      rw [strncpy, hk, List.take_length_add_append, List.take_replicate, ← List.replicate_succ]
      simp
    rw [hcopy, cString, List.append_assoc, takeWhile_name_append hzero, List.cons_append,
      List.takeWhile_cons_of_neg (by decide)]
    simp [hfull]

/-! ## One message -/

/-- The address behind `j` entries. -/
def slot (j : Nat) : Nat := 1 + objEntrySize * j

theorem slot_succ (j : Nat) : slot (j + 1) = slot j + objEntrySize := by
  rw [slot, slot, Nat.mul_succ, Nat.add_assoc]

/-- The entries of a message that holds `j` of them. -/
theorem entriesFrom_slot (buff : Mem UInt8) (i k : Nat) :
    entriesFrom buff (slot (i + k)) (slot i) =
      (List.range k).map fun n => readEntry (buff.read (slot (i + n)) objEntrySize) := by
  induction k generalizing i with
  | zero =>
    rw [entriesFrom, if_neg (by rw [Nat.add_zero]; exact Nat.lt_irrefl _)]
    rfl
  | succ k ih =>
    have hlt : slot i < slot (i + (k + 1)) := by
      unfold slot objEntrySize smallRecordSize
      omega
    rw [entriesFrom, if_pos hlt, ← slot_succ, ← Nat.add_assoc, Nat.add_right_comm i k 1, ih,
      List.range_succ_eq_map, List.map_cons, List.map_map]
    refine congrArg₂ _ rfl (List.map_congr_left ?_)
    intro n _
    simp only [Function.comp_apply, Nat.succ_eq_add_one, Nat.add_assoc, Nat.add_comm 1 n]

theorem entries_of_buffLen {req : InvalidateBroadcastRequest} {j : Nat}
    (hlen : req.buffLen = slot j) :
    req.entries = (List.range j).map fun n => readEntry (req.buff.read (slot n) objEntrySize) := by
  have hslots := entriesFrom_slot req.buff 0 j
  simp only [Nat.zero_add] at hslots
  rw [InvalidateBroadcastRequest.entries, hlen]
  exact hslots

/-- An entry with the two bytes that `strncpy` has left behind its names, as it is read. -/
def ObjEntry.received (obj : ObjEntry) (behind₁ behind₂ : UInt8) : ReceivedObj :=
  readEntry (obj.type :: (strncpy obj.first (smallRecordSize - 1) ++ behind₁ ::
    (strncpy obj.second (smallRecordSize - 1) ++ [behind₂])))

/-- Three writes that leave a byte behind the second and one behind the third. -/
theorem read_writes (m : Mem UInt8) (off : Nat) (type : UInt8) {first second : List UInt8}
    (h₁ : first.length = 127) (h₂ : second.length = 127) :
    (((m.write off [type]).write (off + 1) first).write (off + 129) second).read off 257 =
      type :: (first ++ m (off + 128) :: (second ++ [m (off + 256)])) := by
  have hsplit : ∀ m' : Mem UInt8, m'.read off 257 =
      m' off :: (m'.read (off + 1) 127 ++ m' (off + 128) ::
        (m'.read (off + 129) 127 ++ [m' (off + 256)])) := by
    intro m'
    have hread := m'.read_add off 1 (127 + (1 + (127 + 1)))
    simp only [Mem.read_add m' (off + 1), Mem.read_add m' (off + 1 + 127),
      Mem.read_add m' (off + 1 + 127 + 1)] at hread
    exact hread
  have hone : ([type] : List UInt8).length = 1 := rfl
  have htype : (((m.write off [type]).write (off + 1) first).write (off + 129) second) off =
      type := by
    rw [Mem.write_of_lt _ (by omega), Mem.write_of_lt _ (by omega)]
    exact Mem.write_inside (i := 0) rfl
  rw [hsplit, htype, Mem.read_write_same' h₂, Mem.read_write_disjoint (by omega),
    Mem.read_write_same' h₁, Mem.write_of_lt _ (by omega), Mem.write_of_ge (by omega),
    Mem.write_of_ge (by omega), Mem.write_of_ge (by omega), Mem.write_of_ge (by omega),
    Mem.write_of_ge (by omega)]

/-- What is written of an entry, and the two bytes that are left. -/
theorem readEntry_putEntry (req : InvalidateBroadcastRequest) (obj : ObjEntry) :
    readEntry ((putEntry req obj).buff.read req.buffLen objEntrySize) =
      obj.received (req.buff (req.buffLen + 128)) (req.buff (req.buffLen + 256)) :=
  congrArg readEntry (read_writes req.buff req.buffLen obj.type (length_strncpy _ _)
    (length_strncpy _ _))

/-- Writing an entry leaves the other addresses alone. -/
theorem putEntry_outside (req : InvalidateBroadcastRequest) (obj : ObjEntry) {a : Nat}
    (ha : a < req.buffLen ∨ req.buffLen + objEntrySize ≤ a) :
    (putEntry req obj).buff a = req.buff a := by
  have h₁ := length_strncpy obj.first (smallRecordSize - 1)
  have h₂ := length_strncpy obj.second (smallRecordSize - 1)
  unfold objEntrySize smallRecordSize at ha
  unfold putEntry smallRecordSize at *
  dsimp only
  rw [Mem.write_outside (by omega), Mem.write_outside (by omega),
    Mem.write_outside (by rw [List.length_singleton]; omega)]

theorem clear_buff (req : InvalidateBroadcastRequest) {a : Nat}
    (ha : a < ddBroadcastRecordLength) : req.clear.buff a = 0 := by
  have hwrite : req.buff.write 0 (List.replicate ddBroadcastRecordLength 0) (0 + a) = 0 :=
    Mem.write_inside (List.getElem?_replicate_of_lt ha)
  rwa [Nat.zero_add] at hwrite

theorem entries_clear (req : InvalidateBroadcastRequest) : req.clear.entries = [] :=
  entries_of_buffLen (j := 0) rfl

/-! ## A batch of messages -/

/-- What is sent of an object; objects of the other kinds are not broadcast. -/
def Invalidate.entry (it : Invalidate) : Option ObjEntry :=
  match it.type with
  | .objAbstractTable | .objEvent | .objColumnStatistics | .objRtProcedure | .objRtFunction =>
    some ⟨it.type.code, it.first, it.second⟩
  | .objSchema | .objTablespace | .objResourceGroup | .objSpatialReferenceSystem =>
    some ⟨it.type.code, it.first, []⟩
  | .objCharset | .objCollation => none

/-- One object more. -/
def addEntry (st : InvalidateBroadcastRequest × List InvalidateBroadcastRequest)
    (obj : ObjEntry) : InvalidateBroadcastRequest × List InvalidateBroadcastRequest :=
  (putEntry (broadcastAndReloadBuffer st).1 obj, (broadcastAndReloadBuffer st).2)

/-- The switch of the loop in short. -/
theorem foldl_addInvalidate (its : List Invalidate)
    (st : InvalidateBroadcastRequest × List InvalidateBroadcastRequest) :
    its.foldl addInvalidate st = (its.filterMap Invalidate.entry).foldl addEntry st := by
  induction its generalizing st with
  | nil => rfl
  | cons it its ih =>
    obtain ⟨first, second, type⟩ := it
    rw [List.foldl_cons, ih]
    cases type <;> rfl

/-- The number of entries that fit into a message. -/
def entriesPerMessage : Nat := 11

/-- The byte at distance `off` behind the start of entry `i`, before the entry is written: only
the first message is not cleared. -/
def before (stale : Mem UInt8) (i off : Nat) : UInt8 :=
  if i < entriesPerMessage then stale (slot i + off) else 0

/-- What the receiver makes of the objects. -/
def receivedObjs (stale : Mem UInt8) (objs : List ObjEntry) : List ReceivedObj :=
  objs.mapIdx fun i obj => obj.received (before stale i 128) (before stale i 256)

/-- The messages sent so far and the buffer with `j` entries, when the objects `done` have been
written and the buffer held `stale` at first. -/
structure Filling (stale : Mem UInt8) (done : List ObjEntry)
    (st : InvalidateBroadcastRequest × List InvalidateBroadcastRequest) (j : Nat) : Prop where
  count : done.length = entriesPerMessage * st.2.length + j
  room : j ≤ entriesPerMessage
  buffLen : st.1.buffLen = slot j
  full : ∀ msg ∈ st.2, msg.buffLen = slot entriesPerMessage
  received : st.2.flatMap InvalidateBroadcastRequest.entries ++ st.1.entries =
    receivedObjs stale done
  flags : st.2.map (fun msg => msg.buff 0) ++ [st.1.buff 0] =
    stale 0 :: List.replicate st.2.length 0
  fresh : ∀ a, slot j ≤ a → a < ddBroadcastRecordLength →
    st.1.buff a = if st.2 = [] then stale a else 0

/-- The buffer has room for an entry after the call. -/
theorem Filling.reload {stale : Mem UInt8} {done : List ObjEntry}
    {st : InvalidateBroadcastRequest × List InvalidateBroadcastRequest} {j : Nat}
    (h : Filling stale done st j) :
    ∃ i, i < entriesPerMessage ∧ Filling stale done (broadcastAndReloadBuffer st) i := by
  have hcount := h.count
  have hroom := h.room
  unfold broadcastAndReloadBuffer
  by_cases hfull : ddBroadcastRecordLength < st.1.buffLen + objEntrySize
  · rw [if_pos hfull]
    rw [h.buffLen] at hfull
    obtain rfl : j = entriesPerMessage := by
      unfold ddBroadcastRecordLength slot objEntrySize smallRecordSize at hfull
      unfold entriesPerMessage at *
      omega
    refine ⟨0, by decide, ?_, by decide, rfl, ?_, ?_, ?_, ?_⟩
    · dsimp only
      rw [hcount, List.length_append, List.length_singleton, Nat.mul_succ, Nat.add_zero]
    · intro msg hmsg
      rcases List.mem_append.mp hmsg with hmsg | hmsg
      · exact h.full msg hmsg
      · rw [List.mem_singleton.mp hmsg]
        exact h.buffLen
    · dsimp only
      rw [← h.received, List.flatMap_append, List.flatMap_singleton, entries_clear,
        List.append_nil]
    · dsimp only
      rw [List.map_append, List.map_singleton, h.flags, clear_buff _ (by decide),
        List.length_append, List.length_singleton, List.replicate_succ', List.cons_append]
    · intro a _ ha
      dsimp only
      rw [clear_buff _ ha, if_neg (by simp)]
  · rw [if_neg hfull]
    refine ⟨j, ?_, h⟩
    rw [h.buffLen] at hfull
    unfold ddBroadcastRecordLength slot objEntrySize smallRecordSize at hfull
    unfold entriesPerMessage
    omega

/-- An entry behind the others. -/
theorem Filling.put {stale : Mem UInt8} {done : List ObjEntry}
    {st : InvalidateBroadcastRequest × List InvalidateBroadcastRequest} {j : Nat}
    (h : Filling stale done st j) (hroom : j < entriesPerMessage) (obj : ObjEntry) :
    Filling stale (done ++ [obj]) (putEntry st.1 obj, st.2) (j + 1) := by
  have hcount := h.count
  have hlt : slot j + objEntrySize ≤ ddBroadcastRecordLength := by
    unfold ddBroadcastRecordLength slot objEntrySize smallRecordSize
    unfold entriesPerMessage at hroom
    omega
  have hpos : 0 < slot j := by
    unfold slot
    omega
  have hlen : (putEntry st.1 obj).buffLen = slot (j + 1) := by
    rw [slot_succ, ← h.buffLen]
    rfl
  -- the bytes that are left behind the names are those of the entry's number
  have hbefore : ∀ off, off < objEntrySize →
      st.1.buff (st.1.buffLen + off) = before stale done.length off := by
    intro off hoff
    rw [h.buffLen, h.fresh _ (by omega) (by omega), before]
    by_cases hfirst : st.2 = []
    · rw [hfirst, List.length_nil, Nat.mul_zero, Nat.zero_add] at hcount
      rw [if_pos hfirst, hcount, if_pos hroom]
    · have hsent := List.length_pos_iff.mpr hfirst
      unfold entriesPerMessage at *
      rw [if_neg hfirst, if_neg (by omega)]
  have hentries : (putEntry st.1 obj).entries =
      st.1.entries ++ [obj.received (before stale done.length 128)
        (before stale done.length 256)] := by
    rw [entries_of_buffLen hlen, entries_of_buffLen h.buffLen, List.range_succ, List.map_append,
      List.map_singleton, ← h.buffLen, readEntry_putEntry, hbefore 128 (by decide),
      hbefore 256 (by decide)]
    congr 1
    refine List.map_congr_left ?_
    intro n hn
    rw [List.mem_range] at hn
    refine congrArg readEntry (Mem.read_congr ?_)
    intro a _ ha
    refine putEntry_outside st.1 obj (Or.inl ?_)
    rw [h.buffLen]
    unfold slot objEntrySize smallRecordSize at *
    omega
  refine ⟨?_, hroom, hlen, h.full, ?_, ?_, ?_⟩
  · rw [List.length_append, List.length_singleton, hcount, Nat.add_assoc]
  · rw [hentries, ← List.append_assoc, h.received, receivedObjs, receivedObjs, List.mapIdx_concat]
  · dsimp only
    rw [putEntry_outside st.1 obj (Or.inl (by rw [h.buffLen]; exact hpos))]
    exact h.flags
  · intro a hle ha
    dsimp only
    rw [slot_succ] at hle
    rw [putEntry_outside st.1 obj (Or.inr (by rw [h.buffLen]; exact hle)),
      h.fresh a (by omega) ha]

/-- The buffer before the loop. -/
theorem filling_nil (req : InvalidateBroadcastRequest) (hlen : req.buffLen = slot 0) :
    Filling req.buff [] (req, []) 0 where
  count := rfl
  room := Nat.zero_le _
  buffLen := hlen
  full := List.forall_mem_nil _
  received := by
    rw [List.flatMap_nil, List.nil_append, entries_of_buffLen hlen]
    rfl
  flags := rfl
  fresh a _ _ := (if_pos rfl).symm

/-- What the loop leaves behind. A message has been sent only for the sake of an entry. -/
theorem filling_foldl (stale : Mem UInt8) (objs : List ObjEntry) {done : List ObjEntry}
    {st : InvalidateBroadcastRequest × List InvalidateBroadcastRequest} {j : Nat}
    (h : Filling stale done st j) (hsent : st.2 = [] ∨ 0 < j) :
    ∃ i, Filling stale (done ++ objs) (objs.foldl addEntry st) i ∧
      ((objs.foldl addEntry st).2 = [] ∨ 0 < i) := by
  induction objs generalizing done st j with
  | nil =>
    rw [List.append_nil]
    exact ⟨j, h, hsent⟩
  | cons obj objs ih =>
    obtain ⟨i, hroom, hreload⟩ := h.reload
    rw [List.foldl_cons, ← List.singleton_append, ← List.append_assoc]
    exact ih (hreload.put hroom obj) (Or.inr (Nat.succ_pos i))

/-! ## Delivery -/

/-- An entry that is read as it was meant. -/
def ObjEntry.intact (obj : ObjEntry) : ReceivedObj := ⟨obj.type, some obj.first, some obj.second⟩

/-- The receiver gets every object of a broadcast kind once, in order and with its names, from
messages of a permitted length, and takes exactly the last one for the end of the batch. -/
structure Delivered (invalidates : List Invalidate) (msgs : List InvalidateBroadcastRequest) :
    Prop where
  objects : msgs.flatMap InvalidateBroadcastRequest.entries =
    (invalidates.filterMap Invalidate.entry).map ObjEntry.intact
  lengths : ∀ msg ∈ msgs, msg.buffLen ≤ ddBroadcastRecordLength ∧
    ∃ k, msg.buffLen = 1 + objEntrySize * k
  ends : msgs.map InvalidateBroadcastRequest.isEnd =
    List.replicate (msgs.length - 1) false ++ [true]

/-- The stale byte in front of the first message is not taken for the flag of the last one. -/
def FlagClear (stale : Mem UInt8) (objs : List ObjEntry) : Prop :=
  objs.length ≤ entriesPerMessage ∨ stale 0 ≠ endFlag

/-- In the first message a stale zero stands behind every name that fills its field. -/
def NamesTerminated (stale : Mem UInt8) (objs : List ObjEntry) : Prop :=
  ∀ i obj, objs[i]? = some obj → i < entriesPerMessage →
    (obj.first.length = smallRecordSize - 1 → stale (slot i + 128) = 0) ∧
      (obj.second.length = smallRecordSize - 1 → stale (slot i + 256) = 0)

theorem received_eq_intact_iff {obj : ObjEntry} (hfirst : IsName obj.first)
    (hsecond : IsName obj.second) (behind₁ behind₂ : UInt8) :
    obj.received behind₁ behind₂ = obj.intact ↔
      (obj.first.length = smallRecordSize - 1 → behind₁ = 0) ∧
        (obj.second.length = smallRecordSize - 1 → behind₂ = 0) := by
  have hdrop : (obj.type :: (strncpy obj.first (smallRecordSize - 1) ++ behind₁ ::
      (strncpy obj.second (smallRecordSize - 1) ++ [behind₂]))).drop (1 + smallRecordSize) =
        strncpy obj.second (smallRecordSize - 1) ++ [behind₂] := by
    have hlen := length_strncpy obj.first (smallRecordSize - 1)
    have hskip : 1 + smallRecordSize = (smallRecordSize - 1) + 1 + 1 := rfl
    rw [hskip, List.drop_succ_cons, ← List.drop_drop, List.drop_left' hlen]
    rfl
  rw [← cString_strncpy_iff hfirst behind₁
    (strncpy obj.second (smallRecordSize - 1) ++ [behind₂]),
    ← cString_strncpy_iff hsecond behind₂ [], ObjEntry.received, readEntry, ObjEntry.intact,
    hdrop]
  simp

theorem isName_entry {it : Invalidate} {obj : ObjEntry} (h : it.entry = some obj)
    (hname : IsName it.first ∧ IsName it.second) : IsName obj.first ∧ IsName obj.second := by
  have hnil : IsName [] := ⟨List.not_mem_nil, by decide⟩
  obtain ⟨first, second, type⟩ := it
  cases type <;> cases h <;> first | exact hname | exact ⟨hname.1, hnil⟩

/-- The names arrive if the bytes behind them in the first message were zero. -/
theorem receivedObjs_eq_intact_iff (stale : Mem UInt8) {objs : List ObjEntry}
    (hname : ∀ obj ∈ objs, IsName obj.first ∧ IsName obj.second) :
    receivedObjs stale objs = objs.map ObjEntry.intact ↔ NamesTerminated stale objs := by
  have hobj : ∀ i obj, objs[i]? = some obj →
      (obj.received (before stale i 128) (before stale i 256) = obj.intact ↔
        (i < entriesPerMessage →
          (obj.first.length = smallRecordSize - 1 → stale (slot i + 128) = 0) ∧
            (obj.second.length = smallRecordSize - 1 → stale (slot i + 256) = 0))) := by
    intro i obj hget
    obtain ⟨hfirst, hsecond⟩ := hname obj (List.mem_of_getElem? hget)
    rw [received_eq_intact_iff hfirst hsecond, before, before]
    by_cases hi : i < entriesPerMessage
    · rw [if_pos hi, if_pos hi]
      exact ⟨fun h _ => h, fun h => h hi⟩
    · rw [if_neg hi, if_neg hi]
      exact ⟨fun _ h => absurd h hi, fun _ => ⟨fun _ => rfl, fun _ => rfl⟩⟩
  rw [List.ext_getElem?_iff, NamesTerminated]
  refine forall_congr' fun i => ?_
  rw [receivedObjs, List.getElem?_mapIdx, List.getElem?_map]
  cases hget : objs[i]? with
  | none => simp
  | some obj =>
    rw [Option.map_some, Option.map_some, Option.some_inj, hobj i obj hget]
    simp

theorem buff_flagged (req : InvalidateBroadcastRequest) :
    req.flagged.buff = req.buff.write 0 [endFlag] := rfl

theorem isEnd_flagged (req : InvalidateBroadcastRequest) : req.flagged.isEnd = true := by
  rw [InvalidateBroadcastRequest.isEnd, buff_flagged, beq_iff_eq]
  exact Mem.write_inside (i := 0) rfl

/-- The flag of the last message does not touch its entries. -/
theorem entries_flagged {req : InvalidateBroadcastRequest} {j : Nat}
    (hlen : req.buffLen = slot j) : req.flagged.entries = req.entries := by
  have hflagged : req.flagged.buffLen = slot j := hlen
  rw [entries_of_buffLen hlen, entries_of_buffLen hflagged]
  refine List.map_congr_left ?_
  intro n _
  rw [buff_flagged, Mem.read_write_disjoint]
  rw [List.length_singleton]
  unfold slot
  omega

/-- Which messages are taken for the end of a batch. -/
theorem ends_iff {stale : Mem UInt8} {objs : List ObjEntry}
    {st : InvalidateBroadcastRequest × List InvalidateBroadcastRequest} {i : Nat}
    (h : Filling stale objs st i) (hsent : st.2 = [] ∨ 0 < i) :
    (st.2 ++ [st.1.flagged]).map InvalidateBroadcastRequest.isEnd =
        List.replicate ((st.2 ++ [st.1.flagged]).length - 1) false ++ [true] ↔
      FlagClear stale objs := by
  have hcount := h.count
  have hroom := h.room
  have hflags := h.flags
  have hmap : st.2.map InvalidateBroadcastRequest.isEnd =
      (st.2.map fun msg => msg.buff 0).map (· == endFlag) := by
    rw [List.map_map]
    rfl
  rw [List.map_append, List.map_singleton, isEnd_flagged, List.append_left_inj, List.length_append,
    List.length_singleton, Nat.add_sub_cancel, hmap, FlagClear]
  cases hst : st.2 with
  | nil =>
    rw [hst, List.length_nil, Nat.mul_zero, Nat.zero_add] at hcount
    exact iff_of_true rfl (Or.inl (by omega))
  | cons msg rest =>
    rw [hst] at hsent hflags hcount
    have hpos : 0 < i := hsent.resolve_left (List.cons_ne_nil _ _)
    have hmany : ¬ objs.length ≤ entriesPerMessage := by
      rw [List.length_cons] at hcount
      unfold entriesPerMessage at *
      omega
    rw [List.map_cons, List.cons_append, List.cons.injEq, List.length_cons,
      List.replicate_succ'] at hflags
    obtain ⟨hstale, hcleared⟩ := hflags
    obtain ⟨hrest, -⟩ := List.append_inj' hcleared rfl
    rw [List.map_cons, hstale, hrest, List.map_cons, List.map_replicate, List.length_cons,
      List.replicate_succ, List.cons.injEq, beq_eq_false_iff_ne]
    exact ⟨fun h => Or.inr h.1, fun h => ⟨h.resolve_left hmany, rfl⟩⟩

/-- The messages of a batch that is sent. -/
theorem invalidateRemoteDd_eq (ctcInstanceId : Nat) (isFlush : Bool)
    {invalidates : List Invalidate} (hsize : invalidates.length < ddBroadcastRecordSize)
    (req : InvalidateBroadcastRequest) :
    ∃ st i, invalidateRemoteDd ctcInstanceId isFlush invalidates req = st.2 ++ [st.1.flagged] ∧
      Filling req.buff (invalidates.filterMap Invalidate.entry) st i ∧ (st.2 = [] ∨ 0 < i) := by
  obtain ⟨i, hfill, hsent⟩ := filling_foldl req.buff (invalidates.filterMap Invalidate.entry)
    (filling_nil ⟨req.buff, 1, ctcInstanceId, false, isFlush⟩ rfl) (Or.inl rfl)
  rw [List.nil_append] at hfill
  refine ⟨_, i, ?_, hfill, hsent⟩
  rw [invalidateRemoteDd, if_neg (by omega), foldl_addInvalidate]

/-- **When a batch is delivered.** The stale bytes of the request decide: its first byte must not
look like the flag of a last message, unless one message is enough, and the bytes behind names
that fill their fields must be zero. -/
theorem invalidateRemoteDd_delivers_iff (ctcInstanceId : Nat) (isFlush : Bool)
    {invalidates : List Invalidate} (hsize : invalidates.length < ddBroadcastRecordSize)
    (hname : ∀ it ∈ invalidates, IsName it.first ∧ IsName it.second)
    (req : InvalidateBroadcastRequest) :
    Delivered invalidates (invalidateRemoteDd ctcInstanceId isFlush invalidates req) ↔
      FlagClear req.buff (invalidates.filterMap Invalidate.entry) ∧
        NamesTerminated req.buff (invalidates.filterMap Invalidate.entry) := by
  have hobjName : ∀ obj ∈ invalidates.filterMap Invalidate.entry,
      IsName obj.first ∧ IsName obj.second := by
    intro obj hobj
    obtain ⟨it, hit, hentry⟩ := List.mem_filterMap.mp hobj
    exact isName_entry hentry (hname it hit)
  obtain ⟨st, i, hmsgs, hfill, hsent⟩ := invalidateRemoteDd_eq ctcInstanceId isFlush hsize req
  have hflat : (st.2 ++ [st.1.flagged]).flatMap InvalidateBroadcastRequest.entries =
      st.2.flatMap InvalidateBroadcastRequest.entries ++ st.1.entries := by
    rw [List.flatMap_append, List.flatMap_singleton, entries_flagged hfill.buffLen]
  rw [hmsgs, ← ends_iff hfill hsent, ← receivedObjs_eq_intact_iff req.buff hobjName,
    ← hfill.received, ← hflat]
  constructor
  · intro hd
    exact ⟨hd.ends, hd.objects⟩
  · rintro ⟨hends, hobjects⟩
    refine ⟨hobjects, ?_, hends⟩
    intro msg hmsg
    rcases List.mem_append.mp hmsg with hmsg | hmsg
    · rw [hfill.full msg hmsg]
      exact ⟨by decide, entriesPerMessage, rfl⟩
    · have hlen : msg.buffLen = slot i := by
        rw [List.mem_singleton.mp hmsg]
        exact hfill.buffLen
      have hroom := hfill.room
      rw [hlen]
      refine ⟨?_, i, rfl⟩
      unfold slot objEntrySize smallRecordSize ddBroadcastRecordLength
      unfold entriesPerMessage at hroom
      omega

/-- One table more than a message has room for. -/
def twelveTables : List Invalidate :=
  (List.range 12).map fun i => ⟨[100], [UInt8.ofNat (97 + i)], .objAbstractTable⟩

theorem isName_twelveTables : ∀ it ∈ twelveTables, IsName it.first ∧ IsName it.second := by
  unfold IsName
  decide

/-- A stack full of `'1'` makes the first of two messages look like the last. -/
theorem invalidateRemoteDd_stale_flag :
    ¬ Delivered twelveTables
      (invalidateRemoteDd 0 false twelveTables ⟨fun _ => 49, 0, 0, false, false⟩) := by
  intro hd
  obtain ⟨st, i, hmsgs, hfill, hsent⟩ := invalidateRemoteDd_eq 0 false
    (show twelveTables.length < ddBroadcastRecordSize by decide) ⟨fun _ => 49, 0, 0, false, false⟩
  have hends := hd.ends
  rw [hmsgs, ends_iff hfill hsent] at hends
  rcases hends with hfew | hflag
  · exact absurd hfew (by decide)
  · exact hflag rfl

/-- On a clean stack they are delivered. -/
theorem invalidateRemoteDd_delivers_twelve :
    Delivered twelveTables
      (invalidateRemoteDd 0 false twelveTables ⟨fun _ => 0, 0, 0, false, false⟩) := by
  rw [invalidateRemoteDd_delivers_iff 0 false (by decide) isName_twelveTables]
  exact ⟨Or.inr (by decide), fun _ _ _ _ => ⟨fun _ => rfl, fun _ => rfl⟩⟩

end CantianConnector.Dd
