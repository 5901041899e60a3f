import CantianConnector.Handler.BulkInsert
import CantianConnector.Lib.Bitmap
import CantianConnector.Session.Context
import Mathlib.Data.Finset.Card
import Mathlib.Data.Finset.Filter

/-!
# Scans of several partitions

`ha_ctcpart` has one handle for all partitions. In a sorted scan the server reads them in turns:
`cursors` keeps the cursor that the engine gave for a partition, `cursor_set` which partitions were
read, and every call of a partition puts its ids and its cursor into `m_tch` before the request. A
call may send more than one request: a read may have to free cursors of the session afterwards, and
`update_row` writes the LOBs first. The engine writes the whole handle each time.

`request_of_scan` says for any order of the calls which ids and which cursor a request carries;
`scan_ends` says what `index_end` leaves of a scan.
-/

namespace CantianConnector.Partition.Cursors

open CantianConnector.Handler (CtcPart)
open CantianConnector.Session

/-! ## The handle -/

/-- `PART_CURSOR_NUM`. -/
def partCursorNum : Nat := 8192

/-- A number of a partition; a table has at most `PART_CURSOR_NUM` of them. -/
abbrev PartId := Fin partCursorNum

/-- The fields of `ctc_handler_t` that say where a request goes. -/
structure Tch where
  part : CtcPart
  sessAddr : UInt64
  cursorAddr : UInt64
  cursorRef : Int
  cursorValid : Bool
deriving DecidableEq, Repr

/-- `m_part_info`; `used` are the partitions that are used, in their order. -/
structure PartInfo where
  numSubparts : Option Nat
  used : List PartId
  nodup : used.Nodup

/-- The members of `ha_ctcpart` that a scan uses. `m_ordered` is set by the server. -/
structure HaCtcpart where
  tch : Tch
  lastPart : Nat
  indexSorted : Bool
  ordered : Bool
  cursors : PartId → UInt64
  cursorSet : Nat → BitVec 32

inductive Op where
  | indexRead
  | generalFetch
  | updateRow
  | deleteRow
  | writeLob
  | freeCursors
deriving DecidableEq, Repr

structure Request where
  op : Op
  tch : Tch
deriving DecidableEq, Repr

/-! ## The bits -/

/-- `cursor_set_bit`. -/
def cursorSetBit (cursorSet : Nat → BitVec 32) (bit : Nat) : Nat → BitVec 32 :=
  Function.update cursorSet (bit / 8) (cursorSet (bit / 8) ||| 1#32 <<< (bit &&& 7))

/-- `cursor_is_set`. -/
def cursorIsSet (cursorSet : Nat → BitVec 32) (bit : Nat) : Bool :=
  cursorSet (bit / 8) &&& 1#32 <<< (bit &&& 7) ≠ 0

/-- `cursor_clear_bit`. -/
def cursorClearBit (cursorSet : Nat → BitVec 32) (bit : Nat) : Nat → BitVec 32 :=
  Function.update cursorSet (bit / 8) (cursorSet (bit / 8) &&& ~~~(1#32 <<< (bit &&& 7)))

/-! ## The calls -/

/-- How a call comes out. -/
inductive Answer where
  /-- The function returns early, with an error or with a row of the record buffer. -/
  | early
  /-- There is no memory for the request. -/
  | unsent
  /-- The engine writes the whole handle. -/
  | reply (tch : Tch)
deriving DecidableEq, Repr

/-- The ids that `set_partition` computes. -/
def PartInfo.part (info : PartInfo) (partId : PartId) : CtcPart :=
  Handler.setPartition info.numSubparts partId

/-- `set_partition`. -/
def setPartition (info : PartInfo) (partId : PartId) (h : HaCtcpart) : HaCtcpart :=
  { h with tch := { h.tch with part := info.part partId } }

/-- `reset_partition`. -/
def resetPartition (partId : PartId) (h : HaCtcpart) : HaCtcpart :=
  { h with
    tch := { h.tch with part := Handler.resetPartition }
    lastPart := partId }

/-- The part of `update_member_tch` that touches these fields; `sess` is the address of the session,
if the thread has one. -/
def updateMemberTch (sess : Option UInt64) (tch : Tch) : Tch :=
  match sess with
  | none => { tch with sessAddr := invalidValue64, cursorRef := 0 }
  | some sessAddr =>
    { tch with
      cursorAddr := if tch.sessAddr = sessAddr then tch.cursorAddr else invalidValue64
      sessAddr := sessAddr }

/-- A request and its answer. -/
def send (op : Op) (answer : Answer) (h : HaCtcpart) : List Request × HaCtcpart :=
  match answer with
  | .reply tch => ([⟨op, h.tch⟩], { h with tch := tch })
  | _ => ([], h)

/-- A request on the way, which frees cursors or writes a piece of a LOB; `reply` is what the engine
makes of the handle. -/
def sendOnTheWay (op : Op) (reply : Tch → Tch) (h : HaCtcpart) : List Request × HaCtcpart :=
  ([⟨op, h.tch⟩], { h with tch := reply h.tch })

/-- `update_sess_ctx_cursor_by_tch`; it frees cursors if the session has too many of them. -/
def updateSessCtxCursorByTch (freed : Option (Tch → Tch)) (h : HaCtcpart) :
    List Request × HaCtcpart :=
  if h.tch.cursorAddr = invalidValue64 then ([], h)
  else
    match freed with
    | none => ([], h)
    | some reply => sendOnTheWay .freeCursors reply h

/-- `ha_ctc::index_read`. -/
def indexRead (sess : Option UInt64) (freed : Option (Tch → Tch)) (answer : Answer)
    (h : HaCtcpart) : List Request × HaCtcpart :=
  match answer with
  | .early => ([], h)
  | _ =>
    let needInit := !h.tch.cursorValid
    let read := send .indexRead answer { h with tch := updateMemberTch sess h.tch }
    let done := if needInit then updateSessCtxCursorByTch freed read.2 else ([], read.2)
    (read.1 ++ done.1, done.2)

/-- `ha_ctc::index_first`. -/
def indexFirst (sess : Option UInt64) (freed : Option (Tch → Tch)) (answer : Answer)
    (h : HaCtcpart) : List Request × HaCtcpart :=
  indexRead sess freed answer
    { h with tch := { h.tch with cursorAddr := invalidValue64, cursorValid := false } }

/-- `ha_ctc::index_fetch`; a request for a batch takes the handle in the same way. -/
def indexFetch (answer : Answer) (h : HaCtcpart) : List Request × HaCtcpart :=
  send .generalFetch answer h

/-- The pieces of the LOBs, in their order. -/
def writeLobs : List (Tch → Tch) → HaCtcpart → List Request × HaCtcpart
  | [], h => ([], h)
  | reply :: rest, h =>
    let piece := sendOnTheWay .writeLob reply h
    let done := writeLobs rest piece.2
    (piece.1 ++ done.1, done.2)

/-- `ha_ctc::update_row`; it may also return early behind some pieces. -/
def updateRow (lobs : List (Tch → Tch)) (answer : Answer) (h : HaCtcpart) :
    List Request × HaCtcpart :=
  let written := writeLobs lobs h
  let done := send .updateRow answer written.2
  (written.1 ++ done.1, done.2)

/-- `ha_ctc::delete_row`. -/
def deleteRow (answer : Answer) (h : HaCtcpart) : List Request × HaCtcpart :=
  send .deleteRow answer h

/-- The cursor that a starting read has left. -/
def keepCursor (partId : PartId) (h : HaCtcpart) : HaCtcpart :=
  if h.indexSorted then
    { h with
      cursorSet := cursorSetBit h.cursorSet partId
      cursors := Function.update h.cursors partId h.tch.cursorAddr }
  else h

/-- The cursor that a later call goes on with. -/
def takeCursor (partId : PartId) (h : HaCtcpart) : HaCtcpart :=
  if h.indexSorted then
    { h with
      cursorSet := cursorSetBit h.cursorSet partId
      tch := { h.tch with cursorAddr := h.cursors partId } }
  else h

/-- What the functions that start to read a partition have in common. -/
def startInPart (info : PartInfo) (read : HaCtcpart → List Request × HaCtcpart)
    (partId : PartId) (h : HaCtcpart) : List Request × HaCtcpart :=
  let done := read (setPartition info partId h)
  (done.1, keepCursor partId (resetPartition partId done.2))

/-- `index_first_in_part`. -/
def indexFirstInPart (info : PartInfo) (partId : PartId) (sess : Option UInt64)
    (freed : Option (Tch → Tch)) (answer : Answer) : HaCtcpart → List Request × HaCtcpart :=
  startInPart info (indexFirst sess freed answer) partId

/-- `index_last_in_part`. -/
def indexLastInPart (info : PartInfo) (partId : PartId) (sess : Option UInt64)
    (freed : Option (Tch → Tch)) (answer : Answer) : HaCtcpart → List Request × HaCtcpart :=
  startInPart info (indexRead sess freed answer) partId

/-- `index_read_map_in_part`. -/
def indexReadMapInPart (info : PartInfo) (partId : PartId) (sess : Option UInt64)
    (freed : Option (Tch → Tch)) (answer : Answer) : HaCtcpart → List Request × HaCtcpart :=
  startInPart info (indexRead sess freed answer) partId

/-- `index_read_last_map_in_part`. -/
def indexReadLastMapInPart (info : PartInfo) (partId : PartId) (sess : Option UInt64)
    (freed : Option (Tch → Tch)) (answer : Answer) : HaCtcpart → List Request × HaCtcpart :=
  startInPart info (indexRead sess freed answer) partId

/-- `read_range_first_in_part` of a partition that is not pruned. -/
def readRangeFirstInPart (info : PartInfo) (hasStartKey : Bool) (partId : PartId)
    (sess : Option UInt64) (freed : Option (Tch → Tch)) (answer : Answer) :
    HaCtcpart → List Request × HaCtcpart :=
  startInPart info
    (if hasStartKey then indexRead sess freed answer else indexFirst sess freed answer) partId

/-- What the functions that go on in a partition have in common. -/
def nextInPart (info : PartInfo) (partId : PartId) (answer : Answer) (h : HaCtcpart) :
    List Request × HaCtcpart :=
  let done := indexFetch answer (setPartition info partId (takeCursor partId h))
  (done.1, resetPartition partId done.2)

/-- What `update_row_in_part` and `delete_row_in_part` have in common; they do not set the ids. -/
def changeInPart (change : HaCtcpart → List Request × HaCtcpart) (partId : PartId)
    (h : HaCtcpart) : List Request × HaCtcpart :=
  let done := change (takeCursor partId h)
  (done.1, resetPartition partId done.2)

/-- `update_row_in_part`. -/
def updateRowInPart (partId : PartId) (lobs : List (Tch → Tch)) (answer : Answer) :
    HaCtcpart → List Request × HaCtcpart :=
  changeInPart (updateRow lobs answer) partId

/-- `delete_row_in_part`. -/
def deleteRowInPart (partId : PartId) (answer : Answer) :
    HaCtcpart → List Request × HaCtcpart :=
  changeInPart (deleteRow answer) partId

/-- `index_init`, once the server's own setup is done. -/
def indexInit (sorted : Bool) (sess : Option UInt64) (partId : PartId) (info : PartInfo)
    (h : HaCtcpart) : HaCtcpart :=
  let h := setPartition info partId { h with ordered := sorted }
  let tch := updateMemberTch sess h.tch
  let tch := if tch.cursorRef ≤ 0 then { tch with cursorRef := 0, cursorAddr := invalidValue64 }
    else tch
  resetPartition partId
    { h with
      indexSorted := sorted
      tch := { tch with cursorRef := tch.cursorRef + 1, cursorValid := false } }

/-- `ha_ctc::index_end`; a partitioned table is not a temporary one. -/
def baseIndexEnd (tch : Tch) : Tch :=
  { tch with
    cursorRef := tch.cursorRef - 1
    cursorValid := if tch.cursorRef - 1 ≤ 0 then false else tch.cursorValid }

/-- One round of the loop of `index_end`. -/
def endCursor (h : HaCtcpart) (partId : PartId) : HaCtcpart :=
  if cursorIsSet h.cursorSet partId then
    { h with
      tch := baseIndexEnd { h.tch with cursorAddr := h.cursors partId }
      cursorSet := cursorClearBit h.cursorSet partId }
  else h

/-- `index_end`. -/
def indexEnd (info : PartInfo) (h : HaCtcpart) : HaCtcpart :=
  if h.ordered then
    let h := info.used.foldl endCursor h
    { h with tch := { h.tch with part := Handler.resetPartition } }
  else
    { h with
      tch := { baseIndexEnd h.tch with
        part := Handler.resetPartition
        cursorRef := 0
        cursorValid := false } }

/-- A call between `index_init` and `index_end`. -/
inductive Call where
  | indexFirst (partId : PartId) (sess : Option UInt64) (freed : Option (Tch → Tch))
      (answer : Answer)
  | indexLast (partId : PartId) (sess : Option UInt64) (freed : Option (Tch → Tch))
      (answer : Answer)
  | indexReadMap (partId : PartId) (sess : Option UInt64) (freed : Option (Tch → Tch))
      (answer : Answer)
  | indexReadLastMap (partId : PartId) (sess : Option UInt64) (freed : Option (Tch → Tch))
      (answer : Answer)
  | readRangeFirst (hasStartKey : Bool) (partId : PartId) (sess : Option UInt64)
      (freed : Option (Tch → Tch)) (answer : Answer)
  /-- `index_next_in_part`, `index_prev_in_part`, `index_next_same_in_part` or
  `read_range_next_in_part`. -/
  | next (partId : PartId) (answer : Answer)
  | updateRow (partId : PartId) (lobs : List (Tch → Tch)) (answer : Answer)
  | deleteRow (partId : PartId) (answer : Answer)

def Call.partId : Call → PartId
  | .indexFirst partId _ _ _ | .indexLast partId _ _ _ | .indexReadMap partId _ _ _
  | .indexReadLastMap partId _ _ _ | .readRangeFirst _ partId _ _ _ | .next partId _
  | .updateRow partId _ _ | .deleteRow partId _ => partId

def Call.answer : Call → Answer
  | .indexFirst _ _ _ answer | .indexLast _ _ _ answer | .indexReadMap _ _ _ answer
  | .indexReadLastMap _ _ _ answer | .readRangeFirst _ _ _ _ answer | .next _ answer
  | .updateRow _ _ answer | .deleteRow _ answer => answer

/-- What the engine makes of the handle in the requests on the way. -/
def Call.replies : Call → List (Tch → Tch)
  | .indexFirst _ _ freed _ | .indexLast _ _ freed _ | .indexReadMap _ _ freed _
  | .indexReadLastMap _ _ freed _ | .readRangeFirst _ _ _ freed _ => freed.toList
  | .updateRow _ lobs _ => lobs
  | .next _ _ | .deleteRow _ _ => []

def step (info : PartInfo) (call : Call) : HaCtcpart → List Request × HaCtcpart :=
  match call with
  | .indexFirst partId sess freed answer => indexFirstInPart info partId sess freed answer
  | .indexLast partId sess freed answer => indexLastInPart info partId sess freed answer
  | .indexReadMap partId sess freed answer => indexReadMapInPart info partId sess freed answer
  | .indexReadLastMap partId sess freed answer =>
    indexReadLastMapInPart info partId sess freed answer
  | .readRangeFirst hasStartKey partId sess freed answer =>
    readRangeFirstInPart info hasStartKey partId sess freed answer
  | .next partId answer => nextInPart info partId answer
  | .updateRow partId lobs answer => updateRowInPart partId lobs answer
  | .deleteRow partId answer => deleteRowInPart partId answer

def run (info : PartInfo) (calls : List Call) (h : HaCtcpart) : HaCtcpart :=
  calls.foldl (fun h call => (step info call h).2) h

/-! ## What a scan promises -/

def Call.starts : Call → Bool
  | .next _ _ | .updateRow _ _ _ | .deleteRow _ _ => false
  | _ => true

/-- It reads from the beginning of the index. -/
def Call.fromFirst : Call → Bool
  | .indexFirst _ _ _ _ => true
  | .readRangeFirst hasStartKey _ _ _ _ => !hasStartKey
  | _ => false

def Call.changes : Call → Bool
  | .updateRow _ _ _ | .deleteRow _ _ => true
  | _ => false

/-- The cursor that the engine gave for the read. -/
def Answer.cursor? : Answer → Option UInt64
  | .reply tch => some tch.cursorAddr
  | _ => none

/-- The cursors that the engine has given for the partitions: that of the last starting read. -/
def Call.given (call : Call) (given : PartId → Option UInt64) : PartId → Option UInt64 :=
  if call.starts then Function.update given call.partId call.answer.cursor? else given

def givenBy (calls : List Call) : PartId → Option UInt64 :=
  calls.foldl (fun given call => call.given given) fun _ => none

/-- The engine leaves the ids and the cursor in the handle. -/
structure Keeps (reply : Tch → Tch) : Prop where
  part : ∀ tch, (reply tch).part = tch.part
  cursorAddr : ∀ tch, (reply tch).cursorAddr = tch.cursorAddr

/-- The requests on the way leave the ids and the cursor alone. -/
def Call.Steady (call : Call) : Prop := ∀ reply ∈ call.replies, Keeps reply

/-- A request of a call carries the ids of its partition, if the call is no change; it goes on with
the cursor of its partition; and a read from the beginning has no cursor. -/
structure Meets (info : PartInfo) (given : PartId → Option UInt64) (call : Call)
    (request : Request) : Prop where
  part : request.tch.part =
    if call.changes then Handler.resetPartition else info.part call.partId
  cursor : call.starts = false → ∀ cursorAddr, given call.partId = some cursorAddr →
    request.tch.cursorAddr = cursorAddr
  fresh : call.fromFirst = true →
    request.tch.cursorAddr = invalidValue64 ∧ request.tch.cursorValid = false

/-- What is kept between the calls of a sorted scan. -/
structure Scanning (given : PartId → Option UInt64) (h : HaCtcpart) : Prop where
  sorted : h.indexSorted = true
  part : h.tch.part = Handler.resetPartition
  cursors : ∀ partId cursorAddr, given partId = some cursorAddr → h.cursors partId = cursorAddr

/-- Of a sorted scan the partitions that were read are marked, of another scan none. -/
structure Marked (sorted : Bool) (touched : List PartId) (h : HaCtcpart) : Prop where
  indexSorted : h.indexSorted = sorted
  ordered : h.ordered = sorted
  bits : ∀ partId : PartId,
    cursorIsSet h.cursorSet partId = true ↔ sorted = true ∧ partId ∈ touched

/-- No partition is marked. -/
def Clean (h : HaCtcpart) : Prop :=
  ∀ partId : PartId, cursorIsSet h.cursorSet partId = false

/-! ## The bits as a bitmap -/

theorem one_shiftLeft_and (bit : Nat) : 1#32 <<< (bit &&& 7) = BitVec.twoPow 32 (bit % 8) := by
  rw [BitVec.twoPow_eq, show bit &&& 7 = bit % 8 from Nat.and_two_pow_sub_one_eq_mod bit 3]

theorem cursorSetBit_eq (cursorSet : Nat → BitVec 32) (bit : Nat) :
    cursorSetBit cursorSet bit = Bitmap.setBit 8 cursorSet bit := by
  unfold cursorSetBit Bitmap.setBit
  rw [one_shiftLeft_and]

theorem cursorClearBit_eq (cursorSet : Nat → BitVec 32) (bit : Nat) :
    cursorClearBit cursorSet bit = Bitmap.clearBit 8 cursorSet bit := by
  unfold cursorClearBit Bitmap.clearBit
  rw [one_shiftLeft_and]

theorem cursorIsSet_eq (cursorSet : Nat → BitVec 32) (bit : Nat) :
    cursorIsSet cursorSet bit = Bitmap.isSet 8 cursorSet bit := by
  unfold cursorIsSet
  rw [one_shiftLeft_and, Bitmap.isSet_eq_and_ne (by decide) (by decide)]
  rfl

@[simp] theorem cursorIsSet_set (cursorSet : Nat → BitVec 32) (m n : Nat) :
    cursorIsSet (cursorSetBit cursorSet m) n = (decide (n = m) || cursorIsSet cursorSet n) := by
  rw [cursorIsSet_eq, cursorIsSet_eq, cursorSetBit_eq,
    Bitmap.isSet_setBit (by decide) (by decide)]

@[simp] theorem cursorIsSet_clear (cursorSet : Nat → BitVec 32) (m n : Nat) :
    cursorIsSet (cursorClearBit cursorSet m) n = (decide (n ≠ m) && cursorIsSet cursorSet n) := by
  rw [cursorIsSet_eq, cursorIsSet_eq, cursorClearBit_eq,
    Bitmap.isSet_clearBit (by decide) (by decide)]

/-! ## One call -/

/-- The record of the cursors is left alone. -/
structure Frame (h h' : HaCtcpart) : Prop where
  indexSorted : h'.indexSorted = h.indexSorted
  ordered : h'.ordered = h.ordered
  cursors : h'.cursors = h.cursors
  cursorSet : h'.cursorSet = h.cursorSet

theorem Frame.trans {h₁ h₂ h₃ : HaCtcpart} (h : Frame h₁ h₂) (h' : Frame h₂ h₃) : Frame h₁ h₃ where
  indexSorted := h'.indexSorted.trans h.indexSorted
  ordered := h'.ordered.trans h.ordered
  cursors := h'.cursors.trans h.cursors
  cursorSet := h'.cursorSet.trans h.cursorSet

variable {info : PartInfo} {partId : PartId} {sess : Option UInt64} {answer : Answer}
  {freed : Option (Tch → Tch)} {h : HaCtcpart}

theorem setPartition_frame : Frame h (setPartition info partId h) := ⟨rfl, rfl, rfl, rfl⟩

theorem resetPartition_frame : Frame h (resetPartition partId h) := ⟨rfl, rfl, rfl, rfl⟩

theorem frame_tch (tch : Tch) : Frame h { h with tch := tch } := ⟨rfl, rfl, rfl, rfl⟩

theorem send_frame {op : Op} : Frame h (send op answer h).2 := by
  cases answer <;> exact ⟨rfl, rfl, rfl, rfl⟩

theorem mem_send {op : Op} {request : Request} (hmem : request ∈ (send op answer h).1) :
    request = ⟨op, h.tch⟩ := by
  cases answer with
  | early => cases hmem
  | unsent => cases hmem
  | reply tch => exact List.mem_singleton.mp hmem

theorem send_cursor {op : Op} {cursorAddr : UInt64} (hcursor : answer.cursor? = some cursorAddr) :
    (send op answer h).2.tch.cursorAddr = cursorAddr := by
  cases answer with
  | early => cases hcursor
  | unsent => cases hcursor
  | reply tch => exact Option.some.inj hcursor

theorem updateMemberTch_part (tch : Tch) : (updateMemberTch sess tch).part = tch.part := by
  cases sess <;> rfl

/-- A handle without a cursor gets none from the session. -/
theorem updateMemberTch_fresh {tch : Tch} (haddr : tch.cursorAddr = invalidValue64)
    (hvalid : tch.cursorValid = false) :
    (updateMemberTch sess tch).cursorAddr = invalidValue64 ∧
      (updateMemberTch sess tch).cursorValid = false := by
  cases sess with
  | none => exact ⟨haddr, hvalid⟩
  | some sessAddr =>
    refine ⟨?_, hvalid⟩
    show (if _ then _ else _) = _
    rw [haddr, ite_self]

/-- Freeing cursors changes no more than the handle. -/
theorem updateSessCtxCursorByTch_frame :
    Frame h (updateSessCtxCursorByTch freed h).2 := by
  unfold updateSessCtxCursorByTch
  split
  · exact frame_tch h.tch
  · cases freed with
    | none => exact frame_tch h.tch
    | some reply => exact frame_tch _

theorem op_of_mem_updateSessCtxCursorByTch {request : Request}
    (hmem : request ∈ (updateSessCtxCursorByTch freed h).1) : request.op = .freeCursors := by
  unfold updateSessCtxCursorByTch at hmem
  split at hmem
  · cases hmem
  · cases freed with
    | none => cases hmem
    | some reply => rw [List.mem_singleton.mp hmem]

theorem updateSessCtxCursorByTch_cursor (hkeeps : ∀ reply ∈ freed.toList, Keeps reply) :
    (updateSessCtxCursorByTch freed h).2.tch.cursorAddr = h.tch.cursorAddr := by
  unfold updateSessCtxCursorByTch
  split
  · rfl
  · cases freed with
    | none => rfl
    | some reply => exact (hkeeps reply List.mem_cons_self).cursorAddr h.tch

/-- What a read of the engine keeps and sends; it may free cursors behind its request. -/
structure ReadSpec (read : HaCtcpart → List Request × HaCtcpart) (answer : Answer)
    (replies : List (Tch → Tch)) (fromFirst : Bool) : Prop where
  frame : ∀ h, Frame h (read h).2
  part : ∀ h, ∀ request ∈ (read h).1, request.op ≠ .freeCursors →
    request.tch.part = h.tch.part
  fresh : fromFirst = true → ∀ h, ∀ request ∈ (read h).1, request.op ≠ .freeCursors →
    request.tch.cursorAddr = invalidValue64 ∧ request.tch.cursorValid = false
  cursor : (∀ reply ∈ replies, Keeps reply) → ∀ h cursorAddr,
    answer.cursor? = some cursorAddr → (read h).2.tch.cursorAddr = cursorAddr

/-- A read returns early, or it sends its request and then maybe frees cursors. -/
theorem indexRead_cases (sess : Option UInt64) (freed : Option (Tch → Tch)) (answer : Answer)
    (h : HaCtcpart) :
    indexRead sess freed answer h = ([], h) ∧ answer = .early ∨
      ∃ freed' : Option (Tch → Tch), (∀ reply ∈ freed'.toList, reply ∈ freed.toList) ∧
        indexRead sess freed answer h =
          let read := send .indexRead answer { h with tch := updateMemberTch sess h.tch }
          let done := updateSessCtxCursorByTch freed' read.2
          (read.1 ++ done.1, done.2) := by
  have hnone : ∀ h, updateSessCtxCursorByTch none h = ([], h) := fun h => ite_self _
  have hsent : answer ≠ .early → indexRead sess freed answer h =
      let read := send .indexRead answer { h with tch := updateMemberTch sess h.tch }
      let done := if !h.tch.cursorValid then updateSessCtxCursorByTch freed read.2
        else ([], read.2)
      (read.1 ++ done.1, done.2) := by
    intro hearly
    cases answer with
    | early => exact absurd rfl hearly
    | unsent => rfl
    | reply tch => rfl
  by_cases hearly : answer = .early
  · rw [hearly]
    exact .inl ⟨rfl, rfl⟩
  right
  cases hvalid : h.tch.cursorValid with
  | false =>
    refine ⟨freed, fun _ hmem => hmem, ?_⟩
    rw [hsent hearly, hvalid]
    rfl
  | true =>
    refine ⟨none, fun _ hmem => absurd hmem List.not_mem_nil, ?_⟩
    rw [hsent hearly, hvalid]
    dsimp only
    rw [hnone]
    rfl

theorem mem_indexRead {request : Request} (hmem : request ∈ (indexRead sess freed answer h).1)
    (hop : request.op ≠ .freeCursors) :
    request = ⟨.indexRead, updateMemberTch sess h.tch⟩ := by
  obtain ⟨hearly, -⟩ | ⟨freed', -, hsend⟩ := indexRead_cases sess freed answer h
  · rw [hearly] at hmem
    cases hmem
  · rw [hsend] at hmem
    obtain hread | hfree := List.mem_append.mp hmem
    · exact mem_send hread
    · exact absurd (op_of_mem_updateSessCtxCursorByTch hfree) hop

theorem indexRead_spec (sess : Option UInt64) (freed : Option (Tch → Tch)) (answer : Answer) :
    ReadSpec (indexRead sess freed answer) answer freed.toList false where
  frame h := by
    obtain ⟨hearly, -⟩ | ⟨freed', -, hsend⟩ := indexRead_cases sess freed answer h
    · rw [hearly]
      exact frame_tch h.tch
    · rw [hsend]
      exact ((frame_tch _).trans send_frame).trans updateSessCtxCursorByTch_frame
  part h request hmem hop := by
    rw [mem_indexRead hmem hop]
    exact updateMemberTch_part h.tch
  fresh hfirst := by cases hfirst
  cursor hkeeps h cursorAddr hcursor := by
    obtain ⟨-, rfl⟩ | ⟨freed', hfreed, hsend⟩ := indexRead_cases sess freed answer h
    · cases hcursor
    · rw [hsend]
      dsimp only
      rw [updateSessCtxCursorByTch_cursor fun reply hmem => hkeeps reply (hfreed reply hmem)]
      exact send_cursor hcursor

theorem indexFirst_spec (sess : Option UInt64) (freed : Option (Tch → Tch)) (answer : Answer) :
    ReadSpec (indexFirst sess freed answer) answer freed.toList true where
  frame h := by
    unfold indexFirst
    exact (frame_tch _).trans ((indexRead_spec sess freed answer).frame _)
  part h request hmem hop := by
    unfold indexFirst at hmem
    rw [(indexRead_spec sess freed answer).part _ request hmem hop]
  fresh _ h request hmem hop := by
    unfold indexFirst at hmem
    rw [mem_indexRead hmem hop]
    exact updateMemberTch_fresh rfl rfl
  cursor hkeeps h cursorAddr hcursor := by
    unfold indexFirst
    exact (indexRead_spec sess freed answer).cursor hkeeps _ cursorAddr hcursor

/-- The call of a starting read. -/
theorem exists_read (info : PartInfo) {call : Call} (hstarts : call.starts = true) :
    ∃ read, ReadSpec read call.answer call.replies call.fromFirst ∧
      step info call = startInPart info read call.partId := by
  cases call with
  | indexFirst partId sess freed answer => exact ⟨_, indexFirst_spec sess freed answer, rfl⟩
  | indexLast partId sess freed answer => exact ⟨_, indexRead_spec sess freed answer, rfl⟩
  | indexReadMap partId sess freed answer => exact ⟨_, indexRead_spec sess freed answer, rfl⟩
  | indexReadLastMap partId sess freed answer =>
    exact ⟨_, indexRead_spec sess freed answer, rfl⟩
  | readRangeFirst hasStartKey partId sess freed answer =>
    cases hasStartKey with
    | false => exact ⟨_, indexFirst_spec sess freed answer, rfl⟩
    | true => exact ⟨_, indexRead_spec sess freed answer, rfl⟩
  | next partId answer => cases hstarts
  | updateRow partId lobs answer => cases hstarts
  | deleteRow partId answer => cases hstarts

/-- What a change of a row keeps and sends. -/
structure ChangeSpec (change : HaCtcpart → List Request × HaCtcpart)
    (replies : List (Tch → Tch)) : Prop where
  frame : ∀ h, Frame h (change h).2
  carries : (∀ reply ∈ replies, Keeps reply) → ∀ h, ∀ request ∈ (change h).1,
    request.tch.part = h.tch.part ∧ request.tch.cursorAddr = h.tch.cursorAddr

theorem deleteRow_spec (answer : Answer) : ChangeSpec (deleteRow answer) [] where
  frame _ := send_frame
  carries _ h request hmem := by
    rw [mem_send hmem]
    exact ⟨rfl, rfl⟩

/-- The pieces of the LOBs hand the ids and the cursor on. -/
theorem writeLobs_spec (lobs : List (Tch → Tch)) (h : HaCtcpart) :
    Frame h (writeLobs lobs h).2 ∧ ((∀ reply ∈ lobs, Keeps reply) →
      (writeLobs lobs h).2.tch.part = h.tch.part ∧
        (writeLobs lobs h).2.tch.cursorAddr = h.tch.cursorAddr ∧
        ∀ request ∈ (writeLobs lobs h).1,
          request.tch.part = h.tch.part ∧ request.tch.cursorAddr = h.tch.cursorAddr) := by
  induction lobs generalizing h with
  | nil => exact ⟨frame_tch h.tch, fun _ => ⟨rfl, rfl, fun _ hmem => nomatch hmem⟩⟩
  | cons reply rest ih =>
    obtain ⟨hframe, hcarries⟩ := ih { h with tch := reply h.tch }
    refine ⟨(frame_tch _).trans hframe, ?_⟩
    intro hkeeps
    have hreply := hkeeps reply List.mem_cons_self
    obtain ⟨hpart, hcursor, hrequests⟩ :=
      hcarries fun later hmem => hkeeps later (List.mem_cons_of_mem reply hmem)
    refine ⟨hpart.trans (hreply.part _), hcursor.trans (hreply.cursorAddr _), ?_⟩
    intro request hmem
    obtain rfl | hrest := List.mem_cons.mp hmem
    · exact ⟨rfl, rfl⟩
    · obtain ⟨hpart', hcursor'⟩ := hrequests request hrest
      exact ⟨hpart'.trans (hreply.part _), hcursor'.trans (hreply.cursorAddr _)⟩

theorem updateRow_spec (lobs : List (Tch → Tch)) (answer : Answer) :
    ChangeSpec (updateRow lobs answer) lobs where
  frame h := (writeLobs_spec lobs h).1.trans send_frame
  carries hkeeps h request hmem := by
    obtain ⟨hpart, hcursor, hrequests⟩ := (writeLobs_spec lobs h).2 hkeeps
    obtain hlob | hupdate := List.mem_append.mp hmem
    · exact hrequests request hlob
    · rw [mem_send hupdate]
      exact ⟨hpart, hcursor⟩

/-- The call that goes on with a cursor. -/
theorem exists_change (info : PartInfo) {call : Call} (hstarts : call.starts = false) :
    (∃ change, ChangeSpec change call.replies ∧ call.changes = true ∧
        step info call = changeInPart change call.partId) ∨
      call.changes = false ∧ step info call = nextInPart info call.partId call.answer := by
  cases call with
  | next partId answer => exact .inr ⟨rfl, rfl⟩
  | updateRow partId lobs answer => exact .inl ⟨_, updateRow_spec lobs answer, rfl, rfl⟩
  | deleteRow partId answer => exact .inl ⟨_, deleteRow_spec answer, rfl, rfl⟩
  | _ => cases hstarts

theorem changes_of_starts {call : Call} (hstarts : call.starts = true) : call.changes = false := by
  cases call with
  | updateRow partId lobs answer => cases hstarts
  | deleteRow partId answer => cases hstarts
  | _ => rfl

theorem fromFirst_of_not_starts {call : Call} (hstarts : call.starts = false) :
    call.fromFirst = false := by
  cases call with
  | next partId answer => rfl
  | updateRow partId lobs answer => rfl
  | deleteRow partId answer => rfl
  | _ => cases hstarts

/-- What a call does to the record of the cursors. -/
structure Effect (call : Call) (h h' : HaCtcpart) : Prop where
  indexSorted : h'.indexSorted = h.indexSorted
  ordered : h'.ordered = h.ordered
  part : h'.tch.part = Handler.resetPartition
  cursorSet : h'.cursorSet =
    if h.indexSorted then cursorSetBit h.cursorSet call.partId else h.cursorSet
  cursors : h.indexSorted = true → ∀ partId, h'.cursors partId = h.cursors partId ∨
    call.starts = true ∧ partId = call.partId
  kept : call.Steady → h.indexSorted = true → call.starts = true → ∀ cursorAddr,
    call.answer.cursor? = some cursorAddr → h'.cursors call.partId = cursorAddr

theorem takeCursor_tch (hsorted : h.indexSorted = true) :
    (takeCursor partId h).tch.cursorAddr = h.cursors partId := by
  unfold takeCursor
  rw [if_pos hsorted]

theorem takeCursor_part : (takeCursor partId h).tch.part = h.tch.part := by
  unfold takeCursor
  split <;> rfl

theorem effect_of_frame {call : Call} {h' : HaCtcpart} (hstarts : call.starts = false)
    (hframe : Frame (takeCursor call.partId h) h') :
    Effect call h (resetPartition call.partId h') := by
  have htake : takeCursor call.partId h = if h.indexSorted then _ else _ := rfl
  refine ⟨?_, ?_, rfl, ?_, ?_, ?_⟩
  · show h'.indexSorted = _
    rw [hframe.indexSorted, htake]
    split <;> rfl
  · show h'.ordered = _
    rw [hframe.ordered, htake]
    split <;> rfl
  · show h'.cursorSet = _
    rw [hframe.cursorSet, htake]
    split <;> rfl
  · intro _ partId
    left
    show h'.cursors partId = _
    rw [hframe.cursors, htake]
    split <;> rfl
  · intro _ _ htrue
    rw [hstarts] at htrue
    cases htrue

theorem step_effect (info : PartInfo) (call : Call) (h : HaCtcpart) :
    Effect call h (step info call h).2 := by
  cases hstarts : call.starts with
  | true =>
    obtain ⟨read, hread, hstep⟩ := exists_read info hstarts
    rw [hstep]
    have hframe : Frame h (resetPartition call.partId (read (setPartition info call.partId h)).2) :=
      (setPartition_frame.trans (hread.frame _)).trans resetPartition_frame
    show Effect call h (keepCursor call.partId _)
    unfold keepCursor
    cases hsorted : h.indexSorted with
    | false =>
      rw [hframe.indexSorted, hsorted, if_neg (by decide)]
      refine ⟨hframe.indexSorted, hframe.ordered, rfl, ?_, ?_, ?_⟩
      · rw [hframe.cursorSet, hsorted, if_neg (by decide)]
      · intro htrue
        rw [hsorted] at htrue
        cases htrue
      · intro _ htrue
        rw [hsorted] at htrue
        cases htrue
    | true =>
      rw [hframe.indexSorted, hsorted, if_pos rfl]
      refine ⟨hsorted.symm, hframe.ordered, rfl, ?_, ?_, ?_⟩
      · show cursorSetBit _ _ = _
        rw [hframe.cursorSet, hsorted, if_pos rfl]
      · intro _ partId
        show Function.update _ _ _ partId = _ ∨ _
        by_cases hpart : partId = call.partId
        · exact .inr ⟨hstarts, hpart⟩
        · rw [Function.update_of_ne hpart, hframe.cursors]
          exact .inl rfl
      · intro hsteady _ _ cursorAddr hcursor
        show Function.update _ _ _ call.partId = _
        rw [Function.update_self]
        exact hread.cursor hsteady _ cursorAddr hcursor
  | false =>
    obtain ⟨change, hchange, -, hstep⟩ | ⟨-, hstep⟩ := exists_change info hstarts
    · rw [hstep]
      exact effect_of_frame hstarts (hchange.frame _)
    · rw [hstep]
      exact effect_of_frame hstarts (setPartition_frame.trans send_frame)

/-- The requests of one call. -/
theorem step_meets {given : PartId → Option UInt64} {call : Call} {request : Request}
    (hscan : Scanning given h) (hsteady : call.Steady) (hmem : request ∈ (step info call h).1)
    (hop : request.op ≠ .freeCursors) : Meets info given call request := by
  cases hstarts : call.starts with
  | true =>
    obtain ⟨read, hread, hstep⟩ := exists_read info hstarts
    rw [hstep] at hmem
    refine ⟨?_, ?_, ?_⟩
    · rw [changes_of_starts hstarts, if_neg (by decide)]
      exact hread.part _ request hmem hop
    · intro hfalse
      rw [hstarts] at hfalse
      cases hfalse
    · intro hfirst
      exact hread.fresh hfirst _ request hmem hop
  | false =>
    have hcursor : ∀ cursorAddr, given call.partId = some cursorAddr →
        (takeCursor call.partId h).tch.cursorAddr = cursorAddr := by
      intro cursorAddr hgiven
      rw [takeCursor_tch hscan.sorted]
      exact hscan.cursors _ _ hgiven
    have hfresh : call.fromFirst = true → request.tch.cursorAddr = invalidValue64 ∧
        request.tch.cursorValid = false := by
      intro hfirst
      rw [fromFirst_of_not_starts hstarts] at hfirst
      cases hfirst
    obtain ⟨change, hchange, hchanges, hstep⟩ | ⟨hchanges, hstep⟩ := exists_change info hstarts
    · rw [hstep] at hmem
      obtain ⟨hpart, haddr⟩ := hchange.carries hsteady _ request hmem
      refine ⟨?_, ?_, hfresh⟩
      · rw [hchanges, if_pos rfl, hpart]
        exact takeCursor_part.trans hscan.part
      · intro _ cursorAddr hgiven
        rw [haddr]
        exact hcursor cursorAddr hgiven
    · rw [hstep] at hmem
      obtain rfl := mem_send hmem
      refine ⟨?_, ?_, hfresh⟩
      · rw [hchanges, if_neg (by decide)]
        rfl
      · intro _ cursorAddr hgiven
        exact hcursor cursorAddr hgiven

/-! ## A scan -/

theorem Scanning.step {given : PartId → Option UInt64} (hscan : Scanning given h) (info : PartInfo)
    {call : Call} (hsteady : call.Steady) : Scanning (call.given given) (step info call h).2 := by
  have heffect := step_effect info call h
  refine ⟨heffect.indexSorted.trans hscan.sorted, heffect.part, ?_⟩
  intro partId cursorAddr hgiven
  unfold Call.given at hgiven
  cases hstarts : call.starts with
  | true =>
    rw [hstarts, if_pos rfl] at hgiven
    by_cases hpart : partId = call.partId
    · rw [hpart, Function.update_self] at hgiven
      rw [hpart]
      exact heffect.kept hsteady hscan.sorted hstarts cursorAddr hgiven
    · rw [Function.update_of_ne hpart] at hgiven
      obtain hsame | ⟨-, heq⟩ := heffect.cursors hscan.sorted partId
      · rw [hsame]
        exact hscan.cursors partId cursorAddr hgiven
      · exact absurd heq hpart
  | false =>
    rw [hstarts, if_neg (by decide)] at hgiven
    obtain hsame | ⟨htrue, -⟩ := heffect.cursors hscan.sorted partId
    · rw [hsame]
      exact hscan.cursors partId cursorAddr hgiven
    · rw [hstarts] at htrue
      cases htrue

theorem Scanning.run {given : PartId → Option UInt64} (hscan : Scanning given h)
    (info : PartInfo) (calls : List Call) (hsteady : ∀ call ∈ calls, call.Steady) :
    Scanning (calls.foldl (fun given call => call.given given) given) (run info calls h) := by
  induction calls generalizing given h with
  | nil => exact hscan
  | cons call rest ih =>
    have hstep := hscan.step info (hsteady call List.mem_cons_self)
    exact ih hstep fun later hmem => hsteady later (List.mem_cons_of_mem call hmem)

theorem Marked.step {sorted : Bool} {touched : List PartId} (hmarked : Marked sorted touched h)
    (info : PartInfo) (call : Call) :
    Marked sorted (touched ++ [call.partId]) (step info call h).2 := by
  have heffect := step_effect info call h
  refine ⟨heffect.indexSorted.trans hmarked.indexSorted,
    heffect.ordered.trans hmarked.ordered, ?_⟩
  intro partId
  rw [heffect.cursorSet, hmarked.indexSorted, List.mem_append, List.mem_singleton]
  have hbits := hmarked.bits partId
  cases sorted with
  | false =>
    simp only [Bool.false_eq_true, if_false, false_and] at hbits ⊢
    exact hbits
  | true =>
    simp only [true_and] at hbits
    simp only [if_true, true_and, cursorIsSet_set, Bool.or_eq_true, decide_eq_true_eq, hbits,
      Fin.val_inj]
    exact or_comm

theorem Marked.run {sorted : Bool} {touched : List PartId} (hmarked : Marked sorted touched h)
    (info : PartInfo) (calls : List Call) :
    Marked sorted (touched ++ calls.map Call.partId) (run info calls h) := by
  induction calls generalizing touched h with
  | nil =>
    rw [List.map_nil, List.append_nil]
    exact hmarked
  | cons call rest ih =>
    rw [List.map_cons, List.append_cons]
    exact ih (hmarked.step info call)

section

variable (sorted : Bool) (sess : Option UInt64) (partId : PartId) (info : PartInfo) (h : HaCtcpart)

theorem indexInit_cursorSet : (indexInit sorted sess partId info h).cursorSet = h.cursorSet :=
  rfl

theorem indexInit_ordered : (indexInit sorted sess partId info h).ordered = sorted :=
  rfl

theorem indexInit_scanning : Scanning (fun _ => none) (indexInit true sess partId info h) :=
  ⟨rfl, rfl, fun _ _ hnone => nomatch hnone⟩

theorem indexInit_marked (hclean : Clean h) :
    Marked sorted [] (indexInit sorted sess partId info h) := by
  refine ⟨rfl, indexInit_ordered sorted sess partId info h, ?_⟩
  intro part
  rw [indexInit_cursorSet, hclean part]
  simp only [Bool.false_eq_true, List.not_mem_nil, and_false]

end

/-- **Requests of a sorted scan.** Whatever was called since `index_init`, in whatever order of the
partitions, a request carries the ids of the partition of its call, and a call that goes on in a
partition goes on with the cursor that the engine gave when this partition was read last, if the
engine leaves the ids and the cursor alone when it writes LOBs and frees cursors. The requests of
`update_row_in_part` and `delete_row_in_part` have no ids, but the cursor. Not meant is the request
that frees cursors: it is one of the session. -/
theorem request_of_scan (info : PartInfo) (sess : Option UInt64) (first : PartId) (h : HaCtcpart)
    (calls : List Call) (call : Call) (hsteady : ∀ c ∈ call :: calls, c.Steady)
    (request : Request) (hop : request.op ≠ .freeCursors)
    (hmem : request ∈ (step info call (run info calls (indexInit true sess first info h))).1) :
    Meets info (givenBy calls) call request := by
  have hscan := (indexInit_scanning sess first info h).run info calls
    fun c hc => hsteady c (List.mem_cons_of_mem call hc)
  exact step_meets hscan (hsteady call List.mem_cons_self) hmem hop

/-- The answer of an engine that gives a cursor. -/
def cursorReply (cursorAddr : UInt64) : Answer :=
  .reply ⟨⟨0, 0⟩, 1, cursorAddr, 1, true⟩

/-- An engine that marks the cursor as valid. -/
def validReply (tch : Tch) : Tch := { tch with cursorValid := true }

theorem validReply_keeps : Keeps validReply := ⟨fun _ => rfl, fun _ => rfl⟩

def part3 : PartId := ⟨3, by decide⟩

def part11 : PartId := ⟨11, by decide⟩

/-- A table with two partitions. -/
def twoParts : PartInfo := ⟨none, [part3, part11], by decide⟩

def closedHandle : HaCtcpart :=
  ⟨⟨Handler.resetPartition, 1, invalidValue64, 0, false⟩, 0, false, false, fun _ => 0,
    fun _ => 0⟩

/-- Partitions 3 and 11 have their bits at the same position of two words; the second read frees
cursors. -/
def twoReads : List Call :=
  [.indexFirst part3 (some 1) none (cursorReply 70),
    .indexFirst part11 (some 1) (some validReply) (cursorReply 80)]

theorem request_of_scan_two :
    ∃ request ∈ (step twoParts (.updateRow part3 [validReply, validReply] (cursorReply 70))
        (run twoParts twoReads (indexInit true (some 1) part3 twoParts closedHandle))).1,
      request.op = .updateRow ∧ request.tch.cursorAddr = 70 ∧
        Meets twoParts (givenBy twoReads) (.updateRow part3 [validReply, validReply] (cursorReply 70))
          request := by
  have hsteady : ∀ c ∈ .updateRow part3 [validReply, validReply] (cursorReply 70) :: twoReads,
      c.Steady := by
    intro c hc reply hreply
    simp only [twoReads, List.mem_cons, List.not_mem_nil, or_false] at hc
    obtain rfl | rfl | rfl := hc
    · simp only [Call.replies, List.mem_cons, List.not_mem_nil, or_false, or_self] at hreply
      exact hreply ▸ validReply_keeps
    · cases hreply
    · obtain rfl := List.mem_singleton.mp hreply
      exact validReply_keeps
  -- it comes behind the two pieces of a LOB
  have hmem : (⟨.updateRow, ⟨Handler.resetPartition, 1, 70, 1, true⟩⟩ : Request) ∈
      (step twoParts (.updateRow part3 [validReply, validReply] (cursorReply 70))
        (run twoParts twoReads (indexInit true (some 1) part3 twoParts closedHandle))).1 :=
    .tail _ (.tail _ (.head _))
  refine ⟨_, hmem, rfl, rfl, ?_⟩
  exact request_of_scan twoParts (some 1) part3 closedHandle _ _ hsteady _ (by decide) hmem

/-! ## The end of a scan -/

theorem endCursor_cursorSet (h : HaCtcpart) (partId : PartId) (n : Nat) :
    cursorIsSet (endCursor h partId).cursorSet n =
      (decide (n ≠ partId) && cursorIsSet h.cursorSet n) := by
  unfold endCursor
  cases hset : cursorIsSet h.cursorSet partId with
  | true => rw [if_pos rfl, cursorIsSet_clear]
  | false =>
    rw [if_neg (by decide)]
    by_cases hn : n = partId
    · rw [hn, hset, Bool.and_false]
    · rw [decide_eq_true hn, Bool.true_and]

theorem endCursor_cursorRef (h : HaCtcpart) (partId : PartId) :
    (endCursor h partId).tch.cursorRef =
      h.tch.cursorRef - if cursorIsSet h.cursorSet partId then 1 else 0 := by
  unfold endCursor
  split
  · rfl
  · rw [Int.sub_zero]

/-- The loop takes one off the count for each partition that is marked, and unmarks it. -/
theorem foldl_endCursor (used : List PartId) (hnodup : used.Nodup) (h : HaCtcpart) :
    (∀ partId : PartId, cursorIsSet (used.foldl endCursor h).cursorSet partId =
      (decide (partId ∉ used) && cursorIsSet h.cursorSet partId)) ∧
    (used.foldl endCursor h).tch.cursorRef =
      h.tch.cursorRef -
        (used.filter fun partId : PartId => cursorIsSet h.cursorSet partId).length := by
  induction used generalizing h with
  | nil =>
    refine ⟨?_, (Int.sub_zero _).symm⟩
    intro partId
    simp only [List.foldl_nil, List.not_mem_nil, not_false_eq_true, decide_true, Bool.true_and]
  | cons first rest ih =>
    obtain ⟨hfirst, hrest⟩ := List.nodup_cons.mp hnodup
    obtain ⟨hbits, href⟩ := ih hrest (endCursor h first)
    refine ⟨?_, ?_⟩
    · intro partId
      rw [List.foldl_cons, hbits, endCursor_cursorSet, ← Bool.and_assoc, ← Bool.decide_and]
      congr 1
      rw [decide_eq_decide, List.mem_cons, not_or, and_comm, Fin.val_ne_iff]
    · have hsame : (rest.filter fun partId : PartId => cursorIsSet (endCursor h first).cursorSet partId) =
          rest.filter fun partId : PartId => cursorIsSet h.cursorSet partId := by
        apply List.filter_congr
        intro partId hmem
        have hne : (partId : Nat) ≠ first := by
          intro heq
          exact hfirst (Fin.ext heq ▸ hmem)
        rw [endCursor_cursorSet, decide_eq_true hne, Bool.true_and]
      rw [List.foldl_cons, href, hsame, endCursor_cursorRef, List.filter_cons]
      split
      · rw [List.length_cons]
        omega
      · omega

/-- A scan: the partitions of its statement, whether it is sorted, the session, its first partition
and its calls. -/
structure Scan where
  info : PartInfo
  sorted : Bool
  sess : Option UInt64
  first : PartId
  calls : List Call

/-- The handle before `index_end`. -/
def Scan.reads (h : HaCtcpart) (scan : Scan) : HaCtcpart :=
  Cursors.run scan.info scan.calls (indexInit scan.sorted scan.sess scan.first scan.info h)

def Scan.run (h : HaCtcpart) (scan : Scan) : HaCtcpart :=
  indexEnd scan.info (scan.reads h)

/-- The server reads the partitions that are used. -/
def Scan.OfUsed (scan : Scan) : Prop :=
  ∀ call ∈ scan.calls, call.partId ∈ scan.info.used

/-- What `index_end` leaves of a scan. -/
structure Ended (scan : Scan) (before after : HaCtcpart) : Prop where
  clean : Clean after
  part : after.tch.part = Handler.resetPartition
  cursorRef : after.tch.cursorRef =
    if scan.sorted then before.tch.cursorRef - (scan.calls.map Call.partId).toFinset.card else 0

theorem scan_ended (scan : Scan) (hused : scan.OfUsed) (hclean : Clean h) :
    Ended scan (scan.reads h) (scan.run h) := by
  have hmarked : Marked scan.sorted (scan.calls.map Call.partId) (scan.reads h) :=
    (indexInit_marked scan.sorted scan.sess scan.first scan.info h hclean).run scan.info scan.calls
  have hordered := hmarked.ordered
  unfold Scan.run indexEnd
  cases hsorted : scan.sorted with
  | false =>
    rw [hordered, hsorted, if_neg (by decide)]
    refine ⟨?_, rfl, ?_⟩
    · intro partId
      have hbits := hmarked.bits partId
      rw [hsorted] at hbits
      simp only [Bool.false_eq_true, false_and, iff_false, Bool.not_eq_true] at hbits
      exact hbits
    · rw [hsorted, if_neg (by decide)]
  | true =>
    rw [hordered, hsorted, if_pos rfl]
    have hbits : ∀ partId : PartId, cursorIsSet (scan.reads h).cursorSet partId = true ↔
        partId ∈ scan.calls.map Call.partId := by
      intro partId
      rw [hmarked.bits partId, hsorted]
      exact and_iff_right rfl
    obtain ⟨hend, href⟩ := foldl_endCursor scan.info.used scan.info.nodup (scan.reads h)
    refine ⟨?_, rfl, ?_⟩
    · intro partId
      show cursorIsSet (scan.info.used.foldl endCursor _).cursorSet partId = false
      rw [hend, Bool.and_eq_false_iff, decide_eq_false_iff_not, not_not]
      by_cases hmem : partId ∈ scan.calls.map Call.partId
      · obtain ⟨call, hcall, rfl⟩ := List.mem_map.mp hmem
        exact .inl (hused call hcall)
      · right
        rw [← Bool.not_eq_true, hbits]
        exact hmem
    · show (scan.info.used.foldl endCursor _).tch.cursorRef = _
      -- the marked partitions are those of the calls
      have htouched : (scan.info.used.filter fun partId : PartId =>
          cursorIsSet (scan.reads h).cursorSet partId).toFinset =
          (scan.calls.map Call.partId).toFinset := by
        ext partId
        rw [List.mem_toFinset, List.mem_filter, hbits, List.mem_toFinset]
        refine ⟨And.right, fun hmem => ⟨?_, hmem⟩⟩
        obtain ⟨call, hcall, rfl⟩ := List.mem_map.mp hmem
        exact hused call hcall
      rw [href, hsorted, if_pos rfl, ← htouched,
        List.toFinset_card_of_nodup (scan.info.nodup.filter _)]

theorem scans_clean (scans : List Scan) (hused : ∀ scan ∈ scans, scan.OfUsed)
    (hclean : Clean h) : Clean (scans.foldl Scan.run h) := by
  induction scans generalizing h with
  | nil => exact hclean
  | cons scan rest ih =>
    apply ih
    · exact fun later hlater => hused later (List.mem_cons_of_mem scan hlater)
    · exact (scan_ended scan (hused scan List.mem_cons_self) hclean).clean

/-- **The end of a scan.** After any number of scans, `index_end` leaves no partition marked and no ids
in the handle. `index_init` has counted a sorted scan once; `index_end` takes one off the count for
each partition that was read. -/
theorem scan_ends (scans : List Scan) (scan : Scan) (hused : ∀ s ∈ scan :: scans, s.OfUsed)
    (h : HaCtcpart) (hclean : Clean h) :
    Ended scan (scan.reads (scans.foldl Scan.run h)) (scan.run (scans.foldl Scan.run h)) := by
  apply scan_ended scan (hused scan List.mem_cons_self)
  exact scans_clean scans (fun s hs => hused s (List.mem_cons_of_mem scan hs)) hclean

/-- A table with one partition. -/
def onePart : PartInfo := ⟨none, [part3], by decide⟩

/-- A scan of one partition, and behind it one of two. -/
def oneScan : Scan :=
  ⟨onePart, true, some 1, part3, [.indexFirst part3 (some 1) none (cursorReply 60)]⟩

def twoScan : Scan :=
  ⟨twoParts, true, some 1, part3, twoReads ++ [.next part3 (cursorReply 70)]⟩

/-- `index_end` takes two off the count of one. -/
theorem scan_ends_two :
    (twoScan.run (oneScan.run closedHandle)).tch.cursorRef = -1 ∧
      Ended twoScan (twoScan.reads (oneScan.run closedHandle))
        (twoScan.run (oneScan.run closedHandle)) := by
  refine ⟨rfl, ?_⟩
  apply scan_ends [oneScan] _ _ closedHandle
  · intro partId
    rw [cursorIsSet_eq]
    exact BitVec.getLsbD_zero
  · intro scan hscan
    simp only [List.mem_cons, List.not_mem_nil, or_false] at hscan
    obtain rfl | rfl := hscan
    · unfold Scan.OfUsed
      decide
    · unfold Scan.OfUsed
      decide

end CantianConnector.Partition.Cursors
