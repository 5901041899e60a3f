import CantianConnector.Handler.Prefetch
import CantianConnector.Lib.Machine
import CantianConnector.Lib.Threads

/-!
# The parallel reader

`rnd_next_block` of `CtcParallelReaderHandler` serves any number of consumers from `m_worker_count`
work tuples and as many frame buffers. A call takes a buffer and a copy of a work tuple under
`m_worker_mutex`, works on the copy without the lock, and writes it back. What a call does between
two locks is one step here, and the steps of different consumers interleave.

A consumer is a data frame: a thread that uses several frames at a time counts as several
consumers. The engine hands out the rows of a scan range in batches, and no rows once it has
handed out all of them.
-/

namespace CantianConnector.ParallelReader

open CantianConnector.Handler (Row rowAt totalLen LensOf maxPrefetchRecNum)

/-! ## Frame buffers -/

/-- `m_my_buf_for_read` and `m_buf_for_read_count`, the index of the next buffer to hand out. -/
structure BufPool (β : Type) where
  myBufForRead : List β
  bufForReadCount : Int
deriving DecidableEq, Repr

variable {β ρ κ : Type} {W : Nat}

/-- Handing out a buffer, unless all of them are out. -/
def BufPool.take (pool : BufPool β) : Option (β × BufPool β) :=
  if pool.bufForReadCount < 0 then none
  else
    match pool.myBufForRead[pool.bufForReadCount.toNat]? with
    | some buf => some (buf, { pool with bufForReadCount := pool.bufForReadCount - 1 })
    | none => none

/-- `reset_data_frame` for a frame that has a buffer. -/
def BufPool.resetDataFrame (pool : BufPool β) (buf : β) : BufPool β :=
  ⟨pool.myBufForRead.set (pool.bufForReadCount + 1).toNat buf, pool.bufForReadCount + 1⟩

/-! ## Work tuples -/

/-- `pq_work_tuple`. `cursor` has the rows that the engine has left for the tuple's cursor. -/
structure WorkTuple (ρ : Type) where
  cursorValid : Bool
  prefetchBuf : List (Row ρ)
  currentOffset : Nat
  currentEntryIndex : Nat
  recordLens : List Nat
  fetchedNum : Nat
  inUse : Bool
  cursor : List (Row ρ)

/-- A work tuple after `initialize`. -/
def WorkTuple.init : WorkTuple ρ :=
  ⟨false, [], 0, 0, List.replicate maxPrefetchRecNum 0, 0, false, []⟩

/-- The tuple has rows left over, or a cursor whose end has not been seen. -/
def WorkTuple.fetched (t : WorkTuple ρ) : Bool := t.cursorValid && t.fetchedNum ≠ 0

/-- `get_work_tuple`. -/
def getWorkTuple (workTuples : Fin W → WorkTuple ρ) : Option (Fin W) :=
  ((List.finRange W).find? fun i => (workTuples i).fetched && !(workTuples i).inUse).or
    ((List.finRange W).find? fun i => !(workTuples i).inUse)

/-- The rows in the buffer of the tuple are used up. -/
def WorkTuple.exhausted (t : WorkTuple ρ) : Bool :=
  t.fetchedNum ≤ t.currentEntryIndex || t.fetchedNum = 0

/-- `BIG_RECORD_SIZE`, the size of a frame buffer. -/
def bigRecordSize : Nat := 65536

/-- The loop of `convert_prefetch_buffer_to_mysql`, with `m_actual_data_size` bytes in the frame.
A row in the frame is the one that was converted into it. -/
def convertLoop (rowLen : Nat) (t : WorkTuple ρ) (actualDataSize : Nat) :
    List (Option (Row ρ)) × WorkTuple ρ :=
  if t.currentEntryIndex < t.fetchedNum then
    let row := rowAt t.prefetchBuf t.currentOffset
    let t' := { t with
      currentOffset := t.currentOffset + t.recordLens.getD t.currentEntryIndex 0
      currentEntryIndex := t.currentEntryIndex + 1 }
    if bigRecordSize ≤ actualDataSize + rowLen + rowLen then ([row], t')
    else
      let rest := convertLoop rowLen t' (actualDataSize + rowLen)
      (row :: rest.1, rest.2)
  else ([], t)
termination_by t.fetchedNum - t.currentEntryIndex

/-- `convert_prefetch_buffer_to_mysql`. -/
def convertPrefetchBufferToMysql (rowLen : Nat) (t : WorkTuple ρ) :
    List (Option (Row ρ)) × WorkTuple ρ :=
  convertLoop rowLen t 0

/-- The tuple after `ctc_rnd_prefetch` has returned a batch. -/
def WorkTuple.load (t : WorkTuple ρ) (batch rest : List (Row ρ)) : WorkTuple ρ :=
  { t with
    prefetchBuf := batch
    recordLens := batch.map Row.len ++ t.recordLens.drop batch.length
    fetchedNum := batch.length
    currentEntryIndex := 0
    currentOffset := 0
    cursor := rest }

/-- The tuple after a failed `ctc_rnd_prefetch`: the indexes are reset as after a batch, and the
engine may have given up some rows. -/
def WorkTuple.rewind (t : WorkTuple ρ) (rest : List (Row ρ)) : WorkTuple ρ :=
  { t with currentEntryIndex := 0, currentOffset := 0, cursor := rest }

def WorkTuple.use (t : WorkTuple ρ) : WorkTuple ρ := { t with inUse := true }

def WorkTuple.release (t : WorkTuple ρ) : WorkTuple ρ := { t with inUse := false }

/-! ## Consumers -/

/-- A frame that was returned, and whether a prefetch failed in its call. -/
structure Frame (ρ : Type) where
  rows : List (Option (Row ρ))
  failed : Bool

/-- Where a consumer stands. One that `owes` has had rows since it last saw an empty frame. -/
inductive Consumer (β ρ : Type) (W : Nat)
  | idle (owes : Bool)
  | fetching (i : Fin W) (buf : β) (t : WorkTuple ρ) (needNewRange : Bool)
  | prefetching (i : Fin W) (buf : β) (t : WorkTuple ρ)
  | converting (i : Fin W) (buf : β) (t : WorkTuple ρ) (failed : Bool)
  | emptied (buf : β)
  | holding (buf : β)

/-- The call has a buffer and a tuple: it converts what is left over, or fetches first. -/
def Consumer.start (i : Fin W) (buf : β) (t : WorkTuple ρ) : Consumer β ρ W :=
  if t.exhausted then .fetching i buf t false else .converting i buf t false

/-- A handler with its consumers. `lost` has the rows that failed engine calls have given up, and
`drained` says that a consumer has got an empty frame although it had a buffer and a tuple. -/
structure PqSys (β ρ κ : Type) (W : Nat) where
  workTuples : Fin W → WorkTuple ρ
  pool : BufPool β
  paralRange : List (List (Row ρ))
  consumer : κ → Consumer β ρ W
  returned : List (Frame ρ)
  lost : List (Row ρ)
  drained : Bool

/-- After `initialize` and `save_task`. -/
def PqSys.init (bufs : List β) (ranges : List (List (Row ρ))) : PqSys β ρ κ W where
  workTuples _ := WorkTuple.init
  pool := ⟨bufs, (W : Int) - 1⟩
  paralRange := ranges
  consumer _ := .idle false
  returned := []
  lost := []
  drained := false

inductive PqLabel (κ : Type)
  | turnedAway (c : κ)
  | take (c : κ)
  | prepare (c : κ)
  | prepareFailed (c : κ)
  | prefetch (c : κ)
  | prefetchFailed (c : κ)
  | convert (c : κ)
  | resetDataFrame (c : κ)

section

variable [DecidableEq κ] (rowLen : Nat)

/-- A step of a consumer. -/
inductive PqStep (s : PqSys β ρ κ W) : PqLabel κ → PqSys β ρ κ W → Prop
  -- no buffer or no work tuple: an empty frame without a buffer
  | turnedAway (c : κ) (owes : Bool) (hpc : s.consumer c = .idle owes)
      (hnone : s.pool.take = none ∨ getWorkTuple s.workTuples = none) :
    PqStep s (.turnedAway c) { s with consumer := Function.update s.consumer c (.idle false) }
  | take (c : κ) (owes : Bool) (i : Fin W) (buf : β) (pool : BufPool β)
      (hpc : s.consumer c = .idle owes) (hbuf : s.pool.take = some (buf, pool))
      (htuple : getWorkTuple s.workTuples = some i) :
    PqStep s (.take c)
      { s with
        workTuples := Function.update s.workTuples i (s.workTuples i).use
        pool := pool
        consumer := Function.update s.consumer c (.start i buf (s.workTuples i).use) }
  -- `prepare_work_tuple` with a cursor that may still have rows
  | prepareCursor (c : κ) (i : Fin W) (buf : β) (t : WorkTuple ρ)
      (hpc : s.consumer c = .fetching i buf t false) (hvalid : t.cursorValid = true) :
    PqStep s (.prepare c)
      { s with consumer := Function.update s.consumer c (.prefetching i buf t) }
  | prepareNoRange (c : κ) (i : Fin W) (buf : β) (t : WorkTuple ρ) (needNewRange : Bool)
      (hpc : s.consumer c = .fetching i buf t needNewRange)
      (hneed : t.cursorValid = false ∨ needNewRange = true) (hrange : s.paralRange = []) :
    PqStep s (.prepare c)
      { s with consumer := Function.update s.consumer c (.converting i buf t false) }
  | prepareRange (c : κ) (i : Fin W) (buf : β) (t : WorkTuple ρ) (needNewRange : Bool)
      (range : List (Row ρ)) (ranges : List (List (Row ρ)))
      (hpc : s.consumer c = .fetching i buf t needNewRange)
      (hneed : t.cursorValid = false ∨ needNewRange = true)
      (hrange : s.paralRange = range :: ranges) :
    PqStep s (.prepare c)
      { s with
        paralRange := ranges
        consumer := Function.update s.consumer c
          (.prefetching i buf { t with cursorValid := true, cursor := range }) }
  -- `ctc_rnd_end`, `ctc_rnd_init` or `ctc_pq_set_cursor_range` fails: the range is gone, and
  -- a cursor without a range has no rows
  | prepareFailed (c : κ) (i : Fin W) (buf : β) (t : WorkTuple ρ) (needNewRange : Bool)
      (range : List (Row ρ)) (ranges : List (List (Row ρ))) (cursorValid : Bool)
      (hpc : s.consumer c = .fetching i buf t needNewRange)
      (hneed : t.cursorValid = false ∨ needNewRange = true)
      (hrange : s.paralRange = range :: ranges) :
    PqStep s (.prepareFailed c)
      { s with
        paralRange := ranges
        lost := s.lost ++ range
        consumer := Function.update s.consumer c
          (.converting i buf { t with cursorValid := cursorValid, cursor := [] } false) }
  | prefetchRows (c : κ) (i : Fin W) (buf : β) (t : WorkTuple ρ) (batch rest : List (Row ρ))
      (hpc : s.consumer c = .prefetching i buf t) (hbatch : t.cursor = batch ++ rest)
      (hne : batch ≠ []) (hmax : batch.length ≤ maxPrefetchRecNum) :
    PqStep s (.prefetch c)
      { s with
        consumer := Function.update s.consumer c (.converting i buf (t.load batch rest) false) }
  | prefetchEnd (c : κ) (i : Fin W) (buf : β) (t : WorkTuple ρ)
      (hpc : s.consumer c = .prefetching i buf t) (hend : t.cursor = []) :
    PqStep s (.prefetch c)
      { s with
        consumer := Function.update s.consumer c (.fetching i buf { t with fetchedNum := 0 } true) }
  | prefetchFailed (c : κ) (i : Fin W) (buf : β) (t : WorkTuple ρ) (gone rest : List (Row ρ))
      (hpc : s.consumer c = .prefetching i buf t) (hrest : t.cursor = gone ++ rest) :
    PqStep s (.prefetchFailed c)
      { s with
        lost := s.lost ++ gone
        consumer := Function.update s.consumer c (.converting i buf (t.rewind rest) true) }
  -- the frame is filled and the tuple written back
  | convert (c : κ) (i : Fin W) (buf : β) (t t' : WorkTuple ρ) (failed : Bool)
      (rows : List (Option (Row ρ))) (hpc : s.consumer c = .converting i buf t failed)
      (hdone : convertPrefetchBufferToMysql rowLen t = (rows, t')) :
    PqStep s (.convert c)
      { s with
        workTuples := Function.update s.workTuples i t'.release
        returned := s.returned ++ [⟨rows, failed⟩]
        drained := s.drained || (rows.length * rowLen = 0 && !failed)
        consumer := Function.update s.consumer c
          (if rows.length * rowLen = 0 then .emptied buf else .holding buf) }
  -- `rnd_next_block` gives the buffer of an empty frame back itself
  | resetEmptied (c : κ) (buf : β) (hpc : s.consumer c = .emptied buf) :
    PqStep s (.resetDataFrame c)
      { s with
        pool := s.pool.resetDataFrame buf
        consumer := Function.update s.consumer c (.idle false) }
  | resetHolding (c : κ) (buf : β) (hpc : s.consumer c = .holding buf) :
    PqStep s (.resetDataFrame c)
      { s with
        pool := s.pool.resetDataFrame buf
        consumer := Function.update s.consumer c (.idle true) }

/-- A step whose label meets the guard. -/
def PqMove (guard : PqSys β ρ κ W → PqLabel κ → Prop) (s s' : PqSys β ρ κ W) : Prop :=
  ∃ label, guard s label ∧ PqStep rowLen s label s'

end

end CantianConnector.ParallelReader
