import Mathlib.Algebra.GroupWithZero.Nat
import Mathlib.Data.List.Basic
import Mathlib.Logic.Function.Basic

/-!
# Scans with a prefetch buffer

`rnd_next`, `index_fetch` and `index_read` of `ha_ctc` with the functions they share:
`prefetch_and_fill_record_buffer`, `fill_record_to_rec_buffer`, `reset_rec_buf`, `position`, and
`set_prefetch_buffer` for the start of a scan.

The engine is a parameter. `m_prefetch_buf` is the list of the rows it holds, found by their
offsets, and a MySQL record is represented by the row that was converted into it: the
conversion is applied to every row in the same way.
-/

namespace CantianConnector.Handler

/-! ## Constants -/

/-- `MAX_RECORD_SIZE`, the size of `m_prefetch_buf`. -/
def maxRecordSize : Nat := 65536

/-- `MAX_PREFETCH_REC_NUM`, which is also `max_prefetch_num`. -/
def maxPrefetchRecNum : Nat := 100

/-- `MAX_RECORD_BUFFER_SIZE_CTC`. -/
def maxRecordBufferSize : Nat := 65536

/-- `CT_MAX_RECORD_LENGTH`. -/
def ctMaxRecordLength : Nat := 64000

/-- `INVALID_MAX_UINT32`. -/
def invalidMaxUint32 : Nat := 4294967295

/-! ## Rows, buffers and the engine -/

/-- A row as the engine hands it out. A reply with `record_len` 0 is no row. -/
structure Row (ρ : Type) where
  rowid : UInt64
  len : Nat
  record : ρ
  len_pos : 0 < len

/-- The bytes some rows take in `m_prefetch_buf`. -/
def totalLen {ρ : Type} (rows : List (Row ρ)) : Nat := (rows.map Row.len).sum

/-- The row that begins at an offset of `m_prefetch_buf`. -/
def rowAt {ρ : Type} : List (Row ρ) → Nat → Option (Row ρ)
  | [], _ => none
  | row :: rest, off =>
    if off = 0 then some row
    else if off < row.len then none
    else rowAt rest (off - row.len)

/-- The server's `Record_buffer`. A slot that was never written holds no row. -/
structure RecordBuffer (ρ : Type) where
  maxRecords : Nat
  count : Nat := 0
  slots : Nat → Option (Row ρ) := fun _ => none
  outOfRange : Bool := false

namespace RecordBuffer

variable {ρ : Type}

/-- `add_record()`, with what is then converted into the slot. -/
def addRecord (buf : RecordBuffer ρ) (row : Option (Row ρ)) : RecordBuffer ρ :=
  { buf with count := buf.count + 1, slots := Function.update buf.slots buf.count row }

def reset (buf : RecordBuffer ρ) : RecordBuffer ρ := { buf with count := 0, outOfRange := false }

def clear (buf : RecordBuffer ρ) : RecordBuffer ρ := { buf with count := 0 }

end RecordBuffer

/-- The engine's side of a scan: its cursor is of type `σ`, a search key of type `κ`. Error codes
are those that `check_error_code_to_mysql` leaves. -/
structure Engine (σ ρ κ : Type) where
  rndNext : σ → Except Int (Option (Row ρ)) × σ
  rndPrefetch : Nat → σ → Except Int (List (Row ρ)) × σ
  generalFetch : σ → Except Int (Option (Row ρ)) × σ
  generalPrefetch : Nat → σ → Except Int (List (Row ρ)) × σ
  indexRead : κ → σ → Except Int (Option (Row ρ)) × σ
  position : σ → UInt64

/-- The members of `ha_ctc` that a scan uses. -/
structure HaCtc (σ ρ : Type) where
  tch : σ
  recBuf : Option (RecordBuffer ρ)
  prefetchBuf : List (Row ρ)
  recordLens : List Nat
  rowids : List UInt64
  actualFetchedNums : Nat
  curPosInBuf : Nat
  curOffInPrefetchBuf : Nat
  curFillBufIndex : Nat

/-- What a read call returns. A row is the one left in `buf`. -/
inductive Outcome (ρ : Type) where
  | row (buf : Option (Row ρ))
  | endOfFile
  | keyNotFound
  | error (code : Int)

section

variable {σ ρ κ : Type}

/-! ## The record buffer -/

/-- `reset_rec_buf`. -/
def resetRecBuf (isPrefetch : Bool) (h : HaCtc σ ρ) : HaCtc σ ρ :=
  { h with
    curPosInBuf := if isPrefetch then 0 else invalidMaxUint32
    recBuf := h.recBuf.map RecordBuffer.reset }

/-- The variables of the loops that fill the record buffer. -/
structure FillState (ρ : Type) where
  buf : RecordBuffer ρ
  off : Nat
  index : Nat

/-- At most `n` records, as long as `cur_fill_buf_index` is below the bound. -/
def fillLoop (prefetchBuf : List (Row ρ)) (recordLens : List Nat) (bound : Nat) :
    Nat → FillState ρ → FillState ρ
  | 0, st => st
  | n + 1, st =>
    if st.index < bound then
      fillLoop prefetchBuf recordLens bound n
        { buf := st.buf.addRecord (rowAt prefetchBuf st.off)
          off := st.off + recordLens.getD st.index 0
          index := st.index + 1 }
    else st

/-- Has the engine no more rows? It fills a batch up to the last row that may not fit. -/
def isOutOfRange (recLen off fetched : Nat) : Bool :=
  decide (off ≤ maxRecordSize - recLen) && decide (fetched < maxPrefetchRecNum)

/-- Storing the loop's variables and the flag at the end of both filling functions. -/
def finishFill (recLen : Nat) (h : HaCtc σ ρ) (st : FillState ρ) : HaCtc σ ρ :=
  { h with
    curOffInPrefetchBuf := st.off
    curFillBufIndex := st.index
    recBuf := some
      { st.buf with outOfRange := isOutOfRange recLen st.off h.actualFetchedNums } }

/-- `fill_record_to_rec_buffer`. -/
def fillRecordToRecBuffer (recLen : Nat) (h : HaCtc σ ρ) (buf : RecordBuffer ρ) : HaCtc σ ρ :=
  finishFill recLen h
    (fillLoop h.prefetchBuf h.recordLens h.actualFetchedNums buf.maxRecords
      ⟨buf.clear, h.curOffInPrefetchBuf, h.curFillBufIndex⟩)

/-- What a prefetch leaves in `m_prefetch_buf`, `m_record_lens` and `m_rowids`: the arrays keep
their entries beyond the rows fetched. -/
def storeBatch (h : HaCtc σ ρ) (batch : List (Row ρ)) : HaCtc σ ρ :=
  { h with
    prefetchBuf := if batch.isEmpty then h.prefetchBuf else batch
    recordLens := batch.map Row.len ++ h.recordLens.drop batch.length
    rowids := batch.map Row.rowid ++ h.rowids.drop batch.length }

/-- `prefetch_and_fill_record_buffer`. The first row goes to `buf`, not to the record buffer. -/
def prefetchAndFillRecordBuffer (recLen : Nat)
    (prefetch : Nat → σ → Except Int (List (Row ρ)) × σ) (h : HaCtc σ ρ)
    (buf : RecordBuffer ρ) : Outcome ρ × HaCtc σ ρ :=
  match prefetch recLen h.tch with
  | (.error code, tch) => (.error code, { h with tch := tch })
  | (.ok batch, tch) =>
    let h := storeBatch { h with tch := tch } batch
    let fetchedNum := batch.length
    if fetchedNum = 0 then (.endOfFile, h)
    else
      let h := resetRecBuf true { h with actualFetchedNums := fetchedNum }
      let filledNum := if fetchedNum ≤ buf.maxRecords + 1 then fetchedNum else buf.maxRecords + 1
      (.row (rowAt h.prefetchBuf 0),
        finishFill recLen h
          (fillLoop h.prefetchBuf h.recordLens filledNum (filledNum - 1)
            ⟨buf.reset, h.recordLens.getD 0 0, 1⟩))

/-! ## Reading -/

/-- `process_cantian_record`; `rcRet` is returned when the engine has no row. -/
def processCantianRecord (rcRet : Outcome ρ) :
    Except Int (Option (Row ρ)) → Outcome ρ
  | .error code => .error code
  | .ok none => rcRet
  | .ok (some row) => .row (some row)

/-- What `rnd_next` and `index_fetch` have in common. -/
def fetchNext (recLen : Nat) (next : σ → Except Int (Option (Row ρ)) × σ)
    (prefetch : Nat → σ → Except Int (List (Row ρ)) × σ) (h : HaCtc σ ρ) :
    Outcome ρ × HaCtc σ ρ :=
  match h.recBuf with
  | none => (processCantianRecord .endOfFile (next h.tch).1, { h with tch := (next h.tch).2 })
  | some buf =>
    if buf.maxRecords = 0 then
      (processCantianRecord .endOfFile (next h.tch).1, { h with tch := (next h.tch).2 })
    else if buf.count ≠ 0 then
      -- `actual_fetched_nums - 1` is unsigned
      if (h.actualFetchedNums + (2 ^ 32 - 1)) % 2 ^ 32 ≤ h.curPosInBuf then
        let h := { h with curPosInBuf := invalidMaxUint32 }
        if buf.outOfRange then (.endOfFile, h)
        else prefetchAndFillRecordBuffer recLen prefetch h buf
      else
        let row := buf.slots (h.curPosInBuf % buf.maxRecords)
        let h := { h with curPosInBuf := h.curPosInBuf + 1 }
        (.row row,
          if h.curPosInBuf % buf.maxRecords = 0 then fillRecordToRecBuffer recLen h buf else h)
    else prefetchAndFillRecordBuffer recLen prefetch h buf

/-- `m_rec_buf->records()`, 0 without a buffer. -/
def records (h : HaCtc σ ρ) : Nat := (h.recBuf.map RecordBuffer.count).getD 0

variable (engine : Engine σ ρ κ) (recLen : Nat)

/-- `rnd_next`. A DDL statement that is passed through reads no rows; rows already in the buffer
are not affected. -/
def rndNext (passthru : Bool) (h : HaCtc σ ρ) : Outcome ρ × HaCtc σ ρ :=
  if records h = 0 ∧ passthru then (.endOfFile, h)
  else fetchNext recLen engine.rndNext engine.rndPrefetch h

/-- `index_fetch`. -/
def indexFetch (h : HaCtc σ ρ) : Outcome ρ × HaCtc σ ρ :=
  fetchNext recLen engine.generalFetch engine.generalPrefetch h

/-- `index_read`. The key is an error when it could not be converted. The buffer and the cursor
are reset only if the buffer holds rows. -/
def indexRead (key : Except Int κ) (h : HaCtc σ ρ) : Outcome ρ × HaCtc σ ρ :=
  let h := if 0 < records h then resetRecBuf false h else h
  match key with
  | .error code => (.error code, h)
  | .ok key =>
    (processCantianRecord .keyNotFound (engine.indexRead key h.tch).1,
      { h with tch := (engine.indexRead key h.tch).2 })

/-- `position`. -/
def position (h : HaCtc σ ρ) : Option UInt64 :=
  if h.curPosInBuf = invalidMaxUint32 then some (engine.position h.tch)
  else h.rowids[h.curPosInBuf]?

/-! ## The start of a scan -/

/-- `set_prefetch_buffer`: a new buffer if the statement may prefetch. -/
def setPrefetchBuffer (canPrefetchRecords : Bool) (recBuffLength : Nat) :
    Option (RecordBuffer ρ) :=
  if canPrefetchRecords then
    let maxRows := maxPrefetchRecNum
    let maxRows :=
      if maxRecordBufferSize / recBuffLength < maxRows then maxRecordBufferSize / recBuffLength
      else maxRows
    let maxRows := if maxPrefetchRecNum - 1 < maxRows then maxPrefetchRecNum - 1 else maxRows
    some { maxRecords := maxRows }
  else none

/-- What `rnd_init` and `index_init` do with the members of a scan. -/
def initScan (canPrefetchRecords : Bool) (recBuffLength : Nat) (tch : σ) (h : HaCtc σ ρ) :
    HaCtc σ ρ :=
  resetRecBuf false
    { h with recBuf := setPrefetchBuffer canPrefetchRecords recBuffLength, tch := tch }

end

/-! ## Filling the record buffer -/

section

variable {ρ : Type} {batch : List (Row ρ)}

theorem totalLen_take_succ {k : Nat} {row : Row ρ} (h : batch[k]? = some row) :
    totalLen (batch.take (k + 1)) = totalLen (batch.take k) + row.len := by
  unfold totalLen
  rw [List.take_add_one, h]
  simp

/-- A row begins where the rows before it end. -/
theorem rowAt_totalLen (batch : List (Row ρ)) (k : Nat) :
    rowAt batch (totalLen (batch.take k)) = batch[k]? := by
  induction batch generalizing k with
  | nil => rfl
  | cons row rest ih =>
    cases k with
    | zero => rfl
    | succ k =>
      have hpos := row.len_pos
      have hsum : totalLen ((row :: rest).take (k + 1)) = row.len + totalLen (rest.take k) := rfl
      rw [hsum, rowAt, if_neg (by omega), if_neg (by omega), Nat.add_sub_cancel_left, ih,
        List.getElem?_cons_succ]

/-- The lengths of a batch stand at the front of `m_record_lens`. -/
def LensOf (batch : List (Row ρ)) (recordLens : List Nat) : Prop :=
  ∀ k row, batch[k]? = some row → recordLens.getD k 0 = row.len

/-- What a filling loop does: rows from `old.index` on go to the slots from `old.buf.count` on. -/
structure Fills (batch : List (Row ρ)) (bound n : Nat) (old new : FillState ρ) : Prop where
  index : new.index = min bound (old.index + n)
  off : new.off = totalLen (batch.take new.index)
  count : new.buf.count = old.buf.count + (new.index - old.index)
  maxRecords : new.buf.maxRecords = old.buf.maxRecords
  slots : ∀ j < new.index - old.index,
    new.buf.slots (old.buf.count + j) = batch[old.index + j]?
  kept : ∀ j < old.buf.count, new.buf.slots j = old.buf.slots j

theorem fillLoop_spec {recordLens : List Nat} (hLens : LensOf batch recordLens) {bound : Nat}
    (hBound : bound ≤ batch.length) (n : Nat) {st : FillState ρ} (hIndex : st.index ≤ bound)
    (hOff : st.off = totalLen (batch.take st.index)) :
    Fills batch bound n st (fillLoop batch recordLens bound n st) := by
  induction n generalizing st with
  | zero =>
    refine ⟨?_, hOff, ?_, rfl, ?_, ?_⟩
    · rw [fillLoop, Nat.add_zero, Nat.min_eq_right hIndex]
    · rw [fillLoop, Nat.sub_self, Nat.add_zero]
    · intro j hj
      rw [fillLoop, Nat.sub_self] at hj
      omega
    · intro j _
      rfl
  | succ n ih =>
    rw [fillLoop]
    by_cases hlt : st.index < bound
    · rw [if_pos hlt]
      obtain ⟨row, hrow⟩ : ∃ row, batch[st.index]? = some row :=
        ⟨_, List.getElem?_eq_getElem (by omega)⟩
      have hlen := hLens _ _ hrow
      have hstep : Fills batch bound n _ _ :=
        @ih ⟨st.buf.addRecord (rowAt batch st.off), st.off + recordLens.getD st.index 0,
          st.index + 1⟩ hlt (by rw [hlen, hOff, totalLen_take_succ hrow])
      generalize fillLoop batch recordLens bound n _ = new at hstep ⊢
      obtain ⟨hindex, hoff, hcount, hmax, hslots, hkept⟩ := hstep
      simp only [RecordBuffer.addRecord] at hindex hoff hcount hmax hslots hkept
      refine ⟨?_, hoff, ?_, hmax, ?_, ?_⟩
      · rw [hindex]
        omega
      · rw [hcount]
        omega
      · intro j hj
        cases j with
        | zero =>
          have hfirst := hkept st.buf.count (by omega)
          rw [Nat.add_zero, Nat.add_zero]
          refine hfirst.trans ?_
          rw [Function.update_self, hOff, rowAt_totalLen]
        | succ j =>
          have hnext := hslots j (by omega)
          have hslot : st.buf.count + (j + 1) = st.buf.count + 1 + j := by omega
          have hsrc : st.index + (j + 1) = st.index + 1 + j := by omega
          rw [hslot, hsrc]
          exact hnext
      · intro j hj
        refine (hkept j (by omega)).trans ?_
        rw [Function.update_of_ne (by omega)]
    · rw [if_neg hlt]
      refine ⟨by omega, hOff, by omega, rfl, ?_, ?_⟩
      · intro j hj
        omega
      · intro j _
        rfl

end

/-! ## The branches of a read -/

section

variable {σ ρ : Type} {recLen : Nat} {next : σ → Except Int (Option (Row ρ)) × σ}
  {prefetch : Nat → σ → Except Int (List (Row ρ)) × σ} {h : HaCtc σ ρ} {buf : RecordBuffer ρ}

/-- Whatever was fetched, an invalid cursor is behind it. -/
theorem fetched_sub_one_le_invalid (fetched : Nat) :
    (fetched + (2 ^ 32 - 1)) % 2 ^ 32 ≤ invalidMaxUint32 := by
  have hlt := Nat.mod_lt (fetched + (2 ^ 32 - 1)) (Nat.two_pow_pos 32)
  unfold invalidMaxUint32
  omega

/-- Without room in a record buffer rows are read one by one. -/
def Direct (h : HaCtc σ ρ) : Prop := ∀ buf, h.recBuf = some buf → buf.maxRecords = 0

theorem fetchNext_direct (hd : Direct h) : fetchNext recLen next prefetch h =
    (processCantianRecord .endOfFile (next h.tch).1, { h with tch := (next h.tch).2 }) := by
  unfold fetchNext
  split
  · rfl
  · rename_i buf hbuf
    rw [if_pos (hd buf hbuf)]

/-- With room in a record buffer, the buffer decides. -/
theorem fetchNext_of_room (hbuf : h.recBuf = some buf) (hmax : buf.maxRecords ≠ 0) :
    fetchNext recLen next prefetch h =
      if buf.count ≠ 0 then
        if (h.actualFetchedNums + (2 ^ 32 - 1)) % 2 ^ 32 ≤ h.curPosInBuf then
          if buf.outOfRange then (.endOfFile, { h with curPosInBuf := invalidMaxUint32 })
          else prefetchAndFillRecordBuffer recLen prefetch
            { h with curPosInBuf := invalidMaxUint32 } buf
        else
          (.row (buf.slots (h.curPosInBuf % buf.maxRecords)),
            if (h.curPosInBuf + 1) % buf.maxRecords = 0 then
              fillRecordToRecBuffer recLen { h with curPosInBuf := h.curPosInBuf + 1 } buf
            else { h with curPosInBuf := h.curPosInBuf + 1 })
      else prefetchAndFillRecordBuffer recLen prefetch h buf := by
  unfold fetchNext
  split
  · rename_i hnone
    rw [hbuf] at hnone
    cases hnone
  · rename_i buf' hbuf'
    obtain rfl : buf = buf' := Option.some.inj (hbuf.symm.trans hbuf')
    exact if_neg hmax

theorem fetchNext_empty (hbuf : h.recBuf = some buf) (hmax : buf.maxRecords ≠ 0)
    (hcount : buf.count = 0) :
    fetchNext recLen next prefetch h = prefetchAndFillRecordBuffer recLen prefetch h buf := by
  rw [fetchNext_of_room hbuf hmax, if_neg (not_not_intro hcount)]

theorem fetchNext_behind (hbuf : h.recBuf = some buf) (hmax : buf.maxRecords ≠ 0)
    (hcount : buf.count ≠ 0)
    (hcur : (h.actualFetchedNums + (2 ^ 32 - 1)) % 2 ^ 32 ≤ h.curPosInBuf) :
    fetchNext recLen next prefetch h =
      if buf.outOfRange then (.endOfFile, { h with curPosInBuf := invalidMaxUint32 })
      else prefetchAndFillRecordBuffer recLen prefetch
        { h with curPosInBuf := invalidMaxUint32 } buf := by
  rw [fetchNext_of_room hbuf hmax, if_pos hcount, if_pos hcur]

theorem fetchNext_buffered (hbuf : h.recBuf = some buf) (hmax : buf.maxRecords ≠ 0)
    (hcount : buf.count ≠ 0)
    (hcur : ¬ (h.actualFetchedNums + (2 ^ 32 - 1)) % 2 ^ 32 ≤ h.curPosInBuf) :
    fetchNext recLen next prefetch h =
      (.row (buf.slots (h.curPosInBuf % buf.maxRecords)),
        if (h.curPosInBuf + 1) % buf.maxRecords = 0 then
          fillRecordToRecBuffer recLen { h with curPosInBuf := h.curPosInBuf + 1 } buf
        else { h with curPosInBuf := h.curPosInBuf + 1 }) := by
  rw [fetchNext_of_room hbuf hmax, if_pos hcount, if_neg hcur]

end

/-! ## Reading a batch -/

/-- The rows of a batch read before the buffer was last filled: the buffer holds the rows after
row `segment m p` when row `p` was returned last. -/
def segment (m p : Nat) : Nat := p / m * m

section

variable {m p : Nat}

theorem mod_eq_sub_segment : p % m = p - segment m p := by
  have h := Nat.div_add_mod' p m
  unfold segment
  omega

theorem segment_bounds (hm : 0 < m) : segment m p ≤ p ∧ p < segment m p + m := by
  have h := Nat.div_add_mod' p m
  have hlt := Nat.mod_lt p hm
  unfold segment
  omega

theorem segment_zero : segment m 0 = 0 := by
  rw [segment, Nat.zero_div, Nat.zero_mul]

theorem segment_succ_of_dvd (h : (p + 1) % m = 0) :
    segment m (p + 1) = p + 1 ∧ segment m p + m = p + 1 := by
  have hdvd := Nat.dvd_of_mod_eq_zero h
  have hsucc : (p + 1) / m = p / m + 1 := Nat.succ_div_of_dvd hdvd
  have hself : (p + 1) / m * m = p + 1 := Nat.div_mul_cancel hdvd
  refine ⟨hself, ?_⟩
  unfold segment
  rw [← hself, hsucc, Nat.succ_mul]

theorem segment_succ_of_not_dvd (h : ¬ (p + 1) % m = 0) : segment m (p + 1) = segment m p := by
  have hdvd : ¬ m ∣ p + 1 := by
    intro hd
    exact h (Nat.mod_eq_zero_of_dvd hd)
  unfold segment
  rw [Nat.succ_div_of_not_dvd hdvd]

end

/-- The batch stands in the prefetch buffer and its arrays. -/
structure Fetched {σ ρ : Type} (h : HaCtc σ ρ) (batch : List (Row ρ)) : Prop where
  prefetchBuf : h.prefetchBuf = batch
  lens : LensOf batch h.recordLens
  rowids : ∀ (k : Nat) (row : Row ρ), batch[k]? = some row → h.rowids[k]? = some row.rowid
  fetched : h.actualFetchedNums = batch.length
  length_le : batch.length ≤ maxPrefetchRecNum

/-- Row `p` of the batch was returned last, and the buffer holds the rows that follow its
segment. -/
structure Reading {σ ρ : Type} (recLen : Nat) (h : HaCtc σ ρ) (buf : RecordBuffer ρ)
    (batch : List (Row ρ)) (p : Nat) : Prop extends Fetched h batch where
  recBuf : h.recBuf = some buf
  max_pos : 0 < buf.maxRecords
  pos : h.curPosInBuf = p
  lt : p < batch.length
  index : h.curFillBufIndex =
    min batch.length (segment buf.maxRecords p + buf.maxRecords + 1)
  off : h.curOffInPrefetchBuf = totalLen (batch.take h.curFillBufIndex)
  count : buf.count = h.curFillBufIndex - (segment buf.maxRecords p + 1)
  slots : ∀ j < buf.count, buf.slots j = batch[segment buf.maxRecords p + 1 + j]?
  flag : buf.outOfRange = isOutOfRange recLen h.curOffInPrefetchBuf batch.length

section

variable {σ ρ : Type} {recLen : Nat} {next : σ → Except Int (Option (Row ρ)) × σ}
  {prefetch : Nat → σ → Except Int (List (Row ρ)) × σ} {h : HaCtc σ ρ} {buf : RecordBuffer ρ}
  {batch : List (Row ρ)} {p : Nat}

/-- An empty buffer has been read to the end of the batch. -/
theorem Reading.last_of_count (hr : Reading recLen h buf batch p) (hcount : buf.count = 0) :
    p + 1 = batch.length := by
  have hpos := hr.max_pos
  have hbounds := @segment_bounds buf.maxRecords p hpos
  have hlt := hr.lt
  have hc := hr.count
  rw [hr.index] at hc
  omega

/-- Behind the last row of a batch the whole batch has been filled in. -/
theorem Reading.index_of_last (hr : Reading recLen h buf batch p) (hlast : p + 1 = batch.length) :
    h.curFillBufIndex = batch.length := by
  have hbounds := @segment_bounds buf.maxRecords p hr.max_pos
  rw [hr.index]
  omega

/-- `actual_fetched_nums - 1` does not wrap around. -/
theorem Reading.fetched_sub_one (hr : Reading recLen h buf batch p) :
    (h.actualFetchedNums + (2 ^ 32 - 1)) % 2 ^ 32 = batch.length - 1 := by
  have hlt := hr.lt
  have hle := hr.length_le
  unfold maxPrefetchRecNum at hle
  rw [hr.fetched]
  omega

/-- Filling the buffer from the row after a segment on. -/
theorem reading_of_fills {bound n : Nat} {old new : FillState ρ} (hf : Fills batch bound n old new)
    (hFetched : Fetched h batch) (hpos : h.curPosInBuf = p) (hlt : p < batch.length)
    (hmax : 0 < old.buf.maxRecords) (hcount : old.buf.count = 0)
    (hold : old.index = segment old.buf.maxRecords p + 1)
    (hnew : new.index =
      min batch.length (segment old.buf.maxRecords p + old.buf.maxRecords + 1)) :
    Reading recLen (finishFill recLen h new)
      { new.buf with outOfRange := isOutOfRange recLen new.off h.actualFetchedNums } batch p where
  prefetchBuf := hFetched.prefetchBuf
  lens := hFetched.lens
  rowids := hFetched.rowids
  fetched := hFetched.fetched
  length_le := hFetched.length_le
  recBuf := rfl
  max_pos := by
    rw [← hf.maxRecords] at hmax
    exact hmax
  pos := hpos
  lt := hlt
  index := by
    rw [← hf.maxRecords] at hnew
    exact hnew
  off := hf.off
  count := by
    have h := hf.count
    rw [hcount, hold, Nat.zero_add, ← hf.maxRecords] at h
    exact h
  slots := by
    intro j hj
    have hlen : j < new.index - old.index := by
      have h := hf.count
      rw [hcount, Nat.zero_add] at h
      rw [← h]
      exact hj
    have hslot := hf.slots j hlen
    rw [hcount, hold, Nat.zero_add, ← hf.maxRecords] at hslot
    exact hslot
  flag := by
    rw [hFetched.fetched]
    rfl

/-- The refill of `fill_record_to_rec_buffer` at the beginning of a segment. -/
theorem fillRecordToRecBuffer_reading (hFetched : Fetched h batch) (hpos : h.curPosInBuf = p)
    (hlt : p < batch.length) (hmax : 0 < buf.maxRecords)
    (hindex : h.curFillBufIndex = segment buf.maxRecords p + 1)
    (hle : h.curFillBufIndex ≤ batch.length)
    (hoff : h.curOffInPrefetchBuf = totalLen (batch.take h.curFillBufIndex)) :
    ∃ buf', Reading recLen (fillRecordToRecBuffer recLen h buf) buf' batch p := by
  have hfill := @fillLoop_spec ρ batch h.recordLens hFetched.lens batch.length (Nat.le_refl _)
    buf.maxRecords ⟨buf.clear, h.curOffInPrefetchBuf, h.curFillBufIndex⟩ hle hoff
  rw [fillRecordToRecBuffer, hFetched.prefetchBuf, hFetched.fetched]
  refine ⟨_, reading_of_fills hfill hFetched hpos hlt hmax rfl hindex ?_⟩
  rw [hfill.index]
  change min batch.length (h.curFillBufIndex + buf.maxRecords) =
    min batch.length (segment buf.maxRecords p + buf.maxRecords + 1)
  omega

/-- The next row of the batch comes from the record buffer, which is refilled behind its last
row. -/
theorem fetchNext_reading (hr : Reading recLen h buf batch p) (hlt : p + 1 < batch.length) :
    ∃ h' buf', fetchNext recLen next prefetch h = (.row batch[p + 1]?, h') ∧ h'.tch = h.tch ∧
      Reading recLen h' buf' batch (p + 1) := by
  have hpos := hr.max_pos
  have hbounds := @segment_bounds buf.maxRecords p hpos
  have hindex := hr.index
  have hcount : buf.count ≠ 0 := by
    intro hzero
    have := hr.last_of_count hzero
    omega
  have hslot : buf.slots (h.curPosInBuf % buf.maxRecords) = batch[p + 1]? := by
    rw [hr.pos, mod_eq_sub_segment, hr.slots]
    · congr 1
      omega
    · have hc := hr.count
      omega
  have hcur : ¬ (h.actualFetchedNums + (2 ^ 32 - 1)) % 2 ^ 32 ≤ h.curPosInBuf := by
    rw [hr.fetched_sub_one, hr.pos]
    omega
  rw [fetchNext_buffered hr.recBuf (Nat.ne_of_gt hpos) hcount hcur, hslot, hr.pos]
  have hFetched : Fetched { h with curPosInBuf := p + 1 } batch :=
    ⟨hr.prefetchBuf, hr.lens, hr.rowids, hr.fetched, hr.length_le⟩
  by_cases hdvd : (p + 1) % buf.maxRecords = 0
  · obtain ⟨hnew, hold⟩ := segment_succ_of_dvd hdvd
    rw [if_pos hdvd]
    obtain ⟨buf', hr'⟩ := @fillRecordToRecBuffer_reading σ ρ recLen _ buf batch (p + 1) hFetched rfl
      hlt hpos (by simp only; omega) (by simp only; omega) hr.off
    exact ⟨_, buf', rfl, rfl, hr'⟩
  · rw [if_neg hdvd]
    have hseg := segment_succ_of_not_dvd hdvd
    refine ⟨_, buf, rfl, rfl, ?_⟩
    exact
      { hFetched with
        recBuf := hr.recBuf, max_pos := hpos, pos := rfl, lt := hlt, off := hr.off
        flag := hr.flag
        index := by rw [hseg]; exact hr.index
        count := by rw [hseg]; exact hr.count
        slots := by rw [hseg]; exact hr.slots }

theorem getElem?_map_append_drop {α β : Type} {f : α → β} {xs : List α} {old : List β} {k : Nat}
    {x : α} (hx : xs[k]? = some x) : (xs.map f ++ old.drop xs.length)[k]? = some (f x) := by
  obtain ⟨hlt, -⟩ := List.getElem?_eq_some_iff.mp hx
  rw [List.getElem?_append_left (by simpa using hlt), List.getElem?_map, hx]
  rfl

/-- The members after the reply of the engine and the reset of the cursor. -/
theorem fetched_storeBatch (hne : batch ≠ []) (hle : batch.length ≤ maxPrefetchRecNum) :
    Fetched (resetRecBuf true { storeBatch h batch with actualFetchedNums := batch.length })
      batch where
  prefetchBuf := by
    have hempty : ¬ batch.isEmpty = true := by
      rw [List.isEmpty_iff]
      exact hne
    exact if_neg hempty
  lens := by
    intro k row hrow
    have hget : (batch.map Row.len ++ h.recordLens.drop batch.length)[k]? = some row.len :=
      getElem?_map_append_drop hrow
    rw [List.getD_eq_getElem?_getD]
    exact congrArg (fun o => o.getD 0) hget
  rowids := by
    intro k row hrow
    exact getElem?_map_append_drop hrow
  fetched := rfl
  length_le := hle

/-- A batch of at least one row: its first row is returned at once. -/
theorem prefetch_reading {row : Row ρ} {rest : List (Row ρ)} {tch : σ}
    (hmax : 0 < buf.maxRecords) (hreply : prefetch recLen h.tch = (.ok (row :: rest), tch))
    (hle : (row :: rest).length ≤ maxPrefetchRecNum) :
    ∃ h' buf', prefetchAndFillRecordBuffer recLen prefetch h buf = (.row (some row), h') ∧
      h'.tch = tch ∧ Reading recLen h' buf' (row :: rest) 0 := by
  have hFetched := @fetched_storeBatch σ ρ { h with tch := tch } (row :: rest) (by simp) hle
  unfold prefetchAndFillRecordBuffer
  rw [hreply]
  simp only
  rw [if_neg (show ¬ (row :: rest).length = 0 by simp)]
  generalize hh : resetRecBuf true
    { storeBatch { h with tch := tch } (row :: rest) with
      actualFetchedNums := (row :: rest).length } = h1 at hFetched ⊢
  have htch : h1.tch = tch := by
    rw [← hh]
    rfl
  have hcur : h1.curPosInBuf = 0 := by
    rw [← hh]
    rfl
  have hfirst : rowAt h1.prefetchBuf 0 = some row := by
    rw [hFetched.prefetchBuf]
    rfl
  have hlens : h1.recordLens.getD 0 0 = totalLen ((row :: rest).take 1) := by
    rw [hFetched.lens 0 row rfl]
    simp [totalLen]
  generalize hfilled : (if (row :: rest).length ≤ buf.maxRecords + 1 then (row :: rest).length
    else buf.maxRecords + 1) = filledNum
  have hmin : filledNum = min (row :: rest).length (buf.maxRecords + 1) := by
    rw [← hfilled]
    split <;> omega
  have hlen : (row :: rest).length = rest.length + 1 := rfl
  have hfill := @fillLoop_spec ρ (row :: rest) h1.recordLens hFetched.lens filledNum
    (by omega) (filledNum - 1) ⟨buf.reset, h1.recordLens.getD 0 0, 1⟩ (by simp only; omega) hlens
  rw [hfirst, hFetched.prefetchBuf]
  have hnew : (fillLoop (row :: rest) h1.recordLens filledNum (filledNum - 1)
      ⟨buf.reset, h1.recordLens.getD 0 0, 1⟩).index =
      min (row :: rest).length (segment buf.maxRecords 0 + buf.maxRecords + 1) := by
    rw [hfill.index, segment_zero]
    change min filledNum (1 + (filledNum - 1)) = _
    omega
  have hold : 1 = segment buf.maxRecords 0 + 1 := by rw [segment_zero]
  have hr := @reading_of_fills σ ρ recLen h1 (row :: rest) 0 _ _ _ _ hfill hFetched hcur
    (by omega) hmax rfl hold hnew
  exact ⟨_, _, rfl, htch, hr⟩

/-- An empty batch ends the scan. -/
theorem prefetch_empty {tch : σ} (hreply : prefetch recLen h.tch = (.ok [], tch)) :
    prefetchAndFillRecordBuffer recLen prefetch h buf = (.endOfFile, { h with tch := tch }) := by
  unfold prefetchAndFillRecordBuffer
  rw [hreply]
  rfl

end

end CantianConnector.Handler
