import CantianConnector.Convert.Result
import Mathlib.Algebra.GroupWithZero.Nat

/-!
# Messages in slices

`ctc_mq_fill_batch_data` cuts a buffer into segments of at most `CTC_MQ_MESSAGE_SLICE_LEN` bytes
of shared memory, and `ctc_mq_get_batch_data` copies the segments back once the server has
answered. The length of the buffer and the length of the data in it are counted down separately:
the segments behind the data are room for the answer.

The allocator of the shared memory is a parameter. A block comes with the bytes it happens to
hold, and an access outside of a block is `Failure.undefined`.
-/

namespace CantianConnector.Mq

open CantianConnector.Convert (Build Failure Result cAssert cAssert_true result_bind_ok)

/-! ## Messages -/

/-- `CTC_MQ_MESSAGE_SLICE_LEN`. -/
def ctcMqMessageSliceLen : Nat := 102400

/-- `DSW_MESSAGE_SEGMENT_NUM_MAX`, the size of `seg_desc` and `seg_buf`. -/
def dswMessageSegmentNumMax : Nat := 512

def ctSuccess : Int := 0

def errAllocMemory : Int := 1

def errGenericInternalError : Int := 299

def errSemFault : Int := 4000

def errBatchDataHandleFailed : Int := 4001

def errShmSendMsgFailed : Int := 4002

/-- A block of shared memory. -/
structure Block where
  addr : Nat
  bytes : List UInt8
deriving DecidableEq, Repr

/-- An entry of `seg_desc` with its `seg_buf`; `none` is a null pointer. -/
structure Segment where
  type : Nat
  length : Nat
  buf : Option Block
deriving DecidableEq, Repr

/-- The bytes of a segment. -/
def Segment.bytes (seg : Segment) : List UInt8 :=
  match seg.buf with
  | some block => block.bytes
  | none => []

/-- The segments one after the other. -/
def contents (segs : List Segment) : List UInt8 := segs.flatMap Segment.bytes

/-! ## The functions -/

section

variable {σ : Type}

/-- What filling a message leaves behind: the first `seg_num` segments and the addresses that
were passed to `shm_free`. -/
structure Filled (σ : Type) where
  shm : σ
  segs : List Segment
  freed : List Nat

/-- `batch_free_shm_buf`. -/
def batchFreeShmBuf (segs : List Segment) : List Nat :=
  segs.filterMap fun seg => seg.buf.map Block.addr

/-- The length of the next slice of `len` bytes. -/
def sliceLen (len : Nat) : Nat := if ctcMqMessageSliceLen < len then ctcMqMessageSliceLen else len

theorem sliceLen_pos {len : Nat} (h : len ≠ 0) : 0 < sliceLen len := by
  unfold sliceLen ctcMqMessageSliceLen
  split <;> omega

/-- The next segment, in a fresh block: the data, then what the block held. -/
def nextSegment (block : Block) (bufTmp : List UInt8) (dataLen tmpLen : Nat) : Segment where
  type := 0
  length := sliceLen tmpLen
  buf := some { block with
    bytes := bufTmp.take (sliceLen dataLen) ++ block.bytes.drop (sliceLen dataLen) }

@[simp] theorem nextSegment_length (block : Block) (bufTmp : List UInt8) (dataLen tmpLen : Nat) :
    (nextSegment block bufTmp dataLen tmpLen).length = sliceLen tmpLen := rfl

@[simp] theorem nextSegment_bytes (block : Block) (bufTmp : List UInt8) (dataLen tmpLen : Nat) :
    (nextSegment block bufTmp dataLen tmpLen).bytes =
      bufTmp.take (sliceLen dataLen) ++ block.bytes.drop (sliceLen dataLen) := rfl

variable (alloc : Nat → σ → Option Block × σ)

/-- The loop of `ctc_mq_fill_batch_data`: `tmpLen` bytes of the buffer are left, `dataLen` bytes of
them, which stand at `bufTmp`, are data. -/
def fillLoop (bufTmp : List UInt8) (dataLen tmpLen : Nat) (st : Filled σ) :
    Result (Int × Filled σ) :=
  if hdone : tmpLen = 0 then .ok (ctSuccess, st)
  else if dswMessageSegmentNumMax ≤ st.segs.length then .error .undefined
  else
    match alloc (sliceLen tmpLen) st.shm with
    | (none, shm) =>
      .ok (errAllocMemory, { st with shm := shm, freed := st.freed ++ batchFreeShmBuf st.segs })
    | (some block, shm) =>
      -- behind the data zero bytes are copied
      let copyLen := sliceLen dataLen
      if block.bytes.length < copyLen ∨ bufTmp.length < copyLen then .error .undefined
      else
        have : tmpLen - sliceLen tmpLen < tmpLen := by
          have := sliceLen_pos hdone
          omega
        fillLoop (bufTmp.drop copyLen) (dataLen - copyLen) (tmpLen - sliceLen tmpLen)
          { st with shm := shm, segs := st.segs ++ [nextSegment block bufTmp dataLen tmpLen] }
termination_by tmpLen

/-- `ctc_mq_fill_batch_data`. -/
def ctcMqFillBatchData (build : Build) (dataBuf : List UInt8) (dataLen bufSize : Nat) (shm : σ) :
    Result (Int × Filled σ) := do
  cAssert build (dataLen ≤ bufSize)
  fillLoop alloc dataBuf dataLen bufSize ⟨shm, [], []⟩

end

/-- The loop of `ctc_mq_get_batch_data`. -/
def getLoop (bufLen : Nat) : List Segment → Nat → List UInt8 → Result (Int × List UInt8)
  | [], _, bufData => .ok (ctSuccess, bufData)
  | seg :: segs, useBufLen, bufData =>
    if ctcMqMessageSliceLen < seg.length then .ok (errGenericInternalError, bufData)
    else if bufLen < useBufLen + seg.length then .ok (errGenericInternalError, bufData)
    else
      match seg.buf with
      | none => .ok (errGenericInternalError, bufData)
      | some block =>
        if block.bytes.length < seg.length ∨ bufData.length < useBufLen + seg.length then
          .error .undefined
        else
          getLoop bufLen segs (useBufLen + seg.length)
            (bufData.take useBufLen ++ block.bytes.take seg.length ++
              bufData.drop (useBufLen + seg.length))

/-- `ctc_mq_get_batch_data`. -/
def ctcMqGetBatchData (segs : List Segment) (bufData : List UInt8) (bufLen : Nat) :
    Result (Int × List UInt8) :=
  getLoop bufLen segs 0 bufData

/-! ## Slicing -/

/-- The segments are slices of `total` bytes and their contents start with the data. -/
structure Slices (segs : List Segment) (total : Nat) (data : List UInt8) : Prop where
  length_pos : ∀ seg ∈ segs, 1 ≤ seg.length
  length_le : ∀ seg ∈ segs, seg.length ≤ ctcMqMessageSliceLen
  sum : (segs.map Segment.length).sum = total
  held : ∀ seg ∈ segs, ∃ block, seg.buf = some block ∧ block.bytes.length = seg.length
  starts : data <+: contents segs

/-- The shared memory never runs out, and blocks are as long as requested. -/
def Allocates {σ : Type} (alloc : Nat → σ → Option Block × σ) : Prop :=
  ∀ n shm, ∃ block shm', alloc n shm = (some block, shm') ∧ block.bytes.length = n

theorem sliceLen_le (len : Nat) : sliceLen len ≤ len := by
  unfold sliceLen
  split <;> omega

theorem sliceLen_le_max (len : Nat) : sliceLen len ≤ ctcMqMessageSliceLen := by
  unfold sliceLen
  split <;> omega

theorem sliceLen_mono {dataLen tmpLen : Nat} (h : dataLen ≤ tmpLen) :
    sliceLen dataLen ≤ sliceLen tmpLen := by
  unfold sliceLen
  split <;> split <;> omega

theorem contents_cons (seg : Segment) (segs : List Segment) :
    contents (seg :: segs) = seg.bytes ++ contents segs := List.flatMap_cons

/-- Data that does not fill its slice ends with it. -/
theorem take_drop_slice {dataLen tmpLen : Nat} (h : dataLen ≤ tmpLen) :
    dataLen - sliceLen dataLen = 0 ∨
      sliceLen dataLen = sliceLen tmpLen := by
  unfold sliceLen
  split
  · split <;> omega
  · omega

/-- A slice fills its block. -/
theorem nextSegment_held {dataLen tmpLen : Nat} {block : Block} {bufTmp : List UInt8}
    (hdata : dataLen ≤ tmpLen) (hbuf : dataLen ≤ bufTmp.length)
    (hblock : block.bytes.length = sliceLen tmpLen) :
    ∃ held, (nextSegment block bufTmp dataLen tmpLen).buf = some held ∧
      held.bytes.length = (nextSegment block bufTmp dataLen tmpLen).length := by
  have hmono := sliceLen_mono hdata
  have hcopy := sliceLen_le dataLen
  refine ⟨_, rfl, ?_⟩
  rw [List.length_append, List.length_take, List.length_drop, hblock, nextSegment_length]
  omega

section

variable {σ : Type} {alloc : Nat → σ → Option Block × σ}

/-- One slice in front of others. -/
theorem Slices.cons {segs : List Segment} {dataLen tmpLen : Nat} {block : Block}
    {bufTmp : List UInt8} (hne : tmpLen ≠ 0) (hdata : dataLen ≤ tmpLen)
    (hbuf : dataLen ≤ bufTmp.length) (hblock : block.bytes.length = sliceLen tmpLen)
    (hs : Slices segs (tmpLen - sliceLen tmpLen)
      ((bufTmp.drop (sliceLen dataLen)).take (dataLen - sliceLen dataLen))) :
    Slices (nextSegment block bufTmp dataLen tmpLen :: segs) tmpLen (bufTmp.take dataLen) where
  length_pos seg hseg := by
    rcases List.mem_cons.mp hseg with rfl | hseg
    · exact sliceLen_pos hne
    · exact hs.length_pos seg hseg
  length_le seg hseg := by
    rcases List.mem_cons.mp hseg with rfl | hseg
    · exact sliceLen_le_max tmpLen
    · exact hs.length_le seg hseg
  sum := by
    have hle := sliceLen_le tmpLen
    rw [List.map_cons, List.sum_cons, hs.sum, nextSegment_length]
    omega
  held seg hseg := by
    rcases List.mem_cons.mp hseg with rfl | hseg
    · exact nextSegment_held hdata hbuf hblock
    · exact hs.held seg hseg
  starts := by
    have hsplit : dataLen = sliceLen dataLen + (dataLen - sliceLen dataLen) := by
      have hcopy := sliceLen_le dataLen
      omega
    have htake : bufTmp.take dataLen = bufTmp.take (sliceLen dataLen) ++
        (bufTmp.drop (sliceLen dataLen)).take (dataLen - sliceLen dataLen) := by
      conv_lhs => rw [hsplit]
      exact List.take_add
    rw [contents_cons, nextSegment_bytes, htake, List.append_assoc]
    rcases take_drop_slice hdata with hlast | hfull
    · rw [hlast, List.take_zero, List.append_nil]
      exact List.prefix_append _ _
    · -- a full slice leaves nothing of the block
      have hnil : block.bytes.drop (sliceLen dataLen) = [] := by
        rw [List.drop_eq_nil_iff, hblock]
        exact Nat.le_of_eq hfull.symm
      rw [hnil, List.nil_append]
      exact (List.prefix_append_right_inj _).mpr hs.starts

/-- What the loop appends to the message. -/
theorem fillLoop_spec (hAlloc : Allocates alloc) (bufTmp : List UInt8) (dataLen tmpLen : Nat)
    (st : Filled σ) (hdata : dataLen ≤ tmpLen) (hbuf : dataLen ≤ bufTmp.length)
    (hroom : tmpLen + ctcMqMessageSliceLen * st.segs.length ≤
      ctcMqMessageSliceLen * dswMessageSegmentNumMax)
    (hmax : st.segs.length ≤ dswMessageSegmentNumMax) :
    ∃ shm segs, fillLoop alloc bufTmp dataLen tmpLen st =
        .ok (ctSuccess, ⟨shm, st.segs ++ segs, st.freed⟩) ∧
      (st.segs ++ segs).length ≤ dswMessageSegmentNumMax ∧
      Slices segs tmpLen (bufTmp.take dataLen) := by
  -- strong induction on the bytes left, which is what the loop counts down
  induction tmpLen using Nat.strongRecOn generalizing bufTmp dataLen st with
  | _ tmpLen ih =>
    rw [fillLoop]
    by_cases hdone : tmpLen = 0
    · obtain rfl : dataLen = 0 := by omega
      rw [dif_pos hdone]
      refine ⟨st.shm, [], by rw [List.append_nil], ?_, ?_⟩
      · rw [List.append_nil]
        exact hmax
      · exact ⟨by simp, by simp, hdone.symm, by simp, by simp⟩
    · have hpos := sliceLen_pos hdone
      have hle := sliceLen_le tmpLen
      have hmono := sliceLen_mono hdata
      have hcopy := sliceLen_le dataLen
      have hlt : st.segs.length < dswMessageSegmentNumMax := by
        unfold ctcMqMessageSliceLen at hroom
        omega
      -- either a full slice goes, or nothing is left
      have hroom' : tmpLen - sliceLen tmpLen + ctcMqMessageSliceLen * (st.segs.length + 1) ≤
          ctcMqMessageSliceLen * dswMessageSegmentNumMax := by
        unfold sliceLen
        unfold ctcMqMessageSliceLen dswMessageSegmentNumMax at *
        split <;> omega
      have hdata' : dataLen - sliceLen dataLen ≤ tmpLen - sliceLen tmpLen := by
        rcases take_drop_slice hdata with h | h <;> omega
      obtain ⟨block, shm, hblock, hblockLen⟩ := hAlloc (sliceLen tmpLen) st.shm
      rw [dif_neg hdone, if_neg (by omega), hblock]
      dsimp only
      rw [if_neg (by omega)]
      obtain ⟨shm', segs, hrun, hnum, hs⟩ := ih (tmpLen - sliceLen tmpLen) (by omega)
        (bufTmp.drop (sliceLen dataLen)) (dataLen - sliceLen dataLen)
        { st with shm := shm, segs := st.segs ++ [nextSegment block bufTmp dataLen tmpLen] } hdata'
        (by rw [List.length_drop]; omega)
        (by rw [List.length_append, List.length_singleton]; exact hroom')
        (by rw [List.length_append, List.length_singleton]; exact hlt)
      refine ⟨shm', nextSegment block bufTmp dataLen tmpLen :: segs, ?_, ?_, ?_⟩
      · rw [hrun, List.append_assoc, List.singleton_append]
      · rw [List.append_assoc, List.singleton_append] at hnum
        exact hnum
      · exact Slices.cons hdone hdata hbuf hblockLen hs

end

/-! ## Reading back -/

/-- The segment is a slice, and its block holds all of it. -/
def Segment.Whole (seg : Segment) : Prop :=
  seg.length ≤ ctcMqMessageSliceLen ∧
    ∃ block, seg.buf = some block ∧ block.bytes.length = seg.length

/-- Two copies, one behind the other. -/
theorem copy_copy (buf as bs : List UInt8) {use : Nat} (hle : use ≤ buf.length) :
    (buf.take use ++ as ++ buf.drop (use + as.length)).take (use + as.length) ++ bs ++
        (buf.take use ++ as ++ buf.drop (use + as.length)).drop (use + as.length + bs.length) =
      buf.take use ++ (as ++ bs) ++ buf.drop (use + (as.length + bs.length)) := by
  have hlen : (buf.take use ++ as).length = use + as.length := by
    rw [List.length_append, List.length_take, Nat.min_eq_left hle]
  rw [← hlen, List.take_left, ← List.drop_drop, List.drop_left, hlen, List.drop_drop]
  simp only [List.append_assoc, Nat.add_assoc]

/-- The loop copies the segments behind what it has copied already. -/
theorem getLoop_spec {bufLen : Nat} {segs : List Segment} (hw : ∀ seg ∈ segs, seg.Whole)
    (useBufLen : Nat) (bufData : List UInt8)
    (hroom : useBufLen + (segs.map Segment.length).sum ≤ bufLen)
    (hbuf : bufLen ≤ bufData.length) :
    getLoop bufLen segs useBufLen bufData =
      .ok (ctSuccess, bufData.take useBufLen ++ contents segs ++
        bufData.drop (useBufLen + (contents segs).length)) := by
  induction segs generalizing useBufLen bufData with
  | nil =>
    rw [getLoop, contents, List.flatMap_nil, List.append_nil, List.length_nil, Nat.add_zero,
      List.take_append_drop]
  | cons seg segs ih =>
    obtain ⟨hle, block, hblock, hlen⟩ := hw seg List.mem_cons_self
    have hbytes : seg.bytes = block.bytes := by rw [Segment.bytes, hblock]
    rw [List.map_cons, List.sum_cons] at hroom
    rw [getLoop, if_neg (by omega), if_neg (by omega), hblock]
    dsimp only
    rw [if_neg (by omega), ← hlen, List.take_length, ih]
    · rw [contents_cons, hbytes, List.length_append, copy_copy _ _ _ (by omega)]
    · intro seg' hseg'
      exact hw seg' (List.mem_cons_of_mem _ hseg')
    · omega
    · simp only [List.length_append, List.length_take, List.length_drop]
      omega

/-- The server leaves the descriptors as they are and may write into the blocks. -/
def Answers (seg seg' : Segment) : Prop :=
  seg'.type = seg.type ∧ seg'.length = seg.length ∧
    ∀ block, seg.buf = some block →
      ∃ bytes, seg'.buf = some { block with bytes := bytes } ∧ bytes.length = block.bytes.length

theorem Answers.whole {seg seg' : Segment} (ha : Answers seg seg') (hw : seg.Whole) :
    seg'.Whole := by
  obtain ⟨-, hlen, hbuf⟩ := ha
  obtain ⟨hle, block, hblock, hblockLen⟩ := hw
  obtain ⟨bytes, hbytes, hbytesLen⟩ := hbuf block hblock
  refine ⟨by omega, _, hbytes, ?_⟩
  rw [hlen, ← hblockLen]
  exact hbytesLen

/-- An answer has the shape of the message. -/
theorem answers_whole {segs segs' : List Segment} (ha : List.Forall₂ Answers segs segs')
    (hw : ∀ seg ∈ segs, seg.Whole) :
    (∀ seg ∈ segs', seg.Whole) ∧
      (segs'.map Segment.length).sum = (segs.map Segment.length).sum := by
  induction ha with
  | nil => exact ⟨hw, rfl⟩
  | cons hhead _ ih =>
    obtain ⟨hwTail, hsum⟩ := ih fun seg hseg => hw seg (List.mem_cons_of_mem _ hseg)
    refine ⟨?_, ?_⟩
    · intro seg hseg
      rcases List.mem_cons.mp hseg with rfl | hseg
      · exact hhead.whole (hw _ List.mem_cons_self)
      · exact hwTail seg hseg
    · rw [List.map_cons, List.map_cons, List.sum_cons, List.sum_cons, hsum, hhead.2.1]

theorem length_contents {segs : List Segment} (hw : ∀ seg ∈ segs, seg.Whole) :
    (contents segs).length = (segs.map Segment.length).sum := by
  induction segs with
  | nil => rfl
  | cons seg segs ih =>
    obtain ⟨-, block, hblock, hlen⟩ := hw seg List.mem_cons_self
    rw [contents_cons, List.length_append, List.map_cons, List.sum_cons,
      ih fun seg' hseg' => hw seg' (List.mem_cons_of_mem _ hseg'), Segment.bytes, hblock, hlen]

/-- **Slicing a message and reading it back.** A buffer within the bounds that
`ctc_mq_batch_send_message` checks is cut into slices that start with the data, and reading the
answer returns the segments one after the other, whatever the server wrote into them. -/
theorem ctcMqBatchData_round_trip {σ : Type} {alloc : Nat → σ → Option Block × σ}
    (hAlloc : Allocates alloc) (build : Build) {dataBuf : List UInt8} {sendDataLen bufSize : Nat}
    (hdata : sendDataLen ≤ bufSize)
    (hmax : bufSize ≤ ctcMqMessageSliceLen * dswMessageSegmentNumMax)
    (hbuf : bufSize ≤ dataBuf.length) (shm : σ) :
    ∃ shm' segs, ctcMqFillBatchData alloc build dataBuf sendDataLen bufSize shm =
        .ok (ctSuccess, ⟨shm', segs, []⟩) ∧
      segs.length ≤ dswMessageSegmentNumMax ∧
      (∀ seg ∈ segs, 1 ≤ seg.length ∧ seg.length ≤ ctcMqMessageSliceLen) ∧
      (segs.map Segment.length).sum = bufSize ∧
      dataBuf.take sendDataLen <+: contents segs ∧
      ∀ segs', List.Forall₂ Answers segs segs' →
        ctcMqGetBatchData segs' dataBuf bufSize =
          .ok (ctSuccess, contents segs' ++ dataBuf.drop bufSize) := by
  obtain ⟨shm', segs, hfill, hnum, hs⟩ := fillLoop_spec hAlloc dataBuf sendDataLen bufSize
    ⟨shm, [], []⟩ hdata (by omega) (by simpa using hmax) (by simp)
  have hw : ∀ seg ∈ segs, seg.Whole := fun seg hseg => ⟨hs.length_le seg hseg, hs.held seg hseg⟩
  refine ⟨shm', segs, ?_, hnum, ?_, hs.sum, hs.starts, ?_⟩
  · rw [ctcMqFillBatchData, decide_eq_true hdata, cAssert_true, result_bind_ok, hfill,
      List.nil_append]
  · intro seg hseg
    exact ⟨hs.length_pos seg hseg, hs.length_le seg hseg⟩
  · intro segs' ha
    obtain ⟨hw', hsum⟩ := answers_whole ha hw
    have htotal : (contents segs').length = bufSize := by rw [length_contents hw', hsum, hs.sum]
    rw [ctcMqGetBatchData, getLoop_spec hw' 0 dataBuf (by rw [hsum, hs.sum]; omega) (by omega)]
    rw [List.take_zero, List.nil_append, Nat.zero_add, htotal]

/-- Blocks of zeros, numbered in the order of their allocation. -/
def zeroBlocks (n : Nat) (next : Nat) : Option Block × Nat :=
  (some ⟨next, List.replicate n 0⟩, next + 1)

/-- One byte more than a slice, with one byte of data. -/
theorem ctcMqBatchData_round_trip_two_slices :
    Allocates zeroBlocks ∧
      ∃ shm' segs, ctcMqFillBatchData zeroBlocks .debug (List.replicate 102401 7) 1 102401 0 =
          .ok (ctSuccess, ⟨shm', segs, []⟩) ∧
        (segs.map Segment.length).sum = 102401 ∧ [7] <+: contents segs := by
  have hAlloc : Allocates zeroBlocks := by
    intro n next
    exact ⟨_, _, rfl, List.length_replicate⟩
  have hbuf : 102401 ≤ (List.replicate 102401 (7 : UInt8)).length :=
    Nat.le_of_eq List.length_replicate.symm
  refine ⟨hAlloc, ?_⟩
  obtain ⟨shm', segs, hfill, -, -, hsum, hstarts, -⟩ :=
    ctcMqBatchData_round_trip hAlloc .debug (show 1 ≤ 102401 by decide) (by decide) hbuf 0
  refine ⟨shm', segs, hfill, hsum, ?_⟩
  rw [List.take_replicate] at hstarts
  exact hstarts

end CantianConnector.Mq
