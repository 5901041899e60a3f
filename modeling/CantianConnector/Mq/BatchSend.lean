import CantianConnector.Mq.Batch
import Mathlib.Data.List.Forall2

/-!
# The life of a sliced message

`ctc_mq_batch_send_message` allocates a message block and the slices, sends the message, waits for
the answer and copies it back. All of it is freed at one exit, behind a `do` block that every
error leaves by `break`. The filling, however, frees the slices it has allocated when the next one
is refused, and leaves `seg_num` as it is: the common exit then frees them a second time.

`logging` records what the allocator hands out, so that the addresses that are freed can be
compared with the addresses that were allocated.
-/

namespace CantianConnector.Mq

open CantianConnector.Convert (Build Failure Result cAssert cAssert_true result_bind_ok)

/-! ## The function -/

/-- What the semaphore, the queue and the server answer to one call. `serve` is what the server
makes of the segments once the message has been sent. -/
structure BatchEnv where
  semInit : Int
  shmSendMsg : Int
  semWait : Int
  serve : List Segment → List Segment

/-- What a call leaves behind: its result, the caller's buffer and the addresses that were passed
to `shm_free`. -/
structure Sent (σ : Type) where
  result : Int
  shm : σ
  dataBuf : List UInt8
  freed : List Nat

/-- The rest of the `do` block, behind a filling that returned `ret`: the result, the segments as
they then are and the caller's buffer. -/
def sendAndWait (env : BatchEnv) (ret : Int) (segs : List Segment) (dataBuf : List UInt8)
    (bufSize : Nat) : Result (Int × List Segment × List UInt8) :=
  if ret ≠ ctSuccess then .ok (errBatchDataHandleFailed, segs, dataBuf)
  else if env.shmSendMsg ≠ ctSuccess then .ok (errShmSendMsgFailed, segs, dataBuf)
  else if env.semWait ≠ ctSuccess then .ok (errSemFault, env.serve segs, dataBuf)
  else do
    let got ← ctcMqGetBatchData (env.serve segs) dataBuf bufSize
    .ok (if got.1 ≠ 0 then errBatchDataHandleFailed else ctSuccess, env.serve segs, got.2)

section

variable {σ : Type} (alloc : Nat → σ → Option Block × σ)

/-- `ctc_mq_batch_send_message`; `msgSize` is the size of a message block. -/
def ctcMqBatchSendMessage (build : Build) (msgSize : Nat) (env : BatchEnv) (dataBuf : List UInt8)
    (sendDataLen bufSize : Nat) (shm : σ) : Result (Sent σ) :=
  if ctcMqMessageSliceLen * dswMessageSegmentNumMax < bufSize then
    .ok ⟨errGenericInternalError, shm, dataBuf, []⟩
  else
    match alloc msgSize shm with
    | (none, shm) => .ok ⟨errAllocMemory, shm, dataBuf, []⟩
    | (some msg, shm) =>
      if env.semInit ≠ 0 then .ok ⟨errSemFault, shm, dataBuf, [msg.addr]⟩
      else do
        let filled ← ctcMqFillBatchData alloc build dataBuf sendDataLen bufSize shm
        let done ← sendAndWait env filled.1 filled.2.segs dataBuf bufSize
        -- the common exit
        .ok ⟨done.1, filled.2.shm, done.2.2,
          filled.2.freed ++ batchFreeShmBuf done.2.1 ++ [msg.addr]⟩

/-- An allocator that writes down the addresses it hands out. -/
def logging (n : Nat) (st : σ × List Nat) : Option Block × (σ × List Nat) :=
  match alloc n st.1 with
  | (none, shm) => (none, shm, st.2)
  | (some block, shm) => (some block, shm, st.2 ++ [block.addr])

/-- Which of the requests is the first to be refused. -/
def refusedAt : List Nat → σ → Option Nat
  | [], _ => none
  | n :: rest, shm =>
    match alloc n shm with
    | (none, _) => some 0
    | (some _, shm) => (refusedAt rest shm).map (· + 1)

end

/-- The slices of a buffer: full ones, and one for the rest. -/
def sliceSizes (bufSize : Nat) : List Nat :=
  List.replicate (bufSize / ctcMqMessageSliceLen) ctcMqMessageSliceLen ++
    if bufSize % ctcMqMessageSliceLen = 0 then [] else [bufSize % ctcMqMessageSliceLen]

/-! ## What is allocated and what is freed -/

theorem sliceSizes_of_ne_zero {len : Nat} (hne : len ≠ 0) :
    sliceSizes len = sliceLen len :: sliceSizes (len - sliceLen len) := by
  unfold sliceSizes sliceLen
  by_cases hfull : ctcMqMessageSliceLen < len
  · have hdiv : len / ctcMqMessageSliceLen =
        (len - ctcMqMessageSliceLen) / ctcMqMessageSliceLen + 1 := by
      unfold ctcMqMessageSliceLen at *
      omega
    have hmod : len % ctcMqMessageSliceLen =
        (len - ctcMqMessageSliceLen) % ctcMqMessageSliceLen := by
      unfold ctcMqMessageSliceLen at *
      omega
    rw [if_pos hfull, hdiv, hmod, List.replicate_succ, List.cons_append]
  · rw [if_neg hfull, Nat.sub_self]
    rcases Nat.lt_or_eq_of_le (Nat.le_of_not_lt hfull) with hlt | rfl
    · rw [Nat.div_eq_of_lt hlt, Nat.mod_eq_of_lt hlt, if_neg hne]
      rfl
    · rfl

/-- The length of a segment lies in its block, or is one that the reader refuses. -/
def Segment.Readable (seg : Segment) : Prop :=
  ∀ block, seg.buf = some block →
    seg.length ≤ block.bytes.length ∨ ctcMqMessageSliceLen < seg.length

/-- The server may write into the block of a segment and answer with another length; it neither
moves nor resizes the block. -/
structure Keeps (seg seg' : Segment) : Prop where
  addr : seg'.buf.map Block.addr = seg.buf.map Block.addr
  size : seg'.buf.map (·.bytes.length) = seg.buf.map (·.bytes.length)
  readable : seg'.Readable

theorem batchFreeShmBuf_of_keeps {segs segs' : List Segment} (h : List.Forall₂ Keeps segs segs') :
    batchFreeShmBuf segs' = batchFreeShmBuf segs := by
  induction h with
  | nil => rfl
  | cons hhead _ ih =>
    unfold batchFreeShmBuf at ih ⊢
    rw [List.filterMap_cons, List.filterMap_cons, hhead.addr, ih]

theorem readable_of_keeps {segs segs' : List Segment} (h : List.Forall₂ Keeps segs segs') :
    ∀ seg ∈ segs', seg.Readable := by
  induction h with
  | nil => exact List.forall_mem_nil _
  | cons hhead _ ih => exact List.forall_mem_cons.mpr ⟨hhead.readable, ih⟩

/-- Reading back stays within the blocks. -/
theorem getLoop_returns {bufLen : Nat} {segs : List Segment} (hsegs : ∀ seg ∈ segs, seg.Readable)
    (useBufLen : Nat) {bufData : List UInt8} (hbuf : bufLen ≤ bufData.length) :
    ∃ got, getLoop bufLen segs useBufLen bufData = .ok got := by
  induction segs generalizing useBufLen bufData with
  | nil => exact ⟨_, rfl⟩
  | cons seg segs ih =>
    rw [getLoop]
    by_cases hslice : ctcMqMessageSliceLen < seg.length
    · rw [if_pos hslice]
      exact ⟨_, rfl⟩
    · by_cases hroom : bufLen < useBufLen + seg.length
      · rw [if_neg hslice, if_pos hroom]
        exact ⟨_, rfl⟩
      · rw [if_neg hslice, if_neg hroom]
        cases hblock : seg.buf with
        | none => exact ⟨_, rfl⟩
        | some block =>
          have hlen := hsegs seg List.mem_cons_self block hblock
          dsimp only
          rw [if_neg (by omega)]
          apply ih
          · intro seg' hseg'
            exact hsegs seg' (List.mem_cons_of_mem _ hseg')
          · simp only [List.length_append, List.length_take, List.length_drop]
            omega

/-- Whatever goes wrong behind the filling, the segments keep their blocks. -/
theorem sendAndWait_spec {env : BatchEnv} {segs : List Segment} {dataBuf : List UInt8}
    {bufSize : Nat} (hKeeps : List.Forall₂ Keeps segs (env.serve segs))
    (hbuf : bufSize ≤ dataBuf.length) (ret : Int) :
    ∃ done, sendAndWait env ret segs dataBuf bufSize = .ok done ∧
      batchFreeShmBuf done.2.1 = batchFreeShmBuf segs := by
  unfold sendAndWait
  by_cases hret : ret ≠ ctSuccess
  · rw [if_pos hret]
    exact ⟨_, rfl, rfl⟩
  · by_cases hsend : env.shmSendMsg ≠ ctSuccess
    · rw [if_neg hret, if_pos hsend]
      exact ⟨_, rfl, rfl⟩
    · by_cases hwait : env.semWait ≠ ctSuccess
      · rw [if_neg hret, if_neg hsend, if_pos hwait]
        exact ⟨_, rfl, batchFreeShmBuf_of_keeps hKeeps⟩
      · obtain ⟨got, hgot⟩ := getLoop_returns (readable_of_keeps hKeeps) 0 hbuf
        rw [if_neg hret, if_neg hsend, if_neg hwait, ctcMqGetBatchData, hgot, result_bind_ok]
        exact ⟨_, rfl, batchFreeShmBuf_of_keeps hKeeps⟩

/-- A slice in its own block is freed as one address. -/
theorem length_batchFreeShmBuf {segs : List Segment} (hw : ∀ seg ∈ segs, seg.Whole) :
    (batchFreeShmBuf segs).length = segs.length := by
  induction segs with
  | nil => rfl
  | cons seg segs ih =>
    obtain ⟨⟨-, block, hblock, -⟩, htail⟩ := List.forall_mem_cons.mp hw
    have ihTail := ih htail
    unfold batchFreeShmBuf at ihTail ⊢
    rw [List.filterMap_cons, hblock, Option.map_some, List.length_cons, List.length_cons, ihTail]

/-- The server keeps the blocks of every message that consists of slices. -/
def Serves (env : BatchEnv) : Prop :=
  ∀ segs, (∀ seg ∈ segs, seg.Whole) → List.Forall₂ Keeps segs (env.serve segs)

section

variable {σ : Type} {alloc : Nat → σ → Option Block × σ}

/-- Blocks are as long as requested. -/
def Sized (alloc : Nat → σ → Option Block × σ) : Prop :=
  ∀ n shm block shm', alloc n shm = (some block, shm') → block.bytes.length = n

/-- How the filling ends, with the slices `new` allocated behind `segs`: all of them, or those in
front of the first that is refused. In the second case the slices are freed at once. -/
def FillEnds (refused : Option Nat) (segs new : List Segment) (ret : Int) (again : List Nat) :
    Prop :=
  (refused = none ∧ ret = ctSuccess ∧ again = []) ∨
    (refused = some new.length ∧ ret = errAllocMemory ∧ again = batchFreeShmBuf (segs ++ new))

/-- The loop allocates one slice after the other, up to the first that is refused. -/
theorem fillLoop_log (hSized : Sized alloc) (bufTmp : List UInt8) (dataLen tmpLen : Nat)
    (shm : σ) (log : List Nat) (segs : List Segment) (freed : List Nat) (hdata : dataLen ≤ tmpLen)
    (hbuf : dataLen ≤ bufTmp.length)
    (hroom : tmpLen + ctcMqMessageSliceLen * segs.length ≤
      ctcMqMessageSliceLen * dswMessageSegmentNumMax) :
    ∃ ret shm' new again,
      fillLoop (logging alloc) bufTmp dataLen tmpLen ⟨(shm, log), segs, freed⟩ =
        .ok (ret, ⟨(shm', log ++ batchFreeShmBuf new), segs ++ new, freed ++ again⟩) ∧
      (∀ seg ∈ new, seg.Whole) ∧
      FillEnds (refusedAt alloc (sliceSizes tmpLen) shm) segs new ret again := by
  -- strong induction on the bytes left, which is what the loop counts down
  induction tmpLen using Nat.strongRecOn generalizing bufTmp dataLen shm log segs with
  | _ tmpLen ih =>
    rw [fillLoop]
    by_cases hdone : tmpLen = 0
    · subst hdone
      rw [dif_pos rfl]
      refine ⟨ctSuccess, shm, [], [], ?_, List.forall_mem_nil _, Or.inl ⟨rfl, rfl, rfl⟩⟩
      simp only [batchFreeShmBuf, List.filterMap_nil, List.append_nil]
    · have hpos := sliceLen_pos hdone
      have hle := sliceLen_le tmpLen
      have hmono := sliceLen_mono hdata
      have hcopy := sliceLen_le dataLen
      have hlt : segs.length < dswMessageSegmentNumMax := by
        unfold ctcMqMessageSliceLen at hroom
        omega
      rw [dif_neg hdone, if_neg (by dsimp only; omega), sliceSizes_of_ne_zero hdone, refusedAt]
      dsimp only [logging]
      cases halloc : alloc (sliceLen tmpLen) shm with
      | mk found shm' =>
        cases found with
        | none =>
          refine ⟨errAllocMemory, shm', [], batchFreeShmBuf segs, ?_, List.forall_mem_nil _,
            Or.inr ⟨rfl, rfl, ?_⟩⟩
          · simp only [batchFreeShmBuf, List.filterMap_nil, List.append_nil]
          · rw [List.append_nil]
        | some block =>
          have hblockLen := hSized _ _ _ _ halloc
          have hroom' : tmpLen - sliceLen tmpLen + ctcMqMessageSliceLen * (segs.length + 1) ≤
              ctcMqMessageSliceLen * dswMessageSegmentNumMax := by
            unfold sliceLen
            unfold ctcMqMessageSliceLen dswMessageSegmentNumMax at *
            split <;> omega
          have hdata' : dataLen - sliceLen dataLen ≤ tmpLen - sliceLen tmpLen := by
            rcases take_drop_slice hdata with h | h <;> omega
          dsimp only
          rw [if_neg (by omega)]
          obtain ⟨ret, shm'', new, again, hrun, hw, hends⟩ :=
            ih (tmpLen - sliceLen tmpLen) (by omega) (bufTmp.drop (sliceLen dataLen))
              (dataLen - sliceLen dataLen) shm' (log ++ [block.addr])
              (segs ++ [nextSegment block bufTmp dataLen tmpLen]) hdata'
              (by rw [List.length_drop]; omega)
              (by rw [List.length_append, List.length_singleton]; exact hroom')
          refine ⟨ret, shm'', nextSegment block bufTmp dataLen tmpLen :: new, again, ?_, ?_, ?_⟩
          · rw [hrun, List.append_assoc, List.append_assoc]
            rfl
          · exact List.forall_mem_cons.mpr
              ⟨⟨sliceLen_le_max tmpLen, nextSegment_held hdata hbuf hblockLen⟩, hw⟩
          · rcases hends with ⟨hnone, hret, hagain⟩ | ⟨hsome, hret, hagain⟩
            · exact Or.inl ⟨by rw [hnone]; rfl, hret, hagain⟩
            · rw [List.append_assoc] at hagain
              exact Or.inr ⟨by rw [hsome]; rfl, hret, hagain⟩

/-- A message block behind which the filling starts: everything is freed at the common exit, and
the slices of a filling that was refused a second time. -/
theorem ctcMqBatchSendMessage_log (hSized : Sized alloc) (build : Build) (msgSize : Nat)
    {env : BatchEnv} (hServe : Serves env)
    {dataBuf : List UInt8} {sendDataLen bufSize : Nat} (hdata : sendDataLen ≤ bufSize)
    (hbuf : bufSize ≤ dataBuf.length) {shm shm' : σ} {msg : Block}
    (hmax : ¬ ctcMqMessageSliceLen * dswMessageSegmentNumMax < bufSize)
    (hmsg : alloc msgSize shm = (some msg, shm')) (hsem : env.semInit = 0) :
    ∃ out slices again,
      ctcMqBatchSendMessage (logging alloc) build msgSize env dataBuf sendDataLen bufSize
        (shm, []) = .ok out ∧
      out.shm.2 = msg.addr :: slices ∧ out.freed = again ++ slices ++ [msg.addr] ∧
      (again = [] ↔ ∀ k, refusedAt alloc (sliceSizes bufSize) shm' = some k → k = 0) := by
  have hlog : logging alloc msgSize (shm, []) = (some msg, shm', [msg.addr]) := by
    rw [logging, hmsg]
    rfl
  obtain ⟨ret, shm'', new, again, hfill, hw, hends⟩ :=
    fillLoop_log hSized dataBuf sendDataLen bufSize shm' [msg.addr] [] [] hdata (by omega)
      (by rw [List.length_nil]; omega)
  obtain ⟨done, hdone, hfree⟩ := sendAndWait_spec (hServe _ hw) hbuf ret
  refine ⟨⟨done.1, (shm'', [msg.addr] ++ batchFreeShmBuf new), done.2.2,
    again ++ batchFreeShmBuf done.2.1 ++ [msg.addr]⟩, batchFreeShmBuf new, again, ?_, rfl,
    ?_, ?_⟩
  · rw [ctcMqBatchSendMessage, if_neg hmax, hlog]
    dsimp only
    rw [if_neg (by simp [hsem]), ctcMqFillBatchData, decide_eq_true hdata, cAssert_true,
      result_bind_ok, hfill, result_bind_ok]
    dsimp only [List.nil_append]
    rw [hdone, result_bind_ok]
  · rw [hfree]
  · rcases hends with ⟨hnone, -, rfl⟩ | ⟨hsome, -, rfl⟩
    · rw [hnone]
      exact ⟨fun _ k hk => (Option.some_ne_none k hk.symm).elim, fun _ => rfl⟩
    · rw [hsome, List.nil_append, ← List.length_eq_zero_iff, length_batchFreeShmBuf hw]
      exact ⟨fun h k hk => (Option.some.inj hk).symm.trans h, fun h => h _ rfl⟩

/-- What is freed at the common exit is what was allocated, so nothing else may be. -/
theorem perm_again_iff (again slices : List Nat) (msg : Nat) :
    (again ++ slices ++ [msg]).Perm (msg :: slices) ↔ again = [] := by
  constructor
  · intro h
    have hlen := h.length_eq
    simp only [List.length_append, List.length_cons, List.length_nil] at hlen
    exact List.length_eq_zero_iff.mp (by omega)
  · rintro rfl
    rw [List.nil_append]
    exact List.perm_append_singleton msg slices

/-- **When a message is freed exactly once.** The addresses that are freed are those that were
allocated, each as often, unless the allocator refuses a slice behind the first. -/
theorem ctcMqBatchSendMessage_frees_once_iff (hSized : Sized alloc) (build : Build) (msgSize : Nat)
    {env : BatchEnv} (hServe : Serves env) {dataBuf : List UInt8} {sendDataLen bufSize : Nat}
    (hdata : sendDataLen ≤ bufSize) (hbuf : bufSize ≤ dataBuf.length) (shm : σ) :
    ∃ out, ctcMqBatchSendMessage (logging alloc) build msgSize env dataBuf sendDataLen bufSize
        (shm, []) = .ok out ∧
      (out.freed.Perm out.shm.2 ↔
        ctcMqMessageSliceLen * dswMessageSegmentNumMax < bufSize ∨
          (alloc msgSize shm).1 = none ∨ env.semInit ≠ 0 ∨
          ∀ k, refusedAt alloc (sliceSizes bufSize) (alloc msgSize shm).2 = some k → k = 0) := by
  by_cases hmax : ctcMqMessageSliceLen * dswMessageSegmentNumMax < bufSize
  · rw [ctcMqBatchSendMessage, if_pos hmax]
    exact ⟨_, rfl, iff_of_true (List.Perm.refl _) (Or.inl hmax)⟩
  · cases hmsg : alloc msgSize shm with
    | mk found shm' =>
      cases found with
      | none =>
        rw [ctcMqBatchSendMessage, if_neg hmax, logging, hmsg]
        exact ⟨_, rfl, iff_of_true (List.Perm.refl _) (Or.inr (Or.inl rfl))⟩
      | some msg =>
        by_cases hsem : env.semInit = 0
        · obtain ⟨out, slices, again, hrun, hlog, hfreed, hagain⟩ :=
            ctcMqBatchSendMessage_log hSized build msgSize hServe hdata hbuf hmax hmsg hsem
          refine ⟨out, hrun, ?_⟩
          rw [hfreed, hlog, perm_again_iff, hagain]
          simp only [hmax, hsem, reduceCtorEq, ne_eq, not_true_eq_false, false_or]
        · rw [ctcMqBatchSendMessage, if_neg hmax, logging, hmsg]
          dsimp only
          rw [if_pos hsem]
          exact ⟨_, rfl, iff_of_true (List.Perm.refl _) (Or.inr (Or.inr (Or.inl hsem)))⟩

end

/-- A server that answers with the message it got. -/
def echo : BatchEnv where
  semInit := 0
  shmSendMsg := 0
  semWait := 0
  serve segs := segs

theorem serves_echo : Serves echo := by
  intro segs hw
  apply List.forall₂_same.mpr
  intro seg hseg
  obtain ⟨-, block, hblock, hlen⟩ := hw seg hseg
  refine ⟨rfl, rfl, ?_⟩
  intro block' hblock'
  obtain rfl := Option.some.inj (hblock.symm.trans hblock')
  exact Or.inl (Nat.le_of_eq hlen.symm)

/-- Shared memory with room for `free` blocks, numbered in the order of their allocation. -/
def fewBlocks (free n next : Nat) : Option Block × Nat :=
  if next < free then (some ⟨next, List.replicate n 0⟩, next + 1) else (none, next)

theorem sized_fewBlocks (free : Nat) : Sized (fewBlocks free) := by
  intro n next block next' h
  unfold fewBlocks at h
  split at h
  · cases h
    exact List.length_replicate
  · cases h

/-- One byte more than a slice, and room for the message block and one slice: the slice is freed
twice. -/
theorem ctcMqBatchSendMessage_frees_twice :
    ∃ out, ctcMqBatchSendMessage (logging (fewBlocks 2)) .debug 8192 echo
        (List.replicate 102401 7) 1 102401 (0, []) = .ok out ∧
      ¬ out.freed.Perm out.shm.2 := by
  obtain ⟨out, slices, again, hrun, hlog, hfreed, hagain⟩ :=
    ctcMqBatchSendMessage_log (sized_fewBlocks 2) .debug 8192 serves_echo
      (show 1 ≤ 102401 by decide) (Nat.le_of_eq List.length_replicate.symm) (by decide)
      (show fewBlocks 2 8192 0 = (some ⟨0, List.replicate 8192 0⟩, 1) from rfl) rfl
  refine ⟨out, hrun, ?_⟩
  have hrefused : refusedAt (fewBlocks 2) (sliceSizes 102401) 1 = some 1 := rfl
  rw [hfreed, hlog, perm_again_iff, hagain, hrefused]
  exact fun h => absurd (h 1 rfl) Nat.one_ne_zero

/-- With room for a third block everything is freed once. -/
theorem ctcMqBatchSendMessage_frees_once_two_slices :
    ∃ out, ctcMqBatchSendMessage (logging (fewBlocks 3)) .debug 8192 echo
        (List.replicate 102401 7) 1 102401 (0, []) = .ok out ∧
      out.freed.Perm out.shm.2 := by
  have hrefused : refusedAt (fewBlocks 3) (sliceSizes 102401) (fewBlocks 3 8192 0).2 = none := rfl
  obtain ⟨out, hrun, hiff⟩ := ctcMqBatchSendMessage_frees_once_iff (sized_fewBlocks 3) .debug 8192
    serves_echo (show 1 ≤ 102401 by decide) (Nat.le_of_eq List.length_replicate.symm) 0
  refine ⟨out, hrun, hiff.mpr (Or.inr (Or.inr (Or.inr ?_)))⟩
  rw [hrefused]
  intro k hk
  cases hk

end CantianConnector.Mq
