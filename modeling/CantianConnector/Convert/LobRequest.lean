import CantianConnector.Convert.LobPieces
import CantianConnector.Mq.Stub

/-!
# The request of a LOB write

`ctc_knl_write_lob` copies the locator of its caller into a request and, once the engine has
answered, back. The request has `MAX_LOB_LOCATOR_SIZE` bytes for it; the locator that
`convert_blob_to_cantian` allocates is as long as the value and its head, up to
`CTC_LOB_LOCATOR_BUF_SIZE`. The copies are compared with the field of the request in
`CopiesInside`.
-/

namespace CantianConnector.Convert

open CantianConnector.Mq (errConnectionFailed)

/-! ## The request -/

/-- `MAX_LOB_LOCATOR_SIZE`. -/
def maxLobLocatorSize : Nat := 4000

/-- `sizeof(ctc_handler_t)`. -/
def ctcHandlerSize : Nat := 80

/-! The members of `knl_write_lob_request`. -/

def locatorOff : Nat := ctcHandlerSize
def columnIdOff : Nat := locatorOff + maxLobLocatorSize
def dataLenOff : Nat := columnIdOff + 4
def forceOutlineOff : Nat := dataLenOff + 4
-- three bytes of padding
def resultOff : Nat := forceOutlineOff + 4
def dataOff : Nat := resultOff + 4

/-- `memcpy(req->locator, locator, locator_size)`. -/
def copyLocatorIn (req : Mem UInt8) (locator : List UInt8) : Mem UInt8 :=
  req.write locatorOff locator

/-- `memcpy(locator, req->locator, locator_size)`. -/
def copyLocatorOut (req : Mem UInt8) (locatorSize : Nat) : List UInt8 :=
  req.read locatorOff locatorSize

/-- The bytes of a new buffer, and `ctc_mq_batch_send_message` on a buffer and its size: the new
state, the return code and the buffer with the answer. -/
structure LobQueue (σ : Type) where
  fresh : σ → Mem UInt8
  send : σ → Mem UInt8 → Nat → σ × Int × Mem UInt8

/-- The state of the queue and the bytes of `*tch`. -/
structure LobSession (σ : Type) where
  queue : σ
  tch : List UInt8

section

variable {σ : Type} (queue : LobQueue σ)

/-- `ctc_knl_write_lob`: the session, the locator of the caller and the result. -/
def ctcKnlWriteLob (st : LobSession σ) (locator : List UInt8) (columnId : Nat) (data : List UInt8)
    (forceOutline : Bool) : LobSession σ × List UInt8 × Int :=
  let req := (queue.fresh st.queue).write 0 st.tch
  let req := copyLocatorIn req locator
  let req := req.write dataOff data
  let req := req.write dataLenOff (Bytes.le 4 data.length)
  let req := req.write columnIdOff (Bytes.le 4 columnId)
  let req := req.write forceOutlineOff [if forceOutline then 1 else 0]
  let sent := queue.send st.queue req (dataOff + data.length)
  let reply := sent.2.2
  let st := ⟨sent.1, reply.read 0 ctcHandlerSize⟩
  if sent.2.1 ≠ 0 then (st, locator, errConnectionFailed)
  else
    let result := Bytes.signed 4 (Bytes.ofLe (reply.read resultOff 4))
    (st, if result = 0 then copyLocatorOut reply locator.length else locator, result)

/-- The engine behind the queue. -/
def LobQueue.store (readLob : LobSession σ → List UInt8 → Nat → Nat → Except Int (List UInt8)) :
    LobStore (LobSession σ) where
  writeLob st locator columnId data forceOutline :=
    match ctcKnlWriteLob queue st locator columnId data forceOutline with
    | (st, locator, rc) => if rc = 0 then .ok (st, locator) else .error rc
  readLob := readLob

/-- The loop of `convert_blob_to_cantian`, with the locators it passes to the calls. -/
def writeLobLoop (columnId bufferSize : Nat) :
    Nat → LobSession σ → List UInt8 → List UInt8 → Bool →
      List (List UInt8) × Result (LobSession σ × List UInt8)
  | 0, st, locator, _, _ => ([], .ok (st, locator))
  | fuel + 1, st, locator, rest, forceOutline =>
    if rest = [] then ([], .ok (st, locator))
    else
      match ctcKnlWriteLob queue st locator columnId (rest.take bufferSize) forceOutline with
      | (st', locator', rc) =>
        if rc = 0 then
          let later :=
            writeLobLoop columnId bufferSize fuel st' locator' (rest.drop bufferSize) true
          (locator :: later.1, later.2)
        else ([locator], .error (.code rc))

end

/-- The locators that `convert_blob_to_cantian` passes to `ctc_knl_write_lob` for a value. -/
def blobWriteLocators {σ : Type} (queue : LobQueue σ) (st : LobSession σ) (blob : List UInt8)
    (columnId : Nat) : List (List UInt8) :=
  if blob.length ≤ lobMaxInlineSize then []
  else
    (writeLobLoop queue columnId (getBlobBufferSize blob.length) blob.length st
      (freshLocator.take (blobLocatorSize blob.length)) blob false).1

/-! ## One call -/

/-- The copies of a locator stay inside the field of the request: no more bytes than it has, no
other byte of the request is changed, and what is read back depends on the field alone. -/
structure CopiesInside (locator : List UInt8) : Prop where
  count : locator.length ≤ maxLobLocatorSize
  copyIn : ∀ req : Mem UInt8, ∀ a, a < locatorOff ∨ locatorOff + maxLobLocatorSize ≤ a →
    copyLocatorIn req locator a = req a
  copyOut : ∀ req req' : Mem UInt8,
    (∀ a, locatorOff ≤ a → a < locatorOff + maxLobLocatorSize → req a = req' a) →
      copyLocatorOut req locator.length = copyLocatorOut req' locator.length

theorem copiesInside_iff (locator : List UInt8) :
    CopiesInside locator ↔ locator.length ≤ maxLobLocatorSize := by
  constructor
  · exact CopiesInside.count
  · intro h
    have : Nontrivial UInt8 := ⟨0, 1, by decide⟩
    exact ⟨h, (Mem.write_within_iff _ _ _).mpr h, (Mem.read_within_iff _ _ _).mpr h⟩

section

variable {σ : Type} {queue : LobQueue σ}

/-- A call leaves the length of the locator alone. -/
theorem length_ctcKnlWriteLob (queue : LobQueue σ) (st : LobSession σ) (locator : List UInt8)
    (columnId : Nat) (data : List UInt8) (forceOutline : Bool) :
    (ctcKnlWriteLob queue st locator columnId data forceOutline).2.1.length = locator.length := by
  unfold ctcKnlWriteLob
  dsimp only
  generalize queue.send _ _ _ = sent
  split
  · rfl
  · dsimp only
    split
    · exact Mem.length_read _ _ _
    · rfl

/-! ## The calls of a value -/

/-- The loop returns what the loop over the engine behind the queue does. -/
theorem writeLobLoop_result
    (readLob : LobSession σ → List UInt8 → Nat → Nat → Except Int (List UInt8))
    (columnId bufferSize fuel : Nat) (st : LobSession σ) (locator rest : List UInt8)
    (forceOutline : Bool) :
    (writeLobLoop queue columnId bufferSize fuel st locator rest forceOutline).2 =
      writePieces (queue.store readLob) columnId bufferSize fuel st locator rest forceOutline := by
  induction fuel generalizing st locator rest forceOutline with
  | zero => rfl
  | succ fuel ih =>
    rw [writeLobLoop, writePieces]
    by_cases hrest : rest = []
    · rw [if_pos hrest, if_pos hrest]
    · rw [if_neg hrest, if_neg hrest]
      simp only [LobQueue.store]
      generalize ctcKnlWriteLob queue st locator columnId (rest.take bufferSize) forceOutline = call
      by_cases hrc : call.2.2 = 0
      · simp only [if_pos hrc]
        exact ih _ _ _ _
      · simp only [if_neg hrc]

/-- All locators of a run have the length of the first one. -/
theorem length_writeLobLoop {columnId bufferSize fuel : Nat} {st : LobSession σ}
    {locator rest : List UInt8} {forceOutline : Bool} :
    ∀ l ∈ (writeLobLoop queue columnId bufferSize fuel st locator rest forceOutline).1,
      l.length = locator.length := by
  induction fuel generalizing st locator rest forceOutline with
  | zero => exact List.forall_mem_nil _
  | succ fuel ih =>
    rw [writeLobLoop]
    split
    · exact List.forall_mem_nil _
    · have hlength := length_ctcKnlWriteLob queue st locator columnId
        (rest.take bufferSize) forceOutline
      generalize ctcKnlWriteLob queue st locator columnId (rest.take bufferSize) forceOutline = call
        at hlength ⊢
      dsimp only
      split
      · refine List.forall_mem_cons.mpr ⟨rfl, fun l hl => ?_⟩
        exact (ih l hl).trans hlength
      · exact List.forall_mem_cons.mpr ⟨rfl, List.forall_mem_nil _⟩

/-- A loop over a value that is not empty makes its first call with the first locator. -/
theorem mem_writeLobLoop {columnId bufferSize fuel : Nat} {st : LobSession σ}
    {locator rest : List UInt8} {forceOutline : Bool} (hfuel : 0 < fuel) (hrest : rest ≠ []) :
    locator ∈ (writeLobLoop queue columnId bufferSize fuel st locator rest forceOutline).1 := by
  obtain ⟨fuel, rfl⟩ := Nat.exists_eq_succ_of_ne_zero (Nat.pos_iff_ne_zero.mp hfuel)
  rw [writeLobLoop, if_neg hrest]
  dsimp only
  split <;> exact List.mem_cons_self

end

/-- The locator fits into the request if its size wraps around. -/
theorem blobLocatorSize_le_max_iff {n : Nat} (hn : n < 2 ^ 32) (hlong : lobMaxInlineSize < n) :
    blobLocatorSize n ≤ maxLobLocatorSize ↔ 2 ^ 32 - lobDataOffset ≤ n := by
  unfold blobLocatorSize lobMaxInlineSize maxLobLocatorSize lobLocatorBufSize lobDataOffset at *
  dsimp only
  split <;> omega

/-- Otherwise the calls are those of `convert_blob_to_cantian` on the engine behind the queue. -/
theorem blobWriteLocators_run {σ : Type} (queue : LobQueue σ)
    (readLob : LobSession σ → List UInt8 → Nat → Nat → Except Int (List UInt8))
    (st : LobSession σ) (blob : List UInt8) (columnId : Nat)
    (hlong : lobMaxInlineSize < blob.length) (hwrap : blob.length < 2 ^ 32 - lobDataOffset) :
    writeLobLoop queue columnId (getBlobBufferSize blob.length) blob.length st freshLocator blob
      false =
    (blobWriteLocators queue st blob columnId,
      writePieces (queue.store readLob) columnId (getBlobBufferSize blob.length) blob.length st
        freshLocator blob false) := by
  have hsize : blobLocatorSize blob.length = lobLocatorBufSize := by
    unfold blobLocatorSize lobMaxInlineSize lobLocatorBufSize lobDataOffset at *
    dsimp only
    rw [if_pos (by omega)]
  refine Prod.ext ?_ (writeLobLoop_result readLob _ _ _ _ _ _ _)
  rw [blobWriteLocators, if_neg (by omega), hsize,
    List.take_of_length_le (Nat.le_of_eq length_freshLocator)]

/-- **The locator stays in its field** exactly for the values that are not handed to the engine,
or whose length wraps `locator_size` around. -/
theorem blobWriteLocators_inside_iff {σ : Type} (queue : LobQueue σ) (st : LobSession σ)
    (blob : List UInt8) (columnId : Nat) (hblob : blob.length < 2 ^ 32) :
    (∀ locator ∈ blobWriteLocators queue st blob columnId, CopiesInside locator) ↔
      blob.length ≤ lobMaxInlineSize ∨ 2 ^ 32 - lobDataOffset ≤ blob.length := by
  unfold blobWriteLocators
  by_cases hinline : blob.length ≤ lobMaxInlineSize
  · rw [if_pos hinline]
    exact iff_of_true (List.forall_mem_nil _) (Or.inl hinline)
  · rw [if_neg hinline, or_iff_right hinline,
      ← blobLocatorSize_le_max_iff hblob (Nat.lt_of_not_le hinline)]
    have hlength : (freshLocator.take (blobLocatorSize blob.length)).length =
        blobLocatorSize blob.length := by
      rw [List.length_take, length_freshLocator]
      exact Nat.min_eq_left (blobLocatorSize_le _)
    simp only [copiesInside_iff]
    constructor
    · intro h
      rw [← hlength]
      refine h _ (mem_writeLobLoop ?_ ?_)
      · omega
      · rintro rfl
        exact hinline (Nat.zero_le _)
    · intro h locator hmem
      rw [length_writeLobLoop locator hmem, hlength]
      exact h

/-- An engine that accepts every write and answers with the request. -/
def echoQueue : LobQueue Unit where
  fresh _ := fun _ => 0
  send _ req _ := ((), 0, req)

/-- A value one byte longer than an inline one. -/
def outlineBlob : List UInt8 := List.replicate (lobMaxInlineSize + 1) 7

theorem length_outlineBlob : outlineBlob.length = lobMaxInlineSize + 1 := List.length_replicate

/-- A value of 5000 bytes is handed to the engine, with a locator that is too long. -/
theorem blobWriteLocators_5000 :
    ¬∀ locator ∈ blobWriteLocators echoQueue ⟨(), []⟩ (List.replicate 5000 7) 0,
      CopiesInside locator := by
  obtain ⟨blob, hblob⟩ : ∃ blob : List UInt8, blob = List.replicate 5000 7 := ⟨_, rfl⟩
  have hlen : blob.length = 5000 := by rw [hblob, List.length_replicate]
  rw [← hblob, blobWriteLocators_inside_iff echoQueue ⟨(), []⟩ blob 0 (by omega), hlen]
  decide

/-- The shortest value of the outline path: its locator has 4012 bytes. -/
theorem blobWriteLocators_outside :
    ¬∀ locator ∈ blobWriteLocators echoQueue ⟨(), []⟩ outlineBlob 0, CopiesInside locator := by
  intro h
  have hlocator := h (freshLocator.take (blobLocatorSize outlineBlob.length)) (by
    rw [blobWriteLocators, length_outlineBlob, if_neg (by decide)]
    exact mem_writeLobLoop (by decide) (List.cons_ne_nil _ _))
  have hcount := hlocator.count
  rw [length_outlineBlob, List.length_take, length_freshLocator] at hcount
  exact absurd hcount (by decide)

end CantianConnector.Convert
