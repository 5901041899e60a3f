import CantianConnector.Lib.Bytes
import CantianConnector.Lib.Memory
import CantianConnector.Convert.Result

/-!
# LOB columns

`convert_blob_to_cantian` and `convert_blob_to_mysql`. A value of at most
`CTC_LOB_MAX_INLINE_SIZE` bytes is stored in the row, after a locator head; a longer one is
handed to the engine in pieces and the row holds the engine's locator. The engine's LOB store
is a parameter: `LobStore` has its two calls, `LobStore.Lawful` says that it returns the bytes
written.
-/

namespace CantianConnector.Convert

/-! ## Locators -/

/-- `CTC_LOB_LOCATOR_BUF_SIZE`. -/
def lobLocatorBufSize : Nat := 4012
/-- `offsetof(lob_locator_t, data)`. -/
def lobDataOffset : Nat := 12
/-- `CTC_LOB_MAX_INLINE_SIZE`. -/
def lobMaxInlineSize : Nat := lobLocatorBufSize - lobDataOffset
/-- `sizeof(lob_locator_t)`. -/
def lobLocatorSize : Nat := 44

/-- `head.size`. -/
def lobHeadSize (locator : List UInt8) : Nat := Bytes.ofLe (locator.take 4)

/-- `head.is_outline`, the lowest bit of the third word. -/
def lobIsOutline (locator : List UInt8) : Bool := (locator.getD 8 0).toNat % 2 == 1

/-- `get_lob_locator_size`. -/
def getLobLocatorSize (locator : List UInt8) : Nat :=
  if lobIsOutline locator then lobLocatorSize else lobHeadSize locator + lobDataOffset

/-- `get_blob_buffer_size`. -/
def getBlobBufferSize (remainSize : Nat) : Nat :=
  if remainSize < 1024 * 100 then 1024 * 8
  else if remainSize < 1024 * 1024 then 1024 * 100
  else if remainSize < 1024 * 1024 * 8 then 1024 * 1024
  else 1024 * 1024 * 8

/-- The locator of an inline value: size, type 0, `is_outline` cleared in a word of ones. -/
def inlineLocator (blob : List UInt8) : List UInt8 :=
  Bytes.le 4 blob.length ++ Bytes.le 4 0 ++ [0xFE, 0xFF, 0xFF, 0xFF] ++ blob

/-- The locator handed to the first write: bytes of ones with `head.size` cleared. -/
def freshLocator : List UInt8 := Bytes.le 4 0 ++ List.replicate (lobLocatorBufSize - 4) 0xFF

/-! ## The functions -/

/-- The LOB calls of the engine. -/
structure LobStore (σ : Type) where
  /-- `ctc_knl_write_lob`: state, locator, column, data and `force_outline` to the new state and
  locator. -/
  writeLob : σ → List UInt8 → Nat → List UInt8 → Bool → Except Int (σ × List UInt8)
  /-- `ctc_knl_read_lob`: state, locator, offset and size to the bytes read. -/
  readLob : σ → List UInt8 → Nat → Nat → Except Int (List UInt8)

section

variable {σ : Type} (store : LobStore σ)

/-- The loop of `convert_blob_to_cantian`; `rest` are the bytes from `offset` on. -/
def writePieces (columnId bufferSize : Nat) :
    Nat → σ → List UInt8 → List UInt8 → Bool → Result (σ × List UInt8)
  | 0, s, locator, _, _ => .ok (s, locator)
  | fuel + 1, s, locator, rest, forceOutline =>
    if rest = [] then .ok (s, locator)
    else
      match store.writeLob s locator columnId (rest.take bufferSize) forceOutline with
      | .error rc => .error (.code rc)
      | .ok (s, locator) =>
        writePieces columnId bufferSize fuel s locator (rest.drop bufferSize) true

/-- `convert_blob_to_cantian`: the engine's state, the bytes stored in the row (length prefix
and locator) and `field_len`. The allocation of the locator is assumed to succeed and to hold it,
as it does below 2^32 - 12 bytes (`convertBlobInBlock_eq`). -/
def convertBlobToCantian (build : Build) (s : σ) (blob : List UInt8) (columnId : Nat) :
    Result (σ × List UInt8 × Nat) := do
  let bufferSize := getBlobBufferSize blob.length
  cAssert build (decide (lobLocatorBufSize ≤ bufferSize))
  let (s, locator) ←
    (if blob.length ≤ lobMaxInlineSize then .ok (s, inlineLocator blob)
    else writePieces store columnId bufferSize blob.length s freshLocator blob false)
  let fieldLen := getLobLocatorSize locator
  return (s, Bytes.le 2 fieldLen ++ locator.take fieldLen, fieldLen)

/-- The loop of `convert_blob_to_mysql`; `acc` are the bytes read so far. `none` when a read
fails or returns nothing. -/
def readPieces (s : σ) (locator : List UInt8) (bufferSize : Nat) :
    Nat → Nat → List UInt8 → Option (List UInt8)
  | 0, _, acc => some acc
  | fuel + 1, remainSize, acc =>
    if remainSize = 0 then some acc
    else
      match store.readLob s locator acc.length (min remainSize bufferSize) with
      | .error _ => none
      | .ok [] => none
      | .ok bytes => readPieces s locator bufferSize fuel (remainSize - bytes.length) (acc ++ bytes)

/-- `convert_blob_to_mysql`: the block whose address is stored in the MySQL record, `none` for
a null pointer. -/
def convertBlobToMysql (s : σ) (cantian : Mem UInt8) : Option (List UInt8) :=
  let locator := cantian.read 0 lobLocatorSize
  let blobLen := lobHeadSize locator
  if blobLen = 0 then some []
  else if lobIsOutline locator then
    readPieces store s locator (getBlobBufferSize blobLen) blobLen blobLen []
  else some (cantian.read lobDataOffset blobLen)

/-- The failure of a write that the engine refused. -/
def LobStore.Refused (e : Failure) : Prop :=
  ∃ s locator columnId data forceOutline rc,
    store.writeLob s locator columnId data forceOutline = .error rc ∧ e = .code rc

variable {store}

theorem writePieces_error {columnId bufferSize fuel : Nat} {s : σ} {locator rest : List UInt8}
    {forceOutline : Bool} {e : Failure}
    (h : writePieces store columnId bufferSize fuel s locator rest forceOutline = .error e) :
    store.Refused e := by
  induction fuel generalizing s locator rest forceOutline with
  | zero => cases h
  | succ fuel ih =>
    rw [writePieces] at h
    split at h
    · cases h
    · split at h
      · rename_i rc hwrite
        cases h
        exact ⟨_, _, _, _, _, rc, hwrite, rfl⟩
      · exact ih h

end

/-! ## What the engine promises -/

/-- The engine returns the bytes written. `contents s k` is the value behind the outline
locator `k`; a write that succeeds makes a new locator or extends the one it is given, and
leaves all other values alone. -/
structure LobStore.Lawful {σ : Type} (store : LobStore σ)
    (contents : σ → List UInt8 → Option (List UInt8)) : Prop where
  first : ∀ s columnId (data : List UInt8) s' l', lobMaxInlineSize < data.length →
    store.writeLob s freshLocator columnId data false = .ok (s', l') →
    contents s' (l'.take lobLocatorSize) = some data ∧
      contents s (l'.take lobLocatorSize) = none ∧
      ∀ k v, contents s k = some v → contents s' k = some v
  append : ∀ s (l v : List UInt8) columnId (data : List UInt8) s' l',
    contents s (l.take lobLocatorSize) = some v →
    store.writeLob s l columnId data true = .ok (s', l') →
    contents s' (l'.take lobLocatorSize) = some (v ++ data) ∧
      (l'.take lobLocatorSize = l.take lobLocatorSize ∨
        contents s (l'.take lobLocatorSize) = none) ∧
      ∀ k w, k ≠ l.take lobLocatorSize → contents s k = some w → contents s' k = some w
  format : ∀ s (k v : List UInt8), contents s k = some v →
    k.length = lobLocatorSize ∧ lobHeadSize k = v.length ∧ lobIsOutline k = true
  read : ∀ s (k v : List UInt8) offset n, contents s k = some v → offset < v.length → 0 < n →
    ∃ bytes, store.readLob s k offset n = .ok bytes ∧ bytes ≠ [] ∧ bytes.length ≤ n ∧
      bytes <+: v.drop offset

/-- Every read of the value `v` behind the locator `k` returns a part of it, from the requested
offset on: at least one byte and at most as many as requested. -/
def LobStore.Serves {σ : Type} (store : LobStore σ) (s : σ) (k v : List UInt8) : Prop :=
  ∀ offset n, offset < v.length → 0 < n →
    ∃ bytes, store.readLob s k offset n = .ok bytes ∧ bytes ≠ [] ∧ bytes.length ≤ n ∧
      bytes <+: v.drop offset

theorem LobStore.Lawful.serves {σ : Type} {store : LobStore σ}
    {contents : σ → List UInt8 → Option (List UInt8)} (h : store.Lawful contents) {s : σ}
    {k v : List UInt8} (hk : contents s k = some v) : store.Serves s k v := by
  intro offset n hoff hn
  exact h.read s k v offset n hk hoff hn

/-! ## Locator heads -/

theorem getBlobBufferSize_ge (n : Nat) : 1024 * 8 ≤ getBlobBufferSize n := by
  unfold getBlobBufferSize
  split
  · omega
  · split
    · omega
    · split <;> omega

/-- The assertion that the buffer holds a locator. -/
theorem cAssert_bufferSize (build : Build) (n : Nat) :
    cAssert build (decide (lobLocatorBufSize ≤ getBlobBufferSize n)) = .ok () := by
  have hge := getBlobBufferSize_ge n
  have hbuf : decide (lobLocatorBufSize ≤ getBlobBufferSize n) = true := by
    unfold lobLocatorBufSize
    simp only [decide_eq_true_eq]
    omega
  rw [hbuf, cAssert_true]

/-- Storing a LOB value fails only when the engine refuses it. -/
theorem convertBlobToCantian_error {σ : Type} {store : LobStore σ} {build : Build} {s : σ}
    {blob : List UInt8} {columnId : Nat} {e : Failure}
    (h : convertBlobToCantian store build s blob columnId = .error e) :
    blob.length > lobMaxInlineSize ∧ store.Refused e := by
  unfold convertBlobToCantian at h
  dsimp only at h
  rw [cAssert_bufferSize, result_bind_ok] at h
  rcases result_bind_eq_error.mp h with hwrite | ⟨out, -, hout⟩
  · by_cases hinline : blob.length ≤ lobMaxInlineSize
    · rw [if_pos hinline] at hwrite
      cases hwrite
    · rw [if_neg hinline] at hwrite
      exact ⟨by omega, writePieces_error hwrite⟩
  · cases hout

theorem lobHeadSize_inline {blob : List UInt8} (h : blob.length < 2 ^ 32) (rest : List UInt8) :
    lobHeadSize (inlineLocator blob ++ rest) = blob.length := by
  have htake : (inlineLocator blob ++ rest).take 4 = Bytes.le 4 blob.length := by
    unfold inlineLocator
    simp only [List.append_assoc]
    exact List.take_left' (by simp)
  rw [lobHeadSize, htake, Bytes.ofLe_le_of_lt (by omega)]

theorem lobIsOutline_inline (blob rest : List UInt8) :
    lobIsOutline (inlineLocator blob ++ rest) = false := by
  have h8 : (inlineLocator blob ++ rest).getD 8 0 = 0xFE := by
    unfold inlineLocator
    simp only [List.getD_eq_getElem?_getD, List.append_assoc]
    rw [List.getElem?_append_right (by simp), List.getElem?_append_right (by simp)]
    simp
  rw [lobIsOutline, h8]
  rfl

theorem length_inlineLocator (blob : List UInt8) :
    (inlineLocator blob).length = blob.length + lobDataOffset := by
  simp [inlineLocator, lobDataOffset]
  omega

theorem lobIsOutline_take {l : List UInt8} :
    lobIsOutline (l.take lobLocatorSize) = lobIsOutline l := by
  simp only [lobIsOutline, List.getD_eq_getElem?_getD]
  rw [List.getElem?_take_of_lt (by decide)]

/-! ## Writing and reading pieces -/

section

variable {σ : Type} {store : LobStore σ} {contents : σ → List UInt8 → Option (List UInt8)}

/-- The pieces after the first one are appended to the value behind the locator. Locators
that held a value before (`base`) keep it. -/
theorem writePieces_append (h : store.Lawful contents) {columnId bufferSize : Nat} (fuel : Nat)
    (hbuffer : 0 < bufferSize) {base : σ} {s s' : σ} {l l' v rest : List UInt8}
    (hl : contents s (l.take lobLocatorSize) = some v)
    (hnew : contents base (l.take lobLocatorSize) = none)
    (hkeep : ∀ k w, contents base k = some w → contents s k = some w)
    (hfuel : rest.length ≤ fuel)
    (hrun : writePieces store columnId bufferSize fuel s l rest true = .ok (s', l')) :
    contents s' (l'.take lobLocatorSize) = some (v ++ rest) ∧
      ∀ k w, contents base k = some w → contents s' k = some w := by
  induction fuel generalizing s l v rest with
  | zero =>
    have hrest : rest = [] := List.length_eq_zero_iff.mp (by omega)
    subst hrest
    cases hrun
    exact ⟨by simpa using hl, hkeep⟩
  | succ fuel ih =>
    rw [writePieces] at hrun
    by_cases hrest : rest = []
    · rw [if_pos hrest] at hrun
      subst hrest
      cases hrun
      exact ⟨by simpa using hl, hkeep⟩
    · rw [if_neg hrest] at hrun
      have hpos : 0 < rest.length := List.length_pos_of_ne_nil hrest
      split at hrun
      · cases hrun
      · rename_i s1 l1 hwrite
        obtain ⟨hval, hold, hother⟩ := h.append s l v columnId _ s1 l1 hl hwrite
        have hkeep1 : ∀ k w, contents base k = some w → contents s1 k = some w := by
          intro k w hk
          refine hother k w ?_ (hkeep k w hk)
          rintro rfl
          rw [hnew] at hk
          cases hk
        have hnew1 : contents base (l1.take lobLocatorSize) = none := by
          rcases hold with hold | hold
          · rw [hold]
            exact hnew
          · by_contra hne
            obtain ⟨w, hw⟩ := Option.ne_none_iff_exists'.mp hne
            rw [hkeep _ w hw] at hold
            cases hold
        obtain ⟨hval2, hkeep2⟩ := ih hval hnew1 hkeep1 (by rw [List.length_drop]; omega) hrun
        refine ⟨?_, hkeep2⟩
        rw [hval2, List.append_assoc, List.take_append_drop]

/-- Reading pieces at increasing offsets reassembles the value. -/
theorem readPieces_spec {s : σ} {l v : List UInt8} (h : store.Serves s l v) (bufferSize : Nat)
    (hbuffer : 0 < bufferSize) (fuel : Nat) (acc rest : List UInt8) (hv : acc ++ rest = v)
    (hfuel : rest.length ≤ fuel) :
    readPieces store s l bufferSize fuel rest.length acc = some v := by
  induction fuel generalizing acc rest with
  | zero =>
    have hrest : rest = [] := List.length_eq_zero_iff.mp (by omega)
    subst hrest
    rw [readPieces, ← hv, List.append_nil]
  | succ fuel ih =>
    rw [readPieces]
    by_cases hrest : rest.length = 0
    · rw [if_pos hrest]
      have hnil : rest = [] := List.length_eq_zero_iff.mp hrest
      rw [← hv, hnil, List.append_nil]
    · have hoff : acc.length < v.length := by rw [← hv, List.length_append]; omega
      obtain ⟨bytes, hread, hne, hle, hpre⟩ := h acc.length (min rest.length bufferSize) hoff
        (by omega)
      rw [if_neg hrest, hread]
      have hdrop : v.drop acc.length = rest := by rw [← hv, List.drop_left]
      rw [hdrop] at hpre
      obtain ⟨tail, htail⟩ := hpre
      have hpos : 0 < bytes.length := List.length_pos_of_ne_nil hne
      have hlen : rest.length - bytes.length = tail.length := by
        rw [← htail, List.length_append]
        omega
      cases bytes with
      | nil => exact absurd rfl hne
      | cons b bs =>
        simp only
        rw [hlen]
        exact ih (acc ++ b :: bs) tail (by rw [List.append_assoc, htail, hv])
          (by rw [← htail, List.length_append] at hfuel; omega)

/-! ## Round trip -/

/-- A locator in the row, and the value behind it. -/
inductive LobAt (contents : σ → List UInt8 → Option (List UInt8)) (s : σ) :
    List UInt8 → List UInt8 → Prop
  | inline {blob : List UInt8} (h : blob.length ≤ lobMaxInlineSize) :
      LobAt contents s (inlineLocator blob) blob
  | outline {locator blob : List UInt8} (hsize : lobMaxInlineSize < blob.length)
      (hlen : locator.length = lobLocatorSize) (h : contents s locator = some blob) :
      LobAt contents s locator blob

/-- Values stored later leave the locator's value alone. -/
theorem LobAt.mono {s s' : σ} {locator blob : List UInt8} (h : LobAt contents s locator blob)
    (hkeep : ∀ k w, contents s k = some w → contents s' k = some w) :
    LobAt contents s' locator blob := by
  cases h with
  | inline h => exact .inline h
  | outline hsize hlen h => exact .outline hsize hlen (hkeep _ _ h)

/-- The number of bytes the locator of a value takes in the row. -/
def lobFieldLen (n : Nat) : Nat :=
  if n ≤ lobMaxInlineSize then n + lobDataOffset else lobLocatorSize

/-- A long value is outline after its pieces are written. -/
theorem writePieces_outline (h : store.Lawful contents) {columnId : Nat} {s s' : σ}
    {l' blob : List UInt8} (hblob : lobMaxInlineSize < blob.length)
    (hrun : writePieces store columnId (getBlobBufferSize blob.length) blob.length s freshLocator
      blob false = .ok (s', l')) :
    contents s' (l'.take lobLocatorSize) = some blob ∧
      ∀ k w, contents s k = some w → contents s' k = some w := by
  have hbuf := getBlobBufferSize_ge blob.length
  generalize getBlobBufferSize blob.length = size at hbuf hrun
  obtain ⟨n, hn⟩ : ∃ n, blob.length = n + 1 := ⟨blob.length - 1, by omega⟩
  have hne : blob ≠ [] := by
    rintro rfl
    simp at hn
  rw [hn, writePieces, if_neg hne] at hrun
  split at hrun
  · cases hrun
  · rename_i s1 l1 hwrite
    obtain ⟨hval, hnew, hkeep⟩ := h.first s columnId _ s1 l1
      (by rw [List.length_take]; unfold lobMaxInlineSize lobLocatorBufSize lobDataOffset at *; omega)
      hwrite
    obtain ⟨hval2, hkeep2⟩ := writePieces_append h n (by omega) hval hnew hkeep
      (by rw [List.length_drop]; omega) hrun
    rw [List.take_append_drop] at hval2
    exact ⟨hval2, hkeep2⟩

/-- Storing a LOB value leaves a locator for it in the row. -/
theorem convertBlobToCantian_spec (h : store.Lawful contents) {build : Build} {s s' : σ}
    {blob bytes : List UInt8} {columnId fieldLen : Nat} (hblob : blob.length < 2 ^ 32)
    (hrun : convertBlobToCantian store build s blob columnId = .ok (s', bytes, fieldLen)) :
    ∃ locator, bytes = Bytes.le 2 fieldLen ++ locator ∧ locator.length = fieldLen ∧
      fieldLen = lobFieldLen blob.length ∧ LobAt contents s' locator blob ∧
      ∀ k w, contents s k = some w → contents s' k = some w := by
  unfold convertBlobToCantian at hrun
  dsimp only at hrun
  obtain ⟨-, -, hrun⟩ := result_bind_eq_ok.mp hrun
  obtain ⟨⟨s1, l1⟩, hwrite, hout⟩ := result_bind_eq_ok.mp hrun
  simp only [result_pure, Except.ok.injEq, Prod.mk.injEq] at hout
  obtain ⟨rfl, rfl, rfl⟩ := hout
  by_cases hinline : blob.length ≤ lobMaxInlineSize
  · rw [if_pos hinline] at hwrite
    cases hwrite
    have hsize : getLobLocatorSize (inlineLocator blob) = (inlineLocator blob).length := by
      have h1 := lobIsOutline_inline blob []
      have h2 := lobHeadSize_inline hblob []
      rw [List.append_nil] at h1 h2
      rw [getLobLocatorSize, h1, h2, length_inlineLocator]
      rfl
    refine ⟨inlineLocator blob, ?_, hsize.symm, ?_, .inline hinline, fun _ _ hk => hk⟩
    · rw [hsize, List.take_length]
    · rw [hsize, length_inlineLocator, lobFieldLen, if_pos hinline]
  · rw [if_neg hinline] at hwrite
    obtain ⟨hval, hkeep⟩ := writePieces_outline h (by omega) hwrite
    obtain ⟨hlen, -, hout⟩ := h.format s1 _ blob hval
    have hsize : getLobLocatorSize l1 = lobLocatorSize := by
      rw [getLobLocatorSize, ← lobIsOutline_take, hout, if_pos rfl]
    refine ⟨l1.take lobLocatorSize, ?_, ?_, ?_, .outline (by omega) hlen hval, hkeep⟩
    · rw [hsize]
    · rw [hsize, hlen]
    · rw [hsize, lobFieldLen, if_neg hinline]

theorem lobHeadSize_read (cantian : Mem UInt8) {n : Nat} (h : 4 ≤ n) :
    lobHeadSize (cantian.read 0 n) = Bytes.ofLe (cantian.read 0 4) := by
  obtain ⟨k, rfl⟩ : ∃ k, n = 4 + k := ⟨n - 4, by omega⟩
  rw [lobHeadSize, Mem.read_add, List.take_left' (Mem.length_read _ _ _)]

theorem lobIsOutline_read (cantian : Mem UInt8) {n : Nat} (h : 9 ≤ n) :
    lobIsOutline (cantian.read 0 n) = ((cantian 8).toNat % 2 == 1) := by
  rw [lobIsOutline, List.getD_eq_getElem?_getD, Mem.getElem?_read _ (by omega), Nat.zero_add]
  rfl

/-- The bytes at `cantian_ptr` lead to a value: its length is in the head of the locator, and the
value follows there or the engine serves it. -/
def LobRow (store : LobStore σ) (s : σ) (cantian : Mem UInt8) (blob : List UInt8) : Prop :=
  lobHeadSize (cantian.read 0 lobLocatorSize) = blob.length ∧
    if lobIsOutline (cantian.read 0 lobLocatorSize) then
      store.Serves s (cantian.read 0 lobLocatorSize) blob
    else cantian.read lobDataOffset blob.length = blob

/-- **What a locator leads to is read**, however short the single reads are. -/
theorem convertBlobToMysql_row {s : σ} {cantian : Mem UInt8} {blob : List UInt8}
    (h : LobRow store s cantian blob) : convertBlobToMysql store s cantian = some blob := by
  obtain ⟨hhead, hdata⟩ := h
  unfold convertBlobToMysql
  simp only [hhead]
  split
  · rename_i h0
    rw [List.length_eq_zero_iff.mp h0]
  · cases hout : lobIsOutline (cantian.read 0 lobLocatorSize) with
    | true =>
      rw [hout, if_pos rfl] at hdata
      have hbuf := getBlobBufferSize_ge blob.length
      exact readPieces_spec hdata _ (by omega) _ [] blob rfl le_rfl
    | false =>
      rw [hout, if_neg Bool.false_ne_true] at hdata
      rw [if_neg Bool.false_ne_true, hdata]

theorem lobRow_inline {s : σ} {blob : List UInt8} (hblob : blob.length < 2 ^ 32)
    {cantian : Mem UInt8}
    (hread : cantian.read 0 (inlineLocator blob).length = inlineLocator blob) :
    LobRow store s cantian blob := by
  have hlen : 12 ≤ (inlineLocator blob).length := by
    rw [length_inlineLocator]
    exact Nat.le_add_left _ _
  have hhead := lobHeadSize_inline hblob []
  have hout := lobIsOutline_inline blob []
  rw [List.append_nil, ← hread, lobHeadSize_read _ (show 4 ≤ _ by omega),
    ← lobHeadSize_read _ (show 4 ≤ lobLocatorSize by decide)] at hhead
  rw [List.append_nil, ← hread, lobIsOutline_read _ (show 9 ≤ _ by omega),
    ← lobIsOutline_read _ (show 9 ≤ lobLocatorSize by decide)] at hout
  refine ⟨hhead, ?_⟩
  rw [length_inlineLocator, Nat.add_comm, Mem.read_add] at hread
  have hdata := (List.append_inj hread (by simp [lobDataOffset])).2
  rw [Nat.zero_add] at hdata
  rw [hout, if_neg Bool.false_ne_true, hdata]

theorem lobRow_outline (h : store.Lawful contents) {s : σ} {locator blob : List UInt8}
    (hval : contents s locator = some blob) {cantian : Mem UInt8}
    (hread : cantian.read 0 lobLocatorSize = locator) : LobRow store s cantian blob := by
  obtain ⟨-, hhead, hout⟩ := h.format s locator blob hval
  unfold LobRow
  rw [hread, if_pos hout]
  exact ⟨hhead, h.serves hval⟩

/-- A locator in the row leads to its value. -/
theorem LobAt.row (h : store.Lawful contents) {s : σ} {locator blob : List UInt8}
    (hat : LobAt contents s locator blob) (hblob : blob.length < 2 ^ 32) {cantian : Mem UInt8}
    (hread : cantian.read 0 locator.length = locator) : LobRow store s cantian blob := by
  cases hat with
  | inline _ => exact lobRow_inline hblob hread
  | outline _ hlen hval =>
    rw [hlen] at hread
    exact lobRow_outline h hval hread

/-- The size of a LOB value in its locator. -/
theorem LobAt.lobHeadSize_eq (h : store.Lawful contents) {s : σ} {locator blob : List UInt8}
    (hat : LobAt contents s locator blob) (hblob : blob.length < 2 ^ 32) {cantian : Mem UInt8}
    (hread : cantian.read 0 locator.length = locator) :
    lobHeadSize (cantian.read 0 lobLocatorSize) = blob.length :=
  (hat.row h hblob hread).1

/-- Reading a LOB value through its locator in the row. -/
theorem convertBlobToMysql_spec (h : store.Lawful contents) {s : σ} {locator blob : List UInt8}
    (hat : LobAt contents s locator blob) (hblob : blob.length < 2 ^ 32) {cantian : Mem UInt8}
    (hread : cantian.read 0 locator.length = locator) :
    convertBlobToMysql store s cantian = some blob := by
  apply convertBlobToMysql_row
  exact hat.row h hblob hread

end

end CantianConnector.Convert
