import CantianConnector.Convert.Lob

/-!
# The pieces of a LOB value

Which calls `convert_blob_to_cantian` makes. The engine is wrapped in one that keeps a log of
its writes (`LobStore.logged`). A value of at most `CTC_LOB_MAX_INLINE_SIZE` bytes makes no call;
a longer one is cut into pieces that concatenate to it, and only the first piece is written
without `force_outline`. What either branch leaves in the row is read back by
`convert_blob_to_mysql` (`convertBlob_reconstructs_iff`), unless the size of the locator's block,
`12 + length` in 32 bits, wraps around: then the block has less than 12 bytes.
-/

namespace CantianConnector.Convert

/-- What a call of `ctc_knl_write_lob` passes to the engine. -/
structure LobCall where
  data : List UInt8
  forceOutline : Bool
deriving DecidableEq, Repr

/-- The engine with a log of the writes it accepted. -/
def LobStore.logged {σ : Type} (store : LobStore σ) : LobStore (σ × List LobCall) where
  writeLob st locator columnId data forceOutline :=
    match store.writeLob st.1 locator columnId data forceOutline with
    | .error rc => .error rc
    | .ok (s, locator) => .ok ((s, st.2 ++ [⟨data, forceOutline⟩]), locator)
  readLob st locator offset n := store.readLob st.1 locator offset n

/-- The calls that write `rest` in pieces of `bufferSize` bytes, the first one with the given
flag. -/
def PieceCalls (bufferSize : Nat) (rest : List UInt8) (forceOutline : Bool)
    (calls : List LobCall) : Prop :=
  (calls.map LobCall.data).flatten = rest ∧
    (calls = [] ∨ ∃ call later, calls = call :: later ∧
      call.data = rest.take bufferSize ∧ call.forceOutline = forceOutline ∧
      ∀ c ∈ later, c.forceOutline = true)

/-- Every call that the loop of `convert_blob_to_cantian` makes succeeds. -/
def WritesSucceed {σ : Type} (store : LobStore σ) (columnId bufferSize : Nat) :
    Nat → σ → List UInt8 → List UInt8 → Bool → Prop
  | 0, _, _, _, _ => True
  | fuel + 1, s, locator, rest, forceOutline =>
    rest = [] ∨ ∃ s' locator',
      store.writeLob s locator columnId (rest.take bufferSize) forceOutline = .ok (s', locator') ∧
        WritesSucceed store columnId bufferSize fuel s' locator' (rest.drop bufferSize) true

/-- `locator_size` of `convert_blob_to_cantian`. -/
def blobLocatorSize (remainSize : Nat) : Nat :=
  let locatorSize := (lobDataOffset + remainSize) % 2 ^ 32
  if locatorSize > lobLocatorBufSize then lobLocatorBufSize else locatorSize

/-- `convert_blob_to_cantian` with the block of `locator_size` bytes for the locator. -/
def convertBlobInBlock {σ : Type} (store : LobStore σ) (build : Build) (s : σ) (blob : List UInt8)
    (columnId : Nat) : Result (σ × List UInt8 × Nat) := do
  let bufferSize := getBlobBufferSize blob.length
  cAssert build (decide (lobLocatorBufSize ≤ bufferSize))
  let locatorSize := blobLocatorSize blob.length
  -- `head.size` is set to zero
  if locatorSize < 4 then .error .undefined
  else do
    let (s, locator) ←
      (if blob.length ≤ lobMaxInlineSize then .ok (s, inlineLocator blob)
      else
        writePieces store columnId bufferSize blob.length s (freshLocator.take locatorSize) blob
          false)
    -- the head is read again, and `field_len` bytes are copied into the row
    let fieldLen := getLobLocatorSize locator
    if locatorSize < lobDataOffset ∨ locatorSize < fieldLen then .error .undefined
    else return (s, Bytes.le 2 fieldLen ++ locator.take fieldLen, fieldLen)

section

variable {σ : Type} {store : LobStore σ}

theorem PieceCalls.nil (bufferSize : Nat) (forceOutline : Bool) :
    PieceCalls bufferSize [] forceOutline [] := ⟨rfl, Or.inl rfl⟩

/-- One more round of the loop: the pieces after the first one are forced outline. -/
theorem PieceCalls.cons {bufferSize : Nat} {rest : List UInt8} {forceOutline : Bool}
    {calls : List LobCall} (h : PieceCalls bufferSize (rest.drop bufferSize) true calls) :
    PieceCalls bufferSize rest forceOutline
      (⟨rest.take bufferSize, forceOutline⟩ :: calls) := by
  obtain ⟨hdata, hflags⟩ := h
  refine ⟨?_, Or.inr ⟨_, calls, rfl, rfl, rfl, ?_⟩⟩
  · rw [List.map_cons, List.flatten_cons, hdata, List.take_append_drop]
  · intro c hc
    rcases hflags with rfl | ⟨call, later, rfl, -, hcall, hlater⟩
    · cases hc
    · rcases List.mem_cons.mp hc with rfl | hc
      · exact hcall
      · exact hlater c hc

/-- The loop writes the rest of the value, whatever the log held before. -/
theorem writePieces_logged {columnId bufferSize : Nat} (hbuffer : 0 < bufferSize) (fuel : Nat)
    {s s' : σ} {log log' : List LobCall} {l l' rest : List UInt8} {forceOutline : Bool}
    (hfuel : rest.length ≤ fuel)
    (hrun : writePieces store.logged columnId bufferSize fuel (s, log) l rest forceOutline =
      .ok ((s', log'), l')) :
    ∃ calls, log' = log ++ calls ∧ PieceCalls bufferSize rest forceOutline calls := by
  induction fuel generalizing s log l rest forceOutline with
  | zero =>
    have hrest : rest = [] := List.length_eq_zero_iff.mp (by omega)
    subst hrest
    cases hrun
    exact ⟨[], by rw [List.append_nil], PieceCalls.nil bufferSize forceOutline⟩
  | succ fuel ih =>
    rw [writePieces] at hrun
    by_cases hrest : rest = []
    · subst hrest
      cases hrun
      exact ⟨[], by rw [List.append_nil], PieceCalls.nil bufferSize forceOutline⟩
    · have hpos : 0 < rest.length := List.length_pos_of_ne_nil hrest
      rw [if_neg hrest] at hrun
      cases hwrite : store.writeLob s l columnId (rest.take bufferSize) forceOutline with
      | error rc =>
        simp only [LobStore.logged, hwrite] at hrun
        cases hrun
      | ok out =>
        obtain ⟨s1, l1⟩ := out
        simp only [LobStore.logged, hwrite] at hrun
        obtain ⟨calls, hlog, hcalls⟩ := ih (by rw [List.length_drop]; omega) hrun
        refine ⟨⟨rest.take bufferSize, forceOutline⟩ :: calls, ?_, hcalls.cons⟩
        rw [hlog, List.append_assoc]
        rfl

/-- If every call succeeds, the loop ends with and without a log. -/
theorem WritesSucceed.writePieces_eq {columnId bufferSize fuel : Nat} {s : σ}
    {l rest : List UInt8} {forceOutline : Bool}
    (h : WritesSucceed store columnId bufferSize fuel s l rest forceOutline)
    (log : List LobCall) :
    ∃ s' log' l',
      writePieces store.logged columnId bufferSize fuel (s, log) l rest forceOutline =
        .ok ((s', log'), l') ∧
      writePieces store columnId bufferSize fuel s l rest forceOutline = .ok (s', l') := by
  induction fuel generalizing s log l rest forceOutline with
  | zero => exact ⟨s, log, l, rfl, rfl⟩
  | succ fuel ih =>
    rw [writePieces, writePieces]
    rcases h with rfl | ⟨s₁, l₁, hwrite, hlater⟩
    · exact ⟨s, log, l, rfl, rfl⟩
    · by_cases hrest : rest = []
      · rw [if_pos hrest, if_pos hrest]
        exact ⟨s, log, l, rfl, rfl⟩
      · rw [if_neg hrest, if_neg hrest]
        simp only [LobStore.logged, hwrite]
        exact ih hlater _

/-! ## Storing a value -/

/-- A value in the row: no call to the engine, the value after a locator head with its length. -/
def StoredInline (blob : List UInt8) (calls : List LobCall) (locator : List UInt8) : Prop :=
  blob.length ≤ lobMaxInlineSize ∧ calls = [] ∧ lobHeadSize locator = blob.length ∧
    lobIsOutline locator = false ∧ locator.drop lobDataOffset = blob

/-- A value handed to the engine: the pieces concatenate to it, the first one is too long to be
kept inline, and only that one is written without `force_outline`. -/
def StoredInPieces (blob : List UInt8) (calls : List LobCall) : Prop :=
  lobMaxInlineSize < blob.length ∧ (calls.map LobCall.data).flatten = blob ∧
    ∃ first later, calls = first :: later ∧ lobMaxInlineSize < first.data.length ∧
      first.forceOutline = false ∧ ∀ c ∈ later, c.forceOutline = true

theorem storedInline_inlineLocator {blob : List UInt8} (h : blob.length ≤ lobMaxInlineSize)
    (hblob : blob.length < 2 ^ 32) : StoredInline blob [] (inlineLocator blob) := by
  have hhead := lobHeadSize_inline hblob []
  have hout := lobIsOutline_inline blob []
  rw [List.append_nil] at hhead hout
  refine ⟨h, rfl, hhead, hout, ?_⟩
  apply List.drop_left'
  simp [lobDataOffset]

theorem PieceCalls.storedInPieces {blob : List UInt8} {calls : List LobCall}
    (hblob : lobMaxInlineSize < blob.length)
    (h : PieceCalls (getBlobBufferSize blob.length) blob false calls) :
    StoredInPieces blob calls := by
  obtain ⟨hdata, hcalls⟩ := h
  refine ⟨hblob, hdata, ?_⟩
  rcases hcalls with rfl | ⟨first, later, rfl, hfirst, hflag, hlater⟩
  · rw [← hdata] at hblob
    exact absurd hblob (Nat.not_lt_zero _)
  · refine ⟨first, later, rfl, ?_, hflag, hlater⟩
    have hbuf := getBlobBufferSize_ge blob.length
    rw [hfirst, List.length_take]
    unfold lobMaxInlineSize lobLocatorBufSize lobDataOffset at *
    omega

/-! ## The block of the locator -/

theorem length_freshLocator : freshLocator.length = lobLocatorBufSize := by
  rw [freshLocator, List.length_append, Bytes.length_le, List.length_replicate]
  rfl

theorem blobLocatorSize_le (n : Nat) : blobLocatorSize n ≤ lobLocatorBufSize := by
  unfold blobLocatorSize
  dsimp only
  split <;> omega

theorem blobLocatorSize_of_lt {n : Nat} (hn : n < 2 ^ 32 - lobDataOffset) :
    blobLocatorSize n = min (lobDataOffset + n) lobLocatorBufSize := by
  unfold blobLocatorSize lobLocatorBufSize lobDataOffset at *
  dsimp only
  rw [Nat.mod_eq_of_lt (by omega)]
  split <;> omega

/-- From this length on the size wraps around. -/
theorem blobLocatorSize_lt {n : Nat} (hn : n < 2 ^ 32) (hwrap : 2 ^ 32 - lobDataOffset ≤ n) :
    blobLocatorSize n < lobDataOffset := by
  unfold blobLocatorSize lobLocatorBufSize lobDataOffset at *
  dsimp only
  split <;> omega

theorem freshLocator_take {n : Nat} (hlong : lobMaxInlineSize < n)
    (hn : n < 2 ^ 32 - lobDataOffset) : freshLocator.take (blobLocatorSize n) = freshLocator := by
  apply List.take_of_length_le
  rw [length_freshLocator, blobLocatorSize_of_lt hn]
  unfold lobMaxInlineSize lobLocatorBufSize lobDataOffset at *
  omega

theorem getLobLocatorSize_inline {blob : List UInt8} (hblob : blob.length < 2 ^ 32) :
    getLobLocatorSize (inlineLocator blob) = (inlineLocator blob).length := by
  have hhead := lobHeadSize_inline hblob []
  have hout := lobIsOutline_inline blob []
  rw [List.append_nil] at hhead hout
  rw [getLobLocatorSize, hout, hhead, length_inlineLocator]
  rfl

/-- A block that does not wrap holds the locator: nothing is different from
`convertBlobToCantian`. -/
theorem convertBlobInBlock_eq {contents : σ → List UInt8 → Option (List UInt8)}
    (hlaw : store.Lawful contents) (build : Build) (s : σ) {blob : List UInt8} (columnId : Nat)
    (hblob : blob.length < 2 ^ 32 - lobDataOffset) :
    convertBlobInBlock store build s blob columnId =
      convertBlobToCantian store build s blob columnId := by
  have hsize := blobLocatorSize_of_lt hblob
  have hroom : ¬ blobLocatorSize blob.length < 4 := by
    rw [hsize]
    unfold lobLocatorBufSize lobDataOffset
    omega
  unfold convertBlobInBlock convertBlobToCantian
  dsimp only
  rw [cAssert_bufferSize, result_bind_ok, result_bind_ok, if_neg hroom]
  by_cases hinline : blob.length ≤ lobMaxInlineSize
  · have hfits : ¬ (blobLocatorSize blob.length < lobDataOffset ∨
        blobLocatorSize blob.length < getLobLocatorSize (inlineLocator blob)) := by
      rw [getLobLocatorSize_inline (by omega), length_inlineLocator, hsize]
      unfold lobMaxInlineSize lobLocatorBufSize lobDataOffset at *
      omega
    rw [if_pos hinline, result_bind_ok, if_pos hinline, result_bind_ok]
    exact if_neg hfits
  · rw [if_neg hinline, if_neg hinline, freshLocator_take (by omega) hblob]
    cases hwrite : writePieces store columnId (getBlobBufferSize blob.length) blob.length s
        freshLocator blob false with
    | error e => rfl
    | ok out =>
      obtain ⟨s', l'⟩ := out
      obtain ⟨hval, -⟩ := writePieces_outline hlaw (by omega) hwrite
      obtain ⟨-, -, hout⟩ := hlaw.format s' _ blob hval
      have hfits : ¬ (blobLocatorSize blob.length < lobDataOffset ∨
          blobLocatorSize blob.length < getLobLocatorSize l') := by
        rw [getLobLocatorSize, ← lobIsOutline_take, hout, if_pos rfl, hsize]
        unfold lobMaxInlineSize lobLocatorBufSize lobDataOffset lobLocatorSize at *
        omega
      rw [result_bind_ok, result_bind_ok]
      exact if_neg hfits

/-- A block that wraps is left behind its end, if the engine does not refuse a call before. -/
theorem convertBlobInBlock_wraps (store : LobStore σ) (build : Build) (s : σ) {blob : List UInt8}
    (columnId : Nat) (hblob : blob.length < 2 ^ 32)
    (hwrap : 2 ^ 32 - lobDataOffset ≤ blob.length) (out : σ × List UInt8 × Nat) :
    convertBlobInBlock store build s blob columnId ≠ .ok out := by
  have hshort := blobLocatorSize_lt hblob hwrap
  intro hrun
  unfold convertBlobInBlock at hrun
  dsimp only at hrun
  rw [cAssert_bufferSize, result_bind_ok] at hrun
  split at hrun
  · cases hrun
  · obtain ⟨written, -, hout⟩ := result_bind_eq_ok.mp hrun
    rw [if_pos (Or.inl hshort)] at hout
    cases hout

/-! ## Storing and reading -/

/-- What becomes of a value: it is stored in one of the two ways, and read back from the row in
every state that keeps the stored values. -/
def Reconstructed (store : LobStore σ) (contents : σ → List UInt8 → Option (List UInt8))
    (build : Build) (s : σ) (columnId : Nat) (blob : List UInt8) : Prop :=
  ∃ s' calls fieldLen locator,
    convertBlobInBlock store.logged build (s, []) blob columnId =
      .ok ((s', calls), Bytes.le 2 fieldLen ++ locator, fieldLen) ∧
    locator.length = fieldLen ∧
    (StoredInline blob calls locator ∨ StoredInPieces blob calls) ∧
    ∀ (t : σ) (cantian : Mem UInt8), (∀ k w, contents s' k = some w → contents t k = some w) →
      cantian.read 0 fieldLen = locator → convertBlobToMysql store t cantian = some blob

variable {contents : σ → List UInt8 → Option (List UInt8)}

theorem reconstructed_inline (build : Build) (s : σ) (columnId : Nat) {blob : List UInt8}
    (hinline : blob.length ≤ lobMaxInlineSize) :
    Reconstructed store contents build s columnId blob := by
  have hblob : blob.length < 2 ^ 32 - lobDataOffset := by
    unfold lobMaxInlineSize lobLocatorBufSize lobDataOffset at *
    omega
  have hfield := @getLobLocatorSize_inline blob (by omega)
  have hlen := length_inlineLocator blob
  refine ⟨s, [], _, inlineLocator blob, ?_, rfl,
    Or.inl (storedInline_inlineLocator hinline (by omega)), ?_⟩
  · have hroom : ¬ blobLocatorSize blob.length < 4 := by
      rw [blobLocatorSize_of_lt hblob]
      unfold lobLocatorBufSize lobDataOffset
      omega
    have hfits : ¬ (blobLocatorSize blob.length < lobDataOffset ∨
        blobLocatorSize blob.length < (inlineLocator blob).length) := by
      rw [hlen, blobLocatorSize_of_lt hblob]
      unfold lobMaxInlineSize lobLocatorBufSize lobDataOffset at *
      omega
    unfold convertBlobInBlock
    dsimp only
    rw [cAssert_bufferSize, result_bind_ok, if_neg hroom, if_pos hinline, result_bind_ok]
    dsimp only
    rw [hfield, if_neg hfits, List.take_length, result_pure]
  · intro t cantian _ hread
    exact convertBlobToMysql_row (lobRow_inline (by omega) hread)

theorem reconstructed_pieces (hlaw : store.Lawful contents) (build : Build) (s : σ)
    {columnId : Nat} {blob : List UInt8} (hlong : lobMaxInlineSize < blob.length)
    (hblob : blob.length < 2 ^ 32 - lobDataOffset)
    (hwrites : WritesSucceed store columnId (getBlobBufferSize blob.length) blob.length s
      freshLocator blob false) : Reconstructed store contents build s columnId blob := by
  obtain ⟨s', calls, l', hlogged, hwrite⟩ := hwrites.writePieces_eq []
  have hbuf := getBlobBufferSize_ge blob.length
  obtain ⟨calls', hcalls, hpieces⟩ := writePieces_logged (by omega) blob.length le_rfl hlogged
  rw [List.nil_append] at hcalls
  subst hcalls
  obtain ⟨hval, -⟩ := writePieces_outline hlaw hlong hwrite
  obtain ⟨hlen, -, hout⟩ := hlaw.format s' _ blob hval
  have hfield : getLobLocatorSize l' = lobLocatorSize := by
    rw [getLobLocatorSize, ← lobIsOutline_take, hout, if_pos rfl]
  have hsize : blobLocatorSize blob.length = lobLocatorBufSize := by
    rw [blobLocatorSize_of_lt hblob]
    unfold lobMaxInlineSize lobLocatorBufSize lobDataOffset at *
    omega
  refine ⟨s', calls, lobLocatorSize, l'.take lobLocatorSize, ?_, hlen,
    Or.inr (hpieces.storedInPieces hlong), ?_⟩
  · unfold convertBlobInBlock
    dsimp only
    rw [cAssert_bufferSize, result_bind_ok, if_neg (by rw [hsize]; decide), if_neg (by omega),
      freshLocator_take hlong hblob, hlogged, result_bind_ok]
    dsimp only
    rw [hfield, hsize, if_neg (by decide), result_pure]
  · intro t cantian hkeep hread
    refine convertBlobToMysql_spec hlaw (.outline hlong hlen (hkeep _ _ hval)) (by omega) ?_
    rw [hlen]
    exact hread

/-- **LOB values are stored and read as a whole.** If every call of a run succeeds and the engine
returns the bytes written, the calls that store a value hand over exactly its bytes, and it is read
back however short the single reads are: exactly for the lengths that do not wrap the size of the
locator's block around. -/
theorem convertBlob_reconstructs_iff (hlaw : store.Lawful contents) (build : Build) (s : σ)
    (columnId : Nat) {blob : List UInt8} (hblob : blob.length < 2 ^ 32)
    (hwrites : lobMaxInlineSize < blob.length →
      WritesSucceed store columnId (getBlobBufferSize blob.length) blob.length s
        (freshLocator.take (blobLocatorSize blob.length)) blob false) :
    Reconstructed store contents build s columnId blob ↔
      blob.length < 2 ^ 32 - lobDataOffset := by
  constructor
  · rintro ⟨s', calls, fieldLen, locator, hrun, -⟩
    by_contra hwrap
    exact convertBlobInBlock_wraps store.logged build (s, []) columnId hblob (by omega) _ hrun
  · intro hshort
    rcases Nat.lt_or_ge lobMaxInlineSize blob.length with hlong | hinline
    · have hcalls := hwrites hlong
      rw [freshLocator_take hlong hshort] at hcalls
      exact reconstructed_pieces hlaw build s hlong hshort hcalls
    · exact reconstructed_inline build s columnId hinline

end

/-! ## An engine for one value -/

/-- The locator of a value of the given length. -/
def oneLocator (n : Nat) : List UInt8 := Bytes.le 4 n ++ List.replicate 40 1

/-- An engine that keeps one value, and returns at most 1000 bytes a call. -/
def oneValue : LobStore (Option (List UInt8)) where
  writeLob
    | none, _, _, data, forceOutline =>
      if forceOutline = false ∧ data.length < 2 ^ 32 then .ok (some data, oneLocator data.length)
      else .error 1
    | some value, locator, _, data, forceOutline =>
      if forceOutline = true ∧ locator.take lobLocatorSize = oneLocator value.length ∧
          value.length + data.length < 2 ^ 32 then
        .ok (some (value ++ data), oneLocator (value.length + data.length))
      else .error 1
  readLob value _ offset n := .ok (((value.getD []).drop offset).take (min n 1000))

/-- What it keeps. -/
def oneValueContents (s : Option (List UInt8)) (k : List UInt8) : Option (List UInt8) :=
  s.filter fun value => k = oneLocator value.length ∧ value.length < 2 ^ 32

theorem oneLocator_take (n : Nat) : (oneLocator n).take lobLocatorSize = oneLocator n := by
  apply List.take_of_length_le
  simp [oneLocator, lobLocatorSize]

theorem oneValueContents_eq_some {s : Option (List UInt8)} {k value : List UInt8} :
    oneValueContents s k = some value ↔
      s = some value ∧ k = oneLocator value.length ∧ value.length < 2 ^ 32 := by
  unfold oneValueContents
  rw [Option.filter_eq_some_iff, decide_eq_true_eq]

theorem oneValue_lawful : oneValue.Lawful oneValueContents where
  first s columnId data s' l' _ hwrite := by
    cases s with
    | some value =>
      simp only [oneValue] at hwrite
      rw [if_neg (by simp)] at hwrite
      cases hwrite
    | none =>
      simp only [oneValue] at hwrite
      split at hwrite
      · rename_i hroom
        cases hwrite
        rw [oneLocator_take]
        exact ⟨oneValueContents_eq_some.mpr ⟨rfl, rfl, hroom.2⟩, rfl, fun _ _ hk => by cases hk⟩
      · cases hwrite
  append s l value columnId data s' l' hvalue hwrite := by
    obtain ⟨rfl, hl, -⟩ := oneValueContents_eq_some.mp hvalue
    simp only [oneValue] at hwrite
    split at hwrite
    · rename_i hroom
      cases hwrite
      rw [oneLocator_take]
      refine ⟨oneValueContents_eq_some.mpr ⟨rfl, by rw [List.length_append], ?_⟩, ?_, ?_⟩
      · rw [List.length_append]
        exact hroom.2.2
      · by_cases hsame : oneLocator (value.length + data.length) = oneLocator value.length
        · exact Or.inl (hsame.trans hl.symm)
        · right
          rw [Option.eq_none_iff_forall_ne_some]
          intro w hw
          obtain ⟨hw', hk, -⟩ := oneValueContents_eq_some.mp hw
          cases hw'
          exact hsame hk
      · intro k w hk hw
        obtain ⟨hw', hlocator, -⟩ := oneValueContents_eq_some.mp hw
        cases hw'
        exact absurd (hlocator.trans hl.symm) hk
    · cases hwrite
  format s k value hvalue := by
    obtain ⟨-, rfl, hlen⟩ := oneValueContents_eq_some.mp hvalue
    refine ⟨?_, ?_, ?_⟩
    · simp [oneLocator, lobLocatorSize]
    · rw [lobHeadSize, oneLocator, List.take_left' (by simp), Bytes.ofLe_le_of_lt (by omega)]
    · unfold lobIsOutline oneLocator
      rw [List.getD_eq_getElem?_getD, List.getElem?_append_right (by simp)]
      simp
  read s k value offset n hvalue hoff hn := by
    obtain ⟨rfl, -⟩ := oneValueContents_eq_some.mp hvalue
    refine ⟨_, rfl, ?_, ?_, List.take_prefix _ _⟩
    · intro hnil
      have hlen := congrArg List.length hnil
      rw [List.length_take, List.length_drop, Option.getD_some, List.length_nil] at hlen
      omega
    · rw [List.length_take]
      omega

/-- It accepts the pieces behind the first one. -/
theorem oneValue_append (columnId bufferSize fuel : Nat) {value l rest : List UInt8}
    (hl : l.take lobLocatorSize = oneLocator value.length)
    (hlen : value.length + rest.length < 2 ^ 32) :
    WritesSucceed oneValue columnId bufferSize fuel (some value) l rest true := by
  induction fuel generalizing value l rest with
  | zero => trivial
  | succ fuel ih =>
    right
    have htake : (rest.take bufferSize).length ≤ rest.length := List.length_take_le' _ _
    refine ⟨some (value ++ rest.take bufferSize), _, if_pos ⟨rfl, hl, by omega⟩, ?_⟩
    apply ih
    · rw [oneLocator_take, List.length_append]
    · have hsplit := congrArg List.length (List.take_append_drop bufferSize rest)
      rw [List.length_append] at hsplit ⊢
      omega

/-- It accepts every value that has a length. -/
theorem oneValue_writes (columnId bufferSize fuel : Nat) (l : List UInt8) {blob : List UInt8}
    (hblob : blob.length < 2 ^ 32) :
    WritesSucceed oneValue columnId bufferSize fuel none l blob false := by
  cases fuel with
  | zero => trivial
  | succ fuel =>
    right
    have htake : (blob.take bufferSize).length ≤ blob.length := List.length_take_le' _ _
    refine ⟨some (blob.take bufferSize), _, if_pos ⟨rfl, by omega⟩, ?_⟩
    apply oneValue_append
    · exact oneLocator_take _
    · have hsplit := congrArg List.length (List.take_append_drop bufferSize blob)
      rw [List.length_append] at hsplit
      omega

/-- A value of 10000 bytes, in two pieces. -/
theorem convertBlob_reconstructs_10000 :
    Reconstructed oneValue oneValueContents .debug none 0 (List.replicate 10000 7) := by
  obtain ⟨blob, hblob⟩ : ∃ blob : List UInt8, blob = List.replicate 10000 7 := ⟨_, rfl⟩
  have hlen : blob.length = 10000 := by rw [hblob, List.length_replicate]
  rw [← hblob]
  refine (convertBlob_reconstructs_iff oneValue_lawful .debug none 0 (by omega) ?_).mpr ?_
  · intro _
    exact oneValue_writes _ _ _ _ (by omega)
  · rw [hlen, lobDataOffset]
    omega

/-- The longest value: its locator has a block of 11 bytes. -/
theorem convertBlob_wraps :
    blobLocatorSize (2 ^ 32 - 1) = 11 ∧
      WritesSucceed oneValue 0 (getBlobBufferSize (2 ^ 32 - 1)) (2 ^ 32 - 1) none
        (freshLocator.take 11) (List.replicate (2 ^ 32 - 1) 7) false ∧
      ¬ Reconstructed oneValue oneValueContents .debug none 0 (List.replicate (2 ^ 32 - 1) 7) := by
  refine ⟨by decide, ?_, ?_⟩
  · apply oneValue_writes
    rw [List.length_replicate]
    omega
  · rintro ⟨s', calls, fieldLen, locator, hrun, -⟩
    refine convertBlobInBlock_wraps oneValue.logged .debug (none, []) 0 ?_ ?_ _ hrun
    · rw [List.length_replicate]
      omega
    · rw [List.length_replicate, lobDataOffset]
      omega

end CantianConnector.Convert
