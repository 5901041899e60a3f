import CantianConnector.Handler.Prefetch
import CantianConnector.Lib.Machine

/-!
# The row id after a read

`position` takes the id of the current row from the engine, or from `m_rowids` at the cursor
when the row came with a batch. A read that bypasses the batch has to invalidate the cursor.
`index_read` does so only if the record buffer holds rows, and the buffer is empty behind a batch
of one row or behind a batch that ends with the buffer: the cursor then still points into the
old batch.
-/

namespace CantianConnector.Handler

/-! ## Runs -/

/-- The read calls of a scan. -/
inductive Call (κ : Type) where
  | rndNext (passthru : Bool)
  | indexFetch
  | indexRead (key : Except Int κ)

section

variable {σ ρ κ : Type}

/-- The handler and what the last call returned. -/
structure ScanState (σ ρ : Type) where
  handler : HaCtc σ ρ
  last : Option (Outcome ρ)

variable (engine : Engine σ ρ κ) (recLen : Nat)

/-- One call. -/
def scanStep (st : ScanState σ ρ) (call : Call κ) : ScanState σ ρ :=
  let out :=
    match call with
    | .rndNext passthru => rndNext engine recLen passthru st.handler
    | .indexFetch => indexFetch engine recLen st.handler
    | .indexRead key => indexRead engine key st.handler
  ⟨out.2, some out.1⟩

/-- If the last call returned a row, `position` stores the id of that row. -/
def PositionRight (st : ScanState σ ρ) : Prop :=
  ∀ buf, st.last = some (.row buf) →
    ∃ row, buf = some row ∧ position engine st.handler = some row.rowid

/-- An `index_read` finds rows in the record buffer, or an invalid cursor. -/
def CursorFresh (st : ScanState σ ρ) : Call κ → Prop
  | .indexRead _ => 0 < records st.handler ∨ st.handler.curPosInBuf = invalidMaxUint32
  | _ => True

/-- `ctc_position` stores the id of the row read last by itself, and a batch fits the arrays. -/
structure PositionLaw : Prop where
  rndNext : ∀ s row s', engine.rndNext s = (.ok (some row), s') → engine.position s' = row.rowid
  generalFetch : ∀ s row s', engine.generalFetch s = (.ok (some row), s') →
    engine.position s' = row.rowid
  indexRead : ∀ key s row s', engine.indexRead key s = (.ok (some row), s') →
    engine.position s' = row.rowid
  rndPrefetch : ∀ n s batch s', engine.rndPrefetch n s = (.ok batch, s') →
    batch.length ≤ maxPrefetchRecNum
  generalPrefetch : ∀ n s batch s', engine.generalPrefetch n s = (.ok batch, s') →
    batch.length ≤ maxPrefetchRecNum

/-! ## The cursor -/

/-- The cursor is invalid, or points at the row returned last, whenever the buffer holds rows. -/
structure Tracks (recLen : Nat) (h : HaCtc σ ρ) : Prop where
  direct : Direct h → h.curPosInBuf = invalidMaxUint32
  buffered : ∀ buf, h.recBuf = some buf → buf.count ≠ 0 →
    h.curPosInBuf = invalidMaxUint32 ∨ ∃ batch p, Reading recLen h buf batch p

/-- The outcome of a call and the handler it leaves. -/
def Located (out : Outcome ρ × HaCtc σ ρ) : Prop :=
  Tracks recLen out.2 ∧
    ∀ buf, out.1 = .row buf → ∃ row, buf = some row ∧ position engine out.2 = some row.rowid

variable {engine recLen} {h : HaCtc σ ρ}

theorem position_of_invalid (hcur : h.curPosInBuf = invalidMaxUint32) :
    position engine h = some (engine.position h.tch) := by
  rw [position, if_pos hcur]

theorem Reading.position_eq {buf : RecordBuffer ρ} {batch : List (Row ρ)} {p : Nat}
    (hr : Reading recLen h buf batch p) {row : Row ρ} (hrow : batch[p]? = some row) :
    position engine h = some row.rowid := by
  have hvalid : h.curPosInBuf ≠ invalidMaxUint32 := by
    have hlt := hr.lt
    have hle := hr.length_le
    rw [hr.pos]
    unfold maxPrefetchRecNum at hle
    unfold invalidMaxUint32
    omega
  rw [position, if_neg hvalid, hr.pos]
  exact hr.rowids p row hrow

theorem Reading.tracks {buf : RecordBuffer ρ} {batch : List (Row ρ)} {p : Nat}
    (hr : Reading recLen h buf batch p) : Tracks recLen h where
  direct hd := absurd (hd buf hr.recBuf) (Nat.ne_of_gt hr.max_pos)
  buffered buf' hbuf' _ := by
    obtain rfl : buf = buf' := Option.some.inj (hr.recBuf.symm.trans hbuf')
    exact .inr ⟨batch, p, hr⟩

theorem tracks_of_invalid (hcur : h.curPosInBuf = invalidMaxUint32) : Tracks recLen h where
  direct _ := hcur
  buffered _ _ _ := .inl hcur

/-! ## One call -/

/-- A row read directly from the engine: the cursor has to be invalid. -/
theorem located_direct {reply : Except Int (Option (Row ρ))} {tch : σ} {rcRet : Outcome ρ}
    (hrc : ∀ buf, rcRet ≠ .row buf) (hcur : h.curPosInBuf = invalidMaxUint32)
    (hpos : ∀ row, reply = .ok (some row) → engine.position tch = row.rowid) :
    Located engine recLen (processCantianRecord rcRet reply, { h with tch := tch }) := by
  refine ⟨tracks_of_invalid hcur, ?_⟩
  intro buf hbuf
  match reply with
  | .error code => cases hbuf
  | .ok none => exact absurd hbuf (hrc buf)
  | .ok (some row) =>
    obtain rfl := Outcome.row.inj hbuf
    refine ⟨row, rfl, ?_⟩
    rw [← hpos row rfl]
    exact position_of_invalid hcur

theorem located_prefetch {prefetch : Nat → σ → Except Int (List (Row ρ)) × σ}
    (hle : ∀ n s batch s', prefetch n s = (.ok batch, s') → batch.length ≤ maxPrefetchRecNum)
    {buf : RecordBuffer ρ} (hbuf : h.recBuf = some buf) (hmax : buf.maxRecords ≠ 0)
    (hold : buf.count = 0 ∨ h.curPosInBuf = invalidMaxUint32) :
    Located engine recLen (prefetchAndFillRecordBuffer recLen prefetch h buf) := by
  -- without a new batch only the engine's side changes
  have hkept : ∀ tch : σ, Tracks recLen { h with tch := tch } := by
    intro tch
    refine ⟨?_, ?_⟩
    · intro hd
      exact absurd (hd buf hbuf) hmax
    · intro buf' hbuf' hcount
      obtain rfl : buf = buf' := Option.some.inj (hbuf.symm.trans hbuf')
      rcases hold with hzero | hcur
      · exact absurd hzero hcount
      · exact .inl hcur
  match hreply : prefetch recLen h.tch with
  | (.error code, tch) =>
    have hout : prefetchAndFillRecordBuffer recLen prefetch h buf =
        (.error code, { h with tch := tch }) := by
      unfold prefetchAndFillRecordBuffer
      rw [hreply]
    rw [hout]
    refine ⟨hkept tch, ?_⟩
    intro row hrow
    cases hrow
  | (.ok [], tch) =>
    rw [prefetch_empty hreply]
    refine ⟨hkept tch, ?_⟩
    intro row hrow
    cases hrow
  | (.ok (first :: rest), tch) =>
    obtain ⟨h', buf', hout, -, hr⟩ :=
      prefetch_reading (Nat.pos_of_ne_zero hmax) hreply (hle _ _ _ _ hreply)
    rw [hout]
    refine ⟨hr.tracks, ?_⟩
    intro row hrow
    obtain rfl := Outcome.row.inj hrow
    exact ⟨first, rfl, hr.position_eq rfl⟩

theorem located_behind {next : σ → Except Int (Option (Row ρ)) × σ}
    {prefetch : Nat → σ → Except Int (List (Row ρ)) × σ}
    (hle : ∀ n s batch s', prefetch n s = (.ok batch, s') → batch.length ≤ maxPrefetchRecNum)
    {buf : RecordBuffer ρ} (hbuf : h.recBuf = some buf) (hmax : buf.maxRecords ≠ 0)
    (hcount : buf.count ≠ 0)
    (hcur : (h.actualFetchedNums + (2 ^ 32 - 1)) % 2 ^ 32 ≤ h.curPosInBuf) :
    Located engine recLen (fetchNext recLen next prefetch h) := by
  rw [fetchNext_behind hbuf hmax hcount hcur]
  split
  · refine ⟨tracks_of_invalid rfl, ?_⟩
    intro row hrow
    cases hrow
  · apply located_prefetch hle
    · exact hbuf
    · exact hmax
    · exact .inr rfl

/-- Every fetch leaves the cursor on the row it returns. -/
theorem located_fetchNext {next : σ → Except Int (Option (Row ρ)) × σ}
    {prefetch : Nat → σ → Except Int (List (Row ρ)) × σ}
    (hnext : ∀ s row s', next s = (.ok (some row), s') → engine.position s' = row.rowid)
    (hle : ∀ n s batch s', prefetch n s = (.ok batch, s') → batch.length ≤ maxPrefetchRecNum)
    (ht : Tracks recLen h) : Located engine recLen (fetchNext recLen next prefetch h) := by
  by_cases hd : Direct h
  · rw [fetchNext_direct hd]
    apply located_direct
    · intro buf hbuf
      cases hbuf
    · exact ht.direct hd
    · intro row hrow
      exact hnext h.tch row _ (Prod.ext hrow rfl)
  · obtain ⟨buf, hbuf, hmax⟩ : ∃ buf, h.recBuf = some buf ∧ buf.maxRecords ≠ 0 := by
      unfold Direct at hd
      push Not at hd
      exact hd
    by_cases hcount : buf.count = 0
    · rw [fetchNext_empty hbuf hmax hcount]
      exact located_prefetch hle hbuf hmax (.inl hcount)
    · rcases ht.buffered buf hbuf hcount with hcur | ⟨batch, p, hr⟩
      · apply located_behind hle hbuf hmax hcount
        rw [hcur]
        exact fetched_sub_one_le_invalid _
      · by_cases hlt : p + 1 < batch.length
        · obtain ⟨h', buf', hout, -, hr'⟩ :=
            @fetchNext_reading σ ρ recLen next prefetch h buf batch p hr hlt
          rw [hout]
          refine ⟨hr'.tracks, ?_⟩
          intro row hrow
          obtain rfl := Outcome.row.inj hrow
          exact ⟨_, List.getElem?_eq_getElem hlt, hr'.position_eq (List.getElem?_eq_getElem hlt)⟩
        · apply located_behind hle hbuf hmax hcount
          have hlast := hr.lt
          rw [hr.fetched_sub_one, hr.pos]
          omega

theorem located_rndNext (hLaw : PositionLaw engine) (passthru : Bool) (ht : Tracks recLen h) :
    Located engine recLen (rndNext engine recLen passthru h) := by
  unfold rndNext
  split
  · refine ⟨ht, ?_⟩
    intro row hrow
    cases hrow
  · exact located_fetchNext hLaw.rndNext hLaw.rndPrefetch ht

/-- With rows in the buffer, or with an invalid cursor, the row comes from the engine. -/
theorem located_indexRead (hLaw : PositionLaw engine) (key : Except Int κ)
    (hFresh : 0 < records h ∨ h.curPosInBuf = invalidMaxUint32) :
    Located engine recLen (indexRead engine key h) := by
  have hcur : (if 0 < records h then resetRecBuf false h else h).curPosInBuf =
      invalidMaxUint32 := by
    split
    · rfl
    · rename_i hempty
      exact hFresh.resolve_left hempty
  unfold indexRead
  cases key with
  | error code =>
    refine ⟨tracks_of_invalid hcur, ?_⟩
    intro row hrow
    cases hrow
  | ok key =>
    apply located_direct
    · intro buf hbuf
      cases hbuf
    · exact hcur
    · intro row hrow
      exact hLaw.indexRead key _ row _ (Prod.ext hrow rfl)

/-! ## Whole runs -/

theorem Located.scanState {out : Outcome ρ × HaCtc σ ρ} (hl : Located engine recLen out) :
    Tracks recLen (ScanState.mk out.2 (some out.1)).handler ∧
      PositionRight engine ⟨out.2, some out.1⟩ := by
  refine ⟨hl.1, ?_⟩
  intro buf hbuf
  exact hl.2 buf (Option.some.inj hbuf)

/-- What one call keeps: the cursor stays on the row that was returned last. -/
theorem scanStep_keeps (hLaw : PositionLaw engine) (st : ScanState σ ρ) (call : Call κ)
    (hInv : Tracks recLen st.handler ∧ PositionRight engine st) (hFresh : CursorFresh st call) :
    Tracks recLen (scanStep engine recLen st call).handler ∧
      PositionRight engine (scanStep engine recLen st call) := by
  cases call with
  | rndNext passthru => exact (located_rndNext hLaw passthru hInv.1).scanState
  | indexFetch =>
    exact (located_fetchNext hLaw.generalFetch hLaw.generalPrefetch hInv.1).scanState
  | indexRead key => exact (located_indexRead hLaw key hFresh).scanState

/-- The state after `rnd_init` or `index_init`. -/
def scanStart (canPrefetchRecords : Bool) (recBuffLength : Nat) (tch : σ) (h : HaCtc σ ρ) :
    ScanState σ ρ :=
  ⟨initScan canPrefetchRecords recBuffLength tch h, none⟩

/-- **The row id after a read.** In every run in which each `index_read` finds rows in the record
buffer or an invalid cursor, whenever the last call returned a row, `position` stores the id of
that row, in every state of the run. -/
theorem position_in_fresh_runs (hLaw : PositionLaw engine) (canPrefetchRecords : Bool)
    (recBuffLength : Nat) (tch : σ) (h : HaCtc σ ρ) {calls : List (Call κ)}
    (hRun : Machine.Guarded (scanStep engine recLen) CursorFresh
      (scanStart canPrefetchRecords recBuffLength tch h) calls) (k : Nat) :
    PositionRight engine ((calls.take k).foldl (scanStep engine recLen)
      (scanStart canPrefetchRecords recBuffLength tch h)) := by
  have hInit : Tracks recLen (scanStart canPrefetchRecords recBuffLength tch h).handler ∧
      PositionRight engine (scanStart canPrefetchRecords recBuffLength tch h) := by
    refine ⟨tracks_of_invalid rfl, ?_⟩
    intro buf hbuf
    cases hbuf
  exact (Machine.invariant_of_guarded (scanStep_keeps hLaw) hInit hRun k).2

end

/-! ## A stale cursor -/

/-- An engine whose search keys are the rows they find. The cursor remembers the row read last
and the rows that follow. -/
def keyedRows : Engine (UInt64 × List (Row Unit)) Unit (List (Row Unit)) where
  rndNext s := nextOf s.1 s.2
  rndPrefetch _ s := batchOf s.1 s.2
  generalFetch s := nextOf s.1 s.2
  generalPrefetch _ s := batchOf s.1 s.2
  indexRead key s := nextOf s.1 key
  position s := s.1
where
  nextOf (current : UInt64) : List (Row Unit) →
      Except Int (Option (Row Unit)) × UInt64 × List (Row Unit)
    | [] => (.ok none, current, [])
    | row :: rest => (.ok (some row), row.rowid, rest)
  batchOf (current : UInt64) (rows : List (Row Unit)) :
      Except Int (List (Row Unit)) × UInt64 × List (Row Unit) :=
    (.ok (rows.take maxPrefetchRecNum),
      ((rows.take maxPrefetchRecNum).getLast?.map Row.rowid).getD current,
      rows.drop maxPrefetchRecNum)

theorem keyedRows_nextOf {current : UInt64} {rows : List (Row Unit)} {row : Row Unit}
    {s : UInt64 × List (Row Unit)} (h : keyedRows.nextOf current rows = (.ok (some row), s)) :
    keyedRows.position s = row.rowid := by
  cases rows with
  | nil => cases h
  | cons first rest =>
    cases h
    rfl

theorem keyedRows_law : PositionLaw keyedRows where
  rndNext _ _ _ h := keyedRows_nextOf h
  generalFetch _ _ _ h := keyedRows_nextOf h
  indexRead _ _ _ _ h := keyedRows_nextOf h
  rndPrefetch _ _ _ _ h := by
    cases h
    exact List.length_take_le _ _
  generalPrefetch _ _ _ _ h := by
    cases h
    exact List.length_take_le _ _

def keyedRow (rowid : UInt64) : Row Unit := ⟨rowid, 16, (), Nat.succ_pos 15⟩

/-- An index scan that may buffer 99 rows. -/
def indexScan : ScanState (UInt64 × List (Row Unit)) Unit :=
  scanStart true 512 (0, [])
    { tch := (0, []), recBuf := none, prefetchBuf := [], recordLens := [], rowids := []
      actualFetchedNums := invalidMaxUint32, curPosInBuf := invalidMaxUint32
      curOffInPrefetchBuf := 0, curFillBufIndex := 0 }

/-- One search finds the rows 1 and 2, the next one row 3. -/
def staleRun : List (Call (List (Row Unit))) :=
  [.indexRead (.ok [keyedRow 1, keyedRow 2]), .indexFetch, .indexFetch,
    .indexRead (.ok [keyedRow 3])]

/-- Row 2 came in a batch of one row; its id is stored for row 3. -/
theorem position_stale_after_one_row :
    PositionLaw keyedRows ∧
      (staleRun.foldl (scanStep keyedRows 64) indexScan).last = some (.row (some (keyedRow 3))) ∧
      position keyedRows (staleRun.foldl (scanStep keyedRows 64) indexScan).handler = some 2 ∧
      ¬ PositionRight keyedRows (staleRun.foldl (scanStep keyedRows 64) indexScan) := by
  refine ⟨keyedRows_law, rfl, rfl, ?_⟩
  intro hright
  obtain ⟨row, hrow, hid⟩ := hright _ rfl
  obtain rfl := Option.some.inj hrow
  have hstale : position keyedRows (staleRun.foldl (scanStep keyedRows 64) indexScan).handler =
      some 2 := rfl
  rw [hstale] at hid
  revert hid
  decide

/-- A search in the middle of a batch of three rows. -/
def freshRun : List (Call (List (Row Unit))) :=
  [.indexRead (.ok [keyedRow 1, keyedRow 2, keyedRow 3, keyedRow 4]), .indexFetch, .indexFetch,
    .indexRead (.ok [keyedRow 5])]

theorem position_in_fresh_run :
    position keyedRows ((freshRun.take 3).foldl (scanStep keyedRows 64) indexScan).handler =
        some 3 ∧
      position keyedRows ((freshRun.take 4).foldl (scanStep keyedRows 64) indexScan).handler =
        some 5 := by
  have hRun : Machine.Guarded (scanStep keyedRows 64) CursorFresh indexScan freshRun := by
    refine ⟨.inr rfl, trivial, trivial, .inl ?_, trivial⟩
    decide
  have hright := @position_in_fresh_runs _ _ _ keyedRows 64 keyedRows_law true 512 _ _ freshRun hRun
  constructor
  · obtain ⟨row, hrow, hid⟩ := hright 3 _ rfl
    obtain rfl := Option.some.inj hrow
    exact hid
  · obtain ⟨row, hrow, hid⟩ := hright 4 _ rfl
    obtain rfl := Option.some.inj hrow
    exact hid

end CantianConnector.Handler
