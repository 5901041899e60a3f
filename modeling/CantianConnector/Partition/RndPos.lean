import CantianConnector.Handler.Position
import CantianConnector.Lib.Bytes
import CantianConnector.Partition.Cursors

/-!
# References to rows

The server stores a reference to a row with `position` and later reads the row again with `rnd_pos`.
In a partitioned table a reference is the number of the partition, which the server writes in front,
and the row id, which comes from `m_rowids` if the row came with a batch, else from the engine.

A scan reads the partitions one after the other, and all of them share one record buffer.
`rndPos_of_position` says that every reference of a run gives back its row, and that `cmp_ref` tells
the references apart.
-/

namespace CantianConnector.Partition.RndPos

open CantianConnector.Handler
open CantianConnector.Partition.Cursors (PartId partCursorNum part3 part11)

/-! ## The handle -/

/-- `ROW_ID_LENGTH`. -/
def rowIdLength : Nat := 8

/-- `PARTITION_BYTES_IN_POS`. -/
def partitionBytesInPos : Nat := 2

/-- `ref_length` of a partitioned table. -/
def refLength : Nat := rowIdLength + partitionBytesInPos

/-- `m_tch`: the ids of the partition and what else the engine keeps in it. -/
abbrev Tch (σ : Type) := CtcPart × σ

/-- The engine also reads a row by its reference. `ctc_rnd_pos` does not copy the handle back. -/
structure PosEngine (σ ρ κ : Type) extends Engine (Tch σ) ρ κ where
  rndPos : Tch σ → List UInt8 → Except Int (Option (Row ρ))

/-- The members of `ha_ctcpart` that a scan uses. -/
structure HaCtcpart (σ ρ : Type) where
  base : HaCtc (Tch σ) ρ
  lastPart : Nat

section

variable {σ ρ κ α : Type} (engine : PosEngine σ ρ κ) (recLen : Nat) (numSubparts : Option Nat)

/-- `set_partition`. -/
def setPartition (partId : Nat) (h : HaCtcpart σ ρ) : HaCtcpart σ ρ :=
  { h with base := { h.base with tch := (Handler.setPartition numSubparts partId, h.base.tch.2) } }

/-- `reset_partition`. -/
def resetPartition (partId : Nat) (h : HaCtcpart σ ρ) : HaCtcpart σ ρ where
  base := { h.base with tch := (Handler.resetPartition, h.base.tch.2) }
  lastPart := partId

/-- A call of `ha_ctc` between `set_partition` and `reset_partition`. -/
def inPart (call : HaCtc (Tch σ) ρ → α × HaCtc (Tch σ) ρ) (partId : Nat)
    (h : HaCtcpart σ ρ) : α × HaCtcpart σ ρ :=
  let h := setPartition numSubparts partId h
  let done := call h.base
  (done.1, resetPartition partId { h with base := done.2 })

/-- `rnd_init_in_part` and `index_init`; `tch` is what the engine leaves. -/
def initInPart (canPrefetchRecords : Bool) (recBuffLength : Nat) (tch : Tch σ) (partId : Nat)
    (h : HaCtcpart σ ρ) : HaCtcpart σ ρ :=
  (inPart numSubparts (fun h => ((), initScan canPrefetchRecords recBuffLength tch h)) partId h).2

/-- `rnd_next_in_part`. -/
def rndNextInPart (passthru : Bool) : Nat → HaCtcpart σ ρ → Outcome ρ × HaCtcpart σ ρ :=
  inPart numSubparts (rndNext engine.toEngine recLen passthru)

/-- `index_next_in_part` and the other functions that go on in a partition. -/
def indexNextInPart : Nat → HaCtcpart σ ρ → Outcome ρ × HaCtcpart σ ρ :=
  inPart numSubparts (indexFetch engine.toEngine recLen)

/-- `index_read_map_in_part` and the other functions that start to read a partition. -/
def indexReadInPart (key : Except Int κ) (partId : Nat) (h : HaCtcpart σ ρ) :
    Outcome ρ × HaCtcpart σ ρ :=
  let h := if partId ≠ h.lastPart then { h with base := resetRecBuf false h.base } else h
  inPart numSubparts (indexRead engine.toEngine key) partId h

/-- `position_in_last_part`. -/
def positionInLastPart (h : HaCtcpart σ ρ) : Option (List UInt8) × HaCtcpart σ ρ :=
  inPart numSubparts
    (fun base => ((position engine.toEngine base).map fun rowid =>
      Bytes.le rowIdLength rowid.toNat, base))
    h.lastPart h

/-- The server writes the number of the partition in front. -/
def storeRef (h : HaCtcpart σ ρ) : Option (List UInt8) × HaCtcpart σ ρ :=
  let done := positionInLastPart engine numSubparts h
  (done.1.map fun rowid => Bytes.le partitionBytesInPos h.lastPart ++ rowid, done.2)

/-- `IS_CTC_PART`. -/
def isCtcPart (partId : Nat) : Bool := decide (partId < partCursorNum)

/-- `ha_ctc::rnd_pos`. -/
def baseRndPos (refLength : Nat) (pos : List UInt8) (h : HaCtc (Tch σ) ρ) :
    Outcome ρ × HaCtc (Tch σ) ρ :=
  let keyLen := if isCtcPart h.tch.1.partId then refLength - partitionBytesInPos else refLength
  (processCantianRecord .keyNotFound (engine.rndPos h.tch (pos.take keyLen)), h)

/-- `ha_ctcpart::rnd_pos`. -/
def rndPos (pos : List UInt8) : HaCtcpart σ ρ → Outcome ρ × HaCtcpart σ ρ :=
  inPart numSubparts (baseRndPos engine refLength (pos.drop partitionBytesInPos))
    (Bytes.ofLe (pos.take partitionBytesInPos))

end

/-! ## The order of the references -/

/-- The three fields of a `rowid_t` that say where a row is. -/
structure RowPlace where
  file : Nat
  page : Nat
  slot : Nat
deriving DecidableEq, Repr

/-- The bit fields of a `rowid_t`; the upper 12 bits are not used. -/
def rowPlace (value : Nat) : RowPlace where
  file := value % 2 ^ 10
  page := value / 2 ^ 10 % 2 ^ 30
  slot := value / 2 ^ 40 % 2 ^ 12

/-- The comparison of one field. -/
def cmpField (a b : Nat) : Int := if b < a then 1 else if a < b then -1 else 0

/-- `ctc_cmp_cantian_rowid`. -/
def ctcCmpCantianRowid (rowid1 rowid2 : RowPlace) : Int :=
  let result := cmpField rowid1.file rowid2.file
  if result ≠ 0 then result
  else
    let result := cmpField rowid1.page rowid2.page
    if result ≠ 0 then result
    else cmpField rowid1.slot rowid2.slot

/-- `ha_ctc::cmp_ref`. -/
def baseCmpRef (ref1 ref2 : List UInt8) : Int :=
  ctcCmpCantianRowid (rowPlace (Bytes.ofLe (ref1.take rowIdLength)))
    (rowPlace (Bytes.ofLe (ref2.take rowIdLength)))

/-- `ha_ctcpart::cmp_ref`. -/
def cmpRef (ref1 ref2 : List UInt8) : Int :=
  baseCmpRef (ref1.drop partitionBytesInPos) (ref2.drop partitionBytesInPos)

/-! ## A run -/

/-- The calls of the server. -/
inductive Call (σ κ : Type) where
  | rndInit (partId : PartId) (canPrefetchRecords : Bool) (tch : Tch σ)
  | rndNext (partId : PartId) (passthru : Bool)
  | indexInit (first : PartId) (canPrefetchRecords : Bool) (tch : Tch σ)
  | indexRead (partId : PartId) (key : Except Int κ)
  | indexNext (partId : PartId)
  | position
  | rndPos (pos : List UInt8)

/-- A reference, with what the read before it has returned. -/
structure Saved (ρ : Type) where
  ref : Option (List UInt8)
  row : Option (Row ρ)

/-- The handle, and what the server keeps: the partition it reads, what the last read has returned,
and the references. -/
structure Reader (σ ρ : Type) where
  handle : HaCtcpart σ ρ
  reading : Option PartId
  last : Option (Outcome ρ)
  refs : List (Saved ρ)

section

variable {σ ρ κ : Type} (engine : PosEngine σ ρ κ) (recLen recBuffLength : Nat)
  (numSubparts : Option Nat)

/-- After a read in a partition. -/
def Reader.didRead (st : Reader σ ρ) (partId : PartId) (done : Outcome ρ × HaCtcpart σ ρ) :
    Reader σ ρ :=
  { st with handle := done.2, reading := some partId, last := some done.1 }

/-- One call. -/
def step (st : Reader σ ρ) : Call σ κ → Reader σ ρ
  | .rndInit partId canPrefetchRecords tch =>
    { st with
      handle := initInPart numSubparts canPrefetchRecords recBuffLength tch partId st.handle
      reading := some partId
      last := none }
  | .rndNext partId passthru =>
    st.didRead partId (rndNextInPart engine recLen numSubparts passthru partId st.handle)
  | .indexInit first canPrefetchRecords tch =>
    { st with
      handle := initInPart numSubparts canPrefetchRecords recBuffLength tch first st.handle
      reading := none
      last := none }
  | .indexRead partId key =>
    st.didRead partId (indexReadInPart engine numSubparts key partId st.handle)
  | .indexNext partId =>
    st.didRead partId (indexNextInPart engine recLen numSubparts partId st.handle)
  | .position =>
    let done := storeRef engine numSubparts st.handle
    match st.last with
    | some (.row row) => { st with handle := done.2, refs := st.refs ++ [⟨done.1, row⟩] }
    | _ => { st with handle := done.2 }
  | .rndPos pos =>
    { st with handle := (rndPos engine numSubparts pos st.handle).2, last := none }

/-- The server goes on in the partition that it reads. A new read of the last partition finds rows
in the record buffer, or an invalid cursor. -/
def Orderly (st : Reader σ ρ) : Call σ κ → Prop
  | .rndNext partId _ => st.reading = some partId
  | .indexNext partId => st.reading = some partId
  | .indexRead partId _ => (partId : Nat) ≠ st.handle.lastPart ∨ 0 < records st.handle.base ∨
      st.handle.base.curPosInBuf = invalidMaxUint32
  | _ => True

/-- The rows of the table. The engine hands out rows of the partition of the request, and finds the
row that it handed out last, or the row of an id, in this partition again. A row id is a physical
position: no two rows have the same. -/
structure RowLaw (stored : CtcPart → UInt64 → Option (Row ρ)) : Prop where
  rndNext : ∀ tch row tch', engine.rndNext tch = (.ok (some row), tch') →
    stored tch.1 row.rowid = some row ∧ engine.position (tch.1, tch'.2) = row.rowid
  generalFetch : ∀ tch row tch', engine.generalFetch tch = (.ok (some row), tch') →
    stored tch.1 row.rowid = some row ∧ engine.position (tch.1, tch'.2) = row.rowid
  indexRead : ∀ key tch row tch', engine.indexRead key tch = (.ok (some row), tch') →
    stored tch.1 row.rowid = some row ∧ engine.position (tch.1, tch'.2) = row.rowid
  rndPrefetch : ∀ n tch batch tch', engine.rndPrefetch n tch = (.ok batch, tch') →
    batch.length ≤ maxPrefetchRecNum ∧ ∀ row ∈ batch, stored tch.1 row.rowid = some row
  generalPrefetch : ∀ n tch batch tch', engine.generalPrefetch n tch = (.ok batch, tch') →
    batch.length ≤ maxPrefetchRecNum ∧ ∀ row ∈ batch, stored tch.1 row.rowid = some row
  rndPos : ∀ tch rowid, engine.rndPos tch (Bytes.le rowIdLength rowid.toNat) =
    .ok (stored tch.1 rowid)
  place : ∀ part part' rowid rowid', (stored part rowid).isSome → (stored part' rowid').isSome →
    rowPlace rowid.toNat = rowPlace rowid'.toNat → part = part' ∧ rowid = rowid'

end

/-! ## What a fetch returns -/

section

variable {σ ρ κ : Type} (good : Row ρ → Prop) (finds : σ → Row ρ → Prop) (recLen : Nat)

/-- A cursor into the record buffer points into a batch of good rows. -/
structure Serves (h : HaCtc σ ρ) : Prop extends Tracks recLen h where
  rows : h.curPosInBuf ≠ invalidMaxUint32 → ∀ row ∈ h.prefetchBuf, good row

/-- The row is the current one: of the batch, or the one that the engine finds. -/
def OnRow (h : HaCtc σ ρ) (row : Row ρ) : Prop :=
  if h.curPosInBuf = invalidMaxUint32 then finds h.tch row
  else h.rowids[h.curPosInBuf]? = some row.rowid

/-- The outcome of a read and the handler it leaves. -/
structure Served (out : Outcome ρ × HaCtc σ ρ) : Prop where
  serves : Serves good recLen out.2
  row : ∀ buf, out.1 = .row buf → ∃ row, buf = some row ∧ good row ∧ OnRow finds out.2 row

variable {good finds recLen} {h : HaCtc σ ρ} {buf : RecordBuffer ρ} {batch : List (Row ρ)} {p : Nat}
  {next : σ → Except Int (Option (Row ρ)) × σ}
  {prefetch : Nat → σ → Except Int (List (Row ρ)) × σ}

theorem serves_of_invalid (hcur : h.curPosInBuf = invalidMaxUint32) : Serves good recLen h where
  toTracks := tracks_of_invalid hcur
  rows hne := absurd hcur hne

theorem serves_of_reading (hr : Reading recLen h buf batch p) (hbatch : ∀ row ∈ batch, good row) :
    Serves good recLen h where
  toTracks := hr.tracks
  rows _ row hrow := by
    rw [hr.prefetchBuf] at hrow
    exact hbatch row hrow

theorem reading_valid (hr : Reading recLen h buf batch p) : h.curPosInBuf ≠ invalidMaxUint32 := by
  have hlt := hr.lt
  have hle := hr.length_le
  rw [hr.pos]
  unfold maxPrefetchRecNum at hle
  unfold invalidMaxUint32
  omega

/-- The next row of a batch. -/
theorem served_reading (hr : Reading recLen h buf batch p) (hbatch : ∀ row ∈ batch, good row)
    {row : Row ρ} (hrow : batch[p]? = some row) :
    Served good finds recLen (.row (some row), h) where
  serves := serves_of_reading hr hbatch
  row buf hbuf := by
    obtain rfl := Outcome.row.inj hbuf
    refine ⟨row, rfl, hbatch row (List.mem_of_getElem? hrow), ?_⟩
    unfold OnRow
    rw [if_neg (reading_valid hr), hr.pos]
    exact hr.rowids p row hrow

/-- A row that the engine has handed out on its own. -/
theorem served_direct {reply : Except Int (Option (Row ρ))} {tch : σ} {rcRet : Outcome ρ}
    (hrc : ∀ buf, rcRet ≠ .row buf) (hcur : h.curPosInBuf = invalidMaxUint32)
    (hreply : ∀ row, reply = .ok (some row) → good row ∧ finds tch row) :
    Served good finds recLen (processCantianRecord rcRet reply, { h with tch := tch }) where
  serves := serves_of_invalid hcur
  row buf hbuf := by
    match reply with
    | .error code => cases hbuf
    | .ok none => exact absurd hbuf (hrc buf)
    | .ok (some row) =>
      obtain rfl := Outcome.row.inj hbuf
      refine ⟨row, rfl, (hreply row rfl).1, ?_⟩
      unfold OnRow
      rw [if_pos hcur]
      exact (hreply row rfl).2

theorem served_prefetch
    (hprefetch : ∀ batch tch, prefetch recLen h.tch = (.ok batch, tch) →
      batch.length ≤ maxPrefetchRecNum ∧ ∀ row ∈ batch, good row)
    (hmax : buf.maxRecords ≠ 0) (hkept : ∀ tch : σ, Serves good recLen { h with tch := tch }) :
    Served good finds recLen (prefetchAndFillRecordBuffer recLen prefetch h buf) := by
  match hreply : prefetch recLen h.tch with
  | (.error code, tch) =>
    have hout : prefetchAndFillRecordBuffer recLen prefetch h buf =
        (.error code, { h with tch := tch }) := by
      unfold prefetchAndFillRecordBuffer
      rw [hreply]
    rw [hout]
    refine ⟨hkept tch, ?_⟩
    intro row hrow
    cases hrow
  | (.ok [], tch) =>
    rw [prefetch_empty hreply]
    refine ⟨hkept tch, ?_⟩
    intro row hrow
    cases hrow
  | (.ok (first :: rest), tch) =>
    obtain ⟨hle, hbatch⟩ := hprefetch _ _ hreply
    obtain ⟨h', buf', hout, -, hr⟩ := prefetch_reading (Nat.pos_of_ne_zero hmax) hreply hle
    rw [hout]
    exact served_reading hr hbatch rfl

theorem served_behind
    (hprefetch : ∀ batch tch, prefetch recLen h.tch = (.ok batch, tch) →
      batch.length ≤ maxPrefetchRecNum ∧ ∀ row ∈ batch, good row)
    (hbuf : h.recBuf = some buf) (hmax : buf.maxRecords ≠ 0) (hcount : buf.count ≠ 0)
    (hcur : (h.actualFetchedNums + (2 ^ 32 - 1)) % 2 ^ 32 ≤ h.curPosInBuf) :
    Served good finds recLen (fetchNext recLen next prefetch h) := by
  rw [fetchNext_behind hbuf hmax hcount hcur]
  split
  · refine ⟨serves_of_invalid rfl, ?_⟩
    intro row hrow
    cases hrow
  · exact served_prefetch hprefetch hmax fun tch => serves_of_invalid rfl

/-- Every fetch returns a good row, and leaves it as the current one. -/
theorem served_fetchNext
    (hnext : ∀ row tch, next h.tch = (.ok (some row), tch) → good row ∧ finds tch row)
    (hprefetch : ∀ batch tch, prefetch recLen h.tch = (.ok batch, tch) →
      batch.length ≤ maxPrefetchRecNum ∧ ∀ row ∈ batch, good row)
    (hs : Serves good recLen h) :
    Served good finds recLen (fetchNext recLen next prefetch h) := by
  by_cases hd : Direct h
  · rw [fetchNext_direct hd]
    apply served_direct
    · intro buf hbuf
      cases hbuf
    · exact hs.direct hd
    · intro row hrow
      exact hnext row _ (Prod.ext hrow rfl)
  · obtain ⟨buf, hbuf, hmax⟩ : ∃ buf, h.recBuf = some buf ∧ buf.maxRecords ≠ 0 := by
      unfold Direct at hd
      push Not at hd
      exact hd
    by_cases hcount : buf.count = 0
    · rw [fetchNext_empty hbuf hmax hcount]
      apply served_prefetch hprefetch hmax
      intro tch
      refine ⟨⟨fun hdirect => absurd (hdirect buf hbuf) hmax, ?_⟩, hs.rows⟩
      intro buf' hbuf' hne
      obtain rfl : buf = buf' := Option.some.inj (hbuf.symm.trans hbuf')
      exact absurd hcount hne
    · rcases hs.buffered buf hbuf hcount with hcur | ⟨batch, p, hr⟩
      · apply served_behind hprefetch hbuf hmax hcount
        rw [hcur]
        exact fetched_sub_one_le_invalid _
      · by_cases hlt : p + 1 < batch.length
        · have hbatch : ∀ row ∈ batch, good row := by
            intro row hrow
            rw [← hr.prefetchBuf] at hrow
            exact hs.rows (reading_valid hr) row hrow
          obtain ⟨h', buf', hout, -, hr'⟩ :=
            @fetchNext_reading σ ρ recLen next prefetch h buf batch p hr hlt
          rw [hout, List.getElem?_eq_getElem hlt]
          exact served_reading hr' hbatch (List.getElem?_eq_getElem hlt)
        · apply served_behind hprefetch hbuf hmax hcount
          have hlast := hr.lt
          rw [hr.fetched_sub_one, hr.pos]
          omega

/-- `index_read` takes its row from the engine. -/
theorem served_indexRead {engine : Engine σ ρ κ} {key : Except Int κ}
    (hread : ∀ key row tch, engine.indexRead key h.tch = (.ok (some row), tch) →
      good row ∧ finds tch row)
    (hFresh : 0 < records h ∨ h.curPosInBuf = invalidMaxUint32) :
    Served good finds recLen (indexRead engine key h) := by
  have hcur : (if 0 < records h then resetRecBuf false h else h).curPosInBuf =
      invalidMaxUint32 := by
    split
    · rfl
    · rename_i hempty
      exact hFresh.resolve_left hempty
  have htch : (if 0 < records h then resetRecBuf false h else h).tch = h.tch := by
    split <;> rfl
  unfold indexRead
  cases key with
  | error code =>
    refine ⟨serves_of_invalid hcur, ?_⟩
    intro row hrow
    cases hrow
  | ok key =>
    apply served_direct
    · intro buf hbuf
      cases hbuf
    · exact hcur
    · intro row hrow
      rw [htch] at hrow ⊢
      exact hread key row _ (Prod.ext hrow rfl)

end

/-! ## One call in a partition -/

section

variable {σ ρ κ : Type} {engine : PosEngine σ ρ κ} {recLen : Nat} {numSubparts : Option Nat}
  {stored : CtcPart → UInt64 → Option (Row ρ)}

/-- The row is stored in the partition. -/
def StoredIn (numSubparts : Option Nat) (stored : CtcPart → UInt64 → Option (Row ρ)) (partId : Nat)
    (row : Row ρ) : Prop :=
  stored (Handler.setPartition numSubparts partId) row.rowid = some row

/-- With the ids of the partition the engine finds the row that it handed out last. -/
def FindsIn (engine : PosEngine σ ρ κ) (numSubparts : Option Nat) (partId : Nat) (tch : Tch σ)
    (row : Row ρ) : Prop :=
  engine.position (Handler.setPartition numSubparts partId, tch.2) = row.rowid

/-- The state after a read in a partition. -/
structure ServedIn (engine : PosEngine σ ρ κ) (recLen : Nat) (numSubparts : Option Nat)
    (stored : CtcPart → UInt64 → Option (Row ρ)) (partId : Nat)
    (out : Outcome ρ × HaCtcpart σ ρ) : Prop extends
    Served (StoredIn numSubparts stored partId) (FindsIn engine numSubparts partId) recLen
      (out.1, out.2.base) where
  lastPart : out.2.lastPart = partId

theorem Serves.withTch {σ : Type} {good : Row ρ → Prop} {h : HaCtc σ ρ}
    (hs : Serves good recLen h) (tch : σ) : Serves good recLen { h with tch := tch } where
  direct := hs.direct
  buffered buf hbuf hcount := by
    rcases hs.buffered buf hbuf hcount with hcur | ⟨batch, p, hr⟩
    · exact .inl hcur
    · refine .inr ⟨batch, p, ?_⟩
      exact ⟨⟨hr.prefetchBuf, hr.lens, hr.rowids, hr.fetched, hr.length_le⟩, hr.recBuf, hr.max_pos,
        hr.pos, hr.lt, hr.index, hr.off, hr.count, hr.slots, hr.flag⟩
  rows := hs.rows

/-- `reset_partition` keeps what `position_in_last_part` will read. -/
theorem servedIn_inPart {call : HaCtc (Tch σ) ρ → Outcome ρ × HaCtc (Tch σ) ρ} {partId : Nat}
    {h : HaCtcpart σ ρ}
    (hserved : Served (StoredIn numSubparts stored partId) (FindsIn engine numSubparts partId)
      recLen (call (setPartition numSubparts partId h).base)) :
    ServedIn engine recLen numSubparts stored partId (inPart numSubparts call partId h) where
  serves := hserved.serves.withTch _
  row buf hbuf := by
    obtain ⟨row, rfl, hgood, hon⟩ := hserved.row buf hbuf
    exact ⟨row, rfl, hgood, hon⟩
  lastPart := rfl

variable (hLaw : RowLaw engine stored) {h : HaCtcpart σ ρ} {partId : Nat}

include hLaw

theorem servedIn_rndNext (passthru : Bool)
    (hs : Serves (StoredIn numSubparts stored partId) recLen h.base) :
    ServedIn engine recLen numSubparts stored partId
      (rndNextInPart engine recLen numSubparts passthru partId h) := by
  have hs' : Serves (StoredIn numSubparts stored partId) recLen
      (setPartition numSubparts partId h).base := hs.withTch _
  apply servedIn_inPart
  unfold rndNext
  split
  · refine ⟨hs', ?_⟩
    intro row hrow
    cases hrow
  · apply served_fetchNext _ _ hs'
    · exact fun row tch => hLaw.rndNext _ row tch
    · exact fun batch tch => hLaw.rndPrefetch _ _ batch tch

theorem servedIn_indexNext (hs : Serves (StoredIn numSubparts stored partId) recLen h.base) :
    ServedIn engine recLen numSubparts stored partId
      (indexNextInPart engine recLen numSubparts partId h) := by
  apply servedIn_inPart
  apply served_fetchNext _ _ (hs.withTch _)
  · exact fun row tch => hLaw.generalFetch _ row tch
  · exact fun batch tch => hLaw.generalPrefetch _ _ batch tch

/-- In another partition than the last one, the cursor is reset before. -/
theorem servedIn_indexRead (key : Except Int κ)
    (hFresh : partId ≠ h.lastPart ∨ 0 < records h.base ∨
      h.base.curPosInBuf = invalidMaxUint32) :
    ServedIn engine recLen numSubparts stored partId
      (indexReadInPart engine numSubparts key partId h) := by
  apply servedIn_inPart
  apply served_indexRead
  · exact fun key row tch => hLaw.indexRead key _ row tch
  · split
    · exact .inr rfl
    · rename_i hsame
      exact hFresh.resolve_left hsame

end

/-! ## A reference -/

/-- The reference to a row. -/
def refOf (partId : Nat) (rowid : UInt64) : List UInt8 :=
  Bytes.le partitionBytesInPos partId ++ Bytes.le rowIdLength rowid.toNat

theorem refLength_sub : refLength - partitionBytesInPos = rowIdLength := rfl

theorem take_refOf (partId : Nat) (rowid : UInt64) :
    (refOf partId rowid).take partitionBytesInPos = Bytes.le partitionBytesInPos partId :=
  List.take_left' (Bytes.length_le _ _)

theorem drop_refOf (partId : Nat) (rowid : UInt64) :
    (refOf partId rowid).drop partitionBytesInPos = Bytes.le rowIdLength rowid.toNat :=
  List.drop_left' (Bytes.length_le _ _)

theorem ofLe_partId (partId : PartId) :
    Bytes.ofLe (Bytes.le partitionBytesInPos partId) = partId := by
  apply Bytes.ofLe_le_of_lt
  exact partId.isLt.trans (by decide)

theorem ofLe_rowid (rowid : UInt64) :
    Bytes.ofLe (Bytes.le rowIdLength rowid.toNat) = rowid.toNat :=
  Bytes.ofLe_le_of_lt rowid.toNat_lt

/-- The ids of a partition are ids of a partition, which cuts the reference to the row id. -/
theorem isCtcPart_setPartition (numSubparts : Option Nat) (partId : PartId) :
    isCtcPart (Handler.setPartition numSubparts partId).partId = true := by
  unfold isCtcPart
  rw [decide_eq_true_eq]
  cases numSubparts with
  | none => exact partId.isLt
  | some n => exact (Nat.div_le_self _ _).trans_lt partId.isLt

theorem setPartition_injective {numSubparts : Option Nat} {partId partId' : Nat}
    (heq : Handler.setPartition numSubparts partId = Handler.setPartition numSubparts partId') :
    partId = partId' := by
  cases numSubparts with
  | none => exact congrArg CtcPart.partId heq
  | some n =>
    have hdiv : partId / n = partId' / n := congrArg CtcPart.partId heq
    have hmod : partId % n = partId' % n := congrArg CtcPart.subpartId heq
    rw [← Nat.div_add_mod partId n, ← Nat.div_add_mod partId' n, hdiv, hmod]

theorem cmpField_eq_zero {a b : Nat} : cmpField a b = 0 ↔ a = b := by
  unfold cmpField
  split
  · omega
  · split <;> omega

theorem ctcCmpCantianRowid_eq_zero {a b : RowPlace} : ctcCmpCantianRowid a b = 0 ↔ a = b := by
  unfold ctcCmpCantianRowid
  rw [RowPlace.mk.injEq]
  by_cases hfile : cmpField a.file b.file = 0
  · rw [if_neg (not_not_intro hfile)]
    by_cases hpage : cmpField a.page b.page = 0
    · rw [if_neg (not_not_intro hpage), cmpField_eq_zero]
      exact ⟨fun hslot => ⟨cmpField_eq_zero.mp hfile, cmpField_eq_zero.mp hpage, hslot⟩,
        fun heq => heq.2.2⟩
    · rw [if_pos hpage]
      exact ⟨fun hzero => absurd hzero hpage, fun heq => cmpField_eq_zero.mpr heq.2.1⟩
  · rw [if_pos hfile]
    exact ⟨fun hzero => absurd hzero hfile, fun heq => cmpField_eq_zero.mpr heq.1⟩

theorem cmpRef_refOf (partId partId' : Nat) (rowid rowid' : UInt64) :
    cmpRef (refOf partId rowid) (refOf partId' rowid') = 0 ↔
      rowPlace rowid.toNat = rowPlace rowid'.toNat := by
  unfold cmpRef baseCmpRef
  rw [drop_refOf, drop_refOf, ctcCmpCantianRowid_eq_zero,
    List.take_of_length_le (Bytes.length_le _ _).le,
    List.take_of_length_le (Bytes.length_le _ _).le, ofLe_rowid, ofLe_rowid]

section

variable {σ ρ κ : Type} {engine : PosEngine σ ρ κ} {recLen : Nat} {numSubparts : Option Nat}
  {stored : CtcPart → UInt64 → Option (Row ρ)}

/-- What is saved is the reference to a row that is stored. -/
def IsRef (numSubparts : Option Nat) (stored : CtcPart → UInt64 → Option (Row ρ))
    (saved : Saved ρ) : Prop :=
  ∃ (partId : PartId) (row : Row ρ), saved = ⟨some (refOf partId row.rowid), some row⟩ ∧
    StoredIn numSubparts stored partId row

/-- The current row of the last partition gets its reference. -/
theorem storeRef_eq {h : HaCtcpart σ ρ} {row : Row ρ}
    (hon : OnRow (FindsIn engine numSubparts h.lastPart) h.base row) :
    (storeRef engine numSubparts h).1 = some (refOf h.lastPart row.rowid) := by
  have hposition : position engine.toEngine (setPartition numSubparts h.lastPart h).base =
      some row.rowid := by
    unfold position
    unfold OnRow at hon
    by_cases hcur : h.base.curPosInBuf = invalidMaxUint32
    · rw [if_pos hcur] at hon
      rw [if_pos (show (setPartition numSubparts h.lastPart h).base.curPosInBuf = _ from hcur)]
      exact congrArg some hon
    · rw [if_neg hcur] at hon
      rw [if_neg (show (setPartition numSubparts h.lastPart h).base.curPosInBuf ≠ _ from hcur)]
      exact hon
  unfold storeRef positionInLastPart inPart
  simp only
  rw [hposition]
  rfl

/-- `rnd_pos` finds the row of a reference, whatever was read before. -/
theorem rndPos_refOf (hLaw : RowLaw engine stored) (partId : PartId) (rowid : UInt64)
    (h : HaCtcpart σ ρ) :
    (rndPos engine numSubparts (refOf partId rowid) h).1 = processCantianRecord .keyNotFound
      (.ok (stored (Handler.setPartition numSubparts partId) rowid)) := by
  have hids : isCtcPart (setPartition numSubparts partId h).base.tch.1.partId = true :=
    isCtcPart_setPartition numSubparts partId
  have hfound := hLaw.rndPos (setPartition numSubparts partId h).base.tch rowid
  unfold rndPos inPart baseRndPos
  simp only
  rw [take_refOf, drop_refOf, ofLe_partId, if_pos hids, refLength_sub,
    List.take_of_length_le (Bytes.length_le _ _).le, hfound]
  rfl

theorem IsRef.rndPos (hLaw : RowLaw engine stored) {saved : Saved ρ}
    (hsaved : IsRef numSubparts stored saved) (h : HaCtcpart σ ρ) :
    ∃ ref, saved.ref = some ref ∧ (rndPos engine numSubparts ref h).1 = .row saved.row := by
  obtain ⟨partId, row, rfl, hstored⟩ := hsaved
  refine ⟨_, rfl, ?_⟩
  rw [rndPos_refOf hLaw, hstored]
  rfl

theorem IsRef.cmpRef (hLaw : RowLaw engine stored) {saved saved' : Saved ρ}
    (hsaved : IsRef numSubparts stored saved) (hsaved' : IsRef numSubparts stored saved')
    {ref ref' : List UInt8} (href : saved.ref = some ref) (href' : saved'.ref = some ref') :
    cmpRef ref ref' = 0 ↔ ref = ref' := by
  obtain ⟨partId, row, rfl, hstored⟩ := hsaved
  obtain ⟨partId', row', rfl, hstored'⟩ := hsaved'
  obtain rfl := Option.some.inj href
  obtain rfl := Option.some.inj href'
  rw [cmpRef_refOf]
  constructor
  · intro hplace
    have hsome : (stored (Handler.setPartition numSubparts partId) row.rowid).isSome :=
      Option.isSome_of_eq_some hstored
    have hsome' : (stored (Handler.setPartition numSubparts partId') row'.rowid).isSome :=
      Option.isSome_of_eq_some hstored'
    obtain ⟨hpart, hrowid⟩ := hLaw.place _ _ _ _ hsome hsome' hplace
    rw [setPartition_injective hpart, hrowid]
  · intro heq
    have hdrop := congrArg (List.drop partitionBytesInPos) heq
    rw [drop_refOf, drop_refOf] at hdrop
    rw [← ofLe_rowid row.rowid, hdrop, ofLe_rowid]

/-! ## Whole runs -/

/-- What every call keeps. -/
structure Keeps (engine : PosEngine σ ρ κ) (recLen : Nat) (numSubparts : Option Nat)
    (stored : CtcPart → UInt64 → Option (Row ρ)) (st : Reader σ ρ) : Prop where
  serves : ∀ partId : PartId, st.reading = some partId →
    Serves (StoredIn numSubparts stored partId) recLen st.handle.base
  last : ∀ row, st.last = some (.row row) →
    IsRef numSubparts stored ⟨(storeRef engine numSubparts st.handle).1, row⟩
  refs : ∀ saved ∈ st.refs, IsRef numSubparts stored saved

theorem Keeps.didRead {st : Reader σ ρ} {partId : PartId} {done : Outcome ρ × HaCtcpart σ ρ}
    (hst : Keeps engine recLen numSubparts stored st)
    (hdone : ServedIn engine recLen numSubparts stored partId done) :
    Keeps engine recLen numSubparts stored (st.didRead partId done) where
  serves partId' hreading := by
    obtain rfl := Option.some.inj hreading
    exact hdone.serves
  last buf hlast := by
    obtain ⟨row, rfl, hstored, hon⟩ := hdone.row buf (Option.some.inj hlast)
    refine ⟨partId, row, ?_, hstored⟩
    have hpart := hdone.lastPart
    rw [← hpart] at hon ⊢
    exact congrArg (Saved.mk · (some row)) (storeRef_eq hon)
  refs := hst.refs

/-- What one call keeps. -/
theorem step_keeps (hLaw : RowLaw engine stored) (recBuffLength : Nat) (st : Reader σ ρ)
    (call : Call σ κ) (hst : Keeps engine recLen numSubparts stored st)
    (horderly : Orderly st call) :
    Keeps engine recLen numSubparts stored
      (step engine recLen recBuffLength numSubparts st call) := by
  cases call with
  | rndInit partId canPrefetchRecords tch =>
    refine ⟨fun partId' _ => serves_of_invalid rfl, ?_, hst.refs⟩
    intro row hlast
    cases hlast
  | rndNext partId passthru =>
    exact hst.didRead (servedIn_rndNext hLaw passthru (hst.serves partId horderly))
  | indexInit first canPrefetchRecords tch =>
    refine ⟨fun partId' hreading => ?_, ?_, hst.refs⟩
    · cases hreading
    · intro row hlast
      cases hlast
  | indexRead partId key => exact hst.didRead (servedIn_indexRead hLaw key horderly)
  | indexNext partId => exact hst.didRead (servedIn_indexNext hLaw (hst.serves partId horderly))
  | position =>
    have hhandle : Keeps engine recLen numSubparts stored
        { st with handle := (storeRef engine numSubparts st.handle).2 } :=
      ⟨fun partId hreading => (hst.serves partId hreading).withTch _, hst.last, hst.refs⟩
    unfold step
    simp only
    split
    · rename_i row hlast
      refine ⟨hhandle.serves, hhandle.last, ?_⟩
      intro saved hmem
      rcases List.mem_append.mp hmem with hold | hnew
      · exact hst.refs saved hold
      · rw [List.mem_singleton.mp hnew]
        exact hst.last row hlast
    · exact hhandle
  | rndPos pos =>
    refine ⟨fun partId hreading => (hst.serves partId hreading).withTch _, ?_, hst.refs⟩
    intro row hlast
    cases hlast

/-- A handle that reads nothing. -/
def start (h : HaCtcpart σ ρ) : Reader σ ρ := ⟨h, none, none, []⟩

theorem start_keeps (h : HaCtcpart σ ρ) : Keeps engine recLen numSubparts stored (start h) where
  serves _ hreading := by cases hreading
  last _ hlast := by cases hlast
  refs _ hmem := by cases hmem

/-- **References to rows.** The server goes on in the partition that it reads, and a new read of the
last partition finds rows in the record buffer or an invalid cursor. Whenever `position` was then
called after a read that returned a row, the reference gives back this row in every later state of
the run; and two references compare as equal only if they are the same. -/
theorem rndPos_of_position (hLaw : RowLaw engine stored) (recBuffLength : Nat) (h : HaCtcpart σ ρ)
    {calls : List (Call σ κ)}
    (hRun : Machine.Guarded (step engine recLen recBuffLength numSubparts) Orderly (start h) calls)
    (k : Nat) (st : Reader σ ρ)
    (hst : st = (calls.take k).foldl (step engine recLen recBuffLength numSubparts) (start h)) :
    (∀ saved ∈ st.refs, ∃ ref, saved.ref = some ref ∧
      (rndPos engine numSubparts ref st.handle).1 = .row saved.row) ∧
    ∀ saved ∈ st.refs, ∀ saved' ∈ st.refs, ∀ ref ref', saved.ref = some ref →
      saved'.ref = some ref' → (cmpRef ref ref' = 0 ↔ ref = ref') := by
  have hkeeps : Keeps engine recLen numSubparts stored st := by
    rw [hst]
    exact Machine.invariant_of_guarded (step_keeps hLaw recBuffLength) (start_keeps h) hRun k
  constructor
  · intro saved hmem
    exact (hkeeps.refs saved hmem).rndPos hLaw st.handle
  · intro saved hmem saved' hmem' ref ref' href href'
    exact (hkeeps.refs saved hmem).cmpRef hLaw (hkeeps.refs saved' hmem') href href'

end

/-! ## Two partitions -/

def storedRow (rowid : UInt64) : Row Nat := ⟨rowid, 24, rowid.toNat, Nat.succ_pos 23⟩

/-- Three rows in partition 3 and one in partition 11. -/
def places : List (CtcPart × UInt64) :=
  [(Handler.setPartition none part3, 31), (Handler.setPartition none part3, 32),
    (Handler.setPartition none part3, 33), (Handler.setPartition none part11, 111)]

def rowsOf (part : CtcPart) : List (Row Nat) :=
  (places.filter fun place => decide (place.1 = part)).map fun place => storedRow place.2

def storedRows (part : CtcPart) (rowid : UInt64) : Option (Row Nat) :=
  (places.find? fun place => decide (place.1 = part) && place.2 == rowid).map fun place =>
    storedRow place.2

/-- An engine that counts the rows it has handed out, and knows the last one. A search key is the
number of the first row. -/
def countedRows : PosEngine (Nat × UInt64) Nat Nat where
  rndNext := nextOf
  rndPrefetch _ := batchOf
  generalFetch := nextOf
  generalPrefetch _ := batchOf
  indexRead key tch := nextOf (tch.1, key, tch.2.2)
  position tch := tch.2.2
  rndPos tch pos := .ok (storedRows tch.1 (UInt64.ofNat (Bytes.ofLe pos)))
where
  nextOf (tch : Tch (Nat × UInt64)) : Except Int (Option (Row Nat)) × Tch (Nat × UInt64) :=
    match (rowsOf tch.1)[tch.2.1]? with
    | none => (.ok none, tch)
    | some row => (.ok (some row), tch.1, tch.2.1 + 1, row.rowid)
  batchOf (tch : Tch (Nat × UInt64)) : Except Int (List (Row Nat)) × Tch (Nat × UInt64) :=
    (.ok ((rowsOf tch.1).drop tch.2.1), tch.1, (rowsOf tch.1).length,
      ((rowsOf tch.1).getLast?.map Row.rowid).getD tch.2.2)

theorem storedRows_of_mem {part : CtcPart} {row : Row Nat} (hmem : row ∈ rowsOf part) :
    storedRows part row.rowid = some row := by
  obtain ⟨place, hplace, rfl⟩ := List.mem_map.mp hmem
  obtain ⟨hin, hpart⟩ := List.mem_filter.mp hplace
  unfold storedRows
  cases hfind : places.find? fun other => decide (other.1 = part) && other.2 == place.2 with
  | none =>
    have hnot := List.find?_eq_none.mp hfind place hin
    rw [hpart, Bool.true_and, beq_self_eq_true] at hnot
    exact absurd rfl hnot
  | some other =>
    have hother := List.find?_some hfind
    rw [Bool.and_eq_true, beq_iff_eq] at hother
    show (places.find? fun other => decide (other.1 = part) && other.2 == place.2).map _ = _
    rw [hfind, Option.map_some, hother.2]

theorem mem_places_of_stored {part : CtcPart} {rowid : UInt64}
    (hstored : (storedRows part rowid).isSome) : (part, rowid) ∈ places := by
  unfold storedRows at hstored
  rw [Option.isSome_map, List.find?_isSome] at hstored
  obtain ⟨place, hin, hplace⟩ := hstored
  rw [Bool.and_eq_true, decide_eq_true_eq, beq_iff_eq] at hplace
  obtain ⟨rfl, rfl⟩ := hplace
  exact hin

theorem length_rowsOf_le (part : CtcPart) : (rowsOf part).length ≤ maxPrefetchRecNum := by
  unfold rowsOf
  rw [List.length_map]
  exact (List.length_filter_le _ places).trans (by decide)

theorem countedRows_next {tch tch' : Tch (Nat × UInt64)} {row : Row Nat}
    (hnext : countedRows.nextOf tch = (.ok (some row), tch')) :
    storedRows tch.1 row.rowid = some row ∧ tch'.2.2 = row.rowid := by
  unfold countedRows.nextOf at hnext
  cases hget : (rowsOf tch.1)[tch.2.1]? with
  | none =>
    rw [hget] at hnext
    cases hnext
  | some first =>
    rw [hget] at hnext
    cases hnext
    exact ⟨storedRows_of_mem (List.mem_of_getElem? hget), rfl⟩

theorem countedRows_batch {tch tch' : Tch (Nat × UInt64)} {batch : List (Row Nat)}
    (hbatch : countedRows.batchOf tch = (.ok batch, tch')) :
    batch.length ≤ maxPrefetchRecNum ∧ ∀ row ∈ batch, storedRows tch.1 row.rowid = some row := by
  cases hbatch
  constructor
  · rw [List.length_drop]
    exact (Nat.sub_le _ _).trans (length_rowsOf_le tch.1)
  · intro row hrow
    exact storedRows_of_mem (List.mem_of_mem_drop hrow)

theorem countedRows_law : RowLaw countedRows storedRows where
  rndNext tch row tch' hnext := @countedRows_next tch tch' row hnext
  generalFetch tch row tch' hnext := @countedRows_next tch tch' row hnext
  indexRead key tch row tch' hnext := @countedRows_next (tch.1, key, tch.2.2) tch' row hnext
  rndPrefetch _ tch batch tch' hbatch := @countedRows_batch tch tch' batch hbatch
  generalPrefetch _ tch batch tch' hbatch := @countedRows_batch tch tch' batch hbatch
  rndPos tch rowid := by
    show Except.ok (storedRows tch.1 (UInt64.ofNat (Bytes.ofLe _))) = _
    rw [ofLe_rowid, UInt64.ofNat_toNat]
  place part part' rowid rowid' hstored hstored' hplace := by
    have hunique : ∀ a ∈ places, ∀ b ∈ places, rowPlace a.2.toNat = rowPlace b.2.toNat → a = b := by
      decide
    have heq := hunique _ (mem_places_of_stored hstored) _ (mem_places_of_stored hstored') hplace
    exact Prod.mk.inj heq

def closedHandle : HaCtcpart (Nat × UInt64) Nat where
  base :=
    { tch := (Handler.resetPartition, 0, 0), recBuf := none, prefetchBuf := [], recordLens := []
      rowids := [], actualFetchedNums := invalidMaxUint32, curPosInBuf := invalidMaxUint32
      curOffInPrefetchBuf := 0, curFillBufIndex := 0 }
  lastPart := 0

/-- The second row of a batch of partition 3, and a row of partition 11 from the engine. -/
def twoRefs : List (Call (Nat × UInt64) Nat) :=
  [.rndInit part3 true (Handler.setPartition none part3, 0, 0), .rndNext part3 false,
    .rndNext part3 false, .position,
    .rndInit part11 false (Handler.setPartition none part11, 0, 0), .rndNext part11 false,
    .position]

def twoRefsRead : Reader (Nat × UInt64) Nat :=
  twoRefs.foldl (step countedRows 64 512 none) (start closedHandle)

theorem rndPos_of_position_two :
    (rndPos countedRows none (refOf part3 32) twoRefsRead.handle).1 = .row (some (storedRow 32)) ∧
      (rndPos countedRows none (refOf part11 111) twoRefsRead.handle).1 =
        .row (some (storedRow 111)) := by
  have hrefs : twoRefsRead.refs = [⟨some (refOf part3 32), some (storedRow 32)⟩,
      ⟨some (refOf part11 111), some (storedRow 111)⟩] := rfl
  have hRun : Machine.Guarded (step countedRows 64 512 none) Orderly (start closedHandle) twoRefs :=
    ⟨trivial, rfl, rfl, trivial, trivial, rfl, trivial, trivial⟩
  have hback := (rndPos_of_position countedRows_law 512 closedHandle hRun 7 twoRefsRead rfl).1
  constructor
  · obtain ⟨ref, href, hrow⟩ := hback ⟨some (refOf part3 32), some (storedRow 32)⟩ (by
      rw [hrefs]
      exact List.mem_cons_self)
    obtain rfl := Option.some.inj href
    exact hrow
  · obtain ⟨ref, href, hrow⟩ := hback ⟨some (refOf part11 111), some (storedRow 111)⟩ (by
      rw [hrefs]
      exact List.mem_cons_of_mem _ List.mem_cons_self)
    obtain rfl := Option.some.inj href
    exact hrow

end CantianConnector.Partition.RndPos
