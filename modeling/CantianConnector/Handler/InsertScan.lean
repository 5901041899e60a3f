import CantianConnector.Convert.StoredRow
import CantianConnector.Handler.BulkInsert
import CantianConnector.Handler.Delivery

/-!
# Rows that are inserted in bulk and scanned

A statement in bulk mode hands the engine the slots of its rows, each with the part id of its partition.
The engine stores the rows; a table scan of a partition reads them through the prefetch buffer and
decodes them. `insert_scan` says that the scan gives back the records of the statement.

The engine is the parameter of both sides: `KeepsLobs` says that answering a batch loses no LOB, and
the scan starts at the rows that the slots of the requests hold (`storedFor`).
-/

namespace CantianConnector.Handler

open CantianConnector.Convert

/-- A batch that is answered leaves the values behind the locators alone. -/
def BulkEngine.KeepsLobs {σ : Type} (engine : BulkEngine σ)
    (contents : σ → List UInt8 → Option (List UInt8)) : Prop :=
  ∀ s part req, Grows contents s (engine.dealFunc s part req).engine

/-- The rows that the engine stores for a part id. -/
def storedFor (part : Option CtcPart) (slots : List (List UInt8 × Option CtcPart)) :
    List (List UInt8) :=
  (slots.filter fun slot => slot.2 = part).map fun slot => storedRow slot.1

namespace BulkEnv

variable {σ : Type} (env : BulkEnv σ)

/-- A slot holds the row of a call, and the LOBs of the row are still there. -/
def Holds (contents : σ → List UInt8 → Option (List UInt8)) (s : σ) (call : WriteCall)
    (slot : List UInt8 × Option CtcPart) : Prop :=
  ∃ row : EncodedRecord σ, env.Encodes call row ∧ row.size ≤ env.recLen ∧
    slot = env.slotOf call row ∧ Grows contents row.lob s

/-- A stored row is decoded to the record of a call. -/
def ReadsBack (ctx : ReadCtx) (s : σ) (call : WriteCall) (bytes : List UInt8) : Prop :=
  ∀ m, ∃ m', cantianRecordToMysqlRecord env.build env.prims env.engine.lobs ctx env.table s
      (memOf bytes) m = .ok m' ∧
    ∀ f ∈ env.table.fields, f.isVirtualGcol = false → m'.fieldValue f = call.record.fieldValue f

variable {env} {contents : σ → List UInt8 → Option (List UInt8)} {h h' : BulkHandler σ}
  {buf buf' : WriteBuffer} {s s' : σ} {call : WriteCall}
  {slot : List UInt8 × Option CtcPart}

theorem Holds.grows (hholds : env.Holds contents s call slot) (hgrows : Grows contents s s') :
    env.Holds contents s' call slot := by
  obtain ⟨row, hencodes, hsize, hslot, hlobs⟩ := hholds
  exact ⟨row, hencodes, hsize, hslot, hlobs.trans hgrows⟩

theorem Holds.part (hholds : env.Holds contents s call slot) : slot.2 = env.partOf call := by
  obtain ⟨row, -, -, rfl, -⟩ := hholds
  rfl

/-! ## The LOBs along a statement -/

theorem bulkInsert_grows (hkeeps : env.engine.KeepsLobs contents)
    (hrun : env.bulkInsert buf h = .ok h') : Grows contents h.engine h'.engine := by
  unfold bulkInsert at hrun
  split at hrun
  · unfold ctcBulkWrite at hrun
    cases halloc : env.engine.allocShareMem h.engine with
    | false =>
      simp only [halloc, Bool.false_eq_true, if_false] at hrun
      split at hrun
      · cases hrun
        exact Grows.refl
      · cases hrun
    | true =>
      simp only [halloc, if_true] at hrun
      split at hrun
      · cases hrun
        exact hkeeps _ _ _
      · cases hrun
  · cases hrun

theorem flushIfFull_grows (hkeeps : env.engine.KeepsLobs contents)
    (hrun : env.flushIfFull buf h = .ok (buf', h')) : Grows contents h.engine h'.engine := by
  unfold flushIfFull at hrun
  split at hrun
  · cases hflush : env.bulkInsert buf h with
    | error e =>
      rw [hflush] at hrun
      cases hrun
    | ok h1 =>
      rw [hflush] at hrun
      cases hrun
      have hgrows : Grows contents h.engine h1.engine := bulkInsert_grows hkeeps hflush
      exact hgrows
  · cases hrun
    exact Grows.refl

theorem endBulkInsert_grows (hkeeps : env.engine.KeepsLobs contents)
    (hpass : (env.stmt.ddlPassthru && env.stmt.createTableCheck) = false)
    (hbuf : env.Buffered h buf) (hrun : env.endBulkInsert h = .ok h') :
    Grows contents h.engine h'.engine := by
  unfold endBulkInsert at hrun
  rw [hpass, if_neg Bool.false_ne_true, hbuf.buf_eq] at hrun
  dsimp only at hrun
  split at hrun
  · cases hflush : env.bulkInsert buf h with
    | error e =>
      rw [hflush] at hrun
      cases hrun
    | ok h1 =>
      rw [hflush] at hrun
      cases hrun
      have hgrows : Grows contents h.engine h1.engine := bulkInsert_grows hkeeps hflush
      exact hgrows
  · cases hrun
    exact Grows.refl

/-! ## One row -/

/-- A row is added to the buffer, and the handler has the LOB store that its encoding left. -/
structure AddsHeld (env : BulkEnv σ) (contents : σ → List UInt8 → Option (List UInt8))
    (call : WriteCall) (h : BulkHandler σ) (row : EncodedRecord σ) (h' : BulkHandler σ) : Prop where
  encodes : env.Encodes call row
  engine : h'.engine = row.lob
  grows : Grows contents h.engine h'.engine
  part : env.engine.KeepsPart → h'.part = h.part

theorem addRow_held (hlaw : env.engine.lobs.Lawful contents) (hins : env.Insertable)
    (hrecord : call.record.Of env.table) (hrun : env.addRow call.record buf h = .ok h') :
    ∃ row, AddsRow env h buf row h' ∧ AddsHeld env contents call h row h' := by
  obtain ⟨-, -, hlen⟩ := hins.recLen_bounds
  unfold addRow at hrun
  dsimp only at hrun
  split at hrun
  · cases hrun
  · rename_i row hencode
    split at hrun
    · cases hrun
    · cases hrun
      obtain ⟨hsize, -⟩ := encodedRecord_le_recordLength hlaw hins.supported hins.noBlob hrecord
        (fun ids hids => by cases hids) hencode
      refine ⟨row, ⟨by omega, rfl, ?_, ?_, rfl, rfl⟩, ⟨_, _, hencode⟩, rfl, ?_,
        fun hkeep => hkeep.lob _ _⟩
      · intro i hi
        apply Mem.read_graft_before
        rw [← Nat.mul_succ]
        exact Nat.mul_le_mul_left _ hi
      · exact Mem.read_graft_self _ _ _
      · exact encoded_grows hlaw hins.supported.valid.types hencode

theorem writeRow_held (hlaw : env.engine.lobs.Lawful contents)
    (hkeeps : env.engine.KeepsLobs contents) (hins : env.Insertable)
    (hpass : (env.stmt.ddlPassthru && env.stmt.createTableCheck) = false)
    (hbuf : env.Buffered h buf) (hrecord : call.record.Of env.table)
    (hrun : env.writeRow call.record h = .ok h') :
    ∃ h1 buf1 row, env.Buffered h1 buf1 ∧ buf1.count < env.maxBatchNum ∧
      env.delivered h1 = env.delivered h ∧ AddsRow env h1 buf1 row h' ∧
      AddsHeld env contents call h row h' := by
  unfold writeRow at hrun
  rw [hpass, if_neg Bool.false_ne_true, hbuf.buf_eq] at hrun
  dsimp only at hrun
  split at hrun
  · cases hrun
  · rename_i buf1 h1 hflush
    obtain ⟨hbuf1, hroom, hsame, hpart⟩ := flushIfFull_ok hins hbuf hflush
    obtain ⟨row, hadd, hheld⟩ := addRow_held hlaw hins hrecord hrun
    exact ⟨h1, buf1, row, hbuf1, hroom, hsame, hadd, hheld.encodes, hheld.engine,
      (flushIfFull_grows hkeeps hflush).trans hheld.grows,
      fun hkeep => (hheld.part hkeep).trans (hpart hkeep)⟩

/-- One row: the slot that is added holds it. -/
theorem writeOne_held (hlaw : env.engine.lobs.Lawful contents)
    (hkeep : env.kind.isPartitioned = true → env.engine.KeepsPart)
    (hkeeps : env.engine.KeepsLobs contents) (hins : env.Insertable)
    (hpass : (env.stmt.ddlPassthru && env.stmt.createTableCheck) = false)
    (hbuf : env.Buffered h buf) (hrecord : call.record.Of env.table)
    (hrun : env.writeOne call h = .ok h') :
    ∃ buf' slot, env.Buffered h' buf' ∧ env.delivered h' = env.delivered h ++ [slot] ∧
      env.Holds contents h'.engine call slot ∧ Grows contents h.engine h'.engine := by
  unfold writeOne at hrun
  cases hkind : env.kind with
  | plain =>
    rw [hkind] at hrun
    obtain ⟨h1, buf1, row, hbuf1, hroom, hsame, hadd, hheld⟩ :=
      writeRow_held hlaw hkeeps hins hpass hbuf hrecord hrun
    have hnote : NotesPart buf1 h' h' := ⟨rfl, rfl, rfl, fun _ _ => rfl⟩
    refine ⟨_, env.slotOf call row, hadd.buffered hbuf1 hroom hnote, ?_,
      ⟨row, hheld.encodes, hadd.size_le, rfl, ?_⟩, hheld.grows⟩
    · rw [hadd.delivered hbuf1 hnote, hsame, slotOf, partOf, hkind]
      rfl
    · rw [hheld.engine]
      exact Grows.refl
  | partitioned numSubparts =>
    rw [hkind] at hrun
    dsimp only at hrun
    unfold writeRowInPart at hrun
    split at hrun
    · cases hrun
    · rename_i h2 hwrite
      have hbuf0 : env.Buffered { h with part := setPartition numSubparts call.partId } buf :=
        ⟨hbuf.buf_eq, hbuf.max, hbuf.count_le, hbuf.sent⟩
      obtain ⟨h1, buf1, row, hbuf1, hroom, hsame, hadd, hheld⟩ :=
        writeRow_held hlaw hkeeps hins hpass hbuf0 hrecord hwrite
      split at hrun
      · rename_i hnone
        rw [hadd.buf_eq] at hnone
        cases hnone
      · rename_i buf2 hbuf2
        obtain rfl := Option.some.inj (hbuf2.symm.trans hadd.buf_eq)
        rw [if_neg (Nat.succ_ne_zero _)] at hrun
        simp only [Nat.add_sub_cancel] at hrun
        cases hrun
        have hnote : NotesPart buf1 h2 { h2 with
            parts := Function.update h2.parts buf1.count h2.part, part := resetPartition } :=
          ⟨rfl, rfl, rfl, fun i hi => Function.update_of_ne (by omega) _ _⟩
        have hpart : h2.part = setPartition numSubparts call.partId :=
          hheld.part (hkeep (by rw [hkind]; rfl))
        refine ⟨_, env.slotOf call row, hadd.buffered hbuf1 hroom hnote, ?_,
          ⟨row, hheld.encodes, hadd.size_le, rfl, ?_⟩, hheld.grows⟩
        · rw [hadd.delivered hbuf1 hnote, hsame]
          simp only [Function.update_self, hpart, slotOf, partOf, hkind]
          rfl
        · show Grows contents row.lob h2.engine
          rw [hheld.engine]
          exact Grows.refl

/-! ## A statement -/

/-- The rows of a statement, in the order of the calls. -/
theorem writeAll_held (hlaw : env.engine.lobs.Lawful contents)
    (hkeep : env.kind.isPartitioned = true → env.engine.KeepsPart)
    (hkeeps : env.engine.KeepsLobs contents) (hins : env.Insertable)
    (hpass : (env.stmt.ddlPassthru && env.stmt.createTableCheck) = false) {calls : List WriteCall}
    (hrecords : ∀ call ∈ calls, call.record.Of env.table) (hbuf : env.Buffered h buf)
    (hrun : env.writeAll calls h = .ok h') :
    ∃ buf' slots, env.Buffered h' buf' ∧ env.delivered h' = env.delivered h ++ slots ∧
      List.Forall₂ (env.Holds contents h'.engine) calls slots ∧
      Grows contents h.engine h'.engine := by
  induction calls generalizing h buf with
  | nil =>
    cases hrun
    exact ⟨buf, [], hbuf, (List.append_nil _).symm, .nil, Grows.refl⟩
  | cons call calls ih =>
    rw [writeAll] at hrun
    split at hrun
    · cases hrun
    · rename_i h1 hone
      obtain ⟨buf1, slot, hbuf1, hdel, hholds, hgrows⟩ :=
        writeOne_held hlaw hkeep hkeeps hins hpass hbuf (hrecords call List.mem_cons_self) hone
      obtain ⟨buf', slots, hbuf', hdel', hall, hgrows'⟩ :=
        ih (fun c hc => hrecords c (List.mem_cons_of_mem call hc)) hbuf1 hrun
      refine ⟨buf', slot :: slots, hbuf', ?_, .cons (hholds.grows hgrows') hall,
        hgrows.trans hgrows'⟩
      rw [hdel', hdel, List.append_assoc, List.singleton_append]

/-! ## Reading back -/

theorem Holds.readsBack (hlaw : env.engine.lobs.Lawful contents) (hins : env.Insertable)
    (hholds : env.Holds contents s call slot)
    (hinput : RoundTripInput env.prims env.table call.record)
    (hsafe : Decodable env.build env.table call.record) {ctx : ReadCtx}
    (hctx : ∀ c, c < env.table.fields.length → ctx.copies c = true ∧ c ≤ ctx.maxColIdx) :
    env.ReadsBack ctx s call (storedRow slot.1) := by
  obtain ⟨row, ⟨before, lob, hencode⟩, hsize, rfl, hgrows⟩ := hholds
  obtain ⟨-, hle, -⟩ := hins.recLen_bounds
  unfold maxSupportedRecordLength at hle
  intro m
  exact storedRow_decodes hlaw hinput hsafe hencode hsize (by omega) hgrows hctx m

/-- The rows of one part id are those of the calls for it. -/
theorem storedFor_spec {P : WriteCall → List UInt8 → Prop} {calls : List WriteCall}
    {slots : List (List UInt8 × Option CtcPart)} (part : Option CtcPart)
    (hall : List.Forall₂ (fun call slot => slot.2 = env.partOf call ∧ P call (storedRow slot.1))
      calls slots) :
    List.Forall₂ P (calls.filter fun call => env.partOf call = part) (storedFor part slots) := by
  unfold storedFor
  induction hall with
  | nil => exact .nil
  | @cons call slot calls slots hhead _ ih =>
    obtain ⟨hpart, hrow⟩ := hhead
    by_cases hmatch : env.partOf call = part
    · rw [List.filter_cons_of_pos (by simpa using hmatch),
        List.filter_cons_of_pos (by simpa [hpart] using hmatch), List.map_cons]
      exact .cons hrow ih
    · rw [List.filter_cons_of_neg (by simpa using hmatch),
        List.filter_cons_of_neg (by simpa [hpart] using hmatch)]
      exact ih

/-- **Insert, then scan.** A statement in bulk mode ends without an error; the engine stores the rows of
its requests and keeps their LOBs. A table scan of a partition, through a record buffer of any capacity
or without one, then returns as many rows as the statement has for the partition, in the order of the
statement, and each is decoded to the values of its record; then comes the end of the file. -/
theorem insert_scan {τ κ : Type} (hlaw : env.engine.lobs.Lawful contents)
    (hkeep : env.kind.isPartitioned = true → env.engine.KeepsPart)
    (hkeeps : env.engine.KeepsLobs contents) (htable : env.table.Supported)
    (hcreate : getCantianRecordLength env.table ≤ maxSupportedRecordLength) {count : Nat}
    {allocated : Bool} (hnone : h.buf = none)
    (hmode : (env.startBulkInsert count allocated h).buf ≠ none) {calls : List WriteCall}
    (hrecords : ∀ call ∈ calls, call.record.Of env.table)
    (hinput : ∀ call ∈ calls, RoundTripInput env.prims env.table call.record)
    (hsafe : ∀ call ∈ calls, Decodable env.build env.table call.record) {h1 h2 : BulkHandler σ}
    (hwrite : env.writeAll calls (env.startBulkInsert count allocated h) = .ok h1)
    (hend : env.endBulkInsert h1 = .ok h2) {lob : σ} (hlobs : Grows contents h2.engine lob)
    {ctx : ReadCtx}
    (hctx : ∀ c, c < env.table.fields.length → ctx.copies c = true ∧ c ≤ ctx.maxColIdx)
    {engine : Engine τ (List UInt8) κ} {rows : τ → List (Row (List UInt8))}
    (hscan : ScanLaw env.recLen engine.rndNext engine.rndPrefetch rows)
    {scan : HaCtc τ (List UInt8)} (hidle : records scan = 0) {part : Option CtcPart}
    (hstored : (rows scan.tch).map Row.record =
      storedFor part (h2.sent.flatMap BulkWriteRequest.rows)) (n : Nat) :
    ∃ scanned : List (Row (List UInt8)),
      Machine.outputs (rndNext engine env.recLen false) n scan =
        (scanned.map (fun row => Outcome.row (some row)) ++
          List.replicate n Outcome.endOfFile).take n ∧
      List.Forall₂ (fun call row => env.ReadsBack ctx lob call row.record)
        (calls.filter fun call => env.partOf call = part) scanned := by
  obtain ⟨hpass, hstart, hblob, hempty⟩ := startBulkInsert_buffered hnone hmode
  have hins : env.Insertable := ⟨htable, hcreate, hblob⟩
  obtain ⟨buf', slots, hbuf', hdel, hall, -⟩ :=
    writeAll_held hlaw hkeep hkeeps hins hpass hrecords hstart hwrite
  obtain ⟨hsent, -⟩ := endBulkInsert_ok hins hpass hbuf' hend
  have hgrows : Grows contents h1.engine lob :=
    (endBulkInsert_grows hkeeps hpass hbuf' hend).trans hlobs
  rw [hempty, List.nil_append] at hdel
  have hread : List.Forall₂ (fun call slot => slot.2 = env.partOf call ∧
      env.ReadsBack ctx lob call (storedRow slot.1)) calls slots := by
    rw [List.forall₂_iff_get] at hall ⊢
    obtain ⟨hlength, hget⟩ := hall
    refine ⟨hlength, ?_⟩
    intro i hi hi'
    have hholds := hget i hi hi'
    have hmem : calls.get ⟨i, hi⟩ ∈ calls := List.get_mem calls ⟨i, hi⟩
    exact ⟨hholds.part, (hholds.grows hgrows).readsBack hlaw hins (hinput _ hmem)
      (hsafe _ hmem) hctx⟩
  have hrows := storedFor_spec part hread
  refine ⟨rows scan.tch, ?_, ?_⟩
  · have hnext : rndNext engine env.recLen false =
        fetchNext env.recLen engine.rndNext engine.rndPrefetch := by
      ext1 g
      unfold rndNext
      rw [if_neg (by simp)]
    obtain ⟨-, hle, -⟩ := hins.recLen_bounds
    rw [hnext]
    exact outputs_fetchNext hle hscan hidle n
  · rw [← List.forall₂_map_right_iff (f := Row.record), hstored, hsent, hdel]
    exact hrows

end BulkEnv

/-! ### A scan of one of three partitions -/

/-- An engine whose cursor is the list of the rows that remain. -/
def listRows (ρ : Type) : Engine (List (Row ρ)) ρ Unit where
  rndNext rows := (.ok rows.head?, rows.tail)
  rndPrefetch _ rows := (.ok (rows.take maxPrefetchRecNum), rows.drop maxPrefetchRecNum)
  generalFetch rows := (.ok rows.head?, rows.tail)
  generalPrefetch _ rows := (.ok (rows.take maxPrefetchRecNum), rows.drop maxPrefetchRecNum)
  indexRead _ rows := (.ok rows.head?, rows.tail)
  position _ := 0

theorem listRows_law (ρ : Type) (recLen : Nat) :
    ScanLaw recLen (listRows ρ).rndNext (listRows ρ).rndPrefetch id where
  prefetch_ok rows := by
    refine ⟨_, _, rfl, (List.take_append_drop _ _).symm, List.length_take_le _ _, ?_⟩
    intro hlt _
    rw [List.length_take] at hlt
    exact List.drop_eq_nil_of_le (by omega)
  next_ok rows := by
    refine ⟨_, _, rfl, ?_, ?_⟩
    · cases rows <;> rfl
    · intro hnone
      rw [List.head?_eq_none_iff] at hnone
      subst hnone
      rfl

def rowOf (bytes : List UInt8) : Row (List UInt8) :=
  ⟨0, max bytes.length 1, bytes, Nat.lt_of_lt_of_le Nat.one_pos (Nat.le_max_right _ _)⟩

/-- A scan without a record buffer. -/
def directScan (rows : List (Row (List UInt8))) : HaCtc (List (Row (List UInt8))) (List UInt8) :=
  ⟨rows, none, [], [], [], 0, 0, 0, 0⟩

theorem letter_input (letter : UInt8) :
    RoundTripInput .none longRowsEnv.table (letterRecord letter) := by
  refine ⟨⟨by decide, ?_⟩, ⟨by decide, by decide, by decide⟩, by decide, ?_⟩
  · intro f hf
    obtain rfl := List.mem_singleton.mp hf
    exact (by decide : 30000 < 65536)
  · intro f hf _ _
    obtain rfl := List.mem_singleton.mp hf
    change ((letterRecord letter).stringData _).length ≤ 30000
    exact (by decide : (1 : Nat) ≤ 30000)

/-- The second row of the statement is the only one of its partition. -/
theorem insert_scan_letters : ∃ h1 h2 row,
    longRowsEnv.writeAll letterCalls (longRowsEnv.startBulkInsert 3 true emptyHandler) = .ok h1 ∧
      longRowsEnv.endBulkInsert h1 = .ok h2 ∧
      Machine.outputs (rndNext (listRows (List UInt8)) longRowsEnv.recLen false) 2 (directScan
        ((storedFor (some ⟨1, 1⟩) (h2.sent.flatMap BulkWriteRequest.rows)).map rowOf)) =
        [.row (some row), .endOfFile] ∧
      longRowsEnv.ReadsBack .all () ⟨letterRecord 98, 3⟩ row.record := by
  have htable : longRowsEnv.table.Supported := by
    refine ⟨⟨by decide, ?_⟩, by decide⟩
    intro f hf
    obtain rfl := List.mem_singleton.mp hf
    exact (by decide : 30000 < 65536)
  have hrecords : ∀ call ∈ letterCalls, call.record.Of longRowsEnv.table := by
    unfold MysqlRecord.Of
    decide
  have hinput : ∀ call ∈ letterCalls, RoundTripInput .none longRowsEnv.table call.record := by
    simp only [letterCalls, List.forall_mem_cons]
    exact ⟨letter_input 97, letter_input 98, letter_input 99, fun _ h => nomatch h⟩
  have hsafe : ∀ call ∈ letterCalls, Decodable .debug longRowsEnv.table call.record := by
    intro call hcall
    right
    revert call
    decide
  have hctx : ∀ c, c < longRowsEnv.table.fields.length →
      ReadCtx.all.copies c = true ∧ c ≤ ReadCtx.all.maxColIdx := by
    intro c hc
    have hc' : c < 1 := hc
    exact ⟨rfl, show c ≤ 4096 by omega⟩
  obtain ⟨h1, hwrite⟩ : ∃ h1, longRowsEnv.writeAll letterCalls
      (longRowsEnv.startBulkInsert 3 true emptyHandler) = .ok h1 := ⟨_, rfl⟩
  obtain ⟨h2, hend⟩ : ∃ h2, longRowsEnv.endBulkInsert h1 = .ok h2 := by
    cases hwrite
    exact ⟨_, rfl⟩
  have hidle : records (directScan
      ((storedFor (some ⟨1, 1⟩) (h2.sent.flatMap BulkWriteRequest.rows)).map rowOf)) = 0 := rfl
  have hstored : (id (directScan
      ((storedFor (some ⟨1, 1⟩) (h2.sent.flatMap BulkWriteRequest.rows)).map rowOf)).tch).map
        Row.record = storedFor (some ⟨1, 1⟩) (h2.sent.flatMap BulkWriteRequest.rows) := by
    simp [directScan, rowOf, Function.comp_def]
  obtain ⟨scanned, houtputs, hread⟩ := BulkEnv.insert_scan LobStore.refusing_lawful
    (fun _ => ⟨fun _ _ => rfl, fun _ _ _ => rfl⟩) (fun _ _ _ => Grows.refl) htable (by decide) rfl
    (by decide) hrecords hinput hsafe hwrite hend (Grows.refl) hctx
    (listRows_law (List UInt8) longRowsEnv.recLen) hidle hstored 2
  cases hread with
  | @cons _ row _ rest hrow hrest =>
    cases hrest
    exact ⟨h1, h2, row, hwrite, hend, houtputs, hrow⟩

end CantianConnector.Handler
