import CantianConnector.Handler.Prefetch
import CantianConnector.Lib.Machine

/-!
# A scan delivers the rows of the engine

The engine hands out its rows in batches of any size. Whatever the capacity of the record buffer,
successive calls of `rnd_next` or `index_fetch` return these rows in order, each once, and then
the end of the file. The invariant (`Pending`) names the rows still to be returned: those of the
current batch behind the cursor and those the engine has not handed out yet.
-/

namespace CantianConnector.Handler

/-! ## What is assumed of the engine -/

section

variable {σ ρ : Type}

/-- A batch of the rows that remain. It ends early only when it is full, when the space left is
smaller than the largest row, or when no rows are left. -/
structure BatchOf (recLen : Nat) (before batch after : List (Row ρ)) : Prop where
  split : before = batch ++ after
  length_le : batch.length ≤ maxPrefetchRecNum
  full : batch.length < maxPrefetchRecNum → recLen ≤ maxRecordSize - totalLen batch → after = []

/-- The engine's cursor stands before the rows `remaining`. -/
structure ScanLaw (recLen : Nat) (next : σ → Except Int (Option (Row ρ)) × σ)
    (prefetch : Nat → σ → Except Int (List (Row ρ)) × σ) (remaining : σ → List (Row ρ)) :
    Prop where
  prefetch_ok : ∀ s, ∃ batch s', prefetch recLen s = (.ok batch, s') ∧
    BatchOf recLen (remaining s) batch (remaining s')
  next_ok : ∀ s, ∃ row s', next s = (.ok row, s') ∧
    remaining s = row.toList ++ remaining s' ∧ (row = none → remaining s' = [])

/-! ## The rows still to be returned -/

/-- The rows that the following calls have to return. -/
inductive Pending (recLen : Nat) (remaining : σ → List (Row ρ)) (h : HaCtc σ ρ) :
    List (Row ρ) → Prop
  /-- Rows are read one by one. -/
  | direct (hd : Direct h) : Pending recLen remaining h (remaining h.tch)
  /-- Nothing was prefetched, or the batch ended with the buffer. -/
  | empty (buf : RecordBuffer ρ) (hbuf : h.recBuf = some buf) (hmax : buf.maxRecords ≠ 0)
      (hcount : buf.count = 0) : Pending recLen remaining h (remaining h.tch)
  /-- Row `p` of a batch was returned last. -/
  | reading (buf : RecordBuffer ρ) (batch : List (Row ρ)) (p : Nat)
      (hr : Reading recLen h buf batch p) (hcount : buf.count ≠ 0)
      (hfull : batch.length < maxPrefetchRecNum → recLen ≤ maxRecordSize - totalLen batch →
        remaining h.tch = []) :
      Pending recLen remaining h (batch.drop (p + 1) ++ remaining h.tch)
  /-- The rows of a batch are used up, and the buffer has not been reset. -/
  | drained (buf : RecordBuffer ρ) (hbuf : h.recBuf = some buf) (hmax : buf.maxRecords ≠ 0)
      (hcount : buf.count ≠ 0) (hcur : h.curPosInBuf = invalidMaxUint32)
      (hflag : buf.outOfRange = true → remaining h.tch = []) :
      Pending recLen remaining h (remaining h.tch)

/-- A call returns the first of the pending rows and leaves the others. -/
def Pays (recLen : Nat) (remaining : σ → List (Row ρ)) :
    List (Row ρ) → Outcome ρ × HaCtc σ ρ → Prop
  | [], out => out.1 = .endOfFile ∧ Pending recLen remaining out.2 []
  | row :: rest, out => out.1 = .row (some row) ∧ Pending recLen remaining out.2 rest

variable {recLen : Nat} {next : σ → Except Int (Option (Row ρ)) × σ}
  {prefetch : Nat → σ → Except Int (List (Row ρ)) × σ} {remaining : σ → List (Row ρ)}
  {h : HaCtc σ ρ} {rows : List (Row ρ)}

/-- An empty buffer needs no distinction of its own while a batch is read. -/
theorem pending_of_reading {buf : RecordBuffer ρ} {batch : List (Row ρ)} {p : Nat}
    (hr : Reading recLen h buf batch p)
    (hfull : batch.length < maxPrefetchRecNum → recLen ≤ maxRecordSize - totalLen batch →
      remaining h.tch = []) :
    Pending recLen remaining h (batch.drop (p + 1) ++ remaining h.tch) := by
  by_cases hcount : buf.count = 0
  · have hlast := hr.last_of_count hcount
    rw [hlast, List.drop_length, List.nil_append]
    exact .empty buf hr.recBuf (Nat.ne_of_gt hr.max_pos) hcount
  · exact .reading buf batch p hr hcount hfull

/-! ## One call -/

theorem pays_direct (hLaw : ScanLaw recLen next prefetch remaining) (hd : Direct h) :
    Pays recLen remaining (remaining h.tch) (fetchNext recLen next prefetch h) := by
  obtain ⟨row, s', hnext, hsplit, hnone⟩ := hLaw.next_ok h.tch
  rw [fetchNext_direct hd, hnext, hsplit]
  cases row with
  | none =>
    have hend := hnone rfl
    have hpending : Pending recLen remaining { h with tch := s' } (remaining s') := .direct hd
    rw [hend] at hpending ⊢
    exact ⟨rfl, hpending⟩
  | some row => exact ⟨rfl, .direct hd⟩

/-- A new batch is fetched when nothing of the old one is left. -/
theorem pays_prefetch (hLen : recLen ≤ ctMaxRecordLength)
    (hLaw : ScanLaw recLen next prefetch remaining) {buf : RecordBuffer ρ}
    (hbuf : h.recBuf = some buf) (hmax : buf.maxRecords ≠ 0)
    (hold : buf.count = 0 ∨ h.curPosInBuf = invalidMaxUint32 ∧ buf.outOfRange = false) :
    Pays recLen remaining (remaining h.tch)
      (prefetchAndFillRecordBuffer recLen prefetch h buf) := by
  obtain ⟨batch, s', hreply, hsplit, hle, hfull⟩ := hLaw.prefetch_ok h.tch
  rw [hsplit]
  cases batch with
  | nil =>
    have hend : remaining s' = [] := by
      apply hfull
      · exact (by decide : 0 < maxPrefetchRecNum)
      · exact Nat.le_trans hLen (show 64000 ≤ 65536 - 0 by omega)
    have hpending : Pending recLen remaining { h with tch := s' } (remaining s') := by
      rcases hold with hcount | ⟨hcur, hflag⟩
      · exact .empty buf hbuf hmax hcount
      · by_cases hcount : buf.count = 0
        · exact .empty buf hbuf hmax hcount
        · refine .drained buf hbuf hmax hcount hcur ?_
          intro htrue
          rw [hflag] at htrue
          cases htrue
    rw [prefetch_empty hreply]
    rw [hend] at hpending ⊢
    exact ⟨rfl, hpending⟩
  | cons row rest =>
    obtain ⟨h', buf', hout, htch, hr⟩ :=
      prefetch_reading (Nat.pos_of_ne_zero hmax) hreply hle
    rw [hout]
    refine ⟨rfl, ?_⟩
    subst htch
    exact pending_of_reading hr hfull

/-- The flag tells the end of the scan behind the last row of a batch. -/
theorem Reading.outOfRange_exhausted (hLen : recLen ≤ ctMaxRecordLength) {buf : RecordBuffer ρ}
    {batch : List (Row ρ)} {p : Nat} (hr : Reading recLen h buf batch p)
    (hlast : p + 1 = batch.length)
    (hfull : batch.length < maxPrefetchRecNum → recLen ≤ maxRecordSize - totalLen batch →
      remaining h.tch = []) (hflag : buf.outOfRange = true) : remaining h.tch = [] := by
  have hoff : h.curOffInPrefetchBuf = totalLen batch := by
    rw [hr.off, hr.index_of_last hlast, List.take_length]
  rw [hr.flag, isOutOfRange, hoff, Bool.and_eq_true, decide_eq_true_eq, decide_eq_true_eq] at hflag
  apply hfull hflag.2
  have hspace := hflag.1
  unfold ctMaxRecordLength at hLen
  unfold maxRecordSize at hspace ⊢
  omega

/-- Behind the last row of a batch: the end of the file, or a new batch. -/
theorem pays_behind (hLen : recLen ≤ ctMaxRecordLength)
    (hLaw : ScanLaw recLen next prefetch remaining) {buf : RecordBuffer ρ}
    (hbuf : h.recBuf = some buf) (hmax : buf.maxRecords ≠ 0) (hcount : buf.count ≠ 0)
    (hcur : (h.actualFetchedNums + (2 ^ 32 - 1)) % 2 ^ 32 ≤ h.curPosInBuf)
    (hflag : buf.outOfRange = true → remaining h.tch = []) :
    Pays recLen remaining (remaining h.tch) (fetchNext recLen next prefetch h) := by
  rw [fetchNext_behind hbuf hmax hcount hcur]
  cases hrange : buf.outOfRange with
  | true =>
    have hend := hflag hrange
    have hpending : Pending recLen remaining { h with curPosInBuf := invalidMaxUint32 }
        (remaining h.tch) := .drained buf hbuf hmax hcount rfl hflag
    rw [if_pos rfl]
    rw [hend] at hpending ⊢
    exact ⟨rfl, hpending⟩
  | false =>
    rw [if_neg Bool.false_ne_true]
    exact @pays_prefetch σ ρ recLen next prefetch remaining
      { h with curPosInBuf := invalidMaxUint32 } hLen hLaw buf hbuf hmax (.inr ⟨rfl, hrange⟩)

/-- **One call** returns the first pending row. -/
theorem fetchNext_pays (hLen : recLen ≤ ctMaxRecordLength)
    (hLaw : ScanLaw recLen next prefetch remaining) (hp : Pending recLen remaining h rows) :
    Pays recLen remaining rows (fetchNext recLen next prefetch h) := by
  cases hp with
  | direct hd => exact pays_direct hLaw hd
  | empty buf hbuf hmax hcount =>
    rw [fetchNext_empty hbuf hmax hcount]
    exact pays_prefetch hLen hLaw hbuf hmax (.inl hcount)
  | reading buf batch p hr hcount hfull =>
    have hlt := hr.lt
    by_cases hnext : p + 1 < batch.length
    · obtain ⟨h', buf', hout, htch, hr'⟩ :=
        @fetchNext_reading σ ρ recLen next prefetch h buf batch p hr hnext
      rw [hout, List.drop_eq_getElem_cons hnext, List.getElem?_eq_getElem hnext]
      refine ⟨rfl, ?_⟩
      rw [← htch] at hfull ⊢
      exact pending_of_reading hr' hfull
    · have hlast : p + 1 = batch.length := by omega
      rw [hlast, List.drop_length, List.nil_append]
      apply pays_behind hLen hLaw hr.recBuf (Nat.ne_of_gt hr.max_pos) hcount
      · rw [hr.fetched_sub_one, hr.pos]
        omega
      · exact hr.outOfRange_exhausted hLen hlast hfull
  | drained buf hbuf hmax hcount hcur hflag =>
    apply pays_behind hLen hLaw hbuf hmax hcount
    · rw [hcur]
      exact fetched_sub_one_le_invalid _
    · exact hflag

/-! ## Whole scans -/

/-- A scan starts with an empty buffer. -/
theorem pending_of_records (hIdle : records h = 0) :
    Pending recLen remaining h (remaining h.tch) := by
  cases hbuf : h.recBuf with
  | none =>
    apply Pending.direct
    intro buf hsome
    rw [hbuf] at hsome
    cases hsome
  | some buf =>
    by_cases hmax : buf.maxRecords = 0
    · apply Pending.direct
      intro buf' hsome
      obtain rfl : buf = buf' := Option.some.inj (hbuf.symm.trans hsome)
      exact hmax
    · apply Pending.empty buf hbuf hmax
      unfold records at hIdle
      rw [hbuf] at hIdle
      exact hIdle

/-- The answers of `n` successive calls. -/
theorem outputs_fetchNext (hLen : recLen ≤ ctMaxRecordLength)
    (hLaw : ScanLaw recLen next prefetch remaining) (hIdle : records h = 0) (n : Nat) :
    Machine.outputs (fetchNext recLen next prefetch) n h =
      ((remaining h.tch).map (fun row => Outcome.row (some row)) ++
        List.replicate n Outcome.endOfFile).take n := by
  apply @Machine.outputs_eq_of_owes _ _ (fetchNext recLen next prefetch)
    (fun h owed => ∃ rows, Pending recLen remaining h rows ∧
      owed = rows.map fun row => .row (some row))
  · rintro h out rest ⟨rows, hp, howed⟩
    cases rows with
    | nil => cases howed
    | cons row tail =>
      obtain ⟨hout, hrest⟩ := fetchNext_pays hLen hLaw hp
      obtain ⟨rfl, rfl⟩ := List.cons.inj howed
      exact ⟨hout, tail, hrest, rfl⟩
  · rintro h ⟨rows, hp, howed⟩
    obtain rfl : rows = [] := List.map_eq_nil_iff.mp howed.symm
    obtain ⟨hout, hrest⟩ := fetchNext_pays hLen hLaw hp
    exact ⟨hout, [], hrest, rfl⟩
  · exact ⟨_, pending_of_records hIdle, rfl⟩

theorem records_resetRecBuf (isPrefetch : Bool) (h : HaCtc σ ρ) :
    records (resetRecBuf isPrefetch h) = 0 := by
  unfold records resetRecBuf
  cases h.recBuf <;> rfl

/-- `rnd_init` and `index_init` leave an empty buffer. -/
theorem records_initScan (canPrefetchRecords : Bool) (recBuffLength : Nat) (tch : σ)
    (h : HaCtc σ ρ) : records (initScan canPrefetchRecords recBuffLength tch h) = 0 :=
  records_resetRecBuf _ _

/-- So does `index_read`. -/
theorem records_indexRead {κ : Type} (engine : Engine σ ρ κ) (key : Except Int κ)
    (h : HaCtc σ ρ) : records (indexRead engine key h).2 = 0 := by
  have hreset : records (if 0 < records h then resetRecBuf false h else h) = 0 := by
    split
    · exact records_resetRecBuf _ _
    · omega
  unfold indexRead
  cases key with
  | error code => exact hreset
  | ok key => exact hreset

/-- **A scan returns every row of the engine once and in order.** From an empty record buffer of
any capacity, or without one, `n` calls of `rnd_next`, or of `index_fetch`, return the rows that
remain in the engine and report the end of the file only after the last of them. -/
theorem scan_delivers {κ : Type} (engine : Engine σ ρ κ) (hLen : recLen ≤ ctMaxRecordLength)
    {rndRows indexRows : σ → List (Row ρ)}
    (hRnd : ScanLaw recLen engine.rndNext engine.rndPrefetch rndRows)
    (hIndex : ScanLaw recLen engine.generalFetch engine.generalPrefetch indexRows)
    (hIdle : records h = 0) (n : Nat) :
    Machine.outputs (rndNext engine recLen false) n h =
        ((rndRows h.tch).map (fun row => Outcome.row (some row)) ++
          List.replicate n Outcome.endOfFile).take n ∧
      Machine.outputs (indexFetch engine recLen) n h =
        ((indexRows h.tch).map (fun row => Outcome.row (some row)) ++
          List.replicate n Outcome.endOfFile).take n := by
  have hnext : rndNext engine recLen false =
      fetchNext recLen engine.rndNext engine.rndPrefetch := by
    ext1 h
    unfold rndNext
    rw [if_neg (by simp)]
  constructor
  · rw [hnext]
    exact outputs_fetchNext hLen hRnd hIdle n
  · exact outputs_fetchNext hLen hIndex hIdle n

end

/-! ## Three rows through a buffer of one -/

/-- An engine of short rows: the cursor is the list of the rows that remain. -/
def shortRows : Engine (List (Row Unit)) Unit Unit where
  rndNext rows := (.ok rows.head?, rows.tail)
  rndPrefetch _ rows := (.ok (rows.take maxPrefetchRecNum), rows.drop maxPrefetchRecNum)
  generalFetch rows := (.ok rows.head?, rows.tail)
  generalPrefetch _ rows := (.ok (rows.take maxPrefetchRecNum), rows.drop maxPrefetchRecNum)
  indexRead _ rows := (.ok rows.head?, rows.tail)
  position _ := 0

theorem shortRows_law (recLen : Nat) :
    ScanLaw recLen shortRows.rndNext shortRows.rndPrefetch id where
  prefetch_ok rows := by
    refine ⟨_, _, rfl, ?_, ?_, ?_⟩
    · exact (List.take_append_drop _ _).symm
    · exact List.length_take_le _ _
    · intro hlt _
      rw [List.length_take] at hlt
      exact List.drop_eq_nil_of_le (by omega)
  next_ok rows := by
    refine ⟨_, _, rfl, ?_, ?_⟩
    · cases rows <;> rfl
    · intro hnone
      rw [List.head?_eq_none_iff] at hnone
      subst hnone
      rfl

def shortRow (rowid : UInt64) : Row Unit := ⟨rowid, 16, (), by decide⟩

/-- A scan of three rows that may buffer one. -/
def threeRows : HaCtc (List (Row Unit)) Unit :=
  { tch := [shortRow 1, shortRow 2, shortRow 3], recBuf := some { maxRecords := 1 }
    prefetchBuf := [], recordLens := [], rowids := [], actualFetchedNums := invalidMaxUint32
    curPosInBuf := invalidMaxUint32, curOffInPrefetchBuf := 0, curFillBufIndex := 0 }

/-- The table is scanned from the buffer of one row, again from a new buffer, and by the index behind
its first row. -/
theorem scan_delivers_three_rows :
    Machine.outputs (rndNext shortRows 64 false) 5 threeRows =
        [.row (some (shortRow 1)), .row (some (shortRow 2)), .row (some (shortRow 3)), .endOfFile,
          .endOfFile] ∧
      Machine.outputs (rndNext shortRows 64 false) 4 (initScan true 256 threeRows.tch threeRows) =
        [.row (some (shortRow 1)), .row (some (shortRow 2)), .row (some (shortRow 3)),
          .endOfFile] ∧
      Machine.outputs (indexFetch shortRows 64) 3 (indexRead shortRows (.ok ()) threeRows).2 =
        [.row (some (shortRow 2)), .row (some (shortRow 3)), .endOfFile] := by
  have hdelivers : ∀ {h : HaCtc (List (Row Unit)) Unit}, records h = 0 → ∀ n, _ := fun hidle n =>
    scan_delivers shortRows (by decide) (shortRows_law 64) (shortRows_law 64) hidle n
  exact ⟨(hdelivers rfl 5).1, (hdelivers (records_initScan true 256 _ _) 4).1,
    (hdelivers (records_indexRead shortRows (.ok ()) threeRows) 3).2⟩

end CantianConnector.Handler
