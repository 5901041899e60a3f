import CantianConnector.ParallelReader.Model
import Mathlib.Algebra.Order.Group.Multiset
import Mathlib.Data.Fintype.Basic
import Mathlib.Tactic.Abel

/-!
# No row twice

The rows of the scan ranges are, at every moment, in the frames that were returned, in the work
tuples, in the copies that the calls work on, in the ranges not yet fetched, or lost to a failed
engine call. So no row is delivered twice, as long as every failed `ctc_rnd_prefetch` meets a tuple
with no rows in its buffer: the branch after it resets the indexes, and `fetched_num` still counts
the batch before.
-/

namespace CantianConnector.ParallelReader

open CantianConnector.Handler (Row rowAt totalLen LensOf maxPrefetchRecNum rowAt_totalLen
  totalLen_take_succ)

open scoped BigOperators

variable {β ρ κ : Type} {W : Nat}

/-! ## The rows of a work tuple -/

/-- The rows that the tuple still has to deliver. -/
def WorkTuple.rows (t : WorkTuple ρ) : List (Row ρ) :=
  (t.prefetchBuf.take t.fetchedNum).drop t.currentEntryIndex ++ t.cursor

/-- The buffer holds `fetched_num` rows and the indexes stand before one of them or behind all;
a closed cursor has no rows. -/
structure WorkTuple.Sound (t : WorkTuple ρ) : Prop where
  loaded : t.fetchedNum ≠ 0 → t.fetchedNum = t.prefetchBuf.length ∧
    LensOf t.prefetchBuf t.recordLens ∧ t.currentEntryIndex ≤ t.fetchedNum ∧
    t.currentOffset = totalLen (t.prefetchBuf.take t.currentEntryIndex)
  closed : t.cursorValid = false → t.cursor = []

theorem WorkTuple.sound_init : (WorkTuple.init : WorkTuple ρ).Sound where
  loaded h := absurd rfl h
  closed _ := rfl

theorem WorkTuple.sound_update {workTuples : Fin W → WorkTuple ρ} (h : ∀ i, (workTuples i).Sound)
    {i : Fin W} {t : WorkTuple ρ} (ht : t.Sound) :
    ∀ j, (Function.update workTuples i t j).Sound := by
  apply (Function.forall_update_iff workTuples fun _ t => t.Sound).mpr
  exact ⟨ht, fun j _ => h j⟩

theorem WorkTuple.rows_of_exhausted {t : WorkTuple ρ} (h : t.exhausted = true) :
    t.rows = t.cursor := by
  unfold WorkTuple.exhausted at h
  rw [Bool.or_eq_true, decide_eq_true_eq, decide_eq_true_eq] at h
  have hnone : (t.prefetchBuf.take t.fetchedNum).drop t.currentEntryIndex = [] := by
    rw [List.drop_eq_nil_iff, List.length_take]
    omega
  rw [WorkTuple.rows, hnone, List.nil_append]

/-- What filling a frame does to the tuple. -/
structure Converts (t : WorkTuple ρ) (rows : List (Option (Row ρ))) (t' : WorkTuple ρ) : Prop where
  taken : ∃ taken : List (Row ρ), rows = taken.map some ∧ t.rows = taken ++ t'.rows
  sound : t'.Sound
  cursor : t'.cursor = t.cursor
  cursorValid : t'.cursorValid = t.cursorValid
  fetchedNum : t'.fetchedNum = t.fetchedNum
  empty_iff : rows = [] ↔ t.fetchedNum ≤ t.currentEntryIndex

/-- The first row of the buffer goes to the frame. -/
theorem WorkTuple.Sound.next {t : WorkTuple ρ} (h : t.Sound)
    (hlt : t.currentEntryIndex < t.fetchedNum) :
    ∃ row, rowAt t.prefetchBuf t.currentOffset = some row ∧
      t.rows = row :: WorkTuple.rows { t with
        currentOffset := t.currentOffset + t.recordLens.getD t.currentEntryIndex 0
        currentEntryIndex := t.currentEntryIndex + 1 } ∧
      WorkTuple.Sound { t with
        currentOffset := t.currentOffset + t.recordLens.getD t.currentEntryIndex 0
        currentEntryIndex := t.currentEntryIndex + 1 } := by
  obtain ⟨hlen, hlens, -, hoff⟩ := h.loaded (by omega)
  have hrow : t.prefetchBuf[t.currentEntryIndex]? =
      some (t.prefetchBuf.get ⟨t.currentEntryIndex, by omega⟩) :=
    List.getElem?_eq_getElem (by omega)
  refine ⟨t.prefetchBuf.get ⟨t.currentEntryIndex, by omega⟩, ?_, ?_, ?_, h.closed⟩
  · rw [hoff, rowAt_totalLen]
    exact hrow
  · unfold WorkTuple.rows
    rw [hlen, List.take_length]
    rw [List.drop_eq_getElem_cons (by omega)]
    rfl
  · intro _
    refine ⟨hlen, hlens, hlt, ?_⟩
    change t.currentOffset + t.recordLens.getD t.currentEntryIndex 0 =
      totalLen (t.prefetchBuf.take (t.currentEntryIndex + 1))
    rw [totalLen_take_succ hrow, hlens _ _ hrow, hoff]

theorem convertLoop_spec (rowLen : Nat) (t : WorkTuple ρ) (size : Nat) (h : t.Sound) :
    Converts t (convertLoop rowLen t size).1 (convertLoop rowLen t size).2 := by
  fun_induction convertLoop rowLen t size with
  | case1 t size hlt row t' hfull =>
    obtain ⟨row', hrow, hrows, hsound⟩ := h.next hlt
    refine ⟨⟨[row'], ?_, hrows⟩, hsound, rfl, rfl, rfl, ?_⟩
    · rw [List.map_singleton, ← hrow]
    · simp [hlt]
  | case2 t size hlt row t' hfull rest ih =>
    obtain ⟨row', hrow, hrows, hsound⟩ := h.next hlt
    obtain ⟨⟨taken, htaken, hrest⟩, hsound', hcursor, hvalid, hnum, -⟩ := ih hsound
    refine ⟨⟨row' :: taken, ?_, ?_⟩, hsound', hcursor, hvalid, hnum, ?_⟩
    · rw [List.map_cons, ← hrow, ← htaken]
    · rw [hrows, List.cons_append, ← hrest]
    · simp [hlt]
  | case3 t size hlt =>
    refine ⟨⟨[], rfl, rfl⟩, h, rfl, rfl, rfl, ?_⟩
    exact iff_of_true rfl (Nat.le_of_not_lt hlt)

theorem Converts.of_convert {rowLen : Nat} {t t' : WorkTuple ρ} {rows : List (Option (Row ρ))}
    (h : t.Sound) (hdone : convertPrefetchBufferToMysql rowLen t = (rows, t')) :
    Converts t rows t' := by
  have hloop := convertLoop_spec rowLen t 0 h
  rw [convertPrefetchBufferToMysql] at hdone
  rw [hdone] at hloop
  exact hloop

/-! ## Picking a tuple -/

/-- A tuple that is not in use; one with rows, if there is one. -/
theorem getWorkTuple_eq_some {workTuples : Fin W → WorkTuple ρ} {i : Fin W}
    (h : getWorkTuple workTuples = some i) :
    (workTuples i).inUse = false ∧ ((workTuples i).fetched = false →
      ∀ j, (workTuples j).inUse = false → (workTuples j).fetched = false) := by
  rcases Option.or_eq_some_iff.mp h with hfirst | ⟨hnone, hfirst⟩
  · have hfound := List.find?_some hfirst
    rw [Bool.and_eq_true, Bool.not_eq_true'] at hfound
    refine ⟨hfound.2, ?_⟩
    intro hfetched
    rw [hfound.1] at hfetched
    cases hfetched
  · have hfound := List.find?_some hfirst
    rw [Bool.not_eq_true'] at hfound
    refine ⟨hfound, ?_⟩
    intro _ j hj
    have hno := List.find?_eq_none.mp hnone j (List.mem_finRange j)
    rw [hj, Bool.not_false, Bool.and_true, Bool.not_eq_true] at hno
    exact hno

theorem getWorkTuple_eq_none {workTuples : Fin W → WorkTuple ρ}
    (h : getWorkTuple workTuples = none) (i : Fin W) : (workTuples i).inUse = true := by
  have hno := List.find?_eq_none.mp (Option.or_eq_none_iff.mp h).2 i (List.mem_finRange i)
  rwa [Bool.not_eq_true', Bool.not_eq_false] at hno

/-! ## Where the rows are -/

/-- Rows as the entries of a frame. -/
def entries (rows : List (Row ρ)) : Multiset (Option (Row ρ)) := ↑(rows.map some)

@[simp] theorem entries_nil : entries ([] : List (Row ρ)) = 0 := rfl

@[simp] theorem entries_append (rows rows' : List (Row ρ)) :
    entries (rows ++ rows') = entries rows + entries rows' := by
  rw [entries, List.map_append, ← Multiset.coe_add]
  rfl

/-- The rows of a tuple that is not in use. -/
def WorkTuple.shelf (t : WorkTuple ρ) : Multiset (Option (Row ρ)) :=
  if t.inUse then 0 else entries t.rows

/-- The rows of the copy that a call works on. -/
def Consumer.rows : Consumer β ρ W → Multiset (Option (Row ρ))
  | .fetching _ _ t _ | .prefetching _ _ t | .converting _ _ t _ => entries t.rows
  | .idle _ | .emptied _ | .holding _ => 0

/-- The entries of all frames that were returned. -/
def PqSys.delivered (s : PqSys β ρ κ W) : Multiset (Option (Row ρ)) :=
  ↑(s.returned.flatMap Frame.rows)

/-- The tuple that a call has in use. -/
def Consumer.tuple : Consumer β ρ W → Option (Fin W)
  | .fetching i _ _ _ | .prefetching i _ _ | .converting i _ _ _ => some i
  | .idle _ | .emptied _ | .holding _ => none

/-- What a call may rely on: its tuple is in use, its copy is sound, and where it fetches there is
nothing left over. -/
def Consumer.Good (s : PqSys β ρ κ W) : Consumer β ρ W → Prop
  | .idle _ | .emptied _ | .holding _ => True
  | .fetching i _ t needNewRange => (s.workTuples i).inUse = true ∧ t.Sound ∧
    t.exhausted = true ∧ (needNewRange = true → t.cursor = [])
  | .prefetching i _ t => (s.workTuples i).inUse = true ∧ t.Sound ∧ t.exhausted = true
  | .converting i _ t failed => (s.workTuples i).inUse = true ∧ t.Sound ∧
    (failed = true → t.fetchedNum = 0)

def Consumer.Apart (p q : Consumer β ρ W) : Prop := ∀ i, p.tuple = some i → q.tuple ≠ some i

theorem Consumer.Apart.symm {p q : Consumer β ρ W} (h : p.Apart q) : q.Apart p := by
  intro i hq hp
  exact h i hp hq

theorem Consumer.Good.inUse {s : PqSys β ρ κ W} {p : Consumer β ρ W} (h : p.Good s) {i : Fin W}
    (hi : p.tuple = some i) : (s.workTuples i).inUse = true := by
  cases p with
  | idle | emptied | holding => cases hi
  | fetching | prefetching | converting =>
    cases hi
    exact h.1

/-- A call does not notice what happens to tuples that it does not use. -/
theorem Consumer.Good.frame {s s' : PqSys β ρ κ W} {p : Consumer β ρ W} (h : p.Good s)
    (hSame : ∀ i, p.tuple = some i → (s'.workTuples i).inUse = (s.workTuples i).inUse) :
    p.Good s' := by
  cases p with
  | idle | emptied | holding => trivial
  | fetching i | prefetching i | converting i => exact ⟨(hSame i rfl).trans h.1, h.2⟩

/-- Every row of the ranges is somewhere, the tuples and the calls are sound, and frames of failed
calls are empty. -/
structure PqInv [Fintype κ] (all : List (Row ρ)) (s : PqSys β ρ κ W) : Prop where
  consumers : Threads.Sound Consumer.Good Consumer.Apart s s.consumer
  tuples : ∀ i, (s.workTuples i).Sound
  conserved : s.delivered + (∑ i, (s.workTuples i).shelf + ∑ c, (s.consumer c).rows +
    entries s.paralRange.flatten + entries s.lost) = entries all
  failed : ∀ frame ∈ s.returned, frame.failed = true → frame.rows = []

/-- What a step moves between the places does not change the total. -/
theorem conserved_step {M : Type} [AddCancelCommMonoid M] {d d' tuples tuples' calls calls' ranges
    ranges' lost lost' all : M} (t t' c c' : M) (h : d + (tuples + calls + ranges + lost) = all)
    (hTuples : tuples' + t = tuples + t') (hCalls : calls' + c = calls + c')
    (hMove : d' + t' + c' + ranges' + lost' = d + t + c + ranges + lost) :
    d' + (tuples' + calls' + ranges' + lost') = all := by
  apply add_right_cancel (b := t + c)
  calc d' + (tuples' + calls' + ranges' + lost') + (t + c)
      = d' + (tuples' + t) + (calls' + c) + ranges' + lost' := by abel
    _ = (d' + t' + c' + ranges' + lost') + (tuples + calls) := by rw [hTuples, hCalls]; abel
    _ = d + (tuples + calls + ranges + lost) + (t + c) := by rw [hMove]; abel
    _ = all + (t + c) := by rw [h]

/-! ## Each step -/

section

variable {all : List (Row ρ)} {s s' : PqSys β ρ κ W} {c : κ} {p : Consumer β ρ W}

/-- A cursor that is closed, or whose end was seen, has no rows. -/
theorem Consumer.cursor_eq_nil {i : Fin W} {buf : β} {t : WorkTuple ρ} {needNewRange : Bool}
    (h : Consumer.Good s (.fetching i buf t needNewRange))
    (hneed : t.cursorValid = false ∨ needNewRange = true) : t.cursor = [] := by
  rcases hneed with hclosed | hneed
  · exact h.2.1.closed hclosed
  · exact h.2.2.2 hneed

variable [Fintype κ]

theorem PqInv.good (h : PqInv all s) {q : Consumer β ρ W} (hpc : s.consumer c = q) : q.Good s := by
  rw [← hpc]
  exact h.consumers.all c

variable [DecidableEq κ]

/-- A step of a call that leaves the work tuples and the returned frames alone. -/
theorem PqInv.move (h : PqInv all s) (hTuples : s'.workTuples = s.workTuples)
    (hReturned : s'.returned = s.returned)
    (hConsumer : s'.consumer = Function.update s.consumer c p) (hGood : p.Good s')
    (hTuple : ∀ i, p.tuple = some i → (s.consumer c).tuple = some i)
    (hMove : p.rows + entries s'.paralRange.flatten + entries s'.lost =
      (s.consumer c).rows + entries s.paralRange.flatten + entries s.lost) : PqInv all s' where
  consumers := by
    rw [hConsumer]
    refine h.consumers.step (fun _ _ => Consumer.Apart.symm) hGood ?_
    intro u _ hu hApart
    refine ⟨hu.frame ?_, ?_⟩
    · intro i _
      rw [hTuples]
    · intro i hi
      exact hApart i (hTuple i hi)
  tuples := by
    rw [hTuples]
    exact h.tuples
  conserved := by
    refine conserved_step 0 0 (s.consumer c).rows p.rows h.conserved ?_ ?_ ?_
    · rw [hTuples]
    · rw [hConsumer]
      exact Threads.sum_update Consumer.rows s.consumer c p
    · have hDelivered : s'.delivered = s.delivered := by
        unfold PqSys.delivered
        rw [hReturned]
      rw [hDelivered, add_zero]
      calc s.delivered + p.rows + entries s'.paralRange.flatten + entries s'.lost
          = s.delivered + (p.rows + entries s'.paralRange.flatten + entries s'.lost) := by abel
        _ = s.delivered + ((s.consumer c).rows + entries s.paralRange.flatten +
            entries s.lost) := by rw [hMove]
        _ = s.delivered + (s.consumer c).rows + entries s.paralRange.flatten +
            entries s.lost := by abel
  failed := by
    rw [hReturned]
    exact h.failed

variable {i : Fin W} {buf : β} {t : WorkTuple ρ} {needNewRange : Bool} {range : List (Row ρ)}
  {ranges : List (List (Row ρ))}

theorem PqInv.prepareCursor (h : PqInv all s) (hpc : s.consumer c = .fetching i buf t false) :
    PqInv all { s with consumer := Function.update s.consumer c (.prefetching i buf t) } := by
  obtain ⟨hUse, hSound, hEx, -⟩ := h.good hpc
  refine h.move rfl rfl rfl ⟨hUse, hSound, hEx⟩ ?_ ?_
  · rw [hpc]
    exact fun _ hi => hi
  · rw [hpc]
    rfl

theorem PqInv.prepareNoRange (h : PqInv all s)
    (hpc : s.consumer c = .fetching i buf t needNewRange) :
    PqInv all { s with consumer := Function.update s.consumer c (.converting i buf t false) } := by
  obtain ⟨hUse, hSound, -, -⟩ := h.good hpc
  refine h.move rfl rfl rfl ⟨hUse, hSound, fun hfailed => by cases hfailed⟩ ?_ ?_
  · rw [hpc]
    exact fun _ hi => hi
  · rw [hpc]
    rfl

theorem PqInv.prepareRange (h : PqInv all s) (hpc : s.consumer c = .fetching i buf t needNewRange)
    (hneed : t.cursorValid = false ∨ needNewRange = true) (hrange : s.paralRange = range :: ranges) :
    PqInv all { s with
      paralRange := ranges
      consumer := Function.update s.consumer c
        (.prefetching i buf { t with cursorValid := true, cursor := range }) } := by
  have hcursor := Consumer.cursor_eq_nil (h.good hpc) hneed
  obtain ⟨hUse, hSound, hEx, -⟩ := h.good hpc
  have hopen : (WorkTuple.exhausted { t with cursorValid := true, cursor := range }) = true := hEx
  refine h.move rfl rfl rfl ⟨hUse, ⟨hSound.loaded, fun hclosed => by cases hclosed⟩, hEx⟩ ?_ ?_
  · rw [hpc]
    exact fun _ hi => hi
  · rw [hpc, hrange]
    simp only [Consumer.rows, WorkTuple.rows_of_exhausted hEx, WorkTuple.rows_of_exhausted hopen,
      hcursor, List.flatten_cons, entries_append, entries_nil, zero_add]

theorem PqInv.prepareFailed (h : PqInv all s) (hpc : s.consumer c = .fetching i buf t needNewRange)
    (hneed : t.cursorValid = false ∨ needNewRange = true) (hrange : s.paralRange = range :: ranges)
    (cursorValid : Bool) :
    PqInv all { s with
      paralRange := ranges
      lost := s.lost ++ range
      consumer := Function.update s.consumer c
        (.converting i buf { t with cursorValid := cursorValid, cursor := [] } false) } := by
  have hcursor := Consumer.cursor_eq_nil (h.good hpc) hneed
  obtain ⟨hUse, hSound, hEx, -⟩ := h.good hpc
  have hclosed : (WorkTuple.exhausted { t with cursorValid := cursorValid, cursor := [] }) = true :=
    hEx
  refine h.move rfl rfl rfl
    ⟨hUse, ⟨hSound.loaded, fun _ => rfl⟩, fun hfailed => by cases hfailed⟩ ?_ ?_
  · rw [hpc]
    exact fun _ hi => hi
  · rw [hpc, hrange]
    simp only [Consumer.rows, WorkTuple.rows_of_exhausted hEx, WorkTuple.rows_of_exhausted hclosed,
      hcursor, List.flatten_cons, entries_append, entries_nil, zero_add]
    abel

theorem PqInv.prefetchRows (h : PqInv all s) (hpc : s.consumer c = .prefetching i buf t)
    {batch rest : List (Row ρ)} (hbatch : t.cursor = batch ++ rest) :
    PqInv all { s with
      consumer := Function.update s.consumer c (.converting i buf (t.load batch rest) false) } := by
  obtain ⟨hUse, hSound, hEx⟩ := h.good hpc
  have hrows : (t.load batch rest).rows = batch ++ rest := by
    change (batch.take batch.length).drop 0 ++ rest = batch ++ rest
    rw [List.take_length, List.drop_zero]
  refine h.move rfl rfl rfl ⟨hUse, ⟨?_, ?_⟩, fun hfailed => by cases hfailed⟩ ?_ ?_
  · intro _
    refine ⟨rfl, ?_, Nat.zero_le _, rfl⟩
    intro k row hrow
    replace hrow : batch[k]? = some row := hrow
    change (batch.map Row.len ++ _).getD k 0 = row.len
    rw [List.getD_eq_getElem?_getD, List.getElem?_append_left, List.getElem?_map, hrow]
    · rfl
    · rw [List.length_map]
      exact (List.getElem?_eq_some_iff.mp hrow).1
  · intro hclosed
    have hnil := hSound.closed hclosed
    rw [hbatch, List.append_eq_nil_iff] at hnil
    exact hnil.2
  · rw [hpc]
    exact fun _ hi => hi
  · rw [hpc]
    simp only [Consumer.rows, WorkTuple.rows_of_exhausted hEx, hrows, hbatch]

theorem PqInv.prefetchEnd (h : PqInv all s) (hpc : s.consumer c = .prefetching i buf t)
    (hend : t.cursor = []) :
    PqInv all { s with
      consumer := Function.update s.consumer c
        (.fetching i buf { t with fetchedNum := 0 } true) } := by
  obtain ⟨hUse, hSound, hEx⟩ := h.good hpc
  have hEx' : (WorkTuple.exhausted { t with fetchedNum := 0 }) = true := by
    simp [WorkTuple.exhausted]
  refine h.move rfl rfl rfl
    ⟨hUse, ⟨fun hne => absurd rfl hne, hSound.closed⟩, hEx', fun _ => hend⟩ ?_ ?_
  · rw [hpc]
    exact fun _ hi => hi
  · rw [hpc]
    simp only [Consumer.rows, WorkTuple.rows_of_exhausted hEx, WorkTuple.rows_of_exhausted hEx']

theorem PqInv.prefetchFailed (h : PqInv all s) (hpc : s.consumer c = .prefetching i buf t)
    {gone rest : List (Row ρ)} (hrest : t.cursor = gone ++ rest) (hnum : t.fetchedNum = 0) :
    PqInv all { s with
      lost := s.lost ++ gone
      consumer := Function.update s.consumer c (.converting i buf (t.rewind rest) true) } := by
  obtain ⟨hUse, hSound, hEx⟩ := h.good hpc
  have hEx' : (t.rewind rest).exhausted = true := by
    simp [WorkTuple.exhausted, WorkTuple.rewind, hnum]
  refine h.move rfl rfl rfl ⟨hUse, ⟨fun hne => absurd hnum hne, ?_⟩, fun _ => hnum⟩ ?_ ?_
  · intro hclosed
    have hnil := hSound.closed hclosed
    rw [hrest, List.append_eq_nil_iff] at hnil
    exact hnil.2
  · rw [hpc]
    exact fun _ hi => hi
  · rw [hpc]
    simp only [Consumer.rows, WorkTuple.rows_of_exhausted hEx, WorkTuple.rows_of_exhausted hEx',
      hrest, entries_append]
    change entries rest + _ + _ = _
    abel

/-- A step after which the consumer has no rows, if it had none before. -/
theorem PqInv.quiet (h : PqInv all s) (pool : BufPool β) (hold : (s.consumer c).rows = 0)
    (hrows : p.rows = 0) (htuple : p.tuple = none) (hGood : ∀ s' : PqSys β ρ κ W, p.Good s') :
    PqInv all { s with pool := pool, consumer := Function.update s.consumer c p } := by
  refine h.move rfl rfl rfl (hGood _) ?_ ?_
  · intro i hi
    rw [htuple] at hi
    cases hi
  · rw [hold, hrows]

theorem WorkTuple.shelf_use (t : WorkTuple ρ) : t.use.shelf = 0 := rfl

theorem WorkTuple.shelf_release (t : WorkTuple ρ) : t.release.shelf = entries t.rows := rfl

theorem PqInv.take (h : PqInv all s) {owes : Bool} (hpc : s.consumer c = .idle owes)
    (hUse : (s.workTuples i).inUse = false) (pool : BufPool β) :
    PqInv all { s with
      workTuples := Function.update s.workTuples i (s.workTuples i).use
      pool := pool
      consumer := Function.update s.consumer c (.start i buf (s.workTuples i).use) } := by
  have hSound : (s.workTuples i).use.Sound := ⟨(h.tuples i).loaded, (h.tuples i).closed⟩
  have hTuple : (Consumer.start i buf (s.workTuples i).use).tuple = some i := by
    unfold Consumer.start
    split <;> rfl
  have hRows : (Consumer.start i buf (s.workTuples i).use).rows = entries (s.workTuples i).rows := by
    unfold Consumer.start
    split <;> rfl
  have hMark : (Function.update s.workTuples i (s.workTuples i).use i).inUse = true := by
    rw [Function.update_self]
    rfl
  refine ⟨?_, WorkTuple.sound_update h.tuples hSound, ?_, h.failed⟩
  · refine h.consumers.step (fun _ _ => Consumer.Apart.symm) ?_ ?_
    · unfold Consumer.start
      split
      · next hEx => exact ⟨hMark, hSound, hEx, fun hneed => by cases hneed⟩
      · exact ⟨hMark, hSound, fun hfailed => by cases hfailed⟩
    · intro u _ hu _
      have hOther : ∀ j, (s.consumer u).tuple = some j → j ≠ i := by
        rintro j hj rfl
        rw [hu.inUse hj] at hUse
        cases hUse
      refine ⟨hu.frame ?_, ?_⟩
      · intro j hj
        exact congrArg WorkTuple.inUse (Function.update_of_ne (hOther j hj) _ _)
      · intro j hj hj'
        rw [hTuple, Option.some.injEq] at hj
        exact hOther j hj' hj.symm
  · refine conserved_step (s.workTuples i).shelf (s.workTuples i).use.shelf (s.consumer c).rows
      (Consumer.start i buf (s.workTuples i).use).rows h.conserved
      (Threads.sum_update WorkTuple.shelf s.workTuples i _)
      (Threads.sum_update Consumer.rows s.consumer c _) ?_
    have hShelf : (s.workTuples i).shelf = entries (s.workTuples i).rows := by
      rw [WorkTuple.shelf, hUse, if_neg Bool.false_ne_true]
    rw [hRows, hShelf, hpc, WorkTuple.shelf_use]
    change s.delivered + 0 + _ + _ + _ = s.delivered + _ + 0 + _ + _
    abel

theorem PqInv.convert (h : PqInv all s) (rowLen : Nat) {failed : Bool} {t' : WorkTuple ρ}
    {rows : List (Option (Row ρ))} (hpc : s.consumer c = .converting i buf t failed)
    (hdone : convertPrefetchBufferToMysql rowLen t = (rows, t')) (drained : Bool)
    (hTuple : p.tuple = none) (hRows : p.rows = 0) (hGood : ∀ s' : PqSys β ρ κ W, p.Good s') :
    PqInv all { s with
      workTuples := Function.update s.workTuples i t'.release
      returned := s.returned ++ [⟨rows, failed⟩]
      drained := drained
      consumer := Function.update s.consumer c p } := by
  obtain ⟨hUse, hSound, hFailed⟩ := h.good hpc
  have hspec := Converts.of_convert hSound hdone
  obtain ⟨taken, hrows, htaken⟩ := hspec.taken
  refine ⟨?_, WorkTuple.sound_update h.tuples ⟨hspec.sound.loaded, hspec.sound.closed⟩, ?_, ?_⟩
  · refine h.consumers.step (fun _ _ => Consumer.Apart.symm) (hGood _) ?_
    intro u _ hu hApart
    refine ⟨hu.frame ?_, ?_⟩
    · intro j hj
      have hOther : j ≠ i := by
        rintro rfl
        rw [hpc] at hApart
        exact hApart j rfl hj
      exact congrArg WorkTuple.inUse (Function.update_of_ne hOther _ _)
    · intro j hj
      rw [hTuple] at hj
      cases hj
  · refine conserved_step (s.workTuples i).shelf t'.release.shelf (s.consumer c).rows p.rows
      h.conserved (Threads.sum_update WorkTuple.shelf s.workTuples i _)
      (Threads.sum_update Consumer.rows s.consumer c _) ?_
    have hShelf : (s.workTuples i).shelf = 0 := by
      rw [WorkTuple.shelf, hUse, if_pos rfl]
    have hDelivered : (↑((s.returned ++ [(⟨rows, failed⟩ : Frame ρ)]).flatMap Frame.rows) :
        Multiset (Option (Row ρ))) = s.delivered + entries taken := by
      rw [List.flatMap_append, ← Multiset.coe_add, List.flatMap_singleton, hrows]
      rfl
    have hMine : (s.consumer c).rows = entries taken + entries t'.rows := by
      rw [hpc, Consumer.rows, htaken, entries_append]
    rw [hShelf, hRows, hMine, WorkTuple.shelf_release]
    change (↑((s.returned ++ [(⟨rows, failed⟩ : Frame ρ)]).flatMap Frame.rows) :
      Multiset (Option (Row ρ))) + _ + 0 + _ + _ = _
    rw [hDelivered]
    abel
  · intro frame hframe hfail
    rcases List.mem_append.mp hframe with hframe | hframe
    · exact h.failed frame hframe hfail
    · rw [List.mem_singleton] at hframe
      subst hframe
      apply hspec.empty_iff.mpr
      rw [hFailed hfail]
      exact Nat.zero_le _

/-- A failed `ctc_rnd_prefetch` meets a tuple whose last fetch has returned no rows, or that has not
fetched yet. -/
def FailsEmpty (s : PqSys β ρ κ W) : PqLabel κ → Prop
  | .prefetchFailed c => ∀ i buf t, s.consumer c = .prefetching i buf t → t.fetchedNum = 0
  | _ => True

theorem PqInv.step (h : PqInv all s) {rowLen : Nat} {label : PqLabel κ}
    (hguard : FailsEmpty s label) (hstep : PqStep rowLen s label s') : PqInv all s' := by
  cases hstep with
  | turnedAway c owes hpc hnone =>
    exact h.quiet s.pool (by rw [hpc]; rfl) rfl rfl fun _ => trivial
  | take c owes i buf pool hpc hbuf htuple =>
    exact h.take hpc (getWorkTuple_eq_some htuple).1 pool
  | prepareCursor c i buf t hpc hvalid => exact h.prepareCursor hpc
  | prepareNoRange c i buf t needNewRange hpc hneed hrange => exact h.prepareNoRange hpc
  | prepareRange c i buf t needNewRange range ranges hpc hneed hrange =>
    exact h.prepareRange hpc hneed hrange
  | prepareFailed c i buf t needNewRange range ranges cursorValid hpc hneed hrange =>
    exact h.prepareFailed hpc hneed hrange cursorValid
  | prefetchRows c i buf t batch rest hpc hbatch hne hmax => exact h.prefetchRows hpc hbatch
  | prefetchEnd c i buf t hpc hend => exact h.prefetchEnd hpc hend
  | prefetchFailed c i buf t gone rest hpc hrest =>
    exact h.prefetchFailed hpc hrest (hguard i buf t hpc)
  | convert c i buf t t' failed rows hpc hdone =>
    refine h.convert rowLen hpc hdone _ ?_ ?_ ?_
    · split <;> rfl
    · split <;> rfl
    · intro s'
      split <;> trivial
  | resetEmptied c buf hpc => exact h.quiet _ (by rw [hpc]; rfl) rfl rfl fun _ => trivial
  | resetHolding c buf hpc => exact h.quiet _ (by rw [hpc]; rfl) rfl rfl fun _ => trivial

omit [DecidableEq κ] in
theorem PqInv.init (bufs : List β) (ranges : List (List (Row ρ))) :
    PqInv ranges.flatten (PqSys.init bufs ranges : PqSys β ρ κ W) where
  consumers := by
    refine ⟨fun _ => trivial, ?_⟩
    intro c d _ i hi
    cases hi
  tuples _ := WorkTuple.sound_init
  conserved := by
    have hShelf : ∀ i : Fin W,
        ((PqSys.init bufs ranges : PqSys β ρ κ W).workTuples i).shelf = 0 := fun _ => rfl
    have hRows : ∀ c : κ, ((PqSys.init bufs ranges : PqSys β ρ κ W).consumer c).rows = 0 :=
      fun _ => rfl
    rw [Finset.sum_congr rfl fun i _ => hShelf i, Finset.sum_congr rfl fun c _ => hRows c,
      Finset.sum_const_zero, Finset.sum_const_zero]
    change 0 + (0 + 0 + entries ranges.flatten + 0) = _
    abel
  failed frame hframe := by cases hframe

theorem PqInv.of_reaches {rowLen : Nat} {bufs : List β} {ranges : List (List (Row ρ))}
    {guard : PqSys β ρ κ W → PqLabel κ → Prop}
    (hGuard : ∀ s label, guard s label → FailsEmpty s label)
    (hRun : Relation.ReflTransGen (PqMove rowLen guard) (PqSys.init bufs ranges) s) :
    PqInv ranges.flatten s := by
  refine Machine.invariant_of_reaches ?_ (PqInv.init bufs ranges) hRun
  rintro s₁ s₂ h₁ ⟨label, hguard, hstep⟩
  exact h₁.step (hGuard s₁ label hguard) hstep

omit [DecidableEq κ] in
/-- No row is delivered more often than the ranges have it. -/
theorem PqInv.delivered_le (h : PqInv all s) : s.delivered ≤ entries all := by
  rw [← h.conserved]
  exact Multiset.le_add_right _ _

/-- **Failed prefetches.** In every run in which no failed `ctc_rnd_prefetch` meets a tuple with
fetched rows, the frames of failed calls are empty and no row is delivered twice. -/
theorem failed_prefetch_delivers_nothing {rowLen : Nat} {bufs : List β}
    {ranges : List (List (Row ρ))}
    (hRun : Relation.ReflTransGen (PqMove rowLen FailsEmpty)
      (PqSys.init bufs ranges : PqSys β ρ κ W) s) :
    (∀ frame ∈ s.returned, frame.failed = true → frame.rows.length * rowLen = 0) ∧
      s.delivered ≤ entries ranges.flatten := by
  have hInv : PqInv ranges.flatten s := PqInv.of_reaches (fun _ _ hguard => hguard) hRun
  refine ⟨?_, hInv.delivered_le⟩
  intro frame hframe hfailed
  rw [hInv.failed frame hframe hfailed, List.length_nil, Nat.zero_mul]

end

/-! ## A batch of one row -/

/-- The last row of a batch. -/
theorem convertPrefetchBufferToMysql_last (rowLen : Nat) {t : WorkTuple ρ}
    (hlast : t.currentEntryIndex + 1 = t.fetchedNum) :
    convertPrefetchBufferToMysql rowLen t =
      ([rowAt t.prefetchBuf t.currentOffset], { t with
        currentOffset := t.currentOffset + t.recordLens.getD t.currentEntryIndex 0
        currentEntryIndex := t.currentEntryIndex + 1 }) := by
  have hend : ∀ size, convertLoop rowLen { t with
      currentOffset := t.currentOffset + t.recordLens.getD t.currentEntryIndex 0
      currentEntryIndex := t.currentEntryIndex + 1 } size = ([], { t with
        currentOffset := t.currentOffset + t.recordLens.getD t.currentEntryIndex 0
        currentEntryIndex := t.currentEntryIndex + 1 }) := by
    intro size
    rw [convertLoop, if_neg (by simp only; omega)]
  rw [convertPrefetchBufferToMysql, convertLoop, if_pos (by omega)]
  simp only [hend]
  split <;> rfl

theorem convertPrefetchBufferToMysql_exhausted (rowLen : Nat) {t : WorkTuple ρ}
    (hend : t.fetchedNum ≤ t.currentEntryIndex) :
    convertPrefetchBufferToMysql rowLen t = ([], t) := by
  rw [convertPrefetchBufferToMysql, convertLoop, if_neg (Nat.not_lt.mpr hend)]

/-- Rows of one byte. -/
def byteRow (n : Nat) : Row Nat := ⟨0, 1, n, Nat.one_pos⟩

/-- One tuple, one consumer, and one range of two rows. -/
def twoRows : PqSys Unit Nat Unit 1 := .init [()] [[byteRow 1, byteRow 2]]

/-- The second call fails to prefetch and returns the first row again. -/
theorem failed_prefetch_redelivers :
    ∃ s, Relation.ReflTransGen (PqMove 10 fun _ _ => True) twoRows s ∧
      s.returned = [⟨[some (byteRow 1)], false⟩, ⟨[some (byteRow 1)], true⟩] ∧
      ¬ s.delivered ≤ entries [byteRow 1, byteRow 2] := by
  have hTake := Relation.ReflTransGen.single (r := PqMove 10 fun _ _ => True) (a := twoRows)
    ⟨.take (), trivial, .take () false 0 () _ rfl rfl rfl⟩
  have hRange := hTake.tail ⟨.prepare (), trivial,
    .prepareRange () 0 () _ _ [byteRow 1, byteRow 2] [] rfl (.inl rfl) rfl⟩
  have hRows := hRange.tail ⟨.prefetch (), trivial,
    .prefetchRows () 0 () _ [byteRow 1] [byteRow 2] rfl rfl (List.cons_ne_nil _ _) (by decide)⟩
  have hConvert := hRows.tail ⟨.convert (), trivial,
    .convert () 0 () _ _ false _ rfl (convertPrefetchBufferToMysql_last 10 rfl)⟩
  have hReset := hConvert.tail ⟨.resetDataFrame (), trivial, .resetHolding () () rfl⟩
  have hTake' := hReset.tail ⟨.take (), trivial, .take () true 0 () _ rfl rfl rfl⟩
  have hCursor := hTake'.tail ⟨.prepare (), trivial, .prepareCursor () 0 () _ rfl rfl⟩
  have hFailed := hCursor.tail ⟨.prefetchFailed (), trivial,
    .prefetchFailed () 0 () _ [] [byteRow 2] rfl rfl⟩
  have hConvert' := hFailed.tail ⟨.convert (), trivial,
    .convert () 0 () _ _ true _ rfl (convertPrefetchBufferToMysql_last 10 rfl)⟩
  refine ⟨_, hConvert', rfl, ?_⟩
  intro hle
  have hcount := Multiset.countP_le_of_le (fun row => row.map Row.record = some 1) hle
  revert hcount
  decide

/-- The first prefetch fails: the frame is empty. -/
theorem failed_prefetch_first_call :
    ∃ s, Relation.ReflTransGen (PqMove 10 FailsEmpty) twoRows s ∧
      ∃ frame ∈ s.returned, frame.failed = true ∧ frame.rows.length * 10 = 0 := by
  have hTake := Relation.ReflTransGen.single (r := PqMove 10 FailsEmpty) (a := twoRows)
    ⟨.take (), trivial, .take () false 0 () _ rfl rfl rfl⟩
  have hRange := hTake.tail ⟨.prepare (), trivial,
    .prepareRange () 0 () _ _ [byteRow 1, byteRow 2] [] rfl (.inl rfl) rfl⟩
  have hFailed := hRange.tail ⟨.prefetchFailed (), fun _ _ _ hpc => by cases hpc; rfl,
    .prefetchFailed () 0 () _ [] [byteRow 1, byteRow 2] rfl rfl⟩
  have hConvert := hFailed.tail ⟨.convert (), trivial, .convert () 0 () _ _ true [] rfl
    (convertPrefetchBufferToMysql_exhausted 10 (Nat.le_refl 0))⟩
  exact ⟨_, hConvert, ⟨[], true⟩, List.mem_singleton.mpr rfl, rfl,
    (failed_prefetch_delivers_nothing hConvert).1 _ (List.mem_singleton.mpr rfl) rfl⟩

end CantianConnector.ParallelReader
