import CantianConnector.ParallelReader.Buffers
import CantianConnector.ParallelReader.Conservation

/-!
# Every row once

Where no engine call fails, the rows of all ranges have been delivered once the consumers are done.
A consumer is done when it has seen an empty frame, or was turned away while it had no buffer.

A consumer that finds nothing to do may leave while others still have rows, so the argument counts:
the work tuples that may have rows and are not in use are at most as many as the consumers that will
call again (`PqCounts.owed`). A consumer that is turned away for lack of a buffer leaves the others
with all the buffers, and `PqCounts.room` says that these are enough.
-/

namespace CantianConnector.ParallelReader

open CantianConnector.Handler (Row maxPrefetchRecNum)

open scoped BigOperators

variable {β ρ κ : Type} {W : Nat}

/-- No engine call fails. -/
def NoFailure (_ : PqSys β ρ κ W) : PqLabel κ → Prop
  | .prepareFailed _ | .prefetchFailed _ => False
  | _ => True

theorem NoFailure.failsEmpty {s : PqSys β ρ κ W} {label : PqLabel κ}
    (h : NoFailure s label) : FailsEmpty s label := by
  cases label with
  | prefetchFailed => exact h.elim
  | _ => trivial

/-! ## Counting -/

/-- What a consumer has: nothing to come back for, rows since its last empty frame, a buffer and a
tuple, the buffer of an empty frame, or a frame with rows. -/
inductive Stage
  | done
  | owing
  | call
  | empty
  | hold
deriving DecidableEq

def Consumer.stage : Consumer β ρ W → Stage
  | .idle false => .done
  | .idle true => .owing
  | .fetching _ _ _ _ | .prefetching _ _ _ | .converting _ _ _ _ => .call
  | .emptied _ => .empty
  | .holding _ => .hold

/-- How many consumers are at a stage. -/
def tally [Fintype κ] (consumer : κ → Consumer β ρ W) (k : Stage) : Nat :=
  ∑ c, if (consumer c).stage = k then 1 else 0

/-- Buffers and work tuples against the consumers: `count` is the index of the pool, `used` tuples
are in use, and `live` ones are not and may have rows. -/
structure PqCounts (W : Nat) (count : Int) (n : Stage → Nat) (used live : Nat) : Prop where
  calls : used = n .call
  /-- A buffer is in the pool, in a call, or in a frame. -/
  buffers : count + 1 + n .hold + n .call + n .empty = W
  /-- For each empty frame that keeps its buffer there is a tuple without rows. -/
  room : n .empty + used + live ≤ W
  /-- The tuples with rows are at most as many as the consumers that will call again. -/
  owed : live ≤ n .hold + n .owing

/-- One consumer goes from stage `a` to stage `b`. -/
def Shift (n n' : Stage → Nat) (a b : Stage) : Prop :=
  ∀ k, n' k + (if a = k then 1 else 0) = n k + (if b = k then 1 else 0)

section

variable {count : Int} {n n' : Stage → Nat} {used used' live live' : Nat} {a b : Stage}

theorem Shift.stages (h : Shift n n' a b) :
    n' .owing + (if a = .owing then 1 else 0) = n .owing + (if b = .owing then 1 else 0) ∧
    n' .call + (if a = .call then 1 else 0) = n .call + (if b = .call then 1 else 0) ∧
    n' .empty + (if a = .empty then 1 else 0) = n .empty + (if b = .empty then 1 else 0) ∧
    n' .hold + (if a = .hold then 1 else 0) = n .hold + (if b = .hold then 1 else 0) :=
  ⟨h .owing, h .call, h .empty, h .hold⟩

theorem Shift.eq_of_stay (h : Shift n n' a a) : n' = n := by
  ext k
  exact Nat.add_right_cancel (h k)

/-- The buffers that are out are enough for the live tuples. -/
theorem PqCounts.turnedAway (h : PqCounts W count n used live) (hShift : Shift n n' a .done)
    (ha : a = .done ∨ a = .owing) (hlive : count < 0 ∨ live = 0) :
    PqCounts W count n' used live := by
  have hcounts := hShift.stages
  obtain ⟨hcalls, hbuffers, hroom, howed⟩ := h
  rcases ha with rfl | rfl
  · simp only [reduceCtorEq, ↓reduceIte] at hcounts
    constructor <;> omega
  · simp only [reduceCtorEq, ↓reduceIte] at hcounts
    constructor <;> omega

/-- The tuple that a call takes is live, or there is no live tuple and the buffer makes room. -/
theorem PqCounts.take (h : PqCounts W count n used live) (hShift : Shift n n' a .call)
    (ha : a = .done ∨ a = .owing) (hcount : 0 ≤ count)
    (hlive : live = live' + 1 ∨ live = 0 ∧ live' = 0) :
    PqCounts W (count - 1) n' (used + 1) live' := by
  have hcounts := hShift.stages
  obtain ⟨hcalls, hbuffers, hroom, howed⟩ := h
  rcases ha with rfl | rfl
  · simp only [reduceCtorEq, ↓reduceIte] at hcounts
    constructor <;> omega
  · simp only [reduceCtorEq, ↓reduceIte] at hcounts
    constructor <;> omega

theorem PqCounts.fill (h : PqCounts W count n (used + 1) live) (hShift : Shift n n' .call .hold) :
    PqCounts W count n' used (live + 1) := by
  have hcounts := hShift.stages
  obtain ⟨hcalls, hbuffers, hroom, howed⟩ := h
  simp only [reduceCtorEq, ↓reduceIte] at hcounts
  constructor <;> omega

theorem PqCounts.finish (h : PqCounts W count n (used + 1) live)
    (hShift : Shift n n' .call .empty) : PqCounts W count n' used live := by
  have hcounts := hShift.stages
  obtain ⟨hcalls, hbuffers, hroom, howed⟩ := h
  simp only [reduceCtorEq, ↓reduceIte] at hcounts
  constructor <;> omega

theorem PqCounts.resetEmptied (h : PqCounts W count n used live)
    (hShift : Shift n n' .empty .done) : PqCounts W (count + 1) n' used live := by
  have hcounts := hShift.stages
  obtain ⟨hcalls, hbuffers, hroom, howed⟩ := h
  simp only [reduceCtorEq, ↓reduceIte] at hcounts
  constructor <;> omega

theorem PqCounts.resetHolding (h : PqCounts W count n used live)
    (hShift : Shift n n' .hold .owing) : PqCounts W (count + 1) n' used live := by
  have hcounts := hShift.stages
  obtain ⟨hcalls, hbuffers, hroom, howed⟩ := h
  simp only [reduceCtorEq, ↓reduceIte] at hcounts
  constructor <;> omega

end

/-! ## What is known besides the counts -/

def WorkTuple.used (t : WorkTuple ρ) : Nat := if t.inUse then 1 else 0

/-- Not in use, and perhaps with rows. -/
def WorkTuple.live (t : WorkTuple ρ) : Nat := if t.fetched && !t.inUse then 1 else 0

/-- What a call has found out, if no engine call fails: with nothing to convert, the ranges are
used up. -/
def Consumer.Informed (s : PqSys β ρ κ W) : Consumer β ρ W → Prop
  | .idle _ | .emptied _ | .holding _ => True
  | .fetching _ _ t needNewRange =>
    (t.fetchedNum ≠ 0 → t.cursorValid = true) ∧ (needNewRange = true → t.fetchedNum = 0)
  | .prefetching _ _ t => t.cursorValid = true
  | .converting _ _ t failed => failed = false ∧
    (t.currentEntryIndex < t.fetchedNum ∧ t.cursorValid = true ∨
      t.fetchedNum = 0 ∧ t.cursor = [] ∧ s.paralRange = [])

/-- A tuple that is not in use has a cursor with its rows, and one that no call would prefer has no
rows. -/
structure WorkTuple.Settled (t : WorkTuple ρ) : Prop where
  cursorValid : t.fetchedNum ≠ 0 → t.cursorValid = true
  rows : t.fetched = false → t.rows = []

structure PqDone [Fintype κ] (s : PqSys β ρ κ W) : Prop where
  consumers : ∀ c, (s.consumer c).Informed s
  tuples : ∀ i, (s.workTuples i).inUse = false → (s.workTuples i).Settled
  lost : s.lost = []
  drained : s.drained = true → s.paralRange = []
  bufs : s.pool.myBufForRead.length = W
  counts : PqCounts W s.pool.bufForReadCount (tally s.consumer) (∑ i, (s.workTuples i).used)
    (∑ i, (s.workTuples i).live)

theorem WorkTuple.used_of_inUse {t : WorkTuple ρ} (h : t.inUse = true) : t.used = 1 := by
  rw [WorkTuple.used, h, if_pos rfl]

theorem WorkTuple.used_of_free {t : WorkTuple ρ} (h : t.inUse = false) : t.used = 0 := by
  rw [WorkTuple.used, h, if_neg Bool.false_ne_true]

theorem WorkTuple.live_of_inUse {t : WorkTuple ρ} (h : t.inUse = true) : t.live = 0 := by
  rw [WorkTuple.live, h, Bool.not_true, Bool.and_false, if_neg Bool.false_ne_true]

theorem WorkTuple.live_of_not_fetched {t : WorkTuple ρ} (h : t.fetched = false) : t.live = 0 := by
  rw [WorkTuple.live, h, Bool.false_and, if_neg Bool.false_ne_true]

theorem WorkTuple.live_of_fetched {t : WorkTuple ρ} (h : t.fetched = true)
    (hUse : t.inUse = false) : t.live = 1 := by
  rw [WorkTuple.live, h, hUse, Bool.not_false, Bool.and_true, if_pos rfl]

theorem Consumer.Informed.frame {s s' : PqSys β ρ κ W} {p : Consumer β ρ W} (h : p.Informed s)
    (hRange : s.paralRange = [] → s'.paralRange = []) : p.Informed s' := by
  cases p with
  | idle | emptied | holding => trivial
  | fetching | prefetching => exact h
  | converting =>
    obtain ⟨hfailed, hrows | ⟨hnum, hcursor, hrange⟩⟩ := h
    · exact ⟨hfailed, .inl hrows⟩
    · exact ⟨hfailed, .inr ⟨hnum, hcursor, hRange hrange⟩⟩

theorem Consumer.stage_idle (owes : Bool) :
    (Consumer.idle owes : Consumer β ρ W).stage = .done ∨
      (Consumer.idle owes : Consumer β ρ W).stage = .owing := by
  cases owes
  · exact .inl rfl
  · exact .inr rfl

/-! ## Each step -/

section

variable {all : List (Row ρ)} {s s' : PqSys β ρ κ W} {c : κ} {p : Consumer β ρ W}

variable [Fintype κ]

theorem PqDone.informed (h : PqDone s) {q : Consumer β ρ W} (hpc : s.consumer c = q) :
    q.Informed s := by
  rw [← hpc]
  exact h.consumers c

theorem PqDone.settled_update (h : PqDone s) {i : Fin W} {t : WorkTuple ρ}
    (ht : t.inUse = false → t.Settled) :
    ∀ j, (Function.update s.workTuples i t j).inUse = false →
      (Function.update s.workTuples i t j).Settled := by
  apply (Function.forall_update_iff s.workTuples fun _ t => t.inUse = false → t.Settled).mpr
  exact ⟨ht, fun j _ => h.tuples j⟩

variable [DecidableEq κ]

theorem tally_update {q : Consumer β ρ W} (hpc : s.consumer c = q) (p : Consumer β ρ W) :
    Shift (tally s.consumer) (tally (Function.update s.consumer c p)) q.stage p.stage := by
  rw [← hpc]
  exact fun k =>
    Threads.sum_update (fun r : Consumer β ρ W => if r.stage = k then 1 else 0) s.consumer c p

theorem PqDone.informed_update (h : PqDone s)
    (hConsumer : s'.consumer = Function.update s.consumer c p)
    (hRange : s.paralRange = [] → s'.paralRange = []) (hMine : p.Informed s') :
    ∀ u, (s'.consumer u).Informed s' := by
  rw [hConsumer]
  apply (Function.forall_update_iff s.consumer fun _ q => q.Informed s').mpr
  exact ⟨hMine, fun u _ => (h.consumers u).frame hRange⟩

/-- A step inside a call. -/
theorem PqDone.move (h : PqDone s) {q : Consumer β ρ W} (hpc : s.consumer c = q)
    (hTuples : s'.workTuples = s.workTuples)
    (hPool : s'.pool = s.pool) (hLost : s'.lost = s.lost) (hDrained : s'.drained = s.drained)
    (hConsumer : s'.consumer = Function.update s.consumer c p)
    (hRange : s.paralRange = [] → s'.paralRange = [])
    (hStage : q.stage = p.stage) (hMine : p.Informed s') : PqDone s' := by
  have hSame : tally s'.consumer = tally s.consumer := by
    have hShift := tally_update hpc p
    rw [hStage, ← hConsumer] at hShift
    exact hShift.eq_of_stay
  refine ⟨h.informed_update hConsumer hRange hMine, ?_, ?_, ?_, ?_, ?_⟩
  · rw [hTuples]
    exact h.tuples
  · rw [hLost]
    exact h.lost
  · rw [hDrained]
    exact fun hdrained => hRange (h.drained hdrained)
  · rw [hPool]
    exact h.bufs
  · rw [hSame, hPool, hTuples]
    exact h.counts

theorem PqDone.turnedAway (h : PqDone s) {owes : Bool} (hpc : s.consumer c = .idle owes)
    (hnone : s.pool.take = none ∨ getWorkTuple s.workTuples = none) :
    PqDone { s with consumer := Function.update s.consumer c (.idle false) } := by
  have hlive : s.pool.bufForReadCount < 0 ∨ ∑ i, (s.workTuples i).live = 0 := by
    rcases hnone with hnone | hnone
    · have hbufs := h.bufs
      have hbuffers := h.counts.buffers
      exact .inl (BufPool.take_eq_none hnone (by omega))
    · exact .inr (Finset.sum_eq_zero fun i _ =>
        WorkTuple.live_of_inUse (getWorkTuple_eq_none hnone i))
  exact ⟨h.informed_update rfl id trivial, h.tuples, h.lost, h.drained, h.bufs,
    h.counts.turnedAway (tally_update hpc _) (Consumer.stage_idle owes) hlive⟩

theorem PqDone.take (h : PqDone s) {owes : Bool} (hpc : s.consumer c = .idle owes) {buf : β}
    {pool : BufPool β} (hbuf : s.pool.take = some (buf, pool)) {i : Fin W}
    (htuple : getWorkTuple s.workTuples = some i) :
    PqDone { s with
      workTuples := Function.update s.workTuples i (s.workTuples i).use
      pool := pool
      consumer := Function.update s.consumer c (.start i buf (s.workTuples i).use) } := by
  obtain ⟨hcount, -, rfl⟩ := BufPool.take_eq_some hbuf
  obtain ⟨hUse, hOthers⟩ := getWorkTuple_eq_some htuple
  have hSettled := h.tuples i hUse
  have hStage : (Consumer.start i buf (s.workTuples i).use).stage = .call := by
    unfold Consumer.start
    split <;> rfl
  have hMine : ∀ s' : PqSys β ρ κ W, (Consumer.start i buf (s.workTuples i).use).Informed s' := by
    intro s'
    unfold Consumer.start
    split
    · exact ⟨hSettled.cursorValid, fun hneed => by cases hneed⟩
    · next hrows =>
      unfold WorkTuple.exhausted at hrows
      rw [Bool.or_eq_true, decide_eq_true_eq, decide_eq_true_eq, not_or, Nat.not_le] at hrows
      exact ⟨rfl, .inl ⟨hrows.1, hSettled.cursorValid hrows.2⟩⟩
  -- the sums over the tuples
  have hused := Threads.sum_update WorkTuple.used s.workTuples i (s.workTuples i).use
  rw [WorkTuple.used_of_free hUse, WorkTuple.used_of_inUse rfl, Nat.add_zero] at hused
  have hlive := Threads.sum_update WorkTuple.live s.workTuples i (s.workTuples i).use
  rw [WorkTuple.live_of_inUse (t := (s.workTuples i).use) rfl, Nat.add_zero] at hlive
  refine ⟨h.informed_update rfl id (hMine _), ?_, h.lost, h.drained, h.bufs, ?_⟩
  · exact h.settled_update fun hfree => by cases hfree
  · have hShift := tally_update hpc (Consumer.start i buf (s.workTuples i).use)
    rw [hStage] at hShift
    change PqCounts W (s.pool.bufForReadCount - 1) _
      (∑ j, (Function.update s.workTuples i (s.workTuples i).use j).used) _
    rw [hused]
    refine h.counts.take hShift (Consumer.stage_idle owes) hcount ?_
    cases hfetched : (s.workTuples i).fetched with
    | true =>
      left
      rw [← hlive, WorkTuple.live_of_fetched hfetched hUse]
    | false =>
      right
      have hnone : ∑ j, (s.workTuples j).live = 0 := by
        apply Finset.sum_eq_zero
        intro j _
        cases hj : (s.workTuples j).inUse with
        | true => exact WorkTuple.live_of_inUse hj
        | false => exact WorkTuple.live_of_not_fetched (hOthers hfetched j hj)
      exact ⟨hnone, Nat.eq_zero_of_add_eq_zero_right (hlive.trans hnone)⟩

theorem PqDone.convert (h : PqDone s) (hInv : PqInv all s) {rowLen : Nat} (hrow : 0 < rowLen)
    {i : Fin W} {buf : β} {t t' : WorkTuple ρ} {failed : Bool} {rows : List (Option (Row ρ))}
    (hpc : s.consumer c = .converting i buf t failed)
    (hdone : convertPrefetchBufferToMysql rowLen t = (rows, t')) :
    PqDone { s with
      workTuples := Function.update s.workTuples i t'.release
      returned := s.returned ++ [⟨rows, failed⟩]
      drained := s.drained || (rows.length * rowLen = 0 && !failed)
      consumer := Function.update s.consumer c
        (if rows.length * rowLen = 0 then .emptied buf else .holding buf) } := by
  obtain ⟨hUse, hSound, -⟩ := hInv.good hpc
  have hspec := Converts.of_convert hSound hdone
  have hempty : rows.length * rowLen = 0 ↔ t.fetchedNum ≤ t.currentEntryIndex := by
    rw [← hspec.empty_iff, Nat.mul_eq_zero, List.length_eq_zero_iff]
    exact or_iff_left (Nat.pos_iff_ne_zero.mp hrow)
  -- the sums over the tuples
  have hused := Threads.sum_update WorkTuple.used s.workTuples i t'.release
  rw [WorkTuple.used_of_inUse hUse, WorkTuple.used_of_free rfl] at hused
  simp only [Nat.add_zero] at hused
  have hlive := Threads.sum_update WorkTuple.live s.workTuples i t'.release
  rw [WorkTuple.live_of_inUse hUse, Nat.add_zero] at hlive
  have hcounts := h.counts
  rw [← hused] at hcounts
  obtain ⟨-, ⟨hlt, hvalid⟩ | ⟨hnum, hcursor, hrange⟩⟩ := h.informed hpc
  · have hne : ¬ rows.length * rowLen = 0 := by
      rw [hempty]
      exact Nat.not_le.mpr hlt
    have hfetched : t'.release.fetched = true := by
      have hpos : t.fetchedNum ≠ 0 := Nat.ne_zero_of_lt hlt
      change (t'.cursorValid && decide (t'.fetchedNum ≠ 0)) = true
      rw [hspec.cursorValid, hspec.fetchedNum, hvalid, Bool.true_and, decide_eq_true hpos]
    rw [WorkTuple.live_of_fetched hfetched rfl] at hlive
    rw [if_neg hne, decide_eq_false hne, Bool.false_and, Bool.or_false]
    refine ⟨h.informed_update rfl id trivial, ?_, h.lost, h.drained, h.bufs, ?_⟩
    · refine h.settled_update fun _ => ⟨?_, ?_⟩
      · intro _
        exact hspec.cursorValid.trans hvalid
      · intro hno
        rw [hfetched] at hno
        cases hno
    · change PqCounts W s.pool.bufForReadCount _ _
        (∑ j, (Function.update s.workTuples i t'.release j).live)
      rw [hlive]
      exact hcounts.fill (tally_update hpc _)
  · have hnil : rows.length * rowLen = 0 := hempty.mpr (by omega)
    have hnum' : t'.release.fetchedNum = 0 := hspec.fetchedNum.trans hnum
    have hnot : t'.release.fetched = false := by
      rw [WorkTuple.fetched, hnum']
      exact Bool.and_false _
    rw [WorkTuple.live_of_not_fetched hnot, Nat.add_zero] at hlive
    rw [if_pos hnil]
    refine ⟨h.informed_update rfl id trivial, ?_, h.lost, fun _ => hrange, h.bufs, ?_⟩
    · refine h.settled_update fun _ => ⟨fun hne => absurd hnum' hne, ?_⟩
      intro _
      have hEx : t'.release.exhausted = true := by
        rw [WorkTuple.exhausted, hnum']
        exact Bool.or_true _
      rw [WorkTuple.rows_of_exhausted hEx]
      exact hspec.cursor.trans hcursor
    · change PqCounts W s.pool.bufForReadCount _ _
        (∑ j, (Function.update s.workTuples i t'.release j).live)
      rw [hlive]
      exact hcounts.finish (tally_update hpc _)

theorem PqDone.reset (h : PqDone s) {q : Consumer β ρ W} (hpc : s.consumer c = q) (buf : β)
    (owes : Bool)
    (hStage : q.stage = .empty ∧ owes = false ∨ q.stage = .hold ∧ owes = true) :
    PqDone { s with
      pool := s.pool.resetDataFrame buf
      consumer := Function.update s.consumer c (.idle owes) } := by
  have hShift := tally_update hpc (.idle owes)
  refine ⟨h.informed_update rfl id trivial, h.tuples, h.lost, h.drained, ?_, ?_⟩
  · change (s.pool.myBufForRead.set _ buf).length = W
    rw [List.length_set]
    exact h.bufs
  · rcases hStage with ⟨hStage, rfl⟩ | ⟨hStage, rfl⟩
    · rw [hStage] at hShift
      exact h.counts.resetEmptied hShift
    · rw [hStage] at hShift
      exact h.counts.resetHolding hShift

theorem PqDone.step (h : PqDone s) (hInv : PqInv all s) {rowLen : Nat} (hrow : 0 < rowLen)
    {label : PqLabel κ} (hguard : NoFailure s label) (hstep : PqStep rowLen s label s') :
    PqDone s' := by
  cases hstep with
  | turnedAway c owes hpc hnone => exact h.turnedAway hpc hnone
  | take c owes i buf pool hpc hbuf htuple => exact h.take hpc hbuf htuple
  | prepareCursor c i buf t hpc hvalid =>
    exact h.move hpc rfl rfl rfl rfl rfl id rfl hvalid
  | prepareNoRange c i buf t needNewRange hpc hneed hrange =>
    have hcursor := Consumer.cursor_eq_nil (hInv.good hpc) hneed
    obtain ⟨hvalid, hnum⟩ := h.informed hpc
    have hzero : t.fetchedNum = 0 := by
      rcases hneed with hclosed | hneed
      · by_contra hne
        rw [hvalid hne] at hclosed
        cases hclosed
      · exact hnum hneed
    exact h.move hpc rfl rfl rfl rfl rfl id rfl ⟨rfl, .inr ⟨hzero, hcursor, hrange⟩⟩
  | prepareRange c i buf t needNewRange range ranges hpc hneed hrange =>
    refine h.move hpc rfl rfl rfl rfl rfl ?_ rfl rfl
    intro hnil
    rw [hrange] at hnil
    cases hnil
  | prefetchRows c i buf t batch rest hpc hbatch hne hmax =>
    exact h.move hpc rfl rfl rfl rfl rfl id rfl
      ⟨rfl, .inl ⟨List.length_pos_iff.mpr hne, h.informed hpc⟩⟩
  | prefetchEnd c i buf t hpc hend =>
    exact h.move hpc rfl rfl rfl rfl rfl id rfl ⟨fun hne => absurd rfl hne, fun _ => rfl⟩
  | prepareFailed | prefetchFailed => exact hguard.elim
  | convert c i buf t t' failed rows hpc hdone => exact h.convert hInv hrow hpc hdone
  | resetEmptied c buf hpc => exact h.reset hpc buf false (.inl ⟨rfl, rfl⟩)
  | resetHolding c buf hpc => exact h.reset hpc buf true (.inr ⟨rfl, rfl⟩)

omit [DecidableEq κ] in
theorem PqDone.init {bufs : List β} (hbufs : bufs.length = W) (ranges : List (List (Row ρ))) :
    PqDone (PqSys.init bufs ranges : PqSys β ρ κ W) := by
  have hnone : ∀ k, k ≠ Stage.done →
      tally (PqSys.init bufs ranges : PqSys β ρ κ W).consumer k = 0 := by
    intro k hk
    exact Finset.sum_eq_zero fun c _ => if_neg hk.symm
  have hused : ∑ i, ((PqSys.init bufs ranges : PqSys β ρ κ W).workTuples i).used = 0 :=
    Finset.sum_eq_zero fun _ _ => rfl
  have hlive : ∑ i, ((PqSys.init bufs ranges : PqSys β ρ κ W).workTuples i).live = 0 :=
    Finset.sum_eq_zero fun _ _ => rfl
  refine ⟨fun _ => trivial, ?_, rfl, fun hdrained => (by cases hdrained), hbufs, ?_⟩
  · exact fun _ _ => ⟨fun hne => absurd rfl hne, fun _ => rfl⟩
  · rw [hused, hlive]
    refine ⟨(hnone _ (by decide)).symm, ?_, ?_, Nat.zero_le _⟩
    · rw [hnone .hold (by decide), hnone .call (by decide), hnone .empty (by decide)]
      change (W : Int) - 1 + 1 + 0 + 0 + 0 = W
      omega
    · rw [hnone .empty (by decide)]
      exact Nat.zero_le W

theorem PqDone.of_reaches {rowLen : Nat} (hrow : 0 < rowLen) {bufs : List β}
    (hbufs : bufs.length = W) {ranges : List (List (Row ρ))}
    (hRun : Relation.ReflTransGen (PqMove rowLen NoFailure) (PqSys.init bufs ranges) s) :
    PqInv ranges.flatten s ∧ PqDone s := by
  have hStep : ∀ s₁ s₂ : PqSys β ρ κ W, PqInv ranges.flatten s₁ ∧ PqDone s₁ →
      PqMove rowLen NoFailure s₁ s₂ → PqInv ranges.flatten s₂ ∧ PqDone s₂ := by
    rintro s₁ s₂ ⟨hInv, hDone⟩ ⟨label, hguard, hstep⟩
    exact ⟨hInv.step hguard.failsEmpty hstep, hDone.step hInv hrow hguard hstep⟩
  exact Machine.invariant_of_reaches hStep
    ⟨PqInv.init bufs ranges, PqDone.init hbufs ranges⟩ hRun

omit [DecidableEq κ] in
/-- Once the ranges are used up and no consumer will call again, nothing is left. -/
theorem PqDone.delivered_eq (h : PqDone s) (hInv : PqInv all s) (hdrained : s.drained = true)
    (hidle : ∀ c, s.consumer c = .idle false) : s.delivered = entries all := by
  have hnone : ∀ k, k ≠ Stage.done → tally s.consumer k = 0 := by
    intro k hk
    apply Finset.sum_eq_zero
    intro c _
    rw [hidle c]
    exact if_neg hk.symm
  have hused : ∑ i, (s.workTuples i).used = 0 := by
    rw [h.counts.calls]
    exact hnone .call (by decide)
  have hlive : ∑ i, (s.workTuples i).live = 0 := by
    have howed := h.counts.owed
    rw [hnone .hold (by decide), hnone .owing (by decide)] at howed
    exact Nat.le_zero.mp howed
  have hShelf : ∑ i, (s.workTuples i).shelf = 0 := by
    apply Finset.sum_eq_zero
    intro i hi
    have hFree : (s.workTuples i).inUse = false := by
      cases hUse : (s.workTuples i).inUse with
      | false => rfl
      | true =>
        have hone := WorkTuple.used_of_inUse hUse
        rw [Finset.sum_eq_zero_iff.mp hused i hi] at hone
        cases hone
    have hNot : (s.workTuples i).fetched = false := by
      cases hfetched : (s.workTuples i).fetched with
      | false => rfl
      | true =>
        have hone := WorkTuple.live_of_fetched hfetched hFree
        rw [Finset.sum_eq_zero_iff.mp hlive i hi] at hone
        cases hone
    rw [WorkTuple.shelf, hFree, if_neg Bool.false_ne_true, (h.tuples i hFree).rows hNot]
    rfl
  have hRows : ∑ c, (s.consumer c).rows = 0 := by
    apply Finset.sum_eq_zero
    intro c _
    rw [hidle c]
    rfl
  have hconserved := hInv.conserved
  rw [hShelf, hRows, h.drained hdrained, h.lost] at hconserved
  rw [← hconserved]
  change _ = s.delivered + (0 + 0 + 0 + 0)
  abel

/-- **Exactly-once delivery.** In every run without failed engine calls, no row is delivered twice.
Every row has been delivered once a call has got an empty frame for lack of work and every consumer
has, since it last had rows, got an empty frame. -/
theorem delivers_exactly_once {rowLen : Nat} (hrow : 0 < rowLen) {bufs : List β}
    (hbufs : bufs.length = W) {ranges : List (List (Row ρ))}
    (hRun : Relation.ReflTransGen (PqMove rowLen NoFailure)
      (PqSys.init bufs ranges : PqSys β ρ κ W) s) :
    s.delivered ≤ entries ranges.flatten ∧
      (s.drained = true → (∀ c, s.consumer c = .idle false) →
        s.delivered = entries ranges.flatten) := by
  obtain ⟨hInv, hDone⟩ := PqDone.of_reaches hrow hbufs hRun
  exact ⟨hInv.delivered_le, hDone.delivered_eq hInv⟩

end

/-- Two consumers, two buffers and two ranges of one row; both ranges are read at the same time. -/
theorem delivers_exactly_once_two_ranges :
    ∃ s : PqSys Bool Nat Bool 2,
      Relation.ReflTransGen (PqMove 10 NoFailure)
        (PqSys.init [false, true] [[byteRow 1], [byteRow 2]]) s ∧
      s.delivered = entries [byteRow 1, byteRow 2] := by
  have hTakes := (Relation.ReflTransGen.single (r := PqMove 10 NoFailure)
    (a := (PqSys.init [false, true] [[byteRow 1], [byteRow 2]] : PqSys Bool Nat Bool 2))
    ⟨.take false, trivial, .take false false 0 _ _ rfl rfl rfl⟩).tail
    ⟨.take true, trivial, .take true false 1 _ _ rfl rfl rfl⟩
  have hRanges := (hTakes.tail ⟨.prepare true, trivial,
    .prepareRange true 1 _ _ _ [byteRow 1] [[byteRow 2]] rfl (.inl rfl) rfl⟩).tail
    ⟨.prepare false, trivial,
      .prepareRange false 0 _ _ _ [byteRow 2] [] rfl (.inl rfl) rfl⟩
  have hRows := (hRanges.tail ⟨.prefetch false, trivial,
    .prefetchRows false 0 _ _ [byteRow 2] [] rfl rfl (List.cons_ne_nil _ _) (by decide)⟩).tail
    ⟨.prefetch true, trivial,
      .prefetchRows true 1 _ _ [byteRow 1] [] rfl rfl (List.cons_ne_nil _ _) (by decide)⟩
  have hConverts := (hRows.tail ⟨.convert false, trivial,
    .convert false 0 _ _ _ false _ rfl (convertPrefetchBufferToMysql_last 10 rfl)⟩).tail
    ⟨.convert true, trivial,
      .convert true 1 _ _ _ false _ rfl (convertPrefetchBufferToMysql_last 10 rfl)⟩
  have hResets := (hConverts.tail ⟨.resetDataFrame false, trivial,
    .resetHolding false _ rfl⟩).tail ⟨.resetDataFrame true, trivial, .resetHolding true _ rfl⟩
  have hTakes' := (hResets.tail ⟨.take false, trivial, .take false true 0 _ _ rfl rfl rfl⟩).tail
    ⟨.take true, trivial, .take true true 1 _ _ rfl rfl rfl⟩
  have hCursors := (hTakes'.tail ⟨.prepare false, trivial,
    .prepareCursor false 0 _ _ rfl rfl⟩).tail
    ⟨.prepare true, trivial, .prepareCursor true 1 _ _ rfl rfl⟩
  have hEnds := (hCursors.tail ⟨.prefetch false, trivial,
    .prefetchEnd false 0 _ _ rfl rfl⟩).tail
    ⟨.prefetch true, trivial, .prefetchEnd true 1 _ _ rfl rfl⟩
  have hNoRanges := (hEnds.tail ⟨.prepare false, trivial,
    .prepareNoRange false 0 _ _ true rfl (.inr rfl) rfl⟩).tail
    ⟨.prepare true, trivial, .prepareNoRange true 1 _ _ true rfl (.inr rfl) rfl⟩
  have hConverts' := (hNoRanges.tail ⟨.convert false, trivial, .convert false 0 _ _ _ false []
    rfl (convertPrefetchBufferToMysql_exhausted 10 (Nat.zero_le _))⟩).tail
    ⟨.convert true, trivial, .convert true 1 _ _ _ false [] rfl
      (convertPrefetchBufferToMysql_exhausted 10 (Nat.zero_le _))⟩
  have hResets' := (hConverts'.tail ⟨.resetDataFrame false, trivial,
    .resetEmptied false _ rfl⟩).tail ⟨.resetDataFrame true, trivial, .resetEmptied true _ rfl⟩
  obtain ⟨-, hAll⟩ := delivers_exactly_once (by decide : 0 < 10)
    (by rfl : [false, true].length = 2) hResets'
  refine ⟨_, hResets', hAll rfl ?_⟩
  intro c
  cases c <;> rfl

end CantianConnector.ParallelReader
