import CantianConnector.ParallelReader.Buffers

/-!
# Threads and buffers of all readers

Handlers of parallel scans share `parallel_reader_thread_running`. `initialize` takes a number of
threads from it and then allocates, `deinitialize` gives them back and then frees; each of the four
is a step here, as other handlers and consumers run in between. What a handler's consumers do to its
buffers is a `PoolStep`.

A handler is initialized once and deinitialized at most once, whether `initialize` has succeeded or
not. Only one that was initialized successfully is read from.
-/

namespace CantianConnector.ParallelReader

open scoped BigOperators

variable {β η : Type}

/-! ## The thread counter -/

/-- `CT_MAX_PARAL_QUERY`. -/
def ctMaxParalQuery : Int := 256

/-- A value of `ctc_parallel_read_threads` or `ctc_parallel_max_read_threads`. -/
def DopVar : Type := { n : Int // 1 ≤ n ∧ n ≤ ctMaxParalQuery }

/-- `MAX_PARALLEL_READ_THREADS`. -/
def maxParallelReadThreads : Int := 256

def workerCountToAcquire (expectedDop : Int) (dopThdVar globalDopVar : DopVar) : Int :=
  let wanted :=
    if expectedDop ≠ 0 then
      if maxParallelReadThreads < expectedDop then maxParallelReadThreads else expectedDop
    else dopThdVar.1
  if globalDopVar.1 < wanted then globalDopVar.1 else wanted

/-- `acquire_parallel_thread_count_from_global`: `m_worker_count` and the counter. -/
def acquireParallelThreadCountFromGlobal (expectedDop : Int) (dopThdVar globalDopVar : DopVar)
    (running : Int) : Int × Int :=
  let count := workerCountToAcquire expectedDop dopThdVar globalDopVar
  if globalDopVar.1 < count + running then (0, running) else (count, running + count)

/-- `release_parallel_thread_count_back_to_global`. -/
def releaseParallelThreadCountBackToGlobal (workerCount running : Int) : Int :=
  running - workerCount

theorem workerCountToAcquire_nonneg {expectedDop : Int} (h : 0 ≤ expectedDop)
    (dopThdVar globalDopVar : DopVar) :
    0 ≤ workerCountToAcquire expectedDop dopThdVar globalDopVar := by
  have hthd := dopThdVar.2.1
  have hglobal := globalDopVar.2.1
  unfold workerCountToAcquire maxParallelReadThreads
  dsimp only
  split_ifs <;> omega

/-! ## Handlers -/

/-- How far the handler is: before and after `initialize` has taken its threads, after it has
returned `CT_SUCCESS` or `CT_ERROR`, and after `deinitialize`. -/
inductive Phase
  | fresh
  | acquired
  | ready
  | failed
  | closed
deriving DecidableEq

/-- A handler with its frames. `bufs` has the buffers that `my_alloc_data_frame_buf` has allocated,
`arrays` says that `m_work_tuples` and `m_my_buf_for_read` are there, and `freed` has the pointers
that `deinitialize` has freed, if it could read them. -/
structure PqHandler (β : Type) where
  phase : Phase
  released : Bool
  workerCount : Int
  arrays : Bool
  custody : Custody β
  bufs : List β
  freed : Option (List β)

def PqHandler.init : PqHandler β := ⟨.fresh, false, 0, false, ⟨⟨[], -1⟩, 0⟩, [], none⟩

/-- The first part of `initialize`. -/
def PqHandler.acquire (h : PqHandler β) (workerCount : Int) : PqHandler β :=
  { h with phase := if workerCount = 0 then .failed else .acquired, workerCount := workerCount }

/-- How the allocations of `initialize` end: without the two arrays, with some or all frame buffers
but not everything, or with everything. -/
inductive Allocs (β : Type)
  | noArrays
  | stopped (bufs : List β)
  | done (bufs : List β)

/-- The buffers are different ones, and as many as there are slots. -/
def Allocs.Fits (workerCount : Int) : Allocs β → Prop
  | .noArrays => True
  | .stopped bufs => bufs.Nodup ∧ (bufs.length : Int) ≤ workerCount
  | .done bufs => bufs.Nodup ∧ (bufs.length : Int) = workerCount

/-- The second part of `initialize`. The slots without a buffer are null pointers; they are left out
of the list. -/
def PqHandler.allocate (h : PqHandler β) : Allocs β → PqHandler β
  | .noArrays => { h with phase := .failed, custody := ⟨⟨[], 0⟩, 0⟩ }
  | .stopped bufs => { h with
      phase := .failed
      arrays := true
      custody := ⟨⟨bufs, h.workerCount - 1⟩, 0⟩
      bufs := bufs }
  | .done bufs => { h with
      phase := .ready
      arrays := true
      custody := ⟨⟨bufs, h.workerCount - 1⟩, 0⟩
      bufs := bufs }

/-- The buffers that the loop of `deinitialize` frees, if the array of the slots is there. -/
def PqHandler.freeBufs (h : PqHandler β) : Option (List β) :=
  if h.workerCount ≤ 0 then some []
  else if h.arrays then some (h.custody.pool.myBufForRead.take h.workerCount.toNat)
  else none

/-- All handlers, and `parallel_reader_thread_running`. -/
structure PqServer (β η : Type) where
  parallelReaderThreadRunning : Int
  handler : η → PqHandler β

def PqServer.init : PqServer β η := ⟨0, fun _ => .init⟩

inductive PqServerLabel (η : Type)
  | acquire (h : η) (expectedDop : Int)
  | allocate (h : η)
  | buffers (h : η)
  | release (h : η)
  | free (h : η)

section

variable [DecidableEq η] (globalDopVar : DopVar)

/-- A step of the handler `h`. -/
inductive PqServerStep (s : PqServer β η) : PqServerLabel η → PqServer β η → Prop
  | acquire (h : η) (expectedDop workerCount running : Int) (dopThdVar : DopVar)
      (hphase : (s.handler h).phase = .fresh)
      (hacquire : acquireParallelThreadCountFromGlobal expectedDop dopThdVar globalDopVar
        s.parallelReaderThreadRunning = (workerCount, running)) :
    PqServerStep s (.acquire h expectedDop)
      ⟨running, Function.update s.handler h ((s.handler h).acquire workerCount)⟩
  | allocate (h : η) (allocs : Allocs β) (hphase : (s.handler h).phase = .acquired)
      (hfits : allocs.Fits (s.handler h).workerCount) :
    PqServerStep s (.allocate h)
      { s with handler := Function.update s.handler h ((s.handler h).allocate allocs) }
  -- `rnd_next_block` and `reset_data_frame`
  | buffers (h : η) (custody : Custody β) (hphase : (s.handler h).phase = .ready)
      (hpool : PoolStep (s.handler h).custody custody) :
    PqServerStep s (.buffers h)
      { s with handler := Function.update s.handler h { s.handler h with custody := custody } }
  -- the first part of `deinitialize`
  | release (h : η) (hphase : (s.handler h).phase = .ready ∨ (s.handler h).phase = .failed)
      (hreleased : (s.handler h).released = false) :
    PqServerStep s (.release h)
      ⟨releaseParallelThreadCountBackToGlobal (s.handler h).workerCount
          s.parallelReaderThreadRunning,
        Function.update s.handler h { s.handler h with released := true }⟩
  | free (h : η) (hphase : (s.handler h).phase = .ready ∨ (s.handler h).phase = .failed)
      (hreleased : (s.handler h).released = true) :
    PqServerStep s (.free h)
      { s with
        handler := Function.update s.handler h
          { s.handler h with phase := .closed, freed := (s.handler h).freeBufs } }

/-- A step whose label meets the guard. -/
def PqServerMove (guard : PqServer β η → PqServerLabel η → Prop) (s s' : PqServer β η) : Prop :=
  ∃ label, guard s label ∧ PqServerStep globalDopVar s label s'

end

/-! ## What deinitialize finds -/

/-- The threads that the handler has taken and not given back. -/
def PqHandler.counted (h : PqHandler β) : Int :=
  if h.phase = .fresh ∨ h.released = true then 0 else h.workerCount

/-- Every buffer that was allocated has been freed, and none twice. -/
def FreesEach (freed : Option (List β)) (bufs : List β) : Prop :=
  ∃ pointers, freed = some pointers ∧ (pointers : Multiset β) = (bufs : Multiset β)

/-- The handler has its arrays, and the slots above the stack point to the buffers of the frames
that are out. -/
def PqHandler.Intact (h : PqHandler β) : Prop :=
  (h.workerCount ≠ 0 → h.arrays = true) ∧
    (h.custody.pool.staleSlots : Multiset β) = h.custody.frames

/-- After a failed `initialize`: every buffer is in a slot. -/
structure PqHandler.Failed (h : PqHandler β) : Prop where
  frames : h.custody.frames = 0
  live : h.custody.pool.liveSlots = h.bufs
  stale : h.custody.pool.staleSlots = []
  lower : -1 ≤ h.custody.pool.bufForReadCount
  upper : h.custody.pool.bufForReadCount ≤ h.workerCount - 1
  length : (h.bufs.length : Int) ≤ h.workerCount
  arrays : h.arrays = false → h.bufs = []

/-- After a successful `initialize`. -/
structure PqHandler.Ready (h : PqHandler β) : Prop where
  arrays : h.arrays = true
  length : (h.bufs.length : Int) = h.workerCount
  owned : Owned h.bufs h.custody

/-- What is known of a handler that has come to a phase. -/
def PqHandler.Standing (h : PqHandler β) : Phase → Prop
  | .fresh => h = .init
  | .acquired => 0 < h.workerCount ∧
    h = { PqHandler.init with phase := .acquired, workerCount := h.workerCount }
  | .ready => h.Ready
  | .failed => h.Failed
  | .closed => h.released = true ∧ FreesEach h.freed h.bufs

structure PqHandler.Good (h : PqHandler β) : Prop where
  nonneg : 0 ≤ h.workerCount
  nodup : h.bufs.Nodup
  standing : h.Standing h.phase

section

variable {h : PqHandler β}

theorem PqHandler.Ready.freesEach_iff (hReady : h.Ready) :
    FreesEach h.freeBufs h.bufs ↔ h.Intact := by
  have hlength := hReady.length
  have hslots := hReady.owned.slots
  have hfree : h.freeBufs = some h.custody.pool.myBufForRead := by
    unfold PqHandler.freeBufs
    split
    · next hzero =>
      rw [List.eq_nil_of_length_eq_zero (l := h.custody.pool.myBufForRead) (by omega)]
    · rw [if_pos hReady.arrays, List.take_of_length_le (by omega)]
  rw [PqHandler.Intact, ← hReady.owned.all_slots_iff, hfree]
  constructor
  · rintro ⟨pointers, hpointers, heach⟩
    cases hpointers
    exact ⟨fun _ => hReady.arrays, heach⟩
  · rintro ⟨-, heach⟩
    exact ⟨_, rfl, heach⟩

theorem PqHandler.Failed.freesEach_iff (hFailed : h.Failed) :
    FreesEach h.freeBufs h.bufs ↔ h.Intact := by
  have hslots : h.custody.pool.myBufForRead = h.bufs := by
    rw [← h.custody.pool.liveSlots_append_staleSlots, hFailed.live, hFailed.stale,
      List.append_nil]
  have hstale : (h.custody.pool.staleSlots : Multiset β) = h.custody.frames := by
    rw [hFailed.stale, hFailed.frames]
    rfl
  have hlength := hFailed.length
  unfold PqHandler.freeBufs
  split
  · next hzero =>
    have hnone : h.bufs = [] := List.eq_nil_of_length_eq_zero (by omega)
    rw [hnone]
    refine iff_of_true ⟨[], rfl, rfl⟩ ⟨fun hne => ?_, hstale⟩
    omega
  · next hpos =>
    split
    · next harrays =>
      refine iff_of_true ⟨_, rfl, ?_⟩ ⟨fun _ => harrays, hstale⟩
      rw [hslots, List.take_of_length_le (by omega)]
    · next harrays =>
      refine iff_of_false ?_ ?_
      · rintro ⟨_, hnone, -⟩
        cases hnone
      · rintro ⟨hIntact, -⟩
        exact harrays (hIntact (by omega))

theorem PqHandler.Good.at_phase (hGood : h.Good) {phase : Phase} (hphase : h.phase = phase) :
    h.Standing phase := by
  rw [← hphase]
  exact hGood.standing

theorem PqHandler.Good.freesEach_iff (hGood : h.Good)
    (hphase : h.phase = .ready ∨ h.phase = .failed) :
    FreesEach h.freeBufs h.bufs ↔ h.Intact := by
  rcases hphase with hphase | hphase
  · exact PqHandler.Ready.freesEach_iff (hGood.at_phase hphase)
  · exact PqHandler.Failed.freesEach_iff (hGood.at_phase hphase)

end

/-! ## Each step -/

theorem acquireParallelThreadCountFromGlobal_spec {expectedDop running workerCount running' : Int}
    {dopThdVar globalDopVar : DopVar}
    (h : acquireParallelThreadCountFromGlobal expectedDop dopThdVar globalDopVar running =
      (workerCount, running')) :
    running' = running + workerCount ∧ (running ≤ globalDopVar.1 → running' ≤ globalDopVar.1) ∧
      (0 ≤ expectedDop → 0 ≤ workerCount) := by
  unfold acquireParallelThreadCountFromGlobal at h
  dsimp only at h
  split at h
  · cases h
    exact ⟨(add_zero _).symm, id, fun _ => le_refl 0⟩
  · cases h
    refine ⟨rfl, fun _ => by omega, fun hdop => workerCountToAcquire_nonneg hdop _ _⟩

theorem PqHandler.good_init : (PqHandler.init : PqHandler β).Good :=
  ⟨le_refl 0, List.nodup_nil, rfl⟩

section

variable {h : PqHandler β}

theorem PqHandler.Good.acquire (hGood : h.Good) (hphase : h.phase = .fresh) {workerCount : Int}
    (hcount : 0 ≤ workerCount) : (h.acquire workerCount).Good := by
  have hinit : h = .init := hGood.at_phase hphase
  rw [hinit]
  refine ⟨hcount, List.nodup_nil, ?_⟩
  by_cases hzero : workerCount = 0
  · subst hzero
    exact ⟨rfl, rfl, rfl, le_refl _, le_refl _, le_refl _, fun _ => rfl⟩
  · unfold PqHandler.acquire
    rw [if_neg hzero]
    exact ⟨lt_of_le_of_ne hcount (Ne.symm hzero), rfl⟩

theorem PqHandler.Good.allocate (hGood : h.Good) (hphase : h.phase = .acquired)
    {allocs : Allocs β} (hfits : allocs.Fits h.workerCount) : (h.allocate allocs).Good := by
  obtain ⟨hpos, hinit⟩ := hGood.at_phase hphase
  have hbufs : h.bufs = [] := by
    rw [hinit]
    rfl
  have harrays : h.arrays = false := by
    rw [hinit]
    rfl
  have htop : (h.workerCount - 1 + 1).toNat = h.workerCount.toNat := by omega
  cases allocs with
  | noArrays =>
    refine ⟨hGood.nonneg, hGood.nodup, ⟨rfl, hbufs.symm, rfl, ?_, ?_, ?_, fun _ => hbufs⟩⟩
    · change -1 ≤ (0 : Int)
      omega
    · change 0 ≤ h.workerCount - 1
      omega
    · change (h.bufs.length : Int) ≤ h.workerCount
      rw [hbufs]
      exact hGood.nonneg
  | stopped bufs =>
    obtain ⟨hnodup, hlength⟩ := hfits
    refine ⟨hGood.nonneg, hnodup, ⟨rfl, ?_, ?_, ?_, le_refl _, hlength, ?_⟩⟩
    · change bufs.take (h.workerCount - 1 + 1).toNat = bufs
      exact List.take_of_length_le (by omega)
    · change bufs.drop (h.workerCount - 1 + 1).toNat = []
      exact List.drop_of_length_le (by omega)
    · change -1 ≤ h.workerCount - 1
      omega
    · intro hnone
      cases hnone
  | done bufs =>
    obtain ⟨hnodup, hlength⟩ := hfits
    refine ⟨hGood.nonneg, hnodup, ⟨rfl, hlength, ?_⟩⟩
    change Owned bufs ⟨⟨bufs, h.workerCount - 1⟩, 0⟩
    rw [← hlength]
    exact Owned.init bufs

theorem PqHandler.Good.buffers (hGood : h.Good) (hphase : h.phase = .ready) {custody : Custody β}
    (hpool : PoolStep h.custody custody) : PqHandler.Good { h with custody := custody } := by
  obtain ⟨harrays, hlength, howned⟩ := hGood.at_phase hphase
  refine ⟨hGood.nonneg, hGood.nodup, ?_⟩
  change PqHandler.Standing _ h.phase
  rw [hphase]
  exact ⟨harrays, hlength, howned.step hpool⟩

theorem PqHandler.Good.release (hGood : h.Good) (hphase : h.phase = .ready ∨ h.phase = .failed) :
    PqHandler.Good { h with released := true } := by
  refine ⟨hGood.nonneg, hGood.nodup, ?_⟩
  change PqHandler.Standing _ h.phase
  rcases hphase with hphase | hphase
  · obtain ⟨harrays, hlength, howned⟩ := hGood.at_phase hphase
    rw [hphase]
    exact ⟨harrays, hlength, howned⟩
  · obtain ⟨hframes, hlive, hstale, hlower, hupper, hlength, harrays⟩ := hGood.at_phase hphase
    rw [hphase]
    exact ⟨hframes, hlive, hstale, hlower, hupper, hlength, harrays⟩

theorem PqHandler.Good.free (hGood : h.Good) (hphase : h.phase = .ready ∨ h.phase = .failed)
    (hreleased : h.released = true) (hIntact : h.Intact) :
    PqHandler.Good { h with phase := .closed, freed := h.freeBufs } :=
  ⟨hGood.nonneg, hGood.nodup, hreleased, (hGood.freesEach_iff hphase).mpr hIntact⟩

end

/-! ## All handlers -/

/-- No negative degree is asked for, and `deinitialize` frees the buffers of intact handlers. -/
def FreesIntact (s : PqServer β η) : PqServerLabel η → Prop
  | .acquire _ expectedDop => 0 ≤ expectedDop
  | .free h => (s.handler h).Intact
  | .allocate _ | .buffers _ | .release _ => True

structure PqAccount [Fintype η] (globalDopVar : DopVar) (s : PqServer β η) : Prop where
  handlers : ∀ h, (s.handler h).Good
  running : s.parallelReaderThreadRunning = ∑ h, (s.handler h).counted
  bound : s.parallelReaderThreadRunning ≤ globalDopVar.1

section

variable [Fintype η] {globalDopVar : DopVar} {s s' : PqServer β η}

theorem PqAccount.init : PqAccount globalDopVar (PqServer.init : PqServer β η) where
  handlers _ := PqHandler.good_init
  running := (Finset.sum_eq_zero fun _ _ => rfl).symm
  bound := Int.le_trans Int.one_nonneg globalDopVar.2.1

variable [DecidableEq η]

/-- A step of one handler: the counter follows what the handler has taken. -/
theorem PqAccount.update (hAcc : PqAccount globalDopVar s) {h : η} {handler : PqHandler β}
    {running : Int} (hGood : handler.Good) (hBound : running ≤ globalDopVar.1)
    (hRunning : running + (s.handler h).counted =
      s.parallelReaderThreadRunning + handler.counted) :
    PqAccount globalDopVar ⟨running, Function.update s.handler h handler⟩ := by
  refine ⟨?_, ?_, hBound⟩
  · apply (Function.forall_update_iff s.handler fun _ g => g.Good).mpr
    exact ⟨hGood, fun u _ => hAcc.handlers u⟩
  · have hsum := Threads.sum_update PqHandler.counted s.handler h handler
    rw [← hAcc.running] at hsum
    change running = ∑ u, (Function.update s.handler h handler u).counted
    omega

/-- The handler holds the threads that it took, until it gives them back. -/
theorem PqHandler.counted_eq {h : PqHandler β} (hphase : h.phase ≠ .fresh)
    (hreleased : h.released = false) : h.counted = h.workerCount := by
  refine if_neg ?_
  rintro (hfresh | htrue)
  · exact hphase hfresh
  · rw [hreleased] at htrue
    cases htrue

theorem PqAccount.step (hAcc : PqAccount globalDopVar s) {label : PqServerLabel η}
    (hguard : FreesIntact s label) (hstep : PqServerStep globalDopVar s label s') :
    PqAccount globalDopVar s' := by
  cases hstep with
  | acquire h expectedDop workerCount running dopThdVar hphase hacquire =>
    obtain ⟨hrunning, hbound, hnonneg⟩ := acquireParallelThreadCountFromGlobal_spec hacquire
    have hGood := hAcc.handlers h
    refine hAcc.update (hGood.acquire hphase (hnonneg hguard)) (hbound hAcc.bound) ?_
    have hold : (s.handler h).counted = 0 := if_pos (.inl hphase)
    have hnew : ((s.handler h).acquire workerCount).counted = workerCount := by
      refine PqHandler.counted_eq ?_ ?_
      · change (if workerCount = 0 then Phase.failed else Phase.acquired) ≠ .fresh
        split <;> exact Phase.noConfusion
      · have hinit : s.handler h = .init := hGood.at_phase hphase
        rw [hinit]
        rfl
    rw [hold, hnew, add_zero]
    exact hrunning
  | allocate h allocs hphase hfits =>
    have hGood := hAcc.handlers h
    refine hAcc.update (hGood.allocate hphase hfits) hAcc.bound ?_
    have hreleased : (s.handler h).released = false := by
      obtain ⟨-, hinit⟩ := hGood.at_phase hphase
      rw [hinit]
      rfl
    have hold : (s.handler h).counted = (s.handler h).workerCount := by
      refine PqHandler.counted_eq ?_ hreleased
      rw [hphase]
      exact Phase.noConfusion
    have hnew : ((s.handler h).allocate allocs).counted = (s.handler h).workerCount := by
      cases allocs <;> exact PqHandler.counted_eq Phase.noConfusion hreleased
    rw [hold, hnew]
  | buffers h custody hphase hpool =>
    exact hAcc.update ((hAcc.handlers h).buffers hphase hpool) hAcc.bound rfl
  | release h hphase hreleased =>
    have hGood := hAcc.handlers h
    have hnonneg := hGood.nonneg
    have hbound := hAcc.bound
    have hold : (s.handler h).counted = (s.handler h).workerCount := by
      refine PqHandler.counted_eq ?_ hreleased
      rcases hphase with hphase | hphase <;> rw [hphase] <;> exact Phase.noConfusion
    have hnew : PqHandler.counted { s.handler h with released := true } = 0 := if_pos (.inr rfl)
    refine hAcc.update (hGood.release hphase) ?_ ?_
    · unfold releaseParallelThreadCountBackToGlobal
      omega
    · unfold releaseParallelThreadCountBackToGlobal
      omega
  | free h hphase hreleased =>
    refine hAcc.update ((hAcc.handlers h).free hphase hreleased hguard) hAcc.bound ?_
    have hold : (s.handler h).counted = 0 := if_pos (.inr hreleased)
    have hnew : PqHandler.counted { s.handler h with
        phase := .closed, freed := (s.handler h).freeBufs } = 0 := if_pos (.inr hreleased)
    rw [hold, hnew]

/-- **Accounting of the readers.** In every run whose calls of `deinitialize` meet intact handlers,
the counter is the sum of what the handlers have taken and stays within the limit, every buffer has
one owner, and every buffer is freed once. A handler is intact exactly if freeing its slots frees
each of its buffers once. -/
theorem reader_accounting
    (hRun : Relation.ReflTransGen (PqServerMove globalDopVar FreesIntact)
      (PqServer.init : PqServer β η) s) :
    (s.parallelReaderThreadRunning = ∑ h, (s.handler h).counted ∧
      s.parallelReaderThreadRunning ≤ globalDopVar.1) ∧
    ∀ h, (s.handler h).bufs.Nodup ∧
      ((s.handler h).phase = .ready → ((s.handler h).bufs.length : Int) = (s.handler h).workerCount) ∧
      ((s.handler h).phase = .ready ∨ (s.handler h).phase = .failed →
        -1 ≤ (s.handler h).custody.pool.bufForReadCount ∧
        (s.handler h).custody.pool.bufForReadCount ≤ (s.handler h).workerCount - 1 ∧
        ((s.handler h).custody.pool.liveSlots : Multiset β) + (s.handler h).custody.frames =
          ((s.handler h).bufs : Multiset β) ∧
        (FreesEach (s.handler h).freeBufs (s.handler h).bufs ↔ (s.handler h).Intact)) ∧
      ((s.handler h).phase = .closed → FreesEach (s.handler h).freed (s.handler h).bufs) := by
  have hAcc : PqAccount globalDopVar s := by
    refine Machine.invariant_of_reaches ?_ PqAccount.init hRun
    rintro s₁ s₂ h₁ ⟨label, hguard, hstep⟩
    exact h₁.step hguard hstep
  refine ⟨⟨hAcc.running, hAcc.bound⟩, ?_⟩
  intro h
  have hGood := hAcc.handlers h
  have hReady : (s.handler h).phase = .ready → (s.handler h).Ready := hGood.at_phase
  have hFailed : (s.handler h).phase = .failed → (s.handler h).Failed := hGood.at_phase
  refine ⟨hGood.nodup, fun hphase => (hReady hphase).length, ?_, fun hphase =>
    (hGood.at_phase hphase).2⟩
  intro hphase
  have hiff := hGood.freesEach_iff hphase
  rcases hphase with hphase | hphase
  · have hlength := (hReady hphase).length
    obtain ⟨-, hlower, hupper, howners⟩ := (hReady hphase).owned
    exact ⟨hlower, by omega, howners, hiff⟩
  · obtain ⟨hframes, hlive, -, hlower, hupper, -, -⟩ := hFailed hphase
    refine ⟨hlower, hupper, ?_, hiff⟩
    rw [hlive, hframes, add_zero]

end

/-! ## Two workers -/

/-- `ctc_parallel_read_threads` with its default. -/
def defaultDop : DopVar := ⟨4, by decide⟩

/-- One handler with two workers, after both buffers were handed out. -/
def bothOut : PqServer Nat Unit :=
  ⟨2, fun _ => ⟨.ready, false, 2, true, ⟨⟨[0, 1], -1⟩, 0 ::ₘ 1 ::ₘ 0⟩, [0, 1], none⟩⟩

theorem reaches_bothOut (guard : PqServer Nat Unit → PqServerLabel Unit → Prop)
    (hguard : ∀ s, guard s (.acquire () 2) ∧ guard s (.allocate ()) ∧ guard s (.buffers ())) :
    Relation.ReflTransGen (PqServerMove defaultDop guard) PqServer.init bothOut := by
  have hAcquire := Relation.ReflTransGen.single (r := PqServerMove defaultDop guard)
    (a := PqServer.init)
    ⟨.acquire () 2, (hguard _).1, .acquire () 2 2 2 defaultDop rfl rfl⟩
  have hAllocate := hAcquire.tail ⟨.allocate (), (hguard _).2.1,
    .allocate () (.done [0, 1]) rfl ⟨by decide, rfl⟩⟩
  have hTake := hAllocate.tail ⟨.buffers (), (hguard _).2.2,
    .buffers () _ rfl (.take 1 ⟨[0, 1], 0⟩ rfl)⟩
  have hTake' := hTake.tail ⟨.buffers (), (hguard _).2.2,
    .buffers () _ rfl (.take 0 ⟨[0, 1], -1⟩ rfl)⟩
  exact hTake'

/-- The buffer that was handed out first comes back first, into the slot of the other one: it is
freed twice, and the other one never. -/
theorem reader_frees_twice :
    ∃ s : PqServer Nat Unit,
      Relation.ReflTransGen (PqServerMove defaultDop fun _ _ => True) PqServer.init s ∧
        (s.handler ()).phase = .closed ∧ (s.handler ()).bufs = [0, 1] ∧
        (s.handler ()).freed = some [1, 1] ∧
        ¬ FreesEach (s.handler ()).freed (s.handler ()).bufs := by
  have hOut := reaches_bothOut (fun _ _ => True) fun _ => ⟨trivial, trivial, trivial⟩
  have hReset := hOut.tail ⟨.buffers (), trivial,
    .buffers () _ rfl (.resetDataFrame 1 (0 ::ₘ 0) (Multiset.cons_swap 0 1 0))⟩
  have hRelease := hReset.tail ⟨.release (), trivial, .release () (.inl rfl) rfl⟩
  have hFree := hRelease.tail ⟨.free (), trivial, .free () (.inl rfl) rfl⟩
  refine ⟨_, hFree, rfl, rfl, rfl, ?_⟩
  rintro ⟨pointers, hpointers, heach⟩
  replace hpointers : some [1, 1] = some pointers := hpointers
  cases hpointers
  exact absurd (Multiset.coe_eq_coe.mp heach) (by decide)

/-- Both frames come back, the last one first. -/
theorem reader_accounting_two_workers :
    ∃ s : PqServer Nat Unit,
      Relation.ReflTransGen (PqServerMove defaultDop FreesIntact) PqServer.init s ∧
        (s.handler ()).phase = .closed ∧
        FreesEach (s.handler ()).freed (s.handler ()).bufs ∧ s.parallelReaderThreadRunning = 0 := by
  have hOut := reaches_bothOut FreesIntact fun _ => ⟨Int.natCast_nonneg 2, trivial, trivial⟩
  have hReset := hOut.tail ⟨.buffers (), trivial,
    .buffers () _ rfl (.resetDataFrame 0 (1 ::ₘ 0) rfl)⟩
  have hReset' := hReset.tail ⟨.buffers (), trivial,
    .buffers () _ rfl (.resetDataFrame 1 0 rfl)⟩
  have hRelease := hReset'.tail ⟨.release (), trivial, .release () (.inl rfl) rfl⟩
  have hFree := hRelease.tail ⟨.free (), ⟨fun _ => rfl, rfl⟩, .free () (.inl rfl) rfl⟩
  obtain ⟨-, hHandlers⟩ := reader_accounting hFree
  exact ⟨_, hFree, rfl, (hHandlers ()).2.2.2 rfl, rfl⟩

end CantianConnector.ParallelReader
