import CantianConnector.ParallelReader.Model
import Mathlib.Data.Multiset.Basic
import Mathlib.Data.Fintype.Basic

/-!
# Who owns a frame buffer

The pool is a stack: the slots `0..m_buf_for_read_count` are its buffers, and a slot above keeps the
pointer it had when its buffer was handed out. A buffer that comes back is written to the first slot
above the stack, whatever slot it came from. So the live slots and the outstanding frames always
share the buffers among them (`Owned.step`), while the slots above may point anywhere: all slots
together are the buffers only if the stale ones are those of the frames (`Owned.all_slots_iff`).
-/

namespace CantianConnector.ParallelReader

open CantianConnector.Handler (Row)

open scoped BigOperators

variable {β ρ κ : Type} {W : Nat}

/-! ## Taking a buffer -/

/-- The pool is empty when it has no buffer to hand out. -/
theorem BufPool.take_eq_none {pool : BufPool β} (h : pool.take = none)
    (hlen : pool.bufForReadCount < pool.myBufForRead.length) : pool.bufForReadCount < 0 := by
  unfold BufPool.take at h
  split at h
  · assumption
  · next hpos =>
    split at h
    · cases h
    · next hnone =>
      rw [List.getElem?_eq_none_iff] at hnone
      omega

theorem BufPool.take_eq_some {pool pool' : BufPool β} {buf : β} (h : pool.take = some (buf, pool')) :
    0 ≤ pool.bufForReadCount ∧ pool.myBufForRead[pool.bufForReadCount.toNat]? = some buf ∧
      pool' = { pool with bufForReadCount := pool.bufForReadCount - 1 } := by
  unfold BufPool.take at h
  split at h
  · cases h
  · next hpos =>
    split at h
    · next buf' hbuf =>
      cases h
      exact ⟨Int.not_lt.mp hpos, hbuf, rfl⟩
    · cases h

/-! ## Pool and frames -/

/-- A pool with the buffers of the frames that are out. -/
structure Custody (β : Type) where
  pool : BufPool β
  frames : Multiset β

/-- What `rnd_next_block` and `reset_data_frame` do to the buffers. -/
inductive PoolStep (x : Custody β) : Custody β → Prop
  | take (buf : β) (pool : BufPool β) (htake : x.pool.take = some (buf, pool)) :
    PoolStep x ⟨pool, buf ::ₘ x.frames⟩
  | resetDataFrame (buf : β) (frames : Multiset β) (hframe : x.frames = buf ::ₘ frames) :
    PoolStep x ⟨x.pool.resetDataFrame buf, frames⟩

/-- The slots `0..m_buf_for_read_count`. -/
def BufPool.liveSlots (pool : BufPool β) : List β :=
  pool.myBufForRead.take (pool.bufForReadCount + 1).toNat

/-- The slots above, which keep their pointers. -/
def BufPool.staleSlots (pool : BufPool β) : List β :=
  pool.myBufForRead.drop (pool.bufForReadCount + 1).toNat

theorem BufPool.liveSlots_append_staleSlots (pool : BufPool β) :
    pool.liveSlots ++ pool.staleSlots = pool.myBufForRead :=
  List.take_append_drop _ _

/-- Each of the buffers is in one live slot or in one frame. -/
structure Owned (bufs : List β) (x : Custody β) : Prop where
  slots : x.pool.myBufForRead.length = bufs.length
  lower : -1 ≤ x.pool.bufForReadCount
  upper : x.pool.bufForReadCount ≤ (bufs.length : Int) - 1
  owners : (x.pool.liveSlots : Multiset β) + x.frames = (bufs : Multiset β)

section

variable {bufs : List β} {x y : Custody β}

theorem Owned.init (bufs : List β) :
    Owned bufs ⟨⟨bufs, (bufs.length : Int) - 1⟩, 0⟩ := by
  refine ⟨rfl, ?_, Int.le_refl _, ?_⟩
  · change -1 ≤ (bufs.length : Int) - 1
    omega
  · have hall : ((bufs.length : Int) - 1 + 1).toNat = bufs.length := by omega
    rw [add_zero]
    change ((bufs.take ((bufs.length : Int) - 1 + 1).toNat : List β) : Multiset β) = _
    rw [hall, List.take_length]

/-- There are as many frames as slots above the stack. -/
theorem Owned.card_frames (h : Owned bufs x) :
    (x.pool.bufForReadCount + 1).toNat + x.frames.card = bufs.length := by
  obtain ⟨hslots, hlower, hupper, howners⟩ := h
  have hcard := congrArg Multiset.card howners
  rw [Multiset.card_add, Multiset.coe_card, Multiset.coe_card, BufPool.liveSlots,
    List.length_take] at hcard
  omega

theorem Owned.take (h : Owned bufs x) {buf : β} {pool : BufPool β}
    (htake : x.pool.take = some (buf, pool)) : Owned bufs ⟨pool, buf ::ₘ x.frames⟩ := by
  obtain ⟨hcount, hbuf, rfl⟩ := BufPool.take_eq_some htake
  obtain ⟨hslots, hlower, hupper, howners⟩ := h
  refine ⟨hslots, ?_, ?_, ?_⟩
  · change -1 ≤ x.pool.bufForReadCount - 1
    omega
  · change x.pool.bufForReadCount - 1 ≤ _
    omega
  · -- the buffer leaves the last live slot for a frame
    have htop : (x.pool.bufForReadCount + 1).toNat = x.pool.bufForReadCount.toNat + 1 := by omega
    have hdown : (x.pool.bufForReadCount - 1 + 1).toNat = x.pool.bufForReadCount.toNat := by omega
    have hsplit : x.pool.liveSlots =
        x.pool.myBufForRead.take x.pool.bufForReadCount.toNat ++ [buf] := by
      rw [BufPool.liveSlots, htop, List.take_add_one, hbuf]
      rfl
    rw [hsplit, ← Multiset.coe_add] at howners
    change ((x.pool.myBufForRead.take (x.pool.bufForReadCount - 1 + 1).toNat : List β) :
      Multiset β) + _ = _
    rw [hdown, ← howners, ← Multiset.singleton_add, add_assoc]
    rfl

theorem Owned.resetDataFrame (h : Owned bufs x) {buf : β} {frames : Multiset β}
    (hframe : x.frames = buf ::ₘ frames) :
    Owned bufs ⟨x.pool.resetDataFrame buf, frames⟩ := by
  have hcard := h.card_frames
  rw [hframe, Multiset.card_cons] at hcard
  obtain ⟨hslots, hlower, hupper, howners⟩ := h
  refine ⟨?_, ?_, ?_, ?_⟩
  · change (x.pool.myBufForRead.set _ buf).length = _
    rw [List.length_set]
    exact hslots
  · change -1 ≤ x.pool.bufForReadCount + 1
    omega
  · change x.pool.bufForReadCount + 1 ≤ _
    omega
  · -- the slot above the stack becomes live
    have htop : (x.pool.bufForReadCount + 1 + 1).toNat = (x.pool.bufForReadCount + 1).toNat + 1 := by
      omega
    have hlt : (x.pool.bufForReadCount + 1).toNat < x.pool.myBufForRead.length := by omega
    have hsplit : (x.pool.resetDataFrame buf).liveSlots = x.pool.liveSlots ++ [buf] := by
      change (x.pool.myBufForRead.set _ buf).take (x.pool.bufForReadCount + 1 + 1).toNat = _
      rw [htop, List.take_add_one, List.take_set_of_le (Nat.le_refl _), List.getElem?_set_self hlt]
      rfl
    change ((x.pool.resetDataFrame buf).liveSlots : Multiset β) + frames = _
    rw [hsplit, ← Multiset.coe_add, ← howners, hframe, ← Multiset.singleton_add, add_assoc]
    rfl

theorem Owned.step (h : Owned bufs x) (hstep : PoolStep x y) : Owned bufs y := by
  cases hstep with
  | take buf pool htake => exact h.take htake
  | resetDataFrame buf frames hframe => exact h.resetDataFrame hframe

/-- All slots together are the buffers exactly if the stale slots still point to the buffers of the
outstanding frames. -/
theorem Owned.all_slots_iff (h : Owned bufs x) :
    (x.pool.myBufForRead : Multiset β) = (bufs : Multiset β) ↔
      (x.pool.staleSlots : Multiset β) = x.frames := by
  rw [← h.owners, ← x.pool.liveSlots_append_staleSlots, ← Multiset.coe_add]
  exact add_right_inj _

end

/-! ## The buffers of a scan -/

/-- The buffer of the consumer's frame. -/
def Consumer.buffer : Consumer β ρ W → Multiset β
  | .idle _ => 0
  | .fetching _ buf _ _ | .prefetching _ buf _ | .converting _ buf _ _ | .emptied buf
  | .holding buf => {buf}

section

variable [Fintype κ]

/-- The pool of a scan and the frames of its consumers. -/
def PqSys.custody (s : PqSys β ρ κ W) : Custody β := ⟨s.pool, ∑ c, (s.consumer c).buffer⟩

variable [DecidableEq κ] {s s' : PqSys β ρ κ W} {c : κ}

theorem Consumer.buffers_update {q : Consumer β ρ W} (hpc : s.consumer c = q)
    (p : Consumer β ρ W) :
    ∑ u, (Function.update s.consumer c p u).buffer + q.buffer =
      ∑ u, (s.consumer u).buffer + p.buffer := by
  rw [← hpc]
  exact Threads.sum_update Consumer.buffer s.consumer c p

/-- A step inside a call leaves the frame with its buffer. -/
theorem PqSys.custody_stay {q p : Consumer β ρ W} (hpc : s.consumer c = q)
    (hPool : s'.pool = s.pool) (hConsumer : s'.consumer = Function.update s.consumer c p)
    (hBuffer : p.buffer = q.buffer) : s'.custody = s.custody := by
  have hsum := Consumer.buffers_update hpc p
  rw [hBuffer] at hsum
  rw [PqSys.custody, PqSys.custody, hPool, hConsumer, add_right_cancel hsum]

theorem PqSys.custody_reset {q : Consumer β ρ W} (hpc : s.consumer c = q) {buf : β} {owes : Bool}
    (hBuffer : q.buffer = {buf}) :
    PoolStep s.custody (PqSys.custody { s with
      pool := s.pool.resetDataFrame buf
      consumer := Function.update s.consumer c (.idle owes) }) := by
  refine .resetDataFrame buf _ ?_
  have hsum := Consumer.buffers_update hpc (.idle owes)
  rw [hBuffer] at hsum
  change ∑ u, (s.consumer u).buffer = _
  rw [← Multiset.singleton_add, add_comm]
  exact ((hsum.trans (add_zero _)).symm)

/-- A step of a scan is a step of its pool, or leaves the buffers alone. -/
theorem PqStep.custody {rowLen : Nat} {label : PqLabel κ} (h : PqStep rowLen s label s') :
    PoolStep s.custody s'.custody ∨ s'.custody = s.custody := by
  cases h with
  | turnedAway c owes hpc hnone => exact .inr (PqSys.custody_stay hpc rfl rfl rfl)
  | take c owes i buf pool hpc hbuf htuple =>
    left
    have hsum := Consumer.buffers_update hpc (.start i buf (s.workTuples i).use)
    have hBuffer : (Consumer.start i buf (s.workTuples i).use).buffer = {buf} := by
      unfold Consumer.start
      split <;> rfl
    have hframes : ∑ u, (Function.update s.consumer c
        (.start i buf (s.workTuples i).use) u).buffer = buf ::ₘ ∑ u, (s.consumer u).buffer := by
      rw [hBuffer] at hsum
      rw [← Multiset.singleton_add, add_comm]
      exact (add_zero _).symm.trans hsum
    rw [PqSys.custody, PqSys.custody, hframes]
    exact .take buf pool hbuf
  | prepareCursor c i buf t hpc | prepareNoRange c i buf t needNewRange hpc
  | prepareRange c i buf t needNewRange range ranges hpc
  | prepareFailed c i buf t needNewRange range ranges cursorValid hpc
  | prefetchRows c i buf t batch rest hpc | prefetchEnd c i buf t hpc
  | prefetchFailed c i buf t gone rest hpc => exact .inr (PqSys.custody_stay hpc rfl rfl rfl)
  | convert c i buf t t' failed rows hpc hdone =>
    refine .inr (PqSys.custody_stay hpc rfl rfl ?_)
    split <;> rfl
  | resetEmptied c buf hpc => exact .inl (PqSys.custody_reset hpc rfl)
  | resetHolding c buf hpc => exact .inl (PqSys.custody_reset hpc rfl)

/-- In every run of a scan each buffer has one owner. -/
theorem PqSys.owned_of_reaches {rowLen : Nat} {guard : PqSys β ρ κ W → PqLabel κ → Prop}
    {bufs : List β} (hbufs : bufs.length = W) {ranges : List (List (Row ρ))}
    (hRun : Relation.ReflTransGen (PqMove rowLen guard) (PqSys.init bufs ranges) s) :
    Owned bufs s.custody := by
  have hStep : ∀ s₁ s₂ : PqSys β ρ κ W, Owned bufs s₁.custody → PqMove rowLen guard s₁ s₂ →
      Owned bufs s₂.custody := by
    rintro s₁ s₂ h ⟨label, -, hstep⟩
    rcases hstep.custody with hpool | hstay
    · exact h.step hpool
    · rw [hstay]
      exact h
  refine Machine.invariant_of_reaches hStep ?_ hRun
  have hnone : ∑ c, ((PqSys.init bufs ranges : PqSys β ρ κ W).consumer c).buffer = 0 :=
    Finset.sum_eq_zero fun _ _ => rfl
  rw [PqSys.custody, hnone]
  change Owned bufs ⟨⟨bufs, (W : Int) - 1⟩, 0⟩
  rw [← hbufs]
  exact Owned.init bufs

end

end CantianConnector.ParallelReader
