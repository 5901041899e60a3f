import CantianConnector.Index.KeyParts

/-!
# The search keys of a read request

`copy_index_info_to_req` copies the keys of the parts of a search into the shared memory of a
request, the left keys one behind the other into one area and the right keys into another. A part
may have a key on either side, on both or on none. A round lays the next part of a side
(`Laid.copySide`), the run of the loop lays both sides (`copyLoop_laid`).
-/

namespace CantianConnector.Index

open CantianConnector.Convert

/-! ## The request -/

/-- `MAX_KEY_COLUMNS`. -/
def maxKeyColumns : Nat := 16

/-- `INDEX_KEY_SIZE`. -/
def indexKeySize : Nat := 4096

/-- `index_key_info_t`. The keys are addresses in the memory of the session. -/
structure IndexReadInfo extends IndexKeyInfo where
  sorted : Bool
  needInit : Bool
  action : Nat
  findFlag : Nat
  indexSkipScan : Bool
  indexName : List UInt8

/-- `struct index_key_info`. -/
structure KeySlices where
  keyLens : Nat → Nat
  keyOffsets : Nat → Nat

/-- `index_read_request`, as far as the function fills it in. -/
structure IndexReadRequest where
  sorted : Bool
  needInit : Bool
  findFlag : Nat
  indexName : Mem UInt8
  keyNum : Nat
  action : Nat
  isKeyNull : Nat → Bool
  leftKeyRecord : Mem UInt8
  rightKeyRecord : Mem UInt8
  leftKeyInfo : KeySlices
  rightKeyInfo : KeySlices
  indexSkipScan : Bool

/-! ## The function -/

/-- What the loop keeps for one side: the area, its slices, the next offset, and how far the write
pointer is. -/
structure SideState where
  record : Mem UInt8
  slices : KeySlices
  offset : Nat
  pos : Nat

/-- The part of a round for one side. -/
def copySide (build : Build) (mem : Mem UInt8) (side : KeySide) (i : Nat) (st : SideState) :
    Result SideState :=
  match side.key with
  | some key => do
    cAssert build (decide ((st.offset + side.len) % 2 ^ 32 ≤ indexKeySize))
    return {
      record := st.record.write st.pos (mem.read key side.len)
      pos := st.pos + side.len
      slices :=
        { keyOffsets := Function.update st.slices.keyOffsets i st.offset
          keyLens := Function.update st.slices.keyLens i side.len }
      offset := (st.offset + side.len) % 2 ^ 32 }
  | none =>
    .ok { st with
      slices :=
        { keyOffsets := Function.update st.slices.keyOffsets i 0
          keyLens := Function.update st.slices.keyLens i 0 } }

/-- The variables of the loop. -/
structure CopyState where
  isKeyNull : Nat → Bool
  left : SideState
  right : SideState

/-- The loop, `n` rounds of it. -/
def copyLoop (build : Build) (mem : Mem UInt8) (keyInfo : Nat → KeyInfo) :
    Nat → CopyState → Result CopyState
  | 0, st => .ok st
  | n + 1, st => do
    let st ← copyLoop build mem keyInfo n st
    let left ← copySide build mem (keyInfo n).left n st.left
    let right ← copySide build mem (keyInfo n).right n st.right
    return { isKeyNull := Function.update st.isKeyNull n (keyInfo n).isKeyNull, left, right }

/-- `copy_index_info_to_req`. -/
def copyIndexInfoToReq (build : Build) (mem : Mem UInt8) (info : IndexReadInfo)
    (req : IndexReadRequest) : Result IndexReadRequest := do
  let st ← copyLoop build mem info.keyInfo info.keyNum
    { isKeyNull := fun i => if i < maxKeyColumns then true else req.isKeyNull i
      left := ⟨req.leftKeyRecord, req.leftKeyInfo, 0, 0⟩
      right := ⟨req.rightKeyRecord, req.rightKeyInfo, 0, 0⟩ }
  return {
    sorted := info.sorted
    needInit := info.needInit
    findFlag := info.findFlag
    action := info.action
    keyNum := info.keyNum
    indexSkipScan := info.indexSkipScan
    indexName := req.indexName.write 0 (info.indexName ++ [0])
    isKeyNull := st.isKeyNull
    leftKeyRecord := st.left.record
    rightKeyRecord := st.right.record
    leftKeyInfo := st.left.slices
    rightKeyInfo := st.right.slices }

/-! ## One side -/

/-- The bytes that a side takes in the request. -/
def KeySide.size (side : KeySide) : Nat := if side.key.isSome then side.len else 0

/-- The bytes that the first `n` parts take. -/
def sizeUpTo (side : Nat → KeySide) (n : Nat) : Nat :=
  ((List.range n).map fun i => (side i).size).sum

theorem sizeUpTo_succ (side : Nat → KeySide) (n : Nat) :
    sizeUpTo side (n + 1) = sizeUpTo side n + (side n).size := by
  unfold sizeUpTo
  rw [List.range_succ, List.map_append, List.sum_append]
  simp

theorem sizeUpTo_mono (side : Nat → KeySide) {m n : Nat} (h : m ≤ n) :
    sizeUpTo side m ≤ sizeUpTo side n := by
  induction h with
  | refl => exact Nat.le_refl _
  | step _ ih =>
    rw [sizeUpTo_succ]
    omega

/-- What is done for one side after `n` rounds: each part with a key has its bytes behind those of
the parts in front, and nothing behind them is touched. -/
structure Laid (mem : Mem UInt8) (side : Nat → KeySide) (old : Mem UInt8) (n : Nat)
    (st : SideState) : Prop where
  offset : st.offset = sizeUpTo side n
  pos : st.pos = sizeUpTo side n
  slice : ∀ i < n, ∀ key, (side i).key = some key →
    st.slices.keyOffsets i = sizeUpTo side i ∧ st.slices.keyLens i = (side i).len ∧
      st.record.read (sizeUpTo side i) (side i).len = mem.read key (side i).len
  absent : ∀ i < n, (side i).key = none → st.slices.keyLens i = 0
  frame : ∀ a, sizeUpTo side n ≤ a → st.record a = old a

section

variable {mem old : Mem UInt8} {side : Nat → KeySide} {n : Nat} {st : SideState}

/-- A part without a key leaves the record as it is. -/
theorem Laid.copySide_absent (build : Build) (h : Laid mem side old n st)
    (hkey : (side n).key = none) :
    ∃ st', copySide build mem (side n) n st = .ok st' ∧ Laid mem side old (n + 1) st' := by
  have hsame : sizeUpTo side (n + 1) = sizeUpTo side n := by
    rw [sizeUpTo_succ, KeySide.size, hkey]
    rfl
  refine ⟨_, by rw [copySide, hkey], ?_⟩
  constructor
  · exact h.offset.trans hsame.symm
  · exact h.pos.trans hsame.symm
  · intro i hi key hi'
    have hne : i ≠ n := by
      rintro rfl
      rw [hkey] at hi'
      cases hi'
    simp only [Function.update_of_ne hne]
    exact h.slice i (by omega) key hi'
  · intro i hi hnone
    dsimp only
    by_cases hne : i = n
    · rw [hne, Function.update_self]
    · rw [Function.update_of_ne hne]
      exact h.absent i (by omega) hnone
  · intro a ha
    exact h.frame a (hsame ▸ ha)

/-- A part with a key is written behind the others. -/
theorem Laid.copySide_present (build : Build) (h : Laid mem side old n st)
    (hsize : sizeUpTo side (n + 1) ≤ indexKeySize) {key : Nat}
    (hkey : (side n).key = some key) :
    ∃ st', copySide build mem (side n) n st = .ok st' ∧ Laid mem side old (n + 1) st' := by
  have hlen : sizeUpTo side (n + 1) = sizeUpTo side n + (side n).len := by
    rw [sizeUpTo_succ, KeySide.size, hkey]
    rfl
  have hwrap : (st.offset + (side n).len) % 2 ^ 32 = sizeUpTo side (n + 1) := by
    rw [h.offset, ← hlen]
    exact Nat.mod_eq_of_lt (by simp only [indexKeySize] at hsize; omega)
  have hround : copySide build mem (side n) n st = .ok {
      record := st.record.write st.pos (mem.read key (side n).len)
      pos := st.pos + (side n).len
      slices :=
        { keyOffsets := Function.update st.slices.keyOffsets n st.offset
          keyLens := Function.update st.slices.keyLens n (side n).len }
      offset := sizeUpTo side (n + 1) } := by
    rw [copySide, hkey]
    dsimp only
    rw [hwrap, decide_eq_true hsize, cAssert_true, result_bind_ok]
    rfl
  refine ⟨_, hround, ?_⟩
  constructor
  · rfl
  · rw [hlen, ← h.pos]
  · intro i hi key' hi'
    by_cases hne : i = n
    · rw [hne] at hi' ⊢
      obtain rfl := Option.some.inj (hkey.symm.trans hi')
      dsimp only
      rw [Function.update_self, Function.update_self]
      refine ⟨h.offset, rfl, ?_⟩
      rw [h.pos]
      exact Mem.read_write_same' (Mem.length_read _ _ _)
    · obtain ⟨hoffset, hlens, hread⟩ := h.slice i (by omega) key' hi'
      simp only [Function.update_of_ne hne]
      refine ⟨hoffset, hlens, ?_⟩
      have hend := sizeUpTo_mono side (show i + 1 ≤ n by omega)
      rw [sizeUpTo_succ, KeySide.size, hi', Option.isSome_some, if_pos rfl] at hend
      rw [← hread]
      refine Mem.read_congr fun a _ ha => Mem.write_of_lt _ ?_
      rw [h.pos]
      omega
  · intro i hi hnone
    have hne : i ≠ n := by
      rintro rfl
      rw [hkey] at hnone
      cases hnone
    simp only [Function.update_of_ne hne]
    exact h.absent i (by omega) hnone
  · intro a ha
    rw [hlen] at ha
    rw [← h.frame a (by omega)]
    refine Mem.write_of_ge ?_
    rw [h.pos, Mem.length_read]
    exact ha

/-- **A round** lays the next part. -/
theorem Laid.copySide (build : Build) (h : Laid mem side old n st)
    (hsize : sizeUpTo side (n + 1) ≤ indexKeySize) :
    ∃ st', copySide build mem (side n) n st = .ok st' ∧ Laid mem side old (n + 1) st' := by
  cases hkey : (side n).key with
  | none => exact h.copySide_absent build hkey
  | some key => exact h.copySide_present build hsize hkey

end

/-! ## The loop -/

theorem laid_zero (mem : Mem UInt8) (side : Nat → KeySide) (record : Mem UInt8)
    (slices : KeySlices) : Laid mem side record 0 ⟨record, slices, 0, 0⟩ := by
  refine ⟨rfl, rfl, fun i hi => ?_, fun i hi => ?_, fun a _ => rfl⟩
  · exact absurd hi (Nat.not_lt_zero i)
  · exact absurd hi (Nat.not_lt_zero i)

/-- **The run of the loop** lays both sides. -/
theorem copyLoop_laid (build : Build) {mem : Mem UInt8} {keyInfo : Nat → KeyInfo} (st : CopyState)
    {oldLeft oldRight : Mem UInt8} {n : Nat}
    (hleft : Laid mem (fun i => (keyInfo i).left) oldLeft 0 st.left)
    (hright : Laid mem (fun i => (keyInfo i).right) oldRight 0 st.right)
    (hleftSize : sizeUpTo (fun i => (keyInfo i).left) n ≤ indexKeySize)
    (hrightSize : sizeUpTo (fun i => (keyInfo i).right) n ≤ indexKeySize) :
    ∃ st', copyLoop build mem keyInfo n st = .ok st' ∧
      Laid mem (fun i => (keyInfo i).left) oldLeft n st'.left ∧
      Laid mem (fun i => (keyInfo i).right) oldRight n st'.right ∧
      ∀ i, st'.isKeyNull i = if i < n then (keyInfo i).isKeyNull else st.isKeyNull i := by
  induction n with
  | zero => exact ⟨st, rfl, hleft, hright, fun i => by simp⟩
  | succ n ih =>
    have hleftMono := sizeUpTo_mono (fun i => (keyInfo i).left) (Nat.le_succ n)
    have hrightMono := sizeUpTo_mono (fun i => (keyInfo i).right) (Nat.le_succ n)
    obtain ⟨st', hloop, hleft', hright', hnull⟩ :=
      ih (hleftMono.trans hleftSize) (hrightMono.trans hrightSize)
    obtain ⟨left, hcopyLeft, hleft''⟩ := hleft'.copySide build hleftSize
    obtain ⟨right, hcopyRight, hright''⟩ := hright'.copySide build hrightSize
    refine ⟨⟨Function.update st'.isKeyNull n (keyInfo n).isKeyNull, left, right⟩, ?_, hleft'',
      hright'', ?_⟩
    · rw [copyLoop, hloop, result_bind_ok, hcopyLeft, result_bind_ok, hcopyRight]
      rfl
    · intro i
      dsimp only
      by_cases hi : i = n
      · rw [hi, Function.update_self, if_pos (Nat.lt_succ_self n)]
      · rw [Function.update_of_ne hi, hnull]
        have hiff : i < n + 1 ↔ i < n := by omega
        simp only [hiff]

/-! ## The request -/

/-- The keys of one side in a request: each key is found at its slice, the slices follow each other
without gaps, none overlap, and a part without a key has length 0. -/
structure Packed (mem : Mem UInt8) (side : Nat → KeySide) (n : Nat) (record : Mem UInt8)
    (slices : KeySlices) : Prop where
  bytes : ∀ i < n, ∀ key, (side i).key = some key →
    record.read (slices.keyOffsets i) (slices.keyLens i) = mem.read key (side i).len
  absent : ∀ i < n, (side i).key = none → slices.keyLens i = 0
  consecutive : ∀ i < n, (side i).key.isSome = true →
    slices.keyOffsets i = ((List.range i).map slices.keyLens).sum
  disjoint : ∀ i j, i < j → j < n → (side i).key.isSome = true → (side j).key.isSome = true →
    slices.keyOffsets i + slices.keyLens i ≤ slices.keyOffsets j
  inside : ∀ i < n, (side i).key.isSome = true →
    slices.keyOffsets i + slices.keyLens i ≤ indexKeySize

theorem Laid.packed {mem old : Mem UInt8} {side : Nat → KeySide} {n : Nat} {st : SideState}
    (h : Laid mem side old n st) (hsize : sizeUpTo side n ≤ indexKeySize) :
    Packed mem side n st.record st.slices := by
  have hlens : ∀ i < n, st.slices.keyLens i = (side i).size := by
    intro i hi
    unfold KeySide.size
    cases hkey : (side i).key with
    | none => exact h.absent i hi hkey
    | some key => exact (h.slice i hi key hkey).2.1
  have hoffset : ∀ i < n, (side i).key.isSome = true →
      st.slices.keyOffsets i = sizeUpTo side i := by
    intro i hi hsome
    obtain ⟨key, hkey⟩ := Option.isSome_iff_exists.mp hsome
    exact (h.slice i hi key hkey).1
  have hend : ∀ i < n, (side i).key.isSome = true →
      st.slices.keyOffsets i + st.slices.keyLens i = sizeUpTo side (i + 1) := by
    intro i hi hsome
    rw [hoffset i hi hsome, hlens i hi, sizeUpTo_succ]
  constructor
  · intro i hi key hkey
    obtain ⟨hoffset, hlen, hread⟩ := h.slice i hi key hkey
    rw [hoffset, hlen, hread]
  · exact h.absent
  · intro i hi hsome
    rw [hoffset i hi hsome, sizeUpTo]
    refine congrArg List.sum (List.map_congr_left fun j hj => ?_)
    exact (hlens j ((List.mem_range.mp hj).trans hi)).symm
  · intro i j hij hj hi hsome
    rw [hend i (hij.trans hj) hi, hoffset j hj hsome]
    exact sizeUpTo_mono side hij
  · intro i hi hsome
    rw [hend i hi hsome]
    exact (sizeUpTo_mono side hi).trans hsize

/-- **A read request holds the keys of its search** on both sides. -/
theorem copyIndexInfoToReq_packed (build : Build) (mem : Mem UInt8) (info : IndexReadInfo)
    (req : IndexReadRequest) (hnum : info.keyNum ≤ maxKeyColumns)
    (hleft : sizeUpTo (fun i => (info.keyInfo i).left) info.keyNum ≤ indexKeySize)
    (hright : sizeUpTo (fun i => (info.keyInfo i).right) info.keyNum ≤ indexKeySize) :
    ∃ req', copyIndexInfoToReq build mem info req = .ok req' ∧
      Packed mem (fun i => (info.keyInfo i).left) info.keyNum req'.leftKeyRecord
        req'.leftKeyInfo ∧
      Packed mem (fun i => (info.keyInfo i).right) info.keyNum req'.rightKeyRecord
        req'.rightKeyInfo ∧
      (∀ a, indexKeySize ≤ a → req'.leftKeyRecord a = req.leftKeyRecord a ∧
        req'.rightKeyRecord a = req.rightKeyRecord a) ∧
      (∀ i < maxKeyColumns, req'.isKeyNull i =
        if i < info.keyNum then (info.keyInfo i).isKeyNull else true) ∧
      ∀ i, maxKeyColumns ≤ i → req'.isKeyNull i = req.isKeyNull i := by
  obtain ⟨st, hloop, hlaidLeft, hlaidRight, hnull⟩ := copyLoop_laid build
    { isKeyNull := fun i => if i < maxKeyColumns then true else req.isKeyNull i
      left := ⟨req.leftKeyRecord, req.leftKeyInfo, 0, 0⟩
      right := ⟨req.rightKeyRecord, req.rightKeyInfo, 0, 0⟩ }
    (laid_zero mem _ _ _) (laid_zero mem _ _ _) hleft hright
  have hreq : copyIndexInfoToReq build mem info req = .ok {
      sorted := info.sorted, needInit := info.needInit, findFlag := info.findFlag
      action := info.action, keyNum := info.keyNum, indexSkipScan := info.indexSkipScan
      indexName := req.indexName.write 0 (info.indexName ++ [0])
      isKeyNull := st.isKeyNull
      leftKeyRecord := st.left.record, rightKeyRecord := st.right.record
      leftKeyInfo := st.left.slices, rightKeyInfo := st.right.slices } := by
    rw [copyIndexInfoToReq, hloop]
    rfl
  refine ⟨_, hreq, hlaidLeft.packed hleft, hlaidRight.packed hright, ?_, ?_, ?_⟩
  · intro a ha
    exact ⟨hlaidLeft.frame a (hleft.trans ha), hlaidRight.frame a (hright.trans ha)⟩
  · intro i hi
    have hi' := hnull i
    dsimp only at hi'
    rwa [if_pos hi] at hi'
  · intro i hi
    have hi' := hnull i
    dsimp only at hi'
    rwa [if_neg (by omega), if_neg (by omega)] at hi'

/-- A search over three parts: the first has a left key, the second a right key, the third both. -/
def gapsInfo : IndexReadInfo where
  keyNum := 3
  keyInfo i :=
    if i = 0 then ⟨false, ⟨some 100, 4⟩, ⟨none, 0⟩⟩
    else if i = 1 then ⟨true, ⟨none, 0⟩, ⟨some 200, 2⟩⟩
    else ⟨false, ⟨some 104, 3⟩, ⟨some 202, 3⟩⟩
  sorted := true
  needInit := true
  action := 1
  findFlag := 0
  indexSkipScan := false
  indexName := [65]

/-- A request that holds nothing yet. -/
def emptyRequest : IndexReadRequest where
  sorted := false
  needInit := false
  findFlag := 0
  indexName := fun _ => 0
  keyNum := 0
  action := 0
  isKeyNull := fun _ => false
  leftKeyRecord := fun _ => 0
  rightKeyRecord := fun _ => 0
  leftKeyInfo := ⟨fun _ => 0, fun _ => 0⟩
  rightKeyInfo := ⟨fun _ => 0, fun _ => 0⟩
  indexSkipScan := false

theorem copyIndexInfoToReq_gaps :
    ∃ req', copyIndexInfoToReq .debug UInt8.ofNat gapsInfo emptyRequest = .ok req' ∧
      req'.leftKeyRecord.read (req'.leftKeyInfo.keyOffsets 2) (req'.leftKeyInfo.keyLens 2) =
        [104, 105, 106] ∧
      req'.rightKeyInfo.keyLens 0 = 0 ∧ req'.isKeyNull 3 = true := by
  obtain ⟨req', hreq, hleft, hright, -, hnull, -⟩ :=
    copyIndexInfoToReq_packed .debug UInt8.ofNat gapsInfo emptyRequest (by decide) (by decide)
      (by decide)
  refine ⟨req', hreq, ?_, hright.absent 0 (by decide) rfl, hnull 3 (by decide)⟩
  rw [hleft.bytes 2 (by decide) 104 rfl]
  rfl

end CantianConnector.Index
