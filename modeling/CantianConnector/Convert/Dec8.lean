import CantianConnector.Lib.HalfDigits
import CantianConnector.Convert.Decimal
import CantianConnector.Convert.Result

/-!
# Decimals with eight digits in a cell

`ct_cm_dec_4_to_8` and `cm_dec_8_to_4`. A `dec8_t` has base 10^8 cells, two of a `dec4_t` in each.
The exponents say where the pairs begin: an even one of the `dec4_t` leaves its first cell alone.
Every access to the arrays of cells is checked.
-/

namespace CantianConnector.Convert

open Digits

/-- `DEC4_CELL_SIZE`. -/
def dec4CellSize : Nat := 18
/-- `DEC8_CELL_SIZE`. -/
def dec8CellSize : Nat := 9
/-- `DEC4_CELL_MASK`. -/
def dec4CellMask : Nat := 10000
/-- `DEC8_CELL_MASK`. -/
def dec8CellMask : Nat := 100000000

/-- `dec8_t`; the stored cells are the first `ncells`. -/
structure Dec8 where
  sign : Bool
  expn : Int
  cells : List Nat
deriving DecidableEq, Repr

/-- An access to `cells[i]` of a `dec4_t`. -/
def checkCell4 (i : Nat) : Result Unit := if i < dec4CellSize then .ok () else .error .undefined

/-- An access to `cells[i]` of a `dec8_t`. -/
def checkCell8 (i : Nat) : Result Unit := if i < dec8CellSize then .ok () else .error .undefined

theorem checkCell4_of_lt {i : Nat} (h : i < dec4CellSize) : checkCell4 i = .ok () := if_pos h

theorem checkCell8_of_lt {i : Nat} (h : i < dec8CellSize) : checkCell8 i = .ok () := if_pos h

/-! ## The functions -/

/-- `cm_dec4_stor_sz`. -/
def Dec4.storSz (d4 : Dec4) : Nat := (1 + d4.ncells) * 2

/-- The loop of `ct_cm_dec_4_to_8`, over the cells from `i4` on. -/
def mergeCells : List Nat → Nat → Nat → Result (List Nat)
  | [], _, _ => .ok []
  | [c], i4, i8 => do
    checkCell4 i4
    checkCell8 i8
    return [c * dec4CellMask % 2 ^ 32]
  | c :: d :: rest, i4, i8 => do
    checkCell4 i4
    checkCell8 i8
    checkCell4 (i4 + 1)
    let cells ← mergeCells rest (i4 + 2) (i8 + 1)
    return (c * dec4CellMask + d) % 2 ^ 32 :: cells

/-- `ct_cm_dec_4_to_8`. -/
def ctCmDec4To8 (build : Build) (d4 : Dec4) (szByte : Nat) : Result Dec8 := do
  cAssert build (decide (d4.storSz ≤ szByte))
  match d4.cells with
  | [] => return ⟨false, 0, []⟩
  | c :: rest =>
    let expn := if d4.expn < 0 then (d4.expn - 1).tdiv 2 else d4.expn.tdiv 2
    if d4.expn % 2 = 0 then
      checkCell4 0
      checkCell8 0
      let cells ← mergeCells rest 1 1
      return ⟨d4.sign, expn, c :: cells⟩
    else
      let cells ← mergeCells (c :: rest) 0 0
      return ⟨d4.sign, expn, cells⟩

/-- The loop of `cm_dec_8_to_4`, over the cells from `i8` on. -/
def splitCells : List Nat → Nat → Nat → Result (List Nat)
  | [], _, _ => .ok []
  | c :: rest, i8, i4 => do
    checkCell8 i8
    checkCell4 i4
    checkCell4 (i4 + 1)
    let cells ← splitCells rest (i8 + 1) (i4 + 2)
    return c / dec4CellMask % 2 ^ 16 :: c % dec4CellMask % 2 ^ 16 :: cells

/-- `cm_dec_8_to_4`. -/
def cmDec8To4 (build : Build) (d8 : Dec8) : Result Dec4 :=
  match d8.cells with
  | [] => .ok ⟨false, 0, []⟩
  | c :: rest => do
    let expn := (d8.expn * 2 + 1).bmod (2 ^ 8)
    let (expn, cells) ←
      (if c < dec4CellMask then do
        checkCell8 0
        checkCell4 0
        let cells ← splitCells rest 1 1
        return ((expn - 1).bmod (2 ^ 8), c :: cells)
      else do
        let cells ← splitCells (c :: rest) 0 0
        return (expn, cells))
    cAssert build (decide (cells.length ≤ dec4CellSize))
    -- remove a trailing zero
    return ⟨d8.sign, expn, if cells.getLast? = some 0 then cells.dropLast else cells⟩

/-! ## The loops -/

theorem mergeCells_eq {cells : List Nat} {i4 i8 : Nat} (hcells : ∀ c ∈ cells, c < dec4CellMask)
    (h4 : i4 + cells.length ≤ dec4CellSize) (h8 : i8 + (cells.length + 1) / 2 ≤ dec8CellSize) :
    mergeCells cells i4 i8 = .ok (pairUp dec4CellMask cells) := by
  induction cells, i4, i8 using mergeCells.induct with
  | case1 => rfl
  | case2 c i4 i8 =>
    have hc := hcells c List.mem_cons_self
    simp only [List.length_cons, List.length_nil] at h4 h8
    have hwrap : c * dec4CellMask % 2 ^ 32 = c * dec4CellMask := by
      apply Nat.mod_eq_of_lt
      unfold dec4CellMask at *
      omega
    rw [mergeCells, checkCell4_of_lt (by omega), checkCell8_of_lt (by omega), hwrap]
    rfl
  | case3 c d rest i4 i8 ih =>
    simp only [List.forall_mem_cons] at hcells
    obtain ⟨hc, hd, hrest⟩ := hcells
    simp only [List.length_cons] at h4 h8
    have hwrap : (c * dec4CellMask + d) % 2 ^ 32 = c * dec4CellMask + d := by
      apply Nat.mod_eq_of_lt
      unfold dec4CellMask at *
      omega
    rw [mergeCells, checkCell4_of_lt (by omega), checkCell8_of_lt (by omega),
      checkCell4_of_lt (by omega), ih hrest (by omega) (by omega), hwrap]
    rfl

theorem splitCells_eq {cells : List Nat} {i8 i4 : Nat} (hcells : ∀ c ∈ cells, c < dec8CellMask)
    (h8 : i8 + cells.length ≤ dec8CellSize) (h4 : i4 + 2 * cells.length ≤ dec4CellSize) :
    splitCells cells i8 i4 = .ok (splitUp dec4CellMask cells) := by
  induction cells generalizing i8 i4 with
  | nil => rfl
  | cons c rest ih =>
    rw [List.forall_mem_cons] at hcells
    obtain ⟨hc, hrest⟩ := hcells
    rw [List.length_cons] at h8 h4
    have hupper : c / dec4CellMask % 2 ^ 16 = c / dec4CellMask := by
      apply Nat.mod_eq_of_lt
      unfold dec4CellMask dec8CellMask at *
      omega
    have hlower : c % dec4CellMask % 2 ^ 16 = c % dec4CellMask := by
      apply Nat.mod_eq_of_lt
      unfold dec4CellMask
      omega
    rw [splitCells, checkCell8_of_lt (by omega), checkCell4_of_lt (by omega),
      checkCell4_of_lt (by omega), ih hrest (by omega) (by omega), hupper, hlower]
    rfl

/-! ## Both functions -/

/-- Division of a `dec4_t` exponent rounds down for either sign. -/
theorem dec4Expn_half (e : Int) : (if e < 0 then (e - 1).tdiv 2 else e.tdiv 2) = e / 2 := by
  split
  · rw [Int.tdiv_eq_ediv]
    split
    · omega
    · rw [show Int.sign 2 = 1 from rfl]
      omega
  · exact Int.tdiv_eq_ediv_of_nonneg (by omega)

/-- Even exponent: the first cell is one of its own. -/
theorem ctCmDec4To8_even {build : Build} {d4 : Dec4} {c : Nat} {rest : List Nat} {szByte : Nat}
    (hcells : d4.cells = c :: rest) (hexpn : d4.expn % 2 = 0)
    (hlt : ∀ x ∈ rest, x < dec4CellMask) (hlength : rest.length ≤ 16) (hsz : d4.storSz ≤ szByte) :
    ctCmDec4To8 build d4 szByte =
      .ok ⟨d4.sign, d4.expn / 2, c :: pairUp dec4CellMask rest⟩ := by
  have hmerge : mergeCells rest 1 1 = .ok (pairUp dec4CellMask rest) := by
    apply mergeCells_eq hlt
    · unfold dec4CellSize
      omega
    · unfold dec8CellSize
      omega
  rw [ctCmDec4To8, decide_eq_true hsz, cAssert_true, result_bind_ok, hcells]
  dsimp only
  rw [if_pos hexpn, dec4Expn_half, hmerge]
  rfl

/-- Odd exponent: the pairs begin with the first cell. -/
theorem ctCmDec4To8_odd {build : Build} {d4 : Dec4} {szByte : Nat} (hcells : d4.cells ≠ [])
    (hexpn : ¬d4.expn % 2 = 0) (hlt : ∀ x ∈ d4.cells, x < dec4CellMask)
    (hlength : d4.cells.length ≤ 18) (hsz : d4.storSz ≤ szByte) :
    ctCmDec4To8 build d4 szByte =
      .ok ⟨d4.sign, d4.expn / 2, pairUp dec4CellMask d4.cells⟩ := by
  have hmerge : mergeCells d4.cells 0 0 = .ok (pairUp dec4CellMask d4.cells) := by
    apply mergeCells_eq hlt
    · unfold dec4CellSize
      omega
    · unfold dec8CellSize
      omega
  rw [ctCmDec4To8, decide_eq_true hsz, cAssert_true, result_bind_ok]
  obtain ⟨c, rest, heq⟩ := List.exists_cons_of_ne_nil hcells
  rw [heq] at hmerge ⊢
  dsimp only
  rw [if_neg hexpn, dec4Expn_half, hmerge]
  rfl

/-- A first cell without an upper half is one of its own. -/
theorem cmDec8To4_short (build : Build) (d8 : Dec8) {c : Nat} {rest : List Nat}
    (hcells : d8.cells = c :: rest) (hc : c < dec4CellMask) (hlt : ∀ x ∈ rest, x < dec8CellMask)
    (hlength : rest.length ≤ 8) (hmin : -64 ≤ d8.expn) (hmax : d8.expn ≤ 63) :
    cmDec8To4 build d8 =
      .ok ⟨d8.sign, d8.expn * 2, dropLastZero (c :: splitUp dec4CellMask rest)⟩ := by
  have hsplit : splitCells rest 1 1 = .ok (splitUp dec4CellMask rest) := by
    apply splitCells_eq hlt
    · unfold dec8CellSize
      omega
    · unfold dec4CellSize
      omega
  have hexpn : ((d8.expn * 2 + 1).bmod (2 ^ 8) - 1).bmod (2 ^ 8) = d8.expn * 2 := by
    have hodd : (d8.expn * 2 + 1).bmod (2 ^ 8) = d8.expn * 2 + 1 :=
      Int.bmod_eq_of_le (by omega) (by omega)
    rw [hodd, Int.add_sub_cancel]
    exact Int.bmod_eq_of_le (by omega) (by omega)
  have hsize : (c :: splitUp dec4CellMask rest).length ≤ dec4CellSize := by
    rw [List.length_cons, length_splitUp, dec4CellSize]
    omega
  rw [cmDec8To4, hcells]
  dsimp only
  rw [if_pos hc, hsplit, hexpn, checkCell8_of_lt (by decide), checkCell4_of_lt (by decide)]
  simp only [result_bind_ok, result_pure, decide_eq_true hsize, cAssert_true]
  rfl

/-- A first cell with both halves is two cells. -/
theorem cmDec8To4_long (build : Build) (d8 : Dec8) {c : Nat} {rest : List Nat}
    (hcells : d8.cells = c :: rest) (hc : ¬c < dec4CellMask)
    (hlt : ∀ x ∈ c :: rest, x < dec8CellMask)
    (hlength : rest.length ≤ 8) (hmin : -64 ≤ d8.expn) (hmax : d8.expn ≤ 63) :
    cmDec8To4 build d8 =
      .ok ⟨d8.sign, d8.expn * 2 + 1, dropLastZero (splitUp dec4CellMask (c :: rest))⟩ := by
  have hsplit : splitCells (c :: rest) 0 0 = .ok (splitUp dec4CellMask (c :: rest)) := by
    apply splitCells_eq hlt
    · rw [List.length_cons, dec8CellSize]
      omega
    · rw [List.length_cons, dec4CellSize]
      omega
  have hexpn : (d8.expn * 2 + 1).bmod (2 ^ 8) = d8.expn * 2 + 1 :=
    Int.bmod_eq_of_le (by omega) (by omega)
  have hsize : (splitUp dec4CellMask (c :: rest)).length ≤ dec4CellSize := by
    rw [length_splitUp, List.length_cons, dec4CellSize]
    omega
  rw [cmDec8To4, hcells]
  dsimp only
  rw [if_neg hc, hsplit, hexpn]
  simp only [result_bind_ok, result_pure, decide_eq_true hsize, cAssert_true]
  rfl

/-! ## Round trips -/

theorem getLast?_ne_zero {b : Nat} {cells : List Nat} (h : Canonical b cells) :
    cells.getLast? ≠ some 0 := by
  intro hlast
  refine h.last ?_
  rw [List.getLast?_eq_getElem?] at hlast
  rw [List.getD_eq_getElem?_getD, hlast]
  rfl

theorem ne_nil_of_canonical {b : Nat} {cells : List Nat} (h : Canonical b cells) : cells ≠ [] :=
  List.ne_nil_of_length_pos h.length_pos

/-- What may follow a first cell: pairing and splitting gives the cells back. -/
theorem dropLastZero_append_splitUp (lead : List Nat) {rest : List Nat}
    (hlt : ∀ x ∈ rest, x < dec4CellMask)
    (hlast : (lead ++ rest).getLast? ≠ some 0) :
    dropLastZero (lead ++ splitUp dec4CellMask (pairUp dec4CellMask rest)) = lead ++ rest := by
  rcases splitUp_pairUp hlt with heq | heq
  · rw [heq]
    exact dropLastZero_of_ne hlast
  · rw [heq, ← List.append_assoc]
    exact dropLastZero_concat_zero _

/-- From `dec4_t` and back. -/
theorem ctCmDec4To8_roundtrip (build : Build) {d4 : Dec4} (h : Canonical dec4CellMask d4.cells)
    (hlength : d4.cells.length ≤ 17) (hmin : -128 ≤ d4.expn) (hmax : d4.expn ≤ 127) {szByte : Nat}
    (hsz : d4.storSz ≤ szByte) :
    ∃ d8, ctCmDec4To8 build d4 szByte = .ok d8 ∧ cmDec8To4 build d8 = .ok d4 := by
  have hlast := getLast?_ne_zero h
  obtain ⟨c, rest, heq⟩ := List.exists_cons_of_ne_nil (ne_nil_of_canonical h)
  have hlt := h.lt
  rw [heq, List.forall_mem_cons] at hlt
  rw [heq, List.length_cons] at hlength
  by_cases hexpn : d4.expn % 2 = 0
  · refine ⟨_, ctCmDec4To8_even heq hexpn hlt.2 (by omega) hsz, ?_⟩
    rw [cmDec8To4_short _ _ rfl hlt.1 (pairUp_lt hlt.2) (by rw [length_pairUp]; omega)
      (by dsimp only; omega) (by dsimp only; omega)]
    have hcells := dropLastZero_append_splitUp [c] hlt.2 (by
      rw [heq] at hlast
      exact hlast)
    have hdouble : d4.expn / 2 * 2 = d4.expn := by omega
    obtain ⟨sign, expn, cells⟩ := d4
    dsimp only at heq hdouble ⊢
    rw [heq, hdouble]
    exact congrArg (fun cells => Except.ok (⟨sign, expn, cells⟩ : Dec4)) hcells
  · have hlength' : d4.cells.length ≤ 18 := by
      rw [heq, List.length_cons]
      omega
    refine ⟨_, ctCmDec4To8_odd (ne_nil_of_canonical h) hexpn h.lt hlength' hsz, ?_⟩
    obtain ⟨c8, rest8, heq8, hc8⟩ := pairUp_head (b := dec4CellMask) c rest
    have hpos : 0 < c := by
      have hhead := h.head
      rw [heq] at hhead
      exact Nat.pos_of_ne_zero hhead
    have hlong : ¬c8 < dec4CellMask := by
      have hmul := Nat.le_mul_of_pos_left dec4CellMask hpos
      omega
    have hlt8 := pairUp_lt (b := dec4CellMask) h.lt
    have hlength8 := length_pairUp (b := dec4CellMask) d4.cells
    have hcells := dropLastZero_append_splitUp [] h.lt hlast
    rw [← heq] at heq8
    rw [heq8] at hlt8 hlength8 hcells ⊢
    rw [List.length_cons] at hlength8
    rw [cmDec8To4_long _ _ rfl hlong hlt8 (by omega) (by dsimp only; omega) (by dsimp only; omega)]
    have hdouble : d4.expn / 2 * 2 + 1 = d4.expn := by omega
    obtain ⟨sign, expn, cells⟩ := d4
    dsimp only at hdouble hcells ⊢
    rw [hdouble]
    exact congrArg (fun cells => Except.ok (⟨sign, expn, cells⟩ : Dec4)) hcells

/-- From `dec8_t` and back. -/
theorem cmDec8To4_roundtrip (build : Build) {d8 : Dec8} (h : Canonical dec8CellMask d8.cells)
    (hlength : d8.cells.length ≤ dec8CellSize) (hmin : -64 ≤ d8.expn) (hmax : d8.expn ≤ 63) :
    ∃ d4, cmDec8To4 build d8 = .ok d4 ∧
      ∀ szByte, d4.storSz ≤ szByte → ctCmDec4To8 build d4 szByte = .ok d8 := by
  have hlast := getLast?_ne_zero h
  obtain ⟨c, rest, heq⟩ := List.exists_cons_of_ne_nil (ne_nil_of_canonical h)
  have hlt := h.lt
  rw [heq] at hlt hlast
  rw [heq, List.length_cons, dec8CellSize] at hlength
  obtain ⟨sign, expn, cells⟩ := d8
  dsimp only at heq hmin hmax
  subst heq
  by_cases hc : c < dec4CellMask
  · have hlead : dropLastZero (c :: splitUp dec4CellMask rest) =
        c :: dropLastZero (splitUp dec4CellMask rest) := by
      by_cases hrest : rest = []
      · subst hrest
        exact dropLastZero_of_ne hlast
      · exact dropLastZero_cons c (splitUp_ne_nil hrest)
    have hshort := cmDec8To4_short build ⟨sign, expn, c :: rest⟩ rfl hc
      (List.forall_mem_cons.mp hlt).2 (by omega) hmin hmax
    rw [hlead] at hshort
    refine ⟨_, hshort, fun szByte hsz => ?_⟩
    have hhalves := splitUp_lt (b := dec4CellMask) (by decide) (List.forall_mem_cons.mp hlt).2
    have hsize := length_dropLastZero_le (splitUp dec4CellMask rest)
    rw [length_splitUp] at hsize
    have heven : expn * 2 % 2 = 0 := Int.mul_emod_left expn 2
    rw [ctCmDec4To8_even rfl heven (fun x hx => hhalves x (mem_of_mem_dropLastZero hx)) (by omega)
      hsz, pairUp_dropLastZero_splitUp]
    dsimp only
    rw [Int.mul_ediv_cancel expn (by decide)]
  · have hlong := cmDec8To4_long build ⟨sign, expn, c :: rest⟩ rfl hc hlt
      (by omega) hmin hmax
    refine ⟨_, hlong, fun szByte hsz => ?_⟩
    have hhalves := splitUp_lt (b := dec4CellMask) (by decide) hlt
    have hsize := length_dropLastZero_le (splitUp dec4CellMask (c :: rest))
    rw [length_splitUp, List.length_cons] at hsize
    have hpair := pairUp_dropLastZero_splitUp (b := dec4CellMask) (c :: rest)
    have hne : dropLastZero (splitUp dec4CellMask (c :: rest)) ≠ [] := by
      intro hnil
      rw [hnil] at hpair
      cases hpair
    have hodd : ¬(expn * 2 + 1) % 2 = 0 := by omega
    have hhalf : (expn * 2 + 1) / 2 = expn := by omega
    rw [ctCmDec4To8_odd hne hodd (fun x hx => hhalves x (mem_of_mem_dropLastZero hx))
      (by dsimp only; omega) hsz]
    dsimp only
    rw [hpair, hhalf]

/-- **The conversions are inverse to each other**, with every access inside the arrays. -/
theorem dec4_dec8_inverse (build : Build) :
    (∀ d4 : Dec4, Canonical dec4CellMask d4.cells → d4.cells.length ≤ 17 → -128 ≤ d4.expn →
      d4.expn ≤ 127 → ∀ szByte, d4.storSz ≤ szByte →
        ∃ d8, ctCmDec4To8 build d4 szByte = .ok d8 ∧ cmDec8To4 build d8 = .ok d4) ∧
    ∀ d8 : Dec8, Canonical dec8CellMask d8.cells → d8.cells.length ≤ dec8CellSize →
      -64 ≤ d8.expn → d8.expn ≤ 63 →
        ∃ d4, cmDec8To4 build d8 = .ok d4 ∧
          ∀ szByte, d4.storSz ≤ szByte → ctCmDec4To8 build d4 szByte = .ok d8 := by
  constructor
  · intro d4 h hlength hmin hmax szByte hsz
    exact ctCmDec4To8_roundtrip build h hlength hmin hmax hsz
  · intro d8 h hlength hmin hmax
    exact cmDec8To4_roundtrip build h hlength hmin hmax

/-- `-0.000123456` in three cells of four digits, and `12345.6` in two of eight. -/
theorem dec4_dec8_inverse_small :
    (∃ d8, ctCmDec4To8 .debug ⟨true, -1, [1, 2345, 6000]⟩ 8 = .ok d8 ∧
      cmDec8To4 .debug d8 = .ok ⟨true, -1, [1, 2345, 6000]⟩) ∧
    ∃ d4, cmDec8To4 .debug ⟨false, 0, [12345, 60000000]⟩ = .ok d4 ∧
      ctCmDec4To8 .debug d4 d4.storSz = .ok ⟨false, 0, [12345, 60000000]⟩ := by
  have h4 : Canonical dec4CellMask [1, 2345, 6000] := ⟨by decide, by decide, by decide⟩
  have h8 : Canonical dec8CellMask [12345, 60000000] := ⟨by decide, by decide, by decide⟩
  constructor
  · exact (dec4_dec8_inverse .debug).1 ⟨true, -1, [1, 2345, 6000]⟩ h4 (by decide) (by decide)
      (by decide) 8 (by decide)
  · obtain ⟨d4, hd4, hback⟩ := (dec4_dec8_inverse .debug).2 ⟨false, 0, [12345, 60000000]⟩ h8
      (by decide) (by decide) (by decide)
    exact ⟨d4, hd4, hback d4.storSz (Nat.le_refl _)⟩

end CantianConnector.Convert
