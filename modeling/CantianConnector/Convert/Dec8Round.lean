import CantianConnector.Lib.DigitText
import CantianConnector.Convert.Dec8

/-!
# Rounding a decimal to a text

`cm_dec8_round_to_text` and what it calls. A decimal with more digits than asked for is copied, a
five is added behind the last digit that is kept, and the carry runs to the left; the text is then
cut. The copy is made by a `switch` that knows up to seven cells. The cells of the copy are a
function that is `none` where nothing was written, and reading such a cell is an undefined result.
-/

namespace CantianConnector.Convert

open Digits DigitText

/-! ## The functions -/

/-- `DEC8_CELL_DIGIT`. -/
def dec8CellDigit : Nat := 8
/-- `DEC8_MAX_ALLOWED_PREC`. -/
def dec8MaxAllowedPrec : Nat := dec8CellSize * dec8CellDigit

/-- `cm_count_u32digits`. -/
def cmCountU32Digits (u : Nat) : Nat :=
  if 100000 ≤ u then
    if 10000000 ≤ u then if u < 100000000 then 8 else if 1000000000 ≤ u then 10 else 9
    else if 1000000 ≤ u then 7 else 6
  else if 1000 ≤ u then if 10000 ≤ u then 5 else 4
  else if 100 ≤ u then 3 else if 10 ≤ u then 2 else 1

/-- `while (u != 0 && u % 10 == 0) { ++j; u /= 10; }`: what is left of `u`, and `j`. A `uint32` has
at most ten digits. -/
def stripZeros : Nat → Nat → Nat × Nat
  | 0, u => (u, 0)
  | fuel + 1, u =>
    if u ≠ 0 ∧ u % 10 = 0 then
      let rest := stripZeros fuel (u / 10)
      (rest.1, rest.2 + 1)
    else (u, 0)

/-- The first loop of `cm_dec8_calc_prec`, over the cells behind the first one from the last one
on: `i * DEC8_CELL_DIGIT - j` for the last cell that is not zero. -/
def lastCellPrec : List Nat → Option Nat
  | [] => none
  | c :: rest =>
    match lastCellPrec rest with
    | some prec => some (prec + dec8CellDigit)
    | none => if 0 < c then some (dec8CellDigit - (stripZeros 10 c).2) else none

/-- `cm_dec8_calc_prec`. -/
def cmDec8CalcPrec (dec : Dec8) : Nat :=
  match dec.cells with
  | [] => 0
  | u0 :: rest =>
    match lastCellPrec rest with
    | some prec => prec + cmCountU32Digits u0
    | none => cmCountU32Digits (stripZeros 10 u0).1

/-- The cells of a `dec8_t` in memory. -/
abbrev CellMem := Nat → Option Nat

/-- A `dec8_t` in memory. -/
structure Dec8Buf where
  sign : Bool
  ncells : Nat
  expn : Int
  cells : CellMem

/-- The cells of a decimal. -/
def Dec8.cellMem (dec : Dec8) : CellMem := fun i => dec.cells[i]?

def readCell (cells : CellMem) (i : Nat) : Result Nat := do
  checkCell8 i
  match cells i with
  | some c => return c
  | none => .error .undefined

/-- `cm_dec8_copy` into a variable that is not initialised. -/
def cmDec8Copy (src : Dec8) : Dec8Buf :=
  if src.cells.length ≤ 7 then ⟨src.sign, src.cells.length, src.expn, src.cellMem⟩
  else ⟨false, 0, 0, fun _ => none⟩

/-- `cm_dec8_rebuild`. -/
def cmDec8Rebuild (rs : Dec8Buf) (cell0 : Nat) : Dec8Buf :=
  let ncells := if rs.ncells < dec8CellSize then rs.ncells + 1 else rs.ncells
  { rs with
    ncells := ncells
    cells := fun i =>
      if i = 0 then some cell0 else if i < ncells then rs.cells (i - 1) else rs.cells i
    expn := (rs.expn + 1).bmod (2 ^ 16) }

/-- The loop of `cm_dec8_make_round`: the carry out of the first cell, and the cells. `i + 1` rounds
are left. -/
def roundLoop : Nat → Nat → CellMem → Result (Bool × CellMem)
  | 0, _, cells => .ok (true, cells)
  | i + 1, carry, cells => do
    let c ← readCell cells i
    let c := (c + carry) % 2 ^ 32
    if c < dec8CellMask then return (false, Function.update cells i (some c))
    else roundLoop i 1 (Function.update cells i (some (c - dec8CellMask)))

/-- `cm_dec8_make_round`: the carry and `dx`. -/
def cmDec8MakeRound (dec : Dec8) (pos : Nat) : Result (Bool × Dec8Buf) :=
  let dx := cmDec8Copy dec
  if dec8MaxAllowedPrec ≤ pos then .ok (false, dx)
  else do
    let i := pos / dec8CellDigit
    let j := pos % dec8CellDigit
    -- ct_5ten_powers[DEC8_CELL_DIGIT - j]
    let (carry, cells) ← roundLoop (i + 1) (5 * 10 ^ (dec8CellDigit - j - 1)) dx.cells
    let dx := { dx with cells := cells }
    return (carry, if carry then cmDec8Rebuild dx 1 else dx)

/-- A cell that is printed. More than eight digits do not fit into what `snprintf` is given, but
would be counted. -/
def printCell (digits : List Char) : Result (List Char) :=
  if digits.length ≤ dec8CellDigit then .ok digits else .error .undefined

/-- The loop of `cm_cell8s_to_text` over the cells behind the first one, `k` of which are left. -/
def appendCells (cells : CellMem) (maxLen : Nat) : Nat → Nat → List Char → Result (List Char)
  | 0, _, text => .ok text
  | k + 1, i, text =>
    if text.length < maxLen then do
      let c ← readCell cells i
      let part ← printCell (fixed dec8CellDigit c)
      appendCells cells maxLen k (i + 1) (text ++ part)
    else .ok text

/-- `cm_cell8s_to_text`. -/
def cmCell8sToText (cells : CellMem) (ncell : Nat) (maxLen : Int) : Result (List Char) := do
  let maxLen := (maxLen % 2 ^ 32).toNat
  let c0 ← readCell cells 0
  let text ← printCell (Nat.toDigits 10 c0)
  let text ← appendCells cells maxLen (ncell - 1) 1 text
  let text := if maxLen < text.length then text.take maxLen else text
  match text with
  -- (uint32)text->len - 1
  | [] => .error .undefined
  -- the loop stops before the first character
  | c :: rest => return c :: dropZeros rest

/-- `cm_dec8_round_to_text`. -/
def cmDec8RoundToText (dec : Dec8) (maxLen : Int) : Result (Nat × List Char) := do
  let prec := cmDec8CalcPrec dec
  if (prec : Int) ≤ maxLen then
    let text ← cmCell8sToText dec.cellMem dec.cells.length prec
    return (0, text)
  else do
    let c0 ← readCell dec.cellMem 0
    let precU0 := cmCountU32Digits c0
    -- DEC8_POS_N_BY_PREC0
    let pos := ((maxLen + dec8CellDigit - precU0) % 2 ^ 32).toNat
    let (carry, txtdec) ← cmDec8MakeRound dec pos
    if carry then
      let text ← cmCell8sToText txtdec.cells (dec.cells.length + 1) maxLen
      return (1, text)
    else
      let text ← cmCell8sToText txtdec.cells dec.cells.length maxLen
      let c0 ← readCell txtdec.cells 0
      return (if precU0 < cmCountU32Digits c0 then 1 else 0, text)

/-! ## Digits of a cell -/

theorem cmCountU32Digits_eq {u : Nat} (h : u < 2 ^ 32) :
    cmCountU32Digits u = (Nat.toDigits 10 u).length := by
  have hle : ∀ k, 0 < k → ((Nat.toDigits 10 u).length ≤ k ↔ u < 10 ^ k) := fun k hk =>
    Nat.length_toDigits_le_iff (by decide) hk
  have h1 := hle 1 (by decide)
  have h2 := hle 2 (by decide)
  have h3 := hle 3 (by decide)
  have h4 := hle 4 (by decide)
  have h5 := hle 5 (by decide)
  have h6 := hle 6 (by decide)
  have h7 := hle 7 (by decide)
  have h8 := hle 8 (by decide)
  have h9 := hle 9 (by decide)
  have h10 := hle 10 (by decide)
  have hpos := Nat.length_toDigits_pos (b := 10) (n := u)
  unfold cmCountU32Digits
  split_ifs <;> omega

/-- The text of some cells: the first one as it is, the others with eight digits. -/
def cellsText : List Nat → List Char
  | [] => []
  | c :: rest => Nat.toDigits 10 c ++ rest.flatMap (fixed dec8CellDigit)

theorem length_flatMap_fixed {cells : List Nat} (h : ∀ c ∈ cells, c < dec8CellMask) :
    (cells.flatMap (fixed dec8CellDigit)).length = 8 * cells.length := by
  induction cells with
  | nil => rfl
  | cons c rest ih =>
    obtain ⟨hc, hrest⟩ := List.forall_mem_cons.mp h
    have hfixed : (fixed dec8CellDigit c).length = 8 := length_fixed (by decide) hc
    rw [List.flatMap_cons, List.length_append, ih hrest, hfixed, List.length_cons]
    omega

theorem digits_cellsText (cells : List Nat) : AllDigits (cellsText cells) := by
  cases cells with
  | nil => exact digits_nil
  | cons c rest =>
    rw [cellsText, digits_append]
    refine ⟨digits_toDigits c, fun d hd => ?_⟩
    obtain ⟨e, -, he⟩ := List.mem_flatMap.mp hd
    exact digits_fixed _ _ d he

theorem value_flatMap_fixed {cells : List Nat} (h : ∀ c ∈ cells, c < dec8CellMask) :
    value (cells.flatMap (fixed dec8CellDigit)) = number dec8CellMask cells := by
  induction cells with
  | nil => rfl
  | cons c rest ih =>
    obtain ⟨-, hrest⟩ := List.forall_mem_cons.mp h
    rw [List.flatMap_cons, value_append, value_fixed, ih hrest, length_flatMap_fixed hrest,
      number_cons, Nat.pow_mul]
    rfl

/-- The cells are printed as the number they denote. -/
theorem cellsText_eq {c : Nat} {rest : List Nat} (hc : 0 < c)
    (hrest : ∀ x ∈ rest, x < dec8CellMask) :
    cellsText (c :: rest) = Nat.toDigits 10 (number dec8CellMask (c :: rest)) := by
  have hvalue : value (cellsText (c :: rest)) = number dec8CellMask (c :: rest) := by
    rw [cellsText, value_append, value_toDigits, value_flatMap_fixed hrest,
      length_flatMap_fixed hrest, number_cons, Nat.pow_mul]
    rfl
  rw [← hvalue]
  refine (toDigits_value (digits_cellsText _) ?_ ?_).symm
  · exact List.append_ne_nil_of_left_ne_nil Nat.toDigits_ne_nil _
  · rw [cellsText, List.head?_append_of_ne_nil _ Nat.toDigits_ne_nil]
    exact head?_toDigits hc

/-! ## The precision -/

/-- `stripZeros` divides by the powers of ten in a number. -/
theorem stripZeros_spec (fuel : Nat) {u : Nat} (hu : 0 < u) (hfuel : u < 10 ^ fuel) :
    (stripZeros fuel u).1 % 10 ≠ 0 ∧ u = (stripZeros fuel u).1 * 10 ^ (stripZeros fuel u).2 := by
  induction fuel generalizing u with
  | zero => omega
  | succ fuel ih =>
    rw [stripZeros]
    by_cases hstrip : u ≠ 0 ∧ u % 10 = 0
    · rw [if_pos hstrip]
      rw [Nat.pow_succ] at hfuel
      obtain ⟨hrest, heq⟩ := ih (u := u / 10) (by omega) (by omega)
      refine ⟨hrest, ?_⟩
      dsimp only
      rw [Nat.pow_succ, ← Nat.mul_assoc, ← heq]
      omega
    · rw [if_neg hstrip]
      refine ⟨?_, ?_⟩
      · dsimp only
        omega
      · dsimp only
        rw [Nat.pow_zero, Nat.mul_one]

/-- The last cell that is not zero says where the digits end. -/
theorem lastCellPrec_spec {cells : List Nat} (h : ∀ c ∈ cells, c < dec8CellMask) :
    match lastCellPrec cells with
    | some prec =>
      prec = (dropZeros (cells.flatMap (fixed dec8CellDigit))).length ∧
        dropZeros (cells.flatMap (fixed dec8CellDigit)) ≠ []
    | none => dropZeros (cells.flatMap (fixed dec8CellDigit)) = [] := by
  induction cells with
  | nil => rfl
  | cons c rest ih =>
    obtain ⟨hc, hrest⟩ := List.forall_mem_cons.mp h
    have hrest := ih hrest
    have hlength : (fixed dec8CellDigit c).length = 8 := length_fixed (by decide) hc
    rw [lastCellPrec, List.flatMap_cons, dropZeros_append]
    cases hlast : lastCellPrec rest with
    | some prec =>
      rw [hlast] at hrest
      obtain ⟨hprec, hne⟩ := hrest
      dsimp only
      rw [if_neg hne, List.length_append, hlength, hprec, Nat.add_comm]
      exact ⟨rfl, List.append_ne_nil_of_right_ne_nil _ hne⟩
    | none =>
      rw [hlast] at hrest
      dsimp only at hrest ⊢
      rw [if_pos hrest]
      by_cases hpos : 0 < c
      · rw [if_pos hpos]
        have hfuel : c < 10 ^ 10 := by
          unfold dec8CellMask at hc
          omega
        obtain ⟨hr, heq⟩ := stripZeros_spec 10 hpos hfuel
        obtain ⟨-, hdrop⟩ := dropZeros_of_value (digits_fixed dec8CellDigit c) hr
          ((value_fixed _ _).trans heq)
        rw [hlength] at hdrop
        have hle : c < 10 ^ 8 := hc
        have hj : (stripZeros 10 c).2 < 8 := by
          by_contra hj
          have hpow : 10 ^ 8 ≤ 10 ^ (stripZeros 10 c).2 :=
            Nat.pow_le_pow_right (by decide) (by omega)
          have hmul := Nat.le_mul_of_pos_left (10 ^ (stripZeros 10 c).2)
            (Nat.pos_of_ne_zero fun h : (stripZeros 10 c).1 = 0 => hr (by rw [h]))
          omega
        dsimp only [dec8CellDigit] at hdrop ⊢
        refine ⟨by omega, ?_⟩
        apply List.ne_nil_of_length_pos
        omega
      · rw [if_neg hpos]
        apply dropZeros_eq_nil (digits_fixed _ _)
        rw [value_fixed]
        omega

/-- The precision is the number of significant digits. -/
theorem cmDec8CalcPrec_eq {dec : Dec8} (h : Canonical dec8CellMask dec.cells) :
    cmDec8CalcPrec dec = (dropZeros (cellsText dec.cells)).length := by
  obtain ⟨u0, rest, heq⟩ := List.exists_cons_of_ne_nil (ne_nil_of_canonical h)
  have hlt := h.lt
  have hhead := h.head
  rw [heq] at hlt hhead
  have hu0 : 0 < u0 := Nat.pos_of_ne_zero hhead
  obtain ⟨hu0lt, hrest⟩ := List.forall_mem_cons.mp hlt
  have hlast := lastCellPrec_spec hrest
  unfold dec8CellMask at hu0lt
  rw [cmDec8CalcPrec, heq]
  dsimp only
  rw [cellsText, dropZeros_append]
  cases hprec : lastCellPrec rest with
  | some prec =>
    rw [hprec] at hlast
    obtain ⟨hlength, hne⟩ := hlast
    dsimp only
    rw [if_neg hne, List.length_append, hlength, cmCountU32Digits_eq (by omega), Nat.add_comm]
  | none =>
    rw [hprec] at hlast
    dsimp only at hlast ⊢
    rw [if_pos hlast]
    obtain ⟨hr, hsplit⟩ := stripZeros_spec 10 hu0 (by omega)
    obtain ⟨hvalue, -⟩ := dropZeros_of_value (digits_toDigits u0) hr
      ((value_toDigits u0).trans hsplit)
    have hne : dropZeros (Nat.toDigits 10 u0) ≠ [] := by
      intro hnil
      rw [hnil, value_nil] at hvalue
      exact hr (by rw [← hvalue])
    have htext : Nat.toDigits 10 (stripZeros 10 u0).1 = dropZeros (Nat.toDigits 10 u0) := by
      rw [← hvalue]
      apply toDigits_value (digits_dropZeros (digits_toDigits u0)) hne
      rw [head?_dropZeros hne]
      exact head?_toDigits hu0
    have hle : (stripZeros 10 u0).1 ≤ u0 := by
      conv_rhs => rw [hsplit]
      exact Nat.le_mul_of_pos_right _ (Nat.pow_pos (by decide))
    rw [cmCountU32Digits_eq (by omega), htext]

/-! ## Printing cells -/

theorem readCell_of_lt {cells : List Nat} (hlength : cells.length ≤ dec8CellSize) {i : Nat}
    (h : i < cells.length) : readCell (fun i => cells[i]?) i = .ok cells[i] := by
  rw [readCell, checkCell8_of_lt (by omega), List.getElem?_eq_getElem h]
  rfl

theorem printCell_of_le {digits : List Char} (h : digits.length ≤ 8) :
    printCell digits = .ok digits := if_pos h

/-- The loop prints the cells, or enough of them. -/
theorem appendCells_spec {cells : List Nat} (hlt : ∀ c ∈ cells, c < dec8CellMask)
    (hlength : cells.length ≤ dec8CellSize) (maxLen : Nat) {k i : Nat} (hk : i + k = cells.length)
    (text : List Char) :
    ∃ out, appendCells (fun i => cells[i]?) maxLen k i text = .ok out ∧
      ∃ later, out ++ later = text ++ (cells.drop i).flatMap (fixed dec8CellDigit) ∧
        (maxLen ≤ out.length ∨ later = []) := by
  induction k generalizing i text with
  | zero =>
    refine ⟨text, rfl, [], ?_, Or.inr rfl⟩
    rw [List.drop_eq_nil_of_le (by omega)]
    rfl
  | succ k ih =>
    rw [appendCells]
    by_cases hroom : text.length < maxLen
    · have hi : i < cells.length := by omega
      have hcell : (fixed dec8CellDigit cells[i]).length = 8 :=
        length_fixed (by decide) (hlt _ (List.getElem_mem hi))
      obtain ⟨out, hout, later, heq, hend⟩ :=
        ih (i := i + 1) (by omega) (text ++ fixed dec8CellDigit cells[i])
      rw [if_pos hroom, readCell_of_lt hlength hi, result_bind_ok, printCell_of_le hcell.le,
        result_bind_ok]
      refine ⟨out, hout, later, ?_, hend⟩
      rw [heq, List.append_assoc, List.drop_eq_getElem_cons hi, List.flatMap_cons]
    · rw [if_neg hroom]
      exact ⟨text, rfl, _, rfl, Or.inl (by omega)⟩

/-- The first `m` digits of the cells, without zeros at the end. -/
theorem cmCell8sToText_eq {c : Nat} {rest : List Nat} (hlt : ∀ x ∈ c :: rest, x < dec8CellMask)
    (hc : 0 < c) (hlength : (c :: rest).length ≤ dec8CellSize) {m : Nat} (hm : 0 < m)
    (hmax : m < 2 ^ 32) :
    cmCell8sToText (fun i => (c :: rest)[i]?) (c :: rest).length m =
      .ok (dropZeros ((cellsText (c :: rest)).take m)) := by
  have hwrap : ((m : Int) % 2 ^ 32).toNat = m := by omega
  have hcell : (Nat.toDigits 10 c).length ≤ 8 :=
    (Nat.length_toDigits_le_iff (by decide) (by decide)).mpr (hlt c List.mem_cons_self)
  obtain ⟨out, hout, later, heq, hend⟩ := appendCells_spec hlt hlength m (k := rest.length) (i := 1)
    (Nat.add_comm _ _) (Nat.toDigits 10 c)
  have htake : (if m < out.length then out.take m else out) = (cellsText (c :: rest)).take m := by
    change out ++ later = cellsText (c :: rest) at heq
    rw [← heq]
    split
    · rw [List.take_append_of_le_length (by omega)]
    · rcases hend with hend | rfl
      · rw [List.take_append_of_le_length hend, List.take_of_length_le (by omega)]
      · rw [List.append_nil, List.take_of_length_le (by omega)]
  have hhead : ((cellsText (c :: rest)).take m).head? ≠ some '0' := by
    rw [List.head?_take, if_neg (by omega), cellsText,
      List.head?_append_of_ne_nil _ Nat.toDigits_ne_nil]
    exact head?_toDigits hc
  rw [cmCell8sToText, hwrap, readCell_of_lt hlength (Nat.succ_pos _), result_bind_ok,
    List.getElem_cons_zero, printCell_of_le hcell, result_bind_ok, List.length_cons,
    Nat.add_sub_cancel, hout, result_bind_ok, htake]
  generalize htext : (cellsText (c :: rest)).take m = text at hhead
  cases text with
  | nil =>
    have hne : (cellsText (c :: rest)).take m ≠ [] := by
      apply List.ne_nil_of_length_pos
      have hpos := Nat.length_toDigits_pos (b := 10) (n := c)
      rw [List.length_take, cellsText, List.length_append]
      omega
    exact absurd htext hne
  | cons d digits =>
    have hd : d ≠ '0' := fun hd => hhead (congrArg some hd)
    rw [dropZeros_cons _ hd]
    rfl

theorem cmCell8sToText_ne_nil {cells : CellMem} {ncell : Nat} {maxLen : Int} {text : List Char}
    (h : cmCell8sToText cells ncell maxLen = .ok text) : text ≠ [] := by
  rw [cmCell8sToText] at h
  obtain ⟨c0, -, h⟩ := result_bind_eq_ok.mp h
  obtain ⟨first, -, h⟩ := result_bind_eq_ok.mp h
  obtain ⟨out, -, h⟩ := result_bind_eq_ok.mp h
  dsimp only at h
  split at h
  · cases h
  · cases h
    exact List.cons_ne_nil _ _

/-! ## Carrying -/

theorem update_getElem? {cells : List Nat} {i : Nat} (h : i < cells.length) (c : Nat) :
    Function.update (fun j => cells[j]?) i (some c) = fun j => (cells.set i c)[j]? := by
  funext j
  by_cases hj : j = i
  · rw [hj, Function.update_self, List.getElem?_set_self h]
  · rw [Function.update_of_ne hj, List.getElem?_set_ne (fun h => hj h.symm)]

/-- A round of the carry loop. -/
theorem roundLoop_succ {cells : List Nat} (hlength : cells.length ≤ dec8CellSize) {i carry : Nat}
    (hi : i < cells.length) (hc : cells[i] < dec8CellMask) (hcarry : carry ≤ dec8CellMask) :
    roundLoop (i + 1) carry (fun j => cells[j]?) =
      if cells[i] + carry < dec8CellMask then
        .ok (false, fun j => (cells.set i (cells[i] + carry))[j]?)
      else roundLoop i 1 (fun j => (cells.set i (cells[i] + carry - dec8CellMask))[j]?) := by
  have hwrap : (cells[i] + carry) % 2 ^ 32 = cells[i] + carry := by
    apply Nat.mod_eq_of_lt
    unfold dec8CellMask at *
    omega
  rw [roundLoop, readCell_of_lt hlength hi, result_bind_ok]
  dsimp only
  rw [hwrap, update_getElem? hi, update_getElem? hi]
  rfl

theorem mem_set_lt {cells : List Nat} {b : Nat} (h : ∀ c ∈ cells, c < b) (i : Nat) {x : Nat}
    (hx : x < b) : ∀ c ∈ cells.set i x, c < b := by
  intro c hc
  rcases List.mem_or_eq_of_mem_set hc with hc | rfl
  · exact h c hc
  · exact hx

/-- **The carry loop** adds to a cell, and what does not fit is carried out of the first one. -/
theorem roundLoop_spec {cells : List Nat} (hlt : ∀ c ∈ cells, c < dec8CellMask)
    (hlength : cells.length ≤ dec8CellSize) {i : Nat} (hi : i < cells.length) {carry : Nat}
    (hcarry : carry ≤ dec8CellMask) :
    ∃ out cells', roundLoop (i + 1) carry (fun j => cells[j]?) = .ok (out, fun j => cells'[j]?) ∧
      cells'.length = cells.length ∧ (∀ c ∈ cells', c < dec8CellMask) ∧
      number dec8CellMask cells' + (if out then dec8CellMask ^ cells.length else 0) =
        number dec8CellMask cells + carry * dec8CellMask ^ (cells.length - 1 - i) := by
  induction i generalizing cells carry with
  | zero =>
    have hc := hlt _ (List.getElem_mem hi)
    rw [roundLoop_succ hlength hi hc hcarry]
    by_cases hfit : cells[0] + carry < dec8CellMask
    · rw [if_pos hfit]
      exact ⟨false, _, rfl, List.length_set, mem_set_lt hlt 0 hfit, number_set_add hi carry⟩
    · rw [if_neg hfit]
      refine ⟨true, _, rfl, List.length_set, mem_set_lt hlt 0 (by omega), ?_⟩
      exact number_set_carry hi (Nat.le_of_not_lt hfit)
  | succ i ih =>
    have hc := hlt _ (List.getElem_mem hi)
    rw [roundLoop_succ hlength hi hc hcarry]
    by_cases hfit : cells[i + 1] + carry < dec8CellMask
    · rw [if_pos hfit]
      exact ⟨false, _, rfl, List.length_set, mem_set_lt hlt (i + 1) hfit, number_set_add hi carry⟩
    · rw [if_neg hfit]
      have hlength' : (cells.set (i + 1) (cells[i + 1] + carry - dec8CellMask)).length =
          cells.length := List.length_set
      obtain ⟨out, cells', hrun, hlen, hlt', hnumber⟩ :=
        ih (mem_set_lt hlt (i + 1) (by omega)) (hlength'.trans_le hlength)
          (by rw [hlength']; omega) (show 1 ≤ dec8CellMask by decide)
      refine ⟨out, cells', hrun, hlen.trans hlength', hlt', ?_⟩
      have hset := number_set_carry hi (Nat.le_of_not_lt hfit)
      rw [show cells.length - (i + 1) = cells.length - 1 - i by omega] at hset
      rw [hlength', Nat.one_mul] at hnumber
      rw [hnumber, hset]

/-- The cells behind a new first one. -/
theorem cmDec8Rebuild_cells {cells : List Nat} (hlength : cells.length < dec8CellSize)
    {rs : Dec8Buf} (hncells : rs.ncells = cells.length) (hcells : rs.cells = fun i => cells[i]?)
    (cell0 : Nat) : (cmDec8Rebuild rs cell0).cells = fun i => (cell0 :: cells)[i]? := by
  unfold cmDec8Rebuild
  dsimp only
  rw [hncells, hcells, if_pos hlength]
  funext i
  cases i with
  | zero => rfl
  | succ i =>
    rw [if_neg (Nat.succ_ne_zero i), List.getElem?_cons_succ, Nat.add_sub_cancel]
    split
    · rfl
    · have hlast : cells[i + 1]? = none := List.getElem?_eq_none (by omega)
      exact hlast.trans (List.getElem?_eq_none (by omega)).symm

/-- The run of `cm_dec8_make_round` on a decimal that is copied. -/
theorem cmDec8MakeRound_run {dec : Dec8} (hncells : dec.cells.length ≤ 7) {pos : Nat}
    (hpos : pos < 8 * dec.cells.length) {carry : Bool} {cells : List Nat}
    (hrun : roundLoop (pos / dec8CellDigit + 1)
      (5 * 10 ^ (dec8CellDigit - pos % dec8CellDigit - 1)) dec.cellMem =
        .ok (carry, fun i => cells[i]?)) :
    cmDec8MakeRound dec pos = .ok (carry,
      if carry then cmDec8Rebuild ⟨dec.sign, dec.cells.length, dec.expn, fun i => cells[i]?⟩ 1
      else ⟨dec.sign, dec.cells.length, dec.expn, fun i => cells[i]?⟩) := by
  have hcopy : cmDec8Copy dec = ⟨dec.sign, dec.cells.length, dec.expn, dec.cellMem⟩ :=
    if_pos hncells
  have hroom : ¬dec8MaxAllowedPrec ≤ pos := by
    unfold dec8MaxAllowedPrec dec8CellSize dec8CellDigit
    omega
  rw [cmDec8MakeRound, hcopy]
  dsimp only
  rw [if_neg hroom, hrun]
  rfl

/-- A five is added at `pos`, counted in digits from the left of the first cell. -/
theorem cmDec8MakeRound_spec {dec : Dec8} (h : Canonical dec8CellMask dec.cells)
    (hncells : dec.cells.length ≤ 7) {pos : Nat} (hpos : pos < 8 * dec.cells.length) :
    ∃ carry dx c rest, cmDec8MakeRound dec pos = .ok (carry, dx) ∧
      dx.cells = (fun i => (c :: rest)[i]?) ∧ 0 < c ∧ (∀ x ∈ c :: rest, x < dec8CellMask) ∧
      (c :: rest).length = dec.cells.length + (if carry then 1 else 0) ∧
      number dec8CellMask (c :: rest) =
        number dec8CellMask dec.cells + 5 * 10 ^ (8 * dec.cells.length - 1 - pos) := by
  have hfive : 5 * 10 ^ (dec8CellDigit - pos % dec8CellDigit - 1) ≤ dec8CellMask := by
    have hpow : 10 ^ (dec8CellDigit - pos % dec8CellDigit - 1) ≤ 10 ^ 7 := by
      apply Nat.pow_le_pow_right (by decide)
      unfold dec8CellDigit
      omega
    unfold dec8CellMask
    omega
  have hi : pos / dec8CellDigit < dec.cells.length := by
    unfold dec8CellDigit
    omega
  obtain ⟨carry, cells, hrun, hlen, hlt, hnumber⟩ :=
    roundLoop_spec h.lt (by unfold dec8CellSize; omega) hi hfive
  have hmake := cmDec8MakeRound_run hncells hpos hrun
  have hplace : 5 * 10 ^ (dec8CellDigit - pos % dec8CellDigit - 1) *
      dec8CellMask ^ (dec.cells.length - 1 - pos / dec8CellDigit) =
        5 * 10 ^ (8 * dec.cells.length - 1 - pos) := by
    have hmask : dec8CellMask = 10 ^ 8 := rfl
    rw [hmask, ← Nat.pow_mul, Nat.mul_assoc, ← Nat.pow_add]
    unfold dec8CellDigit at hi ⊢
    exact congrArg (fun k => 5 * 10 ^ k) (by omega)
  rw [hplace] at hnumber
  cases carry with
  | true =>
    refine ⟨true, _, 1, cells, hmake, ?_, by decide, ?_, ?_, ?_⟩
    · exact cmDec8Rebuild_cells (by rw [hlen, dec8CellSize]; omega) hlen.symm rfl 1
    · exact List.forall_mem_cons.mpr ⟨by decide, hlt⟩
    · rw [List.length_cons, hlen, if_pos rfl]
    · rw [number_cons, hlen, ← hnumber, if_pos rfl, Nat.one_mul, Nat.add_comm]
  | false =>
    rw [if_neg Bool.false_ne_true, Nat.add_zero] at hnumber
    obtain ⟨c, rest, rfl⟩ := List.exists_cons_of_ne_nil
      (List.ne_nil_of_length_pos (hlen.symm ▸ h.length_pos))
    have hc : 0 < c := h.first_pos (by decide) (List.forall_mem_cons.mp hlt).2 hlen
      (hnumber ▸ Nat.le_add_right _ _)
    exact ⟨false, _, c, rest, hmake, rfl, hc, hlt, hlen, hnumber⟩

/-! ## Rounding -/

/-- `n / 10 ^ k`, rounded half up. -/
def roundHalfUp (n k : Nat) : Nat := (2 * n + 10 ^ k) / (2 * 10 ^ k)

theorem roundHalfUp_eq (n : Nat) {k : Nat} (hk : 0 < k) :
    roundHalfUp n k = (n + 5 * 10 ^ (k - 1)) / 10 ^ k := by
  have hpow : 10 ^ k = 10 * 10 ^ (k - 1) := by
    rw [← Nat.pow_succ', Nat.succ_eq_add_one, Nat.sub_add_cancel hk]
  have htwice : 2 * n + 10 ^ k = 2 * (n + 5 * 10 ^ (k - 1)) := by omega
  rw [roundHalfUp, htwice, Nat.mul_div_mul_left _ _ (by decide)]

/-- The digits of the cells, from the first one on. -/
def Dec8.digits (dec : Dec8) : List Char := Nat.toDigits 10 (number dec8CellMask dec.cells)

theorem Dec8.digits_eq {dec : Dec8} (h : Canonical dec8CellMask dec.cells) :
    dec.digits = cellsText dec.cells := by
  obtain ⟨c0, rest, heq⟩ := List.exists_cons_of_ne_nil (ne_nil_of_canonical h)
  have hlt := h.lt
  have hhead := h.head
  rw [heq] at hlt hhead
  have hpos : 0 < c0 := Nat.pos_of_ne_zero hhead
  rw [Dec8.digits, heq, cellsText_eq hpos fun x hx => hlt x (List.mem_cons_of_mem _ hx)]

/-- The first `m` digits of the decimal as a number, rounded half up. -/
def Dec8.rounded (dec : Dec8) (m : Nat) : Nat :=
  roundHalfUp (number dec8CellMask dec.cells) (dec.digits.length - m)

/-- The text is the first `maxLen` digits after rounding, without zeros at the end, and 1 is
returned for a carry into a new first digit. -/
def RoundsRight (dec : Dec8) (maxLen : Int) : Prop :=
  ∃ ret text, cmDec8RoundToText dec maxLen = .ok (ret, text) ∧
    text = dropZeros ((Nat.toDigits 10 (dec.rounded maxLen.toNat)).take maxLen.toNat) ∧
    (ret = 1 ↔ dec.rounded maxLen.toNat = 10 ^ maxLen.toNat) ∧ ret ≤ 1

theorem cmDec8RoundToText_ne_nil {dec : Dec8} {maxLen : Int} {ret : Nat} {text : List Char}
    (h : cmDec8RoundToText dec maxLen = .ok (ret, text)) : text ≠ [] := by
  unfold cmDec8RoundToText at h
  dsimp only at h
  split at h
  · obtain ⟨out, hout, h⟩ := result_bind_eq_ok.mp h
    cases h
    exact cmCell8sToText_ne_nil hout
  · obtain ⟨c0, -, h⟩ := result_bind_eq_ok.mp h
    obtain ⟨made, -, h⟩ := result_bind_eq_ok.mp h
    split at h
    · obtain ⟨out, hout, h⟩ := result_bind_eq_ok.mp h
      cases h
      exact cmCell8sToText_ne_nil hout
    · obtain ⟨out, hout, h⟩ := result_bind_eq_ok.mp h
      obtain ⟨c0, -, h⟩ := result_bind_eq_ok.mp h
      cases h
      exact cmCell8sToText_ne_nil hout

/-- What is known of a decimal whose precision is cut. -/
structure Cut (dec : Dec8) (c0 : Nat) (m : Nat) : Prop where
  cell0 : readCell dec.cellMem 0 = .ok c0
  cell0_pos : 0 < c0
  count : cmCountU32Digits c0 = (Nat.toDigits 10 c0).length
  count_le : cmCountU32Digits c0 ≤ 8
  digits : dec.digits.length = cmCountU32Digits c0 + 8 * (dec.cells.length - 1)
  below : m < dec.digits.length
  branch : ¬(cmDec8CalcPrec dec : Int) ≤ m

theorem cut_of_canonical {dec : Dec8} (h : Canonical dec8CellMask dec.cells)
    (hlength : dec.cells.length ≤ dec8CellSize) {m : Nat} (hm : m < cmDec8CalcPrec dec) :
    ∃ c0, Cut dec c0 m := by
  obtain ⟨c0, rest, heq⟩ := List.exists_cons_of_ne_nil (ne_nil_of_canonical h)
  have hlt := h.lt
  have hhead := h.head
  rw [heq] at hlt hhead
  have hpos : 0 < c0 := Nat.pos_of_ne_zero hhead
  obtain ⟨hc0, hrest⟩ := List.forall_mem_cons.mp hlt
  have hdigits := Dec8.digits_eq h
  have hcount : cmCountU32Digits c0 = (Nat.toDigits 10 c0).length := by
    apply cmCountU32Digits_eq
    unfold dec8CellMask at hc0
    omega
  have hprec := cmDec8CalcPrec_eq h
  have hle := (dropZeros_initial (cellsText dec.cells)).length_le
  refine ⟨c0, ?_, hpos, hcount, ?_, ?_, ?_, by omega⟩
  · have hread := readCell_of_lt hlength h.length_pos
    simp only [heq, List.getElem_cons_zero] at hread
    unfold Dec8.cellMem
    rw [heq]
    exact hread
  · rw [hcount]
    exact (Nat.length_toDigits_le_iff (by decide) (by decide)).mpr hc0
  · rw [hdigits, heq, cellsText, List.length_append, length_flatMap_fixed hrest, hcount,
      List.length_cons, Nat.add_sub_cancel]
  · rw [hdigits]
    omega

section

variable {dec : Dec8} {c0 m : Nat}

/-- Where the five is added. -/
theorem Cut.pos_eq (hcut : Cut dec c0 m) (hcells : 0 < dec.cells.length)
    (hlength : dec.cells.length ≤ dec8CellSize) :
    (((m : Int) + dec8CellDigit - cmCountU32Digits c0) % 2 ^ 32).toNat =
        m + 8 - cmCountU32Digits c0 ∧
      m + 8 - cmCountU32Digits c0 < 8 * dec.cells.length := by
  obtain ⟨-, -, -, hle, hdigits, hbelow, -⟩ := hcut
  unfold dec8CellSize dec8CellDigit at *
  omega

/-- The sum that is rounded down: it is not smaller than the digits that are kept, and it has at
most one digit more than the decimal. -/
theorem sum_bounds (hbelow : m < dec.digits.length) (hm : 0 < m) :
    let sum := number dec8CellMask dec.cells + 5 * 10 ^ (dec.digits.length - m - 1)
    10 ^ (dec.digits.length - m) ≤ sum ∧
      sum < 10 ^ dec.digits.length + 10 ^ (dec.digits.length - m) ∧
      dec.digits.length ≤ (Nat.toDigits 10 sum).length := by
  dsimp only
  generalize hn : number dec8CellMask dec.cells = n
  have hlength : dec.digits.length = (Nat.toDigits 10 n).length := by rw [Dec8.digits, hn]
  rw [hlength] at hbelow ⊢
  obtain ⟨d, hd⟩ : ∃ d, (Nat.toDigits 10 n).length = d + 1 :=
    ⟨_, (Nat.sub_add_cancel (by omega)).symm⟩
  have hlow : 10 ^ d ≤ n := (lt_length_toDigits_iff (by omega)).mp (by omega)
  have hhigh : n < 10 ^ (d + 1) := (Nat.length_toDigits_le_iff (by decide) (by omega)).mp (by omega)
  rw [hd] at hbelow ⊢
  have hkept : 10 ^ (d + 1 - m) ≤ 10 ^ d := Nat.pow_le_pow_right (by decide) (by omega)
  have hfive : 10 ^ (d + 1 - m) = 10 * 10 ^ (d + 1 - m - 1) := by
    rw [← Nat.pow_succ', Nat.succ_eq_add_one, Nat.sub_add_cancel (by omega)]
  refine ⟨by omega, by omega, ?_⟩
  exact (lt_length_toDigits_iff (by omega)).mpr (by omega)

/-- The first digits of the sum are those of the rounded number, and a new first digit of the sum
is a carry into the power of ten. -/
theorem rounded_of_sum (hbelow : m < dec.digits.length) (hm : 0 < m) :
    let sum := number dec8CellMask dec.cells + 5 * 10 ^ (dec.digits.length - m - 1)
    (Nat.toDigits 10 (dec.rounded m)).take m = (Nat.toDigits 10 sum).take m ∧
      (dec.rounded m = 10 ^ m ↔ dec.digits.length < (Nat.toDigits 10 sum).length) := by
  obtain ⟨hkept, hmost, hlength⟩ := sum_bounds hbelow hm
  dsimp only at hkept hmost hlength ⊢
  have hrounded : dec.rounded m = (number dec8CellMask dec.cells +
      5 * 10 ^ (dec.digits.length - m - 1)) / 10 ^ (dec.digits.length - m) :=
    roundHalfUp_eq _ (by omega)
  rw [hrounded]
  generalize number dec8CellMask dec.cells + 5 * 10 ^ (dec.digits.length - m - 1) = sum at *
  obtain ⟨k, hk⟩ : ∃ k, dec.digits.length = m + k := ⟨_, (Nat.add_sub_cancel' hbelow.le).symm⟩
  rw [hk] at hkept hmost hlength ⊢
  rw [Nat.add_sub_cancel_left] at *
  have hpow : 0 < 10 ^ k := Nat.pow_pos (by decide)
  constructor
  · rw [← toDigits_take hkept, List.take_take, Nat.min_eq_left (by omega)]
  · rw [lt_length_toDigits_iff (by omega), Nat.pow_add]
    rw [Nat.pow_add] at hmost
    constructor
    · intro heq
      rw [← heq]
      exact Nat.div_mul_le_self _ _
    · intro hle
      apply Nat.le_antisymm
      · rw [← Nat.lt_succ_iff, Nat.div_lt_iff_lt_mul hpow, Nat.succ_mul]
        exact hmost
      · exact (Nat.le_div_iff_mul_le hpow).mpr hle

/-- Up to seven cells are copied, and rounded right. -/
theorem roundsRight_of_le_seven (h : Canonical dec8CellMask dec.cells)
    (hncells : dec.cells.length ≤ 7) (hm : 0 < m) (hmax : m < cmDec8CalcPrec dec) :
    RoundsRight dec m := by
  have hlength : dec.cells.length ≤ dec8CellSize := hncells.trans (by decide)
  obtain ⟨c0, hcut⟩ := cut_of_canonical h hlength hmax
  obtain ⟨hpos, hplace⟩ := hcut.pos_eq h.length_pos hlength
  obtain ⟨carry, dx, c, rest, hmake, hcells, hc, hlt, hlen, hnumber⟩ :=
    cmDec8MakeRound_spec h hncells hplace
  obtain ⟨hread, -, hcount, hcountLe, hdigits, hbelow, hbranch⟩ := hcut
  have hpower : 8 * dec.cells.length - 1 - (m + 8 - cmCountU32Digits c0) =
      dec.digits.length - m - 1 := by
    have hpos := h.length_pos
    omega
  rw [hpower] at hnumber
  obtain ⟨htake, hflag⟩ := rounded_of_sum hbelow hm
  rw [← hnumber] at htake hflag
  obtain ⟨hcLt, hrestLt⟩ := List.forall_mem_cons.mp hlt
  have hsize : (c :: rest).length ≤ dec8CellSize := by
    rw [hlen]
    unfold dec8CellSize
    split <;> omega
  have htext := cmCell8sToText_eq hlt hc hsize hm (by
    unfold dec8CellSize at hlength
    omega)
  have hsum := cellsText_eq hc hrestLt
  have hsumLength : (Nat.toDigits 10 (number dec8CellMask (c :: rest))).length =
      (Nat.toDigits 10 c).length + 8 * rest.length := by
    rw [← hsum, cellsText, List.length_append, length_flatMap_fixed hrestLt]
  rw [hsum, ← htake, ← hcells] at htext
  rw [hlen] at htext
  rw [List.length_cons] at hlen
  unfold RoundsRight cmDec8RoundToText
  rw [Int.toNat_natCast, hflag, hsumLength, if_neg hbranch, hread, result_bind_ok]
  dsimp only
  rw [hpos, hmake, result_bind_ok]
  dsimp only
  cases carry with
  | true =>
    rw [if_pos rfl] at hlen htext ⊢
    rw [htext]
    refine ⟨1, _, rfl, rfl, iff_of_true rfl ?_, Nat.le_refl _⟩
    have hpos := Nat.length_toDigits_pos (b := 10) (n := c)
    omega
  | false =>
    rw [if_neg Bool.false_ne_true] at hlen htext ⊢
    rw [Nat.add_zero] at htext
    have hc0 : readCell dx.cells 0 = .ok c := by
      rw [hcells, readCell_of_lt hsize (Nat.succ_pos _), List.getElem_cons_zero]
    have hcountC : cmCountU32Digits c = (Nat.toDigits 10 c).length := by
      apply cmCountU32Digits_eq
      unfold dec8CellMask at hcLt
      omega
    rw [htext, result_bind_ok, hc0, result_bind_ok, hcountC]
    refine ⟨_, _, rfl, rfl, ?_, ?_⟩
    · split
      · exact iff_of_true rfl (by omega)
      · exact iff_of_false (by decide) (by omega)
    · split <;> omega

/-- More cells are not copied, and the first one that is read is not initialised. -/
theorem cmDec8RoundToText_of_gt_seven (h : Canonical dec8CellMask dec.cells)
    (hlength : dec.cells.length ≤ dec8CellSize) (hncells : 7 < dec.cells.length)
    (hmax : m < cmDec8CalcPrec dec) : cmDec8RoundToText dec m = .error .undefined := by
  obtain ⟨c0, hcut⟩ := cut_of_canonical h hlength hmax
  obtain ⟨hpos, hplace⟩ := hcut.pos_eq h.length_pos hlength
  have hcopy : cmDec8Copy dec = ⟨false, 0, 0, fun _ => none⟩ := if_neg (by omega)
  have hmake : cmDec8MakeRound dec (m + 8 - cmCountU32Digits c0) = .error .undefined := by
    have hroom : ¬dec8MaxAllowedPrec ≤ m + 8 - cmCountU32Digits c0 := by
      unfold dec8MaxAllowedPrec dec8CellSize dec8CellDigit at *
      omega
    have hcell : (m + 8 - cmCountU32Digits c0) / dec8CellDigit < dec8CellSize := by
      unfold dec8CellSize dec8CellDigit at *
      omega
    rw [cmDec8MakeRound, hcopy]
    dsimp only
    rw [if_neg hroom, roundLoop, readCell, checkCell8_of_lt hcell]
    rfl
  unfold cmDec8RoundToText
  rw [if_neg hcut.branch, hcut.cell0, result_bind_ok]
  dsimp only
  rw [hpos, hmake]
  rfl

end

/-- **Rounding is right** exactly for a positive length and at most seven cells. -/
theorem cmDec8RoundToText_right_iff (dec : Dec8) (h : Canonical dec8CellMask dec.cells)
    (hlength : dec.cells.length ≤ dec8CellSize) {maxLen : Int}
    (hmax : maxLen < cmDec8CalcPrec dec) :
    RoundsRight dec maxLen ↔ 0 < maxLen ∧ dec.cells.length ≤ 7 := by
  constructor
  · rintro ⟨ret, text, hrun, htext, -⟩
    have hpos : 0 < maxLen := by
      by_contra hneg
      have hzero : maxLen.toNat = 0 := by omega
      rw [hzero, List.take_zero] at htext
      exact cmDec8RoundToText_ne_nil hrun htext
    refine ⟨hpos, ?_⟩
    by_contra hncells
    obtain ⟨m, rfl⟩ := Int.eq_ofNat_of_zero_le hpos.le
    rw [cmDec8RoundToText_of_gt_seven h hlength (by omega) (by omega)] at hrun
    cases hrun
  · rintro ⟨hpos, hncells⟩
    obtain ⟨m, rfl⟩ := Int.eq_ofNat_of_zero_le hpos.le
    exact roundsRight_of_le_seven h hncells (by omega) (by omega)

/-- `99999.999 * 10 ^ 8`, in two cells, rounded to seven digits. -/
theorem cmDec8RoundToText_right_nines :
    RoundsRight ⟨false, 1, [99999, 99900000]⟩ 7 := by
  have h : Canonical dec8CellMask [99999, 99900000] := ⟨by decide, by decide, by decide⟩
  exact (cmDec8RoundToText_right_iff ⟨false, 1, [99999, 99900000]⟩ h (by decide)
    (by decide)).mpr ⟨by decide, by decide⟩

/-- Eight cells of ones, rounded to ten digits. -/
theorem cmDec8RoundToText_wrong_eight :
    ¬RoundsRight ⟨false, 0, List.replicate 8 11111111⟩ 10 := by
  rintro ⟨ret, text, hrun, -⟩
  have hundefined : cmDec8RoundToText ⟨false, 0, List.replicate 8 11111111⟩ 10 =
      .error .undefined := by
    apply cmDec8RoundToText_of_gt_seven (m := 10)
    · exact ⟨by decide, by decide, by decide⟩
    · decide
    · decide
    · decide
  rw [hundefined] at hrun
  cases hrun

end CantianConnector.Convert
