import CantianConnector.Convert.Field
import CantianConnector.Lib.Bytes
import CantianConnector.Lib.Memory
import CantianConnector.Lib.Numerals
import Mathlib.Data.List.TakeWhile

/-!
# The text of a string default

A default is sent to the engine as a text, in a block of the request's buffer
(`ctc_ddl_alloc_mem`). `ctc_process_string_default_value` doubles the quotes of a string, and writes
the bytes of a BLOB in hexadecimal, each over the end of the one before: a byte from 128 on takes
eight digits if `char` is signed (`blobText_right_iff`). `ctc_get_string_default_value` takes the
string of a VARCHAR from its record image, behind one length byte (`varcharText_right_iff`).
-/

namespace CantianConnector.Ddl

open CantianConnector.Convert Numerals

/-! ## The buffer of a request -/

/-- The buffer of a DDL request: the memory that is left lies between `mem_start` and `mem_end`. -/
structure DdlMem where
  mem : Mem UInt8
  memStart : Nat
  memEnd : Nat

/-- `ctc_ddl_alloc_mem`. -/
def ctcDdlAllocMem (mallocSize : Nat) (st : DdlMem) : Option (Nat × DdlMem) :=
  if st.memStart + mallocSize ≥ st.memEnd then none
  else some (st.memStart, { st with memStart := st.memStart + mallocSize })

/-- Cells are stored at an address. -/
def DdlMem.store (st : DdlMem) (p : Nat) (cells : List UInt8) : DdlMem :=
  { st with mem := st.mem.write p cells }

/-- `sprintf`: the text and its terminator. -/
def DdlMem.sprintf (st : DdlMem) (p : Nat) (text : List UInt8) : DdlMem := st.store p (text ++ [0])

/-- The bytes of a C string. -/
def cString (bytes : List UInt8) : List UInt8 := bytes.takeWhile fun b => b != 0

/-- `strncpy` of `n` bytes. -/
def DdlMem.strncpy (st : DdlMem) (p : Nat) (src : List UInt8) (n : Nat) : DdlMem :=
  let text := (cString src).take n
  st.store p (text ++ List.replicate (n - text.length) 0)

/-! ## The functions -/

/-- `replace_all(expr_str, "'", "''")`. -/
def doubleQuotes (exprStr : List UInt8) : List UInt8 :=
  exprStr.flatMap fun c => if c = 39 then [39, 39] else [c]

/-- The text of `%02X` for a `char`, which is an `int` and then read as `unsigned`. -/
def percent02X (charSigned : Bool) (ch : UInt8) : List UInt8 :=
  let value := if charSigned ∧ 128 ≤ ch.toNat then 2 ^ 32 - 256 + ch.toNat else ch.toNat
  (hex value).leftpad 2 48

/-- The loop over the bytes of a BLOB: the position behind the last one. -/
def hexLoop (charSigned : Bool) (defaultText : Nat) :
    List UInt8 → Nat → DdlMem → Nat × DdlMem
  | [], pos, st => (pos, st)
  | ch :: exprStr, pos, st =>
    hexLoop charSigned defaultText exprStr (pos + 2)
      (st.sprintf (defaultText + pos) (percent02X charSigned ch))

/-- `ctc_process_string_default_value`: `default_text`, or `none` if it fails. -/
def ctcProcessStringDefaultValue (charSigned : Bool) (exprStr : List UInt8) (isBlobType : Bool)
    (st : DdlMem) : Option (Nat × DdlMem) :=
  if !isBlobType then do
    let exprStr := doubleQuotes exprStr
    let (defaultText, st) ← ctcDdlAllocMem (exprStr.length + 1) st
    return (defaultText, st.strncpy defaultText exprStr (exprStr.length + 1))
  else do
    let (defaultText, st) ← ctcDdlAllocMem (exprStr.length * 2 + 1) st
    let (pos, st) := hexLoop charSigned defaultText exprStr 0 st
    return (defaultText, st.store (defaultText + pos) [0])

/-- Where the default of a string column comes from. -/
structure StringColumn where
  /-- `field->real_type()`. -/
  realType : FieldType
  /-- `col_obj->default_value()`. -/
  defaultValue : List UInt8
  /-- The value of `m_default_val_expr`, if there is one. -/
  defaultValExpr : Option (List UInt8)
  /-- In ALTER TABLE (`fld` is set): the value of `fld->constant_default`, if there is one. -/
  constantDefault : Option (Option (List UInt8))
  isClob : Bool
  /-- `column->datatype->size`. -/
  size : Nat
  mbmaxlen : Nat
  numchars : List UInt8 → Nat

/-- `ctc_verify_string_default_length`. -/
def ctcVerifyStringDefaultLength (column : StringColumn) (defaultStr : List UInt8) : Bool :=
  column.isClob || decide (column.numchars defaultStr ≤ column.size / column.mbmaxlen)

/-- `field_default_string` of `ctc_get_string_default_value`; `none` if the length is refused. -/
def fieldDefaultString (column : StringColumn) (isBlobType : Bool) : Option (List UInt8) :=
  match column.constantDefault with
  | none =>
    match column.defaultValExpr with
    | none =>
      if column.realType = .string then some column.defaultValue
      else some (column.defaultValue.drop 1)
    | some value =>
      if !isBlobType && !ctcVerifyStringDefaultLength column value then none else some value
  | some constantDefault => do
    let value ← constantDefault <|> column.defaultValExpr
    if !ctcVerifyStringDefaultLength column value then none else some value

/-- `ctc_get_string_default_value`. -/
def ctcGetStringDefaultValue (charSigned : Bool) (column : StringColumn) (isBlobType : Bool)
    (st : DdlMem) : Option (Nat × DdlMem) := do
  let fieldDefaultString ← fieldDefaultString column isBlobType
  ctcProcessStringDefaultValue charSigned (cString fieldDefaultString) isBlobType st

/-! ## Right texts -/

/-- Whenever the function succeeds, its pointer is to a text with this meaning, and it has written
only into the memory that it has taken. -/
def TextRight (f : DdlMem → Option (Nat × DdlMem)) (Means : List UInt8 → Prop) : Prop :=
  ∀ st p st', f st = some (p, st') →
    (∃ text, Means text ∧ Mem.Terminated 0 st'.mem p text) ∧
      ∀ a, a < st.memStart ∨ st'.memStart ≤ a → st'.mem a = st.mem a

theorem ctcDdlAllocMem_some {size : Nat} {st st' : DdlMem} {p : Nat}
    (h : ctcDdlAllocMem size st = some (p, st')) :
    p = st.memStart ∧ st' = { st with memStart := st.memStart + size } := by
  unfold ctcDdlAllocMem at h
  split at h
  · cases h
  · obtain ⟨rfl, rfl⟩ := Prod.mk.inj (Option.some.inj h)
    exact ⟨rfl, rfl⟩

/-- A buffer with room for a block is given. -/
theorem ctcDdlAllocMem_room (mem : Mem UInt8) (p size : Nat) :
    ctcDdlAllocMem size ⟨mem, p, p + size + 1⟩ = some (p, ⟨mem, p + size, p + size + 1⟩) := by
  simp [ctcDdlAllocMem]

/-- The stores `ws p` into the block at `p`. -/
def storesAt (ws : Nat → List (Nat × List UInt8)) (block : Nat × DdlMem) : Nat × DdlMem :=
  (block.1, { block.2 with mem := block.2.mem.writes (ws block.1) })

/-- **A function that takes a block and makes some stores** is right exactly if the text that they
leave has the meaning and none of them goes past the block. -/
theorem textRight_iff {f : DdlMem → Option (Nat × DdlMem)} {size : Nat}
    {ws : Nat → List (Nat × List UInt8)}
    (hf : ∀ st, f st = (ctcDdlAllocMem size st).map (storesAt ws))
    {text : List UInt8} (htext : ∀ (m : Mem UInt8) p, Mem.Terminated 0 (m.writes (ws p)) p text)
    (Means : List UInt8 → Prop) :
    TextRight f Means ↔
      Means text ∧ ∀ p a, a < p ∨ p + size ≤ a → ¬Mem.Covers (ws p) a := by
  have : Nontrivial UInt8 := ⟨0, 1, by decide⟩
  constructor
  · intro hright
    have hroom : ∀ (mem : Mem UInt8) p, f ⟨mem, p, p + size + 1⟩ =
        some (p, ⟨mem.writes (ws p), p + size, p + size + 1⟩) := by
      intro mem p
      rw [hf, ctcDdlAllocMem_room]
      rfl
    constructor
    · obtain ⟨⟨text', hmeans, hterminated⟩, -⟩ := hright _ _ _ (hroom (fun _ => 0) 0)
      exact (hterminated.unique (htext _ 0)) ▸ hmeans
    · intro p a ha
      rw [← Mem.writes_frame_iff]
      intro mem
      exact (hright _ _ _ (hroom mem p)).2 a ha
  · rintro ⟨hmeans, hinside⟩ st p st' h
    rw [hf, Option.map_eq_some_iff] at h
    obtain ⟨⟨q, st₁⟩, halloc, heq⟩ := h
    obtain ⟨rfl, rfl⟩ := ctcDdlAllocMem_some halloc
    obtain ⟨rfl, rfl⟩ := Prod.mk.inj heq
    exact ⟨⟨text, hmeans, htext _ _⟩, fun a ha => Mem.writes_of_not_covers (hinside _ a ha)⟩

/-! ## Strings -/

theorem cString_eq_self {bytes : List UInt8} (h : 0 ∉ bytes) : cString bytes = bytes := by
  refine List.takeWhile_eq_self_iff.mpr fun b hb => ?_
  rw [bne_iff_ne]
  rintro rfl
  exact h hb

theorem zero_not_mem_cString (bytes : List UInt8) : 0 ∉ cString bytes := by
  intro hzero
  have hne := List.mem_takeWhile_imp hzero
  cases hne

theorem zero_not_mem_doubleQuotes {exprStr : List UInt8} (h : 0 ∉ exprStr) :
    0 ∉ doubleQuotes exprStr := by
  intro hzero
  obtain ⟨c, hc, hmem⟩ := List.mem_flatMap.mp hzero
  split at hmem
  · cases hmem with
    | tail _ hmem => cases hmem with
      | tail _ hmem => cases hmem
  · rw [List.mem_singleton.mp hmem] at h
    exact h hc

/-- `strncpy` of a string with its terminator. -/
theorem DdlMem.strncpy_eq {src : List UInt8} (h : 0 ∉ src) (st : DdlMem) (p : Nat) :
    st.strncpy p src (src.length + 1) = st.sprintf p src := by
  unfold strncpy sprintf
  rw [cString_eq_self h, List.take_of_length_le (Nat.le_succ _)]
  dsimp only
  rw [Nat.add_sub_cancel_left]
  rfl

/-- A text that is stored with its terminator. -/
theorem terminated_write {text : List UInt8} (h : 0 ∉ text) (m : Mem UInt8) (p : Nat) :
    Mem.Terminated 0 (m.write p (text ++ [0])) p text := by
  refine ⟨h, ?_⟩
  have hread := Mem.read_write_same m p (text ++ [0])
  rwa [List.length_append, List.length_singleton] at hread

/-- A function that stores a text in a block that is large enough for it. -/
theorem textRight_sprintf_iff {f : DdlMem → Option (Nat × DdlMem)} {size : Nat} {text : List UInt8}
    (hf : ∀ st, f st = (ctcDdlAllocMem size st).map (storesAt fun p => [(p, text ++ [0])]))
    (hzero : 0 ∉ text) (hsize : text.length < size) (Means : List UInt8 → Prop) :
    TextRight f Means ↔ Means text := by
  have htext : ∀ (m : Mem UInt8) p, Mem.Terminated 0 (m.writes [(p, text ++ [0])]) p text :=
    fun m p => terminated_write hzero m p
  rw [textRight_iff hf htext]
  refine and_iff_left ?_
  rintro p a ha ⟨w, hw, hlow, hhigh⟩
  rw [List.mem_singleton.mp hw] at hlow hhigh
  rw [List.length_append, List.length_singleton] at hhigh
  dsimp only at hlow hhigh
  omega

/-- **A string** is right exactly if the string with doubled quotes is. -/
theorem stringText_right_iff (charSigned : Bool) {exprStr : List UInt8} (h : 0 ∉ exprStr)
    (Means : List UInt8 → Prop) :
    TextRight (ctcProcessStringDefaultValue charSigned exprStr false) Means ↔
      Means (doubleQuotes exprStr) := by
  have hzero := zero_not_mem_doubleQuotes h
  have hf : ∀ st, ctcProcessStringDefaultValue charSigned exprStr false st =
      (ctcDdlAllocMem ((doubleQuotes exprStr).length + 1) st).map
        (storesAt fun p => [(p, doubleQuotes exprStr ++ [0])]) := by
    intro st
    show (ctcDdlAllocMem ((doubleQuotes exprStr).length + 1) st).bind _ = _
    cases ctcDdlAllocMem ((doubleQuotes exprStr).length + 1) st with
    | none => rfl
    | some block =>
      obtain ⟨p, st⟩ := block
      show some (p, st.strncpy p (doubleQuotes exprStr) _) = _
      rw [DdlMem.strncpy_eq hzero]
      rfl
  exact textRight_sprintf_iff hf hzero (Nat.lt_succ_self _) Means

/-! ## BLOBs -/

/-- Is the byte a negative `char`? -/
def negativeChar (charSigned : Bool) (b : UInt8) : Bool := charSigned && decide (128 ≤ b.toNat)

/-- A negative `char` takes eight digits, the first six of them `F`. -/
theorem percent02X_eq (charSigned : Bool) (b : UInt8) :
    percent02X charSigned b =
      (if negativeChar charSigned b then [70, 70, 70, 70, 70, 70] else []) ++ hexPair b := by
  have hb : b.toNat < 256 := b.toNat_lt
  unfold percent02X negativeChar
  by_cases h : charSigned = true ∧ 128 ≤ b.toNat
  · have hpair : hex (2 ^ 32 - 256 + b.toNat) = [70, 70, 70, 70, 70, 70] ++ hexPair b := by
      have hlow : (2 ^ 32 - 256 + b.toNat) % 16 = b.toNat % 16 := by omega
      have hhigh : (2 ^ 32 - 256 + b.toNat) / 16 % 16 = b.toNat / 16 := by omega
      have hrest : (2 ^ 32 - 256 + b.toNat) / 16 / 16 = 16777215 := by omega
      rw [hex_of_le (by omega), hex_of_le (by omega), hlow, hhigh, hrest]
      rfl
    rw [if_pos h, if_pos (by simp [h])]
    dsimp only
    rw [hpair]
    rfl
  · rw [if_neg h, if_neg (by simpa using h)]
    exact leftpad_hex b

/-- The stores of the loop from position `pos` on. -/
def hexStores (charSigned : Bool) (defaultText : Nat) : List UInt8 → Nat → List (Nat × List UInt8)
  | [], _ => []
  | ch :: exprStr, pos =>
    (defaultText + pos, percent02X charSigned ch ++ [0]) ::
      hexStores charSigned defaultText exprStr (pos + 2)

/-- **Run of the loop.** -/
theorem hexLoop_eq (charSigned : Bool) (defaultText : Nat) (exprStr : List UInt8) (pos : Nat)
    (st : DdlMem) :
    hexLoop charSigned defaultText exprStr pos st =
      (pos + exprStr.length * 2,
        { st with mem := st.mem.writes (hexStores charSigned defaultText exprStr pos) }) := by
  induction exprStr generalizing pos st with
  | nil => rfl
  | cons ch exprStr ih =>
    rw [hexLoop, ih, List.length_cons, Nat.succ_mul, Nat.add_assoc, Nat.add_comm 2]
    rfl

/-- What is left of a byte after the next one has been written over its end. -/
def shownByte (charSigned : Bool) (b : UInt8) : UInt8 := if negativeChar charSigned b then 255 else b

theorem percent02X_take (charSigned : Bool) (b : UInt8) :
    (percent02X charSigned b ++ [0]).take 2 = hexPair (shownByte charSigned b) := by
  rw [percent02X_eq, shownByte]
  split <;> rfl

theorem length_percent02X (charSigned : Bool) (b : UInt8) :
    (percent02X charSigned b ++ [0]).length = if negativeChar charSigned b then 9 else 3 := by
  rw [percent02X_eq]
  split <;> rfl

section

variable {charSigned : Bool} {defaultText : Nat}

theorem mem_hexStores {exprStr : List UInt8} {pos : Nat} {w : Nat × List UInt8} :
    w ∈ hexStores charSigned defaultText exprStr pos ↔ ∃ k b, exprStr[k]? = some b ∧
      w = (defaultText + (pos + k * 2), percent02X charSigned b ++ [0]) := by
  induction exprStr generalizing pos with
  | nil => simp [hexStores]
  | cons ch exprStr ih =>
    rw [hexStores, List.mem_cons, ih]
    constructor
    · rintro (rfl | ⟨k, b, hb, rfl⟩)
      · exact ⟨0, ch, rfl, by rw [Nat.zero_mul, Nat.add_zero]⟩
      · exact ⟨k + 1, b, hb, by rw [Nat.succ_mul, Nat.add_assoc, Nat.add_comm (k * 2)]⟩
    · rintro ⟨k, b, hb, rfl⟩
      cases k with
      | zero =>
        rw [List.getElem?_cons_zero, Option.some.injEq] at hb
        exact Or.inl (by rw [hb, Nat.zero_mul, Nat.add_zero])
      | succ k =>
        exact Or.inr ⟨k, b, hb, by rw [Nat.succ_mul, Nat.add_assoc, Nat.add_comm (k * 2)]⟩

/-- Nothing is stored in front of the position. -/
theorem not_covers_hexStores {exprStr : List UInt8} {pos a : Nat} (ha : a < defaultText + pos) :
    ¬Mem.Covers (hexStores charSigned defaultText exprStr pos) a := by
  rintro ⟨w, hw, hlow, -⟩
  obtain ⟨k, b, -, rfl⟩ := mem_hexStores.mp hw
  dsimp only at hlow
  omega

/-- **Run of the loop:** two digits of every byte are left. -/
theorem read_hexStores (m : Mem UInt8) (exprStr : List UInt8) (pos : Nat) :
    (m.writes (hexStores charSigned defaultText exprStr pos)).read (defaultText + pos)
        (exprStr.length * 2) =
      (exprStr.map (shownByte charSigned)).flatMap hexPair := by
  induction exprStr generalizing pos m with
  | nil => rfl
  | cons ch exprStr ih =>
    have hlength : 2 ≤ (percent02X charSigned ch ++ [0]).length := by
      rw [length_percent02X]
      split <;> decide
    have hhead : (m.writes (hexStores charSigned defaultText (ch :: exprStr) pos)).read
        (defaultText + pos) 2 = hexPair (shownByte charSigned ch) := by
      rw [hexStores, Mem.writes_cons, ← percent02X_take, ← Mem.read_write_take hlength]
      exact Mem.read_congr fun a _ ha => Mem.writes_of_not_covers (not_covers_hexStores (by omega))
    have hcount : (ch :: exprStr).length * 2 = 2 + exprStr.length * 2 := by
      rw [List.length_cons]
      omega
    rw [hcount, Mem.read_add, hhead, List.map_cons, List.flatMap_cons]
    exact congrArg _ (ih _ (pos + 2))

end

/-- The stores of a BLOB default. -/
def blobStores (charSigned : Bool) (exprStr : List UInt8) (p : Nat) : List (Nat × List UInt8) :=
  hexStores charSigned p exprStr 0 ++ [(p + exprStr.length * 2, [0])]

theorem ctcProcessStringDefaultValue_blob (charSigned : Bool) (exprStr : List UInt8)
    (st : DdlMem) :
    ctcProcessStringDefaultValue charSigned exprStr true st =
      (ctcDdlAllocMem (exprStr.length * 2 + 1) st).map (storesAt (blobStores charSigned exprStr)) := by
  show (ctcDdlAllocMem (exprStr.length * 2 + 1) st).bind _ = _
  cases ctcDdlAllocMem (exprStr.length * 2 + 1) st with
  | none => rfl
  | some block =>
    obtain ⟨p, st⟩ := block
    dsimp only [Option.bind_some, Option.map_some]
    rw [hexLoop_eq, Nat.zero_add, storesAt, blobStores]
    dsimp only
    rw [Mem.writes_append]
    rfl

/-- The text of a BLOB default: the digits of the bytes that are left. -/
theorem terminated_blobStores (charSigned : Bool) (exprStr : List UInt8) (m : Mem UInt8) (p : Nat) :
    Mem.Terminated 0 (m.writes (blobStores charSigned exprStr p)) p
      ((exprStr.map (shownByte charSigned)).flatMap hexPair) := by
  refine ⟨zero_not_mem_hexPairs _, ?_⟩
  have hdigits : (m.writes (hexStores charSigned p exprStr 0)).read p (exprStr.length * 2) =
    (exprStr.map (shownByte charSigned)).flatMap hexPair := read_hexStores m exprStr 0
  rw [← hdigits, Mem.length_read, Mem.read_add, blobStores, Mem.writes_append, Mem.writes_cons]
  refine congrArg₂ _ ?_ ?_
  · exact Mem.read_write_disjoint (Or.inl (Nat.le_refl _))
  · exact Mem.read_write_same' rfl

/-- The stores of a BLOB default stay inside its block exactly if every negative `char` has three
bytes behind it. -/
theorem blobStores_inside_iff (charSigned : Bool) (exprStr : List UInt8) :
    (∀ p a, a < p ∨ p + (exprStr.length * 2 + 1) ≤ a →
        ¬Mem.Covers (blobStores charSigned exprStr p) a) ↔
      ∀ k b, exprStr[k]? = some b → negativeChar charSigned b = true → k + 4 ≤ exprStr.length := by
  constructor
  · intro h k b hb hnegative
    by_contra hlast
    refine h 0 (k * 2 + 8) (Or.inr (by omega)) ⟨_, List.mem_append_left _
      (mem_hexStores.mpr ⟨k, b, hb, rfl⟩), ?_, ?_⟩
    · dsimp only
      omega
    · rw [length_percent02X, if_pos hnegative]
      dsimp only
      omega
  · rintro h p a ha ⟨w, hw, hlow, hhigh⟩
    rcases List.mem_append.mp hw with hw | hw
    · obtain ⟨k, b, hb, rfl⟩ := mem_hexStores.mp hw
      have hk : k < exprStr.length := (List.getElem?_eq_some_iff.mp hb).1
      rw [length_percent02X] at hhigh
      dsimp only at hlow hhigh
      cases hnegative : negativeChar charSigned b with
      | true =>
        have hbehind := h k b hb hnegative
        rw [hnegative, if_pos rfl] at hhigh
        omega
      | false =>
        rw [hnegative, if_neg Bool.false_ne_true] at hhigh
        omega
    · rw [List.mem_singleton.mp hw] at hlow hhigh
      rw [List.length_singleton] at hhigh
      dsimp only at hlow hhigh
      omega

/-- No byte is lost exactly if every negative `char` is 255. -/
theorem map_shownByte_iff (charSigned : Bool) (exprStr : List UInt8) :
    exprStr.map (shownByte charSigned) = exprStr ↔
      ∀ b ∈ exprStr, negativeChar charSigned b = true → b = 255 := by
  have hmap : exprStr.map (shownByte charSigned) = exprStr ↔
      ∀ b ∈ exprStr, shownByte charSigned b = b := by
    simpa using List.map_inj_left (l := exprStr) (f := shownByte charSigned) (g := id)
  rw [hmap]
  refine forall₂_congr fun b _ => ?_
  unfold shownByte
  cases negativeChar charSigned b with
  | true => exact ⟨fun h _ => h.symm, fun h => (h rfl).symm⟩
  | false => exact ⟨fun _ h => absurd h Bool.false_ne_true, fun _ => rfl⟩

/-- **The text of a BLOB default** is its bytes in hexadecimal, inside its block, exactly if `char`
is unsigned or every byte from 128 on is 255 and has three bytes behind it. -/
theorem blobText_right_iff (charSigned : Bool) (value : List UInt8) :
    TextRight (ctcProcessStringDefaultValue charSigned value true)
        (fun text => unhex text = some value) ↔
      charSigned = false ∨ ∀ k b, value[k]? = some b → 128 ≤ b.toNat →
        b = 255 ∧ k + 4 ≤ value.length := by
  rw [textRight_iff (ctcProcessStringDefaultValue_blob charSigned value)
    (terminated_blobStores charSigned value), blobStores_inside_iff, unhex_hexPairs,
    Option.some.injEq, map_shownByte_iff]
  cases charSigned with
  | false =>
    exact ⟨fun _ => Or.inl rfl, fun _ => ⟨fun _ _ h => absurd h Bool.false_ne_true,
      fun _ _ _ h => absurd h Bool.false_ne_true⟩⟩
  | true =>
    simp only [negativeChar, Bool.true_and, decide_eq_true_eq, Bool.true_eq_false, false_or]
    constructor
    · rintro ⟨hbyte, hplace⟩ k b hb hnegative
      exact ⟨hbyte b (List.mem_of_getElem? hb) hnegative, hplace k b hb hnegative⟩
    · intro h
      refine ⟨fun b hb hnegative => ?_, fun k b hb hnegative => (h k b hb hnegative).2⟩
      obtain ⟨k, hk⟩ := List.getElem?_of_mem hb
      exact (h k b hk hnegative).1

/-- The default `X'80'`: eight digits and a terminator in a block of three bytes. -/
theorem not_blobText_right :
    percent02X true 128 = ascii "FFFFFF80".toList ∧
      ¬TextRight (ctcProcessStringDefaultValue true [128] true)
        (fun text => unhex text = some [128]) := by
  refine ⟨rfl, ?_⟩
  rw [textRight_iff (ctcProcessStringDefaultValue_blob true [128])
    (terminated_blobStores true [128])]
  rintro ⟨htext, -⟩
  cases htext

/-! ## VARCHAR -/

/-- A literal default of a VARCHAR column that is declared with `fieldLength` bytes. -/
structure VarcharDefault where
  fieldLength : Nat
  value : List UInt8
  fits : value.length ≤ fieldLength
  fieldLength_lt : fieldLength < 2 ^ 16
  zero_not_mem : 0 ∉ value

/-- The record image of a VARCHAR: its length in one or two bytes, the data, and zeros up to the
length of the column. -/
def VarcharDefault.image (d : VarcharDefault) : List UInt8 :=
  Bytes.le (if d.fieldLength < 256 then 1 else 2) d.value.length ++ d.value ++
    List.replicate (d.fieldLength - d.value.length) 0

/-- The column in CREATE TABLE, with what else the functions read of it. -/
def VarcharDefault.column (d : VarcharDefault) (isClob : Bool) (size mbmaxlen : Nat)
    (numchars : List UInt8 → Nat) : StringColumn :=
  ⟨.varchar, d.image, none, none, isClob, size, mbmaxlen, numchars⟩

theorem cString_zeros {bytes : List UInt8} (h : 0 ∉ bytes) (n : Nat) :
    cString (bytes ++ List.replicate n 0) = bytes := by
  have hall : ∀ b ∈ bytes, (b != 0) = true := by
    intro b hb
    rw [bne_iff_ne]
    rintro rfl
    exact h hb
  unfold cString
  rw [List.takeWhile_append_of_pos hall]
  cases n with
  | zero => exact List.append_nil bytes
  | succ n => exact List.append_nil bytes

/-- Behind one length byte stands the string; of two, the high one is taken for its first
character. -/
theorem cString_image (d : VarcharDefault) :
    cString (d.image.drop 1) =
      if d.fieldLength < 256 then d.value
      else if d.value.length < 256 then []
      else UInt8.ofNat (d.value.length / 256) :: d.value := by
  unfold VarcharDefault.image
  split
  · exact cString_zeros d.zero_not_mem _
  · have hlt := d.fieldLength_lt
    have hfits := d.fits
    show cString (UInt8.ofNat (d.value.length / 256) :: d.value ++ _) = _
    split
    · next hshort =>
      rw [Nat.div_eq_of_lt hshort]
      rfl
    · next hlong =>
      refine cString_zeros ?_ _
      intro hzero
      rcases List.mem_cons.mp hzero with hhigh | hvalue
      · have hbyte := congrArg UInt8.toNat hhigh
        rw [UInt8.toNat_ofNat', Nat.mod_eq_of_lt (by omega)] at hbyte
        have hnone : (0 : UInt8).toNat = 0 := rfl
        omega
      · exact d.zero_not_mem hvalue

theorem length_doubleQuotes_cons (c : UInt8) (exprStr : List UInt8) :
    (doubleQuotes exprStr).length < (doubleQuotes (c :: exprStr)).length := by
  unfold doubleQuotes
  rw [List.flatMap_cons, List.length_append]
  split
  · rw [List.length_cons]
    omega
  · rw [List.length_singleton]
    omega

/-- **The text of a VARCHAR default** is the string with doubled quotes exactly if the column has
one length byte or the string is empty. -/
theorem varcharText_right_iff (charSigned : Bool) (d : VarcharDefault) (isClob : Bool)
    (size mbmaxlen : Nat) (numchars : List UInt8 → Nat) :
    TextRight
        (ctcGetStringDefaultValue charSigned (d.column isClob size mbmaxlen numchars) false)
        (fun text => text = doubleQuotes d.value) ↔
      d.fieldLength < 256 ∨ d.value = [] := by
  have hcall : ctcGetStringDefaultValue charSigned (d.column isClob size mbmaxlen numchars) false =
    ctcProcessStringDefaultValue charSigned (cString (d.image.drop 1)) false := rfl
  rw [hcall, stringText_right_iff charSigned (zero_not_mem_cString _), cString_image]
  split
  · next hone => exact ⟨fun _ => Or.inl hone, fun _ => rfl⟩
  next htwo =>
  rw [or_iff_right htwo]
  split
  · constructor
    · intro hempty
      cases hvalue : d.value with
      | nil => rfl
      | cons c value =>
        have hlength := length_doubleQuotes_cons c value
        rw [← hvalue, ← hempty] at hlength
        exact absurd hlength (Nat.not_lt_zero _)
    · intro hvalue
      rw [hvalue]
  · next hlong =>
    constructor
    · intro hequal
      have hlength := length_doubleQuotes_cons (UInt8.ofNat (d.value.length / 256)) d.value
      rw [hequal] at hlength
      exact absurd hlength (Nat.lt_irrefl _)
    · intro hvalue
      rw [hvalue] at hlong
      exact absurd (Nat.zero_lt_succ 255) hlong

/-- `VARCHAR(300) DEFAULT 'abc'` in a one-byte character set: the text is empty. -/
theorem not_varcharText_right :
    ¬TextRight
      (ctcGetStringDefaultValue true
        (VarcharDefault.column ⟨300, [97, 98, 99], by decide, by decide, by decide⟩ false 300 1
          List.length) false)
      (fun text => text = [97, 98, 99]) := by
  intro hright
  have hcall : ctcGetStringDefaultValue true
      (VarcharDefault.column ⟨300, [97, 98, 99], by decide, by decide, by decide⟩ false 300 1
        List.length) false =
    ctcProcessStringDefaultValue true [] false := rfl
  rw [hcall, stringText_right_iff true List.not_mem_nil] at hright
  cases hright

end CantianConnector.Ddl
