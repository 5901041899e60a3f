import CantianConnector.Lib.Memory
import CantianConnector.Convert.Decimal
import CantianConnector.Convert.Temporal

/-!
# Numeric columns

`convert_numeric_to_cantian` and `convert_numeric_to_mysql`. The integer types are widened to
four or eight bytes and narrowed again, BIT columns become an eight-byte number, and decimals
are stored as the bytes of their `dec4_t`. FLOAT goes through the machine's conversion to
double and back, which is a parameter, like the server's decimal packing.
-/

namespace CantianConnector.Convert

/-- The server's functions that the conversions call. -/
structure ServerPrims where
  time : TimePrims
  /-- `binary2my_decimal`; an error is its non-zero return value. -/
  binary2myDecimal : List UInt8 → Nat → Nat → Except Int MyDecimal
  binary2myDecimal_layout : ∀ (t : DecimalType) (bytes : List UInt8) (d : MyDecimal),
    binary2myDecimal bytes t.prec t.scale = .ok d → d.Layout t
  /-- `my_decimal2binary`. -/
  myDecimal2binary : MyDecimal → Nat → Nat → Except Int (List UInt8)
  floatToDouble : List UInt8 → List UInt8
  floatToDouble_length : ∀ bytes, (floatToDouble bytes).length = 8
  doubleToFloat : List UInt8 → List UInt8
  /-- `Field_json::val_json` on the stored bytes; `true` is a failure. -/
  valJson : List UInt8 → Bool

/-! ## The functions -/

/-- `convert_numeric_datatype`, from `src` bytes to `dst` bytes. -/
def convertNumericDatatype (dst src : Nat) (isUnsigned : Bool) (source : List UInt8) :
    List UInt8 :=
  let v := Bytes.ofLe (source.take src)
  Bytes.le dst (if isUnsigned then v else Bytes.wrap dst (Bytes.signed src v))

/-- `bit_cnvt_mysql_cantian`, for columns without bits among the NULL bits. -/
def bitCnvtMysqlCantian (bytesInRec : Nat) (ptr : List UInt8) : Nat :=
  Bytes.ofBe (ptr.take bytesInRec)

/-- The bytes `bit_cnvt_cantian_mysql` stores: 3 bytes are stored as 4, and 5 to 7 as 8. -/
def bitCnvtCantianMysql (bytesInRec : Nat) (cantian : List UInt8) : List UInt8 :=
  match bytesInRec with
  | 0 => []
  | 1 => cantian.take 1
  | 2 => Bytes.le 2 (Bytes.ofBe (cantian.take 2))
  | 3 => Bytes.le 4 (Bytes.ofBe (cantian.take 3))
  | 4 => Bytes.le 4 (Bytes.ofBe (cantian.take 4))
  | 5 => Bytes.le 8 (Bytes.ofBe (cantian.take 5))
  | 6 => Bytes.le 8 (Bytes.ofBe (cantian.take 6))
  | 7 => Bytes.le 8 (Bytes.ofBe (cantian.take 7))
  | _ => Bytes.le 8 (Bytes.ofBe (cantian.take 8))

/-- The memory image of a `dec4_t`: sign bit and cell count, exponent, cells. -/
def Dec4.toBytes (d4 : Dec4) : List UInt8 :=
  UInt8.ofNat ((if d4.sign then 1 else 0) + 2 * d4.ncells) ::
    UInt8.ofNat (Bytes.wrap 1 d4.expn) :: d4.cells.flatMap (Bytes.le 2)

/-- The `dec4_t` at an address. -/
def Dec4.ofMem (ptr : Mem UInt8) : Dec4 :=
  { sign := (ptr 0).toNat % 2 == 1
    expn := Bytes.signed 1 (ptr 1).toNat
    cells := (List.range ((ptr 0).toNat / 2)).map fun j => Bytes.ofLe (ptr.read (2 + 2 * j) 2) }

/-- `cm_dec4_stor_sz`. -/
def cmDec4StorSz (d4 : Dec4) : Nat := (1 + d4.ncells) * 2

/-- `decimal_mysql_to_cantian`: the bytes stored and their number. -/
def decimalMysqlToCantian (prims : ServerPrims) (mysql : List UInt8) (prec scale : Nat) :
    Result (List UInt8 × Nat) :=
  match prims.binary2myDecimal mysql prec scale with
  | .error rc => .error (.code rc)
  | .ok d =>
    match convertMydecToDec4 d with
    | none => .error .undefined
    | some d4 => .ok (d4.toBytes, cmDec4StorSz d4)

/-- `decimal_cantian_to_mysql`. -/
def decimalCantianToMysql (build : Build) (prims : ServerPrims) (cantian : Mem UInt8)
    (prec scale : Nat) : Result (List UInt8) :=
  match convertDec4ToMydec (Dec4.ofMem cantian) with
  | none => .error .undefined
  | some d =>
    match prims.myDecimal2binary d prec scale with
    | .error _ => do
      cAssert build false
      .error .undefined
    | .ok image => .ok image

/-- The precision of a DECIMAL column. -/
def ColumnType.precision : ColumnType → Nat
  | .newDecimal p _ => p
  | _ => 0

/-- `convert_numeric_to_cantian`: the bytes stored and the field length. -/
def convertNumericToCantian (build : Build) (prims : ServerPrims) (mysqlInfo : FieldCnvrtAux)
    (mysql : List UInt8) (field : Field) (length : Nat) : Result (List UInt8 × Nat) :=
  let c := field.columnType
  match mysqlInfo.mysqlFieldType with
  | .tiny => .ok (convertNumericDatatype 4 1 c.isUnsigned mysql, length)
  | .short => .ok (convertNumericDatatype 4 2 c.isUnsigned mysql, length)
  | .int24 => .ok (convertNumericDatatype 4 3 c.isUnsigned mysql, length)
  | .long => .ok (convertNumericDatatype 4 4 c.isUnsigned mysql, length)
  | .float => .ok (prims.floatToDouble (mysql.take 4), length)
  | .double => .ok (mysql.take 8, length)
  | .bit => .ok (Bytes.le 8 (bitCnvtMysqlCantian c.packLength mysql), length)
  | .longlong => .ok (convertNumericDatatype 8 8 c.isUnsigned mysql, length)
  | .newDecimal => decimalMysqlToCantian prims mysql c.precision c.decimals
  | _ => do
    cAssert build false
    return ([], length)

/-- `convert_numeric_to_mysql`: the bytes stored in the MySQL record. -/
def convertNumericToMysql (build : Build) (prims : ServerPrims) (mysqlInfo : FieldCnvrtAux)
    (cantian : Mem UInt8) (field : Field) : Result (List UInt8) :=
  let c := field.columnType
  match mysqlInfo.mysqlFieldType with
  | .tiny => .ok (convertNumericDatatype 1 4 c.isUnsigned (cantian.read 0 4))
  | .short => .ok (convertNumericDatatype 2 4 c.isUnsigned (cantian.read 0 4))
  | .int24 => .ok (cantian.read 0 3)
  | .long => .ok (convertNumericDatatype 4 4 c.isUnsigned (cantian.read 0 4))
  | .float => .ok (prims.doubleToFloat (cantian.read 0 8))
  | .double => .ok (cantian.read 0 8)
  | .bit => .ok (bitCnvtCantianMysql c.packLength (cantian.read 0 8))
  | .longlong => .ok (convertNumericDatatype 8 8 c.isUnsigned (cantian.read 0 8))
  | .newDecimal => decimalCantianToMysql build prims cantian c.precision c.decimals
  | _ => do
    cAssert build false
    return []

/-! ## Integers -/

theorem signed_bounds {n v : Nat} (h : v < 256 ^ n) :
    -(256 : Int) ^ n ≤ 2 * Bytes.signed n v ∧ 2 * Bytes.signed n v < (256 : Int) ^ n := by
  have hcast : ((256 ^ n : Nat) : Int) = (256 : Int) ^ n := by push_cast; rfl
  have hpos : (0 : Int) < 256 ^ n := Int.pow_pos (by decide)
  unfold Bytes.signed
  split
  · omega
  · omega

/-- Narrowing undoes widening. -/
theorem convertNumericDatatype_round_trip {n w : Nat} (hnw : n ≤ w) (isUnsigned : Bool)
    {image : List UInt8} (h : image.length = n) :
    convertNumericDatatype n w isUnsigned (convertNumericDatatype w n isUnsigned image) =
      image := by
  have hlt : Bytes.ofLe image < 256 ^ n := h ▸ Bytes.ofLe_lt image
  have hpow : (256 : Nat) ^ n ≤ 256 ^ w := Nat.pow_le_pow_right (by omega) hnw
  have hpowi : (256 : Int) ^ n ≤ 256 ^ w := by exact_mod_cast hpow
  have himage : Bytes.le n (Bytes.ofLe image) = image := h ▸ Bytes.le_ofLe image
  unfold convertNumericDatatype
  dsimp only
  rw [List.take_of_length_le (by simp), List.take_of_length_le (by omega)]
  cases isUnsigned with
  | true =>
    simp only [if_true]
    rw [Bytes.ofLe_le_of_lt (by omega), himage]
  | false =>
    simp only [Bool.false_eq_true, if_false]
    obtain ⟨h1, h2⟩ := signed_bounds hlt
    rw [Bytes.ofLe_le_of_lt (Bytes.wrap_lt w _), Bytes.signed_wrap (by omega) (by omega),
      Bytes.wrap_signed hlt, himage]

theorem le_mod (n v : Nat) : Bytes.le n (v % 256 ^ n) = Bytes.le n v := by
  have h := Bytes.le_ofLe (Bytes.le n v)
  rwa [Bytes.length_le, Bytes.ofLe_le] at h

theorem take_le {n w : Nat} (h : n ≤ w) (v : Nat) : (Bytes.le w v).take n = Bytes.le n v := by
  induction n generalizing w v with
  | zero => rfl
  | succ n ih =>
    obtain ⟨w, rfl⟩ : ∃ w', w = w' + 1 := ⟨w - 1, by omega⟩
    rw [Bytes.le, List.take_succ_cons, ih (by omega), Bytes.le]

/-- The low bytes of a widened number are its image. -/
theorem take_convertNumericDatatype {n w : Nat} (hnw : n ≤ w) (isUnsigned : Bool)
    {image : List UInt8} (h : image.length = n) :
    (convertNumericDatatype w n isUnsigned image).take n = image := by
  have hlt : Bytes.ofLe image < 256 ^ n := h ▸ Bytes.ofLe_lt image
  have himage : Bytes.le n (Bytes.ofLe image) = image := h ▸ Bytes.le_ofLe image
  unfold convertNumericDatatype
  dsimp only
  rw [take_le hnw, List.take_of_length_le (by omega)]
  cases isUnsigned with
  | true => exact himage
  | false =>
    simp only [Bool.false_eq_true, if_false]
    have hdvd : (256 : Int) ^ n ∣ 256 ^ w := pow_dvd_pow 256 hnw
    have hcast : ((256 ^ n : Nat) : Int) = (256 : Int) ^ n := by push_cast; rfl
    have hmod : Bytes.wrap w (Bytes.signed n (Bytes.ofLe image)) % 256 ^ n =
        Bytes.wrap n (Bytes.signed n (Bytes.ofLe image)) := by
      have hpos : (0 : Int) < 256 ^ w := Int.pow_pos (by decide)
      have hposn : (0 : Int) < 256 ^ n := Int.pow_pos (by decide)
      unfold Bytes.wrap
      zify
      rw [Int.toNat_of_nonneg (Int.emod_nonneg _ hpos.ne'),
        Int.toNat_of_nonneg (Int.emod_nonneg _ hposn.ne'), Int.emod_emod_of_dvd _ hdvd]
    rw [← le_mod, hmod, Bytes.wrap_signed hlt, himage]

/-- An integer that is not widened keeps its bytes. -/
theorem convertNumericDatatype_self {n : Nat} (isUnsigned : Bool) {image : List UInt8}
    (h : image.length = n) : convertNumericDatatype n n isUnsigned image = image := by
  have hlen : (convertNumericDatatype n n isUnsigned image).length = n := by
    simp [convertNumericDatatype]
  have htake := take_convertNumericDatatype (le_refl n) isUnsigned h
  rwa [List.take_of_length_le hlen.le] at htake

/-- The bytes of an integer type in the MySQL record and in the Cantian row. -/
def integerBytes : FieldType → Option (Nat × Nat)
  | .tiny => some (1, 4)
  | .short => some (2, 4)
  | .int24 => some (3, 4)
  | .long => some (4, 4)
  | .longlong => some (8, 8)
  | _ => none

theorem length_convertNumericDatatype (dst src : Nat) (isUnsigned : Bool) (image : List UInt8) :
    (convertNumericDatatype dst src isUnsigned image).length = dst := by
  simp [convertNumericDatatype]

section

variable {build : Build} {prims : ServerPrims} {mysqlInfo : FieldCnvrtAux} {field : Field}
  {image : List UInt8}

/-- Integer columns survive the conversion. -/
theorem convertInteger_round_trip {n w : Nat}
    (hinfo : integerBytes mysqlInfo.mysqlFieldType = some (n, w)) (h : image.length = n)
    (length : Nat) :
    ∃ bytes, convertNumericToCantian build prims mysqlInfo image field length =
        .ok (bytes, length) ∧ bytes.length = w ∧
      ∀ ptr : Mem UInt8, ptr.read 0 bytes.length = bytes →
        convertNumericToMysql build prims mysqlInfo ptr field = .ok image := by
  have key : ∀ {n w : Nat}, n ≤ w → image.length = n → ∀ u, ∀ ptr : Mem UInt8,
      ptr.read 0 (convertNumericDatatype w n u image).length =
        convertNumericDatatype w n u image →
      convertNumericDatatype n w u (ptr.read 0 w) = image := by
    intro n w hnw hlen u ptr hptr
    rw [length_convertNumericDatatype] at hptr
    rw [hptr, convertNumericDatatype_round_trip hnw u hlen]
  unfold convertNumericToCantian convertNumericToMysql
  cases htype : mysqlInfo.mysqlFieldType <;> rw [htype] at hinfo <;>
    simp only [integerBytes, reduceCtorEq, Option.some.injEq, Prod.mk.injEq] at hinfo <;>
    obtain ⟨rfl, rfl⟩ := hinfo
  case int24 =>
    refine ⟨_, rfl, length_convertNumericDatatype _ _ _ _, ?_⟩
    intro ptr hptr
    rw [length_convertNumericDatatype, show 4 = 3 + 1 from rfl, Mem.read_add] at hptr
    have htake := congrArg (List.take 3) hptr
    rw [take_convertNumericDatatype (by omega) _ h, List.take_append_of_le_length (by simp),
      List.take_of_length_le (by simp)] at htake
    simp only [htake]
  all_goals
    refine ⟨_, rfl, length_convertNumericDatatype _ _ _ _, ?_⟩
    intro ptr hptr
    simp only [key (by omega) h _ ptr hptr]

end

/-! ## Decimals -/

theorem Dec4.length_toBytes (d4 : Dec4) : d4.toBytes.length = cmDec4StorSz d4 := by
  have hflat : ∀ l : List Nat, (l.flatMap (Bytes.le 2)).length = 2 * l.length := by
    intro l
    induction l with
    | nil => rfl
    | cons x l ih =>
      rw [List.flatMap_cons, List.length_append, ih, Bytes.length_le, List.length_cons]
      ring
  unfold Dec4.toBytes cmDec4StorSz Dec4.ncells
  rw [List.length_cons, List.length_cons, hflat]
  ring

/-- The cells stored two bytes each from an address on. -/
theorem readCells {ptr : Mem UInt8} {cells : List Nat} (hlt : ∀ c ∈ cells, c < 10000) (off : Nat)
    (h : ptr.read off (2 * cells.length) = cells.flatMap (Bytes.le 2)) :
    (List.range cells.length).map (fun j => Bytes.ofLe (ptr.read (off + 2 * j) 2)) = cells := by
  induction cells generalizing off with
  | nil => rfl
  | cons c cells ih =>
    rw [List.length_cons, show 2 * (cells.length + 1) = 2 + 2 * cells.length by ring,
      Mem.read_add, List.flatMap_cons] at h
    obtain ⟨h1, h2⟩ := List.append_inj h (by simp)
    have hc := hlt c (by simp)
    rw [List.length_cons, List.range_succ_eq_map, List.map_cons, List.map_map]
    refine List.cons_eq_cons.mpr ⟨?_, ?_⟩
    · rw [Nat.mul_zero, Nat.add_zero, h1, Bytes.ofLe_le_of_lt (by omega)]
    · rw [← ih (fun x hx => hlt x (by simp [hx])) (off + 2) h2]
      simp only [List.length_map, List.length_range]
      refine List.map_congr_left ?_
      intro j _
      simp only [Function.comp_apply]
      rw [show off + 2 * j.succ = off + 2 + 2 * j by omega]

/-- Reading back a stored `dec4_t`. -/
theorem Dec4.ofMem_toBytes {d4 : Dec4} (h : d4.Fits) {ptr : Mem UInt8}
    (hread : ptr.read 0 d4.toBytes.length = d4.toBytes) : Dec4.ofMem ptr = d4 := by
  have hn := h.ncells_le
  have hexpn := h.expn_le
  have hfrac := h.frac_le
  have hzero := h.zero
  have hlow : -8 ≤ d4.expn := by omega
  have hread2 : ptr.read 0 2 ++ ptr.read 2 (2 * d4.ncells) = d4.toBytes := by
    rw [← hread, Dec4.length_toBytes]
    unfold cmDec4StorSz
    rw [show (1 + d4.ncells) * 2 = 2 + 2 * d4.ncells by ring, Mem.read_add]
  have hsplit : d4.toBytes = [UInt8.ofNat ((if d4.sign then 1 else 0) + 2 * d4.ncells),
      UInt8.ofNat (Bytes.wrap 1 d4.expn)] ++ d4.cells.flatMap (Bytes.le 2) := rfl
  rw [hsplit] at hread2
  obtain ⟨hhead, hcells⟩ := List.append_inj hread2 (by simp)
  have h0 : ptr 0 = UInt8.ofNat ((if d4.sign then 1 else 0) + 2 * d4.ncells) := by
    have := congrArg (fun l : List UInt8 => l[0]?) hhead
    simpa [Mem.read, List.range_succ] using this
  have h1 : ptr 1 = UInt8.ofNat (Bytes.wrap 1 d4.expn) := by
    have := congrArg (fun l : List UInt8 => l[1]?) hhead
    simpa [Mem.read, List.range_succ] using this
  have hb0 : (ptr 0).toNat = (if d4.sign then 1 else 0) + 2 * d4.ncells := by
    rw [h0, UInt8.toNat_ofNat', Nat.mod_eq_of_lt (by split <;> omega)]
  have hb1 : (ptr 1).toNat = Bytes.wrap 1 d4.expn := by
    have hw := Bytes.wrap_lt 1 d4.expn
    rw [h1, UInt8.toNat_ofNat', Nat.mod_eq_of_lt (by omega)]
  obtain ⟨sign, expn, cells⟩ := d4
  unfold Dec4.ofMem
  rw [hb0, hb1, Bytes.signed_wrap (by omega) (by omega)]
  have hhalf : ((if sign = true then 1 else 0) + 2 * cells.length) / 2 = cells.length := by
    split <;> omega
  have hmod : (((if sign = true then 1 else 0) + 2 * cells.length) % 2 == 1) = sign := by
    cases sign <;> simp
  change Dec4.mk (((if sign = true then 1 else 0) + 2 * cells.length) % 2 == 1) expn
    ((List.range (((if sign = true then 1 else 0) + 2 * cells.length) / 2)).map
      fun j => Bytes.ofLe (ptr.read (2 + 2 * j) 2)) = ⟨sign, expn, cells⟩
  rw [hmod, hhalf, readCells h.lt 2 hcells]

/-- A stored DECIMAL image: `binary2my_decimal` reads it, and `my_decimal2binary` stores it
for every decimal with the same number and sign. -/
def DecimalStorable (prims : ServerPrims) (prec scale : Nat) (image : List UInt8) : Prop :=
  ∃ d : MyDecimal, prims.binary2myDecimal image prec scale = .ok d ∧
    ∀ d' : MyDecimal, d'.value = d.value → d'.sign = d.sign →
      prims.myDecimal2binary d' prec scale = .ok image

/-- Decimal columns survive the conversion. -/
theorem convertDecimal_round_trip {build : Build} {prims : ServerPrims} (t : DecimalType)
    {image : List UInt8} (h : DecimalStorable prims t.prec t.scale image) :
    ∃ bytes, decimalMysqlToCantian prims image t.prec t.scale = .ok (bytes, bytes.length) ∧
      ∀ ptr : Mem UInt8, ptr.read 0 bytes.length = bytes →
        decimalCantianToMysql build prims ptr t.prec t.scale = .ok image := by
  obtain ⟨d, hread, hstore⟩ := h
  obtain ⟨d4, hd4, hsign, hmag, -, hfits, -⟩ :=
    convertMydecToDec4_spec (prims.binary2myDecimal_layout t image d hread)
  obtain ⟨d', hd', hsign', hmag'⟩ := convertDec4ToMydec_spec hfits
  refine ⟨d4.toBytes, ?_, ?_⟩
  · simp only [decimalMysqlToCantian, hread, hd4, Dec4.length_toBytes]
  · intro ptr hptr
    have hvalue : d'.value = d.value := by
      unfold MyDecimal.value
      rw [hsign', hsign, hmag', hmag]
    simp only [decimalCantianToMysql, Dec4.ofMem_toBytes hfits hptr, hd',
      hstore d' hvalue (hsign'.trans hsign)]

/-- A stored DECIMAL takes at most 36 bytes. -/
theorem length_decimalMysqlToCantian {prims : ServerPrims} (t : DecimalType)
    {image bytes : List UInt8} {fieldLen : Nat}
    (h : decimalMysqlToCantian prims image t.prec t.scale = .ok (bytes, fieldLen)) :
    fieldLen = bytes.length ∧ bytes.length ≤ 36 := by
  unfold decimalMysqlToCantian at h
  cases hread : prims.binary2myDecimal image t.prec t.scale with
  | error rc =>
    rw [hread] at h
    cases h
  | ok d =>
    obtain ⟨d4, hd4, -, -, -, hfits, -⟩ :=
      convertMydecToDec4_spec (prims.binary2myDecimal_layout t image d hread)
    simp only [hread, hd4, Except.ok.injEq, Prod.mk.injEq] at h
    obtain ⟨rfl, rfl⟩ := h
    have hn := hfits.ncells_le
    refine ⟨d4.length_toBytes.symm, ?_⟩
    rw [d4.length_toBytes, cmDec4StorSz]
    omega

/-- The type of a DECIMAL column. -/
theorem ColumnType.Valid.decimalType {p s : Nat} (h : (ColumnType.newDecimal p s).Valid) :
    ∃ t : DecimalType, t.prec = p ∧ t.scale = s :=
  ⟨⟨p, s, h.1, h.2.1, h.2.2.1, h.2.2.2⟩, rfl, rfl⟩

/-- The images of numeric columns that survive the conversion. FLOAT columns depend on the
machine's conversions and BIT columns of some lengths do not survive. -/
def NumericStorable (prims : ServerPrims) (c : ColumnType) (image : List UInt8) : Prop :=
  match c with
  | .newDecimal p s => DecimalStorable prims p s image
  | .float | .bit _ => False
  | _ => True

theorem integerBytes_enum {n : Nat} (h : n = 1 ∨ n = 2 ∨ n = 3 ∨ n = 4 ∨ n = 8) :
    ∃ w, integerBytes (enumStorageType n) = some (n, w) := by
  rcases h with rfl | rfl | rfl | rfl | rfl
  all_goals exact ⟨_, rfl⟩

/-- The bytes of a numeric column depend on its type and its image only. -/
theorem convertNumericToCantian_congr {build : Build} {prims : ServerPrims}
    {mysqlInfo mysqlInfo' : FieldCnvrtAux} {field field' : Field} {image bytes : List UInt8}
    {length fieldLen : Nat} (hinfo : mysqlInfo.mysqlFieldType = mysqlInfo'.mysqlFieldType)
    (hc : field.columnType = field'.columnType)
    (h : convertNumericToCantian build prims mysqlInfo image field length = .ok (bytes, fieldLen))
    (length' : Nat) :
    ∃ fieldLen', convertNumericToCantian build prims mysqlInfo' image field' length' =
      .ok (bytes, fieldLen') := by
  unfold convertNumericToCantian at h ⊢
  rw [hinfo, hc] at h
  cases htype : mysqlInfo'.mysqlFieldType with
  | newDecimal =>
    simp only [htype] at h ⊢
    exact ⟨fieldLen, h⟩
  | tiny | short | int24 | long | float | double | bit | longlong =>
    simp only [htype] at h ⊢
    cases h
    exact ⟨length', rfl⟩
  | _ =>
    simp only [htype] at h ⊢
    obtain ⟨u, hassert, h⟩ := result_bind_eq_ok.mp h
    cases h
    rw [hassert]
    exact ⟨length', rfl⟩

/-- Storing a numeric column succeeds. -/
theorem convertNumericToCantian_ok {build : Build} {prims : ServerPrims}
    {mysqlInfo : FieldCnvrtAux} {field : Field} {image : List UInt8}
    (hinfo : mysqlInfo.mysqlFieldType = field.columnType.auxType)
    (hvalid : field.columnType.Valid) (hkind : field.columnType.auxKind = .numeric)
    (hstorable : NumericStorable prims field.columnType image) (length : Nat) :
    ∃ out, convertNumericToCantian build prims mysqlInfo image field length = .ok out := by
  have hstorage : ∀ n : Nat, mysqlInfo.mysqlFieldType = enumStorageType n →
      ∃ out, convertNumericToCantian build prims mysqlInfo image field length = .ok out := by
    intro n hn
    unfold convertNumericToCantian
    rw [hn]
    rcases enumStorageType_cases n with hs | hs | hs | hs | hs
    all_goals
      rw [hs]
      exact ⟨_, rfl⟩
  cases hc : field.columnType with
  | enum n => rw [hc] at hinfo; exact hstorage n hinfo
  | set n => rw [hc] at hinfo; exact hstorage n hinfo
  | newDecimal p s =>
    rw [hc] at hinfo hvalid hstorable
    obtain ⟨t, rfl, rfl⟩ := hvalid.decimalType
    obtain ⟨bytes, hrun, -⟩ := @convertDecimal_round_trip build prims t image hstorable
    refine ⟨(bytes, bytes.length), ?_⟩
    simp only [convertNumericToCantian, hinfo, hc, ColumnType.auxType, ColumnType.type,
      ColumnType.precision, ColumnType.decimals, hrun]
  | float => rw [hc] at hstorable; exact hstorable.elim
  | bit n => rw [hc] at hstorable; exact hstorable.elim
  | tiny u | short u | int24 u | long u | longlong u | double =>
    rw [hc] at hinfo
    unfold convertNumericToCantian
    rw [hinfo]
    exact ⟨_, rfl⟩
  | _ => rw [hc] at hkind; cases hkind

/-- **Numeric columns survive the conversion to Cantian and back.** -/
theorem convertNumeric_round_trip {build : Build} {prims : ServerPrims} {mysqlInfo : FieldCnvrtAux}
    {field : Field} {image bytes : List UInt8} {length fieldLen : Nat}
    (hinfo : mysqlInfo.mysqlFieldType = field.columnType.auxType)
    (hvalid : field.columnType.Valid) (hkind : field.columnType.auxKind = .numeric)
    (himage : image.length = field.columnType.packLength)
    (hstorable : NumericStorable prims field.columnType image)
    (h : convertNumericToCantian build prims mysqlInfo image field length = .ok (bytes, fieldLen))
    {ptr : Mem UInt8} (hptr : ptr.read 0 bytes.length = bytes) :
    convertNumericToMysql build prims mysqlInfo ptr field = .ok image := by
  have hinteger : ∀ n w, integerBytes mysqlInfo.mysqlFieldType = some (n, w) → image.length = n →
      convertNumericToMysql build prims mysqlInfo ptr field = .ok image := by
    intro n w hn hlen
    obtain ⟨bytes', hrun, -, hback⟩ :=
      @convertInteger_round_trip build prims mysqlInfo field image n w hn hlen length
    rw [h] at hrun
    cases hrun
    exact hback ptr hptr
  cases hc : field.columnType with
  | enum n =>
    rw [hc] at hinfo hvalid himage
    obtain ⟨w, hw⟩ := integerBytes_enum (n := n) (by rcases hvalid with h | h <;> simp [h])
    exact hinteger n w (by rw [hinfo]; exact hw) himage
  | set n =>
    rw [hc] at hinfo hvalid himage
    obtain ⟨w, hw⟩ := integerBytes_enum (n := n) hvalid
    exact hinteger n w (by rw [hinfo]; exact hw) himage
  | newDecimal p s =>
    rw [hc] at hinfo hvalid hstorable
    obtain ⟨t, rfl, rfl⟩ := hvalid.decimalType
    obtain ⟨bytes', hrun, hback⟩ := convertDecimal_round_trip t hstorable
    simp only [convertNumericToCantian, hinfo, hc, ColumnType.auxType, ColumnType.type,
      ColumnType.precision, ColumnType.decimals, hrun] at h
    cases h
    simp only [convertNumericToMysql, hinfo, hc, ColumnType.auxType, ColumnType.type,
      ColumnType.precision, ColumnType.decimals]
    exact hback ptr hptr
  | double =>
    rw [hc] at hinfo himage
    have hlen : image.length = 8 := himage
    simp only [convertNumericToCantian, hinfo, ColumnType.auxType, ColumnType.type,
      List.take_of_length_le hlen.le] at h
    cases h
    simp only [convertNumericToMysql, hinfo, ColumnType.auxType, ColumnType.type]
    rw [← hlen, hptr]
  | float => rw [hc] at hstorable; exact hstorable.elim
  | bit n => rw [hc] at hstorable; exact hstorable.elim
  | tiny u => rw [hc] at hinfo himage; exact hinteger 1 4 (by rw [hinfo]; rfl) himage
  | short u => rw [hc] at hinfo himage; exact hinteger 2 4 (by rw [hinfo]; rfl) himage
  | int24 u => rw [hc] at hinfo himage; exact hinteger 3 4 (by rw [hinfo]; rfl) himage
  | long u => rw [hc] at hinfo himage; exact hinteger 4 4 (by rw [hinfo]; rfl) himage
  | longlong u => rw [hc] at hinfo himage; exact hinteger 8 8 (by rw [hinfo]; rfl) himage
  | _ => rw [hc] at hkind; cases hkind

/-! ## Lengths -/

/-- The bytes a numeric column stores: four, eight, or as many as the field length says. -/
theorem length_convertNumericToCantian {build : Build} {prims : ServerPrims}
    {mysqlInfo : FieldCnvrtAux} {field : Field} {image bytes : List UInt8} {length fieldLen : Nat}
    (hinfo : mysqlInfo.mysqlFieldType = field.columnType.auxType)
    (hvalid : field.columnType.Valid) (hkind : field.columnType.auxKind = .numeric)
    (himage : image.length = field.columnType.packLength)
    (h : convertNumericToCantian build prims mysqlInfo image field length = .ok (bytes, fieldLen)) :
    (field.columnType.auxBits = .four → bytes.length = 4 ∧ fieldLen = length) ∧
      (field.columnType.auxBits = .eight → bytes.length = 8 ∧ fieldLen = length) ∧
      (field.columnType.auxBits = .var → fieldLen = bytes.length ∧ bytes.length ≤ 36) := by
  have hstorage : ∀ n : Nat, mysqlInfo.mysqlFieldType = enumStorageType n →
      (enumStorageType n = .longlong → bytes.length = 8 ∧ fieldLen = length) ∧
      (enumStorageType n ≠ .longlong → bytes.length = 4 ∧ fieldLen = length) := by
    intro n hn
    unfold convertNumericToCantian at h
    rw [hn] at h
    rcases enumStorageType_cases n with hs | hs | hs | hs | hs <;> rw [hs] at h ⊢ <;>
      simp only [Except.ok.injEq, Prod.mk.injEq] at h <;> obtain ⟨rfl, rfl⟩ := h <;>
      simp [length_convertNumericDatatype]
  cases hc : field.columnType with
  | enum n =>
    rw [hc] at hinfo
    obtain ⟨h8, h4⟩ := hstorage n hinfo
    simp only [ColumnType.auxBits]
    by_cases hs : enumStorageType n = .longlong
    · simp [hs, h8 hs]
    · simp [hs, h4 hs]
  | set n =>
    rw [hc] at hinfo
    obtain ⟨h8, h4⟩ := hstorage n hinfo
    simp only [ColumnType.auxBits]
    by_cases hs : enumStorageType n = .longlong
    · simp [hs, h8 hs]
    · simp [hs, h4 hs]
  | newDecimal p s =>
    rw [hc] at hinfo hvalid
    obtain ⟨t, rfl, rfl⟩ := hvalid.decimalType
    unfold convertNumericToCantian at h
    rw [hinfo] at h
    simp only [ColumnType.auxType, ColumnType.type, hc, ColumnType.precision,
      ColumnType.decimals] at h
    have hlen := length_decimalMysqlToCantian t h
    simp [ColumnType.auxBits, hlen]
  | year => rw [hc] at hkind; cases hkind
  | date => rw [hc] at hkind; cases hkind
  | time dec => rw [hc] at hkind; cases hkind
  | datetime dec => rw [hc] at hkind; cases hkind
  | timestamp dec => rw [hc] at hkind; cases hkind
  | varchar n => rw [hc] at hkind; cases hkind
  | string n c => rw [hc] at hkind; cases hkind
  | blob k => rw [hc] at hkind; cases hkind
  | json => rw [hc] at hkind; cases hkind
  | _ =>
    rw [hc] at hinfo himage
    unfold convertNumericToCantian at h
    rw [hinfo] at h
    simp only [ColumnType.auxType, ColumnType.type, Except.ok.injEq, Prod.mk.injEq] at h
    obtain ⟨rfl, rfl⟩ := h
    simp_all [ColumnType.auxBits, length_convertNumericDatatype, prims.floatToDouble_length,
      ColumnType.packLength]

end CantianConnector.Convert
