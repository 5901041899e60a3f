import CantianConnector.Convert.Encode
import Mathlib.Data.List.DropRight
import Mathlib.Logic.Function.Basic

/-!
# The parts of a search key

`ctc_fill_index_key_info` with `ctc_convert_mysql_key_to_cantian`. The server hands over one
image of the leading key parts where a scan starts and another where it ends. Two pointers walk
over the images side by side; both advance by the same width, which is computed from the column
and not read from the index.

Of a CHAR part the trailing bytes equal to `pad_char` are left out. In a character set whose pad
character is this one byte, with which no other character ends, these are the trailing pad
characters (`CharacterSet.rdropWhile_text`); in UCS2, UTF16 and UTF32 they are not.

That width is the `store_length` of the part (`dataFieldLen_eq`), so the pointers stand at the
same part in both images until the shorter one ends.
-/

namespace CantianConnector.Index

open CantianConnector.Convert

/-! ## Key parts -/

/-- `Field::key_length()`. -/
def keyLength : ColumnType → Nat
  | .varchar n => n
  | .blob _ => 0
  | .json => 0
  | c => c.packLength

/-- `KEY_PART_INFO`, with the two index maps of its column. The server gives a prefix of a CHAR or
VARCHAR a column of its own, as long as the prefix. -/
structure KeyPart where
  field : Field
  length : Nat
  storeLength : Nat
  /-- `field->part_of_prefixkey` is not empty. -/
  partOfPrefixkey : Bool
  /-- `field->part_of_key_not_extended` is not empty. -/
  partOfKeyNotExtended : Bool

namespace KeyPart

variable (part : KeyPart)

/-- `field->is_nullable()`. -/
def isNullable : Bool := part.field.nullBit.isSome

/-- The byte before a nullable part. -/
def nullLen : Nat := if part.isNullable then 1 else 0

/-- Do the data of the part follow their length? -/
def isVar : Bool := part.field.columnType.type = .varchar || part.field.isBlob

/-- What the server says about a key part. -/
structure Valid : Prop where
  storeLength : part.storeLength = part.nullLen + (if part.isVar then 2 else 0) + part.length
  length_pos : 0 < part.length
  length : part.field.isBlob = false → part.length = keyLength part.field.columnType
  blob : part.field.isBlob = true →
    part.partOfPrefixkey = true ∧ part.partOfKeyNotExtended = false

end KeyPart

/-! ## The functions -/

/-- One side of `key_info_t`: a pointer into the image of the key, and the length there. -/
structure KeySide where
  key : Option Nat
  len : Nat
deriving DecidableEq, Repr

/-- `key_info_t`. -/
structure KeyInfo where
  isKeyNull : Bool
  left : KeySide
  right : KeySide
deriving DecidableEq, Repr

/-- A cleared `key_info_t`. -/
def KeyInfo.zero : KeyInfo := ⟨false, ⟨none, 0⟩, ⟨none, 0⟩⟩

/-- `key_range`. -/
structure KeyRange where
  key : Mem UInt8
  length : Nat

/-- The key of `index_read`, and the end of its range. -/
structure SearchKey where
  key : Mem UInt8
  keyLen : Nat
  endRange : Option KeyRange
  indexSkipScan : Bool

/-- `data_field_len`. -/
def dataFieldLen (part : KeyPart) : Nat :=
  let dataLen := keyLength part.field.columnType
  if part.field.columnType.type = .varchar then part.nullLen + dataLen + 2
  else if part.field.isBlob && part.partOfPrefixkey && !part.partOfKeyNotExtended then
    part.storeLength
  else part.nullLen + dataLen

/-- What `ctc_convert_mysql_key_to_cantian` writes through its pointers. -/
structure ConvertedKey where
  dataFieldLen : Nat
  side : KeySide
  isKeyNull : Bool

/-- `ctc_convert_mysql_key_to_cantian`; `pos` is where `key` stands in its image. -/
def ctcConvertMysqlKeyToCantian (part : KeyPart) (key : Mem UInt8) (pos keyLen : Nat)
    (out : ConvertedKey) : ConvertedKey :=
  if keyLen = 0 then out
  else
    let out := { out with dataFieldLen := dataFieldLen part }
    let checkBlob := part.field.columnType.type ≠ .varchar ∧
      (part.field.isBlob && part.partOfPrefixkey && !part.partOfKeyNotExtended)
    let start := pos + part.nullLen
    if part.isNullable ∧ key pos = 1 then
      { out with side := { out.side with len := 0 }, isKeyNull := true }
    else if part.field.columnType.type = .varchar ∨ checkBlob then
      { out with side := ⟨some (start + 2), Bytes.ofLe (key.read start 2)⟩ }
    else
      match part.field.columnType with
      | .string n padChar => { out with side := ⟨some start, trimPad padChar (key.read start n)⟩ }
      | c => { out with side := ⟨some start, keyLength c⟩ }

/-- The variables of the loop of `ctc_fill_index_key_info`. -/
structure FillState where
  keyNum : Nat
  key : Nat
  myKey : Nat
  keyInfo : Nat → KeyInfo

/-- Does `my_key` stand before the end of its image? -/
def SearchKey.hasEnd (search : SearchKey) (myKey : Nat) : Bool :=
  match search.endRange with
  | none => false
  | some range => decide (myKey < range.length)

/-- The right key of a part. -/
def convertRight (search : SearchKey) (part : KeyPart) (myKey : Nat) (out : ConvertedKey) :
    ConvertedKey :=
  match search.endRange with
  | none => out
  | some range =>
    if !search.indexSkipScan && decide (myKey < range.length) then
      ctcConvertMysqlKeyToCantian part range.key myKey range.length out
    else out

/-- One round of the loop. -/
def fillStep (search : SearchKey) (part : KeyPart) (st : FillState) : FillState :=
  let info := st.keyInfo st.keyNum
  let left := ctcConvertMysqlKeyToCantian part search.key st.key search.keyLen
    ⟨0, info.left, info.isKeyNull⟩
  let right := convertRight search part st.myKey ⟨left.dataFieldLen, info.right, left.isKeyNull⟩
  { keyNum := st.keyNum + 1
    key := st.key + right.dataFieldLen
    myKey := if search.hasEnd st.myKey then st.myKey + right.dataFieldLen else st.myKey
    keyInfo := Function.update st.keyInfo st.keyNum ⟨right.isKeyNull, left.side, right.side⟩ }

/-- The loop; the list holds the key parts from `key_num` on. -/
def fillLoop (search : SearchKey) : List KeyPart → FillState → Except Int FillState
  -- ERR_GENERIC_INTERNAL_ERROR
  | [], _ => .error 299
  | part :: rest, st =>
    let st := fillStep search part st
    if st.key < search.keyLen ∧ search.keyLen ≠ 0 then fillLoop search rest st else .ok st

/-- `index_key_info_t`, as far as the function fills it in. -/
structure IndexKeyInfo where
  keyNum : Nat
  keyInfo : Nat → KeyInfo

/-- `ctc_fill_index_key_info`; the caller has cleared `key_info`. `parts` are the
`actual_key_parts` of the index. -/
def ctcFillIndexKeyInfo (parts : List KeyPart) (search : SearchKey) : Except Int IndexKeyInfo :=
  match fillLoop search parts ⟨0, 0, 0, fun _ => KeyInfo.zero⟩ with
  | .error e => .error e
  | .ok st =>
    .ok { keyNum := st.keyNum
          keyInfo := fun i =>
            if st.keyNum ≤ i ∧ i < parts.length then { st.keyInfo i with isKeyNull := true }
            else st.keyInfo i }

/-! ## Images of a key -/

/-- Where part `i` of an index stands in an image. -/
def storeAt (parts : List KeyPart) (i : Nat) : Nat := ((parts.take i).map KeyPart.storeLength).sum

/-- The image of one part at an address; the value `none` is NULL. -/
def HoldsPart (key : Mem UInt8) (pos : Nat) (part : KeyPart) : Option (List UInt8) → Prop
  | none => part.isNullable = true ∧ key pos = 1
  | some data =>
    (part.isNullable = true → key pos ≠ 1) ∧
      if part.isVar then
        data.length < 65536 ∧ key.read (pos + part.nullLen) 2 = Bytes.le 2 data.length ∧
          key.read (pos + part.nullLen + 2) data.length = data
      else
        data.length = keyLength part.field.columnType ∧
          key.read (pos + part.nullLen) data.length = data

/-- An image of leading key parts. -/
structure KeyImage (parts : List KeyPart) (key : Mem UInt8) (len : Nat)
    (values : List (Option (List UInt8))) : Prop where
  count : values.length ≤ parts.length
  length : len = storeAt parts values.length
  holds : ∀ i part value, parts[i]? = some part → values[i]? = some value →
    HoldsPart key (storeAt parts i) part value

/-- The two images of a search. -/
structure SearchImages (parts : List KeyPart) (search : SearchKey)
    (starts ends : List (Option (List UInt8))) : Prop where
  start : KeyImage parts search.key search.keyLen starts
  stop : ∀ range, search.endRange = some range → KeyImage parts range.key range.length ends
  noStop : search.endRange = none → ends = []

/-- The data of a part: a CHAR without its trailing bytes equal to `pad_char`. -/
def partData (part : KeyPart) (data : List UInt8) : List UInt8 :=
  match part.field.columnType with
  | .string _ padChar => data.rdropWhile (· == padChar)
  | _ => data

/-- A character set: the bytes of the characters, and the pad character. -/
structure CharacterSet (Γ : Type) where
  encode : Γ → List UInt8
  pad : Γ

namespace CharacterSet

variable {Γ : Type} (cs : CharacterSet Γ)

/-- The bytes of a text. -/
def text (chars : List Γ) : List UInt8 := (chars.map cs.encode).flatten

/-- A text without its trailing pad characters. -/
def strip [DecidableEq Γ] (chars : List Γ) : List Γ := chars.rdropWhile (· = cs.pad)

/-- The pad character is one byte, and no other character ends with it. -/
structure PadsWith (padChar : UInt8) : Prop where
  pad : cs.encode cs.pad = [padChar]
  other : ∀ c, c ≠ cs.pad → ∃ front byte, cs.encode c = front ++ [byte] ∧ byte ≠ padChar

variable {cs}

theorem text_append_singleton (chars : List Γ) (c : Γ) :
    cs.text (chars ++ [c]) = cs.text chars ++ cs.encode c := by
  simp [text]

/-- The trailing bytes equal to the pad character's byte are the trailing pad characters. -/
theorem rdropWhile_text [DecidableEq Γ] {padChar : UInt8} (h : cs.PadsWith padChar)
    (chars : List Γ) : (cs.text chars).rdropWhile (· == padChar) = cs.text (cs.strip chars) := by
  induction chars using List.reverseRecOn with
  | nil => rfl
  | append_singleton chars c ih =>
    rw [text_append_singleton]
    by_cases hc : c = cs.pad
    · have hstrip : cs.strip (chars ++ [c]) = cs.strip chars :=
        List.rdropWhile_concat_pos _ _ _ (decide_eq_true hc)
      rw [hstrip, hc, h.pad, List.rdropWhile_concat_pos _ _ _ (by exact beq_self_eq_true padChar)]
      exact ih
    · obtain ⟨front, byte, hencode, hbyte⟩ := h.other c hc
      have hstrip : cs.strip (chars ++ [c]) = chars ++ [c] :=
        List.rdropWhile_concat_neg _ _ _ (by simpa using hc)
      rw [hstrip, text_append_singleton, hencode, ← List.append_assoc,
        List.rdropWhile_concat_neg _ _ _ (by simpa using hbyte)]

end CharacterSet

/-- A side of `key_info_t` denotes a value of a part. -/
def Denotes (key : Mem UInt8) (part : KeyPart) (side : KeySide) : Option (List UInt8) → Prop
  | none => side.len = 0
  | some data => ∃ pos, side.key = some pos ∧ side.len = (partData part data).length ∧
      key.read pos side.len = partData part data

/-- Of a CHAR part it denotes the text without its trailing pad characters, where the character
set pads with one byte. -/
structure DenotesValue (key : Mem UInt8) (part : KeyPart) (side : KeySide)
    (value : Option (List UInt8)) : Prop where
  bytes : Denotes key part side value
  text : ∀ (Γ : Type) (_ : DecidableEq Γ) (cs : CharacterSet Γ) n padChar chars,
    part.field.columnType = .string n padChar → cs.PadsWith padChar →
      value = some (cs.text chars) → ∃ pos, side.key = some pos ∧
        side.len = (cs.text (cs.strip chars)).length ∧
          key.read pos side.len = cs.text (cs.strip chars)

/-! ## One part -/

section

variable {part : KeyPart} {key : Mem UInt8} {pos keyLen : Nat} {value : Option (List UInt8)}

theorem isBlob_of_varchar {field : Field} (h : field.columnType.type = .varchar) :
    field.isBlob = false := by
  unfold Field.isBlob
  cases hc : field.columnType with
  | blob k => rw [hc] at h; cases h
  | json => rw [hc] at h; cases h
  | _ => rfl

/-- The width computed from the column is the one the server reserves. -/
theorem dataFieldLen_eq (hpart : part.Valid) : dataFieldLen part = part.storeLength := by
  have hstore := hpart.storeLength
  unfold dataFieldLen
  by_cases hvar : part.field.columnType.type = .varchar
  · have hblob := isBlob_of_varchar hvar
    have hlen := hpart.length hblob
    have hisVar : part.isVar = true := by simp [KeyPart.isVar, hvar]
    simp only [hisVar, if_true] at hstore
    rw [if_pos hvar]
    omega
  · cases hblob : part.field.isBlob with
    | true =>
      obtain ⟨hlead, hext⟩ := hpart.blob hblob
      simp [hvar, hlead, hext]
    | false =>
      have hlen := hpart.length hblob
      have hisVar : part.isVar = false := by simp [KeyPart.isVar, hvar, hblob]
      simp only [hisVar, Bool.false_eq_true, if_false] at hstore
      simp only [hvar, if_false, Bool.false_and, Bool.false_eq_true]
      omega

/-- The branch taken for data that follow their length. -/
theorem isVar_iff (hpart : part.Valid) :
    (part.field.columnType.type = .varchar ∨ (part.field.columnType.type ≠ .varchar ∧
      (part.field.isBlob && part.partOfPrefixkey && !part.partOfKeyNotExtended) = true)) ↔
      part.isVar = true := by
  unfold KeyPart.isVar
  by_cases hvar : part.field.columnType.type = .varchar
  · simp [hvar]
  · cases hblob : part.field.isBlob with
    | false => simp [hvar]
    | true =>
      obtain ⟨hlead, hext⟩ := hpart.blob hblob
      simp [hvar, hlead, hext]

theorem Denotes.denotesValue {side : KeySide} (h : Denotes key part side value) :
    DenotesValue key part side value := by
  refine ⟨h, ?_⟩
  intro Γ _ cs n padChar chars hcol hpad hvalue
  subst hvalue
  obtain ⟨pos, hpos, hlen, hread⟩ := h
  have hdata : partData part (cs.text chars) = cs.text (cs.strip chars) := by
    unfold partData
    rw [hcol]
    exact CharacterSet.rdropWhile_text hpad chars
  rw [hdata] at hlen hread
  exact ⟨pos, hpos, hlen, hread⟩

/-- The loop over the bytes of a CHAR. -/
theorem partData_string {n : Nat} {padChar : UInt8}
    (hcol : part.field.columnType = .string n padChar) (data : List UInt8) :
    partData part data = data.take (trimPad padChar data) := by
  unfold partData trimPad
  rw [hcol]
  dsimp only
  have hprefix := List.prefix_iff_eq_take.mp (List.rdropWhile_prefix (· == padChar) data)
  rw [List.rdropWhile, List.length_reverse] at hprefix
  exact hprefix

theorem partData_of_isVar {data : List UInt8} (h : part.isVar = true) :
    partData part data = data := by
  unfold partData
  cases hc : part.field.columnType with
  | string n padChar =>
    have hnot : part.isVar = false := by
      unfold KeyPart.isVar Field.isBlob
      rw [hc]
      rfl
    rw [hnot] at h
    cases h
  | _ => rfl

/-- **One part of a key:** the value is described, and the width is that of the part. -/
theorem ctcConvertMysqlKeyToCantian_spec (hpart : part.Valid) (hlen : keyLen ≠ 0)
    (hholds : HoldsPart key pos part value) (out : ConvertedKey) :
    ∃ side, ctcConvertMysqlKeyToCantian part key pos keyLen out =
        ⟨part.storeLength, side, out.isKeyNull || value.isNone⟩ ∧
      Denotes key part side value := by
  unfold ctcConvertMysqlKeyToCantian
  rw [if_neg hlen]
  simp only [dataFieldLen_eq hpart]
  cases value with
  | none =>
    have hnull : part.isNullable = true ∧ key pos = 1 := hholds
    rw [if_pos hnull]
    exact ⟨⟨out.side.key, 0⟩, by simp, rfl⟩
  | some data =>
    obtain ⟨hnull, hdata⟩ := hholds
    have hnot : ¬ (part.isNullable = true ∧ key pos = 1) := fun h => hnull h.1 h.2
    simp only [hnot, if_false, Option.isNone_some, Bool.or_false]
    by_cases hvar : part.isVar = true
    · rw [if_pos ((isVar_iff hpart).mpr hvar)]
      rw [if_pos hvar] at hdata
      obtain ⟨hlt, hlead, hread⟩ := hdata
      have hvalue : Bytes.ofLe (key.read (pos + part.nullLen) 2) = data.length := by
        rw [hlead, Bytes.ofLe_le_of_lt (by omega)]
      refine ⟨_, rfl, _, rfl, ?_, ?_⟩
      · simp only [hvalue, partData_of_isVar hvar]
      · simp only [hvalue, hread, partData_of_isVar hvar]
    · rw [if_neg (fun h => hvar ((isVar_iff hpart).mp h))]
      rw [if_neg hvar] at hdata
      obtain ⟨hlength, hread⟩ := hdata
      cases hc : part.field.columnType with
      | string n padChar =>
        rw [hc] at hlength
        have hn : data.length = n := hlength
        rw [hn] at hread
        have htrim := length_trimPad padChar data
        have hdata := partData_string hc data
        refine ⟨_, rfl, _, rfl, ?_, ?_⟩
        · simp only [hread, hdata, List.length_take]
          omega
        · simp only [hread, hdata]
          rw [← Mem.take_read key _ (show trimPad padChar data ≤ n by omega), hread]
      | _ =>
        have hdata : partData part data = data := by
          unfold partData
          rw [hc]
        rw [hc] at hlength
        refine ⟨_, rfl, _, rfl, ?_, ?_⟩
        · rw [hdata]
          exact hlength.symm
        · rw [hdata]
          rw [hlength] at hread
          exact hread

end

/-! ## The walk -/

section

variable {parts : List KeyPart}

theorem storeAt_succ {i : Nat} {part : KeyPart} (h : parts[i]? = some part) :
    storeAt parts (i + 1) = storeAt parts i + part.storeLength := by
  unfold storeAt
  rw [List.take_add_one, h, List.map_append, List.sum_append]
  simp

theorem KeyPart.Valid.storeLength_pos {part : KeyPart} (h : part.Valid) : 0 < part.storeLength := by
  have hstore := h.storeLength
  have hpos := h.length_pos
  omega

/-- Later parts stand further behind. -/
theorem storeAt_lt (hparts : ∀ part ∈ parts, part.Valid) {i j : Nat} (hij : i < j)
    (hj : j ≤ parts.length) : storeAt parts i < storeAt parts j := by
  induction j with
  | zero => omega
  | succ j ih =>
    obtain ⟨part, hpart⟩ : ∃ part, parts[j]? = some part :=
      ⟨_, List.getElem?_eq_getElem (by omega)⟩
    have hpos := (hparts part (List.mem_of_getElem? hpart)).storeLength_pos
    rw [storeAt_succ hpart]
    rcases Nat.lt_or_eq_of_le (Nat.le_of_lt_succ hij) with hlt | rfl
    · have hrec := ih hlt (by omega)
      omega
    · omega

theorem storeAt_lt_iff (hparts : ∀ part ∈ parts, part.Valid) {i j : Nat} (hi : i ≤ parts.length)
    (hj : j ≤ parts.length) : storeAt parts i < storeAt parts j ↔ i < j := by
  constructor
  · intro h
    by_contra hle
    rcases Nat.lt_or_eq_of_le (Nat.le_of_not_lt hle) with hlt | rfl
    · have hrev := storeAt_lt hparts hlt hi
      omega
    · omega
  · intro h
    exact storeAt_lt hparts h hj

end

section

variable {parts : List KeyPart} {search : SearchKey} {starts ends : List (Option (List UInt8))}

/-- What `key_info` says about part `j` after its round. -/
structure Described (search : SearchKey) (starts ends : List (Option (List UInt8))) (j : Nat)
    (part : KeyPart) (info : KeyInfo) : Prop where
  left : ∀ value, starts[j]? = some value → Denotes search.key part info.left value
  noLeft : starts.length ≤ j → info.left = ⟨none, 0⟩
  right : search.indexSkipScan = false → ∀ range, search.endRange = some range →
    ∀ value, ends[j]? = some value → Denotes range.key part info.right value
  noRight : search.indexSkipScan = true ∨ ends.length ≤ j → info.right = ⟨none, 0⟩
  null : info.isKeyNull = true ↔
    starts[j]? = some none ∨ search.indexSkipScan = false ∧ ends[j]? = some none

/-- The loop before part `i`. With an empty start key the pointers are used once only. -/
structure FillInv (parts : List KeyPart) (search : SearchKey)
    (starts ends : List (Option (List UInt8))) (i : Nat) (st : FillState) : Prop where
  keyNum : st.keyNum = i
  key : i = 0 ∨ search.keyLen ≠ 0 → st.key = storeAt parts i
  myKey : i = 0 ∨ search.keyLen ≠ 0 → st.myKey = storeAt parts (min i ends.length)
  done : ∀ j, j < i → ∀ part, parts[j]? = some part →
    Described search starts ends j part (st.keyInfo j)
  todo : ∀ j, i ≤ j → st.keyInfo j = KeyInfo.zero

theorem SearchImages.ends_le (himages : SearchImages parts search starts ends) :
    ends.length ≤ parts.length := by
  cases hend : search.endRange with
  | none =>
    rw [himages.noStop hend]
    exact Nat.zero_le _
  | some range => exact (himages.stop range hend).count

/-- The second pointer is before the end of its image as long as the image has parts left. -/
theorem hasEnd_iff (hparts : ∀ part ∈ parts, part.Valid)
    (himages : SearchImages parts search starts ends) (i : Nat) :
    search.hasEnd (storeAt parts (min i ends.length)) = true ↔ i < ends.length := by
  have hle := himages.ends_le
  unfold SearchKey.hasEnd
  cases hend : search.endRange with
  | none =>
    rw [himages.noStop hend]
    simp
  | some range =>
    simp only [decide_eq_true_eq]
    rw [(himages.stop range hend).length, storeAt_lt_iff hparts (by omega) hle]
    omega

/-- The left key of part `i`. -/
theorem convertLeft_spec (hparts : ∀ part ∈ parts, part.Valid)
    (himages : SearchImages parts search starts ends) {i : Nat} {part : KeyPart}
    (hpart : parts[i]? = some part) (hlt : search.keyLen ≠ 0 → i < starts.length)
    (hnil : search.keyLen = 0 → starts = []) :
    ∃ left, ctcConvertMysqlKeyToCantian part search.key (storeAt parts i) search.keyLen
        ⟨0, ⟨none, 0⟩, false⟩ = left ∧
      (search.keyLen ≠ 0 → left.dataFieldLen = part.storeLength) ∧
      (∀ value, starts[i]? = some value → Denotes search.key part left.side value) ∧
      (starts.length ≤ i → left.side = ⟨none, 0⟩) ∧
      (left.isKeyNull = true ↔ starts[i]? = some none) := by
  by_cases hlen : search.keyLen = 0
  · have hstarts := hnil hlen
    subst hstarts
    refine ⟨_, rfl, fun h => absurd hlen h, by simp, ?_, ?_⟩
    · intro _
      unfold ctcConvertMysqlKeyToCantian
      rw [if_pos hlen]
    · unfold ctcConvertMysqlKeyToCantian
      rw [if_pos hlen]
      simp
  · have hi := hlt hlen
    obtain ⟨value, hvalue⟩ : ∃ value, starts[i]? = some value :=
      ⟨_, List.getElem?_eq_getElem hi⟩
    obtain ⟨side, hrun, hden⟩ := ctcConvertMysqlKeyToCantian_spec
      (hparts part (List.mem_of_getElem? hpart)) hlen
      (himages.start.holds i part value hpart hvalue) ⟨0, ⟨none, 0⟩, false⟩
    refine ⟨_, hrun, fun _ => rfl, ?_, fun h => absurd hi (by omega), ?_⟩
    · intro value' hvalue'
      obtain rfl := Option.some.inj (hvalue.symm.trans hvalue')
      exact hden
    · rw [hvalue]
      simp

/-- The right key of part `i`, after its left key. -/
theorem convertRight_spec (hparts : ∀ part ∈ parts, part.Valid)
    (himages : SearchImages parts search starts ends) {i : Nat} {part : KeyPart}
    (hpart : parts[i]? = some part) {out : ConvertedKey} (hout : out.side = ⟨none, 0⟩) :
    ∃ right, convertRight search part (storeAt parts (min i ends.length)) out = right ∧
      (out.dataFieldLen = part.storeLength → right.dataFieldLen = part.storeLength) ∧
      (search.indexSkipScan = false → ∀ range, search.endRange = some range →
        ∀ value, ends[i]? = some value → Denotes range.key part right.side value) ∧
      (search.indexSkipScan = true ∨ ends.length ≤ i → right.side = ⟨none, 0⟩) ∧
      (right.isKeyNull = true ↔ out.isKeyNull = true ∨
        search.indexSkipScan = false ∧ ends[i]? = some none) := by
  have hend := hasEnd_iff hparts himages i
  unfold SearchKey.hasEnd at hend
  unfold convertRight
  cases hrange : search.endRange with
  | none =>
    rw [himages.noStop hrange]
    exact ⟨out, rfl, id, by simp, fun _ => hout, by simp⟩
  | some range =>
    simp only [hrange, decide_eq_true_eq] at hend
    dsimp only
    by_cases hright : search.indexSkipScan = false ∧ i < ends.length
    · obtain ⟨hskip, hi⟩ := hright
      have himage := himages.stop range hrange
      obtain ⟨value, hvalue⟩ : ∃ value, ends[i]? = some value :=
        ⟨_, List.getElem?_eq_getElem hi⟩
      have hpos := hend.mpr hi
      rw [Nat.min_eq_left hi.le] at hpos ⊢
      have hne : range.length ≠ 0 := by omega
      obtain ⟨side, hrun, hden⟩ := ctcConvertMysqlKeyToCantian_spec
        (hparts part (List.mem_of_getElem? hpart)) hne
        (himage.holds i part value hpart hvalue) out
      rw [if_pos (by simp [hskip, hpos]), hrun]
      refine ⟨_, rfl, fun _ => rfl, ?_, ?_, ?_⟩
      · intro _ range' hrange' value' hvalue'
        obtain rfl := Option.some.inj hrange'
        obtain rfl := Option.some.inj (hvalue.symm.trans hvalue')
        exact hden
      · rintro (h | h)
        · rw [hskip] at h
          cases h
        · omega
      · rw [hvalue]
        simp [hskip]
    · have hno : ¬ ((!search.indexSkipScan &&
          decide (storeAt parts (min i ends.length) < range.length)) = true) := by
        simp only [Bool.and_eq_true, Bool.not_eq_true', decide_eq_true_eq, hend]
        exact hright
      rw [if_neg hno]
      refine ⟨out, rfl, id, ?_, fun _ => hout, ?_⟩
      · intro hskip range' _ value hvalue
        exact absurd ⟨hskip, (List.getElem?_eq_some_iff.mp hvalue).1⟩ hright
      · constructor
        · exact Or.inl
        · rintro (h | ⟨hskip, hnull⟩)
          · exact h
          · exact absurd ⟨hskip, (List.getElem?_eq_some_iff.mp hnull).1⟩ hright

/-- **One round:** part `i` is described and the pointers move on. -/
theorem FillInv.step (hparts : ∀ part ∈ parts, part.Valid)
    (himages : SearchImages parts search starts ends) {i : Nat} {st : FillState} {part : KeyPart}
    (hinv : FillInv parts search starts ends i st) (hpart : parts[i]? = some part)
    (hlt : search.keyLen ≠ 0 → i < starts.length) (hzero : search.keyLen = 0 → i = 0)
    (hnil : search.keyLen = 0 → starts = []) :
    FillInv parts search starts ends (i + 1) (fillStep search part st) := by
  have hat : i = 0 ∨ search.keyLen ≠ 0 := by
    by_cases hlen : search.keyLen = 0
    · exact Or.inl (hzero hlen)
    · exact Or.inr hlen
  obtain ⟨left, hleft, hwidth, hl, hnol, hnull⟩ :=
    convertLeft_spec hparts himages hpart hlt hnil
  have hout : (⟨left.dataFieldLen, ⟨none, 0⟩, left.isKeyNull⟩ : ConvertedKey).side = ⟨none, 0⟩ := rfl
  obtain ⟨right, hright, hwidth', hr, hnor, hnull'⟩ := convertRight_spec hparts himages hpart hout
  have hinfo : st.keyInfo i = KeyInfo.zero := hinv.todo i le_rfl
  have hstep : fillStep search part st =
      { keyNum := i + 1
        key := storeAt parts i + right.dataFieldLen
        myKey := if search.hasEnd (storeAt parts (min i ends.length)) then
            storeAt parts (min i ends.length) + right.dataFieldLen
          else storeAt parts (min i ends.length)
        keyInfo := Function.update st.keyInfo i ⟨right.isKeyNull, left.side, right.side⟩ } := by
    unfold fillStep
    simp only [hinv.keyNum, hinv.key hat, hinv.myKey hat, hinfo, KeyInfo.zero, hleft, hright]
  rw [hstep]
  refine ⟨rfl, ?_, ?_, ?_, ?_⟩
  · intro hor
    have hlen : search.keyLen ≠ 0 := hor.resolve_left (Nat.succ_ne_zero i)
    simp only [hwidth' (hwidth hlen), storeAt_succ hpart]
  · intro hor
    have hlen : search.keyLen ≠ 0 := hor.resolve_left (Nat.succ_ne_zero i)
    simp only [hwidth' (hwidth hlen), hasEnd_iff hparts himages i]
    by_cases hi : i < ends.length
    · rw [if_pos hi, Nat.min_eq_left hi.le, Nat.min_eq_left hi, storeAt_succ hpart]
    · rw [if_neg hi, Nat.min_eq_right (by omega), Nat.min_eq_right (by omega)]
  · intro j hj part' hpart'
    by_cases hji : j = i
    · subst hji
      obtain rfl := Option.some.inj (hpart.symm.trans hpart')
      simp only [Function.update_self]
      exact ⟨hl, hnol, hr, hnor, by rw [hnull', hnull]⟩
    · simp only [Function.update_of_ne hji]
      exact hinv.done j (by omega) part' hpart'
  · intro j hj
    simp only [Function.update_of_ne (show j ≠ i by omega)]
    exact hinv.todo j (by omega)

/-- **The loop** describes the parts of the start key, or one part if that is empty. -/
theorem fillLoop_spec (hparts : ∀ part ∈ parts, part.Valid)
    (himages : SearchImages parts search starts ends) {rest : List KeyPart} {i : Nat}
    {st : FillState} (hrest : parts.drop i = rest) (hinv : FillInv parts search starts ends i st)
    (hi : i < max 1 starts.length) (hzero : search.keyLen = 0 → i = 0)
    (hne : i < parts.length) :
    ∃ st', fillLoop search rest st = .ok st' ∧
      FillInv parts search starts ends (max 1 starts.length) st' := by
  have hlen := himages.start.length
  have hcount := himages.start.count
  have hnil : search.keyLen = 0 → starts = [] := by
    intro h0
    by_contra hstarts
    have hpos := storeAt_lt hparts (List.length_pos_of_ne_nil hstarts) hcount
    omega
  have hstart : search.keyLen ≠ 0 → 0 < starts.length := by
    intro h0
    by_contra hpos
    rw [Nat.le_zero.mp (Nat.le_of_not_lt hpos)] at hlen
    exact h0 hlen
  induction rest generalizing i st with
  | nil =>
    rw [List.drop_eq_nil_iff] at hrest
    omega
  | cons part rest ih =>
    have hpart : parts[i]? = some part := by
      rw [← List.head?_drop, hrest]
      rfl
    have hnext : parts.drop (i + 1) = rest := by
      rw [← List.drop_drop, hrest]
      rfl
    have hinv' := hinv.step hparts himages hpart (fun h0 => by have := hstart h0; omega) hzero hnil
    rw [fillLoop]
    by_cases h0 : search.keyLen = 0
    · rw [if_neg (fun h => h.2 h0)]
      have hone : i + 1 = max 1 starts.length := by
        rw [hzero h0, hnil h0]
        rfl
      exact ⟨_, rfl, hone ▸ hinv'⟩
    · have hpos := hstart h0
      have hkey : (fillStep search part st).key < search.keyLen ↔ i + 1 < starts.length := by
        rw [hinv'.key (Or.inr h0), hlen]
        exact storeAt_lt_iff hparts (by omega) hcount
      by_cases hmore : i + 1 < starts.length
      · rw [if_pos ⟨hkey.mpr hmore, h0⟩]
        exact ih hnext hinv' (by omega) (fun h => absurd h h0) (by omega)
      · rw [if_neg (fun h => hmore (hkey.mp h.1))]
        have hlast : i + 1 = max 1 starts.length := by omega
        exact ⟨_, rfl, hlast ▸ hinv'⟩

/-- **Search keys are taken apart at their parts.** The number of keys is that of the parts of
the start key, or one if that is empty. A key denotes the data of its part in the image it comes
from; in a skip scan the end of the range is not looked at. A part is marked as NULL when the
start key has NULL there, or the end key outside of a skip scan, or when it comes after the
start key. -/
theorem ctcFillIndexKeyInfo_spec (hparts : ∀ part ∈ parts, part.Valid) (hne : parts ≠ [])
    (himages : SearchImages parts search starts ends) :
    ∃ out, ctcFillIndexKeyInfo parts search = .ok out ∧ out.keyNum = max 1 starts.length ∧
      ∀ i part, parts[i]? = some part →
        (∀ value, starts[i]? = some value →
          DenotesValue search.key part (out.keyInfo i).left value) ∧
        (starts.length ≤ i → (out.keyInfo i).left = ⟨none, 0⟩) ∧
        (i < out.keyNum → search.indexSkipScan = false → ∀ range, search.endRange = some range →
          ∀ value, ends[i]? = some value →
            DenotesValue range.key part (out.keyInfo i).right value) ∧
        (out.keyNum ≤ i ∨ search.indexSkipScan = true ∨ ends.length ≤ i →
          (out.keyInfo i).right = ⟨none, 0⟩) ∧
        ((out.keyInfo i).isKeyNull = true ↔ out.keyNum ≤ i ∨ starts[i]? = some none ∨
          search.indexSkipScan = false ∧ ends[i]? = some none) := by
  have hinit : FillInv parts search starts ends 0 ⟨0, 0, 0, fun _ => KeyInfo.zero⟩ :=
    ⟨rfl, fun _ => rfl, fun _ => by rw [Nat.zero_min]; rfl, fun j hj => absurd hj (Nat.not_lt_zero j),
      fun _ _ => rfl⟩
  obtain ⟨st, hrun, hinv⟩ := fillLoop_spec hparts himages rfl hinit
    (Nat.lt_of_lt_of_le Nat.zero_lt_one (Nat.le_max_left _ _)) (fun _ => rfl)
    (List.length_pos_of_ne_nil hne)
  unfold ctcFillIndexKeyInfo
  rw [List.drop_zero] at hrun
  rw [hrun]
  refine ⟨_, rfl, hinv.keyNum, ?_⟩
  intro i part hpart
  have hlt : i < parts.length := (List.getElem?_eq_some_iff.mp hpart).1
  have hcount := himages.start.count
  simp only [hinv.keyNum]
  by_cases hi : i < max 1 starts.length
  · have hdesc := hinv.done i hi part hpart
    rw [if_neg (by omega)]
    refine ⟨fun value hvalue => (hdesc.left value hvalue).denotesValue, hdesc.noLeft,
      fun _ hskip range hrange value hvalue =>
        (hdesc.right hskip range hrange value hvalue).denotesValue, ?_, ?_⟩
    · rintro (h | h)
      · omega
      · exact hdesc.noRight h
    · rw [hdesc.null]
      constructor
      · exact Or.inr
      · rintro (h | h)
        · omega
        · exact h
  · have htodo : st.keyInfo i = KeyInfo.zero := hinv.todo i (by omega)
    have hnone : starts[i]? = none := List.getElem?_eq_none (by omega)
    rw [if_pos ⟨by omega, hlt⟩, htodo]
    refine ⟨?_, fun _ => rfl, fun h => absurd h hi, fun _ => rfl, ?_⟩
    · intro value hvalue
      rw [hnone] at hvalue
      cases hvalue
    · simp only [true_iff]
      exact Or.inl (by omega)

end

/-! ### A nullable column -/

/-- A nullable INT with an index of its own. -/
def intPart : KeyPart where
  field := ⟨"a", .long false, 1, some .first, .none, false, false⟩
  length := 4
  storeLength := 5
  partOfPrefixkey := false
  partOfKeyNotExtended := true

/-- A skip scan from 7 to NULL. -/
def skipSearch : SearchKey where
  key := fun a => ([0, 7, 0, 0, 0] : List UInt8).getD a 0
  keyLen := 5
  endRange := some ⟨fun _ => 1, 5⟩
  indexSkipScan := true

theorem intPart_valid : intPart.Valid :=
  ⟨rfl, by decide, fun _ => rfl, fun h => by cases h⟩

def skipStarts : List (Option (List UInt8)) := [some [7, 0, 0, 0]]

def skipEnds : List (Option (List UInt8)) := [none]

theorem skipSearch_images : SearchImages [intPart] skipSearch skipStarts skipEnds := by
  refine ⟨⟨le_rfl, rfl, ?_⟩, ?_, fun h => by cases h⟩
  · intro i part value hpart hvalue
    cases i with
    | zero =>
      cases hpart
      cases hvalue
      exact ⟨fun _ => by decide, rfl, rfl⟩
    | succ i => cases hpart
  · intro range hrange
    cases hrange
    refine ⟨le_rfl, rfl, ?_⟩
    intro i part value hpart hvalue
    cases i with
    | zero =>
      cases hpart
      cases hvalue
      exact ⟨rfl, rfl⟩
    | succ i => cases hpart

theorem intParts_valid : ∀ part ∈ [intPart], part.Valid := by
  intro part hpart
  obtain rfl := List.mem_singleton.mp hpart
  exact intPart_valid

/-- UCS2: two bytes a character, the higher first, and a pad character of two bytes. -/
def ucs2 : CharacterSet UInt16 where
  encode c := [(c >>> 8).toUInt8, c.toUInt8]
  pad := 0x20

/-- A `CHAR(1) CHARACTER SET ucs2` with an index of its own. -/
def ucs2Part : KeyPart where
  field := ⟨"c", .string 2 0x20, 0, none, .none, false, false⟩
  length := 2
  storeLength := 2
  partOfPrefixkey := false
  partOfKeyNotExtended := true

/-- A search for the character U+0420. -/
def ucs2Search : SearchKey where
  key := fun a => ([0x04, 0x20] : List UInt8).getD a 0
  keyLen := 2
  endRange := none
  indexSkipScan := false

theorem ucs2Part_valid : ∀ part ∈ [ucs2Part], part.Valid := by
  intro part hpart
  obtain rfl := List.mem_singleton.mp hpart
  exact ⟨rfl, by decide, fun _ => rfl, fun h => by cases h⟩

theorem ucs2Search_images :
    SearchImages [ucs2Part] ucs2Search [some (ucs2.text [0x420])] [] := by
  refine ⟨⟨le_rfl, rfl, ?_⟩, fun range hrange => (by cases hrange), fun _ => rfl⟩
  intro i part value hpart hvalue
  cases i with
  | zero =>
    cases hpart
    cases hvalue
    exact ⟨fun h => (by cases h), rfl, rfl⟩
  | succ i => cases hpart

/-- The end of a skip scan is NULL, and its part is not marked; and the character U+0420 of UCS2,
which is no pad character, is cut in two. -/
theorem skipSearch_end_not_marked :
    ((∀ part ∈ [intPart], part.Valid) ∧ SearchImages [intPart] skipSearch skipStarts skipEnds ∧
      ∃ out, ctcFillIndexKeyInfo [intPart] skipSearch = .ok out ∧
        ¬ ∀ i part, [intPart][i]? = some part → ((out.keyInfo i).isKeyNull = true ↔
          skipStarts[i]? = some none ∨ skipEnds[i]? = some none ∨ skipStarts.length ≤ i)) ∧
    (∀ part ∈ [ucs2Part], part.Valid) ∧
      SearchImages [ucs2Part] ucs2Search [some (ucs2.text [0x420])] [] ∧
      ucs2.strip [0x420] = [0x420] ∧ (ucs2.text [0x420]).length = 2 ∧
      ∃ out, ctcFillIndexKeyInfo [ucs2Part] ucs2Search = .ok out ∧
        (out.keyInfo 0).left = ⟨some 0, 1⟩ := by
  refine ⟨⟨intParts_valid, skipSearch_images, _, rfl, ?_⟩, ucs2Part_valid, ucs2Search_images,
    by decide, rfl, _, rfl, by decide⟩
  intro h
  have hmarked := (h 0 intPart rfl).mpr (Or.inr (Or.inl rfl))
  exact absurd hmarked (by decide)

theorem ctcFillIndexKeyInfo_skipSearch :
    ∃ out, ctcFillIndexKeyInfo [intPart] skipSearch = .ok out ∧ out.keyNum = 1 ∧
      Denotes skipSearch.key intPart (out.keyInfo 0).left (some [7, 0, 0, 0]) ∧
      (out.keyInfo 0).right = ⟨none, 0⟩ := by
  obtain ⟨out, hrun, hnum, hout⟩ :=
    ctcFillIndexKeyInfo_spec intParts_valid (List.cons_ne_nil _ _) skipSearch_images
  obtain ⟨hleft, -, -, hright, -⟩ := hout 0 intPart rfl
  exact ⟨out, hrun, hnum, (hleft _ rfl).bytes, hright (Or.inr (Or.inl rfl))⟩

end CantianConnector.Index
