import Mathlib.Algebra.Group.Nat.Defs
import CantianConnector.Ddl.IndexExpression

/-!
# The keys of a CREATE TABLE request

`ctc_ddl_create_table_fill_add_key` fills in the keys of a request, from the `KEY`s of the table or
from the indexes of its dictionary definition, and stops at the first one that fails a check. It
returns a `bool`, where true is success. A name that is too long and a key of length zero are passed
on as error codes, and a code that is not zero is true. What is reported therefore depends on which
check is the first to fail (`fillCreateTableReq_reports_iff`).
-/

namespace CantianConnector.Ddl

/-! ## Keys -/

/-- `CTC_IDENTIFIER_MAX_LEN`. -/
def ctcIdentifierMaxLen : Nat := 64

/-- `check_ctc_identifier_name`; `none` is a null pointer. -/
def checkCtcIdentifierName : Option SqlText → Int
  | none => 0
  | some name => if ctcIdentifierMaxLen < name.length then -1 else 0

inductive CtcKeyType where
  | unknown
  | primary
  | unique
  | multiple
  | fulltext
  | spatial
  | foreign
deriving DecidableEq, Repr

/-- `ha_key_alg` and `dd::Index::enum_index_algorithm`. -/
inductive KeyAlgorithm where
  | seSpecific
  | btree
  | rtree
  | hash
  | fulltext
deriving DecidableEq, Repr

/-- `dd::Index::enum_index_type`. -/
inductive IndexType where
  | primary
  | unique
  | multiple
  | fulltext
  | spatial
deriving DecidableEq, Repr

/-- A `Field` that a key part refers to. `funcExpr` is the expression of a field for a functional
index; `datatype` and `isUnsigned` are what the request says of it. -/
structure KeyField extends PrefixField where
  isVirtualGcol : Bool
  funcExpr : Option ExprItem
  isArray : Bool
  blob : Bool
  isString : Bool
  isVarchar : Bool
  packLength : Nat
  lengthBytes : Nat
  mbmaxlen : Nat
  datatype : Int
  isUnsigned : Bool

/-- `KEY_PART_INFO`, or a `dd::Index_element`: the name of its column, the field found for it, its
length and whether it is in descending order. -/
structure KeyElement where
  columnName : SqlText
  fld : KeyField
  length : Nat
  descending : Bool

/-- `KEY`. -/
structure FormKey where
  keyLength : Nat
  name : SqlText
  spatial : Bool
  nosame : Bool
  fulltext : Bool
  generatedKey : Bool
  algorithm : KeyAlgorithm
  keyPart : List KeyElement

/-- `dd::Index`. -/
structure DictIndex where
  name : SqlText
  type : IndexType
  algorithm : KeyAlgorithm
  elements : List KeyElement

/-- Where the keys come from. -/
inductive TableKeys where
  | tableDefNull (keys : List FormKey)
  | tableDef (indexes : List DictIndex)

/-- `TcDb__CtcDDLTableKey`. -/
structure ReqKey where
  user : SqlText
  table : SqlText
  name : SqlText
  space : Option SqlText
  keyType : CtcKeyType
  algorithm : Int
  isFunc : Bool
  columns : List ReqKeyPart
  isConstraint : Bool
  isDsc : Bool
  parallelism : Int
deriving DecidableEq, Repr

/-- What the functions know of the statement: the names in the request, the parallelism of the
session, the fields of the table and the printer of `json_value`. -/
structure KeyEnv where
  user : SqlText
  table : SqlText
  parallelism : Int
  form : List FormField
  printJsonValue : SqlText → Bool → List ExprItem → SqlText

/-- A key of the request before it is filled in. -/
def initReqKey (env : KeyEnv) (parts : Nat) : ReqKey where
  user := []
  table := []
  name := []
  space := some []
  keyType := .primary
  algorithm := 0
  isFunc := false
  columns := List.replicate parts emptyPart
  isConstraint := false
  isDsc := false
  parallelism := env.parallelism

/-! ## Checks -/

/-- `get_ctc_key_type`: the type, or the message of the error. -/
def getCtcKeyType (key : FormKey) : Except SqlText CtcKeyType :=
  if key.spatial then .error "unsupport index type:CTC_KEYTYPE_SPATIAL".toList
  else if key.nosame then
    .ok (if key.name.map Char.toUpper = "PRIMARY".toList then .primary else .unique)
  else if key.fulltext then .error "unsupport index type:CTC_KEYTYPE_FULLTEXT".toList
  else if key.generatedKey then .ok .foreign
  else .ok .multiple

/-- `ctc_ddl_get_create_key_type`. -/
def ctcDdlGetCreateKeyType : IndexType → Except SqlText CtcKeyType
  | .primary => .ok .primary
  | .unique => .ok .unique
  | .multiple => .ok .multiple
  | .fulltext => .error "unsupport index type:IT_FULLTEXT".toList
  | .spatial => .error "unsupport index type:IT_SPATIAL".toList

/-- The algorithm of a key, `CTC_HA_KEY_ALG_BTREE` whenever there is one. -/
def ctcKeyAlgorithm (enumerators : SqlText) : KeyAlgorithm → Except SqlText Int
  | .seSpecific =>
    .error ("unsupport index hash_type:".toList ++ enumerators ++ "SE_SPECIFIC".toList)
  | .fulltext =>
    .error ("unsupport index hash_type:".toList ++ enumerators ++ "FULLTEXT".toList)
  | .btree => .ok 1
  | .rtree => .ok 1
  | .hash => .ok 1

/-- `get_ctc_key_algorithm`. -/
def getCtcKeyAlgorithm : KeyAlgorithm → Except SqlText Int := ctcKeyAlgorithm "HA_KEY_ALG_".toList

/-- `ctc_ddl_get_create_key_algorithm`. -/
def ctcDdlGetCreateKeyAlgorithm : KeyAlgorithm → Except SqlText Int := ctcKeyAlgorithm "IA_".toList

/-- `get_prefix_index_len`. -/
def getPrefixIndexLen (field : KeyField) (keyLength : Nat) : Nat :=
  let keyLength := keyLength % 2 ^ 16
  if !field.isArray && (field.blob || (decide (keyLength < field.packLength) && field.isString) ||
      (field.isVarchar && decide (keyLength < field.packLength - field.lengthBytes))) then
    keyLength / field.mbmaxlen
  else 0

/-! ## Filling in a key -/

/-- The branches of both `..._fill_key_part` functions: the key, the part, and `is_prefix_key`. -/
def fillPartClause (env : KeyEnv) (element : KeyElement) (keyDef : ReqKey) (part : ReqKeyPart) :
    Reported (ReqKey × ReqKeyPart × Bool) :=
  match element.fld.funcExpr with
  | some expr =>
    match ctcFillFuncKeyPart env.printJsonValue env.form expr part with
    | .error messages => .error messages
    | .ok part => .ok ({ keyDef with isFunc := true }, part, false)
  | none =>
    if element.fld.isVirtualGcol then
      .error ["Cantian does not support index on virtual generated column.".toList]
    else
      let prefixLen := getPrefixIndexLen element.fld element.length
      if prefixLen ≠ 0 then
        let part := ctcFillPrefixFuncKeyPart element.fld.toPrefixField prefixLen part
        .ok (keyDef, { part with name := element.columnName }, true)
      else
        .ok (keyDef,
          { part with isFunc := false, funcText := none, name := element.columnName }, false)

/-- Both `..._fill_key_part` functions. -/
def fillKeyPart (env : KeyEnv) (element : KeyElement) (keyDef : ReqKey) (part : ReqKeyPart) :
    Reported (ReqKey × ReqKeyPart) :=
  let keyDef := if element.descending then { keyDef with isDsc := true } else keyDef
  match fillPartClause env element keyDef part with
  | .error messages => .error messages
  | .ok (keyDef, part, isPrefixKey) =>
    .ok (keyDef, { part with
      length := element.length
      -- CTC_DDL_TYPE_VARCHAR
      datatype := if isPrefixKey && element.fld.blob then 15 else element.fld.datatype
      isUnsigned := element.fld.isUnsigned })

/-- The loop over the parts of a key. -/
def fillKeyParts (env : KeyEnv) : List KeyElement → ReqKey → Reported (ReqKey × List ReqKeyPart)
  | [], keyDef => .ok (keyDef, [])
  | element :: elements, keyDef =>
    match fillKeyPart env element keyDef emptyPart with
    | .error messages => .error messages
    | .ok (keyDef, part) =>
      match fillKeyParts env elements keyDef with
      | .error messages => .error messages
      | .ok (keyDef, parts) => .ok (keyDef, part :: parts)

/-- A return in the middle of the keys: the value as the `bool` it becomes, what was reported, and
the key as it is then. The parts of a key are dropped when one of them is rejected. -/
structure Stop where
  ret : Bool
  messages : List SqlText
  keyDef : ReqKey

/-- The conversion of a return code to `bool`. -/
def boolOfInt (ret : Int) : Bool := decide (ret ≠ 0)

/-- `initialize_ddl_table_key_req_key_def`: the return code and the key. -/
def initializeReqKeyDef (env : KeyEnv) (name : SqlText) (keyDef : ReqKey) : Int × ReqKey :=
  let keyDef := { keyDef with user := env.user, table := env.table }
  let ret := checkCtcIdentifierName (some name)
  if ret ≠ 0 then (ret, keyDef) else (0, { keyDef with name := name, space := none })

/-- What both functions do for a key behind its name: `type` and `algorithm` are the answers of the
checks, `constraint` says whether `is_constraint` follows the type. -/
def fillKeyBody (env : KeyEnv) (type : Except SqlText CtcKeyType) (algorithm : Except SqlText Int)
    (constraint : Bool) (elements : List KeyElement) (keyDef : ReqKey) : Except Stop ReqKey :=
  match type with
  | .error message => .error ⟨false, [message], { keyDef with keyType := .unknown }⟩
  | .ok keyType =>
    match algorithm with
    | .error message =>
      .error ⟨false, [message], { keyDef with keyType := keyType, algorithm := 1 }⟩
    | .ok algorithm =>
      let keyDef := { keyDef with
        keyType := keyType
        algorithm := algorithm
        isConstraint := keyDef.isConstraint ||
          (constraint && (keyType == .primary || keyType == .unique)) }
      match fillKeyParts env elements keyDef with
      | .error messages => .error ⟨false, messages, keyDef⟩
      | .ok (keyDef, columns) =>
        .ok { keyDef with columns := columns, parallelism := env.parallelism }

/-- What both functions do for a key, after the length check. -/
def fillKey (env : KeyEnv) (name : SqlText) (type : Except SqlText CtcKeyType)
    (algorithm : Except SqlText Int) (constraint : Bool) (elements : List KeyElement)
    (keyDef : ReqKey) : Except Stop ReqKey :=
  match initializeReqKeyDef env name keyDef with
  | (ret, keyDef) =>
    if ret ≠ 0 then .error ⟨boolOfInt ret, [name], keyDef⟩
    else fillKeyBody env type algorithm constraint elements keyDef

/-- `ER_WRONG_KEY_COLUMN`. -/
def erWrongKeyColumn : Int := 1167
/-- `HA_ERR_OUT_OF_MEM`. -/
def haErrOutOfMem : Int := 128
/-- `HA_ERR_WRONG_COMMAND`. -/
def haErrWrongCommand : Int := 131

/-- The name of the first column of a key, for its message. -/
def FormKey.firstColumn (key : FormKey) : SqlText := (key.keyPart.head?.map (·.columnName)).getD []

/-- A round of `ctc_ddl_create_table_fill_add_key_table_def_null`. -/
def tableDefNullFillKey (env : KeyEnv) (key : FormKey) (keyDef : ReqKey) : Except Stop ReqKey :=
  if key.keyLength = 0 then .error ⟨boolOfInt erWrongKeyColumn, [key.firstColumn], keyDef⟩
  else
    fillKey env key.name (getCtcKeyType key) (getCtcKeyAlgorithm key.algorithm) true key.keyPart
      keyDef

/-- A round of `ctc_ddl_create_table_fill_add_key_table_def_not_null`. -/
def tableDefNotNullFillKey (env : KeyEnv) (idx : DictIndex) (keyDef : ReqKey) :
    Except Stop ReqKey :=
  fillKey env idx.name (ctcDdlGetCreateKeyType idx.type)
    (ctcDdlGetCreateKeyAlgorithm idx.algorithm) false idx.elements keyDef

/-- The loop over the keys: what it returns, and the keys of the request. -/
def fillKeyList {κ : Type} (init : κ → ReqKey) (fill : κ → ReqKey → Except Stop ReqKey) :
    List κ → Bool × List ReqKey
  | [] => (true, [])
  | key :: keys =>
    match fill key (init key) with
    | .error stop => (stop.ret, stop.keyDef :: keys.map init)
    | .ok keyDef =>
      let later := fillKeyList init fill keys
      (later.1, keyDef :: later.2)

/-- `ctc_ddl_create_table_fill_add_key`. -/
def ctcDdlCreateTableFillAddKey (env : KeyEnv) : TableKeys → Bool × List ReqKey
  | .tableDefNull keys =>
    fillKeyList (fun key => initReqKey env key.keyPart.length) (tableDefNullFillKey env) keys
  | .tableDef indexes =>
    fillKeyList (fun idx => initReqKey env idx.elements.length) (tableDefNotNullFillKey env) indexes

/-! ## The request -/

/-- The answers of the other steps of `fill_create_table_req`: return codes, whether the memory of a
key can be allocated, and whether there is a buffer for the message. -/
structure CreateSteps where
  initDef : Int
  allocKey : Nat → Bool
  baseInfo : Int
  columnsInfo : Int
  foreignKeyInfo : Int
  buf : Bool

/-- `ctc_ddl_init_index_form`. -/
def ctcDdlInitIndexForm (allocKey : Nat → Bool) : Nat → List FormKey → Int
  | _, [] => 0
  | i, key :: keys =>
    if key.keyLength = 0 then erWrongKeyColumn
    else if allocKey i then ctcDdlInitIndexForm allocKey (i + 1) keys
    else haErrOutOfMem

/-- `ctc_ddl_init_create_table_def`. -/
def ctcDdlInitCreateTableDef (steps : CreateSteps) : TableKeys → Int
  | .tableDefNull keys =>
    if steps.initDef ≠ 0 then steps.initDef else ctcDdlInitIndexForm steps.allocKey 0 keys
  | .tableDef _ => steps.initDef

/-- `fill_create_table_req`: the return code, and the keys of the request that is packed. -/
def fillCreateTableReq (env : KeyEnv) (steps : CreateSteps) (table : TableKeys) :
    Int × Option (List ReqKey) :=
  let ret := ctcDdlInitCreateTableDef steps table
  if ret ≠ 0 then (ret, none)
  else if steps.baseInfo ≠ 0 then (steps.baseInfo, none)
  else if steps.columnsInfo ≠ 0 then (steps.columnsInfo, none)
  else if steps.foreignKeyInfo ≠ 0 then (steps.foreignKeyInfo, none)
  else
    match ctcDdlCreateTableFillAddKey env table with
    | (false, _) => (haErrWrongCommand, none)
    | (true, keyList) => if steps.buf then (0, some keyList) else (haErrOutOfMem, none)

/-! ## Which keys fail -/

/-- The key part is not rejected: the expression of a functional one is supported, the column of
another is not virtual. -/
def KeyElement.Supported (env : KeyEnv) (element : KeyElement) : Prop :=
  match element.fld.funcExpr with
  | some expr => Indexable env.form emptyPart expr
  | none => element.fld.isVirtualGcol = false

/-- A check answers with an error. -/
def Rejects {α : Type} (answer : Except SqlText α) : Prop := ∃ message, answer = .error message

/-- The key fails a check whose error code is not zero. -/
def FormKey.Silent (key : FormKey) : Prop :=
  key.keyLength = 0 ∨ ctcIdentifierMaxLen < key.name.length

/-- The key fails a check. -/
def FormKey.Fails (env : KeyEnv) (key : FormKey) : Prop :=
  key.Silent ∨ Rejects (getCtcKeyType key) ∨ Rejects (getCtcKeyAlgorithm key.algorithm) ∨
    ∃ element ∈ key.keyPart, ¬element.Supported env

def DictIndex.Silent (idx : DictIndex) : Prop := ctcIdentifierMaxLen < idx.name.length

def DictIndex.Fails (env : KeyEnv) (idx : DictIndex) : Prop :=
  idx.Silent ∨ Rejects (ctcDdlGetCreateKeyType idx.type) ∨
    Rejects (ctcDdlGetCreateKeyAlgorithm idx.algorithm) ∨
    ∃ element ∈ idx.elements, ¬element.Supported env

/-- The first key that fails, if there is one, is not a silent one. -/
def FirstReported {κ : Type} (fails silent : κ → Prop) (keys : List κ) : Prop :=
  ∀ before key later, keys = before ++ key :: later → (∀ k ∈ before, ¬fails k) → fails key →
    ¬silent key

/-! ## One key -/

/-- The outcome of a round: it stops with true at a silent key, with false at another key that
fails, and goes on otherwise. -/
structure KeyOutcome (fails silent : Prop) (outcome : Except Stop ReqKey) : Prop where
  passedOn : silent → ∃ stop, outcome = .error stop ∧ stop.ret = true
  reported : fails → ¬silent → ∃ stop, outcome = .error stop ∧ stop.ret = false
  passed : ¬fails → ∃ keyDef, outcome = .ok keyDef

section

variable {env : KeyEnv}

theorem fillPartClause_ok_iff {element : KeyElement} (keyDef : ReqKey) :
    (∃ filled, fillPartClause env element keyDef emptyPart = .ok filled) ↔
      element.Supported env := by
  unfold fillPartClause KeyElement.Supported
  cases element.fld.funcExpr with
  | some expr =>
    dsimp only
    constructor
    · rintro ⟨filled, hfilled⟩
      cases hpart : ctcFillFuncKeyPart env.printJsonValue env.form expr emptyPart with
      | error messages =>
        rw [hpart] at hfilled
        cases hfilled
      | ok part => exact (ctcFillFuncKeyPart_ok hpart).1
    · intro hindexable
      obtain ⟨part, hpart⟩ := hindexable.accepted env.printJsonValue
      rw [hpart]
      exact ⟨_, rfl⟩
  | none =>
    cases element.fld.isVirtualGcol with
    | true => simp
    | false =>
      refine iff_of_true ?_ rfl
      by_cases hprefix : getPrefixIndexLen element.fld element.length ≠ 0
      · exact ⟨_, if_pos hprefix⟩
      · exact ⟨_, if_neg hprefix⟩

theorem fillKeyPart_ok_iff {element : KeyElement} (keyDef : ReqKey) :
    (∃ filled, fillKeyPart env element keyDef emptyPart = .ok filled) ↔ element.Supported env := by
  rw [← fillPartClause_ok_iff
    (if element.descending then { keyDef with isDsc := true } else keyDef)]
  unfold fillKeyPart
  dsimp only
  generalize fillPartClause env element _ emptyPart = clause
  cases clause with
  | error messages => simp
  | ok filled => exact iff_of_true ⟨_, rfl⟩ ⟨_, rfl⟩

theorem fillKeyParts_ok_iff {elements : List KeyElement} (keyDef : ReqKey) :
    (∃ filled, fillKeyParts env elements keyDef = .ok filled) ↔
      ∀ element ∈ elements, element.Supported env := by
  induction elements generalizing keyDef with
  | nil => exact iff_of_true ⟨_, rfl⟩ (List.forall_mem_nil _)
  | cons element elements ih =>
    rw [List.forall_mem_cons, ← fillKeyPart_ok_iff keyDef, fillKeyParts]
    cases hpart : fillKeyPart env element keyDef emptyPart with
    | error messages => simp
    | ok filled =>
      obtain ⟨keyDef', part⟩ := filled
      rw [← ih keyDef', and_iff_right ⟨_, rfl⟩]
      dsimp only
      cases fillKeyParts env elements keyDef' with
      | error messages => simp
      | ok rest => exact iff_of_true ⟨_, rfl⟩ ⟨_, rfl⟩

/-- Behind the name every failure is reported. -/
theorem fillKeyBody_outcome (env : KeyEnv) (type : Except SqlText CtcKeyType)
    (algorithm : Except SqlText Int) (constraint : Bool) (elements : List KeyElement)
    (keyDef : ReqKey) :
    KeyOutcome
      (Rejects type ∨ Rejects algorithm ∨ ∃ element ∈ elements, ¬element.Supported env) False
      (fillKeyBody env type algorithm constraint elements keyDef) := by
  refine ⟨False.elim, fun hfails _ => ?_, fun hpass => ?_⟩
  · unfold fillKeyBody
    cases type with
    | error message => exact ⟨_, rfl, rfl⟩
    | ok keyType =>
      cases algorithm with
      | error message => exact ⟨_, rfl, rfl⟩
      | ok algorithm =>
        obtain ⟨_, htype⟩ | ⟨_, halgorithm⟩ | ⟨element, hmem, hnot⟩ := hfails
        · cases htype
        · cases halgorithm
        · dsimp only
          split
          · exact ⟨_, rfl, rfl⟩
          · rename_i hparts
            exact absurd ((fillKeyParts_ok_iff _).mp ⟨_, hparts⟩ element hmem) hnot
  · unfold fillKeyBody
    cases type with
    | error message => exact absurd (Or.inl ⟨_, rfl⟩) hpass
    | ok keyType =>
      cases algorithm with
      | error message => exact absurd (Or.inr (Or.inl ⟨_, rfl⟩)) hpass
      | ok algorithm =>
        have hall : ∀ element ∈ elements, element.Supported env := by
          intro element hmem
          by_contra hnot
          exact hpass (Or.inr (Or.inr ⟨element, hmem, hnot⟩))
        dsimp only
        split
        · rename_i hparts
          obtain ⟨_, hok⟩ := (fillKeyParts_ok_iff _).mpr hall
          rw [hparts] at hok
          cases hok
        · exact ⟨_, rfl⟩

theorem initializeReqKeyDef_of_long (env : KeyEnv) {name : SqlText}
    (h : ctcIdentifierMaxLen < name.length) (keyDef : ReqKey) :
    (initializeReqKeyDef env name keyDef).1 = -1 := by
  have hcheck : checkCtcIdentifierName (some name) = -1 := if_pos h
  rw [initializeReqKeyDef, hcheck, if_pos (by decide)]

theorem initializeReqKeyDef_of_short (env : KeyEnv) {name : SqlText}
    (h : ¬ctcIdentifierMaxLen < name.length) (keyDef : ReqKey) :
    (initializeReqKeyDef env name keyDef).1 = 0 := by
  have hcheck : checkCtcIdentifierName (some name) = 0 := if_neg h
  rw [initializeReqKeyDef, hcheck, if_neg (by decide)]

/-- The error of the name becomes true. -/
theorem fillKey_outcome (name : SqlText) (type : Except SqlText CtcKeyType)
    (algorithm : Except SqlText Int) (constraint : Bool) (elements : List KeyElement)
    (keyDef : ReqKey) :
    KeyOutcome
      (ctcIdentifierMaxLen < name.length ∨ Rejects type ∨ Rejects algorithm ∨
        ∃ element ∈ elements, ¬element.Supported env)
      (ctcIdentifierMaxLen < name.length)
      (fillKey env name type algorithm constraint elements keyDef) := by
  unfold fillKey
  by_cases hname : ctcIdentifierMaxLen < name.length
  · refine ⟨fun _ => ?_, fun _ hnot => absurd hname hnot, fun hnot => absurd (Or.inl hname) hnot⟩
    have hret := initializeReqKeyDef_of_long env hname keyDef
    generalize initializeReqKeyDef env name keyDef = initialized at hret
    obtain ⟨ret, keyDef'⟩ := initialized
    obtain rfl : ret = -1 := hret
    exact ⟨_, rfl, rfl⟩
  · have hret := initializeReqKeyDef_of_short env hname keyDef
    generalize initializeReqKeyDef env name keyDef = initialized at hret
    obtain ⟨ret, keyDef'⟩ := initialized
    obtain rfl : ret = 0 := hret
    have hbody := fillKeyBody_outcome env type algorithm constraint elements keyDef'
    refine ⟨fun h => absurd h hname, fun hfails _ => ?_, fun hpass => ?_⟩
    · exact hbody.reported (hfails.resolve_left hname) not_false
    · exact hbody.passed fun hfails => hpass (Or.inr hfails)

theorem tableDefNullFillKey_outcome (key : FormKey) (keyDef : ReqKey) :
    KeyOutcome (key.Fails env) key.Silent (tableDefNullFillKey env key keyDef) := by
  unfold tableDefNullFillKey FormKey.Fails FormKey.Silent
  by_cases hlength : key.keyLength = 0
  · rw [if_pos hlength]
    refine ⟨fun _ => ⟨_, rfl, rfl⟩, fun _ hnot => absurd (Or.inl hlength) hnot, fun hnot => ?_⟩
    exact absurd (Or.inl (Or.inl hlength)) hnot
  · rw [if_neg hlength]
    simp only [hlength, false_or]
    exact fillKey_outcome _ _ _ _ _ _

theorem tableDefNotNullFillKey_outcome (idx : DictIndex) (keyDef : ReqKey) :
    KeyOutcome (idx.Fails env) idx.Silent (tableDefNotNullFillKey env idx keyDef) :=
  fillKey_outcome _ _ _ _ _ _

end

/-! ## All keys -/

section

variable {κ : Type} {fails silent : κ → Prop}

theorem firstReported_cons_of_fails {key : κ} {keys : List κ} (h : fails key) :
    FirstReported fails silent (key :: keys) ↔ ¬silent key := by
  constructor
  · intro hfirst
    exact hfirst [] key keys rfl (List.forall_mem_nil _) h
  · intro hkey before key' later heq hbefore _
    cases before with
    | nil =>
      obtain ⟨rfl, -⟩ := List.cons.inj heq
      exact hkey
    | cons k before =>
      obtain ⟨rfl, -⟩ := List.cons.inj heq
      exact absurd h (hbefore _ List.mem_cons_self)

theorem firstReported_cons_of_passes {key : κ} {keys : List κ} (h : ¬fails key) :
    FirstReported fails silent (key :: keys) ↔ FirstReported fails silent keys := by
  constructor
  · intro hfirst before key' later heq hbefore
    exact hfirst (key :: before) key' later (by rw [heq]; rfl)
      (List.forall_mem_cons.mpr ⟨h, hbefore⟩)
  · intro hfirst before key' later heq hbefore hfails
    cases before with
    | nil =>
      obtain ⟨rfl, -⟩ := List.cons.inj heq
      exact absurd hfails h
    | cons k before =>
      obtain ⟨-, rfl⟩ := List.cons.inj heq
      exact hfirst before key' later rfl (List.forall_mem_cons.mp hbefore).2 hfails

/-- The loop over the keys reports a failure exactly if the first one is reported. -/
theorem fillKeyList_stops_iff {init : κ → ReqKey} {fill : κ → ReqKey → Except Stop ReqKey}
    (hfill : ∀ key keyDef, KeyOutcome (fails key) (silent key) (fill key keyDef))
    (keys : List κ) :
    ((∃ key ∈ keys, fails key) → (fillKeyList init fill keys).1 = false) ↔
      FirstReported fails silent keys := by
  induction keys with
  | nil =>
    refine iff_of_true ?_ ?_
    · rintro ⟨key, hmem, -⟩
      cases hmem
    · intro before key later heq
      exact absurd heq.symm (List.append_ne_nil_of_right_ne_nil _ (List.cons_ne_nil _ _))
  | cons key keys ih =>
    have houtcome := hfill key (init key)
    rw [fillKeyList]
    by_cases hfails : fails key
    · rw [firstReported_cons_of_fails hfails, imp_iff_right ⟨key, List.mem_cons_self, hfails⟩]
      by_cases hsilent : silent key
      · obtain ⟨stop, hstop, hret⟩ := houtcome.passedOn hsilent
        rw [hstop]
        dsimp only
        rw [hret]
        exact iff_of_false (fun h => Bool.noConfusion h) (not_not_intro hsilent)
      · obtain ⟨stop, hstop, hret⟩ := houtcome.reported hfails hsilent
        rw [hstop]
        exact iff_of_true hret hsilent
    · obtain ⟨keyDef, hok⟩ := houtcome.passed hfails
      rw [firstReported_cons_of_passes hfails, ← ih, hok]
      simp only [List.exists_mem_cons_iff, hfails, false_or]

end

/-! ## The request -/

/-- The failure reaches the statement: the keys are reported as failed, and whatever the other
steps answer, there is an error and no request. -/
structure Stopped (env : KeyEnv) (table : TableKeys) : Prop where
  fillAddKey : (ctcDdlCreateTableFillAddKey env table).1 = false
  createTableReq : ∀ steps, (fillCreateTableReq env steps table).1 ≠ 0 ∧
    (fillCreateTableReq env steps table).2 = none

theorem stopped_iff (env : KeyEnv) (table : TableKeys) :
    Stopped env table ↔ (ctcDdlCreateTableFillAddKey env table).1 = false := by
  constructor
  · exact Stopped.fillAddKey
  · intro h
    refine ⟨h, fun steps => ?_⟩
    unfold fillCreateTableReq
    generalize ctcDdlCreateTableFillAddKey env table = filled at h
    obtain ⟨ret, keyList⟩ := filled
    obtain rfl : ret = false := h
    by_cases hinit : ctcDdlInitCreateTableDef steps table ≠ 0
    · rw [if_pos hinit]
      exact ⟨hinit, rfl⟩
    by_cases hbase : steps.baseInfo ≠ 0
    · rw [if_neg hinit, if_pos hbase]
      exact ⟨hbase, rfl⟩
    by_cases hcolumns : steps.columnsInfo ≠ 0
    · rw [if_neg hinit, if_neg hbase, if_pos hcolumns]
      exact ⟨hcolumns, rfl⟩
    by_cases hforeign : steps.foreignKeyInfo ≠ 0
    · rw [if_neg hinit, if_neg hbase, if_neg hcolumns, if_pos hforeign]
      exact ⟨hforeign, rfl⟩
    rw [if_neg hinit, if_neg hbase, if_neg hcolumns, if_neg hforeign]
    exact ⟨show haErrWrongCommand ≠ 0 by decide, rfl⟩

/-- **A rejected key stops CREATE TABLE** exactly if the first key that fails has a length and a
name that is not too long. -/
theorem fillCreateTableReq_reports_iff (env : KeyEnv) :
    (∀ keys : List FormKey,
      ((∃ key ∈ keys, key.Fails env) → Stopped env (.tableDefNull keys)) ↔
        FirstReported (FormKey.Fails env) FormKey.Silent keys) ∧
    ∀ indexes : List DictIndex,
      ((∃ idx ∈ indexes, idx.Fails env) → Stopped env (.tableDef indexes)) ↔
        FirstReported (DictIndex.Fails env) DictIndex.Silent indexes := by
  simp only [stopped_iff]
  constructor
  · intro keys
    exact fillKeyList_stops_iff tableDefNullFillKey_outcome keys
  · intro indexes
    exact fillKeyList_stops_iff tableDefNotNullFillKey_outcome indexes

def integerField : KeyField where
  fieldName := "a".toList
  binary := false
  isVirtualGcol := false
  funcExpr := none
  isArray := false
  blob := false
  isString := false
  isVarchar := false
  packLength := 4
  lengthBytes := 0
  mbmaxlen := 1
  -- CTC_DDL_TYPE_LONG
  datatype := 3
  isUnsigned := false

/-- `KEY name (a)`. -/
def plainKey (name : SqlText) : FormKey where
  keyLength := 4
  name := name
  spatial := false
  nosame := false
  fulltext := false
  generatedKey := false
  algorithm := .btree
  keyPart := [⟨"a".toList, integerField, 4, false⟩]

/-- A name of 64 characters, the first of which has two bytes. -/
def longName : SqlText := [Char.ofNat 0xC3, Char.ofNat 0xA9] ++ List.replicate 63 'k'

def longNameKeys : List FormKey := [plainKey longName, plainKey "k".toList]

def plainEnv : KeyEnv := ⟨"u".toList, "t".toList, 1, [], fun _ _ _ => []⟩

/-- The name is too long, and CREATE TABLE goes on without both keys. -/
theorem longName_not_stopped :
    ¬((∃ key ∈ longNameKeys, key.Fails plainEnv) →
      Stopped plainEnv (.tableDefNull longNameKeys)) := by
  intro h
  have hstopped := h ⟨_, List.mem_cons_self, Or.inl (Or.inr (by decide))⟩
  exact absurd hstopped.fillAddKey (by decide)

end CantianConnector.Ddl
