import CantianConnector.Convert.Encode
import CantianConnector.Pushdown.Item

/-!
# The condition tree handed to the engine

`dfs_fill_conds` and the `fill` members of `g_cond_push_map`: they translate a pushed condition
into the nodes the engine evaluates. A function node hands the address of its own `func_type` to
its arguments, because a DATE literal may change the operator it is compared with; here the
operator is threaded through the arguments. Allocations are assumed to succeed.
-/

namespace CantianConnector.Pushdown

open CantianConnector.Convert

/-! ## Nodes -/

/-- `ctc_cond_field`; the defaults are those of `memset`. -/
structure CondField where
  fieldNo : Nat := 0
  fieldType : DdlType := .decimal
  fieldSize : Nat := 0
  fieldValue : Option (List UInt8) := none
  nullValue : Bool := false
  isUnsigned : Bool := false
  collateId : Nat := 0
  timezone : Int := 0
  noBackslash : Bool := false
deriving DecidableEq, Repr

/-- `ctc_conds`, with the nodes of `cond_list`. -/
inductive CtcConds where
  | node (condType : CtcCond) (funcType : CtcFunc) (info : CondField)
      (condList : Option (List CtcConds))

namespace CtcConds

def condType : CtcConds → CtcCond
  | node ct _ _ _ => ct

def funcType : CtcConds → CtcFunc
  | node _ ft _ _ => ft

def info : CtcConds → CondField
  | node _ _ info _ => info

/-- A node without a list. Its `func_type` stays zero, which is `CTC_EQ_FUNC`. -/
def leaf (condType : CtcCond) (info : CondField) : CtcConds := node condType .eq info none

end CtcConds

/-- What the fill functions read of the server and the session. -/
structure FillEnv where
  build : Build
  prims : ServerPrims
  /-- The folding under which `my_strcasecmp` compares names. -/
  caseFold : String → String
  /-- `ctc_get_column_cs`. -/
  columnCs : Nat → Nat
  /-- The offset of the session's time zone in minutes. -/
  timezone : Int
  /-- A local time of the session in UTC. -/
  sessionToUtc : MysqlTime → MysqlTime

/-- `CT_ERROR`. -/
def ctError : Failure := .code (-1)

/-! ## Leaves -/

/-- `ctc_cond_fill_data_int`. -/
def ctcCondFillDataInt (info : CondField) (val : Int) (isUnsigned : Bool) : CondField :=
  { info with
    fieldSize := 8, fieldValue := some (Bytes.le 8 (Bytes.wrap 8 val)), fieldType := .longlong
    isUnsigned := isUnsigned }

/-- `cond_fill_null`. -/
def condFillNull (c : ConstItem) : Result CondField :=
  .ok { nullValue := c.nullValue, fieldType := .null, fieldSize := 0 }

/-- `cond_fill_int`. -/
def condFillInt (c : ConstItem) : Result CondField :=
  if c.nullValue then .ok { nullValue := true }
  else
    match c.value with
    | .int v isUnsigned => .ok (ctcCondFillDataInt {} v isUnsigned)
    | _ => .error ctError

/-- `cond_fill_real`. -/
def condFillReal (c : ConstItem) : Result CondField :=
  if c.nullValue then .ok { nullValue := true, fieldType := .double }
  else
    match c.value with
    | .real bytes => .ok { fieldType := .double, fieldSize := 8, fieldValue := some bytes }
    | _ => .error ctError

/-- `cond_fill_decimal`. -/
def condFillDecimal (env : FillEnv) (c : ConstItem) : Result CondField :=
  if c.nullValue then .ok { nullValue := true, fieldType := .decimal }
  else
    match c.value with
    | .decimal d scale =>
      let prec := d.intg + d.frac
      match env.prims.myDecimal2binary d prec scale with
      | .error _ => .error .undefined
      | .ok data =>
        match decimalMysqlToCantian env.prims data prec scale with
        | .error _ => .error ctError
        | .ok (bytes, size) =>
          .ok { fieldType := .decimal, fieldSize := size, fieldValue := some (bytes.take size) }
    | _ => .error ctError

/-- The loop of `update_value_by_charset`; `out` are the bytes before `cur`. An underscore or
percent sign takes the place of the `bytes` bytes before it. -/
def updateValueLoop (bytes : Nat) : List UInt8 → List UInt8 → Result (List UInt8)
  | [], out => .ok out
  | b :: rest, out =>
    if b = 0x5F ∨ b = 0x25 then
      if out.length < bytes then .error .undefined
      else updateValueLoop bytes rest (out.take (out.length - bytes) ++ [b])
    else updateValueLoop bytes rest (out ++ [b])

/-- `update_value_by_charset`. -/
def updateValueByCharset (data : List UInt8) (bytes : Nat) : Result (List UInt8) :=
  if bytes = 0 then .ok data else updateValueLoop bytes data []

/-- `cond_fill_string`. It reads the operator of its parent. -/
def condFillString (env : FillEnv) (c : ConstItem) (noBackslash : Bool)
    (functype : Option CtcFunc) : Result CondField :=
  match c.value with
  | .string bytes csNumber mbminlen =>
    let info : CondField :=
      { fieldType := .varchar, collateId := env.columnCs csNumber, noBackslash := noBackslash
        nullValue := c.nullValue }
    if c.nullValue then .ok info
    else
      let data := bytes.take (bytes.length % 65536)
      match functype with
      | none => .error .undefined
      | some .like => do
        let data ← updateValueByCharset data (mbminlen - 1)
        return { info with fieldSize := data.length, fieldValue := some data }
      | some _ => .ok { info with fieldSize := data.length, fieldValue := some data }
  | _ => .error ctError

/-- `cond_fill_cache`. -/
def condFillCache (c : ConstItem) : Result CondField :=
  if c.nullValue then .ok { nullValue := true }
  else
    match c.resultType, c.value with
    | .int, .int v isUnsigned => .ok (ctcCondFillDataInt {} v isUnsigned)
    | _, _ => .error ctError

/-- The `fill` member for a constant. -/
def condFillConst (env : FillEnv) (c : ConstItem) (noBackslash : Bool)
    (functype : Option CtcFunc) : Result CondField :=
  match c.kind with
  | .int => condFillInt c
  | .real => condFillReal c
  | .decimal => condFillDecimal env c
  | .string => condFillString env c noBackslash functype
  | .null => condFillNull c
  | .cache => condFillCache c

/-- `ctc_get_column_by_field`; `none` is `INVALID_MAX_COLUMN`. -/
def ctcGetColumnByField (env : FillEnv) (fields : List Field) (colName : String) : Option Nat :=
  fields.findIdx? fun f => env.caseFold f.fieldName == env.caseFold colName

/-- `ctc_set_cond_field_size`. -/
def ctcSetCondFieldSize (mysqlInfo : FieldCnvrtAux) : Result Nat :=
  match mysqlInfo.cantianMapType with
  | .four => .ok 4
  | .eight => .ok 8
  | .var => .ok 0
  | .null => .error ctError

/-- `cond_fill_field`. The generated columns before the column are not counted, stored ones
included. -/
def condFillField (env : FillEnv) (fields : List Field) (item : FieldItem) (noBackslash : Bool) :
    Result CondField :=
  match ctcGetColumnByField env fields item.itemName with
  | none => .error ctError
  | some fieldNo =>
    match fields[fieldNo]? with
    | none => .error .undefined
    | some mysqlField =>
      let type := mysqlField.columnType.type
      let type := if type = .float then .double else type
      match getAuxiliaryForFieldConvert mysqlField type with
      | none => .error .undefined
      | some mysqlInfo => do
        let gcolCnt := (fields.take fieldNo).countP Field.isGcol
        let size ← ctcSetCondFieldSize mysqlInfo
        return { fieldNo := fieldNo - gcolCnt, fieldType := mysqlInfo.ddlFieldType
                 fieldSize := size, collateId := env.columnCs item.csNumber
                 noBackslash := noBackslash }

/-! ## Date literals -/

/-- `refill_cond_type_date`. -/
def refillCondTypeDate (ltime : MysqlTime) (functype : CtcFunc) : CtcFunc :=
  if ltime.hour = 0 ∨ ltime.minute = 0 ∨ ltime.second = 0 ∨ ltime.secondPart = 0 then
    match functype with
    | .lt => .le
    | .ne => .isNotNull
    | _ => functype
  else functype

/-- `ctc_fill_cond_field_data_date`: the node's data and the operator of the parent. -/
def ctcFillCondFieldDataDate (env : FillEnv) (datatype : FieldType) (functype : Option CtcFunc)
    (ltime : MysqlTime) : Result (CondField × Option CtcFunc) :=
  let info : CondField := { fieldSize := 8, timezone := env.timezone }
  let time := env.prims.time
  match datatype with
  | .time =>
    let ptr := time.myTimePackedToBinary (time.timeToLonglongTimePacked ltime) datetimeMaxDecimals
    .ok ({ info with fieldType := .time, fieldValue := some (tmpPtr ptr) }, functype)
  | .datetime =>
    let ptr :=
      time.myDatetimePackedToBinary (time.timeToLonglongDatetimePacked ltime) datetimeMaxDecimals
    .ok ({ info with fieldType := .datetime, fieldValue := some (tmpPtr ptr) }, functype)
  | .date =>
    match functype with
    | none => .error .undefined
    | some ft =>
      .ok ({ info with fieldType := .date, fieldValue := some (tmpPtr (myDateToBinary ltime)) },
        some (refillCondTypeDate ltime ft))
  | _ => do
    let isTimestamp := datatype == .timestamp
    let ltime := if isTimestamp && !checkZeroTimeLtime ltime then env.sessionToUtc ltime else ltime
    let date ← cmEncodeDate env.build (assignMysqlDateDetail datatype ltime)
    return ({ info with
      fieldType := if isTimestamp then .timestamp else .year
      fieldValue := some (Bytes.le 8 (Bytes.wrap 8 date)) }, functype)

/-- `cond_fill_date` for a function item; a YEAR value is no function item. -/
def condFillDate (env : FillEnv) (fn : FuncItem) (functype : Option CtcFunc) :
    Result (CondField × Option CtcFunc) :=
  if fn.dataType = .year then .error ctError
  else
    match fn.literal with
    | none => .error ctError
    | some ltime => ctcFillCondFieldDataDate env fn.dataType functype ltime

/-! ## Trees -/

/-- `set_cond_types`. -/
def setCondTypes (fc : Functype) : CtcFunc × CtcCond :=
  (getCondFuncTypeMap fc).getD (.unknown, .unknown)

section

variable (env : FillEnv) (fields : List Field) (noBackslash : Bool)

mutual

/-- `dfs_fill_conds`: the node and the operator of the parent. -/
def dfsFillConds : Item → Option CtcFunc → Result (CtcConds × Option CtcFunc)
  | .func fn args, functype =>
    -- `cond_fill_func`
    if (setCondTypes fn.functype).2 = .date then do
      let (info, functype) ← condFillDate env fn functype
      return (.node .const (setCondTypes fn.functype).1 info none, functype)
    else do
      let (children, funcType) ← fillArguments args (some (setCondTypes fn.functype).1)
      return (.node (setCondTypes fn.functype).2 (funcType.getD .unknown) {} (some children),
        functype)
  | .cond kind args, functype => do
    -- `cond_fill_cond`
    let (children, _) ← fillArguments args none
    return (.node (setCondTypes kind.functype).2 (setCondTypes kind.functype).1 {} (some children),
      functype)
  | .field f, functype => do
    let info ← condFillField env fields f noBackslash
    return (.leaf .field info, functype)
  | .const c, functype => do
    let info ← condFillConst env c noBackslash functype
    return (.leaf .const info, functype)
  | .other _, _ => .error ctError

/-- The loops of `cond_fill_func` and `cond_fill_cond` over the arguments. -/
def fillArguments : List Item → Option CtcFunc → Result (List CtcConds × Option CtcFunc)
  | [], functype => .ok ([], functype)
  | item :: rest, functype => do
    let (child, functype) ← dfsFillConds item functype
    let (children, functype) ← fillArguments rest functype
    return (child :: children, functype)

end

/-- `ctc_fill_conds`. -/
def ctcFillConds (item : Item) : Result CtcConds := do
  let (conds, _) ← dfsFillConds env fields noBackslash item none
  return conds

end

end CantianConnector.Pushdown
