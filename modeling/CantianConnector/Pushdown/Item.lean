import CantianConnector.Convert.Decimal
import CantianConnector.Convert.Field
import CantianConnector.Convert.MysqlTime

/-!
# Condition items and the `is_support` predicates

The `Item` trees of a WHERE condition as `ctc_util.cc` sees them, and the predicates of
`g_cond_push_map` that decide which items may be pushed to the engine. The server's type
classification functions (`is_string_type` and so on) are parameters.
-/

namespace CantianConnector.Pushdown

open CantianConnector.Convert

/-- `Item_func::Functype`, as far as `g_cond_func_type` names it. -/
inductive Functype where
  | eq | equal | ne | lt | le | gt | ge | like | isNull | isNotNull | condAnd | condOr | xor
  | mod | plus | minus | mul | div | dateFunc | datetimeLiteral | other
deriving DecidableEq, Repr

/-- `en_ctc_func_type_t`. -/
inductive CtcFunc where
  | eq | equal | ne | lt | le | ge | gt | like | isNull | isNotNull | condAnd | condOr | xor
  | mod | plus | minus | mul | div | date | unknown
deriving DecidableEq, Repr

/-- `ctc_cond_type_t`. -/
inductive CtcCond where
  | cmp | like | null | logic | arithmetic | date | field | const | unknown
deriving DecidableEq, Repr

/-- `g_cond_func_type` with `get_cond_func_type_map`. -/
def getCondFuncTypeMap : Functype → Option (CtcFunc × CtcCond)
  | .eq => some (.eq, .cmp)
  | .equal => some (.equal, .cmp)
  | .ne => some (.ne, .cmp)
  | .lt => some (.lt, .cmp)
  | .le => some (.le, .cmp)
  | .gt => some (.gt, .cmp)
  | .ge => some (.ge, .cmp)
  | .like => some (.like, .like)
  | .isNull => some (.isNull, .null)
  | .isNotNull => some (.isNotNull, .null)
  | .condAnd => some (.condAnd, .logic)
  | .condOr => some (.condOr, .logic)
  | .xor => some (.xor, .logic)
  | .mod => some (.mod, .arithmetic)
  | .plus => some (.plus, .arithmetic)
  | .minus => some (.minus, .arithmetic)
  | .mul => some (.mul, .arithmetic)
  | .div => some (.div, .arithmetic)
  | .dateFunc => some (.date, .date)
  | .datetimeLiteral => some (.date, .date)
  | .other => none

/-- `Item_result`. -/
inductive ItemResult where
  | string | real | int | row | decimal | invalid
deriving DecidableEq, Repr

/-- The constant items of `g_cond_push_map`. -/
inductive ConstKind where
  | int | real | decimal | string | null | cache
deriving DecidableEq, Repr

/-- An `Item_field` and what is read of the column it stands for. -/
structure FieldItem where
  itemName : String
  dataType : FieldType
  realType : FieldType
  cmpContext : ItemResult
  isGcol : Bool
  /-- `!field->part_of_prefixkey.is_clear_all()`. -/
  partOfPrefixkey : Bool
  /-- `collation.collation->pad_char`. -/
  padChar : UInt8
  /-- `collation.collation->number`. -/
  csNumber : Nat
deriving DecidableEq, Repr

/-- The value of a constant item. A real number is the image of its double, a string comes with
the number and `mbminlen` of its collation, a decimal with the scale of its item. -/
inductive ConstValue where
  | none
  | int (v : Int) (isUnsigned : Bool)
  | real (bytes : List UInt8)
  | decimal (d : MyDecimal) (scale : Nat)
  | string (bytes : List UInt8) (csNumber mbminlen : Nat)
deriving DecidableEq, Repr

/-- A literal or a cached value. -/
structure ConstItem where
  kind : ConstKind
  cmpContext : ItemResult
  resultType : ItemResult
  dataType : FieldType
  /-- `null_value`, or `!has_value()` of a cache. -/
  nullValue : Bool
  value : ConstValue
deriving DecidableEq, Repr

/-- An `Item_func` without its arguments. A date literal is a function item that carries its
value; `escapeUsed` is `escape_was_used_in_parsing` of a LIKE. -/
structure FuncItem where
  functype : Functype
  dataType : FieldType
  cmpContext : ItemResult
  resultType : ItemResult
  literal : Option MysqlTime
  escapeUsed : Bool
deriving DecidableEq, Repr

/-- The two kinds of `Item_cond`. -/
inductive CondKind where
  | and
  | or
deriving DecidableEq, Repr

def CondKind.functype : CondKind → Functype
  | .and => .condAnd
  | .or => .condOr

/-- A condition tree. `other` stands for the item types `g_cond_push_map` does not list. -/
inductive Item where
  | field (f : FieldItem)
  | const (c : ConstItem)
  | func (fn : FuncItem) (args : List Item)
  | cond (kind : CondKind) (args : List Item)
  | other (id : Nat)
deriving Repr

namespace Item

/-- `Item::cmp_context`. -/
def cmpContext : Item → ItemResult
  | field f => f.cmpContext
  | const c => c.cmpContext
  | func fn _ => fn.cmpContext
  | cond _ _ => .int
  | other _ => .invalid

def dataType : Item → FieldType
  | field f => f.dataType
  | const c => c.dataType
  | func fn _ => fn.dataType
  | cond _ _ => .longlong
  | other _ => .invalid

/-- `basic_const_item()`: literals, date literals among them. -/
def basicConstItem : Item → Bool
  | const c => c.kind != .cache
  | func fn _ => fn.literal.isSome
  | _ => false

end Item

/-! ## The predicates -/

/-- The server's classification of column types. -/
structure TypeClasses where
  isStringType : FieldType → Bool
  isIntegerType : FieldType → Bool
  isTemporalType : FieldType → Bool
  isNumericType : FieldType → Bool

/-- `parent_type` is neither AND nor OR. -/
def Functype.isCondParent (ft : Functype) : Bool := ft == .condAnd || ft == .condOr

def isArithmeticFunction : Functype → Bool
  | .plus | .minus | .mul | .div | .mod => true
  | _ => false

section

variable (tc : TypeClasses)

/-- `is_supported_conds`: below AND and OR only. -/
def isSupportedConds (parent : Functype) : Bool := parent.isCondParent

def isSupportedFuncsLike (fn : FuncItem) (args : List Item) (parent : Functype) : Bool :=
  parent.isCondParent &&
    match args with
    | .field f :: .const c :: _ =>
      c.kind == .string && c.cmpContext == .string && !fn.escapeUsed && tc.isStringType f.dataType
    | _ => false

/-- One operand of a pushed arithmetic function. -/
def isArithmeticOperand : Item → Bool
  | .field f => tc.isIntegerType f.dataType
  | .func fn _ => isArithmeticFunction fn.functype
  | .const c => c.kind == .int || c.kind == .cache
  | _ => false

def isSupportedFuncsArithmetic (args : List Item) (parent : Functype) : Bool :=
  !parent.isCondParent && args.length == 2 && args.all (isArithmeticOperand tc)

/-- `is_supported_funcs_logic`. The loop over the operands after `return true` is dead. -/
def isSupportedFuncsLogic (args : List Item) (parent : Functype) : Bool :=
  parent.isCondParent && args.length == 2

def isSupportedFuncsNull (args : List Item) (parent : Functype) : Bool :=
  parent.isCondParent &&
    match args with
    | .field _ :: _ => true
    | _ => false

def nonZeroDate (t : MysqlTime) : Bool := t.year != 0 || t.month != 0 || t.day != 0

/-- `check_cmp_result`: the constant fits the column it is compared with. -/
def checkCmpResult (f : FieldItem) (right : Item) : Bool :=
  match right with
  | .const ⟨.null, _, _, _, _, _⟩ => true
  | _ =>
    if f.dataType = .year then
      match right with
      | .const c => c.kind == .int && c.cmpContext == .int
      | _ => false
    else if tc.isTemporalType f.dataType then
      if !(right.basicConstItem && right.cmpContext == .int) then false
      else if f.dataType = .timestamp then
        match right with
        | .func ⟨_, _, _, _, some ltime, _⟩ _ =>
          if nonZeroDate ltime then ltime.year != 0 && ltime.month != 0 && ltime.day != 0
          else true
        | _ => false
      else true
    else if tc.isStringType f.dataType then
      match right with
      | .const c => c.kind == .string && c.cmpContext == .string
      | _ => false
    else if tc.isIntegerType f.dataType then
      match right with
      | .const c => (c.kind == .int && c.cmpContext == .int) || c.kind == .cache
      | _ => false
    else if tc.isNumericType f.dataType then
      match right with
      | .const c => (c.kind == .real || c.kind == .decimal) && c.cmpContext != .string
      | _ => false
    else false

/-- `is_supported_const`. A cache item is not among its cases. -/
def isSupportedConst (term : Item) (parent : Functype) : Bool :=
  !parent.isCondParent &&
    match term with
    | .const c => c.kind != .cache
    | _ => false

/-- `is_valid_cmp_operand`. -/
def isValidCmpOperand (operand1 operand2 : Item) (parent : Functype) : Bool :=
  match operand1 with
  | .func fn _ =>
    match getCondFuncTypeMap fn.functype with
    | some (_, .arithmetic) =>
      match operand2 with
      | .const c => c.kind == .int || (c.kind == .cache && c.resultType == .int)
      | .field f => tc.isIntegerType f.dataType
      | .func fn2 _ => isArithmeticFunction fn2.functype
      | _ => false
    | _ => false
  | .field f => checkCmpResult tc f operand2
  | _ => isSupportedConst operand2 parent

def isSupportedFuncsCmp (fn : FuncItem) (args : List Item) (parent : Functype) : Bool :=
  parent.isCondParent &&
    match args with
    | [left, right] =>
      isValidCmpOperand tc left right fn.functype || isValidCmpOperand tc right left fn.functype
    | _ => false

/-- `is_supported_funcs`. -/
def isSupportedFuncs (fn : FuncItem) (args : List Item) (parent : Functype) : Bool :=
  match getCondFuncTypeMap fn.functype with
  | some (_, .cmp) => isSupportedFuncsCmp tc fn args parent
  | some (_, .logic) => isSupportedFuncsLogic args parent
  | some (_, .null) => isSupportedFuncsNull args parent
  | some (_, .like) => isSupportedFuncsLike tc fn args parent
  | some (_, .arithmetic) => isSupportedFuncsArithmetic tc args parent
  | some (_, .date) => !parent.isCondParent
  | _ => false

/-- `is_supported_cache`. -/
def isSupportedCache (c : ConstItem) (parent : Functype) : Bool :=
  !parent.isCondParent && c.resultType == .int

/-- `is_supported_datatype_field`. -/
def isSupportedDatatypeField : FieldType → Bool
  | .json | .enum | .set | .bit | .null | .typedArray | .tinyBlob | .mediumBlob | .longBlob
  | .blob => false
  | _ => true

/-- `is_supported_field`: generated columns and prefix-key columns are filtered out. -/
def isSupportedField (f : FieldItem) (parent : Functype) : Bool :=
  !parent.isCondParent && !f.isGcol && !f.partOfPrefixkey && isSupportedDatatypeField f.realType &&
    !(f.dataType == .string && f.padChar == 0) &&
    (parent == .isNull || parent == .isNotNull ||
      match getCondFuncTypeMap parent with
      | none => false
      | some (_, ct) => !(ct == .cmp && f.cmpContext == .invalid))

/-- The `is_support` member of an item's entry in `g_cond_push_map`. -/
def isSupport (term : Item) (parent : Functype) : Bool :=
  match term with
  | .func fn args => isSupportedFuncs tc fn args parent
  | .cond _ _ => isSupportedConds parent
  | .field f => isSupportedField f parent
  | .const c => if c.kind = .cache then isSupportedCache c parent else isSupportedConst term parent
  | .other _ => false

end

end CantianConnector.Pushdown
