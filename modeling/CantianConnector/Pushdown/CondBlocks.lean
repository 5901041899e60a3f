import CantianConnector.Lib.Blocks
import CantianConnector.Pushdown.Fill
import CantianConnector.Pushdown.Split

/-!
# The blocks of a condition tree

The fill functions once more, on the memory they work on: `dfs_fill_conds` allocates the nodes,
the lists of their arguments and the values of literals one by one, and any request may be
refused. `free_m_cond` walks over the links and gives the blocks back. The bytes of a literal are
left out here; they are computed by the functions of the same names on trees.
-/

namespace CantianConnector.Pushdown.Ownership

open CantianConnector.Convert Blocks

/-! ## Blocks -/

/-- `ctc_conds`, as far as it is used here. Pointers are numbers of blocks. -/
structure CondNode where
  condType : CtcCond
  funcType : CtcFunc
  /-- `field_info.field_value`. -/
  fieldValue : Option Nat
  condList : Option Nat
  next : Option Nat
deriving DecidableEq, Repr

/-- A node after `memset`. -/
def CondNode.zero : CondNode := ⟨.field, .eq, none, none, none⟩

/-- `ctc_cond_list`. -/
structure CondList where
  first : Option Nat
  last : Option Nat
  elements : Nat
deriving DecidableEq, Repr

/-- A list after `memset`. -/
def CondList.zero : CondList := ⟨none, none, 0⟩

/-- What is allocated: nodes, lists, and the values of literals. -/
inductive Block where
  | node (n : CondNode)
  | list (l : CondList)
  | bytes (size : Nat)
deriving DecidableEq, Repr

def loadNode (a : Nat) : HeapM Block CondNode := do
  match ← load a with
  | .node n => return n
  | _ => fault

def loadList (a : Nat) : HeapM Block CondList := do
  match ← load a with
  | .list l => return l
  | _ => fault

/-- An assignment to members of a node. -/
def modifyNode (a : Nat) (f : CondNode → CondNode) : HeapM Block Unit := do
  let n ← loadNode a
  store a (.node (f n))

/-- `ctc_free_buf`. -/
def ctcFreeBuf : Option Nat → HeapM Block Unit
  | none => pure ()
  | some a => free a

/-! ## Building -/

section

variable (env : FillEnv) (fields : List Field) (noBackslash : Bool)
  -- the size that `decimal_mysql_to_cantian` finds for a literal, or its error
  (decimalSize : MyDecimal → Nat → Option Nat)
  -- the requests that are granted
  (grant : Nat → Bool)

/-- `ctc_alloc_buf`. -/
def ctcAllocBuf : Block → HeapM Block (Option Nat)
  | .bytes 0 => return none
  | b => request grant b

/-- `field_value` gets a block of `size` bytes; `false` if it is needed and missing. -/
def allocValue (cond size : Nat) : HeapM Block Bool := do
  let value ← ctcAllocBuf grant (.bytes size)
  modifyNode cond fun n => { n with fieldValue := value }
  return value.isSome || size == 0

def setCondType (cond : Nat) (condType : CtcCond) : HeapM Block Unit :=
  modifyNode cond fun n => { n with condType := condType }

/-- `ctc_cond_fill_data_int`. -/
def ctcCondFillDataInt (cond : Nat) : HeapM Block Bool := allocValue grant cond 8

/-- `cond_fill_null`. -/
def condFillNull (cond : Nat) : HeapM Block Bool := do
  setCondType cond .const
  return true

/-- `cond_fill_int`. -/
def condFillInt (c : ConstItem) (cond : Nat) : HeapM Block Bool := do
  setCondType cond .const
  if c.nullValue then return true
  else
    match c.value with
    | .int _ _ => ctcCondFillDataInt grant cond
    | _ => return false

/-- `cond_fill_real`. -/
def condFillReal (c : ConstItem) (cond : Nat) : HeapM Block Bool := do
  setCondType cond .const
  if c.nullValue then return true
  else
    match c.value with
    | .real _ => allocValue grant cond 8
    | _ => return false

/-- `cond_fill_decimal`. The binary image stands in a buffer of its own. -/
def condFillDecimal (c : ConstItem) (cond : Nat) : HeapM Block Bool := do
  setCondType cond .const
  if c.nullValue then return true
  else
    match c.value with
    | .decimal d scale => do
      let prec := d.intg + d.frac
      -- my_malloc
      match ← request grant (.bytes (ColumnType.packLength.decimalBinSize prec scale)) with
      | none => return false
      | some data => do
        match decimalSize d scale with
        | none => do
          free data
          return false
        | some size => do
          let success ← allocValue grant cond size
          free data
          return success
    | _ => return false

/-- `cond_fill_string`; `functype` points to the node whose `func_type` it is. -/
def condFillString (c : ConstItem) (cond : Nat) (functype : Option Nat) : HeapM Block Bool := do
  setCondType cond .const
  match c.value with
  | .string bytes _ _ =>
    if c.nullValue then return true
    else if ← allocValue grant cond (bytes.length % 65536) then
      match functype with
      | none => fault
      | some parent => do
        let _ ← loadNode parent
        return true
    else return false
  | _ => return false

/-- `cond_fill_cache`. -/
def condFillCache (c : ConstItem) (cond : Nat) : HeapM Block Bool := do
  setCondType cond .const
  if c.nullValue then return true
  else
    match c.resultType, c.value with
    | .int, .int _ _ => ctcCondFillDataInt grant cond
    | _, _ => return false

/-- The `fill` member for a constant. -/
def condFillConst (c : ConstItem) (cond : Nat) (functype : Option Nat) : HeapM Block Bool :=
  match c.kind with
  | .int => condFillInt grant c cond
  | .real => condFillReal grant c cond
  | .decimal => condFillDecimal decimalSize grant c cond
  | .string => condFillString grant c cond functype
  | .null => condFillNull cond
  | .cache => condFillCache grant c cond

/-- `cond_fill_field`. -/
def condFillField (item : FieldItem) (cond : Nat) : HeapM Block Bool := do
  setCondType cond .field
  match Pushdown.condFillField env fields item noBackslash with
  | .ok _ => return true
  | .error (.code _) => return false
  | .error _ => fault

/-- `ctc_fill_cond_field_data_date`. -/
def ctcFillCondFieldDataDate (datatype : FieldType) (functype : Option Nat) (ltime : MysqlTime)
    (cond : Nat) : HeapM Block Bool := do
  setCondType cond .const
  if ← allocValue grant cond 8 then
    match datatype with
    | .date =>
      match functype with
      | none => fault
      | some parent => do
        modifyNode parent fun n => { n with funcType := refillCondTypeDate ltime n.funcType }
        return true
    | _ => return true
  else return false

/-- `cond_fill_date` for a function item; a YEAR value is no function item. -/
def condFillDate (fn : FuncItem) (cond : Nat) (functype : Option Nat) : HeapM Block Bool :=
  if fn.dataType = .year then return false
  else
    match fn.literal with
    | none => return false
    | some ltime => ctcFillCondFieldDataDate grant fn.dataType functype ltime cond

/-- `list->first` of an empty list, or the link of the last node. -/
def linkAfterLast (list subCond : Nat) : HeapM Block Unit := do
  let l ← loadList list
  if l.elements = 0 then store list (.list { l with first := some subCond })
  else
    match l.last with
    | none => fault
    | some last => modifyNode last fun n => { n with next := some subCond }

/-- A list gets another node. -/
def linkNode (list subCond : Nat) : HeapM Block Unit := do
  linkAfterLast list subCond
  let l ← loadList list
  store list (.list { l with last := some subCond, elements := (l.elements + 1) % 65536 })

mutual

/-- `dfs_fill_conds`; `true` is `CT_SUCCESS`. -/
def dfsFillConds : Item → Nat → Option Nat → HeapM Block Bool
  | .func fn args, conds, functype => do
    match ← ctcAllocBuf grant (.list .zero) with
    | none => return false
    | some list => do
      modifyNode conds fun n => { n with condList := some list }
      -- `cond_fill_func`
      let types := setCondTypes fn.functype
      modifyNode conds fun n => { n with condType := types.2, funcType := types.1 }
      if types.2 = .date then do
        ctcFreeBuf (some list)
        modifyNode conds fun n => { n with condList := none }
        condFillDate grant fn conds functype
      else fillArguments args (args.length % 65536) list (some conds)
  | .cond kind args, conds, _ => do
    match ← ctcAllocBuf grant (.list .zero) with
    | none => return false
    | some list => do
      modifyNode conds fun n => { n with condList := some list }
      -- `cond_fill_cond`
      let types := setCondTypes kind.functype
      modifyNode conds fun n => { n with condType := types.2, funcType := types.1 }
      fillArguments args (args.length % 65536) list none
  | .field f, conds, _ => do
    modifyNode conds fun n => { n with condList := none }
    condFillField env fields noBackslash f conds
  | .const c, conds, functype => do
    modifyNode conds fun n => { n with condList := none }
    condFillConst decimalSize grant c conds functype
  -- no entry in `g_cond_push_map`
  | .other _, _, _ => return false

/-- The loops of `cond_fill_func` and `cond_fill_cond` over `size` arguments. -/
def fillArguments : List Item → Nat → Nat → Option Nat → HeapM Block Bool
  | _, 0, _, _ => return true
  | [], _ + 1, _, _ => fault
  | item :: rest, size + 1, list, functype => do
    match ← ctcAllocBuf grant (.node .zero) with
    | none => return false
    | some subCond => do
      linkNode list subCond
      if ← dfsFillConds item subCond functype then fillArguments rest size list functype
      else return false

end

/-- `ctc_fill_conds`. -/
def ctcFillConds (pushedCond : Item) (mCond : Nat) : HeapM Block Bool := do
  store mCond (.node .zero)
  dfsFillConds env fields noBackslash decimalSize grant pushedCond mCond none

/-! ## Freeing -/

/-- The loop of `free_m_cond` over `size` nodes. -/
def freeNodes (free : Option Nat → HeapM Block Unit) : Nat → Option Nat → HeapM Block Unit
  | 0, _ => return ()
  | _ + 1, none => return ()
  | size + 1, some node => do
    let tmpNode := (← loadNode node).next
    free (some node)
    freeNodes free size tmpNode

/-- The list of a node, and the nodes in it. -/
def freeCondList (free : Option Nat → HeapM Block Unit) : Option Nat → HeapM Block Unit
  | none => return ()
  | some list => do
    let l ← loadList list
    freeNodes free l.elements l.first
    ctcFreeBuf (some list)

/-- The value of a node. -/
def freeFieldValue (cond : Nat) : HeapM Block Unit := do
  match (← loadNode cond).fieldValue with
  | none => return ()
  | some value => do
    ctcFreeBuf (some value)
    modifyNode cond fun n => { n with fieldValue := none }

/-- `free_m_cond`, to a depth. -/
def freeToDepth : Nat → Option Nat → HeapM Block Unit
  | _, none => return ()
  | 0, some _ => fault
  | depth + 1, some cond => do
    let n ← loadNode cond
    freeCondList (freeToDepth depth) n.condList
    freeFieldValue cond
    ctcFreeBuf (some cond)

/-- `free_m_cond`. No chain of nodes is longer than the number of blocks. -/
def freeMCond (cond : Option Nat) : HeapM Block Unit := fun h => freeToDepth h.next cond h

/-! ## The handler -/

variable (tc : TypeClasses) (newOk : Item → Bool)

/-- The build in `ha_ctc::cond_push`: the root, and whether the tree was filled. -/
def buildCond (pushedConds : Item) : HeapM Block (Option (Nat × Bool)) := do
  match ← ctcAllocBuf grant (.node .zero) with
  | none => return none
  | some mCond => do
    let success ← ctcFillConds env fields noBackslash decimalSize grant pushedConds mCond
    return some (mCond, success)

/-- `ha_ctc::cond_push`, `m_cond` being null: its value afterwards. -/
def condPush (cond : Item) : HeapM Block (Option Nat) :=
  -- prep_cond_push
  match (condPushTerm (isSupport tc) newOk .condAnd cond).pushed with
  | none => return none
  | some pushedConds => do
    match ← buildCond env fields noBackslash decimalSize grant pushedConds with
    | none => return none
    | some (mCond, true) => return some mCond
    | some (mCond, false) => do
      freeMCond (some mCond)
      return none

/-- `m_cond` in `ha_ctc::reset`. -/
def resetCond (mCond : Option Nat) : HeapM Block Unit := freeMCond mCond

end

end CantianConnector.Pushdown.Ownership
