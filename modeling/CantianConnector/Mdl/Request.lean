import Mathlib.Data.List.Basic

/-!
# Lock requests between nodes

What a node tells another about a metadata lock (`ctc_lock_table_info`), and the MDL request that
the other node makes of it. There are two overloads of `ctc_init_mdl_request`: one reads the field
`mdl_namespace` as a namespace, the other, for `LOCK TABLES`, as the type of the lock.
-/

namespace CantianConnector.Mdl

/-- The SQL commands (`enum_sql_command`) that the lock requests tell apart. -/
inductive SqlCommand where
  | lockTables
  | unlockTables
  | createTable
  | createView
  | dropView
  | other (code : Nat)
deriving DecidableEq, Repr

/-- `ctc_lock_table_info`. -/
structure LockTableInfo where
  dbName : String
  tableName : String
  userName : String
  userIp : String
  sqlType : SqlCommand
  mdlNamespace : Int
deriving DecidableEq, Repr

/-! ## Namespaces and types -/

/-- `MDL_key::GLOBAL`, the first of `enum_mdl_namespace`. -/
def mdlKeyGlobal : Int := 0

def mdlKeyBackupLock : Int := 1

def mdlKeyTable : Int := 4

def mdlKeyFunction : Int := 5

def mdlKeyProcedure : Int := 6

def mdlKeyTrigger : Int := 7

def mdlKeyEvent : Int := 8

def mdlKeyResourceGroups : Int := 15

/-- `MDL_SHARED`, of `enum_mdl_type`. -/
def mdlShared : Int := 1

def mdlSharedReadOnly : Int := 7

def mdlSharedNoReadWrite : Int := 9

def mdlExclusive : Int := 10

/-! ## Requests -/

/-- `MDL_key`. -/
structure MdlKey where
  mdlNamespace : Int
  dbName : String
  name : String
deriving DecidableEq, Repr

/-- The key and the type of an `MDL_request`. Its duration is `MDL_EXPLICIT` throughout. -/
structure MdlRequest where
  key : MdlKey
  type : Int
deriving DecidableEq, Repr

/-- The first overload of `ctc_init_mdl_request`. `createMdlKey` stands for the functions of that
name in the data dictionary, which normalise names. -/
def ctcInitMdlRequest (createMdlKey : Int → String → String → MdlKey) (lockInfo : LockTableInfo) :
    MdlRequest :=
  if lockInfo.mdlNamespace = mdlKeyFunction ∨ lockInfo.mdlNamespace = mdlKeyProcedure ∨
      lockInfo.mdlNamespace = mdlKeyEvent ∨ lockInfo.mdlNamespace = mdlKeyTrigger then
    ⟨createMdlKey lockInfo.mdlNamespace lockInfo.dbName lockInfo.tableName, mdlExclusive⟩
  else if lockInfo.mdlNamespace = mdlKeyResourceGroups then
    ⟨createMdlKey lockInfo.mdlNamespace lockInfo.dbName "", mdlExclusive⟩
  else if lockInfo.mdlNamespace = mdlKeyGlobal ∨ lockInfo.mdlNamespace = mdlKeyBackupLock then
    ⟨⟨lockInfo.mdlNamespace, lockInfo.dbName, lockInfo.tableName⟩, mdlShared⟩
  else ⟨⟨lockInfo.mdlNamespace, lockInfo.dbName, lockInfo.tableName⟩, mdlExclusive⟩

/-- The second overload: the namespace is given, and the field `mdl_namespace` is the type. -/
def ctcInitMdlRequestIn (mdlNamespace : Int) (lockInfo : LockTableInfo) : MdlRequest :=
  ⟨⟨mdlNamespace, lockInfo.dbName, lockInfo.tableName⟩, lockInfo.mdlNamespace⟩

end CantianConnector.Mdl
