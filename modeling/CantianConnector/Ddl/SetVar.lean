import CantianConnector.Ddl.SqlText
import Mathlib.Data.List.TakeWhile

/-!
# The assignments of a SET statement

What the two places that forward assignments read of an assignment: `ctc_check_set_opt`, before the
statement is executed, and `ctc_update_sysvars`, with normalised metadata, behind it. What the
server answers about a variable and a value is part of the assignment.
-/

namespace CantianConnector.Ddl

/-- `FEATURE_X_FOR_MYSQL_26` and `FEATURE_X_FOR_MYSQL_32`. -/
inductive MysqlVersion where
  | v26
  | v32
deriving DecidableEq, Repr

/-- `enum_var_type`. -/
inductive VarType where
  | default
  | session
  | global
  | persist
  | persistOnly
deriving DecidableEq, Repr

/-- `sys_var`: `is_readonly()` and `check_scope(OPT_GLOBAL)`. -/
structure SysVar where
  isReadonly : Bool
  globalScope : Bool
deriving DecidableEq, Repr

/-- The class of a value: a user variable, with what the session has for it (`NULL` is an empty
entry), a system variable, or anything else. -/
inductive ValueSource where
  | userVar (entry : Option (Option SqlText))
  | systemVar (bindFails isErrorStr : Bool)
  | other
deriving DecidableEq, Repr

/-- `Item_result`, as far as it is told apart. -/
inductive ItemResult where
  | string
  | int
  | other
deriving DecidableEq, Repr

/-- The value of an assignment. -/
structure SetValue where
  fixFieldsFails : Bool
  source : ValueSource
  /-- `val_str`; nothing for `NULL`. -/
  valStr : Option SqlText
  valInt : Int
  resultType : ItemResult
  itemName : Option SqlText

/-- `set_var`. There is no value in `SET x = DEFAULT`. -/
structure SetVar where
  var : Option SysVar
  name : SqlText
  base : Option SqlText
  type : VarType
  value : Option SetValue

/-- `set_var_base`: a system variable, a user variable, with what `print` gives for it and whether
the session has a context, or anything else. -/
inductive SetVarBase where
  | system (setvar : SetVar)
  | user (printed : SqlText) (sessCtx : Bool)
  | other

/-- `is_global_persist`. -/
def SetVar.isGlobalPersist (setvar : SetVar) : Bool :=
  setvar.type = .global || setvar.type = .persist || setvar.type = .persistOnly

/-- What `need_forward` is set to for a variable that is found. -/
def foundVerdict (version : MysqlVersion) (setvar : SetVar) (var : SysVar) : Bool :=
  match version with
  | .v26 => !var.isReadonly && setvar.isGlobalPersist && var.globalScope
  | .v32 => !var.isReadonly && setvar.isGlobalPersist

/-- What `c_str` and `strlen` see of a text. -/
def cStr (text : SqlText) : SqlText := text.takeWhile fun c => c.toNat ≠ 0

/-- What `strncpy` leaves of a text in a field of zeros, when it may write all but the last one. -/
def copyField (size : Nat) (text : SqlText) : SqlText := (cStr text).take (size - 1)

/-- The text is a C string that fits into a field. -/
def Fits (size : Nat) (text : SqlText) : Prop := (∀ c ∈ text, c.toNat ≠ 0) ∧ text.length < size

/-- `MAX_DDL_SQL_LEN`. -/
def maxDdlSqlLen : Nat := 63488 + 30

theorem cStr_eq_self_iff {text : SqlText} : cStr text = text ↔ ∀ c ∈ text, c.toNat ≠ 0 := by
  unfold cStr
  rw [List.takeWhile_eq_self_iff]
  simp only [ne_eq, decide_not, Bool.not_eq_eq_eq_not, Bool.not_true, decide_eq_false_iff_not]

theorem length_cStr_le (text : SqlText) : (cStr text).length ≤ text.length :=
  (List.takeWhile_sublist _).length_le

/-- A field holds the texts that fit into it, and no others. -/
theorem copyField_eq_self_iff {size : Nat} (hsize : 0 < size) {text : SqlText} :
    copyField size text = text ↔ Fits size text := by
  unfold copyField Fits
  constructor
  · intro h
    have hlen := congrArg List.length h
    have hle := length_cStr_le text
    rw [List.length_take] at hlen
    have hshort : text.length < size := by omega
    rw [List.take_of_length_le (by omega)] at h
    exact ⟨cStr_eq_self_iff.mp h, hshort⟩
  · rintro ⟨hzero, hshort⟩
    rw [cStr_eq_self_iff.mpr hzero]
    exact List.take_of_length_le (by omega)

@[simp] theorem cStr_cStr (text : SqlText) : cStr (cStr text) = cStr text :=
  List.takeWhile_idem

theorem copyField_cStr (size : Nat) (text : SqlText) :
    copyField size (cStr text) = copyField size text := by rw [copyField, cStr_cStr, copyField]

/-- A second copy changes nothing. -/
theorem copyField_copyField (size : Nat) (text : SqlText) :
    copyField size (copyField size text) = copyField size text := by
  have hzero : cStr ((cStr text).take (size - 1)) = (cStr text).take (size - 1) :=
    cStr_eq_self_iff.mpr fun c hc =>
      cStr_eq_self_iff.mp (cStr_cStr text) c (List.mem_of_mem_take hc)
  unfold copyField
  rw [hzero, List.take_take, Nat.min_self]

end CantianConnector.Ddl
