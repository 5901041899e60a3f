import Mathlib.Data.List.Basic

/-!
# Engine errors as server errors

`convert_ctc_error_code_to_mysql` of `ctc_error.cc`. The errors of the server are names here: what
the connector looks at is whether a result is zero.
-/

namespace CantianConnector.Ddl

/-- The handler errors (`HA_ERR_*`) that engine errors become. -/
inductive HaErr where
  | generic
  | wrongCommand
  | lockDeadlock
  | recordChanged
  | lockWaitTimeout
  | tooBigRow
  | foundDuppKey
  | noReferencedRow
  | rowIsReferenced
  | tableDefChanged
  | noSavepoint
  | lockTableFull
  | wrongFileName
  | tablespaceMissing
  | tablespaceExists
  | internalError
  | noSuchTable
  | wrongIndex
  | noConnection
  | seOutOfMemory
  | noWaitLock
  | queryInterrupted
  | autoincReadFailed
  | tableCorrupt
  | tooManyConcurrentTrxs
  | readOnlyTransaction
deriving DecidableEq, Repr

/-- The errors that `convert_cantian_err_to_mysql` raises. -/
inductive RaisedErr where
  | disallowedOperation
  | openAsReadonly
  | wrongValueCount
  | lockNowait
  | multiUpdateKeyConflict
  | invalidUseOfNull
  | conCountError
  | tooLongIdent
  | foreignDuplicateKeyWithChildInfo
  | cannotAddForeign
  | fkDepthExceeded
  | handler (error : HaErr)
  | noReferencedRow2
  | lockWaitTimeout
deriving DecidableEq, Repr

/-- `err_code_lookup_map`, by the codes of `ct_errno_t`. -/
def errCodeLookupMap : List (Int × HaErr) :=
  [(2008, .generic), (2009, .generic), (2010, .generic), (299, .generic), (404, .wrongCommand),
    (130, .wrongCommand), (716, .lockDeadlock), (735, .recordChanged), (717, .lockWaitTimeout),
    (727, .tooBigRow), (729, .foundDuppKey), (1128, .noReferencedRow), (1123, .rowIsReferenced),
    (732, .tableDefChanged), (736, .noSavepoint), (740, .lockTableFull), (771, .wrongFileName),
    (780, .tablespaceMissing), (788, .tablespaceExists), (820, .internalError),
    (843, .noSuchTable), (722, .noSuchTable), (759, .wrongIndex), (4004, .noConnection),
    (1, .seOutOfMemory), (408, .noWaitLock), (718, .queryInterrupted), (4000, .internalError),
    (4001, .internalError), (4002, .noConnection), (4003, .internalError),
    (1467, .autoincReadFailed), (849, .tableCorrupt), (880, .tableCorrupt)]

/-- The cases of `convert_cantian_err_to_mysql`. -/
def cantianErrors : List (Int × RaisedErr) :=
  [(101, .disallowedOperation), (4008, .openAsReadonly), (773, .disallowedOperation),
    (619, .wrongValueCount), (408, .lockNowait), (814, .multiUpdateKeyConflict),
    (709, .invalidUseOfNull), (403, .conCountError), (748, .tooLongIdent),
    (4007, .foreignDuplicateKeyWithChildInfo), (4006, .cannotAddForeign),
    (1133, .fkDepthExceeded), (715, .handler .tooManyConcurrentTrxs), (1134, .noReferencedRow2),
    (717, .lockWaitTimeout)]

/-- `convert_cantian_err_to_mysql`; `none` is 0. -/
def convertCantianErrToMysql (error : Int) : Option RaisedErr := cantianErrors.lookup error

/-- `convert_ctc_error_code_to_mysql`; `none` is 0. -/
def convertCtcErrorCodeToMysql (error : Int) : Option HaErr :=
  if error = 0 then none
  else
    match convertCantianErrToMysql error with
    | some .openAsReadonly => some .readOnlyTransaction
    | some _ => some .wrongCommand
    | none => some ((errCodeLookupMap.lookup error).getD .generic)

/-- No error is lost. -/
theorem convertCtcErrorCodeToMysql_eq_none_iff (error : Int) :
    convertCtcErrorCodeToMysql error = none ↔ error = 0 := by
  unfold convertCtcErrorCodeToMysql
  by_cases hzero : error = 0
  · simp [hzero]
  · rw [if_neg hzero]
    refine iff_of_false ?_ hzero
    split <;> simp

end CantianConnector.Ddl
