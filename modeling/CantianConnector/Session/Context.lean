import CantianConnector.Convert.Result
import Mathlib.Algebra.GroupWithZero.Nat
import Mathlib.Data.List.AList

/-!
# The session context

`thd_sess_ctx_s`, one per connection, and the calls that change it: `start_stmt`,
`ctc_start_trx_and_assign_scn`, `ctc_commit`, `ctc_rollback`, `ctc_rollback_savepoint` and
`update_sess_ctx_cursor_by_tch`. The engine is on the other side of a request: every call returns
the requests it has sent, each with the engine's answer, and the answers are arguments.

The context is created with the first call of a connection; here it exists from the start
(`SessCtx.init`). Allocations of shared memory succeed, so `ctc_alloc_buf` is null only for
zero bytes. Return codes are those of the engine, before their conversion to MySQL's.
-/

namespace CantianConnector.Session

open CantianConnector.Convert (Build Failure Result cAssert cAssert_true)

/-! ## Constants -/

/-- `INVALID_VALUE64`. -/
def invalidValue64 : UInt64 := 0xFFFFFFFFFFFFFFFF

/-- `SESSION_CURSOR_NUM`. -/
def sessionCursorNum : Nat := 8192 * 2

def ctSuccess : Int := 0

def errRowIsReferenced : Int := 1123

def errConstraintViolatedNoFound : Int := 1128

/-! ## The context and the requests -/

/-- `thd_sess_ctx_s`. Handlers are told apart by their address, of type `η`. The entries of
`cursorsMap` stand in the order of iteration. -/
structure SessCtx (η : Type) where
  sessAddr : UInt64
  thdId : Nat
  isCtcTrxBegin : Bool
  sqlStatStart : Bool
  cursorsMap : AList fun _ : η => UInt64
  /-- `none` is a null pointer. -/
  invalidCursors : Option (List UInt64)

/-- The context that `get_or_init_sess_ctx` creates. -/
def SessCtx.init (η : Type) : SessCtx η where
  sessAddr := invalidValue64
  thdId := 2 ^ 32 - 1
  isCtcTrxBegin := false
  sqlStatStart := false
  cursorsMap := ∅
  invalidCursors := none

/-- An array of cursors in a request: its stated length and the addresses copied into it. -/
structure CursorArray where
  csize : Nat
  cursors : List UInt64
deriving DecidableEq, Repr

/-- The session a request names. -/
structure EngineSession where
  thdId : Nat
  sessAddr : UInt64
deriving DecidableEq, Repr

/-- A request to the engine with the answer. -/
inductive Request where
  /-- `replyAddr` is the session address in the answer. -/
  | trxBegin (session : EngineSession) (replyAddr : UInt64) (ret : Int)
  | trxCommit (session : EngineSession) (array : CursorArray) (ret : Int)
  | trxRollback (session : EngineSession) (array : CursorArray) (ret : Int)
  | srvRollbackSavepoint (session : EngineSession) (array : CursorArray) (ret : Int)
  | freeSessionCursors (array : CursorArray)
  | statisticBegin (session : EngineSession) (ret : Int)
  | statisticCommit (session : EngineSession) (ret : Int)
deriving DecidableEq, Repr

/-- What a call leaves: the context, the requests it sent and its return code. -/
structure Done (η : Type) where
  ctx : SessCtx η
  sent : List Request
  rc : Int

section

variable {η : Type}

/-- The session that a handler initialised from the context names. -/
def SessCtx.session (ctx : SessCtx η) : EngineSession := ⟨ctx.thdId, ctx.sessAddr⟩

/-- The number of cursors in the context. -/
def SessCtx.totalCsize (ctx : SessCtx η) : Nat :=
  ctx.cursorsMap.entries.length + (ctx.invalidCursors.getD []).length

/-! ## Cursors -/

/-- `ctc_alloc_buf`: whether the pointer is not null. -/
def ctcAllocBuf (size : Nat) : Bool := size != 0

/-- `ctc_copy_cursors_to_free`. -/
def ctcCopyCursorsToFree (ctx : SessCtx η) (left : Nat) : List UInt64 × SessCtx η :=
  let invalid := ctx.invalidCursors.getD []
  let ctx := { ctx with invalidCursors := ctx.invalidCursors.map fun _ => [] }
  if left = 0 then
    (invalid ++ ctx.cursorsMap.entries.map Sigma.snd, { ctx with cursorsMap := ∅ })
  else (invalid, ctx)

/-- The lines that `ctc_commit`, `ctc_rollback`, `ctc_rollback_savepoint` and
`ctc_free_cursors_no_autocommit` share: an array for all cursors is allocated and filled. -/
def collectCursors (build : Build) (ctx : SessCtx η) : Result (CursorArray × SessCtx η) := do
  let totalCsize := ctx.totalCsize
  cAssert build (xor (totalCsize == 0) (ctcAllocBuf totalCsize))
  let (cursors, ctx) := ctcCopyCursorsToFree ctx 0
  return (⟨totalCsize, cursors⟩, ctx)

/-- The addresses among the values of the map. -/
def SessCtx.mapped (ctx : SessCtx η) : List UInt64 := ctx.cursorsMap.entries.map Sigma.snd

/-- The addresses among the invalid cursors. -/
def SessCtx.invalid (ctx : SessCtx η) : List UInt64 := ctx.invalidCursors.getD []

/-- The context without its cursors. -/
def SessCtx.emptied (ctx : SessCtx η) : SessCtx η :=
  { ctx with cursorsMap := ∅, invalidCursors := ctx.invalidCursors.map fun _ => [] }

/-- The assertion holds: without allocation failures the array is null exactly for no cursors. -/
theorem collectCursors_eq (build : Build) (ctx : SessCtx η) :
    collectCursors build ctx =
      .ok (⟨ctx.totalCsize, ctx.invalid ++ ctx.mapped⟩, ctx.emptied) := by
  have hassert : xor (ctx.totalCsize == 0) (ctcAllocBuf ctx.totalCsize) = true := by
    unfold ctcAllocBuf bne
    cases ctx.totalCsize == 0 <;> rfl
  unfold collectCursors
  dsimp only
  rw [hassert, cAssert_true]
  rfl

/-- The invalid cursors once the handler has another cursor; the vector is created when it is
first needed. -/
def invalidateCursor [DecidableEq η] (tch : η) (ctx : SessCtx η) : Option (List UInt64) :=
  match ctx.cursorsMap.lookup tch with
  | some current => some (ctx.invalidCursors.getD [] ++ [current])
  | none => ctx.invalidCursors

/-- `update_sess_ctx_cursor_by_tch` for the handler at address `tch`. -/
def updateSessCtxCursorByTch [DecidableEq η] (build : Build) (tch : η) (cursorAddr : UInt64)
    (ctx : SessCtx η) : Result (Done η) := do
  if cursorAddr = invalidValue64 then
    return ⟨ctx, [], ctSuccess⟩
  if ctx.cursorsMap.lookup tch = some cursorAddr then
    return ⟨ctx, [], ctSuccess⟩
  let invalidCursors := invalidateCursor tch ctx
  let ctx := { ctx with
    cursorsMap := ctx.cursorsMap.insert tch cursorAddr
    invalidCursors := invalidCursors }
  match invalidCursors with
  | none => return ⟨ctx, [], ctSuccess⟩
  | some invalid =>
    if ctx.totalCsize < sessionCursorNum then
      return ⟨ctx, [], ctSuccess⟩
    cAssert build (xor (ctx.totalCsize == 0) (ctcAllocBuf invalid.length))
    let (cursors, ctx) := ctcCopyCursorsToFree ctx 1
    return ⟨ctx, [.freeSessionCursors ⟨invalid.length, cursors⟩], ctSuccess⟩

/-- `ctc_free_cursors_no_autocommit`. -/
def ctcFreeCursorsNoAutocommit (build : Build) (maxCursors : Nat) (inMultiStmt : Bool)
    (ctx : SessCtx η) : Result (Done η) := do
  if inMultiStmt = false ∨ ctx.totalCsize ≤ maxCursors then
    return ⟨ctx, [], ctSuccess⟩
  let (array, ctx) ← collectCursors build ctx
  return ⟨ctx, [.freeSessionCursors array], ctSuccess⟩

/-! ## Handlers for a call -/

/-- `get_tch_in_handler_data`: the context is reset when another thread has taken it over. -/
def getTchInHandlerData (threadId : Nat) (ctx : SessCtx η) : SessCtx η :=
  if ctx.thdId ≠ threadId then
    { ctx with
      sessAddr := invalidValue64
      thdId := threadId
      isCtcTrxBegin := false
      sqlStatStart := false }
  else ctx

/-- `update_member_tch`: the session that the member handler names afterwards. -/
def updateMemberTch (threadId : Nat) (ctx : SessCtx η) : EngineSession :=
  if ctx.thdId ≠ threadId then ⟨threadId, invalidValue64⟩ else ctx.session

/-- The engine's answer to `ctc_trx_begin`; the handler is copied back in any case. -/
structure BeginReply where
  ret : Int
  sessAddr : UInt64
  sqlStatStart : Bool
deriving DecidableEq, Repr

/-- `update_sess_ctx_by_tch`, with the handler as the engine has left it. -/
def updateSessCtxByTch (thdId : Nat) (reply : BeginReply) (ctx : SessCtx η) : SessCtx η :=
  { ctx with thdId := thdId, sessAddr := reply.sessAddr, sqlStatStart := reply.sqlStatStart }

/-- `check_error_code_to_mysql`: with `foreign_key_checks` off two codes count as success. -/
def checkErrorCodeToMysql (noForeignKeyChecks : Bool) (ret : Int) : Int :=
  if noForeignKeyChecks ∧ (ret = errConstraintViolatedNoFound ∨ ret = errRowIsReferenced) then
    ctSuccess
  else ret

/-! ## Beginning a transaction -/

/-- What `start_stmt` reads from the `THD`. -/
structure StmtThd where
  threadId : Nat
  inSubStmt : Bool
  /-- The command is `SQLCOM_LOCK_TABLES`. -/
  lockTables : Bool
  noForeignKeyChecks : Bool
deriving DecidableEq, Repr

/-- `ha_ctc::start_stmt`. -/
def startStmt (build : Build) (thd : StmtThd) (statRet : Int) (reply : BeginReply)
    (ctx : SessCtx η) : Result (Done η) := do
  let tch := updateMemberTch thd.threadId ctx
  let ctx := { ctx with thdId := thd.threadId, sqlStatStart := ctx.sqlStatStart || !thd.inSubStmt }
  if thd.lockTables then
    return ⟨ctx, [], ctSuccess⟩
  if ctx.isCtcTrxBegin then
    cAssert build (tch.sessAddr != invalidValue64)
    cAssert build (tch.thdId == thd.threadId)
    return ⟨ctx, [.statisticBegin tch statRet], statRet⟩
  let ctx := updateSessCtxByTch tch.thdId reply ctx
  let ret := checkErrorCodeToMysql thd.noForeignKeyChecks reply.ret
  let sent := [.trxBegin tch reply.sessAddr reply.ret]
  if ret ≠ ctSuccess then
    return ⟨ctx, sent, ret⟩
  return ⟨{ ctx with isCtcTrxBegin := true }, sent, ctSuccess⟩

/-- `ctc_start_trx_and_assign_scn`; `ignored` says that the call is passed through or that the
isolation level is not REPEATABLE READ. -/
def ctcStartTrxAndAssignScn (build : Build) (threadId : Nat) (ignored : Bool) (reply : BeginReply)
    (ctx : SessCtx η) : Result (Done η) := do
  if ignored then
    return ⟨ctx, [], ctSuccess⟩
  let ctx := getTchInHandlerData threadId ctx
  let tch := ctx.session
  cAssert build (!ctx.isCtcTrxBegin)
  let ctx := updateSessCtxByTch tch.thdId reply ctx
  let sent := [.trxBegin tch reply.sessAddr reply.ret]
  if reply.ret ≠ ctSuccess then
    return ⟨ctx, sent, reply.ret⟩
  return ⟨{ ctx with isCtcTrxBegin := true }, sent, ctSuccess⟩

/-! ## Ending a statement or a transaction -/

/-- What `ctc_commit` and `ctc_rollback` read from the `THD` and from the system variables. -/
structure EndThd where
  threadId : Nat
  inMultiStmt : Bool
  /-- `ctc_max_cursors_no_autocommit`. -/
  maxCursors : Nat
deriving DecidableEq, Repr

/-- The answers that `ctc_commit` may get. -/
structure CommitReply where
  ret : Int
  /-- The return code of the DDL broadcast, if the commit is followed by one. -/
  broadcastRet : Option Int
  /-- The return code of `ctc_statistic_commit`, if statistics are on for a DML statement. -/
  statRet : Option Int
deriving DecidableEq, Repr

/-- A new SQL border, unless the transaction ends. -/
def markSqlStart (trx : Bool) (ctx : SessCtx η) : SessCtx η :=
  { ctx with sqlStatStart := ctx.sqlStatStart || !trx }

/-- `ctc_commit`; `passthru` says that the call returns at once. -/
def ctcCommit (build : Build) (thd : EndThd) (passthru commitTrx : Bool) (reply : CommitReply)
    (ctx : SessCtx η) : Result (Done η) := do
  if passthru then
    return ⟨ctx, [], ctSuccess⟩
  let ctx := getTchInHandlerData thd.threadId ctx
  let tch := ctx.session
  if commitTrx ∨ thd.inMultiStmt = false then
    let (array, ctx) ← collectCursors build ctx
    let sent := [.trxCommit tch array reply.ret]
    if reply.ret ≠ ctSuccess then
      return ⟨ctx, sent, reply.ret⟩
    cAssert build (reply.broadcastRet.getD ctSuccess == ctSuccess)
    return ⟨markSqlStart commitTrx { ctx with isCtcTrxBegin := false }, sent, ctSuccess⟩
  let stat := reply.statRet.toList.map (.statisticCommit tch)
  if reply.statRet.getD ctSuccess ≠ ctSuccess then
    return ⟨ctx, stat, reply.statRet.getD ctSuccess⟩
  let freed ← ctcFreeCursorsNoAutocommit build thd.maxCursors thd.inMultiStmt ctx
  return ⟨markSqlStart commitTrx freed.ctx, stat ++ freed.sent, ctSuccess⟩

/-- `ctc_rollback`. -/
def ctcRollback (build : Build) (thd : EndThd) (rollbackTrx : Bool) (ret : Int) (ctx : SessCtx η) :
    Result (Done η) := do
  let ctx := getTchInHandlerData thd.threadId ctx
  let tch := ctx.session
  if rollbackTrx ∨ thd.inMultiStmt = false then
    let (array, ctx) ← collectCursors build ctx
    let sent := [.trxRollback tch array ret]
    if ret ≠ ctSuccess then
      return ⟨ctx, sent, ret⟩
    return ⟨markSqlStart rollbackTrx { ctx with isCtcTrxBegin := false }, sent, ctSuccess⟩
  else if ctx.sqlStatStart = false then
    let (array, ctx) ← collectCursors build ctx
    return ⟨markSqlStart rollbackTrx ctx, [.srvRollbackSavepoint tch array ret], ctSuccess⟩
  else
    let freed ← ctcFreeCursorsNoAutocommit build thd.maxCursors thd.inMultiStmt ctx
    return ⟨markSqlStart rollbackTrx freed.ctx, freed.sent, ctSuccess⟩

/-- `ctc_rollback_savepoint`. -/
def ctcRollbackSavepoint (build : Build) (threadId : Nat) (ret : Int) (ctx : SessCtx η) :
    Result (Done η) := do
  let ctx := getTchInHandlerData threadId ctx
  let tch := ctx.session
  let (array, ctx) ← collectCursors build ctx
  return ⟨ctx, [.srvRollbackSavepoint tch array ret], ret⟩

/-! ## Calls -/

/-- The calls of the server and of the handlers on one context, each with the answers it gets. -/
inductive Call (η : Type) where
  | startStmt (thd : StmtThd) (statRet : Int) (reply : BeginReply)
  | startTrxAndAssignScn (threadId : Nat) (ignored : Bool) (reply : BeginReply)
  | commit (thd : EndThd) (passthru commitTrx : Bool) (reply : CommitReply)
  | rollback (thd : EndThd) (rollbackTrx : Bool) (ret : Int)
  | rollbackSavepoint (threadId : Nat) (ret : Int)
  | registerCursor (tch : η) (cursorAddr : UInt64)

/-- One call. -/
def sessCall [DecidableEq η] (build : Build) (ctx : SessCtx η) : Call η → Result (Done η)
  | .startStmt thd statRet reply => startStmt build thd statRet reply ctx
  | .startTrxAndAssignScn threadId ignored reply =>
    ctcStartTrxAndAssignScn build threadId ignored reply ctx
  | .commit thd passthru commitTrx reply => ctcCommit build thd passthru commitTrx reply ctx
  | .rollback thd rollbackTrx ret => ctcRollback build thd rollbackTrx ret ctx
  | .rollbackSavepoint threadId ret => ctcRollbackSavepoint build threadId ret ctx
  | .registerCursor tch cursorAddr => updateSessCtxCursorByTch build tch cursorAddr ctx

end

end CantianConnector.Session
