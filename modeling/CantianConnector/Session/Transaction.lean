import CantianConnector.Session.Context
import CantianConnector.Lib.Machine

/-!
# Beginning transactions

`is_ctc_trx_begin` of the session context is to say whether the transaction of the session is open
in the engine. `ctc_commit` and `ctc_rollback` clear it, and `get_tch_in_handler_data` resets it
when another thread has taken over the context. `start_stmt` takes over the context without the
reset, and it takes two engine errors for a success while `foreign_key_checks` is off.

The engine's side is what the requests tell: which sessions have an open begin (`EngineView`).
-/

namespace CantianConnector.Session

open CantianConnector.Convert

variable {η : Type}

/-! ## The engine's side -/

/-- The sessions with an open begin, and those for which a begin was issued while one was open. -/
structure EngineView where
  opened : List EngineSession
  twice : List EngineSession
deriving DecidableEq, Repr

/-- A begin is open from its success to the success of a commit or rollback for the session. -/
def observe (view : EngineView) : Request → EngineView
  | .trxBegin session replyAddr ret =>
    let begun : EngineSession := ⟨session.thdId, replyAddr⟩
    { opened := if ret = ctSuccess then begun :: view.opened else view.opened
      twice :=
        if session ∈ view.opened ∨ begun ∈ view.opened then session :: view.twice
        else view.twice }
  | .trxCommit session _ ret | .trxRollback session _ ret =>
    if ret = ctSuccess then { view with opened := view.opened.filter (· ≠ session) } else view
  | _ => view

/-- What the engine promises of session addresses: it keeps the session it is given, a session it
creates has no open transaction, and a begin that succeeds has a session. -/
structure BeginLaw (opened : List EngineSession) (tch : EngineSession) (reply : BeginReply) :
    Prop where
  kept : tch.sessAddr ≠ invalidValue64 → reply.sessAddr = tch.sessAddr
  created : tch.sessAddr = invalidValue64 →
    reply.sessAddr = invalidValue64 ∨ ∀ s ∈ opened, s.sessAddr ≠ reply.sessAddr
  valid : reply.ret = ctSuccess → reply.sessAddr ≠ invalidValue64

/-- A session context and the engine's side. -/
structure TrxState (η : Type) where
  ctx : SessCtx η
  view : EngineView

/-- The engine keeps its promises, and the server asks for a consistent snapshot only after the
previous transaction of the session has ended. -/
def Served (st : TrxState η) : Call η → Prop
  | .startStmt thd _ reply => BeginLaw st.view.opened (updateMemberTch thd.threadId st.ctx) reply
  | .startTrxAndAssignScn threadId _ reply =>
    BeginLaw st.view.opened (getTchInHandlerData threadId st.ctx).session reply ∧
      st.ctx.session ∉ st.view.opened
  | _ => True

/-- No `start_stmt` takes over the context of another thread while a begin is open, and none gets
one of the two errors that `check_error_code_to_mysql` ignores. -/
def Steady (st : TrxState η) : Call η → Prop
  | .startStmt thd _ reply =>
    (st.ctx.thdId = thd.threadId ∨ st.ctx.isCtcTrxBegin = false) ∧
      (thd.noForeignKeyChecks = false ∨
        reply.ret ≠ errConstraintViolatedNoFound ∧ reply.ret ≠ errRowIsReferenced)
  | _ => True

/-- A call that meets the guard and returns. -/
def TrxStep [DecidableEq η] (build : Build) (guard : TrxState η → Call η → Prop)
    (st st' : TrxState η) : Prop :=
  ∃ call done, Served st call ∧ guard st call ∧ sessCall build st.ctx call = .ok done ∧
    st' = ⟨done.ctx, done.sent.foldl observe st.view⟩

/-- The flag is set exactly while a begin of the session is open, and no begin was issued for a
session whose begin was open. -/
def BeginsRight (st : TrxState η) : Prop :=
  (st.ctx.isCtcTrxBegin = true ↔ st.ctx.session ∈ st.view.opened) ∧ st.view.twice = []

/-! ## The invariant -/

/-- An open begin at the address of the context belongs to the session of the context. -/
structure TrxInv (ctx : SessCtx η) (view : EngineView) : Prop where
  begun : ctx.isCtcTrxBegin = true → ctx.session ∈ view.opened
  alone : ∀ s ∈ view.opened, s.sessAddr = ctx.sessAddr →
    ctx.isCtcTrxBegin = true ∧ s = ctx.session
  valid : ∀ s ∈ view.opened, s.sessAddr ≠ invalidValue64
  never : view.twice = []

theorem TrxInv.beginsRight {st : TrxState η} (hi : TrxInv st.ctx st.view) : BeginsRight st := by
  refine ⟨⟨hi.begun, ?_⟩, hi.never⟩
  intro hmem
  exact (hi.alone _ hmem rfl).1

/-- The invariant is about three fields of the context. -/
theorem TrxInv.congr {ctx ctx' : SessCtx η} {view : EngineView} (hi : TrxInv ctx view)
    (hflag : ctx'.isCtcTrxBegin = ctx.isCtcTrxBegin) (hsession : ctx'.session = ctx.session) :
    TrxInv ctx' view := by
  have haddr : ctx'.sessAddr = ctx.sessAddr := congrArg EngineSession.sessAddr hsession
  refine ⟨?_, ?_, hi.valid, hi.never⟩
  · rw [hflag, hsession]
    exact hi.begun
  · rw [hflag, hsession, haddr]
    exact hi.alone

/-- A context without an address has no open begin. -/
theorem TrxInv.without {ctx : SessCtx η} {view : EngineView}
    (hvalid : ∀ s ∈ view.opened, s.sessAddr ≠ invalidValue64) (hnever : view.twice = [])
    (hflag : ctx.isCtcTrxBegin = false) (haddr : ∀ s ∈ view.opened, s.sessAddr ≠ ctx.sessAddr) :
    TrxInv ctx view where
  begun h := by
    rw [hflag] at h
    cases h
  alone s hs hsame := absurd hsame (haddr s hs)
  valid := hvalid
  never := hnever

theorem TrxInv.getTch {ctx : SessCtx η} {view : EngineView} (hi : TrxInv ctx view)
    (threadId : Nat) : TrxInv (getTchInHandlerData threadId ctx) view := by
  unfold getTchInHandlerData
  split
  · exact .without hi.valid hi.never rfl hi.valid
  · exact hi

theorem TrxInv.not_opened {ctx : SessCtx η} {view : EngineView} (hi : TrxInv ctx view)
    (hflag : ctx.isCtcTrxBegin = false) : ∀ s ∈ view.opened, s.sessAddr ≠ ctx.sessAddr := by
  intro s hs hsame
  have hset := (hi.alone s hs hsame).1
  rw [hflag] at hset
  cases hset

/-- The commit or rollback of the session has succeeded. -/
theorem TrxInv.close {ctx ctx' : SessCtx η} {view : EngineView} (hi : TrxInv ctx view)
    (hflag : ctx'.isCtcTrxBegin = false) (hsession : ctx'.session = ctx.session) :
    TrxInv ctx' { view with opened := view.opened.filter (· ≠ ctx.session) } := by
  have haddr : ctx'.sessAddr = ctx.sessAddr := congrArg EngineSession.sessAddr hsession
  refine .without ?_ hi.never hflag ?_
  · intro s hs
    exact hi.valid s (List.mem_filter.mp hs).1
  · intro s hs hsame
    obtain ⟨hmem, hne⟩ := List.mem_filter.mp hs
    have hself := (hi.alone s hmem (hsame.trans haddr)).2
    exact of_decide_eq_true hne hself

/-- What a begin does when no begin is open at the address it names. -/
theorem TrxInv.begin {view : EngineView} {tch : EngineSession} {reply : BeginReply}
    {ctx : SessCtx η} (hLaw : BeginLaw view.opened tch reply)
    (hclosed : ∀ s ∈ view.opened, s.sessAddr ≠ tch.sessAddr)
    (hvalid : ∀ s ∈ view.opened, s.sessAddr ≠ invalidValue64) (hnever : view.twice = [])
    (hsession : ctx.session = ⟨tch.thdId, reply.sessAddr⟩)
    (hflag : ctx.isCtcTrxBegin = true ↔ reply.ret = ctSuccess) :
    TrxInv ctx (observe view (.trxBegin tch reply.sessAddr reply.ret)) := by
  have haddr : ctx.sessAddr = reply.sessAddr := congrArg EngineSession.sessAddr hsession
  -- nothing is open at the address in the answer either
  have hfresh : ∀ s ∈ view.opened, s.sessAddr ≠ reply.sessAddr := by
    by_cases hgiven : tch.sessAddr = invalidValue64
    · rcases hLaw.created hgiven with hnone | hnew
      · rw [hnone]
        exact hvalid
      · exact hnew
    · rw [hLaw.kept hgiven]
      exact hclosed
  have hnotwice : ¬ (tch ∈ view.opened ∨
      (⟨tch.thdId, reply.sessAddr⟩ : EngineSession) ∈ view.opened) := by
    rintro (hmem | hmem)
    · exact hclosed _ hmem rfl
    · exact hfresh _ hmem rfl
  by_cases hret : reply.ret = ctSuccess
  · rw [observe, if_pos hret, if_neg hnotwice]
    refine ⟨?_, ?_, ?_, hnever⟩
    · intro _
      rw [hsession]
      exact List.mem_cons_self
    · intro s hs hsame
      refine ⟨hflag.mpr hret, ?_⟩
      rcases List.mem_cons.mp hs with rfl | hs
      · exact hsession.symm
      · exact absurd (hsame.trans haddr) (hfresh s hs)
    · intro s hs
      rcases List.mem_cons.mp hs with rfl | hs
      · exact hLaw.valid hret
      · exact hvalid s hs
  · rw [observe, if_neg hret, if_neg hnotwice]
    refine .without hvalid hnever ?_ ?_
    · exact Bool.eq_false_iff.mpr fun hset => hret (hflag.mp hset)
    · rw [haddr]
      exact hfresh

/-! ## One call -/

theorem checkErrorCodeToMysql_eq {noForeignKeyChecks : Bool} {ret : Int}
    (h : noForeignKeyChecks = false ∨
      ret ≠ errConstraintViolatedNoFound ∧ ret ≠ errRowIsReferenced) :
    checkErrorCodeToMysql noForeignKeyChecks ret = ret := by
  unfold checkErrorCodeToMysql
  rw [if_neg]
  rintro ⟨hoff, hret⟩
  rcases h with hon | ⟨hne, hne'⟩
  · rw [hon] at hoff
    cases hoff
  · rcases hret with hret | hret
    · exact hne hret
    · exact hne' hret

theorem startStmt_keeps {build : Build} {thd : StmtThd} {statRet : Int} {reply : BeginReply}
    {st : TrxState η} {done : Done η} (hi : TrxInv st.ctx st.view)
    (hServed : Served st (.startStmt thd statRet reply))
    (hSteady : Steady st (.startStmt thd statRet reply))
    (h : startStmt build thd statRet reply st.ctx = .ok done) :
    TrxInv done.ctx (done.sent.foldl observe st.view) := by
  obtain ⟨hthread, herrors⟩ := hSteady
  have hcode := checkErrorCodeToMysql_eq herrors
  unfold startStmt at h
  simp only [result_pure, hcode] at h
  by_cases hflag : st.ctx.isCtcTrxBegin = true
  · -- an open begin: the thread is the same, and so is the session
    have hsame : st.ctx.thdId = thd.threadId := by
      refine hthread.resolve_right ?_
      rw [hflag]
      exact Bool.noConfusion
    have hkeep : ∀ ctx' : SessCtx η, ctx'.isCtcTrxBegin = st.ctx.isCtcTrxBegin →
        ctx'.sessAddr = st.ctx.sessAddr → ctx'.thdId = thd.threadId → TrxInv ctx' st.view := by
      intro ctx' hflag' haddr hthd
      refine hi.congr hflag' ?_
      rw [SessCtx.session, haddr, hthd, ← hsame]
      rfl
    split at h
    · cases h
      exact hkeep _ rfl rfl rfl
    · obtain ⟨-, -, h⟩ := result_bind_eq_ok.mp h
      obtain ⟨-, -, h⟩ := result_bind_eq_ok.mp h
      cases h
      exact hkeep _ rfl rfl rfl
  · have hclear : st.ctx.isCtcTrxBegin = false := Bool.eq_false_iff.mpr hflag
    have hnone := hi.not_opened hclear
    split at h
    · cases h
      exact .without hi.valid hi.never hclear hnone
    · have hclosed : ∀ s ∈ st.view.opened,
          s.sessAddr ≠ (updateMemberTch thd.threadId st.ctx).sessAddr := by
        unfold updateMemberTch
        split
        · exact hi.valid
        · exact hnone
      split at h
      · rename_i hfail
        cases h
        refine TrxInv.begin hServed hclosed hi.valid hi.never rfl ?_
        exact iff_of_false (by rw [updateSessCtxByTch]; exact hflag) hfail
      · rename_i hok
        cases h
        refine TrxInv.begin hServed hclosed hi.valid hi.never rfl ?_
        exact iff_of_true rfl (not_not.mp hok)

theorem startTrx_keeps {build : Build} {threadId : Nat} {ignored : Bool} {reply : BeginReply}
    {st : TrxState η} {done : Done η} (hi : TrxInv st.ctx st.view)
    (hServed : Served st (.startTrxAndAssignScn threadId ignored reply))
    (h : ctcStartTrxAndAssignScn build threadId ignored reply st.ctx = .ok done) :
    TrxInv done.ctx (done.sent.foldl observe st.view) := by
  obtain ⟨hLaw, hended⟩ := hServed
  have hi' := hi.getTch threadId
  have hclear : (getTchInHandlerData threadId st.ctx).isCtcTrxBegin = false := by
    unfold getTchInHandlerData
    split
    · rfl
    · exact Bool.eq_false_iff.mpr fun hset => hended (hi.begun hset)
  unfold ctcStartTrxAndAssignScn at h
  simp only [result_pure] at h
  split at h
  · cases h
    exact hi
  · obtain ⟨-, -, h⟩ := result_bind_eq_ok.mp h
    split at h
    · rename_i hfail
      cases h
      refine TrxInv.begin hLaw (hi'.not_opened hclear) hi'.valid hi'.never rfl ?_
      refine iff_of_false ?_ hfail
      rw [updateSessCtxByTch, hclear]
      exact Bool.noConfusion
    · rename_i hok
      cases h
      refine TrxInv.begin hLaw (hi'.not_opened hclear) hi'.valid hi'.never rfl ?_
      exact iff_of_true rfl (not_not.mp hok)

/-- Freeing cursors is no news for the transaction. -/
theorem free_keeps {build : Build} {maxCursors : Nat} {inMultiStmt : Bool} {ctx : SessCtx η}
    {view : EngineView} {done : Done η} (hi : TrxInv ctx view)
    (h : ctcFreeCursorsNoAutocommit build maxCursors inMultiStmt ctx = .ok done) :
    TrxInv done.ctx view ∧ done.sent.foldl observe view = view := by
  unfold ctcFreeCursorsNoAutocommit at h
  simp only [result_pure, collectCursors_eq, result_bind_ok] at h
  split at h
  · cases h
    exact ⟨hi, rfl⟩
  · cases h
    exact ⟨hi.congr rfl rfl, rfl⟩

theorem commit_keeps {build : Build} {thd : EndThd} {passthru commitTrx : Bool}
    {reply : CommitReply} {ctx : SessCtx η} {view : EngineView} {done : Done η}
    (hi : TrxInv ctx view) (h : ctcCommit build thd passthru commitTrx reply ctx = .ok done) :
    TrxInv done.ctx (done.sent.foldl observe view) := by
  have hi' := hi.getTch thd.threadId
  unfold ctcCommit at h
  simp only [result_pure, collectCursors_eq, result_bind_ok] at h
  split at h
  · cases h
    exact hi
  · split at h
    · split at h
      · rename_i hfail
        cases h
        rw [List.foldl_cons, List.foldl_nil, observe, if_neg hfail]
        exact hi'.congr rfl rfl
      · rename_i hok
        obtain ⟨-, -, h⟩ := result_bind_eq_ok.mp h
        cases h
        rw [List.foldl_cons, List.foldl_nil, observe, if_pos (not_not.mp hok)]
        exact hi'.close rfl rfl
    · have hstat : (reply.statRet.toList.map (Request.statisticCommit
          (getTchInHandlerData thd.threadId ctx).session)).foldl observe view = view := by
        cases reply.statRet <;> rfl
      split at h
      · cases h
        rw [hstat]
        exact hi'
      · obtain ⟨freed, hfree, h⟩ := result_bind_eq_ok.mp h
        cases h
        obtain ⟨hfreed, hsent⟩ := free_keeps hi' hfree
        rw [List.foldl_append, hstat, hsent]
        exact hfreed.congr rfl rfl

theorem rollback_keeps {build : Build} {thd : EndThd} {rollbackTrx : Bool} {ret : Int}
    {ctx : SessCtx η} {view : EngineView} {done : Done η} (hi : TrxInv ctx view)
    (h : ctcRollback build thd rollbackTrx ret ctx = .ok done) :
    TrxInv done.ctx (done.sent.foldl observe view) := by
  have hi' := hi.getTch thd.threadId
  unfold ctcRollback at h
  simp only [result_pure, collectCursors_eq, result_bind_ok] at h
  split at h
  · split at h
    · rename_i hfail
      cases h
      rw [List.foldl_cons, List.foldl_nil, observe, if_neg hfail]
      exact hi'.congr rfl rfl
    · rename_i hok
      cases h
      rw [List.foldl_cons, List.foldl_nil, observe, if_pos (not_not.mp hok)]
      exact hi'.close rfl rfl
  · split at h
    · cases h
      exact hi'.congr rfl rfl
    · obtain ⟨freed, hfree, h⟩ := result_bind_eq_ok.mp h
      cases h
      obtain ⟨hfreed, hsent⟩ := free_keeps hi' hfree
      rw [hsent]
      exact hfreed.congr rfl rfl

theorem rollbackSavepoint_keeps {build : Build} {threadId : Nat} {ret : Int} {ctx : SessCtx η}
    {view : EngineView} {done : Done η} (hi : TrxInv ctx view)
    (h : ctcRollbackSavepoint build threadId ret ctx = .ok done) :
    TrxInv done.ctx (done.sent.foldl observe view) := by
  unfold ctcRollbackSavepoint at h
  simp only [result_pure, collectCursors_eq, result_bind_ok] at h
  cases h
  exact (hi.getTch threadId).congr rfl rfl

theorem register_keeps [DecidableEq η] {build : Build} {tch : η} {cursorAddr : UInt64}
    {ctx : SessCtx η} {view : EngineView} {done : Done η} (hi : TrxInv ctx view)
    (h : updateSessCtxCursorByTch build tch cursorAddr ctx = .ok done) :
    TrxInv done.ctx (done.sent.foldl observe view) := by
  unfold updateSessCtxCursorByTch at h
  simp only [result_pure] at h
  split at h
  · cases h
    exact hi
  · split at h
    · cases h
      exact hi
    · split at h
      · cases h
        exact hi.congr rfl rfl
      · split at h
        · cases h
          exact hi.congr rfl rfl
        · obtain ⟨-, -, h⟩ := result_bind_eq_ok.mp h
          cases h
          exact hi.congr rfl rfl

/-! ## Runs -/

section

variable [DecidableEq η]

/-- What one call keeps. -/
theorem trxInv_step {build : Build} (st st' : TrxState η) (hi : TrxInv st.ctx st.view)
    (hStep : TrxStep build Steady st st') : TrxInv st'.ctx st'.view := by
  obtain ⟨call, done, hServed, hSteady, hcall, rfl⟩ := hStep
  cases call with
  | startStmt thd statRet reply => exact startStmt_keeps hi hServed hSteady hcall
  | startTrxAndAssignScn threadId ignored reply => exact startTrx_keeps hi hServed hcall
  | commit thd passthru commitTrx reply => exact commit_keeps hi hcall
  | rollback thd rollbackTrx ret => exact rollback_keeps hi hcall
  | rollbackSavepoint threadId ret => exact rollbackSavepoint_keeps hi hcall
  | registerCursor tch cursorAddr => exact register_keeps hi hcall

/-- A connection before its first call. -/
def TrxState.init (η : Type) : TrxState η := ⟨SessCtx.init η, ⟨[], []⟩⟩

/-- **Begin discipline.** In every run in which no `start_stmt` takes over the context of another
thread during a transaction, or gets an ignored error for its begin, the flag is set exactly while
a begin of the session is open, and no begin is issued for a session whose begin is open. -/
theorem trxBegin_disciplined_runs {build : Build} {st : TrxState η}
    (hRun : Relation.ReflTransGen (TrxStep build Steady) (TrxState.init η) st) :
    BeginsRight st := by
  have hInit : TrxInv (TrxState.init η).ctx (TrxState.init η).view := by
    refine .without ?_ rfl rfl ?_
    · intro s hs
      cases hs
    · intro s hs
      cases hs
  exact (Machine.invariant_of_reaches trxInv_step hInit hRun).beginsRight

end

/-! ## Another thread -/

/-- The statement of a thread, outside of any other. -/
def statementOf (threadId : Nat) : StmtThd := ⟨threadId, false, false, false⟩

/-- A statement of thread 1 has begun a transaction at address 7. -/
def begunState : TrxState Unit where
  ctx := { SessCtx.init Unit with
    thdId := 1, sessAddr := 7, isCtcTrxBegin := true, sqlStatStart := true }
  view := ⟨[⟨1, 7⟩], []⟩

/-- Thread 2 has taken over the context. -/
def takenOverState : TrxState Unit where
  ctx := { begunState.ctx with thdId := 2 }
  view := begunState.view

theorem begunState_served :
    Served (TrxState.init Unit) (.startStmt (statementOf 1) ctSuccess ⟨ctSuccess, 7, true⟩) where
  kept h := absurd rfl h
  created _ := by
    right
    intro s hs
    cases hs
  valid _ := by decide

theorem begunState_reached {build : Build} {guard : TrxState Unit → Call Unit → Prop}
    (hguard : guard (TrxState.init Unit)
      (.startStmt (statementOf 1) ctSuccess ⟨ctSuccess, 7, true⟩)) :
    Relation.ReflTransGen (TrxStep build guard) (TrxState.init Unit) begunState :=
  .tail .refl ⟨_, _, begunState_served, hguard, rfl, rfl⟩

/-- A statement of thread 2 finds the flag of thread 1. A debug build stops at an assertion, a
release build goes on without a begin. -/
theorem trxBegin_missing_after_takeover :
    Relation.ReflTransGen (TrxStep .release fun _ _ => True) (TrxState.init Unit)
        takenOverState ∧
      ¬ BeginsRight takenOverState ∧
      startStmt .debug (statementOf 2) ctSuccess ⟨ctSuccess, 7, true⟩ begunState.ctx =
        .error .assertion := by
  refine ⟨?_, ?_, rfl⟩
  · refine .tail (begunState_reached trivial)
      ⟨.startStmt (statementOf 2) ctSuccess ⟨1, invalidValue64, true⟩, _, ?_, trivial, rfl, rfl⟩
    refine ⟨fun h => absurd rfl h, fun _ => .inl rfl, ?_⟩
    intro hret
    cases hret
  · rintro ⟨hflag, -⟩
    have hmem := hflag.mp rfl
    revert hmem
    decide

theorem trxBegin_disciplined_one_statement :
    begunState.ctx.isCtcTrxBegin = true ∧ begunState.ctx.session ∈ begunState.view.opened := by
  have hRun : Relation.ReflTransGen (TrxStep .debug Steady) (TrxState.init Unit) begunState :=
    begunState_reached ⟨.inr rfl, .inl rfl⟩
  exact ⟨rfl, (trxBegin_disciplined_runs hRun).1.mp rfl⟩

end CantianConnector.Session
