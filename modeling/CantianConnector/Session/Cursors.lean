import CantianConnector.Session.Context
import CantianConnector.Lib.Machine

/-!
# Cursors of a session

A cursor address that a handler registers is in the map of the session until the handler registers
another one, then among the invalid cursors, until it is sent to the engine to be freed. Every call
moves addresses between these three places and loses or doubles none (`Moves`); along a run, each
address is therefore in exactly one of them (`cursors_conserved`).
-/

namespace CantianConnector.Session

open CantianConnector.Convert
open scoped List

variable {η : Type}

/-! ## Where addresses are -/

/-- The addresses that the context holds. -/
def SessCtx.held (ctx : SessCtx η) : List UInt64 := ctx.mapped ++ ctx.invalid

/-- The array of cursors in a request. -/
def Request.array? : Request → Option CursorArray
  | .trxCommit _ array _ => some array
  | .trxRollback _ array _ => some array
  | .srvRollbackSavepoint _ array _ => some array
  | .freeSessionCursors array => some array
  | _ => none

/-- The arrays in the requests. -/
def arrays (sent : List Request) : List CursorArray := sent.filterMap Request.array?

theorem arrays_append (as bs : List Request) : arrays (as ++ bs) = arrays as ++ arrays bs :=
  List.filterMap_append

/-- What a call does with the addresses: what it leaves or sends was held before or is new. -/
structure Moves (ctx : SessCtx η) (new : List UInt64) (done : Done η) : Prop where
  perm : done.ctx.held ++ (arrays done.sent).flatMap CursorArray.cursors ~ new ++ ctx.held
  sized : ∀ array ∈ arrays done.sent, array.csize = array.cursors.length

/-! ## One call -/

/-- A call that leaves the cursors alone. -/
theorem Moves.of_held {ctx : SessCtx η} {done : Done η} (hheld : done.ctx.held = ctx.held)
    (harrays : arrays done.sent = []) : Moves ctx [] done where
  perm := by rw [hheld, harrays, List.flatMap_nil, List.append_nil, List.nil_append]
  sized array harray := by
    rw [harrays] at harray
    cases harray

/-- A call that sends all cursors in one array. -/
theorem Moves.of_all {ctx : SessCtx η} {done : Done η} {array : CursorArray}
    (hheld : done.ctx.held = []) (harrays : arrays done.sent = [array])
    (hall : array.cursors ~ ctx.held) (hsize : array.csize = ctx.held.length) :
    Moves ctx [] done where
  perm := by
    rw [hheld, harrays, List.flatMap_singleton, List.nil_append, List.nil_append]
    exact hall
  sized array' harray' := by
    rw [harrays, List.mem_singleton] at harray'
    rw [harray', hsize, hall.length_eq]

@[simp] theorem held_getTch (threadId : Nat) (ctx : SessCtx η) :
    (getTchInHandlerData threadId ctx).held = ctx.held := by
  unfold getTchInHandlerData
  split <;> rfl

@[simp] theorem held_emptied (ctx : SessCtx η) : ctx.emptied.held = [] := by
  unfold SessCtx.held SessCtx.mapped SessCtx.invalid SessCtx.emptied
  cases ctx.invalidCursors <;> rfl

theorem length_held (ctx : SessCtx η) : ctx.held.length = ctx.totalCsize := by
  unfold SessCtx.held SessCtx.mapped SessCtx.invalid SessCtx.totalCsize
  rw [List.length_append, List.length_map]

theorem perm_held (ctx : SessCtx η) : ctx.invalid ++ ctx.mapped ~ ctx.held :=
  List.perm_append_comm

theorem free_moves {build : Build} {maxCursors : Nat} {inMultiStmt : Bool} {ctx : SessCtx η}
    {done : Done η} (h : ctcFreeCursorsNoAutocommit build maxCursors inMultiStmt ctx = .ok done) :
    Moves ctx [] done := by
  unfold ctcFreeCursorsNoAutocommit at h
  simp only [result_pure, collectCursors_eq, result_bind_ok] at h
  split at h
  · cases h
    exact .of_held rfl rfl
  · cases h
    exact .of_all (held_emptied ctx) rfl (perm_held ctx) (length_held ctx).symm

theorem startStmt_moves {build : Build} {thd : StmtThd} {statRet : Int} {reply : BeginReply}
    {ctx : SessCtx η} {done : Done η} (h : startStmt build thd statRet reply ctx = .ok done) :
    Moves ctx [] done := by
  unfold startStmt at h
  simp only [result_pure] at h
  split at h
  · cases h
    exact .of_held rfl rfl
  · split at h
    · obtain ⟨-, -, h⟩ := result_bind_eq_ok.mp h
      obtain ⟨-, -, h⟩ := result_bind_eq_ok.mp h
      cases h
      exact .of_held rfl rfl
    · split at h
      · cases h
        exact .of_held rfl rfl
      · cases h
        exact .of_held rfl rfl

theorem startTrx_moves {build : Build} {threadId : Nat} {ignored : Bool} {reply : BeginReply}
    {ctx : SessCtx η} {done : Done η}
    (h : ctcStartTrxAndAssignScn build threadId ignored reply ctx = .ok done) :
    Moves ctx [] done := by
  unfold ctcStartTrxAndAssignScn at h
  simp only [result_pure] at h
  split at h
  · cases h
    exact .of_held rfl rfl
  · obtain ⟨-, -, h⟩ := result_bind_eq_ok.mp h
    split at h
    · cases h
      exact .of_held (held_getTch threadId ctx) rfl
    · cases h
      exact .of_held (held_getTch threadId ctx) rfl

theorem commit_moves {build : Build} {thd : EndThd} {passthru commitTrx : Bool}
    {reply : CommitReply} {ctx : SessCtx η} {done : Done η}
    (h : ctcCommit build thd passthru commitTrx reply ctx = .ok done) : Moves ctx [] done := by
  have hsize := length_held (getTchInHandlerData thd.threadId ctx)
  have hperm := perm_held (getTchInHandlerData thd.threadId ctx)
  rw [held_getTch] at hsize hperm
  unfold ctcCommit at h
  simp only [result_pure, collectCursors_eq, result_bind_ok] at h
  split at h
  · cases h
    exact .of_held rfl rfl
  · split at h
    · split at h
      · cases h
        exact .of_all (held_emptied _) rfl hperm hsize.symm
      · obtain ⟨-, -, h⟩ := result_bind_eq_ok.mp h
        cases h
        exact .of_all (held_emptied _) rfl hperm hsize.symm
    · -- the statistics carry no cursors
      have hstat : arrays (reply.statRet.toList.map
          (Request.statisticCommit (getTchInHandlerData thd.threadId ctx).session)) = [] := by
        cases reply.statRet <;> rfl
      split at h
      · cases h
        exact .of_held (held_getTch thd.threadId ctx) hstat
      · obtain ⟨freed, hfree, h⟩ := result_bind_eq_ok.mp h
        cases h
        obtain ⟨hfreed, hsized⟩ := free_moves hfree
        rw [held_getTch] at hfreed
        rw [← List.nil_append (arrays freed.sent), ← hstat, ← arrays_append] at hfreed hsized
        exact ⟨hfreed, hsized⟩

theorem rollback_moves {build : Build} {thd : EndThd} {rollbackTrx : Bool} {ret : Int}
    {ctx : SessCtx η} {done : Done η} (h : ctcRollback build thd rollbackTrx ret ctx = .ok done) :
    Moves ctx [] done := by
  have hsize := length_held (getTchInHandlerData thd.threadId ctx)
  have hperm := perm_held (getTchInHandlerData thd.threadId ctx)
  rw [held_getTch] at hsize hperm
  unfold ctcRollback at h
  simp only [result_pure, collectCursors_eq, result_bind_ok] at h
  split at h
  · split at h
    · cases h
      exact .of_all (held_emptied _) rfl hperm hsize.symm
    · cases h
      exact .of_all (held_emptied _) rfl hperm hsize.symm
  · split at h
    · cases h
      exact .of_all (held_emptied _) rfl hperm hsize.symm
    · obtain ⟨freed, hfree, h⟩ := result_bind_eq_ok.mp h
      cases h
      obtain ⟨hfreed, hsized⟩ := free_moves hfree
      rw [held_getTch] at hfreed
      exact ⟨hfreed, hsized⟩

theorem rollbackSavepoint_moves {build : Build} {threadId : Nat} {ret : Int} {ctx : SessCtx η}
    {done : Done η} (h : ctcRollbackSavepoint build threadId ret ctx = .ok done) :
    Moves ctx [] done := by
  have hsize := length_held (getTchInHandlerData threadId ctx)
  have hperm := perm_held (getTchInHandlerData threadId ctx)
  rw [held_getTch] at hsize hperm
  unfold ctcRollbackSavepoint at h
  simp only [result_pure, collectCursors_eq, result_bind_ok] at h
  cases h
  exact .of_all (held_emptied _) rfl hperm hsize.symm

/-! ## Registering a cursor -/

section

variable [DecidableEq η]

/-- The address that a call hands to the session for the first time since it was freed. -/
def newCursor (ctx : SessCtx η) : Call η → List UInt64
  | .registerCursor tch cursorAddr =>
    if cursorAddr = invalidValue64 ∨ ctx.cursorsMap.lookup tch = some cursorAddr then []
    else [cursorAddr]
  | _ => []

theorem entries_perm_of_lookup {map : AList fun _ : η => UInt64} {tch : η} {current : UInt64}
    (h : map.lookup tch = some current) :
    map.entries ~ ⟨tch, current⟩ :: List.kerase tch map.entries := by
  have hmem : tch ∈ map.entries.keys := by
    rw [← AList.keys, ← AList.mem_keys, ← AList.lookup_isSome, h]
    rfl
  obtain ⟨addr, before, after, -, hentries, herase⟩ := List.exists_of_kerase hmem
  have haddr : map.lookup tch = some addr := by
    apply AList.mem_lookup_iff.mpr
    rw [hentries]
    exact List.mem_append_right _ List.mem_cons_self
  obtain rfl : addr = current := Option.some.inj (haddr.symm.trans h)
  rw [herase, hentries]
  exact List.perm_middle

/-- The map and the invalid cursors after a registration: the old address of the handler, if
there is one, has become invalid. -/
theorem perm_register {ctx : SessCtx η} {tch : η} {cursorAddr : UInt64} :
    (ctx.cursorsMap.insert tch cursorAddr).entries.map Sigma.snd ++
        (invalidateCursor tch ctx).getD [] ~ cursorAddr :: ctx.held := by
  rw [AList.entries_insert, List.map_cons, List.cons_append]
  apply List.Perm.cons
  unfold SessCtx.held SessCtx.mapped SessCtx.invalid invalidateCursor
  cases hlookup : ctx.cursorsMap.lookup tch with
  | none =>
    have habsent := AList.lookup_eq_none.mp hlookup
    rw [List.kerase_of_notMem_keys habsent]
  | some current =>
    have hmap := (entries_perm_of_lookup hlookup).map Sigma.snd
    dsimp only [Option.getD_some]
    rw [List.map_cons] at hmap
    refine List.Perm.trans ?_ (hmap.symm.append_right _)
    rw [← List.append_assoc, List.cons_append]
    exact List.perm_append_singleton _ _

theorem register_moves {build : Build} {tch : η} {cursorAddr : UInt64} {ctx : SessCtx η}
    {done : Done η} (h : updateSessCtxCursorByTch build tch cursorAddr ctx = .ok done) :
    Moves ctx (newCursor ctx (.registerCursor tch cursorAddr)) done := by
  have hperm := @perm_register η _ ctx tch cursorAddr
  unfold updateSessCtxCursorByTch at h
  simp only [result_pure] at h
  rw [newCursor]
  split at h
  · rename_i hinvalid
    cases h
    rw [if_pos (.inl hinvalid)]
    exact .of_held rfl rfl
  · rename_i hvalid
    split at h
    · rename_i hsame
      cases h
      rw [if_pos (.inr hsame)]
      exact .of_held rfl rfl
    · rename_i hother
      rw [if_neg (not_or.mpr ⟨hvalid, hother⟩)]
      generalize invalidateCursor tch ctx = invalidCursors at h hperm
      -- without a request everything is held
      have hkept : ∀ rc, Moves ctx [cursorAddr] ⟨{ ctx with
          cursorsMap := ctx.cursorsMap.insert tch cursorAddr
          invalidCursors := invalidCursors }, [], rc⟩ := by
        intro rc
        refine ⟨?_, ?_⟩
        · rw [arrays, List.filterMap_nil, List.flatMap_nil, List.append_nil]
          exact hperm
        · intro array harray
          cases harray
      cases invalidCursors with
      | none =>
        cases h
        exact hkept _
      | some invalid =>
        dsimp only at h
        split at h
        · cases h
          exact hkept _
        · obtain ⟨-, -, h⟩ := result_bind_eq_ok.mp h
          cases h
          refine ⟨?_, ?_⟩
          · -- the invalid cursors go from the context into the request
            have hsent : (arrays [Request.freeSessionCursors ⟨invalid.length, invalid⟩]).flatMap
                CursorArray.cursors = invalid := List.append_nil invalid
            refine List.Perm.trans (List.Perm.of_eq ?_) hperm
            dsimp only [ctcCopyCursorsToFree]
            simp only [Nat.one_ne_zero, if_false, Option.getD_some, hsent]
            unfold SessCtx.held SessCtx.mapped SessCtx.invalid
            simp
          · intro array harray
            obtain rfl := List.mem_singleton.mp harray
            rfl

/-- **One call moves cursors.** It sends what it no longer holds, in arrays of the stated size. -/
theorem sessCall_moves {build : Build} {ctx : SessCtx η} {call : Call η} {done : Done η}
    (h : sessCall build ctx call = .ok done) : Moves ctx (newCursor ctx call) done := by
  cases call with
  | startStmt thd statRet reply => exact startStmt_moves h
  | startTrxAndAssignScn threadId ignored reply => exact startTrx_moves h
  | commit thd passthru commitTrx reply => exact commit_moves h
  | rollback thd rollbackTrx ret => exact rollback_moves h
  | rollbackSavepoint threadId ret => exact rollbackSavepoint_moves h
  | registerCursor tch cursorAddr => exact register_moves h

/-! ## Runs -/

/-- What the engine sees of the cursors: it hands one out, or gets an array to be freed. -/
inductive CursorEvent where
  | handedOut (addr : UInt64)
  | sent (array : CursorArray)

/-- How often the address was sent since it was handed out; the history starts with the latest
event. -/
def sentSince (addr : UInt64) : List CursorEvent → Nat
  | [] => 0
  | .handedOut other :: history => if other = addr then 0 else sentSince addr history
  | .sent array :: history => array.cursors.count addr + sentSince addr history

/-- The address was handed out and has not been sent to be freed since. -/
def Outstanding (addr : UInt64) (history : List CursorEvent) : Prop :=
  .handedOut addr ∈ history ∧ sentSince addr history = 0

/-- A session with its history. -/
structure Tracked (η : Type) where
  ctx : SessCtx η
  history : List CursorEvent

/-- A handler registers the address it has registered already, or one that is not outstanding. -/
def Admissible (st : Tracked η) : Call η → Prop
  | .registerCursor tch cursorAddr =>
    st.ctx.cursorsMap.lookup tch = some cursorAddr ∨ ¬ Outstanding cursorAddr st.history
  | _ => True

/-- A call that returns. A failed assertion stops the server, and the run ends before it. -/
def CursorStep (build : Build) (st st' : Tracked η) : Prop :=
  ∃ call done, Admissible st call ∧ sessCall build st.ctx call = .ok done ∧
    st' = ⟨done.ctx, (arrays done.sent).map .sent ++
      ((newCursor st.ctx call).map .handedOut ++ st.history)⟩

/-- Every address that was handed out is in one place, and the arrays have their stated size. -/
structure Conserved (st : Tracked η) : Prop where
  once : ∀ addr, .handedOut addr ∈ st.history →
    st.ctx.held.count addr + sentSince addr st.history = 1
  unknown : ∀ addr, .handedOut addr ∉ st.history → st.ctx.held.count addr = 0
  sized : ∀ array, .sent array ∈ st.history → array.csize = array.cursors.length

theorem sentSince_append (addr : UInt64) (sent : List CursorArray) (history : List CursorEvent) :
    sentSince addr (sent.map .sent ++ history) =
      (sent.flatMap CursorArray.cursors).count addr + sentSince addr history := by
  induction sent with
  | nil => rw [List.map_nil, List.nil_append, List.flatMap_nil, List.count_nil, Nat.zero_add]
  | cons array sent ih =>
    rw [List.map_cons, List.cons_append, sentSince, ih, List.flatMap_cons, List.count_append,
      Nat.add_assoc]

theorem handedOut_mem_append {addr : UInt64} {sent : List CursorArray} {new : List UInt64}
    {history : List CursorEvent} :
    .handedOut addr ∈ sent.map CursorEvent.sent ++ (new.map .handedOut ++ history) ↔
      addr ∈ new ∨ .handedOut addr ∈ history := by
  simp

theorem sent_mem_append {array : CursorArray} {sent : List CursorArray} {new : List UInt64}
    {history : List CursorEvent} :
    .sent array ∈ sent.map CursorEvent.sent ++ (new.map .handedOut ++ history) ↔
      array ∈ sent ∨ .sent array ∈ history := by
  simp

omit [DecidableEq η] in
/-- An address that is not outstanding is not held. -/
theorem Conserved.not_held {st : Tracked η} (hc : Conserved st) {addr : UInt64}
    (hfree : ¬ Outstanding addr st.history) : st.ctx.held.count addr = 0 := by
  by_cases hknown : .handedOut addr ∈ st.history
  · have honce := hc.once addr hknown
    have hsent : sentSince addr st.history ≠ 0 := fun hzero => hfree ⟨hknown, hzero⟩
    omega
  · exact hc.unknown addr hknown

theorem newCursor_not_held {st : Tracked η} (hc : Conserved st) {call : Call η}
    (hadm : Admissible st call) {addr : UInt64} (hnew : addr ∈ newCursor st.ctx call) :
    newCursor st.ctx call = [addr] ∧ st.ctx.held.count addr = 0 := by
  cases call with
  | registerCursor tch cursorAddr =>
    rw [newCursor] at hnew ⊢
    split at hnew
    · cases hnew
    · rename_i hfresh
      obtain rfl := List.mem_singleton.mp hnew
      rw [if_neg hfresh]
      refine ⟨rfl, hc.not_held ?_⟩
      exact hadm.resolve_left fun hsame => hfresh (.inr hsame)
  | startStmt thd statRet reply => cases hnew
  | startTrxAndAssignScn threadId ignored reply => cases hnew
  | commit thd passthru commitTrx reply => cases hnew
  | rollback thd rollbackTrx ret => cases hnew
  | rollbackSavepoint threadId ret => cases hnew

/-- What one call keeps. -/
theorem conserved_step {build : Build} (st st' : Tracked η) (hc : Conserved st)
    (hStep : CursorStep build st st') : Conserved st' := by
  obtain ⟨call, done, hadm, hcall, rfl⟩ := hStep
  obtain ⟨hperm, hsized⟩ := sessCall_moves hcall
  have hcount : ∀ addr, done.ctx.held.count addr +
      ((arrays done.sent).flatMap CursorArray.cursors).count addr =
        (newCursor st.ctx call).count addr + st.ctx.held.count addr := by
    intro addr
    rw [← List.count_append, hperm.count_eq, List.count_append]
  refine ⟨?_, ?_, ?_⟩
  · intro addr hknown
    have hbalance := hcount addr
    rw [sentSince_append, ← Nat.add_assoc, hbalance]
    by_cases hnew : addr ∈ newCursor st.ctx call
    · -- a fresh address was held nowhere, and the history restarts for it
      obtain ⟨heq, hzero⟩ := newCursor_not_held hc hadm hnew
      rw [heq, hzero, List.map_singleton, List.singleton_append, sentSince, if_pos rfl,
        List.count_singleton_self]
    · have hold := (handedOut_mem_append.mp hknown).resolve_left hnew
      have honce := hc.once addr hold
      have hkept : sentSince addr ((newCursor st.ctx call).map .handedOut ++ st.history) =
          sentSince addr st.history := by
        cases hlist : newCursor st.ctx call with
        | nil => rfl
        | cons other rest =>
          obtain ⟨heq, -⟩ := newCursor_not_held hc hadm (hlist ▸ List.mem_cons_self)
          rw [hlist] at heq hnew
          rw [heq] at hnew ⊢
          rw [List.map_singleton, List.singleton_append, sentSince, if_neg]
          intro hsame
          exact hnew (List.mem_singleton.mpr hsame.symm)
      rw [List.count_eq_zero_of_not_mem hnew, Nat.zero_add, hkept]
      exact honce
  · intro addr hunknown
    have hbalance := hcount addr
    rw [handedOut_mem_append, not_or] at hunknown
    have hzero := hc.unknown addr hunknown.2
    rw [List.count_eq_zero_of_not_mem hunknown.1, hzero] at hbalance
    exact Nat.eq_zero_of_add_eq_zero_right hbalance
  · intro array harray
    rcases sent_mem_append.mp harray with hsent | hold
    · exact hsized array hsent
    · exact hc.sized array hold

/-- **Cursor conservation.** In every run of calls, each address that was handed out and registered
is once among the values of the map, once among the invalid cursors, or has been sent to be freed
once since it was handed out. Every array that was sent has as many addresses as it states. -/
theorem cursors_conserved {build : Build} {st : Tracked η}
    (hRun : Relation.ReflTransGen (CursorStep build) ⟨SessCtx.init η, []⟩ st) :
    (∀ addr, .handedOut addr ∈ st.history →
      st.ctx.mapped.count addr + st.ctx.invalid.count addr + sentSince addr st.history = 1) ∧
    ∀ array, .sent array ∈ st.history → array.csize = array.cursors.length := by
  have hInit : Conserved (⟨SessCtx.init η, []⟩ : Tracked η) := by
    refine ⟨?_, ?_, ?_⟩
    · intro addr hknown
      cases hknown
    · intro addr _
      rfl
    · intro array harray
      cases harray
  have hc := Machine.invariant_of_reaches conserved_step hInit hRun
  refine ⟨?_, hc.sized⟩
  intro addr hknown
  rw [← List.count_append]
  exact hc.once addr hknown

end

/-- The session after a handler has registered the cursors 5 and 6 and the transaction was
committed. -/
def committedSession : Tracked Nat where
  ctx :=
    { SessCtx.init Nat with
      thdId := 9
      cursorsMap := ∅
      invalidCursors := some [] }
  history := [.sent ⟨2, [5, 6]⟩, .handedOut 6, .handedOut 5]

theorem cursors_conserved_after_commit :
    Relation.ReflTransGen (CursorStep .debug) ⟨SessCtx.init Nat, []⟩ committedSession ∧
      sentSince 5 committedSession.history = 1 ∧ sentSince 6 committedSession.history = 1 := by
  have hRun : Relation.ReflTransGen (CursorStep .debug) ⟨SessCtx.init Nat, []⟩
      committedSession := by
    refine .tail (.tail (.tail .refl ⟨.registerCursor 0 5, _, .inr ?_, rfl, rfl⟩)
      ⟨.registerCursor 0 6, _, .inr ?_, rfl, rfl⟩)
      ⟨.commit ⟨9, false, 128⟩ false true ⟨ctSuccess, none, none⟩, _, trivial, rfl, rfl⟩
    · rintro ⟨hknown, -⟩
      cases hknown
    · rintro ⟨hknown, -⟩
      cases hknown
      contradiction
  obtain ⟨honce, -⟩ := cursors_conserved hRun
  refine ⟨hRun, ?_, ?_⟩
  · have hfive := honce 5 (by simp [committedSession])
    exact hfive
  · have hsix := honce 6 (by simp [committedSession])
    exact hsix

end CantianConnector.Session
