import CantianConnector.Dd.Broadcast
import Mathlib.Data.List.Zip
import Mathlib.Logic.Function.Basic

/-!
# Handling an invalidation request

`ctc_invalidate_mysql_dd_cache_impl` handles the objects of a request in order. Tables and
tablespaces are invalidated at once; routines and schemas are collected for the thread of the
request and invalidated by `release_routine_and_schema` when the batch ends. The result of every
invalidation is assigned to one variable, which is what the request returns.

The server that invalidates is a parameter. `logging` writes down what it is asked and what it
answers.
-/

namespace CantianConnector.Dd

/-! ## The functions -/

/-- What the handler asks the server to drop from its caches; names are C strings as they are
read. -/
inductive Invalidation where
  /-- `reload_acl_caches`. -/
  | acl
  /-- `invalidate_table`. -/
  | table (schemaName tableName : Option (List UInt8))
  /-- `invalidate_tablespace`. -/
  | tablespace (tablespaceName : Option (List UInt8))
  /-- `invalidate_routine`. -/
  | routine (schemaName routineName : Option (List UInt8)) (type : UInt8)
  /-- `invalidate_schema`. -/
  | schema (schemaName : Option (List UInt8))
deriving DecidableEq, Repr

/-- The server: an invalidation answers true if it fails. -/
structure DdServer (σ : Type) where
  invalidate : Invalidation → σ → Bool × σ
  resetMqh : σ → σ
  /-- `Shared_dictionary_cache::reset`. -/
  reset : σ → σ

/-- The server's state and the objects collected for each thread
(`g_ctc_invalidate_routine_maps`, `g_ctc_invalidate_schema_maps`). -/
structure DdState (σ : Type) where
  server : σ
  routines : Nat → List ReceivedObj
  schemas : Nat → List ReceivedObj

section

variable {σ : Type} (srv : DdServer σ)

/-- `error = invalidate(...)`: the variable and the state behind the call. -/
def invalidateInto (st : Bool × DdState σ) (inv : Invalidation) : Bool × DdState σ :=
  ((srv.invalidate inv st.2.server).1,
    { st.2 with server := (srv.invalidate inv st.2.server).2 })

/-- `ctc_insert_routine`. -/
def ctcInsertRoutine (thd : Nat) (obj : ReceivedObj) (st : DdState σ) : DdState σ :=
  { st with routines := Function.update st.routines thd (st.routines thd ++ [obj]) }

/-- `ctc_insert_schema`. -/
def ctcInsertSchema (thd : Nat) (obj : ReceivedObj) (st : DdState σ) : DdState σ :=
  { st with schemas := Function.update st.schemas thd (st.schemas thd ++ [obj]) }

/-- The body of the loop over the entries of a message. -/
def handleObj (thd : Nat) (st : Bool × DdState σ) (obj : ReceivedObj) : Bool × DdState σ :=
  if obj.type = InvalidateObjectType.objAbstractTable.code then
    invalidateInto srv st (.table obj.first obj.second)
  else if obj.type = InvalidateObjectType.objRtProcedure.code ∨
      obj.type = InvalidateObjectType.objRtFunction.code then
    (st.1, ctcInsertRoutine thd obj st.2)
  else if obj.type = InvalidateObjectType.objSchema.code then
    (st.1, ctcInsertSchema thd obj st.2)
  else if obj.type = InvalidateObjectType.objTablespace.code then
    invalidateInto srv st (.tablespace obj.first)
  else st

/-- How a collected routine is invalidated. -/
def ofRoutine (obj : ReceivedObj) : Invalidation := .routine obj.first obj.second obj.type

/-- How a collected schema is invalidated. -/
def ofSchema (obj : ReceivedObj) : Invalidation := .schema obj.first

/-- `release_routine_and_schema`. -/
def releaseRoutineAndSchema (thd : Nat) (st : Bool × DdState σ) : Bool × DdState σ :=
  let st₁ := ((st.2.routines thd).map ofRoutine).foldl (invalidateInto srv) st
  let st₂ := (st₁.1, { st₁.2 with routines := Function.update st₁.2.routines thd [] })
  let st₃ := ((st₂.2.schemas thd).map ofSchema).foldl (invalidateInto srv) st₂
  (st₃.1, { st₃.2 with schemas := Function.update st₃.2.schemas thd [] })

/-- A boolean that is returned as an integer. -/
def boolCode (error : Bool) : Int := if error then 1 else 0

/-- `ctc_invalidate_mysql_dd_cache_impl` for the thread `thd` of the request's connection. -/
def ctcInvalidateMysqlDdCacheImpl (isWorkFlow : Bool) (ctcInstanceId thd : Nat)
    (req : InvalidateBroadcastRequest) (st : DdState σ) : Int × DdState σ :=
  if isWorkFlow = false then (0, st)
  else if req.mysqlInstId = ctcInstanceId then (0, st)
  else if req.buffLen = 0 ∧ req.isDcl = false then
    (0, { st with server := srv.reset st.server })
  else if req.isDcl = true then
    let out := invalidateInto srv (false, st) .acl
    (boolCode out.1,
      if req.isFlush then { out.2 with server := srv.resetMqh out.2.server } else out.2)
  else
    let out := req.entries.foldl (handleObj srv thd) (false, st)
    let out := if req.isEnd then releaseRoutineAndSchema srv thd out else out
    (boolCode out.1, out.2)

/-- A server that writes down what it is asked and what it answers. -/
def logging : DdServer (σ × List (Invalidation × Bool)) where
  invalidate inv st :=
    ((srv.invalidate inv st.1).1, (srv.invalidate inv st.1).2,
      st.2 ++ [(inv, (srv.invalidate inv st.1).1)])
  resetMqh st := (srv.resetMqh st.1, st.2)
  reset st := (srv.reset st.1, st.2)

end

/-! ## What is invalidated, and in which order -/

/-- The invalidation of an object that is not collected. -/
def immediate (obj : ReceivedObj) : Option Invalidation :=
  if obj.type = InvalidateObjectType.objAbstractTable.code then some (.table obj.first obj.second)
  else if obj.type = InvalidateObjectType.objTablespace.code then some (.tablespace obj.first)
  else none

def isRoutine (obj : ReceivedObj) : Bool :=
  obj.type = InvalidateObjectType.objRtProcedure.code ∨
    obj.type = InvalidateObjectType.objRtFunction.code

def isSchema (obj : ReceivedObj) : Bool := obj.type = InvalidateObjectType.objSchema.code

/-- The invalidations of a request, with the objects collected by earlier ones. -/
def invalidations (isWorkFlow : Bool) (ctcInstanceId : Nat) (req : InvalidateBroadcastRequest)
    (routines schemas : List ReceivedObj) : List Invalidation :=
  if isWorkFlow = false ∨ req.mysqlInstId = ctcInstanceId then []
  else if req.isDcl then [.acl]
  else if req.buffLen = 0 then []
  else req.entries.filterMap immediate ++
    if req.isEnd then
      (routines ++ req.entries.filter isRoutine).map ofRoutine ++
        (schemas ++ req.entries.filter isSchema).map ofSchema
    else []

/-- What the server answers to invalidations one after the other. -/
def answers {σ : Type} (srv : DdServer σ) : List Invalidation → σ → List Bool
  | [], _ => []
  | inv :: rest, server =>
    (srv.invalidate inv server).1 :: answers srv rest (srv.invalidate inv server).2

section

variable {σ : Type} (srv : DdServer σ)

/-- The collections stand still while the server invalidates. -/
theorem foldl_invalidateInto_frame (invs : List Invalidation) (st : Bool × DdState σ) :
    (invs.foldl (invalidateInto srv) st).2.routines = st.2.routines ∧
      (invs.foldl (invalidateInto srv) st).2.schemas = st.2.schemas := by
  induction invs generalizing st with
  | nil => exact ⟨rfl, rfl⟩
  | cons inv invs ih => exact ih _

/-- The invalidations do not depend on the collections. -/
theorem foldl_invalidateInto_congr (invs : List Invalidation) {st st' : Bool × DdState σ}
    (herror : st.1 = st'.1) (hserver : st.2.server = st'.2.server) :
    (invs.foldl (invalidateInto srv) st).1 = (invs.foldl (invalidateInto srv) st').1 ∧
      (invs.foldl (invalidateInto srv) st).2.server =
        (invs.foldl (invalidateInto srv) st').2.server := by
  induction invs generalizing st st' with
  | nil => exact ⟨herror, hserver⟩
  | cons inv invs ih =>
    rw [List.foldl_cons, List.foldl_cons]
    apply ih
    · rw [invalidateInto, invalidateInto, hserver]
    · dsimp only [invalidateInto]
      rw [hserver]

/-- The handler has taken the objects `objs` from the state `st` to `out`: what is immediate is
invalidated, and the routines and schemas are collected. -/
structure Handled (srv : DdServer σ) (thd : Nat) (objs : List ReceivedObj)
    (st out : Bool × DdState σ) : Prop where
  error : out.1 = ((objs.filterMap immediate).foldl (invalidateInto srv) st).1
  server : out.2.server = ((objs.filterMap immediate).foldl (invalidateInto srv) st).2.server
  routines : out.2.routines thd = st.2.routines thd ++ objs.filter isRoutine
  schemas : out.2.schemas thd = st.2.schemas thd ++ objs.filter isSchema

/-- One object. -/
theorem handled_handleObj (thd : Nat) (st : Bool × DdState σ) (obj : ReceivedObj) :
    Handled srv thd [obj] st (handleObj srv thd st obj) := by
  obtain ⟨type, first, second⟩ := obj
  unfold handleObj
  by_cases htable : type = InvalidateObjectType.objAbstractTable.code
  · subst htable
    exact ⟨rfl, rfl, (List.append_nil _).symm, (List.append_nil _).symm⟩
  by_cases hroutine : type = InvalidateObjectType.objRtProcedure.code ∨
      type = InvalidateObjectType.objRtFunction.code
  · rw [if_neg htable, if_pos hroutine]
    rcases hroutine with rfl | rfl <;>
      exact ⟨rfl, rfl, Function.update_self .., (List.append_nil _).symm⟩
  by_cases hschema : type = InvalidateObjectType.objSchema.code
  · subst hschema
    exact ⟨rfl, rfl, (List.append_nil _).symm, Function.update_self ..⟩
  have hnotRoutine : isRoutine ⟨type, first, second⟩ = false := decide_eq_false hroutine
  have hnotSchema : isSchema ⟨type, first, second⟩ = false := decide_eq_false hschema
  rw [if_neg htable, if_neg hroutine, if_neg hschema]
  by_cases htablespace : type = InvalidateObjectType.objTablespace.code
  · subst htablespace
    exact ⟨rfl, rfl, (List.append_nil _).symm, (List.append_nil _).symm⟩
  · have hnone : immediate ⟨type, first, second⟩ = none := by
      rw [immediate, if_neg htable, if_neg htablespace]
    rw [if_neg htablespace]
    refine ⟨?_, ?_, ?_, ?_⟩
    · rw [List.filterMap_cons_none hnone]
      rfl
    · rw [List.filterMap_cons_none hnone]
      rfl
    · rw [List.filter_cons_of_neg (by simp [hnotRoutine]), List.filter_nil, List.append_nil]
    · rw [List.filter_cons_of_neg (by simp [hnotSchema]), List.filter_nil, List.append_nil]

theorem Handled.append {thd : Nat} {objs objs' : List ReceivedObj} {st mid out : Bool × DdState σ}
    (h : Handled srv thd objs st mid) (h' : Handled srv thd objs' mid out) :
    Handled srv thd (objs ++ objs') st out := by
  obtain ⟨herror, hserver⟩ := foldl_invalidateInto_congr srv (objs'.filterMap immediate)
    h.error h.server
  refine ⟨?_, ?_, ?_, ?_⟩
  · rw [h'.error, herror, List.filterMap_append, List.foldl_append]
  · rw [h'.server, hserver, List.filterMap_append, List.foldl_append]
  · rw [h'.routines, h.routines, List.append_assoc, List.filter_append]
  · rw [h'.schemas, h.schemas, List.append_assoc, List.filter_append]

/-- The loop over a message. -/
theorem handled_foldl (thd : Nat) (objs : List ReceivedObj) (st : Bool × DdState σ) :
    Handled srv thd objs st (objs.foldl (handleObj srv thd) st) := by
  induction objs generalizing st with
  | nil => exact ⟨rfl, rfl, (List.append_nil _).symm, (List.append_nil _).symm⟩
  | cons obj objs ih =>
    rw [List.foldl_cons]
    exact (handled_handleObj srv thd st obj).append srv (ih _)

/-- Routines and schemas are invalidated one after the other. -/
theorem releaseRoutineAndSchema_eq (thd : Nat) (st : Bool × DdState σ) :
    let out := releaseRoutineAndSchema srv thd st
    let ref := ((st.2.routines thd).map ofRoutine ++ (st.2.schemas thd).map ofSchema).foldl
      (invalidateInto srv) st
    out.1 = ref.1 ∧ out.2.server = ref.2.server := by
  dsimp only [releaseRoutineAndSchema]
  rw [(foldl_invalidateInto_frame srv _ st).2, List.foldl_append]
  exact foldl_invalidateInto_congr srv _ rfl rfl

/-- A message with objects, and the end of the batch if it is the last. -/
theorem handle_message_eq (thd : Nat) (req : InvalidateBroadcastRequest) (st : Bool × DdState σ) :
    let loop := req.entries.foldl (handleObj srv thd) st
    let out := if req.isEnd then releaseRoutineAndSchema srv thd loop else loop
    let ref := (req.entries.filterMap immediate ++
      if req.isEnd then
        (st.2.routines thd ++ req.entries.filter isRoutine).map ofRoutine ++
          (st.2.schemas thd ++ req.entries.filter isSchema).map ofSchema
      else []).foldl (invalidateInto srv) st
    out.1 = ref.1 ∧ out.2.server = ref.2.server := by
  have hloop := handled_foldl srv thd req.entries st
  dsimp only
  cases req.isEnd with
  | true =>
    obtain ⟨herror, hserver⟩ := releaseRoutineAndSchema_eq srv thd
      (req.entries.foldl (handleObj srv thd) st)
    obtain ⟨herror', hserver'⟩ := foldl_invalidateInto_congr srv
      ((st.2.routines thd ++ req.entries.filter isRoutine).map ofRoutine ++
        (st.2.schemas thd ++ req.entries.filter isSchema).map ofSchema) hloop.error hloop.server
    rw [hloop.routines, hloop.schemas] at herror hserver
    rw [if_pos rfl, if_pos rfl, List.foldl_append]
    exact ⟨herror.trans herror', hserver.trans hserver'⟩
  | false =>
    rw [if_neg Bool.false_ne_true, if_neg Bool.false_ne_true, List.append_nil]
    exact ⟨hloop.error, hloop.server⟩

theorem boolCode_ne_zero_iff (error : Bool) : boolCode error ≠ 0 ↔ error = true := by
  cases error <;> simp [boolCode]

/-- A request consists of its invalidations, of which the last decides the result. -/
theorem ctcInvalidateMysqlDdCacheImpl_eq (isWorkFlow : Bool) (ctcInstanceId thd : Nat)
    (req : InvalidateBroadcastRequest) (st : DdState (σ × List (Invalidation × Bool))) :
    let out := ctcInvalidateMysqlDdCacheImpl (logging srv) isWorkFlow ctcInstanceId thd req st
    let ref := (invalidations isWorkFlow ctcInstanceId req (st.routines thd)
      (st.schemas thd)).foldl (invalidateInto (logging srv)) (false, st)
    (out.1 ≠ 0 ↔ ref.1 = true) ∧ out.2.server.2 = ref.2.server.2 := by
  dsimp only [ctcInvalidateMysqlDdCacheImpl, invalidations]
  by_cases hflow : isWorkFlow = false
  · rw [if_pos hflow, if_pos (Or.inl hflow)]
    exact ⟨by simp, rfl⟩
  by_cases hnode : req.mysqlInstId = ctcInstanceId
  · rw [if_neg hflow, if_pos hnode, if_pos (Or.inr hnode)]
    exact ⟨by simp, rfl⟩
  rw [if_neg hflow, if_neg hnode, if_neg (not_or.mpr ⟨hflow, hnode⟩)]
  cases hdcl : req.isDcl with
  | true =>
    rw [if_neg (by simp), if_pos rfl, if_pos rfl]
    refine ⟨boolCode_ne_zero_iff _, ?_⟩
    dsimp only
    split <;> rfl
  | false =>
    by_cases hreset : req.buffLen = 0
    · rw [if_pos ⟨hreset, rfl⟩, if_neg (by simp), if_pos hreset]
      exact ⟨by simp, rfl⟩
    rw [if_neg fun h => hreset h.1, if_neg Bool.false_ne_true, if_neg Bool.false_ne_true,
      if_neg hreset]
    obtain ⟨herror, hserver⟩ := handle_message_eq (logging srv) thd req (false, st)
    dsimp only at herror hserver ⊢
    rw [boolCode_ne_zero_iff, herror, hserver]
    exact ⟨Iff.rfl, rfl⟩

/-- What the log and the variable are after some invalidations. -/
theorem foldl_invalidateInto_logging (invs : List Invalidation)
    (st : Bool × DdState (σ × List (Invalidation × Bool))) :
    let out := invs.foldl (invalidateInto (logging srv)) st
    out.1 = (answers srv invs st.2.server.1).getLast?.getD st.1 ∧
      out.2.server.2 = st.2.server.2 ++ invs.zip (answers srv invs st.2.server.1) := by
  induction invs generalizing st with
  | nil => exact ⟨rfl, (List.append_nil _).symm⟩
  | cons inv invs ih =>
    obtain ⟨herror, hlog⟩ := ih (invalidateInto (logging srv) st inv)
    dsimp only at herror hlog ⊢
    rw [List.foldl_cons, herror, hlog, answers, List.getLast?_cons, List.zip_cons_cons]
    exact ⟨rfl, List.append_assoc ..⟩

theorem length_answers (invs : List Invalidation) (server : σ) :
    (answers srv invs server).length = invs.length := by
  induction invs generalizing server with
  | nil => rfl
  | cons inv invs ih => rw [answers, List.length_cons, List.length_cons, ih]

/-- **When a failed invalidation is reported.** The request is reported as failed exactly when some
invalidation failed, if and only if none of them fails or the last one does. -/
theorem ctcInvalidateMysqlDdCacheImpl_reports_iff (isWorkFlow : Bool) (ctcInstanceId thd : Nat)
    (req : InvalidateBroadcastRequest) (server : σ) (routines schemas : Nat → List ReceivedObj) :
    let out := ctcInvalidateMysqlDdCacheImpl (logging srv) isWorkFlow ctcInstanceId thd req
      ⟨(server, []), routines, schemas⟩
    let failed := answers srv
      (invalidations isWorkFlow ctcInstanceId req (routines thd) (schemas thd)) server
    (out.1 ≠ 0 ↔ ∃ inv, (inv, true) ∈ out.2.server.2) ↔
      true ∉ failed ∨ failed.getLast? = some true := by
  dsimp only
  obtain ⟨hresult, hlog⟩ := ctcInvalidateMysqlDdCacheImpl_eq srv isWorkFlow ctcInstanceId thd req
    ⟨(server, []), routines, schemas⟩
  obtain ⟨herror, hlog'⟩ := foldl_invalidateInto_logging srv
    (invalidations isWorkFlow ctcInstanceId req (routines thd) (schemas thd))
    (false, ⟨(server, []), routines, schemas⟩)
  dsimp only at hresult hlog herror hlog'
  rw [hresult, hlog, herror, hlog', List.nil_append]
  generalize invalidations isWorkFlow ctcInstanceId req (routines thd) (schemas thd) = invs
  have hlen := length_answers srv invs server
  generalize answers srv invs server = failed at hlen
  have hmem : (∃ inv, (inv, true) ∈ invs.zip failed) ↔ true ∈ failed := by
    have hsnd := List.map_snd_zip (Nat.le_of_eq hlen)
    conv_rhs => rw [← hsnd, List.mem_map]
    constructor
    · rintro ⟨inv, hinv⟩
      exact ⟨_, hinv, rfl⟩
    · rintro ⟨⟨inv, answer⟩, hinv, rfl⟩
      exact ⟨inv, hinv⟩
  have hlast : failed.getLast?.getD false = true ↔ failed.getLast? = some true := by
    cases failed.getLast? <;> simp
  rw [hmem, hlast]
  constructor
  · intro h
    by_cases hfailed : true ∈ failed
    · exact Or.inr (h.mpr hfailed)
    · exact Or.inl hfailed
  · rintro (hnone | hsome)
    · exact iff_of_false (fun h => hnone (List.mem_of_getLast? h)) hnone
    · exact iff_of_true hsome (List.mem_of_getLast? hsome)

end

/-- A server that refuses its first invalidation only; the state tells whether it is the first. -/
def refusesFirst : DdServer Bool where
  invalidate _ isFirst := (isFirst, false)
  resetMqh isFirst := isFirst
  reset isFirst := isFirst

/-- The last message of a batch, with the tables `d.a` and `d.b`. -/
def twoTables : InvalidateBroadcastRequest where
  buff a :=
    if a = 0 then endFlag
    else if a = slot 0 + 1 ∨ a = slot 1 + 1 then 100
    else if a = slot 0 + 129 then 97
    else if a = slot 1 + 129 then 98
    else 0
  buffLen := slot 2
  mysqlInstId := 2
  isDcl := false
  isFlush := false

theorem entries_twoTables :
    twoTables.entries = [⟨0, some [100], some [97]⟩, ⟨0, some [100], some [98]⟩] := by
  have hlen : twoTables.buffLen = slot 2 := rfl
  rw [entries_of_buffLen hlen]
  decide +kernel

/-- The second table is invalidated, so nothing is heard of the first. -/
theorem ctcInvalidateMysqlDdCacheImpl_loses_failure :
    let out := ctcInvalidateMysqlDdCacheImpl (logging refusesFirst) true 1 0 twoTables
      ⟨(true, []), fun _ => [], fun _ => []⟩
    ¬ (out.1 ≠ 0 ↔ ∃ inv, (inv, true) ∈ out.2.server.2) := by
  dsimp only [ctcInvalidateMysqlDdCacheImpl]
  rw [entries_twoTables]
  intro h
  exact absurd (h.mpr ⟨_, List.mem_cons_self⟩) (by decide)

end CantianConnector.Dd
