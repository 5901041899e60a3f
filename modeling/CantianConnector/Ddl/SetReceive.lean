import CantianConnector.Ddl.SetBroadcast

/-!
# Receiving the variables of a SET statement

A node that is asked by `ctc_ddl_execute_set_opt` performs one assignment for each entry of the
request, in their order, and stops at the first one that its server refuses. The entry says by its
options of which kind the assignment is; the item for the value is made from the text by the kind
of value that the receiving server shows for the variable. When the function leaves the loop early,
the session that it has made for the assignments is not released.

What is said at the end is about both sides: what a node performs, in terms of the assignments of
the statement on the other node.
-/

namespace CantianConnector.Ddl

open CantianConnector.Convert (Result result_bind_eq_ok)

/-! ## What the receiving server offers -/

/-- `enum_mysql_show_type`, as far as it is told apart. -/
inductive ShowType where
  | int | long | longlong | haRows
  | signedInt | signedLong | signedLonglong
  | bool | myBool
  | char | lexString | charPtr
  | double
  | other
deriving DecidableEq, Repr

/-- The items that are made for values. -/
inductive SetItem where
  | uint (text : SqlText)
  | int (text : SqlText)
  | string (text : SqlText)
  | float (text : SqlText)
  | null
deriving DecidableEq, Repr

/-- The `set_var` that `sql_set_variables` is called with. -/
structure SetCall (ν : Type) where
  type : VarType
  sysvar : ν
  base : Option SqlText
  value : Option SetItem
deriving DecidableEq, Repr

/-- The server of a node. Its variables are of type `ν`; the state is that of the variables and of
the session that performs the assignments. -/
structure SetNode (σ ν : Type) where
  version : MysqlVersion
  ctcInstanceId : UInt32
  /-- What `ctc_init_thd_priv` returns, and whether there is a session. -/
  initThd : Int × Bool
  internFindSysVar : SqlText → Option ν
  showType : ν → ShowType
  varName : ν → SqlText
  /-- `my_error(ER_UNKNOWN_SYSTEM_VARIABLE, MYF(0), name)`. -/
  unknownVariable : SqlText → σ → σ
  sqlSetVariables : SetCall ν → σ → Int × σ
  mysqlErrno : σ → Int
  messageText : σ → SqlText

/-- What is left of a request. -/
structure SetEnd (σ : Type) where
  ret : Int
  errMsg : Option SqlText
  state : σ
  /-- The session has been released. -/
  released : Bool

/-! ## The functions -/

/-- `ER_UNKNOWN_SYSTEM_VARIABLE`. -/
def erUnknownSystemVariable : Int := 1193

/-- `ERROR_MESSAGE_LEN`. -/
def errorMessageLen : Nat := 512

/-- `ctc_get_set_var_item`; nothing where it raises an error instead. -/
def ctcGetSetVarItem (showType : ShowType) (varValue : SqlText) (isNullValue varIsInt : Bool) :
    Option SetItem :=
  match showType with
  | .int | .long | .longlong | .haRows =>
    -- falls through to the signed types
    if varValue.head? ≠ some '-' then some (.uint varValue) else some (.int varValue)
  | .signedInt | .signedLong | .signedLonglong => some (.int varValue)
  | .bool | .myBool =>
    if varValue = "1".toList ∨ varValue = "0".toList then some (.int varValue)
    else some (.string varValue)
  | .char | .lexString => if varIsInt then some (.int varValue) else some (.string varValue)
  | .charPtr => if isNullValue then some .null else some (.string varValue)
  | .double => some (.float varValue)
  | .other => none

/-- `type`, in `ctc_get_sys_var`. In 8.0.26 `ctc_set_var_type` sets it once more, to the same. -/
def ctcSetVarType (options : UInt32) : VarType :=
  if options &&& ctcSetVariablePersistOnly ≠ 0 then .persistOnly
  else if options &&& ctcSetVariablePersist ≠ 0 then .persist
  else .global

section

variable {σ ν : Type} (node : SetNode σ ν)

/-- `ctc_get_sys_var`: the assignment, if the variable is found. -/
def ctcGetSysVar (info : SetOptInfo) (state : σ) : Option (SetCall ν) × σ :=
  match node.internFindSysVar info.varName with
  | none => (none, node.unknownVariable info.varName state)
  | some sysvar =>
    let isDefaultValue : Bool := info.options &&& ctcSetVariableToDefault ≠ 0
    let isNullValue : Bool := info.options &&& ctcSetVariableToNull ≠ 0
    let res := ctcGetSetVarItem (node.showType sysvar) info.varValue isNullValue info.varIsInt
    let state := if res = none then node.unknownVariable (node.varName sysvar) state else state
    let base :=
      match node.version with
      | .v26 => if info.baseName = [] then none else some info.baseName
      -- `make_tracker` is given the name only
      | .v32 => none
    (some ⟨ctcSetVarType info.options, sysvar, base, if isDefaultValue then none else res⟩, state)

/-- The `err_msg` of the request, out of the diagnostics area. -/
def errMsgOf (state : σ) : SqlText := copyField errorMessageLen (node.messageText state)

/-- The loop of `ctc_set_sys_var`, over `opt_num` entries. -/
def setSysVarLoop : Nat → List SetOptInfo → σ → Result (SetEnd σ)
  | 0, _, state => .ok ⟨0, none, state, true⟩
  -- behind the end of the array
  | _ + 1, [], _ => .error .undefined
  | optNum + 1, info :: rest, state =>
    match ctcGetSysVar node info state with
    | (none, state) => .ok ⟨erUnknownSystemVariable, some (errMsgOf node state), state, false⟩
    | (some call, state) =>
      match node.sqlSetVariables call state with
      | (0, state) => setSysVarLoop optNum rest state
      | (_, state) => .ok ⟨node.mysqlErrno state, some (errMsgOf node state), state, false⟩

/-- `ctc_set_sys_var`. -/
def ctcSetSysVar (request : SetOptRequest) (state : σ) : Result (SetEnd σ) :=
  -- `ERR_ALLOC_MEMORY`
  if node.initThd.1 ≠ 0 ∨ node.initThd.2 = false then .ok ⟨1, none, state, false⟩
  else setSysVarLoop node request.optNum request.setOptInfo state

/-- `ctc_ddl_execute_set_opt`. -/
def ctcDdlExecuteSetOpt (request : SetOptRequest) (state : σ) : Result (SetEnd σ) :=
  if request.mysqlInstId = node.ctcInstanceId then .ok ⟨0, none, state, true⟩
  else ctcSetSysVar node request state

/-! ## What an assignment asks for -/

/-- The item for the value of an assignment, on a server that shows the variable so. -/
def SetVar.item (setvar : SetVar) (showType : ShowType) : Option SetItem :=
  ctcGetSetVarItem showType setvar.text setvar.isNull
    (setvar.value.any fun value => value.resultType = .int)

/-- The same assignment, to the variable of the receiving server. -/
def SetVar.call (setvar : SetVar) (sysvar : ν) (showType : ShowType) : SetCall ν where
  type := setvar.type
  sysvar := sysvar
  base := setvar.base.filter fun base => base ≠ []
  value := if setvar.value = none then none else setvar.item showType

/-- The session in which the assignment is performed: one without a value of a known kind is
preceded by an error. -/
def SetNode.prepared (setvar : SetVar) (sysvar : ν) (state : σ) : σ :=
  if setvar.item (node.showType sysvar) = none then node.unknownVariable (node.varName sysvar) state
  else state

/-- A node performs assignments one after the other, up to the first one that is refused. -/
inductive Replayed : List SetVar → σ → SetEnd σ → Prop where
  | done (state : σ) : Replayed [] state ⟨0, none, state, true⟩
  | performed {setvar : SetVar} {rest : List SetVar} {state state' : σ} {sysvar : ν}
      {out : SetEnd σ} (found : node.internFindSysVar setvar.name = some sysvar)
      (set : node.sqlSetVariables (setvar.call sysvar (node.showType sysvar))
        (node.prepared setvar sysvar state) = (0, state'))
      (behind : Replayed rest state' out) : Replayed (setvar :: rest) state out
  | refused {setvar : SetVar} {rest : List SetVar} {state state' : σ} {sysvar : ν} {ret : Int}
      (found : node.internFindSysVar setvar.name = some sysvar)
      (set : node.sqlSetVariables (setvar.call sysvar (node.showType sysvar))
        (node.prepared setvar sysvar state) = (ret, state')) (failed : ret ≠ 0) :
      Replayed (setvar :: rest) state
        ⟨node.mysqlErrno state', some (errMsgOf node state'), state', false⟩
  | unknown {setvar : SetVar} {rest : List SetVar} {state : σ}
      (missing : node.internFindSysVar setvar.name = none) :
      Replayed (setvar :: rest) state
        ⟨erUnknownSystemVariable, some (errMsgOf node (node.unknownVariable setvar.name state)),
          node.unknownVariable setvar.name state, false⟩

end

/-! ## From an entry back to the assignment -/

/-- The options say of which kind an assignment is that is sent. -/
theorem ctcSetVarType_of_describes {info : SetOptInfo} {setvar : SetVar}
    (h : Describes info setvar) (hglobal : setvar.isGlobalPersist = true) :
    ctcSetVarType info.options = setvar.type := by
  unfold ctcSetVarType
  by_cases honly : setvar.type = .persistOnly
  · rw [if_pos (h.persistOnly.mpr honly), honly]
  rw [if_neg (mt h.persistOnly.mp honly)]
  by_cases hpersist : setvar.type = .persist
  · rw [if_pos (h.persist.mpr hpersist), hpersist]
  rw [if_neg (mt h.persist.mp hpersist)]
  unfold SetVar.isGlobalPersist at hglobal
  simp only [honly, hpersist, decide_false, Bool.or_false, decide_eq_true_eq] at hglobal
  exact hglobal.symm

/-- The entry also carries the base of the name and whether the value is a number. -/
structure Carries (info : SetOptInfo) (setvar : SetVar) : Prop extends Describes info setvar where
  base : info.baseName = setvar.base.getD []
  isInt : info.varIsInt = setvar.value.any fun value => value.resultType = .int

theorem carries_metaEntry (env : BroadcastEnv) {setvar : SetVar}
    (hname : Fits smallRecordSize setvar.name) (hvalue : Fits maxDdlSqlLen setvar.text)
    (hbase : Fits smallRecordSize (setvar.base.getD [])) :
    Carries (metaEntry env setvar.info) setvar where
  toDescribes := (describes_iff env setvar).mpr ⟨hname, hvalue⟩
  base := (copyField_copyField _ _).trans ((copyField_eq_self_iff (by decide)).mpr hbase)
  isInt := rfl

section

variable {σ ν : Type} {node : SetNode σ ν}

theorem Carries.ctcGetSysVar_eq {info : SetOptInfo} {setvar : SetVar} (h : Carries info setvar)
    (hglobal : setvar.isGlobalPersist = true) (hversion : node.version = .v26) {sysvar : ν}
    (hfound : node.internFindSysVar setvar.name = some sysvar) (state : σ) :
    ctcGetSysVar node info state =
      (some (setvar.call sysvar (node.showType sysvar)), node.prepared setvar sysvar state) := by
  have hnull : decide (info.options &&& ctcSetVariableToNull ≠ 0) = setvar.isNull := by
    rw [Bool.eq_iff_iff, decide_eq_true_iff]
    exact h.toNull
  have hbase : (if info.baseName = [] then none else some info.baseName) =
      setvar.base.filter fun base => base ≠ [] := by
    rw [h.base]
    cases hb : setvar.base with
    | none => rfl
    | some base =>
      rw [Option.getD_some]
      by_cases hempty : base = []
      · rw [if_pos hempty, hempty]
        rfl
      · rw [if_neg hempty, Option.filter_some_pos (by simpa using hempty)]
  have hitem : ctcGetSetVarItem (node.showType sysvar) info.varValue setvar.isNull info.varIsInt =
      setvar.item (node.showType sysvar) := by
    rw [h.value, h.isInt]
    rfl
  unfold ctcGetSysVar
  rw [h.name, hfound]
  dsimp only
  rw [hnull, hitem, hversion, hbase, ctcSetVarType_of_describes h.toDescribes hglobal]
  refine congrArg₂ Prod.mk (congrArg some (congrArg (SetCall.mk _ _ _) ?_)) rfl
  by_cases hvalue : setvar.value = none
  · rw [if_pos hvalue, if_pos (decide_eq_true (h.toDefault.mpr hvalue))]
  · rw [if_neg hvalue, if_neg fun hd => hvalue (h.toDefault.mp (of_decide_eq_true hd))]

/-- The loop performs what the entries describe. -/
theorem setSysVarLoop_replayed (hversion : node.version = .v26) {infos : List SetOptInfo}
    {setvars : List SetVar} (h : List.Forall₂ Carries infos setvars)
    (hglobal : ∀ setvar ∈ setvars, setvar.isGlobalPersist = true) (state : σ) :
    ∃ out, setSysVarLoop node infos.length infos state = .ok out ∧
      Replayed node setvars state out := by
  induction h generalizing state with
  | nil => exact ⟨_, rfl, .done state⟩
  | @cons info setvar infos setvars hfirst hrest ih =>
    obtain ⟨hglobal₁, hglobal'⟩ := List.forall_mem_cons.mp hglobal
    rw [List.length_cons, setSysVarLoop]
    cases hfound : node.internFindSysVar setvar.name with
    | none =>
      have hget : ctcGetSysVar node info state =
          (none, node.unknownVariable setvar.name state) := by
        unfold ctcGetSysVar
        rw [hfirst.name, hfound]
      rw [hget]
      exact ⟨_, rfl, .unknown hfound⟩
    | some sysvar =>
      rw [hfirst.ctcGetSysVar_eq hglobal₁ hversion hfound state]
      dsimp only
      rcases hset : node.sqlSetVariables (setvar.call sysvar (node.showType sysvar))
        (node.prepared setvar sysvar state) with ⟨ret, state'⟩
      by_cases hret : ret = 0
      · subst hret
        obtain ⟨out, hout, hbehind⟩ := ih hglobal' state'
        exact ⟨out, hout, .performed hfound hset hbehind⟩
      · refine ⟨_, ?_, .refused hfound hset hret⟩
        split
        · rename_i heq
          exact absurd (congrArg Prod.fst heq) hret
        · rename_i heq
          cases heq
          rfl

/-! ## From the statement to the node -/

/-- What a request contains that is sent. -/
theorem request_of_sent {env : BroadcastEnv} (hnorm : env.metadataNormalized = true)
    (hmdl : isCtcMdlThd env = false) (hversion : env.version = .v26) {varList : List SetVarBase}
    {request : SetOptRequest} (hsent : ctcUpdateSysvars env varList = .ok (some request)) :
    request = ⟨(broadcasts varList).map fun setvar => metaEntry env setvar.info,
      env.ctcInstanceId, (broadcasts varList).length⟩ := by
  unfold ctcUpdateSysvars at hsent
  rw [hmdl, if_neg Bool.false_ne_true] at hsent
  obtain ⟨infos, hinfos, h⟩ := result_bind_eq_ok.mp hsent
  split at h
  · cases h
  split at h
  · cases h
  obtain ⟨request', hrequest, h⟩ := result_bind_eq_ok.mp h
  cases h
  have hall := emplaceLoop_v26 hversion hnorm hinfos
  unfold ctcSetVarMeta at hrequest
  repeat' split at hrequest
  all_goals cases hrequest
  rw [hall, List.map_map, List.length_map]
  rfl

theorem isGlobalPersist_of_mem_broadcasts {varList : List SetVarBase} {setvar : SetVar}
    (h : setvar ∈ broadcasts varList) : setvar.isGlobalPersist = true := by
  obtain ⟨var, -, hvar⟩ := List.mem_filterMap.mp h
  split at hvar
  · split at hvar
    · cases hvar
      rename_i hsend
      exact (Bool.and_eq_true_iff.mp hsend).1
    · cases hvar
  · cases hvar

/-- **A SET statement on another node.** Let names, bases and values fit into their fields. Then
what the request of an accepted statement makes another node do is to perform the assignments to
global variables of the statement, and no others: in the order of the statement, each of the same
kind, to the variable of that name, with the value that the text denotes for it, and up to the
first one that the node refuses, whose error is the answer. -/
theorem setStatement_replayed {env : BroadcastEnv} (hnorm : env.metadataNormalized = true)
    (hmdl : isCtcMdlThd env = false) (hversion : env.version = .v26) {varList : List SetVarBase}
    {request : SetOptRequest} (hsent : ctcUpdateSysvars env varList = .ok (some request))
    (hfits : Sendable .v26 varList)
    (hbase : ∀ setvar ∈ broadcasts varList, Fits smallRecordSize (setvar.base.getD []))
    (hnode : node.version = .v26) (hother : env.ctcInstanceId ≠ node.ctcInstanceId)
    (hinit : node.initThd = (0, true)) (state : σ) :
    ∃ out, ctcDdlExecuteSetOpt node request state = .ok out ∧
      Replayed node (broadcasts varList) state out := by
  have hcarries : List.Forall₂ Carries
      ((broadcasts varList).map fun setvar => metaEntry env setvar.info) (broadcasts varList) := by
    rw [List.forall₂_map_left_iff, List.forall₂_same]
    exact fun setvar hmem =>
      carries_metaEntry env (hfits setvar hmem).1 (hfits setvar hmem).2 (hbase setvar hmem)
  obtain ⟨out, hout, hreplayed⟩ := setSysVarLoop_replayed hnode hcarries
    (fun setvar hmem => isGlobalPersist_of_mem_broadcasts hmem) state
  refine ⟨out, ?_, hreplayed⟩
  rw [request_of_sent hnorm hmdl hversion hsent]
  unfold ctcDdlExecuteSetOpt ctcSetSysVar
  rw [if_neg hother, hinit, if_neg (by decide)]
  rwa [List.length_map] at hout

end

/-- A node that knows every variable, grants every assignment and keeps a list of them. -/
def recordingNode : SetNode (List (SetCall SqlText)) SqlText where
  version := .v26
  ctcInstanceId := 2
  initThd := (0, true)
  internFindSysVar := some
  showType := fun name =>
    match name.head? with
    | some 'i' => .lexString
    | _ => .long
  varName := id
  unknownVariable := fun _ calls => calls
  sqlSetVariables := fun call calls => (0, calls ++ [call])
  mysqlErrno := fun _ => 0
  messageText := fun _ => []

/-- `SET GLOBAL init_connect = 'SET @a = 1', PERSIST max_connections = 300`. -/
def twoAssignments : List SetVarBase :=
  [.system (setInitConnect "SET @a = 1".toList),
    .system ⟨some ⟨false, true⟩, "max_connections".toList, none, .persist,
      some ⟨false, .other, some "300".toList, 300, .int, none⟩⟩]

theorem setStatement_replayed_two : ∃ request out,
    ctcUpdateSysvars (broadcastEnv .v26) twoAssignments = .ok (some request) ∧
    ctcDdlExecuteSetOpt recordingNode request [] = .ok out ∧
    Replayed recordingNode (broadcasts twoAssignments) [] out := by
  have hsent : ctcUpdateSysvars (broadcastEnv .v26) twoAssignments = .ok (some
      ⟨(broadcasts twoAssignments).map fun setvar => metaEntry (broadcastEnv .v26) setvar.info,
        1, 2⟩) := rfl
  have hfits : Sendable .v26 twoAssignments := by
    simp only [Sendable, Fits, ← cStr_eq_self_iff]
    decide
  have hbase : ∀ setvar ∈ broadcasts twoAssignments,
      Fits smallRecordSize (setvar.base.getD []) := by
    simp only [Fits, ← cStr_eq_self_iff]
    decide
  have hother : (broadcastEnv .v26).ctcInstanceId ≠ recordingNode.ctcInstanceId := by decide
  obtain ⟨out, hout, hreplayed⟩ :=
    setStatement_replayed rfl rfl rfl hsent hfits hbase rfl hother rfl []
  exact ⟨_, out, hsent, hout, hreplayed⟩

end CantianConnector.Ddl
