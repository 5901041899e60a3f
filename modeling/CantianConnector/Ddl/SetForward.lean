import CantianConnector.Ddl.SetVar

/-!
# Forwarding of SET statements

Without normalised metadata a `SET` statement is forwarded as a whole, or not at all.
`ctc_check_set_opt` looks at the assignments one after the other and writes `need_forward` for each
of them, so that the last one decides. A variable that is not found leaves `need_forward` as it was.
-/

namespace CantianConnector.Ddl

/-- What a statement meets: the kind of the build, `IS_METADATA_NORMALIZATION`, a subselect in the
statement (`query_tables`), the user variable `ctc_setopt_disabled` of the session, as a number and
as a text, and the answer of `ctc_get_max_sessions_per_node`. -/
structure ForwardEnv where
  version : MysqlVersion
  metadataNormalized : Bool
  queryTables : Bool
  setoptDisabled : Option (Int × SqlText)
  maxSessions : Option Int

def lowerCase (text : SqlText) : SqlText := text.map Char.toLower

/-! ## Rules for single variables -/

/-- `is_current_system_var`. -/
def isCurrentSystemVar (setvar : SetVar) : Bool :=
  match setvar.value with
  | none => true
  | some value =>
    match value.source with
    | .systemVar _ _ => true
    | _ => false

/-- `check_default_engine`. -/
def checkDefaultEngine (setvar : SetVar) (userValStr : SqlText) : Int :=
  if isCurrentSystemVar setvar then 0
  else
    match setvar.value.bind SetValue.itemName with
    | none =>
      if userValStr = [] then 0
      else
        let engine := lowerCase userValStr
        if engine = "ctc".toList ∨ engine = "default".toList then 0 else -1
    | some itemName => if lowerCase (cStr itemName) ≠ "ctc".toList then -1 else 0

/-- The digits at the start of a text. -/
def digitsValue (text : SqlText) : Nat :=
  (text.takeWhile Char.isDigit).foldl (fun n c => 10 * n + digit c) 0

/-- `atoi`. -/
def atoi (text : SqlText) : Int :=
  match skipSpaces text with
  | [] => 0
  | c :: rest =>
    if c = '-' then -digitsValue rest
    else if c = '+' then digitsValue rest
    else digitsValue (c :: rest)

/-- `check_session_pool_volume`. -/
def checkSessionPoolVolume (maxSessions : Option Int) (setvar : SetVar) (userValStr : SqlText) :
    Int :=
  if isCurrentSystemVar setvar then 0
  else
    match maxSessions with
    | none => -1
    | some maxSessions =>
      match setvar.value.bind SetValue.itemName with
      | none =>
        match userValStr with
        | [] => 0
        | c :: _ =>
          if !c.isDigit then -1
          else if atoi userValStr > maxSessions ∨ atoi userValStr < 1 then -1
          else 0
      | some itemName => if atoi itemName > maxSessions ∨ atoi itemName < 1 then -1 else 0

/-- `unsupport_tx_isolation_level`. -/
def unsupportTxIsolationLevel (setvar : SetVar) (userValStr : SqlText) : Int :=
  if isCurrentSystemVar setvar then 0
  else
    match setvar.value with
    | none => 0
    | some value =>
      if value.resultType = .string then
        match value.itemName with
        | none =>
          let level := lowerCase userValStr
          if level = "read-committed".toList ∨ level = "1".toList then 0
          else if level = "repeatable-read".toList ∨ level = "2".toList then 0
          else -1
        | some itemName =>
          let level := lowerCase (cStr itemName)
          if level = "read-committed".toList ∨ level = "repeatable-read".toList then 0 else -1
      -- `ISO_READ_COMMITTED` and `ISO_REPEATABLE_READ`
      else if value.valInt = 1 ∨ value.valInt = 2 then 0
      else -1

/-- The variables in `set_variable_rules_map`. -/
inductive VariableRule where
  | defaultEngine
  | maxConnections
  | transactionIsolation
  | sampleSize
deriving DecidableEq, Repr

/-- `set_variable_rules_map`. -/
def setVariableRulesMap (name : SqlText) : Option VariableRule :=
  if name = "default_storage_engine".toList then some .defaultEngine
  else if name = "max_connections".toList then some .maxConnections
  else if name = "transaction_isolation".toList then some .transactionIsolation
  else if name = "ctc_sample_size".toList then some .sampleSize
  else none

/-- A rule, with `need_forward`. `ctc_check_sample_size` is the only one that writes it. -/
def VariableRule.check (maxSessions : Option Int) (setvar : SetVar) (userValStr : SqlText)
    (needForward : Bool) : VariableRule → Int × Bool
  | .defaultEngine => (checkDefaultEngine setvar userValStr, needForward)
  | .maxConnections => (checkSessionPoolVolume maxSessions setvar userValStr, needForward)
  | .transactionIsolation => (unsupportTxIsolationLevel setvar userValStr, needForward)
  | .sampleSize => (0, false)

/-- `ctc_check_set_opt_rule`. -/
def ctcCheckSetOptRule (maxSessions : Option Int) (setvar : SetVar) (userValStr : SqlText)
    (needForward : Bool) : Int × Bool :=
  match setVariableRulesMap (lowerCase setvar.name) with
  | none => (0, needForward)
  | some rule =>
    let (ruleRes, needForward) := rule.check maxSessions setvar userValStr needForward
    (ruleRes, if ruleRes = -1 then false else needForward)

/-! ## One assignment -/

/-- `ctc_get_variables_value_string`: its result, `val_str` and `need_forward`. -/
def ctcGetVariablesValueString (version : MysqlVersion) (value : SetValue) (needForward : Bool) :
    Int × SqlText × Bool :=
  -- an error of the value is left to the server
  if value.fixFieldsFails then (0, [], false)
  else
    match value.source with
    | .userVar none => (-1, [], false)
    | .userVar (some none) => (0, [], needForward)
    | .userVar (some (some text)) => (0, cStr text, needForward)
    | .systemVar bindFails isErrorStr =>
      if version = .v26 ∧ bindFails then (-1, [], false)
      else
        match value.valStr with
        | none => (0, "null".toList, needForward)
        | some text => if isErrorStr then (-1, [], false) else (0, cStr text, needForward)
    | .other =>
      match value.valStr with
      | none => (0, "null".toList, needForward)
      | some text => (0, cStr text, needForward)

/-- `allow_sqlcmd` for `ctc_setopt_disabled`. -/
def setoptRefused (env : ForwardEnv) : Bool :=
  match env.setoptDisabled with
  | none => false
  | some (value, text) => value = 1 || lowerCase (cStr text) = "true".toList

/-- The value and the rules of a variable are looked at. -/
def looksAtValue (env : ForwardEnv) (setvar : SetVar) : Bool :=
  (env.version = .v32 || setvar.var.isSome) && !env.queryTables

/-- The value of a variable and its rule: the result, `val_str` and `need_forward`. -/
def examineValue (env : ForwardEnv) (setvar : SetVar) (needForward : Bool) :
    Int × SqlText × Bool :=
  let got :=
    match setvar.value with
    | none => (0, [], needForward)
    | some value => ctcGetVariablesValueString env.version value needForward
  let rule := ctcCheckSetOptRule env.maxSessions setvar got.2.1 got.2.2
  (if got.1 = 0 then rule.1 else got.1, got.2.1, rule.2)

/-- `check_system_var` up to the length of the value. A variable that is not found leaves
`need_forward` as it is. -/
def examineSystemVar (env : ForwardEnv) (setvar : SetVar) (needForward : Bool) :
    Int × SqlText × Bool :=
  let needForward := (setvar.var.map (foundVerdict env.version setvar)).getD needForward
  if looksAtValue env setvar then examineValue env setvar needForward else (0, [], needForward)

/-- `check_system_var`. -/
def checkSystemVar (env : ForwardEnv) (setvar : SetVar) (needForward : Bool) : Int × Bool :=
  let (ret, valStr, needForward) := examineSystemVar env setvar needForward
  if (cStr valStr).length > maxDdlSqlLen then (-1, needForward)
  else if needForward && setoptRefused env then (-1, needForward)
  else (ret, needForward)

/-- `user_var_flag_map`. -/
def userVarFlagMap (name : SqlText) : Option UInt32 :=
  if name = "ctc_ddl_local_enabled".toList then some 1
  else if name = "ctc_ddl_enabled".toList then some 2
  else if name = "ctc_replay_ddl".toList then some 4
  else none

/-- `ctc_set_user_var_flag`: its result, and `set_flag` of the session. -/
def ctcSetUserVarFlag (sessCtx : Bool) (name value : SqlText) (setFlag : UInt32) : Int × UInt32 :=
  -- `HA_ERR_OUT_OF_MEM`
  if !sessCtx then (128, setFlag)
  else
    match userVarFlagMap name with
    | none => (0, setFlag)
    | some flag =>
      if value = "1".toList ∨ value = "true".toList then (0, setFlag ||| flag)
      else if value = "0".toList ∨ value = "false".toList ∨ value = "NULL".toList then
        (0, setFlag &&& ~~~flag)
      else (-1, setFlag)

/-- `std::string::find`: what is in front of the first `word`, and what is behind it. -/
def splitAtWord (word : SqlText) : SqlText → Option (SqlText × SqlText)
  | [] => if word = [] then some ([], []) else none
  | c :: text =>
    if word.isPrefixOf (c :: text) then some ([], (c :: text).drop word.length)
    else (splitAtWord word text).map fun (front, behind) => (c :: front, behind)

/-- `check_non_system_var`; it always resets `need_forward`. -/
def checkNonSystemVar (var : SetVarBase) (setFlag : UInt32) : Int × UInt32 :=
  match var with
  | .user printed sessCtx =>
    if printed = [] then (-1, setFlag)
    else
      let name := ((splitAtWord "@".toList printed).bind fun found =>
        (splitAtWord ":=".toList found.2).map Prod.fst).getD []
      let value := ((splitAtWord ":=".toList printed).map Prod.snd).getD []
      ctcSetUserVarFlag sessCtx name value setFlag
  | _ => (0, setFlag)

/-! ## The statement -/

/-- How `ctc_check_set_opt` ends: its result, `need_forward`, and `set_flag` of the session. -/
structure SetOptEnd where
  ret : Int
  needForward : Bool
  setFlag : UInt32

/-- One assignment. -/
def checkSetVar (env : ForwardEnv) (needForward : Bool) (setFlag : UInt32) :
    SetVarBase → SetOptEnd
  | .system setvar =>
    let (ret, needForward) := checkSystemVar env setvar needForward
    ⟨ret, needForward, setFlag⟩
  | var =>
    let (ret, setFlag) := checkNonSystemVar var setFlag
    ⟨ret, false, setFlag⟩

/-- The loop of `ctc_check_set_opt`. -/
def checkSetOptLoop (env : ForwardEnv) : List SetVarBase → Bool → UInt32 → SetOptEnd
  | [], needForward, setFlag => ⟨0, needForward, setFlag⟩
  | var :: rest, needForward, setFlag =>
    let checked := checkSetVar env needForward setFlag var
    if checked.ret ≠ 0 then ⟨-1, checked.needForward, checked.setFlag⟩
    else checkSetOptLoop env rest checked.needForward checked.setFlag

/-- `ctc_check_set_opt`. -/
def ctcCheckSetOpt (env : ForwardEnv) (varList : List SetVarBase) (needForward : Bool)
    (setFlag : UInt32) : SetOptEnd :=
  let checked := checkSetOptLoop env varList needForward setFlag
  if checked.ret ≠ 0 then checked
  else if env.metadataNormalized then { checked with needForward := false }
  else checked

/-! ## What one assignment does to `need_forward` -/

/-- The value or the rule of the variable resets `need_forward`, and is not refused. -/
def resets (env : ForwardEnv) (setvar : SetVar) : Bool :=
  looksAtValue env setvar &&
    ((setvar.value.any fun value => value.fixFieldsFails) ||
      setVariableRulesMap (lowerCase setvar.name) = some .sampleSize)

/-- What an assignment that is accepted sets `need_forward` to, if it sets it. -/
def verdict (env : ForwardEnv) : SetVarBase → Option Bool
  | .system setvar =>
    if resets env setvar then some false
    else setvar.var.map (foundVerdict env.version setvar)
  | _ => some false

/-- `need_forward` behind some assignments that are accepted. -/
def lastVerdict (env : ForwardEnv) (varList : List SetVarBase) (needForward : Bool) : Bool :=
  varList.foldl (fun needForward var => (verdict env var).getD needForward) needForward

/-- The result and the text of a value do not depend on `need_forward`. -/
theorem ctcGetVariablesValueString_ret (version : MysqlVersion) (value : SetValue)
    (needForward : Bool) :
    (ctcGetVariablesValueString version value needForward).1 =
      (ctcGetVariablesValueString version value false).1 ∧
    (ctcGetVariablesValueString version value needForward).2.1 =
      (ctcGetVariablesValueString version value false).2.1 := by
  unfold ctcGetVariablesValueString
  repeat' split
  all_goals exact ⟨rfl, rfl⟩

theorem ctcGetVariablesValueString_needForward {version : MysqlVersion} {value : SetValue}
    {needForward : Bool} : (ctcGetVariablesValueString version value needForward).1 = 0 →
      (ctcGetVariablesValueString version value needForward).2.2 =
        (!value.fixFieldsFails && needForward) := by
  unfold ctcGetVariablesValueString
  split
  case isTrue hfails =>
    intro _
    rw [hfails, Bool.not_true, Bool.false_and]
  case isFalse hfails =>
    rw [Bool.not_eq_true] at hfails
    rw [hfails, Bool.not_false, Bool.true_and]
    repeat' split
    all_goals intro hret
    all_goals first | rfl | cases hret

theorem ctcCheckSetOptRule_ret (maxSessions : Option Int) (setvar : SetVar) (userValStr : SqlText)
    (needForward : Bool) : (ctcCheckSetOptRule maxSessions setvar userValStr needForward).1 =
      (ctcCheckSetOptRule maxSessions setvar userValStr false).1 := by
  unfold ctcCheckSetOptRule
  cases setVariableRulesMap (lowerCase setvar.name) with
  | none => rfl
  | some rule => cases rule <;> rfl

theorem ctcCheckSetOptRule_needForward {maxSessions : Option Int} {setvar : SetVar}
    {userValStr : SqlText} {needForward : Bool}
    (hret : (ctcCheckSetOptRule maxSessions setvar userValStr needForward).1 = 0) :
    (ctcCheckSetOptRule maxSessions setvar userValStr needForward).2 =
      (!decide (setVariableRulesMap (lowerCase setvar.name) = some .sampleSize) &&
        needForward) := by
  unfold ctcCheckSetOptRule at hret ⊢
  cases hrule : setVariableRulesMap (lowerCase setvar.name) with
  | none => rfl
  | some rule =>
    rw [hrule] at hret
    dsimp only at hret ⊢
    rw [hret, if_neg (by decide)]
    cases rule <;> rfl

theorem examineValue_ret (env : ForwardEnv) (setvar : SetVar) (needForward : Bool) :
    (examineValue env setvar needForward).1 = (examineValue env setvar false).1 ∧
      (examineValue env setvar needForward).2.1 = (examineValue env setvar false).2.1 := by
  unfold examineValue
  dsimp only
  cases setvar.value with
  | none => 
    refine ⟨?_, rfl⟩
    dsimp only
    rw [if_pos rfl, if_pos rfl, ctcCheckSetOptRule_ret]
  | some value =>
    dsimp only
    obtain ⟨hret, htext⟩ := ctcGetVariablesValueString_ret env.version value needForward
    rw [hret, htext, ctcCheckSetOptRule_ret, ctcCheckSetOptRule_ret _ _ _
      (ctcGetVariablesValueString env.version value false).2.2]
    exact ⟨rfl, rfl⟩

theorem examineValue_needForward {env : ForwardEnv} {setvar : SetVar} {needForward : Bool}
    (hret : (examineValue env setvar needForward).1 = 0) :
    (examineValue env setvar needForward).2.2 =
      (!((setvar.value.any fun value => value.fixFieldsFails) ||
        decide (setVariableRulesMap (lowerCase setvar.name) = some .sampleSize)) &&
          needForward) := by
  unfold examineValue at hret ⊢
  dsimp only at hret ⊢
  cases hvalue : setvar.value with
  | none =>
    rw [hvalue] at hret
    dsimp only at hret ⊢
    rw [if_pos rfl] at hret
    rw [ctcCheckSetOptRule_needForward hret, Option.any_none, Bool.false_or]
  | some value =>
    rw [hvalue] at hret
    dsimp only at hret ⊢
    split at hret
    case isTrue hgot =>
      rw [ctcCheckSetOptRule_needForward hret, ctcGetVariablesValueString_needForward hgot,
        Option.any_some, Bool.not_or, ← Bool.and_assoc,
        Bool.and_comm (!value.fixFieldsFails)]
    case isFalse hgot => exact absurd hret hgot

/-- The value of the variable and its rule are not refused, and the value is not too long. -/
def SystemAdmissible (env : ForwardEnv) (setvar : SetVar) : Prop :=
  (examineSystemVar env setvar false).1 = 0 ∧
    (cStr (examineSystemVar env setvar false).2.1).length ≤ maxDdlSqlLen

theorem examineSystemVar_ret (env : ForwardEnv) (setvar : SetVar) (needForward : Bool) :
    (examineSystemVar env setvar needForward).1 = (examineSystemVar env setvar false).1 ∧
      (examineSystemVar env setvar needForward).2.1 = (examineSystemVar env setvar false).2.1 := by
  unfold examineSystemVar
  dsimp only
  split
  · obtain ⟨hret, htext⟩ := examineValue_ret env setvar
      ((setvar.var.map (foundVerdict env.version setvar)).getD needForward)
    obtain ⟨hret', htext'⟩ := examineValue_ret env setvar
      ((setvar.var.map (foundVerdict env.version setvar)).getD false)
    exact ⟨hret.trans hret'.symm, htext.trans htext'.symm⟩
  · exact ⟨rfl, rfl⟩

theorem examineSystemVar_needForward {env : ForwardEnv} {setvar : SetVar} {needForward : Bool}
    (hret : (examineSystemVar env setvar needForward).1 = 0) :
    (examineSystemVar env setvar needForward).2.2 =
      (verdict env (.system setvar)).getD needForward := by
  unfold examineSystemVar at hret ⊢
  unfold verdict resets
  dsimp only at hret ⊢
  cases hlooks : looksAtValue env setvar with
  | false => rw [if_neg Bool.false_ne_true, Bool.false_and, if_neg Bool.false_ne_true]
  | true =>
    rw [hlooks, if_pos rfl] at hret
    rw [if_pos rfl, examineValue_needForward hret, Bool.true_and]
    cases hresets : ((setvar.value.any fun value => value.fixFieldsFails) ||
        decide (setVariableRulesMap (lowerCase setvar.name) = some .sampleSize)) with
    | true => rfl
    | false => rw [if_neg Bool.false_ne_true, Bool.not_false, Bool.true_and]

/-! ## The statement -/

def SetVarBase.isSystem : SetVarBase → Bool
  | .system _ => true
  | _ => false

/-- The assignment is accepted, as far as it alone is concerned. -/
def Admissible (env : ForwardEnv) : SetVarBase → Prop
  | .system setvar => SystemAdmissible env setvar
  | var => (checkNonSystemVar var 0).1 = 0

/-- An assignment that is to be forwarded is refused by `ctc_setopt_disabled`. -/
def Refused (env : ForwardEnv) (var : SetVarBase) (needForward : Bool) : Prop :=
  var.isSystem = true ∧ needForward = true ∧ setoptRefused env = true

theorem ctcSetUserVarFlag_fst (sessCtx : Bool) (name value : SqlText) (setFlag : UInt32) :
    (ctcSetUserVarFlag sessCtx name value setFlag).1 =
      (ctcSetUserVarFlag sessCtx name value 0).1 := by
  unfold ctcSetUserVarFlag
  repeat' split
  all_goals rfl

theorem checkNonSystemVar_fst (var : SetVarBase) (setFlag : UInt32) :
    (checkNonSystemVar var setFlag).1 = (checkNonSystemVar var 0).1 := by
  unfold checkNonSystemVar
  split
  · split
    · rfl
    · exact ctcSetUserVarFlag_fst _ _ _ _
  · rfl

theorem checkSystemVar_ret_eq_zero (env : ForwardEnv) (setvar : SetVar) (needForward : Bool) :
    (checkSystemVar env setvar needForward).1 = 0 ↔ SystemAdmissible env setvar ∧
      ¬ Refused env (.system setvar) ((verdict env (.system setvar)).getD needForward) := by
  have hfails : (-1 : Int) ≠ 0 := by decide
  obtain ⟨hret, htext⟩ := examineSystemVar_ret env setvar needForward
  unfold checkSystemVar SystemAdmissible Refused
  dsimp only
  rw [hret, htext]
  split
  case isTrue hlong =>
    exact iff_of_false hfails fun h => absurd h.1.2 (Nat.not_le_of_lt hlong)
  case isFalse hshort =>
    by_cases hzero : (examineSystemVar env setvar false).1 = 0
    · rw [examineSystemVar_needForward (hret.trans hzero)]
      split
      case isTrue hrefused =>
        rw [Bool.and_eq_true] at hrefused
        exact iff_of_false hfails fun h => h.2 ⟨rfl, hrefused⟩
      case isFalse hallowed =>
        rw [Bool.and_eq_true] at hallowed
        exact iff_of_true hzero ⟨⟨hzero, Nat.le_of_not_lt hshort⟩, fun h => hallowed h.2⟩
    · refine iff_of_false ?_ fun h => hzero h.1.1
      split
      · exact hfails
      · exact hzero

theorem checkSetVar_ret_eq_zero (env : ForwardEnv) (needForward : Bool) (setFlag : UInt32)
    (var : SetVarBase) : (checkSetVar env needForward setFlag var).ret = 0 ↔
      Admissible env var ∧ ¬ Refused env var ((verdict env var).getD needForward) := by
  cases var with
  | system setvar => exact checkSystemVar_ret_eq_zero env setvar needForward
  | user printed sessCtx =>
    have hret : (checkSetVar env needForward setFlag (.user printed sessCtx)).ret =
        (checkNonSystemVar (.user printed sessCtx) 0).1 :=
      checkNonSystemVar_fst (.user printed sessCtx) setFlag
    rw [hret]
    exact (and_iff_left fun h => Bool.false_ne_true h.1).symm
  | other => exact iff_of_true rfl ⟨rfl, fun h => Bool.false_ne_true h.1⟩

theorem checkSetVar_needForward {env : ForwardEnv} {var : SetVarBase} (h : Admissible env var)
    (needForward : Bool) (setFlag : UInt32) :
    (checkSetVar env needForward setFlag var).needForward =
      (verdict env var).getD needForward := by
  cases var with
  | system setvar =>
    have hzero : (examineSystemVar env setvar needForward).1 = 0 :=
      (examineSystemVar_ret env setvar needForward).1.trans h.1
    rw [← examineSystemVar_needForward hzero]
    unfold checkSetVar checkSystemVar
    dsimp only
    split
    · rfl
    · split <;> rfl
  | user printed sessCtx => rfl
  | other => rfl

/-- All assignments are accepted, one after the other. -/
def Accepted (env : ForwardEnv) : List SetVarBase → Bool → Prop
  | [], _ => True
  | var :: rest, needForward =>
    (Admissible env var ∧ ¬ Refused env var ((verdict env var).getD needForward)) ∧
      Accepted env rest ((verdict env var).getD needForward)

theorem checkSetOptLoop_ret_eq_zero (env : ForwardEnv) (varList : List SetVarBase)
    (needForward : Bool) (setFlag : UInt32) :
    (checkSetOptLoop env varList needForward setFlag).ret = 0 ↔
      Accepted env varList needForward := by
  induction varList generalizing needForward setFlag with
  | nil => exact iff_of_true rfl trivial
  | cons var rest ih =>
    have hvar := checkSetVar_ret_eq_zero env needForward setFlag var
    rw [checkSetOptLoop, Accepted]
    split
    case isTrue hret =>
      have hfails : (-1 : Int) ≠ 0 := by decide
      exact iff_of_false hfails fun h => hret (hvar.mpr h.1)
    case isFalse hret =>
      have haccepted := hvar.mp (not_not.mp hret)
      rw [ih, checkSetVar_needForward haccepted.1, and_iff_right haccepted]

theorem checkSetOptLoop_needForward {env : ForwardEnv} {varList : List SetVarBase}
    {needForward : Bool} (h : Accepted env varList needForward) (setFlag : UInt32) :
    (checkSetOptLoop env varList needForward setFlag).needForward =
      lastVerdict env varList needForward := by
  induction varList generalizing needForward setFlag with
  | nil => rfl
  | cons var rest ih =>
    have hret := (checkSetVar_ret_eq_zero env needForward setFlag var).mpr h.1
    rw [checkSetOptLoop, if_neg (not_not.mpr hret), checkSetVar_needForward h.1.1]
    exact ih h.2 _

theorem accepted_iff {env : ForwardEnv} {varList : List SetVarBase} {needForward : Bool} :
    Accepted env varList needForward ↔ ∀ front var rest, varList = front ++ var :: rest →
      Admissible env var ∧ ¬ Refused env var (lastVerdict env (front ++ [var]) needForward) := by
  induction varList generalizing needForward with
  | nil =>
    refine iff_of_true trivial fun front var rest h => ?_
    cases front <;> cases h
  | cons first rest ih =>
    rw [Accepted, ih]
    constructor
    · rintro ⟨hfirst, hrest⟩ front var behind heq
      cases front with
      | nil =>
        obtain ⟨rfl, rfl⟩ := List.cons.inj heq
        exact hfirst
      | cons c front =>
        obtain ⟨rfl, htail⟩ := List.cons.inj heq
        exact hrest front var behind htail
    · intro h
      refine ⟨h [] first rest rfl, fun front var behind heq => ?_⟩
      exact h (first :: front) var behind (congrArg (first :: ·) heq)

/-- The result does not depend on the order of the assignments, and one that would be forwarded on
its own is forwarded. -/
structure OrderIndependent (env : ForwardEnv) (varList : List SetVarBase) (needForward : Bool)
    (setFlag : UInt32) : Prop where
  perm : ∀ varList', varList'.Perm varList →
    (ctcCheckSetOpt env varList' needForward setFlag).ret = 0 ∧
    (ctcCheckSetOpt env varList' needForward setFlag).needForward =
      (ctcCheckSetOpt env varList needForward setFlag).needForward
  single : ∀ var ∈ varList, (ctcCheckSetOpt env [var] needForward setFlag).needForward = true →
    (ctcCheckSetOpt env varList needForward setFlag).needForward = true

/-- The assignments that set `need_forward` agree. If it is set to begin with and one of them leaves
it, then none of the others resets it. -/
structure VerdictsAgree (env : ForwardEnv) (varList : List SetVarBase) (needForward : Bool) :
    Prop where
  same : ∀ var ∈ varList, ∀ var' ∈ varList, ∀ b b', verdict env var = some b →
    verdict env var' = some b' → b = b'
  kept : needForward = true → ∀ var ∈ varList, ∀ var' ∈ varList, verdict env var = none →
    verdict env var' ≠ some false

theorem ctcCheckSetOpt_eq {env : ForwardEnv} (hmode : env.metadataNormalized = false)
    (varList : List SetVarBase) (needForward : Bool) (setFlag : UInt32) :
    ctcCheckSetOpt env varList needForward setFlag =
      checkSetOptLoop env varList needForward setFlag := by
  unfold ctcCheckSetOpt
  dsimp only
  rw [hmode, if_neg Bool.false_ne_true, ite_self]

theorem ctcCheckSetOpt_single {env : ForwardEnv} (hmode : env.metadataNormalized = false)
    {var : SetVarBase} (h : Admissible env var) (needForward : Bool) (setFlag : UInt32) :
    (ctcCheckSetOpt env [var] needForward setFlag).needForward =
      (verdict env var).getD needForward := by
  rw [ctcCheckSetOpt_eq hmode, checkSetOptLoop]
  split
  · exact checkSetVar_needForward h needForward setFlag
  · exact checkSetVar_needForward h needForward setFlag

theorem lastVerdict_append (env : ForwardEnv) (front : List SetVarBase) (var : SetVarBase)
    (needForward : Bool) : lastVerdict env (front ++ [var]) needForward =
      (verdict env var).getD (lastVerdict env front needForward) :=
  List.foldl_concat _ _ _ _

/-- Either no assignment sets `need_forward`, or one sets it to the result. -/
theorem lastVerdict_cases (env : ForwardEnv) (varList : List SetVarBase) (needForward : Bool) :
    ((∀ var ∈ varList, verdict env var = none) ∧
      lastVerdict env varList needForward = needForward) ∨
    ∃ var ∈ varList, verdict env var = some (lastVerdict env varList needForward) := by
  induction varList generalizing needForward with
  | nil => exact .inl ⟨fun _ h => absurd h List.not_mem_nil, rfl⟩
  | cons first rest ih =>
    have hcons : lastVerdict env (first :: rest) needForward =
        lastVerdict env rest ((verdict env first).getD needForward) := rfl
    rcases ih ((verdict env first).getD needForward) with ⟨hnone, hlast⟩ | ⟨var, hmem, hvar⟩
    · rw [hcons, hlast]
      cases hfirst : verdict env first with
      | none =>
        refine .inl ⟨fun var hmem => ?_, rfl⟩
        rcases List.mem_cons.mp hmem with rfl | hmem
        · exact hfirst
        · exact hnone var hmem
      | some b => exact .inr ⟨first, List.mem_cons_self, hfirst⟩
    · exact .inr ⟨var, List.mem_cons_of_mem _ hmem, hvar⟩

/-- Of the assignments that are accepted, none that sets `need_forward` is refused. -/
theorem Accepted.setoptRefused {env : ForwardEnv} {varList : List SetVarBase} {needForward : Bool}
    (h : Accepted env varList needForward) {var : SetVarBase} (hmem : var ∈ varList)
    (hverdict : verdict env var = some true) : setoptRefused env = false := by
  obtain ⟨front, rest, rfl⟩ := List.append_of_mem hmem
  have hallowed := (accepted_iff.mp h front var rest rfl).2
  rw [lastVerdict_append, hverdict] at hallowed
  have hsystem : var.isSystem = true := by
    cases var with
    | system => rfl
    | _ => cases hverdict
  by_contra hrefused
  exact hallowed ⟨hsystem, rfl, Bool.of_not_eq_false hrefused⟩

theorem VerdictsAgree.accepted {env : ForwardEnv} {varList : List SetVarBase} {needForward : Bool}
    (h : VerdictsAgree env varList needForward) (haccepted : Accepted env varList needForward)
    {varList' : List SetVarBase} (hperm : varList'.Perm varList) :
    Accepted env varList' needForward := by
  refine accepted_iff.mpr fun front var rest heq => ?_
  have hmem : ∀ prior ∈ front, prior ∈ varList := by
    intro prior hprior
    refine hperm.mem_iff.mp ?_
    rw [heq]
    exact List.mem_append_left _ hprior
  have hvar : var ∈ varList := hperm.mem_iff.mp (by rw [heq]; exact List.mem_append_cons_self)
  obtain ⟨front', rest', heq'⟩ := List.append_of_mem hvar
  obtain ⟨hadmissible, hallowed⟩ := accepted_iff.mp haccepted front' var rest' heq'
  refine ⟨hadmissible, fun ⟨hsystem, hforward, hrefused⟩ => ?_⟩
  have hnotset : ∀ prior ∈ varList, verdict env prior ≠ some true := by
    intro prior hprior hset
    have hoff := haccepted.setoptRefused hprior hset
    rw [hrefused] at hoff
    cases hoff
  have hoff : lastVerdict env (front' ++ [var]) needForward ≠ true := fun hon =>
    hallowed ⟨hsystem, hon, hrefused⟩
  rw [lastVerdict_append] at hforward hoff
  cases hverdict : verdict env var with
  | some b =>
    rw [hverdict] at hforward hoff
    exact hoff hforward
  | none =>
    rw [hverdict, Option.getD_none] at hforward hoff
    -- the variable is not found: `need_forward` was set to begin with, and reset in one order only
    rcases lastVerdict_cases env front needForward with ⟨-, hlast⟩ | ⟨prior, hprior, hset⟩
    · rw [hlast] at hforward
      rcases lastVerdict_cases env front' needForward with ⟨-, hlast'⟩ | ⟨prior, hprior, hreset⟩
      · exact hoff (hlast'.trans hforward)
      · rw [Bool.eq_false_iff.mpr hoff] at hreset
        refine h.kept hforward var hvar prior ?_ hverdict hreset
        rw [heq']
        exact List.mem_append_left _ hprior
    · rw [hforward] at hset
      exact hnotset prior (hmem prior hprior) hset

theorem VerdictsAgree.lastVerdict_eq {env : ForwardEnv} {varList : List SetVarBase}
    {needForward : Bool} (h : VerdictsAgree env varList needForward)
    {varList' : List SetVarBase} (hperm : varList'.Perm varList) :
    lastVerdict env varList' needForward = lastVerdict env varList needForward := by
  rcases lastVerdict_cases env varList' needForward with ⟨hnone, hlast⟩ | ⟨var, hvar, hset⟩
  · rcases lastVerdict_cases env varList needForward with ⟨-, hlast'⟩ | ⟨var', hvar', hset'⟩
    · rw [hlast, hlast']
    · rw [hnone var' (hperm.mem_iff.mpr hvar')] at hset'
      cases hset'
  · rcases lastVerdict_cases env varList needForward with ⟨hnone, -⟩ | ⟨var', hvar', hset'⟩
    · rw [hnone var (hperm.mem_iff.mp hvar)] at hset
      cases hset
    · exact h.same var (hperm.mem_iff.mp hvar) var' hvar' _ _ hset hset'

theorem VerdictsAgree.lastVerdict_of_single {env : ForwardEnv} {varList : List SetVarBase}
    {needForward : Bool} (h : VerdictsAgree env varList needForward) {var : SetVarBase}
    (hvar : var ∈ varList) (hsingle : (verdict env var).getD needForward = true) :
    lastVerdict env varList needForward = true := by
  cases hverdict : verdict env var with
  | some b =>
    rw [hverdict] at hsingle
    rcases lastVerdict_cases env varList needForward with ⟨hnone, -⟩ | ⟨prior, hprior, hset⟩
    · rw [hnone var hvar] at hverdict
      cases hverdict
    · rw [h.same prior hprior var hvar _ _ hset hverdict]
      exact hsingle
  | none =>
    rw [hverdict, Option.getD_none] at hsingle
    rcases lastVerdict_cases env varList needForward with ⟨-, hlast⟩ | ⟨prior, hprior, hset⟩
    · rw [hlast, hsingle]
    · by_contra hoff
      rw [Bool.not_eq_true] at hoff
      rw [hoff] at hset
      exact h.kept hsingle var hvar prior hprior hverdict hset

/-- Some order of the assignments ends with a given one. -/
theorem OrderIndependent.last {env : ForwardEnv} (hmode : env.metadataNormalized = false)
    {varList : List SetVarBase} {needForward : Bool} {setFlag : UInt32}
    (h : OrderIndependent env varList needForward setFlag) {var : SetVarBase}
    (hvar : var ∈ varList) {b : Bool} (hverdict : verdict env var = some b) :
    (ctcCheckSetOpt env varList needForward setFlag).needForward = b := by
  obtain ⟨front, rest, rfl⟩ := List.append_of_mem hvar
  have hperm : (front ++ rest ++ [var]).Perm (front ++ var :: rest) := by
    rw [List.append_assoc]
    exact (List.perm_append_singleton var rest).append_left front
  obtain ⟨hret, hsame⟩ := h.perm _ hperm
  rw [ctcCheckSetOpt_eq hmode] at hret hsame
  have haccepted := (checkSetOptLoop_ret_eq_zero _ _ _ _).mp hret
  rw [← hsame, checkSetOptLoop_needForward haccepted, lastVerdict_append, hverdict]
  rfl

/-- **When the order of the assignments does not matter.** For a list that is accepted, the result is
the same for every order, and a statement with an assignment that would be forwarded on its own is
forwarded, if and only if the assignments agree. -/
theorem setOpt_orderIndependent_iff {env : ForwardEnv} (hmode : env.metadataNormalized = false)
    {varList : List SetVarBase} {needForward : Bool} {setFlag : UInt32}
    (haccept : (ctcCheckSetOpt env varList needForward setFlag).ret = 0) :
    OrderIndependent env varList needForward setFlag ↔
      VerdictsAgree env varList needForward := by
  rw [ctcCheckSetOpt_eq hmode] at haccept
  have haccepted := (checkSetOptLoop_ret_eq_zero _ _ _ _).mp haccept
  have hresult : (ctcCheckSetOpt env varList needForward setFlag).needForward =
      lastVerdict env varList needForward := by
    rw [ctcCheckSetOpt_eq hmode, checkSetOptLoop_needForward haccepted]
  have hadmissible : ∀ var ∈ varList, Admissible env var := by
    intro var hvar
    obtain ⟨front, rest, heq⟩ := List.append_of_mem hvar
    exact (accepted_iff.mp haccepted front var rest heq).1
  constructor
  · intro h
    refine ⟨fun var hvar var' hvar' b b' hb hb' => ?_, fun hon var hvar var' hvar' hnone hoff => ?_⟩
    · rw [← h.last hmode hvar hb, ← h.last hmode hvar' hb']
    · have hsingle := ctcCheckSetOpt_single hmode (hadmissible var hvar) needForward setFlag
      rw [hnone, hon] at hsingle
      rw [← hon] at hsingle
      have htrue := h.single var hvar (hsingle.trans hon)
      rw [h.last hmode hvar' hoff] at htrue
      cases htrue
  · intro h
    refine ⟨fun varList' hperm => ?_, fun var hvar hsingle => ?_⟩
    · have haccepted' := h.accepted haccepted hperm
      rw [hresult, ctcCheckSetOpt_eq hmode]
      refine ⟨(checkSetOptLoop_ret_eq_zero _ _ _ _).mpr haccepted', ?_⟩
      rw [checkSetOptLoop_needForward haccepted', h.lastVerdict_eq hperm]
    · rw [ctcCheckSetOpt_single hmode (hadmissible var hvar)] at hsingle
      rw [hresult, h.lastVerdict_of_single hvar hsingle]

/-- A node with MySQL 8.0.26, without normalised metadata. -/
def forwardEnv : ForwardEnv := ⟨.v26, false, false, none, none⟩

/-- `SET GLOBAL name = 5`. -/
def setGlobal (name : String) : SetVarBase :=
  .system ⟨some ⟨false, true⟩, name.toList, none, .global,
    some ⟨false, .other, some "5".toList, 5, .int, some "5".toList⟩⟩

/-- A user variable behind a global one keeps the statement from being forwarded. -/
theorem setOpt_last_assignment_decides :
    let userVar := SetVarBase.user "@a:=1".toList true
    let global := setGlobal "long_query_time"
    ctcCheckSetOpt forwardEnv [global, userVar] true 0 = ⟨0, false, 0⟩ ∧
      ctcCheckSetOpt forwardEnv [userVar, global] true 0 = ⟨0, true, 0⟩ ∧
      ¬ OrderIndependent forwardEnv [global, userVar] true 0 := by
  intro userVar global
  have hlast : ctcCheckSetOpt forwardEnv [global, userVar] true 0 = ⟨0, false, 0⟩ := rfl
  have hfirst : ctcCheckSetOpt forwardEnv [userVar, global] true 0 = ⟨0, true, 0⟩ := rfl
  refine ⟨hlast, hfirst, fun h => ?_⟩
  have hsame := (h.perm [userVar, global] (List.Perm.swap _ _ _)).2
  rw [hlast, hfirst] at hsame
  cases hsame

theorem setOpt_orderIndependent_two_globals :
    OrderIndependent forwardEnv [setGlobal "long_query_time", setGlobal "wait_timeout"] true 0 := by
  have hverdict : ∀ var ∈ [setGlobal "long_query_time", setGlobal "wait_timeout"],
      verdict forwardEnv var = some true := by
    intro var hvar
    rcases List.mem_cons.mp hvar with rfl | hvar
    · rfl
    · rw [List.mem_singleton.mp hvar]
      rfl
  refine (setOpt_orderIndependent_iff rfl rfl).mpr ⟨?_, ?_⟩
  · intro var hvar var' hvar' b b' hb hb'
    rw [hverdict var hvar] at hb
    rw [hverdict var' hvar'] at hb'
    exact Option.some.inj (hb.symm.trans hb')
  · intro _ var hvar _ _ hnone
    rw [hverdict var hvar] at hnone
    cases hnone

end CantianConnector.Ddl
