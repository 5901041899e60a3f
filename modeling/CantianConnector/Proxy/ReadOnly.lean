import CantianConnector.Lib.Machine
import Mathlib.Logic.Function.Basic

/-!
# The cluster role and the read-only flags

On a standby cluster the read-only flags of the server are set. `ctc_mysql_query` resets them while
it runs a statement and sets them again behind it, each time after a look at the role; the role is
changed by `ctc_set_cluster_role_by_cantian`, whose mutex the queries do not take. The flags follow
the role as long as no query sets them after its role has gone (`readOnly_follows_role`).
-/

namespace CantianConnector.Proxy

/-- `dis_cluster_role`. -/
inductive ClusterRole
  | default
  | primary
  | standby
  | clusterNotReady
deriving DecidableEq, Repr

/-- `ctc_cluster_role` and the flags of the server. -/
structure NodeState where
  ctcClusterRole : ClusterRole
  superReadOnly : Bool
  readOnly : Bool
  optReadonly : Bool
deriving DecidableEq, Repr

/-- `ctc_set_mysql_read_only`. -/
def ctcSetMysqlReadOnly (node : NodeState) : NodeState :=
  { node with superReadOnly := true, readOnly := true, optReadonly := true }

/-- `ctc_reset_mysql_read_only`. -/
def ctcResetMysqlReadOnly (node : NodeState) : NodeState :=
  { node with superReadOnly := false, readOnly := false, optReadonly := false }

/-- The role that a call for `is_slave` writes. -/
def roleFor (isSlave : Bool) : ClusterRole := if isSlave then .standby else .primary

/-- `ctc_get_cluster_role`. A role that is not known yet is asked for: `answer` is `is_slave` of a
cluster that is ready. -/
def ctcGetClusterRole (answer : Option Bool) (node : NodeState) : ClusterRole × NodeState :=
  if node.ctcClusterRole = .primary ∨ node.ctcClusterRole = .standby then
    (node.ctcClusterRole, node)
  else
    match answer with
    | none => (.clusterNotReady, { node with ctcClusterRole := .clusterNotReady })
    | some isSlave =>
      let node' :=
        if isSlave then ctcSetMysqlReadOnly node
        else if node.ctcClusterRole = .standby then ctcResetMysqlReadOnly node
        else node
      (roleFor isSlave, { node' with ctcClusterRole := roleFor isSlave })

/-- The flags are those of the role. -/
def NodeState.Agrees (node : NodeState) : Prop :=
  node.superReadOnly = true ↔ node.ctcClusterRole = .standby

/-! ## Queries and calls for another role -/

/-- What a call of `ctc_mysql_query` does next. -/
inductive QueryPos
  | idle
  | mustReset
  | mustQuery
  | mustReadAgain
  | mustSet
deriving DecidableEq, Repr

/-- The node, the call of `ctc_set_cluster_role_by_cantian` that has written the role and not yet
the flags, and the queries of the threads. -/
structure RoleState (T : Type) where
  node : NodeState
  changing : Option Bool
  pos : T → QueryPos

/-- The steps of the calls. -/
inductive RoleAction (T : Type)
  | readRole (t : T) (answer : Option Bool)
  | resetReadOnly (t : T)
  | runQuery (t : T)
  | readRoleAgain (t : T) (answer : Option Bool)
  | setReadOnly (t : T)
  | writeRole (isSlave : Bool)
  | writeFlags
deriving DecidableEq, Repr

variable {T : Type}

def RoleState.move [DecidableEq T] (s : RoleState T) (t : T) (p : QueryPos) : RoleState T :=
  { s with pos := Function.update s.pos t p }

def RoleState.setNode (s : RoleState T) (node : NodeState) : RoleState T := { s with node := node }

/-- One step. A step that is not the next one of its call changes nothing. -/
def roleStep [DecidableEq T] (s : RoleState T) : RoleAction T → RoleState T
  | .readRole t answer =>
    if s.pos t = .idle then
      let got := ctcGetClusterRole answer s.node
      (s.setNode got.2).move t (if got.1 = .standby then .mustReset else .mustQuery)
    else s
  | .resetReadOnly t =>
    if s.pos t = .mustReset then (s.setNode (ctcResetMysqlReadOnly s.node)).move t .mustQuery
    else s
  | .runQuery t => if s.pos t = .mustQuery then s.move t .mustReadAgain else s
  | .readRoleAgain t answer =>
    if s.pos t = .mustReadAgain then
      let got := ctcGetClusterRole answer s.node
      (s.setNode got.2).move t (if got.1 = .standby then .mustSet else .idle)
    else s
  | .setReadOnly t =>
    if s.pos t = .mustSet then (s.setNode (ctcSetMysqlReadOnly s.node)).move t .idle else s
  | .writeRole isSlave =>
    -- one call at a time holds `m_ctc_mysql_proxy_mutex`
    if s.changing = none then
      { s with
        node := { s.node with ctcClusterRole := roleFor isSlave }
        changing := some isSlave }
    else s
  | .writeFlags =>
    match s.changing with
    | none => s
    | some isSlave =>
      { s with
        node := if isSlave then ctcSetMysqlReadOnly s.node else ctcResetMysqlReadOnly s.node
        changing := none }

/-- No query and no call for another role is in progress. -/
def RoleState.Quiet (s : RoleState T) : Prop := s.changing = none ∧ ∀ t, s.pos t = .idle

/-- A query that sets the flags does so while the role is `STANDBY`, or before a call for another
role has written the flags. -/
def SetsInTime (s : RoleState T) : RoleAction T → Prop
  | .setReadOnly t => s.pos t = .mustSet → s.changing ≠ none ∨ s.node.ctcClusterRole = .standby
  | _ => True

/-! ## The invariant -/

/-- The query looks at the role again, or is about to set the flags. -/
def QueryPos.WillLook : QueryPos → Prop
  | .idle | .mustReset => False
  | .mustQuery | .mustReadAgain | .mustSet => True

/-- No call for another role is in progress: the flags are set on a standby only, and they are reset
on a standby only under a query that looks at the role again. -/
structure Settled (node : NodeState) (pos : T → QueryPos) : Prop where
  standby : node.superReadOnly = true → node.ctcClusterRole = .standby
  owed : node.ctcClusterRole = .standby → node.superReadOnly = false → ∃ t, (pos t).WillLook

/-- The invariant of the runs. -/
structure FollowsRole (s : RoleState T) : Prop where
  changing : ∀ isSlave, s.changing = some isSlave → s.node.ctcClusterRole = roleFor isSlave
  settled : s.changing = none → Settled s.node s.pos

theorem roleFor_known (isSlave : Bool) :
    roleFor isSlave = .primary ∨ roleFor isSlave = .standby := by
  cases isSlave
  · exact .inl rfl
  · exact .inr rfl

theorem ctcGetClusterRole_of_known {node : NodeState} (answer : Option Bool)
    (hknown : node.ctcClusterRole = .primary ∨ node.ctcClusterRole = .standby) :
    ctcGetClusterRole answer node = (node.ctcClusterRole, node) := if_pos hknown

theorem ctcGetClusterRole_fst (answer : Option Bool) (node : NodeState) :
    (ctcGetClusterRole answer node).1 = (ctcGetClusterRole answer node).2.ctcClusterRole := by
  unfold ctcGetClusterRole
  split
  · rfl
  · cases answer <;> rfl

theorem Settled.of_standby {node : NodeState} (pos : T → QueryPos)
    (hrole : node.ctcClusterRole = .standby) (hset : node.superReadOnly = true) :
    Settled node pos := by
  refine ⟨fun _ => hrole, fun _ hreset => ?_⟩
  rw [hset] at hreset
  cases hreset

theorem Settled.of_ne {node : NodeState} (pos : T → QueryPos)
    (hrole : node.ctcClusterRole ≠ .standby) (hset : node.superReadOnly ≠ true) :
    Settled node pos :=
  ⟨fun h => absurd h hset, fun h _ => absurd h hrole⟩

/-- A role that is asked for comes with its flags. -/
theorem Settled.getRole {node : NodeState} {pos : T → QueryPos} (h : Settled node pos)
    (answer : Option Bool) : Settled (ctcGetClusterRole answer node).2 pos := by
  unfold ctcGetClusterRole
  split
  case isTrue => exact h
  case isFalse hunknown =>
    have hstandby : node.ctcClusterRole ≠ .standby := fun heq => hunknown (.inr heq)
    have hreset : node.superReadOnly ≠ true := fun hset => hstandby (h.standby hset)
    cases answer with
    | none => exact .of_ne pos ClusterRole.noConfusion hreset
    | some isSlave =>
      cases isSlave with
      | true => exact .of_standby pos rfl rfl
      | false =>
        dsimp only
        rw [if_neg Bool.false_ne_true, if_neg hstandby]
        exact .of_ne pos ClusterRole.noConfusion hreset

theorem FollowsRole.getRole {s : RoleState T} (h : FollowsRole s) (answer : Option Bool) :
    FollowsRole (s.setNode (ctcGetClusterRole answer s.node).2) where
  changing isSlave hchanging := by
    have hrole := h.changing isSlave hchanging
    have hknown := roleFor_known isSlave
    rw [← hrole] at hknown
    dsimp only [RoleState.setNode]
    rw [ctcGetClusterRole_of_known answer hknown]
    exact hrole
  settled hnone := (h.settled hnone).getRole answer

/-- A query moves on. It may forget the flags where they are those of the role. -/
theorem FollowsRole.move [DecidableEq T] {s : RoleState T} (h : FollowsRole s) (t : T) {p : QueryPos}
    (hkeeps : (s.pos t).WillLook → p.WillLook ∨ s.node.ctcClusterRole ≠ .standby) :
    FollowsRole (s.move t p) where
  changing := h.changing
  settled hnone := by
    refine ⟨(h.settled hnone).standby, fun hrole hreset => ?_⟩
    obtain ⟨u, hu⟩ := (h.settled hnone).owed hrole hreset
    by_cases heq : u = t
    · subst heq
      refine ⟨u, ?_⟩
      dsimp only [RoleState.move]
      rw [Function.update_self]
      exact (hkeeps hu).resolve_right fun hne => hne hrole
    · refine ⟨u, ?_⟩
      dsimp only [RoleState.move]
      rw [Function.update_of_ne heq]
      exact hu

theorem FollowsRole.resetReadOnly [DecidableEq T] {s : RoleState T} (h : FollowsRole s) (t : T) :
    FollowsRole ((s.setNode (ctcResetMysqlReadOnly s.node)).move t .mustQuery) where
  changing := h.changing
  settled _ := by
    refine ⟨fun hset => absurd hset Bool.false_ne_true, fun _ _ => ⟨t, ?_⟩⟩
    dsimp only [RoleState.move]
    rw [Function.update_self]
    trivial

theorem FollowsRole.setReadOnly [DecidableEq T] {s : RoleState T} (h : FollowsRole s) (t : T)
    (hintime : s.changing ≠ none ∨ s.node.ctcClusterRole = .standby) :
    FollowsRole ((s.setNode (ctcSetMysqlReadOnly s.node)).move t .idle) where
  changing := h.changing
  settled hnone := .of_standby _ (hintime.resolve_left fun hne => hne hnone) rfl

theorem FollowsRole.writeFlags {s : RoleState T} (h : FollowsRole s) {isSlave : Bool}
    (hchanging : s.changing = some isSlave) :
    FollowsRole { s with
      node := if isSlave then ctcSetMysqlReadOnly s.node else ctcResetMysqlReadOnly s.node
      changing := none } where
  changing _ hsome := by cases hsome
  settled _ := by
    have hrole := h.changing isSlave hchanging
    cases isSlave with
    | true => exact .of_standby _ hrole rfl
    | false =>
      refine .of_ne _ (fun hstandby => ?_) Bool.false_ne_true
      cases hrole.symm.trans hstandby

/-- The invariant, step by step. -/
theorem FollowsRole.step [DecidableEq T] {s : RoleState T} (h : FollowsRole s) (action : RoleAction T)
    (hintime : SetsInTime s action) : FollowsRole (roleStep s action) := by
  cases action with
  | readRole t answer =>
    rw [roleStep]
    split
    case isTrue hidle =>
      refine (h.getRole answer).move t fun hlook => ?_
      dsimp only [RoleState.setNode] at hlook
      rw [hidle] at hlook
      exact hlook.elim
    case isFalse => exact h
  | resetReadOnly t =>
    rw [roleStep]
    split
    · exact h.resetReadOnly t
    · exact h
  | runQuery t =>
    rw [roleStep]
    split
    · exact h.move t fun _ => .inl trivial
    · exact h
  | readRoleAgain t answer =>
    rw [roleStep]
    split
    case isTrue =>
      refine (h.getRole answer).move t fun _ => ?_
      split
      case isTrue => exact .inl trivial
      case isFalse hrole =>
        rw [ctcGetClusterRole_fst] at hrole
        exact .inr hrole
    case isFalse => exact h
  | setReadOnly t =>
    rw [roleStep]
    split
    case isTrue hset => exact h.setReadOnly t (hintime hset)
    case isFalse => exact h
  | writeRole isSlave =>
    rw [roleStep]
    split
    case isTrue =>
      refine ⟨fun isSlave' hsome => ?_, fun hnone => by cases hnone⟩
      exact congrArg roleFor (Option.some.inj hsome)
    case isFalse => exact h
  | writeFlags =>
    rw [roleStep]
    split
    case h_1 => exact h
    case h_2 isSlave hchanging => exact h.writeFlags hchanging

/-- The flags are right when nothing is in progress. -/
theorem FollowsRole.agrees {s : RoleState T} (h : FollowsRole s) (hquiet : s.Quiet) :
    s.node.Agrees := by
  obtain ⟨hnone, hidle⟩ := hquiet
  have hsettled := h.settled hnone
  refine ⟨hsettled.standby, fun hrole => ?_⟩
  by_contra hset
  obtain ⟨t, ht⟩ := hsettled.owed hrole (Bool.eq_false_iff.mpr hset)
  rw [hidle t] at ht
  exact ht

theorem FollowsRole.of_agrees {s : RoleState T} (hquiet : s.Quiet) (hagrees : s.node.Agrees) :
    FollowsRole s where
  changing isSlave hsome := by
    rw [hquiet.1] at hsome
    cases hsome
  settled _ := by
    refine ⟨hagrees.mp, fun hrole hreset => ?_⟩
    rw [hagrees.mpr hrole] at hreset
    cases hreset

/-- The condition is needed: a query that sets the flags too late sets them against the role. -/
theorem setsInTime_of_agrees [DecidableEq T] {s : RoleState T} {action : RoleAction T}
    (hagrees : s.changing = none → (roleStep s action).node.Agrees) : SetsInTime s action := by
  cases action with
  | setReadOnly t =>
    intro hset
    by_cases hnone : s.changing = none
    · have hrole := hagrees hnone
      rw [roleStep, if_pos hset] at hrole
      exact .inr (hrole.mp rfl)
    · exact .inl hnone
  | _ => trivial

/-! ## Runs -/

/-- **The flags follow the role.** In a run in which every query that sets the flags does so in
time, the flags are those of the role whenever nothing is in progress. -/
theorem readOnly_follows_role [DecidableEq T] {s : RoleState T} (hquiet : s.Quiet)
    (hagrees : s.node.Agrees) {actions : List (RoleAction T)}
    (hRun : Machine.Guarded roleStep SetsInTime s actions) (k : Nat)
    (hquiet' : ((actions.take k).foldl roleStep s).Quiet) :
    ((actions.take k).foldl roleStep s).node.Agrees := by
  have hStep : ∀ (s : RoleState T) action, FollowsRole s → SetsInTime s action →
      FollowsRole (roleStep s action) := fun _ action h hintime => h.step action hintime
  have hInit : FollowsRole s := .of_agrees hquiet hagrees
  exact (Machine.invariant_of_guarded hStep hInit hRun k).agrees hquiet'

/-- A standby on which nothing is in progress. -/
def standbyNode (T : Type) : RoleState T := ⟨⟨.standby, true, true, true⟩, none, fun _ => .idle⟩

/-- A query on a standby, up to its second look at the role, and what comes behind it. -/
def queryThen (actions : List (RoleAction Unit)) : List (RoleAction Unit) :=
  [.readRole () none, .resetReadOnly (), .runQuery (), .readRoleAgain () none] ++ actions

theorem readOnly_follows_role_query :
    (((queryThen [.setReadOnly (), .writeRole false, .writeFlags]).take 7).foldl roleStep
      (standbyNode Unit)).node.Agrees := by
  have hRun : Machine.Guarded roleStep SetsInTime (standbyNode Unit)
      (queryThen [.setReadOnly (), .writeRole false, .writeFlags]) :=
    ⟨trivial, trivial, trivial, trivial, fun _ => .inr rfl, trivial, trivial, trivial⟩
  exact readOnly_follows_role ⟨rfl, fun _ => rfl⟩ (iff_of_true rfl rfl) hRun 7 ⟨rfl, fun _ => rfl⟩

/-- The query sets the flags after its node has become the primary one, and nothing resets them. -/
theorem query_sets_readOnly_of_primary :
    let s := (queryThen [.writeRole false, .writeFlags, .setReadOnly ()]).foldl roleStep
      (standbyNode Unit)
    (standbyNode Unit).Quiet ∧ (standbyNode Unit).node.Agrees ∧ s.Quiet ∧
      s.node = ⟨.primary, true, true, true⟩ ∧ ¬ s.node.Agrees := by
  intro s
  have hnode : s.node = ⟨.primary, true, true, true⟩ := rfl
  refine ⟨⟨rfl, fun _ => rfl⟩, iff_of_true rfl rfl, ⟨rfl, fun _ => rfl⟩, hnode, fun h => ?_⟩
  rw [hnode] at h
  cases h.mp rfl

end CantianConnector.Proxy
