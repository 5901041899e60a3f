import CantianConnector.Proxy.Model

/-!
# What `ctc_init_mysql_client` can do

It finds a connection, or it opens handles, of which at most one stays open and gets an entry. In
front of that it may drop the entry of a connection whose database cannot be selected.
-/

namespace CantianConnector.Proxy

/-! ## Handles that come and go -/

/-- Handles have been opened, and those that are not in `live` have been closed again. -/
structure Grown (s s' : ProxyState) (live : List Nat) : Prop where
  connMap : s'.connMap = s.connMap
  gNameLocks : s'.gNameLocks = s.gNameLocks
  opened : s.opened ≤ s'.opened
  isNew : ∀ conn ∈ live, s.opened ≤ conn ∧ conn < s'.opened
  closed : ∃ news : List Nat, s'.closed = s.closed ++ news ∧ news.Nodup ∧
    ∀ conn, conn ∈ news ↔ s.opened ≤ conn ∧ conn < s'.opened ∧ conn ∉ live
  old : ∀ conn, conn < s.opened ∨ s'.opened ≤ conn → s'.sessions conn = s.sessions conn
  new : ∀ conn, s.opened ≤ conn → conn < s'.opened → s'.sessions conn = .init

theorem Grown.refl (s : ProxyState) : Grown s s [] where
  connMap := rfl
  gNameLocks := rfl
  opened := Nat.le_refl _
  isNew conn h := absurd h List.not_mem_nil
  closed := by
    refine ⟨[], by simp, List.nodup_nil, fun conn => iff_of_false List.not_mem_nil ?_⟩
    omega
  old _ _ := rfl
  new conn hle hlt := absurd hlt (Nat.not_lt_of_le hle)

/-- One handle more. -/
theorem Grown.openConn {s s' : ProxyState} {live : List Nat} (h : Grown s s' live) :
    Grown s s'.openConn.2 (s'.openConn.1 :: live) where
  connMap := h.connMap
  gNameLocks := h.gNameLocks
  opened := Nat.le_succ_of_le h.opened
  isNew conn hconn := by
    rcases List.mem_cons.mp hconn with rfl | hconn
    · exact ⟨h.opened, Nat.lt_succ_self _⟩
    · exact (h.isNew conn hconn).imp_right Nat.lt_succ_of_lt
  closed := by
    obtain ⟨news, hclosed, hnodup, hmem⟩ := h.closed
    refine ⟨news, hclosed, hnodup, fun conn => ?_⟩
    dsimp only [ProxyState.openConn]
    rw [hmem, List.mem_cons, not_or]
    constructor
    · rintro ⟨hle, hlt, hnot⟩
      exact ⟨hle, Nat.lt_succ_of_lt hlt, Nat.ne_of_lt hlt, hnot⟩
    · rintro ⟨hle, hlt, hne, hnot⟩
      exact ⟨hle, by omega, hnot⟩
  old conn hconn := by
    dsimp only [ProxyState.openConn] at hconn ⊢
    have hgrown := h.opened
    rw [Function.update_of_ne (by omega)]
    exact h.old conn (by omega)
  new conn hle hlt := by
    dsimp only [ProxyState.openConn] at hlt ⊢
    by_cases hconn : conn = s'.opened
    · rw [hconn, Function.update_self]
    · rw [Function.update_of_ne hconn]
      exact h.new conn hle (by omega)

/-- A handle that is open is closed again. -/
theorem Grown.closeConn {s s' : ProxyState} {live live' : List Nat} {conn : Nat}
    (h : Grown s s' live) (hconn : conn ∈ live)
    (hlive : ∀ other, other ∈ live' ↔ other ∈ live ∧ other ≠ conn) :
    Grown s (s'.closeConn conn) live' where
  connMap := h.connMap
  gNameLocks := h.gNameLocks
  opened := h.opened
  isNew other hother := h.isNew other ((hlive other).mp hother).1
  closed := by
    obtain ⟨news, hclosed, hnodup, hmem⟩ := h.closed
    have hnew := h.isNew conn hconn
    refine ⟨news ++ [conn], ?_, ?_, ?_⟩
    · rw [ProxyState.closeConn, hclosed, List.append_assoc]
    · refine List.nodup_append.mpr ⟨hnodup, List.nodup_singleton _, ?_⟩
      rintro other hother _ hlast rfl
      rw [List.mem_singleton.mp hlast] at hother
      exact ((hmem conn).mp hother).2.2 hconn
    · intro other
      dsimp only [ProxyState.closeConn]
      rw [List.mem_append, List.mem_singleton, hmem, hlive]
      by_cases hsame : other = conn
      · subst hsame
        simp [hnew]
      · simp [hsame]
  old other hother := by
    dsimp only [ProxyState.closeConn] at hother ⊢
    have hnew := h.isNew conn hconn
    rw [Function.update_of_ne (by omega)]
    exact h.old other hother
  new other hle hlt := by
    dsimp only [ProxyState.closeConn] at hlt ⊢
    by_cases hsame : other = conn
    · rw [hsame, Function.update_self]
    · rw [Function.update_of_ne hsame]
      exact h.new other hle hlt

/-- The only handle that is open is closed again. -/
theorem Grown.closeLast {s s' : ProxyState} {conn : Nat} (h : Grown s s' [conn]) :
    Grown s (s'.closeConn conn) [] := by
  refine h.closeConn (List.mem_singleton.mpr rfl) fun other => ?_
  simp

/-! ## The client -/

/-- The handle that a result stands for. -/
def liveOf : Except ClientError Nat → List Nat
  | .error _ => []
  | .ok conn => [conn]

theorem ctcInitAgentClient_grown (answers : ClientAnswers) (s : ProxyState) :
    Grown s (ctcInitAgentClient answers s).2 (liveOf (ctcInitAgentClient answers s).1) := by
  unfold ctcInitAgentClient
  cases answers.initAgent with
  | some error => exact Grown.refl s
  | none => exact (Grown.refl s).openConn

theorem ctcInitProxyClient_grown (answers : ClientAnswers) (s : ProxyState) :
    Grown s (ctcInitProxyClient answers s).2 (liveOf (ctcInitProxyClient answers s).1) := by
  have hagent := ctcInitAgentClient_grown answers s
  unfold ctcInitProxyClient
  generalize ctcInitAgentClient answers s = agent at hagent
  obtain ⟨result, s'⟩ := agent
  cases result with
  | error error => exact hagent
  | ok agentConn =>
    dsimp only [liveOf] at hagent ⊢
    cases answers.createUser with
    | some error => exact hagent.closeLast
    | none =>
      cases answers.initProxy with
      | some error => exact hagent.closeLast
      | none =>
        have hopened : agentConn < s'.opened := (hagent.isNew _ (List.mem_singleton.mpr rfl)).2
        refine hagent.openConn.closeConn (List.mem_cons_of_mem _ (List.mem_singleton.mpr rfl)) ?_
        intro other
        dsimp only [liveOf, ProxyState.openConn]
        rw [List.mem_singleton, List.mem_cons, List.mem_singleton]
        omega

/-- The state that `ctc_init_mysql_client` returns: nothing has stayed open, or the connection has
a new entry. -/
inductive NewClient (key : UInt64) (s : ProxyState) : Except ClientError Nat → ProxyState → Prop
  | failed (error : ClientError) {s' : ProxyState} (hgrown : Grown s s' []) :
    NewClient key s (.error error) s'
  | registered {conn : Nat} {s' : ProxyState} (hgrown : Grown s s' [conn]) :
    NewClient key s (.ok conn) (s'.setInfo key (initCtcMysqlConn conn))

theorem initNewMysqlClient_spec (key : UInt64) (db : String) (useProxy : Bool)
    (answers : ClientAnswers) (s : ProxyState) :
    NewClient key s (initNewMysqlClient key db useProxy answers s).1
      (initNewMysqlClient key db useProxy answers s).2 := by
  have hclient : Grown s
      (if useProxy then ctcInitProxyClient answers s else ctcInitAgentClient answers s).2
      (liveOf (if useProxy then ctcInitProxyClient answers s
        else ctcInitAgentClient answers s).1) := by
    cases useProxy with
    | true => exact ctcInitProxyClient_grown answers s
    | false => exact ctcInitAgentClient_grown answers s
  unfold initNewMysqlClient
  generalize (if useProxy then ctcInitProxyClient answers s
    else ctcInitAgentClient answers s) = client at hclient
  obtain ⟨result, s'⟩ := client
  cases result with
  | error error => exact .failed error hclient
  | ok conn =>
    dsimp only [liveOf] at hclient ⊢
    cases ctcSelectDb db answers.selectNewDb with
    | some error => exact .failed error hclient.closeLast
    | none => exact .registered hclient

/-- What `ctc_init_mysql_client` can do. -/
inductive ClientEnds (key : UInt64) (db : String) (answers : ClientAnswers) (s : ProxyState) :
    Except ClientError Nat → ProxyState → Prop
  | kept {info : ConnInfo} (hlookup : s.connMap.lookup key = some info)
      (hselect : ctcSelectDb db answers.selectDb = none) :
    ClientEnds key db answers s (.ok info.conn) s
  | fresh {result : Except ClientError Nat} {s' : ProxyState}
      (hlookup : s.connMap.lookup key = none) (hnew : NewClient key s result s') :
    ClientEnds key db answers s result s'
  | reconnected {info : ConnInfo} {result : Except ClientError Nat} {s' : ProxyState}
      (hlookup : s.connMap.lookup key = some info)
      (hselect : ctcSelectDb db answers.selectDb ≠ none)
      (hnew : NewClient key (s.dropConn key info) result s') :
    ClientEnds key db answers s result s'

theorem ctcInitMysqlClient_spec (cfg : Config) (key : UInt64) (db userName : String)
    (useProxy : Bool) (answers : ClientAnswers) (s : ProxyState) :
    ClientEnds key db answers s (ctcInitMysqlClient cfg key db userName useProxy answers s).1
      (ctcInitMysqlClient cfg key db userName useProxy answers s).2 := by
  unfold ctcInitMysqlClient
  dsimp only
  cases hlookup : s.connMap.lookup key with
  | none => exact .fresh hlookup (initNewMysqlClient_spec _ _ _ _ _)
  | some info =>
    dsimp only
    cases hselect : ctcSelectDb db answers.selectDb with
    | none => exact .kept hlookup hselect
    | some error =>
      refine .reconnected hlookup (by rw [hselect]; nofun) ?_
      exact initNewMysqlClient_spec _ _ _ _ _

/-- The connection that is returned is the one of the entry. -/
theorem ClientEnds.lookup {key : UInt64} {db : String} {answers : ClientAnswers}
    {s s' : ProxyState} {conn : Nat} (h : ClientEnds key db answers s (.ok conn) s') :
    ∃ info, s'.connMap.lookup key = some info ∧ info.conn = conn := by
  cases h with
  | kept hlookup _ => exact ⟨_, hlookup, rfl⟩
  | fresh _ hnew =>
    cases hnew with
    | registered _ => exact ⟨_, AList.lookup_insert _, rfl⟩
  | reconnected _ _ hnew =>
    cases hnew with
    | registered _ => exact ⟨_, AList.lookup_insert _, rfl⟩

/-! ## When there is a connection -/

/-- A new connection can be had. -/
def NewClientOpens (db : String) (useProxy : Bool) (answers : ClientAnswers) : Prop :=
  answers.initAgent = none ∧
    (useProxy = true → answers.createUser = none ∧ answers.initProxy = none) ∧
    ctcSelectDb db answers.selectNewDb = none

/-- The connection of the entry can be used, or a new one can be had. -/
def ClientOpens (cfg : Config) (key : UInt64) (db userName : String) (useProxy : Bool)
    (answers : ClientAnswers) (s : ProxyState) : Prop :=
  ((s.connMap.lookup key).isSome = true ∧ ctcSelectDb db answers.selectDb = none) ∨
    NewClientOpens db (if cfg.optNoacl && userName = "skip-grants user" then false else useProxy)
      answers

theorem initNewMysqlClient_ok_iff (key : UInt64) (db : String) (useProxy : Bool)
    (answers : ClientAnswers) (s : ProxyState) :
    (∃ conn, (initNewMysqlClient key db useProxy answers s).1 = .ok conn) ↔
      NewClientOpens db useProxy answers := by
  unfold initNewMysqlClient NewClientOpens ctcInitProxyClient ctcInitAgentClient
  cases hagent : answers.initAgent with
  | some error => cases useProxy <;> simp
  | none =>
    cases useProxy with
    | false => cases hselect : ctcSelectDb db answers.selectNewDb <;> simp
    | true =>
      cases huser : answers.createUser with
      | some error => simp
      | none =>
        cases hproxy : answers.initProxy with
        | some error => simp
        | none => cases hselect : ctcSelectDb db answers.selectNewDb <;> simp

theorem ctcInitMysqlClient_ok_iff (cfg : Config) (key : UInt64) (db userName : String)
    (useProxy : Bool) (answers : ClientAnswers) (s : ProxyState) :
    (∃ conn, (ctcInitMysqlClient cfg key db userName useProxy answers s).1 = .ok conn) ↔
      ClientOpens cfg key db userName useProxy answers s := by
  unfold ctcInitMysqlClient ClientOpens
  dsimp only
  cases hlookup : s.connMap.lookup key with
  | none =>
    rw [initNewMysqlClient_ok_iff]
    simp
  | some info =>
    dsimp only
    cases hselect : ctcSelectDb db answers.selectDb with
    | none => simp
    | some error =>
      rw [initNewMysqlClient_ok_iff]
      simp

end CantianConnector.Proxy
