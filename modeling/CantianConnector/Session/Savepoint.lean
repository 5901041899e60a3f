import CantianConnector.Convert.Result
import CantianConnector.Lib.Machine
import Mathlib.Data.List.Nodup
import Mathlib.Tactic.Ring

/-!
# Savepoints

The server knows a savepoint by the address of its memory, the engine by a name. The three functions
name a savepoint by its address in base 36. When the server creates a savepoint again, it first
releases the old one at the same address; that release is not passed on, since the engine would drop
every later savepoint with it, and the engine replaces a savepoint of the same name by itself.

`rollback_restores` compares the engine with the transaction that the server has in mind: a rollback
to a savepoint finds it in the engine and restores the data of the time when it was set, whichever
requests have failed before. The engine is a parameter; `Lawful` says what is relied on.
-/

namespace CantianConnector.Session.Savepoint

/-! ## Names -/

/-- `_dig_vec_upper`. -/
def digVecUpper : List Char := "0123456789ABCDEFGHIJKLMNOPQRSTUVWXYZ".toList

/-- `BASE36`. -/
def base36 : Nat := 36

/-- `MAX_SAVEPOINT_NAME_LEN`. -/
def maxSavepointNameLen : Nat := 64

/-- `SMALL_RECORD_SIZE`, the size of `req->name`. -/
def savepointNameSize : Nat := 128

/-- The digits of `longlong2str`, from the last one on; the number has at most `fuel` of them. -/
def longlong2strFrom : Nat → Nat → List Char → List Char
  | 0, _, text => text
  | fuel + 1, val, text =>
    let text := digVecUpper.getD (val % base36) '0' :: text
    if val / base36 = 0 then text else longlong2strFrom fuel (val / base36) text

/-- `longlong2str` to the radix 36. -/
def longlong2str (val : UInt64) : List Char := longlong2strFrom maxSavepointNameLen val.toNat []

/-- `CTC_SQL_START_INTERNAL_SAVEPOINT`. -/
def ctcSqlStartInternalSavepoint : List Char := "CTC4CANTIAN_SYS_SV".toList

/-- What `strncpy` leaves in `req->name`. -/
def requestName (name : List Char) : List Char := name.take (savepointNameSize - 1)

/-! ## The engine -/

section

variable {τ η : Type}

/-- The engine, as far as a transaction is concerned; `τ` is its state. A request for a savepoint
returns 0, or what has gone wrong. -/
structure SavepointEngine (τ η : Type) where
  /-- What comes first in a request with `sql_stat_start`. -/
  startStatement : τ → τ
  write : η → τ → τ
  knlSetSavepoint : List Char → τ → Int × τ
  knlRollbackSavepoint : List Char → τ → Int × τ
  knlReleaseSavepoint : List Char → τ → Int × τ
  /-- The data of the transaction. -/
  data : τ → η
  /-- Its savepoints, the last one first, with the data of the time when they were set. -/
  savepoints : τ → List (List Char × η)

namespace SavepointEngine

variable (engine : SavepointEngine τ η)

/-- The transaction looks as before. -/
structure Same (trx trx' : τ) : Prop where
  data : engine.data trx' = engine.data trx
  savepoints : engine.savepoints trx' = engine.savepoints trx

/-- The last savepoint has this name, and no other one has it. -/
structure WasSet (name : List Char) (trx trx' : τ) : Prop where
  data : engine.data trx' = engine.data trx
  savepoints : engine.savepoints trx' =
    (name, engine.data trx) :: (engine.savepoints trx).filter fun sv => sv.1 ≠ name

/-- The savepoint stays; those after it are gone. -/
structure RolledBack (held : η) (name : List Char) (rest : List (List Char × η)) (trx' : τ) :
    Prop where
  data : engine.data trx' = held
  savepoints : engine.savepoints trx' = (name, held) :: rest

/-- The savepoint is gone, and those after it. -/
structure Released (rest : List (List Char × η)) (trx trx' : τ) : Prop where
  data : engine.data trx' = engine.data trx
  savepoints : engine.savepoints trx' = rest

/-- What is relied on. As `ctc_release_savepoint` says of the engine, a new savepoint takes the place
of one with the same name, and the release of a savepoint takes those after it along. A request that
fails changes nothing. -/
structure Lawful : Prop where
  startStatement : ∀ trx,
    engine.WasSet ctcSqlStartInternalSavepoint trx (engine.startStatement trx)
  write_data : ∀ data trx, engine.data (engine.write data trx) = data
  write_savepoints : ∀ data trx, engine.savepoints (engine.write data trx) = engine.savepoints trx
  set : ∀ name trx, (engine.knlSetSavepoint name trx).1 = 0 →
    engine.WasSet name trx (engine.knlSetSavepoint name trx).2
  set_failed : ∀ name trx, (engine.knlSetSavepoint name trx).1 ≠ 0 →
    engine.Same trx (engine.knlSetSavepoint name trx).2
  rollback : ∀ name trx held rest,
    (engine.savepoints trx).dropWhile (fun sv => sv.1 ≠ name) = (name, held) :: rest →
    (engine.knlRollbackSavepoint name trx).1 = 0 →
    engine.RolledBack held name rest (engine.knlRollbackSavepoint name trx).2
  rollback_failed : ∀ name trx, (engine.knlRollbackSavepoint name trx).1 ≠ 0 →
    engine.Same trx (engine.knlRollbackSavepoint name trx).2
  release : ∀ name trx held rest,
    (engine.savepoints trx).dropWhile (fun sv => sv.1 ≠ name) = (name, held) :: rest →
    (engine.knlReleaseSavepoint name trx).1 = 0 →
    engine.Released rest trx (engine.knlReleaseSavepoint name trx).2
  release_failed : ∀ name trx, (engine.knlReleaseSavepoint name trx).1 ≠ 0 →
    engine.Same trx (engine.knlReleaseSavepoint name trx).2

end SavepointEngine

/-! ## The functions -/

/-- The commands of the server that release savepoints. -/
inductive SavepointCommand where
  | savepoint
  | releaseSavepoint
deriving DecidableEq, Repr

/-- What a function returns: `ER_DISALLOWED_OPERATION`, or what the engine has answered. -/
inductive SavepointResult where
  | disallowedOperation
  | answer (ret : Int)
deriving DecidableEq, Repr

variable (engine : SavepointEngine τ η)

/-- `ctc_srv_set_savepoint`. -/
def ctcSrvSetSavepoint (name : List Char) (trx : τ) : Int × τ :=
  engine.knlSetSavepoint (requestName name) trx

/-- `ctc_srv_rollback_savepoint`. -/
def ctcSrvRollbackSavepoint (name : List Char) (trx : τ) : Int × τ :=
  engine.knlRollbackSavepoint (requestName name) trx

/-- `ctc_srv_release_savepoint`. -/
def ctcSrvReleaseSavepoint (name : List Char) (trx : τ) : Int × τ :=
  engine.knlReleaseSavepoint (requestName name) trx

/-- `ctc_set_savepoint`. -/
def ctcSetSavepoint (savepoint : UInt64) (trx : τ) : SavepointResult × τ :=
  let name := longlong2str savepoint
  if name = ctcSqlStartInternalSavepoint then (.disallowedOperation, trx)
  else
    let done := ctcSrvSetSavepoint engine name trx
    (.answer done.1, done.2)

/-- `ctc_rollback_savepoint`. -/
def ctcRollbackSavepoint (savepoint : UInt64) (trx : τ) : SavepointResult × τ :=
  let done := ctcSrvRollbackSavepoint engine (longlong2str savepoint) trx
  (.answer done.1, done.2)

/-- `ctc_release_savepoint`. -/
def ctcReleaseSavepoint (command : SavepointCommand) (savepoint : UInt64) (trx : τ) :
    SavepointResult × τ :=
  if command = .savepoint then (.answer 0, trx)
  else
    let done := ctcSrvReleaseSavepoint engine (longlong2str savepoint) trx
    (.answer done.1, done.2)

/-- `ctc_rollback` for a statement of a transaction; it ignores the answer. -/
def ctcRollbackStatement (sqlStatStart : Bool) (trx : τ) : SavepointResult × τ :=
  if sqlStatStart then (.answer 0, trx)
  else (.answer 0, (ctcSrvRollbackSavepoint engine ctcSqlStartInternalSavepoint trx).2)

/-! ## The server -/

/-- The transaction as the server sees it: its savepoints, the last one first, and the data at the
start of the current statement, once the engine has seen it. -/
structure ServerTrx (η : Type) where
  data : η
  savepoints : List (UInt64 × η)
  statement : Option η

/-- `sql_stat_start`: the engine has not seen the current statement. -/
def ServerTrx.sqlStatStart (trx : ServerTrx η) : Bool := trx.statement.isNone

/-- A transaction on both sides. -/
structure TrxPair (τ η : Type) where
  server : ServerTrx η
  engine : τ

/-- The calls of the server in one transaction. -/
inductive SavepointCall (η : Type) where
  | read
  | write (data : η)
  | rollbackStatement
  | savepoint (savepoint : UInt64)
  | rollbackTo (savepoint : UInt64)
  | release (savepoint : UInt64)

/-- What a successful rollback restores; a failed one changes nothing. -/
def ServerTrx.restored (trx : ServerTrx η) (savepoint : UInt64) (result : SavepointResult) : η :=
  match (trx.savepoints.dropWhile fun sv => sv.1 ≠ savepoint).head? with
  | some sv => if result = .answer 0 then sv.2 else trx.data
  | none => trx.data

/-- The transaction that the server has in mind, once a call has returned `result`. -/
def ServerTrx.step (trx : ServerTrx η) (call : SavepointCall η) (result : SavepointResult) :
    ServerTrx η :=
  match call with
  | .read => { trx with statement := some (trx.statement.getD trx.data) }
  | .write data => { trx with statement := some (trx.statement.getD trx.data), data := data }
  | .rollbackStatement => { trx with data := trx.statement.getD trx.data, statement := none }
  | .savepoint savepoint =>
    -- the old savepoint is taken away first
    let others := trx.savepoints.filter fun sv => sv.1 ≠ savepoint
    { trx with
      savepoints := if result = .answer 0 then (savepoint, trx.data) :: others else others
      statement := none }
  | .rollbackTo savepoint =>
    { data := trx.restored savepoint result
      savepoints := trx.savepoints.dropWhile fun sv => sv.1 ≠ savepoint
      statement := none }
  | .release savepoint =>
    { trx with
      savepoints := (trx.savepoints.dropWhile fun sv => sv.1 ≠ savepoint).tail
      statement := none }

/-- What a request of a statement finds in the engine. -/
def seen (server : ServerTrx η) (trx : τ) : τ :=
  if server.sqlStatStart then engine.startStatement trx else trx

/-- What a call does in the engine, and what it returns. -/
def call (server : ServerTrx η) (trx : τ) : SavepointCall η → SavepointResult × τ
  | .read => (.answer 0, seen engine server trx)
  | .write data => (.answer 0, engine.write data (seen engine server trx))
  | .rollbackStatement => ctcRollbackStatement engine server.sqlStatStart trx
  | .savepoint savepoint =>
    let trx := if server.savepoints.any fun sv => sv.1 = savepoint then
        (ctcReleaseSavepoint engine .savepoint savepoint trx).2
      else trx
    ctcSetSavepoint engine savepoint trx
  | .rollbackTo savepoint => ctcRollbackSavepoint engine savepoint trx
  | .release savepoint => ctcReleaseSavepoint engine .releaseSavepoint savepoint trx

def TrxPair.step (st : TrxPair τ η) (request : SavepointCall η) : TrxPair τ η :=
  let done := call engine st.server st.engine request
  ⟨st.server.step request done.1, done.2⟩

/-- The server names savepoints that it has, and the request that rolls back a statement, whose
answer is not looked at, does not fail. -/
def Proper (st : TrxPair τ η) : SavepointCall η → Prop
  | .rollbackTo savepoint | .release savepoint => savepoint ∈ st.server.savepoints.map Prod.fst
  | .rollbackStatement => st.server.sqlStatStart = false →
    (ctcSrvRollbackSavepoint engine ctcSqlStartInternalSavepoint st.engine).1 = 0
  | _ => True

end

/-! ## Every savepoint has its own name -/

/-- The number that a text to the base 36 denotes, after the number `val`. -/
def valueFrom (val : Nat) (text : List Char) : Nat :=
  text.foldl (fun val c => val * base36 + digVecUpper.idxOf c) val

theorem digVecUpper_table : ∀ d : Fin 36,
    digVecUpper.idxOf (digVecUpper.getD d '0') = d ∧ digVecUpper.getD d '0' ≠ '_' := by
  decide

theorem idxOf_digit (val : Nat) :
    digVecUpper.idxOf (digVecUpper.getD (val % base36) '0') = val % base36 :=
  (digVecUpper_table ⟨val % base36, Nat.mod_lt _ (by decide)⟩).1

theorem digit_ne (val : Nat) : digVecUpper.getD (val % base36) '0' ≠ '_' :=
  (digVecUpper_table ⟨val % base36, Nat.mod_lt _ (by decide)⟩).2

/-- Reading the digits gives the number back. -/
theorem valueFrom_longlong2strFrom (fuel val : Nat) (text : List Char)
    (hval : val < base36 ^ fuel) :
    valueFrom 0 (longlong2strFrom fuel val text) = valueFrom val text := by
  induction fuel generalizing val text with
  | zero =>
    rw [pow_zero, Nat.lt_one_iff] at hval
    rw [hval]
    rfl
  | succ fuel ih =>
    have hdigit : ∀ n, valueFrom n (digVecUpper.getD (val % base36) '0' :: text) =
        valueFrom (n * base36 + val % base36) text := by
      intro n
      show valueFrom (n * base36 + digVecUpper.idxOf _) text = _
      rw [idxOf_digit]
    have hsplit := Nat.div_add_mod' val base36
    unfold longlong2strFrom
    simp only
    split
    · rename_i hzero
      rw [hdigit, ← hsplit, hzero]
      simp
    · rw [ih, hdigit, hsplit]
      rw [pow_succ] at hval
      exact Nat.div_lt_of_lt_mul (by rwa [Nat.mul_comm] at hval)

theorem notMem_longlong2strFrom (fuel val : Nat) (text : List Char) (htext : '_' ∉ text) :
    '_' ∉ longlong2strFrom fuel val text := by
  induction fuel generalizing val text with
  | zero => exact htext
  | succ fuel ih =>
    have hcons : '_' ∉ digVecUpper.getD (val % base36) '0' :: text := by
      rw [List.mem_cons, not_or]
      exact ⟨(digit_ne val).symm, htext⟩
    unfold longlong2strFrom
    simp only
    split
    · exact hcons
    · exact ih _ _ hcons

theorem length_longlong2strFrom (fuel k val : Nat) (text : List Char)
    (hval : val < base36 ^ (k + 1)) :
    (longlong2strFrom fuel val text).length ≤ text.length + (k + 1) := by
  induction fuel generalizing k val text with
  | zero => exact Nat.le_add_right _ _
  | succ fuel ih =>
    unfold longlong2strFrom
    simp only
    split
    · rw [List.length_cons]
      omega
    · rename_i hrest
      cases k with
      | zero =>
        rw [zero_add, pow_one] at hval
        exact absurd (Nat.div_eq_of_lt hval) hrest
      | succ k =>
        have hdiv : val / base36 < base36 ^ (k + 1) := by
          rw [pow_succ] at hval
          exact Nat.div_lt_of_lt_mul (by rwa [Nat.mul_comm] at hval)
        have hlength := ih k _ (digVecUpper.getD (val % base36) '0' :: text) hdiv
        rw [List.length_cons] at hlength
        omega

/-- A name has at most 13 characters, and so fits with its end into `name` and `req->name`. -/
theorem length_longlong2str_le (savepoint : UInt64) : (longlong2str savepoint).length ≤ 13 := by
  have hlt : savepoint.toNat < base36 ^ (12 + 1) := savepoint.toNat_lt.trans (by decide)
  exact length_longlong2strFrom maxSavepointNameLen 12 _ [] hlt |>.trans (by decide)

theorem requestName_longlong2str (savepoint : UInt64) :
    requestName (longlong2str savepoint) = longlong2str savepoint :=
  List.take_of_length_le ((length_longlong2str_le savepoint).trans (by decide))

theorem longlong2str_injective : Function.Injective longlong2str := by
  intro a b heq
  have hvalue : ∀ sv : UInt64, valueFrom 0 (longlong2str sv) = sv.toNat := fun sv =>
    valueFrom_longlong2strFrom _ _ [] (sv.toNat_lt.trans (by decide))
  apply UInt64.toNat_inj.mp
  rw [← hvalue a, ← hvalue b, heq]

/-- The name of the engine's own savepoint has a character that is no digit. -/
theorem longlong2str_ne_internal (savepoint : UInt64) :
    longlong2str savepoint ≠ ctcSqlStartInternalSavepoint := by
  intro heq
  apply notMem_longlong2strFrom maxSavepointNameLen savepoint.toNat [] List.not_mem_nil
  show '_' ∈ longlong2str savepoint
  rw [heq]
  decide

/-! ## Cutting a list of savepoints -/

section

variable {ν μ η : Type} [DecidableEq ν] [DecidableEq μ]

theorem dropWhile_of_ne {sv : ν × η} {name : ν} (hne : sv.1 ≠ name) (rest : List (ν × η)) :
    (sv :: rest).dropWhile (fun sv => sv.1 ≠ name) =
      rest.dropWhile fun sv => sv.1 ≠ name :=
  List.dropWhile_cons_of_pos (decide_eq_true hne)

theorem dropWhile_of_eq {sv : ν × η} {name : ν} (heq : sv.1 = name) (rest : List (ν × η)) :
    (sv :: rest).dropWhile (fun sv => sv.1 ≠ name) = sv :: rest := by
  apply List.dropWhile_cons_of_neg
  rw [decide_eq_true_eq]
  exact not_not_intro heq

/-- A savepoint of the shorter list is the same one in the longer list, and what was set before it
is still in order. -/
theorem dropWhile_sublist {few all : List (ν × η)} {name : ν} (hsub : few.Sublist all)
    (hnodup : (all.map Prod.fst).Nodup) (hmem : name ∈ few.map Prod.fst) :
    ∃ data few' all', few.dropWhile (fun sv => sv.1 ≠ name) = (name, data) :: few' ∧
      all.dropWhile (fun sv => sv.1 ≠ name) = (name, data) :: all' ∧
      few'.Sublist all' := by
  induction hsub with
  | slnil => cases hmem
  | @cons few all sv hsub ih =>
    obtain ⟨hfirst, hrest⟩ := List.nodup_cons.mp hnodup
    have hne : sv.1 ≠ name := by
      rintro rfl
      exact hfirst ((hsub.map Prod.fst).subset hmem)
    obtain ⟨data, few', all', hfew, hall, hsub'⟩ := ih hrest hmem
    refine ⟨data, few', all', hfew, ?_, hsub'⟩
    rw [dropWhile_of_ne hne]
    exact hall
  | @cons_cons few all sv hsub ih =>
    by_cases heq : sv.1 = name
    · refine ⟨sv.2, few, all, ?_, ?_, hsub⟩
      · rw [dropWhile_of_eq heq, ← heq]
      · rw [dropWhile_of_eq heq, ← heq]
    · have hmem' : name ∈ few.map Prod.fst := (List.mem_cons.mp hmem).resolve_left (Ne.symm heq)
      obtain ⟨data, few', all', hfew, hall, hsub'⟩ := ih (List.nodup_cons.mp hnodup).2 hmem'
      refine ⟨data, few', all', ?_, ?_, hsub'⟩
      · rw [dropWhile_of_ne heq]
        exact hfew
      · rw [dropWhile_of_ne heq]
        exact hall

/-- The savepoints under their names. -/
def named (name : ν → μ) (savepoints : List (ν × η)) : List (μ × η) :=
  savepoints.map fun sv => (name sv.1, sv.2)

theorem named_dropWhile {name : ν → μ} (hname : Function.Injective name) (savepoint : ν)
    (savepoints : List (ν × η)) :
    named name (savepoints.dropWhile fun sv => sv.1 ≠ savepoint) =
      (named name savepoints).dropWhile fun sv => sv.1 ≠ name savepoint := by
  unfold named
  rw [List.dropWhile_map]
  congr 2
  funext sv
  exact decide_eq_decide.mpr hname.ne_iff.symm

theorem named_filter {name : ν → μ} (hname : Function.Injective name) (savepoint : ν)
    (savepoints : List (ν × η)) :
    named name (savepoints.filter fun sv => sv.1 ≠ savepoint) =
      (named name savepoints).filter fun sv => sv.1 ≠ name savepoint := by
  unfold named
  rw [List.filter_map]
  congr 2
  funext sv
  exact decide_eq_decide.mpr hname.ne_iff.symm

omit [DecidableEq ν] [DecidableEq μ] in
theorem mem_named {name : ν → μ} {savepoint : ν} {savepoints : List (ν × η)}
    (hmem : savepoint ∈ savepoints.map Prod.fst) :
    name savepoint ∈ (named name savepoints).map Prod.fst := by
  obtain ⟨sv, hsv, rfl⟩ := List.mem_map.mp hmem
  unfold named
  rw [List.map_map]
  exact List.mem_map.mpr ⟨sv, hsv, rfl⟩

end

/-! ## The two sides of a transaction -/

section

variable {τ η : Type} {engine : SavepointEngine τ η}

/-- The engine follows the server: the data is the same, and every savepoint of the server is one of
the engine, with the same data and in the same order. -/
structure Follows (engine : SavepointEngine τ η) (st : TrxPair τ η) : Prop where
  data : engine.data st.engine = st.server.data
  known : (named longlong2str st.server.savepoints).Sublist (engine.savepoints st.engine)
  nodup : ((engine.savepoints st.engine).map Prod.fst).Nodup
  statement : ∀ data, st.server.statement = some data →
    (engine.savepoints st.engine).head? = some (ctcSqlStartInternalSavepoint, data)

theorem nodup_of_wasSet {name : List Char} {trx trx' : τ} (hset : engine.WasSet name trx trx')
    (hnodup : ((engine.savepoints trx).map Prod.fst).Nodup) :
    ((engine.savepoints trx').map Prod.fst).Nodup := by
  rw [hset.savepoints, List.map_cons, List.nodup_cons]
  constructor
  · intro hmem
    obtain ⟨sv, hsv, heq⟩ := List.mem_map.mp hmem
    exact of_decide_eq_true (List.mem_filter.mp hsv).2 heq
  · exact hnodup.sublist (List.filter_sublist.map Prod.fst)

/-- A savepoint that the server has is found in the engine. -/
theorem Follows.find {st : TrxPair τ η} (hst : Follows engine st) {savepoint : UInt64}
    (hmem : savepoint ∈ st.server.savepoints.map Prod.fst) :
    ∃ data few all, st.server.savepoints.dropWhile (fun sv => sv.1 ≠ savepoint) =
        (savepoint, data) :: few ∧
      (engine.savepoints st.engine).dropWhile (fun sv => sv.1 ≠ longlong2str savepoint) =
        (longlong2str savepoint, data) :: all ∧
      (named longlong2str few).Sublist all := by
  obtain ⟨data, few', all, hfew, hall, hsub⟩ :=
    dropWhile_sublist hst.known hst.nodup (mem_named hmem)
  rw [← named_dropWhile longlong2str_injective] at hfew
  obtain ⟨sv, few, hcons, hsv, rfl⟩ := List.map_eq_cons_iff.mp hfew
  obtain ⟨hname, rfl⟩ := Prod.mk.inj hsv
  refine ⟨sv.2, few, all, ?_, hall, hsub⟩
  rw [hcons, ← longlong2str_injective hname]

/-- With the first request of a statement, the engine holds the data of its start. -/
theorem Follows.seen (hlawful : engine.Lawful) {st : TrxPair τ η} (hst : Follows engine st) :
    Follows engine ⟨{ st.server with statement := some (st.server.statement.getD st.server.data) },
      seen engine st.server st.engine⟩ := by
  cases hstatement : st.server.statement with
  | some data =>
    have hengine : Savepoint.seen engine st.server st.engine = st.engine := by
      unfold Savepoint.seen ServerTrx.sqlStatStart
      rw [hstatement]
      rfl
    rw [hengine]
    refine ⟨hst.data, hst.known, hst.nodup, ?_⟩
    intro start hstart
    obtain rfl := Option.some.inj hstart
    exact hst.statement data hstatement
  | none =>
    have hengine : Savepoint.seen engine st.server st.engine = engine.startStatement st.engine := by
      unfold Savepoint.seen ServerTrx.sqlStatStart
      rw [hstatement]
      rfl
    have hset := hlawful.startStatement st.engine
    rw [hengine]
    refine ⟨hset.data.trans hst.data, ?_, nodup_of_wasSet hset hst.nodup, ?_⟩
    · have hother : (named longlong2str st.server.savepoints).filter
          (fun sv => sv.1 ≠ ctcSqlStartInternalSavepoint) =
          named longlong2str st.server.savepoints := by
        rw [List.filter_eq_self]
        intro sv hsv
        obtain ⟨sv', -, rfl⟩ := List.mem_map.mp hsv
        exact decide_eq_true (longlong2str_ne_internal sv'.1)
      have hfilter := hst.known.filter fun sv => sv.1 ≠ ctcSqlStartInternalSavepoint
      rw [hother] at hfilter
      rw [hset.savepoints]
      exact hfilter.cons _
    · intro start hstart
      obtain rfl := Option.some.inj hstart
      show (engine.savepoints (engine.startStatement st.engine)).head? = _
      rw [hset.savepoints, List.head?_cons, hst.data]
      rfl

theorem Follows.write (hlawful : engine.Lawful) {st : TrxPair τ η} (hst : Follows engine st)
    (data : η) : Follows engine (st.step engine (.write data)) := by
  have hseen := hst.seen hlawful
  have hsavepoints := hlawful.write_savepoints data (Savepoint.seen engine st.server st.engine)
  refine ⟨hlawful.write_data data _, ?_, ?_, ?_⟩
  · show List.Sublist _ (engine.savepoints (engine.write data _))
    rw [hsavepoints]
    exact hseen.known
  · show ((engine.savepoints (engine.write data _)).map Prod.fst).Nodup
    rw [hsavepoints]
    exact hseen.nodup
  · intro start hstart
    show (engine.savepoints (engine.write data _)).head? = _
    rw [hsavepoints]
    exact hseen.statement start hstart

theorem Follows.rollbackStatement (hlawful : engine.Lawful) {st : TrxPair τ η}
    (hst : Follows engine st) (hproper : Proper engine st .rollbackStatement) :
    Follows engine (st.step engine .rollbackStatement) := by
  unfold TrxPair.step call ctcRollbackStatement ServerTrx.step
  unfold Proper at hproper
  cases hstatement : st.server.statement with
  | none =>
    have hstart : st.server.sqlStatStart = true := by
      unfold ServerTrx.sqlStatStart
      rw [hstatement]
      rfl
    rw [hstart, if_pos rfl]
    exact ⟨hst.data, hst.known, hst.nodup, fun _ hnone => nomatch hnone⟩
  | some data =>
    have hstart : st.server.sqlStatStart = false := by
      unfold ServerTrx.sqlStatStart
      rw [hstatement]
      rfl
    -- the savepoint of the statement is the last one
    obtain ⟨rest, hrest⟩ := List.head?_eq_some_iff.mp (hst.statement data hstatement)
    have hfind : (engine.savepoints st.engine).dropWhile
        (fun sv => sv.1 ≠ ctcSqlStartInternalSavepoint) =
        (ctcSqlStartInternalSavepoint, data) :: rest := by
      rw [hrest]
      exact @dropWhile_of_eq _ _ _ (ctcSqlStartInternalSavepoint, data) _ rfl rest
    have hback := hlawful.rollback _ _ data rest hfind (hproper hstart)
    have hsame := hback.savepoints.trans hrest.symm
    rw [hstart, if_neg (by decide)]
    refine ⟨hback.data, ?_, ?_, fun _ hnone => nomatch hnone⟩
    · show List.Sublist _ (engine.savepoints
        (engine.knlRollbackSavepoint ctcSqlStartInternalSavepoint st.engine).2)
      rw [hsame]
      exact hst.known
    · show ((engine.savepoints
        (engine.knlRollbackSavepoint ctcSqlStartInternalSavepoint st.engine).2).map Prod.fst).Nodup
      rw [hsame]
      exact hst.nodup

/-- The release of the old savepoint is not passed on. -/
theorem call_savepoint (st : TrxPair τ η) (savepoint : UInt64) :
    call engine st.server st.engine (.savepoint savepoint) =
      (.answer (engine.knlSetSavepoint (longlong2str savepoint) st.engine).1,
        (engine.knlSetSavepoint (longlong2str savepoint) st.engine).2) := by
  have hrelease : (if st.server.savepoints.any fun sv => sv.1 = savepoint then
      (ctcReleaseSavepoint engine .savepoint savepoint st.engine).2 else st.engine) =
      st.engine := by
    split <;> rfl
  show ctcSetSavepoint engine savepoint (if _ then _ else _) = _
  rw [hrelease]
  unfold ctcSetSavepoint ctcSrvSetSavepoint
  simp only
  rw [if_neg (longlong2str_ne_internal savepoint), requestName_longlong2str]

theorem answer_eq_zero {ret : Int} : SavepointResult.answer ret = .answer 0 ↔ ret = 0 :=
  SavepointResult.answer.injEq ret 0 ▸ Iff.rfl

theorem Follows.savepoint (hlawful : engine.Lawful) {st : TrxPair τ η} (hst : Follows engine st)
    (savepoint : UInt64) : Follows engine (st.step engine (.savepoint savepoint)) := by
  have hothers := named_filter longlong2str_injective savepoint st.server.savepoints
  unfold TrxPair.step
  rw [call_savepoint]
  unfold ServerTrx.step
  simp only [answer_eq_zero]
  by_cases hret : (engine.knlSetSavepoint (longlong2str savepoint) st.engine).1 = 0
  · have hset := hlawful.set _ _ hret
    rw [if_pos hret]
    refine ⟨hset.data.trans hst.data, ?_, nodup_of_wasSet hset hst.nodup,
      fun _ hnone => nomatch hnone⟩
    show List.Sublist ((longlong2str savepoint, st.server.data) ::
      named longlong2str (st.server.savepoints.filter _)) _
    rw [hothers, hset.savepoints, hst.data]
    exact (hst.known.filter _).cons_cons _
  · have hsame := hlawful.set_failed _ _ hret
    rw [if_neg hret]
    refine ⟨hsame.data.trans hst.data, ?_, ?_, fun _ hnone => nomatch hnone⟩
    · show List.Sublist (named longlong2str (st.server.savepoints.filter _)) _
      rw [hothers, hsame.savepoints]
      exact List.filter_sublist.trans hst.known
    · show ((engine.savepoints _).map Prod.fst).Nodup
      rw [hsame.savepoints]
      exact hst.nodup

theorem Follows.rollbackTo (hlawful : engine.Lawful) {st : TrxPair τ η} (hst : Follows engine st)
    {savepoint : UInt64} (hmem : savepoint ∈ st.server.savepoints.map Prod.fst) :
    Follows engine (st.step engine (.rollbackTo savepoint)) := by
  obtain ⟨held, few, all, hfew, hall, hsub⟩ := hst.find hmem
  have hsuffix := List.dropWhile_suffix (l := engine.savepoints st.engine)
    (fun sv => sv.1 ≠ longlong2str savepoint)
  rw [hall] at hsuffix
  have hknown : (named longlong2str ((savepoint, held) :: few)).Sublist
      ((longlong2str savepoint, held) :: all) := hsub.cons_cons _
  unfold TrxPair.step call ctcRollbackSavepoint ctcSrvRollbackSavepoint ServerTrx.step
    ServerTrx.restored
  simp only [answer_eq_zero]
  rw [requestName_longlong2str, hfew]
  simp only [List.head?_cons]
  by_cases hret : (engine.knlRollbackSavepoint (longlong2str savepoint) st.engine).1 = 0
  · have hback := hlawful.rollback _ _ held all hall hret
    rw [if_pos hret]
    refine ⟨hback.data, ?_, ?_, fun _ hnone => nomatch hnone⟩
    · rw [hback.savepoints]
      exact hknown
    · rw [hback.savepoints]
      exact hst.nodup.sublist (hsuffix.sublist.map Prod.fst)
  · have hsame := hlawful.rollback_failed _ _ hret
    rw [if_neg hret]
    refine ⟨hsame.data.trans hst.data, ?_, ?_, fun _ hnone => nomatch hnone⟩
    · rw [hsame.savepoints]
      exact hknown.trans hsuffix.sublist
    · rw [hsame.savepoints]
      exact hst.nodup

theorem Follows.release (hlawful : engine.Lawful) {st : TrxPair τ η} (hst : Follows engine st)
    {savepoint : UInt64} (hmem : savepoint ∈ st.server.savepoints.map Prod.fst) :
    Follows engine (st.step engine (.release savepoint)) := by
  obtain ⟨held, few, all, hfew, hall, hsub⟩ := hst.find hmem
  have hsuffix := List.dropWhile_suffix (l := engine.savepoints st.engine)
    (fun sv => sv.1 ≠ longlong2str savepoint)
  rw [hall] at hsuffix
  have hrest : all.Sublist (engine.savepoints st.engine) :=
    (List.sublist_cons_self _ _).trans hsuffix.sublist
  unfold TrxPair.step call ctcReleaseSavepoint ctcSrvReleaseSavepoint ServerTrx.step
  simp only
  rw [if_neg (by decide), requestName_longlong2str, hfew]
  by_cases hret : (engine.knlReleaseSavepoint (longlong2str savepoint) st.engine).1 = 0
  · have hrelease := hlawful.release _ _ held all hall hret
    refine ⟨hrelease.data.trans hst.data, ?_, ?_, fun _ hnone => nomatch hnone⟩
    · rw [hrelease.savepoints]
      exact hsub
    · rw [hrelease.savepoints]
      exact hst.nodup.sublist (hrest.map Prod.fst)
  · have hsame := hlawful.release_failed _ _ hret
    refine ⟨hsame.data.trans hst.data, ?_, ?_, fun _ hnone => nomatch hnone⟩
    · rw [hsame.savepoints]
      exact hsub.trans hrest
    · rw [hsame.savepoints]
      exact hst.nodup

/-- What one call keeps. -/
theorem Follows.step (hlawful : engine.Lawful) {st : TrxPair τ η} (hst : Follows engine st)
    (request : SavepointCall η) (hproper : Proper engine st request) :
    Follows engine (st.step engine request) := by
  cases request with
  | read => exact hst.seen hlawful
  | write data => exact hst.write hlawful data
  | rollbackStatement => exact hst.rollbackStatement hlawful hproper
  | savepoint savepoint => exact hst.savepoint hlawful savepoint
  | rollbackTo savepoint => exact hst.rollbackTo hlawful hproper
  | release savepoint => exact hst.release hlawful hproper

/-- A transaction with its savepoints, and what the next requests for savepoints answer. -/
structure ListTrx (η : Type) where
  data : η
  savepoints : List (List Char × η)
  answers : List Int

/-- The next answer; a request that fails changes nothing. -/
def ListTrx.answered (effect : ListTrx η → ListTrx η) (trx : ListTrx η) : Int × ListTrx η :=
  let ret := trx.answers.headD 0
  let trx := { trx with answers := trx.answers.tail }
  (ret, if ret = 0 then effect trx else trx)

def ListTrx.set (name : List Char) (trx : ListTrx η) : ListTrx η :=
  { trx with savepoints := (name, trx.data) :: trx.savepoints.filter fun sv => sv.1 ≠ name }

def ListTrx.rollback (name : List Char) (trx : ListTrx η) : ListTrx η :=
  match trx.savepoints.dropWhile fun sv => sv.1 ≠ name with
  | [] => trx
  | sv :: rest => { trx with data := sv.2, savepoints := sv :: rest }

def ListTrx.release (name : List Char) (trx : ListTrx η) : ListTrx η :=
  { trx with savepoints := (trx.savepoints.dropWhile fun sv => sv.1 ≠ name).tail }

end

end CantianConnector.Session.Savepoint
