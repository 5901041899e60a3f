import CantianConnector.Convert.Result
import CantianConnector.Lib.Machine
import CantianConnector.Lib.Threads
import Mathlib.Algebra.Order.BigOperators.Group.Finset
import Mathlib.Algebra.Order.Group.Multiset
import Mathlib.Data.Fintype.Card
import Mathlib.Tactic.Abel
import Mathlib.Tactic.Linarith

/-!
# The threads that handle upstream messages

A thread of the pool calls `mq_recv_msg` for each message of the engine. It checks the count of
handler threads, creates one and counts it, in three steps. A handler thread calls the function of
its message, posts the semaphore of the message and takes itself off the count, while others run.

Over all interleavings, every message is at one place only and is posted once if its thread could be
created (`Sys.reached_conserved`). A thread that could not be created stays on the count. In the
debug build the count is bounded (`Sys.reached_bounded`).
-/

namespace CantianConnector.Mq.Handlers

open CantianConnector.Convert

/-! ## Messages -/

/-- `head.cmd_type`, as far as `mq_msg_handler` has a case for it. -/
inductive CmdType where
  | executeRewriteOpenConn
  | mysqlExecuteUpdate
  | mysqlExecuteSetOpt
  | closeMysqlConnection
  | lockTables
  | unlockTables
  | invalidateObjects
  | setClusterRoleByCantian
  | updateSqlStatisticStat
  | other
deriving DecidableEq, Repr

/-- `dsw_message_block_t`, with the `result` of its request. -/
structure Message where
  id : Nat
  cmdType : CmdType
  result : Int
deriving DecidableEq, Repr

/-- `CTC_IGNORE_ERROR_WHEN_MYSQL_SHUTDOWN`. -/
def ignoreErrorWhenShutdown (shuttingDown : Bool) (result : Int) : Int :=
  if result ≠ 0 ∧ shuttingDown = true then 0 else result

/-- The `switch` of `mq_msg_handler`; `call` is what the function of the message returns. -/
def handleMessage (call : Message → Int) (shuttingDown : Bool) (message : Message) : Message :=
  match message.cmdType with
  | .other => message
  | .updateSqlStatisticStat => { message with result := call message }
  | _ => { message with result := ignoreErrorWhenShutdown shuttingDown (call message) }

/-! ## Threads -/

/-- A thread of the pool. -/
inductive Receiver where
  | idle
  /-- It has checked the count. -/
  | checked (message : Message)
  /-- `pthread_create` has returned, and the count is not yet updated. -/
  | created
deriving DecidableEq, Repr

/-- How far a handler thread is. -/
inductive Phase where
  | running
  | handled
  | posted
deriving DecidableEq, Repr

structure HandlerThread where
  message : Message
  phase : Phase
deriving DecidableEq, Repr

/-- `MAX_DDL_THD_NUM`. -/
def maxDdlThdNum : Int := 1024

/-- `g_ddl_thd_num`, the threads, and the messages that were received, whose thread could not be
created, and that were posted. -/
structure Sys (τ : Type) where
  ddlThdNum : Int
  receiver : τ → Receiver
  threads : Multiset HandlerThread
  received : Multiset Nat
  failed : Multiset Nat
  posted : Multiset Message

def Sys.init (τ : Type) : Sys τ := ⟨0, fun _ => .idle, 0, 0, 0, 0⟩

section

variable {τ : Type} [DecidableEq τ] (build : Build) (call : Message → Int)

/-- A step of one thread. In the debug build `assert(0)` stops the server when the count is above the
limit; there is no step then. -/
inductive Step (s : Sys τ) : Sys τ → Prop
  | check (t : τ) (message : Message) (hidle : s.receiver t = .idle)
    (hcount : build = .debug → s.ddlThdNum ≤ maxDdlThdNum) :
    Step s { s with
      receiver := Function.update s.receiver t (.checked message)
      received := message.id ::ₘ s.received }
  | create (t : τ) (message : Message) (hchecked : s.receiver t = .checked message) :
    Step s { s with
      receiver := Function.update s.receiver t .created
      threads := ⟨message, .running⟩ ::ₘ s.threads }
  | createFails (t : τ) (message : Message) (hchecked : s.receiver t = .checked message) :
    Step s { s with
      receiver := Function.update s.receiver t .created
      failed := message.id ::ₘ s.failed }
  | count (t : τ) (hcreated : s.receiver t = .created) :
    Step s { s with
      receiver := Function.update s.receiver t .idle
      ddlThdNum := s.ddlThdNum + 1 }
  | handle (message : Message) (rest : Multiset HandlerThread) (shuttingDown : Bool)
    (hthreads : s.threads = ⟨message, .running⟩ ::ₘ rest) :
    Step s { s with
      threads := ⟨handleMessage call shuttingDown message, .handled⟩ ::ₘ rest }
  | post (message : Message) (rest : Multiset HandlerThread)
    (hthreads : s.threads = ⟨message, .handled⟩ ::ₘ rest) :
    Step s { s with
      threads := ⟨message, .posted⟩ ::ₘ rest
      posted := message ::ₘ s.posted }
  | exit (message : Message) (rest : Multiset HandlerThread)
    (hthreads : s.threads = ⟨message, .posted⟩ ::ₘ rest) :
    Step s { s with
      threads := rest
      ddlThdNum := s.ddlThdNum - 1 }

end

/-! ## What is counted -/

/-- The threads that a thread of the pool has created and not yet counted. -/
def Receiver.uncounted : Receiver → Nat
  | .created => 1
  | _ => 0

/-- The threads that it is about to create. -/
def Receiver.about : Receiver → Nat
  | .checked _ => 1
  | _ => 0

/-- The message that it holds. -/
def Receiver.holds : Receiver → Multiset Nat
  | .checked message => {message.id}
  | _ => 0

/-- The message that a handler thread still has to post. -/
def HandlerThread.holds (thread : HandlerThread) : Multiset Nat :=
  match thread.phase with
  | .posted => 0
  | _ => {thread.message.id}

@[simp] theorem uncounted_idle : Receiver.idle.uncounted = 0 := rfl

@[simp] theorem uncounted_checked (message : Message) : (Receiver.checked message).uncounted = 0 :=
  rfl

@[simp] theorem uncounted_created : Receiver.created.uncounted = 1 := rfl

@[simp] theorem about_idle : Receiver.idle.about = 0 := rfl

@[simp] theorem about_checked (message : Message) : (Receiver.checked message).about = 1 := rfl

@[simp] theorem about_created : Receiver.created.about = 0 := rfl

@[simp] theorem holds_idle : Receiver.idle.holds = 0 := rfl

@[simp] theorem holds_checked (message : Message) :
    (Receiver.checked message).holds = {message.id} := rfl

@[simp] theorem holds_created : Receiver.created.holds = 0 := rfl

/-- A thread of the pool is idle, has checked the count or has not yet updated it. -/
theorem uncounted_add_about_le (receiver : Receiver) :
    receiver.uncounted + receiver.about ≤ 1 := by
  cases receiver with
  | idle => exact Nat.zero_le 1
  | checked message => exact Nat.le_refl 1
  | created => exact Nat.le_refl 1

theorem handleMessage_id (call : Message → Int) (shuttingDown : Bool) (message : Message) :
    (handleMessage call shuttingDown message).id = message.id := by
  obtain ⟨id, cmdType, result⟩ := message
  cases cmdType <;> rfl

namespace Sys

open scoped BigOperators

variable {τ : Type} [Fintype τ] [DecidableEq τ]

/-- The messages that are at work. -/
def inFlight (s : Sys τ) : Multiset Nat :=
  ∑ t, (s.receiver t).holds + (s.threads.map HandlerThread.holds).sum

/-- The handler threads, and those that could not be created. -/
def load (s : Sys τ) : Nat := s.threads.card + s.failed.card

variable {build : Build} {call : Message → Int} {s s' : Sys τ}

/-- The count is behind the threads by those that are not yet counted. -/
def Counted (s : Sys τ) : Prop :=
  s.ddlThdNum + (∑ t, (s.receiver t).uncounted : Nat) = s.load

/-- Each message that was received is at work, or could not be given a thread, or is posted. -/
def Conserved (s : Sys τ) : Prop :=
  s.received = s.inFlight + (s.failed + s.posted.map Message.id)

/-- With the threads that are about to be created, the load is at most the limit and one for each
thread of the pool. -/
def Bounded (s : Sys τ) : Prop :=
  ((s.load + ∑ t, (s.receiver t).about : Nat) : Int) ≤ maxDdlThdNum + Fintype.card τ

theorem Counted.step (h : s.Counted) (hstep : Step build call s s') : s'.Counted := by
  unfold Counted load at h ⊢
  cases hstep with
  | check t message hidle _ =>
    have hsum := Threads.sum_update Receiver.uncounted s.receiver t (.checked message)
    rw [hidle, uncounted_idle, uncounted_checked] at hsum
    dsimp only
    omega
  | create t message hchecked =>
    have hsum := Threads.sum_update Receiver.uncounted s.receiver t .created
    rw [hchecked, uncounted_checked, uncounted_created] at hsum
    simp only [Multiset.card_cons]
    omega
  | createFails t message hchecked =>
    have hsum := Threads.sum_update Receiver.uncounted s.receiver t .created
    rw [hchecked, uncounted_checked, uncounted_created] at hsum
    simp only [Multiset.card_cons]
    omega
  | count t hcreated =>
    have hsum := Threads.sum_update Receiver.uncounted s.receiver t .idle
    rw [hcreated, uncounted_idle, uncounted_created] at hsum
    dsimp only
    omega
  | handle message rest shuttingDown hthreads =>
    rw [hthreads, Multiset.card_cons] at h
    simpa only [Multiset.card_cons] using h
  | post message rest hthreads =>
    rw [hthreads, Multiset.card_cons] at h
    simpa only [Multiset.card_cons] using h
  | exit message rest hthreads =>
    rw [hthreads, Multiset.card_cons] at h
    dsimp only
    omega

theorem Conserved.step (h : s.Conserved) (hstep : Step build call s s') : s'.Conserved := by
  unfold Conserved inFlight at h ⊢
  cases hstep with
  | check t message hidle _ =>
    have hsum := Threads.sum_update Receiver.holds s.receiver t (.checked message)
    rw [hidle, holds_idle, holds_checked, add_zero] at hsum
    dsimp only
    rw [hsum, h, ← Multiset.singleton_add]
    abel
  | create t message hchecked =>
    have hsum := Threads.sum_update Receiver.holds s.receiver t .created
    rw [hchecked, holds_checked, holds_created, add_zero] at hsum
    have hthread : HandlerThread.holds ⟨message, .running⟩ = {message.id} := rfl
    dsimp only
    rw [h, ← hsum, Multiset.map_cons, Multiset.sum_cons, hthread]
    abel
  | createFails t message hchecked =>
    have hsum := Threads.sum_update Receiver.holds s.receiver t .created
    rw [hchecked, holds_checked, holds_created, add_zero] at hsum
    dsimp only
    rw [h, ← hsum, ← Multiset.singleton_add]
    abel
  | count t hcreated =>
    have hsum := Threads.sum_update Receiver.holds s.receiver t .idle
    rw [hcreated, holds_idle, holds_created, add_zero, add_zero] at hsum
    dsimp only
    rw [hsum]
    exact h
  | handle message rest shuttingDown hthreads =>
    have hthread : HandlerThread.holds ⟨handleMessage call shuttingDown message, .handled⟩ =
        HandlerThread.holds ⟨message, .running⟩ := by
      show ({_} : Multiset Nat) = {_}
      rw [handleMessage_id]
    rw [hthreads, Multiset.map_cons, Multiset.sum_cons] at h
    dsimp only
    rw [Multiset.map_cons, Multiset.sum_cons, hthread]
    exact h
  | post message rest hthreads =>
    have hbefore : HandlerThread.holds ⟨message, .handled⟩ = {message.id} := rfl
    have hafter : HandlerThread.holds ⟨message, .posted⟩ = 0 := rfl
    rw [hthreads, Multiset.map_cons, Multiset.sum_cons, hbefore] at h
    dsimp only
    rw [h, Multiset.map_cons, Multiset.sum_cons, hafter, Multiset.map_cons,
      ← Multiset.singleton_add]
    abel
  | exit message rest hthreads =>
    have hafter : HandlerThread.holds ⟨message, .posted⟩ = 0 := rfl
    rw [hthreads, Multiset.map_cons, Multiset.sum_cons, hafter, zero_add] at h
    exact h

/-- In the debug build the count is checked before a thread is created. -/
theorem Bounded.step (hcounted : s.Counted) (h : s.Bounded) (hstep : Step .debug call s s') :
    s'.Bounded := by
  unfold Bounded at h ⊢
  cases hstep with
  | check t message hidle hcount =>
    have habout := Threads.sum_update Receiver.about s.receiver t (.checked message)
    rw [hidle, about_idle, about_checked] at habout
    -- of the others, each is either uncounted or about to create a thread
    have hothers : ∑ u, (s.receiver u).uncounted +
        ∑ u, (Function.update s.receiver t (.checked message) u).about ≤ Fintype.card τ := by
      rw [← Finset.sum_add_distrib, ← Finset.card_univ, Finset.card_eq_sum_ones]
      apply Finset.sum_le_sum
      intro u _
      by_cases hu : u = t
      · rw [hu, hidle, Function.update_self]
        exact le_rfl
      · rw [Function.update_of_ne hu]
        exact uncounted_add_about_le _
    have hlimit := hcount rfl
    unfold Counted at hcounted
    have hload : (s.load : Int) ≤ maxDdlThdNum + (∑ u, (s.receiver u).uncounted : Nat) := by
      rw [← hcounted]
      exact Int.add_le_add_right hlimit _
    show ((s.load + _ : Nat) : Int) ≤ _
    push_cast at hload ⊢
    have hothers' : ((∑ u, (s.receiver u).uncounted +
        ∑ u, (Function.update s.receiver t (.checked message) u).about : Nat) : Int) ≤
        Fintype.card τ := Int.ofNat_le.mpr hothers
    push_cast at hothers'
    linarith
  | create t message hchecked =>
    have habout := Threads.sum_update Receiver.about s.receiver t .created
    rw [hchecked, about_checked, about_created] at habout
    unfold load at h ⊢
    simp only [Multiset.card_cons]
    omega
  | createFails t message hchecked =>
    have habout := Threads.sum_update Receiver.about s.receiver t .created
    rw [hchecked, about_checked, about_created] at habout
    unfold load at h ⊢
    simp only [Multiset.card_cons]
    omega
  | count t hcreated =>
    have habout := Threads.sum_update Receiver.about s.receiver t .idle
    rw [hcreated, about_idle, about_created] at habout
    unfold load at h ⊢
    dsimp only
    omega
  | handle message rest shuttingDown hthreads =>
    unfold load at h ⊢
    rw [hthreads, Multiset.card_cons] at h
    simpa only [Multiset.card_cons] using h
  | post message rest hthreads =>
    unfold load at h ⊢
    rw [hthreads, Multiset.card_cons] at h
    simpa only [Multiset.card_cons] using h
  | exit message rest hthreads =>
    unfold load at h ⊢
    rw [hthreads, Multiset.card_cons] at h
    dsimp only
    omega

/-! ## Runs -/

/-- A state that is reached by any interleaving of the threads. -/
def Reached (build : Build) (call : Message → Int) (s : Sys τ) : Prop :=
  Relation.ReflTransGen (Step build call) (Sys.init τ) s

omit [DecidableEq τ] in
theorem init_counted : (Sys.init τ).Counted := by
  simp [Counted, load, Sys.init]

omit [DecidableEq τ] in
theorem init_conserved : (Sys.init τ).Conserved := by
  simp [Conserved, inFlight, Sys.init]

omit [DecidableEq τ] in
theorem init_bounded : (Sys.init τ).Bounded := by
  simp [Bounded, load, Sys.init, maxDdlThdNum]
  omega

/-- **Messages.** In every state that is reached, each message that was received is at work, or its
thread could not be created, or it has been posted once; and the count is behind by the threads that
are not yet counted. When all threads are through, what was received is what failed and what was
posted, and the count is the number of the threads that could not be created. -/
theorem reached_conserved (h : s.Reached build call) :
    s.Conserved ∧ s.Counted ∧ (s.threads = 0 → (∀ t, s.receiver t = .idle) →
      s.received = s.failed + s.posted.map Message.id ∧ s.ddlThdNum = s.failed.card) := by
  have hboth : s.Conserved ∧ s.Counted := by
    apply Machine.invariant_of_reaches _ ⟨init_conserved, init_counted⟩ h
    rintro s s' ⟨hconserved, hcounted⟩ hstep
    exact ⟨hconserved.step hstep, hcounted.step hstep⟩
  refine ⟨hboth.1, hboth.2, ?_⟩
  intro hthreads hidle
  obtain ⟨hconserved, hcounted⟩ := hboth
  unfold Conserved inFlight at hconserved
  unfold Counted load at hcounted
  simp only [hthreads, hidle, holds_idle, uncounted_idle, Finset.sum_const_zero, Multiset.map_zero,
    Multiset.sum_zero, Multiset.card_zero, zero_add, Nat.cast_zero, add_zero] at hconserved hcounted
  exact ⟨hconserved, hcounted⟩

/-- A handler thread is through before it is counted: the count is below zero. -/
theorem reached_conserved_ahead :
    ∃ s : Sys Unit, s.Reached .debug (fun _ => 1) ∧ s.ddlThdNum = -1 ∧
      s.posted = {⟨7, .lockTables, 0⟩} ∧ s.Conserved ∧ s.Counted := by
  have hinit : (Sys.init Unit).Reached .debug (fun _ => 1) := .refl
  have h₁ := hinit.tail (.check () ⟨7, .lockTables, 0⟩ rfl fun _ => by decide)
  have h₂ := h₁.tail (.create () ⟨7, .lockTables, 0⟩ rfl)
  have h₃ := h₂.tail (.handle ⟨7, .lockTables, 0⟩ 0 true rfl)
  have h₄ := h₃.tail (.post ⟨7, .lockTables, 0⟩ 0 rfl)
  have h₅ := h₄.tail (.exit ⟨7, .lockTables, 0⟩ 0 rfl)
  obtain ⟨hconserved, hcounted, -⟩ := reached_conserved h₅
  exact ⟨_, h₅, rfl, rfl, hconserved, hcounted⟩

/-- **The limit.** In the debug build there are never more handler threads, with those that could not
be created, than the limit and one for each thread of the pool. -/
theorem reached_bounded (h : s.Reached .debug call) :
    ((s.threads.card + s.failed.card : Nat) : Int) ≤ maxDdlThdNum + Fintype.card τ := by
  have hboth : s.Counted ∧ s.Bounded := by
    apply Machine.invariant_of_reaches _ ⟨init_counted, init_bounded⟩ h
    rintro s s' ⟨hcounted, hbounded⟩ hstep
    exact ⟨hcounted.step hstep, Bounded.step hcounted hbounded hstep⟩
  have hbounded := hboth.2
  unfold Bounded load at hbounded
  omega

/-- A thread that could not be created stays on the count. -/
theorem reached_bounded_failed :
    ∃ s : Sys Unit, s.Reached .debug (fun _ => 0) ∧ s.ddlThdNum = 1 ∧ s.threads = 0 ∧
      ((s.threads.card + s.failed.card : Nat) : Int) ≤ maxDdlThdNum + Fintype.card Unit := by
  have hinit : (Sys.init Unit).Reached .debug (fun _ => 0) := .refl
  have h₁ := hinit.tail (.check () ⟨7, .lockTables, 0⟩ rfl fun _ => by decide)
  have h₂ := h₁.tail (.createFails () ⟨7, .lockTables, 0⟩ rfl)
  have h₃ := h₂.tail (.count () rfl)
  exact ⟨_, h₃, rfl, rfl, reached_bounded h₃⟩

end Sys

end CantianConnector.Mq.Handlers
