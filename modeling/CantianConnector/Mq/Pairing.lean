import CantianConnector.Mq.Batch
import CantianConnector.Lib.Machine
import CantianConnector.Lib.Threads

/-!
# Requests and posts

`ctc_mq_deal_func` and `ctc_mq_batch_send_message` send a message block to the server and wait on
its semaphore, which the server posts once it has processed the request. A handler that has a
`msg_buf` uses it for one request after the other, and its semaphore keeps what was posted. When
`sem_wait` is interrupted, or `sem_timedwait` runs out of time, the call gives up: it frees what it
has allocated while the server may still be at work on it.

Calls are numbered in the order in which they start. The server takes its jobs in any order.
-/

namespace CantianConnector.Mq

/-! ## Calls -/

/-- A call with its message block. `bufs` has the request of `ctc_mq_deal_func`, or the segments
of `ctc_mq_batch_send_message`. -/
structure MqCall where
  id : Nat
  batch : Bool
  reusable : Bool
  msg : Nat
  bufs : List Nat
deriving DecidableEq, Repr

/-- The blocks that the server reads or posts. -/
def MqCall.blocks (call : MqCall) : List Nat := call.msg :: call.bufs

/-- The blocks that are freed when the call is over. -/
def MqCall.owned (call : MqCall) : List Nat := if call.reusable then call.bufs else call.blocks

/-- `msg_buf` is given to `ctc_mq_deal_func` only. -/
def MqCall.WellFormed (call : MqCall) : Prop :=
  if call.batch then call.reusable = false else call.bufs.length = 1

inductive MqPc
  | idle
  | ready (call : MqCall)
  | waiting (call : MqCall)
  | waited (call : MqCall) (ret : Int)
deriving DecidableEq, Repr

/-- A thread with the message block of its handler. -/
structure MqThread where
  msgBuf : Option Nat
  pc : MqPc
deriving DecidableEq, Repr

def MqThread.call (th : MqThread) : Option MqCall :=
  match th.pc with
  | .idle => none
  | .ready call | .waiting call | .waited call _ => some call

/-- The blocks that the thread has allocated. -/
def MqThread.uses (th : MqThread) : List Nat :=
  th.msgBuf.toList ++ (match th.call with
    | some call => call.owned
    | none => [])

/-- A message that the server has received. -/
structure MqJob where
  msg : Nat
  bufs : List Nat
  processed : Bool
deriving DecidableEq, Repr

structure MqReturn where
  call : Nat
  ret : Int
deriving DecidableEq, Repr

/-- The shared memory, the semaphores and the server's jobs. `holder` is the last call that a block
was filled for, `finished` the calls whose requests the server has processed. -/
structure MqSys (τ : Type) where
  live : Nat → Bool
  holder : Nat → Option Nat
  sem : Nat → Nat
  job : Nat → Option MqJob
  finished : List Nat
  next : Nat
  thread : τ → MqThread
  returns : List MqReturn

def MqSys.init (τ : Type) : MqSys τ :=
  ⟨fun _ => false, fun _ => none, fun _ => 0, fun _ => none, [], 0, fun _ => ⟨none, .idle⟩, []⟩

/-! ## Steps -/

inductive MqLabel (τ : Type)
  | openSess (t : τ) (msg : Nat)
  | closeSess (t : τ)
  | failed (t : τ) (ret : Int)
  | start (t : τ) (call : MqCall)
  | send (t : τ) (sent : Bool)
  | process (id : Nat)
  | post (id : Nat)
  | wait (t : τ) (ret : Int)
  | giveUp (t : τ)
  | finish (t : τ)

section

variable {τ : Type} [DecidableEq τ]

/-- A step of a thread or of the server. `giveUp` is a wait that ends without a post. -/
inductive MqStep (s : MqSys τ) : MqLabel τ → MqSys τ → Prop
  | openSess (t : τ) (msg : Nat) (hth : s.thread t = ⟨none, .idle⟩) (hfree : s.live msg = false) :
    MqStep s (.openSess t msg)
      { s with
        live := Function.update s.live msg true
        sem := Function.update s.sem msg 0
        thread := Function.update s.thread t ⟨some msg, .idle⟩ }
  | closeSess (t : τ) (msg : Nat) (hth : s.thread t = ⟨some msg, .idle⟩) :
    MqStep s (.closeSess t)
      { s with
        live := Function.update s.live msg false
        thread := Function.update s.thread t ⟨none, .idle⟩ }
  -- no memory, or `sem_init` fails: nothing was sent
  | failed (t : τ) (ret : Int) (hpc : (s.thread t).pc = .idle) (hret : ret ≠ ctSuccess) :
    MqStep s (.failed t ret)
      { s with
        next := s.next + 1
        returns := s.returns ++ [⟨s.next, ret⟩] }
  | start (t : τ) (call : MqCall) (hpc : (s.thread t).pc = .idle) (hid : call.id = s.next)
      (hcall : call.WellFormed)
      (hmsg : call.reusable = true → (s.thread t).msgBuf = some call.msg)
      (hfree : ∀ a ∈ call.owned, s.live a = false) (hnodup : call.owned.Nodup) :
    MqStep s (.start t call)
      { s with
        live := fun a => if a ∈ call.owned then true else s.live a
        holder := fun a => if a ∈ call.blocks then some call.id else s.holder a
        sem := if call.reusable then s.sem else Function.update s.sem call.msg 0
        next := s.next + 1
        thread := Function.update s.thread t ⟨(s.thread t).msgBuf, .ready call⟩ }
  | sendOk (t : τ) (call : MqCall) (hpc : (s.thread t).pc = .ready call) :
    MqStep s (.send t true)
      { s with
        job := Function.update s.job call.id (some ⟨call.msg, call.bufs, false⟩)
        thread := Function.update s.thread t ⟨(s.thread t).msgBuf, .waiting call⟩ }
  | sendFailed (t : τ) (call : MqCall) (hpc : (s.thread t).pc = .ready call) :
    MqStep s (.send t false)
      { s with
        thread := Function.update s.thread t
          ⟨(s.thread t).msgBuf, .waited call errShmSendMsgFailed⟩ }
  | process (id : Nat) (job : MqJob) (hjob : s.job id = some job) (hnew : job.processed = false) :
    MqStep s (.process id)
      { s with
        job := Function.update s.job id (some { job with processed := true })
        finished := id :: s.finished }
  | post (id : Nat) (job : MqJob) (hjob : s.job id = some job) (hdone : job.processed = true) :
    MqStep s (.post id)
      { s with
        job := Function.update s.job id none
        sem := Function.update s.sem job.msg (s.sem job.msg + 1) }
  -- copying the segments back may fail
  | wait (t : τ) (call : MqCall) (ret : Int) (hpc : (s.thread t).pc = .waiting call)
      (hsem : 0 < s.sem call.msg)
      (hret : ret = ctSuccess ∨ call.batch = true ∧ ret = errBatchDataHandleFailed) :
    MqStep s (.wait t ret)
      { s with
        sem := Function.update s.sem call.msg (s.sem call.msg - 1)
        thread := Function.update s.thread t ⟨(s.thread t).msgBuf, .waited call ret⟩ }
  | giveUp (t : τ) (call : MqCall) (hpc : (s.thread t).pc = .waiting call) :
    MqStep s (.giveUp t)
      { s with
        thread := Function.update s.thread t ⟨(s.thread t).msgBuf, .waited call errSemFault⟩ }
  | finish (t : τ) (call : MqCall) (ret : Int) (hpc : (s.thread t).pc = .waited call ret) :
    MqStep s (.finish t)
      { s with
        live := fun a => if a ∈ call.owned then false else s.live a
        thread := Function.update s.thread t ⟨(s.thread t).msgBuf, .idle⟩
        returns := s.returns ++ [⟨call.id, ret⟩] }

/-- A wait ends without a post only where the message block is a fresh one and the server is
through with the request. -/
def WaitsForPost (s : MqSys τ) : MqLabel τ → Prop
  | .giveUp t => ∀ call, (s.thread t).pc = .waiting call →
    call.reusable = false ∧ s.job call.id = none
  | _ => True

end

section

variable {τ : Type} {s s' : MqSys τ} {th : MqThread} {call : MqCall}

/-- The number of the call is taken, its message block is the one of the handler or a fresh one,
and its blocks are filled for it. -/
structure MqCall.Held (s : MqSys τ) (th : MqThread) (call : MqCall) : Prop where
  id_lt : call.id < s.next
  reusable : call.reusable = true → th.msgBuf = some call.msg
  fresh : ∀ a ∈ call.owned, th.msgBuf ≠ some a
  holder : ∀ a ∈ call.blocks, s.holder a = some call.id

/-- How far the server is with the call: it has a job, or it has posted once. -/
def MqPc.Answered (s : MqSys τ) : MqPc → Prop
  | .idle => True
  | .ready call => s.job call.id = none ∧ s.sem call.msg = 0
  | .waiting call =>
    (∃ processed, s.job call.id = some ⟨call.msg, call.bufs, processed⟩ ∧ s.sem call.msg = 0 ∧
      (processed = true → call.id ∈ s.finished)) ∨
    s.job call.id = none ∧ s.sem call.msg = 1 ∧ call.id ∈ s.finished
  | .waited call ret => s.job call.id = none ∧ (ret = ctSuccess → call.id ∈ s.finished)

structure MqThread.Good (s : MqSys τ) (th : MqThread) : Prop where
  live : ∀ a ∈ th.uses, s.live a = true
  held : ∀ call, th.call = some call → call.Held s th
  /-- Between its calls the semaphore of the handler's block is down. -/
  quiet : ∀ m, th.msgBuf = some m → (∀ call, th.pc = .waiting call → call.msg ≠ m) → s.sem m = 0
  answered : th.pc.Answered s

/-- Two threads have different blocks and different calls. -/
structure MqThread.Apart (th th' : MqThread) : Prop where
  uses : ∀ a ∈ th.uses, a ∉ th'.uses
  ids : ∀ call, th.call = some call → ∀ call', th'.call = some call' → call.id ≠ call'.id

theorem MqThread.Apart.symm {th th' : MqThread} (h : th.Apart th') : th'.Apart th where
  uses a ha' ha := h.uses a ha ha'
  ids call hcall call' hcall' hsame := h.ids call' hcall' call hcall hsame.symm

theorem MqThread.mem_uses {a : Nat} :
    a ∈ th.uses ↔ th.msgBuf = some a ∨ ∃ call, th.call = some call ∧ a ∈ call.owned := by
  unfold MqThread.uses
  rw [List.mem_append, Option.mem_toList]
  cases th.call with
  | none => simp
  | some call => simp

theorem MqCall.mem_owned {a : Nat} :
    a ∈ call.owned ↔ (call.reusable = false ∧ a = call.msg) ∨ a ∈ call.bufs := by
  unfold MqCall.owned MqCall.blocks
  cases call.reusable <;> simp

theorem MqCall.not_mem_blocks {a : Nat} (howned : a ∉ call.owned)
    (hre : call.reusable = true → a ≠ call.msg) : a ∉ call.blocks := by
  intro ha
  rcases List.mem_cons.mp ha with rfl | ha
  · cases hreusable : call.reusable with
    | true => exact hre hreusable rfl
    | false => exact howned (MqCall.mem_owned.mpr (.inl ⟨hreusable, rfl⟩))
  · exact howned (MqCall.mem_owned.mpr (.inr ha))

theorem MqCall.Held.reusable_iff (h : call.Held s th) :
    call.reusable = true ↔ th.msgBuf = some call.msg := by
  refine ⟨h.reusable, ?_⟩
  intro hm
  cases hre : call.reusable with
  | true => rfl
  | false => exact absurd hm (h.fresh _ (MqCall.mem_owned.mpr (.inl ⟨hre, rfl⟩)))

/-- The server works on blocks that the thread has allocated. -/
theorem MqCall.Held.mem_uses (h : call.Held s th) (hcall : th.call = some call) {a : Nat}
    (ha : a ∈ call.blocks) : a ∈ th.uses := by
  rw [MqThread.mem_uses]
  rcases List.mem_cons.mp ha with rfl | ha
  · cases hre : call.reusable with
    | true => exact .inl (h.reusable hre)
    | false => exact .inr ⟨call, hcall, MqCall.mem_owned.mpr (.inl ⟨hre, rfl⟩)⟩
  · exact .inr ⟨call, hcall, MqCall.mem_owned.mpr (.inr ha)⟩

theorem MqThread.Good.msg_mem_uses (h : th.Good s) (hcall : th.call = some call) :
    call.msg ∈ th.uses := by
  apply (h.held call hcall).mem_uses hcall
  exact List.mem_cons_self

/-- A thread does not notice what happens to the blocks and jobs of others. -/
theorem MqThread.Good.frame (h : th.Good s)
    (hSame : ∀ a ∈ th.uses,
      s'.live a = s.live a ∧ s'.holder a = s.holder a ∧ s'.sem a = s.sem a)
    (hJob : ∀ call, th.call = some call → s'.job call.id = s.job call.id)
    (hFinished : ∀ id ∈ s.finished, id ∈ s'.finished) (hNext : s.next ≤ s'.next) :
    th.Good s' where
  live a ha := by
    rw [(hSame a ha).1]
    exact h.live a ha
  held call hcall := by
    have hheld := h.held call hcall
    refine ⟨Nat.lt_of_lt_of_le hheld.id_lt hNext, hheld.reusable, hheld.fresh, ?_⟩
    intro a ha
    rw [(hSame a (hheld.mem_uses hcall ha)).2.1]
    exact hheld.holder a ha
  quiet m hm hpc := by
    rw [(hSame m (MqThread.mem_uses.mpr (.inl hm))).2.2]
    exact h.quiet m hm hpc
  answered := by
    have hmsg : ∀ call, th.call = some call → s'.sem call.msg = s.sem call.msg := by
      intro call hcall
      exact (hSame _ (h.msg_mem_uses hcall)).2.2
    have hanswered := h.answered
    obtain ⟨msgBuf, pc⟩ := th
    cases pc with
    | idle => trivial
    | ready call =>
      exact ⟨(hJob call rfl).trans hanswered.1, (hmsg call rfl).trans hanswered.2⟩
    | waiting call =>
      rcases hanswered with ⟨processed, hjob, hsem, hfin⟩ | ⟨hjob, hsem, hfin⟩
      · exact .inl ⟨processed, (hJob call rfl).trans hjob, (hmsg call rfl).trans hsem,
          fun hp => hFinished _ (hfin hp)⟩
      · exact .inr ⟨(hJob call rfl).trans hjob, (hmsg call rfl).trans hsem, hFinished _ hfin⟩
    | waited call ret =>
      exact ⟨(hJob call rfl).trans hanswered.1, fun hret => hFinished _ (hanswered.2 hret)⟩

/-- The threads are as they should be, the server has jobs of waiting calls only, and no call has
succeeded too early. -/
structure MqInv (s : MqSys τ) : Prop where
  threads : Threads.Sound MqThread.Good MqThread.Apart s s.thread
  jobs : ∀ id job, s.job id = some job → ∃ t call, (s.thread t).pc = .waiting call ∧ call.id = id
  success : ∀ r ∈ s.returns, r.ret = ctSuccess → r.call ∈ s.finished

theorem MqThread.call_of_waiting (hpc : th.pc = .waiting call) : th.call = some call := by
  unfold MqThread.call
  rw [hpc]

/-- A job is the one that its waiting call has sent. -/
theorem MqInv.job_eq (h : MqInv s) {id : Nat} {job : MqJob} (hjob : s.job id = some job) :
    ∃ t call, (s.thread t).pc = .waiting call ∧ call.id = id ∧ job.msg = call.msg ∧
      job.bufs = call.bufs ∧ s.sem call.msg = 0 ∧ (job.processed = true → id ∈ s.finished) := by
  obtain ⟨t, call, hpc, rfl⟩ := h.jobs id job hjob
  have hanswered := (h.threads.all t).answered
  rw [hpc] at hanswered
  rcases hanswered with ⟨processed, hsent, hsem, hfin⟩ | ⟨hnone, -⟩
  · rw [hjob, Option.some.injEq] at hsent
    subst hsent
    exact ⟨t, call, hpc, rfl, rfl, rfl, hsem, hfin⟩
  · rw [hjob] at hnone
    cases hnone

/-- A call that is still to come has no job. -/
theorem MqInv.job_next (h : MqInv s) : s.job s.next = none := by
  by_contra hsome
  obtain ⟨job, hjob⟩ := Option.ne_none_iff_exists'.mp hsome
  obtain ⟨t, call, hpc, hlast⟩ := h.jobs _ _ hjob
  have hlt := ((h.threads.all t).held call (MqThread.call_of_waiting hpc)).id_lt
  omega

/-- Nobody posts to the block of a handler whose thread does not wait. -/
theorem MqThread.Good.msgBuf_quiet (h : th.Good s) (hpc : ∀ call, th.pc ≠ .waiting call) {m : Nat}
    (hm : th.msgBuf = some m) : s.live m = true ∧ s.sem m = 0 := by
  refine ⟨h.live m (MqThread.mem_uses.mpr (.inl hm)), h.quiet m hm ?_⟩
  intro call hwaiting
  exact absurd hwaiting (hpc call)

/-- A step for a thread changes its own blocks and job, and free blocks. -/
structure MqTouch (s s' : MqSys τ) (th : MqThread) : Prop where
  same : ∀ a, a ∉ th.uses → s.live a = true →
    s'.live a = s.live a ∧ s'.holder a = s.holder a ∧ s'.sem a = s.sem a
  job : ∀ id, id < s.next → (∀ call, th.call = some call → call.id ≠ id) → s'.job id = s.job id
  finished : ∀ id ∈ s.finished, id ∈ s'.finished
  next : s.next ≤ s'.next

variable [DecidableEq τ]

/-- **One thread at a time.** A step for thread `t`, which becomes `th`, keeps the invariant if `th`
is as it should be and the jobs are still those of waiting calls. -/
theorem MqInv.move (h : MqInv s) {t : τ} (hthread : s'.thread = Function.update s.thread t th)
    (hTouch : MqTouch s s' (s.thread t)) (hMine : th.Good s')
    (hUses : ∀ a ∈ th.uses, a ∈ (s.thread t).uses ∨ s.live a = false)
    (hIds : ∀ call, th.call = some call →
      (∃ call', (s.thread t).call = some call' ∧ call'.id = call.id) ∨ call.id = s.next)
    (hNew : ∀ id, s'.job id ≠ none →
      s.job id ≠ none ∨ ∃ call, th.pc = .waiting call ∧ call.id = id)
    (hOld : ∀ call, (s.thread t).pc = .waiting call → s'.job call.id ≠ none →
      ∃ call', th.pc = .waiting call' ∧ call'.id = call.id)
    (hReturns : ∀ r ∈ s'.returns, r ∈ s.returns ∨ (r.ret = ctSuccess → r.call ∈ s'.finished)) :
    MqInv s' where
  threads := by
    rw [hthread]
    refine h.threads.step (fun _ _ => MqThread.Apart.symm) hMine ?_
    intro u _ hGood hApart
    constructor
    · refine hGood.frame ?_ ?_ hTouch.finished hTouch.next
      · intro a ha
        exact hTouch.same a (fun hmine => hApart.uses a hmine ha) (hGood.live a ha)
      · intro call hcall
        apply hTouch.job _ (hGood.held call hcall).id_lt
        intro call' hcall'
        exact hApart.ids call' hcall' call hcall
    · constructor
      · intro a ha hother
        rcases hUses a ha with hmine | hfree
        · exact hApart.uses a hmine hother
        · rw [hGood.live a hother] at hfree
          cases hfree
      · intro call hcall call' hcall' hsame
        rcases hIds call hcall with ⟨mine, hmine, hid⟩ | hid
        · exact hApart.ids mine hmine call' hcall' (hid.trans hsame)
        · have hlt := (hGood.held call' hcall').id_lt
          omega
  jobs id job hjob := by
    have hmoved : ∀ call, th.pc = .waiting call → call.id = id →
        ∃ u call, (s'.thread u).pc = .waiting call ∧ call.id = id := by
      intro call hpc hid
      refine ⟨t, call, ?_, hid⟩
      rw [hthread, Function.update_self]
      exact hpc
    have hsome : s'.job id ≠ none := by
      rw [hjob]
      exact Option.some_ne_none _
    rcases hNew id hsome with hsent | ⟨call, hpc, hid⟩
    · obtain ⟨old, hold⟩ := Option.ne_none_iff_exists'.mp hsent
      obtain ⟨u, call, hpc, hid⟩ := h.jobs id old hold
      by_cases hu : u = t
      · subst hu
        obtain ⟨call', hpc', hid'⟩ := hOld call hpc (hid ▸ hsome)
        exact hmoved call' hpc' (hid'.trans hid)
      · refine ⟨u, call, ?_, hid⟩
        rw [hthread, Function.update_of_ne hu]
        exact hpc
    · exact hmoved call hpc hid
  success r hr hret := by
    rcases hReturns r hr with hold | hnew
    · exact hTouch.finished _ (h.success r hold hret)
    · exact hnew hret

theorem MqThread.uses_congr {th th' : MqThread} (hbuf : th.msgBuf = th'.msgBuf)
    (hcall : th.call = th'.call) : th.uses = th'.uses := by
  unfold MqThread.uses
  rw [hbuf, hcall]

/-- A step for a call that goes on: only its semaphore and its job change. -/
theorem MqInv.advance (h : MqInv s) {t : τ} {pc : MqPc} (hcall : (s.thread t).call = some call)
    (hpc : MqThread.call ⟨(s.thread t).msgBuf, pc⟩ = some call)
    (hthread : s'.thread = Function.update s.thread t ⟨(s.thread t).msgBuf, pc⟩)
    (hlive : s'.live = s.live) (hholder : s'.holder = s.holder) (hnext : s'.next = s.next)
    (hreturns : s'.returns = s.returns) (hsem : ∀ a, a ≠ call.msg → s'.sem a = s.sem a)
    (hjob : ∀ id, id ≠ call.id → s'.job id = s.job id)
    (hfinished : ∀ id ∈ s.finished, id ∈ s'.finished) (hanswered : pc.Answered s')
    (hquiet : pc ≠ .waiting call → call.reusable = true → s'.sem call.msg = 0)
    (hwaiting : s'.job call.id ≠ none → pc = .waiting call) : MqInv s' := by
  have hGood := h.threads.all t
  have hheld := hGood.held call hcall
  have huses : MqThread.uses ⟨(s.thread t).msgBuf, pc⟩ = (s.thread t).uses :=
    MqThread.uses_congr rfl (hpc.trans hcall.symm)
  refine h.move hthread ?_ ?_ ?_ ?_ ?_ ?_ ?_
  · refine ⟨?_, ?_, hfinished, Nat.le_of_eq hnext.symm⟩
    · intro a ha _
      refine ⟨congrFun hlive a, congrFun hholder a, hsem a ?_⟩
      rintro rfl
      exact ha (hGood.msg_mem_uses hcall)
    · intro id _ hother
      exact hjob id fun hid => hother call hcall hid.symm
  · refine ⟨?_, ?_, ?_, hanswered⟩
    · rw [huses, hlive]
      exact hGood.live
    · intro call' hcall'
      rw [hpc, Option.some.injEq] at hcall'
      subst hcall'
      refine ⟨by rw [hnext]; exact hheld.id_lt, hheld.reusable, hheld.fresh, ?_⟩
      rw [hholder]
      exact hheld.holder
    · intro m hm hother
      by_cases hmsg : m = call.msg
      · subst hmsg
        exact hquiet (fun hw => hother call hw rfl) (hheld.reusable_iff.mpr hm)
      · rw [hsem m hmsg]
        apply hGood.quiet m hm
        intro call' hpc'
        have hsame := hcall.symm.trans (MqThread.call_of_waiting hpc')
        rw [Option.some.injEq] at hsame
        rw [← hsame]
        exact Ne.symm hmsg
  · rw [huses]
    exact fun a ha => .inl ha
  · intro call' hcall'
    rw [hpc, Option.some.injEq] at hcall'
    exact .inl ⟨call, hcall, congrArg MqCall.id hcall'⟩
  · intro id hsome
    by_cases hid : id = call.id
    · exact .inr ⟨call, hwaiting (hid ▸ hsome), hid.symm⟩
    · rw [hjob id hid] at hsome
      exact .inl hsome
  · intro call' hpc' hsome
    have hsame := hcall.symm.trans (MqThread.call_of_waiting hpc')
    rw [Option.some.injEq] at hsame
    subst hsame
    exact ⟨call, hwaiting hsome, rfl⟩
  · rw [hreturns]
    exact fun r hr => .inl hr

end

/-! ## Each step -/

section

variable {τ : Type} {s : MqSys τ} {t : τ} {call : MqCall} {ret : Int}

theorem MqInv.failed (h : MqInv s) (hret : ret ≠ ctSuccess) :
    MqInv { s with
      next := s.next + 1
      returns := s.returns ++ [⟨s.next, ret⟩] } where
  threads := by
    refine ⟨?_, h.threads.apart⟩
    intro u
    exact (h.threads.all u).frame (fun _ _ => ⟨rfl, rfl, rfl⟩) (fun _ _ => rfl) (fun _ hid => hid)
      (Nat.le_succ _)
  jobs := h.jobs
  success r hr hsucc := by
    rcases List.mem_append.mp hr with hr | hr
    · exact h.success r hr hsucc
    · rw [List.mem_singleton] at hr
      subst hr
      exact absurd hsucc hret

variable [DecidableEq τ]

theorem MqThread.call_of_ready {th : MqThread} (hpc : th.pc = .ready call) :
    th.call = some call := by
  unfold MqThread.call
  rw [hpc]

theorem MqInv.sendOk (h : MqInv s) (hpc : (s.thread t).pc = .ready call) :
    MqInv { s with
      job := Function.update s.job call.id (some ⟨call.msg, call.bufs, false⟩)
      thread := Function.update s.thread t ⟨(s.thread t).msgBuf, .waiting call⟩ } := by
  have hanswered := (h.threads.all t).answered
  rw [hpc] at hanswered
  refine h.advance (MqThread.call_of_ready hpc) rfl rfl rfl rfl rfl rfl (fun _ _ => rfl) ?_
    (fun _ hid => hid) ?_ ?_ ?_
  · intro id hid
    exact Function.update_of_ne hid _ _
  · exact .inl ⟨false, Function.update_self _ _ _, hanswered.2, fun hp => by cases hp⟩
  · intro hwaiting
    exact absurd rfl hwaiting
  · exact fun _ => rfl

theorem MqInv.sendFailed (h : MqInv s) (hpc : (s.thread t).pc = .ready call) :
    MqInv { s with
      thread := Function.update s.thread t
        ⟨(s.thread t).msgBuf, .waited call errShmSendMsgFailed⟩ } := by
  have hanswered := (h.threads.all t).answered
  rw [hpc] at hanswered
  refine h.advance (MqThread.call_of_ready hpc) rfl rfl rfl rfl rfl rfl (fun _ _ => rfl)
    (fun _ _ => rfl) (fun _ hid => hid) ?_ ?_ ?_
  · exact ⟨hanswered.1, fun hret => by cases hret⟩
  · exact fun _ _ => hanswered.2
  · intro hjob
    exact absurd hanswered.1 hjob

/-- The server works for a waiting thread, which stays where it is. -/
theorem MqThread.update_waiting (hpc : (s.thread t).pc = .waiting call) :
    s.thread = Function.update s.thread t ⟨(s.thread t).msgBuf, .waiting call⟩ := by
  rw [← hpc]
  exact (Function.update_eq_self t s.thread).symm

theorem MqInv.process (h : MqInv s) {id : Nat} {job : MqJob} (hjob : s.job id = some job) :
    MqInv { s with
      job := Function.update s.job id (some { job with processed := true })
      finished := id :: s.finished } := by
  obtain ⟨t, call, hpc, rfl, hmsg, hbufs, hsem, -⟩ := h.job_eq hjob
  refine h.advance (MqThread.call_of_waiting hpc) rfl (MqThread.update_waiting hpc) rfl rfl rfl rfl
    (fun _ _ => rfl) ?_ ?_ ?_ ?_ ?_
  · intro id hid
    exact Function.update_of_ne hid _ _
  · exact fun id hid => List.mem_cons_of_mem _ hid
  · refine .inl ⟨true, ?_, hsem, fun _ => List.mem_cons_self⟩
    rw [← hmsg, ← hbufs]
    exact Function.update_self _ _ _
  · intro hwaiting
    exact absurd rfl hwaiting
  · exact fun _ => rfl

theorem MqInv.post (h : MqInv s) {id : Nat} {job : MqJob} (hjob : s.job id = some job)
    (hdone : job.processed = true) :
    MqInv { s with
      job := Function.update s.job id none
      sem := Function.update s.sem job.msg (s.sem job.msg + 1) } := by
  obtain ⟨t, call, hpc, rfl, hmsg, -, hsem, hfin⟩ := h.job_eq hjob
  refine h.advance (MqThread.call_of_waiting hpc) rfl (MqThread.update_waiting hpc) rfl rfl rfl rfl
    ?_ ?_ (fun _ hid => hid) ?_ ?_ ?_
  · intro a ha
    rw [hmsg]
    exact Function.update_of_ne ha _ _
  · intro id hid
    exact Function.update_of_ne hid _ _
  · refine .inr ⟨Function.update_self _ _ _, ?_, hfin hdone⟩
    rw [hmsg, hsem]
    exact Function.update_self _ _ _
  · intro hwaiting
    exact absurd rfl hwaiting
  · exact fun _ => rfl

theorem MqInv.wait (h : MqInv s) (hpc : (s.thread t).pc = .waiting call)
    (hsem : 0 < s.sem call.msg) :
    MqInv { s with
      sem := Function.update s.sem call.msg (s.sem call.msg - 1)
      thread := Function.update s.thread t ⟨(s.thread t).msgBuf, .waited call ret⟩ } := by
  have hanswered := (h.threads.all t).answered
  rw [hpc] at hanswered
  -- the semaphore is up, so this request has been processed
  have hposted : s.job call.id = none ∧ s.sem call.msg = 1 ∧ call.id ∈ s.finished := by
    rcases hanswered with ⟨processed, -, hdown, -⟩ | hposted
    · omega
    · exact hposted
  obtain ⟨hjob, hone, hfin⟩ := hposted
  refine h.advance (MqThread.call_of_waiting hpc) rfl rfl rfl rfl rfl rfl ?_ (fun _ _ => rfl)
    (fun _ hid => hid) ?_ ?_ ?_
  · intro a ha
    exact Function.update_of_ne ha _ _
  · exact ⟨hjob, fun _ => hfin⟩
  · intro _ _
    rw [hone]
    exact Function.update_self _ _ _
  · intro hsome
    exact absurd hjob hsome

theorem MqInv.giveUp (h : MqInv s) (hpc : (s.thread t).pc = .waiting call)
    (hfresh : call.reusable = false) (hjob : s.job call.id = none) :
    MqInv { s with
      thread := Function.update s.thread t
        ⟨(s.thread t).msgBuf, .waited call errSemFault⟩ } := by
  refine h.advance (MqThread.call_of_waiting hpc) rfl rfl rfl rfl rfl rfl (fun _ _ => rfl)
    (fun _ _ => rfl) (fun _ hid => hid) ?_ ?_ ?_
  · exact ⟨hjob, fun hret => by cases hret⟩
  · intro _ hre
    rw [hfresh] at hre
    cases hre
  · intro hsome
    exact absurd hjob hsome

/-- A thread without a call has the block of its handler only. -/
theorem MqThread.uses_idle (msgBuf : Option Nat) :
    MqThread.uses ⟨msgBuf, .idle⟩ = msgBuf.toList := List.append_nil _

theorem MqInv.openSess (h : MqInv s) {msg : Nat} (hth : s.thread t = ⟨none, .idle⟩)
    (hfree : s.live msg = false) :
    MqInv { s with
      live := Function.update s.live msg true
      sem := Function.update s.sem msg 0
      thread := Function.update s.thread t ⟨some msg, .idle⟩ } := by
  refine h.move rfl ⟨?_, fun _ _ _ => rfl, fun _ hid => hid, Nat.le_refl _⟩ ⟨?_, ?_, ?_, trivial⟩
    ?_ ?_ ?_ ?_ (fun _ hr => .inl hr)
  · intro a _ hused
    have ha : a ≠ msg := by
      rintro rfl
      rw [hfree] at hused
      cases hused
    exact ⟨Function.update_of_ne ha _ _, rfl, Function.update_of_ne ha _ _⟩
  · intro a ha
    rw [MqThread.uses_idle, Option.mem_toList, Option.some.injEq] at ha
    subst ha
    exact Function.update_self _ _ _
  · intro call hcall
    cases hcall
  · intro m hm _
    cases hm
    exact Function.update_self _ _ _
  · intro a ha
    rw [MqThread.uses_idle, Option.mem_toList, Option.some.injEq] at ha
    subst ha
    exact .inr hfree
  · intro call hcall
    cases hcall
  · exact fun _ hsome => .inl hsome
  · intro call hpc
    rw [hth] at hpc
    cases hpc

theorem MqInv.closeSess (h : MqInv s) {msg : Nat} (hth : s.thread t = ⟨some msg, .idle⟩) :
    MqInv { s with
      live := Function.update s.live msg false
      thread := Function.update s.thread t ⟨none, .idle⟩ } := by
  refine h.move rfl ⟨?_, fun _ _ _ => rfl, fun _ hid => hid, Nat.le_refl _⟩ ⟨?_, ?_, ?_, trivial⟩
    ?_ ?_ ?_ ?_ (fun _ hr => .inl hr)
  · intro a hother _
    have ha : a ≠ msg := by
      rintro rfl
      rw [hth, MqThread.uses_idle] at hother
      exact hother List.mem_cons_self
    exact ⟨Function.update_of_ne ha _ _, rfl, rfl⟩
  · intro a ha
    cases ha
  · intro call hcall
    cases hcall
  · intro m hm
    cases hm
  · intro a ha
    cases ha
  · intro call hcall
    cases hcall
  · exact fun _ hsome => .inl hsome
  · intro call hpc
    rw [hth] at hpc
    cases hpc

theorem MqInv.start (h : MqInv s) (hpc : (s.thread t).pc = .idle) (hid : call.id = s.next)
    (hmsg : call.reusable = true → (s.thread t).msgBuf = some call.msg)
    (hfree : ∀ a ∈ call.owned, s.live a = false) :
    MqInv { s with
      live := fun a => if a ∈ call.owned then true else s.live a
      holder := fun a => if a ∈ call.blocks then some call.id else s.holder a
      sem := if call.reusable then s.sem else Function.update s.sem call.msg 0
      next := s.next + 1
      thread := Function.update s.thread t ⟨(s.thread t).msgBuf, .ready call⟩ } := by
  have hbuf : ∀ m, (s.thread t).msgBuf = some m → s.live m = true ∧ s.sem m = 0 := by
    intro m hm
    apply (h.threads.all t).msgBuf_quiet _ hm
    intro call' hwaiting
    rw [hpc] at hwaiting
    cases hwaiting
  -- a fresh block is not the one of the handler
  have hfresh : ∀ a ∈ call.owned, (s.thread t).msgBuf ≠ some a := by
    intro a ha hm
    have hlive := hfree a ha
    rw [(hbuf _ hm).1] at hlive
    cases hlive
  refine h.move rfl ⟨?_, fun _ _ _ => rfl, fun _ hid => hid, Nat.le_succ _⟩
    ⟨?_, ?_, ?_, ?_⟩ ?_ ?_ ?_ ?_ (fun _ hr => .inl hr)
  · intro a hother hused
    have hnew : a ∉ call.owned := by
      intro ha
      rw [hfree a ha] at hused
      cases hused
    have hblock : a ∉ call.blocks := by
      apply MqCall.not_mem_blocks hnew
      rintro hre rfl
      exact hother (MqThread.mem_uses.mpr (.inl (hmsg hre)))
    have hne : a ≠ call.msg := by
      rintro rfl
      exact hblock List.mem_cons_self
    refine ⟨if_neg hnew, if_neg hblock, ?_⟩
    cases call.reusable with
    | true => rfl
    | false => exact Function.update_of_ne hne _ _
  · intro a ha
    rcases MqThread.mem_uses.mp ha with hm | ⟨call', hcall', ha⟩
    · have hlive := (hbuf a hm).1
      simp only [hlive, ite_self]
    · cases hcall'
      exact if_pos ha
  · intro call' hcall'
    cases hcall'
    exact ⟨hid ▸ Nat.lt_succ_self _, hmsg, hfresh, fun a ha => if_pos ha⟩
  · intro m hm _
    cases hre : call.reusable with
    | true => exact (hbuf m hm).2
    | false =>
      have hne : m ≠ call.msg := by
        rintro rfl
        exact hfresh _ (MqCall.mem_owned.mpr (.inl ⟨hre, rfl⟩)) hm
      exact (Function.update_of_ne hne _ _).trans (hbuf m hm).2
  · refine ⟨hid ▸ h.job_next, ?_⟩
    cases hre : call.reusable with
    | true => exact (hbuf _ (hmsg hre)).2
    | false => exact Function.update_self _ _ _
  · intro a ha
    rcases MqThread.mem_uses.mp ha with hm | ⟨call', hcall', ha⟩
    · exact .inl (MqThread.mem_uses.mpr (.inl hm))
    · cases hcall'
      exact .inr (hfree a ha)
  · intro call' hcall'
    cases hcall'
    exact .inr hid
  · exact fun _ hsome => .inl hsome
  · intro call' hwaiting
    rw [hpc] at hwaiting
    cases hwaiting

theorem MqInv.finish (h : MqInv s) (hpc : (s.thread t).pc = .waited call ret) :
    MqInv { s with
      live := fun a => if a ∈ call.owned then false else s.live a
      thread := Function.update s.thread t ⟨(s.thread t).msgBuf, .idle⟩
      returns := s.returns ++ [⟨call.id, ret⟩] } := by
  have hcall : (s.thread t).call = some call := by
    unfold MqThread.call
    rw [hpc]
  have hGood := h.threads.all t
  have hanswered := hGood.answered
  rw [hpc] at hanswered
  have hquiet : ∀ m, (s.thread t).msgBuf = some m → s.sem m = 0 := by
    intro m hm
    apply And.right
    apply hGood.msgBuf_quiet _ hm
    intro call' hwaiting
    rw [hpc] at hwaiting
    cases hwaiting
  refine h.move rfl ⟨?_, fun _ _ _ => rfl, fun _ hid => hid, Nat.le_refl _⟩ ⟨?_, ?_, ?_, trivial⟩
    ?_ ?_ ?_ ?_ ?_
  · intro a hother _
    refine ⟨if_neg ?_, rfl, rfl⟩
    intro ha
    exact hother (MqThread.mem_uses.mpr (.inr ⟨call, hcall, ha⟩))
  · intro a ha
    rw [MqThread.uses_idle, Option.mem_toList] at ha
    have hother : a ∉ call.owned := fun howned => (hGood.held call hcall).fresh a howned ha
    exact (if_neg hother).trans (hGood.live a (MqThread.mem_uses.mpr (.inl ha)))
  · intro call' hcall'
    cases hcall'
  · intro m hm _
    exact hquiet m hm
  · intro a ha
    rw [MqThread.uses_idle, Option.mem_toList] at ha
    exact .inl (MqThread.mem_uses.mpr (.inl ha))
  · intro call' hcall'
    cases hcall'
  · exact fun _ hsome => .inl hsome
  · intro call' hwaiting
    rw [hpc] at hwaiting
    cases hwaiting
  · intro r hr
    rcases List.mem_append.mp hr with hr | hr
    · exact .inl hr
    · rw [List.mem_singleton] at hr
      subst hr
      exact .inr hanswered.2

theorem MqInv.step {s' : MqSys τ} (h : MqInv s) {label : MqLabel τ} (hguard : WaitsForPost s label)
    (hstep : MqStep s label s') : MqInv s' := by
  cases hstep with
  | openSess t msg hth hfree => exact h.openSess hth hfree
  | closeSess t msg hth => exact h.closeSess hth
  | failed t ret hpc hret => exact h.failed hret
  | start t call hpc hid hcall hmsg hfree hnodup => exact h.start hpc hid hmsg hfree
  | sendOk t call hpc => exact h.sendOk hpc
  | sendFailed t call hpc => exact h.sendFailed hpc
  | process id job hjob hnew => exact h.process hjob
  | post id job hjob hdone => exact h.post hjob hdone
  | wait t call ret hpc hsem hret => exact h.wait hpc hsem
  | giveUp t call hpc =>
    obtain ⟨hfresh, hjob⟩ := hguard call hpc
    exact h.giveUp hpc hfresh hjob
  | finish t call ret hpc => exact h.finish hpc

theorem MqInv.init (τ : Type) : MqInv (MqSys.init τ) where
  threads := by
    refine ⟨?_, ?_⟩
    · intro t
      refine ⟨?_, ?_, ?_, trivial⟩
      · intro a ha
        cases ha
      · intro call hcall
        cases hcall
      · intro m hm
        cases hm
    · intro t u _
      constructor
      · intro a ha
        cases ha
      · intro call hcall
        cases hcall
  jobs id job hjob := by cases hjob
  success r hr := by cases hr

end

/-! ## One handler -/

end CantianConnector.Mq
