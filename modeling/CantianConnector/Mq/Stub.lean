import CantianConnector.Mq.Batch
import CantianConnector.Lib.Machine
import CantianConnector.Lib.Threads

/-!
# Results of stub calls

A stub allocates a request in shared memory, fills it, lets the server process it and reads the
results back. `ctc_drop_db_pre_check` reads all of them before it frees the request.
`ctc_drop_tablespace_and_user`, `ctc_pre_create_db`, `ctc_get_index_paral_schedule` and
`ctc_pq_set_cursor_range` free the request first and read `req->result` afterwards.

The threads interleave between the steps of a stub. The allocator hands out any block that is not
in use, with the bytes it holds; what it leaves in a block that it takes back is a parameter. A
request that reaches the server is processed before `ctc_mq_deal_func` returns.
-/

namespace CantianConnector.Mq

/-! ## Requests -/

/-- The four stubs that free the request early, and a sibling that does not. -/
inductive Stub
  | dropTablespaceAndUser
  | preCreateDb
  | getIndexParalSchedule
  | pqSetCursorRange
  | dropDbPreCheck
deriving DecidableEq, Repr

/-- `free_share_mem(shm_inst, req)` stands before the read of `req->result`. -/
def Stub.freesFirst : Stub → Bool
  | .dropTablespaceAndUser | .preCreateDb | .getIndexParalSchedule | .pqSetCursorRange => true
  | .dropDbPreCheck => false

def errConnectionFailed : Int := 4004

variable {η : Type}

/-- The fields of a request that a stub reads back; the message is the text before its first
zero. -/
structure StubReq (η : Type) where
  tch : η
  errorCode : Int
  errorMessage : List UInt8
  queryScn : Nat
  workerCount : Int
  result : Int
deriving DecidableEq, Repr

/-- The arguments among them. -/
structure StubArgs (η : Type) where
  tch : η
  queryScn : Nat
  workerCount : Int
deriving DecidableEq, Repr

/-- Filling the request: all stubs but `ctc_pq_set_cursor_range` clear it with `memset`. -/
def fillReq (args : StubArgs η) (old : StubReq η) : Stub → StubReq η
  | .dropTablespaceAndUser | .preCreateDb | .dropDbPreCheck => ⟨args.tch, 0, [], 0, 0, 0⟩
  | .getIndexParalSchedule => ⟨args.tch, 0, [], args.queryScn, args.workerCount, 0⟩
  | .pqSetCursorRange => { old with tch := args.tch, queryScn := args.queryScn }

/-- What a stub hands to its caller besides the result code; `none` leaves the caller's value. -/
structure StubOut (η : Type) where
  tch : η
  error : Option (Int × List UInt8)
  queryScn : Option Nat
  workerCount : Option Int
deriving DecidableEq, Repr

/-- The reads before `free_share_mem`. -/
def readBack (req : StubReq η) : Stub → StubOut η
  | .dropTablespaceAndUser | .preCreateDb =>
    ⟨req.tch, if req.errorMessage ≠ [] then some (req.errorCode, req.errorMessage) else none, none,
      none⟩
  | .dropDbPreCheck => ⟨req.tch, some (req.errorCode, req.errorMessage), none, none⟩
  | .getIndexParalSchedule => ⟨req.tch, none, some req.queryScn, some req.workerCount⟩
  | .pqSetCursorRange => ⟨req.tch, none, none, none⟩

/-- The result of a call that `ctc_mq_deal_func` failed with `ret`. -/
def Stub.failed (ret : Int) : Stub → Int
  | .dropTablespaceAndUser | .preCreateDb | .dropDbPreCheck => errConnectionFailed
  | .getIndexParalSchedule | .pqSetCursorRange => ret

/-- How the requests of the stubs lie in a block of shared memory. Different stubs may read
different bytes. -/
structure ReqLayout (η μ : Type) where
  view : Stub → μ → StubReq η
  store : Stub → StubReq η → μ → μ
  view_store : ∀ stub req block, view stub (store stub req block) = req

/-! ## Threads -/

/-- A call that has its request at `addr`; `stored` is the result that the engine has stored for
it. -/
structure StubCall where
  stub : Stub
  addr : Nat
  stored : Option Int
deriving DecidableEq, Repr

/-- Where a thread stands. A freed call has its result, or has still to read it from the block. -/
inductive StubPc (η : Type)
  | idle
  | allocated (call : StubCall)
  | sent (call : StubCall)
  | answered (call : StubCall) (ret : Int)
  | freed (call : StubCall) (ret : Int) (out : StubOut η) (result : Option Int)

/-- A call that has returned. -/
structure StubReturn (τ η : Type) where
  thread : τ
  stub : Stub
  ret : Int
  out : Option (StubOut η)
  result : Int
  stored : Option Int

/-- The result that a successful call returns is the one that the engine has stored for it. -/
def StubReturn.Intact {τ : Type} (r : StubReturn τ η) : Prop :=
  r.ret = ctSuccess → r.stored = some r.result

/-- The shared memory, the threads and the calls that have returned. -/
structure StubSys (τ η μ : Type) where
  mem : Nat → μ
  live : Nat → Bool
  pc : τ → StubPc η
  returns : List (StubReturn τ η)

/-- No block is in use and no call is running. -/
def StubSys.init {τ μ : Type} (mem : Nat → μ) : StubSys τ η μ :=
  ⟨mem, fun _ => false, fun _ => .idle, []⟩

inductive StubLabel (τ η : Type)
  | noMemory (t : τ) (stub : Stub)
  | alloc (t : τ) (stub : Stub) (addr : Nat)
  | fill (t : τ) (args : StubArgs η)
  | serve (t : τ) (answer : StubReq η)
  | dealt (t : τ) (ret : Int)
  | free (t : τ)
  | done (t : τ)

section

variable {τ μ : Type} [DecidableEq τ] (lay : ReqLayout η μ) (left : μ → μ)

/-- The result at the time of the free: read before it, or still to be read. -/
def readResult (call : StubCall) (ret : Int) (req : StubReq η) : Option Int :=
  if ret ≠ ctSuccess then some (call.stub.failed ret)
  else if call.stub.freesFirst then none
  else some req.result

/-- A step of a thread, or of the server for it. -/
inductive StubStep (s : StubSys τ η μ) : StubLabel τ η → StubSys τ η μ → Prop
  | noMemory (t : τ) (stub : Stub) (hpc : s.pc t = .idle) :
    StubStep s (.noMemory t stub)
      { s with returns := s.returns ++
          [⟨t, stub, errAllocMemory, none, errAllocMemory, none⟩] }
  | alloc (t : τ) (stub : Stub) (addr : Nat) (hpc : s.pc t = .idle)
      (hfree : s.live addr = false) :
    StubStep s (.alloc t stub addr)
      { s with
        live := Function.update s.live addr true
        pc := Function.update s.pc t (.allocated ⟨stub, addr, none⟩) }
  | fill (t : τ) (args : StubArgs η) (call : StubCall) (hpc : s.pc t = .allocated call) :
    StubStep s (.fill t args)
      { s with
        mem := Function.update s.mem call.addr
          (lay.store call.stub (fillReq args (lay.view call.stub (s.mem call.addr)) call.stub)
            (s.mem call.addr))
        pc := Function.update s.pc t (.sent call) }
  | serve (t : τ) (answer : StubReq η) (call : StubCall) (hpc : s.pc t = .sent call)
      (hnew : call.stored = none) :
    StubStep s (.serve t answer)
      { s with
        mem := Function.update s.mem call.addr
          (lay.store call.stub answer (s.mem call.addr))
        pc := Function.update s.pc t (.sent { call with stored := some answer.result }) }
  | dealt (t : τ) (ret : Int) (call : StubCall) (hpc : s.pc t = .sent call)
      (hret : ret = ctSuccess ↔ call.stored ≠ none) :
    StubStep s (.dealt t ret) { s with pc := Function.update s.pc t (.answered call ret) }
  | free (t : τ) (call : StubCall) (ret : Int) (hpc : s.pc t = .answered call ret) :
    StubStep s (.free t)
      { s with
        mem := Function.update s.mem call.addr (left (s.mem call.addr))
        live := Function.update s.live call.addr false
        pc := Function.update s.pc t
          (.freed call ret (readBack (lay.view call.stub (s.mem call.addr)) call.stub)
            (readResult call ret (lay.view call.stub (s.mem call.addr)))) }
  | done (t : τ) (call : StubCall) (ret : Int) (out : StubOut η) (result : Option Int)
      (hpc : s.pc t = .freed call ret out result) :
    StubStep s (.done t)
      { s with
        pc := Function.update s.pc t .idle
        returns := s.returns ++
          [⟨t, call.stub, ret, some out,
            result.getD (lay.view call.stub (s.mem call.addr)).result, call.stored⟩] }

/-- No block is handed out while a call that has freed it is still to read its result there, and
the allocator leaves the result of a block that it takes back. -/
def ReadBeforeReuse (s : StubSys τ η μ) : StubLabel τ η → Prop
  | .alloc _ _ addr => ∀ u call ret out, s.pc u = .freed call ret out none → call.addr ≠ addr
  | .free t => ∀ call ret, s.pc t = .answered call ret →
    (lay.view call.stub (left (s.mem call.addr))).result =
      (lay.view call.stub (s.mem call.addr)).result
  | _ => True

/-- A step whose label meets the guard. -/
def StubMove (guard : StubSys τ η μ → StubLabel τ η → Prop) (s s' : StubSys τ η μ) : Prop :=
  ∃ label, guard s label ∧ StubStep lay left s label s'

end

/-! ## What the threads rely on -/

section

variable {τ μ : Type} (lay : ReqLayout η μ)

/-- The block of the call is in use by the thread. -/
def StubPc.owns : StubPc η → Option StubCall
  | .idle | .freed _ _ _ _ => none
  | .allocated call | .sent call | .answered call _ => some call

/-- The block of the call holds the result that the engine has stored. -/
def Holds (s : StubSys τ η μ) (call : StubCall) : Prop :=
  ∀ v, call.stored = some v → (lay.view call.stub (s.mem call.addr)).result = v

/-- Under `P` a freed block still has the result that is to be read from it. -/
def StubPc.Good (P : Prop) (s : StubSys τ η μ) : StubPc η → Prop
  | .idle => True
  | .allocated call => s.live call.addr = true ∧ call.stored = none
  | .sent call => s.live call.addr = true ∧ Holds lay s call
  | .answered call ret =>
    s.live call.addr = true ∧ Holds lay s call ∧ (ret = ctSuccess → call.stored ≠ none)
  | .freed call ret _ result => ret = ctSuccess → ∃ v, call.stored = some v ∧
    (result = some v ∨ result = none ∧ call.stub.freesFirst = true ∧
      (P → s.live call.addr = false ∧ (lay.view call.stub (s.mem call.addr)).result = v))

/-- Two threads use different blocks. -/
def StubPc.Apart (p q : StubPc η) : Prop :=
  ∀ call, p.owns = some call → ∀ call', q.owns = some call' → call.addr ≠ call'.addr

theorem StubPc.Apart.symm {p q : StubPc η} (h : p.Apart q) : q.Apart p := by
  intro call hq call' hp hsame
  exact h call' hp call hq hsame.symm

variable {lay} {P : Prop} {s s' : StubSys τ η μ} {p : StubPc η}

theorem StubPc.Good.live_of_owns (h : p.Good lay P s) {call : StubCall}
    (howns : p.owns = some call) : s.live call.addr = true := by
  cases p with
  | idle | freed => cases howns
  | allocated | sent | answered =>
    cases howns
    exact h.1

/-- A thread does not notice a change of a block that it neither uses nor has still to read. -/
theorem StubPc.Good.frame (h : p.Good lay P s) {addr : Nat}
    (hmem : ∀ a, a ≠ addr → s'.mem a = s.mem a) (hlive : ∀ a, a ≠ addr → s'.live a = s.live a)
    (howns : ∀ call, p.owns = some call → call.addr ≠ addr)
    (hread : P → ∀ call out, p = .freed call ctSuccess out none → call.addr ≠ addr) :
    p.Good lay P s' := by
  have hcall : ∀ call, p.owns = some call →
      s'.live call.addr = s.live call.addr ∧ (Holds lay s call → Holds lay s' call) := by
    intro call hp
    refine ⟨hlive _ (howns call hp), ?_⟩
    intro hholds v hv
    rw [hmem _ (howns call hp)]
    exact hholds v hv
  cases p with
  | idle => trivial
  | allocated call =>
    obtain ⟨hlive', -⟩ := hcall call rfl
    exact ⟨hlive'.trans h.1, h.2⟩
  | sent call =>
    obtain ⟨hlive', hholds⟩ := hcall call rfl
    exact ⟨hlive'.trans h.1, hholds h.2⟩
  | answered call ret =>
    obtain ⟨hlive', hholds⟩ := hcall call rfl
    exact ⟨hlive'.trans h.1, hholds h.2.1, h.2.2⟩
  | freed call ret out result =>
    intro hret
    obtain ⟨v, hv, hdone | ⟨hnone, hfirst, hblock⟩⟩ := h hret
    · exact ⟨v, hv, .inl hdone⟩
    · refine ⟨v, hv, .inr ⟨hnone, hfirst, ?_⟩⟩
      intro hP
      have hother : call.addr ≠ addr := by
        apply hread hP call out
        rw [hret, hnone]
      rw [hlive _ hother, hmem _ hother]
      exact hblock hP

/-- A block in use is not one that a freed call has still to read. -/
theorem StubPc.Good.addr_ne (h : p.Good lay P s) {addr : Nat} (hused : s.live addr = true)
    (hP : P) {call : StubCall} {out : StubOut η} (hp : p = .freed call ctSuccess out none) :
    call.addr ≠ addr := by
  subst hp
  obtain ⟨v, -, hdone | ⟨-, -, hblock⟩⟩ := h rfl
  · cases hdone
  · intro hsame
    rw [← hsame, (hblock hP).1] at hused
    cases hused

/-- The threads are as they should be, and so are the calls that have returned: all of them
under `P`, and those of the sibling in any case. -/
structure StubInv (lay : ReqLayout η μ) (P : Prop) (s : StubSys τ η μ) : Prop where
  threads : Threads.Sound (StubPc.Good lay P) StubPc.Apart s s.pc
  intact : ∀ r ∈ s.returns, P ∨ r.stub.freesFirst = false → r.Intact

/-- A block in use by one thread is neither in use by another nor still to be read. -/
theorem StubInv.others (h : StubInv lay P s) {t : τ} {call : StubCall}
    (hcall : (s.pc t).owns = some call) :
    (∀ u, u ≠ t → ∀ call', (s.pc u).owns = some call' → call'.addr ≠ call.addr) ∧
      (P → ∀ u call' out, s.pc u = .freed call' ctSuccess out none → call'.addr ≠ call.addr) := by
  constructor
  · intro u hu call' hcall'
    exact h.threads.apart u t hu call' hcall' call hcall
  · intro hP u call' out hu
    exact (h.threads.all u).addr_ne ((h.threads.all t).live_of_owns hcall) hP hu

theorem StubInv.init (mem : Nat → μ) : StubInv lay P (StubSys.init mem : StubSys τ η μ) where
  threads := by
    refine ⟨fun _ => trivial, ?_⟩
    intro t u _ call hcall
    cases hcall
  intact := by
    intro r hr
    cases hr

/-- A call returns. -/
theorem StubInv.intact_append (h : StubInv lay P s) {r : StubReturn τ η}
    (hr : P ∨ r.stub.freesFirst = false → r.Intact) :
    ∀ r' ∈ s.returns ++ [r], P ∨ r'.stub.freesFirst = false → r'.Intact := by
  intro r' hr'
  rcases List.mem_append.mp hr' with hr' | hr'
  · exact h.intact r' hr'
  · rw [List.mem_singleton] at hr'
    subst hr'
    exact hr

theorem StubInv.good (h : StubInv lay P s) {t : τ} {q : StubPc η} (hpc : s.pc t = q) :
    q.Good lay P s := by
  rw [← hpc]
  exact h.threads.all t

/-- What the call reads, before or after it frees its block, is what the engine has stored. -/
theorem StubPc.good_freed {call : StubCall} {ret : Int} {out : StubOut η}
    (hGood : StubPc.Good lay P s (.answered call ret)) (hlive : s'.live call.addr = false)
    (hkept : P → (lay.view call.stub (s'.mem call.addr)).result =
      (lay.view call.stub (s.mem call.addr)).result) :
    StubPc.Good lay P s'
      (.freed call ret out (readResult call ret (lay.view call.stub (s.mem call.addr)))) := by
  intro hret
  obtain ⟨v, hv⟩ := Option.ne_none_iff_exists'.mp (hGood.2.2 hret)
  have hresult := hGood.2.1 v hv
  refine ⟨v, hv, ?_⟩
  unfold readResult
  rw [if_neg (not_not_intro hret)]
  by_cases hfirst : call.stub.freesFirst = true
  · rw [if_pos hfirst]
    refine .inr ⟨rfl, hfirst, ?_⟩
    intro hP
    exact ⟨hlive, (hkept hP).trans hresult⟩
  · rw [if_neg hfirst, hresult]
    exact .inl rfl

/-- A call that has read its result, or reads it from a block that nobody has touched, returns it. -/
theorem StubPc.Good.intact {call : StubCall} {ret : Int} {out : StubOut η} {result : Option Int}
    (hGood : StubPc.Good lay P s (.freed call ret out result)) (t : τ)
    (hkind : P ∨ call.stub.freesFirst = false) :
    StubReturn.Intact (⟨t, call.stub, ret, some out,
      result.getD (lay.view call.stub (s.mem call.addr)).result, call.stored⟩ :
        StubReturn τ η) := by
  intro hret
  obtain ⟨v, hv, hdone | ⟨hnone, hfirst, hblock⟩⟩ := hGood hret
  · rw [hv, hdone]
    rfl
  · rcases hkind with hP | hlate
    · rw [hv, hnone, ← (hblock hP).2]
      rfl
    · rw [hfirst] at hlate
      cases hlate

variable [DecidableEq τ] {left : μ → μ}

/-- A thread may move and change a block that no other thread relies on. -/
theorem StubInv.threads_step (h : StubInv lay P s) {t : τ} (addr : Nat)
    (hmem : ∀ a, a ≠ addr → s'.mem a = s.mem a) (hlive : ∀ a, a ≠ addr → s'.live a = s.live a)
    (hpc : s'.pc = Function.update s.pc t p) (hMine : p.Good lay P s')
    (hAddr : ∀ call, p.owns = some call → call.addr = addr)
    (hOthers : (∀ u, u ≠ t → ∀ call, (s.pc u).owns = some call → call.addr ≠ addr) ∧
      (P → ∀ u call out, s.pc u = .freed call ctSuccess out none → call.addr ≠ addr)) :
    Threads.Sound (StubPc.Good lay P) StubPc.Apart s' s'.pc := by
  rw [hpc]
  refine h.threads.step (fun _ _ => StubPc.Apart.symm) hMine ?_
  intro u hu hGood _
  constructor
  · exact hGood.frame hmem hlive (hOthers.1 u hu) (fun hP call out => hOthers.2 hP u call out)
  · intro call hp call' hcall'
    rw [hAddr call hp]
    exact (hOthers.1 u hu call' hcall').symm

/-- A thread works on the block that it has in use. -/
theorem StubInv.own_block (h : StubInv lay P s) {t : τ} {q : StubPc η} (hpc : s.pc t = q)
    {call : StubCall} (hcall : q.owns = some call)
    (hmem : ∀ a, a ≠ call.addr → s'.mem a = s.mem a)
    (hlive : ∀ a, a ≠ call.addr → s'.live a = s.live a)
    (hpc' : s'.pc = Function.update s.pc t p) (hReturns : s'.returns = s.returns)
    (hMine : p.Good lay P s') (hAddr : ∀ call', p.owns = some call' → call'.addr = call.addr) :
    StubInv lay P s' := by
  constructor
  · apply h.threads_step call.addr hmem hlive hpc' hMine hAddr
    apply h.others
    rw [hpc]
    exact hcall
  · rw [hReturns]
    exact h.intact

theorem StubInv.step (h : StubInv lay P s) {label : StubLabel τ η}
    (hguard : P → ReadBeforeReuse lay left s label) (hstep : StubStep lay left s label s') :
    StubInv lay P s' := by
  cases hstep with
  | noMemory t stub hpc =>
    refine ⟨⟨h.threads.all, h.threads.apart⟩, h.intact_append ?_⟩
    intro _ hret
    cases hret
  | alloc t stub addr hpc hfree =>
    refine ⟨h.threads_step addr (fun _ _ => rfl) ?_ rfl ?_ ?_ ?_, h.intact⟩
    · intro a ha
      exact Function.update_of_ne ha _ _
    · exact ⟨Function.update_self _ _ _, rfl⟩
    · intro call hcall
      cases hcall
      rfl
    · constructor
      · intro u _ call hcall hsame
        have hused := (h.threads.all u).live_of_owns hcall
        rw [hsame, hfree] at hused
        cases hused
      · intro hP u call out hu
        exact hguard hP u call ctSuccess out hu
  | fill t args call hpc =>
    obtain ⟨hlive, hstored⟩ := h.good hpc
    refine h.own_block hpc rfl ?_ (fun _ _ => rfl) rfl rfl ⟨hlive, ?_⟩ ?_
    · intro a ha
      exact Function.update_of_ne ha _ _
    · intro v hv
      rw [hstored] at hv
      cases hv
    · intro call' hcall'
      cases hcall'
      rfl
  | serve t answer call hpc hnew =>
    refine h.own_block hpc rfl ?_ (fun _ _ => rfl) rfl rfl ⟨(h.good hpc).1, ?_⟩ ?_
    · intro a ha
      exact Function.update_of_ne ha _ _
    · intro v hv
      rw [Option.some.injEq] at hv
      have hblock : Function.update s.mem call.addr (lay.store call.stub answer (s.mem call.addr))
          call.addr = lay.store call.stub answer (s.mem call.addr) := Function.update_self _ _ _
      rw [← hv]
      exact congrArg StubReq.result
        ((congrArg (lay.view call.stub) hblock).trans (lay.view_store _ _ _))
    · intro call' hcall'
      cases hcall'
      rfl
  | dealt t ret call hpc hret =>
    obtain ⟨hlive, hholds⟩ := h.good hpc
    refine h.own_block hpc rfl (fun _ _ => rfl) (fun _ _ => rfl) rfl rfl
      ⟨hlive, hholds, hret.mp⟩ ?_
    intro call' hcall'
    cases hcall'
    rfl
  | free t call ret hpc =>
    refine h.own_block hpc rfl ?_ ?_ rfl rfl ?_ ?_
    · intro a ha
      exact Function.update_of_ne ha _ _
    · intro a ha
      exact Function.update_of_ne ha _ _
    · apply StubPc.good_freed (h.good hpc)
      · exact Function.update_self _ _ _
      · intro hP
        have hblock : Function.update s.mem call.addr (left (s.mem call.addr)) call.addr =
            left (s.mem call.addr) := Function.update_self _ _ _
        calc (lay.view call.stub (Function.update s.mem call.addr _ call.addr)).result
            = (lay.view call.stub (left (s.mem call.addr))).result := by rw [hblock]
          _ = (lay.view call.stub (s.mem call.addr)).result := hguard hP call ret hpc
    · intro call' hcall'
      cases hcall'
  | done t call ret out result hpc =>
    refine ⟨?_, h.intact_append ((h.good hpc).intact t)⟩
    refine h.threads.step (fun _ _ => StubPc.Apart.symm) trivial ?_
    intro u _ hu _
    refine ⟨hu, ?_⟩
    intro call' hcall'
    cases hcall'

/-- The sibling returns the result of its own request in every run. -/
theorem dropDbPreCheck_intact {mem : Nat → μ}
    (hRun : Relation.ReflTransGen (StubMove lay left fun _ _ => True) (StubSys.init mem) s)
    {r : StubReturn τ η} (hr : r ∈ s.returns) (hstub : r.stub = .dropDbPreCheck) : r.Intact := by
  have hInv : StubInv lay False s := by
    refine Machine.invariant_of_reaches ?_ (StubInv.init mem) hRun
    rintro s₁ s₂ h₁ ⟨label, -, hstep⟩
    exact h₁.step False.elim hstep
  apply hInv.intact r hr
  rw [hstub]
  exact .inr rfl

/-- **Results of their own requests.** In every run in which no block is handed out between a
call's free and its last read, every call returns the result that the engine has stored for it. -/
theorem stub_results_intact {mem : Nat → μ}
    (hRun : Relation.ReflTransGen (StubMove lay left (ReadBeforeReuse lay left))
      (StubSys.init mem) s) {r : StubReturn τ η} (hr : r ∈ s.returns) : r.Intact := by
  have hInv : StubInv lay True s := by
    refine Machine.invariant_of_reaches ?_ (StubInv.init mem) hRun
    rintro s₁ s₂ h₁ ⟨label, hguard, hstep⟩
    exact h₁.step (fun _ => hguard) hstep
  exact hInv.intact r hr (.inl trivial)

end

/-! ## Two threads -/

/-- All stubs read the same bytes. -/
def sameLayout : ReqLayout Unit (StubReq Unit) where
  view _ block := block
  store _ req _ := req
  view_store _ _ _ := rfl

/-- Blocks full of zeros. -/
def clearedSys : StubSys Nat Unit (StubReq Unit) := .init fun _ => ⟨(), 0, [], 0, 0, 0⟩

/-- The engine's answer to thread 0: error 5. -/
def refusal : StubReq Unit := ⟨(), 5, [], 0, 0, 5⟩

/-- Thread 0 has freed the request of `ctc_drop_tablespace_and_user` at address 7. -/
def freedSys : StubSys Nat Unit (StubReq Unit) where
  mem := Function.update (Function.update (Function.update clearedSys.mem 7 ⟨(), 0, [], 0, 0, 0⟩) 7
    refusal) 7 refusal
  live := Function.update (Function.update clearedSys.live 7 true) 7 false
  pc := Function.update (Function.update (Function.update (Function.update (Function.update
    clearedSys.pc 0 (.allocated ⟨.dropTablespaceAndUser, 7, none⟩)) 0
    (.sent ⟨.dropTablespaceAndUser, 7, none⟩)) 0 (.sent ⟨.dropTablespaceAndUser, 7, some 5⟩)) 0
    (.answered ⟨.dropTablespaceAndUser, 7, some 5⟩ 0)) 0
    (.freed ⟨.dropTablespaceAndUser, 7, some 5⟩ 0 ⟨(), none, none, none⟩ none)
  returns := []

def StubLabel.isAlloc : StubLabel Nat Unit → Bool
  | .alloc _ _ _ => true
  | _ => false

theorem freedSys_reached (guard : StubSys Nat Unit (StubReq Unit) → StubLabel Nat Unit → Prop)
    (hAlloc : guard clearedSys (.alloc 0 .dropTablespaceAndUser 7))
    (hRest : ∀ s label, label.isAlloc = false → guard s label) :
    Relation.ReflTransGen (StubMove sameLayout id guard) clearedSys freedSys := by
  refine .head ⟨_, hAlloc, .alloc 0 _ 7 rfl rfl⟩ ?_
  refine .head ⟨_, hRest _ _ rfl, .fill 0 ⟨(), 0, 0⟩ _ rfl⟩ ?_
  refine .head ⟨_, hRest _ _ rfl, .serve 0 refusal _ rfl rfl⟩ ?_
  refine .head ⟨_, hRest _ _ rfl, .dealt 0 0 _ rfl (by decide)⟩ ?_
  refine .head ⟨_, hRest _ _ rfl, .free 0 _ _ rfl⟩ ?_
  exact .refl

/-- Thread 1 gets the block and clears it before thread 0 reads its result: the refused request
is reported as done. -/
theorem stub_result_overwritten :
    ∃ s, Relation.ReflTransGen (StubMove sameLayout id fun _ _ => True) clearedSys s ∧
      ∃ r ∈ s.returns, r.stub = .dropTablespaceAndUser ∧ r.result = ctSuccess ∧
        r.stored = some 5 ∧ ¬ r.Intact := by
  have hAlloc := (freedSys_reached (fun _ _ => True) trivial fun _ _ _ => trivial).tail
    ⟨.alloc 1 .preCreateDb 7, trivial, .alloc 1 .preCreateDb 7 rfl rfl⟩
  have hFill := hAlloc.tail ⟨.fill 1 ⟨(), 0, 0⟩, trivial, .fill 1 _ _ rfl⟩
  have hDone := hFill.tail ⟨.done 0, trivial, .done 0 _ _ _ _ rfl⟩
  refine ⟨_, hDone, _, List.mem_singleton.mpr rfl, rfl, rfl, rfl, ?_⟩
  intro hIntact
  have hsome := hIntact rfl
  cases hsome

/-- Thread 0 reads its result before anyone else gets the block. -/
theorem stub_results_intact_refused :
    ∃ s, Relation.ReflTransGen (StubMove sameLayout id (ReadBeforeReuse sameLayout id)) clearedSys
        s ∧ ∃ r ∈ s.returns, r.stub = .dropTablespaceAndUser ∧ r.result = 5 ∧ r.Intact := by
  have hFreed : Relation.ReflTransGen (StubMove sameLayout id (ReadBeforeReuse sameLayout id))
      clearedSys freedSys := by
    apply freedSys_reached
    · intro u call ret out hu
      cases hu
    · intro s label hlabel
      cases label with
      | alloc t stub addr => cases hlabel
      | free t => exact fun _ _ _ => rfl
      | _ => trivial
  have hRun := hFreed.tail ⟨.done 0, trivial, .done 0 _ _ _ _ rfl⟩
  exact ⟨_, hRun, _, List.mem_singleton.mpr rfl, rfl, rfl,
    stub_results_intact hRun (List.mem_singleton.mpr rfl)⟩

end CantianConnector.Mq
