import BundleFramework.Lib.StepRun
import BundleFramework.Lib.ThreadPool
import BundleFramework.Lib.MapLoop

/-!
# The connection to the service centre

`BundleConnectAbilityMgr` connects to the service centre, hands it install requests, and answers
the caller of a request when the service centre reports, when it dies, or when a timeout task runs
out.  When no request is left, a delayed task closes the connection.

The machine is a pool of threads over shared state.  What a thread does under one hold of
`mapMutex_`, of `mutex_` or of the queue's own lock is one step; `mutex_` is also held over several steps, by
`ConnectAbility` while the ability manager is asked to connect and by `SendRequest` from the insertion to its
end (`locked`).  A step that finds `mutex_` taken does nothing.

* The condition variable is the number of `notify_all` calls so far: a waiter remembers the
  number it went to sleep with, and may wake at any time.
* The queue runs one task at a time.  A task may start at any time after it was submitted: delays
  are not modelled.  `taskMap_` keeps the last handle of a name, so what was submitted before under that
  name can no longer be cancelled.
* Requests to the ability manager and to the service centre, the writing of parcels and the submission of tasks
  succeed or fail as the step's `Answer` says.

Callers that are turned away without an entry in `freeInstallParamsMap_` are called back by
`CallAbilityManager` at once; they just end here.
-/

namespace BundleFramework.FreeInstall

open Std ThreadPool

inductive ServiceCenterFunction where
  | CONNECT_SILENT_INSTALL
  | CONNECT_UPGRADE_CHECK
  | CONNECT_UPGRADE_INSTALL
  | CONNECT_PRELOAD_INSTALL
  deriving DecidableEq

/-- `DISCONNECT_ABILITY_FUNC`. -/
def ServiceCenterFunction.inDisconnectAbilityFunc : ServiceCenterFunction → Bool
  | .CONNECT_UPGRADE_CHECK | .CONNECT_PRELOAD_INSTALL => true
  | _ => false

/-- Requests of these kinds are made with a callback, the others without. -/
def ServiceCenterFunction.callback : ServiceCenterFunction → Bool
  | .CONNECT_SILENT_INSTALL | .CONNECT_UPGRADE_INSTALL => true
  | _ => false

inductive ConnectState where
  | DISCONNECTED
  | CONNECTING
  | CONNECTED
  deriving DecidableEq

def FREE_INSTALL_OK : Int := 0
def FREE_INSTALL_DOWNLOADING : Int := 1
def CONNECT_ERROR : Int := 0x820101
def SERVICE_CENTER_CRASH : Int := 0x820102
def SERVICE_CENTER_TIMEOUT : Int := 0x820103

/-! ## The queue -/

inductive TaskName where
  | disconnectDelay
  | outTime (transactId : Nat)
  deriving DecidableEq

structure Task where
  name : TaskName
  handle : Nat
  deriving DecidableEq

structure SerialQueue where
  nextHandle : Nat := 0
  /-- Tasks that are submitted and not yet started. -/
  tasks : List Task := []
  taskMap : TaskName → Option Nat := fun _ => none
  /-- A task is running. -/
  busy : Bool := false

/-- `ScheduleDelayTask`, where `submit_h` gave a handle or none. -/
def SerialQueue.scheduleDelayTask (q : SerialQueue) (submitted : Bool) (taskName : TaskName) : SerialQueue :=
  if submitted then
    { q with
      nextHandle := q.nextHandle + 1
      tasks := q.tasks ++ [⟨taskName, q.nextHandle⟩]
      taskMap := fun name => if name = taskName then some q.nextHandle else q.taskMap name }
  else q

/-- `CancelDelayTask`: a task that has started is not stopped. -/
def SerialQueue.cancelDelayTask (q : SerialQueue) (taskName : TaskName) : SerialQueue :=
  match q.taskMap taskName with
  | none => q
  | some handle =>
    { q with
      tasks := q.tasks.filter fun task => task.handle ≠ handle
      taskMap := fun name => if name = taskName then none else q.taskMap name }

/-! ## State and threads -/

structure Shared where
  connectState : ConnectState := .DISCONNECTED
  /-- `mutex_` is held from one step to the next. -/
  locked : Bool := false
  /-- Calls of `cv_.notify_all` so far. -/
  notified : Nat := 0
  freeInstallParamsMap : ExtTreeMap Nat ServiceCenterFunction := ∅
  queue : SerialQueue := {}
  transactId : Nat := 0
  /-- The callbacks invoked so far, with the result code each was given. -/
  answered : List (Nat × Int) := []

/-- Who runs `SendCallBack` or `OutTimeMonitor`: `SendRequest` with `mutex_`, the service centre, or
the queue. -/
inductive Origin where
  | sender
  | service
  | queue
  deriving DecidableEq

/-- Where a thread stands in `ConnectAbility`. -/
inductive Stage where
  | enter
  /-- The ability manager is asked to connect; `mutex_` is held. -/
  | request
  | waitFromConnecting (since : Nat)
  | waitFromConnected (since : Nat)
  deriving DecidableEq

inductive Thread where
  | connect (transactId : Nat) (function : ServiceCenterFunction) (stage : Stage)
  /-- `ConnectAbility` has returned true. -/
  | connected (transactId : Nat) (function : ServiceCenterFunction)
  /-- `SendRequest` has inserted its entry and sends; `mutex_` is held. -/
  | sent (transactId : Nat)
  /-- The same in `PreloadRequest`. -/
  | preloadSent
  /-- `OutTimeMonitor`, before its look at the map. -/
  | outTimeMonitor (transactId : Nat) (origin : Origin)
  /-- `OutTimeMonitor`, before it schedules. -/
  | arm (transactId : Nat) (origin : Origin)
  /-- `SendCallBack`, before `GetAbilityManagerServiceCallBack`. -/
  | fetch (transactId : Nat) (resultCode : Int) (origin : Origin)
  /-- `SendCallBack`, with the callback in hand and the entry not yet erased by it. -/
  | erase (transactId : Nat) (resultCode : Int) (origin : Origin)
  /-- `SendCallBack`, before the callback is invoked. -/
  | reply (transactId : Nat) (resultCode : Int) (origin : Origin)
  | onServiceCenterCall (transactId : Nat) (retCode : Int)
  | onDelayedHeartbeat (transactId : Nat)
  | onServiceCenterReceived (transactId : Nat)
  /-- The delayed task, before `DisconnectAbility`. -/
  | disconnect
  | ended
  deriving DecidableEq

abbrev Machine := Pool Shared Thread

/-- What a step learns from outside. -/
structure Answer where
  /-- The connection object could be made. -/
  allocated : Bool := true
  /-- The parcel could be written. -/
  written : Bool := true
  /-- The queue gave a handle for the task. -/
  submitted : Bool := true
  /-- There is a remote object. -/
  remote : Bool := true
  /-- The message got through. -/
  ok : Bool := true

namespace Shared

variable (a : Answer) (s : Shared)

def disconnectDelay : Shared := { s with queue := s.queue.scheduleDelayTask a.submitted .disconnectDelay }

/-- What `SendCallBack` and `OnServiceCenterReceived` do after an entry is erased. -/
def afterErase : Shared :=
  if s.freeInstallParamsMap.isEmpty ∧ s.connectState = .CONNECTED then s.disconnectDelay a else s

/-- The thread leaves `SendCallBack` or `OutTimeMonitor`, and what called it. -/
def leave : Origin → Shared
  | .sender => { s with locked := false }
  | .service => s
  | .queue => { s with queue := { s.queue with busy := false } }

/-- `UpdateConnectState`. -/
def updateConnectState (state : ConnectState) : Shared :=
  if s.locked then s else { s with connectState := state, notified := s.notified + 1 }

end Shared

/-! ## Steps of threads -/

section Moves

variable (a : Answer) (s : Shared)

/-- The end of `ConnectAbility`. -/
def finishConnect (transactId : Nat) (function : ServiceCenterFunction) : Shared × Thread :=
  if s.connectState = .CONNECTED then (s, .connected transactId function)
  else ({ s with connectState := .DISCONNECTED }, .ended)

/-- `WaitFromConnecting`: back to sleep or on. -/
def waitFromConnecting (transactId : Nat) (function : ServiceCenterFunction) : Shared × Thread :=
  if s.connectState = .CONNECTING then (s, .connect transactId function (.waitFromConnecting s.notified))
  else finishConnect s transactId function

def waitFromConnected (transactId : Nat) (function : ServiceCenterFunction) : Shared × Thread :=
  if s.connectState = .CONNECTING then (s, .connect transactId function (.waitFromConnected s.notified))
  else finishConnect s transactId function

def connectMove (transactId : Nat) (function : ServiceCenterFunction) : Stage → Shared × Thread
  | .enter =>
    if s.locked then (s, .connect transactId function .enter)
    else
      let s := { s with queue := s.queue.cancelDelayTask .disconnectDelay }
      match s.connectState with
      | .CONNECTING => waitFromConnecting s transactId function
      | .DISCONNECTED =>
        if a.allocated then
          ({ s with connectState := .CONNECTING, locked := true }, .connect transactId function .request)
        else ({ s with notified := s.notified + 1 }, .ended)
      | .CONNECTED => finishConnect s transactId function
  | .request =>
    let s := { s with locked := false }
    if a.ok then waitFromConnected s transactId function else finishConnect s transactId function
  | .waitFromConnecting since =>
    if s.locked then (s, .connect transactId function (.waitFromConnecting since))
    else waitFromConnecting s transactId function
  | .waitFromConnected since =>
    if s.locked then (s, .connect transactId function (.waitFromConnected since))
    else waitFromConnected s transactId function

/-- `SendRequest` and `PreloadRequest` up to the insertion. -/
def insertMove (transactId : Nat) (function : ServiceCenterFunction) : Shared × Thread :=
  if !a.written then (s, .ended)
  else if s.locked then (s, .connected transactId function)
  else if !a.remote then (s, .ended)
  else if s.freeInstallParamsMap.contains transactId then (s, .ended)
  else
    ({ s with
        freeInstallParamsMap := s.freeInstallParamsMap.insert transactId function
        locked := true },
      if function = .CONNECT_PRELOAD_INSTALL then .preloadSent else .sent transactId)

/-- The result code that is sent for an upgrade. -/
def upgradeCode (function : Option ServiceCenterFunction) (resultCode : Int) : Int :=
  if function = some .CONNECT_UPGRADE_INSTALL ∧ resultCode ≠ FREE_INSTALL_OK then FREE_INSTALL_OK else resultCode

def sendCallBackMove : Thread → Shared × Thread
  | .fetch transactId resultCode origin =>
    match s.freeInstallParamsMap[transactId]? with
    | none => (s.leave origin, .ended)
    | some function => if function.callback then (s, .erase transactId resultCode origin) else (s.leave origin, .ended)
  | .erase transactId resultCode origin =>
    let resultCode := upgradeCode s.freeInstallParamsMap[transactId]? resultCode
    (Shared.afterErase a { s with freeInstallParamsMap := s.freeInstallParamsMap.erase transactId },
      .reply transactId resultCode origin)
  | .reply transactId resultCode origin =>
    -- A parcel that cannot be written is not sent, and the entry is gone already.
    if a.written then (Shared.leave { s with answered := s.answered ++ [(transactId, resultCode)] } origin, .ended)
    else (s.leave origin, .ended)
  | t => (s, t)

def outTimeMove : Thread → Shared × Thread
  | .outTimeMonitor transactId origin =>
    match s.freeInstallParamsMap[transactId]? with
    | none => (s.leave origin, .ended)
    | some _ => (s, .arm transactId origin)
  | .arm transactId origin =>
    (Shared.leave { s with queue := s.queue.scheduleDelayTask a.submitted (.outTime transactId) } origin, .ended)
  | t => (s, t)

/-- What the service centre reports. -/
def serviceMove : Thread → Shared × Thread
  | .onServiceCenterCall transactId retCode =>
    match s.freeInstallParamsMap[transactId]? with
    | none => (s, .ended)
    | some function =>
      let s := { s with queue := s.queue.cancelDelayTask (.outTime transactId) }
      if retCode = FREE_INSTALL_DOWNLOADING then (s, .ended)
      else (s, .fetch transactId (upgradeCode (some function) retCode) .service)
  | .onDelayedHeartbeat transactId =>
    match s.freeInstallParamsMap[transactId]? with
    | none => (s, .ended)
    | some _ =>
      ({ s with queue := s.queue.cancelDelayTask (.outTime transactId) }, .outTimeMonitor transactId .service)
  | .onServiceCenterReceived transactId =>
    match s.freeInstallParamsMap[transactId]? with
    | none => (s, .ended)
    | some function =>
      if function.inDisconnectAbilityFunc then
        (Shared.afterErase a { s with freeInstallParamsMap := s.freeInstallParamsMap.erase transactId }, .ended)
      else (s, .ended)
  | t => (s, t)

def move (t : Thread) : Shared × Thread :=
  match t with
  | .connect transactId function stage => connectMove a s transactId function stage
  | .connected transactId function => insertMove a s transactId function
  | .sent transactId =>
    if a.ok then (s, .outTimeMonitor transactId .sender) else (s, .fetch transactId CONNECT_ERROR .sender)
  | .preloadSent => (s.leave .sender, .ended)
  | .outTimeMonitor .. | .arm .. => outTimeMove a s t
  | .fetch .. | .erase .. | .reply .. => sendCallBackMove a s t
  | .onServiceCenterCall .. | .onDelayedHeartbeat .. | .onServiceCenterReceived .. => serviceMove a s t
  | .disconnect => if s.locked then (s, .disconnect) else (s.leave .queue, .ended)
  | .ended => (s, .ended)

end Moves

/-! ## Runs -/

inductive Act where
  | request (function : ServiceCenterFunction)
  | onServiceCenterCall (transactId : Nat) (retCode : Int)
  | onDelayedHeartbeat (transactId : Nat)
  | onServiceCenterReceived (transactId : Nat)
  /-- The queue starts the task at this place. -/
  | startTask (n : Nat)
  | onAbilityConnectDone (resultOk remote : Bool)
  | onAbilityDisconnectDone
  /-- `written` says for which entries the parcel could be written. -/
  | deathRecipientSendCallback (written : Nat → Bool)
  | run (i : Nat) (answer : Answer)

/-- The thread that runs a task. -/
def Task.thread (task : Task) : Thread :=
  match task.name with
  | .disconnectDelay => .disconnect
  | .outTime transactId => .fetch transactId SERVICE_CENTER_TIMEOUT .queue

def Shared.startTask (s : Shared) (n : Nat) : Shared :=
  { s with queue := { s.queue with tasks := s.queue.tasks.eraseIdx n, busy := true } }

/-- `DeathRecipientSendCallback`: every entry with a callback whose parcel could be written is answered, and
all are forgotten. -/
def Shared.deathRecipientSendCallback (s : Shared) (written : Nat → Bool) : Shared :=
  if s.locked then s
  else
    { s with
      connectState := .DISCONNECTED
      answered := s.answered ++
        (s.freeInstallParamsMap.toList.filter fun entry => entry.2.callback && written entry.1).map
          fun entry => (entry.1, SERVICE_CENTER_CRASH)
      freeInstallParamsMap := ∅
      notified := s.notified + 1 }

def step (m : Machine) : Act → Machine
  | .request function =>
    let transactId := m.shared.transactId + 1
    ⟨{ m.shared with transactId := transactId }, m.threads ++ [.connect transactId function .enter]⟩
  | .onServiceCenterCall transactId retCode => m.start (.onServiceCenterCall transactId retCode)
  | .onDelayedHeartbeat transactId => m.start (.onDelayedHeartbeat transactId)
  | .onServiceCenterReceived transactId => m.start (.onServiceCenterReceived transactId)
  | .startTask n =>
    match m.shared.queue.busy, m.shared.queue.tasks[n]? with
    | false, some task => ⟨m.shared.startTask n, m.threads ++ [task.thread]⟩
    | _, _ => m
  | .onAbilityConnectDone resultOk remote =>
    ⟨m.shared.updateConnectState (if resultOk ∧ remote then .CONNECTED else .DISCONNECTED), m.threads⟩
  | .onAbilityDisconnectDone => ⟨m.shared.updateConnectState .DISCONNECTED, m.threads⟩
  | .deathRecipientSendCallback written => ⟨m.shared.deathRecipientSendCallback written, m.threads⟩
  | .run i answer => m.run (fun a s t => ((move a s t).1, (move a s t).2, [])) i answer

/-- The machine before the first request. -/
def start : Machine := ⟨{}, []⟩

theorem step_run_of_some {m : Machine} {i : Nat} {t : Thread} (h : m.threads[i]? = some t) (a : Answer) :
    step m (.run i a) = ⟨(move a m.shared t).1, m.threads.set i (move a m.shared t).2⟩ := by
  show m.run (fun a s t => ((move a s t).1, (move a s t).2, [])) i a = _
  rw [run_of_some h]
  dsimp only
  rw [List.append_nil]

theorem step_run_of_none {m : Machine} {i : Nat} (h : m.threads[i]? = none) (a : Answer) : step m (.run i a) = m := by
  show m.run (fun a s t => ((move a s t).1, (move a s t).2, [])) i a = m
  exact run_of_none h

/-! ## Who holds `mutex_` -/

def Thread.holds : Thread → Bool
  | .connect _ _ .request | .sent _ | .preloadSent => true
  | .outTimeMonitor _ .sender | .arm _ .sender | .fetch _ _ .sender | .erase _ _ .sender | .reply _ _ .sender => true
  | _ => false

def Thread.held (t : Thread) : Nat := t.holds.toNat

/-- One thread holds `mutex_` from step to step when it is taken, none when it is free. -/
def Balanced (m : Machine) : Prop := weight Thread.held m.threads = m.shared.locked.toNat

section Holding

variable (a : Answer) (s : Shared)

theorem afterErase_locked : (s.afterErase a).locked = s.locked := by
  unfold Shared.afterErase
  split <;> rfl

theorem finishConnect_locked (transactId : Nat) (function : ServiceCenterFunction) :
    (finishConnect s transactId function).1.locked = s.locked ∧
      (finishConnect s transactId function).2.holds = false := by
  unfold finishConnect
  split <;> exact ⟨rfl, rfl⟩

theorem waitFromConnecting_locked (transactId : Nat) (function : ServiceCenterFunction) :
    (waitFromConnecting s transactId function).1.locked = s.locked ∧
      (waitFromConnecting s transactId function).2.holds = false := by
  unfold waitFromConnecting
  split
  · exact ⟨rfl, rfl⟩
  · exact finishConnect_locked s transactId function

theorem waitFromConnected_locked (transactId : Nat) (function : ServiceCenterFunction) :
    (waitFromConnected s transactId function).1.locked = s.locked ∧
      (waitFromConnected s transactId function).2.holds = false := by
  unfold waitFromConnected
  split
  · exact ⟨rfl, rfl⟩
  · exact finishConnect_locked s transactId function

/-- A thread with `mutex_` that leaves gives it back; the others leave it alone. -/
theorem leave_holds (s' : Shared) (origin : Origin) (hsame : s'.locked = s.locked)
    (hsender : origin = .sender → s.locked = true) :
    s.locked.toNat = (decide (origin = .sender)).toNat + (s'.leave origin).locked.toNat := by
  cases origin with
  | sender =>
    rw [hsender rfl]
    rfl
  | service => simp [Shared.leave, hsame]
  | queue => simp [Shared.leave, hsame]

theorem connectMove_holds (transactId : Nat) (function : ServiceCenterFunction) (stage : Stage)
    (h : (Thread.connect transactId function stage).holds = true → s.locked = true) :
    (connectMove a s transactId function stage).2.holds.toNat + s.locked.toNat =
      (Thread.connect transactId function stage).holds.toNat + (connectMove a s transactId function stage).1.locked.toNat := by
  cases stage with
  | enter =>
    simp only [connectMove]
    split
    · rfl
    next hfree =>
    rw [Bool.not_eq_true] at hfree
    split
    · have := waitFromConnecting_locked { s with queue := s.queue.cancelDelayTask .disconnectDelay } transactId function
      rw [this.1, this.2]
      rfl
    · split
      · rw [hfree]
        rfl
      · rfl
    · have := finishConnect_locked { s with queue := s.queue.cancelDelayTask .disconnectDelay } transactId function
      rw [this.1, this.2]
      rfl
  | request =>
    have hheld := h rfl
    simp only [connectMove]
    split
    · have := waitFromConnected_locked { s with locked := false } transactId function
      rw [this.1, this.2, hheld]
      rfl
    · have := finishConnect_locked { s with locked := false } transactId function
      rw [this.1, this.2, hheld]
      rfl
  | waitFromConnecting since =>
    simp only [connectMove]
    split
    · rfl
    · have := waitFromConnecting_locked s transactId function
      rw [this.1, this.2]
      rfl
  | waitFromConnected since =>
    simp only [connectMove]
    split
    · rfl
    · have := waitFromConnected_locked s transactId function
      rw [this.1, this.2]
      rfl

/-- **One step** of a thread: what it gains of `mutex_` is what the state says it lost. -/
theorem move_holds (t : Thread) (h : t.holds = true → s.locked = true) :
    (move a s t).2.holds.toNat + s.locked.toNat = t.holds.toNat + (move a s t).1.locked.toNat := by
  cases t with
  | connect transactId function stage => exact connectMove_holds a s transactId function stage h
  | connected transactId function =>
    simp only [move, insertMove]
    split
    · rfl
    split
    · rfl
    next hfree =>
    rw [Bool.not_eq_true] at hfree
    split
    · rfl
    split
    · rfl
    rw [hfree]
    split <;> rfl
  | sent transactId =>
    simp only [move]
    split <;> rfl
  | preloadSent =>
    rw [show s.locked = true from h rfl]
    rfl
  | outTimeMonitor transactId origin =>
    simp only [move, outTimeMove]
    split
    · have := leave_holds s s origin rfl fun e => h (by subst e; rfl)
      cases origin <;> simpa [Thread.holds] using this
    · cases origin <;> rfl
  | arm transactId origin =>
    have := leave_holds s { s with queue := s.queue.scheduleDelayTask a.submitted (.outTime transactId) } origin rfl
      fun e => h (by subst e; rfl)
    cases origin <;> simpa [move, outTimeMove, Thread.holds] using this
  | fetch transactId resultCode origin =>
    have := leave_holds s s origin rfl fun e => h (by subst e; rfl)
    simp only [move, sendCallBackMove]
    split
    · cases origin <;> simpa [Thread.holds] using this
    split
    · cases origin <;> rfl
    · cases origin <;> simpa [Thread.holds] using this
  | erase transactId resultCode origin =>
    simp only [move, sendCallBackMove]
    rw [afterErase_locked]
    cases origin <;> rfl
  | reply transactId resultCode origin =>
    have hsender : origin = .sender → s.locked = true := fun e => h (by subst e; rfl)
    have hsent := leave_holds s { s with answered := s.answered ++ [(transactId, resultCode)] } origin rfl hsender
    have hdropped := leave_holds s s origin rfl hsender
    simp only [move, sendCallBackMove]
    split
    · cases origin <;> simpa [Thread.holds] using hsent
    · cases origin <;> simpa [Thread.holds] using hdropped
  | onServiceCenterCall transactId retCode =>
    simp only [move, serviceMove]
    split
    · rfl
    split <;> rfl
  | onDelayedHeartbeat transactId =>
    simp only [move, serviceMove]
    split <;> rfl
  | onServiceCenterReceived transactId =>
    simp only [move, serviceMove]
    split
    · rfl
    split
    · rw [afterErase_locked]
      rfl
    · rfl
  | disconnect =>
    simp only [move]
    split <;> rfl
  | ended => rfl

end Holding

variable {m : Machine}

theorem Balanced.locked_of_holds (h : Balanced m) {t : Thread} (ht : t ∈ m.threads) (hholds : t.holds = true) :
    m.shared.locked = true := by
  obtain ⟨i, hi⟩ := List.mem_iff_getElem?.mp ht
  have hle : t.held ≤ weight Thread.held m.threads := le_weight hi
  rw [h, show t.held = 1 from congrArg Bool.toNat hholds] at hle
  cases hlocked : m.shared.locked with
  | true => rfl
  | false =>
    rw [hlocked] at hle
    simp at hle

theorem Balanced.start_thread (h : Balanced m) {t : Thread} (ht : t.holds = false) {s : Shared}
    (hs : s.locked = m.shared.locked) : Balanced ⟨s, m.threads ++ [t]⟩ := by
  unfold Balanced at h ⊢
  rw [weight_append, weight_cons, weight_nil, h, hs, show t.held = 0 from congrArg Bool.toNat ht]
  rfl

theorem Task.thread_holds (task : Task) : task.thread.holds = false := by
  unfold Task.thread
  split <;> rfl

theorem updateConnectState_locked (s : Shared) (state : ConnectState) :
    (s.updateConnectState state).locked = s.locked := by
  unfold Shared.updateConnectState
  split <;> rfl

theorem deathRecipientSendCallback_locked (s : Shared) (written : Nat → Bool) :
    (s.deathRecipientSendCallback written).locked = s.locked := by
  unfold Shared.deathRecipientSendCallback
  split <;> rfl

theorem Balanced.step (h : Balanced m) (act : Act) : Balanced (step m act) := by
  cases act with
  | request function => exact h.start_thread rfl rfl
  | onServiceCenterCall transactId retCode => exact h.start_thread rfl rfl
  | onDelayedHeartbeat transactId => exact h.start_thread rfl rfl
  | onServiceCenterReceived transactId => exact h.start_thread rfl rfl
  | startTask n =>
    unfold FreeInstall.step
    dsimp only
    split
    · exact h.start_thread (Task.thread_holds _) rfl
    · exact h
  | onAbilityConnectDone resultOk remote => exact h.trans (congrArg Bool.toNat (updateConnectState_locked _ _).symm)
  | onAbilityDisconnectDone => exact h.trans (congrArg Bool.toNat (updateConnectState_locked _ _).symm)
  | deathRecipientSendCallback written =>
    exact h.trans (congrArg Bool.toNat (deathRecipientSendCallback_locked _ written).symm)
  | run i a =>
    rcases hi : m.threads[i]? with _ | t
    · rw [step_run_of_none hi]
      exact h
    · have hmove := move_holds a m.shared t fun ht => h.locked_of_holds (List.mem_of_getElem? hi) ht
      have hset : weight Thread.held (m.threads.set i (move a m.shared t).2) + t.held =
          weight Thread.held m.threads + (move a m.shared t).2.held := weight_set hi _
      rw [step_run_of_some hi]
      unfold Balanced at h ⊢
      unfold Thread.held at hset ⊢
      unfold Thread.held at h
      dsimp only
      omega

theorem balanced_start : Balanced start := rfl

end BundleFramework.FreeInstall
