import BundleFramework.FreeInstall.ConnectMgr

/-!
# When the connection is closed

`DisconnectDelay` is scheduled when the last entry is erased, and every request cancels it on its way into
`ConnectAbility`.  An empty map does not mean that no request is under way: one that has cancelled and
is not yet in the map goes unseen, and a task that has started, or whose handle was overwritten, is
out of reach of the cancel.

Where neither happens the connection is closed only when it is idle.
-/

namespace BundleFramework.FreeInstall

open Std ThreadPool

/-- `ConnectAbility` has returned true and the request is not yet in the map. -/
def Thread.betweenConnectAndInsertion : Thread → Bool
  | .connected .. => true
  | _ => false

/-- The request has cancelled the delayed disconnect and is not yet in the map. -/
def Thread.preparing : Thread → Bool
  | .connect _ _ .enter => false
  | .connect .. | .connected .. => true
  | _ => false

/-- The delayed task executes `DisconnectAbility` only if there is no outstanding request. -/
def ClosesIdle (m : Machine) : Act → Prop
  | .run i _ => m.threads[i]? = some .disconnect → m.shared.locked = false →
      m.shared.freeInstallParamsMap.isEmpty = true ∧ ∀ t ∈ m.threads, t.betweenConnectAndInsertion = false
  | _ => True

instance (m : Machine) (act : Act) : Decidable (ClosesIdle m act) :=
  match act with
  | .run i _ => inferInstanceAs (Decidable (m.threads[i]? = some .disconnect → m.shared.locked = false →
      m.shared.freeInstallParamsMap.isEmpty = true ∧ ∀ t ∈ m.threads, t.betweenConnectAndInsertion = false))
  | .request _ | .onServiceCenterCall .. | .onDelayedHeartbeat _ | .onServiceCenterReceived _ | .startTask _
  | .onAbilityConnectDone .. | .onAbilityDisconnectDone | .deathRecipientSendCallback _ => inferInstanceAs (Decidable True)

/-- The thread's step erases the last entry of a live connection: it schedules `DisconnectDelay`. -/
def Thread.schedules (s : Shared) : Thread → Bool
  | .erase transactId _ _ =>
    (s.freeInstallParamsMap.erase transactId).isEmpty && s.connectState = .CONNECTED
  | .onServiceCenterReceived transactId =>
    s.freeInstallParamsMap[transactId]?.any ServiceCenterFunction.inDisconnectAbilityFunc &&
      (s.freeInstallParamsMap.erase transactId).isEmpty && s.connectState = .CONNECTED
  | _ => false

/-- The thread's step is the cancel of `ConnectAbility`. -/
def Thread.cancels (s : Shared) : Thread → Bool
  | .connect _ _ .enter => !s.locked
  | _ => false

/-- No disconnect task has started, and the handle of each that waits is the one kept under its name. -/
def Cancellable (m : Machine) : Prop :=
  Thread.disconnect ∉ m.threads ∧ ∀ task ∈ m.shared.queue.tasks,
    task.name = .disconnectDelay → m.shared.queue.taskMap .disconnectDelay = some task.handle

/-- `DisconnectDelay` is scheduled when no request is past its cancel and not yet in the map, and a
request cancels what can be cancelled. -/
def MindsRequests (m : Machine) : Act → Prop
  | .run i _ => ∀ t ∈ m.threads[i]?,
      (t.schedules m.shared = true → ∀ u ∈ m.threads, u.preparing = false) ∧ (t.cancels m.shared = true → Cancellable m)
  | _ => True

instance (m : Machine) : Decidable (Cancellable m) :=
  inferInstanceAs (Decidable (Thread.disconnect ∉ m.threads ∧ ∀ task ∈ m.shared.queue.tasks,
    task.name = .disconnectDelay → m.shared.queue.taskMap .disconnectDelay = some task.handle))

instance (m : Machine) (act : Act) : Decidable (MindsRequests m act) :=
  match act with
  | .run i _ => inferInstanceAs (Decidable (∀ t ∈ m.threads[i]?,
      (t.schedules m.shared = true → ∀ u ∈ m.threads, u.preparing = false) ∧ (t.cancels m.shared = true → Cancellable m)))
  | .request _ | .onServiceCenterCall .. | .onDelayedHeartbeat _ | .onServiceCenterReceived _ | .startTask _
  | .onAbilityConnectDone .. | .onAbilityDisconnectDone | .deathRecipientSendCallback _ => inferInstanceAs (Decidable True)

/-- Two requests are connected; the first is answered before the second is in the map, so the
disconnect scheduled for the first runs under the second. -/
def overtakenRequest : List Act :=
  [.request .CONNECT_SILENT_INSTALL, .request .CONNECT_SILENT_INSTALL,
    .run 0 {}, .run 0 {}, .onAbilityConnectDone true true, .run 0 {}, .run 1 {},
    -- The first request is inserted, sent and armed.
    .run 0 {}, .run 0 {}, .run 0 {}, .run 0 {},
    -- It is answered: the map is empty.
    .onServiceCenterCall 1 FREE_INSTALL_OK, .run 2 {}, .run 2 {}, .run 2 {}, .run 2 {},
    -- The second request is inserted, sent and armed.
    .run 1 {}, .run 1 {}, .run 1 {}, .run 1 {},
    .startTask 0, .run 3 {}]

theorem overtaken_request_disconnected : ¬ ∀ acts : List Act, StepRun.Each step ClosesIdle start acts := by
  intro h
  exact absurd (h overtakenRequest) (by decide +kernel)

/-! ## What keeps the connection -/

/-- A disconnect task waits or has started. -/
def ClosePending (m : Machine) : Prop :=
  (∃ task ∈ m.shared.queue.tasks, task.name = .disconnectDelay) ∨ Thread.disconnect ∈ m.threads

/-- Nobody needs the connection. -/
def Idle (m : Machine) : Prop := m.shared.freeInstallParamsMap.isEmpty = true ∧ ∀ t ∈ m.threads, t.preparing = false

def IdleInv (m : Machine) : Prop := ClosePending m → Idle m

theorem isEmpty_erase {map : ExtTreeMap Nat ServiceCenterFunction} (h : map.isEmpty = true) (transactId : Nat) :
    (map.erase transactId).isEmpty = true := by
  rw [ExtTreeMap.isEmpty_iff.mp h, ExtTreeMap.erase_empty]
  exact ExtTreeMap.isEmpty_empty

theorem mem_cancelDelayTask {q : SerialQueue} {taskName : TaskName} {task : Task}
    (h : task ∈ (q.cancelDelayTask taskName).tasks) : task ∈ q.tasks := by
  unfold SerialQueue.cancelDelayTask at h
  split at h
  · exact h
  · exact List.mem_of_mem_filter h

/-- The cancel takes a task whose handle is kept under its name. -/
theorem not_mem_cancelDelayTask {q : SerialQueue} {task : Task} (h : q.taskMap task.name = some task.handle) :
    task ∉ (q.cancelDelayTask task.name).tasks := by
  unfold SerialQueue.cancelDelayTask
  rw [h]
  intro hmem
  have := (List.mem_filter.mp hmem).2
  simp at this

theorem afterErase_of_not (a : Answer) {s : Shared} (h : ¬ (s.freeInstallParamsMap.isEmpty = true ∧ s.connectState = .CONNECTED)) :
    s.afterErase a = s := by
  unfold Shared.afterErase
  rw [if_neg h]

theorem afterErase_map (a : Answer) (s : Shared) : (s.afterErase a).freeInstallParamsMap = s.freeInstallParamsMap := by
  unfold Shared.afterErase
  split <;> rfl

theorem leave_keeps (s : Shared) (origin : Origin) :
    (s.leave origin).freeInstallParamsMap = s.freeInstallParamsMap ∧ (s.leave origin).queue.tasks = s.queue.tasks := by
  cases origin <;> exact ⟨rfl, rfl⟩

/-- What a thread leaves that neither cancels nor schedules. -/
structure Quiet (s : Shared) (t : Thread) (s' : Shared) (t' : Thread) : Prop where
  tasks : ∀ task ∈ s'.queue.tasks, task.name = .disconnectDelay → task ∈ s.queue.tasks
  thread : t' = .disconnect → t = .disconnect
  map : t.preparing = false → s.freeInstallParamsMap.isEmpty = true → s'.freeInstallParamsMap.isEmpty = true
  preparing : t.preparing = false → t'.preparing = false

theorem Quiet.of_same {s s' : Shared} {t t' : Thread} (hmap : s'.freeInstallParamsMap = s.freeInstallParamsMap)
    (htasks : s'.queue.tasks = s.queue.tasks) (hthread : t' ≠ .disconnect)
    (hpreparing : t.preparing = false → t'.preparing = false) : Quiet s t s' t' := by
  refine ⟨?_, fun h => absurd h hthread, ?_, hpreparing⟩
  · rw [htasks]
    exact fun _ h _ => h
  · rw [hmap]
    exact fun _ h => h

theorem Quiet.leave {s s' : Shared} {t : Thread} (h : Quiet s t s' .ended) (origin : Origin) :
    Quiet s t (s'.leave origin) .ended := by
  obtain ⟨hmap, htasks⟩ := leave_keeps s' origin
  refine ⟨?_, h.thread, ?_, h.preparing⟩
  · rw [htasks]
    exact h.tasks
  · rw [hmap]
    exact h.map

theorem quiet_finishConnect {s₀ s : Shared} {t : Thread} (ht : t.preparing = true)
    (htasks : s.queue.tasks = s₀.queue.tasks) (transactId : Nat) (function : ServiceCenterFunction) :
    Quiet s₀ t (finishConnect s transactId function).1 (finishConnect s transactId function).2 := by
  have hnot : ∀ {p : Prop}, t.preparing = false → p := fun h => absurd (ht.symm.trans h) (by simp)
  refine ⟨?_, ?_, hnot, hnot⟩
  · unfold finishConnect
    rw [← htasks]
    split <;> exact fun _ h _ => h
  · unfold finishConnect
    split <;> exact fun h => by cases h

theorem quiet_connectMove (a : Answer) (s : Shared) (transactId : Nat) (function : ServiceCenterFunction) {stage : Stage}
    (h : (Thread.connect transactId function stage).cancels s = false) :
    Quiet s (.connect transactId function stage) (connectMove a s transactId function stage).1
      (connectMove a s transactId function stage).2 := by
  cases stage with
  | enter =>
    have hlocked : s.locked = true := by simpa [Thread.cancels] using h
    simp only [connectMove, hlocked, if_true]
    exact .of_same rfl rfl (by simp) id
  | request =>
    have hfinish : Quiet s (.connect transactId function .request)
        (finishConnect { s with locked := false } transactId function).1
        (finishConnect { s with locked := false } transactId function).2 :=
      quiet_finishConnect rfl (by rfl) transactId function
    simp only [connectMove, waitFromConnected]
    split
    · split
      · exact .of_same rfl rfl (by simp) id
      · exact hfinish
    · exact hfinish
  | waitFromConnecting since =>
    simp only [connectMove, waitFromConnecting]
    split
    · exact .of_same rfl rfl (by simp) id
    split
    · exact .of_same rfl rfl (by simp) id
    · exact quiet_finishConnect rfl rfl transactId function
  | waitFromConnected since =>
    simp only [connectMove, waitFromConnected]
    split
    · exact .of_same rfl rfl (by simp) id
    split
    · exact .of_same rfl rfl (by simp) id
    · exact quiet_finishConnect rfl rfl transactId function

theorem quiet_erased (a : Answer) (s : Shared) (transactId : Nat) {t t' : Thread}
    (h : ¬ ((s.freeInstallParamsMap.erase transactId).isEmpty = true ∧ s.connectState = .CONNECTED))
    (hthread : t' ≠ .disconnect) (hpreparing : t'.preparing = false) :
    Quiet s t (Shared.afterErase a { s with freeInstallParamsMap := s.freeInstallParamsMap.erase transactId }) t' := by
  rw [afterErase_of_not a h]
  exact ⟨fun _ h _ => h, fun e => absurd e hthread, fun _ h => isEmpty_erase h transactId, fun _ => hpreparing⟩

theorem quiet_move (a : Answer) (s : Shared) {t : Thread} (hcancels : t.cancels s = false)
    (hschedules : t.schedules s = false) : Quiet s t (move a s t).1 (move a s t).2 := by
  cases t with
  | connect transactId function stage => exact quiet_connectMove a s transactId function hcancels
  | connected transactId function =>
    simp only [move, insertMove]
    split
    · exact .of_same rfl rfl (by simp) fun _ => rfl
    split
    · exact .of_same rfl rfl (by simp) id
    split
    · exact .of_same rfl rfl (by simp) fun _ => rfl
    split
    · exact .of_same rfl rfl (by simp) fun _ => rfl
    · refine ⟨fun _ h _ => h, ?_, (fun h => by cases h), (fun h => by cases h)⟩
      split <;> exact fun h => by cases h
  | sent transactId =>
    simp only [move]
    split <;> exact .of_same rfl rfl (by simp) fun _ => rfl
  | preloadSent => exact .of_same rfl rfl (by simp [move]) fun _ => rfl
  | outTimeMonitor transactId origin =>
    simp only [move, outTimeMove]
    split
    · exact Quiet.leave (.of_same rfl rfl (by simp) fun _ => rfl) origin
    · exact .of_same rfl rfl (by simp) fun _ => rfl
  | arm transactId origin =>
    have harmed : Quiet s (.arm transactId origin)
        { s with queue := s.queue.scheduleDelayTask a.submitted (.outTime transactId) } .ended := by
      refine ⟨?_, (fun h => by cases h), fun _ h => h, fun _ => rfl⟩
      -- The task that is scheduled here is the timeout's.
      intro task htask hname
      unfold SerialQueue.scheduleDelayTask at htask
      split at htask
      swap
      · exact htask
      rcases List.mem_append.mp htask with htask | htask
      · exact htask
      · rw [List.mem_singleton.mp htask] at hname
        cases hname
    exact harmed.leave origin
  | fetch transactId resultCode origin =>
    simp only [move, sendCallBackMove]
    split
    · exact Quiet.leave (.of_same rfl rfl (by simp) fun _ => rfl) origin
    split
    · exact .of_same rfl rfl (by simp) fun _ => rfl
    · exact Quiet.leave (.of_same rfl rfl (by simp) fun _ => rfl) origin
  | erase transactId resultCode origin =>
    simp only [move, sendCallBackMove]
    refine quiet_erased a s transactId ?_ (by simp) rfl
    simpa [Thread.schedules] using hschedules
  | reply transactId resultCode origin =>
    have hsame : Quiet s (.reply transactId resultCode origin)
        { s with answered := s.answered ++ [(transactId, resultCode)] } .ended :=
      .of_same rfl rfl (by simp) fun _ => rfl
    simp only [move, sendCallBackMove]
    split
    · exact hsame.leave origin
    · exact Quiet.leave (.of_same rfl rfl (by simp) fun _ => rfl) origin
  | onServiceCenterCall transactId retCode =>
    simp only [move, serviceMove]
    split
    · exact .of_same rfl rfl (by simp) fun _ => rfl
    split
    · exact ⟨fun _ h _ => mem_cancelDelayTask h, (fun h => by cases h), fun _ h => h, fun _ => rfl⟩
    · exact ⟨fun _ h _ => mem_cancelDelayTask h, (fun h => by cases h), fun _ h => h, fun _ => rfl⟩
  | onDelayedHeartbeat transactId =>
    simp only [move, serviceMove]
    split
    · exact .of_same rfl rfl (by simp) fun _ => rfl
    · exact ⟨fun _ h _ => mem_cancelDelayTask h, (fun h => by cases h), fun _ h => h, fun _ => rfl⟩
  | onServiceCenterReceived transactId =>
    simp only [move, serviceMove]
    split
    · exact .of_same rfl rfl (by simp) fun _ => rfl
    next function hfunction =>
    split
    · next hdisconnect =>
      refine quiet_erased a s transactId ?_ (by simp) rfl
      simpa [Thread.schedules, hfunction, hdisconnect] using hschedules
    · exact .of_same rfl rfl (by simp) fun _ => rfl
  | disconnect =>
    simp only [move]
    split
    · exact ⟨fun _ h _ => h, fun _ => rfl, fun _ h => h, fun _ => rfl⟩
    · exact Quiet.leave (.of_same rfl rfl (by simp) fun _ => rfl) .queue
  | ended => exact .of_same rfl rfl (by simp [move]) fun _ => rfl

/-- The cancel leaves the queue without the task. -/
theorem move_cancels (a : Answer) {s : Shared} {t : Thread} (h : t.cancels s = true) :
    (move a s t).1.queue = s.queue.cancelDelayTask .disconnectDelay ∧ (move a s t).2 ≠ .disconnect := by
  have hfinish : ∀ (s : Shared) (transactId : Nat) (function : ServiceCenterFunction),
      (finishConnect s transactId function).1.queue = s.queue ∧ (finishConnect s transactId function).2 ≠ .disconnect := by
    intro s transactId function
    unfold finishConnect
    split <;> exact ⟨rfl, by simp⟩
  unfold Thread.cancels at h
  split at h
  swap
  · cases h
  next transactId function =>
  have hlocked : ¬ s.locked = true := by simpa using h
  simp only [move, connectMove, if_neg hlocked]
  cases s.connectState with
  | CONNECTING =>
    simp only [waitFromConnecting]
    split
    · exact ⟨rfl, by simp⟩
    · exact hfinish _ transactId function
  | DISCONNECTED =>
    dsimp only
    split <;> exact ⟨rfl, by simp⟩
  | CONNECTED => exact hfinish _ transactId function

/-- Where the last entry is erased the map is empty after it. -/
theorem move_schedules (a : Answer) {s : Shared} {t : Thread} (h : t.schedules s = true) :
    (move a s t).1.freeInstallParamsMap.isEmpty = true ∧ (move a s t).2.preparing = false := by
  unfold Thread.schedules at h
  split at h
  · next transactId resultCode origin =>
    simp only [Bool.and_eq_true] at h
    refine ⟨?_, rfl⟩
    simp only [move, sendCallBackMove, afterErase_map]
    exact h.1
  · next transactId =>
    rcases hfunction : s.freeInstallParamsMap[transactId]? with _ | function
    · simp [hfunction] at h
    simp only [hfunction, Option.any_some, Bool.and_eq_true] at h
    refine ⟨?_, ?_⟩
    · simp only [move, serviceMove, hfunction, h.1.1, if_true, afterErase_map]
      exact h.1.2
    · simp only [move, serviceMove, hfunction, h.1.1, if_true]
      rfl
  · cases h

variable {m : Machine}

/-- A step changes the shared part and adds a thread that is neither a request past its cancel nor
the disconnect task. -/
theorem IdleInv.added (h : IdleInv m) {s : Shared} {t : Thread}
    (hmap : s.freeInstallParamsMap = m.shared.freeInstallParamsMap)
    (hqueue : s.queue = m.shared.queue) (hdisconnect : t ≠ .disconnect) (hpreparing : t.preparing = false) :
    IdleInv ⟨s, m.threads ++ [t]⟩ := by
  intro hpending
  have hidle : Idle m := by
    refine h ?_
    rcases hpending with ⟨task, htask, hname⟩ | hmem
    · rw [hqueue] at htask
      exact .inl ⟨task, htask, hname⟩
    · rcases List.mem_append.mp hmem with hmem | hmem
      · exact .inr hmem
      · exact absurd (List.mem_singleton.mp hmem).symm hdisconnect
  refine ⟨by rw [hmap]; exact hidle.1, fun u hu => ?_⟩
  rcases List.mem_append.mp hu with hu | hu
  · exact hidle.2 u hu
  · rw [List.mem_singleton.mp hu]
    exact hpreparing

/-- The threads and the queue stay, and the map has no new entry. -/
theorem IdleInv.shared (h : IdleInv m) {s : Shared}
    (hmap : m.shared.freeInstallParamsMap.isEmpty = true → s.freeInstallParamsMap.isEmpty = true)
    (hqueue : s.queue = m.shared.queue) : IdleInv ⟨s, m.threads⟩ := by
  intro hpending
  have hidle : Idle m := by
    refine h ?_
    unfold ClosePending at hpending ⊢
    rw [hqueue] at hpending
    exact hpending
  exact ⟨hmap hidle.1, hidle.2⟩

theorem IdleInv.updateConnectState (h : IdleInv m) (state : ConnectState) :
    IdleInv ⟨m.shared.updateConnectState state, m.threads⟩ := by
  refine h.shared ?_ ?_ <;> unfold Shared.updateConnectState <;> split <;> first | exact id | rfl

theorem Task.thread_preparing (task : Task) : task.thread.preparing = false := by
  unfold Task.thread
  split <;> rfl

theorem Task.thread_eq_disconnect {task : Task} (h : task.thread = .disconnect) : task.name = .disconnectDelay := by
  unfold Task.thread at h
  split at h
  · next hname => exact hname
  · cases h

theorem IdleInv.startTask (h : IdleInv m) (n : Nat) : IdleInv (FreeInstall.step m (.startTask n)) := by
  unfold FreeInstall.step
  dsimp only
  split
  swap
  · exact h
  next task _ htask =>
  intro hpending
  have hidle : Idle m := by
    refine h ?_
    rcases hpending with ⟨other, hother, hname⟩ | hmem
    · exact .inl ⟨other, List.mem_of_mem_eraseIdx hother, hname⟩
    · rcases List.mem_append.mp hmem with hmem | hmem
      · exact .inr hmem
      · -- The thread of the task that starts now.
        exact .inl ⟨task, List.mem_of_getElem? htask, Task.thread_eq_disconnect (List.mem_singleton.mp hmem).symm⟩
  refine ⟨hidle.1, fun u hu => ?_⟩
  rcases List.mem_append.mp hu with hu | hu
  · exact hidle.2 u hu
  · rw [List.mem_singleton.mp hu]
    exact task.thread_preparing

/-- After the cancel nothing is left to close the connection. -/
theorem IdleInv.of_cancels {i : Nat} {t : Thread} {a : Answer} (hcancels : t.cancels m.shared = true)
    (hcancellable : Cancellable m) :
    IdleInv ⟨(move a m.shared t).1, m.threads.set i (move a m.shared t).2⟩ := by
  obtain ⟨hqueue, hthread⟩ := move_cancels a hcancels
  rintro (⟨task, htask, hname⟩ | hmem)
  · change task ∈ (move a m.shared t).1.queue.tasks at htask
    rw [hqueue] at htask
    have hhandle := hcancellable.2 task (mem_cancelDelayTask htask) hname
    rw [← hname] at htask hhandle
    exact absurd htask (not_mem_cancelDelayTask hhandle)
  · rcases List.mem_or_eq_of_mem_set hmem with hmem | e
    · exact absurd hmem hcancellable.1
    · exact absurd e.symm hthread

/-- The disconnect is scheduled when no request is past its cancel. -/
theorem IdleInv.of_schedules {i : Nat} {t : Thread} {a : Answer} (hschedules : t.schedules m.shared = true)
    (hnone : ∀ u ∈ m.threads, u.preparing = false) :
    IdleInv ⟨(move a m.shared t).1, m.threads.set i (move a m.shared t).2⟩ := by
  obtain ⟨hmap, hpreparing⟩ := move_schedules a hschedules
  intro _
  refine ⟨hmap, fun u hu => ?_⟩
  rcases List.mem_or_eq_of_mem_set hu with hu | rfl
  · exact hnone u hu
  · exact hpreparing

theorem IdleInv.quiet (h : IdleInv m) {i : Nat} {t t' : Thread} {s' : Shared} (ht : t ∈ m.threads)
    (hquiet : Quiet m.shared t s' t') : IdleInv ⟨s', m.threads.set i t'⟩ := by
  intro hpending
  have hidle : Idle m := by
    refine h ?_
    rcases hpending with ⟨task, htask, hname⟩ | hmem
    · exact .inl ⟨task, hquiet.tasks task htask hname, hname⟩
    · rcases List.mem_or_eq_of_mem_set hmem with hmem | e
      · exact .inr hmem
      · exact .inr (hquiet.thread e.symm ▸ ht)
  have hpreparing := hidle.2 t ht
  refine ⟨hquiet.map hpreparing hidle.1, fun u hu => ?_⟩
  rcases List.mem_or_eq_of_mem_set hu with hu | rfl
  · exact hidle.2 u hu
  · exact hquiet.preparing hpreparing

/-- **One step** that minds the requests. -/
theorem IdleInv.step (h : IdleInv m) {act : Act} (hminds : MindsRequests m act) : IdleInv (step m act) := by
  cases act with
  | request function => exact h.added rfl rfl (by simp) rfl
  | onServiceCenterCall transactId retCode => exact h.added rfl rfl (by simp) rfl
  | onDelayedHeartbeat transactId => exact h.added rfl rfl (by simp) rfl
  | onServiceCenterReceived transactId => exact h.added rfl rfl (by simp) rfl
  | startTask n => exact h.startTask n
  | onAbilityConnectDone resultOk remote => exact h.updateConnectState _
  | onAbilityDisconnectDone => exact h.updateConnectState _
  | deathRecipientSendCallback written =>
    refine h.shared ?_ ?_ <;> unfold Shared.deathRecipientSendCallback <;> split
    · exact id
    · exact fun _ => ExtTreeMap.isEmpty_empty
    · rfl
    · rfl
  | run i a =>
    rcases hi : m.threads[i]? with _ | t
    · rw [step_run_of_none hi]
      exact h
    obtain ⟨hschedules, hcancels⟩ := hminds t hi
    rw [step_run_of_some hi]
    by_cases hcancel : t.cancels m.shared = true
    · exact .of_cancels hcancel (hcancels hcancel)
    by_cases hschedule : t.schedules m.shared = true
    · exact .of_schedules hschedule (hschedules hschedule)
    · exact h.quiet (List.mem_of_getElem? hi)
        (quiet_move a m.shared (Bool.not_eq_true _ ▸ hcancel) (Bool.not_eq_true _ ▸ hschedule))

theorem IdleInv.closesIdle (h : IdleInv m) (act : Act) : ClosesIdle m act := by
  unfold ClosesIdle
  split
  · intro hi _
    obtain ⟨hmap, hpreparing⟩ := h (.inr (List.mem_of_getElem? hi))
    refine ⟨hmap, fun t ht => ?_⟩
    have := hpreparing t ht
    cases t <;> first | rfl | cases this
  · trivial

/-- **Main result**: in every run whose steps mind the requests, the delayed task executes
`DisconnectAbility` only when the map is empty and no request lies between `ConnectAbility` and its insertion. -/
theorem disconnects_idle_of_minds {acts : List Act} (h : StepRun.Each step MindsRequests start acts) :
    StepRun.Each step ClosesIdle start acts := by
  have hstart : IdleInv start := by
    rintro (⟨task, htask, -⟩ | hmem)
    · cases htask
    · cases hmem
  have hstep : ∀ m act, IdleInv m → MindsRequests m act → IdleInv (step m act) ∧ ClosesIdle m act :=
    fun m act hinv hminds => ⟨hinv.step hminds, hinv.closesIdle act⟩
  exact h.guarantee hstep hstart

/-- A request is answered, the connection is closed after it, and a second request comes. -/
def requestAfterRequest : List Act :=
  [.request .CONNECT_SILENT_INSTALL, .run 0 {}, .run 0 {}, .onAbilityConnectDone true true, .run 0 {},
    .run 0 {}, .run 0 {}, .run 0 {}, .run 0 {},
    .onServiceCenterCall 1 FREE_INSTALL_OK, .run 1 {}, .run 1 {}, .run 1 {}, .run 1 {},
    .startTask 0, .run 2 {}, .onAbilityDisconnectDone, .request .CONNECT_UPGRADE_CHECK, .run 3 {}]

theorem disconnects_idle_request_after_request :
    StepRun.Each step MindsRequests start requestAfterRequest ∧ StepRun.Each step ClosesIdle start requestAfterRequest :=
  have h : StepRun.Each step MindsRequests start requestAfterRequest := by decide +kernel
  ⟨h, disconnects_idle_of_minds h⟩

end BundleFramework.FreeInstall
