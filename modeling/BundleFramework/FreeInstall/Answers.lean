import BundleFramework.FreeInstall.Ledger

/-!
# How requests are answered

An entry of `freeInstallParamsMap_` is erased just before its callback is invoked, so that a request
is in the map until somebody is about to answer it; where the parcel cannot be written the answer is
dropped after that.  While a request is in the map a timeout task waits for it, a thread is on its way to
set one or to answer, the service centre has reported progress (a `DOWNLOADING` report cancels the task and
sets no new one), or the queue has refused the task.

`SendCallBack` reads the callback and erases the entry under two holds of `mapMutex_`.  Where no two
threads stand between the two for one request, its callback is invoked at most once.
-/

namespace BundleFramework.FreeInstall

open Std ThreadPool

section Statements

variable (m : Machine) (transactId : Nat)

/-- The request is in the map and has a callback. -/
def Waits : Prop := ∃ function, m.shared.freeInstallParamsMap[transactId]? = some function ∧ function.callback = true

/-- A thread has erased the entry and is about to invoke the callback. -/
def Answering : Prop := ∃ resultCode origin, Thread.reply transactId resultCode origin ∈ m.threads

/-- How often the callback was invoked. -/
def answers : Nat := (m.shared.answered.map Prod.fst).count transactId

/-- A timeout task waits for the request. -/
def TimeoutPending : Prop := ∃ task ∈ m.shared.queue.tasks, task.name = .outTime transactId

/-- `SendRequest` runs for the request. -/
def Thread.sends : Thread → Bool
  | .sent id | .outTimeMonitor id .sender | .arm id .sender | .fetch id _ .sender | .erase id _ .sender
  | .reply id _ .sender => id = transactId
  | _ => false

/-- The thread is on its way to set the timeout or to answer. -/
def Thread.handles : Thread → Bool
  | .sent id | .outTimeMonitor id _ | .arm id _ | .fetch id _ _ | .erase id _ _ => id = transactId
  | _ => false

/-- The step takes a `DOWNLOADING` report for a request in the map. -/
def Reports (act : Act) : Prop :=
  ∃ i a, act = .run i a ∧
    m.threads[i]? = some (Thread.onServiceCenterCall transactId FREE_INSTALL_DOWNLOADING) ∧
    transactId ∈ m.shared.freeInstallParamsMap

/-- The step would set the timeout, and the queue gives no handle for it. -/
def Refuses (act : Act) : Prop :=
  ∃ i a origin, act = .run i a ∧ a.submitted = false ∧ m.threads[i]? = some (Thread.arm transactId origin)

/-- The step sets the timeout. -/
def Arms (act : Act) : Prop :=
  ∃ i a origin, act = .run i a ∧ a.submitted = true ∧ m.threads[i]? = some (Thread.arm transactId origin)

/-- The step drops the answer: it is about to invoke the callback, and the parcel cannot be written. -/
def Drops (act : Act) : Prop :=
  (∃ i a resultCode origin, act = .run i a ∧ a.written = false ∧
    m.threads[i]? = some (Thread.reply transactId resultCode origin)) ∨
  (∃ written, act = .deathRecipientSendCallback written ∧ written transactId = false ∧ m.shared.locked = false ∧
    Waits m transactId)

/-- A step of the run did this, and no timeout has been set since. -/
def SinceArmed (does : Machine → Act → Prop) (acts : List Act) : Prop :=
  ∃ before act after, acts = before ++ act :: after ∧ does (before.foldl step start) act ∧
    StepRun.Each step (fun m act => ¬ Arms m transactId act) (step (before.foldl step start) act) after

/-- Progress was reported in the run and no timeout has been set since. -/
def Downloading (acts : List Act) : Prop := SinceArmed transactId (fun m act => Reports m transactId act) acts

/-- The queue refused the timeout in the run and none has been set since. -/
def Refused (acts : List Act) : Prop := SinceArmed transactId (fun m act => Refuses m transactId act) acts

/-- An answer to the request was dropped in the run. -/
def Dropped (acts : List Act) : Prop := ¬ StepRun.Each step (fun m act => ¬ Drops m transactId act) start acts

/-- The request was in the map at some time of the run. -/
def Inserted (acts : List Act) : Prop := ∃ before, before <+: acts ∧ Waits (before.foldl step start) transactId

end Statements

/-- A request that is inserted, sent and armed, and then reported as downloading. -/
def downloadingRequest : List Act :=
  [.request .CONNECT_SILENT_INSTALL, .run 0 {}, .run 0 {}, .onAbilityConnectDone true true, .run 0 {},
    .run 0 {}, .run 0 {}, .run 0 {}, .run 0 {}, .onServiceCenterCall 1 FREE_INSTALL_DOWNLOADING, .run 1 {}]

theorem downloading_request_without_timeout :
    ¬ ∀ (acts : List Act) (transactId : Nat), Inserted transactId acts →
      answers (acts.foldl step start) transactId ≤ 1 ∧
      (answers (acts.foldl step start) transactId = 0 →
        Waits (acts.foldl step start) transactId ∧
        ((∀ t ∈ (acts.foldl step start).threads, t.sends transactId = false) →
          TimeoutPending (acts.foldl step start) transactId)) := by
  intro h
  have hwaits : Waits (downloadingRequest.foldl step start) 1 :=
    ⟨.CONNECT_SILENT_INSTALL, by decide +kernel, rfl⟩
  obtain ⟨-, hopen⟩ := h downloadingRequest 1 ⟨downloadingRequest, List.prefix_refl _, hwaits⟩
  obtain ⟨task, htask, -⟩ := (hopen (by decide +kernel)).2 (by decide +kernel)
  have hnone : (downloadingRequest.foldl step start).shared.queue.tasks = [] := by decide +kernel
  rw [hnone] at htask
  cases htask

/-! ## No request is forgotten -/

theorem ServiceCenterFunction.callback_of_inDisconnectAbilityFunc {function : ServiceCenterFunction}
    (h : function.inDisconnectAbilityFunc = true) : function.callback = false := by
  cases function <;> first | rfl | cases h

section Moved

variable {a : Answer} {l l' : Ledger} {t t' : Thread}

theorem erase_getElem_of_ne {transactId id : Nat} (h : id ≠ transactId) :
    (l.erase id).freeInstallParamsMap[transactId]? = l.freeInstallParamsMap[transactId]? := by
  unfold Ledger.erase
  dsimp only
  rw [ExtTreeMap.getElem?_erase, if_neg (by simpa using h)]

/-- An entry with a callback leaves the map when a thread is about to answer. -/
theorem Moved.waits (h : Moved a l t l' t') {transactId : Nat} {function : ServiceCenterFunction}
    (hmem : l.freeInstallParamsMap[transactId]? = some function) (hcallback : function.callback = true) :
    l'.freeInstallParamsMap[transactId]? = some function ∨ ∃ resultCode origin, t' = .reply transactId resultCode origin := by
  cases h with
  | connect hl _ => rcases hl with rfl | rfl <;> exact .inl hmem
  | insert hnew =>
    next id function' =>
    have hne : id ≠ transactId := by
      rintro rfl
      cases hnew.symm.trans hmem
    left
    unfold Ledger.insert
    dsimp only
    rw [ExtTreeMap.getElem?_insert, if_neg (by simpa using hne)]
    exact hmem
  | erase hl =>
    next id resultCode origin resultCode' =>
    by_cases hid : id = transactId
    · exact .inr ⟨resultCode', origin, by rw [hid]⟩
    · left
      rcases hl with rfl | rfl <;> exact (erase_getElem_of_ne hid).trans hmem
  | received hmem' hdisconnect hl =>
    next id function' =>
    have hid : id ≠ transactId := by
      rintro rfl
      obtain rfl : function' = function := Option.some.inj (hmem'.symm.trans hmem)
      rw [ServiceCenterFunction.callback_of_inDisconnectAbilityFunc hdisconnect] at hcallback
      cases hcallback
    left
    rcases hl with rfl | rfl <;> exact (erase_getElem_of_ne hid).trans hmem
  | arm | reply => split <;> exact .inl hmem
  | turnedAway | sent | monitorGone | monitor | fetchGone | fetch | downloading | result | heartbeat | pass =>
    exact .inl hmem

theorem Moved.answered (h : Moved a l t l' t') : ∃ more, l'.answered = l.answered ++ more := by
  cases h with
  | connect hl _ => rcases hl with rfl | rfl <;> exact ⟨[], (List.append_nil _).symm⟩
  | erase hl => rcases hl with rfl | rfl <;> exact ⟨[], (List.append_nil _).symm⟩
  | received _ _ hl => rcases hl with rfl | rfl <;> exact ⟨[], (List.append_nil _).symm⟩
  | arm => split <;> exact ⟨[], (List.append_nil _).symm⟩
  | reply =>
    split
    · exact ⟨_, rfl⟩
    · exact ⟨[], (List.append_nil _).symm⟩
  | turnedAway | insert | sent | monitorGone | monitor | fetchGone | fetch | downloading | result | heartbeat
  | pass => exact ⟨[], (List.append_nil _).symm⟩

/-- An entry comes into the map with its `SendRequest`. -/
theorem Moved.inserted (h : Moved a l t l' t') {transactId : Nat} {function : ServiceCenterFunction}
    (hmem : l'.freeInstallParamsMap[transactId]? = some function) (hcallback : function.callback = true) :
    l.freeInstallParamsMap[transactId]? = some function ∨ t' = .sent transactId := by
  have herase : ∀ {id : Nat}, (l.erase id).freeInstallParamsMap[transactId]? = some function →
      l.freeInstallParamsMap[transactId]? = some function := by
    intro id hmem
    by_cases hid : id = transactId
    · subst hid
      cases ExtTreeMap.getElem?_erase_self.symm.trans hmem
    · exact (erase_getElem_of_ne hid).symm.trans hmem
  cases h with
  | connect hl _ => rcases hl with rfl | rfl <;> exact .inl hmem
  | insert hnew =>
    next id function' =>
    unfold Ledger.insert at hmem
    dsimp only at hmem
    rw [ExtTreeMap.getElem?_insert] at hmem
    split at hmem
    · next hid =>
      obtain rfl : id = transactId := by simpa using hid
      obtain rfl : function' = function := Option.some.inj hmem
      right
      rw [if_neg]
      rintro rfl
      cases hcallback
    · exact .inl hmem
  | erase hl => rcases hl with rfl | rfl <;> exact .inl (herase hmem)
  | received _ _ hl => rcases hl with rfl | rfl <;> exact .inl (herase hmem)
  | arm | reply => split at hmem <;> exact .inl hmem
  | turnedAway | sent | monitorGone | monitor | fetchGone | fetch | downloading | result | heartbeat | pass =>
    exact .inl hmem

end Moved

/-! ## The queue -/

/-- Handles are not reused, and the handle kept under a name belongs to a task of that name. -/
structure SerialQueue.Wf (q : SerialQueue) : Prop where
  task_lt : ∀ task ∈ q.tasks, task.handle < q.nextHandle
  map_lt : ∀ taskName handle, q.taskMap taskName = some handle → handle < q.nextHandle
  own : ∀ taskName handle, q.taskMap taskName = some handle → ∀ task ∈ q.tasks, task.handle = handle → task.name = taskName

section Queue

variable {q : SerialQueue}

theorem SerialQueue.Wf.schedule (h : q.Wf) (taskName : TaskName) : (q.scheduleDelayTask true taskName).Wf := by
  refine ⟨?_, ?_, ?_⟩
  · intro task htask
    rcases List.mem_append.mp htask with htask | htask
    · exact Nat.lt_succ_of_lt (h.task_lt task htask)
    · rw [List.mem_singleton.mp htask]
      exact Nat.lt_succ_self _
  · intro name handle hname
    change (if name = taskName then some q.nextHandle else q.taskMap name) = some handle at hname
    split at hname
    · obtain rfl := Option.some.inj hname
      exact Nat.lt_succ_self _
    · exact Nat.lt_succ_of_lt (h.map_lt name handle hname)
  · intro name handle hname task htask hhandle
    change (if name = taskName then some q.nextHandle else q.taskMap name) = some handle at hname
    rcases List.mem_append.mp htask with htask | htask
    · have hlt := h.task_lt task htask
      split at hname
      · obtain rfl := Option.some.inj hname
        omega
      · exact h.own name handle hname task htask hhandle
    · obtain rfl := List.mem_singleton.mp htask
      split at hname
      · next e => exact e.symm
      · have := h.map_lt name handle hname
        dsimp only at hhandle
        omega

/-- What is left of the tasks, with no handle that was not there, is in order. -/
theorem SerialQueue.Wf.of_sub (h : q.Wf) {q' : SerialQueue} (hnext : q'.nextHandle = q.nextHandle)
    (htasks : ∀ task ∈ q'.tasks, task ∈ q.tasks)
    (hmap : ∀ taskName handle, q'.taskMap taskName = some handle → q.taskMap taskName = some handle) : q'.Wf := by
  refine ⟨?_, ?_, ?_⟩
  · intro task htask
    rw [hnext]
    exact h.task_lt task (htasks task htask)
  · intro taskName handle hname
    rw [hnext]
    exact h.map_lt taskName handle (hmap taskName handle hname)
  · intro taskName handle hname task htask hhandle
    exact h.own taskName handle (hmap taskName handle hname) task (htasks task htask) hhandle

theorem SerialQueue.Wf.cancel (h : q.Wf) (taskName : TaskName) : (q.cancelDelayTask taskName).Wf := by
  unfold SerialQueue.cancelDelayTask
  split
  · exact h
  · refine h.of_sub rfl (fun _ htask => List.mem_of_mem_filter htask) ?_
    intro name handle hname
    dsimp only at hname
    split at hname
    · cases hname
    · exact hname

/-- A cancel leaves the tasks of other names. -/
theorem SerialQueue.Wf.mem_cancel (h : q.Wf) {taskName : TaskName} {task : Task} (htask : task ∈ q.tasks)
    (hname : task.name ≠ taskName) : task ∈ (q.cancelDelayTask taskName).tasks := by
  unfold SerialQueue.cancelDelayTask
  split
  · exact htask
  next handle hhandle =>
  refine List.mem_filter.mpr ⟨htask, ?_⟩
  have : task.handle ≠ handle := fun e => hname (h.own taskName handle hhandle task htask e)
  simpa using this

end Queue

section Timers

variable {a : Answer} {l l' : Ledger} {t t' : Thread}

theorem Moved.wf (h : Moved a l t l' t') (hwf : l.queue.Wf) : l'.queue.Wf := by
  cases h with
  | connect hl _ =>
    rcases hl with rfl | rfl
    · exact hwf
    · exact hwf.cancel _
  | erase hl =>
    rcases hl with rfl | rfl
    · exact hwf
    · exact hwf.schedule _
  | received _ _ hl =>
    rcases hl with rfl | rfl
    · exact hwf
    · exact hwf.schedule _
  | arm =>
    split
    · exact hwf.schedule _
    · exact hwf
  | reply => split <;> exact hwf
  | downloading | result | heartbeat => exact hwf.cancel _
  | turnedAway | insert | sent | monitorGone | monitor | fetchGone | fetch | pass => exact hwf

/-- A timeout task stays, unless a thread takes the request over or progress is reported. -/
theorem Moved.timeout (h : Moved a l t l' t') (hwf : l.queue.Wf) {transactId : Nat}
    (htimeout : ∃ task ∈ l.queue.tasks, task.name = .outTime transactId) :
    (∃ task ∈ l'.queue.tasks, task.name = .outTime transactId) ∨ t'.handles transactId = true ∨
      (t = .onServiceCenterCall transactId FREE_INSTALL_DOWNLOADING ∧ transactId ∈ l.freeInstallParamsMap) := by
  obtain ⟨task, htask, hname⟩ := htimeout
  have hother : ∀ taskName, taskName ≠ .outTime transactId → ∃ task ∈ (l.cancel taskName).queue.tasks,
      task.name = .outTime transactId := by
    intro taskName hne
    exact ⟨task, hwf.mem_cancel htask (by rw [hname]; exact hne.symm), hname⟩
  have hschedule : ∀ (l : Ledger) (taskName : TaskName), task ∈ l.queue.tasks →
      ∃ task ∈ (l.schedule taskName).queue.tasks, task.name = .outTime transactId :=
    fun l taskName htask => ⟨task, List.mem_append_left _ htask, hname⟩
  cases h with
  | connect hl _ =>
    rcases hl with rfl | rfl
    · exact .inl ⟨task, htask, hname⟩
    · exact .inl (hother _ (by simp))
  | erase hl =>
    rcases hl with rfl | rfl
    · exact .inl ⟨task, htask, hname⟩
    · exact .inl (hschedule (l.erase _) _ htask)
  | received _ _ hl =>
    rcases hl with rfl | rfl
    · exact .inl ⟨task, htask, hname⟩
    · exact .inl (hschedule (l.erase _) _ htask)
  | arm =>
    split
    · exact .inl (hschedule l _ htask)
    · exact .inl ⟨task, htask, hname⟩
  | reply => split <;> exact .inl ⟨task, htask, hname⟩
  | downloading hmem =>
    next id =>
    by_cases hid : id = transactId
    · subst hid
      exact .inr (.inr ⟨rfl, hmem⟩)
    · exact .inl (hother _ (by simpa using hid))
  | result =>
    next id retCode resultCode =>
    by_cases hid : id = transactId
    · exact .inr (.inl (by simp [Thread.handles, hid]))
    · exact .inl (hother _ (by simpa using hid))
  | heartbeat =>
    next id =>
    by_cases hid : id = transactId
    · exact .inr (.inl (by simp [Thread.handles, hid]))
    · exact .inl (hother _ (by simpa using hid))
  | turnedAway | insert | sent | monitorGone | monitor | fetchGone | fetch | pass => exact .inl ⟨task, htask, hname⟩

/-- A thread on its way to set the timeout or to answer goes on, has set it, or was refused by the queue. -/
theorem Moved.handles (h : Moved a l t l' t') {transactId : Nat} {function : ServiceCenterFunction}
    (hmem : l'.freeInstallParamsMap[transactId]? = some function) (hcallback : function.callback = true)
    (hhandles : t.handles transactId = true) :
    (∃ task ∈ l'.queue.tasks, task.name = .outTime transactId) ∨ t'.handles transactId = true ∨
      (a.submitted = false ∧ ∃ origin, t = .arm transactId origin) := by
  cases h with
  | sent ht =>
    right
    left
    rcases ht with rfl | rfl <;> exact hhandles
  | monitorGone hgone =>
    next id origin =>
    obtain rfl : id = transactId := by simpa [Thread.handles] using hhandles
    cases hgone.symm.trans hmem
  | monitor => exact .inr (.inl hhandles)
  | arm =>
    next id origin =>
    obtain rfl : id = transactId := by simpa [Thread.handles] using hhandles
    split
    · exact .inl ⟨_, List.mem_append_right _ (List.mem_singleton.mpr rfl), rfl⟩
    · next hrefused => exact .inr (.inr ⟨Bool.not_eq_true _ ▸ hrefused, origin, rfl⟩)
  | fetchGone hgone =>
    next id resultCode origin =>
    obtain rfl : id = transactId := by simpa [Thread.handles] using hhandles
    rw [hgone function hmem] at hcallback
    cases hcallback
  | fetch => exact .inr (.inl hhandles)
  | erase hl =>
    next id resultCode origin resultCode' =>
    obtain rfl : id = transactId := by simpa [Thread.handles] using hhandles
    have hnone : (l.erase id).freeInstallParamsMap[id]? = none := ExtTreeMap.getElem?_erase_self
    rcases hl with rfl | rfl <;> cases hnone.symm.trans hmem
  | pass hpass =>
    have hnot : t.handles transactId = false := by
      cases t <;> first | rfl | cases hpass
    cases hnot.symm.trans hhandles
  | connect | turnedAway | insert | reply | downloading | result | heartbeat | received => cases hhandles

end Timers

/-! ## Runs -/

section Runs

variable {m : Machine} {transactId : Nat}

/-- The request is in the map, about to be answered, or answered. -/
def Kept (m : Machine) (transactId : Nat) : Prop :=
  Waits m transactId ∨ Answering m transactId ∨ 0 < answers m transactId

theorem answers_pos_append {answered more : List (Nat × Int)} (h : 0 < (answered.map Prod.fst).count transactId) :
    0 < ((answered ++ more).map Prod.fst).count transactId := by
  rw [List.map_append, List.count_append]
  omega

theorem Kept.of_frame (h : Kept m transactId) {m' : Machine} (hledger : m'.shared.ledger = m.shared.ledger)
    (hthreads : ∀ t ∈ m.threads, t ∈ m'.threads) : Kept m' transactId := by
  have hmap : m'.shared.freeInstallParamsMap = m.shared.freeInstallParamsMap :=
    congrArg Ledger.freeInstallParamsMap hledger
  have hanswered : m'.shared.answered = m.shared.answered := congrArg Ledger.answered hledger
  rcases h with ⟨function, hmem, hcallback⟩ | ⟨resultCode, origin, hmem⟩ | hpos
  · exact .inl ⟨function, by rw [hmap]; exact hmem, hcallback⟩
  · exact .inr (.inl ⟨resultCode, origin, hthreads _ hmem⟩)
  · right
    right
    unfold answers
    rw [hanswered]
    exact hpos

theorem updateConnectState_ledger (s : Shared) (state : ConnectState) : (s.updateConnectState state).ledger = s.ledger := by
  unfold Shared.updateConnectState
  split <;> rfl

theorem Kept.death (h : Kept m transactId) {written : Nat → Bool}
    (hdrops : ¬ Drops m transactId (.deathRecipientSendCallback written)) :
    Kept ⟨m.shared.deathRecipientSendCallback written, m.threads⟩ transactId := by
  unfold Shared.deathRecipientSendCallback
  split
  · exact h
  next hfree =>
  rcases h with ⟨function, hmem, hcallback⟩ | ⟨resultCode, origin, hmem⟩ | hpos
  · right
    right
    have hlist : (transactId, function) ∈ m.shared.freeInstallParamsMap.toList :=
      ExtTreeMap.mem_toList_iff_getElem?_eq_some.mpr hmem
    have hwritten : written transactId = true := by
      by_contra hnot
      exact hdrops (.inr ⟨written, rfl, Bool.not_eq_true _ ▸ hnot, Bool.not_eq_true _ ▸ hfree, function, hmem, hcallback⟩)
    refine List.count_pos_iff.mpr (List.mem_map.mpr ⟨(transactId, SERVICE_CENTER_CRASH), ?_, rfl⟩)
    refine List.mem_append_right _ (List.mem_map.mpr ⟨(transactId, function), ?_, rfl⟩)
    exact List.mem_filter.mpr ⟨hlist, by simp [hcallback, hwritten]⟩
  · exact .inr (.inl ⟨resultCode, origin, hmem⟩)
  · exact .inr (.inr (answers_pos_append hpos))

/-- **One step** forgets no request, unless it drops the answer. -/
theorem Kept.step (h : Kept m transactId) {act : Act} (hdrops : ¬ Drops m transactId act) :
    Kept (step m act) transactId := by
  have hnew : ∀ (s : Shared) (t : Thread), s.freeInstallParamsMap = m.shared.freeInstallParamsMap →
      s.answered = m.shared.answered → Kept ⟨s, m.threads ++ [t]⟩ transactId := by
    intro s t hmap hanswered
    rcases h with ⟨function, hmem, hcallback⟩ | ⟨resultCode, origin, hmem⟩ | hpos
    · exact .inl ⟨function, by rw [hmap]; exact hmem, hcallback⟩
    · exact .inr (.inl ⟨resultCode, origin, List.mem_append_left _ hmem⟩)
    · right
      right
      unfold answers
      rw [hanswered]
      exact hpos
  cases act with
  | request function => exact hnew _ _ rfl rfl
  | onServiceCenterCall transactId retCode => exact hnew _ _ rfl rfl
  | onDelayedHeartbeat transactId => exact hnew _ _ rfl rfl
  | onServiceCenterReceived transactId => exact hnew _ _ rfl rfl
  | startTask n =>
    unfold FreeInstall.step
    dsimp only
    split
    · exact hnew _ _ rfl rfl
    · exact h
  | onAbilityConnectDone resultOk remote => exact h.of_frame (updateConnectState_ledger _ _) fun _ ht => ht
  | onAbilityDisconnectDone => exact h.of_frame (updateConnectState_ledger _ _) fun _ ht => ht
  | deathRecipientSendCallback written => exact h.death hdrops
  | run i a =>
    rcases hi : m.threads[i]? with _ | t
    · rw [step_run_of_none hi]
      exact h
    rw [step_run_of_some hi]
    have hmoved := moved a m.shared t
    have hlt : i < m.threads.length := (List.getElem?_eq_some_iff.mp hi).1
    obtain ⟨more, hanswered⟩ := hmoved.answered
    rcases h with ⟨function, hmem, hcallback⟩ | ⟨resultCode, origin, hmem⟩ | hpos
    · rcases hmoved.waits hmem hcallback with hmem' | ⟨resultCode, origin, ht'⟩
      · exact .inl ⟨function, hmem', hcallback⟩
      · refine .inr (.inl ⟨resultCode, origin, ?_⟩)
        rw [← ht']
        exact List.mem_set hlt _
    · rcases eq_or_mem_set hi hmem (move a m.shared t).2 with rfl | hmem
      · -- The thread itself invokes the callback.
        right
        right
        refine List.count_pos_iff.mpr (List.mem_map.mpr ⟨(transactId, resultCode), ?_, rfl⟩)
        show (transactId, resultCode) ∈ (move a m.shared (.reply transactId resultCode origin)).1.answered
        have hwritten : a.written = true := by
          by_contra hnot
          exact hdrops (.inl ⟨i, a, resultCode, origin, rfl, Bool.not_eq_true _ ▸ hnot, hi⟩)
        have : (move a m.shared (.reply transactId resultCode origin)).1.ledger =
            m.shared.ledger.answer transactId resultCode := by
          simp only [move, sendCallBackMove, hwritten, if_true, leave_ledger]
          rfl
        rw [show (move a m.shared (.reply transactId resultCode origin)).1.answered = _ from congrArg Ledger.answered this]
        exact List.mem_append_right _ (List.mem_singleton.mpr rfl)
      · exact .inr (.inl ⟨resultCode, origin, hmem⟩)
    · right
      right
      unfold answers
      rw [show (move a m.shared t).1.answered = _ from hanswered]
      exact answers_pos_append hpos

/-- **Every run** that drops no answer forgets no request. -/
theorem kept_of_inserted {acts : List Act} (h : Inserted transactId acts) (hdropped : ¬ Dropped transactId acts) :
    Kept (acts.foldl step start) transactId := by
  obtain ⟨before, ⟨after, rfl⟩, hwaits⟩ := h
  rw [List.foldl_append]
  have hkept : Kept (before.foldl step start) transactId := .inl hwaits
  have hafter : StepRun.Each step (fun m act => ¬ Drops m transactId act) (before.foldl step start) after :=
    (StepRun.each_append.mp (not_not.mp hdropped)).2
  have hinv : StepRun.Always step (fun m => Kept m transactId) (before.foldl step start) after :=
    hafter.always (fun _ _ hkept hdrops => hkept.step hdrops) hkept
  exact hinv.last

/-! ## Timers over runs -/

theorem SinceArmed.now {does : Machine → Act → Prop} {acts : List Act} {act : Act}
    (h : does (acts.foldl step start) act) : SinceArmed transactId does (acts ++ [act]) := ⟨acts, act, [], rfl, h, trivial⟩

theorem SinceArmed.concat {does : Machine → Act → Prop} {acts : List Act} {act : Act}
    (h : SinceArmed transactId does acts) (hact : ¬ Arms (acts.foldl step start) transactId act) :
    SinceArmed transactId does (acts ++ [act]) := by
  obtain ⟨before, done, after, rfl, hdone, heach⟩ := h
  refine ⟨before, done, after ++ [act], by simp, hdone, heach.concat ?_⟩
  rw [List.foldl_append, List.foldl_cons] at hact
  exact hact

theorem wf_step (h : m.shared.queue.Wf) (act : Act) : (step m act).shared.queue.Wf := by
  -- Whether a task is running does not matter.
  have hbusy : ∀ {s : Shared}, s.ledger.queue.Wf ↔ s.queue.Wf :=
    fun {s} => ⟨fun h => h.of_sub rfl (fun _ ht => ht) (fun _ _ hn => hn), fun h => h.of_sub rfl (fun _ ht => ht) (fun _ _ hn => hn)⟩
  cases act with
  | request function => exact h
  | onServiceCenterCall transactId retCode => exact h
  | onDelayedHeartbeat transactId => exact h
  | onServiceCenterReceived transactId => exact h
  | startTask n =>
    unfold FreeInstall.step
    dsimp only
    split
    · exact h.of_sub rfl (fun _ ht => List.mem_of_mem_eraseIdx ht) fun _ _ hn => hn
    · exact h
  | onAbilityConnectDone resultOk remote =>
    refine hbusy.mp ?_
    show (m.shared.updateConnectState _).ledger.queue.Wf
    rw [updateConnectState_ledger]
    exact hbusy.mpr h
  | onAbilityDisconnectDone =>
    refine hbusy.mp ?_
    show (m.shared.updateConnectState _).ledger.queue.Wf
    rw [updateConnectState_ledger]
    exact hbusy.mpr h
  | deathRecipientSendCallback written =>
    show (m.shared.deathRecipientSendCallback written).queue.Wf
    unfold Shared.deathRecipientSendCallback
    split <;> exact h
  | run i a =>
    rcases hi : m.threads[i]? with _ | t
    · rw [step_run_of_none hi]
      exact h
    rw [step_run_of_some hi]
    exact hbusy.mp ((moved a m.shared t).wf (hbusy.mpr h))

/-- The timeout waits, or a thread is on its way to set it or to answer. -/
def Watched (m : Machine) (transactId : Nat) : Prop :=
  TimeoutPending m transactId ∨ ∃ t ∈ m.threads, t.handles transactId = true

/-- **One step** of a thread for a request that stays in the map. -/
theorem watched_run (hwf : m.shared.queue.Wf) {i : Nat} {t : Thread} (hi : m.threads[i]? = some t) (a : Answer)
    {function : ServiceCenterFunction} (hcallback : function.callback = true)
    (hmem : (move a m.shared t).1.freeInstallParamsMap[transactId]? = some function)
    (h : Watched m transactId) :
    Watched ⟨(move a m.shared t).1, m.threads.set i (move a m.shared t).2⟩ transactId ∨
      Reports m transactId (.run i a) ∨ Refuses m transactId (.run i a) := by
  have hmoved := moved a m.shared t
  have hlt : i < m.threads.length := (List.getElem?_eq_some_iff.mp hi).1
  have hwf' : m.shared.ledger.queue.Wf := hwf.of_sub rfl (fun _ ht => ht) fun _ _ hn => hn
  rcases h with htimeout | ⟨u, hu, hhandles⟩
  · rcases hmoved.timeout hwf' htimeout with htimeout' | hhandles | ⟨rfl, hin⟩
    · exact .inl (.inl htimeout')
    · exact .inl (.inr ⟨_, List.mem_set hlt _, hhandles⟩)
    · exact .inr (.inl ⟨i, a, rfl, hi, hin⟩)
  · rcases eq_or_mem_set hi hu (move a m.shared t).2 with rfl | hu
    · rcases hmoved.handles hmem hcallback hhandles with htimeout | hhandles' | ⟨hrefused, origin, rfl⟩
      · exact .inl (.inl htimeout)
      · exact .inl (.inr ⟨_, List.mem_set hlt _, hhandles'⟩)
      · exact .inr (.inr ⟨i, a, origin, rfl, hrefused, hi⟩)
    · exact .inl (.inr ⟨u, hu, hhandles⟩)

/-- A started timeout task is a thread on its way to answer. -/
theorem watched_startTask (h : Watched m transactId) (n : Nat) : Watched (step m (.startTask n)) transactId := by
  unfold step
  dsimp only
  split
  swap
  · exact h
  next started _ hstarted =>
  rcases h with ⟨task, htask, hname⟩ | ⟨u, hu, hhandles⟩
  · obtain ⟨k, hk⟩ := List.mem_iff_getElem?.mp htask
    by_cases hkn : k = n
    · subst hkn
      obtain rfl := Option.some.inj (hk.symm.trans hstarted)
      refine .inr ⟨_, List.mem_append_right _ (List.mem_singleton.mpr rfl), ?_⟩
      simp [Task.thread, hname, Thread.handles]
    · exact .inl ⟨task, List.mem_eraseIdx_iff_getElem?.mpr ⟨k, hkn, hk⟩, hname⟩
  · exact .inr ⟨u, List.mem_append_left _ hu, hhandles⟩

/-- What leaves the queue alone and takes no thread away keeps the watch. -/
theorem Watched.of_frame (h : Watched m transactId) {s : Shared} {threads : List Thread}
    (hqueue : s.queue = m.shared.queue) (hthreads : ∀ u ∈ m.threads, u ∈ threads) : Watched ⟨s, threads⟩ transactId := by
  rcases h with htimeout | ⟨u, hu, hhandles⟩
  · refine .inl ?_
    unfold TimeoutPending at htimeout ⊢
    rw [hqueue]
    exact htimeout
  · exact .inr ⟨u, hthreads u hu, hhandles⟩

/-- A thread was added. -/
theorem Watched.add (h : Watched m transactId) {s : Shared} {t : Thread} (hqueue : s.queue = m.shared.queue) :
    Watched ⟨s, m.threads ++ [t]⟩ transactId := h.of_frame hqueue fun _ hu => List.mem_append_left _ hu

theorem updateConnectState_frame (s : Shared) (state : ConnectState) :
    (s.updateConnectState state).freeInstallParamsMap = s.freeInstallParamsMap ∧
      (s.updateConnectState state).queue = s.queue := by
  unfold Shared.updateConnectState
  split <;> exact ⟨rfl, rfl⟩

/-- Progress was reported, or the queue refused the timeout, and it was not set since. -/
def Unset (transactId : Nat) (acts : List Act) : Prop := Downloading transactId acts ∨ Refused transactId acts

theorem Unset.concat {acts : List Act} {act : Act} (h : Unset transactId acts)
    (hact : ¬ Arms (acts.foldl step start) transactId act) : Unset transactId (acts ++ [act]) :=
  h.imp (fun h => h.concat hact) fun h => h.concat hact

/-- A thread's step: the request was watched before, or `SendRequest` has just inserted it; the
timeout may be set or refused, and progress reported. -/
theorem watched_run_or_unset {acts : List Act} (hm : acts.foldl step start = m) (hwf : m.shared.queue.Wf)
    (ih : Waits m transactId → Watched m transactId ∨ Unset transactId acts) {i : Nat} {a : Answer} {t : Thread}
    (hi : m.threads[i]? = some t) {function : ServiceCenterFunction} (hcallback : function.callback = true)
    (hmem : (move a m.shared t).1.freeInstallParamsMap[transactId]? = some function) :
    Watched ⟨(move a m.shared t).1, m.threads.set i (move a m.shared t).2⟩ transactId ∨
      Unset transactId (acts ++ [.run i a]) := by
  have hlt : i < m.threads.length := (List.getElem?_eq_some_iff.mp hi).1
  rcases (moved a m.shared t).inserted hmem hcallback with hbefore | hsent
  swap
  · refine .inl (.inr ⟨_, List.mem_set hlt _, ?_⟩)
    rw [hsent]
    simp [Thread.handles]
  rcases ih ⟨function, hbefore, hcallback⟩ with h | h
  · rcases watched_run hwf hi a hcallback hmem h with h | h | h
    · exact .inl h
    · exact .inr (.inl (.now (hm ▸ h)))
    · exact .inr (.inr (.now (hm ▸ h)))
  · by_cases harms : Arms m transactId (.run i a)
    · -- The timeout is set now.
      obtain ⟨_, _, origin, e, hsubmitted, harm⟩ := harms
      cases e
      obtain rfl := Option.some.inj (hi.symm.trans harm)
      rcases (moved a m.shared (.arm transactId origin)).handles hmem hcallback (by simp [Thread.handles])
        with h | h | ⟨hrefused, -⟩
      · exact .inl (.inl h)
      · exact .inl (.inr ⟨_, List.mem_set hlt _, h⟩)
      · cases hsubmitted.symm.trans hrefused
    · exact .inr (h.concat (hm ▸ harms))

theorem watched_step {acts : List Act} (hm : acts.foldl step start = m) (hwf : m.shared.queue.Wf)
    (ih : Waits m transactId → Watched m transactId ∨ Unset transactId acts) (act : Act)
    (hwaits : Waits (step m act) transactId) :
    Watched (step m act) transactId ∨ Unset transactId (acts ++ [act]) := by
  obtain ⟨function, hmem, hcallback⟩ := hwaits
  -- Where only a thread or another state was added, what watched still does.
  have hkeep : Waits m transactId → (Watched m transactId → Watched (step m act) transactId) →
      ¬ Arms m transactId act → Watched (step m act) transactId ∨ Unset transactId (acts ++ [act]) := by
    intro hwaits hwatched harms
    rcases ih hwaits with h | h
    · exact .inl (hwatched h)
    · exact .inr (h.concat (hm ▸ harms))
  cases act with
  | request function' =>
    exact hkeep ⟨function, hmem, hcallback⟩ (fun h => h.add rfl) (by rintro ⟨_, _, _, e, -⟩; cases e)
  | onServiceCenterCall id retCode =>
    exact hkeep ⟨function, hmem, hcallback⟩ (fun h => h.add rfl) (by rintro ⟨_, _, _, e, -⟩; cases e)
  | onDelayedHeartbeat id =>
    exact hkeep ⟨function, hmem, hcallback⟩ (fun h => h.add rfl) (by rintro ⟨_, _, _, e, -⟩; cases e)
  | onServiceCenterReceived id =>
    exact hkeep ⟨function, hmem, hcallback⟩ (fun h => h.add rfl) (by rintro ⟨_, _, _, e, -⟩; cases e)
  | startTask n =>
    have hwaits : Waits m transactId := by
      refine ⟨function, ?_, hcallback⟩
      unfold step at hmem
      dsimp only at hmem
      split at hmem <;> exact hmem
    exact hkeep hwaits (fun h => watched_startTask h n) (by rintro ⟨_, _, _, e, -⟩; cases e)
  | onAbilityConnectDone resultOk remote =>
    refine hkeep ⟨function, (updateConnectState_frame _ _).1 ▸ hmem, hcallback⟩
      (fun h => h.of_frame (updateConnectState_frame _ _).2 fun _ hu => hu) ?_
    rintro ⟨_, _, _, e, -⟩
    cases e
  | onAbilityDisconnectDone =>
    refine hkeep ⟨function, (updateConnectState_frame _ _).1 ▸ hmem, hcallback⟩
      (fun h => h.of_frame (updateConnectState_frame _ _).2 fun _ hu => hu) ?_
    rintro ⟨_, _, _, e, -⟩
    cases e
  | deathRecipientSendCallback written =>
    change (m.shared.deathRecipientSendCallback written).freeInstallParamsMap[transactId]? = some function at hmem
    show Watched ⟨m.shared.deathRecipientSendCallback written, m.threads⟩ transactId ∨ _
    unfold Shared.deathRecipientSendCallback at hmem ⊢
    split at hmem
    · next hlocked =>
      rw [if_pos hlocked]
      rcases ih ⟨function, hmem, hcallback⟩ with h | h
      · exact .inl h
      · refine .inr (h.concat ?_)
        rintro ⟨_, _, _, e, -⟩
        cases e
    · simp at hmem
  | run i a =>
    rcases hi : m.threads[i]? with _ | t
    · rw [step_run_of_none hi] at hmem
      refine hkeep ⟨function, hmem, hcallback⟩ (fun h => by rw [step_run_of_none hi]; exact h) ?_
      rintro ⟨_, _, _, e, -, harm⟩
      cases e
      cases hi.symm.trans harm
    · rw [step_run_of_some hi] at hmem ⊢
      exact watched_run_or_unset hm hwf ih hi hcallback hmem

/-- **Every run**: a request in the map is watched, or its timeout was given up. -/
theorem watched_or_unset (acts : List Act) : ((acts.foldl step start).shared.queue.Wf) ∧
    (Waits (acts.foldl step start) transactId → Watched (acts.foldl step start) transactId ∨ Unset transactId acts) := by
  induction acts using List.reverseRecOn with
  | nil =>
    refine ⟨⟨?_, ?_, ?_⟩, ?_⟩
    · exact fun _ htask => nomatch htask
    · exact fun _ _ hname => nomatch hname
    · exact fun _ _ hname => nomatch hname
    · rintro ⟨function, hmem, -⟩
      cases hmem
  | append_singleton acts act ih =>
    obtain ⟨hwf, ih⟩ := ih
    rw [List.foldl_append, List.foldl_cons, List.foldl_nil]
    exact ⟨wf_step hwf act, watched_step rfl hwf ih act⟩

end Runs

/-! ## At most one answer -/

/-- The thread has read the callback and not yet erased the entry. -/
def Thread.erases (transactId : Nat) : Thread → Bool
  | .erase id _ _ => id = transactId
  | _ => false

/-- The request is not yet in the map, or erased and about to be answered. -/
def Thread.owes (transactId : Nat) : Thread → Bool
  | .connect id _ _ | .connected id _ | .reply id _ _ => id = transactId
  | _ => false

/-- The callback of a request is read only when nobody stands between reading and erasing it. -/
def ReadsAlone (m : Machine) : Act → Prop
  | .run i _ => ∀ t ∈ m.threads[i]?, match t with
    | .fetch transactId _ _ => ∀ u ∈ m.threads, u.erases transactId = false
    | _ => True
  | .deathRecipientSendCallback _ => m.shared.locked = false →
    ∀ entry ∈ m.shared.freeInstallParamsMap.toList, ∀ u ∈ m.threads, u.erases entry.1 = false
  | _ => True

instance (m : Machine) (act : Act) : Decidable (ReadsAlone m act) :=
  match act with
  | .run i _ => match h : m.threads[i]? with
    | some (.fetch transactId resultCode origin) =>
      decidable_of_iff (∀ u ∈ m.threads, u.erases transactId = false) (by simp [ReadsAlone, h])
    | none | some (.connect ..) | some (.connected ..) | some (.sent _) | some .preloadSent | some (.outTimeMonitor ..)
    | some (.arm ..) | some (.erase ..) | some (.reply ..) | some (.onServiceCenterCall ..) | some (.onDelayedHeartbeat _)
    | some (.onServiceCenterReceived _) | some .disconnect | some .ended => isTrue (by simp [ReadsAlone, h])
  | .deathRecipientSendCallback _ => inferInstanceAs (Decidable (m.shared.locked = false →
      ∀ entry ∈ m.shared.freeInstallParamsMap.toList, ∀ u ∈ m.threads, u.erases entry.1 = false))
  | .request _ | .onServiceCenterCall .. | .onDelayedHeartbeat _ | .onServiceCenterReceived _ | .startTask _
  | .onAbilityConnectDone .. | .onAbilityDisconnectDone => inferInstanceAs (Decidable True)

/-- Threads that owe the request, its entry in the map and its answers so far. -/
def account (m : Machine) (transactId : Nat) : Nat :=
  weight (fun t => (t.owes transactId).toNat) m.threads +
    (m.shared.freeInstallParamsMap.contains transactId).toNat + answers m transactId

structure OnceInv (m : Machine) : Prop where
  once : ∀ transactId, account m transactId ≤ 1
  fresh : ∀ transactId, m.shared.transactId < transactId → account m transactId = 0
  single : ∀ transactId, weight (fun t => (t.erases transactId).toNat) m.threads ≤ 1
  held : ∀ transactId, 0 < weight (fun t => (t.erases transactId).toNat) m.threads → Waits m transactId

section Accounts

variable {a : Answer} {l l' : Ledger} {t t' : Thread}

def Ledger.account (l : Ledger) (transactId : Nat) : Nat :=
  (l.freeInstallParamsMap.contains transactId).toNat + (l.answered.map Prod.fst).count transactId

theorem Thread.not_owes_of_passes {t : Thread} (h : t.passes = true) (transactId : Nat) :
    t.owes transactId = false ∧ t.erases transactId = false := by
  cases t <;> first | exact ⟨rfl, rfl⟩ | cases h

theorem erase_account (l : Ledger) (id transactId : Nat) : (l.erase id).account transactId ≤ l.account transactId := by
  unfold Ledger.account Ledger.erase
  dsimp only
  rw [ExtTreeMap.contains_erase]
  cases l.freeInstallParamsMap.contains transactId <;> simp [Bool.toNat_le]

/-- An entry is paid for by the request that brings it, an answer by the entry. -/
theorem Moved.account (h : Moved a l t l' t') {transactId : Nat}
    (hheld : t.erases transactId = true → transactId ∈ l.freeInstallParamsMap) :
    (t'.owes transactId).toNat + l'.account transactId ≤ (t.owes transactId).toNat + l.account transactId := by
  cases h with
  | connect hl ht =>
    have hsame : l'.account transactId = l.account transactId := by rcases hl with rfl | rfl <;> rfl
    rw [hsame]
    rcases ht with rfl | rfl | ⟨stage', rfl⟩
    · simp [Thread.owes]
    · simp [Thread.owes]
    · simp [Thread.owes]
  | turnedAway ht =>
    rcases ht with rfl | rfl
    · simp [Thread.owes]
    · simp [Thread.owes]
  | insert hnew =>
    next id function =>
    have howes : Thread.owes transactId (if function = .CONNECT_PRELOAD_INSTALL then .preloadSent else .sent id) = false := by
      split <;> rfl
    rw [howes]
    unfold Ledger.account Ledger.insert
    dsimp only
    rw [ExtTreeMap.contains_insert]
    by_cases hid : id = transactId
    · subst hid
      have hfree : l.freeInstallParamsMap.contains id = false := by
        rw [ExtTreeMap.contains_eq_isSome_getElem?, hnew]
        rfl
      simp [Thread.owes, hfree]
    · have hcompare : (compare id transactId == .eq) = false := by simpa using hid
      rw [hcompare, Bool.false_or]
      simp [Thread.owes]
  | erase hl =>
    next id resultCode origin resultCode' =>
    have hsame : l'.account transactId = (l.erase id).account transactId := by rcases hl with rfl | rfl <;> rfl
    rw [hsame]
    by_cases hid : id = transactId
    · subst hid
      have hin : l.freeInstallParamsMap.contains id = true := ExtTreeMap.mem_iff_contains.mp (hheld (by simp [Thread.erases]))
      unfold Ledger.account Ledger.erase
      dsimp only
      rw [ExtTreeMap.contains_erase, hin]
      simp [Thread.owes]
    · have := erase_account l id transactId
      simp only [Thread.owes, hid, decide_false, Bool.toNat_false]
      omega
  | received hmem _ hl =>
    next id function _ =>
    have hsame : l'.account transactId = (l.erase id).account transactId := by rcases hl with rfl | rfl <;> rfl
    rw [hsame]
    have := erase_account l id transactId
    simp only [Thread.owes, Bool.toNat_false]
    omega
  | reply =>
    next id resultCode origin =>
    split
    swap
    · simp [Thread.owes]
    unfold Ledger.account Ledger.answer
    dsimp only
    rw [List.map_append, List.count_append]
    by_cases hid : id = transactId
    · subst hid
      simp [Thread.owes]
      omega
    · simp [Thread.owes, hid]
  | sent ht => rcases ht with rfl | rfl <;> simp [Thread.owes]
  | pass hpass ht =>
    rcases ht with rfl | rfl
    · exact Nat.le_refl _
    · simp [Thread.owes]
  | monitorGone | monitor | fetchGone | fetch => simp [Thread.owes]
  | arm => split <;> simp [Thread.owes, Ledger.account, Ledger.schedule]
  | downloading | result | heartbeat => simp [Thread.owes, Ledger.account, Ledger.cancel]

theorem Moved.transactId (h : Moved a l t l' t') : l'.transactId = l.transactId := by
  cases h with
  | connect hl _ => rcases hl with rfl | rfl <;> rfl
  | erase hl => rcases hl with rfl | rfl <;> rfl
  | received _ _ hl => rcases hl with rfl | rfl <;> rfl
  | arm | reply => split <;> rfl
  | _ => rfl

/-- Only `GetAbilityManagerServiceCallBack` reads a callback, from the map. -/
theorem Moved.erases (h : Moved a l t l' t') {transactId : Nat} (ht' : t'.erases transactId = true) :
    l' = l ∧ (∃ resultCode origin, t = .fetch transactId resultCode origin) ∧
      ∃ function, l.freeInstallParamsMap[transactId]? = some function ∧ function.callback = true := by
  cases h with
  | connect _ ht => rcases ht with rfl | rfl | ⟨_, rfl⟩ <;> cases ht'
  | turnedAway ht => rcases ht with rfl | rfl <;> cases ht'
  | insert =>
    split at ht' <;> cases ht'
  | sent ht => rcases ht with rfl | rfl <;> cases ht'
  | fetch hmem hcallback =>
    next id resultCode origin function =>
    obtain rfl : id = transactId := by simpa [Thread.erases] using ht'
    exact ⟨rfl, ⟨resultCode, origin, rfl⟩, function, hmem, hcallback⟩
  | pass hpass ht =>
    rcases ht with rfl | rfl
    · rw [(Thread.not_owes_of_passes hpass transactId).2] at ht'
      cases ht'
    · cases ht'
  | monitorGone | monitor | arm | fetchGone | erase | reply | downloading | result | heartbeat | received => cases ht'

theorem Moved.replies (h : Moved a l t l' t') {transactId : Nat} {resultCode : Int} {origin : Origin}
    (ht' : t' = .reply transactId resultCode origin) : t.erases transactId = true := by
  cases h with
  | connect _ ht => rcases ht with rfl | rfl | ⟨_, rfl⟩ <;> cases ht'
  | turnedAway ht => rcases ht with rfl | rfl <;> cases ht'
  | insert =>
    split at ht' <;> cases ht'
  | sent ht => rcases ht with rfl | rfl <;> cases ht'
  | erase =>
    cases ht'
    simp [Thread.erases]
  | pass hpass ht =>
    rcases ht with rfl | rfl
    · subst ht'
      cases hpass
    · cases ht'
  | monitorGone | monitor | arm | fetchGone | fetch | reply | downloading | result | heartbeat | received => cases ht'

end Accounts

section Once

variable {m : Machine}

theorem account_eq (m : Machine) (transactId : Nat) : account m transactId =
    weight (fun t => (t.owes transactId).toNat) m.threads + m.shared.ledger.account transactId := Nat.add_assoc _ _ _

theorem weight_erases_eq_zero {transactId : Nat} {ts : List Thread} (h : ∀ u ∈ ts, u.erases transactId = false) :
    weight (fun t => (t.erases transactId).toNat) ts = 0 := by
  by_contra hne
  obtain ⟨i, u, hi, hu⟩ := exists_of_weight_pos (Nat.pos_of_ne_zero hne)
  rw [h u (List.mem_of_getElem? hi)] at hu
  cases hu

/-- A new thread that owes nothing. -/
theorem OnceInv.start_thread (h : OnceInv m) {s : Shared} {t : Thread}
    (hmap : s.freeInstallParamsMap = m.shared.freeInstallParamsMap) (hanswered : s.answered = m.shared.answered)
    (hid : s.transactId = m.shared.transactId) (howes : ∀ transactId, t.owes transactId = false)
    (herases : ∀ transactId, t.erases transactId = false) : OnceInv ⟨s, m.threads ++ [t]⟩ := by
  have haccount : ∀ transactId, account ⟨s, m.threads ++ [t]⟩ transactId = account m transactId := by
    intro transactId
    unfold account answers
    rw [weight_append, weight_cons, weight_nil, howes, hmap, hanswered]
    rfl
  have hweight : ∀ transactId, weight (fun t => (t.erases transactId).toNat) (m.threads ++ [t]) =
      weight (fun t => (t.erases transactId).toNat) m.threads := by
    intro transactId
    rw [weight_append, weight_cons, weight_nil, herases]
    rfl
  refine ⟨?_, ?_, ?_, ?_⟩
  · intro transactId
    rw [haccount]
    exact h.once transactId
  · intro transactId hlt
    rw [haccount]
    change s.transactId < transactId at hlt
    rw [hid] at hlt
    exact h.fresh transactId hlt
  · intro transactId
    rw [hweight]
    exact h.single transactId
  · intro transactId hpos
    rw [hweight] at hpos
    obtain ⟨function, hmem, hcallback⟩ := h.held transactId hpos
    exact ⟨function, by rw [hmap]; exact hmem, hcallback⟩

theorem OnceInv.request (h : OnceInv m) (function : ServiceCenterFunction) :
    OnceInv (FreeInstall.step m (.request function)) := by
  have haccount : ∀ transactId, account (FreeInstall.step m (.request function)) transactId =
      account m transactId + (decide (m.shared.transactId + 1 = transactId)).toNat := by
    intro transactId
    unfold account answers FreeInstall.step
    dsimp only
    rw [weight_append, weight_cons, weight_nil]
    simp only [Thread.owes]
    omega
  have hweight : ∀ transactId, weight (fun t => (t.erases transactId).toNat)
      (FreeInstall.step m (.request function)).threads = weight (fun t => (t.erases transactId).toNat) m.threads := by
    intro transactId
    show weight _ (m.threads ++ [_]) = _
    rw [weight_append, weight_cons, weight_nil]
    rfl
  refine ⟨?_, ?_, ?_, ?_⟩
  · intro transactId
    rw [haccount]
    by_cases hid : m.shared.transactId + 1 = transactId
    · rw [h.fresh transactId (by omega)]
      simp [Bool.toNat_le]
    · simpa [hid] using h.once transactId
  · intro transactId hlt
    change m.shared.transactId + 1 < transactId at hlt
    have hid : m.shared.transactId + 1 ≠ transactId := by omega
    rw [haccount, h.fresh transactId (by omega)]
    simp [hid]
  · intro transactId
    rw [hweight]
    exact h.single transactId
  · intro transactId hpos
    rw [hweight] at hpos
    exact h.held transactId hpos

/-- The entries of the map that are answered at the death of the service centre, each once. -/
theorem count_death_le (map : ExtTreeMap Nat ServiceCenterFunction) (sends : Nat × ServiceCenterFunction → Bool)
    (transactId : Nat) :
    (((map.toList.filter sends).map fun entry => (entry.1, SERVICE_CENTER_CRASH)).map Prod.fst).count transactId ≤
      (map.contains transactId).toNat := by
  have hkeys : (((map.toList.filter sends).map fun entry => (entry.1, SERVICE_CENTER_CRASH)).map Prod.fst) =
      (map.toList.filter sends).map Prod.fst := by
    rw [List.map_map]
    rfl
  have hsub : ((map.toList.filter sends).map Prod.fst).Sublist map.keys := by
    rw [← ExtTreeMap.map_fst_toList_eq_keys]
    exact List.filter_sublist.map _
  rw [hkeys]
  cases hin : map.contains transactId with
  | true => exact List.nodup_iff_count_le_one.mp (hsub.nodup ExtTreeMap.nodup_keys) transactId
  | false =>
    refine Nat.le_of_eq (List.count_eq_zero.mpr fun hmem => ?_)
    have := ExtTreeMap.mem_keys.mp (hsub.subset hmem)
    rw [ExtTreeMap.mem_iff_contains, hin] at this
    cases this

theorem OnceInv.death (h : OnceInv m) {written : Nat → Bool}
    (halone : ReadsAlone m (.deathRecipientSendCallback written)) :
    OnceInv ⟨m.shared.deathRecipientSendCallback written, m.threads⟩ := by
  unfold Shared.deathRecipientSendCallback
  split
  · exact h
  next hfree =>
  have hle : ∀ (s : Shared) (transactId : Nat), s = { m.shared with
      connectState := .DISCONNECTED
      answered := m.shared.answered ++
        (m.shared.freeInstallParamsMap.toList.filter fun entry => entry.2.callback && written entry.1).map
          fun entry => (entry.1, SERVICE_CENTER_CRASH)
      freeInstallParamsMap := ∅
      notified := m.shared.notified + 1 } → account ⟨s, m.threads⟩ transactId ≤ account m transactId := by
    rintro s transactId rfl
    have := count_death_le m.shared.freeInstallParamsMap (fun entry => entry.2.callback && written entry.1) transactId
    unfold account answers
    simp only [List.map_append, List.count_append, ExtTreeMap.contains_empty, Bool.toNat_false] at this ⊢
    omega
  refine ⟨?_, ?_, h.single, ?_⟩
  · exact fun transactId => (hle _ transactId rfl).trans (h.once transactId)
  · exact fun transactId hlt => Nat.le_zero.mp ((hle _ transactId rfl).trans (h.fresh transactId hlt).le)
  · -- Nobody has read a callback of the map.
    intro transactId hpos
    obtain ⟨function, hmem, hcallback⟩ := h.held transactId hpos
    have hlist : (transactId, function) ∈ m.shared.freeInstallParamsMap.toList :=
      ExtTreeMap.mem_toList_iff_getElem?_eq_some.mpr hmem
    change 0 < weight _ m.threads at hpos
    rw [weight_erases_eq_zero (halone (Bool.not_eq_true _ ▸ hfree) _ hlist)] at hpos
    cases hpos

theorem OnceInv.run (h : OnceInv m) {i : Nat} {t : Thread} (hi : m.threads[i]? = some t) (a : Answer)
    (halone : ReadsAlone m (.run i a)) : OnceInv ⟨(move a m.shared t).1, m.threads.set i (move a m.shared t).2⟩ := by
  have hmoved := moved a m.shared t
  have howes : ∀ transactId, weight (fun t => (t.owes transactId).toNat) (m.threads.set i (move a m.shared t).2) +
      (t.owes transactId).toNat = weight (fun t => (t.owes transactId).toNat) m.threads +
        ((move a m.shared t).2.owes transactId).toNat := fun _ => weight_set hi _
  have herases : ∀ transactId, weight (fun t => (t.erases transactId).toNat) (m.threads.set i (move a m.shared t).2) +
      (t.erases transactId).toNat = weight (fun t => (t.erases transactId).toNat) m.threads +
        ((move a m.shared t).2.erases transactId).toNat := fun _ => weight_set hi _
  have hin : ∀ transactId, t.erases transactId = true → Waits m transactId := by
    intro transactId ht
    refine h.held transactId ?_
    have hle : (t.erases transactId).toNat ≤ weight (fun t => (t.erases transactId).toNat) m.threads :=
      le_weight (w := fun t => (t.erases transactId).toNat) hi
    rw [ht] at hle
    exact hle
  have haccount : ∀ transactId, account ⟨(move a m.shared t).1, m.threads.set i (move a m.shared t).2⟩ transactId ≤
      account m transactId := by
    intro transactId
    have hledger : ((move a m.shared t).2.owes transactId).toNat + (move a m.shared t).1.ledger.account transactId ≤
        (t.owes transactId).toNat + m.shared.ledger.account transactId := by
      refine hmoved.account fun ht => ?_
      obtain ⟨function, hmem, -⟩ := hin transactId ht
      exact ExtTreeMap.mem_iff_isSome_getElem?.mpr (Option.isSome_of_eq_some hmem)
    have := howes transactId
    rw [account_eq, account_eq]
    dsimp only
    omega
  -- A thread that reads the callback now is the only one.
  have hreads : ∀ transactId, (move a m.shared t).2.erases transactId = true →
      weight (fun t => (t.erases transactId).toNat) m.threads = 0 := by
    intro transactId ht'
    obtain ⟨-, ⟨resultCode, origin, rfl⟩, -⟩ := hmoved.erases ht'
    exact weight_erases_eq_zero (halone _ hi)
  refine ⟨?_, ?_, ?_, ?_⟩
  · exact fun transactId => (haccount transactId).trans (h.once transactId)
  · intro transactId hlt
    change (move a m.shared t).1.transactId < transactId at hlt
    rw [show (move a m.shared t).1.transactId = m.shared.transactId from hmoved.transactId] at hlt
    exact Nat.le_zero.mp ((haccount transactId).trans (h.fresh transactId hlt).le)
  · intro transactId
    have := herases transactId
    have hsingle := h.single transactId
    show weight _ (m.threads.set i (move a m.shared t).2) ≤ 1
    by_cases ht' : (move a m.shared t).2.erases transactId = true
    · rw [hreads transactId ht', ht', Bool.toNat_true] at this
      omega
    · rw [show (move a m.shared t).2.erases transactId = false from Bool.not_eq_true _ ▸ ht', Bool.toNat_false] at this
      omega
  · intro transactId hpos
    change 0 < weight _ (m.threads.set i (move a m.shared t).2) at hpos
    have := herases transactId
    by_cases ht' : (move a m.shared t).2.erases transactId = true
    · obtain ⟨hsame, -, function, hmem, hcallback⟩ := hmoved.erases ht'
      refine ⟨function, ?_, hcallback⟩
      rw [← hmem]
      exact congrArg (fun l : Ledger => l.freeInstallParamsMap[transactId]?) hsame
    · rw [show (move a m.shared t).2.erases transactId = false from Bool.not_eq_true _ ▸ ht', Bool.toNat_false] at this
      obtain ⟨function, hmem, hcallback⟩ := h.held transactId (by omega)
      rcases hmoved.waits hmem hcallback with hmem' | ⟨resultCode, origin, hreply⟩
      · exact ⟨function, hmem', hcallback⟩
      · -- The only thread that had read the callback has erased the entry.
        have hsingle := h.single transactId
        rw [hmoved.replies hreply, Bool.toNat_true] at this
        omega

theorem OnceInv.step (h : OnceInv m) {act : Act} (halone : ReadsAlone m act) : OnceInv (step m act) := by
  have hupdate : ∀ state, OnceInv ⟨m.shared.updateConnectState state, m.threads⟩ := by
    intro state
    unfold Shared.updateConnectState
    split <;> exact ⟨h.once, h.fresh, h.single, h.held⟩
  cases act with
  | request function => exact h.request function
  | onServiceCenterCall transactId retCode => exact h.start_thread rfl rfl rfl (fun _ => rfl) fun _ => rfl
  | onDelayedHeartbeat transactId => exact h.start_thread rfl rfl rfl (fun _ => rfl) fun _ => rfl
  | onServiceCenterReceived transactId => exact h.start_thread rfl rfl rfl (fun _ => rfl) fun _ => rfl
  | startTask n =>
    unfold FreeInstall.step
    dsimp only
    split
    · refine h.start_thread rfl rfl rfl ?_ ?_ <;> intro transactId <;> unfold Task.thread <;> split <;> rfl
    · exact h
  | onAbilityConnectDone resultOk remote => exact hupdate _
  | onAbilityDisconnectDone => exact hupdate _
  | deathRecipientSendCallback written => exact h.death halone
  | run i a =>
    rcases hi : m.threads[i]? with _ | t
    · rw [step_run_of_none hi]
      exact h
    rw [step_run_of_some hi]
    exact h.run hi a halone

theorem onceInv_start : OnceInv start := by
  refine ⟨fun _ => Nat.zero_le _, fun _ _ => rfl, fun _ => Nat.zero_le _, fun _ hpos => nomatch hpos⟩

theorem OnceInv.answers_le_one (h : OnceInv m) (transactId : Nat) : answers m transactId ≤ 1 := by
  have := h.once transactId
  unfold account at this
  omega

end Once

/-- **Main result**: a request that was inserted is in the map, about to be answered, or answered, unless its
answer was dropped; while it is in the map its timeout waits, a thread is on its way to set it or to answer,
or progress was reported or the timeout refused since it was last set; and it is answered at most once where
its callback is read alone. -/
theorem requests_are_answered (acts : List Act) (transactId : Nat) :
    (Inserted transactId acts → answers (acts.foldl step start) transactId = 0 →
      Waits (acts.foldl step start) transactId ∨ Answering (acts.foldl step start) transactId ∨
        Dropped transactId acts) ∧
    (Waits (acts.foldl step start) transactId → TimeoutPending (acts.foldl step start) transactId ∨
      (∃ t ∈ (acts.foldl step start).threads, t.handles transactId = true) ∨ Downloading transactId acts ∨
        Refused transactId acts) ∧
    (StepRun.Each step ReadsAlone start acts → answers (acts.foldl step start) transactId ≤ 1) := by
  refine ⟨?_, ?_, ?_⟩
  · intro hinserted hopen
    by_cases hdropped : Dropped transactId acts
    · exact .inr (.inr hdropped)
    rcases kept_of_inserted hinserted hdropped with hwaits | hanswering | hpos
    · exact .inl hwaits
    · exact .inr (.inl hanswering)
    · omega
  · intro hwaits
    rcases (watched_or_unset acts).2 hwaits with (htimeout | hhandled) | hunset
    · exact .inl htimeout
    · exact .inr (.inl hhandled)
    · exact .inr (.inr hunset)
  · intro halone
    have hinv : StepRun.Always step OnceInv start acts :=
      halone.always (fun _ _ h halone => h.step halone) onceInv_start
    exact hinv.last.answers_le_one transactId

/-- A request that is reported as downloading, kept by a heartbeat, and answered when its timeout runs out. -/
def timedOutRequest : List Act :=
  downloadingRequest ++ [.onDelayedHeartbeat 1, .run 2 {}, .run 2 {}, .run 2 {}, .startTask 0, .run 3 {}, .run 3 {}, .run 3 {}]

theorem requests_are_answered_timed_out : StepRun.Each step ReadsAlone start timedOutRequest ∧
    answers (timedOutRequest.foldl step start) 1 ≤ 1 ∧ answers (timedOutRequest.foldl step start) 1 = 1 :=
  have h : StepRun.Each step ReadsAlone start timedOutRequest := by decide +kernel
  ⟨h, (requests_are_answered timedOutRequest 1).2.2 h, by decide +kernel⟩

end BundleFramework.FreeInstall
