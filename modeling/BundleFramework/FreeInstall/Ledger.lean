import BundleFramework.FreeInstall.ConnectMgr

/-!
# What steps do to requests

Who has to be answered and which tasks wait is the map, the queue, the callbacks invoked and the
last transact id: the ledger.  `Moved` lists everything that one step of a thread can do to it, and
`moved` says that there is nothing else.
-/

namespace BundleFramework.FreeInstall

open Std ThreadPool

structure Ledger where
  freeInstallParamsMap : ExtTreeMap Nat ServiceCenterFunction
  queue : SerialQueue
  answered : List (Nat × Int)
  transactId : Nat

/-- Whether a task is running is not in the ledger. -/
def Shared.ledger (s : Shared) : Ledger :=
  ⟨s.freeInstallParamsMap, { s.queue with busy := false }, s.answered, s.transactId⟩

namespace Ledger

variable (l : Ledger)

def schedule (taskName : TaskName) : Ledger := { l with queue := l.queue.scheduleDelayTask true taskName }

def cancel (taskName : TaskName) : Ledger := { l with queue := l.queue.cancelDelayTask taskName }

def erase (transactId : Nat) : Ledger :=
  { l with freeInstallParamsMap := l.freeInstallParamsMap.erase transactId }

def insert (transactId : Nat) (function : ServiceCenterFunction) : Ledger :=
  { l with freeInstallParamsMap := l.freeInstallParamsMap.insert transactId function }

def answer (transactId : Nat) (resultCode : Int) : Ledger :=
  { l with answered := l.answered ++ [(transactId, resultCode)] }

end Ledger

/-- Threads that stand outside every request, or find nothing to do for it. -/
def Thread.passes : Thread → Bool
  | .preloadSent | .onServiceCenterCall .. | .onDelayedHeartbeat _ | .onServiceCenterReceived _ | .disconnect
  | .ended => true
  | _ => false

/-- What a step of a thread makes of the ledger and of the thread, with what it learns from outside. -/
inductive Moved (a : Answer) (l : Ledger) : Thread → Ledger → Thread → Prop where
  | connect {transactId function stage l' t'} (hl : l' = l ∨ l' = l.cancel .disconnectDelay)
      (ht : t' = .ended ∨ t' = .connected transactId function ∨ ∃ stage', t' = .connect transactId function stage') :
      Moved a l (.connect transactId function stage) l' t'
  | turnedAway {transactId function t'} (ht : t' = .ended ∨ t' = .connected transactId function) :
      Moved a l (.connected transactId function) l t'
  | insert {transactId function} (hnew : l.freeInstallParamsMap[transactId]? = none) :
      Moved a l (.connected transactId function) (l.insert transactId function)
        (if function = .CONNECT_PRELOAD_INSTALL then .preloadSent else .sent transactId)
  | sent {transactId t'} (ht : t' = .outTimeMonitor transactId .sender ∨ t' = .fetch transactId CONNECT_ERROR .sender) :
      Moved a l (.sent transactId) l t'
  | monitorGone {transactId origin} (hgone : l.freeInstallParamsMap[transactId]? = none) :
      Moved a l (.outTimeMonitor transactId origin) l .ended
  | monitor {transactId origin} : Moved a l (.outTimeMonitor transactId origin) l (.arm transactId origin)
  | arm {transactId origin} : Moved a l (.arm transactId origin)
      (if a.submitted = true then l.schedule (.outTime transactId) else l) .ended
  | fetchGone {transactId resultCode origin}
      (hgone : ∀ function, l.freeInstallParamsMap[transactId]? = some function → function.callback = false) :
      Moved a l (.fetch transactId resultCode origin) l .ended
  | fetch {transactId resultCode origin function} (hmem : l.freeInstallParamsMap[transactId]? = some function)
      (hcallback : function.callback = true) :
      Moved a l (.fetch transactId resultCode origin) l (.erase transactId resultCode origin)
  | erase {transactId resultCode origin resultCode' l'}
      (hl : l' = l.erase transactId ∨ l' = (l.erase transactId).schedule .disconnectDelay) :
      Moved a l (.erase transactId resultCode origin) l' (.reply transactId resultCode' origin)
  | reply {transactId resultCode origin} : Moved a l (.reply transactId resultCode origin)
      (if a.written = true then l.answer transactId resultCode else l) .ended
  | downloading {transactId} (hmem : transactId ∈ l.freeInstallParamsMap) :
      Moved a l (.onServiceCenterCall transactId FREE_INSTALL_DOWNLOADING) (l.cancel (.outTime transactId)) .ended
  | result {transactId retCode resultCode} :
      Moved a l (.onServiceCenterCall transactId retCode) (l.cancel (.outTime transactId))
        (.fetch transactId resultCode .service)
  | heartbeat {transactId} :
      Moved a l (.onDelayedHeartbeat transactId) (l.cancel (.outTime transactId)) (.outTimeMonitor transactId .service)
  | received {transactId function l'} (hmem : l.freeInstallParamsMap[transactId]? = some function)
      (hdisconnect : function.inDisconnectAbilityFunc = true)
      (hl : l' = l.erase transactId ∨ l' = (l.erase transactId).schedule .disconnectDelay) :
      Moved a l (.onServiceCenterReceived transactId) l' .ended
  | pass {t t'} (hpass : t.passes = true) (ht : t' = t ∨ t' = .ended) : Moved a l t l t'

section Moves

variable (a : Answer) (s : Shared)

theorem leave_ledger (origin : Origin) : (s.leave origin).ledger = s.ledger := by
  cases origin <;> rfl

theorem cancelDelayTask_ledger (taskName : TaskName) :
    Shared.ledger { s with queue := s.queue.cancelDelayTask taskName } = s.ledger.cancel taskName := by
  unfold Shared.ledger Ledger.cancel SerialQueue.cancelDelayTask
  dsimp only
  split <;> rfl

theorem afterErase_ledger (transactId : Nat) :
    (Shared.afterErase a { s with freeInstallParamsMap := s.freeInstallParamsMap.erase transactId }).ledger =
        s.ledger.erase transactId ∨
      (Shared.afterErase a { s with freeInstallParamsMap := s.freeInstallParamsMap.erase transactId }).ledger =
        (s.ledger.erase transactId).schedule .disconnectDelay := by
  unfold Shared.afterErase Shared.disconnectDelay
  split
  · cases hsubmitted : a.submitted with
    | true => exact .inr rfl
    | false => exact .inl rfl
  · exact .inl rfl

theorem moved_finishConnect {s₀ : Shared} (hs : s.ledger = s₀.ledger ∨ s.ledger = s₀.ledger.cancel .disconnectDelay)
    (transactId : Nat) (function : ServiceCenterFunction) (stage : Stage) :
    Moved a s₀.ledger (.connect transactId function stage) (finishConnect s transactId function).1.ledger
      (finishConnect s transactId function).2 := by
  unfold finishConnect
  split
  · exact .connect hs (.inr (.inl rfl))
  · exact .connect hs (.inl rfl)

theorem moved_waitFromConnecting {s₀ : Shared}
    (hs : s.ledger = s₀.ledger ∨ s.ledger = s₀.ledger.cancel .disconnectDelay)
    (transactId : Nat) (function : ServiceCenterFunction) (stage : Stage) :
    Moved a s₀.ledger (.connect transactId function stage) (waitFromConnecting s transactId function).1.ledger
      (waitFromConnecting s transactId function).2 := by
  unfold waitFromConnecting
  split
  · exact .connect hs (.inr (.inr ⟨_, rfl⟩))
  · exact moved_finishConnect a s hs transactId function stage

theorem moved_waitFromConnected {s₀ : Shared}
    (hs : s.ledger = s₀.ledger ∨ s.ledger = s₀.ledger.cancel .disconnectDelay)
    (transactId : Nat) (function : ServiceCenterFunction) (stage : Stage) :
    Moved a s₀.ledger (.connect transactId function stage) (waitFromConnected s transactId function).1.ledger
      (waitFromConnected s transactId function).2 := by
  unfold waitFromConnected
  split
  · exact .connect hs (.inr (.inr ⟨_, rfl⟩))
  · exact moved_finishConnect a s hs transactId function stage

theorem moved_connectMove (transactId : Nat) (function : ServiceCenterFunction) (stage : Stage) :
    Moved a s.ledger (.connect transactId function stage) (connectMove a s transactId function stage).1.ledger
      (connectMove a s transactId function stage).2 := by
  have hcancel := cancelDelayTask_ledger s .disconnectDelay
  cases stage with
  | enter =>
    simp only [connectMove]
    split
    · exact .connect (.inl rfl) (.inr (.inr ⟨_, rfl⟩))
    split
    · exact moved_waitFromConnecting a _ (.inr hcancel) transactId function .enter
    · split
      · exact .connect (.inr hcancel) (.inr (.inr ⟨_, rfl⟩))
      · exact .connect (.inr hcancel) (.inl rfl)
    · exact moved_finishConnect a _ (.inr hcancel) transactId function .enter
  | request =>
    have hsame : Shared.ledger { s with locked := false } = s.ledger := rfl
    simp only [connectMove]
    split
    · exact moved_waitFromConnected a _ (.inl hsame) transactId function .request
    · exact moved_finishConnect a _ (.inl hsame) transactId function .request
  | waitFromConnecting since =>
    simp only [connectMove]
    split
    · exact .connect (.inl rfl) (.inr (.inr ⟨_, rfl⟩))
    · exact moved_waitFromConnecting a s (.inl rfl) transactId function (.waitFromConnecting since)
  | waitFromConnected since =>
    simp only [connectMove]
    split
    · exact .connect (.inl rfl) (.inr (.inr ⟨_, rfl⟩))
    · exact moved_waitFromConnected a s (.inl rfl) transactId function (.waitFromConnected since)

/-- **One step** of a thread does one of these things. -/
theorem moved (t : Thread) : Moved a s.ledger t (move a s t).1.ledger (move a s t).2 := by
  cases t with
  | connect transactId function stage => exact moved_connectMove a s transactId function stage
  | connected transactId function =>
    simp only [move, insertMove]
    split
    · exact .turnedAway (.inl rfl)
    split
    · exact .turnedAway (.inr rfl)
    split
    · exact .turnedAway (.inl rfl)
    split
    · exact .turnedAway (.inl rfl)
    next hnew =>
    refine .insert ?_
    show s.freeInstallParamsMap[transactId]? = none
    simpa using hnew
  | sent transactId =>
    simp only [move]
    split
    · exact .sent (.inl rfl)
    · exact .sent (.inr rfl)
  | preloadSent => exact .pass rfl (.inr rfl)
  | outTimeMonitor transactId origin =>
    simp only [move, outTimeMove]
    split
    · next hgone =>
      rw [leave_ledger]
      exact .monitorGone hgone
    · exact .monitor
  | arm transactId origin =>
    have harm : (move a s (.arm transactId origin)).1.ledger =
        if a.submitted = true then s.ledger.schedule (.outTime transactId) else s.ledger := by
      simp only [move, outTimeMove, leave_ledger]
      cases a.submitted <;> rfl
    rw [harm]
    exact .arm
  | fetch transactId resultCode origin =>
    simp only [move, sendCallBackMove]
    split
    · next hgone =>
      rw [leave_ledger]
      refine .fetchGone fun function hmem => ?_
      cases hgone.symm.trans hmem
    next function hmem =>
    split
    · next hcallback => exact .fetch hmem hcallback
    · next hcallback =>
      rw [leave_ledger]
      refine .fetchGone fun function' hmem' => ?_
      obtain rfl : function = function' := Option.some.inj (hmem.symm.trans hmem')
      exact Bool.not_eq_true _ ▸ hcallback
  | erase transactId resultCode origin => exact .erase (afterErase_ledger a s transactId)
  | reply transactId resultCode origin =>
    have hreply : (move a s (.reply transactId resultCode origin)).1.ledger =
          (if a.written = true then s.ledger.answer transactId resultCode else s.ledger) ∧
        (move a s (.reply transactId resultCode origin)).2 = .ended := by
      simp only [move, sendCallBackMove]
      split <;> exact ⟨leave_ledger _ origin, rfl⟩
    rw [hreply.1, hreply.2]
    exact .reply
  | onServiceCenterCall transactId retCode =>
    simp only [move, serviceMove]
    split
    · exact .pass rfl (.inr rfl)
    next function hmem =>
    split
    · next hdownloading =>
      subst hdownloading
      rw [cancelDelayTask_ledger]
      refine .downloading ?_
      exact ExtTreeMap.mem_iff_isSome_getElem?.mpr (Option.isSome_of_eq_some hmem)
    · rw [cancelDelayTask_ledger]
      exact .result
  | onDelayedHeartbeat transactId =>
    simp only [move, serviceMove]
    split
    · exact .pass rfl (.inr rfl)
    · rw [cancelDelayTask_ledger]
      exact .heartbeat
  | onServiceCenterReceived transactId =>
    simp only [move, serviceMove]
    split
    · exact .pass rfl (.inr rfl)
    next function hmem =>
    split
    · next hdisconnect => exact .received hmem hdisconnect (afterErase_ledger a s transactId)
    · exact .pass rfl (.inr rfl)
  | disconnect =>
    simp only [move]
    split
    · exact .pass rfl (.inl rfl)
    · exact .pass rfl (.inr rfl)
  | ended => exact .pass rfl (.inl rfl)

end Moves

end BundleFramework.FreeInstall
