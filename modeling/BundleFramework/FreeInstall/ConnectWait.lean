import BundleFramework.FreeInstall.ConnectMgr

/-!
# No waiter is left behind

A caller of `ConnectAbility` that finds a connection under way sleeps in `WaitFromConnecting`.  It
was woken since, or the state is still `CONNECTING` and some caller's attempt is in progress.

The one change of state without a notification is that of the first caller whose request to the
ability manager fails.  It holds `mutex_` from setting `CONNECTING` to taking it back, so nobody can
have gone to sleep in between, and those who slept before were woken when the state left `CONNECTING`.
-/

namespace BundleFramework.FreeInstall

open ThreadPool

/-- The thread makes a connection or waits for the one it asked for. -/
def Thread.attempts : Thread → Bool
  | .connect _ _ .request | .connect _ _ (.waitFromConnected _) => true
  | _ => false

def Thread.requesting : Thread → Bool
  | .connect _ _ .request => true
  | _ => false

/-- A caller that sleeps in `WaitFromConnecting` has been notified, or the state is `CONNECTING` and
a connect attempt is in progress. -/
def NoWaiterLost (m : Machine) : Prop :=
  ∀ transactId function since, Thread.connect transactId function (.waitFromConnecting since) ∈ m.threads →
    since < m.shared.notified ∨ (m.shared.connectState = .CONNECTING ∧ ∃ t ∈ m.threads, t.attempts = true)

/-- A step in which `ConnectAbility` returns true leaves the state `CONNECTED`. -/
def ReturnsConnected (m : Machine) (act : Act) : Prop :=
  ∀ (i transactId : Nat) (function : ServiceCenterFunction) (stage : Stage),
    m.threads[i]? = some (Thread.connect transactId function stage) →
    (step m act).threads[i]? = some (Thread.connected transactId function) →
    (step m act).shared.connectState = .CONNECTED

structure WaitInv (m : Machine) : Prop where
  balanced : Balanced m
  slept : ∀ transactId function since, Thread.connect transactId function (.waitFromConnecting since) ∈ m.threads →
    since ≤ m.shared.notified
  waiting : ∀ transactId function, Thread.connect transactId function (.waitFromConnecting m.shared.notified) ∈ m.threads →
    m.shared.connectState = .CONNECTING ∧ ∀ t ∈ m.threads, t.requesting = false
  attempt : m.shared.connectState = .CONNECTING → ∃ t ∈ m.threads, t.attempts = true

section Wait

variable {m : Machine}

theorem WaitInv.noWaiterLost (h : WaitInv m) : NoWaiterLost m := by
  intro transactId function since hmem
  rcases Nat.lt_or_ge since m.shared.notified with hlt | hge
  · exact .inl hlt
  · obtain rfl : since = m.shared.notified := Nat.le_antisymm (h.slept transactId function since hmem) hge
    have hstate := (h.waiting transactId function hmem).1
    exact .inr ⟨hstate, h.attempt hstate⟩

/-- A thread that is not in `ConnectAbility` leaves the connection alone. -/
def Thread.connecting : Thread → Bool
  | .connect .. => true
  | _ => false

theorem Thread.connecting_of_attempts {t : Thread} (h : t.attempts = true) : t.connecting = true := by
  unfold Thread.attempts at h
  split at h
  · rfl
  · rfl
  · cases h

theorem afterErase_connect (a : Answer) (s : Shared) :
    (s.afterErase a).connectState = s.connectState ∧ (s.afterErase a).notified = s.notified := by
  unfold Shared.afterErase
  split <;> exact ⟨rfl, rfl⟩

theorem leave_connect (s : Shared) (origin : Origin) :
    (s.leave origin).connectState = s.connectState ∧ (s.leave origin).notified = s.notified := by
  cases origin <;> exact ⟨rfl, rfl⟩

theorem move_other (a : Answer) (s : Shared) {t : Thread} (ht : t.connecting = false) :
    (move a s t).1.connectState = s.connectState ∧ (move a s t).1.notified = s.notified ∧
      (move a s t).2.connecting = false := by
  cases t with
  | connect transactId function stage => cases ht
  | connected transactId function =>
    simp only [move, insertMove]
    split
    · exact ⟨rfl, rfl, rfl⟩
    split
    · exact ⟨rfl, rfl, rfl⟩
    split
    · exact ⟨rfl, rfl, rfl⟩
    split
    · exact ⟨rfl, rfl, rfl⟩
    split <;> exact ⟨rfl, rfl, rfl⟩
  | sent transactId =>
    simp only [move]
    split <;> exact ⟨rfl, rfl, rfl⟩
  | preloadSent => exact ⟨rfl, rfl, rfl⟩
  | outTimeMonitor transactId origin =>
    simp only [move, outTimeMove]
    split
    · exact ⟨(leave_connect s origin).1, (leave_connect s origin).2, rfl⟩
    · exact ⟨rfl, rfl, rfl⟩
  | arm transactId origin =>
    have := leave_connect { s with queue := s.queue.scheduleDelayTask a.submitted (.outTime transactId) } origin
    exact ⟨this.1, this.2, rfl⟩
  | fetch transactId resultCode origin =>
    have := leave_connect s origin
    simp only [move, sendCallBackMove]
    split
    · exact ⟨this.1, this.2, rfl⟩
    split
    · exact ⟨rfl, rfl, rfl⟩
    · exact ⟨this.1, this.2, rfl⟩
  | erase transactId resultCode origin =>
    have := afterErase_connect a { s with freeInstallParamsMap := s.freeInstallParamsMap.erase transactId }
    exact ⟨this.1, this.2, rfl⟩
  | reply transactId resultCode origin =>
    have hsent := leave_connect { s with answered := s.answered ++ [(transactId, resultCode)] } origin
    have hdropped := leave_connect s origin
    simp only [move, sendCallBackMove]
    split
    · exact ⟨hsent.1, hsent.2, rfl⟩
    · exact ⟨hdropped.1, hdropped.2, rfl⟩
  | onServiceCenterCall transactId retCode =>
    simp only [move, serviceMove]
    split
    · exact ⟨rfl, rfl, rfl⟩
    split <;> exact ⟨rfl, rfl, rfl⟩
  | onDelayedHeartbeat transactId =>
    simp only [move, serviceMove]
    split <;> exact ⟨rfl, rfl, rfl⟩
  | onServiceCenterReceived transactId =>
    simp only [move, serviceMove]
    split
    · exact ⟨rfl, rfl, rfl⟩
    split
    · have := afterErase_connect a { s with freeInstallParamsMap := s.freeInstallParamsMap.erase transactId }
      exact ⟨this.1, this.2, rfl⟩
    · exact ⟨rfl, rfl, rfl⟩
  | disconnect =>
    simp only [move]
    split <;> exact ⟨rfl, rfl, rfl⟩
  | ended => exact ⟨rfl, rfl, rfl⟩

theorem requesting_locked (h : Balanced m) (hfree : m.shared.locked = false) {t : Thread} (ht : t ∈ m.threads) :
    t.requesting = false := by
  by_contra hreq
  rw [Bool.not_eq_false] at hreq
  have hholds : t.holds = true := by
    unfold Thread.requesting at hreq
    split at hreq
    · rfl
    · cases hreq
  rw [h.locked_of_holds ht hholds] at hfree
  cases hfree

/-- Neither asleep in `WaitFromConnecting` nor asking for a connection. -/
def Thread.plain : Thread → Bool
  | .connect _ _ .request | .connect _ _ (.waitFromConnecting _) => false
  | _ => true

theorem Thread.plain_of_not_connecting {t : Thread} (h : t.connecting = false) : t.plain = true := by
  cases t <;> first | rfl | cases h

theorem Thread.not_requesting_of_plain {t : Thread} (h : t.plain = true) : t.requesting = false := by
  unfold Thread.plain at h
  unfold Thread.requesting
  split
  · cases h
  · rfl

/-- A step that leaves the connection alone. -/
theorem WaitInv.of_frame (h : WaitInv m) {m' : Machine} (hb : Balanced m')
    (hstate : m'.shared.connectState = m.shared.connectState) (hnotified : m'.shared.notified = m.shared.notified)
    (hback : ∀ t ∈ m'.threads, t ∈ m.threads ∨ t.plain = true)
    (hkept : ∀ t ∈ m.threads, t.attempts = true → t ∈ m'.threads) : WaitInv m' := by
  refine ⟨hb, ?_, ?_, ?_⟩
  · intro transactId function since hmem
    rw [hnotified]
    rcases hback _ hmem with hmem | hplain
    · exact h.slept transactId function since hmem
    · cases hplain
  · intro transactId function hmem
    rw [hnotified] at hmem
    rcases hback _ hmem with hmem | hplain
    · obtain ⟨hconnecting, hnone⟩ := h.waiting transactId function hmem
      refine ⟨hstate.trans hconnecting, fun t ht => ?_⟩
      rcases hback t ht with ht | hplain
      · exact hnone t ht
      · exact Thread.not_requesting_of_plain hplain
    · cases hplain
  · intro hconnecting
    obtain ⟨t, ht, hattempts⟩ := h.attempt (hstate.symm.trans hconnecting)
    exact ⟨t, hkept t ht hattempts, hattempts⟩

/-- A step that leaves `CONNECTING` and notifies. -/
theorem WaitInv.of_notified (h : WaitInv m) {m' : Machine} (hb : Balanced m')
    (hstate : m'.shared.connectState ≠ .CONNECTING) (hnotified : m'.shared.notified = m.shared.notified + 1)
    (hback : ∀ t ∈ m'.threads, t ∈ m.threads ∨ t.plain = true) : WaitInv m' := by
  have hslept : ∀ transactId function since,
      Thread.connect transactId function (.waitFromConnecting since) ∈ m'.threads → since ≤ m.shared.notified := by
    intro transactId function since hmem
    rcases hback _ hmem with hmem | hplain
    · exact h.slept transactId function since hmem
    · cases hplain
  refine ⟨hb, ?_, ?_, fun hconnecting => absurd hconnecting hstate⟩
  · intro transactId function since hmem
    have := hslept transactId function since hmem
    omega
  · intro transactId function hmem
    have := hslept transactId function _ hmem
    omega

/-- A step of a thread in `ConnectAbility` that does not notify. -/
theorem WaitInv.of_move (h : WaitInv m) {i : Nat} {t t' : Thread} {s : Shared} (hi : m.threads[i]? = some t)
    (hb : Balanced ⟨s, m.threads.set i t'⟩) (hnotified : s.notified = m.shared.notified)
    (hself : ∀ transactId function since, t' = .connect transactId function (.waitFromConnecting since) →
      since = m.shared.notified ∧ s.connectState = .CONNECTING ∧ m.shared.locked = false)
    (hothers : (s.connectState = m.shared.connectState ∧ t'.requesting = false) ∨
      ∀ transactId function, Thread.connect transactId function (.waitFromConnecting m.shared.notified) ∉ m.threads)
    (hattempt : s.connectState = .CONNECTING →
      t'.attempts = true ∨ (m.shared.connectState = .CONNECTING ∧ t.attempts = false)) :
    WaitInv ⟨s, m.threads.set i t'⟩ := by
  have hlt : i < m.threads.length := (List.getElem?_eq_some_iff.mp hi).1
  have hset : ∀ u ∈ m.threads.set i t', u = t' ∨ u ∈ m.threads := fun u hu => (List.mem_or_eq_of_mem_set hu).symm
  refine ⟨hb, ?_, ?_, ?_⟩
  · intro transactId function since hmem
    show since ≤ s.notified
    rw [hnotified]
    rcases hset _ hmem with e | hmem
    · exact (hself transactId function since e.symm).1.le
    · exact h.slept transactId function since hmem
  · intro transactId function hmem
    change Thread.connect transactId function (.waitFromConnecting s.notified) ∈ _ at hmem
    rw [hnotified] at hmem
    rcases hset _ hmem with e | hmem
    · obtain ⟨-, hconnecting, hfree⟩ := hself transactId function _ e.symm
      refine ⟨hconnecting, fun u hu => ?_⟩
      rcases hset u hu with rfl | hu
      · rw [← e]
        rfl
      · exact requesting_locked h.balanced hfree hu
    · rcases hothers with ⟨hstate, hplain⟩ | hnone
      · obtain ⟨hconnecting, hrequesting⟩ := h.waiting transactId function hmem
        refine ⟨hstate.trans hconnecting, fun u hu => ?_⟩
        rcases hset u hu with rfl | hu
        · exact hplain
        · exact hrequesting u hu
      · exact absurd hmem (hnone transactId function)
  · intro hconnecting
    rcases hattempt hconnecting with hnew | ⟨hold, ht⟩
    · exact ⟨t', List.mem_set hlt t', hnew⟩
    · obtain ⟨u, hu, hattempts⟩ := h.attempt hold
      rcases eq_or_mem_set hi hu t' with rfl | hu
      · rw [ht] at hattempts
        cases hattempts
      · exact ⟨u, hu, hattempts⟩

/-- What the end of `ConnectAbility` leaves when the state is settled. -/
theorem finishConnect_cases (s : Shared) (transactId : Nat) (function : ServiceCenterFunction) :
    (s.connectState = .CONNECTED ∧ finishConnect s transactId function = (s, .connected transactId function)) ∨
      (s.connectState ≠ .CONNECTED ∧
        finishConnect s transactId function = ({ s with connectState := .DISCONNECTED }, .ended)) := by
  unfold finishConnect
  split
  · next h => exact .inl ⟨h, rfl⟩
  · next h => exact .inr ⟨h, rfl⟩

/-- The thread leaves `ConnectAbility` when nobody sleeps unnotified, or with the state as it was. -/
theorem WaitInv.finish (h : WaitInv m) {i : Nat} {t : Thread} (hi : m.threads[i]? = some t) {s : Shared}
    {transactId : Nat} {function : ServiceCenterFunction}
    (hb : Balanced ⟨(finishConnect s transactId function).1, m.threads.set i (finishConnect s transactId function).2⟩)
    (hnotified : s.notified = m.shared.notified) (hstate : s.connectState = m.shared.connectState)
    (hsettled : m.shared.connectState ≠ .CONNECTING ∨
      ∀ transactId function, Thread.connect transactId function (.waitFromConnecting m.shared.notified) ∉ m.threads) :
    WaitInv ⟨(finishConnect s transactId function).1, m.threads.set i (finishConnect s transactId function).2⟩ := by
  rcases finishConnect_cases s transactId function with ⟨hconnected, heq⟩ | ⟨hnot, heq⟩
  · rw [heq] at hb ⊢
    refine h.of_move hi hb hnotified (fun _ _ _ e => by cases e) (.inl ⟨hstate, rfl⟩) fun hconnecting => ?_
    rw [hconnected] at hconnecting
    cases hconnecting
  · rw [heq] at hb ⊢
    refine h.of_move hi hb hnotified (fun _ _ _ e => by cases e) ?_ fun hconnecting => by cases hconnecting
    rcases hsettled with hsettled | hnone
    · refine .inl ⟨?_, rfl⟩
      rw [← hstate] at hsettled ⊢
      cases hs : s.connectState with
      | DISCONNECTED => rfl
      | CONNECTING => exact absurd hs hsettled
      | CONNECTED => exact absurd hs hnot
    · exact .inr hnone

/-- The machine after a step of a thread in `ConnectAbility`. -/
def Machine.connect (m : Machine) (i : Nat) (a : Answer) (transactId : Nat) (function : ServiceCenterFunction)
    (stage : Stage) : Machine :=
  ⟨(connectMove a m.shared transactId function stage).1, m.threads.set i (connectMove a m.shared transactId function stage).2⟩

theorem connect_eq {i : Nat} {a : Answer} {transactId : Nat} {function : ServiceCenterFunction} {stage : Stage}
    {s : Shared} {t : Thread} (hmove : connectMove a m.shared transactId function stage = (s, t)) :
    m.connect i a transactId function stage = ⟨s, m.threads.set i t⟩ := by
  unfold Machine.connect
  rw [hmove]

section Connect

variable {i transactId : Nat} {function : ServiceCenterFunction} {a : Answer}

theorem WaitInv.balanced_connect (h : WaitInv m) {stage : Stage}
    (hi : m.threads[i]? = some (.connect transactId function stage)) :
    Balanced (m.connect i a transactId function stage) := by
  have := h.balanced.step (.run i a)
  rw [step_run_of_some hi] at this
  exact this

/-- A thread that finds `mutex_` taken stays where it is. -/
theorem WaitInv.connect_of_locked (h : WaitInv m) {stage : Stage}
    (hi : m.threads[i]? = some (.connect transactId function stage))
    (hmove : connectMove a m.shared transactId function stage = (m.shared, .connect transactId function stage)) :
    WaitInv (m.connect i a transactId function stage) := by
  rw [connect_eq hmove]
  obtain ⟨hlt, hget⟩ := List.getElem?_eq_some_iff.mp hi
  rw [← hget, List.set_getElem_self]
  exact h

theorem WaitInv.connect_enter (h : WaitInv m) (hi : m.threads[i]? = some (.connect transactId function .enter)) :
    WaitInv (m.connect i a transactId function .enter) := by
  have hb := h.balanced_connect (a := a) hi
  rcases hlocked : m.shared.locked with _ | _
  swap
  · exact h.connect_of_locked hi (by simp [connectMove, hlocked])
  cases hstate : m.shared.connectState with
  | CONNECTING =>
    have hmove : connectMove a m.shared transactId function .enter =
        ({ m.shared with queue := m.shared.queue.cancelDelayTask .disconnectDelay },
          .connect transactId function (.waitFromConnecting m.shared.notified)) := by
      simp [connectMove, waitFromConnecting, hlocked, hstate]
    rw [connect_eq hmove] at hb ⊢
    refine h.of_move hi hb rfl ?_ (.inl ⟨rfl, rfl⟩) fun _ => .inr ⟨hstate, rfl⟩
    intro _ _ since e
    cases e
    exact ⟨rfl, hstate, hlocked⟩
  | DISCONNECTED =>
    by_cases hallocated : a.allocated = true
    · have hmove : connectMove a m.shared transactId function .enter =
          ({ m.shared with
              queue := m.shared.queue.cancelDelayTask .disconnectDelay, connectState := .CONNECTING, locked := true },
            .connect transactId function .request) := by
        simp [connectMove, hlocked, hstate, hallocated]
      rw [connect_eq hmove] at hb ⊢
      refine h.of_move hi hb rfl (fun _ _ _ e => by cases e) (.inr fun _ _ hmem => ?_) fun _ => .inl rfl
      -- Those who sleep unnotified sleep in `CONNECTING`.
      have := (h.waiting _ _ hmem).1
      rw [hstate] at this
      cases this
    · have hmove : connectMove a m.shared transactId function .enter =
          ({ m.shared with
              queue := m.shared.queue.cancelDelayTask .disconnectDelay, notified := m.shared.notified + 1 }, .ended) := by
        simp [connectMove, hlocked, hstate, hallocated]
      rw [connect_eq hmove] at hb ⊢
      refine h.of_notified hb ?_ rfl fun u hu => ?_
      · show m.shared.connectState ≠ .CONNECTING
        rw [hstate]
        simp
      · rcases List.mem_or_eq_of_mem_set hu with hu | rfl
        · exact .inl hu
        · exact .inr rfl
  | CONNECTED =>
    have hmove : connectMove a m.shared transactId function .enter =
        finishConnect { m.shared with queue := m.shared.queue.cancelDelayTask .disconnectDelay } transactId function := by
      simp [connectMove, hlocked, hstate]
    rw [connect_eq hmove] at hb ⊢
    refine h.finish hi hb rfl rfl (.inl ?_)
    rw [hstate]
    simp

theorem WaitInv.connect_request (h : WaitInv m) (hi : m.threads[i]? = some (.connect transactId function .request)) :
    WaitInv (m.connect i a transactId function .request) := by
  have hb := h.balanced_connect (a := a) hi
  -- Nobody has gone to sleep unnotified while this thread held `mutex_`.
  have hnone : ∀ transactId function,
      Thread.connect transactId function (.waitFromConnecting m.shared.notified) ∉ m.threads := by
    intro transactId function hmem
    have := (h.waiting transactId function hmem).2 _ (List.mem_of_getElem? hi)
    cases this
  by_cases hsleep : a.ok = true ∧ m.shared.connectState = .CONNECTING
  · have hmove : connectMove a m.shared transactId function .request =
        ({ m.shared with locked := false }, .connect transactId function (.waitFromConnected m.shared.notified)) := by
      simp [connectMove, waitFromConnected, hsleep]
    rw [connect_eq hmove] at hb ⊢
    exact h.of_move hi hb rfl (fun _ _ _ e => by cases e) (.inr hnone) fun _ => .inl rfl
  · have hmove : connectMove a m.shared transactId function .request =
        finishConnect { m.shared with locked := false } transactId function := by
      unfold connectMove waitFromConnected
      dsimp only
      split
      · next hok => rw [if_neg fun e => hsleep ⟨hok, e⟩]
      · rfl
    rw [connect_eq hmove] at hb ⊢
    exact h.finish hi hb rfl rfl (.inr hnone)

theorem WaitInv.connect_waitFromConnecting (h : WaitInv m) {since : Nat}
    (hi : m.threads[i]? = some (.connect transactId function (.waitFromConnecting since))) :
    WaitInv (m.connect i a transactId function (.waitFromConnecting since)) := by
  have hb := h.balanced_connect (a := a) hi
  rcases hlocked : m.shared.locked with _ | _
  swap
  · exact h.connect_of_locked hi (by simp [connectMove, hlocked])
  by_cases hstate : m.shared.connectState = .CONNECTING
  · have hmove : connectMove a m.shared transactId function (.waitFromConnecting since) =
        (m.shared, .connect transactId function (.waitFromConnecting m.shared.notified)) := by
      simp [connectMove, waitFromConnecting, hlocked, hstate]
    rw [connect_eq hmove] at hb ⊢
    refine h.of_move hi hb rfl ?_ (.inl ⟨rfl, rfl⟩) fun _ => .inr ⟨hstate, rfl⟩
    intro _ _ since' e
    cases e
    exact ⟨rfl, hstate, hlocked⟩
  · have hmove : connectMove a m.shared transactId function (.waitFromConnecting since) =
        finishConnect m.shared transactId function := by
      simp [connectMove, waitFromConnecting, hlocked, hstate]
    rw [connect_eq hmove] at hb ⊢
    exact h.finish hi hb rfl rfl (.inl hstate)

theorem WaitInv.connect_waitFromConnected (h : WaitInv m) {since : Nat}
    (hi : m.threads[i]? = some (.connect transactId function (.waitFromConnected since))) :
    WaitInv (m.connect i a transactId function (.waitFromConnected since)) := by
  have hb := h.balanced_connect (a := a) hi
  rcases hlocked : m.shared.locked with _ | _
  swap
  · exact h.connect_of_locked hi (by simp [connectMove, hlocked])
  by_cases hstate : m.shared.connectState = .CONNECTING
  · have hmove : connectMove a m.shared transactId function (.waitFromConnected since) =
        (m.shared, .connect transactId function (.waitFromConnected m.shared.notified)) := by
      simp [connectMove, waitFromConnected, hlocked, hstate]
    rw [connect_eq hmove] at hb ⊢
    exact h.of_move hi hb rfl (fun _ _ _ e => by cases e) (.inl ⟨rfl, rfl⟩) fun _ => .inl rfl
  · have hmove : connectMove a m.shared transactId function (.waitFromConnected since) =
        finishConnect m.shared transactId function := by
      simp [connectMove, waitFromConnected, hlocked, hstate]
    rw [connect_eq hmove] at hb ⊢
    exact h.finish hi hb rfl rfl (.inl hstate)

theorem WaitInv.connect (h : WaitInv m) {stage : Stage}
    (hi : m.threads[i]? = some (.connect transactId function stage)) :
    WaitInv (m.connect i a transactId function stage) := by
  cases stage with
  | enter => exact h.connect_enter hi
  | request => exact h.connect_request hi
  | waitFromConnecting since => exact h.connect_waitFromConnecting hi
  | waitFromConnected since => exact h.connect_waitFromConnected hi

end Connect

theorem WaitInv.step (h : WaitInv m) (act : Act) : WaitInv (step m act) := by
  have hb := h.balanced.step act
  -- A new thread that is not in the way.
  have hnew : ∀ (s : Shared) (t : Thread), s.connectState = m.shared.connectState → s.notified = m.shared.notified →
      t.plain = true → Balanced ⟨s, m.threads ++ [t]⟩ → WaitInv ⟨s, m.threads ++ [t]⟩ := by
    intro s t hstate hnotified hplain hb
    refine h.of_frame hb hstate hnotified (fun u hu => ?_) fun u hu _ => List.mem_append_left _ hu
    rcases List.mem_append.mp hu with hu | hu
    · exact .inl hu
    · rw [List.mem_singleton.mp hu]
      exact .inr hplain
  have hupdate : ∀ state, state ≠ .CONNECTING → Balanced ⟨m.shared.updateConnectState state, m.threads⟩ →
      WaitInv ⟨m.shared.updateConnectState state, m.threads⟩ := by
    intro state hstate hb
    unfold Shared.updateConnectState at hb ⊢
    split at hb
    · next hlocked =>
      rw [if_pos hlocked]
      exact h
    · next hlocked =>
      rw [if_neg hlocked]
      exact h.of_notified hb hstate rfl fun u hu => .inl hu
  cases act with
  | request function => exact hnew _ _ rfl rfl rfl hb
  | onServiceCenterCall transactId retCode => exact hnew _ _ rfl rfl rfl hb
  | onDelayedHeartbeat transactId => exact hnew _ _ rfl rfl rfl hb
  | onServiceCenterReceived transactId => exact hnew _ _ rfl rfl rfl hb
  | startTask n =>
    unfold FreeInstall.step at hb ⊢
    dsimp only at hb ⊢
    split at hb
    · next task _ _ =>
      refine hnew _ _ rfl rfl ?_ hb
      unfold Task.thread
      split <;> rfl
    · exact h
  | onAbilityConnectDone resultOk remote =>
    refine hupdate _ ?_ hb
    split <;> simp
  | onAbilityDisconnectDone => exact hupdate _ (by simp) hb
  | deathRecipientSendCallback written =>
    change Balanced ⟨m.shared.deathRecipientSendCallback written, m.threads⟩ at hb
    show WaitInv ⟨m.shared.deathRecipientSendCallback written, m.threads⟩
    unfold Shared.deathRecipientSendCallback at hb ⊢
    split at hb
    · next hlocked =>
      rw [if_pos hlocked]
      exact h
    · next hlocked =>
      rw [if_neg hlocked]
      exact h.of_notified hb (by simp) rfl fun u hu => .inl hu
  | run i a =>
    rcases hi : m.threads[i]? with _ | t
    · rw [step_run_of_none hi]
      exact h
    rw [step_run_of_some hi] at hb ⊢
    by_cases ht : t.connecting = true
    · cases t with
      | connect transactId function stage => exact h.connect hi
      | _ => cases ht
    · rw [Bool.not_eq_true] at ht
      obtain ⟨hstate, hnotified, hplain⟩ := move_other a m.shared ht
      refine h.of_frame hb hstate hnotified (fun u hu => ?_) fun u hu hattempts => ?_
      · rcases List.mem_or_eq_of_mem_set hu with hu | rfl
        · exact .inl hu
        · exact .inr (Thread.plain_of_not_connecting hplain)
      · rcases eq_or_mem_set hi hu (move a m.shared t).2 with rfl | hu
        · rw [Thread.connecting_of_attempts hattempts] at ht
          cases ht
        · exact hu

theorem waitInv_start : WaitInv start := by
  refine ⟨balanced_start, ?_, ?_, fun hconnecting => by cases hconnecting⟩
  · intro _ _ _ hmem
    cases hmem
  · intro _ _ hmem
    cases hmem

/-! ## What `ConnectAbility` returns -/

theorem finishConnect_connected {s : Shared} {transactId transactId' : Nat} {function function' : ServiceCenterFunction}
    (h : (finishConnect s transactId function).2 = .connected transactId' function') :
    (finishConnect s transactId function).1.connectState = .CONNECTED := by
  rcases finishConnect_cases s transactId function with ⟨hconnected, heq⟩ | ⟨-, heq⟩
  · rw [heq]
    exact hconnected
  · rw [heq] at h
    cases h

theorem waitFromConnecting_connected {s : Shared} {transactId transactId' : Nat}
    {function function' : ServiceCenterFunction}
    (h : (waitFromConnecting s transactId function).2 = .connected transactId' function') :
    (waitFromConnecting s transactId function).1.connectState = .CONNECTED := by
  unfold waitFromConnecting at h ⊢
  split at h
  · cases h
  next hsettled =>
  rw [if_neg hsettled]
  exact finishConnect_connected h

theorem waitFromConnected_connected {s : Shared} {transactId transactId' : Nat}
    {function function' : ServiceCenterFunction}
    (h : (waitFromConnected s transactId function).2 = .connected transactId' function') :
    (waitFromConnected s transactId function).1.connectState = .CONNECTED := by
  unfold waitFromConnected at h ⊢
  split at h
  · cases h
  next hsettled =>
  rw [if_neg hsettled]
  exact finishConnect_connected h

theorem connectMove_connected {a : Answer} {s : Shared} {transactId transactId' : Nat}
    {function function' : ServiceCenterFunction} {stage : Stage}
    (h : (connectMove a s transactId function stage).2 = .connected transactId' function') :
    (connectMove a s transactId function stage).1.connectState = .CONNECTED := by
  cases stage with
  | enter =>
    simp only [connectMove] at h ⊢
    by_cases hlocked : s.locked = true
    · rw [if_pos hlocked] at h
      cases h
    rw [if_neg hlocked] at h ⊢
    cases hstate : s.connectState with
    | CONNECTING =>
      rw [hstate] at h
      exact waitFromConnecting_connected h
    | DISCONNECTED =>
      rw [hstate] at h
      dsimp only at h
      split at h <;> cases h
    | CONNECTED =>
      rw [hstate] at h
      exact finishConnect_connected h
  | request =>
    simp only [connectMove] at h ⊢
    split at h
    · next hok =>
      rw [if_pos hok]
      exact waitFromConnected_connected h
    · next hok =>
      rw [if_neg hok]
      exact finishConnect_connected h
  | waitFromConnecting since =>
    simp only [connectMove] at h ⊢
    split at h
    · cases h
    next hlocked =>
    rw [if_neg hlocked]
    exact waitFromConnecting_connected h
  | waitFromConnected since =>
    simp only [connectMove] at h ⊢
    split at h
    · cases h
    next hlocked =>
    rw [if_neg hlocked]
    exact waitFromConnected_connected h

theorem returnsConnected (m : Machine) (act : Act) : ReturnsConnected m act := by
  intro i transactId function stage hi hconnected
  have hlt : i < m.threads.length := (List.getElem?_eq_some_iff.mp hi).1
  -- Only the thread's own step takes it out of `ConnectAbility`.
  have hsame : ∀ {ts : List Thread}, ts[i]? = m.threads[i]? → ts[i]? ≠ some (Thread.connected transactId function) := by
    intro ts hts
    rw [hts, hi]
    simp
  have happend : ∀ t : Thread, (m.threads ++ [t])[i]? = m.threads[i]? := fun t => List.getElem?_append_left hlt
  cases act with
  | request function => exact absurd hconnected (hsame (happend _))
  | onServiceCenterCall transactId retCode => exact absurd hconnected (hsame (happend _))
  | onDelayedHeartbeat transactId => exact absurd hconnected (hsame (happend _))
  | onServiceCenterReceived transactId => exact absurd hconnected (hsame (happend _))
  | startTask n =>
    unfold step at hconnected
    dsimp only at hconnected
    split at hconnected
    · exact absurd hconnected (hsame (happend _))
    · exact absurd hconnected (hsame rfl)
  | onAbilityConnectDone resultOk remote => exact absurd hconnected (hsame rfl)
  | onAbilityDisconnectDone => exact absurd hconnected (hsame rfl)
  | deathRecipientSendCallback written => exact absurd hconnected (hsame rfl)
  | run j a =>
    rcases hj : m.threads[j]? with _ | t
    · rw [step_run_of_none hj] at hconnected
      exact absurd hconnected (hsame rfl)
    rw [step_run_of_some hj] at hconnected ⊢
    by_cases hij : j = i
    · subst hij
      obtain rfl : Thread.connect transactId function stage = t := Option.some.inj (hi.symm.trans hj)
      rw [List.getElem?_set_self hlt] at hconnected
      exact connectMove_connected (Option.some.inj hconnected)
    · exact absurd hconnected (hsame (List.getElem?_set_ne hij))

end Wait

/-- **Main result**: over every interleaving no caller asleep in `WaitFromConnecting` is left behind, and
`ConnectAbility` returns true only in `CONNECTED`. -/
theorem no_waiter_left_behind (acts : List Act) :
    StepRun.Always step NoWaiterLost start acts ∧ StepRun.Each step ReturnsConnected start acts := by
  have hany : StepRun.Each step (fun _ _ => True) start acts := StepRun.each_of_forall (fun _ _ => trivial) start
  have hstep : ∀ m act, WaitInv m → True → WaitInv (step m act) ∧ ReturnsConnected m act :=
    fun m act h _ => ⟨h.step act, returnsConnected m act⟩
  constructor
  · intro pre hpre
    have hinv : StepRun.Always step WaitInv start acts := hany.always (fun m act h ok => (hstep m act h ok).1) waitInv_start
    exact (hinv pre hpre).noWaiterLost
  · exact hany.guarantee hstep waitInv_start

end BundleFramework.FreeInstall
