import BundleFramework.Lib.StepRun

/-!
# The critical flag of installd

`CriticalManager` counts the requests in flight and tells the memory manager to spare the
process while there are any.  The flag goes up with a request; it goes down in a check that
`SingleDelayedTaskMgr` runs five seconds after the last `AfterRequest`, on a thread of its own.

There is one such thread at a time: `ScheduleDelayedTask` moves the deadline and starts a thread
only when `isRunning_` is down.  A thread that has run its check and has not yet marked itself
finished is still running, so the request that ends in between moves a deadline nobody reads any
more.  When it was the last one, the process stays critical until the next request.  The flag follows
the requests just when no last request ends in that gap.

Requests have no data of their own, so the model keeps their number.  `mutex_` is held over all
of `AfterRequest`, with the delayed task's own lock taken inside it: the request is `scheduling`
between the two.
-/

namespace BundleFramework.Critical

/-! ## Machine -/

/-- `DELAY_MILLI_SECONDS`, and a millisecond in the ticks of the clock. -/
def DELAY_MILLI_SECONDS : Int := 5 * 1000
def TICKS_PER_MILLI_SECOND : Int := 1000000

/-- Where the thread of the delayed task stands. -/
inductive Worker where
  /-- Before `GetExecuteTime`. -/
  | read
  /-- The deadline is read, the clock not yet. -/
  | decide (executeTime : Int)
  | sleep (wakeTime : Int)
  /-- Before the check. -/
  | check
  /-- Before `SetTaskFinished`. -/
  | finish
  deriving DecidableEq

structure State where
  counter : Int := 0
  critical : Bool := false
  memMgrStarted : Bool
  executeTime : Int := 0
  isRunning : Bool := false
  worker : Option Worker := none
  now : Int := 0
  /-- An `AfterRequest` has counted down and holds `mutex_`. -/
  scheduling : Bool := false
  /-- Requests that are through `BeforeRequest` and not yet in `AfterRequest`. -/
  inFlight : Nat := 0

inductive Act where
  | beforeRequest
  | afterRequest
  | scheduleDelayedTask
  | worker
  | tick (time : Nat)

def State.beforeRequest (s : State) : State :=
  if s.scheduling then s
  else
    { s with
      counter := s.counter + 1
      inFlight := s.inFlight + 1
      critical := if s.memMgrStarted ∧ ¬ s.critical then true else s.critical }

/-- The first half of `AfterRequest`. -/
def State.afterRequest (s : State) : State :=
  if s.scheduling ∨ s.inFlight = 0 then s
  else { s with counter := s.counter - 1, inFlight := s.inFlight - 1, scheduling := true }

/-- The second half, `ScheduleDelayedTask`. -/
def State.scheduleDelayedTask (s : State) : State :=
  if s.scheduling then
    let s := { s with executeTime := s.now + DELAY_MILLI_SECONDS * TICKS_PER_MILLI_SECOND, scheduling := false }
    if s.isRunning then s else { s with isRunning := true, worker := some .read }
  else s

/-- `delayTask`. -/
def State.delayTask (s : State) : State :=
  if s.memMgrStarted ∧ s.critical ∧ s.counter = 0 then { s with critical := false } else s

/-- The next step of the thread. -/
def State.work (s : State) : Worker → State
  | .read => { s with worker := some (.decide s.executeTime) }
  | .decide executeTime =>
    let sleepTime := (executeTime - s.now).tdiv TICKS_PER_MILLI_SECOND
    if sleepTime ≤ 0 then { s with worker := some .check }
    else { s with worker := some (.sleep (s.now + sleepTime * TICKS_PER_MILLI_SECOND)) }
  | .sleep wakeTime => if wakeTime ≤ s.now then { s with worker := some .read } else s
  | .check => if s.scheduling then s else { s.delayTask with worker := some .finish }
  | .finish => { s with isRunning := false, worker := none }

def step (s : State) : Act → State
  | .beforeRequest => s.beforeRequest
  | .afterRequest => s.afterRequest
  | .scheduleDelayedTask => s.scheduleDelayedTask
  | .worker => s.worker.elim s s.work
  | .tick time => { s with now := s.now + time }

/-! ## The flag -/

/-- A check that has not been evaluated is on its way. -/
def State.pending (s : State) : Bool :=
  match s.worker with
  | none | some .finish => false
  | _ => true

/-- The flag is up while requests are in flight; when it is up without any, a check is pending.
The second half is about the states in which `mutex_` is free. -/
def State.Follows (s : State) : Prop :=
  (0 < s.inFlight → s.critical = true) ∧
    (s.scheduling = false → s.critical = true → s.counter = 0 → s.pending = true)

instance (s : State) : Decidable s.Follows :=
  inferInstanceAs (Decidable ((0 < s.inFlight → s.critical = true) ∧
    (s.scheduling = false → s.critical = true → s.counter = 0 → s.pending = true)))

/-- The last request is not scheduled between the check and the end of the thread. -/
def Heard (s : State) (act : Act) : Prop :=
  match act with
  | .scheduleDelayedTask => s.scheduling = true → s.counter = 0 → s.worker ≠ some .finish
  | _ => True

structure Inv (s : State) : Prop where
  started : s.memMgrStarted = true
  counted : s.counter = s.inFlight
  running : s.isRunning = s.worker.isSome
  held : s.scheduling = true → s.critical = true
  follows : s.Follows

theorem inv_start : Inv { memMgrStarted := true } := by
  constructor <;> first | rfl | decide

section Steps

variable {s : State}

theorem Inv.beforeRequest (h : Inv s) : Inv s.beforeRequest := by
  unfold State.beforeRequest
  split
  · exact h
  next hfree =>
  have hup : (if s.memMgrStarted = true ∧ ¬ s.critical = true then true else s.critical) = true := by
    rw [h.started]
    cases s.critical <;> rfl
  refine ⟨h.started, ?_, h.running, fun _ => hup, fun _ => hup, ?_⟩
  · show s.counter + 1 = ((s.inFlight + 1 : Nat) : Int)
    have := h.counted
    omega
  · intro _ _ hzero
    have := h.counted
    dsimp only at hzero
    omega

theorem Inv.afterRequest (h : Inv s) : Inv s.afterRequest := by
  unfold State.afterRequest
  split
  · exact h
  next hgo =>
  rw [not_or] at hgo
  have hup : s.critical = true := h.follows.1 (by omega)
  refine ⟨h.started, ?_, h.running, fun _ => hup, fun _ => hup, ?_⟩
  · show s.counter - 1 = ((s.inFlight - 1 : Nat) : Int)
    have := h.counted
    omega
  · intro hfree
    cases hfree

theorem Inv.scheduleDelayedTask (h : Inv s) (hheard : Heard s .scheduleDelayedTask) : Inv s.scheduleDelayedTask := by
  unfold State.scheduleDelayedTask
  split
  swap
  · exact h
  next hheld =>
  have hup := h.held hheld
  dsimp only
  split
  · next hrunning =>
    refine ⟨h.started, h.counted, h.running, fun _ => hup, fun _ => hup, ?_⟩
    -- The thread that keeps running has its check still before it.
    intro _ _ hzero
    have hthread := h.running
    rw [hrunning] at hthread
    have hnot := hheard hheld hzero
    unfold State.pending
    dsimp only
    rcases hworker : s.worker with _ | w
    · rw [hworker] at hthread
      cases hthread
    · rw [hworker] at hnot
      cases w with
      | finish => exact absurd rfl hnot
      | _ => rfl
  · exact ⟨h.started, h.counted, rfl, fun _ => hup, fun _ => hup, fun _ _ _ => rfl⟩

theorem Inv.work (h : Inv s) {w : Worker} (hworker : s.worker = some w) : Inv (s.work w) := by
  have hrunning : s.isRunning = true := by
    rw [h.running, hworker]
    rfl
  -- The thread moves on and still has its check before it.
  have hmove : ∀ w', w' ≠ Worker.finish → Inv { s with worker := some w' } := by
    intro w' hw'
    refine ⟨h.started, h.counted, hrunning, h.held, h.follows.1, fun _ _ _ => ?_⟩
    unfold State.pending
    cases w' with
    | finish => exact absurd rfl hw'
    | _ => rfl
  cases w with
  | read => exact hmove _ (by simp)
  | decide executeTime =>
    unfold State.work
    dsimp only
    split
    · exact hmove _ (by simp)
    · exact hmove _ (by simp)
  | sleep wakeTime =>
    unfold State.work
    dsimp only
    split
    · exact hmove _ (by simp)
    · exact h
  | check =>
    unfold State.work
    dsimp only
    split
    · exact h
    next hfree =>
    unfold State.delayTask
    split
    · next hdown =>
      refine ⟨h.started, h.counted, hrunning, fun hheld => absurd hheld hfree, fun hflight => ?_, fun _ hup => ?_⟩
      · have := h.counted
        have := hdown.2.2
        dsimp only at hflight
        omega
      · cases hup
    · next hkept =>
      refine ⟨h.started, h.counted, hrunning, h.held, h.follows.1, fun _ hup hzero => ?_⟩
      exact absurd ⟨h.started, hup, hzero⟩ hkept
  | finish =>
    refine ⟨h.started, h.counted, rfl, h.held, h.follows.1, fun hfree hup hzero => ?_⟩
    have hpending := h.follows.2 hfree hup hzero
    unfold State.pending at hpending
    rw [hworker] at hpending
    cases hpending

theorem Inv.step (h : Inv s) (act : Act) (hheard : Heard s act) : Inv (step s act) := by
  cases act with
  | beforeRequest => exact h.beforeRequest
  | afterRequest => exact h.afterRequest
  | scheduleDelayedTask => exact h.scheduleDelayedTask hheard
  | worker =>
    unfold Critical.step
    rcases hworker : s.worker with _ | w
    · exact h
    · exact h.work hworker
  | tick time => exact ⟨h.started, h.counted, h.running, h.held, h.follows⟩

/-- A last request that comes into the gap is lost. -/
theorem not_follows_of_not_heard (h : Inv s) {act : Act} (hlost : ¬ Heard s act) : ¬ (step s act).Follows := by
  cases act with
  | scheduleDelayedTask =>
    unfold Heard at hlost
    push Not at hlost
    obtain ⟨hheld, hzero, hworker⟩ := hlost
    have hrunning : s.isRunning = true := by
      rw [h.running, hworker]
      rfl
    have hafter : step s .scheduleDelayedTask =
        { s with executeTime := s.now + DELAY_MILLI_SECONDS * TICKS_PER_MILLI_SECOND, scheduling := false } := by
      show s.scheduleDelayedTask = _
      unfold State.scheduleDelayedTask
      rw [if_pos hheld]
      dsimp only
      rw [if_pos hrunning]
    intro hfollows
    rw [hafter] at hfollows
    have hpending := hfollows.2 rfl (h.held hheld) hzero
    unfold State.pending at hpending
    dsimp only at hpending
    rw [hworker] at hpending
    cases hpending
  | _ => exact absurd trivial hlost

end Steps

/-- **The flag follows the requests** in every state of a run just when no last request is
scheduled between the check and the end of the thread that ran it. -/
theorem critical_follows_iff (acts : List Act) :
    StepRun.Always step State.Follows { memMgrStarted := true } acts ↔
      StepRun.Each step Heard { memMgrStarted := true } acts :=
  StepRun.always_iff_each_of_inv (fun _ h => h.follows) (fun _ act h hheard => h.step act hheard)
    (fun _ _ h hlost => not_follows_of_not_heard h hlost) inv_start

/-- A request is over and its check waits for the deadline; a second request comes in time for the
check to find it, and ends before the thread is marked finished. -/
def lostRequest : List Act :=
  [.beforeRequest, .afterRequest, .scheduleDelayedTask, .worker, .worker, .tick 5000000000, .worker, .worker, .worker,
    .beforeRequest, .worker, .afterRequest, .scheduleDelayedTask, .worker]

/-- The process is idle, critical, and nothing will change that. -/
theorem critical_after_lost_request :
    ¬ StepRun.Always step State.Follows { memMgrStarted := true } lostRequest ∧
      (lostRequest.foldl step { memMgrStarted := true }).worker = none ∧
      (lostRequest.foldl step { memMgrStarted := true }).inFlight = 0 ∧
      (lostRequest.foldl step { memMgrStarted := true }).critical = true := by
  refine ⟨fun h => ?_, by decide, by decide, by decide⟩
  exact absurd h.last (by decide)

end BundleFramework.Critical
