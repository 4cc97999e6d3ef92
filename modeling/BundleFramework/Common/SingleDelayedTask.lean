import BundleFramework.Lib.StepRun

/-!
# Delayed tasks

`SingleDelayedTaskMgr` runs one function some time after the last request for it, on a thread of
its own.  `ScheduleDelayedTask` moves the deadline under the lock and starts a thread if
`isRunning_` is down, which it raises first; the thread sleeps until the deadline it has read,
reads it again, and when it is over calls the function and puts `isRunning_` down.

The flag is up while the function runs, too.  A request that comes then moves a deadline that
nobody reads any more.  Up to that, no request is lost: each one is followed by a start of the
function.

The users of the class give one function to one manager, so requests have no data of their own.
The manager is alive; times are in the ticks of the clock.
-/

namespace BundleFramework.SingleDelayedTask

/-! ## Machine -/

def TICKS_PER_MILLI_SECOND : Int := 1000000

/-- Where a thread stands. -/
inductive Stage where
  /-- The flag is up and the caller is about to start the thread. -/
  | create
  /-- Before `GetExecuteTime`. -/
  | read
  /-- The deadline is read, the clock not yet. -/
  | decide (executeTime : Int)
  | sleep (wakeTime : Int)
  /-- Out of the loop, before the call of the function. -/
  | call
  /-- In the function. -/
  | running
  /-- Before `SetTaskFinished`. -/
  | finish
  deriving DecidableEq

structure State where
  executeTime : Int := 0
  isRunning : Bool := false
  workers : List Stage := []
  now : Int := 0
  /-- A request was made since the function was started last. -/
  requested : Bool := false

inductive Act where
  /-- `ScheduleDelayedTask` up to the end of its locked section. -/
  | scheduleDelayedTask
  /-- The next step of one of the threads. -/
  | worker (i : Nat)
  | tick (time : Nat)

def State.scheduleDelayedTask (delayedTimeMs : Nat) (s : State) : State :=
  let s := { s with executeTime := s.now + delayedTimeMs * TICKS_PER_MILLI_SECOND, requested := true }
  if s.isRunning then s else { s with isRunning := true, workers := s.workers ++ [.create] }

/-- The thread `i` moves on to `stage`. -/
def State.goTo (s : State) (i : Nat) (stage : Stage) : State := { s with workers := s.workers.set i stage }

def State.work (s : State) (i : Nat) : Stage → State
  | .create => s.goTo i .read
  | .read => s.goTo i (.decide s.executeTime)
  | .decide executeTime =>
    let sleepTime := (executeTime - s.now).tdiv TICKS_PER_MILLI_SECOND
    if sleepTime ≤ 0 then s.goTo i .call else s.goTo i (.sleep (s.now + sleepTime * TICKS_PER_MILLI_SECOND))
  | .sleep wakeTime => if wakeTime ≤ s.now then s.goTo i .read else s
  | .call => { s.goTo i .running with requested := false }
  | .running => s.goTo i .finish
  | .finish => { s with isRunning := false, workers := s.workers.eraseIdx i }

def step (delayedTimeMs : Nat) (s : State) : Act → State
  | .scheduleDelayedTask => s.scheduleDelayedTask delayedTimeMs
  | .worker i => (s.workers[i]?).elim s (s.work i)
  | .tick time => { s with now := s.now + time }

/-! ## Requests -/

/-- The function is not yet started. -/
def Stage.before : Stage → Bool
  | .running | .finish => false
  | _ => true

/-- No request was made since the last start of the function, or a thread is there that has not
yet started it. -/
def State.Heeded (s : State) : Prop := s.requested = true → ∃ stage ∈ s.workers, stage.before = true

/-- There is at most one thread, and no request is lost. -/
def State.Sound (s : State) : Prop := s.workers.length ≤ 1 ∧ s.Heeded

/-- A request does not come between the start of the function and the end of the thread. -/
def InTime (s : State) : Act → Prop
  | .scheduleDelayedTask => ∀ stage ∈ s.workers, stage.before = true
  | _ => True

instance (s : State) : DecidablePred (InTime s)
  | .scheduleDelayedTask => inferInstanceAs (Decidable (∀ stage ∈ s.workers, stage.before = true))
  | .worker _ => inferInstanceAs (Decidable True)
  | .tick _ => inferInstanceAs (Decidable True)

/-- The flag says whether there is a thread. -/
def OneWorker (s : State) : Prop := s.workers.length = if s.isRunning then 1 else 0

variable {delayedTimeMs : Nat} {s : State}

theorem OneWorker.cases (h : OneWorker s) :
    (s.isRunning = false ∧ s.workers = []) ∨ (s.isRunning = true ∧ ∃ stage, s.workers = [stage]) := by
  unfold OneWorker at h
  cases hrunning : s.isRunning with
  | false =>
    rw [hrunning, if_neg Bool.false_ne_true] at h
    exact .inl ⟨rfl, List.length_eq_zero_iff.mp h⟩
  | true =>
    rw [hrunning, if_pos rfl] at h
    exact .inr ⟨rfl, List.length_eq_one_iff.mp h⟩

/-- The thread that moves is the only one. -/
theorem OneWorker.of_get (h : OneWorker s) {i : Nat} {stage : Stage} (hi : s.workers[i]? = some stage) :
    i = 0 ∧ s.isRunning = true ∧ s.workers = [stage] := by
  rcases h.cases with ⟨-, hnil⟩ | ⟨hrunning, only, honly⟩
  · rw [hnil] at hi
    cases hi
  · rw [honly] at hi ⊢
    cases i with
    | zero =>
      cases hi
      exact ⟨rfl, hrunning, rfl⟩
    | succ i => simp at hi

theorem OneWorker.goTo (h : OneWorker s) (i : Nat) (stage : Stage) : OneWorker (s.goTo i stage) := by
  unfold OneWorker State.goTo
  dsimp only
  rw [List.length_set]
  exact h

theorem OneWorker.schedule (h : OneWorker s) : OneWorker (s.scheduleDelayedTask delayedTimeMs) := by
  unfold State.scheduleDelayedTask
  dsimp only
  split
  · exact h
  · rcases h.cases with ⟨-, hnil⟩ | ⟨hrunning, -⟩
    · unfold OneWorker
      dsimp only
      rw [hnil]
      rfl
    · contradiction

/-- **One step keeps the flag right**, whenever requests come. -/
theorem OneWorker.step (h : OneWorker s) (act : Act) : OneWorker (step delayedTimeMs s act) := by
  cases act with
  | scheduleDelayedTask => exact h.schedule
  | tick time => exact h
  | worker i =>
    show OneWorker ((s.workers[i]?).elim s (s.work i))
    cases hi : s.workers[i]? with
    | none => exact h
    | some stage =>
      show OneWorker (s.work i stage)
      cases stage with
      | create => exact h.goTo i _
      | read => exact h.goTo i _
      | decide executeTime =>
        unfold State.work
        dsimp only
        split
        · exact h.goTo i _
        · exact h.goTo i _
      | sleep wakeTime =>
        unfold State.work
        dsimp only
        split
        · exact h.goTo i _
        · exact h
      | call => exact h.goTo i _
      | running => exact h.goTo i _
      | finish =>
        obtain ⟨rfl, -, honly⟩ := h.of_get hi
        unfold State.work OneWorker
        dsimp only
        rw [honly]
        rfl

/-! ## What a request finds -/

theorem heeded_of_only {stage : Stage} (honly : s.workers = [stage]) (hbefore : stage.before = true) : s.Heeded := by
  intro _
  rw [honly]
  exact ⟨stage, List.mem_singleton_self _, hbefore⟩

/-- The only thread moves on, to a stage before the start. -/
theorem heeded_goTo {stage : Stage} (honly : s.workers = [stage]) {next : Stage} (hbefore : next.before = true) :
    (s.goTo 0 next).Heeded := by
  have hnext : (s.goTo 0 next).workers = [next] := by
    unfold State.goTo
    rw [honly]
    rfl
  exact heeded_of_only hnext hbefore

theorem State.Heeded.schedule (hone : OneWorker s) (hintime : InTime s .scheduleDelayedTask) :
    (s.scheduleDelayedTask delayedTimeMs).Heeded := by
  unfold State.scheduleDelayedTask
  dsimp only
  rcases hone.cases with ⟨hrunning, hnil⟩ | ⟨hrunning, stage, honly⟩
  · rw [if_neg (by simp [hrunning])]
    intro _
    exact ⟨.create, by simp, rfl⟩
  · rw [if_pos hrunning]
    refine heeded_of_only honly (hintime stage ?_)
    rw [honly]
    exact List.mem_singleton_self _

/-- **One step heeds the requests**, if none comes while the function runs. -/
theorem State.Heeded.step (h : s.Heeded) (hone : OneWorker s) (act : Act) (hintime : InTime s act) :
    (step delayedTimeMs s act).Heeded := by
  cases act with
  | scheduleDelayedTask => exact State.Heeded.schedule hone hintime
  | tick time => exact h
  | worker i =>
    show ((s.workers[i]?).elim s (s.work i)).Heeded
    cases hi : s.workers[i]? with
    | none => exact h
    | some stage =>
      obtain ⟨rfl, hrunning, honly⟩ := hone.of_get hi
      show (s.work 0 stage).Heeded
      -- past the start of the function no request is left
      have hnone : stage.before = false → s.requested = false := by
        intro hpast
        by_contra hrequested
        obtain ⟨other, hother, hbefore⟩ := h (by simpa using hrequested)
        rw [honly, List.mem_singleton] at hother
        rw [← hother, hbefore] at hpast
        cases hpast
      cases stage with
      | create => exact heeded_goTo honly rfl
      | read => exact heeded_goTo honly rfl
      | decide executeTime =>
        unfold State.work
        dsimp only
        split
        · exact heeded_goTo honly rfl
        · exact heeded_goTo honly rfl
      | sleep wakeTime =>
        unfold State.work
        dsimp only
        split
        · exact heeded_goTo honly rfl
        · exact h
      | call =>
        intro hrequested
        cases hrequested
      | running =>
        intro hrequested
        rw [show (s.work 0 .running).requested = s.requested from rfl, hnone rfl] at hrequested
        cases hrequested
      | finish =>
        intro hrequested
        rw [show (s.work 0 .finish).requested = s.requested from rfl, hnone rfl] at hrequested
        cases hrequested

/-- A request that comes while the function runs is lost. -/
theorem not_heeded_of_late (hone : OneWorker s) {act : Act} (hlate : ¬ InTime s act) :
    ¬ (step delayedTimeMs s act).Heeded := by
  cases act with
  | scheduleDelayedTask =>
    unfold InTime at hlate
    push Not at hlate
    obtain ⟨stage, hstage, hpast⟩ := hlate
    rcases hone.cases with ⟨-, hnil⟩ | ⟨hrunning, only, honly⟩
    · rw [hnil] at hstage
      cases hstage
    · rw [honly, List.mem_singleton] at hstage
      subst hstage
      intro hheeded
      have hworkers : (step delayedTimeMs s .scheduleDelayedTask).workers = [stage] ∧
          (step delayedTimeMs s .scheduleDelayedTask).requested = true := by
        show (s.scheduleDelayedTask delayedTimeMs).workers = _ ∧ (s.scheduleDelayedTask delayedTimeMs).requested = _
        unfold State.scheduleDelayedTask
        dsimp only
        rw [if_pos hrunning]
        exact ⟨honly, rfl⟩
      obtain ⟨other, hother, hbefore⟩ := hheeded hworkers.2
      rw [hworkers.1, List.mem_singleton] at hother
      subst hother
      exact hpast hbefore
  | worker i => exact absurd trivial hlate
  | tick time => exact absurd trivial hlate

/-! ## What a heeded request leads to -/

/-- Without another request, the thread can go on and start the function. -/
def Starts (delayedTimeMs : Nat) (s : State) : Prop :=
  ∃ acts : List Act, .scheduleDelayedTask ∉ acts ∧ (acts.foldl (step delayedTimeMs) s).workers = [.running] ∧
    (acts.foldl (step delayedTimeMs) s).requested = false

theorem Starts.of_step {act : Act} (hact : act ≠ .scheduleDelayedTask)
    (h : Starts delayedTimeMs (SingleDelayedTask.step delayedTimeMs s act)) : Starts delayedTimeMs s := by
  obtain ⟨acts, hacts, hend⟩ := h
  refine ⟨act :: acts, ?_, hend⟩
  rw [List.mem_cons, not_or]
  exact ⟨fun e => hact e.symm, hacts⟩

theorem Starts.of_work (stage : Stage) (honly : s.workers = [stage]) (h : Starts delayedTimeMs (s.work 0 stage)) :
    Starts delayedTimeMs s := by
  refine Starts.of_step (show Act.worker 0 ≠ .scheduleDelayedTask by simp) ?_
  have hstep : SingleDelayedTask.step delayedTimeMs s (.worker 0) = s.work 0 stage := by
    show (s.workers[0]?).elim s (s.work 0) = _
    rw [honly]
    rfl
  rw [hstep]
  exact h

theorem Starts.of_tick (time : Nat) (h : Starts delayedTimeMs { s with now := s.now + time }) :
    Starts delayedTimeMs s := Starts.of_step (by simp) (show Starts _ (SingleDelayedTask.step _ s (.tick time)) from h)

theorem workers_goTo {stage next : Stage} (honly : s.workers = [stage]) : (s.goTo 0 next).workers = [next] := by
  unfold State.goTo
  rw [honly]
  rfl

theorem starts_of_call (honly : s.workers = [.call]) : Starts delayedTimeMs s :=
  Starts.of_work _ honly ⟨[], List.not_mem_nil, workers_goTo honly, rfl⟩

/-- The deadline is over. -/
theorem starts_of_due (honly : s.workers = [.read]) (hdue : s.executeTime ≤ s.now) : Starts delayedTimeMs s := by
  apply Starts.of_work _ honly
  apply Starts.of_work _ (workers_goTo honly)
  have hover : (s.executeTime - s.now).tdiv TICKS_PER_MILLI_SECOND ≤ 0 := by
    have hneg : s.executeTime - s.now = -(s.now - s.executeTime) := by omega
    rw [hneg, Int.neg_tdiv]
    have := Int.tdiv_nonneg (show 0 ≤ s.now - s.executeTime by omega) (show 0 ≤ TICKS_PER_MILLI_SECOND by decide)
    omega
  refine (congrArg (Starts delayedTimeMs) (if_pos hover)).mpr ?_
  exact starts_of_call (workers_goTo (workers_goTo honly))

theorem starts_of_read (honly : s.workers = [.read]) : Starts delayedTimeMs s := by
  apply Starts.of_tick (s.executeTime - s.now).toNat
  refine starts_of_due honly ?_
  show s.executeTime ≤ s.now + (s.executeTime - s.now).toNat
  omega

theorem starts_of_sleep {wakeTime : Int} (honly : s.workers = [.sleep wakeTime]) : Starts delayedTimeMs s := by
  apply Starts.of_tick (wakeTime - s.now).toNat
  refine Starts.of_work (.sleep wakeTime) honly ?_
  have hwake : wakeTime ≤ s.now + (wakeTime - s.now).toNat := by omega
  refine (congrArg (Starts delayedTimeMs) (if_pos hwake)).mpr ?_
  exact starts_of_read (workers_goTo honly)

/-- **A thread that has not started the function can go on to start it**, so that what was
requested before is followed by a start. -/
theorem starts_of_before {stage : Stage} (honly : s.workers = [stage]) (hbefore : stage.before = true) :
    Starts delayedTimeMs s := by
  cases stage with
  | create => exact Starts.of_work _ honly (starts_of_read (workers_goTo honly))
  | read => exact starts_of_read honly
  | decide executeTime =>
    apply Starts.of_work _ honly
    unfold State.work
    dsimp only
    split
    · exact starts_of_call (workers_goTo honly)
    · exact starts_of_sleep (workers_goTo honly)
  | sleep wakeTime => exact starts_of_sleep honly
  | call => exact starts_of_call honly
  | running => cases hbefore
  | finish => cases hbefore

/-! ## Runs -/

theorem length_le_one (h : OneWorker s) : s.workers.length ≤ 1 := by
  unfold OneWorker at h
  rw [h]
  split <;> omega

/-- What a run keeps as long as the requests are in time. -/
structure Kept (s : State) : Prop where
  one : OneWorker s
  heeded : s.Heeded

theorem kept_start : Kept {} := ⟨rfl, fun h => by cases h⟩

/-- **At most one thread, in every run, and what it heeds it can go on to start; no request lost, in
every state of a run just when no request comes between the start of the function and the end of its
thread.** -/
theorem requests_heeded_iff (delayedTimeMs : Nat) (acts : List Act) :
    StepRun.Always (step delayedTimeMs) (fun s => s.workers.length ≤ 1) {} acts ∧
      StepRun.Always (step delayedTimeMs)
        (fun s => s.requested = true → s.Heeded → Starts delayedTimeMs s) {} acts ∧
      (StepRun.Always (step delayedTimeMs) State.Sound {} acts ↔ StepRun.Each (step delayedTimeMs) InTime {} acts) := by
  have hany : StepRun.Each (step delayedTimeMs) (fun _ _ => True) ({} : State) acts :=
    StepRun.each_of_forall (fun _ _ => trivial) ({} : State)
  have hone := hany.always (fun s act (h : OneWorker s) _ => h.step act) kept_start.one
  refine ⟨fun pre hpre => length_le_one (hone pre hpre), fun pre hpre hrequested hheeded => ?_, ?_⟩
  · obtain ⟨stage, hstage, hbefore⟩ := hheeded hrequested
    rcases (hone pre hpre).cases with ⟨-, hnil⟩ | ⟨-, only, honly⟩
    · rw [hnil] at hstage
      cases hstage
    · rw [honly, List.mem_singleton] at hstage
      exact starts_of_before honly (hstage ▸ hbefore)
  · exact StepRun.always_iff_each_of_inv (fun s h => ⟨length_le_one h.one, h.heeded⟩)
      (fun s act h hintime => ⟨h.one.step act, h.heeded.step h.one act hintime⟩)
      (fun s act h hlate hsound => not_heeded_of_late h.one hlate hsound.2) kept_start

/-- A request comes while the function of the one before runs. -/
def lostRequest : List Act :=
  [.scheduleDelayedTask, .worker 0, .worker 0, .tick 5000000, .worker 0, .worker 0, .scheduleDelayedTask, .worker 0,
    .worker 0]

/-- In the end there is a request, and no thread for it. -/
theorem request_lost :
    ¬ StepRun.Always (step 5) State.Sound {} lostRequest ∧
      (lostRequest.foldl (step 5) {}).requested = true ∧ (lostRequest.foldl (step 5) {}).workers = [] := by
  have hrequested : (lostRequest.foldl (step 5) {}).requested = true := by decide
  have hnone : (lostRequest.foldl (step 5) {}).workers = [] := by decide
  refine ⟨fun h => ?_, hrequested, hnone⟩
  obtain ⟨stage, hstage, -⟩ := h.last.2 hrequested
  rw [hnone] at hstage
  cases hstage

end BundleFramework.SingleDelayedTask
