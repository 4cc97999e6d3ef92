import BundleFramework.Base.Str
import BundleFramework.Lib.StepRun

/-!
# Named delayed tasks

`SerialQueue` gives delayed tasks to an ffrt queue and keeps, for each task name, the handle of
the task submitted last.  `CancelDelayTask` and `ReScheduleDelayTask` take the task of the kept
handle from the queue; `ScheduleDelayTask` puts a new handle over a kept one.  Nothing clears the
handle of a task that has started.

The ffrt queue is a parameter: its states, its task handles, and which handles it has given out
and which of their tasks still wait for their start.  Each call of the three functions runs under
`mutex_`, and a start in the middle of one is the same as a start before it or after it, so that
a call is one step.

    no task scheduled over a waiting one, no reschedule turned down over one →
      a cancelled task never starts                                   (cancelled_never_starts)
    scheduled over a waiting one → the cancel leaves that one          (waiting_of_scheduled_over)
-/

namespace BundleFramework.SerialTasks

open Std BundleFramework

/-! ## The queue below -/

/-- What is used of an `ffrt::queue`.  `start` is the queue's own doing. -/
structure Ffrt (Q H : Type) where
  submitH : Q → Nat → Option H × Q
  cancel : Q → H → Int × Q
  start : Q → H → Q
  /-- A handle that was given out. -/
  known : Q → H → Prop
  /-- Its task is neither started nor cancelled. -/
  waiting : Q → H → Prop

/-- `submit_h` returns a new handle, `cancel` succeeds on a task that has not started. -/
structure Ffrt.Lawful {Q H : Type} (ffrt : Ffrt Q H) : Prop where
  known_of_waiting : ∀ q h, ffrt.waiting q h → ffrt.known q h
  submit_some : ∀ q delay, ∃ h, (ffrt.submitH q delay).1 = some h ∧ ¬ ffrt.known q h
  known_submit : ∀ q delay h h', (ffrt.submitH q delay).1 = some h →
    (ffrt.known (ffrt.submitH q delay).2 h' ↔ h' = h ∨ ffrt.known q h')
  waiting_submit : ∀ q delay h h', (ffrt.submitH q delay).1 = some h →
    (ffrt.waiting (ffrt.submitH q delay).2 h' ↔ h' = h ∨ ffrt.waiting q h')
  known_cancel : ∀ q h h', ffrt.known (ffrt.cancel q h).2 h' ↔ ffrt.known q h'
  waiting_cancel : ∀ q h h', ffrt.waiting (ffrt.cancel q h).2 h' ↔ ffrt.waiting q h' ∧ h' ≠ h
  known_start : ∀ q h h', ffrt.known (ffrt.start q h) h' ↔ ffrt.known q h'
  waiting_start : ∀ q h h', ffrt.waiting (ffrt.start q h) h' ↔ ffrt.waiting q h' ∧ h' ≠ h

/-! ## `SerialQueue` -/

def CONVERSION_FACTOR : Nat := 1000

/-- `taskMap_` may hold a null handle. -/
structure SerialQueue (Q H : Type) where
  queue : Q
  taskMap : StrMap (Option H) := ∅

variable {Q H : Type} (ffrt : Ffrt Q H)

/-- The guard on top of both schedule functions. -/
def InvalidMs (ms : UInt64) : Prop := ms.toNat > (2 ^ 64 - 1) / CONVERSION_FACTOR

instance (ms : UInt64) : Decidable (InvalidMs ms) := inferInstanceAs (Decidable (_ > _))

/-- Submits a task and keeps its handle; also returns it. -/
def SerialQueue.submit (self : SerialQueue Q H) (taskName : Str) (ms : UInt64) : SerialQueue Q H × Option H :=
  let (handle, queue) := ffrt.submitH self.queue (ms.toNat * CONVERSION_FACTOR)
  match handle with
  | none => ({ self with queue }, none)
  | some handle => ({ queue, taskMap := self.taskMap.insert taskName (some handle) }, some handle)

/-- Cancels the task of the kept handle and forgets the handle. -/
def SerialQueue.cancelOld (self : SerialQueue Q H) (taskName : Str) : SerialQueue Q H :=
  match self.taskMap[taskName]? with
  | none => self
  | some none => { self with taskMap := self.taskMap.erase taskName }
  | some (some handle) =>
    { queue := (ffrt.cancel self.queue handle).2, taskMap := self.taskMap.erase taskName }

def SerialQueue.scheduleDelayTask (self : SerialQueue Q H) (taskName : Str) (ms : UInt64) :
    SerialQueue Q H × Option H :=
  if InvalidMs ms then (self, none) else self.submit ffrt taskName ms

def SerialQueue.cancelDelayTask (self : SerialQueue Q H) (taskName : Str) : SerialQueue Q H :=
  self.cancelOld ffrt taskName

def SerialQueue.reScheduleDelayTask (self : SerialQueue Q H) (taskName : Str) (ms : UInt64) :
    SerialQueue Q H × Option H :=
  if InvalidMs ms then (self, none) else (self.cancelOld ffrt taskName).submit ffrt taskName ms

/-! ## Runs -/

inductive Act (H : Type) where
  | scheduleDelayTask (taskName : Str) (ms : UInt64)
  | reScheduleDelayTask (taskName : Str) (ms : UInt64)
  | cancelDelayTask (taskName : Str)
  /-- The queue starts the task of the handle. -/
  | start (handle : H)

/-- The object, the tasks submitted so far with their names, and those that started. -/
structure State (Q H : Type) where
  serial : SerialQueue Q H
  submitted : List (Str × H) := []
  started : List H := []

/-- Takes over what a schedule function made. -/
def State.after (s : State Q H) (taskName : Str) (result : SerialQueue Q H × Option H) : State Q H :=
  { s with serial := result.1, submitted := (result.2.map fun handle => (taskName, handle)).toList ++ s.submitted }

def step (s : State Q H) : Act H → State Q H
  | .scheduleDelayTask taskName ms => s.after taskName (s.serial.scheduleDelayTask ffrt taskName ms)
  | .reScheduleDelayTask taskName ms => s.after taskName (s.serial.reScheduleDelayTask ffrt taskName ms)
  | .cancelDelayTask taskName => { s with serial := s.serial.cancelDelayTask ffrt taskName }
  | .start handle =>
    { s with
      serial := { s.serial with queue := ffrt.start s.serial.queue handle }
      started := handle :: s.started }

/-- The queue starts waiting tasks only. -/
def Possible (s : State Q H) : Act H → Prop
  | .start handle => ffrt.waiting s.serial.queue handle
  | _ => True

/-- Every task submitted under the name has started or is cancelled. -/
def State.Idle (s : State Q H) (taskName : Str) : Prop :=
  ∀ handle, (taskName, handle) ∈ s.submitted → ¬ ffrt.waiting s.serial.queue handle

/-- No task is scheduled over a waiting one of its name, and no reschedule is turned down while
one waits. -/
def Clear (s : State Q H) : Act H → Prop
  | .scheduleDelayTask taskName ms => ¬ InvalidMs ms → s.Idle ffrt taskName
  | .reScheduleDelayTask taskName ms => InvalidMs ms → s.Idle ffrt taskName
  | _ => True

section
variable [∀ q h, Decidable (ffrt.waiting q h)]

instance (s : State Q H) (taskName : Str) : Decidable (s.Idle ffrt taskName) :=
  decidable_of_iff (∀ entry ∈ s.submitted, entry.1 = taskName → ¬ ffrt.waiting s.serial.queue entry.2)
    ⟨fun h handle hmem => h (taskName, handle) hmem rfl, fun h entry hmem hname => h entry.2 (hname ▸ hmem)⟩

instance (s : State Q H) : ∀ act, Decidable (Possible ffrt s act)
  | .start handle => inferInstanceAs (Decidable (ffrt.waiting s.serial.queue handle))
  | .scheduleDelayTask _ _ | .reScheduleDelayTask _ _ | .cancelDelayTask _ => inferInstanceAs (Decidable True)

instance (s : State Q H) : ∀ act, Decidable (Clear ffrt s act)
  | .scheduleDelayTask taskName ms => inferInstanceAs (Decidable (¬ InvalidMs ms → s.Idle ffrt taskName))
  | .reScheduleDelayTask taskName ms => inferInstanceAs (Decidable (InvalidMs ms → s.Idle ffrt taskName))
  | .cancelDelayTask _ | .start _ => inferInstanceAs (Decidable True)

end

/-- The calls after whose return no earlier task of the name may start. -/
def Act.Cancels (taskName : Str) : Act H → Prop
  | .cancelDelayTask name | .reScheduleDelayTask name _ => name = taskName
  | _ => False

/-- What a run with clear steps keeps: a waiting task is the one whose handle is kept. -/
structure Inv (s : State Q H) : Prop where
  known : ∀ taskName handle, (taskName, handle) ∈ s.submitted → ffrt.known s.serial.queue handle
  kept : ∀ taskName handle, (taskName, handle) ∈ s.submitted → ffrt.waiting s.serial.queue handle →
    s.serial.taskMap[taskName]? = some (some handle)
  started : ∀ handle ∈ s.started, ffrt.known s.serial.queue handle ∧ ¬ ffrt.waiting s.serial.queue handle

/-- A task that will not start: its handle is given out, it does not wait and has not started. -/
structure Down (handle : H) (s : State Q H) : Prop where
  known : ffrt.known s.serial.queue handle
  notWaiting : ¬ ffrt.waiting s.serial.queue handle
  notStarted : handle ∉ s.started

section
variable {ffrt} (hffrt : ffrt.Lawful)
include hffrt

/-! ## What the calls do to the tasks -/

theorem submit_cases (self : SerialQueue Q H) (taskName : Str) (ms : UInt64) :
    ∃ new, ¬ ffrt.known self.queue new ∧ (self.submit ffrt taskName ms).2 = some new ∧
      (self.submit ffrt taskName ms).1.taskMap = self.taskMap.insert taskName (some new) ∧
      ∀ h, (ffrt.known (self.submit ffrt taskName ms).1.queue h ↔ h = new ∨ ffrt.known self.queue h) ∧
        (ffrt.waiting (self.submit ffrt taskName ms).1.queue h ↔ h = new ∨ ffrt.waiting self.queue h) := by
  obtain ⟨new, hnew, hfresh⟩ := hffrt.submit_some self.queue (ms.toNat * CONVERSION_FACTOR)
  have hsubmit : self.submit ffrt taskName ms =
      ({ queue := (ffrt.submitH self.queue (ms.toNat * CONVERSION_FACTOR)).2,
         taskMap := self.taskMap.insert taskName (some new) }, some new) := by
    unfold SerialQueue.submit
    simp only [hnew]
  rw [hsubmit]
  refine ⟨new, hfresh, rfl, rfl, fun h => ⟨?_, ?_⟩⟩
  · exact hffrt.known_submit _ _ _ _ hnew
  · exact hffrt.waiting_submit _ _ _ _ hnew

theorem known_cancelOld (self : SerialQueue Q H) (taskName : Str) (h : H) :
    ffrt.known (self.cancelOld ffrt taskName).queue h ↔ ffrt.known self.queue h := by
  unfold SerialQueue.cancelOld
  split
  · rfl
  · rfl
  · exact hffrt.known_cancel _ _ _

theorem waiting_of_cancelOld {self : SerialQueue Q H} {taskName : Str} {h : H}
    (hwaiting : ffrt.waiting (self.cancelOld ffrt taskName).queue h) : ffrt.waiting self.queue h := by
  unfold SerialQueue.cancelOld at hwaiting
  split at hwaiting
  · exact hwaiting
  · exact hwaiting
  · exact ((hffrt.waiting_cancel _ _ _).mp hwaiting).1

/-- The task of the kept handle no longer waits. -/
theorem not_waiting_cancelOld {self : SerialQueue Q H} {taskName : Str} {h : H}
    (hkept : self.taskMap[taskName]? = some (some h)) : ¬ ffrt.waiting (self.cancelOld ffrt taskName).queue h := by
  intro hwaiting
  unfold SerialQueue.cancelOld at hwaiting
  rw [hkept] at hwaiting
  exact ((hffrt.waiting_cancel _ _ _).mp hwaiting).2 rfl

omit hffrt in
theorem taskMap_cancelOld (self : SerialQueue Q H) {taskName name : Str} (hne : name ≠ taskName) :
    (self.cancelOld ffrt taskName).taskMap[name]? = self.taskMap[name]? := by
  unfold SerialQueue.cancelOld
  split
  · rfl
  · rw [MapLoop.getElem?_erase_eq, if_neg hne]
  · rw [MapLoop.getElem?_erase_eq, if_neg hne]

/-! ## The invariant -/

/-- Whatever is submitted under the name of a kept handle is down after the cancel. -/
theorem Inv.idle_cancelOld {s : State Q H} (h : Inv ffrt s) (taskName : Str) :
    State.Idle ffrt { s with serial := s.serial.cancelOld ffrt taskName } taskName := by
  intro handle hsubmitted hwaiting
  have hkept := h.kept taskName handle hsubmitted (waiting_of_cancelOld hffrt hwaiting)
  exact not_waiting_cancelOld hffrt hkept hwaiting

theorem Inv.cancelOld {s : State Q H} (h : Inv ffrt s) (taskName : Str) :
    Inv ffrt { s with serial := s.serial.cancelOld ffrt taskName } where
  known name handle hsubmitted := (known_cancelOld hffrt _ _ _).mpr (h.known name handle hsubmitted)
  kept name handle hsubmitted hwaiting := by
    by_cases hname : name = taskName
    · subst hname
      exact absurd hwaiting (h.idle_cancelOld hffrt name handle hsubmitted)
    · show (s.serial.cancelOld ffrt taskName).taskMap[name]? = _
      rw [taskMap_cancelOld _ hname]
      exact h.kept name handle hsubmitted (waiting_of_cancelOld hffrt hwaiting)
  started handle hstarted := by
    obtain ⟨hknown, hnot⟩ := h.started handle hstarted
    exact ⟨(known_cancelOld hffrt _ _ _).mpr hknown, fun hwaiting => hnot (waiting_of_cancelOld hffrt hwaiting)⟩

/-- A submit under an idle name. -/
theorem Inv.submit {s : State Q H} (h : Inv ffrt s) {taskName : Str} (hidle : s.Idle ffrt taskName) (ms : UInt64) :
    Inv ffrt (s.after taskName (s.serial.submit ffrt taskName ms)) := by
  obtain ⟨new, hfresh, hresult, hmap, hqueue⟩ := submit_cases hffrt s.serial taskName ms
  have hsubmitted : (s.after taskName (s.serial.submit ffrt taskName ms)).submitted =
      (taskName, new) :: s.submitted := by
    unfold State.after
    rw [hresult]
    rfl
  constructor
  · intro name handle hmem
    rw [hsubmitted, List.mem_cons] at hmem
    refine ((hqueue handle).1).mpr ?_
    rcases hmem with heq | hmem
    · exact .inl (Prod.mk.inj heq).2
    · exact .inr (h.known name handle hmem)
  · intro name handle hmem hwaiting
    show (s.serial.submit ffrt taskName ms).1.taskMap[name]? = _
    rw [hmap, MapLoop.getElem?_insert_eq]
    rw [hsubmitted, List.mem_cons] at hmem
    rcases hmem with heq | hmem
    · obtain ⟨rfl, rfl⟩ := Prod.mk.inj heq
      rw [if_pos rfl]
    · have hold : ffrt.waiting s.serial.queue handle := by
        rcases (hqueue handle).2.mp hwaiting with rfl | hold
        · exact absurd (h.known name _ hmem) hfresh
        · exact hold
      by_cases hname : name = taskName
      · subst hname
        exact absurd hold (hidle handle hmem)
      · rw [if_neg hname]
        exact h.kept name handle hmem hold
  · intro handle hstarted
    obtain ⟨hknown, hnot⟩ := h.started handle hstarted
    refine ⟨(hqueue handle).1.mpr (.inr hknown), fun hwaiting => ?_⟩
    rcases (hqueue handle).2.mp hwaiting with rfl | hwaiting
    · exact hfresh hknown
    · exact hnot hwaiting

/-- **Step lemma**: possible, clear steps keep the invariant. -/
theorem Inv.step {s : State Q H} (h : Inv ffrt s) {act : Act H} (hact : Possible ffrt s act)
    (hclear : Clear ffrt s act) : Inv ffrt (step ffrt s act) := by
  cases act with
  | scheduleDelayTask taskName ms =>
    show Inv ffrt (s.after taskName (s.serial.scheduleDelayTask ffrt taskName ms))
    unfold SerialQueue.scheduleDelayTask
    by_cases hms : InvalidMs ms
    · rw [if_pos hms]
      exact h
    · rw [if_neg hms]
      exact h.submit hffrt (hclear hms) ms
  | reScheduleDelayTask taskName ms =>
    show Inv ffrt (s.after taskName (s.serial.reScheduleDelayTask ffrt taskName ms))
    unfold SerialQueue.reScheduleDelayTask
    by_cases hms : InvalidMs ms
    · rw [if_pos hms]
      exact h
    · rw [if_neg hms]
      exact (h.cancelOld hffrt taskName).submit hffrt (h.idle_cancelOld hffrt taskName) ms
  | cancelDelayTask taskName => exact h.cancelOld hffrt taskName
  | start handle =>
    constructor
    · intro name handle' hmem
      exact (hffrt.known_start _ _ _).mpr (h.known name handle' hmem)
    · intro name handle' hmem hwaiting
      exact h.kept name handle' hmem ((hffrt.waiting_start _ _ _).mp hwaiting).1
    · intro handle' hstarted
      rcases List.mem_cons.mp hstarted with rfl | hstarted
      · refine ⟨(hffrt.known_start _ _ _).mpr (hffrt.known_of_waiting _ _ hact), fun hwaiting => ?_⟩
        exact ((hffrt.waiting_start _ _ _).mp hwaiting).2 rfl
      · obtain ⟨hknown, hnot⟩ := h.started handle' hstarted
        refine ⟨(hffrt.known_start _ _ _).mpr hknown, fun hwaiting => ?_⟩
        exact hnot ((hffrt.waiting_start _ _ _).mp hwaiting).1

/-! ## Down tasks stay down -/

theorem Down.cancelOld {s : State Q H} {handle : H} (h : Down ffrt handle s) (taskName : Str) :
    Down ffrt handle { s with serial := s.serial.cancelOld ffrt taskName } where
  known := (known_cancelOld hffrt _ _ _).mpr h.known
  notWaiting hwaiting := h.notWaiting (waiting_of_cancelOld hffrt hwaiting)
  notStarted := h.notStarted

theorem Down.submit {s : State Q H} {handle : H} (h : Down ffrt handle s) (taskName : Str) (ms : UInt64) :
    Down ffrt handle (s.after taskName (s.serial.submit ffrt taskName ms)) := by
  obtain ⟨new, hfresh, -, -, hqueue⟩ := submit_cases hffrt s.serial taskName ms
  refine ⟨(hqueue handle).1.mpr (.inr h.known), fun hwaiting => ?_, h.notStarted⟩
  rcases (hqueue handle).2.mp hwaiting with rfl | hwaiting
  · exact hfresh h.known
  · exact h.notWaiting hwaiting

theorem Down.step {s : State Q H} {handle : H} (h : Down ffrt handle s) {act : Act H} (hact : Possible ffrt s act) :
    Down ffrt handle (step ffrt s act) := by
  cases act with
  | scheduleDelayTask taskName ms =>
    show Down ffrt handle (s.after taskName (s.serial.scheduleDelayTask ffrt taskName ms))
    unfold SerialQueue.scheduleDelayTask
    split
    · exact h
    · exact h.submit hffrt taskName ms
  | reScheduleDelayTask taskName ms =>
    show Down ffrt handle (s.after taskName (s.serial.reScheduleDelayTask ffrt taskName ms))
    unfold SerialQueue.reScheduleDelayTask
    split
    · exact h
    · exact (h.cancelOld hffrt taskName).submit hffrt taskName ms
  | cancelDelayTask taskName => exact h.cancelOld hffrt taskName
  | start handle' =>
    have hne : handle ≠ handle' := by
      rintro rfl
      exact h.notWaiting hact
    refine ⟨(hffrt.known_start _ _ _).mpr h.known, fun hwaiting => ?_, ?_⟩
    · exact h.notWaiting ((hffrt.waiting_start _ _ _).mp hwaiting).1
    · show handle ∉ handle' :: s.started
      rw [List.mem_cons, not_or]
      exact ⟨hne, h.notStarted⟩

omit hffrt in
/-- What an idle name has submitted and not started is down. -/
theorem Inv.down {s : State Q H} (h : Inv ffrt s) {taskName : Str} (hidle : s.Idle ffrt taskName) {handle : H}
    (hsubmitted : (taskName, handle) ∈ s.submitted) (hstarted : handle ∉ s.started) : Down ffrt handle s :=
  ⟨h.known _ _ hsubmitted, hidle handle hsubmitted, hstarted⟩

/-- A clear cancel or reschedule takes down every earlier task of the name. -/
theorem Inv.down_of_cancels {s : State Q H} (h : Inv ffrt s) {act : Act H} (hclear : Clear ffrt s act)
    {taskName : Str} (hcancels : act.Cancels taskName) {handle : H}
    (hsubmitted : (taskName, handle) ∈ s.submitted) (hstarted : handle ∉ s.started) :
    Down ffrt handle (SerialTasks.step ffrt s act) := by
  cases act with
  | scheduleDelayTask name ms => cases hcancels
  | reScheduleDelayTask name ms =>
    obtain rfl : name = taskName := hcancels
    show Down ffrt handle (s.after name (s.serial.reScheduleDelayTask ffrt name ms))
    unfold SerialQueue.reScheduleDelayTask
    by_cases hms : InvalidMs ms
    · rw [if_pos hms]
      exact h.down (hclear hms) hsubmitted hstarted
    · rw [if_neg hms]
      have hdown := (h.cancelOld hffrt name).down (h.idle_cancelOld hffrt name) hsubmitted hstarted
      exact hdown.submit hffrt name ms
  | cancelDelayTask name =>
    obtain rfl : name = taskName := hcancels
    exact (h.cancelOld hffrt name).down (h.idle_cancelOld hffrt name) hsubmitted hstarted
  | start handle' => cases hcancels

/-! ## Steps that are not clear -/

/-- **A task scheduled over a waiting one leaves it out of reach**: the next cancel of the name
takes the new one. -/
theorem waiting_of_scheduled_over {s : State Q H} {handle : H} (hwaiting : ffrt.waiting s.serial.queue handle)
    (taskName : Str) {ms : UInt64} (hms : ¬ InvalidMs ms) :
    ffrt.waiting (step ffrt (step ffrt s (.scheduleDelayTask taskName ms)) (.cancelDelayTask taskName)).serial.queue
      handle := by
  obtain ⟨new, hfresh, -, hmap, hqueue⟩ := submit_cases hffrt s.serial taskName ms
  have hne : handle ≠ new := by
    rintro rfl
    exact hfresh (hffrt.known_of_waiting _ _ hwaiting)
  have hschedule : s.serial.scheduleDelayTask ffrt taskName ms = s.serial.submit ffrt taskName ms := if_neg hms
  show ffrt.waiting ((s.serial.scheduleDelayTask ffrt taskName ms).1.cancelOld ffrt taskName).queue handle
  have hkept : (s.serial.submit ffrt taskName ms).1.taskMap[taskName]? = some (some new) := by
    rw [hmap, MapLoop.getElem?_insert_eq, if_pos rfl]
  rw [hschedule]
  unfold SerialQueue.cancelOld
  rw [hkept]
  exact (hffrt.waiting_cancel _ _ _).mpr ⟨(hqueue handle).2.mpr (.inr hwaiting), hne⟩

omit hffrt in
theorem step_turned_down (s : State Q H) (taskName : Str) {ms : UInt64} (hms : InvalidMs ms) :
    step ffrt s (.reScheduleDelayTask taskName ms) = s := by
  show s.after taskName (s.serial.reScheduleDelayTask ffrt taskName ms) = s
  unfold SerialQueue.reScheduleDelayTask
  rw [if_pos hms]
  rfl

/-- **The condition is exact**: after a step that is not clear the run can go on so that a task
starts that was submitted before a cancel or a reschedule of its name and had not started. -/
theorem starts_of_not_clear {s : State Q H} (h : Inv ffrt s) {act : Act H} (hnot : ¬ Clear ffrt s act) :
    ∃ (before later : List (Act H)) (cancel : Act H) (taskName : Str) (handle : H),
      (before ++ cancel :: later).head? = some act ∧ cancel.Cancels taskName ∧
      StepRun.Each (step ffrt) (Possible ffrt) s (before ++ cancel :: later) ∧
      (taskName, handle) ∈ (before.foldl (step ffrt) s).submitted ∧ handle ∉ (before.foldl (step ffrt) s).started ∧
      handle ∈ ((before ++ cancel :: later).foldl (step ffrt) s).started := by
  cases act with
  | scheduleDelayTask taskName ms =>
    have hms : ¬ InvalidMs ms := fun hms => hnot fun hok => absurd hms hok
    have hbusy : ¬ s.Idle ffrt taskName := fun hidle => hnot fun _ => hidle
    unfold State.Idle at hbusy
    push Not at hbusy
    obtain ⟨handle, hsubmitted, hwaiting⟩ := hbusy
    have hstill := waiting_of_scheduled_over hffrt hwaiting taskName hms
    refine ⟨[.scheduleDelayTask taskName ms], [.start handle], .cancelDelayTask taskName, taskName, handle, rfl, rfl,
      ⟨trivial, trivial, hstill, trivial⟩, ?_, ?_, List.mem_cons_self⟩
    · exact List.mem_append_right _ hsubmitted
    · exact fun hstarted => (h.started handle hstarted).2 hwaiting
  | reScheduleDelayTask taskName ms =>
    have hms : InvalidMs ms := by
      by_contra hms
      exact hnot fun hinvalid => absurd hinvalid hms
    have hbusy : ¬ s.Idle ffrt taskName := fun hidle => hnot fun _ => hidle
    unfold State.Idle at hbusy
    push Not at hbusy
    obtain ⟨handle, hsubmitted, hwaiting⟩ := hbusy
    have hstill : ffrt.waiting (step ffrt s (.reScheduleDelayTask taskName ms)).serial.queue handle := by
      rw [step_turned_down s taskName hms]
      exact hwaiting
    refine ⟨[], [.start handle], .reScheduleDelayTask taskName ms, taskName, handle, rfl, rfl,
      ⟨trivial, hstill, trivial⟩, hsubmitted, ?_, List.mem_cons_self⟩
    exact fun hstarted => (h.started handle hstarted).2 hwaiting
  | cancelDelayTask taskName => exact absurd trivial hnot
  | start handle => exact absurd trivial hnot

end

/-- A run takes its start from a queue that has given out no handle. -/
def fresh (queue : Q) : State Q H := { serial := { queue } }

theorem inv_fresh (queue : Q) : Inv ffrt (fresh queue) where
  known name handle hmem := by cases hmem
  kept name handle hmem := by cases hmem
  started handle hmem := by cases hmem

/-- **A cancelled task never starts**, in every run whose steps are all clear: what was submitted
under a name before a cancel or a reschedule, and has not started, does not start later. -/
theorem cancelled_never_starts {ffrt : Ffrt Q H} (hffrt : ffrt.Lawful) (queue : Q) {before later : List (Act H)} {act : Act H}
    (hrun : StepRun.Each (step ffrt) (fun s act => Possible ffrt s act ∧ Clear ffrt s act) (fresh queue)
      (before ++ act :: later)) {taskName : Str} (hcancels : act.Cancels taskName) {handle : H}
    (hsubmitted : (taskName, handle) ∈ (before.foldl (step ffrt) (fresh queue)).submitted)
    (hstarted : handle ∉ (before.foldl (step ffrt) (fresh queue)).started) :
    handle ∉ ((before ++ act :: later).foldl (step ffrt) (fresh queue)).started := by
  obtain ⟨hbefore, hact, hlater⟩ := StepRun.each_append.mp hrun
  have hinv : Inv ffrt (before.foldl (step ffrt) (fresh queue)) :=
    (hbefore.always (fun s act h hok => h.step hffrt hok.1 hok.2) (inv_fresh ffrt queue)).last
  have hdown := hinv.down_of_cancels hffrt hact.2 hcancels hsubmitted hstarted
  have hend := (hlater.always (fun s act h hok => h.step hffrt hok.1) hdown).last
  rw [List.foldl_append, List.foldl_cons]
  exact hend.notStarted

/-- The queue as it is assumed: handles are counted, `cancel` and a start take a task out. -/
structure CountingQueue where
  next : Nat := 0
  tasks : List Nat := []
  bound : ∀ task ∈ tasks, task < next := by simp

def CountingQueue.without (q : CountingQueue) (task : Nat) : CountingQueue where
  next := q.next
  tasks := q.tasks.filter (· ≠ task)
  bound other hother := q.bound other (List.mem_of_mem_filter hother)

def CountingQueue.push (q : CountingQueue) : CountingQueue where
  next := q.next + 1
  tasks := q.next :: q.tasks
  bound task htask := by
    rcases List.mem_cons.mp htask with rfl | htask
    · omega
    · have := q.bound task htask
      omega

def counting : Ffrt CountingQueue Nat where
  submitH q _ := (some q.next, q.push)
  cancel q task := (if task ∈ q.tasks then 0 else 1, q.without task)
  start q task := q.without task
  known q task := task < q.next
  waiting q task := task ∈ q.tasks

theorem mem_without (q : CountingQueue) (task other : Nat) :
    other ∈ (q.without task).tasks ↔ other ∈ q.tasks ∧ other ≠ task := by
  unfold CountingQueue.without
  rw [List.mem_filter, decide_eq_true_eq]

theorem counting_lawful : counting.Lawful where
  known_of_waiting q task := q.bound task
  submit_some q _ := ⟨q.next, rfl, lt_irrefl q.next⟩
  known_submit q _ new task hnew := by
    obtain rfl := Option.some.inj hnew
    show task < q.next + 1 ↔ task = q.next ∨ task < q.next
    omega
  waiting_submit q _ new task hnew := by
    obtain rfl := Option.some.inj hnew
    exact List.mem_cons
  known_cancel _ _ _ := Iff.rfl
  waiting_cancel q task other := mem_without q task other
  known_start _ _ _ := Iff.rfl
  waiting_start q task other := mem_without q task other

instance (q : CountingQueue) (task : Nat) : Decidable (counting.waiting q task) :=
  inferInstanceAs (Decidable (task ∈ q.tasks))

def noTasks : State CountingQueue Nat := fresh {}

def cancelA : Act Nat := .cancelDelayTask ['a']

def twoNames : List (Act Nat) := [.scheduleDelayTask ['a'] 10, .scheduleDelayTask ['b'] 10]

def nameAgain : List (Act Nat) := [.scheduleDelayTask ['a'] 10, .start 2, .start 1]

/-- The task 0 is cancelled; a new task of its name starts, and that of the other name. -/
theorem cancelled_never_starts_counted :
    0 ∉ ((twoNames ++ cancelA :: nameAgain).foldl (step counting) noTasks).started :=
  cancelled_never_starts counting_lawful {} (by decide +kernel) (show cancelA.Cancels ['a'] from rfl)
    (by decide +kernel) (by decide +kernel)

/-- A second task is scheduled over a waiting one. -/
def overwritten : List (Act Nat) := [.scheduleDelayTask ['a'] 10, .scheduleDelayTask ['a'] 20]

/-- The cancel reaches the second only, and the first starts. -/
theorem overwritten_task_starts :
    counting.Lawful ∧ cancelA.Cancels ['a'] ∧
    StepRun.Each (step counting) (Possible counting) noTasks (overwritten ++ cancelA :: [.start 0]) ∧
    (['a'], 0) ∈ (overwritten.foldl (step counting) noTasks).submitted ∧
    0 ∉ (overwritten.foldl (step counting) noTasks).started ∧
    0 ∈ ((overwritten ++ cancelA :: [.start 0]).foldl (step counting) noTasks).started :=
  ⟨counting_lawful, rfl, by decide +kernel, by decide +kernel, by decide +kernel, by decide +kernel⟩

end BundleFramework.SerialTasks
