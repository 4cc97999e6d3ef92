import BundleFramework.Lib.ThreadPool
import BundleFramework.Lib.StepRun

/-!
# Installer tasks and the mode switch

`BundleInstallerManager` hands tasks to a pool that it opens with the first one and closes, from a
thread that looks every 60 s, when no task is left.  On a dual-mode device a task takes the shared
side of the switch mutex or is turned down, at the entry or when a worker comes to it; it never
waits.  A switch takes the other side or is turned down.

The pool itself belongs to the utilities, so it is a parameter.  What is relied on (`Lawful`): `AddTask`
does not wait at an empty queue and puts the task in, a worker takes a task out when there is one and
ends when it is told to, `Stop` comes back when the workers have ended.
-/

namespace BundleFramework.InstallerTasks

open ThreadPool

/-! ## Algorithm -/

def MAX_TASK_NUMBER : Nat := 10

/-- A task, and whether someone is told when it is turned down. -/
structure Task where
  id : Nat
  onReject : Bool
deriving DecidableEq

inductive Outcome where
  | done
  /-- `ERR_APPEXECFWK_DUAL_MODE_SWITCH_BUSY`. -/
  | busy
  /-- Turned down with no one to tell. -/
  | dropped
deriving DecidableEq

/-- `ThreadPool` of the utilities: what its calls do to the tasks that wait in it. -/
structure UtilsPool where
  /-- `AddTask` has to wait, at this most number of tasks. -/
  overloaded : Nat → List Task → Bool
  addTask : List Task → Task → List Task
  /-- What a free worker gets; it waits where there is none. -/
  scheduleTask : List Task → Option (Task × List Task)
  /-- A free worker ends, `Stop` having been called or not. -/
  ends : Bool → List Task → Bool
  /-- `Stop` comes back, while this many workers have not ended. -/
  joined : Nat → Bool

structure UtilsPool.Lawful (pool : UtilsPool) : Prop where
  room : pool.overloaded MAX_TASK_NUMBER [] = false
  added : ∀ queue task, (pool.addTask queue task).Perm (task :: queue)
  waits : ∀ {queue}, pool.scheduleTask queue = none → queue = []
  takes : ∀ {queue task rest}, pool.scheduleTask queue = some (task, rest) → queue.Perm (task :: rest)
  works : ∀ queue, pool.ends false queue = false
  stops : pool.ends true [] = true
  joined : ∀ n, pool.joined n = true ↔ n = 0

/-- First in, first out. -/
def utilsPool : UtilsPool where
  overloaded maxTaskNum queue := decide (0 < maxTaskNum) && decide (maxTaskNum ≤ queue.length)
  addTask queue task := queue ++ [task]
  scheduleTask
    | [] => none
    | task :: queue => some (task, queue)
  ends stopping _ := stopping
  joined n := n == 0

theorem utilsPool_lawful : utilsPool.Lawful where
  room := rfl
  added queue task := List.perm_append_singleton task queue
  waits {queue} h := by
    cases queue with
    | nil => rfl
    | cons task queue => cases h
  takes {queue task rest} h := by
    cases queue with
    | nil => cases h
    | cons first queue =>
      obtain ⟨rfl, rfl⟩ : first = task ∧ queue = rest := by simpa [utilsPool] using h
      exact .refl _
  works _ := rfl
  stops := rfl
  joined n := by simp [utilsPool]

structure Config where
  isDualModeDevice : Bool
  threadNum : Nat
  pool : UtilsPool

structure State where
  /-- `mutex_`. -/
  mutexHeld : Bool := false
  /-- `threadPool_` is there, with its queue, its workers, and whether it is being stopped. -/
  threadPool : Bool := false
  queue : List Task := []
  workers : Nat := 0
  stopping : Bool := false
  taskCounter : Int := 0
  /-- `dualModeSwitchMutex_`: its exclusive side, and how many hold the shared one. -/
  switchHeld : Bool := false
  holders : Nat := 0
  outcomes : List (Nat × Outcome) := []

inductive Thread where
  /-- `CreateXxxTask`: before the probe, with the probe's lock, behind it. -/
  | request (task : Task)
  | probing (task : Task)
  | probed (task : Task)
  /-- In `AddTask`, with the mutex. -/
  | adding (task : Task)
  | worker
  | taken (task : Task)
  | rejected
  | running (task : Task)
  /-- The body has answered; then its count is taken back, then the lock is released. -/
  | answered
  | leaving
  /-- `DelayStopThreadPool` between two looks, and in `Stop`. -/
  | delay
  | stoppingPool
  /-- An entry that works on the caller's thread. -/
  | direct
  | inDirect
  | switch
  | switching
  | ended
deriving DecidableEq

/-- The shared side is taken on dual-mode devices only. -/
def State.acquire (c : Config) (s : State) : State := { s with holders := s.holders + c.isDualModeDevice.toNat }

def State.release (c : Config) (s : State) : State := { s with holders := s.holders - c.isDualModeDevice.toNat }

/-- `TryLockForBundleOperation` is turned down. -/
def State.busy (c : Config) (s : State) : Bool := c.isDualModeDevice && s.switchHeld

def State.reject (s : State) (task : Task) : State :=
  { s with outcomes := (task.id, if task.onReject then .busy else .dropped) :: s.outcomes }

/-- One atomic step of a thread.  A thread that has to wait stays as it is. -/
def move (c : Config) (_ : Unit) (s : State) : Thread → State × Thread × List Thread
  | .request task =>
    if s.busy c then (s.reject task, .ended, [])
    else (s.acquire c, .probing task, [])
  | .probing task => (s.release c, .probed task, [])
  | .probed task =>
    if s.mutexHeld then (s, .probed task, [])
    else if s.threadPool then ({ s with mutexHeld := true, taskCounter := s.taskCounter + 1 }, .adding task, [])
    else
      ({ s with mutexHeld := true, threadPool := true, workers := c.threadNum, taskCounter := s.taskCounter + 1 },
        .adding task, .delay :: List.replicate c.threadNum .worker)
  | .adding task =>
    if c.pool.overloaded MAX_TASK_NUMBER s.queue then (s, .adding task, [])
    else ({ s with mutexHeld := false, queue := c.pool.addTask s.queue task }, .ended, [])
  | .worker =>
    if c.pool.ends s.stopping s.queue then ({ s with workers := s.workers - 1 }, .ended, [])
    else
      match c.pool.scheduleTask s.queue with
      | none => (s, .worker, [])
      | some (task, queue) => ({ s with queue := queue }, .taken task, [])
  | .taken task =>
    if s.busy c then (s.reject task, .rejected, [])
    else (s.acquire c, .running task, [])
  | .rejected => ({ s with taskCounter := s.taskCounter - 1 }, .worker, [])
  | .running task => ({ s with outcomes := (task.id, .done) :: s.outcomes }, .answered, [])
  | .answered => ({ s with taskCounter := s.taskCounter - 1 }, .leaving, [])
  | .leaving => (s.release c, .worker, [])
  | .delay =>
    if s.mutexHeld then (s, .delay, [])
    else if !s.threadPool then (s, .ended, [])
    else if !s.queue.isEmpty || s.taskCounter ≠ 0 then (s, .delay, [])
    else ({ s with mutexHeld := true, stopping := true }, .stoppingPool, [])
  | .stoppingPool =>
    if c.pool.joined s.workers then ({ s with mutexHeld := false, stopping := false, threadPool := false }, .ended, [])
    else (s, .stoppingPool, [])
  | .direct => if s.busy c then (s, .ended, []) else (s.acquire c, .inDirect, [])
  | .inDirect => (s.release c, .ended, [])
  | .switch =>
    if !c.isDualModeDevice || s.switchHeld || s.holders ≠ 0 then (s, .ended, [])
    else ({ s with switchHeld := true }, .switching, [])
  | .switching => ({ s with switchHeld := false }, .ended, [])
  | .ended => (s, .ended, [])

/-- What happens: someone calls, or a thread goes on. -/
inductive Op where
  | create (task : Task)
  /-- A task without the entry, such as those of the boot scan. -/
  | add (task : Task)
  | direct
  | switch
  | goOn (i : Nat)

abbrev Manager := Pool State Thread

def step (c : Config) (p : Manager) : Op → Manager
  | .create task => p.start (.request task)
  | .add task => p.start (.probed task)
  | .direct => p.start .direct
  | .switch => p.start .switch
  | .goOn i => p.run (move c) i ()

def idle : Manager := ⟨{}, []⟩

/-! ## What threads carry -/

def inMutex : Thread → Nat
  | .adding _ | .stoppingPool => 1
  | _ => 0

/-- A task that `g_taskCounter` counts and that is not in the queue. -/
def counted : Thread → Nat
  | .adding _ | .taken _ | .rejected | .running _ | .answered => 1
  | _ => 0

def closing : Thread → Nat
  | .delay | .stoppingPool => 1
  | _ => 0

def stops : Thread → Nat
  | .stoppingPool => 1
  | _ => 0

def working : Thread → Nat
  | .worker | .taken _ | .rejected | .running _ | .answered | .leaving => 1
  | _ => 0

/-- Who holds the shared side, where there is one. -/
def sharing (c : Config) : Thread → Nat
  | .probing _ | .running _ | .answered | .leaving | .inDirect => c.isDualModeDevice.toNat
  | _ => 0

def switches : Thread → Nat
  | .switching => 1
  | _ => 0

/-- A task of this id that has no outcome yet. -/
def pending (id : Nat) : Thread → Nat
  | .request task | .probing task | .probed task | .adding task | .taken task | .running task =>
    if task.id = id then 1 else 0
  | _ => 0

/-- What the state has to show for what the threads carry. -/
structure Books (c : Config) (s : State) (load : (Thread → Nat) → Nat) : Prop where
  mutex : load inMutex = s.mutexHeld.toNat
  closing : load closing = s.threadPool.toNat
  stops : load stops = s.stopping.toNat
  workers : load working = s.workers
  sharing : load (sharing c) = s.holders
  switches : load switches = s.switchHeld.toNat
  counter : s.taskCounter = s.queue.length + load counted

/-- What the flags mean, `n` tasks being counted and out of the queue. -/
structure Flags (c : Config) (s : State) (n : Nat) : Prop where
  held : s.mutexHeld = true → s.threadPool = true
  closed : s.threadPool = false → s.queue = [] ∧ s.workers = 0
  opened : s.threadPool = true → s.stopping = false → s.workers = c.threadNum
  stopped : s.stopping = true → s.mutexHeld = true ∧ s.queue = [] ∧ n = 0
  exclusive : s.switchHeld = true → c.isDualModeDevice = true ∧ s.holders = 0

/-- A move that changes the state as much as it changes what the threads carry. -/
structure Balanced (c : Config) (s : State) (t : Thread) (r : State × Thread × List Thread) : Prop where
  mutex : r.1.mutexHeld.toNat + inMutex t = s.mutexHeld.toNat + inMutex r.2.1 + weight inMutex r.2.2 := by rfl
  closing : r.1.threadPool.toNat + closing t = s.threadPool.toNat + closing r.2.1 + weight closing r.2.2 := by rfl
  stops : r.1.stopping.toNat + stops t = s.stopping.toNat + stops r.2.1 + weight stops r.2.2 := by rfl
  workers : r.1.workers + working t = s.workers + working r.2.1 + weight working r.2.2 := by rfl
  sharing : r.1.holders + sharing c t = s.holders + sharing c r.2.1 + weight (sharing c) r.2.2 := by rfl
  switches : r.1.switchHeld.toNat + switches t = s.switchHeld.toNat + switches r.2.1 + weight switches r.2.2 := by rfl
  counter : r.1.taskCounter + s.queue.length + counted t =
    s.taskCounter + r.1.queue.length + counted r.2.1 + weight counted r.2.2 := by
      simp [counted, State.acquire, State.release, State.reject] <;> omega

theorem flag_of_pos {b : Bool} (h : 1 ≤ b.toNat) : b = true := by
  cases b with
  | true => rfl
  | false => exact absurd h (by decide)

theorem toNat_of_not {b : Bool} (h : ¬ b = true) : b.toNat = 0 := by
  rw [Bool.not_eq_true] at h
  rw [h]
  rfl

theorem weight_replicate_worker (w : Thread → Nat) (n : Nat) : weight w (List.replicate n .worker) = n * w .worker := by
  unfold weight
  rw [List.map_replicate, List.sum_replicate, smul_eq_mul]

/-- **Every move is balanced**, because the thread that makes it shows what the flags are. -/
theorem move_balanced {c : Config} (hpool : c.pool.Lawful) {s : State} {load : (Thread → Nat) → Nat}
    (h : Books c s load) (hflags : Flags c s (load counted)) {t : Thread} (hle : ∀ w, w t ≤ load w) : Balanced c s t (move c () s t) := by
  have hmutex : 1 ≤ inMutex t → s.mutexHeld = true := fun ht => flag_of_pos (by rw [← h.mutex]; exact ht.trans (hle _))
  have hclosing : 1 ≤ closing t → s.threadPool = true :=
    fun ht => flag_of_pos (by rw [← h.closing]; exact ht.trans (hle _))
  have hstops : 1 ≤ stops t → s.stopping = true := fun ht => flag_of_pos (by rw [← h.stops]; exact ht.trans (hle _))
  have hswitches : 1 ≤ switches t → s.switchHeld = true :=
    fun ht => flag_of_pos (by rw [← h.switches]; exact ht.trans (hle _))
  have hshare : sharing c t ≤ s.holders := h.sharing ▸ hle _
  have hwork : working t ≤ s.workers := h.workers ▸ hle _
  cases t with
  | request task =>
    rw [move]
    split
    · exact {}
    · exact {}
  | probing task =>
    rw [move]
    exact { sharing := Nat.sub_add_cancel hshare }
  | probed task =>
    rw [move]
    split
    · exact {}
    next hfree =>
    split
    · exact { mutex := by rw [toNat_of_not hfree]; rfl }
    next hnone =>
    obtain ⟨-, hworkers⟩ := hflags.closed (by simpa using hnone)
    have hnew : ∀ w, weight w (Thread.delay :: List.replicate c.threadNum .worker) = w .delay + c.threadNum * w .worker := by
      intro w
      rw [weight_cons, weight_replicate_worker]
    refine { mutex := ?_, closing := ?_, stops := ?_, workers := ?_, sharing := ?_, switches := ?_, counter := ?_ }
    · rw [hnew, toNat_of_not hfree]; rfl
    · rw [hnew, toNat_of_not hnone]; rfl
    · rw [hnew]; rfl
    · rw [hnew, hworkers]; simp [working]
    · rw [hnew]; rfl
    · rw [hnew]; rfl
    · rw [hnew]; simp [counted]; omega
  | adding task =>
    rw [move]
    split
    · exact {}
    · have hlen := (hpool.added s.queue task).length_eq
      exact {
        mutex := by rw [hmutex (le_refl _)]; rfl
        counter := by rw [hlen]; simp [counted]; omega }
  | worker =>
    rw [move]
    split
    · exact { workers := Nat.sub_add_cancel hwork }
    split
    · exact {}
    · next task queue htake =>
      have hlen := (hpool.takes htake).length_eq
      exact { counter := by rw [hlen]; simp [counted]; omega }
  | taken task =>
    rw [move]
    split
    · exact {}
    · exact {}
  | rejected =>
    rw [move]
    exact {}
  | running task =>
    rw [move]
    exact {}
  | answered =>
    rw [move]
    exact {}
  | leaving =>
    rw [move]
    exact { sharing := Nat.sub_add_cancel hshare }
  | delay =>
    rw [move]
    split
    · exact {}
    next hfree =>
    split
    · next hnone => exact absurd (hclosing (le_refl _)) (by simpa using hnone)
    split
    · exact {}
    · -- nobody stops the pool while the mutex is free
      have hstop : ¬ s.stopping = true := fun hs => hfree (hflags.stopped hs).1
      exact { mutex := by rw [toNat_of_not hfree]; rfl, stops := by rw [toNat_of_not hstop]; rfl }
  | stoppingPool =>
    rw [move]
    split
    · exact { mutex := by rw [hmutex (le_refl _)]; rfl, closing := by rw [hclosing (le_refl _)]; rfl,
              stops := by rw [hstops (le_refl _)]; rfl }
    · exact {}
  | direct =>
    rw [move]
    split
    · exact {}
    · exact {}
  | inDirect =>
    rw [move]
    exact { sharing := Nat.sub_add_cancel hshare }
  | switch =>
    rw [move]
    split
    · exact {}
    · next hfree =>
      simp only [Bool.or_eq_true, not_or] at hfree
      exact { switches := by rw [toNat_of_not hfree.1.2]; rfl }
  | switching =>
    rw [move]
    exact { switches := by rw [hswitches (le_refl _)]; rfl }
  | ended =>
    rw [move]
    exact {}

/-- While a switch holds its side there is no shared side to take. -/
theorem Flags.acquire {c : Config} {s : State} {n : Nat} (h : Flags c s n) (hbusy : ¬ s.busy c = true) :
    Flags c (s.acquire c) n := by
  refine { h with exclusive := fun hs => ?_ }
  exact absurd (by simpa [State.busy] using ⟨(h.exclusive hs).1, hs⟩) hbusy

theorem Flags.release {c : Config} {s : State} {n : Nat} (h : Flags c s n) : Flags c (s.release c) n := by
  refine { h with exclusive := fun hs => ⟨(h.exclusive hs).1, ?_⟩ }
  show s.holders - _ = 0
  rw [(h.exclusive hs).2, Nat.zero_sub]

theorem Flags.reject {c : Config} {s : State} {n : Nat} (h : Flags c s n) (task : Task) : Flags c (s.reject task) n :=
  { h with }

/-- **Every move keeps what the flags mean.** -/
theorem move_flags {c : Config} (hlawful : c.pool.Lawful) {s : State} {load : (Thread → Nat) → Nat}
    (h : Books c s load) (hflags : Flags c s (load counted)) {t : Thread} (hle : ∀ w, w t ≤ load w) {n : Nat}
    (hn : n + counted t =
      load counted + counted (move c () s t).2.1 + weight counted (move c () s t).2.2) :
    Flags c (move c () s t).1 n := by
  -- a counted thread and a pool that is being stopped do not go together
  have hcounted : 1 ≤ counted t → ¬ s.stopping = true := by
    intro ht hs
    have := hle counted
    rw [(hflags.stopped hs).2.2] at this
    omega
  have hkeep : n = load counted → Flags c s n := fun hn => hn ▸ hflags
  have hlive : 1 ≤ counted t → Flags c s n := by
    intro ht
    exact { hflags with stopped := fun hs => absurd hs (hcounted ht) }
  cases t with
  | request task =>
    rw [move] at hn ⊢
    split at hn
    · next hbusy => rw [if_pos hbusy]; exact (hkeep hn).reject task
    · next hbusy => rw [if_neg hbusy]; exact (hkeep hn).acquire hbusy
  | probing task =>
    rw [move] at hn ⊢
    exact (hkeep hn).release
  | probed task =>
    rw [move] at hn ⊢
    split at hn
    · next hheld => rw [if_pos hheld]; exact hkeep hn
    next hfree =>
    rw [if_neg hfree]
    have hstop : ¬ s.stopping = true := fun hs => hfree (hflags.stopped hs).1
    split
    · next hpool =>
      exact { hflags with held := fun _ => hpool, stopped := fun hs => absurd hs hstop }
    · exact {
        held := fun _ => rfl
        closed := fun hclosed => by cases hclosed
        opened := fun _ _ => rfl
        stopped := fun hs => absurd hs hstop
        exclusive := hflags.exclusive }
  | adding task =>
    have hpool : s.threadPool = true := by
      refine hflags.held (flag_of_pos ?_)
      rw [← h.mutex]
      exact hle inMutex
    rw [move]
    split
    · exact hlive (le_refl _)
    · exact {
        held := fun hheld => by cases hheld
        closed := fun hclosed => by rw [hpool] at hclosed; cases hclosed
        opened := hflags.opened
        stopped := fun hs => absurd hs (hcounted (le_refl _))
        exclusive := hflags.exclusive }
  | worker =>
    have hwork : 1 ≤ s.workers := by
      rw [← h.workers]
      exact hle working
    have hpool : s.threadPool = true := by
      by_contra hnone
      have := (hflags.closed (by simpa using hnone)).2
      omega
    rw [move] at hn ⊢
    split at hn
    · next hend =>
      rw [if_pos hend]
      have hstop : s.stopping = true := by
        by_contra hgo
        rw [Bool.not_eq_true] at hgo
        rw [hgo, hlawful.works] at hend
        cases hend
      exact { (hkeep hn) with
        closed := fun hclosed => by rw [hpool] at hclosed; cases hclosed
        opened := fun _ hs => by rw [hstop] at hs; cases hs }
    next hend =>
    rw [if_neg hend]
    split
    · next hnone =>
      rw [hnone] at hn
      exact hkeep hn
    · next task queue htake =>
      -- nothing waits in a pool that is being stopped
      have hstop : ¬ s.stopping = true := by
        intro hs
        have hlen := (hlawful.takes htake).length_eq
        rw [(hflags.stopped hs).2.1] at hlen
        cases hlen
      exact { hflags with
        closed := fun hclosed => by rw [hpool] at hclosed; cases hclosed
        stopped := fun hs => absurd hs hstop }
  | taken task =>
    rw [move]
    split
    · exact (hlive (le_refl _)).reject task
    · next hbusy => exact (hlive (le_refl _)).acquire hbusy
  | rejected =>
    rw [move]
    exact { hlive (le_refl _) with }
  | running task =>
    rw [move]
    exact { hlive (le_refl _) with }
  | answered =>
    rw [move]
    exact { hlive (le_refl _) with }
  | leaving =>
    rw [move] at hn ⊢
    exact (hkeep hn).release
  | delay =>
    rw [move] at hn ⊢
    split at hn
    · next hheld => rw [if_pos hheld]; exact hkeep hn
    next hfree =>
    rw [if_neg hfree]
    split at hn
    · next hnone => rw [if_pos hnone]; exact hkeep hn
    next hpool =>
    rw [if_neg hpool]
    split at hn
    · next hmore => rw [if_pos hmore]; exact hkeep hn
    next hdrained =>
    rw [if_neg hdrained]
    rw [Bool.not_eq_true, Bool.not_eq_false'] at hpool
    obtain ⟨hqueue, hcounter⟩ : s.queue = [] ∧ s.taskCounter = 0 := by simpa using hdrained
    have hnone : load counted = 0 := by
      have := h.counter
      rw [hqueue, hcounter] at this
      simpa using this.symm
    exact { hflags with
      held := fun _ => hpool
      opened := fun _ hs => by cases hs
      stopped := fun _ => ⟨rfl, hqueue, (show n = load counted from hn).trans hnone⟩ }
  | stoppingPool =>
    have hs : s.stopping = true := by
      refine flag_of_pos ?_
      rw [← h.stops]
      exact hle stops
    rw [move] at hn ⊢
    split
    · next hjoined =>
      exact {
        held := fun hheld => by cases hheld
        closed := fun _ => ⟨(hflags.stopped hs).2.1, (hlawful.joined _).mp hjoined⟩
        opened := fun hopen => by cases hopen
        stopped := fun hs => by cases hs
        exclusive := hflags.exclusive }
    · next hjoined =>
      rw [if_neg hjoined] at hn
      exact hkeep hn
  | direct =>
    rw [move] at hn ⊢
    split at hn
    · next hbusy => rw [if_pos hbusy]; exact hkeep hn
    · next hbusy => rw [if_neg hbusy]; exact (hkeep hn).acquire hbusy
  | inDirect =>
    rw [move] at hn ⊢
    exact (hkeep hn).release
  | switch =>
    rw [move] at hn ⊢
    split at hn
    · next hbusy => rw [if_pos hbusy]; exact hkeep hn
    next hfree =>
    rw [if_neg hfree]
    obtain ⟨⟨hdual, -⟩, hholders⟩ : (c.isDualModeDevice = true ∧ s.switchHeld = false) ∧ s.holders = 0 := by
      simpa using hfree
    exact { hkeep hn with exclusive := fun _ => ⟨hdual, hholders⟩ }
  | switching =>
    rw [move] at hn ⊢
    exact { hkeep hn with exclusive := fun hs => by cases hs }
  | ended =>
    rw [move] at hn ⊢
    exact hkeep hn

end BundleFramework.InstallerTasks
