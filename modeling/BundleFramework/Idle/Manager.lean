import BundleFramework.Base.Str
import BundleFramework.Lib.StepRun
import BundleFramework.Lib.ThreadPool

/-!
# Idle work: callbacks, tasks and what they share

`IdleConditionMgr` starts three kinds of work when the device is idle: relabelling
(`BmsUpdateSelinuxMgr`), the application data scan and the file category scan
(`AppDataMonitor`).  Callbacks write the conditions and then try to start the three, or
interrupt them; started work runs in a detached thread, and `OnPowerConnected` submits a task
that waits before it writes.

The model is a pool of threads.  A callback, a waiting task and a piece of idle work are
threads, one step of a thread is one critical section or one atomic access of the source
(for the loops: one bundle or application), and any order of steps is a run.  `Answers` is
what a step reads from outside: parameters, the account service, memory and thermal state,
the databases.

For each kind, `active` is the flag that says the work is armed (`isRelabeling_`,
`isScanActive_`, `isFileCategoryScanActive_`), `stopRequested` the flag that interrupts it
(`needStop_`, `stopRequested_`, `stopFileCategoryRequested_`).
-/

namespace BundleFramework.Idle

open Std ThreadPool

/-! ## State -/

inductive Kind where
  | relabel
  | scan
  | fileCategory
  deriving DecidableEq

structure Shared where
  screenLocked : Bool
  userUnlockedMap : ExtTreeMap Int Bool
  powerConnected : Bool
  batterySatisfied : Bool
  featureEnabled : Kind → Bool
  active : Kind → Bool
  powerConnectedThreadActive : Bool
  /-- `isScanning_` and `isFileCategoryScanning_`; relabelling has none. -/
  scanning : Kind → Bool
  stopRequested : Kind → Bool
  /-- `BMS_PARAM_RELABEL_WAIT_TIME`, in seconds. -/
  relabelWaitTime : Int
  /-- The steady clock, in nanoseconds. -/
  now : Int

def SECOND : Int := 1000000000

/-- What one step reads from outside. -/
structure Answers where
  /-- The system parameter that switches this kind of work on. -/
  param : Bool
  /-- The installer, the monitor and the data manager are there. -/
  serviceOk : Bool
  userId : Int
  taskCounter : Int
  inodeOk : Bool
  bufferOk : Bool
  thermalOk : Bool
  cooldown : Bool
  hasPendingBundles : Bool
  /-- The bundles to relabel or the applications to scan; `none` when the query fails. -/
  items : Option (List Str)
  /-- Relabelling: the bundle is gone. -/
  itemMissing : Bool
  /-- Scans: the loop returns before this application, or after it. -/
  quitBefore : Bool
  quitAfter : Bool

inductive TryPc where
  | check
  | external
  | arm
  | spawn
  deriving DecidableEq

inductive InterruptPc where
  | test
  | load
  | store
  deriving DecidableEq

/-- A call a callback makes, and how far it has come. -/
inductive Call where
  | tryStart (k : Kind) (pc : TryPc)
  | interrupt (k : Kind) (pc : InterruptPc)
  deriving DecidableEq

/-- An assignment a callback makes under the lock. -/
inductive Write where
  | screenLocked (value : Bool)
  | userUnlocked (userId : Int) (value : Bool)
  | powerDisconnected
  | powerThreadInactive
  | batterySatisfied (value : Bool)
  | featureEnabled (k : Kind) (value : Bool)
  deriving DecidableEq

inductive ConnectPc where
  | test
  | setActive
  | submit
  deriving DecidableEq

/-- The task that `OnPowerConnected` submits. -/
inductive WaitPc where
  | start
  | loop (endTime : Int)
  | check (endTime : Int)
  | sleep (endTime wake : Int)
  | write
  | calls (cs : List Call)
  deriving DecidableEq

inductive TaskPc where
  | recheck
  | buffer
  | thermal
  | start
  | testStop
  | load
  | loop (items : List Str)
  | leave
  | reset
  | clear
  deriving DecidableEq

inductive Thread where
  | event (writes : List Write) (calls : List Call)
  | connect (pc : ConnectPc)
  | wait (pc : WaitPc)
  | task (k : Kind) (pc : TaskPc)
  deriving DecidableEq

/-- A thread that has returned. -/
abbrev Thread.done : Thread := .event [] []

abbrev Machine := Pool Shared Thread

/-! ## Critical sections -/

def userUnlocked (ans : Answers) (sh : Shared) : Bool := sh.userUnlockedMap[ans.userId]? = some true

/-- What the three checks have in common. -/
def conditionsMet (ans : Answers) (sh : Shared) : Bool :=
  ans.serviceOk && userUnlocked ans sh && sh.screenLocked && sh.powerConnected && sh.batterySatisfied &&
    ans.taskCounter = 0

def checkRelabelConditions (ans : Answers) (sh : Shared) : Bool :=
  conditionsMet ans sh && !sh.active .scan && !sh.active .fileCategory

def checkScanConditions (ans : Answers) (sh : Shared) : Bool :=
  conditionsMet ans sh && !sh.scanning .scan && !sh.active .relabel && !sh.active .fileCategory

def checkFileCategoryScanConditions (ans : Answers) (sh : Shared) : Bool :=
  conditionsMet ans sh && !sh.scanning .fileCategory && !sh.active .relabel && !sh.active .scan

def checkConditions : Kind → Answers → Shared → Bool
  | .relabel => checkRelabelConditions
  | .scan => checkScanConditions
  | .fileCategory => checkFileCategoryScanConditions

def Shared.setActive (sh : Shared) (k : Kind) (value : Bool) : Shared :=
  { sh with active := Function.update sh.active k value }

def Shared.setScanning (sh : Shared) (k : Kind) (value : Bool) : Shared :=
  { sh with scanning := Function.update sh.scanning k value }

def Shared.setStop (sh : Shared) (k : Kind) (value : Bool) : Shared :=
  { sh with stopRequested := Function.update sh.stopRequested k value }

/-- Arms `k` unless it or one of the others is armed. -/
def setIsActive (k other other' : Kind) (sh : Shared) : Option Shared :=
  if sh.active k then none
  else if sh.active other || sh.active other' then none
  else some (sh.setActive k true)

def setIsRelabeling : Shared → Option Shared := setIsActive .relabel .scan .fileCategory
def setIsScanActive : Shared → Option Shared := setIsActive .scan .relabel .fileCategory
def setIsFileCategoryScanActive : Shared → Option Shared := setIsActive .fileCategory .relabel .scan

def arm : Kind → Shared → Option Shared
  | .relabel => setIsRelabeling
  | .scan => setIsScanActive
  | .fileCategory => setIsFileCategoryScanActive

/-! ## TryStart and Interrupt -/

/-- The gates and the conditions at the head of a `TryStart`. -/
def tryCheck (k : Kind) (ans : Answers) (sh : Shared) : Bool :=
  match k with
  | .relabel => ans.param && checkConditions k ans sh
  | _ => ans.param && sh.featureEnabled k && checkConditions k ans sh

/-- What a `TryStart` asks between the conditions and the flag. -/
def tryExternal (k : Kind) (ans : Answers) (sh : Shared) : Bool :=
  match k with
  | .relabel =>
    sh.featureEnabled k && ans.inodeOk && ans.bufferOk && ans.thermalOk && ans.serviceOk && ans.hasPendingBundles
  | _ => ans.serviceOk && !ans.cooldown && ans.bufferOk && ans.thermalOk

/-- One step of a call: the state, what is left of the call, and the work it starts.
`StopUpdateSelinuxLabel` reads `needStop_` before it writes it, `StopScan` does not. -/
def callMove (ans : Answers) (sh : Shared) : Call → Shared × Option Call × Option Kind
  | .tryStart k .check => (sh, if tryCheck k ans sh then some (.tryStart k .external) else none, none)
  | .tryStart k .external => (sh, if tryExternal k ans sh then some (.tryStart k .arm) else none, none)
  | .tryStart k .arm =>
    match arm k sh with
    | some sh' => (sh', some (.tryStart k .spawn), none)
    | none => (sh, none, none)
  | .tryStart k .spawn => (sh, none, some k)
  | .interrupt k .test =>
    (sh, if sh.active k then some (.interrupt k (if k = .relabel then .load else .store)) else none, none)
  | .interrupt k .load => (sh, if sh.stopRequested k then none else some (.interrupt k .store), none)
  | .interrupt k .store => (sh.setStop k true, none, none)

/-- The remaining calls after a step of the first one. -/
def callsMove (ans : Answers) (sh : Shared) (c : Call) (cs : List Call) : Shared × List Call × List Thread :=
  let moved := callMove ans sh c
  (moved.1, moved.2.1.toList ++ cs, moved.2.2.toList.map fun k => .task k .recheck)

/-! ## Idle work -/

def MAX_FILE_CATEGORY_APPS : Nat := 20

/-- The way out of the loop: the scans pass their guard. -/
def TaskPc.exit (k : Kind) : TaskPc := if k = .relabel then .clear else .leave

def itemsOf (k : Kind) (items : List Str) : List Str :=
  if k = .fileCategory then items.take MAX_FILE_CATEGORY_APPS else items

/-- The loop reaches an item: `SetFileConForce` or the scan of an application is started. -/
def starts (k : Kind) (ans : Answers) (sh : Shared) : Bool :=
  !sh.stopRequested k && (if k = .relabel then !ans.itemMissing else !ans.quitBefore)

/-- One item of `StartUpdateSelinuxLabel`, `ScanLargeApps` or `ScanTopApps`. -/
def loopMove (k : Kind) (ans : Answers) (sh : Shared) (rest : List Str) : TaskPc :=
  if sh.stopRequested k then .exit k
  else if k = .relabel then .loop rest
  else if ans.quitBefore || ans.quitAfter then .exit k
  else .loop rest

/-- One step of a detached task, from its own check of the conditions to the guard that
clears the flag. -/
def taskMove (k : Kind) (ans : Answers) (sh : Shared) : TaskPc → Shared × Thread
  | .recheck => (sh, .task k (if checkConditions k ans sh then .buffer else .clear))
  | .buffer => (sh, .task k (if ans.bufferOk then .thermal else .clear))
  | .thermal => (sh, .task k (if ans.thermalOk && ans.serviceOk then .start else .clear))
  | .start =>
    if k = .relabel then (sh.setStop k false, .task k .load)
    else if sh.scanning k then (sh, .task k .clear)
    else (sh.setScanning k true, .task k .testStop)
  | .testStop => (sh, .task k (if sh.stopRequested k then .leave else .load))
  | .load =>
    match ans.items with
    | none => (sh, .task k (.exit k))
    | some items => (sh, .task k (.loop (itemsOf k items)))
  | .loop [] => (sh, .task k (.exit k))
  | .loop (_ :: rest) => (sh, .task k (loopMove k ans sh rest))
  | .leave => (sh.setScanning k false, .task k .reset)
  | .reset => (sh.setStop k false, .task k .clear)
  | .clear => (sh.setActive k false, .done)

/-! ## Threads -/

def Write.apply (sh : Shared) : Write → Shared
  | .screenLocked value => { sh with screenLocked := value }
  | .userUnlocked userId value => { sh with userUnlockedMap := sh.userUnlockedMap.insert userId value }
  | .powerDisconnected => { sh with powerConnected := false }
  | .powerThreadInactive => { sh with powerConnectedThreadActive := false }
  | .batterySatisfied value => { sh with batterySatisfied := value }
  | .featureEnabled k value => { sh with featureEnabled := Function.update sh.featureEnabled k value }

def tryStarts : List Call := [.tryStart .relabel .check, .tryStart .scan .check, .tryStart .fileCategory .check]
def interrupts : List Call := [.interrupt .relabel .test, .interrupt .scan .test, .interrupt .fileCategory .test]

/-- `OnPowerConnected`. -/
def connectMove (sh : Shared) : ConnectPc → Shared × Thread × List Thread
  | .test => (sh, if sh.powerConnectedThreadActive then .done else .connect .setActive, [])
  | .setActive => ({ sh with powerConnectedThreadActive := true }, .connect .submit, [])
  | .submit => (sh, .done, [.wait .start])

def waitMove (ans : Answers) (sh : Shared) : WaitPc → Shared × Thread × List Thread
  | .start => (sh, .wait (.loop (sh.now + sh.relabelWaitTime * SECOND)), [])
  | .loop endTime => (sh, .wait (if sh.now < endTime then .check endTime else .write), [])
  | .check endTime =>
    (sh, if sh.powerConnectedThreadActive then .wait (.sleep endTime (sh.now + SECOND)) else .done, [])
  | .sleep endTime wake => (sh, .wait (if sh.now < wake then .sleep endTime wake else .loop endTime), [])
  | .write => ({ sh with powerConnected := true }, .wait (.calls tryStarts), [])
  | .calls [] => ({ sh with powerConnectedThreadActive := false }, .done, [])
  | .calls (c :: cs) =>
    let moved := callsMove ans sh c cs
    (moved.1, .wait (.calls moved.2.1), moved.2.2)

def move (ans : Answers) (sh : Shared) : Thread → Shared × Thread × List Thread
  | .event (w :: ws) cs => (w.apply sh, .event ws cs, [])
  | .event [] (c :: cs) =>
    let moved := callsMove ans sh c cs
    (moved.1, .event [] moved.2.1, moved.2.2)
  | .event [] [] => (sh, .done, [])
  | .connect pc => connectMove sh pc
  | .wait pc => waitMove ans sh pc
  | .task k pc => ((taskMove k ans sh pc).1, (taskMove k ans sh pc).2, [])

/-! ## Callbacks -/

inductive SystemMemoryLevel where
  | UNKNOWN
  | MEMORY_LEVEL_PURGEABLE
  | MEMORY_LEVEL_MODERATE
  | MEMORY_LEVEL_LOW
  | MEMORY_LEVEL_CRITICAL
  deriving DecidableEq

inductive Event where
  | onScreenLocked
  | onScreenUnlocked
  | onUserUnlocked (userId : Int)
  | onUserStopping (userId : Int)
  | onPowerConnected
  | onPowerDisconnected
  | handleOnTrim (level : SystemMemoryLevel)
  | onBatteryChanged (currentBatteryCap relabelBatteryCapacity : Int)
  | onThermalLevelChanged (belowWarm : Bool)
  | onConfigChanged (disabled : Kind → Bool)
  /-- `BundleInstallerManager::AddTask` interrupts relabelling. -/
  | addTask

def handleOnTrim : SystemMemoryLevel → Thread
  | .UNKNOWN | .MEMORY_LEVEL_PURGEABLE | .MEMORY_LEVEL_MODERATE => .event [] tryStarts
  | .MEMORY_LEVEL_LOW | .MEMORY_LEVEL_CRITICAL => .event [] interrupts

def onBatteryChanged (currentBatteryCap relabelBatteryCapacity : Int) : Thread :=
  if currentBatteryCap < relabelBatteryCapacity then .event [.batterySatisfied false] interrupts
  else .event [.batterySatisfied true] tryStarts

def Event.thread : Event → Thread
  | .onScreenLocked => .event [.screenLocked true] tryStarts
  | .onScreenUnlocked => .event [.screenLocked false] interrupts
  | .onUserUnlocked userId => .event [.userUnlocked userId true] tryStarts
  | .onUserStopping userId => .event [.userUnlocked userId false] interrupts
  | .onPowerConnected => .connect .test
  | .onPowerDisconnected => .event [.powerDisconnected, .powerThreadInactive] interrupts
  | .handleOnTrim level => Idle.handleOnTrim level
  | .onBatteryChanged currentBatteryCap relabelBatteryCapacity =>
    Idle.onBatteryChanged currentBatteryCap relabelBatteryCapacity
  | .onThermalLevelChanged belowWarm => .event [] (if belowWarm then tryStarts else interrupts)
  | .onConfigChanged disabled => .event [.featureEnabled .relabel (!disabled .relabel),
      .featureEnabled .scan (!disabled .scan), .featureEnabled .fileCategory (!disabled .fileCategory)] []
  | .addTask => .event [] [.interrupt .relabel .test]

/-- A callback begins, a thread takes a step, or time passes. -/
inductive Op where
  | event (e : Event)
  | run (i : Nat) (ans : Answers)
  | tick (elapsed : Nat)

def step (m : Machine) : Op → Machine
  | .event e => m.start e.thread
  | .run i ans => m.run move i ans
  | .tick elapsed => ⟨{ m.shared with now := m.shared.now + elapsed }, m.threads⟩

/-- A new manager. -/
def Machine.init (relabelWaitTime : Int) : Machine where
  shared :=
    { screenLocked := false
      userUnlockedMap := ∅
      powerConnected := false
      batterySatisfied := false
      featureEnabled := fun _ => true
      active := fun _ => false
      powerConnectedThreadActive := false
      scanning := fun _ => false
      stopRequested := fun _ => false
      relabelWaitTime := relabelWaitTime
      now := 0 }
  threads := []

/-- For concrete runs: all well, but no work switched on. -/
def Answers.none : Answers where
  param := false
  serviceOk := true
  userId := 100
  taskCounter := 0
  inodeOk := true
  bufferOk := true
  thermalOk := true
  cooldown := false
  hasPendingBundles := false
  items := some []
  itemMissing := false
  quitBefore := false
  quitAfter := false

/-- For concrete runs: all well, and one item to work on. -/
def Answers.ready : Answers :=
  { Answers.none with param := true, hasPendingBundles := true, items := some [['a']] }

/-- Some steps of one thread. -/
def stepsOf (ans : Answers) (i n : Nat) : List Op := List.replicate n (.run i ans)

/-- User 100 unlocks, the battery is fine, and power is connected with no time to wait. -/
def conditionsOn : List Op :=
  [.event (.onUserUnlocked 100)] ++ stepsOf .none 0 4 ++ [.event (.onBatteryChanged 80 20)] ++ stepsOf .none 1 4 ++
    [.event .onPowerConnected] ++ stepsOf .none 2 3 ++ stepsOf .none 3 7

/-! ## What a step writes -/

@[simp] theorem setActive_active (sh : Shared) (k j : Kind) (value : Bool) :
    (sh.setActive k value).active j = if j = k then value else sh.active j := Function.update_apply ..

@[simp] theorem setStop_stopRequested (sh : Shared) (k j : Kind) (value : Bool) :
    (sh.setStop k value).stopRequested j = if j = k then value else sh.stopRequested j := Function.update_apply ..

@[simp] theorem setActive_stopRequested (sh : Shared) (k : Kind) (value : Bool) :
    (sh.setActive k value).stopRequested = sh.stopRequested := rfl

@[simp] theorem setScanning_stopRequested (sh : Shared) (k : Kind) (value : Bool) :
    (sh.setScanning k value).stopRequested = sh.stopRequested := rfl

/-- Arming finds every flag clear. -/
theorem arm_some {k : Kind} {sh sh' : Shared} (h : arm k sh = some sh') :
    (∀ j, sh.active j = false) ∧ sh' = sh.setActive k true := by
  have hset : ∀ other other' : Kind, (∀ j, j = k ∨ j = other ∨ j = other') →
      setIsActive k other other' sh = some sh' → (∀ j, sh.active j = false) ∧ sh' = sh.setActive k true := by
    intro other other' hall hset
    unfold setIsActive at hset
    split at hset
    · cases hset
    · next hk =>
      split at hset
      · cases hset
      · next hothers =>
        refine ⟨fun j => ?_, (Option.some.inj hset).symm⟩
        simp only [Bool.or_eq_true, not_or, Bool.not_eq_true] at hk hothers
        rcases hall j with rfl | rfl | rfl
        · exact hk
        · exact hothers.1
        · exact hothers.2
  cases k with
  | relabel => exact hset .scan .fileCategory (by intro j; cases j <;> simp) h
  | scan => exact hset .relabel .fileCategory (by intro j; cases j <;> simp) h
  | fileCategory => exact hset .relabel .scan (by intro j; cases j <;> simp) h

/-- What a step of a call writes. -/
theorem callMove_shared (ans : Answers) (sh : Shared) (c : Call) :
    (callMove ans sh c).1 = sh ∨
    (∃ k, c = .tryStart k .arm ∧ (∀ j, sh.active j = false) ∧ (callMove ans sh c).1 = sh.setActive k true) ∨
    ∃ k, c = .interrupt k .store ∧ (callMove ans sh c).1 = sh.setStop k true := by
  match c with
  | .tryStart k .arm =>
    simp only [callMove]
    rcases harm : arm k sh with _ | sh'
    · exact .inl rfl
    · obtain ⟨hfree, rfl⟩ := arm_some harm
      exact .inr (.inl ⟨k, rfl, hfree, rfl⟩)
  | .interrupt k .store => exact .inr (.inr ⟨k, rfl, rfl⟩)
  | .tryStart k .check | .tryStart k .external | .tryStart k .spawn | .interrupt k .test | .interrupt k .load =>
    exact .inl rfl

/-- What a step of a task writes. -/
theorem taskMove_shared (k : Kind) (ans : Answers) (sh : Shared) (pc : TaskPc) :
    (taskMove k ans sh pc).1 = sh ∨
    (pc = .start ∧ k = .relabel ∧ (taskMove k ans sh pc).1 = sh.setStop k false) ∨
    (pc = .start ∧ k ≠ .relabel ∧ sh.scanning k = false ∧ (taskMove k ans sh pc).1 = sh.setScanning k true) ∨
    (pc = .leave ∧ (taskMove k ans sh pc).1 = sh.setScanning k false) ∨
    (pc = .reset ∧ (taskMove k ans sh pc).1 = sh.setStop k false) ∨
    (pc = .clear ∧ (taskMove k ans sh pc).1 = sh.setActive k false) := by
  match pc with
  | .start =>
    simp only [taskMove]
    split
    · next hk => exact .inr (.inl ⟨trivial, hk, rfl⟩)
    · next hk =>
      split
      · exact .inl rfl
      · next hscan => exact .inr (.inr (.inl ⟨trivial, hk, by simpa using hscan, rfl⟩))
  | .load =>
    simp only [taskMove]
    split <;> exact .inl rfl
  | .leave => exact .inr (.inr (.inr (.inl ⟨rfl, rfl⟩)))
  | .reset => exact .inr (.inr (.inr (.inr (.inl ⟨rfl, rfl⟩))))
  | .clear => exact .inr (.inr (.inr (.inr (.inr ⟨rfl, rfl⟩))))
  | .recheck | .buffer | .thermal | .testStop | .loop [] | .loop (_ :: _) => exact .inl rfl

/-- The call a thread is at. -/
def Thread.call? : Thread → Option Call
  | .event [] (c :: _) => some c
  | .wait (.calls (c :: _)) => some c
  | _ => none

/-- What a step can do to a stop flag: nothing, the write of an interrupt, or the reset of a
task of that kind. -/
theorem move_stop (ans : Answers) (sh : Shared) (t : Thread) (k : Kind) :
    (move ans sh t).1.stopRequested k = sh.stopRequested k ∨
    (t.call? = some (.interrupt k .store) ∧ (move ans sh t).1.stopRequested k = true) ∨
    (((t = .task k .start ∧ k = .relabel) ∨ t = .task k .reset) ∧ (move ans sh t).1.stopRequested k = false) := by
  have hcall : ∀ c, (callMove ans sh c).1.stopRequested k = sh.stopRequested k ∨
      (c = .interrupt k .store ∧ (callMove ans sh c).1.stopRequested k = true) := by
    intro c
    rcases callMove_shared ans sh c with e | ⟨j, -, -, e⟩ | ⟨j, rfl, e⟩
    · exact .inl (by rw [e])
    · exact .inl (by rw [e, setActive_stopRequested])
    · rw [e, setStop_stopRequested]
      split
      · next hk => exact .inr ⟨by rw [hk], rfl⟩
      · exact .inl rfl
  have hcalls : ∀ c cs, (callsMove ans sh c cs).1.stopRequested k = sh.stopRequested k ∨
      (some c = some (.interrupt k .store) ∧ (callsMove ans sh c cs).1.stopRequested k = true) :=
    fun c _ => (hcall c).imp_right (And.imp_left (congrArg some))
  match t with
  | .event (w :: ws) cs => exact .inl (by cases w <;> rfl)
  | .event [] (c :: cs) => exact (hcalls c cs).imp_right .inl
  | .event [] [] => exact .inl rfl
  | .connect .test | .connect .setActive | .connect .submit => exact .inl rfl
  | .wait (.calls (c :: cs)) => exact (hcalls c cs).imp_right .inl
  | .wait (.calls []) | .wait .start | .wait (.loop _) | .wait (.check _) | .wait (.sleep _ _) | .wait .write =>
    exact .inl rfl
  | .task j pc =>
    show (taskMove j ans sh pc).1.stopRequested k = _ ∨ _ ∨ _ ∧ (taskMove j ans sh pc).1.stopRequested k = false
    rcases taskMove_shared j ans sh pc with e | ⟨rfl, hj, e⟩ | ⟨-, -, -, e⟩ | ⟨-, e⟩ | ⟨rfl, e⟩ | ⟨-, e⟩
    · exact .inl (by rw [e])
    · rw [e, setStop_stopRequested]
      split
      · next hk => exact .inr (.inr ⟨.inl ⟨by rw [hk], hk.trans hj⟩, rfl⟩)
      · exact .inl rfl
    · exact .inl (by rw [e, setScanning_stopRequested])
    · exact .inl (by rw [e, setScanning_stopRequested])
    · rw [e, setStop_stopRequested]
      split
      · next hk => exact .inr (.inr ⟨.inr (by rw [hk]), rfl⟩)
      · exact .inl rfl
    · exact .inl (by rw [e, setActive_stopRequested])

/-- A task that starts is at its own check of the conditions; what else starts waits. -/
theorem move_started {ans : Answers} {sh : Shared} {t u : Thread} (h : u ∈ (move ans sh t).2.2) :
    u = .wait .start ∨ ∃ k, u = .task k .recheck := by
  have hcalls : ∀ c cs, u ∈ (callsMove ans sh c cs).2.2 → ∃ k, u = .task k .recheck := by
    intro c cs hmem
    obtain ⟨k, -, rfl⟩ := List.mem_map.mp hmem
    exact ⟨k, rfl⟩
  match t, h with
  | .event (w :: ws) cs, h => cases h
  | .event [] (c :: cs), h => exact .inr (hcalls c cs h)
  | .event [] [], h => cases h
  | .connect .submit, h => exact .inl (List.mem_singleton.mp h)
  | .wait (.calls (c :: cs)), h => exact .inr (hcalls c cs h)

/-- A callback is no task. -/
theorem event_thread_ne_task (e : Event) (k : Kind) (pc : TaskPc) : e.thread ≠ .task k pc := by
  cases e with
  | handleOnTrim level => cases level <;> simp [Event.thread, Idle.handleOnTrim]
  | onBatteryChanged cap capacity =>
    simp only [Event.thread, onBatteryChanged]
    split <;> simp
  | _ => simp [Event.thread]

end BundleFramework.Idle
