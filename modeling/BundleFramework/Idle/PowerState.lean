import BundleFramework.Idle.Manager

/-!
# The power state and the tasks that wait to write it

`OnPowerConnected` submits a task that waits for the configured time, as long as
`powerConnectedThreadActive_` stays set, and then writes `powerConnected_`.
`OnPowerDisconnected` writes both flags.  The task does not look at the flag again between its
last test and its write, the flag does not say whose it is, and a second `OnPowerConnected`
revives a task that was told to stop.

`PowerLog` adds to the machine what happened: the last power event, and the callbacks
`OnPowerDisconnected` that began since the last `OnPowerConnected`.  `InOrder` rules the three
races out, and then the state is never stale (`power_state_fresh`); `powerOnAfterUnplug` is a
run in which a task writes after the unplugging.
-/

namespace BundleFramework.Idle

open ThreadPool StepRun

inductive PowerEvent where
  | connected (time : Int)
  | disconnected (time : Int)
  deriving DecidableEq

/-- The machine with the power events so far. -/
structure PowerLog where
  machine : Machine
  last : Option PowerEvent
  /-- Positions of the callbacks `OnPowerDisconnected` begun since the last `OnPowerConnected`. -/
  since : List Nat

def PowerLog.init (relabelWaitTime : Int) : PowerLog := ⟨Machine.init relabelWaitTime, none, []⟩

def PowerLog.step (g : PowerLog) (op : Op) : PowerLog :=
  let machine := Idle.step g.machine op
  match op with
  | .event .onPowerConnected => ⟨machine, some (.connected g.machine.shared.now), []⟩
  | .event .onPowerDisconnected =>
    ⟨machine, some (.disconnected g.machine.shared.now), g.since ++ [g.machine.threads.length]⟩
  | _ => ⟨machine, g.last, g.since⟩

/-! ## The property -/

/-- Once an `OnPowerDisconnected` has returned and no `OnPowerConnected` follows it, the power
state is off. -/
def PowerLog.NotStale (g : PowerLog) : Prop :=
  ∀ i ∈ g.since, g.machine.threads[i]? = some .done → g.machine.shared.powerConnected = false

/-- The power state is switched on only when the last power event was a connect, at least the
configured time ago. -/
def PowerLog.RiseJustified (g : PowerLog) (op : Op) : Prop :=
  g.machine.shared.powerConnected = false → (g.step op).machine.shared.powerConnected = true →
    ∃ time, g.last = some (.connected time) ∧
      time + g.machine.shared.relabelWaitTime * SECOND ≤ g.machine.shared.now

/-! ## The condition -/

/-- An `OnPowerConnected` that has not returned, or its task before the write. -/
def Thread.pending : Thread → Nat
  | .connect _ => 1
  | .wait (.calls _) => 0
  | .wait _ => 1
  | _ => 0

/-- An `OnPowerConnected` that has not returned, or a task between its last test and the
write. -/
def Thread.committed : Thread → Bool
  | .connect _ => true
  | .wait .write => true
  | _ => false

/-- An `OnPowerDisconnected` that has not cleared `powerConnectedThreadActive_` yet. -/
def Thread.disconnecting : Thread → Bool
  | .event ws _ => decide (.powerThreadInactive ∈ ws)
  | _ => false

/-- The next step of the thread takes it out of its loop. -/
def PowerLog.leavesLoop (g : PowerLog) (i : Nat) : Bool :=
  match g.machine.threads[i]? with
  | some (.wait (.loop endTime)) => endTime ≤ g.machine.shared.now
  | _ => false

/-- No race on the flag: power is connected when no earlier task is waiting, disconnected when
none is about to write, and a task leaves its loop only while the flag is set and nobody is
about to clear it. -/
def PowerLog.InOrder (g : PowerLog) : Op → Prop
  | .event .onPowerConnected => ∀ t ∈ g.machine.threads, t.pending = 0
  | .event .onPowerDisconnected => ∀ t ∈ g.machine.threads, t.committed = false
  | .run i _ => g.leavesLoop i = true →
      g.machine.shared.powerConnectedThreadActive = true ∧ ∀ t ∈ g.machine.threads, t.disconnecting = false
  | _ => True

instance (g : PowerLog) (op : Op) : Decidable (g.InOrder op) :=
  match op with
  | .event .onPowerConnected => inferInstanceAs (Decidable (∀ t ∈ g.machine.threads, t.pending = 0))
  | .event .onPowerDisconnected => inferInstanceAs (Decidable (∀ t ∈ g.machine.threads, t.committed = false))
  | .run i _ => inferInstanceAs (Decidable (g.leavesLoop i = true →
      g.machine.shared.powerConnectedThreadActive = true ∧ ∀ t ∈ g.machine.threads, t.disconnecting = false))
  | .tick _ | .event .onScreenLocked | .event .onScreenUnlocked | .event (.onUserUnlocked _)
  | .event (.onUserStopping _) | .event (.handleOnTrim _) | .event (.onBatteryChanged _ _)
  | .event (.onThermalLevelChanged _) | .event (.onConfigChanged _) | .event .addTask => isTrue trivial

/-! ## One step -/

/-- The part of the state this file is about. -/
def Shared.power (sh : Shared) : Bool × Bool × Int × Int :=
  (sh.powerConnected, sh.powerConnectedThreadActive, sh.relabelWaitTime, sh.now)

theorem callsMove_power (ans : Answers) (sh : Shared) (c : Call) (cs : List Call) :
    (callsMove ans sh c cs).1.power = sh.power := by
  show (callMove ans sh c).1.power = sh.power
  rcases callMove_shared ans sh c with e | ⟨k, -, -, e⟩ | ⟨k, -, e⟩
  · rw [e]
  · rw [e]
    rfl
  · rw [e]
    rfl

theorem taskMove_power (k : Kind) (ans : Answers) (sh : Shared) (pc : TaskPc) :
    (taskMove k ans sh pc).1.power = sh.power := by
  rcases taskMove_shared k ans sh pc with e | ⟨-, -, e⟩ | ⟨-, -, -, e⟩ | ⟨-, e⟩ | ⟨-, e⟩ | ⟨-, e⟩
  · rw [e]
  all_goals
    rw [e]
    rfl

/-- What a step can do to the power state and its flag: nothing, or one of the writes of
`OnPowerDisconnected`, of `OnPowerConnected` and of its task. -/
theorem move_power (ans : Answers) (sh : Shared) (t : Thread) :
    (move ans sh t).1.power = sh.power ∨
    (∃ ws cs, t = .event (.powerDisconnected :: ws) cs ∧
      (move ans sh t).1.power = (false, sh.powerConnectedThreadActive, sh.relabelWaitTime, sh.now)) ∨
    ((∀ endTime, t ≠ .wait (.loop endTime)) ∧ t.pending = 0 ∧
      (move ans sh t).1.power = (sh.powerConnected, false, sh.relabelWaitTime, sh.now)) ∨
    (t = .connect .setActive ∧
      (move ans sh t).1.power = (sh.powerConnected, true, sh.relabelWaitTime, sh.now)) ∨
    (t = .wait .write ∧
      (move ans sh t).1.power = (true, sh.powerConnectedThreadActive, sh.relabelWaitTime, sh.now)) := by
  match t with
  | .event (.powerDisconnected :: ws) cs => exact .inr (.inl ⟨ws, cs, rfl, rfl⟩)
  | .event (.powerThreadInactive :: ws) cs => exact .inr (.inr (.inl ⟨by simp, rfl, rfl⟩))
  | .event (.screenLocked _ :: _) _ | .event (.userUnlocked _ _ :: _) _ | .event (.batterySatisfied _ :: _) _
  | .event (.featureEnabled _ _ :: _) _ => exact .inl rfl
  | .event [] (c :: cs) => exact .inl (callsMove_power ans sh c cs)
  | .event [] [] => exact .inl rfl
  | .connect .setActive => exact .inr (.inr (.inr (.inl ⟨rfl, rfl⟩)))
  | .connect .test | .connect .submit => exact .inl rfl
  | .wait .write => exact .inr (.inr (.inr (.inr ⟨rfl, rfl⟩)))
  | .wait (.calls []) => exact .inr (.inr (.inl ⟨by simp, rfl, rfl⟩))
  | .wait (.calls (c :: cs)) => exact .inl (callsMove_power ans sh c cs)
  | .wait .start | .wait (.loop _) | .wait (.check _) | .wait (.sleep _ _) => exact .inl rfl
  | .task k pc => exact .inl (taskMove_power k ans sh pc)

theorem of_power_eq {sh : Shared} {connected active : Bool} {wait now : Int}
    (e : sh.power = (connected, active, wait, now)) :
    sh.powerConnected = connected ∧ sh.powerConnectedThreadActive = active ∧ sh.relabelWaitTime = wait ∧
      sh.now = now := by
  simpa only [Shared.power, Prod.mk.injEq] using e

theorem move_now (ans : Answers) (sh : Shared) (t : Thread) :
    (move ans sh t).1.now = sh.now ∧ (move ans sh t).1.relabelWaitTime = sh.relabelWaitTime := by
  rcases move_power ans sh t with e | ⟨_, _, -, e⟩ | ⟨-, -, e⟩ | ⟨-, e⟩ | ⟨-, e⟩
  all_goals
    obtain ⟨-, -, hwait, hnow⟩ := of_power_eq e
    exact ⟨hnow, hwait⟩

/-- The power state is switched on by a task's write. -/
theorem powerConnected_move (ans : Answers) (sh : Shared) (t : Thread)
    (h : (move ans sh t).1.powerConnected = true) : sh.powerConnected = true ∨ t = .wait .write := by
  rcases move_power ans sh t with e | ⟨_, _, -, e⟩ | ⟨-, -, e⟩ | ⟨-, e⟩ | ⟨ht, -⟩
  · exact .inl ((of_power_eq e).1 ▸ h)
  · rw [(of_power_eq e).1] at h
    cases h
  · exact .inl ((of_power_eq e).1 ▸ h)
  · exact .inl ((of_power_eq e).1 ▸ h)
  · exact .inr ht

/-- The flag is set by an `OnPowerConnected`. -/
theorem powerThreadActive_move (ans : Answers) (sh : Shared) (t : Thread)
    (h : sh.powerConnectedThreadActive = false) (ht : t ≠ .connect .setActive) :
    (move ans sh t).1.powerConnectedThreadActive = false := by
  rcases move_power ans sh t with e | ⟨_, _, -, e⟩ | ⟨-, -, e⟩ | ⟨ht', -⟩ | ⟨-, e⟩
  · exact (of_power_eq e).2.1.trans h
  · exact (of_power_eq e).2.1.trans h
  · exact (of_power_eq e).2.1
  · exact absurd ht' ht
  · exact (of_power_eq e).2.1.trans h

theorem weight_pending_tasks (ans : Answers) (sh : Shared) (c : Call) (cs : List Call) :
    weight Thread.pending (callsMove ans sh c cs).2.2 = 0 := by
  show weight Thread.pending ((callMove ans sh c).2.2.toList.map fun k => .task k .recheck) = 0
  rcases (callMove ans sh c).2.2 with _ | k <;> rfl

/-- A step makes no new thread that waits to write, unless it ends one. -/
theorem move_pending (ans : Answers) (sh : Shared) (t : Thread) :
    (move ans sh t).2.1.pending + weight Thread.pending (move ans sh t).2.2 ≤ t.pending := by
  match t with
  | .event (w :: ws) cs => exact Nat.le_refl _
  | .event [] (c :: cs) =>
    show 0 + weight Thread.pending (callsMove ans sh c cs).2.2 ≤ 0
    rw [weight_pending_tasks]
  | .event [] [] => exact Nat.le_refl _
  | .connect .test =>
    simp only [move, connectMove]
    split <;> simp [Thread.pending]
  | .connect .setActive | .connect .submit => exact Nat.le_refl _
  | .wait .start => exact Nat.le_refl _
  | .wait (.loop _) =>
    simp only [move, waitMove]
    split <;> simp [Thread.pending]
  | .wait (.check _) =>
    simp only [move, waitMove]
    split <;> simp [Thread.pending]
  | .wait (.sleep _ _) =>
    simp only [move, waitMove]
    split <;> simp [Thread.pending]
  | .wait .write => exact Nat.zero_le _
  | .wait (.calls []) => exact Nat.le_refl _
  | .wait (.calls (c :: cs)) =>
    show 0 + weight Thread.pending (callsMove ans sh c cs).2.2 ≤ 0
    rw [weight_pending_tasks]
  | .task k pc =>
    show (taskMove k ans sh pc).2.pending + 0 ≤ 0
    match pc with
    | .start =>
      simp only [taskMove]
      split
      · exact Nat.le_refl _
      · split <;> exact Nat.le_refl _
    | .load =>
      simp only [taskMove]
      split <;> exact Nat.le_refl _
    | .recheck | .buffer | .thermal | .testStop | .loop [] | .loop (_ :: _) | .leave | .reset | .clear =>
      exact Nat.le_refl _

/-- An `OnPowerDisconnected` is about to clear the flag until it has cleared it. -/
theorem disconnecting_move (ans : Answers) (sh : Shared) {t : Thread} (h : t.disconnecting = true) :
    (move ans sh t).2.1.disconnecting = true ∨ (move ans sh t).1.powerConnectedThreadActive = false := by
  match t, h with
  | .event (w :: ws) cs, h =>
    rcases List.mem_cons.mp (of_decide_eq_true h) with rfl | h
    · exact .inr rfl
    · exact .inl (decide_eq_true h)

/-! ## The invariant -/

/-- The tasks that wait are told to stop, or are about to be. -/
def PowerLog.Stopping (g : PowerLog) : Prop :=
  g.machine.shared.powerConnectedThreadActive = false ∨
    ∃ (j : Nat) (u : Thread), g.machine.threads[j]? = some u ∧ u.disconnecting = true

/-- The last power event is a connect at or before `time`. -/
def PowerLog.ConnectedBy (g : PowerLog) (time : Int) : Prop :=
  ∃ connect, g.last = some (.connected connect) ∧ connect ≤ time

/-- What is known of a thread: the connect it belongs to is the last power event, or it will
stop. -/
def PowerLog.ThreadOk (g : PowerLog) : Thread → Prop
  | .connect _ => g.ConnectedBy g.machine.shared.now
  | .wait .start => g.Stopping ∨ g.ConnectedBy g.machine.shared.now
  | .wait (.loop endTime) | .wait (.check endTime) | .wait (.sleep endTime _) =>
    g.Stopping ∨ g.ConnectedBy (endTime - g.machine.shared.relabelWaitTime * SECOND)
  | .wait .write => g.ConnectedBy (g.machine.shared.now - g.machine.shared.relabelWaitTime * SECOND)
  | _ => True

/-- A callback `OnPowerDisconnected` still has to write the power state, or it is off. -/
def PowerLog.DisconnectOk (g : PowerLog) : Thread → Prop
  | .event ws _ => .powerDisconnected ∈ ws ∨ g.machine.shared.powerConnected = false
  | _ => False

structure PowerLog.Fresh (g : PowerLog) : Prop where
  single : weight Thread.pending g.machine.threads ≤ 1
  threads : ∀ (j : Nat) (u : Thread), g.machine.threads[j]? = some u → g.ThreadOk u
  disconnects : ∀ i ∈ g.since, ∃ u, g.machine.threads[i]? = some u ∧ g.DisconnectOk u
  last : g.since ≠ [] → ∃ time, g.last = some (.disconnected time)

theorem PowerLog.ThreadOk.of_pending_zero {g : PowerLog} {u : Thread} (h : u.pending = 0) : g.ThreadOk u := by
  match u, h with
  | .event _ _, _ => exact trivial
  | .wait (.calls _), _ => exact trivial
  | .task _ _, _ => exact trivial

/-- The assertion of a thread survives what others do: time passes, the last event stays, and
who was stopping is still stopping. -/
theorem PowerLog.ThreadOk.mono {g g' : PowerLog} {u : Thread} (h : g.ThreadOk u) (hlast : g'.last = g.last)
    (hwait : g'.machine.shared.relabelWaitTime = g.machine.shared.relabelWaitTime)
    (hnow : g.machine.shared.now ≤ g'.machine.shared.now) (hstop : 0 < u.pending → g.Stopping → g'.Stopping) :
    g'.ThreadOk u := by
  have hby : ∀ {time time' : Int}, time ≤ time' → g.ConnectedBy time → g'.ConnectedBy time' := by
    rintro time time' hle ⟨connect, hc, hct⟩
    exact ⟨connect, hlast.trans hc, by omega⟩
  match u, h with
  | .connect _, h => exact hby hnow h
  | .wait .start, h => exact h.imp (hstop Nat.one_pos) (hby hnow)
  | .wait (.loop endTime), h => exact h.imp (hstop Nat.one_pos) (hby (by rw [hwait]))
  | .wait (.check endTime), h => exact h.imp (hstop Nat.one_pos) (hby (by rw [hwait]))
  | .wait (.sleep endTime _), h => exact h.imp (hstop Nat.one_pos) (hby (by rw [hwait]))
  | .wait .write, h => exact hby (by rw [hwait]; omega) h
  | .wait (.calls _), _ => exact trivial
  | .event _ _, _ => exact trivial
  | .task _ _, _ => exact trivial

/-! ### Steps of threads -/

section Run

variable {g : PowerLog} {i : Nat} {ans : Answers} {t : Thread} (hi : g.machine.threads[i]? = some t)

include hi

theorem run_shared : (g.step (.run i ans)).machine.shared = (move ans g.machine.shared t).1 := by
  show (g.machine.run move i ans).shared = _
  rw [run_of_some hi]

/-- Who was stopping is still stopping, unless an `OnPowerConnected` sets the flag. -/
theorem run_stopping (ht : t ≠ .connect .setActive) (h : g.Stopping) : (g.step (.run i ans)).Stopping := by
  rcases h with hactive | ⟨l, d, hl, hd⟩
  · left
    rw [run_shared hi]
    exact powerThreadActive_move ans _ t hactive ht
  · by_cases hli : l = i
    · subst hli
      rw [hi] at hl
      obtain rfl := Option.some.inj hl
      rcases disconnecting_move ans g.machine.shared hd with hd' | hactive
      · exact .inr ⟨l, _, run_get_self hi, hd'⟩
      · left
        rw [run_shared hi]
        exact hactive
    · exact .inr ⟨l, d, run_get_other hi hl hli, hd⟩

/-- The thread that moves keeps its assertion. -/
theorem run_threadOk_self (hok : g.ThreadOk t) (horder : g.InOrder (.run i ans)) :
    (g.step (.run i ans)).ThreadOk (move ans g.machine.shared t).2.1 := by
  have hnow : (g.step (.run i ans)).machine.shared.now = g.machine.shared.now := by
    rw [run_shared hi]
    exact (move_now ans _ t).1
  have hwait : (g.step (.run i ans)).machine.shared.relabelWaitTime = g.machine.shared.relabelWaitTime := by
    rw [run_shared hi]
    exact (move_now ans _ t).2
  have hconnect : ∀ pc, g.ConnectedBy g.machine.shared.now → (g.step (.run i ans)).ThreadOk (.connect pc) := by
    intro pc h
    show g.ConnectedBy _
    rw [hnow]
    exact h
  have hloop : ∀ endTime pc, pc = .loop endTime ∨ pc = .check endTime ∨ (∃ wake, pc = .sleep endTime wake) →
      g.Stopping ∨ g.ConnectedBy (endTime - g.machine.shared.relabelWaitTime * SECOND) →
      (g.Stopping → (g.step (.run i ans)).Stopping) → (g.step (.run i ans)).ThreadOk (.wait pc) := by
    intro endTime pc hpc h hstop
    have hnext : (g.step (.run i ans)).Stopping ∨
        g.ConnectedBy (endTime - (g.step (.run i ans)).machine.shared.relabelWaitTime * SECOND) := by
      rw [hwait]
      exact h.imp_left hstop
    rcases hpc with rfl | rfl | ⟨wake, rfl⟩
    · exact hnext
    · exact hnext
    · exact hnext
  match t, hi, hok with
  | .event (w :: ws) cs, _, _ => exact trivial
  | .event [] (c :: cs), _, _ => exact trivial
  | .event [] [], _, _ => exact trivial
  | .connect .test, _, hok =>
    simp only [move, connectMove]
    split
    · exact trivial
    · exact hconnect _ hok
  | .connect .setActive, _, hok => exact hconnect _ hok
  | .connect .submit, _, _ => exact trivial
  | .wait .start, hi, hok =>
    refine hloop (g.machine.shared.now + g.machine.shared.relabelWaitTime * SECOND) _ (.inl rfl) ?_ (run_stopping hi (by simp))
    rw [Int.add_sub_cancel]
    exact hok
  | .wait (.loop endTime), hi, hok =>
    simp only [move, waitMove]
    split
    · exact hloop endTime _ (.inr (.inl rfl)) hok (run_stopping hi (by simp))
    · -- the flag is set and nobody is about to clear it, so the connect is the last event
      next hend =>
      have hleaves : g.leavesLoop i = true := by
        unfold PowerLog.leavesLoop
        rw [hi]
        exact decide_eq_true (by omega)
      obtain ⟨hactive, hnone⟩ := horder hleaves
      rcases hok with (hstop | ⟨j, u, hj, hu⟩) | ⟨connect, hlast, hle⟩
      · rw [hstop] at hactive
        cases hactive
      · rw [hnone u (List.mem_of_getElem? hj)] at hu
        cases hu
      · refine ⟨connect, hlast, ?_⟩
        rw [hnow, hwait]
        omega
  | .wait (.check endTime), hi, hok =>
    simp only [move, waitMove]
    split
    · exact hloop endTime _ (.inr (.inr ⟨_, rfl⟩)) hok (run_stopping hi (by simp))
    · exact trivial
  | .wait (.sleep endTime wake), hi, hok =>
    simp only [move, waitMove]
    split
    · exact hloop endTime _ (.inr (.inr ⟨_, rfl⟩)) hok (run_stopping hi (by simp))
    · exact hloop endTime _ (.inl rfl) hok (run_stopping hi (by simp))
  | .wait .write, _, _ => exact trivial
  | .wait (.calls []), _, _ => exact trivial
  | .wait (.calls (c :: cs)), _, _ => exact trivial
  | .task k pc, _, _ =>
    apply PowerLog.ThreadOk.of_pending_zero
    have := move_pending ans g.machine.shared (.task k pc)
    have hzero : (Thread.task k pc).pending = 0 := rfl
    omega

/-- A started task belongs to the connect that submitted it. -/
theorem run_threadOk_started (hok : g.ThreadOk t) {u : Thread} (hu : u ∈ (move ans g.machine.shared t).2.2) :
    (g.step (.run i ans)).ThreadOk u := by
  by_cases ht : t = .connect .submit
  · subst ht
    obtain rfl := List.mem_singleton.mp hu
    right
    show g.ConnectedBy _
    rw [run_shared hi]
    exact hok
  · apply PowerLog.ThreadOk.of_pending_zero
    have hcalls : ∀ c cs, u ∈ (callsMove ans g.machine.shared c cs).2.2 → u.pending = 0 := by
      intro c cs hmem
      obtain ⟨j, hj⟩ := List.getElem?_of_mem hmem
      have := @le_weight _ j u Thread.pending _ hj
      rw [weight_pending_tasks] at this
      omega
    match t, hu with
    | .event (w :: ws) cs, hu => cases hu
    | .event [] (c :: cs), hu => exact hcalls c cs hu
    | .event [] [], hu => cases hu
    | .connect .submit, _ => exact absurd rfl ht
    | .wait (.calls (c :: cs)), hu => exact hcalls c cs hu

/-- A callback `OnPowerDisconnected` that moves: its own write is done or still to come. -/
theorem run_disconnectOk_self (hok : g.DisconnectOk t) :
    (g.step (.run i ans)).DisconnectOk (move ans g.machine.shared t).2.1 := by
  have hoff : t.pending = 0 → g.machine.shared.powerConnected = false →
      (g.step (.run i ans)).machine.shared.powerConnected = false := by
    intro hzero hpower
    rw [run_shared hi, Bool.eq_false_iff]
    intro hrise
    rcases powerConnected_move ans _ t hrise with hon | rfl
    · rw [hpower] at hon
      cases hon
    · cases hzero
  match t, hi, hok, hoff with
  | .event (w :: ws) cs, hi, hok, hoff =>
    rcases hok with hmem | hpower
    · rcases List.mem_cons.mp hmem with rfl | hmem
      · right
        rw [run_shared hi]
        rfl
      · exact .inl hmem
    · exact .inr (hoff rfl hpower)
  | .event [] (c :: cs), _, .inr hpower, hoff => exact .inr (hoff rfl hpower)
  | .event [] [], _, .inr hpower, hoff => exact .inr (hoff rfl hpower)

end Run

variable {g : PowerLog}

/-- **A step of a thread keeps the invariant**, and the task that writes belongs to the last
power event. -/
theorem PowerLog.Fresh.run (h : g.Fresh) (i : Nat) (ans : Answers) (horder : g.InOrder (.run i ans)) :
    (g.step (.run i ans)).Fresh ∧ g.RiseJustified (.run i ans) := by
  rcases hi : g.machine.threads[i]? with _ | t
  · have hsame : g.step (.run i ans) = g := by
      show (⟨g.machine.run move i ans, g.last, g.since⟩ : PowerLog) = g
      rw [run_of_none hi]
    rw [hsame]
    refine ⟨h, fun hoff hon => ?_⟩
    rw [hsame, hoff] at hon
    cases hon
  have hok := h.threads i t hi
  have hmoved := move_now ans g.machine.shared t
  have hrise : (g.step (.run i ans)).machine.shared.powerConnected = true →
      g.machine.shared.powerConnected = true ∨ t = .wait .write := by
    intro hon
    rw [run_shared hi] at hon
    exact powerConnected_move ans _ t hon
  refine ⟨⟨?_, ?_, ?_, h.last⟩, ?_⟩
  · have hweight := @weight_run _ _ _ move g.machine i ans t Thread.pending hi
    have hpending := move_pending ans g.machine.shared t
    have hsingle := h.single
    show weight Thread.pending (g.machine.run move i ans).threads ≤ 1
    omega
  · intro j u hj
    rcases run_get hi hj with ⟨rfl, rfl⟩ | ⟨hji, hj⟩ | ⟨-, hu⟩
    · exact run_threadOk_self hi hok horder
    · refine (h.threads j u hj).mono rfl ?_ ?_ ?_
      · rw [run_shared hi]
        exact hmoved.2
      · rw [run_shared hi, hmoved.1]
      · intro hu
        apply run_stopping hi
        -- two threads that wait to write
        rintro rfl
        have htwo := @two_le_weight _ i j (.connect .setActive) u Thread.pending g.machine.threads hi hj (Ne.symm hji)
        have hone : (Thread.connect .setActive).pending = 1 := rfl
        have hsingle := h.single
        omega
    · exact run_threadOk_started hi hok hu
  · intro l hl
    obtain ⟨u, hu, hdis⟩ := h.disconnects l hl
    by_cases hli : l = i
    · subst hli
      rw [hi] at hu
      obtain rfl := Option.some.inj hu
      exact ⟨_, run_get_self hi, run_disconnectOk_self hi hdis⟩
    · refine ⟨u, run_get_other hi hu hli, ?_⟩
      match u, hdis with
      | .event ws cs, hdis =>
        refine hdis.imp_right fun hoff => ?_
        rw [Bool.eq_false_iff]
        intro hon
        rcases hrise hon with hon | rfl
        · rw [hoff] at hon
          cases hon
        · -- a write means that the last event is a connect
          obtain ⟨connect, hlast, -⟩ := hok
          obtain ⟨time, hlast'⟩ := h.last (List.ne_nil_of_mem hl)
          rw [hlast] at hlast'
          cases hlast'
  · intro hoff hon
    rcases hrise hon with hon | rfl
    · rw [hoff] at hon
      cases hon
    · obtain ⟨connect, hlast, hle⟩ := hok
      exact ⟨connect, hlast, by omega⟩

/-- A callback begins or time passes: the state is as it was. -/
theorem PowerLog.Fresh.grow {g' : PowerLog} (h : g.Fresh) {e : Thread} (hpending : e.pending = 0)
    (hthreads : g'.machine.threads = g.machine.threads ++ [e]) (hshared : g'.machine.shared = g.machine.shared)
    (hlast : g'.last = g.last) (hsince : g'.since = g.since) : g'.Fresh := by
  have hold : ∀ {j : Nat} {u : Thread}, g.machine.threads[j]? = some u → g'.machine.threads[j]? = some u := by
    intro j u hj
    obtain ⟨hlt, -⟩ := List.getElem?_eq_some_iff.mp hj
    rw [hthreads, List.getElem?_append_left hlt]
    exact hj
  refine ⟨?_, ?_, ?_, ?_⟩
  · rw [hthreads, weight_append, weight_cons, weight_nil, hpending]
    exact h.single
  · intro j u hj
    have hj' : (g.machine.start e).threads[j]? = some u := by
      rw [hthreads] at hj
      exact hj
    rcases start_get hj' with hj | ⟨-, rfl⟩
    · refine (h.threads j u hj).mono hlast (by rw [hshared]) (by rw [hshared]) fun _ hstop => ?_
      rcases hstop with hactive | ⟨l, d, hl, hd⟩
      · left
        rw [hshared]
        exact hactive
      · exact .inr ⟨l, d, hold hl, hd⟩
    · exact .of_pending_zero hpending
  · rw [hsince]
    intro l hl
    obtain ⟨u, hu, hdis⟩ := h.disconnects l hl
    refine ⟨u, hold hu, ?_⟩
    match u, hdis with
    | .event ws cs, hdis =>
      show _ ∨ g'.machine.shared.powerConnected = false
      rw [hshared]
      exact hdis
  · rw [hsince, hlast]
    exact h.last

theorem fresh_connect (horder : g.InOrder (.event .onPowerConnected)) :
    (g.step (.event .onPowerConnected)).Fresh := by
  have hzero : weight Thread.pending g.machine.threads = 0 := by
    by_contra hne
    obtain ⟨j, u, hj, hu⟩ := @exists_of_weight_pos _ Thread.pending g.machine.threads (by omega)
    have := horder u (List.mem_of_getElem? hj)
    omega
  refine ⟨?_, ?_, ?_, ?_⟩
  · show weight Thread.pending (g.machine.threads ++ [.connect .test]) ≤ 1
    rw [weight_append, hzero]
    exact Nat.le_refl 1
  · intro j u hj
    rcases start_get hj with hj | ⟨-, rfl⟩
    · exact .of_pending_zero (horder u (List.mem_of_getElem? hj))
    · exact ⟨g.machine.shared.now, rfl, Int.le_refl _⟩
  · intro l hl
    cases hl
  · intro hne
    exact absurd rfl hne

theorem PowerLog.Fresh.disconnect (h : g.Fresh) (horder : g.InOrder (.event .onPowerDisconnected)) :
    (g.step (.event .onPowerDisconnected)).Fresh := by
  have hnew : (g.step (.event .onPowerDisconnected)).machine.threads[g.machine.threads.length]? =
      some Event.onPowerDisconnected.thread := by
    show (g.machine.threads ++ [Event.onPowerDisconnected.thread])[g.machine.threads.length]? = _
    simp
  have hstopping : (g.step (.event .onPowerDisconnected)).Stopping :=
    .inr ⟨_, _, hnew, rfl⟩
  refine ⟨?_, ?_, ?_, fun _ => ⟨_, rfl⟩⟩
  · show weight Thread.pending (g.machine.threads ++ [Event.onPowerDisconnected.thread]) ≤ 1
    rw [weight_append]
    exact h.single
  · -- whoever waits is being told to stop
    intro j u hj
    rcases start_get hj with hj | ⟨-, rfl⟩
    · have hfree := horder u (List.mem_of_getElem? hj)
      match u, hfree with
      | .event _ _, _ => exact trivial
      | .connect _, hfree => cases hfree
      | .wait .start, _ => exact .inl hstopping
      | .wait (.loop _), _ => exact .inl hstopping
      | .wait (.check _), _ => exact .inl hstopping
      | .wait (.sleep _ _), _ => exact .inl hstopping
      | .wait .write, hfree => cases hfree
      | .wait (.calls _), _ => exact trivial
      | .task _ _, _ => exact trivial
    · exact trivial
  · intro l hl
    rcases List.mem_append.mp hl with hl | hl
    · obtain ⟨u, hu, hdis⟩ := h.disconnects l hl
      obtain ⟨hlt, -⟩ := List.getElem?_eq_some_iff.mp hu
      refine ⟨u, ?_, ?_⟩
      · show (g.machine.threads ++ [Event.onPowerDisconnected.thread])[l]? = some u
        rw [List.getElem?_append_left hlt]
        exact hu
      · match u, hdis with
        | .event ws cs, hdis => exact hdis
    · rw [List.mem_singleton.mp hl]
      exact ⟨_, hnew, .inl List.mem_cons_self⟩

/-- Only the two power callbacks are about power. -/
theorem pending_event_thread (e : Event) (h : e ≠ .onPowerConnected) : e.thread.pending = 0 := by
  cases e with
  | onPowerConnected => exact absurd rfl h
  | handleOnTrim level => cases level <;> rfl
  | onBatteryChanged cap capacity =>
    simp only [Event.thread, onBatteryChanged]
    split <;> rfl
  | onThermalLevelChanged belowWarm => cases belowWarm <;> rfl
  | _ => rfl

theorem PowerLog.Fresh.step (h : g.Fresh) (op : Op) (horder : g.InOrder op) :
    (g.step op).Fresh ∧ g.RiseJustified op := by
  have quiet : (g.step op).machine.shared.powerConnected = g.machine.shared.powerConnected → g.RiseJustified op := by
    intro hsame hoff hon
    rw [hsame, hoff] at hon
    cases hon
  match op, horder, quiet with
  | .run i ans, horder, _ => exact h.run i ans horder
  | .tick elapsed, _, quiet =>
    refine ⟨⟨h.single, fun j u hj => ?_, ?_, h.last⟩, quiet rfl⟩
    · refine (h.threads j u hj).mono rfl rfl ?_ fun _ hstop => hstop
      show g.machine.shared.now ≤ g.machine.shared.now + elapsed
      omega
    · intro l hl
      obtain ⟨u, hu, hdis⟩ := h.disconnects l hl
      refine ⟨u, hu, ?_⟩
      match u, hdis with
      | .event ws cs, hdis => exact hdis
  | .event .onPowerConnected, horder, quiet => exact ⟨fresh_connect horder, quiet rfl⟩
  | .event .onPowerDisconnected, horder, quiet => exact ⟨h.disconnect horder, quiet rfl⟩
  | .event .onScreenLocked, _, quiet | .event .onScreenUnlocked, _, quiet | .event (.onUserUnlocked _), _, quiet
  | .event (.onUserStopping _), _, quiet | .event (.handleOnTrim _), _, quiet
  | .event (.onBatteryChanged _ _), _, quiet | .event (.onThermalLevelChanged _), _, quiet
  | .event (.onConfigChanged _), _, quiet | .event .addTask, _, quiet =>
    exact ⟨h.grow (pending_event_thread _ (by simp)) rfl rfl rfl rfl, quiet rfl⟩

theorem PowerLog.Fresh.notStale (h : g.Fresh) : g.NotStale := by
  intro i hi hdone
  obtain ⟨u, hu, hdis⟩ := h.disconnects i hi
  rw [hdone] at hu
  obtain rfl := Option.some.inj hu
  rcases hdis with hmem | hoff
  · cases hmem
  · exact hoff

theorem fresh_init (relabelWaitTime : Int) : (PowerLog.init relabelWaitTime).Fresh :=
  ⟨Nat.zero_le 1, fun j u hj => (by simp [PowerLog.init, Machine.init] at hj), fun i hi => (by cases hi),
    fun hne => absurd rfl hne⟩

/-- **When the power state is never stale**: in a run without the races, it is off in every
state after an `OnPowerDisconnected` has returned until power is connected again, and it is
switched on only by a connect that is the last power event and the configured time old. -/
theorem power_state_fresh (relabelWaitTime : Int) (ops : List Op)
    (hops : Each PowerLog.step PowerLog.InOrder (PowerLog.init relabelWaitTime) ops) :
    StepRun.Always PowerLog.step PowerLog.NotStale (PowerLog.init relabelWaitTime) ops ∧
    Each PowerLog.step PowerLog.RiseJustified (PowerLog.init relabelWaitTime) ops := by
  constructor
  · intro pre hpre
    exact (hops.always (fun g op h horder => (h.step op horder).1) (fresh_init relabelWaitTime) pre hpre).notStale
  · exact hops.guarantee (fun g op h horder => h.step op horder) (fresh_init relabelWaitTime)

/-- Power is connected, and the task sleeps for the one second it has to wait. -/
def pluggedIn : List Op :=
  [.event .onPowerConnected] ++ stepsOf .none 0 3 ++ stepsOf .none 1 3 ++ [.tick 1000000000] ++ stepsOf .none 1 2

/-- The task writes before power is disconnected. -/
def powerOnThenUnplug : List Op := pluggedIn ++ stepsOf .none 1 1 ++ [.event .onPowerDisconnected] ++ stepsOf .none 2 5

/-- The theorem at this run. -/
theorem power_state_fresh_plugged :
    StepRun.Always PowerLog.step PowerLog.NotStale (PowerLog.init 1) powerOnThenUnplug ∧
    Each PowerLog.step PowerLog.RiseJustified (PowerLog.init 1) powerOnThenUnplug :=
  power_state_fresh 1 powerOnThenUnplug (by decide +kernel)

/-- The task leaves its loop, power is disconnected, and the task writes. -/
def powerOnAfterUnplug : List Op := pluggedIn ++ [.event .onPowerDisconnected] ++ stepsOf .none 2 5 ++ stepsOf .none 1 1

/-- **A stale power state**: `OnPowerDisconnected` has returned and the power state is on. -/
theorem power_on_after_unplug :
    ¬ (StepRun.Always PowerLog.step PowerLog.NotStale (PowerLog.init 1) powerOnAfterUnplug ∧
      Each PowerLog.step PowerLog.RiseJustified (PowerLog.init 1) powerOnAfterUnplug) := by
  rintro ⟨h, -⟩
  have hoff := h.last 2 (by decide +kernel) (by decide +kernel)
  revert hoff
  decide +kernel

end BundleFramework.Idle
