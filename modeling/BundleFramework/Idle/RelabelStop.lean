import BundleFramework.Idle.Exclusion

/-!
# Interrupting a relabel

The callbacks that end the idle state call `InterruptRelabel`, which sets `needStop_` when a
relabel is armed; the relabel tests `needStop_` before every bundle.  But
`StartUpdateSelinuxLabel` clears `needStop_` when it begins, after the conditions were checked
the last time: an interrupt that came between arming and this point is lost.

`RelabelLog` adds to the machine whether an interrupting callback has returned since the
relabel was armed.  `NotTooEarly` asks that none has passed its `InterruptRelabel` when
`StartUpdateSelinuxLabel` begins, and then no bundle is started after an interrupt
(`no_interrupt_lost`); `interruptedEarly` is a run in which one is.
-/

namespace BundleFramework.Idle

open ThreadPool StepRun

/-! ## Interrupting callbacks -/

def Call.isInterrupt : Call → Bool
  | .interrupt _ _ => true
  | _ => false

def Call.isRelabelInterrupt : Call → Bool
  | .interrupt .relabel _ => true
  | _ => false

/-- A callback that interrupts and has not returned. -/
def Thread.interrupting : Thread → Bool
  | .event _ cs => cs.any Call.isInterrupt
  | _ => false

/-- A callback that interrupts, is past its `InterruptRelabel` and has not returned. -/
def Thread.pastRelabel : Thread → Bool
  | .event _ cs => cs.any Call.isInterrupt && !cs.any Call.isRelabelInterrupt
  | _ => false

/-- The machine, and whether an interrupting callback has returned while the relabel was
armed. -/
structure RelabelLog where
  machine : Machine
  interrupted : Bool

def RelabelLog.init (relabelWaitTime : Int) : RelabelLog := ⟨Machine.init relabelWaitTime, false⟩

def RelabelLog.step (g : RelabelLog) (op : Op) : RelabelLog :=
  let machine := Idle.step g.machine op
  match op with
  | .run i ans =>
    match g.machine.threads[i]? with
    | none => ⟨machine, g.interrupted⟩
    | some t =>
      if !g.machine.shared.active .relabel then ⟨machine, false⟩
      else if t.interrupting && (move ans g.machine.shared t).2.1 = .done then ⟨machine, true⟩
      else ⟨machine, g.interrupted⟩
  | _ => ⟨machine, g.interrupted⟩

/-- The step starts `SetFileConForce` for a bundle. -/
def Machine.setsFileCon (m : Machine) : Op → Bool
  | .run i ans =>
    match m.threads[i]? with
    | some (.task .relabel (.loop (_ :: _))) => starts .relabel ans m.shared
    | _ => false
  | _ => false

/-- No bundle is started once an interrupting callback has returned. -/
def RelabelLog.Respected (g : RelabelLog) (op : Op) : Prop :=
  g.machine.setsFileCon op = true → g.interrupted = false

/-- The step is the beginning of `StartUpdateSelinuxLabel`. -/
def Machine.beginsRelabel (m : Machine) : Op → Bool
  | .run i _ => m.threads[i]? = some (.task .relabel .start)
  | _ => false

/-- When `StartUpdateSelinuxLabel` begins, no interrupting callback has passed its
`InterruptRelabel` since the relabel was armed. -/
def RelabelLog.NotTooEarly (g : RelabelLog) (op : Op) : Prop :=
  g.machine.beginsRelabel op = true →
    g.interrupted = false ∧ ∀ t ∈ g.machine.threads, t.pastRelabel = false

instance (g : RelabelLog) (op : Op) : Decidable (g.NotTooEarly op) :=
  inferInstanceAs (Decidable (g.machine.beginsRelabel op = true → _ ∧ _))

/-! ## One step -/

/-- What is left of a call is a call of the same sort. -/
theorem callMove_sort {ans : Answers} {sh : Shared} {c c' : Call} (h : (callMove ans sh c).2.1 = some c') :
    c'.isInterrupt = c.isInterrupt ∧ c'.isRelabelInterrupt = c.isRelabelInterrupt := by
  match c with
  | .tryStart k .check =>
    simp only [callMove] at h
    split at h
    · obtain rfl := Option.some.inj h
      exact ⟨rfl, rfl⟩
    · cases h
  | .tryStart k .external =>
    simp only [callMove] at h
    split at h
    · obtain rfl := Option.some.inj h
      exact ⟨rfl, rfl⟩
    · cases h
  | .tryStart k .arm =>
    simp only [callMove] at h
    split at h
    · obtain rfl := Option.some.inj h
      exact ⟨rfl, rfl⟩
    · cases h
  | .tryStart k .spawn => cases h
  | .interrupt k .test =>
    simp only [callMove] at h
    split at h
    · obtain rfl := Option.some.inj h
      cases k <;> exact ⟨rfl, rfl⟩
    · cases h
  | .interrupt k .load =>
    simp only [callMove] at h
    split at h
    · cases h
    · obtain rfl := Option.some.inj h
      cases k <;> exact ⟨rfl, rfl⟩
  | .interrupt k .store => cases h

/-- `InterruptRelabel` returns, while a relabel is armed, with `needStop_` set. -/
theorem callMove_stops {ans : Answers} {sh : Shared} {c : Call} (hc : c.isRelabelInterrupt = true)
    (hactive : sh.active .relabel = true) (h : (callMove ans sh c).2.1 = none) :
    (callMove ans sh c).1.stopRequested .relabel = true := by
  match c, hc with
  | .interrupt .relabel .test, _ =>
    simp [callMove, hactive] at h
  | .interrupt .relabel .load, _ =>
    simp only [callMove] at h ⊢
    split at h
    · next hstop => exact hstop
    · cases h
  | .interrupt .relabel .store, _ => simp [callMove, Shared.setStop]

/-- Only callbacks interrupt. -/
theorem pastRelabel_move_of_not_event {ans : Answers} {sh : Shared} {t : Thread} (ht : ∀ ws cs, t ≠ .event ws cs) :
    (move ans sh t).2.1.pastRelabel = false := by
  match t with
  | .event ws cs => exact absurd rfl (ht ws cs)
  | .connect .test =>
    simp only [move, connectMove]
    split <;> rfl
  | .connect .setActive | .connect .submit => rfl
  | .wait (.check _) =>
    simp only [move, waitMove]
    split <;> rfl
  | .wait .start | .wait (.loop _) | .wait (.sleep _ _) | .wait .write | .wait (.calls []) | .wait (.calls (_ :: _)) =>
    rfl
  | .task k pc =>
    show (taskMove k ans sh pc).2.pastRelabel = false
    rcases taskMove_progress k ans sh pc with ⟨e, -⟩ | ⟨pc', e, -⟩
    · rw [e]
      rfl
    · rw [e]
      rfl

/-- **A callback passes its `InterruptRelabel`** only with `needStop_` set, when a relabel is
armed. -/
theorem move_passes (ans : Answers) (sh : Shared) (t : Thread) (hactive : sh.active .relabel = true)
    (hpass : (move ans sh t).2.1.pastRelabel = true ∨
      (t.interrupting = true ∧ (move ans sh t).2.1 = .done)) :
    t.pastRelabel = true ∨ (move ans sh t).1.stopRequested .relabel = true := by
  match t with
  | .event (w :: ws) cs =>
    rcases hpass with hpast | ⟨hint, hdone⟩
    · exact .inl hpast
    · obtain ⟨-, rfl⟩ : ws = [] ∧ cs = [] := by simpa [move] using hdone
      cases hint
  | .event [] (c :: cs) =>
    by_cases hrel : (c :: cs).any Call.isRelabelInterrupt = true
    swap
    · -- no `InterruptRelabel` among its calls
      left
      have hint : (c :: cs).any Call.isInterrupt = true := by
        rcases hpass with hpast | ⟨hint, -⟩
        · have hany : ((callMove ans sh c).2.1.toList ++ cs).any Call.isInterrupt = true :=
            (Bool.and_eq_true_iff.mp hpast).1
          rw [List.any_append, Bool.or_eq_true] at hany
          rw [List.any_cons, Bool.or_eq_true]
          refine hany.imp_left fun hc => ?_
          rcases hnext : (callMove ans sh c).2.1 with _ | c'
          · rw [hnext] at hc
            cases hc
          · rw [hnext] at hc
            have hc' : c'.isInterrupt = true := by simpa using hc
            rw [← (callMove_sort hnext).1]
            exact hc'
        · exact hint
      show ((c :: cs).any Call.isInterrupt && !(c :: cs).any Call.isRelabelInterrupt) = true
      rw [hint, Bool.eq_false_iff.mpr hrel]
      rfl
    · -- the call at its head was the last one, and it has returned
      right
      have hnone : ((callMove ans sh c).2.1.toList ++ cs).any Call.isRelabelInterrupt = false := by
        rcases hpass with hpast | ⟨-, hdone⟩
        · exact Bool.not_inj (Bool.and_eq_true_iff.mp hpast).2
        · have hempty : (callMove ans sh c).2.1.toList ++ cs = [] := by
            simpa [move, callsMove] using hdone
          rw [hempty]
          rfl
      rw [List.any_append, Bool.or_eq_false_iff] at hnone
      rw [List.any_cons, hnone.2, Bool.or_false] at hrel
      refine callMove_stops hrel hactive ?_
      rcases hnext : (callMove ans sh c).2.1 with _ | c'
      · rfl
      · have hc' : c'.isRelabelInterrupt = true := (callMove_sort hnext).2.trans hrel
        rw [hnext] at hnone
        simp [hc'] at hnone
  | .event [] [] =>
    rcases hpass with hpast | ⟨hint, -⟩
    · cases hpast
    · cases hint
  | .connect pc | .wait pc | .task _ pc =>
    rcases hpass with hpast | ⟨hint, -⟩
    · rw [pastRelabel_move_of_not_event (by simp)] at hpast
      cases hpast
    · cases hint

/-! ## The invariant -/

/-- An interrupting callback has returned, or is past its `InterruptRelabel`. -/
def RelabelLog.Interrupted (g : RelabelLog) : Prop :=
  g.interrupted = true ∨ ∃ (j : Nat) (u : Thread), g.machine.threads[j]? = some u ∧ u.pastRelabel = true

/-- The relabel is past the point where it clears `needStop_`. -/
def TaskPc.relabelling : TaskPc → Bool
  | .testStop => true
  | .load => true
  | .loop _ => true
  | _ => false

/-- A relabel that is under way sees the interrupts. -/
structure RelabelLog.Heard (g : RelabelLog) : Prop where
  owned : Owned g.machine
  stop : ∀ (j : Nat) pc, g.machine.threads[j]? = some (.task .relabel pc) → pc.relabelling = true →
    g.Interrupted → g.machine.shared.stopRequested .relabel = true

variable {g : RelabelLog}

theorem pastRelabel_started {ans : Answers} {sh : Shared} {t u : Thread} (h : u ∈ (move ans sh t).2.2) :
    u.pastRelabel = false := by
  rcases move_started h with rfl | ⟨k, rfl⟩
  · rfl
  · rfl

/-- Callbacks begin before their `InterruptRelabel`. -/
theorem pastRelabel_event_thread (e : Event) : e.thread.pastRelabel = false := by
  cases e with
  | handleOnTrim level => cases level <;> rfl
  | onBatteryChanged cap capacity =>
    simp only [Event.thread, onBatteryChanged]
    split <;> rfl
  | onThermalLevelChanged belowWarm => cases belowWarm <;> rfl
  | _ => rfl

/-- Who is at a place where it relabels came from another one, or has just begun. -/
theorem relabelling_from {ans : Answers} {sh : Shared} {t : Thread} {pc : TaskPc}
    (h : (move ans sh t).2.1 = .task .relabel pc) (hpc : pc.relabelling = true) :
    t = .task .relabel .start ∨ ∃ pc₀, t = .task .relabel pc₀ ∧ pc₀.relabelling = true := by
  obtain ⟨pc₀, rfl, hmove⟩ := task_of_move h
  match pc₀, hmove with
  | .start, _ => exact .inl rfl
  | .testStop, _ => exact .inr ⟨_, rfl, rfl⟩
  | .load, _ => exact .inr ⟨_, rfl, rfl⟩
  | .loop items, _ => exact .inr ⟨_, rfl, rfl⟩
  | .recheck, hmove | .buffer, hmove | .thermal, hmove =>
    simp only [taskMove, Thread.task.injEq, true_and] at hmove
    rw [← hmove] at hpc
    split at hpc <;> cases hpc
  | .leave, hmove | .reset, hmove =>
    simp only [taskMove, Thread.task.injEq, true_and] at hmove
    rw [← hmove] at hpc
    cases hpc
  | .clear, hmove => cases hmove

/-! ## Runs -/

theorem step_machine (g : RelabelLog) (op : Op) : (g.step op).machine = Idle.step g.machine op := by
  match op with
  | .event e => rfl
  | .tick elapsed => rfl
  | .run i ans =>
    simp only [RelabelLog.step]
    split
    · rfl
    · split
      · rfl
      · split <;> rfl

/-- While a relabel is armed, an interrupt was there before or has set `needStop_`. -/
theorem interrupted_of_run {i : Nat} {ans : Answers} {t : Thread} (hi : g.machine.threads[i]? = some t)
    (hactive : g.machine.shared.active .relabel = true) (h : (g.step (.run i ans)).Interrupted) :
    g.Interrupted ∨ (move ans g.machine.shared t).1.stopRequested .relabel = true := by
  have passes : (move ans g.machine.shared t).2.1.pastRelabel = true ∨
      (t.interrupting = true ∧ (move ans g.machine.shared t).2.1 = .done) →
      g.Interrupted ∨ (move ans g.machine.shared t).1.stopRequested .relabel = true := fun hpass =>
    (move_passes ans g.machine.shared t hactive hpass).imp_left fun hpast => .inr ⟨i, t, hi, hpast⟩
  rcases h with hint | ⟨j, u, hj, hu⟩
  · simp only [RelabelLog.step, hi, hactive, Bool.not_true, Bool.false_eq_true, if_false] at hint
    split at hint
    · next hend =>
      rw [Bool.and_eq_true, decide_eq_true_eq] at hend
      exact passes (.inr hend)
    · exact .inl (.inl hint)
  · rw [step_machine] at hj
    rcases run_get hi hj with ⟨-, rfl⟩ | ⟨-, hj⟩ | ⟨-, hmem⟩
    · exact passes (.inl hu)
    · exact .inl (.inr ⟨j, u, hj, hu⟩)
    · rw [pastRelabel_started hmem] at hu
      cases hu

theorem RelabelLog.Heard.run (h : g.Heard) (i : Nat) (ans : Answers) (hok : g.NotTooEarly (.run i ans)) :
    (g.step (.run i ans)).Heard := by
  have hmachine : (g.step (.run i ans)).machine = g.machine.run move i ans := step_machine g _
  refine ⟨by rw [step_machine]; exact h.owned.step _, fun j pc hj hpc hint => ?_⟩
  rcases hi : g.machine.threads[i]? with _ | t
  · have hsame : g.step (.run i ans) = g := by
      simp only [RelabelLog.step, hi]
      show (⟨g.machine.run move i ans, g.interrupted⟩ : RelabelLog) = g
      rw [run_of_none hi]
    rw [hsame] at hj hint ⊢
    exact h.stop j pc hj hpc hint
  have hshared : (g.step (.run i ans)).machine.shared = (move ans g.machine.shared t).1 := by
    rw [hmachine, run_of_some hi]
  rw [hshared]
  rw [hmachine] at hj
  rcases run_get hi hj with ⟨rfl, hself⟩ | ⟨hji, hj⟩ | ⟨-, hmem⟩
  · rcases relabelling_from hself.symm hpc with rfl | ⟨pc₀, rfl, hpc₀⟩
    · -- it has just begun: no interrupt so far
      obtain ⟨hnone, hpast⟩ := hok (decide_eq_true hi)
      rcases interrupted_of_run hi (active_of_task h.owned hi) hint with (hwas | ⟨l, u, hl, hu⟩) | hstop
      · rw [hnone] at hwas
        cases hwas
      · rw [hpast u (List.mem_of_getElem? hl)] at hu
        cases hu
      · exact hstop
    · rcases interrupted_of_run hi (active_of_task h.owned hi) hint with hwas | hstop
      · have hset := h.stop j pc₀ hi hpc₀ hwas
        rcases move_stop ans g.machine.shared (.task .relabel pc₀) .relabel with e | ⟨-, e⟩ | ⟨⟨e, -⟩ | e, -⟩
        · rw [e]
          exact hset
        · exact e
        · cases e
          cases hpc₀
        · cases e
          cases hpc₀
      · exact hstop
  · rcases interrupted_of_run hi (active_of_task h.owned hj) hint with hwas | hstop
    · refine stop_of_not_task (h.stop j pc hj hpc hwas) fun pc' e => ?_
      rw [e] at hi
      exact hji (task_unique h.owned hj hi)
    · exact hstop
  · rcases move_started hmem with e | ⟨k, e⟩
    · cases e
    · cases e
      cases hpc

theorem RelabelLog.Heard.respected (h : g.Heard) (op : Op) : g.Respected op := by
  intro hsets
  match op with
  | .event e => cases hsets
  | .tick elapsed => cases hsets
  | .run i ans =>
    simp only [Machine.setsFileCon] at hsets
    split at hsets
    · next item rest hi =>
      by_contra hint
      have hstop := h.stop i _ hi rfl (.inl (by simpa using hint))
      unfold starts at hsets
      rw [hstop] at hsets
      cases hsets
    · cases hsets

theorem RelabelLog.Heard.step (h : g.Heard) (op : Op) (hok : g.NotTooEarly op) : (g.step op).Heard := by
  match op, hok with
  | .run i ans, hok => exact h.run i ans hok
  | .tick elapsed, _ => exact ⟨h.owned.step (.tick elapsed), h.stop⟩
  | .event e, _ =>
    refine ⟨h.owned.step (.event e), fun j pc hj hpc hint => ?_⟩
    rcases start_get hj with hj | ⟨-, e'⟩
    · refine h.stop j pc hj hpc (hint.imp_right ?_)
      rintro ⟨l, u, hl, hu⟩
      rcases start_get hl with hl | ⟨-, rfl⟩
      · exact ⟨l, u, hl, hu⟩
      · rw [pastRelabel_event_thread] at hu
        cases hu
    · exact absurd e'.symm (event_thread_ne_task e _ _)

theorem heard_init (relabelWaitTime : Int) : (RelabelLog.init relabelWaitTime).Heard :=
  ⟨owned_init relabelWaitTime, fun j pc hj => (by simp [RelabelLog.init, Machine.init] at hj)⟩

/-- **When no relabel interrupt is lost**: in a run in which `StartUpdateSelinuxLabel` never
begins after an interrupting callback has passed its `InterruptRelabel`, no bundle is started
once such a callback has returned. -/
theorem no_interrupt_lost (relabelWaitTime : Int) (ops : List Op)
    (hops : Each RelabelLog.step RelabelLog.NotTooEarly (RelabelLog.init relabelWaitTime) ops) :
    Each RelabelLog.step RelabelLog.Respected (RelabelLog.init relabelWaitTime) ops :=
  hops.guarantee (fun _ op h hok => ⟨h.step op hok, h.respected op⟩) (heard_init relabelWaitTime)

/-- The screen is locked, a relabel is armed, and its task has checked the conditions. -/
def relabelArmed : List Op :=
  conditionsOn ++ [.event .onScreenLocked] ++ stepsOf .ready 4 5 ++ stepsOf .none 4 2 ++ stepsOf .ready 5 3

/-- `StartUpdateSelinuxLabel` begins, and then the screen is unlocked. -/
def interruptedInTime : List Op :=
  relabelArmed ++ stepsOf .ready 5 2 ++ [.event .onScreenUnlocked] ++ stepsOf .none 6 6 ++ stepsOf .ready 5 2

/-- The theorem at this run. -/
theorem no_interrupt_lost_inTime :
    Each RelabelLog.step RelabelLog.Respected (RelabelLog.init 0) interruptedInTime :=
  no_interrupt_lost 0 interruptedInTime (by decide +kernel)

/-- The screen is unlocked first; then the relabel begins and comes to its bundle. -/
def interruptedEarly : List Op :=
  relabelArmed ++ [.event .onScreenUnlocked] ++ stepsOf .none 6 6 ++ stepsOf .ready 5 3

instance (g : RelabelLog) (op : Op) : Decidable (g.Respected op) :=
  inferInstanceAs (Decidable (g.machine.setsFileCon op = true → _))

/-- **A lost interrupt**: the bundle is relabelled after `OnScreenUnlocked` has returned. -/
theorem interrupt_lost : ¬ Each RelabelLog.step RelabelLog.Respected (RelabelLog.init 0) interruptedEarly := by
  decide +kernel

end BundleFramework.Idle
