import BundleFramework.Idle.Exclusion

/-!
# Stopping a scan

`StopScan` sets `stopRequested_`, which the scan tests before it begins and before every
application, and which the guard of `StartScan` clears.  A task that ends on its own check of
the conditions never comes to that guard, and a stop can also arrive behind it: the flag is
then still set when the next scan is armed, and aborts it.  The file category scan is built
the same way.

`ScanLog` adds to the machine whether a stop was issued since the scan was armed.  That a
stop is obeyed needs no condition (`ScanLog.Obeyed`); that a scan is aborted only by a stop of
its own holds in a run in which no stop is left behind (`scan_stop_exact`), and
`stopLeftBehind` is a run in which one is.
-/

namespace BundleFramework.Idle

open ThreadPool StepRun

/-- The machine, and for each kind whether a stop was issued since it was armed. -/
structure ScanLog where
  machine : Machine
  stopped : Kind → Bool

def ScanLog.init (relabelWaitTime : Int) : ScanLog := ⟨Machine.init relabelWaitTime, fun _ => false⟩

def ScanLog.step (g : ScanLog) (op : Op) : ScanLog :=
  let machine := Idle.step g.machine op
  match op with
  | .run i _ =>
    match g.machine.threads[i]? with
    | none => ⟨machine, g.stopped⟩
    | some t => ⟨machine, fun k =>
        if g.machine.shared.active k then t.call? = some (.interrupt k .store) || g.stopped k else false⟩
  | _ => ⟨machine, g.stopped⟩

/-- The step starts the scan of an application. -/
def Machine.startsApp (m : Machine) (k : Kind) : Op → Bool
  | .run i ans =>
    match m.threads[i]? with
    | some (.task j (.loop (_ :: _))) => j = k && starts k ans m.shared
    | _ => false
  | _ => false

/-- The step finds the stop flag set, before the scan or before an application. -/
def Machine.aborts (m : Machine) (k : Kind) : Op → Bool
  | .run i _ =>
    match m.threads[i]? with
    | some (.task j .testStop) => j = k && m.shared.stopRequested k
    | some (.task j (.loop (_ :: _))) => j = k && m.shared.stopRequested k
    | _ => false
  | _ => false

/-- A scan starts no application after it was stopped. -/
def ScanLog.Obeyed (g : ScanLog) (k : Kind) (op : Op) : Prop :=
  g.machine.startsApp k op = true → g.stopped k = false

/-- A scan is aborted only by a stop issued since it was armed. -/
def ScanLog.OwnStop (g : ScanLog) (k : Kind) (op : Op) : Prop :=
  g.machine.aborts k op = true → g.stopped k = true

/-! ## The condition -/

/-- The task ends without having passed the guard of its scan. -/
def Machine.givesUp (m : Machine) (k : Kind) : Op → Bool
  | .run i ans =>
    match m.threads[i]? with
    | some (.task j pc) => j = k && pc ≠ .reset && (taskMove k ans m.shared pc).2 = .task k .clear
    | _ => false
  | _ => false

/-- `StopScan` or `StopFileCategoryScan`. -/
def Machine.issuesStop (m : Machine) (k : Kind) : Op → Bool
  | .run i _ => (m.threads[i]?.bind Thread.call?) = some (.interrupt k .store)
  | _ => false

/-- No stop is left behind: a task that was told to stop does not end before its scan, and a
stop is issued only while a scan is armed and has not passed its guard. -/
def ScanLog.CleanFor (g : ScanLog) (k : Kind) (op : Op) : Prop :=
  (g.machine.givesUp k op = true → g.machine.shared.stopRequested k = false) ∧
  (g.machine.issuesStop k op = true →
    g.machine.shared.active k = true ∧ .task k .clear ∉ g.machine.threads)

def ScanLog.Clean (g : ScanLog) (op : Op) : Prop := g.CleanFor .scan op ∧ g.CleanFor .fileCategory op

instance (g : ScanLog) (op : Op) : Decidable (g.Clean op) :=
  inferInstanceAs (Decidable (((_ → _) ∧ (_ → _ ∧ _)) ∧ (_ → _) ∧ (_ → _ ∧ _)))

/-! ## One step -/

variable {g : ScanLog} {k : Kind} {i : Nat} {ans : Answers} {t : Thread}

theorem scanStep_machine (g : ScanLog) (op : Op) : (g.step op).machine = Idle.step g.machine op := by
  match op with
  | .event e => rfl
  | .tick elapsed => rfl
  | .run i ans =>
    simp only [ScanLog.step]
    split <;> rfl

theorem scanStep_of_none (hi : g.machine.threads[i]? = none) : g.step (.run i ans) = g := by
  simp only [ScanLog.step, hi]
  show (⟨g.machine.run move i ans, g.stopped⟩ : ScanLog) = g
  rw [run_of_none hi]

theorem scanStep_stopped (hi : g.machine.threads[i]? = some t) :
    (g.step (.run i ans)).stopped k = true ↔
      g.machine.shared.active k = true ∧ (t.call? = some (.interrupt k .store) ∨ g.stopped k = true) := by
  simp only [ScanLog.step, hi]
  split
  · next hactive => simp [hactive]
  · next hactive => simp [hactive]

/-- The write of an interrupt. -/
theorem store_move (ans : Answers) (sh : Shared) (h : t.call? = some (.interrupt k .store)) :
    (move ans sh t).1 = sh.setStop k true := by
  match t, h with
  | .event [] (c :: cs), h =>
    obtain rfl := Option.some.inj h
    rfl
  | .wait (.calls (c :: cs)), h =>
    obtain rfl := Option.some.inj h
    rfl

/-- Only the last step of the task clears its flag. -/
theorem active_move (ans : Answers) {sh : Shared} (hactive : sh.active k = true) (ht : t ≠ .task k .clear) :
    (move ans sh t).1.active k = true := by
  rcases move_active ans sh t with e | ⟨j, hfree, -⟩ | ⟨j, rfl, e⟩
  · rw [e]
    exact hactive
  · rw [hfree k] at hactive
    cases hactive
  · rw [e, Function.update_of_ne]
    · exact hactive
    · rintro rfl
      exact ht rfl

/-! ## A stop is obeyed -/

/-- A scan that was stopped has the flag set, until its guard has cleared it. -/
structure ScanLog.Heeds (g : ScanLog) : Prop where
  owned : Owned g.machine
  stop : ∀ k, k ≠ .relabel → g.machine.shared.active k = true → g.stopped k = true →
    g.machine.shared.stopRequested k = true ∨ .task k .clear ∈ g.machine.threads

theorem ScanLog.Heeds.run (h : g.Heeds) (i : Nat) (ans : Answers) : (g.step (.run i ans)).Heeds := by
  have hmachine : (g.step (.run i ans)).machine = g.machine.run move i ans := scanStep_machine g _
  refine ⟨by rw [scanStep_machine]; exact h.owned.step _, fun k hk hactive' hstopped => ?_⟩
  rcases hi : g.machine.threads[i]? with _ | t
  · rw [scanStep_of_none hi] at hactive' hstopped ⊢
    exact h.stop k hk hactive' hstopped
  obtain ⟨hactive, hstopped⟩ := (scanStep_stopped hi).mp hstopped
  have hself : (move ans g.machine.shared t).2.1 ∈ (g.machine.run move i ans).threads :=
    List.mem_of_getElem? (run_get_self hi)
  have hshared : (g.machine.run move i ans).shared = (move ans g.machine.shared t).1 := by rw [run_of_some hi]
  rw [hmachine, hshared] at hactive' ⊢
  rcases hstopped with hstore | hstopped
  · left
    rw [store_move ans _ hstore, setStop_stopRequested, if_pos rfl]
  · rcases h.stop k hk hactive hstopped with hstop | hclear
    · rcases move_stop ans g.machine.shared t k with e | ⟨-, e⟩ | ⟨⟨-, hrel⟩ | rfl, -⟩
      · exact .inl (e.trans hstop)
      · exact .inl e
      · exact absurd hrel hk
      · -- the guard clears it, and the scan is over
        exact .inr hself
    · refine .inr (mem_run_of_ne hi hclear ?_)
      rintro rfl
      rw [show (move ans g.machine.shared (.task k .clear)).1 = g.machine.shared.setActive k false from rfl,
        setActive_active, if_pos rfl] at hactive'
      cases hactive'

theorem ScanLog.Heeds.step (h : g.Heeds) (op : Op) : (g.step op).Heeds := by
  match op with
  | .run i ans => exact h.run i ans
  | .tick elapsed => exact ⟨h.owned.step (.tick elapsed), h.stop⟩
  | .event e =>
    refine ⟨h.owned.step (.event e), fun k hk hactive hstopped => ?_⟩
    exact (h.stop k hk hactive hstopped).imp_right (List.mem_append_left _)

/-- **A stop is obeyed**, in every state. -/
theorem ScanLog.Heeds.obeyed (h : g.Heeds) (hk : k ≠ .relabel) (op : Op) : g.Obeyed k op := by
  intro hstarts
  match op with
  | .event e => cases hstarts
  | .tick elapsed => cases hstarts
  | .run i ans =>
    simp only [Machine.startsApp] at hstarts
    split at hstarts
    · next j item rest hi =>
      rw [Bool.and_eq_true, decide_eq_true_eq] at hstarts
      obtain ⟨rfl, hstarts⟩ := hstarts
      by_contra hstopped
      rcases h.stop j hk (active_of_task h.owned hi) (by simpa using hstopped) with hstop | hclear
      · unfold starts at hstarts
        rw [hstop] at hstarts
        cases hstarts
      · -- two tasks of one kind
        obtain ⟨l, hl⟩ := List.mem_iff_getElem?.mp hclear
        obtain rfl := task_unique h.owned hi hl
        rw [hi] at hl
        cases hl
    · cases hstarts

theorem heeds_init (relabelWaitTime : Int) : (ScanLog.init relabelWaitTime).Heeds :=
  ⟨owned_init relabelWaitTime, fun _ _ hactive => (by cases hactive)⟩

/-! ## A stop hits no later scan -/

/-- A stop flag that is set belongs to the scan that is armed. -/
structure ScanLog.Exact (g : ScanLog) : Prop extends g.Heeds where
  own : ∀ k, k ≠ .relabel → g.machine.shared.stopRequested k = true →
    g.machine.shared.active k = true ∧ g.stopped k = true ∧ .task k .clear ∉ g.machine.threads

theorem ScanLog.Clean.for {op : Op} (h : g.Clean op) (hk : k ≠ .relabel) : g.CleanFor k op := by
  cases k with
  | relabel => exact absurd rfl hk
  | scan => exact h.1
  | fileCategory => exact h.2

/-- A task comes to its last step through its guard, or gives up. -/
theorem clear_run (hi : g.machine.threads[i]? = some t)
    (h : .task k .clear ∈ (g.machine.run move i ans).threads) :
    .task k .clear ∈ g.machine.threads ∨ t = .task k .reset ∨ g.machine.givesUp k (.run i ans) = true := by
  obtain ⟨j, hj⟩ := List.mem_iff_getElem?.mp h
  rcases run_get hi hj with ⟨-, e⟩ | ⟨-, hj⟩ | ⟨-, hmem⟩
  · obtain ⟨pc₀, rfl, hmove⟩ := task_of_move e.symm
    by_cases hreset : pc₀ = .reset
    · exact .inr (.inl (by rw [hreset]))
    · right
      right
      simp only [Machine.givesUp, hi]
      simp [hreset, hmove]
  · exact .inl (List.mem_of_getElem? hj)
  · rcases move_started hmem with e | ⟨l, e⟩
    · cases e
    · cases e

theorem ScanLog.Exact.run (h : g.Exact) (i : Nat) (ans : Answers) (hclean : g.Clean (.run i ans)) :
    (g.step (.run i ans)).Exact := by
  have hmachine : (g.step (.run i ans)).machine = g.machine.run move i ans := scanStep_machine g _
  refine ⟨h.toHeeds.run i ans, fun k hk hstop' => ?_⟩
  obtain ⟨hgives, hissues⟩ := hclean.for hk
  rcases hi : g.machine.threads[i]? with _ | t
  · rw [scanStep_of_none hi] at hstop' ⊢
    exact h.own k hk hstop'
  have hshared : (g.machine.run move i ans).shared = (move ans g.machine.shared t).1 := by rw [run_of_some hi]
  rw [scanStep_stopped hi, hmachine, hshared]
  rw [hmachine, hshared] at hstop'
  rcases move_stop ans g.machine.shared t k with e | ⟨hstore, -⟩ | ⟨-, e⟩
  · -- the flag was set before
    rw [e] at hstop'
    obtain ⟨hactive, hstopped, hclear⟩ := h.own k hk hstop'
    have ht : t ≠ .task k .clear := by
      rintro rfl
      exact hclear (List.mem_of_getElem? hi)
    refine ⟨active_move ans hactive ht, ⟨hactive, .inr hstopped⟩, fun hclear' => ?_⟩
    rcases clear_run hi hclear' with hclear' | rfl | hgivesUp
    · exact hclear hclear'
    · have hcleared : (move ans g.machine.shared (.task k .reset)).1.stopRequested k = false := by
        simp [move, taskMove]
      rw [e, hstop'] at hcleared
      cases hcleared
    · rw [hgives hgivesUp] at hstop'
      cases hstop'
  · -- it is set by this step
    have hissued : g.machine.issuesStop k (.run i ans) = true := by
      simp only [Machine.issuesStop, hi]
      exact decide_eq_true hstore
    obtain ⟨hactive, hclear⟩ := hissues hissued
    have htask : ∀ pc, t ≠ .task k pc := by
      rintro pc rfl
      cases hstore
    refine ⟨active_move ans hactive (htask _), ⟨hactive, .inl hstore⟩, fun hclear' => ?_⟩
    rcases clear_run hi hclear' with hclear' | rfl | hgivesUp
    · exact hclear hclear'
    · exact htask _ rfl
    · simp only [Machine.givesUp, hi] at hgivesUp
      split at hgivesUp
      · next j pc heq =>
        rw [Option.some.inj heq] at hstore
        cases hstore
      · cases hgivesUp
  · rw [e] at hstop'
    cases hstop'

theorem ScanLog.Exact.step (h : g.Exact) (op : Op) (hclean : g.Clean op) : (g.step op).Exact := by
  match op, hclean with
  | .run i ans, hclean => exact h.run i ans hclean
  | .tick elapsed, _ => exact ⟨h.toHeeds.step (.tick elapsed), h.own⟩
  | .event e, _ =>
    refine ⟨h.toHeeds.step (.event e), fun k hk hstop => ?_⟩
    obtain ⟨hactive, hstopped, hclear⟩ := h.own k hk hstop
    refine ⟨hactive, hstopped, fun hmem => ?_⟩
    rcases List.mem_append.mp hmem with hmem | hmem
    · exact hclear hmem
    · exact event_thread_ne_task e _ _ (List.mem_singleton.mp hmem).symm

theorem ScanLog.Exact.ownStop (h : g.Exact) (hk : k ≠ .relabel) (op : Op) : g.OwnStop k op := by
  intro haborts
  have hstop : g.machine.shared.stopRequested k = true := by
    match op with
    | .event e => cases haborts
    | .tick elapsed => cases haborts
    | .run i ans =>
      simp only [Machine.aborts] at haborts
      split at haborts
      · exact (Bool.and_eq_true_iff.mp haborts).2
      · exact (Bool.and_eq_true_iff.mp haborts).2
      · cases haborts
  exact (h.own k hk hstop).2.1

/-- **When a stop hits exactly its scan**: a scan that was stopped since it was armed starts no
further application, and in a run in which no stop is left behind a scan is aborted only by a
stop issued since it was armed. -/
theorem scan_stop_exact (relabelWaitTime : Int) (ops : List Op)
    (hops : Each ScanLog.step ScanLog.Clean (ScanLog.init relabelWaitTime) ops) (k : Kind) (hk : k ≠ .relabel) :
    Each ScanLog.step (fun g op => g.Obeyed k op ∧ g.OwnStop k op) (ScanLog.init relabelWaitTime) ops := by
  have hinit : (ScanLog.init relabelWaitTime).Exact :=
    ⟨heeds_init relabelWaitTime, fun _ _ hstop => (by cases hstop)⟩
  refine hops.guarantee (fun g op h hclean => ?_) hinit
  exact ⟨h.step op hclean, h.toHeeds.obeyed hk op, h.ownStop hk op⟩

/-- The screen is locked and a scan of the application data is armed. -/
def scanArmed : List Op :=
  conditionsOn ++ [.event .onScreenLocked] ++ stepsOf .none 4 2 ++ stepsOf .ready 4 4 ++ stepsOf .none 4 1

/-- The scan has begun when the screen is unlocked, and ends through its guard. -/
def stopInScan : List Op :=
  scanArmed ++ stepsOf .ready 5 6 ++ [.event .onScreenUnlocked] ++ stepsOf .none 6 5 ++ stepsOf .ready 5 4

/-- The theorem at this run. -/
theorem scan_stop_exact_inScan :
    Each ScanLog.step (fun g op => g.Obeyed .scan op ∧ g.OwnStop .scan op) (ScanLog.init 0) stopInScan :=
  scan_stop_exact 0 stopInScan (by decide +kernel) .scan (by decide)

/-- The screen is unlocked before the task checks the conditions, so that it ends there; then
the screen is locked, and a new scan is armed and begins. -/
def stopLeftBehind : List Op :=
  scanArmed ++ [.event .onScreenUnlocked] ++ stepsOf .none 6 5 ++ stepsOf .ready 5 2 ++
    [.event .onScreenLocked] ++ stepsOf .none 7 2 ++ stepsOf .ready 7 4 ++ stepsOf .none 7 1 ++ stepsOf .ready 8 5

instance (g : ScanLog) (k : Kind) (op : Op) : Decidable (g.OwnStop k op) :=
  inferInstanceAs (Decidable (g.machine.aborts k op = true → _))

instance (g : ScanLog) (k : Kind) (op : Op) : Decidable (g.Obeyed k op) :=
  inferInstanceAs (Decidable (g.machine.startsApp k op = true → _))

/-- **A stop hits the next scan**: nobody has stopped it since it was armed. -/
theorem stop_hits_next_scan :
    ¬ Each ScanLog.step (fun g op => g.Obeyed .scan op ∧ g.OwnStop .scan op) (ScanLog.init 0) stopLeftBehind := by
  decide +kernel

end BundleFramework.Idle
