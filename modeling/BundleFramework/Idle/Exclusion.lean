import BundleFramework.Idle.Manager

/-!
# One kind of idle work at a time

A flag is armed under the lock by a callback, handed to the thread the callback starts, and
cleared by the guard of that thread.  `Thread.own` counts what a thread holds: a callback
between arming and starting the thread holds the flag, and so does the started task up to its
last step.

`Owned` is the invariant of every run: what all threads hold of a kind is what its flag says,
and at most one flag is set.  It gives mutual exclusion, exactly one owner for every flag that
is set, and no task without its flag (`idle_tasks_exclusive`).
-/

namespace BundleFramework.Idle

open ThreadPool StepRun

/-! ## Ownership -/

def Call.own (k : Kind) : Call → Nat
  | .tryStart j .spawn => if j = k then 1 else 0
  | _ => 0

def callsOwn (k : Kind) (cs : List Call) : Nat := weight (Call.own k) cs

def Thread.own (k : Kind) : Thread → Nat
  | .event _ cs => callsOwn k cs
  | .connect _ => 0
  | .wait (.calls cs) => callsOwn k cs
  | .wait _ => 0
  | .task j _ => if j = k then 1 else 0

/-- The flag as a number. -/
def Shared.armed (sh : Shared) (k : Kind) : Nat := (sh.active k).toNat

/-- At most one flag is set. -/
def Shared.Exclusive (sh : Shared) : Prop := ∀ k j, sh.active k = true → sh.active j = true → k = j

/-- What the threads hold is what the flags say. -/
structure Owned (m : Machine) : Prop where
  balance : ∀ k, weight (Thread.own k) m.threads = m.shared.armed k
  exclusive : m.shared.Exclusive

/-! ## One step -/

theorem armed_setActive (sh : Shared) (j k : Kind) (value : Bool) :
    (sh.setActive j value).armed k = if k = j then value.toNat else sh.armed k := by
  unfold Shared.armed
  rw [setActive_active]
  split <;> rfl

/-- A step of a call moves a flag from the state to the call, or from the call to the task. -/
theorem callMove_balance (ans : Answers) (sh : Shared) (c : Call) (k : Kind) :
    weight (Call.own k) (callMove ans sh c).2.1.toList +
        weight (Thread.own k) ((callMove ans sh c).2.2.toList.map fun j => .task j .recheck) + sh.armed k =
      c.own k + (callMove ans sh c).1.armed k := by
  match c with
  | .tryStart j .check =>
    simp only [callMove]
    split <;> simp [Call.own]
  | .tryStart j .external =>
    simp only [callMove]
    split <;> simp [Call.own]
  | .tryStart j .arm =>
    simp only [callMove]
    rcases harm : arm j sh with _ | sh'
    · simp [Call.own]
    · obtain ⟨hfree, rfl⟩ := arm_some harm
      have hk : sh.armed k = 0 := by
        unfold Shared.armed
        rw [hfree k]
        rfl
      simp only [Option.toList_some, Option.toList_none, weight_cons, weight_nil, Call.own, armed_setActive,
        List.map_nil]
      by_cases hjk : j = k
      · rw [if_pos hjk, if_pos hjk.symm, hk]
        rfl
      · rw [if_neg hjk, if_neg (Ne.symm hjk)]
  | .tryStart j .spawn => simp [callMove, Call.own, Thread.own]
  | .interrupt j .test =>
    simp only [callMove]
    split <;> simp [Call.own]
  | .interrupt j .load =>
    simp only [callMove]
    split <;> simp [Call.own]
  | .interrupt j .store => simp [callMove, Call.own, Shared.armed, Shared.setStop]

theorem callsMove_balance (ans : Answers) (sh : Shared) (c : Call) (cs : List Call) (k : Kind) :
    callsOwn k (callsMove ans sh c cs).2.1 + weight (Thread.own k) (callsMove ans sh c cs).2.2 + sh.armed k =
      callsOwn k (c :: cs) + (callsMove ans sh c cs).1.armed k := by
  have := callMove_balance ans sh c k
  unfold callsOwn callsMove
  simp only [weight_append, weight_cons]
  omega

theorem taskMove_balance (j : Kind) (ans : Answers) (sh : Shared) (pc : TaskPc) (k : Kind)
    (hown : j = k → sh.armed k = 1) :
    (taskMove j ans sh pc).2.own k + sh.armed k = (if j = k then 1 else 0) + (taskMove j ans sh pc).1.armed k := by
  have hstop : ∀ value, (sh.setStop j value).armed k = sh.armed k := fun _ => rfl
  have hscan : ∀ value, (sh.setScanning j value).armed k = sh.armed k := fun _ => rfl
  match pc with
  | .clear =>
    simp only [taskMove, armed_setActive, Thread.own, callsOwn, weight_nil]
    by_cases hjk : j = k
    · rw [if_pos hjk, if_pos hjk.symm, hown hjk]
      rfl
    · rw [if_neg hjk, if_neg (Ne.symm hjk)]
  | .start =>
    simp only [taskMove]
    split
    · simp [Thread.own, hstop]
    · split <;> simp [Thread.own, hscan]
  | .load =>
    simp only [taskMove]
    split <;> simp [Thread.own]
  | .recheck | .buffer | .thermal | .testStop | .loop [] | .loop (_ :: _) => simp [taskMove, Thread.own]
  | .leave => simp [taskMove, Thread.own, hscan]
  | .reset => simp [taskMove, Thread.own, hstop]

theorem write_armed (sh : Shared) (w : Write) (k : Kind) : (w.apply sh).armed k = sh.armed k := by
  cases w <;> rfl

/-- **One step keeps the balance**: the thread and what it starts gain what the flag gains. -/
theorem move_balance (ans : Answers) (sh : Shared) (t : Thread) (k : Kind) (hown : t.own k ≤ sh.armed k) :
    (move ans sh t).2.1.own k + weight (Thread.own k) (move ans sh t).2.2 + sh.armed k =
      t.own k + (move ans sh t).1.armed k := by
  match t with
  | .event (w :: ws) cs => simp [move, Thread.own, write_armed]
  | .event [] (c :: cs) => exact callsMove_balance ans sh c cs k
  | .event [] [] => simp [move]
  | .connect .test =>
    simp only [move, connectMove]
    split <;> simp [Thread.own, callsOwn]
  | .connect .setActive => simp [move, connectMove, Thread.own, Shared.armed]
  | .connect .submit => simp [move, connectMove, Thread.own, callsOwn]
  | .wait (.calls []) => simp [move, waitMove, Thread.own, callsOwn, Shared.armed]
  | .wait (.calls (c :: cs)) => exact callsMove_balance ans sh c cs k
  | .wait .start => simp [move, waitMove, Thread.own]
  | .wait (.loop endTime) =>
    simp only [move, waitMove]
    split <;> simp [Thread.own]
  | .wait (.check endTime) =>
    simp only [move, waitMove]
    split <;> simp [Thread.own, callsOwn]
  | .wait (.sleep endTime wake) =>
    simp only [move, waitMove]
    split <;> simp [Thread.own]
  | .wait .write => simp [move, waitMove, Thread.own, callsOwn, tryStarts, Call.own, Shared.armed]
  | .task j pc =>
    have htask := taskMove_balance j ans sh pc k fun hjk => by
      have hle : sh.armed k ≤ 1 := Bool.toNat_le _
      simp only [Thread.own, if_pos hjk] at hown
      omega
    simpa [move, Thread.own] using htask

/-- What a step can do to the flags: nothing, arm one while all are clear, clear one. -/
theorem move_active (ans : Answers) (sh : Shared) (t : Thread) :
    (move ans sh t).1.active = sh.active ∨
    (∃ k, (∀ j, sh.active j = false) ∧ (move ans sh t).1.active = Function.update sh.active k true) ∨
    ∃ k, t = .task k .clear ∧ (move ans sh t).1.active = Function.update sh.active k false := by
  have hcalls : ∀ c cs, (callsMove ans sh c cs).1.active = sh.active ∨
      ∃ k, (∀ j, sh.active j = false) ∧ (callsMove ans sh c cs).1.active = Function.update sh.active k true := by
    intro c cs
    show (callMove ans sh c).1.active = _ ∨ ∃ k, _ ∧ (callMove ans sh c).1.active = _
    rcases callMove_shared ans sh c with e | ⟨k, -, hfree, e⟩ | ⟨k, -, e⟩
    · exact .inl (by rw [e])
    · exact .inr ⟨k, hfree, by rw [e]; rfl⟩
    · exact .inl (by rw [e]; rfl)
  match t with
  | .event (w :: ws) cs => exact .inl (by cases w <;> rfl)
  | .event [] (c :: cs) => exact (hcalls c cs).imp_right .inl
  | .event [] [] => exact .inl rfl
  | .connect .test | .connect .setActive | .connect .submit => exact .inl rfl
  | .wait (.calls (c :: cs)) => exact (hcalls c cs).imp_right .inl
  | .wait (.calls []) | .wait .start | .wait (.loop _) | .wait (.check _) | .wait (.sleep _ _) | .wait .write =>
    exact .inl rfl
  | .task k pc =>
    show (taskMove k ans sh pc).1.active = _ ∨ (∃ j, _ ∧ (taskMove k ans sh pc).1.active = _) ∨
      ∃ j, _ ∧ (taskMove k ans sh pc).1.active = _
    rcases taskMove_shared k ans sh pc with e | ⟨-, -, e⟩ | ⟨-, -, -, e⟩ | ⟨-, e⟩ | ⟨-, e⟩ | ⟨rfl, e⟩
    · exact .inl (by rw [e])
    · exact .inl (by rw [e]; rfl)
    · exact .inl (by rw [e]; rfl)
    · exact .inl (by rw [e]; rfl)
    · exact .inl (by rw [e]; rfl)
    · exact .inr (.inr ⟨k, rfl, by rw [e]; rfl⟩)

theorem Shared.Exclusive.move {sh : Shared} (h : sh.Exclusive) (ans : Answers) (t : Thread) :
    (move ans sh t).1.Exclusive := by
  intro k j hk hj
  rcases move_active ans sh t with e | ⟨i, hfree, e⟩ | ⟨i, -, e⟩
  · rw [e] at hk hj
    exact h k j hk hj
  · have only : ∀ l, Function.update sh.active i true l = true → l = i := by
      intro l hl
      by_contra hne
      rw [Function.update_of_ne hne, hfree l] at hl
      cases hl
    rw [e] at hk hj
    rw [only k hk, only j hj]
  · have still : ∀ l, Function.update sh.active i false l = true → sh.active l = true := by
      intro l hl
      rw [Function.update_apply] at hl
      split at hl
      · cases hl
      · exact hl
    rw [e] at hk hj
    exact h k j (still k hk) (still j hj)

/-- Callbacks begin with nothing armed. -/
theorem own_event_thread (e : Event) (k : Kind) : e.thread.own k = 0 := by
  cases e with
  | handleOnTrim level => cases level <;> rfl
  | onBatteryChanged cap capacity =>
    simp only [Event.thread, onBatteryChanged]
    split <;> rfl
  | onThermalLevelChanged belowWarm => cases belowWarm <;> rfl
  | _ => rfl

/-! ## Runs -/

theorem Owned.step {m : Machine} (h : Owned m) (op : Op) : Owned (step m op) := by
  match op with
  | .event e =>
    refine ⟨fun k => ?_, h.exclusive⟩
    show weight (Thread.own k) (m.threads ++ [e.thread]) = m.shared.armed k
    rw [weight_append, h.balance, weight_cons, weight_nil, own_event_thread, Nat.add_zero]
  | .tick elapsed => exact ⟨h.balance, h.exclusive⟩
  | .run i ans =>
    show Owned (m.run move i ans)
    rcases ht : m.threads[i]? with _ | t
    · rw [run_of_none ht]
      exact h
    · refine ⟨fun k => ?_, ?_⟩
      · have hle : t.own k ≤ m.shared.armed k := by
          rw [← h.balance k]
          exact le_weight ht
        have hweight := @weight_run _ _ _ move m i ans t (Thread.own k) ht
        have hmove := move_balance ans m.shared t k hle
        have hbalance := h.balance k
        have hshared : (m.run move i ans).shared = (move ans m.shared t).1 := by rw [run_of_some ht]
        rw [hshared]
        omega
      · rw [run_of_some ht]
        exact h.exclusive.move ans t

theorem owned_init (relabelWaitTime : Int) : Owned (Machine.init relabelWaitTime) :=
  ⟨fun _ => rfl, fun _ _ hk => by cases hk⟩

theorem owned_run (relabelWaitTime : Int) (ops : List Op) : Owned (ops.foldl step (Machine.init relabelWaitTime)) := by
  have hops : Each step (fun _ _ => True) (Machine.init relabelWaitTime) ops :=
    each_of_forall (fun _ _ => trivial) _
  exact (hops.always (fun m op hm _ => hm.step op) (owned_init relabelWaitTime)).last

/-- A task runs with its flag set. -/
theorem active_of_task {m : Machine} (h : Owned m) {j : Nat} {k : Kind} {pc : TaskPc}
    (hj : m.threads[j]? = some (.task k pc)) : m.shared.active k = true := by
  have hle := @le_weight _ j (.task k pc) (Thread.own k) m.threads hj
  rw [h.balance k] at hle
  simp only [Thread.own, if_pos, Shared.armed] at hle
  rcases hactive : m.shared.active k with _ | _
  · rw [hactive] at hle
    simp at hle
  · rfl

theorem task_unique {m : Machine} (h : Owned m) {i j : Nat} {k : Kind} {pc pc' : TaskPc}
    (hi : m.threads[i]? = some (.task k pc)) (hj : m.threads[j]? = some (.task k pc')) : i = j := by
  by_contra hne
  have htwo := @two_le_weight _ i j (.task k pc) (.task k pc') (Thread.own k) m.threads hi hj hne
  rw [h.balance k] at htwo
  have hle : m.shared.armed k ≤ 1 := Bool.toNat_le _
  simp only [Thread.own, if_pos] at htwo
  omega

/-- A stop flag that is set stays set while a task of another kind, or none, moves. -/
theorem stop_of_not_task {ans : Answers} {sh : Shared} {t : Thread} {k : Kind} (hstop : sh.stopRequested k = true)
    (ht : ∀ pc, t ≠ .task k pc) : (move ans sh t).1.stopRequested k = true := by
  rcases move_stop ans sh t k with e | ⟨-, e⟩ | ⟨⟨rfl, -⟩ | rfl, -⟩
  · rw [e]
    exact hstop
  · exact e
  · exact absurd rfl (ht _)
  · exact absurd rfl (ht _)

/-- Where a task is on its way to the guard: the phase, then the items left. -/
def TaskPc.phase : TaskPc → Nat
  | .recheck => 9
  | .buffer => 8
  | .thermal => 7
  | .start => 6
  | .testStop => 5
  | .load => 4
  | .loop _ => 3
  | .leave => 2
  | .reset => 1
  | .clear => 0

def TaskPc.itemsLeft : TaskPc → Nat
  | .loop items => items.length
  | _ => 0

/-- The order in which a task passes its places; it has no way back. -/
def TaskPc.Before (pc pc' : TaskPc) : Prop := Prod.Lex (· < ·) (· < ·) (pc.phase, pc.itemsLeft) (pc'.phase, pc'.itemsLeft)

theorem TaskPc.wellFounded_before : WellFounded TaskPc.Before :=
  InvImage.wf (fun pc : TaskPc => (pc.phase, pc.itemsLeft)) (Prod.lex Nat.lt_wfRel Nat.lt_wfRel).wf

theorem exit_phase (k : Kind) : (TaskPc.exit k).phase ≤ 2 := by
  cases k <;> decide

/-- A step of a task is its last one, which clears the flag, or brings it closer to that. -/
theorem taskMove_progress (k : Kind) (ans : Answers) (sh : Shared) (pc : TaskPc) :
    ((taskMove k ans sh pc).2 = .done ∧ (taskMove k ans sh pc).1.active k = false) ∨
    ∃ pc', (taskMove k ans sh pc).2 = .task k pc' ∧ pc'.Before pc := by
  have hexit := exit_phase k
  have lower : ∀ {pc' : TaskPc}, pc'.phase < pc.phase → pc'.Before pc := fun h => Prod.Lex.left _ _ h
  match pc with
  | .clear => exact .inl ⟨rfl, by simp [taskMove, Shared.setActive]⟩
  | .recheck => exact .inr ⟨_, rfl, lower (by split <;> decide)⟩
  | .buffer => exact .inr ⟨_, rfl, lower (by split <;> decide)⟩
  | .thermal => exact .inr ⟨_, rfl, lower (by split <;> decide)⟩
  | .start =>
    simp only [taskMove]
    split
    · exact .inr ⟨_, rfl, lower (by decide)⟩
    · split
      · exact .inr ⟨_, rfl, lower (by decide)⟩
      · exact .inr ⟨_, rfl, lower (by decide)⟩
  | .testStop => exact .inr ⟨_, rfl, lower (by split <;> decide)⟩
  | .load =>
    simp only [taskMove]
    split
    · exact .inr ⟨_, rfl, lower (Nat.lt_of_le_of_lt hexit (by simp [TaskPc.phase]))⟩
    · exact .inr ⟨_, rfl, lower (by simp [TaskPc.phase])⟩
  | .loop [] => exact .inr ⟨_, rfl, lower (Nat.lt_of_le_of_lt hexit (by simp [TaskPc.phase]))⟩
  | .loop (item :: rest) =>
    refine .inr ⟨_, rfl, ?_⟩
    have hrest : (TaskPc.loop rest).Before (.loop (item :: rest)) := Prod.Lex.right _ (by simp [TaskPc.itemsLeft])
    have hout : (TaskPc.exit k).Before (.loop (item :: rest)) := lower (Nat.lt_of_le_of_lt hexit (by simp [TaskPc.phase]))
    unfold loopMove
    split
    · exact hout
    · split
      · exact hrest
      · split
        · exact hout
        · exact hrest
  | .leave => exact .inr ⟨_, rfl, lower (by decide)⟩
  | .reset => exact .inr ⟨_, rfl, lower (by decide)⟩

/-- Only a task goes on as a task. -/
theorem task_of_move {ans : Answers} {sh : Shared} {t : Thread} {k : Kind} {pc : TaskPc}
    (h : (move ans sh t).2.1 = .task k pc) : ∃ pc₀, t = .task k pc₀ ∧ (taskMove k ans sh pc₀).2 = .task k pc := by
  match t with
  | .event (w :: ws) cs => cases h
  | .event [] (c :: cs) => cases h
  | .event [] [] => cases h
  | .connect .test =>
    simp only [move, connectMove] at h
    split at h <;> cases h
  | .connect .setActive | .connect .submit => cases h
  | .wait (.check _) =>
    simp only [move, waitMove] at h
    split at h <;> cases h
  | .wait .start | .wait (.loop _) | .wait (.sleep _ _) | .wait .write | .wait (.calls []) | .wait (.calls (_ :: _)) =>
    cases h
  | .task j pc₀ =>
    have h' : (taskMove j ans sh pc₀).2 = .task k pc := h
    obtain rfl : j = k := by
      rcases taskMove_progress j ans sh pc₀ with ⟨e, -⟩ | ⟨pc', e, -⟩
      · rw [e] at h'
        cases h'
      · rw [e] at h'
        injection h'
    exact ⟨pc₀, rfl, h'⟩

/-- The thread holds the flag: it has armed it and not yet started the task, or is the task. -/
def Thread.Owns (t : Thread) (k : Kind) : Prop := 0 < t.own k

/-- **One kind of idle work at a time.**  In every state of every run at most one flag is set;
a flag that is set has exactly one owner, an owner has its flag; and a task goes on to its last
step, which clears the flag. -/
theorem idle_tasks_exclusive (relabelWaitTime : Int) (ops : List Op) :
    let m := ops.foldl step (Machine.init relabelWaitTime)
    (∀ k j, m.shared.active k = true → m.shared.active j = true → k = j) ∧
    (∀ k, m.shared.active k = true → ∃! i : Nat, ∃ t : Thread, m.threads[i]? = some t ∧ t.Owns k) ∧
    (∀ (i : Nat) (t : Thread) k, m.threads[i]? = some t → t.Owns k → m.shared.active k = true) ∧
    (∀ (i : Nat) k pc ans, m.threads[i]? = some (.task k pc) →
      ((step m (.run i ans)).threads[i]? = some .done ∧ (step m (.run i ans)).shared.active k = false) ∨
      ∃ pc', (step m (.run i ans)).threads[i]? = some (.task k pc') ∧ pc'.Before pc) ∧
    WellFounded TaskPc.Before := by
  intro m
  have hm : Owned m := owned_run relabelWaitTime ops
  refine ⟨hm.exclusive, ?_, ?_, ?_, TaskPc.wellFounded_before⟩
  · intro k hk
    have hbalance := hm.balance k
    have hone : m.shared.armed k = 1 := by
      unfold Shared.armed
      rw [hk]
      rfl
    obtain ⟨i, t, hi, ht⟩ := @exists_of_weight_pos _ (Thread.own k) m.threads (by omega)
    refine ⟨i, ⟨t, hi, ht⟩, ?_⟩
    rintro j ⟨u, hj, hu⟩
    by_contra hne
    have htwo := @two_le_weight _ i j t u (Thread.own k) m.threads hi hj (Ne.symm hne)
    unfold Thread.Owns at hu
    omega
  · intro i t k hi ht
    have hle := @le_weight _ i t (Thread.own k) m.threads hi
    rw [hm.balance k] at hle
    unfold Thread.Owns at ht
    unfold Shared.armed at hle
    rcases hactive : m.shared.active k with _ | _
    · rw [hactive] at hle
      simp only [Bool.toNat_false] at hle
      omega
    · rfl
  · intro i k pc ans hi
    have hself : (step m (.run i ans)).threads[i]? = some (taskMove k ans m.shared pc).2 := run_get_self hi
    have hshared : (step m (.run i ans)).shared = (taskMove k ans m.shared pc).1 := by
      show (m.run move i ans).shared = _
      rw [run_of_some hi]
      rfl
    rw [hself, hshared]
    rcases taskMove_progress k ans m.shared pc with ⟨hdone, hclear⟩ | ⟨pc', hpc', hbefore⟩
    · rw [hdone]
      exact .inl ⟨rfl, hclear⟩
    · rw [hpc']
      exact .inr ⟨pc', rfl, hbefore⟩

end BundleFramework.Idle
