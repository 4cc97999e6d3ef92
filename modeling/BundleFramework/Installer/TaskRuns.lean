import BundleFramework.Installer.TaskPool

/-!
# Runs of the installer tasks

In every state of every run (`tasks_safe`):

    no operation runs beside a switch, no switch beside another one
    for each request, outcomes + tasks on their way = requests made
    while the pool is being closed nothing is queued and nothing runs, and one thread closes it

No request waits for good (`tasks_end`): a thread that goes on has less to do, and when none can
go on the pool is closed and each request has had its outcome.
-/

namespace BundleFramework.InstallerTasks

open ThreadPool

/-! ## The invariant -/

structure Inv (c : Config) (p : Manager) : Prop where
  books : Books c p.shared fun w => weight w p.threads
  flags : Flags c p.shared (weight counted p.threads)

/-- A thread that carries nothing yet. -/
structure Fresh (c : Config) (t : Thread) : Prop where
  mutex : inMutex t = 0 := by rfl
  closing : closing t = 0 := by rfl
  stops : stops t = 0 := by rfl
  working : working t = 0 := by rfl
  sharing : sharing c t = 0 := by rfl
  switches : switches t = 0 := by rfl
  counted : counted t = 0 := by rfl

theorem weight_start (w : Thread → Nat) (p : Manager) (t : Thread) :
    weight w (p.start t).threads = weight w p.threads + w t := by
  show weight w (p.threads ++ [t]) = _
  rw [weight_append, weight_cons, weight_nil, Nat.add_zero]

theorem inv_start {c : Config} {p : Manager} {t : Thread} (h : Inv c p) (ht : Fresh c t) : Inv c (p.start t) := by
  have hkeep : ∀ w : Thread → Nat, w t = 0 → weight w (p.start t).threads = weight w p.threads := by
    intro w hw
    rw [weight_start, hw, Nat.add_zero]
  constructor
  · exact {
      mutex := (hkeep _ ht.mutex).trans h.books.mutex
      closing := (hkeep _ ht.closing).trans h.books.closing
      stops := (hkeep _ ht.stops).trans h.books.stops
      workers := (hkeep _ ht.working).trans h.books.workers
      sharing := (hkeep _ ht.sharing).trans h.books.sharing
      switches := (hkeep _ ht.switches).trans h.books.switches
      counter := by rw [hkeep _ ht.counted]; exact h.books.counter }
  · rw [hkeep _ ht.counted]
    exact h.flags

theorem inv_goOn {c : Config} (hpool : c.pool.Lawful) {p : Manager} (h : Inv c p) (i : Nat) : Inv c (p.run (move c) i ()) := by
  cases hi : p.threads[i]? with
  | none =>
    rw [run_of_none hi]
    exact h
  | some t =>
    have hle : ∀ w : Thread → Nat, w t ≤ weight w p.threads := fun w => le_weight hi
    have hrun : ∀ w : Thread → Nat, _ := fun w => @weight_run _ _ _ (move c) p i () t w hi
    have hb := move_balanced hpool h.books h.flags hle
    have hshared : (p.run (move c) i ()).shared = (move c () p.shared t).1 := by rw [run_of_some hi]
    constructor
    · rw [hshared]
      exact {
        mutex := by have := hrun inMutex; have := hb.mutex; have := h.books.mutex; omega
        closing := by have := hrun closing; have := hb.closing; have := h.books.closing; omega
        stops := by have := hrun stops; have := hb.stops; have := h.books.stops; omega
        workers := by have := hrun working; have := hb.workers; have := h.books.workers; omega
        sharing := by have := hrun (sharing c); have := hb.sharing; have := h.books.sharing; omega
        switches := by have := hrun switches; have := hb.switches; have := h.books.switches; omega
        counter := by have := hrun counted; have := hb.counter; have := h.books.counter; omega }
    · rw [hshared]
      exact move_flags hpool h.books h.flags hle (hrun counted)

theorem inv_step {c : Config} (hpool : c.pool.Lawful) {p : Manager} (h : Inv c p) (op : Op) : Inv c (step c p op) := by
  cases op with
  | create task => exact inv_start h {}
  | add task => exact inv_start h {}
  | direct => exact inv_start h {}
  | switch => exact inv_start h {}
  | goOn i => exact inv_goOn hpool h i

theorem inv_idle (c : Config) : Inv c idle where
  books := { mutex := rfl, closing := rfl, stops := rfl, workers := rfl, sharing := rfl, switches := rfl, counter := rfl }
  flags := {
    held := fun h => by cases h
    closed := fun _ => ⟨rfl, rfl⟩
    opened := fun h => by cases h
    stopped := fun h => by cases h
    exclusive := fun h => by cases h }

theorem inv_run {c : Config} (hpool : c.pool.Lawful) (ops : List Op) : Inv c (ops.foldl (step c) idle) := by
  have hops : StepRun.Each (step c) (fun _ _ => True) idle ops := StepRun.each_of_forall (fun _ _ => trivial) idle
  have hrun : StepRun.Always (step c) (Inv c) idle ops := hops.always (fun p op h _ => inv_step hpool h op) (inv_idle c)
  exact hrun.last

/-! ## Requests and their outcomes -/

/-- How often a task of this id was asked for. -/
def requests (id : Nat) : Op → Nat
  | .create task | .add task => if task.id = id then 1 else 0
  | _ => 0

def answers (id : Nat) (s : State) : Nat := s.outcomes.countP fun o => o.1 = id

/-- Tasks of this id that are with a thread or in the queue. -/
def onTheWay (id : Nat) (p : Manager) : Nat := weight (pending id) p.threads + p.shared.queue.countP fun task => task.id = id

/-- No move loses a task or answers it twice. -/
theorem move_total {c : Config} (hpool : c.pool.Lawful) (id : Nat) (s : State) (t : Thread) :
    let r := move c () s t
    answers id r.1 + r.1.queue.countP (fun task => task.id = id) + pending id r.2.1 + weight (pending id) r.2.2 =
      answers id s + s.queue.countP (fun task => task.id = id) + pending id t := by
  have hreject : ∀ task, answers id (s.reject task) = answers id s + if task.id = id then 1 else 0 := by
    intro task
    simp [answers, State.reject, List.countP_cons]
  cases t with
  | request task =>
    dsimp only
    rw [move]
    split
    · simp only [hreject, pending, weight_nil]
      show _ + s.queue.countP _ + 0 + 0 = _
      omega
    · rfl
  | probed task =>
    dsimp only
    rw [move]
    split
    · rfl
    split
    · rfl
    · simp only [weight_cons, weight_replicate_worker, pending]
      show _ + s.queue.countP _ + _ + (0 + c.threadNum * 0) = _
      rw [Nat.mul_zero]
      rfl
  | adding task =>
    dsimp only
    rw [move]
    split
    · rfl
    · rw [(hpool.added s.queue task).countP_eq, List.countP_cons]
      simp only [pending, weight_nil, answers]
      simp
      omega
  | worker =>
    dsimp only
    rw [move]
    split
    · rfl
    split
    · rfl
    · next task queue htake =>
      rw [(hpool.takes htake).countP_eq, List.countP_cons]
      simp only [pending, weight_nil, answers]
      simp
      omega
  | taken task =>
    dsimp only
    rw [move]
    split
    · simp only [hreject, pending, weight_nil]
      show _ + s.queue.countP _ + 0 + 0 = _
      omega
    · rfl
  | running task =>
    dsimp only
    rw [move]
    simp only [answers, List.countP_cons, pending, weight_nil]
    simp
    omega
  | delay =>
    dsimp only
    rw [move]
    split
    · rfl
    split
    · rfl
    split
    · rfl
    · rfl
  | stoppingPool =>
    dsimp only
    rw [move]
    split
    · rfl
    · rfl
  | direct =>
    dsimp only
    rw [move]
    split
    · rfl
    · rfl
  | switch =>
    dsimp only
    rw [move]
    split
    · rfl
    · rfl
  | probing task => rfl
  | rejected => rfl
  | answered => rfl
  | leaving => rfl
  | inDirect => rfl
  | switching => rfl
  | ended => rfl

theorem total_step {c : Config} (hpool : c.pool.Lawful) (id : Nat) (p : Manager) (op : Op) :
    answers id (step c p op).shared + onTheWay id (step c p op) = answers id p.shared + onTheWay id p + requests id op := by
  have hstart : ∀ t, answers id (p.start t).shared + onTheWay id (p.start t) =
      answers id p.shared + onTheWay id p + pending id t := by
    intro t
    unfold onTheWay
    rw [weight_start]
    show _ + (_ + p.shared.queue.countP _) = _
    show answers id p.shared + _ = _
    omega
  cases op with
  | create task => exact hstart _
  | add task => exact hstart _
  | direct => exact hstart _
  | switch => exact hstart _
  | goOn i =>
    show answers id (p.run (move c) i ()).shared + onTheWay id (p.run (move c) i ()) = _
    cases hi : p.threads[i]? with
    | none =>
      rw [run_of_none hi]
      rfl
    | some t =>
      have hweight := @weight_run _ _ _ (move c) p i () t (pending id) hi
      have htotal := move_total hpool id p.shared t
      have hshared : (p.run (move c) i ()).shared = (move c () p.shared t).1 := by rw [run_of_some hi]
      unfold onTheWay
      rw [hshared]
      dsimp only at htotal
      simp only [requests]
      omega

theorem total_run {c : Config} (hpool : c.pool.Lawful) (id : Nat) (ops : List Op) (p : Manager) :
    answers id (ops.foldl (step c) p).shared + onTheWay id (ops.foldl (step c) p) =
      answers id p.shared + onTheWay id p + (ops.map (requests id)).sum := by
  induction ops generalizing p with
  | nil => simp
  | cons op ops ih =>
    rw [List.foldl_cons, ih, total_step hpool, List.map_cons, List.sum_cons]
    omega

/-! ## Safety -/

/-- Who is at work on the bundles, and who has the shared side from it still. -/
def Thread.operates : Thread → Bool
  | .running _ | .answered | .leaving | .inDirect => true
  | _ => false

structure Safe (p : Manager) : Prop where
  exclusive : ∀ {i j : Nat} {u : Thread}, p.threads[i]? = some .switching → p.threads[j]? = some u → u.operates = false
  oneSwitch : ∀ {i j : Nat}, p.threads[i]? = some .switching → p.threads[j]? = some .switching → i = j
  oneCloser : ∀ {i j : Nat} {t u : Thread}, p.threads[i]? = some t → p.threads[j]? = some u → closing t = 1 → closing u = 1 → i = j
  /-- The pool is closed over an empty queue, and no task is with a worker or on its way in. -/
  stopped : .stoppingPool ∈ p.threads → p.shared.queue = [] ∧ ∀ t ∈ p.threads, counted t = 0
  /-- Where there is no pool there is nothing to work off and no one to do it. -/
  closed : p.shared.threadPool = false → p.shared.queue = [] ∧ ∀ t ∈ p.threads, working t = 0

theorem Inv.zero_of_weight {c : Config} {p : Manager} {w : Thread → Nat} (_ : Inv c p) (h : weight w p.threads = 0)
    {t : Thread} (ht : t ∈ p.threads) : w t = 0 := by
  obtain ⟨i, hi⟩ := List.mem_iff_getElem?.mp ht
  have := @le_weight _ i t w p.threads hi
  omega

theorem Inv.safe {c : Config} {p : Manager} (h : Inv c p) : Safe p := by
  have hone : ∀ {w : Thread → Nat} {b : Bool}, weight w p.threads = b.toNat →
      ∀ {i j : Nat} {t u : Thread}, p.threads[i]? = some t → p.threads[j]? = some u → w t = 1 → w u = 1 → i = j := by
    intro w b hw i j t u hi hj ht hu
    by_contra hne
    have := two_le_weight (w := w) hi hj hne
    have := b.toNat_le
    omega
  refine { exclusive := ?_, oneSwitch := ?_, oneCloser := ?_, stopped := ?_, closed := ?_ }
  · intro i j u hi hj
    have hheld : p.shared.switchHeld = true := by
      refine flag_of_pos ?_
      rw [← h.books.switches]
      exact @le_weight _ i .switching switches p.threads hi
    obtain ⟨hdual, hnone⟩ := h.flags.exclusive hheld
    have hzero : sharing c u = 0 := h.zero_of_weight (h.books.sharing.trans hnone) (List.mem_of_getElem? hj)
    cases u <;> first | rfl | simp [sharing, hdual] at hzero
  · intro i j hi hj
    exact hone h.books.switches hi hj rfl rfl
  · intro i j t u hi hj ht hu
    exact hone h.books.closing hi hj ht hu
  · intro hmem
    obtain ⟨i, hi⟩ := List.mem_iff_getElem?.mp hmem
    have hstop : p.shared.stopping = true := by
      refine flag_of_pos ?_
      rw [← h.books.stops]
      exact @le_weight _ i .stoppingPool stops p.threads hi
    obtain ⟨-, hqueue, hnone⟩ := h.flags.stopped hstop
    exact ⟨hqueue, fun t ht => h.zero_of_weight hnone ht⟩
  · intro hclosed
    obtain ⟨hqueue, hnone⟩ := h.flags.closed hclosed
    exact ⟨hqueue, fun t ht => h.zero_of_weight (h.books.workers.trans hnone) ht⟩

/-- **Installer tasks and mode switches exclude each other, and no task is lost or answered
twice**, whatever the order in which the threads go on. -/
theorem tasks_safe (c : Config) (hpool : c.pool.Lawful) (ops : List Op) :
    let p := ops.foldl (step c) idle
    Safe p ∧ ∀ id, answers id p.shared + onTheWay id p = (ops.map (requests id)).sum := by
  refine ⟨(inv_run hpool ops).safe, fun id => ?_⟩
  rw [total_run hpool]
  show 0 + 0 + _ = _
  omega

/-- One install waits in the queue and one is at the entry when a switch is asked for. -/
theorem tasks_safe_switch :
    let c : Config := ⟨true, 2, utilsPool⟩
    let ops : List Op := [.create ⟨7, true⟩, .goOn 0, .goOn 0, .goOn 0, .goOn 0, .create ⟨8, true⟩, .goOn 4, .switch,
      .goOn 5]
    let p := ops.foldl (step c) idle
    Safe p ∧ p.threads[5]? = some .ended ∧ p.shared.queue = [⟨7, true⟩] ∧
      answers 7 p.shared + onTheWay 7 p = 1 ∧ answers 8 p.shared + onTheWay 8 p = 1 := by
  intro c ops p
  obtain ⟨hsafe, htotal⟩ := tasks_safe c utilsPool_lawful ops
  exact ⟨hsafe, by decide, by decide, htotal 7, htotal 8⟩

/-! ## No request waits for good -/

/-- How much a thread has left to do. -/
def effort (c : Config) : Thread → Nat
  | .request _ => 11 + c.threadNum
  | .probing _ => 10 + c.threadNum
  | .probed _ => 9 + c.threadNum
  | .adding _ => 6
  | .taken _ => 5
  | .running _ => 4
  | .answered => 3
  | .leaving | .rejected | .delay | .direct | .switch => 2
  | .worker | .stoppingPool | .inDirect | .switching => 1
  | .ended => 0

def toDo (c : Config) (p : Manager) : Nat := weight (effort c) p.threads + 5 * p.shared.queue.length

/-- A thread waits, or it has less to do. -/
theorem move_effort {c : Config} (hpool : c.pool.Lawful) (s : State) (t : Thread) :
    let r := move c () s t
    r = (s, t, []) ∨
      effort c r.2.1 + weight (effort c) r.2.2 + 5 * r.1.queue.length < effort c t + 5 * s.queue.length := by
  have hacquire : (s.acquire c).queue = s.queue := rfl
  have hrelease : (s.release c).queue = s.queue := rfl
  have hreject : ∀ task, (s.reject task).queue = s.queue := fun _ => rfl
  dsimp only
  cases t with
  | ended => exact .inl rfl
  | probed task =>
    rw [move]
    split
    · exact .inl rfl
    refine .inr ?_
    split
    · simp only [effort, weight_nil]
      omega
    · simp only [weight_cons, weight_replicate_worker, effort]
      omega
  | adding task =>
    rw [move]
    split
    · exact .inl rfl
    · refine .inr ?_
      rw [(hpool.added s.queue task).length_eq, List.length_cons]
      simp only [effort, weight_nil]
      omega
  | worker =>
    rw [move]
    split
    · exact .inr (by simp [effort])
    split
    · exact .inl rfl
    · next task queue htake =>
      refine .inr ?_
      rw [(hpool.takes htake).length_eq, List.length_cons]
      simp only [effort, weight_nil]
      omega
  | delay =>
    rw [move]
    split
    · exact .inl rfl
    split
    · exact .inr (by simp [effort])
    split
    · exact .inl rfl
    · exact .inr (by simp [effort])
  | stoppingPool =>
    rw [move]
    split
    · exact .inr (by simp [effort])
    · exact .inl rfl
  | request task =>
    rw [move]
    split
    · exact .inr (by simp [effort, hreject])
    · exact .inr (by simp [effort, hacquire])
  | taken task =>
    rw [move]
    split
    · exact .inr (by simp [effort, hreject])
    · exact .inr (by simp [effort, hacquire])
  | direct =>
    rw [move]
    split
    · exact .inr (by simp [effort])
    · exact .inr (by simp [effort, hacquire])
  | switch =>
    rw [move]
    split
    · exact .inr (by simp [effort])
    · exact .inr (by simp [effort])
  | probing task => exact .inr (by simp [move, effort, hrelease])
  | rejected => exact .inr (by simp [move, effort])
  | running task => exact .inr (by simp [move, effort])
  | answered => exact .inr (by simp [move, effort])
  | leaving => exact .inr (by simp [move, effort, hrelease])
  | inDirect => exact .inr (by simp [move, effort, hrelease])
  | switching => exact .inr (by simp [move, effort])

/-- A thread that goes on leaves less to do, one that waits leaves all as it is. -/
theorem goOn_toDo {c : Config} (hpool : c.pool.Lawful) (p : Manager) (i : Nat) :
    step c p (.goOn i) = p ∨ toDo c (step c p (.goOn i)) < toDo c p := by
  show p.run (move c) i () = p ∨ toDo c (p.run (move c) i ()) < toDo c p
  cases hi : p.threads[i]? with
  | none => exact .inl (run_of_none hi)
  | some t =>
    rcases move_effort hpool p.shared t with hwait | hless
    · left
      obtain ⟨hlt, rfl⟩ := List.getElem?_eq_some_iff.mp hi
      rw [run_of_some hi, hwait, List.append_nil]
      dsimp only
      rw [List.set_getElem_self hlt]
    · right
      have hweight := @weight_run _ _ _ (move c) p i () t (effort c) hi
      have hshared : (p.run (move c) i ()).shared = (move c () p.shared t).1 := by rw [run_of_some hi]
      unfold toDo
      rw [hshared]
      omega

/-- Who waits in a state that no thread can leave. -/
theorem stuck_move {c : Config} (hpool : c.pool.Lawful) {p : Manager} (hstuck : ∀ i, step c p (.goOn i) = p) {t : Thread} (ht : t ∈ p.threads) :
    move c () p.shared t = (p.shared, t, []) := by
  obtain ⟨i, hi⟩ := List.mem_iff_getElem?.mp ht
  rcases move_effort hpool p.shared t with hwait | hless
  · exact hwait
  · have hweight := @weight_run _ _ _ (move c) p i () t (effort c) hi
    have hrun : p.run (move c) i () = p := hstuck i
    have hshared : (move c () p.shared t).1 = p.shared := by
      have := congrArg Pool.shared hrun
      rwa [run_of_some hi] at this
    rw [hrun] at hweight
    rw [hshared] at hless
    omega

theorem weight_eq_zero {w : Thread → Nat} {ts : List Thread} (h : ∀ t ∈ ts, w t = 0) : weight w ts = 0 := by
  unfold weight
  rw [List.sum_eq_zero]
  intro n hn
  obtain ⟨t, ht, rfl⟩ := List.mem_map.mp hn
  exact h t ht

/-- What waits is before the mutex, in it, at the queue, or behind its end. -/
def Thread.waits : Thread → Bool
  | .probed _ | .adding _ | .worker | .delay | .stoppingPool | .ended => true
  | _ => false

theorem waits_of_stay {c : Config} {s : State} {t : Thread} (hsame : (move c () s t).2.1 = t) : t.waits = true := by
  cases t <;> first | rfl | skip
  all_goals
    rw [move] at hsame
    first
      | cases hsame
      | split at hsame <;> cases hsame

structure AtRest (p : Manager) : Prop where
  ended : ∀ t ∈ p.threads, t = .ended
  pool : p.shared.threadPool = false
  queue : p.shared.queue = []
  counter : p.shared.taskCounter = 0
  mutexes : p.shared.mutexHeld = false ∧ p.shared.switchHeld = false ∧ p.shared.holders = 0

/-- **No deadlock**: a state that no thread can leave is at rest. -/
theorem Inv.rest {c : Config} (hlawful : c.pool.Lawful) {p : Manager} (h : Inv c p) (hthreads : 0 < c.threadNum)
    (hstuck : ∀ i, step c p (.goOn i) = p) : AtRest p := by
  have hstay : ∀ t ∈ p.threads, (move c () p.shared t).2.1 = t := fun t ht => by rw [stuck_move hlawful hstuck ht]
  have hwaits : ∀ t ∈ p.threads, t.waits = true := fun t ht => waits_of_stay (hstay t ht)
  -- a worker that waits has nothing to take and is not told to end
  have hworker : 0 < p.shared.workers → p.shared.stopping = false ∧ p.shared.queue = [] := by
    intro hpos
    rw [← h.books.workers] at hpos
    obtain ⟨i, t, hi, ht⟩ := exists_of_weight_pos hpos
    have hmem := List.mem_of_getElem? hi
    have hw := hwaits t hmem
    have hm := hstay t hmem
    cases t with
    | worker =>
      rw [move] at hm
      split at hm
      · cases hm
      next hgoes =>
      split at hm
      next hnone =>
        have hqueue := hlawful.waits hnone
        refine ⟨?_, hqueue⟩
        by_contra hstop
        rw [Bool.not_eq_false] at hstop
        exact hgoes (by rw [hstop, hqueue, hlawful.stops])
      · cases hm
    | taken task => cases hw
    | rejected => cases hw
    | running task => cases hw
    | answered => cases hw
    | leaving => cases hw
    | _ => exact absurd ht (Nat.lt_irrefl 0)
  have hnoStop : ∀ t ∈ p.threads, stops t = 0 := by
    intro t ht
    have hm := hstay t ht
    cases t with
    | stoppingPool =>
      rw [move] at hm
      split at hm
      · cases hm
      next hjoined =>
      have hstop : 1 ≤ p.shared.stopping.toNat := by
        obtain ⟨i, hi⟩ := List.mem_iff_getElem?.mp ht
        rw [← h.books.stops]
        exact @le_weight _ i .stoppingPool stops p.threads hi
      have hleft : p.shared.workers ≠ 0 := fun hnone => hjoined ((hlawful.joined _).mpr hnone)
      have := (hworker (by omega)).1
      rw [flag_of_pos hstop] at this
      cases this
    | _ => rfl
  have hstopping : p.shared.stopping = false := by
    have := h.books.stops.symm.trans (weight_eq_zero hnoStop)
    simpa using this
  have hqueue : p.shared.queue = [] := by
    cases hpool : p.shared.threadPool with
    | false => exact (h.flags.closed hpool).1
    | true =>
      have := h.flags.opened hpool hstopping
      exact (hworker (by omega)).2
  have hnoMutex : ∀ t ∈ p.threads, inMutex t = 0 := by
    intro t ht
    have hm := hstay t ht
    have hs := hnoStop t ht
    cases t with
    | adding task =>
      rw [move, hqueue, if_neg (by rw [hlawful.room]; decide)] at hm
      cases hm
    | stoppingPool => exact hs
    | _ => rfl
  have hmutex : p.shared.mutexHeld = false := by
    have := h.books.mutex.symm.trans (weight_eq_zero hnoMutex)
    simpa using this
  have hcounter : p.shared.taskCounter = 0 := by
    have hnone : weight counted p.threads = 0 := by
      refine weight_eq_zero fun t ht => ?_
      have hw := hwaits t ht
      have hin := hnoMutex t ht
      cases t <;> first | rfl | exact hin | cases hw
    have := h.books.counter
    rw [hqueue, hnone] at this
    simpa using this
  have hnoDelay : ∀ t ∈ p.threads, t ≠ .delay := by
    rintro t ht rfl
    have hm := hstay _ ht
    rw [move, hmutex, hqueue, hcounter, if_neg (by decide)] at hm
    split at hm
    · cases hm
    · rw [if_neg (by decide)] at hm
      cases hm
  have hpool : p.shared.threadPool = false := by
    have hnone : weight closing p.threads = 0 := by
      refine weight_eq_zero fun t ht => ?_
      have hs := hnoStop t ht
      have hd := hnoDelay t ht
      cases t <;> first | rfl | exact absurd rfl hd | exact hs
    have := h.books.closing.symm.trans hnone
    simpa using this
  have hended : ∀ t ∈ p.threads, t = .ended := by
    intro t ht
    have hw := hwaits t ht
    have hm := hstay t ht
    have hin := hnoMutex t ht
    have hd := hnoDelay t ht
    have hwork : working t = 0 := h.zero_of_weight (h.books.workers.trans (h.flags.closed hpool).2) ht
    cases t with
    | ended => rfl
    | probed task =>
      rw [move, hmutex, hpool, if_neg (by decide), if_neg (by decide)] at hm
      cases hm
    | adding task => cases hin
    | stoppingPool => cases hin
    | worker => cases hwork
    | delay => exact absurd rfl hd
    | _ => cases hw
  have hnone : ∀ w : Thread → Nat, w .ended = 0 → weight w p.threads = 0 := by
    intro w hw
    refine weight_eq_zero fun t ht => ?_
    rw [hended t ht]
    exact hw
  refine { ended := hended, pool := hpool, queue := hqueue, counter := hcounter, mutexes := ⟨hmutex, ?_, ?_⟩ }
  · have := h.books.switches.symm.trans (hnone _ rfl)
    simpa using this
  · exact h.books.sharing.symm.trans (hnone _ rfl)

theorem AtRest.onTheWay {p : Manager} (h : AtRest p) (id : Nat) : onTheWay id p = 0 := by
  unfold InstallerTasks.onTheWay
  rw [h.queue, weight_eq_zero]
  · rfl
  · intro t ht
    rw [h.ended t ht]
    rfl

/-- **Every request is answered**: from any state, a thread that goes on leaves less to do, and when
none can go on the pool is closed and each request has had one outcome. -/
theorem tasks_end (c : Config) (hpool : c.pool.Lawful) (hthreads : 0 < c.threadNum) (ops : List Op) :
    let p := ops.foldl (step c) idle
    (∀ i, step c p (.goOn i) = p ∨ toDo c (step c p (.goOn i)) < toDo c p) ∧
      ((∀ i, step c p (.goOn i) = p) →
        AtRest p ∧ ∀ id, answers id p.shared = (ops.map (requests id)).sum) := by
  refine ⟨goOn_toDo hpool _, fun hstuck => ?_⟩
  have hrest := (inv_run hpool ops).rest hpool hthreads hstuck
  refine ⟨hrest, fun id => ?_⟩
  have htotal := total_run hpool id ops idle
  rw [hrest.onTheWay, Nat.add_zero] at htotal
  exact htotal.trans (Nat.zero_add _)

/-- One install with one worker, to the end. -/
theorem tasks_end_install :
    let c : Config := ⟨true, 1, utilsPool⟩
    let ops : List Op := [.create ⟨7, true⟩, .goOn 0, .goOn 0, .goOn 0, .goOn 0, .goOn 2, .goOn 2, .goOn 2, .goOn 2,
      .goOn 2, .goOn 1, .goOn 2, .goOn 1]
    let p := ops.foldl (step c) idle
    AtRest p ∧ answers 7 p.shared = 1 := by
  intro c ops p
  have hnone : toDo c p = 0 := by decide
  have h := tasks_end c utilsPool_lawful (by decide) ops
  have hstuck : ∀ i, step c p (.goOn i) = p := by
    intro i
    refine (h.1 i).resolve_right ?_
    show ¬ _ < toDo c p
    rw [hnone]
    exact Nat.not_lt_zero _
  obtain ⟨hrest, hanswers⟩ := h.2 hstuck
  exact ⟨hrest, hanswers 7⟩

end BundleFramework.InstallerTasks
