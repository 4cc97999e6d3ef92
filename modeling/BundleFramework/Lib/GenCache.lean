import Mathlib

/-!
# A cache refilled under a generation counter

Readers look a key up and, on a miss, load the generation, query a store, add what a side
table says, and put the result into the cache if the generation is still the one they
loaded.  Writers run statements on the store and invalidate keys afterwards, which raises
the generation; a change of the side table raises it in the same step.  Any number of
readers and writers take their steps in any order.

The counter is an unsigned integer of 64 bits; the model counts in full and compares
modulo `2 ^ 64`.

`Coherent` is the invariant: every entry stands under the key of a query; an entry, or a
result about to be put in, is what store and side table give, unless a writer in flight will
still erase its key.  It needs that a statement changes only what its writer erases
afterwards; what a writer forgets (`forgets`) must not be held by anyone.
-/

namespace GenCache

variable {A B W Q K X V : Type}

/-- Where cached values come from, and what the statements do to the store. -/
structure Source (A B W Q K X V : Type) where
  key : Q → K
  query : A → Q → X
  combine : X → B → Q → V
  apply : W → A → A

/-- What a writer still has to do.  What follows a statement may depend on the store it
found. -/
inductive Prog (A B W K : Type) where
  | done
  | write (w : W) (next : A → Prog A B W K)
  | invalidate (p : K → Bool) (next : Prog A B W K)
  | side (f : B → B) (p : K → Bool) (next : Prog A B W K)

/-- The place of an operation: a reader before each of its steps, a writer, or an operation
that has returned. -/
inductive Thread (A B W Q K X V : Type) where
  | lookup (q : Q)
  | load (q : Q)
  | query (q : Q) (generation : Nat)
  | side (q : Q) (generation : Nat) (x : X)
  | refill (q : Q) (generation : Nat) (v : V)
  | writer (p : Prog A B W K)
  | returned

structure State (A B W Q K X V : Type) where
  store : A
  sideTable : B
  generation : Nat
  cache : K → Option V
  threads : List (Thread A B W Q K X V)

/-- An operation starts, or the thread at a place takes its next step; `ok` is the store's
answer to a query. -/
inductive Event (A B W Q K : Type) where
  | read (q : Q)
  | call (p : Prog A B W K)
  | step (i : Nat) (ok : Bool)

def GENERATIONS : Nat := 2 ^ 64

section Algorithm
variable [DecidableEq K] (src : Source A B W Q K X V)

/-- One step of a thread: the shared state it leaves, and where the thread is then. -/
def stepThread (ok : Bool) (s : State A B W Q K X V) :
    Thread A B W Q K X V → State A B W Q K X V × Thread A B W Q K X V
  | .lookup q => (s, if (s.cache (src.key q)).isSome then .returned else .load q)
  | .load q => (s, .query q s.generation)
  | .query q generation => (s, if ok then .side q generation (src.query s.store q) else .returned)
  | .side q generation x => (s, .refill q generation (src.combine x s.sideTable q))
  | .refill q generation v =>
    (if s.generation % GENERATIONS = generation % GENERATIONS then
      { s with cache := fun k => if k = src.key q then some v else s.cache k } else s, .returned)
  | .writer .done => (s, .returned)
  | .writer (.write w next) => ({ s with store := src.apply w s.store }, .writer (next s.store))
  | .writer (.invalidate p next) =>
    ({ s with generation := s.generation + 1, cache := fun k => if p k then none else s.cache k }, .writer next)
  | .writer (.side f p next) =>
    ({ s with sideTable := f s.sideTable, generation := s.generation + 1,
              cache := fun k => if p k then none else s.cache k }, .writer next)
  | .returned => (s, .returned)

def step (s : State A B W Q K X V) : Event A B W Q K → State A B W Q K X V
  | .read q => { s with threads := s.threads ++ [.lookup q] }
  | .call p => { s with threads := s.threads ++ [.writer p] }
  | .step i ok =>
    match s.threads[i]? with
    | none => s
    | some t => { (stepThread src ok s t).1 with threads := s.threads.set i (stepThread src ok s t).2 }

end Algorithm

/-! ## What is still to come -/

/-- The writer will erase the key, whatever its statements find. -/
def Prog.Erases (k : K) : Prog A B W K → Prop
  | .done => False
  | .write _ next => ∀ a, (next a).Erases k
  | .invalidate p next => p k = true ∨ next.Erases k
  | .side _ p next => p k = true ∨ next.Erases k

/-- Some writer in flight will erase the key. -/
def Pending (threads : List (Thread A B W Q K X V)) (k : K) : Prop := ∃ p, .writer p ∈ threads ∧ p.Erases k

/-- Nothing is running. -/
def Quiet (s : State A B W Q K X V) : Prop := ∀ t ∈ s.threads, t = .returned ∨ t = .writer .done

variable (src : Source A B W Q K X V) (forgets : W → A → Q → Prop)

def Source.fresh (a : A) (b : B) (q : Q) : V := src.combine (src.query a q) b q

/-- A cached value, or one on its way into the cache, for the key. -/
def Held (s : State A B W Q K X V) (k : K) : Prop :=
  s.cache k ≠ none ∨
  (∃ q x, src.key q = k ∧ .side q s.generation x ∈ s.threads) ∨
  ∃ q v, src.key q = k ∧ .refill q s.generation v ∈ s.threads

/-- Each statement of the writer changes only values whose keys the writer erases later, up
to what it forgets; a change of the side table erases the keys whose values it changes. -/
def Prog.Covers : Prog A B W K → Prop
  | .done => True
  | .write w next => ∀ a, (next a).Covers ∧ ∀ q,
      src.query (src.apply w a) q = src.query a q ∨ (next a).Erases (src.key q) ∨ forgets w a q
  | .invalidate _ next => next.Covers
  | .side f p next => next.Covers ∧
      ∀ b q, p (src.key q) = false → ∀ x, src.combine x (f b) q = src.combine x b q

/-- The condition on a step: a refill comes less than a whole round of the counter after its
load, and nobody holds what a statement's writer forgets. -/
def StepOk (s : State A B W Q K X V) : Event A B W Q K → Prop
  | .read _ => True
  | .call p => p.Covers src forgets
  | .step i _ =>
    match s.threads[i]? with
    | some (.refill _ g _) => s.generation < g + GENERATIONS
    | some (.writer (.write w _)) => ∀ q, forgets w s.store q → ¬ Held src s (src.key q)
    | _ => True

/-! ## Coherence -/

/-- What a thread carries: a reader's data are those of the store, as long as its generation
is the current one and no invalidation is on its way. -/
def ThreadOk (s : State A B W Q K X V) : Thread A B W Q K X V → Prop
  | .query _ g => g ≤ s.generation
  | .side q g x => g ≤ s.generation ∧
    (g = s.generation → x = src.query s.store q ∨ Pending s.threads (src.key q))
  | .refill q g v => g ≤ s.generation ∧
    (g = s.generation → v = src.fresh s.store s.sideTable q ∨ Pending s.threads (src.key q))
  | .writer p => p.Covers src forgets
  | _ => True

structure Coherent (s : State A B W Q K X V) : Prop where
  keyed : ∀ k v, s.cache k = some v → ∃ q, src.key q = k
  cached : ∀ q v, s.cache (src.key q) = some v →
    v = src.fresh s.store s.sideTable q ∨ Pending s.threads (src.key q)
  threads : ∀ t ∈ s.threads, ThreadOk src forgets s t

variable {src forgets} {s : State A B W Q K X V}

/-- When nothing is running, every entry is what store and side table give. -/
theorem Coherent.quiet (h : Coherent src forgets s) (hq : Quiet s) (k : K) (v : V) (hc : s.cache k = some v) :
    ∃ q, src.key q = k ∧ v = src.fresh s.store s.sideTable q := by
  obtain ⟨q, rfl⟩ := h.keyed k v hc
  refine ⟨q, rfl, ?_⟩
  rcases h.cached q v hc with hv | ⟨p, hp, he⟩
  · exact hv
  · rcases hq _ hp with e | e
    · cases e
    · obtain rfl := Thread.writer.inj e
      exact he.elim

/-- A thread that takes a step leaves what the others will erase, and keeps or does what it
was to erase itself. -/
theorem pending_set {l : List (Thread A B W Q K X V)} {i : Nat} {t t' : Thread A B W Q K X V} {k : K}
    (hi : l[i]? = some t) (h : Pending l k)
    (ht : ∀ p, t = .writer p → p.Erases k → ∃ p', t' = .writer p' ∧ p'.Erases k) : Pending (l.set i t') k := by
  obtain ⟨p, hp, he⟩ := h
  obtain ⟨j, hj⟩ := List.mem_iff_getElem?.mp hp
  obtain ⟨hlt, -⟩ := List.getElem?_eq_some_iff.mp hi
  by_cases hij : i = j
  · subst hij
    rw [hi] at hj
    obtain ⟨p', rfl, he'⟩ := ht p (Option.some.inj hj) he
    exact ⟨p', List.mem_iff_getElem?.mpr ⟨i, by rw [List.getElem?_set_self hlt]⟩, he'⟩
  · exact ⟨p, List.mem_iff_getElem?.mpr ⟨j, by rw [List.getElem?_set_ne hij]; exact hj⟩, he⟩

/-- What a thread rests on, where the generation stays. -/
theorem ThreadOk.mono {s' : State A B W Q K X V} {t : Thread A B W Q K X V} (h : ThreadOk src forgets s t)
    (hgen : s'.generation = s.generation)
    (hquery : ∀ q x, t = .side q s.generation x → x = src.query s.store q ∨ Pending s.threads (src.key q) →
      x = src.query s'.store q ∨ Pending s'.threads (src.key q))
    (hfresh : ∀ q v, t = .refill q s.generation v →
      v = src.fresh s.store s.sideTable q ∨ Pending s.threads (src.key q) →
      v = src.fresh s'.store s'.sideTable q ∨ Pending s'.threads (src.key q)) :
    ThreadOk src forgets s' t := by
  cases t with
  | query q g =>
    show g ≤ s'.generation
    rw [hgen]
    exact h
  | side q g x =>
    refine ⟨hgen ▸ h.1, fun hg => ?_⟩
    rw [hgen] at hg
    subst hg
    exact hquery q x rfl (h.2 rfl)
  | refill q g v =>
    refine ⟨hgen ▸ h.1, fun hg => ?_⟩
    rw [hgen] at hg
    subst hg
    exact hfresh q v rfl (h.2 rfl)
  | writer p => exact h
  | lookup q => trivial
  | load q => trivial
  | returned => trivial

/-- After the generation is raised, readers in flight have nothing to answer for. -/
theorem ThreadOk.bump {s' : State A B W Q K X V} {t : Thread A B W Q K X V} (h : ThreadOk src forgets s t)
    (hgen : s.generation < s'.generation) : ThreadOk src forgets s' t := by
  cases t with
  | query q g => exact Nat.le_of_lt (Nat.lt_of_le_of_lt h hgen)
  | side q g x =>
    have := h.1
    exact ⟨by omega, fun hg => by omega⟩
  | refill q g v =>
    have := h.1
    exact ⟨by omega, fun hg => by omega⟩
  | writer p => exact h
  | lookup q => trivial
  | load q => trivial
  | returned => trivial

/-- **Reader steps** that leave the shared state: the thread moves on with data that are
true to the store. -/
theorem Coherent.move (h : Coherent src forgets s) {i : Nat} {t t' : Thread A B W Q K X V}
    (hi : s.threads[i]? = some t) (hnot : ∀ k p, t = .writer p → ¬ p.Erases k)
    (ht' : ThreadOk src forgets { s with threads := s.threads.set i t' } t') :
    Coherent src forgets { s with threads := s.threads.set i t' } := by
  have hpend : ∀ k, Pending s.threads k → Pending (s.threads.set i t') k :=
    fun k hk => pending_set hi hk fun p hp he => absurd he (hnot k p hp)
  refine ⟨h.keyed, fun q v hc => (h.cached q v hc).imp id (hpend _), fun u hu => ?_⟩
  rcases List.mem_or_eq_of_mem_set hu with hu | rfl
  · exact (h.threads u hu).mono rfl (fun q x _ hx => hx.imp id (hpend _)) fun q v _ hv => hv.imp id (hpend _)
  · exact ht'

/-- **A refill** puts in what the store gives, or what a writer will erase. -/
theorem Coherent.refill [DecidableEq K] (hkey : Function.Injective src.key) (h : Coherent src forgets s) {i : Nat}
    {q : Q} {g : Nat} {v : V} (hi : s.threads[i]? = some (.refill q g v)) (hg : g = s.generation) :
    Coherent src forgets { s with
      cache := fun k => if k = src.key q then some v else s.cache k
      threads := s.threads.set i .returned } := by
  have hpend : ∀ k, Pending s.threads k → Pending (s.threads.set i .returned) k :=
    fun k hk => pending_set hi hk fun p hp _ => by cases hp
  refine ⟨fun k v' hc => ?_, fun q' v' hc => ?_, fun u hu => ?_⟩
  · dsimp only at hc
    split at hc
    · next hk => exact ⟨q, hk.symm⟩
    · exact h.keyed k v' hc
  · dsimp only at hc
    split at hc
    · next hk =>
      obtain rfl := hkey hk
      obtain rfl := Option.some.inj hc
      have ht : ThreadOk src forgets s _ := h.threads _ (List.mem_of_getElem? hi)
      exact (ht.2 hg).imp id (hpend _)
    · exact (h.cached q' v' hc).imp id (hpend _)
  · rcases List.mem_or_eq_of_mem_set hu with hu | rfl
    · exact (h.threads u hu).mono rfl (fun q x _ hx => hx.imp id (hpend _)) fun q v _ hv => hv.imp id (hpend _)
    · trivial

/-- **A statement**: what it changes is erased later by its writer, or nobody holds it. -/
theorem Coherent.write (h : Coherent src forgets s) {i : Nat} {w : W} {next : A → Prog A B W K}
    (hi : s.threads[i]? = some (.writer (.write w next)))
    (hforget : ∀ q, forgets w s.store q → ¬ Held src s (src.key q)) :
    Coherent src forgets { s with
      store := src.apply w s.store
      threads := s.threads.set i (.writer (next s.store)) } := by
  obtain ⟨hcovers, hchange⟩ := (h.threads _ (List.mem_of_getElem? hi) : Prog.Covers src forgets _) s.store
  obtain ⟨hlt, -⟩ := List.getElem?_eq_some_iff.mp hi
  have hpend : ∀ k, Pending s.threads k → Pending (s.threads.set i (.writer (next s.store))) k := by
    intro k hk
    refine pending_set hi hk fun p hp he => ?_
    obtain rfl := Thread.writer.inj hp
    exact ⟨_, rfl, he s.store⟩
  have hself : ∀ k, (next s.store).Erases k → Pending (s.threads.set i (.writer (next s.store))) k :=
    fun k he => ⟨_, List.mem_iff_getElem?.mpr ⟨i, by rw [List.getElem?_set_self hlt]⟩, he⟩
  -- of what is held, the statement changes only what is erased later
  have hheld : ∀ q, Held src s (src.key q) → src.query (src.apply w s.store) q = src.query s.store q ∨
      Pending (s.threads.set i (.writer (next s.store))) (src.key q) := by
    intro q hq
    rcases hchange q with hsame | he | hf
    · exact Or.inl hsame
    · exact Or.inr (hself _ he)
    · exact absurd hq (hforget q hf)
  refine ⟨h.keyed, fun q v hc => ?_, fun u hu => ?_⟩
  · rcases h.cached q v hc with hv | hv
    · refine (hheld q (Or.inl fun hn => ?_)).imp (fun hsame => ?_) id
      · rw [show s.cache (src.key q) = some v from hc] at hn
        cases hn
      · rw [hv]
        unfold Source.fresh
        rw [hsame]
    · exact Or.inr (hpend _ hv)
  · rcases List.mem_or_eq_of_mem_set hu with hu | rfl
    · refine (h.threads u hu).mono rfl (fun q x he hx => ?_) fun q v he hv => ?_
      · rcases hx with rfl | hx
        · subst he
          exact (hheld q (Or.inr (Or.inl ⟨q, _, rfl, hu⟩))).imp Eq.symm id
        · exact Or.inr (hpend _ hx)
      · rcases hv with rfl | hv
        · subst he
          refine (hheld q (Or.inr (Or.inr ⟨q, _, rfl, hu⟩))).imp (fun hsame => ?_) id
          unfold Source.fresh
          rw [hsame]
        · exact Or.inr (hpend _ hv)
    · exact hcovers

/-- **An invalidation**, with or without a change of the side table. -/
theorem Coherent.invalidate (h : Coherent src forgets s) {i : Nat} {t : Thread A B W Q K X V} {p : K → Bool}
    {next : Prog A B W K} {b : B} (hi : s.threads[i]? = some t)
    (ht : ∀ k p', t = .writer p' → p'.Erases k → p k = true ∨ next.Erases k) (hnext : next.Covers src forgets)
    (hside : ∀ q, p (src.key q) = false → src.fresh s.store b q = src.fresh s.store s.sideTable q) :
    Coherent src forgets { s with
      sideTable := b
      generation := s.generation + 1
      cache := fun k => if p k then none else s.cache k
      threads := s.threads.set i (.writer next) } := by
  refine ⟨fun k v hc => ?_, fun q v hc => ?_, fun u hu => ?_⟩
  · dsimp only at hc
    split at hc
    · cases hc
    · exact h.keyed k v hc
  · dsimp only at hc
    split at hc
    · cases hc
    · next hp =>
      refine (h.cached q v hc).imp (fun hv => ?_) fun hv => ?_
      · rw [hv]
        exact (hside q (by simpa using hp)).symm
      · refine pending_set hi hv fun p' hp' he => ?_
        exact ⟨next, rfl, (ht _ p' hp' he).resolve_left hp⟩
  · rcases List.mem_or_eq_of_mem_set hu with hu | rfl
    · exact (h.threads u hu).bump (Nat.lt_succ_self _)
    · exact hnext

/-- Threads that start. -/
theorem Coherent.start (h : Coherent src forgets s) {t : Thread A B W Q K X V}
    (ht : ThreadOk src forgets { s with threads := s.threads ++ [t] } t) :
    Coherent src forgets { s with threads := s.threads ++ [t] } := by
  have hpend : ∀ k, Pending s.threads k → Pending (s.threads ++ [t]) k :=
    fun k ⟨p, hp, he⟩ => ⟨p, List.mem_append_left _ hp, he⟩
  refine ⟨h.keyed, fun q v hc => (h.cached q v hc).imp id (hpend _), fun u hu => ?_⟩
  rcases List.mem_append.mp hu with hu | hu
  · exact (h.threads u hu).mono rfl (fun q x _ hx => hx.imp id (hpend _)) fun q v _ hv => hv.imp id (hpend _)
  · rw [List.mem_singleton.mp hu]
    exact ht

/-- **One step** keeps the cache coherent. -/
theorem Coherent.step [DecidableEq K] (hkey : Function.Injective src.key) (h : Coherent src forgets s)
    {e : Event A B W Q K} (he : StepOk src forgets s e) : Coherent src forgets (step src s e) := by
  cases e with
  | read q => exact h.start trivial
  | call p => exact h.start he
  | step i ok =>
    cases hi : s.threads[i]? with
    | none =>
      simp only [GenCache.step, hi]
      exact h
    | some t =>
      simp only [StepOk, hi] at he
      simp only [GenCache.step, hi]
      have ht := h.threads t (List.mem_of_getElem? hi)
      cases t with
      | lookup q =>
        refine h.move hi (fun k p hp => by cases hp) ?_
        show ThreadOk src forgets _ (if _ then _ else _)
        split <;> trivial
      | load q => exact h.move hi (fun k p hp => by cases hp) (Nat.le_refl _)
      | query q g =>
        refine h.move hi (fun k p hp => by cases hp) ?_
        show ThreadOk src forgets _ (if _ then _ else _)
        split
        · exact ⟨ht, fun _ => Or.inl rfl⟩
        · trivial
      | side q g x =>
        refine h.move hi (fun k p hp => by cases hp) ⟨ht.1, fun hg => ?_⟩
        rcases ht.2 hg with rfl | hp
        · exact Or.inl rfl
        · exact Or.inr (pending_set hi hp fun p hp' _ => by cases hp')
      | refill q g v =>
        show Coherent src forgets { (if _ then _ else _ : State A B W Q K X V) with threads := _ }
        split
        · next hmod =>
          refine h.refill hkey hi ?_
          have hle := ht.1
          unfold GENERATIONS at he hmod
          change s.generation < g + 2 ^ 64 at he
          omega
        · exact h.move hi (fun k p hp => by cases hp) trivial
      | writer p =>
        cases p with
        | done =>
          refine h.move hi (fun k p hp he => ?_) trivial
          obtain rfl := Thread.writer.inj hp
          exact he
        | write w next => exact h.write hi he
        | invalidate p next =>
          refine h.invalidate hi (fun k p' hp' he => ?_) ht fun _ _ => rfl
          obtain rfl := Thread.writer.inj hp'
          exact he
        | side f p next =>
          refine h.invalidate hi (fun k p' hp' he => ?_) ht.1 fun q hq => ht.2 _ q hq _
          obtain rfl := Thread.writer.inj hp'
          exact he
      | returned => exact h.move hi (fun k p hp => by cases hp) trivial

/-- Nothing cached, nothing running. -/
theorem coherent_empty (a : A) (b : B) (g : Nat) : Coherent src forgets ⟨a, b, g, fun _ => none, []⟩ :=
  ⟨fun _ _ hc => absurd hc (Option.some_ne_none _).symm, fun _ _ hc => absurd hc (Option.some_ne_none _).symm,
    fun _ ht => absurd ht List.not_mem_nil⟩

end GenCache
