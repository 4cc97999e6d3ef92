import Mathlib

/-!
# Runs of a step function

A run folds a step function over a list of operations.  `Each` asks a condition of every
operation in the state it finds, `Always` asks an invariant of every state reached.
-/

namespace StepRun

variable {σ ω : Type} (step : σ → ω → σ)

/-- Every operation meets `ok` in the state it finds. -/
def Each (ok : σ → ω → Prop) : σ → List ω → Prop
  | _, [] => True
  | s, op :: ops => ok s op ∧ Each ok (step s op) ops

def Each.decidable {ok : σ → ω → Prop} (h : ∀ s op, Decidable (ok s op)) :
    ∀ (s : σ) (ops : List ω), Decidable (Each step ok s ops)
  | _, [] => inferInstanceAs (Decidable True)
  | s, op :: ops =>
    have := h s op
    have := Each.decidable h (step s op) ops
    inferInstanceAs (Decidable (ok s op ∧ Each step ok (step s op) ops))

instance {ok : σ → ω → Prop} [h : ∀ s op, Decidable (ok s op)] (s : σ) (ops : List ω) :
    Decidable (Each step ok s ops) := Each.decidable step h s ops

/-- Every state of the run satisfies `inv`. -/
def Always (inv : σ → Prop) (s : σ) (ops : List ω) : Prop := ∀ pre, pre <+: ops → inv (pre.foldl step s)

variable {step} {inv : σ → Prop} {ok : σ → ω → Prop}

/-- A run of two parts that is cut short stops in the first, or after some of the second. -/
theorem cut_of_append {cut ops ops' : List ω} (h : cut <+: ops ++ ops') :
    cut <+: ops ∨ ∃ cut', cut' <+: ops' ∧ cut = ops ++ cut' := by
  induction ops generalizing cut with
  | nil => exact .inr ⟨cut, h, rfl⟩
  | cons op ops ih =>
    cases cut with
    | nil => exact .inl List.nil_prefix
    | cons op' cut =>
      obtain ⟨rfl, htail⟩ := List.cons_prefix_cons.mp h
      rcases ih htail with hops | ⟨cut', hcut', rfl⟩
      · exact .inl (List.cons_prefix_cons.mpr ⟨rfl, hops⟩)
      · exact .inr ⟨cut', hcut', rfl⟩

theorem always_nil {s : σ} : Always step inv s [] ↔ inv s := by
  constructor
  · intro h
    exact h [] (List.prefix_refl _)
  · intro h pre hpre
    rw [List.prefix_nil.mp hpre]
    exact h

theorem always_cons {s : σ} {op : ω} {ops : List ω} :
    Always step inv s (op :: ops) ↔ inv s ∧ Always step inv (step s op) ops := by
  constructor
  · intro h
    refine ⟨h [] (List.nil_prefix), fun pre hpre => ?_⟩
    exact h (op :: pre) (List.cons_prefix_cons.mpr ⟨rfl, hpre⟩)
  · rintro ⟨hs, h⟩ pre hpre
    cases pre with
    | nil => exact hs
    | cons op' pre =>
      obtain ⟨rfl, htail⟩ := List.cons_prefix_cons.mp hpre
      exact h pre htail

theorem always_append {s : σ} {ops ops' : List ω} :
    Always step inv s (ops ++ ops') ↔ Always step inv s ops ∧ Always step inv (ops.foldl step s) ops' := by
  induction ops generalizing s with
  | nil =>
    rw [List.nil_append, always_nil, List.foldl_nil]
    exact ⟨fun h => ⟨h [] List.nil_prefix, h⟩, And.right⟩
  | cons op ops ih => rw [List.cons_append, always_cons, always_cons, ih, List.foldl_cons, and_assoc]

theorem Always.last {s : σ} {ops : List ω} (h : Always step inv s ops) : inv (ops.foldl step s) :=
  h ops (List.prefix_refl _)

theorem Always.head {s : σ} {ops : List ω} (h : Always step inv s ops) : inv s := h [] List.nil_prefix

/-- A condition that does not look at the state. -/
theorem each_of_forall {good : ω → Prop} {ops : List ω} (h : ∀ op ∈ ops, good op) (s : σ) :
    Each step (fun _ op => good op) s ops := by
  induction ops generalizing s with
  | nil => trivial
  | cons op ops ih =>
    exact ⟨h op List.mem_cons_self, ih (fun o ho => h o (List.mem_cons_of_mem _ ho)) (step s op)⟩

theorem each_append {s : σ} {ops ops' : List ω} :
    Each step ok s (ops ++ ops') ↔ Each step ok s ops ∧ Each step ok (ops.foldl step s) ops' := by
  induction ops generalizing s with
  | nil => exact ⟨fun h => ⟨trivial, h⟩, And.right⟩
  | cons op ops ih =>
    rw [List.cons_append, List.foldl_cons]
    show ok s op ∧ Each step ok (step s op) (ops ++ ops') ↔ (ok s op ∧ Each step ok (step s op) ops) ∧ _
    rw [ih, and_assoc]

theorem Each.and {ok' : σ → ω → Prop} {s : σ} {ops : List ω} (h : Each step ok s ops) (h' : Each step ok' s ops) :
    Each step (fun s op => ok s op ∧ ok' s op) s ops := by
  induction ops generalizing s with
  | nil => trivial
  | cons op ops ih => exact ⟨⟨h.1, h'.1⟩, ih h.2 h'.2⟩

theorem Each.concat {s : σ} {ops : List ω} {op : ω} (h : Each step ok s ops) (hop : ok (ops.foldl step s) op) :
    Each step ok s (ops ++ [op]) := by
  exact each_append.mpr ⟨h, hop, trivial⟩

/-- **Run rule**: what every operation with `ok` keeps holds in every state reached. -/
theorem Each.always (hstep : ∀ s op, inv s → ok s op → inv (step s op)) {s : σ} {ops : List ω}
    (hops : Each step ok s ops) (hs : inv s) : Always step inv s ops := by
  induction ops generalizing s with
  | nil => exact always_nil.mpr hs
  | cons op ops ih => exact always_cons.mpr ⟨hs, ih hops.2 (hstep s op hs hops.1)⟩

/-- **Exact run rule with an invariant**: a run keeps `good` in every state just when every
operation meets `ok`, where `ok` is what an operation needs to keep the invariant and one that
does not meet it leaves a state that is not `good`. -/
theorem always_iff_each_of_inv {good : σ → Prop} (hgood : ∀ s, inv s → good s)
    (hstep : ∀ s op, inv s → ok s op → inv (step s op)) (hfail : ∀ s op, inv s → ¬ ok s op → ¬ good (step s op))
    {s : σ} {ops : List ω} (hs : inv s) : Always step good s ops ↔ Each step ok s ops := by
  constructor
  · intro h
    induction ops generalizing s with
    | nil => trivial
    | cons op ops ih =>
      obtain ⟨-, h⟩ := always_cons.mp h
      have hok : ok s op := by
        by_contra hnot
        exact hfail s op hs hnot h.head
      exact ⟨hok, ih (hstep s op hs hok) h⟩
  · intro h pre hpre
    exact hgood _ (h.always hstep hs pre hpre)

/-- **Guarantee rule**: where an operation with `ok` keeps the invariant and, met in it, is
`good`, every operation of the run is `good`. -/
theorem Each.guarantee {good : σ → ω → Prop} (hstep : ∀ s op, inv s → ok s op → inv (step s op) ∧ good s op)
    {s : σ} {ops : List ω} (hops : Each step ok s ops) (hs : inv s) : Each step good s ops := by
  induction ops generalizing s with
  | nil => trivial
  | cons op ops ih =>
    obtain ⟨hs', hgood⟩ := hstep s op hs hops.1
    exact ⟨hgood, ih hops.2 hs'⟩

/-- **Exchange rule**: where every operation keeps the invariant and, met in it, is `good` just
when it is `ok`, so are the operations of every run. -/
theorem each_iff_each_of_inv {good : σ → ω → Prop} (hstep : ∀ s op, inv s → inv (step s op))
    (h : ∀ s op, inv s → (good s op ↔ ok s op)) {s : σ} {ops : List ω} (hs : inv s) :
    Each step good s ops ↔ Each step ok s ops := by
  induction ops generalizing s with
  | nil => exact Iff.rfl
  | cons op ops ih => exact and_congr (h s op hs) (ih (hstep s op hs))

/-- **Exact run rule**: where `ok` is what an operation needs to keep the invariant, every
state satisfies it just when every operation meets `ok`. -/
theorem always_iff_each (hstep : ∀ s op, inv s → (inv (step s op) ↔ ok s op)) {s : σ} {ops : List ω} (hs : inv s) :
    Always step inv s ops ↔ Each step ok s ops := by
  refine ⟨fun h => ?_, fun h => h.always (fun s op hs hop => (hstep s op hs).mpr hop) hs⟩
  induction ops generalizing s with
  | nil => trivial
  | cons op ops ih =>
    obtain ⟨-, h⟩ := always_cons.mp h
    exact ⟨(hstep s op hs).mp h.head, ih h.head h⟩

end StepRun
