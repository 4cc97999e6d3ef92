import Mathlib

/-!
# A pool of threads over shared state

`move a s t` is one atomic step of a thread `t` in the shared state `s`, with `a` what the
world answers: the new shared state, what is left of the thread, and the threads it starts.
A pool is addressed by position; threads that end stay where they are, so a position names
one thread for the whole run.

`weight_run` follows a quantity carried by the threads (`weight`) through one step, `run_get`
says what stands where after it, and `two_le_weight` is how a quantity that never exceeds one
gives exclusive ownership.
-/

namespace ThreadPool

structure Pool (σ τ : Type) where
  shared : σ
  threads : List τ

variable {σ τ α : Type}

/-- Thread `i` takes a step; what it starts goes to the end. -/
def Pool.run (move : α → σ → τ → σ × τ × List τ) (p : Pool σ τ) (i : Nat) (a : α) : Pool σ τ :=
  match p.threads[i]? with
  | none => p
  | some t =>
    let moved := move a p.shared t
    ⟨moved.1, p.threads.set i moved.2.1 ++ moved.2.2⟩

/-- A new thread. -/
def Pool.start (p : Pool σ τ) (t : τ) : Pool σ τ := ⟨p.shared, p.threads ++ [t]⟩

/-- What the threads of a list carry together. -/
def weight (w : τ → Nat) (ts : List τ) : Nat := (ts.map w).sum

variable {move : α → σ → τ → σ × τ × List τ} {p : Pool σ τ} {i j : Nat} {a : α} {t u : τ} {w : τ → Nat}

theorem run_of_none (h : p.threads[i]? = none) : p.run move i a = p := by
  unfold Pool.run
  rw [h]

theorem run_of_some (h : p.threads[i]? = some t) :
    p.run move i a = ⟨(move a p.shared t).1, p.threads.set i (move a p.shared t).2.1 ++ (move a p.shared t).2.2⟩ := by
  unfold Pool.run
  rw [h]

/-! ## Weight -/

@[simp] theorem weight_nil : weight w [] = 0 := rfl

@[simp] theorem weight_cons (ts : List τ) : weight w (t :: ts) = w t + weight w ts := by
  simp [weight]

@[simp] theorem weight_append (ts us : List τ) : weight w (ts ++ us) = weight w ts + weight w us := by
  simp [weight]

theorem weight_set {ts : List τ} (h : ts[i]? = some t) (u : τ) :
    weight w (ts.set i u) + w t = weight w ts + w u := by
  induction ts generalizing i with
  | nil => simp at h
  | cons x ts ih =>
    cases i with
    | zero =>
      obtain rfl : x = t := by simpa using h
      simp only [List.set_cons_zero, weight_cons]
      omega
    | succ i =>
      have := ih (by simpa using h)
      simp only [List.set_cons_succ, weight_cons]
      omega

theorem le_weight {ts : List τ} (h : ts[i]? = some t) : w t ≤ weight w ts := by
  induction ts generalizing i with
  | nil => simp at h
  | cons x ts ih =>
    cases i with
    | zero =>
      obtain rfl : x = t := by simpa using h
      simp
    | succ i =>
      have := @ih i (by simpa using h)
      simp only [weight_cons]
      omega

theorem two_le_weight {ts : List τ} (hi : ts[i]? = some t) (hj : ts[j]? = some u) (hne : i ≠ j) :
    w t + w u ≤ weight w ts := by
  induction ts generalizing i j with
  | nil => simp at hi
  | cons x ts ih =>
    cases i with
    | zero =>
      cases j with
      | zero => exact absurd rfl hne
      | succ j =>
        obtain rfl : x = t := by simpa using hi
        have := @le_weight τ j u w ts (by simpa using hj)
        simp only [weight_cons]
        omega
    | succ i =>
      cases j with
      | zero =>
        obtain rfl : x = u := by simpa using hj
        have := @le_weight τ i t w ts (by simpa using hi)
        simp only [weight_cons]
        omega
      | succ j =>
        have := ih (by simpa using hi) (by simpa using hj) (by omega)
        simp only [weight_cons]
        omega

/-- Every other thread stands where it stood. -/
theorem eq_or_mem_set {ts : List τ} (hi : ts[i]? = some t) (hu : u ∈ ts) (t' : τ) : u = t ∨ u ∈ ts.set i t' := by
  obtain ⟨j, hj⟩ := List.mem_iff_getElem?.mp hu
  by_cases hij : i = j
  · subst hij
    exact .inl (Option.some.inj (hj.symm.trans hi))
  · have hj' : (ts.set i t')[j]? = some u := by
      rw [List.getElem?_set_ne hij]
      exact hj
    exact .inr (List.mem_of_getElem? hj')

theorem exists_of_weight_pos {ts : List τ} (h : 0 < weight w ts) : ∃ (i : Nat) (t : τ), ts[i]? = some t ∧ 0 < w t := by
  induction ts with
  | nil => simp at h
  | cons x ts ih =>
    by_cases hx : 0 < w x
    · exact ⟨0, x, rfl, hx⟩
    · obtain ⟨i, t, hi, ht⟩ := ih (by simp only [weight_cons] at h; omega)
      exact ⟨i + 1, t, hi, ht⟩

/-- **One step**: the weight changes by what the moved thread and the started ones carry. -/
theorem weight_run (h : p.threads[i]? = some t) :
    weight w (p.run move i a).threads + w t =
      weight w p.threads + w (move a p.shared t).2.1 + weight w (move a p.shared t).2.2 := by
  rw [run_of_some h]
  have := @weight_set τ i t w p.threads h (move a p.shared t).2.1
  simp only [weight_append]
  omega

/-! ## Positions -/

/-- What stands at a position after a step: the thread that moved, another one as it was, or
one that was started. -/
theorem run_get (h : p.threads[i]? = some t) (hj : (p.run move i a).threads[j]? = some u) :
    (j = i ∧ u = (move a p.shared t).2.1) ∨ (j ≠ i ∧ p.threads[j]? = some u) ∨
      (p.threads.length ≤ j ∧ u ∈ (move a p.shared t).2.2) := by
  rw [run_of_some h] at hj
  dsimp only at hj
  rw [List.getElem?_append, List.length_set] at hj
  split at hj
  · next hlt =>
    rw [List.getElem?_set] at hj
    split at hj
    · next hij =>
      rw [if_pos (hij ▸ hlt)] at hj
      exact .inl ⟨hij.symm, (Option.some.inj hj).symm⟩
    · next hij => exact .inr (.inl ⟨fun e => hij e.symm, hj⟩)
  · next hge => exact .inr (.inr ⟨by omega, List.mem_of_getElem? hj⟩)

theorem run_get_self (h : p.threads[i]? = some t) :
    (p.run move i a).threads[i]? = some (move a p.shared t).2.1 := by
  obtain ⟨hlt, -⟩ := List.getElem?_eq_some_iff.mp h
  rw [run_of_some h]
  dsimp only
  rw [List.getElem?_append_left (by simpa using hlt), List.getElem?_set_self hlt]

theorem run_get_other (h : p.threads[i]? = some t) (hj : p.threads[j]? = some u) (hne : j ≠ i) :
    (p.run move i a).threads[j]? = some u := by
  obtain ⟨hlt, -⟩ := List.getElem?_eq_some_iff.mp hj
  rw [run_of_some h]
  dsimp only
  rw [List.getElem?_append_left (by simpa using hlt), List.getElem?_set_ne (Ne.symm hne)]
  exact hj

theorem mem_run_of_ne (h : p.threads[i]? = some t) (hu : u ∈ p.threads) (hne : u ≠ t) :
    u ∈ (p.run move i a).threads := by
  obtain ⟨j, hj⟩ := List.mem_iff_getElem?.mp hu
  refine List.mem_of_getElem? (run_get_other h hj ?_)
  rintro rfl
  rw [h] at hj
  exact hne (Option.some.inj hj).symm

theorem start_get (hj : (p.start t).threads[j]? = some u) :
    p.threads[j]? = some u ∨ (j = p.threads.length ∧ u = t) := by
  unfold Pool.start at hj
  dsimp only at hj
  rw [List.getElem?_append] at hj
  split at hj
  · exact .inl hj
  · next hge =>
    have hlen : j - p.threads.length = 0 := by
      by_contra hne
      rw [List.getElem?_eq_none (by simp; omega)] at hj
      cases hj
    rw [hlen] at hj
    exact .inr ⟨by omega, (Option.some.inj hj).symm⟩

end ThreadPool
