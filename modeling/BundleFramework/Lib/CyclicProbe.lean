import Mathlib

/-!
# Cyclic probing of an integer range

A cursor walks the range `[lo, hi]` upwards from a start, wraps at `hi`, and stops at
the first slot that is not taken or when it is back at the start.  The slots are met in
the order of their `offset` from the start, which runs from 1 to `hi - lo + 1`; the
start itself comes last.

`probe_spec`: with the start in the range and fuel for one round, the walk ends; it ends
at a free slot before which every slot is taken, or all slots are taken.
-/

namespace CyclicProbe

/-- Outcome of a walk. -/
inductive ProbeResult where
  | found (slot : Int)
  | exhausted
  | outOfFuel
  deriving DecidableEq

def next (lo hi cursor : Int) : Int := if cursor ≥ hi then lo else cursor + 1

/-- `do { cursor = next(cursor); if free(cursor) return; } while (cursor != start)`. -/
def probe (lo hi : Int) (taken : Int → Bool) (start : Int) : Nat → Int → ProbeResult
  | 0, _ => .outOfFuel
  | fuel + 1, cursor =>
    let cursor := next lo hi cursor
    if !taken cursor then .found cursor
    else if cursor ≠ start then probe lo hi taken start fuel cursor
    else .exhausted

/-- A slot that is found is not taken, wherever the walk started. -/
theorem not_taken_of_found {lo hi start : Int} {taken : Int → Bool} {fuel : Nat} {cursor slot : Int}
    (h : probe lo hi taken start fuel cursor = .found slot) : taken slot = false := by
  induction fuel generalizing cursor with
  | zero => cases h
  | succ fuel ih =>
    unfold probe at h
    dsimp only at h
    split at h
    · next hfree =>
      rw [← ProbeResult.found.inj h]
      simpa using hfree
    · split at h
      · exact ih h
      · cases h

/-- How many steps after the start a slot is met. -/
def offset (lo hi start slot : Int) : Int :=
  if start < slot then slot - start else slot - start + (hi - lo + 1)

/-- The cursor after `k` steps of a walk that is not over. -/
def CursorAt (lo hi start k cursor : Int) : Prop :=
  lo ≤ cursor ∧ cursor ≤ hi ∧
    (k = 0 ∧ cursor = start ∨ 0 < k ∧ cursor ≠ start ∧ offset lo hi start cursor = k)

/-- Different slots of the range are met at different steps. -/
theorem offset_injective {lo hi start slot slot' : Int} (h1 : lo ≤ slot)
    (h2 : slot ≤ hi) (h1' : lo ≤ slot') (h2' : slot' ≤ hi)
    (h : offset lo hi start slot = offset lo hi start slot') : slot = slot' := by
  unfold offset at h
  split at h <;> split at h <;> omega

section
variable {lo hi start : Int} (hlo : lo ≤ start) (hhi : start ≤ hi)

include hlo hhi

theorem offset_bounds {slot : Int} (h1 : lo ≤ slot) (h2 : slot ≤ hi) :
    1 ≤ offset lo hi start slot ∧ offset lo hi start slot ≤ hi - lo + 1 := by
  unfold offset
  split <;> omega

/-- One step: the next slot is in the range, one further, and is the start exactly when
the round is complete. -/
theorem next_spec {k cursor : Int} (h : CursorAt lo hi start k cursor) :
    lo ≤ next lo hi cursor ∧ next lo hi cursor ≤ hi ∧
      offset lo hi start (next lo hi cursor) = k + 1 ∧
      (next lo hi cursor = start ↔ k + 1 = hi - lo + 1) := by
  obtain ⟨h1, h2, h3⟩ := h
  unfold offset at h3
  unfold next offset
  rcases h3 with ⟨hk, rfl⟩ | ⟨hk, hne, ho⟩
  · split
    · split <;> omega
    · split <;> omega
  · split at ho
    · split
      · split <;> omega
      · split <;> omega
    · split
      · split <;> omega
      · split <;> omega

/-- The walk from its `k`-th step on, when all slots met so far are taken. -/
theorem probe_from (taken : Int → Bool) (fuel : Nat) :
    ∀ k cursor : Int, CursorAt lo hi start k cursor → hi - lo + 1 - k ≤ fuel →
      (∀ slot, lo ≤ slot → slot ≤ hi → offset lo hi start slot ≤ k → taken slot = true) →
      (∃ slot, probe lo hi taken start fuel cursor = .found slot ∧ lo ≤ slot ∧ slot ≤ hi ∧
        taken slot = false ∧
        ∀ slot', lo ≤ slot' → slot' ≤ hi →
          offset lo hi start slot' < offset lo hi start slot → taken slot' = true) ∨
      (probe lo hi taken start fuel cursor = .exhausted ∧
        ∀ slot, lo ≤ slot → slot ≤ hi → taken slot = true) := by
  induction fuel with
  | zero =>
    intro k cursor hc hf _
    exfalso
    obtain ⟨h1, h2, h3⟩ := hc
    have hb := offset_bounds hlo hhi h1 h2
    unfold offset at h3 hb
    rcases h3 with ⟨hk, _⟩ | ⟨hk, hne, ho⟩
    · omega
    · split at ho <;> omega
  | succ fuel ih =>
    intro k cursor hc hf htaken
    obtain ⟨n1, n2, no, nstart⟩ := next_spec hlo hhi hc
    unfold probe
    dsimp only
    by_cases hfree : taken (next lo hi cursor) = false
    · left
      rw [if_pos (by rw [hfree]; rfl)]
      refine ⟨_, rfl, n1, n2, hfree, fun slot' h1 h2 hlt => htaken slot' h1 h2 ?_⟩
      rw [no] at hlt
      omega
    · rw [Bool.not_eq_false] at hfree
      rw [if_neg (by rw [hfree]; simp)]
      have htaken' : ∀ slot, lo ≤ slot → slot ≤ hi → offset lo hi start slot ≤ k + 1 →
          taken slot = true := by
        intro slot h1 h2 ho
        by_cases hk : offset lo hi start slot ≤ k
        · exact htaken slot h1 h2 hk
        · have hsame : offset lo hi start slot = offset lo hi start (next lo hi cursor) := by omega
          rw [offset_injective h1 h2 n1 n2 hsame]
          exact hfree
      by_cases hs : next lo hi cursor = start
      · right
        rw [if_neg (by simpa using hs)]
        refine ⟨rfl, fun slot h1 h2 => htaken' slot h1 h2 ?_⟩
        have := (offset_bounds hlo hhi h1 h2).2
        have := nstart.mp hs
        omega
      · rw [if_pos hs]
        have hk0 : 0 ≤ k := by
          rcases hc.2.2 with ⟨hk, _⟩ | ⟨hk, _⟩ <;> omega
        exact ih (k + 1) _ ⟨n1, n2, Or.inr ⟨by omega, hs, no⟩⟩ (by omega) htaken'

/-- **One round of fuel is enough**, and the walk finds the first free slot. -/
theorem probe_spec (taken : Int → Bool) (fuel : Nat) (hf : hi - lo + 1 ≤ fuel) :
    (∃ slot, probe lo hi taken start fuel start = .found slot ∧ lo ≤ slot ∧ slot ≤ hi ∧
      taken slot = false ∧
      ∀ slot', lo ≤ slot' → slot' ≤ hi →
        offset lo hi start slot' < offset lo hi start slot → taken slot' = true) ∨
    (probe lo hi taken start fuel start = .exhausted ∧ ∀ slot, lo ≤ slot → slot ≤ hi → taken slot = true) := by
  refine probe_from hlo hhi taken fuel 0 start ⟨hlo, hhi, Or.inl ⟨rfl, rfl⟩⟩ (by omega) ?_
  intro slot h1 h2 ho
  have := (offset_bounds hlo hhi h1 h2).1
  omega

end

end CyclicProbe
