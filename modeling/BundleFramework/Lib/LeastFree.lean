import Mathlib

/-!
# The least free index

`search` counts up from an index until it meets one that is not taken.  If only finitely many
are taken, it ends, and what it has met is the least free index from its start on.

`runEnd` finds the same in the sorted list of the taken indexes, as the first hole of the list.
-/

namespace LeastFree

/-- `none` if `fuel` runs out before a free index is met. -/
def search (taken : Int → Bool) : Nat → Int → Option Int
  | 0, _ => none
  | fuel + 1, candidate => if taken candidate then search taken fuel (candidate + 1) else some candidate

variable {taken : Int → Bool}

theorem isLeast_of_search {fuel : Nat} {start i : Int} (h : search taken fuel start = some i) :
    IsLeast {j | start ≤ j ∧ taken j = false} i := by
  induction fuel generalizing start with
  | zero => cases h
  | succ fuel ih =>
    rw [search] at h
    split at h
    · next htaken =>
      have hrest := ih h
      have hi := hrest.1.1
      refine ⟨⟨by omega, hrest.1.2⟩, fun j hj => ?_⟩
      obtain ⟨hle, hfree⟩ := hj
      have hne : j ≠ start := by
        rintro rfl
        rw [htaken] at hfree
        cases hfree
      exact hrest.2 ⟨by omega, hfree⟩
    · next htaken =>
      cases h
      exact ⟨⟨le_refl _, by simpa using htaken⟩, fun j hj => hj.1⟩

theorem lt_of_search {fuel : Nat} {start i : Int} (h : search taken fuel start = some i) : i < start + fuel := by
  induction fuel generalizing start with
  | zero => cases h
  | succ fuel ih =>
    rw [search] at h
    split at h
    · have := ih h
      omega
    · cases h
      omega

/-- All indexes are taken that were passed without meeting a free one. -/
theorem taken_of_search_none {fuel : Nat} {start : Int} (h : search taken fuel start = none) :
    ∀ k : Nat, k < fuel → taken (start + k) = true := by
  induction fuel generalizing start with
  | zero =>
    intro k hk
    omega
  | succ fuel ih =>
    rw [search] at h
    split at h
    · next htaken =>
      intro k hk
      cases k with
      | zero => simpa using htaken
      | succ k =>
        have := ih h k (by omega)
        rw [← this]
        congr 1
        push_cast
        ring
    · cases h

/-- **The search ends**: more steps are never needed than there are taken indexes, and one. -/
theorem search_spec {s : Finset Int} (hs : ∀ i, taken i = true → i ∈ s) {fuel : Nat} (hfuel : s.card < fuel)
    (start : Int) : ∃ i, search taken fuel start = some i ∧ IsLeast {j | start ≤ j ∧ taken j = false} i := by
  cases h : search taken fuel start with
  | some i => exact ⟨i, rfl, isLeast_of_search h⟩
  | none =>
    have hsub : (Finset.range fuel).image (fun k : Nat => start + k) ⊆ s := by
      intro i hi
      obtain ⟨k, hk, rfl⟩ := Finset.mem_image.mp hi
      exact hs _ (taken_of_search_none h k (Finset.mem_range.mp hk))
    have hcard := Finset.card_le_card hsub
    rw [Finset.card_image_of_injective _ (fun a b hab => by simpa using hab), Finset.card_range] at hcard
    omega

/-! ## The first hole of a sorted list -/

/-- How far the list counts on from `pre` without a hole. -/
def runEnd (pre : Int) : List Int → Int
  | [] => pre
  | item :: rest => if item = pre + 1 then runEnd (pre + 1) rest else pre

theorem runEnd_spec {pre : Int} {l : List Int} (hsorted : l.Pairwise (· < ·)) (hpre : ∀ i ∈ l, pre < i) :
    IsLeast {i | pre < i ∧ i ∉ l} (runEnd pre l + 1) := by
  induction l generalizing pre with
  | nil =>
    refine ⟨⟨by show pre < pre + 1; omega, List.not_mem_nil⟩, ?_⟩
    rintro i ⟨hi, -⟩
    exact hi
  | cons item rest ih =>
    obtain ⟨hitem, hrest⟩ := List.pairwise_cons.mp hsorted
    rw [runEnd]
    split
    · next heq =>
      have hset : {i | pre < i ∧ i ∉ item :: rest} = {i | pre + 1 < i ∧ i ∉ rest} := by
        ext i
        rw [Set.mem_ofPred_eq, Set.mem_ofPred_eq, List.mem_cons, not_or]
        constructor
        · rintro ⟨hi, hne, hnot⟩
          exact ⟨by omega, hnot⟩
        · rintro ⟨hi, hnot⟩
          exact ⟨by omega, by omega, hnot⟩
      rw [hset]
      exact ih hrest fun i hi => heq ▸ hitem i hi
    · next hne =>
      have hfirst : pre < item := hpre item List.mem_cons_self
      refine ⟨⟨by omega, ?_⟩, ?_⟩
      · intro hmem
        rcases List.mem_cons.mp hmem with heq | hmem
        · exact hne heq.symm
        · have := hitem _ hmem
          omega
      · rintro i ⟨hi, -⟩
        exact hi

end LeastFree
