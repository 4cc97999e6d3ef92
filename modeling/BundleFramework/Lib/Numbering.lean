import BundleFramework.Lib.LeastFree

/-!
# Numbers given to keys

A numbering gives a number of a range to some keys, and different numbers to different keys.
A further key gets the least free number; there is one as long as the keys are not more than
the numbers (`exists_free`).
-/

namespace Numbering

variable {K : Type}

structure Lawful (lo hi : Int) (number : K → Option Int) : Prop where
  lower : ∀ {k i}, number k = some i → lo ≤ i
  upper : ∀ {k i}, number k = some i → i < hi
  injective : ∀ {k k' i}, number k = some i → number k' = some i → k = k'

variable {lo hi : Int} {number : K → Option Int} [DecidableEq K]

theorem Lawful.update (h : Lawful lo hi number) (k : K) {i : Int} (hlo : lo ≤ i) (hhi : i < hi)
    (hfree : ∀ k', number k' ≠ some i) : Lawful lo hi (Function.update number k (some i)) := by
  constructor
  · intro k' j hj
    by_cases hk : k' = k
    · rw [hk, Function.update_self] at hj
      cases hj
      exact hlo
    · rw [Function.update_of_ne hk] at hj
      exact h.lower hj
  · intro k' j hj
    by_cases hk : k' = k
    · rw [hk, Function.update_self] at hj
      cases hj
      exact hhi
    · rw [Function.update_of_ne hk] at hj
      exact h.upper hj
  · intro a b j ha hb
    by_cases hak : a = k
    · by_cases hbk : b = k
      · rw [hak, hbk]
      · rw [hak, Function.update_self] at ha
        rw [Function.update_of_ne hbk] at hb
        cases ha
        exact absurd hb (hfree b)
    · rw [Function.update_of_ne hak] at ha
      by_cases hbk : b = k
      · rw [hbk, Function.update_self] at hb
        cases hb
        exact absurd ha (hfree a)
      · rw [Function.update_of_ne hbk] at hb
        exact h.injective ha hb

/-- There is room for one more key among `keys`, and the search finds it. -/
theorem exists_free {keys : Finset K} {k : K} {taken : Int → Bool}
    (hkeys : ∀ k' i, number k' = some i → k' ∈ keys) (hk : k ∈ keys) (hnone : number k = none)
    (hroom : keys.card ≤ (hi - lo).toNat) (htaken : ∀ i, taken i = true → ∃ k', number k' = some i) :
    ∃ i, LeastFree.search taken (hi - lo).toNat lo = some i ∧ lo ≤ i ∧ i < hi ∧ taken i = false := by
  have hin : ∀ i, taken i = true → i ∈ (keys.erase k).image fun k' => (number k').getD 0 := by
    intro i hi
    obtain ⟨k', hk'⟩ := htaken i hi
    refine Finset.mem_image.mpr ⟨k', Finset.mem_erase.mpr ⟨?_, hkeys k' i hk'⟩, by rw [hk', Option.getD_some]⟩
    rintro rfl
    rw [hnone] at hk'
    cases hk'
  have hcard : ((keys.erase k).image fun k' => (number k').getD 0).card < (hi - lo).toNat := by
    have himage := Finset.card_image_le (s := keys.erase k) (f := fun k' => (number k').getD 0)
    have herase := Finset.card_erase_lt_of_mem hk
    omega
  obtain ⟨i, hsearch, hleast⟩ := LeastFree.search_spec hin hcard lo
  have hlt := LeastFree.lt_of_search hsearch
  exact ⟨i, hsearch, hleast.1.1, by omega, hleast.1.2⟩

end Numbering
