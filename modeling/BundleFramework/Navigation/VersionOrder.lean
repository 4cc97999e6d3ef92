import BundleFramework.Navigation.SemVer

/-!
# When the version comparison is an order

`Compare` goes through the identifiers of two versions and lets the first difference decide.  On
arbitrary texts it is not a preorder: an identifier with a character other than a letter or a digit makes
`CompareIdentifiers` answer 1 on whichever side it stands, and of a number that is no `int` the comparison is
undefined.

Those are the only ways in which it fails.  On any set of texts `Compare` is a total preorder just when any two
different texts are `ToldApart`: no such identifier is compared up to the first place at which they differ.
-/

namespace BundleFramework

open LexCompare

/-- `Compare` answers, and answers at most 0. -/
def CompareLe (u v : Str) : Prop := ∃ res, compareVersion u v = some res ∧ res ≤ 0

/-- `Compare` is a total preorder on a set of texts. -/
structure TotalPreorderOn (S : Set Str) : Prop where
  antisymm : ∀ u ∈ S, ∀ v ∈ S, ∃ res, compareVersion u v = some res ∧ compareVersion v u = some (-res)
  trans : ∀ u ∈ S, ∀ v ∈ S, ∀ w ∈ S, CompareLe u v → CompareLe v w → CompareLe u w

theorem ToldApart.of_antisymm {u v : Str} {res : Int} (hne : u ≠ v) (h : compareVersion u v = some res)
    (h' : compareVersion v u = some (-res)) : ToldApart u v := by
  rw [compareVersion_eq_lex hne] at h
  rw [compareVersion_eq_lex hne.symm] at h'
  exact slot_comparator.settled_of_antisymm h h'

theorem compareLe_iff {u v : Str} (h : u ≠ v → ToldApart u v) : CompareLe u v ↔ versionRank u ≤ versionRank v := by
  unfold CompareLe
  rw [compareVersion_of_settled h, ← cmpSign_le_zero_iff]
  simp

/-- **When `Compare` is a total preorder** on a set of texts: any two different ones are told apart by
identifiers that it can compare. -/
theorem compareVersion_preorder_iff (S : Set Str) :
    TotalPreorderOn S ↔ ∀ u ∈ S, ∀ v ∈ S, u ≠ v → ToldApart u v := by
  constructor
  · intro hS u hu v hv hne
    obtain ⟨res, h, h'⟩ := hS.antisymm u hu v hv
    exact .of_antisymm hne h h'
  · intro hapart
    constructor
    · intro u hu v hv
      refine ⟨cmpSign (versionRank u) (versionRank v), compareVersion_of_settled (hapart u hu v hv), ?_⟩
      rw [compareVersion_of_settled (hapart v hv u hu), cmpSign_swap]
    · intro u hu v hv w hw huv hvw
      rw [compareLe_iff (hapart u hu v hv)] at huv
      rw [compareLe_iff (hapart v hv w hw)] at hvw
      rw [compareLe_iff (hapart u hu w hw)]
      exact huv.trans hvw

/-- Two prereleases with a hyphen in their identifier are each greater than the other. -/
theorem compareVersion_not_preorder : ¬ TotalPreorderOn Set.univ := by
  intro h
  obtain ⟨res, hres, hback⟩ := h.antisymm "1.0.0-rc-1".toList trivial "1.0.0-rc-2".toList trivial
  have hone : compareVersion "1.0.0-rc-1".toList "1.0.0-rc-2".toList = some 1 := by decide
  have hone' : compareVersion "1.0.0-rc-2".toList "1.0.0-rc-1".toList = some 1 := by decide
  rw [hone] at hres
  rw [hone'] at hback
  cases hres
  cases hback

end BundleFramework
