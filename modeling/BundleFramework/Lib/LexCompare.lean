import Mathlib

/-!
# Lexicographic comparison by a partial comparator

`lex c` compares two lists by the first place at which `c` does not answer zero; the list that
ends first is the lesser one.  `c` need not answer: the comparison is then undefined from that place on.

Where `c` is `fine` it goes by the `rank` of the two elements in a linear order, and elsewhere it is
undefined or puts each of the two above the other.  The comparison of two lists is then that of
their ranks just when they are `Settled`: `c` is fine up to the first place that differs.
-/

namespace LexCompare

variable {α κ : Type} [LinearOrder κ]

/-- The comparison of two elements of a linear order, as a sign. -/
def cmpSign (x y : κ) : Int := if x < y then -1 else if y < x then 1 else 0

section Sign

variable (x y : κ)

theorem cmpSign_self : cmpSign x x = 0 := by simp [cmpSign]

theorem cmpSign_cases : cmpSign x y = -1 ∧ x < y ∨ cmpSign x y = 0 ∧ x = y ∨ cmpSign x y = 1 ∧ y < x := by
  unfold cmpSign
  rcases lt_trichotomy x y with h | h | h
  · exact .inl ⟨if_pos h, h⟩
  · exact .inr (.inl ⟨by simp [h], h⟩)
  · exact .inr (.inr ⟨by rw [if_neg h.asymm, if_pos h], h⟩)

variable {x y}

theorem cmpSign_of_lt (h : x < y) : cmpSign x y = -1 := if_pos h

theorem cmpSign_of_gt (h : y < x) : cmpSign x y = 1 := by
  unfold cmpSign
  rw [if_neg h.asymm, if_pos h]

theorem cmpSign_eq_zero_iff : cmpSign x y = 0 ↔ x = y := by
  rcases cmpSign_cases x y with ⟨h, h'⟩ | ⟨h, h'⟩ | ⟨h, h'⟩ <;> rw [h]
  · simp [h'.ne]
  · simp [h']
  · simp [h'.ne']

theorem cmpSign_pos_iff : 0 < cmpSign x y ↔ y < x := by
  rcases cmpSign_cases x y with ⟨h, h'⟩ | ⟨h, h'⟩ | ⟨h, h'⟩ <;> rw [h]
  · simp [h'.le]
  · simp [h']
  · simp [h']

theorem cmpSign_eq_one_iff : cmpSign x y = 1 ↔ y < x := by
  rw [← cmpSign_pos_iff]
  rcases cmpSign_cases x y with ⟨h, -⟩ | ⟨h, -⟩ | ⟨h, -⟩ <;> rw [h] <;> simp

theorem cmpSign_le_zero_iff : cmpSign x y ≤ 0 ↔ x ≤ y := by
  rw [← not_lt, ← not_lt, cmpSign_pos_iff]

theorem cmpSign_swap : cmpSign x y = - cmpSign y x := by
  rcases cmpSign_cases x y with ⟨h, h'⟩ | ⟨h, h'⟩ | ⟨h, h'⟩ <;> rw [h]
  · rw [cmpSign_of_gt h']
  · rw [h', cmpSign_self]
    rfl
  · rw [cmpSign_of_lt h']
    rfl

theorem sign_cmpSign : (cmpSign x y).sign = cmpSign x y := by
  rcases cmpSign_cases x y with ⟨h, -⟩ | ⟨h, -⟩ | ⟨h, -⟩ <;> rw [h] <;> rfl

/-- The heads of two lists decide, and where they are the same the tails. -/
theorem cmpSign_cons (xs ys : List κ) :
    cmpSign (x :: xs) (y :: ys) = if x = y then cmpSign xs ys else cmpSign x y := by
  have hlt : ∀ {x y : κ} {xs ys : List κ}, x < y ∨ x = y ∧ xs < ys → x :: xs < y :: ys := List.cons_lt_cons_iff.mpr
  by_cases h : x = y
  · subst h
    rw [if_pos rfl]
    rcases cmpSign_cases xs ys with ⟨hsign, htails⟩ | ⟨hsign, rfl⟩ | ⟨hsign, htails⟩
    · rw [hsign, cmpSign_of_lt (hlt (.inr ⟨rfl, htails⟩))]
    · rw [hsign, cmpSign_self]
    · rw [hsign, cmpSign_of_gt (hlt (.inr ⟨rfl, htails⟩))]
  · rw [if_neg h]
    rcases lt_or_gt_of_ne h with h | h
    · rw [cmpSign_of_lt h, cmpSign_of_lt (hlt (.inl h))]
    · rw [cmpSign_of_gt h, cmpSign_of_gt (hlt (.inl h))]

end Sign

def lex (c : α → α → Option Int) : List α → List α → Option Int
  | [], [] => some 0
  | [], _ :: _ => some (-1)
  | _ :: _, [] => some 1
  | x :: xs, y :: ys => (c x y).bind fun res => if res ≠ 0 then some res else lex c xs ys

/-- `fine` says when `c` goes by the ranks; where it does not, it has no answer or the one that the left element
is the greater, from either side. -/
structure Comparator (c : α → α → Option Int) (fine : α → α → Prop) (rank : α → κ) : Prop where
  fine_symm : ∀ x y, fine x y → fine y x
  of_fine : ∀ x y, fine x y → c x y = some (cmpSign (rank x) (rank y))
  of_not_fine : ∀ x y, ¬ fine x y → c x y = none ∨ c x y = some 1

/-- `c` is fine up to the first place that differs. -/
def Settled (fine : α → α → Prop) (rank : α → κ) : List α → List α → Prop
  | x :: xs, y :: ys => fine x y ∧ (rank x = rank y → Settled fine rank xs ys)
  | _, _ => True

section

variable {c : α → α → Option Int} {fine : α → α → Prop} {rank : α → κ} {x y : α} {xs ys : List α}

theorem lex_cons_of_zero (h : c x y = some 0) : lex c (x :: xs) (y :: ys) = lex c xs ys := by
  rw [lex, h]
  rfl

theorem lex_cons_of_none (h : c x y = none) : lex c (x :: xs) (y :: ys) = none := by
  rw [lex, h]
  rfl

theorem lex_cons_of_some {res : Int} (h : c x y = some res) (hne : res ≠ 0) :
    lex c (x :: xs) (y :: ys) = some res := by
  rw [lex, h]
  exact if_pos hne

theorem lex_map {β : Type} (f : α → β) (c : α → α → Option Int) (c' : β → β → Option Int)
    (h : ∀ x y, c' (f x) (f y) = c x y) (xs ys : List α) : lex c' (xs.map f) (ys.map f) = lex c xs ys := by
  induction xs generalizing ys with
  | nil => cases ys <;> rfl
  | cons x xs ih =>
    cases ys with
    | nil => rfl
    | cons y ys => simp only [List.map_cons, lex, h, ih]

omit [LinearOrder κ] in
theorem settled_of_forall (h : ∀ x ∈ xs, ∀ y ∈ ys, fine x y) : Settled fine rank xs ys := by
  induction xs generalizing ys with
  | nil => trivial
  | cons x xs ih =>
    cases ys with
    | nil => trivial
    | cons y ys =>
      refine ⟨h x List.mem_cons_self y List.mem_cons_self, fun _ => ih fun x' hx' y' hy' => ?_⟩
      exact h x' (List.mem_cons_of_mem _ hx') y' (List.mem_cons_of_mem _ hy')

/-- **Settled lists** compare as the lists of their ranks. -/
theorem Comparator.lex_of_settled (hc : Comparator c fine rank) (h : Settled fine rank xs ys) :
    lex c xs ys = some (cmpSign (xs.map rank) (ys.map rank)) := by
  induction xs generalizing ys with
  | nil =>
    cases ys with
    | nil => rfl
    | cons y ys => exact congrArg some (cmpSign_of_lt (by simp)).symm
  | cons x xs ih =>
    cases ys with
    | nil => exact congrArg some (cmpSign_of_gt (by simp)).symm
    | cons y ys =>
      have hcompare := hc.of_fine x y h.1
      rw [List.map_cons, List.map_cons, cmpSign_cons]
      by_cases hrank : rank x = rank y
      · rw [hrank, cmpSign_self] at hcompare
        rw [lex_cons_of_zero hcompare, if_pos hrank]
        exact ih (h.2 hrank)
      · rw [if_neg hrank]
        exact lex_cons_of_some hcompare fun h0 => hrank (cmpSign_eq_zero_iff.mp h0)

/-- Lists that compare the one way and the other way round are settled. -/
theorem Comparator.settled_of_antisymm (hc : Comparator c fine rank) {res : Int} (h : lex c xs ys = some res)
    (h' : lex c ys xs = some (-res)) : Settled fine rank xs ys := by
  induction xs generalizing ys with
  | nil => trivial
  | cons x xs ih =>
    cases ys with
    | nil => trivial
    | cons y ys =>
      by_cases hfine : fine x y
      · refine ⟨hfine, fun hrank => ?_⟩
        have hcompare := hc.of_fine x y hfine
        have hback := hc.of_fine y x (hc.fine_symm x y hfine)
        rw [hrank, cmpSign_self] at hcompare hback
        rw [lex_cons_of_zero hcompare] at h
        rw [lex_cons_of_zero hback] at h'
        exact ih h h'
      · exfalso
        have hback : ¬ fine y x := fun hfine' => hfine (hc.fine_symm y x hfine')
        rcases hc.of_not_fine x y hfine with hnone | hone
        · rw [lex_cons_of_none hnone] at h
          cases h
        rcases hc.of_not_fine y x hback with hnone | hone'
        · rw [lex_cons_of_none hnone] at h'
          cases h'
        rw [lex_cons_of_some hone one_ne_zero] at h
        rw [lex_cons_of_some hone' one_ne_zero] at h'
        have hres := Option.some.inj h
        have hres' := Option.some.inj h'
        omega

/-- What `c` answers are signs, and so is what the lists are compared as. -/
theorem sign_lex (h : ∀ x y res, c x y = some res → res.sign = res) {res : Int} (hres : lex c xs ys = some res) :
    res.sign = res := by
  induction xs generalizing ys with
  | nil => cases ys <;> cases hres <;> rfl
  | cons x xs ih =>
    cases ys with
    | nil =>
      cases hres
      rfl
    | cons y ys =>
      rw [lex] at hres
      obtain ⟨head, hhead, hrest⟩ := Option.bind_eq_some_iff.mp hres
      split at hrest
      · obtain rfl := Option.some.inj hrest
        exact h x y head hhead
      · exact ih hrest

end

end LexCompare
