import BundleFramework.Lib.PathParts

/-!
# Lexical normal forms of paths

The normal form of an absolute path is the place that is left when its components are walked
from the top of the tree and `..` goes one level up, where the top is above itself.  A walk
that meets no `..` ends below the place it starts from.
-/

namespace NormalPath

open PathParts

def dotDot : List Char := ['.', '.']

def step (place : List (List Char)) (part : List Char) : List (List Char) :=
  if part = dotDot then place.dropLast else place ++ [part]

def normal (path : List Char) : List (List Char) := (components path).foldl step []

theorem normal_append_slash (a b : List Char) : normal (a ++ '/' :: b) = (components b).foldl step (normal a) := by
  unfold normal
  rw [components_append_slash, List.foldl_append]

theorem foldl_step_of_plain {parts : List (List Char)} (h : dotDot ∉ parts) (place : List (List Char)) :
    parts.foldl step place = place ++ parts := by
  induction parts generalizing place with
  | nil => simp
  | cons part parts ih =>
    have hpart : part ≠ dotDot := fun e => h (e ▸ List.mem_cons_self)
    have hparts : dotDot ∉ parts := fun hmem => h (List.mem_cons_of_mem _ hmem)
    rw [List.foldl_cons, step, if_neg hpart, ih hparts, List.append_assoc, List.singleton_append]

/-- **No way up**: below a path, components without `..` stay below. -/
theorem normal_of_plain {b : List Char} (h : dotDot ∉ components b) (a : List Char) :
    normal (a ++ '/' :: b) = normal a ++ components b := by
  rw [normal_append_slash, foldl_step_of_plain h]

/-- A piece between separators is the whole text or stands next to a separator. -/
theorem separator_of_mem_splitOn {sep : Char} {s piece : List Char} (h : piece ∈ s.splitOn sep) :
    s = piece ∨ piece ++ [sep] <:+: s ∨ sep :: piece <:+: s := by
  induction hn : s.length using Nat.strong_induction_on generalizing s with
  | _ n ih =>
    subst hn
    by_cases hsep : sep ∈ s
    · obtain ⟨a, b, rfl, ha⟩ := List.eq_append_cons_of_mem hsep
      rw [List.splitOn_append_cons_self, List.splitOn_eq_singleton ha, List.singleton_append] at h
      rcases List.mem_cons.mp h with rfl | hb
      · exact .inr (.inl ⟨[], b, by simp⟩)
      · -- the pieces behind the first separator
        have hsuffix : b <:+: a ++ sep :: b := (List.suffix_append_of_suffix (List.suffix_cons sep b)).isInfix
        rcases ih b.length (by simp; omega) hb rfl with rfl | hright | hleft
        · exact .inr (.inr (List.suffix_append a _).isInfix)
        · exact .inr (.inl (hright.trans hsuffix))
        · exact .inr (.inr (hleft.trans hsuffix))
    · rw [List.splitOn_eq_singleton hsep] at h
      exact .inl (List.mem_singleton.mp h).symm

/-- A text with neither `../` nor `/..` in it that is not `..` has no component `..`. -/
theorem plain_of_no_infix {s : List Char} (hself : s ≠ dotDot) (hright : ¬ dotDot ++ ['/'] <:+: s)
    (hleft : ¬ '/' :: dotDot <:+: s) : dotDot ∉ components s := by
  intro h
  rcases separator_of_mem_splitOn (List.mem_of_mem_filter h) with hs | hs | hs
  · exact hself hs
  · exact hright hs
  · exact hleft hs

/-- A text without separators changes the last piece only. -/
theorem mem_splitOn_append {sep : Char} {s t piece : List Char} (ht : sep ∉ t) (h : piece ∈ (s ++ t).splitOn sep) :
    piece ∈ s.splitOn sep ∨ ∃ start, piece = start ++ t := by
  induction hn : s.length using Nat.strong_induction_on generalizing s with
  | _ n ih =>
    subst hn
    by_cases hsep : sep ∈ s
    · obtain ⟨a, b, rfl, ha⟩ := List.eq_append_cons_of_mem hsep
      rw [List.append_assoc, List.cons_append, List.splitOn_append_cons_self] at h
      rw [List.splitOn_append_cons_self]
      rcases List.mem_append.mp h with hpiece | hpiece
      · exact .inl (List.mem_append_left _ hpiece)
      · exact (ih b.length (by simp; omega) hpiece rfl).imp_left fun hb => List.mem_append_right _ hb
    · have hnone : sep ∉ s ++ t := fun hmem => (List.mem_append.mp hmem).elim hsep ht
      rw [List.splitOn_eq_singleton hnone, List.mem_singleton] at h
      exact .inr ⟨s, h⟩

end NormalPath
