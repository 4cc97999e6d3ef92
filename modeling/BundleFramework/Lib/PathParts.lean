import Mathlib

/-!
# Places of a directory tree

A path is a text with slashes.  What it names is the list of its components, where an
empty component and `.` name nothing; a directory contains the places below its own
components.
-/

namespace PathParts

def components (path : List Char) : List (List Char) :=
  (path.splitOn '/').filter fun part => part != [] && part != ['.']

/-- The directory named by `dir` is the place `place` or contains it. -/
def Covers (dir : List Char) (place : List (List Char)) : Prop := components dir <+: place

instance (dir : List Char) (place : List (List Char)) : Decidable (Covers dir place) :=
  inferInstanceAs (Decidable (components dir <+: place))

@[simp]
theorem components_append_slash (a b : List Char) : components (a ++ '/' :: b) = components a ++ components b := by
  unfold components
  rw [List.splitOn_append_cons_self, List.filter_append]

theorem components_eq_singleton {part : List Char} (hslash : '/' ∉ part) (hne : part ≠ []) (hdot : part ≠ ['.']) :
    components part = [part] := by
  unfold components
  rw [List.splitOn_eq_singleton hslash]
  simp [hne, hdot]

/-- A component longer than `.` without a slash. -/
theorem components_eq_singleton_of_length {part : List Char} (hslash : '/' ∉ part) (hlen : 1 < part.length) :
    components part = [part] := by
  refine components_eq_singleton hslash ?_ ?_
  · rintro rfl
    simp at hlen
  · rintro rfl
    simp at hlen

/-- Below a common root, the first components decide. -/
theorem first_eq_of_covered {root rest place : List (List Char)} {top top' : List Char}
    (hdir : root ++ top :: rest <+: place) (hplace : root ++ [top'] <+: place) : top = top' := by
  obtain ⟨below, rfl⟩ := hplace
  rw [List.append_assoc, List.prefix_append_right_inj, List.singleton_append, List.cons_prefix_cons] at hdir
  exact hdir.1

end PathParts
