import Mathlib

/-!
# Lists with one item for each key, and walks of hash maps

`remove` takes out the first item of a key, `put` replaces it by a new last item.  In a list
whose keys differ both act on that key only.

A hash map is walked in an order of its own: `WalkOrder` is any function that lists the entries
of a map, and what is proved of it holds of every such order.
-/

namespace KeyedList

open Std

variable {A K V : Type} (key : A → K)

def Distinct (items : List A) : Prop := items.Pairwise fun a b => key a ≠ key b

variable {key} {items : List A} {item : A} {k : K}

theorem eq_of_key_eq (hitems : Distinct key items) {a b : A} (ha : a ∈ items) (hb : b ∈ items)
    (h : key a = key b) : a = b := by
  have hsymm : Std.Symm fun a b : A => key a ≠ key b := ⟨fun _ _ h => h.symm⟩
  by_contra hne
  exact List.Pairwise.forall hitems ha hb hne h

section
variable [DecidableEq K] (key)

def remove (k : K) (items : List A) : List A := items.eraseP fun item => key item = k

def put (items : List A) (item : A) : List A := remove key (key item) items ++ [item]

instance (items : List A) : Decidable (Distinct key items) :=
  inferInstanceAs (Decidable (items.Pairwise fun a b => key a ≠ key b))

variable {key}

theorem mem_of_mem_remove (h : item ∈ remove key k items) : item ∈ items := List.mem_of_mem_eraseP h

theorem mem_remove_iff (hitems : Distinct key items) : item ∈ remove key k items ↔ item ∈ items ∧ key item ≠ k := by
  induction items with
  | nil => simp [remove]
  | cons first rest ih =>
    obtain ⟨hfirst, hrest⟩ := List.pairwise_cons.mp hitems
    unfold remove
    by_cases hk : key first = k
    · rw [List.eraseP_cons_of_pos (by simpa using hk), List.mem_cons]
      constructor
      · intro hmem
        exact ⟨.inr hmem, fun e => hfirst item hmem (hk.trans e.symm)⟩
      · rintro ⟨rfl | hmem, hne⟩
        · exact absurd hk hne
        · exact hmem
    · rw [List.eraseP_cons_of_neg (by simpa using hk), List.mem_cons, List.mem_cons]
      have hih : item ∈ rest.eraseP (fun item => key item = k) ↔ item ∈ rest ∧ key item ≠ k := ih hrest
      rw [hih, or_and_right]
      refine or_congr_left ⟨?_, And.left⟩
      rintro rfl
      exact ⟨rfl, hk⟩

theorem Distinct.remove (hitems : Distinct key items) (k : K) : Distinct key (remove key k items) :=
  List.Pairwise.sublist List.eraseP_sublist hitems

theorem mem_put_iff (hitems : Distinct key items) {a : A} :
    a ∈ put key items item ↔ a ∈ items ∧ key a ≠ key item ∨ a = item := by
  unfold put
  rw [List.mem_append, mem_remove_iff hitems, List.mem_singleton]

theorem Distinct.put (hitems : Distinct key items) (item : A) : Distinct key (put key items item) := by
  refine List.pairwise_append.mpr ⟨hitems.remove _, List.pairwise_singleton _ _, fun a ha b hb => ?_⟩
  rw [List.mem_singleton.mp hb]
  exact ((mem_remove_iff hitems).mp ha).2

end

/-! ## Walks -/

/-- An order in which the entries of a hash map are met. -/
structure WalkOrder (K V : Type) [Ord K] [TransOrd K] where
  walk : ExtTreeMap K V → List (K × V)
  perm : ∀ m, (walk m).Perm m.toList

variable [Ord K] [TransOrd K]

/-- One of the orders: by keys. -/
def WalkOrder.sorted : WalkOrder K V := ⟨fun m => m.toList, fun _ => .refl _⟩

variable [LawfulEqOrd K] (order : WalkOrder K V) {m : ExtTreeMap K V} {v : V}

theorem WalkOrder.mem_iff : (k, v) ∈ order.walk m ↔ m[k]? = some v := by
  rw [(order.perm m).mem_iff, ExtTreeMap.mem_toList_iff_getElem?_eq_some]

end KeyedList
