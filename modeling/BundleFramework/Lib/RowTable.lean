import Mathlib

/-!
# Tables of rows

A table is the list of its rows in row-id order.  Whether the store carries out a
statement is an input (`ok`); a statement it refuses changes nothing.  A batch insert
reports how many of its rows it stored, a prefix of them.

`UniqueKey key t` says that no two rows agree in `key`, where no constraint of the store
enforces it: deleting keeps it, appending and rewriting keep it exactly when the new keys
collide with nothing.

`OrderBy rank` is an ordered query: the rows asked for, sorted by `rank`, in any order
among equal ranks.
-/

namespace RowTable

variable {ρ κ ι : Type}

/-! ## Statements -/

def deleteWhere (ok : Bool) (p : ρ → Bool) (t : List ρ) : Bool × List ρ :=
  if ok then (true, t.filter fun r => !p r) else (false, t)

def insertRow (ok : Bool) (r : ρ) (t : List ρ) : Bool × List ρ :=
  if ok then (true, t ++ [r]) else (false, t)

/-- What the store answers to a batch insert. -/
structure BatchOutcome where
  ok : Bool
  inserted : Nat

def batchInsert (out : BatchOutcome) (rows t : List ρ) : Bool × Nat × List ρ :=
  if out.ok then (true, (rows.take out.inserted).length, t ++ rows.take out.inserted) else (false, 0, t)

/-- The number of rows rewritten comes with the table. -/
def updateWhere (ok : Bool) (p : ρ → Bool) (f : ρ → ρ) (t : List ρ) : Bool × Nat × List ρ :=
  if ok then (true, t.countP p, t.map fun r => if p r then f r else r) else (false, 0, t)

/-- A sequence of deletes that stops at the first one refused; `ok` gives the answer to
the delete number `i`, `i + 1`, .... -/
def deleteEach (ok : Nat → Bool) (p : ι → ρ → Bool) : Nat → List ι → List ρ → Bool × List ρ
  | _, [], t => (true, t)
  | i, x :: xs, t =>
    if (deleteWhere (ok i) (p x) t).1 then deleteEach ok p (i + 1) xs (deleteWhere (ok i) (p x) t).2
    else (false, (deleteWhere (ok i) (p x) t).2)

/-- An ordered query. -/
structure OrderBy (rank : ρ → Int) where
  sort : List ρ → List ρ
  perm : ∀ l, (sort l).Perm l
  sorted : ∀ l, (sort l).Pairwise fun a b => rank a ≤ rank b

/-! ## What the statements leave -/

/-- A delete removes rows the predicate selects, or nothing. -/
theorem deleteWhere_snd (ok : Bool) (p : ρ → Bool) (t : List ρ) :
    (deleteWhere ok p t).2 = t.filter fun r => !(ok && p r) := by
  cases ok with
  | false => exact (List.filter_eq_self.mpr fun _ _ => rfl).symm
  | true => rfl

/-- A run of deletes removes a selection of the rows of its predicates. -/
theorem deleteEach_sublist (ok : Nat → Bool) (p : ι → ρ → Bool) (i : Nat) (xs : List ι) (t : List ρ) :
    (deleteEach ok p i xs t).2.Sublist t := by
  induction xs generalizing i t with
  | nil => exact List.Sublist.refl t
  | cons x xs ih =>
    have h1 : (deleteWhere (ok i) (p x) t).2.Sublist t := by
      rw [deleteWhere_snd]
      exact List.filter_sublist
    unfold deleteEach
    split
    · exact (ih (i + 1) _).trans h1
    · exact h1

/-- When no delete is refused, exactly the selected rows are gone. -/
theorem deleteEach_of_fst (ok : Nat → Bool) (p : ι → ρ → Bool) (i : Nat) (xs : List ι) (t : List ρ)
    (h : (deleteEach ok p i xs t).1 = true) :
    (deleteEach ok p i xs t).2 = t.filter fun r => !xs.any (p · r) := by
  induction xs generalizing i t with
  | nil => exact (List.filter_eq_self.mpr fun _ _ => rfl).symm
  | cons x xs ih =>
    unfold deleteEach at h ⊢
    split at h
    · next hok =>
      rw [if_pos hok, ih (i + 1) _ h, deleteWhere_snd, List.filter_filter]
      have hi : ok i = true := by
        unfold deleteWhere at hok
        split at hok
        · assumption
        · cases hok
      refine List.filter_congr fun r _ => ?_
      simp [hi, Bool.and_comm]
    · cases h

/-- The run of deletes goes through when the store accepts each of them. -/
theorem deleteEach_fst_iff (ok : Nat → Bool) (p : ι → ρ → Bool) (i : Nat) (xs : List ι) (t : List ρ) :
    (deleteEach ok p i xs t).1 = true ↔ ∀ j < xs.length, ok (i + j) = true := by
  induction xs generalizing i t with
  | nil => simp [deleteEach]
  | cons x xs ih =>
    have hfst : (deleteWhere (ok i) (p x) t).1 = ok i := by
      unfold deleteWhere
      cases ok i <;> rfl
    unfold deleteEach
    rw [hfst]
    by_cases h : ok i = true
    · rw [if_pos h, ih]
      constructor
      · intro hall j hj
        cases j with
        | zero => exact h
        | succ j =>
          have := hall j (by simp at hj; omega)
          rw [← this]
          congr 1
          omega
      · intro hall j hj
        have := hall (j + 1) (by simp; omega)
        rw [← this]
        congr 1
        omega
    · rw [if_neg h]
      simp only [Bool.false_eq_true, false_iff]
      intro hall
      exact h (hall 0 (by simp))

/-! ## Keys -/

def UniqueKey (key : ρ → κ) (t : List ρ) : Prop := (t.map key).Nodup

theorem UniqueKey.sublist {key : ρ → κ} {t t' : List ρ} (h : UniqueKey key t) (hs : t'.Sublist t) :
    UniqueKey key t' :=
  List.Nodup.sublist (hs.map key) h

/-- Appending rows whose keys the table does not hold. -/
theorem uniqueKey_append_iff {key : ρ → κ} {t rows : List ρ} (h : UniqueKey key t)
    (hfresh : ∀ a ∈ t, ∀ b ∈ rows, key a ≠ key b) : UniqueKey key (t ++ rows) ↔ UniqueKey key rows := by
  unfold UniqueKey
  rw [List.map_append, List.nodup_append]
  refine ⟨fun h1 => h1.2.1, fun h1 => ⟨h, h1, ?_⟩⟩
  intro x hx y hy
  obtain ⟨a, ha, rfl⟩ := List.mem_map.mp hx
  obtain ⟨b, hb, rfl⟩ := List.mem_map.mp hy
  exact hfresh a ha b hb

/-- Rewriting rows keeps the keys apart just when the rows selected by `p` differ in `rest`,
if that is what two rows with different keys need. -/
theorem uniqueKey_map_iff {κ' : Type} {key : ρ → κ} {rest : ρ → κ'} {g : ρ → ρ} {p : ρ → Bool} {t : List ρ}
    (h : UniqueKey key t)
    (hg : ∀ a b, key a ≠ key b → (key (g a) ≠ key (g b) ↔ (p a = true → p b = true → rest a ≠ rest b))) :
    UniqueKey key (t.map g) ↔ UniqueKey rest (t.filter p) := by
  unfold UniqueKey List.Nodup at *
  rw [List.pairwise_map] at h
  rw [List.map_map, List.pairwise_map, List.pairwise_map, List.pairwise_filter]
  constructor
  · intro h1
    exact (h.and h1).imp fun {a b} hab => (hg a b hab.1).mp hab.2
  · intro h1
    exact (h.and h1).imp fun {a b} hab => (hg a b hab.1).mpr hab.2

/-! ## Ordered queries -/

theorem OrderBy.mem_iff {rank : ρ → Int} (o : OrderBy rank) (l : List ρ) (r : ρ) : r ∈ o.sort l ↔ r ∈ l :=
  (o.perm l).mem_iff

theorem OrderBy.head?_eq_none_iff {rank : ρ → Int} (o : OrderBy rank) (l : List ρ) :
    (o.sort l).head? = none ↔ l = [] := by
  rw [List.head?_eq_none_iff]
  refine ⟨fun h => ?_, fun h => ?_⟩
  · have := o.perm l
    rw [h] at this
    exact this.symm.eq_nil
  · have := o.perm l
    rw [h] at this ⊢
    exact this.eq_nil

theorem OrderBy.mem_of_head? {rank : ρ → Int} (o : OrderBy rank) {l : List ρ} {r : ρ}
    (h : (o.sort l).head? = some r) : r ∈ l :=
  (o.mem_iff l r).mp (List.mem_of_mem_head? h)

/-- Sorting by insertion: an order for concrete runs. -/
def insertionOrder (rank : ρ → Int) : OrderBy rank where
  sort l := l.insertionSort fun a b => rank a ≤ rank b
  perm l := List.perm_insertionSort _ l
  sorted l :=
    haveI : Std.Total fun a b : ρ => rank a ≤ rank b := ⟨fun a b => le_total (rank a) (rank b)⟩
    haveI : IsTrans ρ fun a b : ρ => rank a ≤ rank b := ⟨fun _ _ _ => le_trans⟩
    List.pairwise_insertionSort _ l

end RowTable
