import Mathlib

/-!
# In-place loops over ordered maps

A loop that walks a map in key order and, at each entry, only touches what is
stored under that entry's key (in any number of containers) acts on every key
separately.  `Local step obs f` says so of one iteration, seen through an
observation `obs` of the state at a key; `Local.foldl_toList` gives the whole
pass:

    obs (m.toList.foldl step s) k = (m[k]?).elim (obs s k) (fun v => f k v (obs s k))

The entries are taken from the map as it is when the loop starts, which is what
an iterator sees as long as no iteration changes an entry that is still ahead.
-/

namespace MapLoop

open Std

variable {K V σ γ : Type}

/-- One iteration at `(k, v)` applies `f k v` to what is observed at `k` and
nothing elsewhere. -/
structure Local (step : σ → K × V → σ) (obs : σ → K → γ) (f : K → V → γ → γ) : Prop where
  self : ∀ s k v, obs (step s (k, v)) k = f k v (obs s k)
  other : ∀ s k v k', k' ≠ k → obs (step s (k, v)) k' = obs s k'

theorem Local.foldl_of_not_mem {step : σ → K × V → σ} {obs : σ → K → γ} {f : K → V → γ → γ}
    (h : Local step obs f) (l : List (K × V)) (s : σ) (k : K) (hk : ∀ v, (k, v) ∉ l) :
    obs (l.foldl step s) k = obs s k := by
  induction l generalizing s with
  | nil => rfl
  | cons e l ih =>
    obtain ⟨k', v'⟩ := e
    have hne : k ≠ k' := fun e => hk v' (by rw [e]; exact List.mem_cons_self)
    rw [List.foldl_cons, ih _ fun v hv => hk v (List.mem_cons_of_mem _ hv)]
    exact h.other s k' v' k hne

theorem Local.foldl_of_mem {step : σ → K × V → σ} {obs : σ → K → γ} {f : K → V → γ → γ}
    (h : Local step obs f) (l : List (K × V)) (s : σ) (k : K) (v : V)
    (hd : l.Pairwise fun a b => a.1 ≠ b.1) (hm : (k, v) ∈ l) :
    obs (l.foldl step s) k = f k v (obs s k) := by
  induction l generalizing s with
  | nil => cases hm
  | cons e l ih =>
    rw [List.pairwise_cons] at hd
    rw [List.foldl_cons]
    rcases List.mem_cons.mp hm with rfl | hl
    · rw [h.foldl_of_not_mem l _ k fun w hw => hd.1 (k, w) hw rfl]
      exact h.self s k v
    · obtain ⟨k', v'⟩ := e
      have hne : k ≠ k' := fun e => hd.1 (k, v) hl e.symm
      rw [ih _ hd.2 hl, h.other s k' v' k hne]

section
variable [Ord K] [TransOrd K] [LawfulEqOrd K]

theorem toList_distinct (m : ExtTreeMap K V) : m.toList.Pairwise fun a b => a.1 ≠ b.1 := by
  refine (ExtTreeMap.distinct_keys_toList (t := m)).imp ?_
  intro a b hab e
  exact hab (by rw [e]; exact ReflOrd.compare_self)

/-- **The whole pass, key by key.** -/
theorem Local.foldl_toList {step : σ → K × V → σ} {obs : σ → K → γ} {f : K → V → γ → γ}
    (h : Local step obs f) (m : ExtTreeMap K V) (s : σ) (k : K) :
    obs (m.toList.foldl step s) k = (m[k]?).elim (obs s k) (fun v => f k v (obs s k)) := by
  cases hm : m[k]? with
  | none =>
    refine h.foldl_of_not_mem m.toList s k fun v hv => ?_
    rw [ExtTreeMap.mem_toList_iff_getElem?_eq_some, hm] at hv
    cases hv
  | some v =>
    exact h.foldl_of_mem m.toList s k v (toList_distinct m)
      (ExtTreeMap.mem_toList_iff_getElem?_eq_some.mpr hm)

/-- `insert` seen at one key. -/
theorem getElem?_insert_eq (m : ExtTreeMap K V) (k a : K) (v : V) [DecidableEq K] :
    (m.insert k v)[a]? = if a = k then some v else m[a]? := by
  rw [ExtTreeMap.getElem?_insert]
  by_cases h : a = k
  · subst h; simp
  · rw [if_neg (fun e => h (LawfulEqOrd.eq_of_compare e).symm), if_neg h]

/-- `erase` seen at one key. -/
theorem getElem?_erase_eq (m : ExtTreeMap K V) (k a : K) [DecidableEq K] :
    (m.erase k)[a]? = if a = k then none else m[a]? := by
  rw [ExtTreeMap.getElem?_erase]
  by_cases h : a = k
  · subst h; simp
  · rw [if_neg (fun e => h (LawfulEqOrd.eq_of_compare e).symm), if_neg h]

/-- `insertIfNew` seen at one key. -/
theorem getElem?_insertIfNew_eq (m : ExtTreeMap K V) (k a : K) (v : V) [DecidableEq K] :
    (m.insertIfNew k v)[a]? = if a = k then some (m[k]?.getD v) else m[a]? := by
  rw [ExtTreeMap.getElem?_insertIfNew]
  by_cases h : a = k
  · subst h
    rw [if_pos rfl]
    by_cases hmem : a ∈ m
    · obtain ⟨v', hv⟩ := Option.isSome_iff_exists.mp (ExtTreeMap.mem_iff_isSome_getElem?.mp hmem)
      rw [if_neg (fun e => e.2 hmem), hv, Option.getD_some]
    · rw [if_pos ⟨ReflOrd.compare_self, hmem⟩, ExtTreeMap.getElem?_eq_none hmem, Option.getD_none]
  · rw [if_neg h, if_neg]
    rintro ⟨e, -⟩
    exact h (LawfulEqOrd.eq_of_compare e).symm

/-- A map that is built anew from the entries of another, some of them replaced or left out. -/
theorem getElem?_foldl_insertIfNew {W : Type} [DecidableEq K] (m : ExtTreeMap K V) (f : K → V → Option W) (k : K) :
    (m.toList.foldl (fun acc entry => (f entry.1 entry.2).elim acc (acc.insertIfNew entry.1))
      (∅ : ExtTreeMap K W))[k]? = m[k]?.bind (f k) := by
  have hlocal : Local (fun (acc : ExtTreeMap K W) (entry : K × V) =>
      (f entry.1 entry.2).elim acc (acc.insertIfNew entry.1)) (fun acc k => acc[k]?)
      fun k v found => (f k v).elim found fun w => some (found.getD w) := by
    constructor
    · intro acc k v
      cases f k v with
      | none => rfl
      | some w => exact (getElem?_insertIfNew_eq acc k k w).trans (if_pos rfl)
    · intro acc k v k' hne
      cases f k v with
      | none => rfl
      | some w => exact (getElem?_insertIfNew_eq acc k k' w).trans (if_neg hne)
  rw [hlocal.foldl_toList m ∅ k]
  cases m[k]? with
  | none => exact ExtTreeMap.getElem?_empty
  | some v =>
    rw [Option.elim_some, Option.bind_some, ExtTreeMap.getElem?_empty]
    cases f k v <;> rfl

/-! ## Entries in place -/

variable [DecidableEq K]

theorem insert_eq_iff_get {m : ExtTreeMap K V} {k : K} {v : V} : m.insert k v = m ↔ m[k]? = some v := by
  constructor
  · intro e
    rw [← e, getElem?_insert_eq, if_pos rfl]
  · intro h
    refine ExtTreeMap.ext_getElem? fun k' => ?_
    rw [getElem?_insert_eq]
    split
    · next hk => rw [hk, h]
    · rfl

theorem insert_eq_self_iff {m : ExtTreeMap K V} {k : K} {v v' : V} (h : m[k]? = some v) :
    m.insert k v' = m ↔ v' = v := by
  rw [insert_eq_iff_get, h, Option.some.injEq, eq_comm]

theorem erase_eq_self_iff {m : ExtTreeMap K V} {k : K} : m.erase k = m ↔ m[k]? = none := by
  constructor
  · intro e
    rw [← e, getElem?_erase_eq, if_pos rfl]
  · intro h
    refine ExtTreeMap.ext_getElem? fun k' => ?_
    rw [getElem?_erase_eq]
    split
    · next e => rw [e, h]
    · rfl

theorem insert_insert (m : ExtTreeMap K V) (k : K) (v v' : V) : (m.insert k v).insert k v' = m.insert k v' := by
  refine ExtTreeMap.ext_getElem? fun a => ?_
  rw [getElem?_insert_eq, getElem?_insert_eq, getElem?_insert_eq]
  split <;> rfl

theorem erase_insert_of_none {m : ExtTreeMap K V} {k : K} (h : m[k]? = none) (v : V) : (m.insert k v).erase k = m := by
  refine ExtTreeMap.ext_getElem? fun a => ?_
  rw [getElem?_erase_eq, getElem?_insert_eq]
  split
  · next e => rw [e, h]
  · rfl

theorem insert_comm (m : ExtTreeMap K V) {k k' : K} (h : k ≠ k') (v v' : V) :
    (m.insert k v).insert k' v' = (m.insert k' v').insert k v := by
  refine ExtTreeMap.ext_getElem? fun a => ?_
  rw [getElem?_insert_eq, getElem?_insert_eq, getElem?_insert_eq, getElem?_insert_eq]
  by_cases hk : a = k
  · have hk' : a ≠ k' := fun e => h (hk.symm.trans e)
    simp only [if_neg hk', if_pos hk]
  · simp only [if_neg hk]

/-- `modify` seen at one key. -/
theorem getElem?_modify_eq (m : ExtTreeMap K V) (k a : K) (f : V → V) :
    (m.modify k f)[a]? = if a = k then m[a]?.map f else m[a]? := by
  rw [ExtTreeMap.getElem?_modify]
  by_cases h : a = k
  · subst h; simp
  · rw [if_neg (fun e => h (LawfulEqOrd.eq_of_compare e).symm), if_neg h]

theorem insert_eq_modify {m : ExtTreeMap K V} {k : K} {v : V} (h : m[k]? = some v) (f : V → V) :
    m.insert k (f v) = m.modify k f := by
  refine ExtTreeMap.ext_getElem? fun a => ?_
  rw [getElem?_insert_eq, getElem?_modify_eq]
  split
  · next e => rw [e, h]; rfl
  · rfl

theorem modify_of_none {m : ExtTreeMap K V} {k : K} (h : m[k]? = none) (f : V → V) : m.modify k f = m := by
  refine ExtTreeMap.ext_getElem? fun a => ?_
  rw [getElem?_modify_eq]
  split
  · next e => rw [e, h]; rfl
  · rfl

theorem modify_modify (m : ExtTreeMap K V) (k : K) (f g : V → V) :
    (m.modify k g).modify k f = m.modify k (f ∘ g) := by
  refine ExtTreeMap.ext_getElem? fun a => ?_
  rw [getElem?_modify_eq, getElem?_modify_eq, getElem?_modify_eq]
  split <;> simp

theorem modify_comm (m : ExtTreeMap K V) {k k' : K} (h : k ≠ k') (f g : V → V) :
    (m.modify k g).modify k' f = (m.modify k' f).modify k g := by
  refine ExtTreeMap.ext_getElem? fun a => ?_
  rw [getElem?_modify_eq, getElem?_modify_eq, getElem?_modify_eq, getElem?_modify_eq]
  by_cases hk : a = k
  · have hk' : a ≠ k' := fun e => h (hk.symm.trans e)
    simp only [if_neg hk', if_pos hk]
  · simp only [if_neg hk]

theorem modify_congr {m : ExtTreeMap K V} {k : K} {f g : V → V} (h : ∀ v, m[k]? = some v → f v = g v) :
    m.modify k f = m.modify k g := by
  refine ExtTreeMap.ext_getElem? fun a => ?_
  rw [getElem?_modify_eq, getElem?_modify_eq]
  split
  · next e =>
    subst e
    rcases hv : m[a]? with _ | v
    · rfl
    · rw [Option.map_some, Option.map_some, h v hv]
  · rfl

theorem modify_of_fixed {m : ExtTreeMap K V} {k : K} {f : V → V} (h : ∀ v, m[k]? = some v → f v = v) :
    m.modify k f = m := by
  rcases hv : m[k]? with _ | v
  · exact modify_of_none hv f
  · rw [← insert_eq_modify hv f, insert_eq_self_iff hv]
    exact h v hv

end

end MapLoop
