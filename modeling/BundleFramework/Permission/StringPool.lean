import BundleFramework.Base.Str

/-!
# The pool of permission names

`PermissionStringPool`: the names in the order in which they came, and the index of each.
Every access holds the lock of the pool, so what other threads do to it is a list of whole
sections (`PoolOp`); the section of `GetOrAddIndex` under the read lock changes nothing.

After every run, `stringToIdx_` is the inverse of `strings_` (`Indexed`), an index once
given out keeps its string (`strings_run`), and below capacity the strings are exactly those
that were added (`mem_run_iff`).
-/

namespace BundleFramework.Permission

open Std

/-! ## Algorithm -/

def INVALID_STRING_IDX : Nat := 2 ^ 32 - 1

structure PermissionStringPool where
  strings : List Str := []
  stringToIdx : StrMap Nat := ∅

namespace PermissionStringPool

/-- `GetOrAddIndex` under the write lock. -/
def addLocked (pool : PermissionStringPool) (str : Str) : Nat × PermissionStringPool :=
  match pool.stringToIdx[str]? with
  | some idx => (idx, pool)
  | none =>
    if INVALID_STRING_IDX ≤ pool.strings.length then (INVALID_STRING_IDX, pool)
    else
      let newIdx := pool.strings.length % 2 ^ 32
      (newIdx, { strings := pool.strings ++ [str], stringToIdx := pool.stringToIdx.insertIfNew str newIdx })

/-- Names with no entry in `strings_` come out empty. -/
def appendStrings (pool : PermissionStringPool) (indices : List Nat) (out : List Str) : List Str :=
  out ++ indices.map fun idx => pool.strings.getD idx []

/-- The loop of `Defrag` over the strings from index `i` on. -/
def rebuildIndex : List Str → Nat → StrMap Nat → StrMap Nat
  | [], _, m => m
  | str :: rest, i, m => rebuildIndex rest (i + 1) (m.insertIfNew str (i % 2 ^ 32))

def defrag (pool : PermissionStringPool) : PermissionStringPool where
  strings := pool.strings
  stringToIdx := rebuildIndex pool.strings 0 ∅

/-- A section of another thread under the write lock. -/
inductive PoolOp where
  | getOrAddIndex (str : Str)
  | defrag
  deriving DecidableEq

def step (pool : PermissionStringPool) : PoolOp → PermissionStringPool
  | .getOrAddIndex str => if str = [] then pool else (pool.addLocked str).2
  | .defrag => pool.defrag

def run (pool : PermissionStringPool) (ops : List PoolOp) : PermissionStringPool := ops.foldl step pool

/-- `others` run between the two sections. -/
def getOrAddIndex (pool : PermissionStringPool) (others : List PoolOp) (str : Str) : Nat × PermissionStringPool :=
  if str = [] then (INVALID_STRING_IDX, pool.run others)
  else match pool.stringToIdx[str]? with
    | some idx => (idx, pool.run others)
    | none => (pool.run others).addLocked str

/-! ## The index is the inverse of the strings -/

structure Indexed (pool : PermissionStringPool) : Prop where
  index : ∀ (str : Str) (i : Nat), pool.stringToIdx[str]? = some i ↔ pool.strings[i]? = some str
  bound : pool.strings.length ≤ INVALID_STRING_IDX
  named : [] ∉ pool.strings

theorem indexed_empty : Indexed {} where
  index str i := by simp
  bound := Nat.zero_le _
  named := List.not_mem_nil

variable {pool : PermissionStringPool}

theorem Indexed.mem_iff (h : Indexed pool) (str : Str) : str ∈ pool.strings ↔ (pool.stringToIdx[str]?).isSome := by
  rw [List.mem_iff_getElem?, Option.isSome_iff_exists]
  exact exists_congr fun i => (h.index str i).symm

/-- The section under the write lock: the string is there, or the pool is full, or the string
is appended. -/
theorem Indexed.addLocked_cases (h : Indexed pool) (str : Str) :
    (∃ i, pool.strings[i]? = some str ∧ pool.addLocked str = (i, pool)) ∨
    (pool.strings.length = INVALID_STRING_IDX ∧ pool.addLocked str = (INVALID_STRING_IDX, pool)) ∨
    (str ∉ pool.strings ∧ pool.strings.length < INVALID_STRING_IDX ∧ pool.addLocked str =
      (pool.strings.length,
        { strings := pool.strings ++ [str],
          stringToIdx := pool.stringToIdx.insertIfNew str pool.strings.length })) := by
  unfold addLocked
  cases hidx : pool.stringToIdx[str]? with
  | some i => exact Or.inl ⟨i, (h.index str i).mp hidx, rfl⟩
  | none =>
    dsimp only
    have hno : str ∉ pool.strings := by
      rw [h.mem_iff, hidx]
      nofun
    by_cases hfull : INVALID_STRING_IDX ≤ pool.strings.length
    · rw [if_pos hfull]
      exact Or.inr (Or.inl ⟨Nat.le_antisymm h.bound hfull, rfl⟩)
    · have hmod : pool.strings.length % 2 ^ 32 = pool.strings.length := by
        apply Nat.mod_eq_of_lt
        unfold INVALID_STRING_IDX at hfull
        omega
      rw [if_neg hfull, hmod]
      exact Or.inr (Or.inr ⟨hno, by omega, rfl⟩)

theorem Indexed.append (h : Indexed pool) {str : Str} (hno : str ∉ pool.strings) (hne : str ≠ [])
    (hroom : pool.strings.length < INVALID_STRING_IDX) :
    Indexed { strings := pool.strings ++ [str],
              stringToIdx := pool.stringToIdx.insertIfNew str pool.strings.length } := by
  have hnone : pool.stringToIdx[str]? = none := by
    cases hidx : pool.stringToIdx[str]? with
    | none => rfl
    | some i => exact absurd ((h.mem_iff str).mpr (by rw [hidx]; rfl)) hno
  refine ⟨fun s i => ?_, ?_, ?_⟩
  · dsimp only
    rw [MapLoop.getElem?_insertIfNew_eq, hnone, Option.getD_none]
    by_cases hs : s = str
    · subst hs
      rw [if_pos rfl, Option.some.injEq]
      constructor
      · rintro rfl
        exact List.getElem?_concat_length
      · intro hi
        -- an index of `s` is not one of the old strings
        by_contra hlt
        have hlen : i < pool.strings.length := by
          have := (List.getElem?_eq_some_iff.mp hi).1
          rw [List.length_append, List.length_singleton] at this
          omega
        rw [List.getElem?_append_left hlen] at hi
        exact hno (List.mem_of_getElem? hi)
    · rw [if_neg hs, h.index]
      by_cases hlen : i < pool.strings.length
      · rw [List.getElem?_append_left hlen]
      · have hold : pool.strings[i]? = none := List.getElem?_eq_none (by omega)
        rw [hold, List.getElem?_append_right (by omega)]
        constructor
        · nofun
        · intro hi
          obtain ⟨hlt, heq⟩ := List.getElem?_eq_some_iff.mp hi
          have hzero : i - pool.strings.length = 0 := by
            rw [List.length_singleton] at hlt
            omega
          simp only [hzero, List.getElem_cons_zero] at heq
          exact absurd heq.symm hs
  · rw [List.length_append, List.length_singleton]
    omega
  · intro hmem
    rcases List.mem_append.mp hmem with hmem | hmem
    · exact h.named hmem
    · exact hne (List.mem_singleton.mp hmem).symm

/-- The rebuilt index gives the first place of each string. -/
theorem rebuildIndex_get (strings : List Str) (i : Nat) (m : StrMap Nat) (str : Str) :
    (rebuildIndex strings i m)[str]? =
      (m[str]?).or ((strings.idxOf? str).map fun j => (i + j) % 2 ^ 32) := by
  induction strings generalizing i m with
  | nil => simp [rebuildIndex]
  | cons s rest ih =>
    rw [rebuildIndex, ih, MapLoop.getElem?_insertIfNew_eq, List.idxOf?_cons]
    by_cases hs : str = s
    · subst hs
      rw [if_pos rfl, Option.some_or]
      cases m[str]? with
      | none => simp
      | some v => rw [Option.some_or, Option.getD_some]
    · have hbeq : (s == str) = false := by simpa using Ne.symm hs
      rw [if_neg hs, hbeq]
      cases rest.idxOf? str with
      | none => rfl
      | some j =>
        have hadd : i + 1 + j = i + (j + 1) := by omega
        simp [hadd]

/-- **`Defrag` changes nothing** that can be observed. -/
theorem Indexed.defrag_eq (h : Indexed pool) : pool.defrag = pool := by
  have hindex : rebuildIndex pool.strings 0 ∅ = pool.stringToIdx := by
    refine ExtTreeMap.ext_getElem? fun str => ?_
    rw [rebuildIndex_get, ExtTreeMap.getElem?_empty, Option.none_or]
    cases hidx : pool.strings.idxOf? str with
    | none =>
      cases hold : pool.stringToIdx[str]? with
      | none => rfl
      | some i =>
        have hmem := List.mem_of_getElem? ((h.index str i).mp hold)
        exact absurd hmem (List.idxOf?_eq_none_iff.mp hidx)
    | some j =>
      have hget : pool.strings[j]? = some str := by
        obtain ⟨hj, heq, -⟩ := List.findIdx?_eq_some_iff_getElem.mp hidx
        rw [List.getElem?_eq_getElem hj, eq_of_beq heq]
      have hlt := (List.getElem?_eq_some_iff.mp hget).1
      have hmod : j % 2 ^ 32 = j := by
        apply Nat.mod_eq_of_lt
        have hbound := h.bound
        unfold INVALID_STRING_IDX at hbound
        omega
      rw [(h.index str j).mpr hget, Option.map_some, Nat.zero_add, hmod]
  unfold defrag
  rw [hindex]

/-! ## Runs -/

/-- **One section** keeps the index the inverse of the strings. -/
theorem Indexed.step (h : Indexed pool) (op : PoolOp) : Indexed (pool.step op) := by
  cases op with
  | defrag =>
    show Indexed pool.defrag
    rw [h.defrag_eq]
    exact h
  | getOrAddIndex str =>
    show Indexed (if str = [] then pool else (pool.addLocked str).2)
    by_cases hne : str = []
    · rw [if_pos hne]
      exact h
    · rw [if_neg hne]
      rcases h.addLocked_cases str with ⟨i, -, heq⟩ | ⟨-, heq⟩ | ⟨hno, hroom, heq⟩
      · rw [heq]
        exact h
      · rw [heq]
        exact h
      · rw [heq]
        exact h.append hno hne hroom

theorem Indexed.run (h : Indexed pool) (ops : List PoolOp) : Indexed (pool.run ops) := by
  induction ops generalizing pool with
  | nil => exact h
  | cons op ops ih => exact ih (h.step op)

theorem Indexed.strings_step (h : Indexed pool) (op : PoolOp) : pool.strings <+: (pool.step op).strings := by
  cases op with
  | defrag => exact List.prefix_refl _
  | getOrAddIndex str =>
    show pool.strings <+: (if str = [] then pool else (pool.addLocked str).2).strings
    by_cases hne : str = []
    · rw [if_pos hne]
    · rw [if_neg hne]
      rcases h.addLocked_cases str with ⟨i, -, heq⟩ | ⟨-, heq⟩ | ⟨-, -, heq⟩
      · rw [heq]
      · rw [heq]
      · rw [heq]
        exact List.prefix_append _ _

/-- **An index keeps its string**: the strings of a pool are the first ones after any run. -/
theorem Indexed.strings_run (h : Indexed pool) (ops : List PoolOp) : pool.strings <+: (pool.run ops).strings := by
  induction ops generalizing pool with
  | nil => exact List.prefix_refl _
  | cons op ops ih => exact (h.strings_step op).trans (ih (h.step op))

theorem Indexed.mem_step_iff (h : Indexed pool) (op : PoolOp)
    (hroom : (pool.step op).strings.length < INVALID_STRING_IDX) (s : Str) :
    s ∈ (pool.step op).strings ↔ s ∈ pool.strings ∨ (s ≠ [] ∧ op = .getOrAddIndex s) := by
  cases op with
  | defrag =>
    show s ∈ pool.strings ↔ _
    simp
  | getOrAddIndex str =>
    change (if str = [] then pool else (pool.addLocked str).2).strings.length < _ at hroom
    show s ∈ (if str = [] then pool else (pool.addLocked str).2).strings ↔ _
    by_cases hne : str = []
    · rw [if_pos hne]
      constructor
      · exact Or.inl
      · rintro (hs | ⟨hs, heq⟩)
        · exact hs
        · cases heq
          exact absurd hne hs
    · rw [if_neg hne] at hroom ⊢
      rcases h.addLocked_cases str with ⟨i, hi, heq⟩ | ⟨hfull, heq⟩ | ⟨-, -, heq⟩
      · rw [heq]
        constructor
        · exact Or.inl
        · rintro (hs | ⟨-, hop⟩)
          · exact hs
          · cases hop
            exact List.mem_of_getElem? hi
      · rw [heq] at hroom
        change pool.strings.length < _ at hroom
        omega
      · rw [heq]
        show s ∈ pool.strings ++ [str] ↔ _
        rw [List.mem_append, List.mem_singleton]
        constructor
        · rintro (hs | rfl)
          · exact Or.inl hs
          · exact Or.inr ⟨hne, rfl⟩
        · rintro (hs | ⟨-, hop⟩)
          · exact Or.inl hs
          · cases hop
            exact Or.inr rfl

/-- **The strings of the pool**, as long as it is not full. -/
theorem Indexed.mem_run_iff (h : Indexed pool) (ops : List PoolOp)
    (hroom : (pool.run ops).strings.length < INVALID_STRING_IDX) (s : Str) :
    s ∈ (pool.run ops).strings ↔ s ∈ pool.strings ∨ (s ≠ [] ∧ .getOrAddIndex s ∈ ops) := by
  induction ops generalizing pool with
  | nil =>
    show s ∈ pool.strings ↔ _
    simp
  | cons op ops ih =>
    have hlen := ((h.step op).strings_run ops).length_le
    have hstep := h.mem_step_iff op (Nat.lt_of_le_of_lt hlen hroom) s
    show s ∈ ((pool.step op).run ops).strings ↔ _
    rw [ih (h.step op) hroom, hstep, List.mem_cons, or_assoc, ← and_or_left]
    simp only [eq_comm]

theorem run_append (pool : PermissionStringPool) (ops ops' : List PoolOp) :
    pool.run (ops ++ ops') = (pool.run ops).run ops' :=
  List.foldl_append

/-! ## `GetOrAddIndex` with others at work -/

theorem getElem?_mono {strings strings' : List Str} (hle : strings <+: strings') {i : Nat} {str : Str}
    (hi : strings[i]? = some str) : strings'[i]? = some str := by
  obtain ⟨rest, rfl⟩ := hle
  rw [List.getElem?_append_left (List.getElem?_eq_some_iff.mp hi).1]
  exact hi

theorem Indexed.get_run (h : Indexed pool) {i : Nat} {str : Str} (hi : pool.strings[i]? = some str)
    (ops : List PoolOp) : (pool.run ops).strings[i]? = some str :=
  getElem?_mono (h.strings_run ops) hi

/-- The pool that a call leaves. -/
theorem Indexed.getOrAddIndex_pool (h : Indexed pool) (others : List PoolOp) (str : Str) :
    (pool.getOrAddIndex others str).2 = pool.run (others ++ [.getOrAddIndex str]) := by
  rw [run_append]
  show _ = if str = [] then pool.run others else ((pool.run others).addLocked str).2
  unfold getOrAddIndex
  by_cases hne : str = []
  · rw [if_pos hne, if_pos hne]
  · rw [if_neg hne, if_neg hne]
    cases hidx : pool.stringToIdx[str]? with
    | none => rfl
    | some i =>
      -- found under the read lock: it is still there
      have hget := h.get_run ((h.index str i).mp hidx) others
      unfold addLocked
      rw [((h.run others).index str i).mpr hget]

/-- The index that a call returns is the one of its string, as long as the pool is not full. -/
theorem Indexed.getOrAddIndex_get (h : Indexed pool) (others : List PoolOp) {str : Str} (hne : str ≠ [])
    (hroom : (pool.getOrAddIndex others str).2.strings.length < INVALID_STRING_IDX) :
    (pool.getOrAddIndex others str).2.strings[(pool.getOrAddIndex others str).1]? = some str := by
  unfold getOrAddIndex at hroom ⊢
  rw [if_neg hne] at hroom ⊢
  cases hidx : pool.stringToIdx[str]? with
  | some i => exact h.get_run ((h.index str i).mp hidx) others
  | none =>
    rw [hidx] at hroom
    dsimp only at hroom ⊢
    rcases (h.run others).addLocked_cases str with ⟨i, hi, heq⟩ | ⟨hfull, heq⟩ | ⟨-, -, heq⟩
    · rw [heq]
      exact hi
    · rw [heq] at hroom
      change (pool.run others).strings.length < _ at hroom
      omega
    · rw [heq]
      exact List.getElem?_concat_length

end PermissionStringPool

end BundleFramework.Permission
