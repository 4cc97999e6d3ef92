import BundleFramework.Lib.LeastFree
import BundleFramework.Lib.StepRun
import BundleFramework.Overlay.Enabled

/-!
# The indexes of sandbox apps

`sandboxAppIndexMap_` holds for each bundle name the indexes of its sandboxes.  A new sandbox
gets the first hole of the set, and an emptied set leaves the map.  After a restart the map is
built again from the stored rows, whose keys are texts `<index>_<bundleName>`.

A sandbox is live from the call that gives its index until the one that deletes it.  The map
`Holds` the live ones, which determines it: this is how a restart finds the same map, and how an
index is never given twice.
-/

namespace BundleFramework.SandboxApp

open Std
open Overlay (FILE_UNDERLINE strFind_underline)

def INITIAL_SANDBOX_APP_INDEX : Int := 1000
def MAX_SANDBOX_APP_INDEX : Int := INITIAL_SANDBOX_APP_INDEX + 100

abbrev IndexSet := ExtTreeSet Int

/-- `sandboxAppIndexMap_`. -/
abbrev IndexMap := StrMap IndexSet

/-- The key under which `SaveSandboxAppInfo` and `DeleteSandboxAppInfo` find a sandbox. -/
def sandboxKey (bundleName : Str) (appIndex : Int) : Str := toDecimal appIndex ++ FILE_UNDERLINE ++ bundleName

/-! ## Algorithm -/

def generateSandboxAppIndex (sandboxAppIndexMap : IndexMap) (bundleName : Str) : Int × IndexMap :=
  if bundleName = [] then (INITIAL_SANDBOX_APP_INDEX, sandboxAppIndexMap)
  else
    match sandboxAppIndexMap[bundleName]? with
    | none =>
      (INITIAL_SANDBOX_APP_INDEX + 1,
        sandboxAppIndexMap.insert bundleName ((∅ : IndexSet).insert (INITIAL_SANDBOX_APP_INDEX + 1)))
    | some indexes =>
      if indexes.isEmpty then
        (INITIAL_SANDBOX_APP_INDEX + 1,
          sandboxAppIndexMap.insert bundleName (indexes.insert (INITIAL_SANDBOX_APP_INDEX + 1)))
      else
        let newAppIndex := LeastFree.runEnd INITIAL_SANDBOX_APP_INDEX indexes.toList + 1
        if newAppIndex > MAX_SANDBOX_APP_INDEX then (INITIAL_SANDBOX_APP_INDEX, sandboxAppIndexMap)
        else (newAppIndex, sandboxAppIndexMap.insert bundleName (indexes.insert newAppIndex))

def deleteSandboxAppIndex (sandboxAppIndexMap : IndexMap) (bundleName : Str) (appIndex : Int) : Bool × IndexMap :=
  if bundleName = [] then (false, sandboxAppIndexMap)
  else
    match sandboxAppIndexMap[bundleName]? with
    | none => (false, sandboxAppIndexMap)
    | some indexes =>
      if indexes.isEmpty then (false, sandboxAppIndexMap)
      else if ¬ appIndex ∈ indexes then (false, sandboxAppIndexMap)
      else if (indexes.erase appIndex).isEmpty then (true, sandboxAppIndexMap.erase bundleName)
      else (true, sandboxAppIndexMap.insert bundleName (indexes.erase appIndex))

def restoreSandboxAppIndex (sandboxAppIndexMap : IndexMap) (bundleName : Str) (appIndex : Int) : IndexMap :=
  if bundleName = [] then sandboxAppIndexMap
  else
    match sandboxAppIndexMap[bundleName]? with
    | none => sandboxAppIndexMap.insert bundleName ((∅ : IndexSet).insert appIndex)
    | some indexes => sandboxAppIndexMap.insert bundleName (indexes.insert appIndex)

/-- The bundle name and the index of a key. -/
def parseSandboxKey (ex : StringEx) (key : Str) : Option (Str × Int) :=
  match strFind key FILE_UNDERLINE with
  | none => none
  | some fileUnderlinePos =>
    (ex.strToInt (key.take fileUnderlinePos)).map fun appIndex => (key.drop (fileUnderlinePos + 1), appIndex)

/-- The loop over the rows, in whatever order the unordered map has them. -/
def restoreSandboxPersistentInnerBundleInfo {β : Type} (ex : StringEx) (sandboxAppIndexMap : IndexMap)
    (sandboxAppInfos : List (Str × β)) : IndexMap :=
  sandboxAppInfos.foldl (fun indexMap sandboxInfo =>
    match parseSandboxKey ex sandboxInfo.1 with
    | none => indexMap
    | some (bundleName, appIndex) => restoreSandboxAppIndex indexMap bundleName appIndex) sandboxAppIndexMap

/-! ## Runs -/

inductive Op (β : Type) where
  | generate (bundleName : Str)
  | delete (bundleName : Str) (appIndex : Int)
  /-- A new `BundleSandboxDataMgr` that loads these rows. -/
  | restart (rows : List (Str × β))

/-- The map, and beside it the sandboxes that were created and not deleted since. -/
structure Run where
  indexMap : IndexMap
  live : Finset (Str × Int)

def Run.start : Run := ⟨∅, ∅⟩

variable {β : Type}

def Run.step (ex : StringEx) (s : Run) : Op β → Run
  | .generate bundleName =>
    let (appIndex, indexMap) := generateSandboxAppIndex s.indexMap bundleName
    ⟨indexMap, if appIndex = INITIAL_SANDBOX_APP_INDEX then s.live else insert (bundleName, appIndex) s.live⟩
  | .delete bundleName appIndex =>
    ⟨(deleteSandboxAppIndex s.indexMap bundleName appIndex).2, s.live.erase (bundleName, appIndex)⟩
  | .restart rows => ⟨restoreSandboxPersistentInnerBundleInfo ex ∅ rows, s.live⟩

/-- The rows of exactly the live sandboxes. -/
def RowsOf (live : Finset (Str × Int)) (rows : List (Str × β)) : Prop :=
  (rows.map Prod.fst).toFinset = live.image fun sandbox => sandboxKey sandbox.1 sandbox.2

/-- A restart finds the rows of exactly the live sandboxes. -/
def Op.FindsLive (s : Run) : Op β → Prop
  | .restart rows => RowsOf s.live rows
  | _ => True

instance (live : Finset (Str × Int)) (rows : List (Str × β)) : Decidable (RowsOf live rows) :=
  inferInstanceAs (Decidable (_ = _))

instance (s : Run) : (op : Op β) → Decidable (op.FindsLive s)
  | .generate _ => inferInstanceAs (Decidable True)
  | .delete _ _ => inferInstanceAs (Decidable True)
  | .restart rows => inferInstanceAs (Decidable (RowsOf s.live rows))

/-- What a call gives: the least index that is not live, or the initial one if there is none. -/
structure GivesLeast (live : Finset (Str × Int)) (bundleName : Str) (appIndex : Int) : Prop where
  initial_iff : appIndex = INITIAL_SANDBOX_APP_INDEX ↔ bundleName = [] ∨
    ∀ i, INITIAL_SANDBOX_APP_INDEX < i → i ≤ MAX_SANDBOX_APP_INDEX → (bundleName, i) ∈ live
  isLeast : appIndex ≠ INITIAL_SANDBOX_APP_INDEX →
    IsLeast {i | INITIAL_SANDBOX_APP_INDEX < i ∧ (bundleName, i) ∉ live} appIndex
  le_max : appIndex ≤ MAX_SANDBOX_APP_INDEX

/-- Any restart finds this map again, and any call gives the least index. -/
structure Run.Sound (ex : StringEx) (s : Run) : Prop where
  restored : ∀ rows : List (Str × β), RowsOf s.live rows →
    restoreSandboxPersistentInnerBundleInfo ex ∅ rows = s.indexMap
  generated : ∀ bundleName, GivesLeast s.live bundleName (generateSandboxAppIndex s.indexMap bundleName).1

/-! ## Keys -/

theorem parse_sandboxKey {ex : StringEx} (hex : ex.ReadsInt32) (bundleName : Str) (appIndex : Int32) :
    parseSandboxKey ex (sandboxKey bundleName appIndex.toInt) = some (bundleName, appIndex.toInt) := by
  have hkey : sandboxKey bundleName appIndex.toInt = toDecimal appIndex.toInt ++ '_' :: bundleName := by
    simp [sandboxKey, FILE_UNDERLINE]
  unfold parseSandboxKey
  rw [hkey, strFind_underline (underscore_not_mem_toDecimal _)]
  show (ex.strToInt _).map _ = _
  rw [List.take_left, hex, Option.map_some, ← List.singleton_append, ← List.append_assoc,
    List.drop_left' (by simp)]

/-! ## What the map holds -/

/-- The map lists the live sandboxes and no empty set. -/
structure Holds (m : IndexMap) (live : Finset (Str × Int)) : Prop where
  mem : ∀ (name : Str) (i : Int), (∃ indexes : IndexSet, m[name]? = some indexes ∧ i ∈ indexes) ↔ (name, i) ∈ live
  nonempty : ∀ (name : Str) (indexes : IndexSet), m[name]? = some indexes → ∃ i, i ∈ indexes

variable {m : IndexMap} {live : Finset (Str × Int)}

theorem exists_some_and {α : Type} {a : α} {P : α → Prop} : (∃ x, some a = some x ∧ P x) ↔ P a := by
  constructor
  · rintro ⟨x, hx, h⟩
    rwa [Option.some.inj hx]
  · intro h
    exact ⟨a, rfl, h⟩

theorem holds_empty : Holds ∅ ∅ := by
  constructor
  · intro name i
    simp
  · intro name indexes h
    simp at h

/-- Membership in the set of a name. -/
theorem Holds.mem_of_get (h : Holds m live) {name : Str} {indexes : IndexSet} (hget : m[name]? = some indexes) (i : Int) :
    i ∈ indexes ↔ (name, i) ∈ live := by
  rw [← h.mem]
  constructor
  · intro hi
    exact ⟨indexes, hget, hi⟩
  · rintro ⟨indexes', hget', hi⟩
    rw [hget, Option.some.injEq] at hget'
    rwa [hget']

theorem Holds.not_mem_of_none (h : Holds m live) {name : Str} (hget : m[name]? = none) (i : Int) : (name, i) ∉ live := by
  rw [← h.mem, hget]
  rintro ⟨indexes, hsome, -⟩
  cases hsome

/-- The live sandboxes determine the map. -/
theorem Holds.unique {m' : IndexMap} (h : Holds m live) (h' : Holds m' live) : m = m' := by
  refine ExtTreeMap.ext_getElem? fun name => ?_
  cases hm : m[name]? with
  | none =>
    cases hm' : m'[name]? with
    | none => rfl
    | some indexes' =>
      obtain ⟨i, hi⟩ := h'.nonempty name indexes' hm'
      exact absurd ((h'.mem_of_get hm' i).mp hi) (h.not_mem_of_none hm i)
  | some indexes =>
    cases hm' : m'[name]? with
    | none =>
      obtain ⟨i, hi⟩ := h.nonempty name indexes hm
      exact absurd ((h.mem_of_get hm i).mp hi) (h'.not_mem_of_none hm' i)
    | some indexes' =>
      have hsame : indexes = indexes' := by
        refine ExtTreeSet.ext_mem fun i => ?_
        rw [h.mem_of_get hm, h'.mem_of_get hm']
      rw [hsame]

/-- An index is added to the set of a name, or to an empty one. -/
theorem Holds.add (h : Holds m live) (name : Str) (i : Int) :
    Holds (m.insert name (((m[name]?).getD ∅).insert i)) (insert (name, i) live) := by
  constructor
  · intro name' i'
    rw [MapLoop.getElem?_insert_eq, Finset.mem_insert]
    by_cases hname : name' = name
    · subst hname
      rw [if_pos rfl]
      have hold : i' ∈ (m[name']?).getD ∅ ↔ (name', i') ∈ live := by
        cases hget : m[name']? with
        | none => simp [h.not_mem_of_none hget i']
        | some indexes => exact h.mem_of_get hget i'
      show (∃ indexes, some _ = some indexes ∧ i' ∈ indexes) ↔ _
      rw [← hold, exists_some_and, ExtTreeSet.mem_insert, Std.compare_eq_iff_eq, Prod.mk.injEq, eq_self, true_and,
        eq_comm]
    · rw [if_neg hname, h.mem]
      simp [hname]
  · intro name' indexes hget
    rw [MapLoop.getElem?_insert_eq] at hget
    split at hget
    · rw [Option.some.injEq] at hget
      exact ⟨i, hget ▸ ExtTreeSet.mem_insert_self⟩
    · exact h.nonempty name' indexes hget

/-- An index leaves the set of its name, and the name the map when nothing is left. -/
theorem Holds.delete (h : Holds m live) {name : Str} {indexes : IndexSet} (hget : m[name]? = some indexes) (i : Int) :
    Holds (if (indexes.erase i).isEmpty then m.erase name else m.insert name (indexes.erase i)) (live.erase (name, i)) := by
  have herase : ∀ i', i' ∈ indexes.erase i ↔ (name, i') ∈ live.erase (name, i) := by
    intro i'
    rw [ExtTreeSet.mem_erase, Finset.mem_erase, h.mem_of_get hget, ne_eq, Std.compare_eq_iff_eq, ne_eq, Prod.mk.injEq,
      eq_self, true_and, eq_comm]
  have hother : ∀ {name' : Str}, name' ≠ name → ∀ i', (name', i') ∈ live.erase (name, i) ↔ (name', i') ∈ live := by
    intro name' hname i'
    rw [Finset.mem_erase, ne_eq, Prod.mk.injEq]
    exact and_iff_right fun hsame => hname hsame.1
  split
  · next hempty =>
    rw [ExtTreeSet.isEmpty_iff] at hempty
    constructor
    · intro name' i'
      rw [MapLoop.getElem?_erase_eq]
      by_cases hname : name' = name
      · subst hname
        rw [if_pos rfl, ← herase, hempty]
        simp
      · rw [if_neg hname, hother hname, h.mem]
    · intro name' indexes' hget'
      rw [MapLoop.getElem?_erase_eq] at hget'
      split at hget'
      · cases hget'
      · exact h.nonempty name' indexes' hget'
  · next hne =>
    constructor
    · intro name' i'
      rw [MapLoop.getElem?_insert_eq]
      by_cases hname : name' = name
      · subst hname
        rw [if_pos rfl, exists_some_and, herase]
      · rw [if_neg hname, hother hname, h.mem]
    · intro name' indexes' hget'
      rw [MapLoop.getElem?_insert_eq] at hget'
      split at hget'
      · rw [Option.some.injEq] at hget'
        subst hget'
        have hlist : (indexes.erase i).toList ≠ [] := by
          rw [ne_eq, ExtTreeSet.toList_eq_nil_iff, ← ExtTreeSet.isEmpty_iff]
          exact hne
        obtain ⟨i', hi'⟩ := List.exists_mem_of_ne_nil _ hlist
        exact ⟨i', ExtTreeSet.mem_toList.mp hi'⟩
      · exact h.nonempty name' indexes' hget'

/-! ## The operations -/

/-- Live indexes lie in the range, under names that are not empty. -/
def InRange (live : Finset (Str × Int)) : Prop :=
  ∀ sandbox ∈ live, sandbox.1 ≠ [] ∧ INITIAL_SANDBOX_APP_INDEX < sandbox.2 ∧ sandbox.2 ≤ MAX_SANDBOX_APP_INDEX

/-- Both ways to store an index come to the same. -/
theorem restoreSandboxAppIndex_eq {name : Str} (hname : name ≠ []) (i : Int) :
    restoreSandboxAppIndex m name i = m.insert name (((m[name]?).getD ∅).insert i) := by
  unfold restoreSandboxAppIndex
  rw [if_neg hname]
  cases m[name]? with
  | none => rfl
  | some indexes => rfl

/-- The index that a call would give next. -/
def nextIndex (m : IndexMap) (name : Str) : Int :=
  LeastFree.runEnd INITIAL_SANDBOX_APP_INDEX ((m[name]?).getD ∅).toList + 1

theorem generateSandboxAppIndex_eq {name : Str} (hname : name ≠ []) : generateSandboxAppIndex m name =
    if nextIndex m name > MAX_SANDBOX_APP_INDEX then (INITIAL_SANDBOX_APP_INDEX, m)
    else (nextIndex m name, m.insert name (((m[name]?).getD ∅).insert (nextIndex m name))) := by
  have hempty : LeastFree.runEnd INITIAL_SANDBOX_APP_INDEX (∅ : IndexSet).toList + 1 = INITIAL_SANDBOX_APP_INDEX + 1 := by
    rw [ExtTreeSet.toList_eq_nil_iff.mpr rfl]
    rfl
  have hmax : ¬ INITIAL_SANDBOX_APP_INDEX + 1 > MAX_SANDBOX_APP_INDEX := by decide
  unfold generateSandboxAppIndex nextIndex
  rw [if_neg hname]
  cases m[name]? with
  | none =>
    rw [Option.getD_none, hempty, if_neg hmax]
  | some indexes =>
    dsimp only
    split
    · next hnone =>
      rw [ExtTreeSet.isEmpty_iff] at hnone
      subst hnone
      rw [Option.getD_some, hempty, if_neg hmax]
    · rfl

theorem nextIndex_isLeast (h : Holds m live) (hrange : InRange live) (name : Str) :
    IsLeast {i | INITIAL_SANDBOX_APP_INDEX < i ∧ (name, i) ∉ live} (nextIndex m name) := by
  have hmem : ∀ i, i ∈ ((m[name]?).getD ∅).toList ↔ (name, i) ∈ live := by
    intro i
    rw [ExtTreeSet.mem_toList]
    cases hget : m[name]? with
    | none => simp [h.not_mem_of_none hget i]
    | some indexes => exact h.mem_of_get hget i
  have hsorted : ((m[name]?).getD ∅).toList.Pairwise (· < ·) :=
    ExtTreeSet.ordered_toList.imp fun hlt => compare_lt_iff_lt.mp hlt
  have hleast := LeastFree.runEnd_spec hsorted fun i hi => (hrange _ ((hmem i).mp hi)).2.1
  simp only [hmem] at hleast
  exact hleast

theorem generate_givesLeast (h : Holds m live) (hrange : InRange live) (name : Str) :
    GivesLeast live name (generateSandboxAppIndex m name).1 := by
  by_cases hname : name = []
  · have hinitial : (generateSandboxAppIndex m name).1 = INITIAL_SANDBOX_APP_INDEX := by
      unfold generateSandboxAppIndex
      rw [if_pos hname]
    rw [hinitial]
    exact ⟨iff_of_true rfl (.inl hname), fun hne => absurd rfl hne, by decide⟩
  have hleast := nextIndex_isLeast h hrange name
  rw [generateSandboxAppIndex_eq hname]
  split
  · next hfull =>
    refine ⟨iff_of_true rfl (.inr ?_), fun hne => absurd rfl hne, show (1000 : Int) ≤ 1000 + 100 by decide⟩
    intro i hlow hhigh
    by_contra hnot
    have := hleast.2 ⟨hlow, hnot⟩
    omega
  · next hroom =>
    have hlow := hleast.1.1
    refine ⟨iff_of_false (ne_of_gt hlow) ?_, fun _ => hleast, Int.not_lt.mp hroom⟩
    rintro (hnil | hall)
    · exact hname hnil
    · exact hleast.1.2 (hall _ hlow (Int.not_lt.mp hroom))

/-! ## A restart -/

theorem mem_int32 {i : Int} (h : INITIAL_SANDBOX_APP_INDEX < i ∧ i ≤ MAX_SANDBOX_APP_INDEX) :
    ∃ n : Int32, n.toInt = i := by
  obtain ⟨hlow, hhigh⟩ := h
  unfold MAX_SANDBOX_APP_INDEX INITIAL_SANDBOX_APP_INDEX at *
  refine ⟨Int32.ofInt i, ?_⟩
  rw [Int32.toInt_ofInt_of_le (by omega) (by omega)]

theorem parse_live {ex : StringEx} (hex : ex.ReadsInt32) (hrange : InRange live) {sandbox : Str × Int}
    (hlive : sandbox ∈ live) : parseSandboxKey ex (sandboxKey sandbox.1 sandbox.2) = some sandbox := by
  obtain ⟨n, hn⟩ := mem_int32 (hrange sandbox hlive).2
  rw [← hn, parse_sandboxKey hex, hn]

/-- Rows are added one by one; what they stand for is what the map holds in the end. -/
theorem restore_holds {ex : StringEx} (hex : ex.ReadsInt32) (hrange : InRange live) (rows : List (Str × β))
    (hrows : ∀ row ∈ rows, ∃ sandbox ∈ live, sandboxKey sandbox.1 sandbox.2 = row.1) {done : Finset (Str × Int)}
    (h : Holds m done) :
    Holds (restoreSandboxPersistentInnerBundleInfo ex m rows)
      (done ∪ live.filter fun sandbox => sandboxKey sandbox.1 sandbox.2 ∈ rows.map Prod.fst) := by
  induction rows generalizing m done with
  | nil => simpa [restoreSandboxPersistentInnerBundleInfo] using h
  | cons row rows ih =>
    obtain ⟨sandbox, hlive, hkey⟩ := hrows row List.mem_cons_self
    have hparse := parse_live hex hrange hlive
    have hadd := h.add sandbox.1 sandbox.2
    rw [← restoreSandboxAppIndex_eq (hrange sandbox hlive).1] at hadd
    have hrest := ih (fun row' hrow' => hrows row' (List.mem_cons_of_mem _ hrow')) hadd
    have hset : insert sandbox done ∪ live.filter (fun q => sandboxKey q.1 q.2 ∈ rows.map Prod.fst) =
        done ∪ live.filter fun q => sandboxKey q.1 q.2 ∈ (row :: rows).map Prod.fst := by
      ext q
      simp only [Finset.mem_union, Finset.mem_insert, Finset.mem_filter, List.map_cons, List.mem_cons]
      -- a live sandbox is determined by its key
      have hinj : q ∈ live → (sandboxKey q.1 q.2 = row.1 ↔ q = sandbox) := by
        intro hq
        constructor
        · intro hsame
          have hparse' := parse_live hex hrange hq
          rw [hsame, ← hkey, hparse] at hparse'
          exact (Option.some.inj hparse').symm
        · rintro rfl
          exact hkey
      constructor
      · rintro ((rfl | hdone) | ⟨hq, hmem⟩)
        · exact .inr ⟨hlive, .inl hkey⟩
        · exact .inl hdone
        · exact .inr ⟨hq, .inr hmem⟩
      · rintro (hdone | ⟨hq, hsame | hmem⟩)
        · exact .inl (.inr hdone)
        · exact .inl (.inl ((hinj hq).mp hsame))
        · exact .inr ⟨hq, hmem⟩
    unfold restoreSandboxPersistentInnerBundleInfo at hrest ⊢
    rw [List.foldl_cons, ← hkey, hparse, ← hset]
    exact hrest

/-- The rows of the live sandboxes bring their map back. -/
theorem restore_rowsOf {ex : StringEx} (hex : ex.ReadsInt32) (hrange : InRange live) {rows : List (Str × β)}
    (hrows : RowsOf live rows) : Holds (restoreSandboxPersistentInnerBundleInfo ex ∅ rows) live := by
  have hkeys : ∀ key, key ∈ rows.map Prod.fst ↔ ∃ sandbox ∈ live, sandboxKey sandbox.1 sandbox.2 = key := by
    intro key
    rw [← List.mem_toFinset, hrows, Finset.mem_image]
  have hall := restore_holds hex hrange rows (fun row hrow => (hkeys row.1).mp (List.mem_map_of_mem hrow)) holds_empty
  have hset : live.filter (fun sandbox => sandboxKey sandbox.1 sandbox.2 ∈ rows.map Prod.fst) = live := by
    refine Finset.filter_true_of_mem fun sandbox hlive => ?_
    exact (hkeys _).mpr ⟨sandbox, hlive, rfl⟩
  rwa [Finset.empty_union, hset] at hall

/-! ## Every run -/

/-- The invariant of a run. -/
def Run.Inv (s : Run) : Prop := Holds s.indexMap s.live ∧ InRange s.live

theorem generate_inv {s : Run} (h : s.Inv) (ex : StringEx) (name : Str) : (s.step ex (.generate name : Op β)).Inv := by
  obtain ⟨hholds, hrange⟩ := h
  unfold Run.step
  dsimp only
  by_cases hname : name = []
  · have hsame : generateSandboxAppIndex s.indexMap name = (INITIAL_SANDBOX_APP_INDEX, s.indexMap) := by
      unfold generateSandboxAppIndex
      rw [if_pos hname]
    rw [hsame, if_pos rfl]
    exact ⟨hholds, hrange⟩
  have hlow := (nextIndex_isLeast hholds hrange name).1.1
  rw [generateSandboxAppIndex_eq hname]
  split
  · rw [if_pos rfl]
    exact ⟨hholds, hrange⟩
  · next hroom =>
    rw [if_neg (ne_of_gt hlow)]
    refine ⟨hholds.add name _, ?_⟩
    intro sandbox hmem
    rcases Finset.mem_insert.mp hmem with rfl | hmem
    · exact ⟨hname, hlow, Int.not_lt.mp hroom⟩
    · exact hrange sandbox hmem

theorem delete_inv {s : Run} (h : s.Inv) (ex : StringEx) (name : Str) (i : Int) :
    (s.step ex (.delete name i : Op β)).Inv := by
  obtain ⟨hholds, hrange⟩ := h
  have hrange' : InRange (s.live.erase (name, i)) := fun sandbox hmem => hrange sandbox (Finset.mem_of_mem_erase hmem)
  -- where nothing is deleted, the sandbox was not live
  have hsame : (name, i) ∉ s.live → Holds s.indexMap (s.live.erase (name, i)) := by
    intro hnot
    rwa [Finset.erase_eq_of_notMem hnot]
  refine ⟨?_, hrange'⟩
  show Holds (deleteSandboxAppIndex s.indexMap name i).2 _
  unfold deleteSandboxAppIndex
  split
  · next hname => exact hsame fun hlive => (hrange _ hlive).1 hname
  cases hget : s.indexMap[name]? with
  | none => exact hsame (hholds.not_mem_of_none hget i)
  | some indexes =>
    dsimp only
    split
    · next hempty =>
      obtain ⟨j, hj⟩ := hholds.nonempty name indexes hget
      rw [ExtTreeSet.isEmpty_iff.mp hempty] at hj
      exact absurd hj ExtTreeSet.not_mem_empty
    · split
      · next hnot => exact hsame fun hlive => hnot ((hholds.mem_of_get hget i).mpr hlive)
      · have hdelete := hholds.delete hget i
        split
        · next hempty => rwa [if_pos hempty] at hdelete
        · next hne => rwa [if_neg hne] at hdelete

theorem Run.step_inv {ex : StringEx} (hex : ex.ReadsInt32) (s : Run) (op : Op β) (h : s.Inv) (hop : op.FindsLive s) :
    (s.step ex op).Inv := by
  cases op with
  | generate name => exact generate_inv h ex name
  | delete name i => exact delete_inv h ex name i
  | restart rows => exact ⟨restore_rowsOf hex h.2 hop, h.2⟩

theorem Run.Inv.sound {ex : StringEx} (hex : ex.ReadsInt32) {s : Run} (h : s.Inv) : s.Sound (β := β) ex where
  restored _ hrows := (restore_rowsOf hex h.2 hrows).unique h.1
  generated := generate_givesLeast h.1 h.2

/-- In every state of every run a restart finds the same map, and a call gives the least index
that is not live, or the initial one when there is none. -/
theorem sandbox_indexes_sound (ex : StringEx) (hex : ex.ReadsInt32) (ops : List (Op β))
    (hops : StepRun.Each (Run.step ex) (fun s op => op.FindsLive s) Run.start ops) :
    StepRun.Always (Run.step ex) (Run.Sound (β := β) ex) Run.start ops := by
  have hstart : Run.start.Inv := ⟨holds_empty, fun sandbox hmem => absurd hmem (Finset.notMem_empty sandbox)⟩
  have hinv := hops.always (fun s op hs hop => Run.step_inv hex s op hs hop) hstart
  intro pre hpre
  exact (hinv pre hpre).sound hex

/-- A name with digits and underlines: index 1001 is free again after the restart. -/
def reusedRun : List (Op Unit) :=
  [.generate ['1', '_', '2'], .generate ['1', '_', '2'], .delete ['1', '_', '2'] 1001,
    .restart [(['1', '0', '0', '2', '_', '1', '_', '2'], ())], .generate ['1', '_', '2']]

theorem sandbox_indexes_sound_reused :
    StepRun.Always (Run.step refStringEx) (Run.Sound (β := Unit) refStringEx) Run.start reusedRun :=
  sandbox_indexes_sound refStringEx refStringEx_readsInt32 reusedRun (by decide +kernel)

end BundleFramework.SandboxApp
