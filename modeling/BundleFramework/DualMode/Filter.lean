import BundleFramework.Base.BmsParam
import BundleFramework.DataMgr.InnerBundleInfo

/-!
# Runtime mode switch: the migration body and its rollback

`FilterBundleListByDeviceModeDistributionPoliciesNoLock` walks `bundleInfos_` (hide
pass), then `tempBundleInfos_` (show pass), moving records in place.  Seen name by
name it is the function `switchCell`:

    (filterNoLock S maps).cell name = switchCell S (maps.cell name)       (filterNoLock_cell)

The public entry persists the new set after the migration; when the save fails it
runs the body again with the old set.  `switchCell` with the old set undoes
`switchCell` with the new one on every cell that is `Placed` for the old set, which
is what the rollback rests on (`switchCell_switchCell`).
-/

namespace BundleFramework

open Std DeviceModeDistributionPolicy

variable {β : Type}

/-! ## Algorithm -/

/-- One iteration of the hide pass, at the entry `it` of `bundleInfos_`. -/
def hideStep (policySet : PolicySet) (s : BundleMaps β × StrSet) (it : Str × InnerBundleInfo β) :
    BundleMaps β × StrSet :=
  let policy := it.2.deviceModeDistributionPolicy
  if policy = UNSPECIFIED then s
  else
    let hasSameNameTemp := s.1.tempBundleInfos[it.1]?.isSome
    let moveOut := (s.1.hide it.1 it.2, s.2.insert it.1)
    if isDiffPackageCategory policy then
      -- a same-name temp entry is a variant pair: the show pass rotates it as a unit
      if hasSameNameTemp then s else moveOut
    else if policySet.contains policy || hasSameNameTemp then s
    else moveOut

def hidePass (policySet : PolicySet) (maps : BundleMaps β) : BundleMaps β × StrSet :=
  maps.bundleInfos.toList.foldl (hideStep policySet) (maps, ∅)

/-- One iteration of the show pass, at the entry `it` of `tempBundleInfos_`. -/
def showStep (policySet : PolicySet) (hiddenNames : StrSet) (maps : BundleMaps β)
    (it : Str × InnerBundleInfo β) : BundleMaps β :=
  if hiddenNames.contains it.1 then maps
  else
    let policy := it.2.deviceModeDistributionPolicy
    if policy ≠ UNSPECIFIED && policySet.contains policy then
      match maps.bundleInfos[it.1]? with
      | none => maps.unhide it.1 it.2
      | some bundleItem => maps.exchange it.1 it.2 bundleItem
    else maps

def showPass (policySet : PolicySet) (hiddenNames : StrSet) (maps : BundleMaps β) : BundleMaps β :=
  maps.tempBundleInfos.toList.foldl (showStep policySet hiddenNames) maps

def filterBundleListByDeviceModeDistributionPoliciesNoLock (policySet : PolicySet)
    (maps : BundleMaps β) : BundleMaps β :=
  let hidden := hidePass policySet maps
  showPass policySet hidden.2 hidden.1

/-! ## The same, name by name -/

/-- A visible record that leaves `bundleInfos_` when it has no hidden counterpart:
different-package, or filterable and not in the set. -/
def movesOut (policySet : PolicySet) (r : InnerBundleInfo β) : Bool :=
  isDiffPackageCategory r.deviceModeDistributionPolicy ||
    (isFilterable r.deviceModeDistributionPolicy && !policySet.contains r.deviceModeDistributionPolicy)

/-- A hidden record that takes part in the show pass: specified and in the set. -/
def shows (policySet : PolicySet) (r : InnerBundleInfo β) : Bool :=
  r.deviceModeDistributionPolicy ≠ UNSPECIFIED && policySet.contains r.deviceModeDistributionPolicy

/-- One call, one name: a lone visible record crosses when it `movesOut`, a lone hidden
one when it `shows`, a pair is swapped when the hidden record `shows`. -/
def switchCell (policySet : PolicySet) : Cell β → Cell β
  | (some r, none) => if movesOut policySet r then (none, some r) else (some r, none)
  | (none, some r) => if shows policySet r then (some r, none) else (none, some r)
  | (some a, some r) => if shows policySet r then (some r, some a) else (some a, some r)
  | (none, none) => (none, none)

/-- What the hide pass does with a cell, and whether it records the name as hidden. -/
def hideCell (policySet : PolicySet) : Cell β → Cell β × Bool
  | (some r, none) => if movesOut policySet r then ((none, some r), true) else ((some r, none), false)
  | c => (c, false)

/-- What the show pass does with a cell whose name was not hidden before. -/
def showCell (policySet : PolicySet) : Cell β → Cell β
  | (some r, none) => (some r, none)
  | c => switchCell policySet c

theorem hideCell_fst_eq_switchCell (policySet : PolicySet) (c : Cell β)
    (h : (hideCell policySet c).2 = true) : (hideCell policySet c).1 = switchCell policySet c := by
  obtain ⟨_ | a, _ | b⟩ := c
  · cases h
  · cases h
  · simp only [hideCell, switchCell] at h ⊢
    cases hm : movesOut policySet a with
    | true => rfl
    | false => rw [hm] at h; cases h
  · cases h

theorem hideCell_of_not_hidden (policySet : PolicySet) (c : Cell β)
    (h : (hideCell policySet c).2 = false) :
    (hideCell policySet c).1 = c ∧ showCell policySet c = switchCell policySet c := by
  obtain ⟨_ | a, _ | b⟩ := c
  · exact ⟨rfl, rfl⟩
  · exact ⟨rfl, rfl⟩
  · simp only [hideCell, showCell, switchCell] at h ⊢
    cases hm : movesOut policySet a with
    | true => rw [hm] at h; cases h
    | false => exact ⟨rfl, rfl⟩
  · exact ⟨rfl, rfl⟩

theorem switchCell_records (policySet : PolicySet) (c : Cell β) :
    Cell.records (switchCell policySet c) = Cell.records c := by
  obtain ⟨_ | a, _ | b⟩ := c
  · rfl
  · simp only [switchCell]
    cases shows policySet b <;> rfl
  · simp only [switchCell]
    cases movesOut policySet a <;> rfl
  · simp only [switchCell]
    cases shows policySet b with
    | true => exact Multiset.coe_eq_coe.mpr (List.Perm.swap _ _ _)
    | false => rfl

/-! ## The passes against the per-name function -/

theorem insert_contains (s : StrSet) (name k : Str) :
    (s.insert name).contains k = (decide (k = name) || s.contains k) := by
  rw [ExtTreeSet.contains_insert]
  congr 1
  rw [Bool.eq_iff_iff, beq_iff_eq, decide_eq_true_eq, LawfulEqOrd.compare_eq_iff_eq]
  exact eq_comm

theorem hideStep_eq (policySet : PolicySet) (s : BundleMaps β × StrSet) (name : Str)
    (r : InnerBundleInfo β) :
    hideStep policySet s (name, r) =
      if s.1.tempBundleInfos[name]?.isNone && movesOut policySet r then
        (s.1.hide name r, s.2.insert name) else s := by
  unfold hideStep movesOut isFilterable
  dsimp only
  generalize policySet.contains r.deviceModeDistributionPolicy = inSet
  by_cases hu : r.deviceModeDistributionPolicy = UNSPECIFIED
  · have hd : isDiffPackageCategory UNSPECIFIED = false := rfl
    simp [hu, hd]
  · generalize isDiffPackageCategory r.deviceModeDistributionPolicy = d
    cases s.1.tempBundleInfos[name]? <;> cases d <;> cases inSet <;> simp [hu]

/-- What the hide pass sees of the state at a name. -/
def hideObs (s : BundleMaps β × StrSet) (name : Str) : Cell β × Bool := (s.1.cell name, s.2.contains name)

/-- The hide iteration at a visible record `r`, on what is observed at its name. -/
def hideAt (policySet : PolicySet) (r : InnerBundleInfo β) (o : Cell β × Bool) : Cell β × Bool :=
  if o.1.2.isNone && movesOut policySet r then ((none, some r), true) else o

theorem hideStep_local (policySet : PolicySet) :
    MapLoop.Local (hideStep policySet) (hideObs (β := β)) fun _ r o => hideAt policySet r o where
  self s name r := by
    rw [hideStep_eq]
    unfold hideAt
    rw [show (hideObs s name).1.2 = s.1.tempBundleInfos[name]? from rfl]
    split
    · unfold hideObs
      simp only [BundleMaps.cell_hide, insert_contains, if_true, decide_true, Bool.true_or]
    · rfl
  other s name r k hk := by
    rw [hideStep_eq]
    unfold hideObs
    split
    · simp only [BundleMaps.cell_hide, insert_contains, if_neg hk, decide_eq_false hk, Bool.false_or]
    · rfl

/-- **Hide pass, name by name.** -/
theorem hidePass_obs (policySet : PolicySet) (maps : BundleMaps β) (name : Str) :
    hideObs (hidePass policySet maps) name = hideCell policySet (maps.cell name) := by
  unfold hidePass
  rw [(hideStep_local policySet).foldl_toList]
  have h0 : hideObs (maps, (∅ : StrSet)) name = (maps.cell name, false) := by
    unfold hideObs
    simp
  rw [h0]
  unfold BundleMaps.cell
  cases maps.bundleInfos[name]? with
  | none => cases maps.tempBundleInfos[name]? <;> rfl
  | some r =>
    simp only [Option.elim_some, hideAt]
    cases maps.tempBundleInfos[name]? with
    | none => rfl
    | some t => rfl

/-- The show iteration at a hidden record `r`, on what is observed at its name. -/
def showAt (policySet : PolicySet) (hidden : Bool) (r : InnerBundleInfo β) (c : Cell β) : Cell β :=
  if hidden then c
  else if shows policySet r then (some r, c.1)
  else c

theorem showStep_local (policySet : PolicySet) (hiddenNames : StrSet) :
    MapLoop.Local (showStep policySet hiddenNames) (BundleMaps.cell (β := β))
      fun name r c => showAt policySet (hiddenNames.contains name) r c where
  self maps name r := by
    unfold showStep showAt shows
    dsimp only
    split
    · rfl
    · split
      · rw [show (maps.cell name).1 = maps.bundleInfos[name]? from rfl]
        cases maps.bundleInfos[name]? with
        | none => simp only [BundleMaps.cell_unhide, if_true]
        | some a => simp only [BundleMaps.cell_exchange, if_true]
      · rfl
  other maps name r k hk := by
    unfold showStep
    dsimp only
    split
    · rfl
    · split
      · cases maps.bundleInfos[name]? with
        | none => simp only [BundleMaps.cell_unhide, if_neg hk]
        | some a => simp only [BundleMaps.cell_exchange, if_neg hk]
      · rfl

/-- **Show pass, name by name.** -/
theorem showPass_cell (policySet : PolicySet) (hiddenNames : StrSet) (maps : BundleMaps β) (name : Str) :
    (showPass policySet hiddenNames maps).cell name =
      if hiddenNames.contains name then maps.cell name else showCell policySet (maps.cell name) := by
  unfold showPass
  rw [(showStep_local policySet hiddenNames).foldl_toList]
  unfold BundleMaps.cell
  cases maps.tempBundleInfos[name]? with
  | none =>
    simp only [Option.elim_none]
    cases maps.bundleInfos[name]? <;> simp [showCell, switchCell]
  | some r =>
    simp only [Option.elim_some, showAt]
    split
    · rfl
    · cases maps.bundleInfos[name]? <;> rfl

/-- **The two passes are the per-name function.** -/
theorem filterNoLock_cell (policySet : PolicySet) (maps : BundleMaps β) (name : Str) :
    (filterBundleListByDeviceModeDistributionPoliciesNoLock policySet maps).cell name =
      switchCell policySet (maps.cell name) := by
  unfold filterBundleListByDeviceModeDistributionPoliciesNoLock
  have ho := hidePass_obs policySet maps name
  have hc : (hidePass policySet maps).1.cell name = (hideCell policySet (maps.cell name)).1 :=
    congrArg Prod.fst ho
  have hn : (hidePass policySet maps).2.contains name = (hideCell policySet (maps.cell name)).2 :=
    congrArg Prod.snd ho
  simp only [showPass_cell, hc, hn]
  cases hh : (hideCell policySet (maps.cell name)).2 with
  | true => exact hideCell_fst_eq_switchCell policySet _ hh
  | false =>
    obtain ⟨h1, h2⟩ := hideCell_of_not_hidden policySet _ hh
    rw [h1]
    exact h2

/-! ## Migration body: conservation and placement -/

/-- **The migration body conserves records and is the per-name function**; a name that
the hide pass moves is left alone by the show pass. -/
theorem filterNoLock_conserves_and_switches (policySet : PolicySet) (maps : BundleMaps β) :
    (∀ name, Cell.records
        ((filterBundleListByDeviceModeDistributionPoliciesNoLock policySet maps).cell name) =
      Cell.records (maps.cell name)) ∧
    (∀ name, (filterBundleListByDeviceModeDistributionPoliciesNoLock policySet maps).cell name =
      switchCell policySet (maps.cell name)) ∧
    (∀ name, (hidePass policySet maps).1.cell name = maps.cell name ∨
      (filterBundleListByDeviceModeDistributionPoliciesNoLock policySet maps).cell name =
        (hidePass policySet maps).1.cell name) := by
  refine ⟨fun name => ?_, fun name => filterNoLock_cell policySet maps name, fun name => ?_⟩
  · rw [filterNoLock_cell, switchCell_records]
  · have hc : (hidePass policySet maps).1.cell name = (hideCell policySet (maps.cell name)).1 :=
      congrArg Prod.fst (hidePass_obs policySet maps name)
    rw [filterNoLock_cell, hc]
    cases hh : (hideCell policySet (maps.cell name)).2 with
    | true => exact Or.inr (hideCell_fst_eq_switchCell policySet _ hh).symm
    | false => exact Or.inl (hideCell_of_not_hidden policySet _ hh).1

/-! ## The public entry -/

inductive ErrCode where
  | ERR_OK
  | ERR_APPEXECFWK_DUAL_MODE_DEVICE_NOT_SUPPORTED
  | ERR_APPEXECFWK_DUAL_MODE_POLICY_INVALID
  | ERR_APPEXECFWK_DUAL_MODE_SWITCH_BUSY
  | ERR_APPEXECFWK_DUAL_MODE_PERSIST_FAILED
  deriving DecidableEq

def DUAL_MODE_DEVICE_MODE_DISTRIBUTION_POLICIES_KEY : Str :=
  "DualModeDeviceModeDistributionPolicies".toList

/-- What a switch request meets outside the data manager: the mode parameters, the
exclusive switch lock, the parameter helper and the database. -/
structure SwitchEnv where
  params : ModeParams
  ownsLock : Bool
  hasBmsPara : Bool
  insertOk : Bool

/-- Return code and state after a switch request; `saveResult` is what `SaveBmsParam`
returned, `none` when the request did not get that far. -/
structure SwitchOutcome (β : Type) where
  code : ErrCode
  maps : BundleMaps β
  store : BmsParam
  saveResult : Option Bool

/-- `MAIN_ONLY` is hidden in secondary mode, `SUB_ONLY` in main mode. -/
def shouldBeHidden (isSecondaryMode : Bool) (policy : DeviceModeDistributionPolicy) : Bool :=
  if policy = MAIN_ONLY then isSecondaryMode
  else if policy = SUB_ONLY then !isSecondaryMode
  else false

/-- First loop of `ClassifyDualModeAppsByDeviceModeNoLock`, at an entry of `bundleInfos_`. -/
def modeHideStep (isSecondaryMode : Bool) (maps : BundleMaps β) (it : Str × InnerBundleInfo β) :
    BundleMaps β :=
  if shouldBeHidden isSecondaryMode it.2.deviceModeDistributionPolicy then maps.hide it.1 it.2 else maps

/-- Second loop, at an entry of `tempBundleInfos_`. -/
def modeShowStep (isSecondaryMode : Bool) (maps : BundleMaps β) (it : Str × InnerBundleInfo β) :
    BundleMaps β :=
  let policy := it.2.deviceModeDistributionPolicy
  if (policy = MAIN_ONLY || policy = SUB_ONLY) && !shouldBeHidden isSecondaryMode policy then
    maps.unhide it.1 it.2
  else maps

def classifyDualModeAppsByDeviceModeNoLock (isSecondaryMode : Bool) (maps : BundleMaps β) : BundleMaps β :=
  let hidden := maps.bundleInfos.toList.foldl (modeHideStep isSecondaryMode) maps
  hidden.tempBundleInfos.toList.foldl (modeShowStep isSecondaryMode) hidden

def filterBundleListByDeviceModeDistributionPolicies (ex : StringEx) (env : SwitchEnv)
    (maps : BundleMaps β) (store : BmsParam) (policies : PolicySet) : SwitchOutcome β :=
  if !isDualModeDevice env.params then
    ⟨.ERR_APPEXECFWK_DUAL_MODE_DEVICE_NOT_SUPPORTED, maps, store, none⟩
  else if !isValidPolicySet policies then
    ⟨.ERR_APPEXECFWK_DUAL_MODE_POLICY_INVALID, maps, store, none⟩
  else if !env.ownsLock then
    ⟨.ERR_APPEXECFWK_DUAL_MODE_SWITCH_BUSY, maps, store, none⟩
  else if !env.hasBmsPara then
    ⟨.ERR_APPEXECFWK_DUAL_MODE_PERSIST_FAILED, maps, store, none⟩
  else
    -- the rollback baseline: `none` when no valid set is persisted
    let oldPolicies := (getBmsParam store DUAL_MODE_DEVICE_MODE_DISTRIBUTION_POLICIES_KEY).bind
      (parsePersistedPolicies ex)
    if oldPolicies = some policies then ⟨.ERR_OK, maps, store, none⟩
    else
      let migrated := filterBundleListByDeviceModeDistributionPoliciesNoLock policies maps
      let saved := saveBmsParam env.insertOk store DUAL_MODE_DEVICE_MODE_DISTRIBUTION_POLICIES_KEY
        (policiesToCsv policies)
      if !saved.1 then
        let restored := match oldPolicies with
          | some old => filterBundleListByDeviceModeDistributionPoliciesNoLock old migrated
          | none => classifyDualModeAppsByDeviceModeNoLock (isSecondaryMode env.params) migrated
        ⟨.ERR_APPEXECFWK_DUAL_MODE_PERSIST_FAILED, restored, saved.2, some false⟩
      else ⟨.ERR_OK, migrated, saved.2, some true⟩

/-- **Everything a switch request can do**: stop before the migration, migrate and save, or
migrate, fail to save and roll back. -/
theorem filterByPolicies_cases (ex : StringEx) (env : SwitchEnv) (maps : BundleMaps β) (store : BmsParam)
    (policies : PolicySet) :
    (∃ code, filterBundleListByDeviceModeDistributionPolicies ex env maps store policies =
      ⟨code, maps, store, none⟩) ∨
    (∃ store', filterBundleListByDeviceModeDistributionPolicies ex env maps store policies =
      ⟨.ERR_OK, filterBundleListByDeviceModeDistributionPoliciesNoLock policies maps, store', some true⟩) ∨
    filterBundleListByDeviceModeDistributionPolicies ex env maps store policies =
      ⟨.ERR_APPEXECFWK_DUAL_MODE_PERSIST_FAILED,
        match (getBmsParam store DUAL_MODE_DEVICE_MODE_DISTRIBUTION_POLICIES_KEY).bind
            (parsePersistedPolicies ex) with
          | some old => filterBundleListByDeviceModeDistributionPoliciesNoLock old
              (filterBundleListByDeviceModeDistributionPoliciesNoLock policies maps)
          | none => classifyDualModeAppsByDeviceModeNoLock (isSecondaryMode env.params)
              (filterBundleListByDeviceModeDistributionPoliciesNoLock policies maps),
        store, some false⟩ := by
  unfold filterBundleListByDeviceModeDistributionPolicies
  dsimp only
  split
  · exact Or.inl ⟨_, rfl⟩
  split
  · exact Or.inl ⟨_, rfl⟩
  split
  · exact Or.inl ⟨_, rfl⟩
  split
  · exact Or.inl ⟨_, rfl⟩
  split
  · exact Or.inl ⟨_, rfl⟩
  split
  · next hsave => exact Or.inr (Or.inr (by rw [saveBmsParam_of_false _ _ _ _ (by simpa using hsave)]))
  · exact Or.inr (Or.inl ⟨_, rfl⟩)

/-! ## Rollback -/

/-- A cell as the policy set `old` places it: a lone filterable record is visible iff
its policy is in the set, and a pair is two different-package variants. -/
def PlacedCell (old : PolicySet) : Cell β → Prop
  | (some r, none) => isFilterable r.deviceModeDistributionPolicy = true →
      old.contains r.deviceModeDistributionPolicy = true
  | (none, some r) => isFilterable r.deviceModeDistributionPolicy = true →
      old.contains r.deviceModeDistributionPolicy = false
  | (some a, some b) => isDiffPackageCategory a.deviceModeDistributionPolicy = true ∧
      isDiffPackageCategory b.deviceModeDistributionPolicy = true
  | (none, none) => True

def Placed (old : PolicySet) (maps : BundleMaps β) : Prop := ∀ name, PlacedCell old (maps.cell name)

theorem shows_of_diff {policySet : PolicySet} (hv : isValidPolicySet policySet = true) {r : InnerBundleInfo β}
    (hd : isDiffPackageCategory r.deviceModeDistributionPolicy = true) : shows policySet r = true := by
  rw [shows, contains_of_isDiffPackageCategory hv hd, Bool.and_true, decide_eq_true_eq]
  exact ne_unspecified_of_isDiffPackageCategory hd

theorem movesOut_of_diff {policySet : PolicySet} {r : InnerBundleInfo β}
    (hd : isDiffPackageCategory r.deviceModeDistributionPolicy = true) : movesOut policySet r = true := by
  rw [movesOut, hd, Bool.true_or]

/-- The three categories, with what `movesOut` and `shows` are on each. -/
theorem policy_cases (policies : PolicySet) (hv : isValidPolicySet policies = true)
    (r : InnerBundleInfo β) :
    (isDiffPackageCategory r.deviceModeDistributionPolicy = true ∧
      movesOut policies r = true ∧ shows policies r = true) ∨
    (isFilterable r.deviceModeDistributionPolicy = true ∧
      movesOut policies r = !policies.contains r.deviceModeDistributionPolicy ∧
      shows policies r = policies.contains r.deviceModeDistributionPolicy) ∨
    (r.deviceModeDistributionPolicy = UNSPECIFIED ∧
      movesOut policies r = false ∧ shows policies r = false) := by
  cases hd : isDiffPackageCategory r.deviceModeDistributionPolicy with
  | true => exact Or.inl ⟨rfl, movesOut_of_diff hd, shows_of_diff hv hd⟩
  | false =>
    right
    unfold movesOut shows isFilterable
    rw [hd]
    by_cases hu : r.deviceModeDistributionPolicy = UNSPECIFIED
    · right; simp [hu]
    · left; simp only [hu, decide_false, Bool.not_false, Bool.and_true, Bool.false_or, Bool.true_and,
        ne_eq, not_false_eq_true, decide_true, and_self]

section
variable (old new : PolicySet) (ho : isValidPolicySet old = true) (r : InnerBundleInfo β)

include ho

/-- A lone visible record placed for `old`: if the switch hides it, `old` shows it again,
and if not, `old` keeps it. -/
theorem shows_or_keeps_of_visible
    (hp : isFilterable r.deviceModeDistributionPolicy = true →
      old.contains r.deviceModeDistributionPolicy = true) :
    (movesOut new r = true → shows old r = true) ∧ (movesOut new r = false → movesOut old r = false) := by
  rcases policy_cases old ho r with ⟨hd, om, os⟩ | ⟨hf, om, os⟩ | ⟨hu, om, os⟩
  · refine ⟨fun _ => os, fun h => ?_⟩
    rw [movesOut, hd] at h
    cases h
  · rw [om, os, hp hf]
    exact ⟨fun _ => rfl, fun _ => rfl⟩
  · refine ⟨fun h => ?_, fun _ => om⟩
    rw [movesOut, isFilterable, hu] at h
    cases h

/-- A lone hidden record placed for `old`: if the switch shows it, `old` hides it again,
and if not, `old` keeps it hidden. -/
theorem hides_or_keeps_of_hidden (hn : isValidPolicySet new = true)
    (hp : isFilterable r.deviceModeDistributionPolicy = true →
      old.contains r.deviceModeDistributionPolicy = false) :
    (shows new r = true → movesOut old r = true) ∧ (shows new r = false → shows old r = false) := by
  rcases policy_cases old ho r with ⟨hd, om, os⟩ | ⟨hf, om, os⟩ | ⟨hu, om, os⟩
  · refine ⟨fun _ => om, fun h => ?_⟩
    rw [shows, contains_of_isDiffPackageCategory hn hd, Bool.and_true, decide_eq_false_iff_not,
      not_not] at h
    exact absurd h (ne_unspecified_of_isDiffPackageCategory hd)
  · rw [om, os, hp hf]
    exact ⟨fun _ => rfl, fun _ => rfl⟩
  · refine ⟨fun h => ?_, fun _ => os⟩
    rw [shows, hu] at h
    cases h

end

/-- **Placement and rotation undo each other**: on a cell placed for `old`, a switch to
any valid set followed by a switch back to `old` is the identity. -/
theorem switchCell_switchCell (old new : PolicySet) (ho : isValidPolicySet old = true)
    (hn : isValidPolicySet new = true) (c : Cell β) (hc : PlacedCell old c) :
    switchCell old (switchCell new c) = c := by
  obtain ⟨_ | a, _ | b⟩ := c
  · rfl
  · obtain ⟨h1, h2⟩ := hides_or_keeps_of_hidden old new ho b hn hc
    cases hs : shows new b with
    | true => simp [switchCell, hs, h1 hs]
    | false => simp [switchCell, hs, h2 hs]
  · obtain ⟨h1, h2⟩ := shows_or_keeps_of_visible old new ho a hc
    cases hm : movesOut new a with
    | true => simp [switchCell, hm, h1 hm]
    | false => simp [switchCell, hm, h2 hm]
  · -- a pair of different-package variants swaps under every valid set
    obtain ⟨ha, hb⟩ := hc
    simp [switchCell, shows_of_diff hn hb, shows_of_diff ho ha]

theorem filterNoLock_filterNoLock (old new : PolicySet) (ho : isValidPolicySet old = true)
    (hn : isValidPolicySet new = true) (maps : BundleMaps β) (hp : Placed old maps) :
    filterBundleListByDeviceModeDistributionPoliciesNoLock old
      (filterBundleListByDeviceModeDistributionPoliciesNoLock new maps) = maps := by
  apply BundleMaps.ext_cell
  intro name
  rw [filterNoLock_cell, filterNoLock_cell]
  exact switchCell_switchCell old new ho hn _ (hp name)

/-- **A failed save leaves everything as it was**: with a valid set persisted and the
maps placed for it, if `SaveBmsParam` is called and fails, the request reports
`PERSIST_FAILED` and both maps and the parameter table are unchanged. -/
theorem filter_rollback (ex : StringEx) (env : SwitchEnv) (maps : BundleMaps β) (store : BmsParam)
    (csv : Str) (old new : PolicySet)
    (hstore : getBmsParam store DUAL_MODE_DEVICE_MODE_DISTRIBUTION_POLICIES_KEY = some csv)
    (hold : parsePersistedPolicies ex csv = some old) (hp : Placed old maps)
    (hn : isValidPolicySet new = true)
    (hfail : (filterBundleListByDeviceModeDistributionPolicies ex env maps store new).saveResult
      = some false) :
    filterBundleListByDeviceModeDistributionPolicies ex env maps store new =
      ⟨.ERR_APPEXECFWK_DUAL_MODE_PERSIST_FAILED, maps, store, some false⟩ := by
  have ho := parsePersistedPolicies_valid ex csv old hold
  have hold' : (getBmsParam store DUAL_MODE_DEVICE_MODE_DISTRIBUTION_POLICIES_KEY).bind
      (parsePersistedPolicies ex) = some old := by
    rw [hstore, Option.bind_some, hold]
  rcases filterByPolicies_cases ex env maps store new with ⟨code, e⟩ | ⟨store', e⟩ | e
  · rw [e] at hfail
    cases hfail
  · rw [e] at hfail
    cases hfail
  · rw [e, hold']
    dsimp only
    rw [filterNoLock_filterNoLock old new ho hn maps hp]

/-- The theorem at a device in main mode holding a pair `x` (clone hidden) and a hidden
`MAIN_ONLY` bundle `y`, with `{4, 6, 8}` persisted and `{1, 4, 6, 8}` requested. -/
theorem filter_rollback_pair :
    let pair : BundleMaps Unit :=
      { bundleInfos := (∅ : StrMap _).insert ['x'] (.blank ['x'] UNIVERSAL_DIFFERENT_PACKAGE false),
        tempBundleInfos := ((∅ : StrMap _).insert ['x']
          (.blank ['x'] UNIVERSAL_DIFFERENT_PACKAGE true)).insert ['y'] (.blank ['y'] MAIN_ONLY false) }
    let store : BmsParam :=
      (∅ : StrMap _).insert DUAL_MODE_DEVICE_MODE_DISTRIBUTION_POLICIES_KEY "4,6,8".toList
    let new : PolicySet := ((((∅ : PolicySet).insert MAIN_ONLY).insert UNIVERSAL_DIFFERENT_PACKAGE).insert
      PARTIAL_COMPATIBLE_DIFFERENT_PACKAGE).insert FULL_COMPATIBLE_DIFFERENT_PACKAGE
    filterBundleListByDeviceModeDistributionPolicies refStringEx ⟨⟨0, 0⟩, true, true, false⟩ pair store new =
      ⟨.ERR_APPEXECFWK_DUAL_MODE_PERSIST_FAILED, pair, store, some false⟩ := by
  intro pair store new
  refine filter_rollback refStringEx ⟨⟨0, 0⟩, true, true, false⟩ pair store "4,6,8".toList
    (((∅ : PolicySet).insert UNIVERSAL_DIFFERENT_PACKAGE).insert
      PARTIAL_COMPATIBLE_DIFFERENT_PACKAGE |>.insert FULL_COMPATIBLE_DIFFERENT_PACKAGE) new
    (by decide) (by decide) ?_ (by decide) (by decide)
  intro name
  simp only [pair, BundleMaps.cell, MapLoop.getElem?_insert_eq, ExtTreeMap.getElem?_empty]
  by_cases hx : name = ['x']
  · subst hx
    exact ⟨rfl, rfl⟩
  · by_cases hy : name = ['y']
    · subst hy
      intro _
      decide
    · simp only [if_neg hx, if_neg hy, PlacedCell]

end BundleFramework
