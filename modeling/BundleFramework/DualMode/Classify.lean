import BundleFramework.DualMode.Filter

/-!
# Boot classification

`ClassifyDualModeAppsNoLock` starts from the database rows in `bundleInfos_` (clones
under prefixed keys) and an empty `tempBundleInfos_`, and runs up to five in-place
passes over the two maps: policy hide, prefix strip, swap and leftover hide in
secondary mode, and the mode fallback when no valid set is persisted.

Each pass acts on every name separately (`visiblePass_cell`, `hiddenPass_cell`), except
that the strip pass moves what it finds under a prefixed key to another name
(`stripPass_cell`).
-/

namespace BundleFramework

open Std DeviceModeDistributionPolicy

variable {β : Type}

/-! ## Algorithm -/

/-- Policy pass, at an entry of `bundleInfos_`: filterable and not in the set, unless
the name is taken on the hidden side. -/
def policyHideStep (policySet : PolicySet) (maps : BundleMaps β) (it : Str × InnerBundleInfo β) :
    BundleMaps β :=
  let policy := it.2.deviceModeDistributionPolicy
  if policy ≠ UNSPECIFIED && !isDiffPackageCategory policy && !policySet.contains policy then
    match maps.tempBundleInfos[it.1]? with
    | none => maps.hide it.1 it.2
    | some _ => maps
  else maps

/-- The persisted set, when there is a parameter helper, a value and the value is valid. -/
def persistedPolicies (ex : StringEx) (bmsPara : Option BmsParam) : Option PolicySet :=
  (bmsPara.bind fun store => getBmsParam store DUAL_MODE_DEVICE_MODE_DISTRIBUTION_POLICIES_KEY).bind
    (parsePersistedPolicies ex)

def classifyDualModeAppsByPolicyNoLock (ex : StringEx) (bmsPara : Option BmsParam) (maps : BundleMaps β) :
    Bool × BundleMaps β :=
  match persistedPolicies ex bmsPara with
  | none => (false, maps)
  | some policySet => (true, maps.bundleInfos.toList.foldl (policyHideStep policySet) maps)

/-- Step 1, at an entry of `bundleInfos_`: a different-package record under a prefixed
key moves to `tempBundleInfos_` under the original name. -/
def stripStep (ex : StringEx) (maps : BundleMaps β) (it : Str × InnerBundleInfo β) : BundleMaps β :=
  if !isDiffPackageCategory it.2.deviceModeDistributionPolicy then maps
  else if isDualModeCloneKey it.1 then
    let originalName := (parseDualModeBundleName ex it.1).getD []
    { bundleInfos := maps.bundleInfos.erase it.1,
      tempBundleInfos := maps.tempBundleInfos.insert originalName it.2 }
  else maps

/-- Step 2, first loop, at an entry of `tempBundleInfos_`: the clone becomes visible and
a same-name primary takes its place. -/
def secondaryShowStep (maps : BundleMaps β) (it : Str × InnerBundleInfo β) : BundleMaps β :=
  if !isDiffPackageCategory it.2.deviceModeDistributionPolicy then maps
  else match maps.bundleInfos[it.1]? with
    | some existing => maps.exchange it.1 it.2 existing
    | none => maps.unhide it.1 it.2

/-- Step 2, second loop, at an entry of `bundleInfos_`: primaries without a clone. -/
def secondaryHideStep (maps : BundleMaps β) (it : Str × InnerBundleInfo β) : BundleMaps β :=
  if isDiffPackageCategory it.2.deviceModeDistributionPolicy && !it.2.isDualModeCloneApp then
    maps.hide it.1 it.2
  else maps

def classifyDualModeAppsNoLock (ex : StringEx) (params : ModeParams) (bmsPara : Option BmsParam)
    (maps : BundleMaps β) : BundleMaps β :=
  if !isDualModeDevice params then maps
  else
    let secondary := isSecondaryMode params
    let byPolicy := classifyDualModeAppsByPolicyNoLock ex bmsPara maps
    let stripped := byPolicy.2.bundleInfos.toList.foldl (stripStep ex) byPolicy.2
    let byMode :=
      if secondary then
        let shown := stripped.tempBundleInfos.toList.foldl secondaryShowStep stripped
        shown.bundleInfos.toList.foldl secondaryHideStep shown
      else stripped
    if !byPolicy.1 then classifyDualModeAppsByDeviceModeNoLock secondary byMode else byMode

/-! ## The passes on cells -/

/-- A pass over `bundleInfos_` on one cell: `f` runs when there is a visible record. -/
def onVisible (f : InnerBundleInfo β → Cell β → Cell β) (c : Cell β) : Cell β := c.1.elim c fun r => f r c

/-- A pass over `tempBundleInfos_` on one cell. -/
def onHidden (f : InnerBundleInfo β → Cell β → Cell β) (c : Cell β) : Cell β := c.2.elim c fun r => f r c

theorem visiblePass_cell {step : BundleMaps β → Str × InnerBundleInfo β → BundleMaps β}
    {f : InnerBundleInfo β → Cell β → Cell β}
    (h : MapLoop.Local step BundleMaps.cell fun _ r c => f r c) (maps : BundleMaps β) (name : Str) :
    (maps.bundleInfos.toList.foldl step maps).cell name = onVisible f (maps.cell name) :=
  h.foldl_toList maps.bundleInfos maps name

theorem hiddenPass_cell {step : BundleMaps β → Str × InnerBundleInfo β → BundleMaps β}
    {f : InnerBundleInfo β → Cell β → Cell β}
    (h : MapLoop.Local step BundleMaps.cell fun _ r c => f r c) (maps : BundleMaps β) (name : Str) :
    (maps.tempBundleInfos.toList.foldl step maps).cell name = onHidden f (maps.cell name) :=
  h.foldl_toList maps.tempBundleInfos maps name

/-- An iteration that hides the visible record when `p` holds of it. -/
theorem hideWhen_local (p : InnerBundleInfo β → Bool) :
    MapLoop.Local (fun (maps : BundleMaps β) (it : Str × InnerBundleInfo β) =>
        if p it.2 then maps.hide it.1 it.2 else maps)
      BundleMaps.cell fun _ r c => if p r then (none, some r) else c where
  self maps name r := by
    dsimp only
    split
    · rw [BundleMaps.cell_hide, if_pos rfl]
    · rfl
  other maps name r k hk := by
    dsimp only
    split
    · rw [BundleMaps.cell_hide, if_neg hk]
    · rfl

/-- An iteration that shows the hidden record when `p` holds of it. -/
theorem unhideWhen_local (p : InnerBundleInfo β → Bool) :
    MapLoop.Local (fun (maps : BundleMaps β) (it : Str × InnerBundleInfo β) =>
        if p it.2 then maps.unhide it.1 it.2 else maps)
      BundleMaps.cell fun _ r c => if p r then (some r, none) else c where
  self maps name r := by
    dsimp only
    split
    · rw [BundleMaps.cell_unhide, if_pos rfl]
    · rfl
  other maps name r k hk := by
    dsimp only
    split
    · rw [BundleMaps.cell_unhide, if_neg hk]
    · rfl

/-- Hidden by the policy pass: filterable and not in the set. -/
def hiddenByPolicy (policySet : PolicySet) (r : InnerBundleInfo β) : Bool :=
  isFilterable r.deviceModeDistributionPolicy && !policySet.contains r.deviceModeDistributionPolicy

def policyHideAt (policySet : PolicySet) (r : InnerBundleInfo β) (c : Cell β) : Cell β :=
  if hiddenByPolicy policySet r && c.2.isNone then (none, some r) else c

theorem policyHideStep_local (policySet : PolicySet) :
    MapLoop.Local (policyHideStep policySet) (BundleMaps.cell (β := β))
      fun _ r c => policyHideAt policySet r c where
  self maps name r := by
    have hp : hiddenByPolicy policySet r = (r.deviceModeDistributionPolicy ≠ UNSPECIFIED &&
        !isDiffPackageCategory r.deviceModeDistributionPolicy &&
        !policySet.contains r.deviceModeDistributionPolicy) := by
      simp only [hiddenByPolicy, isFilterable, ne_eq, decide_not]
    unfold policyHideStep policyHideAt
    rw [show (maps.cell name).2 = maps.tempBundleInfos[name]? from rfl]
    dsimp only
    rw [← hp]
    cases hiddenByPolicy policySet r with
    | false => rfl
    | true =>
      cases maps.tempBundleInfos[name]? with
      | none => simp [BundleMaps.cell_hide]
      | some t => rfl
  other maps name r k hk := by
    unfold policyHideStep
    dsimp only
    split
    · cases maps.tempBundleInfos[name]? with
      | none => rw [BundleMaps.cell_hide, if_neg hk]
      | some t => rfl
    · rfl

def secondaryShowAt (r : InnerBundleInfo β) (c : Cell β) : Cell β :=
  if isDiffPackageCategory r.deviceModeDistributionPolicy then (some r, c.1) else c

theorem secondaryShowStep_local :
    MapLoop.Local secondaryShowStep (BundleMaps.cell (β := β)) fun _ r c => secondaryShowAt r c where
  self maps name r := by
    unfold secondaryShowStep secondaryShowAt
    rw [show (maps.cell name).1 = maps.bundleInfos[name]? from rfl]
    dsimp only
    cases isDiffPackageCategory r.deviceModeDistributionPolicy with
    | false => rfl
    | true =>
      cases maps.bundleInfos[name]? with
      | none => simp [BundleMaps.cell_unhide]
      | some a => simp [BundleMaps.cell_exchange]
  other maps name r k hk := by
    unfold secondaryShowStep
    dsimp only
    cases isDiffPackageCategory r.deviceModeDistributionPolicy with
    | false => rfl
    | true =>
      cases maps.bundleInfos[name]? with
      | none => simp [BundleMaps.cell_unhide, hk]
      | some a => simp [BundleMaps.cell_exchange, hk]

def secondaryHideAt (r : InnerBundleInfo β) (c : Cell β) : Cell β :=
  if isDiffPackageCategory r.deviceModeDistributionPolicy && !r.isDualModeCloneApp then (none, some r) else c

def modeHideAt (secondary : Bool) (r : InnerBundleInfo β) (c : Cell β) : Cell β :=
  if shouldBeHidden secondary r.deviceModeDistributionPolicy then (none, some r) else c

def modeShowAt (secondary : Bool) (r : InnerBundleInfo β) (c : Cell β) : Cell β :=
  if (r.deviceModeDistributionPolicy = MAIN_ONLY || r.deviceModeDistributionPolicy = SUB_ONLY) &&
      !shouldBeHidden secondary r.deviceModeDistributionPolicy then (some r, none)
  else c

theorem classifyByDeviceMode_cell (secondary : Bool) (maps : BundleMaps β) (name : Str) :
    (classifyDualModeAppsByDeviceModeNoLock secondary maps).cell name =
      onHidden (modeShowAt secondary) (onVisible (modeHideAt secondary) (maps.cell name)) := by
  have hide : MapLoop.Local (modeHideStep secondary) (BundleMaps.cell (β := β)) fun _ r c =>
      modeHideAt secondary r c :=
    hideWhen_local fun r => shouldBeHidden secondary r.deviceModeDistributionPolicy
  have unhide : MapLoop.Local (modeShowStep secondary) (BundleMaps.cell (β := β)) fun _ r c =>
      modeShowAt secondary r c :=
    unhideWhen_local fun r => (r.deviceModeDistributionPolicy = MAIN_ONLY ||
      r.deviceModeDistributionPolicy = SUB_ONLY) && !shouldBeHidden secondary r.deviceModeDistributionPolicy
  unfold classifyDualModeAppsByDeviceModeNoLock
  rw [hiddenPass_cell unhide, visiblePass_cell hide]

/-! ## Prefix stripping -/

/-- A clone under the prefixed key, on the way to the hidden side of its name. -/
def isStripped (key : Str) (r : InnerBundleInfo β) : Bool :=
  isDiffPackageCategory r.deviceModeDistributionPolicy && isDualModeCloneKey key

def strippedName (ex : StringEx) (key : Str) : Str := (parseDualModeBundleName ex key).getD []

theorem strippedName_getDualModeBundleName (ex : StringEx) (hex : ex.ReadsCloneIndex) (name : Str) :
    strippedName ex (getDualModeBundleName name) = name := by
  unfold strippedName
  rw [parseDualModeBundleName_getDualModeBundleName ex hex]
  rfl

theorem strippedName_injective (ex : StringEx) (hex : ex.ReadsCloneIndex) {key key' : Str}
    (hk : isDualModeCloneKey key = true) (hk' : isDualModeCloneKey key' = true)
    (h : strippedName ex key = strippedName ex key') : key = key' := by
  obtain ⟨name, rfl⟩ := (isDualModeCloneKey_iff key).mp hk
  obtain ⟨name', rfl⟩ := (isDualModeCloneKey_iff key').mp hk'
  rw [strippedName_getDualModeBundleName ex hex, strippedName_getDualModeBundleName ex hex] at h
  rw [h]

theorem stripStep_eq (ex : StringEx) (maps : BundleMaps β) (key : Str) (r : InnerBundleInfo β) :
    stripStep ex maps (key, r) =
      if isStripped key r then
        { bundleInfos := maps.bundleInfos.erase key,
          tempBundleInfos := maps.tempBundleInfos.insert (strippedName ex key) r }
      else maps := by
  unfold stripStep isStripped
  dsimp only
  cases isDiffPackageCategory r.deviceModeDistributionPolicy with
  | false => rfl
  | true => cases isDualModeCloneKey key <;> rfl

/-- What the strip pass sees at a key: the record under it, and the hidden record of the
name it strips to. -/
def stripObs (ex : StringEx) (maps : BundleMaps β) (key : Str) : Cell β :=
  (maps.bundleInfos[key]?, if isDualModeCloneKey key then maps.tempBundleInfos[strippedName ex key]? else none)

theorem stripStep_local (ex : StringEx) (hex : ex.ReadsCloneIndex) :
    MapLoop.Local (stripStep ex) (stripObs (β := β) ex)
      fun key r c => if isStripped key r then (none, some r) else c where
  self maps key r := by
    rw [stripStep_eq]
    split
    · next h =>
      have hk : isDualModeCloneKey key = true := (Bool.and_eq_true_iff.mp h).2
      unfold stripObs
      simp only [MapLoop.getElem?_erase_eq, MapLoop.getElem?_insert_eq, hk, if_true]
    · rfl
  other maps key r key' hne := by
    rw [stripStep_eq]
    split
    · next h =>
      have hk : isDualModeCloneKey key = true := (Bool.and_eq_true_iff.mp h).2
      unfold stripObs
      simp only [MapLoop.getElem?_erase_eq, MapLoop.getElem?_insert_eq, if_neg hne]
      split
      · next hk' => rw [if_neg fun e => hne (strippedName_injective ex hex hk' hk e)]
      · rfl
    · rfl

/-- **Strip pass, name by name.** -/
theorem stripPass_cell (ex : StringEx) (hex : ex.ReadsCloneIndex) (maps : BundleMaps β) (name : Str) :
    (maps.bundleInfos.toList.foldl (stripStep ex) maps).cell name =
      ((maps.bundleInfos[name]?).filter fun r => !isStripped name r,
        ((maps.bundleInfos[getDualModeBundleName name]?).filter
          fun r => isDiffPackageCategory r.deviceModeDistributionPolicy).or maps.tempBundleInfos[name]?) := by
  have pass := (stripStep_local (β := β) ex hex).foldl_toList maps.bundleInfos maps
  have hk : isDualModeCloneKey (getDualModeBundleName name) = true := (isDualModeCloneKey_iff _).mpr ⟨name, rfl⟩
  refine Prod.ext ?_ ?_
  · -- the visible side is read at the name itself
    have h := congrArg Prod.fst (pass name)
    refine h.trans ?_
    show (Option.elim _ _ _ : Cell β).1 = Option.filter _ maps.bundleInfos[name]?
    cases hr : maps.bundleInfos[name]? with
    | none => exact hr
    | some r =>
      simp only [Option.elim_some, Option.filter_some]
      cases isStripped name r with
      | true => rfl
      | false => exact hr
  · -- the hidden side at the prefixed key
    have h := congrArg Prod.snd (pass (getDualModeBundleName name))
    simp only [stripObs, hk, if_true, strippedName_getDualModeBundleName ex hex] at h
    refine h.trans ?_
    cases maps.bundleInfos[getDualModeBundleName name]? with
    | none => rfl
    | some r =>
      simp only [Option.elim_some, Option.filter_some, isStripped, hk, Bool.and_true]
      cases isDiffPackageCategory r.deviceModeDistributionPolicy <;> rfl

end BundleFramework
