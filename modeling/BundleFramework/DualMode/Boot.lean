import BundleFramework.DualMode.Classify

/-!
# What a boot builds, and its agreement with the runtime switch

Of the database rows only the two variants of a name matter for the name: the row
under the plain key (`plainRow`) and the one under the prefixed key (`cloneRow`).  On a
database in which the prefixed keys hold exactly the clones (`DualModeDb`)

    (classify … ⟨db.rows, ∅⟩).cell name = bootCell persisted secondary (plainRow name) (cloneRow name)

(`classify_cell`).  From it: no record is lost, and where each one ends up
(`bootCell_records`, `bootCell_sides`), except for the mixed pairs `classify_partition_iff`
names (a single-package record next to a clone of its name); and one runtime switch is the same as a
reboot in the opposite mode (`switchCell_bootCell`).
-/

namespace BundleFramework

open Std DeviceModeDistributionPolicy

variable {β : Type}

/-! ## The database, and the whole classification name by name -/

/-- Database rows as the installer writes them: prefixed keys hold dual-mode clones with
a different-package policy, the other keys hold non-clones. -/
structure DualModeDb (β : Type) where
  rows : StrMap (InnerBundleInfo β)
  clone_key : ∀ key r, rows[key]? = some r → isDualModeCloneKey key = true →
    r.isDualModeCloneApp = true ∧ isDiffPackageCategory r.deviceModeDistributionPolicy = true
  plain_key : ∀ key r, rows[key]? = some r → isDualModeCloneKey key = false → r.isDualModeCloneApp = false

/-- The row of a name under the plain key. -/
def DualModeDb.plainRow (db : DualModeDb β) (name : Str) : Option (InnerBundleInfo β) :=
  if isDualModeCloneKey name then none else db.rows[name]?

/-- The row of a name under the prefixed key. -/
def DualModeDb.cloneRow (db : DualModeDb β) (name : Str) : Option (InnerBundleInfo β) :=
  db.rows[getDualModeBundleName name]?

theorem DualModeDb.plainRow_nonClone (db : DualModeDb β) {name : Str} {r : InnerBundleInfo β}
    (h : db.plainRow name = some r) : r.isDualModeCloneApp = false := by
  unfold DualModeDb.plainRow at h
  split at h
  · cases h
  · next hk => exact db.plain_key name r h (by simpa using hk)

theorem DualModeDb.cloneRow_clone (db : DualModeDb β) {name : Str} {r : InnerBundleInfo β}
    (h : db.cloneRow name = some r) :
    r.isDualModeCloneApp = true ∧ isDiffPackageCategory r.deviceModeDistributionPolicy = true :=
  db.clone_key _ r h ((isDualModeCloneKey_iff _).mpr ⟨name, rfl⟩)

/-- The policy pass on a name that has only a visible record. -/
def bootPolicyCell (persisted : Option PolicySet) (plain : Option (InnerBundleInfo β)) : Cell β :=
  match persisted with
  | none => (plain, none)
  | some policySet => onVisible (policyHideAt policySet) (plain, none)

/-- Boot classification of one name, pass after pass. -/
def bootCell (persisted : Option PolicySet) (secondary : Bool) (plain clone : Option (InnerBundleInfo β)) :
    Cell β :=
  let byPolicy := bootPolicyCell persisted plain
  let stripped : Cell β := (byPolicy.1, clone.or byPolicy.2)
  let byMode := if secondary then onVisible secondaryHideAt (onHidden secondaryShowAt stripped) else stripped
  if persisted.isNone then onHidden (modeShowAt secondary) (onVisible (modeHideAt secondary) byMode)
  else byMode

theorem classifyByPolicy_cell (ex : StringEx) (bmsPara : Option BmsParam) (rows : StrMap (InnerBundleInfo β))
    (name : Str) :
    (classifyDualModeAppsByPolicyNoLock ex bmsPara ⟨rows, ∅⟩).2.cell name =
      bootPolicyCell (persistedPolicies ex bmsPara) rows[name]? := by
  have h0 : (⟨rows, ∅⟩ : BundleMaps β).cell name = (rows[name]?, none) := by
    unfold BundleMaps.cell
    rw [ExtTreeMap.getElem?_empty]
  unfold classifyDualModeAppsByPolicyNoLock bootPolicyCell
  cases persistedPolicies ex bmsPara with
  | none => exact h0
  | some policySet =>
    dsimp only
    rw [visiblePass_cell (policyHideStep_local policySet), h0]

theorem classifyByPolicy_fst (ex : StringEx) (bmsPara : Option BmsParam) (maps : BundleMaps β) :
    (classifyDualModeAppsByPolicyNoLock ex bmsPara maps).1 = (persistedPolicies ex bmsPara).isSome := by
  unfold classifyDualModeAppsByPolicyNoLock
  cases persistedPolicies ex bmsPara <;> rfl

/-- A different-package record is not touched by the policy pass. -/
theorem bootPolicyCell_of_diff (persisted : Option PolicySet) (r : InnerBundleInfo β)
    (hd : isDiffPackageCategory r.deviceModeDistributionPolicy = true) :
    bootPolicyCell persisted (some r) = (some r, none) := by
  unfold bootPolicyCell
  cases persisted with
  | none => rfl
  | some policySet => simp [onVisible, policyHideAt, hiddenByPolicy, isFilterable, hd]

/-- After the policy pass and the strip pass: the plain row as the policy pass left it,
and the clone, if there is one, on the hidden side. -/
theorem stripped_cell (ex : StringEx) (hex : ex.ReadsCloneIndex) (bmsPara : Option BmsParam)
    (db : DualModeDb β) (name : Str) :
    let byPolicy := (classifyDualModeAppsByPolicyNoLock ex bmsPara ⟨db.rows, ∅⟩).2
    (byPolicy.bundleInfos.toList.foldl (stripStep ex) byPolicy).cell name =
      ((bootPolicyCell (persistedPolicies ex bmsPara) (db.plainRow name)).1,
        (db.cloneRow name).or (bootPolicyCell (persistedPolicies ex bmsPara) (db.plainRow name)).2) := by
  intro byPolicy
  have hcell : ∀ key, byPolicy.cell key = bootPolicyCell (persistedPolicies ex bmsPara) db.rows[key]? :=
    classifyByPolicy_cell ex bmsPara db.rows
  have hv : ∀ key, byPolicy.bundleInfos[key]? = (bootPolicyCell (persistedPolicies ex bmsPara) db.rows[key]?).1 :=
    fun key => congrArg Prod.fst (hcell key)
  have ht : ∀ key, byPolicy.tempBundleInfos[key]?
      = (bootPolicyCell (persistedPolicies ex bmsPara) db.rows[key]?).2 :=
    fun key => congrArg Prod.snd (hcell key)
  have hnone : bootPolicyCell (persistedPolicies ex bmsPara) (none : Option (InnerBundleInfo β))
      = (none, none) := by
    unfold bootPolicyCell
    cases persistedPolicies ex bmsPara <;> rfl
  -- the clone of the name survives the policy pass
  have hclone : (byPolicy.bundleInfos[getDualModeBundleName name]?).filter
      (fun r => isDiffPackageCategory r.deviceModeDistributionPolicy) = db.cloneRow name := by
    rw [hv]
    unfold DualModeDb.cloneRow
    cases hr : db.rows[getDualModeBundleName name]? with
    | none => rw [hnone]; rfl
    | some r =>
      have hd := (db.cloneRow_clone hr).2
      rw [bootPolicyCell_of_diff _ r hd, Option.filter_some, if_pos hd]
  rw [stripPass_cell ex hex, hclone, hv, ht]
  unfold DualModeDb.plainRow
  cases hk : isDualModeCloneKey name with
  | false =>
    refine Prod.ext ?_ rfl
    show Option.filter _ _ = _
    simp only [isStripped, hk, Bool.and_false, Bool.not_false, if_false, Bool.false_eq_true]
    cases (bootPolicyCell (persistedPolicies ex bmsPara) db.rows[name]?).1 <;> rfl
  | true =>
    -- a name that is itself a prefixed key: its row is a clone and goes elsewhere
    rw [if_pos rfl, hnone]
    cases hr : db.rows[name]? with
    | none => rw [hnone]; rfl
    | some r =>
      have hd := (db.clone_key name r hr hk).2
      rw [bootPolicyCell_of_diff _ r hd]
      simp [isStripped, hk, hd]

/-- **Boot classification, name by name.** -/
theorem classify_cell (ex : StringEx) (hex : ex.ReadsCloneIndex) (params : ModeParams)
    (hdev : isDualModeDevice params = true) (bmsPara : Option BmsParam) (db : DualModeDb β) (name : Str) :
    (classifyDualModeAppsNoLock ex params bmsPara ⟨db.rows, ∅⟩).cell name =
      bootCell (persistedPolicies ex bmsPara) (isSecondaryMode params) (db.plainRow name) (db.cloneRow name) := by
  have hs := stripped_cell ex hex bmsPara db name
  have hhide : MapLoop.Local secondaryHideStep (BundleMaps.cell (β := β)) fun _ r c => secondaryHideAt r c :=
    hideWhen_local fun r =>
      isDiffPackageCategory r.deviceModeDistributionPolicy && !r.isDualModeCloneApp
  unfold classifyDualModeAppsNoLock bootCell
  simp only [hdev, Bool.not_true, Bool.false_eq_true, if_false]
  rw [classifyByPolicy_fst]
  generalize persistedPolicies ex bmsPara = persisted at hs ⊢
  cases isSecondaryMode params <;> cases persisted <;>
    simp only [Option.isSome_none, Option.isSome_some, Option.isNone_none, Option.isNone_some,
      Bool.not_false, Bool.not_true, Bool.false_eq_true, if_true, if_false,
      classifyByDeviceMode_cell, visiblePass_cell hhide, hiddenPass_cell secondaryShowStep_local, hs]

/-! ## Where classification puts a record -/

/-- Visible after boot, given the valid persisted set (if any) and the mode. -/
def VisibleAtBoot (persisted : Option PolicySet) (secondary : Bool) (r : InnerBundleInfo β) : Prop :=
  r.deviceModeDistributionPolicy = UNSPECIFIED ∨
  (isDiffPackageCategory r.deviceModeDistributionPolicy = true ∧
    (r.isDualModeCloneApp = true ↔ secondary = true)) ∨
  (isFilterable r.deviceModeDistributionPolicy = true ∧
    ∃ policySet, persisted = some policySet ∧ policySet.contains r.deviceModeDistributionPolicy = true) ∨
  (isFilterable r.deviceModeDistributionPolicy = true ∧ persisted = none ∧
    ¬ (r.deviceModeDistributionPolicy = MAIN_ONLY ∧ secondary = true) ∧
    ¬ (r.deviceModeDistributionPolicy = SUB_ONLY ∧ secondary = false))

/-- The same, computed. -/
def bootVisible (persisted : Option PolicySet) (secondary : Bool) (r : InnerBundleInfo β) : Bool :=
  if isDiffPackageCategory r.deviceModeDistributionPolicy then r.isDualModeCloneApp == secondary
  else match persisted with
    | some policySet => !hiddenByPolicy policySet r
    | none => !shouldBeHidden secondary r.deviceModeDistributionPolicy

theorem bootVisible_iff (persisted : Option PolicySet) (secondary : Bool) (r : InnerBundleInfo β) :
    bootVisible persisted secondary r = true ↔ VisibleAtBoot persisted secondary r := by
  unfold bootVisible VisibleAtBoot
  by_cases hu : r.deviceModeDistributionPolicy = UNSPECIFIED
  · cases persisted <;> simp [hu, isDiffPackageCategory, hiddenByPolicy, isFilterable, shouldBeHidden]
  · cases hd : isDiffPackageCategory r.deviceModeDistributionPolicy with
    | true => cases r.isDualModeCloneApp <;> cases secondary <;> simp [hu, isFilterable, hd]
    | false =>
      cases persisted with
      | some policySet =>
        simp only [hiddenByPolicy, isFilterable, hd, Option.some.injEq, exists_eq_left']
        generalize policySet.contains r.deviceModeDistributionPolicy = inSet
        cases inSet <;> simp [hu]
      | none =>
        unfold shouldBeHidden
        by_cases hm : r.deviceModeDistributionPolicy = MAIN_ONLY
        · cases secondary <;> simp [hm, isFilterable, isDiffPackageCategory]
        · by_cases hsub : r.deviceModeDistributionPolicy = SUB_ONLY
          · cases secondary <;> simp [hsub, isFilterable, isDiffPackageCategory]
          · simp [hu, hm, hsub, isFilterable, hd]

/-- The plain and the prefixed row of one name: a non-clone and a clone, and if both
exist, both are different-package. -/
structure VariantRows (plain clone : Option (InnerBundleInfo β)) : Prop where
  nonClone : ∀ p, plain = some p → p.isDualModeCloneApp = false
  isClone : ∀ c, clone = some c →
    c.isDualModeCloneApp = true ∧ isDiffPackageCategory c.deviceModeDistributionPolicy = true
  paired : ∀ p c, plain = some p → clone = some c → isDiffPackageCategory p.deviceModeDistributionPolicy = true

/-- A cell with one record, on the side `visible` says. -/
def lone (visible : Bool) (r : InnerBundleInfo β) : Cell β := if visible then (some r, none) else (none, some r)

/-- A cell with both variants, the clone visible in secondary mode. -/
def paired (secondary : Bool) (p c : InnerBundleInfo β) : Cell β :=
  if secondary then (some c, some p) else (some p, some c)

theorem shouldBeHidden_of_diff (secondary : Bool) {policy : DeviceModeDistributionPolicy}
    (hd : isDiffPackageCategory policy = true) : shouldBeHidden secondary policy = false := by
  unfold shouldBeHidden
  rw [if_neg (by rintro rfl; cases hd), if_neg (by rintro rfl; cases hd)]

theorem modeShowAt_of_diff (secondary : Bool) (r : InnerBundleInfo β) (c : Cell β)
    (hd : isDiffPackageCategory r.deviceModeDistributionPolicy = true) : modeShowAt secondary r c = c := by
  unfold modeShowAt
  have hm : r.deviceModeDistributionPolicy ≠ MAIN_ONLY := by intro e; rw [e] at hd; cases hd
  have hs : r.deviceModeDistributionPolicy ≠ SUB_ONLY := by intro e; rw [e] at hd; cases hd
  simp [hm, hs]

/-- A plain row without a clone row. -/
theorem bootCell_plain (persisted : Option PolicySet) (secondary : Bool) (p : InnerBundleInfo β)
    (hp : p.isDualModeCloneApp = false) :
    bootCell persisted secondary (some p) none = lone (bootVisible persisted secondary p) p := by
  unfold bootCell bootVisible lone
  cases hd : isDiffPackageCategory p.deviceModeDistributionPolicy with
  | true =>
    rw [bootPolicyCell_of_diff _ _ hd]
    cases persisted <;> cases secondary <;>
      simp [onVisible, onHidden, secondaryHideAt, modeHideAt, modeShowAt_of_diff, hd, hp,
        shouldBeHidden_of_diff _ hd]
  | false =>
    cases persisted with
    | some policySet =>
      cases hh : hiddenByPolicy policySet p <;> cases secondary <;>
        simp [bootPolicyCell, policyHideAt, onVisible, onHidden, secondaryHideAt, secondaryShowAt, hd, hh]
    | none =>
      cases hh : shouldBeHidden secondary p.deviceModeDistributionPolicy <;> cases secondary <;>
        simp [bootPolicyCell, onVisible, onHidden, secondaryHideAt, modeHideAt, modeShowAt, hd, hh]

/-- A clone row without a plain row. -/
theorem bootCell_clone (persisted : Option PolicySet) (secondary : Bool) (c : InnerBundleInfo β)
    (hc : c.isDualModeCloneApp = true) (hd : isDiffPackageCategory c.deviceModeDistributionPolicy = true) :
    bootCell persisted secondary none (some c) = lone secondary c := by
  unfold bootCell lone
  cases persisted <;> cases secondary <;>
    simp [bootPolicyCell, onVisible, onHidden, secondaryHideAt, secondaryShowAt, modeHideAt,
      modeShowAt_of_diff, hd, hc, shouldBeHidden_of_diff _ hd]

/-- Both rows, both different-package. -/
theorem bootCell_pair (persisted : Option PolicySet) (secondary : Bool) (p c : InnerBundleInfo β)
    (hc : c.isDualModeCloneApp = true) (hdp : isDiffPackageCategory p.deviceModeDistributionPolicy = true)
    (hdc : isDiffPackageCategory c.deviceModeDistributionPolicy = true) :
    bootCell persisted secondary (some p) (some c) = paired secondary p c := by
  unfold bootCell paired
  rw [bootPolicyCell_of_diff _ _ hdp]
  cases persisted <;> cases secondary <;>
    simp [onVisible, onHidden, secondaryHideAt, secondaryShowAt, modeHideAt, modeShowAt_of_diff,
      hdp, hdc, hc, shouldBeHidden_of_diff _ hdp, shouldBeHidden_of_diff _ hdc]

theorem bootCell_empty (persisted : Option PolicySet) (secondary : Bool) :
    bootCell persisted secondary none none = ((none, none) : Cell β) := by
  cases persisted <;> cases secondary <;> rfl

/-! ## Lossless partition -/

theorem bootCell_records (persisted : Option PolicySet) (secondary : Bool)
    {plain clone : Option (InnerBundleInfo β)} (h : VariantRows plain clone) :
    Cell.records (bootCell persisted secondary plain clone) =
      Multiset.ofList (plain.toList ++ clone.toList) := by
  cases hp : plain with
  | none =>
    cases hc : clone with
    | none => rw [bootCell_empty]; rfl
    | some c =>
      obtain ⟨h1, h2⟩ := h.isClone c hc
      rw [bootCell_clone _ _ c h1 h2]
      cases secondary <;> rfl
  | some p =>
    cases hc : clone with
    | none =>
      rw [bootCell_plain _ _ p (h.nonClone p hp)]
      cases bootVisible persisted secondary p <;> rfl
    | some c =>
      obtain ⟨h1, h2⟩ := h.isClone c hc
      rw [bootCell_pair _ _ p c h1 (h.paired p c hp hc) h2]
      cases secondary with
      | false => rfl
      | true => exact Multiset.coe_eq_coe.mpr (List.Perm.swap _ _ _)

theorem bootVisible_of_diff (persisted : Option PolicySet) (secondary : Bool) (r : InnerBundleInfo β)
    (hd : isDiffPackageCategory r.deviceModeDistributionPolicy = true) :
    bootVisible persisted secondary r = (r.isDualModeCloneApp == secondary) := by
  unfold bootVisible
  rw [if_pos hd]

theorem lone_sides (visible : Bool) (r : InnerBundleInfo β) :
    ((lone visible r).1 = some r ↔ visible = true) ∧ ((lone visible r).2 = some r ↔ ¬ visible = true) := by
  unfold lone
  cases visible <;> simp

/-- A row is on the side `bootVisible` says, and not on the other one. -/
theorem bootCell_sides (persisted : Option PolicySet) (secondary : Bool)
    {plain clone : Option (InnerBundleInfo β)} (h : VariantRows plain clone) {r : InnerBundleInfo β}
    (hr : plain = some r ∨ clone = some r) :
    ((bootCell persisted secondary plain clone).1 = some r ↔ bootVisible persisted secondary r = true) ∧
    ((bootCell persisted secondary plain clone).2 = some r ↔ ¬ bootVisible persisted secondary r = true) := by
  cases hp : plain with
  | none =>
    rw [hp] at hr
    obtain h0 | hc := hr
    · cases h0
    obtain ⟨h1, h2⟩ := h.isClone r hc
    rw [hc, bootCell_clone _ _ r h1 h2, bootVisible_of_diff _ _ r h2, h1]
    have := lone_sides secondary r
    cases secondary <;> simpa using this
  | some p =>
    have hpc := h.nonClone p hp
    cases hc : clone with
    | none =>
      obtain rfl : p = r := by
        rw [hp, hc] at hr
        obtain h0 | h0 := hr
        · exact Option.some.inj h0
        · cases h0
      rw [bootCell_plain _ _ p hpc]
      exact lone_sides _ p
    | some c =>
      obtain ⟨h1, h2⟩ := h.isClone c hc
      have hdp := h.paired p c hp hc
      have hne : p ≠ c := by
        intro e
        rw [e, h1] at hpc
        cases hpc
      rw [bootCell_pair _ _ p c h1 hdp h2]
      rw [hp, hc] at hr
      obtain h0 | h0 := hr
      · obtain rfl := Option.some.inj h0
        rw [bootVisible_of_diff _ _ p hdp, hpc]
        unfold paired
        cases secondary <;> simp [Ne.symm hne]
      · obtain rfl := Option.some.inj h0
        rw [bootVisible_of_diff _ _ c h2, h1]
        unfold paired
        cases secondary <;> simp [hne]

/-- A name with a plain and a prefixed row has a different-package plain row: what the
installer's category consistency checks enforce. -/
def DualModeDb.CategoryConsistent (db : DualModeDb β) : Prop :=
  ∀ name p c, db.plainRow name = some p → db.cloneRow name = some c →
    isDiffPackageCategory p.deviceModeDistributionPolicy = true

/-- The two variants of one name carry the same policy. -/
def DualModeDb.SamePolicy (db : DualModeDb β) : Prop :=
  ∀ name p c, db.plainRow name = some p → db.cloneRow name = some c →
    p.deviceModeDistributionPolicy = c.deviceModeDistributionPolicy

theorem DualModeDb.SamePolicy.categoryConsistent {db : DualModeDb β} (h : db.SamePolicy) :
    db.CategoryConsistent := by
  intro name p c hp hc
  rw [h name p c hp hc]
  exact (db.cloneRow_clone hc).2

theorem DualModeDb.CategoryConsistent.variantRows {db : DualModeDb β} (h : db.CategoryConsistent)
    (name : Str) : VariantRows (db.plainRow name) (db.cloneRow name) where
  nonClone _ hp := db.plainRow_nonClone hp
  isClone _ hc := db.cloneRow_clone hc
  paired p c hp hc := h name p c hp hc

/-- The name a database key is classified under. -/
def unprefixedName (ex : StringEx) (key : Str) : Str :=
  if isDualModeCloneKey key then strippedName ex key else key

theorem DualModeDb.row_of_key (ex : StringEx) (hex : ex.ReadsCloneIndex) (db : DualModeDb β)
    {key : Str} {r : InnerBundleInfo β} (h : db.rows[key]? = some r) :
    db.plainRow (unprefixedName ex key) = some r ∨ db.cloneRow (unprefixedName ex key) = some r := by
  unfold unprefixedName
  cases hk : isDualModeCloneKey key with
  | true =>
    right
    obtain ⟨name, rfl⟩ := (isDualModeCloneKey_iff key).mp hk
    rw [if_pos rfl, strippedName_getDualModeBundleName ex hex]
    exact h
  | false =>
    left
    unfold DualModeDb.plainRow
    simp only [Bool.false_eq_true, if_false, hk]
    exact h

/-- Rows can be checked one by one. -/
def isDualModeRow (row : Str × InnerBundleInfo β) : Bool :=
  if isDualModeCloneKey row.1 then
    row.2.isDualModeCloneApp && isDiffPackageCategory row.2.deviceModeDistributionPolicy
  else !row.2.isDualModeCloneApp

def DualModeDb.ofRows (rows : StrMap (InnerBundleInfo β)) (h : rows.toList.all isDualModeRow = true) :
    DualModeDb β where
  rows := rows
  clone_key key r hr hk := by
    have hrow := List.all_eq_true.mp h (key, r) (ExtTreeMap.mem_toList_iff_getElem?_eq_some.mpr hr)
    simpa [isDualModeRow, hk] using hrow
  plain_key key r hr hk := by
    have hrow := List.all_eq_true.mp h (key, r) (ExtTreeMap.mem_toList_iff_getElem?_eq_some.mpr hr)
    simpa [isDualModeRow, hk] using hrow

/-- The clone row of a plain row, if there is one, carries its policy. -/
def hasSamePolicy (rows : StrMap (InnerBundleInfo β)) (row : Str × InnerBundleInfo β) : Bool :=
  (rows[getDualModeBundleName row.1]?).all fun c =>
    row.2.deviceModeDistributionPolicy = c.deviceModeDistributionPolicy

theorem DualModeDb.samePolicy_of_all {db : DualModeDb β}
    (h : db.rows.toList.all (hasSamePolicy db.rows) = true) : db.SamePolicy := by
  intro name p c hp hc
  unfold DualModeDb.plainRow at hp
  split at hp
  · cases hp
  · have hrow := List.all_eq_true.mp h (name, p) (ExtTreeMap.mem_toList_iff_getElem?_eq_some.mpr hp)
    unfold hasSamePolicy at hrow
    rw [show db.rows[getDualModeBundleName name]? = some c from hc] at hrow
    simpa using hrow

/-- Every row ends up in exactly one of the two maps, under its unprefixed name, on the
side `VisibleAtBoot` says; under no name is a row lost, overwritten or duplicated. -/
def BootPartition (ex : StringEx) (params : ModeParams) (bmsPara : Option BmsParam) (db : DualModeDb β) : Prop :=
  let maps := classifyDualModeAppsNoLock ex params bmsPara ⟨db.rows, ∅⟩
  let visible := VisibleAtBoot (β := β) (persistedPolicies ex bmsPara) (isSecondaryMode params)
  (∀ name, Cell.records (maps.cell name) =
    Multiset.ofList ((db.plainRow name).toList ++ (db.cloneRow name).toList)) ∧
  ∀ key r, db.rows[key]? = some r →
    (maps.bundleInfos[unprefixedName ex key]? = some r ↔ visible r) ∧
    (maps.tempBundleInfos[unprefixedName ex key]? = some r ↔ ¬ visible r)

/-- The same of one name: its cell holds each of its rows once, on the side `bootVisible` says. -/
structure CellPartition (persisted : Option PolicySet) (secondary : Bool)
    (plain clone : Option (InnerBundleInfo β)) : Prop where
  records : Cell.records (bootCell persisted secondary plain clone) =
    Multiset.ofList (plain.toList ++ clone.toList)
  sides : ∀ r, plain = some r ∨ clone = some r →
    ((bootCell persisted secondary plain clone).1 = some r ↔ bootVisible persisted secondary r = true) ∧
    ((bootCell persisted secondary plain clone).2 = some r ↔ ¬ bootVisible persisted secondary r = true)

theorem VariantRows.cellPartition {plain clone : Option (InnerBundleInfo β)} (h : VariantRows plain clone)
    (persisted : Option PolicySet) (secondary : Bool) : CellPartition persisted secondary plain clone where
  records := bootCell_records persisted secondary h
  sides _ hr := bootCell_sides persisted secondary h hr

/-- A row of a name is a row under one of its two keys. -/
theorem DualModeDb.key_of_row (ex : StringEx) (hex : ex.ReadsCloneIndex) (db : DualModeDb β) {name : Str}
    {r : InnerBundleInfo β} (h : db.plainRow name = some r ∨ db.cloneRow name = some r) :
    ∃ key, db.rows[key]? = some r ∧ unprefixedName ex key = name := by
  obtain hp | hc := h
  · unfold DualModeDb.plainRow at hp
    split at hp
    · cases hp
    · next hk => exact ⟨name, hp, if_neg hk⟩
  · refine ⟨getDualModeBundleName name, hc, ?_⟩
    unfold unprefixedName
    rw [if_pos ((isDualModeCloneKey_iff _).mpr ⟨name, rfl⟩), strippedName_getDualModeBundleName ex hex]

theorem bootPartition_iff_cells (ex : StringEx) (hex : ex.ReadsCloneIndex) (params : ModeParams)
    (hdev : isDualModeDevice params = true) (bmsPara : Option BmsParam) (db : DualModeDb β) :
    BootPartition ex params bmsPara db ↔
      ∀ name, CellPartition (persistedPolicies ex bmsPara) (isSecondaryMode params) (db.plainRow name)
        (db.cloneRow name) := by
  have cell := classify_cell ex hex params hdev bmsPara db
  constructor
  · rintro ⟨records, sides⟩ name
    refine ⟨by rw [← cell]; exact records name, fun r hr => ?_⟩
    obtain ⟨key, hkey, rfl⟩ := db.key_of_row ex hex hr
    rw [← cell, bootVisible_iff]
    exact sides key r hkey
  · intro cells
    refine ⟨fun name => by rw [cell]; exact (cells name).records, fun key r hr => ?_⟩
    have sides := (cells (unprefixedName ex key)).sides r (db.row_of_key ex hex hr)
    rw [← cell, bootVisible_iff] at sides
    exact sides

/-- **Boot classification is a lossless partition** of category consistent rows, whatever is
persisted, in both modes. -/
theorem classify_partition (ex : StringEx) (hex : ex.ReadsCloneIndex) (params : ModeParams)
    (hdev : isDualModeDevice params = true) (bmsPara : Option BmsParam) (db : DualModeDb β)
    (hcat : db.CategoryConsistent) : BootPartition ex params bmsPara db :=
  (bootPartition_iff_cells ex hex params hdev bmsPara db).mpr fun name =>
    (hcat.variantRows name).cellPartition _ _

/-! ## Mixed pairs -/

/-- The policies at which a plain single-package record survives next to a clone of its name.
With a valid set: in main mode, and the set does not hide it.  Without one: in main mode
unless `SUB_ONLY`, in secondary mode if `MAIN_ONLY`. -/
def MixedPairFits (persisted : Option PolicySet) (secondary : Bool) (policy : DeviceModeDistributionPolicy) :
    Prop :=
  match persisted, secondary with
  | some policySet, false => policy = UNSPECIFIED ∨ policySet.contains policy = true
  | some _, true => False
  | none, false => policy ≠ SUB_ONLY
  | none, true => policy = MAIN_ONLY

/-- A single-package plain row next to a clone row. -/
theorem bootCell_mixed (persisted : Option PolicySet) (secondary : Bool) (p c : InnerBundleInfo β)
    (hc : c.isDualModeCloneApp = true)
    (hdc : isDiffPackageCategory c.deviceModeDistributionPolicy = true) :
    bootCell persisted secondary (some p) (some c) =
      match persisted, secondary with
      | some policySet, false => (if hiddenByPolicy policySet p then none else some p, some c)
      | some policySet, true => (some c, if hiddenByPolicy policySet p then none else some p)
      | none, false => if p.deviceModeDistributionPolicy = SUB_ONLY then (none, some p) else (some p, some c)
      | none, true => if p.deviceModeDistributionPolicy = SUB_ONLY then (some p, none) else (some c, some p) := by
  have hm : c.deviceModeDistributionPolicy ≠ MAIN_ONLY := by intro e; rw [e] at hdc; cases hdc
  have hs : c.deviceModeDistributionPolicy ≠ SUB_ONLY := by intro e; rw [e] at hdc; cases hdc
  unfold bootCell
  cases persisted with
  | some policySet =>
    cases hh : hiddenByPolicy policySet p <;> cases secondary <;>
      simp [bootPolicyCell, policyHideAt, onVisible, onHidden, secondaryHideAt, secondaryShowAt, hdc, hc, hh]
  | none =>
    by_cases hsub : p.deviceModeDistributionPolicy = SUB_ONLY <;>
      by_cases hmain : p.deviceModeDistributionPolicy = MAIN_ONLY <;> cases secondary <;>
      simp [bootPolicyCell, onVisible, onHidden, secondaryHideAt, secondaryShowAt, modeHideAt, modeShowAt,
        shouldBeHidden, hdc, hc, hm, hs, hsub, hmain]

/-- A cell of one record does not hold two rows. -/
theorem CellPartition.two {persisted : Option PolicySet} {secondary : Bool} {p c : InnerBundleInfo β}
    (h : CellPartition persisted secondary (some p) (some c)) :
    (bootCell persisted secondary (some p) (some c)).1.isSome = true ∧
      (bootCell persisted secondary (some p) (some c)).2.isSome = true := by
  have hcard := congrArg Multiset.card h.records
  generalize bootCell persisted secondary (some p) (some c) = cell at hcard
  obtain ⟨_ | v, _ | t⟩ := cell <;> simp [Cell.records] at hcard ⊢

/-- A mixed pair in main mode, both kept where they were: the plain row visible, the clone hidden. -/
theorem cellPartition_main {persisted : Option PolicySet} {p c : InnerBundleInfo β}
    (hp : p.isDualModeCloneApp = false) (hc : c.isDualModeCloneApp = true)
    (hdc : isDiffPackageCategory c.deviceModeDistributionPolicy = true)
    (hcell : bootCell persisted false (some p) (some c) = (some p, some c))
    (hv : bootVisible persisted false p = true) : CellPartition persisted false (some p) (some c) where
  records := by rw [hcell]; rfl
  sides r hr := by
    have hne : p ≠ c := fun e => by rw [e, hc] at hp; cases hp
    rw [hcell]
    obtain h0 | h0 := hr
    · obtain rfl := Option.some.inj h0
      simp [hv, Ne.symm hne]
    · obtain rfl := Option.some.inj h0
      simp [bootVisible_of_diff, hdc, hc, hne]

/-- **A mixed pair is partitioned exactly where its policies fit.** -/
theorem cellPartition_mixed (persisted : Option PolicySet) (secondary : Bool) {p c : InnerBundleInfo β}
    (hp : p.isDualModeCloneApp = false) (hc : c.isDualModeCloneApp = true)
    (hdp : isDiffPackageCategory p.deviceModeDistributionPolicy = false)
    (hdc : isDiffPackageCategory c.deviceModeDistributionPolicy = true) :
    CellPartition persisted secondary (some p) (some c) ↔
      MixedPairFits persisted secondary p.deviceModeDistributionPolicy := by
  have hcell := bootCell_mixed persisted secondary p c hc hdc
  have hne : c ≠ p := fun e => by rw [← e, hc] at hp; cases hp
  constructor
  · intro h
    obtain ⟨hv, ht⟩ := h.two
    have side := h.sides p (.inl rfl)
    rw [hcell] at hv ht side
    cases persisted with
    | some policySet =>
      cases hh : hiddenByPolicy policySet p with
      | true => cases secondary <;> simp [hh] at hv ht
      | false =>
        cases secondary with
        | true => simp [hh, hne, bootVisible, hdp] at side
        | false =>
          show p.deviceModeDistributionPolicy = UNSPECIFIED ∨ _
          simp only [hiddenByPolicy, isFilterable, hdp, Bool.not_false, Bool.and_true, Bool.and_eq_false_iff,
            Bool.not_eq_false', decide_eq_true_eq] at hh
          exact hh
    | none =>
      by_cases hsub : p.deviceModeDistributionPolicy = SUB_ONLY
      · cases secondary <;> simp [hsub] at hv ht
      · cases secondary with
        | false => exact hsub
        | true =>
          -- the clone took the visible side, so the plain row has to belong on the hidden one
          simp only [hsub, if_false, Option.some.injEq, hne, false_iff] at side
          have := side.1
          simp only [bootVisible, hdp, shouldBeHidden, hsub, if_false, Bool.false_eq_true] at this
          by_contra hmain
          simp [show ¬ p.deviceModeDistributionPolicy = MAIN_ONLY from hmain] at this
  · intro h
    cases persisted with
    | some policySet =>
      cases secondary with
      | true => exact h.elim
      | false =>
        have hh : hiddenByPolicy policySet p = false := by
          obtain h | h := h <;> simp [hiddenByPolicy, isFilterable, h]
        refine cellPartition_main hp hc hdc ?_ ?_
        · rw [hcell]; simp [hh]
        · simp [bootVisible, hdp, hh]
    | none =>
      cases secondary with
      | false =>
        have hsub : p.deviceModeDistributionPolicy ≠ SUB_ONLY := h
        refine cellPartition_main hp hc hdc ?_ ?_
        · rw [hcell]; simp [hsub]
        · simp [bootVisible, hdp, shouldBeHidden, hsub]
      | true =>
        have hmain : p.deviceModeDistributionPolicy = MAIN_ONLY := h
        have hswap : bootCell none true (some p) (some c) = (some c, some p) := by
          rw [hcell]; simp [hmain]
        refine ⟨?_, fun r hr => ?_⟩
        · rw [hswap]
          exact Multiset.coe_eq_coe.mpr (List.Perm.swap _ _ _)
        · rw [hswap]
          obtain h0 | h0 := hr
          · obtain rfl := Option.some.inj h0
            simp [hne, bootVisible, shouldBeHidden, hmain, hp]
          · obtain rfl := Option.some.inj h0
            simp [bootVisible_of_diff, hdc, hc, Ne.symm hne]

/-- **Boot classification is a lossless partition exactly when every mixed pair fits.** -/
theorem classify_partition_iff (ex : StringEx) (hex : ex.ReadsCloneIndex) (params : ModeParams)
    (hdev : isDualModeDevice params = true) (bmsPara : Option BmsParam) (db : DualModeDb β) :
    BootPartition ex params bmsPara db ↔
      ∀ name p c, db.plainRow name = some p → db.cloneRow name = some c →
        isDiffPackageCategory p.deviceModeDistributionPolicy = true ∨
        MixedPairFits (persistedPolicies ex bmsPara) (isSecondaryMode params) p.deviceModeDistributionPolicy := by
  rw [bootPartition_iff_cells ex hex params hdev]
  constructor
  · intro cells name p c hp hc
    obtain ⟨hclone, hdc⟩ := db.cloneRow_clone hc
    cases hdp : isDiffPackageCategory p.deviceModeDistributionPolicy with
    | true => exact .inl rfl
    | false =>
      have h := cells name
      rw [hp, hc] at h
      exact .inr ((cellPartition_mixed _ _ (db.plainRow_nonClone hp) hclone hdp hdc).mp h)
  · intro fits name
    by_cases hmixed : ∀ p c, db.plainRow name = some p → db.cloneRow name = some c →
        isDiffPackageCategory p.deviceModeDistributionPolicy = true
    · exact VariantRows.cellPartition ⟨fun _ h => db.plainRow_nonClone h, fun _ h => db.cloneRow_clone h,
        hmixed⟩ _ _
    · push Not at hmixed
      obtain ⟨p, c, hp, hc, hdp⟩ := hmixed
      obtain ⟨hclone, hdc⟩ := db.cloneRow_clone hc
      rw [hp, hc, cellPartition_mixed _ _ (db.plainRow_nonClone hp) hclone (by simpa using hdp) hdc]
      exact (fits name p c hp hc).resolve_left hdp

/-- A pair `x`, a lone clone `z`, an unspecified `u` and a filterable `y`. -/
def sampleRows : StrMap (InnerBundleInfo Unit) :=
  (((((∅ : StrMap _).insert ['x'] (.blank ['x'] UNIVERSAL_DIFFERENT_PACKAGE false)).insert
    "+clone-10000+x".toList (.blank ['x'] UNIVERSAL_DIFFERENT_PACKAGE true)).insert
    "+clone-10000+z".toList (.blank ['z'] FULL_COMPATIBLE_DIFFERENT_PACKAGE true)).insert
    ['u'] (.blank ['u'] UNSPECIFIED false)).insert ['y'] (.blank ['y'] MAIN_ONLY false)

def sampleDb : DualModeDb Unit := .ofRows sampleRows (by decide)

theorem sampleDb_samePolicy : sampleDb.SamePolicy := DualModeDb.samePolicy_of_all (by decide)

/-- A parameter table that holds `csv` as the persisted policies. -/
def persistedStore (csv : Str) : BmsParam :=
  (∅ : StrMap _).insert DUAL_MODE_DEVICE_MODE_DISTRIBUTION_POLICIES_KEY csv

/-- `{4, 6, 8}`: what every valid set contains. -/
def diffPackageSet : PolicySet :=
  (((∅ : PolicySet).insert UNIVERSAL_DIFFERENT_PACKAGE).insert PARTIAL_COMPATIBLE_DIFFERENT_PACKAGE).insert
    FULL_COMPATIBLE_DIFFERENT_PACKAGE

/-- A single-package `x` next to a different-package clone of `x`. -/
def mixedDb : DualModeDb Unit :=
  .ofRows (((∅ : StrMap _).insert ['x'] (.blank ['x'] MAIN_ONLY false)).insert
    "+clone-10000+x".toList (.blank ['x'] UNIVERSAL_DIFFERENT_PACKAGE true)) (by decide)

/-- The theorem at the sample database in secondary mode with `{4, 6, 8}` persisted, and at
the mixed pair in main mode with a set that keeps the plain `x` visible. -/
theorem classify_partition_sample :
    BootPartition refStringEx ⟨1, 0⟩ (some (persistedStore "4,6,8".toList)) sampleDb ∧
    BootPartition refStringEx ⟨0, 0⟩ (some (persistedStore "1,4,6,8".toList)) mixedDb := by
  constructor
  · exact (classify_partition_iff refStringEx refStringEx_readsCloneIndex ⟨1, 0⟩ (by decide) _ sampleDb).mpr
      fun name p c hp hc => .inl (sampleDb_samePolicy.categoryConsistent name p c hp hc)
  · have single : mixedDb.rows.toList.all (fun row => isDiffPackageCategory row.2.deviceModeDistributionPolicy
        || row.2.deviceModeDistributionPolicy = MAIN_ONLY) = true := by decide
    refine (classify_partition_iff refStringEx refStringEx_readsCloneIndex ⟨0, 0⟩ (by decide) _ mixedDb).mpr
      fun name p c hp hc => ?_
    obtain ⟨key, hrow, -⟩ := mixedDb.key_of_row refStringEx refStringEx_readsCloneIndex (.inl hp)
    have hpol := List.all_eq_true.mp single (key, p) (ExtTreeMap.mem_toList_iff_getElem?_eq_some.mpr hrow)
    simp only [Bool.or_eq_true, decide_eq_true_eq] at hpol
    refine hpol.imp id fun hmain => ?_
    rw [hmain]
    show MixedPairFits (persistedPolicies refStringEx (some (persistedStore "1,4,6,8".toList))) false MAIN_ONLY
    have hset : persistedPolicies refStringEx (some (persistedStore "1,4,6,8".toList))
        = some (diffPackageSet.insert MAIN_ONLY) := by decide
    rw [hset]
    exact .inr (by decide)

/-- A mixed pair loses a record: with `{4, 6, 8}` persisted the policy pass hides the
plain `x`, and the strip pass overwrites it with the clone. -/
theorem classify_loses_mixed_pair :
    ¬ BootPartition refStringEx ⟨0, 0⟩ (some (persistedStore "4,6,8".toList)) mixedDb := by
  intro h
  obtain ⟨-, hidden⟩ := h.2 ['x'] (.blank ['x'] MAIN_ONLY false) (by decide)
  have hv : ¬ VisibleAtBoot (persistedPolicies refStringEx (some (persistedStore "4,6,8".toList)))
      (isSecondaryMode ⟨0, 0⟩) (.blank ['x'] MAIN_ONLY false) := by
    rw [← bootVisible_iff]
    decide
  have htemp : (classifyDualModeAppsNoLock refStringEx ⟨0, 0⟩ (some (persistedStore "4,6,8".toList))
      ⟨mixedDb.rows, ∅⟩).tempBundleInfos[unprefixedName refStringEx ['x']]?
        = some (.blank ['x'] UNIVERSAL_DIFFERENT_PACKAGE true) := by decide +kernel
  have hboth := htemp.symm.trans (hidden.mpr hv)
  exact absurd (Option.some.inj hboth) (by decide)

/-! ## Runtime switch against reboot -/

theorem switchCell_lone (policySet : PolicySet) (visible : Bool) (r : InnerBundleInfo β) :
    switchCell policySet (lone visible r) =
      lone (if visible then !movesOut policySet r else shows policySet r) r := by
  unfold lone
  cases visible with
  | true => cases hm : movesOut policySet r <;> simp [switchCell, hm]
  | false => cases hs : shows policySet r <;> simp [switchCell, hs]

/-- A lone plain record: the switch puts it where a reboot in the other mode would. -/
theorem switch_bootVisible (old new : PolicySet) (hn : isValidPolicySet new = true) (secondary : Bool)
    (p : InnerBundleInfo β) (hp : p.isDualModeCloneApp = false) :
    (if bootVisible (some old) secondary p then !movesOut new p else shows new p) =
      bootVisible (some new) (!secondary) p := by
  unfold bootVisible hiddenByPolicy
  rcases policy_cases new hn p with ⟨hd, hm, hs⟩ | ⟨hf, hm, hs⟩ | ⟨hu, hm, hs⟩
  · rw [hm, hs, hd, hp]
    cases secondary <;> rfl
  · have hd : isDiffPackageCategory p.deviceModeDistributionPolicy = false := by
      unfold isFilterable at hf
      simpa using (Bool.and_eq_true_iff.mp hf).2
    rw [hm, hs, hd, hf]
    simp only [Bool.true_and, Bool.not_not, Bool.false_eq_true, if_false, ite_self]
  · have hd : isDiffPackageCategory UNSPECIFIED = false := rfl
    simp [hu, hm, hd, isFilterable]

/-- **One switch is one reboot**, name by name. -/
theorem switchCell_bootCell (old new : PolicySet) (hn : isValidPolicySet new = true) (secondary : Bool)
    {plain clone : Option (InnerBundleInfo β)} (h : VariantRows plain clone) :
    switchCell new (bootCell (some old) secondary plain clone) =
      bootCell (some new) (!secondary) plain clone := by
  cases hp : plain with
  | none =>
    cases hc : clone with
    | none => rw [bootCell_empty, bootCell_empty]; rfl
    | some c =>
      obtain ⟨h1, h2⟩ := h.isClone c hc
      rw [bootCell_clone _ _ c h1 h2, bootCell_clone _ _ c h1 h2, switchCell_lone, movesOut_of_diff h2,
        shows_of_diff hn h2]
      cases secondary <;> rfl
  | some p =>
    have hpc := h.nonClone p hp
    cases hc : clone with
    | none =>
      rw [bootCell_plain _ _ p hpc, bootCell_plain _ _ p hpc, switchCell_lone,
        switch_bootVisible old new hn secondary p hpc]
    | some c =>
      obtain ⟨h1, h2⟩ := h.isClone c hc
      have hdp := h.paired p c hp hc
      rw [bootCell_pair _ _ p c h1 hdp h2, bootCell_pair _ _ p c h1 hdp h2]
      unfold paired
      cases secondary <;> simp [switchCell, shows_of_diff hn h2, shows_of_diff hn hdp]

/-- **Runtime switching agrees with reboot**: switching to the set `new` after booting
with `old` gives the maps of a boot in the opposite mode with `new` persisted. -/
theorem filter_classify_eq_classify_opposite (ex : StringEx) (hex : ex.ReadsCloneIndex)
    (params : ModeParams) (hdev : isDualModeDevice params = true) (db : DualModeDb β) (hsame : db.SamePolicy)
    (oldStore newStore : BmsParam) (old new : PolicySet)
    (hold : persistedPolicies ex (some oldStore) = some old)
    (hnew : persistedPolicies ex (some newStore) = some new) :
    filterBundleListByDeviceModeDistributionPoliciesNoLock new
        (classifyDualModeAppsNoLock ex params (some oldStore) ⟨db.rows, ∅⟩) =
      classifyDualModeAppsNoLock ex params.opposite (some newStore) ⟨db.rows, ∅⟩ := by
  have hvalid : isValidPolicySet new = true := by
    obtain ⟨csv, -, hparse⟩ := Option.bind_eq_some_iff.mp hnew
    exact parsePersistedPolicies_valid ex csv new hparse
  apply BundleMaps.ext_cell
  intro name
  rw [filterNoLock_cell, classify_cell ex hex params hdev,
    classify_cell ex hex params.opposite (isDualModeDevice_opposite params hdev),
    isSecondaryMode_opposite params hdev, hold, hnew]
  exact switchCell_bootCell old new hvalid _ (hsame.categoryConsistent.variantRows name)

/-- The theorem at the sample database in main mode, from `{4, 6, 8}` to `{1, 4, 6, 8}`. -/
theorem filter_classify_sample :
    filterBundleListByDeviceModeDistributionPoliciesNoLock (diffPackageSet.insert MAIN_ONLY)
        (classifyDualModeAppsNoLock refStringEx ⟨0, 0⟩ (some (persistedStore "4,6,8".toList))
          ⟨sampleDb.rows, ∅⟩) =
      classifyDualModeAppsNoLock refStringEx (ModeParams.opposite ⟨0, 0⟩)
        (some (persistedStore "1,4,6,8".toList)) ⟨sampleDb.rows, ∅⟩ :=
  filter_classify_eq_classify_opposite refStringEx refStringEx_readsCloneIndex ⟨0, 0⟩ (by decide)
    sampleDb sampleDb_samePolicy (persistedStore "4,6,8".toList) (persistedStore "1,4,6,8".toList)
    diffPackageSet (diffPackageSet.insert MAIN_ONLY) (by decide) (by decide)

end BundleFramework
