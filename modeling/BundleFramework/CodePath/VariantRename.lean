import BundleFramework.CodePath.CrashSafety
import BundleFramework.DataMgr.InnerBundleInfo

/-!
# Rotation of one of two variants

The two variants of a dual-mode bundle have directories and exception records of their own,
under their effective names.  `InnerProcessNewToRealPath` looks the version up under the
original name, where it finds the variant that is visible at the moment:

    record of   visible    compared with the old version
    plain       plain      the version of the plain variant
    plain       clone      the version of the clone
    clone       plain      the version of the plain variant
    clone       clone      the version of the clone

`decidesRight_iff` says when the version it compares decides like the right one.
-/

namespace BundleFramework.CodePath

open Std

/-- A prefixed name that cannot be parsed is left as it is. -/
def originalName (ex : StringEx) (bundleName : Str) : Str :=
  if isDualModeCloneKey bundleName then (parseDualModeBundleName ex bundleName).getD bundleName else bundleName

/-- `FetchInnerBundleInfo`; of the record only the version is read, which is its `body` here. -/
def fetchInnerBundleInfo (maps : BundleMaps Nat) (bundleName : Str) : Option (InnerBundleInfo Nat) :=
  if bundleName.isEmpty then none else maps.bundleInfos[bundleName]?

/-- `InnerProcessNewToRealPath` of the variant with an effective name. -/
def newToRealPathOfVariant (ex : StringEx) (maps : BundleMaps Nat) (bundleName : Str) (oldVersionCode : Nat) (s : Slot) :
    List Effect :=
  innerProcessNewToRealPath ((fetchInnerBundleInfo maps (originalName ex bundleName)).map (·.body)) oldVersionCode s

theorem originalName_effectiveName {ex : StringEx} (hex : ex.ReadsCloneIndex) {bundleName : Str}
    (hplain : isDualModeCloneKey bundleName = false) (isClone : Bool) :
    originalName ex (effectiveName isClone bundleName) = bundleName := by
  unfold originalName effectiveName
  cases isClone with
  | false =>
    rw [if_neg Bool.false_ne_true, hplain]
    rfl
  | true =>
    rw [if_pos rfl, if_pos ((isDualModeCloneKey_iff _).mpr ⟨bundleName, rfl⟩),
      parseDualModeBundleName_getDualModeBundleName ex hex]
    rfl

/-! ## Specification -/

/-- The version of the variant, on whichever side its record is. -/
def versionOf (visible hidden : InnerBundleInfo Nat) (isClone : Bool) : Nat :=
  if visible.isDualModeCloneApp = isClone then visible.body else hidden.body

def Restores (s : Slot) (es : List Effect) : Prop :=
  .move .old .real ∈ es ∧ (s.run es).dirs .real = s.dirs .old

def DeletesOld (s : Slot) (es : List Effect) : Prop :=
  (s.run es).dirs .old = none ∧ (s.run es).dirs .real = s.dirs .real

/-- Where `+old-` is there, it is restored just when the version is still the old one and deleted
otherwise, and in the end there is a code directory. -/
def DecidesRight (version oldVersionCode : Nat) (s : Slot) (es : List Effect) : Prop :=
  s.dirs .old ≠ none →
    (Restores s es ↔ version = oldVersionCode) ∧ (version ≠ oldVersionCode → DeletesOld s es) ∧
      (s.run es).dirs .real ≠ none

/-! ## The two branches -/

section Branches

variable {s : Slot}

theorem goBack_restores (h : s.dirs .old ≠ none) : Restores s (goBack s) := by
  have haway : ∀ e ∈ Effect.deleteRecord :: removeDir .new s, e.Away :=
    List.forall_mem_cons.mpr ⟨trivial, fun e he => away_removeDir (by decide) he⟩
  rw [goBack_of_there h]
  refine ⟨by simp, ?_⟩
  rw [Slot.run_append, run_move (by decide)]
  refine (always_sameReal haway).last.1.trans ?_
  simp

theorem innerProcessDeleteOldPath_deletes (h : s.dirs .old ≠ none) :
    DeletesOld s (innerProcessDeleteOldPath s) ∧ ¬ Restores s (innerProcessDeleteOldPath s) := by
  have haway : ∀ e ∈ innerProcessDeleteOldPath s, e.Away := fun e he => away_innerProcessDeleteOldPath he
  refine ⟨⟨?_, (always_sameReal haway).last.1⟩, fun hrestores => (haway _ hrestores.1).2 rfl⟩
  rw [innerProcessDeleteOldPath_of_there h, Slot.run_append, run_move (by decide)]
  simp

end Branches

/-- In a rotation and its recoveries the version is written after the code directory is there. -/
theorem Slot.Recoverable.real_there {s : Slot} (h : s.Recoverable) {oldVersionCode : Nat}
    (hrecord : s.record = some { status := .renameNewToRealPath, versionCode := oldVersionCode })
    (hversion : s.version ≠ oldVersionCode) : s.dirs .real ≠ none := by
  have hnot : ¬ s.GoesBack := by
    rintro ⟨info, hinfo, hback | ⟨-, hback⟩⟩
    · rw [hrecord] at hinfo
      cases hinfo
      cases hback
    · rw [hrecord] at hinfo
      cases hinfo
      exact hversion hback
  rw [show s.dirs .real = _ from h.stay hnot]
  simp

/-! ## The theorem -/

/-- **The version that decides**: for two variants of a name with any versions, either of them
visible, and a rotation of one of them that has written its version only after its code
directory was there, the recovery decides right iff `+old-` is not there or the visible
variant has the old version just when the rotated one has. -/
theorem decidesRight_iff (ex : StringEx) (hex : ex.ReadsCloneIndex) (maps : BundleMaps Nat) (bundleName : Str)
    (hname : bundleName ≠ []) (hplain : isDualModeCloneKey bundleName = false) (visible hidden : InnerBundleInfo Nat)
    (hcell : maps.cell bundleName = (some visible, some hidden)) (isClone : Bool) (oldVersionCode : Nat) (s : Slot)
    (hahead : versionOf visible hidden isClone ≠ oldVersionCode → s.dirs .real ≠ none) :
    DecidesRight (versionOf visible hidden isClone) oldVersionCode s
        (newToRealPathOfVariant ex maps (effectiveName isClone bundleName) oldVersionCode s) ↔
      s.dirs .old = none ∨ (visible.body = oldVersionCode ↔ versionOf visible hidden isClone = oldVersionCode) := by
  have hvisible : maps.bundleInfos[bundleName]? = some visible := congrArg Prod.fst hcell
  have hes : newToRealPathOfVariant ex maps (effectiveName isClone bundleName) oldVersionCode s =
      if visible.body = oldVersionCode then goBack s else innerProcessDeleteOldPath s := by
    unfold newToRealPathOfVariant fetchInnerBundleInfo
    rw [originalName_effectiveName hex hplain, if_neg (by simpa using hname), hvisible]
    exact innerProcessNewToRealPath_of_found _ _ _
  rw [hes]
  by_cases hold : s.dirs .old = none
  · exact ⟨fun _ => .inl hold, fun _ hthere => absurd hold hthere⟩
  have hrestores := goBack_restores hold
  obtain ⟨hdeletes, hnot⟩ := innerProcessDeleteOldPath_deletes hold
  unfold DecidesRight
  by_cases hversion : visible.body = oldVersionCode
  · rw [if_pos hversion]
    constructor
    · intro h
      exact .inr (iff_of_true hversion ((h hold).1.mp hrestores))
    · rintro (hnone | hsame) -
      · exact absurd hnone hold
      · have hown := hsame.mp hversion
        refine ⟨iff_of_true hrestores hown, fun hne => absurd hown hne, ?_⟩
        rw [hrestores.2]
        exact hold
  · rw [if_neg hversion]
    constructor
    · intro h
      exact .inr (iff_of_false hversion fun hown => hnot ((h hold).1.mpr hown))
    · rintro (hnone | hsame) -
      · exact absurd hnone hold
      · have hown : versionOf visible hidden isClone ≠ oldVersionCode := fun h => hversion (hsame.mpr h)
        refine ⟨iff_of_false hnot hown, fun _ => hdeletes, ?_⟩
        rw [hdeletes.2]
        exact hahead hown

def variant (isClone : Bool) (version : Nat) : InnerBundleInfo Nat where
  bundleName := "com.a".toList
  deviceModeDistributionPolicy := .UNSPECIFIED
  isDualModeCloneApp := isClone
  developerId := []
  odid := []
  needAppDetail := false
  overlayType := .NON_OVERLAY_TYPE
  targetBundleName := []
  applicationBundleType := .APP
  innerBundleUserInfos := ∅
  body := version

/-- The plain variant is visible, the clone is not. -/
def plainVisible (plainVersion cloneVersion : Nat) : BundleMaps Nat where
  bundleInfos := (∅ : StrMap (InnerBundleInfo Nat)).insert "com.a".toList (variant false plainVersion)
  tempBundleInfos := (∅ : StrMap (InnerBundleInfo Nat)).insert "com.a".toList (variant true cloneVersion)

theorem plainVisible_cell (plainVersion cloneVersion : Nat) :
    (plainVisible plainVersion cloneVersion).cell "com.a".toList =
      (some (variant false plainVersion), some (variant true cloneVersion)) := by
  unfold BundleMaps.cell plainVisible
  rw [ExtTreeMap.getElem?_insert_self, ExtTreeMap.getElem?_insert_self]

/-- The clone has been updated from 1 to 2 and the service dies; the plain variant has version 1
too. -/
theorem decidesRight_updated_clone :
    let s := (Slot.installed 1).run ((update 2 (.installed 1)).take 8)
    DecidesRight 2 1 s
        (newToRealPathOfVariant refStringEx (plainVisible 1 2) (effectiveName true "com.a".toList) 1 s) ↔
      s.dirs .old = none ∨ ((1 : Nat) = 1 ↔ (2 : Nat) = 1) := by
  intro s
  have hrecoverable : s.Recoverable := always_update (by decide) _ (List.take_prefix 8 _)
  have hs : s.record = some { status := .renameNewToRealPath, versionCode := 1 } ∧ s.version = 2 := by
    show (Slot.run _ _).record = _ ∧ (Slot.run _ _).version = _
    rw [update_installed]
    exact ⟨rfl, rfl⟩
  refine decidesRight_iff refStringEx refStringEx_readsCloneIndex (plainVisible 1 2) "com.a".toList (by decide) (by decide)
    (variant false 1) (variant true 2) (plainVisible_cell 1 2) true 1 s fun _ => ?_
  exact hrecoverable.real_there hs.1 (by rw [hs.2]; decide)

/-- The service dies before `+new-` of the clone is renamed, while the plain variant is visible in
another version: `+old-` is deleted and no code directory is left. -/
theorem clone_left_without_code :
    let s := (Slot.installed 1).run ((update 2 (.installed 1)).take 6)
    ¬ DecidesRight (versionOf (variant false 5) (variant true 1) true) 1 s
      (newToRealPathOfVariant refStringEx (plainVisible 5 1) (effectiveName true "com.a".toList) 1 s) := by
  intro s h
  have hold : s.dirs .old ≠ none := by decide +kernel
  have hlost : (s.run (newToRealPathOfVariant refStringEx (plainVisible 5 1) (effectiveName true "com.a".toList) 1 s)).dirs
      .real = none := by
    decide +kernel
  exact (h hold).2.2 hlost

end BundleFramework.CodePath
