import BundleFramework.DualMode.Policy

/-!
# The bundle record and the two record maps

`InnerBundleInfo β` keeps the fields of `inner_bundle_info.h` that the modelled
functions read or write; everything else of a record (modules, abilities, overlay
connections) is its `body : β`.

`bundleInfos_` holds the visible variant of a bundle name, `tempBundleInfos_` the
hidden one; both are keyed by the original name.  What the two maps hold under one
name is a `Cell`, and maps are equal when all their cells are.
-/

namespace BundleFramework

open Std

structure InnerBundleCloneInfo where
  userId : Int
  appIndex : Int
  uid : Int
  deriving DecidableEq

structure InnerBundleUserInfo where
  bundleName : Str
  userId : Int
  uid : Int
  gids : List Int
  cloneInfos : StrMap InnerBundleCloneInfo
  deriving DecidableEq

inductive OverlayType where
  | OVERLAY_INTERNAL_BUNDLE
  | OVERLAY_EXTERNAL_BUNDLE
  | NON_OVERLAY_TYPE
  deriving DecidableEq

inductive BundleType where
  | APP
  | ATOMIC_SERVICE
  | SHARED
  | APP_SERVICE_FWK
  | APP_PLUGIN
  | SKILL
  deriving DecidableEq

structure InnerBundleInfo (β : Type) where
  bundleName : Str
  deviceModeDistributionPolicy : DeviceModeDistributionPolicy
  isDualModeCloneApp : Bool
  developerId : Str
  odid : Str
  needAppDetail : Bool
  overlayType : OverlayType
  targetBundleName : Str
  applicationBundleType : BundleType
  innerBundleUserInfos : StrMap InnerBundleUserInfo
  body : β
  deriving DecidableEq

/-- A record with default fields, for concrete runs. -/
def InnerBundleInfo.blank (bundleName : Str) (policy : DeviceModeDistributionPolicy)
    (isDualModeCloneApp : Bool) : InnerBundleInfo Unit where
  bundleName := bundleName
  deviceModeDistributionPolicy := policy
  isDualModeCloneApp := isDualModeCloneApp
  developerId := []
  odid := []
  needAppDetail := false
  overlayType := .NON_OVERLAY_TYPE
  targetBundleName := []
  applicationBundleType := .APP
  innerBundleUserInfos := ∅
  body := ()

/-- The name a variant goes by in `installStates_`, `bundleIdMap_` and the database:
prefixed for a dual-mode clone. -/
def effectiveName (isDualModeCloneApp : Bool) (bundleName : Str) : Str :=
  if isDualModeCloneApp then getDualModeBundleName bundleName else bundleName

/-- `GetEffectiveBundleName(bundleInfo)`. -/
def InnerBundleInfo.getEffectiveBundleName {β : Type} (info : InnerBundleInfo β) : Str :=
  effectiveName info.isDualModeCloneApp info.bundleName

/-- Names that are not clone keys themselves do not collide as effective names. -/
theorem effectiveName_injective {isClone isClone' : Bool} {name name' : Str}
    (h : isDualModeCloneKey name = false) (h' : isDualModeCloneKey name' = false)
    (e : effectiveName isClone name = effectiveName isClone' name') : isClone = isClone' ∧ name = name' := by
  have prefixed : ∀ n, isDualModeCloneKey (getDualModeBundleName n) = true := fun n =>
    (isDualModeCloneKey_iff _).mpr ⟨n, rfl⟩
  unfold effectiveName at e
  rcases isClone with _ | _ <;> rcases isClone' with _ | _
  · exact ⟨rfl, e⟩
  · rw [show name = getDualModeBundleName name' from e, prefixed] at h
    cases h
  · rw [show name' = getDualModeBundleName name from e.symm, prefixed] at h'
    cases h'
  · exact ⟨rfl, getDualModeBundleName_injective e⟩

/-! ## The two maps -/

structure BundleMaps (β : Type) where
  bundleInfos : StrMap (InnerBundleInfo β)
  tempBundleInfos : StrMap (InnerBundleInfo β)

variable {β : Type}

/-- The visible and the hidden record of one name. -/
abbrev Cell (β : Type) := Option (InnerBundleInfo β) × Option (InnerBundleInfo β)

def BundleMaps.cell (maps : BundleMaps β) (name : Str) : Cell β :=
  (maps.bundleInfos[name]?, maps.tempBundleInfos[name]?)

/-- All records a cell holds, on whichever side. -/
def Cell.records (c : Cell β) : Multiset (InnerBundleInfo β) := Multiset.ofList (c.1.toList ++ c.2.toList)

theorem BundleMaps.ext_cell {m m' : BundleMaps β} (h : ∀ name, m.cell name = m'.cell name) : m = m' := by
  obtain ⟨b, t⟩ := m
  obtain ⟨b', t'⟩ := m'
  have hb : b = b' := ExtTreeMap.ext_getElem? fun name => congrArg Prod.fst (h name)
  have ht : t = t' := ExtTreeMap.ext_getElem? fun name => congrArg Prod.snd (h name)
  rw [hb, ht]

/-- The visible record goes to the hidden side: `tempBundleInfos_[name] = info;
bundleInfos_.erase(name)`. -/
def BundleMaps.hide (maps : BundleMaps β) (name : Str) (info : InnerBundleInfo β) : BundleMaps β :=
  { bundleInfos := maps.bundleInfos.erase name, tempBundleInfos := maps.tempBundleInfos.insert name info }

/-- The hidden record becomes visible: `bundleInfos_[name] = info;
tempBundleInfos_.erase(name)`. -/
def BundleMaps.unhide (maps : BundleMaps β) (name : Str) (info : InnerBundleInfo β) : BundleMaps β :=
  { bundleInfos := maps.bundleInfos.insert name info, tempBundleInfos := maps.tempBundleInfos.erase name }

/-- Both sides of a name are written. -/
def BundleMaps.exchange (maps : BundleMaps β) (name : Str) (visible hidden : InnerBundleInfo β) :
    BundleMaps β :=
  { bundleInfos := maps.bundleInfos.insert name visible,
    tempBundleInfos := maps.tempBundleInfos.insert name hidden }

theorem BundleMaps.cell_hide (maps : BundleMaps β) (name k : Str) (info : InnerBundleInfo β) :
    (maps.hide name info).cell k = if k = name then (none, some info) else maps.cell k := by
  unfold BundleMaps.cell BundleMaps.hide
  rw [MapLoop.getElem?_erase_eq, MapLoop.getElem?_insert_eq]
  split <;> rfl

theorem BundleMaps.cell_unhide (maps : BundleMaps β) (name k : Str) (info : InnerBundleInfo β) :
    (maps.unhide name info).cell k = if k = name then (some info, none) else maps.cell k := by
  unfold BundleMaps.cell BundleMaps.unhide
  rw [MapLoop.getElem?_erase_eq, MapLoop.getElem?_insert_eq]
  split <;> rfl

theorem BundleMaps.cell_exchange (maps : BundleMaps β) (name k : Str) (visible hidden : InnerBundleInfo β) :
    (maps.exchange name visible hidden).cell k =
      if k = name then (some visible, some hidden) else maps.cell k := by
  unfold BundleMaps.cell BundleMaps.exchange
  rw [MapLoop.getElem?_insert_eq, MapLoop.getElem?_insert_eq]
  split <;> rfl

end BundleFramework
