import BundleFramework.InnerBundle.CloneIndex

/-!
# The two clone views of a record

A `BundleInfo` and the `ApplicationInfo` inside it are filled by two functions, each of which
decides by the index which instance of the app it shows: the main one or a clone.
`GetApplicationInfoAdaptBundleClone` looks at the index modulo the base of the dual mode,
`GetBundleInfoAdaptBundleClone` at the index itself.

What each function shows is its `Instance`; the two agree when the instances have one uid
(`viewsAgree_iff`), and `differ_iff` says on which indexes they are chosen differently.
-/

namespace BundleFramework.CloneViews

def MAIN_APP_INDEX : Int := 0
def INITIAL_SANDBOX_APP_INDEX : Int := 1000
def DUAL_MODE_CLONE_APP_INDEX : Int := 10000

/-! ## Records

The fields that the two functions read or write. -/

structure InnerBundleCloneInfo where
  appIndex : Int
  uid : Int
  accessTokenId : UInt32 := 0
  accessTokenIdEx : UInt64 := 0
  enabled : Bool := true
  isBundleFirstLaunched : Bool := true
  installTime : Int := 0
  deriving DecidableEq

structure InnerBundleUserInfo where
  uid : Int
  gids : List Int := []
  accessTokenId : UInt32 := 0
  accessTokenIdEx : UInt64 := 0
  enabled : Bool := true
  isRemovable : Bool := true
  isBundleFirstLaunched : Bool := true
  firstInstallTime : Int := 0
  installTime : Int := 0
  updateTime : Int := 0
  cloneInfos : StrMap InnerBundleCloneInfo := ∅

structure ApplicationInfo where
  removable : Bool := true
  accessTokenId : UInt32 := 0
  accessTokenIdEx : UInt64 := 0
  enabled : Bool := false
  isBundleFirstLaunched : Bool := true
  uid : Int := -1
  appIndex : Int := 0
  deriving DecidableEq

structure BundleInfo where
  uid : Int := -1
  gid : Int := -1
  firstInstallTime : Int := 0
  installTime : Int := 0
  updateTime : Int := 0
  appIndex : Int := 0
  deriving DecidableEq

structure InnerBundleInfo where
  isDualModeCloneApp : Bool := false
  appIndex : Int := MAIN_APP_INDEX

/-! ## Algorithm

The answer, and what the last argument becomes. -/

namespace InnerBundleInfo

variable (info : InnerBundleInfo) (innerBundleUserInfo : InnerBundleUserInfo) (appIndex : Int)

def getApplicationInfoAdaptBundleClone (appInfo : ApplicationInfo) : Bool × ApplicationInfo :=
  if appIndex = DUAL_MODE_CLONE_APP_INDEX ∧ info.isDualModeCloneApp = false then (false, appInfo)
  else
    let appIndexByMode := appIndex.tmod DUAL_MODE_CLONE_APP_INDEX
    if appIndexByMode = 0 ∨ appIndexByMode > INITIAL_SANDBOX_APP_INDEX then
      (true,
        { removable := appInfo.removable && innerBundleUserInfo.isRemovable
          accessTokenId := innerBundleUserInfo.accessTokenId
          accessTokenIdEx := innerBundleUserInfo.accessTokenIdEx
          enabled := innerBundleUserInfo.enabled
          isBundleFirstLaunched := innerBundleUserInfo.isBundleFirstLaunched
          uid := innerBundleUserInfo.uid
          appIndex :=
            if info.isDualModeCloneApp = true ∧
                (appIndex = MAIN_APP_INDEX ∨ appIndex = DUAL_MODE_CLONE_APP_INDEX) then info.appIndex
            else appInfo.appIndex })
    else
      match innerBundleUserInfo.cloneInfos[toDecimal appIndex]? with
      | none => (false, appInfo)
      | some clone =>
        (true,
          { appInfo with
            accessTokenId := clone.accessTokenId
            accessTokenIdEx := clone.accessTokenIdEx
            enabled := clone.enabled
            isBundleFirstLaunched := clone.isBundleFirstLaunched
            uid := clone.uid
            appIndex := clone.appIndex })

def getBundleInfoAdaptBundleClone (bundleInfo : BundleInfo) : Bool × BundleInfo :=
  let bundleInfo := { bundleInfo with firstInstallTime := innerBundleUserInfo.firstInstallTime }
  if appIndex = DUAL_MODE_CLONE_APP_INDEX ∧ info.isDualModeCloneApp = false then (false, bundleInfo)
  else if appIndex = 0 ∨ appIndex > INITIAL_SANDBOX_APP_INDEX then
    (true,
      { bundleInfo with
        uid := innerBundleUserInfo.uid
        gid := innerBundleUserInfo.gids.headD bundleInfo.gid
        installTime := innerBundleUserInfo.installTime
        updateTime := innerBundleUserInfo.updateTime
        appIndex := info.appIndex })
  else
    match innerBundleUserInfo.cloneInfos[toDecimal appIndex]? with
    | none => (false, bundleInfo)
    | some clone =>
      (true,
        { bundleInfo with
          uid := clone.uid
          gid := clone.uid
          installTime := clone.installTime
          updateTime := innerBundleUserInfo.updateTime
          appIndex := appIndex })

/-- The two answers are the same, and so are the uids when they are `true`. -/
def ViewsAgree : Prop := ∀ appInfo bundleInfo,
  let application := info.getApplicationInfoAdaptBundleClone innerBundleUserInfo appIndex appInfo
  let bundle := info.getBundleInfoAdaptBundleClone innerBundleUserInfo appIndex bundleInfo
  application.1 = bundle.1 ∧ (application.1 = true → application.2.uid = bundle.2.uid)

end InnerBundleInfo

/-! ## Instances -/

/-- What a view shows. -/
inductive Instance where
  | main (user : InnerBundleUserInfo)
  | clone (cloneInfo : InnerBundleCloneInfo)

def Instance.uid : Instance → Int
  | .main user => user.uid
  | .clone cloneInfo => cloneInfo.uid

/-- The choice that both functions make, each by its own test for the main instance. -/
def instanceBy (isMain : Prop) [Decidable isMain] (info : InnerBundleInfo) (user : InnerBundleUserInfo)
    (appIndex : Int) : Option Instance :=
  if appIndex = DUAL_MODE_CLONE_APP_INDEX ∧ info.isDualModeCloneApp = false then none
  else if isMain then some (.main user)
  else (user.cloneInfos[toDecimal appIndex]?).map .clone

/-- The test of `GetApplicationInfoAdaptBundleClone`. -/
def MainByMode (appIndex : Int) : Prop :=
  appIndex.tmod DUAL_MODE_CLONE_APP_INDEX = 0 ∨ appIndex.tmod DUAL_MODE_CLONE_APP_INDEX > INITIAL_SANDBOX_APP_INDEX

/-- The test of `GetBundleInfoAdaptBundleClone`. -/
def MainByIndex (appIndex : Int) : Prop := appIndex = 0 ∨ appIndex > INITIAL_SANDBOX_APP_INDEX

instance (appIndex : Int) : Decidable (MainByMode appIndex) := inferInstanceAs (Decidable (_ ∨ _))
instance (appIndex : Int) : Decidable (MainByIndex appIndex) := inferInstanceAs (Decidable (_ ∨ _))

def applicationInstance (info : InnerBundleInfo) (user : InnerBundleUserInfo) (appIndex : Int) : Option Instance :=
  instanceBy (MainByMode appIndex) info user appIndex

def bundleInstance (info : InnerBundleInfo) (user : InnerBundleUserInfo) (appIndex : Int) : Option Instance :=
  instanceBy (MainByIndex appIndex) info user appIndex

variable {info : InnerBundleInfo} {user : InnerBundleUserInfo} {appIndex : Int}

/-- What a view answers, seen through the instance that it shows. -/
def Shows (shown : Option Instance) (answer : Bool) (uid : Int) : Prop :=
  answer = shown.isSome ∧ ∀ i, shown = some i → uid = i.uid

theorem getApplicationInfo_shows (appInfo : ApplicationInfo) :
    Shows (applicationInstance info user appIndex)
      (info.getApplicationInfoAdaptBundleClone user appIndex appInfo).1
      (info.getApplicationInfoAdaptBundleClone user appIndex appInfo).2.uid := by
  unfold applicationInstance instanceBy InnerBundleInfo.getApplicationInfoAdaptBundleClone
  by_cases hreject : appIndex = DUAL_MODE_CLONE_APP_INDEX ∧ info.isDualModeCloneApp = false
  · rw [if_pos hreject, if_pos hreject]
    exact ⟨rfl, fun i hi => nomatch hi⟩
  rw [if_neg hreject, if_neg hreject]
  dsimp only
  by_cases hmain : MainByMode appIndex
  · rw [if_pos hmain, if_pos (show _ ∨ _ from hmain)]
    refine ⟨rfl, ?_⟩
    rintro i ⟨⟩
    rfl
  · rw [if_neg hmain, if_neg (show ¬ (_ ∨ _) from hmain)]
    cases hclone : user.cloneInfos[toDecimal appIndex]? with
    | none => exact ⟨rfl, fun i hi => nomatch hi⟩
    | some clone =>
      refine ⟨rfl, ?_⟩
      rintro i ⟨⟩
      rfl

theorem getBundleInfo_shows (bundleInfo : BundleInfo) :
    Shows (bundleInstance info user appIndex)
      (info.getBundleInfoAdaptBundleClone user appIndex bundleInfo).1
      (info.getBundleInfoAdaptBundleClone user appIndex bundleInfo).2.uid := by
  unfold bundleInstance instanceBy InnerBundleInfo.getBundleInfoAdaptBundleClone
  by_cases hreject : appIndex = DUAL_MODE_CLONE_APP_INDEX ∧ info.isDualModeCloneApp = false
  · rw [if_pos hreject, if_pos hreject]
    exact ⟨rfl, fun i hi => nomatch hi⟩
  rw [if_neg hreject, if_neg hreject]
  by_cases hmain : MainByIndex appIndex
  · rw [if_pos hmain, if_pos (show _ ∨ _ from hmain)]
    refine ⟨rfl, ?_⟩
    rintro i ⟨⟩
    rfl
  · rw [if_neg hmain, if_neg (show ¬ (_ ∨ _) from hmain)]
    cases hclone : user.cloneInfos[toDecimal appIndex]? with
    | none => exact ⟨rfl, fun i hi => nomatch hi⟩
    | some clone =>
      refine ⟨rfl, ?_⟩
      rintro i ⟨⟩
      rfl

/-- The views agree when the two instances have one uid, or neither exists. -/
theorem viewsAgree_iff : info.ViewsAgree user appIndex ↔
    (applicationInstance info user appIndex).map Instance.uid = (bundleInstance info user appIndex).map Instance.uid := by
  have happ := @getApplicationInfo_shows info user appIndex
  have hbundle := @getBundleInfo_shows info user appIndex
  constructor
  · intro h
    obtain ⟨hanswer, huid⟩ := h {} {}
    obtain ⟨ha, hau⟩ := happ {}
    obtain ⟨hb, hbu⟩ := hbundle {}
    rw [ha, hb] at hanswer
    rw [ha] at huid
    cases happl : applicationInstance info user appIndex with
    | none =>
      rw [happl, Option.isSome_none, eq_comm, Option.isSome_eq_false_iff, Option.isNone_iff_eq_none] at hanswer
      rw [hanswer]
    | some i =>
      rw [happl, Option.isSome_some, eq_comm, Option.isSome_iff_exists] at hanswer
      obtain ⟨j, hj⟩ := hanswer
      rw [happl] at huid
      rw [hj, Option.map_some, Option.map_some, ← hau i happl, ← hbu j hj, huid rfl]
  · intro h appInfo bundleInfo
    obtain ⟨ha, hau⟩ := happ appInfo
    obtain ⟨hb, hbu⟩ := hbundle bundleInfo
    constructor
    · rw [ha, hb, ← Option.isSome_map (f := Instance.uid), h, Option.isSome_map]
    · intro hsome
      rw [ha, Option.isSome_iff_exists] at hsome
      obtain ⟨i, hi⟩ := hsome
      rw [hi, Option.map_some, eq_comm, Option.map_eq_some_iff] at h
      obtain ⟨j, hj, huid⟩ := h
      rw [hau i hi, hbu j hj, huid]

/-! ## Where the tests differ -/

/-- An index above that of the dual-mode clone whose remainder is that of a clone, or a
negative multiple of the base. -/
def OutsideTheMode (appIndex : Int) : Prop :=
  DUAL_MODE_CLONE_APP_INDEX < appIndex ∧ 1 ≤ appIndex % DUAL_MODE_CLONE_APP_INDEX ∧
      appIndex % DUAL_MODE_CLONE_APP_INDEX ≤ INITIAL_SANDBOX_APP_INDEX ∨
    appIndex < 0 ∧ DUAL_MODE_CLONE_APP_INDEX ∣ appIndex

theorem differ_iff : ¬ (MainByMode appIndex ↔ MainByIndex appIndex) ↔ OutsideTheMode appIndex := by
  unfold MainByMode MainByIndex OutsideTheMode DUAL_MODE_CLONE_APP_INDEX INITIAL_SANDBOX_APP_INDEX
  by_cases hneg : appIndex < 0
  · have hmod : appIndex.tmod 10000 = -((-appIndex) % 10000) := by
      rw [← Int.tmod_eq_emod_of_nonneg (by omega), Int.neg_tmod, neg_neg]
    rw [hmod]
    omega
  · rw [Int.tmod_eq_emod_of_nonneg (by omega)]
    omega

/-- The two views agree on every index, except that outside the mode one of them shows the main
instance and the other one asks for a clone of that index: there they agree only if it exists
with the uid of the main instance. -/
theorem clone_views_agree_iff (info : InnerBundleInfo) (user : InnerBundleUserInfo) (appIndex : Int) :
    info.ViewsAgree user appIndex ↔
      (OutsideTheMode appIndex → ∃ clone, user.cloneInfos[toDecimal appIndex]? = some clone ∧ clone.uid = user.uid) := by
  rw [viewsAgree_iff]
  unfold applicationInstance bundleInstance
  by_cases hout : OutsideTheMode appIndex
  · have hdual : ¬ (appIndex = DUAL_MODE_CLONE_APP_INDEX ∧ info.isDualModeCloneApp = false) := by
      rintro ⟨rfl, -⟩
      unfold OutsideTheMode at hout
      revert hout
      decide
    have hchoice : ∀ (isMain : Prop) [Decidable isMain], (instanceBy isMain info user appIndex).map Instance.uid =
        if isMain then some user.uid else (user.cloneInfos[toDecimal appIndex]?).map (·.uid) := by
      intro isMain _
      unfold instanceBy
      rw [if_neg hdual]
      split
      · rfl
      · rw [Option.map_map]
        rfl
    have hclone : (user.cloneInfos[toDecimal appIndex]?).map (·.uid) = some user.uid ↔
        ∃ clone, user.cloneInfos[toDecimal appIndex]? = some clone ∧ clone.uid = user.uid := Option.map_eq_some_iff
    rw [hchoice, hchoice, forall_prop_of_true hout, ← hclone]
    -- outside the mode exactly one of the two tests holds
    have hone := differ_iff.mpr hout
    by_cases hmode : MainByMode appIndex
    · have hindex : ¬ MainByIndex appIndex := fun hindex => hone (iff_of_true hmode hindex)
      rw [if_pos hmode, if_neg hindex, eq_comm]
    · have hindex : MainByIndex appIndex := not_not.mp fun hindex => hone (iff_of_false hmode hindex)
      rw [if_neg hmode, if_pos hindex]
  · have hsame := not_not.mp (mt differ_iff.mp hout)
    refine iff_of_true ?_ fun h => absurd h hout
    unfold instanceBy
    simp only [hsame]

/-- On index 10001 the application view fails, and the bundle view shows the main instance. -/
theorem dual_mode_remainder_differs : ¬ ∀ (info : InnerBundleInfo) (user : InnerBundleUserInfo) (appIndex : Int),
    info.ViewsAgree user appIndex := by
  intro h
  have hanswers := (h {} { uid := 20010001 } 10001 {} {}).1
  revert hanswers
  decide +kernel

end BundleFramework.CloneViews
