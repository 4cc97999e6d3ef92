import BundleFramework.Overlay.ModuleState
import BundleFramework.DataMgr.InnerBundleInfo
import BundleFramework.Skill.Match

/-!
# The state setters of `BundleDataMgr` and what a failed save leaves

`SetApplicationEnabled`, `SetAbilityEnabled`, `SetBundleFirstLaunch`, `SetModuleRemovable` and
`SetAbilityFileTypes` change one record of `bundleInfos_` and save it.  All but
`SetModuleRemovable` change the record where it stands and only then save it, so a save that
fails leaves memory ahead of the stored row: memory is what it was
just when the request is refused before the save, or asks for what the record says already.

Records keep the fields that these functions read or write.  `stateChanged`, which is only
reported, is left out.
-/

namespace BundleFramework.BundleState

open Std Overlay

inductive ErrCode where
  | ERR_OK
  | ERR_BUNDLE_MANAGER_BUNDLE_NOT_EXIST
  | ERR_BUNDLE_MANAGER_MODULE_NOT_EXIST
  | ERR_BUNDLE_MANAGER_ABILITY_NOT_EXIST
  | ERR_BUNDLE_MANAGER_APPINDEX_NOT_EXIST
  | ERR_BUNDLE_MANAGER_INVALID_APP_INDEX
  | ERR_BUNDLE_MANAGER_INVALID_PARAMETER
  | ERR_BUNDLE_MANAGER_PARAM_ERROR
  | ERR_BUNDLE_MANAGER_PERMISSION_DENIED
  | ERR_BUNDLE_MANAGER_INTERNAL_ERROR
  | ERR_APPEXECFWK_USER_NOT_EXIST
  | ERR_APPEXECFWK_SERVICE_NOT_READY
  | ERR_APPEXECFWK_SANDBOX_INSTALL_INVALID_APP_INDEX
  | ERR_APPEXECFWK_CLONE_QUERY_NO_CLONE_APP
  | ERR_APPEXECFWK_APP_INDEX_OUT_OF_RANGE
  deriving DecidableEq

def INVALID_USERID : Int := -1
def UNSPECIFIED_USERID : Int := -2
def ALL_USERID : Int := -3
def ANY_USERID : Int := -4
def NOT_EXIST_USERID : Int := -5
def INITIAL_SANDBOX_APP_INDEX : Int := 1000
def CLI_SANDBOX_APP_INDEX_MIN : Int := 2000
def CLI_SANDBOX_APP_INDEX_MAX : Int := 3000

/-! ## Records -/

structure InnerBundleCloneInfo where
  appIndex : Int
  enabled : Bool := true
  setEnabledCaller : Str := []
  disabledAbilities : List Str := []
  isBundleFirstLaunched : Bool := false
  deriving DecidableEq

structure BundleUserInfo where
  enabled : Bool := true
  setEnabledCaller : Str := []
  disabledAbilities : List Str := []
  deriving DecidableEq

structure InnerBundleUserInfo where
  isBundleFirstLaunched : Bool := false
  cloneInfos : StrMap InnerBundleCloneInfo := ∅
  /-- The keys of `sandboxInfos`. -/
  sandboxInfos : StrSet := ∅
  bundleUserInfo : BundleUserInfo := {}

structure AbilityInfo where
  name : Str
  moduleName : Str

structure InnerModuleInfo where
  moduleName : Str
  installationFree : Bool
  isRemovable : StrMap Bool := ∅
  isRemovableSet : StrSet := ∅

structure InnerBundleInfo where
  bundleName : Str
  appIndex : Int := 0
  isDualModeCloneApp : Bool := false
  applicationBundleType : BundleType := .APP
  innerBundleUserInfos : StrMap InnerBundleUserInfo := ∅
  baseAbilityInfos : StrMap AbilityInfo := ∅
  innerModuleInfos : StrMap InnerModuleInfo := ∅
  dynamicSkills : StrMap (List Skill) := ∅

/-- `DataStorage` keys a row by the record's effective name. -/
def InnerBundleInfo.storageKey (info : InnerBundleInfo) : Str :=
  effectiveName info.isDualModeCloneApp info.bundleName

def InnerBundleInfo.getInnerBundleUserInfo (info : InnerBundleInfo) (userId : Int) : Option InnerBundleUserInfo :=
  if userId = NOT_EXIST_USERID then some {}
  else if userId = ALL_USERID then info.innerBundleUserInfos.toList.head?.map Prod.snd
  else info.innerBundleUserInfos[nameAndUserIdToKey info.bundleName userId]?

/-- `GetApplicationEnabledV9`: the flag, or the error for which it is not set. -/
def InnerBundleInfo.getApplicationEnabledV9 (info : InnerBundleInfo) (userId appIndex : Int) :
    Except ErrCode Bool :=
  match info.getInnerBundleUserInfo userId with
  | none => .error .ERR_BUNDLE_MANAGER_BUNDLE_NOT_EXIST
  | some user =>
    if appIndex = 0 then .ok user.bundleUserInfo.enabled
    else if appIndex = DUAL_MODE_CLONE_APP_INDEX then
      if info.isDualModeCloneApp then .ok user.bundleUserInfo.enabled
      else .error .ERR_APPEXECFWK_APP_INDEX_OUT_OF_RANGE
    else if 0 < appIndex ∧ appIndex ≤ INITIAL_SANDBOX_APP_INDEX then
      match user.cloneInfos[toDecimal appIndex]? with
      | none => .error .ERR_APPEXECFWK_CLONE_QUERY_NO_CLONE_APP
      | some clone => .ok clone.enabled
    else if CLI_SANDBOX_APP_INDEX_MIN ≤ appIndex ∧ appIndex ≤ CLI_SANDBOX_APP_INDEX_MAX then
      if user.sandboxInfos.contains (toDecimal appIndex) then .ok true
      else .error .ERR_APPEXECFWK_APP_INDEX_OUT_OF_RANGE
    else .error .ERR_APPEXECFWK_APP_INDEX_OUT_OF_RANGE

/-! ## Setters of a record

`updateUser` and `updateClone` are the two ways in which the setters reach what they change. -/

def InnerBundleInfo.updateUser (info : InnerBundleInfo) (userId : Int)
    (f : InnerBundleUserInfo → Except ErrCode InnerBundleUserInfo) : Except ErrCode InnerBundleInfo :=
  match info.innerBundleUserInfos[nameAndUserIdToKey info.bundleName userId]? with
  | none => .error .ERR_BUNDLE_MANAGER_BUNDLE_NOT_EXIST
  | some user =>
    match f user with
    | .error e => .error e
    | .ok user' =>
      .ok { info with
        innerBundleUserInfos := info.innerBundleUserInfos.insert (nameAndUserIdToKey info.bundleName userId) user' }

def InnerBundleUserInfo.updateClone (user : InnerBundleUserInfo) (appIndex : Int)
    (f : InnerBundleCloneInfo → InnerBundleCloneInfo) : Except ErrCode InnerBundleUserInfo :=
  match user.cloneInfos[toDecimal appIndex]? with
  | none => .error .ERR_APPEXECFWK_SANDBOX_INSTALL_INVALID_APP_INDEX
  | some clone => .ok { user with cloneInfos := user.cloneInfos.insert (toDecimal appIndex) (f clone) }

def InnerBundleInfo.updateClone (info : InnerBundleInfo) (appIndex userId : Int)
    (f : InnerBundleCloneInfo → InnerBundleCloneInfo) : Except ErrCode InnerBundleInfo :=
  info.updateUser userId fun user => user.updateClone appIndex f

def InnerBundleCloneInfo.switch (enabled : Bool) (caller : Str) (clone : InnerBundleCloneInfo) :
    InnerBundleCloneInfo := { clone with enabled := enabled, setEnabledCaller := caller }

def InnerBundleInfo.setCloneApplicationEnabled (info : InnerBundleInfo) (enabled : Bool) (appIndex : Int)
    (caller : Str) (userId : Int) : Except ErrCode InnerBundleInfo :=
  info.updateClone appIndex userId (InnerBundleCloneInfo.switch enabled caller)

/-- An empty caller is not recorded here, unlike for a clone. -/
def InnerBundleInfo.setApplicationEnabled (info : InnerBundleInfo) (enabled : Bool) (caller : Str) (userId : Int) :
    Except ErrCode InnerBundleInfo :=
  info.updateUser userId fun user =>
    .ok { user with bundleUserInfo := { user.bundleUserInfo with
      enabled := enabled,
      setEnabledCaller := if caller ≠ [] then caller else user.bundleUserInfo.setEnabledCaller } }

def InnerBundleInfo.setBundleFirstLaunch (info : InnerBundleInfo) (isBundleFirstLaunched : Bool) (userId : Int) :
    Except ErrCode InnerBundleInfo :=
  info.updateUser userId fun user => .ok { user with isBundleFirstLaunched := isBundleFirstLaunched }

def InnerBundleInfo.setCloneBundleFirstLaunch (info : InnerBundleInfo) (isBundleFirstLaunched : Bool)
    (appIndex userId : Int) : Except ErrCode InnerBundleInfo :=
  info.updateClone appIndex userId fun clone => { clone with isBundleFirstLaunched := isBundleFirstLaunched }

/-- The first `abilityName` leaves the list when it is enabled; it joins the end when it is
disabled and not there. -/
def updateDisabledAbilities (disabledAbilities : List Str) (abilityName : Str) (isEnabled : Bool) : List Str :=
  if disabledAbilities.contains abilityName then
    if isEnabled then disabledAbilities.erase abilityName else disabledAbilities
  else if isEnabled then disabledAbilities else disabledAbilities ++ [abilityName]

/-- Some ability has the name, and the module when one is given. -/
def InnerBundleInfo.hasAbility (info : InnerBundleInfo) (moduleName abilityName : Str) : Bool :=
  info.baseAbilityInfos.toList.any fun ability =>
    ability.2.name = abilityName ∧ (moduleName = [] ∨ ability.2.moduleName = moduleName)

def InnerBundleInfo.setAbilityEnabled (info : InnerBundleInfo) (moduleName abilityName : Str) (isEnabled : Bool)
    (userId : Int) : Except ErrCode InnerBundleInfo :=
  if info.hasAbility moduleName abilityName then
    info.updateUser userId fun user =>
      .ok { user with bundleUserInfo := { user.bundleUserInfo with
        disabledAbilities := updateDisabledAbilities user.bundleUserInfo.disabledAbilities abilityName isEnabled } }
  else .error .ERR_BUNDLE_MANAGER_ABILITY_NOT_EXIST

def InnerBundleInfo.setCloneAbilityEnabled (info : InnerBundleInfo) (moduleName abilityName : Str)
    (isEnabled : Bool) (userId appIndex : Int) : Except ErrCode InnerBundleInfo :=
  if info.hasAbility moduleName abilityName then
    info.updateClone appIndex userId fun clone =>
      { clone with disabledAbilities := updateDisabledAbilities clone.disabledAbilities abilityName isEnabled }
  else .error .ERR_BUNDLE_MANAGER_ABILITY_NOT_EXIST

def ACTION_VIEW_DATA : Str := "ohos.want.action.viewData".toList
def FILE : Str := "file".toList
def FILE_OPEN : Str := "FileOpen".toList
def DOT_SIGN : Str := ['.']

def getAbilityKey (bundleName moduleName abilityName : Str) : Str :=
  bundleName ++ DOT_SIGN ++ moduleName ++ DOT_SIGN ++ abilityName

/-- The dynamic skill of a list of file types. -/
def fileTypesSkill (fileTypes : List Str) : Skill where
  actions := [ACTION_VIEW_DATA]
  uris := fileTypes.map fun fileType => { scheme := FILE, type := fileType, linkFeature := FILE_OPEN }

/-- `validate` is `ValidateDynamicSkills`, the way to JSON and back. -/
def InnerBundleInfo.setAbilityFileTypes (validate : StrMap (List Skill) → Bool) (info : InnerBundleInfo)
    (moduleName abilityName : Str) (fileTypes : List Str) : Except ErrCode InnerBundleInfo :=
  let abilityKey := getAbilityKey info.bundleName moduleName abilityName
  if info.innerModuleInfos[moduleName]? |>.isNone then .error .ERR_BUNDLE_MANAGER_MODULE_NOT_EXIST
  else match info.baseAbilityInfos[abilityKey]? with
    | none => .error .ERR_BUNDLE_MANAGER_ABILITY_NOT_EXIST
    | some ability =>
      if moduleName ≠ ability.moduleName ∨ abilityName ≠ ability.name then
        .error .ERR_BUNDLE_MANAGER_ABILITY_NOT_EXIST
      else if fileTypes = [] then .ok { info with dynamicSkills := info.dynamicSkills.erase abilityKey }
      else if validate ((∅ : StrMap (List Skill)).insert abilityKey [fileTypesSkill fileTypes]) then
        .ok { info with dynamicSkills := info.dynamicSkills.insert abilityKey [fileTypesSkill fileTypes] }
      else .error .ERR_BUNDLE_MANAGER_PARAM_ERROR

/-! ## Pins of a module -/

/-- `AddModuleRemovableInfo`. -/
def InnerModuleInfo.addModuleRemovableInfo (moduleInfo : InnerModuleInfo) (stringUserId : Str) (isEnable : Bool) :
    InnerModuleInfo := { moduleInfo with isRemovable := moduleInfo.isRemovable.insert stringUserId isEnable }

/-- The first module, in the order of the map, whose name it is: its key. -/
def InnerBundleInfo.findModule (info : InnerBundleInfo) (moduleName : Str) : Option (Str × InnerModuleInfo) :=
  info.innerModuleInfos.toList.find? fun entry => entry.2.moduleName = moduleName

def InnerBundleInfo.setModuleRemovable (info : InnerBundleInfo) (moduleName : Str) (isEnable : Bool) (userId : Int) :
    Option InnerBundleInfo :=
  (info.findModule moduleName).map fun entry =>
    { info with
      innerModuleInfos :=
        info.innerModuleInfos.insert entry.1 (entry.2.addModuleRemovableInfo (toDecimal userId) isEnable) }

def UID_SEPARATOR : Char := '#'

/-- `callingBundleName + UID_SEPARATOR + stringUserId`. -/
def callingNameUid (callingBundleName : Str) (userId : Int) : Str :=
  callingBundleName ++ UID_SEPARATOR :: toDecimal userId

def InnerBundleInfo.setModuleRemovableSet (info : InnerBundleInfo) (moduleName : Str) (isEnable : Bool) (userId : Int)
    (callingBundleName : Str) : InnerBundleInfo :=
  match info.innerModuleInfos[moduleName]? with
  | none => info
  | some moduleInfo =>
    let pin := callingNameUid callingBundleName userId
    let isRemovableSet := if isEnable then moduleInfo.isRemovableSet.erase pin else moduleInfo.isRemovableSet.insert pin
    { info with
      innerModuleInfos :=
        info.innerModuleInfos.insert moduleName { moduleInfo with isRemovableSet := isRemovableSet } }

/-! ## The data manager -/

structure BundleDataMgr where
  bundleInfos : StrMap InnerBundleInfo
  /-- The rows of `dataStorage_`. -/
  dataStorage : StrMap InnerBundleInfo
  /-- The rows of `bundleStateStorage_`. -/
  bundleStateStorage : StrMap BundleUserInfo := ∅

/-- What the setters ask of other components. -/
structure Env where
  hasUserId : Int → Bool
  callingUserId : Int
  isDualModeDevice : Bool
  isSecondaryMode : Bool
  validateDynamicSkills : StrMap (List Skill) → Bool
  /-- `GetNameForUid`. -/
  getNameForUid : Int → Option Str

variable (env : Env)

def Env.getUserId (userId : Int) : Int :=
  if userId = ANY_USERID ∨ userId = ALL_USERID then userId
  else
    let userId := if userId = UNSPECIFIED_USERID then env.callingUserId else userId
    if env.hasUserId userId then userId else INVALID_USERID

/-- `SaveStorageBundleInfo`; a save that fails leaves the row. -/
def BundleDataMgr.saveStorageBundleInfo (mgr : BundleDataMgr) (info : InnerBundleInfo) (saved : Bool) :
    BundleDataMgr :=
  if saved then { mgr with dataStorage := mgr.dataStorage.insert info.storageKey info } else mgr

/-- The record of `bundleName` is changed where it stands, then saved. -/
def BundleDataMgr.updateInPlace (mgr : BundleDataMgr) (bundleName : Str) (info : InnerBundleInfo) (saved : Bool) :
    ErrCode × BundleDataMgr :=
  let mgr := { mgr with bundleInfos := mgr.bundleInfos.insert bundleName info }
  (if saved then .ERR_OK else .ERR_BUNDLE_MANAGER_INTERNAL_ERROR, mgr.saveStorageBundleInfo info saved)

def BundleUserInfo.isInitialState (user : BundleUserInfo) : Bool :=
  user.enabled ∧ user.disabledAbilities = []

/-- What the setters of the main application do with `bundleStateStorage_`. -/
def BundleDataMgr.saveBundleState (mgr : BundleDataMgr) (bundleName : Str) (info : InnerBundleInfo) (userId : Int) :
    ErrCode × BundleDataMgr :=
  match info.getInnerBundleUserInfo userId with
  | none => (.ERR_BUNDLE_MANAGER_BUNDLE_NOT_EXIST, mgr)
  | some user =>
    let stateKey := if env.isDualModeDevice then effectiveName info.isDualModeCloneApp bundleName else bundleName
    let row := nameAndUserIdToKey stateKey userId
    if stateKey = [] ∨ userId < 0 then (.ERR_OK, mgr)
    else if user.bundleUserInfo.isInitialState then
      (.ERR_OK, { mgr with bundleStateStorage := mgr.bundleStateStorage.erase row })
    else (.ERR_OK, { mgr with bundleStateStorage := mgr.bundleStateStorage.insert row user.bundleUserInfo })

/-- The index is one of a clone: neither the main application nor a dual-mode clone asked for
by its own index. -/
def InnerBundleInfo.isCloneIndex (info : InnerBundleInfo) (appIndex : Int) : Bool :=
  appIndex ≠ 0 ∧ ¬ (info.isDualModeCloneApp ∧ appIndex = DUAL_MODE_CLONE_APP_INDEX)

def BundleDataMgr.setApplicationEnabled (mgr : BundleDataMgr) (bundleName : Str) (appIndex : Int) (isEnable : Bool)
    (caller : Str) (userId : Int) (saved : Bool) : ErrCode × BundleDataMgr :=
  let requestUserId := env.getUserId userId
  if requestUserId = INVALID_USERID then (.ERR_BUNDLE_MANAGER_BUNDLE_NOT_EXIST, mgr)
  else match mgr.bundleInfos[bundleName]? with
    | none => (.ERR_BUNDLE_MANAGER_BUNDLE_NOT_EXIST, mgr)
    | some info =>
      if info.isCloneIndex appIndex then
        match info.setCloneApplicationEnabled isEnable appIndex caller requestUserId with
        | .error e => (e, mgr)
        | .ok info => mgr.updateInPlace bundleName info saved
      else
        match info.setApplicationEnabled isEnable caller requestUserId with
        | .error e => (e, mgr)
        | .ok info =>
          BundleDataMgr.saveBundleState env { mgr with bundleInfos := mgr.bundleInfos.insert bundleName info }
            bundleName info requestUserId

/-- The flag that `SetBundleFirstLaunch` reads: of the main application or of a clone. -/
def InnerBundleUserInfo.firstLaunched (user : InnerBundleUserInfo) (appIndex : Int) : Option Bool :=
  if appIndex.tmod DUAL_MODE_CLONE_APP_INDEX = 0 then some user.isBundleFirstLaunched
  else user.cloneInfos[toDecimal appIndex]?.map fun clone => clone.isBundleFirstLaunched

/-- `SetBundleFirstLaunch`: the flag of the main application or of a clone; C++ division
truncates. -/
def BundleDataMgr.setBundleFirstLaunch (mgr : BundleDataMgr) (bundleName : Str) (userId appIndex : Int)
    (isBundleFirstLaunched : Bool) (saved : Bool) : ErrCode × BundleDataMgr :=
  let requestUserId := env.getUserId userId
  let isSecondaryAppIndex : Bool := 0 < appIndex.tdiv DUAL_MODE_CLONE_APP_INDEX
  if requestUserId = INVALID_USERID then (.ERR_BUNDLE_MANAGER_BUNDLE_NOT_EXIST, mgr)
  else if env.isSecondaryMode ≠ isSecondaryAppIndex then (.ERR_BUNDLE_MANAGER_INVALID_APP_INDEX, mgr)
  else match mgr.bundleInfos[bundleName]? with
    | none => (.ERR_BUNDLE_MANAGER_BUNDLE_NOT_EXIST, mgr)
    | some info =>
      match info.getInnerBundleUserInfo requestUserId with
      | none => (.ERR_BUNDLE_MANAGER_BUNDLE_NOT_EXIST, mgr)
      | some user =>
        let isMainApp : Bool := appIndex.tmod DUAL_MODE_CLONE_APP_INDEX = 0
        match user.firstLaunched appIndex with
        | none => (.ERR_BUNDLE_MANAGER_APPINDEX_NOT_EXIST, mgr)
        | some value =>
          if value = isBundleFirstLaunched then (.ERR_OK, mgr)
          else
            let updated :=
              if isMainApp then info.setBundleFirstLaunch isBundleFirstLaunched requestUserId
              else info.setCloneBundleFirstLaunch isBundleFirstLaunched appIndex requestUserId
            match updated with
            | .error e => (e, mgr)
            | .ok info => mgr.updateInPlace bundleName info saved

/-- `SetModuleRemovable` works on a copy and repeats the change on the record once the copy is
saved. -/
def BundleDataMgr.setModuleRemovable (mgr : BundleDataMgr) (bundleName moduleName : Str) (isEnable : Bool)
    (userId callingUid : Int) (saved : Bool) : Bool × BundleDataMgr :=
  if bundleName = [] ∨ moduleName = [] then (false, mgr)
  else if userId = INVALID_USERID then (false, mgr)
  else
    let callingBundleName := (env.getNameForUid callingUid).getD (toDecimal callingUid)
    match mgr.bundleInfos[bundleName]? with
    | none => (false, mgr)
    | some info =>
      match (info.setModuleRemovableSet moduleName isEnable userId callingBundleName).setModuleRemovable
          moduleName isEnable userId with
      | none => (false, mgr)
      | some newInfo =>
        if saved then
          let mgr := mgr.saveStorageBundleInfo newInfo saved
          let ret := info.setModuleRemovable moduleName isEnable userId
          let info := (ret.getD info).setModuleRemovableSet moduleName isEnable userId callingBundleName
          (ret.isSome, { mgr with bundleInfos := mgr.bundleInfos.insert bundleName info })
        else (false, mgr)

/-- `SetAbilityEnabled`: the record's setters get `userId` as it was given. -/
def BundleDataMgr.setAbilityEnabled (mgr : BundleDataMgr) (bundleName moduleName abilityName : Str) (appIndex : Int)
    (isEnabled : Bool) (userId : Int) (saved : Bool) : ErrCode × BundleDataMgr :=
  let requestUserId := env.getUserId userId
  if requestUserId = INVALID_USERID then (.ERR_BUNDLE_MANAGER_BUNDLE_NOT_EXIST, mgr)
  else match mgr.bundleInfos[bundleName]? with
    | none => (.ERR_BUNDLE_MANAGER_BUNDLE_NOT_EXIST, mgr)
    | some info =>
      if info.isCloneIndex appIndex then
        match info.setCloneAbilityEnabled moduleName abilityName isEnabled userId appIndex with
        | .error e => (e, mgr)
        | .ok info => mgr.updateInPlace bundleName info saved
      else
        match info.setAbilityEnabled moduleName abilityName isEnabled userId with
        | .error e => (e, mgr)
        | .ok info =>
          BundleDataMgr.saveBundleState env { mgr with bundleInfos := mgr.bundleInfos.insert bundleName info }
            bundleName info requestUserId

def BundleDataMgr.setAbilityFileTypes (mgr : BundleDataMgr) (bundleName moduleName abilityName : Str)
    (fileTypes : List Str) (saved : Bool) : ErrCode × BundleDataMgr :=
  match mgr.bundleInfos[bundleName]? with
  | none => (.ERR_BUNDLE_MANAGER_BUNDLE_NOT_EXIST, mgr)
  | some info =>
    match info.setAbilityFileTypes env.validateDynamicSkills moduleName abilityName fileTypes with
    | .error e => (e, mgr)
    | .ok info => mgr.updateInPlace bundleName info saved

/-! ## What an update changes -/

/-- The clone of a user, as the setters look it up. -/
def InnerBundleInfo.clone? (info : InnerBundleInfo) (userId appIndex : Int) : Option InnerBundleCloneInfo :=
  info.innerBundleUserInfos[nameAndUserIdToKey info.bundleName userId]?.bind fun user =>
    user.cloneInfos[toDecimal appIndex]?

/-- `updateUser` of a user the record has. -/
theorem updateUser_of_some {info : InnerBundleInfo} {userId : Int} {user : InnerBundleUserInfo}
    {f : InnerBundleUserInfo → Except ErrCode InnerBundleUserInfo}
    (h : info.innerBundleUserInfos[nameAndUserIdToKey info.bundleName userId]? = some user) :
    (∀ user', f user = .ok user' → ∃ info', info.updateUser userId f = .ok info' ∧ (info' = info ↔ user' = user)) ∧
      (∀ e, f user = .error e → info.updateUser userId f = .error e) := by
  unfold InnerBundleInfo.updateUser
  rw [h]
  dsimp only
  constructor
  · intro user' hf
    rw [hf]
    refine ⟨_, rfl, ?_⟩
    rw [← MapLoop.insert_eq_self_iff h]
    constructor
    · intro e
      exact congrArg InnerBundleInfo.innerBundleUserInfos e
    · intro e
      rw [e]
  · intro e hf
    rw [hf]

/-- **Specification of `updateClone`**: it fails where there is no such clone, and changes the
record just when it changes the clone. -/
theorem updateClone_spec (info : InnerBundleInfo) (appIndex userId : Int)
    (f : InnerBundleCloneInfo → InnerBundleCloneInfo) :
    (info.clone? userId appIndex = none ∧ ∃ e, info.updateClone appIndex userId f = .error e) ∨
      ∃ clone info', info.clone? userId appIndex = some clone ∧ info.updateClone appIndex userId f = .ok info' ∧
        (info' = info ↔ f clone = clone) := by
  unfold InnerBundleInfo.clone? InnerBundleInfo.updateClone
  rcases hu : info.innerBundleUserInfos[nameAndUserIdToKey info.bundleName userId]? with _ | user
  · refine .inl ⟨rfl, .ERR_BUNDLE_MANAGER_BUNDLE_NOT_EXIST, ?_⟩
    unfold InnerBundleInfo.updateUser
    rw [hu]
  rcases hc : user.cloneInfos[toDecimal appIndex]? with _ | clone
  · refine .inl ⟨hc, _, (updateUser_of_some hu).2 .ERR_APPEXECFWK_SANDBOX_INSTALL_INVALID_APP_INDEX ?_⟩
    unfold InnerBundleUserInfo.updateClone
    rw [hc]
  · have hf : user.updateClone appIndex f =
        .ok { user with cloneInfos := user.cloneInfos.insert (toDecimal appIndex) (f clone) } := by
      unfold InnerBundleUserInfo.updateClone
      rw [hc]
    obtain ⟨info', hok, hiff⟩ := (updateUser_of_some (f := fun user => user.updateClone appIndex f) hu).1 _ hf
    refine .inr ⟨clone, info', hc, hok, hiff.trans ?_⟩
    rw [← MapLoop.insert_eq_self_iff hc]
    constructor
    · intro e
      exact congrArg InnerBundleUserInfo.cloneInfos e
    · intro e
      rw [e]

theorem updateDisabledAbilities_eq_self_iff (disabledAbilities : List Str) (abilityName : Str) (isEnabled : Bool) :
    updateDisabledAbilities disabledAbilities abilityName isEnabled = disabledAbilities ↔
      (isEnabled = true ↔ abilityName ∉ disabledAbilities) := by
  unfold updateDisabledAbilities
  by_cases hmem : abilityName ∈ disabledAbilities
  · rw [if_pos (List.contains_iff_mem.mpr hmem)]
    cases isEnabled with
    | true => simp [hmem, List.erase_eq_self_iff]
    | false => simp [hmem]
  · rw [if_neg (fun h => hmem (List.contains_iff_mem.mp h))]
    cases isEnabled <;> simp [hmem]

theorem updateInPlace_failed_eq_iff {mgr : BundleDataMgr} {bundleName : Str} {info : InnerBundleInfo}
    (h : mgr.bundleInfos[bundleName]? = some info) (info' : InnerBundleInfo) :
    (mgr.updateInPlace bundleName info' false).2.bundleInfos = mgr.bundleInfos ↔ info' = info :=
  MapLoop.insert_eq_self_iff h

/-! ## Requests whose save fails -/

/-- Every record equals its stored row. -/
def BundleDataMgr.Synced (mgr : BundleDataMgr) : Prop :=
  ∀ (bundleName : Str) (info : InnerBundleInfo), mgr.bundleInfos[bundleName]? = some info →
    mgr.dataStorage[info.storageKey]? = some info

inductive Request where
  | setApplicationEnabled (bundleName : Str) (appIndex : Int) (isEnable : Bool) (caller : Str) (userId : Int)
  | setAbilityEnabled (bundleName moduleName abilityName : Str) (appIndex : Int) (isEnabled : Bool) (userId : Int)
  | setBundleFirstLaunch (bundleName : Str) (userId appIndex : Int) (isBundleFirstLaunched : Bool)
  | setModuleRemovable (bundleName moduleName : Str) (isEnable : Bool) (userId callingUid : Int)
  | setAbilityFileTypes (bundleName moduleName abilityName : Str) (fileTypes : List Str)

/-- Whether the call reports success, and the state it leaves. -/
def Request.serve (mgr : BundleDataMgr) (saved : Bool) : Request → Bool × BundleDataMgr
  | .setApplicationEnabled bundleName appIndex isEnable caller userId =>
    let r := mgr.setApplicationEnabled env bundleName appIndex isEnable caller userId saved
    (r.1 = .ERR_OK, r.2)
  | .setAbilityEnabled bundleName moduleName abilityName appIndex isEnabled userId =>
    let r := mgr.setAbilityEnabled env bundleName moduleName abilityName appIndex isEnabled userId saved
    (r.1 = .ERR_OK, r.2)
  | .setBundleFirstLaunch bundleName userId appIndex isBundleFirstLaunched =>
    let r := mgr.setBundleFirstLaunch env bundleName userId appIndex isBundleFirstLaunched saved
    (r.1 = .ERR_OK, r.2)
  | .setModuleRemovable bundleName moduleName isEnable userId callingUid =>
    mgr.setModuleRemovable env bundleName moduleName isEnable userId callingUid saved
  | .setAbilityFileTypes bundleName moduleName abilityName fileTypes =>
    let r := mgr.setAbilityFileTypes env bundleName moduleName abilityName fileTypes saved
    (r.1 = .ERR_OK, r.2)

/-- Where the request has an index, it is one of a clone. -/
def Request.OnClone (mgr : BundleDataMgr) : Request → Prop
  | .setApplicationEnabled bundleName appIndex .. | .setAbilityEnabled bundleName _ _ appIndex .. =>
    ∀ info : InnerBundleInfo, mgr.bundleInfos[bundleName]? = some info → info.isCloneIndex appIndex = true
  | _ => True

/-- The request is turned down before it comes to save, or asks for what the record holds
already; `SetModuleRemovable` may ask for anything. -/
def Request.Idle (mgr : BundleDataMgr) : Request → Prop
  | .setApplicationEnabled bundleName appIndex isEnable caller userId =>
    env.getUserId userId ≠ INVALID_USERID → ∀ (info : InnerBundleInfo) (clone : InnerBundleCloneInfo), mgr.bundleInfos[bundleName]? = some info →
      info.clone? (env.getUserId userId) appIndex = some clone →
        clone.enabled = isEnable ∧ clone.setEnabledCaller = caller
  | .setAbilityEnabled bundleName moduleName abilityName appIndex isEnabled userId =>
    env.getUserId userId ≠ INVALID_USERID → ∀ (info : InnerBundleInfo) (clone : InnerBundleCloneInfo), mgr.bundleInfos[bundleName]? = some info →
      info.hasAbility moduleName abilityName = true → info.clone? userId appIndex = some clone →
        (isEnabled = true ↔ abilityName ∉ clone.disabledAbilities)
  | .setBundleFirstLaunch bundleName userId appIndex isBundleFirstLaunched =>
    env.getUserId userId ≠ INVALID_USERID →
    env.isSecondaryMode = decide (0 < appIndex.tdiv DUAL_MODE_CLONE_APP_INDEX) →
      ∀ (info : InnerBundleInfo) (seen user : InnerBundleUserInfo) (flag : Bool), mgr.bundleInfos[bundleName]? = some info →
        info.getInnerBundleUserInfo (env.getUserId userId) = some seen →
        seen.firstLaunched appIndex = some (!isBundleFirstLaunched) →
        info.innerBundleUserInfos[nameAndUserIdToKey info.bundleName (env.getUserId userId)]? = some user →
        user.firstLaunched appIndex = some flag → flag = isBundleFirstLaunched
  | .setModuleRemovable .. => True
  | .setAbilityFileTypes bundleName moduleName abilityName fileTypes =>
    ∀ (info : InnerBundleInfo) (ability : AbilityInfo), mgr.bundleInfos[bundleName]? = some info →
      info.innerModuleInfos[moduleName]?.isSome = true →
      info.baseAbilityInfos[getAbilityKey info.bundleName moduleName abilityName]? = some ability →
      ability.moduleName = moduleName → ability.name = abilityName →
        (fileTypes = [] → info.dynamicSkills[getAbilityKey info.bundleName moduleName abilityName]? = none) ∧
        (fileTypes ≠ [] → env.validateDynamicSkills
            ((∅ : StrMap (List Skill)).insert (getAbilityKey info.bundleName moduleName abilityName)
              [fileTypesSkill fileTypes]) = true →
          info.dynamicSkills[getAbilityKey info.bundleName moduleName abilityName]? = some [fileTypesSkill fileTypes])

/-- A setter that works in place: memory is kept just when the record's own setter fails or
changes nothing. -/
theorem inPlace_kept_iff {mgr : BundleDataMgr} {bundleName : Str} {info : InnerBundleInfo}
    (h : mgr.bundleInfos[bundleName]? = some info) (r : Except ErrCode InnerBundleInfo) :
    (match r with
      | .error e => (e, mgr)
      | .ok info' => mgr.updateInPlace bundleName info' false).2.bundleInfos = mgr.bundleInfos ↔
      ∀ info', r = .ok info' → info' = info := by
  cases r with
  | error e => simp
  | ok info' =>
    dsimp only
    rw [updateInPlace_failed_eq_iff h]
    simp

theorem updateClone_kept_iff (info : InnerBundleInfo) (appIndex userId : Int)
    (f : InnerBundleCloneInfo → InnerBundleCloneInfo) :
    (∀ info', info.updateClone appIndex userId f = .ok info' → info' = info) ↔
      ∀ clone, info.clone? userId appIndex = some clone → f clone = clone := by
  rcases updateClone_spec info appIndex userId f with ⟨hnone, e, he⟩ | ⟨clone, info', hsome, hok, hiff⟩
  · rw [hnone, he]
    simp
  · rw [hsome, hok]
    constructor
    · rintro h _ ⟨⟩
      exact hiff.mp (h info' rfl)
    · rintro h _ ⟨⟩
      exact hiff.mpr (h clone rfl)

theorem setApplicationEnabled_kept_iff (mgr : BundleDataMgr) (bundleName : Str) (appIndex : Int) (isEnable : Bool)
    (caller : Str) (userId : Int)
    (hclone : ∀ info : InnerBundleInfo, mgr.bundleInfos[bundleName]? = some info → info.isCloneIndex appIndex = true) :
    (mgr.setApplicationEnabled env bundleName appIndex isEnable caller userId false).2.bundleInfos = mgr.bundleInfos ↔
      (Request.setApplicationEnabled bundleName appIndex isEnable caller userId).Idle env mgr := by
  unfold BundleDataMgr.setApplicationEnabled Request.Idle
  dsimp only
  by_cases huser : env.getUserId userId = INVALID_USERID
  · simp [huser]
  rw [if_neg huser]
  rcases hinfo : mgr.bundleInfos[bundleName]? with _ | info
  · simp
  dsimp only
  rw [if_pos (hclone info hinfo), inPlace_kept_iff hinfo]
  unfold InnerBundleInfo.setCloneApplicationEnabled
  rw [updateClone_kept_iff]
  constructor
  · rintro h - _ clone ⟨⟩ hclone
    have := h clone hclone
    rw [InnerBundleCloneInfo.switch, InnerBundleCloneInfo.mk.injEq] at this
    exact ⟨this.2.1.symm, this.2.2.1.symm⟩
  · intro h clone hclone
    obtain ⟨rfl, rfl⟩ := h huser info clone rfl hclone
    rfl

theorem setAbilityEnabled_kept_iff (mgr : BundleDataMgr) (bundleName moduleName abilityName : Str) (appIndex : Int)
    (isEnabled : Bool) (userId : Int)
    (hclone : ∀ info : InnerBundleInfo, mgr.bundleInfos[bundleName]? = some info → info.isCloneIndex appIndex = true) :
    (mgr.setAbilityEnabled env bundleName moduleName abilityName appIndex isEnabled userId false).2.bundleInfos =
        mgr.bundleInfos ↔
      (Request.setAbilityEnabled bundleName moduleName abilityName appIndex isEnabled userId).Idle env mgr := by
  unfold BundleDataMgr.setAbilityEnabled Request.Idle
  dsimp only
  by_cases huser : env.getUserId userId = INVALID_USERID
  · simp [huser]
  rw [if_neg huser]
  rcases hinfo : mgr.bundleInfos[bundleName]? with _ | info
  · simp
  dsimp only
  rw [if_pos (hclone info hinfo), inPlace_kept_iff hinfo]
  unfold InnerBundleInfo.setCloneAbilityEnabled
  by_cases hability : info.hasAbility moduleName abilityName = true
  · rw [if_pos hability, updateClone_kept_iff]
    have hsame : ∀ clone : InnerBundleCloneInfo,
        { clone with disabledAbilities := updateDisabledAbilities clone.disabledAbilities abilityName isEnabled } =
          clone ↔ (isEnabled = true ↔ abilityName ∉ clone.disabledAbilities) := by
      intro clone
      rw [← updateDisabledAbilities_eq_self_iff]
      constructor
      · intro e
        exact congrArg InnerBundleCloneInfo.disabledAbilities e
      · intro e
        rw [e]
    constructor
    · rintro h - _ clone ⟨⟩ - hclone
      exact (hsame clone).mp (h clone hclone)
    · intro h clone hclone
      exact (hsame clone).mpr (h huser info clone rfl hability hclone)
  · rw [if_neg hability]
    constructor
    · rintro - - _ clone ⟨⟩ habs
      exact absurd habs hability
    · intro _ info' h
      cases h

/-- Writing the flag of a user changes the record unless the flag is there already. -/
theorem firstLaunch_kept_iff (info : InnerBundleInfo) (userId appIndex : Int) (isBundleFirstLaunched : Bool) :
    (∀ info', (if decide (appIndex.tmod DUAL_MODE_CLONE_APP_INDEX = 0) = true then
        info.setBundleFirstLaunch isBundleFirstLaunched userId
        else info.setCloneBundleFirstLaunch isBundleFirstLaunched appIndex userId) = .ok info' → info' = info) ↔
      ∀ (user : InnerBundleUserInfo) (flag : Bool),
        info.innerBundleUserInfos[nameAndUserIdToKey info.bundleName userId]? = some user →
        user.firstLaunched appIndex = some flag → flag = isBundleFirstLaunched := by
  by_cases hmain : appIndex.tmod DUAL_MODE_CLONE_APP_INDEX = 0
  · simp only [hmain, decide_true, if_true, InnerBundleUserInfo.firstLaunched, InnerBundleInfo.setBundleFirstLaunch]
    rcases hown : info.innerBundleUserInfos[nameAndUserIdToKey info.bundleName userId]? with _ | user
    · simp [InnerBundleInfo.updateUser, hown]
    · obtain ⟨info', hok, hiff⟩ := (updateUser_of_some
        (f := fun user => .ok { user with isBundleFirstLaunched := isBundleFirstLaunched }) hown).1 _ rfl
      rw [hok]
      constructor
      · rintro h _ flag ⟨⟩ ⟨⟩
        exact (congrArg InnerBundleUserInfo.isBundleFirstLaunched (hiff.mp (h info' rfl))).symm
      · rintro h _ ⟨⟩
        refine hiff.mpr ?_
        rw [← h user user.isBundleFirstLaunched rfl rfl]
  · simp only [hmain, decide_false, Bool.false_eq_true, if_false, InnerBundleUserInfo.firstLaunched,
      InnerBundleInfo.setCloneBundleFirstLaunch]
    rw [updateClone_kept_iff]
    unfold InnerBundleInfo.clone?
    constructor
    · intro h user flag huser' hflag
      obtain ⟨clone, hclone, rfl⟩ := Option.map_eq_some_iff.mp hflag
      have := h clone (by rw [huser']; exact hclone)
      exact (congrArg InnerBundleCloneInfo.isBundleFirstLaunched this).symm
    · intro h clone hclone
      obtain ⟨user, huser', hclone⟩ := Option.bind_eq_some_iff.mp hclone
      rw [← h user clone.isBundleFirstLaunched huser' (by rw [hclone]; rfl)]

theorem setBundleFirstLaunch_kept_iff (mgr : BundleDataMgr) (bundleName : Str) (userId appIndex : Int)
    (isBundleFirstLaunched : Bool) :
    (mgr.setBundleFirstLaunch env bundleName userId appIndex isBundleFirstLaunched false).2.bundleInfos =
        mgr.bundleInfos ↔
      (Request.setBundleFirstLaunch bundleName userId appIndex isBundleFirstLaunched).Idle env mgr := by
  unfold BundleDataMgr.setBundleFirstLaunch Request.Idle
  dsimp only
  by_cases huser : env.getUserId userId = INVALID_USERID
  · simp [huser]
  rw [if_neg huser]
  by_cases hmode : env.isSecondaryMode = decide (0 < appIndex.tdiv DUAL_MODE_CLONE_APP_INDEX)
  swap
  · simp [hmode]
  rw [if_neg (not_not_intro hmode)]
  rcases hinfo : mgr.bundleInfos[bundleName]? with _ | info
  · simp
  dsimp only
  rcases hseen : info.getInnerBundleUserInfo (env.getUserId userId) with _ | seen
  · dsimp only
    simp only [true_iff]
    rintro - - _ seen user flag ⟨⟩ h
    rw [hseen] at h
    cases h
  dsimp only
  rcases hvalue : seen.firstLaunched appIndex with _ | value
  · dsimp only
    simp only [true_iff]
    rintro - - _ seen' user flag ⟨⟩ h h'
    obtain rfl : seen = seen' := Option.some.inj (hseen.symm.trans h)
    rw [hvalue] at h'
    cases h'
  dsimp only
  by_cases hsame : value = isBundleFirstLaunched
  · rw [if_pos hsame]
    simp only [true_iff]
    rintro - - _ seen' user flag ⟨⟩ h h'
    obtain rfl : seen = seen' := Option.some.inj (hseen.symm.trans h)
    obtain rfl : value = !isBundleFirstLaunched := Option.some.inj (hvalue.symm.trans h')
    cases isBundleFirstLaunched <;> cases hsame
  rw [if_neg hsame, inPlace_kept_iff hinfo]
  have hnot : value = !isBundleFirstLaunched := by
    cases value <;> cases isBundleFirstLaunched <;> simp at hsame ⊢
  -- From here on the request has passed every check; what is written is the user's own flag.
  rw [firstLaunch_kept_iff]
  constructor
  · rintro h - - _ seen' user flag ⟨⟩ - - huser' hflag
    exact h user flag huser' hflag
  · intro h user flag huser' hflag
    exact h huser hmode info seen user flag rfl hseen (hnot ▸ hvalue) huser' hflag

/-- A change of `dynamicSkills` alone. -/
theorem dynamicSkills_eq_iff (info : InnerBundleInfo) (dynamicSkills : StrMap (List Skill)) :
    { info with dynamicSkills := dynamicSkills } = info ↔ dynamicSkills = info.dynamicSkills := by
  constructor
  · intro e
    exact congrArg InnerBundleInfo.dynamicSkills e
  · rintro rfl
    rfl

theorem setAbilityFileTypes_kept_iff (mgr : BundleDataMgr) (bundleName moduleName abilityName : Str)
    (fileTypes : List Str) :
    (mgr.setAbilityFileTypes env bundleName moduleName abilityName fileTypes false).2.bundleInfos = mgr.bundleInfos ↔
      (Request.setAbilityFileTypes bundleName moduleName abilityName fileTypes).Idle env mgr := by
  unfold BundleDataMgr.setAbilityFileTypes Request.Idle
  dsimp only
  rcases hinfo : mgr.bundleInfos[bundleName]? with _ | info
  · simp
  dsimp only
  rw [inPlace_kept_iff hinfo]
  unfold InnerBundleInfo.setAbilityFileTypes
  dsimp only
  by_cases hmodule : info.innerModuleInfos[moduleName]?.isSome = true
  swap
  · rw [if_pos (by simpa using hmodule)]
    simp only [reduceCtorEq, false_implies, implies_true, true_iff]
    rintro _ ability ⟨⟩ h
    exact absurd h hmodule
  rw [if_neg (by simp [Option.isSome_iff_ne_none.mp hmodule])]
  rcases hability : info.baseAbilityInfos[getAbilityKey info.bundleName moduleName abilityName]? with _ | ability
  · simp only [reduceCtorEq, false_implies, implies_true, true_iff]
    rintro _ ability ⟨⟩ - h
    rw [hability] at h
    cases h
  dsimp only
  by_cases hnames : moduleName = ability.moduleName ∧ abilityName = ability.name
  swap
  · rw [if_pos (by rw [ne_eq, ne_eq, ← not_and_or]; exact hnames)]
    simp only [reduceCtorEq, false_implies, implies_true, true_iff]
    rintro _ ability' ⟨⟩ - h hm ha
    obtain rfl : ability = ability' := Option.some.inj (hability.symm.trans h)
    exact absurd ⟨hm.symm, ha.symm⟩ hnames
  rw [if_neg (by rw [ne_eq, ne_eq, ← not_and_or]; exact not_not_intro hnames)]
  -- All checks passed: what is compared is the entry of `dynamicSkills`.
  have hidle : ∀ P : InnerBundleInfo → Prop, (∀ (info' : InnerBundleInfo) (ability : AbilityInfo), some info = some info' →
      info'.innerModuleInfos[moduleName]?.isSome = true →
      info'.baseAbilityInfos[getAbilityKey info'.bundleName moduleName abilityName]? = some ability →
      ability.moduleName = moduleName → ability.name = abilityName → P info') ↔ P info := by
    intro P
    constructor
    · intro h
      exact h info ability rfl hmodule hability hnames.1.symm hnames.2.symm
    · rintro h _ ability' ⟨⟩ - - - -
      exact h
  rw [hidle]
  by_cases hempty : fileTypes = []
  · rw [if_pos hempty, ← MapLoop.erase_eq_self_iff]
    constructor
    · intro h
      exact ⟨fun _ => (dynamicSkills_eq_iff info _).mp (h _ rfl), fun hne => absurd hempty hne⟩
    · rintro h _ ⟨⟩
      exact (dynamicSkills_eq_iff info _).mpr (h.1 hempty)
  rw [if_neg hempty]
  by_cases hvalid : env.validateDynamicSkills ((∅ : StrMap (List Skill)).insert
      (getAbilityKey info.bundleName moduleName abilityName) [fileTypesSkill fileTypes]) = true
  · rw [if_pos hvalid]
    constructor
    · intro h
      have hkept := (dynamicSkills_eq_iff info _).mp (h _ rfl)
      exact ⟨fun he => absurd he hempty, fun _ _ => MapLoop.insert_eq_iff_get.mp hkept⟩
    · rintro h _ ⟨⟩
      exact (dynamicSkills_eq_iff info _).mpr (MapLoop.insert_eq_iff_get.mpr (h.2 hempty hvalid))
  · rw [if_neg hvalid]
    simp [hempty, hvalid]

/-- `SetModuleRemovable` changes nothing at all when its save fails. -/
theorem setModuleRemovable_failed (mgr : BundleDataMgr) (bundleName moduleName : Str) (isEnable : Bool)
    (userId callingUid : Int) :
    (mgr.setModuleRemovable env bundleName moduleName isEnable userId callingUid false).2 = mgr := by
  unfold BundleDataMgr.setModuleRemovable
  split
  · rfl
  split
  · rfl
  rcases mgr.bundleInfos[bundleName]? with _ | info
  · rfl
  · dsimp only
    split <;> rfl

theorem saveBundleState_dataStorage (mgr : BundleDataMgr) (bundleName : Str) (info : InnerBundleInfo) (userId : Int) :
    (mgr.saveBundleState env bundleName info userId).2.dataStorage = mgr.dataStorage := by
  unfold BundleDataMgr.saveBundleState
  rcases info.getInnerBundleUserInfo userId with _ | user
  · rfl
  · dsimp only
    split_ifs <;> rfl

theorem inPlace_failed_dataStorage (mgr : BundleDataMgr) (bundleName : Str) (r : Except ErrCode InnerBundleInfo) :
    (match r with
      | .error e => (e, mgr)
      | .ok info => mgr.updateInPlace bundleName info false).2.dataStorage = mgr.dataStorage := by
  cases r <;> rfl

theorem setBundleFirstLaunch_failed_dataStorage (mgr : BundleDataMgr) (bundleName : Str) (userId appIndex : Int)
    (isBundleFirstLaunched : Bool) :
    (mgr.setBundleFirstLaunch env bundleName userId appIndex isBundleFirstLaunched false).2.dataStorage =
      mgr.dataStorage := by
  unfold BundleDataMgr.setBundleFirstLaunch
  dsimp only
  split
  · rfl
  split
  · rfl
  rcases mgr.bundleInfos[bundleName]? with _ | info
  · rfl
  dsimp only
  rcases info.getInnerBundleUserInfo (env.getUserId userId) with _ | user
  · rfl
  dsimp only
  rcases user.firstLaunched appIndex with _ | value
  · rfl
  dsimp only
  split
  · rfl
  · exact inPlace_failed_dataStorage mgr bundleName _

/-- No request touches the rows when its save fails. -/
theorem serve_failed_dataStorage (mgr : BundleDataMgr) (req : Request) :
    (req.serve env mgr false).2.dataStorage = mgr.dataStorage := by
  cases req with
  | setApplicationEnabled bundleName appIndex isEnable caller userId =>
    simp only [Request.serve, BundleDataMgr.setApplicationEnabled]
    split
    · rfl
    rcases mgr.bundleInfos[bundleName]? with _ | info
    · rfl
    dsimp only
    by_cases hclone : info.isCloneIndex appIndex = true
    · rw [if_pos hclone]
      exact inPlace_failed_dataStorage mgr bundleName _
    · rw [if_neg hclone]
      rcases info.setApplicationEnabled isEnable caller (env.getUserId userId) with e | info'
      · rfl
      · exact saveBundleState_dataStorage env _ bundleName info' _
  | setAbilityEnabled bundleName moduleName abilityName appIndex isEnabled userId =>
    simp only [Request.serve, BundleDataMgr.setAbilityEnabled]
    split
    · rfl
    rcases mgr.bundleInfos[bundleName]? with _ | info
    · rfl
    dsimp only
    by_cases hclone : info.isCloneIndex appIndex = true
    · rw [if_pos hclone]
      exact inPlace_failed_dataStorage mgr bundleName _
    · rw [if_neg hclone]
      rcases info.setAbilityEnabled moduleName abilityName isEnabled userId with e | info'
      · rfl
      · exact saveBundleState_dataStorage env _ bundleName info' _
  | setBundleFirstLaunch bundleName userId appIndex isBundleFirstLaunched =>
    exact setBundleFirstLaunch_failed_dataStorage env mgr bundleName userId appIndex isBundleFirstLaunched
  | setModuleRemovable bundleName moduleName isEnable userId callingUid =>
    exact congrArg BundleDataMgr.dataStorage
      (setModuleRemovable_failed env mgr bundleName moduleName isEnable userId callingUid)
  | setAbilityFileTypes bundleName moduleName abilityName fileTypes =>
    simp only [Request.serve, BundleDataMgr.setAbilityFileTypes]
    rcases mgr.bundleInfos[bundleName]? with _ | info
    · rfl
    · exact inPlace_failed_dataStorage mgr bundleName _

/-- **What a failed save leaves**: memory stays the record before the call, and so equal to its
row, just when the request is idle. -/
theorem setter_keeps_memory_iff (mgr : BundleDataMgr) (req : Request) (hsync : mgr.Synced) (hclone : req.OnClone mgr) :
    ((req.serve env mgr false).2.bundleInfos = mgr.bundleInfos ∧ (req.serve env mgr false).2.Synced) ↔
      req.Idle env mgr := by
  have hkept : (req.serve env mgr false).2.bundleInfos = mgr.bundleInfos ↔ req.Idle env mgr := by
    cases req with
    | setApplicationEnabled bundleName appIndex isEnable caller userId =>
      exact setApplicationEnabled_kept_iff env mgr bundleName appIndex isEnable caller userId hclone
    | setAbilityEnabled bundleName moduleName abilityName appIndex isEnabled userId =>
      exact setAbilityEnabled_kept_iff env mgr bundleName moduleName abilityName appIndex isEnabled userId hclone
    | setBundleFirstLaunch bundleName userId appIndex isBundleFirstLaunched =>
      exact setBundleFirstLaunch_kept_iff env mgr bundleName userId appIndex isBundleFirstLaunched
    | setModuleRemovable bundleName moduleName isEnable userId callingUid =>
      exact ⟨fun _ => trivial, fun _ => congrArg BundleDataMgr.bundleInfos
        (setModuleRemovable_failed env mgr bundleName moduleName isEnable userId callingUid)⟩
    | setAbilityFileTypes bundleName moduleName abilityName fileTypes =>
      exact setAbilityFileTypes_kept_iff env mgr bundleName moduleName abilityName fileTypes
  rw [← hkept]
  refine ⟨And.left, fun h => ⟨h, fun bundleName info hinfo => ?_⟩⟩
  rw [serve_failed_dataStorage]
  exact hsync bundleName info (h ▸ hinfo)

/-! A user with one clone, whose row is saved. -/

def demoName : Str := "a.b".toList

def demoInfo : InnerBundleInfo where
  bundleName := demoName
  innerBundleUserInfos := (∅ : StrMap InnerBundleUserInfo).insert "a.b_100".toList
    { cloneInfos := (∅ : StrMap InnerBundleCloneInfo).insert "1".toList { appIndex := 1 } }

def demoMgr : BundleDataMgr where
  bundleInfos := (∅ : StrMap InnerBundleInfo).insert demoName demoInfo
  dataStorage := (∅ : StrMap InnerBundleInfo).insert demoName demoInfo

def demoEnv : Env where
  hasUserId := fun userId => userId = 100
  callingUserId := 100
  isDualModeDevice := false
  isSecondaryMode := false
  validateDynamicSkills := fun _ => true
  getNameForUid := fun _ => none

theorem demoMgr_get {bundleName : Str} {info : InnerBundleInfo} (h : demoMgr.bundleInfos[bundleName]? = some info) :
    bundleName = demoName ∧ info = demoInfo := by
  unfold demoMgr at h
  rw [MapLoop.getElem?_insert_eq] at h
  split at h
  · next e => exact ⟨e, (Option.some.inj h).symm⟩
  · simp at h

theorem demoMgr_synced : demoMgr.Synced := by
  intro bundleName info h
  obtain ⟨-, rfl⟩ := demoMgr_get h
  show ((∅ : StrMap InnerBundleInfo).insert demoName demoInfo)[demoInfo.storageKey]? = some demoInfo
  rw [MapLoop.getElem?_insert_eq]
  rfl

/-- Enabling what is enabled, by the caller on record, is idle: nothing is left behind. -/
theorem setter_keeps_memory_redundant :
    (((Request.setApplicationEnabled demoName 1 true [] 100).serve demoEnv demoMgr false).2.bundleInfos =
        demoMgr.bundleInfos ∧
      ((Request.setApplicationEnabled demoName 1 true [] 100).serve demoEnv demoMgr false).2.Synced) := by
  refine (setter_keeps_memory_iff demoEnv demoMgr (.setApplicationEnabled demoName 1 true [] 100) demoMgr_synced
    ?_).mpr ?_
  · intro info h
    obtain ⟨-, rfl⟩ := demoMgr_get h
    decide
  · intro _ info clone h hclone
    obtain ⟨-, rfl⟩ := demoMgr_get h
    have hget : demoInfo.clone? (demoEnv.getUserId 100) 1 = some { appIndex := 1 } := by decide +kernel
    rw [hget] at hclone
    cases hclone
    exact ⟨rfl, rfl⟩

/-- Disabling the clone when the save fails: the call reports failure, and memory says disabled
while the row says enabled. -/
theorem setter_runs_ahead_of_storage :
    demoMgr.Synced ∧ (Request.setApplicationEnabled demoName 1 false [] 100).OnClone demoMgr ∧
      ((Request.setApplicationEnabled demoName 1 false [] 100).serve demoEnv demoMgr false).1 = false ∧
      ¬ (((Request.setApplicationEnabled demoName 1 false [] 100).serve demoEnv demoMgr false).2.bundleInfos =
          demoMgr.bundleInfos) ∧
      ¬ ((Request.setApplicationEnabled demoName 1 false [] 100).serve demoEnv demoMgr false).2.Synced := by
  have hmem : (((Request.setApplicationEnabled demoName 1 false [] 100).serve demoEnv demoMgr false).2.bundleInfos[
      demoName]?.bind fun info => (info.clone? 100 1).map fun clone => clone.enabled) = some false := by
    decide +kernel
  obtain ⟨info, hinfo, hflag⟩ := Option.bind_eq_some_iff.mp hmem
  have hdemo : ((demoInfo.clone? 100 1).map fun clone => clone.enabled) = some true := by decide +kernel
  have hne : info ≠ demoInfo := by
    rintro rfl
    rw [hdemo] at hflag
    cases hflag
  refine ⟨demoMgr_synced, ?_, by decide +kernel, ?_, ?_⟩
  · intro info h
    obtain ⟨-, rfl⟩ := demoMgr_get h
    decide
  · intro e
    rw [e] at hinfo
    exact hne (demoMgr_get hinfo).2
  · intro hsync
    have hrow := hsync demoName info hinfo
    rw [serve_failed_dataStorage] at hrow
    exact hne (demoMgr_get hrow).2

end BundleFramework.BundleState
