import BundleFramework.SharedBundle.ModuleVersions
import BundleFramework.DataMgr.InstallState

/-!
# The installer of shared bundles

`SharedBundleInstaller` holds one `InnerSharedBundleInstaller` for each bundle name.  `Install` runs them
one after the other; when one fails, those run so far are rolled back, the last one first.

* A record is what the installer reads and merges of `InnerBundleInfo`: the paths that extraction
  fills in, ability and module records, and overlay connections are left out.  Records are
  stored under their own name; `Records` cannot hold others.
* What the environment answers to one bundle's installation is its `Env`.  The database
  operations of a rollback succeed.
* `innerInstallers_` and `parsedBundles_` are lists, in the order the hash maps are walked in.  `CheckAppLabelInfo` puts the old record
  in under the bundle name and takes it out again; the keys are file paths, so nothing comes of it.
-/

namespace BundleFramework.SharedBundle

open Std

inductive ErrCode where
  | ERR_OK
  | ERR_APPEXECFWK_INSTALL_COMPATIBLE_POLICY_NOT_SAME
  | ERR_APPEXECFWK_INSTALL_VERSION_DOWNGRADE
  | ERR_APPEXECFWK_INSTALL_PARAM_ERROR
  | ERR_APPEXECFWK_INSTALL_BUNDLENAME_NOT_SAME
  | ERR_APPEXECFWK_INSTALL_VERSIONCODE_NOT_SAME
  | ERR_APPEXECFWK_BUNDLE_TYPE_NOT_SAME
  | ERR_APPEXECFWK_UPDATE_BUNDLE_ERROR
  | ERR_APPEXECFWK_ADD_BUNDLE_ERROR
  | ERR_APPEXECFWK_FETCH_BUNDLE_ERROR
  /-- A code of a check or of a service that is not modelled. -/
  | other (code : Nat)
  deriving DecidableEq

/-! ## Records -/

structure InnerBundleInfo where
  bundleName : Str
  applicationBundleType : BundleType
  versionCode : Nat
  developerId : Str := []
  odid : Str := []
  innerSharedModuleInfos : ModuleVersions := ∅
  deriving DecidableEq

/-- `bundleInfos_`. -/
structure Records where
  map : StrMap InnerBundleInfo := ∅
  named : ∀ (name : Str) info, map[name]? = some info → info.bundleName = name := by simp

def Records.put (records : Records) (info : InnerBundleInfo) : Records where
  map := records.map.insert info.bundleName info
  named := by
    intro name info' h
    rw [ExtTreeMap.getElem?_insert] at h
    split at h
    · next heq =>
      obtain rfl := Option.some.inj h
      simpa using heq
    · exact records.named name info' h

def Records.erase (records : Records) (name : Str) : Records where
  map := records.map.erase name
  named := by
    intro name' info h
    rw [ExtTreeMap.getElem?_erase] at h
    split at h
    · cases h
    · exact records.named name' info h

/-- A row of the provision table; `ρ` is what comes from the signature. -/
structure AppProvisionInfo (ρ : Type) where
  signed : ρ
  specifiedDistributionType : Str := []
  additionalInfo : Str := []
  deriving DecidableEq

structure State (ρ : Type) where
  bundleInfos : Records := {}
  tempBundleInfos : StrMap InnerBundleInfo := ∅
  installStates : StrMap InstallState := ∅
  appProvisionInfos : StrMap (AppProvisionInfo ρ) := ∅

/-! ## Packages and installers -/

/-- A package that was parsed; the parser refuses an empty bundle name. -/
structure Hsp where
  path : Str
  bundleName : Str
  bundleType : BundleType
  versionCode : Nat
  moduleName : Str
  named : bundleName ≠ []

/-- What the module profile makes of a package. -/
def Hsp.info (hsp : Hsp) : InnerBundleInfo where
  bundleName := hsp.bundleName
  applicationBundleType := hsp.bundleType
  versionCode := hsp.versionCode
  innerSharedModuleInfos :=
    if hsp.bundleType = .SHARED then
      insertInnerSharedModuleInfo ∅ hsp.moduleName
        { moduleName := hsp.moduleName, modulePackage := hsp.moduleName, versionCode := hsp.versionCode }
    else ∅

structure InnerSharedBundleInstaller (ρ : Type) where
  bundleName : Str
  /-- `parsedBundles_.begin()`. -/
  first : Hsp
  others : List Hsp
  /-- What `ConvertToAppProvisionInfo` makes of the first verify result. -/
  signed : ρ
  named : ∀ hsp ∈ first :: others, hsp.bundleName = bundleName

structure SharedBundleInstaller (ρ : Type) where
  innerInstallers : List (InnerSharedBundleInstaller ρ) := []
  distinct : innerInstallers.Pairwise fun a b => a.bundleName ≠ b.bundleName := by simp

structure InstallParam where
  specifiedDistributionType : Str := []
  additionalInfo : Str := []

/-- What the installation of one bundle meets outside. -/
structure Env where
  uuid : Str := ['u']
  checkAppDistributionType : ErrCode := .ERR_OK
  deliveryProfileToCodeSign : ErrCode := .ERR_OK
  addAppProvisionInfo : Bool := true
  extractSharedBundles : ErrCode := .ERR_OK
  setSpecifiedDistributionType : Bool := true
  setAdditionalInfo : Bool := true
  /-- The record is saved with the finish mark, at the first and at the second try. -/
  saveFinish : Bool := true
  saveFinishAgain : Bool := true
  uuid_nonempty : uuid ≠ [] := by simp

variable {ρ : Type}

/-! ## The data manager -/

def fetchInnerBundleInfo (s : State ρ) (bundleName : Str) : Option InnerBundleInfo :=
  if bundleName.isEmpty then none else s.bundleInfos.map[bundleName]?

/-- The record belongs to the group and has an odid. -/
def InnerBundleInfo.hasOdidOf (groupId : Str) (info : InnerBundleInfo) : Bool :=
  groupId = extractGroupIdByDevelopId info.developerId && !info.odid.isEmpty

def findExistingOdid (groupId : Str) (infos : StrMap InnerBundleInfo) : Option Str :=
  (infos.toList.find? fun item => item.2.hasOdidOf groupId).map fun item => item.2.odid

/-- The odid that a group has already. -/
def existingOdid (s : State ρ) (groupId : Str) : Option Str :=
  (findExistingOdid groupId s.bundleInfos.map).or (findExistingOdid groupId s.tempBundleInfos)

def generateOdid (s : State ρ) (uuid developerId : Str) : Str :=
  (existingOdid s (extractGroupIdByDevelopId developerId)).getD uuid

def updateOdid (s : State ρ) (uuid : Str) (info : InnerBundleInfo) : InnerBundleInfo :=
  if info.developerId.isEmpty then info else { info with odid := generateOdid s uuid info.developerId }

/-- `UpdateInnerBundleInfo`; `saved` is true where nothing is saved. -/
def updateInnerBundleInfo (s : State ρ) (uuid : Str) (info : InnerBundleInfo) (saved : Bool) : Option (State ρ) :=
  if info.bundleName.isEmpty then none
  else match s.bundleInfos.map[info.bundleName]? with
    | none => none
    | some _ => if saved then some { s with bundleInfos := s.bundleInfos.put (updateOdid s uuid info) } else none

def addInnerBundleInfo (s : State ρ) (uuid : Str) (info : InnerBundleInfo) : Option (State ρ) :=
  if info.bundleName.isEmpty then none
  else match s.bundleInfos.map[info.bundleName]? with
    | some _ => none
    | none =>
      if s.installStates[info.bundleName]? = some .INSTALL_START then
        some { s with bundleInfos := s.bundleInfos.put (updateOdid s uuid info) }
      else none

/-- `UpdateBundleInstallState` for the states of an installation: `DeleteBundleInfo` does nothing for
`INSTALL_FAIL`. -/
def updateInstallState (s : State ρ) (bundleName : Str) (state : InstallState) : State ρ :=
  if bundleName.isEmpty then s
  else match s.installStates[bundleName]? with
    | none => if state = .INSTALL_START then { s with installStates := s.installStates.insert bundleName state } else s
    | some current =>
      if canTransfer state current then
        if isDeleteDataState state then { s with installStates := s.installStates.erase bundleName }
        else { s with installStates := s.installStates.insert bundleName state }
      else s

def deleteSharedBundleInfo (s : State ρ) (bundleName : Str) : State ρ :=
  { s with bundleInfos := s.bundleInfos.erase bundleName, installStates := s.installStates.erase bundleName }

/-! ## The provision table -/

/-- The insert replaces the row, without the two fields set later. -/
def addAppProvisionInfo (s : State ρ) (bundleName : Str) (signed : ρ) (ok : Bool) : State ρ :=
  if bundleName.isEmpty || !ok then s
  else { s with appProvisionInfos := s.appProvisionInfos.insert bundleName { signed := signed } }

def deleteAppProvisionInfo (s : State ρ) (bundleName : Str) : State ρ :=
  if bundleName.isEmpty then s else { s with appProvisionInfos := s.appProvisionInfos.erase bundleName }

/-- An update of one row. -/
def updateAppProvisionInfo (s : State ρ) (bundleName : Str) (f : AppProvisionInfo ρ → AppProvisionInfo ρ) : State ρ :=
  match s.appProvisionInfos[bundleName]? with
  | none => s
  | some row => { s with appProvisionInfos := s.appProvisionInfos.insert bundleName (f row) }

/-- What `SaveInstallParamInfo` writes into a row. -/
def InstallParam.apply (param : InstallParam) (env : Env) (row : AppProvisionInfo ρ) : AppProvisionInfo ρ :=
  let row :=
    if !param.specifiedDistributionType.isEmpty && env.setSpecifiedDistributionType then
      { row with specifiedDistributionType := param.specifiedDistributionType }
    else row
  if !param.additionalInfo.isEmpty && env.setAdditionalInfo then { row with additionalInfo := param.additionalInfo }
  else row

def saveInstallParamInfo (s : State ρ) (param : InstallParam) (env : Env) (bundleName : Str) : State ρ :=
  updateAppProvisionInfo s bundleName (param.apply env)

/-! ## One bundle -/

namespace InnerSharedBundleInstaller

variable (installer : InnerSharedBundleInstaller ρ)

/-- `parsedBundles_`. -/
def parsedBundles : List InnerBundleInfo := (installer.first :: installer.others).map Hsp.info

/-- The front of the first module of a package, as long as there is one. -/
def downgrades (old parsed : InnerBundleInfo) : Bool :=
  match parsed.innerSharedModuleInfos.toList.head? with
  | none | some (_, []) => false
  | some (_, sharedModule :: _) =>
    match getMaxVerBaseSharedBundleInfo old.bundleName old.innerSharedModuleInfos sharedModule.moduleName with
    | none => false
    | some installed => sharedModule.versionCode < installed.versionCode

def checkBundleTypeWithInstalledVersion (old : InnerBundleInfo) : ErrCode :=
  if old.applicationBundleType ≠ .SHARED then .ERR_APPEXECFWK_INSTALL_COMPATIBLE_POLICY_NOT_SAME
  else if installer.parsedBundles.any (downgrades old) then .ERR_APPEXECFWK_INSTALL_VERSION_DOWNGRADE
  else .ERR_OK

/-- `CheckWithInstalledInfo`, with the old record that `CheckAppLabelInfo` fetches. -/
def checkWithInstalledInfo (env : Env) (old : Option InnerBundleInfo) : ErrCode :=
  let label := match old with
    | some old => installer.checkBundleTypeWithInstalledVersion old
    | none =>
      if installer.first.info.applicationBundleType ≠ .SHARED then .ERR_APPEXECFWK_INSTALL_PARAM_ERROR else .ERR_OK
  if label ≠ .ERR_OK then label
  else if old.isNone ∧ env.checkAppDistributionType ≠ .ERR_OK then env.checkAppDistributionType
  else env.deliveryProfileToCodeSign

/-- One turn of the loop of `MergeBundleInfos`. -/
def mergeStep (new current : InnerBundleInfo) : InnerBundleInfo :=
  match current.innerSharedModuleInfos.toList.head? with
  | none => new
  | some (_, modules) =>
    let new := match modules with
      | [] => new
      | module :: _ =>
        { new with
          innerSharedModuleInfos := insertInnerSharedModuleInfo new.innerSharedModuleInfos module.modulePackage module }
    if new.versionCode < current.versionCode then
      { new with
        bundleName := current.bundleName
        versionCode := current.versionCode
        applicationBundleType := current.applicationBundleType }
    else new

def mergeBundleInfos (old : Option InnerBundleInfo) : InnerBundleInfo :=
  match old with
  | some old => installer.parsedBundles.foldl mergeStep old
  | none => (installer.others.map Hsp.info).foldl mergeStep installer.first.info

def saveBundleInfoToStorage (env : Env) (s : State ρ) (old : Option InnerBundleInfo) (new : InnerBundleInfo) :
    ErrCode × State ρ :=
  if old.isSome then
    match updateInnerBundleInfo s env.uuid new true with
    | some s => (.ERR_OK, s)
    | none => (.ERR_APPEXECFWK_UPDATE_BUNDLE_ERROR, s)
  else
    let started := updateInstallState s installer.bundleName .INSTALL_START
    match addInnerBundleInfo started env.uuid new with
    | some added => (.ERR_OK, updateInstallState added installer.bundleName .INSTALL_SUCCESS)
    | none => (.ERR_APPEXECFWK_ADD_BUNDLE_ERROR, updateInstallState started installer.bundleName .INSTALL_FAIL)

def markInstallFinish (env : Env) (s : State ρ) : ErrCode × State ρ :=
  match fetchInnerBundleInfo s installer.bundleName with
  | none => (.ERR_APPEXECFWK_FETCH_BUNDLE_ERROR, s)
  | some info =>
    match updateInnerBundleInfo s env.uuid info env.saveFinish with
    | some s => (.ERR_OK, s)
    | none =>
      match updateInnerBundleInfo s env.uuid info env.saveFinishAgain with
      | some s => (.ERR_OK, s)
      | none => (.ERR_APPEXECFWK_UPDATE_BUNDLE_ERROR, s)

/-- `RollBack`; the old record is there just when the bundle existed. -/
def rollBack (env : Env) (old : Option InnerBundleInfo) (s : State ρ) : State ρ :=
  match old with
  | none => deleteAppProvisionInfo (deleteSharedBundleInfo s installer.bundleName) installer.bundleName
  | some old => (updateInnerBundleInfo s env.uuid old true).getD s

/-- `Install`, with the old record it leaves behind for `RollBack`. -/
def install (param : InstallParam) (env : Env) (s : State ρ) : ErrCode × State ρ × Option InnerBundleInfo :=
  let old := fetchInnerBundleInfo s installer.bundleName
  let checked := installer.checkWithInstalledInfo env old
  if checked ≠ .ERR_OK then (checked, s, old)
  else
    let provided := addAppProvisionInfo s installer.bundleName installer.signed env.addAppProvisionInfo
    if env.extractSharedBundles ≠ .ERR_OK then (env.extractSharedBundles, provided, old)
    else
      let saved := installer.saveBundleInfoToStorage env provided old (installer.mergeBundleInfos old)
      if saved.1 ≠ .ERR_OK then (saved.1, saved.2, old)
      else
        let finished := installer.markInstallFinish env (saveInstallParamInfo saved.2 param env installer.bundleName)
        if finished.1 ≠ .ERR_OK then (finished.1, installer.rollBack env old finished.2, old)
        else (.ERR_OK, finished.2, old)

/-- `CheckDependency`: the package is among those that are installed now. -/
def checkDependency (bundleName moduleName : Str) (versionCode : Nat) : Bool :=
  bundleName = installer.bundleName && installer.parsedBundles.any fun info =>
    (getMaxVerBaseSharedBundleInfo info.bundleName info.innerSharedModuleInfos moduleName).any fun sharedBundle =>
      versionCode ≤ sharedBundle.versionCode

end InnerSharedBundleInstaller

/-! ## The set -/

structure Dependency where
  bundleName : Str
  moduleName : Str
  versionCode : Nat

/-- The application that is installed with the set. -/
structure App where
  bundleName : Str
  /-- The dependencies of each module. -/
  innerModuleInfos : StrMap (List Dependency)

def App.getDependencies (app : App) : List Dependency := app.innerModuleInfos.toList.flatMap Prod.snd

def findDependencyInInstalledBundles (s : State ρ) (dependency : Dependency) : Bool :=
  match fetchInnerBundleInfo s dependency.bundleName with
  | none => false
  | some info =>
    if info.applicationBundleType ≠ .SHARED then false
    else (getMaxVerBaseSharedBundleInfo info.bundleName info.innerSharedModuleInfos dependency.moduleName).any
      fun sharedBundle => dependency.versionCode ≤ sharedBundle.versionCode

/-- What one of the paths holds, with the answer of the checks that are not modelled. -/
structure HspDir (ρ : Type) where
  first : Hsp
  others : List Hsp := []
  signed : ρ
  checked : ErrCode := .ERR_OK

def checkMultipleHspConsistency (first : Hsp) : List Hsp → ErrCode
  | [] => .ERR_OK
  | hsp :: rest =>
    if first.bundleName ≠ hsp.bundleName then .ERR_APPEXECFWK_INSTALL_BUNDLENAME_NOT_SAME
    else if first.versionCode ≠ hsp.versionCode then .ERR_APPEXECFWK_INSTALL_VERSIONCODE_NOT_SAME
    else if first.bundleType ≠ hsp.bundleType then .ERR_APPEXECFWK_BUNDLE_TYPE_NOT_SAME
    else checkMultipleHspConsistency first rest

theorem named_of_consistent {first : Hsp} {others : List Hsp} (h : checkMultipleHspConsistency first others = .ERR_OK) :
    ∀ hsp ∈ first :: others, hsp.bundleName = first.bundleName := by
  induction others with
  | nil => simp
  | cons hsp rest ih =>
    unfold checkMultipleHspConsistency at h
    split at h
    · cases h
    next hname =>
    split at h
    · cases h
    split at h
    · cases h
    intro other hother
    rcases List.mem_cons.mp hother with rfl | hother
    · rfl
    rcases List.mem_cons.mp hother with rfl | hother
    · exact (Decidable.not_not.mp hname).symm
    · exact ih h other (List.mem_cons_of_mem _ hother)

/-- `InnerSharedBundleInstaller::ParseFiles`. -/
def HspDir.parseFiles (s : State ρ) (env : Env) (dir : HspDir ρ) : Except ErrCode (InnerSharedBundleInstaller ρ) :=
  if dir.checked ≠ .ERR_OK then .error dir.checked
  else match h : checkMultipleHspConsistency dir.first dir.others with
    | .ERR_OK =>
      let installer : InnerSharedBundleInstaller ρ :=
        ⟨dir.first.bundleName, dir.first, dir.others, dir.signed, named_of_consistent h⟩
      match installer.checkWithInstalledInfo env (fetchInnerBundleInfo s dir.first.bundleName) with
      | .ERR_OK => .ok installer
      | code => .error code
    | code => .error code

namespace SharedBundleInstaller

variable (installer : SharedBundleInstaller ρ)

/-- `innerInstallers_.find`. -/
def find? (bundleName : Str) : Option (InnerSharedBundleInstaller ρ) :=
  installer.innerInstallers.find? fun inner => inner.bundleName = bundleName

theorem find?_eq_none {bundleName : Str} (h : installer.find? bundleName = none) :
    ∀ inner ∈ installer.innerInstallers, inner.bundleName ≠ bundleName := by
  intro inner hmem
  simpa using List.find?_eq_none.mp h inner hmem

/-- A second path with the same bundle name is passed over. -/
def add (inner : InnerSharedBundleInstaller ρ) : SharedBundleInstaller ρ :=
  match h : installer.find? inner.bundleName with
  | some _ => installer
  | none =>
    { innerInstallers := installer.innerInstallers ++ [inner]
      distinct := by
        refine List.pairwise_append.mpr ⟨installer.distinct, List.pairwise_singleton .., fun other hother last hlast => ?_⟩
        rw [List.mem_singleton.mp hlast]
        exact installer.find?_eq_none h other hother }

def parseFiles (s : State ρ) (envs : Str → Env) (dirs : List (HspDir ρ)) : Except ErrCode (SharedBundleInstaller ρ) :=
  dirs.foldlM (fun installer dir => (dir.parseFiles s (envs dir.first.bundleName)).map installer.add) {}

def checkDependency (s : State ρ) (app : App) : Bool :=
  app.getDependencies.all fun dependency =>
    dependency.bundleName.isEmpty || dependency.bundleName = app.bundleName ||
      (installer.find? dependency.bundleName).any (fun inner =>
        inner.checkDependency dependency.bundleName dependency.moduleName dependency.versionCode) ||
      findDependencyInInstalledBundles s dependency

/-- The installers that ran and the records they found, the last one first. -/
abbrev Processed (ρ : Type) := List (InnerSharedBundleInstaller ρ × Option InnerBundleInfo)

/-- The rollback guard. -/
def rollBackAll (envs : Str → Env) (processed : Processed ρ) (s : State ρ) : State ρ :=
  processed.foldl (fun s run => run.1.rollBack (envs run.1.bundleName) run.2 s) s

/-- The loop of `Install`. -/
def installLoop (param : InstallParam) (envs : Str → Env) :
    List (InnerSharedBundleInstaller ρ) → Processed ρ → State ρ → ErrCode × State ρ
  | [], _, s => (.ERR_OK, s)
  | inner :: rest, processed, s =>
    let ran := inner.install param (envs inner.bundleName) s
    if ran.1 = .ERR_OK then installLoop param envs rest ((inner, ran.2.2) :: processed) ran.2.1
    else (ran.1, rollBackAll envs ((inner, ran.2.2) :: processed) ran.2.1)

def install (param : InstallParam) (envs : Str → Env) (s : State ρ) : ErrCode × State ρ :=
  installLoop param envs installer.innerInstallers [] s

end SharedBundleInstaller

/-! ## What the operations leave -/

section Effects

variable {s t : State ρ} {uuid : Str}

theorem put_getElem (records : Records) (info : InnerBundleInfo) (name : Str) :
    (records.put info).map[name]? = if info.bundleName = name then some info else records.map[name]? := by
  unfold Records.put
  dsimp only
  rw [ExtTreeMap.getElem?_insert]
  simp

theorem erase_getElem (records : Records) (erased name : Str) :
    (records.erase erased).map[name]? = if erased = name then none else records.map[name]? := by
  unfold Records.erase
  dsimp only
  rw [ExtTreeMap.getElem?_erase]
  simp

@[simp] theorem updateOdid_bundleName (info : InnerBundleInfo) : (updateOdid s uuid info).bundleName = info.bundleName := by
  unfold updateOdid
  split <;> rfl

@[simp] theorem updateOdid_applicationBundleType (info : InnerBundleInfo) :
    (updateOdid s uuid info).applicationBundleType = info.applicationBundleType := by
  unfold updateOdid
  split <;> rfl

@[simp] theorem updateOdid_innerSharedModuleInfos (info : InnerBundleInfo) :
    (updateOdid s uuid info).innerSharedModuleInfos = info.innerSharedModuleInfos := by
  unfold updateOdid
  split <;> rfl

theorem updateInnerBundleInfo_eq_some {info : InnerBundleInfo} {saved : Bool}
    (h : updateInnerBundleInfo s uuid info saved = some t) :
    t = { s with bundleInfos := s.bundleInfos.put (updateOdid s uuid info) } := by
  unfold updateInnerBundleInfo at h
  split at h
  · cases h
  split at h
  · cases h
  split at h
  · exact (Option.some.inj h).symm
  · cases h

theorem addInnerBundleInfo_eq_some {info : InnerBundleInfo} (h : addInnerBundleInfo s uuid info = some t) :
    t = { s with bundleInfos := s.bundleInfos.put (updateOdid s uuid info) } := by
  unfold addInnerBundleInfo at h
  split at h
  · cases h
  split at h
  · cases h
  split at h
  · exact (Option.some.inj h).symm
  · cases h

theorem updateInstallState_keeps (bundleName : Str) (state : InstallState) :
    (updateInstallState s bundleName state).bundleInfos = s.bundleInfos ∧
      (updateInstallState s bundleName state).tempBundleInfos = s.tempBundleInfos ∧
      (updateInstallState s bundleName state).appProvisionInfos = s.appProvisionInfos := by
  unfold updateInstallState
  split
  · exact ⟨rfl, rfl, rfl⟩
  split
  · split <;> exact ⟨rfl, rfl, rfl⟩
  split
  · split <;> exact ⟨rfl, rfl, rfl⟩
  · exact ⟨rfl, rfl, rfl⟩

/-- Only what is kept under one bundle name has changed. -/
structure Frame (s t : State ρ) (bundleName : Str) : Prop where
  temp : t.tempBundleInfos = s.tempBundleInfos
  record : ∀ other : Str, other ≠ bundleName → t.bundleInfos.map[other]? = s.bundleInfos.map[other]?
  provision : ∀ other : Str, other ≠ bundleName → t.appProvisionInfos[other]? = s.appProvisionInfos[other]?
  installState : ∀ other : Str, other ≠ bundleName → t.installStates[other]? = s.installStates[other]?

theorem Frame.refl (s : State ρ) (bundleName : Str) : Frame s s bundleName :=
  ⟨rfl, fun _ _ => rfl, fun _ _ => rfl, fun _ _ => rfl⟩

theorem Frame.trans {u : State ρ} {bundleName : Str} (h : Frame s t bundleName) (h' : Frame t u bundleName) :
    Frame s u bundleName :=
  ⟨h'.temp.trans h.temp, fun other hne => (h'.record other hne).trans (h.record other hne),
    fun other hne => (h'.provision other hne).trans (h.provision other hne),
    fun other hne => (h'.installState other hne).trans (h.installState other hne)⟩

theorem frame_put {info : InnerBundleInfo} {bundleName : Str} (h : info.bundleName = bundleName) :
    Frame s { s with bundleInfos := s.bundleInfos.put info } bundleName := by
  refine ⟨rfl, fun other hne => ?_, fun _ _ => rfl, fun _ _ => rfl⟩
  dsimp only
  rw [put_getElem, if_neg]
  rw [h]
  exact hne.symm

theorem frame_updateInstallState (bundleName : Str) (state : InstallState) :
    Frame s (updateInstallState s bundleName state) bundleName := by
  obtain ⟨hinfos, htemp, hprovision⟩ := updateInstallState_keeps (s := s) bundleName state
  refine ⟨htemp, fun other _ => ?_, fun other _ => ?_, fun other hne => ?_⟩
  · rw [hinfos]
  · rw [hprovision]
  have hother : ¬ compare bundleName other = .eq := by simpa using hne.symm
  unfold updateInstallState
  split
  · rfl
  split
  · split
    · exact (ExtTreeMap.getElem?_insert ..).trans (if_neg hother)
    · rfl
  split
  · split
    · exact (ExtTreeMap.getElem?_erase ..).trans (if_neg hother)
    · exact (ExtTreeMap.getElem?_insert ..).trans (if_neg hother)
  · rfl

theorem frame_addAppProvisionInfo (bundleName : Str) (signed : ρ) (ok : Bool) :
    Frame s (addAppProvisionInfo s bundleName signed ok) bundleName := by
  unfold addAppProvisionInfo
  split
  · exact .refl s bundleName
  · refine ⟨rfl, fun _ _ => rfl, fun other hne => ?_, fun _ _ => rfl⟩
    dsimp only
    rw [ExtTreeMap.getElem?_insert, if_neg (by simpa using hne.symm)]

theorem frame_saveInstallParamInfo (param : InstallParam) (env : Env) (bundleName : Str) :
    Frame s (saveInstallParamInfo s param env bundleName) bundleName := by
  unfold saveInstallParamInfo updateAppProvisionInfo
  split
  · exact .refl s bundleName
  · refine ⟨rfl, fun _ _ => rfl, fun other hne => ?_, fun _ _ => rfl⟩
    dsimp only
    rw [ExtTreeMap.getElem?_insert, if_neg (by simpa using hne.symm)]

end Effects

section Merge

theorem mergeStep_developer (new current : InnerBundleInfo) :
    (InnerSharedBundleInstaller.mergeStep new current).developerId = new.developerId ∧
      (InnerSharedBundleInstaller.mergeStep new current).odid = new.odid := by
  unfold InnerSharedBundleInstaller.mergeStep
  split
  · exact ⟨rfl, rfl⟩
  next modules _ =>
  cases modules with
  | nil =>
    dsimp only
    split <;> exact ⟨rfl, rfl⟩
  | cons module rest =>
    dsimp only
    split <;> exact ⟨rfl, rfl⟩

theorem mergeStep_bundleName {new current : InnerBundleInfo} (h : current.bundleName = new.bundleName) :
    (InnerSharedBundleInstaller.mergeStep new current).bundleName = new.bundleName := by
  unfold InnerSharedBundleInstaller.mergeStep
  split
  · rfl
  next modules _ =>
  cases modules with
  | nil =>
    dsimp only
    split
    · exact h
    · rfl
  | cons module rest =>
    dsimp only
    split
    · exact h
    · rfl

theorem foldl_mergeStep (infos : List InnerBundleInfo) (new : InnerBundleInfo)
    (h : ∀ info ∈ infos, info.bundleName = new.bundleName) :
    (infos.foldl InnerSharedBundleInstaller.mergeStep new).bundleName = new.bundleName ∧
      (infos.foldl InnerSharedBundleInstaller.mergeStep new).developerId = new.developerId ∧
      (infos.foldl InnerSharedBundleInstaller.mergeStep new).odid = new.odid := by
  induction infos generalizing new with
  | nil => exact ⟨rfl, rfl, rfl⟩
  | cons info infos ih =>
    have hname := mergeStep_bundleName (h info List.mem_cons_self)
    obtain ⟨hdeveloper, hodid⟩ := mergeStep_developer new info
    obtain ⟨h1, h2, h3⟩ := ih (InnerSharedBundleInstaller.mergeStep new info) fun other hother => by
      rw [hname]
      exact h other (List.mem_cons_of_mem _ hother)
    rw [List.foldl_cons]
    exact ⟨h1.trans hname, h2.trans hdeveloper, h3.trans hodid⟩

variable (installer : InnerSharedBundleInstaller ρ)

theorem parsedBundles_bundleName {info : InnerBundleInfo} (h : info ∈ installer.parsedBundles) :
    info.bundleName = installer.bundleName := by
  obtain ⟨hsp, hmem, rfl⟩ := List.mem_map.mp h
  exact installer.named hsp hmem

/-- The merged record has the name and, where there was one, the developer of the old. -/
theorem mergeBundleInfos_head (old : Option InnerBundleInfo) (hold : ∀ info ∈ old, info.bundleName = installer.bundleName) :
    (installer.mergeBundleInfos old).bundleName = installer.bundleName ∧
      (installer.mergeBundleInfos old).developerId = (old.map InnerBundleInfo.developerId).getD [] ∧
      (installer.mergeBundleInfos old).odid = (old.map InnerBundleInfo.odid).getD [] := by
  unfold InnerSharedBundleInstaller.mergeBundleInfos
  cases old with
  | some old =>
    have hname := hold old rfl
    obtain ⟨h1, h2, h3⟩ := foldl_mergeStep installer.parsedBundles old fun info hinfo => by
      rw [hname]
      exact parsedBundles_bundleName installer hinfo
    exact ⟨h1.trans hname, h2, h3⟩
  | none =>
    have hname : installer.first.info.bundleName = installer.bundleName := installer.named _ List.mem_cons_self
    obtain ⟨h1, h2, h3⟩ := foldl_mergeStep (installer.others.map Hsp.info) installer.first.info
      fun info hinfo => by
        rw [hname]
        obtain ⟨hsp, hmem, rfl⟩ := List.mem_map.mp hinfo
        exact installer.named hsp (List.mem_cons_of_mem _ hmem)
    exact ⟨h1.trans hname, h2, h3⟩

end Merge

section Install

variable (installer : InnerSharedBundleInstaller ρ) (param : InstallParam) (env : Env) (s : State ρ)

theorem bundleName_nonempty : installer.bundleName.isEmpty = false := by
  rw [← installer.named installer.first List.mem_cons_self]
  simpa using installer.first.named

theorem fetch_eq : fetchInnerBundleInfo s installer.bundleName = s.bundleInfos.map[installer.bundleName]? := by
  unfold fetchInnerBundleInfo
  rw [bundleName_nonempty]
  rfl

/-- Where the bundle exists the new record is saved. -/
theorem save_existing {old : InnerBundleInfo} (h : s.bundleInfos.map[installer.bundleName]?.isSome = true)
    (hold : old.bundleName = installer.bundleName) :
    installer.saveBundleInfoToStorage env s (some old) (installer.mergeBundleInfos (some old)) =
      (.ERR_OK, { s with bundleInfos := s.bundleInfos.put (updateOdid s env.uuid (installer.mergeBundleInfos (some old))) }) := by
  have hname := (mergeBundleInfos_head installer (some old) (by simpa using hold)).1
  obtain ⟨current, hcurrent⟩ := Option.isSome_iff_exists.mp h
  unfold InnerSharedBundleInstaller.saveBundleInfoToStorage updateInnerBundleInfo
  rw [hname, bundleName_nonempty, hcurrent]
  rfl

/-- The record is written or not; the state of the installation aside, nothing else changes. -/
theorem save_cases (old : Option InnerBundleInfo) (new : InnerBundleInfo) :
    (installer.saveBundleInfoToStorage env s old new).2.tempBundleInfos = s.tempBundleInfos ∧
    (installer.saveBundleInfoToStorage env s old new).2.appProvisionInfos = s.appProvisionInfos ∧
    (((installer.saveBundleInfoToStorage env s old new).1 = .ERR_OK ∧ ∃ started : State ρ,
        started.bundleInfos = s.bundleInfos ∧ started.tempBundleInfos = s.tempBundleInfos ∧
        (installer.saveBundleInfoToStorage env s old new).2.bundleInfos =
          s.bundleInfos.put (updateOdid started env.uuid new)) ∨
      ((installer.saveBundleInfoToStorage env s old new).1 ≠ .ERR_OK ∧
        (installer.saveBundleInfoToStorage env s old new).2.bundleInfos = s.bundleInfos)) := by
  unfold InnerSharedBundleInstaller.saveBundleInfoToStorage
  split
  · split
    · next t ht =>
      rw [updateInnerBundleInfo_eq_some ht]
      exact ⟨rfl, rfl, .inl ⟨rfl, s, rfl, rfl, rfl⟩⟩
    · exact ⟨rfl, rfl, .inr ⟨nofun, rfl⟩⟩
  obtain ⟨hinfos, htemp, hprovision⟩ := updateInstallState_keeps (s := s) installer.bundleName .INSTALL_START
  dsimp only
  split
  · next added hadded =>
    have heq := addInnerBundleInfo_eq_some hadded
    obtain ⟨hinfos', htemp', hprovision'⟩ := updateInstallState_keeps (s := added) installer.bundleName .INSTALL_SUCCESS
    rw [htemp', hprovision', hinfos', heq]
    refine ⟨htemp, hprovision, .inl ⟨rfl, _, hinfos, htemp, ?_⟩⟩
    rw [hinfos]
  · obtain ⟨hinfos', htemp', hprovision'⟩ :=
      updateInstallState_keeps (s := updateInstallState s installer.bundleName .INSTALL_START) installer.bundleName .INSTALL_FAIL
    exact ⟨htemp'.trans htemp, hprovision'.trans hprovision, .inr ⟨nofun, hinfos'.trans hinfos⟩⟩

theorem saveInstallParamInfo_keeps (bundleName : Str) :
    (saveInstallParamInfo s param env bundleName).bundleInfos = s.bundleInfos ∧
      (saveInstallParamInfo s param env bundleName).tempBundleInfos = s.tempBundleInfos ∧
      (saveInstallParamInfo s param env bundleName).appProvisionInfos[bundleName]? =
        s.appProvisionInfos[bundleName]?.map (param.apply env) := by
  unfold saveInstallParamInfo updateAppProvisionInfo
  split
  · next hrow =>
    rw [hrow]
    exact ⟨rfl, rfl, rfl⟩
  · next row hrow =>
    rw [hrow]
    exact ⟨rfl, rfl, ExtTreeMap.getElem?_insert_self⟩

/-- The finish mark rewrites the record that is there. -/
theorem mark_finish : ((installer.markInstallFinish env s).1 = .ERR_OK → ∃ info,
      s.bundleInfos.map[installer.bundleName]? = some info ∧
      (installer.markInstallFinish env s).2 = { s with bundleInfos := s.bundleInfos.put (updateOdid s env.uuid info) }) ∧
    ((installer.markInstallFinish env s).1 ≠ .ERR_OK → (installer.markInstallFinish env s).2 = s) := by
  unfold InnerSharedBundleInstaller.markInstallFinish
  rw [fetch_eq]
  split
  · exact ⟨(fun hok => nomatch hok), fun _ => rfl⟩
  next info hinfo =>
  split
  · next t ht =>
    have heq := updateInnerBundleInfo_eq_some ht
    exact ⟨fun _ => ⟨info, hinfo, heq⟩, fun hnot => absurd rfl hnot⟩
  split
  · next t ht =>
    have heq := updateInnerBundleInfo_eq_some ht
    exact ⟨fun _ => ⟨info, hinfo, heq⟩, fun hnot => absurd rfl hnot⟩
  · exact ⟨(fun hok => nomatch hok), fun _ => rfl⟩

theorem frame_update {info : InnerBundleInfo} {saved : Bool} {t : State ρ} {uuid bundleName : Str}
    (hname : info.bundleName = bundleName) (h : updateInnerBundleInfo s uuid info saved = some t) : Frame s t bundleName := by
  rw [updateInnerBundleInfo_eq_some h]
  exact frame_put ((updateOdid_bundleName info).trans hname)

theorem frame_save {old : Option InnerBundleInfo} {new : InnerBundleInfo} (hname : new.bundleName = installer.bundleName) :
    Frame s (installer.saveBundleInfoToStorage env s old new).2 installer.bundleName := by
  unfold InnerSharedBundleInstaller.saveBundleInfoToStorage
  split
  · split
    · next t ht => exact frame_update s hname ht
    · exact .refl s _
  have hstarted : Frame s (updateInstallState s installer.bundleName .INSTALL_START) installer.bundleName :=
    frame_updateInstallState _ _
  dsimp only
  split
  · next added hadded =>
    have hadd : Frame (updateInstallState s installer.bundleName .INSTALL_START) added installer.bundleName := by
      rw [addInnerBundleInfo_eq_some hadded]
      exact frame_put ((updateOdid_bundleName new).trans hname)
    exact (hstarted.trans hadd).trans (frame_updateInstallState _ _)
  · exact hstarted.trans (frame_updateInstallState _ _)

theorem frame_mark : Frame s (installer.markInstallFinish env s).2 installer.bundleName := by
  obtain ⟨hok, hfail⟩ := mark_finish installer env s
  by_cases h : (installer.markInstallFinish env s).1 = .ERR_OK
  · obtain ⟨info, hinfo, heq⟩ := hok h
    rw [heq]
    exact frame_put ((updateOdid_bundleName info).trans (s.bundleInfos.named _ info hinfo))
  · rw [hfail h]
    exact .refl s _

theorem frame_delete : Frame s
    (deleteAppProvisionInfo (deleteSharedBundleInfo s installer.bundleName) installer.bundleName) installer.bundleName := by
  unfold deleteAppProvisionInfo deleteSharedBundleInfo
  rw [bundleName_nonempty]
  refine ⟨rfl, fun other hne => ?_, fun other hne => ?_, fun other hne => ?_⟩
  · exact (erase_getElem ..).trans (if_neg hne.symm)
  · exact (ExtTreeMap.getElem?_erase ..).trans (if_neg (by simpa using hne.symm))
  · exact (ExtTreeMap.getElem?_erase ..).trans (if_neg (by simpa using hne.symm))

theorem frame_rollBack {old : Option InnerBundleInfo} (hold : ∀ info ∈ old, info.bundleName = installer.bundleName) :
    Frame s (installer.rollBack env old s) installer.bundleName := by
  unfold InnerSharedBundleInstaller.rollBack
  cases old with
  | none => exact frame_delete installer s
  | some old =>
    dsimp only
    cases h : updateInnerBundleInfo s env.uuid old true with
    | none => exact .refl s _
    | some t => exact frame_update s (hold old rfl) h

/-! The states that an installation goes through. -/

def InnerSharedBundleInstaller.provided : State ρ :=
  addAppProvisionInfo s installer.bundleName installer.signed env.addAppProvisionInfo

def InnerSharedBundleInstaller.saved : ErrCode × State ρ :=
  installer.saveBundleInfoToStorage env (installer.provided env s) s.bundleInfos.map[installer.bundleName]?
    (installer.mergeBundleInfos s.bundleInfos.map[installer.bundleName]?)

def InnerSharedBundleInstaller.written : State ρ :=
  saveInstallParamInfo (installer.saved env s).2 param env installer.bundleName

/-- The places where an installation ends. -/
theorem install_cases :
    (installer.checkWithInstalledInfo env s.bundleInfos.map[installer.bundleName]? ≠ .ERR_OK ∧
      installer.install param env s =
        (installer.checkWithInstalledInfo env s.bundleInfos.map[installer.bundleName]?, s,
          s.bundleInfos.map[installer.bundleName]?)) ∨
    (installer.checkWithInstalledInfo env s.bundleInfos.map[installer.bundleName]? = .ERR_OK ∧
      ((env.extractSharedBundles ≠ .ERR_OK ∧ installer.install param env s =
          (env.extractSharedBundles, installer.provided env s, s.bundleInfos.map[installer.bundleName]?)) ∨
        (env.extractSharedBundles = .ERR_OK ∧
          (((installer.saved env s).1 ≠ .ERR_OK ∧ installer.install param env s =
              ((installer.saved env s).1, (installer.saved env s).2, s.bundleInfos.map[installer.bundleName]?)) ∨
            ((installer.saved env s).1 = .ERR_OK ∧
              (((installer.markInstallFinish env (installer.written param env s)).1 ≠ .ERR_OK ∧
                  installer.install param env s =
                    ((installer.markInstallFinish env (installer.written param env s)).1,
                      installer.rollBack env s.bundleInfos.map[installer.bundleName]? (installer.written param env s),
                      s.bundleInfos.map[installer.bundleName]?)) ∨
                ((installer.markInstallFinish env (installer.written param env s)).1 = .ERR_OK ∧
                  installer.install param env s =
                    (.ERR_OK, (installer.markInstallFinish env (installer.written param env s)).2,
                      s.bundleInfos.map[installer.bundleName]?)))))))) := by
  unfold InnerSharedBundleInstaller.install
  rw [fetch_eq]
  dsimp only
  by_cases hcheck : installer.checkWithInstalledInfo env s.bundleInfos.map[installer.bundleName]? = .ERR_OK
  · refine .inr ⟨hcheck, ?_⟩
    rw [if_neg (not_not_intro hcheck)]
    by_cases hextract : env.extractSharedBundles = .ERR_OK
    · refine .inr ⟨hextract, ?_⟩
      rw [if_neg (not_not_intro hextract)]
      by_cases hsave : (installer.saved env s).1 = .ERR_OK
      · refine .inr ⟨hsave, ?_⟩
        by_cases hmark : (installer.markInstallFinish env (installer.written param env s)).1 = .ERR_OK
        · exact .inr ⟨hmark, (if_neg (not_not_intro hsave)).trans (if_neg (not_not_intro hmark))⟩
        · refine .inl ⟨hmark, ((if_neg (not_not_intro hsave)).trans (if_pos hmark)).trans ?_⟩
          -- A finish mark that fails has left the state alone.
          have hsame := (mark_finish installer env (installer.written param env s)).2 hmark
          unfold InnerSharedBundleInstaller.written InnerSharedBundleInstaller.saved InnerSharedBundleInstaller.provided at hsame ⊢
          rw [hsame]
      · exact .inl ⟨hsave, if_pos hsave⟩
    · exact .inl ⟨hextract, if_pos hextract⟩
  · exact .inl ⟨hcheck, if_pos hcheck⟩

theorem merged_bundleName :
    (installer.mergeBundleInfos s.bundleInfos.map[installer.bundleName]?).bundleName = installer.bundleName :=
  (mergeBundleInfos_head installer s.bundleInfos.map[installer.bundleName]?
    fun info hinfo => s.bundleInfos.named _ info hinfo).1

theorem frame_install : Frame s (installer.install param env s).2.1 installer.bundleName := by
  have hprovided : Frame s (installer.provided env s) installer.bundleName := frame_addAppProvisionInfo _ _ _
  have hsaved : Frame s (installer.saved env s).2 installer.bundleName :=
    hprovided.trans (frame_save installer env _ (merged_bundleName installer s))
  have hwritten : Frame s (installer.written param env s) installer.bundleName :=
    hsaved.trans (frame_saveInstallParamInfo param env _)
  rcases install_cases installer param env s with ⟨-, h⟩ | ⟨-, ⟨-, h⟩ | ⟨-, ⟨-, h⟩ | ⟨-, ⟨-, h⟩ | ⟨-, h⟩⟩⟩⟩ <;> rw [h]
  · exact .refl s _
  · exact hprovided
  · exact hsaved
  · exact hwritten.trans (frame_rollBack installer env _ fun info hinfo => s.bundleInfos.named _ info hinfo)
  · exact hwritten.trans (frame_mark installer env _)

/-- What an installation that succeeds leaves under the name. -/
theorem install_of_ok (h : (installer.install param env s).1 = .ERR_OK) :
    installer.checkWithInstalledInfo env s.bundleInfos.map[installer.bundleName]? = .ERR_OK ∧ ∃ info,
      (installer.install param env s).2.1.bundleInfos.map[installer.bundleName]? = some info ∧
      info.applicationBundleType =
        (installer.mergeBundleInfos s.bundleInfos.map[installer.bundleName]?).applicationBundleType ∧
      info.innerSharedModuleInfos =
        (installer.mergeBundleInfos s.bundleInfos.map[installer.bundleName]?).innerSharedModuleInfos := by
  have hname := merged_bundleName installer s
  rcases install_cases installer param env s with
    ⟨hnot, heq⟩ | ⟨hcheck, ⟨hnot, heq⟩ | ⟨-, ⟨hnot, heq⟩ | ⟨hsave, ⟨hnot, heq⟩ | ⟨hmark, heq⟩⟩⟩⟩
  · exact absurd (by rw [heq] at h; exact h) hnot
  · exact absurd (by rw [heq] at h; exact h) hnot
  · exact absurd (by rw [heq] at h; exact h) hnot
  · exact absurd (by rw [heq] at h; exact h) hnot
  refine ⟨hcheck, ?_⟩
  rw [heq]
  -- The saved record is read back and written once more.
  obtain ⟨-, -, ⟨-, started, -, -, hrecord⟩ | ⟨hnot, -⟩⟩ := save_cases installer env (installer.provided env s)
    s.bundleInfos.map[installer.bundleName]? (installer.mergeBundleInfos s.bundleInfos.map[installer.bundleName]?)
  · obtain ⟨info, hinfo, hfinish⟩ := (mark_finish installer env (installer.written param env s)).1 hmark
    have hwritten := (saveInstallParamInfo_keeps param env (installer.saved env s).2 installer.bundleName).1.trans hrecord
    unfold InnerSharedBundleInstaller.written at hinfo
    rw [hwritten, put_getElem, updateOdid_bundleName, if_pos hname] at hinfo
    obtain rfl := Option.some.inj hinfo
    rw [hfinish]
    dsimp only
    rw [put_getElem, updateOdid_bundleName, updateOdid_bundleName, if_pos hname]
    exact ⟨_, rfl, by simp, by simp⟩
  · exact absurd hsave hnot

end Install

/-- A package `m` of the bundle `b`. -/
def packageOfB (versionCode : Nat) : Hsp where
  path := ['p']
  bundleName := ['b']
  bundleType := .SHARED
  versionCode := versionCode
  moduleName := ['m']
  named := List.cons_ne_nil _ _

/-- The bundle `b` is installed alone. -/
def recordsOfB (versionCode : Nat) : Records := ({} : Records).put (packageOfB versionCode).info

end BundleFramework.SharedBundle
