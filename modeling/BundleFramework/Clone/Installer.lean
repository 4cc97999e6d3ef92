import BundleFramework.InnerBundle.CloneIndex
import BundleFramework.DataMgr.Uid

/-!
# The clone installer

`BundleCloneInstaller` makes and removes the clones of an application.  A clone has a record, an
access token and data directories.  When a step of an install fails, guards take back what the
steps before it did.  When a clone is uninstalled with its data kept, a row of the uninstall
table holds its uid and its token, and the next install of this clone takes the token over.  Its uid it
gets from `GenerateUidAndGid`, whose answer nobody looks at; at a start the ids are collected from the
records and the rows.

The model is of one application, which stays installed.  What the token service, `installd` and
the databases answer is part of each call; the service only updates a token that it has, and it may
drop the old token of a clone when it makes a new one.  What other applications do to the table of
ids, and what their records and rows hold at a start, is part of a run.
-/

namespace BundleFramework.CloneInstaller

open CloneIndex Std

/-! ## State -/

/-- A union: the id of the token is the low half of `tokenIDEx`. -/
structure AccessTokenIDEx where
  tokenIDEx : UInt64
deriving DecidableEq

def AccessTokenIDEx.tokenID (token : AccessTokenIDEx) : UInt32 := token.tokenIDEx.toUInt32

structure UninstallDataUserInfo where
  uid : Int
  gids : List Int
  accessTokenId : UInt32
  accessTokenIdEx : UInt64
deriving DecidableEq

def DEFAULT_USERID : Int := 0

/-- A clone is addressed by user and index. -/
abbrev Place := Int × Int

structure CloneMgr where
  /-- The application in `bundleInfos_` and in the storage. -/
  info : CloneIndex.InnerBundleInfo
  stored : CloneIndex.InnerBundleInfo
  /-- `userInfos` of the row in the uninstall table; there is no row when it is empty. -/
  userInfos : StrMap UninstallDataUserInfo := ∅
  /-- What the token service has. -/
  tokens : Finset UInt32 := ∅
  dataDirs : Finset Place := ∅
  ids : BundleIds
  /-- The tokens named by `NotifyUninstalledBundleCleared`. -/
  cleared : List UInt32 := []

structure Config where
  cloneMaxCount : Int
  hasUserId : Int → Bool
  /-- A different-package application on a device in secondary mode. -/
  isSecondaryDiffPackage : Bool
  baseAppUid : BaseAppUid
  ex : StringEx

inductive ErrCode where
  | ERR_OK
  | ERR_APPEXECFWK_CLONE_INSTALL_APP_NOT_SUPPORTED_MULTI_TYPE
  | ERR_APPEXECFWK_CLONE_INSTALL_USER_NOT_EXIST
  | ERR_APPEXECFWK_CLONE_INSTALL_NOT_INSTALLED_AT_SPECIFIED_USERID
  | ERR_APPEXECFWK_INSTALL_GRANT_REQUEST_PERMISSIONS_FAILED
  | ERR_APPEXECFWK_SERVICE_INTERNAL_ERROR
  | ERR_APPEXECFWK_CLONE_UNINSTALL_INVALID_APP_INDEX
  | ERR_APPEXECFWK_CLONE_UNINSTALL_USER_NOT_EXIST
  | ERR_APPEXECFWK_CLONE_UNINSTALL_NOT_INSTALLED_AT_SPECIFIED_USERID
  | ERR_APPEXECFWK_CLONE_UNINSTALL_APP_NOT_CLONED
  | ERR_APPEXECFWK_CLONE_UNINSTALL_INTERNAL_ERROR
  /-- What the record itself answers. -/
  | ofIndex (res : CloneIndex.ErrCode)
  | shareFiles
  | installd
deriving DecidableEq

structure InstallAnswers where
  access : ParamAccess := ⟨true, true⟩
  updateHapToken : Bool := true
  /-- The token of `InitHapToken`. -/
  initHapToken : Option AccessTokenIDEx
  dropsOld : Bool := false
  shareFiles : Bool := true
  /-- `CreateBundleDataDir` answers, and has made some of the directories. -/
  createDataDir : Bool := true
  someMade : Bool := true
  save : Bool := true
  deleteRow : Bool := true
  /-- The guards. -/
  undoSave : Bool := true
  removeDir : Bool := true
  deleteToken : Bool := true
  now : Int := 0
deriving DecidableEq

structure UninstallAnswers where
  save : Bool := true
  removeDir : Bool := true
  deleteToken : Bool := true
  saveRow : Bool := true
  deleteRow : Bool := true
deriving DecidableEq

/-- The key of a clone in the uninstall table. -/
def rowKey (place : Place) : Str := toDecimal place.1 ++ '_' :: toDecimal place.2

namespace CloneMgr

def row? (s : CloneMgr) (place : Place) : Option UninstallDataUserInfo := s.userInfos[rowKey place]?

/-! ## Data manager -/

def addCloneBundle (c : Config) (attr : CloneIndex.InnerBundleCloneInfo) (now : Int) (save : Bool) (s : CloneMgr) :
    ErrCode × CloneMgr :=
  let (res, info) := s.info.addCloneBundle c.cloneMaxCount attr now
  if res ≠ .ERR_OK then (.ofIndex res, s)
  else if save then (.ERR_OK, { s with info, stored := info })
  else
    (.ERR_APPEXECFWK_SERVICE_INTERNAL_ERROR,
      { s with info := (info.removeCloneBundle c.cloneMaxCount attr.userId attr.appIndex).2 })

def removeCloneBundle (c : Config) (place : Place) (save : Bool) (s : CloneMgr) : ErrCode × CloneMgr :=
  let (res, info) := s.info.removeCloneBundle c.cloneMaxCount place.1 place.2
  if res ≠ .ERR_OK then (.ofIndex res, s)
  else if save then (.ERR_OK, { s with info, stored := info })
  else (.ERR_APPEXECFWK_SERVICE_INTERNAL_ERROR, { s with info })

/-- `GetUninstallBundleInfoWithUserAndAppIndex`. -/
def isKept (place : Place) (s : CloneMgr) : Bool :=
  match s.row? place with
  | none => false
  | some row => row.uid ≠ INVALID_UID

def updateUninstallBundleInfo (place : Place) (row : UninstallDataUserInfo) (saveRow : Bool) (s : CloneMgr) : CloneMgr :=
  match s.row? place with
  | some _ => s
  | none => if saveRow then { s with userInfos := s.userInfos.insert (rowKey place) row } else s

def deleteUninstallCloneBundleInfo (place : Place) (deleteRow : Bool) (s : CloneMgr) : Bool × CloneMgr :=
  match s.row? place with
  | none => (false, s)
  | some _ => if deleteRow then (true, { s with userInfos := s.userInfos.erase (rowKey place) }) else (false, s)

/-! ## Installer -/

def removeCloneDataDir (place : Place) (ok : Bool) (s : CloneMgr) : CloneMgr :=
  if ok then { s with dataDirs := s.dataDirs.erase place } else s

def deleteAccessTokenId (token : UInt32) (ok : Bool) (s : CloneMgr) : CloneMgr :=
  if ok then { s with tokens := s.tokens.erase token } else s

def recoverHapToken (a : InstallAnswers) (place : Place) (s : CloneMgr) : Option AccessTokenIDEx :=
  match s.row? place with
  | none => none
  | some row =>
    let accessTokenIdEx : AccessTokenIDEx := ⟨row.accessTokenIdEx⟩
    if a.updateHapToken && accessTokenIdEx.tokenID ∈ s.tokens then some accessTokenIdEx else none

def tokensBesides (a : InstallAnswers) (place : Place) (s : CloneMgr) : Finset UInt32 :=
  match s.row? place with
  | none => s.tokens
  | some row => if a.dropsOld then s.tokens.erase row.accessTokenId else s.tokens

def initHapToken (a : InstallAnswers) (place : Place) (token : UInt32) (s : CloneMgr) : CloneMgr :=
  { s with tokens := insert token (s.tokensBesides a place) }

/-- The guards of an install, the last one first. -/
def undoAddCloneBundle (c : Config) (a : InstallAnswers) (place : Place) (s : CloneMgr) : CloneMgr :=
  (s.removeCloneBundle c place a.undoSave).2

def undoCreateCloneDataDir (a : InstallAnswers) (place : Place) (s : CloneMgr) : CloneMgr :=
  if s.isKept place then s else s.removeCloneDataDir place a.removeDir

def undoApplyAccessToken (a : InstallAnswers) (token : UInt32) (s : CloneMgr) : CloneMgr :=
  s.deleteAccessTokenId token a.deleteToken

/-- The request for an id, before `GenerateUidAndGid`. -/
def tmpUserInfo (place : Place) (s : CloneMgr) : InnerBundleUserInfo where
  bundleName := getCloneBundleIdKey s.info.bundleName place.2
  userId := place.1
  uid := INVALID_UID
  gids := []
  cloneInfos := ∅

def generateUidAndGid (c : Config) (a : InstallAnswers) (place : Place) (s : CloneMgr) : InnerBundleUserInfo × CloneMgr :=
  let called := BundleFramework.generateUidAndGid c.baseAppUid a.access s.ids (s.tmpUserInfo place)
  (called.2.1, { s with ids := called.2.2 })

def cloneAttr (place : Place) (userInfo : InnerBundleUserInfo) (token : AccessTokenIDEx) : CloneIndex.InnerBundleCloneInfo where
  userId := place.1
  appIndex := place.2
  uid := userInfo.uid
  accessTokenId := token.tokenID
  accessTokenIdEx := token.tokenIDEx
  gids := userInfo.gids

/-- What follows the data directories. -/
def installWithDir (c : Config) (a : InstallAnswers) (place : Place) (userInfo : InnerBundleUserInfo)
    (token : AccessTokenIDEx) (s : CloneMgr) : ErrCode × CloneMgr :=
  let existBeforeKeepDataApp := (s.row? place).isSome
  let (addRes, s) := s.addCloneBundle c (cloneAttr place userInfo token) a.now a.save
  if addRes ≠ .ERR_OK then
    (addRes, ((s.undoAddCloneBundle c a place).undoCreateCloneDataDir a place).undoApplyAccessToken a token.tokenID)
  else if existBeforeKeepDataApp then (.ERR_OK, (s.deleteUninstallCloneBundleInfo place a.deleteRow).2)
  else (.ERR_OK, s)

/-- What follows the access token. -/
def installWithToken (c : Config) (a : InstallAnswers) (place : Place) (userInfo : InnerBundleUserInfo)
    (token : AccessTokenIDEx) (s : CloneMgr) : ErrCode × CloneMgr :=
  if !a.shareFiles then (.shareFiles, s.undoApplyAccessToken a token.tokenID)
  else
    let s := if a.createDataDir || a.someMade then { s with dataDirs := insert place s.dataDirs } else s
    if !a.createDataDir then (.installd, (s.undoCreateCloneDataDir a place).undoApplyAccessToken a token.tokenID)
    else s.installWithDir c a place userInfo token

/-- The acknowledged index comes with the code. -/
def processCloneBundleInstall (c : Config) (a : InstallAnswers) (userId appIndex : Int) (s : CloneMgr) :
    ErrCode × Int × CloneMgr :=
  if c.isSecondaryDiffPackage then (.ERR_APPEXECFWK_CLONE_INSTALL_APP_NOT_SUPPORTED_MULTI_TYPE, appIndex, s)
  else if userId < DEFAULT_USERID then (.ERR_APPEXECFWK_CLONE_INSTALL_USER_NOT_EXIST, appIndex, s)
  else if !c.hasUserId userId then (.ERR_APPEXECFWK_CLONE_INSTALL_USER_NOT_EXIST, appIndex, s)
  else if (s.info.user? userId).isNone then
    (.ERR_APPEXECFWK_CLONE_INSTALL_NOT_INSTALLED_AT_SPECIFIED_USERID, appIndex, s)
  else
    let (ackRes, appIndex) := s.info.verifyAndAckCloneAppIndex c.cloneMaxCount userId appIndex
    if ackRes ≠ .ERR_OK then (.ofIndex ackRes, appIndex, s)
    else
      let place := (userId, appIndex)
      let (userInfo, s) := s.generateUidAndGid c a place
      match s.recoverHapToken a place with
      | some token => let (res, s) := s.installWithToken c a place userInfo token; (res, appIndex, s)
      | none =>
        match a.initHapToken with
        | none => (.ERR_APPEXECFWK_INSTALL_GRANT_REQUEST_PERMISSIONS_FAILED, appIndex, s)
        | some token =>
          let (res, s) := (s.initHapToken a place token.tokenID).installWithToken c a place userInfo token
          (res, appIndex, s)

def processCloneBundleUninstall (c : Config) (a : UninstallAnswers) (place : Place) (isKeepData : Bool) (s : CloneMgr) :
    ErrCode × CloneMgr :=
  if place.2 < CLONE_APP_INDEX_MIN ∨ place.2 > c.cloneMaxCount then
    (.ERR_APPEXECFWK_CLONE_UNINSTALL_INVALID_APP_INDEX, s)
  else if !c.hasUserId place.1 then (.ERR_APPEXECFWK_CLONE_UNINSTALL_USER_NOT_EXIST, s)
  else
    match s.info.user? place.1 with
    | none => (.ERR_APPEXECFWK_CLONE_UNINSTALL_NOT_INSTALLED_AT_SPECIFIED_USERID, s)
    | some userInfo =>
      match userInfo.cloneInfos[appIndexToKey place.2]? with
      | none => (.ERR_APPEXECFWK_CLONE_UNINSTALL_APP_NOT_CLONED, s)
      | some clone =>
        let (res, s) := s.removeCloneBundle c place a.save
        if res ≠ .ERR_OK then (.ERR_APPEXECFWK_CLONE_UNINSTALL_INTERNAL_ERROR, s)
        else if !isKeepData then
          (.ERR_OK, (s.removeCloneDataDir place a.removeDir).deleteAccessTokenId clone.accessTokenId a.deleteToken)
        else
          (.ERR_OK, s.updateUninstallBundleInfo place
            ⟨clone.uid, clone.gids, clone.accessTokenId, clone.accessTokenIdEx⟩ a.saveRow)

/-- The data of a clone that was kept are given up; its token is named to the subscribers. -/
def deleteUninstalledCloneData (a : UninstallAnswers) (place : Place) (s : CloneMgr) : Bool × CloneMgr :=
  match s.row? place with
  | none => (false, s)
  | some row =>
    let (ok, s) := (s.removeCloneDataDir place a.removeDir).deleteUninstallCloneBundleInfo place a.deleteRow
    if !ok then (false, s) else (true, { s with cleared := row.accessTokenId :: s.cleared })

def uninstallCloneApp (c : Config) (a : UninstallAnswers) (place : Place) (isKeepData : Bool) (s : CloneMgr) :
    ErrCode × CloneMgr :=
  let (result, s) := s.processCloneBundleUninstall c a place isKeepData
  if !isKeepData && (result = .ERR_APPEXECFWK_CLONE_UNINSTALL_NOT_INSTALLED_AT_SPECIFIED_USERID ||
      result = .ERR_APPEXECFWK_CLONE_UNINSTALL_APP_NOT_CLONED) then
    let (deleted, s) := s.deleteUninstalledCloneData a place
    if deleted then (.ERR_OK, s) else (result, s)
  else (result, s)

/-! ## Start of the service -/

/-- What the other applications have at a start: the entries of the records before and after this one,
and their rows.  The entries before it hold the one of the application itself. -/
structure Others where
  before : List (Int × Str)
  after : List (Int × Str)
  uninstalled : UninstallTable

/-- The ids of the clones, as `RestoreUidAndGid` reads them off the record. -/
def cloneEntries (info : CloneIndex.InnerBundleInfo) : List (Int × Str) :=
  info.innerBundleUserInfos.toList.flatMap fun user => user.2.cloneInfos.toList.map fun clone =>
    (bundleIdOf clone.2.uid clone.2.userId, getCloneBundleIdKey info.bundleName clone.2.appIndex)

def restoreEntries (entries : List (Int × Str)) : ExtTreeMap Int Str :=
  entries.foldl (fun bundleIdMap item => bundleIdMap.insert item.1 item.2) ∅

def uninstallTable (uninstalled : UninstallTable) (s : CloneMgr) : UninstallTable :=
  if s.userInfos.isEmpty then uninstalled
  else uninstalled.insert s.info.bundleName (s.userInfos.map fun _ row => row.uid)

def restoreUidAndGid (c : Config) (hasBmsPara : Bool) (others : Others) (s : CloneMgr) : BundleIds :=
  let bundleIdMap := restoreEntries (others.before ++ cloneEntries s.info ++ others.after)
  let cursor := match persistedCursor c.ex c.baseAppUid hasBmsPara s.ids.bmsParam with
    | some persisted => persisted
    -- `rbegin()->first`
    | none => (bundleIdMap.toList.getLast?.map Prod.fst).getD c.baseAppUid.value
  ⟨restoreUidAndGidFromUninstallInfo c.ex (s.uninstallTable others.uninstalled) bundleIdMap, cursor, s.ids.bmsParam⟩

/-- `bundleInfos_` is loaded from the storage. -/
def reboot (c : Config) (hasBmsPara : Bool) (others : Others) (s : CloneMgr) : CloneMgr :=
  let s := { s with info := s.stored }
  { s with ids := s.restoreUidAndGid c hasBmsPara others }

end CloneMgr

/-! ## Runs -/

inductive Op where
  | install (userId appIndex : Int) (a : InstallAnswers)
  | uninstall (place : Place) (isKeepData : Bool) (a : UninstallAnswers)
  /-- Another application gets an id or gives it back. -/
  | other (op : BundleIdOp Unit)
  | reboot (hasBmsPara : Bool) (others : CloneMgr.Others)

def step (c : Config) (s : CloneMgr) : Op → CloneMgr
  | .install userId appIndex a => (s.processCloneBundleInstall c a userId appIndex).2.2
  | .uninstall place isKeepData a => (s.uninstallCloneApp c a place isKeepData).2
  | .other op => { s with ids := s.ids.step c.baseAppUid op }
  | .reboot hasBmsPara others => s.reboot c hasBmsPara others

end BundleFramework.CloneInstaller
