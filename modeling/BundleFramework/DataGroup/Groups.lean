import BundleFramework.DataMgr.BundleId
import BundleFramework.Lib.KeyedList
import BundleFramework.Lib.LeastFree

/-!
# Data groups

Bundles that name the same data group share a directory of their user, which belongs to a uid
of its own: user, and an index the group has in every bundle.  A group that no bundle has gets
the least index that no group has; a bundle that comes to a group, or a user that comes to a
bundle, copies what is there.  The records are kept in memory and, if the write succeeds, in
the storage.

`order` is the order in which the hash map of a record is walked, `uuidByKey` what
`GenerateUuidByKey` gives for a group on this device.
-/

namespace BundleFramework.DataGroup

open Std MapLoop KeyedList

/-! ## Records -/

structure DataGroupInfo where
  uid : Int := 0
  gid : Int := 0
  userId : Int := 0
  dataGroupId : Str := []
  uuid : Str := []
  deriving DecidableEq

def DATA_GROUP_INDEX_START : Int := 1
def DATA_GROUP_UID_OFFSET : Int := 100000

def DataGroupInfo.uniqueId (info : DataGroupInfo) : Int :=
  info.uid - info.userId * BASE_USER_RANGE - DATA_GROUP_UID_OFFSET

def groupUid (userId uniqueId : Int) : Int := userId * BASE_USER_RANGE + uniqueId + DATA_GROUP_UID_OFFSET

/-- `users` are the ones of `innerBundleUserInfos_`. -/
structure InnerBundleInfo where
  dataGroupInfos : StrMap (List DataGroupInfo) := ∅
  users : List Int := []
  needCreateEl5Dir : Bool := false
  hasInputMethodExtension : Bool := false

abbrev GroupOrder := WalkOrder Str (List DataGroupInfo)

/-- An info of the same user stays if it has the same uid and uuid, else it makes way. -/
def addInfo (infos : List DataGroupInfo) (info : DataGroupInfo) : List DataGroupInfo :=
  match infos.find? fun old => old.userId = info.userId with
  | none => infos ++ [info]
  | some old => if old.uid = info.uid ∧ old.uuid = info.uuid then infos else put DataGroupInfo.userId infos info

/-- What an update leaves of a group before the new infos are added. -/
def keptInfos (newInfos : StrMap (List DataGroupInfo)) (userIdList : List Int) (groupId : Str)
    (infos : List DataGroupInfo) : Option (List DataGroupInfo) :=
  let infos := if newInfos.contains groupId then infos
    else userIdList.foldl (fun infos userId => remove DataGroupInfo.userId userId infos) infos
  if infos.isEmpty then none else some infos

namespace InnerBundleInfo

variable (record : InnerBundleInfo)

def setGroup (dataGroupId : Str) (infos : List DataGroupInfo) : InnerBundleInfo :=
  { record with dataGroupInfos := record.dataGroupInfos.insert dataGroupId infos }

def addDataGroupInfo (dataGroupId : Str) (info : DataGroupInfo) : InnerBundleInfo :=
  match record.dataGroupInfos[dataGroupId]? with
  | none => record.setGroup dataGroupId [info]
  | some infos => record.setGroup dataGroupId (addInfo infos info)

def deleteDataGroupInfo (dataGroupId : Str) : InnerBundleInfo :=
  { record with dataGroupInfos := record.dataGroupInfos.erase dataGroupId }

def removeGroupInfos (userId : Int) (dataGroupId : Str) : InnerBundleInfo :=
  match record.dataGroupInfos[dataGroupId]? with
  | none => record
  | some infos => record.setGroup dataGroupId (remove DataGroupInfo.userId userId infos)

/-- The users of `newInfos` leave the groups that are not in it, and groups without users go. -/
def updateDataGroupInfos (order : GroupOrder) (newInfos : StrMap (List DataGroupInfo)) : InnerBundleInfo :=
  let userIdList := ((order.walk newInfos).flatMap fun item => item.2.map DataGroupInfo.userId).dedup
  let kept := { record with dataGroupInfos := record.dataGroupInfos.filterMap (keptInfos newInfos userIdList) }
  (order.walk newInfos).foldl (fun record item =>
    item.2.foldl (fun record info => record.addDataGroupInfo item.1 info) record) kept

end InnerBundleInfo

/-- A request to installd to create the directories of a user's groups. -/
structure CreateAppGroupDir where
  dataGroupInfos : List DataGroupInfo
  userId : Int
  needCreateEl5Dir : Bool
  hasInputMethodExtension : Bool
  deriving DecidableEq

/-- A request to installd to delete the directories of groups. -/
structure DeleteDataGroupDirs where
  uuidList : List Str
  userId : Int
  deriving DecidableEq

structure BundleDataMgr where
  bundleInfos : StrMap InnerBundleInfo := ∅
  storage : StrMap InnerBundleInfo := ∅

/-! ## Algorithm -/

variable (order : GroupOrder) (uuidByKey : Str → Str)

def createAppGroupDir (record : InnerBundleInfo) (userId : Int) : CreateAppGroupDir where
  dataGroupInfos := ((order.walk record.dataGroupInfos).flatMap (·.2)).filter fun info => info.userId = userId
  userId := userId
  needCreateEl5Dir := record.needCreateEl5Dir
  hasInputMethodExtension := record.hasInputMethodExtension

/-- The info of a group that has its index. -/
def numberedInfo (groupId : Str) (userId uniqueId : Int) (uuid : Str) : DataGroupInfo where
  uid := groupUid userId uniqueId
  gid := groupUid userId uniqueId
  userId := userId
  dataGroupId := groupId
  uuid := uuid

def createNewDataGroupInfo (groupId : Str) (userId : Int) (oldDataGroupInfo : DataGroupInfo) : DataGroupInfo :=
  numberedInfo groupId userId oldDataGroupInfo.uniqueId oldDataGroupInfo.uuid

/-- The loop over a copy of a record's groups: each is added for the user, as its first info has it. -/
def addGroupsOf (dataGroupInfos : StrMap (List DataGroupInfo)) (record : InnerBundleInfo) (userId : Int) :
    InnerBundleInfo :=
  (order.walk dataGroupInfos).foldl (fun record dataItem =>
    match dataItem.2 with
    | [] => record
    | first :: _ => record.addDataGroupInfo dataItem.1 (createNewDataGroupInfo dataItem.1 userId first)) record

/-- Every user takes the groups from the copy that is made before the loops. -/
def processAllUserDataGroupInfosWhenBundleUpdate (record : InnerBundleInfo) : InnerBundleInfo :=
  record.users.foldl (addGroupsOf order record.dataGroupInfos) record

/-- All infos of all bundles, as the loops of `GetDataGroupIndexMap` meet them. -/
def allInfos (bundleInfos : StrMap InnerBundleInfo) : List DataGroupInfo :=
  bundleInfos.toList.flatMap fun bundleInfo => (order.walk bundleInfo.2.dataGroupInfos).flatMap (·.2)

def indexStep (acc : StrMap (Int × Str) × ExtTreeSet Int) (dataGroupInfo : DataGroupInfo) :
    StrMap (Int × Str) × ExtTreeSet Int :=
  (acc.1.insert dataGroupInfo.dataGroupId (dataGroupInfo.uniqueId, dataGroupInfo.uuid),
    acc.2.insert dataGroupInfo.uniqueId)

def getDataGroupIndexMap (bundleInfos : StrMap InnerBundleInfo) : StrMap (Int × Str) × ExtTreeSet Int :=
  (allInfos order bundleInfos).foldl indexStep (∅, ∅)

/-- The info is left as it is if all indexes are taken. -/
def generateDataGroupUuidAndUid (dataGroupInfo : DataGroupInfo) (userId : Int) (uniqueIdSet : ExtTreeSet Int) :
    DataGroupInfo × ExtTreeSet Int :=
  match LeastFree.search uniqueIdSet.contains (DATA_GROUP_UID_OFFSET - DATA_GROUP_INDEX_START).toNat
      DATA_GROUP_INDEX_START with
  | none => (dataGroupInfo, uniqueIdSet)
  | some uniqueId =>
    ({ dataGroupInfo with
        uid := groupUid userId uniqueId
        gid := groupUid userId uniqueId
        uuid := uuidByKey dataGroupInfo.dataGroupId }, uniqueIdSet.insert uniqueId)

/-- One round of the loop over the requested groups. -/
def generateStep (dataGroupIndexMap : StrMap (Int × Str)) (userId : Int)
    (acc : InnerBundleInfo × ExtTreeSet Int) (groupId : Str) : InnerBundleInfo × ExtTreeSet Int :=
  match dataGroupIndexMap[groupId]? with
  | some (index, uuid) => (acc.1.addDataGroupInfo groupId (numberedInfo groupId userId index uuid), acc.2)
  | none =>
    let (dataGroupInfo, uniqueIdSet) :=
      generateDataGroupUuidAndUid uuidByKey { dataGroupId := groupId, userId := userId } userId acc.2
    (acc.1.addDataGroupInfo groupId dataGroupInfo, uniqueIdSet)

namespace BundleDataMgr

variable (mgr : BundleDataMgr)

def setRecord (bundleName : Str) (record : InnerBundleInfo) : BundleDataMgr :=
  { mgr with bundleInfos := mgr.bundleInfos.insert bundleName record }

/-- `saveOk` is whether the database takes the row. -/
def saveStorageBundleInfo (saveOk : Bool) (bundleName : Str) (record : InnerBundleInfo) : BundleDataMgr :=
  if saveOk then { mgr with storage := mgr.storage.insert bundleName record } else mgr

/-- The record is saved as it is now. -/
def saveCurrent (saveOk : Bool) (bundleName : Str) : BundleDataMgr :=
  match mgr.bundleInfos[bundleName]? with
  | none => mgr
  | some record => mgr.saveStorageBundleInfo saveOk bundleName record

/-- Groups that are not requested any more. -/
def dropGroups (dataGroupIdList : List Str) (record : InnerBundleInfo) : InnerBundleInfo :=
  (order.walk record.dataGroupInfos).foldl (fun record dataItem =>
    if dataItem.1 ∈ dataGroupIdList then record else record.deleteDataGroupInfo dataItem.1) record

/-- `dataGroupIdList` is a set, listed in the order of its loop. -/
def generateDataGroupInfos (saveOk : Bool) (bundleName : Str) (dataGroupIdList : List Str) (userId : Int)
    (needSaveStorage : Bool) : BundleDataMgr × List CreateAppGroupDir :=
  match mgr.bundleInfos[bundleName]? with
  | none => (mgr, [])
  | some record =>
    let record := dropGroups order dataGroupIdList record
    let mgr := mgr.setRecord bundleName record
    -- the row in the storage keeps the groups here
    if dataGroupIdList.isEmpty then (mgr, [])
    else
      let (dataGroupIndexMap, uniqueIdSet) := getDataGroupIndexMap order mgr.bundleInfos
      let record := (dataGroupIdList.foldl (generateStep uuidByKey dataGroupIndexMap userId) (record, uniqueIdSet)).1
      let record := processAllUserDataGroupInfosWhenBundleUpdate order record
      let mgr := mgr.setRecord bundleName record
      let mgr := if needSaveStorage then mgr.saveStorageBundleInfo saveOk bundleName record else mgr
      (mgr, record.users.map (createAppGroupDir order record))

def generateNewUserDataGroupInfos (saveOk : Bool) (bundleName : Str) (userId : Int) :
    BundleDataMgr × List CreateAppGroupDir :=
  match mgr.bundleInfos[bundleName]? with
  | none => (mgr, [])
  | some record =>
    if record.dataGroupInfos.isEmpty then (mgr, [])
    else
      let record := addGroupsOf order record.dataGroupInfos record userId
      ((mgr.setRecord bundleName record).saveStorageBundleInfo saveOk bundleName record,
        [createAppGroupDir order record userId])

/-- Whether some bundle has the group for the user. -/
def isDataGroupIdExistNoLock (dataGroupId : Str) (userId : Int) : Bool :=
  mgr.bundleInfos.toList.any fun info =>
    (info.2.dataGroupInfos[dataGroupId]?.getD []).any fun dataGroupInfo => dataGroupInfo.userId = userId

/-- One round of the loop that takes the user out: the manager, and the uuids of groups nobody has any more. -/
def deleteStep (bundleName : Str) (userId : Int) (keepData : Bool) (acc : BundleDataMgr × List Str)
    (dataItem : Str × List DataGroupInfo) : BundleDataMgr × List Str :=
  match dataItem.2, acc.1.bundleInfos[bundleName]? with
  | first :: _, some record =>
    let mgr := acc.1.setRecord bundleName (record.removeGroupInfos userId dataItem.1)
    (mgr, if !keepData && !mgr.isDataGroupIdExistNoLock dataItem.1 userId then acc.2 ++ [first.uuid] else acc.2)
  | _, _ => acc

def deleteUserDataGroupInfos (saveOk : Bool) (bundleName : Str) (userId : Int) (keepData : Bool) :
    BundleDataMgr × Option DeleteDataGroupDirs :=
  match mgr.bundleInfos[bundleName]? with
  | none => (mgr, none)
  | some record =>
    if record.dataGroupInfos.isEmpty then (mgr, none)
    else
      let (mgr, uuidList) := (order.walk record.dataGroupInfos).foldl (deleteStep bundleName userId keepData) (mgr, [])
      (mgr.saveCurrent saveOk bundleName, some { uuidList := uuidList, userId := userId })

end BundleDataMgr

end BundleFramework.DataGroup
