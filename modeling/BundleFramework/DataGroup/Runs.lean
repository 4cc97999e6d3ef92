import BundleFramework.DataGroup.Scan
import BundleFramework.DataMgr.Uid

/-!
# Runs over data groups

Bundles are installed, updated and removed, their groups generated and users added and deleted,
rows written or lost, and the device rebooted at any time, which brings back the rows; only the
boot of an upgraded system scans them.  All along the uid of a group's info names the user and the
group (`uid_identifies_group`), as long as there are not more groups than indexes and a boot
without a scan finds no row that holds what memory has given up: such a row comes from a write that
is lost, and from the request for no groups, after which the row is not written.
-/

namespace BundleFramework.DataGroup

open Std MapLoop KeyedList StepRun

/-! ## Steps -/

/-- `fetched` are the copies that the installers at work have taken of the records of their bundles. -/
structure State where
  mgr : BundleDataMgr := {}
  fetched : StrMap InnerBundleInfo := ∅

inductive Op where
  /-- A new bundle has no groups yet. -/
  | install (saveOk : Bool) (bundleName : Str) (users : List Int) (needCreateEl5Dir hasInputMethodExtension : Bool)
  /-- Users are added or removed. -/
  | setUsers (saveOk : Bool) (bundleName : Str) (users : List Int)
  | generate (saveOk : Bool) (bundleName : Str) (dataGroupIdList : List Str) (userId : Int) (needSaveStorage : Bool)
  | newUser (saveOk : Bool) (bundleName : Str) (userId : Int)
  | deleteUser (saveOk : Bool) (bundleName : Str) (userId : Int) (keepData : Bool)
  | update (saveOk : Bool) (bundleName : Str) (newInfos : StrMap (List DataGroupInfo))
  | fetch (bundleName : Str)
  /-- The copy is written as it is. -/
  | saveFetched (saveOk : Bool) (bundleName : Str)
  | uninstall (deleteOk : Bool) (bundleName : Str)
  | reboot
  /-- `ScanAllBundleGroupInfo`, at the end of an upgrade. -/
  | scan (saveOk : Str → Bool)
  /-- The boot of an upgraded system, if no bundle is changed before the scan. -/
  | upgrade (saveOk : Str → Bool)

/-- The requests to installd that an operation leaves, to be made when the lock is released. -/
inductive Job where
  | create (request : CreateAppGroupDir)
  | delete (request : DeleteDataGroupDirs)
  deriving DecidableEq

variable (order : GroupOrder) (uuidByKey : Str → Str)

/-- A record that is changed in memory, then in the storage. -/
def State.write (s : State) (saveOk : Bool) (bundleName : Str) (record : InnerBundleInfo) : State :=
  { s with mgr := (s.mgr.setRecord bundleName record).saveStorageBundleInfo saveOk bundleName record }

def run (s : State) : Op → State × List Job
  | .install saveOk bundleName users needCreateEl5Dir hasInputMethodExtension =>
    (s.write saveOk bundleName
      { users := users
        needCreateEl5Dir := needCreateEl5Dir
        hasInputMethodExtension := hasInputMethodExtension }, [])
  | .setUsers saveOk bundleName users =>
    match s.mgr.bundleInfos[bundleName]? with
    | none => (s, [])
    | some record => (s.write saveOk bundleName { record with users := users }, [])
  | .generate saveOk bundleName dataGroupIdList userId needSaveStorage =>
    let (mgr, requests) :=
      s.mgr.generateDataGroupInfos order uuidByKey saveOk bundleName dataGroupIdList userId needSaveStorage
    ({ s with mgr := mgr }, requests.map .create)
  | .newUser saveOk bundleName userId =>
    let (mgr, requests) := s.mgr.generateNewUserDataGroupInfos order saveOk bundleName userId
    ({ s with mgr := mgr }, requests.map .create)
  | .deleteUser saveOk bundleName userId keepData =>
    let (mgr, request) := s.mgr.deleteUserDataGroupInfos order saveOk bundleName userId keepData
    ({ s with mgr := mgr }, request.toList.map .delete)
  | .update saveOk bundleName newInfos =>
    match s.mgr.bundleInfos[bundleName]? with
    | none => (s, [])
    | some record => (s.write saveOk bundleName (record.updateDataGroupInfos order newInfos), [])
  | .fetch bundleName =>
    match s.mgr.bundleInfos[bundleName]? with
    | none => (s, [])
    | some record => ({ s with fetched := s.fetched.insert bundleName record }, [])
  | .saveFetched saveOk bundleName =>
    match s.fetched[bundleName]? with
    | none => (s, [])
    | some record => ({ s with mgr := s.mgr.saveStorageBundleInfo saveOk bundleName record }, [])
  | .uninstall deleteOk bundleName =>
    ({ s with mgr :=
        { bundleInfos := s.mgr.bundleInfos.erase bundleName
          storage := if deleteOk then s.mgr.storage.erase bundleName else s.mgr.storage } }, [])
  | .reboot => ({ mgr := { s.mgr with bundleInfos := s.mgr.storage }, fetched := ∅ }, [])
  | .scan saveOk => ({ s with mgr := (scanAllBundleGroupInfo order saveOk s.mgr).1 }, [])
  | .upgrade saveOk =>
    ({ mgr := (scanAllBundleGroupInfo order saveOk { s.mgr with bundleInfos := s.mgr.storage }).1, fetched := ∅ }, [])

def step (s : State) (op : Op) : State := (run order uuidByKey s op).1

/-- There are indexes for the groups of all bundles and the requested ones. -/
def Room (bundleInfos : StrMap InnerBundleInfo) (dataGroupIdList : List Str) : Prop :=
  (groupIds bundleInfos ++ dataGroupIdList).toFinset.card ≤ (DATA_GROUP_UID_OFFSET - DATA_GROUP_INDEX_START).toNat

instance (bundleInfos : StrMap InnerBundleInfo) (dataGroupIdList : List Str) :
    Decidable (Room bundleInfos dataGroupIdList) := inferInstanceAs (Decidable (_ ≤ _))

/-- The requested groups are a set for which there is room, an update brings no groups, or those that
the bundle has, and at a boot the rows hold what memory holds, or are scanned. -/
def Op.Ok (s : State) : Op → Prop
  | .generate _ _ dataGroupIdList _ _ => dataGroupIdList.Nodup ∧ Room s.mgr.bundleInfos dataGroupIdList
  | .update _ bundleName newInfos => ∀ record ∈ s.mgr.bundleInfos[bundleName]?,
      newInfos = ∅ ∨ newInfos = record.dataGroupInfos
  | .reboot => ∀ info ∈ heldInfos s.mgr.storage, info ∈ heldInfos s.mgr.bundleInfos
  | .upgrade _ => Room s.mgr.storage [] ∧ AllOfUsers s.mgr.storage
  | _ => True

/-! ## Invariant -/

variable {uuidByKey : Str → Str} {number : Str → Option Int} {record : InnerBundleInfo} {groupId : Str}
  {userId : Int} {info : DataGroupInfo} {infos : List DataGroupInfo} {users : List Int}
  {bundleInfos : StrMap InnerBundleInfo}

variable (uuidByKey) in
/-- All records in memory agree; rows and copies may be of different times, but each is of one. -/
structure Inv (s : State) : Prop where
  memory : ∃ number, Indexes number ∧ AllNumbered uuidByKey number s.mgr.bundleInfos
  storage : EachNumbered uuidByKey s.mgr.storage
  fetched : EachNumbered uuidByKey s.fetched

theorem wellNumbered_empty (h : record.dataGroupInfos = ∅) : WellNumbered uuidByKey number record := by
  intro groupId infos hget
  rw [h, ExtTreeMap.getElem?_empty] at hget
  cases hget

theorem Inv.write {s : State} (h : Inv uuidByKey s) (saveOk : Bool) (bundleName : Str)
    (hnumber : Indexes number) (hall : AllNumbered uuidByKey number s.mgr.bundleInfos)
    (hrecord : WellNumbered uuidByKey number record) : Inv uuidByKey (s.write saveOk bundleName record) := by
  refine ⟨⟨number, hnumber, ?_⟩, ?_, h.fetched⟩
  · unfold State.write
    simp only
    rw [saveStorageBundleInfo_bundleInfos]
    exact hall.insert hrecord bundleName
  · exact h.storage.saveStorage (s.mgr.setRecord bundleName record) hnumber hrecord

theorem dropGroups_spec (h : WellNumbered uuidByKey number record) (ids : List Str) :
    WellNumbered uuidByKey number (BundleDataMgr.dropGroups order ids record) ∧
      ∀ (groupId : Str) (infos : List DataGroupInfo),
        (BundleDataMgr.dropGroups order ids record).dataGroupInfos[groupId]? = some infos →
          record.dataGroupInfos[groupId]? = some infos := by
  unfold BundleDataMgr.dropGroups
  refine List.foldlRecOn (motive := fun r : InnerBundleInfo => WellNumbered uuidByKey number r ∧
    ∀ (groupId : Str) (infos : List DataGroupInfo), r.dataGroupInfos[groupId]? = some infos →
      record.dataGroupInfos[groupId]? = some infos) _ _ ⟨h, fun _ _ hget => hget⟩ ?_
  rintro r ⟨hr, hsub⟩ item -
  split
  · exact ⟨hr, hsub⟩
  · refine ⟨hr.deleteDataGroupInfo item.1, fun groupId infos hget => ?_⟩
    rw [show (r.deleteDataGroupInfo item.1).dataGroupInfos = r.dataGroupInfos.erase item.1 from rfl,
      getElem?_erase_eq] at hget
    split at hget
    · cases hget
    · exact hsub groupId infos hget

theorem keptInfos_sublist {newInfos : StrMap (List DataGroupInfo)} {userIdList : List Int} {infos' : List DataGroupInfo}
    (h : keptInfos newInfos userIdList groupId infos = some infos') : infos'.Sublist infos := by
  have hsub : (if newInfos.contains groupId then infos
      else userIdList.foldl (fun infos userId => remove DataGroupInfo.userId userId infos) infos).Sublist infos := by
    split
    · exact List.Sublist.refl _
    · exact List.foldlRecOn (motive := fun l : List DataGroupInfo => l.Sublist infos) userIdList _ (.refl _)
        fun l hl userId _ => List.eraseP_sublist.trans hl
  unfold keptInfos at h
  simp only at h
  rw [Option.ite_none_left_eq_some] at h
  rw [← Option.some.inj h.2]
  exact hsub

theorem WellNumbered.update (h : WellNumbered uuidByKey number record) {newInfos : StrMap (List DataGroupInfo)}
    (hnew : ∀ groupId infos, newInfos[groupId]? = some infos → GroupOk uuidByKey number groupId infos) :
    WellNumbered uuidByKey number (record.updateDataGroupInfos order newInfos) := by
  unfold InnerBundleInfo.updateDataGroupInfos
  simp only
  generalize ((order.walk newInfos).flatMap fun item => item.2.map DataGroupInfo.userId).dedup = userIdList
  have hkept : WellNumbered uuidByKey number
      { record with dataGroupInfos := record.dataGroupInfos.filterMap (keptInfos newInfos userIdList) } := by
    intro groupId infos hget
    simp only at hget
    rw [ExtTreeMap.getElem?_filterMap'] at hget
    obtain ⟨infos₀, hget₀, hkeep⟩ := Option.bind_eq_some_iff.mp hget
    exact (h groupId infos₀ hget₀).subset (keptInfos_sublist hkeep)
  refine List.foldlRecOn (motive := WellNumbered uuidByKey number) (order.walk newInfos) _ hkept ?_
  rintro r hr ⟨groupId, infos⟩ hitem
  have hinfos := hnew groupId infos (order.mem_iff.mp hitem)
  exact List.foldlRecOn (motive := WellNumbered uuidByKey number) infos _ hr
    fun r hr info hinfo => hr.addDataGroupInfo (hinfos.ofGroup info hinfo)

/-! ## Operations -/

variable {mgr : BundleDataMgr} {bundleName : Str}

theorem groupIds_insert_subset {record' : InnerBundleInfo} (hget : bundleInfos[bundleName]? = some record)
    (hsub : ∀ (groupId : Str) (infos : List DataGroupInfo), record'.dataGroupInfos[groupId]? = some infos →
      record.dataGroupInfos[groupId]? = some infos) :
    groupIds (bundleInfos.insert bundleName record') ⊆ groupIds bundleInfos := by
  intro groupId hmem
  obtain ⟨name, r, infos, hr, hinfos⟩ := mem_groupIds.mp hmem
  rw [getElem?_insert_eq] at hr
  split at hr
  · cases hr
    exact mem_groupIds.mpr ⟨bundleName, record, infos, hget, hsub groupId infos hinfos⟩
  · exact mem_groupIds.mpr ⟨name, r, infos, hr, hinfos⟩

/-- What an operation may do to the manager: the record of one bundle, well numbered for a numbering that
all bundles follow, and perhaps its row. -/
structure Renewed (uuidByKey : Str → Str) (mgr mgr' : BundleDataMgr) : Prop where
  memory : ∃ number, Indexes number ∧ AllNumbered uuidByKey number mgr'.bundleInfos
  storage : EachNumbered uuidByKey mgr.storage → EachNumbered uuidByKey mgr'.storage

theorem generateDataGroupInfos_spec {saveOk needSaveStorage : Bool} {ids : List Str}
    (hnumber : Indexes number) (h : AllNumbered uuidByKey number mgr.bundleInfos) (hnodup : ids.Nodup)
    (hroom : Room mgr.bundleInfos ids) :
    Renewed uuidByKey mgr
      (mgr.generateDataGroupInfos order uuidByKey saveOk bundleName ids userId needSaveStorage).1 := by
  unfold BundleDataMgr.generateDataGroupInfos
  split
  · exact ⟨⟨number, hnumber, h⟩, id⟩
  · next record hget =>
    obtain ⟨hdropped, hsub⟩ := dropGroups_spec order (h bundleName record hget) ids
    generalize BundleDataMgr.dropGroups order ids record = dropped at hdropped hsub
    have hall : AllNumbered uuidByKey number (mgr.bundleInfos.insert bundleName dropped) := h.insert hdropped bundleName
    simp only
    split
    · exact ⟨⟨number, hnumber, hall⟩, id⟩
    · have hindex := getDataGroupIndexMap_spec order hnumber hall
      have hkeys : ∀ groupId, groupId ∈ groupIds (mgr.bundleInfos.insert bundleName dropped) ∨ groupId ∈ ids →
          groupId ∈ (groupIds mgr.bundleInfos ++ ids).toFinset := by
        rintro groupId (hmem | hmem)
        · exact List.mem_toFinset.mpr (List.mem_append_left _ (groupIds_insert_subset hget hsub hmem))
        · exact List.mem_toFinset.mpr (List.mem_append_right _ hmem)
      have hloop := generateLoop_spec userId ids hnodup hindex.indexes hindex.set
        (fun _ _ => rfl) hindex.uuid (fun groupId i hi => hkeys groupId (.inl (hindex.used groupId i hi)))
        (fun groupId hmem => hkeys groupId (.inr hmem)) hroom
        (hindex.numbered bundleName dropped ((getElem?_insert_eq ..).trans (if_pos rfl)))
      obtain ⟨number', hnumber', hle, hwell⟩ := hloop
      have hfinal := hwell.processAllUser order
      have hmemory : AllNumbered uuidByKey number' ((mgr.bundleInfos.insert bundleName dropped).insert bundleName
          (processAllUserDataGroupInfosWhenBundleUpdate order _)) :=
        (hindex.numbered.mono hle).insert hfinal bundleName
      split
      · refine ⟨⟨number', hnumber', ?_⟩, fun hstorage => ?_⟩
        · rw [saveStorageBundleInfo_bundleInfos]
          exact hmemory
        · exact hstorage.saveStorage ((mgr.setRecord bundleName dropped).setRecord bundleName _) hnumber' hfinal
      · exact ⟨⟨number', hnumber', hmemory⟩, id⟩

theorem generateNewUserDataGroupInfos_spec {saveOk : Bool} (hnumber : Indexes number)
    (h : AllNumbered uuidByKey number mgr.bundleInfos) :
    Renewed uuidByKey mgr (mgr.generateNewUserDataGroupInfos order saveOk bundleName userId).1 := by
  unfold BundleDataMgr.generateNewUserDataGroupInfos
  split
  · exact ⟨⟨number, hnumber, h⟩, id⟩
  · next record hget =>
    split
    · exact ⟨⟨number, hnumber, h⟩, id⟩
    · have hrecord := h bundleName record hget
      have hadded := hrecord.addGroupsOf order (fun groupId infos hinfos => (hrecord groupId infos hinfos).ofGroup)
        userId
      refine ⟨⟨number, hnumber, ?_⟩, fun hstorage => ?_⟩
      · rw [saveStorageBundleInfo_bundleInfos]
        exact h.insert hadded bundleName
      · exact hstorage.saveStorage (mgr.setRecord bundleName _) hnumber hadded

theorem deleteStep_spec (bundleName : Str) (userId : Int) (keepData : Bool) {acc : BundleDataMgr × List Str} (item : Str × List DataGroupInfo)
    (h : AllNumbered uuidByKey number acc.1.bundleInfos) :
    AllNumbered uuidByKey number (BundleDataMgr.deleteStep bundleName userId keepData acc item).1.bundleInfos ∧
      (BundleDataMgr.deleteStep bundleName userId keepData acc item).1.storage = acc.1.storage := by
  unfold BundleDataMgr.deleteStep
  split
  · next record _ hget => exact ⟨h.insert ((h bundleName record hget).removeGroupInfos userId item.1) bundleName, rfl⟩
  · exact ⟨h, rfl⟩

theorem deleteUserDataGroupInfos_spec {saveOk keepData : Bool} (hnumber : Indexes number)
    (h : AllNumbered uuidByKey number mgr.bundleInfos) :
    Renewed uuidByKey mgr (mgr.deleteUserDataGroupInfos order saveOk bundleName userId keepData).1 := by
  unfold BundleDataMgr.deleteUserDataGroupInfos
  split
  · exact ⟨⟨number, hnumber, h⟩, id⟩
  · next record hget =>
    split
    · exact ⟨⟨number, hnumber, h⟩, id⟩
    · have hloop : ∀ items : List (Str × List DataGroupInfo),
          AllNumbered uuidByKey number
              (items.foldl (BundleDataMgr.deleteStep bundleName userId keepData) (mgr, [])).1.bundleInfos ∧
            (items.foldl (BundleDataMgr.deleteStep bundleName userId keepData) (mgr, [])).1.storage = mgr.storage := by
        intro items
        refine List.foldlRecOn (motive := fun acc : BundleDataMgr × List Str =>
          AllNumbered uuidByKey number acc.1.bundleInfos ∧ acc.1.storage = mgr.storage) items _ ⟨h, rfl⟩ ?_
        rintro acc ⟨hacc, hstorage⟩ item -
        obtain ⟨hnext, hsame⟩ := deleteStep_spec bundleName userId keepData item hacc
        exact ⟨hnext, hsame.trans hstorage⟩
      obtain ⟨hmemory, hsame⟩ := hloop (order.walk record.dataGroupInfos)
      simp only
      generalize (order.walk record.dataGroupInfos).foldl (BundleDataMgr.deleteStep bundleName userId keepData)
        (mgr, []) = acc at hmemory hsame ⊢
      refine ⟨⟨number, hnumber, ?_⟩, fun hstorage => ?_⟩
      · rw [saveCurrent_bundleInfos]
        exact hmemory
      · unfold BundleDataMgr.saveCurrent
        rw [← hsame] at hstorage
        split
        · exact hstorage
        · next record' hget' => exact hstorage.saveStorage acc.1 hnumber (hmemory bundleName record' hget')

theorem Inv.renew {s : State} {mgr' : BundleDataMgr} (h : Inv uuidByKey s) (hmgr : Renewed uuidByKey s.mgr mgr') :
    Inv uuidByKey { s with mgr := mgr' } := ⟨hmgr.memory, hmgr.storage h.storage, h.fetched⟩

theorem AllNumbered.erase (h : AllNumbered uuidByKey number bundleInfos) (name : Str) :
    AllNumbered uuidByKey number (bundleInfos.erase name) := by
  intro name' record hget
  rw [getElem?_erase_eq] at hget
  split at hget
  · cases hget
  · exact h name' record hget

theorem EachNumbered.erase (h : EachNumbered uuidByKey bundleInfos) (name : Str) :
    EachNumbered uuidByKey (bundleInfos.erase name) := by
  intro name' record hget
  rw [getElem?_erase_eq] at hget
  split at hget
  · cases hget
  · exact h name' record hget

theorem eachNumbered_empty : EachNumbered uuidByKey ∅ := by
  intro name record hget
  rw [ExtTreeMap.getElem?_empty] at hget
  cases hget

/-- Rows that hold what memory holds follow its numbering. -/
theorem EachNumbered.of_held {rows : StrMap InnerBundleInfo} (h : EachNumbered uuidByKey rows)
    (hall : AllNumbered uuidByKey number bundleInfos)
    (hheld : ∀ info ∈ heldInfos rows, info ∈ heldInfos bundleInfos) : AllNumbered uuidByKey number rows := by
  intro name record hrecord groupId infos hinfos
  obtain ⟨own, -, hwell⟩ := h name record hrecord
  refine ⟨(hwell groupId infos hinfos).distinct, fun info hmem => ?_⟩
  obtain ⟨name', record', groupId', infos', hrecord', hinfos', hmem'⟩ :=
    mem_heldInfos.mp (hheld info (mem_heldInfos.mpr ⟨name, record, groupId, infos, hrecord, hinfos, hmem⟩))
  have hof := (hall name' record' hrecord' groupId' infos' hinfos').ofGroup info hmem'
  -- the info says itself which group it is of
  have hsame : groupId' = groupId :=
    hof.dataGroupId.symm.trans ((hwell groupId infos hinfos).ofGroup info hmem).dataGroupId
  exact hsame ▸ hof

/-- **One operation.** -/
theorem Inv.step {s : State} {op : Op} (h : Inv uuidByKey s) (hok : op.Ok s) :
    Inv uuidByKey (step order uuidByKey s op) := by
  obtain ⟨number, hnumber, hall⟩ := h.memory
  unfold DataGroup.step run
  cases op with
  | install saveOk bundleName users needCreateEl5Dir hasInputMethodExtension =>
    exact h.write saveOk bundleName hnumber hall (wellNumbered_empty rfl)
  | setUsers saveOk bundleName users =>
    simp only
    split
    · exact h
    · next record hget => exact h.write saveOk bundleName hnumber hall (hall bundleName record hget)
  | generate saveOk bundleName ids userId needSaveStorage =>
    exact h.renew (generateDataGroupInfos_spec order hnumber hall hok.1 hok.2)
  | newUser saveOk bundleName userId => exact h.renew (generateNewUserDataGroupInfos_spec order hnumber hall)
  | deleteUser saveOk bundleName userId keepData => exact h.renew (deleteUserDataGroupInfos_spec order hnumber hall)
  | update saveOk bundleName newInfos =>
    simp only
    split
    · exact h
    · next record hget =>
      have hrecord := hall bundleName record hget
      refine h.write saveOk bundleName hnumber hall (hrecord.update order fun groupId infos hinfos => ?_)
      rcases hok record hget with rfl | rfl
      · rw [ExtTreeMap.getElem?_empty] at hinfos
        cases hinfos
      · exact hrecord groupId infos hinfos
  | fetch bundleName =>
    simp only
    split
    · exact h
    · next record hget => exact ⟨h.memory, h.storage, h.fetched.insert hnumber (hall bundleName record hget)⟩
  | saveFetched saveOk bundleName =>
    simp only
    split
    · exact h
    · next record hget =>
      obtain ⟨own, hown, hrecord⟩ := h.fetched bundleName record hget
      refine ⟨⟨number, hnumber, ?_⟩, h.storage.saveStorage s.mgr hown hrecord, h.fetched⟩
      rw [saveStorageBundleInfo_bundleInfos]
      exact hall
  | uninstall deleteOk bundleName =>
    refine ⟨⟨number, hnumber, hall.erase bundleName⟩, ?_, h.fetched⟩
    simp only
    split
    · exact h.storage.erase bundleName
    · exact h.storage
  | reboot =>
    exact ⟨⟨number, hnumber, h.storage.of_held hall hok⟩, h.storage, eachNumbered_empty⟩
  | scan saveOk =>
    simp only
    rw [scan_of_numbered order saveOk s.mgr hnumber hall]
    exact h
  | upgrade saveOk =>
    have hroom : (groupIds s.mgr.storage).toFinset.card ≤ (DATA_GROUP_UID_OFFSET - DATA_GROUP_INDEX_START).toNat := by
      have hroom := hok.1
      unfold Room at hroom
      rwa [List.append_nil] at hroom
    obtain ⟨hmemory, hstorage⟩ := scanAllBundleGroupInfo_spec order saveOk
      { s.mgr with bundleInfos := s.mgr.storage } h.storage hok.2 h.storage hroom
    exact ⟨hmemory, hstorage, eachNumbered_empty⟩

theorem inv_empty : Inv uuidByKey {} :=
  ⟨⟨fun _ => none, ⟨nofun, nofun, nofun⟩, fun name record hget => by
    rw [ExtTreeMap.getElem?_empty] at hget
    cases hget⟩, eachNumbered_empty, eachNumbered_empty⟩

/-! ## What a uid says -/

/-- The info stands in the record of a bundle, under a group. -/
def Holds (bundleInfos : StrMap InnerBundleInfo) (groupId : Str) (info : DataGroupInfo) : Prop :=
  ∃ (name : Str) (record : InnerBundleInfo) (infos : List DataGroupInfo), bundleInfos[name]? = some record ∧
    record.dataGroupInfos[groupId]? = some infos ∧ info ∈ infos

/-- The uid names user and group, the group its uuid, and no application has the uid. -/
def Identified (uuidByKey : Str → Str) (bundleInfos : StrMap InnerBundleInfo) : Prop :=
  (∀ groupId info groupId' info', Holds bundleInfos groupId info → Holds bundleInfos groupId' info' →
    (info.uid = info'.uid ↔ groupId = groupId' ∧ info.userId = info'.userId)) ∧
  ∀ groupId info, Holds bundleInfos groupId info → info.dataGroupId = groupId ∧ info.gid = info.uid ∧
    info.uuid = uuidByKey groupId ∧ info.uid / BASE_USER_RANGE = info.userId ∧
    MAX_APP_UID < info.uid % BASE_USER_RANGE

theorem identified_of_numbered (hnumber : Indexes number) (h : AllNumbered uuidByKey number bundleInfos) :
    Identified uuidByKey bundleInfos := by
  have hof : ∀ groupId info, Holds bundleInfos groupId info → OfGroup uuidByKey number groupId info := by
    rintro groupId info ⟨name, record, infos, hrecord, hinfos, hmem⟩
    exact (h name record hrecord groupId infos hinfos).ofGroup info hmem
  have hrange : ∀ groupId info, Holds bundleInfos groupId info → 1 ≤ info.uniqueId ∧ info.uniqueId < 100000 := by
    intro groupId info hholds
    have hnum := (hof groupId info hholds).number
    exact ⟨hnumber.lower hnum, hnumber.upper hnum⟩
  have huid : ∀ info : DataGroupInfo, info.uid = info.userId * 200000 + info.uniqueId + 100000 := fun info =>
    (groupUid_uniqueId info).symm
  constructor
  · intro groupId info groupId' info' hholds hholds'
    have hr := hrange groupId info hholds
    have hr' := hrange groupId' info' hholds'
    have hu := huid info
    have hu' := huid info'
    constructor
    · intro heq
      have huser : info.userId = info'.userId := by omega
      have hid : info.uniqueId = info'.uniqueId := by omega
      refine ⟨hnumber.injective (hof groupId info hholds).number ?_, huser⟩
      rw [hid]
      exact (hof groupId' info' hholds').number
    · rintro ⟨rfl, huser⟩
      have hid : info.uniqueId = info'.uniqueId :=
        Option.some.inj ((hof groupId info hholds).number.symm.trans (hof groupId info' hholds').number)
      rw [hu, hu', huser, hid]
  · intro groupId info hholds
    have hinfo := hof groupId info hholds
    have hr := hrange groupId info hholds
    have hu := huid info
    refine ⟨hinfo.dataGroupId, hinfo.gid, hinfo.uuid, ?_, ?_⟩
    · unfold BASE_USER_RANGE
      omega
    · unfold MAX_APP_UID BASE_USER_RANGE
      omega

/-- **After a scan the uids name the groups again**, whatever rows of different times there are, and a
further scan has nothing to do: if there is room, and no row has infos of users that its bundle has not. -/
theorem scan_identifies (saveOk saveOk' : Str → Bool) {rows : StrMap InnerBundleInfo}
    (h : EachNumbered uuidByKey rows) (hroom : Room rows []) (husers : AllOfUsers rows) :
    Identified uuidByKey (scanAllBundleGroupInfo order saveOk ⟨rows, rows⟩).1.bundleInfos ∧
      EachNumbered uuidByKey (scanAllBundleGroupInfo order saveOk ⟨rows, rows⟩).1.storage ∧
      scanAllBundleGroupInfo order saveOk' (scanAllBundleGroupInfo order saveOk ⟨rows, rows⟩).1 =
        ((scanAllBundleGroupInfo order saveOk ⟨rows, rows⟩).1, true) := by
  unfold Room at hroom
  rw [List.append_nil] at hroom
  obtain ⟨⟨number, hnumber, hall⟩, hstorage⟩ := scanAllBundleGroupInfo_spec order saveOk ⟨rows, rows⟩ h husers h hroom
  exact ⟨identified_of_numbered hnumber hall, hstorage, scan_of_numbered order saveOk' _ hnumber hall⟩

/-- Rows in which two groups have one index. -/
def clashingRows : StrMap InnerBundleInfo :=
  ((∅ : StrMap InnerBundleInfo).insert "a".toList
    (({ users := [100] } : InnerBundleInfo).addDataGroupInfo "g".toList (numberedInfo "g".toList 100 1 "g".toList))).insert
    "b".toList
    (({ users := [100] } : InnerBundleInfo).addDataGroupInfo "h".toList (numberedInfo "h".toList 100 1 "h".toList))

/-- A record with one group of index 1. -/
theorem wellNumbered_single (groupId : Str) : ∃ own, Indexes own ∧ WellNumbered id own
    (({ users := [100] } : InnerBundleInfo).addDataGroupInfo groupId (numberedInfo groupId 100 1 groupId)) := by
  refine ⟨fun g => if g = groupId then some 1 else none, ⟨?_, ?_, ?_⟩, ?_⟩
  · intro g i hi
    split at hi
    · cases hi
      decide
    · cases hi
  · intro g i hi
    split at hi
    · cases hi
      decide
    · cases hi
  · intro g g' i hi hi'
    split at hi
    · next heq =>
      split at hi'
      · next heq' => rw [heq, heq']
      · cases hi'
    · cases hi
  · exact (wellNumbered_empty rfl).addDataGroupInfo (ofGroup_numberedInfo (if_pos rfl) 100)

theorem scan_identifies_clash : Identified id
      (scanAllBundleGroupInfo .sorted (fun _ => true) ⟨clashingRows, clashingRows⟩).1.bundleInfos ∧
    (getDataGroupIndexMap .sorted (scanAllBundleGroupInfo .sorted (fun _ => true)
      ⟨clashingRows, clashingRows⟩).1.bundleInfos).1.toList =
        [("g".toList, (1, "g".toList)), ("h".toList, (2, "h".toList))] := by
  obtain ⟨own, hown, hrecord⟩ := wellNumbered_single "g".toList
  obtain ⟨own', hown', hrecord'⟩ := wellNumbered_single "h".toList
  exact ⟨(scan_identifies .sorted (fun _ => true) (fun _ => true)
    ((eachNumbered_empty.insert hown hrecord).insert hown' hrecord') (by decide +kernel)
    (by decide +kernel)).1, by decide +kernel⟩

/-- **In every state of every run a uid names one user and one group.** -/
theorem uid_identifies_group {ops : List Op} (h : Each (step order uuidByKey) Op.Ok {} ops) :
    StepRun.Always (step order uuidByKey) (fun s => Identified uuidByKey s.mgr.bundleInfos) {} ops := by
  intro pre hpre
  obtain ⟨number, hnumber, hall⟩ := (h.always (fun s op hs hop => hs.step order hop) inv_empty pre hpre).memory
  exact identified_of_numbered hnumber hall

/-- Two bundles share a group, and the device is rebooted; the first one leaves it, its row gets lost, and the
system is upgraded. -/
def sharedGroupRun : List Op :=
  [.install true "a".toList [100] false false, .generate true "a".toList ["g".toList, "h".toList] 100 true,
    .install true "b".toList [100, 101] false false, .generate true "b".toList ["g".toList] 101 true, .reboot,
    .deleteUser false "a".toList 100 false, .generate true "b".toList ["i".toList] 100 true, .upgrade fun _ => true]

theorem uid_identifies_group_shared :
    StepRun.Always (step .sorted id) (fun s => Identified id s.mgr.bundleInfos) {} sharedGroupRun :=
  uid_identifies_group .sorted ⟨trivial, ⟨by decide +kernel, by decide +kernel⟩, trivial,
    ⟨by decide +kernel, by decide +kernel⟩, by unfold Op.Ok; decide +kernel, trivial,
    ⟨by decide +kernel, by decide +kernel⟩, ⟨by decide +kernel, by decide +kernel⟩, trivial⟩

/-- The request for no groups leaves the row as it is: after a boot without a scan, two groups share a uid. -/
example :
    let s := [Op.install true "a".toList [100] false false, .generate true "a".toList ["g".toList] 100 true,
      .generate true "a".toList [] 100 true, .install true "b".toList [100] false false,
      .generate true "b".toList ["h".toList] 100 true, .reboot].foldl (step .sorted id) {}
    (heldInfos s.mgr.bundleInfos).map (fun info => (info.dataGroupId, info.uid)) =
      [("g".toList, groupUid 100 1), ("h".toList, groupUid 100 1)] := by decide +kernel

end BundleFramework.DataGroup
