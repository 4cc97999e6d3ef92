import BundleFramework.DataGroup.Groups
import BundleFramework.Lib.Numbering

/-!
# Numbered records

A record is well numbered for a numbering of the groups if every info of a group has the uid
of its user and the group's number, the uuid of the group, and no user has two infos.
All operations on one record keep this (`WellNumbered.addDataGroupInfo` and the lemmas after
it); the loop over the requested groups extends the numbering (`generateLoop_spec`).
-/

namespace BundleFramework.DataGroup

open Std MapLoop KeyedList

variable (uuidByKey : Str → Str)

/-- An info as the group's number gives it. -/
structure OfGroup (number : Str → Option Int) (groupId : Str) (info : DataGroupInfo) : Prop where
  number : number groupId = some info.uniqueId
  uuid : info.uuid = uuidByKey groupId
  dataGroupId : info.dataGroupId = groupId
  gid : info.gid = info.uid

structure GroupOk (number : Str → Option Int) (groupId : Str) (infos : List DataGroupInfo) : Prop where
  distinct : Distinct DataGroupInfo.userId infos
  ofGroup : ∀ info ∈ infos, OfGroup uuidByKey number groupId info

def WellNumbered (number : Str → Option Int) (record : InnerBundleInfo) : Prop :=
  ∀ groupId infos, record.dataGroupInfos[groupId]? = some infos → GroupOk uuidByKey number groupId infos

/-- What holds of group and user of each of the record's infos. -/
def InnerBundleInfo.Within (p : Str → Int → Prop) (record : InnerBundleInfo) : Prop :=
  ∀ (groupId : Str) (infos : List DataGroupInfo), record.dataGroupInfos[groupId]? = some infos →
    ∀ info ∈ infos, p groupId info.userId

/-- The infos are of users of the bundle. -/
def InnerBundleInfo.OfUsers (record : InnerBundleInfo) : Prop := record.Within fun _ userId => userId ∈ record.users

/-- The indexes that `GenerateDataGroupUuidAndUid` gives out. -/
abbrev Indexes (number : Str → Option Int) : Prop :=
  Numbering.Lawful DATA_GROUP_INDEX_START DATA_GROUP_UID_OFFSET number

variable {uuidByKey} {number : Str → Option Int} {record : InnerBundleInfo} {groupId : Str} {userId : Int}
  {info : DataGroupInfo} {infos : List DataGroupInfo}

theorem uniqueId_groupUid (info : DataGroupInfo) {i : Int} (h : info.uid = groupUid info.userId i) :
    info.uniqueId = i := by
  unfold DataGroupInfo.uniqueId
  rw [h, groupUid]
  omega

theorem groupUid_uniqueId (info : DataGroupInfo) : groupUid info.userId info.uniqueId = info.uid := by
  unfold groupUid DataGroupInfo.uniqueId
  omega

theorem ofGroup_numberedInfo {i : Int} (h : number groupId = some i) (userId : Int) :
    OfGroup uuidByKey number groupId (numberedInfo groupId userId i (uuidByKey groupId)) := by
  refine ⟨?_, rfl, rfl, rfl⟩
  rw [uniqueId_groupUid (numberedInfo groupId userId i (uuidByKey groupId)) rfl]
  exact h

/-- The info that copies an info of the group for another user. -/
theorem OfGroup.createNew (h : OfGroup uuidByKey number groupId info) (userId : Int) :
    OfGroup uuidByKey number groupId (createNewDataGroupInfo groupId userId info) := by
  unfold createNewDataGroupInfo
  rw [h.uuid]
  exact ofGroup_numberedInfo h.number userId

theorem OfGroup.mono {number' : Str → Option Int} (h : OfGroup uuidByKey number groupId info)
    (hle : ∀ i, number groupId = some i → number' groupId = some i) : OfGroup uuidByKey number' groupId info :=
  ⟨hle _ h.number, h.uuid, h.dataGroupId, h.gid⟩

/-! ## One group -/

theorem mem_addInfo {a : DataGroupInfo} (h : a ∈ addInfo infos info) : a ∈ infos ∨ a = info := by
  unfold addInfo at h
  split at h
  · rcases List.mem_append.mp h with h | h
    · exact .inl h
    · exact .inr (List.mem_singleton.mp h)
  · split at h
    · exact .inl h
    · unfold put at h
      rcases List.mem_append.mp h with h | h
      · exact .inl (mem_of_mem_remove h)
      · exact .inr (List.mem_singleton.mp h)

theorem distinct_addInfo (h : Distinct DataGroupInfo.userId infos) :
    Distinct DataGroupInfo.userId (addInfo infos info) := by
  unfold addInfo
  split
  · next hfind =>
    refine List.pairwise_append.mpr ⟨h, List.pairwise_singleton _ _, fun a ha b hb => ?_⟩
    rw [List.mem_singleton.mp hb]
    simpa using List.find?_eq_none.mp hfind a ha
  · split
    · exact h
    · exact h.put info

theorem groupOk_nil : GroupOk uuidByKey number groupId [] :=
  ⟨List.Pairwise.nil, fun _ ha => (List.not_mem_nil ha).elim⟩

theorem GroupOk.addInfo (h : GroupOk uuidByKey number groupId infos) (hinfo : OfGroup uuidByKey number groupId info) :
    GroupOk uuidByKey number groupId (addInfo infos info) := by
  refine ⟨distinct_addInfo h.distinct, fun a ha => ?_⟩
  rcases mem_addInfo ha with ha | rfl
  · exact h.ofGroup a ha
  · exact hinfo

theorem GroupOk.subset {infos' : List DataGroupInfo} (h : GroupOk uuidByKey number groupId infos)
    (hsub : infos'.Sublist infos) : GroupOk uuidByKey number groupId infos' :=
  ⟨h.distinct.sublist hsub, fun a ha => h.ofGroup a (hsub.subset ha)⟩

theorem GroupOk.remove (h : GroupOk uuidByKey number groupId infos) (userId : Int) :
    GroupOk uuidByKey number groupId (remove DataGroupInfo.userId userId infos) :=
  h.subset List.eraseP_sublist

/-! ## One record -/

@[simp] theorem addDataGroupInfo_users : (record.addDataGroupInfo groupId info).users = record.users := by
  unfold InnerBundleInfo.addDataGroupInfo
  split <;> rfl

theorem getElem?_setGroup (groupId' : Str) : (record.setGroup groupId infos).dataGroupInfos[groupId']? =
    if groupId' = groupId then some infos else record.dataGroupInfos[groupId']? :=
  getElem?_insert_eq record.dataGroupInfos groupId groupId' infos

theorem getElem?_addDataGroupInfo (groupId' : Str) :
    (record.addDataGroupInfo groupId info).dataGroupInfos[groupId']? =
      if groupId' = groupId then some (addInfo (record.dataGroupInfos[groupId]?.getD []) info)
      else record.dataGroupInfos[groupId']? := by
  unfold InnerBundleInfo.addDataGroupInfo
  split
  · next hget =>
    rw [getElem?_setGroup, hget]
    rfl
  · next infos hget =>
    rw [getElem?_setGroup, hget]
    rfl

theorem WellNumbered.setGroup (h : WellNumbered uuidByKey number record)
    (hinfos : GroupOk uuidByKey number groupId infos) :
    WellNumbered uuidByKey number (record.setGroup groupId infos) := by
  intro groupId' infos' hget
  rw [getElem?_setGroup] at hget
  split at hget
  · next heq =>
    cases hget
    rw [heq]
    exact hinfos
  · exact h groupId' infos' hget

theorem WellNumbered.addDataGroupInfo (h : WellNumbered uuidByKey number record)
    (hinfo : OfGroup uuidByKey number groupId info) :
    WellNumbered uuidByKey number (record.addDataGroupInfo groupId info) := by
  unfold InnerBundleInfo.addDataGroupInfo
  split
  · exact h.setGroup (groupOk_nil.addInfo hinfo)
  · next infos hget => exact h.setGroup ((h groupId infos hget).addInfo hinfo)

theorem WellNumbered.deleteDataGroupInfo (h : WellNumbered uuidByKey number record) (groupId : Str) :
    WellNumbered uuidByKey number (record.deleteDataGroupInfo groupId) := by
  intro groupId' infos' hget
  rw [show (record.deleteDataGroupInfo groupId).dataGroupInfos = record.dataGroupInfos.erase groupId from rfl,
    getElem?_erase_eq] at hget
  split at hget
  · cases hget
  · exact h groupId' infos' hget

theorem WellNumbered.removeGroupInfos (h : WellNumbered uuidByKey number record) (userId : Int) (groupId : Str) :
    WellNumbered uuidByKey number (record.removeGroupInfos userId groupId) := by
  unfold InnerBundleInfo.removeGroupInfos
  split
  · exact h
  · next infos hget => exact h.setGroup ((h groupId infos hget).remove userId)

theorem WellNumbered.mono {number' : Str → Option Int} (h : WellNumbered uuidByKey number record)
    (hle : ∀ groupId i, number groupId = some i → number' groupId = some i) : WellNumbered uuidByKey number' record :=
  fun groupId infos hget =>
    have hinfos := h groupId infos hget
    ⟨hinfos.distinct, fun info hinfo => (hinfos.ofGroup info hinfo).mono (hle groupId)⟩

variable (order : GroupOrder)

@[simp] theorem addGroupsOf_users (dataGroupInfos : StrMap (List DataGroupInfo)) :
    (addGroupsOf order dataGroupInfos record userId).users = record.users := by
  unfold addGroupsOf
  refine List.foldlRecOn (motive := fun r : InnerBundleInfo => r.users = record.users) _ _ rfl fun r hr item _ => ?_
  split
  · exact hr
  · rw [addDataGroupInfo_users]
    exact hr

theorem WellNumbered.addGroupsOf {dataGroupInfos : StrMap (List DataGroupInfo)}
    (h : WellNumbered uuidByKey number record)
    (hinfos : ∀ groupId infos, dataGroupInfos[groupId]? = some infos →
      ∀ info ∈ infos, OfGroup uuidByKey number groupId info) (userId : Int) :
    WellNumbered uuidByKey number (addGroupsOf order dataGroupInfos record userId) := by
  unfold DataGroup.addGroupsOf
  refine List.foldlRecOn (motive := WellNumbered uuidByKey number) _ _ h ?_
  rintro r hr ⟨groupId, infos⟩ hitem
  have hget := (order.mem_iff (m := dataGroupInfos)).mp hitem
  split
  · exact hr
  · next first rest heq =>
    have hfirst := hinfos groupId infos hget first (by rw [show infos = first :: rest from heq]; exact List.mem_cons_self)
    exact hr.addDataGroupInfo (hfirst.createNew userId)

/-- Every user of the record takes every group. -/
theorem WellNumbered.processAllUser (h : WellNumbered uuidByKey number record) :
    WellNumbered uuidByKey number (processAllUserDataGroupInfosWhenBundleUpdate order record) := by
  unfold processAllUserDataGroupInfosWhenBundleUpdate
  exact List.foldlRecOn (motive := WellNumbered uuidByKey number) _ _ h
    fun r hr userId _ => hr.addGroupsOf order (fun groupId infos hget => (h groupId infos hget).ofGroup) userId

/-! ## All bundles -/

/-- The infos of all bundles. -/
def heldInfos (bundleInfos : StrMap InnerBundleInfo) : List DataGroupInfo :=
  bundleInfos.toList.flatMap fun bundle => bundle.2.dataGroupInfos.toList.flatMap (·.2)

/-- All infos are of users that their bundle has. -/
def AllOfUsers (bundleInfos : StrMap InnerBundleInfo) : Prop :=
  ∀ bundle ∈ bundleInfos.toList, ∀ item ∈ bundle.2.dataGroupInfos.toList, ∀ info ∈ item.2, info.userId ∈ bundle.2.users

instance (bundleInfos : StrMap InnerBundleInfo) : Decidable (AllOfUsers bundleInfos) :=
  inferInstanceAs (Decidable (∀ bundle ∈ bundleInfos.toList, ∀ item ∈ bundle.2.dataGroupInfos.toList,
    ∀ info ∈ item.2, info.userId ∈ bundle.2.users))

variable {bundleInfos : StrMap InnerBundleInfo}

theorem mem_heldInfos : info ∈ heldInfos bundleInfos ↔
    ∃ (name : Str) (record : InnerBundleInfo) (groupId : Str) (infos : List DataGroupInfo),
      bundleInfos[name]? = some record ∧ record.dataGroupInfos[groupId]? = some infos ∧ info ∈ infos := by
  unfold heldInfos
  simp only [List.mem_flatMap, Prod.exists, ExtTreeMap.mem_toList_iff_getElem?_eq_some]
  constructor
  · rintro ⟨name, record, hrecord, groupId, infos, hinfos, hinfo⟩
    exact ⟨name, record, groupId, infos, hrecord, hinfos, hinfo⟩
  · rintro ⟨name, record, groupId, infos, hrecord, hinfos, hinfo⟩
    exact ⟨name, record, hrecord, groupId, infos, hinfos, hinfo⟩

theorem AllOfUsers.ofUsers (h : AllOfUsers bundleInfos) {name : Str} (hget : bundleInfos[name]? = some record) :
    record.OfUsers := fun groupId infos hinfos =>
  h (name, record) (ExtTreeMap.mem_toList_iff_getElem?_eq_some.mpr hget) (groupId, infos)
    (ExtTreeMap.mem_toList_iff_getElem?_eq_some.mpr hinfos)

/-- The groups that the records name. -/
def groupIds (bundleInfos : StrMap InnerBundleInfo) : List Str :=
  bundleInfos.toList.flatMap fun bundleInfo => bundleInfo.2.dataGroupInfos.keys

theorem mem_groupIds : groupId ∈ groupIds bundleInfos ↔
    ∃ (name : Str) (record : InnerBundleInfo) (infos : List DataGroupInfo), bundleInfos[name]? = some record ∧
      record.dataGroupInfos[groupId]? = some infos := by
  unfold groupIds
  rw [List.mem_flatMap]
  constructor
  · rintro ⟨⟨name, record⟩, hmem, hkey⟩
    rw [ExtTreeMap.mem_keys, ExtTreeMap.mem_iff_isSome_getElem?, Option.isSome_iff_exists] at hkey
    obtain ⟨infos, hinfos⟩ := hkey
    exact ⟨name, record, infos, ExtTreeMap.mem_toList_iff_getElem?_eq_some.mp hmem, hinfos⟩
  · rintro ⟨name, record, infos, hrecord, hinfos⟩
    refine ⟨(name, record), ExtTreeMap.mem_toList_iff_getElem?_eq_some.mpr hrecord, ?_⟩
    rw [ExtTreeMap.mem_keys, ExtTreeMap.mem_iff_isSome_getElem?, hinfos]
    rfl

theorem mem_allInfos : info ∈ allInfos order bundleInfos ↔
    ∃ (name : Str) (record : InnerBundleInfo) (groupId : Str) (infos : List DataGroupInfo),
      bundleInfos[name]? = some record ∧ record.dataGroupInfos[groupId]? = some infos ∧ info ∈ infos := by
  unfold allInfos
  constructor
  · intro hinfo
    obtain ⟨⟨name, record⟩, hrecord, hinfo⟩ := List.mem_flatMap.mp hinfo
    obtain ⟨⟨groupId, infos⟩, hgroup, hinfo⟩ := List.mem_flatMap.mp hinfo
    exact ⟨name, record, groupId, infos, ExtTreeMap.mem_toList_iff_getElem?_eq_some.mp hrecord,
      order.mem_iff.mp hgroup, hinfo⟩
  · rintro ⟨name, record, groupId, infos, hrecord, hgroup, hinfo⟩
    refine List.mem_flatMap.mpr ⟨(name, record), ExtTreeMap.mem_toList_iff_getElem?_eq_some.mpr hrecord, ?_⟩
    exact List.mem_flatMap.mpr ⟨(groupId, infos), order.mem_iff.mpr hgroup, hinfo⟩

variable (uuidByKey) in
/-- All records are well numbered for one numbering. -/
def AllNumbered (number : Str → Option Int) (bundleInfos : StrMap InnerBundleInfo) : Prop :=
  ∀ (name : Str) (record : InnerBundleInfo), bundleInfos[name]? = some record → WellNumbered uuidByKey number record

theorem AllNumbered.insert (h : AllNumbered uuidByKey number bundleInfos)
    (hrecord : WellNumbered uuidByKey number record) (name : Str) :
    AllNumbered uuidByKey number (bundleInfos.insert name record) := by
  intro name' record' hget
  rw [getElem?_insert_eq] at hget
  split at hget
  · cases hget
    exact hrecord
  · exact h name' record' hget

theorem AllNumbered.mono {number' : Str → Option Int} (h : AllNumbered uuidByKey number bundleInfos)
    (hle : ∀ groupId i, number groupId = some i → number' groupId = some i) :
    AllNumbered uuidByKey number' bundleInfos := fun name record hget => (h name record hget).mono hle

/-- The maps of the loop hold the infos met, if each group's infos agree. -/
theorem indexStep_spec (infos : List DataGroupInfo)
    (h : ∀ info ∈ infos, number info.dataGroupId = some info.uniqueId ∧ info.uuid = uuidByKey info.dataGroupId) :
    (∀ groupId i uuid, (infos.foldl indexStep (∅, ∅)).1[groupId]? = some (i, uuid) →
      number groupId = some i ∧ uuid = uuidByKey groupId ∧ ∃ info ∈ infos, info.dataGroupId = groupId) ∧
    (∀ info ∈ infos, (infos.foldl indexStep (∅, ∅)).1[info.dataGroupId]? = some (info.uniqueId, info.uuid)) ∧
    ∀ i, i ∈ (infos.foldl indexStep (∅, ∅)).2 ↔ ∃ info ∈ infos, info.uniqueId = i := by
  induction infos using List.reverseRecOn with
  | nil =>
    refine ⟨fun groupId i uuid hget => ?_, fun info hinfo => (List.not_mem_nil hinfo).elim, fun i => ?_⟩
    · rw [List.foldl_nil, ExtTreeMap.getElem?_empty] at hget
      cases hget
    · simp
  | append_singleton infos last ih =>
    obtain ⟨hmap, hinfos, hset⟩ := ih fun info hinfo => h info (List.mem_append_left _ hinfo)
    have hlast := h last (List.mem_append_right _ (List.mem_singleton.mpr rfl))
    rw [List.foldl_append, List.foldl_cons, List.foldl_nil]
    generalize infos.foldl indexStep (∅, ∅) = acc at hmap hinfos hset ⊢
    unfold indexStep
    refine ⟨fun groupId i uuid hget => ?_, fun info hinfo => ?_, fun i => ?_⟩
    · rw [getElem?_insert_eq] at hget
      split at hget
      · next heq =>
        cases hget
        exact ⟨heq ▸ hlast.1, heq ▸ hlast.2, last, List.mem_append_right _ (List.mem_singleton.mpr rfl), heq.symm⟩
      · obtain ⟨hi, huuid, info, hinfo, hgroup⟩ := hmap groupId i uuid hget
        exact ⟨hi, huuid, info, List.mem_append_left _ hinfo, hgroup⟩
    · rw [getElem?_insert_eq]
      split
      · next heq =>
        have hinfo' := h info hinfo
        rw [heq] at hinfo'
        rw [Option.some.inj (hlast.1.symm.trans hinfo'.1), hlast.2, hinfo'.2]
      · next hne =>
        rcases List.mem_append.mp hinfo with hinfo | hinfo
        · exact hinfos info hinfo
        · exact absurd (by rw [List.mem_singleton.mp hinfo]) hne
    · rw [ExtTreeSet.mem_insert, Std.compare_eq_iff_eq, hset]
      constructor
      · rintro (rfl | ⟨info, hinfo, rfl⟩)
        · exact ⟨last, List.mem_append_right _ (List.mem_singleton.mpr rfl), rfl⟩
        · exact ⟨info, List.mem_append_left _ hinfo, rfl⟩
      · rintro ⟨info, hinfo, rfl⟩
        rcases List.mem_append.mp hinfo with hinfo | hinfo
        · exact .inr ⟨info, hinfo, rfl⟩
        · exact .inl (by rw [List.mem_singleton.mp hinfo])

/-- The numbering of the groups that are in use, as `GetDataGroupIndexMap` finds it. -/
def usedNumber (bundleInfos : StrMap InnerBundleInfo) (groupId : Str) : Option Int :=
  ((getDataGroupIndexMap order bundleInfos).1[groupId]?).map Prod.fst

structure IndexMapSpec (uuidByKey : Str → Str) (bundleInfos : StrMap InnerBundleInfo) : Prop where
  indexes : Indexes (usedNumber order bundleInfos)
  numbered : AllNumbered uuidByKey (usedNumber order bundleInfos) bundleInfos
  uuid : ∀ groupId i uuid, (getDataGroupIndexMap order bundleInfos).1[groupId]? = some (i, uuid) →
    uuid = uuidByKey groupId
  set : ∀ i, i ∈ (getDataGroupIndexMap order bundleInfos).2 ↔ ∃ groupId, usedNumber order bundleInfos groupId = some i
  used : ∀ groupId i, usedNumber order bundleInfos groupId = some i → groupId ∈ groupIds bundleInfos

theorem getDataGroupIndexMap_spec (hnumber : Indexes number) (h : AllNumbered uuidByKey number bundleInfos) :
    IndexMapSpec order uuidByKey bundleInfos := by
  have hall : ∀ info ∈ allInfos order bundleInfos,
      number info.dataGroupId = some info.uniqueId ∧ info.uuid = uuidByKey info.dataGroupId := by
    intro info hinfo
    obtain ⟨name, record, groupId, infos, hrecord, hgroup, hinfo⟩ := (mem_allInfos order).mp hinfo
    have hof := (h name record hrecord groupId infos hgroup).ofGroup info hinfo
    rw [hof.dataGroupId]
    exact ⟨hof.number, hof.uuid⟩
  obtain ⟨hmap, hinfos, hset⟩ := indexStep_spec (allInfos order bundleInfos) hall
  have hused : ∀ groupId i, usedNumber order bundleInfos groupId = some i → number groupId = some i ∧
      ∃ info ∈ allInfos order bundleInfos, info.dataGroupId = groupId := by
    intro groupId i hi
    obtain ⟨⟨j, uuid⟩, hget, rfl⟩ := Option.map_eq_some_iff.mp hi
    obtain ⟨hj, -, hinfo⟩ := hmap groupId j uuid hget
    exact ⟨hj, hinfo⟩
  have hinfo : ∀ info ∈ allInfos order bundleInfos,
      usedNumber order bundleInfos info.dataGroupId = some info.uniqueId := by
    intro info hinfo
    unfold usedNumber getDataGroupIndexMap
    rw [hinfos info hinfo]
    rfl
  constructor
  · exact ⟨fun hi => hnumber.lower (hused _ _ hi).1, fun hi => hnumber.upper (hused _ _ hi).1,
      fun hi hj => hnumber.injective (hused _ _ hi).1 (hused _ _ hj).1⟩
  · intro name record hrecord groupId infos hgroup
    have hok := h name record hrecord groupId infos hgroup
    refine ⟨hok.distinct, fun info hmem => ?_⟩
    have hof := hok.ofGroup info hmem
    refine ⟨?_, hof.uuid, hof.dataGroupId, hof.gid⟩
    rw [← hof.dataGroupId]
    exact hinfo info ((mem_allInfos order).mpr ⟨name, record, groupId, infos, hrecord, hgroup, hmem⟩)
  · intro groupId i uuid hget
    exact (hmap groupId i uuid hget).2.1
  · intro i
    refine (hset i).trans ⟨?_, ?_⟩
    · rintro ⟨info, hmem, rfl⟩
      exact ⟨info.dataGroupId, hinfo info hmem⟩
    · rintro ⟨groupId, hi⟩
      obtain ⟨hnum, info, hmem, hgroup⟩ := hused groupId i hi
      refine ⟨info, hmem, Option.some.inj ?_⟩
      rw [← (hall info hmem).1, hgroup, hnum]
  · intro groupId i hi
    obtain ⟨-, info, hmem, hgroup⟩ := hused groupId i hi
    obtain ⟨name, record, groupId', infos, hrecord, hget, hmem⟩ := (mem_allInfos order).mp hmem
    have hof := (h name record hrecord groupId' infos hget).ofGroup info hmem
    rw [← hgroup, hof.dataGroupId]
    exact mem_groupIds.mpr ⟨name, record, infos, hrecord, hget⟩

/-! ## The requested groups -/

/-- The loop goes on with the numbering it finds, and with room for all groups it numbers each new one. -/
theorem generateLoop_spec {keys : Finset Str} {dataGroupIndexMap : StrMap (Int × Str)} (userId : Int) (ids : List Str)
    {uniqueIdSet : ExtTreeSet Int} (hnodup : ids.Nodup) (hnumber : Indexes number)
    (hset : ∀ i, i ∈ uniqueIdSet ↔ ∃ groupId, number groupId = some i)
    (hmap : ∀ groupId ∈ ids, number groupId = dataGroupIndexMap[groupId]?.map Prod.fst)
    (huuid : ∀ groupId i uuid, dataGroupIndexMap[groupId]? = some (i, uuid) → uuid = uuidByKey groupId)
    (hkeys : ∀ groupId i, number groupId = some i → groupId ∈ keys) (hids : ∀ groupId ∈ ids, groupId ∈ keys)
    (hroom : keys.card ≤ (DATA_GROUP_UID_OFFSET - DATA_GROUP_INDEX_START).toNat)
    (hrecord : WellNumbered uuidByKey number record) :
    ∃ number', Indexes number' ∧ (∀ groupId i, number groupId = some i → number' groupId = some i) ∧
      WellNumbered uuidByKey number'
        (ids.foldl (generateStep uuidByKey dataGroupIndexMap userId) (record, uniqueIdSet)).1 := by
  induction ids generalizing number record uniqueIdSet with
  | nil => exact ⟨number, hnumber, fun _ _ hi => hi, hrecord⟩
  | cons groupId ids ih =>
    obtain ⟨hnot, hnodup⟩ := List.nodup_cons.mp hnodup
    have hhead := hmap groupId List.mem_cons_self
    rw [List.foldl_cons]
    cases hget : dataGroupIndexMap[groupId]? with
    | some entry =>
      obtain ⟨index, uuid⟩ := entry
      rw [hget, Option.map_some] at hhead
      have hstep : generateStep uuidByKey dataGroupIndexMap userId (record, uniqueIdSet) groupId =
          (record.addDataGroupInfo groupId (numberedInfo groupId userId index (uuidByKey groupId)), uniqueIdSet) := by
        unfold generateStep
        rw [hget, huuid _ _ _ hget]
      rw [hstep]
      exact ih hnodup hnumber hset (fun g hg => hmap g (List.mem_cons_of_mem _ hg)) hkeys
        (fun g hg => hids g (List.mem_cons_of_mem _ hg))
        (hrecord.addDataGroupInfo (ofGroup_numberedInfo hhead userId))
    | none =>
      rw [hget, Option.map_none] at hhead
      obtain ⟨i, hsearch, hlo, hhi, hfree⟩ := Numbering.exists_free hkeys
        (hids groupId List.mem_cons_self) hhead hroom fun i hi => (hset i).mp hi
      have hnone : ∀ groupId', number groupId' ≠ some i := by
        intro groupId' hi
        have hmem := (hset i).mpr ⟨groupId', hi⟩
        rw [← ExtTreeSet.contains_iff_mem, hfree] at hmem
        cases hmem
      have hstep : generateStep uuidByKey dataGroupIndexMap userId (record, uniqueIdSet) groupId =
          (record.addDataGroupInfo groupId (numberedInfo groupId userId i (uuidByKey groupId)), uniqueIdSet.insert i) := by
        unfold generateStep
        rw [hget]
        unfold generateDataGroupUuidAndUid
        simp only [hsearch, numberedInfo]
      rw [hstep]
      have hlaw := hnumber.update groupId hlo hhi hnone
      have hle : ∀ g j, number g = some j → Function.update number groupId (some i) g = some j := by
        intro g j hj
        rw [Function.update_of_ne (by rintro rfl; rw [hhead] at hj; cases hj)]
        exact hj
      have hadd := (hrecord.mono hle).addDataGroupInfo (ofGroup_numberedInfo (Function.update_self ..) userId)
      obtain ⟨number', hnumber', hle', hwell⟩ := ih hnodup hlaw
        (by
          intro j
          rw [ExtTreeSet.mem_insert, Std.compare_eq_iff_eq, hset]
          constructor
          · rintro (rfl | ⟨g, hg⟩)
            · exact ⟨groupId, Function.update_self ..⟩
            · exact ⟨g, hle g j hg⟩
          · rintro ⟨g, hg⟩
            by_cases hgroup : g = groupId
            · rw [hgroup, Function.update_self] at hg
              exact .inl (Option.some.inj hg)
            · rw [Function.update_of_ne hgroup] at hg
              exact .inr ⟨g, hg⟩)
        (by
          intro g hg
          rw [Function.update_of_ne (by rintro rfl; exact hnot hg)]
          exact hmap g (List.mem_cons_of_mem _ hg))
        (by
          intro g j hj
          by_cases hgroup : g = groupId
          · rw [hgroup]
            exact hids groupId List.mem_cons_self
          · rw [Function.update_of_ne hgroup] at hj
            exact hkeys g j hj)
        (fun g hg => hids g (List.mem_cons_of_mem _ hg)) hadd
      exact ⟨number', hnumber', fun g j hj => hle' g j (hle g j hj), hwell⟩

end BundleFramework.DataGroup
