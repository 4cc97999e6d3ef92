import BundleFramework.DataGroup.Numbered

/-!
# The scan of the data groups at boot

Rows of the storage can be older than what was in memory, so after a reboot two bundles may
have one group with different indexes, or one index for two groups.  The scan takes the first
index it meets for a group, as long as no other group has taken it before; groups that got
none are given free ones, and the infos of the bundles that do not agree are made anew.

    every record is well numbered for a numbering of its own →
      after the scan all records are well numbered for one           (scanAllBundleGroupInfo_spec)
-/

namespace BundleFramework.DataGroup

open Std MapLoop KeyedList

/-! ## Algorithm -/

variable (order : GroupOrder)

/-- The maps of `ScanAllBundleGroupInfo`. -/
structure ScanMaps where
  indexMap : ExtTreeMap Int Str := ∅
  groupIdMap : StrMap Int := ∅
  needProcessGroupInfoBundleNames : StrMap StrSet := ∅
  errorGroupIds : StrSet := ∅

/-- One group of one bundle: it is the first with its index and id, agrees, or is in error. -/
def scanStep (bundleName : Str) (acc : ScanMaps) (dataGroupItem : Str × List DataGroupInfo) : ScanMaps :=
  match dataGroupItem.2 with
  | [] => acc
  | first :: _ =>
    let dataGroupId := dataGroupItem.1
    let groupUidIndex := first.uniqueId
    if acc.indexMap[groupUidIndex]? = none ∧ acc.groupIdMap[dataGroupId]? = none then
      { acc with
        indexMap := acc.indexMap.insert groupUidIndex dataGroupId
        groupIdMap := acc.groupIdMap.insert dataGroupId groupUidIndex }
    else if acc.indexMap[groupUidIndex]? = some dataGroupId then acc
    else
      { acc with
        errorGroupIds := acc.errorGroupIds.insert dataGroupId
        needProcessGroupInfoBundleNames := acc.needProcessGroupInfoBundleNames.insert bundleName
          ((acc.needProcessGroupInfoBundleNames[bundleName]?.getD ∅).insert dataGroupId) }

def scanMaps (bundleInfos : StrMap InnerBundleInfo) : ScanMaps :=
  bundleInfos.toList.foldl (fun acc info => (order.walk info.2.dataGroupInfos).foldl (scanStep info.1) acc) {}

/-- One group without valid index gets the least free one, or the first if there is none. -/
def handleStep (maps : ExtTreeMap Int Str × StrMap Int) (groupId : Str) : ExtTreeMap Int Str × StrMap Int :=
  if maps.2.contains groupId then maps
  else
    let groupIndex := (LeastFree.search maps.1.contains (DATA_GROUP_UID_OFFSET - DATA_GROUP_INDEX_START).toNat
      DATA_GROUP_INDEX_START).getD DATA_GROUP_INDEX_START
    (maps.1.insert groupIndex groupId, maps.2.insert groupId groupIndex)

def handleGroupIdAndIndex (errorGroupIds : StrSet) (maps : ExtTreeMap Int Str × StrMap Int) :
    ExtTreeMap Int Str × StrMap Int :=
  if errorGroupIds.isEmpty || maps.1.isEmpty || maps.2.isEmpty then maps
  else errorGroupIds.toList.foldl handleStep maps

/-- The infos of one group are made anew for all users, with the uuid of the first one. -/
def repairStep (groupIdMap : StrMap Int) (dataGroupInfos : StrMap (List DataGroupInfo)) (userIds : List Int)
    (acc : InnerBundleInfo × Bool) (groupId : Str) : InnerBundleInfo × Bool :=
  match groupIdMap[groupId]? with
  | none => (acc.1, false)
  | some groupIndex =>
    match dataGroupInfos[groupId]? with
    | some (first :: _) =>
      (userIds.foldl (fun record userId =>
        record.addDataGroupInfo groupId (numberedInfo groupId userId groupIndex first.uuid)) acc.1, acc.2)
    | _ => acc

/-- One bundle that has groups in error; `ret` is the result so far. -/
def repairBundle (saveOk : Str → Bool) (groupIdMap : StrMap Int) (acc : BundleDataMgr × Bool)
    (item : Str × StrSet) : BundleDataMgr × Bool :=
  match acc.1.bundleInfos[item.1]? with
  | none => (acc.1, false)
  | some record =>
    if record.dataGroupInfos.isEmpty then acc
    else
      let (repaired, ret) := item.2.toList.foldl (repairStep groupIdMap record.dataGroupInfos record.users)
        (record, acc.2)
      ((acc.1.setRecord item.1 repaired).saveStorageBundleInfo (saveOk item.1) item.1 repaired, ret && saveOk item.1)

def handleErrorDataGroupInfos (saveOk : Str → Bool) (groupIdMap : StrMap Int)
    (needProcessGroupInfoBundleNames : StrMap StrSet) (mgr : BundleDataMgr) : BundleDataMgr × Bool :=
  if groupIdMap.isEmpty || needProcessGroupInfoBundleNames.isEmpty then (mgr, true)
  else needProcessGroupInfoBundleNames.toList.foldl (repairBundle saveOk groupIdMap) (mgr, true)

def scanAllBundleGroupInfo (saveOk : Str → Bool) (mgr : BundleDataMgr) : BundleDataMgr × Bool :=
  let maps := scanMaps order mgr.bundleInfos
  let (_, groupIdMap) := handleGroupIdAndIndex maps.errorGroupIds (maps.indexMap, maps.groupIdMap)
  handleErrorDataGroupInfos saveOk groupIdMap maps.needProcessGroupInfoBundleNames mgr

/-! ## The maps -/

variable {uuidByKey : Str → Str} {number own : Str → Option Int} {record : InnerBundleInfo} {groupId : Str}
  {userId : Int} {info : DataGroupInfo} {infos : List DataGroupInfo} {users : List Int}
  {bundleInfos : StrMap InnerBundleInfo}

/-- Two maps that are inverse to each other, with indexes of the range. -/
structure Inverse (maps : ExtTreeMap Int Str × StrMap Int) : Prop where
  iff : ∀ (i : Int) (groupId : Str), maps.1[i]? = some groupId ↔ maps.2[groupId]? = some i
  range : ∀ (groupId : Str) (i : Int), maps.2[groupId]? = some i → DATA_GROUP_INDEX_START ≤ i ∧ i < DATA_GROUP_UID_OFFSET

theorem Inverse.indexes {maps : ExtTreeMap Int Str × StrMap Int} (h : Inverse maps) :
    Indexes fun groupId => maps.2[groupId]? :=
  ⟨fun hi => (h.range _ _ hi).1, fun hi => (h.range _ _ hi).2, fun hi hj =>
    Option.some.inj (((h.iff _ _).mpr hi).symm.trans ((h.iff _ _).mpr hj))⟩

theorem Inverse.insert {maps : ExtTreeMap Int Str × StrMap Int} (h : Inverse maps) {i : Int} {groupId : Str}
    (hindex : maps.1[i]? = none) (hgroup : maps.2[groupId]? = none) (hlo : DATA_GROUP_INDEX_START ≤ i)
    (hhi : i < DATA_GROUP_UID_OFFSET) : Inverse (maps.1.insert i groupId, maps.2.insert groupId i) := by
  constructor
  · intro j g
    rw [getElem?_insert_eq, getElem?_insert_eq]
    by_cases hj : j = i
    · rw [if_pos hj]
      by_cases hg : g = groupId
      · rw [if_pos hg, hj, hg]
        exact ⟨fun _ => rfl, fun _ => rfl⟩
      · rw [if_neg hg, hj, ← h.iff, hindex]
        exact ⟨fun e => absurd (Option.some.inj e).symm hg, nofun⟩
    · rw [if_neg hj]
      by_cases hg : g = groupId
      · rw [if_pos hg, hg, h.iff, hgroup]
        exact ⟨nofun, fun e => absurd (Option.some.inj e).symm hj⟩
      · rw [if_neg hg]
        exact h.iff j g
  · intro g j hget
    rw [getElem?_insert_eq] at hget
    split at hget
    · cases hget
      exact ⟨hlo, hhi⟩
    · exact h.range g j hget

/-- What is known after a part of the walk.  `seen` are the groups met, each with its bundle. -/
structure ScanInv (keys : List Str) (seen : List (Str × Str × List DataGroupInfo)) (acc : ScanMaps) : Prop where
  inverse : Inverse (acc.indexMap, acc.groupIdMap)
  settled : ∀ (name groupId : Str) (first : DataGroupInfo) (rest : List DataGroupInfo), 
      (name, groupId, first :: rest) ∈ seen → acc.groupIdMap[groupId]? = some first.uniqueId ∨
      ∃ groups : StrSet, acc.needProcessGroupInfoBundleNames[name]? = some groups ∧ groupId ∈ groups
  error : ∀ (name : Str) (groups : StrSet) (groupId : Str), acc.needProcessGroupInfoBundleNames[name]? = some groups → groupId ∈ groups →
    groupId ∈ acc.errorGroupIds
  known : ∀ groupId ∈ acc.errorGroupIds, groupId ∈ keys
  keys : ∀ (groupId : Str) (i : Int), acc.groupIdMap[groupId]? = some i → groupId ∈ keys
  nonempty : ∀ groupId ∈ acc.errorGroupIds, ∃ (numbered : Str) (i : Int), acc.groupIdMap[numbered]? = some i

theorem isEmpty_false_of_get {K V : Type} [Ord K] [TransOrd K] {m : ExtTreeMap K V} {k : K} {v : V}
    (h : m[k]? = some v) : m.isEmpty = false := by
  rw [ExtTreeMap.isEmpty_eq_false_iff]
  rintro rfl
  rw [ExtTreeMap.getElem?_empty] at h
  cases h

theorem ScanInv.step {keys : List Str} {seen : List (Str × Str × List DataGroupInfo)} {acc : ScanMaps}
    (h : ScanInv keys seen acc) (name : Str) (item : Str × List DataGroupInfo) (hkey : item.1 ∈ keys)
    (hrange : ∀ info ∈ item.2, DATA_GROUP_INDEX_START ≤ info.uniqueId ∧ info.uniqueId < DATA_GROUP_UID_OFFSET) :
    ScanInv keys (seen ++ [(name, item)]) (scanStep name acc item) := by
  obtain ⟨groupId, infos⟩ := item
  cases infos with
  | nil =>
    refine ⟨h.inverse, fun n g first rest hmem => ?_, h.error, h.known, h.keys, h.nonempty⟩
    rcases List.mem_append.mp hmem with hmem | hmem
    · exact h.settled n g first rest hmem
    · cases List.mem_singleton.mp hmem
  | cons first rest =>
    obtain ⟨hlo, hhi⟩ := hrange first List.mem_cons_self
    have hold : ∀ n g f r, (n, g, f :: r) ∈ seen ++ [(name, groupId, first :: rest)] →
        (n, g, f :: r) ∈ seen ∨ n = name ∧ g = groupId ∧ f = first := by
      intro n g f r hmem
      rcases List.mem_append.mp hmem with hmem | hmem
      · exact .inl hmem
      · cases List.mem_singleton.mp hmem
        exact .inr ⟨rfl, rfl, rfl⟩
    unfold scanStep
    simp only
    split
    · next hnone =>
      obtain ⟨hindex, hgroup⟩ := hnone
      refine ⟨h.inverse.insert hindex hgroup hlo hhi, fun n g f r hmem => ?_, h.error, h.known, fun g i hget => ?_,
        fun g hg => ⟨groupId, first.uniqueId, (getElem?_insert_eq ..).trans (if_pos rfl)⟩⟩
      · rcases hold n g f r hmem with hmem | ⟨rfl, rfl, rfl⟩
        · rcases h.settled n g f r hmem with hset | herr
          · refine .inl ?_
            rw [getElem?_insert_eq, if_neg]
            · exact hset
            · rintro rfl
              rw [hgroup] at hset
              cases hset
          · exact .inr herr
        · exact .inl ((getElem?_insert_eq ..).trans (if_pos rfl))
      · rw [getElem?_insert_eq] at hget
        split at hget
        · next heq =>
          rw [heq]
          exact hkey
        · exact h.keys g i hget
    · next hnone =>
      split
      · next hindex =>
        refine ⟨h.inverse, fun n g f r hmem => ?_, h.error, h.known, h.keys, h.nonempty⟩
        rcases hold n g f r hmem with hmem | ⟨rfl, rfl, rfl⟩
        · exact h.settled n g f r hmem
        · exact .inl ((h.inverse.iff _ _).mp hindex)
      · refine ⟨h.inverse, fun n g f r hmem => ?_, fun n groups g hget hg => ?_, fun g hg => ?_, h.keys, fun _ _ => ?_⟩
        · have hadded : ∃ groups : StrSet, (acc.needProcessGroupInfoBundleNames.insert name
              ((acc.needProcessGroupInfoBundleNames[name]?.getD ∅).insert groupId))[name]? = some groups ∧
              groupId ∈ groups :=
            ⟨_, (getElem?_insert_eq ..).trans (if_pos rfl), ExtTreeSet.mem_insert_self⟩
          rcases hold n g f r hmem with hmem | ⟨rfl, rfl, rfl⟩
          · rcases h.settled n g f r hmem with hset | ⟨groups, hget, hg⟩
            · exact .inl hset
            · refine .inr ?_
              by_cases hn : n = name
              · refine ⟨_, (getElem?_insert_eq ..).trans (if_pos hn), ExtTreeSet.mem_insert.mpr (.inr ?_)⟩
                rw [← hn, hget]
                exact hg
              · exact ⟨groups, by rw [getElem?_insert_eq, if_neg hn]; exact hget, hg⟩
          · exact .inr hadded
        · rw [getElem?_insert_eq] at hget
          split at hget
          · next hn =>
            cases hget
            rcases ExtTreeSet.mem_insert.mp hg with heq | hg
            · rw [← Std.compare_eq_iff_eq.mp heq]
              exact ExtTreeSet.mem_insert_self
            · refine ExtTreeSet.mem_insert.mpr (.inr ?_)
              cases hgroups : acc.needProcessGroupInfoBundleNames[name]? with
              | none =>
                rw [hgroups] at hg
                exact (ExtTreeSet.not_mem_empty hg).elim
              | some groups =>
                rw [hgroups] at hg
                exact h.error name groups g hgroups hg
          · exact ExtTreeSet.mem_insert.mpr (.inr (h.error n groups g hget hg))
        · rcases ExtTreeSet.mem_insert.mp hg with heq | hg
          · rw [← Std.compare_eq_iff_eq.mp heq]
            exact hkey
          · exact h.known g hg
        · -- one of the maps has an entry, and so has the other
          rcases hgroup : acc.groupIdMap[groupId]? with _ | i
          · rcases hindex : acc.indexMap[first.uniqueId]? with _ | g
            · exact absurd ⟨hindex, hgroup⟩ hnone
            · exact ⟨g, first.uniqueId, (h.inverse.iff _ _).mp hindex⟩
          · exact ⟨groupId, i, hgroup⟩

theorem ScanInv.items {keys : List Str} {seen : List (Str × Str × List DataGroupInfo)} {acc : ScanMaps}
    (h : ScanInv keys seen acc) (name : Str) (items : List (Str × List DataGroupInfo))
    (hkey : ∀ item ∈ items, item.1 ∈ keys)
    (hrange : ∀ item ∈ items, ∀ info ∈ item.2,
      DATA_GROUP_INDEX_START ≤ info.uniqueId ∧ info.uniqueId < DATA_GROUP_UID_OFFSET) :
    ScanInv keys (seen ++ items.map fun item => (name, item)) (items.foldl (scanStep name) acc) := by
  induction items generalizing seen acc with
  | nil => simpa using h
  | cons item items ih =>
    have hstep := h.step name item (hkey item List.mem_cons_self) (hrange item List.mem_cons_self)
    have hrest := ih hstep (fun i hi => hkey i (List.mem_cons_of_mem _ hi))
      fun i hi => hrange i (List.mem_cons_of_mem _ hi)
    rw [List.foldl_cons, List.map_cons]
    rwa [List.append_assoc, List.singleton_append] at hrest

theorem ScanInv.bundles {keys : List Str} {seen : List (Str × Str × List DataGroupInfo)} {acc : ScanMaps}
    (h : ScanInv keys seen acc) (bundles : List (Str × InnerBundleInfo))
    (hkey : ∀ bundle ∈ bundles, ∀ item ∈ order.walk bundle.2.dataGroupInfos, item.1 ∈ keys)
    (hrange : ∀ bundle ∈ bundles, ∀ item ∈ order.walk bundle.2.dataGroupInfos, ∀ info ∈ item.2,
      DATA_GROUP_INDEX_START ≤ info.uniqueId ∧ info.uniqueId < DATA_GROUP_UID_OFFSET) :
    ScanInv keys (seen ++ bundles.flatMap fun bundle =>
        (order.walk bundle.2.dataGroupInfos).map fun item => (bundle.1, item))
      (bundles.foldl (fun acc info => (order.walk info.2.dataGroupInfos).foldl (scanStep info.1) acc) acc) := by
  induction bundles generalizing seen acc with
  | nil => simpa using h
  | cons bundle bundles ih =>
    have hbundle := h.items bundle.1 (order.walk bundle.2.dataGroupInfos) (hkey bundle List.mem_cons_self)
      (hrange bundle List.mem_cons_self)
    have hrest := ih hbundle (fun b hb => hkey b (List.mem_cons_of_mem _ hb))
      fun b hb => hrange b (List.mem_cons_of_mem _ hb)
    rw [List.foldl_cons, List.flatMap_cons]
    rwa [List.append_assoc] at hrest

variable (uuidByKey) in
/-- Every record is well numbered, for a numbering of its own. -/
def EachNumbered (bundleInfos : StrMap InnerBundleInfo) : Prop :=
  ∀ (name : Str) (record : InnerBundleInfo), bundleInfos[name]? = some record →
    ∃ own, Indexes own ∧ WellNumbered uuidByKey own record

/-- What the walk leaves for the groups of a bundle. -/
structure ScanSpec (bundleInfos : StrMap InnerBundleInfo) (maps : ScanMaps) : Prop where
  inverse : Inverse (maps.indexMap, maps.groupIdMap)
  settled : ∀ (name : Str) (record : InnerBundleInfo) (groupId : Str) (first : DataGroupInfo)
    (rest : List DataGroupInfo), bundleInfos[name]? = some record →
      record.dataGroupInfos[groupId]? = some (first :: rest) → maps.groupIdMap[groupId]? = some first.uniqueId ∨
        ∃ groups : StrSet, maps.needProcessGroupInfoBundleNames[name]? = some groups ∧ groupId ∈ groups
  error : ∀ (name : Str) (groups : StrSet) (groupId : Str),
    maps.needProcessGroupInfoBundleNames[name]? = some groups → groupId ∈ groups → groupId ∈ maps.errorGroupIds
  known : ∀ groupId ∈ maps.errorGroupIds, groupId ∈ groupIds bundleInfos
  keys : ∀ (groupId : Str) (i : Int), maps.groupIdMap[groupId]? = some i → groupId ∈ groupIds bundleInfos
  nonempty : ∀ groupId ∈ maps.errorGroupIds, ∃ (numbered : Str) (i : Int), maps.groupIdMap[numbered]? = some i

theorem scanMaps_spec (h : EachNumbered uuidByKey bundleInfos) : ScanSpec bundleInfos (scanMaps order bundleInfos) := by
  have hempty : ScanInv (groupIds bundleInfos) [] {} := by
    refine ⟨⟨fun i groupId => ?_, fun groupId i hget => ?_⟩, fun _ _ _ _ hmem => (List.not_mem_nil hmem).elim,
      fun _ _ _ hget => ?_, fun _ hmem => (ExtTreeSet.not_mem_empty hmem).elim, fun _ _ hget => ?_,
      fun _ hmem => (ExtTreeSet.not_mem_empty hmem).elim⟩
    · rw [ExtTreeMap.getElem?_empty, ExtTreeMap.getElem?_empty]
      exact ⟨nofun, nofun⟩
    all_goals
      rw [ExtTreeMap.getElem?_empty] at hget
      cases hget
  have hall := hempty.bundles order bundleInfos.toList
    (by
      rintro ⟨name, record⟩ hbundle ⟨groupId, infos⟩ hitem
      exact mem_groupIds.mpr ⟨name, record, infos, ExtTreeMap.mem_toList_iff_getElem?_eq_some.mp hbundle,
        order.mem_iff.mp hitem⟩)
    (by
      rintro ⟨name, record⟩ hbundle ⟨groupId, infos⟩ hitem info hinfo
      obtain ⟨own, hown, hrecord⟩ := h name record (ExtTreeMap.mem_toList_iff_getElem?_eq_some.mp hbundle)
      have hof := (hrecord groupId infos (order.mem_iff.mp hitem)).ofGroup info hinfo
      exact ⟨hown.lower hof.number, hown.upper hof.number⟩)
  refine ⟨hall.inverse, fun name record groupId first rest hrecord hgroup => ?_, hall.error, hall.known, hall.keys,
    hall.nonempty⟩
  refine hall.settled name groupId first rest (List.mem_append_right _ (List.mem_flatMap.mpr ⟨(name, record), ?_, ?_⟩))
  · exact ExtTreeMap.mem_toList_iff_getElem?_eq_some.mpr hrecord
  · exact List.mem_map_of_mem (order.mem_iff.mpr hgroup)

/-! ## Free indexes -/

/-- The loop over the groups in error: with room it numbers each one that has no index. -/
theorem handleSteps_spec (keys : Finset Str) (groups : List Str) {maps : ExtTreeMap Int Str × StrMap Int}
    (h : Inverse maps) (hkeys : ∀ (groupId : Str) (i : Int), maps.2[groupId]? = some i → groupId ∈ keys)
    (hgroups : ∀ groupId ∈ groups, groupId ∈ keys)
    (hroom : keys.card ≤ (DATA_GROUP_UID_OFFSET - DATA_GROUP_INDEX_START).toNat) :
    Inverse (groups.foldl handleStep maps) ∧
      (∀ (groupId : Str) (i : Int), maps.2[groupId]? = some i → (groups.foldl handleStep maps).2[groupId]? = some i) ∧
      ∀ groupId ∈ groups, ∃ i, (groups.foldl handleStep maps).2[groupId]? = some i := by
  induction groups generalizing maps with
  | nil => exact ⟨h, fun _ _ hget => hget, fun _ hmem => (List.not_mem_nil hmem).elim⟩
  | cons groupId groups ih =>
    have hrest : ∀ g ∈ groups, g ∈ keys := fun g hg => hgroups g (List.mem_cons_of_mem _ hg)
    rw [List.foldl_cons]
    cases hget : maps.2[groupId]? with
    | some i =>
      have hstep : handleStep maps groupId = maps := by
        unfold handleStep
        rw [if_pos]
        rw [ExtTreeMap.contains_eq_isSome_getElem?, hget]
        rfl
      rw [hstep]
      obtain ⟨hinv, hle, hall⟩ := ih h hkeys hrest
      refine ⟨hinv, hle, fun g hg => ?_⟩
      rcases List.mem_cons.mp hg with rfl | hg
      · exact ⟨i, hle _ _ hget⟩
      · exact hall g hg
    | none =>
      have htaken : ∀ i, maps.1.contains i = true → ∃ g : Str, maps.2[g]? = some i := by
        intro i hi
        rw [ExtTreeMap.contains_eq_isSome_getElem?] at hi
        obtain ⟨g, hg⟩ := Option.isSome_iff_exists.mp hi
        exact ⟨g, (h.iff _ _).mp hg⟩
      obtain ⟨i, hsearch, hlo, hhi, hfree⟩ := Numbering.exists_free hkeys
        (hgroups groupId List.mem_cons_self) hget hroom htaken
      have hindex : maps.1[i]? = none := by
        rw [ExtTreeMap.contains_eq_isSome_getElem?] at hfree
        cases hindex : maps.1[i]? with
        | none => rfl
        | some g =>
          rw [hindex] at hfree
          cases hfree
      have hstep : handleStep maps groupId = (maps.1.insert i groupId, maps.2.insert groupId i) := by
        unfold handleStep
        rw [if_neg, hsearch]
        · rfl
        · rw [ExtTreeMap.contains_eq_isSome_getElem?, hget]
          nofun
      rw [hstep]
      have hle : ∀ (g : Str) (j : Int), maps.2[g]? = some j → (maps.2.insert groupId i)[g]? = some j := by
        intro g j hj
        rw [getElem?_insert_eq, if_neg]
        · exact hj
        · rintro rfl
          rw [hget] at hj
          cases hj
      obtain ⟨hinv, hle', hall⟩ := ih (h.insert hindex hget hlo hhi)
        (by
          intro g j hj
          rw [getElem?_insert_eq] at hj
          split at hj
          · next heq =>
            rw [heq]
            exact hgroups groupId List.mem_cons_self
          · exact hkeys g j hj) hrest
      refine ⟨hinv, fun g j hj => hle' g j (hle g j hj), fun g hg => ?_⟩
      rcases List.mem_cons.mp hg with rfl | hg
      · exact ⟨i, hle' _ _ ((getElem?_insert_eq ..).trans (if_pos rfl))⟩
      · exact hall g hg

theorem handleGroupIdAndIndex_spec {maps : ScanMaps} (h : ScanSpec bundleInfos maps)
    (hroom : (groupIds bundleInfos).toFinset.card ≤ (DATA_GROUP_UID_OFFSET - DATA_GROUP_INDEX_START).toNat) :
    Inverse (handleGroupIdAndIndex maps.errorGroupIds (maps.indexMap, maps.groupIdMap)) ∧
      (∀ (groupId : Str) (i : Int), maps.groupIdMap[groupId]? = some i →
        (handleGroupIdAndIndex maps.errorGroupIds (maps.indexMap, maps.groupIdMap)).2[groupId]? = some i) ∧
      ∀ groupId ∈ maps.errorGroupIds, ∃ i : Int,
        (handleGroupIdAndIndex maps.errorGroupIds (maps.indexMap, maps.groupIdMap)).2[groupId]? = some i := by
  unfold handleGroupIdAndIndex
  split
  · next hskip =>
    refine ⟨h.inverse, fun _ _ hget => hget, fun groupId hmem => ?_⟩
    obtain ⟨numbered, i, hget⟩ := h.nonempty groupId hmem
    have hindex := isEmpty_false_of_get ((h.inverse.iff _ _).mpr hget)
    have herrors : maps.errorGroupIds.isEmpty = false := by
      rw [ExtTreeSet.isEmpty_eq_false_iff]
      rintro heq
      rw [heq] at hmem
      exact ExtTreeSet.not_mem_empty hmem
    rw [herrors, hindex, isEmpty_false_of_get hget] at hskip
    cases hskip
  · obtain ⟨hinverse, hle, hall⟩ := handleSteps_spec (groupIds bundleInfos).toFinset
      maps.errorGroupIds.toList h.inverse (fun g i hget => List.mem_toFinset.mpr (h.keys g i hget))
      (fun g hg => List.mem_toFinset.mpr (h.known g (ExtTreeSet.mem_toList.mp hg))) hroom
    exact ⟨hinverse, hle, fun g hg => hall g (ExtTreeSet.mem_toList.mpr hg)⟩

/-! ## Repaired records -/

variable {groupIdMap : StrMap Int} (saveOk : Str → Bool)

/-- Between two numberings: infos of users still to come may have the old index. -/
def Mixed (uuidByKey : Str → Str) (number own : Str → Option Int) (rest : List Int) (groupId : Str)
    (infos : List DataGroupInfo) : Prop :=
  ∀ info ∈ infos, OfGroup uuidByKey number groupId info ∨
    OfGroup uuidByKey own groupId info ∧ info.userId ∈ rest

theorem Mixed.addInfo {rest : List Int} (hdistinct : Distinct DataGroupInfo.userId infos)
    (h : Mixed uuidByKey number own (info.userId :: rest) groupId infos)
    (hinfo : OfGroup uuidByKey number groupId info) : Mixed uuidByKey number own rest groupId (addInfo infos info) := by
  have hother : ∀ a ∈ infos, a.userId ≠ info.userId →
      OfGroup uuidByKey number groupId a ∨ OfGroup uuidByKey own groupId a ∧ a.userId ∈ rest := by
    intro a ha hne
    rcases h a ha with hnew | ⟨hold, huser⟩
    · exact .inl hnew
    · exact .inr ⟨hold, (List.mem_cons.mp huser).resolve_left hne⟩
  intro a ha
  unfold DataGroup.addInfo at ha
  split at ha
  · next hfind =>
    rcases List.mem_append.mp ha with ha | ha
    · exact hother a ha (by simpa using List.find?_eq_none.mp hfind a ha)
    · rw [List.mem_singleton.mp ha]
      exact .inl hinfo
  · next old hfind =>
    have huser : old.userId = info.userId := by simpa using List.find?_some hfind
    split at ha
    · next hsame =>
      by_cases heq : a.userId = info.userId
      · -- the info that stays has the new uid already
        have hsingle : a = old :=
          eq_of_key_eq hdistinct ha (List.mem_of_find?_eq_some hfind) (heq.trans huser.symm)
        have hid : a.uniqueId = info.uniqueId := by
          unfold DataGroupInfo.uniqueId
          rw [hsingle, huser, hsame.1]
        have hfields : a.uuid = uuidByKey groupId ∧ a.dataGroupId = groupId ∧ a.gid = a.uid := by
          rcases h a ha with hof | ⟨hof, -⟩
          all_goals exact ⟨hof.uuid, hof.dataGroupId, hof.gid⟩
        exact .inl ⟨by rw [hid]; exact hinfo.number, hfields.1, hfields.2.1, hfields.2.2⟩
      · exact hother a ha heq
    · rcases (mem_put_iff hdistinct).mp ha with ⟨ha, hne⟩ | rfl
      · exact hother a ha hne
      · exact .inl hinfo

/-- All users of one group. -/
theorem repairUsers_spec (hnumber : number groupId = some i) (rest : List Int)
    (husers : record.users = users) (hget : record.dataGroupInfos[groupId]? = some infos)
    (hdistinct : Distinct DataGroupInfo.userId infos) (hmixed : Mixed uuidByKey number own rest groupId infos) :
    ∃ infos', (∀ groupId', (rest.foldl (fun record userId => record.addDataGroupInfo groupId
        (numberedInfo groupId userId i (uuidByKey groupId))) record).dataGroupInfos[groupId']? =
          if groupId' = groupId then some infos' else record.dataGroupInfos[groupId']?) ∧
      GroupOk uuidByKey number groupId infos' ∧
      (rest.foldl (fun record userId => record.addDataGroupInfo groupId
        (numberedInfo groupId userId i (uuidByKey groupId))) record).users = users := by
  induction rest generalizing record infos with
  | nil =>
    refine ⟨infos, fun groupId' => ?_, ⟨hdistinct, fun info hinfo => ?_⟩, husers⟩
    · rw [List.foldl_nil]
      split
      · next heq => rw [heq, hget]
      · rfl
    · exact (hmixed info hinfo).resolve_right fun hold => List.not_mem_nil hold.2
  | cons userId rest ih =>
    have hinfo : OfGroup uuidByKey number groupId (numberedInfo groupId userId i (uuidByKey groupId)) :=
      ofGroup_numberedInfo hnumber userId
    have hget' : (record.addDataGroupInfo groupId
        (numberedInfo groupId userId i (uuidByKey groupId))).dataGroupInfos[groupId]? =
          some (addInfo infos (numberedInfo groupId userId i (uuidByKey groupId))) := by
      rw [getElem?_addDataGroupInfo, if_pos rfl, hget]
      rfl
    obtain ⟨infos', hinfos', hok, husers'⟩ := ih
      (by rw [addDataGroupInfo_users]; exact husers) hget' (distinct_addInfo hdistinct)
      (Mixed.addInfo hdistinct hmixed hinfo)
    refine ⟨infos', fun groupId' => ?_, hok, husers'⟩
    rw [List.foldl_cons, hinfos', getElem?_addDataGroupInfo]
    split <;> rfl

/-- A group as the repair of a record leaves it: made anew, or as it was, and right if it is not still to come. -/
def RepairInv (uuidByKey : Str → Str) (number : Str → Option Int) (record₀ : InnerBundleInfo) (rest : List Str)
    (record : InnerBundleInfo) : Prop :=
  record.users = record₀.users ∧ ∀ groupId,
    (record.dataGroupInfos[groupId]? = record₀.dataGroupInfos[groupId]? ∧ (groupId ∈ rest ∨
      ∀ infos, record₀.dataGroupInfos[groupId]? = some infos →
        GroupOk uuidByKey number groupId infos)) ∨
    ∃ infos, record.dataGroupInfos[groupId]? = some infos ∧ GroupOk uuidByKey number groupId infos

theorem RepairInv.done {record₀ : InnerBundleInfo} (h : RepairInv uuidByKey number record₀ [] record) :
    WellNumbered uuidByKey number record := by
  intro groupId infos hget
  rcases h.2 groupId with ⟨heq, hmem | hok⟩ | ⟨infos', hget', hok⟩
  · exact (List.not_mem_nil hmem).elim
  · exact hok infos (heq ▸ hget)
  · rw [hget] at hget'
    cases hget'
    exact hok

/-- What is repaired is of one numbering of its own, for users of the record, or right already. -/
structure Repairable (uuidByKey : Str → Str) (number own : Str → Option Int) (record : InnerBundleInfo) : Prop where
  distinct : ∀ (groupId : Str) (infos : List DataGroupInfo), record.dataGroupInfos[groupId]? = some infos →
    Distinct DataGroupInfo.userId infos
  uuid : ∀ (groupId : Str) (infos : List DataGroupInfo), record.dataGroupInfos[groupId]? = some infos →
    ∀ info ∈ infos, info.uuid = uuidByKey groupId
  mixed : ∀ (groupId : Str) (infos : List DataGroupInfo), record.dataGroupInfos[groupId]? = some infos →
    Mixed uuidByKey number own record.users groupId infos

theorem WellNumbered.repairable (h : WellNumbered uuidByKey own record) (husers : record.OfUsers) :
    Repairable uuidByKey number own record where
  distinct groupId infos hget := (h groupId infos hget).distinct
  uuid groupId infos hget info hinfo := ((h groupId infos hget).ofGroup info hinfo).uuid
  mixed groupId infos hget info hinfo :=
    .inr ⟨(h groupId infos hget).ofGroup info hinfo, husers groupId infos hget info hinfo⟩

theorem WellNumbered.repaired (h : WellNumbered uuidByKey number record) :
    Repairable uuidByKey number number record where
  distinct groupId infos hget := (h groupId infos hget).distinct
  uuid groupId infos hget info hinfo := ((h groupId infos hget).ofGroup info hinfo).uuid
  mixed groupId infos hget info hinfo := .inl ((h groupId infos hget).ofGroup info hinfo)

/-- One round, for a group that has an index. -/
theorem RepairInv.step {record₀ : InnerBundleInfo} {acc : InnerBundleInfo × Bool} {rest : List Str}
    (h₀ : Repairable uuidByKey (fun groupId => groupIdMap[groupId]?) own record₀)
    (h : RepairInv uuidByKey (fun groupId => groupIdMap[groupId]?) record₀ (groupId :: rest) acc.1)
    (hi : groupIdMap[groupId]? = some i) :
    RepairInv uuidByKey (fun groupId => groupIdMap[groupId]?) record₀ rest
      (repairStep groupIdMap record₀.dataGroupInfos record₀.users acc groupId).1 := by
  obtain ⟨husers, hall⟩ := h
  have hkeep : ∀ g, g ≠ groupId →
      (acc.1.dataGroupInfos[g]? = record₀.dataGroupInfos[g]? ∧ (g ∈ rest ∨
        ∀ infos, record₀.dataGroupInfos[g]? = some infos →
          GroupOk uuidByKey (fun groupId => groupIdMap[groupId]?) g infos)) ∨
      ∃ infos, acc.1.dataGroupInfos[g]? = some infos ∧
        GroupOk uuidByKey (fun groupId => groupIdMap[groupId]?) g infos := by
    intro g hne
    rcases hall g with ⟨heq, hmem | hok⟩ | hnew
    · exact .inl ⟨heq, .inl ((List.mem_cons.mp hmem).resolve_left hne)⟩
    · exact .inl ⟨heq, .inr hok⟩
    · exact .inr hnew
  unfold repairStep
  rw [hi]
  simp only
  split
  · next first infos₀ hget₀ =>
    rw [h₀.uuid groupId (first :: infos₀) hget₀ first List.mem_cons_self]
    have hstart : ∃ infos, acc.1.dataGroupInfos[groupId]? = some infos ∧ Distinct DataGroupInfo.userId infos ∧
        Mixed uuidByKey (fun groupId => groupIdMap[groupId]?) own record₀.users groupId infos := by
      rcases hall groupId with ⟨heq, -⟩ | ⟨infos, hget, hok⟩
      · exact ⟨first :: infos₀, heq.trans hget₀, h₀.distinct groupId _ hget₀, h₀.mixed groupId _ hget₀⟩
      · exact ⟨infos, hget, hok.distinct, fun info hinfo => .inl (hok.ofGroup info hinfo)⟩
    obtain ⟨infos, hget, hdistinct, hmixed⟩ := hstart
    obtain ⟨infos', hinfos', hok, husers'⟩ := repairUsers_spec hi record₀.users husers hget hdistinct hmixed
    refine ⟨husers', fun g => ?_⟩
    by_cases hg : g = groupId
    · refine .inr ⟨infos', ?_, hg ▸ hok⟩
      rw [hinfos', if_pos hg]
    · rw [hinfos', if_neg hg]
      exact hkeep g hg
  · next hother =>
    refine ⟨husers, fun g => ?_⟩
    by_cases hg : g = groupId
    · rw [hg]
      rcases hall groupId with ⟨heq, -⟩ | hnew
      · -- the record has no info of the group
        refine .inl ⟨heq, .inr fun infos hget => ?_⟩
        cases infos with
        | nil => exact groupOk_nil
        | cons first rest => exact (hother first rest hget).elim
      · exact .inr hnew
    · exact hkeep g hg

theorem RepairInv.steps {record₀ : InnerBundleInfo} (acc : InnerBundleInfo × Bool) (groups : List Str)
    (h₀ : Repairable uuidByKey (fun groupId => groupIdMap[groupId]?) own record₀)
    (h : RepairInv uuidByKey (fun groupId => groupIdMap[groupId]?) record₀ groups acc.1)
    (hgroups : ∀ groupId ∈ groups, ∃ i, groupIdMap[groupId]? = some i) :
    RepairInv uuidByKey (fun groupId => groupIdMap[groupId]?) record₀ []
      (groups.foldl (repairStep groupIdMap record₀.dataGroupInfos record₀.users) acc).1 := by
  induction groups generalizing acc with
  | nil => exact h
  | cons groupId groups ih =>
    obtain ⟨i, hi⟩ := hgroups groupId List.mem_cons_self
    rw [List.foldl_cons]
    exact ih _ (h.step h₀ hi) fun g hg => hgroups g (List.mem_cons_of_mem _ hg)

/-! ## All bundles -/

variable {mgr : BundleDataMgr} {saved : Bool} {name name' : Str}

theorem saveStorageBundleInfo_bundleInfos :
    (mgr.saveStorageBundleInfo saved name record).bundleInfos = mgr.bundleInfos := by
  unfold BundleDataMgr.saveStorageBundleInfo
  split <;> rfl

theorem saveCurrent_bundleInfos : (mgr.saveCurrent saved name).bundleInfos = mgr.bundleInfos := by
  unfold BundleDataMgr.saveCurrent
  split
  · rfl
  · exact saveStorageBundleInfo_bundleInfos

theorem EachNumbered.insert (h : EachNumbered uuidByKey bundleInfos) (hown : Indexes own)
    (hrecord : WellNumbered uuidByKey own record) : EachNumbered uuidByKey (bundleInfos.insert name record) := by
  intro name' record' hget
  rw [getElem?_insert_eq] at hget
  split at hget
  · cases hget
    exact ⟨own, hown, hrecord⟩
  · exact h name' record' hget

theorem EachNumbered.saveStorage (mgr : BundleDataMgr) (h : EachNumbered uuidByKey mgr.storage) (hown : Indexes own)
    (hrecord : WellNumbered uuidByKey own record) :
    EachNumbered uuidByKey (mgr.saveStorageBundleInfo saved name record).storage := by
  unfold BundleDataMgr.saveStorageBundleInfo
  split
  · exact h.insert hown hrecord
  · exact h

/-- A group that has kept the index of its first info. -/
theorem groupOk_of_first (h : GroupOk uuidByKey own groupId infos)
    (hfirst : ∀ first rest, infos = first :: rest → number groupId = some first.uniqueId) :
    GroupOk uuidByKey number groupId infos := by
  refine ⟨h.distinct, fun info hinfo => ?_⟩
  have hof := h.ofGroup info hinfo
  refine ⟨?_, hof.uuid, hof.dataGroupId, hof.gid⟩
  cases infos with
  | nil => exact (List.not_mem_nil hinfo).elim
  | cons first rest =>
    rw [hfirst first rest rfl, ← (h.ofGroup first List.mem_cons_self).number]
    exact hof.number

/-- A bundle as the loop leaves it: repaired, or as it was, and right if it is not still to come. -/
def BundleInv (uuidByKey : Str → Str) (number : Str → Option Int) (bundleInfos₀ : StrMap InnerBundleInfo)
    (rest : List (Str × StrSet)) (bundleInfos : StrMap InnerBundleInfo) : Prop :=
  ∀ name : Str,
    (bundleInfos[name]? = bundleInfos₀[name]? ∧ ((∃ groups, (name, groups) ∈ rest) ∨
      ∀ record, bundleInfos₀[name]? = some record → WellNumbered uuidByKey number record)) ∨
    ∃ record, bundleInfos[name]? = some record ∧ WellNumbered uuidByKey number record

theorem BundleInv.done {bundleInfos₀ : StrMap InnerBundleInfo} (h : BundleInv uuidByKey number bundleInfos₀ [] bundleInfos) :
    AllNumbered uuidByKey number bundleInfos := by
  intro name record hget
  rcases h name with ⟨heq, ⟨groups, hmem⟩ | hok⟩ | ⟨record', hget', hok⟩
  · exact (List.not_mem_nil hmem).elim
  · exact hok record (heq ▸ hget)
  · rw [hget] at hget'
    cases hget'
    exact hok

/-- The groups of a bundle's row of the table of errors have an index, its other groups have kept theirs. -/
def ErrorsOk (uuidByKey : Str → Str) (groupIdMap : StrMap Int) (bundleInfos₀ : StrMap InnerBundleInfo)
    (item : Str × StrSet) : Prop :=
  (∀ groupId ∈ item.2, ∃ i, groupIdMap[groupId]? = some i) ∧
  ∀ (record : InnerBundleInfo) (groupId : Str) (infos : List DataGroupInfo), bundleInfos₀[item.1]? = some record →
    record.dataGroupInfos[groupId]? = some infos → groupId ∉ item.2 →
      GroupOk uuidByKey (fun groupId => groupIdMap[groupId]?) groupId infos

theorem BundleInv.step {bundleInfos₀ : StrMap InnerBundleInfo} {rest : List (Str × StrSet)}
    {acc : BundleDataMgr × Bool} {item : Str × StrSet} (h₀ : EachNumbered uuidByKey bundleInfos₀)
    (husers : AllOfUsers bundleInfos₀)
    (herrors : ErrorsOk uuidByKey groupIdMap bundleInfos₀ item)
    (hnumber : Indexes fun groupId => groupIdMap[groupId]?)
    (h : BundleInv uuidByKey (fun groupId => groupIdMap[groupId]?) bundleInfos₀ (item :: rest) acc.1.bundleInfos)
    (hstorage : EachNumbered uuidByKey acc.1.storage) :
    BundleInv uuidByKey (fun groupId => groupIdMap[groupId]?) bundleInfos₀ rest
        (repairBundle saveOk groupIdMap acc item).1.bundleInfos ∧
      EachNumbered uuidByKey (repairBundle saveOk groupIdMap acc item).1.storage := by
  obtain ⟨name, groups⟩ := item
  -- other bundles are left alone; what this one becomes is left to show
  have hset : ∀ (bundleInfos : StrMap InnerBundleInfo) (record : InnerBundleInfo), bundleInfos[name]? = some record →
      WellNumbered uuidByKey (fun groupId => groupIdMap[groupId]?) record →
      (∀ name', name' ≠ name → bundleInfos[name']? = acc.1.bundleInfos[name']?) →
      BundleInv uuidByKey (fun groupId => groupIdMap[groupId]?) bundleInfos₀ rest bundleInfos := by
    intro bundleInfos record hget hrecord hothers name'
    by_cases hn : name' = name
    · exact .inr ⟨record, hn ▸ hget, hrecord⟩
    · rw [hothers name' hn]
      rcases h name' with ⟨heq, ⟨groups', hmem⟩ | hok⟩ | hnew
      · refine .inl ⟨heq, .inl ⟨groups', (List.mem_cons.mp hmem).resolve_left fun e => hn ?_⟩⟩
        exact (Prod.mk.inj e).1
      · exact .inl ⟨heq, .inr hok⟩
      · exact .inr hnew
  unfold repairBundle
  simp only
  split
  · next hget =>
    refine ⟨fun name' => ?_, hstorage⟩
    rcases h name' with ⟨heq, ⟨groups', hmem⟩ | hok⟩ | hnew
    · by_cases hn : name' = name
      · refine .inl ⟨heq, .inr fun record hrecord => ?_⟩
        rw [← heq, hn, hget] at hrecord
        cases hrecord
      · refine .inl ⟨heq, .inl ⟨groups', (List.mem_cons.mp hmem).resolve_left fun e => hn ?_⟩⟩
        exact (Prod.mk.inj e).1
    · exact .inl ⟨heq, .inr hok⟩
    · exact .inr hnew
  · next record hget =>
    -- the record the round finds is the one from the start, or repaired already
    have hstart : ∃ own, Repairable uuidByKey (fun groupId => groupIdMap[groupId]?) own record ∧
        RepairInv uuidByKey (fun groupId => groupIdMap[groupId]?) record groups.toList record := by
      rcases h name with ⟨heq, -⟩ | ⟨record', hget', hok⟩
      · have hget₀ := heq.symm.trans hget
        obtain ⟨own, -, hrecord⟩ := h₀ name record hget₀
        refine ⟨own, hrecord.repairable (husers.ofUsers hget₀), rfl, fun groupId => .inl ⟨rfl, ?_⟩⟩
        by_cases hg : groupId ∈ groups
        · exact .inl (ExtTreeSet.mem_toList.mpr hg)
        · exact .inr fun infos hinfos => herrors.2 record groupId infos hget₀ hinfos hg
      · rw [hget] at hget'
        cases hget'
        exact ⟨_, hok.repaired, rfl, fun groupId => .inl ⟨rfl, .inr fun infos hinfos => hok groupId infos hinfos⟩⟩
    obtain ⟨own, hrecord, hinv⟩ := hstart
    split
    · next hempty =>
      refine ⟨hset _ record hget (fun groupId infos hinfos => ?_) fun _ _ => rfl, hstorage⟩
      rw [ExtTreeMap.isEmpty_iff.mp hempty, ExtTreeMap.getElem?_empty] at hinfos
      cases hinfos
    · have hdone := (RepairInv.steps (record, acc.2) groups.toList hrecord hinv
        fun g hg => herrors.1 g (ExtTreeSet.mem_toList.mp hg)).done
      refine ⟨hset _ _ ?_ hdone fun name' hn => ?_, hstorage.saveStorage (acc.1.setRecord name _) hnumber hdone⟩
      · rw [saveStorageBundleInfo_bundleInfos]
        exact (getElem?_insert_eq ..).trans (if_pos rfl)
      · rw [saveStorageBundleInfo_bundleInfos]
        exact (getElem?_insert_eq ..).trans (if_neg hn)

theorem BundleInv.steps {bundleInfos₀ : StrMap InnerBundleInfo} (items : List (Str × StrSet))
    (acc : BundleDataMgr × Bool) (h₀ : EachNumbered uuidByKey bundleInfos₀)
    (husers : AllOfUsers bundleInfos₀)
    (herrors : ∀ item ∈ items, ErrorsOk uuidByKey groupIdMap bundleInfos₀ item)
    (hnumber : Indexes fun groupId => groupIdMap[groupId]?)
    (h : BundleInv uuidByKey (fun groupId => groupIdMap[groupId]?) bundleInfos₀ items acc.1.bundleInfos)
    (hstorage : EachNumbered uuidByKey acc.1.storage) :
    AllNumbered uuidByKey (fun groupId => groupIdMap[groupId]?)
        (items.foldl (repairBundle saveOk groupIdMap) acc).1.bundleInfos ∧
      EachNumbered uuidByKey (items.foldl (repairBundle saveOk groupIdMap) acc).1.storage := by
  induction items generalizing acc with
  | nil => exact ⟨h.done, hstorage⟩
  | cons item items ih =>
    obtain ⟨hstep, hrows⟩ := h.step saveOk h₀ husers (herrors item List.mem_cons_self) hnumber hstorage
    rw [List.foldl_cons]
    exact ih _ (fun i hi => herrors i (List.mem_cons_of_mem _ hi)) hstep hrows

/-- **The scan makes all bundles agree**, if there are not more groups than indexes and the infos are of users
that the bundles have: those of other users are not made anew. -/
theorem scanAllBundleGroupInfo_spec (mgr : BundleDataMgr) (h : EachNumbered uuidByKey mgr.bundleInfos)
    (husers : AllOfUsers mgr.bundleInfos)
    (hstorage : EachNumbered uuidByKey mgr.storage)
    (hroom : (groupIds mgr.bundleInfos).toFinset.card ≤ (DATA_GROUP_UID_OFFSET - DATA_GROUP_INDEX_START).toNat) :
    (∃ number, Indexes number ∧
      AllNumbered uuidByKey number (scanAllBundleGroupInfo order saveOk mgr).1.bundleInfos) ∧
    EachNumbered uuidByKey (scanAllBundleGroupInfo order saveOk mgr).1.storage := by
  have hscan := scanMaps_spec order h
  unfold scanAllBundleGroupInfo
  generalize scanMaps order mgr.bundleInfos = maps at hscan ⊢
  simp only
  have hhandle := handleGroupIdAndIndex_spec hscan hroom
  generalize handleGroupIdAndIndex maps.errorGroupIds (maps.indexMap, maps.groupIdMap) = handled at hhandle ⊢
  obtain ⟨hinverse, hle, herror⟩ := hhandle
  have hsettled : ∀ (name : Str) (record : InnerBundleInfo) (groupId : Str) (infos : List DataGroupInfo),
      mgr.bundleInfos[name]? = some record → record.dataGroupInfos[groupId]? = some infos →
        (∀ groups : StrSet, maps.needProcessGroupInfoBundleNames[name]? = some groups → groupId ∉ groups) →
          GroupOk uuidByKey (fun groupId => handled.2[groupId]?) groupId infos := by
    intro name record groupId infos hrecord hinfos hnot
    obtain ⟨own, hown, hwell⟩ := h name record hrecord
    refine groupOk_of_first (hwell groupId infos hinfos) fun first rest heq => ?_
    rcases hscan.settled name record groupId first rest hrecord (heq ▸ hinfos) with hset | ⟨groups, hget, hmem⟩
    · exact hle groupId _ hset
    · exact absurd hmem (hnot groups hget)
  unfold handleErrorDataGroupInfos
  split
  · next hskip =>
    refine ⟨⟨_, hinverse.indexes, fun name record hrecord groupId infos hinfos => ?_⟩, hstorage⟩
    refine hsettled name record groupId infos hrecord hinfos fun groups hget hmem => ?_
    -- a row of the table of errors says that both maps have entries
    obtain ⟨i, hi⟩ := herror groupId (hscan.error name groups groupId hget hmem)
    rw [isEmpty_false_of_get hi, isEmpty_false_of_get hget] at hskip
    cases hskip
  · have hitems := BundleInv.steps saveOk maps.needProcessGroupInfoBundleNames.toList (mgr, true) h husers
      (by
        rintro ⟨name, groups⟩ hitem
        have hget := ExtTreeMap.mem_toList_iff_getElem?_eq_some.mp hitem
        refine ⟨fun groupId hmem => herror groupId (hscan.error name groups groupId hget hmem),
          fun record groupId infos hrecord hinfos hnot => hsettled name record groupId infos hrecord hinfos ?_⟩
        intro groups' hget'
        rw [hget] at hget'
        cases hget'
        exact hnot)
      hinverse.indexes
      (by
        intro name
        refine .inl ⟨rfl, ?_⟩
        cases hget : maps.needProcessGroupInfoBundleNames[name]? with
        | some groups => exact .inl ⟨groups, ExtTreeMap.mem_toList_iff_getElem?_eq_some.mpr hget⟩
        | none =>
          refine .inr fun record hrecord groupId infos hinfos => hsettled name record groupId infos hrecord hinfos ?_
          intro groups hget'
          rw [hget] at hget'
          cases hget')
      hstorage
    exact ⟨⟨_, hinverse.indexes, hitems.1⟩, hitems.2⟩

/-! ## Records that agree -/

/-- The scan of records that agree finds no error. -/
structure Agreed (number : Str → Option Int) (acc : ScanMaps) : Prop where
  inverse : Inverse (acc.indexMap, acc.groupIdMap)
  number : ∀ (groupId : Str) (i : Int), acc.groupIdMap[groupId]? = some i → number groupId = some i
  bundles : acc.needProcessGroupInfoBundleNames = ∅
  errors : acc.errorGroupIds = ∅

theorem Agreed.step {acc : ScanMaps} (h : Agreed number acc) (hnumber : Indexes number) (bundleName : Str)
    (item : Str × List DataGroupInfo) (hitem : ∀ info ∈ item.2, number item.1 = some info.uniqueId) :
    Agreed number (scanStep bundleName acc item) := by
  unfold scanStep
  split
  · exact h
  · next first rest heq =>
    have hfirst := hitem first (by rw [heq]; exact List.mem_cons_self)
    simp only
    split
    · next hnone =>
      refine ⟨h.inverse.insert hnone.1 hnone.2 (hnumber.lower hfirst) (hnumber.upper hfirst), fun groupId i hget => ?_,
        h.bundles, h.errors⟩
      rw [getElem?_insert_eq] at hget
      split at hget
      · next hg =>
        cases hget
        rw [hg]
        exact hfirst
      · exact h.number groupId i hget
    · next hnone =>
      rw [if_pos]
      · exact h
      · rcases hindex : acc.indexMap[first.uniqueId]? with _ | groupId
        · rcases hgroup : acc.groupIdMap[item.1]? with _ | i
          · exact absurd ⟨hindex, hgroup⟩ hnone
          · have hi : i = first.uniqueId := Option.some.inj ((h.number _ _ hgroup).symm.trans hfirst)
            have hinv := (h.inverse.iff i item.1).mpr hgroup
            rw [hi] at hinv
            exact hindex.symm.trans hinv
        · have hgroup := h.number _ _ ((h.inverse.iff _ _).mp hindex)
          rw [hnumber.injective hgroup hfirst]

/-- **Records that agree are left as they are.** -/
theorem scan_of_numbered (mgr : BundleDataMgr) (hnumber : Indexes number)
    (h : AllNumbered uuidByKey number mgr.bundleInfos) : scanAllBundleGroupInfo order saveOk mgr = (mgr, true) := by
  have hstart : Agreed number {} := by
    refine ⟨⟨fun i groupId => ?_, fun groupId i hget => ?_⟩, fun groupId i hget => ?_, rfl, rfl⟩
    · rw [ExtTreeMap.getElem?_empty, ExtTreeMap.getElem?_empty]
      exact ⟨nofun, nofun⟩
    all_goals
      rw [ExtTreeMap.getElem?_empty] at hget
      cases hget
  have hmaps : Agreed number (scanMaps order mgr.bundleInfos) := by
    unfold scanMaps
    refine List.foldlRecOn (motive := Agreed number) mgr.bundleInfos.toList _ hstart ?_
    rintro acc hacc ⟨name, record⟩ hrecord
    refine List.foldlRecOn (motive := Agreed number) (order.walk record.dataGroupInfos) _ hacc ?_
    rintro acc hacc ⟨groupId, infos⟩ hitem
    refine hacc.step hnumber name (groupId, infos) fun info hinfo => ?_
    exact ((h name record (ExtTreeMap.mem_toList_iff_getElem?_eq_some.mp hrecord) groupId infos
      (order.mem_iff.mp hitem)).ofGroup info hinfo).number
  unfold scanAllBundleGroupInfo handleErrorDataGroupInfos
  simp only
  rw [hmaps.bundles, if_pos]
  rw [ExtTreeMap.isEmpty_empty, Bool.or_true]

end BundleFramework.DataGroup
