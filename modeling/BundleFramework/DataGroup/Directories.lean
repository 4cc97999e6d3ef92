import BundleFramework.DataGroup.Runs

/-!
# The directories of data groups

`GenerateDataGroupInfos` and its like leave requests to installd that are made when the lock of
the bundles is released, so they can be made in any order, and after what others do in between.
A directory is deleted for a group that nobody has any more for the user.  As long as no such
group is given to a bundle again before its directory is deleted, no info loses its directory
(`dir_kept`).
-/

namespace BundleFramework.DataGroup

open Std MapLoop KeyedList StepRun

/-! ## Steps -/

/-- `dirs` are user and uuid of the directories that there are. -/
structure DirState where
  state : State := {}
  pending : List Job := []
  dirs : List (Int × Str) := []

/-- installd makes a request, of which `done` are the directories it can create or delete. -/
inductive Act where
  | op (op : Op)
  | perform (i : Nat) (done : Int × Str → Bool)

variable (order : GroupOrder) (uuidByKey : Str → Str)

def Job.perform (done : Int × Str → Bool) (dirs : List (Int × Str)) : Job → List (Int × Str)
  | .create request =>
    dirs ++ (request.dataGroupInfos.map fun info => (info.userId, info.uuid)).filter done
  | .delete request =>
    dirs.filter fun dir => !(decide (dir.1 = request.userId ∧ dir.2 ∈ request.uuidList) && done dir)

/-- A reboot takes the requests away that have not been made. -/
def dirStep (s : DirState) : Act → DirState
  | .op op =>
    let (state, jobs) := run order uuidByKey s.state op
    { s with
      state := state
      pending := match op with
        | .reboot => []
        | .upgrade _ => []
        | _ => s.pending ++ jobs }
  | .perform i done =>
    match s.pending[i]? with
    | none => s
    | some job => { s with pending := s.pending.eraseIdx i, dirs := job.perform done s.dirs }

/-- The directory of the group is going to be deleted for the user. -/
def Pending (pending : List Job) (groupId : Str) (userId : Int) : Prop :=
  ∃ request, Job.delete request ∈ pending ∧ request.userId = userId ∧ uuidByKey groupId ∈ request.uuidList

/-- The operation gives no group to a user whose directory is going to be deleted. -/
def Act.Clear (s : DirState) : Act → Prop
  | .op (.generate _ bundleName dataGroupIdList userId _) => ∀ record ∈ s.state.mgr.bundleInfos[bundleName]?,
      ∀ groupId ∈ dataGroupIdList, ∀ u ∈ userId :: record.users, ¬ Pending uuidByKey s.pending groupId u
  | .op (.newUser _ bundleName userId) => ∀ record ∈ s.state.mgr.bundleInfos[bundleName]?,
      ∀ groupId ∈ record.dataGroupInfos, ¬ Pending uuidByKey s.pending groupId userId
  | _ => True

def Act.Ok (s : DirState) (act : Act) : Prop :=
  act.Clear uuidByKey s ∧ match act with
    | .op o => o.Ok s.state
    | .perform .. => True

/-! ## Which infos an operation adds -/

variable {uuidByKey : Str → Str} {number : Str → Option Int} {record : InnerBundleInfo} {groupId : Str}
  {userId : Int} {info : DataGroupInfo} {infos : List DataGroupInfo} {users : List Int} {p : Str → Int → Prop}
  {bundleInfos : StrMap InnerBundleInfo} {mgr : BundleDataMgr} {bundleName : Str}

theorem Within.setGroup (h : record.Within p) (hinfos : ∀ info ∈ infos, p groupId info.userId) :
    (record.setGroup groupId infos).Within p := by
  intro groupId' infos' hget
  rw [getElem?_setGroup] at hget
  split at hget
  · next heq =>
    cases hget
    rw [heq]
    exact hinfos
  · exact h groupId' infos' hget

theorem Within.addDataGroupInfo (h : record.Within p) (hinfo : p groupId info.userId) :
    (record.addDataGroupInfo groupId info).Within p := by
  unfold InnerBundleInfo.addDataGroupInfo
  split
  · refine Within.setGroup h fun a ha => ?_
    rw [List.mem_singleton.mp ha]
    exact hinfo
  · next infos hget =>
    refine Within.setGroup h fun a ha => ?_
    rcases mem_addInfo ha with ha | rfl
    · exact h groupId infos hget a ha
    · exact hinfo

theorem Within.removeGroupInfos (h : record.Within p) (userId : Int) (groupId : Str) :
    (record.removeGroupInfos userId groupId).Within p := by
  unfold InnerBundleInfo.removeGroupInfos
  split
  · exact h
  · next infos hget => exact Within.setGroup h fun a ha => h groupId infos hget a (mem_of_mem_remove ha)

theorem Within.addGroupsOf {dataGroupInfos : StrMap (List DataGroupInfo)} (h : record.Within p)
    (hgroups : ∀ groupId ∈ dataGroupInfos, p groupId userId) :
    (addGroupsOf order dataGroupInfos record userId).Within p := by
  unfold DataGroup.addGroupsOf
  refine List.foldlRecOn (motive := InnerBundleInfo.Within p) (order.walk dataGroupInfos) _ h ?_
  rintro r hr ⟨groupId, infos⟩ hitem
  split
  · exact hr
  · refine Within.addDataGroupInfo hr (hgroups groupId ?_)
    rw [ExtTreeMap.mem_iff_isSome_getElem?, (order.mem_iff (m := dataGroupInfos)).mp hitem]
    rfl

/-- The groups of a record after one more info. -/
theorem mem_addDataGroupInfo {groupId' : Str} (h : groupId' ∈ (record.addDataGroupInfo groupId info).dataGroupInfos) :
    groupId' ∈ record.dataGroupInfos ∨ groupId' = groupId := by
  rw [ExtTreeMap.mem_iff_isSome_getElem?, getElem?_addDataGroupInfo] at h
  split at h
  · next heq => exact .inr heq
  · exact .inl (ExtTreeMap.mem_iff_isSome_getElem?.mpr h)

theorem generateStep_within {ids : List Str} {dataGroupIndexMap : StrMap (Int × Str)}
    {acc : InnerBundleInfo × ExtTreeSet Int} (hp : p groupId userId) (hmem : groupId ∈ ids)
    (h : acc.1.Within p ∧ ∀ g ∈ acc.1.dataGroupInfos, g ∈ ids) :
    (generateStep uuidByKey dataGroupIndexMap userId acc groupId).1.Within p ∧
      ∀ g ∈ (generateStep uuidByKey dataGroupIndexMap userId acc groupId).1.dataGroupInfos, g ∈ ids := by
  have hadd : ∀ info : DataGroupInfo, info.userId = userId →
      (acc.1.addDataGroupInfo groupId info).Within p ∧
        ∀ g ∈ (acc.1.addDataGroupInfo groupId info).dataGroupInfos, g ∈ ids := by
    intro info huser
    refine ⟨Within.addDataGroupInfo h.1 (by rw [huser]; exact hp), fun g hg => ?_⟩
    rcases mem_addDataGroupInfo hg with hg | rfl
    · exact h.2 g hg
    · exact hmem
  unfold generateStep
  split
  · exact hadd _ rfl
  · refine hadd _ ?_
    unfold generateDataGroupUuidAndUid
    split <;> rfl

theorem dropGroups_keys (ids : List Str) : ∀ g ∈ (BundleDataMgr.dropGroups order ids record).dataGroupInfos, g ∈ ids := by
  have hkeep : ∀ (items : List (Str × List DataGroupInfo)) (r : InnerBundleInfo),
      (∀ g ∈ r.dataGroupInfos, g ∈ ids ∨ ∃ infos, (g, infos) ∈ items) →
      ∀ g ∈ (items.foldl (fun record dataItem =>
        if dataItem.1 ∈ ids then record else record.deleteDataGroupInfo dataItem.1) r).dataGroupInfos, g ∈ ids := by
    intro items
    induction items with
    | nil =>
      intro r hr g hg
      exact (hr g hg).resolve_right fun ⟨infos, hmem⟩ => List.not_mem_nil hmem
    | cons item items ih =>
      intro r hr
      rw [List.foldl_cons]
      refine ih _ fun g hg => ?_
      split at hg
      · next hids =>
        rcases hr g hg with hg | ⟨infos, hmem⟩
        · exact .inl hg
        · rcases List.mem_cons.mp hmem with heq | hmem
          · refine .inl ?_
            rw [← heq] at hids
            exact hids
          · exact .inr ⟨infos, hmem⟩
      · rw [show (r.deleteDataGroupInfo item.1).dataGroupInfos = r.dataGroupInfos.erase item.1 from rfl,
          ExtTreeMap.mem_erase] at hg
        rcases hr g hg.2 with hids | ⟨infos, hmem⟩
        · exact .inl hids
        · refine .inr ⟨infos, (List.mem_cons.mp hmem).resolve_left fun heq => hg.1 ?_⟩
          rw [← heq]
          exact ReflOrd.compare_self
  refine hkeep _ record fun g hg => .inr ?_
  obtain ⟨infos, hinfos⟩ := Option.isSome_iff_exists.mp (ExtTreeMap.mem_iff_isSome_getElem?.mp hg)
  exact ⟨infos, order.mem_iff.mpr hinfos⟩

def AllWithin (p : Str → Int → Prop) (bundleInfos : StrMap InnerBundleInfo) : Prop :=
  ∀ (name : Str) (record : InnerBundleInfo), bundleInfos[name]? = some record → record.Within p

theorem AllWithin.insert (h : AllWithin p bundleInfos) (hrecord : record.Within p) (name : Str) :
    AllWithin p (bundleInfos.insert name record) := by
  intro name' record' hget
  rw [getElem?_insert_eq] at hget
  split at hget
  · cases hget
    exact hrecord
  · exact h name' record' hget

theorem dropGroups_within (ids : List Str) (h : record.Within p) :
    (BundleDataMgr.dropGroups order ids record).Within p ∧
      (BundleDataMgr.dropGroups order ids record).users = record.users := by
  unfold BundleDataMgr.dropGroups
  refine List.foldlRecOn (motive := fun r : InnerBundleInfo => r.Within p ∧ r.users = record.users) _ _ ⟨h, rfl⟩ ?_
  rintro r ⟨hr, husers⟩ item -
  split
  · exact ⟨hr, husers⟩
  · refine ⟨fun groupId infos hget => ?_, husers⟩
    rw [show (r.deleteDataGroupInfo item.1).dataGroupInfos = r.dataGroupInfos.erase item.1 from rfl,
      getElem?_erase_eq] at hget
    split at hget
    · cases hget
    · exact hr groupId infos hget

theorem generateStep_users {dataGroupIndexMap : StrMap (Int × Str)} {acc : InnerBundleInfo × ExtTreeSet Int} :
    (generateStep uuidByKey dataGroupIndexMap userId acc groupId).1.users = acc.1.users := by
  unfold generateStep
  split <;> exact addDataGroupInfo_users

theorem generateDataGroupInfos_within {saveOk needSaveStorage : Bool} {ids : List Str}
    (h : AllWithin p mgr.bundleInfos)
    (hp : ∀ record ∈ mgr.bundleInfos[bundleName]?, ∀ groupId ∈ ids, ∀ u ∈ userId :: record.users, p groupId u) :
    AllWithin p
      (mgr.generateDataGroupInfos order uuidByKey saveOk bundleName ids userId needSaveStorage).1.bundleInfos := by
  unfold BundleDataMgr.generateDataGroupInfos
  split
  · exact h
  · next record hget =>
    have hp := hp record hget
    obtain ⟨hdropped, husers⟩ := dropGroups_within order ids (h bundleName record hget)
    have hkeys : ∀ g ∈ (BundleDataMgr.dropGroups order ids record).dataGroupInfos, g ∈ ids := dropGroups_keys order ids
    generalize BundleDataMgr.dropGroups order ids record = dropped at hdropped husers hkeys
    simp only
    split
    · exact h.insert hdropped bundleName
    · have hloop : ∀ set : ExtTreeSet Int, ∀ map : StrMap (Int × Str),
          ((ids.foldl (generateStep uuidByKey map userId) (dropped, set)).1.Within p ∧
            ∀ g ∈ (ids.foldl (generateStep uuidByKey map userId) (dropped, set)).1.dataGroupInfos, g ∈ ids) ∧
          (ids.foldl (generateStep uuidByKey map userId) (dropped, set)).1.users = record.users := by
        intro set map
        refine List.foldlRecOn (motive := fun acc : InnerBundleInfo × ExtTreeSet Int =>
          (acc.1.Within p ∧ ∀ g ∈ acc.1.dataGroupInfos, g ∈ ids) ∧ acc.1.users = record.users)
          ids _ ?_ ?_
        · exact ⟨⟨hdropped, hkeys⟩, husers⟩
        rintro acc ⟨hacc, hsame⟩ groupId hmem
        exact ⟨generateStep_within (hp groupId hmem userId List.mem_cons_self) hmem hacc, generateStep_users.trans hsame⟩
      have hfinal : (processAllUserDataGroupInfosWhenBundleUpdate order
          (ids.foldl (generateStep uuidByKey (getDataGroupIndexMap order
            (mgr.setRecord bundleName dropped).bundleInfos).1 userId)
            (dropped, (getDataGroupIndexMap order (mgr.setRecord bundleName dropped).bundleInfos).2)).1).Within p := by
        obtain ⟨⟨hwithin, hids⟩, hsame⟩ := hloop
          (getDataGroupIndexMap order (mgr.setRecord bundleName dropped).bundleInfos).2
          (getDataGroupIndexMap order (mgr.setRecord bundleName dropped).bundleInfos).1
        unfold processAllUserDataGroupInfosWhenBundleUpdate
        refine List.foldlRecOn (motive := InnerBundleInfo.Within p) _ _ hwithin ?_
        intro r hr u hu
        refine Within.addGroupsOf order hr fun g hg => hp g (hids g hg) u (List.mem_cons_of_mem _ ?_)
        rwa [hsame] at hu
      have hmemory := (h.insert hdropped bundleName).insert hfinal bundleName
      split
      · rw [saveStorageBundleInfo_bundleInfos]
        exact hmemory
      · exact hmemory

theorem generateNewUserDataGroupInfos_within {saveOk : Bool} (h : AllWithin p mgr.bundleInfos)
    (hp : ∀ record ∈ mgr.bundleInfos[bundleName]?, ∀ groupId ∈ record.dataGroupInfos, p groupId userId) :
    AllWithin p (mgr.generateNewUserDataGroupInfos order saveOk bundleName userId).1.bundleInfos := by
  unfold BundleDataMgr.generateNewUserDataGroupInfos
  split
  · exact h
  · next record hget =>
    split
    · exact h
    · rw [saveStorageBundleInfo_bundleInfos]
      exact h.insert (Within.addGroupsOf order (h bundleName record hget) (hp record hget)) bundleName

theorem Within.update {newInfos : StrMap (List DataGroupInfo)} (h : record.Within p)
    (hnew : newInfos = ∅ ∨ newInfos = record.dataGroupInfos) : (record.updateDataGroupInfos order newInfos).Within p := by
  have hinfos : ∀ (groupId : Str) (infos : List DataGroupInfo), newInfos[groupId]? = some infos →
      ∀ info ∈ infos, p groupId info.userId := by
    intro groupId infos hget
    rcases hnew with rfl | rfl
    · rw [ExtTreeMap.getElem?_empty] at hget
      cases hget
    · exact h groupId infos hget
  unfold InnerBundleInfo.updateDataGroupInfos
  refine List.foldlRecOn (motive := InnerBundleInfo.Within p) (order.walk newInfos) _ ?_ ?_
  · intro groupId infos hget
    simp only at hget
    rw [ExtTreeMap.getElem?_filterMap'] at hget
    obtain ⟨infos₀, hget₀, hkeep⟩ := Option.bind_eq_some_iff.mp hget
    exact fun info hinfo => h groupId infos₀ hget₀ info ((keptInfos_sublist hkeep).subset hinfo)
  · rintro r hr ⟨groupId, infos⟩ hitem
    refine List.foldlRecOn (motive := InnerBundleInfo.Within p) infos _ hr ?_
    intro r hr info hinfo
    exact Within.addDataGroupInfo hr (hinfos groupId infos (order.mem_iff.mp hitem) info hinfo)

theorem AllWithin.erase (h : AllWithin p bundleInfos) (name : Str) : AllWithin p (bundleInfos.erase name) := by
  intro name' record hget
  rw [getElem?_erase_eq] at hget
  split at hget
  · cases hget
  · exact h name' record hget

theorem AllWithin.imp {q : Str → Int → Prop} (h : AllWithin p bundleInfos)
    (himp : ∀ groupId userId, p groupId userId → q groupId userId) : AllWithin q bundleInfos :=
  fun name record hget groupId infos hinfos info hinfo =>
    himp _ _ (h name record hget groupId infos hinfos info hinfo)

/-! ## Deletion -/

/-- Nobody has the group for the user. -/
def Gone (bundleInfos : StrMap InnerBundleInfo) (groupId : Str) (userId : Int) : Prop :=
  AllWithin (fun groupId' userId' => ¬ (groupId' = groupId ∧ userId' = userId)) bundleInfos

theorem gone_of_not_exist (h : mgr.isDataGroupIdExistNoLock groupId userId = false) :
    Gone mgr.bundleInfos groupId userId := by
  rintro name record hget groupId' infos hinfos info hinfo ⟨rfl, rfl⟩
  have hnone := List.any_eq_false.mp h (name, record) (ExtTreeMap.mem_toList_iff_getElem?_eq_some.mpr hget)
  simp only [hinfos, Option.getD_some, List.any_eq_true] at hnone
  exact hnone ⟨info, hinfo, by simp⟩

theorem deleteStep_within {keepData : Bool} {acc : BundleDataMgr × List Str} {item : Str × List DataGroupInfo}
    (h : AllWithin p acc.1.bundleInfos) :
    AllWithin p (BundleDataMgr.deleteStep bundleName userId keepData acc item).1.bundleInfos := by
  unfold BundleDataMgr.deleteStep
  split
  · next record _ hget => exact h.insert (Within.removeGroupInfos (h bundleName record hget) userId item.1) bundleName
  · exact h

/-- The uuids collected are those of groups that are gone. -/
theorem deleteStep_gone {keepData : Bool} {acc : BundleDataMgr × List Str} {item : Str × List DataGroupInfo}
    (hitem : ∀ info ∈ item.2, info.uuid = uuidByKey item.1)
    (h : ∀ uuid ∈ acc.2, ∃ groupId, uuid = uuidByKey groupId ∧ Gone acc.1.bundleInfos groupId userId) :
    ∀ uuid ∈ (BundleDataMgr.deleteStep bundleName userId keepData acc item).2, ∃ groupId, uuid = uuidByKey groupId ∧
      Gone (BundleDataMgr.deleteStep bundleName userId keepData acc item).1.bundleInfos groupId userId := by
  have hold : ∀ uuid ∈ acc.2, ∃ groupId, uuid = uuidByKey groupId ∧
      Gone (BundleDataMgr.deleteStep bundleName userId keepData acc item).1.bundleInfos groupId userId := by
    intro uuid huuid
    obtain ⟨groupId, heq, hgone⟩ := h uuid huuid
    exact ⟨groupId, heq, deleteStep_within hgone⟩
  intro uuid huuid
  by_cases hmem : uuid ∈ acc.2
  · exact hold uuid hmem
  · unfold BundleDataMgr.deleteStep at huuid ⊢
    split at huuid
    · next first rest record heq hget =>
      simp only at huuid ⊢
      split at huuid
      · next hcond =>
        rcases List.mem_append.mp huuid with huuid | huuid
        · exact absurd huuid hmem
        · rw [Bool.and_eq_true, Bool.not_eq_true', Bool.not_eq_true'] at hcond
          refine ⟨item.1, ?_, gone_of_not_exist hcond.2⟩
          rw [List.mem_singleton.mp huuid]
          exact hitem first (by rw [heq]; exact List.mem_cons_self)
      · exact absurd huuid hmem
    · exact absurd huuid hmem

/-- What the deletion of a user's groups leaves, and what it asks for. -/
theorem deleteUserDataGroupInfos_within (saveOk : Bool) (bundleName : Str) (userId : Int) (keepData : Bool)
    (hall : AllNumbered uuidByKey number mgr.bundleInfos)
    (h : AllWithin p mgr.bundleInfos) :
    AllWithin p (mgr.deleteUserDataGroupInfos order saveOk bundleName userId keepData).1.bundleInfos ∧
      ∀ request ∈ (mgr.deleteUserDataGroupInfos order saveOk bundleName userId keepData).2,
        request.userId = userId ∧ ∀ uuid ∈ request.uuidList, ∃ groupId, uuid = uuidByKey groupId ∧
          Gone (mgr.deleteUserDataGroupInfos order saveOk bundleName userId keepData).1.bundleInfos groupId userId := by
  unfold BundleDataMgr.deleteUserDataGroupInfos
  split
  · exact ⟨h, nofun⟩
  · next record hget =>
    split
    · exact ⟨h, nofun⟩
    · have hitems : ∀ item ∈ order.walk record.dataGroupInfos, ∀ info ∈ item.2, info.uuid = uuidByKey item.1 := by
        rintro ⟨groupId, infos⟩ hitem info hinfo
        exact ((hall bundleName record hget groupId infos (order.mem_iff.mp hitem)).ofGroup info hinfo).uuid
      have hloop := List.foldlRecOn (motive := fun acc : BundleDataMgr × List Str =>
        AllWithin p acc.1.bundleInfos ∧ ∀ uuid ∈ acc.2, ∃ groupId, uuid = uuidByKey groupId ∧
          Gone acc.1.bundleInfos groupId userId) (order.walk record.dataGroupInfos)
        (BundleDataMgr.deleteStep bundleName userId keepData) (b := (mgr, []))
        ⟨h, fun _ hmem => (List.not_mem_nil hmem).elim⟩
        fun acc hacc item hitem => ⟨deleteStep_within hacc.1, deleteStep_gone (hitems item hitem) hacc.2⟩
      simp only
      generalize (order.walk record.dataGroupInfos).foldl (BundleDataMgr.deleteStep bundleName userId keepData)
        (mgr, []) = acc at hloop ⊢
      rw [saveCurrent_bundleInfos]
      refine ⟨hloop.1, fun request hrequest => ?_⟩
      cases hrequest
      exact ⟨rfl, hloop.2⟩

/-! ## Runs -/

variable (uuidByKey) in
/-- No directory that is going to be deleted is one of an info. -/
structure DirInv (s : DirState) : Prop where
  inv : Inv uuidByKey s.state
  pending : AllWithin (fun groupId userId => ¬ Pending uuidByKey s.pending groupId userId) s.state.mgr.bundleInfos

theorem pending_append {pending : List Job} {jobs : List Job} (h : Pending uuidByKey (pending ++ jobs) groupId userId) :
    Pending uuidByKey pending groupId userId ∨ Pending uuidByKey jobs groupId userId := by
  obtain ⟨request, hmem, huser, huuid⟩ := h
  rcases List.mem_append.mp hmem with hmem | hmem
  · exact .inl ⟨request, hmem, huser, huuid⟩
  · exact .inr ⟨request, hmem, huser, huuid⟩

theorem not_pending_create (requests : List CreateAppGroupDir) :
    ¬ Pending uuidByKey (requests.map Job.create) groupId userId := by
  rintro ⟨request, hmem, -⟩
  obtain ⟨r, -, hr⟩ := List.mem_map.mp hmem
  cases hr

/-- The infos that an operation leaves are not those of pending deletions, the ones it asks for included. -/
theorem run_within (hinj : Function.Injective uuidByKey) {s : DirState} {op : Op} (h : DirInv uuidByKey s)
    (hclear : (Act.op op).Clear uuidByKey s) (hok : op.Ok s.state) (hreboot : op ≠ .reboot)
    (hupgrade : ∀ saveOk, op ≠ .upgrade saveOk) :
    AllWithin (fun groupId userId =>
      ¬ Pending uuidByKey (s.pending ++ (run order uuidByKey s.state op).2) groupId userId)
      (run order uuidByKey s.state op).1.mgr.bundleInfos := by
  have hkeep : ∀ {bundleInfos : StrMap InnerBundleInfo} {jobs : List Job},
      (∀ g u, ¬ Pending uuidByKey jobs g u) →
      AllWithin (fun groupId userId => ¬ Pending uuidByKey s.pending groupId userId) bundleInfos →
      AllWithin (fun groupId userId => ¬ Pending uuidByKey (s.pending ++ jobs) groupId userId) bundleInfos := by
    intro bundleInfos jobs hjobs hwithin
    refine hwithin.imp fun g u hnot hpending => ?_
    rcases pending_append hpending with hp | hp
    · exact hnot hp
    · exact hjobs g u hp
  have hnil : ∀ g u, ¬ Pending uuidByKey ([] : List Job) g u := fun g u ⟨_, hmem, _⟩ => List.not_mem_nil hmem
  have hwrite : ∀ saveOk name (record : InnerBundleInfo),
      record.Within (fun groupId userId => ¬ Pending uuidByKey s.pending groupId userId) →
      AllWithin (fun groupId userId => ¬ Pending uuidByKey s.pending groupId userId)
        (s.state.write saveOk name record).mgr.bundleInfos := by
    intro saveOk name record hrecord
    unfold State.write
    simp only
    rw [saveStorageBundleInfo_bundleInfos]
    exact h.pending.insert hrecord name
  unfold run
  cases op with
  | install saveOk name users el5 input =>
    refine hkeep hnil (hwrite saveOk name _ fun groupId infos hget => ?_)
    rw [ExtTreeMap.getElem?_empty] at hget
    cases hget
  | setUsers saveOk name users =>
    simp only
    split
    · exact hkeep hnil h.pending
    · next record hget => exact hkeep hnil (hwrite saveOk name _ (h.pending name record hget))
  | generate saveOk name ids userId needSaveStorage =>
    exact hkeep (fun _ _ => not_pending_create _) (generateDataGroupInfos_within order h.pending hclear)
  | newUser saveOk name userId =>
    exact hkeep (fun _ _ => not_pending_create _) (generateNewUserDataGroupInfos_within order h.pending hclear)
  | deleteUser saveOk name userId keepData =>
    obtain ⟨number, hnumber, hall⟩ := h.inv.memory
    obtain ⟨hwithin, hrequest⟩ := deleteUserDataGroupInfos_within order saveOk name userId keepData hall h.pending
    simp only
    intro name' record hget groupId infos hinfos info hinfo hpending
    rcases pending_append hpending with hp | ⟨request, hmem, huser, huuid⟩
    · exact hwithin name' record hget groupId infos hinfos info hinfo hp
    · obtain ⟨r, hr, heq⟩ := List.mem_map.mp hmem
      cases heq
      obtain ⟨hreq, hgone⟩ := hrequest request (Option.mem_toList.mp hr)
      obtain ⟨groupId', heq, hnobody⟩ := hgone _ huuid
      exact hnobody name' record hget groupId infos hinfos info hinfo ⟨hinj heq, huser.symm.trans hreq⟩
  | update saveOk name newInfos =>
    simp only
    split
    · exact hkeep hnil h.pending
    · next record hget =>
      exact hkeep hnil (hwrite saveOk name _ (Within.update order (h.pending name record hget) (hok record hget)))
  | fetch name =>
    simp only
    split
    · exact hkeep hnil h.pending
    · exact hkeep hnil h.pending
  | saveFetched saveOk name =>
    simp only
    split
    · exact hkeep hnil h.pending
    · refine hkeep hnil ?_
      rw [saveStorageBundleInfo_bundleInfos]
      exact h.pending
  | uninstall deleteOk name => exact hkeep hnil (h.pending.erase name)
  | reboot => exact absurd rfl hreboot
  | scan saveOk =>
    obtain ⟨number, hnumber, hall⟩ := h.inv.memory
    simp only
    rw [scan_of_numbered order saveOk s.state.mgr hnumber hall]
    exact hkeep hnil h.pending
  | upgrade saveOk => exact absurd rfl (hupgrade saveOk)

variable (uuidByKey) in
/-- No info that there is before and after loses a directory that it has. -/
def KeepsDirs (s : DirState) (act : Act) : Prop :=
  ∀ groupId info, Holds s.state.mgr.bundleInfos groupId info →
    Holds (dirStep order uuidByKey s act).state.mgr.bundleInfos groupId info →
      (info.userId, info.uuid) ∈ s.dirs → (info.userId, info.uuid) ∈ (dirStep order uuidByKey s act).dirs

theorem dirStep_spec (hinj : Function.Injective uuidByKey) (s : DirState) (act : Act) (h : DirInv uuidByKey s)
    (hok : act.Ok uuidByKey s) : DirInv uuidByKey (dirStep order uuidByKey s act) ∧ KeepsDirs order uuidByKey s act := by
  obtain ⟨hclear, hact⟩ := hok
  cases act with
  | op o =>
    refine ⟨⟨h.inv.step order hact, ?_⟩, fun _ _ _ _ hdir => hdir⟩
    have hnone : ∀ groupId userId, ¬ Pending uuidByKey ([] : List Job) groupId userId :=
      fun _ _ ⟨_, hmem, _⟩ => List.not_mem_nil hmem
    cases o with
    | reboot => exact fun _ _ _ _ _ _ _ _ => hnone _ _
    | upgrade saveOk => exact fun _ _ _ _ _ _ _ _ => hnone _ _
    | _ => exact run_within order hinj h hclear hact Op.noConfusion fun _ => Op.noConfusion
  | perform i done =>
    cases hjob : s.pending[i]? with
    | none =>
      have hstep : dirStep order uuidByKey s (.perform i done) = s := by
        unfold dirStep
        simp only [hjob]
      unfold KeepsDirs
      rw [hstep]
      exact ⟨h, fun _ _ _ _ hdir => hdir⟩
    | some job =>
      have hstep : dirStep order uuidByKey s (.perform i done) =
          { s with pending := s.pending.eraseIdx i, dirs := job.perform done s.dirs } := by
        unfold dirStep
        simp only [hjob]
      unfold KeepsDirs
      rw [hstep]
      refine ⟨⟨h.inv, h.pending.imp fun g u hnot ⟨request, hmem, hrest⟩ => ?_⟩, fun groupId info hholds _ hdir => ?_⟩
      · exact hnot ⟨request, List.mem_of_mem_eraseIdx hmem, hrest⟩
      · simp only
        cases job with
        | create request => exact List.mem_append_left _ hdir
        | delete request =>
          unfold Job.perform
          refine List.mem_filter.mpr ⟨hdir, ?_⟩
          -- the deletion was pending, so the info is not one of its
          obtain ⟨name, record, infos, hrecord, hinfos, hmem⟩ := hholds
          have hnot := h.pending name record hrecord groupId infos hinfos info hmem
          obtain ⟨number, hnumber, hall⟩ := h.inv.memory
          have huuid := ((hall name record hrecord groupId infos hinfos).ofGroup info hmem).uuid
          have hmatch : ¬ (info.userId = request.userId ∧ info.uuid ∈ request.uuidList) := by
            rintro ⟨huser, hin⟩
            exact hnot ⟨request, List.mem_of_getElem? hjob, huser.symm, huuid ▸ hin⟩
          rw [decide_eq_false hmatch]
          rfl

theorem dirInv_empty : DirInv uuidByKey {} :=
  ⟨inv_empty, fun name record hget => by
    rw [ExtTreeMap.getElem?_empty] at hget
    cases hget⟩

/-- **No info that stays loses its directory**, in any run in which no group is given to a user again while its
directory is going to be deleted. -/
theorem dir_kept (hinj : Function.Injective uuidByKey) {acts : List Act}
    (h : Each (dirStep order uuidByKey) (fun s act => act.Ok uuidByKey s) {} acts) :
    Each (dirStep order uuidByKey) (KeepsDirs order uuidByKey) {} acts :=
  h.guarantee (fun s act hs hact => dirStep_spec order hinj s act hs hact) dirInv_empty

/-- A group is made and given up again, and its directory deleted. -/
def givenUpRun : List Act :=
  [.op (.install true "a".toList [100] false false), .op (.generate true "a".toList ["g".toList] 100 true),
    .perform 0 fun _ => true, .op (.deleteUser true "a".toList 100 false), .perform 0 fun _ => true]

theorem dir_kept_given_up : Each (dirStep .sorted id) (KeepsDirs .sorted id) {} givenUpRun :=
  dir_kept .sorted Function.injective_id
    ⟨⟨trivial, trivial⟩, ⟨fun _ _ _ _ _ _ ⟨_, hmem, _⟩ => List.not_mem_nil hmem,
      by decide +kernel, by decide +kernel⟩, ⟨trivial, trivial⟩, ⟨trivial, trivial⟩, ⟨trivial, trivial⟩,
      trivial⟩

end BundleFramework.DataGroup
