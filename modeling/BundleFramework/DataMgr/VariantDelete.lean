import BundleFramework.DataMgr.InstallInvariant
import BundleFramework.DualMode.Classify

/-!
# Deleting one of two coexisting variants

When a bundle name has a visible and a hidden variant, one of them the dual-mode clone,
`UpdateBundleInstallState` gets the effective name of the variant to delete.  It is meant
to remove that record and to leave the other variant's record, row, bundle id and install
state alone (`DeletesExactly`).

`Consistent` (records are keyed by their own name, their ids are registered under their
effective names, two variants of a name differ in the clone flag) holds along every run of
the data manager's operations, and in a consistent state a delete does what it is meant to
exactly when the variant is the visible one: the delete path looks in `bundleInfos_` only, so
the delete of a hidden variant takes the visible one.
-/

namespace BundleFramework

open Std InstallState

variable {β : Type}

/-! ## Operations of the data manager -/

/-- The reset count of a bundle whose record changes to another odid. -/
def countOdidReset (env : CallEnv β) (st : DataMgr β) (bundleName lastOdid odid : Str) : DataMgr β :=
  if !lastOdid.isEmpty && !odid.isEmpty && odid ≠ lastOdid && env.insertOk bundleName then
    let lastOdidInfo := (st.firstInstall[bundleName]?.getD ⟨0, []⟩).incrementOdidResetCount
    { st with firstInstall := st.firstInstall.insert bundleName { lastOdidInfo with lastOdid := odid } }
  else st

/-- `UpdateInnerBundleInfo(innerBundleInfo, needSaveStorage, toTempBundle)`. -/
def updateInnerBundleInfo (env : CallEnv β) (st : DataMgr β) (info : InnerBundleInfo β)
    (needSaveStorage toTempBundle : Bool) : Bool × DataMgr β :=
  if info.bundleName.isEmpty then (false, st)
  else match (st.targetMap toTempBundle)[info.bundleName]? with
    | none => (false, st)
    | some old =>
      let odid := if info.developerId.isEmpty then info.odid else generateOdidNoLock env st info.developerId
      let updated := { info with odid := odid }
      let counted :=
        if info.developerId.isEmpty then st else countOdidReset env st info.bundleName old.odid odid
      let saved := if needSaveStorage then saveStorageBundleInfo env counted updated else (true, counted)
      if !saved.1 then (false, saved.2)
      else (true, saved.2.emplace toTempBundle info.bundleName updated)

def moveBundleInfoToTemp (st : DataMgr β) (bundleName : Str) : Bool × DataMgr β :=
  match st.maps.bundleInfos[bundleName]? with
  | none => (false, st)
  | some info =>
    if st.maps.tempBundleInfos[bundleName]?.isSome then (false, st)
    else (true, { st with maps := st.maps.hide bundleName info })

inductive ManagerOp (β : Type) where
  | install (op : InstallOp β)
  | updateInfo (env : CallEnv β) (info : InnerBundleInfo β) (needSaveStorage toTempBundle : Bool)
  | moveToTemp (bundleName : Str)
  | switchMode (env : SwitchEnv) (policies : PolicySet)
  | generateId (base : BaseAppUid) (access : ParamAccess) (bundleName : Str)
  | saveInfo (env : CallEnv β) (info : InnerBundleInfo β)

def DataMgr.managerStep (ex : StringEx) (st : DataMgr β) : ManagerOp β → DataMgr β
  | .install op => st.installStep ex op
  | .updateInfo env info needSaveStorage toTempBundle =>
    (updateInnerBundleInfo env st info needSaveStorage toTempBundle).2
  | .moveToTemp bundleName => (moveBundleInfoToTemp st bundleName).2
  | .switchMode env policies =>
    let outcome := filterBundleListByDeviceModeDistributionPolicies ex env st.maps st.ids.bmsParam policies
    { st with maps := outcome.maps, ids := { st.ids with bmsParam := outcome.store } }
  | .generateId base access bundleName =>
    { st with ids := (generateBundleId base access st.ids bundleName).2 }
  | .saveInfo env info => (saveStorageBundleInfo env st info).2

/-! ## Consistency -/

/-- The id of `info`, if it has one, is registered under its effective name. -/
def DataMgr.Registered (st : DataMgr β) (info : InnerBundleInfo β) : Prop :=
  ∀ id, info.bundleId? = some id → st.ids.bundleIdMap[id]? = some info.getEffectiveBundleName

structure Consistent (st : DataMgr β) : Prop where
  keyed : ∀ key r, st.Holds key r → r.bundleName = key ∧ key ≠ [] ∧ isDualModeCloneKey key = false
  registered : ∀ key r, st.Holds key r → st.Registered r
  variants : ∀ (key : Str) r r', st.maps.bundleInfos[key]? = some r → st.maps.tempBundleInfos[key]? = some r' →
    r.isDualModeCloneApp ≠ r'.isDualModeCloneApp

/-- What the installer sees to: a record is added or updated under its own name, which is
not a clone key, with an id it got for its effective name; a variant is added once and
stays the variant it is. -/
def ManagerOp.Disciplined (st : DataMgr β) : ManagerOp β → Prop
  | .install (.add _ bundleName info _ toTempBundle) =>
    info.bundleName = bundleName ∧ isDualModeCloneKey bundleName = false ∧ st.Registered info ∧
      ∀ r, (st.targetMap (!toTempBundle))[bundleName]? = some r → r.isDualModeCloneApp ≠ info.isDualModeCloneApp
  | .updateInfo _ info _ toTempBundle =>
    st.Registered info ∧
      ∀ r, (st.targetMap toTempBundle)[info.bundleName]? = some r → r.isDualModeCloneApp = info.isDualModeCloneApp
  | _ => True

/-- The states of runs from a consistent state, such as the empty one or what a boot loads. -/
inductive Reachable (ex : StringEx) : DataMgr β → Prop
  | init {st : DataMgr β} : Consistent st → Reachable ex st
  | step {st : DataMgr β} {op : ManagerOp β} : Reachable ex st → op.Disciplined st →
      Reachable ex (st.managerStep ex op)

theorem SameBundle.bundleId? {r r' : InnerBundleInfo β} (h : SameBundle r r') : r.bundleId? = r'.bundleId? := by
  unfold InnerBundleInfo.bundleId?
  rw [h.2.2]

theorem SameBundle.getEffectiveBundleName {r r' : InnerBundleInfo β} (h : SameBundle r r') :
    r.getEffectiveBundleName = r'.getEffectiveBundleName := by
  unfold InnerBundleInfo.getEffectiveBundleName
  rw [h.1, h.2.1]

theorem DataMgr.Registered.of_same {st st' : DataMgr β} {info info' : InnerBundleInfo β} (h : st.Registered info)
    (hids : ∀ id, info.bundleId? = some id → st'.ids.bundleIdMap[id]? = st.ids.bundleIdMap[id]?)
    (hs : SameBundle info' info) : st'.Registered info' := by
  intro id hid
  rw [hs.bundleId?] at hid
  rw [hids id hid, h id hid, hs.getEffectiveBundleName]

/-- Consistency passes to a state whose records are records of the old one, up to bodies
and odids, side by side or moved within a name. -/
theorem Consistent.of_records {st st' : DataMgr β} (h : Consistent st) (hids : st'.ids.bundleIdMap = st.ids.bundleIdMap)
    (hold : ∀ key r, st'.Holds key r → ∃ r', st.Holds key r' ∧ SameBundle r r')
    (hpair : ∀ (key : Str) r r', st'.maps.bundleInfos[key]? = some r → st'.maps.tempBundleInfos[key]? = some r' →
      r.isDualModeCloneApp ≠ r'.isDualModeCloneApp) : Consistent st' where
  keyed key r hr := by
    obtain ⟨r', hr', hn, -, -⟩ := hold key r hr
    rw [hn]
    exact h.keyed key r' hr'
  registered key r hr := by
    obtain ⟨r', hr', hs⟩ := hold key r hr
    exact (h.registered key r' hr').of_same (fun id _ => by rw [hids]) hs
  variants := hpair

/-! ## Consistency of each operation -/

theorem Consistent.bodyRewrite {st st' : DataMgr β} (h : Consistent st) (hb : BodyRewrite st st') :
    Consistent st' := by
  refine h.of_records (by rw [hb.ids]) (fun key r hr => ?_) fun key r r' hr hr' => ?_
  · rcases hr with hr | hr
    · obtain ⟨r', hr', hh⟩ := map_head_eq_some (hb.heads key) hr
      exact ⟨r', Or.inl hr', sameBundle_of_head hh.symm⟩
    · rw [hb.temp] at hr
      exact ⟨r, Or.inr hr, rfl, rfl, rfl⟩
  · obtain ⟨r₀, hr₀, hh⟩ := map_head_eq_some (hb.heads key) hr
    rw [hb.temp] at hr'
    rw [← isDualModeCloneApp_of_head hh]
    exact h.variants key r₀ r' hr₀ hr'

theorem Consistent.of_frame {st st' : DataMgr β} (h : Consistent st) (hmaps : st'.maps = st.maps)
    (hids : st'.ids = st.ids) : Consistent st' := by
  refine h.of_records (by rw [hids]) (fun key r hr => ⟨r, ?_, rfl, rfl, rfl⟩) fun key r r' hr hr' => ?_
  · unfold DataMgr.Holds at hr ⊢
    rw [← hmaps]
    exact hr
  · rw [hmaps] at hr hr'
    exact h.variants key r r' hr hr'

theorem Consistent.setStates {st : DataMgr β} (h : Consistent st) (states : StrMap InstallState) :
    Consistent { st with installStates := states } :=
  h.of_frame rfl rfl

/-- Two held records with one effective name are the same variant of the same name. -/
theorem Consistent.same_of_effectiveName {st : DataMgr β} (h : Consistent st) {key key' : Str}
    {r r' : InnerBundleInfo β} (hr : st.Holds key r) (hr' : st.Holds key' r')
    (e : r.getEffectiveBundleName = r'.getEffectiveBundleName) :
    r.isDualModeCloneApp = r'.isDualModeCloneApp ∧ key = key' := by
  obtain ⟨hn, -, hk⟩ := h.keyed key r hr
  obtain ⟨hn', -, hk'⟩ := h.keyed key' r' hr'
  unfold InnerBundleInfo.getEffectiveBundleName at e
  rw [hn, hn'] at e
  exact effectiveName_injective hk hk' e

/-- Recycling the id of `info` leaves the id of a record with another effective name. -/
theorem recycle_other {st : DataMgr β} {info r : InnerBundleInfo β} (hi : st.Registered info)
    (hr : st.Registered r) (hne : r.getEffectiveBundleName ≠ info.getEffectiveBundleName) (id : Int)
    (hid : r.bundleId? = some id) :
    (recycleUidAndGid st.uninstalled st.ids info).bundleIdMap[id]? = st.ids.bundleIdMap[id]? := by
  rcases recycleUidAndGid_cases st.uninstalled st.ids info with e | ⟨k, hk, -, e⟩
  · rw [e]
  · rw [e]
    show (st.ids.bundleIdMap.erase k)[id]? = _
    rw [MapLoop.getElem?_erase_eq, if_neg]
    intro he
    have h1 := hr id hid
    rw [he, hi k hk] at h1
    exact hne (Option.some.inj h1).symm

theorem Consistent.deleted {st st' : DataMgr β} (h : Consistent st) {bundleName : Str}
    {info : InnerBundleInfo β} {isKeepData : Bool} (hi : st.maps.bundleInfos[bundleName]? = some info)
    (hd : Deleted st st' bundleName info isKeepData) : Consistent st' := by
  have hinfo : st.Holds bundleName info := Or.inl hi
  -- what is still held is not the deleted variant
  have hold : ∀ key r, st'.Holds key r → ∃ r', st.Holds key r' ∧ SameBundle r r' ∧
      r'.getEffectiveBundleName ≠ info.getEffectiveBundleName := by
    intro key r hr
    rcases hr with hr | hr
    · have hk := hd.visible key
      split at hk
      · rw [hr] at hk
        cases hk
      · next hne =>
        obtain ⟨r', hr', hh⟩ := map_head_eq_some hk hr
        refine ⟨r', Or.inl hr', sameBundle_of_head hh.symm, fun e => hne ?_⟩
        exact (h.same_of_effectiveName (Or.inl hr') hinfo e).2
    · rw [hd.temp] at hr
      refine ⟨r, Or.inr hr, ⟨rfl, rfl, rfl⟩, fun e => ?_⟩
      obtain ⟨hc, hkey⟩ := h.same_of_effectiveName (Or.inr hr) hinfo e
      rw [hkey] at hr
      exact h.variants bundleName info r hi hr hc.symm
  refine ⟨fun key r hr => ?_, fun key r hr => ?_, fun key r r' hr hr' => ?_⟩
  · obtain ⟨r', hr', ⟨hn, -, -⟩, -⟩ := hold key r hr
    rw [hn]
    exact h.keyed key r' hr'
  · obtain ⟨r', hr', hs, hne⟩ := hold key r hr
    have hreg := h.registered key r' hr'
    refine hreg.of_same (fun id hid => ?_) hs
    rw [hd.ids]
    split
    · rfl
    · exact recycle_other (h.registered bundleName info hinfo) hreg hne id hid
  · have hk := hd.visible key
    split at hk
    · rw [hr] at hk
      cases hk
    · obtain ⟨r₀, hr₀, hh⟩ := map_head_eq_some hk hr
      rw [hd.temp] at hr'
      rw [← isDualModeCloneApp_of_head hh]
      exact h.variants key r₀ r' hr₀ hr'

theorem Consistent.update {st : DataMgr β} (h : Consistent st) (ex : StringEx) (env : CallEnv β)
    (bundleName : Str) (state : InstallState) (isKeepData : Bool) :
    Consistent (updateBundleInstallState ex env st bundleName state isKeepData).2 := by
  rcases updateBundleInstallState_cases ex env st bundleName state isKeepData with e | ⟨-, e⟩ | ⟨-, -, -, e⟩
  · rw [e]; exact h
  · rw [e]; exact h.setStates _
  · rw [e]
    have h' := h.setStates (st.installStates.erase bundleName)
    rcases deleteBundleInfo_cases env { st with installStates := st.installStates.erase bundleName }
      (originalName ex bundleName) state isKeepData with ⟨-, e'⟩ | ⟨-, info, hi, hd⟩
    · rw [e']; exact h'
    · exact h'.deleted hi hd

/-- A record written into one side of a name. -/
theorem Consistent.emplace {st : DataMgr β} (h : Consistent st) {toTempBundle : Bool} {bundleName : Str}
    {added : InnerBundleInfo β} (hname : added.bundleName = bundleName) (hne : bundleName ≠ [])
    (hkey : isDualModeCloneKey bundleName = false) (hreg : st.Registered added)
    (hother : ∀ r, (st.targetMap (!toTempBundle))[bundleName]? = some r →
      r.isDualModeCloneApp ≠ added.isDualModeCloneApp) :
    Consistent (st.emplace toTempBundle bundleName added) := by
  have hids : (st.emplace toTempBundle bundleName added).ids = st.ids := rfl
  refine ⟨fun key r hr => ?_, fun key r hr => ?_, fun key r r' hr hr' => ?_⟩
  · rcases emplace_holds hr with hr | ⟨rfl, rfl⟩
    · exact h.keyed key r hr
    · exact ⟨hname, hne, hkey⟩
  · rcases emplace_holds hr with hr | ⟨rfl, rfl⟩
    · exact h.registered key r hr
    · exact hreg
  · unfold DataMgr.emplace at hr hr'
    unfold DataMgr.targetMap at hother
    rcases toTempBundle with _ | _
    · simp only [Bool.false_eq_true, if_false, MapLoop.getElem?_insert_eq] at hr hr'
      split at hr
      · next e =>
        rw [e] at hr'
        rw [← Option.some.inj hr]
        exact (hother r' hr').symm
      · exact h.variants key r r' hr hr'
    · simp only [if_true, MapLoop.getElem?_insert_eq] at hr hr'
      split at hr'
      · next e =>
        rw [e] at hr
        rw [← Option.some.inj hr']
        exact hother r hr
      · exact h.variants key r r' hr hr'

theorem BodyRewrite.targetMap_clone {st st' : DataMgr β} (hb : BodyRewrite st st') {toTempBundle : Bool}
    {key : Str} {r : InnerBundleInfo β} (hr : (st'.targetMap toTempBundle)[key]? = some r) :
    ∃ r', (st.targetMap toTempBundle)[key]? = some r' ∧ r'.isDualModeCloneApp = r.isDualModeCloneApp := by
  unfold DataMgr.targetMap at hr ⊢
  rcases toTempBundle with _ | _
  · obtain ⟨r', hr', hh⟩ := map_head_eq_some (hb.heads key) hr
    exact ⟨r', hr', isDualModeCloneApp_of_head hh⟩
  · rw [if_pos rfl, hb.temp] at hr
    exact ⟨r, hr, rfl⟩

theorem Consistent.add {st : DataMgr β} (h : Consistent st) (env : CallEnv β) (bundleName : Str)
    (info : InnerBundleInfo β) (checkStatus toTempBundle : Bool)
    (hop : (ManagerOp.install (.add env bundleName info checkStatus toTempBundle)).Disciplined st) :
    Consistent (addInnerBundleInfo env st bundleName info checkStatus toTempBundle).2 := by
  obtain ⟨hname, hkey, hreg, hother⟩ := hop
  rcases addInnerBundleInfo_cases env st bundleName info checkStatus toTempBundle with
    ⟨hb, -⟩ | ⟨hne, -, -, mid, added, hb, hs, e⟩
  · exact h.bodyRewrite hb
  · have hadd : Consistent (mid.emplace toTempBundle bundleName added) := by
      have hreg' : mid.Registered added := hreg.of_same (fun id _ => by rw [hb.ids]) hs
      refine (h.bodyRewrite hb).emplace (hs.1.trans hname) hne hkey hreg' fun r hr => ?_
      obtain ⟨r', hr', hc⟩ := hb.targetMap_clone hr
      rw [← hc, hs.2.1]
      exact hother r' hr'
    obtain ⟨fmaps, -, fids⟩ := addAppHspBundleName_frame (mid.emplace toTempBundle bundleName added)
      added.applicationBundleType bundleName
    rw [e]
    exact hadd.of_frame fmaps fids

/-- Moving records within their names keeps consistency. -/
theorem Consistent.of_cells {st : DataMgr β} (h : Consistent st) (maps : BundleMaps β) (store : BmsParam)
    (hcell : ∀ name, Cell.records (maps.cell name) ≤ Cell.records (st.maps.cell name)) :
    Consistent { st with maps := maps, ids := { st.ids with bmsParam := store } } := by
  have hmem : ∀ (m : BundleMaps β) (key : Str) r,
      (m.bundleInfos[key]? = some r ∨ m.tempBundleInfos[key]? = some r) ↔ r ∈ Cell.records (m.cell key) := by
    intro m key r
    unfold Cell.records BundleMaps.cell
    rw [Multiset.mem_coe, List.mem_append, Option.mem_toList, Option.mem_toList]
  refine h.of_records rfl (fun key r hr => ?_) fun key r r' hr hr' => ?_
  · exact ⟨r, (hmem st.maps key r).mpr (Multiset.mem_of_le (hcell key) ((hmem maps key r).mp hr)), rfl, rfl, rfl⟩
  · -- a pair now is the same pair before
    have hle := hcell key
    unfold Cell.records BundleMaps.cell at hle
    rw [show maps.bundleInfos[key]? = some r from hr, show maps.tempBundleInfos[key]? = some r' from hr'] at hle
    have hcard := Multiset.card_le_card hle
    rcases hv : st.maps.bundleInfos[key]? with _ | a <;> rcases ht : st.maps.tempBundleInfos[key]? with _ | b <;>
      rw [hv, ht] at hle hcard
    · simp at hcard
    · simp at hcard
    · simp at hcard
    · have heq := Multiset.eq_of_le_of_card_le hle (by simp)
      have hne := h.variants key a b hv ht
      have hperm : List.Perm [r, r'] [a, b] := Multiset.coe_eq_coe.mp heq
      rcases List.perm_pair.mp hperm with e | e
      · obtain ⟨rfl, rfl⟩ : r = a ∧ r' = b := by simpa using e
        exact hne
      · obtain ⟨rfl, rfl⟩ : r = b ∧ r' = a := by simpa using e
        exact hne.symm

theorem onVisible_hide_records (p : InnerBundleInfo β → Bool) (c : Cell β) :
    Cell.records (onVisible (fun r c => if p r then (none, some r) else c) c) ≤ Cell.records c := by
  obtain ⟨_ | a, b⟩ := c
  · exact le_rfl
  · show Cell.records (if p a then (none, some a) else (some a, b)) ≤ _
    split
    · exact Multiset.coe_le.mpr (List.Sublist.subperm (List.sublist_append_left [a] b.toList))
    · exact le_rfl

theorem onHidden_unhide_records (p : InnerBundleInfo β → Bool) (c : Cell β) :
    Cell.records (onHidden (fun r c => if p r then (some r, none) else c) c) ≤ Cell.records c := by
  obtain ⟨a, _ | b⟩ := c
  · exact le_rfl
  · show Cell.records (if p b then (some b, none) else (a, some b)) ≤ _
    split
    · exact Multiset.coe_le.mpr (List.Sublist.subperm (List.sublist_append_right a.toList [b]))
    · exact le_rfl

/-- A mode switch, with or without its rollback, only moves or drops records of a name. -/
theorem filter_records_le (ex : StringEx) (env : SwitchEnv) (maps : BundleMaps β) (store : BmsParam)
    (policies : PolicySet) (name : Str) :
    Cell.records ((filterBundleListByDeviceModeDistributionPolicies ex env maps store policies).maps.cell name) ≤
      Cell.records (maps.cell name) := by
  have switched : ∀ (S : PolicySet) (m : BundleMaps β),
      Cell.records ((filterBundleListByDeviceModeDistributionPoliciesNoLock S m).cell name) =
        Cell.records (m.cell name) := by
    intro S m
    rw [filterNoLock_cell, switchCell_records]
  have byMode : ∀ (secondary : Bool) (m : BundleMaps β),
      Cell.records ((classifyDualModeAppsByDeviceModeNoLock secondary m).cell name) ≤
        Cell.records (m.cell name) := by
    intro secondary m
    rw [classifyByDeviceMode_cell]
    exact (onHidden_unhide_records _ _).trans (onVisible_hide_records _ _)
  rcases filterByPolicies_cases ex env maps store policies with ⟨code, e⟩ | ⟨store', e⟩ | e
  · rw [e]
  · rw [e]
    exact (switched _ _).le
  · rw [e]
    dsimp only
    split
    · rw [switched, switched]
    · exact (byMode _ _).trans (switched _ _).le

theorem saveStorageBundleInfo_frame (env : CallEnv β) (st : DataMgr β) (info : InnerBundleInfo β) :
    (saveStorageBundleInfo env st info).2.maps = st.maps ∧ (saveStorageBundleInfo env st info).2.ids = st.ids := by
  unfold saveStorageBundleInfo
  dsimp only
  split <;> exact ⟨rfl, rfl⟩

theorem countOdidReset_frame (env : CallEnv β) (st : DataMgr β) (bundleName lastOdid odid : Str) :
    (countOdidReset env st bundleName lastOdid odid).maps = st.maps ∧
      (countOdidReset env st bundleName lastOdid odid).ids = st.ids := by
  unfold countOdidReset
  split <;> exact ⟨rfl, rfl⟩

theorem Consistent.generateId {st : DataMgr β} (h : Consistent st) (base : BaseAppUid) (access : ParamAccess)
    (bundleName : Str) : Consistent { st with ids := (generateBundleId base access st.ids bundleName).2 } := by
  refine ⟨h.keyed, fun key r hr id hid => ?_, h.variants⟩
  have hreg := h.registered key r hr id hid
  dsimp only
  rcases generateBundleId_table base access st.ids bundleName with e | ⟨k, hk, e⟩
  · rw [e]
    exact hreg
  · -- the new id was free, so it is not the id of a record
    rw [e, MapLoop.getElem?_insert_eq, if_neg]
    · exact hreg
    · rintro rfl
      rw [hk] at hreg
      cases hreg

theorem Consistent.updateInfo {st : DataMgr β} (h : Consistent st) (env : CallEnv β) (info : InnerBundleInfo β)
    (needSaveStorage toTempBundle : Bool)
    (hop : (ManagerOp.updateInfo env info needSaveStorage toTempBundle).Disciplined st) :
    Consistent (updateInnerBundleInfo env st info needSaveStorage toTempBundle).2 := by
  obtain ⟨hreg, hclone⟩ := hop
  unfold updateInnerBundleInfo
  split
  · exact h
  · next hne =>
    split
    · exact h
    · next old hold =>
      have hheld : st.Holds info.bundleName old := by
        unfold DataMgr.targetMap at hold
        rcases toTempBundle with _ | _
        · exact Or.inl hold
        · exact Or.inr hold
      obtain ⟨-, -, hkey⟩ := h.keyed _ old hheld
      dsimp only
      generalize hodid : (if info.developerId.isEmpty = true then info.odid
        else generateOdidNoLock env st info.developerId) = odid
      generalize hcounted : (if info.developerId.isEmpty = true then st
        else countOdidReset env st info.bundleName old.odid odid) = counted
      generalize hsaved : (if needSaveStorage = true then
        saveStorageBundleInfo env counted { info with odid := odid } else (true, counted)) = saved
      -- counting odid resets and saving the row leave maps and ids alone
      have hcounted' : counted.maps = st.maps ∧ counted.ids = st.ids := by
        rw [← hcounted]
        split
        · exact ⟨rfl, rfl⟩
        · exact countOdidReset_frame env st _ _ _
      have hsaved' : saved.2.maps = counted.maps ∧ saved.2.ids = counted.ids := by
        rw [← hsaved]
        split
        · exact saveStorageBundleInfo_frame env counted _
        · exact ⟨rfl, rfl⟩
      have hmaps : saved.2.maps = st.maps := hsaved'.1.trans hcounted'.1
      have hids : saved.2.ids = st.ids := hsaved'.2.trans hcounted'.2
      have hcons : Consistent saved.2 := h.of_frame hmaps hids
      split
      · exact hcons
      · refine hcons.emplace rfl (by simpa using hne) hkey
          (hreg.of_same (fun id _ => by rw [hids]) ⟨rfl, rfl, rfl⟩) fun r hr => ?_
        -- the record on the other side is the other variant of the old record
        rw [← hclone old hold]
        unfold DataMgr.targetMap at hr hold
        rw [hmaps] at hr
        rcases toTempBundle with _ | _
        · exact (h.variants _ old r hold hr).symm
        · exact h.variants _ r old hr hold

theorem Consistent.moveToTemp {st : DataMgr β} (h : Consistent st) (bundleName : Str) :
    Consistent (moveBundleInfoToTemp st bundleName).2 := by
  unfold moveBundleInfoToTemp
  split
  · exact h
  · next info hi =>
    split
    · exact h
    · refine h.of_cells (st.maps.hide bundleName info) st.ids.bmsParam fun name => ?_
      rw [BundleMaps.cell_hide]
      split
      · next e =>
        rw [e]
        unfold BundleMaps.cell
        rw [hi]
        exact Multiset.coe_le.mpr (List.Sublist.subperm (List.sublist_append_left [info] _))
      · exact le_rfl

/-- **One operation** of the data manager keeps consistency. -/
theorem Consistent.step {st : DataMgr β} (h : Consistent st) (ex : StringEx) (op : ManagerOp β)
    (hop : op.Disciplined st) : Consistent (st.managerStep ex op) := by
  match op with
  | .install (.update env bundleName state isKeepData) => exact h.update ex env bundleName state isKeepData
  | .install (.add env bundleName info checkStatus toTempBundle) =>
    exact h.add env bundleName info checkStatus toTempBundle hop
  | .updateInfo env info needSaveStorage toTempBundle =>
    exact h.updateInfo env info needSaveStorage toTempBundle hop
  | .moveToTemp bundleName => exact h.moveToTemp bundleName
  | .switchMode env policies => exact h.of_cells _ _ (filter_records_le ex env st.maps st.ids.bmsParam policies)
  | .generateId base access bundleName => exact h.generateId base access bundleName
  | .saveInfo env info =>
    obtain ⟨hmaps, hids⟩ := saveStorageBundleInfo_frame env st info
    exact h.of_frame hmaps hids

/-- Every reachable state is consistent. -/
theorem reachable_consistent {ex : StringEx} {st : DataMgr β} (h : Reachable ex st) : Consistent st := by
  induction h with
  | init h => exact h
  | step _ hop ih => exact ih.step ex _ hop

/-! ## Deleting a variant -/

/-- From `st` to `st'` exactly the variant `deleted` of `name` goes, hidden or visible as
`hidden` says, with its install state; `other` keeps its record, its row, its bundle id and
its install state.  Records of other names stay, up to overlay data in their bodies. -/
structure DeletesExactly (st st' : DataMgr β) (name : Str) (hidden : Bool) (deleted other : InnerBundleInfo β) :
    Prop where
  record : (st'.targetMap hidden)[name]? = none
  state : st'.installStates = st.installStates.erase deleted.getEffectiveBundleName
  otherRecord : (st'.targetMap (!hidden))[name]? = some other
  otherRow : st'.storage[other.getEffectiveBundleName]? = st.storage[other.getEffectiveBundleName]?
  otherId : ∀ id, other.bundleId? = some id → st'.ids.bundleIdMap[id]? = st.ids.bundleIdMap[id]?
  otherState : st'.installStates[other.getEffectiveBundleName]? = st.installStates[other.getEffectiveBundleName]?
  elsewhere : ∀ key : Str, key ≠ name →
    (st'.maps.bundleInfos[key]?).map InnerBundleInfo.head = (st.maps.bundleInfos[key]?).map InnerBundleInfo.head ∧
    st'.maps.tempBundleInfos[key]? = st.maps.tempBundleInfos[key]?

/-- The effective name of a held record leads back to its key. -/
theorem Consistent.originalName_eq {st : DataMgr β} (h : Consistent st) {ex : StringEx} (hex : ex.ReadsCloneIndex)
    {key : Str} {r : InnerBundleInfo β} (hr : st.Holds key r) : originalName ex r.getEffectiveBundleName = key := by
  obtain ⟨hn, -, hk⟩ := h.keyed key r hr
  unfold originalName InnerBundleInfo.getEffectiveBundleName effectiveName
  rw [hn]
  rcases r.isDualModeCloneApp with _ | _
  · simp only [Bool.false_eq_true, if_false, hk]
  · have hp : isDualModeCloneKey (getDualModeBundleName key) = true := (isDualModeCloneKey_iff _).mpr ⟨key, rfl⟩
    simp only [if_true, hp, parseDualModeBundleName_getDualModeBundleName ex hex, Option.getD_some]

theorem Consistent.effectiveName_ne_nil {st : DataMgr β} (h : Consistent st) {key : Str} {r : InnerBundleInfo β}
    (hr : st.Holds key r) : r.getEffectiveBundleName ≠ [] := by
  obtain ⟨hn, hne, -⟩ := h.keyed key r hr
  unfold InnerBundleInfo.getEffectiveBundleName effectiveName
  rw [hn]
  rcases r.isDualModeCloneApp with _ | _
  · exact hne
  · rw [if_pos rfl, getDualModeBundleName_eq]
    exact fun e => by simp at e

section
variable {ex : StringEx} (hex : ex.ReadsCloneIndex) {st : DataMgr β} (hc : Consistent st)
  (env : CallEnv β) {state current : InstallState} (isKeepData : Bool)
  (htrans : canTransfer state current = true) (hdel : isDeleteDataState state = true)

include hex hc htrans hdel

/-- The call for a held record is an accepted delete of its key. -/
theorem update_eq_delete {name : Str} {r : InnerBundleInfo β} (hr : st.Holds name r)
    (hcur : st.installStates[r.getEffectiveBundleName]? = some current) :
    (updateBundleInstallState ex env st r.getEffectiveBundleName state isKeepData).2 =
      deleteBundleInfo env { st with installStates := st.installStates.erase r.getEffectiveBundleName } name
        state isKeepData := by
  rw [updateBundleInstallState_delete ex env isKeepData (hc.effectiveName_ne_nil hr) hcur htrans hdel,
    hc.originalName_eq hex hr]

/-- Deleting the visible variant. -/
theorem deletesExactly_visible (hfail : state ≠ INSTALL_FAIL) {name : Str} {visible other : InnerBundleInfo β}
    (hv : st.maps.bundleInfos[name]? = some visible) (ht : st.maps.tempBundleInfos[name]? = some other)
    (hcur : st.installStates[visible.getEffectiveBundleName]? = some current) :
    DeletesExactly st (updateBundleInstallState ex env st visible.getEffectiveBundleName state isKeepData).2
      name false visible other := by
  have holdv : st.Holds name visible := Or.inl hv
  have holdt : st.Holds name other := Or.inr ht
  have hne : other.getEffectiveBundleName ≠ visible.getEffectiveBundleName := fun e =>
    hc.variants name visible other hv ht (hc.same_of_effectiveName holdt holdv e).1.symm
  rw [update_eq_delete hex hc env isKeepData htrans hdel holdv hcur]
  obtain ⟨hstates, htemp, -⟩ := accepted_delete env st visible.getEffectiveBundleName name state isKeepData
  rcases deleteBundleInfo_cases env
    { st with installStates := st.installStates.erase visible.getEffectiveBundleName } name state isKeepData
    with ⟨hno, -⟩ | ⟨-, info, hi, hd⟩
  · exfalso
    rcases hno with hno | hno
    · exact hfail hno
    · rw [show st.maps.bundleInfos[name]? = none from hno] at hv
      cases hv
  · obtain rfl : visible = info := Option.some.inj (hv.symm.trans hi)
    refine ⟨?_, hstates, ?_, ?_, fun id hid => ?_, ?_, fun key hk => ⟨?_, ?_⟩⟩
    · have hgone := hd.visible name
      rw [if_pos rfl] at hgone
      exact Option.map_eq_none_iff.mp hgone
    · show (deleteBundleInfo env _ name state isKeepData).maps.tempBundleInfos[name]? = _
      rw [htemp]
      exact ht
    · -- no visible record is stored under the other variant's row
      refine hd.rows _ fun k r hr e => ?_
      obtain ⟨hflag, hkey⟩ := hc.same_of_effectiveName (Or.inl hr) holdt e
      have hr' : st.maps.bundleInfos[name]? = some r := hkey ▸ hr
      exact hc.variants name r other hr' ht hflag
    · rw [hd.ids]
      split
      · rfl
      · exact recycle_other (hc.registered name visible holdv) (hc.registered name other holdt) hne id hid
    · rw [hstates, MapLoop.getElem?_erase_eq, if_neg hne]
    · have hvis := hd.visible key
      rw [if_neg hk] at hvis
      exact hvis
    · rw [htemp]

/-- A hidden variant is still there after its delete. -/
theorem not_deletesExactly_hidden {name : Str} {visible other : InnerBundleInfo β}
    (ht : st.maps.tempBundleInfos[name]? = some visible)
    (hcur : st.installStates[visible.getEffectiveBundleName]? = some current) :
    ¬ DeletesExactly st (updateBundleInstallState ex env st visible.getEffectiveBundleName state isKeepData).2
      name true visible other := by
  intro h
  rw [update_eq_delete hex hc env isKeepData htrans hdel (Or.inr ht) hcur] at h
  obtain ⟨-, htemp, -⟩ := accepted_delete env st visible.getEffectiveBundleName name state isKeepData
  have hrec : (deleteBundleInfo env _ name state isKeepData).maps.tempBundleInfos[name]? = none := h.record
  rw [htemp, ht] at hrec
  cases hrec

end

/-- **Deleting one of two variants** does what it is meant to exactly when the variant is
the visible one. -/
theorem deletesExactly_iff_visible (ex : StringEx) (hex : ex.ReadsCloneIndex) (st : DataMgr β)
    (hst : Reachable ex st) (name : Str) (hidden : Bool) (r other : InnerBundleInfo β)
    (hr : (st.targetMap hidden)[name]? = some r) (hother : (st.targetMap (!hidden))[name]? = some other)
    (env : CallEnv β) (state current : InstallState) (isKeepData : Bool)
    (hcur : st.installStates[r.getEffectiveBundleName]? = some current)
    (htrans : canTransfer state current = true) (hdel : isDeleteDataState state = true)
    (hfail : state ≠ INSTALL_FAIL) :
    DeletesExactly st (updateBundleInstallState ex env st r.getEffectiveBundleName state isKeepData).2
      name hidden r other ↔ hidden = false := by
  have hc := reachable_consistent hst
  rcases hidden with _ | _
  · exact ⟨fun _ => rfl, fun _ =>
      deletesExactly_visible hex hc env isKeepData htrans hdel hfail hr hother hcur⟩
  · refine ⟨fun h => ?_, fun h => by cases h⟩
    exact absurd h (not_deletesExactly_hidden hex hc env isKeepData htrans hdel hr hcur)

/-! ## A pair, and the delete of its hidden half -/

def plainX : InnerBundleInfo Unit := .withBundleId ['x'] false 10000

def cloneX : InnerBundleInfo Unit := .withBundleId ['x'] true 10001

/-- Install `x` on the visible side. -/
def installPlain : List (ManagerOp Unit) :=
  [.install (.update sampleEnv ['x'] INSTALL_START false), .generateId (.ofParameter 10000) ⟨true, true⟩ ['x'],
    .install (.add sampleEnv ['x'] plainX false false), .saveInfo sampleEnv plainX,
    .install (.update sampleEnv ['x'] INSTALL_SUCCESS false)]

/-- Install the clone of `x` on the hidden side, and start to uninstall both. -/
def installClone : List (ManagerOp Unit) :=
  [.install (.update sampleEnv "+clone-10000+x".toList INSTALL_START false),
    .generateId (.ofParameter 10000) ⟨true, true⟩ "+clone-10000+x".toList,
    .install (.add sampleEnv ['x'] cloneX false true), .saveInfo sampleEnv cloneX,
    .install (.update sampleEnv "+clone-10000+x".toList UNINSTALL_START false),
    .install (.update sampleEnv ['x'] UNINSTALL_START false)]

def DisciplinedRun (ex : StringEx) (st : DataMgr β) : List (ManagerOp β) → Prop
  | [] => True
  | op :: ops => op.Disciplined st ∧ DisciplinedRun ex (st.managerStep ex op) ops

theorem Reachable.run {ex : StringEx} {st : DataMgr β} (h : Reachable ex st) (ops : List (ManagerOp β))
    (hops : DisciplinedRun ex st ops) : Reachable ex (ops.foldl (DataMgr.managerStep ex) st) := by
  induction ops generalizing st with
  | nil => exact h
  | cons op ops ih => exact ih (.step h hops.1) hops.2

theorem emptyDataMgr_consistent : Consistent emptyDataMgr := by
  refine ⟨fun key r hr => ?_, fun key r hr => ?_, fun key r r' hr => ?_⟩
  · simp [DataMgr.Holds, emptyDataMgr] at hr
  · simp [DataMgr.Holds, emptyDataMgr] at hr
  · simp [emptyDataMgr] at hr

def plainState : DataMgr Unit := installPlain.foldl (DataMgr.managerStep refStringEx) emptyDataMgr

def pairState : DataMgr Unit := installClone.foldl (DataMgr.managerStep refStringEx) plainState

theorem registered_of_eq {st : DataMgr β} {info : InnerBundleInfo β} (id : Int) (h : info.bundleId? = some id)
    (hid : st.ids.bundleIdMap[id]? = some info.getEffectiveBundleName) : st.Registered info := by
  intro k hk
  obtain rfl : id = k := Option.some.inj (h.symm.trans hk)
  exact hid

theorem plainState_reachable : Reachable refStringEx plainState := by
  refine (Reachable.init emptyDataMgr_consistent).run installPlain
    ⟨trivial, trivial, ⟨by decide, by decide, ?_, ?_⟩, trivial, trivial, trivial⟩
  · exact registered_of_eq 10000 (by decide) (by decide +kernel)
  · intro r hr
    simp [DataMgr.targetMap, DataMgr.managerStep, DataMgr.installStep, updateBundleInstallState, emptyDataMgr] at hr

theorem pairState_reachable : Reachable refStringEx pairState := by
  refine plainState_reachable.run installClone
    ⟨trivial, trivial, ⟨by decide, by decide, ?_, ?_⟩, trivial, trivial, trivial, trivial⟩
  · exact registered_of_eq 10001 (by decide) (by decide +kernel)
  · intro r hr
    have e : r = plainX := by
      refine Option.some.inj (hr.symm.trans ?_)
      decide +kernel
    rw [e]
    decide

/-- The theorem at the pair: uninstalling the visible `x`. -/
theorem deletesExactly_pair_visible :
    DeletesExactly pairState (updateBundleInstallState refStringEx sampleEnv pairState
      plainX.getEffectiveBundleName UNINSTALL_SUCCESS false).2 ['x'] false plainX cloneX :=
  (deletesExactly_iff_visible refStringEx refStringEx_readsCloneIndex pairState pairState_reachable ['x'] false
    plainX cloneX (by decide +kernel) (by decide +kernel) sampleEnv UNINSTALL_SUCCESS UNINSTALL_START false
    (by decide +kernel) (by decide) (by decide) (by decide)).mpr rfl

/-- Uninstalling the hidden clone: the clone stays, and the visible `x` is deleted with its
row and its bundle id. -/
theorem delete_hidden_clone_takes_visible :
    Reachable refStringEx pairState ∧
    (pairState.targetMap false)[(['x'] : Str)]? = some plainX ∧
    (pairState.targetMap true)[(['x'] : Str)]? = some cloneX ∧
    pairState.installStates[cloneX.getEffectiveBundleName]? = some UNINSTALL_START ∧
    canTransfer UNINSTALL_SUCCESS UNINSTALL_START = true ∧
    (let st' := (updateBundleInstallState refStringEx sampleEnv pairState cloneX.getEffectiveBundleName
      UNINSTALL_SUCCESS false).2
    ¬ DeletesExactly pairState st' ['x'] true cloneX plainX ∧
    (st'.targetMap true)[(['x'] : Str)]? = some cloneX ∧ (st'.targetMap false)[(['x'] : Str)]? = none ∧
    st'.storage[plainX.getEffectiveBundleName]? = none ∧ st'.ids.bundleIdMap[(10000 : Int)]? = none) := by
  refine ⟨pairState_reachable, by decide +kernel, by decide +kernel, by decide +kernel, by decide, ?_,
    by decide +kernel, by decide +kernel, by decide +kernel, by decide +kernel⟩
  intro h
  have hrec := h.record
  exact absurd hrec (by decide +kernel)

end BundleFramework
