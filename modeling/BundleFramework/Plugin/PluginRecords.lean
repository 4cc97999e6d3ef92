import BundleFramework.Base.Str
import BundleFramework.Lib.StepRun

/-!
# Plugin records of a host bundle

A host bundle keeps one record per plugin (`pluginBundleInfos_`), shared by all users, and
for every user the names of the plugins installed for it (`installedPluginSet`).  Installing,
updating, uninstalling and removing the host for one user each write the two sides.

`PluginHost.Matched` is what the two sides owe each other: every installed name has a record,
and every record is installed for some user.  Two failures break it, both leaving a record
that no user has: `PluginRollBack` of an update takes the plugin from the user who had it
before, and a host removal goes on when `RemovePluginInfo` failed.  `matched_iff` says that a
run keeps the two sides matched just when neither happens for the last user of a plugin.
-/

namespace BundleFramework.Plugin

open Std StepRun

/-! ## The record and the data manager -/

def APP_DISTRIBUTION_TYPE_DEVELOPER : Str := "developer_id".toList

/-- Bundle names are checked by the parser; an empty one makes no plugin. -/
structure PluginBundleInfo where
  pluginBundleName : Str
  appIdentifier : Str
  appId : Str
  versionCode : Nat
  appDistributionType : Str
  codePath : Str
  named : pluginBundleName ≠ []
  deriving DecidableEq

/-- `innerBundleUserInfos_` by user, and `pluginBundleInfos_`. -/
structure PluginHost where
  users : ExtTreeMap Int StrSet
  records : StrMap PluginBundleInfo
  deriving DecidableEq

namespace PluginHost

def addPluginBundleInfo (h : PluginHost) (info : PluginBundleInfo) (userId : Int) : Option PluginHost :=
  match h.users[userId]? with
  | none => none
  | some pluginSet => some
    { users := h.users.insert userId (pluginSet.insert info.pluginBundleName)
      records := h.records.insert info.pluginBundleName info }

def removePluginBundleInfo (h : PluginHost) (pluginBundleName : Str) (userId : Int) : Option PluginHost :=
  match h.users[userId]? with
  | none => none
  | some pluginSet => some
    { users := h.users.insert userId (pluginSet.erase pluginBundleName)
      records := h.records.erase pluginBundleName }

def hasMultiUserPlugin (h : PluginHost) (pluginBundleName : Str) : Bool :=
  if h.users.size ≤ 1 then false
  else 1 < h.users.toList.countP fun info => info.2.contains pluginBundleName

def updatePluginBundleInfo (h : PluginHost) (info : PluginBundleInfo) : Option PluginHost :=
  match h.records[info.pluginBundleName]? with
  | none => none
  | some _ => some { h with records := h.records.insert info.pluginBundleName info }

def removePluginFromUserInfo (h : PluginHost) (pluginBundleName : Str) (userId : Int) : Option PluginHost :=
  match h.users[userId]? with
  | none => none
  | some pluginSet => some { h with users := h.users.insert userId (pluginSet.erase pluginBundleName) }

/-- The plugins of one user that have a record. -/
def getPluginBundleInfo (h : PluginHost) (pluginBundleName : Str) (userId : Int) : Option PluginBundleInfo :=
  if pluginBundleName.isEmpty then none
  else match h.users[userId]? with
    | none => none
    | some pluginSet => if pluginSet.contains pluginBundleName then h.records[pluginBundleName]? else none

/-- The plugins of all users. -/
def fetchPluginBundleInfo (h : PluginHost) (pluginBundleName : Str) : Option PluginBundleInfo :=
  if pluginBundleName.isEmpty then none else h.records[pluginBundleName]?

/-- A `BundleDataMgr` operation: the changed record is saved and put in place, or nothing
changes. -/
def commit (h : PluginHost) (saveOk : Bool) (newInfo : Option PluginHost) : Bool × PluginHost :=
  match newInfo with
  | none => (false, h)
  | some newInfo => if saveOk then (true, newInfo) else (false, h)

end PluginHost

/-! ## Installing and updating -/

/-- An install request: the parsed plugin, and what the calls outside the record answer. -/
structure PluginInstall where
  userId : Int
  info : PluginBundleInfo
  isDeveloperDistribution : Bool
  createDirOk : Bool
  /-- Extracting the packages, and the certificate check of a local plugin. -/
  extractOk : Bool
  /-- Whether the database takes `AddPluginInfo`, and the calls of the rollback. -/
  addOk : Bool
  rollBackRemoveOk : Bool
  rollBackUpdateOk : Bool
  rollBackUserOk : Bool

inductive PluginResult where
  | ERR_OK
  | createDirFailed
  | ERR_APPEXECFWK_PLUGIN_INSTALL_NOT_ALLOW
  | ERR_APPEXECFWK_INSTALL_FAILED_INCONSISTENT_SIGNATURE
  | ERR_APPEXECFWK_INSTALL_VERSION_DOWNGRADE
  | extractFailed
  | ERR_APPEXECFWK_ADD_PLUGIN_INFO_ERROR
  | ERR_APPEXECFWK_HOST_APPLICATION_NOT_FOUND
  | ERR_APPEXECFWK_PLUGIN_NOT_FOUND
  | ERR_APPEXECFWK_REMOVE_PLUGIN_INFO_ERROR
  deriving DecidableEq

def checkDistributionTypeForUpdate (isDeveloperDistribution : Bool) (old : PluginBundleInfo) : Bool :=
  if isDeveloperDistribution then
    old.appDistributionType.isEmpty || old.appDistributionType = APP_DISTRIBUTION_TYPE_DEVELOPER
  else old.appDistributionType ≠ APP_DISTRIBUTION_TYPE_DEVELOPER

def checkAppIdentifier (old new : PluginBundleInfo) : Bool :=
  (!new.appIdentifier.isEmpty && !old.appIdentifier.isEmpty && new.appIdentifier = old.appIdentifier) ||
    old.appId = new.appId

def checkVersionCodeForUpdate (old new : PluginBundleInfo) : Bool := !(new.versionCode < old.versionCode)

/-- The checks of an update, in the order of the source. -/
def checkUpdate (r : PluginInstall) (old : PluginBundleInfo) : PluginResult :=
  if !checkDistributionTypeForUpdate r.isDeveloperDistribution old then .ERR_APPEXECFWK_PLUGIN_INSTALL_NOT_ALLOW
  else if !checkAppIdentifier old r.info then .ERR_APPEXECFWK_INSTALL_FAILED_INCONSISTENT_SIGNATURE
  else if !checkVersionCodeForUpdate old r.info then .ERR_APPEXECFWK_INSTALL_VERSION_DOWNGRADE
  else .ERR_OK

/-- Everything `ProcessPluginInstall` checks before it saves. -/
def checkInstall (h : PluginHost) (r : PluginInstall) : PluginResult :=
  if !r.createDirOk then .createDirFailed
  else
    let checked := match h.fetchPluginBundleInfo r.info.pluginBundleName with
      | some old => checkUpdate r old
      | none => .ERR_OK
    if checked ≠ .ERR_OK then checked
    else if !r.extractOk then .extractFailed
    else .ERR_OK

/-- `oldPluginInfo` is there when `isPluginExist_`. -/
def pluginRollBack (h : PluginHost) (r : PluginInstall) (oldPluginInfo : Option PluginBundleInfo) : PluginHost :=
  let bundleName := r.info.pluginBundleName
  match oldPluginInfo with
  | none => (h.commit r.rollBackRemoveOk (h.removePluginBundleInfo bundleName r.userId)).2
  | some old =>
    let updated := (h.commit r.rollBackUpdateOk (h.updatePluginBundleInfo old)).2
    (updated.commit r.rollBackUserOk (updated.removePluginFromUserInfo bundleName r.userId)).2

def processPluginInstall (h : PluginHost) (r : PluginInstall) : PluginResult × PluginHost :=
  let checked := checkInstall h r
  if checked ≠ .ERR_OK then (checked, h)
  else
    let saved := h.commit r.addOk (h.addPluginBundleInfo r.info r.userId)
    if saved.1 then (.ERR_OK, saved.2)
    else
      (.ERR_APPEXECFWK_ADD_PLUGIN_INFO_ERROR,
        pluginRollBack saved.2 r (h.fetchPluginBundleInfo r.info.pluginBundleName))

/-! ## Uninstalling -/

structure PluginUninstall where
  userId : Int
  pluginBundleName : Str
  isLocalPluginInstall : Bool
  removeOk : Bool
  rollBackAddOk : Bool

def processPluginUninstall (h : PluginHost) (r : PluginUninstall) (oldPluginInfo : PluginBundleInfo) :
    PluginResult × PluginHost :=
  if h.hasMultiUserPlugin r.pluginBundleName then
    let removed := h.commit r.removeOk (h.removePluginFromUserInfo r.pluginBundleName r.userId)
    (if removed.1 then .ERR_OK else .ERR_APPEXECFWK_REMOVE_PLUGIN_INFO_ERROR, removed.2)
  else
    let removed := h.commit r.removeOk (h.removePluginBundleInfo r.pluginBundleName r.userId)
    if removed.1 then (.ERR_OK, removed.2)
    else
      -- `UninstallRollBack`
      (.ERR_APPEXECFWK_REMOVE_PLUGIN_INFO_ERROR,
        (removed.2.commit r.rollBackAddOk (removed.2.addPluginBundleInfo oldPluginInfo r.userId)).2)

/-- `UninstallPluginInner`: the plugin has to be installed for the user. -/
def uninstallPluginInner (h : PluginHost) (r : PluginUninstall) : PluginResult × PluginHost :=
  if !h.users.contains r.userId then (.ERR_APPEXECFWK_HOST_APPLICATION_NOT_FOUND, h)
  else match h.getPluginBundleInfo r.pluginBundleName r.userId with
    | none => (.ERR_APPEXECFWK_PLUGIN_NOT_FOUND, h)
    | some old =>
      let isDeveloper : Bool := old.appDistributionType = APP_DISTRIBUTION_TYPE_DEVELOPER
      if r.isLocalPluginInstall ≠ isDeveloper then (.ERR_APPEXECFWK_PLUGIN_NOT_FOUND, h)
      else processPluginUninstall h r old

/-! ## Removing the host for one user -/

structure HostRemoval where
  userId : Int
  /-- Whether the database takes the `RemovePluginInfo` of a plugin. -/
  removeOk : Str → Bool
  removeUserOk : Bool

/-- One round of the loop; `info` is the record as it was before the loop. -/
def removePluginStep (info : PluginHost) (r : HostRemoval) (h : PluginHost) (pluginName : Str) : PluginHost :=
  if info.hasMultiUserPlugin pluginName then h
  else match info.records[pluginName]? with
    | none => h
    | some _ => (h.commit (r.removeOk pluginName) (h.removePluginBundleInfo pluginName r.userId)).2

def removePluginOnlyInCurrentUser (h : PluginHost) (r : HostRemoval) : PluginHost :=
  match h.users[r.userId]? with
  | none => h
  | some installedPluginSet => installedPluginSet.toList.foldl (removePluginStep h r) h

def removeInnerBundleUserInfo (h : PluginHost) (r : HostRemoval) : PluginHost :=
  (h.commit r.removeUserOk (some { h with users := h.users.erase r.userId })).2

def removeHostForUser (h : PluginHost) (r : HostRemoval) : PluginHost :=
  removeInnerBundleUserInfo (removePluginOnlyInCurrentUser h r) r

inductive PluginOp where
  | install (r : PluginInstall)
  | uninstall (r : PluginUninstall)
  | removeHost (r : HostRemoval)

def PluginHost.step (h : PluginHost) : PluginOp → PluginHost
  | .install r => (processPluginInstall h r).2
  | .uninstall r => (uninstallPluginInner h r).2
  | .removeHost r => removeHostForUser h r

/-! ## The two sides -/

namespace PluginHost

/-- The plugin is in the user's `installedPluginSet`. -/
def Has (h : PluginHost) (userId : Int) (plugin : Str) : Prop :=
  ∃ pluginSet, h.users[userId]? = some pluginSet ∧ plugin ∈ pluginSet

def HasRecord (h : PluginHost) (plugin : Str) : Prop := ∃ info, h.records[plugin]? = some info

/-- Every installed plugin has a record, and every record is installed for some user. -/
structure Matched (h : PluginHost) : Prop where
  recorded : ∀ userId plugin, h.Has userId plugin → h.HasRecord plugin
  installed : ∀ plugin, h.HasRecord plugin → ∃ userId, h.Has userId plugin

/-- A record stands under its own name. -/
def Keyed (h : PluginHost) : Prop :=
  ∀ (plugin : Str) (info : PluginBundleInfo), h.records[plugin]? = some info → info.pluginBundleName = plugin

/-- The user is the only one who has the plugin. -/
def OnlyUser (h : PluginHost) (userId : Int) (plugin : Str) : Prop :=
  h.Has userId plugin ∧ ∀ userId', h.Has userId' plugin → userId' = userId

end PluginHost

variable {h : PluginHost} {u v : Int} {p q : Str}

/-! ### What the record's operations do to the two sides -/

theorem has_insert {users : ExtTreeMap Int StrSet} {records : StrMap PluginBundleInfo} {s : StrSet} :
    PluginHost.Has ⟨users.insert u s, records⟩ v q ↔
      if v = u then q ∈ s else ∃ pluginSet, users[v]? = some pluginSet ∧ q ∈ pluginSet := by
  unfold PluginHost.Has
  dsimp only
  rw [MapLoop.getElem?_insert_eq]
  split
  · simp
  · rfl

/-- One plugin is taken from one user. -/
def PluginHost.TakenFrom (h h' : PluginHost) (u : Int) (p : Str) : Prop :=
  ∀ v q, h'.Has v q ↔ h.Has v q ∧ ¬ (v = u ∧ q = p)

theorem takenFrom_erase {s : StrSet} (hu : h.users[u]? = some s) (records : StrMap PluginBundleInfo) :
    h.TakenFrom ⟨h.users.insert u (s.erase p), records⟩ u p := by
  intro v q
  rw [has_insert]
  split
  · next hv =>
    rw [hv, ExtTreeSet.mem_erase]
    unfold PluginHost.Has
    rw [hu]
    simp only [Option.some.injEq, exists_eq_left', true_and, ne_eq, Std.compare_eq_iff_eq]
    tauto
  · next hv =>
    unfold PluginHost.Has
    tauto

theorem hasRecord_erase : PluginHost.HasRecord ⟨h.users, h.records.erase p⟩ q ↔ h.HasRecord q ∧ q ≠ p := by
  unfold PluginHost.HasRecord
  dsimp only
  rw [MapLoop.getElem?_erase_eq]
  split
  · next hq => simp [hq]
  · next hq => simp [hq]

theorem hasRecord_insert {info : PluginBundleInfo} :
    PluginHost.HasRecord ⟨h.users, h.records.insert p info⟩ q ↔ h.HasRecord q ∨ q = p := by
  unfold PluginHost.HasRecord
  dsimp only
  rw [MapLoop.getElem?_insert_eq]
  split
  · next hq => simp [hq]
  · next hq => simp [hq]

theorem one_lt_countP_iff {α : Type} [DecidableEq α] {l : List α} (hl : l.Nodup) (f : α → Bool) :
    1 < l.countP f ↔ ∃ a ∈ l, ∃ b ∈ l, a ≠ b ∧ f a = true ∧ f b = true := by
  rw [List.countP_eq_length_filter, ← List.toFinset_card_of_nodup (hl.filter f), Finset.one_lt_card]
  simp only [List.mem_toFinset, List.mem_filter]
  constructor
  · rintro ⟨a, ⟨ha, hfa⟩, b, ⟨hb, hfb⟩, hne⟩
    exact ⟨a, ha, b, hb, hne, hfa, hfb⟩
  · rintro ⟨a, ha, b, hb, hne, hfa, hfb⟩
    exact ⟨a, ⟨ha, hfa⟩, b, ⟨hb, hfb⟩, hne⟩

/-- The count is over the users who have the plugin. -/
theorem hasMultiUserPlugin_iff :
    h.hasMultiUserPlugin p = true ↔ ∃ u v, u ≠ v ∧ h.Has u p ∧ h.Has v p := by
  have hnodup : h.users.toList.Nodup :=
    (MapLoop.toList_distinct h.users).imp fun hne heq => hne (congrArg Prod.fst heq)
  have hcount : h.hasMultiUserPlugin p = true ↔ 1 < h.users.toList.countP fun info => info.2.contains p := by
    unfold PluginHost.hasMultiUserPlugin
    split
    · next hsize =>
      have hle : h.users.toList.countP (fun info => info.2.contains p) ≤ h.users.size := by
        rw [← ExtTreeMap.length_toList]
        exact List.countP_le_length
      simp only [Bool.false_eq_true, false_iff]
      omega
    · simp
  rw [hcount, one_lt_countP_iff hnodup]
  constructor
  · rintro ⟨⟨u, s⟩, hu, ⟨v, t⟩, hv, hne, hs, ht⟩
    have hu' := ExtTreeMap.mem_toList_iff_getElem?_eq_some.mp hu
    have hv' := ExtTreeMap.mem_toList_iff_getElem?_eq_some.mp hv
    refine ⟨u, v, ?_, ⟨s, hu', ExtTreeSet.contains_iff_mem.mp hs⟩, ⟨t, hv', ExtTreeSet.contains_iff_mem.mp ht⟩⟩
    rintro rfl
    rw [hu'] at hv'
    exact hne (by rw [Option.some.inj hv'])
  · rintro ⟨u, v, hne, ⟨s, hu, hs⟩, ⟨t, hv, ht⟩⟩
    refine ⟨(u, s), ExtTreeMap.mem_toList_iff_getElem?_eq_some.mpr hu, (v, t),
      ExtTreeMap.mem_toList_iff_getElem?_eq_some.mpr hv, ?_, ExtTreeSet.contains_iff_mem.mpr hs,
      ExtTreeSet.contains_iff_mem.mpr ht⟩
    intro heq
    exact hne (congrArg Prod.fst heq)

theorem onlyUser_of_not_multi (hmulti : h.hasMultiUserPlugin p = false) (hu : h.Has u p) : h.OnlyUser u p := by
  refine ⟨hu, fun v hv => ?_⟩
  by_contra hne
  rw [hasMultiUserPlugin_iff.mpr ⟨v, u, hne, hv, hu⟩] at hmulti
  cases hmulti

theorem PluginHost.OnlyUser.not_multi (ho : h.OnlyUser u p) : h.hasMultiUserPlugin p = false := by
  rw [Bool.eq_false_iff]
  intro hmulti
  obtain ⟨v, w, hne, hv, hw⟩ := hasMultiUserPlugin_iff.mp hmulti
  exact hne ((ho.2 v hv).trans (ho.2 w hw).symm)

/-- What a run keeps: the two sides matched, and records under their names. -/
structure PluginHost.WF (h : PluginHost) : Prop extends h.Matched where
  keyed : h.Keyed

/-- Either nothing changes, or the database took the changed record. -/
theorem commit_cases (h : PluginHost) (saveOk : Bool) (newInfo : Option PluginHost) :
    h.commit saveOk newInfo = (false, h) ∨
    ∃ h', saveOk = true ∧ newInfo = some h' ∧ h.commit saveOk newInfo = (true, h') := by
  unfold PluginHost.commit
  rcases newInfo with _ | h'
  · exact .inl rfl
  · cases saveOk
    · exact .inl rfl
    · exact .inr ⟨h', rfl, rfl, rfl⟩

theorem Keyed.erase (hk : h.Keyed) (users : ExtTreeMap Int StrSet) : PluginHost.Keyed ⟨users, h.records.erase p⟩ := by
  intro q info hq
  dsimp only at hq
  rw [MapLoop.getElem?_erase_eq] at hq
  split at hq
  · cases hq
  · exact hk q info hq

theorem Keyed.insert (hk : h.Keyed) (users : ExtTreeMap Int StrSet) (info : PluginBundleInfo) :
    PluginHost.Keyed ⟨users, h.records.insert info.pluginBundleName info⟩ := by
  intro q info' hq
  dsimp only at hq
  rw [MapLoop.getElem?_insert_eq] at hq
  split at hq
  · next hname => rw [← Option.some.inj hq, hname]
  · exact hk q info' hq

theorem removePluginBundleInfo_effect {h' : PluginHost} (he : h.removePluginBundleInfo p u = some h') :
    h.TakenFrom h' u p ∧ (∀ q, h'.HasRecord q ↔ h.HasRecord q ∧ q ≠ p) ∧ (h.Keyed → h'.Keyed) := by
  unfold PluginHost.removePluginBundleInfo at he
  rcases hu : h.users[u]? with _ | s
  · rw [hu] at he
    cases he
  · rw [hu] at he
    obtain rfl := Option.some.inj he
    exact ⟨takenFrom_erase hu _, fun q => hasRecord_erase, fun hk => Keyed.erase hk _⟩

theorem removePluginFromUserInfo_effect {h' : PluginHost} (he : h.removePluginFromUserInfo p u = some h') :
    h.TakenFrom h' u p ∧ h'.records = h.records := by
  unfold PluginHost.removePluginFromUserInfo at he
  rcases hu : h.users[u]? with _ | s
  · rw [hu] at he
    cases he
  · rw [hu] at he
    obtain rfl := Option.some.inj he
    exact ⟨takenFrom_erase hu _, rfl⟩

theorem addPluginBundleInfo_effect {info : PluginBundleInfo} {h' : PluginHost}
    (he : h.addPluginBundleInfo info u = some h') :
    (∀ v q, h'.Has v q ↔ h.Has v q ∨ (v = u ∧ q = info.pluginBundleName)) ∧
    (∀ q, h'.HasRecord q ↔ h.HasRecord q ∨ q = info.pluginBundleName) ∧ (h.Keyed → h'.Keyed) := by
  unfold PluginHost.addPluginBundleInfo at he
  rcases hu : h.users[u]? with _ | s
  · rw [hu] at he
    cases he
  · rw [hu] at he
    obtain rfl := Option.some.inj he
    refine ⟨fun v q => ?_, fun q => hasRecord_insert, fun hk => Keyed.insert hk _ _⟩
    rw [has_insert]
    split
    · next hv =>
      rw [hv, ExtTreeSet.mem_insert]
      unfold PluginHost.Has
      rw [hu]
      simp only [Option.some.injEq, exists_eq_left', true_and, Std.compare_eq_iff_eq]
      tauto
    · next hv =>
      unfold PluginHost.Has
      simp only [hv, false_and, or_false]

/-- The rollback of an update writes the record that is there. -/
theorem updatePluginBundleInfo_old (hk : h.Keyed) {old : PluginBundleInfo} (hold : h.records[p]? = some old) :
    h.updatePluginBundleInfo old = some h := by
  have hname := hk p old hold
  unfold PluginHost.updatePluginBundleInfo
  rw [hname, hold]
  have hrec : h.records.insert p old = h.records := by
    apply ExtTreeMap.ext_getElem?
    intro q
    rw [MapLoop.getElem?_insert_eq]
    split
    · next hq => rw [hq, hold]
    · rfl
  rw [hrec]

/-! ### Matched after a change -/

theorem PluginHost.Matched.add {h' : PluginHost} (hm : h.Matched)
    (hhas : ∀ v q, h'.Has v q ↔ h.Has v q ∨ (v = u ∧ q = p))
    (hrec : ∀ q, h'.HasRecord q ↔ h.HasRecord q ∨ q = p) : h'.Matched where
  recorded v q hv := by
    rcases (hhas v q).mp hv with hv | ⟨-, rfl⟩
    · exact (hrec q).mpr (.inl (hm.recorded v q hv))
    · exact (hrec q).mpr (.inr rfl)
  installed q hq := by
    rcases (hrec q).mp hq with hq | rfl
    · obtain ⟨v, hv⟩ := hm.installed q hq
      exact ⟨v, (hhas v q).mpr (.inl hv)⟩
    · exact ⟨u, (hhas u q).mpr (.inr ⟨rfl, rfl⟩)⟩

/-- Taking the plugin and its record from the only user who has it. -/
theorem PluginHost.Matched.remove {h' : PluginHost} (hm : h.Matched) (hother : ∀ v, h.Has v p → v = u)
    (htaken : h.TakenFrom h' u p) (hrec : ∀ q, h'.HasRecord q ↔ h.HasRecord q ∧ q ≠ p) : h'.Matched where
  recorded v q hv := by
    obtain ⟨hv, hne⟩ := (htaken v q).mp hv
    refine (hrec q).mpr ⟨hm.recorded v q hv, ?_⟩
    rintro rfl
    exact hne ⟨hother v hv, rfl⟩
  installed q hq := by
    obtain ⟨hq, hne⟩ := (hrec q).mp hq
    obtain ⟨v, hv⟩ := hm.installed q hq
    exact ⟨v, (htaken v q).mpr ⟨hv, fun e => hne e.2⟩⟩

/-- Someone else has the plugin too, or nobody does. -/
theorem other_or_onlyUser (hv : h.Has v q) (u : Int) : (∃ w, h.Has w q ∧ w ≠ u) ∨ h.OnlyUser u q := by
  by_cases hother : ∃ w, h.Has w q ∧ w ≠ u
  · exact .inl hother
  · have hself : ∀ w, h.Has w q → w = u := by
      intro w hw
      by_contra hne
      exact hother ⟨w, hw, hne⟩
    refine .inr ⟨?_, hself⟩
    rw [← hself v hv]
    exact hv

/-- Taking the plugin but not its record: fine unless the user is the only one. -/
theorem PluginHost.Matched.take_iff {h' : PluginHost} (hm : h.Matched) (htaken : h.TakenFrom h' u p)
    (hrec : h'.records = h.records) : h'.Matched ↔ ¬ h.OnlyUser u p := by
  have hsame : ∀ q, h'.HasRecord q ↔ h.HasRecord q := by
    intro q
    unfold PluginHost.HasRecord
    rw [hrec]
  constructor
  · rintro hm' ⟨hu, honly⟩
    obtain ⟨v, hv⟩ := hm'.installed p ((hsame p).mpr (hm.recorded u p hu))
    obtain ⟨hv, hne⟩ := (htaken v p).mp hv
    exact hne ⟨honly v hv, rfl⟩
  · intro hnot
    refine ⟨fun v q hv => (hsame q).mpr (hm.recorded v q ((htaken v q).mp hv).1), fun q hq => ?_⟩
    obtain ⟨v, hv⟩ := hm.installed q ((hsame q).mp hq)
    by_cases he : q = p
    · subst he
      obtain ⟨w, hw, hne⟩ := (other_or_onlyUser hv u).resolve_right hnot
      exact ⟨w, (htaken w q).mpr ⟨hw, fun e => hne e.1⟩⟩
    · exact ⟨v, (htaken v q).mpr ⟨hv, fun e => he e.2⟩⟩

/-! ## One operation -/

theorem fetchPluginBundleInfo_eq (h : PluginHost) (info : PluginBundleInfo) :
    h.fetchPluginBundleInfo info.pluginBundleName = h.records[info.pluginBundleName]? := by
  unfold PluginHost.fetchPluginBundleInfo
  rw [if_neg (by simpa using info.named)]

/-- An update is given up and its rollback takes the plugin from the only user who has it. -/
def PluginInstall.LosesLastUser (h : PluginHost) (r : PluginInstall) : Prop :=
  checkInstall h r = .ERR_OK ∧ r.addOk = false ∧ r.rollBackUserOk = true ∧
    h.OnlyUser r.userId r.info.pluginBundleName

theorem pluginRollBack_new {r : PluginInstall} (hwf : h.WF) (hnone : h.records[r.info.pluginBundleName]? = none) :
    (pluginRollBack h r none).WF := by
  have hrecord : ¬ h.HasRecord r.info.pluginBundleName := by
    rintro ⟨info, hinfo⟩
    rw [hnone] at hinfo
    cases hinfo
  unfold pluginRollBack
  dsimp only
  rcases commit_cases h r.rollBackRemoveOk (h.removePluginBundleInfo r.info.pluginBundleName r.userId) with
    e | ⟨h', -, he, e⟩
  · rw [e]
    exact hwf
  · rw [e]
    obtain ⟨htaken, hrec, hkeyed⟩ := removePluginBundleInfo_effect he
    refine ⟨hwf.toMatched.remove (fun v hv => ?_) htaken hrec, hkeyed hwf.keyed⟩
    exact absurd (hwf.recorded v _ hv) hrecord

theorem pluginRollBack_update {r : PluginInstall} {old : PluginBundleInfo} (hwf : h.WF)
    (hold : h.records[r.info.pluginBundleName]? = some old) :
    (pluginRollBack h r (some old)).Keyed ∧
    ((pluginRollBack h r (some old)).Matched ↔
      ¬ (r.rollBackUserOk = true ∧ h.OnlyUser r.userId r.info.pluginBundleName)) := by
  have hsame : (h.commit r.rollBackUpdateOk (h.updatePluginBundleInfo old)).2 = h := by
    rcases commit_cases h r.rollBackUpdateOk (h.updatePluginBundleInfo old) with e | ⟨h', -, he, e⟩
    · rw [e]
    · rw [e]
      rw [updatePluginBundleInfo_old hwf.keyed hold] at he
      exact (Option.some.inj he).symm
  unfold pluginRollBack
  dsimp only
  rw [hsame]
  rcases commit_cases h r.rollBackUserOk (h.removePluginFromUserInfo r.info.pluginBundleName r.userId) with
    e | ⟨h', hok, he, e⟩
  · rw [e]
    refine ⟨hwf.keyed, iff_of_true hwf.toMatched ?_⟩
    -- the user exists, so a call that did nothing was refused by the database
    rintro ⟨hok, ⟨s, hs, -⟩, -⟩
    rw [hok, PluginHost.removePluginFromUserInfo, hs] at e
    cases e
  · rw [e]
    obtain ⟨htaken, hrec⟩ := removePluginFromUserInfo_effect he
    refine ⟨?_, ?_⟩
    · intro q info hq
      dsimp only at hq
      rw [hrec] at hq
      exact hwf.keyed q info hq
    · rw [hwf.toMatched.take_iff htaken hrec]
      simp [hok]

/-- **One install or update.** -/
theorem processPluginInstall_spec (r : PluginInstall) (hwf : h.WF) :
    (processPluginInstall h r).2.Keyed ∧
    ((processPluginInstall h r).2.Matched ↔ ¬ r.LosesLastUser h) := by
  unfold processPluginInstall PluginInstall.LosesLastUser
  dsimp only
  by_cases hcheck : checkInstall h r = .ERR_OK
  swap
  · rw [if_pos hcheck]
    exact ⟨hwf.keyed, iff_of_true hwf.toMatched fun hl => hcheck hl.1⟩
  rw [if_neg (not_not.mpr hcheck)]
  rcases commit_cases h r.addOk (h.addPluginBundleInfo r.info r.userId) with e | ⟨h', hok, he, e⟩
  · rw [e, if_neg Bool.false_ne_true, fetchPluginBundleInfo_eq]
    dsimp only
    rcases hrec : h.records[r.info.pluginBundleName]? with _ | old
    · have hwf' := @pluginRollBack_new h r hwf hrec
      refine ⟨hwf'.keyed, iff_of_true hwf'.toMatched ?_⟩
      rintro ⟨-, -, -, hu, -⟩
      obtain ⟨info, hinfo⟩ := hwf.recorded _ _ hu
      rw [hrec] at hinfo
      cases hinfo
    · obtain ⟨hkeyed, hmatched⟩ := pluginRollBack_update hwf hrec
      refine ⟨hkeyed, hmatched.trans (not_congr ⟨?_, ?_⟩)⟩
      · rintro ⟨hok, honly⟩
        refine ⟨hcheck, ?_, hok, honly⟩
        obtain ⟨⟨s, hs, -⟩, -⟩ := honly
        rw [PluginHost.addPluginBundleInfo, hs] at e
        by_contra hadd
        rw [Bool.not_eq_false] at hadd
        rw [hadd] at e
        cases e
      · rintro ⟨-, -, hok, honly⟩
        exact ⟨hok, honly⟩
  · rw [e, if_pos rfl]
    obtain ⟨hhas, hrec, hkeyed⟩ := addPluginBundleInfo_effect he
    refine ⟨hkeyed hwf.keyed, iff_of_true (hwf.toMatched.add hhas hrec) ?_⟩
    rintro ⟨-, hno, -⟩
    rw [hok] at hno
    cases hno

theorem has_of_getPluginBundleInfo {old : PluginBundleInfo} (hget : h.getPluginBundleInfo p u = some old) :
    h.Has u p := by
  unfold PluginHost.getPluginBundleInfo at hget
  split at hget
  · cases hget
  · rcases hu : h.users[u]? with _ | s
    · rw [hu] at hget
      cases hget
    · rw [hu] at hget
      dsimp only at hget
      split at hget
      · next hs => exact ⟨s, hu, ExtTreeSet.contains_iff_mem.mp hs⟩
      · cases hget

theorem processPluginUninstall_wf {r : PluginUninstall} (old : PluginBundleInfo) (hwf : h.WF)
    (hhas : h.Has r.userId r.pluginBundleName) : (processPluginUninstall h r old).2.WF := by
  unfold processPluginUninstall
  dsimp only
  by_cases hmulti : h.hasMultiUserPlugin r.pluginBundleName = true
  · rw [if_pos hmulti]
    rcases commit_cases h r.removeOk (h.removePluginFromUserInfo r.pluginBundleName r.userId) with
      e | ⟨h', -, he, e⟩
    · rw [e]
      exact hwf
    · rw [e]
      obtain ⟨htaken, hrec⟩ := removePluginFromUserInfo_effect he
      refine ⟨(hwf.toMatched.take_iff htaken hrec).mpr ?_, ?_⟩
      · intro honly
        rw [honly.not_multi] at hmulti
        cases hmulti
      · intro q info hq
        rw [hrec] at hq
        exact hwf.keyed q info hq
  · rw [if_neg hmulti]
    have honly := onlyUser_of_not_multi (Bool.eq_false_iff.mpr hmulti) hhas
    rcases commit_cases h r.removeOk (h.removePluginBundleInfo r.pluginBundleName r.userId) with
      e | ⟨h', -, he, e⟩
    · -- rolled back by adding it again
      rw [e, if_neg Bool.false_ne_true]
      dsimp only
      rcases commit_cases h r.rollBackAddOk (h.addPluginBundleInfo old r.userId) with e' | ⟨h', -, he, e'⟩
      · rw [e']
        exact hwf
      · rw [e']
        obtain ⟨hhas', hrec', hkeyed⟩ := addPluginBundleInfo_effect he
        exact ⟨hwf.toMatched.add hhas' hrec', hkeyed hwf.keyed⟩
    · rw [e, if_pos rfl]
      obtain ⟨htaken, hrec, hkeyed⟩ := removePluginBundleInfo_effect he
      exact ⟨hwf.toMatched.remove honly.2 htaken hrec, hkeyed hwf.keyed⟩

/-- **One uninstall.** -/
theorem uninstallPluginInner_wf (r : PluginUninstall) (hwf : h.WF) : (uninstallPluginInner h r).2.WF := by
  unfold uninstallPluginInner
  split
  · exact hwf
  · rcases hget : h.getPluginBundleInfo r.pluginBundleName r.userId with _ | old
    · exact hwf
    · dsimp only
      split
      · exact hwf
      · exact processPluginUninstall_wf old hwf (has_of_getPluginBundleInfo hget)

/-- The loop of a host removal drops the plugin and its record. -/
def HostRemoval.Drops (h : PluginHost) (r : HostRemoval) (q : Str) : Prop :=
  h.hasMultiUserPlugin q = false ∧ h.HasRecord q ∧ r.removeOk q = true

/-- What the loop has done after some of the plugins. -/
structure HostRemoval.Looped (h : PluginHost) (r : HostRemoval) (names : List Str) (h' : PluginHost) : Prop where
  user : ∃ s, h'.users[r.userId]? = some s
  has : ∀ v q, h'.Has v q ↔ h.Has v q ∧ ¬ (v = r.userId ∧ q ∈ names ∧ r.Drops h q)
  hasRecord : ∀ q, h'.HasRecord q ↔ h.HasRecord q ∧ ¬ (q ∈ names ∧ r.Drops h q)
  keyed : h.Keyed → h'.Keyed

theorem HostRemoval.Looped.skip {r : HostRemoval} {names : List Str} {h' : PluginHost} (hl : r.Looped h names h')
    (hp : ¬ r.Drops h p) : r.Looped h (names ++ [p]) h' := by
  have hsame : ∀ q, q ∈ names ++ [p] ∧ r.Drops h q ↔ q ∈ names ∧ r.Drops h q := by
    intro q
    rw [List.mem_append, List.mem_singleton]
    constructor
    · rintro ⟨hq | rfl, hd⟩
      · exact ⟨hq, hd⟩
      · exact absurd hd hp
    · rintro ⟨hq, hd⟩
      exact ⟨.inl hq, hd⟩
  refine ⟨hl.user, fun v q => ?_, fun q => ?_, hl.keyed⟩
  · rw [hl.has, hsame]
  · rw [hl.hasRecord, hsame]

theorem HostRemoval.Looped.drop {r : HostRemoval} {names : List Str} {h' h'' : PluginHost}
    (hl : r.Looped h names h') (hp : r.Drops h p) (he : h'.removePluginBundleInfo p r.userId = some h'') :
    r.Looped h (names ++ [p]) h'' := by
  obtain ⟨htaken, hrec, hkeyed⟩ := removePluginBundleInfo_effect he
  have hmore : ∀ q, q ∈ names ++ [p] ∧ r.Drops h q ↔ (q ∈ names ∧ r.Drops h q) ∨ q = p := by
    intro q
    rw [List.mem_append, List.mem_singleton, or_and_right]
    refine or_congr_right ⟨And.left, ?_⟩
    rintro rfl
    exact ⟨rfl, hp⟩
  refine ⟨?_, fun v q => ?_, fun q => ?_, fun hk => hkeyed (hl.keyed hk)⟩
  · obtain ⟨s, hs⟩ := hl.user
    rw [PluginHost.removePluginBundleInfo, hs] at he
    obtain rfl := Option.some.inj he
    exact ⟨_, by rw [MapLoop.getElem?_insert_eq, if_pos rfl]⟩
  · rw [htaken, hl.has, hmore, and_or_left, not_or, and_assoc]
  · rw [hrec, hl.hasRecord, hmore, not_or, and_assoc]

theorem removePluginStep_looped {r : HostRemoval} {names : List Str} {h' : PluginHost} (hl : r.Looped h names h')
    (p : Str) : r.Looped h (names ++ [p]) (removePluginStep h r h' p) := by
  unfold removePluginStep
  by_cases hmulti : h.hasMultiUserPlugin p = true
  · rw [if_pos hmulti]
    refine hl.skip fun hd => ?_
    rw [hd.1] at hmulti
    cases hmulti
  · rw [if_neg hmulti]
    rcases hrec : h.records[p]? with _ | info
    · refine hl.skip fun hd => ?_
      obtain ⟨info, hinfo⟩ := hd.2.1
      rw [hrec] at hinfo
      cases hinfo
    · dsimp only
      rcases commit_cases h' (r.removeOk p) (h'.removePluginBundleInfo p r.userId) with e | ⟨h'', hok, he, e⟩
      · rw [e]
        refine hl.skip fun hd => ?_
        obtain ⟨s, hs⟩ := hl.user
        rw [hd.2.2, PluginHost.removePluginBundleInfo, hs] at e
        cases e
      · rw [e]
        exact hl.drop ⟨Bool.eq_false_iff.mpr hmulti, ⟨info, hrec⟩, hok⟩ he

theorem foldl_removePluginStep_looped {r : HostRemoval} {h' : PluginHost} {names : List Str}
    (hl : r.Looped h names h') (rest : List Str) :
    r.Looped h (names ++ rest) (rest.foldl (removePluginStep h r) h') := by
  induction rest generalizing names h' with
  | nil => simpa using hl
  | cons p rest ih =>
    have hnext := ih (removePluginStep_looped hl p)
    rwa [List.append_assoc, List.singleton_append] at hnext

/-- **The loop of a host removal**: of the user's plugins, those nobody else has and whose
removal is saved are gone on both sides. -/
theorem removePluginOnlyInCurrentUser_spec (h : PluginHost) (r : HostRemoval) :
    (∀ v q, (removePluginOnlyInCurrentUser h r).Has v q ↔
      h.Has v q ∧ ¬ (v = r.userId ∧ h.Has v q ∧ r.Drops h q)) ∧
    (∀ q, (removePluginOnlyInCurrentUser h r).HasRecord q ↔
      h.HasRecord q ∧ ¬ (h.Has r.userId q ∧ r.Drops h q)) ∧
    (h.Keyed → (removePluginOnlyInCurrentUser h r).Keyed) := by
  unfold removePluginOnlyInCurrentUser
  rcases hu : h.users[r.userId]? with _ | s
  · have hnone : ∀ q, ¬ h.Has r.userId q := by
      rintro q ⟨s, hs, -⟩
      rw [hu] at hs
      cases hs
    refine ⟨fun v q => ?_, fun q => ?_, id⟩
    · refine ⟨fun hv => ⟨hv, ?_⟩, And.left⟩
      rintro ⟨rfl, hv', -⟩
      exact hnone q hv'
    · exact ⟨fun hq => ⟨hq, fun hd => hnone q hd.1⟩, And.left⟩
  · have hmem : ∀ q, q ∈ s.toList ↔ h.Has r.userId q := by
      intro q
      rw [ExtTreeSet.mem_toList]
      unfold PluginHost.Has
      rw [hu]
      simp
    have hstart : r.Looped h [] h := ⟨⟨s, hu⟩, by simp, by simp, id⟩
    have hl := foldl_removePluginStep_looped hstart s.toList
    refine ⟨fun v q => ?_, fun q => ?_, hl.keyed⟩
    · rw [hl.has, List.nil_append, hmem]
      refine and_congr_right fun _ => not_congr (and_congr_right ?_)
      rintro rfl
      rfl
    · rw [hl.hasRecord, List.nil_append, hmem]

/-- The host goes although the removal of a plugin that only this user has was not saved. -/
def HostRemoval.KeepsOrphan (h : PluginHost) (r : HostRemoval) : Prop :=
  r.removeUserOk = true ∧ ∃ plugin, h.OnlyUser r.userId plugin ∧ r.removeOk plugin = false

theorem has_eraseUser : PluginHost.Has ⟨h.users.erase u, h.records⟩ v q ↔ h.Has v q ∧ v ≠ u := by
  unfold PluginHost.Has
  dsimp only
  rw [MapLoop.getElem?_erase_eq]
  split
  · next hv => simp [hv]
  · next hv => simp [hv]

/-- A plugin that someone else has too is not dropped. -/
theorem not_drops_of_other {r : HostRemoval} (hu : h.Has r.userId q) (hv : h.Has v q) (hne : v ≠ r.userId) :
    ¬ r.Drops h q := by
  intro hd
  have hsingle := hd.1
  rw [hasMultiUserPlugin_iff.mpr ⟨v, r.userId, hne, hv, hu⟩] at hsingle
  cases hsingle

theorem PluginHost.OnlyUser.drops_iff {r : HostRemoval} (hm : h.Matched) (ho : h.OnlyUser r.userId q) :
    r.Drops h q ↔ r.removeOk q = true :=
  ⟨fun hd => hd.2.2, fun hok => ⟨ho.not_multi, hm.recorded _ _ ho.1, hok⟩⟩

section

variable {r : HostRemoval} {h' : PluginHost}
  (hhas : ∀ v q, h'.Has v q ↔ h.Has v q ∧ ¬ (v = r.userId ∧ h.Has v q ∧ r.Drops h q))
  (hrec : ∀ q, h'.HasRecord q ↔ h.HasRecord q ∧ ¬ (h.Has r.userId q ∧ r.Drops h q))

include hhas hrec

/-- What is still installed after the loop has its record. -/
theorem recorded_after_loop (hm : h.Matched) (v : Int) (q : Str) (hv : h'.Has v q) : h'.HasRecord q := by
  obtain ⟨hv, hnot⟩ := (hhas v q).mp hv
  refine (hrec q).mpr ⟨hm.recorded v q hv, ?_⟩
  rintro ⟨hu, hd⟩
  by_cases hvu : v = r.userId
  · exact hnot ⟨hvu, hv, hd⟩
  · exact not_drops_of_other hu hv hvu hd

/-- The user stays: both sides lost the same plugins. -/
theorem matched_after_loop (hm : h.Matched) : h'.Matched := by
  refine ⟨recorded_after_loop hhas hrec hm, fun q hq => ?_⟩
  obtain ⟨hq, hnot⟩ := (hrec q).mp hq
  obtain ⟨v, hv⟩ := hm.installed q hq
  refine ⟨v, (hhas v q).mpr ⟨hv, ?_⟩⟩
  rintro ⟨rfl, hv', hd⟩
  exact hnot ⟨hv', hd⟩

/-- The user goes: a record stays behind if its removal was not saved. -/
theorem matched_after_eraseUser_iff (hm : h.Matched) :
    PluginHost.Matched ⟨h'.users.erase r.userId, h'.records⟩ ↔
      ¬ ∃ plugin, h.OnlyUser r.userId plugin ∧ r.removeOk plugin = false := by
  constructor
  · rintro hm' ⟨q, honly, hfail⟩
    have hnot : ¬ r.Drops h q := by
      rw [honly.drops_iff hm, hfail]
      exact Bool.false_ne_true
    have hq : h'.HasRecord q := (hrec q).mpr ⟨hm.recorded _ q honly.1, fun hd => hnot hd.2⟩
    obtain ⟨v, hv⟩ := hm'.installed q hq
    obtain ⟨hv, hne⟩ := has_eraseUser.mp hv
    exact hne (honly.2 v ((hhas v q).mp hv).1)
  · intro hnot
    refine ⟨fun v q hv => recorded_after_loop hhas hrec hm v q (has_eraseUser.mp hv).1, fun q hq => ?_⟩
    obtain ⟨hq, hkept⟩ := (hrec q).mp hq
    obtain ⟨v, hv⟩ := hm.installed q hq
    rcases other_or_onlyUser hv r.userId with ⟨w, hw, hne⟩ | honly
    · exact ⟨w, has_eraseUser.mpr ⟨(hhas w q).mpr ⟨hw, fun e => hne e.1⟩, hne⟩⟩
    · -- only this user has it: the removal was saved, or the record would be kept
      have hfail : r.removeOk q = false := by
        rw [Bool.eq_false_iff]
        intro hsaved
        exact hkept ⟨honly.1, (honly.drops_iff hm).mpr hsaved⟩
      exact absurd ⟨q, honly, hfail⟩ hnot

end

/-- **One host removal.** -/
theorem removeHostForUser_spec (r : HostRemoval) (hwf : h.WF) :
    (removeHostForUser h r).Keyed ∧ ((removeHostForUser h r).Matched ↔ ¬ r.KeepsOrphan h) := by
  obtain ⟨hhas, hrec, hkeyed⟩ := removePluginOnlyInCurrentUser_spec h r
  unfold removeHostForUser removeInnerBundleUserInfo PluginHost.commit HostRemoval.KeepsOrphan
  generalize removePluginOnlyInCurrentUser h r = h' at hhas hrec hkeyed
  rcases hok : r.removeUserOk with _ | _
  · refine ⟨hkeyed hwf.keyed, iff_of_true (matched_after_loop hhas hrec hwf.toMatched) ?_⟩
    rintro ⟨hno, -⟩
    cases hno
  · refine ⟨hkeyed hwf.keyed, (matched_after_eraseUser_iff hhas hrec hwf.toMatched).trans (not_congr ?_)⟩
    exact ⟨fun horphan => ⟨rfl, horphan⟩, And.right⟩

/-! ## Runs -/

/-- No failure that leaves a record without a user. -/
def PluginOp.Safe (h : PluginHost) : PluginOp → Prop
  | .install r => ¬ r.LosesLastUser h
  | .uninstall _ => True
  | .removeHost r => ¬ r.KeepsOrphan h

theorem step_spec (op : PluginOp) (hwf : h.WF) : (h.step op).Keyed ∧ ((h.step op).Matched ↔ op.Safe h) := by
  match op with
  | .install r => exact processPluginInstall_spec r hwf
  | .uninstall r =>
    have hwf' := uninstallPluginInner_wf r hwf
    exact ⟨hwf'.keyed, iff_of_true hwf'.toMatched trivial⟩
  | .removeHost r => exact removeHostForUser_spec r hwf

/-- **When plugin records match their installations**: in every state of a run, just when no
update is given up with its rollback taking the plugin from its last user, and no host is
removed after the removal of such a plugin was not saved. -/
theorem matched_iff (h : PluginHost) (hwf : h.WF) (ops : List PluginOp) :
    StepRun.Always PluginHost.step PluginHost.Matched h ops ↔ Each PluginHost.step PluginOp.Safe h ops := by
  refine @always_iff_each_of_inv _ _ PluginHost.step PluginHost.WF PluginOp.Safe PluginHost.Matched ?_ ?_ ?_ h ops hwf
  · intro h hwf
    exact hwf.toMatched
  · intro h op hwf hsafe
    obtain ⟨hkeyed, hmatched⟩ := step_spec op hwf
    exact ⟨hmatched.mpr hsafe, hkeyed⟩
  · intro h op hwf hunsafe hm
    exact hunsafe ((step_spec op hwf).2.mp hm)

/-- A host that is installed for two users and has no plugins. -/
def twoUsers : PluginHost := ⟨((∅ : ExtTreeMap Int StrSet).insert 100 ∅).insert 101 ∅, ∅⟩

theorem twoUsers_wf : twoUsers.WF where
  recorded u q := by
    rintro ⟨s, hs, hq⟩
    have hempty : s = ∅ := by
      unfold twoUsers at hs
      dsimp only at hs
      rw [MapLoop.getElem?_insert_eq, MapLoop.getElem?_insert_eq] at hs
      split at hs
      · exact (Option.some.inj hs).symm
      · split at hs
        · exact (Option.some.inj hs).symm
        · rw [ExtTreeMap.getElem?_empty] at hs
          cases hs
    rw [hempty] at hq
    simp at hq
  installed q := by
    rintro ⟨info, hinfo⟩
    rw [show twoUsers.records = ∅ from rfl, ExtTreeMap.getElem?_empty] at hinfo
    cases hinfo
  keyed q info hinfo := by
    rw [show twoUsers.records = ∅ from rfl, ExtTreeMap.getElem?_empty] at hinfo
    cases hinfo

def onePlugin : PluginBundleInfo := ⟨['p'], ['i'], ['a'], 1, [], [], by decide⟩

/-- User 100 installs the plugin, and the database answers `addOk`. -/
def installOnePlugin (addOk : Bool) : PluginOp :=
  .install ⟨100, onePlugin, false, true, true, addOk, true, true, true⟩

/-- Installed, updated in vain, and the host removed for user 100 with one write refused. -/
def updatedInVain : List PluginOp := [installOnePlugin true, installOnePlugin false]
def removedInVain : List PluginOp := [installOnePlugin true, .removeHost ⟨100, fun _ => false, true⟩]

/-- The theorem at these runs. -/
theorem matched_iff_twoUsers :
    (StepRun.Always PluginHost.step PluginHost.Matched twoUsers updatedInVain ↔
      Each PluginHost.step PluginOp.Safe twoUsers updatedInVain) ∧
    (StepRun.Always PluginHost.step PluginHost.Matched twoUsers removedInVain ↔
      Each PluginHost.step PluginOp.Safe twoUsers removedInVain) :=
  ⟨matched_iff twoUsers twoUsers_wf updatedInVain, matched_iff twoUsers twoUsers_wf removedInVain⟩

theorem not_matched_of_orphan (hrec : h.records[p]?.isSome = true)
    (hnone : (h.users.toList.all fun info => !info.2.contains p) = true) : ¬ h.Matched := by
  intro hm
  obtain ⟨info, hinfo⟩ := Option.isSome_iff_exists.mp hrec
  obtain ⟨u, s, hs, hp⟩ := hm.installed p ⟨info, hinfo⟩
  have hall := List.all_eq_true.mp hnone (u, s) (ExtTreeMap.mem_toList_iff_getElem?_eq_some.mpr hs)
  rw [ExtTreeSet.contains_iff_mem.mpr hp] at hall
  cases hall

/-- **A record that no user has**, after each of the two runs. -/
theorem record_without_user :
    ¬ StepRun.Always PluginHost.step PluginHost.Matched twoUsers updatedInVain ∧
    ¬ StepRun.Always PluginHost.step PluginHost.Matched twoUsers removedInVain := by
  refine ⟨fun hm => ?_, fun hm => ?_⟩
  · exact @not_matched_of_orphan _ ['p'] (by decide +kernel) (by decide +kernel) hm.last
  · exact @not_matched_of_orphan _ ['p'] (by decide +kernel) (by decide +kernel) hm.last

end BundleFramework.Plugin
