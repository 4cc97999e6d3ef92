import BundleFramework.DataMgr.BundleState

/-!
# Switching clones in a batch

`BatchSetApplicationEnabled` walks all bundles of a user, disables clones and enables one,
saving the record after each switch.  When a step fails it replays the switches it has made the
other way round, last first.

The replay brings back the flag but names the batch's caller as the one who set it.  So a batch
that fails leaves every clone as it was just when each clone it had switched by then was already
set by that caller; a batch that succeeds does what it says.

The proofs work with `touch`, a change of one clone that is saved: two touches of one clone
are one, touches of two clones commute, and so the replay of a run is a mark on each clone
that was switched.
-/

namespace BundleFramework.BundleState

open Std Overlay

def ALL_CLONE_APP_INDEX : Int := -1

/-! ## Algorithm -/

/-- A call of `BatchSetApplicationEnabled` and what the world answers during it. -/
structure BatchCall where
  userId : Int
  enableAppIndex : Int
  disableAppIndex : Int
  caller : Str
  skipDisableForbidden : Bool
  /-- `BundleFileUtil::GetCloneMaxCount()`. -/
  maxCloneCount : Int
  /-- `AppDisableForbiddenMgr`, `none` when there is no instance; it answers for a bundle, a user
  and an index, `none` being an error of its database. -/
  forbiddenMgr : Option (Str → Int → Int → Option Bool)
  /-- Whether the save that follows the switch of a bundle's clone succeeds. -/
  saveOk : Str → Int → Bool
  /-- Whether the save succeeds that follows taking the switch back. -/
  rollbackSaveOk : Str → Int → Bool

/-- `rollbackList` holds the switches made, the last one at the end. -/
structure RollbackItem where
  bundleName : Str
  appIndex : Int
  setEnabled : Bool

structure Batch where
  mgr : BundleDataMgr
  rollbackList : List RollbackItem

namespace BatchCall

variable (call : BatchCall)

def validateBatchSetAppIndex : ErrCode :=
  if call.enableAppIndex ≤ 0 then .ERR_BUNDLE_MANAGER_INVALID_PARAMETER
  else if call.disableAppIndex ≠ ALL_CLONE_APP_INDEX ∧ call.disableAppIndex ≤ 0 then
    .ERR_BUNDLE_MANAGER_INVALID_PARAMETER
  else if call.maxCloneCount < call.enableAppIndex ∨ call.maxCloneCount < call.disableAppIndex then
    .ERR_BUNDLE_MANAGER_INVALID_PARAMETER
  else if call.enableAppIndex = call.disableAppIndex then .ERR_BUNDLE_MANAGER_INVALID_PARAMETER
  else .ERR_OK

def checkDisableForbidden (bundleName : Str) (requestUserId disableAppIndex : Int) : ErrCode :=
  if call.skipDisableForbidden then .ERR_OK
  else match call.forbiddenMgr with
    | none => .ERR_APPEXECFWK_SERVICE_NOT_READY
    | some isApplicationDisableForbiddenNoCheck =>
      match isApplicationDisableForbiddenNoCheck bundleName requestUserId disableAppIndex with
      | none => .ERR_APPEXECFWK_SERVICE_NOT_READY
      | some true => .ERR_BUNDLE_MANAGER_PERMISSION_DENIED
      | some false => .ERR_OK

/-- One turn of the loop of `RollbackBatchSetEnabled`. -/
def rollbackItem (userId : Int) (mgr : BundleDataMgr) (item : RollbackItem) : BundleDataMgr :=
  match mgr.bundleInfos[item.bundleName]? with
  | none => mgr
  | some info =>
    match info.setCloneApplicationEnabled (!item.setEnabled) item.appIndex call.caller userId with
    | .error _ => mgr
    | .ok info =>
      { mgr with bundleInfos := mgr.bundleInfos.insert item.bundleName info }.saveStorageBundleInfo info
        (call.rollbackSaveOk item.bundleName item.appIndex)

def rollbackBatchSetEnabled (userId : Int) (batch : Batch) : BundleDataMgr :=
  batch.rollbackList.reverse.foldl (call.rollbackItem userId) batch.mgr

/-- A failed step, with `ReportErrorAndRollback` done. -/
def fail (userId : Int) (e : ErrCode) (batch : Batch) : ErrCode × Batch :=
  (e, ⟨call.rollbackBatchSetEnabled userId batch, batch.rollbackList⟩)

/-- What `ProcessDisableForBundle` and `ProcessEnableForBundle` share: the switch, its entry in
the rollback list, and the save. -/
def switchClone (userId : Int) (bundleName : Str) (info : InnerBundleInfo) (appIndex : Int) (setEnabled : Bool)
    (batch : Batch) : ErrCode × Batch :=
  match info.setCloneApplicationEnabled setEnabled appIndex call.caller userId with
  | .error e => call.fail userId e batch
  | .ok info =>
    let batch : Batch :=
      ⟨{ batch.mgr with bundleInfos := batch.mgr.bundleInfos.insert bundleName info },
        batch.rollbackList ++ [⟨bundleName, appIndex, setEnabled⟩]⟩
    if call.saveOk bundleName appIndex then
      (.ERR_OK, { batch with mgr := batch.mgr.saveStorageBundleInfo info true })
    else call.fail userId .ERR_BUNDLE_MANAGER_INTERNAL_ERROR batch

def processDisableForBundle (userId : Int) (bundleName : Str) (batch : Batch) (disableAppIndex : Int) :
    ErrCode × Batch :=
  match batch.mgr.bundleInfos[bundleName]? with
  | none => (.ERR_OK, batch)
  | some info =>
    match info.getInnerBundleUserInfo userId with
    | none => (.ERR_OK, batch)
    | some user =>
      if user.cloneInfos[toDecimal disableAppIndex]?.isNone then (.ERR_OK, batch)
      else match info.getApplicationEnabledV9 userId disableAppIndex with
        | .ok true =>
          match call.checkDisableForbidden bundleName userId disableAppIndex with
          | .ERR_BUNDLE_MANAGER_PERMISSION_DENIED => (.ERR_OK, batch)
          | .ERR_OK => call.switchClone userId bundleName info disableAppIndex false batch
          | e => call.fail userId e batch
        | _ => (.ERR_OK, batch)

def processEnableForBundle (userId : Int) (bundleName : Str) (batch : Batch) (enableAppIndex : Int) :
    ErrCode × Batch :=
  match batch.mgr.bundleInfos[bundleName]? with
  | none => (.ERR_OK, batch)
  | some info =>
    match info.getInnerBundleUserInfo userId with
    | none => (.ERR_OK, batch)
    | some user =>
      if user.cloneInfos[toDecimal enableAppIndex]?.isNone then (.ERR_OK, batch)
      else match info.getApplicationEnabledV9 userId enableAppIndex with
        | .ok false => call.switchClone userId bundleName info enableAppIndex true batch
        | _ => (.ERR_OK, batch)

/-- A loop that stops at the first step that does not return `ERR_OK`. -/
def forEach {α : Type} (step : Batch → α → ErrCode × Batch) : Batch → List α → ErrCode × Batch
  | batch, [] => (.ERR_OK, batch)
  | batch, a :: rest =>
    match step batch a with
    | (.ERR_OK, batch) => forEach step batch rest
    | (e, batch) => (e, batch)

/-- The indexes that the batch wants disabled for one bundle, in the order in which it goes
through them; `none` for a bundle that it passes over. -/
def disableIndexes (user : InnerBundleUserInfo) : Option (List Int) :=
  if user.cloneInfos.isEmpty then none
  else if call.disableAppIndex = ALL_CLONE_APP_INDEX then
    if user.cloneInfos[toDecimal call.enableAppIndex]?.isNone then none
    else some ((user.cloneInfos.toList.map fun clone => clone.2.appIndex).filter (· ≠ call.enableAppIndex))
  else some [call.disableAppIndex]

/-- The body of the loop of `ProcessBatchForAllBundles`. -/
def processBundle (userId : Int) (batch : Batch) (bundleName : Str) : ErrCode × Batch :=
  match batch.mgr.bundleInfos[bundleName]? with
  | none => (.ERR_OK, batch)
  | some info =>
    if info.appIndex ≠ 0 then (.ERR_OK, batch)
    else match (info.getInnerBundleUserInfo userId).bind call.disableIndexes with
      | none => (.ERR_OK, batch)
      | some indexes =>
        match forEach (call.processDisableForBundle userId bundleName) batch indexes with
        | (.ERR_OK, batch) => call.processEnableForBundle userId bundleName batch call.enableAppIndex
        | (e, batch) => (e, batch)

def processBatchForAllBundles (userId : Int) (mgr : BundleDataMgr) : ErrCode × Batch :=
  forEach (call.processBundle userId) ⟨mgr, []⟩ mgr.bundleInfos.keys

end BatchCall

/-- `BatchSetApplicationEnabled`, less the events it sends and the processes it kills. -/
def BundleDataMgr.batchSetApplicationEnabled (env : Env) (mgr : BundleDataMgr) (call : BatchCall) :
    ErrCode × BundleDataMgr :=
  if call.validateBatchSetAppIndex ≠ .ERR_OK then (call.validateBatchSetAppIndex, mgr)
  else if env.getUserId call.userId = INVALID_USERID then (.ERR_APPEXECFWK_USER_NOT_EXIST, mgr)
  else
    let r := call.processBatchForAllBundles (env.getUserId call.userId) mgr
    (r.1, r.2.mgr)

/-! ## One clone changed -/

/-- The record with one clone changed, as it is when there is no such clone. -/
def InnerBundleInfo.onClone (userId appIndex : Int) (f : InnerBundleCloneInfo → InnerBundleCloneInfo)
    (info : InnerBundleInfo) : InnerBundleInfo :=
  { info with
    innerBundleUserInfos := info.innerBundleUserInfos.modify (nameAndUserIdToKey info.bundleName userId) fun user =>
      { user with cloneInfos := user.cloneInfos.modify (toDecimal appIndex) f } }

section OnClone

variable (info : InnerBundleInfo) (userId appIndex : Int) (f g : InnerBundleCloneInfo → InnerBundleCloneInfo)

@[simp] theorem onClone_storageKey : (info.onClone userId appIndex f).storageKey = info.storageKey := rfl

theorem updateClone_eq :
    info.updateClone appIndex userId f = match info.clone? userId appIndex with
      | some _ => .ok (info.onClone userId appIndex f)
      | none => .error (match info.innerBundleUserInfos[nameAndUserIdToKey info.bundleName userId]? with
        | none => .ERR_BUNDLE_MANAGER_BUNDLE_NOT_EXIST
        | some _ => .ERR_APPEXECFWK_SANDBOX_INSTALL_INVALID_APP_INDEX) := by
  unfold InnerBundleInfo.updateClone InnerBundleInfo.updateUser InnerBundleInfo.clone? InnerBundleInfo.onClone
  rcases hu : info.innerBundleUserInfos[nameAndUserIdToKey info.bundleName userId]? with _ | user
  · rfl
  rcases hc : user.cloneInfos[toDecimal appIndex]? with _ | clone
  · simp [InnerBundleUserInfo.updateClone, hc]
  · simp only [InnerBundleUserInfo.updateClone, hc, Option.bind_some]
    rw [MapLoop.insert_eq_modify hc, ← MapLoop.insert_eq_modify hu]

theorem onClone_onClone :
    (info.onClone userId appIndex g).onClone userId appIndex f = info.onClone userId appIndex (f ∘ g) := by
  unfold InnerBundleInfo.onClone
  dsimp only
  rw [MapLoop.modify_modify]
  congr 1
  refine MapLoop.modify_congr fun user _ => ?_
  simp only [Function.comp_apply, MapLoop.modify_modify]

theorem onClone_comm {j : Int} (h : appIndex ≠ j) :
    (info.onClone userId appIndex f).onClone userId j g = (info.onClone userId j g).onClone userId appIndex f := by
  unfold InnerBundleInfo.onClone
  dsimp only
  rw [MapLoop.modify_modify, MapLoop.modify_modify]
  congr 1
  refine MapLoop.modify_congr fun user _ => ?_
  simp only [Function.comp_apply]
  rw [MapLoop.modify_comm _ (fun e => h (toDecimal_injective e))]

theorem clone?_onClone (j : Int) :
    (info.onClone userId appIndex f).clone? userId j =
      if j = appIndex then (info.clone? userId j).map f else info.clone? userId j := by
  unfold InnerBundleInfo.clone? InnerBundleInfo.onClone
  dsimp only
  rw [MapLoop.getElem?_modify_eq, if_pos rfl]
  rcases info.innerBundleUserInfos[nameAndUserIdToKey info.bundleName userId]? with _ | user
  · simp
  · simp only [Option.map_some, Option.bind_some, MapLoop.getElem?_modify_eq, toDecimal_injective.eq_iff]

theorem onClone_congr (h : ∀ clone, info.clone? userId appIndex = some clone → f clone = g clone) :
    info.onClone userId appIndex f = info.onClone userId appIndex g := by
  unfold InnerBundleInfo.onClone
  congr 1
  refine MapLoop.modify_congr fun user huser => ?_
  congr 1
  refine MapLoop.modify_congr fun clone hclone => h clone ?_
  unfold InnerBundleInfo.clone?
  rw [huser]
  exact hclone

theorem onClone_of_fixed (h : ∀ clone, info.clone? userId appIndex = some clone → f clone = clone) :
    info.onClone userId appIndex f = info := by
  rw [onClone_congr info userId appIndex f id h]
  unfold InnerBundleInfo.onClone
  have : ∀ user : InnerBundleUserInfo, { user with cloneInfos := user.cloneInfos.modify (toDecimal appIndex) id } = user := by
    intro user
    rw [MapLoop.modify_of_fixed (f := id) (fun _ _ => rfl)]
  rw [MapLoop.modify_of_fixed (fun user _ => this user)]

end OnClone

/-! ## One clone changed and saved -/

/-- The change of one clone, in memory and in the row. -/
def BundleDataMgr.touch (userId : Int) (f : InnerBundleCloneInfo → InnerBundleCloneInfo) (mgr : BundleDataMgr)
    (item : RollbackItem) : BundleDataMgr :=
  match mgr.bundleInfos[item.bundleName]? with
  | none => mgr
  | some info =>
    { mgr with
      bundleInfos := mgr.bundleInfos.insert item.bundleName (info.onClone userId item.appIndex f),
      dataStorage := mgr.dataStorage.insert info.storageKey (info.onClone userId item.appIndex f) }

def BundleDataMgr.cloneAt (mgr : BundleDataMgr) (userId : Int) (item : RollbackItem) : Option InnerBundleCloneInfo :=
  mgr.bundleInfos[item.bundleName]?.bind fun info => info.clone? userId item.appIndex

/-- They name different clones. -/
def RollbackItem.Apart (item item' : RollbackItem) : Prop :=
  item.bundleName ≠ item'.bundleName ∨ item.appIndex ≠ item'.appIndex

/-- Records stand under their own names, and none of these is a clone key. -/
def BundleDataMgr.Named (mgr : BundleDataMgr) : Prop :=
  ∀ (bundleName : Str) (info : InnerBundleInfo), mgr.bundleInfos[bundleName]? = some info →
    info.bundleName = bundleName ∧ isDualModeCloneKey bundleName = false

theorem BundleDataMgr.Named.storageKey_ne {mgr : BundleDataMgr} (h : mgr.Named) {name name' : Str}
    {info info' : InnerBundleInfo} (hi : mgr.bundleInfos[name]? = some info) (hi' : mgr.bundleInfos[name']? = some info')
    (hne : name ≠ name') : info.storageKey ≠ info'.storageKey := by
  obtain ⟨e, hk⟩ := h name info hi
  obtain ⟨e', hk'⟩ := h name' info' hi'
  intro hkey
  unfold InnerBundleInfo.storageKey at hkey
  rw [e, e'] at hkey
  exact hne (effectiveName_injective hk hk' hkey).2

section Touch

variable (userId : Int) (f g : InnerBundleCloneInfo → InnerBundleCloneInfo) {mgr : BundleDataMgr}
  {item item' : RollbackItem}

theorem touch_of_some {info : InnerBundleInfo} (h : mgr.bundleInfos[item.bundleName]? = some info) :
    mgr.touch userId f item = { mgr with
      bundleInfos := mgr.bundleInfos.insert item.bundleName (info.onClone userId item.appIndex f),
      dataStorage := mgr.dataStorage.insert info.storageKey (info.onClone userId item.appIndex f) } := by
  unfold BundleDataMgr.touch
  rw [h]

theorem touch_of_none (h : mgr.bundleInfos[item.bundleName]? = none) : mgr.touch userId f item = mgr := by
  unfold BundleDataMgr.touch
  rw [h]

/-- A touch at any name. -/
theorem touch_bundleInfos (name : Str) :
    (mgr.touch userId f item).bundleInfos[name]? =
      if name = item.bundleName then mgr.bundleInfos[name]?.map (InnerBundleInfo.onClone userId item.appIndex f)
      else mgr.bundleInfos[name]? := by
  rcases h : mgr.bundleInfos[item.bundleName]? with _ | info
  · rw [touch_of_none userId f h]
    split
    · next e => rw [e, h]; rfl
    · rfl
  · rw [touch_of_some userId f h]
    dsimp only
    rw [MapLoop.getElem?_insert_eq]
    split
    · next e => rw [e, h]; rfl
    · rfl

theorem BundleDataMgr.Named.touch (h : mgr.Named) (item : RollbackItem) : (mgr.touch userId f item).Named := by
  intro name info hinfo
  rw [touch_bundleInfos] at hinfo
  split at hinfo
  · obtain ⟨old, hold, rfl⟩ := Option.map_eq_some_iff.mp hinfo
    exact h name old hold
  · exact h name info hinfo

/-- **Two touches of one clone are one.** -/
theorem touch_touch : (mgr.touch userId g item).touch userId f item = mgr.touch userId (f ∘ g) item := by
  rcases h : mgr.bundleInfos[item.bundleName]? with _ | info
  · rw [touch_of_none userId g h, touch_of_none userId f h, touch_of_none userId (f ∘ g) h]
  · have h' : (mgr.touch userId g item).bundleInfos[item.bundleName]? =
        some (info.onClone userId item.appIndex g) := by
      rw [touch_bundleInfos, if_pos rfl, h]
      rfl
    rw [touch_of_some userId f h', touch_of_some userId g h, touch_of_some userId (f ∘ g) h]
    dsimp only
    rw [onClone_storageKey, onClone_onClone, MapLoop.insert_insert, MapLoop.insert_insert]

/-- **Touches of two clones commute.** -/
theorem touch_comm (hnamed : mgr.Named) (hapart : item.Apart item') :
    (mgr.touch userId f item).touch userId g item' = (mgr.touch userId g item').touch userId f item := by
  rcases h : mgr.bundleInfos[item.bundleName]? with _ | info
  · rw [touch_of_none userId f h, touch_of_none userId f]
    rw [touch_bundleInfos, h]
    split <;> rfl
  rcases h' : mgr.bundleInfos[item'.bundleName]? with _ | info'
  · rw [touch_of_none userId g h', touch_of_none userId g]
    rw [touch_bundleInfos, h']
    split <;> rfl
  by_cases hname : item.bundleName = item'.bundleName
  · have hindex : item.appIndex ≠ item'.appIndex := hapart.resolve_left (not_not_intro hname)
    obtain rfl : info = info' := Option.some.inj (h.symm.trans (hname ▸ h'))
    have h1 : (mgr.touch userId f item).bundleInfos[item'.bundleName]? =
        some (info.onClone userId item.appIndex f) := by
      rw [touch_bundleInfos, if_pos hname.symm, h']
      rfl
    have h2 : (mgr.touch userId g item').bundleInfos[item.bundleName]? =
        some (info.onClone userId item'.appIndex g) := by
      rw [touch_bundleInfos, if_pos hname, h]
      rfl
    rw [touch_of_some userId g h1, touch_of_some userId f h2, touch_of_some userId f h, touch_of_some userId g h']
    dsimp only
    rw [onClone_storageKey, onClone_storageKey, hname, MapLoop.insert_insert, MapLoop.insert_insert,
      MapLoop.insert_insert, MapLoop.insert_insert, onClone_comm info userId item.appIndex f g hindex]
  · have h1 : (mgr.touch userId f item).bundleInfos[item'.bundleName]? = some info' := by
      rw [touch_bundleInfos, if_neg (Ne.symm hname), h']
    have h2 : (mgr.touch userId g item').bundleInfos[item.bundleName]? = some info := by
      rw [touch_bundleInfos, if_neg hname, h]
    rw [touch_of_some userId g h1, touch_of_some userId f h2, touch_of_some userId f h, touch_of_some userId g h']
    dsimp only
    rw [MapLoop.insert_comm _ hname, MapLoop.insert_comm _ (hnamed.storageKey_ne h h' hname)]

theorem touch_congr (h : ∀ clone, mgr.cloneAt userId item = some clone → f clone = g clone) :
    mgr.touch userId f item = mgr.touch userId g item := by
  rcases hinfo : mgr.bundleInfos[item.bundleName]? with _ | info
  · rw [touch_of_none userId f hinfo, touch_of_none userId g hinfo]
  · rw [touch_of_some userId f hinfo, touch_of_some userId g hinfo,
      onClone_congr info userId item.appIndex f g]
    intro clone hclone
    refine h clone ?_
    unfold BundleDataMgr.cloneAt
    rw [hinfo]
    exact hclone

theorem touch_of_fixed (hsync : mgr.Synced) (h : ∀ clone, mgr.cloneAt userId item = some clone → f clone = clone) :
    mgr.touch userId f item = mgr := by
  rw [touch_congr userId f id h]
  rcases hinfo : mgr.bundleInfos[item.bundleName]? with _ | info
  · exact touch_of_none userId id hinfo
  · rw [touch_of_some userId id hinfo, onClone_of_fixed info userId item.appIndex id (fun _ _ => rfl),
      (MapLoop.insert_eq_self_iff hinfo).mpr rfl,
      (MapLoop.insert_eq_self_iff (hsync item.bundleName info hinfo)).mpr rfl]

theorem cloneAt_touch_self (item : RollbackItem) :
    (mgr.touch userId f item).cloneAt userId item = (mgr.cloneAt userId item).map f := by
  unfold BundleDataMgr.cloneAt
  rw [touch_bundleInfos, if_pos rfl]
  rcases mgr.bundleInfos[item.bundleName]? with _ | info
  · rfl
  · simp [clone?_onClone]

theorem cloneAt_touch_of_apart (hapart : item.Apart item') :
    (mgr.touch userId f item).cloneAt userId item' = mgr.cloneAt userId item' := by
  unfold BundleDataMgr.cloneAt
  rw [touch_bundleInfos]
  split
  · next hname =>
    have hindex : item'.appIndex ≠ item.appIndex := fun e => hapart.elim (fun h => h hname.symm) (fun h => h e.symm)
    rcases mgr.bundleInfos[item'.bundleName]? with _ | info
    · rfl
    · simp [clone?_onClone, hindex]
  · rfl

theorem BundleDataMgr.Synced.touch (hnamed : mgr.Named) (hsync : mgr.Synced) (item : RollbackItem) :
    (mgr.touch userId f item).Synced := by
  rcases hinfo : mgr.bundleInfos[item.bundleName]? with _ | info
  · rwa [touch_of_none userId f hinfo]
  · intro name info' h
    have hget := h
    rw [touch_bundleInfos] at h
    rw [touch_of_some userId f hinfo]
    dsimp only
    rw [MapLoop.getElem?_insert_eq]
    split at h
    · next e =>
      rw [e, hinfo] at h
      obtain rfl := Option.some.inj h
      rw [onClone_storageKey, if_pos rfl]
    · next hne =>
      rw [if_neg (hnamed.storageKey_ne h hinfo hne)]
      exact hsync name info' h

end Touch

/-! ## Taking a run back -/

/-- What the replay leaves on a clone: its caller. -/
def InnerBundleCloneInfo.mark (caller : Str) (clone : InnerBundleCloneInfo) : InnerBundleCloneInfo :=
  { clone with setEnabledCaller := caller }

section Run

variable (call : BatchCall) (userId : Int)

def BatchCall.switchItem (mgr : BundleDataMgr) (item : RollbackItem) : BundleDataMgr :=
  mgr.touch userId (InnerBundleCloneInfo.switch item.setEnabled call.caller) item

def BatchCall.markItem (mgr : BundleDataMgr) (item : RollbackItem) : BundleDataMgr :=
  mgr.touch userId (InnerBundleCloneInfo.mark call.caller) item

/-- The clone is there and stands the other way. -/
def BundleDataMgr.Opposite (mgr : BundleDataMgr) (item : RollbackItem) : Prop :=
  ∃ clone, mgr.cloneAt userId item = some clone ∧ clone.enabled = !item.setEnabled

variable {call userId} {mgr : BundleDataMgr}

theorem rollbackItem_eq_touch (hok : ∀ name index, call.rollbackSaveOk name index = true) {item : RollbackItem}
    (h : (mgr.cloneAt userId item).isSome = true) :
    call.rollbackItem userId mgr item =
      mgr.touch userId (InnerBundleCloneInfo.switch (!item.setEnabled) call.caller) item := by
  unfold BundleDataMgr.cloneAt at h
  unfold BatchCall.rollbackItem BundleDataMgr.touch InnerBundleInfo.setCloneApplicationEnabled
  rcases hi : mgr.bundleInfos[item.bundleName]? with _ | info
  · rfl
  rcases hc : info.clone? userId item.appIndex with _ | clone
  · rw [hi, Option.bind_some, hc] at h
    cases h
  · simp only [updateClone_eq, hc, BundleDataMgr.saveStorageBundleInfo, hok, if_true, onClone_storageKey]

theorem markItem_foldl_touch (f : InnerBundleCloneInfo → InnerBundleCloneInfo) {item : RollbackItem}
    {items : List RollbackItem} (hnamed : mgr.Named) (hapart : ∀ item' ∈ items, item.Apart item') :
    (items.foldl (call.markItem userId) mgr).touch userId f item =
      items.foldl (call.markItem userId) (mgr.touch userId f item) := by
  induction items generalizing mgr with
  | nil => rfl
  | cons x items ih =>
    have hnamed' : (call.markItem userId mgr x).Named := hnamed.touch userId _ x
    rw [List.foldl_cons, List.foldl_cons, ih hnamed' fun y hy => hapart y (List.mem_cons_of_mem _ hy)]
    unfold BatchCall.markItem
    rw [touch_comm userId _ _ hnamed (hapart x List.mem_cons_self)]

theorem foldl_markItem_cloneAt {item : RollbackItem} {items : List RollbackItem}
    (hapart : ∀ item' ∈ items, item'.Apart item) :
    (items.foldl (call.markItem userId) mgr).cloneAt userId item = mgr.cloneAt userId item := by
  induction items generalizing mgr with
  | nil => rfl
  | cons x items ih =>
    rw [List.foldl_cons, ih fun y hy => hapart y (List.mem_cons_of_mem _ hy)]
    exact cloneAt_touch_of_apart userId _ (hapart x List.mem_cons_self)

theorem RollbackItem.Apart.symm {item item' : RollbackItem} (h : item.Apart item') : item'.Apart item :=
  h.imp Ne.symm Ne.symm

theorem BundleDataMgr.Opposite.touch {item item' : RollbackItem} (h : mgr.Opposite userId item')
    (hapart : item.Apart item') (f : InnerBundleCloneInfo → InnerBundleCloneInfo) :
    (mgr.touch userId f item).Opposite userId item' := by
  obtain ⟨clone, hclone, hflag⟩ := h
  exact ⟨clone, (cloneAt_touch_of_apart userId f hapart).trans hclone, hflag⟩

/-- Switching a clone and back leaves the caller's mark. -/
theorem switch_back {item : RollbackItem} (h : mgr.Opposite userId item) :
    (call.switchItem userId mgr item).touch userId (InnerBundleCloneInfo.switch (!item.setEnabled) call.caller) item =
      call.markItem userId mgr item := by
  unfold BatchCall.switchItem BatchCall.markItem
  rw [touch_touch]
  refine touch_congr userId _ _ fun clone hclone => ?_
  obtain ⟨clone', hclone', hflag⟩ := h
  obtain rfl : clone = clone' := Option.some.inj (hclone.symm.trans hclone')
  simp only [Function.comp_apply, InnerBundleCloneInfo.switch, InnerBundleCloneInfo.mark, ← hflag]

/-- **The replay of a run**, last switch first, marks every clone of the run. -/
theorem rollback_run (hok : ∀ name index, call.rollbackSaveOk name index = true) {items : List RollbackItem}
    (hnamed : mgr.Named) (hapart : items.Pairwise RollbackItem.Apart) (hopp : ∀ item ∈ items, mgr.Opposite userId item) :
    items.reverse.foldl (call.rollbackItem userId) (items.foldl (call.switchItem userId) mgr) =
      items.foldl (call.markItem userId) mgr := by
  induction items generalizing mgr with
  | nil => rfl
  | cons x items ih =>
    obtain ⟨hx, hitems⟩ := List.pairwise_cons.mp hapart
    have hoppx := hopp x List.mem_cons_self
    have hnamed' : (call.switchItem userId mgr x).Named := hnamed.touch userId _ x
    have hrest := ih hnamed' hitems fun y hy =>
      (hopp y (List.mem_cons_of_mem _ hy)).touch (hx y hy) (InnerBundleCloneInfo.switch x.setEnabled call.caller)
    have hthere : ((items.foldl (call.markItem userId) (call.switchItem userId mgr x)).cloneAt userId x).isSome = true := by
      rw [foldl_markItem_cloneAt fun y hy => (hx y hy).symm]
      obtain ⟨clone, hclone, -⟩ := hoppx
      unfold BatchCall.switchItem
      rw [cloneAt_touch_self, hclone]
      rfl
    rw [List.reverse_cons, List.foldl_append, List.foldl_cons, List.foldl_nil, List.foldl_cons, hrest,
      rollbackItem_eq_touch hok hthere, markItem_foldl_touch _ hnamed' hx, switch_back hoppx, List.foldl_cons]

/-- The marks change nothing just when every marked clone had that caller. -/
theorem foldl_markItem_eq (hsync : mgr.Synced) {items : List RollbackItem}
    (h : ∀ item ∈ items, ∀ clone, mgr.cloneAt userId item = some clone → clone.setEnabledCaller = call.caller) :
    items.foldl (call.markItem userId) mgr = mgr := by
  induction items with
  | nil => rfl
  | cons x items ih =>
    have hx : call.markItem userId mgr x = mgr := by
      refine touch_of_fixed userId _ hsync fun clone hclone => ?_
      rw [InnerBundleCloneInfo.mark, ← h x List.mem_cons_self clone hclone]
    rw [List.foldl_cons, hx]
    exact ih fun y hy => h y (List.mem_cons_of_mem _ hy)

theorem foldl_markItem_caller {items : List RollbackItem} (hapart : items.Pairwise RollbackItem.Apart)
    {item : RollbackItem} (hitem : item ∈ items) :
    (items.foldl (call.markItem userId) mgr).cloneAt userId item =
      (mgr.cloneAt userId item).map (InnerBundleCloneInfo.mark call.caller) := by
  induction items generalizing mgr with
  | nil => cases hitem
  | cons x items ih =>
    obtain ⟨hx, hitems⟩ := List.pairwise_cons.mp hapart
    rw [List.foldl_cons]
    rcases List.mem_cons.mp hitem with rfl | hmem
    · rw [foldl_markItem_cloneAt fun y hy => (hx y hy).symm]
      exact cloneAt_touch_self userId _ item
    · rw [ih hitems hmem]
      exact congrArg _ (cloneAt_touch_of_apart userId _ (hx item hmem))

end Run

/-! ## The batch as a list of switches -/

/-- The clone as the checks of the batch see it. -/
def InnerBundleInfo.seen (info : InnerBundleInfo) (userId appIndex : Int) : Option InnerBundleCloneInfo :=
  (info.getInnerBundleUserInfo userId).bind fun user => user.cloneInfos[toDecimal appIndex]?

/-- What installing bundles, users and clones keeps: records under their names, no clones of a
record that is itself a clone (`BundleCloneInstaller` refuses them), no user below zero, clones
under their index and within the range of clone indexes. -/
structure BundleDataMgr.Sound (maxCloneCount : Int) (mgr : BundleDataMgr) : Prop where
  named : mgr.Named
  cloneless : ∀ (name : Str) (info : InnerBundleInfo) (userKey : Str) (user : InnerBundleUserInfo) (key : Str),
    mgr.bundleInfos[name]? = some info → info.appIndex ≠ 0 → info.innerBundleUserInfos[userKey]? = some user →
      user.cloneInfos[key]? = none
  users : ∀ (name : Str) (info : InnerBundleInfo) (userId : Int), mgr.bundleInfos[name]? = some info → userId < 0 →
    info.innerBundleUserInfos[nameAndUserIdToKey info.bundleName userId]? = none
  clones : ∀ (name : Str) (info : InnerBundleInfo) (userKey : Str) (user : InnerBundleUserInfo) (key : Str)
    (clone : InnerBundleCloneInfo), mgr.bundleInfos[name]? = some info →
    info.innerBundleUserInfos[userKey]? = some user → user.cloneInfos[key]? = some clone →
      key = toDecimal clone.appIndex ∧ 0 < clone.appIndex ∧ clone.appIndex ≤ maxCloneCount

section Plan

variable (call : BatchCall) (userId : Int)

/-- The check that stands before a switch. -/
def BatchCall.check (item : RollbackItem) : ErrCode :=
  if item.setEnabled then .ERR_OK else call.checkDisableForbidden item.bundleName userId item.appIndex

/-- The clone is there, stands the other way, and disabling it is not forbidden. -/
def BatchCall.wanted (info : InnerBundleInfo) (item : RollbackItem) : Bool :=
  (match info.seen userId item.appIndex with
    | some clone => clone.enabled ≠ item.setEnabled
    | none => false) && call.check userId item ≠ .ERR_BUNDLE_MANAGER_PERMISSION_DENIED

/-- The switches that the batch looks at for one bundle, in its order. -/
def BatchCall.candidatesOf (name : Str) (info : InnerBundleInfo) : List RollbackItem :=
  match (info.getInnerBundleUserInfo userId).bind call.disableIndexes with
  | none => []
  | some indexes => indexes.map (fun index => ⟨name, index, false⟩) ++ [⟨name, call.enableAppIndex, true⟩]

/-- `wanted`, for the record of the bundle it names. -/
def BatchCall.wantedIn (mgr : BundleDataMgr) (item : RollbackItem) : Bool :=
  match mgr.bundleInfos[item.bundleName]? with
  | none => false
  | some info => call.wanted userId info item

/-- The switches that the batch has to make for one bundle. -/
def BatchCall.planAt (mgr : BundleDataMgr) (name : Str) : List RollbackItem :=
  match mgr.bundleInfos[name]? with
  | none => []
  | some info => (call.candidatesOf userId name info).filter (call.wantedIn userId mgr)

/-- The switches that the batch has to make, in its order. -/
def BatchCall.plan (mgr : BundleDataMgr) : List RollbackItem :=
  mgr.bundleInfos.keys.flatMap (call.planAt userId mgr)

/-- The switch gets made: its check passes and the record has the clone. -/
def BatchCall.Switches (mgr : BundleDataMgr) (item : RollbackItem) : Prop :=
  call.check userId item = .ERR_OK ∧ (mgr.cloneAt userId item).isSome = true

/-- The switch is made and saved. -/
def BatchCall.Goes (mgr : BundleDataMgr) (item : RollbackItem) : Prop :=
  call.Switches userId mgr item ∧ call.saveOk item.bundleName item.appIndex = true

/-- A wanted switch is tried. -/
def BatchCall.attempt (batch : Batch) (item : RollbackItem) : ErrCode × Batch :=
  match batch.mgr.bundleInfos[item.bundleName]? with
  | none => (.ERR_OK, batch)
  | some info =>
    match call.check userId item with
    | .ERR_OK => call.switchClone userId item.bundleName info item.appIndex item.setEnabled batch
    | e => call.fail userId e batch

/-- A switch is looked at. -/
def BatchCall.consider (batch : Batch) (item : RollbackItem) : ErrCode × Batch :=
  match batch.mgr.bundleInfos[item.bundleName]? with
  | none => (.ERR_OK, batch)
  | some info => if call.wanted userId info item then call.attempt userId batch item else (.ERR_OK, batch)

/-- The state after a list of switches, as the loop carries it. -/
def BatchCall.after (mgr : BundleDataMgr) (items : List RollbackItem) : Batch :=
  ⟨items.foldl (call.switchItem userId) mgr, items⟩

variable {call userId} {mgr : BundleDataMgr} {items : List RollbackItem} {item : RollbackItem}

theorem BundleDataMgr.Named.foldl_markItem (h : mgr.Named) : (items.foldl (call.markItem userId) mgr).Named := by
  induction items generalizing mgr with
  | nil => exact h
  | cons x items ih => exact ih (h.touch userId _ x)

theorem cloneAt_foldl_switchItem (hapart : ∀ x ∈ items, x.Apart item) :
    (items.foldl (call.switchItem userId) mgr).cloneAt userId item = mgr.cloneAt userId item := by
  induction items generalizing mgr with
  | nil => rfl
  | cons x items ih =>
    rw [List.foldl_cons, ih fun y hy => hapart y (List.mem_cons_of_mem _ hy)]
    exact cloneAt_touch_of_apart userId _ (hapart x List.mem_cons_self)

theorem foldl_switchItem_isSome (name : Str) :
    (items.foldl (call.switchItem userId) mgr).bundleInfos[name]?.isSome = mgr.bundleInfos[name]?.isSome := by
  induction items generalizing mgr with
  | nil => rfl
  | cons x items ih =>
    rw [List.foldl_cons, ih]
    unfold BatchCall.switchItem
    rw [touch_bundleInfos]
    split <;> simp

/-- The switch in memory alone. -/
def BatchCall.unsavedSwitch (call : BatchCall) (userId : Int) (mgr : BundleDataMgr) (item : RollbackItem)
    (info : InnerBundleInfo) : BundleDataMgr :=
  let info := info.onClone userId item.appIndex (InnerBundleCloneInfo.switch item.setEnabled call.caller)
  { mgr with bundleInfos := mgr.bundleInfos.insert item.bundleName info }

/-- An unsaved switch, taken back, is the same as a saved one taken back. -/
theorem rollbackItem_of_unsaved (hok : ∀ name index, call.rollbackSaveOk name index = true) {info : InnerBundleInfo}
    (h : mgr.bundleInfos[item.bundleName]? = some info) (hclone : (info.clone? userId item.appIndex).isSome = true) :
    call.rollbackItem userId (call.unsavedSwitch userId mgr item info) item =
      call.rollbackItem userId (call.switchItem userId mgr item) item := by
  have hget : (call.unsavedSwitch userId mgr item info).bundleInfos[item.bundleName]? = some (info.onClone userId
      item.appIndex (InnerBundleCloneInfo.switch item.setEnabled call.caller)) := by
    unfold BatchCall.unsavedSwitch
    dsimp only
    rw [MapLoop.getElem?_insert_eq, if_pos rfl]
  have hget' : (call.switchItem userId mgr item).bundleInfos[item.bundleName]? = some (info.onClone userId
      item.appIndex (InnerBundleCloneInfo.switch item.setEnabled call.caller)) := by
    unfold BatchCall.switchItem
    rw [touch_bundleInfos, if_pos rfl, h]
    rfl
  have hthere : ((info.onClone userId item.appIndex (InnerBundleCloneInfo.switch item.setEnabled call.caller)).clone?
      userId item.appIndex).isSome = true := by
    rw [clone?_onClone, if_pos rfl, Option.isSome_map, hclone]
  rw [rollbackItem_eq_touch hok (by rw [BundleDataMgr.cloneAt, hget]; exact hthere),
    rollbackItem_eq_touch hok (by rw [BundleDataMgr.cloneAt, hget']; exact hthere),
    touch_of_some userId _ hget, touch_of_some userId _ hget']
  unfold BatchCall.unsavedSwitch BatchCall.switchItem
  rw [touch_of_some userId _ h]
  simp only [onClone_storageKey, MapLoop.insert_insert]

theorem bundleInfos_of_cloneAt (h : (mgr.cloneAt userId item).isSome = true) :
    ∃ info, mgr.bundleInfos[item.bundleName]? = some info ∧ (info.clone? userId item.appIndex).isSome = true := by
  unfold BundleDataMgr.cloneAt at h
  rcases hinfo : mgr.bundleInfos[item.bundleName]? with _ | info
  · rw [hinfo] at h
    cases h
  · rw [hinfo] at h
    exact ⟨info, rfl, h⟩

/-- The switches made by the time `item` fails. -/
def BatchCall.made (call : BatchCall) (userId : Int) (mgr : BundleDataMgr) (items : List RollbackItem)
    (item : RollbackItem) : List RollbackItem :=
  if call.check userId item = .ERR_OK ∧ (mgr.cloneAt userId item).isSome then items ++ [item] else items

/-- **A step that goes through** extends the run. -/
theorem attempt_goes (hapart : ∀ x ∈ items, x.Apart item) (hgo : call.Goes userId mgr item) :
    call.attempt userId (call.after userId mgr items) item = (.ERR_OK, call.after userId mgr (items ++ [item])) := by
  obtain ⟨⟨hcheck, hthere⟩, hsave⟩ := hgo
  have hsame : (items.foldl (call.switchItem userId) mgr).cloneAt userId item = mgr.cloneAt userId item :=
    cloneAt_foldl_switchItem hapart
  rw [← hsame] at hthere
  obtain ⟨info, hinfo, hclone⟩ := bundleInfos_of_cloneAt hthere
  obtain ⟨clone, hclone⟩ := Option.isSome_iff_exists.mp hclone
  unfold BatchCall.attempt BatchCall.after
  dsimp only
  rw [hinfo]
  dsimp only
  rw [hcheck]
  dsimp only
  unfold BatchCall.switchClone InnerBundleInfo.setCloneApplicationEnabled
  simp only [updateClone_eq, hclone, hsave, if_true, BundleDataMgr.saveStorageBundleInfo, onClone_storageKey]
  have hswitch := touch_of_some userId (InnerBundleCloneInfo.switch item.setEnabled call.caller) hinfo
  rw [List.foldl_append, List.foldl_cons, List.foldl_nil, BatchCall.switchItem, hswitch]

/-- **A step that fails** leaves a mark on every clone that was switched, its own included. -/
theorem attempt_fails (hok : ∀ name index, call.rollbackSaveOk name index = true) (hnamed : mgr.Named)
    (hapart : (items ++ [item]).Pairwise RollbackItem.Apart) (hopp : ∀ x ∈ items, mgr.Opposite userId x)
    (hitem : (mgr.cloneAt userId item).isSome = true → mgr.Opposite userId item)
    (hthere : mgr.bundleInfos[item.bundleName]?.isSome = true) (hgo : ¬ call.Goes userId mgr item) :
    (call.attempt userId (call.after userId mgr items) item).1 ≠ .ERR_OK ∧
      (call.attempt userId (call.after userId mgr items) item).2.mgr =
        (call.made userId mgr items item).foldl (call.markItem userId) mgr := by
  obtain ⟨hitems, -, hfar⟩ := List.pairwise_append.mp hapart
  have hfar : ∀ x ∈ items, x.Apart item := fun x hx => hfar x hx item List.mem_cons_self
  have hplain : items.reverse.foldl (call.rollbackItem userId) (items.foldl (call.switchItem userId) mgr) =
      items.foldl (call.markItem userId) mgr := rollback_run hok hnamed hitems hopp
  have hsame : (items.foldl (call.switchItem userId) mgr).cloneAt userId item = mgr.cloneAt userId item :=
    cloneAt_foldl_switchItem hfar
  have hsome : (items.foldl (call.switchItem userId) mgr).bundleInfos[item.bundleName]?.isSome = true :=
    (foldl_switchItem_isSome item.bundleName).trans hthere
  obtain ⟨info, hinfo⟩ := Option.isSome_iff_exists.mp hsome
  have hclone : mgr.cloneAt userId item = info.clone? userId item.appIndex := by
    rw [← hsame, BundleDataMgr.cloneAt, hinfo]
    rfl
  unfold BatchCall.attempt BatchCall.after BatchCall.made
  dsimp only
  rw [hinfo]
  dsimp only
  by_cases hcheck : call.check userId item = .ERR_OK
  swap
  · rw [if_neg (fun h => hcheck h.1)]
    have hfail : (match call.check userId item with
        | .ERR_OK => call.switchClone userId item.bundleName info item.appIndex item.setEnabled
            ⟨items.foldl (call.switchItem userId) mgr, items⟩
        | e => call.fail userId e ⟨items.foldl (call.switchItem userId) mgr, items⟩) =
        call.fail userId (call.check userId item) ⟨items.foldl (call.switchItem userId) mgr, items⟩ := by
      split
      · next h => exact absurd h hcheck
      · rfl
    rw [hfail]
    exact ⟨hcheck, hplain⟩
  rw [hcheck]
  dsimp only
  unfold BatchCall.switchClone InnerBundleInfo.setCloneApplicationEnabled
  rcases hc : info.clone? userId item.appIndex with _ | clone
  · rw [if_neg (by rw [hclone, hc]; simp)]
    simp only [updateClone_eq, hc]
    refine ⟨?_, hplain⟩
    unfold BatchCall.fail
    dsimp only
    split <;> simp
  · rw [if_pos ⟨rfl, by rw [hclone, hc]; rfl⟩]
    have hsave : call.saveOk item.bundleName item.appIndex = false := by
      by_contra hne
      exact hgo ⟨⟨hcheck, by rw [hclone, hc]; rfl⟩, by simpa using hne⟩
    simp only [updateClone_eq, hc, hsave, Bool.false_eq_true, if_false]
    refine ⟨by simp [BatchCall.fail], ?_⟩
    have hopp' : ∀ x ∈ items ++ [item], mgr.Opposite userId x := by
      intro x hx
      rcases List.mem_append.mp hx with hx | hx
      · exact hopp x hx
      · rw [List.mem_singleton.mp hx]
        exact hitem (by rw [hclone, hc]; rfl)
    rw [← rollback_run hok hnamed hapart hopp', List.reverse_append, List.reverse_singleton,
      List.singleton_append, List.foldl_cons, List.foldl_append, List.foldl_cons, List.foldl_nil,
      ← rollbackItem_of_unsaved hok hinfo (by rw [hc]; rfl)]
    simp only [BatchCall.fail, BatchCall.rollbackBatchSetEnabled, List.reverse_append, List.reverse_singleton,
      List.singleton_append, List.foldl_cons]
    rfl

/-! ### Loops -/

theorem forEach_append {α : Type} (step : Batch → α → ErrCode × Batch) (batch : Batch) (l l' : List α) :
    BatchCall.forEach step batch (l ++ l') =
      match BatchCall.forEach step batch l with
      | (.ERR_OK, batch) => BatchCall.forEach step batch l'
      | (e, batch) => (e, batch) := by
  induction l generalizing batch with
  | nil => rfl
  | cons a l ih =>
    rw [List.cons_append, BatchCall.forEach, BatchCall.forEach]
    rcases step batch a with ⟨e, batch'⟩
    cases e <;> first | exact ih batch' | rfl

theorem forEach_cons_of_ok {α : Type} {step : Batch → α → ErrCode × Batch} {batch batch' : Batch} {a : α}
    (h : step batch a = (.ERR_OK, batch')) (l : List α) :
    BatchCall.forEach step batch (a :: l) = BatchCall.forEach step batch' l := by
  rw [BatchCall.forEach, h]

theorem forEach_cons_of_error {α : Type} {step : Batch → α → ErrCode × Batch} {batch : Batch} {a : α}
    (h : (step batch a).1 ≠ .ERR_OK) (l : List α) : BatchCall.forEach step batch (a :: l) = step batch a := by
  rw [BatchCall.forEach]
  rcases hs : step batch a with ⟨e, batch'⟩
  rw [hs] at h
  cases e <;> first | exact absurd rfl h | rfl

/-- Two loops whose bodies agree wherever they can get. -/
theorem forEach_congr {α β : Type} {Q : Batch → Prop} {step : Batch → α → ErrCode × Batch}
    {step' : Batch → β → ErrCode × Batch} {h : α → β} (hstep : ∀ batch a, Q batch → step batch a = step' batch (h a))
    (hQ : ∀ batch b batch', Q batch → step' batch b = (.ERR_OK, batch') → Q batch') {batch : Batch} (hbatch : Q batch)
    (l : List α) : BatchCall.forEach step batch l = BatchCall.forEach step' batch (l.map h) := by
  induction l generalizing batch with
  | nil => rfl
  | cons a l ih =>
    rw [List.map_cons]
    by_cases hok : (step' batch (h a)).1 = .ERR_OK
    · have heq : step' batch (h a) = (.ERR_OK, (step' batch (h a)).2) := Prod.ext hok rfl
      rw [forEach_cons_of_ok heq, forEach_cons_of_ok ((hstep batch a hbatch).trans heq)]
      exact ih (hQ batch (h a) _ hbatch heq)
    · rw [forEach_cons_of_error hok, forEach_cons_of_error (by rw [hstep batch a hbatch]; exact hok),
        hstep batch a hbatch]

/-- A run of which every step goes through. -/
theorem forEach_attempt_goes {todo : List RollbackItem} (hapart : (items ++ todo).Pairwise RollbackItem.Apart)
    (hgo : ∀ x ∈ todo, call.Goes userId mgr x) :
    BatchCall.forEach (call.attempt userId) (call.after userId mgr items) todo =
      (.ERR_OK, call.after userId mgr (items ++ todo)) := by
  induction todo generalizing items with
  | nil => rw [List.append_nil]; rfl
  | cons x todo ih =>
    have hx : ∀ y ∈ items, y.Apart x := fun y hy => (List.pairwise_append.mp hapart).2.2 y hy x List.mem_cons_self
    rw [forEach_cons_of_ok (attempt_goes hx (hgo x List.mem_cons_self)),
      ih (by rwa [List.append_assoc]) fun y hy => hgo y (List.mem_cons_of_mem _ hy), List.append_assoc]
    rfl

/-- The first step that does not go through ends the run. -/
theorem forEach_attempt_stops {pre post : List RollbackItem}
    (hapart : (items ++ pre).Pairwise RollbackItem.Apart) (hpre : ∀ x ∈ pre, call.Goes userId mgr x)
    (hstop : (call.attempt userId (call.after userId mgr (items ++ pre)) item).1 ≠ .ERR_OK) :
    BatchCall.forEach (call.attempt userId) (call.after userId mgr items) (pre ++ item :: post) =
      call.attempt userId (call.after userId mgr (items ++ pre)) item := by
  rw [forEach_append, forEach_attempt_goes hapart hpre]
  exact forEach_cons_of_error hstop post

/-! ### What is looked at -/

theorem seen_eq_clone? (info : InnerBundleInfo) (h : 0 ≤ userId) (appIndex : Int) :
    info.seen userId appIndex = info.clone? userId appIndex := by
  unfold InnerBundleInfo.seen InnerBundleInfo.clone? InnerBundleInfo.getInnerBundleUserInfo
  rw [if_neg (by unfold NOT_EXIST_USERID; omega), if_neg (by unfold ALL_USERID; omega)]

variable {maxCloneCount : Int}

theorem BundleDataMgr.Sound.nonneg (hsound : mgr.Sound maxCloneCount) (h : (mgr.cloneAt userId item).isSome = true) :
    0 ≤ userId := by
  by_contra hneg
  obtain ⟨info, hinfo, hclone⟩ := bundleInfos_of_cloneAt h
  unfold InnerBundleInfo.clone? at hclone
  rw [hsound.users item.bundleName info userId hinfo (by omega)] at hclone
  cases hclone

theorem wanted_iff (call : BatchCall) (userId : Int) (info : InnerBundleInfo) (item : RollbackItem) :
    call.wanted userId info item = true ↔
      (∃ clone, info.seen userId item.appIndex = some clone ∧ clone.enabled = !item.setEnabled) ∧
        call.check userId item ≠ .ERR_BUNDLE_MANAGER_PERMISSION_DENIED := by
  unfold BatchCall.wanted
  rw [Bool.and_eq_true_iff, decide_eq_true_iff]
  refine and_congr_left fun _ => ?_
  rcases info.seen userId item.appIndex with _ | clone
  · simp
  · cases item.setEnabled <;> simp

theorem wanted_congr {info info' : InnerBundleInfo}
    (h : info.seen userId item.appIndex = info'.seen userId item.appIndex) :
    call.wanted userId info item = call.wanted userId info' item := by
  unfold BatchCall.wanted
  rw [h]

theorem opposite_of_wantedIn (hsound : mgr.Sound maxCloneCount) (hwanted : call.wantedIn userId mgr item = true)
    (hthere : (mgr.cloneAt userId item).isSome = true) : mgr.Opposite userId item := by
  have hnonneg := hsound.nonneg hthere
  obtain ⟨info, hinfo, hclone⟩ := bundleInfos_of_cloneAt hthere
  obtain ⟨clone, hclone⟩ := Option.isSome_iff_exists.mp hclone
  unfold BatchCall.wantedIn at hwanted
  rw [hinfo] at hwanted
  dsimp only at hwanted
  obtain ⟨⟨clone', hclone', hflag⟩, -⟩ := (wanted_iff call userId info item).mp hwanted
  rw [seen_eq_clone? info hnonneg, hclone] at hclone'
  obtain rfl := Option.some.inj hclone'
  exact ⟨clone, by rw [BundleDataMgr.cloneAt, hinfo]; exact hclone, hflag⟩

theorem bundleInfos_of_wantedIn (h : call.wantedIn userId mgr item = true) :
    mgr.bundleInfos[item.bundleName]?.isSome = true := by
  unfold BatchCall.wantedIn at h
  split at h
  · cases h
  · next hinfo => rw [hinfo]; rfl

/-- The first failure of a list is one place. -/
theorem first_not_unique {α : Type} {P : α → Prop} {pre pre' post post' : List α} {x x' : α}
    (h : pre ++ x :: post = pre' ++ x' :: post') (hpre : ∀ y ∈ pre, P y) (hx : ¬ P x) (hpre' : ∀ y ∈ pre', P y)
    (hx' : ¬ P x') : pre = pre' ∧ x = x' := by
  induction pre generalizing pre' with
  | nil =>
    cases pre' with
    | nil => exact ⟨rfl, (List.cons.inj h).1⟩
    | cons a pre' =>
      obtain rfl : x = a := (List.cons.inj h).1
      exact absurd (hpre' x List.mem_cons_self) hx
  | cons a pre ih =>
    cases pre' with
    | nil =>
      obtain rfl : a = x' := (List.cons.inj h).1
      exact absurd (hpre a List.mem_cons_self) hx'
    | cons b pre' =>
      obtain ⟨rfl, htail⟩ := List.cons.inj h
      obtain ⟨rfl, rfl⟩ := ih htail (fun y hy => hpre y (List.mem_cons_of_mem _ hy))
        fun y hy => hpre' y (List.mem_cons_of_mem _ hy)
      exact ⟨rfl, rfl⟩

theorem exists_first_not {α : Type} {P : α → Prop} {l : List α} (h : ¬ ∀ x ∈ l, P x) :
    ∃ pre x post, l = pre ++ x :: post ∧ (∀ y ∈ pre, P y) ∧ ¬ P x := by
  induction l with
  | nil => exact absurd (fun x hx => nomatch hx) h
  | cons a l ih =>
    by_cases ha : P a
    · have htail : ¬ ∀ x ∈ l, P x := by
        intro hl
        refine h fun x hx => ?_
        rcases List.mem_cons.mp hx with rfl | hx
        · exact ha
        · exact hl x hx
      obtain ⟨pre, x, post, rfl, hpre, hx⟩ := ih htail
      refine ⟨a :: pre, x, post, rfl, fun y hy => ?_, hx⟩
      rcases List.mem_cons.mp hy with rfl | hy
      · exact ha
      · exact hpre y hy
    · exact ⟨[], a, l, rfl, by simp, ha⟩

/-- **A run with a step that fails** leaves its marks. -/
theorem forEach_attempt_fails (hok : ∀ name index, call.rollbackSaveOk name index = true)
    (hsound : mgr.Sound maxCloneCount) {todo : List RollbackItem}
    (hapart : (items ++ todo).Pairwise RollbackItem.Apart) (hopp : ∀ x ∈ items, mgr.Opposite userId x)
    (hwanted : ∀ x ∈ todo, call.wantedIn userId mgr x = true) {pre post : List RollbackItem}
    (hsplit : todo = pre ++ item :: post) (hpre : ∀ x ∈ pre, call.Goes userId mgr x)
    (hitem : ¬ call.Goes userId mgr item) :
    (BatchCall.forEach (call.attempt userId) (call.after userId mgr items) todo).1 ≠ .ERR_OK ∧
      (BatchCall.forEach (call.attempt userId) (call.after userId mgr items) todo).2.mgr =
        (call.made userId mgr (items ++ pre) item).foldl (call.markItem userId) mgr := by
  subst hsplit
  have hpair : (items ++ pre ++ [item]).Pairwise RollbackItem.Apart := by
    refine hapart.sublist ?_
    rw [List.append_assoc]
    exact List.Sublist.append_left (List.Sublist.append_left (by simp) pre) items
  have hopp' : ∀ x ∈ items ++ pre, mgr.Opposite userId x := by
    intro x hx
    rcases List.mem_append.mp hx with hx | hx
    · exact hopp x hx
    · exact opposite_of_wantedIn hsound (hwanted x (List.mem_append_left _ hx)) (hpre x hx).1.2
  have hlast := hwanted item (List.mem_append_right _ List.mem_cons_self)
  obtain ⟨hfail, hmgr⟩ := attempt_fails hok hsound.named hpair hopp' (opposite_of_wantedIn hsound hlast)
    (bundleInfos_of_wantedIn hlast) hitem
  have hpairPre : (items ++ pre).Pairwise RollbackItem.Apart := hpair.sublist (List.sublist_append_left _ _)
  rw [forEach_attempt_stops hpairPre hpre hfail]
  exact ⟨hfail, hmgr⟩

/-- A switch that is apart from those made is looked at as in the state before the batch. -/
theorem consider_eq (hsound : mgr.Sound maxCloneCount) (hopp : ∀ x ∈ items, mgr.Opposite userId x)
    (hapart : ∀ x ∈ items, x.Apart item) :
    call.consider userId (call.after userId mgr items) item =
      if call.wantedIn userId mgr item then call.attempt userId (call.after userId mgr items) item
      else (.ERR_OK, call.after userId mgr items) := by
  unfold BatchCall.consider BatchCall.wantedIn
  have hclone : (items.foldl (call.switchItem userId) mgr).cloneAt userId item = mgr.cloneAt userId item :=
    cloneAt_foldl_switchItem hapart
  have hsome : (items.foldl (call.switchItem userId) mgr).bundleInfos[item.bundleName]?.isSome =
      mgr.bundleInfos[item.bundleName]?.isSome := foldl_switchItem_isSome item.bundleName
  unfold BundleDataMgr.cloneAt at hclone
  have hget : (call.after userId mgr items).mgr = items.foldl (call.switchItem userId) mgr := rfl
  rw [hget]
  rcases hinfo : mgr.bundleInfos[item.bundleName]? with _ | info
  · rw [hinfo] at hsome
    rw [Option.isSome_eq_false_iff.mp hsome |> Option.isNone_iff_eq_none.mp]
    rfl
  · rw [hinfo] at hsome hclone
    obtain ⟨info', hinfo'⟩ := Option.isSome_iff_exists.mp hsome
    rw [hinfo'] at hclone ⊢
    dsimp only
    have hseen : info'.seen userId item.appIndex = info.seen userId item.appIndex := by
      cases items with
      | nil =>
        rw [List.foldl_nil, hinfo] at hinfo'
        rw [Option.some.inj hinfo']
      | cons x items =>
        obtain ⟨clone, hx, -⟩ := hopp x List.mem_cons_self
        have hthere : (mgr.cloneAt userId x).isSome = true := by rw [hx]; rfl
        rw [seen_eq_clone? info (hsound.nonneg hthere), seen_eq_clone? info' (hsound.nonneg hthere)]
        exact hclone
    rw [wanted_congr hseen]

/-- **Looking at the candidates is trying the wanted ones.** -/
theorem forEach_consider (hok : ∀ name index, call.rollbackSaveOk name index = true)
    (hsound : mgr.Sound maxCloneCount) {cands : List RollbackItem} (hopp : ∀ x ∈ items, mgr.Opposite userId x)
    (hapart : (items ++ cands).Pairwise RollbackItem.Apart) :
    BatchCall.forEach (call.consider userId) (call.after userId mgr items) cands =
      BatchCall.forEach (call.attempt userId) (call.after userId mgr items)
        (cands.filter (call.wantedIn userId mgr)) := by
  induction cands generalizing items with
  | nil => rfl
  | cons x cands ih =>
    have hx : ∀ y ∈ items, y.Apart x := fun y hy => (List.pairwise_append.mp hapart).2.2 y hy x List.mem_cons_self
    have hpair : (items ++ [x]).Pairwise RollbackItem.Apart := by
      refine hapart.sublist ?_
      exact List.Sublist.append_left (by simp) items
    have hconsider : call.consider userId (call.after userId mgr items) x =
        if call.wantedIn userId mgr x then call.attempt userId (call.after userId mgr items) x
        else (.ERR_OK, call.after userId mgr items) := consider_eq hsound hopp hx
    by_cases hwanted : call.wantedIn userId mgr x = true
    · rw [List.filter_cons_of_pos hwanted]
      rw [if_pos hwanted] at hconsider
      have hitem := opposite_of_wantedIn hsound hwanted
      by_cases hgo : call.Goes userId mgr x
      · have hattempt := attempt_goes hx hgo
        rw [forEach_cons_of_ok (hconsider.trans hattempt), forEach_cons_of_ok hattempt]
        refine ih (fun y hy => ?_) (by rwa [List.append_assoc])
        rcases List.mem_append.mp hy with hy | hy
        · exact hopp y hy
        · rw [List.mem_singleton.mp hy]
          exact hitem hgo.1.2
      · have hfail := (attempt_fails hok hsound.named hpair hopp hitem (bundleInfos_of_wantedIn hwanted) hgo).1
        rw [forEach_cons_of_error (by rw [hconsider]; exact hfail), forEach_cons_of_error hfail, hconsider]
    · rw [List.filter_cons_of_neg hwanted]
      rw [if_neg hwanted] at hconsider
      rw [forEach_cons_of_ok hconsider]
      exact ih hopp (hapart.sublist (List.Sublist.append_left (List.sublist_cons_self x cands) items))

/-! ### The loops of the batch -/

theorem BundleDataMgr.Sound.range (hsound : mgr.Sound maxCloneCount) {name : Str} {info : InnerBundleInfo}
    {user : InnerBundleUserInfo} {key : Str} {clone : InnerBundleCloneInfo} (hinfo : mgr.bundleInfos[name]? = some info)
    (huser : info.getInnerBundleUserInfo userId = some user) (hclone : user.cloneInfos[key]? = some clone) :
    key = toDecimal clone.appIndex ∧ 0 < clone.appIndex ∧ clone.appIndex ≤ maxCloneCount := by
  unfold InnerBundleInfo.getInnerBundleUserInfo at huser
  split at huser
  · obtain rfl := Option.some.inj huser
    simp at hclone
  split at huser
  · obtain ⟨⟨userKey, user'⟩, hhead, rfl⟩ := Option.map_eq_some_iff.mp huser
    have hmem := List.mem_of_mem_head? hhead
    exact hsound.clones name info userKey user' key clone hinfo (ExtTreeMap.mem_toList_iff_getElem?_eq_some.mp hmem)
      hclone
  · exact hsound.clones name info _ user key clone hinfo huser hclone

theorem BundleDataMgr.Sound.touch (hsound : mgr.Sound maxCloneCount)
    {f : InnerBundleCloneInfo → InnerBundleCloneInfo} (hf : ∀ clone, (f clone).appIndex = clone.appIndex)
    (item : RollbackItem) : (mgr.touch userId f item).Sound maxCloneCount := by
  -- Every record of the touched state is one of before, or one of before with its clone changed.
  have hget : ∀ {name : Str} {info : InnerBundleInfo}, (mgr.touch userId f item).bundleInfos[name]? = some info →
      ∃ old, mgr.bundleInfos[name]? = some old ∧ (info = old ∨ info = old.onClone userId item.appIndex f) := by
    intro name info h
    rw [touch_bundleInfos] at h
    split at h
    · obtain ⟨old, hold, rfl⟩ := Option.map_eq_some_iff.mp h
      exact ⟨old, hold, .inr rfl⟩
    · exact ⟨info, h, .inl rfl⟩
  constructor
  · exact hsound.named.touch userId f item
  · intro name info userKey user key h hindex huser
    obtain ⟨old, hold, rfl | rfl⟩ := hget h
    · exact hsound.cloneless name info userKey user key hold hindex huser
    unfold InnerBundleInfo.onClone at huser
    dsimp only at huser
    rw [MapLoop.getElem?_modify_eq] at huser
    split at huser
    swap
    · exact hsound.cloneless name old userKey user key hold hindex huser
    obtain ⟨user', huser', rfl⟩ := Option.map_eq_some_iff.mp huser
    dsimp only
    rw [MapLoop.getElem?_modify_eq, hsound.cloneless name old userKey user' key hold hindex huser']
    split <;> rfl
  · intro name info user h hneg
    obtain ⟨old, hold, rfl | rfl⟩ := hget h
    · exact hsound.users name info user hold hneg
    · unfold InnerBundleInfo.onClone
      dsimp only
      rw [MapLoop.getElem?_modify_eq, hsound.users name old user hold hneg]
      split <;> rfl
  · intro name info userKey user key clone h huser hclone
    obtain ⟨old, hold, rfl | rfl⟩ := hget h
    · exact hsound.clones name info userKey user key clone hold huser hclone
    unfold InnerBundleInfo.onClone at huser
    dsimp only at huser
    rw [MapLoop.getElem?_modify_eq] at huser
    split at huser
    swap
    · exact hsound.clones name old userKey user key clone hold huser hclone
    obtain ⟨user', huser', rfl⟩ := Option.map_eq_some_iff.mp huser
    dsimp only at hclone
    rw [MapLoop.getElem?_modify_eq] at hclone
    split at hclone
    · obtain ⟨clone', hclone', rfl⟩ := Option.map_eq_some_iff.mp hclone
      rw [hf]
      exact hsound.clones name old userKey user' key clone' hold huser' hclone'
    · exact hsound.clones name old userKey user' key clone hold huser' hclone

theorem BundleDataMgr.Sound.switchItem (hsound : mgr.Sound maxCloneCount) (item : RollbackItem) :
    (call.switchItem userId mgr item).Sound maxCloneCount := by
  refine hsound.touch ?_ item
  intro clone
  rfl

theorem BundleDataMgr.Sound.foldl_switchItem (hsound : mgr.Sound maxCloneCount) :
    (items.foldl (call.switchItem userId) mgr).Sound maxCloneCount := by
  induction items generalizing mgr with
  | nil => exact hsound
  | cons x items ih => exact ih (hsound.switchItem x)

theorem enabledV9_of_clone {info : InnerBundleInfo} {user : InnerBundleUserInfo} {appIndex : Int}
    {clone : InnerBundleCloneInfo} (huser : info.getInnerBundleUserInfo userId = some user)
    (hclone : user.cloneInfos[toDecimal appIndex]? = some clone) (hpos : 0 < appIndex)
    (hle : appIndex ≤ INITIAL_SANDBOX_APP_INDEX) : info.getApplicationEnabledV9 userId appIndex = .ok clone.enabled := by
  have hdual : appIndex ≠ DUAL_MODE_CLONE_APP_INDEX := by
    unfold DUAL_MODE_CLONE_APP_INDEX
    unfold INITIAL_SANDBOX_APP_INDEX at hle
    omega
  unfold InnerBundleInfo.getApplicationEnabledV9
  rw [huser]
  dsimp only
  rw [if_neg (by omega), if_neg hdual, if_pos ⟨hpos, hle⟩, hclone]

/-- What the loop body for one index sees of the record. -/
theorem indexed_clone (hsound : mgr.Sound maxCloneCount) (hrange : maxCloneCount ≤ INITIAL_SANDBOX_APP_INDEX)
    {name : Str} {info : InnerBundleInfo} (hinfo : mgr.bundleInfos[name]? = some info) {user : InnerBundleUserInfo}
    (huser : info.getInnerBundleUserInfo userId = some user) {appIndex : Int} {clone : InnerBundleCloneInfo}
    (hclone : user.cloneInfos[toDecimal appIndex]? = some clone) :
    info.getApplicationEnabledV9 userId appIndex = .ok clone.enabled := by
  obtain ⟨hkey, hpos, hle⟩ := hsound.range hinfo huser hclone
  obtain rfl := toDecimal_injective hkey
  exact enabledV9_of_clone huser hclone hpos (hle.trans hrange)

/-- The loop bodies look at one switch. -/
theorem processDisableForBundle_eq {batch : Batch} (hsound : batch.mgr.Sound maxCloneCount)
    (hrange : maxCloneCount ≤ INITIAL_SANDBOX_APP_INDEX) (name : Str) (appIndex : Int) :
    call.processDisableForBundle userId name batch appIndex = call.consider userId batch ⟨name, appIndex, false⟩ := by
  unfold BatchCall.processDisableForBundle BatchCall.consider BatchCall.attempt
  dsimp only
  rcases hinfo : batch.mgr.bundleInfos[name]? with _ | info
  · rfl
  dsimp only
  have hwanted := wanted_iff call userId info ⟨name, appIndex, false⟩
  dsimp only at hwanted
  unfold InnerBundleInfo.seen at hwanted
  rcases huser : info.getInnerBundleUserInfo userId with _ | user
  · rw [if_neg (by rw [hwanted, huser]; simp)]
  rw [huser, Option.bind_some] at hwanted
  dsimp only
  rcases hclone : user.cloneInfos[toDecimal appIndex]? with _ | clone
  · rw [Option.isNone_none, if_pos rfl, if_neg (by rw [hwanted, hclone]; simp)]
  rw [hclone] at hwanted
  rw [if_neg (by simp), indexed_clone hsound hrange hinfo huser hclone]
  rcases hflag : clone.enabled with _ | _
  · rw [if_neg (by rw [hwanted]; simp [hflag])]
  dsimp only
  have hcheck : call.check userId ⟨name, appIndex, false⟩ = call.checkDisableForbidden name userId appIndex := rfl
  rw [hcheck] at hwanted ⊢
  by_cases hdenied : call.checkDisableForbidden name userId appIndex = .ERR_BUNDLE_MANAGER_PERMISSION_DENIED
  · rw [if_neg (by rw [hwanted]; simp [hdenied]), hdenied]
  · rw [if_pos (hwanted.mpr ⟨⟨clone, rfl, hflag⟩, hdenied⟩)]
    revert hdenied
    cases call.checkDisableForbidden name userId appIndex <;> simp

theorem processEnableForBundle_eq {batch : Batch} (hsound : batch.mgr.Sound maxCloneCount)
    (hrange : maxCloneCount ≤ INITIAL_SANDBOX_APP_INDEX) (name : Str) (appIndex : Int) :
    call.processEnableForBundle userId name batch appIndex = call.consider userId batch ⟨name, appIndex, true⟩ := by
  unfold BatchCall.processEnableForBundle BatchCall.consider BatchCall.attempt
  dsimp only
  rcases hinfo : batch.mgr.bundleInfos[name]? with _ | info
  · rfl
  dsimp only
  have hwanted := wanted_iff call userId info ⟨name, appIndex, true⟩
  dsimp only at hwanted
  unfold InnerBundleInfo.seen at hwanted
  rcases huser : info.getInnerBundleUserInfo userId with _ | user
  · rw [if_neg (by rw [hwanted, huser]; simp)]
  rw [huser, Option.bind_some] at hwanted
  dsimp only
  rcases hclone : user.cloneInfos[toDecimal appIndex]? with _ | clone
  · rw [Option.isNone_none, if_pos rfl, if_neg (by rw [hwanted, hclone]; simp)]
  rw [hclone] at hwanted
  have hcheck : call.check userId ⟨name, appIndex, true⟩ = .ERR_OK := rfl
  rw [if_neg (by simp), indexed_clone hsound hrange hinfo huser hclone, hcheck]
  rcases hflag : clone.enabled with _ | _
  · rw [if_pos (hwanted.mpr ⟨⟨clone, rfl, hflag⟩, by rw [hcheck]; simp⟩)]
  · rw [if_neg (by rw [hwanted]; simp [hflag])]

/-- A step of the loop that returns `ERR_OK` has switched and saved, or done nothing. -/
theorem consider_ok {batch batch' : Batch} (h : call.consider userId batch item = (.ERR_OK, batch')) :
    batch' = batch ∨ batch'.mgr = call.switchItem userId batch.mgr item := by
  unfold BatchCall.consider at h
  rcases hinfo : batch.mgr.bundleInfos[item.bundleName]? with _ | info
  · rw [hinfo] at h
    exact .inl (Prod.mk.inj h).2.symm
  rw [hinfo] at h
  dsimp only at h
  split at h
  swap
  · exact .inl (Prod.mk.inj h).2.symm
  unfold BatchCall.attempt at h
  rw [hinfo] at h
  dsimp only at h
  split at h
  swap
  · next hne => exact absurd (Prod.mk.inj h).1 hne
  unfold BatchCall.switchClone InnerBundleInfo.setCloneApplicationEnabled at h
  rw [updateClone_eq] at h
  rcases hclone : info.clone? userId item.appIndex with _ | clone
  · rw [hclone] at h
    dsimp only at h
    split at h <;> exact absurd (Prod.mk.inj h).1 (by simp)
  rw [hclone] at h
  dsimp only at h
  split at h
  · refine .inr ?_
    rw [← (Prod.mk.inj h).2, BatchCall.switchItem, touch_of_some userId _ hinfo]
    rfl
  · exact absurd (Prod.mk.inj h).1 (by simp)

theorem consider_sound {batch batch' : Batch} (hsound : batch.mgr.Sound maxCloneCount)
    (h : call.consider userId batch item = (.ERR_OK, batch')) : batch'.mgr.Sound maxCloneCount := by
  rcases consider_ok h with rfl | he
  · exact hsound
  · rw [he]
    exact hsound.switchItem item

theorem forEach_sound {batch batch' : Batch} (hsound : batch.mgr.Sound maxCloneCount) {cands : List RollbackItem}
    (h : BatchCall.forEach (call.consider userId) batch cands = (.ERR_OK, batch')) :
    batch'.mgr.Sound maxCloneCount := by
  induction cands generalizing batch with
  | nil => rwa [← (Prod.mk.inj h).2]
  | cons x cands ih =>
    by_cases hok : (call.consider userId batch x).1 = .ERR_OK
    · have heq : call.consider userId batch x = (.ERR_OK, (call.consider userId batch x).2) := Prod.ext hok rfl
      rw [forEach_cons_of_ok heq] at h
      exact ih (consider_sound hsound heq) h
    · rw [forEach_cons_of_error hok] at h
      exact absurd (congrArg Prod.fst h) hok

/-- A record that is itself a clone has nothing to switch. -/
theorem BundleDataMgr.Sound.candidates_of_clone (hsound : mgr.Sound maxCloneCount) {name : Str}
    {info : InnerBundleInfo} (hinfo : mgr.bundleInfos[name]? = some info) (hindex : info.appIndex ≠ 0) :
    (info.getInnerBundleUserInfo userId).bind call.disableIndexes = none := by
  have hnone : ∀ user, info.getInnerBundleUserInfo userId = some user → ∀ key : Str, user.cloneInfos[key]? = none := by
    intro user huser key
    unfold InnerBundleInfo.getInnerBundleUserInfo at huser
    split at huser
    · obtain rfl := Option.some.inj huser
      exact ExtTreeMap.getElem?_empty
    split at huser
    · obtain ⟨⟨userKey, user'⟩, hhead, rfl⟩ := Option.map_eq_some_iff.mp huser
      have hmem := List.mem_of_mem_head? hhead
      exact hsound.cloneless name info userKey user' key hinfo hindex (ExtTreeMap.mem_toList_iff_getElem?_eq_some.mp hmem)
    · exact hsound.cloneless name info _ user key hinfo hindex huser
  rcases huser : info.getInnerBundleUserInfo userId with _ | user
  · rfl
  · have hempty : user.cloneInfos = ∅ := ExtTreeMap.ext_getElem? fun key => by
      rw [hnone user huser key, ExtTreeMap.getElem?_empty]
    show call.disableIndexes user = none
    unfold BatchCall.disableIndexes
    rw [if_pos (ExtTreeMap.isEmpty_iff.mpr hempty)]

theorem processBundle_eq {batch : Batch} (hsound : batch.mgr.Sound maxCloneCount)
    (hrange : maxCloneCount ≤ INITIAL_SANDBOX_APP_INDEX) {name : Str} {info : InnerBundleInfo}
    (hinfo : batch.mgr.bundleInfos[name]? = some info) :
    call.processBundle userId batch name =
      BatchCall.forEach (call.consider userId) batch (call.candidatesOf userId name info) := by
  unfold BatchCall.processBundle BatchCall.candidatesOf
  rw [hinfo]
  dsimp only
  by_cases hindex : info.appIndex ≠ 0
  · rw [if_pos hindex, hsound.candidates_of_clone hinfo hindex]
    rfl
  rw [if_neg hindex]
  rcases (info.getInnerBundleUserInfo userId).bind call.disableIndexes with _ | indexes
  · rfl
  dsimp only
  have hdisable : BatchCall.forEach (call.processDisableForBundle userId name) batch indexes =
      BatchCall.forEach (call.consider userId) batch (indexes.map fun index => ⟨name, index, false⟩) := by
    refine forEach_congr (Q := fun batch => batch.mgr.Sound maxCloneCount) ?_ ?_ hsound indexes
    · intro batch index hsound
      exact processDisableForBundle_eq hsound hrange name index
    · intro batch item batch' hsound h
      exact consider_sound hsound h
  rw [hdisable, forEach_append]
  rcases hrun : BatchCall.forEach (call.consider userId) batch (indexes.map fun index => ⟨name, index, false⟩) with
    ⟨e, batch'⟩
  by_cases hok : e = .ERR_OK
  swap
  · cases e <;> first | exact absurd rfl hok | rfl
  subst hok
  dsimp only
  have hsound' : batch'.mgr.Sound maxCloneCount := by
    refine forEach_sound hsound hrun
  rw [processEnableForBundle_eq hsound' hrange]
  rcases henable : call.consider userId batch' ⟨name, call.enableAppIndex, true⟩ with ⟨e, batch''⟩
  by_cases hok : e = .ERR_OK
  · subst hok
    rw [forEach_cons_of_ok henable]
    rfl
  · rw [forEach_cons_of_error (by rw [henable]; exact hok), henable]

theorem mem_candidatesOf {name : Str} {info : InnerBundleInfo} : item ∈ call.candidatesOf userId name info ↔
    ∃ indexes, (info.getInnerBundleUserInfo userId).bind call.disableIndexes = some indexes ∧
      (item = ⟨name, call.enableAppIndex, true⟩ ∨ ∃ index ∈ indexes, item = ⟨name, index, false⟩) := by
  unfold BatchCall.candidatesOf
  rcases (info.getInnerBundleUserInfo userId).bind call.disableIndexes with _ | indexes
  · simp
  · simp [or_comm, eq_comm]

theorem bundleName_of_candidate {name : Str} {info : InnerBundleInfo}
    (h : item ∈ call.candidatesOf userId name info) : item.bundleName = name := by
  obtain ⟨indexes, -, rfl | ⟨index, -, rfl⟩⟩ := mem_candidatesOf.mp h <;> rfl

/-- The indexes to disable are different from one another and from the one to enable. -/
theorem disableIndexes_nodup (hsound : mgr.Sound maxCloneCount) (hdiffer : call.enableAppIndex ≠ call.disableAppIndex)
    {name : Str} {info : InnerBundleInfo} (hinfo : mgr.bundleInfos[name]? = some info) {user : InnerBundleUserInfo}
    (huser : info.getInnerBundleUserInfo userId = some user) {indexes : List Int}
    (h : call.disableIndexes user = some indexes) : indexes.Nodup ∧ call.enableAppIndex ∉ indexes := by
  unfold BatchCall.disableIndexes at h
  split at h
  · cases h
  split at h
  swap
  · obtain rfl := Option.some.inj h
    exact ⟨List.nodup_singleton _, by simpa using hdiffer⟩
  split at h
  · cases h
  obtain rfl := Option.some.inj h
  refine ⟨List.Nodup.filter _ ?_, by simp⟩
  rw [List.Nodup, List.pairwise_map]
  refine (MapLoop.toList_distinct user.cloneInfos).imp_of_mem fun {a b} ha hb hne e => hne ?_
  have hrange := fun (entry : Str × InnerBundleCloneInfo) (hentry : entry ∈ user.cloneInfos.toList) =>
    (hsound.range hinfo huser (ExtTreeMap.mem_toList_iff_getElem?_eq_some.mp hentry)).1
  rw [hrange a ha, hrange b hb, e]

theorem candidates_apart (hsound : mgr.Sound maxCloneCount) (hdiffer : call.enableAppIndex ≠ call.disableAppIndex)
    {name : Str} {info : InnerBundleInfo} (hinfo : mgr.bundleInfos[name]? = some info) :
    (call.candidatesOf userId name info).Pairwise RollbackItem.Apart := by
  unfold BatchCall.candidatesOf
  rcases huser : info.getInnerBundleUserInfo userId with _ | user
  · exact List.Pairwise.nil
  rw [Option.bind_some]
  rcases hindexes : call.disableIndexes user with _ | indexes
  · exact List.Pairwise.nil
  obtain ⟨hnodup, henable⟩ := disableIndexes_nodup hsound hdiffer hinfo huser hindexes
  refine List.pairwise_append.mpr ⟨?_, List.pairwise_singleton _ _, ?_⟩
  · rw [List.pairwise_map]
    exact hnodup.imp fun hne => .inr hne
  · intro x hx y hy
    obtain ⟨index, hindex, rfl⟩ := List.mem_map.mp hx
    rw [List.mem_singleton.mp hy]
    refine .inr fun e => henable ?_
    have e : index = call.enableAppIndex := e
    rwa [← e]

theorem bundleName_of_planAt {name : Str} (h : item ∈ call.planAt userId mgr name) : item.bundleName = name := by
  unfold BatchCall.planAt at h
  split at h
  · cases h
  · exact bundleName_of_candidate (List.mem_of_mem_filter h)

theorem wantedIn_of_planAt {name : Str} (h : item ∈ call.planAt userId mgr name) :
    call.wantedIn userId mgr item = true := by
  unfold BatchCall.planAt at h
  split at h
  · cases h
  · exact (List.mem_filter.mp h).2

theorem planAt_apart (hsound : mgr.Sound maxCloneCount) (hdiffer : call.enableAppIndex ≠ call.disableAppIndex)
    (name : Str) : (call.planAt userId mgr name).Pairwise RollbackItem.Apart := by
  unfold BatchCall.planAt
  rcases hinfo : mgr.bundleInfos[name]? with _ | info
  · exact List.Pairwise.nil
  · exact (candidates_apart hsound hdiffer hinfo).sublist List.filter_sublist

theorem flatMap_planAt_apart (hsound : mgr.Sound maxCloneCount) (hdiffer : call.enableAppIndex ≠ call.disableAppIndex)
    {names : List Str} (hnodup : names.Nodup) :
    (names.flatMap (call.planAt userId mgr)).Pairwise RollbackItem.Apart := by
  induction names with
  | nil => exact List.Pairwise.nil
  | cons name names ih =>
    obtain ⟨hname, hnames⟩ := List.nodup_cons.mp hnodup
    rw [List.flatMap_cons]
    refine List.pairwise_append.mpr ⟨planAt_apart hsound hdiffer name, ih hnames, fun x hx y hy => .inl fun e => ?_⟩
    obtain ⟨name', hname', hy⟩ := List.mem_flatMap.mp hy
    rw [bundleName_of_planAt hx, bundleName_of_planAt hy] at e
    exact hname (e ▸ hname')

theorem foldl_switchItem_of_ne {name : Str} (h : ∀ x ∈ items, x.bundleName ≠ name) :
    (items.foldl (call.switchItem userId) mgr).bundleInfos[name]? = mgr.bundleInfos[name]? := by
  induction items generalizing mgr with
  | nil => rfl
  | cons x items ih =>
    rw [List.foldl_cons, ih fun y hy => h y (List.mem_cons_of_mem _ hy)]
    unfold BatchCall.switchItem
    rw [touch_bundleInfos, if_neg (Ne.symm (h x List.mem_cons_self))]

/-- **The batch tries its plan**, bundle by bundle. -/
theorem forEach_processBundle (hok : ∀ name index, call.rollbackSaveOk name index = true)
    (hsound : mgr.Sound maxCloneCount) (hrange : maxCloneCount ≤ INITIAL_SANDBOX_APP_INDEX)
    (hdiffer : call.enableAppIndex ≠ call.disableAppIndex) {names : List Str} (hnodup : names.Nodup)
    (hthere : ∀ name ∈ names, mgr.bundleInfos[name]?.isSome = true) (hitems : items.Pairwise RollbackItem.Apart)
    (hopp : ∀ x ∈ items, mgr.Opposite userId x) (hnames : ∀ x ∈ items, x.bundleName ∉ names) :
    BatchCall.forEach (call.processBundle userId) (call.after userId mgr items) names =
      BatchCall.forEach (call.attempt userId) (call.after userId mgr items)
        (names.flatMap (call.planAt userId mgr)) := by
  induction names generalizing items with
  | nil => rfl
  | cons name names ih =>
    obtain ⟨hname, hrest⟩ := List.nodup_cons.mp hnodup
    obtain ⟨info, hinfo⟩ := Option.isSome_iff_exists.mp (hthere name List.mem_cons_self)
    have hfar : ∀ x ∈ items, x.bundleName ≠ name := fun x hx e => hnames x hx (e ▸ List.mem_cons_self)
    have hcurrent : (call.after userId mgr items).mgr.bundleInfos[name]? = some info :=
      (foldl_switchItem_of_ne hfar).trans hinfo
    have hstate : (call.after userId mgr items).mgr.Sound maxCloneCount := hsound.foldl_switchItem
    have hcands : (items ++ call.candidatesOf userId name info).Pairwise RollbackItem.Apart := by
      refine List.pairwise_append.mpr ⟨hitems, candidates_apart hsound hdiffer hinfo, fun x hx y hy => .inl ?_⟩
      rw [bundleName_of_candidate hy]
      exact hfar x hx
    have hplan : call.planAt userId mgr name =
        (call.candidatesOf userId name info).filter (call.wantedIn userId mgr) := by
      unfold BatchCall.planAt
      rw [hinfo]
    have hbundle : call.processBundle userId (call.after userId mgr items) name =
        BatchCall.forEach (call.attempt userId) (call.after userId mgr items) (call.planAt userId mgr name) := by
      rw [processBundle_eq hstate hrange hcurrent, forEach_consider hok hsound hopp hcands, hplan]
    have hplanApart : (items ++ call.planAt userId mgr name).Pairwise RollbackItem.Apart := by
      rw [hplan]
      exact hcands.sublist (List.Sublist.append_left List.filter_sublist items)
    rw [List.flatMap_cons, forEach_append]
    by_cases hgo : ∀ x ∈ call.planAt userId mgr name, call.Goes userId mgr x
    · have hrun := forEach_attempt_goes hplanApart hgo
      rw [forEach_cons_of_ok (hbundle.trans hrun), hrun]
      refine ih hrest (fun n hn => hthere n (List.mem_cons_of_mem _ hn)) hplanApart (fun x hx => ?_) fun x hx => ?_
      · rcases List.mem_append.mp hx with hx | hx
        · exact hopp x hx
        · exact opposite_of_wantedIn hsound (wantedIn_of_planAt hx) (hgo x hx).1.2
      · rcases List.mem_append.mp hx with hx | hx
        · exact fun hmem => hnames x hx (List.mem_cons_of_mem _ hmem)
        · rw [bundleName_of_planAt hx]
          exact hname
    · obtain ⟨pre, x, post, hsplit, hpre, hx⟩ := exists_first_not hgo
      obtain ⟨hfail, -⟩ := forEach_attempt_fails hok hsound hplanApart hopp
        (fun y hy => wantedIn_of_planAt hy) hsplit hpre hx
      rw [forEach_cons_of_error (by rw [hbundle]; exact hfail), hbundle]
      rcases hrun : BatchCall.forEach (call.attempt userId) (call.after userId mgr items)
        (call.planAt userId mgr name) with ⟨e, batch⟩
      rw [hrun] at hfail
      cases e <;> first | exact absurd rfl hfail | rfl

theorem plan_apart (hsound : mgr.Sound maxCloneCount) (hdiffer : call.enableAppIndex ≠ call.disableAppIndex) :
    (call.plan userId mgr).Pairwise RollbackItem.Apart :=
  flatMap_planAt_apart hsound hdiffer ExtTreeMap.nodup_keys

theorem wantedIn_of_plan (h : item ∈ call.plan userId mgr) : call.wantedIn userId mgr item = true := by
  obtain ⟨name, -, h⟩ := List.mem_flatMap.mp h
  exact wantedIn_of_planAt h

/-- **The whole batch**: it makes all its switches, or leaves marks up to the first that fails. -/
theorem processBatchForAllBundles_spec (hok : ∀ name index, call.rollbackSaveOk name index = true)
    (hsound : mgr.Sound maxCloneCount) (hrange : maxCloneCount ≤ INITIAL_SANDBOX_APP_INDEX)
    (hdiffer : call.enableAppIndex ≠ call.disableAppIndex) :
    ((∀ x ∈ call.plan userId mgr, call.Goes userId mgr x) ∧
      call.processBatchForAllBundles userId mgr = (.ERR_OK, call.after userId mgr (call.plan userId mgr))) ∨
    ∃ pre item post, call.plan userId mgr = pre ++ item :: post ∧ (∀ x ∈ pre, call.Goes userId mgr x) ∧
      ¬ call.Goes userId mgr item ∧ (call.processBatchForAllBundles userId mgr).1 ≠ .ERR_OK ∧
      (call.processBatchForAllBundles userId mgr).2.mgr =
        (call.made userId mgr pre item).foldl (call.markItem userId) mgr := by
  have hapart : ([] ++ call.plan userId mgr).Pairwise RollbackItem.Apart := plan_apart hsound hdiffer
  have hrun : call.processBatchForAllBundles userId mgr =
      BatchCall.forEach (call.attempt userId) (call.after userId mgr []) (call.plan userId mgr) := by
    refine forEach_processBundle hok hsound hrange hdiffer ExtTreeMap.nodup_keys (fun name hname => ?_)
      List.Pairwise.nil (by simp) (by simp)
    rw [ExtTreeMap.isSome_getElem?_iff_mem]
    exact ExtTreeMap.mem_keys.mp hname
  rw [hrun]
  by_cases hgo : ∀ x ∈ call.plan userId mgr, call.Goes userId mgr x
  · exact .inl ⟨hgo, forEach_attempt_goes hapart hgo⟩
  · obtain ⟨pre, item, post, hsplit, hpre, hitem⟩ := exists_first_not hgo
    obtain ⟨hfail, hmgr⟩ := forEach_attempt_fails hok hsound hapart (by simp)
      (fun x hx => wantedIn_of_plan hx) hsplit hpre hitem
    exact .inr ⟨pre, item, post, hsplit, hpre, hitem, hfail, hmgr⟩

end Plan

/-! ## What a batch leaves -/

/-- The clone under a user's key and an index key. -/
def entryAt (infos : StrMap InnerBundleInfo) (name userKey key : Str) : Option InnerBundleCloneInfo :=
  (infos[name]?.bind fun info => info.innerBundleUserInfos[userKey]?).bind fun user => user.cloneInfos[key]?

/-- The two fields that a batch writes. -/
def flagsAt (infos : StrMap InnerBundleInfo) (name userKey key : Str) : Option (Bool × Str) :=
  (entryAt infos name userKey key).map fun clone => (clone.enabled, clone.setEnabledCaller)

/-- Flag and caller of every clone are what they were, in memory and in the rows. -/
structure SameFlags (before after : BundleDataMgr) : Prop where
  memory : ∀ name userKey key, flagsAt after.bundleInfos name userKey key = flagsAt before.bundleInfos name userKey key
  storage : ∀ name userKey key, flagsAt after.dataStorage name userKey key = flagsAt before.dataStorage name userKey key

section Outcome

variable (call : BatchCall) (userId : Int)

/-- The batch means to set the clone `index` of the bundle. -/
def BatchCall.Targets (name : Str) (info : InnerBundleInfo) (index : Int) : Prop :=
  ∃ indexes, (info.getInnerBundleUserInfo userId).bind call.disableIndexes = some indexes ∧
    (index = call.enableAppIndex ∨
      index ∈ indexes ∧
        call.checkDisableForbidden name userId index ≠ .ERR_BUNDLE_MANAGER_PERMISSION_DENIED)

/-- What a successful batch says it did, in memory, with the rows following. -/
structure BatchCall.Done (before after : BundleDataMgr) : Prop where
  enabled : ∀ (name : Str) (info : InnerBundleInfo) (indexes : List Int) (clone : InnerBundleCloneInfo),
    before.bundleInfos[name]? = some info →
    (info.getInnerBundleUserInfo userId).bind call.disableIndexes = some indexes →
    info.seen userId call.enableAppIndex = some clone →
    ∃ (info' : InnerBundleInfo) (clone' : InnerBundleCloneInfo), after.bundleInfos[name]? = some info' ∧
      info'.seen userId call.enableAppIndex = some clone' ∧ clone'.enabled = true
  disabled : ∀ (name : Str) (info : InnerBundleInfo) (indexes : List Int) (index : Int) (clone : InnerBundleCloneInfo),
    before.bundleInfos[name]? = some info →
    (info.getInnerBundleUserInfo userId).bind call.disableIndexes = some indexes → index ∈ indexes →
    call.checkDisableForbidden name userId index ≠ .ERR_BUNDLE_MANAGER_PERMISSION_DENIED →
    info.seen userId index = some clone →
    ∃ (info' : InnerBundleInfo) (clone' : InnerBundleCloneInfo), after.bundleInfos[name]? = some info' ∧
      info'.seen userId index = some clone' ∧ clone'.enabled = false
  otherClones : ∀ (name userKey key : Str),
    (∀ (info : InnerBundleInfo) (index : Int), before.bundleInfos[name]? = some info →
      userKey = nameAndUserIdToKey name userId → key = toDecimal index → ¬ call.Targets userId name info index) →
    entryAt after.bundleInfos name userKey key = entryAt before.bundleInfos name userKey key
  otherUsers : ∀ (name userKey : Str), userKey ≠ nameAndUserIdToKey name userId →
    (after.bundleInfos[name]?.bind fun info => info.innerBundleUserInfos[userKey]?) =
      before.bundleInfos[name]?.bind fun info => info.innerBundleUserInfos[userKey]?
  otherBundles : ∀ name : Str, (∀ info : InnerBundleInfo, before.bundleInfos[name]? = some info →
      (info.getInnerBundleUserInfo userId).bind call.disableIndexes = none) →
    after.bundleInfos[name]? = before.bundleInfos[name]?
  rows : after.Synced

/-- Where a switch of the plan fails, every clone switched by then had the batch's caller. -/
def BatchCall.Untraced (mgr : BundleDataMgr) : Prop :=
  ∀ pre item post, call.plan userId mgr = pre ++ item :: post → (∀ x ∈ pre, call.Goes userId mgr x) →
    ¬ call.Goes userId mgr item → ∀ x ∈ pre ++ [item], call.Switches userId mgr x →
      ∀ clone, mgr.cloneAt userId x = some clone → clone.setEnabledCaller = call.caller

variable {call userId} {mgr : BundleDataMgr} {items : List RollbackItem} {item : RollbackItem} {maxCloneCount : Int}

/-- A touch seen from any clone but its own. -/
theorem entryAt_touch (hnamed : mgr.Named) (f : InnerBundleCloneInfo → InnerBundleCloneInfo) {name userKey key : Str}
    (h : ¬ (name = item.bundleName ∧ userKey = nameAndUserIdToKey name userId ∧ key = toDecimal item.appIndex)) :
    entryAt (mgr.touch userId f item).bundleInfos name userKey key = entryAt mgr.bundleInfos name userKey key := by
  unfold entryAt
  rw [touch_bundleInfos]
  by_cases hname : name = item.bundleName
  swap
  · rw [if_neg hname]
  rw [if_pos hname]
  rcases hinfo : mgr.bundleInfos[name]? with _ | info
  · rfl
  rw [Option.map_some, Option.bind_some, Option.bind_some]
  unfold InnerBundleInfo.onClone
  dsimp only
  rw [MapLoop.getElem?_modify_eq, (hnamed name info hinfo).1]
  by_cases hkey : userKey = nameAndUserIdToKey name userId
  swap
  · rw [if_neg hkey]
  rw [if_pos hkey]
  rcases info.innerBundleUserInfos[userKey]? with _ | user
  · rfl
  rw [Option.map_some, Option.bind_some, Option.bind_some]
  dsimp only
  rw [MapLoop.getElem?_modify_eq, if_neg fun e => h ⟨hname, hkey, e⟩]

theorem entryAt_foldl (hnamed : mgr.Named) {name userKey key : Str}
    (h : ∀ x ∈ items, ¬ (name = x.bundleName ∧ userKey = nameAndUserIdToKey name userId ∧ key = toDecimal x.appIndex)) :
    entryAt (items.foldl (call.switchItem userId) mgr).bundleInfos name userKey key =
      entryAt mgr.bundleInfos name userKey key := by
  induction items generalizing mgr with
  | nil => rfl
  | cons x items ih =>
    have hnamed' : (call.switchItem userId mgr x).Named := hnamed.touch userId _ x
    rw [List.foldl_cons, ih hnamed' fun y hy => h y (List.mem_cons_of_mem _ hy)]
    exact entryAt_touch hnamed _ (h x List.mem_cons_self)

theorem userAt_foldl (hnamed : mgr.Named) {name userKey : Str} (h : userKey ≠ nameAndUserIdToKey name userId) :
    ((items.foldl (call.switchItem userId) mgr).bundleInfos[name]?.bind fun info => info.innerBundleUserInfos[userKey]?) =
      mgr.bundleInfos[name]?.bind fun info => info.innerBundleUserInfos[userKey]? := by
  induction items generalizing mgr with
  | nil => rfl
  | cons x items ih =>
    have hnamed' : (call.switchItem userId mgr x).Named := hnamed.touch userId _ x
    rw [List.foldl_cons, ih hnamed']
    unfold BatchCall.switchItem
    rw [touch_bundleInfos]
    split
    swap
    · rfl
    rcases hinfo : mgr.bundleInfos[name]? with _ | info
    · rfl
    rw [Option.map_some, Option.bind_some, Option.bind_some]
    unfold InnerBundleInfo.onClone
    dsimp only
    rw [MapLoop.getElem?_modify_eq, (hnamed name info hinfo).1, if_neg h]

theorem BundleDataMgr.Synced.foldl_switchItem (hnamed : mgr.Named) (hsync : mgr.Synced) :
    (items.foldl (call.switchItem userId) mgr).Synced := by
  induction items generalizing mgr with
  | nil => exact hsync
  | cons x items ih => exact ih (hnamed.touch userId _ x) (hsync.touch userId _ hnamed x)

/-- After its switches, a clone of the run stands as the switch says. -/
theorem cloneAt_of_mem (hapart : items.Pairwise RollbackItem.Apart) (hitem : item ∈ items) :
    (items.foldl (call.switchItem userId) mgr).cloneAt userId item =
      (mgr.cloneAt userId item).map (InnerBundleCloneInfo.switch item.setEnabled call.caller) := by
  induction items generalizing mgr with
  | nil => cases hitem
  | cons x items ih =>
    obtain ⟨hx, hitems⟩ := List.pairwise_cons.mp hapart
    rw [List.foldl_cons]
    rcases List.mem_cons.mp hitem with rfl | hmem
    · rw [cloneAt_foldl_switchItem fun y hy => (hx y hy).symm]
      exact cloneAt_touch_self userId _ item
    · rw [ih hitems hmem]
      exact congrArg _ (cloneAt_touch_of_apart userId _ (hx item hmem))

theorem cloneAt_eq_entryAt (hnamed : mgr.Named) (item : RollbackItem) :
    mgr.cloneAt userId item =
      entryAt mgr.bundleInfos item.bundleName (nameAndUserIdToKey item.bundleName userId) (toDecimal item.appIndex) := by
  unfold BundleDataMgr.cloneAt entryAt InnerBundleInfo.clone?
  rcases hinfo : mgr.bundleInfos[item.bundleName]? with _ | info
  · rfl
  · rw [Option.bind_some, Option.bind_some, (hnamed _ info hinfo).1]

/-- A candidate is in the plan when it is wanted, and out of the plan's way when not. -/
theorem plan_or_apart (hsound : mgr.Sound maxCloneCount) (hdiffer : call.enableAppIndex ≠ call.disableAppIndex)
    {name : Str} {info : InnerBundleInfo} (hinfo : mgr.bundleInfos[name]? = some info)
    (hitem : item ∈ call.candidatesOf userId name info) :
    (call.wanted userId info item = true ∧ item ∈ call.plan userId mgr) ∨
      (call.wanted userId info item = false ∧ ∀ x ∈ call.plan userId mgr, x.Apart item) := by
  have hname := bundleName_of_candidate hitem
  have hwantedIn : call.wantedIn userId mgr item = call.wanted userId info item := by
    unfold BatchCall.wantedIn
    rw [hname, hinfo]
  have hplan : call.planAt userId mgr name =
      (call.candidatesOf userId name info).filter (call.wantedIn userId mgr) := by
    unfold BatchCall.planAt
    rw [hinfo]
  by_cases hwanted : call.wanted userId info item = true
  · refine .inl ⟨hwanted, List.mem_flatMap.mpr ⟨name, ?_, ?_⟩⟩
    · rw [ExtTreeMap.mem_keys, ← ExtTreeMap.isSome_getElem?_iff_mem, hinfo]
      rfl
    · rw [hplan]
      exact List.mem_filter.mpr ⟨hitem, hwantedIn.trans hwanted⟩
  · refine .inr ⟨by simpa using hwanted, fun x hx => ?_⟩
    obtain ⟨name', -, hx⟩ := List.mem_flatMap.mp hx
    by_cases hsame : name' = name
    swap
    · refine .inl ?_
      rw [bundleName_of_planAt hx, hname]
      exact hsame
    subst hsame
    have hxwanted := wantedIn_of_planAt hx
    rw [hplan] at hx
    have hsymm : Std.Symm RollbackItem.Apart := ⟨fun _ _ h => h.symm⟩
    refine (candidates_apart hsound hdiffer hinfo).forall (List.mem_of_mem_filter hx) hitem ?_
    rintro rfl
    rw [hwantedIn] at hxwanted
    exact hwanted hxwanted

/-- What the checks would see of a candidate after a batch that went through. -/
theorem seen_after (hsound : mgr.Sound maxCloneCount) (hdiffer : call.enableAppIndex ≠ call.disableAppIndex)
    (hgo : ∀ x ∈ call.plan userId mgr, call.Goes userId mgr x) {name : Str} {info : InnerBundleInfo}
    (hinfo : mgr.bundleInfos[name]? = some info) (hitem : item ∈ call.candidatesOf userId name info)
    {clone : InnerBundleCloneInfo} (hseen : info.seen userId item.appIndex = some clone) :
    ∃ info' : InnerBundleInfo,
      ((call.plan userId mgr).foldl (call.switchItem userId) mgr).bundleInfos[name]? = some info' ∧
      info'.seen userId item.appIndex = some
        (if call.wanted userId info item then clone.switch item.setEnabled call.caller else clone) := by
  have hname := bundleName_of_candidate hitem
  -- With nothing in the plan nothing has changed; with something in it, the user is a real one.
  by_cases hempty : call.plan userId mgr = []
  · rcases plan_or_apart hsound hdiffer hinfo hitem with ⟨-, hmem⟩ | ⟨hwanted, -⟩
    · rw [hempty] at hmem
      cases hmem
    · rw [hempty, hwanted]
      exact ⟨info, hinfo, hseen⟩
  obtain ⟨x, hx⟩ := List.exists_mem_of_ne_nil _ hempty
  have hnonneg := hsound.nonneg (hgo x hx).1.2
  have hclone : mgr.cloneAt userId item = some clone := by
    unfold BundleDataMgr.cloneAt
    rw [hname, hinfo]
    exact (seen_eq_clone? info hnonneg item.appIndex).symm.trans hseen
  have hafter : ((call.plan userId mgr).foldl (call.switchItem userId) mgr).cloneAt userId item = some
      (if call.wanted userId info item then clone.switch item.setEnabled call.caller else clone) := by
    rcases plan_or_apart hsound hdiffer hinfo hitem with ⟨hwanted, hmem⟩ | ⟨hwanted, hapart⟩
    · rw [cloneAt_of_mem (plan_apart hsound hdiffer) hmem, hclone, if_pos hwanted]
      rfl
    · rw [cloneAt_foldl_switchItem hapart, hclone, if_neg (by rw [hwanted]; simp)]
  unfold BundleDataMgr.cloneAt at hafter
  obtain ⟨info', hinfo', hclone'⟩ := Option.bind_eq_some_iff.mp hafter
  rw [hname] at hinfo'
  exact ⟨info', hinfo', (seen_eq_clone? info' hnonneg item.appIndex).trans hclone'⟩

/-- A candidate that is not forbidden stands as the batch wants it, switched or not. -/
theorem enabled_after (hsound : mgr.Sound maxCloneCount) (hdiffer : call.enableAppIndex ≠ call.disableAppIndex)
    (hgo : ∀ x ∈ call.plan userId mgr, call.Goes userId mgr x) {name : Str} {info : InnerBundleInfo}
    (hinfo : mgr.bundleInfos[name]? = some info) (hitem : item ∈ call.candidatesOf userId name info)
    (hcheck : call.check userId item ≠ .ERR_BUNDLE_MANAGER_PERMISSION_DENIED)
    {clone : InnerBundleCloneInfo} (hseen : info.seen userId item.appIndex = some clone) :
    ∃ (info' : InnerBundleInfo) (clone' : InnerBundleCloneInfo),
      ((call.plan userId mgr).foldl (call.switchItem userId) mgr).bundleInfos[name]? = some info' ∧
      info'.seen userId item.appIndex = some clone' ∧ clone'.enabled = item.setEnabled := by
  obtain ⟨info', hinfo', hseen'⟩ := seen_after hsound hdiffer hgo hinfo hitem hseen
  refine ⟨info', _, hinfo', hseen', ?_⟩
  split
  · rfl
  · next hwanted =>
    by_contra hflag
    refine hwanted ((wanted_iff call userId info item).mpr ⟨⟨clone, hseen, ?_⟩, hcheck⟩)
    exact Bool.eq_not_of_ne hflag

/-- The plan holds candidates of the records it finds, and wants each. -/
theorem candidate_of_plan (h : item ∈ call.plan userId mgr) : ∃ info : InnerBundleInfo,
    mgr.bundleInfos[item.bundleName]? = some info ∧ item ∈ call.candidatesOf userId item.bundleName info ∧
      call.wanted userId info item = true := by
  have hwanted := wantedIn_of_plan h
  obtain ⟨name, -, hitem⟩ := List.mem_flatMap.mp h
  obtain rfl := bundleName_of_planAt hitem
  unfold BatchCall.planAt at hitem
  split at hitem
  · cases hitem
  · next info hinfo =>
    refine ⟨info, hinfo, List.mem_of_mem_filter hitem, ?_⟩
    unfold BatchCall.wantedIn at hwanted
    rw [hinfo] at hwanted
    exact hwanted

theorem targets_of_plan (h : item ∈ call.plan userId mgr) : ∃ info : InnerBundleInfo,
    mgr.bundleInfos[item.bundleName]? = some info ∧ call.Targets userId item.bundleName info item.appIndex := by
  obtain ⟨info, hinfo, hitem, hwanted⟩ := candidate_of_plan h
  obtain ⟨indexes, hindexes, hitem⟩ := mem_candidatesOf.mp hitem
  refine ⟨info, hinfo, indexes, hindexes, ?_⟩
  rcases hitem with e | ⟨index, hindex, e⟩
  · exact .inl (congrArg RollbackItem.appIndex e)
  · have happ : item.appIndex = index := congrArg RollbackItem.appIndex e
    have hset : item.setEnabled = false := congrArg RollbackItem.setEnabled e
    have hcheck := ((wanted_iff call userId info item).mp hwanted).2
    unfold BatchCall.check at hcheck
    rw [hset] at hcheck
    exact .inr ⟨happ ▸ hindex, hcheck⟩

theorem done_after (hsync : mgr.Synced) (hsound : mgr.Sound maxCloneCount)
    (hdiffer : call.enableAppIndex ≠ call.disableAppIndex)
    (hgo : ∀ x ∈ call.plan userId mgr, call.Goes userId mgr x) :
    call.Done userId mgr ((call.plan userId mgr).foldl (call.switchItem userId) mgr) := by
  constructor
  · intro name info indexes clone hinfo hindexes hseen
    have hitem : ⟨name, call.enableAppIndex, true⟩ ∈ call.candidatesOf userId name info :=
      mem_candidatesOf.mpr ⟨indexes, hindexes, .inl rfl⟩
    -- Enabling is never forbidden.
    have hcheck : call.check userId ⟨name, call.enableAppIndex, true⟩ ≠ .ERR_BUNDLE_MANAGER_PERMISSION_DENIED := by
      simp [BatchCall.check]
    obtain ⟨info', clone', hinfo', hclone', hset⟩ := enabled_after hsound hdiffer hgo hinfo hitem hcheck hseen
    exact ⟨info', clone', hinfo', hclone', hset⟩
  · intro name info indexes index clone hinfo hindexes hindex hcheck hseen
    have hitem : ⟨name, index, false⟩ ∈ call.candidatesOf userId name info :=
      mem_candidatesOf.mpr ⟨indexes, hindexes, .inr ⟨index, hindex, rfl⟩⟩
    obtain ⟨info', clone', hinfo', hclone', hset⟩ := enabled_after hsound hdiffer hgo hinfo hitem hcheck hseen
    exact ⟨info', clone', hinfo', hclone', hset⟩
  · intro name userKey key hother
    refine entryAt_foldl hsound.named fun x hx hclash => ?_
    obtain ⟨rfl, huser, hkey⟩ := hclash
    obtain ⟨info, hinfo, htargets⟩ := targets_of_plan hx
    exact hother info x.appIndex hinfo huser hkey htargets
  · intro name userKey hkey
    exact userAt_foldl hsound.named hkey
  · intro name hnone
    refine foldl_switchItem_of_ne fun x hx e => ?_
    subst e
    obtain ⟨info, hinfo, indexes, hindexes, -⟩ := targets_of_plan hx
    rw [hnone info hinfo] at hindexes
    cases hindexes
  · exact hsync.foldl_switchItem hsound.named

theorem mem_made {pre : List RollbackItem} {x : RollbackItem} :
    x ∈ call.made userId mgr pre item ↔ x ∈ pre ∨ x = item ∧ call.Switches userId mgr item := by
  unfold BatchCall.made
  split
  · next h => simp [BatchCall.Switches, h]
  · next h =>
    have hnot : ¬ call.Switches userId mgr item := h
    simp [hnot]

/-- A run that stops leaves the flags as they were just when no clone has a new caller. -/
theorem sameFlags_made_iff (hsync : mgr.Synced) (hsound : mgr.Sound maxCloneCount)
    {pre : List RollbackItem} (hpre : ∀ x ∈ pre, call.Goes userId mgr x)
    (hapart : (pre ++ [item]).Pairwise RollbackItem.Apart) :
    SameFlags mgr ((call.made userId mgr pre item).foldl (call.markItem userId) mgr) ↔
      ∀ x ∈ pre ++ [item], call.Switches userId mgr x →
        ∀ clone, mgr.cloneAt userId x = some clone → clone.setEnabledCaller = call.caller := by
  have hmade : (call.made userId mgr pre item).Pairwise RollbackItem.Apart := by
    unfold BatchCall.made
    split
    · exact hapart
    · exact (List.pairwise_append.mp hapart).1
  constructor
  · intro hsame x hx hswitch clone hclone
    have hx' : x ∈ call.made userId mgr pre item := by
      rw [mem_made]
      rcases List.mem_append.mp hx with hx | hx
      · exact .inl hx
      · obtain rfl := List.mem_singleton.mp hx
        exact .inr ⟨rfl, hswitch⟩
    have hnamed : ((call.made userId mgr pre item).foldl (call.markItem userId) mgr).Named :=
      hsound.named.foldl_markItem
    have hmark : ((call.made userId mgr pre item).foldl (call.markItem userId) mgr).cloneAt userId x =
        (mgr.cloneAt userId x).map (InnerBundleCloneInfo.mark call.caller) := foldl_markItem_caller hmade hx'
    have hflags := hsame.memory x.bundleName (nameAndUserIdToKey x.bundleName userId) (toDecimal x.appIndex)
    unfold flagsAt at hflags
    rw [← cloneAt_eq_entryAt hnamed, ← cloneAt_eq_entryAt hsound.named, hmark, hclone] at hflags
    have hpair := Option.some.inj hflags
    exact (congrArg Prod.snd hpair).symm
  · intro hcallers
    have hsame : (call.made userId mgr pre item).foldl (call.markItem userId) mgr = mgr := by
      refine foldl_markItem_eq hsync fun x hx => ?_
      rcases mem_made.mp hx with hx | ⟨rfl, hswitch⟩
      · exact hcallers x (List.mem_append_left _ hx) (hpre x hx).1
      · exact hcallers x (List.mem_append_right _ List.mem_cons_self) hswitch
    rw [hsame]
    exact ⟨fun _ _ _ => rfl, fun _ _ _ => rfl⟩

end Outcome

theorem differ_of_validate {call : BatchCall} (h : call.validateBatchSetAppIndex = .ERR_OK) :
    call.enableAppIndex ≠ call.disableAppIndex := by
  intro e
  unfold BatchCall.validateBatchSetAppIndex at h
  rw [if_pos e] at h
  simp at h

/-- **Batches are atomic but for the caller**: with the records in step with their rows, a batch
that fails leaves every flag and caller as they were and one that succeeds has done its work,
just when each clone switched by the time a switch fails had the batch's caller before.  Clone
indexes are taken to stop before the sandbox indexes start. -/
theorem batch_atomic_iff (env : Env) (mgr : BundleDataMgr) (call : BatchCall) (hsync : mgr.Synced)
    (hsound : mgr.Sound call.maxCloneCount) (hrange : call.maxCloneCount ≤ INITIAL_SANDBOX_APP_INDEX)
    (hvalid : call.validateBatchSetAppIndex = .ERR_OK) (hok : ∀ name index, call.rollbackSaveOk name index = true) :
    (((mgr.batchSetApplicationEnabled env call).1 ≠ .ERR_OK →
        SameFlags mgr (mgr.batchSetApplicationEnabled env call).2) ∧
      ((mgr.batchSetApplicationEnabled env call).1 = .ERR_OK →
        call.Done (env.getUserId call.userId) mgr (mgr.batchSetApplicationEnabled env call).2)) ↔
      call.Untraced (env.getUserId call.userId) mgr := by
  have hdiffer := differ_of_validate hvalid
  unfold BundleDataMgr.batchSetApplicationEnabled
  rw [if_neg (not_not_intro hvalid)]
  generalize env.getUserId call.userId = userId
  split
  · next hinvalid =>
    -- No user: nothing is done, and no clone belongs to such a user.
    have hnone : call.Untraced userId mgr := by
      intro pre item post _ _ _ x _ hswitch
      have := hsound.nonneg hswitch.2
      unfold INVALID_USERID at hinvalid
      omega
    refine ⟨fun _ => hnone, fun _ => ⟨fun _ => ⟨fun _ _ _ => rfl, fun _ _ _ => rfl⟩, ?_⟩⟩
    intro h
    simp at h
  dsimp only
  rcases processBatchForAllBundles_spec hok hsound hrange hdiffer with
    ⟨hgo, hrun⟩ | ⟨pre, item, post, hsplit, hpre, hitem, hfail, hmgr⟩
  · rw [hrun]
    refine ⟨fun _ pre item post hsplit _ hitem => ?_, fun _ => ⟨fun h => absurd rfl h, fun _ => ?_⟩⟩
    · exact absurd (hgo item (by rw [hsplit]; simp)) hitem
    · exact done_after hsync hsound hdiffer hgo
  · have hapart : (pre ++ [item]).Pairwise RollbackItem.Apart := by
      have hplan : (call.plan userId mgr).Pairwise RollbackItem.Apart := plan_apart hsound hdiffer
      rw [hsplit, List.append_cons] at hplan
      exact (List.pairwise_append.mp hplan).1
    have hiff := sameFlags_made_iff hsync hsound hpre hapart
    rw [hmgr]
    constructor
    · intro h pre' item' post' hsplit' hpre' hitem'
      obtain ⟨rfl, rfl⟩ := first_not_unique (hsplit.symm.trans hsplit') hpre hitem hpre' hitem'
      exact hiff.mp (h.1 hfail)
    · intro huntraced
      exact ⟨fun _ => hiff.mpr (huntraced pre item post hsplit hpre hitem), fun h => absurd h hfail⟩

/-- Clone 1 of the demo bundle is to be disabled, and its save fails. -/
def demoBatch (caller : Str) : BatchCall where
  userId := 100
  enableAppIndex := 2
  disableAppIndex := 1
  caller := caller
  skipDisableForbidden := true
  maxCloneCount := 5
  forbiddenMgr := none
  saveOk := fun _ _ => false
  rollbackSaveOk := fun _ _ => true

theorem demoInfo_user {userKey : Str} {user : InnerBundleUserInfo}
    (h : demoInfo.innerBundleUserInfos[userKey]? = some user) :
    userKey = "a.b_100".toList ∧
      user.cloneInfos = (∅ : StrMap InnerBundleCloneInfo).insert "1".toList { appIndex := 1 } := by
  unfold demoInfo at h
  dsimp only at h
  rw [MapLoop.getElem?_insert_eq] at h
  split at h
  · next e =>
    cases h
    exact ⟨e, rfl⟩
  · simp at h

theorem demoInfo_clone {userKey key : Str} {user : InnerBundleUserInfo} {clone : InnerBundleCloneInfo}
    (h : demoInfo.innerBundleUserInfos[userKey]? = some user) (hclone : user.cloneInfos[key]? = some clone) :
    key = "1".toList ∧ clone = { appIndex := 1 } := by
  rw [(demoInfo_user h).2, MapLoop.getElem?_insert_eq] at hclone
  split at hclone
  · next e =>
    cases hclone
    exact ⟨e, rfl⟩
  · simp at hclone

theorem demoMgr_sound : demoMgr.Sound 5 := by
  constructor
  · intro name info h
    obtain ⟨rfl, rfl⟩ := demoMgr_get h
    exact ⟨rfl, by decide⟩
  · intro name info userKey user key h hindex
    obtain ⟨-, rfl⟩ := demoMgr_get h
    exact absurd rfl hindex
  · intro name info userId h hneg
    obtain ⟨-, rfl⟩ := demoMgr_get h
    by_contra hsome
    obtain ⟨user, huser⟩ := Option.ne_none_iff_exists'.mp hsome
    have hkey : nameAndUserIdToKey demoInfo.bundleName userId = nameAndUserIdToKey demoInfo.bundleName 100 :=
      (demoInfo_user huser).1
    have := nameAndUserIdToKey_injective demoInfo.bundleName hkey
    omega
  · intro name info userKey user key clone h huser hclone
    obtain ⟨-, rfl⟩ := demoMgr_get h
    obtain ⟨rfl, rfl⟩ := demoInfo_clone huser hclone
    exact ⟨rfl, by decide, by decide⟩

/-- The save fails, but the clone had been set by the same caller: all is as before. -/
theorem batch_atomic_same_caller :
    (demoMgr.batchSetApplicationEnabled demoEnv (demoBatch [])).1 ≠ .ERR_OK ∧
      SameFlags demoMgr (demoMgr.batchSetApplicationEnabled demoEnv (demoBatch [])).2 := by
  have huntraced : (demoBatch []).Untraced (demoEnv.getUserId (demoBatch []).userId) demoMgr := by
    intro pre item post _ _ _ x _ _ clone hclone
    obtain ⟨info, hinfo, hclone⟩ := Option.bind_eq_some_iff.mp hclone
    obtain ⟨-, rfl⟩ := demoMgr_get hinfo
    obtain ⟨user, huser, hclone⟩ := Option.bind_eq_some_iff.mp hclone
    obtain ⟨-, rfl⟩ := demoInfo_clone huser hclone
    rfl
  have hfail : (demoMgr.batchSetApplicationEnabled demoEnv (demoBatch [])).1 ≠ .ERR_OK := by decide +kernel
  exact ⟨hfail, ((batch_atomic_iff demoEnv demoMgr (demoBatch []) demoMgr_synced demoMgr_sound (by decide) (by decide)
    fun _ _ => rfl).mpr huntraced).1 hfail⟩

/-- Another caller's batch fails: the clone is enabled again, in that caller's name. -/
theorem batch_leaves_its_caller :
    demoMgr.Synced ∧ demoMgr.Sound (demoBatch "c".toList).maxCloneCount ∧
      (demoBatch "c".toList).validateBatchSetAppIndex = .ERR_OK ∧
      (∀ name index, (demoBatch "c".toList).rollbackSaveOk name index = true) ∧
      (demoMgr.batchSetApplicationEnabled demoEnv (demoBatch "c".toList)).1 ≠ .ERR_OK ∧
      ¬ SameFlags demoMgr (demoMgr.batchSetApplicationEnabled demoEnv (demoBatch "c".toList)).2 := by
  refine ⟨demoMgr_synced, demoMgr_sound, by decide, fun _ _ => rfl, by decide +kernel, fun hsame => ?_⟩
  have hflags := hsame.memory demoName "a.b_100".toList "1".toList
  have hafter : flagsAt (demoMgr.batchSetApplicationEnabled demoEnv (demoBatch "c".toList)).2.bundleInfos demoName
      "a.b_100".toList "1".toList = some (true, "c".toList) := by decide +kernel
  have hbefore : flagsAt demoMgr.bundleInfos demoName "a.b_100".toList "1".toList = some (true, []) := by
    decide +kernel
  rw [hafter, hbefore] at hflags
  simp at hflags

end BundleFramework.BundleState
