import BundleFramework.DataMgr.BundleId

/-!
# The install state machine

`UpdateBundleInstallState` moves a name through the transition table of
`InitStateTransferMap`; a delete state ends with the name's entry gone and
`DeleteBundleInfo` called on the original name.  `AddInnerBundleInfo` adds a record to
`bundleInfos_` or `tempBundleInfos_` under an existing entry.

`installStates_`, the stored rows and `bundleIdMap_` go by the effective name (prefixed for
a clone), the two record maps by the original name, and `DeleteBundleInfo` looks in
`bundleInfos_` only.

Overlay bundles make both functions rewrite parts of other visible records (overlay
connections, overlay states of users); these parts are in `body`, and what is written there
is left to `Overlay`.  `BodyRewrite` is the frame condition of all of it.
`updateBundleInstallState_cases`, `deleteBundleInfo_cases` and `addInnerBundleInfo_cases` say
everything one call can do.
-/

namespace BundleFramework

open Std

variable {β : Type}

/-! ## State -/

inductive InstallState where
  | INSTALL_START
  | INSTALL_SUCCESS
  | INSTALL_FAIL
  | UNINSTALL_START
  | UNINSTALL_SUCCESS
  | UNINSTALL_FAIL
  | UPDATING_START
  | UPDATING_SUCCESS
  | UPDATING_FAIL
  | ROLL_BACK
  | USER_CHANGE
  deriving DecidableEq

open InstallState

/-- `transferStates_`: the new state and the state it can follow. -/
def transferStates : List (InstallState × InstallState) :=
  [(INSTALL_SUCCESS, INSTALL_START), (INSTALL_FAIL, INSTALL_START), (UNINSTALL_START, INSTALL_SUCCESS),
    (UNINSTALL_START, INSTALL_START), (UNINSTALL_START, UPDATING_SUCCESS), (UNINSTALL_FAIL, UNINSTALL_START),
    (UNINSTALL_START, UNINSTALL_START), (UNINSTALL_SUCCESS, UNINSTALL_START), (UPDATING_START, INSTALL_SUCCESS),
    (UPDATING_SUCCESS, UPDATING_START), (UPDATING_FAIL, UPDATING_START), (UPDATING_FAIL, INSTALL_START),
    (UPDATING_START, INSTALL_START), (INSTALL_SUCCESS, UPDATING_START), (INSTALL_SUCCESS, UPDATING_SUCCESS),
    (INSTALL_SUCCESS, UNINSTALL_START), (UPDATING_START, UPDATING_SUCCESS), (ROLL_BACK, UPDATING_START),
    (ROLL_BACK, UPDATING_SUCCESS), (UPDATING_FAIL, UPDATING_SUCCESS), (INSTALL_SUCCESS, ROLL_BACK),
    (UNINSTALL_START, USER_CHANGE), (UPDATING_START, USER_CHANGE), (INSTALL_SUCCESS, USER_CHANGE),
    (UPDATING_SUCCESS, USER_CHANGE), (USER_CHANGE, INSTALL_SUCCESS), (USER_CHANGE, UPDATING_SUCCESS),
    (USER_CHANGE, UPDATING_START)]

def isDeleteDataState (state : InstallState) : Bool :=
  state = INSTALL_FAIL || state = UNINSTALL_FAIL || state = UNINSTALL_SUCCESS || state = UPDATING_FAIL

structure FirstInstallBundleInfo where
  odidResetCount : Int
  lastOdid : Str
  deriving DecidableEq

/-- The part of `BundleDataMgr` that installing and uninstalling works on, with the
tables behind it. -/
structure DataMgr (β : Type) where
  maps : BundleMaps β
  installStates : StrMap InstallState
  /-- Rows of the bundle database, by storage key. -/
  storage : StrMap (InnerBundleInfo β)
  ids : BundleIds
  appServiceHspBundleName : StrSet
  /-- First-install rows of `ALL_USERID`. -/
  firstInstall : StrMap FirstInstallBundleInfo
  uninstalled : UninstallTable

/-- What the overlay functions and `AddAppDetailAbilityInfo` write into records. -/
structure Overlay (β : Type) where
  /-- Reads the system resource bundle off `bundleInfos_`. -/
  addAppDetailAbilityInfo : StrMap (InnerBundleInfo β) → InnerBundleInfo β → β
  /-- New bodies of the overlay bundle and of its target. -/
  updateExternalOverlayInfo : InnerBundleInfo β → InnerBundleInfo β → β × β
  setInternalOverlayState : InnerBundleInfo β → β
  /-- One round of `BuildExternalOverlayConnection`: `none` when a check fails, else the
  new bodies of the target and of the overlay bundle, and whether the latter is saved. -/
  connectExternal : InnerBundleInfo β → InnerBundleInfo β → Option (β × β × Bool)
  removeOverlayBundleInfo : Str → InnerBundleInfo β → β
  invalidateOverlayModules : InnerBundleInfo β → β

/-- What a call meets outside: a fresh uuid, which database writes succeed, the overlays. -/
structure CallEnv (β : Type) where
  uuid : Str
  insertOk : Str → Bool
  deleteOk : Str → Bool
  overlay : Overlay β

/-! ## Algorithm -/

def DataMgr.withVisible (st : DataMgr β) (bundleInfos : StrMap (InnerBundleInfo β)) : DataMgr β :=
  { st with maps := { st.maps with bundleInfos := bundleInfos } }

def DataMgr.withStorage (st : DataMgr β) (storage : StrMap (InnerBundleInfo β)) : DataMgr β :=
  { st with storage := storage }

def saveStorageBundleInfo (env : CallEnv β) (st : DataMgr β) (info : InnerBundleInfo β) : Bool × DataMgr β :=
  let storageKey := info.getEffectiveBundleName
  if env.insertOk storageKey then (true, st.withStorage (st.storage.insert storageKey info)) else (false, st)

def deleteStorageBundleInfo (env : CallEnv β) (st : DataMgr β) (info : InnerBundleInfo β) : DataMgr β :=
  let storageKey := info.getEffectiveBundleName
  if env.deleteOk storageKey then st.withStorage (st.storage.erase storageKey) else st

/-- A visible record gets a new body. -/
def setBody (st : DataMgr β) (key : Str) (info : InnerBundleInfo β) (body : β) : DataMgr β :=
  st.withVisible (st.maps.bundleInfos.insert key { info with body := body })

/-- The loop of `RemoveOverlayInfoAndConnection`, at an entry of `bundleInfos_`. -/
def invalidateStep (env : CallEnv β) (bundleName : Str) (st : DataMgr β) (it : Str × InnerBundleInfo β) :
    DataMgr β :=
  if it.2.targetBundleName ≠ bundleName then st
  else
    let body := env.overlay.invalidateOverlayModules it.2
    (saveStorageBundleInfo env (setBody st it.1 it.2 body) { it.2 with body := body }).2

def removeOverlayInfoAndConnection (env : CallEnv β) (st : DataMgr β) (info : InnerBundleInfo β)
    (bundleName : Str) : DataMgr β :=
  match info.overlayType with
  | .OVERLAY_EXTERNAL_BUNDLE =>
    match st.maps.bundleInfos[info.targetBundleName]? with
    | none => st
    | some target =>
      let body := env.overlay.removeOverlayBundleInfo bundleName target
      let saved := saveStorageBundleInfo env st { target with body := body }
      if saved.1 then setBody saved.2 info.targetBundleName target body else st
  | .NON_OVERLAY_TYPE => st.maps.bundleInfos.toList.foldl (invalidateStep env bundleName) st
  | .OVERLAY_INTERNAL_BUNDLE => st

def deleteBundleInfo (env : CallEnv β) (st : DataMgr β) (bundleName : Str) (state : InstallState)
    (isKeepData : Bool) : DataMgr β :=
  if state = INSTALL_FAIL then st
  else match st.maps.bundleInfos[bundleName]? with
    | none => st
    | some info =>
      let unlinked := removeOverlayInfoAndConnection env st info bundleName
      let recycled :=
        if isKeepData then unlinked
        else { unlinked with ids := recycleUidAndGid unlinked.uninstalled unlinked.ids info }
      let dropped := deleteStorageBundleInfo env recycled info
      let erased := dropped.withVisible (dropped.maps.bundleInfos.erase bundleName)
      { erased with appServiceHspBundleName := erased.appServiceHspBundleName.erase bundleName }

def canTransfer (state current : InstallState) : Bool := transferStates.contains (state, current)

/-- The name without the clone prefix; kept as it is when the prefix does not parse. -/
def originalName (ex : StringEx) (bundleName : Str) : Str :=
  if isDualModeCloneKey bundleName then (parseDualModeBundleName ex bundleName).getD bundleName else bundleName

def updateBundleInstallState (ex : StringEx) (env : CallEnv β) (st : DataMgr β) (bundleName : Str)
    (state : InstallState) (isKeepData : Bool) : Bool × DataMgr β :=
  if bundleName.isEmpty then (false, st)
  else match st.installStates[bundleName]? with
    | none =>
      if state = INSTALL_START then
        (true, { st with installStates := st.installStates.insert bundleName state })
      else (false, st)
    | some current =>
      if canTransfer state current then
        if isDeleteDataState state then
          let erased := { st with installStates := st.installStates.erase bundleName }
          (true, deleteBundleInfo env erased (originalName ex bundleName) state isKeepData)
        else (true, { st with installStates := st.installStates.insert bundleName state })
      else (false, st)

/-- `BundleUtil::ExtractGroupIdByDevelopId`. -/
def extractGroupIdByDevelopId (developerId : Str) : Str :=
  match strFindChar developerId '.' with
  | none => developerId
  | some 0 => developerId.drop 1
  | some dotPosition => developerId.take dotPosition

/-- First non-empty odid of a record of the group, in key order. -/
def findExistingOdid (groupId : Str) (infos : StrMap (InnerBundleInfo β)) : Str :=
  match infos.toList.find? fun item =>
      groupId = extractGroupIdByDevelopId item.2.developerId && !item.2.odid.isEmpty with
  | some item => item.2.odid
  | none => []

def generateOdidNoLock (env : CallEnv β) (st : DataMgr β) (developerId : Str) : Str :=
  if developerId.isEmpty then []
  else
    let groupId := extractGroupIdByDevelopId developerId
    let visible := findExistingOdid groupId st.maps.bundleInfos
    let reused := if visible.isEmpty then findExistingOdid groupId st.maps.tempBundleInfos else visible
    if reused.isEmpty then env.uuid else reused

def MAX_RESET_COUNT : Int := 99999

def FirstInstallBundleInfo.incrementOdidResetCount (info : FirstInstallBundleInfo) : FirstInstallBundleInfo :=
  if info.odidResetCount ≥ MAX_RESET_COUNT || info.odidResetCount < 0 then
    { info with odidResetCount := MAX_RESET_COUNT }
  else { info with odidResetCount := info.odidResetCount + 1 }

/-- The odid part of `AddInnerBundleInfo`: the record's odid, and the reset count of the
bundle when it differs from the last one. -/
def updateOdid (env : CallEnv β) (st : DataMgr β) (bundleName : Str) (info : InnerBundleInfo β) :
    DataMgr β × InnerBundleInfo β :=
  if info.developerId.isEmpty then (st, info)
  else
    let lastOdidInfo := st.firstInstall[bundleName]?.getD ⟨0, []⟩
    let odid := generateOdidNoLock env st info.developerId
    let st' :=
      if !lastOdidInfo.lastOdid.isEmpty && !odid.isEmpty && odid ≠ lastOdidInfo.lastOdid &&
          env.insertOk bundleName then
        { st with firstInstall := st.firstInstall.insert bundleName lastOdidInfo.incrementOdidResetCount }
      else st
    (st', { info with odid := odid })

/-- The loop of `BuildExternalOverlayConnection`: stops at the first failed check. -/
def connectLoop (env : CallEnv β) (bundleName : Str) :
    List (Str × InnerBundleInfo β) → DataMgr β × InnerBundleInfo β → DataMgr β × InnerBundleInfo β
  | [], s => s
  | it :: rest, s =>
    if it.2.targetBundleName ≠ bundleName then connectLoop env bundleName rest s
    else match env.overlay.connectExternal s.2 it.2 with
      | none => s
      | some (targetBody, overlayBody, save) =>
        let rewritten := setBody s.1 it.1 it.2 overlayBody
        let saved :=
          if save then (saveStorageBundleInfo env rewritten { it.2 with body := overlayBody }).2 else rewritten
        connectLoop env bundleName rest (saved, { s.2 with body := targetBody })

/-- The overlay part of `AddInnerBundleInfo`. -/
def linkOverlay (env : CallEnv β) (st : DataMgr β) (info : InnerBundleInfo β) : DataMgr β × InnerBundleInfo β :=
  match info.overlayType with
  | .OVERLAY_EXTERNAL_BUNDLE =>
    match st.maps.bundleInfos[info.targetBundleName]? with
    | none => (st, info)
    | some target =>
      let bodies := env.overlay.updateExternalOverlayInfo info target
      ((saveStorageBundleInfo env (setBody st info.targetBundleName target bodies.2)
        { target with body := bodies.2 }).2, { info with body := bodies.1 })
  | .OVERLAY_INTERNAL_BUNDLE => (st, { info with body := env.overlay.setInternalOverlayState info })
  | .NON_OVERLAY_TYPE => connectLoop env info.bundleName st.maps.bundleInfos.toList (st, info)

def DataMgr.targetMap (st : DataMgr β) (toTempBundle : Bool) : StrMap (InnerBundleInfo β) :=
  if toTempBundle then st.maps.tempBundleInfos else st.maps.bundleInfos

def DataMgr.emplace (st : DataMgr β) (toTempBundle : Bool) (bundleName : Str) (info : InnerBundleInfo β) :
    DataMgr β :=
  let maps :=
    if toTempBundle then { st.maps with tempBundleInfos := st.maps.tempBundleInfos.insert bundleName info }
    else { st.maps with bundleInfos := st.maps.bundleInfos.insert bundleName info }
  { st with maps := maps }

def addAppHspBundleName (st : DataMgr β) (type : BundleType) (bundleName : Str) : DataMgr β :=
  if type = .APP_SERVICE_FWK then
    { st with appServiceHspBundleName := st.appServiceHspBundleName.insert bundleName }
  else st

def addInnerBundleInfo (env : CallEnv β) (st : DataMgr β) (bundleName : Str) (info : InnerBundleInfo β)
    (checkStatus toTempBundle : Bool) : Bool × DataMgr β :=
  if bundleName.isEmpty then (false, st)
  else if (st.targetMap toTempBundle)[bundleName]?.isSome then (false, st)
  else match st.installStates[effectiveName info.isDualModeCloneApp bundleName]? with
    | none => (false, st)
    | some status =>
      let withOdid := updateOdid env st bundleName info
      if !checkStatus || status = INSTALL_START then
        let detailed :=
          if withOdid.2.needAppDetail then
            { withOdid.2 with body := env.overlay.addAppDetailAbilityInfo withOdid.1.maps.bundleInfos withOdid.2 }
          else withOdid.2
        let linked := linkOverlay env withOdid.1 detailed
        let added := linked.1.emplace toTempBundle bundleName linked.2
        (true, addAppHspBundleName added linked.2.applicationBundleType bundleName)
      else (false, withOdid.1)

/-! ## Frame of the overlay functions -/

/-- A record without its body. -/
def InnerBundleInfo.head (r : InnerBundleInfo β) : InnerBundleInfo Unit where
  bundleName := r.bundleName
  deviceModeDistributionPolicy := r.deviceModeDistributionPolicy
  isDualModeCloneApp := r.isDualModeCloneApp
  developerId := r.developerId
  odid := r.odid
  needAppDetail := r.needAppDetail
  overlayType := r.overlayType
  targetBundleName := r.targetBundleName
  applicationBundleType := r.applicationBundleType
  innerBundleUserInfos := r.innerBundleUserInfos
  body := ()

theorem isDualModeCloneApp_of_head {r r' : InnerBundleInfo β} (h : r.head = r'.head) :
    r.isDualModeCloneApp = r'.isDualModeCloneApp := by
  show r.head.isDualModeCloneApp = r'.head.isDualModeCloneApp
  rw [h]

/-- `st'` is `st` with other bodies in visible records, and possibly their rows saved. -/
structure BodyRewrite (st st' : DataMgr β) : Prop where
  temp : st'.maps.tempBundleInfos = st.maps.tempBundleInfos
  states : st'.installStates = st.installStates
  ids : st'.ids = st.ids
  uninstalled : st'.uninstalled = st.uninstalled
  heads : ∀ key : Str, (st'.maps.bundleInfos[key]?).map InnerBundleInfo.head =
    (st.maps.bundleInfos[key]?).map InnerBundleInfo.head
  rows : ∀ key : Str, (∀ (k : Str) r, st.maps.bundleInfos[k]? = some r → r.getEffectiveBundleName ≠ key) →
    st'.storage[key]? = st.storage[key]?

theorem BodyRewrite.refl (st : DataMgr β) : BodyRewrite st st :=
  ⟨rfl, rfl, rfl, rfl, fun _ => rfl, fun _ _ => rfl⟩

/-- A rewrite after a step that changes neither map. -/
theorem BodyRewrite.trans {st mid st' : DataMgr β} (h : BodyRewrite st mid) (hmaps : mid.maps = st.maps)
    (h' : BodyRewrite mid st') : BodyRewrite st st' where
  temp := h'.temp.trans h.temp
  states := h'.states.trans h.states
  ids := h'.ids.trans h.ids
  uninstalled := h'.uninstalled.trans h.uninstalled
  heads key := (h'.heads key).trans (h.heads key)
  rows key hkey := (h'.rows key (by rw [hmaps]; exact hkey)).trans (h.rows key hkey)

theorem BodyRewrite.setBody {st s : DataMgr β} (h : BodyRewrite st s) {key : Str} {r : InnerBundleInfo β}
    (hr : st.maps.bundleInfos[key]? = some r) (body : β) :
    BodyRewrite st (BundleFramework.setBody s key r body) where
  temp := h.temp
  states := h.states
  ids := h.ids
  uninstalled := h.uninstalled
  heads k := by
    show ((s.maps.bundleInfos.insert key _)[k]?).map _ = _
    rw [MapLoop.getElem?_insert_eq]
    split
    · next e =>
      rw [e, hr]
      rfl
    · exact h.heads k
  rows := h.rows

theorem BodyRewrite.save {st s : DataMgr β} (h : BodyRewrite st s) (env : CallEnv β) {key : Str}
    {r : InnerBundleInfo β} (hr : st.maps.bundleInfos[key]? = some r) (body : β) :
    BodyRewrite st (saveStorageBundleInfo env s { r with body := body }).2 := by
  unfold saveStorageBundleInfo
  dsimp only
  split
  · refine ⟨h.temp, h.states, h.ids, h.uninstalled, h.heads, fun k hk => ?_⟩
    show (s.storage.insert _ _)[k]? = _
    rw [MapLoop.getElem?_insert_eq, if_neg]
    · exact h.rows k hk
    · exact fun e => hk key r hr e.symm
  · exact h

theorem removeOverlay_bodyRewrite (env : CallEnv β) (st : DataMgr β) (info : InnerBundleInfo β)
    (bundleName : Str) : BodyRewrite st (removeOverlayInfoAndConnection env st info bundleName) := by
  unfold removeOverlayInfoAndConnection
  split
  · rcases ht : st.maps.bundleInfos[info.targetBundleName]? with _ | target
    · exact .refl st
    · dsimp only
      split
      · exact ((BodyRewrite.refl st).save env ht _).setBody ht _
      · exact .refl st
  · -- one rewrite and one save for each bundle that targets the deleted one
    have loop : ∀ (l : List (Str × InnerBundleInfo β)) (s : DataMgr β), BodyRewrite st s →
        (∀ it ∈ l, st.maps.bundleInfos[it.1]? = some it.2) →
        BodyRewrite st (l.foldl (invalidateStep env bundleName) s) := by
      intro l
      induction l with
      | nil => exact fun s hs _ => hs
      | cons it l ih =>
        intro s hs hl
        have hit := hl it List.mem_cons_self
        refine ih _ ?_ fun x hx => hl x (List.mem_cons_of_mem _ hx)
        unfold invalidateStep
        split
        · exact hs
        · exact (hs.setBody hit _).save env hit _
    exact loop _ st (.refl st) fun it hit => ExtTreeMap.mem_toList_iff_getElem?_eq_some.mp hit
  · exact .refl st

theorem connectLoop_bodyRewrite (env : CallEnv β) (bundleName : Str) (st : DataMgr β)
    (l : List (Str × InnerBundleInfo β)) (s : DataMgr β) (info : InnerBundleInfo β) (hs : BodyRewrite st s)
    (hl : ∀ it ∈ l, st.maps.bundleInfos[it.1]? = some it.2) :
    BodyRewrite st (connectLoop env bundleName l (s, info)).1 ∧
      (connectLoop env bundleName l (s, info)).2.head = info.head := by
  induction l generalizing s info with
  | nil => exact ⟨hs, rfl⟩
  | cons it l ih =>
    have hit := hl it List.mem_cons_self
    have hl' := fun x hx => hl x (List.mem_cons_of_mem it hx)
    unfold connectLoop
    dsimp only
    split
    · exact ih s info hs hl'
    · split
      · exact ⟨hs, rfl⟩
      · next targetBody overlayBody save _ =>
        refine ih _ { info with body := targetBody } ?_ hl'
        split
        · exact (hs.setBody hit _).save env hit _
        · exact hs.setBody hit _

theorem linkOverlay_bodyRewrite (env : CallEnv β) (st : DataMgr β) (info : InnerBundleInfo β) :
    BodyRewrite st (linkOverlay env st info).1 ∧ (linkOverlay env st info).2.head = info.head := by
  unfold linkOverlay
  split
  · rcases ht : st.maps.bundleInfos[info.targetBundleName]? with _ | target
    · exact ⟨.refl st, rfl⟩
    · exact ⟨((BodyRewrite.refl st).setBody ht _).save env ht _, rfl⟩
  · exact ⟨.refl st, rfl⟩
  · exact connectLoop_bodyRewrite env info.bundleName st _ st info (.refl st)
      fun it hit => ExtTreeMap.mem_toList_iff_getElem?_eq_some.mp hit

/-! ## What one call can do -/

/-- `st'` is `st` without the visible record `info` of `bundleName`. -/
structure Deleted (st st' : DataMgr β) (bundleName : Str) (info : InnerBundleInfo β) (isKeepData : Bool) :
    Prop where
  visible : ∀ key : Str, (st'.maps.bundleInfos[key]?).map InnerBundleInfo.head =
    if key = bundleName then none else (st.maps.bundleInfos[key]?).map InnerBundleInfo.head
  temp : st'.maps.tempBundleInfos = st.maps.tempBundleInfos
  states : st'.installStates = st.installStates
  ids : st'.ids = if isKeepData then st.ids else recycleUidAndGid st.uninstalled st.ids info
  uninstalled : st'.uninstalled = st.uninstalled
  rows : ∀ key : Str, (∀ (k : Str) r, st.maps.bundleInfos[k]? = some r → r.getEffectiveBundleName ≠ key) →
    st'.storage[key]? = st.storage[key]?

/-- Deleting a row touches neither the maps nor the ids. -/
theorem deleteStorageBundleInfo_frame (env : CallEnv β) (st : DataMgr β) (info : InnerBundleInfo β) :
    (deleteStorageBundleInfo env st info).maps = st.maps ∧
    (deleteStorageBundleInfo env st info).installStates = st.installStates ∧
    (deleteStorageBundleInfo env st info).ids = st.ids ∧
    (deleteStorageBundleInfo env st info).uninstalled = st.uninstalled ∧
    ∀ key : Str, info.getEffectiveBundleName ≠ key →
      (deleteStorageBundleInfo env st info).storage[key]? = st.storage[key]? := by
  unfold deleteStorageBundleInfo
  dsimp only
  split
  · refine ⟨rfl, rfl, rfl, rfl, fun key hk => ?_⟩
    show (st.storage.erase _)[key]? = _
    rw [MapLoop.getElem?_erase_eq, if_neg hk.symm]
  · exact ⟨rfl, rfl, rfl, rfl, fun _ _ => rfl⟩

theorem deleteBundleInfo_cases (env : CallEnv β) (st : DataMgr β) (bundleName : Str) (state : InstallState)
    (isKeepData : Bool) :
    ((state = INSTALL_FAIL ∨ st.maps.bundleInfos[bundleName]? = none) ∧
      deleteBundleInfo env st bundleName state isKeepData = st) ∨
    (state ≠ INSTALL_FAIL ∧ ∃ info, st.maps.bundleInfos[bundleName]? = some info ∧
      Deleted st (deleteBundleInfo env st bundleName state isKeepData) bundleName info isKeepData) := by
  unfold deleteBundleInfo
  by_cases hf : state = INSTALL_FAIL
  · rw [if_pos hf]
    exact Or.inl ⟨Or.inl hf, rfl⟩
  · rw [if_neg hf]
    rcases hi : st.maps.bundleInfos[bundleName]? with _ | info
    · exact Or.inl ⟨Or.inr rfl, rfl⟩
    · refine Or.inr ⟨hf, info, rfl, ?_⟩
      have hu := removeOverlay_bodyRewrite env st info bundleName
      dsimp only
      generalize removeOverlayInfoAndConnection env st info bundleName = unlinked at hu ⊢
      have hrec : ∀ s : DataMgr β, (if isKeepData then unlinked
          else { unlinked with ids := recycleUidAndGid unlinked.uninstalled unlinked.ids info }) = s →
          s.maps = unlinked.maps ∧ s.installStates = unlinked.installStates ∧
          s.storage = unlinked.storage ∧ s.uninstalled = unlinked.uninstalled ∧
          s.ids = if isKeepData then st.ids else recycleUidAndGid st.uninstalled st.ids info := by
        rintro s rfl
        rw [← hu.ids, ← hu.uninstalled]
        split <;> exact ⟨rfl, rfl, rfl, rfl, rfl⟩
      generalize (if isKeepData then unlinked
          else { unlinked with ids := recycleUidAndGid unlinked.uninstalled unlinked.ids info }) = recycled
        at hrec ⊢
      obtain ⟨rmaps, rstates, rstorage, runinst, rids⟩ := hrec _ rfl
      obtain ⟨dmaps, dstates, dids, duninst, dstorage⟩ := deleteStorageBundleInfo_frame env recycled info
      refine ⟨fun key => ?_, ?_, ?_, ?_, ?_, fun key hkey => ?_⟩
      · show (((deleteStorageBundleInfo env recycled info).maps.bundleInfos.erase bundleName)[key]?).map _ = _
        rw [MapLoop.getElem?_erase_eq, dmaps, rmaps]
        split
        · rfl
        · exact hu.heads key
      · show (deleteStorageBundleInfo env recycled info).maps.tempBundleInfos = _
        rw [dmaps, rmaps, hu.temp]
      · exact dstates.trans (rstates.trans hu.states)
      · exact dids.trans rids
      · exact duninst.trans (runinst.trans hu.uninstalled)
      · refine (dstorage key (hkey bundleName info hi)).trans ?_
        rw [rstorage]
        exact hu.rows key hkey

/-- An accepted delete, with the name without its prefix. -/
theorem updateBundleInstallState_delete (ex : StringEx) (env : CallEnv β) {st : DataMgr β} {bundleName : Str}
    {state current : InstallState} (isKeepData : Bool) (hne : bundleName ≠ [])
    (hcur : st.installStates[bundleName]? = some current) (htrans : canTransfer state current = true)
    (hdel : isDeleteDataState state = true) :
    (updateBundleInstallState ex env st bundleName state isKeepData).2 =
      deleteBundleInfo env { st with installStates := st.installStates.erase bundleName }
        (originalName ex bundleName) state isKeepData := by
  unfold updateBundleInstallState
  rw [if_neg (by simpa using hne)]
  simp only [hcur, htrans, hdel, if_true]

/-- **Everything `UpdateBundleInstallState` can do**: nothing, a move to a state that is
not a delete state, or an accepted delete. -/
theorem updateBundleInstallState_cases (ex : StringEx) (env : CallEnv β) (st : DataMgr β) (bundleName : Str)
    (state : InstallState) (isKeepData : Bool) :
    (updateBundleInstallState ex env st bundleName state isKeepData).2 = st ∨
    (isDeleteDataState state = false ∧
      (updateBundleInstallState ex env st bundleName state isKeepData).2 =
        { st with installStates := st.installStates.insert bundleName state }) ∨
    (bundleName ≠ [] ∧ isDeleteDataState state = true ∧
      (∃ current, st.installStates[bundleName]? = some current ∧ canTransfer state current = true) ∧
      (updateBundleInstallState ex env st bundleName state isKeepData).2 =
        deleteBundleInfo env { st with installStates := st.installStates.erase bundleName }
          (originalName ex bundleName) state isKeepData) := by
  unfold updateBundleInstallState
  split
  · exact Or.inl rfl
  · next hne =>
    rcases hc : st.installStates[bundleName]? with _ | current
    · dsimp only
      split
      · next hs =>
        refine Or.inr (Or.inl ⟨?_, rfl⟩)
        rw [hs]
        rfl
      · exact Or.inl rfl
    · dsimp only
      split
      · next ht =>
        split
        · next hd => exact Or.inr (Or.inr ⟨by simpa using hne, hd, ⟨current, rfl, ht⟩, rfl⟩)
        · next hd => exact Or.inr (Or.inl ⟨by simpa using hd, rfl⟩)
      · exact Or.inl rfl

theorem updateOdid_spec (env : CallEnv β) (st : DataMgr β) (bundleName : Str) (info : InnerBundleInfo β) :
    BodyRewrite st (updateOdid env st bundleName info).1 ∧
      (updateOdid env st bundleName info).1.maps = st.maps ∧
      ∃ odid, (updateOdid env st bundleName info).2 = { info with odid := odid } := by
  unfold updateOdid
  dsimp only
  split
  · exact ⟨.refl st, rfl, info.odid, rfl⟩
  · split
    · exact ⟨⟨rfl, rfl, rfl, rfl, fun _ => rfl, fun _ _ => rfl⟩, rfl, _, rfl⟩
    · exact ⟨.refl st, rfl, _, rfl⟩

/-- `added` is `info` up to odid and body. -/
def SameBundle (added info : InnerBundleInfo β) : Prop :=
  added.bundleName = info.bundleName ∧ added.isDualModeCloneApp = info.isDualModeCloneApp ∧
    added.innerBundleUserInfos = info.innerBundleUserInfos

theorem SameBundle.trans {r r' r'' : InnerBundleInfo β} (h : SameBundle r r') (h' : SameBundle r' r'') :
    SameBundle r r'' :=
  ⟨h.1.trans h'.1, h.2.1.trans h'.2.1, h.2.2.trans h'.2.2⟩

theorem sameBundle_of_head {r r' : InnerBundleInfo β} (h : r.head = r'.head) : SameBundle r r' := by
  refine ⟨?_, isDualModeCloneApp_of_head h, ?_⟩
  · show r.head.bundleName = r'.head.bundleName
    rw [h]
  · show r.head.innerBundleUserInfos = r'.head.innerBundleUserInfos
    rw [h]

/-- **Everything `AddInnerBundleInfo` can do**: the maps stay, or one record is added under
an existing install state. -/
theorem addInnerBundleInfo_cases (env : CallEnv β) (st : DataMgr β) (bundleName : Str) (info : InnerBundleInfo β)
    (checkStatus toTempBundle : Bool) :
    (BodyRewrite st (addInnerBundleInfo env st bundleName info checkStatus toTempBundle).2 ∧
      (addInnerBundleInfo env st bundleName info checkStatus toTempBundle).2.maps = st.maps) ∨
    (bundleName ≠ [] ∧ (st.targetMap toTempBundle)[bundleName]? = none ∧
      (st.installStates[effectiveName info.isDualModeCloneApp bundleName]?).isSome = true ∧
      ∃ mid added, BodyRewrite st mid ∧ SameBundle added info ∧
        (addInnerBundleInfo env st bundleName info checkStatus toTempBundle).2 =
          addAppHspBundleName (mid.emplace toTempBundle bundleName added) added.applicationBundleType
            bundleName) := by
  unfold addInnerBundleInfo
  split
  · exact Or.inl ⟨.refl st, rfl⟩
  · next hne =>
    split
    · exact Or.inl ⟨.refl st, rfl⟩
    · next hfree =>
      rcases hc : st.installStates[effectiveName info.isDualModeCloneApp bundleName]? with _ | status
      · exact Or.inl ⟨.refl st, rfl⟩
      · obtain ⟨hrw, hmaps, odid, hodid⟩ := updateOdid_spec env st bundleName info
        dsimp only
        split
        · refine Or.inr ⟨by simpa using hne, by simpa using hfree, rfl, ?_⟩
          generalize hdet : (if (updateOdid env st bundleName info).2.needAppDetail then
            { (updateOdid env st bundleName info).2 with
              body := env.overlay.addAppDetailAbilityInfo (updateOdid env st bundleName info).1.maps.bundleInfos
                (updateOdid env st bundleName info).2 }
            else (updateOdid env st bundleName info).2) = detailed
          have hsame : SameBundle detailed info := by
            rw [← hdet, hodid]
            split <;> exact ⟨rfl, rfl, rfl⟩
          obtain ⟨hlink, hhead⟩ := linkOverlay_bodyRewrite env (updateOdid env st bundleName info).1 detailed
          exact ⟨_, _, hrw.trans hmaps hlink, (sameBundle_of_head hhead).trans hsame, rfl⟩
        · exact Or.inl ⟨hrw, hmaps⟩

end BundleFramework
