import BundleFramework.DataMgr.BundleId

/-!
# Restarts, and when a freed id is handed out again

At a restart `RestoreUidAndGid` rebuilds `bundleIdMap_` from the stored bundles and takes
the cursor from the parameter table, if what is saved there passes the range check
`baseAppUid_ ≤ v < MAX_APP_UID`; else the cursor is the largest restored id.

The cursor is meant to keep a freed id from being handed out at once.  Along a run of
`GenerateBundleId`, `RecycleUidAndGid` and restarts, `freed` collects the ids freed since
the last allocation for a new name, and `NoImmediateReuse` is that promise at every
allocation.  It holds at an allocation exactly when each freed id is `Skipped`
(`generateBundleId_ne_iff`): in an empty map it is not `baseAppUid_`, else another free id
comes before it on the way from the cursor.
-/

namespace BundleFramework

open Std CyclicProbe

variable {β : Type}

/-! ## Algorithm -/

def UNDER_LINE : Str := ['_']

/-- `BundleCloneCommonHelper::GetCloneBundleIdKey`. -/
def getCloneBundleIdKey (bundleName : Str) (appIndex : Int) : Str :=
  toDecimal appIndex ++ CLONE_DIR_PATH_PREFIX ++ UNDER_LINE ++ bundleName

/-- The loop over the user infos of one bundle: the first one registers the bundle, every
one its app clones. -/
def restoreUserInfos (info : InnerBundleInfo β) (onlyInsertOne : Bool) :
    List (Str × InnerBundleUserInfo) → ExtTreeMap Int Str → ExtTreeMap Int Str
  | [], bundleIdMap => bundleIdMap
  | infoItem :: rest, bundleIdMap =>
    let userInfo := infoItem.2
    let restoreName := effectiveName info.isDualModeCloneApp userInfo.bundleName
    let registered :=
      if !onlyInsertOne then bundleIdMap.insert (bundleIdOf userInfo.uid userInfo.userId) restoreName
      else bundleIdMap
    let withClones := userInfo.cloneInfos.toList.foldl
      (fun ids clone => ids.insert (bundleIdOf clone.2.uid clone.2.userId)
        (getCloneBundleIdKey info.bundleName clone.2.appIndex)) registered
    restoreUserInfos info true rest withClones

def restoreBundles (bundleInfos : StrMap (InnerBundleInfo β)) (bundleIdMap : ExtTreeMap Int Str) :
    ExtTreeMap Int Str :=
  bundleInfos.toList.foldl
    (fun ids row => restoreUserInfos row.2 false row.2.innerBundleUserInfos.toList ids) bundleIdMap

def parseUserKey (ex : StringEx) (userKey : Str) : Option (Int × Int) :=
  match strFind userKey UNDER_LINE with
  | some underscorePos =>
    match ex.strToInt (userKey.take underscorePos), ex.strToInt (userKey.drop (underscorePos + 1)) with
    | some userId, some appIndex => some (userId, appIndex)
    | _, _ => none
  | none => (ex.strToInt userKey).map fun userId => (userId, 0)

/-- One user of a bundle uninstalled with its data kept; an id of a live bundle is left alone. -/
def uninstallUserStep (ex : StringEx) (bundleIdMap : ExtTreeMap Int Str) (name : Str)
    (uninstallBundleIdMap : ExtTreeMap Int Str) (userInfoPair : Str × Int) : ExtTreeMap Int Str :=
  match parseUserKey ex userInfoPair.1 with
  | none => uninstallBundleIdMap
  | some (userId, appIndex) =>
    let bundleId := bundleIdOf userInfoPair.2 userId
    if bundleId < BASE_APP_UID || bundleId ≥ MAX_APP_UID then uninstallBundleIdMap
    else
      let bundleName := if appIndex > 0 then getCloneBundleIdKey name appIndex else name
      if bundleIdMap[bundleId]?.isSome then uninstallBundleIdMap
      else uninstallBundleIdMap.insertIfNew bundleId bundleName

def restoreUidAndGidFromUninstallInfo (ex : StringEx) (uninstalled : UninstallTable)
    (bundleIdMap : ExtTreeMap Int Str) : ExtTreeMap Int Str :=
  let uninstallBundleIdMap := uninstalled.toList.foldl
    (fun ids info => info.2.toList.foldl (uninstallUserStep ex bundleIdMap info.1) ids) ∅
  uninstallBundleIdMap.toList.foldl (fun ids item => ids.insertIfNew item.1 item.2) bundleIdMap

/-- The saved cursor, when there is one and it passes the range check. -/
def persistedCursor (ex : StringEx) (base : BaseAppUid) (hasBmsPara : Bool) (bmsParam : BmsParam) : Option Int :=
  if !hasBmsPara then none
  else match getBmsParam bmsParam LAST_ALLOCATED_BUNDLE_ID_KEY with
    | none => none
    | some val => (ex.strToInt val).filter fun persisted =>
        persisted ≥ base.value && persisted < MAX_APP_UID

def restoreUidAndGid (ex : StringEx) (base : BaseAppUid) (hasBmsPara : Bool)
    (bundleInfos : StrMap (InnerBundleInfo β)) (uninstalled : UninstallTable) (ids : BundleIds) : BundleIds :=
  let bundleIdMap := restoreBundles bundleInfos ids.bundleIdMap
  let cursor := match persistedCursor ex base hasBmsPara ids.bmsParam with
    | some persisted => persisted
    -- `rbegin()->first`
    | none => (bundleIdMap.toList.getLast?.map Prod.fst).getD ids.lastAllocatedBundleId
  { ids with
    bundleIdMap := restoreUidAndGidFromUninstallInfo ex uninstalled bundleIdMap
    lastAllocatedBundleId := cursor }

/-- A new `BundleDataMgr` that loads the stored bundles; without any it restores nothing. -/
def restart (ex : StringEx) (base : BaseAppUid) (hasBmsPara : Bool)
    (bundleInfos : StrMap (InnerBundleInfo β)) (uninstalled : UninstallTable) (ids : BundleIds) : BundleIds :=
  let fresh : BundleIds := ⟨∅, base.value, ids.bmsParam⟩
  if bundleInfos.isEmpty then fresh
  else restoreUidAndGid ex base hasBmsPara bundleInfos uninstalled fresh

/-! ## Runs with restarts -/

inductive ServiceOp (β : Type) where
  | generate (access : ParamAccess) (bundleName : Str)
  | recycle (uninstalled : UninstallTable) (info : InnerBundleInfo β)
  | restart (hasBmsPara : Bool) (bundleInfos : StrMap (InnerBundleInfo β)) (uninstalled : UninstallTable)

def BundleIds.serviceStep (ex : StringEx) (base : BaseAppUid) (ids : BundleIds) : ServiceOp β → BundleIds
  | .generate access bundleName => (generateBundleId base access ids bundleName).2
  | .recycle uninstalled info => recycleUidAndGid uninstalled ids info
  | .restart hasBmsPara bundleInfos uninstalled => BundleFramework.restart ex base hasBmsPara bundleInfos uninstalled ids

/-- The stored bundles of a restart carry ids that were allocated: ids of the range. -/
def ServiceOp.SurvivorsInRange (base : BaseAppUid) : ServiceOp β → Prop
  | .restart _ bundleInfos _ => ∀ (id : Int) name, (restoreBundles bundleInfos ∅)[id]? = some name →
      base.value ≤ id ∧ id ≤ MAX_APP_UID
  | _ => True

/-- Registered before the step and not after it. -/
def FreedBy (before after : BundleIds) (id : Int) : Prop :=
  before.bundleIdMap[id]?.isSome = true ∧ after.bundleIdMap[id]? = none

/-- The ids freed since the last `GenerateBundleId` for a new name. -/
def freedAfter (ex : StringEx) (base : BaseAppUid) (ids : BundleIds) (freed : Set Int) (op : ServiceOp β) :
    Set Int :=
  match op with
  | .generate _ bundleName => { id | id ∈ freed ∧ ¬ ids.IsNew bundleName }
  | op => { id | id ∈ freed ∨ FreedBy ids (ids.serviceStep ex base op) id }

/-- At one step: a call for a new name does not return a freed id while another id is free. -/
def StepNoReuse (base : BaseAppUid) (ids : BundleIds) (freed : Set Int) : ServiceOp β → Prop
  | .generate access bundleName => ids.IsNew bundleName → ∀ id ∈ freed,
      (∃ id', id' ≠ id ∧ ids.IsFree base id') → (generateBundleId base access ids bundleName).1 ≠ .ok id
  | _ => True

/-- **The promise**: no immediate reuse at any step of the run. -/
def NoImmediateReuse (ex : StringEx) (base : BaseAppUid) (ids : BundleIds) (freed : Set Int) :
    List (ServiceOp β) → Prop
  | [] => True
  | op :: ops => StepNoReuse base ids freed op ∧
      NoImmediateReuse ex base (ids.serviceStep ex base op) (freedAfter ex base ids freed op) ops

/-- The next allocation passes over `id`: in an empty map `id` is not `baseAppUid_`, else
the probe meets another free id first. -/
def BundleIds.Skipped (base : BaseAppUid) (ids : BundleIds) (id : Int) : Prop :=
  (ids.bundleIdMap.isEmpty = true → id ≠ base.value) ∧
  (ids.bundleIdMap.isEmpty = false → ∃ id', ids.IsFree base id' ∧ ids.Before base id' id)

/-- At one step: when a new name asks, every freed id that is still free is skipped. -/
def StepSkipsFreed (base : BaseAppUid) (ids : BundleIds) (freed : Set Int) : ServiceOp β → Prop
  | .generate _ bundleName => ids.IsNew bundleName → ∀ id ∈ freed, ids.IsFree base id →
      (∃ id', id' ≠ id ∧ ids.IsFree base id') → ids.Skipped base id
  | _ => True

def SkipsFreed (ex : StringEx) (base : BaseAppUid) (ids : BundleIds) (freed : Set Int) :
    List (ServiceOp β) → Prop
  | [] => True
  | op :: ops => StepSkipsFreed base ids freed op ∧
      SkipsFreed ex base (ids.serviceStep ex base op) (freedAfter ex base ids freed op) ops

/-! ## The cursor stays in range -/

theorem persistedCursor_inRange (ex : StringEx) (base : BaseAppUid) (hasBmsPara : Bool) (bmsParam : BmsParam)
    (v : Int) (h : persistedCursor ex base hasBmsPara bmsParam = some v) :
    base.value ≤ v ∧ v < MAX_APP_UID := by
  unfold persistedCursor at h
  split at h
  · cases h
  · split at h
    · cases h
    · rw [Option.filter_eq_some_iff] at h
      simpa using h.2

theorem restart_cursorInRange (ex : StringEx) (base : BaseAppUid) (hasBmsPara : Bool)
    (bundleInfos : StrMap (InnerBundleInfo β)) (uninstalled : UninstallTable) (ids : BundleIds)
    (h : ∀ (id : Int) name, (restoreBundles bundleInfos ∅)[id]? = some name →
      base.value ≤ id ∧ id ≤ MAX_APP_UID) :
    (restart ex base hasBmsPara bundleInfos uninstalled ids).CursorInRange base := by
  have hup := base.upper
  have hfresh : base.value ≤ base.value ∧ base.value ≤ MAX_APP_UID := ⟨by omega, by omega⟩
  unfold restart BundleIds.CursorInRange
  dsimp only
  split
  · exact hfresh
  · unfold restoreUidAndGid
    dsimp only
    rcases hp : persistedCursor ex base hasBmsPara ids.bmsParam with _ | v
    · dsimp only
      rcases hk : (restoreBundles bundleInfos ∅).toList.getLast? with _ | ⟨k, name⟩
      · exact hfresh
      · have hmem := List.mem_of_getLast? hk
        exact h k name (ExtTreeMap.mem_toList_iff_getElem?_eq_some.mp hmem)
    · have := persistedCursor_inRange ex base hasBmsPara ids.bmsParam v hp
      dsimp only
      omega

theorem serviceStep_cursorInRange (ex : StringEx) (base : BaseAppUid) (ids : BundleIds)
    (h : ids.CursorInRange base) (op : ServiceOp β) (hop : op.SurvivorsInRange base) :
    (ids.serviceStep ex base op).CursorInRange base := by
  match op with
  | .generate access bundleName =>
    show (generateBundleId base access ids bundleName).2.CursorInRange base
    rcases generateBundleId_cases base access ids h bundleName with
      ⟨id, -, e⟩ | ⟨-, id, hid, e⟩ | ⟨-, -, e⟩
    · rw [e]; exact h
    · rw [e]
      unfold BundleIds.CursorInRange
      rw [allocate_cursor]
      exact ⟨hid.1.1, hid.1.2.1⟩
    · rw [e]; exact h
  | .recycle uninstalled info =>
    show (recycleUidAndGid uninstalled ids info).CursorInRange base
    rcases recycleUidAndGid_cases uninstalled ids info with e | ⟨id, -, -, e⟩
    · rw [e]; exact h
    · rw [e]; exact h
  | .restart hasBmsPara bundleInfos uninstalled =>
    exact restart_cursorInRange ex base hasBmsPara bundleInfos uninstalled ids hop

/-! ## Reuse at one allocation, and along a run -/

/-- **One allocation**: a given id is not handed out to a new name exactly when it is not
free, or it is skipped. -/
theorem generateBundleId_ne_iff (base : BaseAppUid) (access : ParamAccess) (ids : BundleIds)
    (hc : ids.CursorInRange base) (bundleName : Str) (hnew : ids.IsNew bundleName) (id : Int) :
    (generateBundleId base access ids bundleName).1 ≠ .ok id ↔ (ids.IsFree base id → ids.Skipped base id) := by
  rcases generateBundleId_cases base access ids hc bundleName with
    ⟨k, hk, -⟩ | ⟨-, k, hk, e⟩ | ⟨-, hfull, e⟩
  · exact absurd hk (hnew k)
  · obtain ⟨hkfree, hkempty, hkfirst⟩ := hk
    rw [e]
    constructor
    · intro hne hid
      have hne' : k ≠ id := fun he => hne (by rw [he])
      refine ⟨fun hm => ?_, fun hm => ⟨k, hkfree, ?_⟩⟩
      · rw [← hkempty hm]
        exact hne'.symm
      · -- `id` is not before `k`, and two ids are not met at the same step
        have hnb := hkfirst hm id hid
        unfold BundleIds.Before at hnb ⊢
        have hoff : offset base.value MAX_APP_UID ids.lastAllocatedBundleId k ≠
            offset base.value MAX_APP_UID ids.lastAllocatedBundleId id := fun he =>
          hne' (offset_injective hkfree.1 hkfree.2.1 hid.1 hid.2.1 he)
        omega
    · intro hskip hok
      have he : k = id := GenerateResult.ok.inj hok
      obtain ⟨h1, h2⟩ := hskip (he ▸ hkfree)
      rcases hm : ids.bundleIdMap.isEmpty with _ | _
      · obtain ⟨id', hfree', hbefore⟩ := h2 hm
        exact hkfirst hm id' hfree' (he ▸ hbefore)
      · exact h1 hm (he ▸ hkempty hm)
  · rw [e]
    refine ⟨fun _ hid => absurd hid (hfull id), fun _ hok => by cases hok⟩

theorem stepNoReuse_iff (base : BaseAppUid) (ids : BundleIds) (hc : ids.CursorInRange base) (freed : Set Int)
    (op : ServiceOp β) : StepNoReuse base ids freed op ↔ StepSkipsFreed base ids freed op := by
  match op with
  | .generate access bundleName =>
    constructor
    · intro h hnew id hid hfree hother
      exact (generateBundleId_ne_iff base access ids hc bundleName hnew id).mp (h hnew id hid hother) hfree
    · intro h hnew id hid hother
      exact (generateBundleId_ne_iff base access ids hc bundleName hnew id).mpr
        fun hfree => h hnew id hid hfree hother
  | .recycle _ _ => exact Iff.rfl
  | .restart _ _ _ => exact Iff.rfl

/-- **When the cursor keeps its promise**: a run has no immediate reuse exactly when at
each of its allocations every freed id is skipped. -/
theorem noImmediateReuse_iff_skipsFreed (ex : StringEx) (base : BaseAppUid) (ids : BundleIds)
    (hc : ids.CursorInRange base) (freed : Set Int) (ops : List (ServiceOp β))
    (hops : ∀ op ∈ ops, op.SurvivorsInRange base) :
    NoImmediateReuse ex base ids freed ops ↔ SkipsFreed ex base ids freed ops := by
  induction ops generalizing ids freed with
  | nil => exact Iff.rfl
  | cons op ops ih =>
    have hop := hops op List.mem_cons_self
    have hstep := stepNoReuse_iff base ids hc freed op
    have htail := ih (ids.serviceStep ex base op) (serviceStep_cursorInRange ex base ids hc op hop)
      (freedAfter ex base ids freed op) fun o ho => hops o (List.mem_cons_of_mem _ ho)
    unfold NoImmediateReuse SkipsFreed
    rw [hstep, htail]

/-- Install `a`, uninstall it, install `b`. -/
def emptiedRun : List (ServiceOp Unit) :=
  [.generate ⟨true, true⟩ ['a'], .recycle ∅ (.withBundleId ['a'] false 10000), .generate ⟨true, true⟩ ['b']]

/-- Install `b` on the last id, uninstall it, restart, install `c`. -/
def boundaryRun : List (ServiceOp Unit) :=
  [.generate ⟨true, true⟩ ['b'], .recycle ∅ (.withBundleId ['b'] false 65535),
    .restart true ((∅ : StrMap _).insert ['a'] (.withBundleId ['a'] false 65534)) ∅,
    .generate ⟨true, true⟩ ['c']]

theorem boundaryRun_survivors : ∀ op ∈ boundaryRun, op.SurvivorsInRange (.ofParameter 10000) := by
  intro op hop
  simp only [boundaryRun, List.mem_cons, List.not_mem_nil, or_false] at hop
  rcases hop with rfl | rfl | rfl | rfl
  · trivial
  · trivial
  · intro id name h
    have e : restoreBundles ((∅ : StrMap _).insert ['a'] (InnerBundleInfo.withBundleId ['a'] false 65534)) ∅
        = (∅ : ExtTreeMap Int Str).insert 65534 ['a'] := by decide
    rw [e, MapLoop.getElem?_insert_eq] at h
    split at h
    · next hid =>
      rw [hid]
      decide
    · rw [ExtTreeMap.getElem?_empty] at h
      cases h
  · trivial

/-- The theorem at the run across the boundary. -/
theorem noImmediateReuse_iff_boundaryRun :
    NoImmediateReuse refStringEx (.ofParameter 10000)
      ⟨(∅ : ExtTreeMap Int Str).insert 65534 ['a'], 65534, ∅⟩ ∅ boundaryRun ↔
    SkipsFreed refStringEx (.ofParameter 10000)
      ⟨(∅ : ExtTreeMap Int Str).insert 65534 ['a'], 65534, ∅⟩ ∅ boundaryRun :=
  noImmediateReuse_iff_skipsFreed refStringEx (.ofParameter 10000) _
    (by unfold BundleIds.CursorInRange; decide) ∅ boundaryRun boundaryRun_survivors

/-- **The promise fails** when the map is emptied in between, and when the saved cursor is
`MAX_APP_UID` and a restart rejects it. -/
theorem immediate_reuse :
    ¬ NoImmediateReuse refStringEx (.ofParameter 10000) ⟨∅, 10000, ∅⟩ ∅ emptiedRun ∧
    ¬ NoImmediateReuse refStringEx (.ofParameter 10000)
      ⟨(∅ : ExtTreeMap Int Str).insert 65534 ['a'], 65534, ∅⟩ ∅ boundaryRun := by
  constructor
  · rintro ⟨-, -, h, -⟩
    refine h ((scan_none_iff _ _).mp (by decide)) 10000 (Or.inr ⟨by decide, by decide⟩)
      ⟨10001, by decide, by decide, by decide, by decide⟩ (by decide)
  · rintro ⟨-, -, -, h, -⟩
    refine h ((scan_none_iff _ _).mp (by decide)) 65535 (Or.inl (Or.inr ⟨by decide, by decide⟩))
      ⟨10000, by decide, by decide, by decide, by decide⟩ (by decide +kernel)

end BundleFramework
