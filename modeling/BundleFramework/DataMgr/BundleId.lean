import BundleFramework.Base.BmsParam
import BundleFramework.DataMgr.InnerBundleInfo
import BundleFramework.Lib.CyclicProbe

/-!
# Bundle ids

`GenerateBundleId` gives every registered name one id of `[baseAppUid_, MAX_APP_UID]`
and `RecycleUidAndGid` takes it back.  The next id is searched from a cursor, the id
allocated last, by a cyclic probe; an empty map is a case of its own and starts over at
`baseAppUid_`.

`generateBundleId_cases` says everything one call can do; `BundleIds.WF` (ids in range,
one id per name, cursor in range) is kept by every run of the two operations.
-/

namespace BundleFramework

open Std CyclicProbe

variable {β : Type}

/-! ## Algorithm -/

def MAX_APP_UID : Int := 65535
def BASE_APP_UID : Int := 10000
def BASE_USER_RANGE : Int := 200000

def LAST_ALLOCATED_BUNDLE_ID_KEY : Str := "lastAllocatedBundleId".toList

/-- `baseAppUid_` as the constructor of `BundleDataMgr` leaves it. -/
structure BaseAppUid where
  value : Int
  lower : BASE_APP_UID ≤ value
  upper : value < MAX_APP_UID

/-- From the system parameter: a value out of range is replaced by the default. -/
def BaseAppUid.ofParameter (param : Int) : BaseAppUid :=
  if h : param < BASE_APP_UID ∨ param ≥ MAX_APP_UID then ⟨BASE_APP_UID, by decide, by decide⟩
  else ⟨param, by omega, by omega⟩

/-- The id table, its cursor and the parameter table the cursor is saved in. -/
structure BundleIds where
  bundleIdMap : ExtTreeMap Int Str
  lastAllocatedBundleId : Int
  bmsParam : BmsParam

/-- Whether the parameter helper exists, and whether the database accepts a write. -/
structure ParamAccess where
  hasBmsPara : Bool
  insertOk : Bool
  deriving DecidableEq

def saveLastAllocatedBundleId (access : ParamAccess) (ids : BundleIds) : BundleIds :=
  if access.hasBmsPara then
    { ids with bmsParam := (saveBmsParam access.insertOk ids.bmsParam LAST_ALLOCATED_BUNDLE_ID_KEY
        (toDecimal ids.lastAllocatedBundleId)).2 }
  else ids

/-- `bundleIdMap_.emplace`, the cursor, and its saved copy. -/
def BundleIds.allocate (access : ParamAccess) (ids : BundleIds) (bundleId : Int) (bundleName : Str) :
    BundleIds :=
  saveLastAllocatedBundleId access
    { ids with bundleIdMap := ids.bundleIdMap.insert bundleId bundleName, lastAllocatedBundleId := bundleId }

inductive GenerateResult where
  | ok (bundleId : Int)
  | ERR_APPEXECFWK_INSTALL_BUNDLENAME_IS_EMPTY
  | ERR_APPEXECFWK_INSTALL_BUNDLEID_EXCEED_MAX_NUMBER
  | diverges
  deriving DecidableEq

/-- The probe gets fuel for one round of the range; `diverges` is what more would mean. -/
def generateBundleId (base : BaseAppUid) (access : ParamAccess) (ids : BundleIds) (bundleName : Str) :
    GenerateResult × BundleIds :=
  if ids.bundleIdMap.isEmpty then (.ok base.value, ids.allocate access base.value bundleName)
  else match ids.bundleIdMap.toList.find? fun innerBundleId => innerBundleId.2 = bundleName with
    | some innerBundleId => (.ok innerBundleId.1, ids)
    | none =>
      let start := ids.lastAllocatedBundleId
      let taken := fun cursor => ids.bundleIdMap[cursor]?.isSome
      match probe base.value MAX_APP_UID taken start (MAX_APP_UID - base.value + 1).toNat start with
      | .found bundleId => (.ok bundleId, ids.allocate access bundleId bundleName)
      | .exhausted => (.ERR_APPEXECFWK_INSTALL_BUNDLEID_EXCEED_MAX_NUMBER, ids)
      | .outOfFuel => (.diverges, ids)

def generateUidAndGid (base : BaseAppUid) (access : ParamAccess) (ids : BundleIds)
    (userInfo : InnerBundleUserInfo) : GenerateResult × InnerBundleUserInfo × BundleIds :=
  if userInfo.bundleName.isEmpty then (.ERR_APPEXECFWK_INSTALL_BUNDLENAME_IS_EMPTY, userInfo, ids)
  else
    let generated := generateBundleId base access ids userInfo.bundleName
    match generated.1 with
    | .ok bundleId =>
      let uid := userInfo.userId * BASE_USER_RANGE + bundleId.tmod BASE_USER_RANGE
      (.ok bundleId, { userInfo with uid := uid, gids := userInfo.gids ++ [uid] }, generated.2)
    | err => (err, userInfo, generated.2)

/-- Bundles uninstalled with their data kept: bundle name, then user key, then uid. -/
abbrev UninstallTable := StrMap (StrMap Int)

def getUninstallBundleInfo (table : UninstallTable) (bundleName : Str) : Option (StrMap Int) :=
  if bundleName.isEmpty then none else table[bundleName]?

def bundleIdOf (uid userId : Int) : Int := uid - userId * BASE_USER_RANGE

/-- The id of a record is read off its first user info. -/
def InnerBundleInfo.bundleId? (info : InnerBundleInfo β) : Option Int :=
  info.innerBundleUserInfos.toList.head?.map fun userInfo => bundleIdOf userInfo.2.uid userInfo.2.userId

def recycleUidAndGid (uninstalled : UninstallTable) (ids : BundleIds) (info : InnerBundleInfo β) : BundleIds :=
  match info.bundleId? with
  | none => ids
  | some bundleId =>
    if !ids.bundleIdMap[bundleId]?.isSome then ids
    else if (getUninstallBundleInfo uninstalled info.getEffectiveBundleName).isSome then ids
    else { ids with bundleIdMap := ids.bundleIdMap.erase bundleId }

/-! ## One call -/

@[simp] theorem saveLast_bundleIdMap (access : ParamAccess) (ids : BundleIds) :
    (saveLastAllocatedBundleId access ids).bundleIdMap = ids.bundleIdMap := by
  unfold saveLastAllocatedBundleId
  split <;> rfl

@[simp] theorem saveLast_cursor (access : ParamAccess) (ids : BundleIds) :
    (saveLastAllocatedBundleId access ids).lastAllocatedBundleId = ids.lastAllocatedBundleId := by
  unfold saveLastAllocatedBundleId
  split <;> rfl

@[simp] theorem allocate_bundleIdMap (access : ParamAccess) (ids : BundleIds) (id : Int) (name : Str) :
    (ids.allocate access id name).bundleIdMap = ids.bundleIdMap.insert id name := by
  unfold BundleIds.allocate
  simp

@[simp] theorem allocate_cursor (access : ParamAccess) (ids : BundleIds) (id : Int) (name : Str) :
    (ids.allocate access id name).lastAllocatedBundleId = id := by
  unfold BundleIds.allocate
  simp

def BundleIds.CursorInRange (base : BaseAppUid) (ids : BundleIds) : Prop :=
  base.value ≤ ids.lastAllocatedBundleId ∧ ids.lastAllocatedBundleId ≤ MAX_APP_UID

/-- Ids in range, one id per name, and the cursor in range. -/
structure BundleIds.WF (base : BaseAppUid) (ids : BundleIds) : Prop where
  inRange : ∀ (id : Int) name, ids.bundleIdMap[id]? = some name → base.value ≤ id ∧ id ≤ MAX_APP_UID
  injective : ∀ (id id' : Int) name, ids.bundleIdMap[id]? = some name →
    ids.bundleIdMap[id']? = some name → id = id'
  cursor : ids.CursorInRange base

def BundleIds.IsNew (ids : BundleIds) (bundleName : Str) : Prop :=
  ∀ id : Int, ids.bundleIdMap[id]? ≠ some bundleName

def BundleIds.IsFree (base : BaseAppUid) (ids : BundleIds) (id : Int) : Prop :=
  base.value ≤ id ∧ id ≤ MAX_APP_UID ∧ ids.bundleIdMap[id]? = none

/-- `id` is met before `id'` by a probe from the cursor. -/
def BundleIds.Before (base : BaseAppUid) (ids : BundleIds) (id id' : Int) : Prop :=
  offset base.value MAX_APP_UID ids.lastAllocatedBundleId id <
    offset base.value MAX_APP_UID ids.lastAllocatedBundleId id'

/-- Which free id a new name gets: `baseAppUid_` in an empty map, else the first free one
after the cursor. -/
def BundleIds.IsNext (base : BaseAppUid) (ids : BundleIds) (id : Int) : Prop :=
  ids.IsFree base id ∧
    (ids.bundleIdMap.isEmpty = true → id = base.value) ∧
    (ids.bundleIdMap.isEmpty = false → ∀ id', ids.IsFree base id' → ¬ ids.Before base id' id)

theorem scan_none_iff (ids : BundleIds) (bundleName : Str) :
    ids.bundleIdMap.toList.find? (fun innerBundleId => innerBundleId.2 = bundleName) = none ↔
      ids.IsNew bundleName := by
  rw [List.find?_eq_none]
  constructor
  · intro h id hid
    have := h (id, bundleName) (ExtTreeMap.mem_toList_iff_getElem?_eq_some.mpr hid)
    simp at this
  · rintro h ⟨id, name⟩ hmem hname
    have hname' : name = bundleName := by simpa using hname
    rw [hname'] at hmem
    exact h id (ExtTreeMap.mem_toList_iff_getElem?_eq_some.mp hmem)

theorem scan_some (ids : BundleIds) (bundleName : Str) (it : Int × Str)
    (h : ids.bundleIdMap.toList.find? (fun innerBundleId => innerBundleId.2 = bundleName) = some it) :
    ids.bundleIdMap[it.1]? = some bundleName := by
  have hname : it.2 = bundleName := by simpa using List.find?_some h
  have hmem := List.mem_of_find?_eq_some h
  rw [← hname]
  exact ExtTreeMap.mem_toList_iff_getElem?_eq_some.mp hmem

theorem getElem?_of_isEmpty {ids : BundleIds} (h : ids.bundleIdMap.isEmpty = true) (id : Int) :
    ids.bundleIdMap[id]? = none := by
  rw [ExtTreeMap.isEmpty_iff.mp h]
  exact ExtTreeMap.getElem?_empty

/-- A call leaves the table as it is or registers the name under a free id. -/
theorem generateBundleId_table (base : BaseAppUid) (access : ParamAccess) (ids : BundleIds) (bundleName : Str) :
    (generateBundleId base access ids bundleName).2.bundleIdMap = ids.bundleIdMap ∨
    ∃ id, ids.bundleIdMap[id]? = none ∧
      (generateBundleId base access ids bundleName).2.bundleIdMap = ids.bundleIdMap.insert id bundleName := by
  unfold generateBundleId
  split
  · next he => exact Or.inr ⟨base.value, getElem?_of_isEmpty he _, allocate_bundleIdMap _ _ _ _⟩
  · split
    · exact Or.inl rfl
    · dsimp only
      split
      · next id hp =>
        refine Or.inr ⟨id, ?_, allocate_bundleIdMap _ _ _ _⟩
        have hfree := not_taken_of_found hp
        exact Option.isNone_iff_eq_none.mp (Option.isSome_eq_false_iff.mp hfree)
      · exact Or.inl rfl
      · exact Or.inl rfl

/-- **Everything one call can do**: the registered id, the next free id, or failure on a
full range. -/
theorem generateBundleId_cases (base : BaseAppUid) (access : ParamAccess) (ids : BundleIds)
    (hc : ids.CursorInRange base) (bundleName : Str) :
    (∃ id : Int, ids.bundleIdMap[id]? = some bundleName ∧
      generateBundleId base access ids bundleName = (.ok id, ids)) ∨
    (ids.IsNew bundleName ∧ ∃ id, ids.IsNext base id ∧
      generateBundleId base access ids bundleName = (.ok id, ids.allocate access id bundleName)) ∨
    (ids.IsNew bundleName ∧ (∀ id, ¬ ids.IsFree base id) ∧
      generateBundleId base access ids bundleName =
        (.ERR_APPEXECFWK_INSTALL_BUNDLEID_EXCEED_MAX_NUMBER, ids)) := by
  have hup := base.upper
  unfold generateBundleId
  by_cases he : ids.bundleIdMap.isEmpty = true
  · -- empty map: the shortcut
    right; left
    have hnone := getElem?_of_isEmpty he
    refine ⟨fun id => by rw [hnone]; simp, base.value, ⟨⟨by omega, by omega, hnone _⟩, fun _ => rfl, ?_⟩, ?_⟩
    · intro hne
      rw [he] at hne
      cases hne
    · rw [if_pos he]
  · rw [if_neg he]
    rcases hscan : ids.bundleIdMap.toList.find? (fun innerBundleId => innerBundleId.2 = bundleName)
      with _ | it
    · have hnew := (scan_none_iff ids bundleName).mp hscan
      right
      dsimp only
      rcases probe_spec hc.1 hc.2 (fun cursor => ids.bundleIdMap[cursor]?.isSome)
        (MAX_APP_UID - base.value + 1).toNat (by omega) with
        ⟨id, hp, h1, h2, hfree, hfirst⟩ | ⟨hp, hall⟩
      · left
        refine ⟨hnew, id, ⟨⟨h1, h2, Option.isSome_eq_false_iff.mp hfree |> Option.isNone_iff_eq_none.mp⟩,
          fun h0 => absurd h0 he, ?_⟩, by rw [hscan, hp]⟩
        rintro - id' ⟨h1', h2', hfree'⟩ hbefore
        have := hfirst id' h1' h2' hbefore
        rw [hfree'] at this
        cases this
      · right
        refine ⟨hnew, ?_, by rw [hscan, hp]⟩
        rintro id ⟨h1, h2, hfree⟩
        have := hall id h1 h2
        rw [hfree] at this
        cases this
    · left
      exact ⟨it.1, scan_some ids bundleName it hscan, by rw [hscan]⟩

theorem generateBundleId_inRange {base : BaseAppUid} {access : ParamAccess} {ids : BundleIds}
    (h : ids.WF base) {bundleName : Str} {id : Int}
    (hok : (generateBundleId base access ids bundleName).1 = .ok id) :
    base.value ≤ id ∧ id ≤ MAX_APP_UID := by
  rcases generateBundleId_cases base access ids h.cursor bundleName with
    ⟨k, hk, e⟩ | ⟨_, k, hk, e⟩ | ⟨_, _, e⟩
  · rw [e] at hok
    obtain rfl := GenerateResult.ok.inj hok
    exact h.inRange k bundleName hk
  · rw [e] at hok
    obtain rfl := GenerateResult.ok.inj hok
    exact ⟨hk.1.1, hk.1.2.1⟩
  · rw [e] at hok
    cases hok

/-! ## Runs -/

theorem BundleIds.WF.allocate {base : BaseAppUid} {ids : BundleIds} (h : ids.WF base) (access : ParamAccess)
    {id : Int} {bundleName : Str} (hfree : ids.IsFree base id) (hnew : ids.IsNew bundleName) :
    (ids.allocate access id bundleName).WF base where
  inRange k name hk := by
    rw [allocate_bundleIdMap, MapLoop.getElem?_insert_eq] at hk
    split at hk
    · next e =>
      rw [e]
      exact ⟨hfree.1, hfree.2.1⟩
    · exact h.inRange k name hk
  injective k k' name hk hk' := by
    rw [allocate_bundleIdMap, MapLoop.getElem?_insert_eq] at hk hk'
    split at hk
    · next e =>
      split at hk'
      · next e' => rw [e, e']
      · rw [← Option.some.inj hk] at hk'
        exact absurd hk' (hnew k')
    · split at hk'
      · rw [← Option.some.inj hk'] at hk
        exact absurd hk (hnew k)
      · exact h.injective k k' name hk hk'
  cursor := by
    unfold BundleIds.CursorInRange
    rw [allocate_cursor]
    exact ⟨hfree.1, hfree.2.1⟩

/-- `RecycleUidAndGid` changes nothing or erases one id. -/
theorem recycleUidAndGid_cases (uninstalled : UninstallTable) (ids : BundleIds) (info : InnerBundleInfo β) :
    recycleUidAndGid uninstalled ids info = ids ∨
    ∃ id, info.bundleId? = some id ∧
      getUninstallBundleInfo uninstalled info.getEffectiveBundleName = none ∧
      recycleUidAndGid uninstalled ids info = { ids with bundleIdMap := ids.bundleIdMap.erase id } := by
  unfold recycleUidAndGid
  rcases info.bundleId? with _ | id
  · exact Or.inl rfl
  · dsimp only
    split
    · exact Or.inl rfl
    · split
      · exact Or.inl rfl
      · next hu =>
        refine Or.inr ⟨id, rfl, ?_, rfl⟩
        simpa using hu

theorem BundleIds.WF.erase {base : BaseAppUid} {ids : BundleIds} (h : ids.WF base) (id : Int) :
    BundleIds.WF base { ids with bundleIdMap := ids.bundleIdMap.erase id } where
  inRange k name hk := by
    dsimp only at hk
    rw [MapLoop.getElem?_erase_eq] at hk
    split at hk
    · cases hk
    · exact h.inRange k name hk
  injective k k' name hk hk' := by
    dsimp only at hk hk'
    rw [MapLoop.getElem?_erase_eq] at hk hk'
    split at hk
    · cases hk
    · split at hk'
      · cases hk'
      · exact h.injective k k' name hk hk'
  cursor := h.cursor

/-- The two operations on the id table. -/
inductive BundleIdOp (β : Type) where
  | generate (access : ParamAccess) (bundleName : Str)
  | recycle (uninstalled : UninstallTable) (info : InnerBundleInfo β)

def BundleIds.step (base : BaseAppUid) (ids : BundleIds) : BundleIdOp β → BundleIds
  | .generate access bundleName => (generateBundleId base access ids bundleName).2
  | .recycle uninstalled info => recycleUidAndGid uninstalled ids info

def BundleIds.run (base : BaseAppUid) (ids : BundleIds) (ops : List (BundleIdOp β)) : BundleIds :=
  ops.foldl (BundleIds.step base) ids

theorem BundleIds.WF.generate {base : BaseAppUid} {ids : BundleIds} (h : ids.WF base) (access : ParamAccess)
    (bundleName : Str) : (generateBundleId base access ids bundleName).2.WF base := by
  rcases generateBundleId_cases base access ids h.cursor bundleName with
    ⟨id, -, e⟩ | ⟨hnew, id, hid, e⟩ | ⟨-, -, e⟩
  · rw [e]; exact h
  · rw [e]; exact h.allocate access hid.1 hnew
  · rw [e]; exact h

theorem BundleIds.WF.recycle {base : BaseAppUid} {ids : BundleIds} (h : ids.WF base)
    (uninstalled : UninstallTable) (info : InnerBundleInfo β) :
    (recycleUidAndGid uninstalled ids info).WF base := by
  rcases recycleUidAndGid_cases uninstalled ids info with e | ⟨id, -, -, e⟩
  · rw [e]; exact h
  · rw [e]; exact h.erase id

theorem BundleIds.WF.run {base : BaseAppUid} {ids : BundleIds} (h : ids.WF base) (ops : List (BundleIdOp β)) :
    (ids.run base ops).WF base := by
  unfold BundleIds.run
  induction ops generalizing ids with
  | nil => exact h
  | cons op ops ih =>
    apply ih
    match op with
    | .generate access bundleName => exact h.generate access bundleName
    | .recycle uninstalled info => exact h.recycle uninstalled info

/-- **Bundle-id allocation.**  After any run the table is well formed, and then every
call of `GenerateBundleId` ends; a registered name keeps its id, a new name gets a free
id of the range, and failure means a new name and a full range. -/
theorem generateBundleId_after_run (base : BaseAppUid) (ids : BundleIds) (h : ids.WF base)
    (ops : List (BundleIdOp β)) (access : ParamAccess) (bundleName : Str) :
    let st := ids.run base ops
    let called := generateBundleId base access st bundleName
    st.WF base ∧ called.2.WF base ∧
    called.1 ≠ .diverges ∧
    (∀ id : Int, st.bundleIdMap[id]? = some bundleName → called = (.ok id, st)) ∧
    (∀ id : Int, st.IsNew bundleName → called.1 = .ok id →
      base.value ≤ id ∧ id ≤ MAX_APP_UID ∧ st.bundleIdMap[id]? = none ∧
      called.2.bundleIdMap = st.bundleIdMap.insert id bundleName) ∧
    (called.1 = .ERR_APPEXECFWK_INSTALL_BUNDLEID_EXCEED_MAX_NUMBER ↔
      st.IsNew bundleName ∧
      ∀ id : Int, base.value ≤ id → id ≤ MAX_APP_UID → (st.bundleIdMap[id]?).isSome = true) := by
  intro st called
  have hst : st.WF base := h.run ops
  refine ⟨hst, hst.generate access bundleName, ?_⟩
  rcases generateBundleId_cases base access st hst.cursor bundleName with
    ⟨id, hid, e⟩ | ⟨hnew, id, hid, e⟩ | ⟨hnew, hfull, e⟩
  · have e' : called = (.ok id, st) := e
    rw [e']
    refine ⟨by simp, ?_, ?_, ?_⟩
    · intro k hk
      rw [hst.injective k id bundleName hk hid]
    · intro k hnew
      exact absurd hid (hnew id)
    · refine ⟨fun hc => (by cases hc), fun hc => absurd hid (hc.1 id)⟩
  · have e' : called = (.ok id, st.allocate access id bundleName) := e
    rw [e']
    refine ⟨by simp, ?_, ?_, ?_⟩
    · intro k hk
      exact absurd hk (hnew k)
    · intro k _ hk
      obtain rfl := GenerateResult.ok.inj hk
      exact ⟨hid.1.1, hid.1.2.1, hid.1.2.2, allocate_bundleIdMap _ _ _ _⟩
    · refine ⟨fun hc => (by cases hc), fun hc => ?_⟩
      have := hc.2 id hid.1.1 hid.1.2.1
      rw [hid.1.2.2] at this
      cases this
  · have e' : called = (.ERR_APPEXECFWK_INSTALL_BUNDLEID_EXCEED_MAX_NUMBER, st) := e
    rw [e']
    refine ⟨by simp, ?_, ?_, ?_⟩
    · intro k hk
      exact absurd hk (hnew k)
    · intro k _ hk
      cases hk
    · refine ⟨fun _ => ⟨hnew, fun id h1 h2 => ?_⟩, fun _ => rfl⟩
      rw [Option.isSome_iff_ne_none]
      exact fun hnone => hfull id ⟨h1, h2, hnone⟩

/-- A record of user 100 with the given bundle id. -/
def InnerBundleInfo.withBundleId (bundleName : Str) (isDualModeCloneApp : Bool) (bundleId : Int) :
    InnerBundleInfo Unit :=
  { InnerBundleInfo.blank bundleName .UNSPECIFIED isDualModeCloneApp with
    innerBundleUserInfos := (∅ : StrMap InnerBundleUserInfo).insert (bundleName ++ "_100".toList)
      ⟨bundleName, 100, 100 * BASE_USER_RANGE + bundleId, [], ∅⟩ }

/-- A table in which `a` has the first id of the default range. -/
def sampleIds : BundleIds where
  bundleIdMap := (∅ : ExtTreeMap Int Str).insert 10000 ['a']
  lastAllocatedBundleId := 10000
  bmsParam := ∅

theorem sampleIds_wf : sampleIds.WF (.ofParameter 10000) where
  inRange id name h := by
    simp only [sampleIds, MapLoop.getElem?_insert_eq, ExtTreeMap.getElem?_empty] at h
    split at h
    · next e =>
      rw [e]
      decide
    · cases h
  injective id id' name h h' := by
    simp only [sampleIds, MapLoop.getElem?_insert_eq, ExtTreeMap.getElem?_empty] at h h'
    split at h
    · next e =>
      split at h'
      · next e' => rw [e, e']
      · cases h'
    · cases h
  cursor := by
    unfold BundleIds.CursorInRange
    decide

/-- The theorem at the sample table after one allocation. -/
theorem generateBundleId_after_sample_run :
    (generateBundleId (.ofParameter 10000) ⟨true, true⟩
      (sampleIds.run (.ofParameter 10000) [BundleIdOp.generate (β := Unit) ⟨true, true⟩ ['b']])
      ['c']).1 ≠ .diverges :=
  (generateBundleId_after_run (.ofParameter 10000) sampleIds sampleIds_wf
    [BundleIdOp.generate (β := Unit) ⟨true, true⟩ ['b']] ⟨true, true⟩ ['c']).2.2.1

end BundleFramework
