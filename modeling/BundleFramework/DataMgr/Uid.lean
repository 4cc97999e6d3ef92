import BundleFramework.DataMgr.RestoreUid
import BundleFramework.Lib.StepRun

/-!
# Uids of application instances

The uid of an installed application is `userId * BASE_USER_RANGE + bundleId`: the user is
read back by a division (`GetUserIdByUid`), and the bundle id is allocated for a text key,
the bundle name for the main application and `GetCloneBundleIdKey` for a clone.

Along a run of `GenerateUidAndGid` and `RecycleUidAndGid`, `live` collects the instances
whose bundle id has not been given back since.  Two live instances with one uid are one
instance (`uid_identifies_instance`): the division separates the users, the table the
keys (`LiveUids.WF`), and `idKey_injective` the names and indexes.
-/

namespace BundleFramework

open Std StepRun

variable {β : Type}

/-! ## Algorithm -/

def INVALID_UID : Int := -1
def INVALID_USERID : Int := -1
def INT32_MAX : Int := 2147483647

/-- `BundleUtil::GetUserIdByUid`. -/
def getUserIdByUid (uid : Int) : Int := if uid ≤ INVALID_UID then INVALID_USERID else uid.tdiv BASE_USER_RANGE

/-- An application of one user: index 0 is the main application, the others are clones. -/
structure AppInstance where
  userId : Int
  bundleName : Str
  appIndex : Int
  deriving DecidableEq

/-- The key an instance has in `bundleIdMap_`. -/
def AppInstance.idKey (a : AppInstance) : Str :=
  if a.appIndex > 0 then getCloneBundleIdKey a.bundleName a.appIndex else a.bundleName

/-- The user info an installer passes on: the key as its name. -/
def AppInstance.request (a : AppInstance) (userInfo : InnerBundleUserInfo) : InnerBundleUserInfo :=
  { userInfo with bundleName := a.idKey, userId := a.userId }

/-- A user whose uids fit an `int32_t`, a name that starts with a letter, an index. -/
structure AppInstance.Valid (a : AppInstance) : Prop where
  user : 0 ≤ a.userId
  fits : a.userId * BASE_USER_RANGE + BASE_USER_RANGE - 1 ≤ INT32_MAX
  letter : ∃ c rest, a.bundleName = c :: rest ∧ c.isAlpha = true
  index : 0 ≤ a.appIndex

/-- The id table, with the instances whose id is in use and their uids. -/
structure LiveUids where
  ids : BundleIds
  live : List (AppInstance × Int)

inductive UidOp (β : Type) where
  | generate (access : ParamAccess) (a : AppInstance) (userInfo : InnerBundleUserInfo)
  | recycle (uninstalled : UninstallTable) (info : InnerBundleInfo β)

def UidOp.Valid : UidOp β → Prop
  | .generate _ a _ => a.Valid
  | .recycle _ _ => True

/-- A recycled id takes all its instances with it. -/
def LiveUids.step (base : BaseAppUid) (s : LiveUids) : UidOp β → LiveUids
  | .generate access a userInfo =>
    let called := generateUidAndGid base access s.ids (a.request userInfo)
    match called.1 with
    | .ok _ => ⟨called.2.2, (a, called.2.1.uid) :: s.live⟩
    | _ => ⟨called.2.2, s.live⟩
  | .recycle uninstalled info =>
    let ids := recycleUidAndGid uninstalled s.ids info
    ⟨ids, s.live.filter fun p => ids.bundleIdMap[bundleIdOf p.2 p.1.userId]?.isSome⟩

/-! ## Keys -/

theorem isDigit_of_mem_toDecimal {n : Int} (hn : 0 ≤ n) {c : Char} (hc : c ∈ toDecimal n) : c.isDigit = true := by
  rw [toDecimal_eq, if_pos hn] at hc
  exact Nat.isDigit_of_mem_toDigits (by decide) (by decide) hc

/-- What stands before the first underline splits a text in one way. -/
theorem underscore_append_inj {a a' t t' : Str} (ha : '_' ∉ a) (ha' : '_' ∉ a')
    (h : a ++ '_' :: t = a' ++ '_' :: t') : a = a' ∧ t = t' := by
  have hrev := congrArg List.reverse h
  simp only [List.reverse_append, List.reverse_cons, List.append_assoc, List.singleton_append] at hrev
  obtain ⟨ht, haa⟩ := append_separator_inj (by simpa using ha) (by simpa using ha') hrev
  exact ⟨List.reverse_injective haa, List.reverse_injective ht⟩

theorem getCloneBundleIdKey_injective {name name' : Str} {i i' : Int}
    (h : getCloneBundleIdKey name i = getCloneBundleIdKey name' i') : name = name' ∧ i = i' := by
  have split : ∀ (n : Str) (k : Int),
      getCloneBundleIdKey n k = (toDecimal k ++ CLONE_DIR_PATH_PREFIX) ++ '_' :: n := by
    intro n k
    simp [getCloneBundleIdKey, UNDER_LINE]
  have hfree : ∀ k : Int, '_' ∉ toDecimal k ++ CLONE_DIR_PATH_PREFIX := by
    intro k hmem
    rcases List.mem_append.mp hmem with hk | hk
    · exact underscore_not_mem_toDecimal k hk
    · revert hk
      decide
  rw [split, split] at h
  obtain ⟨hindex, hname⟩ := underscore_append_inj (hfree i) (hfree i') h
  exact ⟨hname, toDecimal_injective (List.append_cancel_right hindex)⟩

/-- A clone key starts with a digit. -/
theorem getCloneBundleIdKey_head {i : Int} (hi : 0 ≤ i) (name : Str) :
    ∃ c rest, getCloneBundleIdKey name i = c :: rest ∧ c.isDigit = true := by
  rcases hd : toDecimal i with _ | ⟨c, rest⟩
  · rw [toDecimal_eq, if_pos hi] at hd
    exact absurd hd Nat.toDigits_ne_nil
  · refine ⟨c, rest ++ CLONE_DIR_PATH_PREFIX ++ UNDER_LINE ++ name, ?_, ?_⟩
    · unfold getCloneBundleIdKey
      rw [hd]
      rfl
    · apply isDigit_of_mem_toDecimal hi
      rw [hd]
      exact List.mem_cons_self

theorem not_isDigit_of_isAlpha {c : Char} (h : c.isAlpha = true) : c.isDigit = false := by
  simp only [Char.isAlpha, Char.isUpper, Char.isLower, Char.isDigit, Bool.or_eq_true, Bool.and_eq_true,
    decide_eq_true_eq, ge_iff_le, UInt32.le_iff_toNat_le, Bool.and_eq_false_iff, decide_eq_false_iff_not] at h ⊢
  change (65 ≤ c.val.toNat ∧ c.val.toNat ≤ 90) ∨ (97 ≤ c.val.toNat ∧ c.val.toNat ≤ 122) at h
  change ¬ 48 ≤ c.val.toNat ∨ ¬ c.val.toNat ≤ 57
  omega

theorem getCloneBundleIdKey_ne {name name' : Str} {i : Int} (hi : 0 ≤ i)
    (hletter : ∃ c rest, name = c :: rest ∧ c.isAlpha = true) : getCloneBundleIdKey name' i ≠ name := by
  intro h
  obtain ⟨c, rest, hkey, hdigit⟩ := getCloneBundleIdKey_head hi name'
  obtain ⟨c', rest', hname, halpha⟩ := hletter
  rw [hkey, hname] at h
  obtain ⟨rfl, -⟩ := List.cons.inj h
  rw [not_isDigit_of_isAlpha halpha] at hdigit
  cases hdigit

/-- **One key per name and index.** -/
theorem AppInstance.Valid.idKey_injective {a b : AppInstance} (ha : a.Valid) (hb : b.Valid)
    (h : a.idKey = b.idKey) : a.bundleName = b.bundleName ∧ a.appIndex = b.appIndex := by
  have hia := ha.index
  have hib := hb.index
  unfold AppInstance.idKey at h
  by_cases hca : a.appIndex > 0 <;> by_cases hcb : b.appIndex > 0
  · rw [if_pos hca, if_pos hcb] at h
    exact getCloneBundleIdKey_injective h
  · rw [if_pos hca, if_neg hcb] at h
    exact absurd h (getCloneBundleIdKey_ne ha.index hb.letter)
  · rw [if_neg hca, if_pos hcb] at h
    exact absurd h.symm (getCloneBundleIdKey_ne hb.index ha.letter)
  · rw [if_neg hca, if_neg hcb] at h
    exact ⟨h, by omega⟩

theorem AppInstance.Valid.idKey_ne_nil {a : AppInstance} (ha : a.Valid) : a.idKey ≠ [] := by
  unfold AppInstance.idKey
  split
  · obtain ⟨c, rest, hkey, -⟩ := getCloneBundleIdKey_head ha.index a.bundleName
    rw [hkey]
    exact List.cons_ne_nil c rest
  · obtain ⟨c, rest, hname, -⟩ := ha.letter
    rw [hname]
    exact List.cons_ne_nil c rest

/-! ## Arithmetic -/

/-- The uid of user `u` and bundle id `id`. -/
def uidOf (u id : Int) : Int := u * BASE_USER_RANGE + id

theorem bundleIdOf_uidOf (u id : Int) : bundleIdOf (uidOf u id) u = id := by
  unfold bundleIdOf uidOf
  omega

theorem getUserIdByUid_uidOf {u id : Int} (hu : 0 ≤ u) (h0 : 0 ≤ id) (h1 : id < BASE_USER_RANGE) :
    getUserIdByUid (uidOf u id) = u := by
  unfold getUserIdByUid uidOf
  unfold BASE_USER_RANGE INVALID_UID at *
  rw [if_neg (by omega), Int.tdiv_eq_ediv_of_nonneg (by omega)]
  omega

/-- Bundle ids stay below the modulus. -/
theorem bundleId_bounds {base : BaseAppUid} {id : Int} (h1 : base.value ≤ id) (h2 : id ≤ MAX_APP_UID) :
    0 ≤ id ∧ id < BASE_USER_RANGE := by
  have hlower := base.lower
  unfold BASE_APP_UID MAX_APP_UID BASE_USER_RANGE at *
  omega

/-! ## One call -/

/-- The id a call returns is registered for its name. -/
theorem generateBundleId_registered {base : BaseAppUid} {access : ParamAccess} {ids : BundleIds} (h : ids.WF base)
    {bundleName : Str} {id : Int} (hok : (generateBundleId base access ids bundleName).1 = .ok id) :
    (generateBundleId base access ids bundleName).2.bundleIdMap[id]? = some bundleName := by
  rcases generateBundleId_cases base access ids h.cursor bundleName with
    ⟨k, hk, e⟩ | ⟨_, k, _, e⟩ | ⟨_, _, e⟩
  · rw [e] at hok ⊢
    obtain rfl := GenerateResult.ok.inj hok
    exact hk
  · rw [e] at hok ⊢
    obtain rfl := GenerateResult.ok.inj hok
    rw [allocate_bundleIdMap, MapLoop.getElem?_insert_eq, if_pos rfl]
  · rw [e] at hok
    cases hok

/-- **What a call returns**: the bundle id registered for the key, in the uid. -/
theorem generateUidAndGid_ok {base : BaseAppUid} {access : ParamAccess} {ids : BundleIds} (h : ids.WF base)
    {userInfo : InnerBundleUserInfo} {id : Int} (hok : (generateUidAndGid base access ids userInfo).1 = .ok id) :
    base.value ≤ id ∧ id ≤ MAX_APP_UID ∧
    (generateUidAndGid base access ids userInfo).2.1.uid = uidOf userInfo.userId id ∧
    (generateUidAndGid base access ids userInfo).2.2.bundleIdMap[id]? = some userInfo.bundleName := by
  unfold generateUidAndGid at hok ⊢
  split at hok
  · cases hok
  · next hname =>
    rw [if_neg hname]
    dsimp only at hok ⊢
    rcases hgen : (generateBundleId base access ids userInfo.bundleName).1 with k | _ | _ | _ <;> rw [hgen] at hok
    · obtain rfl := GenerateResult.ok.inj hok
      obtain ⟨h1, h2⟩ := generateBundleId_inRange h hgen
      obtain ⟨h0, hlt⟩ := bundleId_bounds h1 h2
      refine ⟨h1, h2, ?_, generateBundleId_registered h hgen⟩
      show userInfo.userId * BASE_USER_RANGE + k.tmod BASE_USER_RANGE = uidOf userInfo.userId k
      rw [Int.tmod_eq_of_lt h0 hlt]
      rfl
    · cases hok
    · cases hok
    · cases hok

theorem generateUidAndGid_table {base : BaseAppUid} {access : ParamAccess} {ids : BundleIds}
    {userInfo : InnerBundleUserInfo} (hname : userInfo.bundleName ≠ []) :
    (generateUidAndGid base access ids userInfo).2.2 = (generateBundleId base access ids userInfo.bundleName).2 := by
  unfold generateUidAndGid
  rw [if_neg (by simpa using hname)]
  dsimp only
  split <;> rfl

/-- Registered ids stay registered under their key. -/
theorem generateBundleId_keeps {base : BaseAppUid} {access : ParamAccess} {ids : BundleIds} {bundleName name : Str}
    {id : Int} (h : ids.bundleIdMap[id]? = some name) :
    (generateBundleId base access ids bundleName).2.bundleIdMap[id]? = some name := by
  rcases generateBundleId_table base access ids bundleName with e | ⟨k, hk, e⟩
  · rw [e]
    exact h
  · rw [e, MapLoop.getElem?_insert_eq, if_neg ?_]
    · exact h
    · rintro rfl
      rw [hk] at h
      cases h

/-! ## Runs -/

/-- Every live instance is valid, and its uid carries the id its key is registered under. -/
structure LiveUids.WF (base : BaseAppUid) (s : LiveUids) : Prop where
  ids : s.ids.WF base
  valid : ∀ p ∈ s.live, p.1.Valid
  registered : ∀ p ∈ s.live, ∃ id, s.ids.bundleIdMap[id]? = some p.1.idKey ∧ p.2 = uidOf p.1.userId id

theorem LiveUids.WF.generate {base : BaseAppUid} {s : LiveUids} (h : s.WF base) (access : ParamAccess)
    {a : AppInstance} (ha : a.Valid) (userInfo : InnerBundleUserInfo) :
    (s.step base (UidOp.generate access a userInfo : UidOp β)).WF base := by
  have hkey : (a.request userInfo).bundleName ≠ [] := ha.idKey_ne_nil
  have htable : (generateUidAndGid base access s.ids (a.request userInfo)).2.2 =
      (generateBundleId base access s.ids a.idKey).2 := generateUidAndGid_table hkey
  have hids : (generateUidAndGid base access s.ids (a.request userInfo)).2.2.WF base := by
    rw [htable]
    exact h.ids.generate access a.idKey
  have hold : ∀ p ∈ s.live, ∃ id,
      (generateUidAndGid base access s.ids (a.request userInfo)).2.2.bundleIdMap[id]? = some p.1.idKey ∧
      p.2 = uidOf p.1.userId id := by
    intro p hp
    obtain ⟨id, hid, huid⟩ := h.registered p hp
    rw [htable]
    exact ⟨id, generateBundleId_keeps hid, huid⟩
  unfold LiveUids.step
  dsimp only
  split
  · next id hok =>
    obtain ⟨-, -, huid, hreg⟩ := generateUidAndGid_ok h.ids hok
    refine ⟨hids, List.forall_mem_cons.mpr ⟨ha, h.valid⟩, List.forall_mem_cons.mpr ⟨⟨id, hreg, huid⟩, hold⟩⟩
  · exact ⟨hids, h.valid, hold⟩

theorem LiveUids.WF.recycle {base : BaseAppUid} {s : LiveUids} (h : s.WF base) (uninstalled : UninstallTable)
    (info : InnerBundleInfo β) : (s.step base (.recycle uninstalled info)).WF base where
  ids := h.ids.recycle uninstalled info
  valid p hp := h.valid p (List.mem_of_mem_filter hp)
  registered p hp := by
    obtain ⟨hmem, hsome⟩ := List.mem_filter.mp hp
    obtain ⟨id, hid, huid⟩ := h.registered p hmem
    rw [huid, bundleIdOf_uidOf] at hsome
    refine ⟨id, ?_, huid⟩
    show (recycleUidAndGid uninstalled s.ids info).bundleIdMap[id]? = some p.1.idKey
    rcases recycleUidAndGid_cases uninstalled s.ids info with e | ⟨k, -, -, e⟩
    · rw [e]
      exact hid
    · rw [e] at hsome ⊢
      dsimp only at hsome ⊢
      rw [MapLoop.getElem?_erase_eq] at hsome ⊢
      split
      · next hk =>
        rw [if_pos hk] at hsome
        cases hsome
      · exact hid

theorem LiveUids.WF.run {base : BaseAppUid} {s : LiveUids} (h : s.WF base) {ops : List (UidOp β)}
    (hops : ∀ op ∈ ops, op.Valid) : (ops.foldl (LiveUids.step base) s).WF base := by
  refine ((each_of_forall hops s).always ?_ h).last
  intro s op hs hop
  match op with
  | .generate access a userInfo => exact hs.generate access hop userInfo
  | .recycle uninstalled info => exact hs.recycle uninstalled info

/-- In a well formed state a uid belongs to one instance. -/
theorem LiveUids.WF.eq_of_uid_eq {base : BaseAppUid} {s : LiveUids} (h : s.WF base) {p p' : AppInstance × Int}
    (hp : p ∈ s.live) (hp' : p' ∈ s.live) (huid : p.2 = p'.2) : p.1 = p'.1 := by
  obtain ⟨id, hid, e⟩ := h.registered p hp
  obtain ⟨id', hid', e'⟩ := h.registered p' hp'
  have hv := h.valid p hp
  have hv' := h.valid p' hp'
  obtain ⟨h0, h1⟩ := bundleId_bounds (h.ids.inRange id _ hid).1 (h.ids.inRange id _ hid).2
  obtain ⟨h0', h1'⟩ := bundleId_bounds (h.ids.inRange id' _ hid').1 (h.ids.inRange id' _ hid').2
  have hu : p.1.userId = p'.1.userId := by
    calc p.1.userId = getUserIdByUid p.2 := by rw [e, getUserIdByUid_uidOf hv.user h0 h1]
      _ = getUserIdByUid p'.2 := by rw [huid]
      _ = p'.1.userId := by rw [e', getUserIdByUid_uidOf hv'.user h0' h1']
  have hids : id = id' := by
    rw [← bundleIdOf_uidOf p.1.userId id, ← bundleIdOf_uidOf p'.1.userId id', ← e, ← e', huid, hu]
  rw [hids, hid'] at hid
  obtain ⟨hname, hindex⟩ := hv'.idKey_injective hv (Option.some.inj hid)
  rcases p with ⟨⟨_, _, _⟩, _⟩
  rcases p' with ⟨⟨_, _, _⟩, _⟩
  simp_all

/-- **Uids identify user and bundle.**  After any run, every live uid is an `int32_t`, gives
back its user and a bundle id of the range; live instances that differ in user, name or index
have different uids; and so does the next call return. -/
theorem uid_identifies_instance (base : BaseAppUid) (s : LiveUids) (hs : s.WF base) (ops : List (UidOp β))
    (hops : ∀ op ∈ ops, op.Valid) :
    let st := ops.foldl (LiveUids.step base) s
    (∀ p ∈ st.live, getUserIdByUid p.2 = p.1.userId ∧ 0 ≤ p.2 ∧ p.2 ≤ INT32_MAX ∧
      base.value ≤ bundleIdOf p.2 p.1.userId ∧ bundleIdOf p.2 p.1.userId ≤ MAX_APP_UID) ∧
    (∀ p ∈ st.live, ∀ p' ∈ st.live,
      p.1.userId ≠ p'.1.userId ∨ p.1.bundleName ≠ p'.1.bundleName ∨ p.1.appIndex ≠ p'.1.appIndex → p.2 ≠ p'.2) ∧
    ∀ (access : ParamAccess) (a : AppInstance) (userInfo : InnerBundleUserInfo) (id : Int), a.Valid →
      let called := generateUidAndGid base access st.ids (a.request userInfo)
      called.1 = .ok id →
        getUserIdByUid called.2.1.uid = a.userId ∧ bundleIdOf called.2.1.uid a.userId = id ∧
        base.value ≤ id ∧ id ≤ MAX_APP_UID ∧ 0 ≤ called.2.1.uid ∧ called.2.1.uid ≤ INT32_MAX := by
  intro st
  have hst : st.WF base := hs.run hops
  -- user, bundle id and size of a uid
  have huid : ∀ (a : AppInstance) (id : Int), a.Valid → base.value ≤ id → id ≤ MAX_APP_UID →
      getUserIdByUid (uidOf a.userId id) = a.userId ∧ 0 ≤ uidOf a.userId id ∧ uidOf a.userId id ≤ INT32_MAX := by
    intro a id ha h1 h2
    obtain ⟨h0, hlt⟩ := bundleId_bounds h1 h2
    have huser := ha.user
    have hfits := ha.fits
    refine ⟨getUserIdByUid_uidOf ha.user h0 hlt, ?_, ?_⟩
    · unfold uidOf BASE_USER_RANGE at *
      omega
    · unfold uidOf
      omega
  refine ⟨?_, ?_, ?_⟩
  · intro p hp
    obtain ⟨id, hid, e⟩ := hst.registered p hp
    obtain ⟨h1, h2⟩ := hst.ids.inRange id _ hid
    obtain ⟨hu, hpos, hmax⟩ := huid p.1 id (hst.valid p hp) h1 h2
    rw [e, bundleIdOf_uidOf]
    exact ⟨hu, hpos, hmax, h1, h2⟩
  · intro p hp p' hp' hne heq
    have hsame := hst.eq_of_uid_eq hp hp' heq
    rw [hsame] at hne
    simp at hne
  · intro access a userInfo id ha called hok
    obtain ⟨h1, h2, e, -⟩ := generateUidAndGid_ok hst.ids hok
    have e' : called.2.1.uid = uidOf a.userId id := e
    obtain ⟨hu, hpos, hmax⟩ := huid a id ha h1 h2
    rw [e', bundleIdOf_uidOf]
    exact ⟨hu, rfl, h1, h2, hpos, hmax⟩

def freshIds : BundleIds := ⟨∅, 10000, ∅⟩

theorem freshIds_wf : freshIds.WF (.ofParameter 10000) where
  inRange id name h := by
    rw [show freshIds.bundleIdMap = ∅ from rfl, ExtTreeMap.getElem?_empty] at h
    cases h
  injective id id' name h := by
    rw [show freshIds.bundleIdMap = ∅ from rfl, ExtTreeMap.getElem?_empty] at h
    cases h
  cursor := by
    unfold BundleIds.CursorInRange
    decide

/-- An application, its clone, another application of the largest user, and the first one
uninstalled. -/
def threeInstances : List (UidOp Unit) :=
  let userInfo : InnerBundleUserInfo := ⟨[], 0, 0, [], ∅⟩
  [.generate ⟨true, true⟩ ⟨100, ['a'], 0⟩ userInfo, .generate ⟨true, true⟩ ⟨100, ['a'], 1⟩ userInfo,
    .generate ⟨true, true⟩ ⟨10736, ['b'], 0⟩ userInfo, .recycle ∅ (.withBundleId ['a'] false 10000)]

theorem threeInstances_valid : ∀ op ∈ threeInstances, op.Valid := by
  simp only [threeInstances, List.forall_mem_cons, UidOp.Valid]
  refine ⟨⟨by decide, by decide, ⟨_, _, rfl, by decide⟩, by decide⟩, ⟨by decide, by decide, ⟨_, _, rfl, by decide⟩,
    by decide⟩, ⟨by decide, by decide, ⟨_, _, rfl, by decide⟩, by decide⟩, trivial, by simp⟩

/-- The theorem at this run: the clone and the other application are left. -/
theorem uid_identifies_threeInstances :
    (threeInstances.foldl (LiveUids.step (.ofParameter 10000)) ⟨freshIds, []⟩).live =
      [(⟨10736, ['b'], 0⟩, 2147210002), (⟨100, ['a'], 1⟩, 20010001)] ∧
    ∀ p ∈ (threeInstances.foldl (LiveUids.step (.ofParameter 10000)) ⟨freshIds, []⟩).live,
      getUserIdByUid p.2 = p.1.userId := by
  refine ⟨by decide +kernel, fun p hp => ?_⟩
  exact ((uid_identifies_instance (.ofParameter 10000) ⟨freshIds, []⟩
    ⟨freshIds_wf, by simp, by simp⟩ threeInstances threeInstances_valid).1 p hp).1

end BundleFramework
