import BundleFramework.Lib.LeastFree
import BundleFramework.Overlay.ModuleState

/-!
# The indexes of clone apps

A clone of an app is installed for one user under an index: `VerifyAndAckCloneAppIndex` takes
the index of the request, or finds the least free one for a request with index 0, and
`AddCloneBundle` stores a record under the text of the index.  The first function checks the
maximum of the app (`multiAppMode.maxCount`) and that of the device (`GetCloneMaxCount`, a
system parameter that is read once), the second one only that of the device.
-/

namespace BundleFramework.CloneIndex

open Overlay

/-! ## Records -/

inductive ErrCode where
  | ERR_OK
  | ERR_APPEXECFWK_CLONE_INSTALL_USER_NOT_EXIST
  | ERR_APPEXECFWK_CLONE_INSTALL_INVALID_APP_INDEX
  | ERR_APPEXECFWK_CLONE_INSTALL_APP_INDEX_EXISTED
  | ERR_APPEXECFWK_CLONE_INSTALL_APP_NOT_SUPPORTED_MULTI_TYPE
  | ERR_APPEXECFWK_CLONE_INSTALL_APP_INDEX_EXCEED_MAX_NUMBER
  deriving DecidableEq

inductive MultiAppModeType where
  | UNSPECIFIED
  | MULTI_INSTANCE
  | APP_CLONE
  deriving DecidableEq

def CLONE_APP_INDEX_MIN : Int := 1

/-- The fields that `AddCloneBundle` reads or writes. -/
structure InnerBundleCloneInfo where
  userId : Int
  appIndex : Int
  enabled : Bool := true
  disabledAbilities : List Str := []
  accessTokenId : UInt32 := 0
  accessTokenIdEx : UInt64 := 0
  uid : Int := 0
  gids : List Int := []
  installTime : Int := 0
  deriving DecidableEq

structure BundleUserInfo where
  enabled : Bool := true
  disabledAbilities : List Str := []

structure InnerBundleUserInfo where
  bundleUserInfo : BundleUserInfo := {}
  cloneInfos : StrMap InnerBundleCloneInfo := ∅

structure MultiAppModeData where
  multiAppModeType : MultiAppModeType := .UNSPECIFIED
  maxCount : Int := 0

structure InnerBundleInfo where
  bundleName : Str
  multiAppMode : MultiAppModeData := {}
  innerBundleUserInfos : StrMap InnerBundleUserInfo := ∅

def appIndexToKey (appIndex : Int) : Str := toDecimal appIndex

namespace InnerBundleInfo

variable (info : InnerBundleInfo)

def userKey (userId : Int) : Str := nameAndUserIdToKey info.bundleName userId

def user? (userId : Int) : Option InnerBundleUserInfo := info.innerBundleUserInfos[info.userKey userId]?

/-- The user's table of clones is changed in place. -/
def setClones (userId : Int) (user : InnerBundleUserInfo) (cloneInfos : StrMap InnerBundleCloneInfo) : InnerBundleInfo :=
  { info with innerBundleUserInfos := info.innerBundleUserInfos.insert (info.userKey userId) { user with cloneInfos } }

/-! ## Algorithm

`cloneMaxCount` is what `GetCloneMaxCount` gives. -/

variable (cloneMaxCount : Int)

/-- The record of a new clone. -/
def cloneInfoOf (userInfo : InnerBundleUserInfo) (attr : InnerBundleCloneInfo) (now : Int) : InnerBundleCloneInfo where
  userId := attr.userId
  appIndex := attr.appIndex
  -- copy from user
  enabled := userInfo.bundleUserInfo.enabled
  disabledAbilities := userInfo.bundleUserInfo.disabledAbilities
  accessTokenId := attr.accessTokenId
  accessTokenIdEx := attr.accessTokenIdEx
  uid := attr.uid
  gids := attr.gids
  installTime := now

/-- `now` is the time of the call. -/
def addCloneBundle (attr : InnerBundleCloneInfo) (now : Int) : ErrCode × InnerBundleInfo :=
  match info.user? attr.userId with
  | none => (.ERR_APPEXECFWK_CLONE_INSTALL_USER_NOT_EXIST, info)
  | some userInfo =>
    if attr.appIndex < CLONE_APP_INDEX_MIN ∨ attr.appIndex > cloneMaxCount then
      (.ERR_APPEXECFWK_CLONE_INSTALL_INVALID_APP_INDEX, info)
    else if userInfo.cloneInfos.contains (appIndexToKey attr.appIndex) then
      (.ERR_APPEXECFWK_CLONE_INSTALL_APP_INDEX_EXISTED, info)
    else
      (.ERR_OK, info.setClones attr.userId userInfo
        (userInfo.cloneInfos.insert (appIndexToKey attr.appIndex) (cloneInfoOf userInfo attr now)))

def removeCloneBundle (userId appIndex : Int) : ErrCode × InnerBundleInfo :=
  match info.user? userId with
  | none => (.ERR_APPEXECFWK_CLONE_INSTALL_USER_NOT_EXIST, info)
  | some userInfo =>
    if appIndex < CLONE_APP_INDEX_MIN ∨ appIndex > cloneMaxCount then
      (.ERR_APPEXECFWK_CLONE_INSTALL_INVALID_APP_INDEX, info)
    else if userInfo.cloneInfos.contains (appIndexToKey appIndex) then
      (.ERR_OK, info.setClones userId userInfo (userInfo.cloneInfos.erase (appIndexToKey appIndex)))
    else (.ERR_OK, info)

/-- The loop over the candidates, for at most `fuel` of them. -/
def candidateLoop (userInfo : InnerBundleUserInfo) (fuel : Nat) : Option Int :=
  LeastFree.search (fun candidate => userInfo.cloneInfos.contains (appIndexToKey candidate)) fuel 1

/-- The error code and the index, which stays 0 if the user is not there. -/
def getAvailableCloneAppIndex (userId : Int) : ErrCode × Int :=
  match info.user? userId with
  | none => (.ERR_APPEXECFWK_CLONE_INSTALL_USER_NOT_EXIST, 0)
  | some userInfo => (.ERR_OK, (candidateLoop userInfo (userInfo.cloneInfos.size + 1)).getD 0)

/-- The error code and whether there is such a clone. -/
def isCloneAppIndexExisted (userId appIndex : Int) : ErrCode × Bool :=
  match info.user? userId with
  | none => (.ERR_APPEXECFWK_CLONE_INSTALL_USER_NOT_EXIST, false)
  | some userInfo => (.ERR_OK, userInfo.cloneInfos.contains (appIndexToKey appIndex))

/-- The last check, of the index that is going to be acknowledged. -/
def checkMaxCount (appIndex : Int) : ErrCode :=
  let maxCount := min info.multiAppMode.maxCount cloneMaxCount
  if appIndex > maxCount then .ERR_APPEXECFWK_CLONE_INSTALL_APP_INDEX_EXCEED_MAX_NUMBER else .ERR_OK

/-- The error code and the acknowledged index. -/
def verifyAndAckCloneAppIndex (userId appIndex : Int) : ErrCode × Int :=
  if info.multiAppMode.multiAppModeType ≠ .APP_CLONE then
    (.ERR_APPEXECFWK_CLONE_INSTALL_APP_NOT_SUPPORTED_MULTI_TYPE, appIndex)
  else if appIndex < 0 then (.ERR_APPEXECFWK_CLONE_INSTALL_INVALID_APP_INDEX, appIndex)
  else if appIndex = 0 then
    let (availableRes, appIndex) := info.getAvailableCloneAppIndex userId
    if availableRes ≠ .ERR_OK then (availableRes, appIndex)
    else (info.checkMaxCount cloneMaxCount appIndex, appIndex)
  else
    let (isExistedRes, found) := info.isCloneAppIndexExisted userId appIndex
    if isExistedRes ≠ .ERR_OK then (isExistedRes, appIndex)
    else if found then (.ERR_APPEXECFWK_CLONE_INSTALL_APP_INDEX_EXISTED, appIndex)
    else (info.checkMaxCount cloneMaxCount appIndex, appIndex)

end InnerBundleInfo

/-! ## Runs -/

inductive CloneOp where
  /-- `VerifyAndAckCloneAppIndex`, then `AddCloneBundle` with the acknowledged index; `attr` is
  asked for its other fields only. -/
  | install (userId appIndex : Int) (attr : InnerBundleCloneInfo) (now : Int)
  | remove (userId appIndex : Int)

def CloneOp.userId : CloneOp → Int
  | install userId .. => userId
  | remove userId _ => userId

def InnerBundleInfo.step (cloneMaxCount : Int) (info : InnerBundleInfo) : CloneOp → ErrCode × InnerBundleInfo
  | .install userId appIndex attr now =>
    let (ackRes, appIndex) := info.verifyAndAckCloneAppIndex cloneMaxCount userId appIndex
    if ackRes ≠ .ERR_OK then (ackRes, info)
    else info.addCloneBundle cloneMaxCount { attr with userId, appIndex } now
  | .remove userId appIndex => info.removeCloneBundle cloneMaxCount userId appIndex

def InnerBundleInfo.run (cloneMaxCount : Int) (info : InnerBundleInfo) (ops : List CloneOp) : InnerBundleInfo :=
  ops.foldl (fun info op => (info.step cloneMaxCount op).2) info

/-! ## What is to hold -/

def InnerBundleInfo.maxIndex (info : InnerBundleInfo) (cloneMaxCount : Int) : Int :=
  min info.multiAppMode.maxCount cloneMaxCount

def InnerBundleUserInfo.Free (user : InnerBundleUserInfo) (appIndex : Int) : Prop :=
  user.cloneInfos.contains (appIndexToKey appIndex) = false

/-- The indexes of the clones of a user. -/
def InnerBundleUserInfo.liveIndexes (user : InnerBundleUserInfo) : List Int :=
  user.cloneInfos.toList.map fun entry => entry.2.appIndex

/-- `clone` belongs under `key` for the user, and its index is within the maximum. -/
structure Placed (userId maxIndex : Int) (key : Str) (clone : InnerBundleCloneInfo) : Prop where
  key : key = appIndexToKey clone.appIndex
  user : clone.userId = userId
  pos : 1 ≤ clone.appIndex
  le : clone.appIndex ≤ maxIndex

def CloneInv (cloneMaxCount : Int) (info : InnerBundleInfo) : Prop :=
  ∀ userId user, info.user? userId = some user → ∀ (key : Str) (clone : InnerBundleCloneInfo),
    user.cloneInfos[key]? = some clone → Placed userId (info.maxIndex cloneMaxCount) key clone

/-! ## What an operation does -/

variable {cloneMaxCount : Int} {info : InnerBundleInfo}

theorem user?_setClones (userId : Int) (user : InnerBundleUserInfo) (cloneInfos : StrMap InnerBundleCloneInfo)
    (other : Int) :
    (info.setClones userId user cloneInfos).user? other =
      if other = userId then some { user with cloneInfos } else info.user? other := by
  unfold InnerBundleInfo.user? InnerBundleInfo.setClones
  show (info.innerBundleUserInfos.insert (info.userKey userId) _)[info.userKey other]? = _
  rw [MapLoop.getElem?_insert_eq]
  by_cases h : other = userId
  · rw [if_pos h, if_pos (by rw [h])]
  · have hkey : info.userKey other ≠ info.userKey userId := fun e => h (nameAndUserIdToKey_injective _ e)
    rw [if_neg h, if_neg hkey]

/-- **The search** for a clone index ends with the least free one. -/
theorem candidateLoop_spec (user : InnerBundleUserInfo) :
    ∃ least, IsLeast {i | 1 ≤ i ∧ user.Free i} least ∧
      ∀ fuel, user.cloneInfos.size < fuel → InnerBundleInfo.candidateLoop user fuel = some least := by
  let taken : Finset Int := user.cloneInfos.keys.toFinset.preimage appIndexToKey toDecimal_injective.injOn
  have htaken : ∀ i, user.cloneInfos.contains (appIndexToKey i) = true → i ∈ taken := by
    intro i hi
    refine Finset.mem_preimage.mpr (List.mem_toFinset.mpr ?_)
    rw [Std.ExtTreeMap.mem_keys]
    exact Std.ExtTreeMap.contains_iff_mem.mp hi
  have hcard : taken.card ≤ user.cloneInfos.size := by
    calc taken.card ≤ user.cloneInfos.keys.toFinset.card :=
          Finset.card_le_card_of_injOn appIndexToKey (fun i hi => Finset.mem_preimage.mp hi) toDecimal_injective.injOn
      _ ≤ user.cloneInfos.keys.length := List.toFinset_card_le _
      _ = user.cloneInfos.size := Std.ExtTreeMap.length_keys
  obtain ⟨least, -, hleast⟩ := LeastFree.search_spec htaken (Nat.lt_succ_self taken.card) 1
  refine ⟨least, hleast, fun fuel hfuel => ?_⟩
  obtain ⟨i, hi, hmin⟩ := LeastFree.search_spec htaken (Nat.lt_of_le_of_lt hcard hfuel) 1
  exact hi.trans (congrArg some (hmin.unique hleast))

theorem verify_of_zero {userId : Int} {user : InnerBundleUserInfo} (huser : info.user? userId = some user)
    (htype : info.multiAppMode.multiAppModeType = .APP_CLONE) {least : Int}
    (hleast : InnerBundleInfo.candidateLoop user (user.cloneInfos.size + 1) = some least) :
    info.verifyAndAckCloneAppIndex cloneMaxCount userId 0 = (info.checkMaxCount cloneMaxCount least, least) := by
  simp [InnerBundleInfo.verifyAndAckCloneAppIndex, InnerBundleInfo.getAvailableCloneAppIndex, htype, huser, hleast]

theorem verify_of_pos {userId appIndex : Int} {user : InnerBundleUserInfo} (huser : info.user? userId = some user)
    (htype : info.multiAppMode.multiAppModeType = .APP_CLONE) (hpos : 0 < appIndex) :
    info.verifyAndAckCloneAppIndex cloneMaxCount userId appIndex =
      (if user.cloneInfos.contains (appIndexToKey appIndex) then .ERR_APPEXECFWK_CLONE_INSTALL_APP_INDEX_EXISTED
        else info.checkMaxCount cloneMaxCount appIndex, appIndex) := by
  have hneg : ¬ appIndex < 0 := by omega
  have hzero : appIndex ≠ 0 := by omega
  simp only [InnerBundleInfo.verifyAndAckCloneAppIndex, InnerBundleInfo.isCloneAppIndexExisted, htype, huser]
  rw [if_neg (by simp), if_neg hneg, if_neg hzero, if_neg (by simp)]
  split <;> rfl

theorem checkMaxCount_ok_iff (appIndex : Int) :
    info.checkMaxCount cloneMaxCount appIndex = .ERR_OK ↔ appIndex ≤ info.maxIndex cloneMaxCount := by
  unfold InnerBundleInfo.checkMaxCount InnerBundleInfo.maxIndex
  dsimp only
  split
  · next h =>
    constructor
    · intro e
      cases e
    · intro hle
      omega
  · next h =>
    refine ⟨fun _ => ?_, fun _ => rfl⟩
    omega

/-- **An acknowledged index** is free, for a user that is there, and within both maxima. -/
theorem verify_ok {userId appIndex acked : Int}
    (h : info.verifyAndAckCloneAppIndex cloneMaxCount userId appIndex = (.ERR_OK, acked)) :
    ∃ user, info.user? userId = some user ∧ user.Free acked ∧ 1 ≤ acked ∧ acked ≤ info.maxIndex cloneMaxCount := by
  have htype : info.multiAppMode.multiAppModeType = .APP_CLONE := by
    by_contra hne
    rw [InnerBundleInfo.verifyAndAckCloneAppIndex, if_pos hne] at h
    cases h
  have hsign : ¬ appIndex < 0 := by
    intro hlt
    rw [InnerBundleInfo.verifyAndAckCloneAppIndex, if_neg (by simp [htype]), if_pos hlt] at h
    cases h
  cases huser : info.user? userId with
  | none =>
    rw [InnerBundleInfo.verifyAndAckCloneAppIndex, if_neg (by simp [htype]), if_neg hsign] at h
    split at h
    · simp [InnerBundleInfo.getAvailableCloneAppIndex, huser] at h
    · simp [InnerBundleInfo.isCloneAppIndexExisted, huser] at h
  | some user =>
    refine ⟨user, rfl, ?_⟩
    by_cases hzero : appIndex = 0
    · subst hzero
      obtain ⟨least, hleast, hloop⟩ := candidateLoop_spec user
      rw [verify_of_zero huser htype (hloop _ (Nat.lt_succ_self _)), Prod.mk.injEq, checkMaxCount_ok_iff] at h
      obtain ⟨hmax, rfl⟩ := h
      exact ⟨hleast.1.2, hleast.1.1, hmax⟩
    · rw [verify_of_pos huser htype (by omega), Prod.mk.injEq] at h
      obtain ⟨hres, rfl⟩ := h
      split at hres
      · cases hres
      · next hfree =>
        exact ⟨Bool.eq_false_of_not_eq_true hfree, by omega, (checkMaxCount_ok_iff _).mp hres⟩

theorem addCloneBundle_of_free (attr : InnerBundleCloneInfo) {user : InnerBundleUserInfo}
    (huser : info.user? attr.userId = some user) (hfree : user.Free attr.appIndex) (hpos : 1 ≤ attr.appIndex)
    (hmax : attr.appIndex ≤ info.maxIndex cloneMaxCount) (now : Int) :
    info.addCloneBundle cloneMaxCount attr now =
      (.ERR_OK, info.setClones attr.userId user
        (user.cloneInfos.insert (appIndexToKey attr.appIndex) (InnerBundleInfo.cloneInfoOf user attr now))) := by
  -- the maximum of the device is not below that of the app
  have hrange : ¬ (attr.appIndex < CLONE_APP_INDEX_MIN ∨ attr.appIndex > cloneMaxCount) := by
    unfold CLONE_APP_INDEX_MIN
    unfold InnerBundleInfo.maxIndex at hmax
    omega
  have hno : ¬ user.cloneInfos.contains (appIndexToKey attr.appIndex) = true := by
    rw [hfree]
    exact Bool.false_ne_true
  rw [InnerBundleInfo.addCloneBundle, huser]
  dsimp only
  rw [if_neg hrange, if_neg hno]

theorem addCloneBundle_failed {attr : InnerBundleCloneInfo} {now : Int}
    (h : (info.addCloneBundle cloneMaxCount attr now).1 ≠ .ERR_OK) :
    (info.addCloneBundle cloneMaxCount attr now).2 = info := by
  unfold InnerBundleInfo.addCloneBundle at h ⊢
  cases huser : info.user? attr.userId with
  | none => rfl
  | some user =>
    rw [huser] at h
    dsimp only at h ⊢
    split
    · rfl
    · next hrange =>
      rw [if_neg hrange] at h
      split
      · rfl
      · next hno =>
        rw [if_neg hno] at h
        exact absurd rfl h

theorem step_of_ack {userId appIndex acked now : Int} {attr : InnerBundleCloneInfo}
    (h : info.verifyAndAckCloneAppIndex cloneMaxCount userId appIndex = (.ERR_OK, acked)) :
    info.step cloneMaxCount (.install userId appIndex attr now) =
      info.addCloneBundle cloneMaxCount { attr with userId := userId, appIndex := acked } now := by
  simp [InnerBundleInfo.step, h]

theorem step_of_refused {userId appIndex acked now : Int} {attr : InnerBundleCloneInfo} {res : ErrCode}
    (h : info.verifyAndAckCloneAppIndex cloneMaxCount userId appIndex = (res, acked)) (hres : res ≠ .ERR_OK) :
    info.step cloneMaxCount (.install userId appIndex attr now) = (res, info) := by
  simp [InnerBundleInfo.step, h, hres]

/-- **What a step can do**: fail, do nothing, store one clone or erase one, of its own user. -/
theorem step_cases (info : InnerBundleInfo) (op : CloneOp) :
    ((info.step cloneMaxCount op).1 ≠ .ERR_OK ∧ (info.step cloneMaxCount op).2 = info) ∨
    info.step cloneMaxCount op = (.ERR_OK, info) ∨
    ∃ user, info.user? op.userId = some user ∧
      ((∃ clone : InnerBundleCloneInfo, clone.userId = op.userId ∧ user.Free clone.appIndex ∧ 1 ≤ clone.appIndex ∧
          clone.appIndex ≤ info.maxIndex cloneMaxCount ∧
          info.step cloneMaxCount op =
            (.ERR_OK, info.setClones op.userId user (user.cloneInfos.insert (appIndexToKey clone.appIndex) clone))) ∨
        ∃ appIndex, info.step cloneMaxCount op =
          (.ERR_OK, info.setClones op.userId user (user.cloneInfos.erase (appIndexToKey appIndex)))) := by
  cases op with
  | install userId appIndex attr now =>
    rcases hverify : info.verifyAndAckCloneAppIndex cloneMaxCount userId appIndex with ⟨res, acked⟩
    by_cases hres : res = .ERR_OK
    · subst hres
      obtain ⟨user, huser, hfree, hpos, hmax⟩ := verify_ok hverify
      let acknowledged : InnerBundleCloneInfo := { attr with userId := userId, appIndex := acked }
      have hadd := addCloneBundle_of_free acknowledged huser hfree hpos hmax now
      rw [step_of_ack hverify]
      exact .inr (.inr ⟨user, huser,
        .inl ⟨InnerBundleInfo.cloneInfoOf user acknowledged now, rfl, hfree, hpos, hmax, hadd⟩⟩)
    · rw [step_of_refused hverify hres]
      exact .inl ⟨hres, rfl⟩
  | remove userId appIndex =>
    rw [InnerBundleInfo.step, InnerBundleInfo.removeCloneBundle]
    cases huser : info.user? userId with
    | none => exact .inl ⟨by simp, rfl⟩
    | some user =>
      dsimp only
      split
      · exact .inl ⟨by simp, rfl⟩
      · split
        · exact .inr (.inr ⟨user, huser, .inr ⟨appIndex, rfl⟩⟩)
        · exact .inr (.inl rfl)

/-! ## Runs keep the indexes apart -/

theorem CloneInv.setClones (h : CloneInv cloneMaxCount info) {userId : Int} {user : InnerBundleUserInfo}
    {cloneInfos : StrMap InnerBundleCloneInfo}
    (hclones : ∀ (key : Str) (clone : InnerBundleCloneInfo), cloneInfos[key]? = some clone →
      Placed userId (info.maxIndex cloneMaxCount) key clone) :
    CloneInv cloneMaxCount (info.setClones userId user cloneInfos) := by
  intro other user' huser' key clone hclone
  rw [user?_setClones] at huser'
  split at huser'
  · next heq =>
    cases huser'
    subst heq
    exact hclones key clone hclone
  · exact h other user' huser' key clone hclone

theorem CloneInv.step (h : CloneInv cloneMaxCount info) (op : CloneOp) :
    CloneInv cloneMaxCount (info.step cloneMaxCount op).2 := by
  rcases step_cases info op with ⟨-, hstep⟩ | hstep | ⟨user, huser, ⟨clone, hid, -, hpos, hmax, hstep⟩ | ⟨index, hstep⟩⟩
  · rw [hstep]
    exact h
  · rw [hstep]
    exact h
  · rw [hstep]
    refine h.setClones fun key stored hstored => ?_
    rw [MapLoop.getElem?_insert_eq] at hstored
    split at hstored
    · next hkey =>
      cases hstored
      exact ⟨hkey, hid, hpos, hmax⟩
    · exact h _ user huser key stored hstored
  · rw [hstep]
    refine h.setClones fun key stored hstored => ?_
    rw [MapLoop.getElem?_erase_eq] at hstored
    split at hstored
    · cases hstored
    · exact h _ user huser key stored hstored

theorem step_user?_of_ne (info : InnerBundleInfo) {op : CloneOp} {userId : Int} (hne : userId ≠ op.userId) :
    (info.step cloneMaxCount op).2.user? userId = info.user? userId := by
  rcases step_cases info op with ⟨-, hstep⟩ | hstep | ⟨user, -, ⟨clone, -, -, -, -, hstep⟩ | ⟨index, hstep⟩⟩
  · rw [hstep]
  · rw [hstep]
  · rw [hstep, user?_setClones, if_neg hne]
  · rw [hstep, user?_setClones, if_neg hne]

theorem step_multiAppMode (info : InnerBundleInfo) (op : CloneOp) :
    (info.step cloneMaxCount op).2.multiAppMode = info.multiAppMode := by
  rcases step_cases info op with ⟨-, hstep⟩ | hstep | ⟨user, -, ⟨clone, -, -, -, -, hstep⟩ | ⟨index, hstep⟩⟩ <;>
    rw [hstep] <;> rfl

theorem CloneInv.run (h : CloneInv cloneMaxCount info) (ops : List CloneOp) :
    CloneInv cloneMaxCount (info.run cloneMaxCount ops) ∧
      (info.run cloneMaxCount ops).multiAppMode = info.multiAppMode := by
  induction ops generalizing info with
  | nil => exact ⟨h, rfl⟩
  | cons op ops ih =>
    obtain ⟨hinv, hmode⟩ := ih (h.step op)
    exact ⟨hinv, hmode.trans (step_multiAppMode info op)⟩

/-- Under the invariant the keys tell the indexes apart. -/
theorem CloneInv.nodup (h : CloneInv cloneMaxCount info) {userId : Int} {user : InnerBundleUserInfo}
    (huser : info.user? userId = some user) : user.liveIndexes.Nodup := by
  unfold InnerBundleUserInfo.liveIndexes
  rw [List.Nodup, List.pairwise_map]
  refine (MapLoop.toList_distinct user.cloneInfos).imp_of_mem ?_
  intro a b ha hb hne heq
  rw [Std.ExtTreeMap.mem_toList_iff_getElem?_eq_some] at ha hb
  have hkey := (h userId user huser a.1 a.2 ha).key
  have hkey' := (h userId user huser b.1 b.2 hb).key
  exact hne (by rw [hkey, hkey', heq])

/-- **Clone indexes.**  In every state of a run the indexes of a user are apart, within the
maximum and where their keys say; the next request with index 0 is acknowledged with the least
free index, one with a free index within the maximum with that index, and what is acknowledged
is stored; an error changes nothing, and no operation changes the clones of another user. -/
theorem clone_indexes (h : CloneInv cloneMaxCount info) (ops : List CloneOp) :
    let state := info.run cloneMaxCount ops
    let maxIndex := min info.multiAppMode.maxCount cloneMaxCount
    (∀ userId user, state.user? userId = some user →
      user.liveIndexes.Nodup ∧
      (∀ (key : Str) (clone : InnerBundleCloneInfo), user.cloneInfos[key]? = some clone →
        key = appIndexToKey clone.appIndex ∧ clone.userId = userId ∧ 1 ≤ clone.appIndex ∧ clone.appIndex ≤ maxIndex) ∧
      (info.multiAppMode.multiAppModeType = .APP_CLONE →
        (∃ least, IsLeast {i | 1 ≤ i ∧ user.Free i} least ∧
          (∀ fuel, user.cloneInfos.size < fuel → InnerBundleInfo.candidateLoop user fuel = some least) ∧
          (state.verifyAndAckCloneAppIndex cloneMaxCount userId 0).2 = least ∧
          ((state.verifyAndAckCloneAppIndex cloneMaxCount userId 0).1 ≠ .ERR_OK ↔ maxIndex < least)) ∧
        ∀ appIndex, 1 ≤ appIndex → appIndex ≤ maxIndex → user.Free appIndex →
          state.verifyAndAckCloneAppIndex cloneMaxCount userId appIndex = (.ERR_OK, appIndex))) ∧
    (∀ (userId appIndex acked : Int) (attr : InnerBundleCloneInfo) (now : Int),
      state.verifyAndAckCloneAppIndex cloneMaxCount userId appIndex = (.ERR_OK, acked) →
        (state.addCloneBundle cloneMaxCount { attr with userId := userId, appIndex := acked } now).1 = .ERR_OK) ∧
    (∀ op, (state.step cloneMaxCount op).1 ≠ .ERR_OK → (state.step cloneMaxCount op).2 = state) ∧
    (∀ attr now, (state.addCloneBundle cloneMaxCount attr now).1 ≠ .ERR_OK →
      (state.addCloneBundle cloneMaxCount attr now).2 = state) ∧
    ∀ op userId, userId ≠ op.userId → (state.step cloneMaxCount op).2.user? userId = state.user? userId := by
  intro state maxIndex
  obtain ⟨hinv, hmode⟩ := h.run ops
  have hmax : state.maxIndex cloneMaxCount = maxIndex := by
    show min state.multiAppMode.maxCount cloneMaxCount = _
    rw [hmode]
  refine ⟨fun userId user huser => ⟨hinv.nodup huser, ?_, ?_⟩, ?_, ?_, fun attr now => addCloneBundle_failed,
    fun op userId hne => step_user?_of_ne state hne⟩
  · intro key clone hclone
    have hplaced := hinv userId user huser key clone hclone
    exact ⟨hplaced.key, hplaced.user, hplaced.pos, hmax ▸ hplaced.le⟩
  · intro htype
    have htype' : state.multiAppMode.multiAppModeType = .APP_CLONE := by rw [hmode, htype]
    constructor
    · obtain ⟨least, hleast, hloop⟩ := candidateLoop_spec user
      have hverify : state.verifyAndAckCloneAppIndex cloneMaxCount userId 0 = _ :=
        verify_of_zero huser htype' (hloop _ (Nat.lt_succ_self _))
      refine ⟨least, hleast, hloop, by rw [hverify], ?_⟩
      rw [hverify, Ne, checkMaxCount_ok_iff, hmax, not_le]
    · intro appIndex hpos hle hfree
      rw [verify_of_pos huser htype' hpos, if_neg (by rw [hfree]; exact Bool.false_ne_true),
        (checkMaxCount_ok_iff appIndex).mpr (hmax ▸ hle)]
  · intro userId appIndex acked attr now hverify
    obtain ⟨user, huser, hfree, hpos, hle⟩ := verify_ok hverify
    let acknowledged : InnerBundleCloneInfo := { attr with userId := userId, appIndex := acked }
    have hadd := addCloneBundle_of_free acknowledged huser hfree hpos hle now
    exact congrArg Prod.fst hadd
  · intro op hfail
    rcases step_cases state op with ⟨-, hstep⟩ | hstep | ⟨user, -, ⟨clone, -, -, -, -, hstep⟩ | ⟨index, hstep⟩⟩
    · exact hstep
    all_goals exact absurd (congrArg Prod.fst hstep) hfail

/-- Two users, no clones yet, at most two of them. -/
def twoUsers : InnerBundleInfo where
  bundleName := ['b']
  multiAppMode := { multiAppModeType := .APP_CLONE, maxCount := 2 }
  innerBundleUserInfos :=
    ((∅ : StrMap InnerBundleUserInfo).insert (nameAndUserIdToKey ['b'] 100) {}).insert (nameAndUserIdToKey ['b'] 101) {}

/-- Index 2 for the one user, then the least free one, then a third clone, and one for the other user. -/
def fourInstalls : List CloneOp :=
  [.install 100 2 { userId := 0, appIndex := 0 } 7, .install 100 0 { userId := 0, appIndex := 0 } 8,
    .install 100 0 { userId := 0, appIndex := 0 } 9, .install 101 0 { userId := 0, appIndex := 0 } 9]

theorem twoUsers_inv : CloneInv 5 twoUsers := by
  intro userId user huser key clone hclone
  unfold InnerBundleInfo.user? twoUsers at huser
  dsimp only at huser
  rw [MapLoop.getElem?_insert_eq, MapLoop.getElem?_insert_eq] at huser
  have hempty : user.cloneInfos = ∅ := by
    split at huser
    · cases huser
      rfl
    · split at huser
      · cases huser
        rfl
      · simp at huser
  simp [hempty] at hclone

theorem clone_indexes_fourInstalls :
    CloneInv 5 twoUsers ∧
    ((twoUsers.run 5 fourInstalls).user? 100).map (·.liveIndexes) = some [1, 2] ∧
    ((twoUsers.run 5 fourInstalls).user? 101).map (·.liveIndexes) = some [1] ∧
    ∀ op userId, userId ≠ op.userId →
      ((twoUsers.run 5 fourInstalls).step 5 op).2.user? userId = (twoUsers.run 5 fourInstalls).user? userId :=
  ⟨twoUsers_inv, by decide +kernel, by decide +kernel, (clone_indexes twoUsers_inv fourInstalls).2.2.2.2⟩

end BundleFramework.CloneIndex
