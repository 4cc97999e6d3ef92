import BundleFramework.Clone.Installer

/-!
# What a call of the clone installer does

`install_cases` and `uninstall_cases` say what a call leaves in terms of places: which clone stands
where (`clone?`), which row is kept for it (`row?`), which tokens and directories there are.
-/

namespace BundleFramework.CloneInstaller

open CloneIndex Std

theorem rowKey_injective : Function.Injective rowKey := by
  intro p q h
  obtain ⟨hu, hi⟩ := append_separator_inj (underscore_not_mem_toDecimal _) (underscore_not_mem_toDecimal _) h
  exact Prod.ext (toDecimal_injective hu) (toDecimal_injective hi)

/-! ## Records by place -/

def clone? (info : CloneIndex.InnerBundleInfo) (place : Place) : Option CloneIndex.InnerBundleCloneInfo :=
  (info.user? place.1).bind fun user => user.cloneInfos[appIndexToKey place.2]?

variable {info : CloneIndex.InnerBundleInfo} {user : CloneIndex.InnerBundleUserInfo} {place p : Place}

theorem clone?_of_user (huser : info.user? place.1 = some user) :
    clone? info place = user.cloneInfos[appIndexToKey place.2]? := by
  unfold clone?
  rw [huser]
  rfl

theorem clone?_setClones (cloneInfos : StrMap CloneIndex.InnerBundleCloneInfo) :
    clone? (info.setClones place.1 user cloneInfos) p =
      if p.1 = place.1 then cloneInfos[appIndexToKey p.2]? else clone? info p := by
  unfold clone?
  rw [user?_setClones]
  split
  · rfl
  · rfl

theorem appIndexToKey_eq_iff (i j : Int) : appIndexToKey i = appIndexToKey j ↔ i = j := toDecimal_injective.eq_iff

theorem clone?_insert (huser : info.user? place.1 = some user) (clone : CloneIndex.InnerBundleCloneInfo) :
    clone? (info.setClones place.1 user (user.cloneInfos.insert (appIndexToKey place.2) clone)) p =
      if p = place then some clone else clone? info p := by
  rw [clone?_setClones, MapLoop.getElem?_insert_eq]
  simp only [appIndexToKey_eq_iff, Prod.ext_iff]
  by_cases hu : p.1 = place.1
  · rw [clone?_of_user (hu ▸ huser)]
    simp [hu]
  · simp [hu]

theorem clone?_erase (huser : info.user? place.1 = some user) :
    clone? (info.setClones place.1 user (user.cloneInfos.erase (appIndexToKey place.2))) p =
      if p = place then none else clone? info p := by
  rw [clone?_setClones, MapLoop.getElem?_erase_eq]
  simp only [appIndexToKey_eq_iff, Prod.ext_iff]
  by_cases hu : p.1 = place.1
  · rw [clone?_of_user (hu ▸ huser)]
    simp [hu]
  · simp [hu]

/-- A clone that the record holds, under whatever keys. -/
def HasClone (info : CloneIndex.InnerBundleInfo) (clone : CloneIndex.InnerBundleCloneInfo) : Prop :=
  ∃ (userKey : Str) (user : CloneIndex.InnerBundleUserInfo), info.innerBundleUserInfos[userKey]? = some user ∧
    ∃ key : Str, user.cloneInfos[key]? = some clone

theorem HasClone.of_user {key : Str} {clone : CloneIndex.InnerBundleCloneInfo} (huser : info.user? place.1 = some user)
    (hclone : user.cloneInfos[key]? = some clone) : HasClone info clone := ⟨_, user, huser, key, hclone⟩

theorem HasClone.of_clone? {clone : CloneIndex.InnerBundleCloneInfo} (h : clone? info place = some clone) :
    HasClone info clone := by
  obtain ⟨user, huser, hclone⟩ := Option.bind_eq_some_iff.mp h
  exact .of_user huser hclone

theorem HasClone.of_setClones {cloneInfos : StrMap CloneIndex.InnerBundleCloneInfo} {clone : CloneIndex.InnerBundleCloneInfo}
    (h : HasClone (info.setClones place.1 user cloneInfos) clone) :
    (∃ key : Str, cloneInfos[key]? = some clone) ∨ HasClone info clone := by
  obtain ⟨userKey, user', huser, key, hclone⟩ := h
  unfold InnerBundleInfo.setClones at huser
  dsimp only at huser
  rw [MapLoop.getElem?_insert_eq] at huser
  split at huser
  · cases huser
    exact .inl ⟨key, hclone⟩
  · exact .inr ⟨userKey, user', huser, key, hclone⟩

/-- A user whose table is put back is what it was. -/
theorem setClones_self (huser : info.user? place.1 = some user) : info.setClones place.1 user user.cloneInfos = info := by
  unfold InnerBundleInfo.setClones
  have hmap : info.innerBundleUserInfos.insert (info.userKey place.1) user = info.innerBundleUserInfos :=
    MapLoop.insert_eq_iff_get.mpr huser
  show { info with innerBundleUserInfos := info.innerBundleUserInfos.insert (info.userKey place.1) user } = info
  rw [hmap]

theorem setClones_setClones (cloneInfos cloneInfos' : StrMap CloneIndex.InnerBundleCloneInfo) :
    (info.setClones place.1 user cloneInfos).setClones place.1 { user with cloneInfos } cloneInfos' =
      info.setClones place.1 user cloneInfos' := by
  unfold InnerBundleInfo.setClones InnerBundleInfo.userKey
  dsimp only
  rw [MapLoop.insert_insert]

variable {cloneMaxCount : Int}

theorem removeCloneBundle_of_vacant (hvacant : clone? info place = none) :
    (info.removeCloneBundle cloneMaxCount place.1 place.2).2 = info := by
  unfold InnerBundleInfo.removeCloneBundle
  cases huser : info.user? place.1 with
  | none => rfl
  | some user =>
    dsimp only
    rw [clone?_of_user huser] at hvacant
    split
    · rfl
    · rw [if_neg]
      rw [ExtTreeMap.contains_eq_isSome_getElem?, hvacant]
      simp

theorem removeCloneBundle_of_clone {clone : CloneIndex.InnerBundleCloneInfo} (huser : info.user? place.1 = some user)
    (hclone : clone? info place = some clone)
    (hrange : ¬ (place.2 < CLONE_APP_INDEX_MIN ∨ place.2 > cloneMaxCount)) :
    info.removeCloneBundle cloneMaxCount place.1 place.2 =
      (.ERR_OK, info.setClones place.1 user (user.cloneInfos.erase (appIndexToKey place.2))) := by
  rw [clone?_of_user huser] at hclone
  unfold InnerBundleInfo.removeCloneBundle
  rw [huser]
  dsimp only
  rw [if_neg hrange, if_pos]
  rw [ExtTreeMap.contains_eq_isSome_getElem?, hclone]
  rfl

/-! ## Data manager -/

variable {c : Config} {s : CloneMgr} {a : InstallAnswers}

/-- A place that a clone can be put at. -/
structure Vacant (c : Config) (info : CloneIndex.InnerBundleInfo) (place : Place) : Prop where
  user : ∃ user, info.user? place.1 = some user
  free : clone? info place = none
  pos : 1 ≤ place.2
  le : place.2 ≤ info.maxIndex c.cloneMaxCount

/-- The clone that is put there. -/
structure CloneOf (attr clone : CloneIndex.InnerBundleCloneInfo) : Prop where
  token : clone.accessTokenId = attr.accessTokenId
  tokenEx : clone.accessTokenIdEx = attr.accessTokenIdEx
  uid : clone.uid = attr.uid
  gids : clone.gids = attr.gids
  userId : clone.userId = attr.userId
  appIndex : clone.appIndex = attr.appIndex

/-- `info'` is `info` with a clone put at the place. -/
structure Put (info info' : CloneIndex.InnerBundleInfo) (place : Place) (clone : CloneIndex.InnerBundleCloneInfo) : Prop where
  get : ∀ p, clone? info' p = if p = place then some clone else clone? info p
  bundleName : info'.bundleName = info.bundleName
  has : ∀ other, HasClone info' other → HasClone info other ∨ other = clone

/-- `info'` is `info` without the clone of the place. -/
structure TakenOut (info info' : CloneIndex.InnerBundleInfo) (place : Place) : Prop where
  get : ∀ p, clone? info' p = if p = place then none else clone? info p
  bundleName : info'.bundleName = info.bundleName
  has : ∀ other, HasClone info' other → HasClone info other

theorem put_insert (huser : info.user? place.1 = some user) (clone : CloneIndex.InnerBundleCloneInfo) :
    Put info (info.setClones place.1 user (user.cloneInfos.insert (appIndexToKey place.2) clone)) place clone where
  get p := clone?_insert huser clone
  bundleName := rfl
  has other h := by
    rcases h.of_setClones with ⟨key, hkey⟩ | hother
    · rw [MapLoop.getElem?_insert_eq] at hkey
      split at hkey
      · exact .inr (Option.some.inj hkey).symm
      · exact .inl (HasClone.of_user huser hkey)
    · exact .inl hother

theorem takenOut_erase (huser : info.user? place.1 = some user) :
    TakenOut info (info.setClones place.1 user (user.cloneInfos.erase (appIndexToKey place.2))) place where
  get p := clone?_erase huser
  bundleName := rfl
  has other h := by
    rcases h.of_setClones with ⟨key, hkey⟩ | hother
    · rw [MapLoop.getElem?_erase_eq] at hkey
      split at hkey
      · cases hkey
      · exact HasClone.of_user huser hkey
    · exact hother

theorem addCloneBundle_spec (h : Vacant c s.info place) (attr : CloneIndex.InnerBundleCloneInfo)
    (huserId : attr.userId = place.1) (hindex : attr.appIndex = place.2) (now : Int) (save : Bool) :
    if save then ∃ info' clone, CloneOf attr clone ∧ Put s.info info' place clone ∧
        s.addCloneBundle c attr now save = (.ERR_OK, { s with info := info', stored := info' })
    else s.addCloneBundle c attr now save = (.ERR_APPEXECFWK_SERVICE_INTERNAL_ERROR, s) := by
  obtain ⟨user, huser⟩ := h.user
  have hfree : user.Free attr.appIndex := by
    have := h.free
    rw [clone?_of_user huser] at this
    unfold InnerBundleUserInfo.Free
    rw [hindex, ExtTreeMap.contains_eq_isSome_getElem?, this]
    rfl
  have hadd := addCloneBundle_of_free attr (huserId ▸ huser) hfree (hindex ▸ h.pos) (hindex ▸ h.le) now
  rw [huserId, hindex] at hadd
  split
  · next hsave =>
    refine ⟨_, InnerBundleInfo.cloneInfoOf user attr now, ⟨rfl, rfl, rfl, rfl, rfl, rfl⟩, put_insert huser _, ?_⟩
    unfold CloneMgr.addCloneBundle
    rw [hadd, hsave]
    rfl
  · next hsave =>
    -- what was put there is taken away again
    have hput := fun p => @clone?_insert s.info user place p huser (InnerBundleInfo.cloneInfoOf user attr now)
    have hrange : ¬ (place.2 < CLONE_APP_INDEX_MIN ∨ place.2 > c.cloneMaxCount) := by
      have hpos := h.pos
      have hle := h.le
      unfold CLONE_APP_INDEX_MIN
      unfold InnerBundleInfo.maxIndex at hle
      omega
    have hremove := removeCloneBundle_of_clone (by rw [user?_setClones, if_pos rfl]) ((hput place).trans (if_pos rfl)) hrange
    rw [setClones_setClones] at hremove
    have hnone : user.cloneInfos[appIndexToKey place.2]? = none := (clone?_of_user huser).symm.trans h.free
    unfold CloneMgr.addCloneBundle
    rw [hadd]
    dsimp only
    rw [if_neg (by simp), if_neg hsave, huserId, hindex, hremove]
    dsimp only
    rw [MapLoop.erase_insert_of_none hnone, setClones_self huser]

theorem removeCloneBundle_vacant (h : clone? s.info place = none) (hsame : s.info = s.stored) (save : Bool) :
    (s.removeCloneBundle c place save).2 = s := by
  unfold CloneMgr.removeCloneBundle
  rcases hremove : s.info.removeCloneBundle c.cloneMaxCount place.1 place.2 with ⟨res, info⟩
  have hinfo : info = s.info := by
    rw [← @removeCloneBundle_of_vacant s.info place c.cloneMaxCount h, hremove]
  dsimp only
  split
  · rfl
  split
  · rw [hinfo]
    cases s
    simp_all
  · rw [hinfo]

/-! ## Rows -/

theorem row?_insert (row : UninstallDataUserInfo) :
    CloneMgr.row? { s with userInfos := s.userInfos.insert (rowKey place) row } p =
      if p = place then some row else s.row? p := by
  unfold CloneMgr.row?
  show (s.userInfos.insert (rowKey place) row)[rowKey p]? = _
  rw [MapLoop.getElem?_insert_eq]
  simp only [rowKey_injective.eq_iff]

theorem row?_erase :
    CloneMgr.row? { s with userInfos := s.userInfos.erase (rowKey place) } p =
      if p = place then none else s.row? p := by
  unfold CloneMgr.row?
  show (s.userInfos.erase (rowKey place))[rowKey p]? = _
  rw [MapLoop.getElem?_erase_eq]
  simp only [rowKey_injective.eq_iff]

theorem deleteUninstallCloneBundleInfo_spec (place : Place) (deleteRow : Bool) (s : CloneMgr) : ∃ userInfos,
    (s.deleteUninstallCloneBundleInfo place deleteRow).2 = { s with userInfos } ∧
      ∀ p, CloneMgr.row? { s with userInfos } p = if p = place ∧ deleteRow then none else s.row? p := by
  unfold CloneMgr.deleteUninstallCloneBundleInfo
  cases hrow : s.row? place with
  | none =>
    refine ⟨s.userInfos, rfl, fun p => ?_⟩
    split
    · next hp => rw [hp.1]; exact hrow
    · rfl
  | some row =>
    cases deleteRow with
    | false => exact ⟨s.userInfos, rfl, fun p => by simp⟩
    | true => exact ⟨s.userInfos.erase (rowKey place), rfl, fun p => by simp only [and_true]; exact row?_erase⟩

/-! ## Install -/

/-- The steps that a guard takes back go well. -/
def InstallAnswers.completes (a : InstallAnswers) : Bool := a.shareFiles && a.createDataDir && a.save

/-- The tokens when an install has given up the one it had. -/
def tokensLeft (a : InstallAnswers) (token : UInt32) (tokens : Finset UInt32) : Finset UInt32 :=
  if a.deleteToken then tokens.erase token else tokens

/-- A failed install changes the tokens, and at its place the directories. -/
structure Failed (a : InstallAnswers) (place : Place) (token : UInt32) (s s' : CloneMgr) : Prop where
  info : s'.info = s.info
  stored : s'.stored = s.stored
  rows : s'.userInfos = s.userInfos
  cleared : s'.cleared = s.cleared
  ids : s'.ids = s.ids
  tokens : s'.tokens = tokensLeft a token s.tokens
  dirs : ∀ p, p ≠ place → (p ∈ s'.dataDirs ↔ p ∈ s.dataDirs)
  kept : s.isKept place = true → place ∈ s.dataDirs → place ∈ s'.dataDirs

structure Done (a : InstallAnswers) (place : Place) (userInfo : InnerBundleUserInfo) (token : AccessTokenIDEx)
    (s s' : CloneMgr) : Prop where
  put : ∃ clone, CloneOf (CloneMgr.cloneAttr place userInfo token) clone ∧ Put s.info s'.info place clone
  stored : s'.info = s'.stored
  tokens : s'.tokens = s.tokens
  cleared : s'.cleared = s.cleared
  ids : s'.ids = s.ids
  dirs : s'.dataDirs = insert place s.dataDirs
  rows : ∀ p, s'.row? p = if p = place ∧ a.deleteRow then none else s.row? p

theorem undoApplyAccessToken_eq (token : UInt32) (s : CloneMgr) :
    s.undoApplyAccessToken a token = { s with tokens := tokensLeft a token s.tokens } := by
  unfold CloneMgr.undoApplyAccessToken CloneMgr.deleteAccessTokenId tokensLeft
  split
  · rfl
  · rfl

/-- What the guard of the directories leaves. -/
theorem undoCreateCloneDataDir_spec (a : InstallAnswers) (place : Place) (s : CloneMgr) : ∃ dirs : Finset Place,
    s.undoCreateCloneDataDir a place = { s with dataDirs := dirs } ∧
      (∀ p, p ≠ place → (p ∈ dirs ↔ p ∈ s.dataDirs)) ∧ (s.isKept place = true → dirs = s.dataDirs) := by
  unfold CloneMgr.undoCreateCloneDataDir CloneMgr.removeCloneDataDir
  split
  · exact ⟨s.dataDirs, rfl, fun _ _ => Iff.rfl, fun _ => rfl⟩
  next hkept =>
  split
  · refine ⟨s.dataDirs.erase place, rfl, fun p hp => ?_, fun h => absurd h hkept⟩
    rw [Finset.mem_erase]
    exact and_iff_right hp
  · exact ⟨s.dataDirs, rfl, fun _ _ => Iff.rfl, fun _ => rfl⟩

/-- The two guards after a state that differs in the directories of the place. -/
theorem failed_of_undo {s₁ : CloneMgr} (token : UInt32) {dirs : Finset Place} (hs : s₁ = { s with dataDirs := dirs })
    (hdirs : ∀ p, p ≠ place → (p ∈ dirs ↔ p ∈ s.dataDirs)) (hkept : place ∈ s.dataDirs → place ∈ dirs) :
    Failed a place token s ((s₁.undoCreateCloneDataDir a place).undoApplyAccessToken a token) := by
  subst hs
  obtain ⟨dirs', hundo, hoff, hon⟩ := undoCreateCloneDataDir_spec a place { s with dataDirs := dirs }
  rw [undoApplyAccessToken_eq, hundo]
  refine { info := rfl, stored := rfl, rows := rfl, cleared := rfl, ids := rfl, tokens := rfl, dirs := ?_, kept := ?_ }
  · intro p hp
    exact (hoff p hp).trans (hdirs p hp)
  · intro hrow hmem
    show place ∈ dirs'
    rw [hon hrow]
    exact hkept hmem

theorem mem_insert_off {p : Place} {dirs : Finset Place} (hp : p ≠ place) : p ∈ insert place dirs ↔ p ∈ dirs := by
  rw [Finset.mem_insert]
  exact or_iff_right hp

theorem installWithDir_failed {s₁ : CloneMgr} (userInfo : InnerBundleUserInfo) (token : AccessTokenIDEx) {dirs : Finset Place}
    (hs : s₁ = { s with dataDirs := dirs }) (hdirs : ∀ p, p ≠ place → (p ∈ dirs ↔ p ∈ s.dataDirs))
    (hkept : place ∈ s.dataDirs → place ∈ dirs) (h : Vacant c s₁.info place) (hsame : s₁.info = s₁.stored)
    (hsave : a.save = false) : Failed a place token.tokenID s (s₁.installWithDir c a place userInfo token).2 := by
  have hadd := addCloneBundle_spec h (CloneMgr.cloneAttr place userInfo token) rfl rfl a.now a.save
  rw [hsave, if_neg (by simp)] at hadd
  unfold CloneMgr.installWithDir
  rw [hsave, hadd]
  dsimp only
  rw [if_pos (by simp)]
  -- there is no clone for the first guard to remove
  have hundo : s₁.undoAddCloneBundle c a place = s₁ := removeCloneBundle_vacant h.free hsame a.undoSave
  dsimp only
  rw [hundo]
  exact failed_of_undo token.tokenID hs hdirs hkept

theorem installWithDir_done {s₁ : CloneMgr} (userInfo : InnerBundleUserInfo) (token : AccessTokenIDEx)
    (hs : s₁ = { s with dataDirs := insert place s.dataDirs }) (h : Vacant c s₁.info place) (hsave : a.save = true) :
    Done a place userInfo token s (s₁.installWithDir c a place userInfo token).2 := by
  have hadd := addCloneBundle_spec h (CloneMgr.cloneAttr place userInfo token) rfl rfl a.now a.save
  rw [hsave, if_pos rfl] at hadd
  obtain ⟨info', clone, hclone, hput, hadd⟩ := hadd
  unfold CloneMgr.installWithDir
  rw [hsave, hadd]
  dsimp only
  rw [if_neg (by simp)]
  subst hs
  split
  · obtain ⟨userInfos, hdelete, hrows⟩ := deleteUninstallCloneBundleInfo_spec place a.deleteRow
      { s with info := info', stored := info', dataDirs := insert place s.dataDirs }
    dsimp only
    rw [hdelete]
    exact { put := ⟨clone, hclone, hput⟩, stored := rfl, tokens := rfl, cleared := rfl, ids := rfl, dirs := rfl, rows := hrows }
  · next hrow =>
    refine { put := ⟨clone, hclone, hput⟩, stored := rfl, tokens := rfl, cleared := rfl, ids := rfl, dirs := rfl,
             rows := fun p => ?_ }
    split
    · next hp =>
      rw [hp.1]
      exact Option.not_isSome_iff_eq_none.mp hrow
    · rfl

theorem installWithToken_done (userInfo : InnerBundleUserInfo) (token : AccessTokenIDEx) (h : Vacant c s.info place)
    (hc : a.completes = true) : Done a place userInfo token s (s.installWithToken c a place userInfo token).2 := by
  obtain ⟨⟨hshare, hcreate⟩, hsave⟩ : (a.shareFiles = true ∧ a.createDataDir = true) ∧ a.save = true := by
    simpa [InstallAnswers.completes] using hc
  unfold CloneMgr.installWithToken
  simp only [hshare, hcreate, Bool.not_true, Bool.false_eq_true, if_false, Bool.true_or, if_true]
  exact installWithDir_done userInfo token rfl h hsave

theorem installWithToken_failed (userInfo : InnerBundleUserInfo) (token : AccessTokenIDEx) (h : Vacant c s.info place)
    (hsame : s.info = s.stored) (hc : a.completes = false) :
    Failed a place token.tokenID s (s.installWithToken c a place userInfo token).2 := by
  unfold CloneMgr.installWithToken
  cases hshare : a.shareFiles with
  | false =>
    simp only [Bool.not_false, if_true, undoApplyAccessToken_eq]
    exact { info := rfl, stored := rfl, rows := rfl, cleared := rfl, ids := rfl, tokens := rfl,
            dirs := fun _ _ => Iff.rfl, kept := fun _ h => h }
  | true =>
    cases hcreate : a.createDataDir with
    | false =>
      simp only [Bool.not_true, Bool.false_eq_true, if_false, Bool.not_false, if_true, Bool.false_or]
      split
      · exact failed_of_undo token.tokenID rfl (fun p hp => mem_insert_off hp) (fun _ => Finset.mem_insert_self _ _)
      · have hself : s = { s with dataDirs := s.dataDirs } := rfl
        exact failed_of_undo token.tokenID hself (fun _ _ => Iff.rfl) id
    | true =>
      have hsave : a.save = false := by simpa [InstallAnswers.completes, hshare, hcreate] using hc
      simp only [Bool.not_true, Bool.false_eq_true, if_false, Bool.true_or, if_true]
      exact installWithDir_failed userInfo token rfl (fun p hp => mem_insert_off hp) (fun _ => Finset.mem_insert_self _ _) h
        hsame hsave

/-- Where an install that passes the checks puts its clone. -/
def target (c : Config) (s : CloneMgr) (userId appIndex : Int) : Option Place :=
  if c.isSecondaryDiffPackage || userId < DEFAULT_USERID || !c.hasUserId userId || (s.info.user? userId).isNone then none
  else
    match s.info.verifyAndAckCloneAppIndex c.cloneMaxCount userId appIndex with
    | (.ERR_OK, acked) => some (userId, acked)
    | _ => none

/-- What an install comes to with a token. -/
def Outcome (a : InstallAnswers) (place : Place) (userInfo : InnerBundleUserInfo) (token : AccessTokenIDEx)
    (s s' : CloneMgr) : Prop :=
  if a.completes then Done a place userInfo token s s' else Failed a place token.tokenID s s'

/-- What an install leaves; it goes on from the state that `GenerateUidAndGid` leaves. -/
inductive InstallCase (c : Config) (a : InstallAnswers) (s : CloneMgr) : Option Place → CloneMgr → Prop where
  | refused : InstallCase c a s none s
  | noToken {place : Place} (hvacant : Vacant c s.info place) (hrecover : s.recoverHapToken a place = none)
      (hinit : a.initHapToken = none) : InstallCase c a s (some place) (s.generateUidAndGid c a place).2
  | recovered {place : Place} {row : UninstallDataUserInfo} {s' : CloneMgr} (hvacant : Vacant c s.info place)
      (hrow : s.row? place = some row) (hupdate : a.updateHapToken = true)
      (hlive : (AccessTokenIDEx.mk row.accessTokenIdEx).tokenID ∈ s.tokens)
      (h : Outcome a place (s.generateUidAndGid c a place).1 ⟨row.accessTokenIdEx⟩ (s.generateUidAndGid c a place).2 s') :
      InstallCase c a s (some place) s'
  | fresh {place : Place} {token : AccessTokenIDEx} {s' : CloneMgr} (hvacant : Vacant c s.info place)
      (hrecover : s.recoverHapToken a place = none) (hinit : a.initHapToken = some token)
      (h : Outcome a place (s.generateUidAndGid c a place).1 token
        ((s.generateUidAndGid c a place).2.initHapToken a place token.tokenID) s') :
      InstallCase c a s (some place) s'

theorem installWithToken_outcome (userInfo : InnerBundleUserInfo) (token : AccessTokenIDEx) (h : Vacant c s.info place)
    (hsame : s.info = s.stored) : Outcome a place userInfo token s (s.installWithToken c a place userInfo token).2 := by
  unfold Outcome
  split
  · next hc => exact installWithToken_done userInfo token h hc
  · next hc => exact installWithToken_failed userInfo token h hsame (Bool.eq_false_of_not_eq_true hc)

/-- The code after the checks. -/
theorem install_of_vacant (h : Vacant c s.info place) (hsame : s.info = s.stored) :
    InstallCase c a s (some place) (match (s.generateUidAndGid c a place).2.recoverHapToken a place with
      | some token =>
        ((s.generateUidAndGid c a place).2.installWithToken c a place (s.generateUidAndGid c a place).1 token).2
      | none => match a.initHapToken with
        | none => (s.generateUidAndGid c a place).2
        | some token => (((s.generateUidAndGid c a place).2.initHapToken a place token.tokenID).installWithToken c a place
            (s.generateUidAndGid c a place).1 token).2) := by
  have hsame' : (s.generateUidAndGid c a place).2.recoverHapToken a place = s.recoverHapToken a place := rfl
  rw [hsame']
  cases hrecover : s.recoverHapToken a place with
  | none =>
    cases hinit : a.initHapToken with
    | none => exact .noToken h hrecover hinit
    | some token => exact .fresh h hrecover hinit (installWithToken_outcome _ token h hsame)
  | some token =>
    unfold CloneMgr.recoverHapToken at hrecover
    cases hrow : s.row? place with
    | none =>
      rw [hrow] at hrecover
      cases hrecover
    | some row =>
      rw [hrow] at hrecover
      dsimp only at hrecover
      split at hrecover
      · next hok =>
        cases hrecover
        rw [Bool.and_eq_true, decide_eq_true_eq] at hok
        exact .recovered h hrow hok.1 hok.2 (installWithToken_outcome _ _ h hsame)
      · cases hrecover

theorem install_cases (a : InstallAnswers) (userId appIndex : Int) (hsame : s.info = s.stored) :
    InstallCase c a s (target c s userId appIndex) (step c s (.install userId appIndex a)) := by
  show InstallCase c a s _ (s.processCloneBundleInstall c a userId appIndex).2.2
  unfold CloneMgr.processCloneBundleInstall target
  by_cases hmode : c.isSecondaryDiffPackage = true
  · rw [if_pos hmode, if_pos (by simp [hmode])]
    exact .refused
  by_cases hneg : userId < DEFAULT_USERID
  · rw [if_neg hmode, if_pos hneg, if_pos (by simp [hneg])]
    exact .refused
  by_cases hhas : (!c.hasUserId userId) = true
  · rw [if_neg hmode, if_neg hneg, if_pos hhas, if_pos (by simp [hhas])]
    exact .refused
  by_cases huser : (s.info.user? userId).isNone = true
  · rw [if_neg hmode, if_neg hneg, if_neg hhas, if_pos huser, if_pos (by simp [huser])]
    exact .refused
  rw [if_neg hmode, if_neg hneg, if_neg hhas, if_neg huser, if_neg (by simp [hmode, hneg, hhas, huser])]
  rcases hverify : s.info.verifyAndAckCloneAppIndex c.cloneMaxCount userId appIndex with ⟨ackRes, acked⟩
  by_cases hack : ackRes = .ERR_OK
  · subst hack
    obtain ⟨user, hget, hfree, hpos, hle⟩ := verify_ok hverify
    have hvacant : Vacant c s.info (userId, acked) := by
      refine { user := ⟨user, hget⟩, free := ?_, pos := hpos, le := hle }
      rw [@clone?_of_user s.info user (userId, acked) hget]
      unfold InnerBundleUserInfo.Free at hfree
      rw [ExtTreeMap.contains_eq_isSome_getElem?] at hfree
      exact Option.not_isSome_iff_eq_none.mp (by simp only [hfree, Bool.false_eq_true, not_false_eq_true])
    have hcase := @install_of_vacant _ c s a hvacant hsame
    dsimp only
    rw [if_neg (by simp)]
    cases hrecover : (s.generateUidAndGid c a (userId, acked)).2.recoverHapToken a (userId, acked) with
    | some token =>
      rw [hrecover] at hcase
      exact hcase
    | none =>
      rw [hrecover] at hcase
      cases hinit : a.initHapToken with
      | none =>
        rw [hinit] at hcase
        exact hcase
      | some token =>
        rw [hinit] at hcase
        exact hcase
  · dsimp only
    rw [if_pos hack]
    split
    · next heq =>
      cases heq
      exact absurd rfl hack
    · exact .refused

/-! ## Start of the service -/

/-- While the record is the stored one, a start only changes the ids. -/
theorem reboot_eq (hsame : s.info = s.stored) (hasBmsPara : Bool) (others : CloneMgr.Others) :
    s.reboot c hasBmsPara others = { s with ids := s.restoreUidAndGid c hasBmsPara others } := by
  have hload : { s with info := s.stored } = s := congrArg (fun info => { s with info }) hsame.symm
  unfold CloneMgr.reboot
  rw [hload]

/-! ## Uninstall -/

/-- Data of a clone that is gone are given up. -/
structure Cleared (a : UninstallAnswers) (place : Place) (row : UninstallDataUserInfo) (s s' : CloneMgr) : Prop where
  info : s'.info = s.info
  stored : s'.stored = s.stored
  rows : ∀ p, s'.row? p = if p = place ∧ a.deleteRow then none else s.row? p
  tokens : s'.tokens = s.tokens
  dirs : s'.dataDirs = if a.removeDir then s.dataDirs.erase place else s.dataDirs
  cleared : s'.cleared = if a.deleteRow then row.accessTokenId :: s.cleared else s.cleared
  ids : s'.ids = s.ids

/-- A clone is removed. -/
structure Removed (a : UninstallAnswers) (place : Place) (clone : CloneIndex.InnerBundleCloneInfo) (s s' : CloneMgr) :
    Prop where
  info : TakenOut s.info s'.info place
  stored : s'.info = s'.stored
  rows : s'.userInfos = s.userInfos
  tokens : s'.tokens = if a.deleteToken then s.tokens.erase clone.accessTokenId else s.tokens
  dirs : s'.dataDirs = if a.removeDir then s.dataDirs.erase place else s.dataDirs
  cleared : s'.cleared = s.cleared
  ids : s'.ids = s.ids

/-- A clone is removed, and what it had is kept. -/
structure Kept (a : UninstallAnswers) (place : Place) (clone : CloneIndex.InnerBundleCloneInfo) (s s' : CloneMgr) :
    Prop where
  info : TakenOut s.info s'.info place
  stored : s'.info = s'.stored
  rows : ∀ p, s'.row? p = if p = place ∧ s.row? place = none ∧ a.saveRow then
    some ⟨clone.uid, clone.gids, clone.accessTokenId, clone.accessTokenIdEx⟩ else s.row? p
  tokens : s'.tokens = s.tokens
  dirs : s'.dataDirs = s.dataDirs
  cleared : s'.cleared = s.cleared
  ids : s'.ids = s.ids

/-- What an uninstall does when the storage takes what is written. -/
inductive UninstallCase (a : UninstallAnswers) (place : Place) (isKeepData : Bool) (s : CloneMgr) : CloneMgr → Prop where
  | refused : UninstallCase a place isKeepData s s
  | clear {row : UninstallDataUserInfo} {s' : CloneMgr} (hvacant : clone? s.info place = none)
      (hrow : s.row? place = some row) (h : Cleared a place row s s') : UninstallCase a place isKeepData s s'
  | remove {clone : CloneIndex.InnerBundleCloneInfo} {s' : CloneMgr} (hclone : clone? s.info place = some clone)
      (h : Removed a place clone s s') : UninstallCase a place isKeepData s s'
  | keep {clone : CloneIndex.InnerBundleCloneInfo} {s' : CloneMgr} (hclone : clone? s.info place = some clone)
      (h : Kept a place clone s s') : UninstallCase a place isKeepData s s'

theorem removeCloneDataDir_eq (place : Place) (ok : Bool) (s : CloneMgr) :
    s.removeCloneDataDir place ok = { s with dataDirs := if ok then s.dataDirs.erase place else s.dataDirs } := by
  cases ok with
  | false => rfl
  | true => rfl

theorem deleteAccessTokenId_eq (token : UInt32) (ok : Bool) (s : CloneMgr) :
    s.deleteAccessTokenId token ok = { s with tokens := if ok then s.tokens.erase token else s.tokens } := by
  cases ok with
  | false => rfl
  | true => rfl

theorem updateUninstallBundleInfo_spec (place : Place) (row : UninstallDataUserInfo) (saveRow : Bool) (s : CloneMgr) :
    ∃ userInfos, s.updateUninstallBundleInfo place row saveRow = { s with userInfos } ∧
      ∀ p, CloneMgr.row? { s with userInfos } p =
        if p = place ∧ s.row? place = none ∧ saveRow then some row else s.row? p := by
  unfold CloneMgr.updateUninstallBundleInfo
  cases hrow : s.row? place with
  | some old => exact ⟨s.userInfos, rfl, fun p => by simp⟩
  | none =>
    cases saveRow with
    | false => exact ⟨s.userInfos, rfl, fun p => by simp⟩
    | true => exact ⟨s.userInfos.insert (rowKey place) row, rfl, fun p => by simp only [and_true]; exact row?_insert row⟩

theorem deleteUninstalledCloneData_cases (a : UninstallAnswers) (isKeepData : Bool) (hvacant : clone? s.info place = none) :
    UninstallCase a place isKeepData s (s.deleteUninstalledCloneData a place).2 := by
  unfold CloneMgr.deleteUninstalledCloneData
  cases hrow : s.row? place with
  | none => exact .refused
  | some row =>
    have hrow' : (s.removeCloneDataDir place a.removeDir).row? place = some row := by
      rw [removeCloneDataDir_eq]
      exact hrow
    dsimp only
    rw [CloneMgr.deleteUninstallCloneBundleInfo, hrow', removeCloneDataDir_eq]
    refine .clear hvacant hrow ?_
    cases hdelete : a.deleteRow with
    | false =>
      refine { info := rfl, stored := rfl, rows := fun p => ?_, tokens := rfl, dirs := rfl, cleared := ?_, ids := rfl }
      · simp only [hdelete, Bool.false_eq_true, and_false, if_false]
        rfl
      · simp only [hdelete, Bool.false_eq_true, if_false]
        rfl
    | true =>
      refine { info := rfl, stored := rfl, rows := fun p => ?_, tokens := rfl, dirs := rfl, cleared := ?_, ids := rfl }
      · simp only [hdelete, and_true]
        exact row?_erase
      · simp only [hdelete, if_true]
        rfl

/-- An uninstall that finds no clone may still find data. -/
theorem uninstallCloneApp_of_vacant {a : UninstallAnswers} {isKeepData : Bool} (res : ErrCode)
    (hvacant : clone? s.info place = none) (hprocess : s.processCloneBundleUninstall c a place isKeepData = (res, s)) :
    UninstallCase a place isKeepData s (s.uninstallCloneApp c a place isKeepData).2 := by
  unfold CloneMgr.uninstallCloneApp
  rw [hprocess]
  dsimp only
  split
  · have hcase := @deleteUninstalledCloneData_cases place s a isKeepData hvacant
    split
    · exact hcase
    · exact hcase
  · exact .refused

theorem uninstallCloneApp_of_ne {a : UninstallAnswers} {isKeepData : Bool} {res : ErrCode} {s' : CloneMgr}
    (hprocess : s.processCloneBundleUninstall c a place isKeepData = (res, s'))
    (hres : res ≠ .ERR_APPEXECFWK_CLONE_UNINSTALL_NOT_INSTALLED_AT_SPECIFIED_USERID)
    (hres' : res ≠ .ERR_APPEXECFWK_CLONE_UNINSTALL_APP_NOT_CLONED) :
    (s.uninstallCloneApp c a place isKeepData).2 = s' := by
  unfold CloneMgr.uninstallCloneApp
  rw [hprocess]
  dsimp only
  rw [if_neg (by simp [hres, hres'])]

theorem uninstall_cases {a : UninstallAnswers} (hsave : a.save = true) (place : Place) (isKeepData : Bool) :
    UninstallCase a place isKeepData s (step c s (.uninstall place isKeepData a)) := by
  show UninstallCase a place isKeepData s (s.uninstallCloneApp c a place isKeepData).2
  by_cases hrange : place.2 < CLONE_APP_INDEX_MIN ∨ place.2 > c.cloneMaxCount
  · have hprocess : s.processCloneBundleUninstall c a place isKeepData =
        (.ERR_APPEXECFWK_CLONE_UNINSTALL_INVALID_APP_INDEX, s) := by
      rw [CloneMgr.processCloneBundleUninstall, if_pos hrange]
    rw [uninstallCloneApp_of_ne hprocess nofun nofun]
    exact .refused
  by_cases hhas : (!c.hasUserId place.1) = true
  · have hprocess : s.processCloneBundleUninstall c a place isKeepData =
        (.ERR_APPEXECFWK_CLONE_UNINSTALL_USER_NOT_EXIST, s) := by
      rw [CloneMgr.processCloneBundleUninstall, if_neg hrange, if_pos hhas]
    rw [uninstallCloneApp_of_ne hprocess nofun nofun]
    exact .refused
  cases huser : s.info.user? place.1 with
  | none =>
    refine uninstallCloneApp_of_vacant .ERR_APPEXECFWK_CLONE_UNINSTALL_NOT_INSTALLED_AT_SPECIFIED_USERID
      (by unfold clone?; rw [huser]; rfl) ?_
    rw [CloneMgr.processCloneBundleUninstall, if_neg hrange, if_neg hhas, huser]
  | some user =>
    cases hclone : user.cloneInfos[appIndexToKey place.2]? with
    | none =>
      refine uninstallCloneApp_of_vacant .ERR_APPEXECFWK_CLONE_UNINSTALL_APP_NOT_CLONED
        (by rw [clone?_of_user huser, hclone]) ?_
      rw [CloneMgr.processCloneBundleUninstall, if_neg hrange, if_neg hhas, huser]
      dsimp only
      rw [hclone]
    | some clone =>
      have hget : clone? s.info place = some clone := (clone?_of_user huser).trans hclone
      have hinfo := @takenOut_erase s.info user place huser
      let info' := s.info.setClones place.1 user (user.cloneInfos.erase (appIndexToKey place.2))
      let s₁ : CloneMgr := { s with info := info', stored := info' }
      have hremove : s.removeCloneBundle c place a.save = (.ERR_OK, s₁) := by
        unfold CloneMgr.removeCloneBundle
        rw [removeCloneBundle_of_clone huser hget hrange, hsave]
        rfl
      cases isKeepData with
      | false =>
        have hprocess : s.processCloneBundleUninstall c a place false =
            (.ERR_OK, (s₁.removeCloneDataDir place a.removeDir).deleteAccessTokenId clone.accessTokenId a.deleteToken) := by
          rw [CloneMgr.processCloneBundleUninstall, if_neg hrange, if_neg hhas, huser]
          dsimp only
          rw [hclone]
          dsimp only
          rw [hremove]
          rfl
        rw [uninstallCloneApp_of_ne hprocess nofun nofun, deleteAccessTokenId_eq, removeCloneDataDir_eq]
        exact .remove hget
          { info := hinfo, stored := rfl, rows := rfl, tokens := rfl, dirs := rfl, cleared := rfl, ids := rfl }
      | true =>
        have hprocess : s.processCloneBundleUninstall c a place true = (.ERR_OK, s₁.updateUninstallBundleInfo place
            ⟨clone.uid, clone.gids, clone.accessTokenId, clone.accessTokenIdEx⟩ a.saveRow) := by
          rw [CloneMgr.processCloneBundleUninstall, if_neg hrange, if_neg hhas, huser]
          dsimp only
          rw [hclone]
          dsimp only
          rw [hremove]
          rfl
        obtain ⟨userInfos, hupdate, hrows⟩ := updateUninstallBundleInfo_spec place
          ⟨clone.uid, clone.gids, clone.accessTokenId, clone.accessTokenIdEx⟩ a.saveRow s₁
        rw [uninstallCloneApp_of_ne hprocess nofun nofun, hupdate]
        exact .keep hget
          { info := hinfo, stored := rfl, rows := hrows, tokens := rfl, dirs := rfl, cleared := rfl, ids := rfl }

end BundleFramework.CloneInstaller
