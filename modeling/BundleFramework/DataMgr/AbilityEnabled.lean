import BundleFramework.DataMgr.BundleState

/-!
# Disabled abilities of a record

A record keeps for every user, and for every clone of a user, the names of the disabled
abilities.  `SetAbilityEnabled` and `SetCloneAbilityEnabled` change one of these lists;
`IsAbilityEnabled` and `IsAbilityEnabledV9` look a name up.  The lists hold no module names:
abilities of one name share their flag, in whatever modules they are.

`ability_flags_last_set` says that a run leaves each name, user and instance with the flag of
the last call for them.
-/

namespace BundleFramework.BundleState

open Std Overlay

/-! ## Readers

`bundleName` is that of the ability. -/

def InnerBundleInfo.isAbilityEnabled (info : InnerBundleInfo) (bundleName abilityName : Str) (userId appIndex : Int) :
    Bool :=
  if userId = NOT_EXIST_USERID then true
  else
    match info.innerBundleUserInfos[nameAndUserIdToKey bundleName userId]? with
    | none => false
    | some user =>
      if appIndex = 0 ∨ appIndex = DUAL_MODE_CLONE_APP_INDEX ∧ info.isDualModeCloneApp = true then
        !user.bundleUserInfo.disabledAbilities.contains abilityName
      else
        match user.cloneInfos[toDecimal appIndex]? with
        | none => false
        | some clone => !clone.disabledAbilities.contains abilityName

def InnerBundleInfo.isAbilityEnabledV9 (info : InnerBundleInfo) (bundleName abilityName : Str) (userId appIndex : Int) :
    Except ErrCode Bool :=
  if userId = NOT_EXIST_USERID then .ok true
  else
    match info.innerBundleUserInfos[nameAndUserIdToKey bundleName userId]? with
    | none => .error .ERR_BUNDLE_MANAGER_BUNDLE_NOT_EXIST
    | some user =>
      if appIndex = 0 then .ok (!user.bundleUserInfo.disabledAbilities.contains abilityName)
      else if appIndex = DUAL_MODE_CLONE_APP_INDEX then
        if info.isDualModeCloneApp then .ok (!user.bundleUserInfo.disabledAbilities.contains abilityName)
        else .error .ERR_APPEXECFWK_APP_INDEX_OUT_OF_RANGE
      else
        match user.cloneInfos[toDecimal appIndex]? with
        | none => .error .ERR_APPEXECFWK_CLONE_QUERY_NO_CLONE_APP
        | some clone => .ok (!clone.disabledAbilities.contains abilityName)

/-! ## Runs -/

inductive AbilityOp where
  | setAbilityEnabled (moduleName abilityName : Str) (isEnabled : Bool) (userId : Int)
  | setCloneAbilityEnabled (moduleName abilityName : Str) (isEnabled : Bool) (userId appIndex : Int)

namespace AbilityOp

def run (info : InnerBundleInfo) : AbilityOp → Except ErrCode InnerBundleInfo
  | .setAbilityEnabled moduleName abilityName isEnabled userId =>
    info.setAbilityEnabled moduleName abilityName isEnabled userId
  | .setCloneAbilityEnabled moduleName abilityName isEnabled userId appIndex =>
    info.setCloneAbilityEnabled moduleName abilityName isEnabled userId appIndex

def moduleName : AbilityOp → Str
  | .setAbilityEnabled moduleName _ _ _ | .setCloneAbilityEnabled moduleName _ _ _ _ => moduleName

def abilityName : AbilityOp → Str
  | .setAbilityEnabled _ abilityName _ _ | .setCloneAbilityEnabled _ abilityName _ _ _ => abilityName

def isEnabled : AbilityOp → Bool
  | .setAbilityEnabled _ _ isEnabled _ | .setCloneAbilityEnabled _ _ isEnabled _ _ => isEnabled

def userId : AbilityOp → Int
  | .setAbilityEnabled _ _ _ userId | .setCloneAbilityEnabled _ _ _ userId _ => userId

/-- The call is for the instance that is read under `appIndex`: the main one, or the clone. -/
def forInstance (info : InnerBundleInfo) (appIndex : Int) : AbilityOp → Bool
  | .setAbilityEnabled .. => !info.isCloneIndex appIndex
  | .setCloneAbilityEnabled _ _ _ _ index => info.isCloneIndex appIndex && index = appIndex

def succeeds (info : InnerBundleInfo) (op : AbilityOp) : Bool :=
  match op.run info with
  | .ok _ => true
  | .error _ => false

end AbilityOp

/-- A call that fails changes nothing. -/
def InnerBundleInfo.abilityStep (info : InnerBundleInfo) (op : AbilityOp) : InnerBundleInfo :=
  match op.run info with
  | .ok info' => info'
  | .error _ => info

/-- The flag of the last successful call that counts. -/
def lastFlag (counts : AbilityOp → Bool) : InnerBundleInfo → List AbilityOp → Option Bool
  | _, [] => none
  | info, op :: ops =>
    (lastFlag counts (info.abilityStep op) ops).or (if op.succeeds info && counts op then some op.isEnabled else none)

/-- The calls for one name, user and instance. -/
def countsFor (info : InnerBundleInfo) (abilityName : Str) (userId appIndex : Int) (op : AbilityOp) : Bool :=
  op.abilityName = abilityName && op.userId = userId && op.forInstance info appIndex

/-- No list names an ability twice. -/
def InnerBundleInfo.NamesDistinct (info : InnerBundleInfo) : Prop :=
  ∀ (key : Str) (user : InnerBundleUserInfo), info.innerBundleUserInfos[key]? = some user →
    user.bundleUserInfo.disabledAbilities.Nodup ∧
    ∀ (index : Str) (clone : InnerBundleCloneInfo), user.cloneInfos[index]? = some clone → clone.disabledAbilities.Nodup

/-! ## The list that a reader looks at -/

/-- The disabled abilities of a user under an index. -/
def InnerBundleUserInfo.disabledList (user : InnerBundleUserInfo) (isDualModeCloneApp : Bool) (appIndex : Int) :
    Except ErrCode (List Str) :=
  if appIndex = 0 then .ok user.bundleUserInfo.disabledAbilities
  else if appIndex = DUAL_MODE_CLONE_APP_INDEX then
    if isDualModeCloneApp then .ok user.bundleUserInfo.disabledAbilities
    else .error .ERR_APPEXECFWK_APP_INDEX_OUT_OF_RANGE
  else
    match user.cloneInfos[toDecimal appIndex]? with
    | none => .error .ERR_APPEXECFWK_CLONE_QUERY_NO_CLONE_APP
    | some clone => .ok clone.disabledAbilities

def InnerBundleInfo.disabledList (info : InnerBundleInfo) (userId appIndex : Int) : Except ErrCode (List Str) :=
  match info.innerBundleUserInfos[nameAndUserIdToKey info.bundleName userId]? with
  | none => .error .ERR_BUNDLE_MANAGER_BUNDLE_NOT_EXIST
  | some user => user.disabledList info.isDualModeCloneApp appIndex

variable {info : InnerBundleInfo} {user : InnerBundleUserInfo}

/-- An index is that of the main instance, is refused, or asks for a clone. -/
theorem disabledList_eq (user : InnerBundleUserInfo) (info : InnerBundleInfo) (appIndex : Int) :
    user.disabledList info.isDualModeCloneApp appIndex =
      if info.isCloneIndex appIndex = false then .ok user.bundleUserInfo.disabledAbilities
      else if appIndex = DUAL_MODE_CLONE_APP_INDEX then .error .ERR_APPEXECFWK_APP_INDEX_OUT_OF_RANGE
      else
        match user.cloneInfos[toDecimal appIndex]? with
        | none => .error .ERR_APPEXECFWK_CLONE_QUERY_NO_CLONE_APP
        | some clone => .ok clone.disabledAbilities := by
  unfold InnerBundleUserInfo.disabledList InnerBundleInfo.isCloneIndex
  by_cases hmain : appIndex = 0
  · rw [if_pos hmain, if_pos (by simp [hmain])]
  by_cases hindex : appIndex = DUAL_MODE_CLONE_APP_INDEX
  · cases hdual : info.isDualModeCloneApp with
    | true => rw [if_neg hmain, if_pos hindex, if_pos rfl, if_pos (by simp [hindex])]
    | false => rw [if_neg hmain, if_pos hindex, if_neg Bool.false_ne_true, if_neg (by simp [hmain]), if_pos hindex]
  · rw [if_neg hmain, if_neg hindex, if_neg (by simp [hmain, hindex]), if_neg hindex]

theorem isAbilityEnabledV9_eq {userId : Int} (huser : userId ≠ NOT_EXIST_USERID) (abilityName : Str) (appIndex : Int) :
    info.isAbilityEnabledV9 info.bundleName abilityName userId appIndex =
      (info.disabledList userId appIndex).map fun names => !names.contains abilityName := by
  unfold InnerBundleInfo.isAbilityEnabledV9 InnerBundleInfo.disabledList InnerBundleUserInfo.disabledList
  rw [if_neg huser]
  cases info.innerBundleUserInfos[nameAndUserIdToKey info.bundleName userId]? with
  | none => rfl
  | some user =>
    dsimp only
    split
    · rfl
    split
    · split
      · rfl
      · rfl
    · cases user.cloneInfos[toDecimal appIndex]? with
      | none => rfl
      | some clone => rfl

/-- All lists that can be read hold distinct names. -/
def InnerBundleInfo.ListsDistinct (info : InnerBundleInfo) : Prop :=
  ∀ userId appIndex names, info.disabledList userId appIndex = .ok names → names.Nodup

theorem NamesDistinct.listsDistinct (h : info.NamesDistinct) : info.ListsDistinct := by
  intro userId appIndex names hnames
  unfold InnerBundleInfo.disabledList at hnames
  cases huser : info.innerBundleUserInfos[nameAndUserIdToKey info.bundleName userId]? with
  | none =>
    rw [huser] at hnames
    cases hnames
  | some user =>
    obtain ⟨hmain, hclones⟩ := h _ user huser
    rw [huser] at hnames
    dsimp only at hnames
    rw [disabledList_eq] at hnames
    split at hnames
    · cases hnames
      exact hmain
    split at hnames
    · cases hnames
    · cases hclone : user.cloneInfos[toDecimal appIndex]? with
      | none =>
        rw [hclone] at hnames
        cases hnames
      | some clone =>
        rw [hclone] at hnames
        cases hnames
        exact hclones _ clone hclone

/-! ## One call -/

theorem updateDisabledAbilities_contains {names : List Str} (h : names.Nodup) (abilityName : Str) (isEnabled : Bool)
    (a : Str) : (updateDisabledAbilities names abilityName isEnabled).contains a =
      if abilityName = a then !isEnabled else names.contains a := by
  rw [Bool.eq_iff_iff, List.contains_iff_mem]
  unfold updateDisabledAbilities
  by_cases hname : abilityName = a
  · subst hname
    rw [if_pos rfl]
    cases isEnabled with
    | true =>
      by_cases hmem : abilityName ∈ names
      · rw [if_pos (List.contains_iff_mem.mpr hmem), if_pos rfl, h.mem_erase_iff]
        simp
      · rw [if_neg (mt List.contains_iff_mem.mp hmem), if_pos rfl]
        simp [hmem]
    | false =>
      by_cases hmem : abilityName ∈ names
      · rw [if_pos (List.contains_iff_mem.mpr hmem), if_neg Bool.false_ne_true]
        simp [hmem]
      · rw [if_neg (mt List.contains_iff_mem.mp hmem), if_neg Bool.false_ne_true]
        simp
  · rw [if_neg hname]
    refine Iff.trans ?_ List.contains_iff_mem.symm
    have hne : a ≠ abilityName := fun e => hname e.symm
    split
    · split
      · rw [List.mem_erase_of_ne hne]
      · rfl
    · split
      · rfl
      · simp [hne]

theorem updateDisabledAbilities_nodup {names : List Str} (h : names.Nodup) (abilityName : Str) (isEnabled : Bool) :
    (updateDisabledAbilities names abilityName isEnabled).Nodup := by
  unfold updateDisabledAbilities
  split
  · split
    · exact h.erase _
    · exact h
  · next hnot =>
    split
    · exact h
    · rw [List.contains_iff_mem] at hnot
      rw [List.nodup_append]
      refine ⟨h, List.nodup_singleton _, ?_⟩
      intro a ha b hb hab
      rw [List.mem_singleton] at hb
      exact hnot (hb ▸ hab ▸ ha)

theorem updateUser_ok {userId : Int} {f : InnerBundleUserInfo → Except ErrCode InnerBundleUserInfo}
    {info' : InnerBundleInfo} (h : info.updateUser userId f = .ok info') :
    ∃ user user', info.innerBundleUserInfos[nameAndUserIdToKey info.bundleName userId]? = some user ∧
      f user = .ok user' ∧
      info' = { info with
        innerBundleUserInfos := info.innerBundleUserInfos.insert (nameAndUserIdToKey info.bundleName userId) user' } := by
  unfold InnerBundleInfo.updateUser at h
  cases huser : info.innerBundleUserInfos[nameAndUserIdToKey info.bundleName userId]? with
  | none =>
    rw [huser] at h
    cases h
  | some user =>
    rw [huser] at h
    dsimp only at h
    cases hf : f user with
    | error e =>
      rw [hf] at h
      cases h
    | ok user' =>
      rw [hf] at h
      cases h
      exact ⟨user, user', rfl, hf, rfl⟩

/-- Another user's lists are not touched. -/
theorem disabledList_insert (v u appIndex : Int) (user' : InnerBundleUserInfo) :
    InnerBundleInfo.disabledList
        { info with innerBundleUserInfos := info.innerBundleUserInfos.insert (nameAndUserIdToKey info.bundleName v) user' }
        u appIndex =
      if u = v then user'.disabledList info.isDualModeCloneApp appIndex else info.disabledList u appIndex := by
  unfold InnerBundleInfo.disabledList
  dsimp only
  rw [MapLoop.getElem?_insert_eq]
  by_cases hu : u = v
  · rw [if_pos (by rw [hu]), if_pos hu]
  · rw [if_neg fun h => hu (nameAndUserIdToKey_injective _ h), if_neg hu]

theorem main_disabledList (user : InnerBundleUserInfo) (info : InnerBundleInfo) (appIndex : Int) (f : List Str → List Str) :
    InnerBundleUserInfo.disabledList
        { user with bundleUserInfo := { user.bundleUserInfo with
            disabledAbilities := f user.bundleUserInfo.disabledAbilities } } info.isDualModeCloneApp appIndex =
      (user.disabledList info.isDualModeCloneApp appIndex).map
        (if (!info.isCloneIndex appIndex) = true then f else id) := by
  rw [disabledList_eq, disabledList_eq]
  cases info.isCloneIndex appIndex with
  | false => rfl
  | true =>
    have hclone : ¬ (true = false) := by decide
    rw [if_neg hclone, if_neg hclone]
    split
    · rfl
    cases user.cloneInfos[toDecimal appIndex]? with
    | none => rfl
    | some clone => rfl

theorem clone_disabledList {index : Int} {clone : InnerBundleCloneInfo} (user : InnerBundleUserInfo)
    (info : InnerBundleInfo) (hclone : user.cloneInfos[toDecimal index]? = some clone) (appIndex : Int)
    (f : List Str → List Str) :
    InnerBundleUserInfo.disabledList
        { user with
          cloneInfos := user.cloneInfos.insert (toDecimal index)
            { clone with disabledAbilities := f clone.disabledAbilities } }
        info.isDualModeCloneApp appIndex =
      (user.disabledList info.isDualModeCloneApp appIndex).map
        (if (info.isCloneIndex appIndex && index = appIndex) = true then f else id) := by
  rw [disabledList_eq, disabledList_eq]
  cases info.isCloneIndex appIndex with
  | false => rfl
  | true =>
    have hne : ¬ (true = false) := by decide
    rw [if_neg hne, if_neg hne, Bool.true_and]
    split
    · rfl
    dsimp only
    rw [MapLoop.getElem?_insert_eq]
    by_cases hindex : index = appIndex
    · subst hindex
      rw [if_pos rfl, hclone, if_pos (decide_eq_true rfl)]
      rfl
    · rw [if_neg fun h => hindex (toDecimal_injective h).symm, if_neg (by simpa using hindex)]
      cases user.cloneInfos[toDecimal appIndex]? with
      | none => rfl
      | some other => rfl

/-- The call is for the list that is read under a user and an index. -/
def AbilityOp.reaches (info : InnerBundleInfo) (userId appIndex : Int) (op : AbilityOp) : Bool :=
  op.succeeds info && op.userId = userId && op.forInstance info appIndex

theorem map_id_eq (x : Except ErrCode (List Str)) : x.map id = x := by
  cases x with
  | error e => rfl
  | ok names => rfl

/-- A successful call has found the ability and the user. -/
theorem AbilityOp.run_ok {op : AbilityOp} {info' : InnerBundleInfo} (h : op.run info = .ok info') :
    ∃ user user', info.innerBundleUserInfos[nameAndUserIdToKey info.bundleName op.userId]? = some user ∧
      info' = { info with
        innerBundleUserInfos := info.innerBundleUserInfos.insert (nameAndUserIdToKey info.bundleName op.userId) user' } ∧
      ∀ appIndex, user'.disabledList info.isDualModeCloneApp appIndex =
        (user.disabledList info.isDualModeCloneApp appIndex).map
          (if op.forInstance info appIndex = true then
            fun names => updateDisabledAbilities names op.abilityName op.isEnabled else id) := by
  cases op with
  | setAbilityEnabled moduleName abilityName isEnabled userId =>
    unfold run InnerBundleInfo.setAbilityEnabled at h
    dsimp only at h
    split at h
    · obtain ⟨user, user', huser, hf, hinfo⟩ := updateUser_ok h
      refine ⟨user, user', huser, hinfo, ?_⟩
      intro appIndex
      cases hf
      rw [main_disabledList user info appIndex fun names => updateDisabledAbilities names abilityName isEnabled]
      rfl
    · cases h
  | setCloneAbilityEnabled moduleName abilityName isEnabled userId index =>
    unfold run InnerBundleInfo.setCloneAbilityEnabled InnerBundleInfo.updateClone at h
    dsimp only at h
    split at h
    · obtain ⟨user, user', huser, hf, hinfo⟩ := updateUser_ok h
      refine ⟨user, user', huser, hinfo, ?_⟩
      intro appIndex
      unfold InnerBundleUserInfo.updateClone at hf
      cases hclone : user.cloneInfos[toDecimal index]? with
      | none =>
        rw [hclone] at hf
        cases hf
      | some clone =>
        rw [hclone] at hf
        cases hf
        rw [clone_disabledList user info hclone appIndex fun names => updateDisabledAbilities names abilityName isEnabled]
        rfl
    · cases h

/-- What a call changes: the list that it is for. -/
theorem abilityStep_disabledList (info : InnerBundleInfo) (op : AbilityOp) (userId appIndex : Int) :
    (info.abilityStep op).disabledList userId appIndex = (info.disabledList userId appIndex).map
      (if op.reaches info userId appIndex = true then
        fun names => updateDisabledAbilities names op.abilityName op.isEnabled else id) := by
  unfold InnerBundleInfo.abilityStep AbilityOp.reaches AbilityOp.succeeds
  cases hrun : op.run info with
  | error e =>
    dsimp only
    rw [if_neg (by simp), map_id_eq]
  | ok info' =>
    obtain ⟨user, user', huser, rfl, hlist⟩ := AbilityOp.run_ok hrun
    dsimp only
    rw [disabledList_insert, Bool.true_and]
    by_cases hsame : userId = op.userId
    · subst hsame
      rw [if_pos rfl, hlist, decide_eq_true rfl, Bool.true_and]
      unfold InnerBundleInfo.disabledList
      rw [huser]
    · rw [if_neg hsame, decide_eq_false fun h => hsame h.symm, Bool.false_and, if_neg Bool.false_ne_true, map_id_eq]

theorem abilityStep_same (info : InnerBundleInfo) (op : AbilityOp) :
    (info.abilityStep op).bundleName = info.bundleName ∧
    (info.abilityStep op).isDualModeCloneApp = info.isDualModeCloneApp := by
  unfold InnerBundleInfo.abilityStep
  cases hrun : op.run info with
  | error e => exact ⟨rfl, rfl⟩
  | ok info' =>
    obtain ⟨user, user', -, rfl, -⟩ := AbilityOp.run_ok hrun
    exact ⟨rfl, rfl⟩

theorem abilityStep_listsDistinct (h : info.ListsDistinct) (op : AbilityOp) : (info.abilityStep op).ListsDistinct := by
  intro userId appIndex names hnames
  rw [abilityStep_disabledList] at hnames
  cases hbefore : info.disabledList userId appIndex with
  | error e =>
    rw [hbefore] at hnames
    cases hnames
  | ok before =>
    rw [hbefore] at hnames
    cases hnames
    have hdistinct := h userId appIndex before hbefore
    split
    · exact updateDisabledAbilities_nodup hdistinct _ _
    · exact hdistinct

/-! ## Every run -/

/-- The flag under which a name is read, after one call. -/
theorem abilityStep_flag (hdistinct : info.ListsDistinct) (op : AbilityOp) (abilityName : Str) (userId appIndex : Int) :
    ((info.abilityStep op).disabledList userId appIndex).map (fun names => !names.contains abilityName) =
      ((info.disabledList userId appIndex).map fun names => !names.contains abilityName).map fun flag =>
        if (op.succeeds info && countsFor info abilityName userId appIndex op) = true then op.isEnabled else flag := by
  rw [abilityStep_disabledList]
  cases hbefore : info.disabledList userId appIndex with
  | error e => rfl
  | ok before =>
    have hnodup := hdistinct userId appIndex before hbefore
    unfold AbilityOp.reaches countsFor
    refine congrArg Except.ok ?_
    dsimp only
    by_cases hreaches : (op.succeeds info && decide (op.userId = userId) && op.forInstance info appIndex) = true
    · rw [if_pos hreaches, updateDisabledAbilities_contains hnodup]
      obtain ⟨⟨hok, huser⟩, hinstance⟩ := (Bool.and_eq_true_iff.mp hreaches).imp_left Bool.and_eq_true_iff.mp
      rw [hok, huser, hinstance, Bool.and_true, Bool.and_true, Bool.true_and]
      by_cases hname : op.abilityName = abilityName
      · rw [if_pos hname, if_pos (decide_eq_true hname), Bool.not_not]
      · rw [if_neg hname, if_neg (by simpa using hname)]
    · rw [if_neg hreaches, if_neg]
      · rfl
      · intro hcounts
        simp only [Bool.and_eq_true] at hcounts hreaches
        exact hreaches ⟨⟨hcounts.1, hcounts.2.1.2⟩, hcounts.2.2⟩

theorem countsFor_step (op : AbilityOp) (abilityName : Str) (userId appIndex : Int) :
    countsFor (info.abilityStep op) abilityName userId appIndex = countsFor info abilityName userId appIndex := by
  have hclone : (info.abilityStep op).isCloneIndex appIndex = info.isCloneIndex appIndex := by
    unfold InnerBundleInfo.isCloneIndex
    rw [(abilityStep_same info op).2]
  funext op'
  unfold countsFor
  cases op' <;> simp only [AbilityOp.forInstance, hclone]

/-- What a run leaves of the flag of a name. -/
theorem run_flag (hdistinct : info.ListsDistinct) (ops : List AbilityOp) (abilityName : Str) (userId appIndex : Int) :
    ((ops.foldl InnerBundleInfo.abilityStep info).disabledList userId appIndex).map
        (fun names => !names.contains abilityName) =
      ((info.disabledList userId appIndex).map fun names => !names.contains abilityName).map fun flag =>
        (lastFlag (countsFor info abilityName userId appIndex) info ops).getD flag := by
  induction ops generalizing info with
  | nil =>
    rw [List.foldl_nil]
    cases info.disabledList userId appIndex with
    | error e => rfl
    | ok names => rfl
  | cons op ops ih =>
    rw [List.foldl_cons, ih (abilityStep_listsDistinct hdistinct op), countsFor_step, abilityStep_flag hdistinct, lastFlag]
    cases info.disabledList userId appIndex with
    | error e => rfl
    | ok names =>
      refine congrArg Except.ok ?_
      cases lastFlag (countsFor info abilityName userId appIndex) (info.abilityStep op) ops with
      | some flag => rfl
      | none =>
        dsimp only
        rw [Option.getD_none, Option.none_or]
        split
        · rfl
        · rfl

theorem run_bundleName (ops : List AbilityOp) (info : InnerBundleInfo) :
    (ops.foldl InnerBundleInfo.abilityStep info).bundleName = info.bundleName := by
  induction ops generalizing info with
  | nil => rfl
  | cons op ops ih => rw [List.foldl_cons, ih, (abilityStep_same info op).1]

/-! ## The two readers -/

/-- A record of no dual-mode clone with a clone under the index of one. -/
def InnerBundleInfo.HasStrayClone (info : InnerBundleInfo) (bundleName : Str) (userId : Int) : Prop :=
  info.isDualModeCloneApp = false ∧ ∃ user clone,
    info.innerBundleUserInfos[nameAndUserIdToKey bundleName userId]? = some user ∧
    user.cloneInfos[toDecimal DUAL_MODE_CLONE_APP_INDEX]? = some clone

theorem readers_agree (info : InnerBundleInfo) (bundleName abilityName : Str) (userId appIndex : Int)
    (h : appIndex = DUAL_MODE_CLONE_APP_INDEX → ¬ info.HasStrayClone bundleName userId) :
    info.isAbilityEnabled bundleName abilityName userId appIndex = true ↔
      info.isAbilityEnabledV9 bundleName abilityName userId appIndex = .ok true := by
  unfold InnerBundleInfo.isAbilityEnabled InnerBundleInfo.isAbilityEnabledV9
  by_cases hnot : userId = NOT_EXIST_USERID
  · rw [if_pos hnot, if_pos hnot]
    exact iff_of_true rfl rfl
  rw [if_neg hnot, if_neg hnot]
  cases huser : info.innerBundleUserInfos[nameAndUserIdToKey bundleName userId]? with
  | none => simp
  | some user =>
    dsimp only
    by_cases hmain : appIndex = 0
    · rw [if_pos (.inl hmain), if_pos hmain, Except.ok.injEq]
    rw [if_neg hmain]
    by_cases hindex : appIndex = DUAL_MODE_CLONE_APP_INDEX
    · rw [if_pos hindex]
      cases hdual : info.isDualModeCloneApp with
      | true => rw [if_pos (.inr ⟨hindex, rfl⟩), if_pos rfl, Except.ok.injEq]
      | false =>
        -- the plain reader asks for a clone here
        have hclone : user.cloneInfos[toDecimal appIndex]? = none := by
          rw [Option.eq_none_iff_forall_ne_some]
          intro clone hclone
          rw [hindex] at hclone
          exact h hindex ⟨hdual, user, clone, huser, hclone⟩
        rw [if_neg (by simp [hmain]), hclone]
        simp
    · rw [if_neg (by simp [hmain, hindex]), if_neg hindex]
      cases user.cloneInfos[toDecimal appIndex]? with
      | none => simp
      | some clone =>
        dsimp only
        rw [Except.ok.injEq]

/-- After every run each name, user and instance is read with the flag of the last successful
call for them, and else as before the run; a user that does not exist reads true.  The two
readers agree, except on the index of a dual-mode clone where the record is of none and yet
holds a clone under that index. -/
theorem ability_flags_last_set (info : InnerBundleInfo) (hdistinct : info.NamesDistinct) (ops : List AbilityOp) :
    (∀ abilityName userId appIndex, userId ≠ NOT_EXIST_USERID →
      (ops.foldl InnerBundleInfo.abilityStep info).isAbilityEnabledV9 info.bundleName abilityName userId appIndex =
        (info.isAbilityEnabledV9 info.bundleName abilityName userId appIndex).map fun flag =>
          (lastFlag (countsFor info abilityName userId appIndex) info ops).getD flag) ∧
    (∀ abilityName appIndex, (ops.foldl InnerBundleInfo.abilityStep info).isAbilityEnabledV9 info.bundleName abilityName
      NOT_EXIST_USERID appIndex = .ok true) ∧
    ∀ (record : InnerBundleInfo) bundleName abilityName userId appIndex,
      (appIndex = DUAL_MODE_CLONE_APP_INDEX → ¬ record.HasStrayClone bundleName userId) →
      (record.isAbilityEnabled bundleName abilityName userId appIndex = true ↔
        record.isAbilityEnabledV9 bundleName abilityName userId appIndex = .ok true) := by
  refine ⟨?_, ?_, ?_⟩
  · intro abilityName userId appIndex huser
    have hrun := run_flag (NamesDistinct.listsDistinct hdistinct) ops abilityName userId appIndex
    rw [isAbilityEnabledV9_eq huser, ← hrun, ← isAbilityEnabledV9_eq huser, run_bundleName]
  · intro abilityName appIndex
    unfold InnerBundleInfo.isAbilityEnabledV9
    rw [if_pos rfl]
  · exact readers_agree

/-- Two abilities of one name in two modules, for user 100. -/
def twoModules : InnerBundleInfo where
  bundleName := ['b']
  innerBundleUserInfos := (∅ : StrMap InnerBundleUserInfo).insert (nameAndUserIdToKey ['b'] 100) {}
  baseAbilityInfos :=
    ((∅ : StrMap AbilityInfo).insert ['x'] ⟨['a'], ['m']⟩).insert ['y'] ⟨['a'], ['n']⟩

theorem twoModules_distinct : twoModules.NamesDistinct := by
  intro key user huser
  have hempty : user = {} := by
    unfold twoModules at huser
    dsimp only at huser
    rw [MapLoop.getElem?_insert_eq] at huser
    split at huser
    · exact (Option.some.inj huser).symm
    · simp at huser
  subst hempty
  refine ⟨List.nodup_nil, ?_⟩
  intro index clone hclone
  simp at hclone

/-- The ability of module `m` is disabled for user 100. -/
def disableFirst : List AbilityOp := [.setAbilityEnabled ['m'] ['a'] false 100]

/-- Only the calls that name the module count. -/
def countsForModule (info : InnerBundleInfo) (moduleName abilityName : Str) (userId appIndex : Int) (op : AbilityOp) :
    Bool :=
  op.moduleName = moduleName && countsFor info abilityName userId appIndex op

/-- The ability of module `n` reads disabled. -/
theorem same_name_shares_flag : ¬ ∀ (info : InnerBundleInfo), info.NamesDistinct → ∀ (ops : List AbilityOp)
    (moduleName abilityName : Str) (userId appIndex : Int), info.hasAbility moduleName abilityName = true →
    info.isAbilityEnabledV9 info.bundleName abilityName userId appIndex = .ok true →
    (ops.foldl InnerBundleInfo.abilityStep info).isAbilityEnabledV9 info.bundleName abilityName userId appIndex =
      .ok ((lastFlag (countsForModule info moduleName abilityName userId appIndex) info ops).getD true) := by
  intro h
  have hflag := h twoModules twoModules_distinct disableFirst ['n'] ['a'] 100 0 (by decide +kernel) (by decide +kernel)
  revert hflag
  decide +kernel

/-- The theorem at this run. -/
theorem ability_flags_last_set_twoModules :
    (disableFirst.foldl InnerBundleInfo.abilityStep twoModules).isAbilityEnabledV9 ['b'] ['a'] 100 0 = .ok false := by
  have hrun := (ability_flags_last_set twoModules twoModules_distinct disableFirst).1 ['a'] 100 0 (by decide)
  refine hrun.trans ?_
  decide +kernel

end BundleFramework.BundleState
