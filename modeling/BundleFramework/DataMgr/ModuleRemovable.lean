import BundleFramework.DataMgr.BundleState
import BundleFramework.Lib.StepRun

/-!
# Pins on the modules of an atomic service

A caller that wants a module kept pins it for a user with `SetModuleRemovable(…, false, …)`.  The
record keeps this twice: `isRemovable` holds one flag for each user, overwritten by every
request, and `isRemovableSet` holds one text `caller#user` for each pin.

`IsModuleRemovable` reads both and is right in every run.  `GetRemovableModules` reads the flags
alone: when a caller allows the removal while another one still pins the module, the flag says
removable and the module is offered.  The lists agree as long as a caller allows a removal only when no other
caller has the module pinned, and pins for users of the bundle only.
-/

namespace BundleFramework.BundleState

open Std Overlay

/-! ## Algorithm -/

/-- What stands behind the last separator is the user: the test that `IsRemovableSet` and
`DeleteModuleRemovableInfo` share. -/
def isPinOf (stringUserId item : Str) : Bool :=
  match strRFindChar item UID_SEPARATOR with
  | none => false
  | some pos => item.drop (pos + 1) = stringUserId

def InnerBundleInfo.isRemovableSet (innerInfo : InnerModuleInfo) (userId : Int) : Bool :=
  innerInfo.isRemovableSet.toList.any (isPinOf (toDecimal userId))

def InnerBundleInfo.getInnerModuleInfoByModuleName (info : InnerBundleInfo) (moduleName : Str) :
    Option InnerModuleInfo :=
  (info.findModule moduleName).map Prod.snd

def InnerBundleInfo.isModuleRemovable (info : InnerBundleInfo) (moduleName : Str) (userId : Int) :
    Except ErrCode Bool :=
  match info.getInnerModuleInfoByModuleName moduleName with
  | none => .error .ERR_BUNDLE_MANAGER_MODULE_NOT_EXIST
  | some innerInfo =>
    if info.applicationBundleType ≠ .ATOMIC_SERVICE then .ok false
    else if InnerBundleInfo.isRemovableSet innerInfo userId then .ok false
    else match innerInfo.isRemovable[toDecimal userId]? with
      | none => .ok true
      | some isRemovable => .ok isRemovable

/-- `GetRemovableModules`, which looks at the flags and not at the set. -/
def InnerBundleInfo.getRemovableModules (info : InnerBundleInfo) : List Str :=
  (info.innerModuleInfos.toList.filter fun entry =>
    entry.2.installationFree && entry.2.isRemovable.toList.all fun state => state.2).map fun entry => entry.2.moduleName

def InnerModuleInfo.deleteModuleRemovableInfo (innerInfo : InnerModuleInfo) (stringUserId : Str) : InnerModuleInfo :=
  { innerInfo with
    isRemovableSet := innerInfo.isRemovableSet.filter fun item => !isPinOf stringUserId item
    isRemovable := innerInfo.isRemovable.erase stringUserId }

def InnerBundleInfo.deleteModuleRemovable (info : InnerBundleInfo) (moduleName : Str) (userId : Int) :
    InnerBundleInfo :=
  match info.findModule moduleName with
  | none => info
  | some entry =>
    { info with
      innerModuleInfos :=
        info.innerModuleInfos.insert entry.1 (entry.2.deleteModuleRemovableInfo (toDecimal userId)) }

def InnerBundleInfo.hasUser (info : InnerBundleInfo) (userId : Int) : Bool :=
  info.innerBundleUserInfos.contains (nameAndUserIdToKey info.bundleName userId)

/-- `RemoveInnerBundleUserInfo` of the record: nothing is done for one who is not a user of it. -/
def InnerBundleInfo.removeInnerBundleUserInfo (info : InnerBundleInfo) (userId : Int) : InnerBundleInfo :=
  if info.hasUser userId then
    let key := nameAndUserIdToKey info.bundleName userId
    info.innerModuleInfos.toList.foldl (fun info entry => info.deleteModuleRemovable entry.2.moduleName userId)
      { info with innerBundleUserInfos := info.innerBundleUserInfos.erase key }
  else info

def InnerBundleInfo.addInnerBundleUserInfo (info : InnerBundleInfo) (userId : Int) (user : InnerBundleUserInfo) :
    InnerBundleInfo :=
  { info with
    innerBundleUserInfos := info.innerBundleUserInfos.insert (nameAndUserIdToKey info.bundleName userId) user }

/-- `AddInnerBundleUserInfo` of the data manager. -/
def BundleDataMgr.addInnerBundleUserInfo (mgr : BundleDataMgr) (bundleName : Str) (userId : Int)
    (user : InnerBundleUserInfo) (saved : Bool) : Bool × BundleDataMgr :=
  match mgr.bundleInfos[bundleName]? with
  | none => (false, mgr)
  | some info =>
    let info := info.addInnerBundleUserInfo userId user
    if saved then
      (true, { mgr.saveStorageBundleInfo info true with bundleInfos := mgr.bundleInfos.insert bundleName info })
    else (false, mgr)

/-- `RemoveInnerBundleUserInfo` of the data manager. -/
def BundleDataMgr.removeInnerBundleUserInfo (env : Env) (mgr : BundleDataMgr) (bundleName : Str) (userId : Int)
    (saved : Bool) : Bool × BundleDataMgr :=
  match mgr.bundleInfos[bundleName]? with
  | none => (false, mgr)
  | some info =>
    let info := info.removeInnerBundleUserInfo userId
    let stateKey := if env.isDualModeDevice then effectiveName info.isDualModeCloneApp bundleName else bundleName
    let states := if stateKey = [] ∨ userId < 0 then mgr.bundleStateStorage
      else mgr.bundleStateStorage.erase (nameAndUserIdToKey stateKey userId)
    if saved then
      let mgr := { mgr with bundleInfos := mgr.bundleInfos.insert bundleName info, bundleStateStorage := states }
      (true, mgr.saveStorageBundleInfo info true)
    else (false, mgr)

/-! ## Texts of pins -/

theorem strRFindChar_callingNameUid (caller : Str) (userId : Int) :
    strRFindChar (callingNameUid caller userId) UID_SEPARATOR = some caller.length := by
  have hdigits : UID_SEPARATOR ∉ toDecimal userId := not_mem_toDecimal (by decide) (by decide) userId
  have hrev : ∀ c ∈ (toDecimal userId).reverse, (c == UID_SEPARATOR) = false := by
    intro c hc
    rw [beq_eq_false_iff_ne]
    rintro rfl
    exact hdigits (List.mem_reverse.mp hc)
  have hfind : ((callingNameUid caller userId).reverse.findIdx? (· == UID_SEPARATOR)) =
      some (toDecimal userId).length := by
    unfold callingNameUid
    rw [List.reverse_append, List.reverse_cons, List.append_assoc, List.findIdx?_append,
      List.findIdx?_eq_none_iff.mpr hrev]
    simp [List.findIdx?_cons]
  unfold strRFindChar
  rw [hfind]
  unfold callingNameUid
  simp only [Option.map_some, List.length_append, List.length_cons, Option.some.injEq]
  omega

/-- A pin is one of its user and of no other, whatever the caller is called. -/
theorem isPinOf_callingNameUid (caller : Str) (userId userId' : Int) :
    isPinOf (toDecimal userId') (callingNameUid caller userId) = true ↔ userId = userId' := by
  unfold isPinOf
  rw [strRFindChar_callingNameUid]
  have hdrop : (callingNameUid caller userId).drop (caller.length + 1) = toDecimal userId := by
    unfold callingNameUid
    simp
  show decide ((callingNameUid caller userId).drop (caller.length + 1) = toDecimal userId') = true ↔ _
  rw [hdrop, decide_eq_true_iff]
  exact ⟨fun h => toDecimal_injective h, congrArg toDecimal⟩

theorem callingNameUid_inj {caller caller' : Str} {userId userId' : Int}
    (h : callingNameUid caller userId = callingNameUid caller' userId') : caller = caller' ∧ userId = userId' := by
  have hdigits : ∀ n, UID_SEPARATOR ∉ toDecimal n := not_mem_toDecimal (by decide) (by decide)
  obtain ⟨rfl, hd⟩ := append_separator_inj (hdigits _) (hdigits _) h
  exact ⟨rfl, toDecimal_injective hd⟩

/-! ## Records with modules under their names -/

/-- The module keys are the module names. -/
def InnerBundleInfo.Keyed (info : InnerBundleInfo) : Prop :=
  ∀ (key : Str) (innerInfo : InnerModuleInfo), info.innerModuleInfos[key]? = some innerInfo → innerInfo.moduleName = key

theorem findModule_eq {info : InnerBundleInfo} (hkeyed : info.Keyed) (moduleName : Str) :
    info.findModule moduleName = info.innerModuleInfos[moduleName]?.map fun innerInfo => (moduleName, innerInfo) := by
  have hname : ∀ entry ∈ info.innerModuleInfos.toList, entry.2.moduleName = entry.1 := by
    intro entry hentry
    exact hkeyed entry.1 entry.2 (ExtTreeMap.mem_toList_iff_getElem?_eq_some.mp hentry)
  unfold InnerBundleInfo.findModule
  rcases hfind : info.innerModuleInfos.toList.find? (fun entry => entry.2.moduleName = moduleName) with _ | entry
  · have hnone : info.innerModuleInfos[moduleName]? = none := by
      by_contra hsome
      obtain ⟨innerInfo, hget⟩ := Option.ne_none_iff_exists'.mp hsome
      have hmem := ExtTreeMap.mem_toList_iff_getElem?_eq_some.mpr hget
      have hno := List.find?_eq_none.mp hfind _ hmem
      exact hno (by simpa using hkeyed moduleName innerInfo hget)
    rw [hfind, hnone]
    rfl
  · have hmem := List.mem_of_find?_eq_some hfind
    have hentry : entry.1 = moduleName := by
      rw [← hname entry hmem]
      simpa using List.find?_some hfind
    have hget := ExtTreeMap.mem_toList_iff_getElem?_eq_some.mp hmem
    rw [hfind, ← hentry, hget]
    rfl

theorem mem_getRemovableModules {info : InnerBundleInfo} (hkeyed : info.Keyed) {moduleName : Str}
    {innerInfo : InnerModuleInfo} (hget : info.innerModuleInfos[moduleName]? = some innerInfo)
    (hfree : innerInfo.installationFree = true) :
    moduleName ∈ info.getRemovableModules ↔
      ∀ (stringUserId : Str), innerInfo.isRemovable[stringUserId]? ≠ some false := by
  have hall : (innerInfo.isRemovable.toList.all fun state => state.2) = true ↔
      ∀ (stringUserId : Str), innerInfo.isRemovable[stringUserId]? ≠ some false := by
    rw [List.all_eq_true]
    constructor
    · intro h stringUserId hflag
      exact absurd (h _ (ExtTreeMap.mem_toList_iff_getElem?_eq_some.mpr hflag)) (by simp)
    · intro h state hstate
      have hflag := ExtTreeMap.mem_toList_iff_getElem?_eq_some.mp hstate
      by_contra hfalse
      rw [Bool.not_eq_true] at hfalse
      rw [hfalse] at hflag
      exact h _ hflag
  rw [← hall]
  unfold InnerBundleInfo.getRemovableModules
  rw [List.mem_map]
  constructor
  · rintro ⟨entry, hentry, hname⟩
    obtain ⟨hmem, hcan⟩ := List.mem_filter.mp hentry
    have hentry := ExtTreeMap.mem_toList_iff_getElem?_eq_some.mp hmem
    rw [← hkeyed _ _ hentry, hname, hget] at hentry
    obtain rfl := Option.some.inj hentry
    exact (Bool.and_eq_true_iff.mp hcan).2
  · intro hcan
    refine ⟨(moduleName, innerInfo), List.mem_filter.mpr ⟨?_, ?_⟩, hkeyed _ _ hget⟩
    · exact ExtTreeMap.mem_toList_iff_getElem?_eq_some.mpr hget
    · exact Bool.and_eq_true_iff.mpr ⟨hfree, hcan⟩

/-- The module with a request of `caller` written into both copies. -/
def InnerModuleInfo.requested (isEnable : Bool) (userId : Int) (caller : Str) (innerInfo : InnerModuleInfo) :
    InnerModuleInfo :=
  let pin := callingNameUid caller userId
  { innerInfo with
    isRemovable := innerInfo.isRemovable.insert (toDecimal userId) isEnable
    isRemovableSet := if isEnable then innerInfo.isRemovableSet.erase pin else innerInfo.isRemovableSet.insert pin }

theorem saveStorageBundleInfo_bundleInfos (mgr : BundleDataMgr) (info : InnerBundleInfo) (saved : Bool) :
    (mgr.saveStorageBundleInfo info saved).bundleInfos = mgr.bundleInfos := by
  unfold BundleDataMgr.saveStorageBundleInfo
  split <;> rfl

/-- The name under which `SetModuleRemovable` enters a caller. -/
def Env.callerName (env : Env) (callingUid : Int) : Str := (env.getNameForUid callingUid).getD (toDecimal callingUid)

/-- `SetModuleRemovable` in one step: it is turned down and nothing changes, or the request stands
in the module of that name. -/
theorem setModuleRemovable_cases (env : Env) (mgr : BundleDataMgr) (bundleName moduleName : Str) (isEnable : Bool)
    (userId callingUid : Int) (saved : Bool)
    (hkeyed : ∀ info, mgr.bundleInfos[bundleName]? = some info → info.Keyed) :
    mgr.setModuleRemovable env bundleName moduleName isEnable userId callingUid saved = (false, mgr) ∨
      ∃ (info : InnerBundleInfo) (innerInfo : InnerModuleInfo), saved = true ∧
        mgr.bundleInfos[bundleName]? = some info ∧ info.innerModuleInfos[moduleName]? = some innerInfo ∧
        (mgr.setModuleRemovable env bundleName moduleName isEnable userId callingUid saved).1 = true ∧
        (mgr.setModuleRemovable env bundleName moduleName isEnable userId callingUid saved).2.bundleInfos =
          mgr.bundleInfos.insert bundleName
            { info with
              innerModuleInfos := info.innerModuleInfos.insert moduleName
                (innerInfo.requested isEnable userId (env.callerName callingUid)) } := by
  unfold BundleDataMgr.setModuleRemovable
  split
  · exact .inl rfl
  split
  · exact .inl rfl
  dsimp only
  split
  · exact .inl rfl
  next info hinfo =>
  rw [← Env.callerName]
  generalize env.callerName callingUid = caller
  split
  · exact .inl rfl
  next newInfo hnew =>
  split
  swap
  · exact .inl rfl
  next hsaved =>
  rcases hget : info.innerModuleInfos[moduleName]? with _ | innerInfo
  · -- Without the module the copy is the record, and it is not found there either.
    have hsame : info.setModuleRemovableSet moduleName isEnable userId caller = info := by
      unfold InnerBundleInfo.setModuleRemovableSet
      rw [hget]
    rw [hsame] at hnew
    unfold InnerBundleInfo.setModuleRemovable at hnew
    rw [findModule_eq (hkeyed info hinfo), hget] at hnew
    cases hnew
  · refine .inr ⟨info, innerInfo, hsaved, hinfo, hget, ?_, ?_⟩
    · unfold InnerBundleInfo.setModuleRemovable
      rw [findModule_eq (hkeyed info hinfo), hget]
      rfl
    · have hset : info.setModuleRemovable moduleName isEnable userId = some
          { info with
            innerModuleInfos := info.innerModuleInfos.insert moduleName
              (innerInfo.addModuleRemovableInfo (toDecimal userId) isEnable) } := by
        unfold InnerBundleInfo.setModuleRemovable
        rw [findModule_eq (hkeyed info hinfo), hget]
        rfl
      rw [hset, Option.getD_some, saveStorageBundleInfo_bundleInfos]
      unfold InnerBundleInfo.setModuleRemovableSet
      dsimp only
      rw [MapLoop.getElem?_insert_eq, if_pos rfl]
      dsimp only
      rw [MapLoop.insert_insert]
      rfl

theorem addInnerBundleUserInfo_cases (mgr : BundleDataMgr) (bundleName : Str) (userId : Int)
    (user : InnerBundleUserInfo) (saved : Bool) :
    mgr.addInnerBundleUserInfo bundleName userId user saved = (false, mgr) ∨
      ∃ info : InnerBundleInfo, mgr.bundleInfos[bundleName]? = some info ∧
        (mgr.addInnerBundleUserInfo bundleName userId user saved).1 = true ∧
        (mgr.addInnerBundleUserInfo bundleName userId user saved).2.bundleInfos =
          mgr.bundleInfos.insert bundleName (info.addInnerBundleUserInfo userId user) := by
  unfold BundleDataMgr.addInnerBundleUserInfo
  rcases mgr.bundleInfos[bundleName]? with _ | info
  · exact .inl rfl
  cases saved with
  | false => exact .inl rfl
  | true => exact .inr ⟨info, rfl, rfl, rfl⟩

theorem removeInnerBundleUserInfo_cases (env : Env) (mgr : BundleDataMgr) (bundleName : Str) (userId : Int)
    (saved : Bool) :
    mgr.removeInnerBundleUserInfo env bundleName userId saved = (false, mgr) ∨
      ∃ info : InnerBundleInfo, mgr.bundleInfos[bundleName]? = some info ∧
        (mgr.removeInnerBundleUserInfo env bundleName userId saved).1 = true ∧
        (mgr.removeInnerBundleUserInfo env bundleName userId saved).2.bundleInfos =
          mgr.bundleInfos.insert bundleName (info.removeInnerBundleUserInfo userId) := by
  unfold BundleDataMgr.removeInnerBundleUserInfo
  rcases mgr.bundleInfos[bundleName]? with _ | info
  · exact .inl rfl
  cases saved with
  | false => exact .inl rfl
  | true => exact .inr ⟨info, rfl, rfl, saveStorageBundleInfo_bundleInfos _ _ true⟩

theorem foldl_deleteModuleRemovable {userId : Int} {l : List (Str × InnerModuleInfo)}
    (hl : ∀ entry ∈ l, entry.2.moduleName = entry.1) {info : InnerBundleInfo} (hkeyed : info.Keyed) :
    l.foldl (fun info entry => info.deleteModuleRemovable entry.2.moduleName userId) info =
      { info with
        innerModuleInfos := l.foldl
          (fun modules entry => modules.modify entry.1 fun innerInfo =>
            innerInfo.deleteModuleRemovableInfo (toDecimal userId)) info.innerModuleInfos } := by
  induction l generalizing info with
  | nil => rfl
  | cons entry l ih =>
    have hstep : info.deleteModuleRemovable entry.2.moduleName userId =
        { info with
          innerModuleInfos := info.innerModuleInfos.modify entry.1 fun innerInfo =>
            innerInfo.deleteModuleRemovableInfo (toDecimal userId) } := by
      unfold InnerBundleInfo.deleteModuleRemovable
      rw [hl entry List.mem_cons_self, findModule_eq hkeyed]
      rcases hget : info.innerModuleInfos[entry.1]? with _ | innerInfo
      · rw [MapLoop.modify_of_none hget]
        rfl
      · dsimp only [Option.map_some]
        rw [MapLoop.insert_eq_modify hget fun innerInfo => innerInfo.deleteModuleRemovableInfo (toDecimal userId)]
    have hkeyed' : (info.deleteModuleRemovable entry.2.moduleName userId).Keyed := by
      rw [hstep]
      intro key innerInfo h
      rw [MapLoop.getElem?_modify_eq] at h
      split at h
      · obtain ⟨innerInfo', hget, rfl⟩ := Option.map_eq_some_iff.mp h
        exact hkeyed key innerInfo' hget
      · exact hkeyed key innerInfo h
    rw [List.foldl_cons, ih (fun e he => hl e (List.mem_cons_of_mem _ he)) hkeyed', hstep]
    rfl

/-- Removing a user of the bundle clears that user's entries in every module. -/
theorem removeInnerBundleUserInfo_eq {info : InnerBundleInfo} (hkeyed : info.Keyed) {userId : Int}
    (huser : info.hasUser userId = true) :
    ∃ modules : StrMap InnerModuleInfo,
      info.removeInnerBundleUserInfo userId =
        { info with
          innerBundleUserInfos := info.innerBundleUserInfos.erase (nameAndUserIdToKey info.bundleName userId)
          innerModuleInfos := modules } ∧
      ∀ key : Str, modules[key]? =
        info.innerModuleInfos[key]?.map fun innerInfo => innerInfo.deleteModuleRemovableInfo (toDecimal userId) := by
  have hnames : ∀ entry ∈ info.innerModuleInfos.toList, entry.2.moduleName = entry.1 := by
    intro entry hentry
    exact hkeyed entry.1 entry.2 (ExtTreeMap.mem_toList_iff_getElem?_eq_some.mp hentry)
  refine ⟨info.innerModuleInfos.toList.foldl (fun modules entry => modules.modify entry.1 fun innerInfo =>
    innerInfo.deleteModuleRemovableInfo (toDecimal userId)) info.innerModuleInfos, ?_, ?_⟩
  · unfold InnerBundleInfo.removeInnerBundleUserInfo
    rw [if_pos huser]
    exact foldl_deleteModuleRemovable hnames hkeyed
  · intro key
    have hlocal : MapLoop.Local
        (fun (modules : StrMap InnerModuleInfo) (entry : Str × InnerModuleInfo) => modules.modify entry.1 fun innerInfo =>
          innerInfo.deleteModuleRemovableInfo (toDecimal userId))
        (fun modules (key : Str) => modules[key]?)
        (fun _ _ seen => seen.map fun innerInfo => innerInfo.deleteModuleRemovableInfo (toDecimal userId)) := by
      constructor
      · intro modules k v
        rw [MapLoop.getElem?_modify_eq, if_pos rfl]
      · intro modules k v k' hne
        rw [MapLoop.getElem?_modify_eq, if_neg hne]
    have hpass := hlocal.foldl_toList info.innerModuleInfos info.innerModuleInfos key
    rw [hpass]
    cases info.innerModuleInfos[key]? <;> rfl

/-! ## What the callers asked for -/

inductive PinOp where
  | setModuleRemovable (bundleName moduleName : Str) (isEnable : Bool) (userId callingUid : Int)
  | addInnerBundleUserInfo (bundleName : Str) (userId : Int) (user : InnerBundleUserInfo)
  | removeInnerBundleUserInfo (bundleName : Str) (userId : Int)

/-- An operation, with what it finds around it. -/
structure PinCall where
  env : Env
  saved : Bool
  op : PinOp

def PinCall.serve (call : PinCall) (mgr : BundleDataMgr) : Bool × BundleDataMgr :=
  match call.op with
  | .setModuleRemovable bundleName moduleName isEnable userId callingUid =>
    mgr.setModuleRemovable call.env bundleName moduleName isEnable userId callingUid call.saved
  | .addInnerBundleUserInfo bundleName userId user => mgr.addInnerBundleUserInfo bundleName userId user call.saved
  | .removeInnerBundleUserInfo bundleName userId =>
    mgr.removeInnerBundleUserInfo call.env bundleName userId call.saved

/-- The last request of each caller for a module and a user. -/
abbrev Ledger := Str → Str → Int → Option Bool

def Ledger.write (last : Ledger) (caller moduleName : Str) (userId : Int) (isEnable : Bool) : Ledger :=
  fun caller' moduleName' userId' =>
    if caller' = caller ∧ moduleName' = moduleName ∧ userId' = userId then some isEnable
    else last caller' moduleName' userId'

def Ledger.forget (last : Ledger) (userId : Int) : Ledger :=
  fun caller moduleName userId' => if userId' = userId then none else last caller moduleName userId'

def BundleDataMgr.hasUser (mgr : BundleDataMgr) (bundleName : Str) (userId : Int) : Bool :=
  mgr.bundleInfos[bundleName]?.any fun info => info.hasUser userId

/-- What a served operation does to the requests for the bundle `b`: a user who is added or
removed starts without any. -/
def PinCall.enter (b : Str) (call : PinCall) (mgr : BundleDataMgr) (last : Ledger) : Ledger :=
  match call.op with
  | .setModuleRemovable bundleName moduleName isEnable userId callingUid =>
    if bundleName = b then last.write (call.env.callerName callingUid) moduleName userId isEnable else last
  | .addInnerBundleUserInfo bundleName userId _ =>
    if bundleName = b ∧ mgr.hasUser b userId = false then last.forget userId else last
  | .removeInnerBundleUserInfo bundleName userId => if bundleName = b then last.forget userId else last

structure PinState where
  mgr : BundleDataMgr
  last : Ledger

def pinStep (b : Str) (s : PinState) (call : PinCall) : PinState where
  mgr := (call.serve s.mgr).2
  last := if (call.serve s.mgr).1 then call.enter b s.mgr s.last else s.last

/-- The callers mind each other: a removal is allowed only when no other caller has the module
pinned for that user, and a module is pinned for a user of the bundle. -/
def PinCall.Minds (b : Str) (s : PinState) (call : PinCall) : Prop :=
  match call.op with
  | .setModuleRemovable bundleName moduleName isEnable userId callingUid =>
    bundleName = b → call.saved = true →
      if isEnable then
        ∀ caller, caller ≠ call.env.callerName callingUid → s.last caller moduleName userId ≠ some false
      else s.mgr.hasUser b userId = true
  | _ => True

/-- What the two readers and the removal of a user owe the callers. -/
structure PinsRight (b : Str) (s : PinState) : Prop where
  reported : ∀ (info : InnerBundleInfo) (moduleName : Str) (innerInfo : InnerModuleInfo) (userId : Int),
    s.mgr.bundleInfos[b]? = some info → info.innerModuleInfos[moduleName]? = some innerInfo →
    ∃ isRemovable, info.isModuleRemovable moduleName userId = .ok isRemovable ∧
      (isRemovable = false ↔ ∃ caller, s.last caller moduleName userId = some false)
  offered : ∀ (info : InnerBundleInfo) (moduleName : Str) (innerInfo : InnerModuleInfo),
    s.mgr.bundleInfos[b]? = some info → info.innerModuleInfos[moduleName]? = some innerInfo →
    innerInfo.installationFree = true →
    (moduleName ∈ info.getRemovableModules ↔
      ∀ userId, info.hasUser userId = true → ¬ ∃ caller, s.last caller moduleName userId = some false)
  dropped : ∀ (info : InnerBundleInfo) (moduleName : Str) (innerInfo : InnerModuleInfo) (userId : Int),
    s.mgr.bundleInfos[b]? = some info → info.innerModuleInfos[moduleName]? = some innerInfo →
    info.hasUser userId = true →
    ∃ innerInfo', (info.removeInnerBundleUserInfo userId).innerModuleInfos[moduleName]? = some innerInfo' ∧
      ∀ caller userId', callingNameUid caller userId' ∈ innerInfo'.isRemovableSet ↔
        callingNameUid caller userId' ∈ innerInfo.isRemovableSet ∧ userId' ≠ userId

/-! ## The two copies agree -/

/-- The set holds the standing pins, and the flag of a user is down just when there is one. -/
structure InnerModuleInfo.Agrees (innerInfo : InnerModuleInfo) (last : Str → Int → Option Bool) : Prop where
  pins : ∀ pin, pin ∈ innerInfo.isRemovableSet ↔
    ∃ caller userId, pin = callingNameUid caller userId ∧ last caller userId = some false
  flags : ∀ key : Str, innerInfo.isRemovable[key]? = some false ↔
    ∃ caller userId, key = toDecimal userId ∧ last caller userId = some false

section Agrees

variable {innerInfo : InnerModuleInfo} {last last' : Str → Int → Option Bool}

theorem InnerModuleInfo.Agrees.mem_iff (h : innerInfo.Agrees last) (caller : Str) (userId : Int) :
    callingNameUid caller userId ∈ innerInfo.isRemovableSet ↔ last caller userId = some false := by
  rw [h.pins]
  constructor
  · rintro ⟨caller', userId', e, hlast⟩
    obtain ⟨rfl, rfl⟩ := callingNameUid_inj e
    exact hlast
  · intro hlast
    exact ⟨caller, userId, rfl, hlast⟩

theorem InnerModuleInfo.Agrees.flag_iff (h : innerInfo.Agrees last) (userId : Int) :
    innerInfo.isRemovable[toDecimal userId]? = some false ↔ ∃ caller, last caller userId = some false := by
  rw [h.flags]
  constructor
  · rintro ⟨caller, userId', e, hlast⟩
    obtain rfl := toDecimal_injective e
    exact ⟨caller, hlast⟩
  · rintro ⟨caller, hlast⟩
    exact ⟨caller, userId, rfl, hlast⟩

theorem InnerModuleInfo.Agrees.isRemovableSet_iff (h : innerInfo.Agrees last) (userId : Int) :
    InnerBundleInfo.isRemovableSet innerInfo userId = true ↔ ∃ caller, last caller userId = some false := by
  unfold InnerBundleInfo.isRemovableSet
  rw [List.any_eq_true]
  constructor
  · rintro ⟨pin, hpin, hof⟩
    rw [ExtTreeSet.mem_toList] at hpin
    obtain ⟨caller, userId', rfl, hlast⟩ := (h.pins pin).mp hpin
    obtain rfl := (isPinOf_callingNameUid caller userId' userId).mp hof
    exact ⟨caller, hlast⟩
  · rintro ⟨caller, hlast⟩
    refine ⟨callingNameUid caller userId, ?_, (isPinOf_callingNameUid caller userId userId).mpr rfl⟩
    rw [ExtTreeSet.mem_toList]
    exact (h.mem_iff caller userId).mpr hlast

theorem InnerModuleInfo.Agrees.of_iff (h : innerInfo.Agrees last)
    (hiff : ∀ caller userId, last' caller userId = some false ↔ last caller userId = some false) :
    innerInfo.Agrees last' := by
  constructor
  · intro pin
    simp only [hiff]
    exact h.pins pin
  · intro key
    simp only [hiff]
    exact h.flags key

/-- **A request** keeps the copies in step when it does not allow what another caller forbids. -/
theorem InnerModuleInfo.Agrees.requested (h : innerInfo.Agrees last) {isEnable : Bool} {userId : Int} {caller : Str}
    (hself : last' caller userId = some isEnable)
    (hother : ∀ caller' userId', ¬ (caller' = caller ∧ userId' = userId) → last' caller' userId' = last caller' userId')
    (hminds : isEnable = true → ∀ caller', caller' ≠ caller → last caller' userId ≠ some false) :
    (innerInfo.requested isEnable userId caller).Agrees last' := by
  constructor
  · intro pin
    have hiff : pin ∈ (innerInfo.requested isEnable userId caller).isRemovableSet ↔
        if pin = callingNameUid caller userId then isEnable = false else pin ∈ innerInfo.isRemovableSet := by
      unfold InnerModuleInfo.requested
      dsimp only
      cases isEnable with
      | true =>
        rw [if_pos rfl, ExtTreeSet.mem_erase]
        by_cases hpin : pin = callingNameUid caller userId
        · simp [hpin]
        · simp [hpin, Ne.symm hpin]
      | false =>
        rw [if_neg (by simp), ExtTreeSet.mem_insert]
        by_cases hpin : pin = callingNameUid caller userId
        · simp [hpin]
        · simp [hpin, Ne.symm hpin]
    rw [hiff]
    split
    · next hpin =>
      subst hpin
      constructor
      · rintro rfl
        exact ⟨caller, userId, rfl, hself⟩
      · rintro ⟨caller', userId', e, hlast⟩
        obtain ⟨rfl, rfl⟩ := callingNameUid_inj e
        rw [hself] at hlast
        exact Option.some.inj hlast
    · next hpin =>
      rw [h.pins]
      constructor
      · rintro ⟨caller', userId', rfl, hlast⟩
        refine ⟨caller', userId', rfl, ?_⟩
        rw [hother caller' userId' fun e => hpin (by rw [e.1, e.2])]
        exact hlast
      · rintro ⟨caller', userId', rfl, hlast⟩
        refine ⟨caller', userId', rfl, ?_⟩
        rw [← hother caller' userId' fun e => hpin (by rw [e.1, e.2])]
        exact hlast
  · intro key
    unfold InnerModuleInfo.requested
    dsimp only
    rw [MapLoop.getElem?_insert_eq]
    split
    · next hkey =>
      subst hkey
      constructor
      · intro e
        obtain rfl := Option.some.inj e
        exact ⟨caller, userId, rfl, hself⟩
      · rintro ⟨caller', userId', e, hlast⟩
        obtain rfl := toDecimal_injective e
        by_cases hcaller : caller' = caller
        · subst hcaller
          rw [← hself]
          exact hlast
        · rw [hother caller' userId fun e => hcaller e.1] at hlast
          cases isEnable with
          | true => exact absurd hlast (hminds rfl caller' hcaller)
          | false => rfl
    · next hkey =>
      rw [h.flags]
      constructor
      · rintro ⟨caller', userId', rfl, hlast⟩
        refine ⟨caller', userId', rfl, ?_⟩
        rw [hother caller' userId' fun e => hkey (by rw [e.2])]
        exact hlast
      · rintro ⟨caller', userId', rfl, hlast⟩
        refine ⟨caller', userId', rfl, ?_⟩
        rw [← hother caller' userId' fun e => hkey (by rw [e.2])]
        exact hlast

theorem mem_deleteModuleRemovableInfo (userId : Int) (pin : Str) :
    pin ∈ (innerInfo.deleteModuleRemovableInfo (toDecimal userId)).isRemovableSet ↔
      pin ∈ innerInfo.isRemovableSet ∧ isPinOf (toDecimal userId) pin = false := by
  unfold InnerModuleInfo.deleteModuleRemovableInfo
  rw [ExtTreeSet.mem_filter]
  simp

/-- **A removed user** takes the pins and the flag along. -/
theorem InnerModuleInfo.Agrees.deleted (h : innerInfo.Agrees last) {userId : Int}
    (hlast : ∀ caller userId', last' caller userId' = if userId' = userId then none else last caller userId') :
    (innerInfo.deleteModuleRemovableInfo (toDecimal userId)).Agrees last' := by
  have hiff : ∀ caller userId', last' caller userId' = some false ↔
      last caller userId' = some false ∧ userId' ≠ userId := by
    intro caller userId'
    rw [hlast]
    split
    · next e => simp [e]
    · next e => simp [e]
  constructor
  · intro pin
    rw [mem_deleteModuleRemovableInfo, h.pins]
    constructor
    · rintro ⟨⟨caller, userId', rfl, hpin⟩, hof⟩
      refine ⟨caller, userId', rfl, (hiff _ _).mpr ⟨hpin, fun e => ?_⟩⟩
      rw [(isPinOf_callingNameUid caller userId' userId).mpr e] at hof
      cases hof
    · rintro ⟨caller, userId', rfl, hpin⟩
      obtain ⟨hpin, hne⟩ := (hiff _ _).mp hpin
      refine ⟨⟨caller, userId', rfl, hpin⟩, ?_⟩
      rw [← Bool.not_eq_true, isPinOf_callingNameUid]
      exact hne
  · intro key
    unfold InnerModuleInfo.deleteModuleRemovableInfo
    dsimp only
    rw [MapLoop.getElem?_erase_eq]
    split
    · next hkey =>
      refine ⟨fun e => absurd e (by simp), ?_⟩
      rintro ⟨caller, userId', e, hpin⟩
      obtain rfl := toDecimal_injective (hkey.symm.trans e)
      exact absurd rfl ((hiff _ _).mp hpin).2
    · next hkey =>
      rw [h.flags]
      constructor
      · rintro ⟨caller, userId', rfl, hpin⟩
        exact ⟨caller, userId', rfl, (hiff _ _).mpr ⟨hpin, fun e => hkey (by rw [e])⟩⟩
      · rintro ⟨caller, userId', rfl, hpin⟩
        exact ⟨caller, userId', rfl, ((hiff _ _).mp hpin).1⟩

end Agrees

/-! ## Runs -/

structure PinInv (b : Str) (s : PinState) : Prop where
  keyed : ∀ info, s.mgr.bundleInfos[b]? = some info → info.Keyed
  atomic : ∀ info, s.mgr.bundleInfos[b]? = some info → info.applicationBundleType = .ATOMIC_SERVICE
  agrees : ∀ (info : InnerBundleInfo) (moduleName : Str) (innerInfo : InnerModuleInfo),
    s.mgr.bundleInfos[b]? = some info → info.innerModuleInfos[moduleName]? = some innerInfo →
    innerInfo.Agrees fun caller userId => s.last caller moduleName userId
  users : ∀ caller moduleName userId, s.last caller moduleName userId = some false → s.mgr.hasUser b userId = true

section Runs

variable {b : Str} {s s' : PinState}

theorem PinInv.right (h : PinInv b s) : PinsRight b s := by
  constructor
  · intro info moduleName innerInfo userId hinfo hget
    have hagrees := h.agrees info moduleName innerInfo hinfo hget
    unfold InnerBundleInfo.isModuleRemovable InnerBundleInfo.getInnerModuleInfoByModuleName
    rw [findModule_eq (h.keyed info hinfo), hget]
    dsimp only [Option.map_some]
    rw [if_neg (not_not_intro (h.atomic info hinfo))]
    split
    · next hset => exact ⟨false, rfl, iff_of_true rfl ((hagrees.isRemovableSet_iff userId).mp hset)⟩
    next hset =>
    have hnone : ¬ ∃ caller, s.last caller moduleName userId = some false :=
      fun hpin => hset ((hagrees.isRemovableSet_iff userId).mpr hpin)
    split
    · exact ⟨true, rfl, iff_of_false (by simp) hnone⟩
    · next isRemovable hflag =>
      refine ⟨isRemovable, rfl, ?_, fun hpin => absurd hpin hnone⟩
      rintro rfl
      exact (hagrees.flag_iff userId).mp hflag
  · intro info moduleName innerInfo hinfo hget hfree
    have hagrees := h.agrees info moduleName innerInfo hinfo hget
    rw [mem_getRemovableModules (h.keyed info hinfo) hget hfree]
    constructor
    · intro hflags userId _ hpin
      exact hflags _ ((hagrees.flag_iff userId).mpr hpin)
    · intro hpins key hflag
      obtain ⟨caller, userId, -, hlast⟩ := (hagrees.flags key).mp hflag
      have huser := h.users caller moduleName userId hlast
      unfold BundleDataMgr.hasUser at huser
      rw [hinfo] at huser
      exact hpins userId huser ⟨caller, hlast⟩
  · intro info moduleName innerInfo userId hinfo hget huser
    obtain ⟨modules, heq, hmodules⟩ := removeInnerBundleUserInfo_eq (h.keyed info hinfo) huser
    refine ⟨innerInfo.deleteModuleRemovableInfo (toDecimal userId), ?_, ?_⟩
    · rw [heq]
      dsimp only
      rw [hmodules, hget]
      rfl
    · intro caller userId'
      rw [mem_deleteModuleRemovableInfo, ← Bool.not_eq_true, isPinOf_callingNameUid]

/-- The invariant, given by the record. -/
theorem PinInv.of_record {info : InnerBundleInfo} (hinfo : s.mgr.bundleInfos[b]? = some info) (hkeyed : info.Keyed)
    (hatomic : info.applicationBundleType = .ATOMIC_SERVICE)
    (hagrees : ∀ (moduleName : Str) (innerInfo : InnerModuleInfo), info.innerModuleInfos[moduleName]? = some innerInfo →
      innerInfo.Agrees fun caller userId => s.last caller moduleName userId)
    (husers : ∀ caller moduleName userId, s.last caller moduleName userId = some false →
      info.hasUser userId = true) : PinInv b s := by
  constructor
  · intro info' hinfo'
    obtain rfl := Option.some.inj (hinfo.symm.trans hinfo')
    exact hkeyed
  · intro info' hinfo'
    obtain rfl := Option.some.inj (hinfo.symm.trans hinfo')
    exact hatomic
  · intro info' moduleName innerInfo hinfo'
    obtain rfl := Option.some.inj (hinfo.symm.trans hinfo')
    exact hagrees moduleName innerInfo
  · intro caller moduleName userId hpin
    unfold BundleDataMgr.hasUser
    rw [hinfo]
    exact husers caller moduleName userId hpin

theorem PinInv.hasUser (h : PinInv b s) {info : InnerBundleInfo} (hinfo : s.mgr.bundleInfos[b]? = some info)
    {caller moduleName : Str} {userId : Int} (hpin : s.last caller moduleName userId = some false) :
    info.hasUser userId = true := by
  have huser := h.users caller moduleName userId hpin
  unfold BundleDataMgr.hasUser at huser
  rw [hinfo] at huser
  exact huser

/-- What does not reach the bundle does not matter. -/
theorem PinInv.of_same (h : PinInv b s) (hget : s'.mgr.bundleInfos[b]? = s.mgr.bundleInfos[b]?)
    (hlast : s'.last = s.last) : PinInv b s' := by
  constructor
  · rw [hget]
    exact h.keyed
  · rw [hget]
    exact h.atomic
  · rw [hget, hlast]
    exact h.agrees
  · unfold BundleDataMgr.hasUser
    rw [hlast, hget]
    exact h.users

/-- The modules are the same, no user has gone, and the same pins are held. -/
theorem PinInv.of_pins (h : PinInv b s) {info info' : InnerBundleInfo} (hinfo : s.mgr.bundleInfos[b]? = some info)
    (hget : s'.mgr.bundleInfos[b]? = some info') (hmodules : info'.innerModuleInfos = info.innerModuleInfos)
    (htype : info'.applicationBundleType = info.applicationBundleType)
    (husers : ∀ userId, info.hasUser userId = true → info'.hasUser userId = true)
    (hpins : ∀ caller moduleName userId,
      s'.last caller moduleName userId = some false ↔ s.last caller moduleName userId = some false) : PinInv b s' := by
  refine .of_record hget ?_ (htype.trans (h.atomic info hinfo)) ?_ ?_
  · unfold InnerBundleInfo.Keyed
    rw [hmodules]
    exact h.keyed info hinfo
  · intro moduleName innerInfo hmodule
    rw [hmodules] at hmodule
    exact (h.agrees info moduleName innerInfo hinfo hmodule).of_iff fun _ _ => hpins _ _ _
  · intro caller moduleName userId hpin
    exact husers userId (h.hasUser hinfo ((hpins _ _ _).mp hpin))

/-- Nothing is forgotten of a user without pins. -/
theorem forget_eq_false_iff {last : Ledger} {userId : Int}
    (h : ∀ caller moduleName, last caller moduleName userId ≠ some false)
    (caller moduleName : Str) (userId' : Int) :
    last.forget userId caller moduleName userId' = some false ↔ last caller moduleName userId' = some false := by
  unfold Ledger.forget
  split
  · next e => exact iff_of_false (by simp) (e ▸ h caller moduleName)
  · exact Iff.rfl

theorem InnerBundleInfo.Keyed.insert {info : InnerBundleInfo} (h : info.Keyed) {moduleName : Str}
    {innerInfo : InnerModuleInfo} (hname : innerInfo.moduleName = moduleName) :
    InnerBundleInfo.Keyed { info with innerModuleInfos := info.innerModuleInfos.insert moduleName innerInfo } := by
  intro key innerInfo' hget
  dsimp only at hget
  rw [MapLoop.getElem?_insert_eq] at hget
  split at hget
  · next hkey =>
    obtain rfl := Option.some.inj hget
    exact hname.trans hkey.symm
  · exact h key innerInfo' hget

theorem PinInv.of_refused (h : PinInv b s) {call : PinCall} (hrefused : call.serve s.mgr = (false, s.mgr)) :
    PinInv b (pinStep b s call) := by
  refine h.of_same ?_ ?_
  · unfold pinStep
    rw [hrefused]
  · unfold pinStep
    rw [hrefused]
    rfl

/-- An operation on one bundle leaves the others. -/
theorem setModuleRemovable_other (env : Env) (mgr : BundleDataMgr) {bundleName : Str} (h : b ≠ bundleName)
    (moduleName : Str) (isEnable : Bool) (userId callingUid : Int) (saved : Bool) :
    (mgr.setModuleRemovable env bundleName moduleName isEnable userId callingUid saved).2.bundleInfos[b]? =
      mgr.bundleInfos[b]? := by
  unfold BundleDataMgr.setModuleRemovable
  split
  · rfl
  split
  · rfl
  dsimp only
  split
  · rfl
  split
  · rfl
  split
  · dsimp only
    rw [MapLoop.getElem?_insert_eq, if_neg h, saveStorageBundleInfo_bundleInfos]
  · rfl

theorem PinInv.setModuleRemovable (h : PinInv b s) {env : Env} {saved : Bool} {bundleName moduleName : Str}
    {isEnable : Bool} {userId callingUid : Int}
    (hminds : PinCall.Minds b s ⟨env, saved, .setModuleRemovable bundleName moduleName isEnable userId callingUid⟩) :
    PinInv b (pinStep b s ⟨env, saved, .setModuleRemovable bundleName moduleName isEnable userId callingUid⟩) := by
  by_cases hb : b = bundleName
  swap
  · refine h.of_same (setModuleRemovable_other env s.mgr hb moduleName isEnable userId callingUid saved) ?_
    unfold pinStep PinCall.enter
    dsimp only
    rw [if_neg (Ne.symm hb), ite_self]
  subst hb
  rcases setModuleRemovable_cases env s.mgr b moduleName isEnable userId callingUid saved h.keyed with
    hrefused | ⟨info, innerInfo, hsaved, hinfo, hget, hserved, hmgr⟩
  · exact h.of_refused hrefused
  have hafter : (pinStep b s ⟨env, saved, .setModuleRemovable b moduleName isEnable userId callingUid⟩).mgr.bundleInfos[b]? =
      some { info with
        innerModuleInfos := info.innerModuleInfos.insert moduleName
          (innerInfo.requested isEnable userId (env.callerName callingUid)) } := by
    show (s.mgr.setModuleRemovable env b moduleName isEnable userId callingUid saved).2.bundleInfos[b]? = _
    rw [hmgr, MapLoop.getElem?_insert_eq, if_pos rfl]
  have hlast : (pinStep b s ⟨env, saved, .setModuleRemovable b moduleName isEnable userId callingUid⟩).last =
      s.last.write (env.callerName callingUid) moduleName userId isEnable := by
    show (if (s.mgr.setModuleRemovable env b moduleName isEnable userId callingUid saved).1 then
      PinCall.enter b _ s.mgr s.last else s.last) = _
    rw [if_pos hserved]
    exact if_pos rfl
  have hminds : if isEnable then
      ∀ caller, caller ≠ env.callerName callingUid → s.last caller moduleName userId ≠ some false
      else s.mgr.hasUser b userId = true := hminds rfl hsaved
  refine .of_record hafter ?_ (h.atomic info hinfo) ?_ ?_
  · exact (h.keyed info hinfo).insert (h.keyed info hinfo moduleName innerInfo hget)
  · intro moduleName' innerInfo' hget'
    rw [hlast]
    dsimp only at hget'
    rw [MapLoop.getElem?_insert_eq] at hget'
    split at hget'
    · next hkey =>
      obtain rfl := Option.some.inj hget'
      subst hkey
      refine (h.agrees info moduleName' innerInfo hinfo hget).requested ?_ ?_ ?_
      · exact if_pos ⟨rfl, rfl, rfl⟩
      · intro caller' userId' hne
        exact if_neg fun e => hne ⟨e.1, e.2.2⟩
      · intro henable
        rw [if_pos henable] at hminds
        exact hminds
    · next hkey =>
      have hsame : (fun caller userId' => s.last.write (env.callerName callingUid) moduleName userId isEnable caller
          moduleName' userId') = fun caller userId' => s.last caller moduleName' userId' := by
        funext caller userId'
        exact if_neg fun e => hkey e.2.1
      rw [hsame]
      exact h.agrees info moduleName' innerInfo' hinfo hget'
  · intro caller moduleName' userId' hpin
    rw [hlast] at hpin
    unfold Ledger.write at hpin
    split at hpin
    · next e =>
      obtain rfl := Option.some.inj hpin
      rw [if_neg (by simp)] at hminds
      unfold BundleDataMgr.hasUser at hminds
      rw [hinfo] at hminds
      rw [e.2.2]
      exact hminds
    · exact h.hasUser hinfo hpin

theorem PinInv.addInnerBundleUserInfo (h : PinInv b s) (env : Env) (saved : Bool) (bundleName : Str) (userId : Int)
    (user : InnerBundleUserInfo) :
    PinInv b (pinStep b s ⟨env, saved, .addInnerBundleUserInfo bundleName userId user⟩) := by
  rcases addInnerBundleUserInfo_cases s.mgr bundleName userId user saved with hrefused | ⟨info, hinfo, hserved, hmgr⟩
  · exact h.of_refused hrefused
  have hlast : (pinStep b s ⟨env, saved, .addInnerBundleUserInfo bundleName userId user⟩).last =
      if bundleName = b ∧ s.mgr.hasUser b userId = false then s.last.forget userId else s.last := by
    show (if (s.mgr.addInnerBundleUserInfo bundleName userId user saved).1 then
      PinCall.enter b _ s.mgr s.last else s.last) = _
    rw [if_pos hserved]
    rfl
  have hafter : (pinStep b s ⟨env, saved, .addInnerBundleUserInfo bundleName userId user⟩).mgr.bundleInfos =
      s.mgr.bundleInfos.insert bundleName (info.addInnerBundleUserInfo userId user) := hmgr
  by_cases hb : b = bundleName
  swap
  · refine h.of_same ?_ ?_
    · rw [hafter, MapLoop.getElem?_insert_eq, if_neg hb]
    · rw [hlast, if_neg fun e => hb e.1.symm]
  subst hb
  have hget : (pinStep b s ⟨env, saved, .addInnerBundleUserInfo b userId user⟩).mgr.bundleInfos[b]? =
      some (info.addInnerBundleUserInfo userId user) := by
    rw [hafter, MapLoop.getElem?_insert_eq, if_pos rfl]
  refine h.of_pins hinfo hget rfl rfl (fun userId' huser => ?_) fun caller moduleName userId' => ?_
  · show ((info.innerBundleUserInfos.insert _ user).contains (nameAndUserIdToKey info.bundleName userId')) = true
    rw [ExtTreeMap.contains_insert, Bool.or_eq_true]
    exact .inr huser
  · rw [hlast]
    split
    · next hnew =>
      -- A user who is new has no pins: pins are for users of the bundle.
      refine forget_eq_false_iff (fun caller' moduleName' hpin => ?_) caller moduleName userId'
      rw [h.users caller' moduleName' userId hpin] at hnew
      cases hnew.2
    · exact Iff.rfl

theorem PinInv.removeInnerBundleUserInfo (h : PinInv b s) (env : Env) (saved : Bool) (bundleName : Str)
    (userId : Int) : PinInv b (pinStep b s ⟨env, saved, .removeInnerBundleUserInfo bundleName userId⟩) := by
  rcases removeInnerBundleUserInfo_cases env s.mgr bundleName userId saved with hrefused | ⟨info, hinfo, hserved, hmgr⟩
  · exact h.of_refused hrefused
  have hlast : (pinStep b s ⟨env, saved, .removeInnerBundleUserInfo bundleName userId⟩).last =
      if bundleName = b then s.last.forget userId else s.last := by
    show (if (s.mgr.removeInnerBundleUserInfo env bundleName userId saved).1 then
      PinCall.enter b _ s.mgr s.last else s.last) = _
    rw [if_pos hserved]
    rfl
  have hafter : (pinStep b s ⟨env, saved, .removeInnerBundleUserInfo bundleName userId⟩).mgr.bundleInfos =
      s.mgr.bundleInfos.insert bundleName (info.removeInnerBundleUserInfo userId) := hmgr
  by_cases hb : b = bundleName
  swap
  · refine h.of_same ?_ ?_
    · rw [hafter, MapLoop.getElem?_insert_eq, if_neg hb]
    · rw [hlast, if_neg (Ne.symm hb)]
  subst hb
  rw [if_pos rfl] at hlast
  have hget : (pinStep b s ⟨env, saved, .removeInnerBundleUserInfo b userId⟩).mgr.bundleInfos[b]? =
      some (info.removeInnerBundleUserInfo userId) := by
    rw [hafter, MapLoop.getElem?_insert_eq, if_pos rfl]
  by_cases huser : info.hasUser userId = true
  · obtain ⟨modules, heq, hmodules⟩ := removeInnerBundleUserInfo_eq (h.keyed info hinfo) huser
    rw [heq] at hget
    refine .of_record hget ?_ (h.atomic info hinfo) ?_ ?_
    · intro key innerInfo hmodule
      dsimp only at hmodule
      rw [hmodules] at hmodule
      obtain ⟨innerInfo', hbefore, rfl⟩ := Option.map_eq_some_iff.mp hmodule
      exact h.keyed info hinfo key innerInfo' hbefore
    · intro moduleName innerInfo hmodule
      dsimp only at hmodule
      rw [hmodules] at hmodule
      obtain ⟨innerInfo', hbefore, rfl⟩ := Option.map_eq_some_iff.mp hmodule
      rw [hlast]
      exact (h.agrees info moduleName innerInfo' hinfo hbefore).deleted fun _ _ => rfl
    · intro caller moduleName userId' hpin
      rw [hlast] at hpin
      unfold Ledger.forget at hpin
      split at hpin
      · cases hpin
      next hne =>
      have hhas := h.hasUser hinfo hpin
      show ((info.innerBundleUserInfos.erase (nameAndUserIdToKey info.bundleName userId)).contains
        (nameAndUserIdToKey info.bundleName userId')) = true
      rw [ExtTreeMap.contains_erase, Bool.and_eq_true]
      refine ⟨?_, hhas⟩
      rw [bne_iff_ne, ne_eq, LawfulEqOrd.compare_eq_iff_eq]
      intro e
      exact hne (nameAndUserIdToKey_injective info.bundleName e).symm
  · -- Not a user of the bundle: nothing is done, and there was no pin to forget.
    have hsame : info.removeInnerBundleUserInfo userId = info := by
      unfold InnerBundleInfo.removeInnerBundleUserInfo
      rw [if_neg huser]
    rw [hsame] at hget
    refine h.of_pins hinfo hget rfl rfl (fun _ => id) fun caller moduleName userId' => ?_
    rw [hlast]
    exact forget_eq_false_iff (fun caller' moduleName' hpin => huser (h.hasUser hinfo hpin)) caller moduleName userId'

theorem PinInv.step (h : PinInv b s) (call : PinCall) (hminds : call.Minds b s) : PinInv b (pinStep b s call) := by
  obtain ⟨env, saved, op⟩ := call
  cases op with
  | setModuleRemovable bundleName moduleName isEnable userId callingUid => exact h.setModuleRemovable hminds
  | addInnerBundleUserInfo bundleName userId user => exact h.addInnerBundleUserInfo env saved bundleName userId user
  | removeInnerBundleUserInfo bundleName userId => exact h.removeInnerBundleUserInfo env saved bundleName userId

end Runs

/-- An atomic service with its modules under their names, on which no request has been made. -/
structure Unpinned (b : Str) (mgr : BundleDataMgr) : Prop where
  keyed : ∀ info, mgr.bundleInfos[b]? = some info → info.Keyed
  atomic : ∀ info, mgr.bundleInfos[b]? = some info → info.applicationBundleType = .ATOMIC_SERVICE
  pins : ∀ (info : InnerBundleInfo) (moduleName : Str) (innerInfo : InnerModuleInfo),
    mgr.bundleInfos[b]? = some info → info.innerModuleInfos[moduleName]? = some innerInfo →
    (∀ pin, pin ∉ innerInfo.isRemovableSet) ∧ ∀ key : Str, innerInfo.isRemovable[key]? ≠ some false

theorem Unpinned.inv {b : Str} {mgr : BundleDataMgr} (h : Unpinned b mgr) : PinInv b ⟨mgr, fun _ _ _ => none⟩ := by
  constructor
  · exact h.keyed
  · exact h.atomic
  · intro info moduleName innerInfo hinfo hget
    obtain ⟨hpins, hflags⟩ := h.pins info moduleName innerInfo hinfo hget
    constructor
    · intro pin
      simp [hpins pin]
    · intro key
      simp [hflags key]
  · intro caller moduleName userId hpin
    cases hpin

/-- **Pins hold as long as callers mind each other**: in every state of a run in which a removal is
allowed only when no other caller pins the module, and modules are pinned for users of the bundle,
both readers answer by the last requests and removing a user drops that user's pins alone. -/
theorem pins_right_of_minds (b : Str) (mgr : BundleDataMgr) (calls : List PinCall) (hstart : Unpinned b mgr)
    (hminds : StepRun.Each (pinStep b) (fun s call => call.Minds b s) ⟨mgr, fun _ _ _ => none⟩ calls) :
    StepRun.Always (pinStep b) (PinsRight b) ⟨mgr, fun _ _ _ => none⟩ calls := by
  intro pre hpre
  exact (hminds.always (fun s call h hcall => h.step call hcall) hstart.inv pre hpre).right

/-- An atomic service with one module that may be removed, installed for user 100. -/
def serviceMgr : BundleDataMgr where
  bundleInfos := (∅ : StrMap InnerBundleInfo).insert "s".toList
    { bundleName := "s".toList
      applicationBundleType := .ATOMIC_SERVICE
      innerBundleUserInfos := (∅ : StrMap InnerBundleUserInfo).insert "s_100".toList {}
      innerModuleInfos := (∅ : StrMap InnerModuleInfo).insert "m".toList
        { moduleName := "m".toList, installationFree := true } }
  dataStorage := ∅

theorem serviceMgr_unpinned : Unpinned "s".toList serviceMgr := by
  have hone : ∀ info, serviceMgr.bundleInfos["s".toList]? = some info →
      info.applicationBundleType = .ATOMIC_SERVICE ∧
      ∀ (key : Str) (innerInfo : InnerModuleInfo), info.innerModuleInfos[key]? = some innerInfo →
        key = "m".toList ∧ innerInfo = { moduleName := "m".toList, installationFree := true } := by
    intro info hinfo
    unfold serviceMgr at hinfo
    rw [MapLoop.getElem?_insert_eq, if_pos rfl] at hinfo
    obtain rfl := Option.some.inj hinfo
    refine ⟨rfl, fun key innerInfo hget => ?_⟩
    dsimp only at hget
    rw [MapLoop.getElem?_insert_eq] at hget
    split at hget
    · next hkey => exact ⟨hkey, (Option.some.inj hget).symm⟩
    · simp at hget
  constructor
  · intro info hinfo key innerInfo hget
    obtain ⟨rfl, rfl⟩ := (hone info hinfo).2 key innerInfo hget
    rfl
  · intro info hinfo
    exact (hone info hinfo).1
  · intro info moduleName innerInfo hinfo hget
    obtain ⟨-, rfl⟩ := (hone info hinfo).2 moduleName innerInfo hget
    exact ⟨fun pin => by simp, fun key => by simp⟩

/-- The caller of uid `callingUid` asks for the module of `serviceMgr`. -/
def serviceCall (isEnable : Bool) (callingUid : Int) : PinCall :=
  ⟨demoEnv, true, .setModuleRemovable "s".toList "m".toList isEnable 100 callingUid⟩

/-- One caller pins the module and lets it go again. -/
theorem pins_right_one_caller :
    StepRun.Always (pinStep "s".toList) (PinsRight "s".toList) ⟨serviceMgr, fun _ _ _ => none⟩
      [serviceCall false 1, serviceCall true 1] := by
  refine pins_right_of_minds "s".toList serviceMgr _ serviceMgr_unpinned ⟨?_, ?_, trivial⟩
  · intro _ _
    show serviceMgr.hasUser "s".toList 100 = true
    decide +kernel
  · intro _ _ caller hcaller
    show (if ((serviceCall false 1).serve serviceMgr).1 then
      Ledger.write (fun _ _ _ => none) (demoEnv.callerName 1) "m".toList 100 false else fun _ _ _ => none)
      caller "m".toList 100 ≠ some false
    split
    · unfold Ledger.write
      rw [if_neg fun e => hcaller e.1]
      simp
    · simp

/-- Another caller lets the module go while the first still pins it: it is offered. -/
theorem pinned_module_offered :
    Unpinned "s".toList serviceMgr ∧
      ¬ StepRun.Always (pinStep "s".toList) (PinsRight "s".toList) ⟨serviceMgr, fun _ _ _ => none⟩
        [serviceCall false 1, serviceCall true 2] := by
  refine ⟨serviceMgr_unpinned, fun halways => ?_⟩
  have hright := halways.last
  have hseen : (([serviceCall false 1, serviceCall true 2].foldl (pinStep "s".toList)
      ⟨serviceMgr, fun _ _ _ => none⟩).mgr.bundleInfos["s".toList]?.bind fun info =>
        info.innerModuleInfos["m".toList]?.map fun innerInfo =>
          (innerInfo.installationFree, info.hasUser 100, info.getRemovableModules)) =
      some (true, true, ["m".toList]) := by decide +kernel
  obtain ⟨info, hinfo, hseen⟩ := Option.bind_eq_some_iff.mp hseen
  obtain ⟨innerInfo, hget, hseen⟩ := Option.map_eq_some_iff.mp hseen
  have hfree := congrArg Prod.fst hseen
  have huser := congrArg (fun seen => seen.2.1) hseen
  have hmodules := congrArg (fun seen => seen.2.2) hseen
  have hmem : "m".toList ∈ info.getRemovableModules := by
    rw [show info.getRemovableModules = ["m".toList] from hmodules]
    exact List.mem_cons_self
  refine (hright.offered info "m".toList innerInfo hinfo hget hfree).mp hmem 100 huser ⟨"1".toList, ?_⟩
  decide +kernel

end BundleFramework.BundleState
