import BundleFramework.AppControl.Table
import BundleFramework.Lib.StepRun

/-!
# The app-control manager

`app_control_manager.cpp` over the table: the list mode of each user
(`runningRuleSettingStatusMap_`), the cache of running-control answers
(`appRunningControlRuleResult_`), and the calls that change the table.

The bundle data manager is a fixed view here (`BundleView`): the calls read it and do not
change it.  What the calls do to `abilityRunningControlRuleCache_` is modelled with its
readers, in `AbilityRules`.
-/

namespace BundleFramework.AppControl

open Std RowTable

inductive RunningRuleSettingStatus where
  | NO_SET
  | WHITE_LIST
  | BLACK_LIST
  deriving DecidableEq, Repr

structure AppRunningControlRuleResult (Want : Type) where
  isEdm : Bool := false
  controlMessage : Str := []
  controlWant : Option Want := none
  deriving DecidableEq

def INVALID_MESSAGE : Str := "INVALID_MESSAGE".toList

/-! ## The bundles -/

/-- What these calls read of a bundle record. -/
structure BundleRecord where
  bundleName : Str
  appId : Str
  appIdentifier : Str
  isSystemApp : Bool

structure BundleView where
  bundleInfos : StrMap BundleRecord
  noControllingList : List Str
  /-- The appId in the answer of `GetBundleInfoV9` for a bundle and a user. -/
  getBundleInfoV9 : Str → Int → Option Str

def appIdAndAppIdentifierTransform (view : BundleView) (appIdOrAppIdentifier : Str) : Str :=
  if appIdOrAppIdentifier = [] then []
  else match view.bundleInfos.toList.find? fun p =>
      appIdOrAppIdentifier = p.2.appId ∨ appIdOrAppIdentifier = p.2.appIdentifier with
    | none => []
    | some p => if appIdOrAppIdentifier = p.2.appId then p.2.appIdentifier else p.2.appId

def checkCanDispose (view : BundleView) (appId : Str) (userId : Int) : Bool :=
  view.noControllingList.all fun bundleName => view.getBundleInfoV9 bundleName userId ≠ some appId

/-! ## State -/

structure Manager (Want : Type) where
  table : Table
  runningRuleSettingStatusMap : ExtTreeMap Int RunningRuleSettingStatus
  appRunningControlRuleResult : StrMap (AppRunningControlRuleResult Want)

variable {Want : Type}

def Manager.getRunningRuleSettingStatusByUserId (s : Manager Want) (userId : Int) : RunningRuleSettingStatus :=
  (s.runningRuleSettingStatusMap[userId]?).getD .NO_SET

def Manager.setRunningRuleSettingStatusByUserId (s : Manager Want) (userId : Int)
    (status : RunningRuleSettingStatus) : Manager Want :=
  { s with runningRuleSettingStatusMap := (s.runningRuleSettingStatusMap.erase userId).insert userId status }

/-- One user of the loop.  `appId` and `allowRunning` keep their values from the user before
when a query finds nothing. -/
def statusStep (t : Table) (acc : (Str × Bool) × ExtTreeMap Int RunningRuleSettingStatus) (userId : Int) :
    (Str × Bool) × ExtTreeMap Int RunningRuleSettingStatus :=
  let out := Rdb.getAppRunningControlRuleByUserId userId acc.1 t
  let status : RunningRuleSettingStatus :=
    if out.1 = [] then .NO_SET else if out.2 then .WHITE_LIST else .BLACK_LIST
  (out, acc.2.insert userId status)

/-- The list modes as the constructor computes them from the table. -/
def generateRunningRuleSettingStatusMap (t : Table) : ExtTreeMap Int RunningRuleSettingStatus :=
  ((Rdb.getAllUserIdsForRunningControl t).foldl (statusStep t) (([], false), ∅)).2

/-- The constructor, over the table it finds. -/
def Manager.construct (t : Table) : Manager Want where
  table := t
  runningRuleSettingStatusMap := generateRunningRuleSettingStatusMap t
  appRunningControlRuleResult := ∅

/-! ## The cache of running-control answers -/

def runningKey (appId : Str) (userId : Int) : Str := appId ++ ['_'] ++ toDecimal userId

def Manager.deleteAppRunningControlRuleCache (s : Manager Want) (key : Str) : Manager Want :=
  { s with appRunningControlRuleResult := s.appRunningControlRuleResult.erase key }

/-- Every key that ends in the digits of the user. -/
def Manager.deleteAppRunningControlRuleCacheForUserId (s : Manager Want) (userId : Int) : Manager Want :=
  { s with appRunningControlRuleResult :=
      s.appRunningControlRuleResult.filter fun key _ => !(toDecimal userId).isSuffixOf key }

def Manager.deleteAppRunningRuleCacheExcludeEdm (s : Manager Want) (key : Str) : Manager Want :=
  match s.appRunningControlRuleResult[key]? with
  | none => s
  | some result => if result.isEdm then s else s.deleteAppRunningControlRuleCache key

/-- The part of `DeleteRuleCacheByAppId` for this cache. -/
def Manager.deleteRuleCacheByAppId (s : Manager Want) (appIdList : List Str) : Manager Want :=
  { s with appRunningControlRuleResult := appIdList.foldl (fun cache appId =>
      cache.filter fun key _ => strFind key (appId ++ ['_']) ≠ some 0) s.appRunningControlRuleResult }

/-- The two keys that a running-control rule is cached under. -/
def Manager.deleteCacheOfRule (view : BundleView) (userId : Int) (s : Manager Want) (rule : AppRunningControlRule) :
    Manager Want :=
  (s.deleteAppRunningControlRuleCache (runningKey rule.appId userId)).deleteAppRunningControlRuleCache
    (runningKey (appIdAndAppIdentifierTransform view rule.appId) userId)

/-! ## Calls -/

/-- A statement on the table, and what follows when it returns `ERR_OK`. -/
def Manager.writeThen (s : Manager Want) (r : ErrCode × Table) (next : Manager Want → Manager Want) :
    ErrCode × Manager Want :=
  match r with
  | (.ERR_OK, t) => (.ERR_OK, next { s with table := t })
  | (ret, t) => (ret, { s with table := t })

def Manager.checkControlRules (s : Manager Want) (controlRules : List AppRunningControlRule) (userId : Int) :
    ErrCode :=
  match controlRules with
  | [] => .ERR_BUNDLE_MANAGER_INVALID_PARAMETER
  | first :: _ =>
    if controlRules.any fun rule => rule.allowRunning ≠ first.allowRunning then
      .ERR_BUNDLE_MANAGER_CONTROL_RULE_NOT_CONSISTENT
    else
      let ruleStatus : RunningRuleSettingStatus := if first.allowRunning then .WHITE_LIST else .BLACK_LIST
      let status := s.getRunningRuleSettingStatusByUserId userId
      if status ≠ .NO_SET ∧ status ≠ ruleStatus then .ERR_BUNDLE_MANAGER_CONTROL_RULE_NOT_CONSISTENT
      else .ERR_OK

/-- Killing the applications that may no longer run changes nothing here. -/
def Manager.addAppRunningControlRule (view : BundleView) (a : DbAnswers) (callingName : Str)
    (controlRules : List AppRunningControlRule) (userId : Int) (s : Manager Want) : ErrCode × Manager Want :=
  match s.checkControlRules controlRules userId with
  | .ERR_OK =>
    s.writeThen (Rdb.addAppRunningControlRule a callingName controlRules userId s.table) fun s₁ =>
      let s₂ := if s₁.getRunningRuleSettingStatusByUserId userId = .NO_SET then
        s₁.deleteAppRunningControlRuleCacheForUserId userId else s₁
      let s₃ := controlRules.foldl (Manager.deleteCacheOfRule view userId) s₂
      s₃.setRunningRuleSettingStatusByUserId userId
        (if (controlRules.head?.map (·.allowRunning)).getD false then .WHITE_LIST else .BLACK_LIST)
  | ret => (ret, s)

/-- The query numbered 0. -/
def Manager.deleteRunningRuleSettingStatusCache (a : DbAnswers) (userId : Int) (s : Manager Want) : Manager Want :=
  if a.queryOk 0 = false then s
  else if Rdb.getAppIdsByUserId userId s.table = [] then
    (s.setRunningRuleSettingStatusByUserId userId .NO_SET).deleteAppRunningControlRuleCacheForUserId userId
  else s

def Manager.deleteAppRunningControlRule (view : BundleView) (a : DbAnswers) (callingName : Str)
    (controlRules : List AppRunningControlRule) (userId : Int) (s : Manager Want) : ErrCode × Manager Want :=
  match s.checkControlRules controlRules userId with
  | .ERR_OK =>
    s.writeThen (Rdb.deleteAppRunningControlRule a callingName controlRules userId s.table) fun s₁ =>
      (controlRules.foldl (Manager.deleteCacheOfRule view userId) s₁).deleteRunningRuleSettingStatusCache a userId
  | ret => (ret, s)

def Manager.deleteAppRunningControlRuleOfUser (a : DbAnswers) (callingName : Str) (userId : Int)
    (s : Manager Want) : ErrCode × Manager Want :=
  s.writeThen (Rdb.deleteAppRunningControlRuleOfUser a callingName userId s.table) fun s₁ =>
    (s₁.deleteAppRunningControlRuleCacheForUserId userId).setRunningRuleSettingStatusByUserId userId .NO_SET

def Manager.setDisposedStatus (view : BundleView) (wants : Codec Want) (a : DbAnswers) (appId : Str) (want : Want)
    (userId : Int) (s : Manager Want) : ErrCode × Manager Want :=
  if !checkCanDispose view appId userId then (.ERR_BUNDLE_MANAGER_PERMISSION_DENIED, s)
  else s.writeThen (Rdb.setDisposedStatus a APP_MARKET_CALLING appId (wants.ToString want) userId s.table) fun s₁ =>
    s₁.deleteAppRunningControlRuleCache (runningKey appId userId)

def Manager.deleteDisposedStatus (a : DbAnswers) (appId : Str) (userId : Int) (s : Manager Want) :
    ErrCode × Manager Want :=
  s.writeThen (Rdb.deleteDisposedStatus a APP_MARKET_CALLING appId userId s.table) fun s₁ =>
    s₁.deleteAppRunningControlRuleCache (runningKey appId userId)

/-- The two statements on the table.  `rule` is stored as its text, with its own priority. -/
def disposeWrite (view : BundleView) (a : DbAnswers) (callerName appId rule : Str) (priority appIndex userId : Int)
    (t : Table) : ErrCode × Table :=
  match Rdb.deleteDisposedRule a callerName [appId, appIdAndAppIdentifierTransform view appId] appIndex userId t with
  | (.ERR_OK, t₁) => Rdb.setDisposedRule a callerName appId rule priority appIndex userId t₁
  | (ret, t₁) => (ret, t₁)

def Manager.setDisposedRule (view : BundleView) (a : DbAnswers) (callerName appId rule : Str)
    (priority appIndex userId : Int) (s : Manager Want) : ErrCode × Manager Want :=
  if !checkCanDispose view appId userId then (.ERR_BUNDLE_MANAGER_PERMISSION_DENIED, s)
  else s.writeThen (disposeWrite view a callerName appId rule priority appIndex userId s.table) id

def Manager.deleteAllDisposedRuleByBundle (a : DbAnswers) (bundleInfo : BundleRecord) (appIndex userId : Int)
    (s : Manager Want) : ErrCode × Manager Want :=
  s.writeThen (Rdb.deleteAllDisposedRuleByBundle a [bundleInfo.appId, bundleInfo.appIdentifier] appIndex userId
    s.table) fun s₁ => s₁.deleteAppRunningRuleCacheExcludeEdm (runningKey bundleInfo.appId userId)

/-- The ids that a migration rewrites. -/
def migrateAppIds (oldAppIdList : List Str) (newAppId : Str) : List Str :=
  oldAppIdList.filter fun appId => !(appId = [] ∨ appId = newAppId)

def Manager.updateAppControlAppId (a : DbAnswers) (oldAppIdList : List Str) (newAppId : Str) (s : Manager Want) :
    ErrCode × Manager Want :=
  if newAppId = [] then (.ERR_OK, s)
  else
    let ids := migrateAppIds oldAppIdList newAppId
    if ids = [] then (.ERR_OK, s)
    else
      let r := Rdb.updateAppControlAppId a ids newAppId s.table
      s.writeThen (r.1, r.2.2) fun s₁ => if r.2.1 > 0 then s₁.deleteRuleCacheByAppId (ids ++ [newAppId]) else s₁

/-! ## The query -/

/-- The out-parameter keeps its want and its flag when the row does not set them. -/
def Rdb.getAppRunningControlRule (order : OrderBy AppControlRow.priority) (wants : Codec Want) (ok : Bool)
    (appId : Str) (userId : Int) (out : AppRunningControlRuleResult Want) (t : Table) :
    ErrCode × AppRunningControlRuleResult Want :=
  if ok = false then (.ERR_APPEXECFWK_DB_RESULT_SET_EMPTY, out)
  else match (order.sort (t.filter fun r =>
      r.appId = appId ∧ r.appControlList = RUNNING_CONTROL ∧ r.userId = userId)).head? with
    | none => (.ERR_BUNDLE_MANAGER_BUNDLE_NOT_SET_CONTROL, out)
    | some r =>
      (.ERR_OK,
       { controlMessage := if r.controlMessage = [] ∧ r.callingName = EDM_CALLING then APP_CONTROL_EDM_DEFAULT_MESSAGE
           else r.controlMessage
         controlWant := if r.disposedStatus = [] then out.controlWant
           else (wants.FromString r.disposedStatus).or out.controlWant
         isEdm := if r.callingName = EDM_CALLING then true else out.isEdm })

/-- The record of the bundle is there: the caller has just read its ids. -/
def checkAppControlRuleIntercept (isSystemApp : Bool) (status : RunningRuleSettingStatus) (findRule : Bool)
    (out : AppRunningControlRuleResult Want) : ErrCode × AppRunningControlRuleResult Want :=
  if findRule then
    if !out.isEdm then (.ERR_OK, out)
    else match status with
      | .BLACK_LIST => (.ERR_OK, out)
      | _ => (.ERR_BUNDLE_MANAGER_BUNDLE_NOT_SET_CONTROL, { out with controlMessage := INVALID_MESSAGE })
  else match status with
    | .WHITE_LIST =>
      if isSystemApp then
        (.ERR_BUNDLE_MANAGER_BUNDLE_NOT_SET_CONTROL, { out with controlMessage := INVALID_MESSAGE })
      else (.ERR_OK, { out with controlMessage := APP_CONTROL_EDM_DEFAULT_MESSAGE })
    | _ => (.ERR_BUNDLE_MANAGER_BUNDLE_NOT_SET_CONTROL, { out with controlMessage := INVALID_MESSAGE })

/-- What is computed from the table when the cache has no answer. -/
def Manager.computeRunningControlRule (order : OrderBy AppControlRow.priority) (wants : Codec Want) (a : DbAnswers)
    (info : BundleRecord) (userId : Int) (s : Manager Want) : ErrCode × AppRunningControlRuleResult Want :=
  let first := Rdb.getAppRunningControlRule order wants (a.queryOk 0)
    (if info.appIdentifier = [] then info.appId else info.appIdentifier) userId {} s.table
  let found := if first.1 ≠ .ERR_OK ∧ info.appIdentifier ≠ [] then
      Rdb.getAppRunningControlRule order wants (a.queryOk 1) info.appId userId first.2 s.table
    else first
  checkAppControlRuleIntercept info.isSystemApp (s.getRunningRuleSettingStatusByUserId userId)
    (found.1 = .ERR_OK) found.2

def Manager.getAppRunningControlRule (view : BundleView) (order : OrderBy AppControlRow.priority)
    (wants : Codec Want) (a : DbAnswers) (bundleName : Str) (userId : Int) (s : Manager Want) :
    ErrCode × AppRunningControlRuleResult Want × Manager Want :=
  match view.bundleInfos[bundleName]? with
  | none => (.ERR_BUNDLE_MANAGER_BUNDLE_NOT_EXIST, {}, s)
  | some info =>
    let key := runningKey info.appId userId
    match s.appRunningControlRuleResult[key]? with
    | some result =>
      if result.controlMessage = INVALID_MESSAGE then
        (.ERR_BUNDLE_MANAGER_BUNDLE_NOT_SET_CONTROL, { result with controlMessage := [] }, s)
      else (.ERR_OK, result, s)
    | none =>
      let r := s.computeRunningControlRule order wants a info userId
      (r.1, r.2, { s with appRunningControlRuleResult := s.appRunningControlRuleResult.insertIfNew key r.2 })

/-! ## What the calls leave -/

section
variable (view : BundleView) (userId : Int)

/-- Erasing the keys of rules touches the cache only. -/
theorem foldl_deleteCacheOfRule (rules : List AppRunningControlRule) (s : Manager Want) :
    rules.foldl (Manager.deleteCacheOfRule view userId) s =
      { s with appRunningControlRuleResult :=
          (rules.foldl (Manager.deleteCacheOfRule view userId) s).appRunningControlRuleResult } := by
  induction rules generalizing s with
  | nil => rfl
  | cons rule rules ih =>
    rw [List.foldl_cons, ih]
    rfl

/-- The keys erased for a list of rules. -/
def rulesErase (rules : List AppRunningControlRule) (key : Str) : Prop :=
  ∃ rule ∈ rules, key = runningKey rule.appId userId ∨
    key = runningKey (appIdAndAppIdentifierTransform view rule.appId) userId

theorem foldl_deleteCacheOfRule_cache (rules : List AppRunningControlRule) (s : Manager Want) (key : Str) :
    (rules.foldl (Manager.deleteCacheOfRule view userId) s).appRunningControlRuleResult[key]? = none ∨
    ¬ rulesErase view userId rules key ∧
    (rules.foldl (Manager.deleteCacheOfRule view userId) s).appRunningControlRuleResult[key]? =
      s.appRunningControlRuleResult[key]? := by
  induction rules generalizing s with
  | nil => exact Or.inr ⟨fun ⟨_, h, _⟩ => List.not_mem_nil h, rfl⟩
  | cons rule rules ih =>
    rw [List.foldl_cons]
    have hone : (s.deleteCacheOfRule view userId rule).appRunningControlRuleResult[key]? =
        if key = runningKey (appIdAndAppIdentifierTransform view rule.appId) userId then none
        else if key = runningKey rule.appId userId then none else s.appRunningControlRuleResult[key]? := by
      show ((s.appRunningControlRuleResult.erase _).erase _)[key]? = _
      rw [MapLoop.getElem?_erase_eq, MapLoop.getElem?_erase_eq]
    rcases ih (s.deleteCacheOfRule view userId rule) with h | ⟨hne, h⟩
    · exact Or.inl h
    · rw [h, hone]
      by_cases h1 : key = runningKey (appIdAndAppIdentifierTransform view rule.appId) userId
      · exact Or.inl (if_pos h1)
      · rw [if_neg h1]
        by_cases h2 : key = runningKey rule.appId userId
        · exact Or.inl (if_pos h2)
        · rw [if_neg h2]
          refine Or.inr ⟨?_, rfl⟩
          rintro ⟨r, hr, hk⟩
          rcases List.mem_cons.mp hr with rfl | hr
          · exact hk.elim h2 h1
          · exact hne ⟨r, hr, hk⟩

end

theorem Manager.writeThen_snd (s : Manager Want) (r : ErrCode × Table) (next : Manager Want → Manager Want) :
    (s.writeThen r next).2 = if r.1 = .ERR_OK then next { s with table := r.2 } else { s with table := r.2 } := by
  obtain ⟨code, t⟩ := r
  cases code <;> rfl

/-- The table after a call whose follow-up does not touch it. -/
theorem Manager.writeThen_table (s : Manager Want) (r : ErrCode × Table) {next : Manager Want → Manager Want}
    (hnext : ∀ s', (next s').table = s'.table) : (s.writeThen r next).2.table = r.2 := by
  rw [Manager.writeThen_snd]
  split
  · exact hnext _
  · rfl

theorem Manager.deleteAppRunningRuleCacheExcludeEdm_table (s : Manager Want) (key : Str) :
    (s.deleteAppRunningRuleCacheExcludeEdm key).table = s.table := by
  unfold Manager.deleteAppRunningRuleCacheExcludeEdm
  split
  · rfl
  · split <;> rfl

theorem Manager.deleteRunningRuleSettingStatusCache_table (a : DbAnswers) (userId : Int) (s : Manager Want) :
    (s.deleteRunningRuleSettingStatusCache a userId).table = s.table := by
  unfold Manager.deleteRunningRuleSettingStatusCache
  split
  · rfl
  · split <;> rfl

/-! ## Runs -/

/-- The calls on the table. -/
inductive Call (Want : Type) where
  | addAppInstallControlRule (callingName : Str) (appIds : List Str) (controlRuleType : Str) (userId : Int)
  | deleteAppInstallControlRule (callingName controlRuleType : Str) (appIds : List Str) (userId : Int)
  | deleteAppInstallControlRuleOfUser (callingName controlRuleType : Str) (userId : Int)
  | addAppRunningControlRule (callingName : Str) (controlRules : List AppRunningControlRule) (userId : Int)
  | deleteAppRunningControlRule (callingName : Str) (controlRules : List AppRunningControlRule) (userId : Int)
  | deleteAppRunningControlRuleOfUser (callingName : Str) (userId : Int)
  | setDisposedStatus (appId : Str) (want : Want) (userId : Int)
  | deleteDisposedStatus (appId : Str) (userId : Int)
  | setDisposedRule (callerName appId rule : Str) (priority appIndex userId : Int)
  | deleteDisposedRule (callerName appId : Str) (appIndex userId : Int)
  | deleteAllDisposedRuleByBundle (bundleInfo : BundleRecord) (appIndex userId : Int)
  | deleteAllDisposedRulesForUser (userId : Int)
  | deleteUninstallDisposedRule (callerName appIdentifier : Str) (appIndex userId : Int)
  | updateAppControlAppId (oldAppIdList : List Str) (newAppId : Str)
  | getAppRunningControlRule (bundleName : Str) (userId : Int)

section
variable (view : BundleView) (order : OrderBy AppControlRow.priority) (wants : Codec Want)

def Manager.step (s : Manager Want) : DbAnswers × Call Want → Manager Want
  | (a, .addAppInstallControlRule callingName appIds controlRuleType userId) =>
    (s.writeThen (Rdb.addAppInstallControlRule a callingName appIds controlRuleType userId s.table) id).2
  | (a, .deleteAppInstallControlRule callingName controlRuleType appIds userId) =>
    (s.writeThen (Rdb.deleteAppInstallControlRule a callingName controlRuleType appIds userId s.table) id).2
  | (a, .deleteAppInstallControlRuleOfUser callingName controlRuleType userId) =>
    (s.writeThen (Rdb.deleteAppInstallControlRuleOfUser a callingName controlRuleType userId s.table) id).2
  | (a, .addAppRunningControlRule callingName controlRules userId) =>
    (s.addAppRunningControlRule view a callingName controlRules userId).2
  | (a, .deleteAppRunningControlRule callingName controlRules userId) =>
    (s.deleteAppRunningControlRule view a callingName controlRules userId).2
  | (a, .deleteAppRunningControlRuleOfUser callingName userId) =>
    (s.deleteAppRunningControlRuleOfUser a callingName userId).2
  | (a, .setDisposedStatus appId want userId) => (s.setDisposedStatus view wants a appId want userId).2
  | (a, .deleteDisposedStatus appId userId) => (s.deleteDisposedStatus a appId userId).2
  | (a, .setDisposedRule callerName appId rule priority appIndex userId) =>
    (s.setDisposedRule view a callerName appId rule priority appIndex userId).2
  | (a, .deleteDisposedRule callerName appId appIndex userId) =>
    (s.writeThen (Rdb.deleteDisposedRule a callerName [appId] appIndex userId s.table) id).2
  | (a, .deleteAllDisposedRuleByBundle bundleInfo appIndex userId) =>
    (s.deleteAllDisposedRuleByBundle a bundleInfo appIndex userId).2
  | (a, .deleteAllDisposedRulesForUser userId) =>
    (s.writeThen (Rdb.deleteAllDisposedRulesForUser a userId s.table) id).2
  | (a, .deleteUninstallDisposedRule callerName appIdentifier appIndex userId) =>
    (s.writeThen (Rdb.deleteUninstallDisposedRule a callerName appIdentifier appIndex userId s.table) id).2
  | (a, .updateAppControlAppId oldAppIdList newAppId) => (s.updateAppControlAppId a oldAppIdList newAppId).2
  | (a, .getAppRunningControlRule bundleName userId) =>
    (s.getAppRunningControlRule view order wants a bundleName userId).2.2

def Manager.run (s : Manager Want) (calls : List (DbAnswers × Call Want)) : Manager Want :=
  calls.foldl (Manager.step view order wants) s

end

/-- No bundle is installed. -/
def noBundles : BundleView where
  bundleInfos := ∅
  noControllingList := []
  getBundleInfoV9 _ _ := none

/-- Wants that are their own texts. -/
def textWants : Codec Str where
  ToString want := want
  FromString text := some text

end BundleFramework.AppControl
