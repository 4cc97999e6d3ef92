import BundleFramework.Base.Str
import BundleFramework.Lib.RowTable

/-!
# The app-control table

`app_control_manager_rdb.cpp`: one table for the install-control, running-control and
disposed rules.  A column that a writer leaves NULL holds the value that reading NULL
gives (the empty text, 0; `APP_INDEX` has the default 0).

Whether the store carries out a statement is an input of each call (`DbAnswers`); a call
returns its error code with the table it leaves behind.
-/

namespace BundleFramework.AppControl

open RowTable

/-- The error codes the app-control functions return. -/
inductive ErrCode where
  | ERR_OK
  | ERR_APPEXECFWK_DB_BATCH_INSERT_ERROR
  | ERR_APPEXECFWK_DB_DELETE_ERROR
  | ERR_APPEXECFWK_DB_INSERT_ERROR
  | ERR_APPEXECFWK_DB_UPDATE_ERROR
  | ERR_APPEXECFWK_DB_RESULT_SET_EMPTY
  | ERR_BUNDLE_MANAGER_BUNDLE_NOT_EXIST
  | ERR_BUNDLE_MANAGER_INVALID_PARAMETER
  | ERR_BUNDLE_MANAGER_PERMISSION_DENIED
  | ERR_BUNDLE_MANAGER_CONTROL_RULE_NOT_CONSISTENT
  | ERR_BUNDLE_MANAGER_BUNDLE_NOT_SET_CONTROL
  | ERR_BUNDLE_MANAGER_APP_JUMP_INTERCEPTOR_INTERNAL_ERROR
  | ERR_BUNDLE_MANAGER_BUNDLE_NOT_SET_JUMP_INTERCPTOR
  deriving DecidableEq, Repr

def RUNNING_CONTROL : Str := "RunningControl".toList
def DISPOSED_RULE : Str := "DisposedRule".toList
def UNINSTALL_DISPOSED_RULE : Str := "UninstallDisposedRule".toList
def EDM_CALLING : Str := "edm".toList
def APP_MARKET_CALLING : Str := "app market".toList
def APP_CONTROL_EDM_DEFAULT_MESSAGE : Str := "The app has been disabled by EDM".toList

def PRIORITY_EDM : Int := 100
def PRIORITY_APP_MARKET : Int := 200

def MAIN_APP_INDEX : Int := 0

/-- `PutInt` of an `int64_t`. -/
def putInt (n : Int) : Int := n.bmod (2 ^ 32)

structure AppControlRow where
  callingName : Str
  appControlList : Str
  userId : Int
  appId : Str
  controlMessage : Str := []
  disposedStatus : Str := []
  priority : Int := 0
  timeStamp : Int
  appIndex : Int := 0
  allowRunning : Int := 0
  deriving DecidableEq, Repr

abbrev Table := List AppControlRow

/-- What the store and the clock answer during one call.  Deletes and queries are numbered
in the order in which the call makes them. -/
structure DbAnswers where
  time : Int
  deleteOk : Nat → Bool
  insertOk : Bool
  batch : BatchOutcome
  updateOk : Bool
  queryOk : Nat → Bool

/-- Every statement is carried out. -/
def allOk (time : Int) (rows : Nat) : DbAnswers where
  time := time
  deleteOk _ := true
  insertOk := true
  batch := ⟨true, rows⟩
  updateOk := true
  queryOk _ := true

structure AppRunningControlRule where
  appId : Str
  controlMessage : Str
  allowRunning : Bool
  deriving DecidableEq, Repr

/-- `Want` and `DisposedRule` are stored as texts by conversions of their own. -/
structure Codec (α : Type) where
  ToString : α → Str
  FromString : Str → Option α

namespace Rdb

/-! ## Writers -/

/-- The predicate of `DeleteOldControlRule` and of the deletes by appId. -/
def isRule (callingName appControlList appId : Str) (userId : Int) (r : AppControlRow) : Bool :=
  r.callingName = callingName ∧ r.appControlList = appControlList ∧ r.userId = userId ∧ r.appId = appId

/-- The predicate of the deletes that clear a list of one user. -/
def isRuleOfUser (callingName appControlList : Str) (userId : Int) (r : AppControlRow) : Bool :=
  r.callingName = callingName ∧ r.appControlList = appControlList ∧ r.userId = userId

/-- Delete the old rule of each new row, then insert the rows together. -/
def addRules (a : DbAnswers) (rows : List AppControlRow) (t : Table) : ErrCode × Table :=
  match deleteEach a.deleteOk (fun r => isRule r.callingName r.appControlList r.appId r.userId) 0 rows t with
  | (false, t₁) => (.ERR_APPEXECFWK_DB_DELETE_ERROR, t₁)
  | (true, t₁) =>
    match batchInsert a.batch rows t₁ with
    | (false, _, t₂) => (.ERR_APPEXECFWK_DB_BATCH_INSERT_ERROR, t₂)
    | (true, insertNum, t₂) =>
      if rows.length ≠ insertNum then (.ERR_APPEXECFWK_DB_BATCH_INSERT_ERROR, t₂) else (.ERR_OK, t₂)

def deleteRules (a : DbAnswers) (callingName appControlList : Str) (appIds : List Str) (userId : Int)
    (t : Table) : ErrCode × Table :=
  match deleteEach a.deleteOk (isRule callingName appControlList · userId) 0 appIds t with
  | (false, t₁) => (.ERR_APPEXECFWK_DB_DELETE_ERROR, t₁)
  | (true, t₁) => (.ERR_OK, t₁)

/-- A single delete statement. -/
def deleteOne (a : DbAnswers) (i : Nat) (p : AppControlRow → Bool) (t : Table) : ErrCode × Table :=
  match deleteWhere (a.deleteOk i) p t with
  | (false, t₁) => (.ERR_APPEXECFWK_DB_DELETE_ERROR, t₁)
  | (true, t₁) => (.ERR_OK, t₁)

def installRow (time : Int) (callingName controlRuleType : Str) (userId : Int) (appId : Str) : AppControlRow where
  callingName := callingName
  appControlList := controlRuleType
  userId := userId
  appId := appId
  timeStamp := putInt time

def addAppInstallControlRule (a : DbAnswers) (callingName : Str) (appIds : List Str) (controlRuleType : Str)
    (userId : Int) (t : Table) : ErrCode × Table :=
  addRules a (appIds.map (installRow a.time callingName controlRuleType userId)) t

def deleteAppInstallControlRule (a : DbAnswers) (callingName controlRuleType : Str) (appIds : List Str)
    (userId : Int) (t : Table) : ErrCode × Table :=
  deleteRules a callingName controlRuleType appIds userId t

def deleteAppInstallControlRuleOfUser (a : DbAnswers) (callingName controlRuleType : Str) (userId : Int)
    (t : Table) : ErrCode × Table :=
  deleteOne a 0 (isRuleOfUser callingName controlRuleType userId) t

def runningRow (time : Int) (callingName : Str) (userId : Int) (rule : AppRunningControlRule) : AppControlRow where
  callingName := callingName
  appControlList := RUNNING_CONTROL
  userId := userId
  appId := rule.appId
  controlMessage := rule.controlMessage
  allowRunning := if rule.allowRunning then 1 else 0
  priority := PRIORITY_EDM
  timeStamp := putInt time

def addAppRunningControlRule (a : DbAnswers) (callingName : Str) (controlRules : List AppRunningControlRule)
    (userId : Int) (t : Table) : ErrCode × Table :=
  addRules a (controlRules.map (runningRow a.time callingName userId)) t

def deleteAppRunningControlRule (a : DbAnswers) (callingName : Str) (controlRules : List AppRunningControlRule)
    (userId : Int) (t : Table) : ErrCode × Table :=
  deleteRules a callingName RUNNING_CONTROL (controlRules.map (·.appId)) userId t

def deleteAppRunningControlRuleOfUser (a : DbAnswers) (callingName : Str) (userId : Int) (t : Table) :
    ErrCode × Table :=
  deleteOne a 0 (isRuleOfUser callingName RUNNING_CONTROL userId) t

def deleteDisposedStatus (a : DbAnswers) (callingName appId : Str) (userId : Int) (t : Table) : ErrCode × Table :=
  deleteOne a 0 (isRule callingName RUNNING_CONTROL appId userId) t

def setDisposedStatus (a : DbAnswers) (callingName appId want : Str) (userId : Int) (t : Table) : ErrCode × Table :=
  match deleteDisposedStatus a callingName appId userId t with
  | (.ERR_OK, t₁) =>
    match insertRow a.insertOk
      { callingName := callingName, appControlList := RUNNING_CONTROL, userId := userId, appId := appId,
        disposedStatus := want, priority := PRIORITY_APP_MARKET, timeStamp := putInt a.time } t₁ with
    | (false, t₂) => (.ERR_APPEXECFWK_DB_INSERT_ERROR, t₂)
    | (true, t₂) => (.ERR_OK, t₂)
  | (_, t₁) => (.ERR_APPEXECFWK_DB_DELETE_ERROR, t₁)

def disposedRow (time : Int) (callingName appId rule : Str) (priority appIndex userId : Int) : AppControlRow where
  callingName := callingName
  appControlList := DISPOSED_RULE
  userId := userId
  appId := appId
  disposedStatus := rule
  priority := priority
  timeStamp := putInt time
  appIndex := appIndex

def setDisposedRule (a : DbAnswers) (callingName appId rule : Str) (priority appIndex userId : Int) (t : Table) :
    ErrCode × Table :=
  match insertRow a.insertOk (disposedRow a.time callingName appId rule priority appIndex userId) t with
  | (false, t₁) => (.ERR_APPEXECFWK_DB_INSERT_ERROR, t₁)
  | (true, t₁) => (.ERR_OK, t₁)

def isDisposedRule (callingName : Str) (appIdList : List Str) (appIndex userId : Int) (r : AppControlRow) : Bool :=
  r.callingName = callingName ∧ r.appControlList = DISPOSED_RULE ∧ r.appId ∈ appIdList ∧ r.userId = userId ∧
    r.appIndex = appIndex

def deleteDisposedRule (a : DbAnswers) (callingName : Str) (appIdList : List Str) (appIndex userId : Int)
    (t : Table) : ErrCode × Table :=
  deleteOne a 0 (isDisposedRule callingName appIdList appIndex userId) t

def isDisposedByBundle (appIdList : List Str) (appIndex userId : Int) (r : AppControlRow) : Bool :=
  r.appControlList ∈ [DISPOSED_RULE, UNINSTALL_DISPOSED_RULE] ∧ r.appId ∈ appIdList ∧ r.userId = userId ∧
    (appIndex ≠ MAIN_APP_INDEX → r.appIndex = appIndex)

def isRunningExcludeEdm (appIdList : List Str) (appIndex userId : Int) (r : AppControlRow) : Bool :=
  r.appControlList = RUNNING_CONTROL ∧ r.appId ∈ appIdList ∧ r.userId = userId ∧ r.callingName ≠ EDM_CALLING ∧
    (appIndex ≠ MAIN_APP_INDEX → r.appIndex = appIndex)

def deleteDisposedRuleByBundleExcludeEdm (a : DbAnswers) (appIdList : List Str) (appIndex userId : Int)
    (t : Table) : ErrCode × Table :=
  deleteOne a 1 (isRunningExcludeEdm appIdList appIndex userId) t

def deleteAllDisposedRuleByBundle (a : DbAnswers) (appIdList : List Str) (appIndex userId : Int) (t : Table) :
    ErrCode × Table :=
  match deleteOne a 0 (isDisposedByBundle appIdList appIndex userId) t with
  | (.ERR_OK, t₁) =>
    match deleteDisposedRuleByBundleExcludeEdm a appIdList appIndex userId t₁ with
    | (.ERR_OK, t₂) => (.ERR_OK, t₂)
    | (_, t₂) => (.ERR_APPEXECFWK_DB_DELETE_ERROR, t₂)
  | (_, t₁) => (.ERR_APPEXECFWK_DB_DELETE_ERROR, t₁)

def isDisposedOfUser (userId : Int) (r : AppControlRow) : Bool :=
  r.appControlList = DISPOSED_RULE ∧ r.userId = userId ∧ r.callingName ≠ EDM_CALLING

def deleteAllDisposedRulesForUser (a : DbAnswers) (userId : Int) (t : Table) : ErrCode × Table :=
  deleteOne a 0 (isDisposedOfUser userId) t

def isUninstallDisposedRule (callingName appIdentifier : Str) (appIndex userId : Int) (r : AppControlRow) : Bool :=
  r.callingName = callingName ∧ r.appControlList = UNINSTALL_DISPOSED_RULE ∧ r.appId = appIdentifier ∧
    r.userId = userId ∧ r.appIndex = appIndex

def deleteUninstallDisposedRule (a : DbAnswers) (callingName appIdentifier : Str) (appIndex userId : Int)
    (t : Table) : ErrCode × Table :=
  deleteOne a 0 (isUninstallDisposedRule callingName appIdentifier appIndex userId) t

def migrateRow (oldAppIdList : List Str) (newAppId : Str) (r : AppControlRow) : AppControlRow :=
  if decide (r.appId ∈ oldAppIdList) = true then { r with appId := newAppId } else r

/-- The number of changed rows comes with the error code. -/
def updateAppControlAppId (a : DbAnswers) (oldAppIdList : List Str) (newAppId : Str) (t : Table) :
    ErrCode × Nat × Table :=
  if oldAppIdList = [] ∨ newAppId = [] then (.ERR_OK, 0, t)
  else match updateWhere a.updateOk (fun r => decide (r.appId ∈ oldAppIdList)) ({ · with appId := newAppId }) t with
    | (false, _, t₁) => (.ERR_APPEXECFWK_DB_UPDATE_ERROR, 0, t₁)
    | (true, changedRows, t₁) => (.ERR_OK, changedRows, t₁)

/-! ## Queries -/

def isEdmRunning (userId : Int) (r : AppControlRow) : Bool :=
  r.appControlList = RUNNING_CONTROL ∧ r.callingName = EDM_CALLING ∧ r.userId = userId

/-- The users, in the order of the set they are collected in; `-1` is left out. -/
def getAllUserIdsForRunningControl (t : Table) : List Int :=
  (((t.filter fun r => r.appControlList = RUNNING_CONTROL ∧ r.callingName = EDM_CALLING).map (·.userId)).filter
    (· ≠ -1)).dedup.mergeSort (· ≤ ·)

/-- The out-parameters keep their values when there is no row. -/
def getAppRunningControlRuleByUserId (userId : Int) (out : Str × Bool) (t : Table) : Str × Bool :=
  match (t.filter (isEdmRunning userId)).head? with
  | none => out
  | some r => (r.appId, r.allowRunning == 1)

def getAppIdsByUserId (userId : Int) (t : Table) : List Str := (t.filter (isEdmRunning userId)).map (·.appId)

end Rdb

/-! ## What the statements leave -/

theorem deleteOne_snd (a : DbAnswers) (i : Nat) (p : AppControlRow → Bool) (t : Table) :
    (Rdb.deleteOne a i p t).2 = t.filter fun r => !(a.deleteOk i && p r) := by
  rw [← deleteWhere_snd]
  unfold Rdb.deleteOne
  split <;> simp_all

theorem deleteOne_sublist (a : DbAnswers) (i : Nat) (p : AppControlRow → Bool) (t : Table) :
    (Rdb.deleteOne a i p t).2.Sublist t := by
  rw [deleteOne_snd]
  exact List.filter_sublist

/-- A delete that the store carries out. -/
theorem deleteOne_of_ok {a : DbAnswers} {i : Nat} (h : a.deleteOk i = true) (p : AppControlRow → Bool) (t : Table) :
    Rdb.deleteOne a i p t = (.ERR_OK, t.filter fun r => !p r) := by
  unfold Rdb.deleteOne deleteWhere
  rw [h]
  rfl

/-- A delete that the store refuses. -/
theorem deleteOne_of_refused {a : DbAnswers} {i : Nat} (h : a.deleteOk i = false) (p : AppControlRow → Bool)
    (t : Table) : Rdb.deleteOne a i p t = (.ERR_APPEXECFWK_DB_DELETE_ERROR, t) := by
  unfold Rdb.deleteOne deleteWhere
  rw [h]
  rfl

theorem deleteOne_ok {a : DbAnswers} {i : Nat} {p : AppControlRow → Bool} {t t₁ : Table}
    (h : Rdb.deleteOne a i p t = (.ERR_OK, t₁)) : a.deleteOk i = true ∧ t₁ = t.filter fun r => !p r := by
  cases hok : a.deleteOk i with
  | false =>
    rw [deleteOne_of_refused hok] at h
    cases h
  | true =>
    rw [deleteOne_of_ok hok] at h
    exact ⟨rfl, (Prod.mk.inj h).2.symm⟩

theorem deleteRules_sublist (a : DbAnswers) (callingName appControlList : Str) (appIds : List Str) (userId : Int)
    (t : Table) : (Rdb.deleteRules a callingName appControlList appIds userId t).2.Sublist t := by
  have h := deleteEach_sublist a.deleteOk (Rdb.isRule callingName appControlList · userId) 0 appIds t
  unfold Rdb.deleteRules
  split <;> simp_all

/-- Deletes that the store carries out. -/
theorem deleteRules_of_ok {a : DbAnswers} (h : ∀ i, a.deleteOk i = true) (callingName appControlList : Str)
    (appIds : List Str) (userId : Int) (t : Table) :
    Rdb.deleteRules a callingName appControlList appIds userId t =
      (.ERR_OK, t.filter fun r => !appIds.any fun appId => Rdb.isRule callingName appControlList appId userId r) := by
  have h1 := (deleteEach_fst_iff a.deleteOk (Rdb.isRule callingName appControlList · userId) 0 appIds t).mpr
    fun _ _ => h _
  have h2 := deleteEach_of_fst _ _ _ _ _ h1
  unfold Rdb.deleteRules
  split <;> simp_all

/-- The table after an add: what the deletes left, and the rows the store took. -/
theorem addRules_snd (a : DbAnswers) (rows : List AppControlRow) (t : Table) :
    let deleted := deleteEach a.deleteOk (fun r => Rdb.isRule r.callingName r.appControlList r.appId r.userId) 0 rows t
    (Rdb.addRules a rows t).2 =
      if deleted.1 = true ∧ a.batch.ok = true then deleted.2 ++ rows.take a.batch.inserted else deleted.2 := by
  intro deleted
  have hdel : deleteEach a.deleteOk (fun r => Rdb.isRule r.callingName r.appControlList r.appId r.userId) 0 rows t =
      deleted := rfl
  unfold Rdb.addRules batchInsert
  rw [hdel]
  obtain ⟨ok, t₁⟩ := deleted
  cases ok with
  | false => simp
  | true =>
    cases hb : a.batch.ok with
    | false => simp
    | true =>
      simp only [if_true, and_self]
      split <;> rfl

/-- An add that the store carries out. -/
theorem addRules_of_ok {a : DbAnswers} {rows : List AppControlRow} (hdel : ∀ i, a.deleteOk i = true)
    (hb : a.batch.ok = true) (hlen : rows.length ≤ a.batch.inserted) (t : Table) :
    Rdb.addRules a rows t =
      (.ERR_OK, (t.filter fun r => !rows.any fun x => Rdb.isRule x.callingName x.appControlList x.appId x.userId r) ++
        rows) := by
  have h1 := (deleteEach_fst_iff a.deleteOk (fun x : AppControlRow =>
    Rdb.isRule x.callingName x.appControlList x.appId x.userId) 0 rows t).mpr fun _ _ => hdel _
  have h2 := deleteEach_of_fst _ _ _ _ _ h1
  have htake : rows.take a.batch.inserted = rows := List.take_of_length_le hlen
  unfold Rdb.addRules batchInsert
  split
  · next hd => rw [hd] at h1; cases h1
  · next t₁ hd =>
    rw [hd] at h2
    simp only [hb, if_true, htake]
    rw [if_neg (by simp), show t₁ = _ from h2]

/-- An add whose first delete is refused. -/
theorem addRules_of_refused {a : DbAnswers} {rows : List AppControlRow} (h : a.deleteOk 0 = false) (hne : rows ≠ [])
    (t : Table) : Rdb.addRules a rows t = (.ERR_APPEXECFWK_DB_DELETE_ERROR, t) := by
  obtain ⟨r, rest, rfl⟩ := List.exists_cons_of_ne_nil hne
  simp [Rdb.addRules, deleteEach, deleteWhere, h]

theorem deleteRules_of_refused {a : DbAnswers} {appIds : List Str} (h : a.deleteOk 0 = false) (hne : appIds ≠ [])
    (callingName appControlList : Str) (userId : Int) (t : Table) :
    Rdb.deleteRules a callingName appControlList appIds userId t = (.ERR_APPEXECFWK_DB_DELETE_ERROR, t) := by
  obtain ⟨appId, rest, rfl⟩ := List.exists_cons_of_ne_nil hne
  simp [Rdb.deleteRules, deleteEach, deleteWhere, h]

end BundleFramework.AppControl
