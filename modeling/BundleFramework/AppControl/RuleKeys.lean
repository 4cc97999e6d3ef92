import BundleFramework.AppControl.Manager

/-!
# One rule for each key

No constraint of the store keeps two rules of one caller, list, user, app and index apart;
each writer deletes the old rule before it inserts.  In every run from such a table

    no two rows share a key, always ↔ every call meets `KeepsKeysApart`     (always_uniqueKey_iff)

The condition excludes two kinds of calls only: an add whose list repeats an appId, and a
migration that brings two rules of different appIds under one.
-/

namespace BundleFramework.AppControl

open RowTable

variable {Want : Type}

def ruleKey (r : AppControlRow) : Str × Str × Int × Str × Int :=
  (r.callingName, r.appControlList, r.userId, r.appId, r.appIndex)

/-- The key without the appId. -/
def restKey (r : AppControlRow) : Str × Str × Int × Int := (r.callingName, r.appControlList, r.userId, r.appIndex)

/-! ## Statements -/

/-- **Adding rules** keeps the keys apart just when the rows taken have different keys. -/
theorem addRules_uniqueKey_iff (a : DbAnswers) (rows : List AppControlRow) {t : Table} (h : UniqueKey ruleKey t) :
    UniqueKey ruleKey (Rdb.addRules a rows t).2 ↔
      ((∀ j < rows.length, a.deleteOk j = true) → a.batch.ok = true →
        UniqueKey ruleKey (rows.take a.batch.inserted)) := by
  rw [addRules_snd]
  have hsub := deleteEach_sublist a.deleteOk
    (fun r => Rdb.isRule r.callingName r.appControlList r.appId r.userId) 0 rows t
  have hiff := deleteEach_fst_iff a.deleteOk
    (fun r => Rdb.isRule r.callingName r.appControlList r.appId r.userId) 0 rows t
  simp only [Nat.zero_add] at hiff
  have hgone := deleteEach_of_fst a.deleteOk
    (fun r => Rdb.isRule r.callingName r.appControlList r.appId r.userId) 0 rows t
  split
  · next hok =>
    obtain ⟨hdel, hbatch⟩ := hok
    refine (uniqueKey_append_iff (h.sublist hsub) ?_).trans
      ⟨fun hu _ _ => hu, fun hu => hu (hiff.mp hdel) hbatch⟩
    -- a row left over would have been deleted as the old rule of the new row
    intro r hr r' hr' hk
    rw [hgone hdel, List.mem_filter] at hr
    have hany : rows.any (fun x => Rdb.isRule x.callingName x.appControlList x.appId x.userId r) = true := by
      refine List.any_eq_true.mpr ⟨r', List.mem_of_mem_take hr', ?_⟩
      simp only [ruleKey, Prod.mk.injEq] at hk
      simp [Rdb.isRule, hk]
    rw [hany] at hr
    exact absurd hr.2 (by simp)
  · next hok =>
    refine ⟨fun _ hdel hbatch => absurd ⟨hiff.mpr hdel, hbatch⟩ hok, fun _ => h.sublist hsub⟩

/-- Rows that differ in their appId only. -/
theorem uniqueKey_take_map_iff {α : Type} {f : α → AppControlRow} (appId : α → Str) (xs : List α) (n : Nat)
    (happ : ∀ x, (f x).appId = appId x)
    (hrest : ∀ x y, restKey (f x) = restKey (f y)) :
    UniqueKey ruleKey ((xs.map f).take n) ↔ ((xs.map appId).take n).Nodup := by
  unfold UniqueKey List.Nodup
  rw [← List.map_take, ← List.map_take, List.pairwise_map, List.pairwise_map, List.pairwise_map]
  have hkey : ∀ x y, ruleKey (f x) = ruleKey (f y) ↔ appId x = appId y := by
    intro x y
    have := hrest x y
    simp only [restKey, Prod.mk.injEq] at this
    simp [ruleKey, this, happ]
  simp only [ne_eq, hkey]

/-- `t'` is `t` less some rows, or less those of `p` and with `row` behind. -/
def Rewritten (p : AppControlRow → Bool) (row : AppControlRow) (t t' : Table) : Prop :=
  t'.Sublist t ∨ t' = (t.filter fun r => !p r) ++ [row]

theorem rewritten_insertRow {a : DbAnswers} {p : AppControlRow → Bool} {t t₁ : Table}
    (hd : Rdb.deleteOne a 0 p t = (.ERR_OK, t₁)) {row : AppControlRow} {res : Bool × Table}
    (hrow : insertRow a.insertOk row t₁ = res) : Rewritten p row t res.2 := by
  obtain ⟨-, rfl⟩ := deleteOne_ok hd
  rw [← hrow]
  unfold insertRow
  split
  · exact Or.inr rfl
  · exact Or.inl List.filter_sublist

/-- What `SetDisposedStatus` leaves: the old row goes, the new one comes. -/
theorem setDisposedStatus_rewritten (a : DbAnswers) (callingName appId want : Str) (userId : Int) (t : Table) :
    Rewritten (Rdb.isRule callingName RUNNING_CONTROL appId userId)
      { callingName := callingName, appControlList := RUNNING_CONTROL, userId := userId, appId := appId,
        disposedStatus := want, priority := PRIORITY_APP_MARKET, timeStamp := putInt a.time }
      t (Rdb.setDisposedStatus a callingName appId want userId t).2 := by
  have hsub := deleteOne_sublist a 0 (Rdb.isRule callingName RUNNING_CONTROL appId userId) t
  unfold Rdb.setDisposedStatus Rdb.deleteDisposedStatus
  split
  · next t₁ hd =>
    split
    · next hrow => exact rewritten_insertRow hd hrow
    · next hrow => exact rewritten_insertRow hd hrow
  · next hd =>
    rw [hd] at hsub
    exact Or.inl hsub

theorem disposeWrite_rewritten (view : BundleView) (a : DbAnswers) (callerName appId rule : Str)
    (priority appIndex userId : Int) (t : Table) :
    Rewritten (Rdb.isDisposedRule callerName [appId, appIdAndAppIdentifierTransform view appId] appIndex userId)
      (Rdb.disposedRow a.time callerName appId rule priority appIndex userId)
      t (disposeWrite view a callerName appId rule priority appIndex userId t).2 := by
  have hsub := deleteOne_sublist a 0 (Rdb.isDisposedRule callerName
    [appId, appIdAndAppIdentifierTransform view appId] appIndex userId) t
  unfold disposeWrite Rdb.deleteDisposedRule
  split
  · next t₁ hd =>
    unfold Rdb.setDisposedRule
    split
    · next hrow => exact rewritten_insertRow hd hrow
    · next hrow => exact rewritten_insertRow hd hrow
  · next hd =>
    rw [hd] at hsub
    exact Or.inl hsub

/-- Where every row of the new row's key is deleted before, the keys stay apart. -/
theorem Rewritten.uniqueKey {p : AppControlRow → Bool} {row : AppControlRow} {t t' : Table}
    (hr : Rewritten p row t t') (hp : ∀ r, ruleKey r = ruleKey row → p r = true) (h : UniqueKey ruleKey t) :
    UniqueKey ruleKey t' := by
  rcases hr with hsub | rfl
  · exact h.sublist hsub
  · refine (uniqueKey_append_iff (h.sublist List.filter_sublist) ?_).mpr (by simp [UniqueKey])
    intro r hr r' hr' hk
    rw [List.mem_singleton.mp hr'] at hk
    have hout := (List.mem_filter.mp hr).2
    rw [hp r hk] at hout
    cases hout

theorem Rewritten.mem {p : AppControlRow → Bool} {row : AppControlRow} {t t' : Table} (hr : Rewritten p row t t')
    {r : AppControlRow} (h : r ∈ t') : r ∈ t ∨ r = row := by
  rcases hr with hsub | rfl
  · exact Or.inl (hsub.subset h)
  · rcases List.mem_append.mp h with h | h
    · exact Or.inl (List.mem_of_mem_filter h)
    · exact Or.inr (List.mem_singleton.mp h)

theorem setDisposedStatus_uniqueKey (a : DbAnswers) (callingName appId want : Str) (userId : Int) {t : Table}
    (h : UniqueKey ruleKey t) : UniqueKey ruleKey (Rdb.setDisposedStatus a callingName appId want userId t).2 := by
  refine (setDisposedStatus_rewritten a callingName appId want userId t).uniqueKey (fun r hk => ?_) h
  simp only [ruleKey, Prod.mk.injEq] at hk
  simp [Rdb.isRule, hk]

theorem disposeWrite_uniqueKey (view : BundleView) (a : DbAnswers) (callerName appId rule : Str)
    (priority appIndex userId : Int) {t : Table} (h : UniqueKey ruleKey t) :
    UniqueKey ruleKey (disposeWrite view a callerName appId rule priority appIndex userId t).2 := by
  refine (disposeWrite_rewritten view a callerName appId rule priority appIndex userId t).uniqueKey (fun r hk => ?_) h
  simp only [ruleKey, Rdb.disposedRow, Prod.mk.injEq] at hk
  simp [Rdb.isDisposedRule, hk]

theorem deleteAllDisposedRuleByBundle_sublist (a : DbAnswers) (appIdList : List Str) (appIndex userId : Int)
    (t : Table) : (Rdb.deleteAllDisposedRuleByBundle a appIdList appIndex userId t).2.Sublist t := by
  have h1 := deleteOne_sublist a 0 (Rdb.isDisposedByBundle appIdList appIndex userId) t
  unfold Rdb.deleteAllDisposedRuleByBundle Rdb.deleteDisposedRuleByBundleExcludeEdm
  split
  · next t₁ hd =>
    rw [hd] at h1
    have h2 := deleteOne_sublist a 1 (Rdb.isRunningExcludeEdm appIdList appIndex userId) t₁
    split <;> next hd' => rw [hd'] at h2; exact h2.trans h1
  · next hd =>
    rw [hd] at h1
    exact h1

/-! ## Migrations -/

theorem migrateRow_of_mem {ids : List Str} {newAppId : Str} {r : AppControlRow} (h : r.appId ∈ newAppId :: ids) :
    ruleKey (Rdb.migrateRow ids newAppId r) = (r.callingName, r.appControlList, r.userId, newAppId, r.appIndex) := by
  unfold Rdb.migrateRow
  split
  · rfl
  · next hr =>
    have hnew : r.appId = newAppId := (List.mem_cons.mp h).resolve_right (by simpa using hr)
    simp [ruleKey, hnew]

theorem migrateRow_of_not_mem {ids : List Str} {newAppId : Str} {r : AppControlRow} (h : r.appId ∉ newAppId :: ids) :
    Rdb.migrateRow ids newAppId r = r :=
  if_neg (by simpa using fun hm => h (List.mem_cons_of_mem _ hm))

/-- A migration changes the appId only. -/
theorem migrateRow_eq (ids : List Str) (newAppId : Str) (r : AppControlRow) :
    Rdb.migrateRow ids newAppId r = { r with appId := (Rdb.migrateRow ids newAppId r).appId } := by
  unfold Rdb.migrateRow
  split
  · rfl
  · rfl

/-- **A migration** keeps the keys apart just when the rules under the old and the new
appIds differ in more than the appId. -/
theorem migrate_uniqueKey_iff (ids : List Str) (newAppId : Str) {t : Table} (h : UniqueKey ruleKey t) :
    UniqueKey ruleKey (t.map (Rdb.migrateRow ids newAppId)) ↔
      UniqueKey restKey (t.filter fun r => decide (r.appId ∈ newAppId :: ids)) := by
  refine uniqueKey_map_iff h fun r r' hne => ?_
  simp only [decide_eq_true_eq]
  by_cases hr : r.appId ∈ newAppId :: ids
  · rw [migrateRow_of_mem hr]
    by_cases hr' : r'.appId ∈ newAppId :: ids
    · rw [migrateRow_of_mem hr']
      simp [restKey, hr, hr']
    · rw [migrateRow_of_not_mem hr']
      have hne' : newAppId ≠ r'.appId := fun he => hr' (he ▸ List.mem_cons_self)
      simp [ruleKey, hr', hne']
  · rw [migrateRow_of_not_mem hr]
    simp only [hr, false_implies, iff_true]
    by_cases hr' : r'.appId ∈ newAppId :: ids
    · rw [migrateRow_of_mem hr']
      have hne' : r.appId ≠ newAppId := fun he => hr (he ▸ List.mem_cons_self)
      simp [ruleKey, hne']
    · rw [migrateRow_of_not_mem hr']
      exact hne

/-! ## Runs -/

/-- The condition on a call: an add that goes through stores different appIds, and a
migration meets no two rules that differ in the appId only. -/
def KeepsKeysApart (s : Manager Want) : DbAnswers × Call Want → Prop
  | (a, .addAppInstallControlRule _ appIds _ _) =>
    (∀ j < appIds.length, a.deleteOk j = true) → a.batch.ok = true → (appIds.take a.batch.inserted).Nodup
  | (a, .addAppRunningControlRule _ controlRules userId) =>
    s.checkControlRules controlRules userId = .ERR_OK → (∀ j < controlRules.length, a.deleteOk j = true) →
      a.batch.ok = true → ((controlRules.map (·.appId)).take a.batch.inserted).Nodup
  | (a, .updateAppControlAppId oldAppIdList newAppId) => newAppId ≠ [] → a.updateOk = true →
    UniqueKey restKey (s.table.filter fun r => decide (r.appId ∈ newAppId :: migrateAppIds oldAppIdList newAppId))
  | _ => True

theorem addAppRunningControlRule_table (view : BundleView) (a : DbAnswers) (callingName : Str)
    (controlRules : List AppRunningControlRule) (userId : Int) (s : Manager Want) :
    (s.addAppRunningControlRule view a callingName controlRules userId).2.table =
      if s.checkControlRules controlRules userId = .ERR_OK then
        (Rdb.addAppRunningControlRule a callingName controlRules userId s.table).2 else s.table := by
  unfold Manager.addAppRunningControlRule
  cases hc : s.checkControlRules controlRules userId with
  | ERR_OK =>
    rw [if_pos rfl]
    refine s.writeThen_table _ fun s' => ?_
    dsimp only
    rw [foldl_deleteCacheOfRule]
    show Manager.table (if _ then _ else _) = _
    split <;> rfl
  | _ => rfl

theorem deleteAppRunningControlRule_table (view : BundleView) (a : DbAnswers) (callingName : Str)
    (controlRules : List AppRunningControlRule) (userId : Int) (s : Manager Want) :
    (s.deleteAppRunningControlRule view a callingName controlRules userId).2.table =
      if s.checkControlRules controlRules userId = .ERR_OK then
        (Rdb.deleteAppRunningControlRule a callingName controlRules userId s.table).2 else s.table := by
  unfold Manager.deleteAppRunningControlRule
  cases hc : s.checkControlRules controlRules userId with
  | ERR_OK =>
    rw [if_pos rfl]
    refine s.writeThen_table _ fun s' => ?_
    rw [Manager.deleteRunningRuleSettingStatusCache_table, foldl_deleteCacheOfRule]
  | _ => rfl

theorem updateAppControlAppId_table (a : DbAnswers) (oldAppIdList : List Str) (newAppId : Str) (s : Manager Want) :
    (s.updateAppControlAppId a oldAppIdList newAppId).2.table =
      if newAppId ≠ [] ∧ a.updateOk = true then
        s.table.map (Rdb.migrateRow (migrateAppIds oldAppIdList newAppId) newAppId)
      else s.table := by
  unfold Manager.updateAppControlAppId
  by_cases hnew : newAppId = []
  · simp [hnew]
  · rw [if_neg hnew]
    by_cases hids : migrateAppIds oldAppIdList newAppId = []
    · have hid : Rdb.migrateRow [] newAppId = id := by
        funext r
        simp [Rdb.migrateRow]
      simp [hids, hid]
    · simp only [hids, if_false]
      rw [s.writeThen_table _ fun s' => by split <;> rfl]
      unfold Rdb.updateAppControlAppId updateWhere
      rw [if_neg (by simp [hnew, hids])]
      cases hok : a.updateOk with
      | false => simp
      | true => exact (if_pos (⟨hnew, rfl⟩ : newAppId ≠ [] ∧ true = true)).symm

theorem getAppRunningControlRule_table (view : BundleView) (order : OrderBy AppControlRow.priority)
    (wants : Codec Want) (a : DbAnswers) (bundleName : Str) (userId : Int) (s : Manager Want) :
    (s.getAppRunningControlRule view order wants a bundleName userId).2.2.table = s.table := by
  unfold Manager.getAppRunningControlRule
  split
  · rfl
  · dsimp only
    split
    · split <;> rfl
    · rfl

/-- The calls that add no row and rewrite none. -/
def Call.OnlyDeletes : Call Want → Prop
  | .addAppInstallControlRule .. => False
  | .addAppRunningControlRule .. => False
  | .setDisposedStatus .. => False
  | .setDisposedRule .. => False
  | .updateAppControlAppId .. => False
  | _ => True

/-- Such a call leaves a part of the table. -/
theorem step_sublist (view : BundleView) (order : OrderBy AppControlRow.priority) (wants : Codec Want)
    (s : Manager Want) (a : DbAnswers) {call : Call Want} (hcall : call.OnlyDeletes) :
    (s.step view order wants (a, call)).table.Sublist s.table := by
  have hplain : ∀ r : ErrCode × Table, (s.writeThen r id).2.table = r.2 :=
    fun r => s.writeThen_table r fun _ => rfl
  cases call with
  | addAppInstallControlRule callingName appIds controlRuleType userId => exact hcall.elim
  | addAppRunningControlRule callingName controlRules userId => exact hcall.elim
  | setDisposedStatus appId want userId => exact hcall.elim
  | setDisposedRule callerName appId rule priority appIndex userId => exact hcall.elim
  | updateAppControlAppId oldAppIdList newAppId => exact hcall.elim
  | deleteAppInstallControlRule callingName controlRuleType appIds userId =>
    show (s.writeThen _ id).2.table.Sublist _
    rw [hplain]
    exact deleteRules_sublist a callingName controlRuleType appIds userId s.table
  | deleteAppInstallControlRuleOfUser callingName controlRuleType userId =>
    show (s.writeThen _ id).2.table.Sublist _
    rw [hplain]
    exact deleteOne_sublist a 0 _ s.table
  | deleteAppRunningControlRule callingName controlRules userId =>
    show (s.deleteAppRunningControlRule view a callingName controlRules userId).2.table.Sublist _
    rw [deleteAppRunningControlRule_table]
    split
    · exact deleteRules_sublist a callingName RUNNING_CONTROL (controlRules.map (·.appId)) userId s.table
    · exact List.Sublist.refl _
  | deleteAppRunningControlRuleOfUser callingName userId =>
    show (s.deleteAppRunningControlRuleOfUser a callingName userId).2.table.Sublist _
    unfold Manager.deleteAppRunningControlRuleOfUser
    rw [Manager.writeThen_table]
    · exact deleteOne_sublist a 0 _ s.table
    · intro s'
      rfl
  | deleteDisposedStatus appId userId =>
    show (s.deleteDisposedStatus a appId userId).2.table.Sublist _
    unfold Manager.deleteDisposedStatus
    rw [Manager.writeThen_table]
    · exact deleteOne_sublist a 0 _ s.table
    · intro s'
      rfl
  | deleteDisposedRule callerName appId appIndex userId =>
    show (s.writeThen _ id).2.table.Sublist _
    rw [hplain]
    exact deleteOne_sublist a 0 _ s.table
  | deleteAllDisposedRuleByBundle bundleInfo appIndex userId =>
    show (s.deleteAllDisposedRuleByBundle a bundleInfo appIndex userId).2.table.Sublist _
    unfold Manager.deleteAllDisposedRuleByBundle
    rw [s.writeThen_table _ fun s' => s'.deleteAppRunningRuleCacheExcludeEdm_table _]
    exact deleteAllDisposedRuleByBundle_sublist a _ appIndex userId s.table
  | deleteAllDisposedRulesForUser userId =>
    show (s.writeThen _ id).2.table.Sublist _
    rw [hplain]
    exact deleteOne_sublist a 0 _ s.table
  | deleteUninstallDisposedRule callerName appIdentifier appIndex userId =>
    show (s.writeThen _ id).2.table.Sublist _
    rw [hplain]
    exact deleteOne_sublist a 0 _ s.table
  | getAppRunningControlRule bundleName userId =>
    show (s.getAppRunningControlRule view order wants a bundleName userId).2.2.table.Sublist _
    rw [getAppRunningControlRule_table]

/-- The table after a block is set. -/
theorem setDisposedStatus_table (view : BundleView) (wants : Codec Want) (a : DbAnswers) (appId : Str) (want : Want)
    (userId : Int) (s : Manager Want) :
    (s.setDisposedStatus view wants a appId want userId).2.table =
      if checkCanDispose view appId userId = true then
        (Rdb.setDisposedStatus a APP_MARKET_CALLING appId (wants.ToString want) userId s.table).2 else s.table := by
  unfold Manager.setDisposedStatus
  cases hc : checkCanDispose view appId userId with
  | false => rfl
  | true =>
    refine s.writeThen_table _ fun s' => ?_
    rfl

/-- **One call** keeps the keys apart just when it meets the condition. -/
theorem uniqueKey_step_iff (view : BundleView) (order : OrderBy AppControlRow.priority) (wants : Codec Want)
    (s : Manager Want) (call : DbAnswers × Call Want) (h : UniqueKey ruleKey s.table) :
    UniqueKey ruleKey (s.step view order wants call).table ↔ KeepsKeysApart s call := by
  obtain ⟨a, call⟩ := call
  have hplain : ∀ r : ErrCode × Table, (s.writeThen r id).2.table = r.2 :=
    fun r => s.writeThen_table r fun _ => rfl
  cases call with
  | addAppInstallControlRule callingName appIds controlRuleType userId =>
    show UniqueKey ruleKey (s.writeThen (Rdb.addRules a _ s.table) id).2.table ↔ _
    rw [hplain, addRules_uniqueKey_iff a _ h, uniqueKey_take_map_iff id appIds a.batch.inserted
      (fun _ => rfl) (fun _ _ => rfl), List.map_id, List.length_map]
    exact Iff.rfl
  | addAppRunningControlRule callingName controlRules userId =>
    show UniqueKey ruleKey (s.addAppRunningControlRule view a callingName controlRules userId).2.table ↔ _
    rw [addAppRunningControlRule_table]
    split
    · next hc =>
      rw [Rdb.addAppRunningControlRule, addRules_uniqueKey_iff a _ h,
        uniqueKey_take_map_iff (·.appId) controlRules a.batch.inserted (fun _ => rfl) (fun _ _ => rfl),
        List.length_map]
      exact ⟨fun hx _ => hx, fun hx => hx hc⟩
    · next hc => exact ⟨fun _ hc' => absurd hc' hc, fun _ => h⟩
  | updateAppControlAppId oldAppIdList newAppId =>
    show UniqueKey ruleKey (s.updateAppControlAppId a oldAppIdList newAppId).2.table ↔ _
    rw [updateAppControlAppId_table]
    split
    · next hc =>
      rw [migrate_uniqueKey_iff _ _ h]
      exact ⟨fun hx _ _ => hx, fun hx => hx hc.1 hc.2⟩
    · next hc => exact ⟨fun _ h1 h2 => absurd ⟨h1, h2⟩ hc, fun _ => h⟩
  | setDisposedStatus appId want userId =>
    refine iff_true_intro ?_
    show UniqueKey ruleKey (s.setDisposedStatus view wants a appId want userId).2.table
    rw [setDisposedStatus_table]
    split
    · exact setDisposedStatus_uniqueKey a APP_MARKET_CALLING appId (wants.ToString want) userId h
    · exact h
  | setDisposedRule callerName appId rule priority appIndex userId =>
    refine iff_true_intro ?_
    show UniqueKey ruleKey (s.setDisposedRule view a callerName appId rule priority appIndex userId).2.table
    unfold Manager.setDisposedRule
    split
    · exact h
    · rw [hplain]
      exact disposeWrite_uniqueKey view a callerName appId rule priority appIndex userId h
  | _ => exact iff_true_intro (h.sublist (step_sublist view order wants s a trivial))

/-- **One rule for each key, exactly**: from a table without two rows of one key, no state of
the run has two just when every call meets the condition. -/
theorem always_uniqueKey_iff (view : BundleView) (order : OrderBy AppControlRow.priority) (wants : Codec Want)
    (s : Manager Want) (h : UniqueKey ruleKey s.table) (calls : List (DbAnswers × Call Want)) :
    StepRun.Always (Manager.step view order wants) (fun s' => UniqueKey ruleKey s'.table) s calls ↔
      StepRun.Each (Manager.step view order wants) KeepsKeysApart s calls :=
  StepRun.always_iff_each (fun s' call hs => uniqueKey_step_iff view order wants s' call hs) h

/-- Two apps may not be uninstalled, then one of them again. -/
def addTwice : List (DbAnswers × Call Str) :=
  [(allOk 1 2, .addAppInstallControlRule EDM_CALLING [['x'], ['y']] ['u'] 100),
   (allOk 2 1, .addAppInstallControlRule EDM_CALLING [['x']] ['u'] 100)]

theorem always_uniqueKey_iff_addTwice :
    StepRun.Always (Manager.step noBundles (insertionOrder AppControlRow.priority) textWants)
      (fun s' => UniqueKey ruleKey s'.table) (.construct []) addTwice :=
  (always_uniqueKey_iff noBundles (insertionOrder AppControlRow.priority) textWants (.construct [])
    (by simp [Manager.construct, UniqueKey]) addTwice).mpr
    ⟨fun _ _ => by decide, fun _ _ => by decide, trivial⟩

/-- One add that names an app twice. -/
def repeatedApp : List (DbAnswers × Call Str) :=
  [(allOk 1 2, .addAppInstallControlRule EDM_CALLING [['x'], ['x']] ['u'] 100)]

/-- Rules under the old and under the new appId, then the migration. -/
def migrateOnto : List (DbAnswers × Call Str) :=
  [(allOk 1 2, .addAppInstallControlRule EDM_CALLING [['x'], ['y']] ['u'] 100),
   (allOk 2 0, .updateAppControlAppId [['x']] ['y'])]

/-- **Two rows of one key**: after an add that repeats an appId, and after a migration onto
an appId that has the rule already. -/
theorem duplicate_rules :
    ((Manager.construct []).run noBundles (insertionOrder AppControlRow.priority) textWants repeatedApp).table.map
      ruleKey = [(EDM_CALLING, ['u'], 100, ['x'], 0), (EDM_CALLING, ['u'], 100, ['x'], 0)] ∧
    ((Manager.construct []).run noBundles (insertionOrder AppControlRow.priority) textWants migrateOnto).table.map
      ruleKey = [(EDM_CALLING, ['u'], 100, ['y'], 0), (EDM_CALLING, ['u'], 100, ['y'], 0)] ∧
    ¬ ∀ calls : List (DbAnswers × Call Str),
      StepRun.Always (Manager.step noBundles (insertionOrder AppControlRow.priority) textWants)
        (fun s' => UniqueKey ruleKey s'.table) (.construct []) calls := by
  have h : ((Manager.construct []).run noBundles (insertionOrder AppControlRow.priority) textWants
      repeatedApp).table.map ruleKey = [(EDM_CALLING, ['u'], 100, ['x'], 0), (EDM_CALLING, ['u'], 100, ['x'], 0)] := by
    decide +kernel
  refine ⟨h, by decide +kernel, fun hall => ?_⟩
  have hu := hall repeatedApp repeatedApp (List.prefix_refl _)
  unfold UniqueKey at hu
  change (List.map ruleKey ((Manager.construct []).run noBundles (insertionOrder AppControlRow.priority) textWants
    repeatedApp).table).Nodup at hu
  rw [h] at hu
  simp at hu

end BundleFramework.AppControl
