import BundleFramework.AppControl.RunningCache

/-!
# The verdict of running control

Two callers write running-control rows: EDM, whose rows allow or forbid by the list mode of
the user, and the app market, whose rows always forbid.  Read off the rows of both ids, an
app is controlled as `Controlled` says.  `GetAppRunningControlRule` looks at one row only:
the one with the smallest priority under the appIdentifier, else under the appId.  So, for
every table of such rows and an app with nothing cached:

    the verdict is that of the rows
      ↔ the list is black, or the market has no row, or EDM has none where the row is taken
                                                                    (verdict_iff)

Otherwise the row of EDM hides the block of the app market.
-/

namespace BundleFramework.AppControl

open Std RowTable

variable {Want : Type}

/-! ## The rows of the two callers -/

/-- A running-control row as its two writers make it. -/
def WrittenRow (r : AppControlRow) : Prop :=
  (r.callingName = EDM_CALLING ∧ r.priority = PRIORITY_EDM) ∨
  (r.callingName = APP_MARKET_CALLING ∧ r.priority = PRIORITY_APP_MARKET)

def RuleTable (t : Table) : Prop := ∀ r ∈ t, r.appControlList = RUNNING_CONTROL → WrittenRow r

/-- A row in a table after a call: one that was there, up to its appId, or a new one. -/
def FromRow (t : Table) (r : AppControlRow) : Prop := ∃ r₀ ∈ t, r = { r₀ with appId := r.appId }

theorem FromRow.of_mem {t : Table} {r : AppControlRow} (h : r ∈ t) : FromRow t r := ⟨r, h, rfl⟩

/-- The calls as the host passes them on: `GetCallingName` knows EDM only, and
`GetControlRuleType` gives the types of install control. -/
def FromHost : DbAnswers × Call Want → Prop
  | (_, .addAppInstallControlRule _ _ controlRuleType _) => controlRuleType ≠ RUNNING_CONTROL
  | (_, .addAppRunningControlRule callingName _ _) => callingName = EDM_CALLING
  | _ => True

/-- The new rows of an add are among those asked for. -/
theorem mem_addRules {a : DbAnswers} {rows : List AppControlRow} {t : Table} {r : AppControlRow}
    (h : r ∈ (Rdb.addRules a rows t).2) : r ∈ t ∨ r ∈ rows := by
  have hsub := deleteEach_sublist a.deleteOk
    (fun x : AppControlRow => Rdb.isRule x.callingName x.appControlList x.appId x.userId) 0 rows t
  rw [addRules_snd] at h
  split at h
  · rcases List.mem_append.mp h with h | h
    · exact Or.inl (hsub.subset h)
    · exact Or.inr (List.mem_of_mem_take h)
  · exact Or.inl (hsub.subset h)

/-- What a call can leave in the table. -/
theorem mem_step_table {view : BundleView} {order : OrderBy AppControlRow.priority} {wants : Codec Want}
    {s : Manager Want} {call : DbAnswers × Call Want} (hcall : FromHost call) {r : AppControlRow}
    (h : r ∈ (s.step view order wants call).table) :
    FromRow s.table r ∨ r.appControlList ≠ RUNNING_CONTROL ∨ WrittenRow r := by
  obtain ⟨a, call⟩ := call
  have hplain : ∀ x : ErrCode × Table, (s.writeThen x id).2.table = x.2 := fun x => s.writeThen_table x fun _ => rfl
  cases call with
  | addAppInstallControlRule callingName appIds controlRuleType userId =>
    change r ∈ (s.writeThen _ id).2.table at h
    rw [hplain] at h
    rcases mem_addRules h with h | h
    · exact Or.inl (.of_mem h)
    · obtain ⟨appId, -, rfl⟩ := List.mem_map.mp h
      exact Or.inr (Or.inl hcall)
  | addAppRunningControlRule callingName controlRules userId =>
    change r ∈ (s.addAppRunningControlRule view a callingName controlRules userId).2.table at h
    rw [addAppRunningControlRule_table] at h
    split at h
    · rcases mem_addRules h with h | h
      · exact Or.inl (.of_mem h)
      · obtain ⟨rule, -, rfl⟩ := List.mem_map.mp h
        exact Or.inr (Or.inr (Or.inl ⟨hcall, rfl⟩))
    · exact Or.inl (.of_mem h)
  | updateAppControlAppId oldAppIdList newAppId =>
    change r ∈ (s.updateAppControlAppId a oldAppIdList newAppId).2.table at h
    rw [updateAppControlAppId_table] at h
    split at h
    · obtain ⟨r₀, hr₀, rfl⟩ := List.mem_map.mp h
      exact Or.inl ⟨r₀, hr₀, migrateRow_eq _ _ r₀⟩
    · exact Or.inl (.of_mem h)
  | setDisposedStatus appId want userId =>
    change r ∈ (s.setDisposedStatus view wants a appId want userId).2.table at h
    rw [setDisposedStatus_table] at h
    split at h
    · rcases (setDisposedStatus_rewritten ..).mem h with h | rfl
      · exact Or.inl (.of_mem h)
      · exact Or.inr (Or.inr (Or.inr ⟨rfl, rfl⟩))
    · exact Or.inl (.of_mem h)
  | setDisposedRule callerName appId rule priority appIndex userId =>
    change r ∈ (s.setDisposedRule view a callerName appId rule priority appIndex userId).2.table at h
    unfold Manager.setDisposedRule at h
    split at h
    · exact Or.inl (.of_mem h)
    · rw [hplain] at h
      rcases (disposeWrite_rewritten ..).mem h with h | rfl
      · exact Or.inl (.of_mem h)
      · exact Or.inr (Or.inl (show DISPOSED_RULE ≠ RUNNING_CONTROL by decide))
  | _ =>
    refine Or.inl (.of_mem ((step_sublist view order wants s a ?_).subset h))
    trivial

/-- **One call** of the host keeps the table one of written rows. -/
theorem RuleTable.step {view : BundleView} {order : OrderBy AppControlRow.priority} {wants : Codec Want}
    {s : Manager Want} (h : RuleTable s.table) {call : DbAnswers × Call Want} (hcall : FromHost call) :
    RuleTable (s.step view order wants call).table := by
  intro r hr hlist
  rcases mem_step_table hcall hr with ⟨r₀, hr₀, e⟩ | hother | hw
  · rw [e] at hlist ⊢
    exact h r₀ hr₀ hlist
  · exact absurd hlist hother
  · exact hw

/-- **Every table of a run** of such calls is one of written rows. -/
theorem ruleTable_run (view : BundleView) (order : OrderBy AppControlRow.priority) (wants : Codec Want)
    {s : Manager Want} (h : RuleTable s.table) (calls : List (DbAnswers × Call Want))
    (hcalls : ∀ call ∈ calls, FromHost call) : RuleTable (s.run view order wants calls).table := by
  induction calls generalizing s with
  | nil => exact h
  | cons call calls ih =>
    exact ih (h.step (hcalls call (List.mem_cons_self ..))) fun c hc => hcalls c (List.mem_cons_of_mem _ hc)

/-! ## The verdict of the rows -/

/-- `caller` has a running-control row for the user under the id. -/
def HasRule (t : Table) (userId : Int) (id caller : Str) : Prop :=
  ∃ r ∈ t, (r.appId = id ∧ r.appControlList = RUNNING_CONTROL ∧ r.userId = userId) ∧ r.callingName = caller

/-- `caller` has a row under one of the two ids of the app. -/
def Ruled (t : Table) (userId : Int) (info : BundleRecord) (caller : Str) : Prop :=
  ∃ id, IdOf info id ∧ HasRule t userId id caller

def Controlled (s : Manager Want) (info : BundleRecord) (userId : Int) : Prop :=
  Ruled s.table userId info APP_MARKET_CALLING ∨
  (s.getRunningRuleSettingStatusByUserId userId = .BLACK_LIST ∧ Ruled s.table userId info EDM_CALLING) ∨
  (s.getRunningRuleSettingStatusByUserId userId = .WHITE_LIST ∧ ¬ Ruled s.table userId info EDM_CALLING ∧
    info.isSystemApp = false)

/-- EDM has a row under the first id that has any, the appIdentifier before the appId. -/
def EdmFirst (t : Table) (userId : Int) (info : BundleRecord) : Prop :=
  (info.appIdentifier ≠ [] ∧ HasRule t userId info.appIdentifier EDM_CALLING) ∨
  (HasRule t userId info.appId EDM_CALLING ∧
    ¬ (info.appIdentifier ≠ [] ∧ HasRule t userId info.appIdentifier APP_MARKET_CALLING))

/-- No row of EDM hides one of the app market. -/
def NothingHidden (s : Manager Want) (info : BundleRecord) (userId : Int) : Prop :=
  s.getRunningRuleSettingStatusByUserId userId = .BLACK_LIST ∨
  ¬ Ruled s.table userId info APP_MARKET_CALLING ∨ ¬ EdmFirst s.table userId info

theorem ruled_iff {t : Table} {userId : Int} {info : BundleRecord} {caller : Str} :
    Ruled t userId info caller ↔ HasRule t userId info.appId caller ∨
      (info.appIdentifier ≠ [] ∧ HasRule t userId info.appIdentifier caller) := by
  constructor
  · rintro ⟨id, rfl | ⟨rfl, hne⟩, h⟩
    · exact Or.inl h
    · exact Or.inr ⟨hne, h⟩
  · rintro (h | ⟨hne, h⟩)
    · exact ⟨_, Or.inl rfl, h⟩
    · exact ⟨_, Or.inr ⟨rfl, hne⟩, h⟩

theorem edm_ne_market : EDM_CALLING ≠ APP_MARKET_CALLING := by decide

theorem mem_runningRows {order : OrderBy AppControlRow.priority} {t : Table} {userId : Int} {id : Str}
    {r : AppControlRow} : r ∈ runningRows order t userId id ↔
      r ∈ t ∧ r.appId = id ∧ r.appControlList = RUNNING_CONTROL ∧ r.userId = userId := by
  unfold runningRows
  rw [(order.perm _).mem_iff, List.mem_filter, decide_eq_true_eq]

/-- The first row under an id is one of EDM if EDM has any there: its priority is the smaller. -/
theorem head_runningRows (order : OrderBy AppControlRow.priority) {t : Table} (ht : RuleTable t) (userId : Int)
    (id : Str) :
    ((runningRows order t userId id).head? = none ∧ ¬ HasRule t userId id EDM_CALLING ∧
      ¬ HasRule t userId id APP_MARKET_CALLING) ∨
    ∃ r, (runningRows order t userId id).head? = some r ∧
      ((r.callingName = EDM_CALLING ∧ HasRule t userId id EDM_CALLING) ∨
       (r.callingName = APP_MARKET_CALLING ∧ ¬ HasRule t userId id EDM_CALLING ∧
        HasRule t userId id APP_MARKET_CALLING)) := by
  have hsorted : (runningRows order t userId id).Pairwise fun a b => a.priority ≤ b.priority := order.sorted _
  cases hrows : runningRows order t userId id with
  | nil =>
    have hno : ∀ caller, ¬ HasRule t userId id caller := by
      rintro caller ⟨r, hr, hrow, -⟩
      have hmem : r ∈ runningRows order t userId id := mem_runningRows.mpr ⟨hr, hrow⟩
      rw [hrows] at hmem
      exact List.not_mem_nil hmem
    exact Or.inl ⟨rfl, hno _, hno _⟩
  | cons r rest =>
    obtain ⟨hr, hrow⟩ := mem_runningRows.mp (hrows ▸ List.mem_cons_self : r ∈ runningRows order t userId id)
    refine Or.inr ⟨r, rfl, ?_⟩
    rcases ht r hr hrow.2.1 with ⟨hc, -⟩ | ⟨hc, hp⟩
    · exact Or.inl ⟨hc, r, hr, hrow, hc⟩
    · refine Or.inr ⟨hc, ?_, r, hr, hrow, hc⟩
      rintro ⟨r', hr', hrow', hc'⟩
      -- a row of EDM would stand before this one
      have hp' : r'.priority = PRIORITY_EDM := by
        rcases ht r' hr' hrow'.2.1 with ⟨-, h⟩ | ⟨h, -⟩
        · exact h
        · exact absurd (hc'.symm.trans h) edm_ne_market
      have hmem : r' ∈ runningRows order t userId id := mem_runningRows.mpr ⟨hr', hrow'⟩
      rw [hrows] at hmem hsorted
      rcases List.mem_cons.mp hmem with rfl | hmem
      · exact edm_ne_market (hc'.symm.trans hc)
      · have hle := List.rel_of_pairwise_cons hsorted hmem
        rw [hp, hp'] at hle
        exact absurd hle (by decide)

/-- The row that decides, read off the rows. -/
theorem chosenRow_cases (order : OrderBy AppControlRow.priority) {t : Table} (ht : RuleTable t) (userId : Int)
    (info : BundleRecord) :
    (chosenRow order t userId info = none ∧ ¬ Ruled t userId info EDM_CALLING ∧
      ¬ Ruled t userId info APP_MARKET_CALLING) ∨
    ∃ r, chosenRow order t userId info = some r ∧
      ((r.callingName = EDM_CALLING ∧ EdmFirst t userId info) ∨
       (r.callingName = APP_MARKET_CALLING ∧ ¬ EdmFirst t userId info ∧ Ruled t userId info APP_MARKET_CALLING)) := by
  have hid := head_runningRows order ht userId info.appId
  unfold chosenRow
  by_cases hne : info.appIdentifier = []
  · rw [if_pos hne]
    rcases hid with ⟨hnone, he, hm⟩ | ⟨r, hr, ⟨hc, he⟩ | ⟨hc, he, hm⟩⟩
    · exact Or.inl ⟨hnone, by simp [ruled_iff, hne, he], by simp [ruled_iff, hne, hm]⟩
    · exact Or.inr ⟨r, hr, Or.inl ⟨hc, Or.inr ⟨he, fun h => h.1 hne⟩⟩⟩
    · exact Or.inr ⟨r, hr, Or.inr ⟨hc, by simp [EdmFirst, hne, he], ruled_iff.mpr (Or.inl hm)⟩⟩
  · rw [if_neg hne]
    rcases head_runningRows order ht userId info.appIdentifier with ⟨hnone, he', hm'⟩ | ⟨r, hr, hcase⟩
    · rw [hnone, Option.none_or]
      rcases hid with ⟨hnone, he, hm⟩ | ⟨r, hr, ⟨hc, he⟩ | ⟨hc, he, hm⟩⟩
      · exact Or.inl ⟨hnone, by simp [ruled_iff, he, he'], by simp [ruled_iff, hm, hm']⟩
      · exact Or.inr ⟨r, hr, Or.inl ⟨hc, Or.inr ⟨he, fun h => hm' h.2⟩⟩⟩
      · exact Or.inr ⟨r, hr, Or.inr ⟨hc, by simp [EdmFirst, he, he'], ruled_iff.mpr (Or.inl hm)⟩⟩
    · rw [hr, Option.some_or]
      rcases hcase with ⟨hc, he'⟩ | ⟨hc, he', hm'⟩
      · exact Or.inr ⟨r, rfl, Or.inl ⟨hc, Or.inl ⟨hne, he'⟩⟩⟩
      · exact Or.inr ⟨r, rfl, Or.inr ⟨hc, by simp [EdmFirst, hne, he', hm'], ruled_iff.mpr (Or.inr ⟨hne, hm'⟩)⟩⟩

/-- The code of a computed answer, by the row that decides. -/
theorem compute_ok_iff {a : DbAnswers} (ha : a.QueriesOk) (order : OrderBy AppControlRow.priority)
    (wants : Codec Want) (info : BundleRecord) (userId : Int) (s : Manager Want) :
    (s.computeRunningControlRule order wants a info userId).1 = .ERR_OK ↔
      match chosenRow order s.table userId info with
      | none => s.getRunningRuleSettingStatusByUserId userId = .WHITE_LIST ∧ info.isSystemApp = false
      | some r => r.callingName = EDM_CALLING → s.getRunningRuleSettingStatusByUserId userId = .BLACK_LIST := by
  rw [compute_eq ha]
  cases chosenRow order s.table userId info with
  | none =>
    cases hs : s.getRunningRuleSettingStatusByUserId userId <;> cases hsys : info.isSystemApp <;>
      simp [checkAppControlRuleIntercept]
  | some r =>
    dsimp only
    by_cases hc : r.callingName = EDM_CALLING
    · cases hs : s.getRunningRuleSettingStatusByUserId userId <;>
        simp [checkAppControlRuleIntercept, rowResult, hc]
    · simp [checkAppControlRuleIntercept, rowResult, hc]

/-- An answer that is not cached is computed. -/
theorem answer_eq_compute {view : BundleView} {order : OrderBy AppControlRow.priority} {wants : Codec Want}
    {a : DbAnswers} {s : Manager Want} {bundleName : Str} {info : BundleRecord} {userId : Int}
    (hi : view.bundleInfos[bundleName]? = some info)
    (hc : s.appRunningControlRuleResult[runningKey info.appId userId]? = none) :
    s.answer view order wants a bundleName userId = s.computeRunningControlRule order wants a info userId := by
  unfold Manager.answer Manager.getAppRunningControlRule
  simp only [hi, hc]

/-- **The verdict, exactly**: without a cached entry, an app is reported as controlled just
when the rows say so, unless a row of EDM hides one of the app market. -/
theorem verdict_iff (view : BundleView) (order : OrderBy AppControlRow.priority) (wants : Codec Want)
    {a : DbAnswers} (ha : a.QueriesOk) {s : Manager Want} (ht : RuleTable s.table) {bundleName : Str}
    {info : BundleRecord} (hi : view.bundleInfos[bundleName]? = some info) {userId : Int}
    (hc : s.appRunningControlRuleResult[runningKey info.appId userId]? = none) :
    ((s.answer view order wants a bundleName userId).1 = .ERR_OK ↔ Controlled s info userId) ↔
      NothingHidden s info userId := by
  rw [answer_eq_compute hi hc, compute_ok_iff ha]
  unfold Controlled NothingHidden
  have hmode : s.getRunningRuleSettingStatusByUserId userId = .BLACK_LIST →
      s.getRunningRuleSettingStatusByUserId userId ≠ .WHITE_LIST := by
    intro h
    rw [h]
    nofun
  rcases chosenRow_cases order ht userId info with ⟨hrow, he, hm⟩ | ⟨r, hrow, ⟨hcall, hfirst⟩ | ⟨hcall, hfirst, hm⟩⟩
  · -- no row at all
    rw [hrow]
    simp [he, hm]
  · -- a row of EDM
    have he : Ruled s.table userId info EDM_CALLING := by
      rcases hfirst with h | h
      · exact ruled_iff.mpr (Or.inr h)
      · exact ruled_iff.mpr (Or.inl h.1)
    rw [hrow]
    simp only [hcall, he, hfirst, forall_const, not_true, and_true, false_and, and_false, or_false]
    tauto
  · -- a row of the app market
    have hne : r.callingName ≠ EDM_CALLING := fun h => edm_ne_market (h.symm.trans hcall)
    rw [hrow]
    simp [hne, hfirst, hm]

/-- The record of the one bundle. -/
def oneRecord : BundleRecord := ⟨['b'], "b_key".toList, "42".toList, false⟩

theorem oneRecord_installed : oneBundle.bundleInfos[['b']]? = some oneRecord := ExtTreeMap.getElem?_insert_self

/-- EDM allows or forbids the app under one id, then the app market blocks it under another. -/
def ruleAndBlock (edmId marketId : Str) (allowRunning : Bool) : List (DbAnswers × Call Str) :=
  [(allOk 1 1, .addAppRunningControlRule EDM_CALLING [⟨edmId, [], allowRunning⟩] 100),
   (allOk 2 0, .setDisposedStatus marketId ['w'] 100)]

def ruledAndBlocked (edmId marketId : Str) (allowRunning : Bool) : Manager Str :=
  (Manager.construct []).run oneBundle (insertionOrder AppControlRow.priority) textWants
    (ruleAndBlock edmId marketId allowRunning)

theorem ruleTable_ruledAndBlocked (edmId marketId : Str) (allowRunning : Bool) :
    RuleTable (ruledAndBlocked edmId marketId allowRunning).table := by
  refine ruleTable_run _ _ _ (fun r hr => absurd hr List.not_mem_nil) _ fun call hcall => ?_
  rcases List.mem_cons.mp hcall with rfl | hcall
  · rfl
  · rw [List.mem_singleton.mp hcall]
    trivial

/-- Forbidden by EDM under the appId, blocked by the market under the appIdentifier. -/
theorem verdict_iff_blackList :
    ((ruledAndBlocked "b_key".toList "42".toList false).answer oneBundle (insertionOrder AppControlRow.priority)
        textWants (allOk 3 0) ['b'] 100).1 = .ERR_OK ↔
      Controlled (ruledAndBlocked "b_key".toList "42".toList false) oneRecord 100 :=
  (verdict_iff oneBundle (insertionOrder AppControlRow.priority) textWants ⟨rfl, rfl⟩
    (ruleTable_ruledAndBlocked _ _ _) oneRecord_installed (by decide +kernel)).mpr (Or.inl (by decide +kernel))

/-- **The hidden block**: an app on the allow list of EDM and blocked by the app market is
reported as not controlled if both rows stand under its appId, and as controlled if the block
stands under its appIdentifier. -/
theorem allowed_app_hides_block :
    ¬ (((ruledAndBlocked "b_key".toList "b_key".toList true).answer oneBundle
          (insertionOrder AppControlRow.priority) textWants (allOk 3 0) ['b'] 100).1 = .ERR_OK ↔
        Controlled (ruledAndBlocked "b_key".toList "b_key".toList true) oneRecord 100) ∧
    ((ruledAndBlocked "b_key".toList "b_key".toList true).answer oneBundle (insertionOrder AppControlRow.priority)
        textWants (allOk 3 0) ['b'] 100).1 = .ERR_BUNDLE_MANAGER_BUNDLE_NOT_SET_CONTROL ∧
    ((ruledAndBlocked "b_key".toList "42".toList true).answer oneBundle (insertionOrder AppControlRow.priority)
        textWants (allOk 3 0) ['b'] 100).1 = .ERR_OK := by
  have hcode : ((ruledAndBlocked "b_key".toList "b_key".toList true).answer oneBundle
      (insertionOrder AppControlRow.priority) textWants (allOk 3 0) ['b'] 100).1 =
        .ERR_BUNDLE_MANAGER_BUNDLE_NOT_SET_CONTROL := by
    decide +kernel
  have hblocked : HasRule (ruledAndBlocked "b_key".toList "b_key".toList true).table 100 oneRecord.appId
      APP_MARKET_CALLING := by
    unfold HasRule
    decide +kernel
  refine ⟨fun h => ?_, hcode, by decide +kernel⟩
  have hok := h.mpr (Or.inl (ruled_iff.mpr (Or.inl hblocked)))
  rw [hcode] at hok
  cases hok

end BundleFramework.AppControl
