import BundleFramework.AppControl.ListMode

/-!
# The cache of running-control answers

`GetAppRunningControlRule` keeps its answers under the key `appId_user`, while an answer
depends on the rows under the appId and under the appIdentifier, on the list mode of the
user and on whether the app is a system app.  In every run whose calls meet `KeepsCache`:

    the answer is that of an empty cache
      ↔ nothing is cached, or a rule restricts the app            (running_cache_transparent_iff)

A cached "no rule" comes back with an empty message where the first query returned
`INVALID_MESSAGE`; the calls that `KeepsCache` excludes leave entries behind that the table
no longer bears out.
-/

namespace BundleFramework.AppControl

open Std RowTable

variable {Want : Type}

/-! ## What an answer depends on -/

/-- The running-control rows of one id and user, first the one the query takes. -/
def runningRows (order : OrderBy AppControlRow.priority) (t : Table) (userId : Int) (id : Str) :
    List AppControlRow :=
  order.sort (t.filter fun r => r.appId = id ∧ r.appControlList = RUNNING_CONTROL ∧ r.userId = userId)

/-- The row that decides: one of the identifier, else one of the appId. -/
def chosenRow (order : OrderBy AppControlRow.priority) (t : Table) (userId : Int) (info : BundleRecord) :
    Option AppControlRow :=
  if info.appIdentifier = [] then (runningRows order t userId info.appId).head?
  else (runningRows order t userId info.appIdentifier).head?.or (runningRows order t userId info.appId).head?

def rowMessage (r : AppControlRow) : Str :=
  if r.controlMessage = [] ∧ r.callingName = EDM_CALLING then APP_CONTROL_EDM_DEFAULT_MESSAGE else r.controlMessage

def rowResult (wants : Codec Want) (r : AppControlRow) : AppRunningControlRuleResult Want where
  controlMessage := rowMessage r
  controlWant := if r.disposedStatus = [] then none else wants.FromString r.disposedStatus
  isEdm := decide (r.callingName = EDM_CALLING)

/-- Both queries are answered. -/
def DbAnswers.QueriesOk (a : DbAnswers) : Prop := a.queryOk 0 = true ∧ a.queryOk 1 = true

theorem getRule_eq (order : OrderBy AppControlRow.priority) (wants : Codec Want) (id : Str) (userId : Int)
    (t : Table) :
    Rdb.getAppRunningControlRule order wants true id userId {} t =
      match (runningRows order t userId id).head? with
      | none => (.ERR_BUNDLE_MANAGER_BUNDLE_NOT_SET_CONTROL, {})
      | some r => (.ERR_OK, rowResult wants r) := by
  unfold Rdb.getAppRunningControlRule
  rw [if_neg (by simp)]
  rcases h : (runningRows order t userId id).head? with _ | r
  · unfold runningRows at h
    rw [h]
  · unfold runningRows at h
    rw [h]
    simp only [rowResult, rowMessage, Option.or_none]
    by_cases hc : r.callingName = EDM_CALLING <;> simp [hc]

/-- The computed answer in terms of the deciding row. -/
theorem compute_eq {a : DbAnswers} (ha : a.QueriesOk) (order : OrderBy AppControlRow.priority) (wants : Codec Want)
    (info : BundleRecord) (userId : Int) (s : Manager Want) :
    s.computeRunningControlRule order wants a info userId =
      match chosenRow order s.table userId info with
      | none => checkAppControlRuleIntercept info.isSystemApp (s.getRunningRuleSettingStatusByUserId userId) false {}
      | some r => checkAppControlRuleIntercept info.isSystemApp (s.getRunningRuleSettingStatusByUserId userId) true
          (rowResult wants r) := by
  unfold Manager.computeRunningControlRule chosenRow
  rw [ha.1, ha.2]
  by_cases hid : info.appIdentifier = []
  · simp only [hid, if_true, ne_eq, not_true, and_false, if_false]
    rw [getRule_eq]
    cases (runningRows order s.table userId info.appId).head? <;> rfl
  · simp only [hid, if_false, ne_eq, not_false_eq_true, and_true]
    rw [getRule_eq]
    cases (runningRows order s.table userId info.appIdentifier).head? with
    | some r => rfl
    | none =>
      simp only [reduceCtorEq, not_false_eq_true, if_true, Option.none_or]
      rw [getRule_eq]
      cases (runningRows order s.table userId info.appId).head? <;> rfl

/-- The app is restricted, with a message that is not the mark for "no rule". -/
def Restricted (order : OrderBy AppControlRow.priority) (s : Manager Want) (info : BundleRecord) (userId : Int) :
    Prop :=
  match chosenRow order s.table userId info with
  | none => s.getRunningRuleSettingStatusByUserId userId = .WHITE_LIST ∧ info.isSystemApp = false
  | some r => (r.callingName = EDM_CALLING → s.getRunningRuleSettingStatusByUserId userId = .BLACK_LIST) ∧
      rowMessage r ≠ INVALID_MESSAGE

/-- An answer with another message is one of a restriction. -/
theorem restricted_iff {a : DbAnswers} (ha : a.QueriesOk) (order : OrderBy AppControlRow.priority)
    (wants : Codec Want) (info : BundleRecord) (userId : Int) (s : Manager Want) :
    (s.computeRunningControlRule order wants a info userId).2.controlMessage ≠ INVALID_MESSAGE ↔
      Restricted order s info userId := by
  rw [compute_eq ha]
  unfold Restricted
  cases chosenRow order s.table userId info with
  | none =>
    cases hs : s.getRunningRuleSettingStatusByUserId userId <;> cases hsys : info.isSystemApp <;>
      simp [checkAppControlRuleIntercept]
    decide
  | some r =>
    dsimp only
    by_cases hc : r.callingName = EDM_CALLING
    · cases hs : s.getRunningRuleSettingStatusByUserId userId <;>
        simp [checkAppControlRuleIntercept, rowResult, hc]
    · simp [checkAppControlRuleIntercept, rowResult, hc]

theorem compute_code {a : DbAnswers} (ha : a.QueriesOk) (order : OrderBy AppControlRow.priority)
    (wants : Codec Want) (info : BundleRecord) (userId : Int) (s : Manager Want)
    (h : Restricted order s info userId) :
    (s.computeRunningControlRule order wants a info userId).1 = .ERR_OK := by
  rw [compute_eq ha]
  unfold Restricted at h
  cases hr : chosenRow order s.table userId info with
  | none =>
    rw [hr] at h
    simp [checkAppControlRuleIntercept, h.1, h.2]
  | some r =>
    rw [hr] at h
    by_cases hc : r.callingName = EDM_CALLING
    · simp [checkAppControlRuleIntercept, rowResult, hc, h.1 hc]
    · simp [checkAppControlRuleIntercept, rowResult, hc]

/-! ## Keys -/

theorem runningKey_inj {appId appId' : Str} {u u' : Int} (h : runningKey appId u = runningKey appId' u') :
    appId = appId' ∧ u = u' := by
  unfold runningKey at h
  simp only [List.append_assoc, List.singleton_append] at h
  obtain ⟨h1, h2⟩ := append_separator_inj (underscore_not_mem_toDecimal u) (underscore_not_mem_toDecimal u') h
  exact ⟨h1, toDecimal_injective h2⟩

/-- The record of a bundle that is installed. -/
def Installed (view : BundleView) (info : BundleRecord) : Prop := ∃ name : Str, view.bundleInfos[name]? = some info

/-- Every id names one bundle. -/
structure Unambiguous (view : BundleView) : Prop where
  appId_ne : ∀ info, Installed view info → info.appId ≠ []
  appId : ∀ info info', Installed view info → Installed view info' → info.appId = info'.appId → info = info'
  identifier : ∀ info info', Installed view info → Installed view info' → info.appIdentifier ≠ [] →
    info'.appId = info.appIdentifier ∨ info'.appIdentifier = info.appIdentifier → info' = info

/-- The identifier of a bundle is turned into its appId. -/
theorem transform_identifier {view : BundleView} (h : Unambiguous view) {info : BundleRecord}
    (hi : Installed view info) (hne : info.appIdentifier ≠ []) :
    appIdAndAppIdentifierTransform view info.appIdentifier = info.appId := by
  obtain ⟨name, hname⟩ := hi
  unfold appIdAndAppIdentifierTransform
  rw [if_neg hne]
  cases hf : view.bundleInfos.toList.find? fun p =>
      decide (info.appIdentifier = p.2.appId ∨ info.appIdentifier = p.2.appIdentifier) with
  | none =>
    exfalso
    have := List.find?_eq_none.mp hf (name, info) (ExtTreeMap.mem_toList_iff_getElem?_eq_some.mpr hname)
    simp at this
  | some p =>
    have hp := List.find?_some hf
    have hm := ExtTreeMap.mem_toList_iff_getElem?_eq_some.mp (List.mem_of_find?_eq_some hf)
    rw [decide_eq_true_eq] at hp
    have he : p.2 = info := h.identifier info p.2 ⟨name, hname⟩ ⟨p.1, hm⟩ hne (hp.imp Eq.symm Eq.symm)
    show (if info.appIdentifier = p.2.appId then p.2.appIdentifier else p.2.appId) = _
    rw [he]
    split
    · next e => exact e
    · rfl

/-- The ids whose rows an answer looks at. -/
def IdOf (info : BundleRecord) (id : Str) : Prop := id = info.appId ∨ (id = info.appIdentifier ∧ id ≠ [])

/-- Answers that look at the same rows and the same mode. -/
theorem compute_congr {a : DbAnswers} (ha : a.QueriesOk) (order : OrderBy AppControlRow.priority) (wants : Codec Want)
    {info : BundleRecord} {userId : Int} {s s' : Manager Want}
    (hrows : ∀ id, IdOf info id → runningRows order s'.table userId id = runningRows order s.table userId id)
    (hstatus : s'.getRunningRuleSettingStatusByUserId userId = s.getRunningRuleSettingStatusByUserId userId) :
    s'.computeRunningControlRule order wants a info userId = s.computeRunningControlRule order wants a info userId := by
  have hchosen : chosenRow order s'.table userId info = chosenRow order s.table userId info := by
    unfold chosenRow
    rw [hrows info.appId (Or.inl rfl)]
    split
    · rfl
    · next hne => rw [hrows info.appIdentifier (Or.inr ⟨rfl, hne⟩)]
  rw [compute_eq ha, compute_eq ha, hchosen, hstatus]

/-! ## Coherence -/

section
variable (view : BundleView) (order : OrderBy AppControlRow.priority) (wants : Codec Want)

/-- Every cached answer is the one the table gives; running-control rows have the main index. -/
structure Coherent (s : Manager Want) : Prop where
  cached : ∀ info userId result, Installed view info →
    s.appRunningControlRuleResult[runningKey info.appId userId]? = some result →
    ∀ a : DbAnswers, a.QueriesOk → result = (s.computeRunningControlRule order wants a info userId).2
  mainIndex : ∀ r ∈ s.table, r.appControlList = RUNNING_CONTROL → r.appIndex = MAIN_APP_INDEX

/-- An entry that survives a call was there before, and the table still gives it. -/
theorem Coherent.of_survivors {s s' : Manager Want} (h : Coherent view order wants s)
    (hindex : ∀ r ∈ s'.table, r.appControlList = RUNNING_CONTROL → r.appIndex = MAIN_APP_INDEX)
    (hsurvive : ∀ info userId result, Installed view info →
      s'.appRunningControlRuleResult[runningKey info.appId userId]? = some result →
      s.appRunningControlRuleResult[runningKey info.appId userId]? = some result ∧
      ∀ a : DbAnswers, a.QueriesOk → s'.computeRunningControlRule order wants a info userId =
        s.computeRunningControlRule order wants a info userId) :
    Coherent view order wants s' := by
  refine ⟨fun info userId result hi hc a ha => ?_, hindex⟩
  obtain ⟨hbefore, hsame⟩ := hsurvive info userId result hi hc
  rw [hsame a ha]
  exact h.cached info userId result hi hbefore a ha

/-- **The invalidation rule**: an entry is gone, or it was there before and what it depends
on is unchanged. -/
theorem Coherent.of_unchanged {s s' : Manager Want} (h : Coherent view order wants s)
    (hindex : ∀ r ∈ s'.table, r.appControlList = RUNNING_CONTROL → r.appIndex = MAIN_APP_INDEX)
    (hsurvive : ∀ info userId, Installed view info →
      s'.appRunningControlRuleResult[runningKey info.appId userId]? = none ∨
      (s'.appRunningControlRuleResult[runningKey info.appId userId]? =
          s.appRunningControlRuleResult[runningKey info.appId userId]? ∧
        (∀ id, IdOf info id → runningRows order s'.table userId id = runningRows order s.table userId id) ∧
        s'.getRunningRuleSettingStatusByUserId userId = s.getRunningRuleSettingStatusByUserId userId)) :
    Coherent view order wants s' := by
  refine h.of_survivors view order wants hindex fun info userId result hi hc => ?_
  rcases hsurvive info userId hi with hnone | ⟨hsame, hrows, hstatus⟩
  · rw [hnone] at hc
    cases hc
  · exact ⟨hsame ▸ hc, fun a ha => compute_congr ha order wants hrows hstatus⟩

end

/-! ## Rows that a statement does not touch -/

theorem runningRows_congr {order : OrderBy AppControlRow.priority} {t t' : Table} {userId : Int} {id : Str}
    (h : (t'.filter fun r => decide (r.appId = id ∧ r.appControlList = RUNNING_CONTROL ∧ r.userId = userId)) =
      t.filter fun r => decide (r.appId = id ∧ r.appControlList = RUNNING_CONTROL ∧ r.userId = userId)) :
    runningRows order t' userId id = runningRows order t userId id := by
  unfold runningRows
  rw [h]

theorem runningRows_filter {order : OrderBy AppControlRow.priority} {t : Table} {userId : Int} {id : Str}
    {p : AppControlRow → Bool}
    (hp : ∀ r, p r = true → ¬ (r.appId = id ∧ r.appControlList = RUNNING_CONTROL ∧ r.userId = userId)) :
    runningRows order (t.filter fun r => !p r) userId id = runningRows order t userId id := by
  refine runningRows_congr ?_
  rw [List.filter_filter]
  refine List.filter_congr fun r _ => ?_
  cases hpr : p r with
  | false => simp
  | true => simpa using hp r hpr

theorem runningRows_append {order : OrderBy AppControlRow.priority} {t rows : Table} {userId : Int} {id : Str}
    (h : ∀ r ∈ rows, ¬ (r.appId = id ∧ r.appControlList = RUNNING_CONTROL ∧ r.userId = userId)) :
    runningRows order (t ++ rows) userId id = runningRows order t userId id := by
  have hnone : (rows.filter fun r =>
      decide (r.appId = id ∧ r.appControlList = RUNNING_CONTROL ∧ r.userId = userId)) = [] := by
    refine List.filter_eq_nil_iff.mpr fun r hr => ?_
    rw [decide_eq_true_eq]
    exact h r hr
  refine runningRows_congr ?_
  rw [List.filter_append, hnone, List.append_nil]

/-! ## The erased keys -/

theorem cacheForUserId_get (s : Manager Want) (userId : Int) (appId : Str) (u : Int) :
    (s.deleteAppRunningControlRuleCacheForUserId userId).appRunningControlRuleResult[runningKey appId u]? = none ∨
    u ≠ userId ∧
    (s.deleteAppRunningControlRuleCacheForUserId userId).appRunningControlRuleResult[runningKey appId u]? =
      s.appRunningControlRuleResult[runningKey appId u]? := by
  show (s.appRunningControlRuleResult.filter _)[runningKey appId u]? = none ∨ _ ∧
    (s.appRunningControlRuleResult.filter _)[runningKey appId u]? = _
  rw [ExtTreeMap.getElem?_filter']
  by_cases hsuf : (toDecimal userId).isSuffixOf (runningKey appId u) = true
  · left
    rw [hsuf]
    cases s.appRunningControlRuleResult[runningKey appId u]? <;> rfl
  · right
    refine ⟨fun hu => hsuf ?_, ?_⟩
    · rw [hu]
      exact List.isSuffixOf_iff_suffix.mpr ⟨appId ++ ['_'], rfl⟩
    · simp only [Bool.not_eq_true] at hsuf
      rw [hsuf]
      cases s.appRunningControlRuleResult[runningKey appId u]? <;> rfl

theorem deleteCache_get (s : Manager Want) (key key' : Str) :
    (s.deleteAppRunningControlRuleCache key).appRunningControlRuleResult[key']? =
      if key' = key then none else s.appRunningControlRuleResult[key']? :=
  MapLoop.getElem?_erase_eq _ _ _

/-! ## The calls -/

section
variable {view : BundleView} {order : OrderBy AppControlRow.priority} {wants : Codec Want} {s : Manager Want}

/-- The deletes for rules of other ids leave the rows of an app. -/
theorem runningRows_deleteRules {callingName : Str} {userId u : Int} {appIds : List Str} {id : Str} {t : Table}
    (h : u ≠ userId ∨ id ∉ appIds) :
    runningRows order (t.filter fun r => !appIds.any fun appId =>
      Rdb.isRule callingName RUNNING_CONTROL appId userId r) u id = runningRows order t u id := by
  refine runningRows_filter fun r hr hsel => ?_
  obtain ⟨appId, hmem, hr⟩ := List.any_eq_true.mp hr
  obtain ⟨-, -, hu, happ⟩ := (isRule_iff _ _ _ _ _).mp hr
  rcases h with h | h
  · exact h (hsel.2.2.symm.trans hu)
  · exact h (by rw [← hsel.1, happ]; exact hmem)

/-- The keys of an app survive only if none of the rules is about it. -/
theorem not_mem_of_not_erased (hview : Unambiguous view) {info : BundleRecord} (hi : Installed view info)
    {userId : Int} {rules : List AppRunningControlRule}
    (h : ¬ rulesErase view userId rules (runningKey info.appId userId)) {id : Str} (hid : IdOf info id) :
    id ∉ rules.map (·.appId) := by
  intro hmem
  obtain ⟨rule, hrule, rfl⟩ := List.mem_map.mp hmem
  rcases hid with hid | ⟨hid, hne⟩
  · exact h ⟨rule, hrule, Or.inl (by rw [hid])⟩
  · refine h ⟨rule, hrule, Or.inr ?_⟩
    rw [hid, transform_identifier hview hi (hid ▸ hne)]

/-- The entry of an app after an add that is carried out. -/
theorem addAppRunningControlRule_cache (view : BundleView) {a : DbAnswers} {callingName : Str}
    {controlRules : List AppRunningControlRule} {userId : Int} {t : Table}
    (hc : s.checkControlRules controlRules userId = .ERR_OK)
    (hrdb : Rdb.addAppRunningControlRule a callingName controlRules userId s.table = (.ERR_OK, t)) (appId : Str)
    (u : Int) :
    let cache := (s.addAppRunningControlRule view a callingName controlRules userId).2.appRunningControlRuleResult
    cache[runningKey appId u]? = none ∨
    ¬ rulesErase view userId controlRules (runningKey appId u) ∧
    (u = userId → s.getRunningRuleSettingStatusByUserId userId ≠ .NO_SET) ∧
    cache[runningKey appId u]? = s.appRunningControlRuleResult[runningKey appId u]? := by
  intro cache
  have hcache : cache = (controlRules.foldl (Manager.deleteCacheOfRule view userId)
      (if s.getRunningRuleSettingStatusByUserId userId = .NO_SET then
        ({ s with table := t } : Manager Want).deleteAppRunningControlRuleCacheForUserId userId
      else { s with table := t })).appRunningControlRuleResult := by
    show (s.addAppRunningControlRule view a callingName controlRules userId).2.appRunningControlRuleResult = _
    unfold Manager.addAppRunningControlRule
    rw [hc, hrdb]
    rfl
  rw [hcache]
  rcases foldl_deleteCacheOfRule_cache view userId controlRules
      (if s.getRunningRuleSettingStatusByUserId userId = .NO_SET then
        ({ s with table := t } : Manager Want).deleteAppRunningControlRuleCacheForUserId userId
      else { s with table := t }) (runningKey appId u) with hnone | ⟨hne, hsame⟩
  · exact Or.inl hnone
  · rw [hsame]
    by_cases hno : s.getRunningRuleSettingStatusByUserId userId = .NO_SET
    · rw [if_pos hno]
      rcases cacheForUserId_get ({ s with table := t } : Manager Want) userId appId u with hnone | ⟨hu, hkeep⟩
      · exact Or.inl hnone
      · exact Or.inr ⟨hne, fun hx => absurd hx hu, hkeep⟩
    · rw [if_neg hno]
      exact Or.inr ⟨hne, fun _ => hno, rfl⟩

theorem Coherent.add (hview : Unambiguous view) (h : Coherent view order wants s) {a : DbAnswers}
    {controlRules : List AppRunningControlRule} {userId : Int}
    (hdb : s.checkControlRules controlRules userId = .ERR_OK →
      ((∀ i, a.deleteOk i = true) ∧ a.batch.ok = true ∧ controlRules.length ≤ a.batch.inserted) ∨
      a.deleteOk 0 = false) (callingName : Str) :
    Coherent view order wants (s.addAppRunningControlRule view a callingName controlRules userId).2 := by
  by_cases hc : s.checkControlRules controlRules userId = .ERR_OK
  · obtain ⟨allow, hne, hhead, -, hstatus⟩ := checkControlRules_ok hc
    rcases hdb hc with ⟨hdel, hb, hlen⟩ | hrefused
    · have hrdb : Rdb.addAppRunningControlRule a callingName controlRules userId s.table = _ :=
        addRules_of_ok hdel hb (by simpa using hlen) s.table
      have htable := addAppRunningControlRule_table view a callingName controlRules userId s
      rw [if_pos hc, hrdb] at htable
      have hfilter : (s.table.filter fun r => !(controlRules.map (Rdb.runningRow a.time callingName userId)).any
          fun x => Rdb.isRule x.callingName x.appControlList x.appId x.userId r) =
          s.table.filter fun r => !(controlRules.map (·.appId)).any fun appId =>
            Rdb.isRule callingName RUNNING_CONTROL appId userId r := by
        refine List.filter_congr fun r _ => ?_
        rw [List.any_map, List.any_map]
        rfl
      rw [hfilter] at htable
      refine h.of_unchanged view order wants (fun r hr hlist => ?_) fun info u hi => ?_
      · rw [htable] at hr
        rcases List.mem_append.mp hr with hr | hr
        · exact h.mainIndex r (List.mem_of_mem_filter hr) hlist
        · obtain ⟨rule, -, rfl⟩ := List.mem_map.mp hr
          rfl
      · rcases addAppRunningControlRule_cache view hc hrdb info.appId u with hnone | ⟨hkeep, hno, hsame⟩
        · exact Or.inl hnone
        · refine Or.inr ⟨hsame, fun id hid => ?_, ?_⟩
          · have hother : u ≠ userId ∨ id ∉ controlRules.map (·.appId) := by
              by_cases hu : u = userId
              · subst hu
                exact Or.inr (not_mem_of_not_erased hview hi hkeep hid)
              · exact Or.inl hu
            rw [htable, runningRows_append, runningRows_deleteRules hother]
            intro r hr hsel
            obtain ⟨rule, hrule, rfl⟩ := List.mem_map.mp hr
            rcases hother with hu | hmem
            · exact hu hsel.2.2.symm
            · exact hmem (List.mem_map.mpr ⟨rule, hrule, hsel.1⟩)
          · rw [addAppRunningControlRule_status view hc hhead hrdb]
            split
            · next hu =>
              subst hu
              exact (hstatus.resolve_left (hno rfl)).symm
            · rfl
    · have hrdb : Rdb.addAppRunningControlRule a callingName controlRules userId s.table = _ :=
        addRules_of_refused hrefused (by simpa using hne) s.table
      have hsame : (s.addAppRunningControlRule view a callingName controlRules userId).2 = s := by
        unfold Manager.addAppRunningControlRule
        rw [hc, hrdb]
        rfl
      rw [hsame]
      exact h
  · rw [addAppRunningControlRule_refused hc]
    exact h

/-- The entry of an app after the mode of a user may have gone. -/
theorem deleteStatusCache_cache (a : DbAnswers) (userId : Int) (s : Manager Want) (appId : Str) (u : Int) :
    (s.deleteRunningRuleSettingStatusCache a userId).appRunningControlRuleResult[runningKey appId u]? = none ∨
    (s.deleteRunningRuleSettingStatusCache a userId).appRunningControlRuleResult[runningKey appId u]? =
      s.appRunningControlRuleResult[runningKey appId u]? ∧
    (s.deleteRunningRuleSettingStatusCache a userId).getRunningRuleSettingStatusByUserId u =
      s.getRunningRuleSettingStatusByUserId u := by
  unfold Manager.deleteRunningRuleSettingStatusCache
  split
  · exact Or.inr ⟨rfl, rfl⟩
  · split
    · rcases cacheForUserId_get (s.setRunningRuleSettingStatusByUserId userId .NO_SET) userId appId u with
        hnone | ⟨hu, hsame⟩
      · exact Or.inl hnone
      · refine Or.inr ⟨hsame, ?_⟩
        show (s.setRunningRuleSettingStatusByUserId userId .NO_SET).getRunningRuleSettingStatusByUserId u = _
        rw [getStatus_set, if_neg hu]
    · exact Or.inr ⟨rfl, rfl⟩

theorem Coherent.delete (hview : Unambiguous view) (h : Coherent view order wants s) {a : DbAnswers}
    {controlRules : List AppRunningControlRule} {userId : Int}
    (hdb : s.checkControlRules controlRules userId = .ERR_OK →
      (∀ i, a.deleteOk i = true) ∨ a.deleteOk 0 = false) (callingName : Str) :
    Coherent view order wants (s.deleteAppRunningControlRule view a callingName controlRules userId).2 := by
  by_cases hc : s.checkControlRules controlRules userId = .ERR_OK
  · obtain ⟨-, hne, -⟩ := checkControlRules_ok hc
    rcases hdb hc with hdel | hrefused
    · have hrdb : Rdb.deleteAppRunningControlRule a callingName controlRules userId s.table = _ :=
        deleteRules_of_ok hdel callingName RUNNING_CONTROL _ userId s.table
      unfold Manager.deleteAppRunningControlRule
      rw [hc, hrdb]
      generalize ht : (s.table.filter fun r => !(controlRules.map (·.appId)).any fun appId =>
        Rdb.isRule callingName RUNNING_CONTROL appId userId r) = t
      show Coherent view order wants ((controlRules.foldl (Manager.deleteCacheOfRule view userId)
        { s with table := t }).deleteRunningRuleSettingStatusCache a userId)
      have htable : ((controlRules.foldl (Manager.deleteCacheOfRule view userId)
          { s with table := t }).deleteRunningRuleSettingStatusCache a userId).table = t := by
        rw [Manager.deleteRunningRuleSettingStatusCache_table, foldl_deleteCacheOfRule]
      refine h.of_unchanged view order wants (fun r hr hlist => ?_) fun info u hi => ?_
      · rw [htable, ← ht] at hr
        exact h.mainIndex r (List.mem_of_mem_filter hr) hlist
      · rcases deleteStatusCache_cache a userId (controlRules.foldl (Manager.deleteCacheOfRule view userId)
          { s with table := t }) info.appId u with hnone | ⟨hsame, hstatus⟩
        · exact Or.inl hnone
        · rw [hsame, hstatus, foldl_deleteCacheOfRule_status, htable]
          rcases foldl_deleteCacheOfRule_cache view userId controlRules { s with table := t }
            (runningKey info.appId u) with hnone | ⟨hkeep, hsame'⟩
          · exact Or.inl hnone
          · refine Or.inr ⟨hsame', fun id hid => ?_, rfl⟩
            rw [← ht]
            refine runningRows_deleteRules ?_
            by_cases hu : u = userId
            · subst hu
              exact Or.inr (not_mem_of_not_erased hview hi hkeep hid)
            · exact Or.inl hu
    · have hrdb : Rdb.deleteAppRunningControlRule a callingName controlRules userId s.table = _ :=
        deleteRules_of_refused hrefused (by simpa using hne) callingName RUNNING_CONTROL userId s.table
      have hsame : (s.deleteAppRunningControlRule view a callingName controlRules userId).2 = s := by
        unfold Manager.deleteAppRunningControlRule
        rw [hc, hrdb]
        rfl
      rw [hsame]
      exact h
  · rw [deleteAppRunningControlRule_refused hc]
    exact h

theorem Coherent.deleteOfUser (h : Coherent view order wants s) (a : DbAnswers) (callingName : Str) (userId : Int) :
    Coherent view order wants (s.deleteAppRunningControlRuleOfUser a callingName userId).2 := by
  unfold Manager.deleteAppRunningControlRuleOfUser Rdb.deleteAppRunningControlRuleOfUser
  cases hok : a.deleteOk 0 with
  | false =>
    rw [deleteOne_of_refused hok]
    exact h
  | true =>
    rw [deleteOne_of_ok hok]
    refine h.of_unchanged view order wants (fun r hr hlist => h.mainIndex r (List.mem_of_mem_filter hr) hlist)
      fun info u hi => ?_
    rcases cacheForUserId_get ({ s with table := (s.table.filter fun r =>
        !(Rdb.isRuleOfUser callingName RUNNING_CONTROL userId r)) } : Manager Want) userId info.appId u with
      hnone | ⟨hu, hsame⟩
    · exact Or.inl hnone
    · refine Or.inr ⟨hsame, fun id _ => ?_, ?_⟩
      · refine runningRows_filter fun r hr hsel => hu ?_
        unfold Rdb.isRuleOfUser at hr
        rw [decide_eq_true_eq] at hr
        exact hsel.2.2.symm.trans hr.2.2
      · show Manager.getRunningRuleSettingStatusByUserId (Manager.setRunningRuleSettingStatusByUserId _ _ _) u = _
        rw [getStatus_set, if_neg hu]
        rfl

/-- No app with this identifier has a cached answer for the user. -/
def IdentifierNotCached (view : BundleView) (s : Manager Want) (appId : Str) (userId : Int) : Prop :=
  ∀ info, Installed view info → info.appIdentifier = appId → appId ≠ [] → info.appId = appId ∨
    s.appRunningControlRuleResult[runningKey info.appId userId]? = none

/-- The calls of the app market: the rows of one id and user change, the entry under that
very id goes. -/
theorem Coherent.ofOneId (h : Coherent view order wants s) {appId : Str} {userId : Int} {t : Table}
    (hindex : ∀ r ∈ t, r.appControlList = RUNNING_CONTROL → r.appIndex = MAIN_APP_INDEX)
    (hrows : ∀ u id, u ≠ userId ∨ id ≠ appId → runningRows order t u id = runningRows order s.table u id)
    (hcached : IdentifierNotCached view s appId userId) :
    Coherent view order wants
      (({ s with table := t } : Manager Want).deleteAppRunningControlRuleCache (runningKey appId userId)) := by
  refine h.of_unchanged view order wants hindex fun info u hi => ?_
  rw [deleteCache_get]
  split
  · exact Or.inl rfl
  · next hkey =>
    by_cases hu : u = userId
    · subst hu
      have hne : info.appId ≠ appId := fun e => hkey (by rw [e])
      by_cases hident : info.appIdentifier = appId ∧ appId ≠ []
      · exact Or.inl ((hcached info hi hident.1 hident.2).resolve_left hne)
      · refine Or.inr ⟨rfl, fun id hid => hrows u id (Or.inr fun e => ?_), rfl⟩
        rcases hid with hid | ⟨hid, hnil⟩
        · exact hne (hid.symm.trans e)
        · exact hident ⟨hid.symm.trans e, fun e' => hnil (e.trans e')⟩
    · exact Or.inr ⟨rfl, fun id _ => hrows u id (Or.inl hu), rfl⟩

theorem Coherent.deleteDisposedStatus (h : Coherent view order wants s) (a : DbAnswers) {appId : Str} {userId : Int}
    (hcached : a.deleteOk 0 = true → IdentifierNotCached view s appId userId) :
    Coherent view order wants (s.deleteDisposedStatus a appId userId).2 := by
  unfold Manager.deleteDisposedStatus Rdb.deleteDisposedStatus
  cases hok : a.deleteOk 0 with
  | false =>
    rw [deleteOne_of_refused hok]
    exact h
  | true =>
    rw [deleteOne_of_ok hok]
    refine h.ofOneId (fun r hr hlist => h.mainIndex r (List.mem_of_mem_filter hr) hlist) (fun u id hne => ?_)
      (hcached hok)
    refine runningRows_filter fun r hr hsel => ?_
    obtain ⟨-, -, hu, happ⟩ := (isRule_iff _ _ _ _ _).mp hr
    rcases hne with hne | hne
    · exact hne (hsel.2.2.symm.trans hu)
    · exact hne (hsel.1.symm.trans happ)

theorem Coherent.setDisposedStatus (h : Coherent view order wants s) {a : DbAnswers} {appId : Str} {userId : Int}
    (hcall : checkCanDispose view appId userId = true → a.deleteOk 0 = true →
      a.insertOk = true ∧ IdentifierNotCached view s appId userId) (want : Want) :
    Coherent view order wants (s.setDisposedStatus view wants a appId want userId).2 := by
  unfold Manager.setDisposedStatus
  split
  · exact h
  · next hcan =>
    unfold Rdb.setDisposedStatus Rdb.deleteDisposedStatus
    cases hok : a.deleteOk 0 with
    | false =>
      rw [deleteOne_of_refused hok]
      exact h
    | true =>
      rw [deleteOne_of_ok hok]
      obtain ⟨hins, hcached⟩ := hcall (by simpa using hcan) hok
      simp only [insertRow, hins, if_true]
      refine h.ofOneId (fun r hr hlist => ?_) (fun u id hne => ?_) hcached
      · rcases List.mem_append.mp hr with hr | hr
        · exact h.mainIndex r (List.mem_of_mem_filter hr) hlist
        · rw [List.mem_singleton.mp hr]
          rfl
      · rw [runningRows_append, runningRows_filter]
        · intro r hr hsel
          obtain ⟨-, -, hu, happ⟩ := (isRule_iff _ _ _ _ _).mp hr
          rcases hne with hne | hne
          · exact hne (hsel.2.2.symm.trans hu)
          · exact hne (hsel.1.symm.trans happ)
        · intro r hr hsel
          rw [List.mem_singleton.mp hr] at hsel
          rcases hne with hne | hne
          · exact hne hsel.2.2.symm
          · exact hne hsel.1.symm

/-- An answer marked `isEdm` comes from a row of the EDM caller. -/
theorem chosenRow_of_isEdm {a : DbAnswers} (ha : a.QueriesOk) {info : BundleRecord} {userId : Int}
    (h : (s.computeRunningControlRule order wants a info userId).2.isEdm = true) :
    ∃ r, chosenRow order s.table userId info = some r ∧ r.callingName = EDM_CALLING := by
  rw [compute_eq ha] at h
  cases hr : chosenRow order s.table userId info with
  | none =>
    rw [hr] at h
    cases hs : s.getRunningRuleSettingStatusByUserId userId <;> cases hsys : info.isSystemApp <;>
      simp [checkAppControlRuleIntercept, hs, hsys] at h
  | some r =>
    refine ⟨r, rfl, ?_⟩
    rw [hr] at h
    by_contra hc
    cases hs : s.getRunningRuleSettingStatusByUserId userId <;>
      simp [checkAppControlRuleIntercept, rowResult, hc] at h

/-- Where the first row of an id is one of the EDM caller, deleting rows of other callers
leaves it the first. -/
theorem runningRows_excludeEdm {t t' : Table} {userId : Int} {id : Str} {r : AppControlRow}
    (hr : (runningRows order t userId id).head? = some r) (hedm : r.callingName = EDM_CALLING)
    (hone : ∀ x ∈ edmRows userId t, ∀ y ∈ edmRows userId t, x.appId = y.appId → x = y)
    (hsub : t'.Sublist t)
    (hgone : runningRows order t' userId id = runningRows order t userId id ∨
      (r ∈ t' ∧ ∀ x ∈ t', x.appId = id → x.appControlList = RUNNING_CONTROL → x.userId = userId →
        x.callingName = EDM_CALLING)) :
    (runningRows order t' userId id).head? = some r := by
  rcases hgone with hsame | ⟨hkept, honly⟩
  · rw [hsame, hr]
  · have hsel := (List.mem_filter.mp (order.mem_of_head? hr)).2
    rw [decide_eq_true_eq] at hsel
    have hin : r ∈ edmRows userId t :=
      mem_edmRows.mpr ⟨hsub.subset hkept, hsel.2.1, hedm, hsel.2.2⟩
    have hmem : r ∈ t'.filter fun x => decide (x.appId = id ∧ x.appControlList = RUNNING_CONTROL ∧ x.userId = userId) :=
      List.mem_filter.mpr ⟨hkept, decide_eq_true hsel⟩
    unfold runningRows
    cases hh : (order.sort (t'.filter fun x =>
        decide (x.appId = id ∧ x.appControlList = RUNNING_CONTROL ∧ x.userId = userId))).head? with
    | none =>
      rw [(order.head?_eq_none_iff _).mp hh] at hmem
      cases hmem
    | some x =>
      obtain ⟨hx, hxsel⟩ := List.mem_filter.mp (order.mem_of_head? hh)
      rw [decide_eq_true_eq] at hxsel
      have hxin : x ∈ edmRows userId t :=
        mem_edmRows.mpr ⟨hsub.subset hx, hxsel.2.1, honly x hx hxsel.1 hxsel.2.1 hxsel.2.2, hxsel.2.2⟩
      rw [hone x hxin r hin (hxsel.1.trans hsel.1.symm)]

theorem runningRows_nil_of_sublist {t t' : Table} {userId : Int} {id : Str} (hsub : t'.Sublist t)
    (h : (runningRows order t userId id).head? = none) : (runningRows order t' userId id).head? = none := by
  unfold runningRows at h ⊢
  rw [order.head?_eq_none_iff] at h ⊢
  exact List.eq_nil_of_sublist_nil (h ▸ hsub.filter _)

/-- The deciding row stays if it is one of the EDM caller. -/
theorem chosenRow_excludeEdm {t t' : Table} {userId : Int} {info : BundleRecord} {r : AppControlRow}
    (hr : chosenRow order t userId info = some r) (hsub : t'.Sublist t)
    (hkeep : ∀ id, IdOf info id → (runningRows order t userId id).head? = some r →
      (runningRows order t' userId id).head? = some r) :
    chosenRow order t' userId info = some r := by
  unfold chosenRow at hr ⊢
  split
  · next hid =>
    rw [if_pos hid] at hr
    exact hkeep info.appId (Or.inl rfl) hr
  · next hid =>
    rw [if_neg hid] at hr
    cases hfirst : (runningRows order t userId info.appIdentifier).head? with
    | some x =>
      rw [hfirst] at hr
      obtain rfl := Option.some.inj hr
      rw [hkeep info.appIdentifier (Or.inr ⟨rfl, hid⟩) hfirst]
      rfl
    | none =>
      rw [hfirst] at hr
      rw [runningRows_nil_of_sublist hsub hfirst]
      exact hkeep info.appId (Or.inl rfl) hr

theorem isRunningExcludeEdm_iff (appIdList : List Str) (appIndex userId : Int) (r : AppControlRow) :
    Rdb.isRunningExcludeEdm appIdList appIndex userId r = true ↔
      r.appControlList = RUNNING_CONTROL ∧ r.appId ∈ appIdList ∧ r.userId = userId ∧ r.callingName ≠ EDM_CALLING ∧
        (appIndex ≠ MAIN_APP_INDEX → r.appIndex = appIndex) := by
  unfold Rdb.isRunningExcludeEdm
  rw [decide_eq_true_eq]

/-- The disposed rules are other rows. -/
theorem runningRows_disposedByBundle {t : Table} {appIdList : List Str} {appIndex userId u : Int} {id : Str} :
    runningRows order (t.filter fun r => !Rdb.isDisposedByBundle appIdList appIndex userId r) u id =
      runningRows order t u id := by
  refine runningRows_filter fun r hr hsel => ?_
  unfold Rdb.isDisposedByBundle at hr
  rw [decide_eq_true_eq, hsel.2.1] at hr
  exact absurd hr.1 (by decide)

theorem excludeEdm_get (s : Manager Want) (key key' : Str) (result : AppRunningControlRuleResult Want)
    (h : (s.deleteAppRunningRuleCacheExcludeEdm key).appRunningControlRuleResult[key']? = some result) :
    s.appRunningControlRuleResult[key']? = some result ∧ (key' = key → result.isEdm = true) := by
  unfold Manager.deleteAppRunningRuleCacheExcludeEdm at h
  cases hc : s.appRunningControlRuleResult[key]? with
  | none =>
    rw [hc] at h
    refine ⟨h, fun e => ?_⟩
    rw [e, hc] at h
    cases h
  | some old =>
    simp only [hc] at h
    split at h
    · next hedm =>
      refine ⟨h, fun e => ?_⟩
      rw [e, hc] at h
      rw [← Option.some.inj h]
      exact hedm
    · rw [deleteCache_get] at h
      split at h
      · cases h
      · next hne => exact ⟨h, fun e => absurd e hne⟩

theorem excludeEdm_status (s : Manager Want) (key : Str) (u : Int) :
    (s.deleteAppRunningRuleCacheExcludeEdm key).getRunningRuleSettingStatusByUserId u =
      s.getRunningRuleSettingStatusByUserId u := by
  unfold Manager.deleteAppRunningRuleCacheExcludeEdm
  split
  · rfl
  · split <;> rfl

/-- Rows of ids that the call does not name, of other users, or behind an index other than the
one that running rules have, are all there. -/
theorem runningRows_runningByBundle {t : Table} {appIdList : List Str} {appIndex userId u : Int} {id : Str}
    (hmain : ∀ r ∈ t, r.appControlList = RUNNING_CONTROL → r.appIndex = MAIN_APP_INDEX)
    (hne : u ≠ userId ∨ id ∉ appIdList ∨ appIndex ≠ MAIN_APP_INDEX) :
    runningRows order (t.filter fun r => !Rdb.isRunningExcludeEdm appIdList appIndex userId r) u id =
      runningRows order t u id := by
  refine runningRows_congr ?_
  rw [List.filter_filter]
  refine List.filter_congr fun r hr => ?_
  cases hsel : decide (r.appId = id ∧ r.appControlList = RUNNING_CONTROL ∧ r.userId = u) with
  | false => rfl
  | true =>
    rw [decide_eq_true_eq] at hsel
    rw [Bool.true_and, Bool.not_eq_true', Bool.eq_false_iff]
    intro hdrop
    obtain ⟨hlist, happ, hu, -, hindex⟩ := (isRunningExcludeEdm_iff _ _ _ _).mp hdrop
    rcases hne with hne | hne | hne
    · exact hne (hsel.2.2.symm.trans hu)
    · exact hne (hsel.1 ▸ happ)
    · exact hne ((hindex hne).symm.trans (hmain r hr hlist))

/-- The delete leaves the rows of the EDM caller. -/
theorem mem_runningByBundle {t : Table} {appIdList : List Str} {appIndex userId : Int} {r : AppControlRow}
    (hr : r ∈ t) (hcall : r.callingName = EDM_CALLING) :
    r ∈ t.filter fun r => !Rdb.isRunningExcludeEdm appIdList appIndex userId r := by
  refine List.mem_filter.mpr ⟨hr, ?_⟩
  rw [Bool.not_eq_true', Bool.eq_false_iff]
  intro hdrop
  exact ((isRunningExcludeEdm_iff _ _ _ _).mp hdrop).2.2.2.1 hcall

/-- Of the rows it names it leaves no others. -/
theorem edm_of_mem_runningByBundle {t : Table} {appIdList : List Str} {appIndex userId : Int} {x : AppControlRow}
    (hx : x ∈ t.filter fun r => !Rdb.isRunningExcludeEdm appIdList appIndex userId r) (happ : x.appId ∈ appIdList)
    (hlist : x.appControlList = RUNNING_CONTROL) (hu : x.userId = userId) (hindex : appIndex = MAIN_APP_INDEX) :
    x.callingName = EDM_CALLING := by
  by_contra hne
  have hdrop : Rdb.isRunningExcludeEdm appIdList appIndex userId x = true :=
    (isRunningExcludeEdm_iff _ _ _ _).mpr ⟨hlist, happ, hu, hne, fun hclone => absurd hindex hclone⟩
  have hkept := (List.mem_filter.mp hx).2
  rw [hdrop] at hkept
  cases hkept

theorem Coherent.deleteAll (h : Coherent view order wants s) (a : DbAnswers) {bundleInfo : BundleRecord}
    {appIndex userId : Int}
    (hids : ∀ info, Installed view info → ∀ id, IdOf info id → id ∈ [bundleInfo.appId, bundleInfo.appIdentifier] →
      info.appId = bundleInfo.appId)
    (hone : ∀ x ∈ edmRows userId s.table, ∀ y ∈ edmRows userId s.table, x.appId = y.appId → x = y) :
    Coherent view order wants (s.deleteAllDisposedRuleByBundle a bundleInfo appIndex userId).2 := by
  unfold Manager.deleteAllDisposedRuleByBundle Rdb.deleteAllDisposedRuleByBundle
    Rdb.deleteDisposedRuleByBundleExcludeEdm
  generalize hl : [bundleInfo.appId, bundleInfo.appIdentifier] = appIdList at hids
  cases h0 : a.deleteOk 0 with
  | false =>
    rw [deleteOne_of_refused h0]
    exact h
  | true =>
    rw [deleteOne_of_ok h0]
    dsimp only
    generalize ht₁ : (s.table.filter fun r => !Rdb.isDisposedByBundle appIdList appIndex userId r) = t₁
    have hrows₁ : ∀ u id, runningRows order t₁ u id = runningRows order s.table u id := by
      intro u id
      rw [← ht₁]
      exact runningRows_disposedByBundle
    have hsub₁ : t₁.Sublist s.table := ht₁ ▸ List.filter_sublist
    have hmain₁ : ∀ r ∈ t₁, r.appControlList = RUNNING_CONTROL → r.appIndex = MAIN_APP_INDEX :=
      fun r hr hlist => h.mainIndex r (hsub₁.subset hr) hlist
    cases h1 : a.deleteOk 1 with
    | false =>
      rw [deleteOne_of_refused h1]
      exact h.of_unchanged view order wants hmain₁ fun info u _ => Or.inr ⟨rfl, fun id _ => hrows₁ u id, rfl⟩
    | true =>
      rw [deleteOne_of_ok h1]
      dsimp only
      generalize ht₂ : (t₁.filter fun r => !Rdb.isRunningExcludeEdm appIdList appIndex userId r) = t₂
      have hsub₂ : t₂.Sublist s.table := (ht₂ ▸ List.filter_sublist : t₂.Sublist t₁).trans hsub₁
      have htable : (Manager.deleteAppRunningRuleCacheExcludeEdm ({ s with table := t₂ } : Manager Want)
          (runningKey bundleInfo.appId userId)).table = t₂ := Manager.deleteAppRunningRuleCacheExcludeEdm_table _ _
      have hmode : ∀ u, (Manager.deleteAppRunningRuleCacheExcludeEdm ({ s with table := t₂ } : Manager Want)
          (runningKey bundleInfo.appId userId)).getRunningRuleSettingStatusByUserId u =
          s.getRunningRuleSettingStatusByUserId u := fun u => excludeEdm_status _ _ u
      have hrows₂ : ∀ u id, u ≠ userId ∨ id ∉ appIdList ∨ appIndex ≠ MAIN_APP_INDEX →
          runningRows order t₂ u id = runningRows order s.table u id := by
        intro u id hne
        rw [← hrows₁ u id, ← ht₂]
        exact runningRows_runningByBundle hmain₁ hne
      show Coherent view order wants (Manager.deleteAppRunningRuleCacheExcludeEdm _ _)
      refine h.of_survivors view order wants (fun r hr hlist => ?_) fun info u result hi hc => ?_
      · rw [htable] at hr
        exact h.mainIndex r (hsub₂.subset hr) hlist
      · obtain ⟨hbefore, hedm⟩ := excludeEdm_get _ _ _ _ hc
        refine ⟨hbefore, fun a' ha' => ?_⟩
        by_cases hkey : runningKey info.appId u = runningKey bundleInfo.appId userId
        · -- an entry of the EDM caller: its row is not deleted
          obtain ⟨-, rfl⟩ := runningKey_inj hkey
          have hres := h.cached info u result hi hbefore a' ha'
          obtain ⟨r, hr, hcall⟩ := chosenRow_of_isEdm ha' (hres ▸ hedm hkey)
          have hchosen : chosenRow order t₂ u info = some r := by
            refine chosenRow_excludeEdm hr hsub₂ fun id hid hhead => ?_
            refine runningRows_excludeEdm hhead hcall hone hsub₂ ?_
            by_cases hin : id ∉ appIdList ∨ appIndex ≠ MAIN_APP_INDEX
            · exact Or.inl (hrows₂ u id (Or.inr hin))
            · rw [not_or, not_not, not_not] at hin
              have hsel := (List.mem_filter.mp (order.mem_of_head? (hrows₁ u id ▸ hhead))).1
              refine Or.inr ⟨ht₂ ▸ mem_runningByBundle hsel hcall, fun x hx happ hlist hu => ?_⟩
              rw [← ht₂] at hx
              exact edm_of_mem_runningByBundle hx (happ ▸ hin.1) hlist hu hin.2
          rw [compute_eq ha', compute_eq ha', htable, hchosen, hr, hmode]
        · refine compute_congr ha' order wants (fun id hid => ?_) (hmode u)
          rw [htable]
          by_cases hu : u = userId
          · subst hu
            refine hrows₂ u id (Or.inr (Or.inl fun hin => hkey ?_))
            rw [hids info hi id hid hin]
          · exact hrows₂ u id (Or.inl hu)

/-- A migration between other ids leaves the rows of an app. -/
theorem runningRows_migrate {t : Table} {ids : List Str} {newAppId id : Str} {u : Int}
    (hout : id ∉ newAppId :: ids) :
    runningRows order (t.map (Rdb.migrateRow ids newAppId)) u id = runningRows order t u id := by
  have hsel : ∀ r, (decide ((Rdb.migrateRow ids newAppId r).appId = id ∧
      (Rdb.migrateRow ids newAppId r).appControlList = RUNNING_CONTROL ∧ (Rdb.migrateRow ids newAppId r).userId = u)) =
      decide (r.appId = id ∧ r.appControlList = RUNNING_CONTROL ∧ r.userId = u) := by
    intro r
    rw [List.mem_cons, not_or] at hout
    unfold Rdb.migrateRow
    split
    · next hr =>
      have hr' : r.appId ≠ id := fun e => hout.2 (e ▸ of_decide_eq_true hr)
      simp [Ne.symm hout.1, hr']
    · rfl
  refine runningRows_congr ?_
  rw [List.filter_map]
  refine (congrArg _ (List.filter_congr fun r _ => hsel r)).trans ?_
  refine (List.map_congr_left fun r hr => ?_).trans (List.map_id _)
  have happ : r.appId = id := (of_decide_eq_true (List.mem_filter.mp hr).2).1
  exact migrateRow_of_not_mem (by rw [happ]; exact hout)

/-- The entries that a migration leaves. -/
theorem deleteRuleCacheByAppId_get (s : Manager Want) (ids : List Str) (appId : Str) (u : Int) :
    (s.deleteRuleCacheByAppId ids).appRunningControlRuleResult[runningKey appId u]? = none ∨
    appId ∉ ids ∧ (s.deleteRuleCacheByAppId ids).appRunningControlRuleResult[runningKey appId u]? =
      s.appRunningControlRuleResult[runningKey appId u]? := by
  unfold Manager.deleteRuleCacheByAppId
  dsimp only
  generalize s.appRunningControlRuleResult = cache
  induction ids generalizing cache with
  | nil => exact Or.inr ⟨List.not_mem_nil, rfl⟩
  | cons id ids ih =>
    rw [List.foldl_cons]
    rcases ih (cache.filter fun key _ => decide (strFind key (id ++ ['_']) ≠ some 0)) with hnone | ⟨hne, hsame⟩
    · exact Or.inl hnone
    · rw [hsame, ExtTreeMap.getElem?_filter']
      by_cases hpre : strFind (runningKey appId u) (id ++ ['_']) = some 0
      · left
        simp only [hpre, ne_eq, not_true, decide_false]
        cases cache[runningKey appId u]? <;> rfl
      · right
        refine ⟨?_, ?_⟩
        · rw [List.mem_cons, not_or]
          refine ⟨fun e => hpre ?_, hne⟩
          rw [strFind_eq_zero_iff, e]
          exact ⟨toDecimal u, rfl⟩
        · simp only [hpre, ne_eq, not_false_eq_true, decide_true]
          cases cache[runningKey appId u]? <;> rfl

/-- Rows were rewritten, and the entries of every id concerned are gone. -/
theorem Coherent.migrateRows (h : Coherent view order wants s) {ids : List Str} {newAppId : Str}
    (hids : ∀ info, Installed view info → info.appIdentifier ≠ [] → info.appIdentifier ∈ newAppId :: ids →
      info.appId ∈ newAppId :: ids ∨ ∀ u, s.appRunningControlRuleResult[runningKey info.appId u]? = none) :
    Coherent view order wants (Manager.deleteRuleCacheByAppId
      { s with table := s.table.map (Rdb.migrateRow ids newAppId) } (ids ++ [newAppId])) := by
  have hindex : ∀ r ∈ s.table.map (Rdb.migrateRow ids newAppId),
      r.appControlList = RUNNING_CONTROL → r.appIndex = MAIN_APP_INDEX := by
    intro r hr hlist
    obtain ⟨r', hr', rfl⟩ := List.mem_map.mp hr
    rw [migrateRow_eq] at hlist ⊢
    exact h.mainIndex r' hr' hlist
  refine h.of_unchanged view order wants hindex fun info u hi => ?_
  rcases deleteRuleCacheByAppId_get ({ s with table := s.table.map (Rdb.migrateRow ids newAppId) } :
    Manager Want) (ids ++ [newAppId]) info.appId u with hnone | ⟨hne, hsame⟩
  · exact Or.inl hnone
  · have hout : info.appId ∉ newAppId :: ids := by
      intro hin
      refine hne (List.mem_append.mpr ?_)
      rcases List.mem_cons.mp hin with e | hin
      · exact Or.inr (List.mem_singleton.mpr e)
      · exact Or.inl hin
    by_cases hident : info.appIdentifier ≠ [] ∧ info.appIdentifier ∈ newAppId :: ids
    · refine Or.inl (hsame.trans ?_)
      exact ((hids info hi hident.1 hident.2).resolve_left hout) u
    · refine Or.inr ⟨hsame, fun id hid => runningRows_migrate ?_, rfl⟩
      rcases hid with rfl | ⟨rfl, hne'⟩
      · exact hout
      · exact fun hin => hident ⟨hne', hin⟩

theorem Coherent.migrate (h : Coherent view order wants s) (a : DbAnswers) {oldAppIdList : List Str} {newAppId : Str}
    (hids : ∀ info, Installed view info → info.appIdentifier ≠ [] →
      info.appIdentifier ∈ newAppId :: migrateAppIds oldAppIdList newAppId →
      info.appId ∈ newAppId :: migrateAppIds oldAppIdList newAppId ∨
      ∀ u, s.appRunningControlRuleResult[runningKey info.appId u]? = none) :
    Coherent view order wants (s.updateAppControlAppId a oldAppIdList newAppId).2 := by
  unfold Manager.updateAppControlAppId
  by_cases hnew : newAppId = []
  · rw [if_pos hnew]
    exact h
  · rw [if_neg hnew]
    dsimp only
    generalize migrateAppIds oldAppIdList newAppId = ids at hids
    by_cases hnil : ids = []
    · rw [if_pos hnil]
      exact h
    · rw [if_neg hnil]
      unfold Rdb.updateAppControlAppId updateWhere
      rw [if_neg (by simp [hnil, hnew])]
      cases hok : a.updateOk with
      | false => exact h
      | true =>
        simp only [if_true, Manager.writeThen_snd]
        change Coherent view order wants (if _ then Manager.deleteRuleCacheByAppId
          { s with table := s.table.map (Rdb.migrateRow ids newAppId) } _
          else { s with table := s.table.map (Rdb.migrateRow ids newAppId) })
        split
        · exact h.migrateRows hids
        · next hzero =>
          -- no row has one of the ids
          have hsame : s.table.map (Rdb.migrateRow ids newAppId) = s.table := by
            refine (List.map_congr_left fun r hr => if_neg fun hin => hzero ?_).trans (List.map_id _)
            exact List.countP_pos_iff.mpr ⟨r, hr, hin⟩
          rw [hsame]
          exact h

/-- The computed answer does not look at the cache. -/
theorem compute_cache (a : DbAnswers) (info : BundleRecord) (userId : Int)
    (cache : StrMap (AppRunningControlRuleResult Want)) :
    ({ s with appRunningControlRuleResult := cache } : Manager Want).computeRunningControlRule order wants a info
      userId = s.computeRunningControlRule order wants a info userId := rfl

theorem Coherent.get (hview : Unambiguous view) (h : Coherent view order wants s) {a : DbAnswers} {bundleName : Str}
    {userId : Int}
    (hdb : ∀ info, view.bundleInfos[bundleName]? = some info →
      s.appRunningControlRuleResult[runningKey info.appId userId]? = none → a.QueriesOk) :
    Coherent view order wants (s.getAppRunningControlRule view order wants a bundleName userId).2.2 := by
  unfold Manager.getAppRunningControlRule
  cases hi : view.bundleInfos[bundleName]? with
  | none => exact h
  | some info =>
    dsimp only
    cases hc : s.appRunningControlRuleResult[runningKey info.appId userId]? with
    | some result =>
      dsimp only
      split <;> exact h
    | none =>
      have ha := hdb info hi hc
      refine ⟨fun info' u result hi' hc' a' ha' => ?_, h.mainIndex⟩
      rw [compute_cache]
      have hget : (s.appRunningControlRuleResult.insertIfNew (runningKey info.appId userId)
          (s.computeRunningControlRule order wants a info userId).2)[runningKey info'.appId u]? = some result := hc'
      rw [ExtTreeMap.getElem?_insertIfNew] at hget
      split at hget
      · next hk =>
        obtain ⟨happ, rfl⟩ := runningKey_inj (LawfulEqOrd.eq_of_compare hk.1)
        rw [← hview.appId info info' ⟨bundleName, hi⟩ hi' happ, ← Option.some.inj hget, compute_eq ha, compute_eq ha']
      · exact h.cached info' u result hi' hget a' ha'

/-! ## Runs -/

/-- The condition on a call.  Statements: they all go through, or the first is refused.  An id
given to `SetDisposedStatus` or `DeleteDisposedStatus` is not the identifier of an app with
a cached answer.  The ids of a bundle whose disposed rules go are those of no other app,
and no app has two rules of the EDM caller.  Migrated ids are appIds.  The queries of a
first answer go through. -/
def KeepsCache (view : BundleView) (s : Manager Want) : DbAnswers × Call Want → Prop
  | (a, .addAppRunningControlRule _ controlRules userId) => s.checkControlRules controlRules userId = .ERR_OK →
    ((∀ i, a.deleteOk i = true) ∧ a.batch.ok = true ∧ controlRules.length ≤ a.batch.inserted) ∨ a.deleteOk 0 = false
  | (a, .deleteAppRunningControlRule _ controlRules userId) => s.checkControlRules controlRules userId = .ERR_OK →
    (∀ i, a.deleteOk i = true) ∨ a.deleteOk 0 = false
  | (_, .deleteAppRunningControlRuleOfUser _ _) => True
  | (a, .setDisposedStatus appId _ userId) => checkCanDispose view appId userId = true → a.deleteOk 0 = true →
    a.insertOk = true ∧ IdentifierNotCached view s appId userId
  | (a, .deleteDisposedStatus appId userId) => a.deleteOk 0 = true → IdentifierNotCached view s appId userId
  | (_, .deleteAllDisposedRuleByBundle bundleInfo _ userId) =>
    (∀ info, Installed view info → ∀ id, IdOf info id → id ∈ [bundleInfo.appId, bundleInfo.appIdentifier] →
      info.appId = bundleInfo.appId) ∧
    ∀ x ∈ edmRows userId s.table, ∀ y ∈ edmRows userId s.table, x.appId = y.appId → x = y
  | (_, .updateAppControlAppId oldAppIdList newAppId) =>
    ∀ info, Installed view info → info.appIdentifier ≠ [] →
      info.appIdentifier ∈ newAppId :: migrateAppIds oldAppIdList newAppId →
      info.appId ∈ newAppId :: migrateAppIds oldAppIdList newAppId ∨
      ∀ u, s.appRunningControlRuleResult[runningKey info.appId u]? = none
  | (a, .getAppRunningControlRule bundleName userId) => ∀ info, view.bundleInfos[bundleName]? = some info →
    s.appRunningControlRuleResult[runningKey info.appId userId]? = none → a.QueriesOk
  | _ => False

/-- **One call** keeps the cache true to the table. -/
theorem Coherent.step (hview : Unambiguous view) (h : Coherent view order wants s) {call : DbAnswers × Call Want}
    (hcall : KeepsCache view s call) : Coherent view order wants (s.step view order wants call) := by
  obtain ⟨a, call⟩ := call
  cases call with
  | addAppRunningControlRule callingName controlRules userId => exact h.add hview hcall callingName
  | deleteAppRunningControlRule callingName controlRules userId => exact h.delete hview hcall callingName
  | deleteAppRunningControlRuleOfUser callingName userId => exact h.deleteOfUser a callingName userId
  | setDisposedStatus appId want userId => exact h.setDisposedStatus hcall want
  | deleteDisposedStatus appId userId => exact h.deleteDisposedStatus a hcall
  | deleteAllDisposedRuleByBundle bundleInfo appIndex userId => exact h.deleteAll a hcall.1 hcall.2
  | updateAppControlAppId oldAppIdList newAppId => exact h.migrate a hcall
  | getAppRunningControlRule bundleName userId => exact h.get hview hcall
  | _ => exact absurd hcall id

/-- The code, message, want and flag that a query returns. -/
def Manager.answer (view : BundleView) (order : OrderBy AppControlRow.priority) (wants : Codec Want) (a : DbAnswers)
    (bundleName : Str) (userId : Int) (s : Manager Want) : ErrCode × AppRunningControlRuleResult Want :=
  ((s.getAppRunningControlRule view order wants a bundleName userId).1,
    (s.getAppRunningControlRule view order wants a bundleName userId).2.1)

/-- The same with an empty cache. -/
def Manager.uncachedAnswer (view : BundleView) (order : OrderBy AppControlRow.priority) (wants : Codec Want)
    (a : DbAnswers) (bundleName : Str) (userId : Int) (s : Manager Want) :
    ErrCode × AppRunningControlRuleResult Want :=
  ({ s with appRunningControlRuleResult := ∅ } : Manager Want).answer view order wants a bundleName userId

theorem uncachedAnswer_eq {a : DbAnswers} {bundleName : Str} {info : BundleRecord}
    (hi : view.bundleInfos[bundleName]? = some info) (userId : Int) :
    s.uncachedAnswer view order wants a bundleName userId =
      s.computeRunningControlRule order wants a info userId := by
  unfold Manager.uncachedAnswer Manager.answer Manager.getAppRunningControlRule
  simp only [hi]
  rw [ExtTreeMap.getElem?_empty]
  rfl

/-- A cached answer is the fresh one just when a rule restricts the app. -/
theorem answer_eq_iff (h : Coherent view order wants s) {a : DbAnswers} (ha : a.QueriesOk) {bundleName : Str}
    {info : BundleRecord} (hi : view.bundleInfos[bundleName]? = some info) (userId : Int) :
    s.answer view order wants a bundleName userId = s.uncachedAnswer view order wants a bundleName userId ↔
      s.appRunningControlRuleResult[runningKey info.appId userId]? = none ∨ Restricted order s info userId := by
  rw [uncachedAnswer_eq hi]
  unfold Manager.answer Manager.getAppRunningControlRule
  simp only [hi]
  cases hc : s.appRunningControlRuleResult[runningKey info.appId userId]? with
  | none => simp
  | some result =>
    have hres := h.cached info userId result ⟨bundleName, hi⟩ hc a ha
    subst hres
    simp only [reduceCtorEq, false_or]
    by_cases hr : Restricted order s info userId
    · have hmsg := (restricted_iff ha order wants info userId s).mpr hr
      rw [if_neg hmsg]
      exact iff_of_true (Prod.ext (compute_code ha order wants info userId s hr).symm rfl) hr
    · have hmsg := not_not.mp fun hne => hr ((restricted_iff ha order wants info userId s).mp hne)
      rw [if_pos hmsg]
      refine iff_of_false (fun e => ?_) hr
      have hm : ([] : Str) = (s.computeRunningControlRule order wants a info userId).2.controlMessage :=
        congrArg (fun p : ErrCode × AppRunningControlRuleResult Want => p.2.controlMessage) e
      rw [hmsg] at hm
      exact absurd hm (by decide)

end

/-- **The cache shows** in every state of a run of such calls, for every installed bundle and
user, exactly where an answer is cached and no rule restricts the app. -/
theorem running_cache_transparent_iff (view : BundleView) (hview : Unambiguous view)
    (order : OrderBy AppControlRow.priority) (wants : Codec Want) (calls : List (DbAnswers × Call Want))
    (hcalls : StepRun.Each (Manager.step view order wants) (KeepsCache view) (.construct []) calls) :
    StepRun.Always (Manager.step view order wants)
      (fun s => ∀ (a : DbAnswers) (bundleName : Str) (info : BundleRecord) (userId : Int), a.QueriesOk →
        view.bundleInfos[bundleName]? = some info →
        (s.answer view order wants a bundleName userId = s.uncachedAnswer view order wants a bundleName userId ↔
          s.appRunningControlRuleResult[runningKey info.appId userId]? = none ∨ Restricted order s info userId))
      (.construct []) calls := by
  have hstart : Coherent view order wants (.construct []) := by
    refine ⟨fun info userId result _ hc => ?_, fun r hr => absurd hr List.not_mem_nil⟩
    rw [show (Manager.construct [] : Manager Want).appRunningControlRuleResult = ∅ from rfl,
      ExtTreeMap.getElem?_empty] at hc
    cases hc
  intro pre hpre a bundleName info userId ha hi
  exact answer_eq_iff (hcalls.always (fun _ _ h hcall => h.step hview hcall) hstart pre hpre) ha hi userId

/-- One bundle, with an appId and an appIdentifier. -/
def oneBundle : BundleView where
  bundleInfos := (∅ : StrMap BundleRecord).insert ['b'] ⟨['b'], "b_key".toList, "42".toList, false⟩
  noControllingList := []
  getBundleInfoV9 _ _ := none

theorem installed_oneBundle {info : BundleRecord} (h : Installed oneBundle info) :
    info = ⟨['b'], "b_key".toList, "42".toList, false⟩ := by
  obtain ⟨name, hn⟩ := h
  unfold oneBundle at hn
  rw [MapLoop.getElem?_insert_eq] at hn
  split at hn
  · exact (Option.some.inj hn).symm
  · simp at hn

theorem unambiguous_oneBundle : Unambiguous oneBundle := by
  refine ⟨fun info hi => ?_, fun info info' hi hi' _ => ?_, fun info info' hi hi' _ _ => ?_⟩
  · rw [installed_oneBundle hi]
    decide
  · rw [installed_oneBundle hi, installed_oneBundle hi']
  · rw [installed_oneBundle hi, installed_oneBundle hi']

/-- Ask, forbid the app under its identifier, ask again. -/
def forbidAndAsk : List (DbAnswers × Call Str) :=
  [(allOk 1 0, .getAppRunningControlRule ['b'] 100),
   (allOk 2 1, .addAppRunningControlRule EDM_CALLING [⟨"42".toList, [], false⟩] 100),
   (allOk 3 0, .getAppRunningControlRule ['b'] 100)]

theorem running_cache_transparent_iff_forbidAndAsk :
    StepRun.Always (Manager.step oneBundle (insertionOrder AppControlRow.priority) textWants)
      (fun s => ∀ (a : DbAnswers) (bundleName : Str) (info : BundleRecord) (userId : Int), a.QueriesOk →
        oneBundle.bundleInfos[bundleName]? = some info →
        (s.answer oneBundle (insertionOrder AppControlRow.priority) textWants a bundleName userId =
            s.uncachedAnswer oneBundle (insertionOrder AppControlRow.priority) textWants a bundleName userId ↔
          s.appRunningControlRuleResult[runningKey info.appId userId]? = none ∨
            Restricted (insertionOrder AppControlRow.priority) s info userId))
      (.construct []) forbidAndAsk :=
  running_cache_transparent_iff oneBundle unambiguous_oneBundle _ textWants forbidAndAsk
    ⟨fun _ _ _ => ⟨rfl, rfl⟩, fun _ => Or.inl ⟨fun _ => rfl, rfl, Nat.le_refl 1⟩, fun _ _ _ => ⟨rfl, rfl⟩, trivial⟩

/-- Ask, then block the app under its identifier. -/
def askAndDispose : List (DbAnswers × Call Str) :=
  [(allOk 1 0, .getAppRunningControlRule ['b'] 100), (allOk 2 0, .setDisposedStatus "42".toList ['w'] 100)]

/-- **Where the cache shows**: the second query after a "no rule" returns an empty message
instead of `INVALID_MESSAGE`; after a block set under the identifier the cached "no rule"
still stands. -/
theorem running_cache_shows :
    ¬ (∀ calls : List (DbAnswers × Call Str),
      StepRun.Always (Manager.step oneBundle (insertionOrder AppControlRow.priority) textWants)
        (fun s => ∀ (a : DbAnswers) (bundleName : Str) (userId : Int), a.QueriesOk →
          s.answer oneBundle (insertionOrder AppControlRow.priority) textWants a bundleName userId =
            s.uncachedAnswer oneBundle (insertionOrder AppControlRow.priority) textWants a bundleName userId)
        (.construct []) calls) ∧
    (((Manager.construct []).run oneBundle (insertionOrder AppControlRow.priority) textWants
      [(allOk 1 0, .getAppRunningControlRule ['b'] 100)]).answer oneBundle (insertionOrder AppControlRow.priority)
        textWants (allOk 2 0) ['b'] 100 =
        (.ERR_BUNDLE_MANAGER_BUNDLE_NOT_SET_CONTROL, { controlMessage := [] }) ∧
     ((Manager.construct []).run oneBundle (insertionOrder AppControlRow.priority) textWants
      [(allOk 1 0, .getAppRunningControlRule ['b'] 100)]).uncachedAnswer oneBundle
        (insertionOrder AppControlRow.priority) textWants (allOk 2 0) ['b'] 100 =
        (.ERR_BUNDLE_MANAGER_BUNDLE_NOT_SET_CONTROL, { controlMessage := INVALID_MESSAGE })) ∧
    (((Manager.construct []).run oneBundle (insertionOrder AppControlRow.priority) textWants askAndDispose).answer
        oneBundle (insertionOrder AppControlRow.priority) textWants (allOk 3 0) ['b'] 100 =
        (.ERR_BUNDLE_MANAGER_BUNDLE_NOT_SET_CONTROL, { controlMessage := [] }) ∧
     ((Manager.construct []).run oneBundle (insertionOrder AppControlRow.priority) textWants
        askAndDispose).uncachedAnswer oneBundle (insertionOrder AppControlRow.priority) textWants (allOk 3 0) ['b'] 100 =
        (.ERR_OK, { controlWant := some ['w'] })) := by
  have h2 : ((Manager.construct []).run oneBundle (insertionOrder AppControlRow.priority) textWants
        askAndDispose).answer oneBundle (insertionOrder AppControlRow.priority) textWants (allOk 3 0) ['b'] 100 =
        (.ERR_BUNDLE_MANAGER_BUNDLE_NOT_SET_CONTROL, { controlMessage := [] }) ∧
      ((Manager.construct []).run oneBundle (insertionOrder AppControlRow.priority) textWants
        askAndDispose).uncachedAnswer oneBundle (insertionOrder AppControlRow.priority) textWants (allOk 3 0) ['b'] 100 =
        (.ERR_OK, { controlWant := some ['w'] }) := by
    decide +kernel
  refine ⟨fun h => ?_, by decide +kernel, h2⟩
  have := h askAndDispose askAndDispose (List.prefix_refl _) (allOk 3 0) ['b'] 100 ⟨rfl, rfl⟩
  have e := h2.1.symm.trans (this.trans h2.2)
  cases e

end BundleFramework.AppControl
