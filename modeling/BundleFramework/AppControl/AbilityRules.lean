import BundleFramework.AppControl.RunningCache
import BundleFramework.Lib.GenCache

/-!
# The cache of ability-running rules

`GetAbilityRunningControlRule` caches the disposed rules of an app, user and index, together
with the rule that only the bundle manager service sets, under `appId_user_index`.  Readers
and writers run concurrently: the steps of each are those of `GenCache`, with one step for
each database statement and for each section under the cache's lock.

In every interleaving whose statements meet `NothingForgotten`, whenever nothing is in
flight every entry is what the table and the service's own rule give
(`ability_cache_coherent`).  What the writers forget is in `forgets`:
`DeleteAllDisposedRulesForUser` invalidates nothing, `DeleteAllDisposedRuleByBundle` only
the indexes that `GetCloneAppIndexes` returns, and a call that fails half-way nothing.
-/

namespace BundleFramework.AppControl

open Std RowTable GenCache

/-- What these calls read of the bundle data manager. -/
structure AbilityView extends BundleView where
  /-- `GetCloneAppIndexes` of a bundle for all users. -/
  getCloneAppIndexes : Str → List Int

/-- The fields that the table keeps as one text, and the two that it keeps besides. -/
structure DisposedRule (Body : Type) where
  body : Body
  callerName : Str
  setTime : Int
  deriving DecidableEq

/-- `FromString` into a default rule, and the rule of the bundle manager service. -/
structure RuleText (Body : Type) where
  FromString : Str → Body
  onlyForBms : Body

def generateAppRunningRuleCacheKey (appId : Str) (userId appIndex : Int) : Str :=
  appId ++ ['_'] ++ toDecimal userId ++ ['_'] ++ toDecimal appIndex

/-! ## Readers -/

/-- What a reader asks for, after it has read the ids of its bundle. -/
structure AbilityQuery (view : AbilityView) where
  info : BundleRecord
  installed : Installed view.toBundleView info
  userId : Int
  appIndex : Int

variable {Body : Type} {view : AbilityView}

def AbilityQuery.appIdList (q : AbilityQuery view) : List Str :=
  (if q.info.appId = [] then [] else [q.info.appId]) ++ if q.info.appIdentifier = [] then [] else [q.info.appIdentifier]

def AbilityQuery.key (q : AbilityQuery view) : Str := generateAppRunningRuleCacheKey q.info.appId q.userId q.appIndex

/-- The predicate of the query. -/
def AbilityQuery.isRow (q : AbilityQuery view) (r : AppControlRow) : Bool :=
  r.appControlList = DISPOSED_RULE ∧ r.appId ∈ q.appIdList ∧ r.userId = q.userId ∧ r.appIndex = q.appIndex

def Rdb.getAbilityRunningControlRule (order : OrderBy AppControlRow.priority) (text : RuleText Body) (t : Table)
    (q : AbilityQuery view) : List (DisposedRule Body) :=
  (order.sort (t.filter q.isRow)).map fun r =>
    { body := text.FromString r.disposedStatus, callerName := r.callingName, setTime := r.timeStamp }

def getDisposedRuleOnlyForBms (disposedRules : List (DisposedRule Body)) (forBms : StrMap (DisposedRule Body))
    (q : AbilityQuery view) : List (DisposedRule Body) :=
  match forBms[q.info.appId]? with
  | some rule => disposedRules ++ [rule]
  | none => disposedRules

/-! ## Statements of the writers -/

inductive Stmt where
  /-- the delete of `SetDisposedRule`, before its insert -/
  | disposeDelete (a : DbAnswers) (callerName : Str) (appIdList : List Str) (appIndex userId : Int)
  | disposeInsert (a : DbAnswers) (callerName appId rule : Str) (priority appIndex userId : Int)
  | deleteDisposedRule (a : DbAnswers) (callerName appId : Str) (appIndex userId : Int)
  /-- the delete of disposed rules in `DeleteAllDisposedRuleByBundle` -/
  | deleteByBundle (a : DbAnswers) (bundleInfo : BundleRecord) (appIndex userId : Int)
  | deleteByBundleExcludeEdm (a : DbAnswers) (bundleInfo : BundleRecord) (appIndex userId : Int)
  | deleteForUser (a : DbAnswers) (userId : Int)
  | migrate (a : DbAnswers) (ids : List Str) (newAppId : Str)

def Stmt.run : Stmt → Table → ErrCode × Table
  | .disposeDelete a callerName appIdList appIndex userId, t =>
    Rdb.deleteDisposedRule a callerName appIdList appIndex userId t
  | .disposeInsert a callerName appId rule priority appIndex userId, t =>
    Rdb.setDisposedRule a callerName appId rule priority appIndex userId t
  | .deleteDisposedRule a callerName appId appIndex userId, t =>
    Rdb.deleteDisposedRule a callerName [appId] appIndex userId t
  | .deleteByBundle a bundleInfo appIndex userId, t =>
    Rdb.deleteOne a 0 (Rdb.isDisposedByBundle [bundleInfo.appId, bundleInfo.appIdentifier] appIndex userId) t
  | .deleteByBundleExcludeEdm a bundleInfo appIndex userId, t =>
    Rdb.deleteDisposedRuleByBundleExcludeEdm a [bundleInfo.appId, bundleInfo.appIdentifier] appIndex userId t
  | .deleteForUser a userId, t => Rdb.deleteAllDisposedRulesForUser a userId t
  | .migrate a ids newAppId, t =>
    ((Rdb.updateAppControlAppId a ids newAppId t).1, (Rdb.updateAppControlAppId a ids newAppId t).2.2)

abbrev Writer (Body : Type) := Prog Table (StrMap (DisposedRule Body)) Stmt Str

def abilitySource (view : AbilityView) (order : OrderBy AppControlRow.priority) (text : RuleText Body) :
    Source Table (StrMap (DisposedRule Body)) Stmt (AbilityQuery view) Str (List (DisposedRule Body))
      (List (DisposedRule Body)) where
  key := AbilityQuery.key
  query := Rdb.getAbilityRunningControlRule order text
  combine := getDisposedRuleOnlyForBms
  apply w t := (w.run t).2

/-- A statement, and what follows when it returns `ERR_OK`. -/
def afterOk (w : Stmt) (next : Writer Body) : Writer Body :=
  .write w fun t => if (w.run t).1 = .ERR_OK then next else .done

/-- `DeleteAbilityRunningRuleCache`. -/
def deleteAbilityRunningRuleCache (keyList : List Str) (next : Writer Body) : Writer Body :=
  .invalidate (fun key => decide (key ∈ keyList)) next

/-! ## Writers -/

/-- The keys under an id and under the id it is transformed into. -/
def bothKeys (view : BundleView) (appId : Str) (userId appIndex : Int) : List Str :=
  [generateAppRunningRuleCacheKey appId userId appIndex,
    generateAppRunningRuleCacheKey (appIdAndAppIdentifierTransform view appId) userId appIndex]

def Writer.setDisposedRule (view : BundleView) (a : DbAnswers) (callerName appId rule : Str)
    (priority appIndex userId : Int) : Writer Body :=
  if !checkCanDispose view appId userId then .done
  else afterOk (.disposeDelete a callerName [appId, appIdAndAppIdentifierTransform view appId] appIndex userId)
    (afterOk (.disposeInsert a callerName appId rule priority appIndex userId)
      (deleteAbilityRunningRuleCache (bothKeys view appId userId appIndex) .done))

def Writer.deleteDisposedRule (view : BundleView) (a : DbAnswers) (callerName appId : Str) (appIndex userId : Int) :
    Writer Body :=
  afterOk (.deleteDisposedRule a callerName appId appIndex userId)
    (deleteAbilityRunningRuleCache (bothKeys view appId userId appIndex) .done)

/-- One invalidation for each clone. -/
def invalidateClones (appId : Str) (userId : Int) : List Int → Writer Body
  | [] => .done
  | index :: indexes =>
    deleteAbilityRunningRuleCache [generateAppRunningRuleCacheKey appId userId index]
      (invalidateClones appId userId indexes)

def Writer.deleteAllDisposedRuleByBundle (view : AbilityView) (a : DbAnswers) (bundleInfo : BundleRecord)
    (appIndex userId : Int) : Writer Body :=
  afterOk (.deleteByBundle a bundleInfo appIndex userId)
    (afterOk (.deleteByBundleExcludeEdm a bundleInfo appIndex userId)
      (deleteAbilityRunningRuleCache [generateAppRunningRuleCacheKey bundleInfo.appId userId appIndex]
        (if appIndex ≠ MAIN_APP_INDEX then .done
         else invalidateClones bundleInfo.appId userId (view.getCloneAppIndexes bundleInfo.bundleName))))

def Writer.deleteAllDisposedRulesForUser (a : DbAnswers) (userId : Int) : Writer Body :=
  afterOk (.deleteForUser a userId) .done

def Writer.updateAppControlAppId (a : DbAnswers) (oldAppIdList : List Str) (newAppId : Str) : Writer Body :=
  let ids := migrateAppIds oldAppIdList newAppId
  if newAppId = [] then .done
  else if ids = [] then .done
  else .write (.migrate a ids newAppId) fun t =>
    if (Rdb.updateAppControlAppId a ids newAppId t).1 = .ERR_OK ∧
        (Rdb.updateAppControlAppId a ids newAppId t).2.1 > 0 then
      .invalidate (fun key => (ids ++ [newAppId]).any fun id => strFind key (id ++ ['_']) = some 0) .done
    else .done

def Writer.setDisposedRuleOnlyForBms (text : RuleText Body) (appId : Str) : Writer Body :=
  .side (fun forBms => forBms.insert appId ⟨text.onlyForBms, [], 0⟩) (fun key => strFind key appId = some 0) .done

def Writer.deleteDisposedRuleOnlyForBms (appId : Str) : Writer Body :=
  .side (fun forBms => forBms.erase appId) (fun key => strFind key appId = some 0) .done

/-! ## What the writers forget -/

/-- The queries whose answers a statement changes although its writer never invalidates
their keys: the insert after a delete fails; the second delete of a bundle fails, or the
rows are those of another app's key or of an index that is not asked for; the rules of a
user go; rows move from or to an identifier. -/
def forgets : Stmt → Table → AbilityQuery view → Prop
  | .disposeDelete a callerName appIdList appIndex userId, t, q => a.deleteOk 0 = true ∧ a.insertOk = false ∧
    ∃ r ∈ t, q.isRow r = true ∧ Rdb.isDisposedRule callerName appIdList appIndex userId r = true
  | .deleteByBundle a bundleInfo appIndex userId, t, q => a.deleteOk 0 = true ∧
    (∃ r ∈ t, q.isRow r = true ∧
      Rdb.isDisposedByBundle [bundleInfo.appId, bundleInfo.appIdentifier] appIndex userId r = true) ∧
    ¬ (a.deleteOk 1 = true ∧ q.info.appId = bundleInfo.appId ∧
      (q.appIndex = appIndex ∨ appIndex = MAIN_APP_INDEX ∧
        q.appIndex ∈ view.getCloneAppIndexes bundleInfo.bundleName))
  | .deleteForUser a userId, t, q => a.deleteOk 0 = true ∧
    ∃ r ∈ t, q.isRow r = true ∧ Rdb.isDisposedOfUser userId r = true
  | .migrate a ids newAppId, t, q => a.updateOk = true ∧ q.info.appId ∉ newAppId :: ids ∧
    ∃ r ∈ t, r.appId ∈ ids ∧ (r.appId = q.info.appIdentifier ∨ newAppId = q.info.appIdentifier) ∧
      r.appControlList = DISPOSED_RULE ∧ r.userId = q.userId ∧ r.appIndex = q.appIndex
  | _, _, _ => False

/-! ## Keys -/

theorem cacheKey_inj {appId appId' : Str} {u u' i i' : Int}
    (h : generateAppRunningRuleCacheKey appId u i = generateAppRunningRuleCacheKey appId' u' i') :
    appId = appId' ∧ u = u' ∧ i = i' := by
  unfold generateAppRunningRuleCacheKey at h
  rw [List.append_assoc _ ['_'] (toDecimal i), List.append_assoc _ ['_'] (toDecimal i')] at h
  obtain ⟨h1, h2⟩ := append_separator_inj (underscore_not_mem_toDecimal i) (underscore_not_mem_toDecimal i') h
  rw [List.append_assoc, List.append_assoc] at h1
  obtain ⟨h3, h4⟩ := append_separator_inj (underscore_not_mem_toDecimal u) (underscore_not_mem_toDecimal u') h1
  exact ⟨h3, toDecimal_injective h4, toDecimal_injective h2⟩

theorem key_injective (hview : Unambiguous view.toBundleView) : Function.Injective (@AbilityQuery.key view) := by
  rintro ⟨info, hi, u, i⟩ ⟨info', hi', u', i'⟩ h
  obtain ⟨happ, hu, hindex⟩ := cacheKey_inj h
  change u = u' at hu
  change i = i' at hindex
  obtain rfl := hview.appId info info' hi hi' happ
  rw [hu, hindex]

theorem mem_appIdList {q : AbilityQuery view} {id : Str} (h : id ∈ q.appIdList) : IdOf q.info id := by
  unfold AbilityQuery.appIdList at h
  rcases List.mem_append.mp h with h | h
  · split at h
    · exact absurd h List.not_mem_nil
    · exact Or.inl (List.mem_singleton.mp h)
  · split at h
    · exact absurd h List.not_mem_nil
    · next hne =>
      obtain rfl := List.mem_singleton.mp h
      exact Or.inr ⟨rfl, hne⟩

/-- An id of a bundle is its appId, or is turned into it. -/
theorem appId_of_idOf {view : BundleView} (hview : Unambiguous view) {info : BundleRecord} (hi : Installed view info)
    {id appId : Str} (hid : IdOf info id) (h : id ∈ [appId, appIdAndAppIdentifierTransform view appId]) :
    info.appId = appId ∨ info.appId = appIdAndAppIdentifierTransform view appId := by
  rcases List.mem_cons.mp h with rfl | h
  · rcases hid with rfl | ⟨rfl, hne⟩
    · exact Or.inl rfl
    · exact Or.inr (transform_identifier hview hi hne).symm
  · obtain rfl := List.mem_singleton.mp h
    rcases hid with e | ⟨e, hne⟩
    · exact Or.inr e.symm
    · -- the bundle that the id was found in is this one
      unfold appIdAndAppIdentifierTransform at e hne ⊢
      split at e
      · next hnil =>
        rw [if_pos hnil] at hne
        exact absurd rfl hne
      · next hnil =>
        rw [if_neg hnil] at hne ⊢
        cases hf : view.bundleInfos.toList.find? fun p => decide (appId = p.2.appId ∨ appId = p.2.appIdentifier) with
        | none =>
          rw [hf] at hne
          exact absurd rfl hne
        | some p =>
          rw [hf] at e hne
          dsimp only at e hne ⊢
          have hp := Std.ExtTreeMap.mem_toList_iff_getElem?_eq_some.mp (List.mem_of_find?_eq_some hf)
          by_cases happ : appId = p.2.appId
          · rw [if_pos happ] at e hne
            have := hview.identifier info p.2 hi ⟨p.1, hp⟩ (e ▸ hne) (Or.inr e)
            rw [happ, this]
            exact Or.inl rfl
          · rw [if_neg happ] at e hne ⊢
            have := hview.identifier info p.2 hi ⟨p.1, hp⟩ (e ▸ hne) (Or.inl e)
            rw [this]
            exact Or.inr rfl

/-- Both keys of an id cover the rows under it. -/
theorem key_mem_bothKeys (hview : Unambiguous view.toBundleView) {q : AbilityQuery view} {r : AppControlRow}
    {appId : Str} {userId appIndex : Int} (hq : q.isRow r = true)
    (hid : r.appId ∈ [appId, appIdAndAppIdentifierTransform view.toBundleView appId]) (hu : r.userId = userId)
    (hindex : r.appIndex = appIndex) : q.key ∈ bothKeys view.toBundleView appId userId appIndex := by
  unfold AbilityQuery.isRow at hq
  rw [decide_eq_true_eq] at hq
  obtain ⟨-, hmem, hu', hindex'⟩ := hq
  unfold AbilityQuery.key bothKeys
  rw [← hu', ← hindex', hu, hindex]
  rcases appId_of_idOf hview q.installed (mem_appIdList hmem) hid with e | e
  · rw [e]
    exact List.mem_cons_self
  · rw [e]
    exact List.mem_cons_of_mem _ List.mem_cons_self

/-! ## Answers that a statement leaves -/

section
variable {order : OrderBy AppControlRow.priority} {text : RuleText Body} {t : Table} {q : AbilityQuery view}

theorem query_congr {t' : Table} (h : t'.filter q.isRow = t.filter q.isRow) :
    Rdb.getAbilityRunningControlRule order text t' q = Rdb.getAbilityRunningControlRule order text t q := by
  unfold Rdb.getAbilityRunningControlRule
  rw [h]

/-- A delete changes an answer only if it takes one of its rows. -/
theorem query_deleteOne (order : OrderBy AppControlRow.priority) (text : RuleText Body) (a : DbAnswers) (i : Nat)
    (p : AppControlRow → Bool) (t : Table) (q : AbilityQuery view) :
    Rdb.getAbilityRunningControlRule order text (Rdb.deleteOne a i p t).2 q =
        Rdb.getAbilityRunningControlRule order text t q ∨
      a.deleteOk i = true ∧ ∃ r ∈ t, q.isRow r = true ∧ p r = true := by
  by_cases h : a.deleteOk i = true ∧ ∃ r ∈ t, q.isRow r = true ∧ p r = true
  · exact Or.inr h
  · left
    refine query_congr ?_
    rw [deleteOne_snd, List.filter_filter]
    refine List.filter_congr fun r hr => ?_
    cases hq : q.isRow r with
    | false => rfl
    | true =>
      have : (a.deleteOk i && p r) = false := by
        rw [Bool.eq_false_iff]
        intro hd
        rw [Bool.and_eq_true] at hd
        exact h ⟨hd.1, r, hr, hq, hd.2⟩
      rw [this]
      rfl

theorem query_insert (a : DbAnswers) (callerName appId rule : Str) (priority appIndex userId : Int)
    (h : q.isRow (Rdb.disposedRow a.time callerName appId rule priority appIndex userId) = false) :
    Rdb.getAbilityRunningControlRule order text
        (Rdb.setDisposedRule a callerName appId rule priority appIndex userId t).2 q =
      Rdb.getAbilityRunningControlRule order text t q := by
  refine query_congr ?_
  unfold Rdb.setDisposedRule insertRow
  cases a.insertOk with
  | false => rfl
  | true =>
    simp only [if_true]
    rw [List.filter_append, List.filter_cons_of_neg (by rw [h]; exact Bool.false_ne_true), List.filter_nil,
      List.append_nil]

/-- A migration changes an answer only if it moves a row away from it or to it. -/
theorem query_migrate {ids : List Str} {newAppId : Str}
    (h : ∀ r ∈ t, r.appId ∈ ids → q.isRow r = false ∧ q.isRow { r with appId := newAppId } = false) :
    Rdb.getAbilityRunningControlRule order text (t.map (Rdb.migrateRow ids newAppId)) q =
      Rdb.getAbilityRunningControlRule order text t q := by
  have hkeep : ∀ r ∈ t, q.isRow (Rdb.migrateRow ids newAppId r) = q.isRow r := by
    intro r hr
    unfold Rdb.migrateRow
    split
    · next hin =>
      obtain ⟨h1, h2⟩ := h r hr (of_decide_eq_true hin)
      rw [h1, h2]
    · rfl
  refine query_congr ?_
  rw [List.filter_map]
  refine (congrArg _ (List.filter_congr hkeep)).trans ?_
  refine (List.map_congr_left fun r hr => ?_).trans (List.map_id _)
  obtain ⟨hr, hq⟩ := List.mem_filter.mp hr
  refine if_neg fun hin => ?_
  rw [(h r hr (of_decide_eq_true hin)).1] at hq
  cases hq

end

/-! ## Every writer covers what it changes -/

section
variable {order : OrderBy AppControlRow.priority} {text : RuleText Body}

theorem deleteOne_fst (a : DbAnswers) (i : Nat) (p : AppControlRow → Bool) (t : Table) :
    (Rdb.deleteOne a i p t).1 = .ERR_OK ↔ a.deleteOk i = true := by
  cases h : a.deleteOk i with
  | false => simp [deleteOne_of_refused h]
  | true => simp [deleteOne_of_ok h]

theorem setDisposedRule_fst (a : DbAnswers) (callerName appId rule : Str) (priority appIndex userId : Int) (t : Table) :
    (Rdb.setDisposedRule a callerName appId rule priority appIndex userId t).1 = .ERR_OK ↔ a.insertOk = true := by
  unfold Rdb.setDisposedRule insertRow
  cases a.insertOk <;> simp

/-- A statement whose error code does not depend on the table. -/
theorem covers_afterOk {w : Stmt} {ok : Prop} {next : Writer Body} (hok : ∀ t, (w.run t).1 = .ERR_OK ↔ ok)
    (hnext : next.Covers (abilitySource view order text) forgets)
    (hchange : ∀ (t : Table) (q : AbilityQuery view), Rdb.getAbilityRunningControlRule order text (w.run t).2 q =
        Rdb.getAbilityRunningControlRule order text t q ∨ (ok ∧ next.Erases (AbilityQuery.key q)) ∨ forgets w t q) :
    (afterOk w next).Covers (abilitySource view order text) forgets := by
  intro t
  constructor
  · dsimp only
    split
    · exact hnext
    · trivial
  · intro q
    refine (hchange t q).imp id (Or.imp ?_ id)
    rintro ⟨h, he⟩
    dsimp only
    rw [if_pos ((hok t).mpr h)]
    exact he

theorem erases_afterOk {w : Stmt} {next : Writer Body} {k : Str} (hok : ∀ t, (w.run t).1 = .ERR_OK)
    (h : next.Erases k) : (afterOk w next).Erases k := by
  intro t
  dsimp only
  rw [if_pos (hok t)]
  exact h

theorem erases_invalidateClones {appId : Str} {userId index : Int} {indexes : List Int} (h : index ∈ indexes) :
    (invalidateClones appId userId indexes : Writer Body).Erases (generateAppRunningRuleCacheKey appId userId index) := by
  induction indexes with
  | nil => exact absurd h List.not_mem_nil
  | cons i indexes ih =>
    rcases List.mem_cons.mp h with rfl | h
    · left
      exact decide_eq_true List.mem_cons_self
    · exact Or.inr (ih h)

theorem covers_invalidateClones (appId : Str) (userId : Int) (indexes : List Int) :
    (invalidateClones appId userId indexes : Writer Body).Covers (abilitySource view order text) forgets := by
  induction indexes with
  | nil => trivial
  | cons i indexes ih => exact ih

variable (hview : Unambiguous view.toBundleView)
include hview

theorem covers_setDisposedRule (a : DbAnswers) (callerName appId rule : Str) (priority appIndex userId : Int) :
    (Writer.setDisposedRule view.toBundleView a callerName appId rule priority appIndex userId : Writer Body).Covers
      (abilitySource view order text) forgets := by
  unfold Writer.setDisposedRule
  split
  · trivial
  · refine covers_afterOk (fun t => deleteOne_fst a 0 _ t) ?_ fun t q => ?_
    · refine covers_afterOk (fun t => setDisposedRule_fst a callerName appId rule priority appIndex userId t) trivial
        fun t q => ?_
      cases hq : q.isRow (Rdb.disposedRow a.time callerName appId rule priority appIndex userId) with
      | false => exact Or.inl (query_insert a callerName appId rule priority appIndex userId hq)
      | true =>
        cases hok : a.insertOk with
        | false =>
          left
          simp [Stmt.run, Rdb.setDisposedRule, insertRow, hok]
        | true =>
          refine Or.inr (Or.inl ⟨rfl, Or.inl (decide_eq_true ?_)⟩)
          exact key_mem_bothKeys hview hq List.mem_cons_self rfl rfl
    · rcases query_deleteOne order text a 0 _ t q with hsame | ⟨hdel, r, hr, hq, hp⟩
      · exact Or.inl hsame
      · right
        cases hok : a.insertOk with
        | false => exact Or.inr ⟨hdel, hok, r, hr, hq, hp⟩
        | true =>
          refine Or.inl ⟨hdel, erases_afterOk (fun t => ?_) (Or.inl (decide_eq_true ?_))⟩
          · exact (setDisposedRule_fst a callerName appId rule priority appIndex userId t).mpr hok
          · unfold Rdb.isDisposedRule at hp
            rw [decide_eq_true_eq] at hp
            exact key_mem_bothKeys hview hq hp.2.2.1 hp.2.2.2.1 hp.2.2.2.2

theorem covers_deleteDisposedRule (a : DbAnswers) (callerName appId : Str) (appIndex userId : Int) :
    (Writer.deleteDisposedRule view.toBundleView a callerName appId appIndex userId : Writer Body).Covers
      (abilitySource view order text) forgets := by
  refine covers_afterOk (fun t => deleteOne_fst a 0 _ t) trivial fun t q => ?_
  rcases query_deleteOne order text a 0 _ t q with hsame | ⟨hdel, r, hr, hq, hp⟩
  · exact Or.inl hsame
  · refine Or.inr (Or.inl ⟨hdel, Or.inl (decide_eq_true ?_)⟩)
    unfold Rdb.isDisposedRule at hp
    rw [decide_eq_true_eq] at hp
    refine key_mem_bothKeys hview hq ?_ hp.2.2.2.1 hp.2.2.2.2
    rw [List.mem_singleton.mp hp.2.2.1]
    exact List.mem_cons_self

omit hview in
theorem covers_deleteAllDisposedRuleByBundle (a : DbAnswers) (bundleInfo : BundleRecord) (appIndex userId : Int) :
    (Writer.deleteAllDisposedRuleByBundle view a bundleInfo appIndex userId : Writer Body).Covers
      (abilitySource view order text) forgets := by
  refine covers_afterOk (fun t => deleteOne_fst a 0 _ t) ?_ fun t q => ?_
  · refine covers_afterOk (fun t => deleteOne_fst a 1 _ t) ?_ fun t q => ?_
    · show Prog.Covers _ _ (if _ then _ else _)
      split
      · trivial
      · exact covers_invalidateClones _ _ _
    · -- only running-control rows go
      rcases query_deleteOne order text a 1 _ t q with hsame | ⟨-, r, -, hq, hp⟩
      · exact Or.inl hsame
      · exfalso
        unfold AbilityQuery.isRow at hq
        unfold Rdb.isRunningExcludeEdm at hp
        rw [decide_eq_true_eq] at hq hp
        have h := hq.1.symm.trans hp.1
        exact absurd h (by decide)
  · rcases query_deleteOne order text a 0 _ t q with hsame | ⟨hdel, r, hr, hq, hp⟩
    · exact Or.inl hsame
    · right
      by_cases hkeys : a.deleteOk 1 = true ∧ q.info.appId = bundleInfo.appId ∧
          (q.appIndex = appIndex ∨ appIndex = MAIN_APP_INDEX ∧
            q.appIndex ∈ view.getCloneAppIndexes bundleInfo.bundleName)
      · left
        obtain ⟨hdel1, happ, hindex⟩ := hkeys
        refine ⟨hdel, erases_afterOk (fun t => (deleteOne_fst a 1 _ t).mpr hdel1) ?_⟩
        have hu : q.userId = userId := by
          unfold AbilityQuery.isRow at hq
          unfold Rdb.isDisposedByBundle at hp
          rw [decide_eq_true_eq] at hq hp
          rw [← hq.2.2.1, hp.2.2.1]
        unfold AbilityQuery.key
        rw [happ, hu]
        rcases hindex with e | ⟨hmain, hmem⟩
        · left
          rw [e]
          exact decide_eq_true List.mem_cons_self
        · right
          rw [if_neg (not_not.mpr hmain)]
          exact erases_invalidateClones hmem
      · exact Or.inr ⟨hdel, ⟨r, hr, hq, hp⟩, hkeys⟩

omit hview in
theorem covers_deleteAllDisposedRulesForUser (a : DbAnswers) (userId : Int) :
    (Writer.deleteAllDisposedRulesForUser a userId : Writer Body).Covers (abilitySource view order text) forgets := by
  refine covers_afterOk (fun t => deleteOne_fst a 0 _ t) trivial fun t q => ?_
  rcases query_deleteOne order text a 0 _ t q with hsame | hrow
  · exact Or.inl hsame
  · exact Or.inr (Or.inr hrow)

omit hview in
/-- The keys of an appId start with it. -/
theorem appId_prefix_key (q : AbilityQuery view) : q.info.appId ++ ['_'] <+: q.key :=
  ⟨toDecimal q.userId ++ ['_'] ++ toDecimal q.appIndex, by simp [AbilityQuery.key, generateAppRunningRuleCacheKey]⟩

omit hview in
theorem covers_updateAppControlAppId (a : DbAnswers) (oldAppIdList : List Str) (newAppId : Str) :
    (Writer.updateAppControlAppId a oldAppIdList newAppId : Writer Body).Covers (abilitySource view order text)
      forgets := by
  unfold Writer.updateAppControlAppId
  dsimp only
  generalize migrateAppIds oldAppIdList newAppId = ids
  split
  · trivial
  · next hnew =>
    split
    · trivial
    · next hids =>
      intro t
      refine ⟨by dsimp only; split <;> trivial, fun q => ?_⟩
      dsimp only [abilitySource, Stmt.run]
      unfold Rdb.updateAppControlAppId updateWhere
      rw [if_neg (by simp [hids, hnew])]
      cases hok : a.updateOk with
      | false => exact Or.inl rfl
      | true =>
        simp only [if_true, true_and]
        change Rdb.getAbilityRunningControlRule order text (t.map (Rdb.migrateRow ids newAppId)) q = _ ∨ _
        by_cases hzero : t.countP (fun r => decide (r.appId ∈ ids)) > 0
        · rw [if_pos hzero]
          by_cases happ : q.info.appId ∈ newAppId :: ids
          · refine Or.inr (Or.inl (Or.inl (List.any_eq_true.mpr ⟨q.info.appId, ?_, ?_⟩)))
            · simpa [or_comm] using happ
            · rw [decide_eq_true_eq, strFind_eq_zero_iff]
              exact appId_prefix_key q
          · by_cases hrow : ∃ r ∈ t, r.appId ∈ ids ∧
                (r.appId = q.info.appIdentifier ∨ newAppId = q.info.appIdentifier) ∧
                r.appControlList = DISPOSED_RULE ∧ r.userId = q.userId ∧ r.appIndex = q.appIndex
            · exact Or.inr (Or.inr ⟨hok, happ, hrow⟩)
            · left
              -- no row moves from or to an id of the app
              refine query_migrate fun r hr hin => ?_
              have hno : ∀ id ∈ newAppId :: ids, id = r.appId ∨ id = newAppId →
                  q.isRow { r with appId := id } = false := by
                intro id hid hends
                rw [Bool.eq_false_iff]
                intro hq
                unfold AbilityQuery.isRow at hq
                rw [decide_eq_true_eq] at hq
                obtain ⟨hlist, hmem, hu, hindex⟩ := hq
                rcases mem_appIdList hmem with e | ⟨e, -⟩
                · exact happ (e ▸ hid)
                · refine hrow ⟨r, hr, hin, ?_, hlist, hu, hindex⟩
                  obtain rfl | rfl := hends
                  · exact .inl e
                  · exact .inr e
              exact ⟨hno r.appId (List.mem_cons_of_mem _ hin) (.inl rfl), hno newAppId List.mem_cons_self (.inr rfl)⟩
        · left
          refine query_migrate fun r hr hin => absurd ?_ hzero
          exact List.countP_pos_iff.mpr ⟨r, hr, decide_eq_true hin⟩

omit hview in
/-- A change of the service's own rule of one appId. -/
theorem covers_onlyForBms {appId : Str} {f : StrMap (DisposedRule Body) → StrMap (DisposedRule Body)}
    (hf : ∀ forBms id, id ≠ appId → (f forBms)[id]? = forBms[id]?) :
    (Prog.side f (fun key => decide (strFind key appId = some 0)) .done : Writer Body).Covers
      (abilitySource view order text) forgets := by
  refine ⟨trivial, fun forBms q hq rules => ?_⟩
  rw [decide_eq_false_iff_not, strFind_eq_zero_iff] at hq
  show getDisposedRuleOnlyForBms rules (f forBms) q = getDisposedRuleOnlyForBms rules forBms q
  unfold getDisposedRuleOnlyForBms
  rw [hf forBms q.info.appId fun e => hq ?_]
  rw [← e]
  exact (List.prefix_append _ _).trans (appId_prefix_key q)

end

/-! ## Interleavings -/

abbrev AbilityState (view : AbilityView) (Body : Type) :=
  GenCache.State Table (StrMap (DisposedRule Body)) Stmt (AbilityQuery view) Str (List (DisposedRule Body))
    (List (DisposedRule Body))

/-- The service starts over the table it finds. -/
def AbilityState.construct (t : Table) : AbilityState view Body where
  store := t
  sideTable := ∅
  generation := 0
  cache _ := none
  threads := []

/-- A call comes in, or an operation in flight takes its next step. -/
inductive AbilityEvent where
  | getAbilityRunningControlRule (bundleName : Str) (appIndex userId : Int)
  | setDisposedRule (a : DbAnswers) (callerName appId rule : Str) (priority appIndex userId : Int)
  | deleteDisposedRule (a : DbAnswers) (callerName appId : Str) (appIndex userId : Int)
  | deleteAllDisposedRuleByBundle (a : DbAnswers) (bundleInfo : BundleRecord) (appIndex userId : Int)
  | deleteAllDisposedRulesForUser (a : DbAnswers) (userId : Int)
  | updateAppControlAppId (a : DbAnswers) (oldAppIdList : List Str) (newAppId : Str)
  | setDisposedRuleOnlyForBms (appId : Str)
  | deleteDisposedRuleOnlyForBms (appId : Str)
  | step (i : Nat) (ok : Bool)

section
variable (view : AbilityView) (order : OrderBy AppControlRow.priority) (text : RuleText Body)

def AbilityEvent.toEvent :
    AbilityEvent → Option (Event Table (StrMap (DisposedRule Body)) Stmt (AbilityQuery view) Str)
  | .getAbilityRunningControlRule bundleName appIndex userId =>
    -- a bundle that is not installed: the call returns at once
    match h : view.bundleInfos[bundleName]? with
    | none => none
    | some info => some (.read ⟨info, ⟨bundleName, h⟩, userId, appIndex⟩)
  | .setDisposedRule a callerName appId rule priority appIndex userId =>
    some (.call (Writer.setDisposedRule view.toBundleView a callerName appId rule priority appIndex userId))
  | .deleteDisposedRule a callerName appId appIndex userId =>
    some (.call (Writer.deleteDisposedRule view.toBundleView a callerName appId appIndex userId))
  | .deleteAllDisposedRuleByBundle a bundleInfo appIndex userId =>
    some (.call (Writer.deleteAllDisposedRuleByBundle view a bundleInfo appIndex userId))
  | .deleteAllDisposedRulesForUser a userId => some (.call (Writer.deleteAllDisposedRulesForUser a userId))
  | .updateAppControlAppId a oldAppIdList newAppId => some (.call (Writer.updateAppControlAppId a oldAppIdList newAppId))
  | .setDisposedRuleOnlyForBms appId => some (.call (Writer.setDisposedRuleOnlyForBms text appId))
  | .deleteDisposedRuleOnlyForBms appId => some (.call (Writer.deleteDisposedRuleOnlyForBms appId))
  | .step i ok => some (.step i ok)

def abilityStep (s : AbilityState view Body) (e : AbilityEvent) : AbilityState view Body :=
  match e.toEvent view text with
  | none => s
  | some event => GenCache.step (abilitySource view order text) s event

/-- The condition on a step: a refill comes less than `2 ^ 64` invalidations after its load,
and of the answers that a statement's writer forgets none is cached or about to be. -/
def NothingForgotten (s : AbilityState view Body) : AbilityEvent → Prop
  | .step i ok => StepOk (abilitySource view order text) forgets s (.step i ok)
  | _ => True

variable {view order text}

/-- What a fresh query and the service's own rule give. -/
def AbilityState.freshRules (order : OrderBy AppControlRow.priority) (text : RuleText Body) (s : AbilityState view Body)
    (q : AbilityQuery view) : List (DisposedRule Body) :=
  getDisposedRuleOnlyForBms (Rdb.getAbilityRunningControlRule order text s.store q) s.sideTable q

theorem covers_toEvent (hview : Unambiguous view.toBundleView) {e : AbilityEvent} {p : Writer Body}
    (h : e.toEvent view text = some (.call p)) : p.Covers (abilitySource view order text) forgets := by
  cases e with
  | getAbilityRunningControlRule bundleName appIndex userId =>
    simp only [AbilityEvent.toEvent] at h
    split at h <;> cases h
  | setDisposedRule a callerName appId rule priority appIndex userId =>
    cases h
    exact covers_setDisposedRule hview a callerName appId rule priority appIndex userId
  | deleteDisposedRule a callerName appId appIndex userId =>
    cases h
    exact covers_deleteDisposedRule hview a callerName appId appIndex userId
  | deleteAllDisposedRuleByBundle a bundleInfo appIndex userId =>
    cases h
    exact covers_deleteAllDisposedRuleByBundle a bundleInfo appIndex userId
  | deleteAllDisposedRulesForUser a userId =>
    cases h
    exact covers_deleteAllDisposedRulesForUser a userId
  | updateAppControlAppId a oldAppIdList newAppId =>
    cases h
    exact covers_updateAppControlAppId a oldAppIdList newAppId
  | setDisposedRuleOnlyForBms appId =>
    cases h
    refine covers_onlyForBms fun forBms id hne => ?_
    rw [MapLoop.getElem?_insert_eq, if_neg hne]
  | deleteDisposedRuleOnlyForBms appId =>
    cases h
    refine covers_onlyForBms fun forBms id hne => ?_
    rw [MapLoop.getElem?_erase_eq, if_neg hne]
  | step i ok => cases h

/-- **One event** keeps the cache coherent. -/
theorem coherent_abilityStep (hview : Unambiguous view.toBundleView) {s : AbilityState view Body} {e : AbilityEvent}
    (h : GenCache.Coherent (abilitySource view order text) forgets s) (he : NothingForgotten view order text s e) :
    GenCache.Coherent (abilitySource view order text) forgets (abilityStep view order text s e) := by
  unfold abilityStep
  cases hevent : e.toEvent view text with
  | none => exact h
  | some event =>
    refine h.step (key_injective hview) ?_
    cases event with
    | read q => trivial
    | call p => exact covers_toEvent hview hevent
    | step i ok =>
      cases e with
      | step j ok' =>
        cases hevent
        exact he
      | getAbilityRunningControlRule bundleName appIndex userId =>
        simp only [AbilityEvent.toEvent] at hevent
        split at hevent <;> cases hevent
      | _ => cases hevent

end

/-- **The cache is coherent** in every interleaving of such steps: whenever no operation is
in flight, every entry is what the table and the service's own rule give for its key. -/
theorem ability_cache_coherent (view : AbilityView) (hview : Unambiguous view.toBundleView)
    (order : OrderBy AppControlRow.priority) (text : RuleText Body) (t : Table) (events : List AbilityEvent)
    (hevents : StepRun.Each (abilityStep view order text) (NothingForgotten view order text) (.construct t) events) :
    StepRun.Always (abilityStep view order text)
      (fun s => Quiet s → ∀ key rules, s.cache key = some rules →
        ∃ q : AbilityQuery view, q.key = key ∧ rules = s.freshRules order text q)
      (.construct t) events := by
  intro pre hpre hquiet key rules hc
  have hcoherent := hevents.always (fun _ _ h he => coherent_abilityStep hview h he) (coherent_empty _ _ _) pre hpre
  exact hcoherent.quiet hquiet key rules hc

/-- One bundle without clones. -/
def oneAbilityView : AbilityView := { oneBundle with getCloneAppIndexes := fun _ => [] }

/-- Rules that are texts. -/
def textRules : RuleText Str := ⟨id, "BLOCK_APPLICATION".toList⟩

/-- A reader queries the table before a rule is set under the identifier, and puts its answer
in before the writer invalidates; then it reads again. -/
def readWhileSetting : List AbilityEvent :=
  [.getAbilityRunningControlRule ['b'] 0 100, .step 0 true, .step 0 true, .step 0 true,
   .setDisposedRule (allOk 1 0) ['c'] "42".toList ['r'] 0 0 100, .step 1 true, .step 1 true,
   .step 0 true, .step 0 true, .step 1 true, .step 1 true,
   .getAbilityRunningControlRule ['b'] 0 100, .step 2 true, .step 2 true, .step 2 true, .step 2 true, .step 2 true]

theorem readWhileSetting_nothingForgotten :
    StepRun.Each (abilityStep oneAbilityView (insertionOrder AppControlRow.priority) textRules)
      (NothingForgotten oneAbilityView (insertionOrder AppControlRow.priority) textRules) (.construct [])
      readWhileSetting := by
  refine ⟨trivial, trivial, trivial, trivial, trivial, ?_, ?_, trivial, ?_, trivial, trivial,
    trivial, trivial, trivial, trivial, trivial, ?_, trivial⟩
  · rintro q ⟨-, hins, -⟩
    cases hins
  · exact fun q h => h.elim
  · show 0 < 0 + GENERATIONS
    decide
  · show 1 < 1 + GENERATIONS
    decide

theorem ability_cache_coherent_readWhileSetting :
    StepRun.Always (abilityStep oneAbilityView (insertionOrder AppControlRow.priority) textRules)
      (fun s => Quiet s → ∀ key rules, s.cache key = some rules →
        ∃ q : AbilityQuery oneAbilityView, q.key = key ∧
          rules = s.freshRules (insertionOrder AppControlRow.priority) textRules q)
      (.construct []) readWhileSetting :=
  ability_cache_coherent oneAbilityView unambiguous_oneBundle _ textRules [] readWhileSetting
    readWhileSetting_nothingForgotten

/-- A reader caches a rule, then the rules of its user are deleted. -/
def readThenDeleteForUser : List AbilityEvent :=
  [.getAbilityRunningControlRule ['b'] 0 100, .step 0 true, .step 0 true, .step 0 true, .step 0 true, .step 0 true,
   .deleteAllDisposedRulesForUser (allOk 2 0) 100, .step 1 true]

/-- **What is forgotten**: nothing is in flight, the table is empty, and the cache still holds
the rule that was deleted with its user. -/
theorem deleted_rule_stays_cached :
    ¬ (∀ events : List AbilityEvent,
      StepRun.Always (abilityStep oneAbilityView (insertionOrder AppControlRow.priority) textRules)
        (fun s => Quiet s → ∀ key rules, s.cache key = some rules →
          ∃ q : AbilityQuery oneAbilityView, q.key = key ∧
            rules = s.freshRules (insertionOrder AppControlRow.priority) textRules q)
        (.construct [Rdb.disposedRow 1 ['c'] "b_key".toList ['r'] 0 0 100]) events) := by
  intro h
  have hend := h readThenDeleteForUser readThenDeleteForUser (List.prefix_refl _)
  have hquiet : Quiet (readThenDeleteForUser.foldl
      (abilityStep oneAbilityView (insertionOrder AppControlRow.priority) textRules)
      (AbilityState.construct [Rdb.disposedRow 1 ['c'] "b_key".toList ['r'] 0 0 100])) := by
    intro t ht
    rcases List.mem_cons.mp ht with rfl | ht
    · exact Or.inl rfl
    · obtain rfl := List.mem_singleton.mp ht
      exact Or.inr rfl
  obtain ⟨q, -, hrules⟩ := hend hquiet "b_key_100_0".toList [⟨['r'], ['c'], 1⟩] rfl
  -- the table is empty, and no rule of the service's own is set
  have hfresh : AbilityState.freshRules (insertionOrder AppControlRow.priority) textRules
      (readThenDeleteForUser.foldl (abilityStep oneAbilityView (insertionOrder AppControlRow.priority) textRules)
        (.construct [Rdb.disposedRow 1 ['c'] "b_key".toList ['r'] 0 0 100])) q = [] := by
    show getDisposedRuleOnlyForBms [] ∅ q = []
    unfold getDisposedRuleOnlyForBms
    rw [ExtTreeMap.getElem?_empty]
  rw [hfresh] at hrules
  cases hrules

end BundleFramework.AppControl
