import BundleFramework.AppControl.RuleKeys

/-!
# The list mode of a user

The running-control rules of the EDM caller allow (a white list) or forbid (a black list),
never both for one user.  Which it is lives in memory and is computed again from the table
when the service starts.  In every run of the EDM caller's calls:

    the rows of each user agree, memory says what they say,
    and a restart computes the same for every user but -1          (listMode_survives)

`GetAllUserIdsForRunningControl` leaves the user -1 out, so for that user the mode does not
survive.
-/

namespace BundleFramework.AppControl

open Std RowTable

variable {Want : Type}

/-- The running-control rows of the EDM caller for a user. -/
def edmRows (userId : Int) (t : Table) : List AppControlRow := t.filter (Rdb.isEdmRunning userId)

theorem mem_edmRows {userId : Int} {t : Table} {r : AppControlRow} :
    r ∈ edmRows userId t ↔
      r ∈ t ∧ r.appControlList = RUNNING_CONTROL ∧ r.callingName = EDM_CALLING ∧ r.userId = userId := by
  unfold edmRows Rdb.isEdmRunning
  rw [List.mem_filter, decide_eq_true_eq]

/-- A mode, as a row shows it. -/
def Shows (r : AppControlRow) (status : RunningRuleSettingStatus) : Prop :=
  (r.allowRunning = 1 ∧ status = .WHITE_LIST) ∨ (r.allowRunning = 0 ∧ status = .BLACK_LIST)

/-- Memory says what the rows of each user say. -/
structure ListMode (s : Manager Want) : Prop where
  rows : ∀ u, ∀ r ∈ edmRows u s.table, r.appId ≠ [] ∧ Shows r (s.getRunningRuleSettingStatusByUserId u)
  empty : ∀ u, edmRows u s.table = [] → s.getRunningRuleSettingStatusByUserId u = .NO_SET

/-- The calls of the EDM caller, as the host passes them on (without empty appIds), over a
store that carries out every statement. -/
def IsEdmCall : DbAnswers × Call Want → Prop
  | (a, .addAppRunningControlRule callingName controlRules _) =>
    callingName = EDM_CALLING ∧ (∀ rule ∈ controlRules, rule.appId ≠ []) ∧ (∀ i, a.deleteOk i = true) ∧
      a.batch.ok = true ∧ controlRules.length ≤ a.batch.inserted
  | (a, .deleteAppRunningControlRule callingName controlRules _) =>
    callingName = EDM_CALLING ∧ (∀ rule ∈ controlRules, rule.appId ≠ []) ∧ (∀ i, a.deleteOk i = true) ∧
      a.queryOk 0 = true
  | (a, .deleteAppRunningControlRuleOfUser callingName _) => callingName = EDM_CALLING ∧ ∀ i, a.deleteOk i = true
  | _ => False

/-! ## The mode in memory -/

theorem getStatus_set (s : Manager Want) (userId u : Int) (status : RunningRuleSettingStatus) :
    (s.setRunningRuleSettingStatusByUserId userId status).getRunningRuleSettingStatusByUserId u =
      if u = userId then status else s.getRunningRuleSettingStatusByUserId u := by
  unfold Manager.setRunningRuleSettingStatusByUserId Manager.getRunningRuleSettingStatusByUserId
  dsimp only
  rw [MapLoop.getElem?_insert_eq, MapLoop.getElem?_erase_eq]
  split <;> rfl

/-- What the admission check lets through: rules of one kind, and of the kind of the mode. -/
theorem checkControlRules_ok {s : Manager Want} {controlRules : List AppRunningControlRule} {userId : Int}
    (h : s.checkControlRules controlRules userId = .ERR_OK) :
    ∃ allow, controlRules ≠ [] ∧ (controlRules.head?.map (·.allowRunning)).getD false = allow ∧
      (∀ rule ∈ controlRules, rule.allowRunning = allow) ∧
      (s.getRunningRuleSettingStatusByUserId userId = .NO_SET ∨
        s.getRunningRuleSettingStatusByUserId userId = if allow then .WHITE_LIST else .BLACK_LIST) := by
  cases controlRules with
  | nil => cases h
  | cons first rest =>
    unfold Manager.checkControlRules at h
    dsimp only at h
    by_cases hmix : (first :: rest).any (fun rule => decide (rule.allowRunning ≠ first.allowRunning)) = true
    · rw [if_pos hmix] at h
      cases h
    · rw [if_neg hmix] at h
      refine ⟨first.allowRunning, List.cons_ne_nil _ _, rfl, ?_, ?_⟩
      · intro rule hr
        by_contra hne
        exact hmix (List.any_eq_true.mpr ⟨rule, hr, decide_eq_true hne⟩)
      · by_cases hno : s.getRunningRuleSettingStatusByUserId userId = .NO_SET
        · exact Or.inl hno
        · refine Or.inr (not_not.mp fun hne => ?_)
          rw [if_pos ⟨hno, hne⟩] at h
          cases h

/-! ## The calls -/

theorem isRule_iff (callingName appControlList appId : Str) (userId : Int) (r : AppControlRow) :
    Rdb.isRule callingName appControlList appId userId r = true ↔
      r.callingName = callingName ∧ r.appControlList = appControlList ∧ r.userId = userId ∧ r.appId = appId := by
  unfold Rdb.isRule
  rw [decide_eq_true_eq]

/-- A call that shows one mode for its user and leaves the others alone. -/
theorem ListMode.of_user {s s' : Manager Want} (h : ListMode s) (userId : Int)
    (hother : ∀ u, u ≠ userId → edmRows u s'.table = edmRows u s.table ∧
      s'.getRunningRuleSettingStatusByUserId u = s.getRunningRuleSettingStatusByUserId u)
    (hrows : ∀ r ∈ edmRows userId s'.table,
      r.appId ≠ [] ∧ Shows r (s'.getRunningRuleSettingStatusByUserId userId))
    (hempty : edmRows userId s'.table = [] → s'.getRunningRuleSettingStatusByUserId userId = .NO_SET) :
    ListMode s' := by
  constructor
  · intro u r hr
    by_cases hu : u = userId
    · subst hu
      exact hrows r hr
    · obtain ⟨ht, hs⟩ := hother u hu
      rw [hs]
      exact h.rows u r (ht ▸ hr)
  · intro u hr
    by_cases hu : u = userId
    · subst hu
      exact hempty hr
    · obtain ⟨ht, hs⟩ := hother u hu
      rw [hs]
      exact h.empty u (ht ▸ hr)

/-- Deletes of one user's rules leave the rows of the others. -/
theorem edmRows_filter_other {p : AppControlRow → Bool} {userId u : Int} (hu : u ≠ userId)
    (hp : ∀ r, p r = true → r.userId = userId) (t : Table) :
    edmRows u (t.filter fun r => !p r) = edmRows u t := by
  unfold edmRows
  rw [List.filter_filter]
  refine List.filter_congr fun r _ => ?_
  cases hr : Rdb.isEdmRunning u r with
  | false => rfl
  | true =>
    have hru : r.userId = u := by
      unfold Rdb.isEdmRunning at hr
      rw [decide_eq_true_eq] at hr
      exact hr.2.2
    cases hpr : p r with
    | false => rfl
    | true => exact absurd (hru.symm.trans (hp r hpr)) hu

/-- The deletes for a list of rules concern one user. -/
theorem userId_of_any {callingName appControlList : Str} {userId : Int} {appIds : List Str} {r : AppControlRow}
    (h : (appIds.any fun appId => Rdb.isRule callingName appControlList appId userId r) = true) :
    r.userId = userId := by
  obtain ⟨appId, -, h⟩ := List.any_eq_true.mp h
  exact ((isRule_iff _ _ _ _ _).mp h).2.2.1

/-- Erasing cache entries does not touch the modes. -/
theorem foldl_deleteCacheOfRule_status (view : BundleView) (userId : Int) (rules : List AppRunningControlRule)
    (s : Manager Want) (u : Int) :
    (rules.foldl (Manager.deleteCacheOfRule view userId) s).getRunningRuleSettingStatusByUserId u =
      s.getRunningRuleSettingStatusByUserId u := by
  rw [foldl_deleteCacheOfRule]
  rfl

/-- The modes after an add that is carried out. -/
theorem addAppRunningControlRule_status {s : Manager Want} (view : BundleView) {a : DbAnswers} {callingName : Str}
    {controlRules : List AppRunningControlRule} {userId : Int} {t : Table} {allow : Bool}
    (hc : s.checkControlRules controlRules userId = .ERR_OK)
    (hhead : (controlRules.head?.map (·.allowRunning)).getD false = allow)
    (hrdb : Rdb.addAppRunningControlRule a callingName controlRules userId s.table = (.ERR_OK, t)) (u : Int) :
    (s.addAppRunningControlRule view a callingName controlRules userId).2.getRunningRuleSettingStatusByUserId u =
      if u = userId then (if allow then .WHITE_LIST else .BLACK_LIST)
      else s.getRunningRuleSettingStatusByUserId u := by
  unfold Manager.addAppRunningControlRule
  rw [hc, hrdb, hhead]
  show Manager.getRunningRuleSettingStatusByUserId (Manager.setRunningRuleSettingStatusByUserId _ _ _) u = _
  rw [getStatus_set, foldl_deleteCacheOfRule_status]
  refine congrArg _ ?_
  split <;> rfl

theorem addAppRunningControlRule_refused {s : Manager Want} {controlRules : List AppRunningControlRule} {userId : Int}
    (hc : s.checkControlRules controlRules userId ≠ .ERR_OK) (view : BundleView) (a : DbAnswers) (callingName : Str) :
    (s.addAppRunningControlRule view a callingName controlRules userId).2 = s := by
  unfold Manager.addAppRunningControlRule
  split
  · exact absurd ‹_› hc
  · rfl

theorem deleteAppRunningControlRule_refused {s : Manager Want} {controlRules : List AppRunningControlRule}
    {userId : Int} (hc : s.checkControlRules controlRules userId ≠ .ERR_OK) (view : BundleView) (a : DbAnswers)
    (callingName : Str) : (s.deleteAppRunningControlRule view a callingName controlRules userId).2 = s := by
  unfold Manager.deleteAppRunningControlRule
  split
  · exact absurd ‹_› hc
  · rfl

theorem ListMode.add {s : Manager Want} (h : ListMode s) (view : BundleView) {a : DbAnswers}
    {controlRules : List AppRunningControlRule} (hids : ∀ rule ∈ controlRules, rule.appId ≠ [])
    (hdel : ∀ i, a.deleteOk i = true) (hb : a.batch.ok = true) (hlen : controlRules.length ≤ a.batch.inserted)
    (userId : Int) : ListMode (s.addAppRunningControlRule view a EDM_CALLING controlRules userId).2 := by
  by_cases hc : s.checkControlRules controlRules userId = .ERR_OK
  · obtain ⟨allow, hne, hhead, hall, hstatus⟩ := checkControlRules_ok hc
    have hrdb : Rdb.addAppRunningControlRule a EDM_CALLING controlRules userId s.table = _ :=
      addRules_of_ok hdel hb (by simpa using hlen) s.table
    have htable := addAppRunningControlRule_table view a EDM_CALLING controlRules userId s
    rw [if_pos hc, hrdb] at htable
    have hmode := addAppRunningControlRule_status view hc hhead hrdb
    refine h.of_user userId (fun u hu => ⟨?_, ?_⟩) (fun r hr => ?_) fun he => ?_
    · -- the rows of another user
      rw [htable]
      unfold edmRows
      rw [List.filter_append]
      refine (congrArg (_ ++ ·) (List.filter_eq_nil_iff.mpr fun r hr => ?_)).trans
        ((List.append_nil _).trans (edmRows_filter_other hu (fun r hr => ?_) s.table))
      · obtain ⟨rule, -, rfl⟩ := List.mem_map.mp hr
        simp [Rdb.isEdmRunning, Rdb.runningRow, Ne.symm hu]
      · obtain ⟨x, hx, hr⟩ := List.any_eq_true.mp hr
        obtain ⟨rule, -, rfl⟩ := List.mem_map.mp hx
        exact ((isRule_iff _ _ _ _ _).mp hr).2.2.1
    · rw [hmode, if_neg hu]
    · rw [hmode, if_pos rfl]
      rw [htable, mem_edmRows] at hr
      obtain ⟨hr, hedm⟩ := hr
      rcases List.mem_append.mp hr with hr | hr
      · -- an old row shows the mode that the check compared with
        obtain ⟨happ, hshows⟩ := h.rows userId r (mem_edmRows.mpr ⟨List.mem_of_mem_filter hr, hedm⟩)
        refine ⟨happ, ?_⟩
        rcases hstatus with hno | hsame
        · rw [hno] at hshows
          rcases hshows with ⟨-, hx⟩ | ⟨-, hx⟩ <;> cases hx
        · rw [hsame] at hshows
          exact hshows
      · obtain ⟨rule, hrule, rfl⟩ := List.mem_map.mp hr
        refine ⟨hids rule hrule, ?_⟩
        unfold Shows Rdb.runningRow
        rw [hall rule hrule]
        cases allow <;> simp
    · -- the new rows are there
      exfalso
      obtain ⟨rule, rest, rfl⟩ := List.exists_cons_of_ne_nil hne
      have : Rdb.runningRow a.time EDM_CALLING userId rule ∈ edmRows userId
          (s.addAppRunningControlRule view a EDM_CALLING (rule :: rest) userId).2.table := by
        rw [htable, mem_edmRows]
        exact ⟨List.mem_append_right _ (List.mem_map.mpr ⟨rule, List.mem_cons_self, rfl⟩), rfl, rfl, rfl⟩
      rw [he] at this
      cases this
  · rw [addAppRunningControlRule_refused hc]
    exact h

/-- The mode after a delete, by what the table still has. -/
theorem deleteRunningRuleSettingStatusCache_status {a : DbAnswers} (hq : a.queryOk 0 = true) (userId u : Int)
    (s : Manager Want) :
    (s.deleteRunningRuleSettingStatusCache a userId).getRunningRuleSettingStatusByUserId u =
      if u = userId ∧ edmRows userId s.table = [] then .NO_SET else s.getRunningRuleSettingStatusByUserId u := by
  unfold Manager.deleteRunningRuleSettingStatusCache Rdb.getAppIdsByUserId
  rw [if_neg (by simp [hq])]
  by_cases he : edmRows userId s.table = []
  · rw [if_pos (by rw [show s.table.filter (Rdb.isEdmRunning userId) = [] from he]; rfl)]
    show Manager.getRunningRuleSettingStatusByUserId (Manager.setRunningRuleSettingStatusByUserId s _ _) u = _
    rw [getStatus_set]
    simp [he]
  · rw [if_neg (by rw [List.map_eq_nil_iff]; exact he), if_neg (fun hx => he hx.2)]

theorem ListMode.delete {s : Manager Want} (h : ListMode s) (view : BundleView) {a : DbAnswers}
    {controlRules : List AppRunningControlRule} (hdel : ∀ i, a.deleteOk i = true) (hq : a.queryOk 0 = true)
    (userId : Int) : ListMode (s.deleteAppRunningControlRule view a EDM_CALLING controlRules userId).2 := by
  by_cases hc : s.checkControlRules controlRules userId = .ERR_OK
  · have hrdb : Rdb.deleteAppRunningControlRule a EDM_CALLING controlRules userId s.table = _ :=
      deleteRules_of_ok hdel EDM_CALLING RUNNING_CONTROL _ userId s.table
    have htable := deleteAppRunningControlRule_table view a EDM_CALLING controlRules userId s
    rw [if_pos hc, hrdb] at htable
    have hmode : ∀ u, (s.deleteAppRunningControlRule view a EDM_CALLING controlRules
        userId).2.getRunningRuleSettingStatusByUserId u =
        if u = userId ∧ edmRows userId (s.deleteAppRunningControlRule view a EDM_CALLING controlRules userId).2.table = []
          then .NO_SET else s.getRunningRuleSettingStatusByUserId u := by
      intro u
      rw [htable]
      unfold Manager.deleteAppRunningControlRule
      rw [hc, hrdb]
      show Manager.getRunningRuleSettingStatusByUserId (Manager.deleteRunningRuleSettingStatusCache _ _ _) u = _
      rw [deleteRunningRuleSettingStatusCache_status hq, foldl_deleteCacheOfRule_status, foldl_deleteCacheOfRule]
      rfl
    refine h.of_user userId (fun u hu => ⟨?_, ?_⟩) (fun r hr => ?_) fun he => ?_
    · rw [htable]
      exact edmRows_filter_other hu (fun r hr => userId_of_any hr) s.table
    · rw [hmode, if_neg fun hx => hu hx.1]
    · rw [hmode, if_neg fun hx => by rw [hx.2] at hr; cases hr]
      rw [htable, mem_edmRows] at hr
      exact h.rows userId r (mem_edmRows.mpr ⟨List.mem_of_mem_filter hr.1, hr.2⟩)
    · rw [hmode, if_pos ⟨rfl, he⟩]
  · rw [deleteAppRunningControlRule_refused hc]
    exact h

theorem ListMode.deleteOfUser {s : Manager Want} (h : ListMode s) {a : DbAnswers} (hdel : ∀ i, a.deleteOk i = true)
    (userId : Int) : ListMode (s.deleteAppRunningControlRuleOfUser a EDM_CALLING userId).2 := by
  have hrdb : Rdb.deleteAppRunningControlRuleOfUser a EDM_CALLING userId s.table = _ := deleteOne_of_ok (hdel 0) _ s.table
  unfold Manager.deleteAppRunningControlRuleOfUser
  rw [hrdb]
  have hmode : ∀ u, (s.writeThen (.ERR_OK, s.table.filter fun r =>
      !Rdb.isRuleOfUser EDM_CALLING RUNNING_CONTROL userId r) fun s₁ =>
      (s₁.deleteAppRunningControlRuleCacheForUserId userId).setRunningRuleSettingStatusByUserId userId
        .NO_SET).2.getRunningRuleSettingStatusByUserId u =
      if u = userId then .NO_SET else s.getRunningRuleSettingStatusByUserId u := by
    intro u
    show Manager.getRunningRuleSettingStatusByUserId (Manager.setRunningRuleSettingStatusByUserId _ _ _) u = _
    rw [getStatus_set]
    rfl
  refine h.of_user userId (fun u hu => ⟨?_, ?_⟩) (fun r hr => ?_) fun _ => ?_
  · refine edmRows_filter_other hu (fun r hr => ?_) s.table
    unfold Rdb.isRuleOfUser at hr
    rw [decide_eq_true_eq] at hr
    exact hr.2.2
  · rw [hmode, if_neg hu]
  · -- no row of the user is left
    exfalso
    obtain ⟨hr, hlist, hcall, hu⟩ := mem_edmRows.mp hr
    have := (List.mem_filter.mp hr).2
    simp [Rdb.isRuleOfUser, hlist, hcall, hu] at this
  · rw [hmode, if_pos rfl]

/-- **One call** of the EDM caller keeps memory and rows in step. -/
theorem ListMode.step {s : Manager Want} (h : ListMode s) (view : BundleView) (order : OrderBy AppControlRow.priority)
    (wants : Codec Want) {call : DbAnswers × Call Want} (hcall : IsEdmCall call) :
    ListMode (s.step view order wants call) := by
  obtain ⟨a, call⟩ := call
  cases call with
  | addAppRunningControlRule callingName controlRules userId =>
    obtain ⟨rfl, hids, hdel, hb, hlen⟩ := hcall
    exact h.add view hids hdel hb hlen userId
  | deleteAppRunningControlRule callingName controlRules userId =>
    obtain ⟨rfl, -, hdel, hq⟩ := hcall
    exact h.delete view hdel hq userId
  | deleteAppRunningControlRuleOfUser callingName userId =>
    obtain ⟨rfl, hdel⟩ := hcall
    exact h.deleteOfUser hdel userId
  | _ => exact absurd hcall id

/-! ## The mode after a restart -/

theorem mem_getAllUserIds {t : Table} {u : Int} :
    u ∈ Rdb.getAllUserIdsForRunningControl t ↔ u ≠ -1 ∧ edmRows u t ≠ [] := by
  unfold Rdb.getAllUserIdsForRunningControl
  rw [List.mem_mergeSort, List.mem_dedup, List.mem_filter, List.mem_map]
  constructor
  · rintro ⟨⟨r, hr, rfl⟩, hu⟩
    rw [List.mem_filter, decide_eq_true_eq] at hr
    refine ⟨of_decide_eq_true hu, List.ne_nil_of_mem (mem_edmRows.mpr ⟨hr.1, hr.2.1, hr.2.2, rfl⟩)⟩
  · rintro ⟨hu, hrows⟩
    obtain ⟨r, hr⟩ := List.exists_mem_of_ne_nil _ hrows
    obtain ⟨hmem, hlist, hcall, rfl⟩ := mem_edmRows.mp hr
    exact ⟨⟨r, List.mem_filter.mpr ⟨hmem, decide_eq_true ⟨hlist, hcall⟩⟩, rfl⟩, decide_eq_true hu⟩

/-- The mode that the first row of a user gives. -/
def rowMode (r : AppControlRow) : RunningRuleSettingStatus :=
  if r.appId = [] then .NO_SET else if r.allowRunning = 1 then .WHITE_LIST else .BLACK_LIST

/-- The loop sets the mode of each user it visits from that user's first row. -/
theorem foldl_statusStep {t : Table} (us : List Int) (hus : ∀ u ∈ us, edmRows u t ≠ [])
    (acc : (Str × Bool) × ExtTreeMap Int RunningRuleSettingStatus) (u : Int) :
    (us.foldl (statusStep t) acc).2[u]? =
      if u ∈ us then (edmRows u t).head?.map rowMode else acc.2[u]? := by
  induction us generalizing acc with
  | nil => simp
  | cons v us ih =>
    rw [List.foldl_cons, ih (fun w hw => hus w (List.mem_cons_of_mem _ hw))]
    by_cases hu : u ∈ us
    · rw [if_pos hu, if_pos (List.mem_cons_of_mem _ hu)]
    · rw [if_neg hu]
      obtain ⟨r, rest, hr⟩ := List.exists_cons_of_ne_nil (hus v List.mem_cons_self)
      have hstep : (statusStep t acc v).2 = acc.2.insert v (rowMode r) := by
        unfold statusStep Rdb.getAppRunningControlRuleByUserId
        rw [show t.filter (Rdb.isEdmRunning v) = r :: rest from hr]
        simp [rowMode]
      rw [hstep, MapLoop.getElem?_insert_eq]
      by_cases huv : u = v
      · subst huv
        rw [if_pos rfl, if_pos List.mem_cons_self, hr]
        rfl
      · rw [if_neg huv, if_neg (by simp [huv, hu])]

theorem generated_status (t : Table) (u : Int) :
    (generateRunningRuleSettingStatusMap t)[u]? =
      if u = -1 then none else (edmRows u t).head?.map rowMode := by
  unfold generateRunningRuleSettingStatusMap
  rw [foldl_statusStep _ fun v hv => (mem_getAllUserIds.mp hv).2]
  by_cases hu : u = -1
  · rw [if_neg (fun hx => (mem_getAllUserIds.mp hx).1 hu), if_pos hu]
    simp
  · rw [if_neg hu]
    by_cases hr : edmRows u t = []
    · rw [if_neg (fun hx => (mem_getAllUserIds.mp hx).2 hr), hr]
      simp
    · rw [if_pos (mem_getAllUserIds.mpr ⟨hu, hr⟩)]

/-- Memory as a restart would set it, for every user but -1. -/
theorem ListMode.generated {s : Manager Want} (h : ListMode s) (u : Int) (hu : u ≠ -1) :
    (Manager.construct s.table : Manager Want).getRunningRuleSettingStatusByUserId u =
      s.getRunningRuleSettingStatusByUserId u := by
  show ((generateRunningRuleSettingStatusMap s.table)[u]?).getD .NO_SET = _
  rw [generated_status, if_neg hu]
  cases hrows : edmRows u s.table with
  | nil => exact (h.empty u hrows).symm
  | cons r rest =>
    obtain ⟨happ, hshows⟩ := h.rows u r (hrows ▸ List.mem_cons_self)
    show rowMode r = _
    unfold rowMode
    rw [if_neg happ]
    rcases hshows with ⟨ha, hs⟩ | ⟨ha, hs⟩ <;> simp [ha, hs]

/-- What the rows of a user say is what memory says. -/
structure ModeOfUser (s : Manager Want) (u : Int) : Prop where
  uniform : ∀ r ∈ edmRows u s.table, ∀ r' ∈ edmRows u s.table, r.allowRunning = r'.allowRunning
  noSet : s.getRunningRuleSettingStatusByUserId u = .NO_SET ↔ edmRows u s.table = []
  whiteList : s.getRunningRuleSettingStatusByUserId u = .WHITE_LIST ↔
    edmRows u s.table ≠ [] ∧ ∀ r ∈ edmRows u s.table, r.allowRunning = 1
  blackList : s.getRunningRuleSettingStatusByUserId u = .BLACK_LIST ↔
    edmRows u s.table ≠ [] ∧ ∀ r ∈ edmRows u s.table, r.allowRunning = 0

theorem ListMode.modeOfUser {s : Manager Want} (h : ListMode s) (u : Int) : ModeOfUser s u := by
  cases hrows : edmRows u s.table with
  | nil =>
    have hs := h.empty u hrows
    constructor <;> simp [hrows, hs]
  | cons r rest =>
    have hr : r ∈ edmRows u s.table := hrows ▸ List.mem_cons_self
    rcases (h.rows u r hr).2 with ⟨-, hs⟩ | ⟨-, hs⟩
    · have hall : ∀ r ∈ edmRows u s.table, r.allowRunning = 1 := by
        intro r' hr'
        rcases (h.rows u r' hr').2 with ⟨ha, -⟩ | ⟨-, hs'⟩
        · exact ha
        · rw [hs] at hs'; cases hs'
      refine ⟨fun x hx y hy => (hall x hx).trans (hall y hy).symm, ?_, ?_, ?_⟩
      · simp [hs, hrows]
      · simp only [hs, true_iff]
        exact ⟨hrows ▸ List.cons_ne_nil _ _, hall⟩
      · simp only [hs, reduceCtorEq, false_iff]
        rintro ⟨-, hall'⟩
        have := (hall r hr).symm.trans (hall' r hr)
        cases this
    · have hall : ∀ r ∈ edmRows u s.table, r.allowRunning = 0 := by
        intro r' hr'
        rcases (h.rows u r' hr').2 with ⟨-, hs'⟩ | ⟨ha, -⟩
        · rw [hs] at hs'; cases hs'
        · exact ha
      refine ⟨fun x hx y hy => (hall x hx).trans (hall y hy).symm, ?_, ?_, ?_⟩
      · simp [hs, hrows]
      · simp only [hs, reduceCtorEq, false_iff]
        rintro ⟨-, hall'⟩
        have := (hall r hr).symm.trans (hall' r hr)
        cases this
      · simp only [hs, true_iff]
        exact ⟨hrows ▸ List.cons_ne_nil _ _, hall⟩

/-- **The mode survives a restart** of every user but -1: in every state of a run of the EDM
caller, the rows of a user agree, memory says what they say, and the constructor computes
the same from the table; for the user -1 it computes NO_SET. -/
theorem listMode_survives (view : BundleView) (order : OrderBy AppControlRow.priority) (wants : Codec Want)
    (calls : List (DbAnswers × Call Want)) (hcalls : ∀ call ∈ calls, IsEdmCall call) :
    StepRun.Always (Manager.step view order wants)
      (fun s => ∀ u, ModeOfUser s u ∧
        (u ≠ -1 → (Manager.construct s.table : Manager Want).getRunningRuleSettingStatusByUserId u =
          s.getRunningRuleSettingStatusByUserId u) ∧
        (u = -1 → (Manager.construct s.table : Manager Want).getRunningRuleSettingStatusByUserId u = .NO_SET))
      (.construct []) calls := by
  have hstart : ListMode (Manager.construct [] : Manager Want) := by
    refine ⟨fun u r hr => absurd hr List.not_mem_nil, fun u _ => ?_⟩
    show ((generateRunningRuleSettingStatusMap [])[u]?).getD .NO_SET = _
    rw [generated_status]
    split <;> rfl
  have hrun : StepRun.Always (Manager.step view order wants) ListMode (.construct []) calls :=
    (StepRun.each_of_forall hcalls _).always (fun _ _ h hcall => h.step view order wants hcall) hstart
  intro pre hpre u
  have h := hrun pre hpre
  refine ⟨h.modeOfUser u, h.generated u, fun hu => ?_⟩
  show ((generateRunningRuleSettingStatusMap _)[u]?).getD .NO_SET = _
  rw [generated_status, if_pos hu]
  rfl

/-- Forbid two apps, and allow one of them again. -/
def forbidTwo : List (DbAnswers × Call Str) :=
  [(allOk 1 2, .addAppRunningControlRule EDM_CALLING [⟨['x'], [], false⟩, ⟨['y'], [], false⟩] 100),
   (allOk 2 0, .deleteAppRunningControlRule EDM_CALLING [⟨['x'], [], false⟩] 100)]

theorem listMode_survives_forbidTwo :
    StepRun.Always (Manager.step noBundles (insertionOrder AppControlRow.priority) textWants)
      (fun s => ∀ u, ModeOfUser s u ∧
        (u ≠ -1 → (Manager.construct s.table : Manager Str).getRunningRuleSettingStatusByUserId u =
          s.getRunningRuleSettingStatusByUserId u) ∧
        (u = -1 → (Manager.construct s.table : Manager Str).getRunningRuleSettingStatusByUserId u = .NO_SET))
      (.construct []) forbidTwo :=
  listMode_survives noBundles _ textWants forbidTwo (by
    intro call hcall
    rcases List.mem_cons.mp hcall with rfl | hcall
    · simp [IsEdmCall, allOk]
    · rw [List.mem_singleton.mp hcall]
      simp [IsEdmCall, allOk])

/-- A rule for the user -1. -/
def forbidForAll : List (DbAnswers × Call Str) :=
  [(allOk 1 1, .addAppRunningControlRule EDM_CALLING [⟨['x'], [], false⟩] (-1))]

/-- **The user -1**: memory says BLACK_LIST, a restart computes NO_SET. -/
theorem mode_of_minus_one_lost :
    (∀ call ∈ forbidForAll, IsEdmCall call) ∧
    ((Manager.construct []).run noBundles (insertionOrder AppControlRow.priority) textWants
      forbidForAll).getRunningRuleSettingStatusByUserId (-1) = .BLACK_LIST ∧
    (Manager.construct ((Manager.construct []).run noBundles (insertionOrder AppControlRow.priority) textWants
      forbidForAll).table : Manager Str).getRunningRuleSettingStatusByUserId (-1) = .NO_SET := by
  refine ⟨fun call hcall => ?_, by decide +kernel, by decide +kernel⟩
  rw [List.mem_singleton.mp hcall]
  simp [IsEdmCall, allOk]

end BundleFramework.AppControl
