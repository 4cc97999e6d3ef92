import BundleFramework.AppControl.Table
import BundleFramework.Lib.StepRun

/-!
# Jump-control rules

`app_jump_interceptor_manager_rdb.cpp`.  A rule says how one bundle may open another one;
adding a rule appends a row, and the query takes the row with the least modified time.
Against the last writer (`lastWrite`):

    every insert agrees with the rows of its triple
      → getAppJumpControlRule = last write, in every state            (runs_last_writer_wins)

Without the condition the oldest of several rows wins.
-/

namespace BundleFramework.AppControl

open RowTable

/-! ## Algorithm -/

/-- The enumeration, and the integers that a parcel can put in its place. -/
inductive AbilityJumpMode where
  | DIRECT
  | INTERCEPT
  | FORBID
  | unnamed (value : Int) (h : value < 0 ∨ 2 < value)
  deriving DecidableEq

def AbilityJumpMode.toInt : AbilityJumpMode → Int
  | .DIRECT => 0
  | .INTERCEPT => 1
  | .FORBID => 2
  | .unnamed value _ => value

def AbilityJumpMode.ofInt (value : Int) : AbilityJumpMode :=
  if h : value < 0 ∨ 2 < value then .unnamed value h
  else if value = 0 then .DIRECT
  else if value = 1 then .INTERCEPT
  else .FORBID

structure AppJumpControlRule where
  callerPkg : Str := []
  targetPkg : Str := []
  jumpMode : AbilityJumpMode := .DIRECT

structure JumpRow where
  callerPkg : Str
  targetPkg : Str
  selectStatus : Int
  userId : Int
  modifiedTime : Int

/-- The predicate of the query and of the delete by rule. -/
def JumpRow.isTriple (callerPkg targetPkg : Str) (userId : Int) (r : JumpRow) : Bool :=
  r.callerPkg = callerPkg ∧ r.targetPkg = targetPkg ∧ r.userId = userId

def jumpRow (time : Int) (userId : Int) (rule : AppJumpControlRule) : JumpRow where
  callerPkg := rule.callerPkg
  targetPkg := rule.targetPkg
  selectStatus := rule.jumpMode.toInt
  userId := userId
  modifiedTime := putInt time

def addAppJumpControlRule (a : DbAnswers) (controlRules : List AppJumpControlRule) (userId : Int)
    (t : List JumpRow) : ErrCode × List JumpRow :=
  match batchInsert a.batch (controlRules.map (jumpRow a.time userId)) t with
  | (false, _, t₁) => (.ERR_APPEXECFWK_DB_BATCH_INSERT_ERROR, t₁)
  | (true, insertNum, t₁) =>
    if controlRules.length ≠ insertNum then (.ERR_APPEXECFWK_DB_BATCH_INSERT_ERROR, t₁) else (.ERR_OK, t₁)

/-- The loop goes on after a delete that fails; `result` remembers it. -/
def deleteJumpRules (ok : Nat → Bool) (userId : Int) :
    Nat → List AppJumpControlRule → Bool → List JumpRow → Bool × List JumpRow
  | _, [], result, t => (result, t)
  | i, rule :: rules, result, t =>
    let deleted := deleteWhere (ok i) (JumpRow.isTriple rule.callerPkg rule.targetPkg userId) t
    deleteJumpRules ok userId (i + 1) rules (result && deleted.1) deleted.2

def deleteAppJumpControlRule (a : DbAnswers) (controlRules : List AppJumpControlRule) (userId : Int)
    (t : List JumpRow) : ErrCode × List JumpRow :=
  match deleteJumpRules a.deleteOk userId 0 controlRules true t with
  | (true, t₁) => (.ERR_OK, t₁)
  | (false, t₁) => (.ERR_APPEXECFWK_DB_DELETE_ERROR, t₁)

/-- What the delete returns is not looked at. -/
def confirmAppJumpControlRule (a : DbAnswers) (callerBundleName targetBundleName : Str) (userId : Int)
    (t : List JumpRow) : ErrCode × List JumpRow :=
  let controlRules : List AppJumpControlRule := [{ callerPkg := callerBundleName, targetPkg := targetBundleName }]
  addAppJumpControlRule a controlRules userId (deleteAppJumpControlRule a controlRules userId t).2

def deleteRuleByBundleName (a : DbAnswers) (p : JumpRow → Bool) (t : List JumpRow) : ErrCode × List JumpRow :=
  match deleteWhere (a.deleteOk 0) p t with
  | (true, t₁) => (.ERR_OK, t₁)
  | (false, t₁) => (.ERR_APPEXECFWK_DB_DELETE_ERROR, t₁)

def deleteRuleByCallerBundleName (a : DbAnswers) (callerBundleName : Str) (userId : Int) (t : List JumpRow) :
    ErrCode × List JumpRow :=
  deleteRuleByBundleName a (fun r => r.callerPkg = callerBundleName ∧ r.userId = userId) t

def deleteRuleByTargetBundleName (a : DbAnswers) (targetBundleName : Str) (userId : Int) (t : List JumpRow) :
    ErrCode × List JumpRow :=
  deleteRuleByBundleName a (fun r => r.targetPkg = targetBundleName ∧ r.userId = userId) t

def getAppJumpControlRule (order : OrderBy JumpRow.modifiedTime) (a : DbAnswers)
    (callerBundleName targetBundleName : Str) (userId : Int) (t : List JumpRow) : Except ErrCode AbilityJumpMode :=
  if a.queryOk 0 = false then .error .ERR_BUNDLE_MANAGER_APP_JUMP_INTERCEPTOR_INTERNAL_ERROR
  else match (order.sort (t.filter (JumpRow.isTriple callerBundleName targetBundleName userId))).head? with
    | none => .error .ERR_BUNDLE_MANAGER_BUNDLE_NOT_SET_JUMP_INTERCPTOR
    | some r => .ok (.ofInt r.selectStatus)

/-! ## Runs, and the last writer -/

inductive JumpOp where
  | add (controlRules : List AppJumpControlRule) (userId : Int)
  | delete (controlRules : List AppJumpControlRule) (userId : Int)
  | confirm (callerBundleName targetBundleName : Str) (userId : Int)
  | deleteByCaller (callerBundleName : Str) (userId : Int)
  | deleteByTarget (targetBundleName : Str) (userId : Int)

def jumpStep (t : List JumpRow) : DbAnswers × JumpOp → List JumpRow
  | (a, .add controlRules userId) => (addAppJumpControlRule a controlRules userId t).2
  | (a, .delete controlRules userId) => (deleteAppJumpControlRule a controlRules userId t).2
  | (a, .confirm callerBundleName targetBundleName userId) =>
    (confirmAppJumpControlRule a callerBundleName targetBundleName userId t).2
  | (a, .deleteByCaller callerBundleName userId) => (deleteRuleByCallerBundleName a callerBundleName userId t).2
  | (a, .deleteByTarget targetBundleName userId) => (deleteRuleByTargetBundleName a targetBundleName userId t).2

def jumpRun (t : List JumpRow) (ops : List (DbAnswers × JumpOp)) : List JumpRow := ops.foldl jumpStep t

/-- The rows that an insert leaves in the table. -/
def insertedRows (a : DbAnswers) (controlRules : List AppJumpControlRule) (userId : Int) : List JumpRow :=
  if a.batch.ok then (controlRules.map (jumpRow a.time userId)).take a.batch.inserted else []

/-- The last of the rules of one call that is about the triple. -/
def lastOf (callerPkg targetPkg : Str) (userId : Int) (rows : List JumpRow) : Option AbilityJumpMode :=
  ((rows.filter (JumpRow.isTriple callerPkg targetPkg userId)).getLast?).map fun r => .ofInt r.selectStatus

/-- Whether a delete by rule, numbered `i` on, removes the triple. -/
def removesTriple (ok : Nat → Bool) (callerPkg targetPkg : Str) : Nat → List AppJumpControlRule → Bool
  | _, [] => false
  | i, rule :: rules =>
    (ok i && decide (rule.callerPkg = callerPkg ∧ rule.targetPkg = targetPkg)) ||
      removesTriple ok callerPkg targetPkg (i + 1) rules

/-- What one call does to the mode last written for a triple: inserts that the store carries
out write it, deletes that it carries out remove it. -/
def lastWriteStep (callerPkg targetPkg : Str) (userId : Int) (last : Option AbilityJumpMode) :
    DbAnswers × JumpOp → Option AbilityJumpMode
  | (a, .add controlRules id) => lastOf callerPkg targetPkg userId (insertedRows a controlRules id) <|> last
  | (a, .delete controlRules id) =>
    if id = userId ∧ removesTriple a.deleteOk callerPkg targetPkg 0 controlRules then none else last
  | (a, .confirm caller target id) =>
    let kept := if id = userId ∧ caller = callerPkg ∧ target = targetPkg ∧ a.deleteOk 0 then none else last
    lastOf callerPkg targetPkg userId (insertedRows a [{ callerPkg := caller, targetPkg := target }] id) <|> kept
  | (a, .deleteByCaller caller id) => if caller = callerPkg ∧ id = userId ∧ a.deleteOk 0 then none else last
  | (a, .deleteByTarget target id) => if target = targetPkg ∧ id = userId ∧ a.deleteOk 0 then none else last

/-- The mode of the most recent add or confirm of the triple that no later delete removed. -/
def lastWrite (ops : List (DbAnswers × JumpOp)) (callerPkg targetPkg : Str) (userId : Int) :
    Option AbilityJumpMode :=
  ops.foldl (lastWriteStep callerPkg targetPkg userId) none

/-- The answer that the last writer calls for. -/
def answerOf : Option AbilityJumpMode → Except ErrCode AbilityJumpMode
  | none => .error .ERR_BUNDLE_MANAGER_BUNDLE_NOT_SET_JUMP_INTERCPTOR
  | some mode => .ok mode

/-- The calls read the clock in order. -/
def TimesAscend (ops : List (DbAnswers × JumpOp)) : Prop := (ops.map (·.1.time)).Pairwise (· ≤ ·)

/-- After every part of the run, every query answers with the last write. -/
def LastWriterWins (order : OrderBy JumpRow.modifiedTime) (ops : List (DbAnswers × JumpOp)) : Prop :=
  ∀ pre, pre <+: ops → ∀ (a : DbAnswers) callerPkg targetPkg userId, a.queryOk 0 = true →
    getAppJumpControlRule order a callerPkg targetPkg userId (jumpRun [] pre) =
      answerOf (lastWrite pre callerPkg targetPkg userId)

/-- Rows of one triple agree in their mode. -/
def Agree (t : List JumpRow) : Prop :=
  ∀ r ∈ t, ∀ r' ∈ t, r'.isTriple r.callerPkg r.targetPkg r.userId = true → r'.selectStatus = r.selectStatus

/-- The condition on a call: what it inserts has the mode of the rows of its triple that
stay in the table. -/
def InsertsAgree (t : List JumpRow) : DbAnswers × JumpOp → Prop
  | (a, .add controlRules userId) => Agree (t ++ insertedRows a controlRules userId)
  | (a, .confirm caller target userId) => a.deleteOk 0 = true ∨ a.batch.ok = false ∨
      ∀ r ∈ t, r.isTriple caller target userId = true → r.selectStatus = AbilityJumpMode.DIRECT.toInt
  | _ => True

/-! ## What one call does to the table -/

theorem AbilityJumpMode.ofInt_toInt (mode : AbilityJumpMode) : ofInt mode.toInt = mode := by
  cases mode with
  | unnamed value h => exact dif_pos h
  | _ => rfl

theorem JumpRow.isTriple_iff (callerPkg targetPkg : Str) (userId : Int) (r : JumpRow) :
    r.isTriple callerPkg targetPkg userId = true ↔
      r.callerPkg = callerPkg ∧ r.targetPkg = targetPkg ∧ r.userId = userId := by
  unfold JumpRow.isTriple
  rw [decide_eq_true_eq]

/-- Whether a call removes the rows of a triple. -/
def removesBy (callerPkg targetPkg : Str) (userId : Int) : DbAnswers × JumpOp → Bool
  | (_, .add _ _) => false
  | (a, .delete controlRules id) => decide (id = userId) && removesTriple a.deleteOk callerPkg targetPkg 0 controlRules
  | (a, .confirm caller target id) => decide (id = userId ∧ caller = callerPkg ∧ target = targetPkg) && a.deleteOk 0
  | (a, .deleteByCaller caller id) => decide (caller = callerPkg ∧ id = userId) && a.deleteOk 0
  | (a, .deleteByTarget target id) => decide (target = targetPkg ∧ id = userId) && a.deleteOk 0

/-- The rows that a call leaves in the table besides the old ones. -/
def rowsOf : DbAnswers × JumpOp → List JumpRow
  | (a, .add controlRules userId) => insertedRows a controlRules userId
  | (a, .confirm caller target userId) => insertedRows a [{ callerPkg := caller, targetPkg := target }] userId
  | _ => []

theorem addAppJumpControlRule_snd (a : DbAnswers) (controlRules : List AppJumpControlRule) (userId : Int)
    (t : List JumpRow) : (addAppJumpControlRule a controlRules userId t).2 = t ++ insertedRows a controlRules userId := by
  unfold addAppJumpControlRule insertedRows batchInsert
  by_cases h : a.batch.ok = true
  · simp only [h, if_true]
    split <;> rfl
  · simp [h]

theorem deleteJumpRules_snd (ok : Nat → Bool) (userId : Int) (i : Nat) (rules : List AppJumpControlRule)
    (result : Bool) (t : List JumpRow) :
    (deleteJumpRules ok userId i rules result t).2 =
      t.filter fun r => !(decide (userId = r.userId) && removesTriple ok r.callerPkg r.targetPkg i rules) := by
  induction rules generalizing i result t with
  | nil => simp [deleteJumpRules, removesTriple]
  | cons rule rules ih =>
    simp only [deleteJumpRules, ih, deleteWhere_snd, List.filter_filter, removesTriple]
    refine List.filter_congr fun r _ => ?_
    by_cases hu : userId = r.userId
    · simp [JumpRow.isTriple, hu, Bool.and_comm, eq_comm, and_comm]
    · simp [JumpRow.isTriple, hu, Ne.symm hu]

theorem deleteAppJumpControlRule_snd (a : DbAnswers) (controlRules : List AppJumpControlRule) (userId : Int)
    (t : List JumpRow) :
    (deleteAppJumpControlRule a controlRules userId t).2 = (deleteJumpRules a.deleteOk userId 0 controlRules true t).2 := by
  unfold deleteAppJumpControlRule
  split <;> simp_all

theorem deleteRuleByBundleName_snd (a : DbAnswers) (p : JumpRow → Bool) (t : List JumpRow) :
    (deleteRuleByBundleName a p t).2 = t.filter fun r => !(a.deleteOk 0 && p r) := by
  rw [← deleteWhere_snd]
  unfold deleteRuleByBundleName
  split <;> simp_all

/-- A call keeps the rows of the triples it does not remove, and appends. -/
theorem jumpStep_eq (t : List JumpRow) (op : DbAnswers × JumpOp) :
    jumpStep t op = (t.filter fun r => !removesBy r.callerPkg r.targetPkg r.userId op) ++ rowsOf op := by
  obtain ⟨a, op⟩ := op
  cases op with
  | add controlRules userId =>
    show (addAppJumpControlRule a controlRules userId t).2 = _
    rw [addAppJumpControlRule_snd]
    simp [removesBy, rowsOf]
  | delete controlRules userId =>
    show (deleteAppJumpControlRule a controlRules userId t).2 = _
    rw [deleteAppJumpControlRule_snd, deleteJumpRules_snd]
    simp [removesBy, rowsOf]
  | confirm caller target userId =>
    show (addAppJumpControlRule a _ userId (deleteAppJumpControlRule a _ userId t).2).2 = _
    rw [addAppJumpControlRule_snd, deleteAppJumpControlRule_snd, deleteJumpRules_snd]
    refine congrArg (· ++ _) (List.filter_congr fun r _ => ?_)
    by_cases hu : userId = r.userId
    · simp [removesBy, removesTriple, hu, Bool.and_comm]
    · simp [removesBy, removesTriple, hu]
  | deleteByCaller caller userId =>
    show (deleteRuleByBundleName a _ t).2 = _
    rw [deleteRuleByBundleName_snd]
    refine ((List.append_nil _).trans (List.filter_congr fun r _ => ?_)).symm
    simp [removesBy, Bool.and_comm, eq_comm]
  | deleteByTarget target userId =>
    show (deleteRuleByBundleName a _ t).2 = _
    rw [deleteRuleByBundleName_snd]
    refine ((List.append_nil _).trans (List.filter_congr fun r _ => ?_)).symm
    simp [removesBy, Bool.and_comm, eq_comm]

/-- The same for the last writer. -/
theorem lastWriteStep_eq (callerPkg targetPkg : Str) (userId : Int) (last : Option AbilityJumpMode)
    (op : DbAnswers × JumpOp) :
    lastWriteStep callerPkg targetPkg userId last op =
      (lastOf callerPkg targetPkg userId (rowsOf op) <|>
        if removesBy callerPkg targetPkg userId op then none else last) := by
  obtain ⟨a, op⟩ := op
  cases op with
  | add controlRules id => rfl
  | delete controlRules id => simp [lastWriteStep, rowsOf, lastOf, removesBy]
  | confirm caller target id => simp [lastWriteStep, rowsOf, removesBy, and_assoc]
  | deleteByCaller caller id => simp [lastWriteStep, rowsOf, lastOf, removesBy, and_assoc]
  | deleteByTarget target id => simp [lastWriteStep, rowsOf, lastOf, removesBy, and_assoc]

/-! ## Runs -/

theorem lastOf_append (callerPkg targetPkg : Str) (userId : Int) (t rows : List JumpRow) :
    lastOf callerPkg targetPkg userId (t ++ rows) =
      (lastOf callerPkg targetPkg userId rows <|> lastOf callerPkg targetPkg userId t) := by
  unfold lastOf
  rw [List.filter_append, List.getLast?_append]
  cases (rows.filter (JumpRow.isTriple callerPkg targetPkg userId)).getLast? <;> rfl

/-- Rows of the triple go together. -/
theorem lastOf_filter (callerPkg targetPkg : Str) (userId : Int) (t : List JumpRow) (keep : Str → Str → Int → Bool) :
    lastOf callerPkg targetPkg userId (t.filter fun r => keep r.callerPkg r.targetPkg r.userId) =
      if keep callerPkg targetPkg userId then lastOf callerPkg targetPkg userId t else none := by
  have h : (t.filter fun r => keep r.callerPkg r.targetPkg r.userId).filter
      (JumpRow.isTriple callerPkg targetPkg userId) =
      if keep callerPkg targetPkg userId then t.filter (JumpRow.isTriple callerPkg targetPkg userId) else [] := by
    rw [List.filter_filter]
    split
    · next hk =>
      refine List.filter_congr fun r _ => ?_
      cases hr : r.isTriple callerPkg targetPkg userId with
      | false => rfl
      | true =>
        obtain ⟨rfl, rfl, rfl⟩ := (JumpRow.isTriple_iff _ _ _ _).mp hr
        exact hk
    · next hk =>
      refine List.filter_eq_nil_iff.mpr fun r _ hr => ?_
      obtain ⟨hr, hkeep⟩ := Bool.and_eq_true_iff.mp hr
      obtain ⟨rfl, rfl, rfl⟩ := (JumpRow.isTriple_iff _ _ _ _).mp hr
      exact hk hkeep
  unfold lastOf
  rw [h]
  split <;> rfl

/-- **The last row is the last write**, whatever the run. -/
theorem lastWrite_eq_lastOf (ops : List (DbAnswers × JumpOp)) (callerPkg targetPkg : Str) (userId : Int) :
    lastWrite ops callerPkg targetPkg userId = lastOf callerPkg targetPkg userId (jumpRun [] ops) := by
  suffices h : ∀ (t : List JumpRow), ops.foldl (lastWriteStep callerPkg targetPkg userId)
      (lastOf callerPkg targetPkg userId t) = lastOf callerPkg targetPkg userId (jumpRun t ops) from h []
  induction ops with
  | nil => intro t; rfl
  | cons op ops ih =>
    intro t
    show ops.foldl _ (lastWriteStep callerPkg targetPkg userId _ op) = lastOf _ _ _ (jumpRun (jumpStep t op) ops)
    rw [← ih, lastWriteStep_eq, jumpStep_eq, lastOf_append,
      lastOf_filter _ _ _ t fun c g u => !removesBy c g u op]
    cases removesBy callerPkg targetPkg userId op <;> rfl

/-- **One call** that inserts what agrees keeps the rows in agreement. -/
theorem Agree.step {t : List JumpRow} (h : Agree t) {op : DbAnswers × JumpOp} (hop : InsertsAgree t op) :
    Agree (jumpStep t op) := by
  rw [jumpStep_eq]
  have hkept : Agree (t.filter fun r => !removesBy r.callerPkg r.targetPkg r.userId op) :=
    fun r hr r' hr' => h r (List.mem_of_mem_filter hr) r' (List.mem_of_mem_filter hr')
  obtain ⟨a, op⟩ := op
  cases op with
  | add controlRules userId => simpa [removesBy, rowsOf, InsertsAgree] using hop
  | delete controlRules userId => simpa [rowsOf] using hkept
  | deleteByCaller caller userId => simpa [rowsOf] using hkept
  | deleteByTarget target userId => simpa [rowsOf] using hkept
  | confirm caller target userId =>
    -- a row of the triple that is still there has the mode DIRECT
    have hold : ∀ r ∈ t, removesBy r.callerPkg r.targetPkg r.userId (a, .confirm caller target userId) = false →
        a.batch.ok = true → r.isTriple caller target userId = true → r.selectStatus = 0 := by
      intro r hr hkeep hb htriple
      obtain ⟨rfl, rfl, rfl⟩ := (JumpRow.isTriple_iff _ _ _ _).mp htriple
      rcases hop with hd | hb' | hall
      · simp [removesBy, hd] at hkeep
      · rw [hb] at hb'; cases hb'
      · exact hall r hr htriple
    have hnew : ∀ r ∈ rowsOf (a, .confirm caller target userId), a.batch.ok = true ∧
        r = jumpRow a.time userId { callerPkg := caller, targetPkg := target } := by
      intro r hr
      change r ∈ insertedRows a _ userId at hr
      unfold insertedRows at hr
      split at hr
      · next hb => exact ⟨hb, List.mem_singleton.mp (List.mem_of_mem_take hr)⟩
      · cases hr
    intro r hr r' hr' htriple
    rcases List.mem_append.mp hr with hr | hr <;> rcases List.mem_append.mp hr' with hr' | hr'
    · exact hkept r hr r' hr' htriple
    · obtain ⟨hb, rfl⟩ := hnew r' hr'
      obtain ⟨hrt, hrk⟩ := List.mem_filter.mp hr
      obtain ⟨h1, h2, h3⟩ := (JumpRow.isTriple_iff _ _ _ _).mp htriple
      exact (hold r hrt (by simpa using hrk) hb
        ((JumpRow.isTriple_iff _ _ _ _).mpr ⟨h1.symm, h2.symm, h3.symm⟩)).symm
    · obtain ⟨hb, rfl⟩ := hnew r hr
      obtain ⟨hrt, hrk⟩ := List.mem_filter.mp hr'
      exact hold r' hrt (by simpa using hrk) hb htriple
    · obtain ⟨-, rfl⟩ := hnew r hr
      obtain ⟨-, rfl⟩ := hnew r' hr'
      rfl

/-- Where rows of one triple agree, the oldest says what the newest says. -/
theorem getAppJumpControlRule_of_agree (order : OrderBy JumpRow.modifiedTime) {t : List JumpRow} (h : Agree t)
    (a : DbAnswers) (ha : a.queryOk 0 = true) (callerPkg targetPkg : Str) (userId : Int) :
    getAppJumpControlRule order a callerPkg targetPkg userId t = answerOf (lastOf callerPkg targetPkg userId t) := by
  unfold getAppJumpControlRule lastOf
  rw [if_neg (by simp [ha])]
  cases hlast : (t.filter (JumpRow.isTriple callerPkg targetPkg userId)).getLast? with
  | none =>
    rw [(order.head?_eq_none_iff _).mpr (List.getLast?_eq_none_iff.mp hlast)]
    rfl
  | some r =>
    obtain ⟨hr, htr⟩ := List.mem_filter.mp (List.mem_of_getLast? hlast)
    cases hhead : (order.sort (t.filter (JumpRow.isTriple callerPkg targetPkg userId))).head? with
    | none =>
      rw [order.head?_eq_none_iff] at hhead
      rw [hhead] at hlast
      cases hlast
    | some r' =>
      obtain ⟨hr', htr'⟩ := List.mem_filter.mp (order.mem_of_head? hhead)
      obtain ⟨rfl, rfl, rfl⟩ := (JumpRow.isTriple_iff _ _ _ _).mp htr
      show Except.ok _ = Except.ok _
      rw [h r hr r' hr' htr']

/-- **Last writer wins** in every run whose inserts agree with the rows they join. -/
theorem runs_last_writer_wins (order : OrderBy JumpRow.modifiedTime) (ops : List (DbAnswers × JumpOp))
    (hops : StepRun.Each jumpStep InsertsAgree [] ops) : LastWriterWins order ops := by
  intro pre hpre a callerPkg targetPkg userId ha
  have hagree : Agree (jumpRun [] pre) :=
    hops.always (fun _ _ h hop => h.step hop) (fun r hr => by cases hr) pre hpre
  rw [lastWrite_eq_lastOf]
  exact getAppJumpControlRule_of_agree order hagree a ha callerPkg targetPkg userId

/-- Add, delete, confirm, and add again in the mode that confirming wrote. -/
def agreeingRun : List (DbAnswers × JumpOp) :=
  [(allOk 1 1, .add [{ callerPkg := ['a'], targetPkg := ['b'], jumpMode := .FORBID }] 100),
   (allOk 2 1, .delete [{ callerPkg := ['a'], targetPkg := ['b'] }] 100),
   (allOk 3 1, .confirm ['a'] ['b'] 100),
   (allOk 4 1, .add [{ callerPkg := ['a'], targetPkg := ['b'] }] 100)]

theorem runs_last_writer_wins_agreeingRun :
    LastWriterWins (insertionOrder JumpRow.modifiedTime) agreeingRun :=
  runs_last_writer_wins _ agreeingRun (by
    refine ⟨?_, trivial, Or.inl rfl, ?_, trivial⟩
    · intro r hr r' hr' _
      simp_all [insertedRows, allOk, jumpRow]
    · intro r hr r' hr' _
      simp [jumpStep_eq, removesBy, removesTriple, rowsOf, insertedRows, allOk, jumpRow] at hr hr'
      rcases hr with rfl | rfl <;> rcases hr' with rfl | rfl <;> rfl)

/-- The same triple added in two modes, one after the other. -/
def twoAdds : List (DbAnswers × JumpOp) :=
  [(allOk 1 1, .add [{ callerPkg := ['a'], targetPkg := ['b'], jumpMode := .DIRECT }] 100),
   (allOk 2 1, .add [{ callerPkg := ['a'], targetPkg := ['b'], jumpMode := .FORBID }] 100)]

/-- **The oldest wins**: FORBID was added last, the query still answers DIRECT. -/
theorem older_jump_mode_wins :
    TimesAscend twoAdds ∧
    getAppJumpControlRule (insertionOrder JumpRow.modifiedTime) (allOk 3 0) ['a'] ['b'] 100 (jumpRun [] twoAdds) =
      .ok .DIRECT ∧
    lastWrite twoAdds ['a'] ['b'] 100 = some .FORBID ∧
    ¬ LastWriterWins (insertionOrder JumpRow.modifiedTime) twoAdds := by
  have h1 : getAppJumpControlRule (insertionOrder JumpRow.modifiedTime) (allOk 3 0) ['a'] ['b'] 100
      (jumpRun [] twoAdds) = .ok .DIRECT := by rfl
  have h2 : lastWrite twoAdds ['a'] ['b'] 100 = some .FORBID := by rfl
  refine ⟨by simp [TimesAscend, twoAdds, allOk], h1, h2, fun h => ?_⟩
  have := h twoAdds (List.prefix_refl _) (allOk 3 0) ['a'] ['b'] 100 rfl
  rw [h1, h2] at this
  cases this

end BundleFramework.AppControl
