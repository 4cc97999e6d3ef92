import BundleFramework.QuickFix.Patch

/-!
# Switching and deleting a patch

`QuickFixSwitcher` makes the deployed patch the active one, or takes the active one away;
`QuickFixDeleter` removes the directories of the patches a row holds.  Each call that can
fail has its answer among the answers of the operation.  An operation gives its error code
and its effects.
-/

namespace BundleFramework.QuickFix

/-! ## The status of a row -/

/-- The table of `InitStatesMap`. -/
def statesMap : List (QuickFixStatus × QuickFixStatus) :=
  [(.deployStart, .deployEnd),
   (.deployStart, .deleteStart),
   (.deployEnd, .switchEnableStart),
   (.deployEnd, .switchDisableStart),
   (.deployEnd, .deleteStart),
   (.switchEnableStart, .switchEnd),
   (.switchEnableStart, .switchEnableStart),
   (.switchDisableStart, .switchEnd),
   (.switchDisableStart, .switchDisableStart),
   (.switchEnableStart, .deployEnd),
   (.switchDisableStart, .deployEnd),
   (.switchEnd, .deleteStart),
   (.deleteStart, .switchEnd),
   (.deleteStart, .deleteStart),
   (.deleteStart, .deleteEnd)]

def isNextStatusExisted (curStatus nextStatus : QuickFixStatus) : Bool := statesMap.contains (curStatus, nextStatus)

/-- The checks of `UpdateQuickFixStatus`: whether the status may be set. -/
def nextStatusAllowed (curStatus nextStatus : QuickFixStatus) : Bool :=
  if nextStatus = .deleteStart ∧ (curStatus = .defaultStatus ∨ curStatus = .deleteEnd) then true
  else if curStatus = .defaultStatus ∨ nextStatus = .defaultStatus then false
  else isNextStatusExisted curStatus nextStatus

/-- `UpdateQuickFixStatus`: its answer, the row as the caller then holds it, and the row saved. -/
def updateQuickFixStatus (nextStatus : QuickFixStatus) (inner : InnerAppQuickFix) (saved : Bool) :
    Bool × InnerAppQuickFix × List Effect :=
  if nextStatusAllowed inner.status nextStatus then
    let inner' := inner.setQuickFixMark nextStatus
    (saved, inner', if saved then [.saveRow inner'] else [])
  else (false, inner, [])

/-! ## QuickFixSwitcher -/

/-- The answers a switch gets: from the two queries of the row, the save of the start status,
the query of the bundle info, the deletion or the save of the old row, the update of the
bundle info, and the write of the rollback guard. -/
structure SwitchAnswers where
  query : Bool := true
  saveStart : Bool := true
  fetch : Bool := true
  queryAgain : Bool := true
  deleteRow : Bool := true
  saveEnd : Bool := true
  updateBundle : Bool := true
  rollback : Bool := true
  deriving DecidableEq, Repr

/-- `CreateInnerAppqf`: the row that holds the patch to be deleted later. -/
def createInnerAppqf (queried : Option InnerAppQuickFix) (bundle : AppQuickFix) (enable : Bool) :
    Except QuickFixErr InnerAppQuickFix :=
  let appQf := (queried.getD {}).appQuickFix
  if queried.isSome ∧ appQf.deployedAppqfInfo.hqfInfos ≠ [] then .error .oldPatchOrHotReloadInDb
  else .ok {
    appQuickFix := {
      deployedAppqfInfo := bundle.deployedAppqfInfo
      deployingAppqfInfo := if !enable && queried.isSome then appQf.deployingAppqfInfo else {} }
    status := if enable then .switchEnableStart else .switchDisableStart }

/-- Step 8 of `InnerSwitchQuickFix`: an old row without a patch is deleted, and the answer of
the deletion is not looked at. -/
def saveOldRow (answers : SwitchAnswers) (old : InnerAppQuickFix) : Bool × List Effect :=
  if old.appQuickFix.deployedAppqfInfo.hqfInfos = [] ∧ old.appQuickFix.deployingAppqfInfo.hqfInfos = [] then
    (true, if answers.deleteRow then [.deleteRow] else [])
  else
    let updated := updateQuickFixStatus .switchEnd old answers.saveEnd
    (updated.1, updated.2.2)

/-- Both overloads of `InnerSwitchQuickFix`: `st` is the store after the start status was saved. -/
def innerSwitchQuickFix (enable : Bool) (answers : SwitchAnswers) (inner : InnerAppQuickFix) (st : Store) :
    Option QuickFixErr × List Effect :=
  if !answers.fetch then (some .notExistedBundleInfo, [])
  else if enable = false ∧ st.bundle.deployedAppqfInfo.hqfInfos = [] then (some .noPatchInfoInBundleInfo, [])
  else
    match createInnerAppqf (st.queryInnerAppQuickFix answers.queryAgain) st.bundle enable with
    | .error err => (some err, [])
    | .ok old =>
      let newAppQuickFix : AppQuickFix :=
        { deployedAppqfInfo := inner.appQuickFix.deployedAppqfInfo
          deployingAppqfInfo := if enable then {} else st.bundle.deployingAppqfInfo }
      match saveOldRow answers old with
      | (false, es) => (some .invalidPatchStatus, es)
      | (true, es) =>
        if answers.updateBundle then (none, es ++ [.saveBundle newAppQuickFix]) else (some .internalError, es)

def enableQuickFix (bundleName : Str) (answers : SwitchAnswers) (st : Store) : Option QuickFixErr × List Effect :=
  if bundleName = [] then (some .paramError, [])
  else
    match st.queryInnerAppQuickFix answers.query with
    | none => (some .noPatchInDatabase, [])
    | some row =>
      match updateQuickFixStatus .switchEnableStart row answers.saveStart with
      | (false, _, es) => (some .invalidPatchStatus, es)
      | (true, inner, es) =>
        match innerSwitchQuickFix true answers inner.switchQuickFix (st.run es) with
        | (none, es') => (none, es ++ es')
        | (some err, es') =>
          -- the guard switches back and rolls the row back
          (some err, es ++ es' ++ (updateQuickFixStatus .deployEnd inner.switchQuickFix.switchQuickFix
            answers.rollback).2.2)

/-- The temporary row of a bundle without one. -/
def temporaryRow : InnerAppQuickFix := { status := .deployEnd }

def disableQuickFix (bundleName : Str) (answers : SwitchAnswers) (st : Store) : Option QuickFixErr × List Effect :=
  if bundleName = [] then (some .paramError, [])
  else
    let queried := st.queryInnerAppQuickFix answers.query
    match updateQuickFixStatus .switchDisableStart (queried.getD temporaryRow) answers.saveStart with
    | (false, _, es) => (some .invalidPatchStatus, es)
    | (true, inner, es) =>
      match innerSwitchQuickFix false answers inner (st.run es) with
      | (none, es') => (none, es ++ es')
      | (some err, es') =>
        (some err, es ++ es' ++
          if queried.isSome then (updateQuickFixStatus .deployEnd inner answers.rollback).2.2
          else if answers.rollback then [.deleteRow] else [])

/-! ## QuickFixDeleter -/

structure DeleteAnswers where
  query : Bool := true
  saveStart : Bool := true
  removeDeployed : Bool := true
  removeDeploying : Bool := true
  fetch : Bool := true
  updateBundle : Bool := true
  deleteRow : Bool := true
  rollback : Bool := true
  deriving DecidableEq, Repr

/-- The directory `InnerDeletePatchDir` removes, below the bundle's code directory; of a patch
whose native library path starts with `patch/` it is the directory of all target paths. -/
def deletedDir (info : AppqfInfo) : Option Str :=
  match info.type with
  | .unknown => none
  | .patch =>
    if info.nativeLibraryPath.takeWhile (· != '/') = PATCH_DIR then some PATCH_DIR
    else some (patchVersionDir info.versionCode)
  | .hotReload => some (hotReloadVersionDir info.versionCode)

def innerDeletePatchDir (bundleName : Str) (info : AppqfInfo) (removed : Bool) : Option QuickFixErr × List Effect :=
  if info.hqfInfos = [] then (none, [])
  else
    match deletedDir info with
    | none => (some .unknownQuickFixType, [])
    | some dir => (if removed then none else some .removePatchPathFailed, [.removeDir (underBase bundleName dir)])

def toDeletePatchDir (bundleName : Str) (answers : DeleteAnswers) (inner : InnerAppQuickFix) :
    Option QuickFixErr × List Effect :=
  match innerDeletePatchDir bundleName inner.appQuickFix.deployedAppqfInfo answers.removeDeployed with
  | (some err, es) => (some err, es)
  | (none, es) =>
    match innerDeletePatchDir bundleName inner.appQuickFix.deployingAppqfInfo answers.removeDeploying with
    | (err, es') => (err, es ++ es')

def removeDeployingInfo (answers : DeleteAnswers) (bundle : AppQuickFix) : Option QuickFixErr × List Effect :=
  if !answers.fetch then (none, [])
  else if bundle.deployingAppqfInfo.hqfInfos = [] then (none, [])
  else if answers.updateBundle then (none, [.saveBundle { bundle with deployingAppqfInfo := {} }])
  else (some .internalError, [])

def deleteQuickFix (bundleName : Str) (answers : DeleteAnswers) (st : Store) : Option QuickFixErr × List Effect :=
  if bundleName = [] then (some .paramError, [])
  else
    match st.queryInnerAppQuickFix answers.query with
    | none => (none, [])
    | some row =>
      match updateQuickFixStatus .deleteStart row answers.saveStart with
      | (false, _, es) => (some .invalidPatchStatus, es)
      | (true, inner, es) =>
        let rollback := (updateQuickFixStatus .switchEnd inner answers.rollback).2.2
        match toDeletePatchDir bundleName answers inner with
        | (some err, es₁) => (some err, es ++ es₁ ++ rollback)
        | (none, es₁) =>
          match removeDeployingInfo answers st.bundle with
          | (some err, es₂) => (some err, es ++ es₁ ++ es₂ ++ rollback)
          | (none, es₂) =>
            if answers.deleteRow then (none, es ++ es₁ ++ es₂ ++ [.deleteRow])
            else (some .internalError, es ++ es₁ ++ es₂ ++ rollback)

/-! ## What a switch does -/

/-- The effect is a write of the row. -/
def Effect.OnRow (e : Effect) : Prop := e = .deleteRow ∨ ∃ row, e = .saveRow row

/-- A write of the row while patches are switched: it is deleted, or left with a patch to delete. -/
def Effect.SwitchesOut (e : Effect) : Prop := e = .deleteRow ∨ ∃ row, row.status = .switchEnd ∧ e = .saveRow row

theorem Effect.SwitchesOut.onRow {e : Effect} (h : e.SwitchesOut) : e.OnRow := h.imp_right fun ⟨row, _, he⟩ => ⟨row, he⟩

theorem updateQuickFixStatus_effect {next : QuickFixStatus} {inner : InnerAppQuickFix} {saved : Bool} {e : Effect}
    (he : e ∈ (updateQuickFixStatus next inner saved).2.2) : e = .saveRow (inner.setQuickFixMark next) := by
  unfold updateQuickFixStatus at he
  split at he
  · cases saved
    · simp at he
    · simpa using he
  · simp at he

theorem saveOldRow_switchesOut (answers : SwitchAnswers) (old : InnerAppQuickFix) :
    ∀ e ∈ (saveOldRow answers old).2, e.SwitchesOut := by
  intro e he
  unfold saveOldRow at he
  split at he
  · cases h : answers.deleteRow
    · simp [h] at he
    · exact .inl (by simpa [h] using he)
  · exact .inr ⟨_, rfl, updateQuickFixStatus_effect he⟩

theorem Store.run_bundle_of_onRow {es : List Effect} (h : ∀ e ∈ es, e.OnRow) (st : Store) :
    (st.run es).bundle = st.bundle := by
  induction es generalizing st with
  | nil => rfl
  | cons e es ih =>
    rw [Store.run_cons, ih (fun e he => h e (List.mem_cons_of_mem _ he))]
    obtain rfl | ⟨row, rfl⟩ := h e List.mem_cons_self <;> rfl

/-- A switch that fails has written no more than the row; one that succeeds has saved the old
row and then the bundle info. -/
theorem innerSwitchQuickFix_cases (enable : Bool) (answers : SwitchAnswers) (inner : InnerAppQuickFix) (st : Store) :
    (∃ err es, (∀ e ∈ es, e.SwitchesOut) ∧ innerSwitchQuickFix enable answers inner st = (some err, es)) ∨
    (∃ old es, createInnerAppqf (st.queryInnerAppQuickFix answers.queryAgain) st.bundle enable = .ok old ∧
      saveOldRow answers old = (true, es) ∧ (enable = false → st.active.hqfInfos ≠ []) ∧
      innerSwitchQuickFix enable answers inner st = (none, es ++ [.saveBundle
        { deployedAppqfInfo := inner.appQuickFix.deployedAppqfInfo
          deployingAppqfInfo := if enable then {} else st.bundle.deployingAppqfInfo }])) := by
  unfold innerSwitchQuickFix
  split
  · exact .inl ⟨_, [], by simp, rfl⟩
  split
  · exact .inl ⟨_, [], by simp, rfl⟩
  next hactive =>
    cases hold : createInnerAppqf (st.queryInnerAppQuickFix answers.queryAgain) st.bundle enable with
    | error err => exact .inl ⟨_, [], by simp, rfl⟩
    | ok old =>
      have hout := saveOldRow_switchesOut answers old
      rcases hsaved : saveOldRow answers old with ⟨saved, es⟩
      rw [hsaved] at hout
      cases saved with
      | false => exact .inl ⟨.invalidPatchStatus, es, hout, by simp only [hsaved]⟩
      | true =>
        cases hupdate : answers.updateBundle with
        | false => exact .inl ⟨.internalError, es, hout, by simp [hsaved]⟩
        | true =>
          refine .inr ⟨old, es, rfl, hsaved, fun henable hempty => hactive ⟨henable, hempty⟩, ?_⟩
          simp [hsaved]

/-- The row that holds the patch switched out. -/
def switchedOutRow (active deploying : AppqfInfo) : InnerAppQuickFix where
  appQuickFix := { deployedAppqfInfo := active, deployingAppqfInfo := deploying }
  status := .switchEnd

/-- What enabling writes for the patch switched out. -/
def switchedOut (answers : SwitchAnswers) (active : AppqfInfo) : List Effect :=
  if active.hqfInfos = [] then if answers.deleteRow then [.deleteRow] else []
  else [.saveRow (switchedOutRow active {})]

/-- The writes of a switch that succeeds. -/
def enabledEffects (answers : SwitchAnswers) (row : InnerAppQuickFix) (active : AppqfInfo) : List Effect :=
  .saveRow (row.setQuickFixMark .switchEnableStart) :: (switchedOut answers active ++
    [.saveBundle { deployedAppqfInfo := row.appQuickFix.deployingAppqfInfo }])

theorem updateQuickFixStatus_eq_true {next : QuickFixStatus} {inner inner' : InnerAppQuickFix} {saved : Bool}
    {es : List Effect} (h : updateQuickFixStatus next inner saved = (true, inner', es)) :
    nextStatusAllowed inner.status next = true ∧ inner' = inner.setQuickFixMark next ∧ es = [.saveRow inner'] := by
  unfold updateQuickFixStatus at h
  split at h
  next hallowed =>
    obtain ⟨rfl, h⟩ := Prod.mk.inj h
    obtain ⟨rfl, rfl⟩ := Prod.mk.inj h
    exact ⟨hallowed, rfl, rfl⟩
  · simp at h

theorem updateQuickFixStatus_eq_false {next : QuickFixStatus} {inner inner' : InnerAppQuickFix} {saved : Bool}
    {es : List Effect} (h : updateQuickFixStatus next inner saved = (false, inner', es)) : es = [] := by
  unfold updateQuickFixStatus at h
  split at h
  · obtain ⟨rfl, h⟩ := Prod.mk.inj h
    exact (Prod.mk.inj h).2.symm
  · exact (Prod.mk.inj (Prod.mk.inj h).2).2.symm

theorem updateQuickFixStatus_saved {next : QuickFixStatus} {inner : InnerAppQuickFix}
    (h : nextStatusAllowed inner.status next = true) :
    updateQuickFixStatus next inner true = (true, inner.setQuickFixMark next, [.saveRow (inner.setQuickFixMark next)]) := by
  unfold updateQuickFixStatus
  rw [if_pos h]
  rfl

theorem createInnerAppqf_ok {queried : Option InnerAppQuickFix} {bundle : AppQuickFix} {enable : Bool}
    {old : InnerAppQuickFix} (h : createInnerAppqf queried bundle enable = .ok old) :
    ∃ deploying, (enable = true → deploying = {}) ∧
      old = { appQuickFix := { deployedAppqfInfo := bundle.deployedAppqfInfo, deployingAppqfInfo := deploying }
              status := if enable then .switchEnableStart else .switchDisableStart } := by
  simp only [createInnerAppqf] at h
  split at h
  · cases h
  · refine ⟨_, ?_, (Except.ok.inj h).symm⟩
    rintro rfl
    rfl

theorem saveOldRow_save {answers : SwitchAnswers} {old : InnerAppQuickFix} {es : List Effect}
    (hpatch : old.appQuickFix.deployedAppqfInfo.hqfInfos ≠ []) (h : saveOldRow answers old = (true, es)) :
    es = [.saveRow (old.setQuickFixMark .switchEnd)] := by
  rw [saveOldRow, if_neg (fun hboth => hpatch hboth.1)] at h
  rcases hupdate : updateQuickFixStatus .switchEnd old answers.saveEnd with ⟨saved, row, es'⟩
  rw [hupdate] at h
  obtain ⟨rfl, rfl⟩ := Prod.mk.inj h
  obtain ⟨-, rfl, rfl⟩ := updateQuickFixStatus_eq_true hupdate
  rfl

theorem saveOldRow_enable {answers : SwitchAnswers} {active : AppqfInfo} {es : List Effect}
    (h : saveOldRow answers { appQuickFix := { deployedAppqfInfo := active }, status := .switchEnableStart } =
      (true, es)) :
    es = switchedOut answers active := by
  unfold switchedOut
  by_cases hempty : active.hqfInfos = []
  · rw [saveOldRow, if_pos ⟨hempty, rfl⟩] at h
    rw [if_pos hempty]
    exact (Prod.mk.inj h).2.symm
  · rw [if_neg hempty]
    exact saveOldRow_save hempty h

theorem updateQuickFixStatus_rollback {inner : InnerAppQuickFix} {next : QuickFixStatus} (saved : Bool)
    (h : nextStatusAllowed inner.status next = true) :
    (updateQuickFixStatus next inner saved).2.2 = if saved then [.saveRow (inner.setQuickFixMark next)] else [] := by
  unfold updateQuickFixStatus
  rw [if_pos h]

/-- **Enabling**: nothing is written; or the switch fails and the row is rolled back; or the
patch of the row becomes the active one. -/
theorem enableQuickFix_cases (bundleName : Str) (answers : SwitchAnswers) (st : Store) :
    (∃ err, enableQuickFix bundleName answers st = (some err, [])) ∨
    ∃ row, st.queryInnerAppQuickFix answers.query = some row ∧
      nextStatusAllowed row.status .switchEnableStart = true ∧
      ((∃ err mid, (∀ e ∈ mid, e.SwitchesOut) ∧ enableQuickFix bundleName answers st =
          (some err, .saveRow (row.setQuickFixMark .switchEnableStart) :: (mid ++
            if answers.rollback then [.saveRow (row.setQuickFixMark .deployEnd)] else []))) ∨
        enableQuickFix bundleName answers st = (none, enabledEffects answers row st.active)) := by
  unfold enableQuickFix
  split
  · exact .inl ⟨_, rfl⟩
  cases hrow : st.queryInnerAppQuickFix answers.query with
  | none => exact .inl ⟨_, rfl⟩
  | some row =>
    rcases hstart : updateQuickFixStatus .switchEnableStart row answers.saveStart with ⟨ok, inner, es⟩
    cases ok with
    | false =>
      obtain rfl := updateQuickFixStatus_eq_false hstart
      exact .inl ⟨.invalidPatchStatus, by simp only [hstart]⟩
    | true =>
      obtain ⟨hallowed, rfl, rfl⟩ := updateQuickFixStatus_eq_true hstart
      refine .inr ⟨row, rfl, hallowed, ?_⟩
      let start := row.setQuickFixMark .switchEnableStart
      have hback : (updateQuickFixStatus .deployEnd start answers.rollback).2.2 = _ :=
        updateQuickFixStatus_rollback answers.rollback rfl
      obtain ⟨err, mid, hmid, hinner⟩ | ⟨old, es, hold, hsaved, -, hinner⟩ := innerSwitchQuickFix_cases true answers
        start.switchQuickFix (st.run [.saveRow start])
      · refine .inl ⟨err, mid, hmid, ?_⟩
        simp only [hstart, start] at hinner ⊢
        rw [hinner, InnerAppQuickFix.switchQuickFix_switchQuickFix, hback]
        rfl
      · refine .inr ?_
        obtain ⟨deploying, hdeploying, rfl⟩ := createInnerAppqf_ok hold
        obtain rfl := hdeploying rfl
        obtain rfl := saveOldRow_enable hsaved
        simp only [hstart, start] at hinner ⊢
        rw [hinner]
        rfl

/-- The row `DisableQuickFix` works with. -/
def disabledRow (st : Store) (answers : SwitchAnswers) : InnerAppQuickFix :=
  (st.queryInnerAppQuickFix answers.query).getD temporaryRow

/-- **Disabling**: nothing is written; or the switch fails and the guard takes the row back;
or the active patch goes to the row. -/
theorem disableQuickFix_cases (bundleName : Str) (answers : SwitchAnswers) (st : Store) :
    (∃ err, disableQuickFix bundleName answers st = (some err, [])) ∨
    nextStatusAllowed (disabledRow st answers).status .switchDisableStart = true ∧
      ((∃ err mid, (∀ e ∈ mid, e.SwitchesOut) ∧ disableQuickFix bundleName answers st =
          (some err, .saveRow ((disabledRow st answers).setQuickFixMark .switchDisableStart) :: (mid ++
            if answers.rollback then
              [(st.queryInnerAppQuickFix answers.query).elim .deleteRow
                fun row => .saveRow (row.setQuickFixMark .deployEnd)]
            else []))) ∨
        ∃ deploying, disableQuickFix bundleName answers st =
          (none, [.saveRow ((disabledRow st answers).setQuickFixMark .switchDisableStart),
            .saveRow (switchedOutRow st.active deploying),
            .saveBundle { deployedAppqfInfo := (disabledRow st answers).appQuickFix.deployedAppqfInfo
                          deployingAppqfInfo := st.bundle.deployingAppqfInfo }])) := by
  unfold disableQuickFix
  split
  · exact .inl ⟨_, rfl⟩
  rcases hstart : updateQuickFixStatus .switchDisableStart (disabledRow st answers) answers.saveStart with ⟨ok, inner, es⟩
  have hstart' := hstart
  unfold disabledRow at hstart'
  simp only [hstart']
  cases ok with
  | false =>
    obtain rfl := updateQuickFixStatus_eq_false hstart
    exact .inl ⟨.invalidPatchStatus, rfl⟩
  | true =>
    obtain ⟨hallowed, rfl, rfl⟩ := updateQuickFixStatus_eq_true hstart
    refine .inr ⟨hallowed, ?_⟩
    let start := (disabledRow st answers).setQuickFixMark .switchDisableStart
    obtain ⟨err, mid, hmid, hinner⟩ | ⟨old, es, hold, hsaved, hactive, hinner⟩ := innerSwitchQuickFix_cases false
      answers start (st.run [.saveRow start])
    · refine .inl ⟨err, mid, hmid, ?_⟩
      simp only [start] at hinner ⊢
      rw [hinner]
      cases hrow : st.queryInnerAppQuickFix answers.query with
      | none => rfl
      | some row =>
        simp only [disabledRow, hrow, Option.getD_some, Option.isSome_some, if_true, Option.elim_some]
        rw [updateQuickFixStatus_rollback answers.rollback rfl]
        rfl
    · refine .inr ?_
      obtain ⟨deploying, -, rfl⟩ := createInnerAppqf_ok hold
      obtain rfl := saveOldRow_save (hactive rfl) hsaved
      refine ⟨deploying, ?_⟩
      simp only [start] at hinner ⊢
      rw [hinner]
      rfl

/-! ## What a deletion does -/

theorem innerDeletePatchDir_effect {bundleName : Str} {info : AppqfInfo} {removed : Bool} {e : Effect}
    (he : e ∈ (innerDeletePatchDir bundleName info removed).2) :
    info.hqfInfos ≠ [] ∧ ∃ dir, deletedDir info = some dir ∧ e = .removeDir (underBase bundleName dir) := by
  unfold innerDeletePatchDir at he
  split at he
  · simp at he
  next hpatch =>
    cases hdir : deletedDir info with
    | none => simp [hdir] at he
    | some dir => exact ⟨hpatch, dir, rfl, by simpa [hdir] using he⟩

/-- A patch of the row. -/
def InnerAppQuickFix.Holds (row : InnerAppQuickFix) (info : AppqfInfo) : Prop :=
  info = row.appQuickFix.deployedAppqfInfo ∨ info = row.appQuickFix.deployingAppqfInfo

theorem toDeletePatchDir_effect {bundleName : Str} {answers : DeleteAnswers} {inner : InnerAppQuickFix} {e : Effect}
    (he : e ∈ (toDeletePatchDir bundleName answers inner).2) :
    ∃ info, inner.Holds info ∧ info.hqfInfos ≠ [] ∧
      ∃ dir, deletedDir info = some dir ∧ e = .removeDir (underBase bundleName dir) := by
  unfold toDeletePatchDir at he
  rcases hdeployed : innerDeletePatchDir bundleName inner.appQuickFix.deployedAppqfInfo answers.removeDeployed
    with ⟨err, es⟩
  have hfirst : e ∈ es → _ := fun h =>
    (⟨_, .inl rfl, innerDeletePatchDir_effect (by rw [hdeployed]; exact h)⟩ :
      ∃ info, inner.Holds info ∧ info.hqfInfos ≠ [] ∧
        ∃ dir, deletedDir info = some dir ∧ e = .removeDir (underBase bundleName dir))
  rw [hdeployed] at he
  cases err with
  | some err => exact hfirst he
  | none =>
    rcases List.mem_append.mp he with he | he
    · exact hfirst he
    · exact ⟨_, .inr rfl, innerDeletePatchDir_effect he⟩

theorem removeDeployingInfo_effect {answers : DeleteAnswers} {bundle : AppQuickFix} {e : Effect}
    (he : e ∈ (removeDeployingInfo answers bundle).2) : e = .saveBundle { bundle with deployingAppqfInfo := {} } := by
  unfold removeDeployingInfo at he
  split at he
  · simp at he
  split at he
  · simp at he
  split at he
  · simpa using he
  · simp at he

/-- The effects of a deletion, by the part that has them. -/
theorem mem_deleteQuickFix {bundleName : Str} {answers : DeleteAnswers} {st : Store} {e : Effect}
    (he : e ∈ (deleteQuickFix bundleName answers st).2) :
    ∃ row, st.queryInnerAppQuickFix answers.query = some row ∧ nextStatusAllowed row.status .deleteStart = true ∧
      (e = .saveRow (row.setQuickFixMark .deleteStart) ∨
        e ∈ (toDeletePatchDir bundleName answers (row.setQuickFixMark .deleteStart)).2 ∨
        e ∈ (removeDeployingInfo answers st.bundle).2 ∨
        e ∈ (updateQuickFixStatus .switchEnd (row.setQuickFixMark .deleteStart) answers.rollback).2.2 ∨
        e = .deleteRow) := by
  unfold deleteQuickFix at he
  split at he
  · simp at he
  cases hrow : st.queryInnerAppQuickFix answers.query with
  | none => simp [hrow] at he
  | some row =>
    rcases hstart : updateQuickFixStatus .deleteStart row answers.saveStart with ⟨ok, inner, es⟩
    simp only [hrow, hstart] at he
    cases ok with
    | false =>
      obtain rfl := updateQuickFixStatus_eq_false hstart
      simp at he
    | true =>
      obtain ⟨hallowed, rfl, rfl⟩ := updateQuickFixStatus_eq_true hstart
      refine ⟨row, rfl, hallowed, ?_⟩
      dsimp only at he
      -- one branch for each part that can fail; the parts before it have had their effects
      rcases htodelete : toDeletePatchDir bundleName answers (row.setQuickFixMark .deleteStart) with ⟨_ | err₁, es₁⟩
      · rcases hdeploying : removeDeployingInfo answers st.bundle with ⟨_ | err₂, es₂⟩
        · rw [htodelete, hdeploying] at he
          dsimp only at he
          split at he
          · simp only [List.mem_append, List.mem_singleton] at he
            tauto
          · simp only [List.mem_append, List.mem_singleton] at he
            tauto
        · rw [htodelete, hdeploying] at he
          simp only [List.mem_append, List.mem_singleton] at he
          tauto
      · rw [htodelete] at he
        simp only [List.mem_append, List.mem_singleton] at he
        tauto

/-- **Deleting**: the status of the row, the directories of its patches, the deploying patch of
the bundle info and the row itself. -/
theorem deleteQuickFix_effect {bundleName : Str} {answers : DeleteAnswers} {st : Store} {e : Effect}
    (he : e ∈ (deleteQuickFix bundleName answers st).2) :
    ∃ row, st.queryInnerAppQuickFix answers.query = some row ∧ nextStatusAllowed row.status .deleteStart = true ∧
      (e = .saveRow (row.setQuickFixMark .deleteStart) ∨ e = .saveRow (row.setQuickFixMark .switchEnd) ∨
        e = .deleteRow ∨ e = .saveBundle { st.bundle with deployingAppqfInfo := {} } ∨
        ∃ info, row.Holds info ∧ info.hqfInfos ≠ [] ∧
          ∃ dir, deletedDir info = some dir ∧ e = .removeDir (underBase bundleName dir)) := by
  obtain ⟨row, hrow, hallowed, hmem⟩ := mem_deleteQuickFix he
  refine ⟨row, hrow, hallowed, ?_⟩
  rcases hmem with h | h | h | h | h
  · exact .inl h
  · exact .inr (.inr (.inr (.inr (toDeletePatchDir_effect h))))
  · exact .inr (.inr (.inr (.inl (removeDeployingInfo_effect h))))
  · rw [updateQuickFixStatus_rollback answers.rollback rfl] at h
    split at h
    · exact .inr (.inl (List.mem_singleton.mp h))
    · exact absurd h List.not_mem_nil
  · exact .inr (.inr (.inl h))

end BundleFramework.QuickFix
