import BundleFramework.QuickFix.Rollback

/-!
# Where the patches are after a switch

Enabling moves the deploying patch of the row into the bundle info, and the active patch of the
bundle info into the row; disabling moves the active patch into the row.  A row without a patch
is deleted, and the answer of the deletion is not looked at: where it fails, the patch that has
just become active stays in the row, too.

The queries of the row are answered; the two of an operation are made before and after the start
status is saved.
-/

namespace BundleFramework.QuickFix

/-- The queries find the row if there is one. -/
structure ReadsRow (answers : SwitchAnswers) (st : Store) : Prop where
  first : FindsRow answers.query st
  second : answers.queryAgain = true

/-! ## Slots -/

def Store.deployedSlot (st : Store) : AppqfInfo := (st.row.getD {}).appQuickFix.deployedAppqfInfo

def Store.deployingSlot (st : Store) : AppqfInfo := (st.row.getD {}).appQuickFix.deployingAppqfInfo

/-- The patches in the active slot and in the two slots of the row. -/
def Store.patches (st : Store) : List AppqfInfo :=
  [st.active, st.deployedSlot, st.deployingSlot].filter fun info => info.hqfInfos ≠ []

/-- What enabling is to leave: the patch of the row is active and the one that was active is in
the row, or there was none and the row is deleted. -/
structure Enabled (st st' : Store) : Prop where
  active : st'.active = st.deployingSlot
  deploying : st'.bundle.deployingAppqfInfo = {}
  row : st'.row = if st.active.hqfInfos = [] then none else some (switchedOutRow st.active {})
  conserved : st'.patches.Perm st.patches

/-- What disabling is to leave: there is no active patch, and the one that was active is in the
row, beside the deploying one. -/
structure Disabled (st st' : Store) : Prop where
  active : st'.active.hqfInfos = []
  deploying : st'.bundle.deployingAppqfInfo = st.bundle.deployingAppqfInfo
  row : st'.row = some (switchedOutRow st.active st.deployingSlot)
  conserved : st'.patches.Perm st.patches

/-! ## What a switch that succeeds has read -/

/-- The row that waits for its deletion, made from the row that was read and the bundle info. -/
def oldRow (enable : Bool) (row : InnerAppQuickFix) (bundle : AppQuickFix) : InnerAppQuickFix where
  appQuickFix := {
    deployedAppqfInfo := bundle.deployedAppqfInfo
    deployingAppqfInfo := if enable then {} else row.appQuickFix.deployingAppqfInfo }
  status := if enable then .switchEnableStart else .switchDisableStart

theorem createInnerAppqf_some {row : InnerAppQuickFix} {bundle : AppQuickFix} {enable : Bool} {old : InnerAppQuickFix}
    (h : createInnerAppqf (some row) bundle enable = .ok old) :
    row.appQuickFix.deployedAppqfInfo.hqfInfos = [] ∧ old = oldRow enable row bundle := by
  unfold createInnerAppqf at h
  dsimp only at h
  split at h
  · cases h
  next hempty =>
    obtain rfl := Except.ok.inj h
    refine ⟨by simpa using hempty, ?_⟩
    cases enable <;> rfl

theorem innerSwitchQuickFix_ok {enable : Bool} {answers : SwitchAnswers} {inner row : InnerAppQuickFix} {st : Store}
    {es : List Effect} (hagain : answers.queryAgain = true) (hrow : st.row = some row)
    (h : innerSwitchQuickFix enable answers inner st = (none, es)) :
    row.appQuickFix.deployedAppqfInfo.hqfInfos = [] ∧ (enable = false → st.active.hqfInfos ≠ []) ∧
      ∃ es', saveOldRow answers (oldRow enable row st.bundle) = (true, es') ∧
        es = es' ++ [.saveBundle
          { deployedAppqfInfo := inner.appQuickFix.deployedAppqfInfo
            deployingAppqfInfo := if enable then {} else st.bundle.deployingAppqfInfo }] := by
  rcases innerSwitchQuickFix_cases enable answers inner st with
    ⟨err, es', -, hfailed⟩ | ⟨old, es', hold, hsaved, hactive, hdone⟩
  · rw [hfailed] at h
    cases h
  · have hquery : st.queryInnerAppQuickFix answers.queryAgain = some row := by
      rw [FindsRow.queried (.inl hagain), hrow]
    rw [hquery] at hold
    obtain ⟨hempty, rfl⟩ := createInnerAppqf_some hold
    rw [hdone] at h
    exact ⟨hempty, hactive, es', hsaved, (Prod.mk.inj h).2.symm⟩

theorem enableQuickFix_ok {bundleName : Str} {answers : SwitchAnswers} {st : Store} {es : List Effect}
    (hread : ReadsRow answers st) (h : enableQuickFix bundleName answers st = (none, es)) :
    ∃ row, st.row = some row ∧ row.appQuickFix.deployedAppqfInfo.hqfInfos = [] ∧
      es = enabledEffects answers row st.active := by
  unfold enableQuickFix at h
  split at h
  · cases h
  rw [hread.first.queried] at h
  cases hrow : st.row with
  | none =>
    rw [hrow] at h
    cases h
  | some row =>
    rw [hrow] at h
    dsimp only at h
    rcases hstart : updateQuickFixStatus .switchEnableStart row answers.saveStart with ⟨ok, start, es₁⟩
    rw [hstart] at h
    cases ok with
    | false => cases h
    | true =>
      obtain ⟨-, rfl, rfl⟩ := updateQuickFixStatus_eq_true hstart
      dsimp only at h
      split at h
      · next es₂ hinner =>
        obtain ⟨hempty, -, es', hsaved, rfl⟩ := innerSwitchQuickFix_ok hread.second rfl hinner
        obtain rfl := saveOldRow_enable hsaved
        exact ⟨row, rfl, hempty, (Prod.mk.inj h).2.symm⟩
      · cases h

theorem disableQuickFix_ok {bundleName : Str} {answers : SwitchAnswers} {st : Store} {es : List Effect}
    (hread : ReadsRow answers st) (h : disableQuickFix bundleName answers st = (none, es)) :
    let row := st.row.getD temporaryRow
    row.appQuickFix.deployedAppqfInfo.hqfInfos = [] ∧ st.active.hqfInfos ≠ [] ∧
      es = [.saveRow (row.setQuickFixMark .switchDisableStart),
        .saveRow (switchedOutRow st.active row.appQuickFix.deployingAppqfInfo),
        .saveBundle { deployedAppqfInfo := row.appQuickFix.deployedAppqfInfo
                      deployingAppqfInfo := st.bundle.deployingAppqfInfo }] := by
  intro row
  unfold disableQuickFix at h
  split at h
  · cases h
  rw [hread.first.queried] at h
  dsimp only at h
  rcases hstart : updateQuickFixStatus .switchDisableStart row answers.saveStart with ⟨ok, start, es₁⟩
  rw [show st.row.getD temporaryRow = row from rfl, hstart] at h
  cases ok with
  | false => cases h
  | true =>
    obtain ⟨-, rfl, rfl⟩ := updateQuickFixStatus_eq_true hstart
    dsimp only at h
    split at h
    · next es₂ hinner =>
      obtain ⟨hempty, hactive, es', hsaved, rfl⟩ := innerSwitchQuickFix_ok hread.second rfl hinner
      obtain rfl := saveOldRow_save (hactive rfl) hsaved
      exact ⟨hempty, hactive rfl, (Prod.mk.inj h).2.symm⟩
    · cases h

/-! ## Nothing is lost or doubled -/

theorem Store.patches_of_row {st : Store} {row : InnerAppQuickFix} (h : st.row = some row) :
    st.patches = [st.active, row.appQuickFix.deployedAppqfInfo, row.appQuickFix.deployingAppqfInfo].filter
      fun info => info.hqfInfos ≠ [] := by
  unfold Store.patches Store.deployedSlot Store.deployingSlot
  rw [h]
  rfl

theorem Store.patches_of_no_row {st : Store} (h : st.row = none) :
    st.patches = [st.active].filter fun info => info.hqfInfos ≠ [] := by
  unfold Store.patches Store.deployedSlot Store.deployingSlot
  rw [h]
  show [st.active, {}, {}].filter _ = [st.active].filter _
  simp [List.filter_cons]

/-- There was an active patch, and it takes the place of the patch that becomes active. -/
theorem enabled_of_patch {answers : SwitchAnswers} {st : Store} {row : InnerAppQuickFix} (hrow : st.row = some row)
    (hempty : row.appQuickFix.deployedAppqfInfo.hqfInfos = []) (hpatch : st.active.hqfInfos ≠ []) :
    Enabled st (st.run (enabledEffects answers row st.active)) := by
  unfold enabledEffects switchedOut
  rw [if_neg hpatch]
  refine ⟨?_, rfl, ?_, ?_⟩
  · unfold Store.deployingSlot
    rw [hrow]
    rfl
  · rw [if_neg hpatch]
    rfl
  · rw [Store.patches_of_row hrow,
      Store.patches_of_row (show (st.run _).row = some (switchedOutRow st.active {}) from rfl)]
    have hbefore : [st.active, row.appQuickFix.deployedAppqfInfo, row.appQuickFix.deployingAppqfInfo].filter
        (fun info => info.hqfInfos ≠ []) =
        [st.active, row.appQuickFix.deployingAppqfInfo].filter fun info => info.hqfInfos ≠ [] := by
      simp [List.filter_cons, hempty]
    have hafter : [row.appQuickFix.deployingAppqfInfo, st.active, {}].filter (fun info => info.hqfInfos ≠ []) =
        [row.appQuickFix.deployingAppqfInfo, st.active].filter fun info : AppqfInfo => info.hqfInfos ≠ [] := by
      simp [List.filter_cons]
    rw [hbefore]
    refine (List.Perm.of_eq hafter).trans ?_
    exact (List.Perm.swap st.active row.appQuickFix.deployingAppqfInfo []).filter _

/-- There was no active patch: the row has to go. -/
theorem enabled_iff_deleted {answers : SwitchAnswers} {st : Store} {row : InnerAppQuickFix} (hrow : st.row = some row)
    (hempty : row.appQuickFix.deployedAppqfInfo.hqfInfos = []) (hnone : st.active.hqfInfos = []) :
    Enabled st (st.run (enabledEffects answers row st.active)) ↔ answers.deleteRow = true := by
  unfold enabledEffects switchedOut
  rw [if_pos hnone]
  cases answers.deleteRow with
  | true =>
    refine ⟨fun _ => rfl, fun _ => ⟨?_, rfl, ?_, ?_⟩⟩
    · unfold Store.deployingSlot
      rw [hrow]
      rfl
    · rw [if_pos hnone]
      rfl
    · rw [Store.patches_of_row hrow, Store.patches_of_no_row (show (st.run _).row = none from rfl)]
      refine List.Perm.of_eq ?_
      show [row.appQuickFix.deployingAppqfInfo].filter _ = _
      simp [List.filter_cons, hempty, hnone]
  | false =>
    refine ⟨fun h => ?_, fun h => by cases h⟩
    have hkept := h.row
    rw [if_pos hnone] at hkept
    cases hkept

theorem disabled_of_ok {st : Store}
    (hempty : (st.row.getD temporaryRow).appQuickFix.deployedAppqfInfo.hqfInfos = []) :
    Disabled st (st.run [.saveRow ((st.row.getD temporaryRow).setQuickFixMark .switchDisableStart),
      .saveRow (switchedOutRow st.active (st.row.getD temporaryRow).appQuickFix.deployingAppqfInfo),
      .saveBundle { deployedAppqfInfo := (st.row.getD temporaryRow).appQuickFix.deployedAppqfInfo
                    deployingAppqfInfo := st.bundle.deployingAppqfInfo }]) := by
  have hdeploying : (st.row.getD temporaryRow).appQuickFix.deployingAppqfInfo = st.deployingSlot := by
    unfold Store.deployingSlot
    cases st.row <;> rfl
  have hdeployed : st.deployedSlot.hqfInfos = [] := by
    unfold Store.deployedSlot
    cases hrow : st.row with
    | none => rfl
    | some row => simpa [hrow] using hempty
  refine ⟨hempty, rfl, ?_, ?_⟩
  · rw [hdeploying]
    rfl
  · rw [hdeploying,
      Store.patches_of_row (show (st.run _).row = some (switchedOutRow st.active st.deployingSlot) from rfl)]
    refine List.Perm.of_eq ?_
    show [(st.row.getD temporaryRow).appQuickFix.deployedAppqfInfo, st.active, st.deployingSlot].filter _ =
      [st.active, st.deployedSlot, st.deployingSlot].filter _
    simp [List.filter_cons, hempty, hdeployed]

/-- **A switch that succeeds loses and doubles no patch**: enabling exactly if there was an active
patch or the deletion of the row has succeeded, disabling always. -/
theorem switch_conserves_iff (bundleName : Str) (answers : SwitchAnswers) (st : Store) (hread : ReadsRow answers st) :
    (∀ es, enableQuickFix bundleName answers st = (none, es) →
      (Enabled st (st.run es) ↔ st.active.hqfInfos ≠ [] ∨ answers.deleteRow = true)) ∧
    ∀ es, disableQuickFix bundleName answers st = (none, es) → Disabled st (st.run es) := by
  constructor
  · intro es henable
    obtain ⟨row, hrow, hempty, rfl⟩ := enableQuickFix_ok hread henable
    by_cases hnone : st.active.hqfInfos = []
    · rw [enabled_iff_deleted hrow hempty hnone, or_iff_right (not_not.mpr hnone)]
    · exact ⟨fun _ => .inl hnone, fun _ => enabled_of_patch hrow hempty hnone⟩
  · intro es hdisable
    obtain ⟨hempty, -, rfl⟩ := disableQuickFix_ok hread hdisable
    exact disabled_of_ok hempty

/-- A switch over an active patch, and back. -/
theorem switch_conserves_pending :
    ReadsRow {} pendingStore ∧
    Enabled pendingStore (pendingStore.run (enableQuickFix ['b'] {} pendingStore).2) ∧
    Disabled pendingStore (pendingStore.run (disableQuickFix ['b'] {} pendingStore).2) := by
  have hread : ReadsRow {} pendingStore := ⟨.inl rfl, rfl⟩
  obtain ⟨henable, hdisable⟩ := switch_conserves_iff ['b'] {} pendingStore hread
  exact ⟨hread, (henable _ rfl).mpr (.inr rfl), hdisable _ rfl⟩

/-- The first patch of a bundle waits to be switched to. -/
def firstPatchStore : Store where
  row := some { appQuickFix := { deployingAppqfInfo := patchOf 2 }, status := .deployEnd }
  bundle := { deployingAppqfInfo := patchOf 2 }

/-- The deletion of the row fails: enabling answers `ERR_OK`, and the patch is both active and the
deploying one of a row whose switch has started. -/
theorem row_left_behind :
    let answers : SwitchAnswers := { deleteRow := false }
    let st := firstPatchStore.run (enableQuickFix ['b'] answers firstPatchStore).2
    ReadsRow answers firstPatchStore ∧ (enableQuickFix ['b'] answers firstPatchStore).1 = none ∧
    st.active = patchOf 2 ∧ st.deployingSlot = patchOf 2 ∧ st.row.map (·.status) = some .switchEnableStart ∧
    st.patches = [patchOf 2, patchOf 2] ∧ ¬ Enabled firstPatchStore st := by
  intro answers st
  refine ⟨⟨.inl rfl, rfl⟩, rfl, rfl, rfl, rfl, by decide +kernel, fun h => ?_⟩
  have hdeleted : st.row = none := h.row
  cases hdeleted

end BundleFramework.QuickFix
