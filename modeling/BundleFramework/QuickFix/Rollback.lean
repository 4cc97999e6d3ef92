import BundleFramework.QuickFix.Deploy

/-!
# Operations that fail

A switch saves a start status before it does anything else, a deployment saves the row of the
new patch; both put the row back when a later step fails, and both write the bundle info last.
A switch puts the row back at `DEPLOY_END`, a deployment as it was.

Whether there was a row is what the query at the start of the operation said.
-/

namespace BundleFramework.QuickFix

/-- The query at the start finds the row if there is one. -/
def FindsRow (query : Bool) (st : Store) : Prop := query = true ∨ st.row = none

theorem FindsRow.queried {query : Bool} {st : Store} (h : FindsRow query st) :
    st.queryInnerAppQuickFix query = st.row := by
  unfold Store.queryInnerAppQuickFix
  rcases h with rfl | hnone
  · rfl
  · rw [hnone, ite_self]

/-- The row of the last write. -/
theorem Store.run_concat (st : Store) (es : List Effect) (e : Effect) : st.run (es ++ [e]) = (st.run es).apply e := by
  rw [Store.run_append, Store.run_cons, Store.run_nil]

/-! ## Switching -/

/-- The first status update has succeeded. -/
def Started (es : List Effect) : Prop := ∃ start rest, es = .saveRow start :: rest

/-- The patches of the row are as before, at `DEPLOY_END`, or there is no row, as before; the
bundle info is as before. -/
structure SwitchUndone (st st' : Store) : Prop where
  row : st'.row = st.row.map (·.setQuickFixMark .deployEnd)
  bundle : st'.bundle = st.bundle

/-- A switch that fails writes the row only, and last what its guard writes. -/
theorem switchUndone_of_guard {st : Store} {start : InnerAppQuickFix} {mid : List Effect} {guard : Effect}
    (hmid : ∀ e ∈ mid, e.OnRow) (hguard : ∀ st' : Store, st'.apply guard =
      { st' with row := st.row.map (·.setQuickFixMark .deployEnd) }) :
    SwitchUndone st (st.run (.saveRow start :: (mid ++ [guard]))) := by
  rw [Store.run_cons, Store.run_concat, hguard]
  refine ⟨rfl, ?_⟩
  show ((st.apply (.saveRow start)).run mid).bundle = st.bundle
  rw [Store.run_bundle_of_onRow hmid]
  rfl

/-- **A switch that fails is undone**, whichever step fails after the first status update. -/
theorem failed_switch_undone (bundleName : Str) (answers : SwitchAnswers) (st : Store)
    (hread : FindsRow answers.query st) (hrollback : answers.rollback = true) :
    (∀ err es, enableQuickFix bundleName answers st = (some err, es) → Started es → SwitchUndone st (st.run es)) ∧
    ∀ err es, disableQuickFix bundleName answers st = (some err, es) → Started es → SwitchUndone st (st.run es) := by
  constructor
  · rintro err es henable ⟨start, rest, rfl⟩
    obtain ⟨err', hnothing⟩ | ⟨row, hquery, -, ⟨err', mid, hmid, hfailed⟩ | hdone⟩ :=
      enableQuickFix_cases bundleName answers st
    · rw [hnothing] at henable
      cases henable
    · rw [hfailed, hrollback, if_pos rfl] at henable
      obtain ⟨-, hes⟩ := Prod.mk.inj henable
      rw [← hes]
      refine switchUndone_of_guard (fun e he => (hmid e he).onRow) fun st' => ?_
      rw [Store.row_of_query hquery]
      rfl
    · rw [hdone] at henable
      cases henable
  · rintro err es hdisable ⟨start, rest, rfl⟩
    obtain ⟨err', hnothing⟩ | ⟨-, ⟨err', mid, hmid, hfailed⟩ | ⟨deploying, hdone⟩⟩ :=
      disableQuickFix_cases bundleName answers st
    · rw [hnothing] at hdisable
      cases hdisable
    · rw [hfailed, hrollback, if_pos rfl] at hdisable
      obtain ⟨-, hes⟩ := Prod.mk.inj hdisable
      rw [← hes]
      refine switchUndone_of_guard (fun e he => (hmid e he).onRow) fun st' => ?_
      rw [hread.queried]
      cases st.row with
      | none => rfl
      | some row => rfl
    · rw [hdone] at hdisable
      cases hdisable

/-- A patch to be switched to, and the patch that is active. -/
def patchOf (versionCode : Nat) : AppqfInfo :=
  { versionCode, type := .patch, hqfInfos := [{ moduleName := ['m'], hqfFilePath := ['/', 'm'] }] }

def pendingStore : Store where
  row := some { appQuickFix := { deployingAppqfInfo := patchOf 2 }, status := .deployEnd }
  bundle := { deployedAppqfInfo := patchOf 1, deployingAppqfInfo := patchOf 2 }

/-- The update of the bundle info fails. -/
theorem failed_switch_undone_lastStep :
    let answers : SwitchAnswers := { updateBundle := false }
    FindsRow answers.query pendingStore ∧ answers.rollback = true ∧
    SwitchUndone pendingStore (pendingStore.run (enableQuickFix ['b'] answers pendingStore).2) ∧
    SwitchUndone pendingStore (pendingStore.run (disableQuickFix ['b'] answers pendingStore).2) := by
  intro answers
  have hread : FindsRow answers.query pendingStore := .inl rfl
  obtain ⟨henable, hdisable⟩ := failed_switch_undone ['b'] answers pendingStore hread rfl
  exact ⟨hread, rfl, henable .internalError _ rfl ⟨_, _, rfl⟩, hdisable .internalError _ rfl ⟨_, _, rfl⟩⟩

/-! ## Deploying -/

theorem toDeployEndStatus_failed_bundle {bundleName : Str} {params : DeployParams} {answers : DeployAnswers}
    {inner : InnerAppQuickFix} {bundle : AppQuickFix} {err : QuickFixErr} {es : List Effect}
    (h : toDeployEndStatus bundleName params answers inner bundle = (some err, es)) (st : Store) :
    (st.run es).bundle = st.bundle := by
  unfold toDeployEndStatus at h
  dsimp only at h
  -- every error is returned before the bundle info is saved
  repeat' split at h
  all_goals first
    | (obtain ⟨-, rfl⟩ := Prod.mk.inj h; rfl)
    | (cases (Prod.mk.inj h).1)

/-- **A deployment that fails is undone**, whichever step fails. -/
theorem failed_deploy_undone (bundleName : Str) (package : HqfPackage) (params : DeployParams) (answers : DeployAnswers)
    (st : Store) (hread : FindsRow answers.query st) (hrestore : answers.restore = true) {err : QuickFixErr}
    {es : List Effect} (h : deployQuickFix bundleName package params answers st = (some err, es)) :
    (st.run es).row = st.row ∧ (st.run es).bundle = st.bundle := by
  have hbefore : ∀ {err' : QuickFixErr}, (some err', ([] : List Effect)) = (some err, es) →
      (st.run es).row = st.row ∧ (st.run es).bundle = st.bundle := by
    intro err' heq
    obtain ⟨-, rfl⟩ := Prod.mk.inj heq
    exact ⟨rfl, rfl⟩
  unfold deployQuickFix at h
  rw [hread.queried] at h
  split at h
  · exact hbefore h
  dsimp only at h
  split at h
  · exact hbefore h
  next inner hstart =>
    split at h
    · exact hbefore h
    split at h
    · next err' es' hend =>
      obtain ⟨-, hes⟩ := Prod.mk.inj h
      rw [← hes, List.cons_append, Store.run_cons, Store.run_concat]
      have hbundle := toDeployEndStatus_failed_bundle hend (st.apply (.saveRow inner))
      cases hrow : st.row with
      | none => exact ⟨rfl, hbundle⟩
      | some row => exact ⟨rfl, hbundle⟩
    · cases (Prod.mk.inj h).1

theorem QuickFixType.patch_ne_unknown : QuickFixType.patch ≠ .unknown := by decide

def packageOf (versionCode : Nat) : HqfPackage where
  type := .patch
  versionCode := versionCode
  abi := none
  hqfInfos := [{ moduleName := ['m'], hqfFilePath := securityRoot ++ ['/', 'm'] }]
  type_known := QuickFixType.patch_ne_unknown
  hqfInfos_ne := List.cons_ne_nil _ _

/-- A newer package over a patch that waits to be switched to; the update of the bundle info fails. -/
theorem failed_deploy_undone_lastStep :
    let answers : DeployAnswers := { updateBundle := false }
    FindsRow answers.query pendingStore ∧ answers.restore = true ∧
    (deployQuickFix ['b'] (packageOf 3) {} answers pendingStore).1 = some .internalError ∧
    (pendingStore.run (deployQuickFix ['b'] (packageOf 3) {} answers pendingStore).2).row = pendingStore.row ∧
    (pendingStore.run (deployQuickFix ['b'] (packageOf 3) {} answers pendingStore).2).bundle = pendingStore.bundle := by
  intro answers
  have hread : FindsRow answers.query pendingStore := .inl rfl
  have hfailed : (deployQuickFix ['b'] (packageOf 3) {} answers pendingStore).1 = some .internalError := by
    decide +kernel
  exact ⟨hread, rfl, hfailed, failed_deploy_undone ['b'] (packageOf 3) {} answers pendingStore hread rfl
    (Prod.ext hfailed rfl)⟩

end BundleFramework.QuickFix
