import BundleFramework.QuickFix.Deploy

/-!
# The directory of the active patch

Deploying, its guard, and deleting each compute a directory of their own.  By version codes
alone they keep clear of the active patch: a new patch is newer than the active one, and
`patch_1`, `patch_2`, `hotreload_2` do not contain each other.  What breaks this:

    target paths     all patches with one are below `patch`, and the deleter removes `patch`
    a lost write     leaves the active patch, or one of its version, in a row that is replaced
                     or deleted

`active_files_kept_iff` shows that there is nothing else: a run removes no directory of the patch
that is active at that moment exactly when its operations are `Careful`.
-/

namespace BundleFramework.QuickFix

open PathParts StepRun

/-! ## Runs -/

inductive Op
  | deploy (package : HqfPackage) (params : DeployParams) (answers : DeployAnswers)
  | enable (answers : SwitchAnswers)
  | disable (answers : SwitchAnswers)
  | delete (answers : DeleteAnswers)

def Op.effects (bundleName : Str) (st : Store) : Op → List Effect
  | .deploy package params answers => (deployQuickFix bundleName package params answers st).2
  | .enable answers => (enableQuickFix bundleName answers st).2
  | .disable answers => (disableQuickFix bundleName answers st).2
  | .delete answers => (deleteQuickFix bundleName answers st).2

def step (bundleName : Str) (st : Store) (op : Op) : Store := st.run (op.effects bundleName st)

/-- The effect takes no code directory of the active patch away. -/
def KeepsActive (st : Store) : Effect → Prop
  | .removeDir dir => ¬ Hits dir st.active
  | .createBundleDir dir => ¬ Hits dir st.active
  | _ => True

instance (st : Store) (e : Effect) : Decidable (KeepsActive st e) :=
  match e with
  | .removeDir dir => inferInstanceAs (Decidable (¬ Hits dir st.active))
  | .createBundleDir dir => inferInstanceAs (Decidable (¬ Hits dir st.active))
  | .saveRow _ | .deleteRow | .saveBundle _ => inferInstanceAs (Decidable True)

/-- No effect of the operation takes a code directory away from the patch that is active when
it happens. -/
def OpKeepsActive (bundleName : Str) (st : Store) (op : Op) : Prop :=
  Each Store.apply KeepsActive st (op.effects bundleName st)

instance (bundleName : Str) (st : Store) (op : Op) : Decidable (OpKeepsActive bundleName st op) :=
  inferInstanceAs (Decidable (Each Store.apply KeepsActive st (op.effects bundleName st)))

/-- The active patch stands below `patch`. -/
def BelowPatch (bundleName : Str) (active : AppqfInfo) : Prop := Hits (underBase bundleName PATCH_DIR) active

instance (bundleName : Str) (active : AppqfInfo) : Decidable (BelowPatch bundleName active) :=
  inferInstanceAs (Decidable (Hits (underBase bundleName PATCH_DIR) active))

/-- The active patch stands in a directory of its version, and `info` has that version and kind. -/
def SharesVersionDir (bundleName : Str) (info active : AppqfInfo) : Prop :=
  active.hqfInfos ≠ [] ∧ info.versionCode = active.versionCode ∧
    (info.type = .hotReload ↔ active.type = .hotReload) ∧ ¬ BelowPatch bundleName active

instance (bundleName : Str) (info active : AppqfInfo) : Decidable (SharesVersionDir bundleName info active) :=
  inferInstanceAs (Decidable (_ ∧ _ ∧ (_ ↔ _) ∧ ¬ _))

/-- The deployment passes its checks and saves its row. -/
def deployStarts (package : HqfPackage) (answers : DeployAnswers) (st : Store) : Bool :=
  answers.parsed && answers.saveStart &&
    (toDeployStartStatus answers package.appqfInfo (st.queryInnerAppQuickFix answers.query) st.bundle).isOk

/-- Every file can be moved to the directory of the patch. -/
def Movable (params : DeployParams) (answers : DeployAnswers) (type : QuickFixType) (hqf : HqfInfo) : Prop :=
  hqf.hqfFilePath ≠ [] ∧ isFileNameValid hqf.moduleName = true ∧
    hasPathRelativeToRoot hqf.hqfFilePath securityRoot = true ∧
    copyHqfFileAccepts hqf.moduleName type params.targetPath = true ∧ answers.copyHqfFile hqf.moduleName = true

instance (params : DeployParams) (answers : DeployAnswers) (type : QuickFixType) (hqf : HqfInfo) :
    Decidable (Movable params answers type hqf) :=
  inferInstanceAs (Decidable (_ ≠ _ ∧ _ = true ∧ _ = true ∧ _ = true ∧ _ = true))

/-- Nothing fails in the second half of the deployment. -/
def Completes (package : HqfPackage) (params : DeployParams) (answers : DeployAnswers) : Prop :=
  answers.createDir = true ∧ (package.type = .patch → answers.extracted = true) ∧
    (∀ hqf ∈ package.hqfInfos, Movable params answers package.type hqf) ∧
    answers.verified = true ∧ answers.saveEnd = true ∧ answers.fetch = true ∧ answers.updateBundle = true

instance (package : HqfPackage) (params : DeployParams) (answers : DeployAnswers) :
    Decidable (Completes package params answers) :=
  inferInstanceAs (Decidable (_ = true ∧ (_ → _) ∧ (∀ hqf ∈ package.hqfInfos, Movable params answers package.type hqf) ∧
    _ = true ∧ _ = true ∧ _ = true ∧ _ = true))

/-- The deletion passes its checks and saves the status of the row. -/
def deleteStarts (bundleName : Str) (row : InnerAppQuickFix) (answers : DeleteAnswers) : Bool :=
  bundleName != [] && nextStatusAllowed row.status .deleteStart && answers.saveStart

/-- Of the active patch and a patch to be deleted: not below `patch` when the latter has a target
path, else not of one version and kind. -/
def DeletionSpares (bundleName : Str) (active info : AppqfInfo) : Prop :=
  info.hqfInfos ≠ [] → info.type ≠ .unknown →
    if info.type = .patch ∧ info.nativeLibraryPath.takeWhile (· != '/') = PATCH_DIR then ¬ BelowPatch bundleName active
    else ¬ SharesVersionDir bundleName info active

instance (bundleName : Str) (active info : AppqfInfo) : Decidable (DeletionSpares bundleName active info) :=
  inferInstanceAs (Decidable (info.hqfInfos ≠ [] → info.type ≠ .unknown →
    if info.type = .patch ∧ info.nativeLibraryPath.takeWhile (· != '/') = PATCH_DIR then ¬ BelowPatch bundleName active
    else ¬ SharesVersionDir bundleName info active))

/-- The deletion gets to the deploying patch of the row. -/
def ReachesDeploying (row : InnerAppQuickFix) (answers : DeleteAnswers) : Prop :=
  row.appQuickFix.deployedAppqfInfo.hqfInfos = [] ∨
    row.appQuickFix.deployedAppqfInfo.type ≠ .unknown ∧ answers.removeDeployed = true

instance (row : InnerAppQuickFix) (answers : DeleteAnswers) : Decidable (ReachesDeploying row answers) :=
  inferInstanceAs (Decidable (_ ∨ _ ∧ _))

/-- A new patch with a target path is not deployed over the active one, nor in the place of a row
that names the directory of the active one; and the patches that are deleted are not of its
directory. -/
def Careful (bundleName : Str) (st : Store) : Op → Prop
  | .deploy package params answers => deployStarts package answers st = true →
    (package.type = .patch → params.targetPath ≠ [] →
      ¬ Hits (underBase bundleName (PATCH_DIR ++ '/' :: params.targetPath)) st.active) ∧
    (Completes package params answers → ∀ row ∈ st.queryInnerAppQuickFix answers.query,
      ¬ SharesVersionDir bundleName row.appQuickFix.deployingAppqfInfo st.active)
  | .delete answers => ∀ row ∈ st.queryInnerAppQuickFix answers.query, deleteStarts bundleName row answers = true →
    DeletionSpares bundleName st.active row.appQuickFix.deployedAppqfInfo ∧
    (ReachesDeploying row answers → DeletionSpares bundleName st.active row.appQuickFix.deployingAppqfInfo)
  | .enable _ | .disable _ => True

instance (bundleName : Str) (st : Store) (op : Op) : Decidable (Careful bundleName st op) :=
  match op with
  | .deploy package params answers => inferInstanceAs (Decidable (deployStarts package answers st = true →
      (package.type = .patch → params.targetPath ≠ [] →
        ¬ Hits (underBase bundleName (PATCH_DIR ++ '/' :: params.targetPath)) st.active) ∧
      (Completes package params answers → ∀ row ∈ st.queryInnerAppQuickFix answers.query,
        ¬ SharesVersionDir bundleName row.appQuickFix.deployingAppqfInfo st.active)))
  | .delete answers => inferInstanceAs (Decidable (∀ row ∈ st.queryInnerAppQuickFix answers.query,
      deleteStarts bundleName row answers = true →
        DeletionSpares bundleName st.active row.appQuickFix.deployedAppqfInfo ∧
        (ReachesDeploying row answers → DeletionSpares bundleName st.active row.appQuickFix.deployingAppqfInfo)))
  | .enable _ | .disable _ => inferInstanceAs (Decidable True)

/-! ## Directories by version -/

/-- The first directory below the bundle's for a patch of version `v`. -/
def DirOf (v : Nat) (dir : Str) : Prop :=
  dir = PATCH_DIR ∨ dir = patchVersionDir v ∨ dir = hotReloadVersionDir v

theorem components_oldDir (info : AppqfInfo) : components (oldDir info) = [oldDir info] := by
  unfold oldDir
  split
  · exact components_hotReloadVersionDir _
  · exact components_patchVersionDir _

/-- A patch recorded below the directory `top`. -/
structure Shape (bundleName : Str) (info : AppqfInfo) (top : Str) : Prop where
  hqfInfos : info.hqfInfos ≠ []
  below : ∀ place ∈ codeDirs info, rootPlace bundleName ++ [top] <+: place
  top_dirOf : DirOf info.versionCode top
  hot : info.type = .hotReload ↔ top = hotReloadVersionDir info.versionCode

/-- A patch that may become active. -/
def Recorded (bundleName : Str) (info : AppqfInfo) : Prop := info.hqfInfos = [] ∨ ∃ top, Shape bundleName info top

section

variable {bundleName : Str} {info active : AppqfInfo} {top : Str}

/-- A directory of one component hits a recorded patch just when the patch stands below it. -/
theorem Shape.hits_iff (h : Shape bundleName active top) {dir : Str} (hdir : components dir = [dir]) :
    Hits (underBase bundleName dir) active ↔ top = dir := by
  constructor
  · rintro ⟨place, hplace, hcovers⟩
    unfold Covers at hcovers
    rw [components_underBase, hdir] at hcovers
    exact (first_eq_of_covered hcovers (h.below place hplace)).symm
  · rintro rfl
    obtain ⟨hqf, hqfs, hinfos⟩ := List.exists_cons_of_ne_nil h.hqfInfos
    have hmem : (components hqf.hqfFilePath).dropLast ∈ codeDirs active := by
      rw [codeDirs, hinfos]
      exact List.mem_cons_self
    refine ⟨_, hmem, ?_⟩
    unfold Covers
    rw [components_underBase, hdir]
    exact h.below _ hmem

theorem Shape.belowPatch_iff (h : Shape bundleName active top) : BelowPatch bundleName active ↔ top = PATCH_DIR :=
  h.hits_iff components_PATCH_DIR

/-- **A directory by version** hits a recorded patch just when they share it. -/
theorem hits_oldDir_iff (h : Recorded bundleName active) :
    Hits (underBase bundleName (oldDir info)) active ↔ SharesVersionDir bundleName info active := by
  obtain hempty | ⟨top, htop⟩ := h
  · exact ⟨fun hhit => absurd hhit (not_hits_of_empty hempty _), fun hshares => absurd hempty hshares.1⟩
  rw [htop.hits_iff (components_oldDir info)]
  unfold SharesVersionDir
  rw [htop.belowPatch_iff, htop.hot]
  refine ⟨?_, ?_⟩
  · rintro rfl
    -- the directory of `info` names its version and its kind
    have hdirOf := htop.top_dirOf
    unfold oldDir at hdirOf ⊢
    split at hdirOf
    next hhot =>
      rw [if_pos hhot]
      obtain hdir | hdir | hdir := hdirOf
      · exact absurd hdir.symm (PATCH_DIR_ne_hotReloadVersionDir _)
      · exact absurd hdir.symm (patchVersionDir_ne_hotReloadVersionDir _ _)
      · exact ⟨htop.hqfInfos, hotReloadVersionDir_injective hdir, iff_of_true hhot hdir,
          (PATCH_DIR_ne_hotReloadVersionDir _).symm⟩
    next hhot =>
      rw [if_neg hhot]
      obtain hdir | hdir | hdir := hdirOf
      · exact absurd hdir.symm (PATCH_DIR_ne_patchVersionDir _)
      · exact ⟨htop.hqfInfos, patchVersionDir_injective hdir,
          iff_of_false hhot (patchVersionDir_ne_hotReloadVersionDir _ _), (PATCH_DIR_ne_patchVersionDir _).symm⟩
      · exact absurd hdir (patchVersionDir_ne_hotReloadVersionDir _ _)
  · rintro ⟨-, hversion, hkind, hpatch⟩
    unfold oldDir
    rw [hversion]
    obtain hdir | hdir | hdir := htop.top_dirOf
    · exact absurd hdir hpatch
    · rw [if_neg, hdir]
      rw [hkind, hdir]
      exact patchVersionDir_ne_hotReloadVersionDir _ _
    · rw [if_pos (hkind.mpr hdir), hdir]

theorem deletedDir_eq (info : AppqfInfo) (hknown : info.type ≠ .unknown) :
    deletedDir info = some (if info.type = .patch ∧ info.nativeLibraryPath.takeWhile (· != '/') = PATCH_DIR then PATCH_DIR
      else oldDir info) := by
  unfold deletedDir oldDir
  cases htype : info.type with
  | unknown => exact absurd htype hknown
  | patch =>
    dsimp only
    split
    next hnative => rw [if_pos ⟨rfl, hnative⟩]
    next hnative => rw [if_neg (fun h => hnative h.2), if_neg (by decide)]
  | hotReload => rfl

/-- Deleting the directory of `info` leaves those of `active`. -/
def Spares (bundleName : Str) (info active : AppqfInfo) : Prop :=
  info.hqfInfos ≠ [] → ∀ dir, deletedDir info = some dir → ¬ Hits (underBase bundleName dir) active

theorem deletionSpares_iff (h : Recorded bundleName active) :
    DeletionSpares bundleName active info ↔ Spares bundleName info active := by
  unfold DeletionSpares Spares
  refine imp_congr_right fun _ => ?_
  by_cases hknown : info.type = .unknown
  · refine iff_of_true (fun hne => absurd hknown hne) fun dir hdir => ?_
    unfold deletedDir at hdir
    rw [hknown] at hdir
    cases hdir
  · rw [deletedDir_eq info hknown]
    simp only [ne_eq, hknown, not_false_eq_true, forall_const, Option.some.injEq, forall_eq']
    split
    · exact Iff.rfl
    · rw [hits_oldDir_iff h]

end

/-! ## The directory of a new patch -/

/-- The first part of `newPatchDir`. -/
def newTop (params : DeployParams) (info : AppqfInfo) : Str :=
  if info.type = .hotReload then hotReloadVersionDir info.versionCode
  else if params.targetPath ≠ [] then PATCH_DIR
  else patchVersionDir info.versionCode

theorem components_newPatchDir (params : DeployParams) (info : AppqfInfo) :
    ∃ rest, components (newPatchDir params info) = newTop params info :: rest := by
  unfold newPatchDir newTop
  split
  · exact ⟨[], components_hotReloadVersionDir _⟩
  split
  · refine ⟨components params.targetPath, ?_⟩
    rw [components_append_slash, components_PATCH_DIR, List.singleton_append]
  · exact ⟨[], components_patchVersionDir _⟩

/-- **A deployed patch** stands below the first part of its new directory. -/
theorem DeployedFrom.shape {bundleName : Str} {params : DeployParams} {answers : DeployAnswers}
    {package : HqfPackage} {new : AppqfInfo}
    (h : DeployedFrom params answers (underBase bundleName (newPatchDir params package.appqfInfo)) package.appqfInfo new) :
    Shape bundleName new (newTop params package.appqfInfo) where
  hqfInfos := by
    intro hnil
    have := h.hqfInfos
    rw [hnil, List.length_nil] at this
    exact package.hqfInfos_ne (List.length_eq_zero_iff.mp this.symm)
  below := by
    intro place hplace
    obtain ⟨rest, hcomponents⟩ := components_newPatchDir params package.appqfInfo
    rw [h.codeDirs place hplace, components_underBase, hcomponents, List.prefix_append_right_inj]
    exact List.cons_prefix_cons.mpr ⟨rfl, List.nil_prefix⟩
  top_dirOf := by
    rw [h.versionCode]
    unfold newTop
    split
    · exact .inr (.inr rfl)
    split
    · exact .inl rfl
    · exact .inr (.inl rfl)
  hot := by
    rw [h.type, h.versionCode]
    unfold newTop
    split
    next hhot => exact iff_of_true hhot rfl
    next hhot =>
      refine iff_of_false hhot ?_
      split
      · exact PATCH_DIR_ne_hotReloadVersionDir _
      · exact patchVersionDir_ne_hotReloadVersionDir _ _

/-! ## The directories an operation removes -/

/-- The effect asks for the removal of `dir`. -/
def Effect.Removes (dir : Str) (e : Effect) : Prop := e = .removeDir dir ∨ e = .createBundleDir dir

theorem removes_removeDir {dir dir' : Str} : Effect.Removes dir (.removeDir dir') ↔ dir' = dir := by
  simp [Effect.Removes]

theorem removes_createBundleDir {dir dir' : Str} : Effect.Removes dir (.createBundleDir dir') ↔ dir' = dir := by
  simp [Effect.Removes]

theorem not_removes_saveRow {dir : Str} {row : InnerAppQuickFix} : ¬ Effect.Removes dir (.saveRow row) := by
  simp [Effect.Removes]

theorem not_removes_deleteRow {dir : Str} : ¬ Effect.Removes dir .deleteRow := by simp [Effect.Removes]

theorem not_removes_saveBundle {dir : Str} {info : AppQuickFix} : ¬ Effect.Removes dir (.saveBundle info) := by
  simp [Effect.Removes]

/-- Some effect of the list removes `dir`. -/
def RemovesDir (es : List Effect) (dir : Str) : Prop := ∃ e ∈ es, e.Removes dir

theorem removesDir_cons {e : Effect} {es : List Effect} {dir : Str} :
    RemovesDir (e :: es) dir ↔ e.Removes dir ∨ RemovesDir es dir := by
  simp [RemovesDir]

theorem removesDir_append {es es' : List Effect} {dir : Str} :
    RemovesDir (es ++ es') dir ↔ RemovesDir es dir ∨ RemovesDir es' dir := by
  unfold RemovesDir
  simp only [List.mem_append, or_and_right, exists_or]

theorem not_removesDir_nil {dir : Str} : ¬ RemovesDir [] dir := by simp [RemovesDir]

theorem Effect.OnRow.not_removes {e : Effect} (h : e.OnRow) (dir : Str) : ¬ e.Removes dir := by
  obtain rfl | ⟨row, rfl⟩ := h
  · exact not_removes_deleteRow
  · exact not_removes_saveRow

theorem not_removesDir_of_onRow {es : List Effect} (h : ∀ e ∈ es, e.OnRow) (dir : Str) : ¬ RemovesDir es dir := by
  rintro ⟨e, he, hremoves⟩
  exact (h e he).not_removes dir hremoves

/-- While the active patch stays the same, its files are kept just when no effect removes a
directory of it. -/
theorem each_keepsActive_iff {st : Store} {es : List Effect}
    (h : ∀ info, .saveBundle info ∈ es → info.deployedAppqfInfo = st.active) :
    Each Store.apply KeepsActive st es ↔ ∀ dir, RemovesDir es dir → ¬ Hits dir st.active := by
  induction es generalizing st with
  | nil => exact iff_of_true trivial fun dir h => absurd h not_removesDir_nil
  | cons e es ih =>
    have hactive : (st.apply e).active = st.active := by
      cases e with
      | saveBundle info => exact h info List.mem_cons_self
      | _ => rfl
    have hhead : KeepsActive st e ↔ ∀ dir, e.Removes dir → ¬ Hits dir st.active := by
      cases e with
      | removeDir dir => simp only [removes_removeDir, forall_eq']; exact Iff.rfl
      | createBundleDir dir => simp only [removes_createBundleDir, forall_eq']; exact Iff.rfl
      | saveRow row => exact iff_of_true trivial fun dir h => absurd h not_removes_saveRow
      | deleteRow => exact iff_of_true trivial fun dir h => absurd h not_removes_deleteRow
      | saveBundle info => exact iff_of_true trivial fun dir h => absurd h not_removes_saveBundle
    show KeepsActive st e ∧ Each Store.apply KeepsActive (st.apply e) es ↔ _
    rw [hhead, ih (fun info hinfo => by rw [hactive]; exact h info (List.mem_cons_of_mem _ hinfo)), hactive]
    simp only [removesDir_cons, or_imp, forall_and]

/-! ## Deploying -/

section

variable {bundleName : Str} {st : Store} {package : HqfPackage} {params : DeployParams} {answers : DeployAnswers}

theorem moveHqfInfos_isOk_iff {type : QuickFixType} {patchPath : Str} {infos : List HqfInfo} :
    (moveHqfInfos params answers type patchPath infos).isOk = true ↔
      ∀ hqf ∈ infos, Movable params answers type hqf := by
  induction infos with
  | nil => simp [moveHqfInfos, Except.isOk, Except.toBool]
  | cons info infos ih =>
    rw [moveHqfInfos, List.forall_mem_cons, ← ih]
    unfold Movable
    split
    next hname =>
      refine iff_of_false (by simp [Except.isOk, Except.toBool]) fun h => ?_
      rcases hname with hpath | hvalid
      · exact h.1.1 hpath
      · rw [h.1.2.1] at hvalid
        cases hvalid
    next hname =>
      split
      next hrefused =>
        refine iff_of_false (by simp [Except.isOk, Except.toBool]) fun h => ?_
        simp [h.1.2.2.1, h.1.2.2.2.1, h.1.2.2.2.2] at hrefused
      next haccepted =>
        rw [not_or] at hname
        simp only [Bool.not_eq_true', Bool.not_eq_false, Bool.and_eq_true] at haccepted
        have hmovable := And.intro hname.1 (And.intro (by simpa using hname.2)
          (And.intro haccepted.1.1 (And.intro haccepted.1.2 haccepted.2)))
        cases moveHqfInfos params answers type patchPath infos with
        | error err => simp [Except.isOk, Except.toBool]
        | ok moved => simpa [Except.isOk, Except.toBool] using hmovable

theorem moveHqfFiles_isOk_iff {inner : InnerAppQuickFix}
    (hinner : inner.appQuickFix.deployingAppqfInfo = package.appqfInfo) (patchPath : Str) :
    (moveHqfFiles params answers (inner.processNativeLibraryPath params answers patchPath) patchPath).isOk = true ↔
      ∀ hqf ∈ package.hqfInfos, Movable params answers package.type hqf := by
  have hdeploying : (inner.processNativeLibraryPath params answers patchPath).appQuickFix.deployingAppqfInfo =
      QuickFix.processNativeLibraryPath params answers patchPath package.appqfInfo :=
    congrArg (QuickFix.processNativeLibraryPath params answers patchPath) hinner
  -- the processed native library paths are not looked at
  have hmoved : (moveHqfInfos params answers
      (QuickFix.processNativeLibraryPath params answers patchPath package.appqfInfo).type patchPath
      (QuickFix.processNativeLibraryPath params answers patchPath package.appqfInfo).hqfInfos).isOk = true ↔
        ∀ hqf ∈ package.hqfInfos, Movable params answers package.type hqf :=
    moveHqfInfos_isOk_iff.trans List.forall_mem_map
  rw [← hmoved]
  unfold moveHqfFiles
  simp only [hdeploying]
  split
  next hfailed => rw [hfailed]; rfl
  next hdone => rw [hdone]; rfl

/-- **Deploying, second half**: it asks for its own directory in any case, and it succeeds just
when nothing fails. -/
theorem toDeployEndStatus_dirs {inner : InnerAppQuickFix}
    (hinner : inner.appQuickFix.deployingAppqfInfo = package.appqfInfo) (bundle : AppQuickFix) :
    (∀ dir, RemovesDir (toDeployEndStatus bundleName params answers inner bundle).2 dir ↔
      underBase bundleName (newPatchDir params package.appqfInfo) = dir) ∧
    ((toDeployEndStatus bundleName params answers inner bundle).1 = none ↔ Completes package params answers) := by
  have hmoved := @moveHqfFiles_isOk_iff package params answers _ hinner
    (underBase bundleName (newPatchDir params package.appqfInfo))
  unfold toDeployEndStatus Completes
  simp only [hinner]
  rw [if_neg (show package.appqfInfo.type ≠ .unknown from package.type_known)]
  generalize underBase bundleName (newPatchDir params package.appqfInfo) = patchPath at hmoved ⊢
  rw [← hmoved, show package.appqfInfo.type = package.type from rfl]
  split
  next h => simp_all [removesDir_cons, removes_removeDir, not_removesDir_nil]
  next hcreate =>
    split
    next h => simp_all [removesDir_cons, removes_removeDir, removes_createBundleDir, not_removesDir_nil]
    next hextracted =>
      cases moveHqfFiles params answers (inner.processNativeLibraryPath params answers patchPath) patchPath with
      | error err =>
        simp [removesDir_cons, removes_removeDir, removes_createBundleDir, not_removesDir_nil, Except.isOk, Except.toBool]
      | ok inner' =>
        cases hverified : answers.verified <;> cases hsave : answers.saveEnd <;> cases hfetch : answers.fetch <;>
          cases hupdate : answers.updateBundle <;>
          simp_all [removesDir_cons, removes_removeDir, removes_createBundleDir, not_removes_saveRow,
            not_removes_saveBundle, not_removesDir_nil, Except.isOk, Except.toBool]

/-- **What a deployment removes**: the directory of the new patch once it starts, and that of the
patch it replaces once it is through. -/
theorem deployQuickFix_dirs (dir : Str) :
    RemovesDir (deployQuickFix bundleName package params answers st).2 dir ↔
      deployStarts package answers st = true ∧
        (underBase bundleName (newPatchDir params package.appqfInfo) = dir ∨
          Completes package params answers ∧ ∃ row ∈ st.queryInnerAppQuickFix answers.query,
            underBase bundleName (oldDir row.appQuickFix.deployingAppqfInfo) = dir) := by
  unfold deployQuickFix deployStarts
  cases hparsed : answers.parsed with
  | false => simp [not_removesDir_nil]
  | true =>
  dsimp only
  cases hstart : toDeployStartStatus answers package.appqfInfo (st.queryInnerAppQuickFix answers.query) st.bundle with
  | error err => simp [not_removesDir_nil, Except.isOk, Except.toBool]
  | ok inner =>
  dsimp only
  cases hsave : answers.saveStart with
  | false => simp [not_removesDir_nil]
  | true =>
    obtain ⟨-, -, hinner⟩ := toDeployStartStatus_ok hstart
    have hdeploying : inner.appQuickFix.deployingAppqfInfo = package.appqfInfo := by rw [hinner]
    obtain ⟨hdirs, hcompletes⟩ := @toDeployEndStatus_dirs bundleName package params answers inner hdeploying st.bundle
    rw [← hcompletes]
    rcases hend : toDeployEndStatus bundleName params answers inner st.bundle with ⟨_ | err, es⟩
    · rw [hend] at hdirs
      cases hrow : st.queryInnerAppQuickFix answers.query with
      | none =>
        simp [removesDir_cons, not_removes_saveRow, hdirs, Except.isOk, Except.toBool]
      | some row =>
        simp [removesDir_append, removesDir_cons, not_removes_saveRow, not_removesDir_nil, removes_removeDir, hdirs,
          Except.isOk, Except.toBool]
    · rw [hend] at hdirs
      have hrestored : ¬ RemovesDir
          (if answers.restore then [(st.queryInnerAppQuickFix answers.query).elim .deleteRow .saveRow] else []) dir := by
        refine not_removesDir_of_onRow (fun e he => ?_) dir
        split at he
        · obtain rfl := List.mem_singleton.mp he
          cases st.queryInnerAppQuickFix answers.query with
          | none => exact .inl rfl
          | some row => exact .inr ⟨row, rfl⟩
        · exact absurd he List.not_mem_nil
      simp [removesDir_append, removesDir_cons, not_removes_saveRow, hrestored, hdirs, Except.isOk, Except.toBool]

/-- The directory of a new patch, which is newer than the active one, is that of the active patch
by its target path only. -/
theorem hits_newPatchDir_iff {active : AppqfInfo} (h : Recorded bundleName active)
    (hnewer : active.hqfInfos ≠ [] → active.versionCode < package.versionCode) :
    Hits (underBase bundleName (newPatchDir params package.appqfInfo)) active ↔
      package.type = .patch ∧ params.targetPath ≠ [] ∧
        Hits (underBase bundleName (PATCH_DIR ++ '/' :: params.targetPath)) active := by
  have hold : ¬ Hits (underBase bundleName (oldDir package.appqfInfo)) active := by
    rw [hits_oldDir_iff h]
    rintro ⟨hne, hversion, -⟩
    exact absurd hversion (Nat.ne_of_gt (hnewer hne))
  unfold newPatchDir
  unfold oldDir at hold
  cases htype : package.type with
  | unknown => exact absurd htype package.type_known
  | hotReload =>
    rw [if_pos (show package.appqfInfo.type = .hotReload from htype)] at hold ⊢
    exact iff_of_false hold (by simp)
  | patch =>
    have hcold : package.appqfInfo.type ≠ .hotReload := by
      rw [show package.appqfInfo.type = .patch from htype]
      decide
    rw [if_neg hcold] at hold ⊢
    split
    next htarget => simp [htarget]
    next htarget => exact iff_of_false hold fun hall => htarget hall.2.1

/-- A deployment that starts is of a newer patch than the active one. -/
theorem newer_of_deployStarts (h : deployStarts package answers st = true) :
    st.active.hqfInfos ≠ [] → st.active.versionCode < package.versionCode := by
  simp only [deployStarts, Bool.and_eq_true] at h
  cases hstart : toDeployStartStatus answers package.appqfInfo (st.queryInnerAppQuickFix answers.query) st.bundle with
  | error err =>
    rw [hstart] at h
    exact absurd h.2 Bool.false_ne_true
  | ok inner => exact (toDeployStartStatus_ok hstart).2.1

theorem deploy_keepsActive_iff (h : Recorded bundleName st.active) :
    OpKeepsActive bundleName st (.deploy package params answers) ↔
      Careful bundleName st (.deploy package params answers) := by
  unfold OpKeepsActive Op.effects Careful
  rw [each_keepsActive_iff fun info hinfo => deployQuickFix_saveBundle hinfo]
  constructor
  · intro hkept hstarts
    have hnew := hkept _ ((deployQuickFix_dirs _).mpr ⟨hstarts, .inl rfl⟩)
    rw [hits_newPatchDir_iff h (newer_of_deployStarts hstarts)] at hnew
    refine ⟨fun htype htarget hhit => hnew ⟨htype, htarget, hhit⟩, fun hcompletes row hrow => ?_⟩
    rw [← hits_oldDir_iff h]
    exact hkept _ ((deployQuickFix_dirs _).mpr ⟨hstarts, .inr ⟨hcompletes, row, hrow, rfl⟩⟩)
  · intro hcareful dir hdir
    obtain ⟨hstarts, rfl | ⟨hcompletes, row, hrow, rfl⟩⟩ := (deployQuickFix_dirs dir).mp hdir
    · rw [hits_newPatchDir_iff h (newer_of_deployStarts hstarts)]
      rintro ⟨htype, htarget, hhit⟩
      exact (hcareful hstarts).1 htype htarget hhit
    · rw [hits_oldDir_iff h]
      exact (hcareful hstarts).2 hcompletes row hrow

end

/-! ## Deleting -/

section

variable {bundleName : Str} {st : Store} {answers : DeleteAnswers}

theorem innerDeletePatchDir_dirs {info : AppqfInfo} {removed : Bool} (dir : Str) :
    RemovesDir (innerDeletePatchDir bundleName info removed).2 dir ↔
      info.hqfInfos ≠ [] ∧ ∃ d, deletedDir info = some d ∧ underBase bundleName d = dir := by
  unfold innerDeletePatchDir
  split
  next hempty => simp [hempty, not_removesDir_nil]
  next hpatch =>
    cases hdir : deletedDir info with
    | none => simp [not_removesDir_nil]
    | some d => simp [removesDir_cons, removes_removeDir, not_removesDir_nil, hpatch]

theorem innerDeletePatchDir_fst {info : AppqfInfo} {removed : Bool} :
    (innerDeletePatchDir bundleName info removed).1 = none ↔
      info.hqfInfos = [] ∨ info.type ≠ .unknown ∧ removed = true := by
  unfold innerDeletePatchDir
  split
  next hempty => simp [hempty]
  next hpatch =>
    by_cases hknown : info.type = .unknown
    · have hdir : deletedDir info = none := by
        unfold deletedDir
        rw [hknown]
      simp [hdir, hknown, hpatch]
    · rw [deletedDir_eq info hknown]
      cases removed <;> simp [hknown, hpatch]

theorem toDeletePatchDir_dirs {inner : InnerAppQuickFix} (dir : Str) :
    RemovesDir (toDeletePatchDir bundleName answers inner).2 dir ↔
      RemovesDir (innerDeletePatchDir bundleName inner.appQuickFix.deployedAppqfInfo answers.removeDeployed).2 dir ∨
      ReachesDeploying inner answers ∧
        RemovesDir (innerDeletePatchDir bundleName inner.appQuickFix.deployingAppqfInfo answers.removeDeploying).2 dir := by
  unfold toDeletePatchDir ReachesDeploying
  rw [← @innerDeletePatchDir_fst bundleName inner.appQuickFix.deployedAppqfInfo answers.removeDeployed]
  rcases innerDeletePatchDir bundleName inner.appQuickFix.deployedAppqfInfo answers.removeDeployed with ⟨_ | err, es⟩
  · simp [removesDir_append]
  · simp

/-- **What a deletion removes**: once it starts, what `ToDeletePatchDir` asks for. -/
theorem deleteQuickFix_dirs (dir : Str) :
    RemovesDir (deleteQuickFix bundleName answers st).2 dir ↔
      ∃ row ∈ st.queryInnerAppQuickFix answers.query, deleteStarts bundleName row answers = true ∧
        RemovesDir (toDeletePatchDir bundleName answers row).2 dir := by
  unfold deleteQuickFix deleteStarts
  split
  next hname => simp [hname, not_removesDir_nil]
  next hname =>
  cases hrow : st.queryInnerAppQuickFix answers.query with
  | none => simp [not_removesDir_nil]
  | some row =>
  dsimp only
  cases hallowed : nextStatusAllowed row.status .deleteStart with
  | false => simp [updateQuickFixStatus, hallowed, not_removesDir_nil]
  | true =>
  cases hsave : answers.saveStart with
  | false => simp [updateQuickFixStatus, hallowed, not_removesDir_nil]
  | true =>
    rw [updateQuickFixStatus_saved hallowed]
    have hsame : toDeletePatchDir bundleName answers (row.setQuickFixMark .deleteStart) =
      toDeletePatchDir bundleName answers row := rfl
    have hrollback : ¬ RemovesDir (updateQuickFixStatus .switchEnd (row.setQuickFixMark .deleteStart)
        answers.rollback).2.2 dir :=
      not_removesDir_of_onRow (fun e he => .inr ⟨_, updateQuickFixStatus_effect he⟩) dir
    have hinfo : ¬ RemovesDir (removeDeployingInfo answers st.bundle).2 dir := by
      rintro ⟨e, he, hremoves⟩
      rw [removeDeployingInfo_effect he] at hremoves
      exact not_removes_saveBundle hremoves
    dsimp only
    rw [hsame]
    rcases hpatches : toDeletePatchDir bundleName answers row with ⟨_ | err, es⟩
    · rcases hdeploying : removeDeployingInfo answers st.bundle with ⟨_ | err, es'⟩
      · rw [hdeploying] at hinfo
        cases hdelete : answers.deleteRow <;>
          simp [removesDir_append, removesDir_cons, not_removes_saveRow, not_removes_deleteRow, not_removesDir_nil,
            hinfo, hrollback, hallowed, hname, hpatches]
      · rw [hdeploying] at hinfo
        simp [removesDir_append, removesDir_cons, not_removes_saveRow, hinfo, hrollback, hallowed, hname, hpatches]
    · simp [removesDir_append, removesDir_cons, not_removes_saveRow, hrollback, hallowed, hname, hpatches]

theorem deleteQuickFix_saveBundle {info : AppQuickFix} (h : .saveBundle info ∈ (deleteQuickFix bundleName answers st).2) :
    info.deployedAppqfInfo = st.active := by
  obtain ⟨row, -, -, he | he | he | he | ⟨_, -, -, dir, -, he⟩⟩ := deleteQuickFix_effect h
  all_goals cases he
  rfl

theorem delete_keepsActive_iff (h : Recorded bundleName st.active) :
    OpKeepsActive bundleName st (.delete answers) ↔ Careful bundleName st (.delete answers) := by
  unfold OpKeepsActive Op.effects Careful
  rw [each_keepsActive_iff fun info hinfo => deleteQuickFix_saveBundle hinfo]
  have hspares (info : AppqfInfo) (removed : Bool) : DeletionSpares bundleName st.active info ↔
      ∀ dir, RemovesDir (innerDeletePatchDir bundleName info removed).2 dir → ¬ Hits dir st.active := by
    rw [deletionSpares_iff h]
    simp only [innerDeletePatchDir_dirs]
    constructor
    · rintro hspares dir ⟨hne, d, hd, rfl⟩
      exact hspares hne d hd
    · exact fun hspares hne d hd => hspares _ ⟨hne, d, hd, rfl⟩
  constructor
  · intro hkept row hrow hstarts
    have hdirs (dir : Str) (hdir : RemovesDir (toDeletePatchDir bundleName answers row).2 dir) :=
      hkept dir ((deleteQuickFix_dirs dir).mpr ⟨row, hrow, hstarts, hdir⟩)
    refine ⟨(hspares _ answers.removeDeployed).mpr fun dir hdir => ?_,
      fun hreaches => (hspares _ answers.removeDeploying).mpr fun dir hdir => ?_⟩
    · exact hdirs dir ((toDeletePatchDir_dirs dir).mpr (.inl hdir))
    · exact hdirs dir ((toDeletePatchDir_dirs dir).mpr (.inr ⟨hreaches, hdir⟩))
  · intro hcareful dir hdir
    obtain ⟨row, hrow, hstarts, hdir⟩ := (deleteQuickFix_dirs dir).mp hdir
    obtain ⟨hdeployed, hdeploying⟩ := hcareful row hrow hstarts
    rcases (toDeletePatchDir_dirs dir).mp hdir with hdir | ⟨hreaches, hdir⟩
    · exact (hspares _ _).mp hdeployed dir hdir
    · exact (hspares _ _).mp (hdeploying hreaches) dir hdir

end

/-! ## Recorded patches -/

/-- The patches of a row that can still become active are recorded. -/
def RowInv (bundleName : Str) (row : InnerAppQuickFix) : Prop :=
  match row.status with
  | .deployStart => Recorded bundleName row.appQuickFix.deployedAppqfInfo
  | .deployEnd | .switchEnableStart | .switchDisableStart =>
    Recorded bundleName row.appQuickFix.deployedAppqfInfo ∧ Recorded bundleName row.appQuickFix.deployingAppqfInfo
  | _ => True

structure Inv (bundleName : Str) (st : Store) : Prop where
  active : Recorded bundleName st.active
  row : ∀ row, st.row = some row → RowInv bundleName row

theorem inv_fresh (bundleName : Str) : Inv bundleName {} where
  active := .inl rfl
  row := fun _ h => by cases h

section

variable {bundleName : Str} {st : Store}

theorem RowInv.deployed {row : InnerAppQuickFix} (h : RowInv bundleName row)
    (hstatus : row.status = .deployStart ∨ row.status = .deployEnd) :
    Recorded bundleName row.appQuickFix.deployedAppqfInfo := by
  unfold RowInv at h
  rcases hstatus with hstatus | hstatus
  · rw [hstatus] at h
    exact h
  · rw [hstatus] at h
    exact h.1

/-- A row that may be switched holds recorded patches. -/
theorem RowInv.of_switch {row : InnerAppQuickFix} (h : RowInv bundleName row) {next : QuickFixStatus}
    (hnext : next = .switchEnableStart ∨ next = .switchDisableStart)
    (hallowed : nextStatusAllowed row.status next = true) :
    Recorded bundleName row.appQuickFix.deployedAppqfInfo ∧ Recorded bundleName row.appQuickFix.deployingAppqfInfo := by
  unfold RowInv at h
  cases hstatus : row.status with
  | deployEnd | switchEnableStart | switchDisableStart =>
    rw [hstatus] at h
    exact h
  | defaultStatus | deployStart | switchEnd | deleteStart | deleteEnd =>
    rw [hstatus] at hallowed
    rcases hnext with rfl | rfl <;> exact absurd hallowed (by decide)

theorem Inv.of_query (h : Inv bundleName st) {answers : Bool} {row : InnerAppQuickFix}
    (hrow : st.queryInnerAppQuickFix answers = some row) : RowInv bundleName row :=
  h.row row (Store.row_of_query hrow)

/-- An effect that writes recorded patches. -/
def WritesRecorded (bundleName : Str) : Effect → Prop
  | .saveRow row => RowInv bundleName row
  | .saveBundle info => Recorded bundleName info.deployedAppqfInfo
  | .deleteRow | .removeDir _ | .createBundleDir _ => True

theorem Inv.run (h : Inv bundleName st) {es : List Effect} (hes : ∀ e ∈ es, WritesRecorded bundleName e) :
    Inv bundleName (st.run es) := by
  induction es generalizing st with
  | nil => exact h
  | cons e es ih =>
    refine ih ?_ fun e he => hes e (List.mem_cons_of_mem _ he)
    have he := hes e List.mem_cons_self
    cases e with
    | saveRow row => exact ⟨h.active, fun row' hrow' => Option.some.inj hrow' ▸ he⟩
    | deleteRow => exact ⟨h.active, fun _ hrow => by cases hrow⟩
    | saveBundle info => exact ⟨he, h.row⟩
    | removeDir dir => exact h
    | createBundleDir dir => exact h

/-- A write of a switch, which removes no directory. -/
def SwitchWrites (bundleName : Str) : Effect → Prop
  | .saveRow row => RowInv bundleName row
  | .saveBundle info => Recorded bundleName info.deployedAppqfInfo
  | .deleteRow => True
  | .removeDir _ | .createBundleDir _ => False

theorem SwitchWrites.writesRecorded {e : Effect} (h : SwitchWrites bundleName e) : WritesRecorded bundleName e := by
  cases e with
  | saveRow row => exact h
  | saveBundle info => exact h
  | deleteRow | removeDir | createBundleDir => trivial

theorem each_keepsActive_of_switch {es : List Effect} (h : ∀ e ∈ es, SwitchWrites bundleName e) (st : Store) :
    Each Store.apply KeepsActive st es := by
  induction es generalizing st with
  | nil => trivial
  | cons e es ih =>
    refine ⟨?_, ih (fun e he => h e (List.mem_cons_of_mem _ he)) _⟩
    have he := h e List.mem_cons_self
    cases e with
    | removeDir dir => exact he.elim
    | createBundleDir dir => exact he.elim
    | _ => trivial

theorem switchWrites_mark {row : InnerAppQuickFix} (hdeployed : Recorded bundleName row.appQuickFix.deployedAppqfInfo)
    (hdeploying : Recorded bundleName row.appQuickFix.deployingAppqfInfo) (status : QuickFixStatus) :
    SwitchWrites bundleName (.saveRow (row.setQuickFixMark status)) := by
  show RowInv bundleName (row.setQuickFixMark status)
  unfold RowInv
  cases status with
  | deployStart => exact hdeployed
  | deployEnd | switchEnableStart | switchDisableStart => exact ⟨hdeployed, hdeploying⟩
  | _ => trivial

theorem Effect.SwitchesOut.switchWrites {e : Effect} (h : e.SwitchesOut) : SwitchWrites bundleName e := by
  obtain rfl | ⟨row, hstatus, rfl⟩ := h
  · trivial
  · show RowInv bundleName row
    unfold RowInv
    rw [hstatus]
    trivial

/-! ## What every run keeps -/

theorem deployQuickFix_writes (hinv : Inv bundleName st) {package : HqfPackage} {params : DeployParams}
    {answers : DeployAnswers} :
    ∀ e ∈ (deployQuickFix bundleName package params answers st).2, WritesRecorded bundleName e := by
  intro e he
  obtain ⟨inner, hstart, he⟩ := mem_deployQuickFix he
  obtain ⟨hstatus, -, rfl⟩ := toDeployStartStatus_ok hstart
  have hdeployed : Recorded bundleName
      ((st.queryInnerAppQuickFix answers.query).getD {}).appQuickFix.deployedAppqfInfo := by
    cases hrow : st.queryInnerAppQuickFix answers.query with
    | none => exact .inl rfl
    | some row => exact (hinv.of_query hrow).deployed (hstatus row hrow)
  rcases he with rfl | he | rfl | ⟨row, hrow, rfl⟩
  · exact hdeployed
  · rcases toDeployEndStatus_effect he with rfl | rfl | ⟨inner', hend, hdeployed', hfrom, rfl | rfl⟩
    · trivial
    · trivial
    · show RowInv bundleName inner'
      unfold RowInv
      rw [hend, hdeployed']
      exact ⟨hdeployed, .inr ⟨_, hfrom.shape⟩⟩
    · exact hinv.active
  · cases hrow : st.queryInnerAppQuickFix answers.query with
    | none => trivial
    | some row => exact hinv.of_query hrow
  · trivial

theorem deleteQuickFix_writes (hinv : Inv bundleName st) {answers : DeleteAnswers} :
    ∀ e ∈ (deleteQuickFix bundleName answers st).2, WritesRecorded bundleName e := by
  intro e he
  obtain ⟨row, -, -, rfl | rfl | rfl | rfl | ⟨info, -, -, dir, -, rfl⟩⟩ := deleteQuickFix_effect he
  · trivial
  · trivial
  · trivial
  · exact hinv.active
  · trivial

/-- What a switch writes besides the two rows it starts from and goes back to. -/
theorem switch_writes {start guard : Effect} {mid : List Effect} (hstart : SwitchWrites bundleName start)
    (hmid : ∀ e ∈ mid, e.SwitchesOut) (hguard : SwitchWrites bundleName guard) (rollback : Bool) :
    ∀ e ∈ start :: (mid ++ if rollback then [guard] else []), SwitchWrites bundleName e := by
  intro e he
  rcases List.mem_cons.mp he with rfl | he
  · exact hstart
  rcases List.mem_append.mp he with he | he
  · exact (hmid e he).switchWrites
  · split at he
    · exact List.mem_singleton.mp he ▸ hguard
    · exact absurd he List.not_mem_nil

theorem enableQuickFix_writes (hinv : Inv bundleName st) {answers : SwitchAnswers} :
    ∀ e ∈ (enableQuickFix bundleName answers st).2, SwitchWrites bundleName e := by
  obtain ⟨err, hnothing⟩ | ⟨row, hrow, hallowed, ⟨err, mid, hmid, hfailed⟩ | hswitched⟩ :=
    enableQuickFix_cases bundleName answers st
  · rw [hnothing]
    exact fun e he => absurd he List.not_mem_nil
  · obtain ⟨hdeployed, hdeploying⟩ := (hinv.of_query hrow).of_switch (.inl rfl) hallowed
    rw [hfailed]
    exact switch_writes (switchWrites_mark hdeployed hdeploying _) hmid
      (switchWrites_mark hdeployed hdeploying _) answers.rollback
  · obtain ⟨hdeployed, hdeploying⟩ := (hinv.of_query hrow).of_switch (.inl rfl) hallowed
    rw [hswitched]
    unfold enabledEffects switchedOut
    intro e he
    rcases List.mem_cons.mp he with rfl | he
    · exact switchWrites_mark hdeployed hdeploying _
    rcases List.mem_append.mp he with he | he
    · split at he
      · split at he
        · obtain rfl := List.mem_singleton.mp he
          trivial
        · exact absurd he List.not_mem_nil
      · obtain rfl := List.mem_singleton.mp he
        trivial
    · obtain rfl := List.mem_singleton.mp he
      exact hdeploying

theorem disableQuickFix_writes (hinv : Inv bundleName st) {answers : SwitchAnswers} :
    ∀ e ∈ (disableQuickFix bundleName answers st).2, SwitchWrites bundleName e := by
  have hrowInv : RowInv bundleName (disabledRow st answers) := by
    unfold disabledRow
    cases hrow : st.queryInnerAppQuickFix answers.query with
    | none => exact ⟨.inl rfl, .inl rfl⟩
    | some row => exact hinv.of_query hrow
  obtain ⟨err, hnothing⟩ | ⟨hallowed, ⟨err, mid, hmid, hfailed⟩ | ⟨deploying, hswitched⟩⟩ :=
    disableQuickFix_cases bundleName answers st
  · rw [hnothing]
    exact fun e he => absurd he List.not_mem_nil
  · obtain ⟨hdeployed, hdeploying⟩ := hrowInv.of_switch (.inr rfl) hallowed
    rw [hfailed]
    refine switch_writes (switchWrites_mark hdeployed hdeploying _) hmid ?_ answers.rollback
    unfold disabledRow at hdeployed hdeploying
    cases hrow : st.queryInnerAppQuickFix answers.query with
    | none => trivial
    | some row =>
      rw [hrow] at hdeployed hdeploying
      exact switchWrites_mark hdeployed hdeploying _
  · obtain ⟨hdeployed, hdeploying⟩ := hrowInv.of_switch (.inr rfl) hallowed
    rw [hswitched]
    intro e he
    simp only [List.mem_cons, List.not_mem_nil, or_false] at he
    rcases he with rfl | rfl | rfl
    · exact switchWrites_mark hdeployed hdeploying _
    · trivial
    · exact hdeployed

/-- Whatever fails in an operation, recorded patches stay recorded. -/
theorem inv_step (hinv : Inv bundleName st) (op : Op) : Inv bundleName (step bundleName st op) := by
  cases op with
  | deploy package params answers => exact hinv.run (deployQuickFix_writes hinv)
  | enable answers => exact hinv.run fun e he => (enableQuickFix_writes hinv e he).writesRecorded
  | disable answers => exact hinv.run fun e he => (disableQuickFix_writes hinv e he).writesRecorded
  | delete answers => exact hinv.run (deleteQuickFix_writes hinv)

/-! ## Every run -/

theorem opKeepsActive_iff (hinv : Inv bundleName st) (op : Op) :
    OpKeepsActive bundleName st op ↔ Careful bundleName st op := by
  cases op with
  | deploy package params answers => exact deploy_keepsActive_iff hinv.active
  | enable answers => exact iff_of_true (each_keepsActive_of_switch (enableQuickFix_writes hinv) st) trivial
  | disable answers => exact iff_of_true (each_keepsActive_of_switch (disableQuickFix_writes hinv) st) trivial
  | delete answers => exact delete_keepsActive_iff hinv.active

end

/-- **The active patch keeps its files** in just the runs whose operations are careful: from a
bundle without a quick fix, whatever fails in an operation, none removes a directory that is or
contains a code directory recorded for the patch active at that moment. -/
theorem active_files_kept_iff (bundleName : Str) (ops : List Op) :
    Each (step bundleName) (OpKeepsActive bundleName) {} ops ↔ Each (step bundleName) (Careful bundleName) {} ops :=
  each_iff_each_of_inv (fun _ op hinv => inv_step hinv op) (fun _ op hinv => opKeepsActive_iff hinv op)
    (inv_fresh bundleName)

/-- A package with one hqf for the module `entry`. -/
def entryPackage (type : QuickFixType) (versionCode : Nat) (h : type ≠ .unknown) : HqfPackage where
  type := type
  versionCode := versionCode
  abi := none
  hqfInfos := [{ moduleName := "entry".toList, hqfFilePath := securityRoot ++ "/1/entry.hqf".toList }]
  type_known := h
  hqfInfos_ne := by simp

/-- A patch with a target path, one by version after it, a hot reload that cannot be saved, and a
switch back; then a patch whose target path is not that of the active one. -/
def carefulRun : List Op :=
  [.deploy (entryPackage .patch 1 (by decide)) { targetPath := "a".toList } {}, .enable {}, .delete {},
   .deploy (entryPackage .patch 2 (by decide)) {} {}, .enable {}, .delete {},
   .deploy (entryPackage .hotReload 3 (by decide)) {} { updateBundle := false }, .disable {}, .delete {},
   .deploy (entryPackage .patch 4 (by decide)) { targetPath := "a".toList } {}, .enable {}, .delete {},
   .deploy (entryPackage .patch 5 (by decide)) { targetPath := "b".toList } {}]

theorem active_files_kept_carefulRun : Each (step "com.a".toList) (OpKeepsActive "com.a".toList) {} carefulRun :=
  (active_files_kept_iff "com.a".toList carefulRun).mpr (by decide +kernel)

/-- Two patches with target paths: the first is enabled, then the second; deleting the first
removes `patch` and with it `patch/b`, where the second is running. -/
def targetPathRun : List Op :=
  [.deploy (entryPackage .patch 1 (by decide)) { targetPath := "a".toList } {}, .enable {}, .delete {},
   .deploy (entryPackage .patch 2 (by decide)) { targetPath := "b".toList } {}, .enable {}, .delete {}]

theorem active_patch_removed : ¬ Each (step "com.a".toList) (OpKeepsActive "com.a".toList) {} targetPathRun := by
  decide +kernel

end BundleFramework.QuickFix
