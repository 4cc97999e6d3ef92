import BundleFramework.QuickFix.Switch

/-!
# Deploying a patch

`QuickFixDeployer` checks a parsed package against the row and the bundle info, saves it as
the deploying patch of the row, makes its directory and fills it, and records it in the
bundle info.  Three rules of the deployer compute a directory: `newPatchPath` (made, and
removed by the guard), the path of the moved hqf files, and `oldPath` (the deploying patch
that was replaced).
-/

namespace BundleFramework.QuickFix

open PathParts

/-! ## Input -/

def LIBS : Str := "libs/".toList

/-- What `ParseAndCheckAppQuickFixInfos` accepts, with the files of all modules: a known
type, at least one hqf, and a native library path below `libs/` if the package has libraries
that are not isolated by module. -/
structure HqfPackage where
  type : QuickFixType
  versionCode : Nat
  abi : Option Str
  hqfInfos : List HqfInfo
  type_known : type ≠ .unknown
  hqfInfos_ne : hqfInfos ≠ []

def HqfPackage.appqfInfo (package : HqfPackage) : AppqfInfo where
  versionCode := package.versionCode
  type := package.type
  nativeLibraryPath := package.abi.elim [] (LIBS ++ ·)
  hqfInfos := package.hqfInfos

structure DeployParams where
  targetPath : Str := []
  isReplace : Bool := false
  deriving DecidableEq, Repr

/-- The answers a deployment gets.  `parsed` and `checked` are those of the checks that do
not look at rows, versions or directories (file paths, debug type, resources, replace mode,
signature); `isExistDir` is `none` where the call fails. -/
structure DeployAnswers where
  parsed : Bool := true
  query : Bool := true
  bundleExists : Bool := true
  checked : Bool := true
  saveStart : Bool := true
  createDir : Bool := true
  extracted : Bool := true
  isExistDir : Str → Option Bool := fun _ => some false
  copyHqfFile : Str → Bool := fun _ => true
  verified : Bool := true
  saveEnd : Bool := true
  fetch : Bool := true
  updateBundle : Bool := true
  restore : Bool := true

/-! ## ToDeployStartStatus -/

def checkPatchVersionCode (newInfo : AppqfInfo) (oldAppQuickFix : AppQuickFix) : Bool :=
  oldAppQuickFix.deployedAppqfInfo.versionCode < newInfo.versionCode &&
    oldAppQuickFix.deployingAppqfInfo.versionCode < newInfo.versionCode

/-- The version check of `CheckCommonWithInstalledBundle`. -/
def checkCommonWithInstalledBundle (newInfo : AppqfInfo) (bundle : AppQuickFix) : Bool :=
  bundle.deployedAppqfInfo.hqfInfos.isEmpty || bundle.deployedAppqfInfo.versionCode < newInfo.versionCode

/-- `ToDeployStartStatus` up to the save: the row it is about to save. -/
def toDeployStartStatus (answers : DeployAnswers) (newInfo : AppqfInfo) (old : Option InnerAppQuickFix)
    (bundle : AppQuickFix) : Except QuickFixErr InnerAppQuickFix :=
  let oldRow := old.getD {}
  if old.isSome ∧ oldRow.status ≠ .deployStart ∧ oldRow.status ≠ .deployEnd then .error .invalidPatchStatus
  else if old.isSome ∧ newInfo.type = oldRow.appQuickFix.deployingAppqfInfo.type ∧
      checkPatchVersionCode newInfo oldRow.appQuickFix = false then .error .versionCodeError
  else if !answers.bundleExists then .error .bundleNameNotExist
  else if !answers.checked then .error .checkFailed
  else if newInfo.type = .unknown then .error .unknownQuickFixType
  else if !checkCommonWithInstalledBundle newInfo bundle then .error .versionCodeError
  else .ok {
    appQuickFix := { deployedAppqfInfo := oldRow.appQuickFix.deployedAppqfInfo, deployingAppqfInfo := newInfo }
    status := .deployStart }

/-! ## ToDeployEndStatus -/

/-- The directory of `ProcessPatchDeployEnd` and `ProcessHotReloadDeployEnd`, below the
bundle's code directory. -/
def newPatchDir (params : DeployParams) (info : AppqfInfo) : Str :=
  if info.type = .hotReload then hotReloadVersionDir info.versionCode
  else if params.targetPath ≠ [] then PATCH_DIR ++ '/' :: params.targetPath
  else patchVersionDir info.versionCode

def isFileNameValid (fileName : Str) : Bool :=
  fileName != [] && fileName != "..".toList &&
    (strFind fileName "../".toList).isNone && (strFind fileName "/..".toList).isNone &&
    (strFind fileName "//..".toList).isNone && fileName.all fun c => c != '\\' && 32 ≤ c.toNat

/-- `ProcessNativeLibraryPath` for one path. -/
def processOneNativeLibraryPath (params : DeployParams) (answers : DeployAnswers) (patchPath : Str)
    (versionCode : Nat) (libraryPath : Str) : Str :=
  if params.isReplace then libraryPath
  else if !isFileNameValid libraryPath then []
  else
    match answers.isExistDir (patchPath ++ '/' :: libraryPath) with
    | none => libraryPath
    | some true =>
      if params.targetPath ≠ [] then PATCH_DIR ++ '/' :: (params.targetPath ++ '/' :: libraryPath)
      else patchVersionDir versionCode ++ '/' :: libraryPath
    | some false => []

/-- A path that is empty stays empty. -/
def processIfAny (params : DeployParams) (answers : DeployAnswers) (patchPath : Str) (versionCode : Nat)
    (libraryPath : Str) : Str :=
  if libraryPath = [] then [] else processOneNativeLibraryPath params answers patchPath versionCode libraryPath

def processNativeLibraryPath (params : DeployParams) (answers : DeployAnswers) (patchPath : Str)
    (info : AppqfInfo) : AppqfInfo :=
  let path := processIfAny params answers patchPath info.versionCode info.nativeLibraryPath
  { info with
    nativeLibraryPath := if path = [] ∧ params.targetPath ≠ [] then PATCH_DIR ++ '/' :: params.targetPath else path
    hqfInfos := info.hqfInfos.map fun hqf =>
      { hqf with nativeLibraryPath := processIfAny params answers patchPath info.versionCode hqf.nativeLibraryPath } }

def QUICK_FIX_FILE_SUFFIX : Str := ".hqf".toList

/-- `HAP_COPY_PATH + "/" + SECURITY_QUICK_FIX_PATH`. -/
def securityRoot : Str := "/data/service/el1/public/bms/bundle_manager_service/security_quick_fix".toList

/-- `GetPathRelativeToRoot`: whether the path lies below the root. -/
def hasPathRelativeToRoot (path root : Str) : Bool :=
  root.length + 1 < path.length && (root ++ ['/']).isPrefixOf path

/-- The parameters `CopyHqfFile` refuses: a module name or a target path that is not one
component of a path, and a target path with a dot in it. -/
def copyHqfFileAccepts (moduleName : Str) (type : QuickFixType) (targetPath : Str) : Bool :=
  isFileNameValid moduleName && !moduleName.contains '/' &&
    (type != .patch || targetPath.isEmpty ||
      (isFileNameValid targetPath && !targetPath.contains '/' && !targetPath.contains '.'))

def withSlash (path : Str) : Str := if path.getLast? = some '/' then path else path ++ ['/']

/-- The loop of `MoveHqfFiles`. -/
def moveHqfInfos (params : DeployParams) (answers : DeployAnswers) (type : QuickFixType) (patchPath : Str) :
    List HqfInfo → Except QuickFixErr (List HqfInfo)
  | [] => .ok []
  | info :: infos =>
    if info.hqfFilePath = [] ∨ isFileNameValid info.moduleName = false then .error .paramError
    else if !(hasPathRelativeToRoot info.hqfFilePath securityRoot &&
        copyHqfFileAccepts info.moduleName type params.targetPath && answers.copyHqfFile info.moduleName) then
      .error .movePatchFileFailed
    else
      match moveHqfInfos params answers type patchPath infos with
      | .error err => .error err
      | .ok moved =>
        .ok ({ info with hqfFilePath := withSlash patchPath ++ (info.moduleName ++ QUICK_FIX_FILE_SUFFIX) } :: moved)

/-- `MoveHqfFiles`: the row with the moved files, at `DEPLOY_END`. -/
def moveHqfFiles (params : DeployParams) (answers : DeployAnswers) (inner : InnerAppQuickFix) (patchPath : Str) :
    Except QuickFixErr InnerAppQuickFix :=
  let info := inner.appQuickFix.deployingAppqfInfo
  match moveHqfInfos params answers info.type patchPath info.hqfInfos with
  | .error err => .error err
  | .ok moved =>
    .ok {
      appQuickFix := { inner.appQuickFix with deployingAppqfInfo := { info with hqfInfos := moved } }
      status := .deployEnd }

def InnerAppQuickFix.processNativeLibraryPath (params : DeployParams) (answers : DeployAnswers) (patchPath : Str)
    (inner : InnerAppQuickFix) : InnerAppQuickFix :=
  { inner with
    appQuickFix := { inner.appQuickFix with
      deployingAppqfInfo := QuickFix.processNativeLibraryPath params answers patchPath
        inner.appQuickFix.deployingAppqfInfo } }

/-- `ToDeployEndStatus`; the guard removes `newPatchPath` on every error. -/
def toDeployEndStatus (bundleName : Str) (params : DeployParams) (answers : DeployAnswers)
    (inner : InnerAppQuickFix) (bundle : AppQuickFix) : Option QuickFixErr × List Effect :=
  let info := inner.appQuickFix.deployingAppqfInfo
  if info.type = .unknown then (some .profileParseFailed, [])
  else
    let patchPath := underBase bundleName (newPatchDir params info)
    if !answers.createDir then (some .createPatchPathFailed, [.removeDir patchPath, .removeDir patchPath])
    else if info.type = .patch ∧ answers.extracted = false then
      (some .internalError, [.createBundleDir patchPath, .removeDir patchPath])
    else
      match moveHqfFiles params answers (inner.processNativeLibraryPath params answers patchPath) patchPath with
      | .error err => (some err, [.createBundleDir patchPath, .removeDir patchPath])
      | .ok inner' =>
        if !answers.verified then (some .verifyFailed, [.createBundleDir patchPath, .removeDir patchPath])
        else if !answers.saveEnd then
          (some .saveAppQuickFixFailed, [.createBundleDir patchPath, .removeDir patchPath])
        else if !answers.fetch then
          (some .notExistedBundleInfo, [.createBundleDir patchPath, .saveRow inner', .removeDir patchPath])
        else if !answers.updateBundle then
          (some .internalError, [.createBundleDir patchPath, .saveRow inner', .removeDir patchPath])
        else
          (none, [.createBundleDir patchPath, .saveRow inner',
            .saveBundle { bundle with deployingAppqfInfo := inner'.appQuickFix.deployingAppqfInfo }])

/-- The directory of the replaced deploying patch, by `DeployQuickFix`. -/
def oldDir (info : AppqfInfo) : Str :=
  if info.type = .hotReload then hotReloadVersionDir info.versionCode else patchVersionDir info.versionCode

def deployQuickFix (bundleName : Str) (package : HqfPackage) (params : DeployParams) (answers : DeployAnswers)
    (st : Store) : Option QuickFixErr × List Effect :=
  if !answers.parsed then (some .profileParseFailed, [])
  else
    let old := st.queryInnerAppQuickFix answers.query
    match toDeployStartStatus answers package.appqfInfo old st.bundle with
    | .error err => (some err, [])
    | .ok inner =>
      if !answers.saveStart then (some .saveAppQuickFixFailed, [])
      else
        match toDeployEndStatus bundleName params answers inner st.bundle with
        | (some err, es) =>
          (some err, .saveRow inner :: es ++
            if answers.restore then [old.elim .deleteRow .saveRow] else [])
        | (none, es) =>
          (none, .saveRow inner :: es ++
            old.elim [] fun row =>
              [.removeDir (underBase bundleName (oldDir row.appQuickFix.deployingAppqfInfo))])

/-! ## What a deployment does -/

theorem toDeployStartStatus_ok {answers : DeployAnswers} {newInfo : AppqfInfo} {old : Option InnerAppQuickFix}
    {bundle : AppQuickFix} {inner : InnerAppQuickFix}
    (h : toDeployStartStatus answers newInfo old bundle = .ok inner) :
    (∀ row, old = some row → row.status = .deployStart ∨ row.status = .deployEnd) ∧
    (bundle.deployedAppqfInfo.hqfInfos ≠ [] → bundle.deployedAppqfInfo.versionCode < newInfo.versionCode) ∧
    inner = {
      appQuickFix := { deployedAppqfInfo := (old.getD {}).appQuickFix.deployedAppqfInfo, deployingAppqfInfo := newInfo }
      status := .deployStart } := by
  unfold toDeployStartStatus at h
  simp only at h
  split at h
  · cases h
  next hstatus =>
    split at h
    · cases h
    split at h
    · cases h
    split at h
    · cases h
    split at h
    · cases h
    split at h
    · cases h
    next hcommon =>
      refine ⟨?_, ?_, (Except.ok.inj h).symm⟩
      · rintro row rfl
        by_contra hneither
        rw [not_or] at hneither
        exact hstatus ⟨rfl, hneither⟩
      · intro hpatch
        simpa [checkCommonWithInstalledBundle, hpatch] using hcommon

theorem components_withSlash_append (path file : Str) :
    components (withSlash path ++ file) = components path ++ components file := by
  unfold withSlash
  split
  next hlast =>
    obtain ⟨init, rfl⟩ := List.getLast?_eq_some_iff.mp hlast
    rw [List.append_assoc, List.singleton_append, components_append_slash, components_append_slash]
    rw [show components [] = [] from rfl, List.append_nil]
  · rw [List.append_assoc, List.singleton_append, components_append_slash]

/-- A moved file stands directly in the new directory. -/
theorem dropLast_moved {moduleName : Str} (hslash : '/' ∉ moduleName) (patchPath : Str) :
    (components (withSlash patchPath ++ (moduleName ++ QUICK_FIX_FILE_SUFFIX))).dropLast = components patchPath := by
  have hfile : components (moduleName ++ QUICK_FIX_FILE_SUFFIX) = [moduleName ++ QUICK_FIX_FILE_SUFFIX] := by
    refine components_eq_singleton_of_length ?_ ?_
    · rw [List.mem_append]
      rintro (h | h)
      · exact hslash h
      · revert h
        decide
    · rw [List.length_append, show QUICK_FIX_FILE_SUFFIX.length = 4 from rfl]
      omega
  rw [components_withSlash_append, hfile, List.dropLast_concat]

theorem slash_not_mem_of_accepts {moduleName targetPath : Str} {type : QuickFixType}
    (h : copyHqfFileAccepts moduleName type targetPath = true) : '/' ∉ moduleName := by
  simp only [copyHqfFileAccepts, Bool.and_eq_true, Bool.not_eq_true', List.contains_eq_mem,
    decide_eq_false_iff_not] at h
  exact h.1.2

theorem moveHqfInfos_ok {params : DeployParams} {answers : DeployAnswers} {type : QuickFixType} {patchPath : Str}
    {infos moved : List HqfInfo} (h : moveHqfInfos params answers type patchPath infos = .ok moved) :
    moved.length = infos.length ∧ ∀ hqf ∈ moved, (components hqf.hqfFilePath).dropLast = components patchPath := by
  induction infos generalizing moved with
  | nil =>
    obtain rfl := Except.ok.inj h
    simp
  | cons info infos ih =>
    rw [moveHqfInfos] at h
    split at h
    · cases h
    split at h
    · cases h
    next haccepted =>
      cases hrest : moveHqfInfos params answers type patchPath infos with
      | error err =>
        rw [hrest] at h
        cases h
      | ok rest =>
        rw [hrest] at h
        obtain rfl := Except.ok.inj h
        obtain ⟨hlength, hdirs⟩ := ih hrest
        have hslash : '/' ∉ info.moduleName := by
          simp only [Bool.not_eq_true', Bool.not_eq_false, Bool.and_eq_true] at haccepted
          exact slash_not_mem_of_accepts haccepted.1.2
        refine ⟨by simp [hlength], ?_⟩
        intro hqf hmem
        rcases List.mem_cons.mp hmem with rfl | hmem
        · exact dropLast_moved hslash patchPath
        · exact hdirs hqf hmem

/-- What the deployed patch keeps of the patch it was made from, and where it stands. -/
structure DeployedFrom (params : DeployParams) (answers : DeployAnswers) (patchPath : Str) (info new : AppqfInfo) :
    Prop where
  type : new.type = info.type
  versionCode : new.versionCode = info.versionCode
  nativeLibraryPath : new.nativeLibraryPath = (processNativeLibraryPath params answers patchPath info).nativeLibraryPath
  hqfInfos : new.hqfInfos.length = info.hqfInfos.length
  codeDirs : ∀ place ∈ codeDirs new, place = components patchPath

theorem moveHqfFiles_ok {params : DeployParams} {answers : DeployAnswers} {inner inner' : InnerAppQuickFix}
    {patchPath : Str}
    (h : moveHqfFiles params answers (inner.processNativeLibraryPath params answers patchPath) patchPath = .ok inner') :
    inner'.status = .deployEnd ∧ inner'.appQuickFix.deployedAppqfInfo = inner.appQuickFix.deployedAppqfInfo ∧
    DeployedFrom params answers patchPath inner.appQuickFix.deployingAppqfInfo inner'.appQuickFix.deployingAppqfInfo := by
  unfold moveHqfFiles at h
  simp only at h
  split at h
  · cases h
  next moved hmoved =>
    obtain rfl := Except.ok.inj h
    obtain ⟨hlength, hdirs⟩ := moveHqfInfos_ok hmoved
    refine ⟨rfl, rfl, rfl, rfl, rfl, ?_, ?_⟩
    · rw [hlength]
      exact List.length_map _
    · intro place hplace
      obtain ⟨hqf, hmem, rfl⟩ := List.mem_map.mp hplace
      exact hdirs hqf hmem

/-- **Deploying, second half**: the new directory is made or removed, and the deployed patch is
saved to the row and to the bundle info. -/
theorem toDeployEndStatus_effect {bundleName : Str} {params : DeployParams} {answers : DeployAnswers}
    {inner : InnerAppQuickFix} {bundle : AppQuickFix} {e : Effect}
    (he : e ∈ (toDeployEndStatus bundleName params answers inner bundle).2) :
    let patchPath := underBase bundleName (newPatchDir params inner.appQuickFix.deployingAppqfInfo)
    e = .createBundleDir patchPath ∨ e = .removeDir patchPath ∨
      ∃ inner', inner'.status = .deployEnd ∧
        inner'.appQuickFix.deployedAppqfInfo = inner.appQuickFix.deployedAppqfInfo ∧
        DeployedFrom params answers patchPath inner.appQuickFix.deployingAppqfInfo
          inner'.appQuickFix.deployingAppqfInfo ∧
        (e = .saveRow inner' ∨
          e = .saveBundle { bundle with deployingAppqfInfo := inner'.appQuickFix.deployingAppqfInfo }) := by
  intro patchPath
  unfold toDeployEndStatus at he
  simp only at he
  split at he
  · simp at he
  split at he
  · simp only [List.mem_cons, List.not_mem_nil, or_false, or_self] at he
    exact .inr (.inl he)
  have hmade (h : e ∈ [.createBundleDir patchPath, .removeDir patchPath]) :
      e = .createBundleDir patchPath ∨ e = .removeDir patchPath := by simpa using h
  split at he
  · exact (hmade he).imp_right .inl
  cases hmoved : moveHqfFiles params answers (inner.processNativeLibraryPath params answers patchPath) patchPath with
  | error err =>
    rw [hmoved] at he
    exact (hmade he).imp_right .inl
  | ok inner' =>
    rw [hmoved] at he
    simp only at he
    obtain ⟨hstatus, hdeployed, hfrom⟩ := moveHqfFiles_ok hmoved
    split at he
    · exact (hmade he).imp_right .inl
    split at he
    · exact (hmade he).imp_right .inl
    split at he
    · simp only [List.mem_cons, List.not_mem_nil, or_false] at he
      rcases he with he | he | he
      · exact .inl he
      · exact .inr (.inr ⟨inner', hstatus, hdeployed, hfrom, .inl he⟩)
      · exact .inr (.inl he)
    split at he
    · simp only [List.mem_cons, List.not_mem_nil, or_false] at he
      rcases he with he | he | he
      · exact .inl he
      · exact .inr (.inr ⟨inner', hstatus, hdeployed, hfrom, .inl he⟩)
      · exact .inr (.inl he)
    · simp only [List.mem_cons, List.not_mem_nil, or_false] at he
      rcases he with he | he
      · exact .inl he
      · exact .inr (.inr ⟨inner', hstatus, hdeployed, hfrom, he⟩)

/-- The effects of a deployment, by the part that has them: the row of the first half, the
second half, the old row put back, and the directory of the replaced patch removed. -/
theorem mem_deployQuickFix {bundleName : Str} {package : HqfPackage} {params : DeployParams}
    {answers : DeployAnswers} {st : Store} {e : Effect}
    (he : e ∈ (deployQuickFix bundleName package params answers st).2) :
    ∃ inner, toDeployStartStatus answers package.appqfInfo (st.queryInnerAppQuickFix answers.query) st.bundle =
        .ok inner ∧
      (e = .saveRow inner ∨ e ∈ (toDeployEndStatus bundleName params answers inner st.bundle).2 ∨
        e = (st.queryInnerAppQuickFix answers.query).elim .deleteRow .saveRow ∨
        ∃ row, st.queryInnerAppQuickFix answers.query = some row ∧
          e = .removeDir (underBase bundleName (oldDir row.appQuickFix.deployingAppqfInfo))) := by
  unfold deployQuickFix at he
  split at he
  · simp at he
  dsimp only at he
  cases hstart : toDeployStartStatus answers package.appqfInfo (st.queryInnerAppQuickFix answers.query) st.bundle with
  | error err => simp [hstart] at he
  | ok inner =>
    refine ⟨inner, rfl, ?_⟩
    rw [hstart] at he
    dsimp only at he
    split at he
    · simp at he
    rcases hend : toDeployEndStatus bundleName params answers inner st.bundle with ⟨_ | err, es⟩
    · rw [hend] at he
      dsimp only at he
      rw [List.cons_append, List.mem_cons, List.mem_append] at he
      rcases he with h | h | h
      · exact .inl h
      · exact .inr (.inl h)
      · cases hrow : st.queryInnerAppQuickFix answers.query with
        | none => simp [hrow] at h
        | some row =>
          rw [hrow] at h
          exact .inr (.inr (.inr ⟨row, rfl, List.mem_singleton.mp h⟩))
    · rw [hend] at he
      dsimp only at he
      rw [List.cons_append, List.mem_cons, List.mem_append] at he
      rcases he with h | h | h
      · exact .inl h
      · exact .inr (.inl h)
      · split at h
        · exact .inr (.inr (.inl (List.mem_singleton.mp h)))
        · exact absurd h List.not_mem_nil

/-- Deploying leaves the active patch in the bundle info. -/
theorem deployQuickFix_saveBundle {bundleName : Str} {package : HqfPackage} {params : DeployParams}
    {answers : DeployAnswers} {st : Store} {info : AppQuickFix}
    (h : .saveBundle info ∈ (deployQuickFix bundleName package params answers st).2) :
    info.deployedAppqfInfo = st.active := by
  obtain ⟨inner, -, h | h | h | ⟨row, -, h⟩⟩ := mem_deployQuickFix h
  · cases h
  · rcases toDeployEndStatus_effect h with h | h | ⟨inner', -, -, -, h | h⟩
    · cases h
    · cases h
    · cases h
    · rw [Effect.saveBundle.inj h]
      rfl
  · cases hrow : st.queryInnerAppQuickFix answers.query <;> rw [hrow] at h <;> cases h
  · cases h

end BundleFramework.QuickFix
