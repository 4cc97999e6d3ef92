import BundleFramework.Base.Str
import BundleFramework.Lib.PathParts
import BundleFramework.Lib.StepRun

/-!
# Patches, their rows and their directories

A bundle's quick fix lives in three stores: the row of the quick-fix table, the
`appQuickFix` of the bundle info, and the directories below the bundle's code directory.
An operation is modelled by the durable effects it has, in their order, so that a run can
stop between any two of them.

Rows and bundle infos are those of one bundle; its name is the key of the row and is not
repeated in it.
-/

namespace BundleFramework.QuickFix

open PathParts

inductive QuickFixType
  | unknown
  | patch
  | hotReload
  deriving DecidableEq, Repr

structure HqfInfo where
  moduleName : Str
  hqfFilePath : Str
  nativeLibraryPath : Str := []
  deriving DecidableEq, Repr

/-- `AppqfInfo`; `versionCode` is a `uint32_t` that is only compared and printed. -/
structure AppqfInfo where
  versionCode : Nat := 0
  type : QuickFixType := .unknown
  nativeLibraryPath : Str := []
  hqfInfos : List HqfInfo := []
  deriving DecidableEq, Repr

structure AppQuickFix where
  deployedAppqfInfo : AppqfInfo := {}
  deployingAppqfInfo : AppqfInfo := {}
  deriving DecidableEq, Repr

inductive QuickFixStatus
  | defaultStatus
  | deployStart
  | deployEnd
  | switchEnableStart
  | switchDisableStart
  | switchEnd
  | deleteStart
  | deleteEnd
  deriving DecidableEq, Repr

/-- A row of the quick-fix table; `status` is that of its mark. -/
structure InnerAppQuickFix where
  appQuickFix : AppQuickFix := {}
  status : QuickFixStatus := .defaultStatus
  deriving DecidableEq, Repr

def InnerAppQuickFix.setQuickFixMark (inner : InnerAppQuickFix) (status : QuickFixStatus) : InnerAppQuickFix :=
  { inner with status := status }

def InnerAppQuickFix.switchQuickFix (inner : InnerAppQuickFix) : InnerAppQuickFix :=
  { inner with appQuickFix := { deployedAppqfInfo := inner.appQuickFix.deployingAppqfInfo
                                deployingAppqfInfo := inner.appQuickFix.deployedAppqfInfo } }

@[simp]
theorem InnerAppQuickFix.switchQuickFix_switchQuickFix (inner : InnerAppQuickFix) :
    inner.switchQuickFix.switchQuickFix = inner := rfl

@[simp]
theorem InnerAppQuickFix.setQuickFixMark_appQuickFix (inner : InnerAppQuickFix) (status : QuickFixStatus) :
    (inner.setQuickFixMark status).appQuickFix = inner.appQuickFix := rfl

@[simp]
theorem InnerAppQuickFix.setQuickFixMark_status (inner : InnerAppQuickFix) (status : QuickFixStatus) :
    (inner.setQuickFixMark status).status = status := rfl

@[simp]
theorem InnerAppQuickFix.setQuickFixMark_setQuickFixMark (inner : InnerAppQuickFix) (status status' : QuickFixStatus) :
    (inner.setQuickFixMark status).setQuickFixMark status' = inner.setQuickFixMark status' := rfl

theorem InnerAppQuickFix.setQuickFixMark_self {inner : InnerAppQuickFix} {status : QuickFixStatus}
    (h : inner.status = status) : inner.setQuickFixMark status = inner := by
  subst h
  rfl

/-- The error codes of the modelled functions; `none` stands for `ERR_OK`. -/
inductive QuickFixErr
  | paramError
  | internalError
  | profileParseFailed
  | bundleNameNotExist
  | versionCodeError
  | invalidPatchStatus
  | checkFailed
  | saveAppQuickFixFailed
  | createPatchPathFailed
  | movePatchFileFailed
  | verifyFailed
  | notExistedBundleInfo
  | noPatchInDatabase
  | noPatchInfoInBundleInfo
  | oldPatchOrHotReloadInDb
  | unknownQuickFixType
  | removePatchPathFailed
  deriving DecidableEq, Repr

/-! ## The stores and the effects on them -/

structure Store where
  row : Option InnerAppQuickFix := none
  bundle : AppQuickFix := {}
  deriving DecidableEq, Repr

/-- The patch the bundle runs with. -/
def Store.active (st : Store) : AppqfInfo := st.bundle.deployedAppqfInfo

/-- A durable effect.  `removeDir` stands for every call that asks installd to remove a
directory: what it refuses or fails to remove is still there, so the calls cover what is
lost.  `createBundleDir` is a successful `CreateBundleDir`, which removes a directory of
that name and makes an empty one. -/
inductive Effect
  | saveRow (row : InnerAppQuickFix)
  | deleteRow
  | saveBundle (info : AppQuickFix)
  | removeDir (dir : Str)
  | createBundleDir (dir : Str)
  deriving DecidableEq, Repr

def Store.apply (st : Store) : Effect → Store
  | .saveRow row => { st with row := some row }
  | .deleteRow => { st with row := none }
  | .saveBundle info => { st with bundle := info }
  | .removeDir _ => st
  | .createBundleDir _ => st

def Store.run (st : Store) (effects : List Effect) : Store := effects.foldl Store.apply st

@[simp]
theorem Store.run_nil (st : Store) : st.run [] = st := rfl

@[simp]
theorem Store.run_cons (st : Store) (e : Effect) (es : List Effect) : st.run (e :: es) = (st.apply e).run es := rfl

@[simp]
theorem Store.run_append (st : Store) (es es' : List Effect) : st.run (es ++ es') = (st.run es).run es' :=
  List.foldl_append

@[simp]
theorem Store.apply_saveRow (st : Store) (row : InnerAppQuickFix) :
    st.apply (.saveRow row) = { st with row := some row } := rfl

@[simp]
theorem Store.apply_deleteRow (st : Store) : st.apply .deleteRow = { st with row := none } := rfl

@[simp]
theorem Store.apply_saveBundle (st : Store) (info : AppQuickFix) :
    st.apply (.saveBundle info) = { st with bundle := info } := rfl

@[simp]
theorem Store.apply_removeDir (st : Store) (dir : Str) : st.apply (.removeDir dir) = st := rfl

@[simp]
theorem Store.apply_createBundleDir (st : Store) (dir : Str) : st.apply (.createBundleDir dir) = st := rfl

/-- `QueryInnerAppQuickFix`: a query that fails is answered like a missing row. -/
def Store.queryInnerAppQuickFix (st : Store) (answers : Bool) : Option InnerAppQuickFix :=
  if answers then st.row else none

theorem Store.row_of_query {st : Store} {answers : Bool} {row : InnerAppQuickFix}
    (h : st.queryInnerAppQuickFix answers = some row) : st.row = some row := by
  unfold Store.queryInnerAppQuickFix at h
  split at h
  · exact h
  · cases h

/-! ## Directories -/

def BUNDLE_CODE_DIR : Str := "/data/app/el1/bundle/public".toList

def PATCH_PATH : Str := "patch_".toList

def HOT_RELOAD_PATH : Str := "hotreload_".toList

/-- `PATCH_DIR` of the deleter. -/
def PATCH_DIR : Str := "patch".toList

/-- `BUNDLE_CODE_DIR + "/" + bundleName + "/" + dir`. -/
def underBase (bundleName dir : Str) : Str := BUNDLE_CODE_DIR ++ '/' :: (bundleName ++ '/' :: dir)

/-- `patch_` and the version code. -/
def patchVersionDir (versionCode : Nat) : Str := PATCH_PATH ++ toDecimal versionCode

/-- `hotreload_` and the version code. -/
def hotReloadVersionDir (versionCode : Nat) : Str := HOT_RELOAD_PATH ++ toDecimal versionCode

/-- The place of the bundle's code directory. -/
def rootPlace (bundleName : Str) : List Str := components BUNDLE_CODE_DIR ++ components bundleName

/-- The directories recorded for a patch: those its hqf files stand in. -/
def codeDirs (info : AppqfInfo) : List (List Str) :=
  info.hqfInfos.map fun hqf => (components hqf.hqfFilePath).dropLast

/-- Removing `dir` would take away a code directory of the patch. -/
def Hits (dir : Str) (info : AppqfInfo) : Prop := ∃ place ∈ codeDirs info, Covers dir place

instance (dir : Str) (info : AppqfInfo) : Decidable (Hits dir info) :=
  inferInstanceAs (Decidable (∃ place ∈ codeDirs info, Covers dir place))

theorem codeDirs_eq_nil_iff (info : AppqfInfo) : codeDirs info = [] ↔ info.hqfInfos = [] := List.map_eq_nil_iff

theorem not_hits_of_empty {info : AppqfInfo} (h : info.hqfInfos = []) (dir : Str) : ¬ Hits dir info := by
  rintro ⟨place, hplace, -⟩
  rw [(codeDirs_eq_nil_iff info).mpr h] at hplace
  exact absurd hplace List.not_mem_nil

theorem components_underBase (bundleName dir : Str) :
    components (underBase bundleName dir) = rootPlace bundleName ++ components dir := by
  unfold underBase rootPlace
  rw [components_append_slash, components_append_slash, List.append_assoc]

theorem slash_not_mem_toDecimal (n : Int) : '/' ∉ toDecimal n := by
  have hdigits (k : Nat) : '/' ∉ Nat.toDigits 10 k := fun h => by
    have := Nat.isDigit_of_mem_toDigits (by decide) (by decide) h
    revert this
    decide
  rw [toDecimal_eq]
  split
  · exact hdigits _
  · simp [hdigits]

theorem slash_not_mem_patchVersionDir (v : Nat) : '/' ∉ patchVersionDir v := by
  unfold patchVersionDir
  rw [List.mem_append]
  rintro (h | h)
  · revert h
    decide
  · exact slash_not_mem_toDecimal _ h

theorem components_patchVersionDir (v : Nat) : components (patchVersionDir v) = [patchVersionDir v] := by
  refine components_eq_singleton_of_length (slash_not_mem_patchVersionDir v) ?_
  unfold patchVersionDir
  rw [List.length_append, show PATCH_PATH.length = 6 from rfl]
  omega

theorem components_hotReloadVersionDir (v : Nat) : components (hotReloadVersionDir v) = [hotReloadVersionDir v] := by
  refine components_eq_singleton_of_length ?_ ?_
  · unfold hotReloadVersionDir
    rw [List.mem_append]
    rintro (h | h)
    · revert h
      decide
    · exact slash_not_mem_toDecimal _ h
  · unfold hotReloadVersionDir
    rw [List.length_append, show HOT_RELOAD_PATH.length = 10 from rfl]
    omega

theorem components_PATCH_DIR : components PATCH_DIR = [PATCH_DIR] := by decide

theorem patchVersionDir_injective : Function.Injective patchVersionDir := by
  intro v w h
  exact Int.ofNat_inj.mp (toDecimal_injective (List.append_cancel_left h))

theorem hotReloadVersionDir_injective : Function.Injective hotReloadVersionDir := by
  intro v w h
  exact Int.ofNat_inj.mp (toDecimal_injective (List.append_cancel_left h))

theorem patchVersionDir_ne_hotReloadVersionDir (v w : Nat) : patchVersionDir v ≠ hotReloadVersionDir w := by
  intro h
  change 'p' :: _ = 'h' :: _ at h
  exact absurd (List.cons.inj h).1 (by decide)

theorem PATCH_DIR_ne_patchVersionDir (v : Nat) : PATCH_DIR ≠ patchVersionDir v := by
  intro h
  have := congrArg List.length h
  rw [patchVersionDir, List.length_append, show PATCH_PATH.length = 6 from rfl, show PATCH_DIR.length = 5 from rfl] at this
  omega

theorem PATCH_DIR_ne_hotReloadVersionDir (v : Nat) : PATCH_DIR ≠ hotReloadVersionDir v := by
  intro h
  have := congrArg List.length h
  rw [hotReloadVersionDir, List.length_append, show HOT_RELOAD_PATH.length = 10 from rfl, show PATCH_DIR.length = 5 from rfl] at this
  omega

end BundleFramework.QuickFix
