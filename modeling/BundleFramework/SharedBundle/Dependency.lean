import BundleFramework.SharedBundle.Installer

/-!
# Dependencies on shared bundles

`CheckDependency` looks for a dependency among the packages of the set, then among the installed records.  The two are
merged by `Install`: a record that met the dependency still does, since the front of a version list never goes
down, and a record into which a package was merged meets what the package meets.
-/

namespace BundleFramework.SharedBundle

open Std

/-- The record is a shared bundle whose greatest version of the module is high enough. -/
def Meets (info : InnerBundleInfo) (moduleName : Str) (versionCode : Nat) : Prop :=
  info.applicationBundleType = .SHARED ∧
    ∃ module ∈ (versionsOf info.innerSharedModuleInfos moduleName).head?, versionCode ≤ module.versionCode

section Queries

variable {ρ : Type} {moduleName : Str} {versionCode : Nat}

theorem getMax_any (bundleName : Str) (versions : ModuleVersions) :
    ((getMaxVerBaseSharedBundleInfo bundleName versions moduleName).any fun sharedBundle =>
      versionCode ≤ sharedBundle.versionCode) = true ↔
    ∃ module ∈ (versionsOf versions moduleName).head?, versionCode ≤ module.versionCode := by
  unfold getMaxVerBaseSharedBundleInfo versionsOf
  cases versions[moduleName]? with
  | none => simp
  | some modules =>
    cases modules with
    | nil => simp
    | cons module rest => simp [module.shared, InnerModuleInfo.base]

theorem findDependency_iff (s : State ρ) (dependency : Dependency) :
    findDependencyInInstalledBundles s dependency = true ↔
      ∃ info ∈ fetchInnerBundleInfo s dependency.bundleName, Meets info dependency.moduleName dependency.versionCode := by
  unfold findDependencyInInstalledBundles Meets
  cases fetchInnerBundleInfo s dependency.bundleName with
  | none => simp
  | some info =>
    dsimp only
    split
    · next htype =>
      constructor
      · intro h
        cases h
      · rintro ⟨found, hfound, hshared, -⟩
        obtain rfl := Option.some.inj hfound
        exact absurd hshared htype
    · next htype =>
      rw [getMax_any]
      constructor
      · intro h
        exact ⟨info, rfl, Decidable.not_not.mp htype, h⟩
      · rintro ⟨found, hfound, -, h⟩
        obtain rfl := Option.some.inj hfound
        exact h

end Queries

/-! ## The merge -/

section Merge

variable {moduleName : Str} {versionCode : Nat}

theorem head_insertVersion (info : InnerModuleInfo) (modules : List InnerModuleInfo) :
    ∃ module ∈ (insertVersion info modules).head?, info.versionCode ≤ module.versionCode ∧
      ∀ old ∈ modules.head?, old.versionCode ≤ module.versionCode := by
  cases modules with
  | nil => exact ⟨info, rfl, Nat.le_refl _, by simp⟩
  | cons item rest =>
    unfold insertVersion
    split
    · next heq => exact ⟨info, rfl, Nat.le_refl _, by simp [heq]⟩
    split
    · next hlt => exact ⟨info, rfl, Nat.le_refl _, by simpa using Nat.le_of_lt hlt⟩
    · next hne hge => exact ⟨item, rfl, by omega, by simp⟩

/-- The module of a shared package. -/
def Hsp.module (hsp : Hsp) : InnerModuleInfo where
  moduleName := hsp.moduleName
  modulePackage := hsp.moduleName
  versionCode := hsp.versionCode

theorem info_of_shared {hsp : Hsp} (h : hsp.bundleType = .SHARED) :
    hsp.info.innerSharedModuleInfos = (∅ : ModuleVersions).insert hsp.moduleName [hsp.module] := by
  unfold Hsp.info
  dsimp only
  rw [if_pos h]
  unfold insertInnerSharedModuleInfo
  rw [ExtTreeMap.getElem?_empty]
  rfl

theorem toList_singleton (name : Str) (modules : List InnerModuleInfo) :
    ((∅ : ModuleVersions).insert name modules).toList = [(name, modules)] := by
  have hlength : ((∅ : ModuleVersions).insert name modules).toList.length = 1 := by
    rw [ExtTreeMap.length_toList, ExtTreeMap.size_insert]
    simp
  obtain ⟨item, hitem⟩ := List.length_eq_one_iff.mp hlength
  have hmem : (name, modules) ∈ ((∅ : ModuleVersions).insert name modules).toList := by
    rw [ExtTreeMap.mem_toList_iff_getElem?_eq_some, ExtTreeMap.getElem?_insert_self]
  rw [hitem, List.mem_singleton] at hmem
  rw [hitem, hmem]

/-- A package that is not shared has no module to merge. -/
theorem mergeStep_not_shared {hsp : Hsp} (h : hsp.bundleType ≠ .SHARED) (new : InnerBundleInfo) :
    InnerSharedBundleInstaller.mergeStep new hsp.info = new := by
  have hempty : hsp.info.innerSharedModuleInfos = ∅ := if_neg h
  unfold InnerSharedBundleInstaller.mergeStep
  rw [hempty]
  rfl

theorem mergeStep_shared {hsp : Hsp} (h : hsp.bundleType = .SHARED) (new : InnerBundleInfo) :
    (InnerSharedBundleInstaller.mergeStep new hsp.info).innerSharedModuleInfos =
        insertInnerSharedModuleInfo new.innerSharedModuleInfos hsp.moduleName hsp.module ∧
      ((InnerSharedBundleInstaller.mergeStep new hsp.info).applicationBundleType = new.applicationBundleType ∨
        (InnerSharedBundleInstaller.mergeStep new hsp.info).applicationBundleType = .SHARED) := by
  unfold InnerSharedBundleInstaller.mergeStep
  rw [info_of_shared h, toList_singleton]
  dsimp only [List.head?_cons]
  split
  · exact ⟨rfl, .inr h⟩
  · exact ⟨rfl, .inl rfl⟩

/-- One turn of the loop loses nothing. -/
theorem Meets.mergeStep {new : InnerBundleInfo} (h : Meets new moduleName versionCode) (hsp : Hsp) :
    Meets (InnerSharedBundleInstaller.mergeStep new hsp.info) moduleName versionCode := by
  by_cases hshared : hsp.bundleType = .SHARED
  · obtain ⟨htype, old, hold, hle⟩ := h
    obtain ⟨hinner, hnew⟩ := mergeStep_shared hshared new
    refine ⟨?_, ?_⟩
    · rcases hnew with hnew | hnew
      · exact hnew.trans htype
      · exact hnew
    rw [hinner]
    by_cases heq : moduleName = hsp.moduleName
    · subst heq
      rw [insert_self]
      obtain ⟨module, hmodule, -, hheads⟩ := head_insertVersion hsp.module (versionsOf new.innerSharedModuleInfos hsp.moduleName)
      exact ⟨module, hmodule, Nat.le_trans hle (hheads old hold)⟩
    · unfold versionsOf at hold ⊢
      rw [insert_other _ _ heq]
      exact ⟨old, hold, hle⟩
  · rw [mergeStep_not_shared hshared]
    exact h

/-- The turn of a package brings what the package has. -/
theorem meets_of_package {new : InnerBundleInfo} {hsp : Hsp} (hnew : new.applicationBundleType = .SHARED)
    (h : ∃ module ∈ (versionsOf hsp.info.innerSharedModuleInfos moduleName).head?, versionCode ≤ module.versionCode) :
    Meets (InnerSharedBundleInstaller.mergeStep new hsp.info) moduleName versionCode := by
  obtain ⟨package, hpackage, hle⟩ := h
  by_cases hshared : hsp.bundleType = .SHARED
  · obtain ⟨hinner, htype⟩ := mergeStep_shared hshared new
    have hown : moduleName = hsp.moduleName ∧ package = hsp.module := by
      rw [info_of_shared hshared] at hpackage
      unfold versionsOf at hpackage
      rw [ExtTreeMap.getElem?_insert] at hpackage
      split at hpackage
      · next heq => exact ⟨(by simpa using heq : hsp.moduleName = moduleName).symm, (Option.some.inj hpackage).symm⟩
      · simp at hpackage
    obtain ⟨rfl, rfl⟩ := hown
    refine ⟨?_, ?_⟩
    · rcases htype with htype | htype
      · exact htype.trans hnew
      · exact htype
    rw [hinner, insert_self]
    obtain ⟨module, hmodule, hown, -⟩ := head_insertVersion hsp.module (versionsOf new.innerSharedModuleInfos hsp.moduleName)
    exact ⟨module, hmodule, Nat.le_trans hle hown⟩
  · have hempty : hsp.info.innerSharedModuleInfos = ∅ := if_neg hshared
    rw [hempty] at hpackage
    simp [versionsOf] at hpackage

theorem mergeStep_type {new : InnerBundleInfo} (h : new.applicationBundleType = .SHARED) (hsp : Hsp) :
    (InnerSharedBundleInstaller.mergeStep new hsp.info).applicationBundleType = .SHARED := by
  by_cases hshared : hsp.bundleType = .SHARED
  · rcases (mergeStep_shared hshared new).2 with htype | htype
    · exact htype.trans h
    · exact htype
  · rw [mergeStep_not_shared hshared]
    exact h

theorem Meets.foldl {new : InnerBundleInfo} (h : Meets new moduleName versionCode) (hsps : List Hsp) :
    Meets ((hsps.map Hsp.info).foldl InnerSharedBundleInstaller.mergeStep new) moduleName versionCode := by
  induction hsps generalizing new with
  | nil => exact h
  | cons hsp hsps ih => exact ih (h.mergeStep hsp)

theorem foldl_meets_of_package {new : InnerBundleInfo} {hsps : List Hsp} (hnew : new.applicationBundleType = .SHARED)
    {hsp : Hsp} (hmem : hsp ∈ hsps)
    (h : ∃ module ∈ (versionsOf hsp.info.innerSharedModuleInfos moduleName).head?, versionCode ≤ module.versionCode) :
    Meets ((hsps.map Hsp.info).foldl InnerSharedBundleInstaller.mergeStep new) moduleName versionCode := by
  induction hsps generalizing new with
  | nil => cases hmem
  | cons other hsps ih =>
    rcases List.mem_cons.mp hmem with rfl | hmem
    · exact (meets_of_package hnew h).foldl hsps
    · exact ih (mergeStep_type hnew other) hmem

end Merge

/-! ## The installation -/

section Install

variable {ρ : Type} (param : InstallParam) (envs : Str → Env)

/-- What the package check has seen of the types. -/
theorem shared_of_checked {installer : InnerSharedBundleInstaller ρ} {env : Env} {old : Option InnerBundleInfo}
    (h : installer.checkWithInstalledInfo env old = .ERR_OK) :
    (old.getD installer.first.info).applicationBundleType = .SHARED := by
  unfold InnerSharedBundleInstaller.checkWithInstalledInfo at h
  cases old with
  | some old =>
    dsimp only at h
    split at h
    · next hlabel => exact absurd h hlabel
    next hlabel =>
    unfold InnerSharedBundleInstaller.checkBundleTypeWithInstalledVersion at hlabel
    split at hlabel
    · exact absurd (nofun : ErrCode.ERR_APPEXECFWK_INSTALL_COMPATIBLE_POLICY_NOT_SAME ≠ .ERR_OK) hlabel
    · next htype => exact Decidable.not_not.mp htype
  | none =>
    dsimp only at h
    split at h
    · rw [if_pos (nofun : ErrCode.ERR_APPEXECFWK_INSTALL_PARAM_ERROR ≠ .ERR_OK)] at h
      cases h
    · next htype => exact Decidable.not_not.mp htype

/-- The merged record meets what the old record or one of the packages met. -/
theorem merge_meets {installer : InnerSharedBundleInstaller ρ} {env : Env} {old : Option InnerBundleInfo}
    (hcheck : installer.checkWithInstalledInfo env old = .ERR_OK) {moduleName : Str} {versionCode : Nat}
    (h : (∃ info ∈ old, Meets info moduleName versionCode) ∨
      ∃ hsp ∈ installer.first :: installer.others,
        ∃ module ∈ (versionsOf hsp.info.innerSharedModuleInfos moduleName).head?, versionCode ≤ module.versionCode) :
    Meets (installer.mergeBundleInfos old) moduleName versionCode := by
  have htype := shared_of_checked hcheck
  unfold InnerSharedBundleInstaller.mergeBundleInfos
  cases old with
  | some old =>
    rcases h with ⟨info, hinfo, h⟩ | ⟨hsp, hmem, h⟩
    · obtain rfl := Option.some.inj hinfo
      exact h.foldl _
    · exact foldl_meets_of_package htype hmem h
  | none =>
    rcases h with ⟨info, hinfo, -⟩ | ⟨hsp, hmem, h⟩
    · cases hinfo
    -- The first package is the record the others are merged into.
    rcases List.mem_cons.mp hmem with rfl | hmem
    · have hfirst : Meets installer.first.info moduleName versionCode := ⟨htype, h⟩
      exact hfirst.foldl _
    · exact foldl_meets_of_package htype hmem h

/-- The run over the installers keeps what an installed record met and adds what a package meets. -/
theorem installLoop_meets {inners : List (InnerSharedBundleInstaller ρ)} {processed : SharedBundleInstaller.Processed ρ}
    {s : State ρ} (hok : (SharedBundleInstaller.installLoop param envs inners processed s).1 = .ERR_OK)
    {bundleName moduleName : Str} {versionCode : Nat}
    (h : (∃ info ∈ s.bundleInfos.map[bundleName]?, Meets info moduleName versionCode) ∨
      ∃ inner ∈ inners, inner.bundleName = bundleName ∧ ∃ hsp ∈ inner.first :: inner.others,
        ∃ module ∈ (versionsOf hsp.info.innerSharedModuleInfos moduleName).head?, versionCode ≤ module.versionCode) :
    ∃ info ∈ (SharedBundleInstaller.installLoop param envs inners processed s).2.bundleInfos.map[bundleName]?,
      Meets info moduleName versionCode := by
  induction inners generalizing processed s with
  | nil =>
    rcases h with h | ⟨inner, hinner, -⟩
    · exact h
    · cases hinner
  | cons inner rest ih =>
    unfold SharedBundleInstaller.installLoop at hok ⊢
    dsimp only at hok ⊢
    split at hok
    · next hran =>
      rw [if_pos hran]
      refine ih hok ?_
      obtain ⟨hcheck, info, hinfo, htype, hinner⟩ := install_of_ok inner param (envs inner.bundleName) s hran
      have hmerged : Meets (inner.mergeBundleInfos s.bundleInfos.map[inner.bundleName]?) moduleName versionCode →
          Meets info moduleName versionCode := by
        unfold Meets
        rw [htype, hinner]
        exact id
      rcases h with ⟨old, hold, h⟩ | ⟨other, hother, hname, h⟩
      · by_cases heq : bundleName = inner.bundleName
        · subst heq
          exact .inl ⟨info, hinfo, hmerged (merge_meets hcheck (.inl ⟨old, hold, h⟩))⟩
        · refine .inl ⟨old, ?_, h⟩
          rw [(frame_install inner param (envs inner.bundleName) s).record bundleName heq]
          exact hold
      · rcases List.mem_cons.mp hother with rfl | hother
        · subst hname
          exact .inl ⟨info, hinfo, hmerged (merge_meets hcheck (.inr h))⟩
        · exact .inr ⟨other, hother, hname, h⟩
    · next hran => exact absurd hok hran

/-- A dependency that the check found is met by what the installation leaves. -/
theorem checked_dependency_is_met (installer : SharedBundleInstaller ρ) (s : State ρ) (app : App)
    (hcheck : installer.checkDependency s app = true) (hok : (installer.install param envs s).1 = .ERR_OK) :
    ∀ dependency ∈ app.getDependencies, dependency.bundleName ≠ [] → dependency.bundleName ≠ app.bundleName →
      findDependencyInInstalledBundles (installer.install param envs s).2 dependency = true := by
  intro dependency hmem hnonempty hother
  have hempty : dependency.bundleName.isEmpty = false := by simpa using hnonempty
  have hfetch : ∀ t : State ρ, fetchInnerBundleInfo t dependency.bundleName = t.bundleInfos.map[dependency.bundleName]? := by
    intro t
    unfold fetchInnerBundleInfo
    rw [hempty]
    rfl
  rw [findDependency_iff, hfetch]
  refine installLoop_meets param envs hok ?_
  have hfound := List.all_eq_true.mp hcheck dependency hmem
  simp only [hempty, Bool.or_eq_true, Bool.false_eq_true, false_or, decide_eq_true_eq, hother] at hfound
  rcases hfound with hset | hinstalled
  · obtain ⟨inner, hinner, hfound⟩ := (Option.any_eq_true _ _).mp hset
    unfold InnerSharedBundleInstaller.checkDependency at hfound
    obtain ⟨hname, hany⟩ := Bool.and_eq_true_iff.mp hfound
    obtain ⟨info, hinfo, hmax⟩ := List.any_eq_true.mp hany
    obtain ⟨hsp, hhsp, rfl⟩ := List.mem_map.mp hinfo
    exact .inr ⟨inner, List.mem_of_find?_eq_some hinner, (of_decide_eq_true hname).symm, hsp, hhsp, (getMax_any _ _).mp hmax⟩
  · left
    rw [findDependency_iff, hfetch] at hinstalled
    exact hinstalled

/-- The set holds one bundle, with version 3 of the module. -/
def setOfB : SharedBundleInstaller Unit :=
  SharedBundleInstaller.add {} ⟨['b'], packageOfB 3, [], (), by simp [packageOfB]⟩

/-- Version 1 of `b` and version 2 of `c` are installed. -/
def installedWithC : State Unit where
  bundleInfos := (recordsOfB 1).put { (packageOfB 2).info with bundleName := ['c'] }

/-- The app depends on version 2 of both. -/
def appOnBAndC : App where
  bundleName := ['a']
  innerModuleInfos := (∅ : StrMap _).insert ['e'] [⟨['b'], ['m'], 2⟩, ⟨['c'], ['m'], 2⟩]

theorem dependencies_on_b_and_c_are_met :
    findDependencyInInstalledBundles installedWithC ⟨['b'], ['m'], 2⟩ = false ∧
      ∀ dependency ∈ appOnBAndC.getDependencies, dependency.bundleName ≠ [] → dependency.bundleName ≠ appOnBAndC.bundleName →
        findDependencyInInstalledBundles (setOfB.install {} (fun _ => {}) installedWithC).2 dependency = true :=
  ⟨by decide +kernel,
    checked_dependency_is_met {} (fun _ => {}) setOfB installedWithC appOnBAndC (by decide +kernel) (by decide +kernel)⟩

end Install

end BundleFramework.SharedBundle
