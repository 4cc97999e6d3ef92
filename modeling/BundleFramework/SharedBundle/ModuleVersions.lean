import BundleFramework.Base.Str
import BundleFramework.DataMgr.InnerBundleInfo
import BundleFramework.Lib.StepRun

/-!
# The versions of shared modules

`innerSharedModuleInfos_` keeps, for each module of a shared bundle, the installed versions of it, the
newest first.  `InsertInnerSharedModuleInfo` keeps the order by a scan; `DeleteHspModuleByVersion`
takes one version out of every module.

The delete calls `erase` with the one iterator that `std::remove_if` returns.  That is the end of the
vector when nothing was removed, and erasing there is undefined: a result of `none` here.

    VersionStoreHolds acts ↔ every delete of the run finds its version in every module    (version_store_iff)
-/

namespace BundleFramework.SharedBundle

open Std

/-- A module as it is kept in `innerSharedModuleInfos_`: the profile parser and `MergeBundleInfos` put
modules of shared bundles there and no others. -/
structure InnerModuleInfo where
  moduleName : Str
  modulePackage : Str
  versionCode : Nat
  bundleType : BundleType := .SHARED
  nativeLibraryPath : Str := []
  hapPath : Str := []
  moduleArkTSMode : Str := []
  compressNativeLibs : Bool := true
  nativeLibraryFileNames : List Str := []
  librarySupportDirectory : List Str := []
  shared : bundleType = .SHARED := by rfl
  deriving DecidableEq

structure BaseSharedBundleInfo where
  bundleName : Str
  moduleName : Str
  versionCode : Nat
  nativeLibraryPath : Str
  hapPath : Str
  moduleArkTSMode : Str
  compressNativeLibs : Bool
  nativeLibraryFileNames : List Str
  librarySupportDirectory : List Str
  deriving DecidableEq

/-- `innerSharedModuleInfos_`. -/
abbrev ModuleVersions := StrMap (List InnerModuleInfo)

def InnerModuleInfo.base (bundleName : Str) (info : InnerModuleInfo) : BaseSharedBundleInfo where
  bundleName := bundleName
  moduleName := info.moduleName
  versionCode := info.versionCode
  nativeLibraryPath := info.nativeLibraryPath
  hapPath := info.hapPath
  moduleArkTSMode := info.moduleArkTSMode
  compressNativeLibs := info.compressNativeLibs
  nativeLibraryFileNames := info.nativeLibraryFileNames
  librarySupportDirectory := info.librarySupportDirectory

/-! ## Algorithm -/

def getMaxVerBaseSharedBundleInfo (bundleName : Str) (versions : ModuleVersions) (moduleName : Str) :
    Option BaseSharedBundleInfo :=
  match versions[moduleName]? with
  | none | some [] => none
  | some (info :: _) => if info.bundleType ≠ .SHARED then none else some (info.base bundleName)

/-- The loop of `GetBaseSharedBundleInfo`. -/
def findVersion (bundleName : Str) (versionCode : Nat) : List InnerModuleInfo → Option BaseSharedBundleInfo
  | [] => none
  | item :: rest =>
    if item.bundleType ≠ .SHARED then none
    else if item.versionCode = versionCode then some (item.base bundleName)
    else findVersion bundleName versionCode rest

def getBaseSharedBundleInfo (bundleName : Str) (versions : ModuleVersions) (moduleName : Str) (versionCode : Nat) :
    Option BaseSharedBundleInfo :=
  match versions[moduleName]? with
  | none | some [] => none
  | some modules => findVersion bundleName versionCode modules

/-- The scan of `InsertInnerSharedModuleInfo`. -/
def insertVersion (info : InnerModuleInfo) : List InnerModuleInfo → List InnerModuleInfo
  | [] => [info]
  | item :: rest =>
    if info.versionCode = item.versionCode then info :: rest
    else if item.versionCode < info.versionCode then info :: item :: rest
    else item :: insertVersion info rest

def insertInnerSharedModuleInfo (versions : ModuleVersions) (moduleName : Str) (info : InnerModuleInfo) : ModuleVersions :=
  match versions[moduleName]? with
  | some modules => versions.insert moduleName (insertVersion info modules)
  | none => versions.insert moduleName [info]

/-- `modules.erase(std::remove_if(..))`: one element goes, at the place where the kept ones end.  The
elements after it are what `remove_if` left there. -/
def eraseRemoved (versionCode : Nat) (modules : List InnerModuleInfo) : Option (List InnerModuleInfo) :=
  let kept := modules.filter fun module => module.versionCode ≠ versionCode
  if kept.length < modules.length then some (kept ++ modules.drop (kept.length + 1)) else none

/-- `static_cast<uint32_t>` of an `int32_t`. -/
def toUint32 (versionCode : Int) : Nat := (versionCode % 2 ^ 32).toNat

def SINGLE_HSP_VERSION : Nat := 1

/-- The module has this version and no other. -/
def onlyVersion (versionCode : Nat) (modules : List InnerModuleInfo) : Bool :=
  modules.length = SINGLE_HSP_VERSION && modules.head?.any fun module => module.versionCode = versionCode

/-- One turn of the loop of `DeleteHspModuleByVersion`. -/
def deleteStep (versionCode : Nat) (versions : ModuleVersions) (entry : Str × List InnerModuleInfo) : Option ModuleVersions :=
  if onlyVersion versionCode entry.2 then some (versions.erase entry.1)
  else (eraseRemoved versionCode entry.2).map fun modules => versions.insert entry.1 modules

def deleteHspModuleByVersion (versions : ModuleVersions) (versionCode : Int) : Option ModuleVersions :=
  versions.toList.foldlM (deleteStep (toUint32 versionCode)) versions

/-! ## Runs -/

inductive Op where
  | insertInnerSharedModuleInfo (moduleName : Str) (info : InnerModuleInfo)
  | deleteHspModuleByVersion (versionCode : Int)

/-- After a call with undefined behaviour there is no state to speak of. -/
def step (versions : Option ModuleVersions) (op : Op) : Option ModuleVersions :=
  versions.bind fun versions =>
    match op with
    | .insertInnerSharedModuleInfo moduleName info => some (insertInnerSharedModuleInfo versions moduleName info)
    | .deleteHspModuleByVersion versionCode => deleteHspModuleByVersion versions versionCode

/-- The installed versions of a module. -/
def versionsOf (versions : ModuleVersions) (moduleName : Str) : List InnerModuleInfo := versions[moduleName]?.getD []

def Descending (modules : List InnerModuleInfo) : Prop := modules.Pairwise fun a b => b.versionCode < a.versionCode

/-- Every list descends, the greatest version is found, and a version is found just when it is
installed. -/
structure Ordered (versions : ModuleVersions) : Prop where
  descending : ∀ moduleName, Descending (versionsOf versions moduleName)
  greatest : ∀ bundleName moduleName found, getMaxVerBaseSharedBundleInfo bundleName versions moduleName = some found ↔
    ∃ info ∈ versionsOf versions moduleName, found = info.base bundleName ∧
      ∀ other ∈ versionsOf versions moduleName, other.versionCode ≤ info.versionCode
  finds : ∀ bundleName moduleName versionCode found,
    getBaseSharedBundleInfo bundleName versions moduleName versionCode = some found ↔
      ∃ info ∈ versionsOf versions moduleName, info.versionCode = versionCode ∧ found = info.base bundleName

/-- The call does what it is for: an insert replaces the equal version only, a delete takes its
version out wherever it is and changes nothing else. -/
def Exact (before : Option ModuleVersions) (op : Op) : Prop :=
  ∀ versions, before = some versions → ∃ versions', step before op = some versions' ∧
    match op with
    | .insertInnerSharedModuleInfo moduleName info =>
      (∀ other, other ≠ moduleName → versions'[other]? = versions[other]?) ∧
      ∀ module, module ∈ versionsOf versions' moduleName ↔
        module = info ∨ (module ∈ versionsOf versions moduleName ∧ module.versionCode ≠ info.versionCode)
    | .deleteHspModuleByVersion versionCode => ∀ moduleName : Str,
      versionsOf versions' moduleName =
        (versionsOf versions moduleName).filter (fun module => module.versionCode ≠ toUint32 versionCode) ∧
      ((∀ module ∈ versionsOf versions moduleName, module.versionCode ≠ toUint32 versionCode) →
        versions'[moduleName]? = versions[moduleName]?)

/-- The store is ordered all along the run, and every call is exact. -/
def VersionStoreHolds (ops : List Op) : Prop :=
  StepRun.Always step (fun versions => ∃ store, versions = some store ∧ Ordered store) (some ∅) ops ∧
    StepRun.Each step Exact (some ∅) ops

/-- A delete finds its version in every module. -/
def FoundEverywhere (before : Option ModuleVersions) : Op → Prop
  | .insertInnerSharedModuleInfo .. => True
  | .deleteHspModuleByVersion versionCode => ∀ versions ∈ before, ∀ (moduleName : Str) (modules : List InnerModuleInfo),
    versions[moduleName]? = some modules → ∃ module ∈ modules, module.versionCode = toUint32 versionCode

/-! ## Lists -/

section Lists

variable {info : InnerModuleInfo} {modules : List InnerModuleInfo} {versionCode : Nat}

theorem mem_insertVersion (h : Descending modules) (module : InnerModuleInfo) : module ∈ insertVersion info modules ↔
    module = info ∨ (module ∈ modules ∧ module.versionCode ≠ info.versionCode) := by
  induction modules with
  | nil => simp [insertVersion]
  | cons item rest ih =>
    obtain ⟨hitem, hrest⟩ := List.pairwise_cons.mp h
    unfold insertVersion
    split
    · next heq =>
      -- The equal version is the head, and what follows is smaller.
      constructor
      · intro hmem
        rcases List.mem_cons.mp hmem with rfl | hmem
        · exact .inl rfl
        · have := hitem module hmem
          exact .inr ⟨List.mem_cons_of_mem _ hmem, by omega⟩
      · rintro (rfl | ⟨hmem, hne⟩)
        · exact List.mem_cons_self
        · rcases List.mem_cons.mp hmem with rfl | hmem
          · exact absurd heq.symm hne
          · exact List.mem_cons_of_mem _ hmem
    next hne =>
    split
    · next hlt =>
      constructor
      · intro hmem
        rcases List.mem_cons.mp hmem with rfl | hmem
        · exact .inl rfl
        · refine .inr ⟨hmem, ?_⟩
          rcases List.mem_cons.mp hmem with rfl | hmem
          · omega
          · have := hitem module hmem
            omega
      · rintro (rfl | ⟨hmem, -⟩)
        · exact List.mem_cons_self
        · exact List.mem_cons_of_mem _ hmem
    · rw [List.mem_cons, ih hrest, List.mem_cons]
      constructor
      · rintro (rfl | rfl | ⟨hmem, hne'⟩)
        · exact .inr ⟨.inl rfl, fun e => hne e.symm⟩
        · exact .inl rfl
        · exact .inr ⟨.inr hmem, hne'⟩
      · rintro (rfl | ⟨rfl | hmem, hne'⟩)
        · exact .inr (.inl rfl)
        · exact .inl rfl
        · exact .inr (.inr ⟨hmem, hne'⟩)

theorem descending_insertVersion (h : Descending modules) : Descending (insertVersion info modules) := by
  induction modules with
  | nil => exact List.pairwise_singleton _ _
  | cons item rest ih =>
    obtain ⟨hitem, hrest⟩ := List.pairwise_cons.mp h
    unfold insertVersion
    split
    · next heq =>
      refine List.pairwise_cons.mpr ⟨fun module hmem => ?_, hrest⟩
      rw [heq]
      exact hitem module hmem
    next hne =>
    split
    · next hlt =>
      refine List.pairwise_cons.mpr ⟨fun module hmem => ?_, h⟩
      rcases List.mem_cons.mp hmem with rfl | hmem
      · exact hlt
      · exact (hitem module hmem).trans hlt
    · refine List.pairwise_cons.mpr ⟨fun module hmem => ?_, ih hrest⟩
      rcases (mem_insertVersion hrest module).mp hmem with rfl | ⟨hmem, -⟩
      · omega
      · exact hitem module hmem

/-- Of a version there is one module at most, so taking it out shortens the list by one. -/
theorem length_filter_of_found (h : Descending modules) (hfound : ∃ module ∈ modules, module.versionCode = versionCode) :
    (modules.filter fun module => module.versionCode ≠ versionCode).length + 1 = modules.length := by
  induction modules with
  | nil =>
    obtain ⟨module, hmem, -⟩ := hfound
    cases hmem
  | cons item rest ih =>
    obtain ⟨hitem, hrest⟩ := List.pairwise_cons.mp h
    by_cases heq : item.versionCode = versionCode
    · have hkeep : rest.filter (fun module => module.versionCode ≠ versionCode) = rest := by
        refine List.filter_eq_self.mpr fun module hmem => ?_
        have := hitem module hmem
        simp only [ne_eq, decide_not, Bool.not_eq_eq_eq_not, Bool.not_true, decide_eq_false_iff_not]
        omega
      rw [List.filter_cons_of_neg (by simpa using heq), hkeep, List.length_cons]
    · obtain ⟨module, hmem, hversion⟩ := hfound
      have hrest' : ∃ module ∈ rest, module.versionCode = versionCode := by
        rcases List.mem_cons.mp hmem with rfl | hmem
        · exact absurd hversion heq
        · exact ⟨module, hmem, hversion⟩
      rw [List.filter_cons_of_pos (by simpa using heq), List.length_cons, List.length_cons, ih hrest hrest']

theorem eraseRemoved_of_found (h : Descending modules) (hfound : ∃ module ∈ modules, module.versionCode = versionCode) :
    eraseRemoved versionCode modules = some (modules.filter fun module => module.versionCode ≠ versionCode) := by
  have hlength := length_filter_of_found h hfound
  unfold eraseRemoved
  dsimp only
  rw [if_pos (by omega), List.drop_eq_nil_of_le (by omega), List.append_nil]

theorem eraseRemoved_of_not_found (h : ∀ module ∈ modules, module.versionCode ≠ versionCode) :
    eraseRemoved versionCode modules = none := by
  have hkeep : modules.filter (fun module => module.versionCode ≠ versionCode) = modules :=
    List.filter_eq_self.mpr fun module hmem => by simpa using h module hmem
  unfold eraseRemoved
  dsimp only
  rw [hkeep, if_neg (Nat.lt_irrefl _)]

theorem findVersion_eq_some (h : Descending modules) (bundleName : Str) (found : BaseSharedBundleInfo) :
    findVersion bundleName versionCode modules = some found ↔
      ∃ info ∈ modules, info.versionCode = versionCode ∧ found = info.base bundleName := by
  induction modules with
  | nil => simp [findVersion]
  | cons item rest ih =>
    obtain ⟨hitem, hrest⟩ := List.pairwise_cons.mp h
    unfold findVersion
    rw [if_neg (fun hnot => hnot item.shared)]
    split
    · next heq =>
      constructor
      · intro hfound
        exact ⟨item, List.mem_cons_self, heq, (Option.some.inj hfound).symm⟩
      · rintro ⟨info, hmem, hversion, rfl⟩
        rcases List.mem_cons.mp hmem with rfl | hmem
        · rfl
        · have := hitem info hmem
          omega
    · next hne =>
      rw [ih hrest]
      constructor
      · rintro ⟨info, hmem, hversion⟩
        exact ⟨info, List.mem_cons_of_mem _ hmem, hversion⟩
      · rintro ⟨info, hmem, hversion, hfound⟩
        rcases List.mem_cons.mp hmem with rfl | hmem
        · exact absurd hversion hne
        · exact ⟨info, hmem, hversion, hfound⟩

end Lists

/-! ## The store -/

section Store

variable {versions : ModuleVersions}

theorem ordered_of_descending (h : ∀ moduleName, Descending (versionsOf versions moduleName)) : Ordered versions := by
  refine ⟨h, ?_, ?_⟩
  · intro bundleName moduleName found
    have hdescending := h moduleName
    unfold getMaxVerBaseSharedBundleInfo
    unfold versionsOf at hdescending ⊢
    rcases hmodules : versions[moduleName]? with _ | modules
    · simp
    rw [hmodules] at hdescending
    cases modules with
    | nil => simp
    | cons info rest =>
      obtain ⟨hinfo, -⟩ := List.pairwise_cons.mp hdescending
      simp only [Option.getD_some]
      rw [if_neg (fun hnot => hnot info.shared)]
      constructor
      · intro hfound
        refine ⟨info, List.mem_cons_self, (Option.some.inj hfound).symm, fun other hother => ?_⟩
        rcases List.mem_cons.mp hother with rfl | hother
        · exact Nat.le_refl _
        · exact (hinfo other hother).le
      · rintro ⟨greatest, hmem, rfl, hgreatest⟩
        rcases List.mem_cons.mp hmem with rfl | hmem
        · rfl
        · have := hinfo greatest hmem
          have := hgreatest info List.mem_cons_self
          omega
  · intro bundleName moduleName versionCode found
    have hdescending := h moduleName
    unfold getBaseSharedBundleInfo
    unfold versionsOf at hdescending ⊢
    rcases hmodules : versions[moduleName]? with _ | modules
    · simp
    rw [hmodules] at hdescending
    cases modules with
    | nil => simp
    | cons info rest => exact findVersion_eq_some hdescending bundleName found

theorem insert_other (moduleName : Str) (info : InnerModuleInfo) {other : Str} (h : other ≠ moduleName) :
    (insertInnerSharedModuleInfo versions moduleName info)[other]? = versions[other]? := by
  unfold insertInnerSharedModuleInfo
  split <;> rw [ExtTreeMap.getElem?_insert, if_neg (by simpa using h.symm)]

theorem insert_self (moduleName : Str) (info : InnerModuleInfo) :
    versionsOf (insertInnerSharedModuleInfo versions moduleName info) moduleName =
      insertVersion info (versionsOf versions moduleName) := by
  unfold insertInnerSharedModuleInfo versionsOf
  split
  · next modules hmodules =>
    rw [ExtTreeMap.getElem?_insert_self, hmodules]
    rfl
  · next hmodules =>
    rw [ExtTreeMap.getElem?_insert_self, hmodules]
    rfl

theorem descending_insert (h : ∀ moduleName, Descending (versionsOf versions moduleName)) (moduleName : Str)
    (info : InnerModuleInfo) (other : Str) :
    Descending (versionsOf (insertInnerSharedModuleInfo versions moduleName info) other) := by
  by_cases heq : other = moduleName
  · subst heq
    rw [insert_self]
    exact descending_insertVersion (h other)
  · have hsame : (insertInnerSharedModuleInfo versions moduleName info)[other]? = versions[other]? :=
      insert_other moduleName info heq
    unfold versionsOf at h ⊢
    rw [hsame]
    exact h other

/-- A turn of the loop where the version is found. -/
def takeOut (versionCode : Nat) (versions : ModuleVersions) (entry : Str × List InnerModuleInfo) : ModuleVersions :=
  if onlyVersion versionCode entry.2 then versions.erase entry.1
  else versions.insert entry.1 (entry.2.filter fun module => module.versionCode ≠ versionCode)

theorem takeOut_local (versionCode : Nat) : MapLoop.Local (takeOut versionCode) (fun versions (key : Str) => versions[key]?)
    (fun _ modules _ => if onlyVersion versionCode modules then none
      else some (modules.filter fun module => module.versionCode ≠ versionCode)) := by
  constructor
  · intro versions key modules
    unfold takeOut
    split
    · exact ExtTreeMap.getElem?_erase_self
    · exact ExtTreeMap.getElem?_insert_self
  · intro versions key modules other hne
    have hcompare : ¬ compare key other = .eq := by simpa using hne.symm
    unfold takeOut
    split
    · rw [ExtTreeMap.getElem?_erase, if_neg hcompare]
    · rw [ExtTreeMap.getElem?_insert, if_neg hcompare]

theorem foldlM_deleteStep {versionCode : Nat} {entries : List (Str × List InnerModuleInfo)}
    (h : ∀ entry ∈ entries, Descending entry.2 ∧ ∃ module ∈ entry.2, module.versionCode = versionCode)
    (versions : ModuleVersions) :
    entries.foldlM (deleteStep versionCode) versions = some (entries.foldl (takeOut versionCode) versions) := by
  induction entries generalizing versions with
  | nil => rfl
  | cons entry entries ih =>
    obtain ⟨hdescending, hfound⟩ := h entry List.mem_cons_self
    have hturn : deleteStep versionCode versions entry = some (takeOut versionCode versions entry) := by
      unfold deleteStep takeOut
      split
      · rfl
      · rw [eraseRemoved_of_found hdescending hfound]
        rfl
    rw [List.foldlM_cons, hturn, List.foldl_cons]
    exact ih (fun entry hentry => h entry (List.mem_cons_of_mem _ hentry)) _

theorem foldlM_deleteStep_none {versionCode : Nat} {entries : List (Str × List InnerModuleInfo)}
    (h : ∃ entry ∈ entries, ∀ module ∈ entry.2, module.versionCode ≠ versionCode) (versions : ModuleVersions) :
    entries.foldlM (deleteStep versionCode) versions = none := by
  induction entries generalizing versions with
  | nil =>
    obtain ⟨entry, hentry, -⟩ := h
    cases hentry
  | cons entry entries ih =>
    rw [List.foldlM_cons]
    by_cases hhead : ∀ module ∈ entry.2, module.versionCode ≠ versionCode
    · have honly : onlyVersion versionCode entry.2 = false := by
        unfold onlyVersion
        cases hmodules : entry.2 with
        | nil => rfl
        | cons module rest =>
          have := hhead module (hmodules ▸ List.mem_cons_self)
          simp [this]
      unfold deleteStep
      rw [honly, eraseRemoved_of_not_found hhead]
      rfl
    · have hrest : ∃ entry ∈ entries, ∀ module ∈ entry.2, module.versionCode ≠ versionCode := by
        obtain ⟨other, hother, hnone⟩ := h
        rcases List.mem_cons.mp hother with rfl | hother
        · exact absurd hnone hhead
        · exact ⟨other, hother, hnone⟩
      cases deleteStep versionCode versions entry with
      | none => rfl
      | some versions' => exact ih hrest versions'

/-- The delete where the version is in every module, key by key. -/
theorem delete_of_found (h : ∀ moduleName, Descending (versionsOf versions moduleName)) {versionCode : Int}
    (hfound : ∀ (moduleName : Str) (modules : List InnerModuleInfo), versions[moduleName]? = some modules →
      ∃ module ∈ modules, module.versionCode = toUint32 versionCode) :
    ∃ versions', deleteHspModuleByVersion versions versionCode = some versions' ∧
      ∀ moduleName : Str, versionsOf versions' moduleName =
          (versionsOf versions moduleName).filter (fun module => module.versionCode ≠ toUint32 versionCode) ∧
        (versions[moduleName]? = none → versions'[moduleName]? = none) := by
  refine ⟨versions.toList.foldl (takeOut (toUint32 versionCode)) versions, ?_, ?_⟩
  · refine foldlM_deleteStep (fun entry hentry => ?_) versions
    have hmem : versions[entry.1]? = some entry.2 := ExtTreeMap.mem_toList_iff_getElem?_eq_some.mp hentry
    have hdescending := h entry.1
    unfold versionsOf at hdescending
    rw [hmem] at hdescending
    exact ⟨hdescending, hfound entry.1 entry.2 hmem⟩
  · intro moduleName
    have hkey := (takeOut_local (toUint32 versionCode)).foldl_toList versions versions moduleName
    rcases hmodules : versions[moduleName]? with _ | modules
    · rw [hmodules, Option.elim_none] at hkey
      unfold versionsOf
      rw [hkey, hmodules]
      exact ⟨rfl, fun _ => rfl⟩
    · rw [hmodules, Option.elim_some] at hkey
      refine ⟨?_, fun hnone => nomatch hnone⟩
      unfold versionsOf
      rw [hkey, hmodules, Option.getD_some]
      split
      · next honly =>
        -- The one module is the one taken out.
        unfold onlyVersion SINGLE_HSP_VERSION at honly
        simp only [Bool.and_eq_true, decide_eq_true_eq] at honly
        obtain ⟨module, rfl⟩ := List.length_eq_one_iff.mp honly.1
        have : module.versionCode = toUint32 versionCode := by simpa using honly.2
        simp [this]
      · rfl

end Store

/-! ## Runs -/

/-- There is a store, and every list in it descends. -/
def DescendingStore (versions : Option ModuleVersions) : Prop :=
  ∃ store, versions = some store ∧ ∀ moduleName, Descending (versionsOf store moduleName)

theorem step_inv {versions : ModuleVersions} (h : ∀ moduleName, Descending (versionsOf versions moduleName)) {op : Op}
    (hfound : FoundEverywhere (some versions) op) :
    DescendingStore (step (some versions) op) ∧ Exact (some versions) op := by
  cases op with
  | insertInnerSharedModuleInfo moduleName info =>
    refine ⟨⟨_, rfl, descending_insert h moduleName info⟩, ?_⟩
    rintro _ ⟨⟩
    refine ⟨_, rfl, fun other hother => insert_other moduleName info hother, fun module => ?_⟩
    rw [insert_self]
    exact mem_insertVersion (h moduleName) module
  | deleteHspModuleByVersion versionCode =>
    obtain ⟨versions', hdelete, hkey⟩ := delete_of_found h (hfound versions rfl)
    refine ⟨⟨versions', hdelete, fun moduleName => ?_⟩, ?_⟩
    · rw [(hkey moduleName).1]
      exact (h moduleName).filter _
    rintro _ ⟨⟩
    refine ⟨versions', hdelete, fun moduleName => ⟨(hkey moduleName).1, fun hnot => ?_⟩⟩
    -- A module without the version is not in the store at all.
    rcases hmodules : versions[moduleName]? with _ | modules
    · exact (hkey moduleName).2 hmodules
    · obtain ⟨module, hmem, hversion⟩ := hfound versions rfl moduleName modules hmodules
      refine absurd hversion (hnot module ?_)
      unfold versionsOf
      rw [hmodules]
      exact hmem

theorem step_of_not_found {versions : ModuleVersions} {op : Op} (h : ¬ FoundEverywhere (some versions) op) :
    step (some versions) op = none := by
  cases op with
  | insertInnerSharedModuleInfo moduleName info => exact absurd trivial h
  | deleteHspModuleByVersion versionCode =>
    unfold FoundEverywhere at h
    push Not at h
    obtain ⟨_, ⟨⟩, moduleName, modules, hmodules, hnot⟩ := h
    exact foldlM_deleteStep_none ⟨(moduleName, modules), ExtTreeMap.mem_toList_iff_getElem?_eq_some.mpr hmodules, hnot⟩ versions

/-- **Main result**: along a run the lists stay ordered and every call is exact just when every delete
finds its version in every module. -/
theorem version_store_iff (ops : List Op) : VersionStoreHolds ops ↔ StepRun.Each step FoundEverywhere (some ∅) ops := by
  have hstart : DescendingStore (some ∅) := ⟨∅, rfl, fun _ => List.Pairwise.nil⟩
  have hiff : StepRun.Always step (fun versions => ∃ store, versions = some store ∧ Ordered store) (some ∅) ops ↔
      StepRun.Each step FoundEverywhere (some ∅) ops := by
    refine StepRun.always_iff_each_of_inv ?_ ?_ ?_ hstart
    · rintro _ ⟨store, rfl, h⟩
      exact ⟨store, rfl, ordered_of_descending h⟩
    · rintro _ op ⟨store, rfl, h⟩ hfound
      exact (step_inv h hfound).1
    · rintro _ op ⟨store, rfl, h⟩ hnot ⟨store', hstep, -⟩
      rw [step_of_not_found hnot] at hstep
      cases hstep
  constructor
  · intro h
    exact hiff.mp h.1
  · intro hfound
    have hstep : ∀ versions op, DescendingStore versions → FoundEverywhere versions op →
        DescendingStore (step versions op) ∧ Exact versions op := by
      rintro _ op ⟨store, rfl, h⟩ hop
      exact step_inv h hop
    exact ⟨hiff.mpr hfound, hfound.guarantee hstep hstart⟩

/-- Two modules, one of which does not have the version that is deleted. -/
def oneModuleBehind : List Op :=
  [.insertInnerSharedModuleInfo ['a'] { moduleName := ['a'], modulePackage := ['a'], versionCode := 1 },
    .insertInnerSharedModuleInfo ['b'] { moduleName := ['b'], modulePackage := ['b'], versionCode := 2 },
    .deleteHspModuleByVersion 1]

theorem delete_with_module_behind : ¬ VersionStoreHolds oneModuleBehind := by
  rintro ⟨halways, -⟩
  obtain ⟨store, hstore, -⟩ := halways.last
  have hnone : oneModuleBehind.foldl step (some ∅) = none := by decide +kernel
  rw [hnone] at hstore
  cases hstore

end BundleFramework.SharedBundle
