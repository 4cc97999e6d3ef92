import BundleFramework.Base.Str

/-!
# The modules of a bundle

`InnerBundleInfo` keeps the record of each module under its package, and the abilities,
extensions, forms, shortcuts and common events of all modules in five tables whose keys are
`bundleName.modulePackage.name`.  `AddModuleInfo`, `RemoveModuleInfo` and `UpdateModuleInfo`
move the contents of one module in and out of them.

A removal finds abilities, forms and extensions through the key lists of the module record,
and shortcuts and common events by `.modulePackage.` anywhere in their keys (`Removed`).
-/

namespace BundleFramework.InnerBundle

open Std

structure Dependency where
  bundleName : Str
  moduleName : Str
  versionCode : Nat
  deriving DecidableEq, Repr

structure InnerModuleInfo where
  moduleName : Str
  isEntry : Bool := false
  debug : Bool := false
  compressNativeLibs : Bool := true
  abilityKeys : List Str := []
  extensionKeys : List Str := []
  dependencies : List Dependency := []
  deriving DecidableEq

/-- An ability, an extension, the forms of an ability, a shortcut or a common event, with the
package of the module whose profile declares it (a `CommonEventInfo` does not name it). -/
structure Element (V : Type) where
  package : Str
  content : V
  deriving DecidableEq

structure InnerBundleInfo (V : Type) where
  currentPackage : Str := []
  innerModuleInfos : StrMap InnerModuleInfo := ∅
  baseAbilityInfos : StrMap (Element V) := ∅
  baseExtensionInfos : StrMap (Element V) := ∅
  formInfos : StrMap (Element V) := ∅
  shortcutInfos : StrMap (Element V) := ∅
  commonEvents : StrMap (Element V) := ∅
  mainEntry : Str := []
  entryModuleName : Str := []
  debug : Bool := false
  isCompressNativeLibs : Bool := true

variable {V : Type}

/-- The five tables. -/
inductive Kind where
  | ability
  | extension
  | form
  | shortcut
  | commonEvent
  deriving DecidableEq

def InnerBundleInfo.table (info : InnerBundleInfo V) : Kind → StrMap (Element V)
  | .ability => info.baseAbilityInfos
  | .extension => info.baseExtensionInfos
  | .form => info.formInfos
  | .shortcut => info.shortcutInfos
  | .commonEvent => info.commonEvents

/-! ## Adding a module -/

/-- The loop of each `AddModule...` function: entries that are there stay. -/
def tryEmplaceAll {α : Type} (m new : StrMap α) : StrMap α :=
  new.toList.foldl (fun m item => m.insertIfNew item.1 item.2) m

def updateIsCompressNativeLibs (info : InnerBundleInfo V) : InnerBundleInfo V :=
  { info with isCompressNativeLibs :=
      info.innerModuleInfos.isEmpty || info.innerModuleInfos.toList.any fun p => p.2.compressNativeLibs }

/-- `AddInnerModuleInfo` to `AddModuleCommonEvent`, then `UpdateIsCompressNativeLibs`. -/
def InnerBundleInfo.addModuleTables (info newInfo : InnerBundleInfo V) : InnerBundleInfo V :=
  updateIsCompressNativeLibs
    { info with
      innerModuleInfos := tryEmplaceAll info.innerModuleInfos newInfo.innerModuleInfos
      baseAbilityInfos := tryEmplaceAll info.baseAbilityInfos newInfo.baseAbilityInfos
      baseExtensionInfos := tryEmplaceAll info.baseExtensionInfos newInfo.baseExtensionInfos
      formInfos := tryEmplaceAll info.formInfos newInfo.formInfos
      shortcutInfos := tryEmplaceAll info.shortcutInfos newInfo.shortcutInfos
      commonEvents := tryEmplaceAll info.commonEvents newInfo.commonEvents }

def InnerBundleInfo.addModuleInfo (info newInfo : InnerBundleInfo V) : Bool × InnerBundleInfo V :=
  if newInfo.currentPackage = [] then (false, info)
  else if info.innerModuleInfos.contains newInfo.currentPackage then (false, info)
  else (true, info.addModuleTables newInfo)

/-! ## Removing a module -/

/-- `.modulePackage.`, the text that is searched in the keys. -/
def moduleKey (modulePackage : Str) : Str := '.' :: (modulePackage ++ ['.'])

def eraseByKeyText (modulePackage : Str) (m : StrMap (Element V)) : StrMap (Element V) :=
  m.filter fun key _ => !(strFind key (moduleKey modulePackage)).isSome

/-- One key of `abilityKeys`. -/
def eraseAbility (tables : StrMap (Element V) × StrMap (Element V)) (abilityKey : Str) :
    StrMap (Element V) × StrMap (Element V) :=
  if tables.1.contains abilityKey then (tables.1.erase abilityKey, tables.2.erase abilityKey) else tables

/-- One key of `extensionKeys`. -/
def eraseExtension (m : StrMap (Element V)) (extensionKey : Str) : StrMap (Element V) :=
  if m.contains extensionKey then m.erase extensionKey else m

/-- The first entry module decides, else any module. -/
def getDebugFromModules (innerModuleInfos : StrMap InnerModuleInfo) : Bool :=
  match innerModuleInfos.toList.find? fun p => p.2.isEntry with
  | some p => p.2.debug
  | none => innerModuleInfos.toList.any fun p => p.2.debug

def InnerBundleInfo.removeModuleInfo (info : InnerBundleInfo V) (modulePackage : Str) : InnerBundleInfo V :=
  match info.innerModuleInfos[modulePackage]? with
  | none => info
  | some oldModuleInfo =>
    let tables := oldModuleInfo.abilityKeys.foldl eraseAbility (info.baseAbilityInfos, info.formInfos)
    { info with
      mainEntry := if oldModuleInfo.isEntry then [] else info.mainEntry
      entryModuleName := if oldModuleInfo.isEntry then [] else info.entryModuleName
      innerModuleInfos := info.innerModuleInfos.erase modulePackage
      shortcutInfos := eraseByKeyText modulePackage info.shortcutInfos
      commonEvents := eraseByKeyText modulePackage info.commonEvents
      baseAbilityInfos := tables.1
      formInfos := tables.2
      baseExtensionInfos := oldModuleInfo.extensionKeys.foldl eraseExtension info.baseExtensionInfos
      debug := getDebugFromModules (info.innerModuleInfos.erase modulePackage) }

def InnerBundleInfo.updateModuleInfo (info newInfo : InnerBundleInfo V) : InnerBundleInfo V :=
  if newInfo.currentPackage = [] then info
  else (info.removeModuleInfo newInfo.currentPackage).addModuleTables newInfo

/-! ## What the profiles give -/

def elementKey (bundleName modulePackage name : Str) : Str := bundleName ++ '.' :: (modulePackage ++ '.' :: name)

/-- The info that the profile of one module is turned into: the module's own package and
record, keys `bundleName.modulePackage.name`, the ability and extension keys in the record,
forms under ability keys. -/
structure SingleModule (bundleName : Str) (V : Type) extends InnerBundleInfo V where
  package_ne : currentPackage ≠ []
  record : InnerModuleInfo
  modules : ∀ p : Str, innerModuleInfos[p]? = if p = currentPackage then some record else none
  package : ∀ (kind : Kind) (key : Str) (e : Element V), (toInnerBundleInfo.table kind)[key]? = some e →
    e.package = currentPackage
  key : ∀ (kind : Kind) (key : Str) (e : Element V), (toInnerBundleInfo.table kind)[key]? = some e →
    ∃ name, key = elementKey bundleName currentPackage name
  abilityKeys : ∀ key : Str, key ∈ record.abilityKeys ↔ key ∈ baseAbilityInfos
  extensionKeys : ∀ key : Str, key ∈ record.extensionKeys ↔ key ∈ baseExtensionInfos
  forms : ∀ key : Str, key ∈ formInfos → key ∈ baseAbilityInfos

/-! ## Looked up at a key -/

theorem tryEmplaceAll_get {α : Type} (m new : StrMap α) (k : Str) :
    (tryEmplaceAll m new)[k]? = (m[k]?).or (new[k]?) := by
  have hlocal : MapLoop.Local (fun (m : StrMap α) (item : Str × α) => m.insertIfNew item.1 item.2)
      (fun m k => m[k]?) (fun _ v o => o.or (some v)) := by
    refine ⟨fun s k v => ?_, fun s k v k' hne => ?_⟩
    · dsimp only
      rw [ExtTreeMap.getElem?_insertIfNew]
      cases hk : s[k]? with
      | none =>
        have hno : k ∉ s := by
          rw [ExtTreeMap.mem_iff_isSome_getElem?, hk]
          nofun
        simp [hno]
      | some w =>
        have hin : k ∈ s := ExtTreeMap.mem_iff_isSome_getElem?.mpr (by rw [hk]; rfl)
        simp [hin]
    · dsimp only
      rw [ExtTreeMap.getElem?_insertIfNew, if_neg]
      rintro ⟨hc, -⟩
      exact hne (LawfulEqOrd.eq_of_compare hc).symm
  unfold tryEmplaceAll
  rw [hlocal.foldl_toList new m k]
  cases new[k]? <;> simp

theorem addModuleTables_get (info newInfo : InnerBundleInfo V) (kind : Kind) (k : Str) :
    ((info.addModuleTables newInfo).table kind)[k]? = ((info.table kind)[k]?).or ((newInfo.table kind)[k]?) := by
  cases kind <;> exact tryEmplaceAll_get _ _ k

theorem addModuleTables_modules (info newInfo : InnerBundleInfo V) (p : Str) :
    (info.addModuleTables newInfo).innerModuleInfos[p]? =
      (info.innerModuleInfos[p]?).or (newInfo.innerModuleInfos[p]?) :=
  tryEmplaceAll_get _ _ p

theorem foldl_eraseExtension_get (keys : List Str) (m : StrMap (Element V)) (k : Str) :
    (keys.foldl eraseExtension m)[k]? = if k ∈ keys then none else m[k]? := by
  induction keys generalizing m with
  | nil => rfl
  | cons key keys ih =>
    have hone : (eraseExtension m key)[k]? = if k = key then none else m[k]? := by
      unfold eraseExtension
      split
      · exact MapLoop.getElem?_erase_eq m key k
      · next hno =>
        split
        · next e => rw [e]; simpa using hno
        · rfl
    rw [List.foldl_cons, ih, hone]
    by_cases hk : k = key <;> by_cases hm : k ∈ keys <;> simp [hk, hm]

/-- The abilities at the recorded keys are gone, and so are the forms there. -/
theorem foldl_eraseAbility_get (keys : List Str) (abilities forms : StrMap (Element V)) (k : Str) :
    (keys.foldl eraseAbility (abilities, forms)).1[k]? = (if k ∈ keys then none else abilities[k]?) ∧
    (keys.foldl eraseAbility (abilities, forms)).2[k]? =
      if k ∈ keys ∧ k ∈ abilities then none else forms[k]? := by
  induction keys generalizing abilities forms with
  | nil => simp
  | cons key keys ih =>
    rw [List.foldl_cons]
    by_cases hc : abilities.contains key = true
    · have hstep : eraseAbility (abilities, forms) key = (abilities.erase key, forms.erase key) := if_pos hc
      rw [hstep]
      obtain ⟨h1, h2⟩ := ih (abilities.erase key) (forms.erase key)
      rw [h1, h2, MapLoop.getElem?_erase_eq, MapLoop.getElem?_erase_eq]
      by_cases hk : k = key
      · subst hk
        simp [ExtTreeMap.mem_iff_contains.mpr hc]
      · have hmem : k ∈ abilities.erase key ↔ k ∈ abilities := by
          rw [ExtTreeMap.mem_erase]
          exact ⟨fun h => h.2, fun h => ⟨fun e => hk (LawfulEqOrd.eq_of_compare e).symm, h⟩⟩
        simp [hk, hmem]
    · have hstep : eraseAbility (abilities, forms) key = (abilities, forms) := if_neg hc
      have hno : key ∉ abilities := fun h => hc (ExtTreeMap.mem_iff_contains.mp h)
      rw [hstep]
      obtain ⟨h1, h2⟩ := ih abilities forms
      rw [h1, h2]
      by_cases hk : k = key
      · subst hk
        simp [hno]
      · simp [hk]

/-! ## What a removal takes -/

/-- The entries at these keys go when the module is removed. -/
def Removed (info : InnerBundleInfo V) (modulePackage : Str) : Kind → Str → Prop
  | .ability, k => ∃ record, info.innerModuleInfos[modulePackage]? = some record ∧ k ∈ record.abilityKeys
  | .form, k => ∃ record, info.innerModuleInfos[modulePackage]? = some record ∧ k ∈ record.abilityKeys ∧
      k ∈ info.baseAbilityInfos
  | .extension, k => ∃ record, info.innerModuleInfos[modulePackage]? = some record ∧ k ∈ record.extensionKeys
  | _, k => ∃ record, info.innerModuleInfos[modulePackage]? = some record ∧ moduleKey modulePackage <:+: k

theorem eraseByKeyText_get (modulePackage : Str) (m : StrMap (Element V)) (k : Str) (e : Element V) :
    (eraseByKeyText modulePackage m)[k]? = some e ↔ m[k]? = some e ∧ ¬ moduleKey modulePackage <:+: k := by
  unfold eraseByKeyText
  rw [ExtTreeMap.getElem?_filter', ← strFind_isSome_iff]
  cases m[k]? with
  | none => simp
  | some w => cases (strFind k (moduleKey modulePackage)).isSome <;> simp

/-- **The removal, table by table**: an entry stays just when its key is not a removed one. -/
theorem removeModuleInfo_get (info : InnerBundleInfo V) (modulePackage : Str) (kind : Kind) (k : Str) (e : Element V) :
    ((info.removeModuleInfo modulePackage).table kind)[k]? = some e ↔
      (info.table kind)[k]? = some e ∧ ¬ Removed info modulePackage kind k := by
  unfold InnerBundleInfo.removeModuleInfo
  cases hm : info.innerModuleInfos[modulePackage]? with
  | none => cases kind <;> simp [Removed, hm]
  | some record =>
    have hpair := foldl_eraseAbility_get record.abilityKeys info.baseAbilityInfos info.formInfos k
    cases kind with
    | ability =>
      show (List.foldl eraseAbility _ record.abilityKeys).1[k]? = some e ↔ info.baseAbilityInfos[k]? = some e ∧ _
      rw [hpair.1]
      by_cases hk : k ∈ record.abilityKeys <;> simp [Removed, hm, hk]
    | form =>
      show (List.foldl eraseAbility _ record.abilityKeys).2[k]? = some e ↔ info.formInfos[k]? = some e ∧ _
      rw [hpair.2]
      by_cases hk : k ∈ record.abilityKeys ∧ k ∈ info.baseAbilityInfos <;> simp [Removed, hm, hk]
    | extension =>
      show (List.foldl eraseExtension _ record.extensionKeys)[k]? = some e ↔ info.baseExtensionInfos[k]? = some e ∧ _
      rw [foldl_eraseExtension_get]
      by_cases hk : k ∈ record.extensionKeys <;> simp [Removed, hm, hk]
    | shortcut =>
      show (eraseByKeyText modulePackage info.shortcutInfos)[k]? = some e ↔ info.shortcutInfos[k]? = some e ∧ _
      rw [eraseByKeyText_get]
      simp [Removed, hm]
    | commonEvent =>
      show (eraseByKeyText modulePackage info.commonEvents)[k]? = some e ↔ info.commonEvents[k]? = some e ∧ _
      rw [eraseByKeyText_get]
      simp [Removed, hm]

theorem removeModuleInfo_modules (info : InnerBundleInfo V) (modulePackage p : Str) :
    (info.removeModuleInfo modulePackage).innerModuleInfos[p]? =
      if p = modulePackage then none else info.innerModuleInfos[p]? := by
  unfold InnerBundleInfo.removeModuleInfo
  cases hm : info.innerModuleInfos[modulePackage]? with
  | none =>
    show info.innerModuleInfos[p]? = _
    by_cases hp : p = modulePackage
    · rw [if_pos hp, hp]
      exact hm
    · rw [if_neg hp]
  | some record => exact MapLoop.getElem?_erase_eq info.innerModuleInfos modulePackage p

end BundleFramework.InnerBundle
