import BundleFramework.DefaultApp.Rdb
import BundleFramework.Skill.Match

/-!
# Elements that may be default applications

An element is valid for a type if it is written as one, exists, has a skill for the type and, for
the browser, may be the default browser: it is the preset one or holds the permission.

The preset elements are read once and kept.
-/

namespace BundleFramework.DefaultApp

inductive ErrCode
  | systemApiDenied
  | permissionDenied
  | invalidUserId
  | invalidType
  | abilityAndTypeMismatch
  | defaultAppPermissionDenied
  deriving DecidableEq, Repr

/-- What the manager asks of other components. -/
structure Services where
  matchEnv : MatchEnv
  /-- Of the descriptor of a type. -/
  getMimeTypes : Str → List Str
  getFilenameExtensions : Str → List Str
  isSystemApp : Bool
  isSelfCalling : Bool
  verifyCallingPermissionForAll : Str → Bool
  hasUserId : Int → Bool
  queryInfoAndSkillsByElement : Int → Element → Option (List Skill)
  /-- `QueryAbilityInfo` of the broker, by bundle, module and ability. -/
  queryAbilityInfo : Str → Str → Str → Bool
  isPermissionCheckEnabled : Bool
  /-- `GetCloneBundleInfo`, of which the token is used. -/
  getAccessTokenId : Int → Str → Int → Option Nat
  verifyPermissionByCallingTokenId : Str → Nat → Bool

/-! ## Types -/

def BROWSER : Str := "BROWSER".toList
def EMAIL : Str := "EMAIL".toList

/-- `APP_TYPES_KEY` with `APP_TYPES_VALUE`. -/
def appTypes : List (Str × List Str) :=
  [("IMAGE".toList, ["general.image".toList]),
   ("AUDIO".toList, ["general.audio".toList]),
   ("VIDEO".toList, ["general.video".toList]),
   ("PDF".toList, ["com.adobe.pdf".toList]),
   ("WORD".toList, ["com.microsoft.word.doc".toList, "com.microsoft.word.dot".toList,
     "org.openxmlformats.wordprocessingml.document".toList,
     "org.openxmlformats.wordprocessingml.document.macroenabled".toList,
     "org.openxmlformats.wordprocessingml.template".toList,
     "org.openxmlformats.wordprocessingml.template.macroenabled".toList]),
   ("EXCEL".toList, ["com.microsoft.excel.dif".toList, "com.microsoft.excel.xls".toList,
     "com.microsoft.excel.xlt".toList, "org.openxmlformats.spreadsheetml.addin.macroenabled".toList,
     "org.openxmlformats.spreadsheetml.binary.macroenabled".toList,
     "org.openxmlformats.spreadsheetml.sheet".toList, "org.openxmlformats.spreadsheetml.sheet.macroenabled".toList,
     "org.openxmlformats.spreadsheetml.template".toList,
     "org.openxmlformats.spreadsheetml.template.macroenabled".toList]),
   ("PPT".toList, ["com.microsoft.powerpoint.pot".toList, "com.microsoft.powerpoint.pps".toList,
     "com.microsoft.powerpoint.ppt".toList, "org.openxmlformats.presentationml.addin.macroenabled".toList,
     "org.openxmlformats.presentationml.presentation".toList,
     "org.openxmlformats.presentationml.presentation.macroenabled".toList,
     "org.openxmlformats.presentationml.slideshow".toList,
     "org.openxmlformats.presentationml.slideshow.macroenabled".toList,
     "org.openxmlformats.presentationml.template".toList,
     "org.openxmlformats.presentationml.template.macroenabled".toList])]

def supportAppTypes : List Str := BROWSER :: appTypes.map (·.1) ++ [EMAIL]

def isAppType (param : Str) : Bool := supportAppTypes.contains param

def wildcard : Char := '*'

/-- `SplitStr(param, "/", vector, false, false)` drops empty parts. -/
def isSpecificMimeType (param : Str) : Bool :=
  if param.contains wildcard then false else ((param.splitOn '/').filter (· ≠ [])).length == 2

section
variable (services : Services)

def isSpecificUtd (param : Str) : Bool :=
  if !isUtd services.matchEnv param then false
  else
    match services.matchEnv.getTypeDescriptor param with
    | none => false
    | some _ => !(services.getMimeTypes param).isEmpty || !(services.getFilenameExtensions param).isEmpty

def getUtdVectorByMimeType (mimeType : Str) : List Str :=
  if services.matchEnv.udmfEnabled then (services.matchEnv.getUniformDataTypesByMIMEType mimeType).getD [] else []

def normalize (param : Str) : List Str :=
  if isAppType param then [param]
  else if isUtd services.matchEnv param then if isSpecificUtd services param then [param] else []
  else if isSpecificMimeType param then getUtdVectorByMimeType services param
  else (getUtdVectorByUri services.matchEnv param).getD []

/-! ## Skills -/

def ACTION_VIEW_DATA : Str := "ohos.want.action.viewData".toList
def EMAIL_ACTION : Str := "ohos.want.action.sendToData".toList
def ENTITY_BROWSER : Str := "entity.system.browsable".toList

def matchActionAndType (action type : Str) (skills : List Skill) : Bool :=
  skills.any fun skill =>
    skill.actions.contains action && skill.uris.any fun skillUri => matchType services.matchEnv type skillUri.type

def isBrowserSkillsValid (skills : List Skill) : Bool :=
  let browserWant (uri : Str) : Want := { action := ACTION_VIEW_DATA, entities := [ENTITY_BROWSER], uriString := uri }
  skills.any fun skill =>
    skill.matchWant services.matchEnv (browserWant "https".toList) ||
      skill.matchWant services.matchEnv (browserWant "http".toList)

def isEmailSkillsValid (skills : List Skill) : Bool :=
  skills.any fun skill =>
    skill.matchWant services.matchEnv { action := EMAIL_ACTION, uriString := "mailto".toList }

def matchAppType (type : Str) (skills : List Skill) : Bool :=
  if type = BROWSER then isBrowserSkillsValid services skills
  else if type = EMAIL then isEmailSkillsValid services skills
  else
    match appTypes.find? (·.1 = type) with
    | none => false
    | some appType => appType.2.any fun utdId => matchActionAndType services ACTION_VIEW_DATA utdId skills

def isMatch (type : Str) (skills : List Skill) : Bool :=
  if isAppType type then matchAppType services type skills
  else matchActionAndType services ACTION_VIEW_DATA type skills

/-! ## Elements -/

def isElementEmpty (element : Element) : Bool :=
  element.bundleName.isEmpty && element.moduleName.isEmpty && element.abilityName.isEmpty &&
    element.extensionName.isEmpty

/-- Exactly one of ability and extension is named. -/
def verifyElementFormat (element : Element) : Bool :=
  if element.bundleName.isEmpty then false
  else if element.moduleName.isEmpty then false
  else if element.abilityName.isEmpty && element.extensionName.isEmpty then false
  else if !element.abilityName.isEmpty && !element.extensionName.isEmpty then false
  else true

def getBrokerBundleInfo (element : Element) : Bool :=
  if element.bundleName.isEmpty || element.abilityName.isEmpty then false
  else services.queryAbilityInfo element.bundleName element.moduleName element.abilityName

structure DefaultAppMgr where
  /-- `defaultAppDb_`. -/
  rows : Rows
  /-- `presetCache_`, if `presetCacheLoaded_`. -/
  presetCache : Option Infos

def isPresetDefaultApp (answers : RdbAnswers) (mgr : DefaultAppMgr) (type : Str) (element : Element) :
    Bool × DefaultAppMgr :=
  let found (infos : Infos) : Bool := match infos[type]? with
    | none => false
    | some preset => preset.same element
  match mgr.presetCache with
  | some infos => (found infos, mgr)
  | none =>
    match getDefaultApplicationInfos answers initialUserId mgr.rows with
    | (none, rows) => (false, { mgr with rows })
    | (some infos, rows) => (found infos, { rows, presetCache := some infos })

def PERMISSION_DEFAULT_WEB_BROWSER : Str := "ohos.permission.DEFAULT_WEB_BROWSER".toList

def hasBrowserPermission (userId : Int) (element : Element) : Bool :=
  match services.getAccessTokenId userId element.bundleName element.appIndex with
  | none => false
  | some tokenId =>
    tokenId ≠ 0 && services.verifyPermissionByCallingTokenId PERMISSION_DEFAULT_WEB_BROWSER tokenId

def hasDefaultAppPermission (answers : RdbAnswers) (mgr : DefaultAppMgr) (userId : Int) (normalizedType : Str)
    (element : Element) : Bool × DefaultAppMgr :=
  if normalizedType ≠ BROWSER then (true, mgr)
  else
    match isPresetDefaultApp answers mgr normalizedType element with
    | (true, mgr) => (true, mgr)
    | (false, mgr) =>
      if !services.isPermissionCheckEnabled then (true, mgr) else (hasBrowserPermission services userId element, mgr)

/-- The last check of `IsElementValid`. -/
def checkPermission (answers : RdbAnswers) (mgr : DefaultAppMgr) (userId : Int) (type : Str) (element : Element) :
    Option ErrCode × DefaultAppMgr :=
  match hasDefaultAppPermission services answers mgr userId type element with
  | (true, mgr) => (none, mgr)
  | (false, mgr) => (some .defaultAppPermissionDenied, mgr)

def isElementValid (answers : RdbAnswers) (mgr : DefaultAppMgr) (userId : Int) (type : Str) (element : Element) :
    Option ErrCode × DefaultAppMgr :=
  if !verifyElementFormat element then (some .abilityAndTypeMismatch, mgr)
  else
    match services.queryInfoAndSkillsByElement userId element with
    | none =>
      if !getBrokerBundleInfo services element then (some .abilityAndTypeMismatch, mgr)
      else checkPermission services answers mgr userId type element
    | some skills =>
      if !isMatch services type skills then (some .abilityAndTypeMismatch, mgr)
      else checkPermission services answers mgr userId type element

/-- The element may be the default application of the type. -/
def Valid (mgr : DefaultAppMgr) (userId : Int) (type : Str) (element : Element) : Prop :=
  (isElementValid services {} mgr userId type element).1 = none

instance (mgr : DefaultAppMgr) (userId : Int) (type : Str) (element : Element) :
    Decidable (Valid services mgr userId type element) :=
  inferInstanceAs (Decidable (_ = _))

/-! ## What the checks see of the manager -/

/-- The preset elements, kept or to be read. -/
def DefaultAppMgr.presets (mgr : DefaultAppMgr) : Infos :=
  match mgr.presetCache with
  | some infos => infos
  | none => entries mgr.rows initialUserId

def DefaultAppMgr.isPreset (mgr : DefaultAppMgr) (type : Str) (element : Element) : Bool :=
  match mgr.presets[type]? with
  | none => false
  | some preset => preset.same element

/-- Checks read: they may keep the preset elements and delete a row that does not parse. -/
structure SameData (mgr mgr' : DefaultAppMgr) : Prop where
  entries : entries mgr'.rows = entries mgr.rows
  presets : mgr'.presets = mgr.presets

theorem SameData.rfl {mgr : DefaultAppMgr} : SameData mgr mgr := ⟨Eq.refl _, Eq.refl _⟩

theorem SameData.trans {mgr mgr' mgr'' : DefaultAppMgr} (h : SameData mgr mgr') (h' : SameData mgr' mgr'') :
    SameData mgr mgr'' :=
  ⟨h'.entries.trans h.entries, h'.presets.trans h.presets⟩

theorem SameData.rows {mgr : DefaultAppMgr} {rows : Rows} (h : DefaultApp.entries rows = DefaultApp.entries mgr.rows) :
    SameData mgr { mgr with rows } := by
  refine ⟨h, ?_⟩
  simp only [DefaultAppMgr.presets, h]

theorem isPresetDefaultApp_sameData (answers : RdbAnswers) (mgr : DefaultAppMgr) (type : Str) (element : Element) :
    SameData mgr (isPresetDefaultApp answers mgr type element).2 := by
  unfold isPresetDefaultApp
  dsimp only
  cases hcache : mgr.presetCache with
  | some infos => exact .rfl
  | none =>
    have hpresets : mgr.presets = entries mgr.rows initialUserId := by rw [DefaultAppMgr.presets, hcache]
    have hentries := getDataFromDb_entries answers initialUserId mgr.rows
    unfold getDefaultApplicationInfos
    rcases hqueried : getDataFromDb answers initialUserId mgr.rows with ⟨infos, rows⟩
    rw [hqueried] at hentries
    cases infos with
    | none =>
      refine ⟨hentries, ?_⟩
      rw [hpresets, DefaultAppMgr.presets]
      exact congrFun hentries initialUserId
    | some infos =>
      have hinfos := getDataFromDb_some answers initialUserId mgr.rows (congrArg Prod.fst hqueried)
      exact ⟨hentries, hpresets ▸ hinfos⟩

/-- The preset element is known for one if it is kept or its row can be read. -/
theorem isPresetDefaultApp_fst (answers : RdbAnswers) (mgr : DefaultAppMgr) (type : Str) (element : Element) :
    (isPresetDefaultApp answers mgr type element).1 =
      (mgr.isPreset type element && (mgr.presetCache.isSome || answers.query)) := by
  unfold isPresetDefaultApp DefaultAppMgr.isPreset DefaultAppMgr.presets
  dsimp only
  cases mgr.presetCache with
  | some infos => simp
  | none =>
    unfold getDefaultApplicationInfos
    dsimp only
    cases hquery : answers.query with
    | false => simp [getDataFromDb_unanswered answers initialUserId mgr.rows hquery]
    | true =>
      have hgetD := getDataFromDb_getD answers initialUserId mgr.rows hquery
      rw [← hgetD]
      rcases getDataFromDb answers initialUserId mgr.rows with ⟨infos, rows⟩
      cases infos with
      | none => simp
      | some infos => simp

/-- Once it has been known for one, it is kept. -/
theorem isPresetDefaultApp_presetCache {answers : RdbAnswers} {mgr : DefaultAppMgr} {type : Str} {element : Element}
    (hpreset : mgr.isPreset type element = true) :
    (isPresetDefaultApp answers mgr type element).2.presetCache.isSome = (mgr.presetCache.isSome || answers.query) := by
  unfold DefaultAppMgr.isPreset DefaultAppMgr.presets at hpreset
  unfold isPresetDefaultApp
  dsimp only
  cases hcache : mgr.presetCache with
  | some infos => simp [hcache]
  | none =>
    rw [hcache] at hpreset
    unfold getDefaultApplicationInfos
    dsimp only at hpreset ⊢
    cases hquery : answers.query with
    | false => simp [getDataFromDb_unanswered answers initialUserId mgr.rows hquery]
    | true =>
      have hnone := getDataFromDb_none answers initialUserId mgr.rows hquery
      rcases hread : getDataFromDb answers initialUserId mgr.rows with ⟨infos, rows⟩
      cases infos with
      | none =>
        rw [hnone (congrArg Prod.fst hread), Std.ExtTreeMap.getElem?_empty] at hpreset
        cases hpreset
      | some infos => simp

/-- What the permission comes to, given whether the element is the preset one. -/
def permitted (userId : Int) (type : Str) (element : Element) (isPreset : Bool) : Bool :=
  type ≠ BROWSER || isPreset || !services.isPermissionCheckEnabled || hasBrowserPermission services userId element

/-- The element exists and has a skill for the type, or is one of the broker. -/
def serves (userId : Int) (type : Str) (element : Element) : Bool :=
  match services.queryInfoAndSkillsByElement userId element with
  | none => getBrokerBundleInfo services element
  | some skills => isMatch services type skills

/-- What `IsElementValid` comes to. -/
def elementVerdict (userId : Int) (type : Str) (element : Element) (isPreset : Bool) : Option ErrCode :=
  if !(verifyElementFormat element && serves services userId type element) then some .abilityAndTypeMismatch
  else if permitted services userId type element isPreset then none else some .defaultAppPermissionDenied

section
variable (answers : RdbAnswers) (mgr : DefaultAppMgr) (userId : Int) (type : Str) (element : Element)

/-- Only the browser has the preset elements read. -/
theorem checkPermission_eq :
    checkPermission services answers mgr userId type element =
      if type = BROWSER then
        (if permitted services userId type element (isPresetDefaultApp answers mgr type element).1 then none
          else some .defaultAppPermissionDenied, (isPresetDefaultApp answers mgr type element).2)
      else (none, mgr) := by
  unfold checkPermission hasDefaultAppPermission permitted
  by_cases htype : type = BROWSER
  · rw [if_neg (not_not.mpr htype), if_pos htype]
    rcases isPresetDefaultApp answers mgr type element with ⟨isPreset, mgr'⟩
    cases isPreset with
    | true => simp
    | false =>
      cases services.isPermissionCheckEnabled with
      | false => simp
      | true => cases hasBrowserPermission services userId element <;> simp [htype]
  · rw [if_pos htype, if_neg htype]

theorem isElementValid_eq :
    isElementValid services answers mgr userId type element =
      if verifyElementFormat element && serves services userId type element then
        checkPermission services answers mgr userId type element
      else (some .abilityAndTypeMismatch, mgr) := by
  unfold isElementValid serves
  cases verifyElementFormat element with
  | false => rfl
  | true =>
    cases services.queryInfoAndSkillsByElement userId element with
    | none => cases getBrokerBundleInfo services element <;> simp
    | some skills => cases hmatch : isMatch services type skills <;> simp [hmatch]

theorem isElementValid_fst :
    (isElementValid services answers mgr userId type element).1 =
      elementVerdict services userId type element (isPresetDefaultApp answers mgr type element).1 := by
  rw [isElementValid_eq, elementVerdict]
  cases verifyElementFormat element && serves services userId type element with
  | false => rfl
  | true =>
    rw [if_pos rfl, checkPermission_eq]
    by_cases htype : type = BROWSER
    · rw [if_pos htype]
      rfl
    · rw [if_neg htype]
      simp [permitted, htype]

theorem isElementValid_snd_of_ne (htype : type ≠ BROWSER) :
    (isElementValid services answers mgr userId type element).2 = mgr := by
  rw [isElementValid_eq, checkPermission_eq, if_neg htype]
  exact (apply_ite Prod.snd _ _ _).trans (ite_self mgr)

theorem isElementValid_sameData : SameData mgr (isElementValid services answers mgr userId type element).2 := by
  rw [isElementValid_eq, checkPermission_eq]
  split
  · split
    · exact isPresetDefaultApp_sameData answers mgr type element
    · exact .rfl
  · exact .rfl

end

variable {services}

theorem valid_iff {mgr : DefaultAppMgr} {userId : Int} {type : Str} {element : Element} :
    Valid services mgr userId type element ↔
      elementVerdict services userId type element (mgr.isPreset type element) = none := by
  unfold Valid
  rw [isElementValid_fst, isPresetDefaultApp_fst, Bool.or_true, Bool.and_true]

theorem isElementValid_iff {answers : RdbAnswers} (hquery : answers.query = true) (mgr : DefaultAppMgr) (userId : Int)
    (type : Str) (element : Element) :
    (isElementValid services answers mgr userId type element).1 = none ↔ Valid services mgr userId type element := by
  rw [isElementValid_fst, isPresetDefaultApp_fst, hquery, Bool.or_true, Bool.and_true, valid_iff]

/-- Whether the element is the preset one matters for the browser only. -/
theorem elementVerdict_of_ne {userId : Int} {type : Str} {element : Element} (htype : type ≠ BROWSER)
    (isPreset isPreset' : Bool) :
    elementVerdict services userId type element isPreset = elementVerdict services userId type element isPreset' := by
  simp [elementVerdict, permitted, htype]

/-- To be the preset element does no harm. -/
theorem elementVerdict_preset {userId : Int} {type : Str} {element : Element} {isPreset : Bool}
    (h : elementVerdict services userId type element isPreset = none) :
    elementVerdict services userId type element true = none := by
  unfold elementVerdict at h ⊢
  by_cases hserves : (!(verifyElementFormat element && serves services userId type element)) = true
  · rw [if_pos hserves] at h
    cases h
  · rw [if_neg hserves, if_pos (by simp [permitted])]

theorem valid_of_presets {mgr mgr' : DefaultAppMgr} (h : mgr'.presets = mgr.presets) (userId : Int) (type : Str)
    (element : Element) : Valid services mgr' userId type element ↔ Valid services mgr userId type element := by
  rw [valid_iff, valid_iff, DefaultAppMgr.isPreset, DefaultAppMgr.isPreset, h]

/-- An element without names is not valid for any type. -/
theorem elementVerdict_of_empty {userId : Int} {type : Str} {element : Element} (h : isElementEmpty element = true)
    (isPreset : Bool) : elementVerdict services userId type element isPreset ≠ none := by
  have hbundle : element.bundleName.isEmpty = true := by
    unfold isElementEmpty at h
    simp only [Bool.and_eq_true] at h
    exact h.1.1.1
  rw [elementVerdict, verifyElementFormat, if_pos hbundle]
  exact Option.some_ne_none _

end

end BundleFramework.DefaultApp
