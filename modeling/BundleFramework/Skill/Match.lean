import BundleFramework.Skill.MatchUri

/-!
# The two overloads of `Skill::Match`

A skill matches a want by action and entities, and by uri and type; a want with a link
feature is matched by that, uri and type alone.  The matching of uri and type is written
twice in the source, once for a yes or no and once with the index of the entry of `uris`
that matched, and both copies are written out here.

An overload with an index takes the value that the caller's variable has before the call
and returns the one it has after it.
-/

namespace BundleFramework

/-- The getters of a want that the matching reads. -/
structure Want where
  /-- The string parameter `linkFeature`, empty if absent. -/
  linkFeature : Str := []
  action : Str := []
  entities : List Str := []
  /-- The string array parameter `PARAM_ABILITY_URITYPES`. -/
  uriTypes : List Str := []
  uriString : Str := []
  type : Str := []
  deriving DecidableEq

structure Skill where
  actions : List Str := []
  entities : List Str := []
  uris : List SkillUri := []
  deriving DecidableEq

namespace Skill

/-! ## Algorithm -/

def actionHome : Str := "action.system.home".toList

def wantActionHome : Str := "ohos.want.action.home".toList

def mailtoSchemePrefix : Str := "mailto:".toList

def matchAction (skill : Skill) (action : Str) : Bool :=
  if skill.actions.isEmpty then false
  else if action.isEmpty then true
  else skill.actions.any fun configAction =>
    action == configAction || (action == actionHome && configAction == wantActionHome) ||
      (action == wantActionHome && configAction == actionHome)

def matchEntities (skill : Skill) (paramEntities : List Str) : Bool :=
  if paramEntities.isEmpty then true
  else if skill.entities.isEmpty then false
  else paramEntities.all fun paramEntity => skill.entities.contains paramEntity

def matchLauncher (skill : Skill) (want : Want) : Bool :=
  skill.matchAction want.action && skill.matchEntities want.entities

/-- `for (uriIndex = 0; …) if (p(uris[uriIndex])) { matchUriIndex = uriIndex; return true; }`
and then `return false`; from `uriIndex` on, over the entries that are left. -/
def findUri (p : SkillUri → Bool) (matchUriIndex : Nat) (uriIndex : Nat) : List SkillUri → Bool × Nat
  | [] => (false, matchUriIndex)
  | skillUri :: uris =>
    if p skillUri then (true, uriIndex) else findUri p matchUriIndex (uriIndex + 1) uris

section
variable (env : MatchEnv)

def matchMimeType (skill : Skill) (uriString : Str) : Bool :=
  match getUtdVectorByUri env uriString with
  | none => false
  | some paramUtdVector =>
    skill.uris.any fun skillUri =>
      paramUtdVector.any fun paramUtd =>
        (matchUri env uriString skillUri ||
          (skillUri.scheme.isEmpty && (strFind uriString schemeSeparator).isNone)) &&
        matchType env paramUtd skillUri.type

def matchMimeTypeIndex (skill : Skill) (uriString : Str) (matchUriIndex : Nat) : Bool × Nat :=
  match getUtdVectorByUri env uriString with
  | none => (false, matchUriIndex)
  | some paramUtdVector =>
    findUri (fun skillUri =>
      paramUtdVector.any fun paramUtd =>
        (matchUri env uriString skillUri ||
          (skillUri.scheme.isEmpty && (strFind uriString schemeSeparator).isNone)) &&
        matchType env paramUtd skillUri.type) matchUriIndex 0 skill.uris

def matchUriAndType (skill : Skill) (rawUriString type : Str) : Bool :=
  let uriString := getOptParamUri rawUriString
  if uriString.isEmpty && type.isEmpty then
    if skill.uris.isEmpty then true
    else skill.uris.any fun skillUri => skillUri.scheme.isEmpty && skillUri.type.isEmpty
  else if skill.uris.isEmpty then false
  else if !uriString.isEmpty && type.isEmpty then
    if skill.uris.any fun skillUri => matchUri env uriString skillUri && skillUri.type.isEmpty then true
    else if startsWith uriString mailtoSchemePrefix then false
    else matchMimeType env skill uriString
  else if uriString.isEmpty && !type.isEmpty then
    skill.uris.any fun skillUri => skillUri.scheme.isEmpty && matchType env type skillUri.type
  else
    skill.uris.any fun skillUri =>
      matchUri env uriString skillUri && matchType env type skillUri.type

def matchUriAndTypeIndex (skill : Skill) (rawUriString type : Str) (matchUriIndex : Nat) : Bool × Nat :=
  let uriString := getOptParamUri rawUriString
  if uriString.isEmpty && type.isEmpty then
    if skill.uris.isEmpty then (true, matchUriIndex)
    else findUri (fun skillUri => skillUri.scheme.isEmpty && skillUri.type.isEmpty)
      matchUriIndex 0 skill.uris
  else if skill.uris.isEmpty then (false, matchUriIndex)
  else if !uriString.isEmpty && type.isEmpty then
    let (found, matchUriIndex) :=
      findUri (fun skillUri => matchUri env uriString skillUri && skillUri.type.isEmpty)
        matchUriIndex 0 skill.uris
    if found then (true, matchUriIndex)
    else if startsWith uriString mailtoSchemePrefix then (false, matchUriIndex)
    else matchMimeTypeIndex env skill uriString matchUriIndex
  else if uriString.isEmpty && !type.isEmpty then
    findUri (fun skillUri => skillUri.scheme.isEmpty && matchType env type skillUri.type)
      matchUriIndex 0 skill.uris
  else
    findUri (fun skillUri => matchUri env uriString skillUri && matchType env type skillUri.type)
      matchUriIndex 0 skill.uris

/-- The body of the second loop of `MatchLinkFeature`. -/
def matchLinkFeatureUri (linkFeature paramUriString paramType : Str) (skillUri : SkillUri) : Bool :=
  let onlyUri := !paramUriString.isEmpty && paramType.isEmpty
  if linkFeature ≠ skillUri.linkFeature then false
  else if matchUri env paramUriString skillUri && matchType env paramType skillUri.type then true
  else if !onlyUri then false
  else
    match getUtdVectorByUri env paramUriString with
    | none => false
    | some paramUtdVector =>
      paramUtdVector.any fun paramUtd =>
        (matchUri env paramUriString skillUri ||
          (skillUri.scheme.isEmpty && (strFind paramUriString schemeSeparator).isNone)) &&
        matchType env paramUtd skillUri.type

def matchLinkFeature (skill : Skill) (linkFeature : Str) (want : Want) (matchUriIndex : Nat) : Bool × Nat :=
  let paramUriString := getOptParamUri want.uriString
  let paramType := want.type
  if paramUriString.isEmpty && paramType.isEmpty then
    findUri (fun skillUri => linkFeature == skillUri.linkFeature) matchUriIndex 0 skill.uris
  else
    findUri (matchLinkFeatureUri env linkFeature paramUriString paramType) matchUriIndex 0 skill.uris

/-- `Match(want)`. -/
def matchWant (skill : Skill) (want : Want) : Bool :=
  if !want.linkFeature.isEmpty then (matchLinkFeature env skill want.linkFeature want 0).1
  else if !skill.matchLauncher want then false
  else if !want.uriTypes.isEmpty then
    want.uriTypes.any fun strType => matchUriAndType env skill want.uriString strType
  else matchUriAndType env skill want.uriString want.type

/-- The loop over the types of the want, with the index. -/
def matchTypesIndex (skill : Skill) (uriString : Str) : List Str → Nat → Bool × Nat
  | [], matchUriIndex => (false, matchUriIndex)
  | strType :: vecTypes, matchUriIndex =>
    let (matched, matchUriIndex) := matchUriAndTypeIndex env skill uriString strType matchUriIndex
    if matched then (true, matchUriIndex) else matchTypesIndex skill uriString vecTypes matchUriIndex

/-- `Match(want, matchUriIndex)`. -/
def matchWantIndex (skill : Skill) (want : Want) (matchUriIndex : Nat) : Bool × Nat :=
  if !want.linkFeature.isEmpty then matchLinkFeature env skill want.linkFeature want matchUriIndex
  else if !skill.matchLauncher want then (false, matchUriIndex)
  else if want.uriTypes.length > 0 then
    matchTypesIndex env skill want.uriString want.uriTypes matchUriIndex
  else matchUriAndTypeIndex env skill want.uriString want.type matchUriIndex

end

/-! ## Lemmas -/

theorem findUri_fst (p : SkillUri → Bool) (matchUriIndex uriIndex : Nat) (uris : List SkillUri) :
    (findUri p matchUriIndex uriIndex uris).1 = uris.any p := by
  induction uris generalizing uriIndex with
  | nil => rfl
  | cons skillUri uris ih =>
    unfold findUri
    by_cases h : p skillUri = true
    · simp [h]
    · rw [if_neg h, ih, List.any_cons]
      simp [h]

/-- What a search from `uriIndex` on returns is the index of an entry that fits. -/
theorem findUri_getElem? {p : SkillUri → Bool} {matchUriIndex uriIndex : Nat} {uris : List SkillUri}
    (h : (findUri p matchUriIndex uriIndex uris).1 = true) :
    ∃ j u, (findUri p matchUriIndex uriIndex uris).2 = uriIndex + j ∧ uris[j]? = some u ∧ p u = true := by
  induction uris generalizing uriIndex with
  | nil => cases h
  | cons skillUri uris ih =>
    unfold findUri at h ⊢
    by_cases hp : p skillUri = true
    · rw [if_pos hp]
      exact ⟨0, skillUri, rfl, rfl, hp⟩
    · rw [if_neg hp] at h ⊢
      obtain ⟨j, u, hj, hu, hpu⟩ := ih h
      exact ⟨j + 1, u, by omega, hu, hpu⟩

/-- The skill with one of its entries only. -/
def cut (skill : Skill) (u : SkillUri) : Skill := { skill with uris := [u] }

/-- If the search was successful, the index is that of an entry that matches on its own. -/
def Points (skill : Skill) (res : Bool × Nat) (matches_ : Skill → Bool) : Prop :=
  res.1 = true → ∃ u, skill.uris[res.2]? = some u ∧ matches_ (skill.cut u) = true

theorem points_findUri {skill : Skill} {p : SkillUri → Bool} {matchUriIndex : Nat} {matches_ : Skill → Bool}
    (h : ∀ u, p u = true → matches_ (skill.cut u) = true) :
    skill.Points (findUri p matchUriIndex 0 skill.uris) matches_ := by
  intro hfound
  obtain ⟨j, u, hj, hu, hpu⟩ := findUri_getElem? hfound
  rw [hj, Nat.zero_add]
  exact ⟨u, hu, h u hpu⟩

section
variable (env : MatchEnv) (skill : Skill)

theorem matchMimeTypeIndex_fst (uriString : Str) (matchUriIndex : Nat) :
    (matchMimeTypeIndex env skill uriString matchUriIndex).1 = matchMimeType env skill uriString := by
  unfold matchMimeTypeIndex matchMimeType
  cases getUtdVectorByUri env uriString with
  | none => rfl
  | some paramUtdVector => exact findUri_fst _ _ _ _

theorem matchMimeTypeIndex_points (uriString : Str) (matchUriIndex : Nat) :
    skill.Points (matchMimeTypeIndex env skill uriString matchUriIndex)
      fun cut => matchMimeType env cut uriString := by
  unfold matchMimeTypeIndex matchMimeType
  cases getUtdVectorByUri env uriString with
  | none =>
    intro h
    cases h
  | some paramUtdVector =>
    refine points_findUri fun u hu => ?_
    show ([u].any _) = true
    simpa using hu

theorem matchUriAndTypeIndex_fst (rawUriString type : Str) (matchUriIndex : Nat) :
    (matchUriAndTypeIndex env skill rawUriString type matchUriIndex).1 =
      matchUriAndType env skill rawUriString type := by
  unfold matchUriAndTypeIndex matchUriAndType
  dsimp only
  split
  · split
    · rfl
    · exact findUri_fst _ _ _ _
  · split
    · rfl
    · split
      · rw [findUri_fst]
        split
        · rfl
        · split
          · rfl
          · exact matchMimeTypeIndex_fst env skill _ _
      · split
        · exact findUri_fst _ _ _ _
        · exact findUri_fst _ _ _ _

/-- One entry decides the four cases by itself as it does among the others.  Only where a
file name gives the type is there something to say: the entry may also fit directly. -/
theorem matchUriAndTypeIndex_points (rawUriString type : Str) (matchUriIndex : Nat)
    (hne : skill.uris ≠ []) :
    skill.Points (matchUriAndTypeIndex env skill rawUriString type matchUriIndex)
      fun cut => matchUriAndType env cut rawUriString type := by
  have hcut : ∀ u, (skill.cut u).uris = [u] := fun _ => rfl
  have hne' : ¬ skill.uris.isEmpty = true := by simpa using hne
  unfold matchUriAndTypeIndex matchUriAndType
  dsimp only
  split
  · refine points_findUri fun u hu => ?_
    simpa [hcut] using hu
  · split
    · split
      · next hfound =>
        intro _
        obtain ⟨j, u, hj, hu, hpu⟩ := findUri_getElem? hfound
        rw [Nat.zero_add] at hj
        exact ⟨u, by rw [← hj] at hu; exact hu, by simp [hcut, hpu]⟩
      · split
        · intro h
          cases h
        · intro h
          obtain ⟨u, hu, hmime⟩ := matchMimeTypeIndex_points env skill _ _ h
          refine ⟨u, hu, ?_⟩
          simp [hcut, hmime]
    · split
      · refine points_findUri fun u hu => ?_
        simpa [hcut] using hu
      · refine points_findUri fun u hu => ?_
        simpa [hcut] using hu

theorem matchLinkFeature_fst (linkFeature : Str) (want : Want) (matchUriIndex matchUriIndex' : Nat) :
    (matchLinkFeature env skill linkFeature want matchUriIndex).1 =
      (matchLinkFeature env skill linkFeature want matchUriIndex').1 := by
  unfold matchLinkFeature
  dsimp only
  split
  · rw [findUri_fst, findUri_fst]
  · rw [findUri_fst, findUri_fst]

theorem matchLinkFeature_points (linkFeature : Str) (want : Want) (matchUriIndex : Nat) :
    skill.Points (matchLinkFeature env skill linkFeature want matchUriIndex)
      fun cut => (matchLinkFeature env cut linkFeature want 0).1 := by
  unfold matchLinkFeature
  dsimp only
  split
  · refine points_findUri fun u hu => ?_
    rw [findUri_fst]
    simpa [cut] using hu
  · refine points_findUri fun u hu => ?_
    rw [findUri_fst]
    simpa [cut] using hu

theorem matchTypesIndex_fst (uriString : Str) (vecTypes : List Str) (matchUriIndex : Nat) :
    (matchTypesIndex env skill uriString vecTypes matchUriIndex).1 =
      vecTypes.any fun strType => matchUriAndType env skill uriString strType := by
  induction vecTypes generalizing matchUriIndex with
  | nil => rfl
  | cons strType vecTypes ih =>
    unfold matchTypesIndex
    dsimp only
    rw [matchUriAndTypeIndex_fst, List.any_cons]
    cases matchUriAndType env skill uriString strType with
    | true => rfl
    | false => exact ih _

theorem matchTypesIndex_points (uriString : Str) (vecTypes : List Str) (matchUriIndex : Nat)
    (hne : skill.uris ≠ []) :
    skill.Points (matchTypesIndex env skill uriString vecTypes matchUriIndex)
      fun cut => vecTypes.any fun strType => matchUriAndType env cut uriString strType := by
  induction vecTypes generalizing matchUriIndex with
  | nil =>
    intro h
    cases h
  | cons strType vecTypes ih =>
    unfold matchTypesIndex
    dsimp only
    split
    · next hmatched =>
      intro _
      obtain ⟨u, hu, hcut⟩ := matchUriAndTypeIndex_points env skill _ _ _ hne hmatched
      exact ⟨u, hu, List.any_eq_true.mpr ⟨strType, List.mem_cons_self, hcut⟩⟩
    · intro h
      obtain ⟨u, hu, hcut⟩ := ih _ h
      obtain ⟨t, ht, hmatched⟩ := List.any_eq_true.mp hcut
      exact ⟨u, hu, List.any_eq_true.mpr ⟨t, List.mem_cons_of_mem _ ht, hmatched⟩⟩

theorem matchWantIndex_fst (want : Want) (matchUriIndex : Nat) :
    (matchWantIndex env skill want matchUriIndex).1 = matchWant env skill want := by
  unfold matchWantIndex matchWant
  split
  · exact matchLinkFeature_fst env skill _ _ _ _
  · split
    · rfl
    · cases want.uriTypes with
      | nil => exact matchUriAndTypeIndex_fst env skill _ _ _
      | cons strType vecTypes => exact matchTypesIndex_fst env skill _ _ _

theorem matchWantIndex_points (want : Want) (matchUriIndex : Nat) (hne : skill.uris ≠ []) :
    skill.Points (matchWantIndex env skill want matchUriIndex) fun cut => matchWant env cut want := by
  unfold matchWantIndex matchWant
  split
  · exact matchLinkFeature_points env skill _ _ _
  · split
    · intro h
      cases h
    · next hlauncher =>
      -- the entries of `uris` have no part in the action and the entities
      have hsame : ∀ u, ¬ (!(skill.cut u).matchLauncher want) = true := fun _ => hlauncher
      cases want.uriTypes with
      | nil =>
        intro h
        obtain ⟨u, hu, hcut⟩ := matchUriAndTypeIndex_points env skill _ _ _ hne h
        exact ⟨u, hu, (if_neg (hsame u)).trans hcut⟩
      | cons strType vecTypes =>
        intro h
        obtain ⟨u, hu, hcut⟩ := matchTypesIndex_points env skill _ _ _ hne h
        exact ⟨u, hu, (if_neg (hsame u)).trans hcut⟩

/-- **The overloads agree**, and the index is that of an entry that matches on its own. -/
theorem matchWantIndex_agrees (want : Want) (matchUriIndex : Nat) :
    (matchWantIndex env skill want matchUriIndex).1 = matchWant env skill want ∧
    ((matchWantIndex env skill want matchUriIndex).1 = true → skill.uris ≠ [] →
      ∃ h : (matchWantIndex env skill want matchUriIndex).2 < skill.uris.length,
        matchWant env { skill with uris := [skill.uris.get ⟨_, h⟩] } want = true) := by
  refine ⟨matchWantIndex_fst env skill want matchUriIndex, fun hmatch hne => ?_⟩
  obtain ⟨u, hu, hcut⟩ := matchWantIndex_points env skill want matchUriIndex hne hmatch
  obtain ⟨h, rfl⟩ := List.getElem?_eq_some_iff.mp hu
  exact ⟨h, hcut⟩

end

/-- A registry that knows one type, of the files `*.txt`. -/
def textEnv : MatchEnv where
  udmfEnabled := true
  isUtd param := some (param == "general.plain-text".toList || param == "general.text".toList)
  getUniformDataTypesByMIMEType _ := none
  getUniformDataTypesByFilenameExtension suffix :=
    if suffix = ".txt".toList then some ["general.plain-text".toList] else some []
  getTypeDescriptor utd :=
    if utd = "general.plain-text".toList then
      some fun other => some (other == "general.plain-text".toList || other == "general.text".toList)
    else none
  regexMatch pattern text := some (pattern == text)

def textSkill : Skill where
  actions := ["ohos.want.action.viewData".toList]
  uris := [{ scheme := "https".toList, host := "example".toList }, { type := "general.text".toList }]

/-- The second entry takes the file by its suffix. -/
theorem matchWantIndex_agrees_textFile :
    (matchWantIndex textEnv textSkill { uriString := "a.txt".toList } 7).1 = true ∧ textSkill.uris ≠ [] ∧
    ∃ h : (matchWantIndex textEnv textSkill { uriString := "a.txt".toList } 7).2 < textSkill.uris.length,
      matchWant textEnv { textSkill with uris := [textSkill.uris.get ⟨_, h⟩] }
        { uriString := "a.txt".toList } = true := by
  have hmatch : (matchWantIndex textEnv textSkill { uriString := "a.txt".toList } 7).1 = true := by
    decide
  have hne : textSkill.uris ≠ [] := by decide
  exact ⟨hmatch, hne, (matchWantIndex_agrees textEnv textSkill _ 7).2 hmatch hne⟩

end Skill

end BundleFramework
