import BundleFramework.DefaultApp.SetRequest

/-!
# Default applications of a bundle that is removed

The entries of the user are built anew: those of the removed application fall back to the element
of the enterprise if it is valid, else to the preset element as it is, else they are erased.

Nothing keeps an entry from falling back to the very application that is removed: a preset element
stays the default also where its bundle is gone.
-/

namespace BundleFramework.DefaultApp

structure UninstallAnswers where
  current : RdbAnswers
  custom : RdbAnswers
  /-- By type: for the check of the element of the enterprise, and for the preset element. -/
  preset : Str → CallAnswers
  save : RdbAnswers

/-! ## Algorithm -/

def edcDefaultUserId : Int := -100

/-- The id of the elements of the enterprise. -/
def getEdcUserId (userId : Int) : Int := if userId ≤ 2 then edcDefaultUserId else -userId

structure UninstallState where
  mgr : DefaultAppMgr
  newInfos : Infos := ∅
  changedTypeVec : List Str := []

section
variable (services : Services) (answers : UninstallAnswers) (userId : Int) (bundleName : Str) (appIndex : Int)

/-- The element of the enterprise, if it is there and valid. -/
def customElement (customInfos : Infos) (type : Str) (mgr : DefaultAppMgr) : Option Element × DefaultAppMgr :=
  match customInfos[type]? with
  | none => (none, mgr)
  | some element =>
    match isElementValid services (answers.preset type).preset mgr userId type element with
    | (none, mgr) => (some element, mgr)
    | (some _, mgr) => (none, mgr)

/-- One turn of the loop over the entries of the user. -/
def uninstallStep (customInfos : Infos) (st : UninstallState) (item : Str × Element) : UninstallState :=
  if item.2.bundleName ≠ bundleName ∨ item.2.appIndex ≠ appIndex then
    { st with newInfos := st.newInfos.insertIfNew item.1 item.2 }
  else
    let changedTypeVec := st.changedTypeVec ++ [item.1]
    match customElement services answers userId customInfos item.1 st.mgr with
    | (some element, mgr) => { mgr, newInfos := st.newInfos.insertIfNew item.1 element, changedTypeVec }
    | (none, mgr) =>
      match getDefaultApplicationInfo (answers.preset item.1).table initialUserId item.1 mgr.rows with
      | (some element, rows) =>
        { mgr := { mgr with rows }, newInfos := st.newInfos.insertIfNew item.1 element, changedTypeVec }
      | (none, rows) => { mgr := { mgr with rows }, newInfos := st.newInfos, changedTypeVec }

/-- The manager, and the types the change is told of. -/
def handleUninstallBundle (mgr : DefaultAppMgr) : DefaultAppMgr × Option (List Str) :=
  match getDefaultApplicationInfos answers.current userId mgr.rows with
  | (none, rows) => ({ mgr with rows }, none)
  | (some currentInfos, rows) =>
    let custom := getDefaultApplicationInfos answers.custom (getEdcUserId userId) rows
    let st := currentInfos.toList.foldl (uninstallStep services answers userId bundleName appIndex (custom.1.getD ∅))
      { mgr := { mgr with rows := custom.2 } }
    -- whether the row is saved is not looked at
    let saved := setDefaultApplicationInfos answers.save userId st.newInfos st.mgr.rows
    ({ st.mgr with rows := saved.2 }, sendDefaultAppChangeEvent st.changedTypeVec)

end

/-! ## Specification -/

/-- The queries are answered. -/
structure UninstallAnswers.Queried (answers : UninstallAnswers) : Prop where
  current : answers.current.query = true
  custom : answers.custom.query = true
  preset : ∀ t, (answers.preset t).preset.query = true
  table : ∀ t, (answers.preset t).table.query = true

def Element.RefersTo (element : Element) (bundleName : Str) (appIndex : Int) : Prop :=
  element.bundleName = bundleName ∧ element.appIndex = appIndex

instance (element : Element) (bundleName : Str) (appIndex : Int) : Decidable (element.RefersTo bundleName appIndex) :=
  inferInstanceAs (Decidable (element.bundleName = bundleName ∧ element.appIndex = appIndex))

section
variable (services : Services) (mgr : DefaultAppMgr) (userId : Int) (bundleName : Str) (appIndex : Int)

/-- The element a type falls back to: that of the enterprise if it is valid, else the preset one. -/
def fallback (type : Str) : Option Element :=
  match (entries mgr.rows (getEdcUserId userId))[type]? with
  | none => (entries mgr.rows initialUserId)[type]?
  | some element =>
    if Valid services mgr userId type element then some element else (entries mgr.rows initialUserId)[type]?

/-- What becomes of an entry. -/
def replaced (type : Str) (element : Element) : Option Element :=
  if element.RefersTo bundleName appIndex then fallback services mgr userId type else some element

/-- After the removal: an entry of the application holds what its type falls back to, and nothing
else has changed; the entries that refer to it are those that fall back to it. -/
structure Uninstalled (mgr' : DefaultAppMgr) : Prop where
  kept : ∀ (t : Str) (e : Element), (entries mgr.rows userId)[t]? = some e → ¬ e.RefersTo bundleName appIndex →
    (entries mgr'.rows userId)[t]? = some e
  affected : ∀ (t : Str) (e : Element), (entries mgr.rows userId)[t]? = some e → e.RefersTo bundleName appIndex →
    (entries mgr'.rows userId)[t]? = fallback services mgr userId t
  absent : ∀ t : Str, (entries mgr.rows userId)[t]? = none → (entries mgr'.rows userId)[t]? = none
  dangling : ∀ t : Str, (∃ e, (entries mgr'.rows userId)[t]? = some e ∧ e.RefersTo bundleName appIndex) ↔
    (∃ e, (entries mgr.rows userId)[t]? = some e ∧ e.RefersTo bundleName appIndex) ∧
      ∃ e, fallback services mgr userId t = some e ∧ e.RefersTo bundleName appIndex
  others : ∀ u, u ≠ userId → entries mgr'.rows u = entries mgr.rows u

variable {services mgr userId bundleName appIndex}

/-- The rebuilt entries say it all. -/
theorem uninstalled_of_bind {mgr' : DefaultAppMgr}
    (hothers : ∀ u, u ≠ userId → entries mgr'.rows u = entries mgr.rows u)
    (hentry : ∀ t : Str, (entries mgr'.rows userId)[t]? =
      (entries mgr.rows userId)[t]?.bind (replaced services mgr userId bundleName appIndex t)) :
    Uninstalled services mgr userId bundleName appIndex mgr' := by
  have hof : ∀ (t : Str) (e : Element), (entries mgr.rows userId)[t]? = some e →
      (entries mgr'.rows userId)[t]? = replaced services mgr userId bundleName appIndex t e := by
    intro t e he
    rw [hentry, he, Option.bind_some]
  have hkept : ∀ (t : Str) (e : Element), (entries mgr.rows userId)[t]? = some e → ¬ e.RefersTo bundleName appIndex →
      (entries mgr'.rows userId)[t]? = some e := by
    intro t e he hnot
    rw [hof t e he, replaced, if_neg hnot]
  have haffected : ∀ (t : Str) (e : Element), (entries mgr.rows userId)[t]? = some e → e.RefersTo bundleName appIndex →
      (entries mgr'.rows userId)[t]? = fallback services mgr userId t := by
    intro t e he hrefers
    rw [hof t e he, replaced, if_pos hrefers]
  refine ⟨hkept, haffected, fun t hnone => ?_, fun t => ?_, hothers⟩
  · rw [hentry, hnone, Option.bind_none]
  · constructor
    · rintro ⟨e', he', hrefers'⟩
      cases he : (entries mgr.rows userId)[t]? with
      | none =>
        rw [hentry, he] at he'
        cases he'
      | some e =>
        by_cases hrefers : e.RefersTo bundleName appIndex
        · exact ⟨⟨e, rfl, hrefers⟩, e', by rw [← haffected t e he hrefers, he'], hrefers'⟩
        · rw [hkept t e he hrefers, Option.some.injEq] at he'
          exact absurd (he' ▸ hrefers') hrefers
    · rintro ⟨⟨e, he, hrefers⟩, e', he', hrefers'⟩
      exact ⟨e', by rw [haffected t e he hrefers, he'], hrefers'⟩

variable {answers : UninstallAnswers} (services) (userId) (bundleName) (appIndex)

theorem customElement_spec (hquery : answers.Queried) (st : DefaultAppMgr) (hsame : SameData mgr st) (type : Str) :
    let res := customElement services answers userId (entries mgr.rows (getEdcUserId userId)) type st
    SameData mgr res.2 ∧ res.1.or (entries mgr.rows initialUserId)[type]? = fallback services mgr userId type := by
  intro res
  have hres : res = customElement services answers userId (entries mgr.rows (getEdcUserId userId)) type st := rfl
  unfold customElement at hres
  unfold fallback
  cases hcustom : (entries mgr.rows (getEdcUserId userId))[type]? with
  | none =>
    rw [hcustom] at hres
    rw [hres]
    exact ⟨hsame, rfl⟩
  | some element =>
    rw [hcustom] at hres
    have hiff : _ ↔ Valid services mgr userId type element :=
      (isElementValid_iff (hquery.preset type) st userId type element).trans
        (valid_of_presets hsame.presets userId type element)
    have hkeeps := isElementValid_sameData services (answers.preset type).preset st userId type element
    dsimp only at hres ⊢
    rcases hcheck : isElementValid services (answers.preset type).preset st userId type element with ⟨err, mgr'⟩
    rw [hcheck] at hiff hkeeps hres
    cases err with
    | none =>
      rw [hres, if_pos (hiff.mp rfl)]
      exact ⟨hsame.trans hkeeps, rfl⟩
    | some err =>
      rw [hres, if_neg fun hvalid => Option.some_ne_none err (hiff.mpr hvalid)]
      exact ⟨hsame.trans hkeeps, rfl⟩

theorem uninstallStep_spec (hquery : answers.Queried) {st : UninstallState} (hsame : SameData mgr st.mgr)
    (item : Str × Element) :
    let st' := uninstallStep services answers userId bundleName appIndex
      (entries mgr.rows (getEdcUserId userId)) st item
    SameData mgr st'.mgr ∧ st'.newInfos =
      (replaced services mgr userId bundleName appIndex item.1 item.2).elim st.newInfos
        (st.newInfos.insertIfNew item.1) := by
  intro st'
  have hst' : st' = uninstallStep services answers userId bundleName appIndex
    (entries mgr.rows (getEdcUserId userId)) st item := rfl
  unfold uninstallStep at hst'
  unfold replaced
  by_cases hrefers : item.2.RefersTo bundleName appIndex
  · have hnot : ¬ (item.2.bundleName ≠ bundleName ∨ item.2.appIndex ≠ appIndex) := by
      rintro (hbundle | hindex)
      · exact hbundle hrefers.1
      · exact hindex hrefers.2
    rw [if_neg hnot] at hst'
    rw [if_pos hrefers]
    obtain ⟨hcustomSame, hcustom⟩ := customElement_spec services userId hquery st.mgr hsame item.1
    dsimp only at hst'
    rcases hasked : customElement services answers userId (entries mgr.rows (getEdcUserId userId)) item.1 st.mgr with
      ⟨custom, mgr'⟩
    rw [hasked] at hst' hcustomSame hcustom
    rw [← hcustom]
    dsimp only at hst' hcustomSame
    cases custom with
    | some element =>
      rw [hst']
      exact ⟨hcustomSame, rfl⟩
    | none =>
      have hpreset := getDefaultApplicationInfo_fst (answers.preset item.1).table initialUserId mgr'.rows
        (hquery.table item.1) item.1
      have hrows := getDefaultApplicationInfo_entries (answers.preset item.1).table initialUserId mgr'.rows item.1
      rw [hcustomSame.entries] at hpreset
      dsimp only at hst'
      rcases hread : getDefaultApplicationInfo (answers.preset item.1).table initialUserId item.1 mgr'.rows with
        ⟨preset, rows⟩
      rw [hread] at hst' hpreset hrows
      rw [Option.none_or, ← hpreset]
      cases preset with
      | some element =>
        rw [hst']
        exact ⟨hcustomSame.trans (.rows hrows), rfl⟩
      | none =>
        rw [hst']
        exact ⟨hcustomSame.trans (.rows hrows), rfl⟩
  · have hother : item.2.bundleName ≠ bundleName ∨ item.2.appIndex ≠ appIndex := not_and_or.mp hrefers
    rw [if_pos hother] at hst'
    rw [if_neg hrefers, hst']
    exact ⟨hsame, rfl⟩

/-- The loop. -/
theorem uninstallStep_foldl (hquery : answers.Queried) (items : List (Str × Element)) : ∀ st : UninstallState,
    SameData mgr st.mgr →
    let st' := items.foldl (uninstallStep services answers userId bundleName appIndex
      (entries mgr.rows (getEdcUserId userId))) st
    SameData mgr st'.mgr ∧ st'.newInfos = items.foldl (fun acc item =>
      (replaced services mgr userId bundleName appIndex item.1 item.2).elim acc (acc.insertIfNew item.1)) st.newInfos := by
  induction items with
  | nil =>
    intro st hsame
    exact ⟨hsame, rfl⟩
  | cons item items ih =>
    intro st hsame
    obtain ⟨hstep, hinfos⟩ := uninstallStep_spec services userId bundleName appIndex hquery hsame item
    rw [List.foldl_cons, List.foldl_cons, ← hinfos]
    exact ih _ hstep

/-- **The entries after the removal of an application**, if the row is saved; else they are as before. -/
theorem handleUninstallBundle_uninstalled (services : Services) (answers : UninstallAnswers) (userId : Int)
    (bundleName : Str) (appIndex : Int) (mgr : DefaultAppMgr) (hquery : answers.Queried) :
    let mgr' := (handleUninstallBundle services answers userId bundleName appIndex mgr).1
    (answers.save.insert = true → Uninstalled services mgr userId bundleName appIndex mgr') ∧
      (answers.save.insert = false → ∀ u, entries mgr'.rows u = entries mgr.rows u) := by
  intro mgr'
  have hmgr' : mgr' = (handleUninstallBundle services answers userId bundleName appIndex mgr).1 := rfl
  unfold handleUninstallBundle getDefaultApplicationInfos at hmgr'
  have hcurrent := getDataFromDb_entries answers.current userId mgr.rows
  have hnone := getDataFromDb_none answers.current userId mgr.rows hquery.current
  have hsome := @getDataFromDb_some answers.current userId mgr.rows
  rcases hread : getDataFromDb answers.current userId mgr.rows with ⟨currentInfos, rows⟩
  rw [hread] at hcurrent hnone hsome hmgr'
  dsimp only at hcurrent hnone hsome
  cases currentInfos with
  | none =>
    rw [hmgr']
    refine ⟨fun _ => uninstalled_of_bind (fun u _ => congrFun hcurrent u) fun t => ?_, fun _ => congrFun hcurrent⟩
    show (entries rows userId)[t]? = _
    rw [hcurrent, hnone rfl, Std.ExtTreeMap.getElem?_empty, Option.bind_none]
  | some currentInfos =>
    obtain rfl := hsome rfl
    have hcustomRows := getDataFromDb_entries answers.custom (getEdcUserId userId) rows
    have hcustom := getDataFromDb_getD answers.custom (getEdcUserId userId) rows hquery.custom
    rw [hcurrent] at hcustomRows hcustom
    dsimp only at hmgr'
    rw [hcustom] at hmgr'
    obtain ⟨hsame, hinfos⟩ := uninstallStep_foldl services userId bundleName appIndex hquery
      (entries mgr.rows userId).toList
      { mgr := { mgr with rows := (getDataFromDb answers.custom (getEdcUserId userId) rows).2 } } (.rows hcustomRows)
    generalize (entries mgr.rows userId).toList.foldl (uninstallStep services answers userId bundleName appIndex
      (entries mgr.rows (getEdcUserId userId))) _ = st at hmgr' hsame hinfos
    have hentries := saveDataToDb_entries answers.save userId st.mgr.rows st.newInfos
    rw [hsame.entries] at hentries
    have hrows : entries mgr'.rows = entries (saveDataToDb answers.save userId st.newInfos st.mgr.rows).2 := by
      rw [hmgr']
      rfl
    constructor
    · intro hsave
      rw [hentries, if_pos hsave] at hrows
      refine uninstalled_of_bind (fun u hu => ?_) fun t => ?_
      · rw [hrows, Function.update_of_ne hu]
      · rw [hrows, Function.update_self, hinfos]
        exact MapLoop.getElem?_foldl_insertIfNew _ _ t
    · intro hsave u
      rw [hrows, hentries, hsave, if_neg Bool.false_ne_true]

end

/-! ## A preset application

The default browser of the user is the preset one; its bundle is gone. -/

def uninstallAnswers (save : Bool) : UninstallAnswers where
  current := {}
  custom := {}
  preset _ := {}
  save := { insert := save }

theorem uninstallAnswers_queried (save : Bool) : (uninstallAnswers save).Queried :=
  ⟨rfl, rfl, fun _ => rfl, fun _ => rfl⟩

def goneServices : Services :=
  { textServices with
    queryInfoAndSkillsByElement := fun userId element =>
      if element.bundleName = ['b'] then none else textServices.queryInfoAndSkillsByElement userId element }

def browserRow : Row := .infos ((∅ : Infos).insert BROWSER (elementOf ['b']))

/-- The user has a default browser; there may be a preset one. -/
def browserDefault (preset : Option Row) : DefaultAppMgr where
  rows := Function.update (Function.update (fun _ => none) initialUserId preset) 100 (some browserRow)
  presetCache := none

def rowOf (types : List (Str × Char)) : Row :=
  .infos (types.foldl (fun infos item => infos.insert item.1 (elementOf [item.2])) ∅)

/-- The enterprise has an element for both types of the application, valid for one of them. -/
def threeDefaults : DefaultAppMgr where
  rows := Function.update (Function.update (Function.update (fun _ => none)
    initialUserId (some (rowOf [(BROWSER, 'p'), (['a'], 'p')])))
    (getEdcUserId 100) (some (rowOf [(['a'], 'e'), (BROWSER, 'e')])))
    100 (some (rowOf [(['a'], 'b'), (BROWSER, 'b'), (['c'], 'o')]))
  presetCache := none

/-- One entry falls back to the element of the enterprise, one to the preset element; one stays. -/
theorem handleUninstallBundle_uninstalled_browser :
    (uninstallAnswers true).Queried ∧ (uninstallAnswers true).save.insert = true ∧
    fallback goneServices threeDefaults 100 ['a'] = some (elementOf ['e']) ∧
    fallback goneServices threeDefaults 100 BROWSER = some (elementOf ['p']) ∧
    (entries threeDefaults.rows 100)[['c']]? = some (elementOf ['o']) ∧
    Uninstalled goneServices threeDefaults 100 ['b'] 0
      (handleUninstallBundle goneServices (uninstallAnswers true) 100 ['b'] 0 threeDefaults).1 := by
  have huninstalled := handleUninstallBundle_uninstalled goneServices (uninstallAnswers true) 100 ['b'] 0
    threeDefaults (uninstallAnswers_queried true)
  exact ⟨uninstallAnswers_queried true, rfl, by decide +kernel, by decide +kernel, by decide +kernel,
    huninstalled.1 rfl⟩

/-- The preset browser is the one that is removed: it stays the default, though it is not valid.
Without a preset one, the browser stays if the row is not saved. -/
theorem removed_browser_stays :
    let mgr' :=
      (handleUninstallBundle goneServices (uninstallAnswers true) 100 ['b'] 0 (browserDefault (some browserRow))).1
    let unsaved := (handleUninstallBundle goneServices (uninstallAnswers false) 100 ['b'] 0 (browserDefault none)).1
    ¬ Valid goneServices (browserDefault (some browserRow)) 100 BROWSER (elementOf ['b']) ∧
    (¬ ∀ (t : Str) (e : Element), (entries mgr'.rows 100)[t]? = some e → ¬ e.RefersTo ['b'] 0) ∧
    ¬ ∀ (t : Str) (e : Element), (entries unsaved.rows 100)[t]? = some e → ¬ e.RefersTo ['b'] 0 := by
  intro mgr' unsaved
  have hstays : (entries mgr'.rows 100)[BROWSER]? = some (elementOf ['b']) := by decide +kernel
  have hunsaved : (entries unsaved.rows 100)[BROWSER]? = some (elementOf ['b']) := by decide +kernel
  exact ⟨by decide +kernel, fun h => h BROWSER _ hstays ⟨rfl, rfl⟩, fun h => h BROWSER _ hunsaved ⟨rfl, rfl⟩⟩

end BundleFramework.DefaultApp
