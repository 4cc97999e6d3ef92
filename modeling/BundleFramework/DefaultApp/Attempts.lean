import BundleFramework.DefaultApp.SetDefault

/-!
# Attempts to set a default application

The loop over the types changes the entry of each type that has an attempt that succeeds, and the
clearing those of the types whose first attempt has failed.  Which attempts succeed is said by
the store as it is at the start and by what it answers.

Reads that are not answered are not told from rows that are not there: an attempt that has not
read the row of the user makes it anew, one without names takes it for done, and a preset browser
is not known for one until the preset elements have been read.
-/

namespace BundleFramework.DefaultApp

/-! ## Preset elements

They matter for the browser only.  The user may be the one that stands for the preset elements:
then an attempt for another type may make their row anew before they have been read. -/

section
variable (services : Services) (answers : SetAnswers) (userId : Int) (types : List Str) (element : Element)
  (mgr : DefaultAppMgr)

/-- Before position `n`, the row of the preset elements has been made anew. -/
def PresetsLost (n : Nat) : Prop :=
  userId = initialUserId ∧ ∃ e ∈ types.zipIdx, e.2 < n ∧ e.1 ≠ BROWSER ∧ Valid services mgr userId e.1 element ∧
    (answers.set e.2).table.insert = true ∧ (answers.set e.2).table.query = false

instance (n : Nat) : Decidable (PresetsLost services answers userId types element mgr n) :=
  inferInstanceAs (Decidable (userId = initialUserId ∧ ∃ e ∈ types.zipIdx, e.2 < n ∧ e.1 ≠ BROWSER ∧
    Valid services mgr userId e.1 element ∧
    (answers.set e.2).table.insert = true ∧ (answers.set e.2).table.query = false))

/-- Before position `n`, the preset elements have been read for the browser, or were kept. -/
def PresetsRead (n : Nat) : Prop :=
  mgr.presetCache.isSome = true ∨ ∃ e ∈ types.zipIdx, e.2 < n ∧ e.1 = BROWSER ∧
    (answers.set e.2).preset.query = true ∧ ¬ PresetsLost services answers userId types element mgr e.2

instance (n : Nat) : Decidable (PresetsRead services answers userId types element mgr n) :=
  inferInstanceAs (Decidable (mgr.presetCache.isSome = true ∨ ∃ e ∈ types.zipIdx, e.2 < n ∧ e.1 = BROWSER ∧
    (answers.set e.2).preset.query = true ∧ ¬ PresetsLost services answers userId types element mgr e.2))

/-- The element may be the default browser as the preset one, and only so. -/
def NeedsPreset : Prop :=
  elementVerdict services userId BROWSER element true = none ∧
    elementVerdict services userId BROWSER element false ≠ none

/-- `st` is the manager before the attempt at position `n`. -/
structure PresetInv (n : Nat) (st : DefaultAppMgr) : Prop where
  known : st.isPreset BROWSER element = true ↔ mgr.isPreset BROWSER element = true ∧
    (PresetsRead services answers userId types element mgr n ∨
      ¬ PresetsLost services answers userId types element mgr n)
  cached : st.isPreset BROWSER element = true →
    (st.presetCache.isSome = true ↔ PresetsRead services answers userId types element mgr n)

variable {services answers userId types element mgr}

theorem exists_lt_succ {entry : Str × Nat} (h : entry ∈ types.zipIdx) (p : Str × Nat → Prop) :
    (∃ e ∈ types.zipIdx, e.2 < entry.2 + 1 ∧ p e) ↔ (∃ e ∈ types.zipIdx, e.2 < entry.2 ∧ p e) ∨ p entry := by
  constructor
  · rintro ⟨e, he, hlt, hp⟩
    rcases Nat.lt_succ_iff_lt_or_eq.mp hlt with hbefore | hsame
    · exact .inl ⟨e, he, hbefore, hp⟩
    · rw [List.mem_zipIdx_iff_getElem?] at h he
      rw [hsame, h, Option.some.injEq] at he
      exact .inr (Prod.ext he hsame.symm ▸ hp)
  · rintro (⟨e, he, hbefore, hp⟩ | hp)
    · exact ⟨e, he, Nat.lt_succ_of_lt hbefore, hp⟩
    · exact ⟨entry, h, Nat.lt_succ_self _, hp⟩

theorem presetsLost_succ {entry : Str × Nat} (h : entry ∈ types.zipIdx) :
    PresetsLost services answers userId types element mgr (entry.2 + 1) ↔
      PresetsLost services answers userId types element mgr entry.2 ∨ userId = initialUserId ∧ entry.1 ≠ BROWSER ∧
        Valid services mgr userId entry.1 element ∧
        (answers.set entry.2).table.insert = true ∧ (answers.set entry.2).table.query = false := by
  unfold PresetsLost
  rw [exists_lt_succ h, and_or_left]

theorem presetsRead_succ {entry : Str × Nat} (h : entry ∈ types.zipIdx) :
    PresetsRead services answers userId types element mgr (entry.2 + 1) ↔
      PresetsRead services answers userId types element mgr entry.2 ∨ entry.1 = BROWSER ∧
        (answers.set entry.2).preset.query = true ∧
        ¬ PresetsLost services answers userId types element mgr entry.2 := by
  unfold PresetsRead
  rw [exists_lt_succ h, or_assoc]

theorem presetInv_zero {st : DefaultAppMgr} (hsame : SameData mgr st)
    (hcache : st.presetCache = mgr.presetCache) : PresetInv services answers userId types element mgr 0 st where
  known := by
    rw [DefaultAppMgr.isPreset, hsame.presets]
    refine (and_iff_left (.inr ?_)).symm
    rintro ⟨-, e, -, hlt, -⟩
    exact Nat.not_lt_zero _ hlt
  cached _ := by
    rw [hcache]
    refine (or_iff_left ?_).symm
    rintro ⟨e, -, hlt, -⟩
    exact Nat.not_lt_zero _ hlt

/-- The attempt for the browser: where the element is the preset one, it is known now or has been
known before, and then the preset elements are kept. -/
theorem PresetInv.step_browser {st : DefaultAppMgr} {entry : Str × Nat}
    (inv : PresetInv services answers userId types element mgr entry.2 st) (hentry : entry ∈ types.zipIdx)
    (hbrowser : entry.1 = BROWSER) (hneeds : NeedsPreset services userId element)
    {res : Option ErrCode × DefaultAppMgr}
    (hcall : StoreSpec services (answers.set entry.2) userId entry.1 element st res) :
    PresetInv services answers userId types element mgr (entry.2 + 1) res.2 := by
  have hchecked : (isElementValid services (answers.set entry.2).preset st userId entry.1 element).2 =
      (isPresetDefaultApp (answers.set entry.2).preset st BROWSER element).2 := by
    have hserves : (verifyElementFormat element && serves services userId BROWSER element) = true := by
      by_contra hnot
      have hverdict := hneeds.1
      rw [elementVerdict, Bool.eq_false_of_not_eq_true hnot] at hverdict
      cases hverdict
    rw [isElementValid_eq, hbrowser, hserves, if_pos rfl, checkPermission_eq, if_pos rfl]
  have hseen := isPresetDefaultApp_fst (answers.set entry.2).preset st BROWSER element
  have hcache : st.isPreset BROWSER element = true →
      res.2.presetCache.isSome = (st.presetCache.isSome || (answers.set entry.2).preset.query) := by
    intro hpreset
    rw [hcall.presetCache, hchecked]
    exact isPresetDefaultApp_presetCache hpreset
  have hpresets : res.2.presets = st.presets := by
    refine hcall.presets ?_
    by_cases hret : res.1 = none
    · -- the element has been found valid, so it was known as the preset one
      left
      have hvalid := (hcall.ret.mp hret).1
      rw [isElementValid_fst, hbrowser] at hvalid
      have hknown : (isPresetDefaultApp (answers.set entry.2).preset st BROWSER element).1 = true := by
        by_contra hnot
        rw [Bool.eq_false_of_not_eq_true hnot] at hvalid
        exact hneeds.2 hvalid
      rw [hseen, Bool.and_eq_true] at hknown
      rw [hcache hknown.1, hknown.2]
    · right
      refine Std.ExtTreeMap.ext_getElem? fun t => ?_
      rw [hcall.entry, if_neg fun h => hret h.2]
  have hsame : res.2.isPreset BROWSER element = st.isPreset BROWSER element := by
    rw [DefaultAppMgr.isPreset, DefaultAppMgr.isPreset, hpresets]
  have hlost : PresetsLost services answers userId types element mgr (entry.2 + 1) ↔
      PresetsLost services answers userId types element mgr entry.2 := by
    rw [presetsLost_succ hentry]
    exact or_iff_left fun h => h.2.1 hbrowser
  refine ⟨?_, fun hpreset => ?_⟩
  · rw [hsame, inv.known, hlost, presetsRead_succ hentry]
    tauto
  · rw [hsame] at hpreset
    have hread := (inv.known.mp hpreset).2
    rw [hcache hpreset, Bool.or_eq_true, inv.cached hpreset, presetsRead_succ hentry]
    tauto

/-- An attempt for another type: it may make the row of the preset elements anew. -/
theorem PresetInv.step_other {st : DefaultAppMgr} {entry : Str × Nat}
    (inv : PresetInv services answers userId types element mgr entry.2 st) (hentry : entry ∈ types.zipIdx)
    (hother : entry.1 ≠ BROWSER) {res : Option ErrCode × DefaultAppMgr}
    (hcall : StoreSpec services (answers.set entry.2) userId entry.1 element st res) :
    PresetInv services answers userId types element mgr (entry.2 + 1) res.2 := by
  have hcache : res.2.presetCache = st.presetCache := by
    rw [hcall.presetCache, isElementValid_snd_of_ne services _ _ _ _ _ hother]
  have hread : PresetsRead services answers userId types element mgr (entry.2 + 1) ↔
      PresetsRead services answers userId types element mgr entry.2 := by
    rw [presetsRead_succ hentry]
    exact or_iff_left fun h => hother h.1
  have hret : res.1 = none ↔
      Valid services mgr userId entry.1 element ∧ (answers.set entry.2).table.insert = true := by
    rw [hcall.ret, isElementValid_fst, valid_iff, elementVerdict_of_ne hother]
  by_cases hwritten : st.presetCache.isSome = false ∧ userId = initialUserId ∧ res.1 = none ∧
      (answers.set entry.2).table.query = false
  · obtain ⟨huncached, huser, hset, hquery⟩ := hwritten
    have hgone : res.2.isPreset BROWSER element = false := by
      have hnone : res.2.presetCache = none := by rwa [hcache, ← Option.not_isSome_iff_eq_none, Bool.not_eq_true]
      rw [DefaultAppMgr.isPreset, DefaultAppMgr.presets, hnone]
      dsimp only
      rw [hcall.entry, if_pos ⟨huser.symm, hset⟩, if_neg hother.symm, hquery, if_neg Bool.false_ne_true]
    have hlost : PresetsLost services answers userId types element mgr (entry.2 + 1) := by
      rw [presetsLost_succ hentry]
      exact .inr ⟨huser, hother, (hret.mp hset).1, (hret.mp hset).2, hquery⟩
    refine ⟨?_, fun hpreset => ?_⟩
    · rw [hgone, hread]
      refine iff_of_false Bool.false_ne_true ?_
      rintro ⟨hpreset, hknown⟩
      have hreadBefore := hknown.resolve_right fun hnot => hnot hlost
      have hcached := (inv.cached (inv.known.mpr ⟨hpreset, .inl hreadBefore⟩)).mpr hreadBefore
      exact Bool.false_ne_true (huncached.symm.trans hcached)
    · exact absurd (hgone.symm.trans hpreset) Bool.false_ne_true
  · have hsame : res.2.isPreset BROWSER element = st.isPreset BROWSER element := by
      unfold DefaultAppMgr.isPreset
      cases hcached : st.presetCache.isSome with
      | true => rw [hcall.presets (.inl (by rw [hcache, hcached]))]
      | false =>
        rw [hcached] at hwritten
        rw [Option.isSome_eq_false_iff, Option.isNone_iff_eq_none] at hcached
        have hleft : (entries res.2.rows initialUserId)[BROWSER]? = (entries st.rows initialUserId)[BROWSER]? := by
          rw [hcall.entry]
          split
          · next hset =>
            rw [if_neg hother.symm, if_pos]
            by_contra hquery
            exact hwritten ⟨rfl, hset.1.symm, hset.2, Bool.eq_false_of_not_eq_true hquery⟩
          · rfl
        rw [DefaultAppMgr.presets, DefaultAppMgr.presets, hcache, hcached]
        dsimp only
        rw [hleft]
    refine ⟨?_, fun hpreset => ?_⟩
    · rw [hsame, hread, presetsLost_succ hentry]
      constructor
      · intro hpreset
        obtain ⟨hpreset', hknown⟩ := inv.known.mp hpreset
        refine ⟨hpreset', ?_⟩
        by_cases hcached : st.presetCache.isSome = true
        · exact .inl ((inv.cached hpreset).mp hcached)
        · refine hknown.imp_right fun hkept => ?_
          rintro (hlost | ⟨huser, -, hvalid, hinsert, hquery⟩)
          · exact hkept hlost
          · exact hwritten ⟨Bool.eq_false_of_not_eq_true hcached, huser, hret.mpr ⟨hvalid, hinsert⟩, hquery⟩
      · rintro ⟨hpreset, hknown⟩
        exact inv.known.mpr ⟨hpreset, hknown.imp_right fun hkept hlost => hkept (.inl hlost)⟩
    · rw [hcache, hread]
      exact inv.cached (hsame ▸ hpreset)

/-- An element is valid if it is so without being the preset one. -/
theorem elementVerdict_of_false {type : Str} (h : elementVerdict services userId type element false = none)
    (isPreset : Bool) : elementVerdict services userId type element isPreset = none := by
  cases isPreset with
  | false => exact h
  | true => exact elementVerdict_preset h

end

/-! ## Attempts -/

section
variable (services : Services) (answers : SetAnswers) (userId : Int) (types : List Str) (element : Element)
  (mgr : DefaultAppMgr)

/-- The attempt finds the element valid. -/
def FoundValid (entry : Str × Nat) : Prop :=
  Valid services mgr userId entry.1 element ∧
    (elementVerdict services userId entry.1 element false = none ∨
      PresetsRead services answers userId types element mgr (entry.2 + 1))

instance (entry : Str × Nat) : Decidable (FoundValid services answers userId types element mgr entry) :=
  inferInstanceAs (Decidable (_ ∧ (_ = _ ∨ _)))

/-- The attempt succeeds, by the store as it is at the start. -/
def Succeeds (entry : Str × Nat) : Prop :=
  if isElementEmpty element then
    (answers.set entry.2).table.query = false ∨ (answers.set entry.2).table.insert = true ∨
      (entries mgr.rows userId)[entry.1]? = none
  else FoundValid services answers userId types element mgr entry ∧ (answers.set entry.2).table.insert = true

instance (entry : Str × Nat) : Decidable (Succeeds services answers userId types element mgr entry) :=
  inferInstanceAs (Decidable (if isElementEmpty element then _ ∨ _ ∨ _ = _ else _ ∧ _))

/-- The attempt leaves the type with what is to be stored. -/
def Writes (entry : Str × Nat) : Prop :=
  Succeeds services answers userId types element mgr entry ∧ (answers.set entry.2).table.insert = true ∧
    (isElementEmpty element = true → (answers.set entry.2).table.query = true)

instance (entry : Str × Nat) : Decidable (Writes services answers userId types element mgr entry) :=
  inferInstanceAs (Decidable (_ ∧ _ = _ ∧ (_ = _ → _ = _)))

/-- The attempt makes the row of the user anew. -/
def Remakes (entry : Str × Nat) : Prop :=
  ¬ isElementEmpty element = true ∧ Succeeds services answers userId types element mgr entry ∧
    (answers.set entry.2).table.query = false

instance (entry : Str × Nat) : Decidable (Remakes services answers userId types element mgr entry) :=
  inferInstanceAs (Decidable (¬ _ = _ ∧ _ ∧ _ = _))

/-- The records of `m` have one of a failed attempt. -/
def Failed (m : List (Str × Option ErrCode)) (type : Str) : Prop := ∃ item ∈ m, item.1 = type ∧ item.2 ≠ none

instance (m : List (Str × Option ErrCode)) (type : Str) : Decidable (Failed m type) :=
  inferInstanceAs (Decidable (∃ item ∈ m, item.1 = type ∧ item.2 ≠ none))

variable {services answers userId types element mgr}

theorem succeeds_named (hnamed : ¬ isElementEmpty element = true) {entry : Str × Nat} :
    Succeeds services answers userId types element mgr entry ↔
      FoundValid services answers userId types element mgr entry ∧ (answers.set entry.2).table.insert = true := by
  rw [Succeeds, if_neg hnamed]

theorem succeeds_empty (hempty : isElementEmpty element = true) {entry : Str × Nat} :
    Succeeds services answers userId types element mgr entry ↔ (answers.set entry.2).table.query = false ∨
      (answers.set entry.2).table.insert = true ∨ (entries mgr.rows userId)[entry.1]? = none := by
  rw [Succeeds, if_pos hempty]

theorem writes_named (hnamed : ¬ isElementEmpty element = true) {entry : Str × Nat} :
    Writes services answers userId types element mgr entry ↔
      Succeeds services answers userId types element mgr entry := by
  refine ⟨fun h => h.1, fun h => ⟨h, ((succeeds_named hnamed).mp h).2, fun hempty => absurd hempty hnamed⟩⟩

theorem writes_empty (hempty : isElementEmpty element = true) {entry : Str × Nat} :
    Writes services answers userId types element mgr entry ↔
      (answers.set entry.2).table.query = true ∧ (answers.set entry.2).table.insert = true :=
  ⟨fun h => ⟨h.2.2 hempty, h.2.1⟩, fun h => ⟨(succeeds_empty hempty).mpr (.inr (.inl h.2)), h.2, fun _ => h.1⟩⟩

/-- What an attempt that writes leaves is valid, or nothing. -/
theorem target_of_writes {entry : Str × Nat} (h : Writes services answers userId types element mgr entry) :
    (target element = some element ∧ Valid services mgr userId entry.1 element) ∨ target element = none := by
  unfold target
  by_cases hempty : isElementEmpty element = true
  · exact .inr (if_pos hempty)
  · exact .inl ⟨if_neg hempty, ((succeeds_named hempty).mp h.1).1.1⟩

/-- What `IsElementValid` answers to an attempt. -/
theorem isElementValid_iff_foundValid {st : DefaultAppMgr} {entry : Str × Nat} (hentry : entry ∈ types.zipIdx)
    (inv : NeedsPreset services userId element → PresetInv services answers userId types element mgr entry.2 st) :
    (isElementValid services (answers.set entry.2).preset st userId entry.1 element).1 = none ↔
      FoundValid services answers userId types element mgr entry := by
  rw [isElementValid_fst, FoundValid, valid_iff]
  by_cases hplain : elementVerdict services userId entry.1 element false = none
  · exact iff_of_true (elementVerdict_of_false hplain _) ⟨elementVerdict_of_false hplain _, .inl hplain⟩
  rw [or_iff_right hplain]
  by_cases hbrowser : entry.1 = BROWSER
  · have hverdict : elementVerdict services userId entry.1 element true = none →
        ∀ b, elementVerdict services userId entry.1 element b = none ↔ b = true := by
      intro hpreset b
      cases b with
      | false => exact iff_of_false hplain Bool.false_ne_true
      | true => exact iff_of_true hpreset rfl
    by_cases hpreset : elementVerdict services userId entry.1 element true = none
    · rw [hverdict hpreset, hverdict hpreset, isPresetDefaultApp_fst, presetsRead_succ hentry, hbrowser,
        Bool.and_eq_true, Bool.or_eq_true]
      rw [hbrowser] at hpreset hplain
      have hknown := (inv ⟨hpreset, hplain⟩).known
      have hcached := (inv ⟨hpreset, hplain⟩).cached
      constructor
      · rintro ⟨hknows, hread⟩
        obtain ⟨hpreset, hseen⟩ := hknown.mp hknows
        rw [hcached hknows] at hread
        rcases hseen with hbefore | hkept
        · exact ⟨hpreset, .inl hbefore⟩
        · exact ⟨hpreset, hread.imp_right fun hquery => ⟨rfl, hquery, hkept⟩⟩
      · rintro ⟨hpreset, hbefore | ⟨-, hquery, hkept⟩⟩
        · have hknows := hknown.mpr ⟨hpreset, .inl hbefore⟩
          exact ⟨hknows, .inl ((hcached hknows).mpr hbefore)⟩
        · exact ⟨hknown.mpr ⟨hpreset, .inr hkept⟩, .inr hquery⟩
    · have hnever : ∀ b, elementVerdict services userId entry.1 element b ≠ none := by
        intro b
        cases b with
        | false => exact hplain
        | true => exact hpreset
      exact iff_of_false (hnever _) fun h => hnever _ h.1
  · exact iff_of_false (fun h => hplain ((elementVerdict_of_ne hbrowser _ _).trans h))
      fun h => hplain ((elementVerdict_of_ne hbrowser _ _).trans h.1)

/-! ## The loops -/

variable (services answers userId types element mgr) in
/-- `done` are the attempts the loop is through with. -/
structure LoopInv (done : List (Str × Nat)) (st : SetState) : Prop where
  other : ∀ (u : Int) (t : Str), u ≠ userId → (entries st.mgr.rows u)[t]? = (entries mgr.rows u)[t]?
  kept : (∀ e ∈ done, ¬ Remakes services answers userId types element mgr e) → ∀ t : Str,
    (entries st.mgr.rows userId)[t]? =
      if ∃ e ∈ done, e.1 = t ∧ Writes services answers userId types element mgr e then target element
      else (entries mgr.rows userId)[t]?
  -- of the old entries nothing is left
  remade : (∃ e ∈ done, Remakes services answers userId types element mgr e) → ∀ t : Str,
    (entries st.mgr.rows userId)[t]? = none ∨ (entries st.mgr.rows userId)[t]? = target element ∧
      ∃ e ∈ done, e.1 = t ∧ Writes services answers userId types element mgr e
  presets : NeedsPreset services userId element →
    PresetInv services answers userId types element mgr done.length st.mgr
  isAnySet : st.isAnySet = true ↔ ∃ e ∈ done, Succeeds services answers userId types element mgr e
  keys : ∀ t, t ∈ st.setResultMap.map (·.1) ↔ t ∈ done.map (·.1)
  -- the first answer of a type is the one that is kept
  failed : ∀ t, Failed st.setResultMap t ↔
    ∃ e, done.find? (·.1 = t) = some e ∧ ¬ Succeeds services answers userId types element mgr e
  ret : done ≠ [] → (∀ e ∈ done, ¬ Succeeds services answers userId types element mgr e) → st.ret ≠ none

theorem failed_iff {m : List (Str × Option ErrCode)} {t : Str} : Failed m t ↔ ∃ err, (t, some err) ∈ m := by
  constructor
  · rintro ⟨⟨type, ret⟩, hmem, rfl, hret⟩
    obtain ⟨err, rfl⟩ := Option.ne_none_iff_exists'.mp hret
    exact ⟨err, hmem⟩
  · rintro ⟨err, hmem⟩
    exact ⟨_, hmem, rfl, Option.some_ne_none err⟩

theorem mem_tryEmplace {m : List (Str × Option ErrCode)} {type t : Str} {ret r : Option ErrCode} :
    (t, r) ∈ tryEmplace m type ret ↔ (t, r) ∈ m ∨ type ∉ m.map (·.1) ∧ t = type ∧ r = ret := by
  unfold tryEmplace
  split
  · next h => simp [h]
  · next h => simp [h]

theorem keys_tryEmplace {m : List (Str × Option ErrCode)} {type t : Str} {ret : Option ErrCode} :
    t ∈ (tryEmplace m type ret).map (·.1) ↔ t ∈ m.map (·.1) ∨ t = type := by
  unfold tryEmplace
  split
  · next h =>
    refine ⟨.inl, fun ht => ht.elim id ?_⟩
    rintro rfl
    exact h
  · simp

theorem not_remakes_of_empty (hempty : isElementEmpty element = true) (entry : Str × Nat) :
    ¬ Remakes services answers userId types element mgr entry := fun h => h.1 hempty

theorem exists_mem_concat {done : List (Str × Nat)} {entry : Str × Nat} {p : Str × Nat → Prop} :
    (∃ e ∈ done ++ [entry], p e) ↔ (∃ e ∈ done, p e) ∨ p entry := by
  simp only [List.mem_append, List.mem_singleton, or_and_right, exists_or, exists_eq_left]

section
variable {done : List (Str × Nat)} {st : SetState} {entry : Str × Nat} {res : Option ErrCode × DefaultAppMgr}

/-- An attempt without names: where the type has been cleared there is nothing to delete. -/
theorem LoopInv.ret_empty (inv : LoopInv services answers userId types element mgr done st)
    (hempty : isElementEmpty element = true) (hcall : DeleteSpec (answers.set entry.2).table userId entry.1 st.mgr res) :
    res.1 = none ↔ Succeeds services answers userId types element mgr entry ∨
      ∃ e ∈ done, e.1 = entry.1 ∧ Writes services answers userId types element mgr e := by
  rw [hcall.ret, succeeds_empty hempty, inv.kept (fun e _ => not_remakes_of_empty hempty e)]
  by_cases hdone : ∃ e ∈ done, e.1 = entry.1 ∧ Writes services answers userId types element mgr e
  · rw [if_pos hdone, target, if_pos hempty]
    exact iff_of_true (.inr (.inr rfl)) (.inr hdone)
  · rw [if_neg hdone, or_iff_left hdone]

theorem LoopInv.kept_empty (inv : LoopInv services answers userId types element mgr done st)
    (hempty : isElementEmpty element = true) (hcall : DeleteSpec (answers.set entry.2).table userId entry.1 st.mgr res)
    (t : Str) :
    (entries res.2.rows userId)[t]? =
      if ∃ e ∈ done ++ [entry], e.1 = t ∧ Writes services answers userId types element mgr e then target element
      else (entries mgr.rows userId)[t]? := by
  rw [hcall.entry, inv.kept (fun e _ => not_remakes_of_empty hempty e), target, if_pos hempty]
  simp only [exists_mem_concat, writes_empty hempty, true_and, @eq_comm _ t]
  by_cases hentry : entry.1 = t ∧ (answers.set entry.2).table.query = true ∧ (answers.set entry.2).table.insert = true
  · rw [if_pos hentry, if_pos (.inr hentry)]
  · rw [if_neg hentry]
    simp only [or_iff_left hentry]

theorem LoopInv.ret_named (inv : LoopInv services answers userId types element mgr done st)
    (hnamed : ¬ isElementEmpty element = true) (hentry : entry ∈ types.zipIdx) (hpos : entry.2 = done.length)
    (hcall : StoreSpec services (answers.set entry.2) userId entry.1 element st.mgr res) :
    res.1 = none ↔ Succeeds services answers userId types element mgr entry := by
  rw [hcall.ret, succeeds_named hnamed, isElementValid_iff_foundValid hentry fun hneeds => hpos ▸ inv.presets hneeds]

theorem LoopInv.kept_named (inv : LoopInv services answers userId types element mgr done st)
    (hnamed : ¬ isElementEmpty element = true)
    (hret : res.1 = none ↔ Succeeds services answers userId types element mgr entry)
    (hcall : StoreSpec services (answers.set entry.2) userId entry.1 element st.mgr res)
    (hkeeps : ∀ e ∈ done ++ [entry], ¬ Remakes services answers userId types element mgr e) (t : Str) :
    (entries res.2.rows userId)[t]? =
      if ∃ e ∈ done ++ [entry], e.1 = t ∧ Writes services answers userId types element mgr e then target element
      else (entries mgr.rows userId)[t]? := by
  have hcurrent := inv.kept (fun e he => hkeeps e (List.mem_append_left _ he)) t
  rw [hcall.entry, hcurrent]
  simp only [exists_mem_concat, writes_named hnamed, true_and]
  by_cases hset : res.1 = none
  · have hsucceeds := hret.mp hset
    have hquery : (answers.set entry.2).table.query = true := by
      by_contra hnot
      exact hkeeps entry (List.mem_append_right _ (List.mem_singleton_self entry))
        ⟨hnamed, hsucceeds, Bool.eq_false_of_not_eq_true hnot⟩
    rw [if_pos hset, if_pos hquery]
    by_cases ht : t = entry.1
    · rw [if_pos ht, if_pos (.inr ⟨ht.symm, hsucceeds⟩), target, if_neg hnamed]
    · rw [if_neg ht]
      simp only [or_iff_left fun h : entry.1 = t ∧ _ => ht h.1.symm]
  · rw [if_neg hset]
    simp only [or_iff_left fun h : entry.1 = t ∧ _ => hset (hret.mpr h.2)]

theorem LoopInv.remade_named (inv : LoopInv services answers userId types element mgr done st)
    (hnamed : ¬ isElementEmpty element = true)
    (hret : res.1 = none ↔ Succeeds services answers userId types element mgr entry)
    (hcall : StoreSpec services (answers.set entry.2) userId entry.1 element st.mgr res)
    (hremakes : ∃ e ∈ done ++ [entry], Remakes services answers userId types element mgr e) (t : Str) :
    (entries res.2.rows userId)[t]? = none ∨ (entries res.2.rows userId)[t]? = target element ∧
      ∃ e ∈ done ++ [entry], e.1 = t ∧ Writes services answers userId types element mgr e := by
  rw [exists_mem_concat] at hremakes ⊢
  have hbefore : ¬ Remakes services answers userId types element mgr entry →
      (entries st.mgr.rows userId)[t]? = none ∨ (entries st.mgr.rows userId)[t]? = target element ∧
        ((∃ e ∈ done, e.1 = t ∧ Writes services answers userId types element mgr e) ∨
          entry.1 = t ∧ Writes services answers userId types element mgr entry) := by
    intro hnot
    exact (inv.remade (hremakes.resolve_right hnot) t).imp_right (And.imp_right .inl)
  rw [hcall.entry]
  by_cases hset : res.1 = none
  · have hsucceeds := hret.mp hset
    rw [if_pos ⟨rfl, hset⟩]
    by_cases ht : t = entry.1
    · rw [if_pos ht, target, if_neg hnamed]
      exact .inr ⟨rfl, .inr ⟨ht.symm, (writes_named hnamed).mpr hsucceeds⟩⟩
    · rw [if_neg ht]
      by_cases hquery : (answers.set entry.2).table.query = true
      · rw [if_pos hquery]
        exact hbefore fun h => Bool.false_ne_true (h.2.2.symm.trans hquery)
      · exact .inl (if_neg hquery)
  · rw [if_neg fun h => hset h.2]
    exact hbefore fun h => hset (hret.mpr h.2.1)

/-- One turn of the loop, given what the attempt does. -/
theorem LoopInv.step_of (inv : LoopInv services answers userId types element mgr done st)
    (hset : Succeeds services answers userId types element mgr entry → res.1 = none)
    (hret : res.1 = none → Succeeds services answers userId types element mgr entry ∨
      ∃ e ∈ done, e.1 = entry.1 ∧ Succeeds services answers userId types element mgr e)
    (hother : ∀ (u : Int) (t : Str), u ≠ userId → (entries res.2.rows u)[t]? = (entries mgr.rows u)[t]?)
    (hkept : (∀ e ∈ done ++ [entry], ¬ Remakes services answers userId types element mgr e) → ∀ t : Str,
      (entries res.2.rows userId)[t]? =
        if ∃ e ∈ done ++ [entry], e.1 = t ∧ Writes services answers userId types element mgr e then target element
        else (entries mgr.rows userId)[t]?)
    (hremade : (∃ e ∈ done ++ [entry], Remakes services answers userId types element mgr e) → ∀ t : Str,
      (entries res.2.rows userId)[t]? = none ∨ (entries res.2.rows userId)[t]? = target element ∧
        ∃ e ∈ done ++ [entry], e.1 = t ∧ Writes services answers userId types element mgr e)
    (hpresets : NeedsPreset services userId element →
      PresetInv services answers userId types element mgr (done ++ [entry]).length res.2) :
    LoopInv services answers userId types element mgr (done ++ [entry])
      { mgr := res.2, ret := res.1, isAnySet := st.isAnySet || res.1.isNone,
        setResultMap := tryEmplace st.setResultMap entry.1 res.1 } := by
  refine ⟨hother, hkept, hremade, hpresets, ?_, fun t => ?_, fun t => ?_, fun _ hall => ?_⟩
  · rw [Bool.or_eq_true, inv.isAnySet, Option.isNone_iff_eq_none, exists_mem_concat]
    constructor
    · rintro (hdone | hnone)
      · exact .inl hdone
      · rcases hret hnone with hentry | ⟨e, he, -, hsucceeds⟩
        · exact .inr hentry
        · exact .inl ⟨e, he, hsucceeds⟩
    · exact Or.imp_right hset
  · rw [keys_tryEmplace, inv.keys, List.map_append, List.mem_append]
    exact or_congr_right List.mem_singleton.symm
  · rw [failed_iff]
    simp only [mem_tryEmplace, exists_or, ← failed_iff, inv.failed, List.find?_append, inv.keys]
    cases hfound : done.find? (·.1 = t) with
    | some e =>
      have hmem : t ∈ done.map (·.1) :=
        List.mem_map.mpr ⟨e, List.mem_of_find?_eq_some hfound, by simpa using List.find?_some hfound⟩
      simp only [Option.some_or]
      refine or_iff_left ?_
      rintro ⟨err, hfresh, rfl, -⟩
      exact hfresh hmem
    | none =>
      have hfresh : t ∉ done.map (·.1) := by
        rw [List.find?_eq_none] at hfound
        intro hmem
        obtain ⟨e, he, rfl⟩ := List.mem_map.mp hmem
        exact hfound e he (by simp)
      simp only [Option.none_or, reduceCtorEq, false_and, exists_false, false_or]
      by_cases ht : t = entry.1
      · subst ht
        have hnone : res.1 = none ↔ Succeeds services answers userId types element mgr entry := by
          refine ⟨fun h => (hret h).resolve_right ?_, hset⟩
          rintro ⟨e, he, hkey, -⟩
          exact hfresh (List.mem_map.mpr ⟨e, he, hkey⟩)
        simp only [List.find?_cons, decide_true, Option.some.injEq, exists_eq_left', ← hnone]
        cases res.1 with
        | none => simp
        | some err => simp [hfresh]
      · have hother : ([entry].find? fun e => e.1 = t) = none := by simp [Ne.symm ht]
        rw [hother]
        simp [ht]
  · intro hnone
    rcases hret hnone with hentry | ⟨e, he, -, hsucceeds⟩
    · exact hall entry (List.mem_append_right _ (List.mem_singleton_self entry)) hentry
    · exact hall e (List.mem_append_left _ he) hsucceeds

end

/-- One turn of the loop. -/
theorem LoopInv.step {done : List (Str × Nat)} {st : SetState}
    (inv : LoopInv services answers userId types element mgr done st) {entry : Str × Nat}
    (hentry : entry ∈ types.zipIdx) (hpos : entry.2 = done.length) :
    LoopInv services answers userId types element mgr (done ++ [entry])
      (setStep services answers userId element st entry) := by
  by_cases hempty : isElementEmpty element = true
  · have hcall := setDefaultApplicationInternal_empty services (answers.set entry.2) userId entry.1 hempty st.mgr
    have hret := inv.ret_empty hempty hcall
    refine inv.step_of (fun h => hret.mpr (.inl h)) (fun h => (hret.mp h).imp_right ?_) (fun u t hu => ?_)
      (fun _ => inv.kept_empty hempty hcall) (fun ⟨e, _, hremakes⟩ => absurd hremakes (not_remakes_of_empty hempty e))
      fun hneeds => absurd hneeds.1 (elementVerdict_of_empty hempty true)
    · rintro ⟨e, he, hkey, hwrites⟩
      exact ⟨e, he, hkey, hwrites.1⟩
    · rw [hcall.entry, if_neg fun h => hu h.1.1, inv.other u t hu]
  · have hcall := setDefaultApplicationInternal_named services (answers.set entry.2) userId entry.1 hempty st.mgr
    have hret := inv.ret_named hempty hentry hpos hcall
    refine inv.step_of hret.mpr (fun h => .inl (hret.mp h)) (fun u t hu => ?_) (inv.kept_named hempty hret hcall)
      (inv.remade_named hempty hret hcall) fun hneeds => ?_
    · rw [hcall.entry, if_neg fun h => hu h.1, inv.other u t hu]
    · have hbefore := hpos ▸ inv.presets hneeds
      rw [List.length_append, List.length_singleton, ← hpos]
      by_cases hbrowser : entry.1 = BROWSER
      · exact hbefore.step_browser hentry hbrowser hneeds hcall
      · exact hbefore.step_other hentry hbrowser hcall

/-- The loop. -/
theorem loopInv_foldl (rest : List (Str × Nat)) : ∀ {done : List (Str × Nat)} {st : SetState},
    done ++ rest = types.zipIdx → LoopInv services answers userId types element mgr done st →
      LoopInv services answers userId types element mgr types.zipIdx
        (rest.foldl (setStep services answers userId element) st) := by
  induction rest with
  | nil =>
    intro done st hall inv
    rw [List.append_nil] at hall
    rwa [← hall]
  | cons entry rest ih =>
    intro done st hall inv
    have hat : types.zipIdx[done.length]? = some entry := by simp [← hall]
    have hentry : entry ∈ types.zipIdx := List.mem_of_getElem? hat
    have hpos : entry.2 = done.length := by
      rw [List.getElem?_zipIdx, Option.map_eq_some_iff] at hat
      obtain ⟨type, -, rfl⟩ := hat
      exact Nat.zero_add _
    exact ih ((List.append_cons done entry rest).symm.trans hall) (inv.step hentry hpos)

variable (services answers userId types element) in
/-- Before the loop, the rows have been read. -/
theorem loopInv_nil {rows : Rows} (hentries : entries rows = entries mgr.rows) :
    LoopInv services answers userId types element mgr [] { mgr := { mgr with rows } } where
  other u t _ := congrArg (fun m : Int → Infos => (m u)[t]?) hentries
  kept _ t := by
    rw [if_neg]
    · exact congrArg (fun m : Int → Infos => (m userId)[t]?) hentries
    · rintro ⟨e, he, -⟩
      cases he
  remade := by
    rintro ⟨e, he, -⟩
    cases he
  presets _ := presetInv_zero (.rows hentries) rfl
  isAnySet := by simp
  keys t := Iff.rfl
  failed t := by simp [Failed]
  ret h := absurd rfl h

/-- The entry of the type is cleared by the call that is to clear it. -/
def Clears (answers : SetAnswers) (type : Str) : Prop :=
  (answers.clear type).table.query = true ∧ (answers.clear type).table.insert = true

instance (answers : SetAnswers) (type : Str) : Decidable (Clears answers type) :=
  inferInstanceAs (Decidable (_ = _ ∧ _ = _))

theorem clearStep_entry (item : Str × Option ErrCode) (u : Int) (t : Str) :
    (entries (clearStep services answers userId mgr item).rows u)[t]? =
      if u = userId ∧ (item.1 = t ∧ item.2 ≠ none) ∧ Clears answers t then none
      else (entries mgr.rows u)[t]? := by
  unfold clearStep
  split
  · next hfailed =>
    have hcall := setDefaultApplicationInternal_empty services (answers.clear item.1) userId item.1
      (show isElementEmpty {} = true from rfl) mgr
    rw [hcall.entry]
    congr 1
    refine propext ⟨?_, ?_⟩
    · rintro ⟨⟨rfl, rfl⟩, hclears⟩
      exact ⟨rfl, ⟨rfl, hfailed⟩, hclears⟩
    · rintro ⟨rfl, ⟨rfl, -⟩, hclears⟩
      exact ⟨⟨rfl, rfl⟩, hclears⟩
  · next hset => rw [if_neg fun h => hset h.2.1.2]

/-- The clearing. -/
theorem clearStep_foldl (items : List (Str × Option ErrCode)) (u : Int) (t : Str) :
    ∀ mgr : DefaultAppMgr, (entries (items.foldl (clearStep services answers userId) mgr).rows u)[t]? =
      if u = userId ∧ Failed items t ∧ Clears answers t then none
      else (entries mgr.rows u)[t]? := by
  induction items with
  | nil =>
    intro mgr
    rw [if_neg]
    · rfl
    · rintro ⟨-, ⟨item, hmem, -⟩, -⟩
      cases hmem
  | cons item items ih =>
    intro mgr
    have hfailed : Failed (item :: items) t ↔ (item.1 = t ∧ item.2 ≠ none) ∨ Failed items t := by
      unfold Failed
      rw [List.exists_mem_cons_iff]
    rw [List.foldl_cons, ih, clearStep_entry]
    simp only [hfailed]
    split
    · next h => rw [if_pos ⟨h.1, .inr h.2.1, h.2.2⟩]
    · next hrest =>
      congr 1
      refine propext ⟨fun h => ⟨h.1, .inl h.2.1, h.2.2⟩, fun h => ⟨h.1, h.2.1.resolve_right fun hitems => ?_, h.2.2⟩⟩
      exact hrest ⟨h.1, hitems, h.2.2⟩

variable (userId) in
theorem getDefaultInfo_entries (reads : Nat → RdbAnswers) (types : List Str) (rows : Rows) :
    entries (getDefaultInfo reads userId types rows).2 = entries rows := by
  unfold getDefaultInfo
  generalize types.zipIdx = entryList
  generalize (∅ : StrMap (Option Element)) = acc
  induction entryList generalizing acc rows with
  | nil => rfl
  | cons entry entryList ih =>
    rw [List.foldl_cons]
    exact (ih _ _).trans (getDefaultApplicationInfo_entries _ userId rows entry.1)

end

end BundleFramework.DefaultApp
