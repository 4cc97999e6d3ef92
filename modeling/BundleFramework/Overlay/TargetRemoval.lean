import BundleFramework.Overlay.Enabled

/-!
# Removing the target of internal overlays

When a module without target is uninstalled, `ResetInternalOverlayModuleState` is to make its
overlays invalid, and `BuildInternalOverlayConnection` enables them again when the module comes
back.  The first loop stops at the first overlay that it finds, and the state of a module is
found by its name inside a text.  For every bundle of these modules, whatever its users and states:

    all overlays of the module become invalid, and enabled again, and no other one changes
      ↔ the module has at most one overlay, whose name followed by the underline occurs in no
        other overlay's name followed by the underline               (target_removal_iff)

The lists of overlays that a target module keeps are read by none of these functions and left
out.  Modules are stored under their names.
-/

namespace BundleFramework.Overlay

open Std

/-! ## Algorithm -/

/-- The loop returns at the first overlay of the module. -/
def resetInternalOverlayModuleState (targetModuleNames : StrMap Str) (modulePackage : Str) (info : OverlayInfo) :
    OverlayInfo :=
  match targetModuleNames.toList.find? fun moduleInfo => moduleInfo.2 = modulePackage with
  | none => info
  | some moduleInfo => setOverlayModuleState info moduleInfo.1 OVERLAY_INVALID

/-- `targetInstalled` is whether the target bundle of an external overlay is there. -/
def removeOverlayModuleInfo (modulePackage : Str) (targetInstalled : Bool) (oldInfo : OverlayBundle) : OverlayBundle :=
  match oldInfo.targetModuleNames[modulePackage]? with
  | none => oldInfo
  | some targetModuleName =>
    match oldInfo.info.overlayType with
    | .OVERLAY_INTERNAL_BUNDLE =>
      if targetModuleName = [] then
        { oldInfo with info := resetInternalOverlayModuleState oldInfo.targetModuleNames modulePackage oldInfo.info }
      else { oldInfo with info := clearOverlayModuleStates oldInfo.info modulePackage }
    | .OVERLAY_EXTERNAL_BUNDLE =>
      if targetInstalled then { oldInfo with info := clearOverlayModuleStates oldInfo.info modulePackage } else oldInfo
    | .NON_OVERLAY_TYPE => oldInfo

/-- An overlay that is invalid, or has no state, is enabled for the user. -/
def connectOverlay (ex : StringEx) (innerUserId : Int) (oldInfo : OverlayInfo) (overlayModule : Str) : OverlayInfo :=
  let state := (getOverlayModuleState ex oldInfo overlayModule innerUserId).getD OVERLAY_INVALID.toInt
  if state = OVERLAY_INVALID.toInt then setOverlayModuleStateOfUser oldInfo overlayModule OVERLAY_ENABLE innerUserId
  else oldInfo

def connectUser (ex : StringEx) (overlayModuleVec : List Str) (oldInfo : OverlayInfo) (innerUserId : Int) : OverlayInfo :=
  match getInnerBundleUserInfo oldInfo innerUserId with
  | none => oldInfo
  | some _ => overlayModuleVec.foldl (connectOverlay ex innerUserId) oldInfo

def overlayModulesOf (targetModuleNames : StrMap Str) (moduleName : Str) : List Str :=
  (targetModuleNames.toList.filter fun moduleInfo => moduleInfo.2 = moduleName).map Prod.fst

/-- `userSet` is what `GetAllUser` gives. -/
def buildInternalOverlayConnection (ex : StringEx) (moduleName : Str) (userSet : List Int) (oldInfo : OverlayBundle) :
    OverlayBundle :=
  if oldInfo.info.overlayType ≠ .OVERLAY_INTERNAL_BUNDLE then oldInfo
  else
    { oldInfo with
      info := userSet.foldl (connectUser ex (overlayModulesOf oldInfo.targetModuleNames moduleName)) oldInfo.info }

/-! ## What is asked of a removal -/

/-- The name of an overlay module of the bundle. -/
def IsOverlay (targetModuleNames : StrMap Str) (n : Str) : Prop := ∃ t, t ≠ [] ∧ targetModuleNames[n]? = some t

/-- A list of texts, each for some of these modules. -/
def EntriesOver (names : Set Str) (overlayStates : List Str) : Prop :=
  ∃ entries : List (Str × Int32), overlayStates = entries.map entryItem ∧ ∀ e ∈ entries, e.1 ∈ names

/-- Every internal-overlay bundle of these modules that has states of overlay modules only; all
its users are known. -/
structure BundleOf (targetModuleNames : StrMap Str) (info : OverlayInfo) (userSet : List Int) : Prop where
  internal : info.overlayType = .OVERLAY_INTERNAL_BUNDLE
  states : ∀ u overlayStates, info.statesOf u = some overlayStates → EntriesOver {n | IsOverlay targetModuleNames n} overlayStates
  users : ∀ u overlayStates, info.statesOf u = some overlayStates → u ∈ userSet

/-- The overlays of `t` have this state for every user of the bundle. -/
def AllRead (ex : StringEx) (targetModuleNames : StrMap Str) (t : Str) (info : OverlayInfo) (state : Int32) : Prop :=
  ∀ o, targetModuleNames[o]? = some t → ∀ u overlayStates, u ≠ NOT_EXIST_USERID → info.statesOf u = some overlayStates →
    getOverlayModuleState ex info o u = some state.toInt

/-- The overlays of other modules have the states that they had. -/
def OthersSame (ex : StringEx) (targetModuleNames : StrMap Str) (t : Str) (before after : OverlayInfo) : Prop :=
  ∀ o, IsOverlay targetModuleNames o → targetModuleNames[o]? ≠ some t → ∀ u,
    getOverlayModuleState ex after o u = getOverlayModuleState ex before o u

/-- `t` is removed, and installed again. -/
structure RemovalSound (ex : StringEx) (bundle : OverlayBundle) (t : Str) (userSet : List Int) : Prop where
  invalid : AllRead ex bundle.targetModuleNames t (removeOverlayModuleInfo t false bundle).info OVERLAY_INVALID
  others : OthersSame ex bundle.targetModuleNames t bundle.info (removeOverlayModuleInfo t false bundle).info
  enabled : AllRead ex bundle.targetModuleNames t
    (buildInternalOverlayConnection ex t userSet (removeOverlayModuleInfo t false bundle)).info OVERLAY_ENABLE
  othersAgain : OthersSame ex bundle.targetModuleNames t (removeOverlayModuleInfo t false bundle).info
    (buildInternalOverlayConnection ex t userSet (removeOverlayModuleInfo t false bundle)).info

/-- At most one overlay, whose text no search for it can confuse. -/
structure OneClearOverlay (targetModuleNames : StrMap Str) (t : Str) : Prop where
  one : ∀ a b : Str, targetModuleNames[a]? = some t → targetModuleNames[b]? = some t → a = b
  clear : ∀ a b : Str, targetModuleNames[a]? = some t → IsOverlay targetModuleNames b →
    a ++ FILE_UNDERLINE <:+: b ++ FILE_UNDERLINE → b = a

/-- A text with an underline is no number. -/
def StringExRejectsUnderline (ex : StringEx) : Prop := ∀ s : Str, '_' ∈ s → ex.strToInt s = none

/-! ## Reading a list -/

def readList (ex : StringEx) (m : Str) (overlayStates : List Str) : Option Int :=
  (overlayStates.find? (itemHas m)).bind fun item => ex.strToInt (item.drop (m.length + 1))

variable {ex : StringEx} {info : OverlayInfo} {a b : Str}

theorem getOverlayModuleState_eq_read (m : Str) {u : Int} (hu : u ≠ NOT_EXIST_USERID) :
    getOverlayModuleState ex info m u = (info.statesOf u).bind (readList ex m) := by
  cases hs : info.statesOf u with
  | none =>
    unfold OverlayInfo.statesOf at hs
    unfold getOverlayModuleState
    rw [if_neg hu, Option.map_eq_none_iff.mp hs]
    rfl
  | some overlayStates => exact getOverlayModuleState_eq ex info m hu hs

theorem find?_replaceOrAppend {α : Type} {p : α → Bool} {x : α} (hx : p x = true) (l : List α) :
    (replaceOrAppend p x l).find? p = some x := by
  unfold replaceOrAppend
  cases hr : anyOfReplace p x l with
  | none =>
    dsimp only
    have hnone : l.find? p = none := List.find?_eq_none.mpr fun y hy => by rw [anyOfReplace_none hr y hy]; decide
    rw [List.find?_append, hnone, Option.none_or, List.find?_cons_of_pos hx]
  | some r =>
    obtain ⟨l₁, y, l₂, -, hbefore, -, rfl⟩ := anyOfReplace_some hr
    have hnone : l₁.find? p = none := List.find?_eq_none.mpr fun z hz => by rw [hbefore z hz]; decide
    rw [List.find?_append, hnone, Option.none_or, List.find?_cons_of_pos hx]

/-- What was set is read. -/
theorem readList_set (hex : ex.ReadsInt32) (a : Str) (state : Int32) (overlayStates : List Str) :
    readList ex a (replaceOrAppend (itemHas a) (stateItem a state) overlayStates) = some state.toInt := by
  have hself : itemHas a (stateItem a state) = true := (itemHas_stateItem a a state).mpr List.infix_rfl
  unfold readList
  rw [find?_replaceOrAppend hself, Option.bind_some, drop_stateItem, hex]

/-- A search that ends in the text of a longer name reads no number. -/
theorem read_longer (hno : StringExRejectsUnderline ex) (hne : b ≠ a) {state : Int32}
    (hhas : itemHas b (stateItem a state) = true) : ex.strToInt ((stateItem a state).drop (b.length + 1)) = none := by
  have hinfix := (itemHas_stateItem b a state).mp hhas
  have hle := hinfix.length_le
  simp only [List.length_append] at hle
  have hlt : b.length < a.length := by
    rcases Nat.lt_or_ge b.length a.length with hlt | hge
    · exact hlt
    · have hsame : b ++ FILE_UNDERLINE = a ++ FILE_UNDERLINE := hinfix.eq_of_length (by simp; omega)
      exact absurd (List.append_cancel_right hsame) hne
  refine hno _ ?_
  unfold stateItem
  rw [List.append_assoc, List.drop_append_of_le_length (by omega)]
  simp [FILE_UNDERLINE]

variable {names : Set Str} {overlayStates : List Str}

theorem EntriesOver.set (h : EntriesOver names overlayStates) (ha : a ∈ names) (state : Int32) :
    EntriesOver names (replaceOrAppend (itemHas a) (stateItem a state) overlayStates) := by
  obtain ⟨entries, rfl, hnames⟩ := h
  refine ⟨_, replaceOrAppend_map entryItem (itemHas a) (a, state) entries, ?_⟩
  unfold replaceOrAppend
  cases hr : anyOfReplace (itemHas a ∘ entryItem) (a, state) entries with
  | none =>
    intro e he
    rcases List.mem_append.mp he with he | he
    · exact hnames e he
    · rw [List.mem_singleton.mp he]
      exact ha
  | some r =>
    obtain ⟨l₁, x, l₂, rfl, -, -, rfl⟩ := anyOfReplace_some hr
    intro e he
    rcases List.mem_append.mp he with he | he
    · exact hnames e (List.mem_append_left _ he)
    · rcases List.mem_cons.mp he with rfl | he
      · exact ha
      · exact hnames e (List.mem_append_right _ (List.mem_cons_of_mem _ he))

/-- Setting `a` is not seen by a search for another name, if the searches for `a` find `a`. -/
theorem readList_set_other (hno : StringExRejectsUnderline ex) (h : EntriesOver names overlayStates)
    (hclear : ∀ n ∈ names, a ++ FILE_UNDERLINE <:+: n ++ FILE_UNDERLINE → n = a) (hne : b ≠ a) (state : Int32) :
    readList ex b (replaceOrAppend (itemHas a) (stateItem a state) overlayStates) = readList ex b overlayStates := by
  unfold readList replaceOrAppend
  cases hr : anyOfReplace (itemHas a) (stateItem a state) overlayStates with
  | none =>
    dsimp only
    rw [List.find?_append]
    cases overlayStates.find? (itemHas b) with
    | some item => rfl
    | none =>
      rw [Option.none_or]
      by_cases hhas : itemHas b (stateItem a state) = true
      · rw [List.find?_cons_of_pos hhas, Option.bind_some, read_longer hno hne hhas]
        rfl
      · rw [List.find?_cons_of_neg hhas]
        rfl
  | some r =>
    obtain ⟨l₁, x, l₂, hl, -, hx, rfl⟩ := anyOfReplace_some hr
    -- what is overwritten is a text of `a`
    obtain ⟨entries, hentries, hnames⟩ := h
    have hmem : x ∈ entries.map entryItem := by
      rw [← hentries, hl]
      exact List.mem_append_right _ List.mem_cons_self
    obtain ⟨e, he, rfl⟩ := List.mem_map.mp hmem
    have hname : e.1 = a := hclear e.1 (hnames e he) ((itemHas_stateItem a e.1 e.2).mp hx)
    rw [hl]
    dsimp only
    rw [List.find?_append, List.find?_append]
    cases l₁.find? (itemHas b) with
    | some item => rw [Option.some_or, Option.some_or]
    | none =>
      rw [Option.none_or, Option.none_or]
      unfold entryItem
      rw [hname]
      by_cases hhas : itemHas b (stateItem a state) = true
      · have hhas' : itemHas b (stateItem a e.2) = true := by
          rw [itemHas_stateItem] at hhas ⊢
          exact hhas
        rw [List.find?_cons_of_pos hhas, List.find?_cons_of_pos hhas', Option.bind_some, Option.bind_some,
          read_longer hno hne hhas, read_longer hno hne hhas']
      · have hhas' : ¬ itemHas b (stateItem a e.2) = true := by
          rw [itemHas_stateItem] at hhas ⊢
          exact hhas
        rw [List.find?_cons_of_neg hhas, List.find?_cons_of_neg hhas']

/-! ## The record -/

theorem statesOf_set (hover : info.overlayType ≠ .NON_OVERLAY_TYPE) (a : Str) (state : Int32) (u : Int) :
    (setOverlayModuleState info a state).statesOf u =
      (info.statesOf u).map (replaceOrAppend (itemHas a) (stateItem a state)) := by
  unfold setOverlayModuleState
  rw [if_neg hover, statesOf_forUsers]

theorem statesOf_setOfUser (hover : info.overlayType ≠ .NON_OVERLAY_TYPE) (a : Str) (state : Int32) (v u : Int) :
    (setOverlayModuleStateOfUser info a state v).statesOf u =
      if u = v then (info.statesOf u).map (replaceOrAppend (itemHas a) (stateItem a state)) else info.statesOf u := by
  unfold setOverlayModuleStateOfUser
  rw [if_neg hover, statesOf_forUsers]
  by_cases hu : u = v
  · rw [if_pos hu]
    congr 1
    funext overlayStates
    rw [if_neg (not_not.mpr hu)]
  · rw [if_neg hu]
    cases info.statesOf u with
    | none => rfl
    | some overlayStates => exact congrArg some (if_pos hu)

theorem internal_ne (h : info.overlayType = .OVERLAY_INTERNAL_BUNDLE) : info.overlayType ≠ .NON_OVERLAY_TYPE := by
  rw [h]
  decide

variable {targets : StrMap Str} {t : Str}

theorem mem_overlayModulesOf {n : Str} : n ∈ overlayModulesOf targets t ↔ targets[n]? = some t := by
  unfold overlayModulesOf
  rw [List.mem_map]
  constructor
  · rintro ⟨e, he, rfl⟩
    obtain ⟨hmem, htarget⟩ := List.mem_filter.mp he
    rw [← of_decide_eq_true htarget]
    exact ExtTreeMap.mem_toList_iff_getElem?_eq_some.mp hmem
  · intro h
    exact ⟨(n, t), List.mem_filter.mpr ⟨ExtTreeMap.mem_toList_iff_getElem?_eq_some.mpr h, decide_eq_true rfl⟩, rfl⟩

theorem overlayModulesOf_nodup : (overlayModulesOf targets t).Nodup := by
  have hdistinct := (MapLoop.toList_distinct targets).filter fun moduleInfo => decide (moduleInfo.2 = t)
  exact List.pairwise_map.mpr hdistinct

/-- The reset of the module's first overlay. -/
theorem removeOverlayModuleInfo_eq (hinternal : info.overlayType = .OVERLAY_INTERNAL_BUNDLE) (ht : targets[t]? = some []) :
    removeOverlayModuleInfo t false ⟨info, targets⟩ =
      ⟨match (overlayModulesOf targets t).head? with
        | none => info
        | some a => setOverlayModuleState info a OVERLAY_INVALID, targets⟩ := by
  unfold removeOverlayModuleInfo resetInternalOverlayModuleState overlayModulesOf
  dsimp only
  rw [ht, hinternal]
  dsimp only
  rw [if_pos rfl, List.head?_map, List.head?_filter]
  cases targets.toList.find? fun moduleInfo => moduleInfo.2 = t with
  | none => rfl
  | some moduleInfo => rfl

/-! ## One overlay, found by its name only -/

/-- A name that is found only where it stands. -/
structure ClearIn (names : Set Str) (a : Str) : Prop where
  mem : a ∈ names
  clear : ∀ n ∈ names, a ++ FILE_UNDERLINE <:+: n ++ FILE_UNDERLINE → n = a

/-- Calls for `a` leave the users and what is read of other names. -/
structure Kept (ex : StringEx) (names : Set Str) (a : Str) (before after : OverlayInfo) : Prop where
  internal : after.overlayType = .OVERLAY_INTERNAL_BUNDLE
  entries : ∀ u overlayStates, after.statesOf u = some overlayStates → EntriesOver names overlayStates
  users : ∀ u, (after.statesOf u).isSome = (before.statesOf u).isSome
  others : ∀ b, b ≠ a → ∀ u, (after.statesOf u).bind (readList ex b) = (before.statesOf u).bind (readList ex b)

variable {before after : OverlayInfo}

theorem Kept.refl (hinternal : info.overlayType = .OVERLAY_INTERNAL_BUNDLE)
    (hentries : ∀ u overlayStates, info.statesOf u = some overlayStates → EntriesOver names overlayStates) :
    Kept ex names a info info :=
  ⟨hinternal, hentries, fun _ => rfl, fun _ _ _ => rfl⟩

/-- A loop over users that sets `a` for some of them. -/
theorem Kept.setWhere (hno : StringExRejectsUnderline ex) (ha : ClearIn names a) (h : Kept ex names a before info)
    (state : Int32) {info' : OverlayInfo} (hinternal : info'.overlayType = .OVERLAY_INTERNAL_BUNDLE)
    (hstates : ∀ u, info'.statesOf u = info.statesOf u ∨
      info'.statesOf u = (info.statesOf u).map (replaceOrAppend (itemHas a) (stateItem a state))) :
    Kept ex names a before info' := by
  refine ⟨hinternal, ?_, ?_, ?_⟩
  · intro u overlayStates hs
    rcases hstates u with hsame | hset
    · exact h.entries u overlayStates (hsame ▸ hs)
    · rw [hset, Option.map_eq_some_iff] at hs
      obtain ⟨old, hold, rfl⟩ := hs
      exact (h.entries u old hold).set ha.mem state
  · intro u
    rw [← h.users]
    rcases hstates u with hsame | hset
    · rw [hsame]
    · rw [hset, Option.isSome_map]
  · intro b hne u
    rw [← h.others b hne u]
    rcases hstates u with hsame | hset
    · rw [hsame]
    · rw [hset]
      cases hold : info.statesOf u with
      | none => rfl
      | some old => exact readList_set_other hno (h.entries u old hold) ha.clear hne state

theorem Kept.set (hno : StringExRejectsUnderline ex) (ha : ClearIn names a) (h : Kept ex names a before info)
    (state : Int32) : Kept ex names a before (setOverlayModuleState info a state) := by
  have hover := internal_ne h.internal
  refine h.setWhere hno ha state ?_ fun u => .inr (statesOf_set hover a state u)
  unfold setOverlayModuleState
  rw [if_neg hover]
  exact h.internal

theorem Kept.setOfUser (hno : StringExRejectsUnderline ex) (ha : ClearIn names a) (h : Kept ex names a before info)
    (state : Int32) (v : Int) : Kept ex names a before (setOverlayModuleStateOfUser info a state v) := by
  have hover := internal_ne h.internal
  refine h.setWhere hno ha state ?_ fun u => ?_
  · unfold setOverlayModuleStateOfUser
    rw [if_neg hover]
    exact h.internal
  · rw [statesOf_setOfUser hover]
    split
    · exact .inr rfl
    · exact .inl rfl

/-- Of the users, those done read enabled, and the others may still read invalid. -/
def Pending (ex : StringEx) (a : Str) (info : OverlayInfo) (done : List Int) : Prop :=
  ∀ u overlayStates, u ≠ NOT_EXIST_USERID → info.statesOf u = some overlayStates →
    readList ex a overlayStates = some OVERLAY_ENABLE.toInt ∨
      u ∉ done ∧ readList ex a overlayStates = some OVERLAY_INVALID.toInt

theorem enable_ne_invalid : ¬ OVERLAY_ENABLE.toInt = OVERLAY_INVALID.toInt := by decide

/-- The user is connected, or is none of the bundle. -/
theorem connectOverlay_step (hex : ex.ReadsInt32) (hno : StringExRejectsUnderline ex) (ha : ClearIn names a)
    (h : Kept ex names a before info) {done : List Int} (hp : Pending ex a info done) (v : Int) :
    Kept ex names a before (connectOverlay ex v info a) ∧ Pending ex a (connectOverlay ex v info a) (v :: done) := by
  have hover := internal_ne h.internal
  unfold connectOverlay
  dsimp only
  split
  · refine ⟨h.setOfUser hno ha OVERLAY_ENABLE v, ?_⟩
    intro u overlayStates hu hs
    rw [statesOf_setOfUser hover] at hs
    split at hs
    · obtain ⟨old, -, rfl⟩ := Option.map_eq_some_iff.mp hs
      exact .inl (readList_set hex a OVERLAY_ENABLE old)
    · next hne =>
      rcases hp u overlayStates hu hs with henable | ⟨hnot, hinvalid⟩
      · exact .inl henable
      · exact .inr ⟨List.not_mem_cons_of_ne_of_not_mem hne hnot, hinvalid⟩
  · next hstate =>
    refine ⟨h, ?_⟩
    intro u overlayStates hu hs
    rcases hp u overlayStates hu hs with henable | ⟨hnot, hinvalid⟩
    · exact .inl henable
    · refine .inr ⟨List.not_mem_cons_of_ne_of_not_mem ?_ hnot, hinvalid⟩
      rintro rfl
      rw [getOverlayModuleState_eq_read a hu, hs, Option.bind_some, hinvalid] at hstate
      exact hstate rfl

theorem statesOf_none_of_get {v : Int} (hv : getInnerBundleUserInfo info v = none) : info.statesOf v = none := by
  unfold getInnerBundleUserInfo at hv
  unfold OverlayInfo.statesOf
  rw [Option.map_eq_none_iff]
  split at hv
  · cases hv
  split at hv
  · -- the mark for all users is refused by an empty record only
    rw [Option.bind_eq_none_iff] at hv
    cases hmin : info.innerBundleUserInfos.minKey? with
    | none =>
      rw [ExtTreeMap.minKey?_eq_none_iff] at hmin
      rw [hmin, ExtTreeMap.getElem?_empty]
    | some key =>
      have hmem := ExtTreeMap.minKey?_mem hmin
      exact absurd (hv key hmin) (by rw [ExtTreeMap.getElem?_eq_some_getElem hmem]; simp)
  · exact hv

theorem connectUser_step (hex : ex.ReadsInt32) (hno : StringExRejectsUnderline ex) (ha : ClearIn names a)
    (h : Kept ex names a before info) {done : List Int} (hp : Pending ex a info done) (v : Int) :
    Kept ex names a before (connectUser ex [a] info v) ∧ Pending ex a (connectUser ex [a] info v) (v :: done) := by
  unfold connectUser
  cases hv : getInnerBundleUserInfo info v with
  | none =>
    refine ⟨h, ?_⟩
    intro u overlayStates hu hs
    rcases hp u overlayStates hu hs with henable | ⟨hnot, hinvalid⟩
    · exact .inl henable
    · refine .inr ⟨List.not_mem_cons_of_ne_of_not_mem ?_ hnot, hinvalid⟩
      rintro rfl
      rw [statesOf_none_of_get hv] at hs
      cases hs
  | some user => exact connectOverlay_step hex hno ha h hp v

theorem foldl_connectUser (hex : ex.ReadsInt32) (hno : StringExRejectsUnderline ex) (ha : ClearIn names a)
    (userSet : List Int) (h : Kept ex names a before info) {done : List Int} (hp : Pending ex a info done) :
    Kept ex names a before (userSet.foldl (connectUser ex [a]) info) ∧
    Pending ex a (userSet.foldl (connectUser ex [a]) info) (userSet.reverse ++ done) := by
  induction userSet generalizing info done with
  | nil => exact ⟨h, hp⟩
  | cons v userSet ih =>
    obtain ⟨hkept, hpending⟩ := connectUser_step hex hno ha h hp v
    rw [List.foldl_cons, List.reverse_cons, List.append_assoc]
    exact ih hkept hpending

/-! ## The removal -/

theorem Kept.othersSame (h : Kept ex names a before after)
    (hone : ∀ o, IsOverlay targets o → targets[o]? ≠ some t → o ≠ a) : OthersSame ex targets t before after := by
  intro o ho hother u
  by_cases hu : u = NOT_EXIST_USERID
  · unfold getOverlayModuleState
    rw [if_pos hu, if_pos hu]
  · rw [getOverlayModuleState_eq_read o hu, getOverlayModuleState_eq_read o hu, h.others o (hone o ho hother) u]

theorem OthersSame.refl (info : OverlayInfo) : OthersSame ex targets t info info := fun _ _ _ _ => rfl

theorem buildInternalOverlayConnection_info (hinternal : info.overlayType = .OVERLAY_INTERNAL_BUNDLE) (userSet : List Int) :
    (buildInternalOverlayConnection ex t userSet ⟨info, targets⟩).info =
      userSet.foldl (connectUser ex (overlayModulesOf targets t)) info := by
  unfold buildInternalOverlayConnection
  rw [if_neg (not_not.mpr hinternal)]

theorem foldl_connectUser_nil (userSet : List Int) : userSet.foldl (connectUser ex []) info = info := by
  have hstep : ∀ x v, connectUser ex [] x v = x := by
    intro x v
    unfold connectUser
    split
    · rfl
    · rfl
  induction userSet with
  | nil => rfl
  | cons v userSet ih => rw [List.foldl_cons, hstep, ih]

/-- Without an overlay nothing is set. -/
theorem removalSound_of_none (ht : targets[t]? = some []) (hlist : overlayModulesOf targets t = []) {userSet : List Int}
    (hb : BundleOf targets info userSet) : RemovalSound ex ⟨info, targets⟩ t userSet := by
  have hnone : ∀ o : Str, targets[o]? ≠ some t := by
    intro o ho
    have hmem := mem_overlayModulesOf.mpr ho
    rw [hlist] at hmem
    cases hmem
  have hremoved := removeOverlayModuleInfo_eq hb.internal ht
  have hagain := @buildInternalOverlayConnection_info ex info targets t hb.internal userSet
  rw [hlist] at hremoved hagain
  rw [foldl_connectUser_nil] at hagain
  have hremoved' : removeOverlayModuleInfo t false ⟨info, targets⟩ = ⟨info, targets⟩ := hremoved
  refine ⟨fun o ho => absurd ho (hnone o), ?_, fun o ho => absurd ho (hnone o), ?_⟩
  · rw [hremoved']
    exact OthersSame.refl info
  · rw [hremoved', hagain]
    exact OthersSame.refl info

/-- The one overlay becomes invalid and is connected again. -/
theorem removalSound_of_single (hex : ex.ReadsInt32) (hno : StringExRejectsUnderline ex) (ht : targets[t]? = some [])
    (hlist : overlayModulesOf targets t = [a]) (ha : ClearIn {n | IsOverlay targets n} a)
    (hone : ∀ o : Str, targets[o]? = some t → o = a) {userSet : List Int} (hb : BundleOf targets info userSet) :
    RemovalSound ex ⟨info, targets⟩ t userSet := by
  have hkept : Kept ex _ a info (setOverlayModuleState info a OVERLAY_INVALID) :=
    (Kept.refl hb.internal hb.states).set hno ha OVERLAY_INVALID
  have hinvalid : ∀ u overlayStates, (setOverlayModuleState info a OVERLAY_INVALID).statesOf u = some overlayStates →
      readList ex a overlayStates = some OVERLAY_INVALID.toInt := by
    intro u overlayStates hs
    rw [statesOf_set (internal_ne hb.internal), Option.map_eq_some_iff] at hs
    obtain ⟨old, -, rfl⟩ := hs
    exact readList_set hex a OVERLAY_INVALID old
  have hpending : Pending ex a (setOverlayModuleState info a OVERLAY_INVALID) [] := by
    intro u overlayStates _ hs
    exact .inr ⟨List.not_mem_nil, hinvalid u overlayStates hs⟩
  obtain ⟨hkeptAgain, hdone⟩ := foldl_connectUser hex hno ha userSet (Kept.refl hkept.internal hkept.entries) hpending
  have hat : targets[a]? = some t := by
    rw [← mem_overlayModulesOf, hlist]
    exact List.mem_singleton.mpr rfl
  have hother : ∀ o, IsOverlay targets o → targets[o]? ≠ some t → o ≠ a := by
    rintro o - ho rfl
    exact ho hat
  have hremoved := removeOverlayModuleInfo_eq hb.internal ht
  have hagain := @buildInternalOverlayConnection_info ex _ targets t hkept.internal userSet
  rw [hlist] at hremoved hagain
  have hremoved' : removeOverlayModuleInfo t false ⟨info, targets⟩ =
    ⟨setOverlayModuleState info a OVERLAY_INVALID, targets⟩ := hremoved
  refine ⟨?_, ?_, ?_, ?_⟩
  · rw [hremoved']
    intro o ho u overlayStates hu hs
    rw [hone o ho, getOverlayModuleState_eq_read a hu, hs]
    exact hinvalid u overlayStates hs
  · rw [hremoved']
    exact hkept.othersSame hother
  · rw [hremoved', hagain]
    intro o ho u overlayStates hu hs
    rw [hone o ho, getOverlayModuleState_eq_read a hu, hs, Option.bind_some]
    rcases hdone u overlayStates hu hs with henable | ⟨hnot, -⟩
    · exact henable
    · -- every user of the bundle is in the set
      have hsome : (info.statesOf u).isSome = true := by
        rw [← hkept.users, ← hkeptAgain.users, hs]
        rfl
      obtain ⟨old, hold⟩ := Option.isSome_iff_exists.mp hsome
      rw [List.append_nil, List.mem_reverse] at hnot
      exact absurd (hb.users u old hold) hnot
  · rw [hremoved', hagain]
    exact hkeptAgain.othersSame hother

theorem removalSound_of_one (hex : ex.ReadsInt32) (hno : StringExRejectsUnderline ex) (ht : targets[t]? = some [])
    (hname : t ≠ []) (hcond : OneClearOverlay targets t) {userSet : List Int} (hb : BundleOf targets info userSet) :
    RemovalSound ex ⟨info, targets⟩ t userSet := by
  cases hlist : overlayModulesOf targets t with
  | nil => exact removalSound_of_none ht hlist hb
  | cons a rest =>
    have hat : targets[a]? = some t := by
      rw [← mem_overlayModulesOf, hlist]
      exact List.mem_cons_self
    have hrest : rest = [] := by
      rw [List.eq_nil_iff_forall_not_mem]
      intro b hbr
      have hbt : targets[b]? = some t := by
        rw [← mem_overlayModulesOf, hlist]
        exact List.mem_cons_of_mem _ hbr
      have hnodup := @overlayModulesOf_nodup targets t
      rw [hlist, List.nodup_cons] at hnodup
      exact hnodup.1 (hcond.one a b hat hbt ▸ hbr)
    subst hrest
    have ha : ClearIn {n | IsOverlay targets n} a := ⟨⟨t, hname, hat⟩, fun n hn hin => hcond.clear a n hat hn hin⟩
    exact removalSound_of_single hex hno ht hlist ha (fun o ho => hcond.one o a ho hat) hb

/-! ## Several overlays, or a name inside another -/

/-- A bundle with one user. -/
def oneUser (overlayStates : List Str) : OverlayInfo where
  bundleName := ['b']
  overlayType := .OVERLAY_INTERNAL_BUNDLE
  innerBundleUserInfos := (∅ : StrMap OverlayUserInfo).insert (nameAndUserIdToKey ['b'] 100) ⟨100, overlayStates⟩
  keyed key user h := by
    rw [MapLoop.getElem?_insert_eq] at h
    split at h
    · next e => rw [e, ← Option.some.inj h]
    · simp at h

theorem statesOf_oneUser (u : Int) :
    (oneUser overlayStates).statesOf u = if u = 100 then some overlayStates else none := by
  unfold OverlayInfo.statesOf oneUser
  dsimp only
  rw [MapLoop.getElem?_insert_eq]
  by_cases hu : u = 100
  · rw [if_pos (by rw [hu]), if_pos hu]
    rfl
  · rw [if_neg fun hkey => hu (nameAndUserIdToKey_injective _ hkey), if_neg hu, ExtTreeMap.getElem?_empty]
    rfl

theorem oneUser_overlay : (oneUser overlayStates).overlayType ≠ .NON_OVERLAY_TYPE := internal_ne rfl

theorem bundleOf_oneUser (hb : IsOverlay targets b) (state : Int32) :
    BundleOf targets (oneUser [stateItem b state]) [100] := by
  refine ⟨rfl, ?_, ?_⟩
  · intro u overlayStates hs
    rw [statesOf_oneUser] at hs
    split at hs
    · refine ⟨[(b, state)], (Option.some.inj hs).symm, fun e he => ?_⟩
      rw [List.mem_singleton.mp he]
      exact hb
    · cases hs
  · intro u overlayStates hs
    rw [statesOf_oneUser] at hs
    split at hs
    · next hu => exact List.mem_singleton.mpr hu
    · cases hs

theorem get_oneUser (m : Str) : getOverlayModuleState ex (oneUser overlayStates) m 100 = readList ex m overlayStates := by
  rw [getOverlayModuleState_eq_read m (by decide), statesOf_oneUser, if_pos rfl, Option.bind_some]

/-- What is read of an enabled `b` after the reset of another module. -/
theorem get_after_reset (hex : ex.ReadsInt32) (hne : b ≠ a) :
    getOverlayModuleState ex (setOverlayModuleState (oneUser [stateItem b OVERLAY_ENABLE]) a OVERLAY_INVALID) b 100 =
      if itemHas a (stateItem b OVERLAY_ENABLE) then none else some OVERLAY_ENABLE.toInt := by
  rw [getOverlayModuleState_eq_read b (by decide), statesOf_set oneUser_overlay, statesOf_oneUser, if_pos rfl,
    Option.map_some, Option.bind_some]
  unfold readList replaceOrAppend anyOfReplace
  by_cases hhas : itemHas a (stateItem b OVERLAY_ENABLE) = true
  · -- the text of `b` is overwritten, and no text of `b` is left
    have hback : ¬ itemHas b (stateItem a OVERLAY_INVALID) = true := by
      intro hc
      have hle := ((itemHas_stateItem a b OVERLAY_ENABLE).mp hhas).length_le
      have hsame := ((itemHas_stateItem b a OVERLAY_INVALID).mp hc).eq_of_length_le hle
      exact hne (List.append_cancel_right hsame)
    rw [if_pos hhas, if_pos hhas]
    dsimp only
    rw [List.find?_cons_of_neg hback]
    rfl
  · have hself : itemHas b (stateItem b OVERLAY_ENABLE) = true := (itemHas_stateItem b b _).mpr List.infix_rfl
    rw [if_neg hhas, if_neg hhas]
    unfold anyOfReplace
    dsimp only [Option.map_none, List.cons_append]
    rw [List.find?_cons_of_pos hself, Option.bind_some, drop_stateItem, hex]

/-- The reset of a bundle with one user. -/
theorem remove_oneUser (ht : targets[t]? = some []) {rest : List Str} (hlist : overlayModulesOf targets t = a :: rest)
    (overlayStates : List Str) :
    removeOverlayModuleInfo t false ⟨oneUser overlayStates, targets⟩ =
      ⟨setOverlayModuleState (oneUser overlayStates) a OVERLAY_INVALID, targets⟩ := by
  rw [removeOverlayModuleInfo_eq rfl ht, hlist]
  rfl

/-- Where every removal is right, the overlay that is reset is the only one. -/
theorem first_of_sound (hex : ex.ReadsInt32) (ht : targets[t]? = some []) (hname : t ≠ [])
    (hsound : ∀ info userSet, BundleOf targets info userSet → RemovalSound ex ⟨info, targets⟩ t userSet)
    {rest : List Str} (hlist : overlayModulesOf targets t = a :: rest) {c : Str} (hc : targets[c]? = some t) : c = a := by
  by_contra hne
  have hread := (hsound _ _ (bundleOf_oneUser ⟨t, hname, hc⟩ OVERLAY_ENABLE)).invalid
  rw [remove_oneUser ht hlist] at hread
  have hstates : ∃ overlayStates, (setOverlayModuleState (oneUser [stateItem c OVERLAY_ENABLE]) a
      OVERLAY_INVALID).statesOf 100 = some overlayStates := by
    rw [statesOf_set oneUser_overlay, statesOf_oneUser, if_pos rfl]
    exact ⟨_, rfl⟩
  obtain ⟨overlayStates, hstates⟩ := hstates
  have hinvalid := hread c hc 100 overlayStates (by decide) hstates
  rw [get_after_reset hex hne] at hinvalid
  split at hinvalid
  · cases hinvalid
  · exact enable_ne_invalid (Option.some.inj hinvalid)

theorem exists_first (h : targets[a]? = some t) : ∃ first rest, overlayModulesOf targets t = first :: rest := by
  have hmem := mem_overlayModulesOf.mpr h
  cases hlist : overlayModulesOf targets t with
  | nil =>
    rw [hlist] at hmem
    cases hmem
  | cons first rest => exact ⟨first, rest, rfl⟩

/-- **The removal of a target.**  For every set of modules: whatever the users and the states are,
all overlays of `t` become invalid with its removal and enabled with its return, and no other
overlay changes, if and only if `t` has at most one overlay and no search confuses it. -/
theorem target_removal_iff (ex : StringEx) (hex : ex.ReadsInt32) (hno : StringExRejectsUnderline ex)
    (targets : StrMap Str) (t : Str) (ht : targets[t]? = some []) (hname : t ≠ []) :
    (∀ info userSet, BundleOf targets info userSet → RemovalSound ex ⟨info, targets⟩ t userSet) ↔
      OneClearOverlay targets t := by
  constructor
  · intro hsound
    constructor
    · intro a b ha hb
      obtain ⟨first, rest, hlist⟩ := exists_first ha
      rw [first_of_sound hex ht hname hsound hlist ha, first_of_sound hex ht hname hsound hlist hb]
    · intro a b ha hb hinfix
      by_contra hne
      obtain ⟨first, rest, hlist⟩ := exists_first ha
      have hfa := first_of_sound hex ht hname hsound hlist ha
      subst hfa
      have hbt : targets[b]? ≠ some t := fun hbt => hne (first_of_sound hex ht hname hsound hlist hbt)
      -- the text of `b` is overwritten by that of `a`
      have hother := (hsound _ _ (bundleOf_oneUser hb OVERLAY_ENABLE)).others b hb hbt 100
      rw [remove_oneUser ht hlist, get_after_reset hex hne, if_pos ((itemHas_stateItem a b _).mpr hinfix), get_oneUser]
        at hother
      have hself := readList_set hex b OVERLAY_ENABLE []
      rw [show replaceOrAppend (itemHas b) (stateItem b OVERLAY_ENABLE) [] = [stateItem b OVERLAY_ENABLE] from rfl,
        ← hother] at hself
      cases hself
  · intro hcond info userSet hb
    exact removalSound_of_one hex hno ht hname hcond hb

theorem decimalValue_underline {s : Str} (h : '_' ∈ s) : decimalValue s = none := by
  have hall : s.all Char.isDigit = false := List.all_eq_false.mpr ⟨'_', h, by decide⟩
  unfold decimalValue
  rw [hall]
  exact if_pos (Bool.or_true _)

theorem refStringEx_rejectsUnderline : StringExRejectsUnderline refStringEx := by
  intro s h
  unfold refStringEx
  dsimp only
  split
  · next rest =>
    rw [decimalValue_underline (List.mem_of_ne_of_mem (by decide) h)]
    rfl
  · rw [decimalValue_underline h]
    rfl

/-- `entry` with these overlays. -/
def entryWith (overlays : List Str) : StrMap Str :=
  overlays.foldl (fun targets overlay => targets.insert overlay "entry".toList)
    ((∅ : StrMap Str).insert "entry".toList [])

/-- One overlay. -/
theorem target_removal_iff_feature :
    (∀ info userSet, BundleOf (entryWith ["feature".toList]) info userSet →
      RemovalSound refStringEx ⟨info, entryWith ["feature".toList]⟩ "entry".toList userSet) ↔
    OneClearOverlay (entryWith ["feature".toList]) "entry".toList :=
  target_removal_iff refStringEx refStringEx_readsInt32 refStringEx_rejectsUnderline (entryWith ["feature".toList])
    "entry".toList (by decide +kernel) (by decide +kernel)

/-- Two enabled overlays of `entry`. -/
def twoOverlays : OverlayBundle :=
  ⟨oneUser [stateItem ['x'] OVERLAY_ENABLE, stateItem ['y'] OVERLAY_ENABLE], entryWith [['x'], ['y']]⟩

/-- **An overlay left enabled**: of two overlays of `entry` the second one keeps its state. -/
theorem second_overlay_left_enabled :
    ¬ (∀ (targets : StrMap Str) (t : Str), targets[t]? = some [] → t ≠ [] → ∀ info userSet,
      BundleOf targets info userSet → RemovalSound refStringEx ⟨info, targets⟩ t userSet) ∧
    getOverlayModuleState refStringEx (removeOverlayModuleInfo "entry".toList false twoOverlays).info ['x'] 100 = some 2 ∧
    getOverlayModuleState refStringEx (removeOverlayModuleInfo "entry".toList false twoOverlays).info ['y'] 100 = some 1 := by
  have hx : twoOverlays.targetModuleNames[(['x'] : Str)]? = some "entry".toList := by decide +kernel
  have hy : twoOverlays.targetModuleNames[(['y'] : Str)]? = some "entry".toList := by decide +kernel
  have hread : getOverlayModuleState refStringEx (removeOverlayModuleInfo "entry".toList false twoOverlays).info ['y'] 100 =
      some 1 := by decide +kernel
  refine ⟨fun h => ?_, by decide +kernel, hread⟩
  have hb : BundleOf twoOverlays.targetModuleNames twoOverlays.info [100] := by
    refine ⟨rfl, ?_, ?_⟩
    · intro u overlayStates hs
      rw [show twoOverlays.info = oneUser _ from rfl, statesOf_oneUser] at hs
      split at hs
      · refine ⟨[(['x'], OVERLAY_ENABLE), (['y'], OVERLAY_ENABLE)], (Option.some.inj hs).symm, ?_⟩
        intro e he
        rcases List.mem_cons.mp he with rfl | he
        · exact ⟨_, by decide +kernel, hx⟩
        · rw [List.mem_singleton.mp he]
          exact ⟨_, by decide +kernel, hy⟩
      · cases hs
    · intro u overlayStates hs
      rw [show twoOverlays.info = oneUser _ from rfl, statesOf_oneUser] at hs
      split at hs
      · next hu => exact List.mem_singleton.mpr hu
      · cases hs
  have hsound := h _ "entry".toList (by decide +kernel) (by decide +kernel) _ _ hb
  have hstates : (removeOverlayModuleInfo "entry".toList false twoOverlays).info.statesOf 100 =
      some [stateItem ['x'] OVERLAY_INVALID, stateItem ['y'] OVERLAY_ENABLE] := by decide +kernel
  have hinvalid := hsound.invalid ['y'] hy 100 _ (by decide) hstates
  rw [show (⟨twoOverlays.info, twoOverlays.targetModuleNames⟩ : OverlayBundle) = twoOverlays from rfl, hread] at hinvalid
  exact absurd hinvalid (by decide)

end BundleFramework.Overlay
