import BundleFramework.Overlay.ModuleState

/-!
# Enabling one overlay

`OverlayDataMgr::SetOverlayEnabled` writes `moduleName_state` over the first text of the
user that contains `moduleName_`; `GetModulesStateFromUserInfo` reads every text back by
splitting it at its first underline.  For every list of texts and a call that returns `ERR_OK`:

    the module reads back as set, the others as before, each text as it was written
      ↔ no name has an underline, the first name that ends in the module's name is that
        name or comes again, and no later text of the module says otherwise
                                                                  (setOverlayEnabled_reads_back_iff)
-/

namespace BundleFramework.Overlay

open Std

/-! ## Algorithm -/

inductive OverlayErrCode where
  | ERR_OK
  | ERR_APPEXECFWK_UPDATE_BUNDLE_ERROR
  | ERR_BUNDLEMANAGER_OVERLAY_QUERY_FAILED_MISSING_OVERLAY_BUNDLE
  | ERR_BUNDLEMANAGER_OVERLAY_QUERY_FAILED_BUNDLE_NOT_INSTALLED_AT_SPECIFIED_USERID
  | ERR_BUNDLEMANAGER_OVERLAY_QUERY_FAILED_NON_OVERLAY_BUNDLE
  | ERR_BUNDLEMANAGER_OVERLAY_QUERY_FAILED_MISSING_OVERLAY_MODULE
  | ERR_BUNDLEMANAGER_OVERLAY_QUERY_FAILED_NON_OVERLAY_MODULE
  deriving DecidableEq

def ALL_USERID : Int := -3
def INVALID_USERID : Int := -1

def OVERLAY_DISABLED : Int32 := 0
def OVERLAY_ENABLE : Int32 := 1
def OVERLAY_INVALID : Int32 := 2

/-- A bundle record with the `targetModuleName` of each of its modules. -/
structure OverlayBundle where
  info : OverlayInfo
  targetModuleNames : StrMap Str

def OverlayBundle.findModule (bundle : OverlayBundle) (moduleName : Str) : Bool :=
  bundle.targetModuleNames.contains moduleName

def OverlayBundle.isOverlayModule (bundle : OverlayBundle) (moduleName : Str) : Bool :=
  match bundle.targetModuleNames[moduleName]? with
  | none => true
  | some targetModuleName => targetModuleName ≠ []

/-- The mark for no user gives a default record, the mark for all users the first record. -/
def getInnerBundleUserInfo (info : OverlayInfo) (userId : Int) : Option OverlayUserInfo :=
  if userId = NOT_EXIST_USERID then some ⟨INVALID_USERID, []⟩
  else if userId = ALL_USERID then
    info.innerBundleUserInfos.minKey?.bind fun key => info.innerBundleUserInfos[key]?
  else info.innerBundleUserInfos[nameAndUserIdToKey info.bundleName userId]?

def addInnerBundleUserInfo (info : OverlayInfo) (user : OverlayUserInfo) : OverlayInfo where
  bundleName := info.bundleName
  overlayType := info.overlayType
  innerBundleUserInfos :=
    info.innerBundleUserInfos.insert (nameAndUserIdToKey info.bundleName user.userId) user
  keyed key user' h := by
    rw [MapLoop.getElem?_insert_eq] at h
    split at h
    · next e => rw [e, ← Option.some.inj h]
    · exact info.keyed key user' h

/-- What `SaveInternalOverlayModuleState` and `SaveExternalOverlayModuleState` do to the list
of a user. -/
def saveOverlayModuleState (moduleName : Str) (targetExists : Bool) (overlayStates : List Str) : List Str :=
  overlayStates.eraseP (itemHas moduleName) ++
    [stateItem moduleName (if targetExists then OVERLAY_ENABLE else OVERLAY_INVALID)]

def enabledState (isEnabled : Bool) : Int32 := if isEnabled then OVERLAY_ENABLE else OVERLAY_DISABLED

/-- The loop over the list: the first text found is overwritten, and nothing is added. -/
def setState (moduleName : Str) (isEnabled : Bool) (statesVec : List Str) : List Str :=
  (anyOfReplace (itemHas moduleName) (stateItem moduleName (enabledState isEnabled)) statesVec).getD statesVec

/-- The callback of `SetOverlayEnabled`. -/
def setEnabled (callingName bundleName moduleName : Str) (isEnabled : Bool) (userId : Int) (bundle : OverlayBundle) :
    Except OverlayErrCode OverlayBundle :=
  match getInnerBundleUserInfo bundle.info userId with
  | none => .error .ERR_BUNDLEMANAGER_OVERLAY_QUERY_FAILED_BUNDLE_NOT_INSTALLED_AT_SPECIFIED_USERID
  | some userInfo =>
    if callingName ≠ bundleName ∧ bundle.info.overlayType = .NON_OVERLAY_TYPE then
      .error .ERR_BUNDLEMANAGER_OVERLAY_QUERY_FAILED_NON_OVERLAY_BUNDLE
    else if !bundle.findModule moduleName then
      .error .ERR_BUNDLEMANAGER_OVERLAY_QUERY_FAILED_MISSING_OVERLAY_MODULE
    else if !bundle.isOverlayModule moduleName then
      .error .ERR_BUNDLEMANAGER_OVERLAY_QUERY_FAILED_NON_OVERLAY_MODULE
    else .ok { bundle with
      info := addInnerBundleUserInfo bundle.info
        { userInfo with overlayModulesState := setState moduleName isEnabled userInfo.overlayModulesState } }

/-- `saveOk` is the answer of the storage. -/
def setOverlayEnabled (saveOk : Bool) (callingName bundleName moduleName : Str) (isEnabled : Bool) (userId : Int)
    (bundleInfos : StrMap OverlayBundle) : OverlayErrCode × StrMap OverlayBundle :=
  match bundleInfos[bundleName]? with
  | none => (.ERR_BUNDLEMANAGER_OVERLAY_QUERY_FAILED_MISSING_OVERLAY_BUNDLE, bundleInfos)
  | some bundle =>
    match setEnabled callingName bundleName moduleName isEnabled userId bundle with
    | .error code => (code, bundleInfos)
    | .ok bundle' =>
      if saveOk then (.ERR_OK, bundleInfos.insert bundleName bundle')
      else (.ERR_APPEXECFWK_UPDATE_BUNDLE_ERROR, bundleInfos)

/-- One text: the name before the first underline, and the number behind it. -/
def decodeItem (ex : StringEx) (item : Str) : Option (Str × Int) :=
  match strFind item FILE_UNDERLINE with
  | none => none
  | some pos => some (item.take pos, (ex.strToInt (item.drop (pos + 1))).getD OVERLAY_INVALID.toInt)

def statesStep (ex : StringEx) (statesMap : StrMap Int) (item : Str) : StrMap Int :=
  match decodeItem ex item with
  | none => statesMap
  | some (moduleName, state) => statesMap.insert moduleName state

def getModulesStateFromUserInfo (ex : StringEx) (userInfo : OverlayUserInfo) : StrMap Int :=
  userInfo.overlayModulesState.foldl (statesStep ex) ∅

/-! ## One text -/

def entryItem (e : Str × Int32) : Str := stateItem e.1 e.2

theorem strFind_underline {n d : Str} (h : '_' ∉ n) : strFind (n ++ '_' :: d) FILE_UNDERLINE = some n.length := by
  induction n with
  | nil => simp [strFind, FILE_UNDERLINE]
  | cons c n ih =>
    have hc : c ≠ '_' := fun e => h (e ▸ List.mem_cons_self)
    have hn : '_' ∉ n := fun e => h (List.mem_cons_of_mem _ e)
    rw [List.cons_append, strFind, if_neg (by simpa [FILE_UNDERLINE] using hc.symm), ih hn]
    rfl

/-- A text is read back as it was written just when the name has no underline. -/
theorem decodeItem_iff {ex : StringEx} (hex : ex.ReadsInt32) (n : Str) (state : Int32) :
    decodeItem ex (stateItem n state) = some (n, state.toInt) ↔ '_' ∉ n := by
  constructor
  · intro h hmem
    obtain ⟨a, b, rfl, ha⟩ := List.eq_append_cons_of_mem hmem
    have hitem : stateItem (a ++ '_' :: b) state = a ++ '_' :: (b ++ FILE_UNDERLINE ++ toDecimal state.toInt) := by
      simp [stateItem]
    unfold decodeItem at h
    rw [hitem, strFind_underline ha] at h
    have hname := (Prod.mk.inj (Option.some.inj h)).1
    rw [List.take_left] at hname
    have hlen := congrArg List.length hname
    simp at hlen
  · intro h
    have hitem : stateItem n state = n ++ '_' :: toDecimal state.toInt := by simp [stateItem, FILE_UNDERLINE]
    have hdrop := drop_stateItem n state
    rw [hitem] at hdrop
    unfold decodeItem
    rw [hitem, strFind_underline h]
    dsimp only
    rw [List.take_left, hdrop, hex state]
    rfl

/-- The search for a module finds the names that end in its name. -/
theorem itemHas_iff_suffix {m n : Str} (h : '_' ∉ n) (state : Int32) :
    itemHas m (stateItem n state) = true ↔ m <:+ n := by
  rw [itemHas_stateItem]
  constructor
  · rintro ⟨s, t, e⟩
    have e' : (s ++ m) ++ '_' :: t = n ++ '_' :: [] := by simpa [FILE_UNDERLINE] using e
    rcases List.append_eq_append_iff.mp e' with ⟨a, ha, hrest⟩ | ⟨c, hc, hrest⟩
    · cases a with
      | nil => exact ⟨s, by simpa using ha.symm⟩
      | cons x a =>
        -- the underline found would stand in the name
        obtain ⟨rfl, -⟩ := List.cons.inj hrest
        exact absurd (ha ▸ List.mem_append_right _ List.mem_cons_self) h
    · cases c with
      | nil => exact ⟨s, by simpa using hc⟩
      | cons x c => simp at hrest
  · rintro ⟨s, rfl⟩
    exact ⟨s, [], by simp⟩

/-! ## The list of texts as a map -/

/-- The last state of a module in the list. -/
def lastState (m : Str) (entries : List (Str × Int32)) : Option Int32 :=
  (entries.reverse.find? fun e => e.1 = m).map (·.2)

theorem lastState_append (m : Str) (l l' : List (Str × Int32)) :
    lastState m (l ++ l') = (lastState m l').or (lastState m l) := by
  unfold lastState
  rw [List.reverse_append, List.find?_append]
  cases l'.reverse.find? fun e => e.1 = m <;> rfl

theorem lastState_cons (m : Str) (e : Str × Int32) (l : List (Str × Int32)) :
    lastState m (e :: l) = (lastState m l).or (if e.1 = m then some e.2 else none) := by
  rw [← List.singleton_append, lastState_append]
  congr 1
  unfold lastState
  by_cases he : e.1 = m
  · simp [he]
  · simp [he]

theorem lastState_eq_none_iff (m : Str) (l : List (Str × Int32)) : lastState m l = none ↔ ∀ e ∈ l, e.1 ≠ m := by
  unfold lastState
  simp

/-- Texts of names without underlines read back as the last entries they stand for. -/
theorem foldl_statesStep {ex : StringEx} (hex : ex.ReadsInt32) (entries : List (Str × Int32))
    (hnames : ∀ e ∈ entries, '_' ∉ e.1) (statesMap : StrMap Int) (m : Str) :
    ((entries.map entryItem).foldl (statesStep ex) statesMap)[m]? =
      ((lastState m entries).map Int32.toInt).or statesMap[m]? := by
  induction entries generalizing statesMap with
  | nil => rfl
  | cons e entries ih =>
    have hstep : statesStep ex statesMap (entryItem e) = statesMap.insert e.1 e.2.toInt := by
      unfold statesStep entryItem
      rw [(decodeItem_iff hex e.1 e.2).mpr (hnames e List.mem_cons_self)]
    rw [List.map_cons, List.foldl_cons, hstep, ih (fun e' he => hnames e' (List.mem_cons_of_mem _ he)),
      lastState_cons, MapLoop.getElem?_insert_eq]
    cases lastState m entries with
    | some state => rfl
    | none =>
      by_cases he : e.1 = m
      · simp [he]
      · simp [he, Ne.symm he]

theorem states_get {ex : StringEx} (hex : ex.ReadsInt32) {entries : List (Str × Int32)}
    (hnames : ∀ e ∈ entries, '_' ∉ e.1) {user : OverlayUserInfo}
    (huser : user.overlayModulesState = entries.map entryItem) (m : Str) :
    (getModulesStateFromUserInfo ex user)[m]? = (lastState m entries).map Int32.toInt := by
  unfold getModulesStateFromUserInfo
  rw [huser, foldl_statesStep hex entries hnames, ExtTreeMap.getElem?_empty, Option.or_none]

theorem map_toInt_inj {o o' : Option Int32} : o.map Int32.toInt = o'.map Int32.toInt ↔ o = o' :=
  (Option.map_injective fun _ _ h => Int32.toInt_inj.mp h).eq_iff

/-! ## The overwritten list -/

/-- The module reads back as set, the other modules as before, and each text as written. -/
structure ReadsBack (ex : StringEx) (moduleName : Str) (state : Int32) (entries : List (Str × Int32))
    (before after : OverlayUserInfo) : Prop where
  module : (getModulesStateFromUserInfo ex after)[moduleName]? = some state.toInt
  others : ∀ m : Str, m ≠ moduleName →
    (getModulesStateFromUserInfo ex after)[m]? = (getModulesStateFromUserInfo ex before)[m]?
  texts : ∀ e ∈ (moduleName, state) :: entries, decodeItem ex (entryItem e) = some (e.1, e.2.toInt)

/-- The first name that ends in the module's name is that name, or one that comes again, and no
later entry of the module has another state.  With one entry for each module: the first name
that ends in the module's name is that name. -/
def FoundFirst (moduleName : Str) (state : Int32) (entries : List (Str × Int32)) : Prop :=
  ∃ l₁ e l₂, entries = l₁ ++ e :: l₂ ∧ (∀ x ∈ l₁, ¬ moduleName <:+ x.1) ∧ moduleName <:+ e.1 ∧
    (e.1 = moduleName ∨ ∃ x ∈ l₂, x.1 = e.1) ∧ ∀ later, lastState moduleName l₂ = some later → later = state

/-- On names without underlines the search is the test of the suffix. -/
theorem setState_map {entries : List (Str × Int32)} (hnames : ∀ e ∈ entries, '_' ∉ e.1) (moduleName : Str)
    (isEnabled : Bool) :
    ((∀ e ∈ entries, ¬ moduleName <:+ e.1) ∧
      setState moduleName isEnabled (entries.map entryItem) = entries.map entryItem) ∨
    ∃ l₁ e l₂, entries = l₁ ++ e :: l₂ ∧ (∀ x ∈ l₁, ¬ moduleName <:+ x.1) ∧ moduleName <:+ e.1 ∧
      setState moduleName isEnabled (entries.map entryItem) =
        (l₁ ++ (moduleName, enabledState isEnabled) :: l₂).map entryItem := by
  have hsearch : ∀ e ∈ entries, (itemHas moduleName ∘ entryItem) e = true ↔ moduleName <:+ e.1 :=
    fun e he => itemHas_iff_suffix (hnames e he) e.2
  have hmap : anyOfReplace (itemHas moduleName) (stateItem moduleName (enabledState isEnabled))
      (entries.map entryItem) = (anyOfReplace (itemHas moduleName ∘ entryItem)
        (moduleName, enabledState isEnabled) entries).map (List.map entryItem) :=
    anyOfReplace_map entryItem (itemHas moduleName) (moduleName, enabledState isEnabled) entries
  unfold setState
  rw [hmap]
  cases hr : anyOfReplace (itemHas moduleName ∘ entryItem) (moduleName, enabledState isEnabled) entries with
  | none =>
    refine Or.inl ⟨fun e he hsuffix => ?_, rfl⟩
    have hno := anyOfReplace_none hr e he
    rw [(hsearch e he).mpr hsuffix] at hno
    cases hno
  | some r =>
    obtain ⟨l₁, e, l₂, rfl, hbefore, he, rfl⟩ := anyOfReplace_some hr
    refine Or.inr ⟨l₁, e, l₂, rfl, fun x hx hsuffix => ?_, (hsearch e (by simp)).mp he, rfl⟩
    have hno := hbefore x hx
    rw [(hsearch x (List.mem_append_left _ hx)).mpr hsuffix] at hno
    cases hno

theorem names_overwritten {l₁ l₂ : List (Str × Int32)} {e : Str × Int32} {moduleName : Str} {state : Int32}
    (hnames : ∀ e' ∈ l₁ ++ e :: l₂, '_' ∉ e'.1) (hname : '_' ∉ moduleName) :
    ∀ e' ∈ l₁ ++ (moduleName, state) :: l₂, '_' ∉ e'.1 := by
  intro e' he'
  rcases List.mem_append.mp he' with he' | he'
  · exact hnames e' (List.mem_append_left _ he')
  · rcases List.mem_cons.mp he' with rfl | he'
    · exact hname
    · exact hnames e' (List.mem_append_right _ (List.mem_cons_of_mem _ he'))

/-- The module in the overwritten list. -/
theorem lastState_overwritten_self (l₁ l₂ : List (Str × Int32)) (moduleName : Str) (state : Int32) :
    lastState moduleName (l₁ ++ (moduleName, state) :: l₂) = some state ↔
      ∀ later, lastState moduleName l₂ = some later → later = state := by
  rw [lastState_append, lastState_cons, if_pos rfl]
  cases lastState moduleName l₂ with
  | none => simp
  | some later => simp

/-- The other modules in the overwritten list: the module whose entry is gone needs a later one,
since none before it ends in the name either. -/
theorem lastState_overwritten_others {l₁ l₂ : List (Str × Int32)} {e : Str × Int32} {moduleName : Str}
    (hbefore : ∀ x ∈ l₁, ¬ moduleName <:+ x.1) (he : moduleName <:+ e.1) (state : Int32) :
    (∀ m, m ≠ moduleName → lastState m (l₁ ++ (moduleName, state) :: l₂) = lastState m (l₁ ++ e :: l₂)) ↔
      e.1 = moduleName ∨ ∃ x ∈ l₂, x.1 = e.1 := by
  have hfirst : lastState e.1 l₁ = none :=
    (lastState_eq_none_iff _ _).mpr fun x hx heq => hbefore x hx (heq ▸ he)
  simp only [lastState_append, lastState_cons]
  constructor
  · intro h
    by_cases heq : e.1 = moduleName
    · exact Or.inl heq
    · right
      have hsame := h e.1 heq
      rw [if_neg (Ne.symm heq), if_pos rfl, hfirst] at hsame
      by_contra hcon
      have hnone : lastState e.1 l₂ = none :=
        (lastState_eq_none_iff _ _).mpr fun x hx hxe => hcon ⟨x, hx, hxe⟩
      rw [hnone] at hsame
      cases hsame
  · intro h m hm
    rw [if_neg (Ne.symm hm)]
    by_cases hem : e.1 = m
    · subst hem
      obtain ⟨x, hx, hxe⟩ := h.resolve_left hm
      cases hlast : lastState e.1 l₂ with
      | none => exact absurd hxe ((lastState_eq_none_iff _ _).mp hlast x hx)
      | some later => rfl
    · rw [if_neg hem]

/-- A list is split at the first element with a property in one way. -/
theorem first_split_unique {α : Type} {p : α → Prop} {l₁ l₂ l₁' l₂' : List α} {a a' : α}
    (h : l₁ ++ a :: l₂ = l₁' ++ a' :: l₂') (hfirst : ∀ x ∈ l₁, ¬ p x) (ha : p a) (hfirst' : ∀ x ∈ l₁', ¬ p x)
    (ha' : p a') : l₁ = l₁' ∧ a = a' ∧ l₂ = l₂' := by
  induction l₁ generalizing l₁' with
  | nil =>
    cases l₁' with
    | nil =>
      obtain ⟨rfl, rfl⟩ := List.cons.inj h
      exact ⟨rfl, rfl, rfl⟩
    | cons x l =>
      obtain ⟨rfl, -⟩ := List.cons.inj h
      exact absurd ha (hfirst' _ List.mem_cons_self)
  | cons x l ih =>
    cases l₁' with
    | nil =>
      obtain ⟨rfl, -⟩ := List.cons.inj h
      exact absurd ha' (hfirst _ List.mem_cons_self)
    | cons x' l' =>
      obtain ⟨rfl, htail⟩ := List.cons.inj h
      obtain ⟨rfl, rfl, rfl⟩ := ih htail (fun y hy => hfirst y (List.mem_cons_of_mem _ hy))
        fun y hy => hfirst' y (List.mem_cons_of_mem _ hy)
      exact ⟨rfl, rfl, rfl⟩

section ReadsBack

variable {ex : StringEx} {entries : List (Str × Int32)} {moduleName : Str} {isEnabled : Bool}
  {before after : OverlayUserInfo}

/-- Where the search finds a text, and no name has an underline. -/
theorem readsBack_overwritten_iff (hex : ex.ReadsInt32) {l₁ l₂ : List (Str × Int32)} {e : Str × Int32} {state : Int32}
    (hnames : ∀ e' ∈ l₁ ++ e :: l₂, '_' ∉ e'.1) (hfirst : ∀ x ∈ l₁, ¬ moduleName <:+ x.1) (he : moduleName <:+ e.1)
    (hbefore : before.overlayModulesState = (l₁ ++ e :: l₂).map entryItem)
    (hafter : after.overlayModulesState = (l₁ ++ (moduleName, state) :: l₂).map entryItem) :
    ReadsBack ex moduleName state (l₁ ++ e :: l₂) before after ↔
      (e.1 = moduleName ∨ ∃ x ∈ l₂, x.1 = e.1) ∧ ∀ later, lastState moduleName l₂ = some later → later = state := by
  have hname : '_' ∉ moduleName := fun hmem => hnames e (by simp) (he.subset hmem)
  have hread := states_get hex hnames hbefore
  have hread' := states_get hex (names_overwritten hnames hname) hafter
  rw [← lastState_overwritten_others hfirst he state, ← lastState_overwritten_self l₁ l₂ moduleName state]
  constructor
  · intro h
    refine ⟨fun m hm => ?_, ?_⟩
    · have hother := h.others m hm
      rw [hread, hread', map_toInt_inj] at hother
      exact hother
    · have hmod := h.module
      rw [hread', ← Option.map_some, map_toInt_inj] at hmod
      exact hmod
  · rintro ⟨hothers, hmod⟩
    refine ⟨?_, fun m hm => ?_, fun e' he' => ?_⟩
    · rw [hread', hmod, Option.map_some]
    · rw [hread, hread', hothers m hm]
    · rcases List.mem_cons.mp he' with rfl | he'
      · exact (decodeItem_iff hex _ _).mpr hname
      · exact (decodeItem_iff hex _ _).mpr (hnames e' he')

/-- **The list, exactly.** -/
theorem setState_reads_back_iff (hex : ex.ReadsInt32) (hbefore : before.overlayModulesState = entries.map entryItem)
    (hafter : after.overlayModulesState = setState moduleName isEnabled (entries.map entryItem)) :
    ReadsBack ex moduleName (enabledState isEnabled) entries before after ↔
      (∀ e ∈ entries, '_' ∉ e.1) ∧ FoundFirst moduleName (enabledState isEnabled) entries := by
  constructor
  · intro h
    have hnames : ∀ e ∈ entries, '_' ∉ e.1 := fun e he =>
      (decodeItem_iff hex e.1 e.2).mp (h.texts e (List.mem_cons_of_mem _ he))
    refine ⟨hnames, ?_⟩
    rcases setState_map hnames moduleName isEnabled with ⟨hnone, hset⟩ | ⟨l₁, e, l₂, rfl, hfirst, he, hset⟩
    · -- nothing found: the module has no text, and gets none
      have hno : lastState moduleName entries = none :=
        (lastState_eq_none_iff _ _).mpr fun e he heq => hnone e he (heq ▸ List.suffix_refl _)
      have hmod := h.module
      rw [states_get hex hnames (hafter.trans hset), hno] at hmod
      cases hmod
    · exact ⟨l₁, e, l₂, rfl, hfirst, he,
        (readsBack_overwritten_iff hex hnames hfirst he hbefore (hafter.trans hset)).mp h⟩
  · rintro ⟨hnames, l₁, e, l₂, rfl, hfirst, he, hgood⟩
    rcases setState_map hnames moduleName isEnabled with ⟨hnone, -⟩ | ⟨l₁', e', l₂', hsplit, hfirst', he', hset⟩
    · exact absurd he (hnone e (by simp))
    · -- the search finds the same entry
      obtain ⟨rfl, rfl, rfl⟩ := first_split_unique (p := fun x : Str × Int32 => moduleName <:+ x.1) hsplit hfirst he hfirst' he'
      exact (readsBack_overwritten_iff hex hnames hfirst he hbefore (hafter.trans hset)).mpr hgood

end ReadsBack

/-! ## The call -/

/-- What a call that returns `ERR_OK` does. -/
theorem setOverlayEnabled_ok {saveOk : Bool} {callingName bundleName moduleName : Str} {isEnabled : Bool}
    {userId : Int} {bundleInfos bundleInfos' : StrMap OverlayBundle}
    (h : setOverlayEnabled saveOk callingName bundleName moduleName isEnabled userId bundleInfos =
      (.ERR_OK, bundleInfos')) {bundle : OverlayBundle} (hb : bundleInfos[bundleName]? = some bundle)
    {user : OverlayUserInfo} (hu : getInnerBundleUserInfo bundle.info userId = some user) :
    bundleInfos' = bundleInfos.insert bundleName { bundle with
      info := addInnerBundleUserInfo bundle.info
        { user with overlayModulesState := setState moduleName isEnabled user.overlayModulesState } } := by
  unfold setOverlayEnabled at h
  rw [hb] at h
  dsimp only at h
  unfold setEnabled at h
  rw [hu] at h
  dsimp only at h
  split at h
  · next hcode =>
    -- an error of the callback is not `ERR_OK`
    cases h
    split at hcode
    · cases hcode
    · split at hcode
      · cases hcode
      · split at hcode
        · cases hcode
        · cases hcode
  · next bundle' hcode =>
    split at hcode
    · cases hcode
    · split at hcode
      · cases hcode
      · split at hcode
        · cases hcode
        · cases hcode
          split at h
          · exact (Prod.mk.inj h).2.symm
          · cases h

/-- The user's record after the write, read the same way. -/
theorem getUser_add {info : OverlayInfo} {userId : Int} {user : OverlayUserInfo}
    (hu : getInnerBundleUserInfo info userId = some user) (states : List Str)
    (hempty : user.overlayModulesState = [] → states = []) :
    ∃ user', getInnerBundleUserInfo (addInnerBundleUserInfo info { user with overlayModulesState := states }) userId =
      some user' ∧ user'.overlayModulesState = states := by
  unfold getInnerBundleUserInfo at hu ⊢
  by_cases hnot : userId = NOT_EXIST_USERID
  · rw [if_pos hnot] at hu ⊢
    cases hu
    exact ⟨_, rfl, (hempty rfl).symm⟩
  · rw [if_neg hnot] at hu ⊢
    by_cases hall : userId = ALL_USERID
    · rw [if_pos hall] at hu ⊢
      cases hmin : info.innerBundleUserInfos.minKey? with
      | none =>
        rw [hmin] at hu
        cases hu
      | some key =>
        rw [hmin, Option.bind_some] at hu
        -- the first record is written back under its own key
        have hkey := info.keyed key user hu
        have hfirst : (addInnerBundleUserInfo info
            { user with overlayModulesState := states }).innerBundleUserInfos.minKey? = some key := by
          show (info.innerBundleUserInfos.insert (nameAndUserIdToKey info.bundleName user.userId) _).minKey? = _
          rw [ExtTreeMap.minKey?_insert, hmin, ← hkey]
          simp
        rw [hfirst, Option.bind_some]
        refine ⟨{ user with overlayModulesState := states }, ?_, rfl⟩
        show (info.innerBundleUserInfos.insert (nameAndUserIdToKey info.bundleName user.userId) _)[key]? = _
        rw [MapLoop.getElem?_insert_eq, if_pos hkey]
    · rw [if_neg hall] at hu ⊢
      have hid : userId = user.userId := nameAndUserIdToKey_injective _ (info.keyed _ user hu)
      refine ⟨{ user with overlayModulesState := states }, ?_, rfl⟩
      show (info.innerBundleUserInfos.insert (nameAndUserIdToKey info.bundleName user.userId) _)[_]? = _
      rw [MapLoop.getElem?_insert_eq, ← hid]
      exact if_pos rfl

/-- The record of a user of a bundle. -/
def userInfoOf (bundleInfos : StrMap OverlayBundle) (bundleName : Str) (userId : Int) : Option OverlayUserInfo :=
  (bundleInfos[bundleName]?).bind fun bundle => getInnerBundleUserInfo bundle.info userId

/-- **Enabling one overlay, exactly**: for every bundle and user, whatever overlay modules and
states the texts of the user stand for, and every call that returns `ERR_OK`. -/
theorem setOverlayEnabled_reads_back_iff (ex : StringEx) (hex : ex.ReadsInt32) {saveOk : Bool}
    {callingName bundleName moduleName : Str} {isEnabled : Bool} {userId : Int}
    {bundleInfos bundleInfos' : StrMap OverlayBundle} {user : OverlayUserInfo} {entries : List (Str × Int32)}
    (huser : userInfoOf bundleInfos bundleName userId = some user)
    (hstates : user.overlayModulesState = entries.map entryItem)
    (hok : setOverlayEnabled saveOk callingName bundleName moduleName isEnabled userId bundleInfos =
      (.ERR_OK, bundleInfos')) :
    (∃ user', userInfoOf bundleInfos' bundleName userId = some user' ∧
      ReadsBack ex moduleName (enabledState isEnabled) entries user user') ↔
    (∀ e ∈ entries, '_' ∉ e.1) ∧ FoundFirst moduleName (enabledState isEnabled) entries := by
  unfold userInfoOf at huser
  obtain ⟨bundle, hb, hu⟩ := Option.bind_eq_some_iff.mp huser
  obtain ⟨after, hu', hlist⟩ := getUser_add hu (setState moduleName isEnabled user.overlayModulesState)
    fun hnil => by rw [hnil]; rfl
  have hafter : userInfoOf bundleInfos' bundleName userId = some after := by
    rw [setOverlayEnabled_ok hok hb hu]
    unfold userInfoOf
    rw [MapLoop.getElem?_insert_eq, if_pos rfl, Option.bind_some]
    exact hu'
  rw [hstates] at hlist
  rw [hafter, ← setState_reads_back_iff hex hstates hlist]
  constructor
  · rintro ⟨user', heq, h⟩
    cases heq
    exact h
  · intro h
    exact ⟨_, rfl, h⟩

/-- The list after `feature` and `subfeature` are installed and `feature` is updated. -/
def savedStates : List Str :=
  saveOverlayModuleState "feature".toList true
    (saveOverlayModuleState "subfeature".toList true (saveOverlayModuleState "feature".toList true []))

/-- A bundle with the overlay modules `feature` and `subfeature` and such a list. -/
def overlayBundles (states : List Str) : StrMap OverlayBundle :=
  (∅ : StrMap OverlayBundle).insert ['b']
    { info := addInnerBundleUserInfo sampleOverlay ⟨100, states⟩
      targetModuleNames := ((∅ : StrMap Str).insert "feature".toList ['t']).insert "subfeature".toList ['t'] }

/-- `feature` is disabled where its text stands first. -/
theorem setOverlayEnabled_reads_back_iff_first :
    (∃ user',
      userInfoOf (setOverlayEnabled true ['b'] ['b'] "feature".toList false 100 (overlayBundles
        [stateItem "feature".toList 1, stateItem "subfeature".toList 1])).2 ['b'] 100 = some user' ∧
      ReadsBack refStringEx "feature".toList OVERLAY_DISABLED [("feature".toList, 1), ("subfeature".toList, 1)]
        ⟨100, [stateItem "feature".toList 1, stateItem "subfeature".toList 1]⟩ user') ↔
    (∀ e ∈ [("feature".toList, (1 : Int32)), ("subfeature".toList, 1)], '_' ∉ e.1) ∧
      FoundFirst "feature".toList OVERLAY_DISABLED [("feature".toList, 1), ("subfeature".toList, 1)] :=
  setOverlayEnabled_reads_back_iff refStringEx refStringEx_readsInt32
    (by decide +kernel) rfl (Prod.ext (by decide +kernel) rfl)

/-- **The other overlay's state is lost**: disabling `feature` overwrites the text of
`subfeature`, and the old text of `feature` behind it is read back. -/
theorem disabled_overlay_reads_enabled :
    savedStates = [stateItem "subfeature".toList 1, stateItem "feature".toList 1] ∧
    (setOverlayEnabled true ['b'] ['b'] "feature".toList false 100 (overlayBundles savedStates)).1 = .ERR_OK ∧
    ¬ ∃ user',
      userInfoOf (setOverlayEnabled true ['b'] ['b'] "feature".toList false 100
        (overlayBundles savedStates)).2 ['b'] 100 = some user' ∧
      ReadsBack refStringEx "feature".toList OVERLAY_DISABLED [("subfeature".toList, 1), ("feature".toList, 1)]
        ⟨100, savedStates⟩ user' := by
  have hafter : userInfoOf (setOverlayEnabled true ['b'] ['b'] "feature".toList false 100
      (overlayBundles savedStates)).2 ['b'] 100 =
        some ⟨100, [stateItem "feature".toList 0, stateItem "feature".toList 1]⟩ := by
    decide +kernel
  refine ⟨by decide +kernel, by decide +kernel, ?_⟩
  rintro ⟨user', heq, h⟩
  rw [hafter] at heq
  cases heq
  have hread := h.module
  rw [show (getModulesStateFromUserInfo refStringEx ⟨100, [stateItem "feature".toList 0,
    stateItem "feature".toList 1]⟩)["feature".toList]? = some 1 by decide +kernel] at hread
  exact absurd hread (by decide +kernel)

end BundleFramework.Overlay
