import BundleFramework.DataMgr.InnerBundleInfo

/-!
# Overlay module states

`inner_bundle_info.cpp` keeps the state of an overlay module in a list of texts
`moduleName_state`, one list for each user, and finds the text of a module by searching
`moduleName_` anywhere in it.  Against the map it stands for (`lastSet`):

    NoOverlap names ↔ KeepsStates ex info user names            (keepsStates_iff)

Over module names of which none, followed by the underline, occurs in another one followed
by the underline, the list behaves as the map; over any others two calls suffice to lose a
state.
-/

namespace BundleFramework.Overlay

open Std

/-! ## Algorithm -/

def NOT_EXIST_USERID : Int := -5

def FILE_UNDERLINE : Str := ['_']

def nameAndUserIdToKey (bundleName : Str) (userId : Int) : Str :=
  bundleName ++ FILE_UNDERLINE ++ toDecimal userId

structure OverlayUserInfo where
  userId : Int
  overlayModulesState : List Str
  deriving DecidableEq

/-- The fields of a bundle record that these functions read.  `AddInnerBundleUserInfo`
stores a user's record under the key made of the bundle's name and that user. -/
structure OverlayInfo where
  bundleName : Str
  overlayType : OverlayType
  innerBundleUserInfos : StrMap OverlayUserInfo
  keyed : ∀ (key : Str) user, innerBundleUserInfos[key]? = some user →
    key = nameAndUserIdToKey bundleName user.userId

def stateItem (moduleName : Str) (state : Int32) : Str :=
  moduleName ++ FILE_UNDERLINE ++ toDecimal state.toInt

/-- `item.find(moduleName + "_") != npos`. -/
def itemHas (moduleName item : Str) : Bool := (strFind item (moduleName ++ FILE_UNDERLINE)).isSome

/-- `std::any_of` with a predicate that overwrites the element it stops at. -/
def anyOfReplace {α : Type} (p : α → Bool) (x : α) : List α → Option (List α)
  | [] => none
  | a :: l => if p a then some (x :: l) else (anyOfReplace p x l).map (a :: ·)

/-- Overwrite the element found, or append. -/
def replaceOrAppend {α : Type} (p : α → Bool) (x : α) (l : List α) : List α :=
  match anyOfReplace p x l with
  | some replaced => replaced
  | none => l ++ [x]

/-- A loop over `innerBundleUserInfos_` that changes state lists only. -/
def OverlayInfo.forUsers (info : OverlayInfo) (f : Int → List Str → List Str) : OverlayInfo where
  bundleName := info.bundleName
  overlayType := info.overlayType
  innerBundleUserInfos := info.innerBundleUserInfos.map fun _ user =>
    { user with overlayModulesState := f user.userId user.overlayModulesState }
  keyed key user h := by
    rw [ExtTreeMap.getElem?_map, Option.map_eq_some_iff] at h
    obtain ⟨old, hold, rfl⟩ := h
    exact info.keyed key old hold

def setOverlayModuleStateOfUser (info : OverlayInfo) (moduleName : Str) (state : Int32) (userId : Int) :
    OverlayInfo :=
  if info.overlayType = .NON_OVERLAY_TYPE then info
  else info.forUsers fun id overlayStates =>
    if id ≠ userId then overlayStates
    else replaceOrAppend (itemHas moduleName) (stateItem moduleName state) overlayStates

def setOverlayModuleState (info : OverlayInfo) (moduleName : Str) (state : Int32) : OverlayInfo :=
  if info.overlayType = .NON_OVERLAY_TYPE then info
  else info.forUsers fun _ overlayStates =>
    replaceOrAppend (itemHas moduleName) (stateItem moduleName state) overlayStates

def getOverlayModuleState (ex : StringEx) (info : OverlayInfo) (moduleName : Str) (userId : Int) : Option Int :=
  if userId = NOT_EXIST_USERID then none
  else match info.innerBundleUserInfos[nameAndUserIdToKey info.bundleName userId]? with
    | none => none
    | some user =>
      match user.overlayModulesState.find? (itemHas moduleName) with
      | none => none
      | some item => ex.strToInt (item.drop (moduleName.length + 1))

def clearOverlayModuleStates (info : OverlayInfo) (moduleName : Str) : OverlayInfo :=
  info.forUsers fun _ overlayStates => overlayStates.eraseP (itemHas moduleName)

/-! ## Runs, and the map they stand for -/

inductive StateOp where
  | setOfUser (moduleName : Str) (state : Int32) (userId : Int)
  | set (moduleName : Str) (state : Int32)
  | clear (moduleName : Str)

def StateOp.moduleName : StateOp → Str
  | .setOfUser moduleName _ _ => moduleName
  | .set moduleName _ => moduleName
  | .clear moduleName => moduleName

def OverlayInfo.step (info : OverlayInfo) : StateOp → OverlayInfo
  | .setOfUser moduleName state userId => setOverlayModuleStateOfUser info moduleName state userId
  | .set moduleName state => setOverlayModuleState info moduleName state
  | .clear moduleName => clearOverlayModuleStates info moduleName

def OverlayInfo.run (info : OverlayInfo) (ops : List StateOp) : OverlayInfo := ops.foldl .step info

/-- The list of texts of one user, if the bundle has that user. -/
def OverlayInfo.statesOf (info : OverlayInfo) (userId : Int) : Option (List Str) :=
  (info.innerBundleUserInfos[nameAndUserIdToKey info.bundleName userId]?).map (·.overlayModulesState)

/-- What one call does to the state last set for a module and a user. -/
def lastSetStep (moduleName : Str) (userId : Int) (last : Option Int32) : StateOp → Option Int32
  | .setOfUser name state id => if name = moduleName ∧ id = userId then some state else last
  | .set name state => if name = moduleName then some state else last
  | .clear name => if name = moduleName then none else last

/-- The state last set for the module and the user since the last clear, if any. -/
def lastSet (ops : List StateOp) (moduleName : Str) (userId : Int) : Option Int32 :=
  ops.foldl (lastSetStep moduleName userId) none

/-- Every run over these names answers for `userId` as the map does, and no call on one of
them changes the answer for another. -/
def KeepsStates (ex : StringEx) (info : OverlayInfo) (userId : Int) (names : Set Str) : Prop :=
  ∀ ops : List StateOp, (∀ op ∈ ops, op.moduleName ∈ names) →
    (∀ m ∈ names, getOverlayModuleState ex (info.run ops) m userId = (lastSet ops m userId).map Int32.toInt) ∧
    (∀ op : StateOp, op.moduleName ∈ names → ∀ m ∈ names, m ≠ op.moduleName →
      getOverlayModuleState ex ((info.run ops).step op) m userId =
        getOverlayModuleState ex (info.run ops) m userId)

/-- No name followed by the underline occurs in another one followed by the underline. -/
def NoOverlap (names : Set Str) : Prop :=
  ∀ n ∈ names, ∀ m ∈ names, n ++ FILE_UNDERLINE <:+: m ++ FILE_UNDERLINE → n = m

/-! ## Lists of texts -/

theorem anyOfReplace_none {α : Type} {p : α → Bool} {x : α} {l : List α} (h : anyOfReplace p x l = none) :
    ∀ a ∈ l, p a = false := by
  induction l with
  | nil => simp
  | cons a l ih =>
    unfold anyOfReplace at h
    split at h
    · cases h
    · next hp =>
      rw [Option.map_eq_none_iff] at h
      simpa [hp] using ih h

theorem anyOfReplace_some {α : Type} {p : α → Bool} {x : α} {l r : List α} (h : anyOfReplace p x l = some r) :
    ∃ l₁ a l₂, l = l₁ ++ a :: l₂ ∧ (∀ b ∈ l₁, p b = false) ∧ p a = true ∧ r = l₁ ++ x :: l₂ := by
  induction l generalizing r with
  | nil => cases h
  | cons a l ih =>
    unfold anyOfReplace at h
    split at h
    · next hp => exact ⟨[], a, l, rfl, fun _ hb => absurd hb List.not_mem_nil, hp, (Option.some.inj h).symm⟩
    · next hp =>
      obtain ⟨r', hr', rfl⟩ := Option.map_eq_some_iff.mp h
      obtain ⟨l₁, b, l₂, rfl, hbefore, hb, rfl⟩ := ih hr'
      refine ⟨a :: l₁, b, l₂, rfl, fun c hc => ?_, hb, rfl⟩
      rcases List.mem_cons.mp hc with rfl | hc
      · exact Bool.eq_false_iff.mpr hp
      · exact hbefore c hc

theorem anyOfReplace_map {α β : Type} (f : α → β) (p : β → Bool) (x : α) (l : List α) :
    anyOfReplace p (f x) (l.map f) = (anyOfReplace (p ∘ f) x l).map (List.map f) := by
  induction l with
  | nil => rfl
  | cons a l ih =>
    simp only [List.map_cons, anyOfReplace, Function.comp]
    split
    · rfl
    · rw [ih, Option.map_map, Option.map_map]
      rfl

theorem replaceOrAppend_map {α β : Type} (f : α → β) (p : β → Bool) (x : α) (l : List α) :
    replaceOrAppend p (f x) (l.map f) = (replaceOrAppend (p ∘ f) x l).map f := by
  unfold replaceOrAppend
  rw [anyOfReplace_map]
  cases anyOfReplace (p ∘ f) x l with
  | none => simp
  | some r => rfl

/-- The number behind the last underline does not matter for the search. -/
theorem itemHas_stateItem (m n : Str) (state : Int32) :
    itemHas m (stateItem n state) = true ↔ m ++ FILE_UNDERLINE <:+: n ++ FILE_UNDERLINE := by
  unfold itemHas stateItem
  rw [strFind_isSome_iff]
  refine ⟨?_, fun h => h.trans (List.prefix_append _ _).isInfix⟩
  rintro ⟨s, t, e⟩
  have hd := underscore_not_mem_toDecimal state.toInt
  have e' : (s ++ m) ++ '_' :: t = n ++ '_' :: toDecimal state.toInt := by
    simpa [FILE_UNDERLINE] using e
  rcases List.append_eq_append_iff.mp e' with ⟨a, rfl, ha⟩ | ⟨c, hc, ha⟩
  · rcases a with _ | ⟨x, a⟩
    · exact ⟨s, [], by simp⟩
    · obtain ⟨rfl, -⟩ := List.cons.inj ha
      exact ⟨s, a ++ FILE_UNDERLINE, by simp [FILE_UNDERLINE]⟩
  · rcases c with _ | ⟨x, c⟩
    · refine ⟨s, [], ?_⟩
      rw [List.append_nil, ← List.append_assoc, hc, List.append_nil]
    · -- the underline found would be one of the number's characters
      obtain ⟨-, hdt⟩ := List.cons.inj ha
      exact absurd (hdt ▸ List.mem_append_right c List.mem_cons_self) hd

theorem itemHas_iff_eq {names : Set Str} (h : NoOverlap names) {m n : Str} (hm : m ∈ names) (hn : n ∈ names)
    (state : Int32) : itemHas m (stateItem n state) = true ↔ n = m := by
  rw [itemHas_stateItem]
  exact ⟨fun hi => (h m hm n hn hi).symm, fun e => by rw [e]⟩

theorem drop_stateItem (m : Str) (state : Int32) : (stateItem m state).drop (m.length + 1) = toDecimal state.toInt := by
  have hlen : (m ++ FILE_UNDERLINE).length = m.length + 1 := by simp [FILE_UNDERLINE]
  rw [← hlen]
  exact List.drop_left

/-! ## The list of one user -/

/-- The list holds one text for each module with a state, and `last` is the map. -/
def Holds (names : Set Str) (overlayStates : List Str) (last : Str → Option Int32) : Prop :=
  ∃ entries : List (Str × Int32), overlayStates = entries.map (fun e => stateItem e.1 e.2) ∧
    entries.Pairwise (fun a b => a.1 ≠ b.1) ∧ (∀ e ∈ entries, e.1 ∈ names) ∧
    ∀ m state, (m, state) ∈ entries ↔ last m = some state

theorem Holds.nil (names : Set Str) : Holds names [] fun _ => none :=
  ⟨[], rfl, .nil, by simp, by simp⟩

/-- On these entries the search for a module is the test of its name. -/
theorem itemHas_comp {names : Set Str} (h : NoOverlap names) {m : Str} (hm : m ∈ names)
    {entries : List (Str × Int32)} (hn : ∀ e ∈ entries, e.1 ∈ names) :
    ∀ e ∈ entries, ((itemHas m) ∘ fun e : Str × Int32 => stateItem e.1 e.2) e = decide (e.1 = m) := by
  intro e he
  rw [Bool.eq_iff_iff, decide_eq_true_eq]
  exact itemHas_iff_eq h hm (hn e he) e.2

theorem Holds.set {names : Set Str} (h : NoOverlap names) {overlayStates : List Str} {last : Str → Option Int32}
    (hl : Holds names overlayStates last) {m : Str} (hm : m ∈ names) (state : Int32) :
    Holds names (replaceOrAppend (itemHas m) (stateItem m state) overlayStates)
      fun n => if m = n then some state else last n := by
  obtain ⟨entries, rfl, hd, hn, hlast⟩ := hl
  have hp := itemHas_comp h hm hn
  refine ⟨_, replaceOrAppend_map (fun e : Str × Int32 => stateItem e.1 e.2) (itemHas m) (m, state) entries, ?_⟩
  unfold replaceOrAppend
  split
  · next r hr =>
    obtain ⟨l₁, a, l₂, rfl, -, ha, rfl⟩ := anyOfReplace_some hr
    rw [hp a (by simp), decide_eq_true_eq] at ha
    subst ha
    simp only [List.pairwise_append, List.pairwise_cons, List.mem_cons, List.mem_append] at hd hn hlast ⊢
    refine ⟨⟨hd.1, ⟨fun b hb => hd.2.1.1 b hb, hd.2.1.2⟩, fun b hb c hc => ?_⟩, fun e he => ?_, fun n s => ?_⟩
    · rcases hc with rfl | hc
      · exact hd.2.2 b hb a (Or.inl rfl)
      · exact hd.2.2 b hb c (Or.inr hc)
    · rcases he with he | rfl | he
      · exact hn e (Or.inl he)
      · exact hm
      · exact hn e (Or.inr (Or.inr he))
    · by_cases e : a.1 = n
      · subst e
        rw [if_pos rfl]
        constructor
        · rintro (h1 | h1 | h1)
          · exact absurd rfl (hd.2.2 _ h1 a (Or.inl rfl))
          · rw [Prod.mk.injEq] at h1; rw [h1.2]
          · exact absurd rfl (hd.2.1.1 (a.1, s) h1)
        · intro h1
          rw [Option.some.inj h1]
          exact Or.inr (Or.inl rfl)
      · rw [if_neg e, ← hlast n s]
        have hne : (n, s) ≠ a := fun h1 => e (by rw [← h1])
        have hne' : (n, s) ≠ (a.1, state) := fun h1 => e (by rw [Prod.mk.injEq] at h1; exact h1.1.symm)
        simp [hne, hne']
  · next hr =>
    have hnone : ∀ e ∈ entries, e.1 ≠ m := fun e he => by
      have := anyOfReplace_none hr e he
      rw [hp e he] at this
      exact of_decide_eq_false this
    refine ⟨List.pairwise_append.mpr ⟨hd, List.pairwise_singleton _ _, fun a ha b hb => ?_⟩, fun e he => ?_,
      fun n s => ?_⟩
    · rw [List.mem_singleton.mp hb]
      exact hnone a ha
    · rcases List.mem_append.mp he with he | he
      · exact hn e he
      · rw [List.mem_singleton.mp he]; exact hm
    · rw [List.mem_append, List.mem_singleton, Prod.mk.injEq]
      dsimp only
      by_cases e : m = n
      · subst e
        rw [if_pos rfl, Option.some.injEq]
        exact ⟨fun h1 => h1.elim (fun h2 => absurd rfl (hnone _ h2)) fun h2 => h2.2.symm,
          fun h1 => Or.inr ⟨rfl, h1.symm⟩⟩
      · rw [if_neg e, ← hlast n s]
        exact ⟨fun h1 => h1.resolve_right fun h2 => e h2.1.symm, Or.inl⟩

theorem Holds.clear {names : Set Str} (h : NoOverlap names) {overlayStates : List Str} {last : Str → Option Int32}
    (hl : Holds names overlayStates last) {m : Str} (hm : m ∈ names) :
    Holds names (overlayStates.eraseP (itemHas m)) fun n => if m = n then none else last n := by
  obtain ⟨entries, rfl, hd, hn, hlast⟩ := hl
  have hp := itemHas_comp h hm hn
  refine ⟨entries.eraseP ((itemHas m) ∘ fun e : Str × Int32 => stateItem e.1 e.2), List.eraseP_map, ?_⟩
  rcases List.exists_or_eq_self_of_eraseP ((itemHas m) ∘ fun e : Str × Int32 => stateItem e.1 e.2) entries with
    e | ⟨a, l₁, l₂, -, ha, rfl, e⟩
  · rw [e]
    have hnone : ∀ b ∈ entries, b.1 ≠ m := fun b hb hbm => by
      have := (List.eraseP_eq_self_iff.mp e) b hb
      rw [hp b hb, hbm] at this
      simp at this
    refine ⟨hd, hn, fun n s => ?_⟩
    rw [hlast n s]
    dsimp only
    by_cases hne : m = n
    · subst hne
      rw [if_pos rfl]
      exact ⟨fun h1 => absurd rfl (hnone _ ((hlast m s).mpr h1)), fun h1 => by cases h1⟩
    · rw [if_neg hne]
  · rw [e]
    rw [hp a (by simp), decide_eq_true_eq] at ha
    subst ha
    simp only [List.pairwise_append, List.pairwise_cons, List.mem_cons, List.mem_append] at hd hn hlast ⊢
    refine ⟨⟨hd.1, hd.2.1.2, fun b hb c hc => hd.2.2 b hb c (Or.inr hc)⟩, fun b hb => ?_, fun n s => ?_⟩
    · exact hn b (hb.imp id Or.inr)
    · by_cases hne : a.1 = n
      · subst hne
        rw [if_pos rfl]
        exact ⟨fun h1 => h1.elim (fun h2 => absurd rfl (hd.2.2 _ h2 a (Or.inl rfl)))
          fun h2 => absurd rfl (hd.2.1.1 (a.1, s) h2), fun h1 => by cases h1⟩
      · rw [if_neg hne, ← hlast n s]
        have hna : (n, s) ≠ a := fun h1 => hne (by rw [← h1])
        simp [hna]

/-- Reading the list is reading the map. -/
theorem Holds.find {names : Set Str} (h : NoOverlap names) {overlayStates : List Str} {last : Str → Option Int32}
    (hl : Holds names overlayStates last) {m : Str} (hm : m ∈ names) :
    overlayStates.find? (itemHas m) = (last m).map (stateItem m) := by
  obtain ⟨entries, rfl, -, hn, hlast⟩ := hl
  have hp := itemHas_comp h hm hn
  rw [List.find?_map]
  cases hf : entries.find? ((itemHas m) ∘ fun e : Str × Int32 => stateItem e.1 e.2) with
  | none =>
    have : last m = none := by
      by_contra hne
      obtain ⟨s, hs⟩ := Option.ne_none_iff_exists'.mp hne
      have hmem := (hlast m s).mpr hs
      have := List.find?_eq_none.mp hf _ hmem
      rw [hp _ hmem] at this
      simp at this
    rw [this]
    rfl
  | some e =>
    have hmem := List.mem_of_find?_eq_some hf
    have he := List.find?_some hf
    rw [hp e hmem, decide_eq_true_eq] at he
    subst he
    rw [(hlast e.1 e.2).mp hmem]
    rfl

/-! ## Runs -/

theorem nameAndUserIdToKey_injective (bundleName : Str) : Function.Injective (nameAndUserIdToKey bundleName) := by
  intro a b h
  exact toDecimal_injective (List.append_cancel_left h)

theorem statesOf_forUsers (info : OverlayInfo) (f : Int → List Str → List Str) (userId : Int) :
    (info.forUsers f).statesOf userId = (info.statesOf userId).map (f userId) := by
  unfold OverlayInfo.statesOf OverlayInfo.forUsers
  rw [ExtTreeMap.getElem?_map, Option.map_map, Option.map_map]
  cases hu : info.innerBundleUserInfos[nameAndUserIdToKey info.bundleName userId]? with
  | none => rfl
  | some user =>
    have hid : userId = user.userId := nameAndUserIdToKey_injective _ (info.keyed _ user hu)
    simp [hid]

theorem step_overlayType (info : OverlayInfo) (op : StateOp) : (info.step op).overlayType = info.overlayType := by
  cases op with
  | setOfUser moduleName state userId =>
    show (setOverlayModuleStateOfUser info moduleName state userId).overlayType = _
    unfold setOverlayModuleStateOfUser
    split <;> rfl
  | set moduleName state =>
    show (setOverlayModuleState info moduleName state).overlayType = _
    unfold setOverlayModuleState
    split <;> rfl
  | clear moduleName => rfl

/-- The answer in terms of the user's list. -/
theorem getOverlayModuleState_eq (ex : StringEx) (info : OverlayInfo) (m : Str) {userId : Int}
    (hne : userId ≠ NOT_EXIST_USERID) {overlayStates : List Str} (hs : info.statesOf userId = some overlayStates) :
    getOverlayModuleState ex info m userId =
      (overlayStates.find? (itemHas m)).bind fun item => ex.strToInt (item.drop (m.length + 1)) := by
  unfold OverlayInfo.statesOf at hs
  unfold getOverlayModuleState
  rw [if_neg hne]
  obtain ⟨user, hu, rfl⟩ := Option.map_eq_some_iff.mp hs
  rw [hu]
  dsimp only
  cases user.overlayModulesState.find? (itemHas m) <;> rfl

/-- What is known of a user along a run. -/
structure Tracks (names : Set Str) (info : OverlayInfo) (userId : Int) (last : Str → Option Int32) : Prop where
  overlay : info.overlayType ≠ .NON_OVERLAY_TYPE
  list : ∃ overlayStates, info.statesOf userId = some overlayStates ∧ Holds names overlayStates last

theorem Tracks.get {ex : StringEx} (hex : ex.ReadsInt32) {names : Set Str} (h : NoOverlap names)
    {info : OverlayInfo} {userId : Int} {last : Str → Option Int32} (ht : Tracks names info userId last)
    (hne : userId ≠ NOT_EXIST_USERID) {m : Str} (hm : m ∈ names) :
    getOverlayModuleState ex info m userId = (last m).map Int32.toInt := by
  obtain ⟨overlayStates, hs, hl⟩ := ht.list
  rw [getOverlayModuleState_eq ex info m hne hs, hl.find h hm]
  cases last m with
  | none => rfl
  | some state =>
    show ex.strToInt ((stateItem m state).drop (m.length + 1)) = some state.toInt
    rw [drop_stateItem, hex state]

/-- **One call** does to the list what it does to the map. -/
theorem Tracks.step {names : Set Str} (h : NoOverlap names) {info : OverlayInfo} {userId : Int}
    {last : Str → Option Int32} (ht : Tracks names info userId last) (op : StateOp) (hop : op.moduleName ∈ names) :
    Tracks names (info.step op) userId fun m => lastSetStep m userId (last m) op := by
  obtain ⟨overlayStates, hs, hl⟩ := ht.list
  refine ⟨by rw [step_overlayType]; exact ht.overlay, ?_⟩
  cases op with
  | setOfUser moduleName state id =>
    show ∃ l, (setOverlayModuleStateOfUser info moduleName state id).statesOf userId = some l ∧ _
    unfold setOverlayModuleStateOfUser
    rw [if_neg ht.overlay, statesOf_forUsers, hs]
    refine ⟨_, rfl, ?_⟩
    by_cases hid : userId = id
    · subst hid
      simp only [ne_eq, not_true, if_false, lastSetStep, and_true]
      exact hl.set h hop state
    · simp only [ne_eq, hid, not_false_eq_true, if_true, lastSetStep, Ne.symm hid, and_false, if_false]
      exact hl
  | set moduleName state =>
    show ∃ l, (setOverlayModuleState info moduleName state).statesOf userId = some l ∧ _
    unfold setOverlayModuleState
    rw [if_neg ht.overlay, statesOf_forUsers, hs]
    exact ⟨_, rfl, hl.set h hop state⟩
  | clear moduleName =>
    show ∃ l, (clearOverlayModuleStates info moduleName).statesOf userId = some l ∧ _
    unfold clearOverlayModuleStates
    rw [statesOf_forUsers, hs]
    exact ⟨_, rfl, hl.clear h hop⟩

theorem Tracks.run {names : Set Str} (h : NoOverlap names) {info : OverlayInfo} {userId : Int}
    {last : Str → Option Int32} (ht : Tracks names info userId last) (ops : List StateOp)
    (hops : ∀ op ∈ ops, op.moduleName ∈ names) :
    Tracks names (info.run ops) userId fun m => ops.foldl (lastSetStep m userId) (last m) := by
  induction ops generalizing info last with
  | nil => exact ht
  | cons op ops ih =>
    exact ih (ht.step h op (hops op List.mem_cons_self)) fun o ho => hops o (List.mem_cons_of_mem _ ho)

theorem lastSetStep_other {m : Str} {op : StateOp} (h : m ≠ op.moduleName) (userId : Int) (last : Option Int32) :
    lastSetStep m userId last op = last := by
  cases op with
  | setOfUser name state id => exact if_neg fun hc => h hc.1.symm
  | set name state => exact if_neg fun hc => h hc.symm
  | clear name => exact if_neg fun hc => h hc.symm

/-- **The list is the map exactly on names that do not overlap.**  For a fresh overlay
bundle and one of its users: every run over `names` returns what was last set, and no call
on one module touches another, if and only if no name followed by the underline occurs in
another one followed by the underline. -/
theorem keepsStates_iff (ex : StringEx) (hex : ex.ReadsInt32) (info : OverlayInfo)
    (hover : info.overlayType ≠ .NON_OVERLAY_TYPE) (userId : Int) (hne : userId ≠ NOT_EXIST_USERID)
    (hfresh : info.statesOf userId = some []) (names : Set Str) :
    KeepsStates ex info userId names ↔ NoOverlap names := by
  constructor
  · intro h n hn m hm hinf
    by_contra hnm
    -- set `m`, then `n`: the text of `m` is found for `n` and overwritten
    have hstates : (info.run [.set m 1]).statesOf userId = some [stateItem m 1] := by
      show (setOverlayModuleState info m 1).statesOf userId = _
      unfold setOverlayModuleState
      rw [if_neg hover, statesOf_forUsers, hfresh]
      rfl
    have hover' : (info.run [.set m 1]).overlayType ≠ .NON_OVERLAY_TYPE := by
      show (info.step (.set m 1)).overlayType ≠ _
      rw [step_overlayType]
      exact hover
    have hstates' : ((info.run [.set m 1]).step (.set n 2)).statesOf userId = some [stateItem n 2] := by
      show (setOverlayModuleState _ n 2).statesOf userId = _
      unfold setOverlayModuleState
      rw [if_neg hover', statesOf_forUsers, hstates]
      simp [replaceOrAppend, anyOfReplace, (itemHas_stateItem n m 1).mpr hinf]
    have hback : itemHas m (stateItem n 2) = false := by
      rw [Bool.eq_false_iff]
      intro hc
      have := ((itemHas_stateItem m n 2).mp hc).eq_of_length_le hinf.length_le
      exact hnm (List.append_cancel_right this).symm
    obtain ⟨hget, hother⟩ := h [.set m 1] (by simpa [StateOp.moduleName] using hm)
    have := hother (.set n 2) hn m hm (Ne.symm hnm)
    rw [hget m hm, getOverlayModuleState_eq ex _ m hne hstates'] at this
    simp [hback, lastSet, lastSetStep] at this
  · intro h ops hops
    have hstart : Tracks names info userId fun _ => none := ⟨hover, [], hfresh, Holds.nil names⟩
    have ht := hstart.run h ops hops
    refine ⟨fun m hm => ht.get hex h hne hm, fun op hop m hm hmne => ?_⟩
    rw [(ht.step h op hop).get hex h hne hm, ht.get hex h hne hm, lastSetStep_other hmne]

/-- An overlay bundle with one user and no states yet. -/
def sampleOverlay : OverlayInfo where
  bundleName := ['b']
  overlayType := .OVERLAY_INTERNAL_BUNDLE
  innerBundleUserInfos := (∅ : StrMap OverlayUserInfo).insert (nameAndUserIdToKey ['b'] 100) ⟨100, []⟩
  keyed key user h := by
    rw [MapLoop.getElem?_insert_eq] at h
    split at h
    · next e => rw [e, ← Option.some.inj h]
    · simp at h

/-- Two modules, the name of neither inside the other. -/
theorem keepsStates_iff_entry_feature :
    KeepsStates refStringEx sampleOverlay 100 {"entry".toList, "feature".toList} ↔
      NoOverlap {"entry".toList, "feature".toList} :=
  keepsStates_iff refStringEx refStringEx_readsInt32 sampleOverlay (by decide) 100 (by decide)
    (by decide +kernel) _

/-- **A lost state**: setting `feature` overwrites the text of `subfeature`, whose state is
gone afterwards. -/
theorem overlay_state_lost :
    ¬ (∀ names : Set Str, KeepsStates refStringEx sampleOverlay 100 names) ∧
    getOverlayModuleState refStringEx (sampleOverlay.run [.set "subfeature".toList 1]) "subfeature".toList 100 =
      some 1 ∧
    getOverlayModuleState refStringEx (sampleOverlay.run [.set "subfeature".toList 1, .set "feature".toList 2])
      "subfeature".toList 100 = none := by
  have h1 : getOverlayModuleState refStringEx (sampleOverlay.run [.set "subfeature".toList 1])
      "subfeature".toList 100 = some 1 := by decide +kernel
  have h2 : getOverlayModuleState refStringEx
      (sampleOverlay.run [.set "subfeature".toList 1, .set "feature".toList 2])
      "subfeature".toList 100 = none := by decide +kernel
  refine ⟨fun h => ?_, h1, h2⟩
  have := (h Set.univ [.set "subfeature".toList 1, .set "feature".toList 2] (by simp)).1
    "subfeature".toList trivial
  rw [h2] at this
  exact absurd this (by decide +kernel)

end BundleFramework.Overlay
