import BundleFramework.DataMgr.InstallState

/-!
# Records and install states along runs

`InstallInv`: every record has an entry in `installStates_` under its effective name, and
no entry is a delete state.  A record's effective name is taken with the key it is stored
under, as `AddInnerBundleInfo` computes the state key.

One step keeps the invariant exactly when it is not a delete that leaves a record of the
deleted name behind (`installInv_step_iff`).  Two kinds of accepted delete do: one of a
hidden record, which `DeleteBundleInfo` does not find, and `INSTALL_FAIL` after the record
was added.
-/

namespace BundleFramework

open Std InstallState

variable {β : Type}

/-- `r` is stored under `key`, visible or hidden. -/
def DataMgr.Holds (st : DataMgr β) (key : Str) (r : InnerBundleInfo β) : Prop :=
  st.maps.bundleInfos[key]? = some r ∨ st.maps.tempBundleInfos[key]? = some r

structure InstallInv (st : DataMgr β) : Prop where
  hasState : ∀ key r, st.Holds key r →
    (st.installStates[effectiveName r.isDualModeCloneApp key]?).isSome = true
  noDeleteState : ∀ (name : Str) state, st.installStates[name]? = some state → isDeleteDataState state = false
  noRecord : ∀ name : Str, st.installStates[name]? = none →
    ∀ key r, st.Holds key r → effectiveName r.isDualModeCloneApp key ≠ name

/-- The last clause follows from the first. -/
theorem InstallInv.of_hasState {st : DataMgr β}
    (h1 : ∀ key r, st.Holds key r → (st.installStates[effectiveName r.isDualModeCloneApp key]?).isSome = true)
    (h2 : ∀ (name : Str) state, st.installStates[name]? = some state → isDeleteDataState state = false) :
    InstallInv st where
  hasState := h1
  noDeleteState := h2
  noRecord name hname key r hr e := by
    have := h1 key r hr
    rw [e, hname] at this
    cases this

/-! ## Runs -/

inductive InstallOp (β : Type) where
  | update (env : CallEnv β) (bundleName : Str) (state : InstallState) (isKeepData : Bool)
  | add (env : CallEnv β) (bundleName : Str) (info : InnerBundleInfo β) (checkStatus toTempBundle : Bool)

def DataMgr.installStep (ex : StringEx) (st : DataMgr β) : InstallOp β → DataMgr β
  | .update env bundleName state isKeepData =>
    (updateBundleInstallState ex env st bundleName state isKeepData).2
  | .add env bundleName info checkStatus toTempBundle =>
    (addInnerBundleInfo env st bundleName info checkStatus toTempBundle).2

/-- `P` holds in every state of the run. -/
def Always (ex : StringEx) (P : DataMgr β → Prop) (st : DataMgr β) : List (InstallOp β) → Prop
  | [] => P st
  | op :: ops => P st ∧ Always ex P (st.installStep ex op) ops

/-- The delete of `name` takes every record with that effective name: none is hidden, and
a visible one is found, which `INSTALL_FAIL` does not even look for. -/
def DeletesItsRecord (ex : StringEx) (st : DataMgr β) (name : Str) (state : InstallState) : Prop :=
  (∀ (key : Str) r, st.maps.tempBundleInfos[key]? = some r → effectiveName r.isDualModeCloneApp key ≠ name) ∧
  (∀ (key : Str) r, st.maps.bundleInfos[key]? = some r → effectiveName r.isDualModeCloneApp key = name →
    state ≠ INSTALL_FAIL ∧ key = originalName ex name)

/-- The condition on one step: an accepted delete takes its record. -/
def StepDeletesItsRecord (ex : StringEx) (st : DataMgr β) : InstallOp β → Prop
  | .update _ name state _ => name ≠ [] → isDeleteDataState state = true →
      (∃ current, st.installStates[name]? = some current ∧ canTransfer state current = true) →
      DeletesItsRecord ex st name state
  | .add _ _ _ _ _ => True

def StepsDeleteTheirRecord (ex : StringEx) (st : DataMgr β) : List (InstallOp β) → Prop
  | [] => True
  | op :: ops => StepDeletesItsRecord ex st op ∧ StepsDeleteTheirRecord ex (st.installStep ex op) ops

/-! ## One step -/

theorem map_head_eq_some {o : Option (InnerBundleInfo β)} {o' : Option (InnerBundleInfo β)}
    (h : o.map InnerBundleInfo.head = o'.map InnerBundleInfo.head) {r : InnerBundleInfo β} (hr : o = some r) :
    ∃ r', o' = some r' ∧ r'.head = r.head := by
  subst hr
  rcases o' with _ | r'
  · cases h
  · exact ⟨r', rfl, (Option.some.inj h).symm⟩

theorem BodyRewrite.holds {st st' : DataMgr β} (h : BodyRewrite st st') {key : Str} {r : InnerBundleInfo β}
    (hr : st'.Holds key r) : ∃ r', st.Holds key r' ∧ r'.isDualModeCloneApp = r.isDualModeCloneApp := by
  rcases hr with hr | hr
  · obtain ⟨r', hr', hh⟩ := map_head_eq_some (h.heads key) hr
    exact ⟨r', Or.inl hr', isDualModeCloneApp_of_head hh⟩
  · rw [h.temp] at hr
    exact ⟨r, Or.inr hr, rfl⟩

theorem InstallInv.bodyRewrite {st st' : DataMgr β} (h : InstallInv st) (hb : BodyRewrite st st') :
    InstallInv st' := by
  refine .of_hasState (fun key r hr => ?_) fun name state hs => ?_
  · obtain ⟨r', hr', hc⟩ := hb.holds hr
    rw [hb.states, ← hc]
    exact h.hasState key r' hr'
  · rw [hb.states] at hs
    exact h.noDeleteState name state hs

theorem emplace_holds {st : DataMgr β} {toTempBundle : Bool} {bundleName key : Str} {added r : InnerBundleInfo β}
    (h : (st.emplace toTempBundle bundleName added).Holds key r) :
    st.Holds key r ∨ (key = bundleName ∧ r = added) := by
  unfold DataMgr.emplace DataMgr.Holds at h
  rcases toTempBundle with _ | _
  · simp only [Bool.false_eq_true, if_false, MapLoop.getElem?_insert_eq] at h
    rcases h with h | h
    · split at h
      · next e => exact Or.inr ⟨e, (Option.some.inj h).symm⟩
      · exact Or.inl (Or.inl h)
    · exact Or.inl (Or.inr h)
  · simp only [if_true, MapLoop.getElem?_insert_eq] at h
    rcases h with h | h
    · exact Or.inl (Or.inl h)
    · split at h
      · next e => exact Or.inr ⟨e, (Option.some.inj h).symm⟩
      · exact Or.inl (Or.inr h)

theorem addAppHspBundleName_frame (st : DataMgr β) (type : BundleType) (bundleName : Str) :
    (addAppHspBundleName st type bundleName).maps = st.maps ∧
      (addAppHspBundleName st type bundleName).installStates = st.installStates ∧
      (addAppHspBundleName st type bundleName).ids = st.ids := by
  unfold addAppHspBundleName
  split <;> exact ⟨rfl, rfl, rfl⟩

theorem InstallInv.add {st : DataMgr β} (h : InstallInv st) (env : CallEnv β) (bundleName : Str)
    (info : InnerBundleInfo β) (checkStatus toTempBundle : Bool) :
    InstallInv (addInnerBundleInfo env st bundleName info checkStatus toTempBundle).2 := by
  rcases addInnerBundleInfo_cases env st bundleName info checkStatus toTempBundle with
    ⟨hb, -⟩ | ⟨-, -, hstate, mid, added, hb, ⟨-, hclone, -⟩, e⟩
  · exact h.bodyRewrite hb
  · have hmid := h.bodyRewrite hb
    obtain ⟨fmaps, fstates, -⟩ := addAppHspBundleName_frame (mid.emplace toTempBundle bundleName added)
      added.applicationBundleType bundleName
    rw [e]
    refine .of_hasState (fun key r hr => ?_) fun name state hs => ?_
    · rw [fstates]
      show (mid.installStates[_]?).isSome = true
      unfold DataMgr.Holds at hr
      rw [fmaps] at hr
      rcases emplace_holds hr with hr | ⟨rfl, rfl⟩
      · exact hmid.hasState key r hr
      · rw [hb.states, hclone]
        exact hstate
    · rw [fstates] at hs
      exact hmid.noDeleteState name state hs

theorem InstallInv.setState {st : DataMgr β} (h : InstallInv st) (bundleName : Str) (state : InstallState)
    (hd : isDeleteDataState state = false) :
    InstallInv { st with installStates := st.installStates.insert bundleName state } := by
  refine .of_hasState (fun key r hr => ?_) fun name s hs => ?_
  · dsimp only
    rw [MapLoop.getElem?_insert_eq]
    split
    · rfl
    · exact h.hasState key r hr
  · dsimp only at hs
    rw [MapLoop.getElem?_insert_eq] at hs
    split at hs
    · rw [← Option.some.inj hs]
      exact hd
    · exact h.noDeleteState name s hs

/-- What an accepted delete leaves: the entry of `name` is gone, hidden records stay, and a
visible record stays unless it is the one `DeleteBundleInfo` erases. -/
theorem accepted_delete (env : CallEnv β) (st : DataMgr β) (name original : Str) (state : InstallState)
    (isKeepData : Bool) :
    let st' := deleteBundleInfo env { st with installStates := st.installStates.erase name } original state
      isKeepData
    st'.installStates = st.installStates.erase name ∧
    st'.maps.tempBundleInfos = st.maps.tempBundleInfos ∧
    ∀ key : Str, (st'.maps.bundleInfos[key]?).map InnerBundleInfo.head =
      if state ≠ INSTALL_FAIL ∧ key = original then none
      else (st.maps.bundleInfos[key]?).map InnerBundleInfo.head := by
  intro st'
  rcases deleteBundleInfo_cases env { st with installStates := st.installStates.erase name } original state
    isKeepData with ⟨hnone, e⟩ | ⟨hf, info, -, hdel⟩
  · have e' : st' = _ := e
    rw [e']
    refine ⟨rfl, rfl, fun key => ?_⟩
    dsimp only
    split
    · next hk =>
      rcases hnone with hf | hn
      · exact absurd hf hk.1
      · rw [hk.2, show st.maps.bundleInfos[original]? = none from hn]
        rfl
    · rfl
  · refine ⟨hdel.states, hdel.temp, fun key => (hdel.visible key).trans ?_⟩
    by_cases hk : key = original
    · rw [if_pos hk, if_pos ⟨hf, hk⟩]
    · rw [if_neg hk, if_neg fun h => hk h.2]

theorem installInv_delete_iff (ex : StringEx) (env : CallEnv β) (st : DataMgr β) (h : InstallInv st)
    (name : Str) (state : InstallState) (isKeepData : Bool) :
    InstallInv (deleteBundleInfo env { st with installStates := st.installStates.erase name }
      (originalName ex name) state isKeepData) ↔ DeletesItsRecord ex st name state := by
  obtain ⟨hstates, htemp, hvisible⟩ := accepted_delete env st name (originalName ex name) state isKeepData
  generalize deleteBundleInfo env { st with installStates := st.installStates.erase name }
    (originalName ex name) state isKeepData = st' at hstates htemp hvisible ⊢
  constructor
  · intro h'
    have hgone : st'.installStates[name]? = none := by
      rw [hstates, MapLoop.getElem?_erase_eq, if_pos rfl]
    refine ⟨fun key r hr => h'.noRecord name hgone key r (Or.inr (htemp ▸ hr)), fun key r hr he => ?_⟩
    -- a visible record of that name that is not erased contradicts the invariant
    by_contra hk
    have hk' := hvisible key
    rw [if_neg hk] at hk'
    obtain ⟨r', hr', hh⟩ := map_head_eq_some hk'.symm hr
    refine h'.noRecord name hgone key r' (Or.inl hr') ?_
    rw [isDualModeCloneApp_of_head hh]
    exact he
  · rintro ⟨hhid, hvis⟩
    have survives : ∀ key r, st.Holds key r → effectiveName r.isDualModeCloneApp key ≠ name →
        (st'.installStates[effectiveName r.isDualModeCloneApp key]?).isSome = true := by
      intro key r hr hne
      rw [hstates, MapLoop.getElem?_erase_eq, if_neg hne]
      exact h.hasState key r hr
    refine .of_hasState (fun key r hr => ?_) fun n s hs => ?_
    · rcases hr with hr | hr
      · have hk := hvisible key
        by_cases hdel : state ≠ INSTALL_FAIL ∧ key = originalName ex name
        · rw [if_pos hdel, hr] at hk
          cases hk
        · rw [if_neg hdel] at hk
          obtain ⟨r', hr', hh⟩ := map_head_eq_some hk hr
          rw [← isDualModeCloneApp_of_head hh]
          exact survives key r' (Or.inl hr') fun he => hdel (hvis key r' hr' he)
      · rw [htemp] at hr
        exact survives key r (Or.inr hr) (hhid key r hr)
    · rw [hstates, MapLoop.getElem?_erase_eq] at hs
      split at hs
      · cases hs
      · exact h.noDeleteState n s hs

/-- **One step** keeps the invariant exactly when it is not a delete that leaves its record. -/
theorem installInv_step_iff (ex : StringEx) (st : DataMgr β) (h : InstallInv st) (op : InstallOp β) :
    InstallInv (st.installStep ex op) ↔ StepDeletesItsRecord ex st op := by
  match op with
  | .add env bundleName info checkStatus toTempBundle =>
    exact ⟨fun _ => trivial, fun _ => h.add env bundleName info checkStatus toTempBundle⟩
  | .update env name state isKeepData =>
    show InstallInv (updateBundleInstallState ex env st name state isKeepData).2 ↔ _
    by_cases hacc : name ≠ [] ∧ isDeleteDataState state = true ∧
        ∃ current, st.installStates[name]? = some current ∧ canTransfer state current = true
    · obtain ⟨hne, hd, current, hc, ht⟩ := hacc
      rw [updateBundleInstallState_delete ex env isKeepData hne hc ht hd, installInv_delete_iff ex env st h]
      exact ⟨fun hx _ _ _ => hx, fun hx => hx hne hd ⟨current, hc, ht⟩⟩
    · refine ⟨fun _ hne hd hcur => absurd ⟨hne, hd, hcur⟩ hacc, fun _ => ?_⟩
      rcases updateBundleInstallState_cases ex env st name state isKeepData with e | ⟨hd, e⟩ | ⟨hne, hd, hcur, -⟩
      · rw [e]; exact h
      · rw [e]; exact h.setState name state hd
      · exact absurd ⟨hne, hd, hcur⟩ hacc

/-! ## Whole runs -/

theorem always_installInv_iff (ex : StringEx) (st : DataMgr β) (h : InstallInv st) (ops : List (InstallOp β)) :
    Always ex InstallInv st ops ↔ StepsDeleteTheirRecord ex st ops := by
  induction ops generalizing st with
  | nil => exact ⟨fun _ => trivial, fun _ => h⟩
  | cons op ops ih =>
    constructor
    · rintro ⟨-, hrest⟩
      have hnext : InstallInv (st.installStep ex op) := by
        rcases ops with _ | ⟨op', ops'⟩
        · exact hrest
        · exact hrest.1
      exact ⟨(installInv_step_iff ex st h op).mp hnext, (ih _ hnext).mp hrest⟩
    · rintro ⟨hop, hrest⟩
      have hnext := (installInv_step_iff ex st h op).mpr hop
      exact ⟨h, (ih _ hnext).mpr hrest⟩

/-- **Runs from empty maps**: the invariant holds in every state of the run exactly when
every accepted delete of the run takes its record. -/
theorem installInv_always_iff (ex : StringEx) (st : DataMgr β) (hmaps : st.maps = ⟨∅, ∅⟩)
    (hstates : st.installStates = ∅) (ops : List (InstallOp β)) :
    Always ex InstallInv st ops ↔ StepsDeleteTheirRecord ex st ops := by
  refine always_installInv_iff ex st (.of_hasState (fun key r hr => ?_) fun name state hs => ?_) ops
  · exfalso
    unfold DataMgr.Holds at hr
    rw [hmaps] at hr
    simp at hr
  · rw [hstates] at hs
    simp at hs

/-- A database that accepts every write, and overlays that write nothing. -/
def sampleEnv : CallEnv Unit where
  uuid := []
  insertOk _ := true
  deleteOk _ := true
  overlay :=
    { addAppDetailAbilityInfo := fun _ _ => ()
      updateExternalOverlayInfo := fun _ _ => ((), ())
      setInternalOverlayState := fun _ => ()
      connectExternal := fun _ _ => none
      removeOverlayBundleInfo := fun _ _ => ()
      invalidateOverlayModules := fun _ => () }

def emptyDataMgr : DataMgr Unit where
  maps := ⟨∅, ∅⟩
  installStates := ∅
  storage := ∅
  ids := ⟨∅, BASE_APP_UID, ∅⟩
  appServiceHspBundleName := ∅
  firstInstall := ∅
  uninstalled := ∅

/-- An install that fails after its record was added. -/
def installFailRun : List (InstallOp Unit) :=
  [.update sampleEnv ['x'] INSTALL_START false, .add sampleEnv ['x'] (.blank ['x'] .UNSPECIFIED false) true false,
    .update sampleEnv ['x'] INSTALL_FAIL false]

/-- The clone of `x` is installed on the hidden side and uninstalled. -/
def hiddenCloneRun : List (InstallOp Unit) :=
  [.update sampleEnv "+clone-10000+x".toList INSTALL_START false,
    .add sampleEnv ['x'] (.blank ['x'] .UNIVERSAL_DIFFERENT_PACKAGE true) true true,
    .update sampleEnv "+clone-10000+x".toList UNINSTALL_START false,
    .update sampleEnv "+clone-10000+x".toList UNINSTALL_SUCCESS false]

/-- The run theorem at the failing install. -/
theorem installInv_always_iff_installFailRun :
    Always refStringEx InstallInv emptyDataMgr installFailRun ↔
      StepsDeleteTheirRecord refStringEx emptyDataMgr installFailRun :=
  installInv_always_iff refStringEx emptyDataMgr rfl rfl installFailRun

/-- **Orphaned records**: after each of the two runs a record is left without a state. -/
theorem orphaned_records :
    ¬ Always refStringEx InstallInv emptyDataMgr installFailRun ∧
    ¬ Always refStringEx InstallInv emptyDataMgr hiddenCloneRun := by
  constructor
  · rintro ⟨-, -, -, h⟩
    have := h.hasState ['x'] (.blank ['x'] .UNSPECIFIED false) (Or.inl (by decide +kernel))
    exact absurd this (by decide +kernel)
  · rintro ⟨-, -, -, -, h⟩
    have := h.hasState ['x'] (.blank ['x'] .UNIVERSAL_DIFFERENT_PACKAGE true) (Or.inr (by decide +kernel))
    exact absurd this (by decide +kernel)

end BundleFramework
