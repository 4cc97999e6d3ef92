import BundleFramework.SharedBundle.Installer

/-!
# A failed installation of a set

The rollback of a bundle that was not there takes its record and its provision row away.  The rollback of a bundle
that was there writes the old record back, through `UpdateInnerBundleInfo`, which sets the odid of the record's group
once more; the provision row that the installation has replaced stays as it is.

While the set is installed, `Grown` says how far the records can have gone from those before the call: only the odids
of records with a developer have changed, and the odid that a group had is still the one it is given.
-/

namespace BundleFramework.SharedBundle

open Std

variable {ρ : Type}

/-! ## Odids of a group -/

section Odids

variable {groupId odid : Str} {infos : StrMap InnerBundleInfo}

theorem findExistingOdid_eq_some : findExistingOdid groupId infos = some odid ↔ ∃ (name : Str) (info : InnerBundleInfo),
    infos[name]? = some info ∧ info.hasOdidOf groupId = true ∧ info.odid = odid ∧
    ∀ (name' : Str) (info' : InnerBundleInfo), infos[name']? = some info' → compare name' name = .lt →
      info'.hasOdidOf groupId = false := by
  unfold findExistingOdid
  rw [Option.map_eq_some_iff]
  have hordered := infos.ordered_keys_toList
  constructor
  · rintro ⟨⟨name, info⟩, hfind, rfl⟩
    obtain ⟨hhas, before, after, hsplit, hbefore⟩ := List.find?_eq_some_iff_append.mp hfind
    have hmem : (name, info) ∈ infos.toList := by simp [hsplit]
    refine ⟨name, info, ExtTreeMap.mem_toList_iff_getElem?_eq_some.mp hmem, hhas, rfl, fun name' info' hinfo' hlt => ?_⟩
    have hmem' := ExtTreeMap.mem_toList_iff_getElem?_eq_some.mpr hinfo'
    rw [hsplit] at hmem' hordered
    rcases List.mem_append.mp hmem' with hmem' | hmem'
    · simpa using hbefore _ hmem'
    -- What stands from the found one on is not below it.
    rcases List.mem_cons.mp hmem' with heq | hmem'
    · cases heq
      simp at hlt
    · have hgt := (List.pairwise_cons.mp (List.pairwise_append.mp hordered).2.1).1 _ hmem'
      have := OrientedCmp.gt_of_lt hgt
      rw [hlt] at this
      cases this
  · rintro ⟨name, info, hinfo, hhas, rfl, hfirst⟩
    have hmem := ExtTreeMap.mem_toList_iff_getElem?_eq_some.mpr hinfo
    obtain ⟨before, after, hsplit⟩ := List.append_of_mem hmem
    refine ⟨(name, info), List.find?_eq_some_iff_append.mpr ⟨hhas, before, after, hsplit, ?_⟩, rfl⟩
    rintro ⟨name', info'⟩ hbefore
    have hmem' : (name', info') ∈ infos.toList := by simp [hsplit, hbefore]
    rw [hsplit] at hordered
    have hlt := (List.pairwise_append.mp hordered).2.2 _ hbefore _ List.mem_cons_self
    rw [hfirst name' info' (ExtTreeMap.mem_toList_iff_getElem?_eq_some.mp hmem') hlt]
    rfl

theorem findExistingOdid_eq_none : findExistingOdid groupId infos = none ↔
    ∀ (name : Str) (info : InnerBundleInfo), infos[name]? = some info → info.hasOdidOf groupId = false := by
  unfold findExistingOdid
  rw [Option.map_eq_none_iff, List.find?_eq_none]
  constructor
  · intro h name info hinfo
    simpa using h _ (ExtTreeMap.mem_toList_iff_getElem?_eq_some.mpr hinfo)
  · rintro h ⟨name, info⟩ hmem
    rw [h name info (ExtTreeMap.mem_toList_iff_getElem?_eq_some.mp hmem)]
    simp

theorem existingOdid_nonempty {s : State ρ} (h : existingOdid s groupId = some odid) : odid ≠ [] := by
  have hof : ∀ infos : StrMap InnerBundleInfo, findExistingOdid groupId infos = some odid → odid ≠ [] := by
    intro infos hfind
    obtain ⟨name, info, -, hhas, rfl, -⟩ := findExistingOdid_eq_some.mp hfind
    simpa [InnerBundleInfo.hasOdidOf] using (Bool.and_eq_true_iff.mp hhas).2
  rcases Option.or_eq_some_iff.mp h with h | ⟨-, h⟩
  · exact hof _ h
  · exact hof _ h

theorem generateOdid_nonempty (s : State ρ) {uuid : Str} (huuid : uuid ≠ []) (developerId : Str) :
    generateOdid s uuid developerId ≠ [] := by
  unfold generateOdid
  cases h : existingOdid s (extractGroupIdByDevelopId developerId) with
  | none => exact huuid
  | some odid => exact existingOdid_nonempty h

end Odids

/-! ## How far a record goes -/

/-- What a record of the set can be while the set is installed in `s`. -/
def Allowed (s : State ρ) (name : Str) (info : InnerBundleInfo) : Prop :=
  match s.bundleInfos.map[name]? with
  | none => info.developerId = [] ∧ info.odid = []
  | some old => info.developerId = old.developerId ∧ (info.odid = old.odid ∨ (old.developerId ≠ [] ∧ info.odid ≠ [] ∧
      ∀ odid, existingOdid s (extractGroupIdByDevelopId old.developerId) = some odid → info.odid = odid))

structure Grown (s t : State ρ) : Prop where
  temp : t.tempBundleInfos = s.tempBundleInfos
  allowed : ∀ (name : Str) info, t.bundleInfos.map[name]? = some info → Allowed s name info
  kept : ∀ name : Str, s.bundleInfos.map[name]?.isSome = true → t.bundleInfos.map[name]?.isSome = true

section Grown

variable {s t : State ρ}

theorem Allowed.old {name : Str} {info : InnerBundleInfo} (h : s.bundleInfos.map[name]? = some info) : Allowed s name info := by
  unfold Allowed
  rw [h]
  exact ⟨rfl, .inl rfl⟩

theorem Grown.refl (s : State ρ) : Grown s s := ⟨rfl, fun _ _ h => .old h, fun _ h => h⟩

/-- A record that may be there, with an odid of the group, has the group's odid or had it before. -/
theorem Allowed.hasOdid {name groupId : Str} {info : InnerBundleInfo} (h : Allowed s name info)
    (hhas : info.hasOdidOf groupId = true) :
    ∃ old, s.bundleInfos.map[name]? = some old ∧ ((old.hasOdidOf groupId = true ∧ info.odid = old.odid) ∨
      ∀ odid, existingOdid s groupId = some odid → info.odid = odid) := by
  unfold Allowed at h
  unfold InnerBundleInfo.hasOdidOf at hhas ⊢
  obtain ⟨hgroup, hodid⟩ := Bool.and_eq_true_iff.mp hhas
  cases hold : s.bundleInfos.map[name]? with
  | none =>
    rw [hold] at h
    rw [h.2] at hodid
    cases hodid
  | some old =>
    rw [hold] at h
    obtain ⟨hdeveloper, hsame | ⟨-, -, hexisting⟩⟩ := h
    · refine ⟨old, rfl, .inl ⟨?_, hsame⟩⟩
      rw [← hdeveloper, ← hsame]
      exact hhas
    · refine ⟨old, rfl, .inr fun odid hgiven => hexisting odid ?_⟩
      rw [← hdeveloper, ← of_decide_eq_true hgroup]
      exact hgiven

theorem Allowed.keepsOdid {name groupId : Str} {info old : InnerBundleInfo} (h : Allowed s name info)
    (hold : s.bundleInfos.map[name]? = some old) (hhas : old.hasOdidOf groupId = true) : info.hasOdidOf groupId = true := by
  unfold Allowed at h
  rw [hold] at h
  unfold InnerBundleInfo.hasOdidOf at hhas ⊢
  obtain ⟨hdeveloper, hsame | ⟨-, hnonempty, -⟩⟩ := h
  · rw [hdeveloper, hsame]
    exact hhas
  · rw [hdeveloper]
    obtain ⟨hgroup, -⟩ := Bool.and_eq_true_iff.mp hhas
    exact Bool.and_eq_true_iff.mpr ⟨hgroup, by simpa using hnonempty⟩

/-- The odid that a group had is still the one that is found. -/
theorem Grown.existingOdid (h : Grown s t) {groupId odid : Str} (hodid : existingOdid s groupId = some odid) :
    existingOdid t groupId = some odid := by
  unfold SharedBundle.existingOdid
  rw [h.temp]
  rcases Option.or_eq_some_iff.mp hodid with hfind | ⟨hnone, hfind⟩
  · obtain ⟨name, old, hold, hhas, rfl, hfirst⟩ := findExistingOdid_eq_some.mp hfind
    obtain ⟨info, hinfo⟩ := Option.isSome_iff_exists.mp (h.kept name (by rw [hold]; rfl))
    have hkept : info.hasOdidOf groupId = true := (h.allowed name info hinfo).keepsOdid hold hhas
    cases hfound : findExistingOdid groupId t.bundleInfos.map with
    | none =>
      have hnot := findExistingOdid_eq_none.mp hfound name info hinfo
      rw [hkept] at hnot
      cases hnot
    | some found =>
      obtain ⟨name', info', hinfo', hhas', rfl, hfirst'⟩ := findExistingOdid_eq_some.mp hfound
      obtain ⟨old', hold', ⟨hhad, hsame⟩ | hexisting⟩ := (h.allowed name' info' hinfo').hasOdid hhas'
      · -- Its odid is the one it had, so it is the first in both.
        rcases hcmp : compare name' name with _ | _ | _
        · have hnot := hfirst name' old' hold' hcmp
          rw [hhad] at hnot
          cases hnot
        · obtain rfl : name' = name := LawfulEqCmp.eq_of_compare hcmp
          obtain rfl := Option.some.inj (hold'.symm.trans hold)
          rw [hsame]
          rfl
        · have hnot := hfirst' name info hinfo (OrientedCmp.lt_of_gt hcmp)
          rw [hkept] at hnot
          cases hnot
      · rw [hexisting old.odid hodid]
        rfl
  · cases hfound : findExistingOdid groupId t.bundleInfos.map with
    | none => exact hfind
    | some found =>
      obtain ⟨name', info', hinfo', hhas', rfl, -⟩ := findExistingOdid_eq_some.mp hfound
      obtain ⟨old', hold', ⟨hhad, -⟩ | hexisting⟩ := (h.allowed name' info' hinfo').hasOdid hhas'
      · have hnot := findExistingOdid_eq_none.mp hnone name' old' hold'
        rw [hhad] at hnot
        cases hnot
      · rw [hexisting odid hodid]
        rfl

theorem Grown.updateOdid (h : Grown s t) {name uuid : Str} {info : InnerBundleInfo} (huuid : uuid ≠ [])
    (hinfo : Allowed s name info) : Allowed s name (updateOdid t uuid info) := by
  unfold SharedBundle.updateOdid
  split
  · exact hinfo
  next hdeveloper =>
  unfold Allowed at hinfo ⊢
  cases hold : s.bundleInfos.map[name]? with
  | none =>
    rw [hold] at hinfo
    rw [hinfo.1] at hdeveloper
    exact absurd rfl hdeveloper
  | some old =>
    rw [hold] at hinfo
    refine ⟨hinfo.1, .inr ⟨?_, generateOdid_nonempty t huuid _, fun odid hodid => ?_⟩⟩
    · rw [← hinfo.1]
      simpa using hdeveloper
    · have hfound := h.existingOdid hodid
      rw [← hinfo.1] at hfound
      show generateOdid t uuid info.developerId = odid
      unfold generateOdid
      rw [hfound]
      rfl

/-- A state that differs in one record that may be there. -/
theorem Grown.put (h : Grown s t) {u : State ρ} {info : InnerBundleInfo} (htemp : u.tempBundleInfos = t.tempBundleInfos)
    (hinfos : u.bundleInfos = t.bundleInfos.put info) (hinfo : Allowed s info.bundleName info) : Grown s u := by
  refine ⟨htemp.trans h.temp, fun name info' hinfo' => ?_, fun name hkept => ?_⟩
  · rw [hinfos, put_getElem] at hinfo'
    split at hinfo'
    · next heq =>
      obtain rfl := Option.some.inj hinfo'
      rw [← heq]
      exact hinfo
    · exact h.allowed name info' hinfo'
  · rw [hinfos, put_getElem]
    split
    · rfl
    · exact h.kept name hkept

theorem Grown.same (h : Grown s t) {u : State ρ} (htemp : u.tempBundleInfos = t.tempBundleInfos)
    (hinfos : u.bundleInfos = t.bundleInfos) : Grown s u := by
  refine ⟨htemp.trans h.temp, fun name info hinfo => ?_, fun name hkept => ?_⟩
  · rw [hinfos] at hinfo
    exact h.allowed name info hinfo
  · rw [hinfos]
    exact h.kept name hkept

end Grown

/-! ## One bundle -/

/-- The installation of a new bundle can be started. -/
def canStart : Option InstallState → Bool
  | none => true
  | some current => canTransfer .INSTALL_START current || current = .INSTALL_START

namespace InnerSharedBundleInstaller

variable (installer : InnerSharedBundleInstaller ρ) (param : InstallParam) (env : Env)

/-- What stops the installation of one bundle, read off the state before. -/
def Fails (s : State ρ) : Prop :=
  installer.checkWithInstalledInfo env s.bundleInfos.map[installer.bundleName]? ≠ .ERR_OK ∨ env.extractSharedBundles ≠ .ERR_OK ∨
    (s.bundleInfos.map[installer.bundleName]? = none ∧ canStart s.installStates[installer.bundleName]? = false) ∨
    (env.saveFinish = false ∧ env.saveFinishAgain = false)

/-- The row that an installation leaves for a bundle that exists. -/
def provisionAfter (old : Option InnerBundleInfo) (row : Option (AppProvisionInfo ρ)) : Option (AppProvisionInfo ρ) :=
  if installer.checkWithInstalledInfo env old ≠ .ERR_OK then row
  else
    let provided := if env.addAppProvisionInfo then some { signed := installer.signed } else row
    if env.extractSharedBundles ≠ .ERR_OK then provided else provided.map (param.apply env)

/-- The rollback brings back what was there: a new bundle had no provision row, and an old one has the odid of its group
and the provision row that the installation leaves. -/
def Restorable (s : State ρ) : Prop :=
  match s.bundleInfos.map[installer.bundleName]? with
  | none => s.appProvisionInfos[installer.bundleName]? = none
  | some old =>
    (old.developerId = [] ∨ existingOdid s (extractGroupIdByDevelopId old.developerId) = some old.odid) ∧
      installer.provisionAfter param env (some old) s.appProvisionInfos[installer.bundleName]? =
        s.appProvisionInfos[installer.bundleName]?

end InnerSharedBundleInstaller

section One

variable (installer : InnerSharedBundleInstaller ρ) (param : InstallParam) (env : Env) {s t : State ρ}

theorem provided_keeps :
    (installer.provided env s).bundleInfos = s.bundleInfos ∧ (installer.provided env s).tempBundleInfos = s.tempBundleInfos ∧
    (installer.provided env s).installStates = s.installStates ∧
    (installer.provided env s).appProvisionInfos[installer.bundleName]? =
      if env.addAppProvisionInfo then some { signed := installer.signed } else s.appProvisionInfos[installer.bundleName]? := by
  unfold InnerSharedBundleInstaller.provided addAppProvisionInfo
  rw [bundleName_nonempty]
  cases env.addAppProvisionInfo with
  | false => exact ⟨rfl, rfl, rfl, rfl⟩
  | true => exact ⟨rfl, rfl, rfl, ExtTreeMap.getElem?_insert_self⟩

/-- The record that is merged may be there. -/
theorem allowed_merge :
    Allowed s installer.bundleName (installer.mergeBundleInfos s.bundleInfos.map[installer.bundleName]?) := by
  obtain ⟨-, hdeveloper, hodid⟩ := mergeBundleInfos_head installer s.bundleInfos.map[installer.bundleName]?
    fun info hinfo => s.bundleInfos.named _ info hinfo
  unfold Allowed
  cases hold : s.bundleInfos.map[installer.bundleName]? with
  | none =>
    rw [hold] at hdeveloper hodid
    exact ⟨hdeveloper, hodid⟩
  | some old =>
    rw [hold] at hdeveloper hodid
    exact ⟨hdeveloper, .inl hodid⟩

/-- The rollback of a bundle that is as it was before the call. -/
theorem rollBack_effect (h : Grown s t) :
    Grown s (installer.rollBack env s.bundleInfos.map[installer.bundleName]? t) ∧
    (installer.rollBack env s.bundleInfos.map[installer.bundleName]? t).bundleInfos.map[installer.bundleName]? =
      s.bundleInfos.map[installer.bundleName]?.map (updateOdid t env.uuid) ∧
    (installer.rollBack env s.bundleInfos.map[installer.bundleName]? t).appProvisionInfos[installer.bundleName]? =
      if s.bundleInfos.map[installer.bundleName]?.isSome then t.appProvisionInfos[installer.bundleName]? else none := by
  unfold InnerSharedBundleInstaller.rollBack
  cases hold : s.bundleInfos.map[installer.bundleName]? with
  | none =>
    unfold deleteAppProvisionInfo deleteSharedBundleInfo
    rw [bundleName_nonempty]
    refine ⟨⟨h.temp, fun name info hinfo => ?_, fun name hkept => ?_⟩, ?_, ?_⟩
    · simp only [Bool.false_eq_true, if_false, erase_getElem] at hinfo
      split at hinfo
      · cases hinfo
      · exact h.allowed name info hinfo
    · simp only [Bool.false_eq_true, if_false, erase_getElem]
      split
      · next heq =>
        rw [← heq, hold] at hkept
        cases hkept
      · exact h.kept name hkept
    · simp [erase_getElem]
    · simp
  | some old =>
    obtain ⟨current, hcurrent⟩ := Option.isSome_iff_exists.mp (h.kept installer.bundleName (by rw [hold]; rfl))
    have hname := s.bundleInfos.named _ old hold
    have hupdate : updateInnerBundleInfo t env.uuid old true =
        some { t with bundleInfos := t.bundleInfos.put (updateOdid t env.uuid old) } := by
      unfold updateInnerBundleInfo
      rw [hname, bundleName_nonempty, hcurrent]
      rfl
    dsimp only
    rw [hupdate]
    refine ⟨?_, ?_, rfl⟩
    · refine h.put rfl rfl ?_
      rw [updateOdid_bundleName]
      exact h.updateOdid env.uuid_nonempty (.old (by rw [hname]; exact hold))
    · exact (put_getElem ..).trans (if_pos ((updateOdid_bundleName old).trans hname))

theorem Grown.written (h : Grown s t) (hsame : t.bundleInfos.map[installer.bundleName]? = s.bundleInfos.map[installer.bundleName]?) :
    Grown s (installer.saved env t).2 ∧ Grown s (installer.written param env t) := by
  obtain ⟨hinfos, htemp, -, -⟩ := provided_keeps installer env (s := t)
  have hsaved : Grown s (installer.saved env t).2 := by
    obtain ⟨htemp', -, hcases⟩ := save_cases installer env (installer.provided env t)
      t.bundleInfos.map[installer.bundleName]? (installer.mergeBundleInfos t.bundleInfos.map[installer.bundleName]?)
    rcases hcases with ⟨-, started, hstarted, htemp'', hput⟩ | ⟨-, hkeep⟩
    · have hgrown : Grown s started := h.same (htemp''.trans htemp) (hstarted.trans hinfos)
      refine h.put (htemp'.trans htemp) (by rw [← hinfos]; exact hput) ?_
      rw [updateOdid_bundleName, merged_bundleName, hsame]
      exact hgrown.updateOdid env.uuid_nonempty (allowed_merge installer)
    · exact h.same (htemp'.trans htemp) (hkeep.trans hinfos)
  obtain ⟨hinfos', htemp', -⟩ := saveInstallParamInfo_keeps param env (installer.saved env t).2 installer.bundleName
  exact ⟨hsaved, hsaved.same htemp' hinfos'⟩

theorem Grown.install (h : Grown s t) (hsame : t.bundleInfos.map[installer.bundleName]? = s.bundleInfos.map[installer.bundleName]?) :
    Grown s (installer.install param env t).2.1 := by
  obtain ⟨hinfos, htemp, -, -⟩ := provided_keeps installer env (s := t)
  obtain ⟨hsaved, hwritten⟩ := h.written installer param env hsame
  rcases install_cases installer param env t with ⟨-, heq⟩ | ⟨-, ⟨-, heq⟩ | ⟨-, ⟨-, heq⟩ | ⟨-, ⟨-, heq⟩ | ⟨hmark, heq⟩⟩⟩⟩ <;> rw [heq]
  · exact h
  · exact h.same htemp hinfos
  · exact hsaved
  · rw [hsame]
    exact (rollBack_effect installer env hwritten).1
  · obtain ⟨info, hinfo, hfinish⟩ := (mark_finish installer env (installer.written param env t)).1 hmark
    rw [hfinish]
    refine hwritten.put rfl rfl ?_
    rw [updateOdid_bundleName, (installer.written param env t).bundleInfos.named _ info hinfo]
    exact hwritten.updateOdid env.uuid_nonempty (hwritten.allowed _ info hinfo)

/-- The provision row after the installation of a bundle that exists. -/
theorem install_provision {old : InnerBundleInfo} (hold : t.bundleInfos.map[installer.bundleName]? = some old) :
    (installer.install param env t).2.1.appProvisionInfos[installer.bundleName]? =
      installer.provisionAfter param env (some old) t.appProvisionInfos[installer.bundleName]? := by
  obtain ⟨hinfos, -, -, hrow⟩ := provided_keeps installer env (s := t)
  have hsave := save_cases installer env (installer.provided env t)
    t.bundleInfos.map[installer.bundleName]? (installer.mergeBundleInfos t.bundleInfos.map[installer.bundleName]?)
  have hwritten : (installer.written param env t).appProvisionInfos[installer.bundleName]? =
      (if env.addAppProvisionInfo then some { signed := installer.signed }
        else t.appProvisionInfos[installer.bundleName]?).map (param.apply env) := by
    refine (saveInstallParamInfo_keeps param env (installer.saved env t).2 installer.bundleName).2.2.trans ?_
    unfold InnerSharedBundleInstaller.saved
    rw [hsave.2.1, hrow]
  unfold InnerSharedBundleInstaller.provisionAfter
  dsimp only
  rw [← hold]
  rcases install_cases installer param env t with
    ⟨hcheck, heq⟩ | ⟨hcheck, ⟨hextract, heq⟩ | ⟨hextract, ⟨hnot, heq⟩ | ⟨-, ⟨hmark, heq⟩ | ⟨hmark, heq⟩⟩⟩⟩ <;> rw [heq]
  · rw [if_pos hcheck]
  · rw [if_neg (not_not_intro hcheck), if_pos hextract]
    exact hrow
  · -- The record of a bundle that exists is always saved.
    have hexists := @save_existing _ installer env (installer.provided env t) old (by rw [hinfos, hold]; rfl)
      (t.bundleInfos.named _ old hold)
    unfold InnerSharedBundleInstaller.saved at hnot
    rw [hold, hexists] at hnot
    exact absurd rfl hnot
  · rw [if_neg (not_not_intro hcheck), if_neg (not_not_intro hextract), hold]
    refine Eq.trans ?_ hwritten
    unfold InnerSharedBundleInstaller.rollBack
    dsimp only
    cases hupdate : updateInnerBundleInfo (installer.written param env t) env.uuid old true with
    | none => rfl
    | some u =>
      rw [updateInnerBundleInfo_eq_some hupdate]
      rfl
  · rw [if_neg (not_not_intro hcheck), if_neg (not_not_intro hextract)]
    refine Eq.trans ?_ hwritten
    obtain ⟨info, -, hfinish⟩ := (mark_finish installer env (installer.written param env t)).1 hmark
    rw [hfinish]

theorem started_iff {bundleName : Str} (h : bundleName.isEmpty = false) :
    (updateInstallState t bundleName .INSTALL_START).installStates[bundleName]? = some .INSTALL_START ↔
      canStart t.installStates[bundleName]? = true := by
  unfold updateInstallState canStart
  rw [h]
  cases hcurrent : t.installStates[bundleName]? with
  | none => simp
  | some current =>
    cases htransfer : canTransfer .INSTALL_START current with
    | true => simp [htransfer, isDeleteDataState]
    | false => simp [htransfer, hcurrent]

theorem saved_fails_iff : (installer.saved env t).1 ≠ .ERR_OK ↔
    t.bundleInfos.map[installer.bundleName]? = none ∧ canStart t.installStates[installer.bundleName]? = false := by
  obtain ⟨hinfos, -, hstates, -⟩ := provided_keeps installer env (s := t)
  unfold InnerSharedBundleInstaller.saved
  cases hold : t.bundleInfos.map[installer.bundleName]? with
  | some old =>
    rw [save_existing installer env _ (by rw [hinfos, hold]; rfl) (t.bundleInfos.named _ old hold)]
    simp
  | none =>
    have hname := merged_bundleName installer t
    rw [hold] at hname
    have hstarted := started_iff (bundleName_nonempty installer) (t := installer.provided env t)
    rw [hstates] at hstarted
    have hrecord := (updateInstallState_keeps (s := installer.provided env t) installer.bundleName .INSTALL_START).1.trans hinfos
    unfold InnerSharedBundleInstaller.saveBundleInfoToStorage addInnerBundleInfo
    dsimp only
    rw [hname, bundleName_nonempty, hrecord, hold]
    cases hstart : canStart t.installStates[installer.bundleName]? with
    | true => simp [hstarted.mpr hstart]
    | false =>
      have hnot : ¬ (updateInstallState (installer.provided env t) installer.bundleName .INSTALL_START).installStates[
          installer.bundleName]? = some .INSTALL_START := by
        rw [hstarted, hstart]
        exact Bool.false_ne_true
      simp [hnot]

theorem mark_fails_iff (h : t.bundleInfos.map[installer.bundleName]?.isSome = true) :
    (installer.markInstallFinish env t).1 ≠ .ERR_OK ↔ env.saveFinish = false ∧ env.saveFinishAgain = false := by
  obtain ⟨info, hinfo⟩ := Option.isSome_iff_exists.mp h
  unfold InnerSharedBundleInstaller.markInstallFinish updateInnerBundleInfo
  rw [fetch_eq, hinfo]
  dsimp only
  rw [t.bundleInfos.named _ info hinfo, bundleName_nonempty, hinfo]
  cases env.saveFinish <;> cases env.saveFinishAgain <;> simp

theorem install_fails_iff : (installer.install param env t).1 ≠ .ERR_OK ↔ installer.Fails env t := by
  have hsaved := saved_fails_iff installer env (t := t)
  unfold InnerSharedBundleInstaller.Fails
  rcases install_cases installer param env t with
    ⟨hcheck, heq⟩ | ⟨hcheck, ⟨hextract, heq⟩ | ⟨hextract, ⟨hsave, heq⟩ | ⟨hsave, hmark⟩⟩⟩
  · rw [heq]
    exact ⟨fun _ => .inl hcheck, fun _ => hcheck⟩
  · rw [heq]
    exact ⟨fun _ => .inr (.inl hextract), fun _ => hextract⟩
  · rw [heq]
    exact ⟨fun _ => .inr (.inr (.inl (hsaved.mp hsave))), fun _ => hsave⟩
  have hrecord : (installer.written param env t).bundleInfos.map[installer.bundleName]?.isSome = true := by
    obtain ⟨hinfos, -, -⟩ := saveInstallParamInfo_keeps param env (installer.saved env t).2 installer.bundleName
    obtain ⟨-, -, ⟨-, started, -, -, hput⟩ | ⟨hnot, -⟩⟩ := save_cases installer env (installer.provided env t)
      t.bundleInfos.map[installer.bundleName]? (installer.mergeBundleInfos t.bundleInfos.map[installer.bundleName]?)
    · unfold InnerSharedBundleInstaller.written
      rw [hinfos]
      unfold InnerSharedBundleInstaller.saved
      rw [hput, put_getElem, updateOdid_bundleName, if_pos (merged_bundleName installer t)]
      rfl
    · exact absurd hsave hnot
  have hfinish := mark_fails_iff installer env hrecord
  have hrest : ¬ (t.bundleInfos.map[installer.bundleName]? = none ∧ canStart t.installStates[installer.bundleName]? = false) :=
    fun h => hsaved.mpr h hsave
  rcases hmark with ⟨hmark, heq⟩ | ⟨hmark, heq⟩
  · rw [heq]
    exact ⟨fun _ => .inr (.inr (.inr (hfinish.mp hmark))), fun _ => hmark⟩
  · rw [heq]
    constructor
    · intro hnot
      exact absurd rfl hnot
    · rintro (h | h | h | h)
      · exact absurd hcheck h
      · exact absurd hextract h
      · exact absurd h hrest
      · exact absurd hmark (hfinish.mpr h)

/-- When the record that is written back is the old one. -/
theorem updateOdid_eq_iff (h : Grown s t) {uuid name : Str} (huuid : uuid ≠ []) {old : InnerBundleInfo}
    (hold : s.bundleInfos.map[name]? = some old) : updateOdid t uuid old = old ↔
      (old.developerId = [] ∨ existingOdid s (extractGroupIdByDevelopId old.developerId) = some old.odid) := by
  unfold updateOdid
  cases hdeveloper : old.developerId.isEmpty with
  | true => simp [List.isEmpty_iff.mp hdeveloper]
  | false =>
    have hne : old.developerId ≠ [] := by simpa using hdeveloper
    have hrecord : ({ old with odid := generateOdid t uuid old.developerId } : InnerBundleInfo) = old ↔
        generateOdid t uuid old.developerId = old.odid :=
      ⟨fun heq => congrArg InnerBundleInfo.odid heq, fun heq => by rw [heq]⟩
    simp only [Bool.false_eq_true, if_false, hne, false_or]
    rw [hrecord]
    cases hexisting : existingOdid s (extractGroupIdByDevelopId old.developerId) with
    | some odid =>
      unfold generateOdid
      rw [h.existingOdid hexisting]
      simp
    | none =>
      -- The group had no odid, so the record had none, and it is given one now.
      have hempty : old.odid = [] := by
        have hnot := findExistingOdid_eq_none.mp (Option.or_eq_none_iff.mp hexisting).1 name old hold
        simpa [InnerBundleInfo.hasOdidOf] using hnot
      rw [hempty]
      simpa using generateOdid_nonempty t huuid old.developerId

end One

/-! ## The set -/

section Set

variable (param : InstallParam) (envs : Str → Env) (s : State ρ)

/-- Record and provision row are those before the call. -/
def Restored (s t : State ρ) (name : Str) : Prop :=
  t.bundleInfos.map[name]? = s.bundleInfos.map[name]? ∧ t.appProvisionInfos[name]? = s.appProvisionInfos[name]?

/-- The installers that ran, with the records they found before the call. -/
def runs (done : List (InnerSharedBundleInstaller ρ)) : SharedBundleInstaller.Processed ρ :=
  done.map fun inner => (inner, s.bundleInfos.map[inner.bundleName]?)

/-- The loop after the installers `done` with the installers `rest` before it. -/
structure Running (done rest : List (InnerSharedBundleInstaller ρ)) (t : State ρ) : Prop where
  grown : Grown s t
  untouched : ∀ name : Str, (∀ inner ∈ done, inner.bundleName ≠ name) →
    Restored s t name ∧ t.installStates[name]? = s.installStates[name]?
  rows : ∀ inner ∈ done, ∀ old, s.bundleInfos.map[inner.bundleName]? = some old →
    t.appProvisionInfos[inner.bundleName]? =
      inner.provisionAfter param (envs inner.bundleName) (some old) s.appProvisionInfos[inner.bundleName]?
  distinct : (done ++ rest).Pairwise fun a b => a.bundleName ≠ b.bundleName

variable {s} {t : State ρ}

theorem rollBackAll_effect {done : List (InnerSharedBundleInstaller ρ)} (h : Grown s t)
    (hdistinct : done.Pairwise fun a b => a.bundleName ≠ b.bundleName) :
    (∀ inner ∈ done, ∃ u : State ρ, Grown s u ∧
      (SharedBundleInstaller.rollBackAll envs (runs s done) t).bundleInfos.map[inner.bundleName]? =
        s.bundleInfos.map[inner.bundleName]?.map (updateOdid u (envs inner.bundleName).uuid) ∧
      (SharedBundleInstaller.rollBackAll envs (runs s done) t).appProvisionInfos[inner.bundleName]? =
        if s.bundleInfos.map[inner.bundleName]?.isSome then t.appProvisionInfos[inner.bundleName]? else none) ∧
    ∀ name : Str, (∀ inner ∈ done, inner.bundleName ≠ name) →
      Restored t (SharedBundleInstaller.rollBackAll envs (runs s done) t) name := by
  induction done generalizing t with
  | nil => exact ⟨fun _ hmem => absurd hmem List.not_mem_nil, fun _ _ => ⟨rfl, rfl⟩⟩
  | cons inner rest ih =>
    obtain ⟨hfirst, hrest⟩ := List.pairwise_cons.mp hdistinct
    obtain ⟨hgrown, hrecord, hrow⟩ := rollBack_effect inner (envs inner.bundleName) h
    have hframe : Frame t (inner.rollBack (envs inner.bundleName) s.bundleInfos.map[inner.bundleName]? t) inner.bundleName :=
      frame_rollBack inner _ t fun info hinfo => s.bundleInfos.named _ info hinfo
    obtain ⟨hback, hother⟩ := ih hgrown hrest
    refine ⟨fun run hrun => ?_, fun name hname => ?_⟩
    · rcases List.mem_cons.mp hrun with rfl | hrun
      · -- The rollbacks after this one leave its bundle alone.
        obtain ⟨hsame, hsame'⟩ := hother run.bundleName fun later hlater => (hfirst later hlater).symm
        exact ⟨t, h, hsame.trans hrecord, hsame'.trans hrow⟩
      · obtain ⟨u, hu, hrecord', hrow'⟩ := hback run hrun
        refine ⟨u, hu, hrecord', hrow'.trans ?_⟩
        rw [hframe.provision run.bundleName (hfirst run hrun).symm]
    · obtain ⟨hsame, hsame'⟩ := hother name fun later hlater => hname later (List.mem_cons_of_mem _ hlater)
      have hne := (hname inner List.mem_cons_self).symm
      exact ⟨hsame.trans (hframe.record name hne), hsame'.trans (hframe.provision name hne)⟩

/-- One turn of the loop. -/
theorem Running.install {done rest : List (InnerSharedBundleInstaller ρ)} {inner : InnerSharedBundleInstaller ρ}
    (h : Running param envs s done (inner :: rest) t) :
    Running param envs s (inner :: done) rest (inner.install param (envs inner.bundleName) t).2.1 ∧
      (inner.install param (envs inner.bundleName) t).2.2 = s.bundleInfos.map[inner.bundleName]? ∧
      ((inner.install param (envs inner.bundleName) t).1 ≠ .ERR_OK ↔ inner.Fails (envs inner.bundleName) s) := by
  have hfresh : ∀ other ∈ done, other.bundleName ≠ inner.bundleName :=
    fun other hother => (List.pairwise_append.mp h.distinct).2.2 other hother inner List.mem_cons_self
  obtain ⟨⟨hrecord, hrow⟩, hstate⟩ := h.untouched inner.bundleName hfresh
  have hframe := frame_install inner param (envs inner.bundleName) t
  refine ⟨⟨h.grown.install inner param _ hrecord, fun name hname => ?_, fun run hrun old hold => ?_, ?_⟩, ?_, ?_⟩
  · have hne := (hname inner List.mem_cons_self).symm
    obtain ⟨⟨hrecord', hrow'⟩, hstate'⟩ := h.untouched name fun other hother => hname other (List.mem_cons_of_mem _ hother)
    exact ⟨⟨(hframe.record name hne).trans hrecord', (hframe.provision name hne).trans hrow'⟩,
      (hframe.installState name hne).trans hstate'⟩
  · rcases List.mem_cons.mp hrun with rfl | hrun
    · rw [install_provision run param _ (hrecord.trans hold), hrow]
    · rw [hframe.provision run.bundleName (hfresh run hrun)]
      exact h.rows run hrun old hold
  · exact (List.perm_middle.pairwise_iff fun hne => hne.symm).mp h.distinct
  · rcases install_cases inner param (envs inner.bundleName) t with
      ⟨-, heq⟩ | ⟨-, ⟨-, heq⟩ | ⟨-, ⟨-, heq⟩ | ⟨-, ⟨-, heq⟩ | ⟨-, heq⟩⟩⟩⟩ <;> rw [heq] <;> exact hrecord
  · rw [install_fails_iff]
    unfold InnerSharedBundleInstaller.Fails
    rw [hrecord, hstate]

/-- A run that fails ends with the rollback of the installers up to the first one that fails. -/
theorem Running.fails {done rest : List (InnerSharedBundleInstaller ρ)} (h : Running param envs s done rest t)
    (hfail : (SharedBundleInstaller.installLoop param envs rest (runs s done) t).1 ≠ .ERR_OK) :
    ∃ before inner after u, rest = before ++ inner :: after ∧
      (∀ other ∈ before, ¬ other.Fails (envs other.bundleName) s) ∧ inner.Fails (envs inner.bundleName) s ∧
      Running param envs s (inner :: before.reverse ++ done) after u ∧
      (SharedBundleInstaller.installLoop param envs rest (runs s done) t).2 =
        SharedBundleInstaller.rollBackAll envs (runs s (inner :: before.reverse ++ done)) u := by
  induction rest generalizing done t with
  | nil => exact absurd rfl hfail
  | cons inner rest ih =>
    obtain ⟨hrunning, hold, hfails⟩ := h.install
    unfold SharedBundleInstaller.installLoop at hfail ⊢
    dsimp only at hfail ⊢
    have hruns : (inner, (inner.install param (envs inner.bundleName) t).2.2) :: runs s done = runs s (inner :: done) := by
      rw [hold]
      rfl
    rw [hruns] at hfail ⊢
    split
    · next hok =>
      rw [if_pos hok] at hfail
      obtain ⟨before, last, after, u, rfl, hbefore, hlast, hrun, heq⟩ := ih hrunning hfail
      refine ⟨inner :: before, last, after, u, rfl, ?_, hlast, ?_, ?_⟩
      · intro other hother
        rcases List.mem_cons.mp hother with rfl | hother
        · exact fun hnot => hfails.mpr hnot hok
        · exact hbefore other hother
      · simpa using hrun
      · simpa using heq
    · next hnot =>
      exact ⟨[], inner, rest, _, rfl, fun _ hmem => absurd hmem List.not_mem_nil, hfails.mp hnot, hrunning, rfl⟩

/-- The rollback brings one bundle back just when it can be restored. -/
theorem Running.restored_iff {done rest : List (InnerSharedBundleInstaller ρ)} (h : Running param envs s done rest t)
    {inner : InnerSharedBundleInstaller ρ} (hinner : inner ∈ done) :
    Restored s (SharedBundleInstaller.rollBackAll envs (runs s done) t) inner.bundleName ↔
      inner.Restorable param (envs inner.bundleName) s := by
  obtain ⟨u, hu, hrecord, hrow⟩ := (rollBackAll_effect envs h.grown (List.pairwise_append.mp h.distinct).1).1 inner hinner
  unfold Restored InnerSharedBundleInstaller.Restorable
  rw [hrecord, hrow]
  cases hold : s.bundleInfos.map[inner.bundleName]? with
  | none => simp [eq_comm]
  | some old =>
    rw [h.rows inner hinner old hold]
    simp only [Option.map_some, Option.isSome_some, if_true, Option.some_inj]
    rw [updateOdid_eq_iff hu (envs inner.bundleName).uuid_nonempty hold]

/-- No installer before this one fails. -/
def Reached (s : State ρ) (inners : List (InnerSharedBundleInstaller ρ)) (inner : InnerSharedBundleInstaller ρ) : Prop :=
  ∃ before after, inners = before ++ inner :: after ∧ ∀ other ∈ before, ¬ other.Fails (envs other.bundleName) s

theorem reached_iff {before after : List (InnerSharedBundleInstaller ρ)} {inner : InnerSharedBundleInstaller ρ}
    (hbefore : ∀ other ∈ before, ¬ other.Fails (envs other.bundleName) s) (hfails : inner.Fails (envs inner.bundleName) s)
    (run : InnerSharedBundleInstaller ρ) : Reached envs s (before ++ inner :: after) run ↔ run ∈ inner :: before.reverse := by
  constructor
  · rintro ⟨before', after', hsplit, hreached⟩
    rcases List.append_eq_append_iff.mp hsplit with ⟨between, rfl, hrest⟩ | ⟨between, rfl, hrest⟩
    · cases between with
      | nil => simp [(List.cons.inj hrest).1]
      | cons other between =>
        obtain ⟨rfl, -⟩ := List.cons.inj hrest
        exact absurd hfails (hreached inner (by simp))
    · cases between with
      | nil => simp [(List.cons.inj hrest).1]
      | cons other between => simp [(List.cons.inj hrest).1]
  · intro hrun
    rcases List.mem_cons.mp hrun with rfl | hrun
    · exact ⟨before, after, rfl, hbefore⟩
    · obtain ⟨first, second, rfl⟩ := List.append_of_mem (List.mem_reverse.mp hrun)
      exact ⟨first, second ++ inner :: after, by simp, fun other hother => hbefore other (by simp [hother])⟩

/-- A failed installation leaves the set as it was just when every bundle up to the one that failed can be restored. -/
theorem failed_install_restores_iff (installer : SharedBundleInstaller ρ) (s : State ρ)
    (hfail : (installer.install param envs s).1 ≠ .ERR_OK) :
    (∀ inner ∈ installer.innerInstallers, Restored s (installer.install param envs s).2 inner.bundleName) ↔
      ∀ inner, Reached envs s installer.innerInstallers inner → inner.Restorable param (envs inner.bundleName) s := by
  have hstart : Running param envs s [] installer.innerInstallers s :=
    ⟨.refl s, fun _ _ => ⟨⟨rfl, rfl⟩, rfl⟩, fun _ hmem => absurd hmem List.not_mem_nil, installer.distinct⟩
  obtain ⟨before, last, after, u, hsplit, hbefore, hlast, hrun, heq⟩ := hstart.fails param envs hfail
  have hfinal : (installer.install param envs s).2 =
      SharedBundleInstaller.rollBackAll envs (runs s (last :: before.reverse ++ [])) u := heq
  rw [hsplit, hfinal]
  simp only [reached_iff envs hbefore hlast]
  rw [List.append_nil] at hrun ⊢
  constructor
  · intro hall inner hinner
    refine (hrun.restored_iff param envs hinner).mp (hall inner ?_)
    rcases List.mem_cons.mp hinner with rfl | hinner
    · simp
    · simp [List.mem_reverse.mp hinner]
  · intro hall inner hmem
    by_cases hdone : inner ∈ last :: before.reverse
    · exact (hrun.restored_iff param envs hdone).mpr (hall inner hdone)
    -- The installers after the one that failed were not run.
    have hafter : inner ∈ after := by
      simp only [List.mem_append, List.mem_cons] at hmem
      simp only [List.mem_cons, List.mem_reverse, not_or] at hdone
      rcases hmem with hmem | hmem | hmem
      · exact absurd hmem hdone.2
      · exact absurd hmem hdone.1
      · exact hmem
    obtain ⟨hdistinct, -, hcross⟩ := List.pairwise_append.mp hrun.distinct
    have hother : ∀ run ∈ last :: before.reverse, run.bundleName ≠ inner.bundleName :=
      fun run hrunning => hcross run hrunning inner hafter
    obtain ⟨hrecord, hrow⟩ := (rollBackAll_effect envs hrun.grown hdistinct).2 inner.bundleName hother
    obtain ⟨⟨hrecord', hrow'⟩, -⟩ := hrun.untouched inner.bundleName hother
    exact ⟨hrecord.trans hrecord', hrow.trans hrow'⟩

end Set

/-! ## An update that cannot be extracted -/

/-- An update of the bundle `b` with the signature 2. -/
def signedUpdate : InnerSharedBundleInstaller Nat where
  bundleName := ['b']
  first := packageOfB 2
  others := []
  signed := 2
  named := by simp [packageOfB]

def setOfSignedUpdate : SharedBundleInstaller Nat := SharedBundleInstaller.add {} signedUpdate

/-- The bundle is installed, with the signature 1. -/
def installedSigned : State Nat where
  bundleInfos := recordsOfB 1
  appProvisionInfos := (∅ : StrMap _).insert ['b'] { signed := 1 }

def extractFails : Str → Env := fun _ => { extractSharedBundles := .other 1 }

theorem failed_update_restores_iff :
    (setOfSignedUpdate.install {} extractFails installedSigned).1 ≠ .ERR_OK ∧
      ((∀ inner ∈ setOfSignedUpdate.innerInstallers,
          Restored installedSigned (setOfSignedUpdate.install {} extractFails installedSigned).2 inner.bundleName) ↔
        ∀ inner, Reached extractFails installedSigned setOfSignedUpdate.innerInstallers inner →
          inner.Restorable {} (extractFails inner.bundleName) installedSigned) :=
  ⟨by decide +kernel, failed_install_restores_iff {} extractFails setOfSignedUpdate installedSigned (by decide +kernel)⟩

/-- The signature of the update stays. -/
theorem failed_update_keeps_its_provision_row :
    ¬ ∀ (installer : SharedBundleInstaller Nat) (param : InstallParam) (envs : Str → Env) (s : State Nat),
      (installer.install param envs s).1 ≠ .ERR_OK →
        ∀ inner ∈ installer.innerInstallers, Restored s (installer.install param envs s).2 inner.bundleName := by
  intro h
  have hrow := (h setOfSignedUpdate {} extractFails installedSigned (by decide +kernel) signedUpdate
    List.mem_cons_self).2
  have hdiffers : (setOfSignedUpdate.install {} extractFails installedSigned).2.appProvisionInfos[(['b'] : Str)]? ≠
      installedSigned.appProvisionInfos[(['b'] : Str)]? := by decide +kernel
  exact hdiffers hrow

end BundleFramework.SharedBundle
