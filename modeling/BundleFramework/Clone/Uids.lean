import BundleFramework.Clone.Ledger

/-!
# The uids of the clones

`GenerateUidAndGid` gives a clone the uid of the id that stands under its key in `bundleIdMap_`.  The
id stays there while the clone does: the other applications give back ids of their own, and at a start
the record registers it again.  So no two clones have one uid (`OwnUids.apart`).

The answer of `GenerateUidAndGid` is not looked at: without an id, the clone gets `INVALID_UID`.
-/

namespace BundleFramework.CloneInstaller

open CloneIndex Std StepRun

/-- The uid comes from the id under the clone's key. -/
def Registered (ids : BundleIds) (bundleName : Str) (clone : CloneIndex.InnerBundleCloneInfo) : Prop :=
  ∃ id, clone.uid = uidOf clone.userId id ∧ ids.bundleIdMap[id]? = some (getCloneBundleIdKey bundleName clone.appIndex)

structure OwnUids (c : Config) (s : CloneMgr) : Prop where
  wf : s.ids.WF c.baseAppUid
  registered : ∀ clone, HasClone s.info clone → Registered s.ids s.info.bundleName clone
  placed : ∀ place clone, clone? s.info place = some clone → clone.userId = place.1 ∧ clone.appIndex = place.2

/-- What is relied on: there is an id for a new clone, no other application gives back the id of a
clone, and at a start the entries of the others leave the clones theirs and contradict nothing. -/
def Op.IdsOk (c : Config) (s : CloneMgr) : Op → Prop
  | .install userId appIndex a => ∀ place, target c s userId appIndex = some place →
      ∃ id, (BundleFramework.generateUidAndGid c.baseAppUid a.access s.ids (s.tmpUserInfo place)).1 = .ok id
  | .uninstall _ _ _ | .other (.generate _ _) => True
  | .other (.recycle _ info) => ∀ clone, HasClone s.info clone → info.bundleId? ≠ some (bundleIdOf clone.uid clone.userId)
  | .reboot hasBmsPara others => (s.reboot c hasBmsPara others).ids.WF c.baseAppUid ∧
      ∀ clone, HasClone s.stored clone → ∀ item ∈ others.after, item.1 ≠ bundleIdOf clone.uid clone.userId

variable {c : Config} {s s' : CloneMgr} {place : Place}

/-- **A uid belongs to one clone.** -/
theorem OwnUids.apart (h : OwnUids c s) {p q : Place} {clone clone' : CloneIndex.InnerBundleCloneInfo}
    (hp : clone? s.info p = some clone) (hq : clone? s.info q = some clone') (huid : clone.uid = clone'.uid) : p = q := by
  obtain ⟨id, hid, hget⟩ := h.registered clone (.of_clone? hp)
  obtain ⟨id', hid', hget'⟩ := h.registered clone' (.of_clone? hq)
  obtain ⟨huser, hindex⟩ := h.placed p clone hp
  obtain ⟨huser', hindex'⟩ := h.placed q clone' hq
  have hbounds := h.wf.inRange id _ hget
  have hbounds' := h.wf.inRange id' _ hget'
  have hlt := bundleId_bounds hbounds.1 hbounds.2
  have hlt' := bundleId_bounds hbounds'.1 hbounds'.2
  rw [hid, hid'] at huid
  unfold uidOf at huid
  unfold BASE_USER_RANGE at huid hlt hlt'
  have huserEq : clone.userId = clone'.userId := by omega
  have hidEq : id = id' := by omega
  subst hidEq
  have hkey := getCloneBundleIdKey_injective (Option.some.inj (hget.symm.trans hget'))
  exact Prod.ext (huser.symm.trans (huserEq.trans huser')) (hindex.symm.trans (hkey.2.trans hindex'))

/-! ## Calls -/

/-- The ids that the clones have stay theirs. -/
def KeepsIds (s : CloneMgr) (ids : BundleIds) : Prop :=
  ∀ clone, HasClone s.info clone → ∀ id : Int, clone.uid = uidOf clone.userId id →
    s.ids.bundleIdMap[id]? = some (getCloneBundleIdKey s.info.bundleName clone.appIndex) →
    ids.bundleIdMap[id]? = some (getCloneBundleIdKey s.info.bundleName clone.appIndex)

theorem OwnUids.withIds (h : OwnUids c s) {ids : BundleIds} (hwf : ids.WF c.baseAppUid) (hkeep : KeepsIds s ids) :
    OwnUids c { s with ids } where
  wf := hwf
  registered clone hclone := by
    obtain ⟨id, huid, hget⟩ := h.registered clone hclone
    exact ⟨id, huid, hkeep clone hclone id huid hget⟩
  placed := h.placed

theorem OwnUids.congr (h : OwnUids c s) (hinfo : s'.info = s.info) (hids : s'.ids = s.ids) : OwnUids c s' where
  wf := hids ▸ h.wf
  registered clone hclone := by
    rw [hids, hinfo]
    exact h.registered clone (hinfo ▸ hclone)
  placed p clone hclone := h.placed p clone (hinfo ▸ hclone)

theorem OwnUids.put (h : OwnUids c s) {clone : CloneIndex.InnerBundleCloneInfo} (hput : Put s.info s'.info place clone)
    (hids : s'.ids = s.ids) (hnew : Registered s.ids s.info.bundleName clone)
    (hplaced : clone.userId = place.1 ∧ clone.appIndex = place.2) : OwnUids c s' where
  wf := hids ▸ h.wf
  registered other hother := by
    rw [hids, hput.bundleName]
    rcases hput.has other hother with hold | rfl
    · exact h.registered other hold
    · exact hnew
  placed p other hother := by
    rw [hput.get] at hother
    split at hother
    · next hp =>
      cases hother
      exact hp ▸ hplaced
    · exact h.placed p other hother

theorem OwnUids.takenOut (h : OwnUids c s) (hout : TakenOut s.info s'.info place) (hids : s'.ids = s.ids) : OwnUids c s' where
  wf := hids ▸ h.wf
  registered other hother := by
    rw [hids, hout.bundleName]
    exact h.registered other (hout.has other hother)
  placed p other hother := by
    rw [hout.get] at hother
    split at hother
    · cases hother
    · exact h.placed p other hother

/-! ## Install -/

theorem tmpUserInfo_bundleName (s : CloneMgr) (place : Place) : (s.tmpUserInfo place).bundleName ≠ [] := by
  unfold CloneMgr.tmpUserInfo getCloneBundleIdKey UNDER_LINE
  simp

theorem OwnUids.generated (h : OwnUids c s) (a : InstallAnswers) (place : Place) :
    OwnUids c (s.generateUidAndGid c a place).2 := by
  have htable := @generateUidAndGid_table c.baseAppUid a.access s.ids _ (tmpUserInfo_bundleName s place)
  refine h.withIds ?_ ?_
  · rw [htable]
    exact h.wf.generate a.access _
  · intro clone _ id _ hget
    rw [htable]
    exact generateBundleId_keeps hget

/-- The clone that is made has the id that was generated for it. -/
theorem OwnUids.registered_new (h : OwnUids c s) {a : InstallAnswers} {place : Place} {token : AccessTokenIDEx}
    (hok : ∃ id, (BundleFramework.generateUidAndGid c.baseAppUid a.access s.ids (s.tmpUserInfo place)).1 = .ok id)
    {clone : CloneIndex.InnerBundleCloneInfo}
    (hclone : CloneOf (CloneMgr.cloneAttr place (s.generateUidAndGid c a place).1 token) clone) :
    Registered (s.generateUidAndGid c a place).2.ids s.info.bundleName clone := by
  obtain ⟨id, hid⟩ := hok
  obtain ⟨-, -, huid, hget⟩ := generateUidAndGid_ok h.wf hid
  refine ⟨id, ?_, ?_⟩
  · rw [hclone.uid, hclone.userId]
    exact huid
  · rw [hclone.appIndex]
    exact hget

theorem OwnUids.outcome {s₁ : CloneMgr} (h : OwnUids c s₁) {a : InstallAnswers} {userInfo : InnerBundleUserInfo}
    {token : AccessTokenIDEx} (hout : Outcome a place userInfo token s₁ s')
    (hnew : ∀ clone, CloneOf (CloneMgr.cloneAttr place userInfo token) clone → Registered s₁.ids s₁.info.bundleName clone) :
    OwnUids c s' := by
  unfold Outcome at hout
  split at hout
  · obtain ⟨clone, hclone, hput⟩ := hout.put
    exact h.put hput hout.ids (hnew clone hclone) ⟨hclone.userId, hclone.appIndex⟩
  · exact h.congr hout.info hout.ids

theorem OwnUids.install (h : OwnUids c s) (hsame : s.info = s.stored) {userId appIndex : Int} {a : InstallAnswers}
    (hok : Op.IdsOk c s (.install userId appIndex a)) : OwnUids c (step c s (.install userId appIndex a)) := by
  have hcase := @install_cases c s a userId appIndex hsame
  cases htarget : target c s userId appIndex with
  | none =>
    rw [htarget] at hcase
    generalize step c s (.install userId appIndex a) = s' at hcase ⊢
    cases hcase
    exact h
  | some place =>
    have hid := hok place htarget
    have hgenerated := h.generated a place
    rw [htarget] at hcase
    generalize step c s (.install userId appIndex a) = s' at hcase ⊢
    cases hcase with
    | noToken => exact hgenerated
    | recovered _ _ _ _ hout => exact hgenerated.outcome hout fun clone hclone => h.registered_new hid hclone
    | @fresh _ token _ _ _ _ hout =>
      have hinit : OwnUids c ((s.generateUidAndGid c a place).2.initHapToken a place token.tokenID) :=
        hgenerated.congr rfl rfl
      exact hinit.outcome hout fun clone hclone => h.registered_new hid hclone

/-! ## Start of the service -/

/-- The last entry of an id stands. -/
theorem getElem?_restoreEntries {id : Int} {key : Str} (before entries : List (Int × Str)) (hmem : (id, key) ∈ entries)
    (hall : ∀ item ∈ entries, item.1 = id → item.2 = key) : (CloneMgr.restoreEntries (before ++ entries))[id]? = some key := by
  have hkept : ∀ (l : List (Int × Str)) (m : ExtTreeMap Int Str), (∀ item ∈ l, item.1 = id → item.2 = key) →
      (id, key) ∈ l ∨ m[id]? = some key → (l.foldl (fun m item => m.insert item.1 item.2) m)[id]? = some key := by
    intro l
    induction l with
    | nil =>
      intro m _ hstart
      exact hstart.resolve_left List.not_mem_nil
    | cons item rest ih =>
      intro m hitems hstart
      refine ih _ (fun other hother => hitems other (List.mem_cons_of_mem _ hother)) ?_
      rw [MapLoop.getElem?_insert_eq]
      by_cases hid : id = item.1
      · rw [if_pos hid, hitems item List.mem_cons_self hid.symm]
        exact .inr rfl
      · rw [if_neg hid]
        rcases hstart with hin | hget
        · rcases List.mem_cons.mp hin with rfl | hrest
          · exact absurd rfl hid
          · exact .inl hrest
        · exact .inr hget
  unfold CloneMgr.restoreEntries
  rw [List.foldl_append]
  exact hkept entries _ hall (.inl hmem)

/-- What is restored from the rows does not touch the ids of the records. -/
theorem restoreFromUninstallInfo_keeps (ex : StringEx) (uninstalled : UninstallTable) (bundleIdMap : ExtTreeMap Int Str)
    {id : Int} {key : Str} (hget : bundleIdMap[id]? = some key) :
    (restoreUidAndGidFromUninstallInfo ex uninstalled bundleIdMap)[id]? = some key := by
  unfold restoreUidAndGidFromUninstallInfo
  dsimp only
  generalize (ExtTreeMap.toList (uninstalled.toList.foldl
    (fun ids info => info.2.toList.foldl (uninstallUserStep ex bundleIdMap info.1) ids) ∅)) = rows
  induction rows generalizing bundleIdMap with
  | nil => exact hget
  | cons row rest ih =>
    refine ih _ ?_
    rw [MapLoop.getElem?_insertIfNew_eq]
    split
    · next hid => rw [← hid, hget, Option.getD_some]
    · exact hget

theorem mem_cloneEntries {info : CloneIndex.InnerBundleInfo} {item : Int × Str} : item ∈ CloneMgr.cloneEntries info ↔
    ∃ clone, HasClone info clone ∧
      item = (bundleIdOf clone.uid clone.userId, getCloneBundleIdKey info.bundleName clone.appIndex) := by
  unfold CloneMgr.cloneEntries HasClone
  rw [List.mem_flatMap]
  constructor
  · rintro ⟨⟨userKey, user⟩, huser, hitem⟩
    obtain ⟨⟨key, clone⟩, hclone, rfl⟩ := List.mem_map.mp hitem
    exact ⟨clone, ⟨userKey, user, ExtTreeMap.mem_toList_iff_getElem?_eq_some.mp huser, key,
      ExtTreeMap.mem_toList_iff_getElem?_eq_some.mp hclone⟩, rfl⟩
  · rintro ⟨clone, ⟨userKey, user, huser, key, hclone⟩, rfl⟩
    refine ⟨(userKey, user), ExtTreeMap.mem_toList_iff_getElem?_eq_some.mpr huser, ?_⟩
    exact List.mem_map.mpr ⟨(key, clone), ExtTreeMap.mem_toList_iff_getElem?_eq_some.mpr hclone, rfl⟩

/-- The clones get their ids back. -/
theorem OwnUids.keepsIds_restore (h : OwnUids c s) (hasBmsPara : Bool) {others : CloneMgr.Others}
    (hafter : ∀ clone, HasClone s.info clone → ∀ item ∈ others.after, item.1 ≠ bundleIdOf clone.uid clone.userId) :
    KeepsIds s (s.restoreUidAndGid c hasBmsPara others) := by
  intro clone hclone id huid hget
  have hid : bundleIdOf clone.uid clone.userId = id := by rw [huid, bundleIdOf_uidOf]
  refine restoreFromUninstallInfo_keeps c.ex _ _ ?_
  rw [List.append_assoc]
  refine getElem?_restoreEntries others.before _ ?_ ?_
  · exact List.mem_append_left _ (mem_cloneEntries.mpr ⟨clone, hclone, by rw [hid]⟩)
  · intro item hitem hitemId
    rcases List.mem_append.mp hitem with hclones | hothers
    · -- another clone with this id has the same key
      obtain ⟨other, hother, rfl⟩ := mem_cloneEntries.mp hclones
      obtain ⟨id', huid', hget'⟩ := h.registered other hother
      dsimp only at hitemId ⊢
      rw [huid', bundleIdOf_uidOf] at hitemId
      rw [hitemId, hget] at hget'
      exact (Option.some.inj hget').symm
    · exact absurd (hitemId.trans hid.symm) (hafter clone hclone item hothers)

/-! ## Steps -/

theorem OwnUids.step (h : OwnUids c s) (hsame : s.info = s.stored) {op : Op} (hbase : op.Ok s) (hok : op.IdsOk c s) :
    OwnUids c (step c s op) := by
  cases op with
  | install userId appIndex a => exact h.install hsame hok
  | uninstall place isKeepData a =>
    have hcase := @uninstall_cases c s a hbase.1 place isKeepData
    generalize CloneInstaller.step c s (.uninstall place isKeepData a) = s' at hcase ⊢
    cases hcase with
    | refused => exact h
    | clear _ _ hclear => exact h.congr hclear.info hclear.ids
    | remove _ hremove => exact h.takenOut hremove.info hremove.ids
    | keep _ hkeep => exact h.takenOut hkeep.info hkeep.ids
  | other op =>
    cases op with
    | generate access bundleName =>
      exact h.withIds (h.wf.generate access bundleName) fun _ _ _ _ hget => generateBundleId_keeps hget
    | recycle uninstalled info =>
      refine h.withIds (h.wf.recycle uninstalled info) ?_
      intro clone hclone id huid hget
      rcases recycleUidAndGid_cases uninstalled s.ids info with hsame | ⟨recycled, hid, -, herase⟩
      · show (recycleUidAndGid uninstalled s.ids info).bundleIdMap[id]? = _
        rw [hsame]
        exact hget
      · have hne : id ≠ recycled := by
          intro heq
          refine hok clone hclone (hid.trans ?_)
          rw [huid, bundleIdOf_uidOf, heq]
        show (recycleUidAndGid uninstalled s.ids info).bundleIdMap[id]? = _
        rw [herase]
        dsimp only
        rw [MapLoop.getElem?_erase_eq, if_neg hne]
        exact hget
  | reboot hasBmsPara others =>
    obtain ⟨hwf, hafter⟩ := hok
    show OwnUids c (s.reboot c hasBmsPara others)
    rw [reboot_eq hsame] at hwf ⊢
    exact h.withIds hwf (h.keepsIds_restore hasBmsPara (hsame ▸ hafter))

/-! ## Runs -/

end BundleFramework.CloneInstaller
