import BundleFramework.Clone.Cases
import BundleFramework.Lib.Ledger
import BundleFramework.Lib.StepRun

/-!
# The ledger of the clones

While the storage takes what is written, every clone has a token of its own and its directories, and so
have the data that are kept, whatever else fails (`Sound.step`).

The guard of the directories knows kept data by the uid of their row: data of a clone that was made
without an id are not safe from it.
-/

namespace BundleFramework.CloneInstaller

open CloneIndex StepRun

/-- The token of a place: its clone's, or else the one of the data kept for it. -/
def CloneMgr.tokenAt (s : CloneMgr) (place : Place) : Option UInt32 :=
  match clone? s.info place with
  | some clone => some clone.accessTokenId
  | none => (s.row? place).map (·.accessTokenId)

/-- What is relied on: new tokens are new, to the rows as well, and the storage writes what it is given
when a clone is removed and when a row is. -/
def Op.Ok (s : CloneMgr) : Op → Prop
  | .install _ _ a => a.deleteRow = true ∧ ∀ token, a.initHapToken = some token →
      token.tokenID ∉ s.tokens ∧ ∀ p, s.tokenAt p ≠ some token.tokenID
  | .uninstall _ _ a => a.save = true ∧ a.deleteRow = true
  | .other _ | .reboot _ _ => True

/-- A clone and a row have what they name. -/
structure PlaceOk (s : CloneMgr) (place : Place) : Prop where
  live : ∀ clone, clone? s.info place = some clone → clone.accessTokenId ∈ s.tokens
  half : ∀ clone, clone? s.info place = some clone → clone.accessTokenIdEx.toUInt32 = clone.accessTokenId
  dir : ∀ clone, clone? s.info place = some clone → place ∈ s.dataDirs
  rowHalf : ∀ row, s.row? place = some row → row.accessTokenIdEx.toUInt32 = row.accessTokenId
  rowVacant : ∀ row, s.row? place = some row → clone? s.info place = none
  rowDir : ∀ row, s.row? place = some row → row.uid ≠ INVALID_UID → place ∈ s.dataDirs

structure Sound (s : CloneMgr) : Prop where
  same : s.info = s.stored
  place : ∀ place, PlaceOk s place
  apart : Ledger.Apart s.tokenAt

variable {c : Config} {s s' : CloneMgr} {a : InstallAnswers} {place p : Place}

theorem tokenAt_of_clone {clone : CloneIndex.InnerBundleCloneInfo} (hclone : clone? s.info place = some clone) :
    s.tokenAt place = some clone.accessTokenId := by
  unfold CloneMgr.tokenAt
  rw [hclone]

theorem tokenAt_of_vacant (hvacant : clone? s.info place = none) :
    s.tokenAt place = (s.row? place).map (·.accessTokenId) := by
  unfold CloneMgr.tokenAt
  rw [hvacant]

theorem tokenAt_of_row (hvacant : clone? s.info place = none) {row : UninstallDataUserInfo} (hrow : s.row? place = some row) :
    s.tokenAt place = some row.accessTokenId := by
  rw [tokenAt_of_vacant hvacant, hrow]
  rfl

theorem row?_congr (h : s'.userInfos = s.userInfos) (p : Place) : s'.row? p = s.row? p := by
  unfold CloneMgr.row?
  rw [h]

theorem tokenAt_congr (hclone : clone? s'.info p = clone? s.info p) (hrow : s'.row? p = s.row? p) :
    s'.tokenAt p = s.tokenAt p := by
  unfold CloneMgr.tokenAt
  rw [hclone, hrow]

/-- The ids do not matter here. -/
theorem Sound.withIds (h : Sound s) (ids : BundleIds) : Sound { s with ids } where
  same := h.same
  place p := {
    live := (h.place p).live
    half := (h.place p).half
    dir := (h.place p).dir
    rowHalf := (h.place p).rowHalf
    rowVacant := (h.place p).rowVacant
    rowDir := (h.place p).rowDir }
  apart := h.apart

/-! ## One place changes -/

/-- Only what belongs to the place differs. -/
structure Elsewhere (place : Place) (s s' : CloneMgr) : Prop where
  clone : ∀ p, p ≠ place → clone? s'.info p = clone? s.info p
  row : ∀ p, p ≠ place → s'.row? p = s.row? p
  dir : ∀ p, p ≠ place → (p ∈ s'.dataDirs ↔ p ∈ s.dataDirs)

theorem Elsewhere.tokenAt_eq (h : Elsewhere place s s') :
    s'.tokenAt = Function.update s.tokenAt place (s'.tokenAt place) := by
  funext p
  rw [Function.update_apply]
  split
  · next hp => rw [hp]
  · next hp => exact tokenAt_congr (h.clone p hp) (h.row p hp)

theorem Elsewhere.tokenAt_eq_self (h : Elsewhere place s s') (hplace : s'.tokenAt place = s.tokenAt place) :
    s'.tokenAt = s.tokenAt := by rw [h.tokenAt_eq, hplace, Function.update_eq_self]

/-- **Step rule**: what has to be shown of a call that changes one place. -/
theorem Sound.change (h : Sound s) (helse : Elsewhere place s s') (hsame : s'.info = s'.stored)
    (hlive : ∀ p clone, p ≠ place → clone? s.info p = some clone → clone.accessTokenId ∈ s'.tokens)
    (hplace : PlaceOk s' place)
    (hfree : ∀ q token, s'.tokenAt place = some token → s.tokenAt q = some token → q = place) : Sound s' := by
  refine { same := hsame, place := fun p => ?_, apart := ?_ }
  · by_cases hp : p = place
    · exact hp ▸ hplace
    have hclone := helse.clone p hp
    have hrow := helse.row p hp
    have hok := h.place p
    refine {
      live := fun clone hget => ?_
      half := fun clone hget => hok.half clone (hclone ▸ hget)
      dir := fun clone hget => (helse.dir p hp).mpr (hok.dir clone (hclone ▸ hget))
      rowHalf := fun row hget => hok.rowHalf row (hrow ▸ hget)
      rowVacant := fun row hget => hclone.trans (hok.rowVacant row (hrow ▸ hget))
      rowDir := fun row hget huid => (helse.dir p hp).mpr (hok.rowDir row (hrow ▸ hget) huid) }
    rw [hclone] at hget
    exact hlive p clone hp hget
  · rw [helse.tokenAt_eq]
    exact h.apart.update hfree

/-- A place without a clone: only what is kept for it matters. -/
theorem PlaceOk.of_vacant (hclone : clone? s.info place = none)
    (hhalf : ∀ row, s.row? place = some row → row.accessTokenIdEx.toUInt32 = row.accessTokenId)
    (hdir : ∀ row, s.row? place = some row → row.uid ≠ INVALID_UID → place ∈ s.dataDirs) : PlaceOk s place := by
  have hno : ∀ clone, clone? s.info place ≠ some clone := by
    intro clone hget
    rw [hclone] at hget
    cases hget
  exact {
    live := fun clone hget => absurd hget (hno clone)
    half := fun clone hget => absurd hget (hno clone)
    dir := fun clone hget => absurd hget (hno clone)
    rowHalf := hhalf
    rowVacant := fun _ _ => hclone
    rowDir := hdir }

/-- A place that is left empty. -/
theorem PlaceOk.empty (hclone : clone? s.info place = none) (hrow : s.row? place = none) : PlaceOk s place := by
  have hno : ∀ row, s.row? place ≠ some row := by
    intro row hget
    rw [hrow] at hget
    cases hget
  exact .of_vacant hclone (fun row hget => absurd hget (hno row)) (fun row hget _ => absurd hget (hno row))

/-- The token that is recovered from a row is the one that the row has. -/
theorem Sound.tokenAt_recovered (h : Sound s) (hvacant : clone? s.info place = none) {row : UninstallDataUserInfo}
    (hrow : s.row? place = some row) : s.tokenAt place = some (AccessTokenIDEx.mk row.accessTokenIdEx).tokenID := by
  rw [tokenAt_of_row hvacant hrow, ← (h.place place).rowHalf row hrow]
  rfl

/-! ## Install -/

theorem isKept_of_row {row : UninstallDataUserInfo} (hrow : s.row? place = some row) (huid : row.uid ≠ INVALID_UID) :
    s.isKept place = true := by
  unfold CloneMgr.isKept
  rw [hrow]
  exact decide_eq_true huid

theorem Failed.elsewhere {token : UInt32} {tokens : Finset UInt32} {ids : BundleIds} (hfail : Failed a place token { s with tokens, ids } s') :
    Elsewhere place s s' := by
  exact { clone := fun p _ => by rw [hfail.info], row := fun p _ => row?_congr hfail.rows p, dir := hfail.dirs }

theorem Failed.tokenAt_eq {token : UInt32} {tokens : Finset UInt32} {ids : BundleIds} (hfail : Failed a place token { s with tokens, ids } s') :
    s'.tokenAt = s.tokenAt := by
  have hself : s'.tokenAt place = s.tokenAt place := tokenAt_congr (by rw [hfail.info]) (row?_congr hfail.rows place)
  exact hfail.elsewhere.tokenAt_eq_self hself

/-- An install that fails takes away a token that no clone has. -/
theorem Sound.failed (h : Sound s) {token : UInt32} {tokens : Finset UInt32} {ids : BundleIds}
    (hsub : ∀ p clone, clone? s.info p = some clone → clone.accessTokenId ∈ tokens) (hvacant : Vacant c s.info place)
    (hfree : ∀ p clone, clone? s.info p = some clone → clone.accessTokenId ≠ token)
    (hfail : Failed a place token { s with tokens, ids } s') : Sound s' := by
  have hinfo : s'.info = s.info := hfail.info
  have hrow : s'.row? place = s.row? place := row?_congr hfail.rows place
  have hclone : clone? s'.info place = none := hinfo ▸ hvacant.free
  refine h.change hfail.elsewhere (hinfo.trans (h.same.trans hfail.stored.symm)) ?_ ?_ ?_
  · intro p clone _ hget
    rw [hfail.tokens]
    unfold tokensLeft
    split
    · exact Finset.mem_erase.mpr ⟨hfree p clone hget, hsub p clone hget⟩
    · exact hsub p clone hget
  · refine .of_vacant hclone (fun row hget => ?_) (fun row hget huid => ?_)
    · exact (h.place place).rowHalf row (hrow ▸ hget)
    · rw [hrow] at hget
      have hkept : CloneMgr.isKept place { s with tokens, ids } = true := isKept_of_row hget huid
      exact hfail.kept hkept ((h.place place).rowDir row hget huid)
  · intro q token hp hq
    rw [hfail.tokenAt_eq] at hp
    exact h.apart q place token hq hp

theorem Done.elsewhere {userInfo : InnerBundleUserInfo} {token : AccessTokenIDEx} {tokens : Finset UInt32} {ids : BundleIds} (hdone : Done a place userInfo token { s with tokens, ids } s') :
    Elsewhere place s s' := by
  obtain ⟨new, -, hput⟩ := hdone.put
  refine { clone := ?_, row := ?_, dir := ?_ }
  · intro p hp
    rw [hput.get, if_neg hp]
  · intro p hp
    rw [hdone.rows, if_neg (fun h => hp h.1)]
    rfl
  · intro p hp
    rw [hdone.dirs]
    exact mem_insert_off hp

theorem Done.tokenAt {userInfo : InnerBundleUserInfo} {token : AccessTokenIDEx} {tokens : Finset UInt32} {ids : BundleIds} (hdone : Done a place userInfo token { s with tokens, ids } s') :
    s'.tokenAt place = some token.tokenID := by
  obtain ⟨new, hnew, hput⟩ := hdone.put
  rw [tokenAt_of_clone ((hput.get place).trans (if_pos rfl)), hnew.token]
  rfl

/-- An install that goes through has a token that no other place has. -/
theorem Sound.done (h : Sound s) {userInfo : InnerBundleUserInfo} {token : AccessTokenIDEx} {tokens : Finset UInt32} {ids : BundleIds}
    (hsub : ∀ p clone, clone? s.info p = some clone → clone.accessTokenId ∈ tokens) (hmem : token.tokenID ∈ tokens)
    (hfree : ∀ q, s.tokenAt q = some token.tokenID → q = place) (hdelete : a.deleteRow = true)
    (hdone : Done a place userInfo token { s with tokens, ids } s') : Sound s' := by
  obtain ⟨new, hnew, hput⟩ := hdone.put
  have hclone : clone? s'.info place = some new := (hput.get place).trans (if_pos rfl)
  have hrow : s'.row? place = none := by rw [hdone.rows, if_pos ⟨rfl, hdelete⟩]
  have hno : ∀ row, s'.row? place ≠ some row := by
    intro row hget
    cases hrow.symm.trans hget
  refine h.change hdone.elsewhere hdone.stored ?_ ?_ ?_
  · intro p clone _ hget
    rw [hdone.tokens]
    exact hsub p clone hget
  · refine {
      live := fun clone hget => ?_
      half := fun clone hget => ?_
      dir := fun clone hget => ?_
      rowHalf := fun row hget => absurd hget (hno row)
      rowVacant := fun row hget => absurd hget (hno row)
      rowDir := fun row hget => absurd hget (hno row) }
    · cases hclone.symm.trans hget
      rw [hnew.token, hdone.tokens]
      exact hmem
    · cases hclone.symm.trans hget
      rw [hnew.token, hnew.tokenEx]
      rfl
    · rw [hdone.dirs]
      exact Finset.mem_insert_self _ _
  · intro q held hp hq
    cases hdone.tokenAt.symm.trans hp
    exact hfree q hq

theorem Sound.live (h : Sound s) (p : Place) (clone : CloneIndex.InnerBundleCloneInfo) (hget : clone? s.info p = some clone) :
    clone.accessTokenId ∈ s.tokens := (h.place p).live clone hget

/-- The token that the service may drop is not the one of a clone. -/
theorem Sound.mem_tokensBesides (h : Sound s) (hvacant : clone? s.info place = none) (a : InstallAnswers) (p : Place)
    (clone : CloneIndex.InnerBundleCloneInfo) (hget : clone? s.info p = some clone) :
    clone.accessTokenId ∈ s.tokensBesides a place := by
  have hmem := h.live p clone hget
  unfold CloneMgr.tokensBesides
  cases hrow : s.row? place with
  | none => exact hmem
  | some row =>
    dsimp only
    split
    · refine Finset.mem_erase.mpr ⟨fun heq => ?_, hmem⟩
      have hp : p = place :=
        h.apart p place _ (tokenAt_of_clone hget) ((tokenAt_of_row hvacant hrow).trans (congrArg some heq.symm))
      rw [hp, hvacant] at hget
      cases hget
    · exact hmem

theorem Sound.install (h : Sound s) {userId appIndex : Int} (hok : Op.Ok s (.install userId appIndex a)) :
    Sound (step c s (.install userId appIndex a)) := by
  obtain ⟨hdelete, hnew⟩ := hok
  have hcase := @install_cases c s a userId appIndex h.same
  generalize target c s userId appIndex = target at hcase
  generalize step c s (.install userId appIndex a) = s' at hcase ⊢
  cases hcase with
  | refused => exact h
  | noToken => exact h.withIds _
  | recovered hvacant hrow hupdate hlive hout =>
    have hplace := h.tokenAt_recovered hvacant.free hrow
    unfold Outcome at hout
    split at hout
    · refine h.done h.live hlive (fun q hq => ?_) hdelete hout
      exact h.apart q _ _ hq hplace
    · refine h.failed h.live hvacant ?_ hout
      -- a clone with the token of the row would stand at its place
      intro p clone hget heq
      have hp : p = _ := h.apart p _ _ ((tokenAt_of_clone hget).trans (congrArg some heq)) hplace
      rw [hp, hvacant.free] at hget
      cases hget
  | @fresh place token _ hvacant hrecover hinit hout =>
    obtain ⟨hlive, hheld⟩ := hnew _ hinit
    have hsub : ∀ p clone, clone? s.info p = some clone →
        clone.accessTokenId ∈ insert token.tokenID (s.tokensBesides a place) := fun p clone hget =>
      Finset.mem_insert_of_mem (h.mem_tokensBesides hvacant.free a p clone hget)
    unfold Outcome at hout
    split at hout
    · refine h.done hsub (Finset.mem_insert_self _ _) (fun q hq => ?_) hdelete hout
      exact absurd hq (hheld q)
    · refine h.failed hsub hvacant ?_ hout
      intro p clone hget heq
      exact hlive (heq ▸ h.live p clone hget)

/-! ## Uninstall -/

theorem mem_ite_erase {dirs : Finset Place} {ok : Bool} (hp : p ≠ place) :
    p ∈ (if ok then dirs.erase place else dirs) ↔ p ∈ dirs := by
  split
  · rw [Finset.mem_erase]
    exact and_iff_right hp
  · rfl

theorem Cleared.elsewhere {a : UninstallAnswers} {row : UninstallDataUserInfo} (h : Cleared a place row s s') :
    Elsewhere place s s' := by
  refine { clone := fun p _ => by rw [h.info], row := fun p hp => ?_, dir := fun p hp => ?_ }
  · rw [h.rows, if_neg fun hp' => hp hp'.1]
  · rw [h.dirs]
    exact mem_ite_erase hp

theorem Removed.elsewhere {a : UninstallAnswers} {clone : CloneIndex.InnerBundleCloneInfo} (h : Removed a place clone s s') :
    Elsewhere place s s' := by
  refine { clone := fun p hp => by rw [h.info.get, if_neg hp], row := fun p _ => row?_congr h.rows p, dir := fun p hp => ?_ }
  rw [h.dirs]
  exact mem_ite_erase hp

theorem Kept.elsewhere {a : UninstallAnswers} {clone : CloneIndex.InnerBundleCloneInfo} (h : Kept a place clone s s') :
    Elsewhere place s s' := by
  refine { clone := fun p hp => by rw [h.info.get, if_neg hp], row := fun p hp => ?_, dir := fun p _ => by rw [h.dirs] }
  rw [h.rows, if_neg fun hp' => hp hp'.1]

/-- Nothing is kept for a clone that is there. -/
theorem Sound.row?_of_clone (h : Sound s) {clone : CloneIndex.InnerBundleCloneInfo}
    (hclone : clone? s.info place = some clone) : s.row? place = none := by
  cases hrow : s.row? place with
  | none => rfl
  | some row =>
    have hvacant := (h.place place).rowVacant row hrow
    rw [hclone] at hvacant
    cases hvacant

theorem tokenAt_of_empty (hclone : clone? s.info place = none) (hrow : s.row? place = none) : s.tokenAt place = none := by
  rw [tokenAt_of_vacant hclone, hrow]
  rfl

/-- What a place holds after its clone was removed with its data kept. -/
theorem Kept.row?_place {a : UninstallAnswers} {clone : CloneIndex.InnerBundleCloneInfo} (h : Sound s)
    (hclone : clone? s.info place = some clone) (hkept : Kept a place clone s s') :
    s'.row? place = if a.saveRow then some ⟨clone.uid, clone.gids, clone.accessTokenId, clone.accessTokenIdEx⟩ else none := by
  have hnone := h.row?_of_clone hclone
  rw [hkept.rows, hnone]
  simp only [true_and]

theorem Sound.clear (h : Sound s) {a : UninstallAnswers} {row : UninstallDataUserInfo}
    (hvacant : clone? s.info place = none) (hdelete : a.deleteRow = true) (hclear : Cleared a place row s s') : Sound s' := by
  have hclone : clone? s'.info place = none := by rw [hclear.info, hvacant]
  have hrow : s'.row? place = none := by rw [hclear.rows, if_pos ⟨rfl, hdelete⟩]
  refine h.change hclear.elsewhere ?_ ?_ (.empty hclone hrow) ?_
  · rw [hclear.info, hclear.stored, h.same]
  · intro p clone _ hget
    rw [hclear.tokens]
    exact h.live p clone hget
  · intro q token hp
    rw [tokenAt_of_empty hclone hrow] at hp
    cases hp

theorem Sound.remove (h : Sound s) {a : UninstallAnswers} {clone : CloneIndex.InnerBundleCloneInfo}
    (hget : clone? s.info place = some clone) (hremove : Removed a place clone s s') : Sound s' := by
  have hclone : clone? s'.info place = none := by rw [hremove.info.get, if_pos rfl]
  have hrow : s'.row? place = none := (row?_congr hremove.rows place).trans (h.row?_of_clone hget)
  refine h.change hremove.elsewhere hremove.stored ?_ (.empty hclone hrow) ?_
  · intro p other hp hother
    have hmem := h.live p other hother
    rw [hremove.tokens]
    split
    · refine Finset.mem_erase.mpr ⟨fun heq => ?_, hmem⟩
      exact hp (h.apart p place _ (tokenAt_of_clone hother) ((tokenAt_of_clone hget).trans (congrArg some heq.symm)))
    · exact hmem
  · intro q token hp
    rw [tokenAt_of_empty hclone hrow] at hp
    cases hp

theorem Sound.keep (h : Sound s) {a : UninstallAnswers} {clone : CloneIndex.InnerBundleCloneInfo}
    (hget : clone? s.info place = some clone) (hkeep : Kept a place clone s s') : Sound s' := by
  have hclone : clone? s'.info place = none := by rw [hkeep.info.get, if_pos rfl]
  have hrow := hkeep.row?_place h hget
  refine h.change hkeep.elsewhere hkeep.stored ?_ ?_ ?_
  · intro p other _ hother
    rw [hkeep.tokens]
    exact h.live p other hother
  · refine .of_vacant hclone (fun row hsome => ?_) (fun _ _ _ => ?_)
    · rw [hrow] at hsome
      split at hsome
      · cases hsome
        exact (h.place place).half clone hget
      · cases hsome
    · rw [hkeep.dirs]
      exact (h.place place).dir clone hget
  · intro q token hp hq
    rw [tokenAt_of_vacant hclone, hrow] at hp
    split at hp
    · exact h.apart q place token hq ((tokenAt_of_clone hget).trans hp)
    · cases hp

theorem Sound.uninstall (h : Sound s) {place : Place} {isKeepData : Bool} {a : UninstallAnswers}
    (hok : Op.Ok s (.uninstall place isKeepData a)) : Sound (step c s (.uninstall place isKeepData a)) := by
  obtain ⟨hsave, hdelete⟩ := hok
  have hcase := @uninstall_cases c s a hsave place isKeepData
  generalize step c s (.uninstall place isKeepData a) = s' at hcase ⊢
  cases hcase with
  | refused => exact h
  | clear hvacant hrow hclear => exact h.clear hvacant hdelete hclear
  | remove hclone hremove => exact h.remove hclone hremove
  | keep hclone hkeep => exact h.keep hclone hkeep

/-! ## Runs -/

theorem Sound.step (h : Sound s) {op : Op} (hok : op.Ok s) : Sound (step c s op) := by
  cases op with
  | install userId appIndex a => exact h.install hok
  | uninstall place isKeepData a => exact h.uninstall hok
  | other op => exact h.withIds _
  | reboot hasBmsPara others =>
    show Sound (s.reboot c hasBmsPara others)
    rw [reboot_eq h.same]
    exact h.withIds _

/-- An application that has no clones yet. -/
def start (info : CloneIndex.InnerBundleInfo) (ids : BundleIds) : CloneMgr := { info, stored := info, ids }

variable (ids : BundleIds)

end BundleFramework.CloneInstaller
