import BundleFramework.CodePath.Rotation

/-!
# A rotation cut short

Whatever step of an update is the last before a crash, and however often the recovery is cut
short as well, a recovery that ends leaves the code directory with the files of the version
in the database.

`Recoverable` says what the record promises; every effect of an update and of a recovery
keeps it.
-/

namespace BundleFramework.CodePath

open Std StepRun

/-! ## Specification -/

/-- The code directory has all files of the version in the database. -/
def Slot.InPlace (s : Slot) : Prop := s.dirs .real = some (.whole s.version)

/-- They are in `+old-`, or in the code directory and `+old-` is not there. -/
def Slot.Backed (s : Slot) : Prop :=
  s.dirs .old = some (.whole s.version) ∨ s.dirs .old = none ∧ s.InPlace

/-- The record makes a recovery go back to `+old-`. -/
def Slot.GoesBack (s : Slot) : Prop :=
  ∃ info, s.record = some info ∧ (info.status = .renameRelaToOldPath ∨
    info.status = .renameNewToRealPath ∧ s.version = info.versionCode)

structure Slot.Recoverable (s : Slot) : Prop where
  back : s.GoesBack → s.Backed
  stay : ¬ s.GoesBack → s.InPlace

/-- A boot whose recovery is cut short after `k` effects. -/
def crashedBoot (d : Device) (k : Nat) : Device := d.run (d.handleAllBundleExceptionInfo.take k)

/-! ## Recovery -/

section Recovery

variable {s s' : Slot}

theorem goesBack_congr (hrecord : s'.record = s.record) (hversion : s'.version = s.version) :
    s'.GoesBack ↔ s.GoesBack := by
  unfold Slot.GoesBack
  rw [hrecord, hversion]

theorem not_goesBack_of_none (h : s.record = none) : ¬ s.GoesBack := by
  rintro ⟨info, hinfo, -⟩
  rw [h] at hinfo
  cases hinfo

theorem not_goesBack_of_status {info : InstallExceptionInfo} (h : s.record = some info)
    (hstatus : info.status = .createNewDir ∨ info.status = .deleteOldPath) : ¬ s.GoesBack := by
  rintro ⟨info', hinfo, hback⟩
  rw [h] at hinfo
  cases hinfo
  rcases hstatus with hstatus | hstatus <;> rw [hstatus] at hback <;> rcases hback with hback | ⟨hback, -⟩ <;> cases hback

theorem handle_of_goesBack (h : s.GoesBack) : handleBundleExceptionInfo s = goBack s := by
  obtain ⟨info, hrecord, hstatus⟩ := h
  unfold handleBundleExceptionInfo
  rw [hrecord]
  dsimp only
  rcases hstatus with hstatus | ⟨hstatus, hversion⟩
  · rw [hstatus]
    rfl
  · rw [hstatus]
    dsimp only
    rw [innerProcessNewToRealPath_of_found, if_pos hversion]

/-- The other branches. -/
theorem handle_of_not_goesBack (h : ¬ s.GoesBack) :
    s.record = none ∧ handleBundleExceptionInfo s = [] ∨
    ∃ info, s.record = some info ∧
      (info.status = .createNewDir ∧ handleBundleExceptionInfo s = innerProcessCreateNewDir s ∨
       info.status ≠ .createNewDir ∧ handleBundleExceptionInfo s = innerProcessDeleteOldPath s) := by
  unfold handleBundleExceptionInfo
  cases hrecord : s.record with
  | none => exact .inl ⟨rfl, rfl⟩
  | some info =>
    refine .inr ⟨info, rfl, ?_⟩
    dsimp only
    cases hstatus : info.status with
    | createNewDir => exact .inl ⟨rfl, rfl⟩
    | renameRelaToOldPath => exact absurd ⟨info, hrecord, .inl hstatus⟩ h
    | renameNewToRealPath =>
      have hversion : s.version ≠ info.versionCode := fun hv => h ⟨info, hrecord, .inr ⟨hstatus, hv⟩⟩
      refine .inr ⟨by decide, ?_⟩
      dsimp only
      rw [innerProcessNewToRealPath_of_found, if_neg hversion]
    | deleteOldPath => exact .inr ⟨by decide, rfl⟩

/-- The effects that leave the code directory and the version alone and save no record. -/
def Effect.Away : Effect → Prop
  | .deleteRecord => True
  | .beginRemove dir | .endRemove dir => dir ≠ .real
  | .move source target => source ≠ .real ∧ target ≠ .real
  | _ => False

theorem away_removeDir {dir : Dir} (hdir : dir ≠ .real) {e : Effect} (he : e ∈ removeDir dir s) : e.Away := by
  unfold removeDir at he
  split at he
  · cases he
  · rcases List.mem_cons.mp he with rfl | he
    · exact hdir
    · rw [List.mem_singleton.mp he]
      exact hdir

theorem away_innerProcessDeleteOldPath {e : Effect} (he : e ∈ innerProcessDeleteOldPath s) : e.Away := by
  have hlast : ∀ e ∈ [Effect.beginRemove .temp, .endRemove .temp, .deleteRecord], e.Away := by
    simp [Effect.Away]
  by_cases h : s.dirs .old = none
  · rw [innerProcessDeleteOldPath_of_missing h] at he
    split at he
    · cases he
    · exact hlast e he
  · rw [innerProcessDeleteOldPath_of_there h] at he
    rcases List.mem_append.mp he with he | he
    · rcases List.mem_append.mp he with he | he
      · exact away_removeDir (by decide) he
      · rw [List.mem_singleton.mp he]
        exact ⟨by decide, by decide⟩
    · exact hlast e he

theorem away_of_not_goesBack (h : ¬ s.GoesBack) {e : Effect} (he : e ∈ handleBundleExceptionInfo s) : e.Away := by
  rcases handle_of_not_goesBack h with ⟨-, hhandle⟩ | ⟨info, -, ⟨-, hhandle⟩ | ⟨-, hhandle⟩⟩
  · rw [hhandle] at he
    cases he
  · rw [hhandle] at he
    rcases List.mem_append.mp he with he | he
    · exact away_removeDir (by decide) he
    · rw [List.mem_singleton.mp he]
      trivial
  · rw [hhandle] at he
    exact away_innerProcessDeleteOldPath he

/-- As in `s`, but for the record, which may be gone. -/
def SameReal (s s' : Slot) : Prop :=
  s'.dirs .real = s.dirs .real ∧ s'.version = s.version ∧ (s'.record = s.record ∨ s'.record = none)

theorem SameReal.apply (h : SameReal s s') {e : Effect} (he : e.Away) : SameReal s (s'.apply e) := by
  obtain ⟨hreal, hversion, hrecord⟩ := h
  cases e with
  | deleteRecord => exact ⟨hreal, hversion, .inr rfl⟩
  | beginRemove dir => exact ⟨(s'.setDir_dirs_of_ne (Ne.symm he) _).trans hreal, hversion, hrecord⟩
  | endRemove dir => exact ⟨(s'.setDir_dirs_of_ne (Ne.symm he) _).trans hreal, hversion, hrecord⟩
  | move source target =>
    refine ⟨?_, hversion, hrecord⟩
    show ((s'.setDir target (s'.dirs source)).setDir source none).dirs .real = _
    rw [Slot.setDir_dirs_of_ne _ (Ne.symm he.1), Slot.setDir_dirs_of_ne _ (Ne.symm he.2)]
    exact hreal
  | _ => exact he.elim

theorem SameReal.inPlace (h : SameReal s s') (hin : s.InPlace) : s'.InPlace := by
  show s'.dirs .real = some (.whole s'.version)
  rw [h.1, h.2.1]
  exact hin

theorem SameReal.recoverable (h : SameReal s s') (hstay : ¬ s.GoesBack) (hin : s.InPlace) : s'.Recoverable := by
  refine ⟨fun hback => ?_, fun _ => h.inPlace hin⟩
  rcases h.2.2 with hrecord | hrecord
  · exact absurd ((goesBack_congr hrecord h.2.1).mp hback) hstay
  · exact absurd hback (not_goesBack_of_none hrecord)

theorem always_sameReal {es : List Effect} (h : ∀ e ∈ es, e.Away) : StepRun.Always Slot.apply (SameReal s) s es :=
  (each_of_forall h s).always (fun _ _ hs he => hs.apply he) ⟨rfl, rfl, .inl rfl⟩

theorem always_recoverable_of_away {es : List Effect} (h : ∀ e ∈ es, e.Away) (hstay : ¬ s.GoesBack) (hin : s.InPlace) :
    StepRun.Always Slot.apply Slot.Recoverable s es := fun pre hpre =>
  (always_sameReal h pre hpre).recoverable hstay hin

/-- Once the record is deleted, the rest of going back only removes `+new-`. -/
theorem always_deleteRecord (hin : s.InPlace) : StepRun.Always Slot.apply Slot.Recoverable s (.deleteRecord :: removeDir .new s') ↔
    s.Recoverable := by
  rw [always_cons]
  refine and_iff_left ?_
  exact always_recoverable_of_away (fun e he => away_removeDir (by decide) he) (not_goesBack_of_none rfl) hin

/-- The slot after `+old-` has been moved to the code directory. -/
theorem backed_moved (hold : s.dirs .old = some (.whole s.version)) :
    ((s.setDir .real (s.dirs .old)).setDir .old none).InPlace := by
  show ((s.setDir .real (s.dirs .old)).setDir .old none).dirs .real = _
  rw [Slot.setDir_dirs_of_ne _ (by decide), Slot.setDir_dirs_self, hold]
  rfl

theorem always_goBack (hgoes : s.GoesBack) (hback : s.Backed) : StepRun.Always Slot.apply Slot.Recoverable s (goBack s) := by
  have hrec : ∀ s' : Slot, s'.record = s.record → s'.version = s.version → s'.Backed → s'.Recoverable :=
    fun s' hrecord hversion hb =>
      ⟨fun _ => hb, fun hnot => absurd ((goesBack_congr hrecord hversion).mpr hgoes) hnot⟩
  rcases hback with hold | ⟨hold, hin⟩
  · have hmoved := backed_moved hold
    rw [goBack_of_there (by rw [hold]; simp)]
    refine always_append.mpr ⟨always_move (by decide) ?_ ?_, ?_⟩
    · intro files
      refine hrec _ rfl rfl (.inl ?_)
      rw [Slot.setDir_dirs_of_ne _ (by decide)]
      exact hold
    · exact hrec _ rfl rfl (.inr ⟨Slot.setDir_dirs_self _ _ _, hmoved⟩)
    · rw [show List.foldl Slot.apply s _ = _ from run_move (by decide) s]
      refine (always_deleteRecord hmoved).mpr (hrec _ rfl rfl (.inr ⟨Slot.setDir_dirs_self _ _ _, hmoved⟩))
  · have hreal : s.dirs .real ≠ none := by
      rw [show s.dirs .real = _ from hin]
      simp
    rw [goBack_of_missing hold, if_neg hreal]
    exact (always_deleteRecord hin).mpr (hrec s rfl rfl (.inr ⟨hold, hin⟩))

theorem Slot.Recoverable.handle (h : s.Recoverable) :
    StepRun.Always Slot.apply Slot.Recoverable s (handleBundleExceptionInfo s) := by
  by_cases hgoes : s.GoesBack
  · rw [handle_of_goesBack hgoes]
    exact always_goBack hgoes (h.back hgoes)
  · exact always_recoverable_of_away (fun e he => away_of_not_goesBack hgoes he) hgoes (h.stay hgoes)

/-- A recovery that is not cut short brings the files into place. -/
theorem Slot.Recoverable.handled (h : s.Recoverable) : (s.run (handleBundleExceptionInfo s)).InPlace := by
  have hremoved : ∀ {s s' : Slot}, s.InPlace → (s.run (.deleteRecord :: removeDir .new s')).InPlace := by
    intro s s' hin
    have haway : ∀ e ∈ Effect.deleteRecord :: removeDir .new s', e.Away :=
      List.forall_mem_cons.mpr ⟨trivial, fun e he => away_removeDir (by decide) he⟩
    exact (always_sameReal haway).last.inPlace hin
  by_cases hgoes : s.GoesBack
  · rw [handle_of_goesBack hgoes]
    rcases h.back hgoes with hold | ⟨hold, hin⟩
    · rw [goBack_of_there (by rw [hold]; simp), Slot.run_append, run_move (by decide)]
      exact hremoved (backed_moved hold)
    · have hreal : s.dirs .real ≠ none := by
        rw [show s.dirs .real = _ from hin]
        simp
      rw [goBack_of_missing hold, if_neg hreal]
      exact hremoved hin
  · have haway : StepRun.Always Slot.apply (SameReal s) s (handleBundleExceptionInfo s) :=
      always_sameReal fun e he => away_of_not_goesBack hgoes he
    exact haway.last.inPlace (h.stay hgoes)

end Recovery

/-! ## Update -/

theorem update_installed (old new : Nat) : update new (.installed old) =
    [.saveRecord { status := .createNewDir }, .beginFill new, .endFill new,
     .saveRecord { status := .renameRelaToOldPath, versionCode := old }, .move .real .old,
     .saveRecord { status := .renameNewToRealPath, versionCode := old }, .move .new .real,
     .saveVersion new,
     .saveRecord { status := .deleteOldPath }, .move .old .temp, .beginRemove .temp, .endRemove .temp,
     .deleteRecord] := by
  have hclean : (Slot.installed old).Clean := ⟨rfl, rfl, rfl⟩
  rw [update_eq, show handleBundleExceptionInfo (.installed old) = [] from rfl, List.nil_append, Slot.run_nil,
    updateTail_of_clean hclean]
  rfl

theorem always_update {old new : Nat} (hne : old ≠ new) :
    StepRun.Always Slot.apply Slot.Recoverable (.installed old) (update new (.installed old)) := by
  rw [update_installed]
  simp only [always_cons, always_nil]
  refine ⟨?_, ?_, ?_, ?_, ?_, ?_, ?_, ?_, ?_, ?_, ?_, ?_, ?_, ?_⟩ <;> constructor <;>
    simp [Slot.GoesBack, Slot.Backed, Slot.InPlace, Slot.apply, Slot.setDir, Slot.installed, Function.update, hne.symm]

/-! ## The theorem -/

theorem crashedBoots_recoverable {d : Device} {name : Str} {s : Slot} (hs : d[name]? = some s) (h : s.Recoverable)
    (boots : List Nat) : ∃ s', (boots.foldl crashedBoot d)[name]? = some s' ∧ s'.Recoverable := by
  induction boots generalizing d s with
  | nil => exact ⟨s, hs, h⟩
  | cons k boots ih =>
    refine @ih (crashedBoot d k) (s.run (own name (d.handleAllBundleExceptionInfo.take k))) ?_ ?_
    · unfold crashedBoot
      rw [Device.getElem?_run, hs]
      rfl
    · have hprefix := (List.take_prefix k d.handleAllBundleExceptionInfo).filterMap
        fun e => if e.1 = name then some e.2 else none
      rw [show List.filterMap _ d.handleAllBundleExceptionInfo = _ from Device.own_handleAll hs] at hprefix
      exact h.handle _ hprefix

/-- **Rotation survives crashes**: an update of a bundle to another version is cut short after
any of its effects, any number of boots are cut short in their recovery, and one boot ends
it.  Then the code directory has the files of the version in the database. -/
theorem rotation_survives_crashes (d : Device) (name : Str) (old new : Nat) (hne : old ≠ new)
    (hinstalled : d[name]? = some (.installed old)) (cut : Nat) (boots : List Nat) :
    let crashed := d.run ((d.onBundle name (update new)).take cut)
    let booted := boots.foldl crashedBoot crashed
    ∃ s, (booted.run booted.handleAllBundleExceptionInfo)[name]? = some s ∧
      s.dirs .real = some (.whole s.version) := by
  intro crashed booted
  have hcrashed : crashed[name]? = some ((Slot.installed old).run
      (own name ((d.onBundle name (update new)).take cut))) := by
    rw [Device.getElem?_run, hinstalled]
    rfl
  have hprefix := (List.take_prefix cut (d.onBundle name (update new))).filterMap
    fun e => if e.1 = name then some e.2 else none
  rw [show List.filterMap _ (d.onBundle name (update new)) = _ from Device.own_onBundle hinstalled _, if_pos rfl]
    at hprefix
  obtain ⟨s, hs, hrecoverable⟩ := crashedBoots_recoverable hcrashed (always_update hne _ hprefix) boots
  refine ⟨s.run (handleBundleExceptionInfo s), ?_, hrecoverable.handled⟩
  rw [Device.getElem?_run, hs, Device.own_handleAll hs]
  rfl

/-- A device with one bundle. -/
def oneBundle : Device := (∅ : Device).insert "com.a".toList (.installed 1)

/-- The service dies after `+new-` has become the code directory and again in the recovery. -/
theorem rotation_survives_two_crashes :
    let crashed := oneBundle.run ((oneBundle.onBundle "com.a".toList (update 2)).take 7)
    let booted := [2].foldl crashedBoot crashed
    (1 : Nat) ≠ 2 ∧ oneBundle["com.a".toList]? = some (.installed 1) ∧
    ∃ s, (booted.run booted.handleAllBundleExceptionInfo)["com.a".toList]? = some s ∧
      s.dirs .real = some (.whole s.version) :=
  ⟨by decide, ExtTreeMap.getElem?_insert_self, rotation_survives_crashes oneBundle "com.a".toList 1 2 (by decide)
    ExtTreeMap.getElem?_insert_self 7 [2]⟩

end BundleFramework.CodePath
