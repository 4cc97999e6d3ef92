import BundleFramework.CodePath.CrashSafety

/-!
# What a rotation leaves behind

The record is what makes a recovery look at a bundle's directories again.  The branches that
go back to `+old-` delete it before they remove `+new-`:

    +old- to real, delete the record, remove +new-

A crash between the last two leaves `+new-` without a record, and the next update fills it
on top of what is there.  `no_residue_iff` shows that there is nothing else: the runs without
residue are those in which no recovery is cut short after it has deleted the record.
-/

namespace BundleFramework.CodePath

open Std StepRun

/-! ## Runs -/

/-- An update of a bundle, a recovery of one bundle or of all, cut short after some of its
effects: by a crash, or in an update by a failure, after which `RollbackCodePath` recovers
the bundle. -/
inductive Op
  | update (name : Str) (version : Nat) (cut : Nat)
  | handle (name : Str) (cut : Nat)
  | handleAll (cut : Nat)

def Op.effects (d : Device) : Op → List (Str × Effect)
  | .update name version cut => (d.onBundle name (CodePath.update version)).take cut
  | .handle name cut => (d.onBundle name handleBundleExceptionInfo).take cut
  | .handleAll cut => d.handleAllBundleExceptionInfo.take cut

def step (d : Device) (op : Op) : Device := d.run (op.effects d)

/-- A bundle without a record has its code directory only. -/
def NoResidue (d : Device) : Prop := ∀ (name : Str) (s : Slot), d[name]? = some s → s.record = none → s.Clean

/-- No recovery is cut short after it has deleted the record. -/
def CutsSpareRecords (d : Device) (op : Op) : Prop :=
  ∀ (name : Str) (s : Slot), d[name]? = some s → .deleteRecord ∈ own name (op.effects d) →
    handleBundleExceptionInfo s <+: own name (op.effects d)

/-! ## The invariant -/

/-- What the record promises about the directories that its recovery does not remove. -/
structure Slot.Tidy (s : Slot) : Prop where
  rest : s.record = none → s.Clean
  create : ∀ info, s.record = some info → info.status = .createNewDir → s.dirs .old = none ∧ s.dirs .temp = none
  back : s.GoesBack → s.dirs .temp = none
  ahead : ∀ info, s.record = some info → info.status ≠ .createNewDir → ¬ s.GoesBack → s.dirs .new = none

section Recovery

variable {s s' : Slot}

theorem tidy_of_none (hrecord : s.record = none) (h : s.Clean) : s.Tidy where
  rest _ := h
  create info hinfo := by
    rw [hrecord] at hinfo
    cases hinfo
  back hgoes := absurd hgoes (not_goesBack_of_none hrecord)
  ahead info hinfo := by
    rw [hrecord] at hinfo
    cases hinfo

theorem tidy_of_goesBack (hgoes : s.GoesBack) (htemp : s.dirs .temp = none) : s.Tidy where
  rest hrecord := absurd hgoes (not_goesBack_of_none hrecord)
  create _ hinfo hstatus := absurd hgoes (not_goesBack_of_status hinfo (.inl hstatus))
  back _ := htemp
  ahead _ _ _ hnot := absurd hgoes hnot

theorem tidy_of_create {info : InstallExceptionInfo} (hrecord : s.record = some info) (hstatus : info.status = .createNewDir)
    (hold : s.dirs .old = none) (htemp : s.dirs .temp = none) : s.Tidy where
  rest hnone := by
    rw [hrecord] at hnone
    cases hnone
  create _ _ _ := ⟨hold, htemp⟩
  back hgoes := absurd hgoes (not_goesBack_of_status hrecord (.inl hstatus))
  ahead info' hinfo hne := by
    rw [hrecord] at hinfo
    cases hinfo
    exact absurd hstatus hne

theorem tidy_of_ahead {info : InstallExceptionInfo} (hrecord : s.record = some info) (hstatus : info.status ≠ .createNewDir)
    (hnot : ¬ s.GoesBack) (hnew : s.dirs .new = none) : s.Tidy where
  rest hnone := by
    rw [hrecord] at hnone
    cases hnone
  create info' hinfo heq := by
    rw [hrecord] at hinfo
    cases hinfo
    exact absurd heq hstatus
  back hgoes := absurd hgoes hnot
  ahead _ _ _ _ := hnew

/-- Removing `+new-` cut short leaves some of it. -/
theorem removeDir_cut {dir : Dir} {pre : List Effect} (hpre : pre <+: removeDir dir s) (hne : pre ≠ removeDir dir s)
    (hs : s'.dirs dir = s.dirs dir) : (s'.run pre).dirs dir ≠ none ∧ (s'.run pre).record = s'.record := by
  unfold removeDir at hpre hne
  split at hpre
  · next hnone =>
    rw [if_pos hnone] at hne
    exact absurd (List.prefix_nil.mp hpre) hne
  · next hthere =>
    rw [if_neg hthere] at hne
    rcases pre with _ | ⟨e, _ | ⟨e', pre⟩⟩
    · refine ⟨?_, rfl⟩
      rw [Slot.run_nil, hs]
      exact hthere
    · obtain ⟨rfl, -⟩ := List.cons_prefix_cons.mp hpre
      refine ⟨?_, rfl⟩
      show (s'.setDir dir (some .mixed)).dirs dir ≠ none
      simp
    · obtain ⟨rfl, hpre'⟩ := List.cons_prefix_cons.mp hpre
      obtain ⟨rfl, hnil⟩ := List.cons_prefix_cons.mp hpre'
      rw [List.prefix_nil.mp hnil] at hne
      exact absurd rfl hne

/-- The part of going back before the record is deleted. -/
def untilRecord (s : Slot) : List Effect :=
  if s.dirs .old = none then [] else removeDir .real s ++ [.move .old .real]

theorem deleteRecord_not_mem_removeDir {dir : Dir} : .deleteRecord ∉ removeDir dir s := by
  unfold removeDir
  split <;> simp

theorem deleteRecord_not_mem_untilRecord : .deleteRecord ∉ untilRecord s := by
  unfold untilRecord
  split
  · simp
  · rw [List.mem_append, not_or]
    exact ⟨deleteRecord_not_mem_removeDir, by simp⟩

/-- Going back either has lost both directories, or goes through. -/
theorem goBack_cases (s : Slot) :
    (s.dirs .old = none ∧ s.dirs .real = none ∧ goBack s = removeDir .new s) ∨
    goBack s = untilRecord s ++ (.deleteRecord :: removeDir .new s) := by
  unfold untilRecord
  by_cases hold : s.dirs .old = none
  · rw [goBack_of_missing hold, if_pos hold]
    by_cases hreal : s.dirs .real = none
    · rw [if_pos hreal]
      exact .inl ⟨hold, hreal, rfl⟩
    · rw [if_neg hreal]
      exact .inr rfl
  · rw [goBack_of_there hold, if_neg hold]
    exact .inr rfl

theorem always_untilRecord (hgoes : s.GoesBack) (htemp : s.dirs .temp = none) :
    StepRun.Always Slot.apply Slot.Tidy s (untilRecord s) := by
  unfold untilRecord
  split
  · exact always_nil.mpr (tidy_of_goesBack hgoes htemp)
  · refine always_move (by decide) (fun files => ?_) ?_
    · refine tidy_of_goesBack ((goesBack_congr rfl rfl).mpr hgoes) ?_
      rw [Slot.setDir_dirs_of_ne _ (by decide)]
      exact htemp
    · refine tidy_of_goesBack ((goesBack_congr rfl rfl).mpr hgoes) ?_
      rw [Slot.setDir_dirs_of_ne _ (by decide), Slot.setDir_dirs_of_ne _ (by decide)]
      exact htemp

/-- After the record could be deleted, `+old-` is gone. -/
theorem run_untilRecord (s : Slot) : (s.run (untilRecord s)).dirs .old = none ∧
    (s.run (untilRecord s)).dirs .new = s.dirs .new ∧ (s.run (untilRecord s)).dirs .temp = s.dirs .temp := by
  unfold untilRecord
  split
  · next hold => exact ⟨hold, rfl, rfl⟩
  · rw [run_move (by decide)]
    refine ⟨Slot.setDir_dirs_self _ _ _, ?_, ?_⟩
    · rw [Slot.setDir_dirs_of_ne _ (by decide), Slot.setDir_dirs_of_ne _ (by decide)]
    · rw [Slot.setDir_dirs_of_ne _ (by decide), Slot.setDir_dirs_of_ne _ (by decide)]

/-- **Going back, cut short**: it leaves the bundle tidy unless the record is deleted and not all
of `+new-` is. -/
theorem goBack_cut (hgoes : s.GoesBack) (htemp : s.dirs .temp = none) {pre : List Effect} (hpre : pre <+: goBack s) :
    (.deleteRecord ∈ pre → pre = goBack s) ∧ (s.run pre).Tidy ∨
    (.deleteRecord ∈ pre ∧ pre ≠ goBack s) ∧ (s.run pre).record = none ∧ (s.run pre).dirs .new ≠ none := by
  rcases goBack_cases s with ⟨-, -, hback⟩ | hback
  · rw [hback] at hpre
    refine .inl ⟨fun hmem => absurd (hpre.subset hmem) deleteRecord_not_mem_removeDir, ?_⟩
    refine always_removeDir (fun files => tidy_of_goesBack ((goesBack_congr rfl rfl).mpr hgoes) ?_) pre hpre
    rw [Slot.setDir_dirs_of_ne _ (by decide)]
    exact htemp
  rw [hback] at hpre ⊢
  obtain ⟨hold, hnew, htemp'⟩ := run_untilRecord s
  rcases cut_of_append hpre with hpre | ⟨pre', hpre', rfl⟩
  · refine .inl ⟨fun hmem => absurd (hpre.subset hmem) deleteRecord_not_mem_untilRecord, ?_⟩
    exact always_untilRecord hgoes htemp pre hpre
  rcases pre' with _ | ⟨e, pre'⟩
  · rw [List.append_nil]
    refine .inl ⟨fun hmem => absurd hmem deleteRecord_not_mem_untilRecord, ?_⟩
    exact (always_untilRecord hgoes htemp).last
  obtain ⟨rfl, hrest⟩ := List.cons_prefix_cons.mp hpre'
  by_cases hall : pre' = removeDir .new s
  · subst hall
    refine .inl ⟨fun _ => rfl, ?_⟩
    rw [Slot.run_append, Slot.run_cons, @removeDir_congr .new s ((s.run (untilRecord s)).apply .deleteRecord) hnew.symm,
      run_removeDir]
    refine tidy_of_none rfl ⟨Slot.setDir_dirs_self _ _ _, ?_, ?_⟩
    · rw [Slot.setDir_dirs_of_ne _ (by decide)]
      exact hold
    · rw [Slot.setDir_dirs_of_ne _ (by decide)]
      exact htemp'.trans htemp
  · have hcut := @removeDir_cut s ((s.run (untilRecord s)).apply .deleteRecord) .new pre' hrest hall hnew
    refine .inr ⟨⟨by simp, ?_⟩, ?_, ?_⟩
    · simpa using hall
    · rw [Slot.run_append, Slot.run_cons, hcut.2]
      rfl
    · rw [Slot.run_append, Slot.run_cons]
      exact hcut.1

/-- Where the record is not deleted before the end, no cut spares it wrongly. -/
theorem deleteRecord_last {es pre : List Effect} (hmem : Effect.deleteRecord ∉ es)
    (hpre : pre <+: es ++ [Effect.deleteRecord]) (hdeleted : Effect.deleteRecord ∈ pre) :
    pre = es ++ [Effect.deleteRecord] := by
  rcases cut_of_append hpre with hpre | ⟨pre', hpre', rfl⟩
  · exact absurd (hpre.subset hdeleted) hmem
  · rcases pre' with _ | ⟨e, pre'⟩
    · rw [List.append_nil] at hdeleted
      exact absurd hdeleted hmem
    · obtain ⟨rfl, hnil⟩ := List.cons_prefix_cons.mp hpre'
      rw [List.prefix_nil.mp hnil]

theorem deleteRecord_mem_deleteOldPath {pre : List Effect} (hpre : pre <+: innerProcessDeleteOldPath s)
    (hdeleted : .deleteRecord ∈ pre) : pre = innerProcessDeleteOldPath s := by
  by_cases hold : s.dirs .old = none
  · rw [innerProcessDeleteOldPath_of_missing hold] at hpre ⊢
    split at hpre
    · next htemp =>
      rw [List.prefix_nil.mp hpre] at hdeleted
      cases hdeleted
    · next htemp =>
      rw [if_neg htemp]
      exact @deleteRecord_last [.beginRemove .temp, .endRemove .temp] pre (by simp) hpre hdeleted
  · rw [innerProcessDeleteOldPath_of_there hold] at hpre ⊢
    have happend : ∀ es : List Effect, es ++ [Effect.beginRemove .temp, Effect.endRemove .temp, Effect.deleteRecord] =
        (es ++ [Effect.beginRemove .temp, Effect.endRemove .temp]) ++ [Effect.deleteRecord] := fun es => by simp
    rw [happend] at hpre ⊢
    refine deleteRecord_last ?_ hpre hdeleted
    simp [deleteRecord_not_mem_removeDir]

theorem record_run_removeDir (dir : Dir) (s' : Slot) : (s.run (removeDir dir s')).record = s.record := by
  unfold removeDir
  split <;> rfl

theorem createNewDir_tidy {info : InstallExceptionInfo} (hrecord : s.record = some info)
    (hstatus : info.status = .createNewDir) (hold : s.dirs .old = none) (htemp : s.dirs .temp = none) :
    StepRun.Always Slot.apply Slot.Tidy s (innerProcessCreateNewDir s) ∧ (s.run (innerProcessCreateNewDir s)).Clean := by
  have hset : ∀ files, (s.setDir .new files).dirs .old = none ∧ (s.setDir .new files).dirs .temp = none := by
    intro files
    rw [Slot.setDir_dirs_of_ne _ (by decide), Slot.setDir_dirs_of_ne _ (by decide)]
    exact ⟨hold, htemp⟩
  have hclean : ((s.setDir .new none).apply .deleteRecord).Clean :=
    ⟨s.setDir_dirs_self .new none, hset none⟩
  unfold innerProcessCreateNewDir
  refine ⟨always_append.mpr ⟨always_removeDir fun files => ?_, ?_⟩, ?_⟩
  · exact tidy_of_create hrecord hstatus (hset files).1 (hset files).2
  · rw [show List.foldl Slot.apply s _ = _ from run_removeDir .new s]
    exact always_cons.mpr ⟨tidy_of_create hrecord hstatus (hset none).1 (hset none).2,
      always_nil.mpr (tidy_of_none rfl hclean)⟩
  · rw [Slot.run_append, run_removeDir]
    exact hclean

theorem deleteOldPath_tidy {info : InstallExceptionInfo} (hrecord : s.record = some info)
    (hstatus : info.status ≠ .createNewDir) (hnot : ¬ s.GoesBack) (hnew : s.dirs .new = none) :
    StepRun.Always Slot.apply Slot.Tidy s (innerProcessDeleteOldPath s) ∧ (s.run (innerProcessDeleteOldPath s)).Clean := by
  have htidy : ∀ s' : Slot, s'.record = s.record → s'.version = s.version → s'.dirs .new = none → s'.Tidy :=
    fun s' hr hv hn => tidy_of_ahead (hr.trans hrecord) hstatus (fun hgoes => hnot ((goesBack_congr hr hv).mp hgoes)) hn
  -- the end of both branches, once `+old-` is not there
  have hlast : ∀ s' : Slot, s'.record = s.record → s'.version = s.version → s'.dirs .new = none → s'.dirs .old = none →
      StepRun.Always Slot.apply Slot.Tidy s' [.beginRemove .temp, .endRemove .temp, .deleteRecord] ∧
      (s'.run [.beginRemove .temp, .endRemove .temp, .deleteRecord]).Clean := by
    intro s' hr hv hn ho
    have hset : ∀ files, (s'.setDir .temp files).dirs .new = none ∧ (s'.setDir .temp files).dirs .old = none := by
      intro files
      rw [Slot.setDir_dirs_of_ne _ (by decide), Slot.setDir_dirs_of_ne _ (by decide)]
      exact ⟨hn, ho⟩
    have hclean : (((s'.setDir .temp (some .mixed)).setDir .temp none).apply .deleteRecord).Clean := by
      rw [Slot.setDir_setDir]
      exact ⟨(hset none).1, (hset none).2, s'.setDir_dirs_self .temp none⟩
    refine ⟨?_, hclean⟩
    simp only [always_cons, always_nil]
    refine ⟨htidy s' hr hv hn, htidy _ hr hv (hset _).1, htidy _ hr hv ?_, tidy_of_none rfl hclean⟩
    show ((s'.setDir .temp (some .mixed)).setDir .temp none).dirs .new = none
    rw [Slot.setDir_setDir]
    exact (hset none).1
  by_cases hold : s.dirs .old = none
  · rw [innerProcessDeleteOldPath_of_missing hold]
    by_cases htemp : s.dirs .temp = none
    · rw [if_pos htemp]
      exact ⟨always_nil.mpr (htidy s rfl rfl hnew), hnew, hold, htemp⟩
    · rw [if_neg htemp]
      exact hlast s rfl rfl hnew hold
  · rw [innerProcessDeleteOldPath_of_there hold]
    have hmoved : ((s.setDir .temp (s.dirs .old)).setDir .old none).dirs .new = none := by
      rw [Slot.setDir_dirs_of_ne _ (by decide), Slot.setDir_dirs_of_ne _ (by decide)]
      exact hnew
    obtain ⟨halways, hclean⟩ := hlast ((s.setDir .temp (s.dirs .old)).setDir .old none) rfl rfl hmoved
      (Slot.setDir_dirs_self _ _ _)
    refine ⟨always_append.mpr ⟨always_move (by decide) (fun files => ?_) (htidy _ rfl rfl hmoved), ?_⟩, ?_⟩
    · refine htidy _ rfl rfl ?_
      rw [Slot.setDir_dirs_of_ne _ (by decide)]
      exact hnew
    · rw [show List.foldl Slot.apply s _ = _ from run_move (by decide) s]
      exact halways
    · rw [Slot.run_append, run_move (by decide)]
      exact hclean

/-- **Recovery, cut short**: it leaves the bundle tidy unless the record is deleted before the
end. -/
theorem Slot.Tidy.handle_cut (h : s.Tidy) {pre : List Effect} (hpre : pre <+: handleBundleExceptionInfo s) :
    (.deleteRecord ∈ pre → pre = handleBundleExceptionInfo s) ∧ (s.run pre).Tidy ∨
    (.deleteRecord ∈ pre ∧ pre ≠ handleBundleExceptionInfo s) ∧ (s.run pre).record = none ∧
      (s.run pre).dirs .new ≠ none := by
  by_cases hgoes : s.GoesBack
  · rw [handle_of_goesBack hgoes] at hpre ⊢
    exact goBack_cut hgoes (h.back hgoes) hpre
  refine .inl ?_
  rcases handle_of_not_goesBack hgoes with ⟨-, hhandle⟩ | ⟨info, hrecord, ⟨hstatus, hhandle⟩ | ⟨hstatus, hhandle⟩⟩
  · rw [hhandle] at hpre ⊢
    rw [List.prefix_nil.mp hpre]
    exact ⟨fun _ => rfl, h⟩
  · rw [hhandle] at hpre ⊢
    obtain ⟨hold, htemp⟩ := h.create info hrecord hstatus
    exact ⟨deleteRecord_last deleteRecord_not_mem_removeDir hpre,
      (createNewDir_tidy hrecord hstatus hold htemp).1 pre hpre⟩
  · rw [hhandle] at hpre ⊢
    exact ⟨deleteRecord_mem_deleteOldPath hpre,
      (deleteOldPath_tidy hrecord hstatus hgoes (h.ahead info hrecord hstatus hgoes)).1 pre hpre⟩

/-- After a recovery that is not cut short, only the code directory is there. -/
theorem Slot.Tidy.handled_clean (h : s.Tidy) : (s.run (handleBundleExceptionInfo s)).Clean := by
  by_cases hgoes : s.GoesBack
  · rw [handle_of_goesBack hgoes]
    have htemp := h.back hgoes
    rcases goBack_cases s with ⟨hold, -, hback⟩ | hback
    · rw [hback, run_removeDir]
      refine ⟨Slot.setDir_dirs_self _ _ _, ?_, ?_⟩
      · rw [Slot.setDir_dirs_of_ne _ (by decide)]
        exact hold
      · rw [Slot.setDir_dirs_of_ne _ (by decide)]
        exact htemp
    · rcases goBack_cut hgoes htemp (List.prefix_refl _) with ⟨-, htidy⟩ | ⟨⟨-, hne⟩, -⟩
      · refine htidy.rest ?_
        rw [hback, Slot.run_append, Slot.run_cons]
        exact (record_run_removeDir _ _)
      · exact absurd rfl hne
  rcases handle_of_not_goesBack hgoes with ⟨hrecord, hhandle⟩ | ⟨info, hrecord, ⟨hstatus, hhandle⟩ | ⟨hstatus, hhandle⟩⟩
  · rw [hhandle]
    exact h.rest hrecord
  · rw [hhandle]
    obtain ⟨hold, htemp⟩ := h.create info hrecord hstatus
    exact (createNewDir_tidy hrecord hstatus hold htemp).2
  · rw [hhandle]
    exact (deleteOldPath_tidy hrecord hstatus hgoes (h.ahead info hrecord hstatus hgoes)).2

theorem handle_version (s : Slot) : (s.run (handleBundleExceptionInfo s)).version = s.version := by
  have hremove : ∀ (dir : Dir) (s s' : Slot), (s.run (removeDir dir s')).version = s.version := by
    intro dir s s'
    unfold removeDir
    split <;> rfl
  by_cases hgoes : s.GoesBack
  · rw [handle_of_goesBack hgoes]
    rcases goBack_cases s with ⟨-, -, hback⟩ | hback
    · rw [hback]
      exact hremove .new s s
    · rw [hback, Slot.run_append, Slot.run_cons, hremove]
      show (s.run (untilRecord s)).version = s.version
      unfold untilRecord
      split
      · rfl
      · rw [run_move (by decide)]
        rfl
  · have haway : StepRun.Always Slot.apply (SameReal s) s (handleBundleExceptionInfo s) :=
      always_sameReal fun e he => away_of_not_goesBack hgoes he
    exact haway.last.2.1

end Recovery

/-! ## Update -/

section Update

variable {s : Slot}

theorem filling_frame (oldVersionCode version : Nat) {dir : Dir} (h : dir ≠ .new) :
    (s.run (filling oldVersionCode version)).dirs dir = s.dirs dir := by
  show (((s.apply _).apply (.beginFill version)).apply (.endFill version)).dirs dir = _
  rw [(Slot.apply_fill_dirs_of_ne _ version h).2, (Slot.apply_fill_dirs_of_ne _ version h).1]
  rfl

theorem always_filling (htidy : s.Tidy) (h : s.Clean) (oldVersionCode version : Nat) :
    StepRun.Always Slot.apply Slot.Tidy s (filling oldVersionCode version) := by
  obtain ⟨-, hold, htemp⟩ := h
  have hframe := fun dir (hne : dir ≠ Dir.new) => @filling_frame s oldVersionCode version dir hne
  have hfirst := fun dir (hne : dir ≠ Dir.new) =>
    ((s.apply (.saveRecord { status := .createNewDir })).apply_fill_dirs_of_ne version hne).1
  unfold filling
  simp only [always_cons, always_nil]
  refine ⟨htidy, tidy_of_create rfl rfl hold htemp, tidy_of_create rfl rfl ?_ ?_, tidy_of_create rfl rfl ?_ ?_,
    tidy_of_goesBack ⟨_, rfl, .inl rfl⟩ ?_⟩
  · exact (hfirst .old (by decide)).trans hold
  · exact (hfirst .temp (by decide)).trans htemp
  · exact (hframe .old (by decide)).trans hold
  · exact (hframe .temp (by decide)).trans htemp
  · exact (hframe .temp (by decide)).trans htemp

/-- From the record of the first rename to the one that asks for `+old-` to be removed. -/
theorem always_replacing {info : InstallExceptionInfo} (hrecord : s.record = some info)
    (hstatus : info.status = .renameRelaToOldPath) (htemp : s.dirs .temp = none) (version : Nat) :
    StepRun.Always Slot.apply Slot.Tidy s (replacing s.version version) := by
  unfold replacing
  simp only [always_cons, always_nil]
  refine ⟨tidy_of_goesBack ⟨info, hrecord, .inl hstatus⟩ htemp,
    tidy_of_goesBack ⟨_, rfl, .inr ⟨rfl, rfl⟩⟩ htemp, tidy_of_goesBack ⟨_, rfl, .inr ⟨rfl, rfl⟩⟩ ?_, ?_,
    tidy_of_ahead rfl (by decide) (not_goesBack_of_status rfl (.inr rfl)) (by simp)⟩
  · simpa using htemp
  · by_cases hversion : version = s.version
    · exact tidy_of_goesBack ⟨_, rfl, .inr ⟨rfl, hversion⟩⟩ (by simpa using htemp)
    · refine tidy_of_ahead rfl nofun ?_ (by simp)
      rintro ⟨info', hinfo, hback | ⟨-, hback⟩⟩
      · cases hinfo
        cases hback
      · cases hinfo
        exact hversion hback

theorem replacing_frame (oldVersionCode version : Nat) :
    (s.run (replacing oldVersionCode version)).dirs .new = none ∧
    (s.run (replacing oldVersionCode version)).dirs .old = s.dirs .old ∧
    (s.run (replacing oldVersionCode version)).dirs .temp = s.dirs .temp := by
  simp [replacing]

/-- What the record of the end asks for: `+old-` is removed if it was set. -/
theorem always_droppingOld {s₀ : Slot} {info : InstallExceptionInfo} (hrecord : s.record = some info)
    (hstatus : info.status = .deleteOldPath) (hnew : s.dirs .new = none) (htemp : s.dirs .temp = none)
    (hold : s₀.dirs .real = none → s.dirs .old = none) :
    StepRun.Always Slot.apply Slot.Tidy s (droppingOld s₀) ∧ (s.run (droppingOld s₀)).Clean := by
  have htidy : ∀ s' : Slot, s'.record = some info → s'.dirs .new = none → s'.Tidy := fun s' hr hn =>
    tidy_of_ahead hr (by rw [hstatus]; decide) (not_goesBack_of_status hr (.inr hstatus)) hn
  unfold droppingOld
  by_cases hreal : s₀.dirs .real = none
  · rw [if_pos hreal]
    exact ⟨always_nil.mpr (htidy s hrecord hnew), hnew, hold hreal, htemp⟩
  · rw [if_neg hreal]
    simp only [always_cons, always_nil]
    refine ⟨⟨htidy s hrecord hnew, htidy _ hrecord ?_, htidy _ hrecord ?_, htidy _ hrecord ?_⟩, ?_⟩
    · simpa using hnew
    · simpa using hnew
    · simpa using hnew
    · simpa [Slot.Clean] using hnew

theorem always_updateTail (htidy : s.Tidy) (h : s.Clean) (version : Nat) :
    StepRun.Always Slot.apply Slot.Tidy s (updateTail s.version version s) := by
  rw [updateTail_of_clean h]
  have hfilling := always_filling htidy h s.version version
  obtain ⟨hnew, hold, htemp⟩ := h
  let filled := s.run (filling s.version version)
  let set := filled.run (settingOld s)
  have hsetting : StepRun.Always Slot.apply Slot.Tidy filled (settingOld s) ∧ set.record = filled.record ∧
      set.version = filled.version ∧ set.dirs .temp = none ∧ (s.dirs .real = none → set.dirs .old = none) := by
    have htemp' : filled.dirs .temp = none := (filling_frame _ _ (by decide)).trans htemp
    have hold' : filled.dirs .old = none := (filling_frame _ _ (by decide)).trans hold
    show StepRun.Always Slot.apply Slot.Tidy filled (settingOld s) ∧ (filled.run (settingOld s)).record = _ ∧
      (filled.run (settingOld s)).version = _ ∧ (filled.run (settingOld s)).dirs .temp = none ∧
      (s.dirs .real = none → (filled.run (settingOld s)).dirs .old = none)
    unfold settingOld
    by_cases hreal : s.dirs .real = none
    · rw [if_pos hreal]
      exact ⟨always_nil.mpr hfilling.last, rfl, rfl, htemp', fun _ => hold'⟩
    · rw [if_neg hreal]
      refine ⟨always_cons.mpr ⟨hfilling.last, always_nil.mpr ?_⟩, rfl, rfl, by simpa using htemp', fun h => absurd h hreal⟩
      exact tidy_of_goesBack ⟨_, rfl, .inl rfl⟩ (by simpa using htemp')
  obtain ⟨hset, hrecord, hversion, hsettemp, hsetold⟩ := hsetting
  obtain ⟨hnew', hold', htemp'⟩ := @replacing_frame set s.version version
  obtain ⟨hdropping, hclean⟩ := @always_droppingOld (set.run (replacing s.version version)) s { status := .deleteOldPath }
    rfl rfl hnew' (htemp'.trans hsettemp) (fun hreal => hold'.trans (hsetold hreal))
  refine always_append.mpr ⟨hfilling, always_append.mpr ⟨hset, always_append.mpr ⟨?_, always_append.mpr ⟨hdropping, ?_⟩⟩⟩⟩
  · have hreplacing := always_replacing (hrecord.trans rfl) rfl hsettemp version
    rw [hversion] at hreplacing
    exact hreplacing
  · exact always_cons.mpr ⟨hdropping.last, always_nil.mpr (tidy_of_none rfl hclean)⟩

end Update

/-! ## The theorem -/

/-- The effects of an operation on one bundle, before it is cut short. -/
theorem own_effects {d : Device} {name : Str} {s : Slot} (hs : d[name]? = some s) (op : Op) :
    own name (op.effects d) <+: handleBundleExceptionInfo s ∨
    ∃ version, own name (op.effects d) <+: update version s := by
  have hcut : ∀ (k : Nat) (es : List (Str × Effect)), own name (es.take k) <+: own name es := fun k es =>
    (List.take_prefix k es).filterMap _
  cases op with
  | update name' version cut =>
    have hown := hcut cut (d.onBundle name' (CodePath.update version))
    rw [Device.own_onBundle hs] at hown
    split at hown
    · exact .inr ⟨version, hown⟩
    · exact .inl (hown.trans List.nil_prefix)
  | handle name' cut =>
    have hown := hcut cut (d.onBundle name' handleBundleExceptionInfo)
    rw [Device.own_onBundle hs] at hown
    split at hown
    · exact .inl hown
    · exact .inl (hown.trans List.nil_prefix)
  | handleAll cut =>
    have hown := hcut cut d.handleAllBundleExceptionInfo
    rw [Device.own_handleAll hs] at hown
    exact .inl hown

/-- What a cut leaves of one bundle. -/
theorem Slot.Tidy.cut {s : Slot} (h : s.Tidy) {pre : List Effect}
    (hpre : pre <+: handleBundleExceptionInfo s ∨ ∃ version, pre <+: update version s) :
    (.deleteRecord ∈ pre → handleBundleExceptionInfo s <+: pre) ∧ (s.run pre).Tidy ∨
    ¬ (.deleteRecord ∈ pre → handleBundleExceptionInfo s <+: pre) ∧ (s.run pre).record = none ∧
      ¬ (s.run pre).Clean := by
  have hhandle : pre <+: handleBundleExceptionInfo s →
      (.deleteRecord ∈ pre → handleBundleExceptionInfo s <+: pre) ∧ (s.run pre).Tidy ∨
      ¬ (.deleteRecord ∈ pre → handleBundleExceptionInfo s <+: pre) ∧ (s.run pre).record = none ∧
        ¬ (s.run pre).Clean := by
    intro hpre
    rcases h.handle_cut hpre with ⟨hlast, htidy⟩ | ⟨⟨hmem, hne⟩, hrecord, hnew⟩
    · exact .inl ⟨fun hmem => (hlast hmem) ▸ List.prefix_refl _, htidy⟩
    · refine .inr ⟨fun hspare => hne ?_, hrecord, fun hclean => hnew hclean.1⟩
      exact hpre.eq_of_length_le (hspare hmem).length_le
  rcases hpre with hpre | ⟨version, hpre⟩
  · exact hhandle hpre
  · rw [update_eq] at hpre
    rcases cut_of_append hpre with hpre | ⟨tail, htail, rfl⟩
    · exact hhandle hpre
    · refine .inl ⟨fun _ => List.prefix_append _ _, ?_⟩
      have htidy : (s.run (handleBundleExceptionInfo s)).Tidy := by
        rcases h.handle_cut (List.prefix_refl _) with ⟨-, htidy⟩ | ⟨⟨-, hne⟩, -⟩
        · exact htidy
        · exact absurd rfl hne
      rw [Slot.run_append]
      have halways := always_updateTail htidy h.handled_clean version
      rw [handle_version] at halways
      exact halways tail htail

/-- **Rotation without residue**: from bundles at rest, every state of a run of updates and
recoveries that are cut short anywhere is without residue iff no cut falls in a recovery
after the record was deleted. -/
theorem no_residue_iff (d : Device) (hrest : ∀ (name : Str) (s : Slot), d[name]? = some s → s.record = none ∧ s.Clean)
    (ops : List Op) : StepRun.Always step NoResidue d ops ↔ Each step CutsSpareRecords d ops := by
  let inv : Device → Prop := fun d => ∀ (name : Str) (s : Slot), d[name]? = some s → s.Tidy
  have hcell : ∀ (d : Device) (op : Op) (name : Str) (s' : Slot), (step d op)[name]? = some s' →
      ∃ s, d[name]? = some s ∧ s' = s.run (own name (op.effects d)) := by
    intro d op name s' hs'
    unfold step at hs'
    rw [Device.getElem?_run, Option.map_eq_some_iff] at hs'
    obtain ⟨s, hs, rfl⟩ := hs'
    exact ⟨s, hs, rfl⟩
  refine @always_iff_each_of_inv Device Op step inv CutsSpareRecords NoResidue ?_ ?_ ?_ d ops ?_
  · intro d htidy name s hs hrecord
    exact (htidy name s hs).rest hrecord
  · intro d op htidy hspare name s' hs'
    obtain ⟨s, hs, rfl⟩ := hcell d op name s' hs'
    rcases (htidy name s hs).cut (own_effects hs op) with ⟨-, htidy'⟩ | ⟨hcut, -⟩
    · exact htidy'
    · exact absurd (hspare name s hs) hcut
  · intro d op htidy hspare hgood
    simp only [CutsSpareRecords, not_forall] at hspare
    obtain ⟨name, s, hs, hmem, hcut⟩ := hspare
    rcases (htidy name s hs).cut (own_effects hs op) with ⟨hok, -⟩ | ⟨-, hrecord, hclean⟩
    · exact hcut (hok hmem)
    · refine hclean (hgood name (s.run (own name (op.effects d))) ?_ hrecord)
      unfold step
      rw [Device.getElem?_run, hs]
      rfl
  · intro name s hs
    exact tidy_of_none (hrest name s hs).1 (hrest name s hs).2

/-- The service dies after the code directory has become `+old-`, and again after the recovery
has moved it back and deleted the record. -/
def lostRecordRun : List Op := [.update "com.a".toList 2 5, .handleAll 2]

theorem no_residue_iff_oneBundle :
    (∀ (name : Str) (s : Slot), oneBundle[name]? = some s → s.record = none ∧ s.Clean) ∧
    (StepRun.Always step NoResidue oneBundle lostRecordRun ↔ Each step CutsSpareRecords oneBundle lostRecordRun) := by
  have hrest : ∀ (name : Str) (s : Slot), oneBundle[name]? = some s → s.record = none ∧ s.Clean := by
    intro name s hs
    unfold oneBundle at hs
    rw [ExtTreeMap.getElem?_insert] at hs
    split at hs
    · cases hs
      exact ⟨rfl, rfl, rfl, rfl⟩
    · simp at hs
  exact ⟨hrest, no_residue_iff oneBundle hrest lostRecordRun⟩

/-- `+new-` of the update that was cut short stays without a record. -/
theorem new_dir_left_behind : ¬ StepRun.Always step NoResidue oneBundle lostRecordRun := by
  intro h
  have hlast := h.last "com.a".toList
  have hleft : ((lostRecordRun.foldl step oneBundle)["com.a".toList]?.map fun s => (s.record, s.dirs .new)) =
      some (none, some (.whole 2)) := by
    decide +kernel
  obtain ⟨s, hs, hfields⟩ := Option.map_eq_some_iff.mp hleft
  obtain ⟨hrecord, hnew⟩ := Prod.mk.inj hfields
  have hclean := (hlast s hs hrecord).1
  rw [hnew] at hclean
  cases hclean

end BundleFramework.CodePath
