import BundleFramework.Zip.Unzip

/-!
# Entries side by side

The tasks of the parallel way take turns at any call.  Calls that succeed leave a file system that
depends on which they were, not on their order (`Performed`), as long as no two entries are files of
one place with different contents.  So the parallel way ends as the sequential one does
(`parallel_agrees`).
-/

namespace BundleFramework.Libzip

variable {α : Type}

/-! ## Algorithm -/

/-- The loop of the main task has come to its end. -/
def allRead (needChangePathSeparator : Bool) (destDir : Str) (entries : List (Option (ZipEntry α))) : Bool :=
  entries.all fun entry => (entryCalls needChangePathSeparator destDir entry).isSome

/-! ## What calls leave -/

/-- Files of one place have one content. -/
def OneContent (calls : List (Call α)) : Prop :=
  ∀ p q content content', .write p content ∈ calls → .write q content' ∈ calls → placeOf p = placeOf q →
    content = content'

/-- No call asks for what another one, or the file system, stands in the way of. -/
structure Compatible (fs : FileSys α) (calls : List (Call α)) : Prop where
  valid : .invalid ∉ calls
  dir : ∀ p, .createDirectory p ∈ calls → fs.isDir (placeOf p) = true ∨ fs.file (placeOf p) = none
  write : ∀ p content, .write p content ∈ calls → ¬ fs.isDir (placeOf p) = true
  apart : ∀ p q content, .createDirectory p ∈ calls → .write q content ∈ calls → placeOf p ≠ placeOf q

/-- The calls of `done` have led from `fs` to `fs'`. -/
structure Performed (fs : FileSys α) (done : List (Call α)) (fs' : FileSys α) : Prop where
  isDir : ∀ place, fs'.isDir place = true ↔
    fs.isDir place = true ∨ ∃ p, .createDirectory p ∈ done ∧ placeOf p = place
  written : ∀ p content, .write p content ∈ done → fs'.file (placeOf p) = some content
  kept : ∀ place, (∀ p content, .write p content ∈ done → placeOf p ≠ place) → fs'.file place = fs.file place
  compatible : Compatible fs done

theorem OneContent.mono {calls calls' : List (Call α)} (h : OneContent calls') (hsub : calls ⊆ calls') :
    OneContent calls :=
  fun p q content content' hp hq => h p q content content' (hsub hp) (hsub hq)

theorem Compatible.mono {fs : FileSys α} {calls calls' : List (Call α)} (h : Compatible fs calls')
    (hsub : calls ⊆ calls') : Compatible fs calls where
  valid hmem := h.valid (hsub hmem)
  dir p hp := h.dir p (hsub hp)
  write p content hp := h.write p content (hsub hp)
  apart p q content hp hq := h.apart p q content (hsub hp) (hsub hq)

theorem Performed.refl (fs : FileSys α) : Performed fs [] fs where
  isDir place := by simp
  written p content hmem := (List.not_mem_nil hmem).elim
  kept place _ := rfl
  compatible := ⟨List.not_mem_nil, fun p hmem => (List.not_mem_nil hmem).elim,
    fun p content hmem => (List.not_mem_nil hmem).elim, fun p q content hmem => (List.not_mem_nil hmem).elim⟩

/-- The same calls lead to the same file system. -/
theorem Performed.unique {fs fs' fs'' : FileSys α} {done done' : List (Call α)} (h : Performed fs done fs')
    (h' : Performed fs done' fs'') (hmem : ∀ call, call ∈ done ↔ call ∈ done') : fs' = fs'' := by
  have hdir : fs'.isDir = fs''.isDir := by
    funext place
    rw [Bool.eq_iff_iff, h.isDir, h'.isDir]
    simp only [hmem]
  have hfile : fs'.file = fs''.file := by
    funext place
    by_cases hex : ∃ p content, .write p content ∈ done ∧ placeOf p = place
    · obtain ⟨p, content, hp, rfl⟩ := hex
      rw [h.written p content hp, h'.written p content ((hmem _).mp hp)]
    · have hnone : ∀ p content, .write p content ∈ done → placeOf p ≠ place :=
        fun p content hp heq => hex ⟨p, content, hp, heq⟩
      rw [h.kept place hnone, h'.kept place fun p content hp => hnone p content ((hmem _).mpr hp)]
  cases fs'
  cases fs''
  cases hdir
  cases hfile
  rfl

/-- A call whose directory is there changes nothing. -/
theorem Performed.present {fs fs' : FileSys α} {done : List (Call α)} (h : Performed fs done fs') {path : Str}
    (hdir : fs'.isDir (placeOf path) = true) : Performed fs (done ++ [.createDirectory path]) fs' := by
  have hold : ∀ p content, Call.write p content ∈ done ++ [.createDirectory path] → .write p content ∈ done :=
    fun p content hmem => (List.mem_append.mp hmem).elim id fun h => nomatch List.mem_singleton.mp h
  have hgives := (h.isDir _).mp hdir
  refine ⟨fun place => ?_, fun p content hmem => h.written p content (hold p content hmem), ?_, ?_, ?_, ?_, ?_⟩
  · rw [h.isDir]
    refine or_congr_right' fun hnone => ⟨fun ⟨p, hp, heq⟩ => ⟨p, List.mem_append_left _ hp, heq⟩, ?_⟩
    rintro ⟨p, hp, heq⟩
    rcases List.mem_append.mp hp with hp | hp
    · exact ⟨p, hp, heq⟩
    · cases List.mem_singleton.mp hp
      rw [← heq] at hnone ⊢
      exact hgives.resolve_left hnone
  · exact fun place hnone => h.kept place fun p content hp => hnone p content (List.mem_append_left _ hp)
  · exact fun hmem => h.compatible.valid ((List.mem_append.mp hmem).elim id fun h => nomatch List.mem_singleton.mp h)
  · intro p hp
    rcases List.mem_append.mp hp with hp | hp
    · exact h.compatible.dir p hp
    · cases List.mem_singleton.mp hp
      rcases hgives with hfirst | ⟨q, hq, heq⟩
      · exact .inl hfirst
      · rw [← heq]
        exact h.compatible.dir q hq
  · exact fun p content hp => h.compatible.write p content (hold p content hp)
  · intro p q content hp hq
    rcases List.mem_append.mp hp with hp | hp
    · exact h.compatible.apart p q content hp (hold q content hq)
    · cases List.mem_singleton.mp hp
      rcases hgives with hfirst | ⟨p', hp', heq⟩
      · intro heq
        rw [heq] at hfirst
        exact h.compatible.write q content (hold q content hq) hfirst
      · rw [← heq]
        exact h.compatible.apart p' q content hp' (hold q content hq)

theorem Performed.made {fs fs' : FileSys α} {done : List (Call α)} (h : Performed fs done fs') {path : Str}
    (hfile : fs'.file (placeOf path) = none) : Performed fs (done ++ [.createDirectory path])
      { fs' with isDir := Function.update fs'.isDir (placeOf path) true } := by
  have hold : ∀ p content, Call.write p content ∈ done ++ [.createDirectory path] → .write p content ∈ done :=
    fun p content hmem => (List.mem_append.mp hmem).elim id fun h => nomatch List.mem_singleton.mp h
  have hnone : ∀ p content, .write p content ∈ done → placeOf p ≠ placeOf path := by
    intro p content hp heq
    have hsome := h.written p content hp
    rw [heq, hfile] at hsome
    cases hsome
  refine ⟨fun place => ?_, fun p content hmem => h.written p content (hold p content hmem), ?_, ?_, ?_, ?_, ?_⟩
  · show Function.update fs'.isDir (placeOf path) true place = true ↔ _
    rw [Function.update_apply]
    split
    · next heq =>
      exact ⟨fun _ => .inr ⟨path, List.mem_append_right _ (List.mem_singleton.mpr rfl), heq.symm⟩, fun _ => rfl⟩
    · next hne =>
      rw [h.isDir]
      refine or_congr_right ⟨fun ⟨p, hp, heq⟩ => ⟨p, List.mem_append_left _ hp, heq⟩, ?_⟩
      rintro ⟨p, hp, heq⟩
      rcases List.mem_append.mp hp with hp | hp
      · exact ⟨p, hp, heq⟩
      · cases List.mem_singleton.mp hp
        exact absurd heq.symm hne
  · exact fun place hnone => h.kept place fun p content hp => hnone p content (List.mem_append_left _ hp)
  · exact fun hmem => h.compatible.valid ((List.mem_append.mp hmem).elim id fun h => nomatch List.mem_singleton.mp h)
  · intro p hp
    rcases List.mem_append.mp hp with hp | hp
    · exact h.compatible.dir p hp
    · cases List.mem_singleton.mp hp
      rw [← h.kept _ hnone]
      exact .inr hfile
  · exact fun p content hp => h.compatible.write p content (hold p content hp)
  · intro p q content hp hq
    rcases List.mem_append.mp hp with hp | hp
    · exact h.compatible.apart p q content hp (hold q content hq)
    · cases List.mem_singleton.mp hp
      exact (hnone q content (hold q content hq)).symm

theorem Performed.wrote {fs fs' : FileSys α} {done : List (Call α)} (h : Performed fs done fs') {path : Str}
    {content : α} (hone : OneContent (done ++ [.write path content])) (hdir : ¬ fs'.isDir (placeOf path) = true) :
    Performed fs (done ++ [.write path content])
      { fs' with file := Function.update fs'.file (placeOf path) (some content) } := by
  have hold : ∀ p, Call.createDirectory p ∈ done ++ [.write path content] → .createDirectory p ∈ done :=
    fun p hmem => (List.mem_append.mp hmem).elim id fun h => nomatch List.mem_singleton.mp h
  have hlast : .write path content ∈ done ++ [.write path content] :=
    List.mem_append_right _ (List.mem_singleton.mpr rfl)
  have hnone := fun hgives => hdir ((h.isDir _).mpr hgives)
  refine ⟨fun place => ?_, fun p content' hmem => ?_, fun place hother => ?_, ?_, ?_, ?_, ?_⟩
  · rw [h.isDir]
    exact or_congr_right ⟨fun ⟨p, hp, heq⟩ => ⟨p, List.mem_append_left _ hp, heq⟩, fun ⟨p, hp, heq⟩ => ⟨p, hold p hp, heq⟩⟩
  · show Function.update fs'.file (placeOf path) (some content) (placeOf p) = some content'
    rw [Function.update_apply]
    split
    · next heq => rw [hone p path content' content hmem hlast heq]
    · next hne =>
      rcases List.mem_append.mp hmem with hp | hp
      · exact h.written p content' hp
      · cases List.mem_singleton.mp hp
        exact absurd rfl hne
  · have hne : place ≠ placeOf path := (hother path content hlast).symm
    exact (Function.update_of_ne hne _ _).trans
      (h.kept place fun p content' hp => hother p content' (List.mem_append_left _ hp))
  · exact fun hmem => h.compatible.valid ((List.mem_append.mp hmem).elim id fun h => nomatch List.mem_singleton.mp h)
  · exact fun p hp => h.compatible.dir p (hold p hp)
  · intro p content' hp
    rcases List.mem_append.mp hp with hp | hp
    · exact h.compatible.write p content' hp
    · cases List.mem_singleton.mp hp
      exact fun hfirst => hnone (.inl hfirst)
  · intro p q content' hp hq
    rcases List.mem_append.mp hq with hq | hq
    · exact h.compatible.apart p q content' (hold p hp) hq
    · cases List.mem_singleton.mp hq
      exact fun heq => hnone (.inr ⟨p, hold p hp, heq⟩)

/-- One more call that succeeds. -/
theorem Performed.run {fs fs' fs'' : FileSys α} {done : List (Call α)} (h : Performed fs done fs') {call : Call α}
    (hone : OneContent (done ++ [call])) {answer : Answer α} (hrun : call.run answer fs' = (true, fs'')) :
    Performed fs (done ++ [call]) fs'' := by
  cases call with
  | invalid => cases hrun
  | createDirectory path =>
    unfold Call.run at hrun
    simp only at hrun
    split at hrun
    · next hdir =>
      cases hrun
      exact h.present hdir
    · split at hrun
      · next hfile =>
        cases hrun
        exact h.made hfile
      · cases hrun
  | write path content =>
    unfold Call.run at hrun
    simp only at hrun
    split at hrun
    · cases hrun
    · next hdir =>
      split at hrun
      · cases hrun
        exact h.wrote hone hdir
      · cases hrun
      · cases hrun

/-- Among calls that are compatible, the next one succeeds if the system does not refuse it. -/
theorem Performed.succeeds {fs fs' : FileSys α} {done all : List (Call α)} (h : Performed fs done fs')
    (hall : Compatible fs all) (hsub : done ⊆ all) {call : Call α} (hcall : call ∈ all) :
    (call.run .done fs').1 = true := by
  cases call with
  | invalid => exact absurd hcall hall.valid
  | createDirectory path =>
    unfold Call.run
    simp only
    split
    · rfl
    · next hdir =>
      have hfile : fs'.file (placeOf path) = none := by
        rw [h.kept _ fun p content hp => (hall.apart path p content hcall (hsub hp)).symm]
        exact (hall.dir path hcall).resolve_left fun hfirst => hdir ((h.isDir _).mpr (.inl hfirst))
      rw [hfile]
  | write path content =>
    have hdir : ¬ fs'.isDir (placeOf path) = true := by
      intro hdir
      rcases (h.isDir _).mp hdir with hfirst | ⟨p, hp, heq⟩
      · exact hall.write path content hcall hfirst
      · exact hall.apart p path content (hsub hp) hcall heq
    unfold Call.run
    simp only
    rw [if_neg hdir]

/-! ## One after the other -/

theorem runCalls_performed {fs : FileSys α} {calls : List (Call α)} (answers : List (Answer α)) {done : List (Call α)}
    {fs' fs'' : FileSys α} (h : Performed fs done fs') (hone : OneContent (done ++ calls))
    (hrun : runCalls calls answers fs' = (true, fs'')) : Performed fs (done ++ calls) fs'' := by
  induction calls generalizing answers done fs' with
  | nil =>
    cases hrun
    rwa [List.append_nil]
  | cons call calls ih =>
    rw [← List.singleton_append, ← List.append_assoc] at hone ⊢
    rw [runCalls] at hrun
    split at hrun
    · next heq =>
      exact ih _ (h.run (hone.mono (List.subset_append_left _ _)) heq) hone hrun
    · cases hrun

theorem runCalls_succeeds {fs : FileSys α} {all calls : List (Call α)} {done : List (Call α)} {fs' : FileSys α}
    (h : Performed fs done fs') (hall : Compatible fs all) (hone : OneContent all) (hdone : done ⊆ all)
    (hcalls : calls ⊆ all) : (runCalls calls [] fs').1 = true := by
  induction calls generalizing done fs' with
  | nil => rfl
  | cons call calls ih =>
    have hcall := hcalls List.mem_cons_self
    have hsucc := h.succeeds hall hdone hcall
    have hsub : done ++ [call] ⊆ all := by
      intro c hc
      rcases List.mem_append.mp hc with hc | hc
      · exact hdone hc
      · exact List.mem_singleton.mp hc ▸ hcall
    rw [runCalls]
    simp only [List.headD_nil, List.tail_nil]
    split
    · next heq =>
      exact ih (h.run (hone.mono hsub) heq) hsub fun c hc => hcalls (List.mem_cons_of_mem _ hc)
    · next heq =>
      rw [heq] at hsucc
      cases hsucc

theorem runCalls_append (calls calls' : List (Call α)) (fs : FileSys α) :
    runCalls (calls ++ calls') [] fs =
      match runCalls calls [] fs with
      | (true, fs) => runCalls calls' [] fs
      | (false, fs) => (false, fs) := by
  induction calls generalizing fs with
  | nil => rfl
  | cons call calls ih =>
    rw [List.cons_append, runCalls, runCalls]
    simp only [List.headD_nil, List.tail_nil]
    cases call.run .done fs with
    | mk success fs' =>
      cases success with
      | true => exact ih fs'
      | false => rfl

/-- The entries one after the other are their calls one after the other. -/
theorem unzipSequential_eq (flag : Bool) (destDir : Str) (entries : List (Option (ZipEntry α))) (fs : FileSys α) :
    (unzipSequential flag destDir (entries.map fun entry => (entry, [])) fs).1 =
        (allRead flag destDir entries && (runCalls (submitted flag destDir entries).flatten [] fs).1) ∧
      ((unzipSequential flag destDir (entries.map fun entry => (entry, [])) fs).1 = true →
        (unzipSequential flag destDir (entries.map fun entry => (entry, [])) fs).2 =
          (runCalls (submitted flag destDir entries).flatten [] fs).2) := by
  induction entries generalizing fs with
  | nil => exact ⟨rfl, fun _ => rfl⟩
  | cons entry entries ih =>
    rw [List.map_cons, unzipSequential, submitted, allRead, List.all_cons]
    cases hcalls : entryCalls flag destDir entry with
    | none => exact ⟨rfl, fun h => absurd h Bool.false_ne_true⟩
    | some calls =>
      simp only [Option.isSome_some, Bool.true_and]
      rw [List.flatten_cons, runCalls_append]
      cases hrun : runCalls calls [] fs with
      | mk success fs' =>
        cases success with
        | true => exact ih fs'
        | false => exact ⟨by simp, fun h => absurd h Bool.false_ne_true⟩

/-! ## Side by side -/

/-- What holds at any moment of the parallel way, when the system refuses nothing. -/
structure SideBySide (fs : FileSys α) (subs : List (List (Call α))) (s : Parallel α) : Prop where
  known : ∀ task ∈ s.tasks, ∀ call ∈ task.calls, call ∈ subs.flatten
  going : s.failed = false → ∃ done : List (Call α), done ⊆ subs.flatten ∧ Performed fs done s.fs ∧
    ∀ (i : Nat) (calls : List (Call α)), subs[i]? = some calls →
      ∃ task, s.tasks[i]? = some task ∧ ∀ call ∈ calls, call ∈ done ∨ call ∈ task.calls
  failed : s.failed = true → ¬ Compatible fs subs.flatten

/-- Task `i` becomes `task`, and `made` are the calls it has done by that. -/
theorem SideBySide.set {fs : FileSys α} {subs : List (List (Call α))} {s : Parallel α} (h : SideBySide fs subs s)
    {i : Nat} {old : Task α} (hold : s.tasks[i]? = some old) (task : Task α) (made : List (Call α)) (fs' : FileSys α)
    (hsub : made ++ task.calls ⊆ old.calls) (hall : old.calls ⊆ made ++ task.calls)
    (hmade : s.failed = false → ∀ done, done ⊆ subs.flatten → Performed fs done s.fs → Performed fs (done ++ made) fs') :
    SideBySide fs subs { s with tasks := s.tasks.set i task, fs := fs' } where
  known t ht call hcall := by
    rcases List.mem_or_eq_of_mem_set ht with ht | rfl
    · exact h.known t ht call hcall
    · exact h.known old (List.mem_of_getElem? hold) call (hsub (List.mem_append_right _ hcall))
  going hgoing := by
    obtain ⟨done, hdone, hperf, htasks⟩ := h.going hgoing
    refine ⟨done ++ made, ?_, hmade hgoing done hdone hperf, fun j calls hj => ?_⟩
    · intro call hcall
      rcases List.mem_append.mp hcall with hcall | hcall
      · exact hdone hcall
      · exact h.known old (List.mem_of_getElem? hold) call (hsub (List.mem_append_left _ hcall))
    · obtain ⟨t, ht, hcalls⟩ := htasks j calls hj
      by_cases hij : i = j
      · subst hij
        obtain ⟨hlt, -⟩ := List.getElem?_eq_some_iff.mp hold
        refine ⟨task, List.getElem?_set_self hlt, fun call hcall => ?_⟩
        rw [ht] at hold
        cases hold
        rcases hcalls call hcall with hd | hd
        · exact .inl (List.mem_append_left _ hd)
        · exact (List.mem_append.mp (hall hd)).imp_left (List.mem_append_right _)
      · refine ⟨t, (List.getElem?_set_ne hij).trans ht, fun call hcall => ?_⟩
        exact (hcalls call hcall).imp_left (List.mem_append_left _)
  failed := h.failed

/-- Task `i` ends in a failure: then the calls cannot all be done. -/
theorem SideBySide.fail {fs : FileSys α} {subs : List (List (Call α))} {s : Parallel α} (h : SideBySide fs subs s)
    (i : Nat) (fs' : FileSys α) (hnot : ¬ Compatible fs subs.flatten) :
    SideBySide fs subs { tasks := s.tasks.set i .ended, failed := true, fs := fs' } where
  known t ht call hcall := by
    rcases List.mem_or_eq_of_mem_set ht with ht | rfl
    · exact h.known t ht call hcall
    · exact (List.not_mem_nil hcall).elim
  going := nofun
  failed _ := hnot

theorem SideBySide.step {fs : FileSys α} {subs : List (List (Call α))} (hone : OneContent subs.flatten)
    {s : Parallel α} (h : SideBySide fs subs s) {i : Nat × Answer α} (hi : i.2 = .done) :
    SideBySide fs subs (parallelStep s i) := by
  obtain ⟨i, answer⟩ := i
  cases hi
  unfold parallelStep
  simp only
  split
  · next calls hget =>
    split
    · next hfailed =>
      -- nothing is said of the calls that a task gives up once another one has failed
      have hnot := h.failed hfailed
      have hfail := h.fail i s.fs hnot
      rw [← hfailed] at hfail
      exact hfail
    · refine h.set hget (.running calls) [] s.fs (List.Subset.refl _) (List.Subset.refl _) fun _ done _ hperf => ?_
      rwa [List.append_nil]
  · next hget =>
    refine h.set hget .ended [] s.fs (List.Subset.refl _) (List.Subset.refl _) fun _ done _ hperf => ?_
    rwa [List.append_nil]
  · next call calls hget =>
    have hknown := h.known _ (List.mem_of_getElem? hget) call List.mem_cons_self
    split
    · next fs' heq =>
      refine h.set hget (.running calls) [call] fs' (List.Subset.refl _) (List.Subset.refl _) ?_
      intro _ done hdone hperf
      refine hperf.run (hone.mono fun c hc => ?_) heq
      rcases List.mem_append.mp hc with hc | hc
      · exact hdone hc
      · exact List.mem_singleton.mp hc ▸ hknown
    · next fs' heq =>
      refine h.fail i fs' fun hcomp => ?_
      cases hfailed : s.failed with
      | true => exact h.failed hfailed hcomp
      | false =>
        obtain ⟨done, hdone, hperf, -⟩ := h.going hfailed
        have hsucc := hperf.succeeds hcomp hdone hknown
        rw [heq] at hsucc
        cases hsucc
  · exact h

theorem SideBySide.start (fs : FileSys α) (subs : List (List (Call α))) :
    SideBySide fs subs { tasks := subs.map .waiting, fs := fs } where
  known task ht call hcall := by
    obtain ⟨calls, hcalls, rfl⟩ := List.mem_map.mp ht
    exact List.mem_flatten.mpr ⟨calls, hcalls, hcall⟩
  going _ := by
    refine ⟨[], List.nil_subset _, .refl fs, fun i calls hi => ⟨.waiting calls, ?_, fun call hcall => .inr hcall⟩⟩
    rw [List.getElem?_map, hi]
    rfl
  failed := nofun

theorem SideBySide.run {fs : FileSys α} {subs : List (List (Call α))} (hone : OneContent subs.flatten)
    {schedule : List (Nat × Answer α)} (hdone : ∀ i ∈ schedule, i.2 = .done) {s : Parallel α}
    (h : SideBySide fs subs s) : SideBySide fs subs (schedule.foldl parallelStep s) := by
  induction schedule generalizing s with
  | nil => exact h
  | cons i schedule ih =>
    exact ih (fun j hj => hdone j (List.mem_cons_of_mem _ hj)) (h.step hone (hdone i List.mem_cons_self))

/-- **The order of the tasks does not matter**: when all tasks have ended, the parallel way has succeeded if and
only if the sequential one does, and with the same result. -/
theorem parallel_agrees (flag : Bool) (destDir : Str) (entries : List (Option (ZipEntry α))) (fs : FileSys α)
    (schedule : List (Nat × Answer α)) (hone : OneContent (submitted flag destDir entries).flatten)
    (hdone : ∀ i ∈ schedule, i.2 = .done)
    (hended : ∀ task ∈ (unzipParallel flag destDir entries fs schedule).tasks, task = .ended) :
    (unzipSequential flag destDir (entries.map fun entry => (entry, [])) fs).1 =
        (allRead flag destDir entries && !(unzipParallel flag destDir entries fs schedule).failed) ∧
      ((unzipSequential flag destDir (entries.map fun entry => (entry, [])) fs).1 = true →
        (unzipSequential flag destDir (entries.map fun entry => (entry, [])) fs).2 =
          (unzipParallel flag destDir entries fs schedule).fs) := by
  have hside := (SideBySide.start fs (submitted flag destDir entries)).run hone hdone
  obtain ⟨hsuccess, hresult⟩ := unzipSequential_eq flag destDir entries fs
  change SideBySide fs _ (unzipParallel flag destDir entries fs schedule) at hside
  have hseq : ∀ fs', runCalls (submitted flag destDir entries).flatten [] fs = (true, fs') →
      Performed fs (submitted flag destDir entries).flatten fs' :=
    fun fs' hrun => runCalls_performed [] (.refl fs) hone hrun
  have hagree : (runCalls (submitted flag destDir entries).flatten [] fs).1 =
        (!(unzipParallel flag destDir entries fs schedule).failed) ∧
      ((unzipParallel flag destDir entries fs schedule).failed = false →
        (runCalls (submitted flag destDir entries).flatten [] fs).2 = (unzipParallel flag destDir entries fs schedule).fs) := by
    cases hfailed : (unzipParallel flag destDir entries fs schedule).failed with
    | true =>
      refine ⟨?_, nofun⟩
      cases hrun : runCalls (submitted flag destDir entries).flatten [] fs with
      | mk success fs' =>
        cases success with
        | false => rfl
        | true => exact absurd (hseq fs' hrun).compatible (hside.failed hfailed)
    | false =>
      obtain ⟨done, hsub, hperf, htasks⟩ := hside.going hfailed
      have hmem : ∀ call, call ∈ done ↔ call ∈ (submitted flag destDir entries).flatten := by
        refine fun call => ⟨fun hcall => hsub hcall, fun hcall => ?_⟩
        obtain ⟨calls, hcalls, hin⟩ := List.mem_flatten.mp hcall
        obtain ⟨i, hi⟩ := List.mem_iff_getElem?.mp hcalls
        obtain ⟨task, htask, hrest⟩ := htasks i calls hi
        refine (hrest call hin).resolve_right fun hleft => ?_
        rw [hended task (List.mem_of_getElem? htask)] at hleft
        exact List.not_mem_nil hleft
      have hcomp := hperf.compatible.mono fun call hcall => (hmem call).mpr hcall
      have htrue := runCalls_succeeds (.refl fs) hcomp hone (List.nil_subset _) (List.Subset.refl _)
      refine ⟨htrue, fun _ => ?_⟩
      exact (hseq _ (Prod.ext htrue rfl)).unique hperf fun call => (hmem call).symm
  rw [hagree.1] at hsuccess
  refine ⟨hsuccess, fun htrue => (hresult htrue).trans (hagree.2 ?_)⟩
  rw [hsuccess, Bool.and_eq_true, Bool.not_eq_true'] at htrue
  exact htrue.2

/-- Two files, the second before the first. -/
theorem parallel_agrees_two :
    (unzipSequential false "/d".toList [(some ⟨"a/b".toList, 1⟩, []), (some ⟨"c".toList, 2⟩, [])]
      ⟨fun place => place.2 <+: ["d".toList], fun _ => none⟩).1 = true ∧
    (unzipSequential false "/d".toList [(some ⟨"a/b".toList, 1⟩, []), (some ⟨"c".toList, 2⟩, [])]
      ⟨fun place => place.2 <+: ["d".toList], fun _ => none⟩).2 =
    (unzipParallel false "/d".toList [some ⟨"a/b".toList, 1⟩, some ⟨"c".toList, 2⟩]
      ⟨fun place => place.2 <+: ["d".toList], fun _ => none⟩
      (((List.replicate 5 1) ++ (List.replicate 6 0)).map fun i => (i, .done))).fs := by
  have hone : OneContent (submitted false "/d".toList [some ⟨"a/b".toList, 1⟩, some ⟨"c".toList, 2⟩]).flatten := by
    intro p q content content' hp hq heq
    have hcalls : (submitted false "/d".toList [some ⟨"a/b".toList, 1⟩, some ⟨"c".toList, 2⟩]).flatten =
        [.createDirectory "/".toList, .createDirectory "/d".toList, .createDirectory "/d/a".toList,
          .write "/d/a/b".toList 1, .createDirectory "/".toList, .createDirectory "/d".toList,
          .write "/d/c".toList 2] := by decide +kernel
    rw [hcalls] at hp hq
    simp only [List.mem_cons, Call.write.injEq, reduceCtorEq, List.not_mem_nil, false_or, or_false] at hp hq
    rcases hp with ⟨rfl, rfl⟩ | ⟨rfl, rfl⟩
    · rcases hq with ⟨rfl, rfl⟩ | ⟨rfl, rfl⟩
      · rfl
      · exact absurd heq (by decide +kernel)
    · rcases hq with ⟨rfl, rfl⟩ | ⟨rfl, rfl⟩
      · exact absurd heq (by decide +kernel)
      · rfl
  obtain ⟨hsuccess, hresult⟩ := parallel_agrees false "/d".toList _ ⟨fun place => place.2 <+: ["d".toList], fun _ => none⟩
    (((List.replicate 5 1) ++ (List.replicate 6 0)).map fun i => (i, .done)) hone (by decide +kernel) (by decide +kernel)
  have htrue := hsuccess.trans (c := true) (by decide +kernel)
  exact ⟨htrue, hresult htrue⟩

end BundleFramework.Libzip
