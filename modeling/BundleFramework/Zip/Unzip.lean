import BundleFramework.Zip.FilePath
import BundleFramework.Lib.StepRun

/-!
# Unpacking an archive

`Unzip` makes the directories above each entry, then the entry.  The entries are taken one after
the other, or each is a task of its own and the tasks run side by side.  In either case nothing
outside of the destination changes, whatever names the archive has (`unzip_confined`), if the
destination is there.

A place is a path without its separators; `..` is a name like others, so links are not followed.
-/

namespace BundleFramework.Libzip

open PathParts NormalPath

/-! ## Algorithm -/

/-- The components of a path, and whether it starts at the root. -/
abbrev Place := Bool × List Str

def placeOf (path : Str) : Place := (path.head? = some '/', components path)

structure FileSys (α : Type) where
  isDir : Place → Bool
  file : Place → Option α

/-- An entry of an archive, with the bytes of its name. -/
structure ZipEntry (α : Type) where
  name : Str
  content : α

variable {α : Type}

def kZipMaxPath : Nat := 256

/-- The name as it fits the buffer, up to a zero. -/
def rawFileNameInZip (entry : ZipEntry α) : Str := (entry.name.take (kZipMaxPath - 1)).takeWhile (· ≠ '\x00')

def entryPath (needChangePathSeparator : Bool) (entry : ZipEntry α) : Str :=
  let name := rawFileNameInZip entry
  if needChangePathSeparator then name.map fun c => if c = '\\' then '/' else c else name

def filePathInDir (extractDir entryPath : Str) : Str :=
  if endsWith extractDir SEPARATOR then extractDir ++ entryPath else extractDir ++ SEPARATOR ++ entryPath

/-- `.*` matches all but the ends of lines. -/
def filePathCheckValid (str : Str) : Bool := str.all fun c => c ≠ '\n' && c ≠ '\r'

/-- A path and the ones above it, up to the one that has nothing above. -/
def subpathsLoop : Nat → Str → List Str
  | 0, _ => []
  | fuel + 1, lastPath =>
    if dirName lastPath = lastPath then [] else dirName lastPath :: subpathsLoop fuel (dirName lastPath)

def subpaths (fullPath : Str) : List Str := fullPath :: subpathsLoop fullPath.length fullPath

/-- What an entry asks of the file system, in its order. -/
inductive Call (α : Type) where
  /-- The directory is there, or is made. -/
  | createDirectory (path : Str)
  | invalid
  | write (path : Str) (content : α)
deriving DecidableEq

def createDirectoryCalls (fullPath : Str) : List (Call α) := (subpaths fullPath).reverse.map .createDirectory

def writerCalls (outputFilePath : Str) (content : α) : List (Call α) :=
  if filePathCheckValid outputFilePath then
    createDirectoryCalls (dirName outputFilePath) ++ [.write outputFilePath content]
  else [.invalid]

/-- `none` for an entry that ends the work: it cannot be read, has no name, or its path refers to a parent. -/
def entryCalls (needChangePathSeparator : Bool) (destDir : Str) (entry : Option (ZipEntry α)) : Option (List (Call α)) :=
  match entry with
  | none => none
  | some entry =>
    if (rawFileNameInZip entry).isEmpty then none
    else
      let path := entryPath needChangePathSeparator entry
      if referencesParent path then none
      else if endsWith path SEPARATOR then some (createDirectoryCalls (filePathInDir destDir path))
      else some (writerCalls (filePathInDir destDir path) entry.content)

/-- What the system answers: the call is done, it is refused, or a file breaks off and has this content. -/
inductive Answer (α : Type) where
  | done
  | refused
  | broken (content : α)
deriving DecidableEq

/-- One call.  A directory that another task makes in the meantime is found by the check that follows. -/
def Call.run (answer : Answer α) (fs : FileSys α) : Call α → Bool × FileSys α
  | .createDirectory path =>
    if fs.isDir (placeOf path) then (true, fs)
    else
      match answer, fs.file (placeOf path) with
      | .done, none => (true, { fs with isDir := Function.update fs.isDir (placeOf path) true })
      | _, _ => (false, fs)
  | .invalid => (false, fs)
  | .write path content =>
    if fs.isDir (placeOf path) then (false, fs)
    else
      match answer with
      | .done => (true, { fs with file := Function.update fs.file (placeOf path) (some content) })
      | .refused => (false, fs)
      | .broken content => (false, { fs with file := Function.update fs.file (placeOf path) (some content) })

/-- The calls one after the other, until one fails.  `answers` are those of the system, in turn. -/
def runCalls : List (Call α) → List (Answer α) → FileSys α → Bool × FileSys α
  | [], _, fs => (true, fs)
  | call :: calls, answers, fs =>
    match call.run (answers.headD .done) fs with
    | (true, fs) => runCalls calls answers.tail fs
    | (false, fs) => (false, fs)

/-- `UnzipWithFilterAndWriters`: entry by entry, each with its answers. -/
def unzipSequential (needChangePathSeparator : Bool) (destDir : Str) :
    List (Option (ZipEntry α) × List (Answer α)) → FileSys α → Bool × FileSys α
  | [], fs => (true, fs)
  | (entry, answers) :: rest, fs =>
    match entryCalls needChangePathSeparator destDir entry with
    | none => (false, fs)
    | some calls =>
      match runCalls calls answers fs with
      | (true, fs) => unzipSequential needChangePathSeparator destDir rest fs
      | (false, fs) => (false, fs)

/-- The tasks that `UnzipWithFilterAndWritersParallel` submits: up to the first entry that ends the work. -/
def submitted (needChangePathSeparator : Bool) (destDir : Str) : List (Option (ZipEntry α)) → List (List (Call α))
  | [] => []
  | entry :: rest =>
    match entryCalls needChangePathSeparator destDir entry with
    | none => []
    | some calls => calls :: submitted needChangePathSeparator destDir rest

/-- A task that waits, is at work with these calls to come, or has ended. -/
inductive Task (α : Type) where
  | waiting (calls : List (Call α))
  | running (calls : List (Call α))
  | ended
deriving DecidableEq

structure Parallel (α : Type) where
  tasks : List (Task α)
  failed : Bool := false
  fs : FileSys α

/-- Task `i` goes on.  One that starts when another has failed ends at once; one that does not find its
entry fails. -/
def parallelStep (s : Parallel α) (i : Nat × Answer α) : Parallel α :=
  match s.tasks[i.1]? with
  | some (.waiting calls) =>
    if s.failed then { s with tasks := s.tasks.set i.1 .ended }
    else
      match i.2 with
      | .done => { s with tasks := s.tasks.set i.1 (.running calls) }
      | _ => { s with tasks := s.tasks.set i.1 .ended, failed := true }
  | some (.running []) => { s with tasks := s.tasks.set i.1 .ended }
  | some (.running (call :: calls)) =>
    match call.run i.2 s.fs with
    | (true, fs) => { s with tasks := s.tasks.set i.1 (.running calls), fs := fs }
    | (false, fs) => { tasks := s.tasks.set i.1 .ended, failed := true, fs := fs }
  | _ => s

def unzipParallel (needChangePathSeparator : Bool) (destDir : Str) (entries : List (Option (ZipEntry α)))
    (fs : FileSys α) (schedule : List (Nat × Answer α)) : Parallel α :=
  schedule.foldl parallelStep { tasks := (submitted needChangePathSeparator destDir entries).map .waiting, fs := fs }

/-! ## The paths above -/

/-- A path above another one: its components come first, and it has the same top. -/
def Above (path full : Str) : Prop :=
  components path <+: components full ∧ (path.head? = some '/' ↔ full.head? = some '/')

theorem dirName_above {path : Str} (h : path ≠ []) : dirName path ≠ [] ∧ Above (dirName path) path := by
  cases shape path with
  | separators n =>
    have hn : n ≠ 0 := by
      rintro rfl
      exact h rfl
    obtain ⟨m, rfl⟩ := Nat.exists_eq_succ_of_ne_zero hn
    rw [dirName_separators hn]
    unfold Above
    rw [components_separators]
    split
    · exact ⟨List.cons_ne_nil _ _, List.nil_prefix, ⟨fun _ => rfl, fun _ => rfl⟩⟩
    · exact ⟨List.cons_ne_nil _ _, List.nil_prefix, ⟨fun _ => rfl, fun _ => rfl⟩⟩
  | @name name k hne hname =>
    rw [dirName_name hne hname]
    refine ⟨List.cons_ne_nil _ _, List.nil_prefix, ⟨nofun, fun hhead => ?_⟩⟩
    rw [List.head?_append_of_ne_nil _ hne] at hhead
    exact absurd (List.mem_of_mem_head? hhead) hname
  | @below above name k hne hname =>
    obtain ⟨hdir, -, hcomp, hhead⟩ := dirName_below_spec above hne hname k
    refine ⟨hdir, ?_, ?_⟩
    · rw [hcomp, components_trailing, components_append_slash]
      exact List.prefix_append _ _
    · rw [hhead, List.head?_append_of_ne_nil (above ++ '/' :: name) (by simp)]

theorem Above.trans {a b c : Str} (h : Above a b) (h' : Above b c) : Above a c :=
  ⟨h.1.trans h'.1, h.2.trans h'.2⟩

theorem subpathsLoop_above (fuel : Nat) {path full : Str} (h : path ≠ []) (habove : Above path full) :
    ∀ p ∈ subpathsLoop fuel path, Above p full := by
  induction fuel generalizing path with
  | zero => exact fun p hp => (List.not_mem_nil hp).elim
  | succ fuel ih =>
    obtain ⟨hne, hdir⟩ := dirName_above h
    intro p hp
    rw [subpathsLoop] at hp
    split at hp
    · exact (List.not_mem_nil hp).elim
    · rcases List.mem_cons.mp hp with rfl | hp
      · exact hdir.trans habove
      · exact ih hne (hdir.trans habove) p hp

theorem subpaths_above {full : Str} (h : full ≠ []) : ∀ p ∈ subpaths full, Above p full := by
  intro p hp
  rcases List.mem_cons.mp hp with rfl | hp
  · exact ⟨List.prefix_refl _, Iff.rfl⟩
  · exact subpathsLoop_above _ h ⟨List.prefix_refl _, Iff.rfl⟩ p hp

/-! ## Inside of the destination -/

/-- A place at the destination or below it. -/
def Inside (destDir : Str) (place : Place) : Prop :=
  place.1 = (placeOf destDir).1 ∧ ∃ rest, dotDot ∉ rest ∧ place.2 = components destDir ++ rest

/-- The destination and the directories above it are there. -/
def Standing (destDir : Str) (fs : FileSys α) : Prop :=
  ∀ parents, parents <+: components destDir → fs.isDir ((placeOf destDir).1, parents) = true

/-- What a call may ask for: a directory on the way to the destination, or something inside of it. -/
def Call.Within (destDir : Str) : Call α → Prop
  | .createDirectory path => Inside destDir (placeOf path) ∨ Above path destDir
  | .invalid => True
  | .write path _ => Inside destDir (placeOf path)

/-- Nothing has changed outside of the destination, and it is still there. -/
structure Confined (destDir : Str) (fs fs' : FileSys α) : Prop where
  isDir : ∀ place, ¬ Inside destDir place → fs'.isDir place = fs.isDir place
  file : ∀ place, ¬ Inside destDir place → fs'.file place = fs.file place
  standing : Standing destDir fs'

theorem placeOf_eq {path full : Str} (h : path.head? = some '/' ↔ full.head? = some '/') :
    (placeOf path).1 = (placeOf full).1 := by
  unfold placeOf
  simp only [h]

theorem filePathInDir_spec {destDir : Str} (h : destDir ≠ []) (path : Str) :
    components (filePathInDir destDir path) = components destDir ++ components path ∧
      ((filePathInDir destDir path).head? = some '/' ↔ destDir.head? = some '/') ∧ filePathInDir destDir path ≠ [] := by
  unfold filePathInDir
  split
  · next hends =>
    obtain ⟨top, rfl⟩ := List.isSuffixOf_iff_suffix.mp hends
    refine ⟨?_, ?_, by simp [SEPARATOR]⟩
    · rw [List.append_assoc, SEPARATOR, List.singleton_append, components_append_slash, components_append_slash,
        List.append_assoc]
      rfl
    · rw [List.head?_append_of_ne_nil _ h]
  · refine ⟨?_, ?_, by simp [SEPARATOR]⟩
    · rw [List.append_assoc, SEPARATOR, List.singleton_append, components_append_slash]
    · rw [List.append_assoc, List.head?_append_of_ne_nil _ h]

/-- What is above a path inside of the destination is inside of it or on the way to it. -/
theorem within_of_above {destDir path p : Str} (h : destDir ≠ []) (hplain : dotDot ∉ components path)
    (habove : Above p (filePathInDir destDir path)) : Inside destDir (placeOf p) ∨ Above p destDir := by
  obtain ⟨hcomp, hhead, -⟩ := filePathInDir_spec h path
  obtain ⟨hpre, htop⟩ := habove
  rw [hcomp] at hpre
  rcases List.prefix_or_prefix_of_prefix hpre (List.prefix_append _ _) with hway | ⟨rest, heq⟩
  · exact .inr ⟨hway, htop.trans hhead⟩
  · rw [← heq, List.prefix_append_right_inj] at hpre
    exact .inl ⟨placeOf_eq (htop.trans hhead), rest, fun hmem => hplain (hpre.subset hmem), heq.symm⟩

theorem createDirectoryCalls_within {destDir path full : Str} (h : destDir ≠ []) (hplain : dotDot ∉ components path)
    (hne : full ≠ []) (habove : Above full (filePathInDir destDir path)) :
    ∀ call ∈ createDirectoryCalls (α := α) full, call.Within destDir := by
  intro call hcall
  obtain ⟨p, hp, rfl⟩ := List.mem_map.mp hcall
  exact within_of_above h hplain ((subpaths_above hne p (List.mem_reverse.mp hp)).trans habove)

theorem entryCalls_within {flag : Bool} {destDir : Str} (h : destDir ≠ []) {entry : Option (ZipEntry α)}
    {calls : List (Call α)} (hcalls : entryCalls flag destDir entry = some calls) :
    ∀ call ∈ calls, call.Within destDir := by
  cases entry with
  | none => cases hcalls
  | some entry =>
    rw [entryCalls] at hcalls
    split at hcalls
    · cases hcalls
    · simp only at hcalls
      split at hcalls
      · cases hcalls
      · next hparent =>
        have hplain := plain_of_not_referencesParent (by simpa using hparent)
        obtain ⟨hcomp, hhead, hne⟩ := filePathInDir_spec h (entryPath flag entry)
        have hself : Above (filePathInDir destDir (entryPath flag entry)) (filePathInDir destDir (entryPath flag entry)) :=
          ⟨List.prefix_refl _, Iff.rfl⟩
        split at hcalls
        · cases hcalls
          exact createDirectoryCalls_within h hplain hne hself
        · cases hcalls
          intro call hcall
          unfold writerCalls at hcall
          split at hcall
          · rcases List.mem_append.mp hcall with hcall | hcall
            · obtain ⟨hdir, habove⟩ := dirName_above hne
              exact createDirectoryCalls_within h hplain hdir habove call hcall
            · rw [List.mem_singleton.mp hcall]
              exact ⟨placeOf_eq hhead, _, hplain, hcomp⟩
          · rw [List.mem_singleton.mp hcall]
            trivial

theorem Confined.refl {destDir : Str} {fs : FileSys α} (h : Standing destDir fs) : Confined destDir fs fs :=
  ⟨fun _ _ => rfl, fun _ _ => rfl, h⟩

theorem Confined.makeDir {destDir : Str} {fs fs' : FileSys α} (h : Confined destDir fs fs') {place : Place}
    (hplace : Inside destDir place) :
    Confined destDir fs { fs' with isDir := Function.update fs'.isDir place true } where
  isDir other hother := by
    have hne : other ≠ place := fun e => hother (e ▸ hplace)
    exact (Function.update_of_ne hne true fs'.isDir).trans (h.isDir other hother)
  file := h.file
  standing parents hparents := by
    show Function.update fs'.isDir place true _ = true
    rw [Function.update_apply]
    split
    · rfl
    · exact h.standing parents hparents

theorem Confined.setFile {destDir : Str} {fs fs' : FileSys α} (h : Confined destDir fs fs') {place : Place}
    (hplace : Inside destDir place) (content : α) :
    Confined destDir fs { fs' with file := Function.update fs'.file place (some content) } where
  isDir := h.isDir
  file other hother := by
    have hne : other ≠ place := fun e => hother (e ▸ hplace)
    exact (Function.update_of_ne hne (some content) fs'.file).trans (h.file other hother)
  standing := h.standing

/-- One call keeps to the destination: the directories on the way there are not made again. -/
theorem Confined.run {destDir : Str} {fs fs' : FileSys α} (h : Confined destDir fs fs') {call : Call α}
    (hcall : call.Within destDir) (answer : Answer α) : Confined destDir fs (call.run answer fs').2 := by
  cases call with
  | invalid => exact h
  | createDirectory path =>
    unfold Call.run
    simp only
    split
    · exact h
    · next hnone =>
      rcases hcall with hin | ⟨hpre, htop⟩
      · split
        · exact h.makeDir hin
        · exact h
      · refine absurd ?_ hnone
        have hdir := h.standing _ hpre
        rwa [← placeOf_eq htop] at hdir
  | write path content =>
    unfold Call.run
    simp only
    split
    · exact h
    · cases answer with
      | done => exact h.setFile hcall content
      | refused => exact h
      | broken part => exact h.setFile hcall part

theorem Confined.runCalls {destDir : Str} {fs : FileSys α} {calls : List (Call α)}
    (hcalls : ∀ call ∈ calls, call.Within destDir) (answers : List (Answer α)) {fs' : FileSys α}
    (h : Confined destDir fs fs') : Confined destDir fs (runCalls calls answers fs').2 := by
  induction calls generalizing answers fs' with
  | nil => exact h
  | cons call calls ih =>
    have hrun := h.run (hcalls call List.mem_cons_self) (answers.headD .done)
    rw [Libzip.runCalls]
    split
    · next heq =>
      rw [heq] at hrun
      exact ih (fun call hmem => hcalls call (List.mem_cons_of_mem _ hmem)) _ hrun
    · next heq =>
      rw [heq] at hrun
      exact hrun

theorem Confined.unzipSequential {flag : Bool} {destDir : Str} (hdest : destDir ≠ []) {fs : FileSys α}
    (entries : List (Option (ZipEntry α) × List (Answer α))) {fs' : FileSys α} (h : Confined destDir fs fs') :
    Confined destDir fs (unzipSequential flag destDir entries fs').2 := by
  induction entries generalizing fs' with
  | nil => exact h
  | cons entry entries ih =>
    obtain ⟨entry, answers⟩ := entry
    rw [Libzip.unzipSequential]
    split
    · exact h
    · next calls hcalls =>
      have hrun := h.runCalls (entryCalls_within hdest hcalls) answers
      split
      · next heq =>
        rw [heq] at hrun
        exact ih hrun
      · next heq =>
        rw [heq] at hrun
        exact hrun

/-- The calls that a task still has. -/
def Task.calls : Task α → List (Call α)
  | .waiting calls => calls
  | .running calls => calls
  | .ended => []

theorem parallelStep_confined {destDir : Str} {fs : FileSys α} {s : Parallel α} (i : Nat × Answer α)
    (htasks : ∀ task ∈ s.tasks, ∀ call ∈ task.calls, call.Within destDir) (h : Confined destDir fs s.fs) :
    (∀ task ∈ (parallelStep s i).tasks, ∀ call ∈ task.calls, call.Within destDir) ∧
      Confined destDir fs (parallelStep s i).fs := by
  have hset : ∀ t : Task α, (∀ call ∈ t.calls, call.Within destDir) →
      ∀ task ∈ s.tasks.set i.1 t, ∀ call ∈ task.calls, call.Within destDir := by
    intro t ht task hmem
    rcases List.mem_or_eq_of_mem_set hmem with hold | rfl
    · exact htasks task hold
    · exact ht
  have hended : ∀ task ∈ s.tasks.set i.1 .ended, ∀ call ∈ task.calls, call.Within destDir :=
    hset .ended fun _ hmem => (List.not_mem_nil hmem).elim
  unfold parallelStep
  split
  · next calls hget =>
    split
    · exact ⟨hended, h⟩
    · split
      · exact ⟨hset (.running calls) (htasks (.waiting calls) (List.mem_of_getElem? hget)), h⟩
      · exact ⟨hended, h⟩
  · exact ⟨hended, h⟩
  · next call calls hget =>
    have hcalls := htasks _ (List.mem_of_getElem? hget)
    have hrun := h.run (hcalls call List.mem_cons_self) i.2
    split
    · next heq =>
      rw [heq] at hrun
      exact ⟨hset _ fun c hc => hcalls c (List.mem_cons_of_mem _ hc), hrun⟩
    · next heq =>
      rw [heq] at hrun
      exact ⟨hended, hrun⟩
  · exact ⟨htasks, h⟩

theorem submitted_within {flag : Bool} {destDir : Str} (hdest : destDir ≠ []) (entries : List (Option (ZipEntry α))) :
    ∀ calls ∈ submitted flag destDir entries, ∀ call ∈ calls, call.Within destDir := by
  induction entries with
  | nil => exact fun _ hmem => (List.not_mem_nil hmem).elim
  | cons entry entries ih =>
    rw [submitted]
    split
    · exact fun _ hmem => (List.not_mem_nil hmem).elim
    · next calls hcalls =>
      intro c hc
      rcases List.mem_cons.mp hc with rfl | hc
      · exact entryCalls_within hdest hcalls
      · exact ih c hc

/-- **What an archive unpacks stays in the destination**, entry by entry or side by side, whatever names it has
and whatever fails. -/
theorem unzip_confined (flag : Bool) {destDir : Str} {fs : FileSys α} (hdest : destDir ≠ [])
    (hthere : Standing destDir fs) :
    (∀ entries, Confined destDir fs (unzipSequential flag destDir entries fs).2) ∧
      ∀ entries schedule, Confined destDir fs (unzipParallel flag destDir entries fs schedule).fs := by
  refine ⟨fun entries => Confined.unzipSequential hdest entries (.refl hthere), fun entries schedule => ?_⟩
  have hrun : ∀ s : Parallel α, (∀ task ∈ s.tasks, ∀ call ∈ task.calls, call.Within destDir) →
      Confined destDir fs s.fs → Confined destDir fs (schedule.foldl parallelStep s).fs := by
    induction schedule with
    | nil => exact fun s _ h => h
    | cons i schedule ih =>
      intro s htasks h
      have hstep := parallelStep_confined i htasks h
      exact ih _ hstep.1 hstep.2
  refine hrun _ ?_ (.refl hthere)
  intro task hmem
  obtain ⟨calls, hcalls, rfl⟩ := List.mem_map.mp hmem
  exact submitted_within hdest entries calls hcalls

/-- An entry named `../b` in a directory that stands, whose task comes first. -/
theorem unzip_confined_parent :
    Confined "/d".toList ⟨fun place => place.2 <+: ["d".toList], fun _ => none⟩
      (unzipParallel false "/d".toList [some ⟨"a/b".toList, 1⟩, some ⟨"../b".toList, 2⟩]
        ⟨fun place => place.2 <+: ["d".toList], fun _ => none⟩ [(1, .done), (0, .done), (0, .done)]).fs := by
  have hthere : Standing "/d".toList (⟨fun place => place.2 <+: ["d".toList], fun _ => none⟩ : FileSys Nat) := by
    intro parents hparents
    exact decide_eq_true hparents
  exact (unzip_confined false (by decide) hthere).2 _ _

end BundleFramework.Libzip
