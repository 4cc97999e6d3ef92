import BundleFramework.Base.Str
import BundleFramework.Lib.StepRun

/-!
# Rotating the code directory of a bundle

An update fills `+new-` beside the code directory, moves the code directory to `+old-` and
`+new-` to its place, and removes `+old-` by way of `+temp-`.  A record in the exception
table says how far it got; `InstallExceptionMgr` reads it after a crash and goes on or back.

    save CREATE_NEW_DIR, fill +new-
    save RENAME_RELA_TO_OLD_PATH, real to +old-
    save RENAME_NEW_TO_REAL_PATH, +new- to real
    write the version
    save DELETE_OLD_PATH, +old- to +temp-, remove +temp-
    delete the record

An operation is the list of its durable effects, so that a run can stop between any two of
them.  Filling and removing a directory take two: after the first the directory is there
with some of its files.
-/

namespace BundleFramework.CodePath

open Std StepRun

inductive InstallRenameExceptionStatus
  | createNewDir
  | renameRelaToOldPath
  | renameNewToRealPath
  | deleteOldPath
  deriving DecidableEq, Repr

structure InstallExceptionInfo where
  status : InstallRenameExceptionStatus := .createNewDir
  versionCode : Nat := 0
  deriving DecidableEq, Repr

/-- The directories of a bundle: its name, alone or behind `+old-`, `+new-` and `+temp-`. -/
inductive Dir
  | real
  | old
  | new
  | temp
  deriving DecidableEq, Repr

/-- What is in a directory: some or all files of a version and no others, or anything else. -/
inductive Files
  | part (version : Nat)
  | whole (version : Nat)
  | mixed
  deriving DecidableEq, Repr

/-- What is durable of one bundle: its directories, its exception record and the version in
the bundle database. -/
structure Slot where
  dirs : Dir → Option Files
  record : Option InstallExceptionInfo
  version : Nat

/-- A bundle at rest. -/
def Slot.installed (version : Nat) : Slot where
  dirs := fun dir => if dir = .real then some (.whole version) else none
  record := none
  version := version

inductive Effect
  | saveRecord (info : InstallExceptionInfo)
  | deleteRecord
  | beginFill (version : Nat)
  | endFill (version : Nat)
  | beginRemove (dir : Dir)
  | endRemove (dir : Dir)
  | move (source target : Dir)
  | saveVersion (version : Nat)
  deriving DecidableEq, Repr

def Slot.setDir (s : Slot) (dir : Dir) (files : Option Files) : Slot :=
  { s with dirs := Function.update s.dirs dir files }

/-- A fill adds to what it finds. -/
def Slot.apply (s : Slot) : Effect → Slot
  | .saveRecord info => { s with record := some info }
  | .deleteRecord => { s with record := none }
  | .beginFill version => s.setDir .new (if s.dirs .new = none then some (.part version) else some .mixed)
  | .endFill version =>
    s.setDir .new (if s.dirs .new = some (.part version) then some (.whole version) else some .mixed)
  | .beginRemove dir => s.setDir dir (some .mixed)
  | .endRemove dir => s.setDir dir none
  | .move source target => (s.setDir target (s.dirs source)).setDir source none
  | .saveVersion version => { s with version := version }

def Slot.run (s : Slot) (es : List Effect) : Slot := es.foldl Slot.apply s

@[simp]
theorem Slot.run_nil (s : Slot) : s.run [] = s := rfl

@[simp]
theorem Slot.run_cons (s : Slot) (e : Effect) (es : List Effect) : s.run (e :: es) = (s.apply e).run es := rfl

@[simp]
theorem Slot.run_append (s : Slot) (es es' : List Effect) : s.run (es ++ es') = (s.run es).run es' :=
  List.foldl_append

@[simp]
theorem Slot.setDir_dirs_self (s : Slot) (dir : Dir) (files : Option Files) : (s.setDir dir files).dirs dir = files := by
  simp [Slot.setDir]

@[simp]
theorem Slot.setDir_dirs_of_ne (s : Slot) {dir dir' : Dir} (h : dir' ≠ dir) (files : Option Files) :
    (s.setDir dir files).dirs dir' = s.dirs dir' := by
  simp [Slot.setDir, h]

@[simp]
theorem Slot.setDir_record (s : Slot) (dir : Dir) (files : Option Files) : (s.setDir dir files).record = s.record := rfl

@[simp]
theorem Slot.setDir_version (s : Slot) (dir : Dir) (files : Option Files) :
    (s.setDir dir files).version = s.version := rfl

@[simp]
theorem Slot.setDir_setDir (s : Slot) (dir : Dir) (files files' : Option Files) :
    (s.setDir dir files).setDir dir files' = s.setDir dir files' := by
  unfold Slot.setDir
  rw [Function.update_idem]

@[simp]
theorem Slot.apply_beginRemove (s : Slot) (dir : Dir) : s.apply (.beginRemove dir) = s.setDir dir (some .mixed) := rfl

@[simp]
theorem Slot.apply_endRemove (s : Slot) (dir : Dir) : s.apply (.endRemove dir) = s.setDir dir none := rfl

@[simp]
theorem Slot.apply_move (s : Slot) (source target : Dir) :
    s.apply (.move source target) = (s.setDir target (s.dirs source)).setDir source none := rfl

@[simp]
theorem Slot.apply_saveRecord_dirs (s : Slot) (info : InstallExceptionInfo) :
    (s.apply (.saveRecord info)).dirs = s.dirs := rfl

@[simp]
theorem Slot.apply_deleteRecord_dirs (s : Slot) : (s.apply .deleteRecord).dirs = s.dirs := rfl

@[simp]
theorem Slot.apply_saveVersion_dirs (s : Slot) (version : Nat) : (s.apply (.saveVersion version)).dirs = s.dirs := rfl

/-- Filling touches `+new-` only. -/
theorem Slot.apply_fill_dirs_of_ne (s : Slot) (version : Nat) {dir : Dir} (h : dir ≠ .new) :
    (s.apply (.beginFill version)).dirs dir = s.dirs dir ∧ (s.apply (.endFill version)).dirs dir = s.dirs dir :=
  ⟨s.setDir_dirs_of_ne h _, s.setDir_dirs_of_ne h _⟩

theorem Slot.setDir_eq_self {s : Slot} {dir : Dir} {files : Option Files} (h : s.dirs dir = files) :
    s.setDir dir files = s := by
  subst h
  unfold Slot.setDir
  rw [Function.update_eq_self]

/-! ## installd -/

/-- `RemoveDir`; a directory that is not there is removed already. -/
def removeDir (dir : Dir) (s : Slot) : List Effect :=
  if s.dirs dir = none then [] else [.beginRemove dir, .endRemove dir]

/-- `RenameModuleDir`, for two directories of one bundle: whether it answers `ERR_OK`, and its
effects. -/
def renameDir (source target : Dir) (s : Slot) : Bool × List Effect :=
  if s.dirs source = none ∧ s.dirs target ≠ none then (true, [])
  else if s.dirs source = none then (false, [])
  else (true, removeDir target s ++ [.move source target])

theorem run_removeDir (dir : Dir) (s : Slot) : s.run (removeDir dir s) = s.setDir dir none := by
  unfold removeDir
  split
  · next h => exact (Slot.setDir_eq_self h).symm
  · exact s.setDir_setDir dir (some .mixed) none

/-- While a directory is removed, only that directory changes. -/
theorem always_removeDir {inv : Slot → Prop} {dir : Dir} {s : Slot} (h : ∀ files, inv (s.setDir dir files)) :
    StepRun.Always Slot.apply inv s (removeDir dir s) := by
  have hs : inv s := by
    have := h (s.dirs dir)
    rwa [Slot.setDir_eq_self rfl] at this
  unfold removeDir
  split
  · exact always_nil.mpr hs
  · refine always_cons.mpr ⟨hs, always_cons.mpr ⟨h (some .mixed), always_nil.mpr ?_⟩⟩
    show inv ((s.setDir dir (some .mixed)).setDir dir none)
    rw [Slot.setDir_setDir]
    exact h none

theorem renameDir_of_missing {source target : Dir} {s : Slot} (h : s.dirs source = none) :
    renameDir source target s = ((s.dirs target).isSome, []) := by
  unfold renameDir
  cases htarget : s.dirs target with
  | none => simp [h]
  | some files => simp [h]

theorem renameDir_of_there {source target : Dir} {s : Slot} (h : s.dirs source ≠ none) :
    renameDir source target s = (true, removeDir target s ++ [.move source target]) := by
  unfold renameDir
  rw [if_neg (fun hmissing => h hmissing.1), if_neg h]

/-- After a rename that had something to move. -/
theorem run_move {source target : Dir} (hne : source ≠ target) (s : Slot) :
    s.run (removeDir target s ++ [Effect.move source target]) = (s.setDir target (s.dirs source)).setDir source none := by
  rw [Slot.run_append, run_removeDir, Slot.run_cons, Slot.run_nil]
  show ((s.setDir target none).setDir target ((s.setDir target none).dirs source)).setDir source none = _
  rw [Slot.setDir_dirs_of_ne s hne, Slot.setDir_setDir]

/-- While a directory is moved, its target is emptied first. -/
theorem always_move {inv : Slot → Prop} {source target : Dir} (hne : source ≠ target) {s : Slot}
    (h : ∀ files, inv (s.setDir target files)) (hmoved : inv ((s.setDir target (s.dirs source)).setDir source none)) :
    StepRun.Always Slot.apply inv s (removeDir target s ++ [Effect.move source target]) := by
  refine always_append.mpr ⟨always_removeDir h, ?_⟩
  rw [show (removeDir target s).foldl Slot.apply s = s.setDir target none from run_removeDir target s]
  refine always_cons.mpr ⟨h none, always_nil.mpr ?_⟩
  have hrun := run_move hne s
  rw [Slot.run_append, run_removeDir, Slot.run_cons, Slot.run_nil] at hrun
  rw [hrun]
  exact hmoved

/-! ## `InstallExceptionMgr` -/

def innerProcessCreateNewDir (s : Slot) : List Effect := removeDir .new s ++ [.deleteRecord]

/-- `+old-` to the code directory, the record, and `+new-`; the two branches that go back do
the same. -/
def goBack (s : Slot) : List Effect :=
  let renamed := renameDir .old .real s
  let back := renamed.2 ++ if renamed.1 then [.deleteRecord] else []
  back ++ removeDir .new (s.run back)

def innerProcessRealToOldPath (s : Slot) : List Effect := goBack s

def innerProcessDeleteOldPath (s : Slot) : List Effect :=
  let renamed := renameDir .old .temp s
  if renamed.1 then renamed.2 ++ (removeDir .temp (s.run renamed.2) ++ [.deleteRecord]) else renamed.2

/-- `fetched` is the version of the record that `FetchInnerBundleInfo` finds, if it finds one;
the version code of an empty record is 0. -/
def innerProcessNewToRealPath (fetched : Option Nat) (oldVersionCode : Nat) (s : Slot) : List Effect :=
  let uninstalled := if fetched = none then removeDir .new s else []
  uninstalled ++
    if fetched.getD 0 = oldVersionCode then goBack (s.run uninstalled)
    else innerProcessDeleteOldPath (s.run uninstalled)

/-- `HandleBundleExceptionInfo` of a bundle that is installed in one variant. -/
def handleBundleExceptionInfo (s : Slot) : List Effect :=
  match s.record with
  | none => []
  | some info =>
    match info.status with
    | .createNewDir => innerProcessCreateNewDir s
    | .renameRelaToOldPath => innerProcessRealToOldPath s
    | .renameNewToRealPath => innerProcessNewToRealPath (some s.version) info.versionCode s
    | .deleteOldPath => innerProcessDeleteOldPath s

theorem removeDir_congr {dir : Dir} {s s' : Slot} (h : s.dirs dir = s'.dirs dir) : removeDir dir s = removeDir dir s' := by
  unfold removeDir
  rw [h]

theorem goBack_of_there {s : Slot} (h : s.dirs .old ≠ none) :
    goBack s = (removeDir .real s ++ [Effect.move .old .real]) ++ (Effect.deleteRecord :: removeDir .new s) := by
  unfold goBack
  rw [renameDir_of_there h]
  dsimp only
  rw [if_pos rfl, @removeDir_congr .new _ s]
  · rw [List.append_assoc _ [Effect.deleteRecord]]
    rfl
  · rw [Slot.run_append, run_move (by decide)]
    show ((s.setDir .real (s.dirs .old)).setDir .old none).dirs .new = _
    rw [Slot.setDir_dirs_of_ne _ (by decide), Slot.setDir_dirs_of_ne _ (by decide)]

theorem goBack_of_missing {s : Slot} (h : s.dirs .old = none) :
    goBack s = (if s.dirs .real = none then [] else [.deleteRecord]) ++ removeDir .new s := by
  unfold goBack
  rw [renameDir_of_missing h]
  cases hreal : s.dirs .real with
  | none => rfl
  | some files => rfl

theorem innerProcessDeleteOldPath_of_there {s : Slot} (h : s.dirs .old ≠ none) :
    innerProcessDeleteOldPath s = (removeDir .temp s ++ [Effect.move .old .temp]) ++
      [Effect.beginRemove .temp, Effect.endRemove .temp, Effect.deleteRecord] := by
  unfold innerProcessDeleteOldPath
  rw [renameDir_of_there h]
  dsimp only
  rw [if_pos rfl, run_move (by decide)]
  unfold removeDir
  rw [Slot.setDir_dirs_of_ne _ (by decide), Slot.setDir_dirs_self, if_neg h]
  rfl

theorem innerProcessDeleteOldPath_of_missing {s : Slot} (h : s.dirs .old = none) :
    innerProcessDeleteOldPath s =
      if s.dirs .temp = none then [] else [.beginRemove .temp, .endRemove .temp, .deleteRecord] := by
  unfold innerProcessDeleteOldPath
  rw [renameDir_of_missing h]
  cases htemp : s.dirs .temp with
  | none => rfl
  | some files =>
    show [] ++ (removeDir .temp (s.run []) ++ [.deleteRecord]) = _
    unfold removeDir
    rw [Slot.run_nil, htemp]
    rfl

theorem innerProcessNewToRealPath_of_found (fetched oldVersionCode : Nat) (s : Slot) :
    innerProcessNewToRealPath (some fetched) oldVersionCode s =
      if fetched = oldVersionCode then goBack s else innerProcessDeleteOldPath s := rfl

/-! ## `BaseBundleInstaller` -/

/-- The parts of an update one after the other, each in the state it finds. -/
def andThen (first second : Slot → List Effect) (s : Slot) : List Effect :=
  first s ++ second (s.run (first s))

def innerProcessCodePathCreateNewDir : Slot → List Effect :=
  andThen handleBundleExceptionInfo fun _ => [.saveRecord { status := .createNewDir }]

/-- The modules are extracted to `+new-`. -/
def fillNewDir (version : Nat) (_ : Slot) : List Effect := [.beginFill version, .endFill version]

/-- A code directory that is not there is no error. -/
def innerProcessCodePathRealToOld (oldVersionCode : Nat) (s : Slot) : List Effect :=
  .saveRecord { status := .renameRelaToOldPath, versionCode := oldVersionCode } :: (renameDir .real .old s).2

/-- The rest of the update, which a failed rename cuts off for the rollback. -/
def innerProcessCodePathNewToReal (oldVersionCode : Nat) (rest : Slot → List Effect) (s : Slot) : List Effect :=
  let renamed := renameDir .new .real s
  .saveRecord { status := .renameNewToRealPath, versionCode := oldVersionCode } ::
    andThen (fun _ => renamed.2) (if renamed.1 then rest else handleBundleExceptionInfo)
      (s.apply (.saveRecord { status := .renameNewToRealPath, versionCode := oldVersionCode }))

def processOldCodePath (s : Slot) : List Effect :=
  let renamed := renameDir .old .temp s
  .saveRecord { status := .deleteOldPath } :: renamed.2 ++
    (if renamed.1 then removeDir .temp (s.run renamed.2) else removeDir .old s) ++ [.deleteRecord]

/-- `MarkInstallFinish` writes the new version. -/
def markInstallFinish (version : Nat) (_ : Slot) : List Effect := [.saveVersion version]

/-- The update of a bundle to a version. -/
def update (version : Nat) (s : Slot) : List Effect :=
  andThen innerProcessCodePathCreateNewDir
    (andThen (fillNewDir version)
      (andThen (innerProcessCodePathRealToOld s.version)
        (innerProcessCodePathNewToReal s.version
          (andThen (markInstallFinish version) processOldCodePath)))) s

/-- None of the directories beside the code directory is there. -/
def Slot.Clean (s : Slot) : Prop := s.dirs .new = none ∧ s.dirs .old = none ∧ s.dirs .temp = none

/-- An update once its recovery is done. -/
def updateTail (oldVersionCode version : Nat) : Slot → List Effect :=
  andThen (fun _ => [.saveRecord { status := .createNewDir }])
    (andThen (fillNewDir version)
      (andThen (innerProcessCodePathRealToOld oldVersionCode)
        (innerProcessCodePathNewToReal oldVersionCode
          (andThen (markInstallFinish version) processOldCodePath))))

theorem update_eq (version : Nat) (s : Slot) : update version s =
    handleBundleExceptionInfo s ++ updateTail s.version version (s.run (handleBundleExceptionInfo s)) := by
  simp [update, updateTail, innerProcessCodePathCreateNewDir, andThen]

def filling (oldVersionCode version : Nat) : List Effect :=
  [.saveRecord { status := .createNewDir }, .beginFill version, .endFill version,
   .saveRecord { status := .renameRelaToOldPath, versionCode := oldVersionCode }]

def settingOld (s : Slot) : List Effect := if s.dirs .real = none then [] else [.move .real .old]

def replacing (oldVersionCode version : Nat) : List Effect :=
  [.saveRecord { status := .renameNewToRealPath, versionCode := oldVersionCode }, .move .new .real,
   .saveVersion version, .saveRecord { status := .deleteOldPath }]

def droppingOld (s : Slot) : List Effect :=
  if s.dirs .real = none then [] else [.move .old .temp, .beginRemove .temp, .endRemove .temp]

/-- The effects of an update where only the code directory is there, if that. -/
theorem updateTail_of_clean {s : Slot} (h : s.Clean) (oldVersionCode version : Nat) :
    updateTail oldVersionCode version s = filling oldVersionCode version ++
      (settingOld s ++ (replacing oldVersionCode version ++ (droppingOld s ++ [.deleteRecord]))) := by
  obtain ⟨hnew, hold, htemp⟩ := h
  by_cases hreal : s.dirs .real = none <;>
    simp [filling, settingOld, replacing, droppingOld, updateTail, andThen, fillNewDir, innerProcessCodePathRealToOld,
      innerProcessCodePathNewToReal, processOldCodePath, markInstallFinish, renameDir, removeDir, Slot.apply, hnew, hold, htemp, hreal]

/-! ## All bundles

A bundle's directories, record and version are its own, so its recovery is computed from its
slot, whichever bundles were handled before it. -/

abbrev Device := StrMap Slot

def Device.apply (d : Device) (e : Str × Effect) : Device :=
  match d[e.1]? with
  | none => d
  | some s => d.insert e.1 (s.apply e.2)

def Device.run (d : Device) (es : List (Str × Effect)) : Device := es.foldl Device.apply d

/-- An operation on one bundle. -/
def Device.onBundle (d : Device) (name : Str) (effects : Slot → List Effect) : List (Str × Effect) :=
  match d[name]? with
  | none => []
  | some s => (effects s).map (name, ·)

/-- `HandleAllBundleExceptionInfo`, over the table in the order of its names. -/
def Device.handleAllBundleExceptionInfo (d : Device) : List (Str × Effect) :=
  d.toList.flatMap fun b => (CodePath.handleBundleExceptionInfo b.2).map (b.1, ·)

/-- What happens to one bundle. -/
def own (name : Str) (es : List (Str × Effect)) : List Effect :=
  es.filterMap fun e => if e.1 = name then some e.2 else none

theorem own_map_self (name : Str) (es : List Effect) : own name (es.map (name, ·)) = es := by
  simp [own, List.filterMap_map]

theorem own_map_of_ne {name name' : Str} (h : name' ≠ name) (es : List Effect) : own name (es.map (name', ·)) = [] := by
  simp [own, List.filterMap_map, h]

theorem Device.getElem?_run (d : Device) (es : List (Str × Effect)) (name : Str) :
    (d.run es)[name]? = d[name]?.map (·.run (own name es)) := by
  induction es generalizing d with
  | nil => simp [Device.run, own, Slot.run]
  | cons e es ih =>
    have happly : (d.apply e)[name]? = if e.1 = name then d[name]?.map (·.apply e.2) else d[name]? := by
      unfold Device.apply
      by_cases he : e.1 = name
      · rw [if_pos he, he]
        cases hd : d[name]? with
        | none => simp [hd]
        | some s => simp
      · rw [if_neg he]
        cases hd : d[e.1]? with
        | none => rfl
        | some s =>
          rw [ExtTreeMap.getElem?_insert, if_neg]
          exact fun hcmp => he (LawfulEqCmp.eq_of_compare hcmp)
    show ((d.apply e).run es)[name]? = _
    rw [ih, happly]
    by_cases he : e.1 = name
    · simp only [own, he, if_true, List.filterMap_cons, Slot.run_cons, Option.map_map]
      rfl
    · simp only [own, he, if_false, List.filterMap_cons]

theorem own_flatMap {name : Str} {s : Slot} {l : List (Str × Slot)}
    (hdistinct : l.Pairwise fun a b => ¬ compare a.1 b.1 = .eq) (hmem : (name, s) ∈ l) (effects : Slot → List Effect) :
    own name (l.flatMap fun b => (effects b.2).map (b.1, ·)) = effects s := by
  have happend : ∀ es es', own name (es ++ es') = own name es ++ own name es' := fun _ _ => List.filterMap_append
  have hne : ∀ {b : Str × Slot}, ¬ compare b.1 name = .eq → own name ((effects b.2).map (b.1, ·)) = [] := by
    intro b hb
    refine own_map_of_ne (fun h => hb ?_) _
    rw [h]
    exact ReflCmp.compare_self
  induction l with
  | nil => cases hmem
  | cons b l ih =>
    obtain ⟨hhead, htail⟩ := List.pairwise_cons.mp hdistinct
    rw [List.flatMap_cons, happend]
    rcases List.mem_cons.mp hmem with rfl | hmem
    · have hrest : own name (l.flatMap fun b => (effects b.2).map (b.1, ·)) = [] := by
        clear ih htail hmem hdistinct
        induction l with
        | nil => rfl
        | cons b l ih =>
          rw [List.flatMap_cons, happend, hne fun h => hhead b List.mem_cons_self (OrientedCmp.eq_symm h)]
          exact ih fun b hb => hhead b (List.mem_cons_of_mem _ hb)
      rw [hrest, List.append_nil]
      exact own_map_self name _
    · rw [hne (hhead _ hmem), List.nil_append]
      exact ih htail hmem

theorem Device.own_handleAll {d : Device} {name : Str} {s : Slot} (h : d[name]? = some s) :
    own name d.handleAllBundleExceptionInfo = CodePath.handleBundleExceptionInfo s :=
  own_flatMap ExtTreeMap.distinct_keys_toList (ExtTreeMap.mem_toList_iff_getElem?_eq_some.mpr h) _

theorem Device.own_onBundle {d : Device} {name name' : Str} {s : Slot} (h : d[name]? = some s)
    (effects : Slot → List Effect) : own name (d.onBundle name' effects) = if name' = name then effects s else [] := by
  unfold Device.onBundle
  by_cases heq : name' = name
  · subst heq
    rw [if_pos rfl, h]
    exact own_map_self name' _
  · rw [if_neg heq]
    cases d[name']? with
    | none => rfl
    | some s' => exact own_map_of_ne heq _

end BundleFramework.CodePath
