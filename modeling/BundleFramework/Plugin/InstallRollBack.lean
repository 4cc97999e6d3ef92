import BundleFramework.Plugin.PluginRecords
import BundleFramework.QuickFix.Patch

/-!
# Giving up a plugin install

`ProcessPluginInstall` arms two guards that undo its work when a later step fails: from the
extraction on the new code directory is removed, and from the save on `PluginRollBack` runs.
`failed_install_unchanged_iff` says when a failed call leaves records, users and the code of the
installed plugin as they were.  The rollback of an update takes the plugin from the requesting
user, who may have had it before.

The directories are those of the plugins and their modules; what lies inside a module is not
followed.
-/

namespace BundleFramework.Plugin

open Std
open QuickFix (BUNDLE_CODE_DIR)

def PLUGINS : Str := "+plugins".toList

/-- The directories that exist. -/
abbrev Dirs := List Str

/-- What `RemoveDir` deletes. -/
def Within (dir path : Str) : Prop := path = dir ∨ dir ++ ['/'] <+: path

instance (dir path : Str) : Decidable (Within dir path) := inferInstanceAs (Decidable (_ ∨ _))

def mkdirIfNotExist (dirs : Dirs) (dir : Str) (ok : Bool) : Bool × Dirs :=
  if !ok then (false, dirs) else (true, if dir ∈ dirs then dirs else dir :: dirs)

def removeDir (dirs : Dirs) (dir : Str) : Dirs := dirs.filter fun path => ¬ Within dir path

/-- A parsed package: its module, and what the steps of its extraction answer. -/
structure PluginPackage where
  moduleName : Str
  bundleDirOk : Bool
  moduleDirOk : Bool
  nativeLibraryOk : Bool
  saveHspOk : Bool
  deriving DecidableEq

structure PluginInstallCall where
  hostBundleName : Str
  /-- `GetAppCodePath()` of the host. -/
  hostCodePath : Str
  userId : Int
  /-- The plugin of the parsed packages, which has no code directory yet. -/
  parsed : PluginBundleInfo
  parsedBundles : List PluginPackage
  currentTimeNs : Nat
  isLocalPluginInstall : Bool
  isDeveloperDistribution : Bool
  bundleDirOk : Bool
  pluginDirOk : Bool
  certValid : Bool
  addOk : Bool
  rollBackRemoveOk : Bool
  rollBackUpdateOk : Bool
  rollBackUserOk : Bool

structure PluginState where
  host : PluginHost
  dirs : Dirs
  deriving DecidableEq

namespace PluginInstallCall

variable (c : PluginInstallCall)

def bundleNameWithTime : Str := c.parsed.pluginBundleName ++ '.' :: toDecimal c.currentTimeNs

def bundleDir : Str := BUNDLE_CODE_DIR ++ '/' :: c.hostBundleName

def pluginDir : Str := c.bundleDir ++ '/' :: PLUGINS

/-- Where the packages are extracted to, the `codePath` of the new record. -/
def pluginBundleDir : Str := c.pluginDir ++ '/' :: c.bundleNameWithTime

/-- What `RemovePluginDir` removes. -/
def removedDir : Str := c.hostCodePath ++ '/' :: PLUGINS ++ '/' :: c.bundleNameWithTime

/-- Extraction and certificate check pass. -/
def prepared : Bool :=
  c.parsedBundles.all (fun p => p.bundleDirOk && p.moduleDirOk && p.nativeLibraryOk && p.saveHspOk) &&
    (!c.isLocalPluginInstall || c.certValid)

/-- What the call asks of the records. -/
def request : PluginInstall where
  userId := c.userId
  info := { c.parsed with codePath := c.pluginBundleDir }
  isDeveloperDistribution := c.isDeveloperDistribution
  createDirOk := c.bundleDirOk && c.pluginDirOk
  extractOk := c.prepared
  addOk := c.addOk
  rollBackRemoveOk := c.rollBackRemoveOk
  rollBackUpdateOk := c.rollBackUpdateOk
  rollBackUserOk := c.rollBackUserOk

/-! ## Algorithm -/

def createPluginDir (dirs : Dirs) : Bool × Dirs :=
  let bundle := mkdirIfNotExist dirs c.bundleDir c.bundleDirOk
  if !bundle.1 then bundle else mkdirIfNotExist bundle.2 c.pluginDir c.pluginDirOk

def extractPluginBundle (dirs : Dirs) (p : PluginPackage) : Bool × Dirs :=
  let bundle := mkdirIfNotExist dirs c.pluginBundleDir p.bundleDirOk
  if !bundle.1 then bundle
  else
    let moduleDir := mkdirIfNotExist bundle.2 (c.pluginBundleDir ++ '/' :: p.moduleName) p.moduleDirOk
    if !moduleDir.1 then moduleDir else (p.nativeLibraryOk && p.saveHspOk, moduleDir.2)

def extractPluginBundles (dirs : Dirs) : List PluginPackage → Bool × Dirs
  | [] => (true, dirs)
  | p :: rest =>
    let extracted := c.extractPluginBundle dirs p
    if !extracted.1 then extracted else extractPluginBundles extracted.2 rest

def removePluginDir (dirs : Dirs) : Dirs := removeDir dirs c.removedDir

end PluginInstallCall

/-- `RemoveEmptyDirs`, which follows a success, needs the files and is left out. -/
def removeOldInstallDir (dirs : Dirs) (oldPluginInfo : Option PluginBundleInfo) : Dirs :=
  match oldPluginInfo with
  | none => dirs
  | some old => removeDir dirs old.codePath

/-- `ProcessPluginInstall`, the directories with the records.  A failure behind a guard is what
the guard leaves. -/
def processPluginInstallDirs (s : PluginState) (c : PluginInstallCall) : PluginResult × PluginState :=
  if c.parsedBundles.isEmpty then (.ERR_OK, s)
  else
    let created := c.createPluginDir s.dirs
    if !created.1 then (.createDirFailed, { s with dirs := created.2 })
    else
      let oldPluginInfo := s.host.fetchPluginBundleInfo c.parsed.pluginBundleName
      let checked := match oldPluginInfo with
        | some old => checkUpdate c.request old
        | none => .ERR_OK
      if checked ≠ .ERR_OK then (checked, { s with dirs := created.2 })
      else
        -- `deleteDirGuard`
        let extracted := c.extractPluginBundles created.2 c.parsedBundles
        if !extracted.1 then (.extractFailed, { s with dirs := c.removePluginDir extracted.2 })
        else if c.isLocalPluginInstall && !c.certValid then
          (.extractFailed, { s with dirs := c.removePluginDir extracted.2 })
        else
          -- `dataRollBackGuard`
          let saved := s.host.commit c.addOk (s.host.addPluginBundleInfo c.request.info c.userId)
          if saved.1 then (.ERR_OK, ⟨saved.2, removeOldInstallDir extracted.2 oldPluginInfo⟩)
          else
            (.ERR_APPEXECFWK_ADD_PLUGIN_INFO_ERROR,
              ⟨pluginRollBack saved.2 c.request oldPluginInfo, c.removePluginDir extracted.2⟩)

/-- The checks before the first guard pass. -/
def PluginInstallCall.GuardsArmed (c : PluginInstallCall) (h : PluginHost) : Prop :=
  c.parsedBundles ≠ [] ∧ c.bundleDirOk = true ∧ c.pluginDirOk = true ∧
    ∀ old, h.fetchPluginBundleInfo c.parsed.pluginBundleName = some old → checkUpdate c.request old = .ERR_OK

/-- The plugin's record and the users' plugins are those before, and the code of the installed
plugin is still there. -/
structure PluginState.Unchanged (before after : PluginState) (plugin : Str) : Prop where
  record : after.host.records[plugin]? = before.host.records[plugin]?
  users : ∀ userId : Int, after.host.users[userId]? = before.host.users[userId]?
  codeDir : ∀ old : PluginBundleInfo, before.host.records[plugin]? = some old → old.codePath ∈ before.dirs →
    old.codePath ∈ after.dirs

/-! ## Directories -/

theorem mem_mkdirIfNotExist {dirs : Dirs} {path : Str} (dir : Str) (ok : Bool) (h : path ∈ dirs) :
    path ∈ (mkdirIfNotExist dirs dir ok).2 := by
  unfold mkdirIfNotExist
  split
  · exact h
  · dsimp only
    split
    · exact h
    · exact List.mem_cons_of_mem _ h

theorem mem_removeDir {dirs : Dirs} {dir path : Str} : path ∈ removeDir dirs dir ↔ path ∈ dirs ∧ ¬ Within dir path := by
  unfold removeDir
  rw [List.mem_filter, decide_eq_true_eq]

namespace PluginInstallCall

variable {c : PluginInstallCall} {dirs : Dirs} {path : Str}

theorem mem_createPluginDir (h : path ∈ dirs) : path ∈ (c.createPluginDir dirs).2 := by
  unfold createPluginDir
  dsimp only
  split
  · exact mem_mkdirIfNotExist _ _ h
  · exact mem_mkdirIfNotExist _ _ (mem_mkdirIfNotExist _ _ h)

theorem createPluginDir_ok (hbundle : c.bundleDirOk = true) (hplugin : c.pluginDirOk = true) :
    (c.createPluginDir dirs).1 = true := by
  simp [createPluginDir, mkdirIfNotExist, hbundle, hplugin]

theorem mem_extractPluginBundle (p : PluginPackage) (h : path ∈ dirs) : path ∈ (c.extractPluginBundle dirs p).2 := by
  unfold extractPluginBundle
  dsimp only
  split
  · exact mem_mkdirIfNotExist _ _ h
  · split
    · exact mem_mkdirIfNotExist _ _ (mem_mkdirIfNotExist _ _ h)
    · exact mem_mkdirIfNotExist _ _ (mem_mkdirIfNotExist _ _ h)

theorem extractPluginBundle_fst (p : PluginPackage) : (c.extractPluginBundle dirs p).1 =
    (p.bundleDirOk && p.moduleDirOk && p.nativeLibraryOk && p.saveHspOk) := by
  unfold extractPluginBundle mkdirIfNotExist
  cases p.bundleDirOk with
  | false => rfl
  | true => cases p.moduleDirOk <;> rfl

/-- Extraction only adds directories. -/
theorem mem_extractPluginBundles (packages : List PluginPackage) (h : path ∈ dirs) :
    path ∈ (c.extractPluginBundles dirs packages).2 := by
  induction packages generalizing dirs with
  | nil => exact h
  | cons p rest ih =>
    unfold extractPluginBundles
    dsimp only
    split
    · exact mem_extractPluginBundle p h
    · exact ih (mem_extractPluginBundle p h)

theorem extractPluginBundles_fst (packages : List PluginPackage) : (c.extractPluginBundles dirs packages).1 =
    packages.all fun p => p.bundleDirOk && p.moduleDirOk && p.nativeLibraryOk && p.saveHspOk := by
  induction packages generalizing dirs with
  | nil => rfl
  | cons p rest ih =>
    have hfst := @extractPluginBundle_fst c dirs p
    unfold extractPluginBundles
    rw [List.all_cons, ← hfst]
    dsimp only
    cases hone : (c.extractPluginBundle dirs p).1 with
    | false =>
      rw [if_pos Bool.not_false, hone]
      rfl
    | true =>
      rw [if_neg (by decide), ih]
      rfl

end PluginInstallCall

/-! ## The rollback -/

theorem erase_eq_self_iff {s : StrSet} {p : Str} : s.erase p = s ↔ p ∉ s := by
  constructor
  · intro h hp
    rw [← h, ExtTreeSet.mem_erase] at hp
    exact hp.1 Std.compare_self
  · intro hp
    refine ExtTreeSet.ext_mem fun q => ?_
    rw [ExtTreeSet.mem_erase, ne_eq, Std.compare_eq_iff_eq]
    constructor
    · exact And.right
    · intro hq
      exact ⟨fun h => hp (h ▸ hq), hq⟩

/-- The plugin is taken from one user: the users are as before if he did not have it. -/
theorem users_erase_iff {h : PluginHost} {u : Int} {p : Str} {s : StrSet} (hu : h.users[u]? = some s) :
    (∀ v : Int, (h.users.insert u (s.erase p))[v]? = h.users[v]?) ↔ ¬ h.Has u p := by
  have hhas : h.Has u p ↔ p ∈ s := by
    unfold PluginHost.Has
    rw [hu]
    simp
  rw [hhas, ← erase_eq_self_iff]
  constructor
  · intro h
    have hself := h u
    rw [MapLoop.getElem?_insert_eq, if_pos rfl, hu, Option.some.injEq] at hself
    exact hself
  · intro hsame v
    rw [MapLoop.getElem?_insert_eq, hsame]
    split
    · next hv => rw [hv, hu]
    · rfl

theorem not_has_of_none {h : PluginHost} {u : Int} {p : Str} (hu : h.users[u]? = none) : ¬ h.Has u p := by
  rintro ⟨s, hs, -⟩
  rw [hu] at hs
  cases hs

theorem removePluginFromUserInfo_same_iff (h : PluginHost) (p : Str) (u : Int) :
    (h.commit true (h.removePluginFromUserInfo p u)).2.records = h.records ∧
    ((∀ v : Int, (h.commit true (h.removePluginFromUserInfo p u)).2.users[v]? = h.users[v]?) ↔ ¬ h.Has u p) := by
  unfold PluginHost.removePluginFromUserInfo
  cases hu : h.users[u]? with
  | none => exact ⟨rfl, iff_of_true (fun v => rfl) (not_has_of_none hu)⟩
  | some s => exact ⟨rfl, users_erase_iff hu⟩

/-- What a rollback leaves of a host that the failed save did not change. -/
theorem pluginRollBack_same_iff (h : PluginHost) (r : PluginInstall) (hremove : r.rollBackRemoveOk = true)
    (hupdate : r.rollBackUpdateOk = true) (huser : r.rollBackUserOk = true) {oldPluginInfo : Option PluginBundleInfo}
    (hold : h.records[r.info.pluginBundleName]? = oldPluginInfo) :
    (pluginRollBack h r oldPluginInfo).records[r.info.pluginBundleName]? = h.records[r.info.pluginBundleName]? ∧
    ((∀ v : Int, (pluginRollBack h r oldPluginInfo).users[v]? = h.users[v]?) ↔
      ¬ h.Has r.userId r.info.pluginBundleName) := by
  unfold pluginRollBack
  rw [hremove, hupdate, huser]
  cases oldPluginInfo with
  | none =>
    unfold PluginHost.removePluginBundleInfo
    cases hu : h.users[r.userId]? with
    | none => exact ⟨rfl, iff_of_true (fun v => rfl) (not_has_of_none hu)⟩
    | some s =>
      refine ⟨?_, users_erase_iff hu⟩
      show (h.records.erase _)[_]? = _
      rw [MapLoop.getElem?_erase_eq, if_pos rfl, hold]
  | some old =>
    dsimp only
    -- the old record is written, under its own name
    obtain ⟨hrecord, husers⟩ : (h.commit true (h.updatePluginBundleInfo old)).2.records[r.info.pluginBundleName]? =
        h.records[r.info.pluginBundleName]? ∧ (h.commit true (h.updatePluginBundleInfo old)).2.users = h.users := by
      unfold PluginHost.updatePluginBundleInfo
      cases h.records[old.pluginBundleName]? with
      | none => exact ⟨rfl, rfl⟩
      | some current =>
        refine ⟨?_, rfl⟩
        show (h.records.insert _ _)[_]? = _
        rw [MapLoop.getElem?_insert_eq]
        split
        · rw [hold]
        · rfl
    generalize (h.commit true (h.updatePluginBundleInfo old)).2 = updated at hrecord husers
    obtain ⟨hrecords, hiff⟩ := removePluginFromUserInfo_same_iff updated r.info.pluginBundleName r.userId
    have hhas : updated.Has r.userId r.info.pluginBundleName ↔ h.Has r.userId r.info.pluginBundleName := by
      unfold PluginHost.Has
      rw [husers]
    rw [husers, hhas] at hiff
    exact ⟨by rw [hrecords, hrecord], hiff⟩

/-! ## Failed calls -/

variable {s : PluginState} {c : PluginInstallCall}

theorem fetch_eq (h : PluginHost) (info : PluginBundleInfo) :
    h.fetchPluginBundleInfo info.pluginBundleName = h.records[info.pluginBundleName]? := by
  unfold PluginHost.fetchPluginBundleInfo
  rw [if_neg (by simpa using info.named)]

/-- Behind the guards: the extraction and the certificate, then the save. -/
theorem processPluginInstallDirs_armed (harmed : c.GuardsArmed s.host) : processPluginInstallDirs s c =
    let extracted := (c.extractPluginBundles (c.createPluginDir s.dirs).2 c.parsedBundles).2
    let oldPluginInfo := s.host.records[c.parsed.pluginBundleName]?
    let saved := s.host.commit c.addOk (s.host.addPluginBundleInfo c.request.info c.userId)
    if c.prepared = false then (.extractFailed, ⟨s.host, c.removePluginDir extracted⟩)
    else if saved.1 then (.ERR_OK, ⟨saved.2, removeOldInstallDir extracted oldPluginInfo⟩)
    else
      (.ERR_APPEXECFWK_ADD_PLUGIN_INFO_ERROR,
        ⟨pluginRollBack saved.2 c.request oldPluginInfo, c.removePluginDir extracted⟩) := by
  obtain ⟨hparsed, hbundle, hplugin, hcheck⟩ := harmed
  have hchecked : (match s.host.fetchPluginBundleInfo c.parsed.pluginBundleName with
      | some old => checkUpdate c.request old
      | none => .ERR_OK) = PluginResult.ERR_OK := by
    split
    · next old hold => exact hcheck old hold
    · rfl
  have hprepared : c.prepared = ((c.extractPluginBundles (c.createPluginDir s.dirs).2 c.parsedBundles).1 &&
      !(c.isLocalPluginInstall && !c.certValid)) := by
    rw [PluginInstallCall.extractPluginBundles_fst, PluginInstallCall.prepared, Bool.not_and, Bool.not_not]
  unfold processPluginInstallDirs
  dsimp only
  rw [if_neg (by simpa using hparsed), PluginInstallCall.createPluginDir_ok hbundle hplugin, if_neg (by decide), hchecked,
    if_neg (not_not.mpr rfl), fetch_eq s.host c.parsed, hprepared]
  cases (c.extractPluginBundles (c.createPluginDir s.dirs).2 c.parsedBundles).1 with
  | false => rfl
  | true =>
    cases (c.isLocalPluginInstall && !c.certValid) with
    | true => rfl
    | false => rfl

/-- The records go the way of `processPluginInstall`. -/
theorem processPluginInstallDirs_host (harmed : c.GuardsArmed s.host) :
    (processPluginInstallDirs s c).1 = (processPluginInstall s.host c.request).1 ∧
    (processPluginInstallDirs s c).2.host = (processPluginInstall s.host c.request).2 := by
  have hname : s.host.fetchPluginBundleInfo c.request.info.pluginBundleName = s.host.records[c.parsed.pluginBundleName]? :=
    fetch_eq s.host c.parsed
  have hcheck : checkInstall s.host c.request = if c.prepared = false then .extractFailed else .ERR_OK := by
    obtain ⟨-, hbundle, hplugin, hold⟩ := harmed
    have hcreate : c.request.createDirOk = true := by
      show (c.bundleDirOk && c.pluginDirOk) = true
      rw [hbundle, hplugin]
      rfl
    have hextract : c.request.extractOk = c.prepared := rfl
    unfold checkInstall
    dsimp only
    rw [hcreate, if_neg (by decide), hextract]
    cases hfetch : s.host.fetchPluginBundleInfo c.request.info.pluginBundleName with
    | none => cases c.prepared <;> rfl
    | some old =>
      have hpass := hold old hfetch
      dsimp only
      rw [if_neg (not_not.mpr hpass)]
      cases c.prepared <;> rfl
  rw [processPluginInstallDirs_armed harmed]
  unfold processPluginInstall
  dsimp only
  rw [hcheck, hname]
  by_cases hprepared : c.prepared = false
  · rw [if_pos hprepared, if_pos hprepared, if_pos (by decide)]
    exact ⟨rfl, rfl⟩
  · rw [if_neg hprepared, if_neg hprepared, if_neg (not_not.mpr rfl)]
    have hsaved : s.host.commit c.request.addOk (s.host.addPluginBundleInfo c.request.info c.request.userId) =
        s.host.commit c.addOk (s.host.addPluginBundleInfo c.request.info c.userId) := rfl
    rw [hsaved]
    split
    · exact ⟨rfl, rfl⟩
    · exact ⟨rfl, rfl⟩

/-- The code of the installed plugin stays, unless it lies in the directory that the guard removes. -/
theorem codeDir_kept_iff (s : PluginState) (c : PluginInstallCall) (plugin : Str) :
    (∀ old : PluginBundleInfo, s.host.records[plugin]? = some old → old.codePath ∈ s.dirs →
        old.codePath ∈ c.removePluginDir (c.extractPluginBundles (c.createPluginDir s.dirs).2 c.parsedBundles).2) ↔
      ∀ old : PluginBundleInfo, s.host.records[plugin]? = some old → old.codePath ∈ s.dirs →
        ¬ Within c.removedDir old.codePath := by
  have hkept : ∀ {path}, path ∈ s.dirs →
      (path ∈ c.removePluginDir (c.extractPluginBundles (c.createPluginDir s.dirs).2 c.parsedBundles).2 ↔
        ¬ Within c.removedDir path) := by
    intro path hpath
    unfold PluginInstallCall.removePluginDir
    rw [mem_removeDir]
    exact and_iff_right
      (PluginInstallCall.mem_extractPluginBundles _ (PluginInstallCall.mem_createPluginDir hpath))
  constructor
  · intro h old hold hdir
    exact (hkept hdir).mp (h old hold hdir)
  · intro h old hold hdir
    exact (hkept hdir).mpr (h old hold hdir)

/-- A call that fails behind its guards changes nothing just when the failing step comes before
the save or the requesting user did not have the plugin, and the new directory is not that of
the installed plugin. -/
theorem failed_install_unchanged_iff (s : PluginState) (c : PluginInstallCall) (hremove : c.rollBackRemoveOk = true)
    (hupdate : c.rollBackUpdateOk = true) (huser : c.rollBackUserOk = true) (harmed : c.GuardsArmed s.host)
    (hfail : (processPluginInstallDirs s c).1 ≠ .ERR_OK) :
    s.Unchanged (processPluginInstallDirs s c).2 c.parsed.pluginBundleName ↔
      (c.prepared = true → ¬ s.host.Has c.userId c.parsed.pluginBundleName) ∧
      ∀ old : PluginBundleInfo, s.host.records[c.parsed.pluginBundleName]? = some old → old.codePath ∈ s.dirs →
        ¬ Within c.removedDir old.codePath := by
  rw [processPluginInstallDirs_armed harmed] at hfail ⊢
  rw [← codeDir_kept_iff]
  dsimp only at hfail ⊢
  by_cases hprepared : c.prepared = false
  · rw [if_pos hprepared]
    constructor
    · intro h
      refine ⟨fun htrue => ?_, h.codeDir⟩
      rw [hprepared] at htrue
      cases htrue
    · rintro ⟨-, hdir⟩
      exact ⟨rfl, fun userId => rfl, hdir⟩
  · rw [if_neg hprepared] at hfail ⊢
    rw [Bool.not_eq_false] at hprepared
    rcases commit_cases s.host c.addOk (s.host.addPluginBundleInfo c.request.info c.userId) with
      hsaved | ⟨h', -, -, hsaved⟩
    · rw [hsaved] at hfail ⊢
      rw [if_neg Bool.false_ne_true]
      obtain ⟨hrecord, husers⟩ := pluginRollBack_same_iff s.host c.request hremove hupdate huser rfl
      constructor
      · intro h
        exact ⟨fun _ => husers.mp h.users, h.codeDir⟩
      · rintro ⟨hhas, hdir⟩
        exact ⟨hrecord, husers.mpr (hhas hprepared), hdir⟩
    · rw [hsaved] at hfail
      exact absurd rfl hfail

/-- User 100 has the plugin, whose update is not taken by the database. -/
def installedForUser : PluginState where
  host := ⟨(∅ : ExtTreeMap Int StrSet).insert 100 ((∅ : StrSet).insert ['p']), (∅ : StrMap PluginBundleInfo).insert ['p'] onePlugin⟩
  dirs := []

def refusedUpdate : PluginInstallCall where
  hostBundleName := ['h']
  hostCodePath := ['/', 'h']
  userId := 100
  parsed := onePlugin
  parsedBundles := [⟨['m'], true, true, true, true⟩]
  currentTimeNs := 7
  isLocalPluginInstall := false
  isDeveloperDistribution := false
  bundleDirOk := true
  pluginDirOk := true
  certValid := true
  addOk := false
  rollBackRemoveOk := true
  rollBackUpdateOk := true
  rollBackUserOk := true

theorem refusedUpdate_armed : refusedUpdate.GuardsArmed installedForUser.host := by
  refine ⟨by decide, rfl, rfl, ?_⟩
  intro old hold
  have hfetch : installedForUser.host.fetchPluginBundleInfo refusedUpdate.parsed.pluginBundleName = some onePlugin := by
    decide +kernel
  rw [hfetch, Option.some.injEq] at hold
  rw [← hold]
  decide +kernel

/-- The theorem at this update. -/
theorem failed_install_unchanged_iff_refused :
    installedForUser.Unchanged (processPluginInstallDirs installedForUser refusedUpdate).2 refusedUpdate.parsed.pluginBundleName ↔
      (refusedUpdate.prepared = true → ¬ installedForUser.host.Has 100 refusedUpdate.parsed.pluginBundleName) ∧
      ∀ old : PluginBundleInfo, installedForUser.host.records[refusedUpdate.parsed.pluginBundleName]? = some old →
        old.codePath ∈ installedForUser.dirs → ¬ Within refusedUpdate.removedDir old.codePath :=
  failed_install_unchanged_iff installedForUser refusedUpdate rfl rfl rfl refusedUpdate_armed (by decide +kernel)

/-- The rollback takes the plugin from the user who had it. -/
theorem refused_update_loses_user : ¬ ∀ (s : PluginState) (c : PluginInstallCall), c.rollBackRemoveOk = true →
    c.rollBackUpdateOk = true → c.rollBackUserOk = true → c.GuardsArmed s.host →
    (processPluginInstallDirs s c).1 ≠ .ERR_OK →
    s.Unchanged (processPluginInstallDirs s c).2 c.parsed.pluginBundleName := by
  intro h
  have hsame := (h installedForUser refusedUpdate rfl rfl rfl refusedUpdate_armed (by decide +kernel)).users 100
  revert hsame
  decide +kernel

end BundleFramework.Plugin
