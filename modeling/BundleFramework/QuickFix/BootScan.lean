import BundleFramework.Lib.KeyedBest
import BundleFramework.QuickFix.BootUp

/-!
# One patch directory for each bundle

`ProcessQuickFixDir` keeps, for each bundle, the directory with the highest version, and puts
the others into `invalidQuickFixDir_`, which the scan removes.  A directory that is replaced by
one with a higher version goes there; a directory that comes with a version that is not higher
does not go anywhere.

What is kept does not depend on the order of the directories, up to equal versions.  What is
marked does (`marksRest_iff`).
-/

namespace BundleFramework.QuickFix

/-- A directory `.../bundle/..._version`. -/
structure PatchDir where
  bundleName : Str
  version : Int
  path : Str

/-- What `ProcessQuickFixDir` reads off a path, if it is not invalid. -/
def parseDir (ex : StringEx) (fileStr : Str) : Option PatchDir :=
  match strRFindChar fileStr '_' with
  | none => none
  | some underlinePos =>
    match ex.strToInt (fileStr.drop (underlinePos + 1)), bundleNameOfDir fileStr with
    | some version, some bundleName => some { bundleName, version, path := fileStr }
    | _, _ => none

variable {ex : StringEx}

theorem parseDir_path {fileStr : Str} {dir : PatchDir} (h : parseDir ex fileStr = some dir) : dir.path = fileStr := by
  unfold parseDir at h
  split at h
  · cases h
  · split at h
    · cases h
      rfl
    · cases h

/-- **One round** on what has been read off the path. -/
theorem processDir_eq (found : StrMap (Int × Str) × List Str) (fileStr : Str) :
    processDir ex found fileStr =
      match parseDir ex fileStr with
      | none => (found.1, found.2 ++ [fileStr])
      | some dir =>
        match found.1[dir.bundleName]? with
        | none => (found.1.insert dir.bundleName (dir.version, fileStr), found.2)
        | some (version, path) =>
          if version < dir.version then
            (found.1.insert dir.bundleName (dir.version, fileStr), found.2 ++ [path])
          else found := by
  unfold processDir parseDir
  dsimp only
  cases strRFindChar fileStr '_' with
  | none => rfl
  | some underlinePos =>
    dsimp only
    rcases ex.strToInt (fileStr.drop (underlinePos + 1)) with _ | version
    · rfl
    · rcases bundleNameOfDir fileStr with _ | bundleName <;> rfl

/-! ## What is kept and what is marked -/

/-- The directory that is kept for a bundle. -/
def keptDir (found : StrMap (Int × Str) × List Str) (bundleName : Str) : Option PatchDir :=
  (found.1[bundleName]?).map fun entry => { bundleName, version := entry.1, path := entry.2 }

/-- Each bundle with a well-formed directory has one of its highest version. -/
def KeepsHighest (ex : StringEx) (fileDir : List Str) (found : StrMap (Int × Str) × List Str) : Prop :=
  KeyedBest.Best (·.bundleName) (fun a b => a.version ≤ b.version) (fileDir.filterMap (parseDir ex)) (keptDir found)

/-- Each directory that is not kept is marked, and none that is kept. -/
def MarksRest (fileDir : List Str) (found : StrMap (Int × Str) × List Str) : Prop :=
  ∀ fileStr ∈ fileDir, fileStr ∈ found.2 ↔ ¬ ∃ (bundleName : Str) (version : Int), found.1[bundleName]? = some (version, fileStr)

/-- At some place of the list, the directory follows only on lower versions of its bundle. -/
def Leads (ex : StringEx) (fileDir : List Str) (dir : PatchDir) : Prop :=
  ∃ pre post, fileDir = pre ++ dir.path :: post ∧
    ∀ fileStr ∈ pre, ∀ other, parseDir ex fileStr = some other → other.bundleName = dir.bundleName →
      other.version < dir.version

theorem leads_append {fileDir : List Str} {fileStr : Str} {dir : PatchDir} :
    Leads ex (fileDir ++ [fileStr]) dir ↔
      Leads ex fileDir dir ∨ fileStr = dir.path ∧
        ∀ f ∈ fileDir, ∀ other, parseDir ex f = some other → other.bundleName = dir.bundleName →
          other.version < dir.version := by
  constructor
  · rintro ⟨pre, post, heq, hlower⟩
    rcases List.eq_nil_or_concat post with rfl | ⟨post', last, rfl⟩
    · obtain ⟨rfl, hpath⟩ := List.append_inj' heq rfl
      exact .inr ⟨(List.cons.inj hpath).1, hlower⟩
    · rw [List.concat_eq_append, ← List.cons_append, ← List.append_assoc] at heq
      obtain ⟨hfront, -⟩ := List.append_inj' heq rfl
      exact .inl ⟨pre, post', hfront, hlower⟩
  · rintro (⟨pre, post, rfl, hlower⟩ | ⟨rfl, hlower⟩)
    · exact ⟨pre, post ++ [fileStr], by simp, hlower⟩
    · exact ⟨fileDir, [], rfl, hlower⟩

/-- The state of the scan after some directories. -/
structure Scanned (ex : StringEx) (done : List Str) (found : StrMap (Int × Str) × List Str) : Prop where
  highest : KeepsHighest ex done found
  invalid : ∀ fileStr, parseDir ex fileStr = none → (fileStr ∈ found.2 ↔ fileStr ∈ done)
  leads : ∀ {fileStr dir}, parseDir ex fileStr = some dir →
    (fileStr ∈ found.2 ∨ found.1[dir.bundleName]? = some (dir.version, fileStr) ↔ Leads ex done dir)
  apart : ∀ {fileStr dir}, parseDir ex fileStr = some dir → fileStr ∈ found.2 →
    ∃ entry, found.1[dir.bundleName]? = some entry ∧ dir.version < entry.1

theorem keptDir_eq_some {found : StrMap (Int × Str) × List Str} {bundleName : Str} {dir : PatchDir} :
    keptDir found bundleName = some dir ↔
      found.1[bundleName]? = some (dir.version, dir.path) ∧ dir.bundleName = bundleName := by
  unfold keptDir
  rw [Option.map_eq_some_iff]
  constructor
  · rintro ⟨entry, hentry, rfl⟩
    exact ⟨hentry, rfl⟩
  · rintro ⟨hentry, rfl⟩
    exact ⟨_, hentry, rfl⟩

/-- What is stored for a bundle was read off the stored path. -/
theorem KeepsHighest.stored {done : List Str} {found : StrMap (Int × Str) × List Str} (h : KeepsHighest ex done found)
    {bundleName path : Str} {version : Int} (hget : found.1[bundleName]? = some (version, path)) :
    parseDir ex path = some ⟨bundleName, version, path⟩ ∧ path ∈ done := by
  have hkept : keptDir found bundleName = some ⟨bundleName, version, path⟩ := keptDir_eq_some.mpr ⟨hget, rfl⟩
  obtain ⟨fileStr, hdone, hparse⟩ := List.mem_filterMap.mp (h.mem hkept).1
  have hpath : path = fileStr := parseDir_path hparse
  rw [hpath]
  rw [hpath] at hparse
  exact ⟨hparse, hdone⟩

theorem scanned_nil : Scanned ex [] (∅, []) := by
  refine ⟨⟨fun h => ?_, fun h => ?_, fun b hb => by cases hb⟩, fun fileStr _ => Iff.rfl, ?_, fun _ h => by cases h⟩
  · simp [keptDir] at h
  · simp [keptDir] at h
  · intro fileStr dir hparse
    simp [Leads]

section Step

variable {done : List Str} {found : StrMap (Int × Str) × List Str} {fileStr : Str} {dir : PatchDir}

theorem KeepsHighest.version_le (h : KeepsHighest ex done found) {bundleName : Str} {entry : Int × Str}
    (hget : found.1[bundleName]? = some entry) {f : Str} (hf : f ∈ done) {other : PatchDir}
    (hparse : parseDir ex f = some other) (hbundle : other.bundleName = bundleName) : other.version ≤ entry.1 := by
  have hkept : keptDir found bundleName = some ⟨bundleName, entry.1, entry.2⟩ := keptDir_eq_some.mpr ⟨hget, rfl⟩
  exact h.max hkept other (List.mem_filterMap.mpr ⟨f, hf, hparse⟩) hbundle

/-- Nothing of the bundle was scanned. -/
theorem KeepsHighest.none_of_bundle (h : KeepsHighest ex done found) (hget : found.1[dir.bundleName]? = none) {f : Str}
    (hf : f ∈ done) {other : PatchDir} (hparse : parseDir ex f = some other) : other.bundleName ≠ dir.bundleName := by
  intro hbundle
  obtain ⟨kept, hkept⟩ := h.found other (List.mem_filterMap.mpr ⟨f, hf, hparse⟩)
  obtain ⟨hentry, -⟩ := keptDir_eq_some.mp hkept
  rw [hbundle, hget] at hentry
  cases hentry

theorem filterMap_concat_some (hparse : parseDir ex fileStr = some dir) :
    (done ++ [fileStr]).filterMap (parseDir ex) = done.filterMap (parseDir ex) ++ [dir] := by
  rw [List.filterMap_append, List.filterMap_cons_some hparse, List.filterMap_nil]

theorem same_dir {d : PatchDir} {f : Str} (hparse : parseDir ex fileStr = some dir) (hf : parseDir ex f = some d)
    (hpath : fileStr = d.path) : d = dir := by
  rw [parseDir_path hf] at hpath
  rw [hpath, hf] at hparse
  exact Option.some.inj hparse

/-- A path that cannot be read is marked. -/
theorem Scanned.malformed (h : Scanned ex done found) (hparse : parseDir ex fileStr = none) :
    Scanned ex (done ++ [fileStr]) (found.1, found.2 ++ [fileStr]) := by
  have hother : ∀ {f : Str} {d : PatchDir}, parseDir ex f = some d → (f ∈ found.2 ++ [fileStr] ↔ f ∈ found.2) := by
    intro f d hf
    rw [List.mem_append, List.mem_singleton]
    constructor
    · rintro (hmem | rfl)
      · exact hmem
      · rw [hparse] at hf
        cases hf
    · exact .inl
  refine ⟨?_, fun f hf => ?_, fun {f d} hf => ?_, fun {f d} hf hmem => h.apart hf ((hother hf).mp hmem)⟩
  · unfold KeepsHighest
    rw [List.filterMap_append, List.filterMap_cons_none hparse, List.filterMap_nil, List.append_nil]
    exact h.highest
  · rw [List.mem_append, List.mem_append, h.invalid f hf]
  · have hne : fileStr ≠ d.path := by
      rintro rfl
      rw [parseDir_path hf, hf] at hparse
      cases hparse
    rw [hother hf, h.leads hf, leads_append, or_iff_left fun hlast => hne hlast.1]

/-- The directory is kept: there is none of its bundle, or the one that is there has a lower
version and is marked. -/
theorem Scanned.kept (h : Scanned ex done found) (hparse : parseDir ex fileStr = some dir) (marked : List Str)
    (hlower : ∀ f ∈ done, ∀ other, parseDir ex f = some other → other.bundleName = dir.bundleName →
      other.version < dir.version)
    (hmarked : ∀ f, f ∈ marked ↔ ∃ version, found.1[dir.bundleName]? = some (version, f)) :
    Scanned ex (done ++ [fileStr]) (found.1.insert dir.bundleName (dir.version, fileStr), found.2 ++ marked) := by
  have hpath := parseDir_path hparse
  have hget : ∀ k : Str, (found.1.insert dir.bundleName (dir.version, fileStr))[k]? =
      if k = dir.bundleName then some (dir.version, fileStr) else found.1[k]? :=
    fun k => MapLoop.getElem?_insert_eq _ _ _ _
  have hkept : ∀ k, keptDir (found.1.insert dir.bundleName (dir.version, fileStr), found.2 ++ marked) k =
      if k = dir.bundleName then some dir else keptDir found k := by
    intro k
    unfold keptDir
    dsimp only
    rw [hget]
    split
    · next hk => rw [hk, Option.map_some, ← hpath]
    · rfl
  refine ⟨?_, fun f hf => ?_, fun {f d} hf => ?_, fun {f d} hf hmem => ?_⟩
  · unfold KeepsHighest
    rw [filterMap_concat_some hparse]
    refine h.highest.insert hkept (fun _ => le_refl _) fun b hb hbundle => ?_
    obtain ⟨f, hf, hfb⟩ := List.mem_filterMap.mp hb
    exact (hlower f hf b hfb hbundle).le
  · rw [List.mem_append, List.mem_append, h.invalid f hf, hmarked]
    constructor
    · rintro (hmem | ⟨version, hversion⟩)
      · exact .inl hmem
      · rw [(h.highest.stored hversion).1] at hf
        cases hf
    · rintro (hmem | hlast)
      · exact .inl hmem
      · rw [List.mem_singleton] at hlast
        rw [hlast, hparse] at hf
        cases hf
  · rw [leads_append, ← h.leads hf, hget, List.mem_append, hmarked]
    by_cases hbundle : d.bundleName = dir.bundleName
    · have hsame : (∃ version, found.1[dir.bundleName]? = some (version, f)) ↔
          found.1[d.bundleName]? = some (d.version, f) := by
        rw [hbundle]
        refine ⟨fun ⟨version, hversion⟩ => ?_, fun hversion => ⟨_, hversion⟩⟩
        obtain rfl := Option.some.inj ((h.highest.stored hversion).1.symm.trans hf)
        exact hversion
      have hnew : some (dir.version, fileStr) = some (d.version, f) ↔ fileStr = d.path := by
        rw [Option.some.injEq, Prod.mk.injEq, parseDir_path hf]
        refine ⟨And.right, fun e => ⟨?_, e⟩⟩
        rw [same_dir hparse hf (e.trans (parseDir_path hf).symm)]
      rw [if_pos hbundle, hsame, hnew]
      refine or_congr_right ⟨fun e => ⟨e, fun g hg other hother hto => ?_⟩, And.left⟩
      rw [same_dir hparse hf e]
      exact hlower g hg other hother (hto.trans hbundle)
    · have hnone : ¬ ∃ version, found.1[dir.bundleName]? = some (version, f) := by
        rintro ⟨version, hversion⟩
        obtain rfl := Option.some.inj ((h.highest.stored hversion).1.symm.trans hf)
        exact hbundle rfl
      rw [if_neg hbundle, or_iff_left hnone]
      exact (or_iff_left_of_imp fun e => absurd (by rw [same_dir hparse hf e.1]) hbundle).symm
  · rw [hget]
    rcases List.mem_append.mp hmem with hmem | hmem
    · obtain ⟨⟨version, path⟩, hentry, hlt⟩ := h.apart hf hmem
      split
      · next hbundle =>
        obtain ⟨hstored, hdone⟩ := h.highest.stored hentry
        exact ⟨_, rfl, lt_trans hlt (hlower path hdone _ hstored hbundle)⟩
      · exact ⟨_, hentry, hlt⟩
    · obtain ⟨version, hversion⟩ := (hmarked f).mp hmem
      obtain ⟨hstored, hdone⟩ := h.highest.stored hversion
      obtain rfl := Option.some.inj (hstored.symm.trans hf)
      rw [if_pos rfl]
      exact ⟨_, rfl, hlower f hdone _ hstored rfl⟩

/-- The directory is dropped: the one that is there has at least its version. -/
theorem Scanned.dropped (h : Scanned ex done found) (hparse : parseDir ex fileStr = some dir) {entry : Int × Str}
    (hentry : found.1[dir.bundleName]? = some entry) (hle : dir.version ≤ entry.1) :
    Scanned ex (done ++ [fileStr]) found := by
  obtain ⟨hstored, hdone⟩ := h.highest.stored (show found.1[dir.bundleName]? = some (entry.1, entry.2) from hentry)
  refine ⟨?_, fun f hf => ?_, fun {f d} hf => ?_, h.apart⟩
  · unfold KeepsHighest
    rw [filterMap_concat_some hparse]
    have hkept : keptDir found dir.bundleName = some ⟨dir.bundleName, entry.1, entry.2⟩ :=
      keptDir_eq_some.mpr ⟨hentry, rfl⟩
    exact h.highest.skip hkept hle
  · rw [h.invalid f hf, List.mem_append, or_iff_left]
    intro hlast
    rw [List.mem_singleton] at hlast
    rw [hlast, hparse] at hf
    cases hf
  · rw [h.leads hf, leads_append, or_iff_left]
    rintro ⟨hlast, hlower⟩
    have hd : d = dir := same_dir hparse hf hlast
    have hlt : entry.1 < d.version := hlower entry.2 hdone _ hstored (by rw [hd])
    rw [hd] at hlt
    omega

theorem Scanned.step (h : Scanned ex done found) (fileStr : Str) :
    Scanned ex (done ++ [fileStr]) (processDir ex found fileStr) := by
  rw [processDir_eq]
  cases hparse : parseDir ex fileStr with
  | none => exact h.malformed hparse
  | some dir =>
    dsimp only
    cases hget : found.1[dir.bundleName]? with
    | none =>
      have hkept := h.kept hparse [] (fun f hf other hother hbundle =>
        absurd hbundle (h.highest.none_of_bundle hget hf hother)) fun f => by simp [hget]
      rw [List.append_nil] at hkept
      exact hkept
    | some entry =>
      obtain ⟨version, path⟩ := entry
      dsimp only
      split
      · next hlt =>
        refine h.kept hparse [path] (fun f hf other hother hbundle => ?_) fun f => ?_
        · exact lt_of_le_of_lt (h.highest.version_le hget hf hother hbundle) hlt
        · rw [List.mem_singleton]
          constructor
          · rintro rfl
            exact ⟨_, hget⟩
          · rintro ⟨version', hversion⟩
            rw [hget] at hversion
            cases hversion
            rfl
      · next hge => exact h.dropped hparse hget (by simpa using hge)

end Step

theorem scanned (ex : StringEx) (fileDir : List Str) : Scanned ex fileDir (processQuickFixDir ex fileDir) := by
  induction fileDir using List.reverseRecOn with
  | nil => exact scanned_nil
  | append_singleton done fileStr ih =>
    unfold processQuickFixDir
    rw [List.foldl_append]
    exact ih.step fileStr

/-! ## Exactly when the rest is marked -/

/-- Each well-formed directory of the list follows, where it stands first, only on lower
versions of its bundle. -/
def Ascending (ex : StringEx) (fileDir : List Str) : Prop :=
  ∀ pre fileStr post, fileDir = pre ++ fileStr :: post → fileStr ∉ pre → ∀ dir, parseDir ex fileStr = some dir →
    ∀ f ∈ pre, ∀ other, parseDir ex f = some other → other.bundleName = dir.bundleName → other.version < dir.version

/-- The place where the directory stands first is the best one. -/
theorem ascending_iff_leads {fileDir : List Str} :
    Ascending ex fileDir ↔ ∀ fileStr ∈ fileDir, ∀ dir, parseDir ex fileStr = some dir → Leads ex fileDir dir := by
  constructor
  · intro h fileStr hmem dir hparse
    obtain ⟨pre, post, heq, hfirst⟩ := List.eq_append_cons_of_mem hmem
    refine ⟨pre, post, ?_, h pre fileStr post heq hfirst dir hparse⟩
    rw [parseDir_path hparse]
    exact heq
  · intro h pre fileStr post heq hfirst dir hparse f hf other hother hbundle
    obtain ⟨pre', post', heq', hlower⟩ := h fileStr (by simp [heq]) dir hparse
    refine hlower f ?_ other hother hbundle
    rw [parseDir_path hparse, heq] at heq'
    rcases List.append_eq_append_iff.mp heq' with ⟨between, rfl, -⟩ | ⟨between, rfl, hbetween⟩
    · exact List.mem_append_left _ hf
    · cases between with
      | nil => simpa using hf
      | cons first between =>
        obtain rfl := (List.cons.inj hbetween).1
        exact absurd (List.mem_append_right _ List.mem_cons_self) hfirst

/-- What `ProcessQuickFixDir` is to leave behind: the highest version of each bundle is kept, and
each other directory is marked. -/
structure KeepsOnePerBundle (ex : StringEx) (fileDir : List Str) (found : StrMap (Int × Str) × List Str) : Prop where
  /-- What is kept for a bundle is a directory of the list, of that bundle, and of its highest version. -/
  kept : ∀ {bundleName path : Str} {version : Int}, found.1[bundleName]? = some (version, path) →
    path ∈ fileDir ∧ parseDir ex path = some ⟨bundleName, version, path⟩ ∧
      ∀ f ∈ fileDir, ∀ other, parseDir ex f = some other → other.bundleName = bundleName → other.version ≤ version
  every : ∀ f ∈ fileDir, ∀ dir, parseDir ex f = some dir → ∃ entry, found.1[dir.bundleName]? = some entry
  rest : MarksRest fileDir found

/-- What is kept is right for every order of the directories. -/
theorem kept_highest (ex : StringEx) (fileDir : List Str) {bundleName path : Str} {version : Int}
    (hget : (processQuickFixDir ex fileDir).1[bundleName]? = some (version, path)) :
    path ∈ fileDir ∧ parseDir ex path = some ⟨bundleName, version, path⟩ ∧
      ∀ f ∈ fileDir, ∀ other, parseDir ex f = some other → other.bundleName = bundleName → other.version ≤ version := by
  have h := scanned ex fileDir
  obtain ⟨hparse, hmem⟩ := h.highest.stored hget
  exact ⟨hmem, hparse, fun f hf other hother hbundle =>
    h.highest.version_le hget hf hother hbundle⟩

theorem marksRest_iff (ex : StringEx) (fileDir : List Str) :
    MarksRest fileDir (processQuickFixDir ex fileDir) ↔ Ascending ex fileDir := by
  have h := scanned ex fileDir
  rw [ascending_iff_leads]
  constructor
  · intro hrest fileStr hmem dir hparse
    rw [← h.leads hparse]
    by_cases hmarked : fileStr ∈ (processQuickFixDir ex fileDir).2
    · exact .inl hmarked
    · rw [hrest fileStr hmem, not_not] at hmarked
      obtain ⟨bundleName, version, hget⟩ := hmarked
      obtain rfl := Option.some.inj ((h.highest.stored hget).1.symm.trans hparse)
      exact .inr hget
  · intro hleads fileStr hmem
    cases hparse : parseDir ex fileStr with
    | none =>
      rw [h.invalid fileStr hparse]
      refine ⟨fun _ ⟨bundleName, version, hget⟩ => ?_, fun _ => hmem⟩
      rw [(h.highest.stored hget).1] at hparse
      cases hparse
    | some dir =>
      constructor
      · rintro hmarked ⟨bundleName, version, hget⟩
        obtain rfl := Option.some.inj ((h.highest.stored hget).1.symm.trans hparse)
        obtain ⟨entry, hentry, hlt⟩ := h.apart hparse hmarked
        rw [hget] at hentry
        cases hentry
        exact lt_irrefl _ hlt
      · intro hnot
        rcases (h.leads hparse).mpr (hleads fileStr hmem dir hparse) with hmarked | hget
        · exact hmarked
        · exact absurd ⟨_, _, hget⟩ hnot

/-- **One directory is kept for each bundle and the rest is marked** exactly if no directory
comes after one of its bundle with at least its version. -/
theorem keepsOnePerBundle_iff (ex : StringEx) (fileDir : List Str) :
    KeepsOnePerBundle ex fileDir (processQuickFixDir ex fileDir) ↔ Ascending ex fileDir := by
  rw [← marksRest_iff]
  refine ⟨fun h => h.rest, fun hrest => ⟨kept_highest ex fileDir, fun f hf dir hparse => ?_, hrest⟩⟩
  obtain ⟨kept, hkept⟩ := (scanned ex fileDir).highest.found dir (List.mem_filterMap.mpr ⟨f, hf, hparse⟩)
  exact ⟨_, (keptDir_eq_some.mp hkept).1⟩

/-- Version 2 of a bundle, and after it version 1. -/
def newestFirst : List Str := ["/b/patch_2".toList, "/b/patch_1".toList]

/-- The older directory is neither kept nor marked. -/
theorem older_dir_left_behind :
    (processQuickFixDir refStringEx newestFirst).1.toList = [("b".toList, 2, "/b/patch_2".toList)] ∧
      (processQuickFixDir refStringEx newestFirst).2 = [] ∧
      ¬ KeepsOnePerBundle refStringEx newestFirst (processQuickFixDir refStringEx newestFirst) ∧
      (processQuickFixDir refStringEx newestFirst.reverse).2 = ["/b/patch_1".toList] := by
  refine ⟨by decide +kernel, by decide +kernel, fun h => ?_, by decide +kernel⟩
  have hascending := marksRest_iff refStringEx newestFirst |>.mp h.rest
  have hlt := hascending ["/b/patch_2".toList] "/b/patch_1".toList [] rfl (by decide) ⟨"b".toList, 1, _⟩ (by rfl)
    "/b/patch_2".toList (by decide) ⟨"b".toList, 2, _⟩ (by rfl) rfl
  exact absurd hlt (by decide)

end BundleFramework.QuickFix
