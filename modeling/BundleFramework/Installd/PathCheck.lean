import BundleFramework.Base.Str
import BundleFramework.Lib.NormalPath

/-!
# File names and paths that stay below their root

`BundleUtil::IsFileNameValid` and `InstalldOperator::IsValidPath` search a text for `..`, and
that is enough:

    IsFileNameValid(name)   →  root/name lies at or below root
    IsValidPath(root, path) →  path lies at or below root

where the places are lexical normal forms.  `IsFileNameValid` lets `..` stand inside a name;
between slashes it would be next to one, or alone.
-/

namespace BundleFramework.PathCheck

open PathParts NormalPath

/-! ## Algorithm -/

def PATH_SEPARATOR : Str := ['/']
def BUNDLE_BASE_CODE_DIR : Str := "/data/app/el1/bundle".toList
def SKILL_BASE_CODE_DIR : Str := "/data/app/el1/skills".toList
def QUICK_FIX_FILE_SUFFIX : Str := ".hqf".toList

def isFileNameValid (fileName : Str) : Bool :=
  if fileName.isEmpty then false
  else if fileName = "..".toList then false
  else if (strFind fileName "../".toList).isSome || (strFind fileName "/..".toList).isSome ||
      (strFind fileName "//..".toList).isSome then false
  else if (strFindChar fileName '\\').isSome then false
  else if (strFindChar fileName '\x00').isSome then false
  else !fileName.any fun c => c.toNat < 0x20

/-- The last comparison is with the first `rootDir.size()` characters of `path`, or all if it
is shorter. -/
def isValidPath (rootDir path : Str) : Bool :=
  if strFind rootDir PATH_SEPARATOR ≠ some 0 || strRFind rootDir PATH_SEPARATOR ≠ some (rootDir.length - 1) ||
      (strFind rootDir "..".toList).isSome then false
  else if (strFind path "..".toList).isSome then false
  else path.take rootDir.length = rootDir

def isValidCodePath (codePath : Str) : Bool :=
  if codePath.isEmpty then false
  else isValidPath (BUNDLE_BASE_CODE_DIR ++ PATH_SEPARATOR) codePath ||
    isValidPath (SKILL_BASE_CODE_DIR ++ PATH_SEPARATOR) codePath

/-- `realPath` of `MoveHqfFiles`, for a module name that passes the check. -/
def hqfRealPath (targetPath moduleName : Str) : Option Str :=
  if isFileNameValid moduleName then
    let path := if targetPath.getLast? = some '/' then targetPath else targetPath ++ ['/']
    some (path ++ moduleName ++ QUICK_FIX_FILE_SUFFIX)
  else none

/-! ## What the checks say -/

/-- The place of `path` is that of `root` or below it. -/
def AtOrBelow (root path : Str) : Prop := normal root <+: normal path

instance (root path : Str) : Decidable (AtOrBelow root path) :=
  inferInstanceAs (Decidable (normal root <+: normal path))

theorem isFileNameValid_ok {fileName : Str} (h : isFileNameValid fileName = true) :
    fileName ≠ [] ∧ fileName ≠ dotDot ∧ ¬ dotDot ++ ['/'] <:+: fileName ∧ ¬ '/' :: dotDot <:+: fileName := by
  unfold isFileNameValid at h
  split at h
  · cases h
  · next hempty =>
    split at h
    · cases h
    · next hself =>
      split at h
      · cases h
      · next hfind =>
        simp only [Bool.or_eq_true, strFind_isSome_iff, not_or] at hfind
        exact ⟨by simpa using hempty, hself, hfind.1.1, hfind.1.2⟩

/-- Where `rfind` finds a text, it stands. -/
theorem prefix_of_strRFind {s pat : Str} {pos : Nat} (h : strRFind s pat = some pos) : pat <+: s.drop pos := by
  induction s generalizing pos with
  | nil =>
    rw [strRFind] at h
    split at h
    · next hpat =>
      rw [hpat]
      exact List.nil_prefix
    · cases h
  | cons c s ih =>
    rw [strRFind] at h
    split at h
    · next rest hrest =>
      obtain rfl := Option.some.inj h
      exact ih hrest
    · split at h
      · next hpat =>
        obtain rfl := Option.some.inj h
        exact List.isPrefixOf_iff_prefix.mp hpat
      · cases h

theorem isValidPath_ok {rootDir path : Str} (h : isValidPath rootDir path = true) :
    (∃ dir, rootDir = dir ++ PATH_SEPARATOR) ∧ ¬ dotDot <:+: path ∧ rootDir <+: path := by
  unfold isValidPath at h
  split at h
  · cases h
  · next hroot =>
    split at h
    · cases h
    · next hpath =>
      simp only [Bool.or_eq_true, decide_eq_true_eq, not_or, not_not] at hroot
      rw [strFind_isSome_iff] at hpath
      refine ⟨⟨rootDir.take (rootDir.length - 1), ?_⟩, hpath, ?_⟩
      · obtain ⟨rest, hlast⟩ := prefix_of_strRFind hroot.1.2
        -- one character is left at the last position
        have hlen := congrArg List.length hlast
        have hrest : rest = [] := by
          rw [← List.length_eq_zero_iff]
          simp [PATH_SEPARATOR] at hlen
          omega
        rw [hrest, List.append_nil] at hlast
        rw [hlast, List.take_append_drop]
      · have htake : path.take rootDir.length = rootDir := by simpa using h
        rw [← htake]
        exact List.take_prefix _ _

theorem components_plain_of_no_infix {path : Str} (h : ¬ dotDot <:+: path) : dotDot ∉ components path := by
  refine plain_of_no_infix ?_ ?_ ?_
  · rintro rfl
    exact h List.infix_rfl
  · intro hin
    exact h ((List.prefix_append _ _).isInfix.trans hin)
  · intro hin
    exact h ((List.suffix_cons _ _).isInfix.trans hin)

theorem atOrBelow_of_plain (root : Str) {name : Str} (h : dotDot ∉ components name) :
    AtOrBelow root (root ++ '/' :: name) := by
  unfold AtOrBelow
  rw [normal_of_plain h]
  exact List.prefix_append _ _

/-- An accepted name has no component `..`. -/
theorem plain_of_isFileNameValid {fileName : Str} (h : isFileNameValid fileName = true) :
    dotDot ∉ components fileName := by
  obtain ⟨-, hself, hright, hleft⟩ := isFileNameValid_ok h
  exact plain_of_no_infix hself hright hleft

theorem atOrBelow_of_isValidPath {rootDir path : Str} (h : isValidPath rootDir path = true) :
    AtOrBelow rootDir path := by
  obtain ⟨⟨dir, rfl⟩, hplain, rest, rfl⟩ := isValidPath_ok h
  have hrest : dotDot ∉ components rest :=
    components_plain_of_no_infix fun hin => hplain (hin.trans (List.suffix_append _ _).isInfix)
  have hroot : normal (dir ++ PATH_SEPARATOR) = normal dir := normal_append_slash dir []
  unfold AtOrBelow
  rw [hroot, List.append_assoc]
  exact atOrBelow_of_plain dir hrest

/-- A code path lies below one of the two directories of code. -/
theorem atOrBelow_of_isValidCodePath {codePath : Str} (h : isValidCodePath codePath = true) :
    AtOrBelow (BUNDLE_BASE_CODE_DIR ++ PATH_SEPARATOR) codePath ∨
      AtOrBelow (SKILL_BASE_CODE_DIR ++ PATH_SEPARATOR) codePath := by
  unfold isValidCodePath at h
  split at h
  · cases h
  · exact ((Bool.or_eq_true _ _).mp h).imp atOrBelow_of_isValidPath atOrBelow_of_isValidPath

/-- The suffix of a quick-fix file makes no `..` of the last component. -/
theorem plain_append_suffix {name : Str} (h : dotDot ∉ components name) :
    dotDot ∉ components (name ++ QUICK_FIX_FILE_SUFFIX) := by
  intro hmem
  have hsuffix : '/' ∉ QUICK_FIX_FILE_SUFFIX := by decide +kernel
  rcases mem_splitOn_append hsuffix (List.mem_of_mem_filter hmem) with hname | ⟨start, hstart⟩
  · exact h (List.mem_filter.mpr ⟨hname, rfl⟩)
  · have hlen := congrArg List.length hstart
    simp [dotDot, QUICK_FIX_FILE_SUFFIX] at hlen

/-- **The files of a quick fix** are moved to places below the target directory. -/
theorem atOrBelow_hqfRealPath {targetPath moduleName realPath : Str}
    (h : hqfRealPath targetPath moduleName = some realPath) : AtOrBelow targetPath realPath := by
  unfold hqfRealPath at h
  split at h
  · next hvalid =>
    have hplain := plain_append_suffix (plain_of_isFileNameValid hvalid)
    obtain rfl := Option.some.inj h
    split
    · next hlast =>
      obtain ⟨dir, rfl⟩ := List.getLast?_eq_some_iff.mp hlast
      have hroot : normal (dir ++ ['/']) = normal dir := normal_append_slash dir []
      unfold AtOrBelow
      rw [hroot, List.append_assoc, List.append_assoc]
      exact atOrBelow_of_plain dir hplain
    · rw [List.append_assoc, List.append_assoc]
      exact atOrBelow_of_plain targetPath hplain
  · cases h

/-- **No accepted text leads out of its root.** -/
theorem accepted_stays_below :
    (∀ dir name : Str, isFileNameValid name = true → AtOrBelow ('/' :: dir) ('/' :: dir ++ '/' :: name)) ∧
      ∀ rootDir path : Str, isValidPath rootDir path = true → AtOrBelow rootDir path := by
  constructor
  · intro dir name h
    exact atOrBelow_of_plain _ (plain_of_isFileNameValid h)
  · intro rootDir path h
    exact atOrBelow_of_isValidPath h

/-- Dots inside a name and repeated slashes. -/
theorem accepted_stays_below_dots :
    AtOrBelow ('/' :: "data".toList) ('/' :: "data".toList ++ '/' :: "a..b//c...".toList) ∧
      AtOrBelow "/data/app/".toList "/data/app//x/.".toList :=
  ⟨accepted_stays_below.1 "data".toList "a..b//c...".toList (by decide +kernel),
    accepted_stays_below.2 "/data/app/".toList "/data/app//x/.".toList (by decide +kernel)⟩

end BundleFramework.PathCheck
