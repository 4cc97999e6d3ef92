import BundleFramework.Zip.FilePath
import BundleFramework.Lib.DirTree

/-!
# Paths below a path

`AppendRelativePath` takes the components of a path away from those of a path below it, and joins
what is left.  For a path reached from another one by some names these are the names:

    getComponents (below src names) = names.reverse ++ getComponents src          (getComponents_below)
    appendRelativePath path child = some (joined names)                      (appendRelativePath_names)
-/

namespace BundleFramework.Libzip

open PathParts DirTree

/-! ## Algorithm -/

def append (path component : Str) : Str :=
  if component.isEmpty then path
  else if path.isEmpty then component
  else if endsWith path SEPARATOR then
    if SEPARATOR.isPrefixOf component then component.drop 1 else path ++ SEPARATOR ++ component
  else if SEPARATOR.isPrefixOf component then path ++ component
  else path ++ SEPARATOR ++ component

def appendRelativePath (path child : Str) : Option Str :=
  let parentComponents := getComponents path
  let childComponents := getComponents child
  if parentComponents.isEmpty || parentComponents.length ≥ childComponents.length then none
  else if parentComponents.reverse.isPrefixOf childComponents.reverse then
    let rest := childComponents.reverse.drop parentComponents.length
    let rest := if rest.head? = some SEPARATOR then rest.tail else rest
    some (rest.foldl append [])
  else none

/-- The path that is reached by the names. -/
def below (src : Str) (names : List Str) : Str := names.foldl child src

/-- The names with separators between them. -/
def joined : List Str → Str
  | [] => []
  | name :: names => below name names

/-! ## Components, one at a time -/

/-- The name of an entry of a directory. -/
structure EntryName (name : Str) : Prop where
  ne_nil : name ≠ []
  slash : '/' ∉ name
  dot : name ≠ kCurrentDirectory

theorem EntryName.components {name : Str} (h : EntryName name) : components name = [name] :=
  components_eq_singleton h.slash h.ne_nil h.dot

/-- A path with a name in it ends in one, `.` or another. -/
theorem trailing_of_components {path : Str} (h : components path ≠ []) (k : Nat) :
    dirName (path ++ List.replicate k '/') = dirName path ∧ baseName (path ++ List.replicate k '/') = baseName path ∧
      path ≠ dirName path ∧ areAllSeparators (baseName path) = false ∧
      (dirName path = kCurrentDirectory ∨ (dirName path).length < path.length) := by
  cases shape path with
  | separators n => exact absurd (components_separators n) h
  | @name name j hne hname =>
    rw [List.append_assoc, List.replicate_append_replicate]
    rw [dirName_name hne hname, dirName_name hne hname, baseName_name hne hname, baseName_name hne hname]
    refine ⟨rfl, rfl, fun heq => ?_, not_areAllSeparators hne hname, .inl rfl⟩
    rw [heq] at h
    exact h rfl
  | @below above name j hne hname =>
    have hlen : (above ++ '/' :: name).length ≤ (above ++ '/' :: name ++ List.replicate j '/').length :=
      (List.sublist_append_left _ _).length_le
    obtain ⟨-, hlt, -, -⟩ := dirName_below_spec above hne hname j
    rw [List.append_assoc _ (List.replicate j '/'), List.replicate_append_replicate]
    rw [dirName_below above hne hname, dirName_below above hne hname, baseName_below above hne hname,
      baseName_below above hne hname]
    rw [dirName_below above hne hname] at hlt
    refine ⟨rfl, rfl, fun heq => ?_, not_areAllSeparators hne hname, .inr (by omega)⟩
    rw [← heq] at hlt
    omega

theorem componentsLoop_succ {path : Str} (h : components path ≠ []) (fuel : Nat) : componentsLoop (fuel + 1) path =
    (baseName path :: (componentsLoop fuel (dirName path)).1, (componentsLoop fuel (dirName path)).2) := by
  obtain ⟨-, -, hne, hbase, -⟩ := trailing_of_components h 0
  rw [componentsLoop, if_neg hne]
  simp only [hbase, Bool.false_eq_true, if_false]

/-- More fuel than the length changes nothing. -/
theorem componentsLoop_fuel {fuel : Nat} {path : Str} (hne : path ≠ []) (hfuel : path.length ≤ fuel) :
    componentsLoop fuel path = componentsLoop path.length path := by
  induction fuel using Nat.strong_induction_on generalizing path with
  | _ fuel ih =>
    obtain ⟨n, hn⟩ := Nat.exists_eq_succ_of_ne_zero fun h => hne (List.eq_nil_of_length_eq_zero h)
    obtain ⟨f, rfl⟩ : ∃ f, fuel = f + 1 := ⟨fuel - 1, by omega⟩
    cases shape path with
    | separators m =>
      have hm : m ≠ 0 := by
        rintro rfl
        exact hne rfl
      rw [hn, componentsLoop_separators f m hm, componentsLoop_separators n m hm]
    | @name name k hname hslash =>
      rw [hn, componentsLoop, componentsLoop, dirName_name hname hslash, componentsLoop_current, componentsLoop_current]
    | @below above name k hname hslash =>
      obtain ⟨hdir, hlen, -, -⟩ := dirName_below_spec above hname hslash k
      have hle : (above ++ '/' :: name).length ≤ (above ++ '/' :: name ++ List.replicate k '/').length :=
        (List.sublist_append_left _ _).length_le
      have hloop := (ih f (by omega) hdir (by omega)).trans (ih n (by omega) hdir (by omega)).symm
      rw [hn, componentsLoop, componentsLoop, hloop]

theorem getComponents_of_ne_nil {path : Str} (h : path ≠ []) :
    getComponents path =
      let captured := componentsLoop path.length path
      let base := baseName captured.2
      if !base.isEmpty && base ≠ kCurrentDirectory then captured.1 ++ [base] else captured.1 := by
  rw [getComponents, if_neg (by simpa using h)]

/-- **One component at a time**, from the end. -/
theorem getComponents_eq {path : Str} (h : components path ≠ []) :
    getComponents path = baseName path :: getComponents (dirName path) := by
  have hne : path ≠ [] := by
    rintro rfl
    exact h rfl
  have hdir : dirName path ≠ [] := by
    intro hnil
    obtain ⟨-, -, -, -, hcur | hlt⟩ := trailing_of_components h 0
    · rw [hnil] at hcur
      cases hcur
    · cases shape path with
      | separators n => exact h (components_separators n)
      | name k hname hslash =>
        rw [dirName_name hname hslash] at hnil
        cases hnil
      | below above k hname hslash => exact (dirName_below_spec above hname hslash k).1 hnil
  obtain ⟨n, hn⟩ := Nat.exists_eq_succ_of_ne_zero fun h => hne (List.eq_nil_of_length_eq_zero h)
  have hloop : componentsLoop n (dirName path) = componentsLoop (dirName path).length (dirName path) := by
    obtain ⟨-, -, -, -, hcur | hlt⟩ := trailing_of_components h 0
    · rw [hcur, componentsLoop_current, componentsLoop_current]
    · exact componentsLoop_fuel hdir (by omega)
  rw [getComponents_of_ne_nil hne, getComponents_of_ne_nil hdir, hn, componentsLoop_succ h, hloop]
  simp only
  split
  · rw [List.cons_append]
  · rfl

theorem getComponents_trailing (path : Str) (h : components path ≠ []) (k : Nat) :
    getComponents (path ++ List.replicate k '/') = getComponents path := by
  obtain ⟨hdir, hbase, -, -, -⟩ := trailing_of_components h k
  rw [getComponents_eq h, getComponents_eq (by rwa [components_trailing]), hdir, hbase]

theorem exists_strip (path : Str) : ∃ k, path = stripTrailingSeparatorsInternal path ++ List.replicate k '/' := by
  cases shape path with
  | separators n =>
    rw [strip_separators]
    match n with
    | 0 => exact ⟨0, rfl⟩
    | 1 => exact ⟨0, rfl⟩
    | 2 => exact ⟨0, rfl⟩
    | n + 3 => exact ⟨n + 2, by rw [if_neg (by omega), if_neg (by omega)]; rfl⟩
  | @name name k hne hname =>
    have hstrip := strip_name hne hname k
    exact ⟨k, by rw [hstrip]⟩
  | @below above name k hne hname =>
    have hstrip := strip_below above hne hname k
    exact ⟨k, by rw [hstrip]⟩

theorem components_base (path : Str) : components (base path) = components path := by
  rcases eq_base_or path with h | h
  · rw [← h]
  · have htrail := components_trailing (base path) 1
    rw [List.replicate_one, ← h] at htrail
    exact htrail.symm

theorem getComponents_base {path : Str} (h : components path ≠ []) : getComponents (base path) = getComponents path := by
  rcases eq_base_or path with heq | heq
  · rw [← heq]
  · have htrail := getComponents_trailing (base path) (by rwa [components_base]) 1
    rw [List.replicate_one, ← heq] at htrail
    exact htrail.symm

theorem components_child (path : Str) {name : Str} (hname : EntryName name) :
    components (child path name) = components path ++ [name] := by
  rw [child, components_append_slash, components_base, hname.components]

theorem getComponents_child {path : Str} (h : components path ≠ []) {name : Str} (hname : EntryName name) :
    getComponents (child path name) = name :: getComponents path := by
  have hbase : components (base path) ≠ [] := by rwa [components_base]
  have hdir : dirName (child path name) = stripTrailingSeparatorsInternal (base path) := by
    have hbelow := dirName_below (base path) hname.ne_nil hname.slash 0
    rw [List.replicate_zero, List.append_nil, if_neg fun e => hbase (by rw [e]; rfl),
      if_neg fun e => hbase (by rw [e]; rfl)] at hbelow
    exact hbelow
  have hlast : baseName (child path name) = name := by
    have hbelow := baseName_below (base path) hname.ne_nil hname.slash 0
    rwa [List.replicate_zero, List.append_nil] at hbelow
  obtain ⟨k, hk⟩ := exists_strip (base path)
  have htrail := getComponents_trailing (stripTrailingSeparatorsInternal (base path)) (by rwa [components_strip]) k
  rw [← hk] at htrail
  rw [getComponents_eq (by rw [components_child path hname]; simp), hlast, hdir, ← htrail, getComponents_base h]

/-! ## Going down -/

theorem components_below (src : Str) {names : List Str} (h : ∀ name ∈ names, EntryName name) :
    components (below src names) = components src ++ names := by
  induction names generalizing src with
  | nil => exact (List.append_nil _).symm
  | cons name names ih =>
    rw [below, List.foldl_cons]
    refine (ih (child src name) fun name hmem => h name (List.mem_cons_of_mem _ hmem)).trans ?_
    rw [components_child src (h name List.mem_cons_self), List.append_assoc, List.singleton_append]

theorem getComponents_below {src : Str} (hsrc : components src ≠ []) {names : List Str}
    (h : ∀ name ∈ names, EntryName name) : getComponents (below src names) = names.reverse ++ getComponents src := by
  induction names generalizing src with
  | nil => rfl
  | cons name names ih =>
    have hname := h name List.mem_cons_self
    rw [below, List.foldl_cons]
    have hchild : components (child src name) ≠ [] := by
      rw [components_child src hname]
      simp
    refine (ih hchild fun name hmem => h name (List.mem_cons_of_mem _ hmem)).trans ?_
    rw [getComponents_child hsrc hname, List.reverse_cons, List.append_assoc, List.singleton_append]

theorem components_joined {names : List Str} (h : ∀ name ∈ names, EntryName name) : components (joined names) = names := by
  cases names with
  | nil => rfl
  | cons name names =>
    rw [joined, components_below _ fun name hmem => h name (List.mem_cons_of_mem _ hmem),
      (h name List.mem_cons_self).components, List.singleton_append]

theorem getComponents_name {name : Str} (h : EntryName name) : getComponents name = [name] := by
  have hdir := dirName_name h.ne_nil h.slash 0
  have hbase := baseName_name h.ne_nil h.slash 0
  rw [List.replicate_zero, List.append_nil] at hdir hbase
  rw [getComponents_eq (by rw [h.components]; simp), hdir, hbase]
  rfl

theorem getComponents_joined {names : List Str} (h : ∀ name ∈ names, EntryName name) :
    getComponents (joined names) = names.reverse := by
  cases names with
  | nil => rfl
  | cons name names =>
    have hname := h name List.mem_cons_self
    rw [joined, getComponents_below (by rw [hname.components]; simp)
      fun name hmem => h name (List.mem_cons_of_mem _ hmem), getComponents_name hname, List.reverse_cons]

theorem getLast?_name (pre : Str) {name : Str} (h : EntryName name) : (pre ++ name).getLast? ≠ some '/' := by
  intro hlast
  rw [List.getLast?_append] at hlast
  cases hname : name.getLast? with
  | none => exact h.ne_nil (List.getLast?_eq_none_iff.mp hname)
  | some c =>
    rw [hname] at hlast
    cases hlast
    exact h.slash (List.mem_of_getLast? hname)

/-- A path that does not end in a separator stays as it is, and so does the one that a name is put to. -/
theorem append_name {path name : Str} (hne : path ≠ []) (hlast : path.getLast? ≠ some '/') (h : EntryName name) :
    append path name = child path name := by
  have hends : endsWith path SEPARATOR = false := by
    rw [Bool.eq_false_iff]
    intro hends
    obtain ⟨top, rfl⟩ := List.isSuffixOf_iff_suffix.mp hends
    exact hlast (by simp [SEPARATOR])
  have hstarts : SEPARATOR.isPrefixOf name = false := by
    rw [Bool.eq_false_iff]
    intro hstarts
    exact h.slash ((List.isPrefixOf_iff_prefix.mp hstarts).subset (List.mem_singleton.mpr rfl))
  unfold append
  rw [if_neg (by simpa using h.ne_nil), if_neg (by simpa using hne), hends, hstarts, child, base, if_neg hlast,
    List.append_assoc]
  rfl

theorem foldl_append {path : Str} (hne : path ≠ []) (hlast : path.getLast? ≠ some '/') {names : List Str}
    (h : ∀ name ∈ names, EntryName name) : names.foldl append path = below path names := by
  induction names generalizing path with
  | nil => rfl
  | cons name names ih =>
    have hname := h name List.mem_cons_self
    have hchild : child path name = base path ++ ['/'] ++ name := by rw [child, List.append_assoc, List.singleton_append]
    rw [List.foldl_cons, append_name hne hlast hname]
    refine ih ?_ ?_ fun name hmem => h name (List.mem_cons_of_mem _ hmem)
    · rw [hchild]
      simp
    · rw [hchild]
      exact getLast?_name _ hname

/-- What `AppendRelativePath` finds are the names. -/
theorem appendRelativePath_names {path child : Str} {names : List Str} (hpath : getComponents path ≠ [])
    (hchild : getComponents child = names.reverse ++ getComponents path) (hne : names ≠ [])
    (h : ∀ name ∈ names, EntryName name) : appendRelativePath path child = some (joined names) := by
  have hlen := List.length_pos_of_ne_nil hne
  unfold appendRelativePath
  simp only
  rw [hchild, List.reverse_append, List.reverse_reverse]
  rw [if_neg, if_pos, List.drop_left' (by rw [List.length_reverse])]
  · cases names with
    | nil => exact absurd rfl hne
    | cons name names =>
      have hname := h name List.mem_cons_self
      have hrest : ∀ name ∈ names, EntryName name := fun name hmem => h name (List.mem_cons_of_mem _ hmem)
      rw [List.head?_cons, if_neg, List.foldl_cons, joined]
      · have hfirst : append [] name = name := by
          unfold append
          rw [if_neg (by simpa using hname.ne_nil)]
          rfl
        rw [hfirst]
        exact congrArg some (foldl_append hname.ne_nil (getLast?_name [] hname) hrest)
      · intro heq
        exact hname.slash (Option.some.inj heq ▸ List.mem_singleton.mpr rfl)
  · exact List.isPrefixOf_iff_prefix.mpr (List.prefix_append _ _)
  · rw [Bool.or_eq_true, not_or]
    refine ⟨by simpa using hpath, ?_⟩
    simp
    omega

end BundleFramework.Libzip
