import BundleFramework.Zip.RelativePath
import BundleFramework.Zip.Unzip
import BundleFramework.Lib.DirLeaves

/-!
# Packing a directory

`Zip` lists what is below a directory, files and empty directories, names each by its path from
there, and writes the list in batches.  The archive is the list of the leaves of the tree
(`Packable.zip`).
-/

namespace BundleFramework.Libzip

open PathParts DirTree

variable {α : Type}

/-! ## Algorithm -/

mutual

/-- What one entry of a directory gives to `GetZipAllDirFiles`. -/
def itemFiles (path : Str) : Node α → List Str
  | .leaf _ => [path]
  | .dir entries => if (entriesFiles path entries).isEmpty then [path] else entriesFiles path entries

def entriesFiles (path : Str) : Entries α → List Str
  | .nil => []
  | .cons name node rest => itemFiles (child path name) node ++ entriesFiles path rest

end

def directoryExists (fs : FileSystem α) (path : Str) : Bool :=
  match fs.lookup path with
  | some (.dir _) => true
  | _ => false

def isDir (fs : FileSystem α) (path : Str) : Bool :=
  path.isEmpty || path = kCurrentDirectory || path = kParentDirectory || directoryExists fs path

def getZipAllDirFiles (fs : FileSystem α) (path : Str) : List Str :=
  if path.isEmpty || path = kCurrentDirectory || path = kParentDirectory then []
  else
    match fs.lookup path with
    | some (.dir entries) => entriesFiles path entries
    | _ => []

def listDirectoryContent (fs : FileSystem α) (path : Str) : List (Str × Bool) :=
  ((getZipAllDirFiles fs path).filter fun str => !str.isEmpty).map fun str => (str, directoryExists fs str)

/-- The loop over a list that grows at its end, from the second entry on. -/
def relativeFilesLoop (fs : FileSystem α) (skip : Str → Bool) (srcPath : Str) : Nat → List (Str × Bool) → List (Str × Str)
  | fuel + 1, (path, isDirectory) :: entries =>
    if skip path then relativeFilesLoop fs skip srcPath fuel entries
    else
      let rest := relativeFilesLoop fs skip srcPath fuel
        (if isDirectory then entries ++ listDirectoryContent fs path else entries)
      match appendRelativePath srcPath path with
      | some relativePath => (relativePath, path) :: rest
      | none => rest
  | _, _ => []

/-- `IsHiddenFile`: it looks at the first character of the whole path. -/
def isHiddenFile (path : Str) : Bool := path.head? = some '.'

def allRelativeFiles (fs : FileSystem α) (skip : Str → Bool) (keepTopLevelFolder : Bool) (fuel : Nat) (srcDir : Str) :
    List (Str × Str) :=
  let paramPath := if isDir fs srcDir && !endsWith srcDir SEPARATOR then srcDir ++ SEPARATOR else srcDir
  if endsWith paramPath SEPARATOR then
    relativeFilesLoop fs skip (if keepTopLevelFolder then dirName srcDir else srcDir) fuel (listDirectoryContent fs srcDir)
  else [(baseName paramPath, paramPath)]

/-- An entry for a relative path and its absolute one; `none` when the content cannot be added. -/
def addEntry [Inhabited α] (fs : FileSystem α) (paths : Str × Str) : Option (ZipEntry α) :=
  if isDir fs paths.2 then some ⟨paths.1 ++ SEPARATOR, default⟩
  else
    match fs.lookup paths.2 with
    | some (.leaf content) => if filePathCheckValid paths.2 then some ⟨paths.1, content⟩ else none
    | _ => some ⟨paths.1 ++ SEPARATOR, default⟩

def g_MaxPendingEntriesCount : Nat := 50

/-- `FlushEntriesIfNeeded`: what is still pending, and what has been written. -/
def flushEntriesIfNeeded [Inhabited α] (fs : FileSystem α) (force : Bool) :
    Nat → List (Str × Str) → List (ZipEntry α) → Option (List (Str × Str) × List (ZipEntry α))
  | fuel + 1, pendingEntries, written =>
    if pendingEntries.length ≥ g_MaxPendingEntriesCount || force && !pendingEntries.isEmpty then
      ((pendingEntries.take g_MaxPendingEntriesCount).mapM (addEntry fs)).bind fun batch =>
        flushEntriesIfNeeded fs force fuel (pendingEntries.drop g_MaxPendingEntriesCount) (written ++ batch)
    else some (pendingEntries, written)
  | 0, pendingEntries, written => some (pendingEntries, written)

/-- `AddEntries`, then `Close`. -/
def writeEntries [Inhabited α] (fs : FileSystem α) (paths : List (Str × Str)) : Option (List (ZipEntry α)) :=
  (flushEntriesIfNeeded fs false paths.length paths []).bind fun added =>
    (flushEntriesIfNeeded fs true added.1.length added.1 added.2).map Prod.snd

def zip [Inhabited α] (fs : FileSystem α) (includeHiddenFiles keepTopLevelFolder : Bool) (fuel : Nat) (srcDir : Str) :
    Option (List (ZipEntry α)) :=
  writeEntries fs
    (allRelativeFiles fs (fun path => !includeHiddenFiles && isHiddenFile path) keepTopLevelFolder fuel srcDir)

/-! ## Batches -/

section
variable [Inhabited α] (fs : FileSystem α)

theorem mapM_addEntry_append (paths paths' : List (Str × Str)) : (paths ++ paths').mapM (addEntry fs) =
    (paths.mapM (addEntry fs)).bind fun batch => (paths'.mapM (addEntry fs)).map (batch ++ ·) := by
  rw [List.mapM_append]
  cases paths.mapM (addEntry fs) with
  | none => rfl
  | some batch =>
    cases paths'.mapM (addEntry fs) with
    | none => rfl
    | some batch' => rfl

/-- A batch and what is written after it are all that was pending. -/
theorem batch_then (pending : List (Str × Str)) (written : List (ZipEntry α)) :
    (((pending.take g_MaxPendingEntriesCount).mapM (addEntry fs)).bind fun batch =>
      ((pending.drop g_MaxPendingEntriesCount).mapM (addEntry fs)).map (written ++ batch ++ ·)) =
        (pending.mapM (addEntry fs)).map (written ++ ·) := by
  conv_rhs => rw [← List.take_append_drop g_MaxPendingEntriesCount pending, mapM_addEntry_append]
  cases (pending.take g_MaxPendingEntriesCount).mapM (addEntry fs) with
  | none => rfl
  | some batch =>
    cases (pending.drop g_MaxPendingEntriesCount).mapM (addEntry fs) with
    | none => rfl
    | some batch' => exact congrArg some (List.append_assoc _ _ _)

theorem flushEntriesIfNeeded_force {fuel : Nat} {pending : List (Str × Str)} (written : List (ZipEntry α))
    (hfuel : pending.length ≤ fuel) : (flushEntriesIfNeeded fs true fuel pending written).map Prod.snd =
      (pending.mapM (addEntry fs)).map (written ++ ·) := by
  have hnil : (([] : List (Str × Str)).mapM (addEntry fs)).map (written ++ ·) = some written :=
    congrArg some (List.append_nil _)
  induction fuel generalizing pending written with
  | zero =>
    rw [List.eq_nil_of_length_eq_zero (Nat.le_zero.mp hfuel), hnil]
    rfl
  | succ fuel ih =>
    rw [flushEntriesIfNeeded]
    split
    · next hmore =>
      have hlt : (pending.drop g_MaxPendingEntriesCount).length ≤ fuel := by
        rw [List.length_drop, g_MaxPendingEntriesCount]
        omega
      rw [← batch_then, Option.map_bind]
      refine congrArg _ (funext fun batch => ?_)
      exact ih (written ++ batch) hlt (congrArg some (List.append_nil _))
    · next hmore =>
      rw [Bool.not_eq_true, Bool.or_eq_false_iff, Bool.true_and, Bool.not_eq_false', List.isEmpty_iff] at hmore
      rw [hmore.2, hnil]
      rfl

/-- **The batches make no difference**: every path is written, in its order. -/
theorem writeEntries_eq (paths : List (Str × Str)) : writeEntries fs paths = paths.mapM (addEntry fs) := by
  have hrun : ∀ (fuel : Nat) (pending : List (Str × Str)) (written : List (ZipEntry α)),
      ((flushEntriesIfNeeded fs false fuel pending written).bind fun added =>
        (flushEntriesIfNeeded fs true added.1.length added.1 added.2).map Prod.snd) =
          (pending.mapM (addEntry fs)).map (written ++ ·) := by
    intro fuel
    induction fuel with
    | zero => exact fun pending written => flushEntriesIfNeeded_force fs written (le_refl _)
    | succ fuel ih =>
      intro pending written
      rw [flushEntriesIfNeeded]
      split
      · rw [← batch_then, Option.bind_assoc]
        exact congrArg _ (funext fun batch => ih _ _)
      · exact flushEntriesIfNeeded_force fs written (le_refl _)
  rw [writeEntries, hrun]
  exact Option.map_id'

end

/-! ## The leaves of the tree -/

mutual

theorem itemFiles_below (src : Str) : ∀ (node : Node α) (names : List Str),
    itemFiles (below src names) node = (node.leaves names).map fun l => below src l.1
  | .leaf a, names => rfl
  | .dir entries, names => by
    rw [itemFiles, Node.leaves, entriesFiles_below src entries names, List.isEmpty_map]
    split
    · rfl
    · rfl

theorem entriesFiles_below (src : Str) : ∀ (entries : Entries α) (names : List Str),
    entriesFiles (below src names) entries = (entries.leaves names).map fun l => below src l.1
  | .nil, names => rfl
  | .cons name node rest, names => by
    have hchild : child (below src names) name = below src (names ++ [name]) := by
      rw [below, below, List.foldl_append]
      rfl
    rw [entriesFiles, Entries.leaves, List.map_append, hchild, itemFiles_below src node, entriesFiles_below src rest]

end

/-- What is found in the tree of a directory is there in the file system. -/
theorem lookup_below {fs : FileSystem α} {names : List Str} {src : Str} {node found : Node α}
    (hsrc : fs.lookup src = some node) (h : node.find names = some found) : fs.lookup (below src names) = some found := by
  induction names generalizing src node with
  | nil =>
    cases h
    exact hsrc
  | cons name names ih =>
    rw [Node.find_cons, Option.bind_eq_some_iff] at h
    obtain ⟨next, hentry, hfound⟩ := h
    cases node with
    | leaf a => cases hentry
    | dir entries => exact ih (fs.below hsrc (Entries.mem_of_find? hentry)) hfound

/-- A directory that can be packed as it is: all paths have names, which do not break lines. -/
structure Packable (fs : FileSystem α) (includeHiddenFiles keepTopLevelFolder : Bool) (src : Str) (entries : Entries α) :
    Prop where
  there : fs.lookup src = some (.dir entries)
  named : entries.WellNamed
  src_name : components src ≠ []
  src_up : src ≠ kParentDirectory
  src_hidden : includeHiddenFiles = true ∨ src.head? ≠ some '.'
  top : keepTopLevelFolder = true → getComponents (dirName src) ≠ [] ∧ EntryName (baseName src)
  names : ∀ l ∈ entries.leaves [], ∀ name ∈ l.1, EntryName name
  lines : ∀ l ∈ entries.leaves [], filePathCheckValid (below src l.1) = true

/-- The names that come before those of the tree. -/
def topNames (keepTopLevelFolder : Bool) (src : Str) : List Str := if keepTopLevelFolder then [baseName src] else []

/-- The entry for a leaf. -/
def leafEntry [Inhabited α] (top : List Str) (l : List Str × Option α) : ZipEntry α :=
  match l.2 with
  | some content => ⟨joined (top ++ l.1), content⟩
  | none => ⟨joined (top ++ l.1) ++ SEPARATOR, default⟩

/-- Only the source itself can make a path look hidden. -/
theorem isHiddenFile_below {src : Str} {names : List Str} (h : isHiddenFile (below src names) = true) :
    isHiddenFile src = true := by
  induction names generalizing src with
  | nil => exact h
  | cons name names ih =>
    have hchild : (child src name).head? = some '.' := of_decide_eq_true (ih h)
    refine decide_eq_true ?_
    cases hbase : base src with
    | nil =>
      rw [child, hbase] at hchild
      cases hchild
    | cons c rest =>
      rw [child, hbase] at hchild
      rcases eq_base_or src with hsrc | hsrc
      · rw [hsrc, hbase]
        exact hchild
      · rw [hsrc, hbase]
        exact hchild

theorem directoryExists_leaf {fs : FileSystem α} {path : Str} {leaf : Option α} (h : fs.lookup path = some (ofLeaf leaf)) :
    directoryExists fs path = leaf.isNone := by
  unfold directoryExists
  rw [h]
  cases leaf with
  | some a => rfl
  | none => rfl

/-- An empty directory has nothing more to list. -/
theorem listDirectoryContent_leaf {fs : FileSystem α} {path : Str} {leaf : Option α}
    (h : fs.lookup path = some (ofLeaf leaf)) : listDirectoryContent fs path = [] := by
  have hfiles : getZipAllDirFiles fs path = [] := by
    unfold getZipAllDirFiles
    split
    · rfl
    · rw [h]
      cases leaf with
      | some a => rfl
      | none => rfl
  rw [listDirectoryContent, hfiles]
  rfl

theorem relativeFilesLoop_leaves {fs : FileSystem α} {skip : Str → Bool} {srcPath : Str} (path relative : List Str → Str)
    {ls : List (List Str × Option α)} (h : ∀ l ∈ ls, fs.lookup (path l.1) = some (ofLeaf l.2) ∧ skip (path l.1) = false ∧
      appendRelativePath srcPath (path l.1) = some (relative l.1)) {fuel : Nat} (hfuel : ls.length ≤ fuel) :
    relativeFilesLoop fs skip srcPath fuel (ls.map fun l => (path l.1, l.2.isNone)) =
      ls.map fun l => (relative l.1, path l.1) := by
  induction ls generalizing fuel with
  | nil => cases fuel <;> rfl
  | cons l ls ih =>
    obtain ⟨hlookup, hskip, hrel⟩ := h l List.mem_cons_self
    cases fuel with
    | zero => exact absurd hfuel (Nat.not_succ_le_zero _)
    | succ fuel =>
      rw [List.map_cons, relativeFilesLoop, hskip, listDirectoryContent_leaf hlookup, List.append_nil, ite_self,
        if_neg Bool.false_ne_true, ih (fun l hl => h l (List.mem_cons_of_mem _ hl)) (Nat.le_of_succ_le_succ hfuel), hrel]
      rfl

/-- A path below a directory is none of those that are not looked up. -/
theorem below_ne {src : Str} (hsrc : components src ≠ []) {names : List Str} (hne : names ≠ [])
    (h : ∀ name ∈ names, EntryName name) :
    below src names ≠ [] ∧ below src names ≠ kCurrentDirectory ∧ below src names ≠ kParentDirectory := by
  have hcomp := components_below src h
  have hlen : 2 ≤ (components (below src names)).length := by
    rw [hcomp, List.length_append]
    have := List.length_pos_of_ne_nil hsrc
    have := List.length_pos_of_ne_nil hne
    omega
  refine ⟨fun e => ?_, fun e => ?_, fun e => ?_⟩
  · rw [e] at hlen
    exact absurd hlen (by decide)
  · rw [e] at hlen
    exact absurd hlen (by decide)
  · rw [e] at hlen
    exact absurd hlen (by decide)

section
variable {fs : FileSystem α} {includeHiddenFiles keepTopLevelFolder : Bool} {src : Str} {entries : Entries α}
  (h : Packable fs includeHiddenFiles keepTopLevelFolder src entries)
include h

theorem Packable.lookup {l : List Str × Option α} (hl : l ∈ entries.leaves []) :
    fs.lookup (below src l.1) = some (ofLeaf l.2) :=
  lookup_below h.there (Entries.find_leaf h.named hl).2

theorem Packable.special {l : List Str × Option α} (hl : l ∈ entries.leaves []) :
    below src l.1 ≠ [] ∧ below src l.1 ≠ kCurrentDirectory ∧ below src l.1 ≠ kParentDirectory :=
  below_ne h.src_name (Entries.find_leaf h.named hl).1 (h.names l hl)

theorem Packable.listDirectoryContent : listDirectoryContent fs src =
    (entries.leaves []).map fun l => (below src l.1, l.2.isNone) := by
  have hfiles : getZipAllDirFiles fs src = (entries.leaves []).map fun l => below src l.1 := by
    unfold getZipAllDirFiles
    rw [if_neg, h.there]
    · exact entriesFiles_below src entries []
    · simp only [Bool.or_eq_true, List.isEmpty_iff, decide_eq_true_eq, not_or]
      refine ⟨⟨?_, ?_⟩, h.src_up⟩
      · rintro rfl
        exact h.src_name rfl
      · rintro rfl
        exact h.src_name rfl
  have hall : ((entries.leaves []).map fun l => below src l.1).filter (fun str => !str.isEmpty) =
      (entries.leaves []).map fun l => below src l.1 := by
    rw [List.filter_eq_self]
    intro str hstr
    obtain ⟨l, hl, rfl⟩ := List.mem_map.mp hstr
    simpa using (h.special hl).1
  rw [Libzip.listDirectoryContent, hfiles, hall, List.map_map]
  refine List.map_congr_left fun l hl => ?_
  exact congrArg (Prod.mk _) (directoryExists_leaf (h.lookup hl))

theorem Packable.relative {l : List Str × Option α} (hl : l ∈ entries.leaves []) :
    appendRelativePath (if keepTopLevelFolder then dirName src else src) (below src l.1) =
      some (joined (topNames keepTopLevelFolder src ++ l.1)) := by
  have hne := (Entries.find_leaf h.named hl).1
  have hnames := h.names l hl
  have hcomp := getComponents_below h.src_name hnames
  rw [getComponents_eq h.src_name] at hcomp
  cases keepTopLevelFolder with
  | false =>
    rw [if_neg Bool.false_ne_true, topNames, if_neg Bool.false_ne_true, List.nil_append]
    refine appendRelativePath_names ?_ (getComponents_below h.src_name hnames) hne hnames
    rw [getComponents_eq h.src_name]
    exact List.cons_ne_nil _ _
  | true =>
    obtain ⟨htop, hbase⟩ := h.top rfl
    rw [if_pos rfl, topNames, if_pos rfl]
    refine appendRelativePath_names htop ?_ (List.cons_ne_nil _ _) ?_
    · rw [hcomp, List.singleton_append, List.reverse_cons, List.append_assoc, List.singleton_append]
    · intro name hname
      rcases List.mem_cons.mp hname with rfl | hname
      · exact hbase
      · exact hnames name hname

theorem Packable.allRelativeFiles {fuel : Nat} (hfuel : (entries.leaves []).length ≤ fuel) :
    allRelativeFiles fs (fun path => !includeHiddenFiles && isHiddenFile path) keepTopLevelFolder fuel src =
      (entries.leaves []).map fun l => (joined (topNames keepTopLevelFolder src ++ l.1), below src l.1) := by
  have hends : endsWith (if isDir fs src && !endsWith src SEPARATOR then src ++ SEPARATOR else src) SEPARATOR = true := by
    have hdir : isDir fs src = true := by
      unfold isDir directoryExists
      rw [h.there, Bool.or_true]
    rw [hdir, Bool.true_and]
    split
    · exact List.isSuffixOf_iff_suffix.mpr (List.suffix_append _ _)
    · next hnot => simpa using hnot
  unfold Libzip.allRelativeFiles
  simp only
  rw [if_pos hends, h.listDirectoryContent]
  refine relativeFilesLoop_leaves (below src) (fun names => joined (topNames keepTopLevelFolder src ++ names))
    (fun l hl => ⟨h.lookup hl, ?_, h.relative hl⟩) hfuel
  rw [Bool.and_eq_false_imp]
  intro hinclude
  rw [Bool.eq_false_iff]
  intro hhidden
  rcases h.src_hidden with hall | hsrc
  · rw [hall] at hinclude
    cases hinclude
  · exact hsrc (of_decide_eq_true (isHiddenFile_below hhidden))

theorem Packable.addEntry [Inhabited α] {l : List Str × Option α} (hl : l ∈ entries.leaves []) :
    addEntry fs (joined (topNames keepTopLevelFolder src ++ l.1), below src l.1) =
      some (leafEntry (topNames keepTopLevelFolder src) l) := by
  have hlookup := h.lookup hl
  have hdir := directoryExists_leaf hlookup
  have hlines := h.lines l hl
  obtain ⟨hempty, hcurrent, hparent⟩ := h.special hl
  unfold Libzip.addEntry isDir leafEntry
  simp only [hdir, hcurrent, hparent, decide_false, Bool.or_false, List.isEmpty_eq_false_iff.mpr hempty, Bool.false_or,
    hlookup]
  cases hleaf : l.2 with
  | none => rfl
  | some content => exact if_pos hlines

/-- **The archive of a directory** has an entry for every file and every empty directory, and no others. -/
theorem Packable.zip [Inhabited α] {fuel : Nat} (hfuel : (entries.leaves []).length ≤ fuel) :
    zip fs includeHiddenFiles keepTopLevelFolder fuel src =
      some ((entries.leaves []).map (leafEntry (topNames keepTopLevelFolder src))) := by
  rw [Libzip.zip, writeEntries_eq, h.allRelativeFiles hfuel, List.mapM_map]
  have hall : ∀ ls ⊆ entries.leaves [],
      ls.mapM (fun l => Libzip.addEntry fs (joined (topNames keepTopLevelFolder src ++ l.1), below src l.1)) =
        some (ls.map (leafEntry (topNames keepTopLevelFolder src))) := by
    intro ls hsub
    induction ls with
    | nil => rfl
    | cons l ls ih =>
      rw [List.mapM_cons, h.addEntry (hsub List.mem_cons_self), ih fun l hl => hsub (List.mem_cons_of_mem _ hl)]
      rfl
  exact hall _ (List.Subset.refl _)

end

end BundleFramework.Libzip
