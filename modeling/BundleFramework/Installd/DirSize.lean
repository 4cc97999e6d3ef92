import BundleFramework.Base.Str
import BundleFramework.Lib.DirTree
import BundleFramework.Lib.MapLoop

/-!
# Sizes of directories

`installd_operator.cpp` walks a directory with `nftw`, every directory after its entries, and
records the size of each directory below it in one pass: `AccumulateEntry` keeps one number
for each level.  The walk may be aborted by a deadline, the clock being read every
`CHECK_TIMEOUT_INTERVAL` entries, and the sizes recorded so far stay in the cache.

The walk is a fold-up (`DirTree.Sums`) in `uint64_t`.  Within `MAX_FTW_DEPTH` and
`MAX_DIRECTORY_SIZE` every recorded size is the sum of the regular files below the directory,
wherever the walk stops (`dir_size_exact`).
-/

namespace BundleFramework.DirSize

open DirTree Std

/-! ## Algorithm -/

def MAX_FTW_DEPTH : Nat := 1000

def MAX_DIRECTORY_SIZE : UInt64 := 18446744073709551615 - 1024 * 1024 * 1024

def CHECK_TIMEOUT_INTERVAL : UInt64 := 512

inductive Typeflag where
  | FTW_F | FTW_D | FTW_DNR | FTW_NS | FTW_SL | FTW_DP | FTW_SLN
  deriving DecidableEq

structure FtwEntry where
  path : Str
  st_size : Int64
  typeflag : Typeflag
  level : Nat

structure DirSizeData where
  totalSize : UInt64
  overflow : Bool
  cache : StrMap UInt64
  acc : List UInt64
  timedOut : Bool
  entryCounter : UInt64

def DirSizeData.start (cache : StrMap UInt64) : DirSizeData where
  totalSize := 0
  overflow := false
  cache := cache
  acc := []
  timedOut := false
  entryCounter := 0

/-- The number of a level, which is there once `resize` has been called for it. -/
def accAt (acc : List UInt64) (level : Nat) : UInt64 := acc.getD level 0

/-- `acc.resize(level + 1, 0)` where the level is not there. -/
def resize (acc : List UInt64) (level : Nat) : List UInt64 :=
  if acc.length ≤ level then acc ++ List.replicate (level + 1 - acc.length) 0 else acc

def addBelow (acc : List UInt64) (level : Nat) (n : UInt64) : List UInt64 :=
  if level > 0 then acc.set (level - 1) (accAt acc (level - 1) + n) else acc

/-- The first component is what the walk is told: 0 to continue. -/
def accumulateEntry (data : DirSizeData) (entry : FtwEntry) : Int × DirSizeData :=
  let acc := resize data.acc entry.level
  match entry.typeflag with
  | .FTW_F =>
    if entry.st_size < 0 then (0, { data with acc := acc })
    else if data.totalSize > MAX_DIRECTORY_SIZE - entry.st_size.toUInt64 then
      (1, { data with acc := acc, overflow := true })
    else
      (0, { data with
        totalSize := data.totalSize + entry.st_size.toUInt64
        acc := addBelow acc entry.level entry.st_size.toUInt64 })
  | .FTW_DP =>
    let dirTotal := accAt acc entry.level
    (0, { data with
      cache := data.cache.insert entry.path dirTotal
      acc := (addBelow acc entry.level dirTotal).set entry.level 0 })
  | _ => (0, { data with acc := acc })

/-- A deadline, if there is one: whether it has passed when the clock is read at this count. -/
abbrev Deadline := Option (UInt64 → Bool)

def calculateDirSizeCallback (deadline : Deadline) (data : DirSizeData) (entry : FtwEntry) : Int × DirSizeData :=
  match deadline with
  | none => if entry.level > MAX_FTW_DEPTH then (0, data) else accumulateEntry data entry
  | some passed =>
    let counted := { data with entryCounter := data.entryCounter + 1 }
    if counted.entryCounter % CHECK_TIMEOUT_INTERVAL = 0 ∧ passed counted.entryCounter then
      (1, { counted with timedOut := true })
    else if entry.level > MAX_FTW_DEPTH then (0, counted)
    else accumulateEntry counted entry

/-- The walk stops at the first entry that is not answered with 0. -/
def walkEntries (callback : DirSizeData → FtwEntry → Int × DirSizeData) :
    DirSizeData → List FtwEntry → Int × DirSizeData
  | data, [] => (0, data)
  | data, entry :: entries =>
    match callback data entry with
    | (0, data') => walkEntries callback data' entries
    | answer => answer

/-- `failsAfter` is the number of entries reported before the walk itself fails, if it does. -/
def nftw (callback : DirSizeData → FtwEntry → Int × DirSizeData) (failsAfter : Option Nat) (data : DirSizeData)
    (entries : List FtwEntry) : Int × DirSizeData :=
  match failsAfter with
  | none => walkEntries callback data entries
  | some n =>
    match walkEntries callback data (entries.take n) with
    | (0, data') => (-1, data')
    | answer => answer

/-! ## What is walked -/

inductive OtherFile where
  | link
  | unreadable
  | noStat

def OtherFile.typeflag : OtherFile → Typeflag
  | .link => .FTW_SL
  | .unreadable => .FTW_DNR
  | .noStat => .FTW_NS

inductive FileStat where
  | regular (st_size : Int64)
  | other (kind : OtherFile) (st_size : Int64)

/-- Regular files count; no size is negative. -/
def FileStat.size : FileStat → Nat
  | .regular st_size => st_size.toNatClampNeg
  | .other _ _ => 0

def ftwEntry (v : Visit FileStat) : FtwEntry :=
  match v.leaf with
  | some (.regular st_size) => ⟨v.path, st_size, .FTW_F, v.level⟩
  | some (.other kind st_size) => ⟨v.path, st_size, kind.typeflag, v.level⟩
  | none => ⟨v.path, 0, .FTW_DP, v.level⟩

/-- The entries that `nftw` reports with `FTW_DEPTH`. -/
def ftwEntries (path : Str) (tree : Node FileStat) : List FtwEntry := (tree.postOrder path 0).map ftwEntry

/-- `stat` follows links and `nftw` with `FTW_PHYS` does not: a directory by `stat` is a directory
or a link for the walk. -/
structure Disk extends FileSystem FileStat where
  isDir : Str → Bool
  isDir_lookup : ∀ {path}, isDir path = true → ∃ node, lookup path = some node ∧ ∀ st_size, node ≠ .leaf (.regular st_size)

/-- Every tree is a disk. -/
def Disk.ofTree (root : Str) (tree : Node FileStat) (h : tree.WellNamed) : Disk where
  toFileSystem := FileSystem.ofTree root tree h
  isDir path :=
    match lookupFrom root tree path with
    | some (.dir _) => true
    | _ => false
  isDir_lookup {path} hdir := by
    split at hdir
    · next entries hlookup => exact ⟨_, hlookup, fun _ heq => nomatch heq⟩
    · cases hdir

/-- What one call finds: the deadline, where the walk fails, and whether this thread walks already. -/
structure Call where
  dirPath : Str
  deadline : Deadline
  failsAfter : Option Nat
  walking : Bool

def calculateDirectorySizeWithCache (disk : Disk) (call : Call) (dirSizeCache : StrMap UInt64) : UInt64 × StrMap UInt64 :=
  match dirSizeCache[call.dirPath]? with
  | some size => (size, dirSizeCache)
  | none =>
    if !disk.isDir call.dirPath then (0, dirSizeCache)
    else if call.deadline.any (· 0) then (0, dirSizeCache)
    else if call.walking then (0, dirSizeCache)
    else
      let entries := match disk.lookup call.dirPath with
        | none => []
        | some tree => ftwEntries call.dirPath tree
      let result := nftw (calculateDirSizeCallback call.deadline) call.failsAfter (.start dirSizeCache) entries
      let data := result.2
      if data.timedOut then (0, data.cache)
      else if result.1 ≠ 0 ∧ !data.overflow then (0, data.cache)
      else (data.totalSize, data.cache.insert call.dirPath data.totalSize)

/-! ## The numbers of the levels -/

theorem accAt_resize (acc : List UInt64) (level i : Nat) : accAt (resize acc level) i = accAt acc i := by
  unfold accAt resize
  split
  · rw [List.getD_eq_getElem?_getD, List.getD_eq_getElem?_getD]
    by_cases hi : i < acc.length
    · rw [List.getElem?_append_left hi]
    · rw [List.getElem?_append_right (by omega), List.getElem?_replicate, List.getElem?_eq_none (l := acc) (by omega)]
      split
      · rfl
      · rfl
  · rfl

theorem lt_length_resize (acc : List UInt64) (level : Nat) : level < (resize acc level).length := by
  unfold resize
  split
  · rw [List.length_append, List.length_replicate]
    omega
  · omega

theorem accAt_set {acc : List UInt64} {level : Nat} (h : level < acc.length) (n : UInt64) (i : Nat) :
    accAt (acc.set level n) i = if i = level then n else accAt acc i := by
  unfold accAt
  rw [List.getD_eq_getElem?_getD, List.getD_eq_getElem?_getD, List.getElem?_set]
  by_cases hi : i = level
  · rw [if_pos hi.symm, if_pos hi, if_pos (hi ▸ h)]
    rfl
  · rw [if_neg (Ne.symm hi), if_neg hi]

theorem accAt_addBelow {acc : List UInt64} {level : Nat} (h : level < acc.length) (n : UInt64) (i : Nat) :
    accAt (addBelow acc level n) i = accAt acc i + if i + 1 = level then n else 0 := by
  unfold addBelow
  split
  · next hpos =>
    rw [accAt_set (by omega)]
    by_cases hi : i + 1 = level
    · rw [if_pos (by omega), if_pos hi, show level - 1 = i by omega]
    · rw [if_neg (by omega), if_neg hi, UInt64.add_zero]
  · rw [if_neg (by omega), UInt64.add_zero]

theorem length_addBelow (acc : List UInt64) (level : Nat) (n : UInt64) : (addBelow acc level n).length = acc.length := by
  unfold addBelow
  split
  · exact List.length_set
  · rfl

/-! ## The walk folds up in `uint64_t` -/

/-- `data` is the fold-up `s`, modulo 2^64. -/
structure Folds (data : DirSizeData) (s : Sums) : Prop where
  total : data.totalSize = UInt64.ofNat s.total
  acc : ∀ i, accAt data.acc i = UInt64.ofNat (s.acc i)
  cache : ∀ path : Str, data.cache[path]? = (s.sizes path).map UInt64.ofNat
  overflow : data.overflow = false

def Sums.start (cache : StrMap UInt64) : Sums where
  total := 0
  acc := fun _ => 0
  sizes := fun path => (cache[(path : Str)]?).map UInt64.toNat

theorem folds_start (cache : StrMap UInt64) : Folds (.start cache) (Sums.start cache) := by
  refine ⟨rfl, fun i => rfl, fun path => ?_, rfl⟩
  show cache[path]? = ((cache[path]?).map UInt64.toNat).map UInt64.ofNat
  rw [Option.map_map]
  cases cache[path]? with
  | none => rfl
  | some size => exact congrArg some UInt64.ofNat_toNat.symm

variable {data : DirSizeData} {s : Sums}

theorem ofNat_addParent (level n : Nat) (acc : Nat → Nat) (i : Nat) :
    UInt64.ofNat (addParent level n acc i) = UInt64.ofNat (acc i) + if i + 1 = level then UInt64.ofNat n else 0 := by
  unfold addParent
  rw [UInt64.ofNat_add]
  split
  · rfl
  · rfl

theorem Folds.addBelow (h : Folds data s) (level n i : Nat) :
    accAt (addBelow (resize data.acc level) level (UInt64.ofNat n)) i = UInt64.ofNat (addParent level n s.acc i) := by
  rw [accAt_addBelow (lt_length_resize _ _), accAt_resize, h.acc, ofNat_addParent]

theorem folds_regular (h : Folds data s) (path : Str) (level : Nat) {st_size : Int64}
    (hroom : s.total + st_size.toNatClampNeg ≤ MAX_DIRECTORY_SIZE.toNat) :
    (accumulateEntry data ⟨path, st_size, .FTW_F, level⟩).1 = 0 ∧
    Folds (accumulateEntry data ⟨path, st_size, .FTW_F, level⟩).2
      (s.step FileStat.size ⟨path, level, some (.regular st_size)⟩) := by
  unfold accumulateEntry Sums.step
  dsimp only
  split
  · next hneg =>
    -- a negative size counts as nothing
    have hzero : st_size.toNatClampNeg = 0 := Int.toNat_of_nonpos (Int.le_of_lt (Int64.lt_iff_toInt_lt.mp hneg))
    refine ⟨rfl, ?_, ?_, h.cache, h.overflow⟩
    · show _ = UInt64.ofNat (s.total + st_size.toNatClampNeg)
      rw [hzero]
      exact h.total
    · intro i
      show accAt (resize _ _) i = UInt64.ofNat (addParent level st_size.toNatClampNeg s.acc i)
      rw [hzero, addParent_zero, accAt_resize]
      exact h.acc i
  · next hpos =>
    have hnat := Int64.toNat_toUInt64_of_le (Int64.not_lt.mp hpos)
    have hsize : st_size.toUInt64 = UInt64.ofNat st_size.toNatClampNeg := by rw [← hnat, UInt64.ofNat_toNat]
    have hfits : ¬ data.totalSize > MAX_DIRECTORY_SIZE - st_size.toUInt64 := by
      have hle : st_size.toUInt64 ≤ MAX_DIRECTORY_SIZE := by
        rw [UInt64.le_iff_toNat_le, hnat]
        omega
      have htotal : data.totalSize.toNat ≤ s.total := by
        rw [h.total, UInt64.toNat_ofNat']
        exact Nat.mod_le _ _
      rw [gt_iff_lt, UInt64.not_lt, UInt64.le_iff_toNat_le, UInt64.toNat_sub_of_le _ _ hle, hnat]
      omega
    rw [if_neg hfits]
    refine ⟨rfl, ?_, ?_, h.cache, h.overflow⟩
    · show data.totalSize + st_size.toUInt64 = UInt64.ofNat (s.total + st_size.toNatClampNeg)
      rw [h.total, hsize, UInt64.ofNat_add]
    · intro i
      rw [hsize]
      exact h.addBelow level st_size.toNatClampNeg i

/-- **One entry.** -/
theorem folds_accumulateEntry (h : Folds data s) (v : Visit FileStat)
    (hroom : (s.step FileStat.size v).total ≤ MAX_DIRECTORY_SIZE.toNat) :
    (accumulateEntry data (ftwEntry v)).1 = 0 ∧ Folds (accumulateEntry data (ftwEntry v)).2 (s.step FileStat.size v) := by
  obtain ⟨path, level, leaf⟩ := v
  match leaf, hroom with
  | some (.regular st_size), hroom => exact folds_regular h path level hroom
  | some (.other kind st_size), _ =>
    have hother : accumulateEntry data (ftwEntry ⟨path, level, some (.other kind st_size)⟩) =
        (0, { data with acc := resize data.acc level }) := by
      cases kind with
      | link => rfl
      | unreadable => rfl
      | noStat => rfl
    rw [hother]
    refine ⟨rfl, h.total, ?_, h.cache, h.overflow⟩
    intro i
    show accAt (resize _ _) i = UInt64.ofNat (addParent level 0 s.acc i)
    rw [addParent_zero, accAt_resize]
    exact h.acc i
  | none, _ =>
    have hat : accAt (resize data.acc level) level = UInt64.ofNat (s.acc level) := by
      rw [accAt_resize]
      exact h.acc level
    refine ⟨rfl, h.total, ?_, ?_, h.overflow⟩
    · intro i
      show accAt ((addBelow (resize data.acc level) level (accAt (resize data.acc level) level)).set level 0) i =
        UInt64.ofNat (Function.update (addParent level (s.acc level) s.acc) level 0 i)
      rw [accAt_set (by rw [length_addBelow]; exact lt_length_resize _ _), hat, h.addBelow]
      by_cases hi : i = level
      · rw [if_pos hi, hi, Function.update_self]
        rfl
      · rw [if_neg hi, Function.update_of_ne hi]
    · intro other
      show (data.cache.insert path (accAt (resize data.acc level) level))[other]? =
        (record s.sizes (path, s.acc level) other).map UInt64.ofNat
      rw [MapLoop.getElem?_insert_eq, hat]
      unfold record
      by_cases hother : other = path
      · rw [if_pos hother, hother, Function.update_self]
        rfl
      · rw [if_neg hother, Function.update_of_ne hother]
        exact h.cache other

theorem accumulateEntry_timedOut (data : DirSizeData) (entry : FtwEntry) :
    (accumulateEntry data entry).2.timedOut = data.timedOut := by
  unfold accumulateEntry
  dsimp only
  split
  · split
    · rfl
    · split
      · rfl
      · rfl
  · rfl
  · rfl

/-- An entry is added, or the walk stops in front of it. -/
theorem callback_cases (deadline : Deadline) (h : Folds data s) (hin : data.timedOut = false) {v : Visit FileStat}
    (hlevel : v.level ≤ MAX_FTW_DEPTH) (hroom : (s.step FileStat.size v).total ≤ MAX_DIRECTORY_SIZE.toNat) :
    (∃ data', calculateDirSizeCallback deadline data (ftwEntry v) = (0, data') ∧
      Folds data' (s.step FileStat.size v) ∧ data'.timedOut = false) ∨
    ∃ data', calculateDirSizeCallback deadline data (ftwEntry v) = (1, data') ∧ Folds data' s ∧ data'.timedOut = true ∧
      deadline ≠ none := by
  have hdeep : ¬ (ftwEntry v).level > MAX_FTW_DEPTH := by
    have hsame : (ftwEntry v).level = v.level := by
      unfold ftwEntry
      split
      · rfl
      · rfl
      · rfl
    omega
  have hadded : ∀ counted : DirSizeData, Folds counted s → counted.timedOut = false →
      ∃ data', accumulateEntry counted (ftwEntry v) = (0, data') ∧ Folds data' (s.step FileStat.size v) ∧
        data'.timedOut = false := by
    intro counted hcounted hnot
    obtain ⟨hzero, hfolds⟩ := folds_accumulateEntry hcounted v hroom
    exact ⟨_, Prod.ext hzero rfl, hfolds, (accumulateEntry_timedOut _ _).trans hnot⟩
  cases deadline with
  | none =>
    left
    unfold calculateDirSizeCallback
    dsimp only
    rw [if_neg hdeep]
    exact hadded data h hin
  | some passed =>
    unfold calculateDirSizeCallback
    dsimp only
    split
    · exact .inr ⟨_, rfl, ⟨h.total, h.acc, h.cache, h.overflow⟩, rfl, Option.some_ne_none _⟩
    · exact .inl (hadded { data with entryCounter := data.entryCounter + 1 } ⟨h.total, h.acc, h.cache, h.overflow⟩ hin)

/-- **A walk** has folded up the entries before the one it stopped at, if any. -/
theorem walkEntries_folds (deadline : Deadline) (visits : List (Visit FileStat)) (h : Folds data s)
    (hin : data.timedOut = false) (hlevel : ∀ v ∈ visits, v.level ≤ MAX_FTW_DEPTH)
    (hroom : (visits.foldl (Sums.step FileStat.size) s).total ≤ MAX_DIRECTORY_SIZE.toNat) :
    ∃ cut, cut <+: visits ∧
      Folds (walkEntries (calculateDirSizeCallback deadline) data (visits.map ftwEntry)).2
        (cut.foldl (Sums.step FileStat.size) s) ∧
      (deadline = none ∨ (walkEntries (calculateDirSizeCallback deadline) data (visits.map ftwEntry)).2.timedOut = false →
        (walkEntries (calculateDirSizeCallback deadline) data (visits.map ftwEntry)).1 = 0 ∧ cut = visits) := by
  induction visits generalizing data s with
  | nil => exact ⟨[], List.prefix_refl _, h, fun _ => ⟨rfl, rfl⟩⟩
  | cons v visits ih =>
    have hfirst : (s.step FileStat.size v).total ≤ MAX_DIRECTORY_SIZE.toNat :=
      (Sums.total_le_foldl FileStat.size (s.step FileStat.size v) visits).trans hroom
    rw [List.map_cons, walkEntries]
    rcases callback_cases deadline h hin (hlevel v List.mem_cons_self) hfirst with
      ⟨data', hcall, hfolds, hnot⟩ | ⟨data', hcall, hfolds, hout, hsome⟩
    · rw [hcall]
      obtain ⟨cut, hcut, hfolded, hdone⟩ := ih hfolds hnot (fun v' hv' => hlevel v' (List.mem_cons_of_mem _ hv')) hroom
      refine ⟨v :: cut, List.cons_prefix_cons.mpr ⟨rfl, hcut⟩, hfolded, fun hin' => ?_⟩
      obtain ⟨hzero, hall⟩ := hdone hin'
      exact ⟨hzero, by rw [hall]⟩
    · rw [hcall]
      refine ⟨[], List.nil_prefix, hfolds, fun hin' => ?_⟩
      rcases hin' with hnone | hnot
      · exact absurd hnone hsome
      · exact absurd (hout.symm.trans hnot) (by decide)

theorem foldl_folds (visits : List (Visit FileStat)) (h : Folds data s)
    (hroom : (visits.foldl (Sums.step FileStat.size) s).total ≤ MAX_DIRECTORY_SIZE.toNat) :
    Folds ((visits.map ftwEntry).foldl (fun data entry => (accumulateEntry data entry).2) data)
      (visits.foldl (Sums.step FileStat.size) s) := by
  induction visits generalizing data s with
  | nil => exact h
  | cons v visits ih =>
    have hfirst : (s.step FileStat.size v).total ≤ MAX_DIRECTORY_SIZE.toNat :=
      (Sums.total_le_foldl FileStat.size (s.step FileStat.size v) visits).trans hroom
    exact ih (folds_accumulateEntry h v hfirst).2 hroom

/-! ## Exact sizes -/

/-- Every size in the cache is that of what its path names. -/
def Disk.Exact (disk : Disk) (cache : StrMap UInt64) : Prop :=
  ∀ (path : Str) size, cache[path]? = some size → disk.weightAt FileStat.size path = some size.toNat

structure InBounds (tree : Node FileStat) : Prop where
  depth : tree.depth ≤ MAX_FTW_DEPTH
  size : tree.weight FileStat.size ≤ MAX_DIRECTORY_SIZE.toNat

/-- Every directory is in the cache with its size, and nothing is left in the levels. -/
structure FoldedUp (path : Str) (tree : Node FileStat) (data : DirSizeData) : Prop where
  dirs : ∀ e ∈ tree.dirs FileStat.size path, (data.cache[(e.1 : Str)]?).map UInt64.toNat = some e.2
  total : data.totalSize.toNat = tree.weight FileStat.size
  levels : ∀ n ∈ data.acc, n = 0

variable {disk : Disk} {path : Str} {tree : Node FileStat} {cache : StrMap UInt64}

theorem MAX_lt : MAX_DIRECTORY_SIZE.toNat < UInt64.size := UInt64.toNat_lt _

theorem dirs_weightAt (htree : disk.lookup path = some tree) :
    ∀ e ∈ tree.dirs FileStat.size path, disk.weightAt FileStat.size e.1 = some e.2 := by
  intro e he
  obtain ⟨entries, hlookup, hweight⟩ := FileSystem.dirs_lookup tree htree e he
  unfold FileSystem.weightAt
  rw [hlookup, hweight]
  rfl

theorem start_total (path : Str) (tree : Node FileStat) (cache : StrMap UInt64) :
    (tree.postOrder path 0).foldl (Sums.step FileStat.size) (Sums.start cache) =
      ⟨tree.weight FileStat.size, addParent 0 (tree.weight FileStat.size) fun _ => 0,
        (tree.dirs FileStat.size path).foldl record (Sums.start cache).sizes⟩ := by
  rw [tree.foldl_postOrder FileStat.size path 0 (Sums.start cache) fun _ _ => rfl]
  show Sums.mk (0 + _) _ _ = _
  rw [Nat.zero_add]
  rfl

theorem cut_room (hin : InBounds tree) (path : Str) (cache : StrMap UInt64) {cut : List (Visit FileStat)}
    (hcut : cut <+: tree.postOrder path 0) :
    (cut.foldl (Sums.step FileStat.size) (Sums.start cache)).total ≤ MAX_DIRECTORY_SIZE.toNat := by
  refine (Sums.total_le_of_prefix FileStat.size (Sums.start cache) hcut).trans ?_
  rw [start_total]
  exact hin.size

/-- Wherever the walk stops, the cache is exact. -/
theorem exact_cut (htree : disk.lookup path = some tree) (hin : InBounds tree) (hexact : disk.Exact cache)
    {cut : List (Visit FileStat)} (hcut : cut <+: tree.postOrder path 0)
    (h : Folds data (cut.foldl (Sums.step FileStat.size) (Sums.start cache))) : disk.Exact data.cache := by
  intro other size hsize
  obtain ⟨done, hdone, hsizes⟩ := tree.sizes_cut FileStat.size path 0 (Sums.start cache) (fun _ _ => rfl) cut hcut
  have hknown : ∀ e ∈ done, disk.weightAt FileStat.size e.1 = some e.2 := fun e he =>
    dirs_weightAt htree e (hdone.subset he)
  rw [h.cache, hsizes, Option.map_eq_some_iff] at hsize
  obtain ⟨n, hn, rfl⟩ := hsize
  by_cases hmem : other ∈ done.map Prod.fst
  · rw [foldl_record_of_mem hknown _ hmem] at hn
    obtain ⟨e, he, rfl⟩ := List.mem_map.mp hmem
    have hle := tree.dirs_le FileStat.size e (hdone.subset he)
    have hsame : e.2 = n := Option.some.inj ((hknown e he).symm.trans hn)
    have hmax := MAX_lt
    have hbound := hin.size
    rw [hn, UInt64.toNat_ofNat_of_lt' (by omega)]
  · rw [foldl_record_of_not_mem _ hmem] at hn
    obtain ⟨old, hold, rfl⟩ := Option.map_eq_some_iff.mp hn
    rw [UInt64.ofNat_toNat]
    exact hexact other old hold

theorem foldedUp_of_folds (htree : disk.lookup path = some tree) (hin : InBounds tree)
    (h : Folds data ((tree.postOrder path 0).foldl (Sums.step FileStat.size) (Sums.start cache))) :
    FoldedUp path tree data := by
  have hmax := MAX_lt
  have hbound := hin.size
  rw [start_total] at h
  obtain ⟨htotal, hacc, hcache, -⟩ := h
  dsimp only at htotal hacc hcache
  refine ⟨fun e he => ?_, ?_, fun n hn => ?_⟩
  · have hle := tree.dirs_le FileStat.size e he
    have hmem : e.1 ∈ (tree.dirs FileStat.size path).map Prod.fst := List.mem_map_of_mem he
    rw [hcache, foldl_record_of_mem (dirs_weightAt htree) _ hmem, dirs_weightAt htree e he, Option.map_some, Option.map_some,
      UInt64.toNat_ofNat_of_lt' (by omega)]
  · rw [htotal, UInt64.toNat_ofNat_of_lt' (by omega)]
  · obtain ⟨i, hi, rfl⟩ := List.mem_iff_getElem.mp hn
    have hat := hacc i
    rw [addParent_clear (fun _ _ => rfl) (Nat.zero_le i)] at hat
    unfold accAt at hat
    rw [List.getD_eq_getElem _ _ hi] at hat
    exact hat

/-- The walk, whole or failing after some entries. -/
theorem nftw_folds (hin : InBounds tree) (deadline : Deadline) (failsAfter : Option Nat) (path : Str) (cache : StrMap UInt64) :
    ∃ cut, cut <+: tree.postOrder path 0 ∧
      Folds (nftw (calculateDirSizeCallback deadline) failsAfter (.start cache) (ftwEntries path tree)).2
        (cut.foldl (Sums.step FileStat.size) (Sums.start cache)) ∧
      (deadline = none ∨
          (nftw (calculateDirSizeCallback deadline) failsAfter (.start cache) (ftwEntries path tree)).2.timedOut = false →
        match failsAfter with
        | none => cut = tree.postOrder path 0
        | some _ => (nftw (calculateDirSizeCallback deadline) failsAfter (.start cache) (ftwEntries path tree)).1 = -1) := by
  have hlevel : ∀ v ∈ tree.postOrder path 0, v.level ≤ MAX_FTW_DEPTH := by
    intro v hv
    have hle := tree.level_le hv
    have hdepth := hin.depth
    omega
  cases failsAfter with
  | none =>
    obtain ⟨cut, hcut, hfolds, hdone⟩ := walkEntries_folds deadline _ (folds_start cache) rfl hlevel
      (cut_room hin path cache (List.prefix_refl _))
    exact ⟨cut, hcut, hfolds, fun hnot => (hdone hnot).2⟩
  | some n =>
    have htake : (ftwEntries path tree).take n = ((tree.postOrder path 0).take n).map ftwEntry := List.map_take.symm
    obtain ⟨cut, hcut, hfolds, hdone⟩ := walkEntries_folds deadline ((tree.postOrder path 0).take n) (folds_start cache) rfl
      (fun v hv => hlevel v (List.mem_of_mem_take hv)) (cut_room hin path cache (List.take_prefix _ _))
    refine ⟨cut, hcut.trans (List.take_prefix _ _), ?_, ?_⟩
    · unfold nftw
      dsimp only
      rw [htake]
      split
      · next heq =>
        rw [heq] at hfolds
        exact hfolds
      · exact hfolds
    · intro hnot
      unfold nftw at hnot ⊢
      dsimp only at hnot ⊢
      rw [htake] at hnot ⊢
      split at hnot
      · rfl
      · next hne => exact absurd (hdone hnot).1 fun hzero => hne _ (Prod.ext hzero rfl)

/-- What a call answers is the size of the directory, or 0. -/
def Answers (disk : Disk) (dirPath : Str) (answer : UInt64) : Prop :=
  answer = 0 ∨ disk.weightAt FileStat.size dirPath = some answer.toNat

/-- **One call.** -/
theorem call_exact (hexact : disk.Exact cache) (call : Call)
    (hin : ∀ tree, disk.lookup call.dirPath = some tree → InBounds tree) :
    disk.Exact (calculateDirectorySizeWithCache disk call cache).2 ∧
    Answers disk call.dirPath (calculateDirectorySizeWithCache disk call cache).1 := by
  unfold calculateDirectorySizeWithCache
  split
  · next size hsize => exact ⟨hexact, .inr (hexact _ size hsize)⟩
  split
  · exact ⟨hexact, .inl rfl⟩
  next hdir =>
  split
  · exact ⟨hexact, .inl rfl⟩
  split
  · exact ⟨hexact, .inl rfl⟩
  -- a walk is started
  have hisDir : disk.isDir call.dirPath = true := by
    cases hc : disk.isDir call.dirPath with
    | true => rfl
    | false => exact absurd (by rw [hc]; rfl) hdir
  obtain ⟨tree, htree, -⟩ := disk.isDir_lookup hisDir
  have hbounds := hin tree htree
  rw [htree]
  dsimp only
  obtain ⟨cut, hcut, hfolds, hdone⟩ := nftw_folds hbounds call.deadline call.failsAfter call.dirPath cache
  have hkept := exact_cut htree hbounds hexact hcut hfolds
  split
  · exact ⟨hkept, .inl rfl⟩
  next hnot =>
  have hend := hdone (.inr (Bool.eq_false_iff.mpr hnot))
  split
  · exact ⟨hkept, .inl rfl⟩
  next hret =>
  cases hfails : call.failsAfter with
  | none =>
    rw [hfails] at hend hfolds hkept
    dsimp only at hend
    rw [hend] at hfolds
    have hweight : disk.weightAt FileStat.size call.dirPath = some (tree.weight FileStat.size) := by
      unfold FileSystem.weightAt
      rw [htree]
      rfl
    rw [← (foldedUp_of_folds htree hbounds hfolds).total] at hweight
    refine ⟨?_, .inr hweight⟩
    intro other size hsize
    rw [MapLoop.getElem?_insert_eq] at hsize
    split at hsize
    · next hother =>
      rw [hother, ← Option.some.inj hsize]
      exact hweight
    · exact hkept other size hsize
  | some n =>
    -- a walk that failed is answered with 0
    rw [hfails] at hend hret hfolds
    dsimp only at hend
    rw [hend, hfolds.overflow] at hret
    exact absurd ⟨by decide, rfl⟩ hret

/-- **Sizes of directories are exact.**  The walk of a tree within the bounds puts the size of every
directory of it into the cache, gives the size of the tree and leaves no level with a number; cut short at any
entry it leaves an exact cache exact; and then every call, whatever its deadline does, answers with the size of its
directory or with 0. -/
theorem dir_size_exact (disk : Disk) {path : Str} {tree : Node FileStat} (htree : disk.lookup path = some tree)
    (hin : InBounds tree) :
    (∀ deadline cache,
      deadline = none ∨
        (nftw (calculateDirSizeCallback deadline) none (.start cache) (ftwEntries path tree)).2.timedOut = false →
      FoldedUp path tree (nftw (calculateDirSizeCallback deadline) none (.start cache) (ftwEntries path tree)).2) ∧
    (∀ cache, disk.Exact cache →
      StepRun.Always (fun data entry => (accumulateEntry data entry).2) (fun data => disk.Exact data.cache)
        (.start cache) (ftwEntries path tree)) ∧
    (∀ cache, disk.Exact cache → ∀ calls : List Call,
      (∀ call ∈ calls, ∀ tree, disk.lookup call.dirPath = some tree → InBounds tree) →
      StepRun.Each (fun cache call => (calculateDirectorySizeWithCache disk call cache).2)
        (fun cache call => Answers disk call.dirPath (calculateDirectorySizeWithCache disk call cache).1) cache calls) := by
  refine ⟨?_, ?_, ?_⟩
  · intro deadline cache hnot
    obtain ⟨cut, -, hfolds, hdone⟩ := nftw_folds hin deadline none path cache
    have hwhole : cut = tree.postOrder path 0 := hdone hnot
    rw [hwhole] at hfolds
    exact foldedUp_of_folds htree hin hfolds
  · intro cache hexact entries hentries
    -- the entries reported before the end are those of the first visits
    have htake : entries = ((tree.postOrder path 0).take entries.length).map ftwEntry := by
      rw [List.map_take]
      exact List.prefix_iff_eq_take.mp hentries
    have hcut := List.take_prefix entries.length (tree.postOrder path 0)
    have hfolds := foldl_folds _ (folds_start cache) (cut_room hin path cache hcut)
    rw [← htake] at hfolds
    exact exact_cut htree hin hexact hcut hfolds
  · intro cache hexact calls hcalls
    have hstep : ∀ cache (call : Call), disk.Exact cache →
        (∀ tree, disk.lookup call.dirPath = some tree → InBounds tree) →
        disk.Exact (calculateDirectorySizeWithCache disk call cache).2 ∧
        Answers disk call.dirPath (calculateDirectorySizeWithCache disk call cache).1 :=
      fun cache call hkept hbounds => call_exact hkept call hbounds
    exact (StepRun.each_of_forall hcalls cache).guarantee hstep hexact

/-- A directory with a file, and below it a directory with a file and a link. -/
def sampleTree : Node FileStat :=
  .dir (.cons ['a'] (.leaf (.regular 3)) (.cons ['d']
    (.dir (.cons ['b'] (.leaf (.regular 4)) (.cons ['l'] (.leaf (.other .link 9)) .nil))) .nil))

theorem sampleTree_wellNamed : sampleTree.WellNamed := by
  simp [sampleTree, Node.WellNamed, Entries.WellNamed, Entries.toList]

/-- The walk of the tree, whole and cut short. -/
theorem dir_size_exact_sample :
    FoldedUp ['r'] sampleTree (nftw (calculateDirSizeCallback none) none (.start ∅) (ftwEntries ['r'] sampleTree)).2 ∧
    StepRun.Always (fun data entry => (accumulateEntry data entry).2)
      (fun data => (Disk.ofTree ['r'] sampleTree sampleTree_wellNamed).Exact data.cache)
      (.start ∅) (ftwEntries ['r'] sampleTree) := by
  have hempty : (Disk.ofTree ['r'] sampleTree sampleTree_wellNamed).Exact ∅ := by
    intro path size hsize
    rw [ExtTreeMap.getElem?_empty] at hsize
    cases hsize
  have h := @dir_size_exact (Disk.ofTree ['r'] sampleTree sampleTree_wellNamed) ['r'] sampleTree rfl
    ⟨by decide, by decide⟩
  exact ⟨h.1 none ∅ (.inl rfl), h.2.1 ∅ hempty⟩

end BundleFramework.DirSize
