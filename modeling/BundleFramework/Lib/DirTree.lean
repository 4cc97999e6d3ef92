import BundleFramework.Lib.StepRun

/-!
# Directory trees, and folding them up

A directory has named entries, and an entry is a leaf or a directory.  A walk in post-order
visits what is below a directory before the directory, and gives each visit the number of
directories above it.  With one number for each level the weights of all directories can be
read off the walk (`foldl_postOrder`): a visit adds its weight one level up, and a directory
takes what stands at its own level.
-/

namespace DirTree

mutual

inductive Node (α : Type) where
  | leaf (a : α)
  | dir (entries : Entries α)

inductive Entries (α : Type) where
  | nil
  | cons (name : List Char) (node : Node α) (rest : Entries α)

end

variable {α : Type}

/-! ## Paths -/

def base (path : List Char) : List Char := if path.getLast? = some '/' then path.dropLast else path

def child (path name : List Char) : List Char := base path ++ '/' :: name

theorem eq_base_or (path : List Char) : path = base path ∨ path = base path ++ ['/'] := by
  unfold base
  split
  · next h =>
    obtain ⟨path', rfl⟩ := List.getLast?_eq_some_iff.mp h
    right
    rw [List.dropLast_concat]
  · exact .inl rfl

theorem below_ne {root b : List Char} (h : b ≠ []) : base root ++ '/' :: b ≠ root := by
  intro e
  rcases eq_base_or root with hroot | hroot
  · have hlen := congrArg List.length (e.trans hroot)
    simp at hlen
  · have hb := List.append_cancel_left (e.trans hroot)
    exact h (List.cons.inj hb).2

/-- A path that ends in a slash has an empty name in it. -/
theorem nil_mem_splitOn {a b p : List Char} (h : a ++ '/' :: b = p ++ ['/']) : [] ∈ b.splitOn '/' := by
  induction b using List.reverseRecOn with
  | nil =>
    rw [List.splitOn_eq_singleton List.not_mem_nil]
    exact List.mem_singleton.mpr rfl
  | append_singleton b c _ =>
    rw [← List.cons_append, ← List.append_assoc] at h
    have hc : [c] = ['/'] := (List.append_inj' h rfl).2
    rw [(List.cons.inj hc).1, List.splitOn_append_cons_self]
    exact List.mem_append_right _ (by rw [List.splitOn_eq_singleton List.not_mem_nil]; exact List.mem_singleton.mpr rfl)

/-! ## Weights, and the walk -/

section
variable (w : α → Nat)

mutual

def Node.weight : Node α → Nat
  | .leaf a => w a
  | .dir entries => entries.weight

def Entries.weight : Entries α → Nat
  | .nil => 0
  | .cons _ node rest => node.weight + rest.weight

end

mutual

/-- Every directory with its weight, in the order of the walk. -/
def Node.dirs (path : List Char) : Node α → List (List Char × Nat)
  | .leaf _ => []
  | .dir entries => entries.dirs path ++ [(path, entries.weight w)]

def Entries.dirs (path : List Char) : Entries α → List (List Char × Nat)
  | .nil => []
  | .cons name node rest => node.dirs (child path name) ++ rest.dirs path

end

end

mutual

def Node.depth : Node α → Nat
  | .leaf _ => 0
  | .dir entries => entries.depth

def Entries.depth : Entries α → Nat
  | .nil => 0
  | .cons _ node rest => max (node.depth + 1) rest.depth

end

/-- `leaf` is `none` for a directory. -/
structure Visit (α : Type) where
  path : List Char
  level : Nat
  leaf : Option α

mutual

def Node.postOrder (path : List Char) (level : Nat) : Node α → List (Visit α)
  | .leaf a => [⟨path, level, some a⟩]
  | .dir entries => entries.postOrder path (level + 1) ++ [⟨path, level, none⟩]

def Entries.postOrder (path : List Char) (level : Nat) : Entries α → List (Visit α)
  | .nil => []
  | .cons name node rest => node.postOrder (child path name) level ++ rest.postOrder path level

end

mutual

theorem Node.level_le : ∀ (node : Node α) {path : List Char} {level : Nat} {v : Visit α},
    v ∈ node.postOrder path level → v.level ≤ level + node.depth
  | .leaf a, path, level, v, hv => by
    rw [Node.postOrder, List.mem_singleton] at hv
    rw [hv]
    exact Nat.le_add_right _ _
  | .dir entries, path, level, v, hv => by
    rw [Node.postOrder] at hv
    rw [Node.depth]
    rcases List.mem_append.mp hv with hv | hv
    · exact entries.level_le hv
    · rw [List.mem_singleton.mp hv]
      exact Nat.le_add_right _ _

theorem Entries.level_le : ∀ (entries : Entries α) {path : List Char} {level : Nat} {v : Visit α},
    v ∈ entries.postOrder path (level + 1) → v.level ≤ level + entries.depth
  | .nil, _, _, _, hv => nomatch hv
  | .cons name node rest, path, level, v, hv => by
    rw [Entries.postOrder] at hv
    rw [Entries.depth]
    rcases List.mem_append.mp hv with hv | hv
    · have hnode := node.level_le hv
      omega
    · have hrest := rest.level_le hv
      omega

end

/-! ## Folding up -/

/-- A total, one number for each level, and the weights recorded for directories. -/
structure Sums where
  total : Nat
  acc : Nat → Nat
  sizes : List Char → Option Nat

/-- One level up. -/
def addParent (level n : Nat) (acc : Nat → Nat) (i : Nat) : Nat := acc i + if i + 1 = level then n else 0

def record (sizes : List Char → Option Nat) (e : List Char × Nat) : List Char → Option Nat :=
  Function.update sizes e.1 (some e.2)

variable (w : α → Nat)

def Sums.step (s : Sums) (v : Visit α) : Sums :=
  match v.leaf with
  | some a => { s with total := s.total + w a, acc := addParent v.level (w a) s.acc }
  | none =>
    { s with
      acc := Function.update (addParent v.level (s.acc v.level) s.acc) v.level 0
      sizes := record s.sizes (v.path, s.acc v.level) }

theorem Sums.total_le_step (s : Sums) (v : Visit α) : s.total ≤ (s.step w v).total := by
  unfold Sums.step
  split
  · exact Nat.le_add_right _ _
  · exact Nat.le_refl _

theorem Sums.total_le_foldl (s : Sums) (visits : List (Visit α)) : s.total ≤ (visits.foldl (Sums.step w) s).total := by
  induction visits generalizing s with
  | nil => exact Nat.le_refl _
  | cons v visits ih => exact (s.total_le_step w v).trans (ih _)

theorem Sums.total_le_of_prefix (s : Sums) {cut visits : List (Visit α)} (h : cut <+: visits) :
    (cut.foldl (Sums.step w) s).total ≤ (visits.foldl (Sums.step w) s).total := by
  obtain ⟨rest, rfl⟩ := h
  rw [List.foldl_append]
  exact Sums.total_le_foldl w _ rest

theorem addParent_add (level n m : Nat) (acc : Nat → Nat) :
    addParent level m (addParent level n acc) = addParent level (n + m) acc := by
  funext i
  unfold addParent
  split
  · omega
  · omega

theorem addParent_zero (level : Nat) (acc : Nat → Nat) : addParent level 0 acc = acc := by
  funext i
  unfold addParent
  rw [ite_self, Nat.add_zero]

theorem addParent_clear {level n : Nat} {acc : Nat → Nat} (h : ∀ i, level ≤ i → acc i = 0) {i : Nat} (hi : level ≤ i) :
    addParent level n acc i = 0 := by
  unfold addParent
  rw [h i hi, if_neg (by omega)]

/-- What is below a directory stands at its level, and is moved one level up. -/
theorem addParent_dir {level n : Nat} {acc : Nat → Nat} (h : ∀ i, level ≤ i → acc i = 0) :
    Function.update (addParent level (addParent (level + 1) n acc level) (addParent (level + 1) n acc)) level 0 =
      addParent level n acc := by
  have hat : addParent (level + 1) n acc level = n := by
    unfold addParent
    rw [h level (Nat.le_refl _), if_pos rfl, Nat.zero_add]
  rw [hat]
  funext i
  by_cases hi : i = level
  · rw [hi, Function.update_self]
    exact (addParent_clear h (Nat.le_refl _)).symm
  · rw [Function.update_of_ne hi]
    unfold addParent
    rw [if_neg (show ¬ i + 1 = level + 1 by omega), Nat.add_zero]

mutual

/-- **Fold-up**: the weight is added to the total and one level up, and every directory is
recorded with its weight. -/
theorem Node.foldl_postOrder : ∀ (node : Node α) (path : List Char) (level : Nat) (s : Sums),
    (∀ i, level ≤ i → s.acc i = 0) →
    (node.postOrder path level).foldl (Sums.step w) s =
      ⟨s.total + node.weight w, addParent level (node.weight w) s.acc, (node.dirs w path).foldl record s.sizes⟩
  | .leaf a, path, level, s, _ => rfl
  | .dir entries, path, level, s, h => by
    have hbelow : ∀ i, level + 1 ≤ i → s.acc i = 0 := fun i hi => h i (Nat.le_of_succ_le hi)
    rw [Node.postOrder, Node.weight, Node.dirs, List.foldl_append, List.foldl_append,
      entries.foldl_postOrder path (level + 1) s hbelow]
    show Sums.mk _ _ _ = _
    dsimp only
    rw [addParent_dir h]
    unfold addParent
    rw [h level (Nat.le_refl _), if_pos rfl, Nat.zero_add]
    rfl

theorem Entries.foldl_postOrder : ∀ (entries : Entries α) (path : List Char) (level : Nat) (s : Sums),
    (∀ i, level ≤ i → s.acc i = 0) →
    (entries.postOrder path level).foldl (Sums.step w) s =
      ⟨s.total + entries.weight w, addParent level (entries.weight w) s.acc, (entries.dirs w path).foldl record s.sizes⟩
  | .nil, path, level, s, _ => by
    rw [Entries.weight, addParent_zero]
    rfl
  | .cons name node rest, path, level, s, h => by
    -- the siblings start with the levels below cleared again
    have hclear : ∀ i, level ≤ i → addParent level (node.weight w) s.acc i = 0 := fun i hi => addParent_clear h hi
    rw [Entries.postOrder, Entries.weight, Entries.dirs, List.foldl_append, List.foldl_append,
      node.foldl_postOrder (child path name) level s h, rest.foldl_postOrder path level _ hclear, addParent_add,
      Nat.add_assoc]

end

mutual

/-- Cut short, the walk has recorded the first of the directories. -/
theorem Node.sizes_cut : ∀ (node : Node α) (path : List Char) (level : Nat) (s : Sums),
    (∀ i, level ≤ i → s.acc i = 0) → ∀ cut, cut <+: node.postOrder path level →
    ∃ done, done <+: node.dirs w path ∧ (cut.foldl (Sums.step w) s).sizes = done.foldl record s.sizes
  | .leaf a, path, level, s, _, cut, hcut => by
    refine ⟨[], List.nil_prefix, ?_⟩
    rw [Node.postOrder, List.prefix_cons_iff] at hcut
    rcases hcut with rfl | ⟨cut', rfl, hcut'⟩
    · rfl
    · rw [List.prefix_nil.mp hcut']
      rfl
  | .dir entries, path, level, s, h, cut, hcut => by
    have hbelow : ∀ i, level + 1 ≤ i → s.acc i = 0 := fun i hi => h i (Nat.le_of_succ_le hi)
    by_cases hall : cut = (Node.dir entries).postOrder path level
    · refine ⟨_, List.prefix_refl _, ?_⟩
      rw [hall, Node.foldl_postOrder w (.dir entries) path level s h]
    · -- the visit of the directory itself is missing
      rw [Node.postOrder] at hcut hall
      rcases List.prefix_concat_iff.mp hcut with hwhole | hcut
      · exact absurd hwhole hall
      · obtain ⟨done, hdone, hsizes⟩ := entries.sizes_cut path (level + 1) s hbelow cut hcut
        exact ⟨done, hdone.trans (List.prefix_append _ _), hsizes⟩

theorem Entries.sizes_cut : ∀ (entries : Entries α) (path : List Char) (level : Nat) (s : Sums),
    (∀ i, level ≤ i → s.acc i = 0) → ∀ cut, cut <+: entries.postOrder path level →
    ∃ done, done <+: entries.dirs w path ∧ (cut.foldl (Sums.step w) s).sizes = done.foldl record s.sizes
  | .nil, path, level, s, _, cut, hcut => by
    rw [Entries.postOrder, List.prefix_nil] at hcut
    rw [hcut]
    exact ⟨[], List.nil_prefix, rfl⟩
  | .cons name node rest, path, level, s, h, cut, hcut => by
    rw [Entries.postOrder] at hcut
    rcases StepRun.cut_of_append hcut with hcut | ⟨cut', hcut', rfl⟩
    · obtain ⟨done, hdone, hsizes⟩ := node.sizes_cut (child path name) level s h cut hcut
      exact ⟨done, hdone.trans (List.prefix_append _ _), hsizes⟩
    · have hclear : ∀ i, level ≤ i → addParent level (node.weight w) s.acc i = 0 := fun i hi => addParent_clear h hi
      rw [List.foldl_append, node.foldl_postOrder w (child path name) level s h]
      obtain ⟨done, hdone, hsizes⟩ := rest.sizes_cut path level
        ⟨s.total + node.weight w, addParent level (node.weight w) s.acc, (node.dirs w (child path name)).foldl record s.sizes⟩
        hclear cut' hcut'
      refine ⟨node.dirs w (child path name) ++ done, ?_, ?_⟩
      · exact (List.prefix_append_right_inj _).mpr hdone
      · rw [hsizes, List.foldl_append]

end

mutual

theorem Node.dirs_le : ∀ (node : Node α) {path : List Char}, ∀ e ∈ node.dirs w path, e.2 ≤ node.weight w
  | .leaf a, _, _, he => nomatch he
  | .dir entries, path, e, he => by
    rw [Node.dirs] at he
    rw [Node.weight]
    rcases List.mem_append.mp he with he | he
    · exact entries.dirs_le e he
    · rw [List.mem_singleton.mp he]

theorem Entries.dirs_le : ∀ (entries : Entries α) {path : List Char}, ∀ e ∈ entries.dirs w path, e.2 ≤ entries.weight w
  | .nil, _, _, he => nomatch he
  | .cons name node rest, path, e, he => by
    rw [Entries.dirs] at he
    rw [Entries.weight]
    rcases List.mem_append.mp he with he | he
    · have hnode := node.dirs_le e he
      omega
    · have hrest := rest.dirs_le e he
      omega

end

/-! ## File systems -/

def Entries.toList : Entries α → List (List Char × Node α)
  | .nil => []
  | .cons name node rest => (name, node) :: rest.toList

/-- What the paths name; below a directory, its entries. -/
structure FileSystem (α : Type) where
  lookup : List Char → Option (Node α)
  below : ∀ {path entries name node}, lookup path = some (.dir entries) → (name, node) ∈ entries.toList →
    lookup (child path name) = some node

variable {w} {fs : FileSystem α}

mutual

/-- A walk records directories with their weights only. -/
theorem FileSystem.dirs_lookup : ∀ (node : Node α) {path : List Char}, fs.lookup path = some node →
    ∀ e ∈ node.dirs w path, ∃ entries, fs.lookup e.1 = some (.dir entries) ∧ e.2 = entries.weight w
  | .leaf a, _, _, _, he => nomatch he
  | .dir entries, path, h, e, he => by
    rw [Node.dirs] at he
    rcases List.mem_append.mp he with he | he
    · exact FileSystem.dirs_lookup_entries entries (fun _ hmem => fs.below h hmem) e he
    · rw [List.mem_singleton.mp he]
      exact ⟨entries, h, rfl⟩

theorem FileSystem.dirs_lookup_entries : ∀ (entries : Entries α) {path : List Char},
    (∀ e ∈ entries.toList, fs.lookup (child path e.1) = some e.2) →
    ∀ e ∈ entries.dirs w path, ∃ entries', fs.lookup e.1 = some (.dir entries') ∧ e.2 = entries'.weight w
  | .nil, _, _, _, he => nomatch he
  | .cons name node rest, path, h, e, he => by
    rw [Entries.dirs] at he
    rcases List.mem_append.mp he with he | he
    · exact FileSystem.dirs_lookup node (h (name, node) List.mem_cons_self) e he
    · exact FileSystem.dirs_lookup_entries rest (fun e' he' => h e' (List.mem_cons_of_mem _ he')) e he

end

/-- The weight that the file system has at a path. -/
def FileSystem.weightAt (w : α → Nat) (fs : FileSystem α) (path : List Char) : Option Nat :=
  (fs.lookup path).map (Node.weight w)

theorem foldl_record_of_not_mem {l : List (List Char × Nat)} (sizes : List Char → Option Nat) {path : List Char}
    (h : path ∉ l.map Prod.fst) : l.foldl record sizes path = sizes path := by
  induction l generalizing sizes with
  | nil => rfl
  | cons e l ih =>
    rw [List.map_cons, List.mem_cons, not_or] at h
    rw [List.foldl_cons, ih (record sizes e) h.2]
    exact Function.update_of_ne h.1 _ _

/-- Where the weights are those of the paths, the order does not matter. -/
theorem foldl_record_of_mem {f : List Char → Option Nat} {l : List (List Char × Nat)} (hf : ∀ e ∈ l, f e.1 = some e.2)
    (sizes : List Char → Option Nat) {path : List Char} (h : path ∈ l.map Prod.fst) :
    l.foldl record sizes path = f path := by
  induction l generalizing sizes with
  | nil => cases h
  | cons e l ih =>
    have hrest : ∀ e' ∈ l, f e'.1 = some e'.2 := fun e' he' => hf e' (List.mem_cons_of_mem _ he')
    rw [List.foldl_cons]
    by_cases hl : path ∈ l.map Prod.fst
    · exact ih hrest _ hl
    · have he : path = e.1 := by
        rw [List.map_cons, List.mem_cons] at h
        exact h.resolve_right hl
      rw [foldl_record_of_not_mem _ hl, he, hf e List.mem_cons_self]
      exact Function.update_self _ _ _

/-! ## The file system of one tree -/

def Entries.find? (name : List Char) : Entries α → Option (Node α)
  | .nil => none
  | .cons name' node rest => if name' = name then some node else rest.find? name

def Node.entry? (name : List Char) : Node α → Option (Node α)
  | .leaf _ => none
  | .dir entries => entries.find? name

def Node.find (node : Node α) (names : List (List Char)) : Option (Node α) :=
  names.foldl (fun found name => found.bind (Node.entry? name)) (some node)

mutual

/-- The entries of a directory have different names without slashes. -/
def Node.WellNamed : Node α → Prop
  | .leaf _ => True
  | .dir entries => entries.WellNamed

def Entries.WellNamed : Entries α → Prop
  | .nil => True
  | .cons name node rest =>
    (name ≠ [] ∧ '/' ∉ name) ∧ (∀ e ∈ rest.toList, e.1 ≠ name) ∧ node.WellNamed ∧ rest.WellNamed

end

/-- What is known of an entry of well-named entries. -/
theorem Entries.WellNamed.of_mem {entries : Entries α} (h : entries.WellNamed) {name : List Char} {node : Node α}
    (hmem : (name, node) ∈ entries.toList) : name ≠ [] ∧ '/' ∉ name ∧ entries.find? name = some node := by
  match entries, h, hmem with
  | .cons name' node' rest, h, hmem =>
    obtain ⟨hname, hother, -, hrest⟩ := h
    rcases List.mem_cons.mp hmem with heq | hmem
    · cases heq
      exact ⟨hname.1, hname.2, if_pos rfl⟩
    · obtain ⟨hne, hslash, hfind⟩ := Entries.WellNamed.of_mem hrest hmem
      refine ⟨hne, hslash, ?_⟩
      rw [Entries.find?, if_neg fun e => hother _ hmem e.symm]
      exact hfind

theorem Entries.WellNamed.find? {entries : Entries α} (h : entries.WellNamed) {name : List Char} {node : Node α}
    (hfind : entries.find? name = some node) : name ≠ [] ∧ node.WellNamed := by
  match entries, h, hfind with
  | .cons name' node' rest, h, hfind =>
    obtain ⟨hname, -, hnode, hrest⟩ := h
    rw [Entries.find?] at hfind
    split at hfind
    · next heq =>
      cases hfind
      exact ⟨heq ▸ hname.1, hnode⟩
    · exact Entries.WellNamed.find? hrest hfind

theorem Node.find_concat (node : Node α) (names : List (List Char)) (name : List Char) :
    node.find (names ++ [name]) = (node.find names).bind (Node.entry? name) := by
  unfold Node.find
  rw [List.foldl_append]
  rfl

/-- What is found is well named, and found by names that are not empty. -/
theorem Node.WellNamed.find {node : Node α} (h : node.WellNamed) {names : List (List Char)} {found : Node α}
    (hfind : node.find names = some found) : found.WellNamed ∧ [] ∉ names := by
  induction names using List.reverseRecOn generalizing found with
  | nil =>
    cases hfind
    exact ⟨h, List.not_mem_nil⟩
  | append_singleton names name ih =>
    rw [Node.find_concat, Option.bind_eq_some_iff] at hfind
    obtain ⟨parent, hparent, hentry⟩ := hfind
    obtain ⟨hwell, hnames⟩ := ih hparent
    cases parent with
    | leaf a => cases hentry
    | dir entries =>
      obtain ⟨hne, hfound⟩ := Entries.WellNamed.find? hwell hentry
      refine ⟨hfound, fun hmem => ?_⟩
      rcases List.mem_append.mp hmem with hmem | hmem
      · exact hnames hmem
      · exact hne (List.mem_singleton.mp hmem).symm

/-- Everything that is in a tree stands below its root. -/
def lookupFrom (root : List Char) (tree : Node α) (path : List Char) : Option (Node α) :=
  if path = root then some tree
  else if base root ++ ['/'] <+: path then tree.find ((path.drop ((base root).length + 1)).splitOn '/')
  else none

theorem lookupFrom_below {root : List Char} {tree : Node α} {b : List Char} (hne : base root ++ '/' :: b ≠ root) :
    lookupFrom root tree (base root ++ '/' :: b) = tree.find (b.splitOn '/') := by
  have hprefix : base root ++ ['/'] <+: base root ++ '/' :: b := ⟨b, List.append_assoc _ _ _⟩
  have hdrop : (base root ++ '/' :: b).drop ((base root).length + 1) = b := by
    rw [List.drop_append]
    simp
  unfold lookupFrom
  rw [if_neg hne, if_pos hprefix, hdrop]

/-- **Every tree** with good names is a file system. -/
def FileSystem.ofTree (root : List Char) (tree : Node α) (h : tree.WellNamed) : FileSystem α where
  lookup := lookupFrom root tree
  below {path entries name node} hpath hmem := by
    by_cases hroot : path = root
    · subst hroot
      rw [lookupFrom, if_pos rfl] at hpath
      cases hpath
      obtain ⟨hne, hslash, hfind⟩ := Entries.WellNamed.of_mem h hmem
      rw [child, lookupFrom_below (below_ne hne), List.splitOn_eq_singleton hslash]
      exact hfind
    · have hpath' := hpath
      rw [lookupFrom, if_neg hroot] at hpath'
      split at hpath'
      · next hprefix =>
        obtain ⟨b, rfl⟩ := hprefix
        rw [List.append_assoc] at hpath hroot ⊢
        rw [List.singleton_append] at hpath hroot ⊢
        rw [lookupFrom_below hroot] at hpath
        obtain ⟨hwell, hnames⟩ := h.find hpath
        obtain ⟨hne, hslash, hfind⟩ := Entries.WellNamed.of_mem hwell hmem
        -- the last name is not empty, so the path does not end in a slash
        have hbase : base (base root ++ '/' :: b) = base root ++ '/' :: b := by
          rcases eq_base_or (base root ++ '/' :: b) with heq | heq
          · exact heq.symm
          · exact absurd (nil_mem_splitOn heq) hnames
        have hchild : child (base root ++ '/' :: b) name = base root ++ '/' :: (b ++ '/' :: name) := by
          rw [child, hbase, List.append_assoc, List.cons_append]
        rw [hchild, lookupFrom_below ?_, List.splitOn_append_cons_self, List.splitOn_eq_singleton hslash,
          Node.find_concat, hpath]
        · exact hfind
        · exact below_ne (by simp)
      · cases hpath'

end DirTree
