import BundleFramework.Lib.DirTree

/-!
# The leaves of a directory tree

A tree is given by its leaves and its empty directories, with the names that lead there: its files
are the leaves with content (`find_leaf_iff`), and its directories the ones that the leaves need
(`find_dir_iff`).
-/

namespace DirTree

variable {α : Type}

mutual

/-- The leaves, and the directories without entries. -/
def Node.leaves (names : List (List Char)) : Node α → List (List (List Char) × Option α)
  | .leaf a => [(names, some a)]
  | .dir entries => if (entries.leaves names).isEmpty then [(names, none)] else entries.leaves names

def Entries.leaves (names : List (List Char)) : Entries α → List (List (List Char) × Option α)
  | .nil => []
  | .cons name node rest => node.leaves (names ++ [name]) ++ rest.leaves names

end

def ofLeaf : Option α → Node α
  | some a => .leaf a
  | none => .dir .nil

theorem Entries.mem_leaves {entries : Entries α} {names : List (List Char)} {l : List (List Char) × Option α} :
    l ∈ entries.leaves names ↔ ∃ e ∈ entries.toList, l ∈ e.2.leaves (names ++ [e.1]) := by
  match entries with
  | .nil => exact ⟨nofun, fun ⟨_, he, _⟩ => nomatch he⟩
  | .cons name node rest =>
    rw [Entries.leaves, Entries.toList, List.mem_append, Entries.mem_leaves]
    simp only [List.mem_cons, exists_eq_or_imp]

theorem Node.leaves_ne_nil (node : Node α) (names : List (List Char)) : node.leaves names ≠ [] := by
  cases node with
  | leaf a => exact List.cons_ne_nil _ _
  | dir entries =>
    rw [Node.leaves]
    split
    · exact List.cons_ne_nil _ _
    · next h => exact fun hnil => h (by rw [hnil]; rfl)

theorem Entries.leaves_eq_nil {entries : Entries α} {names : List (List Char)} (h : entries.leaves names = []) :
    entries = .nil := by
  cases entries with
  | nil => rfl
  | cons name node rest =>
    rw [Entries.leaves, List.append_eq_nil_iff] at h
    exact absurd h.1 (node.leaves_ne_nil _)

theorem Entries.mem_of_find? {entries : Entries α} {name : List Char} {node : Node α}
    (h : entries.find? name = some node) : (name, node) ∈ entries.toList := by
  match entries with
  | .nil => cases h
  | .cons name' node' rest =>
    rw [Entries.find?] at h
    split at h
    · next heq =>
      cases h
      rw [heq]
      exact List.mem_cons_self
    · exact List.mem_cons_of_mem _ (Entries.mem_of_find? h)

theorem foldl_bind_none (names : List (List Char)) :
    names.foldl (fun (found : Option (Node α)) name => found.bind (Node.entry? name)) none = none := by
  induction names with
  | nil => rfl
  | cons name names ih => exact ih

theorem Node.find_append (node : Node α) (names names' : List (List Char)) :
    node.find (names ++ names') = (node.find names).bind fun found => found.find names' := by
  unfold Node.find
  rw [List.foldl_append]
  cases names.foldl (fun found name => found.bind (Node.entry? name)) (some node) with
  | none => exact foldl_bind_none names'
  | some found => rfl

theorem Node.find_cons (node : Node α) (name : List Char) (names : List (List Char)) :
    node.find (name :: names) = (node.entry? name).bind fun found => found.find names :=
  node.find_append [name] names

/-- What has something below it is a directory. -/
theorem Node.find_above {node found : Node α} {names names' : List (List Char)} (hne : names' ≠ [])
    (h : node.find (names ++ names') = some found) : ∃ entries, node.find names = some (.dir entries) := by
  rw [Node.find_append, Option.bind_eq_some_iff] at h
  obtain ⟨above, habove, hfound⟩ := h
  cases above with
  | dir entries => exact ⟨entries, habove⟩
  | leaf a =>
    cases names' with
    | nil => exact absurd rfl hne
    | cons name names' => cases (Node.find_cons (.leaf a) name names').symm.trans hfound

mutual

/-- **Every leaf is found by its names.** -/
theorem Node.find_of_mem_leaves : ∀ (node : Node α), node.WellNamed → ∀ {names : List (List Char)}
    {l : List (List Char) × Option α}, l ∈ node.leaves names →
    ∃ below, l.1 = names ++ below ∧ node.find below = some (ofLeaf l.2)
  | .leaf a, _, names, l, h => by
    rw [List.mem_singleton.mp h]
    exact ⟨[], (List.append_nil _).symm, rfl⟩
  | .dir entries, hwell, names, l, h => by
    rw [Node.leaves] at h
    split at h
    · next hempty =>
      rw [Entries.leaves_eq_nil (List.isEmpty_iff.mp hempty), List.mem_singleton.mp h]
      exact ⟨[], (List.append_nil _).symm, rfl⟩
    · obtain ⟨name, node, below, hfind, hnames, hbelow⟩ := Entries.find_of_mem_leaves entries hwell h
      refine ⟨name :: below, hnames, ?_⟩
      rw [Node.find_cons, Node.entry?, hfind]
      exact hbelow

theorem Entries.find_of_mem_leaves : ∀ (entries : Entries α), entries.WellNamed → ∀ {names : List (List Char)}
    {l : List (List Char) × Option α}, l ∈ entries.leaves names →
    ∃ name node below, entries.find? name = some node ∧ l.1 = names ++ name :: below ∧
      node.find below = some (ofLeaf l.2)
  | .nil, _, names, l, h => nomatch h
  | .cons name node rest, ⟨_, hother, hnode, hrest⟩, names, l, h => by
    rw [Entries.leaves] at h
    rcases List.mem_append.mp h with h | h
    · obtain ⟨below, hnames, hbelow⟩ := Node.find_of_mem_leaves node hnode h
      exact ⟨name, node, below, if_pos rfl, by rw [hnames, List.append_assoc, List.singleton_append], hbelow⟩
    · obtain ⟨name', node', below, hfind, hnames, hbelow⟩ := Entries.find_of_mem_leaves rest hrest h
      have hne : name ≠ name' := fun e => hother _ (Entries.mem_of_find? hfind) e.symm
      exact ⟨name', node', below, (if_neg hne).trans hfind, hnames, hbelow⟩

end

/-- What is found has its leaves among all of them. -/
theorem Node.leaves_subset {node found : Node α} {below : List (List Char)} (h : node.find below = some found)
    (names : List (List Char)) : found.leaves (names ++ below) ⊆ node.leaves names := by
  induction below generalizing node names with
  | nil =>
    cases h
    rw [List.append_nil]
    exact List.Subset.refl _
  | cons name below ih =>
    rw [Node.find_cons, Option.bind_eq_some_iff] at h
    obtain ⟨child, hentry, hfound⟩ := h
    cases node with
    | leaf a => cases hentry
    | dir entries =>
      intro l hl
      rw [← List.singleton_append, ← List.append_assoc] at hl
      have hmem := Entries.mem_leaves.mpr ⟨(name, child), Entries.mem_of_find? hentry, ih hfound (names ++ [name]) hl⟩
      rw [Node.leaves, if_neg fun hnil => List.ne_nil_of_mem hmem (List.isEmpty_iff.mp hnil)]
      exact hmem

/-- The names of the directories that a leaf needs: its own if it is an empty directory. -/
def leafDir (l : List (List Char) × Option α) : List (List Char) := if l.2.isNone then l.1 else l.1.dropLast

theorem prefix_leafDir_iff {names : List (List Char)} {l : List (List Char) × Option α} (hne : l.1 ≠ []) :
    names <+: leafDir l ↔ names <+: l.1 ∧ (names = l.1 → l.2 = none) := by
  unfold leafDir
  cases hleaf : l.2 with
  | none => exact ⟨fun h => ⟨h, fun _ => rfl⟩, And.left⟩
  | some a =>
    obtain ⟨init, last, hl⟩ := (List.eq_nil_or_concat' l.1).resolve_left hne
    rw [hl, List.prefix_concat_iff]
    simp only [Option.isNone_some, Bool.false_eq_true, if_false, List.dropLast_concat, reduceCtorEq, imp_false]
    constructor
    · intro h
      refine ⟨.inr h, fun heq => ?_⟩
      rw [heq] at h
      have := h.length_le
      simp at this
    · exact fun ⟨hor, hnot⟩ => hor.resolve_left hnot

/-- The leaves of the entries of a directory are found by some names. -/
theorem Entries.find_leaf {entries : Entries α} (h : entries.WellNamed) {l : List (List Char) × Option α}
    (hl : l ∈ entries.leaves []) : l.1 ≠ [] ∧ (Node.dir entries).find l.1 = some (ofLeaf l.2) := by
  obtain ⟨name, node, names, hfind, hnames, hbelow⟩ := Entries.find_of_mem_leaves entries h hl
  rw [List.nil_append] at hnames
  rw [hnames]
  refine ⟨List.cons_ne_nil _ _, ?_⟩
  rw [Node.find_cons, Node.entry?, hfind]
  exact hbelow

theorem Entries.mem_leaves_of_ne_nil {entries : Entries α} {l : List (List Char) × Option α}
    (h : l ∈ (Node.dir entries).leaves []) (hne : l.1 ≠ []) : l ∈ entries.leaves [] := by
  rw [Node.leaves] at h
  split at h
  · rw [List.mem_singleton.mp h] at hne
    exact absurd rfl hne
  · exact h

/-- **The directories of a tree** are those that its leaves need. -/
theorem Entries.find_dir_iff {entries : Entries α} (h : entries.WellNamed) {names : List (List Char)} (hne : names ≠ []) :
    (∃ sub, (Node.dir entries).find names = some (.dir sub)) ↔ ∃ l ∈ entries.leaves [], names <+: leafDir l := by
  constructor
  · rintro ⟨sub, hfind⟩
    obtain ⟨l, hl⟩ := List.exists_mem_of_ne_nil _ ((Node.dir sub).leaves_ne_nil names)
    have hsub : sub.WellNamed := ((show (Node.dir entries).WellNamed from h).find hfind).1
    obtain ⟨below, hnames, hbelow⟩ := Node.find_of_mem_leaves (.dir sub) hsub hl
    have hpre : names <+: l.1 := hnames ▸ List.prefix_append _ _
    have hlne : l.1 ≠ [] := fun e => hne (List.prefix_nil.mp (e ▸ hpre))
    refine ⟨l, Entries.mem_leaves_of_ne_nil (Node.leaves_subset hfind [] hl) hlne, ?_⟩
    refine (prefix_leafDir_iff hlne).mpr ⟨hpre, fun heq => ?_⟩
    rw [← heq, List.self_eq_append_right] at hnames
    rw [hnames] at hbelow
    cases hleaf : l.2 with
    | none => rfl
    | some a =>
      rw [hleaf] at hbelow
      cases hbelow
  · rintro ⟨l, hl, hpre⟩
    obtain ⟨hlne, hfind⟩ := Entries.find_leaf h hl
    obtain ⟨⟨rest, hrest⟩, hempty⟩ := (prefix_leafDir_iff hlne).mp hpre
    by_cases hnil : rest = []
    · rw [hnil, List.append_nil] at hrest
      rw [← hrest, hempty hrest] at hfind
      exact ⟨.nil, hfind⟩
    · rw [← hrest] at hfind
      exact Node.find_above hnil hfind

/-- **The files of a tree** are its leaves with content. -/
theorem Entries.find_leaf_iff {entries : Entries α} (h : entries.WellNamed) {names : List (List Char)} (hne : names ≠ [])
    {a : α} : (Node.dir entries).find names = some (.leaf a) ↔ (names, some a) ∈ entries.leaves [] := by
  constructor
  · exact fun hfind => Entries.mem_leaves_of_ne_nil (Node.leaves_subset hfind [] List.mem_cons_self) hne
  · exact fun hl => (Entries.find_leaf h hl).2

end DirTree
