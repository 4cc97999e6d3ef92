import BundleFramework.Zip.Pack
import BundleFramework.Zip.UnzipParallel

/-!
# Packing and unpacking

What `Zip` has made of a directory, `Unzip` lays out again in an empty place, one entry after the
other or side by side: every directory and every file of the tree is there, and nothing else
(`unzip_zip`).
-/

namespace BundleFramework.Libzip

open PathParts NormalPath DirTree

variable {α : Type}

/-! ## All paths above -/

theorem components_name_le {name : Str} (hne : name ≠ []) (hslash : '/' ∉ name) :
    components name = [] ∨ components name = [name] := by
  rw [components_name hne hslash]
  by_cases hdot : name = kCurrentDirectory
  · exact .inl (List.filter_cons_of_neg (by simpa using hdot))
  · exact .inr (List.filter_cons_of_pos (by simpa using hdot))

/-- A place above the path is its own or one above the path above it. -/
theorem prefix_or_above {path : Str} {place : List Str} (h : place <+: components path) :
    place = components path ∨ path ≠ dirName path ∧ place <+: components (dirName path) ∧
      (dirName path = kCurrentDirectory ∨ dirName path ≠ [] ∧ (dirName path).length < path.length) := by
  by_cases hcomp : components path = []
  · rw [hcomp, List.prefix_nil] at h
    exact .inl (h.trans hcomp.symm)
  · obtain ⟨-, -, hne, -, -⟩ := trailing_of_components hcomp 0
    cases shape path with
    | separators n => exact absurd (components_separators n) hcomp
    | @name name k hname hslash =>
      rw [components_trailing] at h hcomp ⊢
      rw [(components_name_le hname hslash).resolve_left hcomp] at h ⊢
      rcases List.prefix_concat_iff.mp (show place <+: [] ++ [name] from h) with heq | hnil
      · exact .inl heq
      · rw [dirName_name hname hslash] at hne ⊢
        exact .inr ⟨hne, hnil, .inl rfl⟩
    | @below above name k hname hslash =>
      obtain ⟨hdir, hlen, hdircomp, -⟩ := dirName_below_spec above hname hslash k
      have hle : (above ++ '/' :: name).length ≤ (above ++ '/' :: name ++ List.replicate k '/').length :=
        (List.sublist_append_left _ _).length_le
      rw [components_trailing, components_append_slash] at h ⊢
      rw [hdircomp]
      rcases components_name_le hname hslash with hnil | hone
      · rw [hnil, List.append_nil] at h ⊢
        exact .inr ⟨hne, h, .inr ⟨hdir, by omega⟩⟩
      · rw [hone] at h ⊢
        exact (List.prefix_concat_iff.mp h).imp_right fun h => ⟨hne, h, .inr ⟨hdir, by omega⟩⟩

theorem subpathsLoop_places (fuel : Nat) {path : Str} (hne : path ≠ []) (hfuel : path.length ≤ fuel)
    {place : List Str} (h : place <+: components path) : ∃ p ∈ path :: subpathsLoop fuel path, components p = place := by
  induction fuel generalizing path with
  | zero => exact absurd (List.eq_nil_of_length_eq_zero (Nat.le_zero.mp hfuel)) hne
  | succ fuel ih =>
    rcases prefix_or_above h with heq | ⟨hself, hpre, hdir⟩
    · exact ⟨path, List.mem_cons_self, heq.symm⟩
    · rw [subpathsLoop, if_neg fun e => hself e.symm]
      rcases hdir with hcur | ⟨hdir, hlen⟩
      · rw [hcur] at hpre
        refine ⟨dirName path, List.mem_cons_of_mem _ List.mem_cons_self, ?_⟩
        rw [List.prefix_nil.mp hpre, hcur]
        rfl
      · obtain ⟨p, hp, hplace⟩ := ih hdir (by omega) hpre
        exact ⟨p, List.mem_cons_of_mem _ hp, hplace⟩

/-- **The places of the directories** that `CreateDirectory` asks for are those above the path, and its own. -/
theorem createDirectoryCalls_places {full : Str} (hne : full ≠ []) (place : Place) :
    (∃ p, .createDirectory p ∈ createDirectoryCalls (α := α) full ∧ placeOf p = place) ↔
      place.1 = (placeOf full).1 ∧ place.2 <+: components full := by
  have hmem : ∀ p, Call.createDirectory p ∈ createDirectoryCalls (α := α) full ↔ p ∈ subpaths full := by
    intro p
    unfold createDirectoryCalls
    simp
  constructor
  · rintro ⟨p, hp, rfl⟩
    obtain ⟨hpre, hhead⟩ := subpaths_above hne p ((hmem p).mp hp)
    exact ⟨placeOf_eq hhead, hpre⟩
  · rintro ⟨habs, hpre⟩
    obtain ⟨p, hp, hplace⟩ := subpathsLoop_places full.length hne (le_refl _) hpre
    refine ⟨p, (hmem p).mpr hp, Prod.ext ?_ hplace⟩
    exact (placeOf_eq (subpaths_above hne p hp).2).trans habs.symm

/-! ## The calls of a leaf -/

theorem child_child (a b : Str) (hb : b ≠ []) (hlast : b.getLast? ≠ some '/') (name : Str) :
    child a (child b name) = child (child a b) name := by
  have hbase : base (child a b) = child a b := by
    have hab : (child a b).getLast? ≠ some '/' := by
      rw [child, ← List.singleton_append, ← List.append_assoc, List.getLast?_append]
      cases hl : b.getLast? with
      | none => exact absurd (List.getLast?_eq_none_iff.mp hl) hb
      | some c => exact fun h => hlast (hl.trans h)
    rw [base, if_neg hab]
  have hb' : base b = b := if_neg hlast
  rw [child, child, hb', child, hbase, child, List.append_assoc]
  rfl

theorem getLast?_below {src : Str} (hsrc : src.getLast? ≠ some '/') {names : List Str}
    (h : ∀ name ∈ names, EntryName name) : (below src names).getLast? ≠ some '/' := by
  induction names using List.reverseRecOn with
  | nil => exact hsrc
  | append_singleton names last ih =>
    have hchild : below src (names ++ [last]) = base (below src names) ++ ['/'] ++ last := by
      rw [below, List.foldl_append, List.append_assoc]
      rfl
    rw [hchild]
    exact getLast?_name _ (h last (List.mem_append_right _ (List.mem_singleton.mpr rfl)))

theorem child_below (destDir : Str) {name : Str} (hname : EntryName name) {names : List Str}
    (h : ∀ name ∈ names, EntryName name) : child destDir (below name names) = below destDir (name :: names) := by
  induction names using List.reverseRecOn with
  | nil => rfl
  | append_singleton names last ih =>
    have hinit : ∀ name ∈ names, EntryName name := fun name hmem => h name (List.mem_append_left _ hmem)
    have hsnoc : ∀ (src : Str) (names : List Str), below src (names ++ [last]) = child (below src names) last := by
      intro src names
      rw [below, List.foldl_append]
      rfl
    have hjoined := components_below name hinit
    rw [hsnoc, child_child, ih hinit, ← List.cons_append, hsnoc]
    · intro e
      rw [e, hname.components] at hjoined
      cases hjoined
    · exact getLast?_below (getLast?_name [] hname) hinit

/-- `filePathInDir` goes down the names from the destination. -/
theorem filePathInDir_joined (destDir : Str) {names : List Str} (hne : names ≠ [])
    (h : ∀ name ∈ names, EntryName name) : filePathInDir destDir (joined names) = below destDir names := by
  have hchild : ∀ path : Str, filePathInDir destDir path = child destDir path := by
    intro path
    unfold filePathInDir
    split
    · next hends =>
      obtain ⟨top, rfl⟩ := List.isSuffixOf_iff_suffix.mp hends
      have hbase : base (top ++ SEPARATOR) = top := by
        rw [base, if_pos (by simp [SEPARATOR]), SEPARATOR, List.dropLast_concat]
      rw [child, hbase, List.append_assoc]
      rfl
    · next hends =>
      have hbase : base destDir = destDir := by
        refine if_neg fun hlast => hends ?_
        obtain ⟨top, rfl⟩ := List.getLast?_eq_some_iff.mp hlast
        exact List.isSuffixOf_iff_suffix.mpr (List.suffix_append _ _)
      rw [child, hbase, List.append_assoc]
      rfl
  cases names with
  | nil => exact absurd rfl hne
  | cons name names =>
    rw [hchild, joined]
    exact child_below destDir (h name List.mem_cons_self) fun name hmem => h name (List.mem_cons_of_mem _ hmem)

/-- A name that comes back as it was: not one that is taken for a way up, with no bytes that are cut or changed. -/
structure PlainName (needChangePathSeparator : Bool) (name : Str) : Prop extends EntryName name where
  parent : ¬ (dotsOnly name && (strFind name kParentDirectory).isSome) = true
  plain : ∀ c ∈ name, c ≠ '\x00' ∧ c ≠ '\n' ∧ c ≠ '\r' ∧ (needChangePathSeparator = true → c ≠ '\\')

theorem mem_below {c : Char} {src : Str} {names : List Str} (h : c ∈ below src names) :
    c ∈ src ∨ c = '/' ∨ ∃ name ∈ names, c ∈ name := by
  induction names generalizing src with
  | nil => exact .inl h
  | cons name names ih =>
    have hbase : base src ⊆ src := by
      unfold base
      split
      · exact List.dropLast_subset _
      · exact List.Subset.refl _
    rcases ih (show c ∈ below (child src name) names from h) with hc | hc | ⟨other, hother, hc⟩
    · rcases List.mem_append.mp hc with hc | hc
      · exact .inl (hbase hc)
      · rcases List.mem_cons.mp hc with hc | hc
        · exact .inr (.inl hc)
        · exact .inr (.inr ⟨name, List.mem_cons_self, hc⟩)
    · exact .inr (.inl hc)
    · exact .inr (.inr ⟨other, List.mem_cons_of_mem _ hother, hc⟩)

section
variable {flag : Bool} {destDir : Str} {names : List Str} (hnames : ∀ name ∈ names, PlainName flag name)
include hnames

theorem joined_plain {c : Char} (hc : c ∈ joined names) :
    c ≠ '\x00' ∧ c ≠ '\n' ∧ c ≠ '\r' ∧ (flag = true → c ≠ '\\') := by
  cases names with
  | nil => exact (List.not_mem_nil hc).elim
  | cons name names =>
    rcases mem_below hc with hc | rfl | ⟨other, hother, hc⟩
    · exact (hnames name List.mem_cons_self).plain c hc
    · exact ⟨by decide, by decide, by decide, fun _ => by decide⟩
    · exact (hnames other (List.mem_cons_of_mem _ hother)).plain c hc

/-- The name of an entry, with or without the separator that marks a directory. -/
theorem entry_plain {mark : Str} (hmark : mark ⊆ SEPARATOR) (content : α) (hlen : (joined names ++ mark).length < kZipMaxPath) :
    rawFileNameInZip ⟨joined names ++ mark, content⟩ = joined names ++ mark ∧
      entryPath flag ⟨joined names ++ mark, content⟩ = joined names ++ mark := by
  have hplain : ∀ c ∈ joined names ++ mark, c ≠ '\x00' ∧ (flag = true → c ≠ '\\') := by
    intro c hc
    rcases List.mem_append.mp hc with hc | hc
    · obtain ⟨hzero, -, -, hback⟩ := joined_plain hnames hc
      exact ⟨hzero, hback⟩
    · rw [List.mem_singleton.mp (hmark hc)]
      exact ⟨by decide, fun _ => by decide⟩
  have hraw : rawFileNameInZip ⟨joined names ++ mark, content⟩ = joined names ++ mark := by
    unfold rawFileNameInZip
    rw [List.take_of_length_le (Nat.le_sub_one_of_lt hlen), List.takeWhile_eq_self_iff]
    exact fun c hc => decide_eq_true (hplain c hc).1
  refine ⟨hraw, ?_⟩
  unfold entryPath
  simp only
  rw [hraw]
  split
  · next hflag =>
    refine (List.map_congr_left fun c hc => ?_).trans (List.map_id _)
    exact if_neg ((hplain c hc).2 hflag)
  · rfl

theorem referencesParent_joined {mark : Str} (hmark : mark = [] ∨ mark = SEPARATOR) (hne : names ≠ []) :
    referencesParent (joined names ++ mark) = false := by
  have hentry : ∀ name ∈ names, EntryName name := fun name hmem => (hnames name hmem).toEntryName
  have hget : getComponents (joined names ++ mark) = names.reverse := by
    rcases hmark with rfl | rfl
    · rw [List.append_nil, getComponents_joined hentry]
    · have htrail := getComponents_trailing (joined names) (by rwa [components_joined hentry]) 1
      exact htrail.trans (getComponents_joined hentry)
  unfold referencesParent
  rw [hget, List.any_eq_false]
  exact fun name hmem => (hnames name (List.mem_reverse.mp hmem)).parent

theorem filePathCheckValid_below (hdest : filePathCheckValid destDir = true) :
    filePathCheckValid (below destDir names) = true := by
  unfold filePathCheckValid at hdest ⊢
  rw [List.all_eq_true] at hdest ⊢
  intro c hc
  rcases mem_below hc with hc | rfl | ⟨name, hname, hc⟩
  · exact hdest c hc
  · decide
  · obtain ⟨-, hn, hr, -⟩ := (hnames name hname).plain c hc
    simp [hn, hr]

end

/-- What unpacking a leaf asks for. -/
def leafCalls (destDir : Str) (top : List Str) (l : List Str × Option α) : List (Call α) :=
  match l.2 with
  | some content =>
    createDirectoryCalls (dirName (below destDir (top ++ l.1))) ++ [.write (below destDir (top ++ l.1)) content]
  | none => createDirectoryCalls (filePathInDir destDir (joined (top ++ l.1) ++ SEPARATOR))

theorem entryCalls_leaf [Inhabited α] (flag : Bool) {destDir : Str} (hdest : filePathCheckValid destDir = true)
    {top : List Str} {l : List Str × Option α} (hne : l.1 ≠ []) (hnames : ∀ name ∈ top ++ l.1, PlainName flag name)
    (hlen : (leafEntry top l).name.length < kZipMaxPath) :
    entryCalls flag destDir (some (leafEntry top l)) = some (leafCalls destDir top l) := by
  have hall : top ++ l.1 ≠ [] := by simp [hne]
  have hentry : ∀ name ∈ top ++ l.1, EntryName name := fun name hmem => (hnames name hmem).toEntryName
  have hcomp := components_joined hentry
  have hjoined : joined (top ++ l.1) ≠ [] := by
    intro e
    rw [e] at hcomp
    exact hall hcomp.symm
  unfold leafEntry at hlen ⊢
  unfold leafCalls
  cases hleaf : l.2 with
  | none =>
    rw [hleaf] at hlen
    obtain ⟨hraw, hpath⟩ := entry_plain hnames (List.Subset.refl SEPARATOR) (default : α) hlen
    have hends : endsWith (joined (top ++ l.1) ++ SEPARATOR) SEPARATOR = true :=
      List.isSuffixOf_iff_suffix.mpr (List.suffix_append _ _)
    unfold entryCalls
    simp only
    rw [hraw, hpath, if_neg (by simp [hjoined]), referencesParent_joined hnames (.inr rfl) hall,
      if_neg Bool.false_ne_true, if_pos hends]
  | some content =>
    rw [hleaf] at hlen
    obtain ⟨hraw, hpath⟩ := entry_plain hnames (List.nil_subset SEPARATOR) content (by rwa [List.append_nil])
    have hparent := referencesParent_joined hnames (.inl rfl) hall
    rw [List.append_nil] at hraw hpath hparent
    have hends : ¬ endsWith (joined (top ++ l.1)) SEPARATOR = true := by
      intro hends
      obtain ⟨start, hstart⟩ := List.isSuffixOf_iff_suffix.mp hends
      have hlast : (joined (top ++ l.1)).getLast? = some '/' := by
        rw [← hstart]
        simp [SEPARATOR]
      cases hsplit : top ++ l.1 with
      | nil => exact hall hsplit
      | cons name names =>
        rw [hsplit] at hlast hentry
        exact getLast?_below (getLast?_name [] (hentry name List.mem_cons_self))
          (fun name hmem => hentry name (List.mem_cons_of_mem _ hmem)) hlast
    unfold entryCalls writerCalls
    simp only
    rw [hraw, hpath, if_neg (by simpa using hjoined), hparent, if_neg Bool.false_ne_true, if_neg hends,
      filePathInDir_joined destDir hall hentry, if_pos (filePathCheckValid_below hnames hdest)]

section
variable {destDir : Str} {top : List Str} {l : List Str × Option α}

theorem not_mem_createDirectoryCalls {full : Str} {call : Call α} (h : ∀ p, call ≠ .createDirectory p) :
    call ∉ createDirectoryCalls full := by
  intro hmem
  obtain ⟨p, -, heq⟩ := List.mem_map.mp hmem
  exact h p heq.symm

theorem leafCalls_valid : .invalid ∉ leafCalls destDir top l := by
  unfold leafCalls
  split
  · intro hmem
    rcases List.mem_append.mp hmem with hmem | hmem
    · exact absurd hmem (not_mem_createDirectoryCalls nofun)
    · cases List.mem_singleton.mp hmem
  · exact not_mem_createDirectoryCalls nofun

theorem leafCalls_write {p : Str} {content : α} :
    .write p content ∈ leafCalls destDir top l ↔ l.2 = some content ∧ p = below destDir (top ++ l.1) := by
  unfold leafCalls
  cases l.2 with
  | none => exact ⟨fun hmem => absurd hmem (not_mem_createDirectoryCalls nofun), fun h => nomatch h.1⟩
  | some content' =>
    simp only [List.mem_append, List.mem_singleton, Call.write.injEq, Option.some.injEq]
    constructor
    · rintro (hmem | ⟨rfl, rfl⟩)
      · exact absurd hmem (not_mem_createDirectoryCalls nofun)
      · exact ⟨rfl, rfl⟩
    · rintro ⟨rfl, rfl⟩
      exact .inr ⟨rfl, rfl⟩

/-- The directories that unpacking a leaf makes are those above it. -/
theorem leafCalls_dirs (hdest : destDir ≠ []) (hne : l.1 ≠ []) (hentry : ∀ name ∈ top ++ l.1, EntryName name)
    (place : Place) : (∃ p, .createDirectory p ∈ leafCalls destDir top l ∧ placeOf p = place) ↔
      place.1 = (placeOf destDir).1 ∧ place.2 <+: components destDir ++ (top ++ leafDir l) := by
  unfold leafCalls leafDir
  cases l.2 with
  | none =>
    obtain ⟨hcomp, hhead, hfull⟩ := filePathInDir_spec hdest (joined (top ++ l.1) ++ SEPARATOR)
    have htrail := components_trailing (joined (top ++ l.1)) 1
    refine (createDirectoryCalls_places hfull place).trans ?_
    rw [placeOf_eq hhead, hcomp, show SEPARATOR = List.replicate 1 '/' from rfl, htrail, components_joined hentry]
    rfl
  | some content =>
    obtain ⟨init, last, hl⟩ := (List.eq_nil_or_concat' l.1).resolve_left hne
    obtain ⟨-, hhead, -⟩ := filePathInDir_spec hdest (joined (top ++ l.1))
    rw [filePathInDir_joined destDir (by simp [hne]) hentry] at hhead
    rw [hl, ← List.append_assoc] at hentry hhead ⊢
    have hlast := hentry last (List.mem_append_right _ (List.mem_singleton.mpr rfl))
    have hinit : ∀ name ∈ top ++ init, EntryName name := fun name hmem => hentry name (List.mem_append_left _ hmem)
    have hsnoc : below destDir (top ++ init ++ [last]) =
        base (below destDir (top ++ init)) ++ '/' :: last ++ List.replicate 0 '/' := by
      rw [below, List.foldl_append, List.replicate_zero, List.append_nil]
      rfl
    obtain ⟨hdir, -, hcomp, htop⟩ := dirName_below_spec (base (below destDir (top ++ init))) hlast.ne_nil hlast.slash 0
    rw [hsnoc] at hhead ⊢
    rw [List.replicate_zero, List.append_nil] at hhead htop hcomp hdir ⊢
    rw [← htop] at hhead
    have hplaces := createDirectoryCalls_places (α := α) hdir place
    rw [placeOf_eq hhead, hcomp, components_base, components_below _ hinit] at hplaces
    simp only [List.dropLast_concat, Option.isNone_some, Bool.false_eq_true, if_false]
    rw [← hplaces]
    refine exists_congr fun p => and_congr_left fun _ => ?_
    rw [List.mem_append, List.mem_singleton]
    exact or_iff_left nofun

end

/-! ## The tree again -/

section
variable {fs : FileSys α} {destDir : Str} {top : List Str} {entries : Entries α} (hdest : destDir ≠ [])
  (hwell : entries.WellNamed) (hentry : ∀ l ∈ entries.leaves [], ∀ name ∈ top ++ l.1, EntryName name)
include hdest hwell hentry

theorem leaf_place {l : List Str × Option α} (hl : l ∈ entries.leaves []) :
    placeOf (below destDir (top ++ l.1)) = ((placeOf destDir).1, components destDir ++ (top ++ l.1)) := by
  have hne : top ++ l.1 ≠ [] := by simp [(Entries.find_leaf hwell hl).1]
  obtain ⟨-, hhead, -⟩ := filePathInDir_spec hdest (joined (top ++ l.1))
  rw [filePathInDir_joined destDir hne (hentry l hl)] at hhead
  exact Prod.ext (placeOf_eq hhead) (components_below destDir (hentry l hl))

/-- The leaves of a tree do not stand in each other's way. -/
theorem leaves_compatible (hstanding : Standing destDir fs)
    (hempty : ∀ rest ≠ [], fs.isDir ((placeOf destDir).1, components destDir ++ rest) = false ∧
      fs.file ((placeOf destDir).1, components destDir ++ rest) = none) :
    Compatible fs ((entries.leaves []).map (leafCalls destDir top)).flatten := by
  have hmem : ∀ call : Call α, call ∈ ((entries.leaves []).map (leafCalls destDir top)).flatten →
      ∃ l ∈ entries.leaves [], call ∈ leafCalls destDir top l := by
    intro call hcall
    obtain ⟨calls, hcalls, hin⟩ := List.mem_flatten.mp hcall
    obtain ⟨l, hl, rfl⟩ := List.mem_map.mp hcalls
    exact ⟨l, hl, hin⟩
  refine ⟨fun hcall => ?_, fun p hp => ?_, fun p content hp => ?_, fun p q content hp hq heq => ?_⟩
  · obtain ⟨l, hl, hin⟩ := hmem _ hcall
    exact leafCalls_valid hin
  · obtain ⟨l, hl, hin⟩ := hmem _ hp
    obtain ⟨habs, hpre⟩ := (leafCalls_dirs hdest (Entries.find_leaf hwell hl).1 (hentry l hl) _).mp ⟨p, hin, rfl⟩
    rcases List.prefix_or_prefix_of_prefix hpre (List.prefix_append _ _) with hway | ⟨rest, hrest⟩
    · have hdir := hstanding _ hway
      rw [← habs] at hdir
      exact .inl hdir
    · by_cases hnil : rest = []
      · have hdir := hstanding _ (List.prefix_refl _)
        rw [hnil, List.append_nil] at hrest
        rw [hrest, ← habs] at hdir
        exact .inl hdir
      · have hnone := (hempty rest hnil).2
        rw [hrest, ← habs] at hnone
        exact .inr hnone
  · obtain ⟨l, hl, hin⟩ := hmem _ hp
    obtain ⟨-, rfl⟩ := leafCalls_write.mp hin
    rw [leaf_place hdest hwell hentry hl, (hempty _ (by simp [(Entries.find_leaf hwell hl).1])).1]
    exact Bool.false_ne_true
  · -- a directory on the way to a leaf is no leaf with content
    obtain ⟨l, hl, hin⟩ := hmem _ hp
    obtain ⟨l', hl', hin'⟩ := hmem _ hq
    obtain ⟨hcontent, rfl⟩ := leafCalls_write.mp hin'
    obtain ⟨hne', hfind'⟩ := Entries.find_leaf hwell hl'
    obtain ⟨-, hpre⟩ := (leafCalls_dirs hdest (Entries.find_leaf hwell hl).1 (hentry l hl) _).mp ⟨p, hin, rfl⟩
    rw [heq, leaf_place hdest hwell hentry hl'] at hpre
    simp only [List.prefix_append_right_inj] at hpre
    obtain ⟨sub, hsub⟩ := (Entries.find_dir_iff hwell hne').mpr ⟨l, hl, hpre⟩
    rw [hfind', hcontent] at hsub
    cases hsub

theorem leaves_oneContent : OneContent ((entries.leaves []).map (leafCalls destDir top)).flatten := by
  intro p q content content' hp hq heq
  obtain ⟨calls, hcalls, hin⟩ := List.mem_flatten.mp hp
  obtain ⟨l, hl, rfl⟩ := List.mem_map.mp hcalls
  obtain ⟨calls', hcalls', hin'⟩ := List.mem_flatten.mp hq
  obtain ⟨l', hl', rfl⟩ := List.mem_map.mp hcalls'
  obtain ⟨hcontent, rfl⟩ := leafCalls_write.mp hin
  obtain ⟨hcontent', rfl⟩ := leafCalls_write.mp hin'
  rw [leaf_place hdest hwell hentry hl, leaf_place hdest hwell hentry hl'] at heq
  have hnames : l.1 = l'.1 := List.append_cancel_left (List.append_cancel_left (Prod.ext_iff.mp heq).2)
  have hfind := (Entries.find_leaf hwell hl).2
  rw [hnames, (Entries.find_leaf hwell hl').2, hcontent, hcontent'] at hfind
  cases hfind
  rfl

/-- What is there after the calls of all leaves: the tree, at its place. -/
theorem leaves_performed (hempty : ∀ rest ≠ [], fs.isDir ((placeOf destDir).1, components destDir ++ rest) = false ∧
      fs.file ((placeOf destDir).1, components destDir ++ rest) = none) {fs' : FileSys α}
    (h : Performed fs ((entries.leaves []).map (leafCalls destDir top)).flatten fs') {names : List Str} (hne : names ≠ []) :
    (fs'.isDir ((placeOf destDir).1, components destDir ++ (top ++ names)) = true ↔
      ∃ sub, (Node.dir entries).find names = some (.dir sub)) ∧
    ∀ content, fs'.file ((placeOf destDir).1, components destDir ++ (top ++ names)) = some content ↔
      (Node.dir entries).find names = some (.leaf content) := by
  have hrest : top ++ names ≠ [] := by simp [hne]
  obtain ⟨hnodir, hnofile⟩ := hempty _ hrest
  have hwritten : ∀ content, (names, some content) ∈ entries.leaves [] →
      fs'.file ((placeOf destDir).1, components destDir ++ (top ++ names)) = some content := by
    intro content hl
    rw [← leaf_place hdest hwell hentry hl]
    refine h.written _ content (List.mem_flatten.mpr ⟨_, List.mem_map_of_mem hl, ?_⟩)
    exact leafCalls_write.mpr ⟨rfl, rfl⟩
  constructor
  · rw [h.isDir, hnodir, Entries.find_dir_iff hwell hne]
    simp only [Bool.false_eq_true, false_or]
    constructor
    · rintro ⟨p, hp, hplace⟩
      obtain ⟨calls, hcalls, hin⟩ := List.mem_flatten.mp hp
      obtain ⟨l, hl, rfl⟩ := List.mem_map.mp hcalls
      obtain ⟨-, hpre⟩ := (leafCalls_dirs hdest (Entries.find_leaf hwell hl).1 (hentry l hl) _).mp ⟨p, hin, hplace⟩
      simp only [List.prefix_append_right_inj] at hpre
      exact ⟨l, hl, hpre⟩
    · rintro ⟨l, hl, hpre⟩
      obtain ⟨p, hp, hplace⟩ := (leafCalls_dirs hdest (Entries.find_leaf hwell hl).1 (hentry l hl)
        ((placeOf destDir).1, components destDir ++ (top ++ names))).mpr ⟨rfl, by simpa using hpre⟩
      exact ⟨p, List.mem_flatten.mpr ⟨_, List.mem_map_of_mem hl, hp⟩, hplace⟩
  · intro content
    rw [Entries.find_leaf_iff hwell hne]
    refine ⟨fun hfile => ?_, hwritten content⟩
    by_contra hnot
    rw [h.kept] at hfile
    · rw [hnofile] at hfile
      cases hfile
    · intro p content' hp hplace
      obtain ⟨calls, hcalls, hin⟩ := List.mem_flatten.mp hp
      obtain ⟨l, hl, rfl⟩ := List.mem_map.mp hcalls
      obtain ⟨hcontent, rfl⟩ := leafCalls_write.mp hin
      rw [leaf_place hdest hwell hentry hl] at hplace
      have hnames : l.1 = names := List.append_cancel_left (List.append_cancel_left (Prod.ext_iff.mp hplace).2)
      have hl' : (names, some content') ∈ entries.leaves [] := by
        rw [← hnames, ← hcontent]
        exact hl
      rw [hwritten content' hl'] at hfile
      rw [Option.some.inj hfile] at hl'
      exact hnot hl'

end

theorem submitted_leaves [Inhabited α] {flag : Bool} {destDir : Str} {top : List Str} {ls : List (List Str × Option α)}
    (h : ∀ l ∈ ls, entryCalls flag destDir (some (leafEntry top l)) = some (leafCalls destDir top l)) :
    submitted flag destDir ((ls.map (leafEntry top)).map some) = ls.map (leafCalls destDir top) ∧
      allRead flag destDir ((ls.map (leafEntry top)).map some) = true := by
  induction ls with
  | nil => exact ⟨rfl, rfl⟩
  | cons l ls ih =>
    obtain ⟨hsub, hread⟩ := ih fun l hl => h l (List.mem_cons_of_mem _ hl)
    rw [List.map_cons, List.map_cons, submitted, allRead, List.all_cons, h l List.mem_cons_self]
    simp only [hsub, List.map_cons, Option.isSome_some, Bool.true_and]
    exact ⟨trivial, hread⟩

/-- **Packed and unpacked, a directory is what it was**: unpacking succeeds, what stands at the destination are the
directories and the files of the tree, and the order in which tasks take turns makes no difference. -/
theorem unzip_zip [Inhabited α] {files : FileSystem α} {includeHiddenFiles keepTopLevelFolder flag : Bool}
    {src destDir : Str} {entries : Entries α} {fs : FileSys α} {fuel : Nat}
    (h : Packable files includeHiddenFiles keepTopLevelFolder src entries) (hfuel : (entries.leaves []).length ≤ fuel)
    (hplain : ∀ l ∈ entries.leaves [], ∀ name ∈ topNames keepTopLevelFolder src ++ l.1, PlainName flag name)
    (hlen : ∀ l ∈ entries.leaves [], (leafEntry (topNames keepTopLevelFolder src) l).name.length < kZipMaxPath)
    (hdest : destDir ≠ []) (hlines : filePathCheckValid destDir = true) (hstanding : Standing destDir fs)
    (hempty : ∀ rest ≠ [], fs.isDir ((placeOf destDir).1, components destDir ++ rest) = false ∧
      fs.file ((placeOf destDir).1, components destDir ++ rest) = none) :
    ∃ archive fs', zip files includeHiddenFiles keepTopLevelFolder fuel src = some archive ∧
      unzipSequential flag destDir ((archive.map some).map fun entry => (entry, [])) fs = (true, fs') ∧
      (∀ names ≠ [],
        (fs'.isDir ((placeOf destDir).1, components destDir ++ (topNames keepTopLevelFolder src ++ names)) = true ↔
          ∃ sub, (Node.dir entries).find names = some (.dir sub)) ∧
        ∀ content,
          fs'.file ((placeOf destDir).1, components destDir ++ (topNames keepTopLevelFolder src ++ names)) = some content ↔
            (Node.dir entries).find names = some (.leaf content)) ∧
      ∀ schedule, (∀ i ∈ schedule, i.2 = .done) →
        (∀ task ∈ (unzipParallel flag destDir (archive.map some) fs schedule).tasks, task = .ended) →
        (unzipParallel flag destDir (archive.map some) fs schedule).failed = false ∧
          (unzipParallel flag destDir (archive.map some) fs schedule).fs = fs' := by
  have hentry : ∀ l ∈ entries.leaves [], ∀ name ∈ topNames keepTopLevelFolder src ++ l.1, EntryName name :=
    fun l hl name hname => (hplain l hl name hname).toEntryName
  have hone := leaves_oneContent hdest h.named hentry
  have hcompatible := leaves_compatible hdest h.named hentry hstanding hempty
  obtain ⟨hsub, hread⟩ := submitted_leaves fun l hl =>
    entryCalls_leaf flag hlines (Entries.find_leaf h.named hl).1 (hplain l hl) (hlen l hl)
  have hrun := runCalls_succeeds (.refl fs) hcompatible hone (List.nil_subset _) (List.Subset.refl _)
  have hperformed := runCalls_performed [] (.refl fs) hone (Prod.ext hrun rfl)
  obtain ⟨hsuccess, hresult⟩ := unzipSequential_eq flag destDir
    (((entries.leaves []).map (leafEntry (topNames keepTopLevelFolder src))).map some) fs
  rw [hsub, hread, hrun] at hsuccess
  rw [hsub] at hresult
  refine ⟨_, _, h.zip hfuel, Prod.ext hsuccess (hresult hsuccess), ?_, fun schedule hdone hended => ?_⟩
  · exact fun names hne => leaves_performed hdest h.named hentry hempty hperformed hne
  · obtain ⟨hagree, hsame⟩ := parallel_agrees flag destDir _ fs schedule (by rwa [hsub]) hdone hended
    rw [hsuccess, hread] at hagree
    exact ⟨by simpa using hagree.symm, (hsame hsuccess).symm.trans (hresult hsuccess)⟩

/-- A directory with a file in another one, and an empty one. -/
def sampleEntries : Entries Nat :=
  .cons "a".toList (.dir (.cons "f".toList (.leaf 7) .nil)) (.cons "e".toList (.dir .nil) .nil)

theorem sampleEntries_named : (Node.dir sampleEntries).WellNamed := by
  simp [sampleEntries, Node.WellNamed, Entries.WellNamed, Entries.toList]

theorem unzip_zip_sample : ∃ archive fs',
    zip (FileSystem.ofTree "/s".toList (.dir sampleEntries) sampleEntries_named) true true 2 "/s".toList = some archive ∧
    unzipSequential false "/d".toList ((archive.map some).map fun entry => (entry, []))
      ⟨fun place => place = (true, []) ∨ place = (true, ["d".toList]), fun _ => none⟩ = (true, fs') ∧
    fs'.file (true, ["d".toList, "s".toList, "a".toList, "f".toList]) = some 7 ∧
    fs'.isDir (true, ["d".toList, "s".toList, "e".toList]) = true := by
  have hleaves : sampleEntries.leaves [] = [(["a".toList, "f".toList], some 7), (["e".toList], none)] := rfl
  have hpack : Packable (FileSystem.ofTree "/s".toList (.dir sampleEntries) sampleEntries_named) true true "/s".toList
      sampleEntries := by
    refine ⟨rfl, sampleEntries_named, by decide, by decide, .inl rfl, fun _ => ⟨by decide, ⟨by decide, by decide, by decide⟩⟩,
      fun l hl name hname => ?_, fun l hl => ?_⟩
    · have hgood : name ≠ [] ∧ '/' ∉ name ∧ name ≠ kCurrentDirectory := by
        rw [hleaves] at hl
        revert l name
        decide
      exact ⟨hgood.1, hgood.2.1, hgood.2.2⟩
    · rw [hleaves] at hl
      revert l
      decide
  have hplain : ∀ l ∈ sampleEntries.leaves [], ∀ name ∈ topNames true "/s".toList ++ l.1, PlainName false name := by
    intro l hl name hname
    have hmem : name ∈ [['s'], ['a'], ['f'], ['e']] := by
      rw [hleaves] at hl
      revert l name
      decide
    rcases List.mem_cons.mp hmem with rfl | hmem
    · exact ⟨⟨by decide, by decide, by decide⟩, by decide, by simp⟩
    rcases List.mem_cons.mp hmem with rfl | hmem
    · exact ⟨⟨by decide, by decide, by decide⟩, by decide, by simp⟩
    rcases List.mem_cons.mp hmem with rfl | hmem
    · exact ⟨⟨by decide, by decide, by decide⟩, by decide, by simp⟩
    · rw [List.mem_singleton.mp hmem]
      exact ⟨⟨by decide, by decide, by decide⟩, by decide, by simp⟩
  have hstanding : Standing "/d".toList
      (⟨fun place => place = (true, []) ∨ place = (true, ["d".toList]), fun _ => none⟩ : FileSys Nat) := by
    intro parents hparents
    rcases List.prefix_concat_iff.mp (show parents <+: [] ++ ["d".toList] from hparents) with rfl | hnil
    · decide
    · rw [List.prefix_nil.mp hnil]
      decide
  obtain ⟨archive, fs', hzip, hunzip, htree, -⟩ := unzip_zip hpack (le_refl _) hplain (by rw [hleaves]; decide)
    (show "/d".toList ≠ [] by decide) (by decide) hstanding fun rest hne => ⟨by
      refine decide_eq_false fun hor => ?_
      rcases hor with hplace | hplace
      · cases hplace
      · exact hne (List.cons.inj (Prod.ext_iff.mp hplace).2).2, rfl⟩
  refine ⟨archive, fs', hzip, hunzip, ?_, ?_⟩
  · exact ((htree ["a".toList, "f".toList] (by decide)).2 7).mpr rfl
  · exact (htree ["e".toList] (by decide)).1.mpr ⟨.nil, rfl⟩

end BundleFramework.Libzip
