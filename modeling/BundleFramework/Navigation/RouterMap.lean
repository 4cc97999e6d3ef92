import BundleFramework.Lib.SearchTree
import BundleFramework.Navigation.SemVer

/-!
# Merging the router maps of a bundle

`MergeRouter` puts all router items in a `std::map` ordered by `RouterItemCompare` and keeps
the first item of each name.  `std::map` asks for a strict weak order.  `RouterItemCompare`
is one where the versions are well formed, but a version identifier with a character that is
neither a letter nor a digit compares as greater from both sides.  What the comparison of two
versions gives where it is undefined is a parameter, and everything holds for each of its values.

The map is a search tree as the library walks it: left if the new item compares before the
node, right if the node compares before the new item, and otherwise the node stands for both.
The rebalancing is a parameter too.

The merge does what it is for (`MergesRight`) exactly when each name has an item that
compares before all others of the name, and none before it (`EachNameHasFirst`).
-/

namespace BundleFramework

open LexCompare SearchTree

structure RouterItem where
  name : Str
  pageSourceFile : Str := []
  buildFunction : Str := []
  customData : Str := []
  ohmurl : Str := []
  bundleName : Str := []
  moduleName : Str := []
  data : StrMap Str := ∅

def extractVersionFromOhmurl (ohmurl : Str) : Str :=
  match strRFindChar ohmurl '&' with
  | none => []
  | some lastAmpersandPos => ohmurl.drop (lastAmpersandPos + 1)

/-- The version text of an item. -/
def RouterItem.version (item : RouterItem) : Str := extractVersionFromOhmurl item.ohmurl

/-- `Compare`, with what it gives where it is undefined. -/
def compareVersionOr (undefined : Str → Str → Int) (version1 version2 : Str) : Int :=
  (compareVersion version1 version2).getD (undefined version1 version2)

def routerItemCompare (undefined : Str → Str → Int) (moduleNameSet : StrSet) (item1 item2 : RouterItem) : Bool :=
  if item1.name ≠ item2.name then decide (item1.name < item2.name)
  else
    let versionCompare := compareVersionOr undefined item1.version item2.version
    if versionCompare ≠ 0 then decide (versionCompare > 0)
    else
      let contains1 := moduleNameSet.contains item1.moduleName
      let contains2 := moduleNameSet.contains item2.moduleName
      if contains1 && contains2 then decide (item1.moduleName < item2.moduleName)
      else if !contains1 && contains2 then false
      else if contains1 && !contains2 then true
      else decide (item1.moduleName < item2.moduleName)

/-- `MergeRouter(routerArrayList, routerArray, moduleNameSet)`; the result is `routerArray`. -/
def mergeRouterList (undefined : Str → Str → Int) (bal : Balancer RouterItem) (moduleNameSet : StrSet)
    (routerArrayList : List RouterItem) : List RouterItem :=
  let routerMap := emplaceAll bal (routerItemCompare undefined moduleNameSet) [] .leaf routerArrayList
  let routerArraySorted := routerMap.toList
  routerArraySorted.foldl (pushIfNew RouterItem.name) []

/-! ## The comparison -/

section Comparison

variable (undefined : Str → Str → Int)

theorem compareVersionOr_self (version : Str) : compareVersionOr undefined version version = 0 := by
  unfold compareVersionOr
  rw [compareVersion_self]
  rfl

theorem routerItemCompare_irrefl (moduleNameSet : StrSet) (item : RouterItem) :
    routerItemCompare undefined moduleNameSet item item = false := by
  have hversion := compareVersionOr_self undefined item.version
  unfold routerItemCompare
  simp [hversion]

/-- Items of different names compare as their names, whatever the rest. -/
theorem routerItemCompare_of_name_lt (moduleNameSet : StrSet) (x y : RouterItem) (h : x.name < y.name) :
    routerItemCompare undefined moduleNameSet x y = true ∧ routerItemCompare undefined moduleNameSet y x = false := by
  unfold routerItemCompare
  rw [if_pos h.ne, if_pos h.ne']
  exact ⟨decide_eq_true h, decide_eq_false h.asymm⟩

/-- The version of `x` is not smaller than that of `y`, in either direction of the
comparison; at equal versions a module of the set goes first, then the smaller module name. -/
def Outranks (moduleNameSet : StrSet) (x y : RouterItem) : Prop :=
  compareVersionOr undefined y.version x.version ≤ 0 ∧
  (0 < compareVersionOr undefined x.version y.version ∨
    compareVersionOr undefined x.version y.version = 0 ∧
      (x.moduleName ∈ moduleNameSet ∧ y.moduleName ∉ moduleNameSet ∨
        (x.moduleName ∈ moduleNameSet ↔ y.moduleName ∈ moduleNameSet) ∧ x.moduleName ≤ y.moduleName))

theorem Outranks.refl (moduleNameSet : StrSet) (x : RouterItem) : Outranks undefined moduleNameSet x x := by
  have hversion := compareVersionOr_self undefined x.version
  exact ⟨hversion.le, Or.inr ⟨hversion, Or.inr ⟨Iff.rfl, le_rfl⟩⟩⟩

variable {undefined}

theorem outranks_of_compare {moduleNameSet : StrSet} {x y : RouterItem} (hname : x.name = y.name)
    (hxy : routerItemCompare undefined moduleNameSet x y = true)
    (hyx : routerItemCompare undefined moduleNameSet y x = false) : Outranks undefined moduleNameSet x y := by
  unfold routerItemCompare at hxy hyx
  rw [if_neg (by simpa using hname)] at hxy
  rw [if_neg (by simpa using hname.symm)] at hyx
  dsimp only at hxy hyx
  constructor
  · split at hyx
    · simpa using hyx
    · next h => exact (not_not.mp h).le
  · split at hxy
    · exact Or.inl (by simpa using hxy)
    · next h =>
      refine Or.inr ⟨not_not.mp h, ?_⟩
      simp only [← Std.ExtTreeSet.contains_iff_mem]
      cases hx : moduleNameSet.contains x.moduleName <;>
        cases hy : moduleNameSet.contains y.moduleName <;> simp [hx, hy] at hxy ⊢
      · exact hxy.le
      · exact hxy.le

end Comparison

/-! ## What the merge is for -/

/-- One item for each name of the list, in ascending order of the names, the best one of its
name, and all of it whatever the order of the list. -/
structure MergesRight (undefined : Str → Str → Int) (bal : Balancer RouterItem) (moduleNameSet : StrSet)
    (l : List RouterItem) : Prop where
  perm : ∀ l' : List RouterItem, l'.Perm l →
    mergeRouterList undefined bal moduleNameSet l' = mergeRouterList undefined bal moduleNameSet l
  ascending : ((mergeRouterList undefined bal moduleNameSet l).map RouterItem.name).Pairwise (· < ·)
  names : ∀ n, n ∈ (mergeRouterList undefined bal moduleNameSet l).map RouterItem.name ↔ n ∈ l.map RouterItem.name
  best : ∀ g ∈ mergeRouterList undefined bal moduleNameSet l, g ∈ l ∧
    ∀ y ∈ l, y.name = g.name → Outranks undefined moduleNameSet g y

/-- Each name has an item that compares before all others of the name, and none before it. -/
def EachNameHasFirst (undefined : Str → Str → Int) (moduleNameSet : StrSet) (l : List RouterItem) : Prop :=
  ∀ x ∈ l, ∃ g ∈ l, g.name = x.name ∧ ∀ y ∈ l, y.name = x.name → y ≠ g →
    routerItemCompare undefined moduleNameSet g y = true ∧ routerItemCompare undefined moduleNameSet y g = false

section
variable (undefined : Str → Str → Int) (bal : Balancer RouterItem) (moduleNameSet : StrSet)

theorem mergeRouterList_ascending (l : List RouterItem) :
    ((mergeRouterList undefined bal moduleNameSet l).map RouterItem.name).Pairwise (· < ·) := by
  rw [List.pairwise_map]
  exact survivors_sorted (routerItemCompare_of_name_lt undefined moduleNameSet) bal l

theorem mem_of_mem_mergeRouterList {l : List RouterItem} {g : RouterItem}
    (h : g ∈ mergeRouterList undefined bal moduleNameSet l) : g ∈ l :=
  mem_of_mem_survivors (routerItemCompare_of_name_lt undefined moduleNameSet) bal h

/-- No route is lost, whatever the versions. -/
theorem mergeRouterList_names (l : List RouterItem) (n : Str) :
    n ∈ (mergeRouterList undefined bal moduleNameSet l).map RouterItem.name ↔ n ∈ l.map RouterItem.name := by
  rw [List.mem_map, List.mem_map]
  constructor
  · rintro ⟨g, hg, rfl⟩
    exact ⟨g, mem_of_mem_mergeRouterList undefined bal moduleNameSet hg, rfl⟩
  · rintro ⟨x, hx, rfl⟩
    exact exists_survivor (routerItemCompare_of_name_lt undefined moduleNameSet) bal hx

theorem mergesRight_of_eachNameHasFirst {l : List RouterItem} (h : EachNameHasFirst undefined moduleNameSet l) :
    MergesRight undefined bal moduleNameSet l := by
  have hkey := routerItemCompare_of_name_lt undefined moduleNameSet
  have hc : ∀ x ∈ l, ∃ g, Champion (routerItemCompare undefined moduleNameSet) RouterItem.name l g ∧
      g.name = x.name := by
    intro x hx
    obtain ⟨g, hgl, hgx, hbest⟩ := h x hx
    refine ⟨g, ⟨hgl, fun y hy hyg => ?_⟩, hgx⟩
    by_cases hne : y = g
    · subst hne
      exact ⟨routerItemCompare_irrefl undefined moduleNameSet y, fun h => absurd rfl h⟩
    · obtain ⟨hgy, hyg⟩ := hbest y hy (hyg.trans hgx) hne
      exact ⟨hyg, fun _ => hgy⟩
  refine ⟨fun l' hp => survivors_perm hkey bal hp hc, mergeRouterList_ascending undefined bal moduleNameSet l,
    mergeRouterList_names undefined bal moduleNameSet l, fun g hg => ?_⟩
  obtain ⟨hgl, hchamp⟩ := (mem_survivors_iff_of_champions hkey bal hc g).mp hg
  refine ⟨hgl, fun y hy hyg => ?_⟩
  by_cases hne : y = g
  · subst hne
    exact Outranks.refl undefined moduleNameSet y
  · obtain ⟨hafter, hbefore⟩ := hchamp y hy hyg
    exact outranks_of_compare hyg.symm (hbefore hne) hafter

/-- An item that is kept in every order of the list comes before all others of its name. -/
theorem eachNameHasFirst_of_perm {l : List RouterItem}
    (h : ∀ l' : List RouterItem, l'.Perm l →
      mergeRouterList undefined bal moduleNameSet l' = mergeRouterList undefined bal moduleNameSet l) :
    EachNameHasFirst undefined moduleNameSet l := by
  have hkey := routerItemCompare_of_name_lt undefined moduleNameSet
  intro x hx
  obtain ⟨g, hg, hgx⟩ := exists_survivor hkey bal hx
  have hall : ∀ l' : List RouterItem, l'.Perm l → g ∈ mergeRouterList undefined bal moduleNameSet l' := by
    intro l' hp
    rw [h l' hp]
    exact hg
  obtain ⟨hgl, hchamp⟩ :=
    champion_of_always_survives hkey bal (routerItemCompare_irrefl undefined moduleNameSet) hall
  refine ⟨g, hgl, hgx, fun y hy hyx hne => ?_⟩
  obtain ⟨hyg, hgy⟩ := hchamp y hy (hyx.trans hgx.symm)
  exact ⟨hgy hne, hyg⟩

/-- **Exactly when the merge is right.** -/
theorem mergesRight_iff (l : List RouterItem) :
    MergesRight undefined bal moduleNameSet l ↔ EachNameHasFirst undefined moduleNameSet l := by
  constructor
  · intro h
    exact eachNameHasFirst_of_perm undefined bal moduleNameSet h.perm
  · exact mergesRight_of_eachNameHasFirst undefined bal moduleNameSet

end

/-- Two builds of one library, with a `-` inside the prerelease. -/
def rcItem (n : Char) : RouterItem where
  name := "page".toList
  ohmurl := "@normalized:N&&&lib/src/main/ets/Page&1.0.0-rc-".toList ++ [n]
  moduleName := "lib".toList

/-- Each of the two compares before the other, so the one that came last is kept. -/
theorem merge_depends_on_order : ¬ MergesRight (fun _ _ => 0) Balancer.still ∅ [rcItem '1', rcItem '2'] := by
  intro h
  have hperm := h.perm [rcItem '2', rcItem '1'] (List.Perm.swap _ _ _)
  have hurl := congrArg (List.map RouterItem.ohmurl) hperm
  revert hurl
  decide

/-! ## Well-formed versions -/

/-- Where an item stands among the items of its name; smaller is better. -/
def RouterItem.rank (moduleNameSet : StrSet) (item : RouterItem) :
    (List (ℕ ×ₗ ℕ ×ₗ ℕ ×ₗ Str))ᵒᵈ ×ₗ Bool ×ₗ Str :=
  toLex (OrderDual.toDual (versionRank item.version),
    toLex (!moduleNameSet.contains item.moduleName, item.moduleName))

section WellFormed

variable {undefined : Str → Str → Int}

theorem compareVersionOr_of_wellFormed {version1 version2 : Str} (h1 : (SemVer.ofString version1).WellFormed)
    (h2 : (SemVer.ofString version2).WellFormed) :
    compareVersionOr undefined version1 version2 = cmpSign (versionRank version1) (versionRank version2) := by
  unfold compareVersionOr
  rw [compareVersion_of_wellFormed h1 h2]
  rfl

theorem routerItemCompare_iff_rank {moduleNameSet : StrSet} {x y : RouterItem} (hname : x.name = y.name)
    (hx : (SemVer.ofString x.version).WellFormed) (hy : (SemVer.ofString y.version).WellFormed) :
    routerItemCompare undefined moduleNameSet x y = true ↔ x.rank moduleNameSet < y.rank moduleNameSet := by
  have hversion : compareVersionOr undefined x.version y.version = _ := compareVersionOr_of_wellFormed hx hy
  unfold routerItemCompare RouterItem.rank
  rw [if_neg (by simpa using hname), Prod.Lex.toLex_lt_toLex, Prod.Lex.toLex_lt_toLex]
  dsimp only
  rw [hversion]
  by_cases h0 : versionRank x.version = versionRank y.version
  · rw [if_neg (by rw [h0, cmpSign_self]; simp), h0]
    cases moduleNameSet.contains x.moduleName <;> cases moduleNameSet.contains y.moduleName <;> simp
  · rw [if_pos fun hzero => h0 (cmpSign_eq_zero_iff.mp hzero)]
    simp [h0, cmpSign_pos_iff]

/-- **Well-formed versions merge right**, if no two items of a name tie completely. -/
theorem mergesRight_of_wellFormed (undefined : Str → Str → Int) (bal : Balancer RouterItem) (moduleNameSet : StrSet)
    (l : List RouterItem) (hwf : ∀ x ∈ l, (SemVer.ofString x.version).WellFormed)
    (hties : ∀ x ∈ l, ∀ y ∈ l, x.name = y.name → compareVersion x.version y.version = some 0 →
      x.moduleName = y.moduleName → x = y) : MergesRight undefined bal moduleNameSet l := by
  classical
  refine mergesRight_of_eachNameHasFirst undefined bal moduleNameSet fun x hx => ?_
  -- the item of least rank among those of the name
  obtain ⟨g, hg, hmin⟩ := (l.toFinset.filter fun y => y.name = x.name).exists_min_image
    (RouterItem.rank moduleNameSet) ⟨x, by simp [hx]⟩
  obtain ⟨hgl, hgx⟩ : g ∈ l ∧ g.name = x.name := by simpa using hg
  refine ⟨g, hgl, hgx, fun y hy hyx hne => ?_⟩
  have hle : g.rank moduleNameSet ≤ y.rank moduleNameSet := hmin y (by simp [hy, hyx])
  have hrank : g.rank moduleNameSet ≠ y.rank moduleNameSet := by
    intro heq
    have hver := congrArg (fun r => (ofLex r).1) heq
    have hmod := congrArg (fun r => (ofLex (ofLex r).2).2) heq
    have h0 : compareVersion y.version g.version = some 0 := by
      rw [compareVersion_of_wellFormed (hwf y hy) (hwf g hgl), OrderDual.toDual.injective hver, cmpSign_self]
    exact hne (hties y hy g hgl (hyx.trans hgx.symm) h0 hmod.symm)
  constructor
  · rw [routerItemCompare_iff_rank (hgx.trans hyx.symm) (hwf g hgl) (hwf y hy)]
    exact lt_of_le_of_ne hle hrank
  · rw [← Bool.not_eq_true, routerItemCompare_iff_rank (hyx.trans hgx.symm) (hwf y hy) (hwf g hgl)]
    exact not_lt.mpr hle

end WellFormed

/-! ## The router map of a bundle -/

inductive ModuleType where
  | unknown
  | entry
  | feature
  | shared
  | skill
  deriving DecidableEq

structure HapModuleInfo where
  name : Str
  moduleType : ModuleType
  routerArray : List RouterItem

structure BundleInfo where
  name : Str
  hapModuleInfos : List HapModuleInfo
  routerArray : List RouterItem

/-- A module's items get the name of the bundle. -/
def HapModuleInfo.updateBundleName (bundleName : Str) (hapModuleInfo : HapModuleInfo) : HapModuleInfo :=
  { hapModuleInfo with
    routerArray := hapModuleInfo.routerArray.map fun routerItem =>
      if routerItem.bundleName ≠ bundleName then { routerItem with bundleName := bundleName }
      else routerItem }

/-- `MergeRouter(info, pluginRouterInfos)`; the result is `info`. -/
def mergeRouter (undefined : Str → Str → Int) (bal : Balancer RouterItem) (info : BundleInfo)
    (pluginRouterInfos : List RouterItem) : BundleInfo :=
  if info.hapModuleInfos.isEmpty then info
  else
    let entries := info.hapModuleInfos.filter fun hapModuleInfo =>
      hapModuleInfo.moduleType = .entry ∨ hapModuleInfo.moduleType = .feature
    let moduleNameSet : StrSet := Std.ExtTreeSet.ofList (entries.map HapModuleInfo.name)
    let hapModuleInfos := info.hapModuleInfos.map (HapModuleInfo.updateBundleName info.name)
    let own := hapModuleInfos.flatMap HapModuleInfo.routerArray
    let nameSet : StrSet := Std.ExtTreeSet.ofList (own.map RouterItem.name)
    let routerArrayList := own ++ pluginRouterInfos.filter fun item => !nameSet.contains item.name
    let info := { info with hapModuleInfos := hapModuleInfos }
    if routerArrayList.isEmpty then info
    else { info with routerArray := mergeRouterList undefined bal moduleNameSet routerArrayList }

/-- A route of a module of the bundle, under the bundle's name. -/
def OwnRoute (info : BundleInfo) (item : RouterItem) : Prop :=
  ∃ hapModuleInfo ∈ info.hapModuleInfos,
    item ∈ (hapModuleInfo.updateBundleName info.name).routerArray

theorem OwnRoute.bundleName_eq {info : BundleInfo} {item : RouterItem} (h : OwnRoute info item) :
    item.bundleName = info.name := by
  obtain ⟨hapModuleInfo, _, hitem⟩ := h
  obtain ⟨routerItem, _, rfl⟩ := List.mem_map.mp hitem
  split
  · rfl
  · next h => exact not_not.mp h

/-- **No plugin takes over a route of the bundle.**  What is kept for a name that one of the
modules routes is a route of a module. -/
theorem mergeRouter_own_route (undefined : Str → Str → Int) (bal : Balancer RouterItem) (info : BundleInfo)
    (pluginRouterInfos : List RouterItem) {own g : RouterItem} (hown : OwnRoute info own)
    (hg : g ∈ (mergeRouter undefined bal info pluginRouterInfos).routerArray) (hname : g.name = own.name) :
    OwnRoute info g ∧ g.bundleName = info.name := by
  suffices h : OwnRoute info g from ⟨h, h.bundleName_eq⟩
  obtain ⟨hapModuleInfo, hmod, hitem⟩ := hown
  unfold mergeRouter at hg
  rw [if_neg (by rw [List.isEmpty_iff]; exact List.ne_nil_of_mem hmod)] at hg
  dsimp only at hg
  have hlist : own ∈ (info.hapModuleInfos.map (HapModuleInfo.updateBundleName info.name)).flatMap
      HapModuleInfo.routerArray := by
    rw [List.mem_flatMap]
    exact ⟨_, List.mem_map_of_mem hmod, hitem⟩
  rw [if_neg (by rw [List.isEmpty_iff]; exact List.ne_nil_of_mem (List.mem_append_left _ hlist))] at hg
  rcases List.mem_append.mp (mem_of_mem_mergeRouterList _ _ _ hg) with hg | hg
  · obtain ⟨updated, hupdated, hg⟩ := List.mem_flatMap.mp hg
    obtain ⟨m, hm, rfl⟩ := List.mem_map.mp hupdated
    exact ⟨m, hm, hg⟩
  · -- a plugin item of this name is not in the list
    have hmem := (List.mem_filter.mp hg).2
    rw [hname, Std.ExtTreeSet.contains_ofList] at hmem
    simp [List.mem_map_of_mem hlist] at hmem

end BundleFramework
