import BundleFramework.Lib.KeyedBest
import BundleFramework.Permission.BundlePermissions

/-!
# The requested permissions of a bundle

`GetAllRequestPermissions` collects the requests of all modules that stay, and keeps one of
them for each permission name: `ShouldReplacePermission` compares two requests of a name.  A
request knows the name of its module only, so that the type of the module is looked up in a
map, where the first module of a name wins.

The rule decides for one order (`rank`), which makes the result a greatest request of each
name, in whatever order the modules are visited.
-/

namespace BundleFramework.Permission

/-! ## Algorithm -/

def MODULE_TYPE_ENTRY : Str := "entry".toList

/-- What is read of a module; `moduleType` is `distro.moduleType`. -/
structure InnerModuleInfo where
  moduleName : Str
  moduleType : Str
  needDelete : Bool := false
  bundlePermissions : BundlePermissions := {}

def InnerModuleInfo.requests (info : InnerModuleInfo) (pool : PermissionStringPool) : List RequestPermission :=
  toRequestPermissions pool info.bundlePermissions info.moduleName

def shouldReplacePermission (moduleNameTypeMap : StrMap Str) (oldPermission newPermission : RequestPermission) : Bool :=
  if oldPermission.name ≠ newPermission.name then false
  else
    let oldType := (moduleNameTypeMap[oldPermission.moduleName]?).getD []
    let newType := (moduleNameTypeMap[newPermission.moduleName]?).getD []
    if oldPermission.reasonId = 0 then
      if newPermission.reasonId ≠ 0 then true
      else if newType = MODULE_TYPE_ENTRY then true
      else false
    else if newPermission.reasonId ≠ 0 then
      if oldType ≠ MODULE_TYPE_ENTRY then
        newType = MODULE_TYPE_ENTRY || newPermission.reasonId > oldPermission.reasonId
      else newType = MODULE_TYPE_ENTRY && newPermission.reasonId > oldPermission.reasonId
    else false

def innerProcessRequestPermissions (moduleNameMap : StrMap Str) (requestPermissions : List RequestPermission) :
    List RequestPermission :=
  let permissionMap : StrMap RequestPermission :=
    requestPermissions.foldl (KeyedBest.keep (·.name) (shouldReplacePermission moduleNameMap)) ∅
  permissionMap.toList.map (·.2)

/-- One request of a module. -/
def collectItem (moduleType : Str) (acc : StrMap Str × List RequestPermission) (item : RequestPermission) :
    StrMap Str × List RequestPermission :=
  (acc.1.insertIfNew item.moduleName moduleType, acc.2 ++ [item])

/-- One module. -/
def collectModule (pool : PermissionStringPool) (acc : StrMap Str × List RequestPermission) (info : InnerModuleInfo) :
    StrMap Str × List RequestPermission :=
  if info.needDelete then acc else (info.requests pool).foldl (collectItem info.moduleType) acc

/-- The modules are given in the order in which the loop visits them. -/
def getAllRequestPermissions (pool : PermissionStringPool) (innerModuleInfos : List InnerModuleInfo) :
    List RequestPermission :=
  let collected := innerModuleInfos.foldl (collectModule pool) (∅, [])
  if collected.2.isEmpty then collected.2 else innerProcessRequestPermissions collected.1 collected.2

/-! ## The order of the requests -/

/-- A reason first, then the entry module, then the larger reason. -/
def rankOf (moduleType : Str) (p : RequestPermission) : Bool ×ₗ Bool ×ₗ Nat :=
  toLex (decide (p.reasonId ≠ 0), toLex (decide (moduleType = MODULE_TYPE_ENTRY), p.reasonId.toNat))

def rank (info : InnerModuleInfo) (p : RequestPermission) : Bool ×ₗ Bool ×ₗ Nat := rankOf info.moduleType p

/-- `p` is requested by `info`, a module that stays. -/
structure Requested (pool : PermissionStringPool) (innerModuleInfos : List InnerModuleInfo) (info : InnerModuleInfo)
    (p : RequestPermission) : Prop where
  mem : info ∈ innerModuleInfos
  stays : info.needDelete = false
  request : p ∈ info.requests pool

/-- Modules that stay and have one name have one type.  The installer sees to it that no two
modules of a bundle have one name (`CheckModuleNameForMulitHaps`, `IsContainModuleName`). -/
def NameFixesType (innerModuleInfos : List InnerModuleInfo) : Prop :=
  ∀ a ∈ innerModuleInfos, ∀ b ∈ innerModuleInfos, a.needDelete = false → b.needDelete = false →
    a.moduleName = b.moduleName → a.moduleType = b.moduleType

theorem rankOf_le_iff (t t' : Str) (p p' : RequestPermission) :
    rankOf t p ≤ rankOf t' p' ↔
      (p.reasonId = 0 ∧ p'.reasonId ≠ 0) ∨
      (p.reasonId = 0 ∧ p'.reasonId = 0 ∧ (t = MODULE_TYPE_ENTRY → t' = MODULE_TYPE_ENTRY)) ∨
      (p.reasonId ≠ 0 ∧ p'.reasonId ≠ 0 ∧ t ≠ MODULE_TYPE_ENTRY ∧ t' = MODULE_TYPE_ENTRY) ∨
      (p.reasonId ≠ 0 ∧ p'.reasonId ≠ 0 ∧ (t = MODULE_TYPE_ENTRY ↔ t' = MODULE_TYPE_ENTRY) ∧
        p.reasonId ≤ p'.reasonId) := by
  unfold rankOf
  rw [Prod.Lex.toLex_le_toLex, Prod.Lex.toLex_le_toLex]
  by_cases h : p.reasonId = 0 <;> by_cases h' : p'.reasonId = 0 <;> by_cases ht : t = MODULE_TYPE_ENTRY <;>
    by_cases ht' : t' = MODULE_TYPE_ENTRY <;> simp [h, h', ht, ht', UInt32.le_iff_toNat_le]

/-- **The rule decides for the order**, with the types of the map. -/
theorem shouldReplacePermission_decides (types : StrMap Str) :
    KeyedBest.Decides (·.name) (shouldReplacePermission types)
      fun p p' => rankOf ((types[p.moduleName]?).getD []) p ≤ rankOf ((types[p'.moduleName]?).getD []) p' where
  refl := fun p => le_refl _
  trans := fun p q r => le_trans
  replaced := by
    intro old new hname h
    rw [rankOf_le_iff]
    unfold shouldReplacePermission at h
    rw [if_neg (not_not.mpr hname)] at h
    generalize (types[old.moduleName]?).getD [] = oldType at h ⊢
    generalize (types[new.moduleName]?).getD [] = newType at h ⊢
    by_cases hold : old.reasonId = 0 <;> by_cases hnew : new.reasonId = 0 <;>
      by_cases hoType : oldType = MODULE_TYPE_ENTRY <;> by_cases hnType : newType = MODULE_TYPE_ENTRY <;>
      simp_all [UInt32.le_iff_toNat_le, UInt32.lt_iff_toNat_lt] <;> omega
  kept := by
    intro old new hname h
    rw [rankOf_le_iff]
    unfold shouldReplacePermission at h
    rw [if_neg (not_not.mpr hname)] at h
    generalize (types[old.moduleName]?).getD [] = oldType at h ⊢
    generalize (types[new.moduleName]?).getD [] = newType at h ⊢
    by_cases hold : old.reasonId = 0 <;> by_cases hnew : new.reasonId = 0 <;>
      by_cases hoType : oldType = MODULE_TYPE_ENTRY <;> by_cases hnType : newType = MODULE_TYPE_ENTRY <;>
      simp_all [UInt32.le_iff_toNat_le, UInt32.lt_iff_toNat_lt]

/-! ## What is collected -/

theorem moduleName_of_mem_requests {pool : PermissionStringPool} {info : InnerModuleInfo} {p : RequestPermission}
    (h : p ∈ info.requests pool) : p.moduleName = info.moduleName := by
  have hcomplex : ∀ (names : List Str) (cs : List ComplexPermission) (i : Nat),
      ∀ q ∈ complexRequests names info.moduleName cs i, q.moduleName = info.moduleName := by
    intro names cs
    induction cs with
    | nil =>
      intro i q hq
      cases hq
    | cons c cs ih =>
      intro i q hq
      rcases List.mem_cons.mp hq with rfl | hq
      · rfl
      · exact ih (i + 1) q hq
  unfold InnerModuleInfo.requests toRequestPermissions at h
  rcases List.mem_append.mp h with h | h
  · obtain ⟨i, -, rfl⟩ := List.mem_map.mp h
    rfl
  · exact hcomplex _ _ _ p h

/-- The requests of the modules that stay. -/
def allRequests (pool : PermissionStringPool) (infos : List InnerModuleInfo) : List RequestPermission :=
  (infos.filter fun info => !info.needDelete).flatMap fun info => info.requests pool

theorem mem_allRequests {pool : PermissionStringPool} {infos : List InnerModuleInfo} {p : RequestPermission} :
    p ∈ allRequests pool infos ↔ ∃ info, Requested pool infos info p := by
  unfold allRequests
  rw [List.mem_flatMap]
  constructor
  · rintro ⟨info, hinfo, hp⟩
    rw [List.mem_filter, Bool.not_eq_true'] at hinfo
    exact ⟨info, hinfo.1, hinfo.2, hp⟩
  · rintro ⟨info, hmem, hstays, hp⟩
    exact ⟨info, List.mem_filter.mpr ⟨hmem, by simp [hstays]⟩, hp⟩

theorem allRequests_append (pool : PermissionStringPool) (infos : List InnerModuleInfo) (info : InnerModuleInfo) :
    allRequests pool (infos ++ [info]) =
      allRequests pool infos ++ if info.needDelete then [] else info.requests pool := by
  unfold allRequests
  rw [List.filter_append, List.flatMap_append]
  cases h : info.needDelete <;> simp [h]

theorem insertIfNew_twice (m : StrMap Str) (name type : Str) :
    (m.insertIfNew name type).insertIfNew name type = m.insertIfNew name type := by
  refine Std.ExtTreeMap.ext_getElem? fun k => ?_
  rw [MapLoop.getElem?_insertIfNew_eq]
  split
  · next hk =>
    rw [hk, MapLoop.getElem?_insertIfNew_eq, if_pos rfl, Option.getD_some]
  · rfl

/-- All requests of a module give the same name and the same type. -/
theorem foldl_collectItem {name type : Str} (items : List RequestPermission) (hitems : ∀ p ∈ items, p.moduleName = name)
    (acc : StrMap Str × List RequestPermission) :
    items.foldl (collectItem type) acc =
      (if items = [] then acc.1 else acc.1.insertIfNew name type, acc.2 ++ items) := by
  induction items generalizing acc with
  | nil => simp
  | cons item items ih =>
    rw [List.foldl_cons, ih fun p hp => hitems p (List.mem_cons_of_mem _ hp)]
    simp only [collectItem, hitems item List.mem_cons_self, insertIfNew_twice, ite_self,
      if_neg (List.cons_ne_nil item items), List.append_assoc, List.singleton_append]

/-- What the loop has collected: each request, and for the name of its module the type of some
module of that name. -/
structure Collected (pool : PermissionStringPool) (infos : List InnerModuleInfo)
    (acc : StrMap Str × List RequestPermission) : Prop where
  requests : acc.2 = allRequests pool infos
  type : ∀ {name type : Str}, acc.1[name]? = some type →
    ∃ info ∈ infos, info.needDelete = false ∧ info.moduleName = name ∧ info.moduleType = type
  typed : ∀ p ∈ acc.2, ∃ type, acc.1[p.moduleName]? = some type

theorem Collected.module {pool : PermissionStringPool} {infos : List InnerModuleInfo}
    {acc : StrMap Str × List RequestPermission} (h : Collected pool infos acc) (info : InnerModuleInfo) :
    Collected pool (infos ++ [info]) (collectModule pool acc info) := by
  unfold collectModule
  split
  · next hdelete =>
    refine ⟨?_, ?_, h.typed⟩
    · rw [allRequests_append, if_pos hdelete, List.append_nil]
      exact h.requests
    · intro name type hname
      obtain ⟨i, hi, hrest⟩ := h.type hname
      exact ⟨i, List.mem_append_left _ hi, hrest⟩
  · next hdelete =>
    have hstays : info.needDelete = false := by simpa using hdelete
    rw [foldl_collectItem _ fun p => moduleName_of_mem_requests]
    refine ⟨?_, ?_, ?_⟩
    · rw [allRequests_append, if_neg hdelete, h.requests]
    · intro name type hname
      have hcases : acc.1[name]? = some type ∨ name = info.moduleName ∧ type = info.moduleType := by
        split at hname
        · exact .inl hname
        · rw [MapLoop.getElem?_insertIfNew_eq] at hname
          split at hname
          · next e =>
            rw [← e] at hname
            cases hacc : acc.1[name]? with
            | none => exact .inr ⟨e, by simpa [hacc] using hname.symm⟩
            | some t => exact .inl (by simpa [hacc] using hname)
          · exact .inl hname
      rcases hcases with hacc | ⟨rfl, rfl⟩
      · obtain ⟨i, hi, hrest⟩ := h.type hacc
        exact ⟨i, List.mem_append_left _ hi, hrest⟩
      · exact ⟨info, by simp, hstays, rfl, rfl⟩
    · intro p hp
      rcases List.mem_append.mp hp with hp | hp
      · obtain ⟨t, ht⟩ := h.typed p hp
        split
        · exact ⟨t, ht⟩
        · rw [MapLoop.getElem?_insertIfNew_eq]
          split
          · exact ⟨_, rfl⟩
          · exact ⟨t, ht⟩
      · rw [if_neg (List.ne_nil_of_mem hp), moduleName_of_mem_requests hp, MapLoop.getElem?_insertIfNew_eq,
          if_pos rfl]
        exact ⟨_, rfl⟩

/-- **The whole loop.** -/
theorem collected (pool : PermissionStringPool) (infos : List InnerModuleInfo) :
    Collected pool infos (infos.foldl (collectModule pool) (∅, [])) := by
  induction infos using List.reverseRecOn with
  | nil => exact ⟨rfl, fun h => by simp at h, fun p hp => by cases hp⟩
  | append_singleton infos info ih =>
    rw [List.foldl_append]
    exact ih.module info

/-- Where a name has one type, the map has the type of the module of a request. -/
theorem Collected.typeOf {pool : PermissionStringPool} {infos : List InnerModuleInfo}
    {acc : StrMap Str × List RequestPermission} (h : Collected pool infos acc) (hfix : NameFixesType infos)
    {info : InnerModuleInfo} {p : RequestPermission} (hp : Requested pool infos info p) :
    (acc.1[p.moduleName]?).getD [] = info.moduleType := by
  have hmem : p ∈ acc.2 := by
    rw [h.requests, mem_allRequests]
    exact ⟨info, hp⟩
  obtain ⟨type, htype⟩ := h.typed p hmem
  obtain ⟨other, hother, hstays, hname, rfl⟩ := h.type htype
  rw [htype, Option.getD_some]
  exact hfix other hother info hp.mem hstays hp.stays (hname.trans (moduleName_of_mem_requests hp.request))

/-! ## The result -/

/-- `result` is in the order of the names and has a greatest request for each name. -/
structure BestRequests (pool : PermissionStringPool) (infos : List InnerModuleInfo) (result : List RequestPermission) :
    Prop where
  ascending : result.Pairwise fun p q => compare p.name q.name = .lt
  names : ∀ name, (∃ p ∈ result, p.name = name) ↔ ∃ info p, Requested pool infos info p ∧ p.name = name
  requested : ∀ p ∈ result, ∃ info, Requested pool infos info p
  greatest : NameFixesType infos → ∀ p ∈ result, ∀ info, Requested pool infos info p →
    ∀ info' p', Requested pool infos info' p' → p'.name = p.name → rank info' p' ≤ rank info p

/-- An empty list is not processed, with the same result. -/
theorem getAllRequestPermissions_eq (pool : PermissionStringPool) (infos : List InnerModuleInfo) :
    getAllRequestPermissions pool infos =
      innerProcessRequestPermissions (infos.foldl (collectModule pool) (∅, [])).1 (allRequests pool infos) := by
  unfold getAllRequestPermissions
  dsimp only
  rw [(collected pool infos).requests]
  split
  · next hempty =>
    rw [List.isEmpty_iff] at hempty
    rw [hempty]
    rfl
  · rfl

theorem mem_innerProcessRequestPermissions {types : StrMap Str} {items : List RequestPermission} {p : RequestPermission} :
    p ∈ innerProcessRequestPermissions types items ↔
      ∃ name : Str, (items.foldl (KeyedBest.keep (·.name) (shouldReplacePermission types)) ∅)[name]? = some p := by
  unfold innerProcessRequestPermissions
  rw [List.mem_map]
  constructor
  · rintro ⟨⟨name, q⟩, hmem, rfl⟩
    exact ⟨name, Std.ExtTreeMap.mem_toList_iff_getElem?_eq_some.mp hmem⟩
  · rintro ⟨name, hname⟩
    exact ⟨(name, p), Std.ExtTreeMap.mem_toList_iff_getElem?_eq_some.mpr hname, rfl⟩

theorem innerProcessRequestPermissions_ascending (types : StrMap Str) (items : List RequestPermission) :
    (innerProcessRequestPermissions types items).Pairwise fun p q => compare p.name q.name = .lt := by
  have hbest := KeyedBest.best_foldl (shouldReplacePermission_decides types) items
  unfold innerProcessRequestPermissions
  rw [List.pairwise_map]
  refine (Std.ExtTreeMap.ordered_keys_toList).imp_of_mem ?_
  rintro ⟨name, p⟩ ⟨name', p'⟩ hmem hmem' hlt
  -- a request is stored under its own name
  rw [Std.ExtTreeMap.mem_toList_iff_getElem?_eq_some] at hmem hmem'
  rw [(hbest.mem hmem).2, (hbest.mem hmem').2]
  exact hlt

/-- **The merge picks a best request for each name**, in whatever order it visits the modules. -/
theorem getAllRequestPermissions_best (pool : PermissionStringPool) (innerModuleInfos visited : List InnerModuleInfo)
    (hvisited : visited.Perm innerModuleInfos) :
    BestRequests pool innerModuleInfos (getAllRequestPermissions pool visited) := by
  have hcollected := collected pool visited
  have hbest := KeyedBest.best_foldl
    (shouldReplacePermission_decides (visited.foldl (collectModule pool) (∅, [])).1) (allRequests pool visited)
  have hrequested : ∀ info p, Requested pool visited info p ↔ Requested pool innerModuleInfos info p := by
    intro info p
    constructor
    · rintro ⟨hmem, hstays, hp⟩
      exact ⟨hvisited.mem_iff.mp hmem, hstays, hp⟩
    · rintro ⟨hmem, hstays, hp⟩
      exact ⟨hvisited.mem_iff.mpr hmem, hstays, hp⟩
  rw [getAllRequestPermissions_eq]
  refine ⟨innerProcessRequestPermissions_ascending _ _, fun name => ?_, fun p hp => ?_, fun hfix p hp info hinfo => ?_⟩
  · constructor
    · rintro ⟨p, hp, rfl⟩
      obtain ⟨name, hname⟩ := mem_innerProcessRequestPermissions.mp hp
      obtain ⟨info, hinfo⟩ := mem_allRequests.mp (hbest.mem hname).1
      exact ⟨info, p, (hrequested info p).mp hinfo, rfl⟩
    · rintro ⟨info, p, hp, rfl⟩
      obtain ⟨q, hq⟩ := hbest.found p (mem_allRequests.mpr ⟨info, (hrequested info p).mpr hp⟩)
      exact ⟨q, mem_innerProcessRequestPermissions.mpr ⟨_, hq⟩, (hbest.mem hq).2⟩
  · obtain ⟨name, hname⟩ := mem_innerProcessRequestPermissions.mp hp
    obtain ⟨info, hinfo⟩ := mem_allRequests.mp (hbest.mem hname).1
    exact ⟨info, (hrequested info p).mp hinfo⟩
  · intro info' p' hinfo' hname
    obtain ⟨name, hkept⟩ := mem_innerProcessRequestPermissions.mp hp
    have hfixVisited : NameFixesType visited := fun a ha b hb =>
      hfix a (hvisited.mem_iff.mp ha) b (hvisited.mem_iff.mp hb)
    have hvis := (hrequested info p).mpr hinfo
    have hvis' := (hrequested info' p').mpr hinfo'
    have hle := hbest.max hkept p' (mem_allRequests.mpr ⟨info', hvis'⟩) (hname.trans (hbest.mem hkept).2)
    rw [hcollected.typeOf hfixVisited hvis, hcollected.typeOf hfixVisited hvis'] at hle
    exact hle

/-- Two modules, each with one permission of the same name; the entry module has the smaller reason. -/
def cameraModules : List InnerModuleInfo :=
  [{ moduleName := "feature".toList, moduleType := "feature".toList,
     bundlePermissions := { complexPermissions := [{ nameIdx := 0, reasonId := 7 }] } },
   { moduleName := "main".toList, moduleType := MODULE_TYPE_ENTRY,
     bundlePermissions := { simplePermissions := [1], complexPermissions := [{ nameIdx := 0, reasonId := 3 }] } }]

def cameraPool : PermissionStringPool :=
  PermissionStringPool.run {} [.getOrAddIndex "CAMERA".toList, .getOrAddIndex "AUDIO".toList]

theorem getAllRequestPermissions_best_camera :
    cameraModules.reverse.Perm cameraModules ∧ NameFixesType cameraModules ∧
    getAllRequestPermissions cameraPool cameraModules.reverse =
      [{ name := "AUDIO".toList, moduleName := "main".toList },
       { name := "CAMERA".toList, moduleName := "main".toList, reasonId := 3 }] ∧
    BestRequests cameraPool cameraModules (getAllRequestPermissions cameraPool cameraModules.reverse) :=
  ⟨List.reverse_perm _, by unfold NameFixesType; decide, by decide +kernel,
    getAllRequestPermissions_best cameraPool cameraModules _ (List.reverse_perm _)⟩

end BundleFramework.Permission
