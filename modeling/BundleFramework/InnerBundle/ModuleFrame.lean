import BundleFramework.InnerBundle.Modules
import BundleFramework.Lib.StepRun

/-!
# Removing and updating one module

In every info that a run of `AddModuleInfo`, `UpdateModuleInfo` and `RemoveModuleInfo` with
the infos of single modules builds, each element lies where the removal of its own module
looks for it (`Findable`).  So a removal leaves nothing behind, and

    it removes exactly what belongs to the module
      ↔ no element of another module lies there too                  (remove_frame_iff)

It does where the key of a shortcut or common event has `.m.` somewhere else (in the bundle
name, in another package, in the name), and where two packages with dots make one key.

An update is a removal followed by inserts that keep what is there, for any info:

    the module is replaced and nothing else
      ↔ the same, and no key of the new module is taken              (update_frame_iff)
-/

namespace BundleFramework.InnerBundle

open Std

variable {V : Type} {b : Str}

/-! ## Runs -/

inductive Op (b : Str) (V : Type) where
  | addModuleInfo (newInfo : SingleModule b V)
  | updateModuleInfo (newInfo : SingleModule b V)
  | removeModuleInfo (modulePackage : Str)

def step (info : InnerBundleInfo V) : Op b V → InnerBundleInfo V
  | .addModuleInfo newInfo => (info.addModuleInfo newInfo.toInnerBundleInfo).2
  | .updateModuleInfo newInfo => info.updateModuleInfo newInfo.toInnerBundleInfo
  | .removeModuleInfo modulePackage => info.removeModuleInfo modulePackage

def run (ops : List (Op b V)) : InnerBundleInfo V := ops.foldl step {}

/-! ## Where the elements lie -/

/-- Every element lies where the removal of its module looks. -/
def Findable (info : InnerBundleInfo V) : Prop :=
  ∀ (kind : Kind) (k : Str) (e : Element V), (info.table kind)[k]? = some e → Removed info e.package kind k

theorem moduleKey_infix_elementKey (modulePackage name : Str) :
    moduleKey modulePackage <:+: elementKey b modulePackage name := by
  refine ⟨b, name, ?_⟩
  simp [moduleKey, elementKey]

/-- The keys that a removal takes, in a larger info with the same record. -/
theorem Removed.mono {info info' : InnerBundleInfo V} {m : Str} {kind : Kind} {k : Str} (h : Removed info m kind k)
    (hrecord : ∀ record, info.innerModuleInfos[m]? = some record → info'.innerModuleInfos[m]? = some record)
    (hability : kind = .form → k ∈ info.baseAbilityInfos → k ∈ info'.baseAbilityInfos) : Removed info' m kind k := by
  cases kind with
  | form =>
    obtain ⟨record, hr, hk, hin⟩ := h
    exact ⟨record, hrecord record hr, hk, hability rfl hin⟩
  | ability =>
    obtain ⟨record, hr, hk⟩ := h
    exact ⟨record, hrecord record hr, hk⟩
  | extension =>
    obtain ⟨record, hr, hk⟩ := h
    exact ⟨record, hrecord record hr, hk⟩
  | shortcut =>
    obtain ⟨record, hr, hk⟩ := h
    exact ⟨record, hrecord record hr, hk⟩
  | commonEvent =>
    obtain ⟨record, hr, hk⟩ := h
    exact ⟨record, hrecord record hr, hk⟩

theorem mem_of_get {α : Type} {m : StrMap α} {k : Str} {v : α} (h : m[k]? = some v) : k ∈ m := by
  rw [ExtTreeMap.mem_iff_isSome_getElem?, h]
  rfl

/-- The elements of a single module lie where its removal looks. -/
theorem SingleModule.removed (new : SingleModule b V) {info : InnerBundleInfo V}
    (hrecord : info.innerModuleInfos[new.currentPackage]? = some new.record)
    (hability : ∀ k, k ∈ new.baseAbilityInfos → k ∈ info.baseAbilityInfos) {kind : Kind} {k : Str} {e : Element V}
    (he : (new.table kind)[k]? = some e) : Removed info new.currentPackage kind k := by
  obtain ⟨name, hkey⟩ := new.key kind k e he
  cases kind with
  | ability => exact ⟨new.record, hrecord, (new.abilityKeys k).mpr (mem_of_get he)⟩
  | extension => exact ⟨new.record, hrecord, (new.extensionKeys k).mpr (mem_of_get he)⟩
  | form =>
    have hin := new.forms k (mem_of_get he)
    exact ⟨new.record, hrecord, (new.abilityKeys k).mpr hin, hability k hin⟩
  | shortcut => exact ⟨new.record, hrecord, hkey ▸ moduleKey_infix_elementKey new.currentPackage name⟩
  | commonEvent => exact ⟨new.record, hrecord, hkey ▸ moduleKey_infix_elementKey new.currentPackage name⟩

theorem Findable.addModuleTables {info : InnerBundleInfo V} (h : Findable info) (new : SingleModule b V)
    (hnew : info.innerModuleInfos[new.currentPackage]? = none) :
    Findable (info.addModuleTables new.toInnerBundleInfo) := by
  intro kind k e he
  have hability : ∀ k, k ∈ info.baseAbilityInfos ∨ k ∈ new.baseAbilityInfos →
      k ∈ (info.addModuleTables new.toInnerBundleInfo).baseAbilityInfos := by
    intro k hk
    rw [ExtTreeMap.mem_iff_isSome_getElem?, ExtTreeMap.mem_iff_isSome_getElem?] at hk
    rw [ExtTreeMap.mem_iff_isSome_getElem?]
    have hget := addModuleTables_get info new.toInnerBundleInfo .ability k
    change (info.addModuleTables new.toInnerBundleInfo).baseAbilityInfos[k]? = _ at hget
    rw [hget, Option.isSome_or, Bool.or_eq_true]
    exact hk
  rw [addModuleTables_get] at he
  cases hold : (info.table kind)[k]? with
  | some e' =>
    -- an element that was there: its record stays
    rw [hold, Option.some_or] at he
    cases he
    refine (h kind k e hold).mono (fun record hr => ?_) fun _ hk => hability k (Or.inl hk)
    rw [addModuleTables_modules, hr, Option.some_or]
  | none =>
    rw [hold, Option.none_or] at he
    rw [new.package kind k e he]
    refine new.removed ?_ (fun k hk => hability k (Or.inr hk)) he
    rw [addModuleTables_modules, hnew, new.modules, if_pos rfl, Option.none_or]

theorem Findable.removeModuleInfo {info : InnerBundleInfo V} (h : Findable info) (m : Str) :
    Findable (info.removeModuleInfo m) := by
  intro kind k e he
  obtain ⟨hold, hstay⟩ := (removeModuleInfo_get info m kind k e).mp he
  have hfind := h kind k e hold
  have hne : e.package ≠ m := fun heq => hstay (heq ▸ hfind)
  refine hfind.mono (fun record hr => ?_) fun hkind hin => ?_
  · rw [removeModuleInfo_modules, if_neg hne]
    exact hr
  · -- the ability at the key of a form that stays is not removed either
    subst hkind
    obtain ⟨a, ha⟩ := Option.isSome_iff_exists.mp (ExtTreeMap.mem_iff_isSome_getElem?.mp hin)
    refine mem_of_get ((removeModuleInfo_get info m .ability k a).mpr ⟨ha, ?_⟩)
    rintro ⟨record, hr, hk⟩
    exact hstay ⟨record, hr, hk, hin⟩

/-- **One operation** leaves every element findable. -/
theorem Findable.step {info : InnerBundleInfo V} (h : Findable info) (op : Op b V) : Findable (step info op) := by
  cases op with
  | addModuleInfo new =>
    show Findable (info.addModuleInfo new.toInnerBundleInfo).2
    unfold InnerBundleInfo.addModuleInfo
    rw [if_neg new.package_ne]
    split
    · exact h
    · next hno =>
      refine h.addModuleTables new ?_
      cases hm : info.innerModuleInfos[new.currentPackage]? with
      | none => rfl
      | some record => exact absurd (ExtTreeMap.mem_iff_contains.mp (mem_of_get hm)) hno
  | updateModuleInfo new =>
    show Findable (info.updateModuleInfo new.toInnerBundleInfo)
    unfold InnerBundleInfo.updateModuleInfo
    rw [if_neg new.package_ne]
    refine (h.removeModuleInfo new.currentPackage).addModuleTables new ?_
    rw [removeModuleInfo_modules, if_pos rfl]
  | removeModuleInfo m => exact h.removeModuleInfo m

theorem findable_run (ops : List (Op b V)) : Findable (run ops) := by
  have hstart : Findable ({} : InnerBundleInfo V) := by
    intro kind k e he
    have hempty : (({} : InnerBundleInfo V).table kind)[k]? = none := by
      cases kind <;> exact ExtTreeMap.getElem?_empty
    rw [hempty] at he
    cases he
  have hstep : ∀ info (op : Op b V), Findable info → True → Findable (InnerBundle.step info op) :=
    fun _ op h _ => h.step op
  exact ((StepRun.each_of_forall (fun _ _ => trivial) _).always hstep hstart).last

/-! ## Removing -/

/-- The record and the elements of the module go, and nothing else. -/
structure RemovesExactly (m : Str) (info info' : InnerBundleInfo V) : Prop where
  modules : ∀ p : Str, info'.innerModuleInfos[p]? = if p = m then none else info.innerModuleInfos[p]?
  elements : ∀ (kind : Kind) (k : Str) (e : Element V),
    (info'.table kind)[k]? = some e ↔ (info.table kind)[k]? = some e ∧ e.package ≠ m

/-- No element of another module lies under a key that the removal takes. -/
def SparesOthers (m : Str) (info : InnerBundleInfo V) : Prop :=
  ∀ (kind : Kind) (k : Str) (e : Element V), (info.table kind)[k]? = some e → e.package ≠ m →
    ¬ Removed info m kind k

/-- **Removing a module, exactly**: in every info that a run builds, the removal of an
installed module touches that module only, just when no other element lies under its keys. -/
theorem remove_frame_iff (ops : List (Op b V)) (m : Str) :
    RemovesExactly m (run ops) ((run ops).removeModuleInfo m) ↔ SparesOthers m (run ops) := by
  have hfind := findable_run ops
  constructor
  · intro h kind k e he hne
    exact ((removeModuleInfo_get _ m kind k e).mp ((h.elements kind k e).mpr ⟨he, hne⟩)).2
  · intro h
    refine ⟨removeModuleInfo_modules (run ops) m, fun kind k e => ?_⟩
    rw [removeModuleInfo_get]
    constructor
    · rintro ⟨he, hstay⟩
      exact ⟨he, fun heq => hstay (heq ▸ hfind kind k e he)⟩
    · rintro ⟨he, hne⟩
      exact ⟨he, h kind k e he hne⟩

/-! ## Updating -/

/-- The record and the elements of the module are those of the new info, all others are as
before. -/
structure ReplacesExactly (new info info' : InnerBundleInfo V) : Prop where
  modules : ∀ p : Str, info'.innerModuleInfos[p]? =
    if p = new.currentPackage then new.innerModuleInfos[p]? else info.innerModuleInfos[p]?
  ofModule : ∀ (kind : Kind) (k : Str) (e : Element V), e.package = new.currentPackage →
    ((info'.table kind)[k]? = some e ↔ (new.table kind)[k]? = some e)
  ofOthers : ∀ (kind : Kind) (k : Str) (e : Element V), e.package ≠ new.currentPackage →
    ((info'.table kind)[k]? = some e ↔ (info.table kind)[k]? = some e)

/-- An element of another module lies under no key that the removal takes and under no key
of the new info. -/
def KeepsOthers (new info : InnerBundleInfo V) : Prop :=
  ∀ (kind : Kind) (k : Str) (e : Element V), (info.table kind)[k]? = some e → e.package ≠ new.currentPackage →
    ¬ Removed info new.currentPackage kind k ∧ (new.table kind)[k]? = none

/-- An element of the module lies under a key that the removal takes, or is one of the new
info as it is. -/
def LeavesNothing (new info : InnerBundleInfo V) : Prop :=
  ∀ (kind : Kind) (k : Str) (e : Element V), (info.table kind)[k]? = some e → e.package = new.currentPackage →
    Removed info new.currentPackage kind k ∨ (new.table kind)[k]? = some e

/-- An entry after an update: one that stayed, or one of the new info at a free key. -/
theorem updateModuleInfo_get (new : SingleModule b V) (info : InnerBundleInfo V) (kind : Kind) (k : Str)
    (e : Element V) :
    ((info.updateModuleInfo new.toInnerBundleInfo).table kind)[k]? = some e ↔
      ((info.table kind)[k]? = some e ∧ ¬ Removed info new.currentPackage kind k) ∨
      (((info.table kind)[k]? = none ∨ Removed info new.currentPackage kind k) ∧ (new.table kind)[k]? = some e) := by
  have hget := removeModuleInfo_get info new.currentPackage kind k
  unfold InnerBundleInfo.updateModuleInfo
  rw [if_neg new.package_ne, addModuleTables_get]
  cases hrem : ((info.removeModuleInfo new.currentPackage).table kind)[k]? with
  | some w =>
    obtain ⟨hw, hstay⟩ := (hget w).mp hrem
    rw [Option.some_or, hw]
    simp [hstay]
  | none =>
    rw [Option.none_or]
    have hfree : (info.table kind)[k]? = none ∨ Removed info new.currentPackage kind k := by
      by_contra hcon
      push Not at hcon
      obtain ⟨w, hw⟩ := Option.ne_none_iff_exists'.mp hcon.1
      rw [(hget w).mpr ⟨hw, hcon.2⟩] at hrem
      cases hrem
    have hnot : ¬ ((info.table kind)[k]? = some e ∧ ¬ Removed info new.currentPackage kind k) := by
      intro hcon
      rw [(hget e).mpr hcon] at hrem
      cases hrem
    exact ⟨fun he => Or.inr ⟨hfree, he⟩, fun h => h.elim (fun hold => absurd hold hnot) And.right⟩

/-- **Updating a module, exactly**: for every info and every info of a single module. -/
theorem update_frame_iff (info : InnerBundleInfo V) (new : SingleModule b V) :
    ReplacesExactly new.toInnerBundleInfo info (info.updateModuleInfo new.toInnerBundleInfo) ↔
      KeepsOthers new.toInnerBundleInfo info ∧ LeavesNothing new.toInnerBundleInfo info := by
  have hget := updateModuleInfo_get new info
  constructor
  · intro h
    refine ⟨fun kind k e he hne => ?_, fun kind k e he heq => ?_⟩
    · have hafter := (h.ofOthers kind k e hne).mpr he
      have hstay : ¬ Removed info new.currentPackage kind k := by
        intro hrem
        rcases (hget kind k e).mp hafter with hold | hnew
        · exact hold.2 hrem
        · exact hne (new.package kind k e hnew.2)
      refine ⟨hstay, ?_⟩
      by_contra hcon
      obtain ⟨e', he'⟩ := Option.ne_none_iff_exists'.mp hcon
      have hmod := (h.ofModule kind k e' (new.package kind k e' he')).mpr he'
      rw [hafter] at hmod
      cases hmod
      exact hne (new.package kind k e he')
    · by_cases hrem : Removed info new.currentPackage kind k
      · exact Or.inl hrem
      · exact Or.inr ((h.ofModule kind k e heq).mp ((hget kind k e).mpr (Or.inl ⟨he, hrem⟩)))
  · rintro ⟨hothers, hnothing⟩
    refine ⟨fun p => ?_, fun kind k e heq => ?_, fun kind k e hne => ?_⟩
    · unfold InnerBundleInfo.updateModuleInfo
      rw [if_neg new.package_ne, addModuleTables_modules, removeModuleInfo_modules, new.modules]
      split
      · rw [Option.none_or]
      · rw [Option.or_none]
    · rw [hget]
      constructor
      · rintro (⟨he, hstay⟩ | ⟨-, he⟩)
        · exact (hnothing kind k e he heq).resolve_left hstay
        · exact he
      · intro he
        by_cases hfree : (info.table kind)[k]? = none ∨ Removed info new.currentPackage kind k
        · exact Or.inr ⟨hfree, he⟩
        · -- the key is taken by an element that stays: it is one of the module, and the same
          push Not at hfree
          obtain ⟨e', he'⟩ := Option.ne_none_iff_exists'.mp hfree.1
          by_cases heq' : e'.package = new.currentPackage
          · have hsame := (hnothing kind k e' he' heq').resolve_left hfree.2
            rw [he] at hsame
            cases hsame
            exact Or.inl ⟨he', hfree.2⟩
          · have hnone := (hothers kind k e' he' heq').2
            rw [he] at hnone
            cases hnone
    · rw [hget]
      constructor
      · rintro (⟨he, -⟩ | ⟨-, he⟩)
        · exact he
        · exact absurd (new.package kind k e he) hne
      · intro he
        exact Or.inl ⟨he, (hothers kind k e he hne).1⟩

/-! ## Keys that meet -/

theorem get_singleton {α : Type} {k k' : Str} {v v' : α} (h : ((∅ : StrMap α).insert k v)[k']? = some v') :
    k' = k ∧ v' = v := by
  rw [MapLoop.getElem?_insert_eq] at h
  split at h
  · next hk => exact ⟨hk, (Option.some.inj h).symm⟩
  · simp at h

/-- A module with one ability or one shortcut. -/
def oneElement (b p name : Str) (isAbility : Bool) (hp : p ≠ []) : SingleModule b Unit where
  currentPackage := p
  innerModuleInfos := (∅ : StrMap InnerModuleInfo).insert p
    { moduleName := p, abilityKeys := if isAbility then [elementKey b p name] else [] }
  baseAbilityInfos := if isAbility then (∅ : StrMap (Element Unit)).insert (elementKey b p name) ⟨p, ()⟩ else ∅
  shortcutInfos := if isAbility then ∅ else (∅ : StrMap (Element Unit)).insert (elementKey b p name) ⟨p, ()⟩
  package_ne := hp
  record := { moduleName := p, abilityKeys := if isAbility then [elementKey b p name] else [] }
  modules q := by
    rw [MapLoop.getElem?_insert_eq]
    split
    · rfl
    · simp
  package kind k e he := by
    cases isAbility <;> cases kind <;>
      first
        | exact congrArg Element.package (get_singleton he).2
        | simp [InnerBundleInfo.table] at he
  key kind k e he := by
    cases isAbility <;> cases kind <;>
      first
        | exact ⟨name, (get_singleton he).1⟩
        | simp [InnerBundleInfo.table] at he
  abilityKeys k := by
    cases isAbility
    · simp
    · show k ∈ [elementKey b p name] ↔ k ∈ (∅ : StrMap (Element Unit)).insert (elementKey b p name) ⟨p, ()⟩
      rw [List.mem_singleton, ExtTreeMap.mem_insert]
      constructor
      · rintro rfl
        exact Or.inl ReflOrd.compare_self
      · rintro (hk | hk)
        · exact (LawfulEqOrd.eq_of_compare hk).symm
        · exact absurd hk ExtTreeMap.not_mem_empty
  extensionKeys k := by simp
  forms k hk := by simp at hk

/-- Modules `m` and `x` of a bundle with `.m.` in its name; `x` has a shortcut. -/
def mAndX : List (Op "com.m.app".toList Unit) :=
  [.addModuleInfo (oneElement "com.m.app".toList ['m'] ['s'] false nofun),
   .addModuleInfo (oneElement "com.m.app".toList ['x'] ['s'] false nofun)]

/-- **The removal of another module's shortcut**: `com.m.app.x.s` goes with the module `m`. -/
theorem remove_takes_other_shortcut :
    ¬ RemovesExactly ['m'] (run mAndX) ((run mAndX).removeModuleInfo ['m']) := by
  intro h
  have hbefore : (run mAndX).shortcutInfos["com.m.app.x.s".toList]? = some ⟨['x'], ()⟩ := by decide +kernel
  have hafter : ((run mAndX).removeModuleInfo ['m']).shortcutInfos["com.m.app.x.s".toList]? = none := by
    decide +kernel
  have hstays := (h.elements .shortcut "com.m.app.x.s".toList ⟨['x'], ()⟩).mpr ⟨hbefore, by decide⟩
  have hboth := hafter.symm.trans hstays
  cases hboth

/-- The module `a` has the ability `b.c`. -/
def aloneA : List (Op ['z'] Unit) := [.addModuleInfo (oneElement ['z'] ['a'] ['b', '.', 'c'] true nofun)]

/-- **An ability that an update drops**: the key of `c` in `a.b` is that of `b.c` in `a`. -/
theorem update_drops_ability :
    ¬ ReplacesExactly (oneElement ['z'] ['a', '.', 'b'] ['c'] true nofun).toInnerBundleInfo (run aloneA)
      ((run aloneA).updateModuleInfo (oneElement ['z'] ['a', '.', 'b'] ['c'] true nofun).toInnerBundleInfo) := by
  intro h
  have hnew : (oneElement ['z'] ['a', '.', 'b'] ['c'] true nofun).baseAbilityInfos["z.a.b.c".toList]? =
      some ⟨['a', '.', 'b'], ()⟩ := by
    decide +kernel
  have hafter : ((run aloneA).updateModuleInfo
      (oneElement ['z'] ['a', '.', 'b'] ['c'] true nofun).toInnerBundleInfo).baseAbilityInfos["z.a.b.c".toList]? =
        some ⟨['a'], ()⟩ := by
    decide +kernel
  have hthere := (h.ofModule .ability "z.a.b.c".toList ⟨['a', '.', 'b'], ()⟩ rfl).mpr hnew
  have hboth := hafter.symm.trans hthere
  cases hboth

end BundleFramework.InnerBundle
