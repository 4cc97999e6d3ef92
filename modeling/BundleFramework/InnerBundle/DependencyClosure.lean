import BundleFramework.InnerBundle.Modules
import BundleFramework.Lib.Worklist

/-!
# The dependencies of a module

`GetAllDependentModuleNames` and `GetAllSharedDependencies` collect what a module depends on
with a queue.  Both end on every graph.  The first returns the names reached by one or more
dependencies.

A dependency is on the module of that name, if it is on this bundle at all.  The second function
takes the name for a package, and does not look at the bundle: it misses the dependencies of a
module that lies under another package, and brings in those of a namesake.  The closure is exact where neither
makes a difference, and as long as only one of the two does, it is exact nowhere else (`closures_exact_iff`).
-/

namespace BundleFramework.InnerBundle

open Std Relation

/-! ## Algorithm -/

section
variable (modules : StrMap InnerModuleInfo)

/-- The first module of that name. -/
def moduleNamed (moduleName : Str) : Option InnerModuleInfo :=
  (modules.toList.find? fun p => p.2.moduleName = moduleName).map (·.2)

/-- The names are appended to those in the out-parameter. -/
def getDependentModuleNames (moduleName : Str) (dependentModuleNames : List Str) : Bool × List Str :=
  match moduleNamed modules moduleName with
  | none => (false, dependentModuleNames)
  | some info => (true, dependentModuleNames ++ info.dependencies.map (·.moduleName))

/-- `none` when the fuel of the loop runs out. -/
def getAllDependentModuleNames (fuel : Nat) (moduleName : Str) (dependentModuleNames : List Str) :
    Option (Bool × List Str) :=
  match getDependentModuleNames modules moduleName dependentModuleNames with
  | (false, out) => some (false, out)
  | (true, out) =>
    (Worklist.collect (fun name => (getDependentModuleNames modules name []).2) fuel out []).map fun names =>
      (true, names)

/-- The module is looked up by its package. -/
def getSharedDependencies (moduleName : Str) : Option (List Dependency) :=
  (modules[moduleName]?).map (·.dependencies)

/-- Two dependencies are the same if bundle, module and version are. -/
def getAllSharedDependencies (fuel : Nat) (moduleName : Str) (dependencies : List Dependency) :
    Option (Bool × List Dependency) :=
  match getSharedDependencies modules moduleName with
  | none => some (false, dependencies)
  | some direct =>
    (Worklist.collect (fun item => (getSharedDependencies modules item.moduleName).getD []) fuel direct []).map
      fun collected => (true, collected)

/-! ## The closures -/

/-- The module named `a` has a dependency on a module named `b`. -/
def DependsOn (a b : Str) : Prop := ∃ info, moduleNamed modules a = some info ∧ ∃ d ∈ info.dependencies, d.moduleName = b

/-- The dependency is on a module of this bundle. -/
def Dependency.Own (bundleName : Str) (d : Dependency) : Prop := d.bundleName = [] ∨ d.bundleName = bundleName

/-- The module of this bundle named `a` has the dependency `d`. -/
def ByName (a : Str) (d : Dependency) : Prop := ∃ info, moduleNamed modules a = some info ∧ d ∈ info.dependencies

/-- The module of this bundle under the package `p` has the dependency `d`. -/
def ByPackage (p : Str) (d : Dependency) : Prop := ∃ info, modules[p]? = some info ∧ d ∈ info.dependencies

/-- The module that a caller means: callers pass the name of a module, or its package. -/
def moduleCalled (m : Str) : Option InnerModuleInfo := (moduleNamed modules m).or modules[m]?

def OfCalled (m : Str) (d : Dependency) : Prop := ∃ info, moduleCalled modules m = some info ∧ d ∈ info.dependencies

/-- The dependencies reached from `m`: its own, and those of the module of this bundle that a
dependency reached is on. -/
inductive SharedReach (bundleName m : Str) : Dependency → Prop where
  | direct {d : Dependency} : OfCalled modules m d → SharedReach bundleName m d
  | follow {d d' : Dependency} : SharedReach bundleName m d → d.Own bundleName →
      ByName modules d.moduleName d' → SharedReach bundleName m d'

/-- What is reached so where the module that is meant also lies under the package of that name. -/
inductive AgreedReach (bundleName m : Str) : Dependency → Prop where
  | direct {d : Dependency} : OfCalled modules m d → ByPackage modules m d → AgreedReach bundleName m d
  | follow {d d' : Dependency} : AgreedReach bundleName m d → d.Own bundleName →
      ByName modules d.moduleName d' → ByPackage modules d.moduleName d' → AgreedReach bundleName m d'

/-- Both functions end, and return what is reached, without repetition. -/
structure ClosuresExact (bundleName m : Str) : Prop where
  namesEnd : ∃ fuel result, getAllDependentModuleNames modules fuel m [] = some result
  names : ∀ fuel found names, getAllDependentModuleNames modules fuel m [] = some (found, names) →
    names.Nodup ∧ ∀ n, n ∈ names ↔ TransGen (DependsOn modules) m n
  sharedEnd : ∃ fuel result, getAllSharedDependencies modules fuel m [] = some result
  shared : ∀ fuel found dependencies, getAllSharedDependencies modules fuel m [] = some (found, dependencies) →
    dependencies.Nodup ∧ ∀ d, d ∈ dependencies ↔ SharedReach modules bundleName m d

/-- What the modules that are meant depend on is reached where each lies under the package of its name. -/
structure NoneMissed (bundleName m : Str) : Prop where
  start : ∀ d, OfCalled modules m d → AgreedReach modules bundleName m d
  follow : ∀ d, AgreedReach modules bundleName m d → d.Own bundleName →
    ∀ d', ByName modules d.moduleName d' → AgreedReach modules bundleName m d'

/-- What the modules under the packages of these names depend on is reached anyway. -/
structure NoneForeign (bundleName m : Str) : Prop where
  start : ∀ d, ByPackage modules m d → AgreedReach modules bundleName m d
  follow : ∀ d, AgreedReach modules bundleName m d →
    ∀ d', ByPackage modules d.moduleName d' → AgreedReach modules bundleName m d'

/-! ## Names -/

theorem mem_dependentNames (a b : Str) : b ∈ (getDependentModuleNames modules a []).2 ↔ DependsOn modules a b := by
  unfold getDependentModuleNames DependsOn
  cases moduleNamed modules a with
  | none => simp
  | some info => simp

/-- All names that modules of the bundle depend on. -/
def allDependentNames : Finset Str :=
  (modules.toList.flatMap fun p => p.2.dependencies.map (·.moduleName)).toFinset

theorem dependsOn_mem_all {a b : Str} (h : DependsOn modules a b) : b ∈ allDependentNames modules := by
  obtain ⟨info, hinfo, d, hd, rfl⟩ := h
  obtain ⟨p, hp, rfl⟩ := Option.map_eq_some_iff.mp hinfo
  refine List.mem_toFinset.mpr (List.mem_flatMap.mpr ⟨p, List.mem_of_find?_eq_some hp, ?_⟩)
  exact List.mem_map_of_mem hd

theorem transGen_iff_reached (m n : Str) :
    TransGen (DependsOn modules) m n ↔ Worklist.Reached (fun name => (getDependentModuleNames modules name []).2)
      (getDependentModuleNames modules m []).2 n := by
  have hedge : (fun a b => b ∈ (getDependentModuleNames modules a []).2) = DependsOn modules := by
    funext a b
    exact propext (mem_dependentNames modules a b)
  unfold Worklist.Reached
  rw [TransGen.head'_iff, hedge]
  constructor
  · rintro ⟨x, hx, hpath⟩
    exact ⟨x, (mem_dependentNames modules m x).mpr hx, hpath⟩
  · rintro ⟨x, hx, hpath⟩
    exact ⟨x, (mem_dependentNames modules m x).mp hx, hpath⟩

/-- The call in terms of the loop. -/
theorem getAllDependentModuleNames_cases (fuel : Nat) (m : Str) :
    ((getDependentModuleNames modules m []).2 = [] ∧
      getAllDependentModuleNames modules fuel m [] = some (false, [])) ∨
    getAllDependentModuleNames modules fuel m [] =
      (Worklist.collect (fun name => (getDependentModuleNames modules name []).2) fuel
        (getDependentModuleNames modules m []).2 []).map fun names => (true, names) := by
  unfold getAllDependentModuleNames
  cases hm : moduleNamed modules m with
  | none =>
    left
    simp [getDependentModuleNames, hm]
  | some info =>
    right
    simp [getDependentModuleNames, hm]

theorem dependentNames_end (m : Str) :
    ∃ fuel result, getAllDependentModuleNames modules fuel m [] = some result := by
  have hnext : ∀ a, ∀ b ∈ (getDependentModuleNames modules a []).2, b ∈ allDependentNames modules := by
    intro a b hb
    exact dependsOn_mem_all modules ((mem_dependentNames modules a b).mp hb)
  obtain ⟨fuel, names, hr⟩ := Worklist.exists_collect hnext (hnext m)
  refine ⟨fuel, ?_⟩
  rcases getAllDependentModuleNames_cases modules fuel m with ⟨-, h⟩ | h
  · exact ⟨_, h⟩
  · rw [hr] at h
    exact ⟨_, h⟩

theorem dependentNames_exact {fuel : Nat} {m : Str} {found : Bool} {names : List Str}
    (h : getAllDependentModuleNames modules fuel m [] = some (found, names)) :
    names.Nodup ∧ ∀ n, n ∈ names ↔ TransGen (DependsOn modules) m n := by
  rcases getAllDependentModuleNames_cases modules fuel m with ⟨hnone, hr⟩ | hr
  · rw [hr] at h
    cases h
    refine ⟨List.nodup_nil, fun n => ?_⟩
    rw [transGen_iff_reached, hnone]
    simp [Worklist.Reached]
  · rw [hr] at h
    obtain ⟨names', hcollect, heq⟩ := Option.map_eq_some_iff.mp h
    cases heq
    obtain ⟨hnodup, hmem⟩ := Worklist.collect_spec hcollect
    refine ⟨hnodup, fun n => ?_⟩
    rw [hmem, transGen_iff_reached]

/-! ## Shared dependencies -/

theorem mem_sharedDependencies (p : Str) (d : Dependency) :
    d ∈ (getSharedDependencies modules p).getD [] ↔ ByPackage modules p d := by
  unfold getSharedDependencies ByPackage
  cases modules[p]? <;> simp

/-- All dependencies of modules of the bundle. -/
def allDependencies : Finset Dependency := (modules.toList.flatMap fun p => p.2.dependencies).toFinset

theorem byPackage_mem_all {p : Str} {d : Dependency} (h : ByPackage modules p d) :
    d ∈ allDependencies modules := by
  obtain ⟨info, hinfo, hd⟩ := h
  refine List.mem_toFinset.mpr (List.mem_flatMap.mpr ⟨(p, info), ?_, hd⟩)
  exact ExtTreeMap.mem_toList_iff_getElem?_eq_some.mpr hinfo

/-- What the loop reaches. -/
def LoopReach (m : Str) : Dependency → Prop :=
  Worklist.Reached (fun item => (getSharedDependencies modules item.moduleName).getD [])
    ((getSharedDependencies modules m).getD [])

theorem getAllSharedDependencies_cases (fuel : Nat) (m : Str) :
    ((getSharedDependencies modules m).getD [] = [] ∧
      getAllSharedDependencies modules fuel m [] = some (false, [])) ∨
    getAllSharedDependencies modules fuel m [] =
      (Worklist.collect (fun item => (getSharedDependencies modules item.moduleName).getD []) fuel
        ((getSharedDependencies modules m).getD []) []).map fun collected => (true, collected) := by
  unfold getAllSharedDependencies
  cases getSharedDependencies modules m with
  | none => exact Or.inl ⟨rfl, rfl⟩
  | some direct => exact Or.inr rfl

theorem sharedDependencies_end (m : Str) :
    ∃ fuel result, getAllSharedDependencies modules fuel m [] = some result := by
  have hnext : ∀ p, ∀ d ∈ (getSharedDependencies modules p).getD [], d ∈ allDependencies modules := by
    intro p d hd
    exact byPackage_mem_all modules ((mem_sharedDependencies modules p d).mp hd)
  obtain ⟨fuel, collected, hr⟩ := Worklist.exists_collect
    (fun item : Dependency => hnext item.moduleName) (hnext m)
  refine ⟨fuel, ?_⟩
  rcases getAllSharedDependencies_cases modules fuel m with ⟨-, h⟩ | h
  · exact ⟨_, h⟩
  · rw [hr] at h
    exact ⟨_, h⟩

/-- The second function returns what its loop reaches. -/
theorem sharedDependencies_loop {fuel : Nat} {m : Str} {found : Bool} {dependencies : List Dependency}
    (h : getAllSharedDependencies modules fuel m [] = some (found, dependencies)) :
    dependencies.Nodup ∧ ∀ d, d ∈ dependencies ↔ LoopReach modules m d := by
  unfold LoopReach
  rcases getAllSharedDependencies_cases modules fuel m with ⟨hnone, hr⟩ | hr
  · rw [hr] at h
    cases h
    refine ⟨List.nodup_nil, fun d => ?_⟩
    rw [hnone]
    simp [Worklist.Reached]
  · rw [hr] at h
    obtain ⟨collected, hcollect, heq⟩ := Option.map_eq_some_iff.mp h
    cases heq
    exact Worklist.collect_spec hcollect

section Reach

variable {modules} {bundleName m : Str} {d : Dependency}

theorem LoopReach.direct (hd : ByPackage modules m d) : LoopReach modules m d :=
  .of_mem ((mem_sharedDependencies modules m d).mpr hd)

theorem LoopReach.follow (h : LoopReach modules m d) {d' : Dependency} (hd : ByPackage modules d.moduleName d') :
    LoopReach modules m d' :=
  h.next ((mem_sharedDependencies modules _ d').mpr hd)

theorem AgreedReach.shared (h : AgreedReach modules bundleName m d) : SharedReach modules bundleName m d := by
  induction h with
  | direct hcalled => exact .direct hcalled
  | follow _ hown hname _ ih => exact .follow ih hown hname

theorem AgreedReach.loop (h : AgreedReach modules bundleName m d) : LoopReach modules m d := by
  induction h with
  | direct _ hpackage => exact .direct hpackage
  | follow _ _ _ hpackage ih => exact ih.follow hpackage

theorem NoneMissed.agreed_of_shared (h : NoneMissed modules bundleName m) (hd : SharedReach modules bundleName m d) :
    AgreedReach modules bundleName m d := by
  induction hd with
  | direct hcalled => exact h.start _ hcalled
  | follow _ hown hname ih => exact h.follow _ ih hown _ hname

theorem NoneForeign.agreed_of_loop (h : NoneForeign modules bundleName m) (hd : LoopReach modules m d) :
    AgreedReach modules bundleName m d := by
  refine hd.rec_on (fun x hx => h.start x ((mem_sharedDependencies modules m x).mp hx)) fun x hx y hy => ?_
  exact h.follow x hx y ((mem_sharedDependencies modules x.moduleName y).mp hy)

/-- Where nothing is missed, the loop reaches no more just when it brings in nothing. -/
theorem noneForeign_iff (hnames : NoneMissed modules bundleName m) :
    (∀ d, LoopReach modules m d ↔ SharedReach modules bundleName m d) ↔ NoneForeign modules bundleName m := by
  constructor
  · intro h
    have hagreed : ∀ d, LoopReach modules m d → AgreedReach modules bundleName m d :=
      fun d hd => hnames.agreed_of_shared ((h d).mp hd)
    exact ⟨fun d hd => hagreed d (.direct hd), fun d hd d' hd' => hagreed d' (hd.loop.follow hd')⟩
  · intro h d
    exact ⟨fun hd => (h.agreed_of_loop hd).shared, fun hd => (hnames.agreed_of_shared hd).loop⟩

/-- Where nothing is brought in, the loop reaches all just when it misses nothing. -/
theorem noneMissed_iff (hpackages : NoneForeign modules bundleName m) :
    (∀ d, LoopReach modules m d ↔ SharedReach modules bundleName m d) ↔ NoneMissed modules bundleName m := by
  constructor
  · intro h
    have hagreed : ∀ d, SharedReach modules bundleName m d → AgreedReach modules bundleName m d :=
      fun d hd => hpackages.agreed_of_loop ((h d).mpr hd)
    exact ⟨fun d hd => hagreed d (.direct hd), fun d hd hown d' hd' => hagreed d' (.follow hd.shared hown hd')⟩
  · intro h
    exact (noneForeign_iff h).mpr hpackages

end Reach

/-- The closures are exact just when the loop reaches what is to be reached. -/
theorem closuresExact_iff_loopReach (bundleName m : Str) :
    ClosuresExact modules bundleName m ↔ ∀ d, LoopReach modules m d ↔ SharedReach modules bundleName m d := by
  constructor
  · intro h d
    obtain ⟨fuel, ⟨found, dependencies⟩, hr⟩ := h.sharedEnd
    rw [← (h.shared fuel found dependencies hr).2 d]
    exact ((sharedDependencies_loop modules hr).2 d).symm
  · intro h
    refine ⟨dependentNames_end modules m, fun _ _ _ => dependentNames_exact modules, sharedDependencies_end modules m,
      fun fuel found dependencies hr => ?_⟩
    obtain ⟨hnodup, hmem⟩ := sharedDependencies_loop modules hr
    exact ⟨hnodup, fun d => (hmem d).trans (h d)⟩

/-- **The closures**, for the modules of every bundle and every module name: exact where nothing is missed and nothing is
brought in, and where they are exact the one holds just when the other does. -/
theorem closures_exact_iff (bundleName m : Str) :
    (NoneMissed modules bundleName m ∧ NoneForeign modules bundleName m → ClosuresExact modules bundleName m) ∧
    (ClosuresExact modules bundleName m → (NoneMissed modules bundleName m ↔ NoneForeign modules bundleName m)) := by
  rw [closuresExact_iff_loopReach]
  constructor
  · rintro ⟨hnames, hpackages⟩
    exact (noneForeign_iff hnames).mpr hpackages
  · intro h
    exact ⟨fun hnames => (noneForeign_iff hnames).mp h, fun hpackages => (noneMissed_iff hpackages).mp h⟩

end

/-- The module `m` depends on the module `x` of another bundle; this bundle has an `x` too,
which depends on `y`. -/
def namesakes : StrMap InnerModuleInfo :=
  ((∅ : StrMap InnerModuleInfo).insert ['m'] { moduleName := ['m'], dependencies := [⟨['o'], ['x'], 1⟩] }).insert
    ['x'] { moduleName := ['x'], dependencies := [⟨['o'], ['y'], 1⟩] }

/-- **A dependency that is not one**: `y` of `o` is returned for `m`, although `x` of `o` is
no module of this bundle. -/
theorem foreign_dependency_expanded :
    getAllSharedDependencies namesakes 3 ['m'] [] = some (true, [⟨['o'], ['x'], 1⟩, ⟨['o'], ['y'], 1⟩]) ∧
    ¬ ClosuresExact namesakes ['b'] ['m'] := by
  have hcall : getAllSharedDependencies namesakes 3 ['m'] [] =
      some (true, [⟨['o'], ['x'], 1⟩, ⟨['o'], ['y'], 1⟩]) := by
    decide +kernel
  refine ⟨hcall, fun h => ?_⟩
  have hreach := ((h.shared 3 true _ hcall).2 ⟨['o'], ['y'], 1⟩).mp (by simp)
  have hm : ∀ d, OfCalled namesakes ['m'] d → d = ⟨['o'], ['x'], 1⟩ := by
    rintro d ⟨info, hinfo, hd⟩
    have hcalled : moduleCalled namesakes ['m'] = some { moduleName := ['m'], dependencies := [⟨['o'], ['x'], 1⟩] } := by
      decide +kernel
    rw [hcalled] at hinfo
    cases hinfo
    exact List.mem_singleton.mp hd
  -- only `x` of `o` is reached, and it is not followed
  have honly : ∀ d, SharedReach namesakes ['b'] ['m'] d → d = ⟨['o'], ['x'], 1⟩ := by
    intro d hd
    induction hd with
    | direct hd => exact hm _ hd
    | follow _ hown _ ih =>
      rw [ih] at hown
      exact absurd hown (by unfold Dependency.Own; decide)
  have heq := honly _ hreach
  exact absurd heq (by decide)

end BundleFramework.InnerBundle
