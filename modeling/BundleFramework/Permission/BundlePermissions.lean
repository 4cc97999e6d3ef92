import Mathlib.Data.List.Forall2
import Mathlib.Data.Set.Function
import BundleFramework.Permission.StringPool

/-!
# The stored permissions of a module

`BundlePermissions` keeps the name of a permission as an index of the string pool: alone, in
`simplePermissions`, if the request has nothing but a name, else with the other fields, in
`complexPermissions`.  `ToRequestPermissions` reads all names in one go and walks over both
lists with one running index.

What other threads do to the pool is given for each call of `AddPermission`, before it and
between its two sections (`Sections`).
-/

namespace BundleFramework.Permission

open PermissionStringPool

/-! ## Algorithm -/

structure RequestPermissionUsedScene where
  when : Str := []
  abilities : List Str := []
  deriving DecidableEq

structure RequestPermission where
  reasonId : UInt32 := 0
  name : Str := []
  moduleName : Str := []
  reason : Str := []
  requiredFeature : Str := []
  usedScene : RequestPermissionUsedScene := {}
  deriving DecidableEq

structure ComplexPermission where
  nameIdx : Nat := INVALID_STRING_IDX
  reasonId : UInt32 := 0
  reason : Str := []
  requiredFeature : Str := []
  usedScene : RequestPermissionUsedScene := {}
  deriving DecidableEq

structure BundlePermissions where
  simplePermissions : List Nat := []
  complexPermissions : List ComplexPermission := []
  deriving DecidableEq

/-- The sections of other threads around one call of `AddPermission`. -/
structure Sections where
  before : List PoolOp := []
  between : List PoolOp := []

def isComplexPermission (permission : RequestPermission) : Bool :=
  permission.reasonId != 0 ||
    !permission.reason.isEmpty ||
    !permission.requiredFeature.isEmpty ||
    !permission.usedScene.when.isEmpty ||
    !permission.usedScene.abilities.isEmpty

namespace BundlePermissions

/-- `AddPermission` once the name has its index. -/
def addIndexed (bp : BundlePermissions) (nameIdx : Nat) (permission : RequestPermission) : BundlePermissions :=
  if isComplexPermission permission then
    let complexPerm : ComplexPermission :=
      { nameIdx,
        reasonId := permission.reasonId,
        reason := permission.reason,
        requiredFeature := permission.requiredFeature,
        usedScene := permission.usedScene }
    { bp with complexPermissions := bp.complexPermissions ++ [complexPerm] }
  else { bp with simplePermissions := bp.simplePermissions ++ [nameIdx] }

def addPermission (bp : BundlePermissions) (pool : PermissionStringPool) (others : Sections)
    (permission : RequestPermission) : BundlePermissions × PermissionStringPool :=
  let pool := pool.run others.before
  if permission.name = [] then (bp, pool.run others.between)
  else
    let (nameIdx, pool) := pool.getOrAddIndex others.between permission.name
    if nameIdx = INVALID_STRING_IDX then (bp, pool)
    else (bp.addIndexed nameIdx permission, pool)

def indices (bp : BundlePermissions) : List Nat :=
  bp.simplePermissions ++ bp.complexPermissions.map (·.nameIdx)

def appendPermissionNames (bp : BundlePermissions) (pool : PermissionStringPool) (out : List Str) : List Str :=
  pool.appendStrings bp.indices out

end BundlePermissions

open BundlePermissions

/-- The loop of `ToBundlePermissions`; `others k` is what happens around its call `k`. -/
def addPermissions (bp : BundlePermissions) (pool : PermissionStringPool) :
    List RequestPermission → (Nat → Sections) → BundlePermissions × PermissionStringPool
  | [], _ => (bp, pool)
  | permission :: rest, others =>
    let (bp, pool) := bp.addPermission pool (others 0) permission
    addPermissions bp pool rest fun k => others (k + 1)

def toBundlePermissions (pool : PermissionStringPool) (reqPermissions : List RequestPermission)
    (others : Nat → Sections) : BundlePermissions × PermissionStringPool :=
  addPermissions {} pool reqPermissions others

/-- The second loop of `ToRequestPermissions`. -/
def complexRequests (names : List Str) (moduleName : Str) : List ComplexPermission → Nat → List RequestPermission
  | [], _ => []
  | complexPerm :: rest, nameIndex =>
    { name := names.getD nameIndex [],
      moduleName,
      reasonId := complexPerm.reasonId,
      reason := complexPerm.reason,
      requiredFeature := complexPerm.requiredFeature,
      usedScene := complexPerm.usedScene } :: complexRequests names moduleName rest (nameIndex + 1)

def toRequestPermissions (pool : PermissionStringPool) (bp : BundlePermissions) (moduleName : Str) :
    List RequestPermission :=
  let names := pool.appendStrings bp.indices []
  let simpleRequests : List RequestPermission :=
    (List.range bp.simplePermissions.length).map fun nameIndex =>
      { name := names.getD nameIndex [], moduleName }
  simpleRequests ++ complexRequests names moduleName bp.complexPermissions bp.simplePermissions.length

/-! ## What is to be stored -/

/-- A request with nothing but a name (and the module it came from). -/
def RequestPermission.Plain (p : RequestPermission) : Prop :=
  p.reasonId = 0 ∧ p.reason = [] ∧ p.requiredFeature = [] ∧ p.usedScene = {}

instance (p : RequestPermission) : Decidable p.Plain := inferInstanceAs (Decidable (_ ∧ _))

/-- The requests with a name, plain ones first. -/
def plainFirst (ps : List RequestPermission) : List RequestPermission :=
  (ps.filter fun p => p.name ≠ [] ∧ p.Plain) ++ ps.filter fun p => p.name ≠ [] ∧ ¬ p.Plain

/-- Every section of the pool during `ToBundlePermissions`, in order. -/
def poolOps : List RequestPermission → (Nat → Sections) → List PoolOp
  | [], _ => []
  | p :: rest, others =>
    (others 0).before ++ (others 0).between ++ .getOrAddIndex p.name :: poolOps rest fun k => others (k + 1)

theorem isComplexPermission_iff (p : RequestPermission) : isComplexPermission p = true ↔ ¬ p.Plain := by
  obtain ⟨reasonId, name, moduleName, reason, requiredFeature, when, abilities⟩ := p
  simp only [isComplexPermission, RequestPermission.Plain, Bool.or_eq_true, bne_iff_ne, Bool.not_eq_true',
    List.isEmpty_eq_false_iff, RequestPermissionUsedScene.mk.injEq]
  tauto

/-! ## The sections of the pool -/

/-- With an empty name, too, the pool is as after the call of `GetOrAddIndex`. -/
theorem addPermission_snd (bp : BundlePermissions) (pool : PermissionStringPool) (others : Sections)
    (p : RequestPermission) :
    (bp.addPermission pool others p).2 = ((pool.run others.before).getOrAddIndex others.between p.name).2 := by
  unfold addPermission
  by_cases hname : p.name = []
  · rw [if_pos hname]
    unfold getOrAddIndex
    rw [if_pos hname]
  · rw [if_neg hname]
    dsimp only
    split
    · rfl
    · rfl

theorem addPermission_pool {pool : PermissionStringPool} (h : Indexed pool) (bp : BundlePermissions)
    (others : Sections) (p : RequestPermission) :
    (bp.addPermission pool others p).2 = pool.run (others.before ++ others.between ++ [.getOrAddIndex p.name]) := by
  rw [addPermission_snd, (h.run others.before).getOrAddIndex_pool, ← run_append, List.append_assoc]

/-- What `ToBundlePermissions` does to the pool, with the sections of the others. -/
theorem addPermissions_pool (ps : List RequestPermission) :
    ∀ {pool : PermissionStringPool}, Indexed pool → ∀ (bp : BundlePermissions) (others : Nat → Sections),
      (addPermissions bp pool ps others).2 = pool.run (poolOps ps others) := by
  induction ps with
  | nil => exact fun _ _ _ => rfl
  | cons p ps ih =>
    intro pool h bp others
    have hpool := addPermission_pool h bp (others 0) p
    have hindexed : Indexed (bp.addPermission pool (others 0) p).2 := by
      rw [hpool]
      exact h.run _
    rw [addPermissions, ih hindexed, hpool, ← run_append, poolOps, List.append_assoc]
    rfl

/-! ## What is stored -/

/-- `c` has the fields of `p`, and the index of its name. -/
def Stored (strings : List Str) (c : ComplexPermission) (p : RequestPermission) : Prop :=
  strings[c.nameIdx]? = some p.name ∧ c.reasonId = p.reasonId ∧ c.reason = p.reason ∧
    c.requiredFeature = p.requiredFeature ∧ c.usedScene = p.usedScene

/-- The two lists hold the requests with a name, each list in the order of the requests. -/
structure Stores (strings : List Str) (bp : BundlePermissions) (ps : List RequestPermission) : Prop where
  simple : List.Forall₂ (fun idx p => strings[idx]? = some p.name) bp.simplePermissions
    (ps.filter fun p => p.name ≠ [] ∧ p.Plain)
  complex : List.Forall₂ (Stored strings) bp.complexPermissions
    (ps.filter fun p => p.name ≠ [] ∧ ¬ p.Plain)

variable {strings strings' : List Str} {bp : BundlePermissions} {ps : List RequestPermission}

theorem Stores.mono (h : Stores strings bp ps) (hle : strings <+: strings') : Stores strings' bp ps where
  simple := h.simple.imp fun _ _ => getElem?_mono hle
  complex := h.complex.imp fun _ _ hc => ⟨getElem?_mono hle hc.1, hc.2⟩

theorem Stores.addIndexed (h : Stores strings bp ps) {idx : Nat} {p : RequestPermission} (hname : p.name ≠ [])
    (hidx : strings[idx]? = some p.name) : Stores strings (bp.addIndexed idx p) (ps ++ [p]) := by
  unfold BundlePermissions.addIndexed
  by_cases hp : p.Plain
  · have hno : isComplexPermission p ≠ true := by
      rw [Ne, isComplexPermission_iff, not_not]
      exact hp
    rw [if_neg hno]
    constructor
    · rw [List.filter_append]
      refine List.rel_append h.simple ?_
      simpa [hname, hp] using hidx
    · rw [List.filter_append]
      simpa [hp] using h.complex
  · rw [if_pos ((isComplexPermission_iff p).mpr hp)]
    constructor
    · rw [List.filter_append]
      simpa [hp] using h.simple
    · rw [List.filter_append]
      refine List.rel_append h.complex ?_
      simpa [hname, hp] using ⟨hidx, rfl, rfl, rfl, rfl⟩

/-- **One call of `AddPermission`** stores its request. -/
theorem Stores.addPermission {pool : PermissionStringPool} (h : Stores pool.strings bp ps) (hpool : Indexed pool)
    (others : Sections) (p : RequestPermission)
    (hroom : (bp.addPermission pool others p).2.strings.length < INVALID_STRING_IDX) :
    Stores (bp.addPermission pool others p).2.strings (bp.addPermission pool others p).1 (ps ++ [p]) := by
  have hkeep : pool.strings <+: (bp.addPermission pool others p).2.strings := by
    rw [addPermission_pool hpool]
    exact hpool.strings_run _
  by_cases hname : p.name = []
  · have hbp : (bp.addPermission pool others p).1 = bp := by
      unfold BundlePermissions.addPermission
      rw [if_pos hname]
    have hmono := h.mono hkeep
    rw [hbp]
    constructor
    · simpa [List.filter_append, hname] using hmono.simple
    · simpa [List.filter_append, hname] using hmono.complex
  · rw [addPermission_snd] at hroom ⊢
    have hget := (hpool.run others.before).getOrAddIndex_get others.between hname hroom
    have hvalid : ((pool.run others.before).getOrAddIndex others.between p.name).1 ≠ INVALID_STRING_IDX := by
      have hlt := (List.getElem?_eq_some_iff.mp hget).1
      omega
    have hbp : (bp.addPermission pool others p).1 =
        bp.addIndexed ((pool.run others.before).getOrAddIndex others.between p.name).1 p := by
      unfold BundlePermissions.addPermission
      rw [if_neg hname]
      dsimp only
      rw [if_neg hvalid]
    rw [addPermission_snd] at hkeep
    rw [hbp]
    exact (h.mono hkeep).addIndexed hname hget

/-- **`ToBundlePermissions`** stores all requests. -/
theorem Stores.addPermissions (rest : List RequestPermission) :
    ∀ {pool : PermissionStringPool} {bp : BundlePermissions} {ps : List RequestPermission} (others : Nat → Sections),
      Indexed pool → Stores pool.strings bp ps →
      (addPermissions bp pool rest others).2.strings.length < INVALID_STRING_IDX →
      Stores (addPermissions bp pool rest others).2.strings (addPermissions bp pool rest others).1 (ps ++ rest) := by
  induction rest with
  | nil =>
    intro pool bp ps others hpool h hroom
    rw [List.append_nil]
    exact h
  | cons p rest ih =>
    intro pool bp ps others hpool h hroom
    have hnext : Indexed (bp.addPermission pool (others 0) p).2 := by
      rw [addPermission_pool hpool]
      exact hpool.run _
    rw [Permission.addPermissions] at hroom ⊢
    have hlen : (bp.addPermission pool (others 0) p).2.strings.length < INVALID_STRING_IDX := by
      rw [addPermissions_pool rest hnext] at hroom
      exact Nat.lt_of_le_of_lt (hnext.strings_run _).length_le hroom
    have hall := ih (fun k => others (k + 1)) hnext (h.addPermission hpool (others 0) p hlen) hroom
    rw [List.append_assoc, List.singleton_append] at hall
    exact hall

/-! ## Reading it back -/

theorem names_eq {α : Type} {l : List α} {f : α → Nat} {qs : List RequestPermission}
    (h : List.Forall₂ (fun a p => strings[f a]? = some p.name) l qs) :
    l.map (fun a => strings.getD (f a) []) = qs.map (·.name) := by
  induction h with
  | nil => rfl
  | cons hname _ ih => rw [List.map_cons, List.map_cons, ih, List.getD_eq_getElem?_getD, hname, Option.getD_some]

theorem Stores.names (h : Stores strings bp ps) :
    bp.indices.map (fun idx => strings.getD idx []) = (plainFirst ps).map (·.name) := by
  have hcomplex := h.complex.imp fun _ _ hc => hc.1
  unfold BundlePermissions.indices plainFirst
  rw [List.map_append, List.map_append, List.map_map, ← names_eq h.simple, ← names_eq hcomplex]
  rfl

theorem map_range_getD (l rest : List Str) (f : Str → RequestPermission) :
    (List.range l.length).map (fun i => f ((l ++ rest).getD i [])) = l.map f := by
  refine List.ext_getElem (by simp) fun i hi hi' => ?_
  rw [List.length_map] at hi'
  simp [List.getElem?_append_left hi', List.getElem?_eq_getElem hi']

/-- The walk over the complex permissions, from the index of the first of their names on. -/
theorem complexRequests_eq {cs : List ComplexPermission} {qs : List RequestPermission}
    (h : List.Forall₂ (Stored strings) cs qs) (moduleName : Str) (before : List Str) :
    complexRequests (before ++ qs.map (·.name)) moduleName cs before.length =
      qs.map fun p => { p with moduleName } := by
  induction h generalizing before with
  | nil => rfl
  | @cons c p cs qs hc _ ih =>
    obtain ⟨-, hid, hreason, hfeature, hscene⟩ := hc
    have hrest := ih (before ++ [p.name])
    rw [List.append_assoc, List.length_append] at hrest
    have hget : (before ++ (p :: qs).map (·.name)).getD before.length [] = p.name := by
      simp
    rw [complexRequests, hget, hid, hreason, hfeature, hscene]
    simp only [List.map_cons]
    congr 1

/-- **Nothing is lost** with a plain request but the module it came from. -/
theorem RequestPermission.Plain.eq {p : RequestPermission} (h : p.Plain) (moduleName : Str) :
    { name := p.name, moduleName } = { p with moduleName } := by
  obtain ⟨hid, hreason, hfeature, hscene⟩ := h
  rw [hid, hreason, hfeature, hscene]

/-- **The round trip**, for any store and any pool that has its names. -/
theorem Stores.toRequestPermissions {pool : PermissionStringPool} (h : Stores pool.strings bp ps) (moduleName : Str) :
    toRequestPermissions pool bp moduleName = (plainFirst ps).map fun p => { p with moduleName } := by
  unfold Permission.toRequestPermissions appendStrings
  rw [h.names, List.nil_append, h.simple.length_eq]
  unfold plainFirst
  rw [List.map_append, List.map_append]
  dsimp only
  congr 1
  · rw [← List.length_map (fun p : RequestPermission => p.name), map_range_getD _ _ fun name => { name, moduleName },
      List.map_map]
    refine List.map_congr_left fun p hp => ?_
    have hplain : p.name ≠ [] ∧ p.Plain := by simpa using (List.mem_filter.mp hp).2
    exact hplain.2.eq moduleName
  · rw [← List.length_map (fun p : RequestPermission => p.name)]
    exact complexRequests_eq h.complex moduleName _

theorem stores_empty (strings : List Str) : Stores strings {} [] := ⟨.nil, .nil⟩

/-! ## Storing and reading while others use the pool -/

/-- The strings that were given to the pool. -/
def added (ops : List PoolOp) : Set Str := {s | s ≠ [] ∧ .getOrAddIndex s ∈ ops}

/-- The indexes of the pool against the strings that were added. -/
theorem bijOn_run (ops : List PoolOp) (hroom : (run {} ops).strings.length < INVALID_STRING_IDX) :
    Set.BijOn (fun i => (run {} ops).strings.getD i []) (Set.Iio (run {} ops).strings.length) (added ops) := by
  have h := indexed_empty.run ops
  have hadded : ∀ s, s ∈ (run {} ops).strings ↔ s ∈ added ops := by
    intro s
    rw [indexed_empty.mem_run_iff ops hroom s]
    simp [added]
  have hget : ∀ i, i < (run {} ops).strings.length →
      (run {} ops).strings[i]? = some ((run {} ops).strings.getD i []) := by
    intro i hi
    simp [List.getElem?_eq_getElem hi]
  refine ⟨fun i hi => ?_, fun i hi j hj heq => ?_, fun s hs => ?_⟩
  · exact (hadded _).mp (List.mem_of_getElem? (hget i hi))
  · have hi' := (h.index _ i).mpr (hget i hi)
    have hj' := (h.index _ j).mpr (hget j hj)
    dsimp only at heq
    rw [heq, hj'] at hi'
    exact (Option.some.inj hi').symm
  · obtain ⟨i, hi⟩ := List.mem_iff_getElem?.mp ((hadded s).mpr hs)
    refine ⟨i, (List.getElem?_eq_some_iff.mp hi).1, ?_⟩
    dsimp only
    rw [List.getD_eq_getElem?_getD, hi, Option.getD_some]

/-- **Storing loses nothing**, whatever others do to the pool before, during and after, as long
as it is not full.  At each point of the run the indexes are those of the strings added so
far, and they do not change until its end. -/
theorem permissions_lossless (setup after : List PoolOp) (ps : List RequestPermission) (others : Nat → Sections)
    (moduleName : Str) (out : List Str)
    (hroom : ((toBundlePermissions (run {} setup) ps others).2.run after).strings.length < INVALID_STRING_IDX) :
    let stored := toBundlePermissions (run {} setup) ps others
    let pool := stored.2.run after
    let ops := setup ++ poolOps ps others ++ after
    toRequestPermissions pool stored.1 moduleName = (plainFirst ps).map (fun p => { p with moduleName }) ∧
    stored.1.appendPermissionNames pool out = out ++ (plainFirst ps).map (·.name) ∧
    pool = run {} ops ∧
    ∀ sofar, sofar <+: ops →
      Set.BijOn (fun i => (run {} sofar).strings.getD i []) (Set.Iio (run {} sofar).strings.length) (added sofar) ∧
      (∀ (str : Str) (i : Nat), (run {} sofar).stringToIdx[str]? = some i ↔ (run {} sofar).strings[i]? = some str) ∧
      (run {} sofar).strings <+: pool.strings := by
  intro stored pool ops
  have hsetup := indexed_empty.run setup
  have hpool : stored.2 = (run {} setup).run (poolOps ps others) := addPermissions_pool ps hsetup {} others
  have hops : pool = run {} ops := by
    show stored.2.run after = run {} (setup ++ poolOps ps others ++ after)
    rw [hpool, run_append, run_append]
  have hindexed : Indexed stored.2 := by
    rw [hpool]
    exact hsetup.run _
  have hstores : Stores pool.strings stored.1 ps := by
    have hkeep := hindexed.strings_run after
    have hlen := Nat.lt_of_le_of_lt hkeep.length_le hroom
    have hall := Stores.addPermissions ps others hsetup (stores_empty _) hlen
    exact hall.mono hkeep
  refine ⟨hstores.toRequestPermissions moduleName, ?_, hops, fun sofar hsofar => ?_⟩
  · show out ++ _ = _
    rw [hstores.names]
  · have hkeep : (run {} sofar).strings <+: pool.strings := by
      obtain ⟨rest, hrest⟩ := hsofar
      rw [hops, ← hrest, run_append]
      exact (indexed_empty.run sofar).strings_run rest
    have hlen := Nat.lt_of_le_of_lt hkeep.length_le hroom
    exact ⟨bijOn_run sofar hlen, (indexed_empty.run sofar).index, hkeep⟩

/-- Two names in the pool, one of them requested with a reason, then a plain request. -/
theorem permissions_lossless_camera :
    let location : RequestPermission := { name := "LOCATION".toList, moduleName := "entry".toList, reason := "map".toList }
    let camera : RequestPermission := { name := "CAMERA".toList }
    let others : Nat → Sections := fun _ => { before := [.getOrAddIndex "AUDIO".toList], between := [.defrag] }
    let stored := toBundlePermissions (run {} [.getOrAddIndex "CAMERA".toList]) [location, {}, camera] others
    (stored.2.run [.defrag]).strings.length < INVALID_STRING_IDX ∧
    toRequestPermissions (stored.2.run [.defrag]) stored.1 "feature".toList =
      [{ camera with moduleName := "feature".toList }, { location with moduleName := "feature".toList }] := by
  intro location camera others stored
  have hroom : (stored.2.run [.defrag]).strings.length < INVALID_STRING_IDX := by decide +kernel
  exact ⟨hroom, (permissions_lossless _ _ _ others _ [] hroom).1⟩

end BundleFramework.Permission
