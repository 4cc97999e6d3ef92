import BundleFramework.Base.Str

/-!
# The entry ability of a bundle

Each module may name one of its abilities as its entry ability, by the key of the ability in
`baseAbilityInfos_`.  `GetMainAbilityInfo` and `GetEntryAbilityKey` look for the one of the
bundle: the first entry module with a key that is in the table, else the last module with
such a key.  The first function stores the ability when it has found a key in the table; the
second one stores the key of every module, before it looks.
-/

namespace BundleFramework.EntryAbility

/-! ## Algorithm -/

/-- What is read of a module. -/
structure InnerModuleInfo where
  isEntry : Bool := false
  entryAbilityKey : Str := []
  deriving DecidableEq

/-- An ability, with all that `ConvertToAbilityInfo` copies. -/
structure AbilityInfo (C : Type) where
  appIndex : Int := 0
  content : C
  deriving DecidableEq

structure InnerBundleInfo (C : Type) where
  innerModuleInfos : StrMap InnerModuleInfo := ∅
  baseAbilityInfos : StrMap (AbilityInfo C) := ∅
  isDualModeCloneApp : Bool := false
  appIndex : Int := 0

variable {C : Type}

/-- The loop of `GetEntryAbilityKey`, from the key of the module before. -/
def entryAbilityLoop (abilities : StrMap (AbilityInfo C)) : List InnerModuleInfo → Str → Str
  | [], key => key
  | item :: rest, _ =>
    let key := item.entryAbilityKey
    if key ≠ [] ∧ abilities.contains key then
      if item.isEntry then key else entryAbilityLoop abilities rest key
    else entryAbilityLoop abilities rest key

def InnerBundleInfo.modules (info : InnerBundleInfo C) : List InnerModuleInfo :=
  info.innerModuleInfos.toList.map (·.2)

def getEntryAbilityKey (info : InnerBundleInfo C) : Str :=
  entryAbilityLoop info.baseAbilityInfos info.modules []

/-- What is stored for an ability of the table. -/
def InnerBundleInfo.convert (info : InnerBundleInfo C) (ability : AbilityInfo C) : AbilityInfo C :=
  if info.isDualModeCloneApp then { ability with appIndex := info.appIndex } else ability

/-- The loop of `GetMainAbilityInfo`, from what was stored before. -/
def mainAbilityLoop (info : InnerBundleInfo C) : List InnerModuleInfo → AbilityInfo C → AbilityInfo C
  | [], abilityInfo => abilityInfo
  | item :: rest, abilityInfo =>
    let key := item.entryAbilityKey
    if key ≠ [] then
      match info.baseAbilityInfos[key]? with
      | some ability =>
        if item.isEntry then info.convert ability else mainAbilityLoop info rest (info.convert ability)
      | none => mainAbilityLoop info rest abilityInfo
    else mainAbilityLoop info rest abilityInfo

def getMainAbilityInfo (info : InnerBundleInfo C) (abilityInfo : AbilityInfo C) : AbilityInfo C :=
  mainAbilityLoop info info.modules abilityInfo

/-! ## Which module decides -/

/-- The module has an entry ability, and it is in the table. -/
def Valid (abilities : StrMap (AbilityInfo C)) (item : InnerModuleInfo) : Prop :=
  item.entryAbilityKey ≠ [] ∧ abilities.contains item.entryAbilityKey

instance (abilities : StrMap (AbilityInfo C)) (item : InnerModuleInfo) : Decidable (Valid abilities item) :=
  inferInstanceAs (Decidable (_ ∧ _))

/-- The first entry module with a valid key, else the last module with one. -/
def decidingModule (abilities : StrMap (AbilityInfo C)) (modules : List InnerModuleInfo) : Option InnerModuleInfo :=
  let valid := modules.filter fun item => Valid abilities item
  (valid.find? fun item => item.isEntry) <|> valid.getLast?

/-- The key of the ability that `GetMainAbilityInfo` selects, if it selects one. -/
def mainAbilityKey (info : InnerBundleInfo C) : Option Str :=
  (decidingModule info.baseAbilityInfos info.modules).map (·.entryAbilityKey)

theorem decidingModule_cons_invalid {abilities : StrMap (AbilityInfo C)} {item : InnerModuleInfo}
    (h : ¬ Valid abilities item) (rest : List InnerModuleInfo) :
    decidingModule abilities (item :: rest) = decidingModule abilities rest := by
  unfold decidingModule
  rw [List.filter_cons_of_neg (by simpa using h)]

theorem decidingModule_cons_entry {abilities : StrMap (AbilityInfo C)} {item : InnerModuleInfo}
    (h : Valid abilities item) (hentry : item.isEntry = true) (rest : List InnerModuleInfo) :
    decidingModule abilities (item :: rest) = some item := by
  unfold decidingModule
  rw [List.filter_cons_of_pos (by simpa using h)]
  simp [hentry]

theorem decidingModule_cons_valid {abilities : StrMap (AbilityInfo C)} {item : InnerModuleInfo}
    (h : Valid abilities item) (hentry : item.isEntry = false) (rest : List InnerModuleInfo) :
    decidingModule abilities (item :: rest) = some ((decidingModule abilities rest).getD item) := by
  unfold decidingModule
  rw [List.filter_cons_of_pos (by simpa using h)]
  dsimp only
  rw [List.find?_cons_of_neg (by simp [hentry]), List.getLast?_cons]
  cases (rest.filter fun item => decide (Valid abilities item)).find? fun item => item.isEntry with
  | none => rfl
  | some first => rfl

theorem valid_of_decidingModule {abilities : StrMap (AbilityInfo C)} {modules : List InnerModuleInfo}
    {item : InnerModuleInfo} (h : decidingModule abilities modules = some item) :
    item ∈ modules ∧ Valid abilities item := by
  have hmem : item ∈ modules.filter fun item => Valid abilities item := by
    unfold decidingModule at h
    dsimp only at h
    rw [Option.orElse_eq_some] at h
    rcases h with h | ⟨-, h⟩
    · exact List.mem_of_find?_eq_some h
    · exact List.mem_of_getLast? h
  simpa using hmem

theorem Valid.ability {abilities : StrMap (AbilityInfo C)} {item : InnerModuleInfo} (h : Valid abilities item) :
    ∃ ability, abilities[item.entryAbilityKey]? = some ability := by
  rw [← Option.isSome_iff_exists, ← Std.ExtTreeMap.contains_eq_isSome_getElem?]
  exact h.2

/-- What is stored if `item` decides. -/
def InnerBundleInfo.ability? (info : InnerBundleInfo C) (item : InnerModuleInfo) : Option (AbilityInfo C) :=
  (info.baseAbilityInfos[item.entryAbilityKey]?).map info.convert

theorem mainAbilityLoop_eq (info : InnerBundleInfo C) (modules : List InnerModuleInfo) (abilityInfo : AbilityInfo C) :
    mainAbilityLoop info modules abilityInfo =
      ((decidingModule info.baseAbilityInfos modules).bind info.ability?).getD abilityInfo := by
  induction modules generalizing abilityInfo with
  | nil => rfl
  | cons item rest ih =>
    rw [mainAbilityLoop]
    by_cases hvalid : Valid info.baseAbilityInfos item
    · obtain ⟨ability, hability⟩ := hvalid.ability
      rw [if_pos hvalid.1, hability]
      cases hentry : item.isEntry with
      | true =>
        rw [decidingModule_cons_entry hvalid hentry]
        simp [InnerBundleInfo.ability?, hability]
      | false =>
        rw [decidingModule_cons_valid hvalid hentry]
        cases hrest : decidingModule info.baseAbilityInfos rest with
        | none => simp [ih, hrest, InnerBundleInfo.ability?, hability]
        | some last =>
          obtain ⟨ability', hability'⟩ := (valid_of_decidingModule hrest).2.ability
          simp [ih, hrest, InnerBundleInfo.ability?, hability']
    · rw [decidingModule_cons_invalid hvalid, ← ih abilityInfo]
      split
      · next hkey =>
        split
        · next ability hability =>
          refine absurd ⟨hkey, ?_⟩ hvalid
          rw [Std.ExtTreeMap.contains_eq_isSome_getElem?, hability, Option.isSome_some]
        · rfl
      · rfl

/-- **`GetMainAbilityInfo`** stores the ability under `mainAbilityKey`, or nothing. -/
theorem getMainAbilityInfo_eq (info : InnerBundleInfo C) (abilityInfo : AbilityInfo C) :
    getMainAbilityInfo info abilityInfo =
      ((mainAbilityKey info).bind fun key => (info.baseAbilityInfos[key]?).map info.convert).getD abilityInfo := by
  unfold getMainAbilityInfo mainAbilityKey
  rw [mainAbilityLoop_eq, Option.bind_map]
  rfl

/-! ## Which module gives the key -/

theorem entryAbilityLoop_cons (abilities : StrMap (AbilityInfo C)) (item : InnerModuleInfo) (rest : List InnerModuleInfo)
    (key : Str) :
    entryAbilityLoop abilities (item :: rest) key =
      if Valid abilities item ∧ item.isEntry = true then item.entryAbilityKey
      else entryAbilityLoop abilities rest item.entryAbilityKey := by
  by_cases hvalid : Valid abilities item
  · rw [entryAbilityLoop]
    refine (if_pos hvalid).trans ?_
    simp only [hvalid, true_and]
  · rw [if_neg fun h => hvalid h.1]
    exact if_neg hvalid

theorem entryAbilityLoop_of_entry {abilities : StrMap (AbilityInfo C)} {modules : List InnerModuleInfo}
    (h : ∃ item ∈ modules, Valid abilities item ∧ item.isEntry = true) (key : Str) :
    some (entryAbilityLoop abilities modules key) = (decidingModule abilities modules).map (·.entryAbilityKey) := by
  induction modules generalizing key with
  | nil =>
    obtain ⟨item, hitem, -⟩ := h
    cases hitem
  | cons item rest ih =>
    rw [entryAbilityLoop_cons]
    by_cases hentry : Valid abilities item ∧ item.isEntry = true
    · rw [if_pos hentry, decidingModule_cons_entry hentry.1 hentry.2]
      rfl
    · have hrest : ∃ item ∈ rest, Valid abilities item ∧ item.isEntry = true := by
        obtain ⟨entry, hmem, h⟩ := h
        rcases List.mem_cons.mp hmem with rfl | hmem
        · exact absurd h hentry
        · exact ⟨entry, hmem, h⟩
      have hih := ih hrest item.entryAbilityKey
      rw [if_neg hentry, hih]
      by_cases hvalid : Valid abilities item
      · have hno : item.isEntry = false := by simpa [hvalid] using hentry
        rw [decidingModule_cons_valid hvalid hno]
        cases hdecides : decidingModule abilities rest with
        | none => simp [hdecides] at hih
        | some last => rfl
      · rw [decidingModule_cons_invalid hvalid]

theorem entryAbilityLoop_of_no_entry {abilities : StrMap (AbilityInfo C)} {modules : List InnerModuleInfo}
    (h : ∀ item ∈ modules, Valid abilities item → item.isEntry = false) (key : Str) :
    entryAbilityLoop abilities modules key = (modules.getLast?.map (·.entryAbilityKey)).getD key := by
  induction modules generalizing key with
  | nil => rfl
  | cons item rest ih =>
    have hrest := ih (fun i hi => h i (List.mem_cons_of_mem _ hi)) item.entryAbilityKey
    have hno : ¬ (Valid abilities item ∧ item.isEntry = true) := by
      rintro ⟨hvalid, hentry⟩
      rw [h item List.mem_cons_self hvalid] at hentry
      cases hentry
    rw [entryAbilityLoop_cons, if_neg hno, hrest, List.getLast?_cons]
    cases rest.getLast? <;> rfl

/-! ## When the two agree -/

/-- Both look at the same module: an entry module decides, or the last module decides, or no
module has a valid key and the last one has none at all. -/
def KeysAgree (info : InnerBundleInfo C) : Prop :=
  (∃ item ∈ info.modules, Valid info.baseAbilityInfos item ∧ item.isEntry = true) ∨
  (∃ last ∈ info.modules.getLast?, Valid info.baseAbilityInfos last) ∨
  ((∀ item ∈ info.modules, ¬ Valid info.baseAbilityInfos item) ∧
    ∀ last ∈ info.modules.getLast?, last.entryAbilityKey = [])

/-- `GetEntryAbilityKey` gives the key of the ability that `GetMainAbilityInfo` selects, or no
key; in particular, never a key that is not in the table. -/
structure EntryConsistent (info : InnerBundleInfo C) : Prop where
  same : getEntryAbilityKey info = (mainAbilityKey info).getD []
  inTable : getEntryAbilityKey info ≠ [] → info.baseAbilityInfos.contains (getEntryAbilityKey info)

theorem valid_of_decides {info : InnerBundleInfo C} {key : Str} (h : mainAbilityKey info = some key) :
    ∃ item ∈ info.modules, Valid info.baseAbilityInfos item ∧ item.entryAbilityKey = key := by
  obtain ⟨item, hitem, rfl⟩ := Option.map_eq_some_iff.mp h
  obtain ⟨hmem, hvalid⟩ := valid_of_decidingModule hitem
  exact ⟨item, hmem, hvalid, rfl⟩

theorem mainAbilityKey_eq_none {info : InnerBundleInfo C} :
    mainAbilityKey info = none ↔ ∀ item ∈ info.modules, ¬ Valid info.baseAbilityInfos item := by
  unfold mainAbilityKey decidingModule
  dsimp only
  rw [Option.map_eq_none_iff, Option.orElse_eq_none, List.getLast?_eq_none_iff]
  constructor
  · rintro ⟨-, hnil⟩ item hitem hvalid
    exact List.filter_eq_nil_iff.mp hnil item hitem (by simpa using hvalid)
  · intro h
    have hnil : (info.modules.filter fun item => Valid info.baseAbilityInfos item) = [] := by
      rw [List.filter_eq_nil_iff]
      intro item hitem hvalid
      exact h item hitem (by simpa using hvalid)
    rw [hnil]
    exact ⟨rfl, rfl⟩

/-- Without a valid entry module, the last valid module decides. -/
theorem mainAbilityKey_of_last {info : InnerBundleInfo C} {last : InnerModuleInfo}
    (hentry : ∀ item ∈ info.modules, Valid info.baseAbilityInfos item → item.isEntry = false)
    (hlast : info.modules.getLast? = some last) (hvalid : Valid info.baseAbilityInfos last) :
    mainAbilityKey info = some last.entryAbilityKey := by
  obtain ⟨front, hfront⟩ := List.getLast?_eq_some_iff.mp hlast
  have hfind : ((info.modules.filter fun item => Valid info.baseAbilityInfos item).find? fun item => item.isEntry) =
      none := by
    rw [List.find?_eq_none]
    intro item hitem
    have hitem' : item ∈ info.modules ∧ Valid info.baseAbilityInfos item := by simpa using hitem
    simp [hentry item hitem'.1 hitem'.2]
  unfold mainAbilityKey decidingModule
  dsimp only
  rw [hfind, hfront, List.filter_append, List.filter_cons_of_pos (by simpa using hvalid)]
  simp

/-- **The two agree** exactly if they look at the same module. -/
theorem entryConsistent_iff (info : InnerBundleInfo C) : EntryConsistent info ↔ KeysAgree info := by
  by_cases hentry : ∃ item ∈ info.modules, Valid info.baseAbilityInfos item ∧ item.isEntry = true
  · refine ⟨fun _ => .inl hentry, fun _ => ?_⟩
    have hkey : some (getEntryAbilityKey info) = mainAbilityKey info := entryAbilityLoop_of_entry hentry []
    obtain ⟨item, -, hvalid, hitem⟩ := valid_of_decides hkey.symm
    exact ⟨by rw [← hkey, Option.getD_some], fun _ => hitem ▸ hvalid.2⟩
  · have hno : ∀ item ∈ info.modules, Valid info.baseAbilityInfos item → item.isEntry = false := by
      intro item hitem hvalid
      by_contra h
      exact hentry ⟨item, hitem, hvalid, by simpa using h⟩
    have hkey : getEntryAbilityKey info = (info.modules.getLast?.map (·.entryAbilityKey)).getD [] :=
      entryAbilityLoop_of_no_entry hno []
    constructor
    · rintro ⟨hsame, -⟩
      rw [hkey] at hsame
      cases hmain : mainAbilityKey info with
      | none =>
        rw [hmain] at hsame
        refine .inr (.inr ⟨mainAbilityKey_eq_none.mp hmain, fun last hlast => ?_⟩)
        rw [Option.mem_def.mp hlast] at hsame
        exact hsame
      | some key =>
        obtain ⟨item, hitem, hvalid, rfl⟩ := valid_of_decides hmain
        obtain ⟨last, hlast⟩ := Option.ne_none_iff_exists'.mp
          (mt List.getLast?_eq_none_iff.mp (List.ne_nil_of_mem hitem))
        refine .inr (.inl ⟨last, hlast, ?_⟩)
        rw [hlast, hmain] at hsame
        have hsame' : last.entryAbilityKey = item.entryAbilityKey := hsame
        unfold Valid
        rw [hsame']
        exact hvalid
    · rintro (h | ⟨last, hlast, hvalid⟩ | ⟨hnone, hlast⟩)
      · exact absurd h hentry
      · rw [Option.mem_def] at hlast
        have hmain := mainAbilityKey_of_last hno hlast hvalid
        rw [hlast] at hkey
        exact ⟨by rw [hkey, hmain]; rfl, fun _ => by rw [hkey]; exact hvalid.2⟩
      · have hempty : getEntryAbilityKey info = [] := by
          rw [hkey]
          cases hl : info.modules.getLast? with
          | none => rfl
          | some last => exact hlast last hl
        refine ⟨?_, fun h => absurd hempty h⟩
        rw [hempty, mainAbilityKey_eq_none.mpr hnone]
        rfl

/-- A feature with an entry ability, and a library module behind it that has none. -/
def featureAndLibrary : InnerBundleInfo Unit where
  innerModuleInfos := ((∅ : StrMap InnerModuleInfo).insert ['f'] { entryAbilityKey := ['k'] }).insert ['l'] {}
  baseAbilityInfos := (∅ : StrMap (AbilityInfo Unit)).insert ['k'] { content := () }

/-- `GetMainAbilityInfo` selects the ability of the feature, and there is no key for it. -/
theorem entry_key_of_last_module :
    mainAbilityKey featureAndLibrary = some ['k'] ∧ getEntryAbilityKey featureAndLibrary = [] ∧
      ¬ EntryConsistent featureAndLibrary := by
  refine ⟨by decide +kernel, by decide +kernel, fun h => ?_⟩
  have hsame := h.same
  revert hsame
  decide +kernel

end BundleFramework.EntryAbility
