import BundleFramework.DefaultApp.Attempts

/-!
# Requests for a default application

A request succeeds with any of its attempts.  What it leaves behind then is said by the reads and
writes of the store: in a row that is made anew the entries of other types are lost, and in one
that is kept an old element stays where neither an attempt nor the clearing is written.
-/

namespace BundleFramework.DefaultApp

section
variable (services : Services) (answers : SetAnswers) (userId : Int) (type : Str) (element : Element)
  (mgr : DefaultAppMgr)

/-- The caller may set a default application of the user. -/
def Admitted : Prop :=
  verifyPermission services PERMISSION_SET_DEFAULT_APPLICATION = none ∧ services.hasUserId userId = true

/-- The attempts, by type and position. -/
abbrev attempts : List (Str × Nat) := (normalize services type).zipIdx

/-- Some attempt succeeds. -/
def AnySettable : Prop :=
  ∃ entry ∈ attempts services type, Succeeds services answers userId (normalize services type) element mgr entry

/-- Some attempt makes the row of the user anew. -/
def RowRemade : Prop :=
  ∃ entry ∈ attempts services type, Remakes services answers userId (normalize services type) element mgr entry

/-- Some attempt leaves the type with what is to be stored. -/
def Written (t : Str) : Prop :=
  ∃ entry ∈ attempts services type, entry.1 = t ∧
    Writes services answers userId (normalize services type) element mgr entry

instance (t : Str) : Decidable (Written services answers userId type element mgr t) :=
  inferInstanceAs (Decidable (∃ entry ∈ attempts services type, entry.1 = t ∧
    Writes services answers userId (normalize services type) element mgr entry))

/-- The first attempt for the type fails. -/
def FirstFails (t : Str) : Prop :=
  ∃ entry, (attempts services type).find? (·.1 = t) = some entry ∧
    ¬ Succeeds services answers userId (normalize services type) element mgr entry

/-- The reads of the attempt are answered. -/
def SetAnswers.Answered (answers : SetAnswers) (entry : Str × Nat) : Prop :=
  (answers.set entry.2).preset.query = true ∧ (answers.set entry.2).table.query = true

/-- A request that fails changes nothing; one that succeeds leaves the element or nothing for each
of its types, and the element where it is valid, can be written and all reads are answered. -/
structure AllOrNothing (res : SetResult) : Prop where
  failed : res.ret ≠ none → ∀ u, entries res.mgr.rows u = entries mgr.rows u
  set : res.ret = none → ∀ t ∈ normalize services type,
    ((entries res.mgr.rows userId)[t]? = some element ∧ Valid services mgr userId t element) ∨
      (entries res.mgr.rows userId)[t]? = none
  stored : res.ret = none → (∀ entry ∈ attempts services type, answers.Answered entry) →
    ∀ t ∈ normalize services type, Valid services mgr userId t element →
    (∀ entry ∈ attempts services type, entry.1 = t → (answers.set entry.2).table.insert = true) →
    (entries res.mgr.rows userId)[t]? = some element
  frame : ∀ u t, u ≠ userId ∨ t ∉ normalize services type → (entries res.mgr.rows u)[t]? = (entries mgr.rows u)[t]?

/-- The type is set or cleared, or has nothing that is to be cleared. -/
def Settled (t : Str) : Prop :=
  Written services answers userId type element mgr t ∨
    (FirstFails services answers userId type element mgr t ∧ Clears answers t) ∨
    (entries mgr.rows userId)[t]? = none ∨
    ((entries mgr.rows userId)[t]? = some element ∧ Valid services mgr userId t element)

/-- Where an attempt succeeds, and the row is made anew, it has no entries of other types; where
it is not, each type is settled. -/
def NothingLostOrLeft : Prop :=
  Admitted services userId → AnySettable services answers userId type element mgr →
    (RowRemade services answers userId type element mgr → ∀ t, t ∉ normalize services type →
      (entries mgr.rows userId)[t]? = none) ∧
    (¬ RowRemade services answers userId type element mgr → ∀ t ∈ normalize services type,
      Settled services answers userId type element mgr t)

variable {services answers userId type element mgr}

variable (answers element mgr) in
/-- A request that is refused for its caller or its type. -/
theorem setDefaultApplication_refused (order : HashOrder)
    (h : ¬ (Admitted services userId ∧ normalize services type ≠ [])) :
    ∃ err, setDefaultApplication services answers userId element order type mgr = { ret := some err, mgr } := by
  unfold setDefaultApplication
  split
  · next err _ => exact ⟨err, rfl⟩
  next hpermission =>
    split
    · exact ⟨_, rfl⟩
    next huser =>
      dsimp only
      split
      · exact ⟨_, rfl⟩
      next htypes => exact absurd ⟨⟨hpermission, by simpa using huser⟩, htypes⟩ h

/-- No attempt succeeds. -/
structure NothingSet (mgr : DefaultAppMgr) (res : SetResult) : Prop where
  ret : res.ret ≠ none
  entry : ∀ (u : Int) (t : Str), (entries res.mgr.rows u)[t]? = (entries mgr.rows u)[t]?

/-- A request that succeeds: failed types are cleared; in a row that is not made anew those that
could be set hold the element, in one that is nothing old is left. -/
structure SomeSet (services : Services) (answers : SetAnswers) (userId : Int) (type : Str) (element : Element)
    (mgr : DefaultAppMgr) (res : SetResult) : Prop where
  ret : res.ret = none
  other : ∀ (u : Int) (t : Str), u ≠ userId → (entries res.mgr.rows u)[t]? = (entries mgr.rows u)[t]?
  cleared : ∀ t, FirstFails services answers userId type element mgr t → Clears answers t →
    (entries res.mgr.rows userId)[t]? = none
  kept : ¬ RowRemade services answers userId type element mgr →
    ∀ t, ¬ (FirstFails services answers userId type element mgr t ∧ Clears answers t) →
      (entries res.mgr.rows userId)[t]? =
        if Written services answers userId type element mgr t then target element else (entries mgr.rows userId)[t]?
  remade : RowRemade services answers userId type element mgr → ∀ t,
    (entries res.mgr.rows userId)[t]? = none ∨ (entries res.mgr.rows userId)[t]? = target element ∧
      Written services answers userId type element mgr t

variable (answers element mgr) in
theorem setDefaultApplication_admitted (order : HashOrder)
    (hadmitted : Admitted services userId) (htypes : normalize services type ≠ []) :
    let res := setDefaultApplication services answers userId element order type mgr
    (¬ AnySettable services answers userId type element mgr ∧ NothingSet mgr res) ∨
      (AnySettable services answers userId type element mgr ∧
        SomeSet services answers userId type element mgr res) := by
  intro res
  have hres : res = setDefaultApplication services answers userId element order type mgr := rfl
  unfold setDefaultApplication at hres
  rw [hadmitted.1] at hres
  dsimp only at hres
  rw [hadmitted.2, if_neg (by decide), if_neg htypes] at hres
  have horigin := getDefaultInfo_entries userId answers.origin (normalize services type) mgr.rows
  have inv := loopInv_foldl (attempts services type) (List.nil_append _)
    (loopInv_nil services answers userId (normalize services type) element horigin)
  have hset := inv.isAnySet
  have hother := inv.other
  have hkept := inv.kept
  have hremade := inv.remade
  have hfailed := inv.failed
  have hret := inv.ret (by simpa using htypes)
  generalize (attempts services type).foldl (setStep services answers userId element) _ = st
    at hres hset hother hkept hremade hfailed hret
  by_cases hany : AnySettable services answers userId type element mgr
  · right
    rw [hset.mpr hany, if_neg (by decide)] at hres
    have hcurrent : entries res.mgr.rows =
        entries ((order.walk st.setResultMap).foldl (clearStep services answers userId) st.mgr).rows := by
      rw [hres]
      exact getDefaultInfo_entries _ _ _ _
    have hwalk : ∀ t, Failed (order.walk st.setResultMap) t ↔
        FirstFails services answers userId type element mgr t := by
      intro t
      refine Iff.trans ?_ (hfailed t)
      unfold Failed
      simp only [(order.perm st.setResultMap).mem_iff]
    refine ⟨hany, by rw [hres], fun u t hu => ?_, fun t hfirst hclear => ?_, fun hnot t hleft => ?_, fun hrow t => ?_⟩
    · rw [hcurrent, clearStep_foldl, if_neg fun h => hu h.1, hother u t hu]
    · rw [hcurrent, clearStep_foldl, if_pos ⟨rfl, (hwalk t).mpr hfirst, hclear⟩]
    · rw [hcurrent, clearStep_foldl, if_neg fun h => hleft ⟨(hwalk t).mp h.2.1, h.2.2⟩]
      exact hkept (fun e he hremakes => hnot ⟨e, he, hremakes⟩) t
    · rw [hcurrent, clearStep_foldl]
      split
      · exact .inl rfl
      · exact hremade hrow t
  · left
    rw [Bool.eq_false_of_not_eq_true fun h => hany (hset.mp h), if_pos (by decide)] at hres
    have hnone : ∀ e ∈ attempts services type,
        ¬ Succeeds services answers userId (normalize services type) element mgr e :=
      fun e he hsucceeds => hany ⟨e, he, hsucceeds⟩
    refine ⟨hany, ?_, fun u t => ?_⟩
    · rw [hres]
      exact hret hnone
    · rw [hres]
      by_cases hu : u = userId
      · subst hu
        rw [hkept (fun e he hremakes => hnone e he hremakes.2.1), if_neg]
        rintro ⟨e, he, -, hwrites⟩
        exact hnone e he hwrites.1
      · exact hother u t hu

theorem mem_of_written {t : Str} (h : Written services answers userId type element mgr t) :
    t ∈ normalize services type := by
  obtain ⟨entry, hentry, rfl, -⟩ := h
  exact List.fst_mem_of_mem_zipIdx hentry

theorem mem_of_firstFails {t : Str} (h : FirstFails services answers userId type element mgr t) :
    t ∈ normalize services type := by
  obtain ⟨entry, hfound, -⟩ := h
  obtain rfl : entry.1 = t := by simpa using List.find?_some hfound
  exact List.fst_mem_of_mem_zipIdx (List.mem_of_find?_eq_some hfound)

/-- The first attempt for a type of the request. -/
theorem first_attempt {t : Str} (h : t ∈ normalize services type) :
    ∃ entry ∈ attempts services type, entry.1 = t ∧ (attempts services type).find? (·.1 = t) = some entry := by
  cases hfound : (attempts services type).find? (·.1 = t) with
  | some entry =>
    exact ⟨entry, List.mem_of_find?_eq_some hfound, by simpa using List.find?_some hfound, rfl⟩
  | none =>
    rw [List.find?_eq_none] at hfound
    obtain ⟨i, hi, rfl⟩ := List.getElem_of_mem h
    have hmem : ((normalize services type)[i], i) ∈ attempts services type := by
      rw [List.mem_zipIdx_iff_getElem?]
      exact List.getElem?_eq_getElem hi
    exact absurd rfl (of_decide_eq_false (Bool.eq_false_of_not_eq_true (hfound _ hmem)))

/-- What a type that has been written may hold. -/
theorem target_of_written {t : Str} (h : Written services answers userId type element mgr t) :
    (target element = some element ∧ Valid services mgr userId t element) ∨ target element = none := by
  obtain ⟨entry, -, rfl, hwrites⟩ := h
  exact target_of_writes hwrites

theorem not_rowRemade_of_answered (h : ∀ entry ∈ attempts services type, answers.Answered entry) :
    ¬ RowRemade services answers userId type element mgr :=
  fun ⟨entry, hentry, hremakes⟩ => Bool.false_ne_true (hremakes.2.2.symm.trans (h entry hentry).2)

/-- With all reads answered, an attempt finds the element valid if it is. -/
theorem foundValid_of_answered (hanswered : ∀ entry ∈ attempts services type, answers.Answered entry)
    {entry : Str × Nat} (hentry : entry ∈ attempts services type) (hvalid : Valid services mgr userId entry.1 element) :
    FoundValid services answers userId (normalize services type) element mgr entry := by
  refine ⟨hvalid, or_iff_not_imp_left.mpr fun hneeds => ?_⟩
  rw [presetsRead_succ hentry]
  refine .inr ⟨?_, (hanswered entry hentry).1, ?_⟩
  · by_contra hother
    exact hneeds ((elementVerdict_of_ne hother _ _).trans (valid_iff.mp hvalid))
  · rintro ⟨-, e, he, -, -, -, -, hquery⟩
    exact Bool.false_ne_true (hquery.symm.trans (hanswered e he).2)

theorem NothingSet.allOrNothing {res : SetResult} (h : NothingSet mgr res) :
    AllOrNothing services answers userId type element mgr res where
  failed _ u := Std.ExtTreeMap.ext_getElem? (h.entry u)
  set hret := absurd hret h.ret
  stored hret := absurd hret h.ret
  frame u t _ := h.entry u t

/-- Where the row is made anew, the entries of other types are lost. -/
theorem SomeSet.allOrNothing_remade {res : SetResult} (h : SomeSet services answers userId type element mgr res)
    (hrow : RowRemade services answers userId type element mgr) :
    AllOrNothing services answers userId type element mgr res ↔
      ∀ t, t ∉ normalize services type → (entries mgr.rows userId)[t]? = none := by
  have hleft : ∀ t, t ∉ normalize services type → (entries res.mgr.rows userId)[t]? = none :=
    fun t ht => (h.remade hrow t).resolve_right fun hwritten => ht (mem_of_written hwritten.2)
  constructor
  · intro hall t ht
    rw [← hall.frame userId t (.inr ht), hleft t ht]
  · intro hnone
    refine ⟨fun hret => absurd h.ret hret, fun _ t ht => ?_,
      fun _ hanswered => absurd hrow (not_rowRemade_of_answered hanswered), fun u t hut => ?_⟩
    · rcases h.remade hrow t with hgone | ⟨hstored, hwritten⟩
      · exact .inr hgone
      · rw [hstored]
        exact target_of_written hwritten
    · by_cases hu : u = userId
      · subst hu
        have ht : t ∉ normalize services type := hut.resolve_left fun hne => hne rfl
        rw [hleft t ht, hnone t ht]
      · exact h.other u t hu

/-- Where the row is kept, and the clearing of a type that could not be set is not written, its
old element stays. -/
theorem SomeSet.allOrNothing_kept {res : SetResult} (h : SomeSet services answers userId type element mgr res)
    (hrow : ¬ RowRemade services answers userId type element mgr) :
    AllOrNothing services answers userId type element mgr res ↔
      ∀ t ∈ normalize services type, Settled services answers userId type element mgr t := by
  constructor
  · intro hall t ht
    by_cases hwritten : Written services answers userId type element mgr t
    · exact .inl hwritten
    by_cases hclears : FirstFails services answers userId type element mgr t ∧ Clears answers t
    · exact .inr (.inl hclears)
    have hkept := h.kept hrow t hclears
    rw [if_neg hwritten] at hkept
    have hset := hall.set h.ret t ht
    rw [hkept] at hset
    exact .inr (.inr hset.symm)
  · intro hsettled
    refine ⟨fun hret => absurd h.ret hret, fun _ t ht => ?_, fun _ hanswered t ht hvalid hinsert => ?_,
      fun u t hut => ?_⟩
    · by_cases hclears : FirstFails services answers userId type element mgr t ∧ Clears answers t
      · exact .inr (h.cleared t hclears.1 hclears.2)
      rw [h.kept hrow t hclears]
      by_cases hwritten : Written services answers userId type element mgr t
      · rw [if_pos hwritten]
        exact target_of_written hwritten
      · rw [if_neg hwritten]
        exact (((hsettled t ht).resolve_left hwritten).resolve_left hclears).symm
    · have hnamed : ¬ isElementEmpty element = true :=
        fun hempty => elementVerdict_of_empty hempty _ (valid_iff.mp hvalid)
      have hsucceeds : ∀ entry ∈ attempts services type, entry.1 = t →
          Succeeds services answers userId (normalize services type) element mgr entry := by
        rintro entry hentry rfl
        exact (succeeds_named hnamed).mpr
          ⟨foundValid_of_answered hanswered hentry hvalid, hinsert entry hentry rfl⟩
      obtain ⟨entry, hentry, hkey, hfound⟩ := first_attempt ht
      have hwritten : Written services answers userId type element mgr t :=
        ⟨entry, hentry, hkey, (writes_named hnamed).mpr (hsucceeds entry hentry hkey)⟩
      rw [h.kept hrow t, if_pos hwritten, target, if_neg hnamed]
      rintro ⟨⟨entry', hfound', hfails⟩, -⟩
      rw [hfound, Option.some.injEq] at hfound'
      subst hfound'
      exact hfails (hsucceeds entry hentry hkey)
    · by_cases hu : u = userId
      · subst hu
        have ht : t ∉ normalize services type := hut.resolve_left fun hne => hne rfl
        rw [h.kept hrow t fun hclears => ht (mem_of_firstFails hclears.1),
          if_neg fun hwritten => ht (mem_of_written hwritten)]
      · exact h.other u t hu

/-- **A request is all or nothing exactly if its clearing is written where it is needed, and the
row it writes has been read or has nothing to lose.** -/
theorem setDefaultApplication_allOrNothing_iff (services : Services) (answers : SetAnswers) (order : HashOrder)
    (userId : Int) (type : Str) (element : Element) (mgr : DefaultAppMgr) :
    AllOrNothing services answers userId type element mgr
        (setDefaultApplication services answers userId element order type mgr) ↔
      NothingLostOrLeft services answers userId type element mgr := by
  by_cases hlooked : Admitted services userId ∧ normalize services type ≠ []
  · obtain ⟨hadmitted, htypes⟩ := hlooked
    rcases setDefaultApplication_admitted answers element mgr order hadmitted htypes with
      ⟨hany, hnothing⟩ | ⟨hany, hsome⟩
    · exact iff_of_true hnothing.allOrNothing fun _ h => absurd h hany
    · constructor
      · exact fun hall _ _ => ⟨fun hrow => (hsome.allOrNothing_remade hrow).mp hall,
          fun hrow => (hsome.allOrNothing_kept hrow).mp hall⟩
      · intro h
        obtain ⟨hremade, hkept⟩ := h hadmitted hany
        by_cases hrow : RowRemade services answers userId type element mgr
        · exact (hsome.allOrNothing_remade hrow).mpr (hremade hrow)
        · exact (hsome.allOrNothing_kept hrow).mpr (hkept hrow)
  · obtain ⟨err, hrefused⟩ := setDefaultApplication_refused answers element mgr order hlooked
    rw [hrefused]
    refine iff_of_true ⟨fun _ _ => rfl, fun h => ?_, fun h => ?_, fun _ _ _ => rfl⟩ fun hadmitted hany => ?_
    · cases h
    · cases h
    · obtain ⟨entry, hentry, -⟩ := hany
      exact absurd ⟨hadmitted, List.ne_nil_of_mem (List.fst_mem_of_mem_zipIdx hentry)⟩ hlooked

end

/-! ## A request for two types

The element serves the first type only; the second has an old entry. -/

def textTypes : List Str := [['a'], ['b']]

def textServices : Services where
  matchEnv := {
    udmfEnabled := true
    isUtd := fun type => some (textTypes.contains type)
    getUniformDataTypesByMIMEType := fun mimeType => if mimeType = "text/x".toList then some textTypes else none
    getUniformDataTypesByFilenameExtension := fun _ => none
    getTypeDescriptor := fun type => some fun other => some (type = other)
    regexMatch := fun _ _ => none }
  getMimeTypes _ := ["text/x".toList]
  getFilenameExtensions _ := []
  isSystemApp := true
  isSelfCalling := true
  verifyCallingPermissionForAll _ := true
  hasUserId _ := true
  queryInfoAndSkillsByElement _ _ := some [{ actions := [ACTION_VIEW_DATA], uris := [{ type := ['a'] }] }]
  queryAbilityInfo _ _ _ := false
  isPermissionCheckEnabled := false
  getAccessTokenId _ _ _ := none
  verifyPermissionByCallingTokenId _ _ := false

def elementOf (bundleName : Str) : Element := { bundleName, moduleName := ['m'], abilityName := ['A'] }

def oldEntry : DefaultAppMgr where
  rows := Function.update (fun _ => none) 100 (some (.infos ((∅ : Infos).insert ['b'] (elementOf ['o']))))
  presetCache := none

/-- All is answered, apart from the writes of the clearing. -/
def clearAnswers (clear : Bool) : SetAnswers where
  set _ := {}
  clear _ := { table := { insert := clear } }
  origin _ := {}
  current _ := {}

def insertionOrder : HashOrder := ⟨id, fun m => List.Perm.refl m⟩

/-- The clearing is not written: the request succeeds, and the second type holds its old element. -/
theorem old_element_left_behind :
    let res := setDefaultApplication textServices (clearAnswers false) 100 (elementOf ['v']) insertionOrder
      "text/x".toList oldEntry
    (∀ entry, (clearAnswers false).Answered entry) ∧ res.ret = none ∧ ['b'] ∈ normalize textServices "text/x".toList ∧
    (entries res.mgr.rows 100)[['a']]? = some (elementOf ['v']) ∧
    (entries res.mgr.rows 100)[['b']]? = some (elementOf ['o']) ∧
    ¬ AllOrNothing textServices (clearAnswers false) 100 "text/x".toList (elementOf ['v']) oldEntry res := by
  intro res
  have hret : res.ret = none := by decide +kernel
  have htype : ['b'] ∈ normalize textServices "text/x".toList := by decide +kernel
  have hold : (entries res.mgr.rows 100)[['b']]? = some (elementOf ['o']) := by decide +kernel
  refine ⟨fun _ => ⟨rfl, rfl⟩, hret, htype, by decide +kernel, hold, fun h => ?_⟩
  have hset := h.set hret ['b'] htype
  rw [hold] at hset
  obtain ⟨hset, -⟩ | hset := hset
  · exact absurd hset (by decide)
  · cases hset

/-- The row is not read: that of a type the request is not about is lost. -/
example :
    let unread : SetAnswers := { clearAnswers true with set := fun _ => { table := { query := false } } }
    let res := setDefaultApplication textServices unread 100 (elementOf ['v']) insertionOrder ['a'] oldEntry
    res.ret = none ∧ ['b'] ∉ normalize textServices ['a'] ∧
      (entries oldEntry.rows 100)[['b']]? = some (elementOf ['o']) ∧ (entries res.mgr.rows 100)[['b']]? = none := by
  decide +kernel

end BundleFramework.DefaultApp
