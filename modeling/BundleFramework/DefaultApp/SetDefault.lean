import BundleFramework.DefaultApp.Validity

/-!
# Setting a default application

A type is normalised to a list of types, and the element is set for each of them.  Where it is
set for one, the types whose first attempt has failed are cleared, and the request succeeds; the
answer of the clearing is not looked at.

Without names the element stands for none, and the types are cleared.
-/

namespace BundleFramework.DefaultApp

/-- What the relational store answers during one `SetDefaultApplicationInternal`. -/
structure CallAnswers where
  /-- For the preset elements. -/
  preset : RdbAnswers := {}
  /-- For the entries of the user. -/
  table : RdbAnswers := {}

structure SetAnswers where
  /-- By the position of the type. -/
  set : Nat → CallAnswers
  /-- By the type that is cleared. -/
  clear : Str → CallAnswers
  /-- By the position of the type, before and after. -/
  origin : Nat → RdbAnswers
  current : Nat → RdbAnswers

/-- The order in which an `unordered_map` is walked. -/
structure HashOrder where
  walk : List (Str × Option ErrCode) → List (Str × Option ErrCode)
  perm : ∀ m, (walk m).Perm m

/-! ## Algorithm -/

def PERMISSION_SET_DEFAULT_APPLICATION : Str := "ohos.permission.SET_DEFAULT_APPLICATION".toList

def verifyPermission (services : Services) (permissionName : Str) : Option ErrCode :=
  if !services.isSystemApp then some .systemApiDenied
  else if !services.isSelfCalling && !services.verifyCallingPermissionForAll permissionName then
    some .permissionDenied
  else none

def setDefaultApplicationInternal (services : Services) (answers : CallAnswers) (userId : Int) (normalizedType : Str)
    (element : Element) (mgr : DefaultAppMgr) : Option ErrCode × DefaultAppMgr :=
  if isElementEmpty element then
    match deleteDefaultApplicationInfo answers.table userId normalizedType mgr.rows with
    | (false, rows) => (some .abilityAndTypeMismatch, { mgr with rows })
    | (true, rows) => (none, { mgr with rows })
  else
    match isElementValid services answers.preset mgr userId normalizedType element with
    | (some err, mgr) => (some err, mgr)
    | (none, mgr) =>
      match setDefaultApplicationInfo answers.table userId normalizedType element mgr.rows with
      | (false, rows) => (some .abilityAndTypeMismatch, { mgr with rows })
      | (true, rows) => (none, { mgr with rows })

def getDefaultInfo (answers : Nat → RdbAnswers) (userId : Int) (normalizedTypeVec : List Str) (rows : Rows) :
    StrMap (Option Element) × Rows :=
  normalizedTypeVec.zipIdx.foldl (fun acc entry =>
    let found := getDefaultApplicationInfo (answers entry.2) userId entry.1 acc.2
    (acc.1.insert entry.1 found.1, found.2)) (∅, rows)

def shouldSendEvent : Option Element → Option Element → Bool
  | some origin, some current => !origin.same current
  | origin, current => origin.isSome || current.isSome

/-- The types of the event, with those of an app type in its place; nothing is sent for none. -/
def sendDefaultAppChangeEvent (typeVec : List Str) : Option (List Str) :=
  let utdIdVec := typeVec.flatMap fun type =>
    if !isAppType type then [type]
    else
      match appTypes.find? (·.1 = type) with
      | none => []
      | some appType => appType.2
  if utdIdVec = [] then none else some utdIdVec

/-- The source walks a hash map here, so that the order of the types is its own. -/
def sendDefaultAppChangeEventIfNeeded (originStateMap currentStateMap : StrMap (Option Element)) : Option (List Str) :=
  sendDefaultAppChangeEvent (originStateMap.toList.filterMap fun originState =>
    match currentStateMap[originState.1]? with
    | none => none
    | some currentState => if shouldSendEvent originState.2 currentState then some originState.1 else none)

/-- `try_emplace` -/
def tryEmplace (m : List (Str × Option ErrCode)) (type : Str) (ret : Option ErrCode) : List (Str × Option ErrCode) :=
  if type ∈ m.map (·.1) then m else m ++ [(type, ret)]

structure SetState where
  mgr : DefaultAppMgr
  ret : Option ErrCode := none
  isAnySet : Bool := false
  setResultMap : List (Str × Option ErrCode) := []

structure SetResult where
  ret : Option ErrCode
  mgr : DefaultAppMgr
  /-- The types the change is told of. -/
  event : Option (List Str) := none

section
variable (services : Services) (answers : SetAnswers) (userId : Int) (element : Element)

/-- One turn of the loop over the types. -/
def setStep (st : SetState) (entry : Str × Nat) : SetState :=
  let called := setDefaultApplicationInternal services (answers.set entry.2) userId entry.1 element st.mgr
  { mgr := called.2
    ret := called.1
    isAnySet := st.isAnySet || called.1.isNone
    setResultMap := tryEmplace st.setResultMap entry.1 called.1 }

/-- Failed records are cleared. -/
def clearStep (mgr : DefaultAppMgr) (item : Str × Option ErrCode) : DefaultAppMgr :=
  if item.2 ≠ none then (setDefaultApplicationInternal services (answers.clear item.1) userId item.1 {} mgr).2 else mgr

def setDefaultApplication (order : HashOrder) (type : Str) (mgr : DefaultAppMgr) : SetResult :=
  match verifyPermission services PERMISSION_SET_DEFAULT_APPLICATION with
  | some err => { ret := some err, mgr }
  | none =>
    if !services.hasUserId userId then { ret := some .invalidUserId, mgr }
    else
      let normalizedTypeVector := normalize services type
      if normalizedTypeVector = [] then { ret := some .invalidType, mgr }
      else
        let origin := getDefaultInfo answers.origin userId normalizedTypeVector mgr.rows
        let st := normalizedTypeVector.zipIdx.foldl (setStep services answers userId element)
          { mgr := { mgr with rows := origin.2 } }
        if !st.isAnySet then { ret := st.ret, mgr := st.mgr }
        else
          let mgr := (order.walk st.setResultMap).foldl (clearStep services answers userId) st.mgr
          let current := getDefaultInfo answers.current userId normalizedTypeVector mgr.rows
          { ret := none
            mgr := { mgr with rows := current.2 }
            event := sendDefaultAppChangeEventIfNeeded origin.1 current.1 }

end

/-! ## One call -/

/-- What is to be stored. -/
def target (element : Element) : Option Element := if isElementEmpty element then none else some element

/-- A call for an element without names: it succeeds also where it finds nothing to delete. -/
structure DeleteSpec (answers : RdbAnswers) (userId : Int) (type : Str) (mgr : DefaultAppMgr)
    (res : Option ErrCode × DefaultAppMgr) : Prop where
  ret : res.1 = none ↔ answers.query = false ∨ answers.insert = true ∨ (entries mgr.rows userId)[type]? = none
  entry : ∀ (u : Int) (t : Str), (entries res.2.rows u)[t]? =
    if (u = userId ∧ t = type) ∧ answers.query = true ∧ answers.insert = true then none else (entries mgr.rows u)[t]?

/-- A call for an element with names: where the row has not been read, it is made anew. -/
structure StoreSpec (services : Services) (answers : CallAnswers) (userId : Int) (type : Str) (element : Element)
    (mgr : DefaultAppMgr) (res : Option ErrCode × DefaultAppMgr) : Prop where
  ret : res.1 = none ↔
    (isElementValid services answers.preset mgr userId type element).1 = none ∧ answers.table.insert = true
  entry : ∀ (u : Int) (t : Str), (entries res.2.rows u)[t]? =
    if u = userId ∧ res.1 = none then
      if t = type then some element else if answers.table.query = true then (entries mgr.rows u)[t]? else none
    else (entries mgr.rows u)[t]?
  presetCache : res.2.presetCache = (isElementValid services answers.preset mgr userId type element).2.presetCache

/-- `Function.update` of the entries, seen at a user and a type. -/
theorem getElem?_update_put (m : Int → Infos) (userId : Int) (type : Str) (e : Option Element) (u : Int) (t : Str) :
    (Function.update m userId (put (m userId) type e) u)[t]? = if u = userId ∧ t = type then e else (m u)[t]? := by
  by_cases hu : u = userId
  · subst hu
    rw [Function.update_self, getElem?_put]
    simp
  · rw [Function.update_of_ne hu, if_neg fun h => hu h.1]

section
variable (services : Services) (answers : CallAnswers) (userId : Int) (type : Str) {element : Element}

theorem setDefaultApplicationInternal_empty (hempty : isElementEmpty element = true) (mgr : DefaultAppMgr) :
    DeleteSpec answers.table userId type mgr
      (setDefaultApplicationInternal services answers userId type element mgr) := by
  have hret := deleteDefaultApplicationInfo_fst answers.table userId mgr.rows type
  have hentries := deleteDefaultApplicationInfo_entries answers.table userId mgr.rows type
  unfold setDefaultApplicationInternal
  rw [if_pos hempty]
  rcases hdeleted : deleteDefaultApplicationInfo answers.table userId type mgr.rows with ⟨deleted, rows⟩
  rw [hdeleted] at hret hentries
  dsimp only at hret hentries
  have hentry : ∀ (u : Int) (t : Str), (entries rows u)[t]? =
      if (u = userId ∧ t = type) ∧ answers.table.query = true ∧ answers.table.insert = true then none
      else (entries mgr.rows u)[t]? := by
    intro u t
    rw [hentries]
    by_cases hwritten : answers.table.query = true ∧ answers.table.insert = true
    · rw [if_pos hwritten, getElem?_update_put]
      simp only [hwritten, and_self, and_true]
    · rw [if_neg hwritten, if_neg fun h => hwritten h.2]
  cases deleted with
  | false => exact ⟨iff_of_false (Option.some_ne_none _) fun h => Bool.false_ne_true (hret.mpr h), hentry⟩
  | true => exact ⟨iff_of_true rfl (hret.mp rfl), hentry⟩

theorem setDefaultApplicationInternal_named (hnamed : ¬ isElementEmpty element = true) (mgr : DefaultAppMgr) :
    StoreSpec services answers userId type element mgr
      (setDefaultApplicationInternal services answers userId type element mgr) := by
  have hsame := isElementValid_sameData services answers.preset mgr userId type element
  unfold setDefaultApplicationInternal
  rw [if_neg hnamed]
  rcases hcheck : isElementValid services answers.preset mgr userId type element with ⟨err, mgr'⟩
  rw [hcheck] at hsame
  dsimp only at hsame
  cases err with
  | some err =>
    refine ⟨?_, fun u t => ?_, by rw [hcheck]⟩
    · rw [hcheck]
      exact iff_of_false (Option.some_ne_none err) fun h => Option.some_ne_none err h.1
    · rw [if_neg fun h => Option.some_ne_none err h.2]
      exact congrArg (fun m : Int → Infos => (m u)[t]?) hsame.entries
  | none =>
    have hret := setDefaultApplicationInfo_fst answers.table userId mgr'.rows type element
    have hentries := setDefaultApplicationInfo_entries answers.table userId mgr'.rows type element
    dsimp only
    rcases hset : setDefaultApplicationInfo answers.table userId type element mgr'.rows with ⟨written, rows⟩
    rw [hset] at hret hentries
    dsimp only at hret hentries
    rw [← hret, hsame.entries] at hentries
    cases written with
    | false =>
      rw [if_neg Bool.false_ne_true] at hentries
      refine ⟨?_, fun u t => ?_, by rw [hcheck]⟩
      · rw [hcheck, ← hret]
        exact iff_of_false (Option.some_ne_none _) fun h => Bool.false_ne_true h.2
      · rw [if_neg fun h => Option.some_ne_none _ h.2]
        exact congrArg (fun m : Int → Infos => (m u)[t]?) hentries
    | true =>
      rw [if_pos rfl] at hentries
      dsimp only
      refine ⟨?_, fun u t => ?_, by rw [hcheck]⟩
      · rw [hcheck, ← hret]
        exact iff_of_true rfl ⟨rfl, rfl⟩
      · dsimp only
        rw [hentries]
        by_cases hu : u = userId
        · subst hu
          have hwritten : u = u ∧ (none : Option ErrCode) = none := ⟨rfl, rfl⟩
          rw [Function.update_self, getElem?_put, if_pos hwritten]
          by_cases hquery : answers.table.query = true
          · rw [if_pos hquery, if_pos hquery]
          · rw [if_neg hquery, if_neg hquery, Std.ExtTreeMap.getElem?_empty]
        · rw [Function.update_of_ne hu, if_neg fun h => hu h.1]

variable {services answers userId type}

/-- A call that does not write the row of the preset elements, or finds them kept, leaves them. -/
theorem StoreSpec.presets {mgr : DefaultAppMgr} {res : Option ErrCode × DefaultAppMgr}
    (h : StoreSpec services answers userId type element mgr res)
    (hleft : res.2.presetCache.isSome = true ∨ entries res.2.rows initialUserId = entries mgr.rows initialUserId) :
    res.2.presets = mgr.presets := by
  have hsame := isElementValid_sameData services answers.preset mgr userId type element
  rw [← hsame.presets, DefaultAppMgr.presets, DefaultAppMgr.presets, ← h.presetCache, hsame.entries]
  cases hcache : res.2.presetCache with
  | some infos => rfl
  | none =>
    rw [hcache] at hleft
    exact hleft.resolve_left Bool.false_ne_true

end

end BundleFramework.DefaultApp
