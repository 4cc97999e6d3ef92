import BundleFramework.Base.Str
import BundleFramework.Lib.MapLoop

/-!
# Table of default applications

A row holds the default elements of a user by type, under the user id.  Some ids are no users:
`INITIAL_USER_ID` holds the preset elements, and each user has an id of its own for the elements
of the enterprise.

A row that is not there and a query that fails are the same to the caller; a row whose text does
not parse is deleted by the first query.
-/

namespace BundleFramework.DefaultApp

open Std MapLoop

structure Element where
  bundleName : Str := []
  moduleName : Str := []
  abilityName : Str := []
  extensionName : Str := []
  type : Str := []
  appIndex : Int := 0
  deriving DecidableEq, Repr

/-- `operator==`: the type is not compared. -/
def Element.same (e other : Element) : Bool :=
  e.bundleName == other.bundleName && e.moduleName == other.moduleName && e.abilityName == other.abilityName &&
    e.extensionName == other.extensionName && e.appIndex == other.appIndex

abbrev Infos := StrMap Element

inductive Row
  | infos (infos : Infos)
  /-- A text that does not parse. -/
  | discarded

abbrev Rows := Int → Option Row

def initialUserId : Int := -1

/-- What the relational store answers during one call. -/
structure RdbAnswers where
  query : Bool := true
  insert : Bool := true
  delete : Bool := true

/-! ## Algorithm -/

def getDataFromDb (answers : RdbAnswers) (userId : Int) (rows : Rows) : Option Infos × Rows :=
  match if answers.query then rows userId else none with
  | none => (none, rows)
  | some .discarded => (none, if answers.delete then Function.update rows userId none else rows)
  | some (.infos infos) => (some infos, rows)

def saveDataToDb (answers : RdbAnswers) (userId : Int) (infos : Infos) (rows : Rows) : Bool × Rows :=
  if answers.insert then (true, Function.update rows userId (some (.infos infos))) else (false, rows)

def getDefaultApplicationInfos (answers : RdbAnswers) (userId : Int) (rows : Rows) : Option Infos × Rows :=
  getDataFromDb answers userId rows

def getDefaultApplicationInfo (answers : RdbAnswers) (userId : Int) (type : Str) (rows : Rows) :
    Option Element × Rows :=
  match getDefaultApplicationInfos answers userId rows with
  | (none, rows) => (none, rows)
  | (some infos, rows) => (infos[type]?, rows)

def setDefaultApplicationInfos (answers : RdbAnswers) (userId : Int) (infos : Infos) (rows : Rows) : Bool × Rows :=
  saveDataToDb answers userId infos rows

/-- The answer of the query is not looked at: without one, the row is made anew. -/
def setDefaultApplicationInfo (answers : RdbAnswers) (userId : Int) (type : Str) (element : Element) (rows : Rows) :
    Bool × Rows :=
  let queried := getDefaultApplicationInfos answers userId rows
  saveDataToDb answers userId ((queried.1.getD ∅).insert type element) queried.2

/-- `true` also if the query fails. -/
def deleteDefaultApplicationInfo (answers : RdbAnswers) (userId : Int) (type : Str) (rows : Rows) : Bool × Rows :=
  match getDataFromDb answers userId rows with
  | (none, rows) => (true, rows)
  | (some infos, rows) =>
    if infos[type]? = none then (true, rows) else saveDataToDb answers userId (infos.erase type) rows

/-! ## Entries

What the table says of a user and a type, whatever the rows are. -/

def entries (rows : Rows) (userId : Int) : Infos :=
  match rows userId with
  | some (.infos infos) => infos
  | some .discarded => ∅
  | none => ∅

/-- The entry of one type becomes `element`. -/
def put (infos : Infos) (type : Str) : Option Element → Infos
  | some element => infos.insert type element
  | none => infos.erase type

theorem getElem?_put (infos : Infos) (type : Str) (element : Option Element) (t : Str) :
    (put infos type element)[t]? = if t = type then element else infos[t]? := by
  cases element with
  | some element => exact getElem?_insert_eq infos type t element
  | none => exact getElem?_erase_eq infos type t

theorem entries_update (rows : Rows) (userId : Int) (infos : Infos) :
    entries (Function.update rows userId (some (.infos infos))) = Function.update (entries rows) userId infos := by
  funext u
  unfold entries
  by_cases hu : u = userId
  · subst hu
    rw [Function.update_self, Function.update_self]
  · rw [Function.update_of_ne hu, Function.update_of_ne hu]

theorem entries_delete_discarded {rows : Rows} {userId : Int} (h : rows userId = some .discarded) :
    entries (Function.update rows userId none) = entries rows := by
  funext u
  unfold entries
  by_cases hu : u = userId
  · subst hu
    rw [Function.update_self, h]
  · rw [Function.update_of_ne hu]

section
variable (answers : RdbAnswers) (userId : Int) (rows : Rows)

theorem getDataFromDb_entries : entries (getDataFromDb answers userId rows).2 = entries rows := by
  unfold getDataFromDb
  cases answers.query with
  | false => rfl
  | true =>
    rw [if_pos rfl]
    cases hrow : rows userId with
    | none => rfl
    | some row =>
      cases row with
      | infos infos => rfl
      | discarded =>
        dsimp only
        split
        · exact entries_delete_discarded hrow
        · rfl

/-- A query that is answered finds the entries. -/
theorem getDataFromDb_getD (hquery : answers.query = true) :
    (getDataFromDb answers userId rows).1.getD ∅ = entries rows userId := by
  unfold getDataFromDb entries
  rw [hquery, if_pos rfl]
  cases rows userId with
  | none => rfl
  | some row => cases row <;> rfl

theorem getDataFromDb_unanswered (hquery : answers.query = false) :
    getDataFromDb answers userId rows = (none, rows) := by
  unfold getDataFromDb
  rw [hquery, if_neg Bool.false_ne_true]

theorem getDataFromDb_some {infos : Infos} (h : (getDataFromDb answers userId rows).1 = some infos) :
    infos = entries rows userId := by
  cases hquery : answers.query with
  | false =>
    rw [getDataFromDb_unanswered answers userId rows hquery] at h
    cases h
  | true => rw [← getDataFromDb_getD answers userId rows hquery, h, Option.getD_some]

theorem getDataFromDb_none (hquery : answers.query = true) (h : (getDataFromDb answers userId rows).1 = none) :
    entries rows userId = ∅ := by
  rw [← getDataFromDb_getD answers userId rows hquery, h, Option.getD_none]

theorem saveDataToDb_fst (infos : Infos) : (saveDataToDb answers userId infos rows).1 = answers.insert := by
  unfold saveDataToDb
  split
  · next h => exact h.symm
  · next h => exact (Bool.eq_false_of_not_eq_true h).symm

theorem saveDataToDb_entries (infos : Infos) :
    entries (saveDataToDb answers userId infos rows).2 =
      if answers.insert then Function.update (entries rows) userId infos else entries rows := by
  unfold saveDataToDb
  split
  · exact entries_update rows userId infos
  · rfl

theorem getDefaultApplicationInfo_entries (type : Str) :
    entries (getDefaultApplicationInfo answers userId type rows).2 = entries rows := by
  have h := getDataFromDb_entries answers userId rows
  unfold getDefaultApplicationInfo getDefaultApplicationInfos
  rcases hqueried : getDataFromDb answers userId rows with ⟨infos, rows'⟩
  rw [hqueried] at h
  cases infos <;> exact h

theorem getDefaultApplicationInfo_fst (hquery : answers.query = true) (type : Str) :
    (getDefaultApplicationInfo answers userId type rows).1 = (entries rows userId)[type]? := by
  have h := getDataFromDb_getD answers userId rows hquery
  unfold getDefaultApplicationInfo getDefaultApplicationInfos
  rw [← h]
  rcases getDataFromDb answers userId rows with ⟨infos, rows'⟩
  cases infos with
  | none => exact ExtTreeMap.getElem?_empty.symm
  | some infos => rfl

theorem setDefaultApplicationInfo_fst (type : Str) (element : Element) :
    (setDefaultApplicationInfo answers userId type element rows).1 = answers.insert :=
  saveDataToDb_fst answers userId _ _

theorem setDefaultApplicationInfo_entries (type : Str) (element : Element) :
    entries (setDefaultApplicationInfo answers userId type element rows).2 =
      if answers.insert then
        Function.update (entries rows) userId (put (if answers.query then entries rows userId else ∅) type (some element))
      else entries rows := by
  unfold setDefaultApplicationInfo getDefaultApplicationInfos
  dsimp only
  rw [saveDataToDb_entries, getDataFromDb_entries]
  cases hquery : answers.query with
  | false =>
    rw [getDataFromDb_unanswered answers userId rows hquery, if_neg Bool.false_ne_true]
    rfl
  | true =>
    rw [getDataFromDb_getD answers userId rows hquery, if_pos rfl]
    rfl

/-- A deletion succeeds if it is written or if nothing is found to delete. -/
theorem deleteDefaultApplicationInfo_fst (type : Str) :
    (deleteDefaultApplicationInfo answers userId type rows).1 = true ↔
      answers.query = false ∨ answers.insert = true ∨ (entries rows userId)[type]? = none := by
  cases hquery : answers.query with
  | false =>
    unfold deleteDefaultApplicationInfo
    rw [getDataFromDb_unanswered answers userId rows hquery]
    exact iff_of_true rfl (.inl rfl)
  | true =>
    rw [or_iff_right Bool.false_ne_true.symm]
    have h := getDataFromDb_getD answers userId rows hquery
    unfold deleteDefaultApplicationInfo
    rw [← h]
    rcases getDataFromDb answers userId rows with ⟨infos, rows'⟩
    cases infos with
    | none => exact iff_of_true rfl (.inr ExtTreeMap.getElem?_empty)
    | some infos =>
      rw [Option.getD_some]
      dsimp only
      split
      · next habsent => exact iff_of_true rfl (.inr habsent)
      · next hpresent => rw [saveDataToDb_fst, or_iff_left hpresent]

theorem deleteDefaultApplicationInfo_entries (type : Str) :
    entries (deleteDefaultApplicationInfo answers userId type rows).2 =
      if answers.query = true ∧ answers.insert = true then
        Function.update (entries rows) userId (put (entries rows userId) type none)
      else entries rows := by
  have hkeep : (entries rows userId)[type]? = none →
      Function.update (entries rows) userId (put (entries rows userId) type none) = entries rows := by
    intro habsent
    rw [put, erase_eq_self_iff.mpr habsent, Function.update_eq_self]
  cases hquery : answers.query with
  | false =>
    unfold deleteDefaultApplicationInfo
    rw [getDataFromDb_unanswered answers userId rows hquery, if_neg fun h => Bool.false_ne_true h.1]
  | true =>
    have h := getDataFromDb_getD answers userId rows hquery
    have hentries := getDataFromDb_entries answers userId rows
    unfold deleteDefaultApplicationInfo
    simp only [true_and]
    rcases hqueried : getDataFromDb answers userId rows with ⟨infos, rows'⟩
    rw [hqueried] at h hentries
    cases infos with
    | none =>
      have habsent : (entries rows userId)[type]? = none := by
        rw [← h]
        exact ExtTreeMap.getElem?_empty
      rw [hkeep habsent, ite_self]
      exact hentries
    | some infos =>
      rw [Option.getD_some] at h
      subst h
      dsimp only at hentries ⊢
      split
      · next habsent => rw [hkeep habsent, ite_self, hentries]
      · rw [saveDataToDb_entries, hentries]
        rfl

end

end BundleFramework.DefaultApp
