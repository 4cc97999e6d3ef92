import Mathlib

/-!
# JSON values whose objects are ordered maps

A document as a JSON library keeps it in memory: the fields of an object stand in an ordered
map, one value for each key.  `Json.object` holds them as a list, since a map type cannot nest
in an inductive one; `members` and `ofMembers` go between the two, and every operation acts on
the map:

    (ofMembers m).members = m                                               (members_ofMembers)
    (ofMembers m).set key value = some (ofMembers (m.insert key value))     (set_ofMembers)
    (ofMembers m).erase key = ofMembers (m.erase key)                       (erase_ofMembers)

Numbers are integers; texts are lists of characters.
-/

namespace JsonValue

open Std

inductive Json where
  | null
  | boolean (b : Bool)
  | number (n : Int)
  | string (s : List Char)
  | array (items : List Json)
  | object (fields : List (List Char × Json))

abbrev Members := ExtTreeMap (List Char) Json

namespace Json

/-- The fields of an object; any other value has none. -/
def members : Json → Members
  | .object fields => ExtTreeMap.ofList fields
  | _ => ∅

def ofMembers (m : Members) : Json := .object m.toList

/-- `find(key)`; what is no object has no key. -/
def find (j : Json) (key : List Char) : Option Json := j.members[key]?

/-- `j[key] = value`: null becomes an object first, any other value throws. -/
def set (j : Json) (key : List Char) (value : Json) : Option Json :=
  match j with
  | .null | .object _ => some (ofMembers (j.members.insert key value))
  | _ => none

/-- `erase(key)` of an object. -/
def erase (j : Json) (key : List Char) : Json := ofMembers (j.members.erase key)

def size : Json → Nat
  | .null => 0
  | .array items => items.length
  | .object fields => (members (.object fields)).size
  | _ => 1

/-- `items()`: an array counts its keys from 0, a simple value has the empty key. -/
def items : Json → List (List Char × Json)
  | .null => []
  | .array items => items.zipIdx.map fun (item, i) => ((toString i).toList, item)
  | .object fields => (members (.object fields)).toList
  | j => [([], j)]

/-! ## Objects are their members -/

@[simp] theorem members_ofMembers (m : Members) : (ofMembers m).members = m := by
  refine ExtTreeMap.ext_getElem? fun key => ?_
  show (ExtTreeMap.ofList m.toList)[key]? = m[key]?
  cases hkey : m[key]? with
  | none =>
    refine ExtTreeMap.getElem?_ofList_of_contains_eq_false ?_
    rw [List.contains_eq_mem, decide_eq_false_iff_not, List.mem_map]
    rintro ⟨⟨key', value⟩, hmem, rfl⟩
    rw [ExtTreeMap.mem_toList_iff_getElem?_eq_some, hkey] at hmem
    cases hmem
  | some value =>
    have hmem := ExtTreeMap.mem_toList_iff_getElem?_eq_some.mpr hkey
    exact ExtTreeMap.getElem?_ofList_of_mem ReflOrd.compare_self ExtTreeMap.distinct_keys_toList hmem

@[simp] theorem find_ofMembers (m : Members) (key : List Char) : (ofMembers m).find key = m[key]? := by
  unfold find
  rw [members_ofMembers]

@[simp] theorem items_ofMembers (m : Members) : (ofMembers m).items = m.toList := by
  show (ofMembers m).members.toList = m.toList
  rw [members_ofMembers]

theorem size_ofMembers_eq_zero {m : Members} : (ofMembers m).size = 0 ↔ m = ∅ := by
  show (ofMembers m).members.size = 0 ↔ m = ∅
  rw [members_ofMembers]
  exact ExtTreeMap.eq_empty_iff_size_eq_zero.symm

@[simp] theorem find_null (key : List Char) : Json.null.find key = none := ExtTreeMap.getElem?_empty

@[simp] theorem set_null (key : List Char) (value : Json) :
    Json.null.set key value = some (ofMembers ((∅ : Members).insert key value)) := rfl

@[simp] theorem set_ofMembers (m : Members) (key : List Char) (value : Json) :
    (ofMembers m).set key value = some (ofMembers (m.insert key value)) := by
  show some (ofMembers ((ofMembers m).members.insert key value)) = _
  rw [members_ofMembers]

@[simp] theorem erase_ofMembers (m : Members) (key : List Char) : (ofMembers m).erase key = ofMembers (m.erase key) := by
  unfold erase
  rw [members_ofMembers]

end Json

end JsonValue
