import BundleFramework.Base.Str
import BundleFramework.Lib.JsonValue

/-!
# The bundle state file

`bundle_state_storage.cpp` keeps the user settings of all bundles in one JSON file: one object
whose keys are `bundleName_userId`.  Every call reads the whole file and, if it changes anything,
writes it whole; the object without entries is written as an empty file.
`LoadAllBundleStateData` splits the keys again, at the last underline.

The file is absent or a text.  The JSON library is a parameter: `dump` prints a document
(`none` where it throws) and `parse` reads one (`none` for a discarded one); opening and writing
the file succeed.  The settings themselves go through `to_json` and `from_json` of
`bundle_user_info.cpp`, whose checks are modelled with them.

    store of the file after a run = last saves of the run, by name and user     (Runs.tracks)
    what is loaded = the store, keys split                                      (lookupUser_load)
    what is read of saved settings = `readBack` of them                         (fromJson_toJson)
-/

namespace BundleFramework.StateStorage

open Std BundleFramework JsonValue

def FILE_UNDERLINE : Str := ['_']

def INVALID_USERID : Int32 := -1

def MAX_JSON_ARRAY_LENGTH : Nat := 2048

def MAX_JSON_STRING_LENGTH : Nat := 4096

structure BundleUserInfo where
  enabled : Bool := true
  userId : Int32 := INVALID_USERID
  setEnabledCaller : Str := []
  disabledAbilities : List Str := []
  overlayModulesState : List Str := []
  deriving DecidableEq

def BUNDLE_USER_INFO_USER_ID : Str := "userId".toList
def BUNDLE_USER_INFO_ENABLE : Str := "enabled".toList
def BUNDLE_USER_INFO_DISABLE_ABILITIES : Str := "disabledAbilities".toList
def BUNDLE_USER_INFO_OVERLAY_STATE : Str := "overlayState".toList
def BUNDLE_USER_INFO_SET_ENABLED_CALLER : Str := "setEnabledCaller".toList

/-! ## `to_json` and `from_json` -/

def toJson (info : BundleUserInfo) : Json :=
  .ofMembers <| (∅ : Members)
    |>.insert BUNDLE_USER_INFO_USER_ID (.number info.userId.toInt)
    |>.insert BUNDLE_USER_INFO_ENABLE (.boolean info.enabled)
    |>.insert BUNDLE_USER_INFO_DISABLE_ABILITIES (.array (info.disabledAbilities.map .string))
    |>.insert BUNDLE_USER_INFO_OVERLAY_STATE (.array (info.overlayModulesState.map .string))
    |>.insert BUNDLE_USER_INFO_SET_ENABLED_CALLER (.string info.setEnabledCaller)

/-- The values of `parseResult`: `ERR_OK` and the two errors that an optional field can set. -/
inductive ParseResult where
  | ok
  | propTypeError
  | propSizeCheckError
  deriving DecidableEq

/-- `GetValueIfFindKey` and its variants for an optional key: nothing is read after an error.
`read` makes of the value found the new data and the result. -/
def getValueIfFindKey {α : Type} (read : Json → α → α × ParseResult) (jsonObject : Json) (key : Str)
    (data : α) (parseResult : ParseResult) : α × ParseResult :=
  if parseResult ≠ .ok then (data, parseResult)
  else match jsonObject.find key with
    | none => (data, parseResult)
    | some value => read value data

/-- `JsonType::NUMBER` into an `int32_t`. -/
def readNumber : Json → Int32 → Int32 × ParseResult
  | .number n, _ => (Int32.ofInt n, .ok)
  | _, data => (data, .propTypeError)

/-- `GetBoolValueIfFindKey`. -/
def readBool : Json → Bool → Bool × ParseResult
  | .boolean b, _ => (b, .ok)
  | _, data => (data, .propTypeError)

/-- `GetStrValueIfFindKey`: a text that is too long is taken over and reported. -/
def readStr : Json → Str → Str × ParseResult
  | .string s, _ => (s, if MAX_JSON_STRING_LENGTH < s.length then .propSizeCheckError else .ok)
  | _, data => (data, .propTypeError)

def asString : Json → Option Str
  | .string s => some s
  | _ => none

/-- `CheckArrayType` with `ArrayType::STRING`: an array that is too long is reported and not
taken over. -/
def checkArrayType (arrays : List Json) (data : List Str) : List Str × ParseResult :=
  if arrays.isEmpty then (data, .ok)
  else if MAX_JSON_ARRAY_LENGTH < arrays.length then (data, .propSizeCheckError)
  else match arrays.mapM asString with
    | some strings => (strings, .ok)
    | none => (data, .propTypeError)

/-- `JsonType::ARRAY`. -/
def readStrings : Json → List Str → List Str × ParseResult
  | .array arrays, data => checkArrayType arrays data
  | _, data => (data, .propTypeError)

/-- `from_json` into a fresh `BundleUserInfo`; an error ends in the log only. -/
def fromJson (jsonObject : Json) : BundleUserInfo :=
  let info : BundleUserInfo := {}
  let (userId, r) := getValueIfFindKey readNumber jsonObject BUNDLE_USER_INFO_USER_ID info.userId .ok
  let (enabled, r) := getValueIfFindKey readBool jsonObject BUNDLE_USER_INFO_ENABLE info.enabled r
  let (disabledAbilities, r) :=
    getValueIfFindKey readStrings jsonObject BUNDLE_USER_INFO_DISABLE_ABILITIES info.disabledAbilities r
  let (overlayModulesState, r) :=
    getValueIfFindKey readStrings jsonObject BUNDLE_USER_INFO_OVERLAY_STATE info.overlayModulesState r
  let (setEnabledCaller, _) :=
    getValueIfFindKey readStr jsonObject BUNDLE_USER_INFO_SET_ENABLED_CALLER info.setEnabledCaller r
  { enabled, userId, setEnabledCaller, disabledAbilities, overlayModulesState }

/-- What comes back of saved settings: from the first list with too many entries on, every field
that is read has its default. -/
def readBack (info : BundleUserInfo) : BundleUserInfo :=
  if MAX_JSON_ARRAY_LENGTH < info.disabledAbilities.length then
    { userId := info.userId, enabled := info.enabled }
  else if MAX_JSON_ARRAY_LENGTH < info.overlayModulesState.length then
    { userId := info.userId, enabled := info.enabled, disabledAbilities := info.disabledAbilities }
  else info

theorem find_toJson (info : BundleUserInfo) (key : Str) : (toJson info).find key =
    if key = BUNDLE_USER_INFO_SET_ENABLED_CALLER then some (.string info.setEnabledCaller)
    else if key = BUNDLE_USER_INFO_OVERLAY_STATE then some (.array (info.overlayModulesState.map .string))
    else if key = BUNDLE_USER_INFO_DISABLE_ABILITIES then some (.array (info.disabledAbilities.map .string))
    else if key = BUNDLE_USER_INFO_ENABLE then some (.boolean info.enabled)
    else if key = BUNDLE_USER_INFO_USER_ID then some (.number info.userId.toInt)
    else none := by
  unfold toJson
  rw [Json.find_ofMembers]
  simp only [MapLoop.getElem?_insert_eq, ExtTreeMap.getElem?_empty]

theorem mapM_asString (strings : List Str) : (strings.map Json.string).mapM asString = some strings := by
  induction strings with
  | nil => rfl
  | cons s strings ih =>
    rw [List.map_cons, List.mapM_cons, ih]
    rfl

theorem readStrings_strings (strings : List Str) :
    readStrings (.array (strings.map .string)) [] =
      if MAX_JSON_ARRAY_LENGTH < strings.length then ([], .propSizeCheckError) else (strings, .ok) := by
  show checkArrayType (strings.map .string) [] = _
  unfold checkArrayType
  rw [List.length_map, mapM_asString]
  cases strings with
  | nil => rfl
  | cons s strings => rfl

/-- **`from_json` after `to_json`.** -/
theorem fromJson_toJson (info : BundleUserInfo) : fromJson (toJson info) = readBack info := by
  have huser : (toJson info).find BUNDLE_USER_INFO_USER_ID = some (.number info.userId.toInt) := by
    rw [find_toJson, if_neg (by decide +kernel), if_neg (by decide +kernel), if_neg (by decide +kernel),
      if_neg (by decide +kernel), if_pos rfl]
  have henabled : (toJson info).find BUNDLE_USER_INFO_ENABLE = some (.boolean info.enabled) := by
    rw [find_toJson, if_neg (by decide +kernel), if_neg (by decide +kernel), if_neg (by decide +kernel), if_pos rfl]
  have hdisabled : (toJson info).find BUNDLE_USER_INFO_DISABLE_ABILITIES =
      some (.array (info.disabledAbilities.map .string)) := by
    rw [find_toJson, if_neg (by decide +kernel), if_neg (by decide +kernel), if_pos rfl]
  have hoverlay : (toJson info).find BUNDLE_USER_INFO_OVERLAY_STATE =
      some (.array (info.overlayModulesState.map .string)) := by
    rw [find_toJson, if_neg (by decide +kernel), if_pos rfl]
  have hcaller : (toJson info).find BUNDLE_USER_INFO_SET_ENABLED_CALLER = some (.string info.setEnabledCaller) := by
    rw [find_toJson, if_pos rfl]
  unfold fromJson getValueIfFindKey readBack
  simp only [huser, henabled, hdisabled, hoverlay, hcaller, readNumber, readBool, readStr, readStrings_strings,
    Int32.ofInt_toInt]
  by_cases hd : MAX_JSON_ARRAY_LENGTH < info.disabledAbilities.length
  · simp [hd]
  · by_cases ho : MAX_JSON_ARRAY_LENGTH < info.overlayModulesState.length
    · simp [hd, ho]
    · simp [hd, ho]

/-! ## Keys -/

def nameAndUserIdToKey (bundleName : Str) (userId : Int32) : Str :=
  bundleName ++ FILE_UNDERLINE ++ toDecimal userId.toInt

def isSpace (c : Char) : Bool := [' ', '\t', '\n', '\x0b', '\x0c', '\r'].contains c

/-- Whether a number has a minus, and what stands behind its sign. -/
def splitSign : Str → Bool × Str
  | '-' :: rest => (true, rest)
  | '+' :: rest => (false, rest)
  | str => (false, str)

/-- `atoi`: white space, a sign, digits; the value goes through a `long` to an `int`. -/
def atoi (str : Str) : Int32 :=
  let (negative, rest) := splitSign (str.dropWhile isSpace)
  let value : Int := Nat.ofDigitChars 10 (rest.takeWhile Char.isDigit) 0
  Int32.ofInt (if negative then max (-2 ^ 63) (-value) else min (2 ^ 63 - 1) value)

def keyToNameAndUserId (key : Str) : Option (Str × Int32) :=
  (strRFind key FILE_UNDERLINE).map fun pos => (key.take pos, atoi (key.drop (pos + 1)))

/-- The pairs that the calls accept. -/
def Valid (bundleName : Str) (userId : Int32) : Prop := bundleName ≠ [] ∧ 0 ≤ userId

instance (bundleName : Str) (userId : Int32) : Decidable (Valid bundleName userId) :=
  inferInstanceAs (Decidable (_ ∧ _))

theorem rejected_iff {bundleName : Str} {userId : Int32} :
    bundleName = [] ∨ userId < 0 ↔ ¬ Valid bundleName userId := by
  unfold Valid
  rw [not_and_or, not_not, Int32.not_le]

theorem isSpace_eq_false {c : Char} (h : c.isDigit = true) : isSpace c = false := by
  unfold isSpace
  rw [List.contains_eq_mem, decide_eq_false_iff_not]
  intro hmem
  fin_cases hmem <;> simp at h

theorem atoi_digits {digits : Str} (hne : digits ≠ []) (hdigits : ∀ c ∈ digits, c.isDigit = true)
    (hlt : Nat.ofDigitChars 10 digits 0 < 2 ^ 63) :
    atoi digits = Int32.ofInt (Nat.ofDigitChars 10 digits 0) := by
  cases digits with
  | nil => exact absurd rfl hne
  | cons c rest =>
    have hc := hdigits c List.mem_cons_self
    have hdrop : (c :: rest).dropWhile isSpace = c :: rest := by
      rw [List.dropWhile_cons, if_neg (by simp [isSpace_eq_false hc])]
    have htake : (c :: rest).takeWhile Char.isDigit = c :: rest := List.takeWhile_eq_self_iff.mpr hdigits
    have hsign : splitSign (c :: rest) = (false, c :: rest) := by
      unfold splitSign
      split
      · next heq =>
        rw [(List.cons.inj heq).1] at hc
        cases hc
      · next heq =>
        rw [(List.cons.inj heq).1] at hc
        cases hc
      · rfl
    unfold atoi
    rw [hdrop, hsign]
    show Int32.ofInt (if false = true then _ else min (2 ^ 63 - 1)
      ((Nat.ofDigitChars 10 ((c :: rest).takeWhile Char.isDigit) 0 : Nat) : Int)) = _
    rw [htake, if_neg (by simp), min_eq_right (by omega)]

theorem atoi_toDecimal {userId : Int32} (h : 0 ≤ userId) : atoi (toDecimal userId.toInt) = userId := by
  have hnonneg : 0 ≤ userId.toInt := by
    have := Int32.le_iff_toInt_le.mp h
    simpa using this
  have hbound : userId.toInt < 2 ^ 31 := userId.toInt_lt
  have hvalue : Nat.ofDigitChars 10 (Nat.toDigits 10 userId.toInt.toNat) 0 = userId.toInt.toNat :=
    Nat.ofDigitChars_toDigits (by omega) (by omega)
  rw [toDecimal_eq, if_pos hnonneg, atoi_digits Nat.toDigits_ne_nil, hvalue, Int.toNat_of_nonneg hnonneg]
  · exact Int32.ofInt_toInt userId
  · intro c hc
    exact Nat.isDigit_of_mem_toDigits (by omega) (by omega) hc
  · rw [hvalue]
    omega

theorem strRFind_underline_of_not_mem {s : Str} (h : '_' ∉ s) : strRFind s FILE_UNDERLINE = none := by
  induction s with
  | nil => rfl
  | cons c s ih =>
    have hc : c ≠ '_' := fun e => h (e ▸ List.mem_cons_self)
    unfold strRFind
    rw [ih fun hmem => h (List.mem_cons_of_mem _ hmem)]
    simp [FILE_UNDERLINE, List.isPrefixOf, hc.symm]

/-- The last underline of a key stands behind the name, whatever the name holds. -/
theorem strRFind_key (bundleName : Str) {suffix : Str} (h : '_' ∉ suffix) :
    strRFind (bundleName ++ '_' :: suffix) FILE_UNDERLINE = some bundleName.length := by
  induction bundleName with
  | nil =>
    rw [List.nil_append]
    unfold strRFind
    rw [strRFind_underline_of_not_mem h]
    rfl
  | cons c bundleName ih =>
    rw [List.cons_append]
    unfold strRFind
    rw [ih]
    rfl

/-- **A key is split as it was put together.** -/
theorem keyToNameAndUserId_key (bundleName : Str) {userId : Int32} (h : 0 ≤ userId) :
    keyToNameAndUserId (nameAndUserIdToKey bundleName userId) = some (bundleName, userId) := by
  have hkey : nameAndUserIdToKey bundleName userId = bundleName ++ '_' :: toDecimal userId.toInt := by
    simp [nameAndUserIdToKey, FILE_UNDERLINE]
  unfold keyToNameAndUserId
  rw [hkey, strRFind_key bundleName (underscore_not_mem_toDecimal _), Option.map_some, List.take_left]
  have hdrop : (bundleName ++ '_' :: toDecimal userId.toInt).drop (bundleName.length + 1) = toDecimal userId.toInt := by
    rw [← List.drop_drop, List.drop_left]
    rfl
  rw [hdrop, atoi_toDecimal h]

theorem key_inj {bundleName bundleName' : Str} {userId userId' : Int32} (h : Valid bundleName userId)
    (h' : Valid bundleName' userId') (hkey : nameAndUserIdToKey bundleName userId = nameAndUserIdToKey bundleName' userId') :
    (bundleName, userId) = (bundleName', userId') := by
  have hsplit := keyToNameAndUserId_key bundleName h.2
  rw [hkey, keyToNameAndUserId_key bundleName' h'.2] at hsplit
  exact (Option.some.inj hsplit).symm

/-! ## The file -/

/-- What the calls use of the JSON library. -/
structure JsonLib where
  dump : Json → Option Str
  parse : Str → Option Json

variable (json : JsonLib)

/-- `GetBundleStateJson`; `none` where it returns false.  The length goes through an `int`. -/
def getBundleStateJson (file : Option Str) : Option Json :=
  match file with
  | none => none
  | some text =>
    let len := Int.bmod text.length (2 ^ 32)
    if len = 0 then some .null else json.parse text

/-- Truncates the file and prints the document, unless it is empty. -/
def writeJson (rootJson : Json) : Option Str :=
  if rootJson.size = 0 then some [] else json.dump rootJson

/-- The result and the new file; `none` where the library throws. -/
def saveBundleStateStorage (file : Option Str) (bundleName : Str) (userId : Int32) (bundleUserInfo : BundleUserInfo) :
    Option (Bool × Option Str) :=
  if bundleName = [] ∨ userId < 0 then some (false, file)
  else do
    let appName := nameAndUserIdToKey bundleName userId
    let rootJson := (getBundleStateJson json file).getD .null
    let rootJson ← rootJson.set appName (toJson bundleUserInfo)
    let text ← writeJson json rootJson
    return (true, some text)

def getBundleStateStorage (file : Option Str) (bundleName : Str) (userId : Int32) : Option BundleUserInfo :=
  if bundleName = [] ∨ userId < 0 then none
  else do
    let jParse ← getBundleStateJson json file
    let value ← jParse.find (nameAndUserIdToKey bundleName userId)
    return fromJson value

def deleteBundleState (file : Option Str) (bundleName : Str) (userId : Int32) : Option (Bool × Option Str) :=
  if bundleName = [] ∨ userId < 0 then some (false, file)
  else
    let appName := nameAndUserIdToKey bundleName userId
    match getBundleStateJson json file with
    | none => some (false, file)
    | some jParse =>
      match jParse.find appName with
      | none => some (true, file)
      | some _ => (writeJson json (jParse.erase appName)).map fun text => (true, some text)

/-- `std::map<std::string, std::map<int32_t, BundleUserInfo>>`. -/
abbrev StateInfos := StrMap (ExtTreeMap Int32 BundleUserInfo)

/-- `infos[bundleName][userId] = bundleUserInfo`, as the three branches of the loop do it. -/
def putInfo (infos : StateInfos) (entry : (Str × Int32) × BundleUserInfo) : StateInfos :=
  let ((bundleName, userId), bundleUserInfo) := entry
  match infos[bundleName]? with
  | none => infos.insert bundleName ((∅ : ExtTreeMap Int32 BundleUserInfo).insert userId bundleUserInfo)
  | some users => infos.insert bundleName (users.insert userId bundleUserInfo)

def loadItem (infos : StateInfos) (item : Str × Json) : StateInfos :=
  match keyToNameAndUserId item.1 with
  | none => infos
  | some pair => putInfo infos (pair, fromJson item.2)

def loadAllBundleStateDataFromJson (jParse : Json) (infos : StateInfos) : Bool × StateInfos :=
  let infos := jParse.items.foldl loadItem infos
  (!infos.isEmpty, infos)

def loadAllBundleStateData (file : Option Str) (infos : StateInfos) : Bool × StateInfos :=
  match getBundleStateJson json file with
  | none => (false, infos)
  | some jParse => loadAllBundleStateDataFromJson jParse infos

/-! ## Runs -/

inductive Act where
  | save (bundleName : Str) (userId : Int32) (bundleUserInfo : BundleUserInfo)
  | delete (bundleName : Str) (userId : Int32)

def step (file : Option Str) : Act → Option (Option Str)
  | .save bundleName userId bundleUserInfo =>
    (saveBundleStateStorage json file bundleName userId bundleUserInfo).map Prod.snd
  | .delete bundleName userId => (deleteBundleState json file bundleName userId).map Prod.snd

/-- A file whose length the `int` does not make 0, or an empty one. -/
def Sized (file : Option Str) : Prop := ∀ text, file = some text → Int.bmod text.length (2 ^ 32) = 0 → text = []

/-- The runs from `start` whose writes succeed, by the acts made and the file left. -/
inductive Runs (start : Option Str) : List Act → Option Str → Prop where
  | nil : Runs start [] start
  | snoc {acts : List Act} {file file' : Option Str} {act : Act} :
      Runs start acts file → step json file act = some file' → Sized file' → Runs start (acts ++ [act]) file'

/-- The abstract store: what the acts make of one pair, in order. -/
def record (pair : Str × Int32) (last : Option BundleUserInfo) : Act → Option BundleUserInfo
  | .save bundleName userId bundleUserInfo => if (bundleName, userId) = pair then some bundleUserInfo else last
  | .delete bundleName userId => if (bundleName, userId) = pair then none else last

theorem record_save (pair : Str × Int32) (last : Option BundleUserInfo) (bundleName : Str) (userId : Int32)
    (info : BundleUserInfo) :
    record pair last (.save bundleName userId info) = if (bundleName, userId) = pair then some info else last := rfl

theorem record_delete (pair : Str × Int32) (last : Option BundleUserInfo) (bundleName : Str) (userId : Int32) :
    record pair last (.delete bundleName userId) = if (bundleName, userId) = pair then none else last := rfl

/-- The settings of the last save of the pair that no delete follows. -/
def lastSaved (acts : List Act) (pair : Str × Int32) : Option BundleUserInfo := acts.foldl (record pair) none

theorem lastSaved_snoc (acts : List Act) (act : Act) (pair : Str × Int32) :
    lastSaved (acts ++ [act]) pair = record pair (lastSaved acts pair) act := by
  unfold lastSaved
  rw [List.foldl_append]
  rfl

/-! ## The file holds a store -/

def document (store : StrMap BundleUserInfo) : Json := .ofMembers (store.map fun _ info => toJson info)

/-- The files that stand for a store, keys not split. -/
inductive Holds : Option Str → StrMap BundleUserInfo → Prop where
  | absent : Holds none ∅
  | empty : Holds (some []) ∅
  | printed {store : StrMap BundleUserInfo} {text : Str} :
      store ≠ ∅ → json.dump (document store) = some text → Holds (some text) store

theorem find_document (store : StrMap BundleUserInfo) (key : Str) :
    (document store).find key = store[key]?.map toJson := by
  unfold document
  rw [Json.find_ofMembers, ExtTreeMap.getElem?_map]

theorem set_document (store : StrMap BundleUserInfo) (key : Str) (info : BundleUserInfo) :
    (document store).set key (toJson info) = some (document (store.insert key info)) := by
  unfold document
  rw [Json.set_ofMembers]
  refine congrArg (some ∘ Json.ofMembers) (ExtTreeMap.ext_getElem? fun key' => ?_)
  rw [MapLoop.getElem?_insert_eq, ExtTreeMap.getElem?_map, ExtTreeMap.getElem?_map, MapLoop.getElem?_insert_eq]
  split <;> rfl

theorem set_null (key : Str) (info : BundleUserInfo) :
    Json.null.set key (toJson info) = some (document ((∅ : StrMap BundleUserInfo).insert key info)) := by
  rw [← set_document]
  unfold document
  rw [Json.set_null, Json.set_ofMembers]
  refine congrArg (fun m : Members => some (Json.ofMembers (m.insert key (toJson info)))) ?_
  refine ExtTreeMap.ext_getElem? fun key' => ?_
  rw [ExtTreeMap.getElem?_map, ExtTreeMap.getElem?_empty, ExtTreeMap.getElem?_empty]
  rfl

theorem erase_document (store : StrMap BundleUserInfo) (key : Str) :
    (document store).erase key = document (store.erase key) := by
  unfold document
  rw [Json.erase_ofMembers]
  refine congrArg Json.ofMembers (ExtTreeMap.ext_getElem? fun key' => ?_)
  rw [MapLoop.getElem?_erase_eq, ExtTreeMap.getElem?_map, ExtTreeMap.getElem?_map, MapLoop.getElem?_erase_eq]
  split <;> rfl

theorem size_document {store : StrMap BundleUserInfo} : (document store).size = 0 ↔ store = ∅ := by
  unfold document
  rw [Json.size_ofMembers_eq_zero]
  constructor
  · intro h
    refine ExtTreeMap.ext_getElem? fun key => ?_
    have hkey : (store.map fun _ info => toJson info)[key]? = none := by rw [h, ExtTreeMap.getElem?_empty]
    rw [ExtTreeMap.getElem?_map, Option.map_eq_none_iff] at hkey
    rw [hkey, ExtTreeMap.getElem?_empty]
  · rintro rfl
    refine ExtTreeMap.ext_getElem? fun key => ?_
    rw [ExtTreeMap.getElem?_map, ExtTreeMap.getElem?_empty, ExtTreeMap.getElem?_empty]
    rfl

/-- Writing a document leaves its store in the file. -/
theorem holds_of_write {store : StrMap BundleUserInfo} {text : Str} (h : writeJson json (document store) = some text) :
    Holds json (some text) store := by
  unfold writeJson at h
  by_cases hstore : store = ∅
  · rw [if_pos (size_document.mpr hstore), Option.some.injEq] at h
    rw [← h, hstore]
    exact .empty
  · rw [if_neg (mt size_document.mp hstore)] at h
    exact .printed hstore h

section
variable {json} (hparse : ∀ (j : Json) (text : Str), json.dump j = some text → json.parse text = some j)
  (hempty : json.parse [] = none)
include hparse hempty

/-- Reading the file gives the document of its store; for no entries it may fail or give null. -/
theorem Holds.read {file : Option Str} {store : StrMap BundleUserInfo} (h : Holds json file store) (hs : Sized file) :
    store = ∅ ∧ (getBundleStateJson json file = none ∨ getBundleStateJson json file = some .null) ∨
      getBundleStateJson json file = some (document store) := by
  cases h with
  | absent => exact .inl ⟨rfl, .inl rfl⟩
  | empty => exact .inl ⟨rfl, .inr rfl⟩
  | @printed store text hstore hdump =>
    have hread := hparse _ _ hdump
    have hlen : Int.bmod text.length (2 ^ 32) ≠ 0 := by
      intro h0
      rw [hs text rfl h0, hempty] at hread
      cases hread
    refine .inr ?_
    unfold getBundleStateJson
    simp only [if_neg hlen, hread]

theorem get_of_holds {file : Option Str} {store : StrMap BundleUserInfo} (h : Holds json file store) (hs : Sized file)
    {bundleName : Str} {userId : Int32} (hvalid : Valid bundleName userId) :
    getBundleStateStorage json file bundleName userId =
      (store[nameAndUserIdToKey bundleName userId]?).map readBack := by
  unfold getBundleStateStorage
  rw [if_neg fun hrejected => rejected_iff.mp hrejected hvalid]
  rcases h.read hparse hempty hs with ⟨rfl, hnone | hnull⟩ | hdoc
  · rw [hnone, ExtTreeMap.getElem?_empty]
    rfl
  · simp only [hnull, Option.bind_eq_bind, Option.bind_some, Json.find_null, Option.bind_none, ExtTreeMap.getElem?_empty,
      Option.map_none]
  · simp only [hdoc, Option.bind_eq_bind, Option.bind_some, find_document]
    cases store[nameAndUserIdToKey bundleName userId]? with
    | none => rfl
    | some info => exact congrArg some (fromJson_toJson info)

/-- What a save makes of the document that it read. -/
theorem set_of_holds {file : Option Str} {store : StrMap BundleUserInfo} (h : Holds json file store) (hs : Sized file)
    (key : Str) (info : BundleUserInfo) :
    ((getBundleStateJson json file).getD .null).set key (toJson info) = some (document (store.insert key info)) := by
  rcases h.read hparse hempty hs with ⟨rfl, hnone | hnull⟩ | hdoc
  · rw [hnone, Option.getD_none, set_null]
  · rw [hnull, Option.getD_some, set_null]
  · rw [hdoc, Option.getD_some, set_document]

theorem save_of_holds {file file' : Option Str} {store : StrMap BundleUserInfo} (h : Holds json file store)
    (hs : Sized file) {bundleName : Str} {userId : Int32} (hvalid : Valid bundleName userId) {info : BundleUserInfo}
    {result : Bool} (hsave : saveBundleStateStorage json file bundleName userId info = some (result, file')) :
    Holds json file' (store.insert (nameAndUserIdToKey bundleName userId) info) := by
  unfold saveBundleStateStorage at hsave
  rw [if_neg fun hrejected => rejected_iff.mp hrejected hvalid] at hsave
  have hset := set_of_holds hparse hempty h hs (nameAndUserIdToKey bundleName userId) info
  simp only [hset, Option.bind_eq_bind, Option.bind_some] at hsave
  obtain ⟨text, hwrite, heq⟩ := Option.bind_eq_some_iff.mp hsave
  obtain ⟨-, rfl⟩ := Prod.mk.inj (Option.some.inj heq)
  exact holds_of_write json hwrite

theorem delete_of_holds {file file' : Option Str} {store : StrMap BundleUserInfo} (h : Holds json file store)
    (hs : Sized file) {bundleName : Str} {userId : Int32} (hvalid : Valid bundleName userId)
    {result : Bool} (hdelete : deleteBundleState json file bundleName userId = some (result, file')) :
    Holds json file' (store.erase (nameAndUserIdToKey bundleName userId)) := by
  unfold deleteBundleState at hdelete
  rw [if_neg fun hrejected => rejected_iff.mp hrejected hvalid] at hdelete
  have hkept : store[nameAndUserIdToKey bundleName userId]? = none → file' = file →
      Holds json file' (store.erase (nameAndUserIdToKey bundleName userId)) := by
    rintro hnone rfl
    rwa [MapLoop.erase_eq_self_iff.mpr hnone]
  rcases h.read hparse hempty hs with ⟨rfl, hnone | hnull⟩ | hdoc
  · rw [hnone] at hdelete
    exact hkept ExtTreeMap.getElem?_empty (Prod.mk.inj (Option.some.inj hdelete)).2.symm
  · rw [hnull] at hdelete
    simp only [Json.find_null] at hdelete
    exact hkept ExtTreeMap.getElem?_empty (Prod.mk.inj (Option.some.inj hdelete)).2.symm
  · simp only [hdoc, find_document] at hdelete
    cases hkey : store[nameAndUserIdToKey bundleName userId]? with
    | none =>
      rw [hkey] at hdelete
      exact hkept hkey (Prod.mk.inj (Option.some.inj hdelete)).2.symm
    | some info =>
      simp only [hkey, Option.map_some, erase_document] at hdelete
      obtain ⟨text, hwrite, heq⟩ := Option.map_eq_some_iff.mp hdelete
      obtain ⟨-, rfl⟩ := Prod.mk.inj heq
      exact holds_of_write json hwrite

end

/-! ## The store is the last saves -/

/-- What a store holds after the acts, key by key. -/
structure Tracks (acts : List Act) (store : StrMap BundleUserInfo) : Prop where
  last : ∀ bundleName userId, Valid bundleName userId →
    store[nameAndUserIdToKey bundleName userId]? = lastSaved acts (bundleName, userId)
  keys : ∀ (key : Str) info, store[key]? = some info →
    ∃ bundleName userId, Valid bundleName userId ∧ key = nameAndUserIdToKey bundleName userId

theorem tracks_nil : Tracks [] ∅ where
  last _ _ _ := ExtTreeMap.getElem?_empty
  keys key info h := by
    rw [ExtTreeMap.getElem?_empty] at h
    cases h

section
variable {acts : List Act} {store : StrMap BundleUserInfo} {bundleName : Str} {userId : Int32}

theorem Tracks.save (h : Tracks acts store) (hvalid : Valid bundleName userId) (info : BundleUserInfo) :
    Tracks (acts ++ [.save bundleName userId info]) (store.insert (nameAndUserIdToKey bundleName userId) info) where
  last n u hnu := by
    rw [lastSaved_snoc, record_save, MapLoop.getElem?_insert_eq, h.last n u hnu]
    by_cases hpair : (bundleName, userId) = (n, u)
    · obtain ⟨rfl, rfl⟩ := Prod.mk.inj hpair
      rw [if_pos rfl, if_pos rfl]
    · rw [if_neg hpair, if_neg fun hkey => hpair (key_inj hnu hvalid hkey).symm]
  keys key info' hkey := by
    rw [MapLoop.getElem?_insert_eq] at hkey
    split at hkey
    · next heq => exact ⟨bundleName, userId, hvalid, heq⟩
    · exact h.keys key info' hkey

theorem Tracks.delete (h : Tracks acts store) (hvalid : Valid bundleName userId) :
    Tracks (acts ++ [.delete bundleName userId]) (store.erase (nameAndUserIdToKey bundleName userId)) where
  last n u hnu := by
    rw [lastSaved_snoc, record_delete, MapLoop.getElem?_erase_eq, h.last n u hnu]
    by_cases hpair : (bundleName, userId) = (n, u)
    · obtain ⟨rfl, rfl⟩ := Prod.mk.inj hpair
      rw [if_pos rfl, if_pos rfl]
    · rw [if_neg hpair, if_neg fun hkey => hpair (key_inj hnu hvalid hkey).symm]
  keys key info' hkey := by
    rw [MapLoop.getElem?_erase_eq] at hkey
    split at hkey
    · cases hkey
    · exact h.keys key info' hkey

/-- An act on a pair that the calls reject says nothing of the pairs they accept. -/
theorem Tracks.rejected (h : Tracks acts store) {act : Act}
    (hact : ∀ n u last, Valid n u → record (n, u) last act = last) : Tracks (acts ++ [act]) store where
  last n u hnu := by rw [lastSaved_snoc, hact n u _ hnu, h.last n u hnu]
  keys := h.keys

end

section
variable {json} (hparse : ∀ (j : Json) (text : Str), json.dump j = some text → json.parse text = some j)
  (hempty : json.parse [] = none)
include hparse hempty

theorem step_tracks {acts : List Act} {act : Act} {file file' : Option Str} {store : StrMap BundleUserInfo}
    (hholds : Holds json file store) (hs : Sized file) (htracks : Tracks acts store) (hstep : step json file act = some file') :
    ∃ store', Holds json file' store' ∧ Tracks (acts ++ [act]) store' := by
  cases act with
  | save bundleName userId info =>
    obtain ⟨⟨result, file'⟩, hsave, rfl⟩ := Option.map_eq_some_iff.mp hstep
    by_cases hvalid : Valid bundleName userId
    · exact ⟨_, save_of_holds hparse hempty hholds hs hvalid hsave, htracks.save hvalid info⟩
    · unfold saveBundleStateStorage at hsave
      rw [if_pos (rejected_iff.mpr hvalid)] at hsave
      obtain ⟨-, rfl⟩ := Prod.mk.inj (Option.some.inj hsave)
      refine ⟨store, hholds, htracks.rejected fun n u last hnu => if_neg ?_⟩
      rintro ⟨rfl, rfl⟩
      exact hvalid hnu
  | delete bundleName userId =>
    obtain ⟨⟨result, file'⟩, hdelete, rfl⟩ := Option.map_eq_some_iff.mp hstep
    by_cases hvalid : Valid bundleName userId
    · exact ⟨_, delete_of_holds hparse hempty hholds hs hvalid hdelete, htracks.delete hvalid⟩
    · unfold deleteBundleState at hdelete
      rw [if_pos (rejected_iff.mpr hvalid)] at hdelete
      obtain ⟨-, rfl⟩ := Prod.mk.inj (Option.some.inj hdelete)
      refine ⟨store, hholds, htracks.rejected fun n u last hnu => if_neg ?_⟩
      rintro ⟨rfl, rfl⟩
      exact hvalid hnu

/-- **Run lemma**: by induction on the run, the file holds the last saves. -/
theorem Runs.tracks {start file : Option Str} {acts : List Act} (hrun : Runs json start acts file)
    (hstart : start = none ∨ start = some []) :
    Sized file ∧ ∃ store, Holds json file store ∧ Tracks acts store := by
  induction hrun with
  | nil =>
    rcases hstart with rfl | rfl
    · refine ⟨?_, ∅, .absent, tracks_nil⟩
      intro text htext
      cases htext
    · refine ⟨?_, ∅, .empty, tracks_nil⟩
      intro text htext _
      exact (Option.some.inj htext).symm
  | snoc _ hstep hs' ih =>
    obtain ⟨hs, store, hholds, htracks⟩ := ih
    exact ⟨hs', step_tracks hparse hempty hholds hs htracks hstep⟩

end

/-! ## Loading -/

/-- What the loaded map has for a pair. -/
def lookupUser (infos : StateInfos) (pair : Str × Int32) : Option BundleUserInfo := infos[pair.1]?.bind (·[pair.2]?)

def splitItem (item : Str × Json) : Option ((Str × Int32) × BundleUserInfo) :=
  (keyToNameAndUserId item.1).map fun pair => (pair, fromJson item.2)

theorem lookupUser_putInfo (infos : StateInfos) (pair pair' : Str × Int32) (info : BundleUserInfo) :
    lookupUser (putInfo infos (pair, info)) pair' = if pair' = pair then some info else lookupUser infos pair' := by
  obtain ⟨n, u⟩ := pair
  obtain ⟨n', u'⟩ := pair'
  unfold lookupUser putInfo
  by_cases hn : n' = n
  · subst hn
    cases hinfos : infos[n']? with
    | none =>
      simp only [hinfos, MapLoop.getElem?_insert_eq, if_pos, Option.bind_some, Option.bind_none,
        ExtTreeMap.getElem?_empty, Prod.mk.injEq, true_and]
    | some users =>
      simp only [hinfos, MapLoop.getElem?_insert_eq, if_pos, Option.bind_some, Prod.mk.injEq, true_and]
  · have hpair : (n', u') ≠ (n, u) := fun heq => hn (Prod.mk.inj heq).1
    rw [if_neg hpair]
    cases hinfos : infos[n]? with
    | none => simp only [hinfos, MapLoop.getElem?_insert_eq, if_neg hn]
    | some users => simp only [hinfos, MapLoop.getElem?_insert_eq, if_neg hn]

theorem putInfo_local : MapLoop.Local putInfo lookupUser (fun _ info _ => some info) where
  self infos pair info := by rw [lookupUser_putInfo, if_pos rfl]
  other infos pair info pair' hne := by rw [lookupUser_putInfo, if_neg hne]

/-- The loop puts one after the other the entries whose key can be split. -/
theorem foldl_loadItem (items : List (Str × Json)) (infos : StateInfos) :
    items.foldl loadItem infos = (items.filterMap splitItem).foldl putInfo infos := by
  induction items generalizing infos with
  | nil => rfl
  | cons item items ih =>
    rw [List.foldl_cons, ih, List.filterMap_cons]
    unfold loadItem splitItem
    cases keyToNameAndUserId item.1 <;> rfl

/-- No name stands in the map without a user. -/
theorem foldl_putInfo_users {entries : List ((Str × Int32) × BundleUserInfo)} {infos : StateInfos}
    (h : ∀ (n : Str) users, infos[n]? = some users → ∃ u : Int32, users[u]?.isSome = true) :
    ∀ (n : Str) users, (entries.foldl putInfo infos)[n]? = some users → ∃ u : Int32, users[u]?.isSome = true := by
  induction entries generalizing infos with
  | nil => exact h
  | cons entry entries ih =>
    rw [List.foldl_cons]
    refine ih fun n users hn => ?_
    obtain ⟨⟨n', u'⟩, info⟩ := entry
    unfold putInfo at hn
    cases hinfos : infos[n']? with
    | none =>
      simp only [hinfos, MapLoop.getElem?_insert_eq] at hn
      split at hn
      · obtain rfl := Option.some.inj hn
        exact ⟨u', by rw [MapLoop.getElem?_insert_eq, if_pos rfl]; rfl⟩
      · exact h n users hn
    | some users' =>
      simp only [hinfos, MapLoop.getElem?_insert_eq] at hn
      split at hn
      · obtain rfl := Option.some.inj hn
        exact ⟨u', by rw [MapLoop.getElem?_insert_eq, if_pos rfl]; rfl⟩
      · exact h n users hn

/-- The entries of the file of a store, keys split. -/
def entries (store : StrMap BundleUserInfo) : List ((Str × Int32) × BundleUserInfo) :=
  (document store).items.filterMap splitItem

section
variable {acts : List Act} {store : StrMap BundleUserInfo} (htracks : Tracks acts store)
include htracks

/-- Every key of the file can be split, and stands for the pair it was made of. -/
theorem splitItem_of_mem {item : Str × Json} (hmem : item ∈ (store.map fun _ info => toJson info).toList) :
    ∃ n u saved, Valid n u ∧ store[nameAndUserIdToKey n u]? = some saved ∧ item.1 = nameAndUserIdToKey n u ∧
      splitItem item = some ((n, u), readBack saved) := by
  obtain ⟨key, value⟩ := item
  rw [ExtTreeMap.mem_toList_iff_getElem?_eq_some, ExtTreeMap.getElem?_map, Option.map_eq_some_iff] at hmem
  obtain ⟨saved, hkey, rfl⟩ := hmem
  obtain ⟨n, u, hvalid, rfl⟩ := htracks.keys key saved hkey
  refine ⟨n, u, saved, hvalid, hkey, rfl, ?_⟩
  unfold splitItem
  rw [keyToNameAndUserId_key n hvalid.2, Option.map_some, fromJson_toJson]

theorem mem_entries {pair : Str × Int32} {info : BundleUserInfo} :
    (pair, info) ∈ entries store ↔ Valid pair.1 pair.2 ∧ (lastSaved acts pair).map readBack = some info := by
  unfold entries document
  rw [Json.items_ofMembers, List.mem_filterMap]
  constructor
  · rintro ⟨item, hmem, hsplit⟩
    obtain ⟨n, u, saved, hvalid, hkey, -, hitem⟩ := splitItem_of_mem htracks hmem
    rw [hitem, Option.some.injEq] at hsplit
    obtain ⟨rfl, rfl⟩ := Prod.mk.inj hsplit
    refine ⟨hvalid, ?_⟩
    rw [← htracks.last n u hvalid, hkey, Option.map_some]
  · rintro ⟨hvalid, hlast⟩
    obtain ⟨n, u⟩ := pair
    rw [← htracks.last n u hvalid] at hlast
    obtain ⟨saved, hkey, rfl⟩ := Option.map_eq_some_iff.mp hlast
    refine ⟨(nameAndUserIdToKey n u, toJson saved), ?_, ?_⟩
    · rw [ExtTreeMap.mem_toList_iff_getElem?_eq_some, ExtTreeMap.getElem?_map, hkey]
      rfl
    · unfold splitItem
      rw [keyToNameAndUserId_key n hvalid.2, Option.map_some, fromJson_toJson]

theorem entries_distinct : (entries store).Pairwise fun a b => a.1 ≠ b.1 := by
  unfold entries document
  rw [Json.items_ofMembers, List.pairwise_filterMap]
  refine List.Pairwise.imp_of_mem ?_ (MapLoop.toList_distinct _)
  intro item item' hmem hmem' hne entry hentry entry' hentry' hsame
  obtain ⟨n, u, saved, -, -, hkey, hitem⟩ := splitItem_of_mem htracks hmem
  obtain ⟨n', u', saved', -, -, hkey', hitem'⟩ := splitItem_of_mem htracks hmem'
  rw [hitem, Option.some.injEq] at hentry
  rw [hitem', Option.some.injEq] at hentry'
  have hpair : (n, u) = (n', u') := by
    rw [← hentry, ← hentry'] at hsame
    exact hsame
  obtain ⟨rfl, rfl⟩ := Prod.mk.inj hpair
  exact hne (hkey.trans hkey'.symm)

/-- **What is loaded are the last saves**, pair by pair. -/
theorem lookupUser_load (pair : Str × Int32) : lookupUser ((entries store).foldl putInfo ∅) pair =
    if Valid pair.1 pair.2 then (lastSaved acts pair).map readBack else none := by
  have hloaded : ∀ info, (pair, info) ∈ entries store → lookupUser ((entries store).foldl putInfo ∅) pair = some info :=
    fun info hmem => putInfo_local.foldl_of_mem _ _ _ _ (entries_distinct htracks) hmem
  have habsent : (∀ info, (pair, info) ∉ entries store) → lookupUser ((entries store).foldl putInfo ∅) pair = none := by
    intro hnone
    rw [putInfo_local.foldl_of_not_mem _ _ _ hnone]
    unfold lookupUser
    rw [ExtTreeMap.getElem?_empty]
    rfl
  by_cases hvalid : Valid pair.1 pair.2
  · rw [if_pos hvalid]
    cases hlast : (lastSaved acts pair).map readBack with
    | none =>
      refine habsent fun info hmem => ?_
      rw [((mem_entries htracks).mp hmem).2] at hlast
      cases hlast
    | some info => exact hloaded info ((mem_entries htracks).mpr ⟨hvalid, hlast⟩)
  · rw [if_neg hvalid]
    exact habsent fun info hmem => hvalid ((mem_entries htracks).mp hmem).1

/-- Something is loaded just when something is saved. -/
theorem load_eq_empty : (entries store).foldl putInfo ∅ = ∅ ↔
    ∀ bundleName userId, Valid bundleName userId → lastSaved acts (bundleName, userId) = none := by
  constructor
  · intro hload n u hvalid
    have hlookup := lookupUser_load htracks (n, u)
    rw [hload, if_pos hvalid] at hlookup
    have hnone : (lastSaved acts (n, u)).map readBack = none := by
      rw [← hlookup]
      unfold lookupUser
      rw [ExtTreeMap.getElem?_empty]
      rfl
    exact Option.map_eq_none_iff.mp hnone
  · intro hnone
    refine ExtTreeMap.ext_getElem? fun n => ?_
    rw [ExtTreeMap.getElem?_empty]
    cases husers : ((entries store).foldl putInfo ∅)[n]? with
    | none => rfl
    | some users =>
      obtain ⟨u, hu⟩ := foldl_putInfo_users (fun n users h => nomatch ExtTreeMap.getElem?_empty.symm.trans h) n users husers
      have hlookup := lookupUser_load htracks (n, u)
      unfold lookupUser at hlookup
      rw [husers, Option.bind_some] at hlookup
      rw [hlookup] at hu
      split at hu
      · next hvalid =>
        rw [hnone n u hvalid] at hu
        cases hu
      · cases hu

end

/-- **The state file refines a map.**  After any run from an absent or an empty file, reading a
pair gives the settings of its last save that no delete follows, and fails where there are none;
loading gives exactly the pairs that have one, and returns true just when there is one. -/
theorem stateFile_refines {json : JsonLib}
    (hparse : ∀ (j : Json) (text : Str), json.dump j = some text → json.parse text = some j)
    (hempty : json.parse [] = none) {start file : Option Str} (hstart : start = none ∨ start = some [])
    {acts : List Act} (hrun : Runs json start acts file) :
    (∀ bundleName userId, Valid bundleName userId →
      getBundleStateStorage json file bundleName userId = (lastSaved acts (bundleName, userId)).map readBack) ∧
    (∀ bundleName userId, lookupUser (loadAllBundleStateData json file ∅).2 (bundleName, userId) =
      if Valid bundleName userId then (lastSaved acts (bundleName, userId)).map readBack else none) ∧
    (∀ (bundleName : Str) users, (loadAllBundleStateData json file ∅).2[bundleName]? = some users →
      ∃ userId : Int32, users[userId]?.isSome = true) ∧
    ((loadAllBundleStateData json file ∅).1 = true ↔
      ∃ bundleName userId, Valid bundleName userId ∧ lastSaved acts (bundleName, userId) ≠ none) := by
  obtain ⟨hs, store, hholds, htracks⟩ := hrun.tracks hparse hempty hstart
  have hload : loadAllBundleStateData json file ∅ =
      (!((entries store).foldl putInfo ∅).isEmpty, (entries store).foldl putInfo ∅) := by
    unfold loadAllBundleStateData
    rcases hholds.read hparse hempty hs with ⟨rfl, hnone | hnull⟩ | hdoc
    · rw [hnone]
      rfl
    · rw [hnull]
      rfl
    · rw [hdoc]
      show loadAllBundleStateDataFromJson (document store) ∅ = _
      unfold loadAllBundleStateDataFromJson
      simp only [foldl_loadItem]
      rfl
  rw [hload]
  refine ⟨?_, ?_, ?_, ?_⟩
  · intro bundleName userId hvalid
    rw [get_of_holds hparse hempty hholds hs hvalid, htracks.last bundleName userId hvalid]
  · intro bundleName userId
    exact lookupUser_load htracks (bundleName, userId)
  · exact foldl_putInfo_users fun n users h => nomatch ExtTreeMap.getElem?_empty.symm.trans h
  · rw [Bool.not_eq_true', ExtTreeMap.isEmpty_eq_false_iff, load_eq_empty htracks]
    simp only [not_forall, exists_prop, ne_eq]

theorem sized_some {text : Str} (hlen : Int.bmod text.length (2 ^ 32) ≠ 0) : Sized (some text) := by
  intro text' htext h0
  rw [← Option.some.inj htext] at h0
  exact absurd h0 hlen

theorem find?_eq_of_nodup {α β : Type} {l : List α} {f : α → β} (hnodup : (l.map f).Nodup) {x : α} (h : x ∈ l)
    {p : α → Bool} (hp : ∀ y, p y = true ↔ f x = f y) : l.find? p = some x := by
  cases hfind : l.find? p with
  | none => exact absurd ((hp x).mpr rfl) (List.find?_eq_none.mp hfind x h)
  | some y =>
    have heq := (hp y).mp (List.find?_some hfind)
    rw [List.inj_on_of_nodup_map hnodup h (List.mem_of_find?_eq_some hfind) heq]

open Classical in
/-- The library's answers about the documents of some stores and their texts. -/
noncomputable def recorded (docs : List (StrMap BundleUserInfo × Str)) : JsonLib where
  dump j := (docs.find? fun doc => j = document doc.1).map Prod.snd
  parse text := (docs.find? fun doc => text = doc.2).map fun doc => document doc.1

section
variable {docs : List (StrMap BundleUserInfo × Str)}

theorem recorded_parse (htexts : (docs.map Prod.snd).Nodup) (j : Json) (text : Str)
    (h : (recorded docs).dump j = some text) : (recorded docs).parse text = some j := by
  obtain ⟨doc, hfind, rfl⟩ := Option.map_eq_some_iff.mp h
  obtain rfl : j = document doc.1 := by simpa using List.find?_some hfind
  unfold recorded
  dsimp only
  rw [find?_eq_of_nodup htexts (List.mem_of_find?_eq_some hfind) fun y => decide_eq_true_iff]
  rfl

theorem recorded_dump (hdocs : (docs.map fun doc => document doc.1).Nodup) {store : StrMap BundleUserInfo} {text : Str}
    (h : (store, text) ∈ docs) : (recorded docs).dump (document store) = some text := by
  classical
  unfold recorded
  dsimp only
  rw [find?_eq_of_nodup hdocs h fun y => decide_eq_true_iff]
  rfl

theorem recorded_empty (hsized : ∀ store text, (store, text) ∈ docs → Int.bmod text.length (2 ^ 32) ≠ 0) :
    (recorded docs).parse [] = none := by
  unfold recorded
  dsimp only
  rw [List.find?_eq_none.mpr]
  · rfl
  · rintro ⟨store, text⟩ hdoc
    rw [decide_eq_true_iff]
    rintro rfl
    exact hsized store [] hdoc rfl

end

section
variable {json} (hparse : ∀ (j : Json) (text : Str), json.dump j = some text → json.parse text = some j)
  (hempty : json.parse [] = none) {start file : Option Str} {acts : List Act} {store : StrMap BundleUserInfo}
include hparse hempty

/-- A save whose document the library prints. -/
theorem Runs.save (hrun : Runs json start acts file) (h : Holds json file store) (hs : Sized file) {bundleName : Str}
    {userId : Int32} (hvalid : Valid bundleName userId) {info : BundleUserInfo} {text : Str}
    (hdump : json.dump (document (store.insert (nameAndUserIdToKey bundleName userId) info)) = some text)
    (hlen : Int.bmod text.length (2 ^ 32) ≠ 0) :
    Runs json start (acts ++ [.save bundleName userId info]) (some text) ∧
      Holds json (some text) (store.insert (nameAndUserIdToKey bundleName userId) info) := by
  have hne : store.insert (nameAndUserIdToKey bundleName userId) info ≠ ∅ := by
    intro hnil
    have hkey := congrArg (·[nameAndUserIdToKey bundleName userId]?) hnil
    rw [MapLoop.getElem?_insert_eq, if_pos rfl, ExtTreeMap.getElem?_empty] at hkey
    cases hkey
  have hset := set_of_holds hparse hempty h hs (nameAndUserIdToKey bundleName userId) info
  refine ⟨.snoc hrun ?_ (sized_some hlen), .printed hne hdump⟩
  show (saveBundleStateStorage json file bundleName userId info).map Prod.snd = _
  unfold saveBundleStateStorage writeJson
  rw [if_neg fun hrejected => rejected_iff.mp hrejected hvalid]
  simp only [hset, Option.bind_eq_bind, Option.bind_some, if_neg (mt size_document.mp hne), hdump]
  rfl

/-- A delete that leaves a document which the library prints. -/
theorem Runs.delete (hrun : Runs json start acts file) (h : Holds json file store) (hs : Sized file) {bundleName : Str}
    {userId : Int32} (hvalid : Valid bundleName userId) (hne : store.erase (nameAndUserIdToKey bundleName userId) ≠ ∅)
    {info : BundleUserInfo} (hkey : store[nameAndUserIdToKey bundleName userId]? = some info) {text : Str}
    (hdump : json.dump (document (store.erase (nameAndUserIdToKey bundleName userId))) = some text)
    (hlen : Int.bmod text.length (2 ^ 32) ≠ 0) : Runs json start (acts ++ [.delete bundleName userId]) (some text) := by
  have hread : getBundleStateJson json file = some (document store) := by
    refine (h.read hparse hempty hs).resolve_left fun hnil => ?_
    rw [hnil.1, ExtTreeMap.getElem?_empty] at hkey
    cases hkey
  refine .snoc hrun ?_ (sized_some hlen)
  show (deleteBundleState json file bundleName userId).map Prod.snd = _
  unfold deleteBundleState writeJson
  rw [if_neg fun hrejected => rejected_iff.mp hrejected hvalid]
  simp only [hread, find_document, hkey, Option.map_some, erase_document, if_neg (mt size_document.mp hne), hdump]

end

def textOf (lines : List String) : Str := lines.flatMap fun line => line.toList ++ ['\n']

/-! ### Two saves of one pair, and a delete of another -/

def firstInfo : BundleUserInfo := { userId := 0, setEnabledCaller := ['s', 'h'] }

def plainInfo : BundleUserInfo := { enabled := false, userId := 0, disabledAbilities := [['x']] }

def otherInfo : BundleUserInfo := { userId := 1 }

def plainActs : List Act :=
  [.save ['a', '_', '1'] 0 firstInfo, .save ['a', '_', '1'] 0 plainInfo, .save ['a'] 1 otherInfo, .delete ['a'] 1]

/-- The lines of one member of the printed object. -/
def memberLines (key : String) (abilities : List String) (enabled caller userId : String) : List String :=
  ["    \"" ++ key ++ "\": \x7b"] ++ abilities ++ ["        \"enabled\": " ++ enabled ++ ",",
    "        \"overlayState\": [],", "        \"setEnabledCaller\": \"" ++ caller ++ "\",",
    "        \"userId\": " ++ userId]

def firstLines : List String := memberLines "a_1_0" ["        \"disabledAbilities\": [],"] "true" "sh" "0"

def plainLines : List String :=
  memberLines "a_1_0" ["        \"disabledAbilities\": [", "            \"x\"", "        ],"] "false" "" "0"

def otherLines : List String := memberLines "a_1" ["        \"disabledAbilities\": [],"] "true" "" "1"

def objectText (lines : List String) : Str := textOf (["\x7b"] ++ lines ++ ["    \x7d"]) ++ ['\x7d']

def firstStore : StrMap BundleUserInfo := (∅ : StrMap BundleUserInfo).insert (nameAndUserIdToKey ['a', '_', '1'] 0) firstInfo

def plainStore : StrMap BundleUserInfo := firstStore.insert (nameAndUserIdToKey ['a', '_', '1'] 0) plainInfo

def bothStore : StrMap BundleUserInfo := plainStore.insert (nameAndUserIdToKey ['a'] 1) otherInfo

/-- What the file holds after each save; after the delete it is what it was after the second one. -/
def plainDocs : List (StrMap BundleUserInfo × Str) :=
  [(firstStore, objectText firstLines), (plainStore, objectText plainLines),
    (bothStore, objectText (otherLines ++ ["    \x7d,"] ++ plainLines))]

noncomputable def plainJson : JsonLib := recorded plainDocs

theorem plainDocs_texts : (plainDocs.map Prod.snd).Nodup := by
  refine List.Nodup.of_map List.length ?_
  decide +kernel

/-- The documents differ in what is read back of one of the two keys. -/
theorem plainDocs_documents : (plainDocs.map fun doc => document doc.1).Nodup := by
  let view := fun j : Json => (j.find (nameAndUserIdToKey ['a', '_', '1'] 0)).map fromJson
  let view' := fun j : Json => (j.find (nameAndUserIdToKey ['a'] 1)).map fromJson
  refine List.Nodup.of_map (fun j => (view j, view' j)) ?_
  rw [List.map_map]
  have hview : ∀ doc : StrMap BundleUserInfo × Str, (view (document doc.1), view' (document doc.1)) =
      ((doc.1[nameAndUserIdToKey ['a', '_', '1'] 0]?).map readBack, (doc.1[nameAndUserIdToKey ['a'] 1]?).map readBack) := by
    intro doc
    simp only [view, view', find_document, Option.map_map]
    have hread : fromJson ∘ toJson = readBack := funext fromJson_toJson
    rw [hread]
  rw [show ((fun j => (view j, view' j)) ∘ fun doc : StrMap BundleUserInfo × Str => document doc.1) = _ from funext hview]
  decide +kernel

theorem plainDocs_sized : ∀ store text, (store, text) ∈ plainDocs → Int.bmod text.length (2 ^ 32) ≠ 0 := by
  have hlengths : plainDocs.map (fun doc => doc.2.length) = [164, 188, 346] := by decide +kernel
  intro store text hdoc
  have hlen : text.length ∈ plainDocs.map (fun doc => doc.2.length) := List.mem_map_of_mem hdoc
  rw [hlengths] at hlen
  simp only [List.mem_cons, List.not_mem_nil, or_false] at hlen
  rcases hlen with hlen | hlen | hlen
  all_goals
    rw [hlen]
    decide

theorem plain_run : Runs plainJson none plainActs (some (objectText plainLines)) := by
  have hparse : ∀ j text, plainJson.dump j = some text → plainJson.parse text = some j := recorded_parse plainDocs_texts
  have hempty : plainJson.parse [] = none := recorded_empty plainDocs_sized
  have hdump : ∀ {store : StrMap BundleUserInfo} {text : Str}, (store, text) ∈ plainDocs →
      plainJson.dump (document store) = some text := fun h => recorded_dump plainDocs_documents h
  have hsized : ∀ {store : StrMap BundleUserInfo} {text : Str}, (store, text) ∈ plainDocs →
      Int.bmod text.length (2 ^ 32) ≠ 0 := fun h => plainDocs_sized _ _ h
  have hfirst : (firstStore, objectText firstLines) ∈ plainDocs := List.mem_cons_self
  have hplain : (plainStore, objectText plainLines) ∈ plainDocs := List.mem_cons_of_mem _ List.mem_cons_self
  have hboth : (bothStore, _) ∈ plainDocs := List.mem_cons_of_mem _ (List.mem_cons_of_mem _ List.mem_cons_self)
  have hnone : plainStore[nameAndUserIdToKey ['a'] 1]? = none := by decide +kernel
  have herase : bothStore.erase (nameAndUserIdToKey ['a'] 1) = plainStore := MapLoop.erase_insert_of_none hnone otherInfo
  obtain ⟨hrun, hholds⟩ := Runs.save hparse hempty .nil .absent (fun _ h => nomatch h) (by decide) (hdump hfirst) (hsized hfirst)
  obtain ⟨hrun, hholds⟩ :=
    hrun.save hparse hempty hholds (sized_some (hsized hfirst)) (by decide) (hdump hplain) (hsized hplain)
  obtain ⟨hrun, hholds⟩ :=
    hrun.save hparse hempty hholds (sized_some (hsized hplain)) (by decide) (hdump hboth) (hsized hboth)
  have hkey : bothStore[nameAndUserIdToKey ['a'] 1]? = some otherInfo := by decide +kernel
  have hne : bothStore.erase (nameAndUserIdToKey ['a'] 1) ≠ ∅ := by decide +kernel
  exact hrun.delete hparse hempty hholds (sized_some (hsized hboth)) (by decide) hne hkey (herase ▸ hdump hplain)
    (hsized hplain)

theorem stateFile_refines_plain :
    getBundleStateStorage plainJson (some (objectText plainLines)) ['a', '_', '1'] 0 = some plainInfo ∧
    getBundleStateStorage plainJson (some (objectText plainLines)) ['a'] 1 = none := by
  have hget := (stateFile_refines (recorded_parse plainDocs_texts) (recorded_empty plainDocs_sized) (.inl rfl) plain_run).1
  exact ⟨(hget ['a', '_', '1'] 0 (by decide)).trans (by decide), (hget ['a'] 1 (by decide)).trans (by decide)⟩

def longInfo : BundleUserInfo := { userId := 0, disabledAbilities := List.replicate 2049 ['x'] }

theorem length_longInfo : longInfo.disabledAbilities.length = 2049 := List.length_replicate

def longText : Str :=
  textOf ["\x7b", "    \"a_0\": \x7b", "        \"disabledAbilities\": ["] ++
    (List.replicate 2048 (textOf ["            \"x\","])).flatten ++
    textOf ["            \"x\"", "        ],", "        \"enabled\": true,", "        \"overlayState\": [],",
      "        \"setEnabledCaller\": \"\",", "        \"userId\": 0", "    \x7d"] ++ ['\x7d']

theorem length_longText : longText.length = 35001 := by
  unfold longText
  rw [List.length_append, List.length_append, List.length_append, List.length_flatten, List.map_replicate,
    List.sum_replicate]
  decide +kernel

def longDocs : List (StrMap BundleUserInfo × Str) :=
  [((∅ : StrMap BundleUserInfo).insert (nameAndUserIdToKey ['a'] 0) longInfo, longText)]

noncomputable def longJson : JsonLib := recorded longDocs

/-- With 2049 disabled abilities saved, none comes back. -/
theorem longList_not_read_back :
    (∀ j text, longJson.dump j = some text → longJson.parse text = some j) ∧ longJson.parse [] = none ∧
    Runs longJson none [.save ['a'] 0 longInfo] (some longText) ∧
    lastSaved [.save ['a'] 0 longInfo] (['a'], 0) = some longInfo ∧
    getBundleStateStorage longJson (some longText) ['a'] 0 = some { userId := 0 } ∧ longInfo ≠ { userId := 0 } := by
  have hlen : Int.bmod longText.length (2 ^ 32) ≠ 0 := by
    rw [length_longText]
    decide
  have hparse : ∀ j text, longJson.dump j = some text → longJson.parse text = some j :=
    recorded_parse (List.nodup_singleton _)
  have hempty : longJson.parse [] = none := by
    refine recorded_empty fun store text hdoc => ?_
    rw [(Prod.mk.inj (List.mem_singleton.mp hdoc)).2]
    exact hlen
  have hdump : longJson.dump (document ((∅ : StrMap BundleUserInfo).insert (nameAndUserIdToKey ['a'] 0) longInfo)) = some longText :=
    @recorded_dump longDocs (List.nodup_singleton _) _ _ List.mem_cons_self
  obtain ⟨hrun, -⟩ : Runs longJson none [.save ['a'] 0 longInfo] (some longText) ∧ _ :=
    Runs.save hparse hempty .nil .absent (fun _ h => nomatch h) (by decide) hdump hlen
  have hlast : lastSaved [.save ['a'] 0 longInfo] (['a'], 0) = some longInfo := by
    show record (['a'], 0) none (.save ['a'] 0 longInfo) = some longInfo
    rw [record_save, if_pos rfl]
  refine ⟨hparse, hempty, hrun, hlast, ?_, ?_⟩
  · obtain ⟨hs, store, hholds, htracks⟩ := hrun.tracks hparse hempty (.inl rfl)
    rw [get_of_holds hparse hempty hholds hs (by decide), htracks.last _ _ (by decide), hlast, Option.map_some]
    unfold readBack
    have hlong : MAX_JSON_ARRAY_LENGTH < longInfo.disabledAbilities.length := by
      rw [length_longInfo]
      decide
    rw [if_pos hlong]
    rfl
  · intro h
    have hlist := length_longInfo
    rw [h] at hlist
    cases hlist

end BundleFramework.StateStorage
