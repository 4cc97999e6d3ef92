import BundleFramework.Base.Str

/-!
# Dual-mode helper: distribution policies, device mode, clone names

`dual_mode_helper.cpp` and the two name functions of `inner_bundle_clone_common.h`.
A policy is an `int32_t` enumeration that is also filled by a cast from a parsed
number, so values outside 0..8 exist (`other`) and `isValidPolicySet` has to reject
them.

`StrToInt` and `SplitStr` come from another repository; they are the fields of
`StringEx`.  What is used of them: `"10000"` is read as the number 10000
(`StringEx.ReadsCloneIndex`).
-/

namespace BundleFramework

open Std

/-! ## Policies -/

/-- `enum class DeviceModeDistributionPolicy : int32_t`. -/
inductive DeviceModeDistributionPolicy where
  | UNSPECIFIED
  | MAIN_ONLY
  | SUB_ONLY
  | UNIVERSAL_IDENTICAL_PACKAGE
  | UNIVERSAL_DIFFERENT_PACKAGE
  | PARTIAL_COMPATIBLE_IDENTICAL_PACKAGE
  | PARTIAL_COMPATIBLE_DIFFERENT_PACKAGE
  | FULL_COMPATIBLE_IDENTICAL_PACKAGE
  | FULL_COMPATIBLE_DIFFERENT_PACKAGE
  | other (value : Int) (outside : value < 0 ∨ 8 < value)
  deriving DecidableEq

namespace DeviceModeDistributionPolicy

/-- `static_cast<int32_t>(policy)`. -/
def toInt : DeviceModeDistributionPolicy → Int
  | UNSPECIFIED => 0
  | MAIN_ONLY => 1
  | SUB_ONLY => 2
  | UNIVERSAL_IDENTICAL_PACKAGE => 3
  | UNIVERSAL_DIFFERENT_PACKAGE => 4
  | PARTIAL_COMPATIBLE_IDENTICAL_PACKAGE => 5
  | PARTIAL_COMPATIBLE_DIFFERENT_PACKAGE => 6
  | FULL_COMPATIBLE_IDENTICAL_PACKAGE => 7
  | FULL_COMPATIBLE_DIFFERENT_PACKAGE => 8
  | other value _ => value

/-- `static_cast<DeviceModeDistributionPolicy>(value)`. -/
def ofInt (value : Int) : DeviceModeDistributionPolicy :=
  if h : value < 0 ∨ 8 < value then other value h
  else if value = 0 then UNSPECIFIED
  else if value = 1 then MAIN_ONLY
  else if value = 2 then SUB_ONLY
  else if value = 3 then UNIVERSAL_IDENTICAL_PACKAGE
  else if value = 4 then UNIVERSAL_DIFFERENT_PACKAGE
  else if value = 5 then PARTIAL_COMPATIBLE_IDENTICAL_PACKAGE
  else if value = 6 then PARTIAL_COMPATIBLE_DIFFERENT_PACKAGE
  else if value = 7 then FULL_COMPATIBLE_IDENTICAL_PACKAGE
  else FULL_COMPATIBLE_DIFFERENT_PACKAGE

theorem ofInt_toInt (policy : DeviceModeDistributionPolicy) : ofInt policy.toInt = policy := by
  cases policy with
  | other value h => exact dif_pos h
  | _ => rfl

theorem toInt_injective : Function.Injective toInt := fun a b h => by
  rw [← ofInt_toInt a, h, ofInt_toInt]

instance : Ord DeviceModeDistributionPolicy := ⟨fun a b => compare a.toInt b.toInt⟩

instance : TransOrd DeviceModeDistributionPolicy where
  eq_swap {a b} := OrientedOrd.eq_swap (a := a.toInt) (b := b.toInt)
  isLE_trans {a b c} := TransOrd.isLE_trans (a := a.toInt) (b := b.toInt) (c := c.toInt)

instance : LawfulEqOrd DeviceModeDistributionPolicy where
  compare_self {a} := ReflOrd.compare_self (a := a.toInt)
  eq_of_compare {a b} h := toInt_injective (LawfulEqOrd.eq_of_compare (a := a.toInt) (b := b.toInt) h)

end DeviceModeDistributionPolicy

open DeviceModeDistributionPolicy

/-- `std::set<DeviceModeDistributionPolicy>`. -/
abbrev PolicySet := ExtTreeSet DeviceModeDistributionPolicy

def isDiffPackageCategory (policy : DeviceModeDistributionPolicy) : Bool :=
  policy = UNIVERSAL_DIFFERENT_PACKAGE || policy = PARTIAL_COMPATIBLE_DIFFERENT_PACKAGE ||
    policy = FULL_COMPATIBLE_DIFFERENT_PACKAGE

/-- Neither always visible nor a different-package policy: set membership decides. -/
def isFilterable (policy : DeviceModeDistributionPolicy) : Bool :=
  !(policy = UNSPECIFIED) && !isDiffPackageCategory policy

def isValidPolicySet (policies : PolicySet) : Bool :=
  if policies.isEmpty then false
  else if policies.toList.any fun policy =>
      policy.toInt < UNSPECIFIED.toInt || policy.toInt > FULL_COMPATIBLE_DIFFERENT_PACKAGE.toInt then false
  else policies.contains UNIVERSAL_DIFFERENT_PACKAGE &&
    policies.contains PARTIAL_COMPATIBLE_DIFFERENT_PACKAGE &&
    policies.contains FULL_COMPATIBLE_DIFFERENT_PACKAGE

/-- A valid set contains every different-package policy. -/
theorem contains_of_isDiffPackageCategory {policies : PolicySet} (h : isValidPolicySet policies = true)
    {policy : DeviceModeDistributionPolicy} (hd : isDiffPackageCategory policy = true) :
    policies.contains policy = true := by
  unfold isValidPolicySet at h
  split at h
  · cases h
  · split at h
    · cases h
    · simp only [Bool.and_eq_true] at h
      simp only [isDiffPackageCategory, Bool.or_eq_true, decide_eq_true_eq] at hd
      rcases hd with (rfl | rfl) | rfl
      · exact h.1.1
      · exact h.1.2
      · exact h.2

theorem ne_unspecified_of_isDiffPackageCategory {policy : DeviceModeDistributionPolicy}
    (hd : isDiffPackageCategory policy = true) : policy ≠ UNSPECIFIED := by
  rintro rfl
  cases hd

/-! ## Persisted form -/

/-- The functions used from `string_ex.h`. -/
structure StringEx where
  strToInt : Str → Option Int
  splitStr : Str → Str → List Str

/-- Decimal value of a non-empty run of digits. -/
def decimalValue (s : Str) : Option Nat :=
  if s.isEmpty || !s.all Char.isDigit then none
  else some (s.foldl (fun n c => 10 * n + (c.toNat - '0'.toNat)) 0)

/-- An instance of `StringEx` for concrete runs: an optional minus sign and digits in
the `int` range; a split that trims blanks and drops empty parts. -/
def refStringEx : StringEx where
  strToInt s :=
    let value := match s with
      | '-' :: t => (decimalValue t).map fun n => -(n : Int)
      | _ => (decimalValue s).map fun n => (n : Int)
    value.filter fun v => -2147483648 ≤ v && v ≤ 2147483647
  splitStr s sep :=
    ((s.splitOn (sep.headD ',')).map fun part =>
      ((part.dropWhile (· == ' ')).reverse.dropWhile (· == ' ')).reverse).filter (!·.isEmpty)

/-- The decimal text of a number reads back. -/
def StringEx.ReadsInt32 (ex : StringEx) : Prop :=
  ∀ n : Int32, ex.strToInt (toDecimal n.toInt) = some n.toInt

theorem decimalValue_toDigits (n : Nat) : decimalValue (Nat.toDigits 10 n) = some n := by
  unfold decimalValue
  have hne : Nat.toDigits 10 n ≠ [] := by
    intro h
    have := Nat.length_toDigits_pos (b := 10) (n := n)
    rw [h] at this
    exact absurd this (by decide)
  have hall : (Nat.toDigits 10 n).all Char.isDigit = true :=
    List.all_eq_true.mpr fun c hc => Nat.isDigit_of_mem_toDigits (by decide) (by decide) hc
  rw [if_neg (by simp [hne, hall])]
  exact congrArg some (Nat.ofDigitChars_ten_toDigits (n := n))

theorem refStringEx_readsInt32 : refStringEx.ReadsInt32 := by
  intro n
  have hlo := n.le_toInt
  have hhi := n.toInt_lt
  have inRange : ∀ v : Int, v = n.toInt →
      (some v).filter (fun v => decide (-2147483648 ≤ v) && decide (v ≤ 2147483647)) = some n.toInt := by
    rintro v rfl
    rw [Option.filter_some, if_pos]
    simp only [Bool.and_eq_true, decide_eq_true_eq]
    omega
  rw [toDecimal_eq]
  unfold refStringEx
  dsimp only
  by_cases h : 0 ≤ n.toInt
  · rw [if_pos h]
    split
    · next t e =>
      -- a number that is not negative does not start with a minus sign
      have hmem : '-' ∈ Nat.toDigits 10 n.toInt.toNat := by rw [e]; exact List.mem_cons_self
      exact absurd (Nat.isDigit_of_mem_toDigits (by decide) (by decide) hmem) (by decide)
    · rw [decimalValue_toDigits]
      exact inRange _ (Int.toNat_of_nonneg h)
  · rw [if_neg h]
    split
    · next t e =>
      rw [← (List.cons.inj e).2, decimalValue_toDigits]
      exact inRange _ (by dsimp only; omega)
    · next hne => exact absurd rfl (hne _)

def COMMA : Str := [',']

/-- The loop of `ParsePersistedPolicies`: every token has to be a number. -/
def insertTokens (ex : StringEx) : List Str → PolicySet → Option PolicySet
  | [], policySet => some policySet
  | token :: tokens, policySet =>
    match ex.strToInt token with
    | none => none
    | some value => insertTokens ex tokens (policySet.insert (ofInt value))

/-- The policy set on success; the source also leaves a partly filled set on
failure, which no caller reads. -/
def parsePersistedPolicies (ex : StringEx) (policiesStr : Str) : Option PolicySet :=
  match insertTokens ex (ex.splitStr policiesStr COMMA) ∅ with
  | none => none
  | some policySet => if isValidPolicySet policySet then some policySet else none

def policiesToCsv (policySet : PolicySet) : Str :=
  policySet.toList.foldl
    (fun csv policy => (if csv.isEmpty then csv else csv ++ COMMA) ++ toDecimal policy.toInt) []

theorem parsePersistedPolicies_valid (ex : StringEx) (policiesStr : Str) (policySet : PolicySet)
    (h : parsePersistedPolicies ex policiesStr = some policySet) : isValidPolicySet policySet = true := by
  unfold parsePersistedPolicies at h
  split at h
  · cases h
  · split at h
    · next hv => rw [← Option.some.inj h]; exact hv
    · cases h

/-! ## Device mode -/

def DUAL_MODE_VALUE_TABLET : Int := 0
def DUAL_MODE_VALUE_2IN1 : Int := 1

/-- The two system parameters as `ReadValidIspcmodeParam` and `ReadValidModeParam`
return them: 0, 1 or -1. -/
structure ModeParams where
  ispcmode : Int
  mainmode : Int
  deriving DecidableEq

def isValidModeValue (v : Int) : Bool := v = DUAL_MODE_VALUE_TABLET || v = DUAL_MODE_VALUE_2IN1

def isDualModeDevice (params : ModeParams) : Bool :=
  isValidModeValue params.ispcmode && isValidModeValue params.mainmode

def isSecondaryMode (params : ModeParams) : Bool :=
  if !isValidModeValue params.ispcmode || !isValidModeValue params.mainmode then false
  else !(params.ispcmode = params.mainmode)

/-- The device after a mode flip: the current mode changes, the main mode does not. -/
def ModeParams.opposite (params : ModeParams) : ModeParams :=
  { params with ispcmode := 1 - params.ispcmode }

theorem isDualModeDevice_iff (params : ModeParams) :
    isDualModeDevice params = true ↔
      (params.ispcmode = 0 ∨ params.ispcmode = 1) ∧ (params.mainmode = 0 ∨ params.mainmode = 1) := by
  simp only [isDualModeDevice, isValidModeValue, Bool.and_eq_true, Bool.or_eq_true, decide_eq_true_eq]
  exact Iff.rfl

theorem isDualModeDevice_opposite (params : ModeParams) (h : isDualModeDevice params = true) :
    isDualModeDevice params.opposite = true := by
  rw [isDualModeDevice_iff] at h ⊢
  refine ⟨?_, h.2⟩
  simp only [ModeParams.opposite]
  omega

theorem isSecondaryMode_eq (params : ModeParams) (h : isDualModeDevice params = true) :
    isSecondaryMode params = !decide (params.ispcmode = params.mainmode) := by
  unfold isSecondaryMode
  unfold isDualModeDevice at h
  rw [Bool.and_eq_true] at h
  simp [h.1, h.2]

theorem isSecondaryMode_opposite (params : ModeParams) (h : isDualModeDevice params = true) :
    isSecondaryMode params.opposite = !isSecondaryMode params := by
  rw [isSecondaryMode_eq _ h, isSecondaryMode_eq _ (isDualModeDevice_opposite params h)]
  rw [isDualModeDevice_iff] at h
  obtain ⟨hi | hi, hm | hm⟩ := h <;> simp [ModeParams.opposite, hi, hm]

/-! ## Clone names -/

def CLONE_DIR_PATH_PREFIX : Str := ['c', 'l', 'o', 'n', 'e']
def PLUS_SIGN : Str := ['+']
def MINUS_SIGN : Str := ['-']
def CLONE_PREFIX : Str := ['+', 'c', 'l', 'o', 'n', 'e', '-']
def DUAL_MODE_CLONE_APP_INDEX : Int := 10000

/-- `BundleCloneCommonHelper::GetCloneDataDir`. -/
def getCloneDataDir (bundleName : Str) (appIndex : Int) : Str :=
  PLUS_SIGN ++ CLONE_DIR_PATH_PREFIX ++ MINUS_SIGN ++ toDecimal appIndex ++ PLUS_SIGN ++ bundleName

/-- `BundleCloneCommonHelper::ParseCloneDataDir`. -/
def parseCloneDataDir (ex : StringEx) (cloneDirName : Str) : Option (Str × Int) :=
  if strFind cloneDirName CLONE_PREFIX ≠ some 0 then none
  else
    let tempStr := cloneDirName.drop CLONE_PREFIX.length
    match strFind tempStr PLUS_SIGN with
    | none => none
    | some plusPos =>
      match ex.strToInt (tempStr.take plusPos) with
      | none => none
      | some appIndex => some (tempStr.drop (plusPos + 1), appIndex)

def getDualModeBundleName (bundleName : Str) : Str :=
  getCloneDataDir bundleName DUAL_MODE_CLONE_APP_INDEX

def parseDualModeBundleName (ex : StringEx) (name : Str) : Option Str :=
  match parseCloneDataDir ex name with
  | none => none
  | some (originalName, appIndex) =>
    if appIndex ≠ DUAL_MODE_CLONE_APP_INDEX then none else some originalName

def isDualModeCloneKey (key : Str) : Bool :=
  let dualModePrefix := CLONE_PREFIX ++ toDecimal DUAL_MODE_CLONE_APP_INDEX ++ PLUS_SIGN
  strFind key dualModePrefix = some 0

/-- `StrToInt` reads the clone index of a dual-mode name. -/
def StringEx.ReadsCloneIndex (ex : StringEx) : Prop := ex.strToInt "10000".toList = some 10000

theorem refStringEx_readsCloneIndex : refStringEx.ReadsCloneIndex := by
  unfold StringEx.ReadsCloneIndex
  decide

theorem toDecimal_cloneIndex : toDecimal DUAL_MODE_CLONE_APP_INDEX = "10000".toList := by decide

theorem getDualModeBundleName_eq (bundleName : Str) :
    getDualModeBundleName bundleName = "+clone-10000+".toList ++ bundleName := by
  unfold getDualModeBundleName getCloneDataDir
  rw [toDecimal_cloneIndex]
  rfl

theorem isDualModeCloneKey_iff (key : Str) :
    isDualModeCloneKey key = true ↔ ∃ bundleName, key = getDualModeBundleName bundleName := by
  unfold isDualModeCloneKey
  rw [decide_eq_true_eq, strFind_eq_zero_iff, toDecimal_cloneIndex]
  constructor
  · rintro ⟨t, ht⟩
    exact ⟨t, by rw [getDualModeBundleName_eq, ← ht]; rfl⟩
  · rintro ⟨bundleName, rfl⟩
    exact ⟨bundleName, by rw [getDualModeBundleName_eq]; rfl⟩

theorem getDualModeBundleName_injective : Function.Injective getDualModeBundleName := fun a b h => by
  rw [getDualModeBundleName_eq, getDualModeBundleName_eq] at h
  exact List.append_cancel_left h

/-- A dual-mode name parses back to the name it was made from. -/
theorem parseDualModeBundleName_getDualModeBundleName (ex : StringEx) (hex : ex.ReadsCloneIndex)
    (bundleName : Str) :
    parseDualModeBundleName ex (getDualModeBundleName bundleName) = some bundleName := by
  have hp : strFind (getDualModeBundleName bundleName) CLONE_PREFIX = some 0 := by
    rw [strFind_eq_zero_iff, getDualModeBundleName_eq]
    exact ⟨"10000+".toList ++ bundleName, rfl⟩
  have hd : (getDualModeBundleName bundleName).drop CLONE_PREFIX.length
      = "10000+".toList ++ bundleName := by
    rw [getDualModeBundleName_eq]; rfl
  have hplus : strFind ("10000+".toList ++ bundleName) PLUS_SIGN = some 5 := by
    simp [strFind, PLUS_SIGN, List.isPrefixOf]
  have ht : ("10000+".toList ++ bundleName).take 5 = "10000".toList := rfl
  have hc : parseCloneDataDir ex (getDualModeBundleName bundleName) = some (bundleName, 10000) := by
    unfold parseCloneDataDir
    rw [if_neg (by rw [hp]; simp), hd]
    simp only [hplus, ht]
    rw [show ex.strToInt "10000".toList = some 10000 from hex]
    rfl
  unfold parseDualModeBundleName
  rw [hc]
  rfl

end BundleFramework
