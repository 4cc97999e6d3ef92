import BundleFramework.Base.Str
import BundleFramework.Lib.LexCompare

/-!
# Version comparison of the router map

`SemVer` splits a version text into `major.minor.patch-prerelease+build`; `RouterMapHelper`
compares two of them identifier by identifier.  Any text can follow the last `&` of an
ohmurl, so nothing here supposes that the text is a version.

A number that is no `int` is out of reach of `atoi`, whose behaviour is undefined there: the comparison
that reads it is `none`.  An identifier with a character other than a letter or a digit compares as
greater, on whichever side it stands.  Everywhere else the comparison is the order of a `rank`
in a linear order (`compareVersion_of_settled`).
-/

namespace BundleFramework

open LexCompare

structure SemVer where
  major : Str := []
  minor : Str := []
  patch : Str := []
  raw : Str
  prerelease : List Str := []
  buildMeta : List Str := []
  deriving DecidableEq

def SemVer.ofString (versionString : Str) : SemVer :=
  if versionString = [] then { raw := versionString }
  else
    let pos1 := strFindChar versionString '-'
    let pos2 := strFindChar versionString '+'
    let base := match pos1, pos2 with
      | some p1, _ => versionString.take p1
      | none, some p2 => versionString.take p2
      | none, none => versionString
    let preRel := match pos1, pos2 with
      | some p1, some p2 =>
        -- with the `+` first, the unsigned length `pos2 - pos1 - 1` wraps and takes all
        if p1 < p2 then (versionString.drop (p1 + 1)).take (p2 - p1 - 1)
        else versionString.drop (p1 + 1)
      | some p1, none => versionString.drop (p1 + 1)
      | none, _ => []
    let build := match pos2 with
      | some p2 => versionString.drop (p2 + 1)
      | none => []
    let segments := getlines '.' [] base
    { major := segments.getD 0 [], minor := segments.getD 1 [], patch := segments.getD 2 [],
      raw := versionString, prerelease := getlines '.' [] preRel, buildMeta := getlines '.' [] build }

def isAlnumOrEmpty (str : Str) : Bool :=
  str.all fun c => ('a' ≤ c && c ≤ 'z') || ('A' ≤ c && c ≤ 'Z') || ('0' ≤ c && c ≤ '9')

def isNumeric (str : Str) : Bool :=
  !str.isEmpty && str.all fun c => !(c < '0' || c > '9')

/-- The number that a text of digits writes. -/
def digitsValue (str : Str) : Nat := str.foldl (fun n c => n * 10 + (c.toNat - '0'.toNat)) 0

/-- `atoi` of a text of digits. -/
def atoi (str : Str) : Option Int := if digitsValue str < 2 ^ 31 then some (digitsValue str) else none

def compareIdentifiers (a b : Str) : Option Int :=
  if !isAlnumOrEmpty a || !isAlnumOrEmpty b then some 1
  else
    let anum := isNumeric a
    let bnum := isNumeric b
    if anum && bnum then do
      -- Neither number is negative, so that the difference is an `int`.
      let diff := (← atoi a) - (← atoi b)
      if diff ≠ 0 then if diff > 0 then some 1 else some (-1)
      else some 0
    else if anum && !bnum then some (-1)
    else if bnum && !anum then some 1
    else if a < b then some (-1)
    else if a > b then some 1
    else some 0

def compareMain (semVer1 semVer2 : SemVer) : Option Int := do
  let res ← compareIdentifiers semVer1.major semVer2.major
  if res ≠ 0 then some res
  else
    let res ← compareIdentifiers semVer1.minor semVer2.minor
    if res ≠ 0 then some res
    else compareIdentifiers semVer1.patch semVer2.patch

/-- The loop of `ComparePre`, on what is left of both lists. -/
def comparePreFrom : List Str → List Str → Option Int
  | [], [] => some 0
  | _ :: _, [] => some 1
  | [], _ :: _ => some (-1)
  | a :: as, b :: bs =>
    if a = b then comparePreFrom as bs
    else (compareIdentifiers a b).bind fun res => if res = 0 then comparePreFrom as bs else some res

/-- Not having a prerelease is greater than having one. -/
def comparePre (semVer1 semVer2 : SemVer) : Option Int :=
  if !semVer1.prerelease.isEmpty && semVer2.prerelease.isEmpty then some (-1)
  else if semVer1.prerelease.isEmpty && !semVer2.prerelease.isEmpty then some 1
  else if semVer1.prerelease.isEmpty && semVer2.prerelease.isEmpty then some 0
  else comparePreFrom semVer1.prerelease semVer2.prerelease

def SemVer.compare (semVer1 semVer2 : SemVer) : Option Int :=
  if semVer1.raw = semVer2.raw then some 0
  else do
    let res ← compareMain semVer1 semVer2
    if res ≠ 0 then some res else comparePre semVer1 semVer2

/-- `RouterMapHelper::Compare` of two texts; `none` where it is undefined. -/
def compareVersion (version1 version2 : Str) : Option Int :=
  (SemVer.ofString version1).compare (SemVer.ofString version2)

/-! ## Identifiers -/

/-- Letters and digits only, and two numbers fit an `int`. -/
def Comparable (a b : Str) : Prop :=
  isAlnumOrEmpty a = true ∧ isAlnumOrEmpty b = true ∧
    (isNumeric a = true → isNumeric b = true → digitsValue a < 2 ^ 31 ∧ digitsValue b < 2 ^ 31)

instance (a b : Str) : Decidable (Comparable a b) := inferInstanceAs (Decidable (_ ∧ _ ∧ (_ → _ → _)))

theorem Comparable.symm {a b : Str} (h : Comparable a b) : Comparable b a :=
  ⟨h.2.1, h.1, fun hb ha => (h.2.2 ha hb).symm⟩

/-- Numbers come before all other identifiers. -/
def identifierRank (s : Str) : ℕ ×ₗ ℕ ×ₗ Str :=
  if isNumeric s then toLex (0, toLex (digitsValue s, [])) else toLex (1, toLex (0, s))

section Identifiers

variable {a b : Str}

/-- Two numbers that fit an `int`. -/
theorem compareIdentifiers_numbers (h : Comparable a b) (ha : isNumeric a = true) (hb : isNumeric b = true) :
    compareIdentifiers a b = some (cmpSign (identifierRank a) (identifierRank b)) := by
  obtain ⟨haa, hab, hfit⟩ := h
  obtain ⟨hva, hvb⟩ := hfit ha hb
  have hrank : ∀ m n : Nat, m < n →
      (toLex (0, toLex (m, [])) : ℕ ×ₗ ℕ ×ₗ Str) < toLex (0, toLex (n, [])) := by
    intro m n hlt
    simp [Prod.Lex.toLex_lt_toLex, hlt]
  unfold compareIdentifiers identifierRank
  simp only [haa, hab, ha, hb, atoi, hva, hvb, Bool.not_true, Bool.or_self, Bool.false_eq_true, if_false, Bool.and_self,
    if_true, Option.bind_eq_bind, Option.bind_some]
  rcases lt_trichotomy (digitsValue a) (digitsValue b) with hlt | heq | hgt
  · rw [if_pos (by omega), if_neg (by omega), cmpSign_of_lt (hrank _ _ hlt)]
  · rw [if_neg (by omega), heq, cmpSign_self]
  · rw [if_pos (by omega), if_pos (by omega), cmpSign_of_gt (hrank _ _ hgt)]

/-- Two identifiers that are fit to be compared. -/
theorem compareIdentifiers_of_comparable (h : Comparable a b) :
    compareIdentifiers a b = some (cmpSign (identifierRank a) (identifierRank b)) := by
  cases hna : isNumeric a with
  | true =>
    cases hnb : isNumeric b with
    | true => exact compareIdentifiers_numbers h hna hnb
    | false =>
      unfold compareIdentifiers identifierRank
      simp only [h.1, h.2.1, hna, hnb, Bool.not_true, Bool.or_self, Bool.false_eq_true, if_false, Bool.and_false,
        Bool.not_false, Bool.and_true, if_true]
      rw [cmpSign_of_lt (by simp [Prod.Lex.toLex_lt_toLex])]
  | false =>
    cases hnb : isNumeric b with
    | true =>
      unfold compareIdentifiers identifierRank
      simp only [h.1, h.2.1, hna, hnb, Bool.not_true, Bool.or_self, Bool.false_eq_true, if_false, Bool.false_and,
        Bool.not_false, Bool.and_true, if_true]
      rw [cmpSign_of_gt (by simp [Prod.Lex.toLex_lt_toLex])]
    | false =>
      -- Two words.
      unfold compareIdentifiers identifierRank
      simp only [h.1, h.2.1, hna, hnb, Bool.not_true, Bool.or_self, Bool.false_eq_true, if_false, Bool.and_self,
        Bool.not_false, Bool.and_true]
      rcases lt_trichotomy a b with hlt | heq | hgt
      · rw [if_pos hlt, cmpSign_of_lt (by simp [Prod.Lex.toLex_lt_toLex, hlt])]
      · rw [if_neg (by rw [heq]; exact lt_irrefl b), if_neg (by rw [heq]; exact lt_irrefl b), heq, cmpSign_self]
      · rw [if_neg hgt.asymm, if_pos hgt, cmpSign_of_gt (by simp [Prod.Lex.toLex_lt_toLex, hgt])]

/-- An identifier with another character. -/
theorem compareIdentifiers_of_rejected (h : isAlnumOrEmpty a = false ∨ isAlnumOrEmpty b = false) :
    compareIdentifiers a b = some 1 := by
  unfold compareIdentifiers
  rw [if_pos]
  simpa using h

/-- Two numbers of which one is no `int`. -/
theorem compareIdentifiers_of_overflow (h : ¬ Comparable a b) (ha : isAlnumOrEmpty a = true) (hb : isAlnumOrEmpty b = true) :
    compareIdentifiers a b = none := by
  have hnumeric : isNumeric a = true ∧ isNumeric b = true ∧ ¬ (digitsValue a < 2 ^ 31 ∧ digitsValue b < 2 ^ 31) := by
    unfold Comparable at h
    tauto
  obtain ⟨hna, hnb, hbig⟩ := hnumeric
  unfold compareIdentifiers
  simp only [ha, hb, hna, hnb, Bool.not_true, Bool.or_self, Bool.false_eq_true, if_false, Bool.and_self, if_true,
    Option.bind_eq_bind]
  unfold atoi
  by_cases hva : digitsValue a < 2 ^ 31
  · rw [if_pos hva, if_neg fun hvb => hbig ⟨hva, hvb⟩]
    rfl
  · rw [if_neg hva]
    rfl

theorem compareIdentifiers_of_not_comparable (h : ¬ Comparable a b) :
    compareIdentifiers a b = none ∨ compareIdentifiers a b = some 1 := by
  cases ha : isAlnumOrEmpty a with
  | false => exact .inr (compareIdentifiers_of_rejected (.inl ha))
  | true =>
    cases hb : isAlnumOrEmpty b with
    | false => exact .inr (compareIdentifiers_of_rejected (.inr hb))
    | true => exact .inl (compareIdentifiers_of_overflow h ha hb)

end Identifiers

/-! ## Versions as lists of places -/

/-- A place at which two versions are compared: one of the three parts, an identifier of the
prerelease, or that there is no prerelease. -/
inductive Slot where
  | main (identifier : Str)
  | pre (identifier : Str)
  | release

namespace Slot

def compare : Slot → Slot → Option Int
  | .main a, .main b => compareIdentifiers a b
  | .pre a, .pre b => if a = b then some 0 else compareIdentifiers a b
  | .release, .release => some 0
  | .release, .pre _ => some 1
  | .pre _, .release => some (-1)
  -- The parts come first in every version, so these do not meet.
  | .main _, _ => some (-1)
  | _, .main _ => some 1

/-- A release comes after all its prereleases. -/
def rank : Slot → ℕ ×ₗ ℕ ×ₗ ℕ ×ₗ Str
  | .main a => toLex (0, identifierRank a)
  | .pre a => toLex (1, identifierRank a)
  | .release => toLex (2, toLex (0, toLex (0, [])))

/-- Fit to be compared; equal identifiers of a prerelease are passed over, and a missing prerelease always is. -/
def Comparable : Slot → Slot → Prop
  | .main a, .main b => BundleFramework.Comparable a b
  | .pre a, .pre b => a = b ∨ BundleFramework.Comparable a b
  | _, _ => True

instance (x y : Slot) : Decidable (Comparable x y) :=
  match x, y with
  | .main a, .main b => inferInstanceAs (Decidable (BundleFramework.Comparable a b))
  | .pre a, .pre b => inferInstanceAs (Decidable (a = b ∨ BundleFramework.Comparable a b))
  | .main _, .pre _ | .main _, .release | .pre _, .main _ | .pre _, .release | .release, .main _ | .release, .pre _
  | .release, .release => inferInstanceAs (Decidable True)

end Slot

theorem cmpSign_toLex (n : ℕ) (x y : ℕ ×ₗ ℕ ×ₗ Str) :
    cmpSign (toLex (n, x) : ℕ ×ₗ ℕ ×ₗ ℕ ×ₗ Str) (toLex (n, y)) = cmpSign x y := by
  have hlt : ∀ {x y : ℕ ×ₗ ℕ ×ₗ Str}, x < y → (toLex (n, x) : ℕ ×ₗ ℕ ×ₗ ℕ ×ₗ Str) < toLex (n, y) :=
    fun h => Prod.Lex.toLex_lt_toLex.mpr (.inr ⟨rfl, h⟩)
  rcases cmpSign_cases x y with ⟨h, h'⟩ | ⟨h, rfl⟩ | ⟨h, h'⟩
  · rw [h, cmpSign_of_lt (hlt h')]
  · rw [h, cmpSign_self]
  · rw [h, cmpSign_of_gt (hlt h')]

theorem Slot.compare_of_comparable {x y : Slot} (h : x.Comparable y) : x.compare y = some (cmpSign x.rank y.rank) := by
  have hlt : ∀ {m n : ℕ} {p q : ℕ ×ₗ ℕ ×ₗ Str}, m < n → (toLex (m, p) : ℕ ×ₗ ℕ ×ₗ ℕ ×ₗ Str) < toLex (n, q) :=
    fun h => Prod.Lex.toLex_lt_toLex.mpr (.inl h)
  cases x with
  | main a =>
    cases y with
    | main b =>
      show compareIdentifiers a b = some (cmpSign (toLex (0, _)) (toLex (0, _)))
      rw [cmpSign_toLex]
      exact compareIdentifiers_of_comparable h
    | pre b => exact congrArg some (cmpSign_of_lt (hlt Nat.zero_lt_one)).symm
    | release => exact congrArg some (cmpSign_of_lt (hlt Nat.zero_lt_two)).symm
  | pre a =>
    cases y with
    | main b => exact congrArg some (cmpSign_of_gt (hlt Nat.zero_lt_one)).symm
    | pre b =>
      show (if a = b then some 0 else compareIdentifiers a b) = some (cmpSign (toLex (1, _)) (toLex (1, _)))
      rw [cmpSign_toLex]
      by_cases heq : a = b
      · rw [if_pos heq, heq, cmpSign_self]
      · rw [if_neg heq]
        exact compareIdentifiers_of_comparable (h.resolve_left heq)
    | release => exact congrArg some (cmpSign_of_lt (hlt Nat.one_lt_two)).symm
  | release =>
    cases y with
    | main b => exact congrArg some (cmpSign_of_gt (hlt Nat.zero_lt_two)).symm
    | pre b => exact congrArg some (cmpSign_of_gt (hlt Nat.one_lt_two)).symm
    | release => exact congrArg some (cmpSign_self _).symm

theorem slot_comparator : Comparator Slot.compare Slot.Comparable Slot.rank where
  fine_symm x y h := by
    cases x with
    | main a =>
      cases y with
      | main b => exact Comparable.symm h
      | _ => trivial
    | pre a =>
      cases y with
      | pre b => exact h.imp Eq.symm Comparable.symm
      | _ => trivial
    | release => cases y <;> trivial
  of_fine _ _ h := Slot.compare_of_comparable h
  of_not_fine x y h := by
    cases x with
    | main a =>
      cases y with
      | main b => exact compareIdentifiers_of_not_comparable h
      | _ => exact absurd trivial h
    | pre a =>
      cases y with
      | pre b =>
        obtain ⟨hne, hnot⟩ := not_or.mp h
        rw [show Slot.compare (.pre a) (.pre b) = compareIdentifiers a b from if_neg hne]
        exact compareIdentifiers_of_not_comparable hnot
      | _ => exact absurd trivial h
    | release => cases y <;> exact absurd trivial h

/-- The places of a version, in the order in which they are compared. -/
def SemVer.slots (v : SemVer) : List Slot :=
  .main v.major :: .main v.minor :: .main v.patch ::
    if v.prerelease = [] then [.release] else v.prerelease.map .pre

theorem comparePreFrom_eq_lex (as bs : List Str) :
    comparePreFrom as bs = lex Slot.compare (as.map .pre) (bs.map .pre) := by
  induction as generalizing bs with
  | nil => cases bs <;> rfl
  | cons a as ih =>
    cases bs with
    | nil => rfl
    | cons b bs =>
      rw [comparePreFrom, List.map_cons, List.map_cons]
      by_cases heq : a = b
      · rw [if_pos heq, lex_cons_of_zero (show Slot.compare (.pre a) (.pre b) = some 0 from if_pos heq), ih]
      · rw [if_neg heq, lex, show Slot.compare (.pre a) (.pre b) = compareIdentifiers a b from if_neg heq, ih]
        refine Option.bind_congr fun res _ => ?_
        by_cases h0 : res = 0 <;> simp [h0]

theorem comparePre_eq_lex (v w : SemVer) :
    comparePre v w = lex Slot.compare (if v.prerelease = [] then [.release] else v.prerelease.map .pre)
      (if w.prerelease = [] then [.release] else w.prerelease.map .pre) := by
  unfold comparePre
  cases hv : v.prerelease with
  | nil =>
    cases hw : w.prerelease with
    | nil => rfl
    | cons b bs => rfl
  | cons a as =>
    cases hw : w.prerelease with
    | nil => rfl
    | cons b bs =>
      rw [if_neg (by simp), if_neg (by simp), if_neg (by simp), if_neg (by simp), if_neg (by simp)]
      exact comparePreFrom_eq_lex (a :: as) (b :: bs)

theorem compare_eq_lex {v w : SemVer} (h : v.raw ≠ w.raw) : v.compare w = lex Slot.compare v.slots w.slots := by
  unfold SemVer.compare compareMain SemVer.slots
  rw [if_neg h, comparePre_eq_lex]
  simp only [lex, Slot.compare, Option.bind_eq_bind, Option.bind_assoc]
  refine Option.bind_congr fun major _ => ?_
  by_cases hmajor : major = 0
  swap
  · simp [hmajor]
  simp only [hmajor, ne_eq, not_true_eq_false, if_false, Option.bind_assoc]
  refine Option.bind_congr fun minor _ => ?_
  by_cases hminor : minor = 0
  swap
  · simp [hminor]
  simp only [hminor, not_true_eq_false, if_false]

/-! ## The comparison is an order on well-formed versions -/

def versionSlots (version : Str) : List Slot := (SemVer.ofString version).slots

theorem compareVersion_self (version : Str) : compareVersion version version = some 0 := if_pos rfl

theorem compareVersion_eq_lex {u v : Str} (h : u ≠ v) :
    compareVersion u v = lex Slot.compare (versionSlots u) (versionSlots v) := by
  have hraw : ∀ s, (SemVer.ofString s).raw = s := by
    intro s
    unfold SemVer.ofString
    split <;> rfl
  refine compare_eq_lex ?_
  rw [hraw, hraw]
  exact h

/-- Where a version stands. -/
def versionRank (version : Str) : List (ℕ ×ₗ ℕ ×ₗ ℕ ×ₗ Str) := (versionSlots version).map Slot.rank

/-- Up to the first place at which two texts differ, their identifiers are fit to be compared. -/
def ToldApart (u v : Str) : Prop := Settled Slot.Comparable Slot.rank (versionSlots u) (versionSlots v)

theorem compareVersion_of_settled {u v : Str} (h : u ≠ v → ToldApart u v) :
    compareVersion u v = some (cmpSign (versionRank u) (versionRank v)) := by
  by_cases heq : u = v
  · rw [heq, compareVersion_self, cmpSign_self]
  · rw [compareVersion_eq_lex heq]
    exact slot_comparator.lex_of_settled (h heq)

/-- Letters and digits only, and a number fits an `int`. -/
def IdentifierOk (s : Str) : Prop :=
  isAlnumOrEmpty s = true ∧ (isNumeric s = true → digitsValue s < 2 ^ 31)

instance (s : Str) : Decidable (IdentifierOk s) := inferInstanceAs (Decidable (_ ∧ _))

structure SemVer.WellFormed (v : SemVer) : Prop where
  major : IdentifierOk v.major
  minor : IdentifierOk v.minor
  patch : IdentifierOk v.patch
  prerelease : ∀ s ∈ v.prerelease, IdentifierOk s

theorem SemVer.WellFormed.slots {v w : SemVer} (hv : v.WellFormed) (hw : w.WellFormed) :
    Settled Slot.Comparable Slot.rank v.slots w.slots := by
  have hok : ∀ {a b : Str}, IdentifierOk a → IdentifierOk b → Comparable a b :=
    fun ha hb => ⟨ha.1, hb.1, fun hna hnb => ⟨ha.2 hna, hb.2 hnb⟩⟩
  refine ⟨hok hv.major hw.major, fun _ => ⟨hok hv.minor hw.minor, fun _ => ⟨hok hv.patch hw.patch, fun _ => ?_⟩⟩⟩
  refine settled_of_forall fun x hx y hy => ?_
  split at hx
  · obtain rfl := List.mem_singleton.mp hx
    cases y <;> trivial
  obtain ⟨a, ha, rfl⟩ := List.mem_map.mp hx
  split at hy
  · obtain rfl := List.mem_singleton.mp hy
    trivial
  obtain ⟨b, hb, rfl⟩ := List.mem_map.mp hy
  exact .inr (hok (hv.prerelease a ha) (hw.prerelease b hb))

/-- **On well-formed versions `Compare` is the order of the ranks.** -/
theorem compareVersion_of_wellFormed {version1 version2 : Str}
    (h1 : (SemVer.ofString version1).WellFormed) (h2 : (SemVer.ofString version2).WellFormed) :
    compareVersion version1 version2 = some (cmpSign (versionRank version1) (versionRank version2)) :=
  compareVersion_of_settled fun _ => h1.slots h2

end BundleFramework
