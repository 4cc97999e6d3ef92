import BundleFramework.Lib.MapLoop

/-!
`std::string` and the members of it that the modelled functions call.

A string is a list of characters, one for each byte; every function below is
defined on all characters, so what is proved of all strings holds of all byte
strings.  `none` stands for `npos`; `s.substr(pos, len)` is `(s.drop pos).take len`.
`std::map<std::string, V>` is an extensional ordered map, `std::set<std::string>` an
ordered set.
-/

namespace BundleFramework

open Std

abbrev Str := List Char

instance : LawfulBEq Str := inferInstance

abbrev StrMap (V : Type) := ExtTreeMap Str V

abbrev StrSet := ExtTreeSet Str

/-- `s.find(pat)`: the first position at which `pat` occurs. -/
def strFind (s pat : Str) : Option Nat :=
  if pat.isPrefixOf s then some 0
  else match s with
    | [] => none
    | _ :: t => (strFind t pat).map (· + 1)

/-- `s.find(c)` for one character. -/
def strFindChar (s : Str) (c : Char) : Option Nat := s.findIdx? (· == c)

/-- `while (std::getline(iss, segment, sep)) segments.push_back(segment)`.  Nothing is read
after a separator at the very end. -/
def getlines (sep : Char) (segment : Str) : Str → List Str
  | [] => if segment = [] then [] else [segment.reverse]
  | c :: s =>
    if c = sep then segment.reverse :: getlines sep [] s else getlines sep (c :: segment) s

/-- `s.rfind(c)` for one character. -/
def strRFindChar (s : Str) (c : Char) : Option Nat :=
  (s.reverse.findIdx? (· == c)).map fun i => s.length - 1 - i

/-- `s.rfind(pat)`: the last position at which `pat` occurs. -/
def strRFind (s pat : Str) : Option Nat :=
  match s with
  | [] => if pat = [] then some 0 else none
  | _ :: t =>
    match strRFind t pat with
    | some pos => some (pos + 1)
    | none => if pat.isPrefixOf s then some 0 else none

/-- `std::to_string` of an `int32_t`. -/
def toDecimal (n : Int) : Str := (toString n).toList

theorem strFindChar_eq_none {s : Str} {c : Char} (h : c ∉ s) : strFindChar s c = none := by
  unfold strFindChar
  rw [List.findIdx?_eq_none_iff]
  intro x hx
  exact beq_eq_false_iff_ne.mpr fun heq => h (heq ▸ hx)

theorem strFindChar_append {s : Str} {c : Char} (h : c ∉ s) (rest : Str) : strFindChar (s ++ c :: rest) c = some s.length := by
  have hnone := strFindChar_eq_none h
  unfold strFindChar at hnone ⊢
  rw [List.findIdx?_append, hnone]
  simp [List.findIdx?_cons]

/-- `s.find(pat) == 0`: the idiom the sources use for "starts with". -/
theorem strFind_eq_zero_iff (s pat : Str) : strFind s pat = some 0 ↔ pat <+: s := by
  rw [← List.isPrefixOf_iff_prefix]
  unfold strFind
  by_cases h : pat.isPrefixOf s = true
  · simp [h]
  · rw [if_neg h]
    cases s with
    | nil => simp [h]
    | cons c t => cases strFind t pat <;> simp [h]

/-- `s.find(pat) != npos`. -/
theorem strFind_isSome_iff (s pat : Str) : (strFind s pat).isSome = true ↔ pat <:+: s := by
  induction s with
  | nil =>
    unfold strFind
    by_cases h : pat.isPrefixOf [] = true
    · simp only [h, if_true, Option.isSome_some, true_iff]
      exact (List.isPrefixOf_iff_prefix.mp h).isInfix
    · rw [if_neg h]
      simp only [Option.isSome_none, Bool.false_eq_true, false_iff, List.infix_nil]
      rintro rfl
      exact h rfl
  | cons c t ih =>
    rw [List.infix_cons_iff, ← List.isPrefixOf_iff_prefix, ← ih, strFind]
    by_cases h : pat.isPrefixOf (c :: t) = true
    · simp [h]
    · rw [if_neg h, Option.isSome_map]
      simp [h]

theorem toDecimal_eq (n : Int) :
    toDecimal n = if 0 ≤ n then Nat.toDigits 10 n.toNat else '-' :: Nat.toDigits 10 (-n).toNat := by
  unfold toDecimal
  rw [Int.toString_eq_repr, Int.repr_eq_if]
  split <;> simp [Nat.repr_eq_ofList_toDigits]

theorem not_mem_toDecimal {c : Char} (hdigit : c.isDigit = false) (hminus : c ≠ '-') (n : Int) : c ∉ toDecimal n := by
  have hdigits : ∀ m : Nat, c ∉ Nat.toDigits 10 m := by
    intro m h
    rw [Nat.isDigit_of_mem_toDigits (by omega) (by omega) h] at hdigit
    cases hdigit
  rw [toDecimal_eq]
  split
  · exact hdigits _
  · intro h
    rcases List.mem_cons.mp h with e | h
    · exact hminus e
    · exact hdigits _ h

theorem underscore_not_mem_toDecimal (n : Int) : '_' ∉ toDecimal n := not_mem_toDecimal (by decide) (by decide) n

theorem toDecimal_injective : Function.Injective toDecimal := by
  intro a b h
  have h' : (toString a) = toString b := String.toList_injective h
  rw [Int.toString_eq_repr, Int.toString_eq_repr] at h'
  exact Int.repr_inj.mp h'

/-- What stands behind the last separator splits a text in one way. -/
theorem append_separator_inj {sep : Char} {a a' d d' : Str} (hd : sep ∉ d) (hd' : sep ∉ d')
    (h : a ++ sep :: d = a' ++ sep :: d') : a = a' ∧ d = d' := by
  rcases List.append_eq_append_iff.mp h with ⟨c, rfl, hc⟩ | ⟨c, rfl, hc⟩
  · cases c with
    | nil => exact ⟨(List.append_nil _).symm, (List.cons.inj hc).2⟩
    | cons x c =>
      have : d = c ++ sep :: d' := (List.cons.inj hc).2
      exact absurd (this ▸ List.mem_append_right c List.mem_cons_self) hd
  · cases c with
    | nil => exact ⟨List.append_nil _, (List.cons.inj hc).2.symm⟩
    | cons x c =>
      have : d' = c ++ sep :: d := (List.cons.inj hc).2
      exact absurd (this ▸ List.mem_append_right c List.mem_cons_self) hd'

end BundleFramework
