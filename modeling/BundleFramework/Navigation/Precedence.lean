import BundleFramework.Navigation.VersionOrder

/-!
# The precedence of versions

A valid version is `MAJOR.MINOR.PATCH-prerelease+build`; its precedence goes by the value of the numbers, then by the
prerelease identifiers, and leaves the build out.  `Compare` goes through the same places, with three differences:

* without a prerelease, the first `-` of the build is taken for the start of the prerelease: the text in front of it
  becomes the patch, which is no number then and compares as greater (`Place.misread`);
* of two numbers that do not both fit an `int` the comparison is undefined;
* an identifier with a `-` compares as greater on whichever side it stands.

`KeepsPrecedence` says when none of them changes the answer.
-/

namespace BundleFramework

open LexCompare

/-! ## Valid versions -/

def isIdentifierChar (c : Char) : Bool :=
  ('a' ≤ c && c ≤ 'z') || ('A' ≤ c && c ≤ 'Z') || ('0' ≤ c && c ≤ '9') || c == '-'

def IsIdentifier (s : Str) : Prop := s ≠ [] ∧ s.all isIdentifierChar = true

instance (s : Str) : Decidable (IsIdentifier s) := inferInstanceAs (Decidable (_ ∧ _))

structure Version where
  major : Str
  minor : Str
  patch : Str
  /-- Empty where the version has none. -/
  prerelease : List Str := []
  build : List Str := []
  major_numeric : isNumeric major = true
  minor_numeric : isNumeric minor = true
  patch_numeric : isNumeric patch = true
  prerelease_identifiers : ∀ s ∈ prerelease, IsIdentifier s
  build_identifiers : ∀ s ∈ build, IsIdentifier s

/-- The identifiers with dots between them. -/
def dotted : List Str → Str
  | [] => []
  | [s] => s
  | s :: rest => s ++ '.' :: dotted rest

namespace Version

def core (v : Version) : Str := v.major ++ '.' :: (v.minor ++ '.' :: v.patch)

def buildText (v : Version) : Str := if v.build = [] then [] else '+' :: dotted v.build

def text (v : Version) : Str :=
  v.core ++ ((if v.prerelease = [] then [] else '-' :: dotted v.prerelease) ++ v.buildText)

def slots (v : Version) : List Slot :=
  .main v.major :: .main v.minor :: .main v.patch ::
    if v.prerelease = [] then [.release] else v.prerelease.map .pre

end Version

/-- The first `-` of the text stands in the build. -/
def Version.Misread (v : Version) : Prop := v.prerelease = [] ∧ '-' ∈ v.buildText

instance (v : Version) : Decidable v.Misread := inferInstanceAs (Decidable (_ ∧ _))

/-! ## Precedence -/

/-- SemVer 2.0 precedence, by the places of the versions: numbers by their value and before all other identifiers, these
by their text, a release after its prereleases, and a prerelease that ends first before the longer one. -/
def Version.rank (v : Version) : List (ℕ ×ₗ ℕ ×ₗ ℕ ×ₗ Str) := v.slots.map Slot.rank

def precedence (v w : Version) : Int := cmpSign v.rank w.rank

/-! ## What the texts are read as -/

section Parsing

variable {sep : Char}

theorem getlines_cons {s : Str} (h : sep ∉ s) (segment rest : Str) :
    getlines sep segment (s ++ sep :: rest) = (segment.reverse ++ s) :: getlines sep [] rest := by
  induction s generalizing segment with
  | nil => simp [getlines]
  | cons c s ih =>
    have hne : c ≠ sep := fun heq => h (by simp [heq])
    rw [List.cons_append, getlines, if_neg hne, ih fun hmem => h (List.mem_cons_of_mem _ hmem)]
    simp

/-- The first line goes up to the separator. -/
theorem getlines_head (segment s : Str) :
    (getlines sep segment s).getD 0 [] = segment.reverse ++ s.takeWhile (· ≠ sep) := by
  induction s generalizing segment with
  | nil =>
    unfold getlines
    split
    · next hempty => simp [hempty]
    · simp
  | cons c s ih =>
    unfold getlines
    split
    · next heq => simp [heq]
    · next hne =>
      rw [ih]
      simp [hne]

theorem getlines_last {s : Str} (h : sep ∉ s) (hne : s ≠ []) : getlines sep [] s = [s] := by
  have hall : ∀ (segment : Str), s ≠ [] ∨ segment ≠ [] → getlines sep segment s = [segment.reverse ++ s] := by
    clear hne
    induction s with
    | nil =>
      intro segment hsegment
      rw [getlines, if_neg (by simpa using hsegment)]
      simp
    | cons c s ih =>
      intro segment _
      have hc : c ≠ sep := fun heq => h (by simp [heq])
      rw [getlines, if_neg hc, ih (fun hmem => h (List.mem_cons_of_mem _ hmem)) _ (.inr (by simp))]
      simp
  simpa using hall [] (.inl hne)

theorem getlines_dotted {ids : List Str} (h : ∀ s ∈ ids, '.' ∉ s ∧ s ≠ []) : getlines '.' [] (dotted ids) = ids := by
  induction ids with
  | nil => rfl
  | cons s rest ih =>
    obtain ⟨hdot, hne⟩ := h s List.mem_cons_self
    cases rest with
    | nil => exact getlines_last hdot hne
    | cons t rest =>
      rw [dotted, getlines_cons hdot, ih fun u hu => h u (List.mem_cons_of_mem _ hu)]
      · simp
      · simp

theorem not_mem_of_numeric {s : Str} (h : isNumeric s = true) {c : Char} (hc : c < '0') : c ∉ s := by
  intro hmem
  have hall := List.all_eq_true.mp (Bool.and_eq_true_iff.mp h).2 c hmem
  simp [hc] at hall

theorem numeric_ne_nil {s : Str} (h : isNumeric s = true) : s ≠ [] := by
  rintro rfl
  cases h

theorem not_mem_of_identifier {s : Str} (h : IsIdentifier s) {c : Char} (hc : isIdentifierChar c = false) : c ∉ s := by
  intro hmem
  have hall := List.all_eq_true.mp h.2 c hmem
  rw [hc] at hall
  cases hall

theorem not_mem_dotted {ids : List Str} {c : Char} (hdot : c ≠ '.') (h : ∀ s ∈ ids, c ∉ s) : c ∉ dotted ids := by
  induction ids with
  | nil => exact List.not_mem_nil
  | cons s rest ih =>
    have hs := h s List.mem_cons_self
    cases rest with
    | nil => exact hs
    | cons t rest =>
      have hrest := ih fun u hu => h u (List.mem_cons_of_mem _ hu)
      rw [dotted]
      · simp only [List.mem_append, List.mem_cons, not_or]
        exact ⟨hs, hdot, hrest⟩
      · simp

variable (v : Version)

theorem not_mem_core {c : Char} (hc : c < '0') (hdot : c ≠ '.') : c ∉ v.core := by
  unfold Version.core
  simp only [List.mem_append, List.mem_cons, not_or]
  exact ⟨not_mem_of_numeric v.major_numeric hc, hdot, not_mem_of_numeric v.minor_numeric hc, hdot,
    not_mem_of_numeric v.patch_numeric hc⟩

/-- The lines of a text that begins with the three parts. -/
theorem getlines_core (rest : Str) :
    getlines '.' [] (v.core ++ rest) = v.major :: v.minor :: getlines '.' [] (v.patch ++ rest) := by
  have hmajor : '.' ∉ v.major := not_mem_of_numeric v.major_numeric (by decide)
  have hminor : '.' ∉ v.minor := not_mem_of_numeric v.minor_numeric (by decide)
  unfold Version.core
  rw [List.append_assoc, List.cons_append, List.append_assoc, List.cons_append, getlines_cons hmajor, getlines_cons hminor]
  rfl

theorem getlines_core_self : getlines '.' [] v.core = [v.major, v.minor, v.patch] := by
  have h := getlines_core v []
  rw [List.append_nil, List.append_nil,
    getlines_last (not_mem_of_numeric v.patch_numeric (by decide)) (numeric_ne_nil v.patch_numeric)] at h
  exact h

theorem text_ne_nil : v.text ≠ [] := by
  unfold Version.text Version.core
  simp [numeric_ne_nil v.major_numeric]

/-- The slots that a text with a given base and prerelease is read as. -/
theorem slots_of_parts {version : Str} (base preRel : Str) (hne : version ≠ [])
    (hbase : (match strFindChar version '-', strFindChar version '+' with
      | some p1, _ => version.take p1
      | none, some p2 => version.take p2
      | none, none => version) = base)
    (hpre : (match strFindChar version '-', strFindChar version '+' with
      | some p1, some p2 =>
        if p1 < p2 then (version.drop (p1 + 1)).take (p2 - p1 - 1) else version.drop (p1 + 1)
      | some p1, none => version.drop (p1 + 1)
      | none, _ => []) = preRel) :
    versionSlots version =
      .main ((getlines '.' [] base).getD 0 []) :: .main ((getlines '.' [] base).getD 1 []) ::
        .main ((getlines '.' [] base).getD 2 []) ::
          if getlines '.' [] preRel = [] then [.release] else (getlines '.' [] preRel).map .pre := by
  have hread : SemVer.ofString version = _ := if_neg hne
  subst hbase hpre
  exact congrArg SemVer.slots hread

theorem versionSlots_text (h : ¬ v.Misread) : versionSlots v.text = v.slots := by
  have hminus : '-' ∉ v.core := not_mem_core v (by decide) (by decide)
  have hplus : '+' ∉ v.core := not_mem_core v (by decide) (by decide)
  have hpre : ∀ s ∈ v.prerelease, '.' ∉ s ∧ s ≠ [] :=
    fun s hs => ⟨not_mem_of_identifier (v.prerelease_identifiers s hs) (by decide), (v.prerelease_identifiers s hs).1⟩
  have hplus' : '+' ∉ dotted v.prerelease :=
    not_mem_dotted (by decide) fun s hs => not_mem_of_identifier (v.prerelease_identifiers s hs) (by decide)
  have hread : ∀ preRel, getlines '.' [] preRel = v.prerelease →
      (Slot.main ((getlines '.' [] v.core).getD 0 []) :: .main ((getlines '.' [] v.core).getD 1 []) ::
        .main ((getlines '.' [] v.core).getD 2 []) ::
          if getlines '.' [] preRel = [] then [.release] else (getlines '.' [] preRel).map .pre) = v.slots := by
    intro preRel hlines
    rw [hlines, getlines_core_self]
    rfl
  have hne := text_ne_nil v
  unfold Version.Misread at h
  unfold Version.text at hne ⊢
  by_cases hnone : v.prerelease = []
  · rw [if_pos hnone] at hne ⊢
    rw [List.nil_append] at hne ⊢
    have hbuild : '-' ∉ v.buildText := fun hmem => h ⟨hnone, hmem⟩
    have hpos1 : strFindChar (v.core ++ v.buildText) '-' = none := strFindChar_eq_none (by simp [hminus, hbuild])
    refine (slots_of_parts v.core [] hne ?_ ?_).trans (hread [] (by rw [hnone]; rfl))
    · rw [hpos1]
      unfold Version.buildText
      by_cases hempty : v.build = []
      · rw [if_pos hempty, List.append_nil, strFindChar_eq_none hplus]
      · rw [if_neg hempty, strFindChar_append hplus]
        simp
    · rw [hpos1]
  · rw [if_neg hnone] at hne ⊢
    have hpos1 : strFindChar (v.core ++ ('-' :: dotted v.prerelease ++ v.buildText)) '-' = some v.core.length :=
      strFindChar_append hminus _
    refine (slots_of_parts v.core (dotted v.prerelease) hne ?_ ?_).trans (hread _ (getlines_dotted hpre))
    · rw [hpos1]
      simp
    · rw [hpos1]
      unfold Version.buildText
      by_cases hempty : v.build = []
      · rw [if_pos hempty, List.append_nil, strFindChar_eq_none (by simp [hplus, hplus'])]
        simp
      · rw [if_neg hempty, ← List.append_assoc, strFindChar_append (by simp [hplus, hplus'])]
        simp

/-- What is read of a version whose build is taken for a prerelease. -/
theorem versionSlots_misread (h : v.Misread) : ∃ patch rest,
    versionSlots v.text = .main v.major :: .main v.minor :: .main patch :: rest ∧ isAlnumOrEmpty patch = false := by
  have hminus : '-' ∉ v.core := not_mem_core v (by decide) (by decide)
  have hdot : '.' ∉ v.patch := not_mem_of_numeric v.patch_numeric (by decide)
  have hne := text_ne_nil v
  obtain ⟨hnone, hmem⟩ := h
  unfold Version.text at hne ⊢
  rw [if_pos hnone, List.nil_append] at hne ⊢
  unfold Version.buildText at hne hmem ⊢
  split at hmem
  · exact absurd hmem List.not_mem_nil
  next hbuild =>
  rw [if_neg hbuild] at hne ⊢
  obtain ⟨front, back, hsplit, hfront⟩ := List.eq_append_cons_of_mem (by simpa using hmem : '-' ∈ dotted v.build)
  have htext : v.core ++ '+' :: dotted v.build = (v.core ++ '+' :: front) ++ '-' :: back := by
    rw [hsplit]
    simp
  have hpos1 : strFindChar (v.core ++ '+' :: dotted v.build) '-' = some (v.core ++ '+' :: front).length := by
    rw [htext]
    exact strFindChar_append (by simp [hminus, hfront]) back
  have hread := slots_of_parts (v.core ++ '+' :: front) _ hne (by rw [hpos1, htext]; exact List.take_left) rfl
  rw [getlines_core] at hread
  refine ⟨_, _, hread, ?_⟩
  -- The `+` is part of the third line.
  show isAlnumOrEmpty ((getlines '.' [] (v.patch ++ '+' :: front)).getD 0 []) = false
  rw [getlines_head, List.reverse_nil, List.nil_append,
    List.takeWhile_append_of_pos fun c hc => by simpa using fun heq : c = '.' => hdot (heq ▸ hc)]
  unfold isAlnumOrEmpty
  simp

end Parsing

/-! ## Places -/

/-- A place of a version; `misread` where the code reads something else there. -/
structure Place where
  slot : Slot
  misread : Bool := false

/-- What `Compare` makes of two places. -/
def Place.compare (x y : Place) : Option Int := if x.misread || y.misread then some 1 else x.slot.compare y.slot

def Version.places (v : Version) : List Place :=
  ⟨.main v.major, false⟩ :: ⟨.main v.minor, false⟩ :: ⟨.main v.patch, decide v.Misread⟩ ::
    (if v.prerelease = [] then [.release] else v.prerelease.map .pre).map fun slot => ⟨slot, false⟩

/-- One of two different identifiers has a character other than a letter or a digit. -/
def Slot.Rejected : Slot → Slot → Prop
  | .main a, .main b => isAlnumOrEmpty a = false ∨ isAlnumOrEmpty b = false
  | .pre a, .pre b => a ≠ b ∧ (isAlnumOrEmpty a = false ∨ isAlnumOrEmpty b = false)
  | _, _ => False

instance (x y : Slot) : Decidable (x.Rejected y) :=
  match x, y with
  | .main a, .main b => inferInstanceAs (Decidable (isAlnumOrEmpty a = false ∨ isAlnumOrEmpty b = false))
  | .pre a, .pre b => inferInstanceAs (Decidable (a ≠ b ∧ (isAlnumOrEmpty a = false ∨ isAlnumOrEmpty b = false)))
  | .main _, .pre _ | .main _, .release | .pre _, .main _ | .pre _, .release | .release, .main _ | .release, .pre _
  | .release, .release => inferInstanceAs (Decidable False)

/-- The answer is 1 whatever stands there. -/
def Place.Rejected (x y : Place) : Prop := x.misread = true ∨ y.misread = true ∨ x.slot.Rejected y.slot

instance (x y : Place) : Decidable (x.Rejected y) := inferInstanceAs (Decidable (_ ∨ _ ∨ _))

def Place.rank (x : Place) : ℕ ×ₗ ℕ ×ₗ ℕ ×ₗ Str := x.slot.rank

/-- `Compare` keeps the precedence of two lists of places: where its answer is 1 whatever stands there, the left version
has to be above; elsewhere it has to be able to compare the two up to the first place that differs. -/
def Kept : List Place → List Place → Prop
  | x :: xs, y :: ys =>
    if x.Rejected y then (y :: ys).map Place.rank < (x :: xs).map Place.rank
    else x.slot.Comparable y.slot ∧ (x.rank = y.rank → Kept xs ys)
  | _, _ => True

def KeepsPrecedence (v w : Version) : Prop := v.text = w.text ∨ Kept v.places w.places

section Places

variable {a b : Str}

theorem alnum_of_numeric (h : isNumeric a = true) : isAlnumOrEmpty a = true := by
  have hall := List.all_eq_true.mp (Bool.and_eq_true_iff.mp h).2
  refine List.all_eq_true.mpr fun c hc => ?_
  have := hall c hc
  simp only [Bool.not_eq_true', Bool.or_eq_false_iff, decide_eq_false_iff_not, not_lt] at this
  simp [this]

theorem Slot.compare_of_rejected {x y : Slot} (h : x.Rejected y) : x.compare y = some 1 := by
  cases x with
  | main a =>
    cases y with
    | main b => exact compareIdentifiers_of_rejected h
    | _ => exact h.elim
  | pre a =>
    cases y with
    | pre b => exact (if_neg h.1).trans (compareIdentifiers_of_rejected h.2)
    | _ => exact h.elim
  | release => cases y <;> exact h.elim

/-- Where no identifier is rejected and the two cannot be compared, one of them is no `int`. -/
theorem Slot.compare_of_overflow {x y : Slot} (hrejected : ¬ x.Rejected y) (h : ¬ x.Comparable y) : x.compare y = none := by
  have halnum : ∀ {a b : Str}, ¬ (isAlnumOrEmpty a = false ∨ isAlnumOrEmpty b = false) →
      isAlnumOrEmpty a = true ∧ isAlnumOrEmpty b = true := by
    intro a b hnot
    simpa using hnot
  cases x with
  | main a =>
    cases y with
    | main b =>
      obtain ⟨ha, hb⟩ := halnum hrejected
      exact compareIdentifiers_of_overflow h ha hb
    | _ => exact absurd trivial h
  | pre a =>
    cases y with
    | pre b =>
      obtain ⟨hne, hnot⟩ := not_or.mp h
      obtain ⟨ha, hb⟩ := halnum fun hone => hrejected ⟨hne, hone⟩
      exact (if_neg hne).trans (compareIdentifiers_of_overflow hnot ha hb)
    | _ => exact absurd trivial h
  | release => cases y <;> exact absurd trivial h

theorem Place.compare_of_rejected {x y : Place} (h : x.Rejected y) : x.compare y = some 1 := by
  unfold Place.compare
  split
  · rfl
  next hread =>
  rw [Bool.or_eq_true, not_or] at hread
  exact Slot.compare_of_rejected ((h.resolve_left hread.1).resolve_left hread.2)

theorem Place.compare_of_read {x y : Place} (h : ¬ x.Rejected y) : x.compare y = x.slot.compare y.slot := by
  refine if_neg fun hmisread => h ?_
  rcases Bool.or_eq_true_iff.mp hmisread with hx | hy
  · exact .inl hx
  · exact .inr (.inl hy)

theorem kept_iff (xs ys : List Place) :
    lex Place.compare xs ys = some (cmpSign (xs.map Place.rank) (ys.map Place.rank)) ↔ Kept xs ys := by
  induction xs generalizing ys with
  | nil =>
    cases ys with
    | nil => simp [lex, Kept, cmpSign_self]
    | cons y ys => simp [lex, Kept, cmpSign_of_lt]
  | cons x xs ih =>
    cases ys with
    | nil => simp [lex, Kept, cmpSign_of_gt]
    | cons y ys =>
      unfold Kept
      by_cases hrejected : x.Rejected y
      · rw [if_pos hrejected, lex_cons_of_some (Place.compare_of_rejected hrejected) one_ne_zero, Option.some_inj, eq_comm]
        exact cmpSign_eq_one_iff
      rw [if_neg hrejected]
      have hcompare := Place.compare_of_read hrejected
      by_cases hcomparable : x.slot.Comparable y.slot
      swap
      · rw [Slot.compare_of_overflow (fun h => hrejected (.inr (.inr h))) hcomparable] at hcompare
        rw [lex_cons_of_none hcompare]
        simp [hcomparable]
      rw [Slot.compare_of_comparable hcomparable] at hcompare
      rw [List.map_cons, List.map_cons, cmpSign_cons]
      by_cases hrank : x.rank = y.rank
      · have hzero : cmpSign x.slot.rank y.slot.rank = 0 := cmpSign_eq_zero_iff.mpr hrank
        rw [hzero] at hcompare
        rw [lex_cons_of_zero hcompare, if_pos hrank, ih]
        simp [hcomparable, hrank]
      · have hne : cmpSign x.slot.rank y.slot.rank ≠ 0 := fun h0 => hrank (cmpSign_eq_zero_iff.mp h0)
        rw [lex_cons_of_some hcompare hne, if_neg hrank]
        exact iff_of_true rfl ⟨hcomparable, fun heq => absurd heq hrank⟩

end Places

/-! ## Versions -/

section Versions

variable (v w : Version)

theorem places_rank : v.places.map Place.rank = v.rank := by
  unfold Version.places Version.rank Version.slots
  simp [Place.rank]

/-- How the text of a version is read. -/
theorem versionSlots_shape : ∃ patch rest, versionSlots v.text = .main v.major :: .main v.minor :: .main patch :: rest ∧
    (v.Misread → isAlnumOrEmpty patch = false) ∧
    (¬ v.Misread → patch = v.patch ∧ rest = if v.prerelease = [] then [.release] else v.prerelease.map .pre) := by
  by_cases h : v.Misread
  · obtain ⟨patch, rest, hslots, halnum⟩ := versionSlots_misread v h
    exact ⟨patch, rest, hslots, fun _ => halnum, fun hnot => absurd h hnot⟩
  · exact ⟨v.patch, _, versionSlots_text v h, fun hmisread => absurd hmisread h, fun _ => ⟨rfl, rfl⟩⟩

theorem compareVersion_eq_places (h : v.text ≠ w.text) :
    compareVersion v.text w.text = lex Place.compare v.places w.places := by
  obtain ⟨patch, rest, hslots, hmisread, hread⟩ := versionSlots_shape v
  obtain ⟨patch', rest', hslots', hmisread', hread'⟩ := versionSlots_shape w
  rw [compareVersion_eq_lex h, hslots, hslots']
  unfold Version.places
  by_cases hnone : v.Misread ∨ w.Misread
  · -- The patch that is read is rejected and decides, unless one of the first two places has.
    have hrejected : compareIdentifiers patch patch' = some 1 :=
      compareIdentifiers_of_rejected (hnone.imp hmisread hmisread')
    have hmark : (decide v.Misread || decide w.Misread) = true := by simpa using hnone
    simp [lex, Place.compare, Slot.compare, hrejected, hmark]
  · obtain ⟨hv, hw⟩ := not_or.mp hnone
    obtain ⟨rfl, rfl⟩ := hread hv
    obtain ⟨rfl, rfl⟩ := hread' hw
    have hmark : decide v.Misread = false := by simpa using hv
    have hmark' : decide w.Misread = false := by simpa using hw
    rw [hmark, hmark']
    have hmap := lex_map (fun slot => (⟨slot, false⟩ : Place)) Slot.compare Place.compare fun _ _ => rfl
    simp only [lex, Place.compare, Bool.or_self, Bool.false_eq_true, if_false]
    rw [← hmap]

/-- Equal texts have the same precedence. -/
theorem slots_eq_of_text_eq {v w : Version} (h : v.text = w.text) : v.slots = w.slots := by
  obtain ⟨patch, rest, hslots, hmisread, hread⟩ := versionSlots_shape v
  obtain ⟨patch', rest', hslots', hmisread', hread'⟩ := versionSlots_shape w
  rw [h, hslots'] at hslots
  simp only [List.cons.injEq, Slot.main.injEq] at hslots
  obtain ⟨hmajor, hminor, rfl, rfl⟩ := hslots
  have hboth : v.Misread ↔ w.Misread := by
    constructor
    · intro hv
      by_contra hw
      have hnumeric := alnum_of_numeric w.patch_numeric
      rw [← (hread' hw).1, hmisread hv] at hnumeric
      cases hnumeric
    · intro hw
      by_contra hv
      have hnumeric := alnum_of_numeric v.patch_numeric
      rw [← (hread hv).1, hmisread' hw] at hnumeric
      cases hnumeric
  unfold Version.slots
  by_cases hv : v.Misread
  · -- Both have no prerelease, and the texts are the same up to the `+`.
    have hw := hboth.mp hv
    have htext : ∀ u : Version, u.Misread → ∃ build, u.text = u.core ++ '+' :: build := by
      intro u hu
      unfold Version.text Version.buildText
      have hbuild : u.build ≠ [] := by
        intro hempty
        have hmem := hu.2
        unfold Version.buildText at hmem
        rw [if_pos hempty] at hmem
        cases hmem
      rw [if_pos hu.1, if_neg hbuild]
      exact ⟨_, rfl⟩
    obtain ⟨build, hbuild⟩ := htext v hv
    obtain ⟨build', hbuild'⟩ := htext w hw
    rw [hbuild, hbuild'] at h
    have hplus : ∀ u : Version, '+' ∉ u.core := fun u => not_mem_core u (by decide) (by decide)
    have hlength : v.core.length = w.core.length := by
      have hpos := congrArg (strFindChar · '+') h
      simpa [strFindChar_append (hplus v), strFindChar_append (hplus w)] using hpos
    have hlines := congrArg (getlines '.' []) (List.append_inj h hlength).1
    rw [getlines_core_self, getlines_core_self] at hlines
    simp only [List.cons.injEq, and_true] at hlines
    rw [hlines.1, hlines.2.1, hlines.2.2, hv.1, hw.1]
  · have hw : ¬ w.Misread := fun hw => hv (hboth.mpr hw)
    rw [hmajor, hminor, ← (hread hv).1, ← (hread hv).2, ← (hread' hw).1, ← (hread' hw).2]

theorem sign_place_compare (x y : Place) (res : Int) (h : x.compare y = some res) : res.sign = res := by
  have hslot : ∀ {x y : Slot} {res : Int}, x.compare y = some res → res.sign = res := by
    intro x y res h
    by_cases hcomparable : x.Comparable y
    · rw [Slot.compare_of_comparable hcomparable] at h
      rw [← Option.some.inj h]
      exact sign_cmpSign
    · rcases slot_comparator.of_not_fine x y hcomparable with hnone | hone
      · cases hnone.symm.trans h
      · rw [← Option.some.inj (hone.symm.trans h)]
        rfl
  unfold Place.compare at h
  split at h
  · rw [← Option.some.inj h]
    rfl
  · exact hslot h

/-- **The sign of `Compare` is the precedence** of two valid versions just when no place is read wrong that matters. -/
theorem compare_sign_iff : (compareVersion v.text w.text).map Int.sign = some (precedence v w) ↔ KeepsPrecedence v w := by
  unfold KeepsPrecedence
  by_cases h : v.text = w.text
  · have hequal : precedence v w = 0 := by
      unfold precedence Version.rank
      rw [slots_eq_of_text_eq h]
      exact cmpSign_self _
    rw [hequal, h, compareVersion_self]
    simp
  · have hsign : (lex Place.compare v.places w.places).map Int.sign = lex Place.compare v.places w.places := by
      cases hres : lex Place.compare v.places w.places with
      | none => rfl
      | some res => exact congrArg some (sign_lex sign_place_compare hres)
    rw [or_iff_right h, compareVersion_eq_places v w h, hsign, ← kept_iff, places_rank, places_rank]
    rfl

end Versions

/-- `1.0.0-rc-1` -/
def rc1 : Version where
  major := ['1']
  minor := ['0']
  patch := ['0']
  prerelease := [['r', 'c', '-', '1']]
  major_numeric := by decide
  minor_numeric := by decide
  patch_numeric := by decide
  prerelease_identifiers := by decide
  build_identifiers := by decide

/-- `1.0.0-rc-2` -/
def rc2 : Version where
  major := ['1']
  minor := ['0']
  patch := ['0']
  prerelease := [['r', 'c', '-', '2']]
  major_numeric := by decide
  minor_numeric := by decide
  patch_numeric := by decide
  prerelease_identifiers := by decide
  build_identifiers := by decide

theorem compare_sign_not_precedence :
    compareVersion rc1.text rc2.text = some 1 ∧ precedence rc1 rc2 = -1 ∧
      ¬ ∀ v w : Version, (compareVersion v.text w.text).map Int.sign = some (precedence v w) := by
  have hcompare : compareVersion rc1.text rc2.text = some 1 := by decide +kernel
  have hprecedence : precedence rc1 rc2 = -1 := by decide +kernel
  refine ⟨hcompare, hprecedence, fun h => ?_⟩
  have hrc := h rc1 rc2
  rw [hcompare, hprecedence] at hrc
  cases hrc

end BundleFramework
