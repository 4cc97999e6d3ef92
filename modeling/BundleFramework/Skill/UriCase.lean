import BundleFramework.Skill.MatchUri

/-!
# Uris in lower case

`ConvertUriToLower` puts a uri in lower case up to the first `/` after `://`, and the whole of it where there is no
`://`.  The characters that separate the parts of a uri are no letters, so the parts are the same before and after.
-/

namespace BundleFramework

/-! ## Characters -/

/-- A character between the letters, or before or after them. -/
def Char.Neutral (c : Char) : Prop := ¬ (65 ≤ c.toNat ∧ c.toNat ≤ 90) ∧ ¬ (97 ≤ c.toNat ∧ c.toNat ≤ 122)

instance (c : Char) : Decidable (Char.Neutral c) := inferInstanceAs (Decidable (_ ∧ _))

theorem toLower_toNat (c : Char) :
    c.toLower.toNat = if 65 ≤ c.toNat ∧ c.toNat ≤ 90 then c.toNat + 32 else c.toNat := by
  have hrange : (c.val ≥ 'A'.val ∧ c.val ≤ 'Z'.val) ↔ (65 ≤ c.toNat ∧ c.toNat ≤ 90) := by
    simp only [ge_iff_le, UInt32.le_iff_toNat_le]
    rfl
  unfold Char.toLower
  split
  · next h =>
    rw [if_pos (hrange.mp h)]
    show (c.val + ('a'.val - 'A'.val)).toNat = c.val.toNat + 32
    have hbound : c.val.toNat ≤ 90 := (hrange.mp h).2
    have hshift : ('a'.val - 'A'.val).toNat = 32 := by decide
    rw [UInt32.toNat_add]
    omega
  · next h => rw [if_neg fun hletter => h (hrange.mpr hletter)]

theorem toLower_eq_iff {c d : Char} (hd : Char.Neutral d) : c.toLower = d ↔ c = d := by
  have hnat := toLower_toNat c
  unfold Char.Neutral at hd
  constructor
  · rintro rfl
    apply Char.toNat_inj.mp
    split at hnat <;> omega
  · rintro rfl
    apply Char.toNat_inj.mp
    split at hnat <;> omega

theorem toLower_toLower (c : Char) : c.toLower.toLower = c.toLower := by
  apply Char.toNat_inj.mp
  rw [toLower_toNat c.toLower, toLower_toNat c]
  split_ifs <;> omega

/-! ## Finding a text -/

section Find

variable {s pat : Str}

theorem strFind_eq_none (h : ¬ pat <:+: s) : strFind s pat = none := by
  cases hfind : strFind s pat with
  | none => rfl
  | some pos => exact absurd ((strFind_isSome_iff s pat).mp (by rw [hfind]; rfl)) h

/-- The first place at which a text occurs. -/
theorem strFind_eq_some (hpat : pat ≠ []) {pos : Nat} (h : strFind s pat = some pos) :
    ∃ front back, s = front ++ (pat ++ back) ∧ front.length = pos ∧ ¬ pat <:+: front := by
  induction s generalizing pos with
  | nil =>
    unfold strFind at h
    split at h
    · next hbegins => simp [hpat] at hbegins
    · cases h
  | cons c s ih =>
    unfold strFind at h
    split at h
    · next hbegins =>
      obtain ⟨back, hback⟩ := List.isPrefixOf_iff_prefix.mp hbegins
      exact ⟨[], back, hback.symm, Option.some.inj h, by simpa using hpat⟩
    · next hnot =>
      obtain ⟨pos', hpos', rfl⟩ := Option.map_eq_some_iff.mp h
      obtain ⟨front, back, rfl, rfl, hfront⟩ := ih hpos'
      refine ⟨c :: front, back, rfl, rfl, fun hsep => ?_⟩
      rcases List.infix_cons_iff.mp hsep with hbegins | hsep
      · obtain ⟨rest, hrest⟩ := hbegins
        refine hnot (List.isPrefixOf_iff_prefix.mpr ⟨rest ++ (pat ++ back), ?_⟩)
        rw [← List.append_assoc, hrest]
        rfl
      · exact hfront hsep

/-- A separator that does not overlap itself is found where it was put. -/
theorem strFind_scheme {scheme : Str} (h : ¬ schemeSeparator <:+: scheme) (rest : Str) :
    strFind (scheme ++ (schemeSeparator ++ rest)) schemeSeparator = some scheme.length := by
  induction scheme with
  | nil => exact (strFind_eq_zero_iff _ _).mpr ⟨rest, rfl⟩
  | cons c scheme ih =>
    have hrest : ¬ schemeSeparator <:+: scheme := fun hsep => h (List.infix_cons_iff.mpr (.inr hsep))
    have hnot : ¬ schemeSeparator.isPrefixOf (c :: (scheme ++ (schemeSeparator ++ rest))) = true := by
      intro hbegins
      have hbegins := List.isPrefixOf_iff_prefix.mp hbegins
      -- A shorter scheme would need `:` and `/` in one place.
      match scheme, h with
      | [], _ => simp [schemeSeparator] at hbegins
      | [d], _ => simp [schemeSeparator] at hbegins
      | d :: e :: scheme, h =>
        simp only [schemeSeparator] at hbegins h
        refine h (List.IsPrefix.isInfix ?_)
        simpa using hbegins
    rw [List.cons_append, strFind, if_neg hnot, ih hrest]
    rfl

end Find

/-! ## Texts -/

section Lower

@[simp] theorem convertToLower_append (a b : Str) : convertToLower (a ++ b) = convertToLower a ++ convertToLower b :=
  List.map_append

@[simp] theorem length_convertToLower (s : Str) : (convertToLower s).length = s.length := List.length_map _

@[simp] theorem convertToLower_nil : convertToLower [] = [] := rfl

theorem convertToLower_eq_nil {s : Str} : convertToLower s = [] ↔ s = [] := List.map_eq_nil_iff

theorem convertToLower_convertToLower (s : Str) : convertToLower (convertToLower s) = convertToLower s := by
  unfold convertToLower
  rw [List.map_map]
  exact List.map_congr_left fun c _ => toLower_toLower c

theorem mem_convertToLower {c : Char} (hc : Char.Neutral c) {s : Str} : c ∈ convertToLower s ↔ c ∈ s := by
  unfold convertToLower
  rw [List.mem_map]
  constructor
  · rintro ⟨d, hd, heq⟩
    rw [toLower_eq_iff hc] at heq
    rwa [← heq]
  · intro hmem
    exact ⟨c, hmem, (toLower_eq_iff hc).mpr rfl⟩

theorem convertToLower_cons {c : Char} (hc : Char.Neutral c) (s : Str) : convertToLower (c :: s) = c :: convertToLower s := by
  show c.toLower :: convertToLower s = c :: convertToLower s
  rw [(toLower_eq_iff hc).mpr rfl]

/-- A text that is separators in lower case is these separators. -/
theorem convertToLower_eq_iff {t : Str} (ht : ∀ c ∈ t, Char.Neutral c) (s : Str) : convertToLower s = t ↔ s = t := by
  induction t generalizing s with
  | nil => exact convertToLower_eq_nil
  | cons d t ih =>
    cases s with
    | nil => simp
    | cons c s =>
      show c.toLower :: convertToLower s = d :: t ↔ c :: s = d :: t
      rw [List.cons.injEq, List.cons.injEq, toLower_eq_iff (ht d List.mem_cons_self),
        ih fun e he => ht e (List.mem_cons_of_mem _ he)]

theorem schemeSeparator_neutral : ∀ c ∈ schemeSeparator, Char.Neutral c := by
  have heq : schemeSeparator = [':', '/', '/'] := by simp [schemeSeparator]
  intro c hc
  simp only [heq, List.mem_cons, List.not_mem_nil, or_false] at hc
  rcases hc with rfl | rfl | rfl <;> decide

@[simp] theorem convertToLower_schemeSeparator : convertToLower schemeSeparator = schemeSeparator :=
  (convertToLower_eq_iff schemeSeparator_neutral _).mpr rfl

theorem schemeSeparator_infix_lower {s : Str} : schemeSeparator <:+: convertToLower s ↔ schemeSeparator <:+: s := by
  constructor
  · rintro ⟨front, back, hsplit⟩
    obtain ⟨rest, back', rfl, hrest, -⟩ := List.map_eq_append_iff.mp hsplit.symm
    obtain ⟨front', separator, rfl, -, hseparator⟩ := List.map_eq_append_iff.mp hrest
    have hseparator := (convertToLower_eq_iff schemeSeparator_neutral separator).mp hseparator
    rw [hseparator]
    exact ⟨front', back', rfl⟩
  · rintro ⟨front, back, rfl⟩
    simp only [convertToLower_append, convertToLower_schemeSeparator]
    exact ⟨_, _, rfl⟩

/-! ## Uris -/

/-- The text after `://` with what stands before its first `/` in lower case. -/
def lowerAuthority (s : Str) : Str := convertToLower (s.takeWhile (· ≠ '/')) ++ s.dropWhile (· ≠ '/')

theorem slash_neutral : Char.Neutral '/' := by decide

theorem lowerAuthority_of_not_mem {s : Str} (h : '/' ∉ s) : lowerAuthority s = convertToLower s := by
  unfold lowerAuthority
  have hall : ∀ c ∈ s, (decide (c ≠ '/')) = true := fun c hc => by simpa using fun heq : c = '/' => h (heq ▸ hc)
  rw [List.takeWhile_eq_self_iff.mpr hall, List.dropWhile_eq_nil_iff.mpr hall, List.append_nil]

theorem lowerAuthority_append_of_not_mem {a : Str} (h : '/' ∉ a) (b : Str) :
    lowerAuthority (a ++ b) = convertToLower a ++ lowerAuthority b := by
  have hall : ∀ c ∈ a, (decide (c ≠ '/')) = true := fun c hc => by simpa using fun heq : c = '/' => h (heq ▸ hc)
  unfold lowerAuthority
  rw [List.takeWhile_append_of_pos hall, List.dropWhile_append_of_pos hall, convertToLower_append, List.append_assoc]

theorem lowerAuthority_slash (s : Str) : lowerAuthority ('/' :: s) = '/' :: s := by
  simp [lowerAuthority]

theorem lowerAuthority_cons {c : Char} (hc : c ≠ '/') (s : Str) : lowerAuthority (c :: s) = c.toLower :: lowerAuthority s := by
  have hnot : '/' ∉ [c] := by simpa using fun heq => hc heq.symm
  exact lowerAuthority_append_of_not_mem hnot s

/-- From a `/` on nothing changes. -/
theorem lowerAuthority_append_slash (a b : Str) : lowerAuthority (a ++ '/' :: b) = lowerAuthority a ++ '/' :: b := by
  induction a with
  | nil => exact lowerAuthority_slash b
  | cons c a ih =>
    by_cases hc : c = '/'
    · subst hc
      rw [List.cons_append, lowerAuthority_slash, lowerAuthority_slash]
      rfl
    · rw [List.cons_append, lowerAuthority_cons hc, lowerAuthority_cons hc, ih]
      rfl

@[simp] theorem length_lowerAuthority (s : Str) : (lowerAuthority s).length = s.length := by
  unfold lowerAuthority
  rw [List.length_append, length_convertToLower, ← List.length_append, List.takeWhile_append_dropWhile]

theorem convertToLower_lowerAuthority (s : Str) : convertToLower (lowerAuthority s) = convertToLower s := by
  unfold lowerAuthority
  rw [convertToLower_append, convertToLower_convertToLower, ← convertToLower_append, List.takeWhile_append_dropWhile]

theorem convertUriToLower_of_none {u : Str} (h : ¬ schemeSeparator <:+: u) : convertUriToLower u = convertToLower u := by
  unfold convertUriToLower
  rw [strFind_eq_none h]

/-- Taking and dropping up to the first occurrence of a character. -/
theorem strFind_char (d : Char) (s : Str) : (strFind s [d] = none ∧ d ∉ s) ∨
    ∃ pos, strFind s [d] = some pos ∧ s.take pos = s.takeWhile (· ≠ d) ∧ s.drop pos = s.dropWhile (· ≠ d) := by
  cases hfind : strFind s [d] with
  | none =>
    refine .inl ⟨rfl, fun hmem => ?_⟩
    obtain ⟨front, back, rfl⟩ := List.append_of_mem hmem
    have hsome := (strFind_isSome_iff (front ++ d :: back) [d]).mpr ⟨front, back, by simp⟩
    rw [hfind] at hsome
    cases hsome
  | some pos =>
    obtain ⟨front, back, rfl, rfl, hfront⟩ := strFind_eq_some (by simp) hfind
    have hall : ∀ c ∈ front, (decide (c ≠ d)) = true := by
      intro c hc
      refine decide_eq_true fun heq => hfront ?_
      obtain ⟨left, right, rfl⟩ := List.append_of_mem (heq ▸ hc)
      exact ⟨left, right, by simp⟩
    refine .inr ⟨front.length, rfl, ?_, ?_⟩
    · rw [List.take_left, List.takeWhile_append_of_pos hall]
      simp
    · rw [List.drop_left, List.dropWhile_append_of_pos hall]
      simp

theorem getOptParamUri_eq (u : Str) : getOptParamUri u = u.takeWhile (· ≠ '?') := by
  unfold getOptParamUri
  rcases strFind_char '?' u with ⟨hnone, hnot⟩ | ⟨pos, hpos, htake, -⟩
  · rw [hnone]
    exact (List.takeWhile_eq_self_iff.mpr fun c hc => by simpa using fun heq : c = '?' => hnot (heq ▸ hc)).symm
  · rw [hpos]
    exact htake

theorem convertUriToLower_of_scheme {scheme : Str} (h : ¬ schemeSeparator <:+: scheme) (rest : Str) :
    convertUriToLower (scheme ++ (schemeSeparator ++ rest)) =
      convertToLower scheme ++ (schemeSeparator ++ lowerAuthority rest) := by
  have hlength : schemeSeparator.length = 3 := by simp [schemeSeparator]
  have htake : (scheme ++ (schemeSeparator ++ rest)).take scheme.length = scheme := List.take_left
  have hdrop : (scheme ++ (schemeSeparator ++ rest)).drop (scheme.length + 3) = rest := by
    rw [← List.drop_drop, List.drop_left, ← hlength, List.drop_left]
  unfold convertUriToLower
  rw [strFind_scheme h]
  dsimp only
  split
  · next hend =>
    -- Nothing follows the separator.
    have hrest : rest = [] := by
      apply List.length_eq_zero_iff.mp
      simp only [List.length_append, hlength] at hend
      omega
    subst hrest
    simp [lowerAuthority]
  · rw [htake, hdrop]
    rcases strFind_char '/' rest with ⟨hnone, hslash⟩ | ⟨pos, hpos, htake', hdrop'⟩
    · rw [hnone, lowerAuthority_of_not_mem hslash]
      simp
    · rw [hpos]
      dsimp only
      rw [htake', hdrop']
      unfold lowerAuthority
      simp

/-- The only thing that changes is the case. -/
theorem convertToLower_convertUriToLower (u : Str) : convertToLower (convertUriToLower u) = convertToLower u := by
  by_cases h : schemeSeparator <:+: u
  · obtain ⟨pos, hpos⟩ := Option.isSome_iff_exists.mp ((strFind_isSome_iff u schemeSeparator).mpr h)
    obtain ⟨front, back, rfl, -, hfront⟩ := strFind_eq_some (by simp [schemeSeparator]) hpos
    rw [convertUriToLower_of_scheme hfront]
    simp only [convertToLower_append, convertToLower_convertToLower, convertToLower_schemeSeparator,
      convertToLower_lowerAuthority]
  · rw [convertUriToLower_of_none h, convertToLower_convertToLower]

/-- A uri whose form in lower case has a scheme has this scheme. -/
theorem scheme_of_convertUriToLower {u scheme rest : Str} (hscheme : ¬ schemeSeparator <:+: scheme)
    (h : convertUriToLower u = scheme ++ (schemeSeparator ++ rest)) :
    ∃ scheme' rest', u = scheme' ++ (schemeSeparator ++ rest') ∧ convertToLower scheme' = scheme ∧ lowerAuthority rest' = rest := by
  have hsep : schemeSeparator <:+: u := by
    by_contra hnot
    rw [convertUriToLower_of_none hnot] at h
    refine hnot (schemeSeparator_infix_lower.mp ?_)
    rw [h]
    exact ⟨scheme, rest, by simp⟩
  obtain ⟨pos, hpos⟩ := Option.isSome_iff_exists.mp ((strFind_isSome_iff u schemeSeparator).mpr hsep)
  obtain ⟨front, back, rfl, -, hfront⟩ := strFind_eq_some (by simp [schemeSeparator]) hpos
  rw [convertUriToLower_of_scheme hfront] at h
  -- Both sides are found to have the separator in the same place.
  have hlower : ¬ schemeSeparator <:+: convertToLower front := fun hin => hfront (schemeSeparator_infix_lower.mp hin)
  have hlength : (convertToLower front).length = scheme.length := by
    have hfind := congrArg (strFind · schemeSeparator) h
    simpa [strFind_scheme hlower, strFind_scheme hscheme] using hfind
  obtain ⟨hfronts, hrests⟩ := List.append_inj h hlength
  exact ⟨front, back, rfl, hfronts, List.append_cancel_left hrests⟩

/-- What stands before the first `/` comes from what stood there. -/
theorem split_lowerAuthority {s a rest : Str} (ha : '/' ∉ a) (h : lowerAuthority s = convertToLower a ++ rest) :
    ∃ a' rest', s = a' ++ rest' ∧ convertToLower a' = convertToLower a ∧ lowerAuthority rest' = rest := by
  induction a generalizing s with
  | nil => exact ⟨[], s, rfl, rfl, h⟩
  | cons c a ih =>
    cases s with
    | nil =>
      have hlength := congrArg List.length h
      simp only [length_lowerAuthority, List.length_append, length_convertToLower, List.length_cons, List.length_nil] at hlength
      omega
    | cons d s =>
      have hd : d ≠ '/' := by
        rintro rfl
        rw [lowerAuthority_slash] at h
        have hc : c.toLower = '/' := (List.cons.inj h).1.symm
        exact ha (by rw [(toLower_eq_iff slash_neutral).mp hc]; exact List.mem_cons_self)
      rw [lowerAuthority_cons hd] at h
      obtain ⟨hhead, htail⟩ := List.cons.inj h
      obtain ⟨a', rest', rfl, hlower, hrest⟩ := ih (fun hmem => ha (List.mem_cons_of_mem _ hmem)) htail
      refine ⟨d :: a', rest', rfl, ?_, hrest⟩
      show d.toLower :: convertToLower a' = c.toLower :: convertToLower a
      rw [hlower, hhead]

theorem split_lowerAuthority_slash {s front rest : Str} (h : lowerAuthority s = front ++ '/' :: rest) :
    ∃ front', s = front' ++ '/' :: rest ∧ lowerAuthority front' = front := by
  induction front generalizing s with
  | nil =>
    cases s with
    | nil => cases h
    | cons d s =>
      have hd : d = '/' := by
        by_contra hne
        rw [lowerAuthority_cons hne] at h
        exact hne ((toLower_eq_iff slash_neutral).mp (List.cons.inj h).1)
      subst hd
      rw [lowerAuthority_slash] at h
      exact ⟨[], h, rfl⟩
  | cons c front ih =>
    cases s with
    | nil => cases h
    | cons d s =>
      by_cases hd : d = '/'
      · subst hd
        rw [lowerAuthority_slash] at h
        exact ⟨c :: front, h, by rw [← (List.cons.inj h).1]; exact lowerAuthority_slash front⟩
      · rw [lowerAuthority_cons hd] at h
        obtain ⟨hhead, htail⟩ := List.cons.inj h
        obtain ⟨front', rfl, hfront⟩ := ih htail
        refine ⟨d :: front', rfl, ?_⟩
        rw [lowerAuthority_cons hd, hfront, hhead]

theorem colon_neutral : Char.Neutral ':' := by decide

theorem not_infix_of_not_mem {s : Str} (h : ':' ∉ s) : ¬ schemeSeparator <:+: s := fun hsep =>
  h (hsep.subset (by simp [schemeSeparator]))

/-- The scheme up to a `:` comes from the scheme of the uri. -/
theorem colon_of_convertUriToLower {u scheme rest : Str} (hscheme : ':' ∉ scheme)
    (h : convertUriToLower u = scheme ++ ':' :: rest) :
    ∃ scheme' rest', u = scheme' ++ ':' :: rest' ∧ convertToLower scheme' = scheme := by
  have hlower : ∀ {v w : Str}, convertToLower v = scheme ++ ':' :: w →
      ∃ scheme' rest', v = scheme' ++ ':' :: rest' ∧ convertToLower scheme' = scheme := by
    intro v w hv
    obtain ⟨scheme', back, rfl, hscheme', hback⟩ := List.map_eq_append_iff.mp hv
    obtain ⟨c, rest', rfl, hc, -⟩ := List.map_eq_cons_iff.mp hback
    rw [(toLower_eq_iff colon_neutral).mp hc]
    exact ⟨scheme', rest', rfl, hscheme'⟩
  by_cases hsep : schemeSeparator <:+: u
  · obtain ⟨pos, hpos⟩ := Option.isSome_iff_exists.mp ((strFind_isSome_iff u schemeSeparator).mpr hsep)
    obtain ⟨front, back, rfl, -, hfront⟩ := strFind_eq_some (by simp [schemeSeparator]) hpos
    rw [convertUriToLower_of_scheme hfront] at h
    rcases List.append_eq_append_iff.mp h with ⟨between, hfronts, hrests⟩ | ⟨between, hfronts, hrests⟩
    · -- The separator begins with the first `:`.
      cases between with
      | nil =>
        rw [List.append_nil] at hfronts
        exact ⟨front, ['/', '/'] ++ back, by simp [schemeSeparator], hfronts.symm⟩
      | cons c between =>
        have hc : ':' = c := by
          have hhead := congrArg List.head? hrests
          simpa [schemeSeparator] using hhead
        exact absurd (by rw [hfronts, hc]; simp) hscheme
    · cases between with
      | nil =>
        rw [List.append_nil] at hfronts
        exact ⟨front, ['/', '/'] ++ back, by simp [schemeSeparator], hfronts⟩
      | cons c between =>
        obtain ⟨rfl, -⟩ := List.cons.inj hrests
        obtain ⟨scheme', rest', rfl, hscheme'⟩ := hlower hfronts
        exact ⟨scheme', rest' ++ (schemeSeparator ++ back), by simp, hscheme'⟩
  · rw [convertUriToLower_of_none hsep] at h
    exact hlower h

theorem convertUriToLower_colon {scheme : Str} (hscheme : ':' ∉ scheme) (rest : Str) :
    ∃ rest', convertUriToLower (scheme ++ ':' :: rest) = convertToLower scheme ++ ':' :: rest' := by
  by_cases hsep : schemeSeparator <:+: scheme ++ ':' :: rest
  · obtain ⟨pos, hpos⟩ := Option.isSome_iff_exists.mp ((strFind_isSome_iff _ schemeSeparator).mpr hsep)
    obtain ⟨front, back, hsplit, -, hfront⟩ := strFind_eq_some (by simp [schemeSeparator]) hpos
    rw [hsplit, convertUriToLower_of_scheme hfront]
    rcases List.append_eq_append_iff.mp hsplit with ⟨between, rfl, hrests⟩ | ⟨between, rfl, hrests⟩
    · cases between with
      | nil => exact ⟨['/', '/'] ++ lowerAuthority back, by simp [schemeSeparator]⟩
      | cons c between =>
        obtain ⟨rfl, -⟩ := List.cons.inj hrests
        rw [convertToLower_append, convertToLower_cons colon_neutral]
        exact ⟨convertToLower between ++ (schemeSeparator ++ lowerAuthority back), by simp⟩
    · cases between with
      | nil => exact ⟨['/', '/'] ++ lowerAuthority back, by simp [schemeSeparator]⟩
      | cons c between =>
        have hc : ':' = c := by
          have hhead := congrArg List.head? hrests
          simpa [schemeSeparator] using hhead
        exact absurd (by rw [hc]; simp) hscheme
  · rw [convertUriToLower_of_none hsep, convertToLower_append, convertToLower_cons colon_neutral]
    exact ⟨_, rfl⟩

end Lower

end BundleFramework
