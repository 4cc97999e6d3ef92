import BundleFramework.Skill.UriCase

/-!
# What a skill uri matches

`MatchUri` compares texts: the uri cut at its `?` and put in lower case up to its path, with texts made of the
fields of the skill.  For a skill without `pathRegex`, whose scheme has no `:` and whose host has no `/`, that is the
same as taking the uri apart (`MatchesUri`).  The port of the skill is not put in lower case, and a skill without a
scheme matches the empty uri only, not one that begins with `?`.
-/

namespace BundleFramework

/-- The port that follows the host: none, or the one of the skill, read in lower case. -/
def SkillUri.PortIs (skillUri : SkillUri) (port : Str) : Prop :=
  if skillUri.port = [] then port = [] else ∃ text, port = ':' :: text ∧ lowerAuthority text = skillUri.port

/-- What follows host and port. -/
def SkillUri.RestIs (skillUri : SkillUri) (rest : Str) : Prop :=
  if skillUri.path = [] ∧ skillUri.pathStartWith = [] then
    rest = [] ∨ (∃ path, rest = '/' :: path) ∨ (skillUri.port = [] ∧ ∃ port, rest = ':' :: port)
  else ∃ path, rest = '/' :: path ∧
    ((skillUri.path ≠ [] ∧ path = skillUri.path) ∨ (skillUri.pathStartWith ≠ [] ∧ skillUri.pathStartWith <+: path))

/-- The uri taken apart. -/
def MatchesUri (skillUri : SkillUri) (uri : Str) : Prop :=
  if skillUri.scheme = [] then uri = []
  else if skillUri.host = [] then ∃ scheme rest, uri.takeWhile (· ≠ '?') = scheme ++ rest ∧
    convertToLower scheme = convertToLower skillUri.scheme ∧ (rest = [] ∨ ∃ text, rest = ':' :: text)
  else ∃ scheme host port rest, uri.takeWhile (· ≠ '?') = scheme ++ (schemeSeparator ++ (host ++ (port ++ rest))) ∧
    convertToLower scheme = convertToLower skillUri.scheme ∧ convertToLower host = convertToLower skillUri.host ∧
    skillUri.PortIs port ∧ skillUri.RestIs rest

/-- A skill uri matches by its parts, and neither the case of scheme and host nor the text after `?` matters. -/
structure UriLaw (env : MatchEnv) (skillUri : SkillUri) : Prop where
  parts : ∀ uri, matchUri env uri skillUri = true ↔ MatchesUri skillUri uri
  skillCase : ∀ uri scheme host, convertToLower scheme = convertToLower skillUri.scheme →
    convertToLower host = convertToLower skillUri.host →
    matchUri env uri { skillUri with scheme := scheme, host := host } = matchUri env uri skillUri
  uriCase : ∀ scheme scheme' host host' rest, ':' ∉ scheme → '/' ∉ host →
    convertToLower scheme = convertToLower scheme' → convertToLower host = convertToLower host' →
    matchUri env (scheme ++ (schemeSeparator ++ (host ++ rest))) skillUri =
      matchUri env (scheme' ++ (schemeSeparator ++ (host' ++ rest))) skillUri
  query : ∀ uri text text', matchUri env (uri ++ '?' :: text) skillUri = matchUri env (uri ++ '?' :: text') skillUri

section Parts

variable {scheme host : Str}

theorem scheme_lower_colon (h : ':' ∉ scheme) : ':' ∉ convertToLower scheme := fun hmem =>
  h ((mem_convertToLower colon_neutral).mp hmem)

/-- The uri in lower case is a text of the skill just when its parts are. -/
theorem convertUriToLower_eq_iff (hscheme : ':' ∉ scheme) (hhost : '/' ∉ host) (u text : Str) :
    convertUriToLower u = convertToLower scheme ++ (schemeSeparator ++ (convertToLower host ++ text)) ↔
      ∃ scheme' host' rest, u = scheme' ++ (schemeSeparator ++ (host' ++ rest)) ∧
        convertToLower scheme' = convertToLower scheme ∧ convertToLower host' = convertToLower host ∧
        lowerAuthority rest = text := by
  constructor
  · intro h
    obtain ⟨scheme', back, rfl, hlower, hback⟩ :=
      scheme_of_convertUriToLower (not_infix_of_not_mem (scheme_lower_colon hscheme)) h
    obtain ⟨host', rest, rfl, hhost', hrest⟩ := split_lowerAuthority hhost hback
    exact ⟨scheme', host', rest, rfl, hlower, hhost', hrest⟩
  · rintro ⟨scheme', host', rest, rfl, hlower, hhost', hrest⟩
    have hcolon : ':' ∉ scheme' := by
      intro hmem
      rw [← mem_convertToLower colon_neutral, hlower] at hmem
      exact scheme_lower_colon hscheme hmem
    have hslash : '/' ∉ host' := by
      intro hmem
      rw [← mem_convertToLower slash_neutral, hhost', mem_convertToLower slash_neutral] at hmem
      exact hhost hmem
    rw [convertUriToLower_of_scheme (not_infix_of_not_mem hcolon), lowerAuthority_append_of_not_mem hslash, hlower, hhost', hrest]

/-- The scheme alone, or with a `:` behind it. -/
theorem scheme_only_iff (hscheme : ':' ∉ scheme) (u : Str) :
    (convertUriToLower u = convertToLower scheme ∨ convertToLower scheme ++ [':'] <+: convertUriToLower u) ↔
      ∃ scheme' rest, u = scheme' ++ rest ∧ convertToLower scheme' = convertToLower scheme ∧
        (rest = [] ∨ ∃ text, rest = ':' :: text) := by
  have hlower := scheme_lower_colon hscheme
  constructor
  · rintro (h | ⟨rest, hrest⟩)
    · have hnone : ¬ schemeSeparator <:+: u := by
        intro hsep
        have hcolon : ':' ∈ u := hsep.subset (by simp [schemeSeparator])
        rw [← mem_convertToLower colon_neutral, ← convertToLower_convertUriToLower, h, mem_convertToLower colon_neutral] at hcolon
        exact hlower hcolon
      rw [convertUriToLower_of_none hnone] at h
      exact ⟨u, [], by simp, h, .inl rfl⟩
    · rw [List.append_assoc] at hrest
      obtain ⟨scheme', rest', rfl, hscheme'⟩ := colon_of_convertUriToLower hlower hrest.symm
      exact ⟨scheme', ':' :: rest', rfl, hscheme', .inr ⟨rest', rfl⟩⟩
  · rintro ⟨scheme', rest, rfl, hscheme', hrest⟩
    have hcolon : ':' ∉ scheme' := by
      intro hmem
      rw [← mem_convertToLower colon_neutral, hscheme'] at hmem
      exact hlower hmem
    rcases hrest with rfl | ⟨text, rfl⟩
    · rw [List.append_nil, convertUriToLower_of_none (not_infix_of_not_mem hcolon), hscheme']
      exact .inl rfl
    · obtain ⟨rest', hrest'⟩ := convertUriToLower_colon hcolon text
      rw [hrest', hscheme']
      exact .inr ⟨rest', by simp⟩

end Parts

section Law

variable {env : MatchEnv} {skillUri : SkillUri}

/-- The text of the skill that host and port make. -/
def SkillUri.portText (skillUri : SkillUri) : Str := if skillUri.port = [] then [] else ':' :: skillUri.port

theorem portIs_iff (port : Str) : skillUri.PortIs port ↔ lowerAuthority port = skillUri.portText := by
  unfold SkillUri.PortIs SkillUri.portText
  split
  · constructor
    · rintro rfl
      rfl
    · intro h
      have hlength := congrArg List.length h
      simpa using hlength
  · constructor
    · rintro ⟨text, rfl, htext⟩
      rw [lowerAuthority_cons (by decide), htext, (toLower_eq_iff colon_neutral).mpr rfl]
    · intro h
      cases port with
      | nil => cases h
      | cons c text =>
        have hc : c ≠ '/' := by
          rintro rfl
          rw [lowerAuthority_slash] at h
          cases h
        rw [lowerAuthority_cons hc] at h
        obtain ⟨hhead, htail⟩ := List.cons.inj h
        rw [(toLower_eq_iff colon_neutral).mp hhead]
        exact ⟨text, rfl, htail⟩

/-- `skillUriString`, with the port: the text that `MatchUri` looks for in a uri. -/
def SkillUri.searchText (skillUri : SkillUri) : Str :=
  convertUriToLower (skillUri.scheme ++ schemeSeparator ++ skillUri.host) ++ skillUri.portText

theorem skillUriString_eq :
    (if !skillUri.port.isEmpty then
        convertUriToLower (skillUri.scheme ++ schemeSeparator ++ skillUri.host) ++ [':'] ++ skillUri.port
      else convertUriToLower (skillUri.scheme ++ schemeSeparator ++ skillUri.host)) = skillUri.searchText := by
  unfold SkillUri.searchText SkillUri.portText
  cases skillUri.port with
  | nil => simp
  | cons c port => simp

theorem searchText_append (hscheme : ':' ∉ skillUri.scheme) (hhost : '/' ∉ skillUri.host) (text : Str) :
    skillUri.searchText ++ text =
      convertToLower skillUri.scheme ++ (schemeSeparator ++ (convertToLower skillUri.host ++ (skillUri.portText ++ text))) := by
  unfold SkillUri.searchText
  rw [List.append_assoc skillUri.scheme, convertUriToLower_of_scheme (not_infix_of_not_mem hscheme),
    lowerAuthority_of_not_mem hhost]
  simp

/-- The uri begins as the skill does, with the end or a `/` behind it. -/
theorem searchText_iff (hscheme : ':' ∉ skillUri.scheme) (hhost : '/' ∉ skillUri.host) (u : Str) {text : Str}
    (htext : text = [] ∨ ∃ path, text = '/' :: path) : convertUriToLower u = skillUri.searchText ++ text ↔
      ∃ scheme host port, u = scheme ++ (schemeSeparator ++ (host ++ (port ++ text))) ∧
        convertToLower scheme = convertToLower skillUri.scheme ∧ convertToLower host = convertToLower skillUri.host ∧
        skillUri.PortIs port := by
  simp only [portIs_iff]
  rw [searchText_append hscheme hhost, convertUriToLower_eq_iff hscheme hhost]
  constructor
  · rintro ⟨scheme, host, rest, rfl, hlower, hhost', hrest⟩
    rcases htext with rfl | ⟨path, rfl⟩
    · rw [List.append_nil] at hrest
      exact ⟨scheme, host, rest, by simp, hlower, hhost', hrest⟩
    · obtain ⟨port, rfl, hport⟩ := split_lowerAuthority_slash hrest
      exact ⟨scheme, host, port, rfl, hlower, hhost', hport⟩
  · rintro ⟨scheme, host, port, rfl, hlower, hhost', hport⟩
    refine ⟨scheme, host, port ++ text, rfl, hlower, hhost', ?_⟩
    rcases htext with rfl | ⟨path, rfl⟩
    · rw [List.append_nil, List.append_nil, hport]
    · rw [lowerAuthority_append_slash, hport]

/-- Without a port, a `:` may follow. -/
theorem searchText_colon_iff (hscheme : ':' ∉ skillUri.scheme) (hhost : '/' ∉ skillUri.host) (hport : skillUri.port = []) (u : Str) :
    (∃ text, convertUriToLower u = skillUri.searchText ++ ':' :: text) ↔
      ∃ scheme host text, u = scheme ++ (schemeSeparator ++ (host ++ ':' :: text)) ∧
        convertToLower scheme = convertToLower skillUri.scheme ∧ convertToLower host = convertToLower skillUri.host := by
  have htext : skillUri.portText = [] := if_pos hport
  simp only [searchText_append hscheme hhost, htext, List.nil_append, convertUriToLower_eq_iff hscheme hhost]
  constructor
  · rintro ⟨text, scheme, host, rest, rfl, hlower, hhost', hrest⟩
    obtain ⟨front, back, rfl, hfront, -⟩ := @split_lowerAuthority _ [':'] _ (by decide) hrest
    have hfront : front = [':'] := (convertToLower_eq_iff (by simpa using colon_neutral) front).mp hfront
    subst hfront
    exact ⟨scheme, host, back, rfl, hlower, hhost'⟩
  · rintro ⟨scheme, host, text, rfl, hlower, hhost'⟩
    refine ⟨lowerAuthority text, scheme, host, ':' :: text, rfl, hlower, hhost', ?_⟩
    rw [lowerAuthority_cons (by decide), (toLower_eq_iff colon_neutral).mpr rfl]

theorem startsWith_iff (s text : Str) : startsWith s text = true ↔ ∃ rest, s = text ++ rest := by
  unfold startsWith
  rw [List.isPrefixOf_iff_prefix]
  exact ⟨fun ⟨rest, h⟩ => ⟨rest, h.symm⟩, fun ⟨rest, h⟩ => ⟨rest, h.symm⟩⟩

/-- What `MatchUri` asks of the text of the uri, for a skill with a host. -/
def SkillUri.TextMatches (skillUri : SkillUri) (u : Str) : Prop :=
  if skillUri.path = [] ∧ skillUri.pathStartWith = [] then
    u = skillUri.searchText ∨ (∃ path, u = skillUri.searchText ++ '/' :: path) ∨
      (skillUri.port = [] ∧ ∃ port, u = skillUri.searchText ++ ':' :: port)
  else (skillUri.path ≠ [] ∧ u = skillUri.searchText ++ '/' :: skillUri.path) ∨
    (skillUri.pathStartWith ≠ [] ∧ ∃ path, u = skillUri.searchText ++ '/' :: (skillUri.pathStartWith ++ path))

theorem matchUri_host_iff (hregex : skillUri.pathRegex = []) (hscheme : skillUri.scheme ≠ []) (hhost : skillUri.host ≠ [])
    {uri : Str} (huri : uri ≠ []) :
    matchUri env uri skillUri = true ↔ skillUri.TextMatches (convertUriToLower (getOptParamUri uri)) := by
  have hempty : skillUri.scheme.isEmpty = false := by simpa using hscheme
  have hempty' : skillUri.host.isEmpty = false := by simpa using hhost
  have hempty'' : uri.isEmpty = false := by simpa using huri
  unfold matchUri
  simp only [hempty, hempty', hempty'', Bool.and_self, Bool.or_self, Bool.false_eq_true, if_false]
  rw [skillUriString_eq]
  generalize convertUriToLower (getOptParamUri uri) = u
  have hstarts : ∀ text, startsWith u (skillUri.searchText ++ text) = true ↔
      ∃ rest, u = skillUri.searchText ++ (text ++ rest) := by
    intro text
    rw [startsWith_iff]
    simp only [List.append_assoc]
  have hslash : startsWith u (skillUri.searchText ++ ['/']) = true ↔ ∃ path, u = skillUri.searchText ++ '/' :: path :=
    hstarts ['/']
  have hcolon : startsWith u (skillUri.searchText ++ [':']) = true ↔ ∃ port, u = skillUri.searchText ++ ':' :: port :=
    hstarts [':']
  have hexact : (u == skillUri.searchText ++ ['/'] ++ skillUri.path) = true ↔ u = skillUri.searchText ++ '/' :: skillUri.path := by
    rw [beq_iff_eq, List.append_assoc, List.singleton_append]
  have hstart : startsWith u (skillUri.searchText ++ ['/'] ++ skillUri.pathStartWith) = true ↔
      ∃ path, u = skillUri.searchText ++ '/' :: (skillUri.pathStartWith ++ path) := by
    rw [List.append_assoc]
    exact hstarts ('/' :: skillUri.pathStartWith)
  unfold SkillUri.TextMatches
  by_cases hpath : skillUri.path = [] ∧ skillUri.pathStartWith = []
  · rw [if_pos (by simp [hpath, hregex]), if_pos hpath]
    by_cases hport : skillUri.port = []
    · rw [if_pos (by simp [hport])]
      simp only [Bool.or_eq_true, beq_iff_eq, hslash, hcolon, hport, true_and, or_assoc]
    · rw [if_neg (by simpa using hport)]
      simp only [Bool.or_eq_true, beq_iff_eq, hslash, hport, false_and, or_false]
  · rw [if_neg (by simpa [hregex] using hpath), if_neg hpath]
    have hnoregex : (!skillUri.pathRegex.isEmpty) = false := by simp [hregex]
    simp only [hnoregex, Bool.false_eq_true, if_false]
    split
    · next h =>
      obtain ⟨hne, heq⟩ := Bool.and_eq_true_iff.mp h
      simp only [true_iff]
      exact .inl ⟨by simpa using hne, hexact.mp heq⟩
    next h =>
    split
    · next h' =>
      obtain ⟨hne, heq⟩ := Bool.and_eq_true_iff.mp h'
      simp only [true_iff]
      exact .inr ⟨by simpa using hne, hstart.mp heq⟩
    next h' =>
    simp only [Bool.false_eq_true, false_iff, not_or, not_and]
    constructor
    · intro hne heq
      exact h (Bool.and_eq_true_iff.mpr ⟨by simpa using hne, hexact.mpr heq⟩)
    · intro hne heq
      exact h' (Bool.and_eq_true_iff.mpr ⟨by simpa using hne, hstart.mpr heq⟩)

theorem textMatches_iff (hscheme : ':' ∉ skillUri.scheme) (hhost : '/' ∉ skillUri.host) (u : Str) :
    skillUri.TextMatches (convertUriToLower u) ↔ ∃ scheme host port rest,
      u = scheme ++ (schemeSeparator ++ (host ++ (port ++ rest))) ∧ convertToLower scheme = convertToLower skillUri.scheme ∧
      convertToLower host = convertToLower skillUri.host ∧ skillUri.PortIs port ∧ skillUri.RestIs rest := by
  have hslash : ∀ path, convertUriToLower u = skillUri.searchText ++ '/' :: path ↔ _ := fun path =>
    searchText_iff hscheme hhost u (.inr ⟨path, rfl⟩)
  unfold SkillUri.TextMatches SkillUri.RestIs
  split
  · have hwhole := searchText_iff hscheme hhost u (.inl rfl)
    rw [List.append_nil] at hwhole
    rw [hwhole]
    constructor
    · rintro (⟨scheme, host, port, heq, h1, h2, h3⟩ | ⟨path, hpath⟩ | ⟨hport, hcolon⟩)
      · exact ⟨scheme, host, port, [], heq, h1, h2, h3, .inl rfl⟩
      · obtain ⟨scheme, host, port, heq, h1, h2, h3⟩ := (hslash path).mp hpath
        exact ⟨scheme, host, port, '/' :: path, heq, h1, h2, h3, .inr (.inl ⟨path, rfl⟩)⟩
      · obtain ⟨scheme, host, text, heq, h1, h2⟩ := (searchText_colon_iff hscheme hhost hport u).mp hcolon
        exact ⟨scheme, host, [], ':' :: text, heq, h1, h2, by unfold SkillUri.PortIs; rw [if_pos hport],
          .inr (.inr ⟨hport, text, rfl⟩)⟩
    · rintro ⟨scheme, host, port, rest, heq, h1, h2, h3, rfl | ⟨path, rfl⟩ | ⟨hport, text, rfl⟩⟩
      · exact .inl ⟨scheme, host, port, heq, h1, h2, h3⟩
      · exact .inr (.inl ⟨path, (hslash path).mpr ⟨scheme, host, port, heq, h1, h2, h3⟩⟩)
      · unfold SkillUri.PortIs at h3
        rw [if_pos hport] at h3
        subst h3
        exact .inr (.inr ⟨hport, (searchText_colon_iff hscheme hhost hport u).mpr ⟨scheme, host, text, heq, h1, h2⟩⟩)
  · constructor
    · rintro (⟨hne, hpath⟩ | ⟨hne, path, hpath⟩)
      · obtain ⟨scheme, host, port, heq, h1, h2, h3⟩ := (hslash _).mp hpath
        exact ⟨scheme, host, port, _, heq, h1, h2, h3, _, rfl, .inl ⟨hne, rfl⟩⟩
      · obtain ⟨scheme, host, port, heq, h1, h2, h3⟩ := (hslash _).mp hpath
        exact ⟨scheme, host, port, _, heq, h1, h2, h3, _, rfl, .inr ⟨hne, path, rfl⟩⟩
    · rintro ⟨scheme, host, port, rest, heq, h1, h2, h3, path, rfl, ⟨hne, rfl⟩ | ⟨hne, text, rfl⟩⟩
      · exact .inl ⟨hne, (hslash _).mpr ⟨scheme, host, port, heq, h1, h2, h3⟩⟩
      · exact .inr ⟨hne, text, (hslash _).mpr ⟨scheme, host, port, heq, h1, h2, h3⟩⟩

/-- `MatchUri` sees of a uri whether it is empty and its form in lower case. -/
theorem matchUri_congr {u u' : Str} (hempty : u.isEmpty = u'.isEmpty)
    (h : convertUriToLower (getOptParamUri u) = convertUriToLower (getOptParamUri u')) :
    matchUri env u skillUri = matchUri env u' skillUri := by
  unfold matchUri
  rw [hempty, h]

theorem isEmpty_of_lower {a b : Str} (h : convertToLower a = convertToLower b) : a.isEmpty = b.isEmpty := by
  have hlength := congrArg List.length h
  simp only [length_convertToLower] at hlength
  cases a <;> cases b <;> simp at hlength ⊢

/-- The case of the skill's scheme and host does not matter. -/
theorem matchUri_skillCase (hscheme : ':' ∉ skillUri.scheme) (hhost : '/' ∉ skillUri.host) {scheme host : Str}
    (hlower : convertToLower scheme = convertToLower skillUri.scheme)
    (hlower' : convertToLower host = convertToLower skillUri.host) (uri : Str) :
    matchUri env uri { skillUri with scheme := scheme, host := host } = matchUri env uri skillUri := by
  have hcolon : ':' ∉ scheme := by
    rw [← mem_convertToLower colon_neutral, hlower]
    exact scheme_lower_colon hscheme
  have hslash : '/' ∉ host := by
    rw [← mem_convertToLower slash_neutral, hlower', mem_convertToLower slash_neutral]
    exact hhost
  have hconvert : convertUriToLower (scheme ++ schemeSeparator ++ host) =
      convertUriToLower (skillUri.scheme ++ schemeSeparator ++ skillUri.host) := by
    rw [List.append_assoc, List.append_assoc, convertUriToLower_of_scheme (not_infix_of_not_mem hcolon),
      convertUriToLower_of_scheme (not_infix_of_not_mem hscheme), lowerAuthority_of_not_mem hslash,
      lowerAuthority_of_not_mem hhost, hlower, hlower']
  unfold matchUri
  dsimp only
  rw [isEmpty_of_lower hlower, isEmpty_of_lower hlower', hlower, hconvert]

theorem question_neutral : Char.Neutral '?' := by decide

theorem lower_takeWhile (s : Str) : convertToLower (s.takeWhile (· ≠ '?')) = (convertToLower s).takeWhile (· ≠ '?') := by
  induction s with
  | nil => rfl
  | cons c s ih =>
    by_cases hc : c = '?'
    · subst hc
      rw [convertToLower_cons question_neutral]
      simp
    · have hlower : c.toLower ≠ '?' := fun heq => hc ((toLower_eq_iff question_neutral).mp heq)
      rw [List.takeWhile_cons_of_pos (by simpa using hc)]
      show c.toLower :: convertToLower _ = (c.toLower :: convertToLower s).takeWhile _
      rw [List.takeWhile_cons_of_pos (by simpa using hlower), ih]

theorem takeWhile_append_of_mem {d : Char} {s : Str} (h : d ∈ s) (t : Str) :
    (s ++ t).takeWhile (· ≠ d) = s.takeWhile (· ≠ d) := by
  induction s with
  | nil => cases h
  | cons c s ih =>
    by_cases hc : c = d
    · simp [hc]
    · have hmem : d ∈ s := by
        rcases List.mem_cons.mp h with heq | hmem
        · exact absurd heq.symm hc
        · exact hmem
      simp only [List.cons_append, List.takeWhile_cons, ih hmem]

theorem takeWhile_append_of_not_mem {d : Char} {s : Str} (h : d ∉ s) (t : Str) :
    (s ++ t).takeWhile (· ≠ d) = s ++ t.takeWhile (· ≠ d) :=
  List.takeWhile_append_of_pos fun c hc => by simpa using fun heq : c = d => h (heq ▸ hc)

/-- The form in lower case of a uri, by the forms of its parts. -/
theorem lower_form (scheme host rest : Str) (hscheme : ':' ∉ scheme) (hhost : '/' ∉ host) :
    convertUriToLower (getOptParamUri (scheme ++ (schemeSeparator ++ (host ++ rest)))) =
      if '?' ∈ convertToLower scheme then (convertToLower scheme).takeWhile (· ≠ '?')
      else if '?' ∈ convertToLower host then
        convertToLower scheme ++ (schemeSeparator ++ (convertToLower host).takeWhile (· ≠ '?'))
      else convertToLower scheme ++ (schemeSeparator ++ (convertToLower host ++ lowerAuthority (rest.takeWhile (· ≠ '?')))) := by
  simp only [mem_convertToLower question_neutral]
  rw [getOptParamUri_eq]
  split
  · next hmem =>
    rw [takeWhile_append_of_mem hmem, convertUriToLower_of_none, lower_takeWhile]
    exact not_infix_of_not_mem fun hcolon => hscheme ((List.takeWhile_subset _) hcolon)
  next hnot =>
  have hseparator : '?' ∉ schemeSeparator := by simp [schemeSeparator]
  rw [takeWhile_append_of_not_mem hnot, takeWhile_append_of_not_mem hseparator,
    convertUriToLower_of_scheme (not_infix_of_not_mem hscheme)]
  split
  · next hmem =>
    rw [takeWhile_append_of_mem hmem, lowerAuthority_of_not_mem, lower_takeWhile]
    exact fun hslash => hhost ((List.takeWhile_subset _) hslash)
  · next hnot' => rw [takeWhile_append_of_not_mem hnot', lowerAuthority_append_of_not_mem hhost]

theorem matchUri_parts (hregex : skillUri.pathRegex = []) (hscheme : ':' ∉ skillUri.scheme) (hhost : '/' ∉ skillUri.host)
    (uri : Str) : matchUri env uri skillUri = true ↔ MatchesUri skillUri uri := by
  unfold MatchesUri
  by_cases hempty : skillUri.scheme = []
  · rw [if_pos hempty]
    unfold matchUri
    cases uri <;> simp [hempty]
  rw [if_neg hempty, ← getOptParamUri_eq]
  have hscheme' : skillUri.scheme.isEmpty = false := by simpa using hempty
  by_cases huri : uri = []
  · -- The parts of an empty uri would be empty.
    subst huri
    have hnone : matchUri env [] skillUri = false := by
      unfold matchUri
      simp [hscheme']
    have hnil : ∀ scheme rest : Str, getOptParamUri [] = scheme ++ rest →
        convertToLower scheme = convertToLower skillUri.scheme → False := by
      intro scheme rest heq hlower
      have hscheme : scheme = [] := (List.append_eq_nil_iff.mp heq.symm).1
      rw [hscheme] at hlower
      exact hempty (convertToLower_eq_nil.mp hlower.symm)
    rw [hnone]
    simp only [Bool.false_eq_true, false_iff]
    split
    · rintro ⟨scheme, rest, heq, hlower, -⟩
      exact hnil scheme rest heq hlower
    · rintro ⟨scheme, host, port, rest, heq, hlower, -⟩
      exact hnil scheme _ heq hlower
  by_cases hhost' : skillUri.host = []
  · rw [if_pos hhost', ← scheme_only_iff hscheme]
    unfold matchUri
    simp [hhost', hscheme', huri, startsWith]
  · rw [if_neg hhost', matchUri_host_iff hregex hempty hhost' huri, textMatches_iff hscheme hhost]

/-- **`MatchUri` goes by the parts of the uri**, whatever the case of scheme and host and whatever follows the `?`. -/
theorem matchUri_law (env : MatchEnv) (skillUri : SkillUri) (hregex : skillUri.pathRegex = []) (hscheme : ':' ∉ skillUri.scheme)
    (hhost : '/' ∉ skillUri.host) : UriLaw env skillUri where
  parts := matchUri_parts hregex hscheme hhost
  skillCase := fun uri _ _ hlower hlower' => matchUri_skillCase hscheme hhost hlower hlower' uri
  uriCase := by
    intro scheme scheme' host host' rest hcolon hslash hlower hlower'
    have hcolon' : ':' ∉ scheme' := by
      rwa [← mem_convertToLower colon_neutral, ← hlower, mem_convertToLower colon_neutral]
    have hslash' : '/' ∉ host' := by
      rwa [← mem_convertToLower slash_neutral, ← hlower', mem_convertToLower slash_neutral]
    refine matchUri_congr ?_ ?_
    · cases scheme <;> cases scheme' <;> rfl
    · rw [lower_form scheme host rest hcolon hslash, lower_form scheme' host' rest hcolon' hslash', hlower, hlower']
  query := by
    intro uri text text'
    refine matchUri_congr (by cases uri <;> rfl) ?_
    have hcut : ∀ t : Str, getOptParamUri (uri ++ '?' :: t) = uri.takeWhile (· ≠ '?') := by
      intro t
      rw [getOptParamUri_eq]
      by_cases hmem : '?' ∈ uri
      · exact takeWhile_append_of_mem hmem _
      · have hwhole := takeWhile_append_of_not_mem hmem []
        rw [List.append_nil] at hwhole
        rw [takeWhile_append_of_not_mem hmem, hwhole]
        simp
    rw [hcut, hcut]

end Law

/-- Neither a type registry nor regular expressions. -/
def plainMatchEnv : MatchEnv where
  udmfEnabled := false
  isUtd := fun _ => none
  getUniformDataTypesByMIMEType := fun _ => none
  getUniformDataTypesByFilenameExtension := fun _ => none
  getTypeDescriptor := fun _ => none
  regexMatch := fun _ _ => none

theorem matchUri_law_of_https : UriLaw plainMatchEnv
    { scheme := "https".toList, host := "a.org".toList, port := "80".toList, pathStartWith := "p".toList } :=
  matchUri_law plainMatchEnv _ rfl (by decide) (by decide)

/-- A uri that is empty up to its `?` is not taken for an empty uri, and a port in upper case is not found again. -/
theorem matchUri_not_by_cut_and_case :
    (getOptParamUri "?a".toList = [] ∧ matchUri plainMatchEnv "?a".toList {} = false) ∧
      matchUri plainMatchEnv "s://h:A".toList { scheme := "s".toList, host := "h".toList, port := "A".toList } = false := by
  decide +kernel

end BundleFramework
