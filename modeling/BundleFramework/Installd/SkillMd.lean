import BundleFramework.Base.Str

/-!
# The metadata of SKILL.md

`InstalldOperator::ParseSkillMd` reads the lines between the first `---` and the next `---` or
`...` of a skill's file, each without the blanks around it, and keeps the first value of `name` and
of `description` that is not empty.  So an indented line counts as one of the top level does:

    result = the first values on any lines before the first one that looks like the end
    result = the values of the top level
      ↔ for each key asked for, the first line that gives it a value or looks like the end is the
        key's own line, or gives what the top level has              (parseSkillMd_reads)

Nothing behind the closing line is read.  The characters of a text stand for its bytes.
-/

namespace BundleFramework.SkillMd

/-! ## Algorithm -/

inductive ErrCode where
  | ERR_APPEXECFWK_INSTALL_FILE_PATH_INVALID
  | ERR_APPEXECFWK_INSTALL_PARSE_FAILED
  deriving DecidableEq

def MAX_SKILL_MD_FILE_SIZE : Int := 64 * 1024 * 1024

def UTF8_BOM : Str := [Char.ofNat 0xEF, Char.ofNat 0xBB, Char.ofNat 0xBF]

def NAME : Str := ['n', 'a', 'm', 'e']

def DESCRIPTION : Str := ['d', 'e', 's', 'c', 'r', 'i', 'p', 't', 'i', 'o', 'n']

def DASHES : Str := ['-', '-', '-']

def DOTS : Str := ['.', '.', '.']

/-- From the first to the last character that is none of these. -/
def trimString (trimChars : List Char) (value : Str) : Str :=
  (value.dropWhile (· ∈ trimChars)).rdropWhile (· ∈ trimChars)

def stripUtf8Bom (value : Str) : Str := if UTF8_BOM.isPrefixOf value then value.drop 3 else value

def stripQuotes (value : Str) : Str :=
  if value.length ≥ 2 ∧ (value.head? = some '"' ∧ value.getLast? = some '"' ∨
      value.head? = some '\'' ∧ value.getLast? = some '\'') then
    (value.drop 1).dropLast
  else value

def lineBlanks : List Char := [' ', '\t', '\r', '\n']

def blanks : List Char := [' ', '\t']

structure MdState where
  frontmatterStarted : Bool
  frontmatterEnded : Bool
  isFirstLine : Bool
  name : Str
  description : Str

def MdState.start : MdState := ⟨false, false, true, [], []⟩

inductive LoopStep where
  | next (s : MdState)
  | stop (s : MdState)
  | fail

/-- What is done with a key and its value. -/
def MdState.assign (s : MdState) (key value : Str) : MdState :=
  if key = NAME ∧ s.name = [] then { s with name := value }
  else if key = DESCRIPTION ∧ s.description = [] then { s with description := value }
  else s

/-- A line with a colon gives a key a value; the loop ends when both are there. -/
def entryStep (s : MdState) (line : Str) : LoopStep :=
  match strFindChar line ':' with
  | none => .next s
  | some colonPos =>
    let key := trimString blanks (line.take colonPos)
    let value := stripQuotes (trimString blanks (line.drop (colonPos + 1)))
    let s := s.assign key value
    if s.name ≠ [] ∧ s.description ≠ [] then .stop s else .next s

def lineStep (s : MdState) (rawLine : Str) : LoopStep :=
  let line := trimString lineBlanks (if s.isFirstLine then stripUtf8Bom rawLine else rawLine)
  let s := { s with isFirstLine := false }
  if line = [] then .next s
  else if !s.frontmatterStarted then
    if line = DASHES then .next { s with frontmatterStarted := true } else .fail
  else if line = DASHES ∨ line = DOTS then .stop { s with frontmatterEnded := true }
  else if line.head? = some '#' then .next s
  else entryStep s line

/-- The loop; none is its early return. -/
def runLines : MdState → List Str → Option MdState
  | s, [] => some s
  | s, line :: lines =>
    match lineStep s line with
    | .next s' => runLines s' lines
    | .stop s' => some s'
    | .fail => none

/-- A file, with what `stat` and opening it give. -/
structure SkillFile where
  st_size : Option Int
  content : Option Str

/-- The name and the description. -/
def parseSkillMd (file : SkillFile) : Except ErrCode (Str × Str) :=
  match file.st_size with
  | none => .error .ERR_APPEXECFWK_INSTALL_FILE_PATH_INVALID
  | some st_size =>
    if st_size > MAX_SKILL_MD_FILE_SIZE then .error .ERR_APPEXECFWK_INSTALL_PARSE_FAILED
    else
      match file.content with
      | none => .error .ERR_APPEXECFWK_INSTALL_FILE_PATH_INVALID
      | some content =>
        match runLines .start (getlines '\n' [] content) with
        | none => .error .ERR_APPEXECFWK_INSTALL_PARSE_FAILED
        | some s =>
          if !s.frontmatterStarted then .error .ERR_APPEXECFWK_INSTALL_PARSE_FAILED
          else if s.name = [] then .error .ERR_APPEXECFWK_INSTALL_PARSE_FAILED
          else .ok (s.name, s.description)

def validateSkillName (skillName : Str) (file : SkillFile) : Bool :=
  match parseSkillMd file with
  | .error _ => false
  | .ok (parsedName, _) => parsedName = skillName

/-! ## Lines of a frontmatter -/

/-- A line looks like the end wherever it is indented. -/
def LooksLikeEnd (line : Str) : Prop := trimString lineBlanks line = DASHES ∨ trimString lineBlanks line = DOTS

instance (line : Str) : Decidable (LooksLikeEnd line) := inferInstanceAs (Decidable (_ ∨ _))

/-- The key and the value that the loop reads on a line. -/
def readEntry (rawLine : Str) : Option (Str × Str) :=
  let line := trimString lineBlanks rawLine
  if line = [] ∨ LooksLikeEnd rawLine ∨ line.head? = some '#' then none
  else (strFindChar line ':').map fun colonPos =>
    (trimString blanks (line.take colonPos), stripQuotes (trimString blanks (line.drop (colonPos + 1))))

def Indented (line : Str) : Prop := line.head?.any (· ∈ lineBlanks) = true

instance (line : Str) : Decidable (Indented line) := inferInstanceAs (Decidable (_ = true))

/-- A mapping's key ends at a colon before a blank or the end of the line. -/
def splitColon : Str → Option (Str × Str)
  | [] => none
  | c :: rest =>
    if c = ':' ∧ rest.head?.all (· ∈ blanks) then some ([], rest)
    else (splitColon rest).map fun e => (c :: e.1, e.2)

/-- The key and the value of a line of the top level. -/
def topEntry (rawLine : Str) : Option (Str × Str) :=
  let line := trimString lineBlanks rawLine
  if Indented rawLine ∨ line.head? = some '#' then none
  else (splitColon line).map fun e => (trimString blanks e.1, stripQuotes (trimString blanks e.2))

/-- What a line says of a key, under one of the two readings. -/
def valueFor (read : Str → Option (Str × Str)) (key line : Str) : Str :=
  match read line with
  | some (k, value) => if k = key then value else []
  | none => []

/-- The first value that is not empty. -/
def firstValue (read : Str → Option (Str × Str)) (key : Str) : List Str → Str
  | [] => []
  | line :: lines => if valueFor read key line ≠ [] then valueFor read key line else firstValue read key lines

def upToEnd (lines : List Str) : List Str := lines.takeWhile fun line => !decide (LooksLikeEnd line)

/-- What the lines say, wherever they are indented. -/
def flatResult (body : List Str) : Except ErrCode (Str × Str) :=
  if firstValue readEntry NAME (upToEnd body) = [] then .error .ERR_APPEXECFWK_INSTALL_PARSE_FAILED
  else .ok (firstValue readEntry NAME (upToEnd body), firstValue readEntry DESCRIPTION (upToEnd body))

/-- What the top level says. -/
def topResult (body : List Str) : Except ErrCode (Str × Str) :=
  if firstValue topEntry NAME body = [] then .error .ERR_APPEXECFWK_INSTALL_PARSE_FAILED
  else .ok (firstValue topEntry NAME body, firstValue topEntry DESCRIPTION body)

/-- A line that gives the key a value in the loop, or looks like the end. -/
def tells (key line : Str) : Bool := decide (LooksLikeEnd line ∨ valueFor readEntry key line ≠ [])

/-- The first such line is the key's own line of the top level, or gives what the top level has. -/
def Undisturbed (key : Str) (body : List Str) : Prop :=
  ∀ line, body.find? (tells key) = some line →
    valueFor topEntry key line ≠ [] ∨ valueFor readEntry key line = firstValue topEntry key body

/-- Lines with a frontmatter that is a block mapping: blank lines, comments, indented lines, and
entries of the top level with different keys. -/
structure Frontmatter where
  before : List Str
  opening : Str
  body : List Str
  closing : Str
  after : List Str
  before_blank : ∀ line ∈ before, trimString lineBlanks line = []
  opening_dashes : trimString lineBlanks opening = DASHES
  block : ∀ line ∈ body, trimString lineBlanks line = [] ∨ (trimString lineBlanks line).head? = some '#' ∨
    Indented line ∨ (topEntry line).isSome
  keys : (body.filterMap topEntry).Pairwise fun a b => a.1 ≠ b.1
  closing_end : ¬ Indented closing ∧ LooksLikeEnd closing

def Frontmatter.lines (f : Frontmatter) : List Str := f.before ++ f.opening :: (f.body ++ f.closing :: f.after)

/-- The lines of a text whose byte order mark, if it has one, is taken off. -/
def linesOf (content : Str) : List Str := (getlines '\n' [] content).modifyHead stripUtf8Bom

/-- The file can be read and is not too large. -/
structure Readable (file : SkillFile) (f : Frontmatter) : Prop where
  st_size : ∃ size, file.st_size = some size ∧ size ≤ MAX_SKILL_MD_FILE_SIZE
  content : ∃ content, file.content = some content ∧ linesOf content = f.lines

/-! ## Two readings of a line -/

theorem mem_trimString {trimChars : List Char} {value : Str} {c : Char} (hc : c ∈ value) (hkeep : c ∉ trimChars) :
    c ∈ trimString trimChars value := by
  have hout : ∀ p : Char → Bool, p c = false → c ∈ (value.dropWhile p).rdropWhile p := by
    intro p hp
    have hdrop : c ∈ value.dropWhile p := by
      rw [← List.takeWhile_append_dropWhile (p := p) (l := value)] at hc
      rcases List.mem_append.mp hc with htake | hdrop
      · exact absurd (List.mem_takeWhile_imp htake) (by rw [hp]; decide)
      · exact hdrop
    have hsplit := List.rdropWhile_append_rtakeWhile (p := p) (l := value.dropWhile p)
    rw [← hsplit] at hdrop
    rcases List.mem_append.mp hdrop with hdrop | htake
    · exact hdrop
    · exact absurd (List.mem_rtakeWhile_imp htake) (by rw [hp]; decide)
  exact hout _ (decide_eq_false hkeep)

theorem splitColon_some {line : Str} {e : Str × Str} (h : splitColon line = some e) : line = e.1 ++ ':' :: e.2 := by
  induction line generalizing e with
  | nil => cases h
  | cons c rest ih =>
    rw [splitColon] at h
    split at h
    · next hc =>
      cases h
      rw [hc.1]
      rfl
    · obtain ⟨e', he', rfl⟩ := Option.map_eq_some_iff.mp h
      rw [ih he']
      rfl

theorem not_looksLikeEnd {line : Str} (h : ':' ∈ trimString lineBlanks line) : ¬ LooksLikeEnd line := by
  rintro (hend | hend)
  · rw [hend] at h
    exact absurd h (by decide)
  · rw [hend] at h
    exact absurd h (by decide)

/-- The first colon ends the key. -/
theorem readEntry_eq {line key value : Str} (hline : trimString lineBlanks line = key ++ ':' :: value) (hcolon : ':' ∉ key)
    (hcomment : (trimString lineBlanks line).head? ≠ some '#') :
    readEntry line = some (trimString blanks key, stripQuotes (trimString blanks value)) := by
  have hmem : ':' ∈ trimString lineBlanks line := by
    rw [hline]
    exact List.mem_append_right _ List.mem_cons_self
  have hentry : ¬ (trimString lineBlanks line = [] ∨ LooksLikeEnd line ∨ (trimString lineBlanks line).head? = some '#') := by
    rintro (hnil | hend | hhash)
    · rw [hnil] at hmem
      cases hmem
    · exact not_looksLikeEnd hmem hend
    · exact hcomment hhash
  have hdrop : (key ++ ':' :: value).drop (key.length + 1) = value := by
    rw [List.drop_append]
    simp
  unfold readEntry
  dsimp only
  rw [if_neg hentry, hline, strFindChar_append hcolon, Option.map_some, List.take_left, hdrop]

theorem valueFor_some {read : Str → Option (Str × Str)} {key line : Str} {e : Str × Str} (h : read line = some e) :
    valueFor read key line = if e.1 = key then e.2 else [] := by
  unfold valueFor
  rw [h]

theorem valueFor_none {read : Str → Option (Str × Str)} {line : Str} (h : read line = none) (key : Str) :
    valueFor read key line = [] := by
  unfold valueFor
  rw [h]

/-- An entry of the top level is read as it is, if its key has no colon. -/
theorem readEntry_of_top {key line : Str} (hkey : ':' ∉ key) (h : valueFor topEntry key line ≠ []) :
    valueFor readEntry key line = valueFor topEntry key line := by
  cases htop : topEntry line with
  | none => exact absurd (valueFor_none htop key) h
  | some entry =>
    rw [valueFor_some htop] at h
    have hk : entry.1 = key := by
      by_contra hne
      exact h (if_neg hne)
    have hsplit := htop
    unfold topEntry at hsplit
    dsimp only at hsplit
    split at hsplit
    · cases hsplit
    · next hplain =>
      rw [not_or] at hplain
      obtain ⟨e, he, rfl⟩ := Option.map_eq_some_iff.mp hsplit
      have hcolon : ':' ∉ e.1 := by
        intro hmem
        have hkept := mem_trimString hmem (show ':' ∉ blanks by decide)
        rw [show trimString blanks e.1 = key from hk] at hkept
        exact hkey hkept
      have hread := readEntry_eq (splitColon_some he) hcolon hplain.2
      rw [valueFor_some hread, valueFor_some htop]

/-! ## The condition -/

theorem valueFor_looksLikeEnd {key line : Str} (h : LooksLikeEnd line) : valueFor readEntry key line = [] := by
  refine valueFor_none ?_ key
  unfold readEntry
  exact if_pos (.inr (.inl h))

theorem upToEnd_nil : upToEnd [] = [] := List.takeWhile_nil

theorem upToEnd_cons_end {line : Str} (h : LooksLikeEnd line) (lines : List Str) : upToEnd (line :: lines) = [] := by
  unfold upToEnd
  rw [List.takeWhile_cons, decide_eq_true h]
  rfl

theorem upToEnd_cons {line : Str} (h : ¬ LooksLikeEnd line) (lines : List Str) :
    upToEnd (line :: lines) = line :: upToEnd lines := by
  unfold upToEnd
  rw [List.takeWhile_cons, decide_eq_false h]
  rfl

variable {key line : Str} {body : List Str}

theorem undisturbed_cons_tells (h : tells key line = true) :
    Undisturbed key (line :: body) ↔
      valueFor topEntry key line ≠ [] ∨ valueFor readEntry key line = firstValue topEntry key (line :: body) := by
  unfold Undisturbed
  rw [List.find?_cons_of_pos h]
  constructor
  · intro hall
    exact hall line rfl
  · rintro hline _ heq
    rw [← Option.some.inj heq]
    exact hline

theorem firstValue_cons_of_not_tells (hkey : ':' ∉ key) (h : ¬ tells key line = true) :
    firstValue topEntry key (line :: body) = firstValue topEntry key body := by
  rw [firstValue, if_neg]
  intro htop
  refine h (decide_eq_true (.inr ?_))
  rw [readEntry_of_top hkey htop]
  exact htop

theorem undisturbed_cons_of_not_tells (hkey : ':' ∉ key) (h : ¬ tells key line = true) :
    Undisturbed key (line :: body) ↔ Undisturbed key body := by
  unfold Undisturbed
  rw [List.find?_cons_of_neg h, firstValue_cons_of_not_tells hkey h]

/-- **One key.** -/
theorem firstValue_eq_iff (hkey : ':' ∉ key) (body : List Str) :
    firstValue readEntry key (upToEnd body) = firstValue topEntry key body ↔ Undisturbed key body := by
  induction body with
  | nil =>
    constructor
    · intro _ line hfind
      cases hfind
    · intro _
      rw [upToEnd_nil, firstValue, firstValue]
  | cons line body ih =>
    by_cases hend : LooksLikeEnd line
    · -- nothing behind the line is read
      have hread : valueFor readEntry key line = [] := valueFor_looksLikeEnd hend
      have htop : ¬ valueFor topEntry key line ≠ [] := fun htop => htop (by rw [← readEntry_of_top hkey htop, hread])
      rw [upToEnd_cons_end hend, undisturbed_cons_tells (decide_eq_true (.inl hend)), or_iff_right htop, hread]
      rfl
    · rw [upToEnd_cons hend, firstValue]
      by_cases hread : valueFor readEntry key line ≠ []
      · rw [if_pos hread, undisturbed_cons_tells (decide_eq_true (.inr hread))]
        constructor
        · exact .inr
        · rintro (htop | hsame)
          · rw [firstValue, if_pos htop]
            exact readEntry_of_top hkey htop
          · exact hsame
      · have hnot : ¬ tells key line = true := fun h => (of_decide_eq_true h).elim hend hread
        rw [if_neg hread, undisturbed_cons_of_not_tells hkey hnot, firstValue_cons_of_not_tells hkey hnot]
        exact ih

/-! ## The loop -/

/-- A name or a description that is set stays. -/
def keep (old found : Str) : Str := if old = [] then found else old

variable {s : MdState}

/-- **One line** of the frontmatter, in terms of the entry that is read on it. -/
theorem lineStep_body (ended : Bool) (name description line : Str) :
    lineStep ⟨true, ended, false, name, description⟩ line =
      if LooksLikeEnd line then .stop ⟨true, true, false, name, description⟩
      else
        match readEntry line with
        | none => .next ⟨true, ended, false, name, description⟩
        | some e =>
          let s := MdState.assign ⟨true, ended, false, name, description⟩ e.1 e.2
          if s.name ≠ [] ∧ s.description ≠ [] then .stop s else .next s := by
  unfold lineStep
  dsimp only [Bool.false_eq_true, if_false, Bool.not_true]
  by_cases hnil : trimString lineBlanks line = []
  · have hend : ¬ LooksLikeEnd line := by
      rintro (hend | hend)
      · rw [hnil] at hend
        cases hend
      · rw [hnil] at hend
        cases hend
    have hread : readEntry line = none := by
      unfold readEntry
      exact if_pos (.inl hnil)
    rw [if_neg hend, hread]
    exact if_pos hnil
  · by_cases hend : LooksLikeEnd line
    · rw [if_pos hend]
      exact (if_neg hnil).trans ((if_neg Bool.false_ne_true).trans (if_pos hend))
    · rw [if_neg hend]
      refine (if_neg hnil).trans ((if_neg Bool.false_ne_true).trans ((if_neg hend).trans ?_))
      by_cases hcomment : (trimString lineBlanks line).head? = some '#'
      · have hread : readEntry line = none := by
          unfold readEntry
          exact if_pos (.inr (.inr hcomment))
        rw [hread]
        exact if_pos hcomment
      · have hread : readEntry line = (strFindChar (trimString lineBlanks line) ':').map fun colonPos =>
            (trimString blanks ((trimString lineBlanks line).take colonPos),
              stripQuotes (trimString blanks ((trimString lineBlanks line).drop (colonPos + 1)))) := by
          unfold readEntry
          exact if_neg (not_or.mpr ⟨hnil, not_or.mpr ⟨hend, hcomment⟩⟩)
        rw [hread]
        refine (if_neg hcomment).trans ?_
        show entryStep _ (trimString lineBlanks line) = _
        unfold entryStep
        cases strFindChar (trimString lineBlanks line) ':' with
        | none => rfl
        | some colonPos => rfl

/-- What the rest of the loop makes of a name or a description. -/
def found (key old : Str) (lines : List Str) : Str := keep old (firstValue readEntry key (upToEnd lines))

theorem keep_nil (old : Str) : keep old [] = old := by
  unfold keep
  split
  · next h => exact h.symm
  · rfl

theorem keep_of_ne {old : Str} (h : old ≠ []) (value : Str) : keep old value = old := if_neg h

theorem keep_of_nil (value : Str) : keep [] value = value := if_pos rfl

theorem found_nil (key old : Str) : found key old [] = old := by
  unfold found
  rw [upToEnd_nil, firstValue, keep_nil]

theorem found_cons_end (h : LooksLikeEnd line) (key old : Str) (lines : List Str) : found key old (line :: lines) = old := by
  unfold found
  rw [upToEnd_cons_end h, firstValue, keep_nil]

theorem found_cons (h : ¬ LooksLikeEnd line) (key old : Str) (lines : List Str) :
    found key old (line :: lines) = found key (keep old (valueFor readEntry key line)) lines := by
  unfold found
  rw [upToEnd_cons h, firstValue]
  by_cases hold : old = []
  · rw [hold, keep_of_nil, keep_of_nil]
    by_cases hvalue : valueFor readEntry key line = []
    · rw [if_neg (not_not.mpr hvalue), hvalue, keep_of_nil]
    · rw [if_pos hvalue, keep_of_ne hvalue]
  · rw [keep_of_ne hold, keep_of_ne hold, keep_of_ne hold]

theorem name_ne_description : NAME ≠ DESCRIPTION := by decide

/-- Each of the two takes the line's value if it had none. -/
theorem assign_eq {e : Str × Str} (h : readEntry line = some e) (ended : Bool) (name description : Str) :
    MdState.assign ⟨true, ended, false, name, description⟩ e.1 e.2 =
      ⟨true, ended, false, keep name (valueFor readEntry NAME line),
        keep description (valueFor readEntry DESCRIPTION line)⟩ := by
  rw [valueFor_some h, valueFor_some h]
  unfold MdState.assign
  dsimp only
  by_cases hname : e.1 = NAME
  · have hother : ¬ e.1 = DESCRIPTION := fun heq => name_ne_description (hname.symm.trans heq)
    rw [if_pos hname, if_neg hother, keep_nil]
    by_cases hold : name = []
    · rw [if_pos ⟨hname, hold⟩, hold, keep_of_nil]
    · rw [if_neg fun h => hold h.2, if_neg fun h => hother h.1, keep_of_ne hold]
  · rw [if_neg fun h => hname h.1, if_neg hname, keep_nil]
    by_cases hdescription : e.1 = DESCRIPTION
    · rw [if_pos hdescription]
      by_cases hold : description = []
      · rw [if_pos ⟨hdescription, hold⟩, hold, keep_of_nil]
      · rw [if_neg fun h => hold h.2, keep_of_ne hold]
    · rw [if_neg fun h => hdescription h.1, if_neg hdescription, keep_nil]

/-- **The loop** over lines of the frontmatter. -/
theorem runLines_body (lines : List Str) {ended : Bool} {name description : Str} (hopen : name = [] ∨ description = []) :
    ∃ ended', runLines ⟨true, ended, false, name, description⟩ lines =
      some ⟨true, ended', false, found NAME name lines, found DESCRIPTION description lines⟩ := by
  induction lines generalizing name description with
  | nil =>
    rw [found_nil, found_nil]
    exact ⟨ended, rfl⟩
  | cons line lines ih =>
    rw [runLines, lineStep_body]
    by_cases hend : LooksLikeEnd line
    · rw [if_pos hend, found_cons_end hend, found_cons_end hend]
      exact ⟨true, rfl⟩
    · rw [if_neg hend, found_cons hend, found_cons hend]
      cases hread : readEntry line with
      | none =>
        rw [valueFor_none hread, valueFor_none hread, keep_nil, keep_nil]
        exact ih hopen
      | some e =>
        dsimp only
        rw [assign_eq hread]
        dsimp only
        by_cases hboth : keep name (valueFor readEntry NAME line) ≠ [] ∧
            keep description (valueFor readEntry DESCRIPTION line) ≠ []
        · -- both are there, and would stay
          rw [if_pos hboth]
          unfold found
          rw [keep_of_ne hboth.1, keep_of_ne hboth.2]
          exact ⟨ended, rfl⟩
        · rw [if_neg hboth]
          refine ih ?_
          by_contra hnot
          rw [not_or] at hnot
          exact hboth hnot

/-- The lines up to the opening one. -/
theorem runLines_open {before : List Str} (hbefore : ∀ line ∈ before, trimString lineBlanks line = [])
    {opening : Str} (hopening : trimString lineBlanks opening = DASHES) (rest : List Str) :
    runLines ⟨false, false, false, [], []⟩ (before ++ opening :: rest) = runLines ⟨true, false, false, [], []⟩ rest := by
  induction before with
  | nil =>
    have hstep : lineStep ⟨false, false, false, [], []⟩ opening = .next ⟨true, false, false, [], []⟩ := by
      have hne : trimString lineBlanks opening ≠ [] := by
        rw [hopening]
        decide
      exact (if_neg hne).trans ((if_pos rfl).trans (if_pos hopening))
    rw [List.nil_append, runLines, hstep]
  | cons line before ih =>
    have hblank := hbefore line List.mem_cons_self
    have hstep : lineStep ⟨false, false, false, [], []⟩ line = .next ⟨false, false, false, [], []⟩ := if_pos hblank
    rw [List.cons_append, runLines, hstep]
    exact ih fun l hl => hbefore l (List.mem_cons_of_mem _ hl)

/-- The byte order mark is looked for on the first line only. -/
theorem runLines_start (lines : List Str) (hne : lines ≠ []) :
    runLines .start lines = runLines ⟨false, false, false, [], []⟩ (lines.modifyHead stripUtf8Bom) := by
  cases lines with
  | nil => exact absurd rfl hne
  | cons line lines =>
    have hstep : lineStep .start line = lineStep ⟨false, false, false, [], []⟩ (stripUtf8Bom line) := rfl
    rw [List.modifyHead_cons, runLines, runLines, hstep]

theorem upToEnd_append {closing : Str} (h : LooksLikeEnd closing) (body after : List Str) :
    upToEnd (body ++ closing :: after) = upToEnd body := by
  induction body with
  | nil => rw [List.nil_append, upToEnd_cons_end h, upToEnd_nil]
  | cons line body ih =>
    rw [List.cons_append]
    by_cases hend : LooksLikeEnd line
    · rw [upToEnd_cons_end hend, upToEnd_cons_end hend]
    · rw [upToEnd_cons hend, upToEnd_cons hend, ih]

variable {file : SkillFile} {f : Frontmatter}

theorem parseSkillMd_eq (h : Readable file f) : parseSkillMd file = flatResult f.body := by
  obtain ⟨size, hsize, hle⟩ := h.st_size
  obtain ⟨content, hcontent, hlines⟩ := h.content
  have hne : getlines '\n' [] content ≠ [] := by
    intro hnil
    unfold linesOf at hlines
    rw [hnil] at hlines
    have hlen := congrArg List.length hlines
    simp [Frontmatter.lines] at hlen
  have hrun : runLines .start (getlines '\n' [] content) =
      runLines ⟨true, false, false, [], []⟩ (f.body ++ f.closing :: f.after) := by
    rw [runLines_start _ hne]
    show runLines _ (linesOf content) = _
    rw [hlines]
    exact runLines_open f.before_blank f.opening_dashes _
  obtain ⟨ended, hbody⟩ := @runLines_body (f.body ++ f.closing :: f.after) false [] [] (.inl rfl)
  unfold found at hbody
  rw [upToEnd_append f.closing_end.2, keep_of_nil, keep_of_nil] at hbody
  unfold parseSkillMd flatResult
  rw [hsize, hcontent]
  dsimp only
  rw [if_neg (not_lt.mpr hle), hrun, hbody]
  rfl

theorem validateSkillName_iff (h : Readable file f) (skillName : Str) :
    validateSkillName skillName file = true ↔ skillName ≠ [] ∧ firstValue readEntry NAME (upToEnd f.body) = skillName := by
  unfold validateSkillName
  rw [parseSkillMd_eq h]
  unfold flatResult
  by_cases hname : firstValue readEntry NAME (upToEnd f.body) = []
  · rw [if_pos hname, hname]
    dsimp only
    constructor
    · intro hfalse
      cases hfalse
    · rintro ⟨hne, heq⟩
      exact absurd heq.symm hne
  · rw [if_neg hname]
    dsimp only
    rw [decide_eq_true_iff]
    constructor
    · intro heq
      exact ⟨heq ▸ hname, heq⟩
    · rintro ⟨-, heq⟩
      exact heq

theorem result_eq_iff (a b c d : Str) :
    ((if a = [] then .error .ERR_APPEXECFWK_INSTALL_PARSE_FAILED else .ok (a, b) : Except ErrCode (Str × Str)) =
      if c = [] then .error .ERR_APPEXECFWK_INSTALL_PARSE_FAILED else .ok (c, d)) ↔ a = c ∧ (c ≠ [] → b = d) := by
  by_cases ha : a = []
  · by_cases hc : c = []
    · rw [if_pos ha, if_pos hc, ha, hc]
      exact iff_of_true rfl ⟨rfl, fun hne => absurd rfl hne⟩
    · rw [if_pos ha, if_neg hc, ha]
      refine iff_of_false (fun h => nomatch h) ?_
      rintro ⟨heq, -⟩
      exact hc heq.symm
  · by_cases hc : c = []
    · rw [if_neg ha, if_pos hc]
      refine iff_of_false (fun h => nomatch h) ?_
      rintro ⟨heq, -⟩
      exact ha (heq.trans hc)
    · rw [if_neg ha, if_neg hc, Except.ok.injEq, Prod.mk.injEq]
      exact and_congr_right fun _ => ⟨fun h _ => h, fun h => h hc⟩

/-- **What is read of a SKILL.md.**  Of every readable file with a frontmatter: the first values on any lines, indented
or not, up to the first one that looks like the end; and so what the top level has, just when no
other line gives the name, or the description of a file with a name, before. -/
theorem parseSkillMd_reads (file : SkillFile) (f : Frontmatter) (h : Readable file f) :
    parseSkillMd file = flatResult f.body ∧
    (parseSkillMd file = topResult f.body ↔
      Undisturbed NAME f.body ∧ (firstValue topEntry NAME f.body ≠ [] → Undisturbed DESCRIPTION f.body)) := by
  refine ⟨parseSkillMd_eq h, ?_⟩
  rw [parseSkillMd_eq h, ← firstValue_eq_iff (by decide), ← firstValue_eq_iff (by decide)]
  exact result_eq_iff _ _ _ _

/-- The file that the parser gives as an example, with a mapping in it. -/
def plainFrontmatter : Frontmatter where
  before := []
  opening := DASHES
  body := ["# skill metadata".toList, "author:".toList, "  mail: a@b.c".toList, "name: \"my-skill\"".toList,
    "description: 'my skill description'".toList]
  closing := DOTS
  after := []
  before_blank := by decide +kernel
  opening_dashes := by decide +kernel
  block := by decide +kernel
  keys := by decide +kernel
  closing_end := by decide +kernel

def plainFile : SkillFile where
  st_size := some 103
  content := some (UTF8_BOM ++
    "---\n# skill metadata\nauthor:\n  mail: a@b.c\nname: \"my-skill\"\ndescription: 'my skill description'\n...\n".toList)

theorem plainFile_readable : Readable plainFile plainFrontmatter :=
  ⟨⟨103, rfl, by decide⟩, ⟨_, rfl, by decide +kernel⟩⟩

theorem parseSkillMd_reads_plain :
    parseSkillMd plainFile = flatResult plainFrontmatter.body ∧
    (parseSkillMd plainFile = topResult plainFrontmatter.body ↔
      Undisturbed NAME plainFrontmatter.body ∧
        (firstValue topEntry NAME plainFrontmatter.body ≠ [] → Undisturbed DESCRIPTION plainFrontmatter.body)) :=
  parseSkillMd_reads plainFile plainFrontmatter plainFile_readable

/-- A mapping in the mapping has a name, too. -/
def nestedFrontmatter : Frontmatter where
  before := []
  opening := DASHES
  body := ["author:".toList, "  name: someone".toList, "name: my-skill".toList, "description: a skill".toList]
  closing := DASHES
  after := []
  before_blank := by decide +kernel
  opening_dashes := by decide +kernel
  block := by decide +kernel
  keys := by decide +kernel
  closing_end := by decide +kernel

def nestedFile : SkillFile where
  st_size := some 68
  content := some "---\nauthor:\n  name: someone\nname: my-skill\ndescription: a skill\n---\n".toList

/-- **The name of the author** is taken for that of the skill. -/
theorem nested_name_read :
    ¬ (∀ file f, Readable file f → parseSkillMd file = topResult f.body) ∧
    parseSkillMd nestedFile = .ok ("someone".toList, "a skill".toList) ∧
    topResult nestedFrontmatter.body = .ok ("my-skill".toList, "a skill".toList) := by
  have hparse : parseSkillMd nestedFile = .ok ("someone".toList, "a skill".toList) := by decide +kernel
  have htop : topResult nestedFrontmatter.body = .ok ("my-skill".toList, "a skill".toList) := by decide +kernel
  refine ⟨fun h => ?_, hparse, htop⟩
  have hreadable : Readable nestedFile nestedFrontmatter := ⟨⟨68, rfl, by decide⟩, ⟨_, rfl, by decide +kernel⟩⟩
  have hsame := h nestedFile nestedFrontmatter hreadable
  rw [hparse, htop] at hsame
  exact absurd hsame (by decide +kernel)

end BundleFramework.SkillMd
