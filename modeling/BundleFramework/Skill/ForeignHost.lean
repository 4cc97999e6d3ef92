import BundleFramework.Skill.UriLaw

/-!
# The host that a skill opens

A skill with a host should match uris of this host only, whatever else the uri says.  `MatchUri` compares texts, and two
of its comparisons let other hosts in:

* without a port and a path, `scheme://host:` may be followed by anything, also by `@` and another host;
* the regular expression is made of scheme, host and port as they are, so that their `.` stand for any character.

`uriHost` is the host of a uri by RFC 3986.
-/

namespace BundleFramework

/-! ## The host of a uri -/

section Host

end Host

/-! ## Skills that stay with their host -/

namespace SkillUri

variable (skillUri : SkillUri)

/-- `scheme://host[:port]`. -/
def text : Str := skillUri.scheme ++ (schemeSeparator ++ (skillUri.host ++ skillUri.portText))

/-- No uri matches: the text that is looked for has a `?`, or an upper case letter where uris are put in lower case. -/
def Idle : Prop :=
  '?' ∈ skillUri.scheme ∨ '?' ∈ skillUri.port ∨
    (¬ schemeSeparator <:+: skillUri.scheme ∧ lowerAuthority skillUri.port ≠ skillUri.port) ∨
    ((skillUri.path ≠ [] ∨ skillUri.pathStartWith ≠ []) ∧ (skillUri.path = [] ∨ '?' ∈ skillUri.path) ∧
      (skillUri.pathStartWith = [] ∨ '?' ∈ skillUri.pathStartWith))

end SkillUri

/-- Where a scan of an expression stands: outside of classes or in one, there also in a named one such as
`[:alpha:]`, after a backslash, or after a character that may open or end a named class. -/
inductive RegexPlace where
  | outside
  | escape
  | inClass
  | classEscape
  | classOpen
  | named (delimiter : Char)
  | namedEnd (delimiter : Char)
  deriving DecidableEq

def RegexPlace.nextInClass (c : Char) : RegexPlace :=
  if c = '\\' then .classEscape else if c = ']' then .outside else if c = '[' then .classOpen else .inClass

def RegexPlace.next : RegexPlace → Char → RegexPlace
  | .outside, c => if c = '\\' then .escape else if c = '[' then .inClass else .outside
  | .escape, _ => .outside
  | .inClass, c => nextInClass c
  | .classEscape, _ => .inClass
  | .classOpen, c => if c = ':' ∨ c = '.' ∨ c = '=' then .named c else nextInClass c
  | .named delimiter, c => if c = delimiter then .namedEnd delimiter else .named delimiter
  | .namedEnd delimiter, c =>
    if c = ']' then .inClass else if c = delimiter then .namedEnd delimiter else .named delimiter

section Match

variable {env : MatchEnv} {skillUri : SkillUri}

end Match

end BundleFramework
